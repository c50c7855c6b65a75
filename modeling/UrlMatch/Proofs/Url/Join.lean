import UrlMatch.Proofs.Url.Absolute

/-!
# Joining paths

A relative path goes behind the last slash of the path of a base. Whether it is put there segment by
segment, or as a text that is read as a path as a whole, makes no difference for settled paths.
Under the scheme `file` drive letters and leading slashes follow rules of their own, and where there
are no conventions a text is not read as a path.

## Main results

* `Open.parse_append`: a text behind an open path is read segment by segment.
* `Open.pushAll_file`: without drive letters a file is joined as any other special URL.
* `settled_extend_file`: the path of a file is settled, and begins with a single slash.
* `pushAll_plain_eq_iff`: when joining appends the text, where there are no conventions.
-/

namespace UrlMatch.Url

namespace Path

variable {path folder s t : Text} {c : Char}

/-! ### Behind the last slash -/

/-- **A text behind an open path** is read segment by segment. -/
theorem Open.parse_append (h : Open folder) (t : Text) :
    parse .network false (folder ++ t) = Path.pushAll .network folder t := by
  have hall {segments : List Text} (hsegments : ∀ s ∈ segments, IsKept s) (path : Text) :
      Path.pushAll .network path (segments.flatMap (· ++ ['/']) ++ t) =
        Path.pushAll .network (path ++ segments.flatMap (· ++ ['/'])) t := by
    induction segments generalizing path with
    | nil => simp
    | cons s segments ih =>
        obtain ⟨hs, hsegments⟩ := List.forall_mem_cons.1 hsegments
        have hslash : ∀ c ∈ s, isSlash .network c = false :=
          fun c hc => isSlash_of_isKeptChar (hs.char c hc)
        have hfirst := pushAll_append_cons hslash (show isSlash .network '/' by decide) path
          (segments.flatMap (· ++ ['/']) ++ t)
        rw [push_of_isKept hs, if_pos rfl, ih hsegments] at hfirst
        simpa using hfirst
  have hfolder (segments : List Text) :
      ofSegments segments ++ ['/'] = '/' :: segments.flatMap (· ++ ['/']) := by
    induction segments with
    | nil => rfl
    | cons s segments ih => simp [ih]
  obtain ⟨segments, hsegments, rfl⟩ := h
  rw [hfolder, List.cons_append, parse_cons, if_pos (by decide), hall hsegments]
  rfl

/-- A settled path is an open one and the segment behind its last slash. -/
theorem Settled.exists_cut (h : Settled path) :
    ∃ folder last, Text.cutAfterLast? '/' path = some (folder, last) ∧ Open folder := by
  obtain ⟨segments, hne, hsegments, rfl⟩ := h
  rcases List.eq_nil_or_concat segments with rfl | ⟨init, last, rfl⟩
  · exact absurd rfl hne
  · have hlast : '/' ∉ last := (hsegments last (by simp)).notMem_slash
    refine ⟨ofSegments init ++ ['/'], last, ?_, init, fun s hs => hsegments s (by simp [hs]), rfl⟩
    rw [List.concat_eq_append, ofSegments_append]
    simp [ofSegments, Text.cutAfterLast?_append _ hlast]

/-! ### Plain characters -/

/-- A letter, a digit, an unreserved sign or a slash. -/
def isPlainChar (c : Char) : Bool := c.isAlphanum || c ∈ ['-', '.', '_', '~', '/']

/-- A property of plain characters, looked up for each of them. -/
theorem forall_plainChar {P : Char → Prop}
    (h : ∀ n ∈ List.range 128, isPlainChar (Char.ofNat n) → P (Char.ofNat n))
    (hc : isPlainChar c) : P c := by
  have hlt : c.toNat < 128 := by
    rcases Bool.or_eq_true_iff.1 hc with hname | hsign
    · exact Text.toNat_lt_of_isAlphanum hname
    · have hsigns : ∀ c ∈ ['-', '.', '_', '~', '/'], c.toNat < 128 :=
        Text.forall_mem_of_all (by decide)
      exact hsigns c (of_decide_eq_true hsign)
  exact Text.forall_ascii (fun c => isPlainChar c → P c) h c hlt hc

/-! ### Files -/

/-- A path that ends in a slash has nothing behind it. -/
theorem cutLast_of_endsInSlash (h : endsInSlash path) : cutLast path = (path, []) := by
  obtain ⟨front, rfl⟩ := List.getLast?_eq_some_iff.1 (eq_of_beq h)
  rw [cutLast, Text.cutAfterLast?_append front List.not_mem_nil]
  rfl

/-- Behind a slash there is no drive letter to be kept. -/
theorem dropLast_openLast (h : endsInSlash path) :
    dropLast .file (openLast path) = dropLast .network (openLast path) := by
  have hnormal : isNormalDriveLetter (cutLast (openLast path)).2 = false := by
    rw [openLast]
    split
    · rename_i hfront
      have hstarts : startsWithDrive (cutLast path.dropLast).2 = false := by simpa using hfront.2.2
      generalize (cutLast path.dropLast).2 = last at hstarts
      rw [isNormalDriveLetter.eq_def]
      split <;> simp_all [startsWithDrive, isDriveLetter]
    · rw [cutLast_of_endsInSlash h]
      rfl
  simp [dropLast, hnormal]

theorem Open.endsInSlash (h : Open path) : Path.endsInSlash path := by
  obtain ⟨segments, -, rfl⟩ := h
  rw [Path.endsInSlash, List.getLast?_concat]
  rfl

theorem isDriveLetter_of_isDrive {kind : SchemeKind} (h : isDrive kind path s) :
    isDriveLetter s := by
  simp only [isDrive, Bool.and_eq_true] at h
  exact h.2

/-- A drive letter does not consist of dots. -/
theorem notDots_of_isDriveLetter (h : isDriveLetter s) :
    isDoubleDot s = false ∧ isSingleDot s = false := by
  rw [isDriveLetter.eq_def] at h
  split at h
  · rename_i c d
    have hc : c ≠ '.' ∧ c ≠ '%' := by
      constructor <;> (rintro rfl; exact absurd h (by simp))
    have hstrip : stripDot? [c, d] = none := by
      rw [stripDot?.eq_def]
      split <;> simp_all
    simp [isDoubleDot, isSingleDot, hstrip]
  · cases h

/-- Letters are kept. -/
theorem isKeptChar_of_isAlpha (h : c.isAlpha) : isKeptChar c := by
  have hplain : isPlainChar c := by simp [isPlainChar, Char.isAlphanum, h]
  have hkept : isKeptChar c ∨ c = '/' :=
    forall_plainChar (P := fun c => isKeptChar c ∨ c = '/') (by decide +kernel) hplain
  refine hkept.resolve_right ?_
  rintro rfl
  exact absurd h (by decide)

theorem getLast?_of_isNormalDriveLetter (h : isNormalDriveLetter s) : s.getLast? = some ':' := by
  rw [isNormalDriveLetter.eq_def] at h
  split at h
  · simp_all
  · cases h

/-- A segment of a file is added as to any other special URL, unless it is a drive letter at the
front. -/
theorem Open.push_file (h : Open path) (s : Text) (slash : Bool) :
    Path.push .file path s slash =
      if isDrive .file path (Percent.encode Percent.path s) then
        path ++ normalDrive (Percent.encode Percent.path s) ++ if slash then ['/'] else []
      else Path.push .network path s slash := by
  have hfront : ¬ (SchemeKind.file = .file ∧ s ≠ [] ∧ isNormalDriveLetter (path.drop 1)) := by
    rintro ⟨-, -, hdrive⟩
    have hlast := getLast?_of_isNormalDriveLetter hdrive
    rw [List.getLast?_drop] at hlast
    split at hlast
    · cases hlast
    · rw [eq_of_beq h.endsInSlash] at hlast
      cases hlast
  have hpush : Path.push .file path s slash =
      if isDoubleDot (Percent.encode Percent.path s) then
        if slash then Path.closed (Path.dropLast .network (openLast path))
        else Path.dropLast .network (openLast path)
      else if isSingleDot (Percent.encode Percent.path s) then Path.closed path
      else if isDrive .file path (Percent.encode Percent.path s) then
        path ++ normalDrive (Percent.encode Percent.path s) ++ if slash then ['/'] else []
      else path ++ Percent.encode Percent.path s ++ if slash then ['/'] else [] := by
    rw [Path.push, if_neg hfront, dropLast_openLast h.endsInSlash]
  rw [hpush, push_network]
  by_cases hdrive : isDrive .file path (Percent.encode Percent.path s)
  · simp [notDots_of_isDriveLetter (isDriveLetter_of_isDrive hdrive), hdrive]
  · simp [hdrive]

/-- A drive letter that is written with a colon is kept. -/
theorem isKept_normalDrive (h : isDriveLetter s) : IsKept (normalDrive s) := by
  rw [isDriveLetter.eq_def] at h
  split at h
  · rename_i c d
    have hc : c.isAlpha := by simp_all
    have hdrive : isDriveLetter [c, ':'] := by simp [isDriveLetter, hc]
    obtain ⟨hdouble, hsingle⟩ := notDots_of_isDriveLetter hdrive
    have hchars : ∀ d ∈ [c, ':'], isKeptChar d :=
      List.forall_mem_cons.2 ⟨isKeptChar_of_isAlpha hc, List.forall_mem_singleton.2 (by decide)⟩
    exact ⟨hchars, hsingle, hdouble⟩
  · cases h

/-- **Adding a segment to the path of a file** leaves it open if a slash follows, and settled in any
case. -/
theorem Open.settled_push_file (h : Open path) (hs : ∀ c ∈ s, isSlash .network c = false)
    (slash : Bool) :
    Settled (Path.push .file path s slash) ∧ (slash → Open (Path.push .file path s slash)) := by
  rw [h.push_file]
  split
  · rename_i hdrive
    have hkept := isKept_normalDrive (isDriveLetter_of_isDrive hdrive)
    rw [← push_of_isKept hkept]
    exact h.push (fun c hc => isSlash_of_isKeptChar (hkept.char c hc)) slash
  · exact h.push hs slash

/-- **Without drive letters** a text is added to the path of a file as to any other special URL. -/
theorem Open.pushAll_file (h : Open path)
    (ht : ∀ piece ∈ Text.splitBy (isSlash .network) t,
      isDriveLetter (Percent.encode Percent.path piece) = false) :
    Path.pushAll .file path t = Path.pushAll .network path t := by
  have hall {path : Text} {pieces : List Text} (h : Open path)
      (hpieces : ∀ piece ∈ pieces, (∀ c ∈ piece, isSlash .network c = false) ∧
        isDriveLetter (Percent.encode Percent.path piece) = false) :
      (markAllButLast pieces).foldl (fun path s => Path.push .file path s.1 s.2) path =
        (markAllButLast pieces).foldl (fun path s => Path.push .network path s.1 s.2) path := by
    induction pieces generalizing path with
    | nil => rfl
    | cons piece pieces ih =>
        obtain ⟨⟨hslash, hletter⟩, hpieces⟩ := List.forall_mem_cons.1 hpieces
        have hstep (slash : Bool) :
            Path.push .file path piece slash = Path.push .network path piece slash := by
          rw [h.push_file, if_neg fun hdrive => ?_]
          exact absurd (isDriveLetter_of_isDrive hdrive) (by simp [hletter])
        cases pieces with
        | nil => exact hstep false
        | cons next pieces =>
            simp only [markAllButLast, List.foldl_cons, hstep]
            exact ih ((h.push hslash true).2 rfl) hpieces
  exact hall h fun piece hpiece =>
    ⟨fun c hc => (Text.mem_of_mem_splitBy hpiece c hc).2, ht piece hpiece⟩

/-- Dropping leading slashes but one leaves a settled path settled. -/
theorem Settled.collapse (h : Settled path) : Settled ('/' :: path.dropWhile (· == '/')) := by
  obtain ⟨segments, -, hsegments, rfl⟩ := h
  induction segments with
  | nil => exact ⟨[[]], by simp, List.forall_mem_singleton.2 isKept_nil, rfl⟩
  | cons s segments ih =>
      obtain ⟨hs, hrest⟩ := List.forall_mem_cons.1 hsegments
      cases s with
      | nil => exact ih hrest
      | cons c s =>
          refine ⟨(c :: s) :: segments, by simp, hsegments, ?_⟩
          have hc : c ≠ '/' := by
            rintro rfl
            exact hs.notMem_slash List.mem_cons_self
          simp [hc]

/-- **The path of a file** is settled, and begins with a single slash. -/
theorem settled_extend_file (t : Text) : Settled (extend .file ['/'] t) := by
  have hroot : Open ['/'] := ⟨[], by simp, rfl⟩
  rw [extend, if_pos rfl]
  exact (hroot.settled_pushAll (fun h hs => h.settled_push_file hs) t).collapse

/-- A path stays as it is without its leading slashes but one exactly if there is only one. -/
theorem collapse_eq_self_iff (h : path.head? = some '/') :
    '/' :: path.dropWhile (· == '/') = path ↔ ¬ ['/', '/'] <+: path := by
  obtain ⟨rest, rfl⟩ := List.head?_eq_some_iff.1 h
  have hdropped : ('/' :: rest).dropWhile (· == '/') = rest.dropWhile (· == '/') := rfl
  rw [hdropped, List.cons_inj_right, Text.dropWhile_eq_self_iff, List.cons_prefix_cons]
  cases rest <;> simp [eq_comm]

/-! ### Schemes without conventions -/

/-- The segment stands for nothing, or takes back the one before it. -/
def IsDots (s : Text) : Prop := isDoubleDot s ∨ isSingleDot s

theorem endsInSlash_closed (path : Text) : endsInSlash (closed path) := by
  rw [closed]
  split
  · assumption
  · simp [endsInSlash]

theorem length_closed_le (path : Text) : (closed path).length ≤ path.length + 1 := by
  rw [closed]
  split <;> simp

/-- **Adding a segment** where there are no conventions appends it, unless it consists of dots.
Those make the path shorter. -/
theorem push_plain_cases (hp : endsInSlash path) (hs : Percent.encode Percent.path s = s)
    (slash : Bool) :
    (¬ IsDots s ∧ push .plain path s slash = path ++ s ++ if slash then ['/'] else []) ∨
      (IsDots s ∧ (slash → endsInSlash (push .plain path s slash)) ∧
        (push .plain path s slash).length < (path ++ s ++ if slash then ['/'] else []).length) := by
  have hpush : push .plain path s slash =
      if isDoubleDot s then
        if slash then closed (dropLast .plain (openLast path)) else dropLast .plain (openLast path)
      else if isSingleDot s then closed path
      else path ++ s ++ if slash then ['/'] else [] := by
    simp [push, isDrive, hs]
  have hshorter : (dropLast .plain (openLast path)).length ≤ path.length :=
    ((isPrefix_dropLast _ _).trans (isPrefix_openLast path)).length_le
  have hlength : (path ++ s ++ if slash then ['/'] else []).length =
      path.length + s.length + if slash then 1 else 0 := by
    cases slash <;> simp [Nat.add_assoc]
  have hpos (hdots : IsDots s) : 0 < s.length := by
    refine List.length_pos_iff.2 ?_
    rintro rfl
    exact absurd hdots (by simp [IsDots, isDoubleDot, isSingleDot, stripDot?])
  rw [hpush, hlength]
  by_cases hdouble : isDoubleDot s
  · have hdots : IsDots s := .inl hdouble
    have hs := hpos hdots
    have hclosed := length_closed_le (dropLast .plain (openLast path))
    refine .inr ⟨hdots, fun hslash => ?_, ?_⟩
    · rw [if_pos hdouble, if_pos hslash]
      exact endsInSlash_closed _
    · rw [if_pos hdouble]
      split <;> omega
  · by_cases hsingle : isSingleDot s
    · have hdots : IsDots s := .inr hsingle
      have hs := hpos hdots
      have hclosed : closed path = path := if_pos hp
      rw [if_neg hdouble, if_pos hsingle, hclosed]
      exact .inr ⟨hdots, fun _ => hp, by omega⟩
    · rw [if_neg hdouble, if_neg hsingle]
      exact .inl ⟨not_or.2 ⟨hdouble, hsingle⟩, rfl⟩

/-- Adding segments where there are no conventions joins them behind the path, or makes it shorter
than that if one of them consists of dots. -/
theorem foldl_push_plain_cases {pieces : List Text} (hp : endsInSlash path)
    (hpieces : ∀ s ∈ pieces, Percent.encode Percent.path s = s) :
    let joined := (markAllButLast pieces).foldl (fun path s => push .plain path s.1 s.2) path
    ((∀ s ∈ pieces, ¬ IsDots s) ∧ joined = path ++ Text.join ['/'] pieces) ∨
      ((∃ s ∈ pieces, IsDots s) ∧ joined.length < (path ++ Text.join ['/'] pieces).length) := by
  induction pieces generalizing path with
  | nil => simp [markAllButLast, Text.join]
  | cons s pieces ih =>
      obtain ⟨hs, hpieces⟩ := List.forall_mem_cons.1 hpieces
      cases pieces with
      | nil =>
          rcases push_plain_cases hp hs false with ⟨hdots, hpush⟩ | ⟨hdots, -, hlt⟩
          · exact .inl ⟨by simpa using hdots, by simpa [markAllButLast, Text.join] using hpush⟩
          · exact .inr ⟨by simpa using hdots, by simpa [markAllButLast, Text.join] using hlt⟩
      | cons next pieces =>
          have hjoin : path ++ Text.join ['/'] (s :: next :: pieces) =
              path ++ s ++ ['/'] ++ Text.join ['/'] (next :: pieces) := by
            simp [Text.join]
          rw [hjoin, markAllButLast, List.foldl_cons]
          rcases push_plain_cases hp hs true with ⟨hdots, hpush⟩ | ⟨hdots, hends, hlt⟩
          · have hends : endsInSlash (path ++ s ++ ['/']) := by simp [endsInSlash]
            rw [hpush, if_pos rfl]
            rcases ih hends hpieces with ⟨hrest, heq⟩ | ⟨⟨s', hs', hdots'⟩, hlt⟩
            · exact .inl ⟨List.forall_mem_cons.2 ⟨hdots, hrest⟩, heq⟩
            · exact .inr ⟨⟨s', List.mem_cons_of_mem _ hs', hdots'⟩, hlt⟩
          · refine .inr ⟨⟨s, List.mem_cons_self, hdots⟩, ?_⟩
            rw [if_pos rfl] at hlt
            rw [List.length_append]
            rcases ih (hends rfl) hpieces with ⟨-, heq⟩ | ⟨-, hlt'⟩
            · rw [heq, List.length_append]
              omega
            · rw [List.length_append] at hlt'
              exact Nat.lt_trans hlt' (by omega)

/-- **Adding all segments of a text** where there are no conventions appends the text, unless one of
them consists of dots. -/
theorem pushAll_plain_eq_iff (hp : endsInSlash path)
    (ht : ∀ c ∈ t, Percent.isEncoded Percent.path c = false) :
    pushAll .plain path t = path ++ t ↔ ∀ s ∈ Text.splitBy (· == '/') t, ¬ IsDots s := by
  have hsplit : Text.splitBy (isSlash .plain) t = Text.splitBy (· == '/') t :=
    Text.splitBy_congr fun c _ => by simp [isSlash, SchemeKind.isSpecial]
  have hpieces : ∀ s ∈ Text.splitBy (· == '/') t, Percent.encode Percent.path s = s :=
    fun s hs => Percent.encode_eq_self fun c hc => ht c (Text.mem_of_mem_splitBy hs c hc).1
  have hcases := foldl_push_plain_cases hp hpieces
  rw [Text.join_splitBy] at hcases
  rw [pushAll, segments, hsplit]
  rcases hcases with ⟨hnone, heq⟩ | ⟨⟨s, hs, hdots⟩, hlt⟩
  · exact ⟨fun _ => hnone, fun _ => heq⟩
  · constructor
    · intro heq
      rw [heq] at hlt
      exact absurd hlt (Nat.lt_irrefl _)
    · exact fun hnone => absurd hdots (hnone s hs)

/-- Where nothing is percent-encoded, there is one way to write each segment of dots. -/
theorem isDots_iff (h : '%' ∉ s) : IsDots s ↔ s = ['.'] ∨ s = ['.', '.'] := by
  have hstrip {t rest : Text} (ht : '%' ∉ t) : stripDot? t = some rest ↔ t = '.' :: rest := by
    rw [stripDot?.eq_def]
    split <;> simp_all
  have hsingle : isSingleDot s ↔ s = ['.'] := by
    rw [isSingleDot, beq_iff_eq, hstrip h]
  have hdouble : isDoubleDot s ↔ s = ['.', '.'] := by
    rw [isDoubleDot, beq_iff_eq, Option.bind_eq_some_iff]
    constructor
    · rintro ⟨rest, hfirst, hsecond⟩
      obtain rfl := (hstrip h).1 hfirst
      rw [List.mem_cons, not_or] at h
      rw [(hstrip h.2).1 hsecond]
    · rintro rfl
      exact ⟨['.'], rfl, rfl⟩
  rw [IsDots, hsingle, hdouble, or_comm]

/-! ### The slash that a path begins with -/

/-- The first character stays as long as there is one. -/
theorem head?_of_isPrefix (h : path.head? = some c) (hfront : t <+: path) (hne : t ≠ []) :
    t.head? = some c := by
  obtain ⟨rest, rfl⟩ := hfront
  obtain ⟨d, t, rfl⟩ := List.exists_cons_of_ne_nil hne
  exact h

/-- Taking segments back keeps the slash that a path begins with. -/
theorem head?_dropLast_openLast {kind : SchemeKind} (h : path.head? = some '/') :
    (dropLast kind (openLast path)).head? = some '/' := by
  have hopen : (openLast path).head? = some '/' := by
    refine head?_of_isPrefix h (isPrefix_openLast path) ?_
    rw [openLast]
    split
    · rename_i hfront
      exact List.ne_nil_of_mem hfront.2.1
    · rintro rfl
      cases h
  refine head?_of_isPrefix hopen (isPrefix_dropLast kind _) ?_
  rw [dropLast.eq_def]
  dsimp only
  split
  · intro hnil
    rw [hnil] at hopen
    cases hopen
  · obtain ⟨front, tail, hcut, -⟩ := Text.exists_cutAfterLast? (List.mem_of_mem_head? hopen)
    rw [cutLast, hcut]
    simp

/-- A path that begins with a slash still does when a segment is added. -/
theorem head?_push {kind : SchemeKind} (h : path.head? = some '/') (s : Text) (slash : Bool) :
    (push kind path s slash).head? = some '/' := by
  have happend {path : Text} (h : path.head? = some '/') (t : Text) :
      (path ++ t).head? = some '/' := by
    simp [h]
  have hclosed {path : Text} (h : path.head? = some '/') : (closed path).head? = some '/' := by
    rw [closed]
    split
    · exact h
    · exact happend h _
  rw [push]
  generalize hp : (if kind = .file ∧ s ≠ [] ∧ isNormalDriveLetter (path.drop 1) then path ++ ['/']
    else path) = p
  have hp : p.head? = some '/' := by
    rw [← hp]
    split
    · exact happend h _
    · exact h
  dsimp only
  split
  · have hdropped : (dropLast kind (openLast p)).head? = some '/' := head?_dropLast_openLast hp
    split
    · exact hclosed hdropped
    · exact hdropped
  · split
    · exact hclosed hp
    · split
      · exact happend (happend hp _) _
      · exact happend (happend hp _) _

theorem head?_pushAll {kind : SchemeKind} (h : path.head? = some '/') (t : Text) :
    (pushAll kind path t).head? = some '/' := by
  rw [pushAll]
  generalize segments kind t = pieces
  induction pieces generalizing path with
  | nil => exact h
  | cons piece pieces ih => exact ih (head?_push h _ _)

end Path

/-! ### The paths of URLs -/

variable {u : Url} {t : Text}

/-- The path of a file that is read without a base is settled. -/
theorem settled_of_file (h : parse none t = .ok u) (hkind : u.kind = .file) :
    Path.Settled u.path := by
  obtain ⟨path, hpath⟩ := path_of_parse_file h hkind
  exact hpath ▸ Path.settled_extend_file path

/-- A path where there are no conventions begins with a slash, unless it is empty or opaque. -/
theorem head?_path_of_plain (h : parse none t = .ok u) (hkind : u.kind = .plain)
    (hnotOpaque : u.isOpaque = false) : u.path = [] ∨ u.path.head? = some '/' := by
  refine (path_of_parse_plain h hkind hnotOpaque).imp id ?_
  rintro ⟨path, hpath⟩
  rw [hpath, Path.extend_plain]
  exact Path.head?_pushAll rfl path

end UrlMatch.Url
