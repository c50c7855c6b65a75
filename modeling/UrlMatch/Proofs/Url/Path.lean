import UrlMatch.Proofs.Percent
import UrlMatch.Proofs.Text
import UrlMatch.Url.Path

/-!
# Settled paths

A path of a special scheme is settled if reading it again changes nothing: it is a sequence of
segments, each behind a slash, that are percent-encoded and do not consist of dots. Reading gives
settled paths. While segments are added the path is open, it ends in the slash behind which the
next segment goes, and what is in front of that slash is settled.

This is about all special schemes but `file`, whose drive letters follow rules of their own.

## Main results

* `settled_parse`: what is read is settled.
* `parse_eq_self`: a settled path is read as itself.
* `Settled.drop`: what is left of a settled path behind its first two characters.
-/

namespace UrlMatch.Url.Path

/-- A character that stays as it is in a segment. -/
def isKeptChar (c : Char) : Bool := !Percent.isEncoded Percent.path c && !isSlash .network c

/-- A segment that is added to a path as it is. -/
structure IsKept (s : Text) : Prop where
  char : ∀ c ∈ s, isKeptChar c
  single : isSingleDot s = false
  double : isDoubleDot s = false

/-- The path of segments, each behind a slash. -/
def ofSegments (segments : List Text) : Text := segments.flatMap ('/' :: ·)

/-- A path that reading does not change. -/
def Settled (path : Text) : Prop :=
  ∃ segments, segments ≠ [] ∧ (∀ s ∈ segments, IsKept s) ∧ path = ofSegments segments

/-- A settled path, or none, and the slash behind which the next segment goes. -/
def Open (path : Text) : Prop :=
  ∃ segments, (∀ s ∈ segments, IsKept s) ∧ path = ofSegments segments ++ ['/']

@[simp] theorem ofSegments_cons (s : Text) (segments : List Text) :
    ofSegments (s :: segments) = '/' :: s ++ ofSegments segments := rfl

@[simp] theorem ofSegments_append (segments segments' : List Text) :
    ofSegments (segments ++ segments') = ofSegments segments ++ ofSegments segments' :=
  List.flatMap_append

theorem isKept_nil : IsKept [] := ⟨by simp, rfl, rfl⟩

theorem isSlash_of_isKeptChar {c : Char} (h : isKeptChar c) : isSlash .network c = false := by
  simp only [isKeptChar, Bool.and_eq_true, Bool.not_eq_true'] at h
  exact h.2

theorem isEncoded_of_isKeptChar {c : Char} (h : isKeptChar c) :
    Percent.isEncoded Percent.path c = false := by
  simp only [isKeptChar, Bool.and_eq_true, Bool.not_eq_true'] at h
  exact h.1

theorem IsKept.notMem_slash {s : Text} (h : IsKept s) : '/' ∉ s := fun hmem =>
  absurd (isSlash_of_isKeptChar (h.char _ hmem)) (by decide)

/-- A settled path consists of slashes and characters that are kept. -/
theorem Settled.mem {path : Text} (h : Settled path) {c : Char} (hc : c ∈ path) :
    c = '/' ∨ isKeptChar c := by
  obtain ⟨segments, -, hsegments, rfl⟩ := h
  obtain ⟨s, hs, hc⟩ := List.mem_flatMap.1 hc
  exact (List.mem_cons.1 hc).imp id fun hc => (hsegments s hs).char c hc

/-- A settled path begins with a slash. -/
theorem Settled.head {path : Text} (h : Settled path) : path.head? = some '/' := by
  obtain ⟨segments, hne, -, rfl⟩ := h
  obtain ⟨s, rest, rfl⟩ := List.exists_cons_of_ne_nil hne
  rfl

theorem Settled.ne_nil {path : Text} (h : Settled path) : path ≠ [] :=
  List.ne_nil_of_mem (List.mem_of_mem_head? h.head)

theorem Open.settled {path : Text} (h : Open path) : Settled path := by
  obtain ⟨segments, hsegments, rfl⟩ := h
  refine ⟨segments ++ [[]], by simp, fun s hs => ?_, by simp [ofSegments]⟩
  rcases List.mem_append.1 hs with hs | hs
  · exact hsegments s hs
  · exact List.mem_singleton.1 hs ▸ isKept_nil

theorem Open.closed {path : Text} (h : Open path) : closed path = path := by
  obtain ⟨segments, -, rfl⟩ := h
  rw [Path.closed, endsInSlash]
  simp

/-! ### Adding segments -/

/-- Only a file keeps a drive letter. -/
theorem dropLast_network (path : Text) : dropLast .network path = (cutLast path).1 := by
  simp [dropLast]

theorem push_network (path s : Text) (slash : Bool) :
    push .network path s slash =
      if isDoubleDot (Percent.encode Percent.path s) then
        if slash then closed (dropLast .network (openLast path))
        else dropLast .network (openLast path)
      else if isSingleDot (Percent.encode Percent.path s) then closed path
      else path ++ Percent.encode Percent.path s ++ if slash then ['/'] else [] := by
  simp [push, isDrive]

theorem extend_plain (path t : Text) : extend .plain path t = pushAll .plain path t := by
  simp [extend]

theorem extend_network (path t : Text) : extend .network path t = pushAll .network path t := by
  simp [extend]

/-- The segments without the last one. A drive letter is not taken back. -/
def takeBack (stack : List Text) : List Text :=
  if stack.getLast?.any isDriveLetter then stack else stack.dropLast

/-- A segment of kept characters begins with a drive letter only if it is one. -/
theorem IsKept.startsWithDrive_eq {s : Text} (h : IsKept s) :
    startsWithDrive s = isDriveLetter s := by
  match s with
  | [] | [_] => rfl
  | [_, _] => simp [startsWithDrive]
  | _ :: _ :: c :: _ =>
      have hkept : isKeptChar c := h.char c (by simp)
      have hsigns : ∀ c ∈ ['/', '\\', '?', '#'], isKeptChar c = false :=
        Text.forall_mem_of_all (by decide)
      have hends : c ∉ ['/', '\\', '?', '#'] := fun hmem => by
        simp [hsigns c hmem] at hkept
      simp only [startsWithDrive, isDriveLetter, List.drop_succ_cons, List.drop_zero,
        List.head?_cons, Option.all_some, hends, decide_false, Bool.and_false]

-- a backslash is kept only where it is no slash
example : parse .plain false "/C:\\x/..".toList = "/C:\\x/".toList := by decide

/-- Taking back the last segment of an open path. -/
theorem dropLast_ofSegments {segments : List Text} (hsegments : ∀ s ∈ segments, IsKept s) :
    dropLast .network (openLast (ofSegments segments ++ ['/'])) =
      ofSegments (takeBack segments) ++ ['/'] := by
  rw [dropLast_network, openLast, takeBack]
  rcases List.eq_nil_or_concat segments with rfl | ⟨init, s, rfl⟩
  · rfl
  · have hs : '/' ∉ s := (hsegments s (by simp)).notMem_slash
    have hpath : ofSegments (init ++ [s]) = ofSegments init ++ '/' :: s := by simp [ofSegments]
    have hcut : cutLast (ofSegments init ++ '/' :: s) = (ofSegments init ++ ['/'], s) := by
      rw [cutLast, Text.cutAfterLast?_append _ hs]
      rfl
    have hall : cutLast (ofSegments init ++ '/' :: s ++ ['/']) =
        (ofSegments init ++ '/' :: s ++ ['/'], []) := by
      rw [cutLast, Text.cutAfterLast?_append _ List.not_mem_nil]
      rfl
    rw [List.concat_eq_append, hpath, List.dropLast_concat, hcut, List.getLast?_concat,
      List.dropLast_concat]
    have hstarts : startsWithDrive s = isDriveLetter s := (hsegments s (by simp)).startsWithDrive_eq
    cases hdrive : isDriveLetter s
    · have hfront : endsInSlash (ofSegments init ++ '/' :: s ++ ['/']) :=
        beq_iff_eq.2 List.getLast?_concat
      rw [if_pos ⟨hfront, by simp, by simp [hstarts, hdrive]⟩, hcut, if_neg (by simp [hdrive])]
    · rw [if_neg (by simp [hstarts, hdrive]), hall, if_pos (by simp [hdrive]), hpath]

theorem isKept_takeBack {segments : List Text} (h : ∀ s ∈ segments, IsKept s) :
    ∀ s ∈ takeBack segments, IsKept s := by
  rw [takeBack]
  split
  · exact h
  · exact fun s hs => h s (List.dropLast_subset _ hs)

/-- Taking back the last segment of an open path leaves an open path. -/
theorem Open.dropLast {path : Text} (h : Open path) :
    Open (dropLast .network (openLast path)) := by
  obtain ⟨segments, hsegments, rfl⟩ := h
  exact ⟨_, isKept_takeBack hsegments, dropLast_ofSegments hsegments⟩

/-- An encoded segment without slashes has kept characters only. -/
theorem isKeptChar_encode {s : Text} (h : ∀ c ∈ s, isSlash .network c = false) :
    ∀ c ∈ Percent.encode Percent.path s, isKeptChar c := by
  intro c hc
  have hencoded := Percent.isEncoded_of_mem_encode (by decide) c hc
  have hslash : isSlash .network c = false := by
    rcases Percent.mem_of_mem_encode hc with hsign | ⟨hmem, -⟩
    · have hsigns : ∀ c ∈ Percent.signs, isSlash .network c = false :=
        Text.forall_mem_of_all (by decide)
      exact hsigns c hsign
    · exact h c hmem
  simp [isKeptChar, hencoded, hslash]

/-- **Adding a segment** to an open path leaves it open if a slash follows, and settled in any
case. -/
theorem Open.push {path s : Text} (h : Open path) (hs : ∀ c ∈ s, isSlash .network c = false)
    (slash : Bool) :
    Settled (push .network path s slash) ∧ (slash → Open (push .network path s slash)) := by
  have hchars := isKeptChar_encode hs
  have hopen {path : Text} (h : Open path) : Settled path ∧ (slash → Open path) :=
    ⟨h.settled, fun _ => h⟩
  rw [push_network]
  split
  · have hdropped := h.dropLast
    split
    · exact hdropped.closed.symm ▸ hopen hdropped
    · exact hopen hdropped
  · split
    · exact h.closed.symm ▸ hopen h
    · rename_i hdouble hsingle
      have hkept : IsKept (Percent.encode Percent.path s) :=
        ⟨hchars, by simpa using hsingle, by simpa using hdouble⟩
      obtain ⟨segments, hsegments, rfl⟩ := h
      have hall : ∀ s' ∈ segments ++ [Percent.encode Percent.path s], IsKept s' := by
        intro s' hs'
        rcases List.mem_append.1 hs' with hs' | hs'
        · exact hsegments s' hs'
        · exact List.mem_singleton.1 hs' ▸ hkept
      cases slash with
      | false => exact ⟨⟨_, by simp, hall, by simp [ofSegments]⟩, nofun⟩
      | true => exact hopen ⟨_, hall, by simp [ofSegments]⟩

/-- **Adding all segments** to an open path settles it, whatever the kind, if adding one does. -/
theorem Open.settled_pushAll {kind : SchemeKind} {path : Text} (h : Open path)
    (hstep : ∀ {path s : Text}, Open path → (∀ c ∈ s, isSlash kind c = false) → ∀ slash,
      Settled (Path.push kind path s slash) ∧ (slash → Open (Path.push kind path s slash)))
    (t : Text) : Settled (Path.pushAll kind path t) := by
  have hall {path : Text} {pieces : List Text} (h : Open path) (hne : pieces ≠ [])
      (hpieces : ∀ piece ∈ pieces, ∀ c ∈ piece, isSlash kind c = false) :
      Settled ((markAllButLast pieces).foldl (fun path s => Path.push kind path s.1 s.2) path) := by
    induction pieces generalizing path with
    | nil => exact absurd rfl hne
    | cons piece pieces ih =>
        obtain ⟨hpiece, hpieces⟩ := List.forall_mem_cons.1 hpieces
        cases pieces with
        | nil => exact (hstep h hpiece false).1
        | cons next pieces => exact ih ((hstep h hpiece true).2 rfl) (by simp) hpieces
  exact hall h (Text.splitBy_ne_nil _ t) fun _ hpiece c hc =>
    (Text.mem_of_mem_splitBy hpiece c hc).2

theorem Open.pushAll {path : Text} (h : Open path) (t : Text) :
    Settled (Path.pushAll .network path t) :=
  h.settled_pushAll Open.push t

/-- The first segment of a text is added before the others. -/
theorem pushAll_append_cons {kind : SchemeKind} {s : Text} {c : Char}
    (hs : ∀ d ∈ s, isSlash kind d = false) (hc : isSlash kind c) (path t : Text) :
    Path.pushAll kind path (s ++ c :: t) = Path.pushAll kind (push kind path s true) t := by
  have hne := Text.splitBy_ne_nil (isSlash kind) t
  rw [Path.pushAll, Path.pushAll, segments, segments, Text.splitBy_append_cons hs hc]
  cases hpieces : Text.splitBy (isSlash kind) t with
  | nil => exact absurd hpieces hne
  | cons piece pieces => rw [markAllButLast, List.foldl_cons]

/-- Segments are added behind the slash that a path begins with. -/
theorem parse_cons (c : Char) (t : Text) :
    parse .network false (c :: t) =
      pushAll .network ['/'] (if isSlash .network c then t else c :: t) := by
  by_cases hc : isSlash .network c <;> simp [parse, SchemeKind.isSpecial, extend_network, hc]

/-- **What is read is settled.** -/
theorem settled_parse (t : Text) : Settled (parse .network false t) := by
  have hroot : Open ['/'] := ⟨[], by simp, rfl⟩
  cases t with
  | nil => exact hroot.settled
  | cons c t =>
      rw [parse_cons]
      exact hroot.pushAll _

/-! ### Reading settled paths -/

/-- A kept segment is added as it is. -/
theorem push_of_isKept {s : Text} (h : IsKept s) (path : Text) (slash : Bool) :
    push .network path s slash = path ++ s ++ if slash then ['/'] else [] := by
  have hencode : Percent.encode Percent.path s = s :=
    Percent.encode_eq_self fun c hc => isEncoded_of_isKeptChar (h.char c hc)
  rw [push_network, hencode, h.double, h.single]
  rfl

theorem foldl_push_of_isKept {segments : List Text} (h : ∀ s ∈ segments, IsKept s) (path : Text) :
    (markAllButLast segments).foldl (fun path s => push .network path s.1 s.2) path =
      path ++ (ofSegments segments).drop 1 := by
  induction segments generalizing path with
  | nil => simp [markAllButLast, ofSegments]
  | cons s segments ih =>
      obtain ⟨hs, hsegments⟩ := List.forall_mem_cons.1 h
      cases segments with
      | nil => simp [markAllButLast, push_of_isKept hs, ofSegments]
      | cons next segments =>
          rw [markAllButLast, List.foldl_cons, ih hsegments, push_of_isKept hs]
          simp [ofSegments]

/-- Segments are found again in their path. -/
theorem splitBy_ofSegments {segments : List Text} (hne : segments ≠ [])
    (h : ∀ s ∈ segments, IsKept s) :
    Text.splitBy (isSlash .network) ((ofSegments segments).drop 1) = segments := by
  induction segments with
  | nil => exact absurd rfl hne
  | cons s segments ih =>
      obtain ⟨hs, hsegments⟩ := List.forall_mem_cons.1 h
      have hslash : ∀ c ∈ s, isSlash .network c = false :=
        fun c hc => isSlash_of_isKeptChar (hs.char c hc)
      cases segments with
      | nil => simpa [ofSegments] using Text.splitBy_eq_singleton hslash
      | cons next segments =>
          have hrest := ih (by simp) hsegments
          have hsplit := Text.splitBy_append_cons hslash (show isSlash .network '/' by decide)
            ((ofSegments (next :: segments)).drop 1)
          rw [hrest] at hsplit
          exact hsplit

/-- **A settled path is read as itself.** -/
theorem parse_eq_self {path : Text} (h : Settled path) : parse .network false path = path := by
  obtain ⟨segments, hne, hsegments, rfl⟩ := h
  obtain ⟨s, rest, rfl⟩ := List.exists_cons_of_ne_nil hne
  have hpush : pushAll .network ['/'] (s ++ ofSegments rest) = ofSegments (s :: rest) := by
    have hsplit := splitBy_ofSegments hne hsegments
    rw [ofSegments_cons, List.cons_append, List.drop_one, List.tail_cons] at hsplit
    rw [pushAll, Path.segments, hsplit, foldl_push_of_isKept hsegments]
    rfl
  rw [ofSegments_cons, List.cons_append, parse_cons, if_pos (by decide)]
  exact hpush

/-- **What is left of a settled path** behind its first two characters: nothing, a settled path, or
a text that makes a settled path behind a segment's first character. -/
theorem Settled.drop {path : Text} (h : Settled path) :
    path.drop 2 = [] ∨ Settled (path.drop 2) ∨
      ((path.drop 2).head? ≠ some '/' ∧ Settled ('/' :: '-' :: path.drop 2)) := by
  have hleft (s : Text) (segments : List Text) (hs : ∀ c ∈ s, isKeptChar c)
      (hsegments : ∀ s ∈ segments, IsKept s) :
      s ++ ofSegments segments = [] ∨ Settled (s ++ ofSegments segments) ∨
        ((s ++ ofSegments segments).head? ≠ some '/' ∧
          Settled ('/' :: '-' :: (s ++ ofSegments segments))) := by
    cases s with
    | nil =>
        by_cases hne : segments = []
        · exact .inl (by simp [hne, ofSegments])
        · exact .inr (.inl ⟨segments, hne, hsegments, rfl⟩)
    | cons c s =>
        have hkept : IsKept ('-' :: c :: s) :=
          ⟨List.forall_mem_cons.2 ⟨by decide, hs⟩, by simp [isSingleDot, stripDot?],
            by simp [isDoubleDot, stripDot?]⟩
        refine .inr (.inr ⟨?_, ('-' :: c :: s) :: segments, by simp,
          List.forall_mem_cons.2 ⟨hkept, hsegments⟩, rfl⟩)
        rintro ⟨⟩
        exact absurd (isSlash_of_isKeptChar (hs '/' List.mem_cons_self)) (by decide)
  obtain ⟨segments, hne, hsegments, rfl⟩ := h
  obtain ⟨s, rest, rfl⟩ := List.exists_cons_of_ne_nil hne
  obtain ⟨hs, hrest⟩ := List.forall_mem_cons.1 hsegments
  cases s with
  | cons c s =>
      have hbehind := hleft s rest (fun d hd => hs.char d (List.mem_cons_of_mem _ hd)) hrest
      simpa [ofSegments] using hbehind
  | nil =>
      cases rest with
      | nil => exact .inl (by simp [ofSegments])
      | cons next rest =>
          obtain ⟨hnext, hrest⟩ := List.forall_mem_cons.1 hrest
          have hbehind := hleft next rest hnext.char hrest
          simpa [ofSegments] using hbehind

end UrlMatch.Url.Path
