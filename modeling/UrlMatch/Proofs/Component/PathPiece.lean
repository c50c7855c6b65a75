import Mathlib.Data.List.Infix
import UrlMatch.Proofs.Component.Encoding
import UrlMatch.Proofs.Url.Join

/-!
# Pieces of paths

A piece of a path is read behind a segment of one sign, which is cut off afterwards. What is left is
what the piece stands for, as long as the piece does not take that segment back: with segments of
two dots it can climb above the place where it begins, and then the cut goes into what it stands for
itself.

## Main results

* `Path.exists_of_grounded`: what stands in front of a text that does not climb stays there.
* `Path.exists_of_not_grounded`: of a text that climbs, and of what stands in front of it, only the
  end of the text is left.
* `Encoding.specialPathname_anchor_iff`: when the segment that is cut off is the one put in front.
-/

namespace UrlMatch

namespace Url.Path

variable {a c : Char} {s t : Text} {segments stack : List Text}

/-! ### Climbing -/

/-- The segment is neither of one dot nor of two: it leads one level down. -/
def isName (s : Text) : Bool := !isDoubleDot s && !isSingleDot s

/-- The segments that are left when one more is read. -/
def follow (stack : List Text) (s : Text) : List Text :=
  if isDoubleDot s then takeBack stack else if isSingleDot s then stack else stack ++ [s]

/-- Read behind others, the segments do not climb above them: nowhere are there more that take one
back than there are to be taken back, but behind a drive letter, which stops them. -/
def Grounded (stack segments : List Text) : Prop :=
  ∀ front ∈ segments.inits, (stack ++ front).any isDriveLetter ∨
    front.countP isDoubleDot ≤ stack.length + front.countP isName

instance (stack segments : List Text) : Decidable (Grounded stack segments) :=
  inferInstanceAs (Decidable (∀ front ∈ segments.inits, _))

theorem grounded_nil (stack : List Text) : Grounded stack [] := by simp [Grounded]

/-- Dots are no drive letter. -/
theorem isDriveLetter_of_dots (h : isDoubleDot s ∨ isSingleDot s) : isDriveLetter s = false := by
  by_contra hletter
  simp [notDots_of_isDriveLetter (by simpa using hletter)] at h

/-- A drive letter is not taken back, wherever it stands. -/
theorem any_isDriveLetter_takeBack (stack : List Text) :
    (takeBack stack).any isDriveLetter = stack.any isDriveLetter := by
  rw [takeBack]
  rcases List.eq_nil_or_concat stack with rfl | ⟨init, last, rfl⟩
  · rfl
  · cases hlast : isDriveLetter last <;> simp [hlast]

/-- A drive letter stays when more segments are read. -/
theorem any_isDriveLetter_follow (stack : List Text) (s : Text) :
    (follow stack s).any isDriveLetter = (stack.any isDriveLetter || isDriveLetter s) := by
  rw [follow]
  split
  · rename_i hdouble
    rw [any_isDriveLetter_takeBack, isDriveLetter_of_dots (.inl hdouble), Bool.or_false]
  · split
    · rename_i hsingle
      rw [isDriveLetter_of_dots (.inr hsingle), Bool.or_false]
    · simp

/-- Without drive letters, each segment of two dots takes one back. -/
theorem takeBack_eq_dropLast (h : stack.any isDriveLetter = false) :
    takeBack stack = stack.dropLast := by
  rw [takeBack, if_neg]
  intro hlast
  obtain ⟨last, hmem, hletter⟩ := (Option.any_eq_true _ _).1 hlast
  have hnone := List.any_eq_false.1 h last (List.mem_of_getLast? hmem)
  exact hnone hletter

/-- The first segment takes none back that is not there, and the others do not climb behind it. -/
theorem grounded_cons : Grounded stack (s :: segments) ↔
    (isDoubleDot s → stack ≠ []) ∧ Grounded (follow stack s) segments := by
  have hinits : Grounded stack (s :: segments) ↔ ∀ front ∈ segments.inits,
      ((stack.any isDriveLetter || isDriveLetter s) || front.any isDriveLetter) ∨
        (s :: front).countP isDoubleDot ≤ stack.length + (s :: front).countP isName := by
    simp [Grounded, or_assoc]
  rw [hinits, Grounded]
  simp only [List.any_append, any_isDriveLetter_follow]
  by_cases hdrive : stack.any isDriveLetter
  · have hne : stack ≠ [] := by
      rintro rfl
      cases hdrive
    simp [hdrive, hne]
  -- nothing is kept from being taken back, so that counting is enough
  by_cases hdouble : isDoubleDot s
  · have htaken : follow stack s = stack.dropLast := by
      rw [follow, if_pos hdouble, takeBack_eq_dropLast (by simpa using hdrive)]
    have hs := isDriveLetter_of_dots (.inl hdouble)
    simp only [htaken, List.countP_cons, hdouble, isName, List.length_dropLast, if_true,
      Bool.not_true, Bool.false_and, Bool.false_eq_true, if_false, Nat.add_zero, true_implies,
      ← List.length_pos_iff]
    constructor
    · intro h
      have hpos : 1 ≤ stack.length := by
        have hfirst := h [] (by simp)
        simpa [hdrive, hs, -List.any_eq_true] using hfirst
      exact ⟨hpos, fun front hfront => (h front hfront).imp_right fun hle => by omega⟩
    · rintro ⟨hpos, h⟩ front hfront
      exact (h front hfront).imp_right fun hle => by omega
  · by_cases hsingle : isSingleDot s
    · simp [follow, isName, hdouble, hsingle]
    · simp [follow, isName, hdouble, hsingle, Nat.add_assoc, Nat.add_comm 1]

/-- What stands in front of the others is not touched, if none of them is missing. -/
theorem follow_append (base : List Text) (h : isDoubleDot s → stack ≠ []) :
    follow (base ++ stack) s = base ++ follow stack s := by
  have htake (hne : stack ≠ []) : takeBack (base ++ stack) = base ++ takeBack stack := by
    rw [takeBack, takeBack, List.getLast?_append_of_ne_nil _ hne]
    split
    · rfl
    · exact List.dropLast_append_of_ne_nil hne
  rw [follow, follow]
  split
  · rename_i hdouble
    exact htake (h hdouble)
  · split
    · rfl
    · exact List.append_assoc ..

/-! ### One segment -/

/-- **A segment is added** behind the slash of an open path. -/
theorem push_ofSegments (hsegments : ∀ s ∈ segments, IsKept s) (s : Text) (slash : Bool) :
    push .network (ofSegments segments ++ ['/']) s slash =
      ofSegments (follow segments (Percent.encode Percent.path s)) ++
        if slash || !isName (Percent.encode Percent.path s) then ['/'] else [] := by
  have hopen : Open (ofSegments segments ++ ['/']) := ⟨segments, hsegments, rfl⟩
  have hdropped : Open (ofSegments (takeBack segments) ++ ['/']) :=
    ⟨_, isKept_takeBack hsegments, rfl⟩
  rw [push_network, dropLast_ofSegments hsegments, hdropped.closed, hopen.closed, follow, isName]
  cases isDoubleDot (Percent.encode Percent.path s)
  · cases isSingleDot (Percent.encode Percent.path s)
    · simp [ofSegments]
    · simp
  · simp

/-- What is left when a segment is read is kept. -/
theorem isKept_follow (hsegments : ∀ s ∈ segments, IsKept s)
    (hs : ∀ c ∈ s, isSlash .network c = false) :
    ∀ t ∈ follow segments (Percent.encode Percent.path s), IsKept t := by
  rw [follow]
  split
  · exact isKept_takeBack hsegments
  · split
    · exact hsegments
    · rename_i hdouble hsingle
      refine List.forall_mem_append.2 ⟨hsegments, List.forall_mem_singleton.2 ?_⟩
      exact ⟨isKeptChar_encode hs, by simpa using hsingle, by simpa using hdouble⟩

/-! ### All segments -/

/-- The segments of a text, as a path holds them. -/
def writtenSegments (t : Text) : List Text :=
  (Text.splitBy (isSlash .network) t).map (Percent.encode Percent.path)

theorem writtenSegments_piece (h : ∀ c ∈ s, isSlash .network c = false) :
    writtenSegments s = [Percent.encode Percent.path s] := by
  rw [writtenSegments, Text.splitBy_eq_singleton h, List.map_singleton]

theorem writtenSegments_cut (h : ∀ d ∈ s, isSlash .network d = false) (hc : isSlash .network c)
    (t : Text) :
    writtenSegments (s ++ c :: t) = Percent.encode Percent.path s :: writtenSegments t := by
  rw [writtenSegments, Text.splitBy_append_cons h hc, List.map_cons, writtenSegments]

/-- A piece is added as a single segment. -/
theorem pushAll_piece (h : ∀ c ∈ s, isSlash .network c = false) (path : Text) :
    Path.pushAll .network path s = push .network path s false := by
  rw [Path.pushAll, Path.segments, Text.splitBy_eq_singleton h]
  rfl

/-- **A text that does not climb** leaves what stands in front of it, and what it leaves itself does
not depend on that. -/
theorem exists_of_grounded (hstack : ∀ s ∈ stack, IsKept s)
    (h : Grounded stack (writtenSegments t)) :
    ∃ behind, ∀ base : List Text, (∀ s ∈ base, IsKept s) →
      Path.pushAll .network (ofSegments (base ++ stack) ++ ['/']) t =
        ofSegments base ++ behind := by
  induction t using Text.piecewise_induction (p := isSlash .network) generalizing stack with
  | piece s hs =>
      rw [writtenSegments_piece hs, grounded_cons] at h
      refine ⟨ofSegments (follow stack (Percent.encode Percent.path s)) ++
        if false || !isName (Percent.encode Percent.path s) then ['/'] else [], ?_⟩
      intro base hbase
      rw [pushAll_piece hs, push_ofSegments (List.forall_mem_append.2 ⟨hbase, hstack⟩),
        follow_append base h.1, ofSegments_append, List.append_assoc]
  | cut s c rest hs hc ih =>
      rw [writtenSegments_cut hs hc, grounded_cons] at h
      obtain ⟨behind, hbehind⟩ := ih (isKept_follow hstack hs) h.2
      refine ⟨behind, fun base hbase => ?_⟩
      rw [pushAll_append_cons hs hc, push_ofSegments (List.forall_mem_append.2 ⟨hbase, hstack⟩),
        follow_append base h.1, Bool.true_or, if_pos rfl]
      exact hbehind base hbase

/-- **A text that climbs** takes back the segment in front of it, whatever it is. What is left is
what the end of the text stands for. -/
theorem exists_of_not_grounded (hstack : ∀ s ∈ stack, IsKept s)
    (h : ¬ Grounded stack (writtenSegments t)) :
    ∃ rest, rest <:+ t ∧ ∀ x, IsKept x → isDriveLetter x = false →
      Path.pushAll .network (ofSegments (x :: stack) ++ ['/']) t =
        Path.pushAll .network ['/'] rest := by
  have htaken {s x : Text} (hs : isDoubleDot s) (hx : isDriveLetter x = false) :
      follow [x] s = [] := by
    simp [follow, hs, takeBack, hx]
  induction t using Text.piecewise_induction (p := isSlash .network) generalizing stack with
  | piece s hs =>
      rw [writtenSegments_piece hs, grounded_cons] at h
      obtain ⟨hdouble, rfl⟩ : isDoubleDot (Percent.encode Percent.path s) ∧ stack = [] := by
        simpa [grounded_nil] using h
      refine ⟨[], List.nil_suffix, fun x hx hdrive => ?_⟩
      rw [pushAll_piece hs, push_ofSegments (List.forall_mem_singleton.2 hx), htaken hdouble hdrive,
        isName, hdouble]
      rfl
  | cut s c rest hs hc ih =>
      rw [writtenSegments_cut hs hc, grounded_cons] at h
      by_cases hmissing : isDoubleDot (Percent.encode Percent.path s) ∧ stack = []
      · obtain ⟨hdouble, rfl⟩ := hmissing
        refine ⟨rest, (List.suffix_cons c rest).trans (List.suffix_append s _),
          fun x hx hdrive => ?_⟩
        rw [pushAll_append_cons hs hc, push_ofSegments (List.forall_mem_singleton.2 hx),
          htaken hdouble hdrive]
        rfl
      · have hthere : isDoubleDot (Percent.encode Percent.path s) → stack ≠ [] := by
          simpa using hmissing
        obtain ⟨left, hleft, heq⟩ := ih (isKept_follow hstack hs) fun hrest => h ⟨hthere, hrest⟩
        refine ⟨left, hleft.trans ((List.suffix_cons c rest).trans (List.suffix_append s _)),
          fun x hx hdrive => ?_⟩
        have hfollow := follow_append [x] hthere
        rw [pushAll_append_cons hs hc, push_ofSegments (List.forall_mem_cons.2 ⟨hx, hstack⟩),
          ← List.singleton_append, hfollow, Bool.true_or, if_pos rfl]
        exact heq x hx hdrive

/-! ### A sign in front -/

/-- A sign that makes a segment with whatever stands behind it, and neither one of dots nor a drive
letter. -/
def isAnchor (a : Char) : Bool := isKeptChar a && a != '.' && a != '%' && !a.isAlpha

theorem isKeptChar_of_isAnchor (ha : isAnchor a) : isKeptChar a := by
  simp only [isAnchor, Bool.and_eq_true] at ha
  exact ha.1.1.1

theorem stripDot?_of_isAnchor (ha : isAnchor a) (s : Text) : stripDot? (a :: s) = none := by
  rw [stripDot?.eq_def]
  split <;> simp_all [isAnchor]

theorem isDriveLetter_of_isAnchor (ha : isAnchor a) (s : Text) :
    isDriveLetter (a :: s) = false := by
  rw [isDriveLetter.eq_def]
  split <;> simp_all [isAnchor]

theorem encode_of_isAnchor (ha : isAnchor a) (s : Text) :
    Percent.encode Percent.path (a :: s) = a :: Percent.encode Percent.path s := by
  rw [Percent.encode, List.flatMap_cons, Percent.encodeChar,
    isEncoded_of_isKeptChar (isKeptChar_of_isAnchor ha)]
  rfl

theorem isKept_of_isAnchor (ha : isAnchor a) (h : ∀ c ∈ s, isSlash .network c = false) :
    IsKept (a :: Percent.encode Percent.path s) :=
  ⟨List.forall_mem_cons.2 ⟨isKeptChar_of_isAnchor ha, isKeptChar_encode h⟩,
    by rw [isSingleDot, stripDot?_of_isAnchor ha]; rfl,
    by rw [isDoubleDot, stripDot?_of_isAnchor ha]; rfl⟩

/-- A sign and the piece behind it, up to a slash, are the first segment. -/
theorem push_anchor (ha : isAnchor a) (hs : ∀ d ∈ s, isSlash .network d = false) (slash : Bool) :
    push .network ['/'] (a :: s) slash =
      '/' :: a :: Percent.encode Percent.path s ++ if slash then ['/'] else [] := by
  have hkept := isKept_of_isAnchor ha hs
  rw [push_network, encode_of_isAnchor ha, hkept.double, hkept.single]
  rfl

theorem isSlash_of_isAnchor (ha : isAnchor a) (h : ∀ d ∈ s, isSlash .network d = false) :
    ∀ d ∈ a :: s, isSlash .network d = false :=
  List.forall_mem_cons.2 ⟨isSlash_of_isKeptChar (isKeptChar_of_isAnchor ha), h⟩

/-- Behind a sign a piece that does not climb leaves the sign where it is. -/
theorem exists_anchor_of_grounded (h : Grounded [] (writtenSegments t).tail) :
    ∃ r, ∀ a, isAnchor a → Path.pushAll .network ['/'] (a :: t) = '/' :: a :: r := by
  rcases Text.splitBy_cases (isSlash .network) t with hs | ⟨s, c, rest, rfl, hs, hc⟩
  · refine ⟨Percent.encode Percent.path t, fun a ha => ?_⟩
    rw [pushAll_piece (isSlash_of_isAnchor ha hs), push_anchor ha hs]
    exact List.append_nil _
  · rw [writtenSegments_cut hs hc, List.tail_cons] at h
    obtain ⟨behind, hbehind⟩ := exists_of_grounded (List.forall_mem_nil _) h
    refine ⟨Percent.encode Percent.path s ++ behind, fun a ha => ?_⟩
    have hbase := hbehind _ (List.forall_mem_singleton.2 (isKept_of_isAnchor ha hs))
    rw [← List.cons_append, pushAll_append_cons (isSlash_of_isAnchor ha hs) hc, push_anchor ha hs]
    simpa [ofSegments] using hbase

/-- Of a sign and a piece that climbs, only the end of the piece is left. -/
theorem exists_anchor_of_not_grounded (h : ¬ Grounded [] (writtenSegments t).tail) :
    ∃ rest, rest <:+ t ∧ ∀ a, isAnchor a →
      Path.pushAll .network ['/'] (a :: t) = parse .network false ('/' :: rest) := by
  rcases Text.splitBy_cases (isSlash .network) t with hs | ⟨s, c, rest, rfl, hs, hc⟩
  · rw [writtenSegments_piece hs] at h
    exact absurd (grounded_nil []) h
  · rw [writtenSegments_cut hs hc, List.tail_cons] at h
    obtain ⟨left, hleft, heq⟩ := exists_of_not_grounded (List.forall_mem_nil _) h
    refine ⟨left, hleft.trans ((List.suffix_cons c rest).trans (List.suffix_append s _)),
      fun a ha => ?_⟩
    have hbase := heq _ (isKept_of_isAnchor ha hs) (isDriveLetter_of_isAnchor ha _)
    rw [parse_cons, if_pos (by decide), ← hbase, ← List.cons_append,
      pushAll_append_cons (isSlash_of_isAnchor ha hs) hc, push_anchor ha hs]
    simp [ofSegments]

end Url.Path

namespace Encoding

open Url Url.Path

variable {a : Char} {v t : Text}

/-- The piece does not climb above the segment that it begins in. -/
def StaysBehind (v : Text) : Prop := Grounded [] (writtenSegments (dropIgnored v)).tail

instance (v : Text) : Decidable (StaysBehind v) := inferInstanceAs (Decidable (Grounded _ _))

theorem dropIgnored_cons_of_isKeptChar (ha : isKeptChar a) (t : Text) :
    dropIgnored (a :: t) = a :: dropIgnored t := by
  have hkept := dropIgnored_eq_self (t := [a]) <| List.forall_mem_singleton.2 <|
    isControl_of_isEncoded (isEncoded_of_isKeptChar ha)
  rw [← List.singleton_append, dropIgnored, List.filter_append]
  exact congrArg (· ++ _) hkept

/-- A sign and a piece are read as they are behind a slash. -/
theorem specialPath_anchor (ha : isAnchor a) (v : Text) :
    specialPath ('/' :: a :: v) = pushAll .network ['/'] (a :: dropIgnored v) := by
  have hslash : dropIgnored ('/' :: a :: v) = '/' :: dropIgnored (a :: v) := rfl
  rw [specialPath, hslash, dropIgnored_cons_of_isKeptChar (isKeptChar_of_isAnchor ha), parse_cons,
    if_pos (by decide)]

/-- The end of a text without ignored characters has none either. -/
theorem specialPath_suffix (h : t <:+ dropIgnored v) :
    specialPath ('/' :: t) = parse .network false ('/' :: t) := by
  have hself : dropIgnored t = t := by
    refine List.filter_eq_self.2 fun c hc => ?_
    exact (List.mem_filter.1 (h.mem hc)).2
  have hslash : dropIgnored ('/' :: t) = '/' :: dropIgnored t := rfl
  rw [specialPath, hslash, hself]

/-- **The cut takes the segment that was put in front** of a piece of a path, and nothing of the
piece, exactly if the piece does not climb above it. If it does, the cut takes the first sign of
what the piece stands for: the end of it that is left has its path whatever was put in front. -/
theorem specialPathname_anchor_iff (hv : v ≠ []) (hslash : v.head? ≠ some '/') :
    ∃ r, specialPathname v = .ok r ∧
      ((∀ a, isAnchor a → specialPath ('/' :: a :: v) = '/' :: a :: r) ↔ StaysBehind v) ∧
      (¬ StaysBehind v → ∃ rest, rest <:+ dropIgnored v ∧
        (∀ a, isAnchor a → specialPath ('/' :: a :: v) = specialPath ('/' :: rest)) ∧
        r = (specialPath ('/' :: rest)).drop 2) := by
  have hpathname : specialPathname v = .ok ((specialPath ('/' :: '-' :: v)).drop 2) := by
    rw [specialPathname.eq_def]
    split
    · exact absurd rfl hv
    · exact absurd rfl hslash
    · rfl
  have hdash : isAnchor '-' := by decide
  refine ⟨_, hpathname, ?_⟩
  by_cases hstays : StaysBehind v
  · obtain ⟨r, hr⟩ := exists_anchor_of_grounded hstays
    refine ⟨iff_of_true (fun a ha => ?_) hstays, fun h => absurd hstays h⟩
    rw [specialPath_anchor ha, specialPath_anchor hdash, hr a ha, hr _ hdash]
    rfl
  · obtain ⟨rest, hrest, heq⟩ := exists_anchor_of_not_grounded hstays
    have hfront (a : Char) (ha : isAnchor a) :
        specialPath ('/' :: a :: v) = specialPath ('/' :: rest) := by
      rw [specialPath_anchor ha, heq a ha, specialPath_suffix hrest]
    refine ⟨iff_of_false (fun hall => ?_) hstays, fun _ => ⟨rest, hrest, hfront, ?_⟩⟩
    · have hsigns := (hall '-' hdash).symm.trans
        ((hfront '-' hdash).trans (hfront '_' (by decide)).symm |>.trans (hall '_' (by decide)))
      exact absurd (List.cons.inj (List.cons.inj hsigns).2).1 (by decide)
    · rw [hfront _ hdash]

/-- A piece that takes back a segment of its own. -/
theorem specialPathname_anchor_of_own : ∃ r,
    specialPathname "a b/./c/..\\d".toList = .ok r ∧
      ∀ a, isAnchor a → specialPath ('/' :: a :: "a b/./c/..\\d".toList) = '/' :: a :: r :=
  have ⟨r, hr, hiff, _⟩ := specialPathname_anchor_iff (v := "a b/./c/..\\d".toList)
    (by decide) (by decide)
  ⟨r, hr, hiff.2 (by decide)⟩

/-- A piece that takes back the segment in front of it is cut itself. -/
theorem specialPathname_of_climb :
    ¬ StaysBehind "a/../b".toList ∧ specialPathname "a/../b".toList = .ok [] ∧
      specialPath "/-a/../b".toList = "/b".toList ∧
      ¬ "/-".toList <+: specialPath "/-a/../b".toList := by
  decide

end Encoding
end UrlMatch
