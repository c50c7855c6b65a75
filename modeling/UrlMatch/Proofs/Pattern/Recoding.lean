import Mathlib.Data.List.Forall2
import UrlMatch.Proofs.Pattern.WellFormed

/-!
# Reading under an encoder

Reading a pattern brings its fixed texts into their canonical form as they are found. The texts
are found all the same, whatever form they are brought into: reading is reading plainly, so that
every text is its own canonical form, and then recoding part by part. Hence a pattern whose texts
are canonical already is read as if there were no encoder.

## Main results

* `parse_eq_ok_iff`: reading is reading plainly and recoding the parts.
* `parse_eq_map_encoded_iff`: reading succeeds exactly when the encoder accepts every text that is
  read plainly, and gives the plain parts with their texts encoded.
* `parse_of_canonical`: canonical texts stay as they are.
* `canonical_of_parse`: the texts of what is read are canonical forms.
-/

namespace UrlMatch.Pattern

/-- The same options, any text being its own canonical form. -/
def ReadOptions.plain (o : ReadOptions) : ReadOptions := { o with encode := .ok }

/-- The fixed texts of a part. -/
def Part.texts : Part → List Text
  | fixed value _ => [value]
  | capture c => [c.lead, c.trail]

/-- A part becomes another one when its fixed texts are brought into their canonical form. -/
inductive Recodes (o : ReadOptions) : Part → Part → Prop
  | fixed {v w : Text} (m : Modifier) : o.canonical v = .ok w → Recodes o (.fixed v m) (.fixed w m)
  | capture {c : Capture} {lead trail : Text} : o.canonical c.lead = .ok lead →
      o.canonical c.trail = .ok trail → Recodes o (.capture c) (.capture { c with lead, trail })

variable {o : ReadOptions} {names names' : Naming} {core : Core} {m : Modifier}
  {pending lead trail t v : Text} {p q : Part} {ps qs : List Part}

/-- The texts of a recoded part are canonical forms. -/
theorem Recodes.texts (h : Recodes o q p) : ∀ v ∈ p.texts, ∃ s, o.canonical s = .ok v := by
  cases h with
  | fixed m hv => simpa [Part.texts] using ⟨_, hv⟩
  | capture hlead htrail => simpa [Part.texts] using ⟨⟨_, hlead⟩, ⟨_, htrail⟩⟩

/-- A part whose texts are canonical is recoded as itself. -/
theorem Recodes.self (h : ∀ v ∈ p.texts, o.canonical v = .ok v) : Recodes o p p := by
  cases p with
  | fixed v m => exact .fixed m (h v (by simp [Part.texts]))
  | capture c =>
      exact .capture (c := c) (h c.lead (by simp [Part.texts])) (h c.trail (by simp [Part.texts]))

/-! ### One part -/

theorem canonical_plain (v : Text) : o.plain.canonical v = .ok v :=
  canonical_eq_self (fun _ => rfl) v

theorem gathered_plain (pending : Text) :
    gathered o.plain pending = .ok (literalParts pending) :=
  gathered_eq_self (fun _ => rfl) pending

/-- What has gathered is recoded when it is complete. -/
theorem gathered_eq_ok_iff :
    gathered o pending = .ok ps ↔
      ∃ qs, gathered o.plain pending = .ok qs ∧ List.Forall₂ (Recodes o) qs ps := by
  rw [gathered_plain, gathered, literalParts]
  by_cases hp : pending = []
  · simp [hp, eq_comm]
  · simp only [hp, if_false, bind_eq_ok, Except.ok.injEq, exists_eq_left']
    constructor
    · rintro ⟨v, hv, ⟨⟩⟩
      exact .cons (.fixed .once hv) .nil
    · intro h
      obtain ⟨w, hw, rfl⟩ : ∃ w, o.canonical pending = .ok w ∧ ps = [.fixed w .once] := by
        cases h with
        | cons hpart hnil =>
            cases hnil
            cases hpart with
            | fixed m hw => exact ⟨_, hw, rfl⟩
      exact ⟨w, hw, rfl⟩

/-- The texts around a capture are recoded, and nothing else about it. -/
theorem captureOf_eq_ok_iff :
    captureOf o names lead core trail m = .ok (p, names') ↔
      ∃ q, captureOf o.plain names lead core trail m = .ok (q, names') ∧ Recodes o q p := by
  simp only [captureOf, bind_eq_ok, canonical_plain, Except.ok.injEq, exists_eq_left']
  constructor
  · rintro ⟨⟨name, next⟩, hname, lead', hlead, trail', htrail, ⟨⟩⟩
    exact ⟨_, ⟨⟨name, next⟩, hname, rfl⟩, .capture hlead htrail⟩
  · rintro ⟨q, ⟨⟨name, next⟩, hname, ⟨⟩⟩, hrecodes⟩
    cases hrecodes with
    | capture hlead htrail => exact ⟨⟨name, next⟩, hname, _, hlead, _, htrail, rfl⟩

/-! ### All parts -/

/-- What is related to two lists, one behind the other, falls into two. -/
theorem forall₂_append_left {R : Part → Part → Prop} {qs' : List Part}
    (h : List.Forall₂ R (qs ++ qs') ps) :
    ∃ front behind, List.Forall₂ R qs front ∧ List.Forall₂ R qs' behind ∧ ps = front ++ behind := by
  have htake := List.forall₂_take qs.length h
  have hdrop := List.forall₂_drop qs.length h
  rw [List.take_left] at htake
  rw [List.drop_left] at hdrop
  exact ⟨_, _, htake, hdrop, (List.take_append_drop _ _).symm⟩

/-- A capture and what has gathered before it are recoded, and then what follows. -/
theorem thenCapture_eq_ok_iff {behind behind' : Naming → Except Error (List Part)}
    (hbehind : ∀ names ps, behind names = .ok ps ↔
      ∃ qs, behind' names = .ok qs ∧ List.Forall₂ (Recodes o) qs ps) :
    thenCapture o pending names lead core trail m behind = .ok ps ↔
      ∃ qs, thenCapture o.plain pending names lead core trail m behind' = .ok qs ∧
        List.Forall₂ (Recodes o) qs ps := by
  simp only [thenCapture, bind_eq_ok]
  constructor
  · rintro ⟨before, hbefore, ⟨p, next⟩, hp, rest, hrest, ⟨⟩⟩
    obtain ⟨before', hbefore', hgathered⟩ := gathered_eq_ok_iff.1 hbefore
    obtain ⟨q, hq, hpart⟩ := captureOf_eq_ok_iff.1 hp
    obtain ⟨rest', hrest', hparts⟩ := (hbehind _ _).1 hrest
    exact ⟨_, ⟨before', hbefore', (q, next), hq, rest', hrest', rfl⟩,
      List.rel_append hgathered (.cons hpart hparts)⟩
  · rintro ⟨_, ⟨before', hbefore', ⟨q, next⟩, hq, rest', hrest', ⟨⟩⟩, hall⟩
    obtain ⟨before, behindParts, hgathered, hcons, rfl⟩ := forall₂_append_left hall
    cases hcons with
    | cons hpart hparts =>
        exact ⟨before, gathered_eq_ok_iff.2 ⟨_, hbefore', hgathered⟩, (_, next),
          captureOf_eq_ok_iff.2 ⟨q, hq, hpart⟩, _, (hbehind _ _).2 ⟨_, hrest', hparts⟩, rfl⟩

/-- **The parts of items are found plainly and then recoded.** -/
theorem partsOf_eq_ok_iff {ending : Ending} {items : List Item} :
    partsOf o ending pending names items = .ok ps ↔
      ∃ qs, partsOf o.plain ending pending names items = .ok qs ∧
        List.Forall₂ (Recodes o) qs ps := by
  fun_induction partsOf o ending pending names items generalizing ps with
  | case1 pending names =>
      subst ending
      exact gathered_eq_ok_iff
  | case2 pending names i found =>
      subst ending
      simp [partsOf, bind_eq_ok]
  | case3 =>
      subst ending
      simp [partsOf]
  | case4 pending names value core m items h ih =>
      rw [partsOf, if_pos (show o.plain.isLead value from h)]
      exact thenCapture_eq_ok_iff fun names ps => ih names
  | case5 pending names value core m items h ih =>
      rw [partsOf, if_neg (show ¬ o.plain.isLead value from h)]
      exact thenCapture_eq_ok_iff fun names ps => ih names
  | case6 pending names value items h ih =>
      rw [partsOf]
      · exact ih
      · exact h
  | case7 pending names value items ih =>
      rw [partsOf]
      exact ih
  | case8 pending names core m items ih =>
      rw [partsOf]
      exact thenCapture_eq_ok_iff fun names ps => ih names
  | case9 pending names value items ih =>
      rw [partsOf, if_pos rfl]
      exact ih
  | case10 pending names m items hm ih =>
      rw [partsOf, if_neg hm, if_pos rfl]
      exact ih
  | case11 pending names value m items hm hv ih =>
      rw [partsOf, if_neg hm, if_neg hv]
      simp only [bind_eq_ok, canonical_plain, Except.ok.injEq, exists_eq_left']
      constructor
      · rintro ⟨before, hbefore, w, hw, rest, hrest, ⟨⟩⟩
        obtain ⟨before', hbefore', hgathered⟩ := gathered_eq_ok_iff.1 hbefore
        obtain ⟨rest', hrest', hparts⟩ := ih.1 hrest
        exact ⟨_, ⟨before', hbefore', rest', hrest', rfl⟩,
          List.rel_append hgathered (.cons (.fixed m hw) hparts)⟩
      · rintro ⟨_, ⟨before', hbefore', rest', hrest', ⟨⟩⟩, hall⟩
        obtain ⟨before, behindParts, hgathered, hcons, rfl⟩ := forall₂_append_left hall
        cases hcons with
        | cons hpart hparts =>
            cases hpart with
            | fixed m hw =>
                exact ⟨before, gathered_eq_ok_iff.2 ⟨_, hbefore', hgathered⟩, _, hw, _,
                  ih.2 ⟨_, hrest', hparts⟩, rfl⟩
  | case12 pending names lead core trail m items ih =>
      rw [partsOf]
      exact thenCapture_eq_ok_iff fun names ps => ih names

/-- **Reading is reading plainly and recoding the parts.** -/
theorem parse_eq_ok_iff :
    parse o t = .ok ps ↔ ∃ qs, parse o.plain t = .ok qs ∧ List.Forall₂ (Recodes o) qs ps := by
  simp only [parse, bind_eq_ok, partsOf_eq_ok_iff (o := o)]
  constructor
  · rintro ⟨ls, hls, qs, hqs, hall⟩
    exact ⟨qs, ⟨ls, hls, hqs⟩, hall⟩
  · rintro ⟨qs, ⟨ls, hls, hqs⟩, hall⟩
    exact ⟨ls, hls, qs, hqs, hall⟩

/-- **Canonical texts stay as they are.** -/
theorem parse_of_canonical (h : parse o.plain t = .ok ps)
    (hcanonical : ∀ p ∈ ps, ∀ v ∈ p.texts, o.canonical v = .ok v) : parse o t = .ok ps :=
  parse_eq_ok_iff.2 ⟨ps, h, List.forall₂_same.2 fun p hp => .self (hcanonical p hp)⟩

/-- **The texts of what is read are canonical forms.** -/
theorem canonical_of_parse (h : parse o t = .ok ps) :
    ∀ p ∈ ps, ∀ v ∈ p.texts, ∃ s, o.canonical s = .ok v := by
  obtain ⟨qs, -, hall⟩ := parse_eq_ok_iff.1 h
  clear h
  induction hall with
  | nil => simp
  | cons hpart _ ih => exact List.forall_mem_cons.2 ⟨hpart.texts, ih⟩

/-! ### Encoding as a pass over the parts -/

/-- The part with its fixed texts changed, and nothing else about it. -/
def Part.mapTexts (f : Text → Text) : Part → Part
  | fixed value m => fixed (f value) m
  | capture c => capture { c with lead := f c.lead, trail := f c.trail }

/-- What the encoder makes of a text that it accepts; the empty text is not shown to it. -/
def ReadOptions.encoded (o : ReadOptions) (v : Text) : Text :=
  if v = [] then [] else (o.encode v).toOption.getD v

/-- A text has a canonical form if it is empty or the encoder accepts it. -/
theorem canonical_eq_ok_iff_encoded {w : Text} :
    o.canonical v = .ok w ↔ (v ≠ [] → ∃ u, o.encode v = .ok u) ∧ w = o.encoded v := by
  by_cases hv : v = []
  · simp [ReadOptions.canonical, ReadOptions.encoded, hv, eq_comm]
  · cases h : o.encode v with
    | error e => simp [ReadOptions.canonical, hv, h]
    | ok u => simp [ReadOptions.canonical, ReadOptions.encoded, hv, h, Except.toOption, eq_comm]

/-- A part is recoded if the encoder accepts its texts, and only its texts change. -/
theorem recodes_iff :
    Recodes o q p ↔
      (∀ v ∈ q.texts, v ≠ [] → ∃ w, o.encode v = .ok w) ∧ p = q.mapTexts o.encoded := by
  constructor
  · intro h
    cases h with
    | fixed m hv =>
        obtain ⟨haccepts, rfl⟩ := canonical_eq_ok_iff_encoded.1 hv
        exact ⟨by simpa [Part.texts] using haccepts, rfl⟩
    | capture hlead htrail =>
        obtain ⟨hleads, rfl⟩ := canonical_eq_ok_iff_encoded.1 hlead
        obtain ⟨htrails, rfl⟩ := canonical_eq_ok_iff_encoded.1 htrail
        exact ⟨by simpa [Part.texts] using ⟨hleads, htrails⟩, rfl⟩
  · rintro ⟨haccepts, rfl⟩
    have hcanonical : ∀ v ∈ q.texts, o.canonical v = .ok (o.encoded v) :=
      fun v hv => canonical_eq_ok_iff_encoded.2 ⟨haccepts v hv, rfl⟩
    cases q with
    | fixed v m => exact .fixed m (hcanonical v (by simp [Part.texts]))
    | capture c =>
        exact .capture (hcanonical c.lead (by simp [Part.texts]))
          (hcanonical c.trail (by simp [Part.texts]))

/-- The parts of a list are recoded if the encoder accepts the texts of each of them. -/
theorem forall₂_recodes_iff :
    List.Forall₂ (Recodes o) qs ps ↔
      (∀ q ∈ qs, ∀ v ∈ q.texts, v ≠ [] → ∃ w, o.encode v = .ok w) ∧
        ps = qs.map (Part.mapTexts o.encoded) := by
  induction qs generalizing ps with
  | nil => simp
  | cons q qs ih =>
      simp only [List.forall₂_cons_left_iff, recodes_iff, ih, List.forall_mem_cons, List.map_cons]
      constructor
      · rintro ⟨_, _, ⟨hq, rfl⟩, ⟨hqs, rfl⟩, rfl⟩
        exact ⟨⟨hq, hqs⟩, rfl⟩
      · rintro ⟨⟨hq, hqs⟩, rfl⟩
        exact ⟨_, _, ⟨hq, rfl⟩, ⟨hqs, rfl⟩, rfl⟩

/-- **Encoding is a pass over what is read plainly.** A pattern is read exactly when it is read
plainly and the encoder accepts every text of its parts that is not empty; its parts are then the
plain ones, with each of these texts replaced by what the encoder makes of it. -/
theorem parse_eq_map_encoded_iff :
    parse o t = .ok ps ↔
      ∃ qs, parse o.plain t = .ok qs ∧
        (∀ q ∈ qs, ∀ v ∈ q.texts, v ≠ [] → ∃ w, o.encode v = .ok w) ∧
        ps = qs.map (Part.mapTexts o.encoded) := by
  simp only [parse_eq_ok_iff (o := o), forall₂_recodes_iff]

end UrlMatch.Pattern
