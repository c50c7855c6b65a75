import Mathlib.Data.Nat.Bitwise
import UrlMatch.Unicode.DomainMapping
import UrlMatch.Unicode.Normalization

/-!
# Domain names lose their capital letters

Mapping a domain name takes the capital letters of ASCII away, and composing it does not bring one
back: nothing that a domain name maps to has a capital letter in its decomposition. The tables say
so, and a finite check over them shows it. A set of code points is a number for that, with one bit
for each of them.

## Main results

* `testBit_of_mapDomain?`: what a character is mapped to is no capital, nor composed of one.
* `isUpper_compose`: composing text without capitals gives no capital.
-/

namespace UrlMatch.Unicode

/-! ### Sets of code points -/

/-- The code points of a list, as the bits of a number. -/
def codeSet (ns : List Nat) : Nat := ns.foldr (fun n set => 2 ^ n ||| set) 0

theorem testBit_codeSet (ns : List Nat) (n : Nat) : (codeSet ns).testBit n = decide (n ∈ ns) := by
  induction ns with
  | nil => simp [codeSet]
  | cons m ns ih =>
      have hstep : codeSet (m :: ns) = 2 ^ m ||| codeSet ns := rfl
      rw [hstep, Nat.testBit_or, ih, Nat.testBit_two_pow]
      by_cases h : n = m
      · simp [h]
      · simp [h, Ne.symm h]

/-- A capital letter of ASCII. -/
def isCapital (n : Nat) : Bool := 65 ≤ n && n ≤ 90

/-- The capital letters of ASCII, and the code points that have one in their decomposition. -/
def capitals : Nat :=
  codeSet (List.range' 65 26 ++ (decompositions.filter (·.parts.any isCapital)).map (·.code))

theorem isCapital_eq_false {n : Nat} (h : capitals.testBit n = false) : isCapital n = false := by
  rw [capitals, testBit_codeSet, decide_eq_false_iff_not, List.mem_append, not_or] at h
  by_contra hn
  rw [Bool.not_eq_false, isCapital, Bool.and_eq_true, decide_eq_true_eq, decide_eq_true_eq] at hn
  exact h.1 (List.mem_range'_1.2 (by omega))

/-- A code point outside of the set has no capital letter in its decomposition. -/
theorem isCapital_of_mem_decompose {n m : Nat} (h : capitals.testBit n = false)
    (hm : m ∈ decompose n) : isCapital m = false := by
  have hself := isCapital_eq_false h
  rw [capitals, testBit_codeSet, decide_eq_false_iff_not, List.mem_append, not_or] at h
  rw [decompose] at hm
  split at hm
  · rwa [List.mem_singleton.1 hm]
  · split at hm
    · have hlarge : 90 < m := by
        simp only [List.mem_append, List.mem_cons, List.not_mem_nil, or_false] at hm
        rcases hm with (rfl | rfl) | hm
        · omega
        · omega
        · split at hm
          · cases hm
          · rw [List.mem_singleton] at hm
            omega
      simp only [isCapital, Bool.and_eq_false_iff, decide_eq_false_iff_not]
      omega
    · split at hm
      · rename_i d hd
        by_contra hcapital
        have hany : d.parts.any isCapital := List.any_eq_true.2 ⟨m, hm, by simpa using hcapital⟩
        have hfilter : d ∈ decompositions.filter (·.parts.any isCapital) :=
          List.mem_filter.2 ⟨List.mem_of_find?_eq_some hd, hany⟩
        have hcode : d.code = n := by simpa using List.find?_some hd
        exact h.2 (hcode ▸ List.mem_map_of_mem hfilter)
      · rwa [List.mem_singleton.1 hm]

/-! ### Looking up the tables -/

/-- No code point of a span is in the set. -/
def Span.isFree (set : Nat) (s : Span) : Bool :=
  set >>> s.first % 2 ^ (s.last + 1 - s.first) == 0

theorem Span.testBit_of_isFree {set n : Nat} {s : Span} (h : s.isFree set) (hn : s.has n) :
    set.testBit n = false := by
  rw [Span.has, Bool.and_eq_true, decide_eq_true_eq, decide_eq_true_eq] at hn
  have hzero := congrArg (Nat.testBit · (n - s.first)) (beq_iff_eq.1 h)
  simp only [Nat.testBit_mod_two_pow, Nat.testBit_shiftRight, Nat.zero_testBit,
    Bool.and_eq_false_iff, decide_eq_false_iff_not] at hzero
  rcases hzero with hzero | hzero
  · omega
  · rwa [Nat.add_sub_cancel' hn.1] at hzero

/-- No image of a run is in the set. -/
def MappingRun.isFree (set : Nat) (r : MappingRun) : Bool :=
  (List.range r.count).all fun k => !set.testBit (r.image + k * r.imageStep)

theorem MappingRun.testBit_of_isFree {set n m : Nat} {r : MappingRun} (h : r.isFree set)
    (hm : r.image? n = some m) : set.testBit m = false := by
  rw [image?] at hm
  split at hm
  · rename_i hn
    obtain rfl := Option.some.inj hm
    simpa using List.all_eq_true.1 h _ (List.mem_range.2 hn.2.2)
  · cases hm

/-- A function at a number, which is computed before the function is. -/
def atValue (n : Nat) (f : Nat → Bool) : Bool :=
  match n with
  | 0 => f 0
  | k + 1 => f (k + 1)

theorem atValue_eq (n : Nat) (f : Nat → Bool) : atValue n f = f n := by cases n <;> rfl

/-- Nothing that the tables of domain names map to is in the set. -/
def tablesFree (set : Nat) : Bool :=
  (List.range 128).all (fun n => !set.testBit (Char.ofNat n).toLower.toNat) &&
    domainValidSpans.all (·.isFree set) && domainRuns.all (·.isFree set) &&
    domainSequences.all (·.2.all fun n => !set.testBit n)

theorem tablesFree_capitals : tablesFree capitals := by
  rw [← atValue_eq capitals tablesFree]
  decide +kernel

/-! ### Mapping -/

/-- A number that no character has gives NUL. -/
theorem toNat_ofNat (n : Nat) : (Char.ofNat n).toNat = n ∨ (Char.ofNat n).toNat = 0 := by
  by_cases h : n.isValidChar
  · have hvalid : Char.ofNat n = Char.ofNatAux n h := dif_pos h
    exact .inl (congrArg Char.toNat hvalid)
  · have hnul : Char.ofNat n = '\x00' := dif_neg h
    exact .inr (congrArg Char.toNat hnul)

/-- The character with a number is in the set only if the number is. -/
theorem testBit_ofNat {n : Nat} (h : capitals.testBit n = false) :
    capitals.testBit (Char.ofNat n).toNat = false := by
  rcases toNat_ofNat n with hn | hn <;> rw [hn]
  · exact h
  · have htables := tablesFree_capitals
    simp only [tablesFree, Bool.and_eq_true, List.all_eq_true] at htables
    simpa using htables.1.1.1 0 (List.mem_range.2 (by omega))

/-- **What a character of a domain name is mapped to is no capital**, nor has it a capital in its
decomposition. -/
theorem testBit_of_mapDomain? {c : Char} {t : Text} (h : mapDomain? c = some t) :
    ∀ d ∈ t, capitals.testBit d.toNat = false := by
  have htables := tablesFree_capitals
  simp only [tablesFree, Bool.and_eq_true, List.all_eq_true] at htables
  obtain ⟨⟨⟨hascii, hvalid⟩, hruns⟩, hsequences⟩ := htables
  rw [mapDomain?] at h
  split at h
  · rename_i hc
    obtain rfl := Option.some.inj h
    intro d hd
    rw [List.mem_singleton.1 hd]
    simpa using hascii c.toNat (List.mem_range.2 hc)
  · split at h
    · rename_i hholds
      obtain rfl := Option.some.inj h
      obtain ⟨s, hs, hhas⟩ := List.any_eq_true.1 hholds
      intro d hd
      rw [List.mem_singleton.1 hd]
      exact Span.testBit_of_isFree (hvalid s hs) hhas
    · split at h
      · obtain rfl := Option.some.inj h
        exact fun _ hd => nomatch hd
      · split at h
        · rename_i n hn
          obtain rfl := Option.some.inj h
          obtain ⟨r, hr, himage⟩ := List.exists_of_findSome?_eq_some hn
          intro d hd
          rw [List.mem_singleton.1 hd]
          exact testBit_ofNat (MappingRun.testBit_of_isFree (hruns r hr) himage)
        · obtain ⟨ns, hns, rfl⟩ := Option.map_eq_some_iff.1 h
          intro d hd
          obtain ⟨n, hn, rfl⟩ := List.mem_map.1 hd
          obtain ⟨front, behind, hsplit, -⟩ := List.lookup_eq_some_iff.1 hns
          have hmem : (c.toNat, ns) ∈ domainSequences := hsplit ▸ by simp
          exact testBit_ofNat (by simpa using hsequences _ hmem n hn)

/-! ### Composing -/

theorem mem_insertMark {n m : Nat} {ns : List Nat} (h : m ∈ insertMark n ns) : m = n ∨ m ∈ ns := by
  induction ns with
  | nil => simpa [insertMark] using h
  | cons k ns ih =>
      rw [insertMark] at h
      split at h
      · rcases List.mem_cons.1 h with rfl | h
        · exact .inr List.mem_cons_self
        · exact (ih h).imp id (List.mem_cons_of_mem _)
      · exact List.mem_cons.1 h

/-- Nothing is added to marks by ordering them. -/
theorem mem_of_mem_reorder {m : Nat} {ns : List Nat} (h : m ∈ reorder ns) : m ∈ ns := by
  induction ns with
  | nil => exact h
  | cons n ns ih =>
      rcases mem_insertMark h with rfl | h
      · exact List.mem_cons_self
      · exact List.mem_cons_of_mem _ (ih h)

/-- What decomposes lies behind the letters of ASCII. -/
theorem decompositions_large : decompositions.all (90 < ·.code) := by decide +kernel

/-- No composite is a capital letter of ASCII. -/
theorem isCapital_of_composite? {a b c : Nat} (h : composite? a b = some c) :
    isCapital c = false := by
  have hlarge : 90 < c := by
    rw [composite?] at h
    split at h
    · obtain rfl := Option.some.inj h
      omega
    · split at h
      · obtain rfl := Option.some.inj h
        omega
      · split at h
        · cases h
        · obtain ⟨⟨a', b', c'⟩, hfind, rfl⟩ := Option.map_eq_some_iff.1 h
          obtain ⟨d, hd, hcomposed⟩ := List.mem_filterMap.1 (List.mem_of_find?_eq_some hfind)
          have hcode : c' = d.code := by
            split at hcomposed
            · cases hcomposed
              rfl
            · obtain ⟨e, -, heq⟩ := Option.map_eq_some_iff.1 hcomposed
              cases heq
              rfl
            · cases hcomposed
          have hall := List.all_eq_true.1 decompositions_large d (List.mem_filter.1 hd).1
          rw [hcode]
          exact of_decide_eq_true hall
  simp only [isCapital, Bool.and_eq_false_iff, decide_eq_false_iff_not]
  omega

/-- Merging marks into what has no capitals gives none. -/
theorem isCapital_of_mem_mergeFrom {starter : Nat} {marks ns : List Nat}
    (hstarter : isCapital starter = false) (hmarks : ∀ m ∈ marks, isCapital m = false)
    (hns : ∀ n ∈ ns, isCapital n = false) :
    ∀ n ∈ mergeFrom starter marks ns, isCapital n = false := by
  fun_induction mergeFrom starter marks ns with
  | case1 =>
      exact List.forall_mem_cons.2 ⟨hstarter, fun m hm => hmarks m (List.mem_reverse.1 hm)⟩
  | case2 starter marks n ns blocked c hc ih =>
      refine ih ?_ hmarks (List.forall_mem_cons.1 hns).2
      split at hc
      · cases hc
      · exact isCapital_of_composite? hc
  | case3 starter marks n ns blocked hnone hclass ih =>
      obtain ⟨hn, hns⟩ := List.forall_mem_cons.1 hns
      refine List.forall_mem_cons.2 ⟨hstarter, fun m hm => ?_⟩
      rcases List.mem_append.1 hm with hm | hm
      · exact hmarks m (List.mem_reverse.1 hm)
      · exact ih hn (fun _ hm => nomatch hm) hns m hm
  | case4 starter marks n ns blocked hnone hclass ih =>
      obtain ⟨hn, hns⟩ := List.forall_mem_cons.1 hns
      exact ih hstarter (List.forall_mem_cons.2 ⟨hn, hmarks⟩) hns

theorem isCapital_of_mem_merge {ns : List Nat} (hns : ∀ n ∈ ns, isCapital n = false) :
    ∀ n ∈ merge ns, isCapital n = false := by
  induction ns with
  | nil => exact hns
  | cons n ns ih =>
      obtain ⟨hn, hns⟩ := List.forall_mem_cons.1 hns
      rw [merge]
      split
      · exact isCapital_of_mem_mergeFrom hn (fun _ hm => nomatch hm) hns
      · exact List.forall_mem_cons.2 ⟨hn, ih hns⟩

theorem isUpper_eq_isCapital (c : Char) : c.isUpper = isCapital c.toNat := by
  have hiff : c.isUpper ↔ 65 ≤ c.toNat ∧ c.toNat ≤ 90 :=
    decide_eq_true_iff.trans (and_congr UInt32.le_iff_toNat_le UInt32.le_iff_toNat_le)
  rw [Bool.eq_iff_iff, hiff]
  simp [isCapital]

/-- **Composing text without capitals gives no capital letter of ASCII.** -/
theorem isUpper_compose {t : Text} (h : ∀ c ∈ t, capitals.testBit c.toNat = false) :
    ∀ c ∈ compose t, c.isUpper = false := by
  intro c hc
  rw [isUpper_eq_isCapital]
  rw [compose] at hc
  split at hc
  · exact isCapital_eq_false (h c hc)
  · obtain ⟨n, hn, rfl⟩ := List.mem_map.1 hc
    have hcapital : isCapital n = false := by
      refine isCapital_of_mem_merge (fun m hm => ?_) n hn
      obtain ⟨d, hd, hm⟩ := List.mem_flatMap.1 (mem_of_mem_reorder hm)
      exact isCapital_of_mem_decompose (h d hd) hm
    rw [charOf]
    rcases toNat_ofNat n with hn | hn <;> rw [hn]
    · exact hcapital
    · rfl

end UrlMatch.Unicode
