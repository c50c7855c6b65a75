import UrlMatch.Proofs.Pattern.Language
import UrlMatch.Proofs.Result

/-!
# Matches that end before the end

A match that need not reach the end of the input ends at a delimiter or at the end. Where the last
part is fixed text that ends in a delimiter, the match may end behind it, whatever follows. What
decides is how the last part is written: a delimiter that a match ends in by chance, because a
capture or repeated text has ended in it, is not enough.

## Main results

* `isMatch_compile_open_iff`: what parts match if the match need not reach the end.
* `getLast?_of_endsInDelimiter`: where the parts end in such text, each match ends in a delimiter.
* `isMatch_open_iff`: a text is matched exactly if a prefix of it is matched as a whole that ends at
  a boundary.
-/

namespace UrlMatch.Pattern

open Regex

variable {o : MatchOptions} {d m t : Text} {parts : List Part}

namespace MatchOptions

/-- The way to a boundary: behind a delimiter, or to the end. -/
def boundaryWay (o : MatchOptions) (t : Text) : Way :=
  (Way.text t (oneOf (IsDelimiter false o.delimiters))).orElse (Matches t (.look .endText))

theorem exists_boundaryWay_iff {i : Nat} (hi : i ≤ t.length) :
    (∃ j u, o.boundaryWay t i j u) ↔
      t.drop i = [] ∨ ∃ x ∈ o.delimiters, (t.drop i).head? = some x := by
  constructor
  · rintro ⟨j, u, ⟨⟨_, ⟨x, hx, rfl⟩, ⟨rest, hrest⟩, -⟩, -⟩ | hend⟩
    · exact .inr ⟨x, isDelimiter_false.1 hx, by rw [← hrest]; rfl⟩
    · obtain ⟨rfl, -⟩ := (matches_endText hi).1 hend
      exact .inl List.drop_length
  · rintro (hnil | ⟨x, hx, hhead⟩)
    · have hlength : i = t.length := Nat.le_antisymm hi (List.drop_eq_nil_iff.1 hnil)
      exact ⟨_, _, .inr ((matches_endText hi).2 ⟨hlength, rfl, rfl⟩)⟩
    · obtain ⟨rest, hrest⟩ := List.head?_eq_some_iff.1 hhead
      have hword : [x] ∈ oneOf (IsDelimiter false o.delimiters) :=
        ⟨x, isDelimiter_false.2 hx, rfl⟩
      exact ⟨_, [], .inl ⟨⟨[x], hword, ⟨rest, hrest.symm⟩, rfl⟩, rfl⟩⟩

/-- What stands behind the parts is a delimiter or the end, unless the parts end in a delimiter. -/
theorem closing_open (he : o.toEnd = false) (hd : o.delimiters ≠ []) (parts : List Part) :
    o.closing parts = if endsInDelimiter o.delimiters parts then []
      else plainGroup ('[' :: escapeClass o.delimiters ++ [']'] ++ ['|', '$']) := by
  simp [closing, he, delimiterClass?, hd]

theorem denotes_closing_open (hs : o.sensitive) (he : o.toEnd = false) (hd : o.delimiters ≠ [])
    (parts : List Part) : Denotes (!o.sensitive) (o.closing parts) 0 fun t _ =>
      if endsInDelimiter o.delimiters parts then .stay else o.boundaryWay t := by
  rw [closing_open he hd, hs]
  split
  · exact Denotes.nil
  · have hclass := denotesAtom_class (b := false) hd
    exact (hclass.denotes.alternative DenotesAtom.endText.denotes).denotes

/-- A match of the parts may end in front of the text. -/
def MayEnd (o : MatchOptions) (parts : List Part) (t : Text) : Prop :=
  endsInDelimiter o.delimiters parts ∨ t = [] ∨ ∃ x ∈ o.delimiters, t.head? = some x

end MatchOptions

/-- **What parts match** where the match need not reach the end of the text: a text that begins with a
word of their language behind which the match may end, with any text in front of it unless the
match has to begin where the text begins. -/
theorem isMatch_compile_open_iff (hs : o.sensitive) (he : o.toEnd = false) (hd : o.delimiters ≠ [])
    (hparts : NoCustom parts) :
    ∃ c, compile o parts = .ok c ∧ ∀ h : Text, c.isMatch h ↔ ∃ a m t, h = a ++ m ++ t ∧
      m ∈ languageOf o.delimiters parts ∧ (o.fromStart → a = []) ∧ o.MayEnd parts t := by
  obtain ⟨r, hcompile, hr⟩ :=
    compile_of_closing hparts (MatchOptions.denotes_closing_open hs he hd parts)
  rw [hs] at hr
  refine ⟨_, hcompile, fun h => isMatch_iff_of_passed (hr h) fun i hi => ?_⟩
  rw [MatchOptions.MayEnd]
  split
  · rename_i hend
    exact iff_of_true ⟨i, [], rfl, rfl⟩ (.inl hend)
  · rename_i hend
    rw [MatchOptions.exists_boundaryWay_iff hi, or_iff_right hend]

/-- What parts match as a whole is the words of their language. -/
theorem isMatch_compile_whole_iff (hs : o.sensitive) (hstart : o.fromStart)
    (hparts : NoCustom parts) :
    ∃ c, compile { o with strict := true, toEnd := true } parts = .ok c ∧
      ∀ m : Text, c.isMatch m ↔ m ∈ languageOf o.delimiters parts := by
  obtain ⟨c, hcompile, hc⟩ :=
    isMatch_compile_iff (o := { o with strict := true, toEnd := true }) hs rfl hparts
  refine ⟨c, hcompile, fun m => (hc m).trans ⟨?_, fun hm => ?_⟩⟩
  · rintro ⟨a, m, t, rfl, hm, ha, rfl | ⟨hstrict, -⟩⟩
    · rwa [ha hstart, List.nil_append, List.append_nil]
    · cases hstrict
  · exact ⟨[], m, [], by rw [List.nil_append, List.append_nil], hm, fun _ => rfl, .inl rfl⟩

/-- **Behind fixed text that ends in a delimiter** each match ends in one. -/
theorem getLast?_of_endsInDelimiter (h : endsInDelimiter d parts) (hm : m ∈ languageOf d parts) :
    ∃ x ∈ d, m.getLast? = some x := by
  rw [endsInDelimiter] at h
  split at h
  · rename_i v hlast
    obtain ⟨init, rfl⟩ := List.getLast?_eq_some_iff.1 hlast
    obtain ⟨x, hx, hd⟩ := (Option.any_eq_true _ _).1 h
    have hlanguage : languageOf d (init ++ [.fixed v .once]) = languageOf d init * {v} := by
      simp [languageOf, Part.language_once]
    rw [hlanguage] at hm
    obtain ⟨front, -, _, rfl, rfl⟩ := Language.mem_mul.1 hm
    exact ⟨x, by simpa using hd, by rw [List.getLast?_append, hx]; rfl⟩
  · cases h

/-- **A match ends at a boundary.** Where it need not reach the end of the text, parts match the text
exactly if they match a prefix of it as a whole behind which the text ends or goes on with a
delimiter, or which ends in a delimiter because the parts end in fixed text that does. Both ways of
compiling succeed apart from the bounds on the size and nesting of regular expressions, which
`compile` leaves out. -/
theorem isMatch_open_iff (hs : o.sensitive) (hstart : o.fromStart) (he : o.toEnd = false)
    (hd : o.delimiters ≠ []) (hparts : NoCustom parts) :
    ∃ c whole, compile o parts = .ok c ∧
      compile { o with strict := true, toEnd := true } parts = .ok whole ∧
      ∀ h, c.isMatch h ↔ ∃ m rest, h = m ++ rest ∧ whole.isMatch m ∧
        (rest = [] ∨ (∃ x ∈ o.delimiters, rest.head? = some x) ∨
          (endsInDelimiter o.delimiters parts ∧ ∃ x ∈ o.delimiters, m.getLast? = some x)) := by
  -- both compiled patterns are about the language of the parts
  obtain ⟨c, hcompile, hc⟩ := isMatch_compile_open_iff hs he hd hparts
  obtain ⟨whole, hcompileWhole, hwhole⟩ := isMatch_compile_whole_iff hs hstart hparts
  refine ⟨c, whole, hcompile, hcompileWhole, fun h => (hc h).trans ⟨?_, ?_⟩⟩
  · rintro ⟨a, m, rest, rfl, hm, ha, hend⟩
    refine ⟨m, rest, by rw [ha hstart, List.nil_append], (hwhole m).2 hm, ?_⟩
    rcases hend with hend | hnil | hhead
    · exact .inr (.inr ⟨hend, getLast?_of_endsInDelimiter hend hm⟩)
    · exact .inl hnil
    · exact .inr (.inl hhead)
  · rintro ⟨m, rest, rfl, hm, hend⟩
    refine ⟨[], m, rest, rfl, (hwhole m).1 hm, fun _ => rfl, ?_⟩
    rcases hend with hnil | hhead | ⟨hend, -⟩
    · exact .inr (.inl hnil)
    · exact .inr (.inr hhead)
    · exact .inl hend

/-- The pattern `/foo` matches `/foo/bar`, where a segment ends behind it. -/
theorem isMatch_open_of_segment :
    let o := { MatchOptions.default with toEnd := false }
    let parts := [Part.fixed "/foo".toList .once]
    o.sensitive ∧ o.fromStart ∧ o.toEnd = false ∧ o.delimiters ≠ [] ∧ NoCustom parts ∧
      ∃ c, compile o parts = .ok c ∧ c.isMatch "/foo/bar".toList := by
  intro o parts
  have hd : o.delimiters ≠ [] := by decide
  have hparts : NoCustom parts := by simp [NoCustom, parts, Part.capture?]
  obtain ⟨c, whole, hcompile, hcompileWhole, hc⟩ := isMatch_open_iff rfl rfl rfl hd hparts
  obtain ⟨whole', hcompile', hwhole⟩ := isMatch_compile_whole_iff (o := o) rfl rfl hparts
  obtain rfl := Except.ok.inj (hcompileWhole.symm.trans hcompile')
  have hword : "/foo".toList ∈ languageOf o.delimiters parts := by
    have hlanguage : languageOf o.delimiters parts = {"/foo".toList} := by
      simp [languageOf, parts, Part.language_once]
    exact hlanguage ▸ rfl
  refine ⟨rfl, rfl, rfl, hd, hparts, c, hcompile, (hc _).2 ⟨"/foo".toList, "/bar".toList, rfl, ?_⟩⟩
  exact ⟨(hwhole _).2 hword, .inr (.inl ⟨'/', by decide, rfl⟩)⟩

/-- The pattern of the optional text `a/` matches `a/` as a whole, which ends in a delimiter, but it
does not match `a/b`. -/
theorem not_isMatch_open_of_optional :
    let o := { MatchOptions.default with toEnd := false }
    let parts := [Part.fixed "a/".toList .optional]
    ∃ c whole, compile o parts = .ok c ∧
      compile { o with strict := true, toEnd := true } parts = .ok whole ∧
      ¬ (c.isMatch "a/b".toList ↔ ∃ m rest, "a/b".toList = m ++ rest ∧ whole.isMatch m ∧
        (rest = [] ∨ (∃ x ∈ o.delimiters, rest.head? = some x) ∨
          (m ≠ [] ∧ ∃ x ∈ o.delimiters, m.getLast? = some x))) := by
  intro o parts
  have hopen : (compile o parts).toOption.map (·.isMatch "a/b".toList) = some false := by
    decide +kernel
  have hwhole : (compile { o with strict := true, toEnd := true } parts).toOption.map
      (·.isMatch "a/".toList) = some true := by
    decide +kernel
  obtain ⟨c, hcompile, hc⟩ := Option.map_eq_some_iff.1 hopen
  obtain ⟨whole, hcompileWhole, hmatch⟩ := Option.map_eq_some_iff.1 hwhole
  refine ⟨c, whole, toOption_eq_some.1 hcompile, toOption_eq_some.1 hcompileWhole, ?_⟩
  rw [hc]
  intro hiff
  refine absurd (hiff.2 ⟨"a/".toList, ['b'], rfl, hmatch, .inr (.inr ?_)⟩) (by decide)
  exact ⟨by decide, '/', by decide, rfl⟩

end UrlMatch.Pattern
