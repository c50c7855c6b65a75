import UrlMatch.Proofs.Component.Compile
import UrlMatch.Proofs.Matcher.Compile
import UrlMatch.Proofs.Pattern.Rebuild

/-!
# What a match reports

Whether an input matches and what its match is are found by two loops over the components. They
agree, and the match tells for each component the value that was matched and one group for each
capture. The groups go by different names, so that none hides another.

## Main results

* `Matcher.test_iff`, `Matcher.exec?_eq_some_iff`: the two loops, component by component.
* `ComponentPattern.nodup_names`: the captures of a component go by different names.
* `Matcher.test_iff_and_groups_exec?`: **an input matches if there is a match, and the match has a
  group for each capture**.
-/

namespace UrlMatch

open Pattern

/-! ### The groups of a component -/

namespace Pattern

variable {c : Compiled} {t : Text} {g : Groups}

/-- A compiled pattern has the keys of its captures. -/
theorem keys_of_compile {o : MatchOptions} {parts : List Part} (h : compile o parts = .ok c) :
    c.keys = keysOf parts := by
  simp only [compile] at h
  split at h
  · cases h
  · cases h
    rfl

/-- What a pattern matches can be told from its regular expression. -/
theorem program_eq_of_source_eq {o o' : MatchOptions} {parts parts' : List Part} {c' : Compiled}
    (hc : compile o parts = .ok c) (hc' : compile o' parts' = .ok c') (h : c.source = c'.source) :
    c.program = c'.program := by
  simp only [compile] at hc hc'
  split at hc
  · cases hc
  · split at hc'
    · cases hc'
    · cases hc
      cases hc'
      simp_all

/-- There is one group for each key, in order, under the text that the key's name is found under. -/
theorem names_of_groups? (h : c.groups? t = some g) :
    g.map Prod.fst = c.keys.map (·.name.display) := by
  obtain ⟨m, -, rfl⟩ := Option.map_eq_some_iff.1 h
  refine List.ext_getElem (by simp) fun i _ _ => ?_
  simp

end Pattern

/-- Patterns of components with the same regular expression match the same texts. -/
theorem ComponentPattern.isMatch_congr {c d : Component} {special special' ignoreCase : Bool}
    {t t' : Text} {p q : ComponentPattern} (hp : ofText c special ignoreCase t = .ok p)
    (hq : ofText d special' ignoreCase t' = .ok q) (h : p.compiled.source = q.compiled.source) :
    p.compiled.isMatch = q.compiled.isMatch := by
  obtain ⟨ps, compiled, -, hcompiled, rfl⟩ := compile_eq_ok_iff.1 hp
  obtain ⟨qs, compiled', -, hcompiled', rfl⟩ := compile_eq_ok_iff.1 hq
  have hprogram := program_eq_of_source_eq hcompiled hcompiled' h
  funext t
  exact congrArg (·.isMatch t) hprogram

/-- **The captures of a component go by different names**, be they given or counted. -/
theorem ComponentPattern.nodup_names {c : Component} {special ignoreCase : Bool} {pattern : Text}
    {p : ComponentPattern} (h : ofText c special ignoreCase pattern = .ok p) :
    (p.compiled.keys.map (·.name.display)).Nodup := by
  obtain ⟨ps, compiled, hps, hcompiled, rfl⟩ := compile_eq_ok_iff.1 h
  have hnodup := nodup_display (wellFormed_of_parse (parts_eq_ok_iff.1 hps).1)
  rwa [namesOf, List.map_map, ← keys_of_compile hcompiled] at hnodup

namespace Matcher

variable {m : Matcher} {source input : Input} {sourceBase base : Option Text} {ignoreCase : Bool}
  {found : Match}

/-- What holds of every URL that is read, if it holds of its base, holds of what a text stands
for. -/
theorem of_parseUrl? {P : Url → Prop} {t : Text} {u : Url}
    (hparse : ∀ {b : Option Url} {t : Text} {u : Url}, (∀ v ∈ b, P v) → Url.parse b t = .ok u → P u)
    (h : parseUrl? t base = some u) : P u := by
  cases base with
  | none => exact hparse (by simp) (toOption_eq_some.1 h)
  | some b =>
      obtain ⟨v, hv, hu⟩ := Option.bind_eq_some_iff.1 h
      rw [toOption_eq_some] at hv hu
      refine hparse (fun b hb => ?_) hu
      obtain rfl := Option.some.inj hb
      exact hparse (by simp) hv

/-! ### The two loops -/

/-- An input matches if it stands for a URL and each component matches its value. -/
theorem test_iff : m.test input base ↔ ∃ values, resolve? input base = some values ∧
    ∀ c, (m.components.get c).compiled.isMatch (values.get c) := by
  rw [test]
  cases resolve? input base with
  | none => simp
  | some values => simp [List.all_eq_true, Component.mem_all]

theorem matchComponent?_eq_some_iff {c : Component} {value : Text} {r : ComponentMatch} :
    m.matchComponent? c value = some r ↔
      r.value = value ∧ (m.components.get c).compiled.groups? value = some r.groups := by
  rw [matchComponent?, Option.map_eq_some_iff]
  constructor
  · rintro ⟨groups, hgroups, rfl⟩
    exact ⟨rfl, hgroups⟩
  · rintro ⟨rfl, hgroups⟩
    exact ⟨_, hgroups, rfl⟩

/-- The match of an input tells, for each component, its value and the groups found in it. -/
theorem exec?_eq_some_iff : m.exec? input base = some found ↔
    ∃ values, resolve? input base = some values ∧ found.input = input ∧ found.base = base ∧
      ∀ c, (found.components.get c).value = values.get c ∧
        (m.components.get c).compiled.groups? (values.get c) =
          some (found.components.get c).groups := by
  simp only [← matchComponent?_eq_some_iff, ← Components.mapM_eq_some_iff]
  constructor
  · intro h
    obtain ⟨values, hvalues, h⟩ := Option.bind_eq_some_iff.1 h
    obtain ⟨components, hcomponents, ⟨⟩⟩ := Option.bind_eq_some_iff.1 h
    exact ⟨values, hvalues, rfl, rfl, hcomponents⟩
  · rintro ⟨values, hvalues, rfl, rfl, hcomponents⟩
    refine Option.bind_eq_some_iff.2 ⟨values, hvalues, ?_⟩
    exact Option.bind_eq_some_iff.2 ⟨found.components, hcomponents, rfl⟩

/-- **An input matches exactly if there is a match.** -/
theorem test_iff_isSome_exec? : m.test input base ↔ (m.exec? input base).isSome := by
  rw [test_iff, Option.isSome_iff_exists]
  simp only [exec?_eq_some_iff, ← exists_groups?_iff]
  constructor
  · rintro ⟨values, hvalues, hgroups⟩
    choose groups hgroups using hgroups
    refine ⟨⟨input, base, .ofFn fun c => ⟨values.get c, groups c⟩⟩, values, hvalues, rfl, rfl,
      fun c => ?_⟩
    rw [Components.get_ofFn]
    exact ⟨rfl, hgroups c⟩
  · rintro ⟨found, values, hvalues, -, -, hall⟩
    exact ⟨values, hvalues, fun c => ⟨_, (hall c).2⟩⟩

/-! ### URL patterns that are built -/

/-- What a text or fields describe is compiled from the patterns of the components. -/
theorem exists_patterns_of_ofInput (h : ofInput source sourceBase ignoreCase = .ok m) :
    ∃ patterns, compile patterns ignoreCase = .ok m := by
  have hfields {f : Fields} (h : ofFields f ignoreCase = .ok m) :
      ∃ patterns, compile patterns ignoreCase = .ok m := by
    obtain ⟨patterns, -, hcompiled⟩ := bind_eq_ok.1 h
    exact ⟨_, hcompiled⟩
  cases source with
  | text t =>
      obtain ⟨f, -, h⟩ := bind_eq_ok.1 h
      exact hfields h
  | fields f =>
      cases sourceBase with
      | none => exact hfields h
      | some b => cases h

/-- **An input matches a URL pattern exactly if there is a match, and the match loses no group**:
for each component it tells the value that the input stands for, and one group for each capture,
under the text that the capture's name is found under. No two captures of a component are found
under the same text. -/
theorem test_iff_and_groups_exec? (h : ofInput source sourceBase ignoreCase = .ok m) (input : Input)
    (base : Option Text) :
    (m.test input base ↔ (m.exec? input base).isSome) ∧
      ∀ found, m.exec? input base = some found →
        ∃ values, resolve? input base = some values ∧ ∀ c,
          (found.components.get c).value = values.get c ∧
          (found.components.get c).groups.map Prod.fst =
            (m.components.get c).compiled.keys.map (·.name.display) ∧
          ((m.components.get c).compiled.keys.map (·.name.display)).Nodup := by
  refine ⟨test_iff_isSome_exec?, fun found hfound => ?_⟩
  obtain ⟨patterns, hcompiled⟩ := exists_patterns_of_ofInput h
  obtain ⟨values, hvalues, -, -, hall⟩ := exec?_eq_some_iff.1 hfound
  refine ⟨values, hvalues, fun c => ?_⟩
  obtain ⟨hvalue, hgroups⟩ := hall c
  exact ⟨hvalue, names_of_groups? hgroups,
    ComponentPattern.nodup_names ((compile_eq_ok_iff.1 hcompiled).2 c)⟩

/-- `test_iff_and_groups_exec?` at a path with two names, a regular expression and a wildcard. -/
theorem test_iff_and_groups_exec?_of_names :
    let source : Input := .text "/:id/(\\d+)/*:_0?".toList
    let base := some "http://h".toList
    let input : Input := .text "/a/7/b".toList
    ∃ m found, ofInput source base false = .ok m ∧ m.test input base ∧
      m.exec? input base = some found ∧ found.components.pathname.value = "/a/7/b".toList ∧
      found.components.pathname.groups.map Prod.fst =
        ["id".toList, ['0'], ['1'], "_0".toList] := by
  intro source base input
  have hall : (ofInput source base false).toOption.map
      (fun m => (m.exec? input base).map fun found => (found.components.pathname.value,
        m.components.pathname.compiled.keys.map (·.name.display))) =
      some (some ("/a/7/b".toList, ["id".toList, ['0'], ['1'], "_0".toList])) := by
    decide +kernel
  obtain ⟨m, hm, hexec⟩ := Option.map_eq_some_iff.1 hall
  obtain ⟨found, hfound, hpathname⟩ := Option.map_eq_some_iff.1 hexec
  obtain ⟨hvalue, hkeys⟩ := Prod.mk.inj hpathname
  rw [toOption_eq_some] at hm
  obtain ⟨htest, hgroups⟩ := test_iff_and_groups_exec? hm input base
  obtain ⟨values, -, hcomponents⟩ := hgroups found hfound
  have hnames : found.components.pathname.groups.map Prod.fst =
      m.components.pathname.compiled.keys.map (·.name.display) := (hcomponents .pathname).2.1
  refine ⟨m, found, hm, htest.2 ?_, hfound, hvalue, hnames.trans hkeys⟩
  rw [hfound]
  rfl

end Matcher

end UrlMatch
