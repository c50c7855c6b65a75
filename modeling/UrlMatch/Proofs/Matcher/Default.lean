import UrlMatch.Proofs.Component.Wildcard
import UrlMatch.Proofs.Fields.Lines
import UrlMatch.Proofs.Matcher.Exec

/-!
# The pattern of all URLs

If no component is given, each of them is described by an asterisk. An asterisk takes any line, and
the values of a URL are lines, be they read from a text, taken from a base or given as fields. So
whatever stands for a URL matches, and is reported as a whole.

## Main results

* `newline_notMem_of_resolve?`: the values of an input are lines.
* `exec?_ofFields_empty`: **the pattern without components matches whatever stands for a URL**.
-/

namespace UrlMatch.Matcher

variable {input : Input} {base : Option Text} {values : Components Text} {u : Url} {t : Text}

/-! ### The values of an input -/

/-- The values of a URL are its own texts, or what is behind the marks in front of them. -/
theorem get_urlValues_suffix (u : Url) (c : Component) :
    (urlValues u).get c <:+ Fields.baseText u c := by
  cases c with
  | search => exact List.dropWhile_suffix _
  | hash => exact List.dropWhile_suffix _
  | _ => exact List.suffix_rfl

/-- A URL is encoded, be it read beside a base or not. -/
theorem encoded_of_parseUrl? (h : parseUrl? t base = some u) : u.Encoded :=
  of_parseUrl? Url.encoded_parse h

/-- **The values of an input are lines.** -/
theorem newline_notMem_of_resolve? (h : resolve? input base = some values) (c : Component) :
    '\n' ∉ values.get c := by
  cases input with
  | text t =>
      obtain ⟨u, hu, rfl⟩ := Option.map_eq_some_iff.1 h
      have hline := ((encoded_of_parseUrl? hu).baseText c).newline_notMem
      exact fun hn => hline ((get_urlValues_suffix u c).subset hn)
  | fields f =>
      cases base with
      | none => exact Fields.newline_notMem_of_complete (toOption_eq_some.1 h) c
      | some b => cases h

/-! ### The pattern without components -/

/-- What is not given is an asterisk. -/
theorem ofFields_empty (ignoreCase : Bool) :
    ofFields .empty ignoreCase = compile (.replicate wildcard) ignoreCase := by
  have hcomplete : Fields.empty.complete .pattern (.replicate wildcard) =
      .ok (.replicate wildcard) :=
    Fields.foldlM_place_of_none fun c _ => Components.get_replicate none c
  rw [ofFields, hcomplete]
  rfl

/-- All asterisks are compiled. -/
theorem exists_compile_wildcard (ignoreCase : Bool) :
    ∃ m, compile (.replicate wildcard) ignoreCase = .ok m := by
  have hprotocol (p : ComponentPattern)
      (hp : ComponentPattern.ofText .protocol false ignoreCase ['*'] = .ok p) :
      p.matchesSpecialScheme = true := by
    obtain ⟨q, hq, -, hspecial⟩ := ComponentPattern.ofText_wildcard .protocol false ignoreCase
    obtain rfl := Except.ok.inj (hp.symm.trans hq)
    exact hspecial
  refine exists_compile hprotocol fun c => ?_
  obtain ⟨p, hp, -⟩ := ComponentPattern.ofText_wildcard c true ignoreCase
  exact ⟨p, by rwa [Components.get_replicate]⟩

/-- **The pattern without components matches whatever stands for a URL**, whether case matters or
not. Its match has one group for each component, and this group is all of the component's value. -/
theorem exec?_ofFields_empty (ignoreCase : Bool) :
    ∃ m, ofFields .empty ignoreCase = .ok m ∧ ∀ input base values,
      resolve? input base = some values →
        m.test input base ∧
        m.exec? input base =
          some ⟨input, base, values.map fun _ value => ⟨value, [(['0'], some value)]⟩⟩ ∧
        ∀ c, '\n' ∉ values.get c := by
  obtain ⟨m, hm⟩ := exists_compile_wildcard ignoreCase
  refine ⟨m, (ofFields_empty ignoreCase).trans hm, fun input base values hvalues => ?_⟩
  have hlines := newline_notMem_of_resolve? hvalues
  have hexec : m.exec? input base =
      some ⟨input, base, values.map fun _ value => ⟨value, [(['0'], some value)]⟩⟩ := by
    refine exec?_eq_some_iff.2 ⟨values, hvalues, rfl, rfl, fun c => ?_⟩
    have hone := (compile_eq_ok_iff.1 hm).2 c
    rw [Components.get_replicate] at hone
    rw [Components.get_map]
    exact ⟨rfl, ComponentPattern.groups?_ofText_wildcard hone (hlines c)⟩
  exact ⟨test_iff_isSome_exec?.2 (by rw [hexec]; rfl), hexec, hlines⟩

/-- `exec?_ofFields_empty` at fields with line ends, of which one is written as a byte and the other
is lost. -/
theorem exec?_ofFields_empty_of_line_ends :
    let f := (Fields.empty.set .username "a\nb".toList).set .pathname "/x\ny".toList
    ∃ m values, ofFields .empty true = .ok m ∧ resolve? (.fields f) none = some values ∧
      values.username = "a%0Ab".toList ∧ values.pathname = "/xy".toList ∧
      m.test (.fields f) none ∧
      m.exec? (.fields f) none = some ⟨.fields f, none,
        values.map fun _ value => ⟨value, [(['0'], some value)]⟩⟩ := by
  intro f
  have hresolve : (resolve? (.fields f) none).map (fun values =>
      (values.username, values.pathname)) = some ("a%0Ab".toList, "/xy".toList) := by
    decide +kernel
  obtain ⟨values, hvalues, htexts⟩ := Option.map_eq_some_iff.1 hresolve
  obtain ⟨husername, hpathname⟩ := Prod.mk.inj htexts
  obtain ⟨m, hm, hall⟩ := exec?_ofFields_empty true
  obtain ⟨htest, hexec, -⟩ := hall _ _ _ hvalues
  exact ⟨m, values, hm, hvalues, husername, hpathname, htest, hexec⟩

end UrlMatch.Matcher
