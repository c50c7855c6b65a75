import UrlMatch.Proofs.Component.Encoding
import UrlMatch.Proofs.Fields.Base
import UrlMatch.Proofs.Matcher.Exec

/-!
# A base URL as the input

The text of a URL and the fields that have this URL as their base stand for the same values, with
one exception: a text loses all marks in front of its query and its fragment, and a base loses none.

## Main results

* `get_urlValues_eq_iff`: the values of a URL are its own texts, unless they begin with a mark.
* `resolve?_text_eq_ofBase`: **a URL is resolved alike** as a text and as a base.
-/

namespace UrlMatch.Matcher

variable {u : Url} {t : Text} {c : Component}

/-! ### The values of a URL -/

/-- **The values of a URL are its own texts**, unless they begin with the mark of their component.
-/
theorem get_urlValues_eq_iff :
    (urlValues u).get c = Fields.baseText u c ↔ c.Unmarked (Fields.baseText u c) := by
  have hmarked {mark : Char} {t : Text} :
      t.dropWhile (· == mark) = t ↔ ∀ ch ∈ some mark, t.head? ≠ some ch := by
    simpa using Text.dropWhile_eq_self_iff
  cases c with
  | search => exact hmarked
  | hash => exact hmarked
  | _ => exact ⟨fun _ _ h => (Option.not_mem_none _ h).elim, fun _ => rfl⟩

/-- **A URL is resolved alike as a text and as a base**, component by component, exactly where its
own text does not begin with the mark of the component. If none does, the two match the same URL
patterns. -/
theorem resolve?_text_eq_ofBase (h : Url.parse none t = .ok u) :
    ∃ values values', resolve? (.text t) none = some values ∧
      resolve? (.fields (.ofBase t)) none = some values' ∧
      (∀ c, values.get c = values'.get c ↔ c.Unmarked (Fields.baseText u c)) ∧
      ((∀ c : Component, c.Unmarked (Fields.baseText u c)) → values = values' ∧ ∀ m : Matcher,
        m.test (.text t) none = m.test (.fields (.ofBase t)) none ∧
        (m.exec? (.text t) none).isSome = (m.exec? (.fields (.ofBase t)) none).isSome) := by
  have htext : resolve? (.text t) none = some (urlValues u) := by
    rw [resolve?, parseUrl?, h]
    rfl
  have hfields : resolve? (.fields (.ofBase t)) none =
      some ((Fields.ofBase t).inherit .url u (.replicate [])) := by
    rw [resolve?, Fields.complete_ofBase h]
    rfl
  have hget (c : Component) :
      (urlValues u).get c = ((Fields.ofBase t).inherit .url u (.replicate [])).get c ↔
        c.Unmarked (Fields.baseText u c) := by
    rw [Fields.get_inherit_url_ofBase, get_urlValues_eq_iff]
  refine ⟨_, _, htext, hfields, hget, fun hunmarked => ?_⟩
  have hvalues := Components.ext_get fun c => (hget c).2 (hunmarked c)
  refine ⟨hvalues, fun m => ?_⟩
  have htest : m.test (.text t) none = m.test (.fields (.ofBase t)) none := by
    rw [test, test, htext, hfields, hvalues]
  exact ⟨htest, Bool.eq_iff_iff.2 (by rw [← test_iff_isSome_exec?, ← test_iff_isSome_exec?, htest])⟩

/-- `resolve?_text_eq_ofBase` at a URL whose query and fragment hold marks, but not in front. -/
theorem resolve?_text_eq_ofBase_of_inner_marks :
    let t := "foo://me:pw@h:80/a?b?#c#".toList
    ∃ u values, Url.parse none t = .ok u ∧ (∀ c : Component, c.Unmarked (Fields.baseText u c)) ∧
      resolve? (.text t) none = some values ∧ resolve? (.fields (.ofBase t)) none = some values ∧
      values.search = "b?".toList ∧ values.hash = "c#".toList := by
  intro t
  have hparse : (Url.parse none t).toOption.map (fun u =>
      Component.all.all fun c => decide (c.Unmarked (Fields.baseText u c))) = some true := by
    decide +kernel
  have hmarks : (resolve? (.text t) none).map (fun values => (values.search, values.hash)) =
      some ("b?".toList, "c#".toList) := by
    decide +kernel
  obtain ⟨u, hu, hall⟩ := Option.map_eq_some_iff.1 hparse
  have hunmarked (c : Component) : c.Unmarked (Fields.baseText u c) :=
    of_decide_eq_true (List.all_eq_true.1 hall c c.mem_all)
  rw [toOption_eq_some] at hu
  obtain ⟨values, values', htext, hbase, -, hagree⟩ := resolve?_text_eq_ofBase hu
  obtain ⟨rfl, -⟩ := hagree hunmarked
  rw [htext] at hmarks
  obtain ⟨hsearch, hhash⟩ := Prod.mk.inj (Option.some.inj hmarks)
  exact ⟨u, values, hu, hunmarked, htext, hbase, hsearch, hhash⟩

/-- **A query that begins with a mark** is taken apart differently: as a text the URL loses the
mark, as a base it does not, and a URL pattern can tell the two apart. -/
theorem not_resolve?_text_eq_ofBase_of_mark :
    let t := "http://h/??a".toList
    let f := Fields.empty.set .search "([?]a)".toList
    ∃ u m, Url.parse none t = .ok u ∧ ofFields f false = .ok m ∧
      resolve? (.text t) none ≠ resolve? (.fields (.ofBase t)) none ∧
      m.test (.text t) none = false ∧ m.test (.fields (.ofBase t)) none := by
  intro t f
  have hu : (Url.parse none t).toOption.isSome := by decide +kernel
  have hm : (ofFields f false).toOption.map (fun m =>
      (m.test (.text t) none, m.test (.fields (.ofBase t)) none)) = some (false, true) := by
    decide +kernel
  obtain ⟨u, hu⟩ := Option.isSome_iff_exists.1 hu
  obtain ⟨m, hm, htest⟩ := Option.map_eq_some_iff.1 hm
  obtain ⟨htext, hbase⟩ := Prod.mk.inj htest
  rw [toOption_eq_some] at hu hm
  have hne : resolve? (.text t) none ≠ resolve? (.fields (.ofBase t)) none := by decide +kernel
  exact ⟨u, m, hu, hm, hne, htext, hbase⟩

end UrlMatch.Matcher
