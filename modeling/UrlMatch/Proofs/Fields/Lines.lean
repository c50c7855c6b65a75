import UrlMatch.Proofs.Component.Printable
import UrlMatch.Proofs.Fields.Base

/-!
# Values are lines

No value of a component goes on behind the end of a line, wherever it comes from. A text that is
brought into the canonical form of its component is refused for a line end, loses it, or has it
written as a byte; and a URL that is read has none left in its parts.

## Main results

* `Component.newline_notMem_of_encode`: canonical texts are lines.
* `Url.Encoded.baseText`: nothing is to be encoded in what a base says.
* `Fields.newline_notMem_of_complete`: the values that fields are completed to are lines.
-/

namespace UrlMatch

variable {c : Component} {t v : Text} {special : Bool}

/-! ### Canonical texts -/

/-- **Canonical texts are lines**, those that keep controls among them. -/
theorem Component.newline_notMem_of_encode {raw : Text} (h : c.encode raw special t = .ok v) :
    '\n' ∉ v := by
  by_cases hkeeps : c.KeepsControls raw t
  · obtain rfl := hkeeps.hostname
    rw [encode, hkeeps.plain] at h
    exact fun hn => absurd (Encoding.isForbiddenInHost_of_hostname h '\n' hn) (by decide)
  · exact (encoded_of_encode h hkeeps).newline_notMem

/-! ### The parts of a URL -/

/-- **What a base says is encoded**, as far as controls go. -/
theorem Url.Encoded.baseText {u : Url} (h : u.Encoded) (c : Component) :
    Percent.Encoded Percent.controls (Fields.baseText u c) := by
  cases c with
  | protocol => exact h.scheme
  | username => exact h.username.controls
  | password => exact (Percent.encoded_getD h.password).controls
  | hostname =>
      refine Percent.encoded_getD fun t ht => ?_
      obtain ⟨host, hhost, rfl⟩ := Option.map_eq_some_iff.1 ht
      exact h.host host hhost
  | port =>
      refine Percent.encoded_getD fun t ht => ?_
      obtain ⟨n, -, rfl⟩ := Option.map_eq_some_iff.1 ht
      exact encoded_decimal n
  | pathname => exact h.path
  | search => exact (Percent.encoded_getD h.query).controls
  | hash => exact (Percent.encoded_getD h.fragment).controls

/-! ### Fields -/

namespace Fields

variable {f : Fields} {values : Components Text}

theorem newline_notMem_of_canonicalValue {protocol : Text}
    (h : canonicalValue c protocol t = .ok v) : '\n' ∉ v := by
  rw [canonicalValue] at h
  dsimp only at h
  split at h
  · rename_i hencode
    cases h
    split
    · exact List.not_mem_nil
    · split at hencode
      · obtain ⟨_, -, hencode⟩ := bind_eq_ok.1 hencode
        exact Component.newline_notMem_of_encode hencode
      · exact Component.newline_notMem_of_encode hencode
  · cases h

/-- What a URL of fields takes from its base is made of lines. -/
theorem newline_notMem_beneath {base : Option Url} (hread : f.baseUrl = .ok base) (c : Component) :
    '\n' ∉ (f.beneath .url base (.replicate [])).get c := by
  have hempty : '\n' ∉ (Components.replicate ([] : Text)).get c := by
    rw [Components.get_replicate]
    exact List.not_mem_nil
  cases base with
  | none => exact hempty
  | some u =>
      obtain ⟨t, hparse⟩ := exists_parse_of_baseUrl hread
      have hu : u.Encoded := Url.encoded_parse (by simp) hparse
      rw [beneath, get_inherit]
      split
      · exact (hu.baseText c).newline_notMem
      · exact hempty

/-- **The values of completed fields are lines**: of those that are given and of those that come
from a base. -/
theorem newline_notMem_of_complete (h : f.complete .url (.replicate []) = .ok values)
    (c : Component) : '\n' ∉ values.get c := by
  obtain ⟨base, hread, hplaced⟩ := exists_placed_of_complete h
  have hc := hplaced c
  rw [placed.eq_def] at hc
  split at hc
  · rw [← Except.ok.inj hc]
    exact newline_notMem_beneath hread c
  · rename_i hmode
    cases hmode
  · exact newline_notMem_of_canonicalValue hc

end Fields

end UrlMatch
