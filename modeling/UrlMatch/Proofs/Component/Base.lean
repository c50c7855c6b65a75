import UrlMatch.Fields.Basic
import UrlMatch.Proofs.Component.Literal
import UrlMatch.Proofs.Host.Address
import UrlMatch.Proofs.Url.Absolute
import UrlMatch.Proofs.Url.Port

/-!
# The components of a URL that is read

What a URL with a special scheme holds is canonical, component by component: the same functions that
bring patterns into their canonical form leave it as it is. This is about the components that a
pattern takes from a base, and about all special schemes but `file`.

## Main results

* `Component.encode_baseText`: the components of a URL are canonical.
-/

namespace UrlMatch

namespace Encoding

open Host

variable {v : Text}

/-! ### Hosts -/

/-- The digits of an IPv6 address are in lower case, and no brackets. -/
theorem isIpv6Part_of_mem_render {pieces : List Nat} {c : Char} (h : c ∈ Ipv6.render pieces) :
    isIpv6Part c ∧ c.isUpper = false ∧ c ≠ '[' ∧ c ≠ ']' := by
  have hdigit : ∀ d ∈ List.range 16, isIpv6Part (Nat.digitChar d) ∧
      (Nat.digitChar d).isUpper = false ∧ Nat.digitChar d ≠ '[' ∧ Nat.digitChar d ≠ ']' := by
    decide
  rcases Ipv6.mem_render h with rfl | ⟨d, hd, rfl⟩
  · decide
  · exact hdigit d (List.mem_range.2 hd)

/-- An IPv6 address stands in one pair of brackets. -/
theorem checkIpv6Literal_ipv6 (pieces : List Nat) :
    checkIpv6Literal (Host.render (.ipv6 pieces)) = .ok () := by
  refine checkIpv6Literal_eq_ok_iff.2 ⟨Ipv6.render pieces, rfl, fun c hc => ?_⟩
  obtain ⟨-, -, hopening, hclosing⟩ := isIpv6Part_of_mem_render hc
  simp [isBracket, hopening, hclosing]

/-- An IPv6 address is canonical. -/
theorem ipv6Hostname_ipv6 (pieces : List Nat) :
    ipv6Hostname (Host.render (.ipv6 pieces)) = .ok (Host.render (.ipv6 pieces)) := by
  have hchar : ∀ c ∈ Host.render (.ipv6 pieces), isIpv6Part c ∧ c.isUpper = false := by
    intro c hc
    rcases List.mem_append.1 hc with hc | hc
    · rcases List.mem_cons.1 hc with rfl | hc
      · decide
      · obtain ⟨hpart, hupper, -⟩ := isIpv6Part_of_mem_render hc
        exact ⟨hpart, hupper⟩
    · obtain rfl := List.mem_singleton.1 hc
      decide
  exact ipv6Hostname_eq_ok_iff.2
    ⟨fun c hc => (hchar c hc).1, (Text.asciiLower_eq_self fun c hc => (hchar c hc).2).symm⟩

/-- A text of the characters of a name does not look like an IPv6 address. -/
theorem looksLikeIpv6_of_isNameChar (h : ∀ c ∈ v, isNameChar c) : looksLikeIpv6 v = false := by
  have hbracket : isNameChar '[' = false := by decide
  rw [looksLikeIpv6.eq_def]
  split <;> simp_all

/-- The text of a host, escaped or not, and the check of its brackets. -/
theorem encode_host {t : Text} {host : Host} (h : Host.parse t = .ok host) (special : Bool) :
    Component.encode .hostname (Pattern.escape host.render) special host.render = .ok host.render ∧
      (looksLikeIpv6 (Pattern.escape host.render) → checkBrackets host.render = .ok ()) := by
  rcases isNameChar_or_ipv6 h with hname | ⟨pieces, rfl⟩
  · have hlooks := looksLikeIpv6_of_isNameChar hname
    have hescape : looksLikeIpv6 (Pattern.escape host.render) = false := by
      rw [looksLikeIpv6_escape (by simp [hlooks]), hlooks]
    rw [Component.encode, hescape]
    exact ⟨hostname_eq_self hname, fun h => absurd h Bool.false_ne_true⟩
  · have hescape : looksLikeIpv6 (Pattern.escape (Host.render (.ipv6 pieces))) := by
      rw [looksLikeIpv6_escape fun _ => checkIpv6Literal_ipv6 pieces]
      cases hrender : Ipv6.render pieces <;> simp [Host.render, hrender, looksLikeIpv6]
    rw [Component.encode, if_pos hescape]
    exact ⟨ipv6Hostname_ipv6 pieces,
      fun _ => checkBrackets_of_checkIpv6Literal (checkIpv6Literal_ipv6 pieces)⟩

/-! ### The other components -/

theorem protocol_of_isSpecialScheme (h : Url.isSpecialScheme v) : protocol v = .ok v := by
  have hall : ∀ scheme ∈ Url.specialSchemes, protocol scheme = .ok scheme := by decide
  exact hall v (of_decide_eq_true h)

end Encoding

/-! ### All components -/

namespace Component

open Fields Url

variable {c : Component} {u : Url}

/-- The text of the host of a URL is the text of a host that is read. -/
theorem exists_host (h : u.Network) :
    ∃ t host, Host.parse t = .ok host ∧ baseText u .hostname = host.render := by
  obtain ⟨t, host, hread, hhost⟩ := h.host
  refine ⟨t, host, hread, ?_⟩
  rw [baseText, Url.hostname, hhost]
  rfl

/-- The brackets of a host are in order. -/
theorem checkBrackets_baseText (h : u.Network)
    (hlooks : Encoding.looksLikeIpv6 (Pattern.escape (baseText u .hostname))) :
    Encoding.checkBrackets (baseText u .hostname) = .ok () := by
  obtain ⟨t, host, hread, hname⟩ := exists_host h
  rw [hname] at hlooks ⊢
  exact (Encoding.encode_host hread true).2 hlooks

/-- The text of a port is canonical. -/
theorem port_portText (h : u.HoldsPort) : Encoding.port u.portText = .ok u.portText := by
  rw [portText]
  cases hport : u.port with
  | none => rfl
  | some n => exact Encoding.port_decimal (h n hport).1

/-- **The components of a URL are canonical**, unless they begin with their mark. -/
theorem encode_baseText (h : u.Network) (hmark : c.Unmarked (baseText u c)) :
    c.encode (Pattern.escape (baseText u c)) true (baseText u c) = .ok (baseText u c) := by
  cases c with
  | protocol => exact Encoding.protocol_of_isSpecialScheme h.isSpecialScheme
  | username => exact congrArg Except.ok (Percent.encode_eq_self h.encoded.username)
  | password =>
      have hpassword := Percent.encoded_getD h.encoded.password
      exact congrArg Except.ok (Percent.encode_eq_self hpassword)
  | hostname =>
      obtain ⟨t, host, hread, hname⟩ := exists_host h
      rw [hname]
      exact (Encoding.encode_host hread true).1
  | port => exact port_portText h.port
  | pathname => exact Encoding.specialPathname_of_settled h.path
  | search =>
      have hquery := Percent.encoded_getD h.encoded.query
      rw [h.kind] at hquery
      exact congrArg Except.ok ((Encoding.encode_behind_mark '?' hquery).trans
        (Text.dropLeading_eq_self (hmark '?' rfl)))
  | hash =>
      have hfragment := Percent.encoded_getD h.encoded.fragment
      exact congrArg Except.ok ((Encoding.encode_behind_mark '#' hfragment).trans
        (Text.dropLeading_eq_self (hmark '#' rfl)))

end Component

end UrlMatch
