import UrlMatch.Proofs.Component.Ipv6
import UrlMatch.Proofs.Component.Port
import UrlMatch.Proofs.Url.Path

/-!
# Canonical texts are their own canonical form

Each component brings its texts into a form that it does not change again, with one exception: a
query and a fragment lose the mark in front of them each time, so that a mark that is left in front
of the canonical form would be lost too.

## Main results

* `Component.encode_canonical`: a canonical text loses the mark of its component, and nothing else.
* `Component.encode_eq_self_iff`: a canonical text is its own canonical form exactly if it does not
  begin with that mark.
-/

namespace UrlMatch

/-! ### Schemes and users -/

namespace Encoding

variable {t v : Text}

/-- The canonical form of a scheme, which has no other characters, is its lower case. -/
theorem protocol_eq_ok_iff :
    protocol t = .ok v ↔ (∀ c ∈ t, isSchemePart c) ∧ v = Text.asciiLower t := by
  rw [protocol, ← List.all_eq_true]
  split
  · rename_i hall
    simp only [hall, true_and, Except.ok.injEq, eq_comm]
  · rename_i hall
    exact iff_of_false nofun fun h => hall h.1

theorem protocol_of_protocol (h : protocol t = .ok v) : protocol v = .ok v := by
  obtain ⟨hparts, rfl⟩ := protocol_eq_ok_iff.1 h
  exact protocol_eq_ok_iff.2
    ⟨Text.forall_mem_asciiLower hparts (by decide), (Text.asciiLower_asciiLower t).symm⟩

/-- Encoding twice is encoding once. -/
theorem percent_of_percent {reserved : Char → Bool} (hr : Percent.SparesSigns reserved)
    (t : Text) :
    Percent.encode reserved (Percent.encode reserved t) = Percent.encode reserved t :=
  Percent.encode_eq_self (Percent.isEncoded_of_mem_encode hr)

/-! ### Hosts -/

/-- In a text that a host is read from, no character is forbidden. -/
theorem find?_isForbiddenInHost {t : Text} :
    t.find? isForbiddenInHost = none ↔ ∀ c ∈ t, isForbiddenInHost c = false := by
  simp [List.find?_eq_none]

/-- What a domain name may hold is not forbidden in a host. -/
theorem isForbiddenInHost_of_isNameChar {c : Char} (h : Host.isNameChar c) :
    isForbiddenInHost c = false := by
  have hall : ∀ c ∈ ['\t', '\n', '\r', ' ', '#', '%', '/', ':', '<', '>', '?', '@', '[', '\\', ']',
      '^', '|'], Host.isNameChar c = false := Text.forall_mem_of_all (by decide)
  by_contra hforbidden
  rw [Bool.not_eq_false, isForbiddenInHost, decide_eq_true_eq] at hforbidden
  exact absurd h (by simp [hall c hforbidden])

/-- A text of the characters of a domain name is canonical. -/
theorem hostname_eq_self (h : ∀ c ∈ v, Host.isNameChar c) : hostname v = .ok v := by
  have hnone := find?_isForbiddenInHost.2 fun c hc => isForbiddenInHost_of_isNameChar (h c hc)
  have hchar (c : Char) (hc : c ∈ v) : c.val < 128 ∧ c.isUpper = false := by
    have hname := h c hc
    simp only [Host.isNameChar, Bool.and_eq_true, decide_eq_true_eq, Bool.not_eq_true'] at hname
    exact hname.1
  have hascii : Text.isAscii v := List.all_eq_true.2 fun c hc => by simpa using (hchar c hc).1
  rw [hostname, hnone]
  simp only [hascii, if_true, Text.asciiLower_eq_self fun c hc => (hchar c hc).2]

/-- Nothing with a forbidden character has a canonical form as a host name. -/
theorem allowed_of_hostname (h : hostname t = .ok v) : ∀ c ∈ t, isForbiddenInHost c = false := by
  rw [hostname] at h
  split at h
  · cases h
  · rename_i hnone
    exact find?_isForbiddenInHost.1 hnone

/-- What becomes of a host name: one of ASCII is only put into lower case, and one that is read as a
host is written with the characters of a domain name. -/
theorem hostname_cases (h : hostname t = .ok v) :
    ((∀ c ∈ t, isForbiddenInHost c = false) ∧ Text.isAscii t ∧ v = Text.asciiLower t) ∨
      (Text.isAscii t = false ∧ ∀ c ∈ v, Host.isNameChar c) := by
  have hallowed := allowed_of_hostname h
  rw [hostname] at h
  split at h
  · cases h
  · split at h
    · rename_i hascii
      exact .inl ⟨hallowed, hascii, (Except.ok.inj h).symm⟩
    · rename_i hascii
      split at h
      · rename_i host hparse
        obtain rfl := Except.ok.inj h
        have hbracket : t.head? ≠ some '[' := by
          intro hhead
          exact absurd (hallowed _ (List.mem_of_mem_head? hhead)) (by decide)
        exact .inr ⟨by simpa using hascii, Host.isNameChar_render hparse hbracket⟩
      · cases h

/-- What is looked for in a host name is not in its canonical form. -/
theorem isForbiddenInHost_of_hostname (h : hostname t = .ok v) :
    ∀ c ∈ v, isForbiddenInHost c = false := by
  rcases hostname_cases h with ⟨hallowed, -, rfl⟩ | ⟨-, hname⟩
  · exact Text.forall_mem_asciiLower hallowed (by decide)
  · exact fun c hc => isForbiddenInHost_of_isNameChar (hname c hc)

theorem hostname_of_hostname (h : hostname t = .ok v) : hostname v = .ok v := by
  have hnone := find?_isForbiddenInHost.2 (isForbiddenInHost_of_hostname h)
  rcases hostname_cases h with ⟨-, hascii, rfl⟩ | ⟨-, hname⟩
  · have hlt : ∀ c ∈ Text.asciiLower t, decide (c.val < 128) :=
      Text.forall_mem_asciiLower (List.all_eq_true.1 hascii) (by decide)
    have hlowerAscii : Text.isAscii (Text.asciiLower t) := List.all_eq_true.2 hlt
    rw [hostname, hnone]
    simp only [hlowerAscii, if_true, Text.asciiLower_asciiLower]
  · exact hostname_eq_self hname

theorem ipv6Hostname_of_ipv6Hostname (h : ipv6Hostname t = .ok v) : ipv6Hostname v = .ok v := by
  obtain ⟨hparts, rfl⟩ := ipv6Hostname_eq_ok_iff.1 h
  exact ipv6Hostname_eq_ok_iff.2
    ⟨Text.forall_mem_asciiLower hparts (by decide), (Text.asciiLower_asciiLower t).symm⟩

/-! ### Paths -/

/-- There is nothing in a settled path that reading ignores. -/
theorem dropIgnored_eq_self (h : ∀ c ∈ t, Percent.isControl c = false) : Url.dropIgnored t = t := by
  refine List.filter_eq_self.2 fun c hc => ?_
  have hcontrols : ∀ c ∈ ['\t', '\n', '\r'], Percent.isControl c :=
    Text.forall_mem_of_all (by decide)
  by_contra hignored
  simp only [Url.isIgnored, Bool.not_eq_true', Bool.not_eq_false, Bool.or_eq_true,
    beq_iff_eq] at hignored
  exact absurd (hcontrols c (by simpa [or_assoc] using hignored)) (by simp [h c hc])

theorem isControl_of_isEncoded {reserved : Char → Bool} {c : Char}
    (h : Percent.isEncoded reserved c = false) : Percent.isControl c = false := by
  simp only [Percent.isEncoded, Bool.or_eq_false_iff] at h
  exact h.1.1

theorem settled_specialPath (t : Text) : Url.Path.Settled (specialPath t) :=
  Url.Path.settled_parse _

theorem specialPath_eq_self (h : Url.Path.Settled t) : specialPath t = t := by
  have hchars : ∀ c ∈ t, Percent.isControl c = false := by
    intro c hc
    rcases h.mem hc with rfl | hkept
    · decide
    · exact isControl_of_isEncoded (Url.Path.isEncoded_of_isKeptChar hkept)
  rw [specialPath, dropIgnored_eq_self hchars, Url.Path.parse_eq_self h]

theorem specialPathname_of_settled (h : Url.Path.Settled v) : specialPathname v = .ok v := by
  have hself := specialPath_eq_self h
  obtain ⟨segments, hne, -, rfl⟩ := h
  obtain ⟨s, rest, rfl⟩ := List.exists_cons_of_ne_nil hne
  rw [Url.Path.ofSegments_cons, List.cons_append] at hself ⊢
  rw [specialPathname, hself]

theorem specialPathname_of_specialPathname (h : specialPathname t = .ok v) :
    specialPathname v = .ok v := by
  rw [specialPathname.eq_def] at h
  split at h
  · obtain rfl := Except.ok.inj h
    rfl
  · obtain rfl := Except.ok.inj h
    exact specialPathname_of_settled (settled_specialPath _)
  · obtain rfl := Except.ok.inj h
    have hdrop := (settled_specialPath ('/' :: '-' :: t)).drop
    generalize (specialPath ('/' :: '-' :: t)).drop 2 = v at hdrop
    rcases hdrop with rfl | hsettled | ⟨hhead, hsettled⟩
    · rfl
    · exact specialPathname_of_settled hsettled
    · rw [specialPathname.eq_def]
      split
      · rfl
      · exact absurd rfl hhead
      · rw [specialPath_eq_self hsettled]
        rfl

/-! ### Queries and fragments -/

/-- Of an encoded text, another round takes away the mark in front of it, and nothing else. -/
theorem encode_behind_mark {reserved : Char → Bool} (mark : Char)
    (h : ∀ c ∈ v, Percent.isEncoded reserved c = false) :
    Percent.encode reserved (Url.dropIgnored (Text.dropLeading mark v)) =
      Text.dropLeading mark v := by
  have hbehind (c : Char) (hc : c ∈ Text.dropLeading mark v) :
      Percent.isEncoded reserved c = false := h c (Text.mem_of_mem_dropLeading hc)
  rw [dropIgnored_eq_self fun c hc => isControl_of_isEncoded (hbehind c hc),
    Percent.encode_eq_self hbehind]

end Encoding

/-! ### All components -/

namespace Component

/-- The mark that a component loses each time that it is brought into its canonical form. -/
def mark? : Component → Option Char
  | search => some '?'
  | hash => some '#'
  | _ => none

/-- The text does not begin with the component's mark. -/
def Unmarked (c : Component) (t : Text) : Prop := ∀ ch ∈ c.mark?, t.head? ≠ some ch

instance (c : Component) (t : Text) : Decidable (c.Unmarked t) :=
  decidable_of_iff (c.mark?.all fun ch => t.head? != some ch) (by
    simp only [Option.all_eq_true, bne_iff_ne, Unmarked, Option.mem_def])

/-- The text without the component's mark, if it begins with it. -/
def dropMark (c : Component) (t : Text) : Text :=
  match c.mark? with
  | some ch => Text.dropLeading ch t
  | none => t

theorem dropMark_eq_self_iff {c : Component} {t : Text} : c.dropMark t = t ↔ c.Unmarked t := by
  cases c
  all_goals simp [dropMark, Unmarked, mark?, Text.dropLeading_eq_self_iff]

variable {c : Component} {raw raw' t v : Text} {special : Bool}

/-- **A canonical text has a canonical form**: itself without the mark of its component. -/
theorem encode_canonical (h : c.encode raw special t = .ok v)
    (hraw : c = .hostname → Encoding.looksLikeIpv6 raw' = Encoding.looksLikeIpv6 raw) :
    c.encode raw' special v = .ok (c.dropMark v) := by
  cases c with
  | protocol => exact Encoding.protocol_of_protocol h
  | username | password =>
      obtain rfl := Except.ok.inj h
      exact congrArg Except.ok (Encoding.percent_of_percent (by decide) t)
  | hostname =>
      rw [encode] at h ⊢
      rw [hraw rfl]
      split
      · rename_i hip
        rw [if_pos hip] at h
        exact Encoding.ipv6Hostname_of_ipv6Hostname h
      · rename_i hip
        rw [if_neg hip] at h
        exact Encoding.hostname_of_hostname h
  | port => exact Encoding.port_of_port h
  | pathname =>
      rw [encode] at h ⊢
      cases special with
      | true => exact Encoding.specialPathname_of_specialPathname h
      | false =>
          obtain rfl := Except.ok.inj h
          exact congrArg Except.ok (Encoding.percent_of_percent (by decide) t)
  | search =>
      obtain rfl := Except.ok.inj h
      exact congrArg Except.ok
        (Encoding.encode_behind_mark '?' (Percent.isEncoded_of_mem_encode (by decide)))
  | hash =>
      obtain rfl := Except.ok.inj h
      exact congrArg Except.ok
        (Encoding.encode_behind_mark '#' (Percent.isEncoded_of_mem_encode (by decide)))

/-- A canonical text that does not begin with the mark of its component is its own canonical
form. -/
theorem encode_of_encode (h : c.encode raw special t = .ok v) (hmark : c.Unmarked v)
    (hraw : c = .hostname → Encoding.looksLikeIpv6 raw' = Encoding.looksLikeIpv6 raw) :
    c.encode raw' special v = .ok v := by
  rw [encode_canonical h hraw, dropMark_eq_self_iff.2 hmark]

/-- **A canonical text is its own canonical form exactly if** it does not begin with the mark of its
component. -/
theorem encode_eq_self_iff (h : c.encode raw special t = .ok v) :
    c.encode raw special v = .ok v ↔ c.Unmarked v := by
  rw [encode_canonical h fun _ => rfl, Except.ok.injEq, dropMark_eq_self_iff]

/-- The user name `a b` becomes `a%20b`, which stays. -/
theorem encode_eq_self_of_blank :
    username.encode [] false "a b".toList = .ok "a%20b".toList ∧
      username.encode [] false "a%20b".toList = .ok "a%20b".toList := by
  have hencode : username.encode [] false "a b".toList = .ok "a%20b".toList := by decide
  exact ⟨hencode, (encode_eq_self_iff hencode).2 (by decide)⟩

/-- Of two marks in front of a query one is left, which is lost in the next round. -/
theorem not_encode_eq_self_of_marks :
    search.encode [] false "??a".toList = .ok "?a".toList ∧
      search.encode [] false "?a".toList = .ok "a".toList := by
  decide

end Component

end UrlMatch
