import UrlMatch.Proofs.Component.Encoding
import UrlMatch.Proofs.Url.Encoded

/-!
# Canonical texts are printable

A canonical text consists of the printable characters of ASCII, from the blank to the tilde: every
other character is refused or written in another way. A host name of ASCII is the exception. It is
not read as a host, which would refuse them, and of the controls only tabs and line ends are looked
for, so that the others are kept.

## Main results

* `Component.encoded_of_encode`: no control is left in a canonical text, unless it is kept so.
* `Component.printable_iff`: a canonical text is printable exactly if no control is kept.
-/

namespace UrlMatch

variable {c : Component} {raw t v : Text} {special : Bool} {ch : Char}

/-! ### Characters -/

/-- Where controls are encoded, the printable characters are left. -/
theorem Percent.isEncoded_controls_iff :
    Percent.isEncoded Percent.controls ch = false ↔ 0x20 ≤ ch.val ∧ ch.val ≤ 0x7E := by
  simp only [Percent.isEncoded, Percent.isControl, Percent.controls, Bool.or_false,
    Bool.or_eq_false_iff, decide_eq_false_iff_not, beq_eq_false_iff_ne, ne_eq,
    UInt32.le_iff_toNat_le, UInt32.lt_iff_toNat_lt, ← UInt32.toNat_inj, UInt32.reduceToNat]
  omega

theorem Percent.isUpper_of_isControl (h : Percent.isControl ch) : ch.isUpper = false := by
  by_contra hupper
  have hcapital := Text.forall_capital (fun ch => Percent.isControl ch = false) (by decide) ch
    (by simpa using hupper)
  simp [hcapital] at h

theorem Percent.Encoded.asciiLower (h : Percent.Encoded Percent.controls t) :
    Percent.Encoded Percent.controls (Text.asciiLower t) :=
  Text.forall_mem_asciiLower h (by decide)

namespace Encoding

/-- What no domain name holds: what is looked for in a host name, and the controls. -/
theorem isForbidden_eq_false_iff :
    Host.Domain.isForbidden ch = false ↔
      isForbiddenInHost ch = false ∧ Percent.isControl ch = false := by
  have hblank : ch.val ≤ 0x20 ↔ ch.val < 0x20 ∨ ch = ' ' := by
    rw [← Char.val_inj, UInt32.le_iff_lt_or_eq]
    rfl
  have hlines : ∀ c ∈ ['\t', '\n', '\r'], c.val < 0x20 := Text.forall_mem_of_all (by decide)
  simp only [Host.Domain.isForbidden, Percent.isControl, isForbiddenInHost, hblank]
  grind

theorem isEncoded_of_isIpv6Part (h : isIpv6Part ch) :
    Percent.isEncoded Percent.controls ch = false := by
  exact Text.forall_ascii
    (fun ch => isIpv6Part ch → Percent.isEncoded Percent.controls ch = false)
    (by decide +kernel) ch (toNat_lt_of_isIpv6Part h) h

/-! ### Canonical texts -/

theorem encoded_of_protocol (h : protocol t = .ok v) : Percent.Encoded Percent.controls v := by
  obtain ⟨hparts, rfl⟩ := protocol_eq_ok_iff.1 h
  have ht : Percent.Encoded Percent.controls t :=
    fun ch hch => Url.isEncoded_of_schemePart (hparts ch hch)
  exact ht.asciiLower

theorem encoded_of_ipv6Hostname (h : ipv6Hostname t = .ok v) :
    Percent.Encoded Percent.controls v := by
  obtain ⟨hparts, rfl⟩ := ipv6Hostname_eq_ok_iff.1 h
  have ht : Percent.Encoded Percent.controls t :=
    fun ch hch => isEncoded_of_isIpv6Part (hparts ch hch)
  exact ht.asciiLower

theorem encoded_of_port (h : port t = .ok v) : Percent.Encoded Percent.controls v := by
  rcases port_eq_ok_iff.1 h with ⟨-, rfl⟩ | ⟨-, rfl⟩
  · exact Percent.encoded_nil
  · exact Url.encoded_decimal _

theorem encoded_of_specialPathname (h : specialPathname t = .ok v) :
    Percent.Encoded Percent.controls v := by
  have hpath (t : Text) : Percent.Encoded Percent.controls (specialPath t) :=
    Url.Path.encoded_parse _ _ _
  rw [specialPathname.eq_def] at h
  split at h
  · cases h
    exact Percent.encoded_nil
  · cases h
    exact hpath _
  · cases h
    exact fun ch hch => hpath _ ch (List.mem_of_mem_drop hch)

end Encoding

namespace Component

/-- A host name that is only put into lower case and holds controls, which stay as they are. -/
structure KeepsControls (c : Component) (raw t : Text) : Prop where
  hostname : c = .hostname
  plain : Encoding.looksLikeIpv6 raw = false
  ascii : Text.isAscii t
  control : ∃ ch ∈ t, Percent.isControl ch

/-- **No control is left in a canonical text**, unless it is kept. -/
theorem encoded_of_encode (h : c.encode raw special t = .ok v) (hkeeps : ¬ c.KeepsControls raw t) :
    Percent.Encoded Percent.controls v := by
  have hencode {reserved : Char → Bool} (hr : Percent.SparesSigns reserved) (s : Text) :
      Percent.Encoded Percent.controls (Percent.encode reserved s) :=
    (Percent.encoded_encode hr s).controls
  cases c with
  | protocol => exact Encoding.encoded_of_protocol h
  | username | password =>
      cases h
      exact hencode (by decide) t
  | hostname =>
      rw [encode] at h
      split at h
      · exact Encoding.encoded_of_ipv6Hostname h
      · rename_i hplain
        rcases Encoding.hostname_cases h with ⟨hallowed, hascii, rfl⟩ | ⟨-, hname⟩
        · have ht : Percent.Encoded Percent.controls t := by
            intro ch hch
            have hlt : ch.val < 128 := by simpa using List.all_eq_true.1 hascii ch hch
            have hcontrol : Percent.isControl ch = false := by
              by_contra hcontrol
              exact hkeeps ⟨rfl, by simpa using hplain, hascii, ch, hch, by simpa using hcontrol⟩
            simp [Percent.isEncoded, Percent.controls, hcontrol, hlt]
          exact ht.asciiLower
        · exact fun ch hch => Url.isEncoded_of_isNameChar (hname ch hch)
  | port => exact Encoding.encoded_of_port h
  | pathname =>
      rw [encode] at h
      split at h
      · exact Encoding.encoded_of_specialPathname h
      · cases h
        exact hencode (by decide) t
  | search | hash =>
      cases h
      exact hencode (by decide) _

/-- A host name that keeps controls is put into lower case, and nothing else. -/
theorem KeepsControls.eq_asciiLower (hkeeps : c.KeepsControls raw t)
    (h : c.encode raw special t = .ok v) : v = Text.asciiLower t := by
  obtain rfl := hkeeps.hostname
  rw [encode, hkeeps.plain] at h
  rcases Encoding.hostname_cases h with ⟨-, -, hv⟩ | ⟨hascii, -⟩
  · exact hv
  · exact absurd hkeeps.ascii (by simp [hascii])

/-- A control that is kept is found in the canonical text. -/
theorem KeepsControls.exists_isControl (hkeeps : c.KeepsControls raw t)
    (h : c.encode raw special t = .ok v) : ∃ ch ∈ v, Percent.isControl ch := by
  obtain ⟨ch, hch, hcontrol⟩ := hkeeps.control
  refine ⟨ch, ?_, hcontrol⟩
  rw [hkeeps.eq_asciiLower h, ← Text.toLower_eq_self (Percent.isUpper_of_isControl hcontrol)]
  exact List.mem_map_of_mem hch

/-- **A canonical text is printable exactly if no control is kept**, and exactly then a canonical
host name holds nothing that no domain name holds. It is ASCII in any case. -/
theorem printable_iff (h : c.encode raw special t = .ok v) :
    ((∀ ch ∈ v, 0x20 ≤ ch.val ∧ ch.val ≤ 0x7E) ↔ ¬ c.KeepsControls raw t) ∧
      (c = .hostname → Encoding.looksLikeIpv6 raw = false →
        ((∀ ch ∈ v, Host.Domain.isForbidden ch = false) ↔ ¬ c.KeepsControls raw t)) ∧
      Text.isAscii v := by
  refine ⟨⟨?_, ?_⟩, fun hhost hplain => ⟨?_, ?_⟩, ?_⟩
  · intro hprintable hkeeps
    obtain ⟨ch, hch, hcontrol⟩ := hkeeps.exists_isControl h
    have hencoded := Percent.isEncoded_controls_iff.2 (hprintable ch hch)
    simp [Encoding.isControl_of_isEncoded hencoded] at hcontrol
  · intro hkeeps ch hch
    exact Percent.isEncoded_controls_iff.1 (encoded_of_encode h hkeeps ch hch)
  · intro hallowed hkeeps
    obtain ⟨ch, hch, hcontrol⟩ := hkeeps.exists_isControl h
    simp [(Encoding.isForbidden_eq_false_iff.1 (hallowed ch hch)).2] at hcontrol
  · intro hkeeps ch hch
    have hcontrol := Encoding.isControl_of_isEncoded (encoded_of_encode h hkeeps ch hch)
    rw [hhost, encode, hplain] at h
    exact Encoding.isForbidden_eq_false_iff.2
      ⟨Encoding.isForbiddenInHost_of_hostname h ch hch, hcontrol⟩
  · refine List.all_eq_true.2 ?_
    by_cases hkeeps : c.KeepsControls raw t
    · rw [hkeeps.eq_asciiLower h]
      exact Text.forall_mem_asciiLower (List.all_eq_true.1 hkeeps.ascii) (by decide)
    · intro ch hch
      have hencoded := encoded_of_encode h hkeeps ch hch
      have hlt : ch.val < 128 := UInt32.lt_of_le_of_lt
        (Percent.isEncoded_controls_iff.1 hencoded).2 (by decide)
      simpa using hlt

/-- The host name `Ex.com` is put into lower case, and no control is in it. -/
theorem printable_of_capital :
    hostname.encode "Ex.com".toList false "Ex.com".toList = .ok "ex.com".toList ∧
      (∀ ch ∈ "ex.com".toList, 0x20 ≤ ch.val ∧ ch.val ≤ 0x7E) ∧
      ∀ ch ∈ "ex.com".toList, Host.Domain.isForbidden ch = false := by
  have hencode :
      hostname.encode "Ex.com".toList false "Ex.com".toList = .ok "ex.com".toList := by
    decide
  have hkeeps : ¬ hostname.KeepsControls "Ex.com".toList "Ex.com".toList := by
    rintro ⟨-, -, -, ch, hch, hcontrol⟩
    have hnone : ∀ ch ∈ "Ex.com".toList, Percent.isControl ch = false :=
      Text.forall_mem_of_all (by decide)
    simp [hnone ch hch] at hcontrol
  obtain ⟨hprintable, hallowed, -⟩ := printable_iff hencode
  exact ⟨hencode, hprintable.2 hkeeps, (hallowed rfl (by decide)).2 hkeeps⟩

/-- A host name with the character NUL stays as it is. -/
theorem not_printable_of_nul :
    hostname.encode ['a', '\x00'] false ['a', '\x00'] = .ok ['a', '\x00'] ∧
      ¬ (∀ ch ∈ ['a', '\x00'], 0x20 ≤ ch.val ∧ ch.val ≤ 0x7E) ∧
      ¬ ∀ ch ∈ ['a', '\x00'], Host.Domain.isForbidden ch = false := by
  refine ⟨by decide, fun hprintable => ?_, fun hallowed => ?_⟩
  · exact absurd (hprintable '\x00' (by simp)) (by decide)
  · exact absurd (hallowed '\x00' (by simp)) (by decide)

end Component

end UrlMatch
