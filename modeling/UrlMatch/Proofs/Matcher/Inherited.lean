import UrlMatch.Proofs.Component.Base
import UrlMatch.Proofs.Component.Wildcard
import UrlMatch.Proofs.Fields.Lines
import UrlMatch.Proofs.Matcher.Base

/-!
# URL patterns that are inherited from a base

A URL pattern that is nothing but a base takes each component over as a literal, but for the user,
who may be anyone. Whatever signs of patterns the base holds, it matches the URLs whose components
are those of the base, up to a slash behind the path. This is about bases with a special scheme that
is not the one for files.

## Main results

* `ofFields_ofBase`: the patterns that are compiled.
* `exists_compile_basePatterns`: they compile.
* `test_ofBase_iff`: **a URL pattern that is nothing but a base matches this URL only**.
-/

namespace UrlMatch.Matcher

open Pattern

variable {u v : Url} {t w : Text} {c : Component} {ignoreCase : Bool} {m : Matcher}

/-! ### The patterns -/

/-- The patterns that a URL pattern takes from a base. -/
def basePatterns (u : Url) : Components Text := .ofFn fun c =>
  if c = .username ∨ c = .password then wildcard else escape (Fields.baseText u c)

theorem get_basePatterns (hc : c ≠ .username ∧ c ≠ .password) :
    (basePatterns u).get c = escape (Fields.baseText u c) := by
  rw [basePatterns, Components.get_ofFn, if_neg (not_or.2 hc)]

/-- The port of a base is not the one that its scheme has of its own. -/
theorem defaultPort?_ne_port (h : u.Network) :
    Url.defaultPort? (Text.asciiLower (basePatterns u).protocol) ≠ some (basePatterns u).port := by
  have hlower : Text.asciiLower u.scheme = u.scheme :=
    (Encoding.protocol_eq_ok_iff.1
      (Encoding.protocol_of_isSpecialScheme h.isSpecialScheme)).2.symm
  change Url.defaultPort? (Text.asciiLower (escape u.scheme)) ≠ some (escape u.portText)
  rw [Url.defaultPort?_escape, hlower]
  intro hdefault
  have hport : u.HoldsPort := h.port
  have hwritten := escape_injective (Url.port_of_defaultPort? hdefault).2
  exact hport.defaultPort?_ne (hdefault.trans (congrArg some hwritten))

/-- What a URL pattern that is nothing but a base is compiled from. -/
theorem ofFields_ofBase (h : Url.parse none t = .ok u) (hnetwork : u.Network) :
    ofFields (.ofBase t) ignoreCase = compile (basePatterns u) ignoreCase := by
  have hpatterns :
      (Fields.ofBase t).inherit .pattern u (.replicate wildcard) = basePatterns u := by
    refine Components.ext_get fun c => ?_
    rw [Fields.get_inherit_pattern_ofBase, basePatterns, Components.get_ofFn,
      Components.get_replicate]
  rw [ofFields, Fields.complete_ofBase h, ok_bind, hpatterns, withoutDefaultPort,
    if_neg (defaultPort?_ne_port hnetwork)]

/-- The pattern of the scheme of a base matches a special scheme. -/
theorem matchesSpecialScheme_of_base {special : Bool} {p : ComponentPattern} (hnetwork : u.Network)
    (h : ComponentPattern.ofText .protocol special ignoreCase (basePatterns u).protocol = .ok p) :
    p.matchesSpecialScheme := by
  have hmatch := ComponentPattern.isMatch_protocol_iff (v := u.scheme) h
    (Encoding.protocol_of_isSpecialScheme hnetwork.isSpecialScheme)
  rw [ComponentPattern.matchesSpecialScheme_of_isMatch_iff hmatch, hnetwork.isSpecialScheme]

/-- **The patterns that are taken from a base compile**. -/
theorem exists_compile_basePatterns (h : u.Network)
    (hunmarked : ∀ c : Component, c.Unmarked (Fields.baseText u c)) (ignoreCase : Bool) :
    ∃ m, compile (basePatterns u) ignoreCase = .ok m := by
  refine exists_compile (fun p => matchesSpecialScheme_of_base h) fun c => ?_
  by_cases hc : c = .username ∨ c = .password
  · obtain ⟨p, hp, -⟩ := ComponentPattern.ofText_wildcard c true ignoreCase
    rw [basePatterns, Components.get_ofFn, if_pos hc]
    exact ⟨p, hp⟩
  · rw [get_basePatterns (not_or.1 hc)]
    refine ComponentPattern.exists_ofText_escape ignoreCase
      (Component.encode_baseText h (hunmarked c)) ?_
    rintro rfl
    exact Component.checkBrackets_baseText h

/-! ### What they match -/

theorem sensitive_matchOptions (c : Component) : (c.matchOptions false).sensitive := by
  cases c <;> rfl

/-- What the pattern of a component of a base matches. -/
theorem isMatch_base_iff (h : u.Network)
    (hunmarked : ∀ c : Component, c.Unmarked (Fields.baseText u c))
    (hm : compile (basePatterns u) false = .ok m) (hc : c ≠ .username ∧ c ≠ .password) (x : Text) :
    (m.components.get c).compiled.isMatch x ↔
      ∃ s, x = Fields.baseText u c ++ s ∧ (c.matchOptions false).Tolerates s := by
  have hall := (compile_eq_ok_iff.1 hm).2
  have hcompiled := hall c
  have hspecial : m.components.protocol.matchesSpecialScheme :=
    matchesSpecialScheme_of_base h (hall .protocol)
  rw [hspecial, get_basePatterns hc] at hcompiled
  exact ComponentPattern.isMatch_ofText_escape_iff hcompiled
    (Component.encode_baseText h (hunmarked c)) (sensitive_matchOptions c) x

/-- Whoever the user of a URL is, the patterns of a base match. -/
theorem isMatch_user (hm : compile (basePatterns u) false = .ok m) (hv : v.Encoded)
    (hc : c = .username ∨ c = .password) :
    (m.components.get c).compiled.isMatch (Fields.baseText v c) := by
  have hcompiled := (compile_eq_ok_iff.1 hm).2 c
  rw [basePatterns, Components.get_ofFn, if_pos hc] at hcompiled
  exact ComponentPattern.isMatch_ofText_wildcard hcompiled (hv.baseText c).newline_notMem

/-- Behind a path a slash is tolerated. The other delimiters occur in no path. -/
theorem tolerated_path_iff {path path' : Text} (h : Url.Path.Settled path') :
    (∃ s, path' = path ++ s ∧ (Component.matchOptions .pathname false).Tolerates s) ↔
      path' = path ∨ path' = path ++ ['/'] := by
  have hdelimiters : (Component.matchOptions .pathname false).delimiters = ['/', '#', '?'] := rfl
  constructor
  · rintro ⟨s, rfl, rfl | ⟨-, x, hx, rfl⟩⟩
    · exact .inl (List.append_nil path)
    · right
      rcases h.mem (List.mem_append_right path List.mem_cons_self) with rfl | hkept
      · rfl
      · have hmarks : ∀ x ∈ ['/', '#', '?'], Url.Path.isKeptChar x = false :=
          Text.forall_mem_of_all (by decide)
        rw [hdelimiters] at hx
        rw [hmarks x hx] at hkept
        cases hkept
  · rintro (rfl | rfl)
    · exact ⟨[], (List.append_nil _).symm, .inl rfl⟩
    · exact ⟨['/'], rfl, .inr ⟨rfl, '/', by simp [hdelimiters], rfl⟩⟩

/-- A URL matches if the pattern of each component matches its value. -/
theorem test_text_iff (h : Url.parse none w = .ok v) : m.test (.text w) none ↔
    ∀ c, (m.components.get c).compiled.isMatch ((urlValues v).get c) := by
  have hresolve : resolve? (.text w) none = some (urlValues v) := by
    rw [resolve?, parseUrl?, h]
    rfl
  rw [test_iff, hresolve]
  simp

/-- **A URL pattern that is nothing but a base matches this URL only**, up to the user and a slash
behind the path. That it is built at all holds apart from the bounds on the size and nesting of
regular expressions, which `Pattern.compile` leaves out. -/
theorem test_ofBase_iff (h : Url.parse none t = .ok u) (hkind : u.kind = .network)
    (hunmarked : ∀ c : Component, c.Unmarked (Fields.baseText u c)) :
    (∀ ignoreCase, ∃ m, ofFields (.ofBase t) ignoreCase = .ok m) ∧
      ∀ m, ofFields (.ofBase t) false = .ok m → ∀ w v, Url.parse none w = .ok v →
        (m.test (.text w) none ↔
          (∀ c ∈ [Component.protocol, .hostname, .port, .search, .hash],
            (urlValues v).get c = (urlValues u).get c) ∧
          ((urlValues v).pathname = (urlValues u).pathname ∨
            (urlValues v).pathname = (urlValues u).pathname ++ ['/'])) := by
  have hnetwork := Url.network_of_parse h hkind
  refine ⟨fun ignoreCase => ?_, fun m hm w v hv => ?_⟩
  · rw [ofFields_ofBase h hnetwork]
    exact exists_compile_basePatterns hnetwork hunmarked ignoreCase
  rw [ofFields_ofBase h hnetwork] at hm
  have hstrict {c : Component} (hc : c ∈ [Component.protocol, .hostname, .port, .search, .hash]) :
      (m.components.get c).compiled.isMatch ((urlValues v).get c) ↔
        (urlValues v).get c = (urlValues u).get c := by
    have huser : c ≠ .username ∧ c ≠ .password := by
      constructor <;> (rintro rfl; exact absurd hc (by decide))
    rw [isMatch_base_iff hnetwork hunmarked hm huser, get_urlValues_eq_iff.2 (hunmarked c)]
    refine exists_tolerated_iff ?_
    cases c <;> first | rfl | exact absurd hc (by decide)
  have hpathname (hpath : Url.Path.Settled v.path) :
      (m.components.get .pathname).compiled.isMatch ((urlValues v).get .pathname) ↔
        v.path = u.path ∨ v.path = u.path ++ ['/'] :=
    (isMatch_base_iff hnetwork hunmarked hm (by decide) _).trans (tolerated_path_iff hpath)
  have hsettled (hscheme : v.scheme = u.scheme) : Url.Path.Settled v.path :=
    (Url.network_of_parse hv ((congrArg Url.SchemeKind.ofScheme hscheme).trans hkind)).path
  rw [test_text_iff hv]
  constructor
  · intro hall
    have hvalues := fun c hc => (hstrict hc).1 (hall c)
    exact ⟨hvalues, (hpathname (hsettled (hvalues .protocol (by decide)))).1 (hall .pathname)⟩
  · rintro ⟨hvalues, hpath⟩ c
    cases c with
    | username => exact isMatch_user hm (Url.encoded_parse (by simp) hv) (.inl rfl)
    | password => exact isMatch_user hm (Url.encoded_parse (by simp) hv) (.inr rfl)
    | pathname => exact (hpathname (hsettled (hvalues .protocol (by decide)))).2 hpath
    | _ => exact (hstrict (by decide)).2 (hvalues _ (by decide))

/-- `test_ofBase_iff` at a base full of signs of patterns: it is matched with a slash behind the
path and by another user. -/
theorem test_ofBase_iff_of_signs :
    let t := "https://me:pw@[::1]:80/a(b)/:c*+?x=(1)|\\d#*.\x7by\x7d".toList
    let w := "https://[::1]:80/a(b)/:c*+/?x=(1)|\\d#*.\x7by\x7d".toList
    ∃ u v m, Url.parse none t = .ok u ∧ u.kind = .network ∧
      (∀ c : Component, c.Unmarked (Fields.baseText u c)) ∧ Url.parse none w = .ok v ∧
      ofFields (.ofBase t) false = .ok m ∧ m.test (.text w) none := by
  intro t w
  have hparse : ((Url.parse none t).toOption.bind fun u => (Url.parse none w).toOption.map fun v =>
      (u.kind, Component.all.all fun c => decide (c.Unmarked (Fields.baseText u c)),
        decide (∀ c ∈ [Component.protocol, .hostname, .port, .search, .hash],
          (urlValues v).get c = (urlValues u).get c),
        decide ((urlValues v).pathname = (urlValues u).pathname ++ ['/']))) =
      some (.network, true, true, true) := by
    decide +kernel
  obtain ⟨u, hu, hparse⟩ := Option.bind_eq_some_iff.1 hparse
  obtain ⟨v, hv, hparts⟩ := Option.map_eq_some_iff.1 hparse
  simp only [Prod.mk.injEq, decide_eq_true_eq] at hparts
  obtain ⟨hkind, hall, hvalues, hpath⟩ := hparts
  have hunmarked (c : Component) : c.Unmarked (Fields.baseText u c) :=
    of_decide_eq_true (List.all_eq_true.1 hall c c.mem_all)
  rw [toOption_eq_some] at hu hv
  obtain ⟨hcompiles, htest⟩ := test_ofBase_iff hu hkind hunmarked
  obtain ⟨m, hm⟩ := hcompiles false
  exact ⟨u, v, m, hu, hkind, hunmarked, hv, hm, (htest m hm w v hv).2 ⟨hvalues, .inr hpath⟩⟩

end UrlMatch.Matcher
