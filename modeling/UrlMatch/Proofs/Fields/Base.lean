import UrlMatch.Proofs.Fields.Complete

/-!
# Fields with a base

What is not given comes from a base. If nothing is given, everything that fields describe does, and
if a path alone is given, it is the only component that is worked on.

## Main results

* `complete_ofBase`: fields that are nothing but a base.
* `complete_of_pathname`: fields that are a base and a path.
-/

namespace UrlMatch.Fields

variable {f : Fields} {mode : Mode} {base : Option Url} {u : Url} {t raw : Text} {c : Component}
  {cs : List Component} {start defaults values : Components Text}

/-- The fields that are nothing but a base. -/
def ofBase (t : Text) : Fields := { empty with base := some t }

@[simp] theorem get?_ofBase (t : Text) (c : Component) : (ofBase t).get? c = none :=
  Components.get_replicate none c

/-- What is not given is not placed. -/
theorem foldlM_place_of_none (h : ∀ c ∈ cs, f.get? c = none) :
    cs.foldlM (f.place mode base) start = .ok start := by
  induction cs with
  | nil => rfl
  | cons c cs ih =>
      obtain ⟨hc, hcs⟩ := List.forall_mem_cons.1 h
      rw [List.foldlM_cons, place, hc]
      exact ih hcs

theorem baseUrl_of_parse (hbase : f.base = some t) (h : Url.parse none t = .ok u) :
    f.baseUrl = .ok (some u) := by
  rw [baseUrl, hbase]
  simp only [h]

/-- **Fields that are nothing but a base** are completed by what they inherit. -/
theorem complete_ofBase (h : Url.parse none t = .ok u) :
    (ofBase t).complete mode defaults = .ok ((ofBase t).inherit mode u defaults) := by
  rw [complete, baseUrl_of_parse rfl h, ok_bind]
  exact foldlM_place_of_none fun c _ => get?_ofBase t c

/-- **Fields that are a base and a path**: the path is completed and brought into its canonical
form, and everything else is inherited or missing. -/
theorem complete_of_pathname (hbase : f.base = some t) (h : Url.parse none t = .ok u)
    (hraw : f.get? .pathname = some raw) (hother : ∀ c, c ≠ .pathname → f.get? c = none) :
    f.complete .url defaults =
      (canonicalValue .pathname (f.inherit .url u defaults).protocol
          (completed .url (some u) .pathname raw)).map
        ((f.inherit .url u defaults).set .pathname) := by
  have hnone {cs : List Component} (hcs : .pathname ∉ cs) : ∀ c ∈ cs, f.get? c = none :=
    fun c hc => hother c fun hpathname => hcs (hpathname ▸ hc)
  have hall : Component.all =
      [.protocol, .username, .password, .hostname, .port] ++ .pathname :: [.search, .hash] := rfl
  rw [complete, baseUrl_of_parse hbase h, ok_bind, hall, List.foldlM_append,
    foldlM_place_of_none (hnone (by decide)), ok_bind, List.foldlM_cons, place, hraw]
  dsimp only
  cases canonicalValue .pathname (f.inherit .url u defaults).protocol
      (completed .url (some u) .pathname raw) with
  | error cause => rfl
  | ok path => exact foldlM_place_of_none (hnone (by decide))

/-- A base is a URL that is read without one. -/
theorem exists_parse_of_baseUrl (h : f.baseUrl = .ok (some u)) : ∃ t, Url.parse none t = .ok u := by
  rw [baseUrl.eq_def] at h
  split at h
  · cases h
  · rename_i t _
    split at h
    · rename_i hparse
      cases h
      exact ⟨t, hparse⟩
    · cases h

/-! ### What is inherited -/

/-- Each component is inherited on its own. -/
theorem get_inherit (f : Fields) (mode : Mode) (u : Url) (defaults : Components Text)
    (c : Component) : (f.inherit mode u defaults).get c =
      if f.inherits mode c then inherited mode (baseText u c) else defaults.get c :=
  Components.get_map _ _ c

/-- A component that is not given is missing, or comes from the base. -/
theorem get_of_none (h : f.complete mode defaults = .ok values) (hc : f.get? c = none) :
    values.get c = defaults.get c ∨ ∃ u, f.baseUrl = .ok (some u) ∧ f.inherits mode c ∧
      values.get c = inherited mode (baseText u c) := by
  obtain ⟨base, hread, hplaced⟩ := exists_placed_of_complete h
  have hbefore := hplaced c
  rw [placed.eq_def, hc] at hbefore
  rw [← Except.ok.inj hbefore]
  cases base with
  | none => exact .inl rfl
  | some u =>
      rw [beneath, get_inherit]
      split
      · rename_i hinherits
        exact .inr ⟨u, hread, hinherits, rfl⟩
      · exact .inl rfl

/-- What is inherited is what the base says. -/
theorem get_of_inherits (h : f.complete mode defaults = .ok values)
    (hbase : f.baseUrl = .ok (some u)) (hc : f.inherits mode c) :
    values.get c = inherited mode (baseText u c) := by
  obtain ⟨base, hread, hplaced⟩ := exists_placed_of_complete h
  cases hbase.symm.trans hread
  have hnone : f.get? c = none := by
    cases c <;> simp_all [inherits, lacks, guards]
  have hbefore := hplaced c
  rw [placed.eq_def, hnone] at hbefore
  rw [← Except.ok.inj hbefore, beneath, get_inherit, if_pos hc]

/-- Where nothing is given, everything is inherited, but that a pattern inherits no user. -/
theorem inherits_ofBase (t : Text) (mode : Mode) (c : Component) :
    (ofBase t).inherits mode c = (mode == .url || (c != .username && c != .password)) := by
  simp [inherits, lacks]

/-- The URL that fields with nothing but a base describe. -/
theorem get_inherit_url_ofBase (t : Text) (u : Url) (defaults : Components Text) (c : Component) :
    ((ofBase t).inherit .url u defaults).get c = baseText u c := by
  rw [get_inherit, inherits_ofBase]
  rfl

/-- The patterns that fields with nothing but a base describe: each component has to be the one of
the base, but a user is not asked for. -/
theorem get_inherit_pattern_ofBase (t : Text) (u : Url) (defaults : Components Text)
    (c : Component) : ((ofBase t).inherit .pattern u defaults).get c =
      if c = .username ∨ c = .password then defaults.get c else Pattern.escape (baseText u c) := by
  rw [get_inherit, inherits_ofBase]
  cases c <;> rfl

end UrlMatch.Fields
