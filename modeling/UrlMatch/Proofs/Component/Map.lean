import UrlMatch.Component.Basic
import UrlMatch.Proofs.Result

/-!
# Values of all components

A computation that may fail, carried out for each component, succeeds exactly if it does so for each
of them, and then gives what it gives there. This holds however failure is expressed, as long as a
computation of two steps succeeds exactly if both of them do.
-/

namespace UrlMatch.Components

section Monad

variable {m : Type → Type} [Monad m] [LawfulMonad m] {α β : Type} {x : Components α}
  {y : Components β}

/-- The steps of a computation for all components are those for each of them. -/
theorem mapM_eq_pure_iff {g : Component → α → m β}
    (hpure : ∀ {γ : Type} {a b : γ}, (pure a : m γ) = pure b → a = b)
    (hbind : ∀ {γ δ : Type} {t : m γ} {f : γ → m δ} {b : δ},
      t >>= f = pure b → ∃ a, t = pure a ∧ f a = pure b) :
    x.mapM g = pure y ↔ ∀ c, g c (x.get c) = pure (y.get c) := by
  constructor
  · intro h c
    rw [mapM] at h
    obtain ⟨_, hprotocol, h⟩ := hbind h
    obtain ⟨_, husername, h⟩ := hbind h
    obtain ⟨_, hpassword, h⟩ := hbind h
    obtain ⟨_, hhostname, h⟩ := hbind h
    obtain ⟨_, hport, h⟩ := hbind h
    obtain ⟨_, hpathname, h⟩ := hbind h
    obtain ⟨_, hsearch, h⟩ := hbind h
    obtain ⟨_, hhash, h⟩ := hbind h
    obtain rfl := hpure h
    cases c <;> assumption
  · intro h
    have hprotocol : g .protocol x.protocol = pure y.protocol := h .protocol
    have husername : g .username x.username = pure y.username := h .username
    have hpassword : g .password x.password = pure y.password := h .password
    have hhostname : g .hostname x.hostname = pure y.hostname := h .hostname
    have hport : g .port x.port = pure y.port := h .port
    have hpathname : g .pathname x.pathname = pure y.pathname := h .pathname
    have hsearch : g .search x.search = pure y.search := h .search
    have hhash : g .hash x.hash = pure y.hash := h .hash
    simp only [mapM, hprotocol, husername, hpassword, hhostname, hport, hpathname, hsearch, hhash,
      pure_bind]

end Monad

variable {ε α β : Type} {x : Components α} {y : Components β}

theorem mapM_eq_ok_iff {g : Component → α → Except ε β} :
    x.mapM g = .ok y ↔ ∀ c, g c (x.get c) = .ok (y.get c) :=
  mapM_eq_pure_iff Except.ok.inj bind_eq_ok.1

theorem mapM_eq_some_iff {g : Component → α → Option β} :
    x.mapM g = some y ↔ ∀ c, g c (x.get c) = some (y.get c) :=
  mapM_eq_pure_iff Option.some.inj Option.bind_eq_some_iff.1

end UrlMatch.Components
