import UrlMatch.Proofs.Url.Encoded

/-!
# Ports of URLs

The port that a scheme has of its own is left out when an authority is read. A URL that is relative
to another one keeps the scheme of that one wherever it keeps its port, so it holds no such port
either.

## Main results

* `holdsPort_of_parse`: the port of a URL that is read is not its scheme's own.
* `HoldsPort.defaultPort?_ne`: the same of the text of the port.
-/

namespace UrlMatch.Url

variable {u b : Url} {base : Option Url} {scheme t : Text}

/-- What the URL has as its port is a port, and not the one that its scheme uses anyway. -/
def HoldsPort (u : Url) : Prop :=
  ∀ n ∈ u.port, n ≤ 65535 ∧ defaultPort? u.scheme ≠ some (decimal n)

theorem holdsPort_of_none (h : u.port = none) : u.HoldsPort := by
  rw [HoldsPort, h]
  exact fun _ h => nomatch h

/-- No scheme has the empty port of its own. -/
theorem defaultPort?_ne_nil (scheme : Text) : defaultPort? scheme ≠ some [] := by
  rw [defaultPort?]
  split_ifs <;> simp

/-- The text of such a port is not the one that the scheme uses anyway. -/
theorem HoldsPort.defaultPort?_ne (h : u.HoldsPort) : defaultPort? u.scheme ≠ some u.portText := by
  rw [portText]
  cases hport : u.port with
  | none => exact defaultPort?_ne_nil u.scheme
  | some n => exact (h n hport).2

/-! A path, a query and a fragment have no say in the port. -/

theorem HoldsPort.withTail (h : u.HoldsPort) (t : Text) : (withTail u t).HoldsPort := h

theorem HoldsPort.withPath (h : u.HoldsPort) (path t : Text) : (withPath u path t).HoldsPort := h

theorem HoldsPort.withFragment (h : u.HoldsPort) (t : Text) : (withFragment u t).HoldsPort := h

theorem HoldsPort.withoutFragment (h : u.HoldsPort) : (withoutFragment u).HoldsPort := h

theorem holdsPort_parseAuthority (h : parseAuthority scheme t = .ok u) : u.HoldsPort := by
  obtain ⟨a, path, rest, ha, rfl⟩ := exists_of_parseAuthority h
  exact HoldsPort.withTail (u := ofAuthority scheme a _) ha.port rest

/-- A file has no port, unless it is its base with another path. -/
theorem holdsPort_relative (hbase : ∀ b ∈ base, b.HoldsPort) (t : Text) :
    (parseFile.relative base t).HoldsPort := by
  rw [parseFile.relative.eq_def]
  dsimp only
  split
  · exact (hbase _ rfl).withoutFragment
  · exact (hbase _ rfl).withTail _
  · exact (hbase _ rfl).withFragment _
  · split
    · exact holdsPort_of_none rfl
    · exact (hbase _ rfl).withPath _ _
  · exact holdsPort_of_none rfl

theorem holdsPort_parseFile (hbase : ∀ b ∈ base, b.HoldsPort) (h : parseFile base t = .ok u) :
    u.HoldsPort := by
  have hroot (t : Text) : (parseFile.fromRoot base t).HoldsPort := holdsPort_of_none rfl
  rw [parseFile.eq_def] at h
  dsimp only at h
  split at h
  · split at h
    · obtain ⟨host, path, rest, -, rfl⟩ := exists_of_parseFileAuthority h
      exact holdsPort_of_none rfl
    · split at h
      · cases h
        exact hroot _
      · cases h
        exact holdsPort_relative hbase _
  · split at h
    · cases h
      exact hroot _
    · cases h
      exact holdsPort_relative hbase _
  · cases h
    exact holdsPort_relative hbase _

/-- What is relative to a base has its scheme and its port, or an authority of its own. -/
theorem holdsPort_parseRelative (hb : b.HoldsPort) (h : parseRelative b t = .ok u) :
    u.HoldsPort := by
  rw [parseRelative.eq_def] at h
  dsimp only at h
  split at h
  · cases h
    exact hb.withoutFragment
  · cases h
    exact hb.withTail _
  · cases h
    exact hb.withFragment _
  · split at h
    · split at h
      · split at h
        · exact holdsPort_parseAuthority h
        · exact holdsPort_parseAuthority h
      · cases h
        exact hb.withPath _ _
    · cases h
      exact hb.withPath _ _

theorem holdsPort_parsePlain (h : parsePlain scheme t = .ok u) : u.HoldsPort := by
  rw [parsePlain.eq_def] at h
  dsimp only at h
  split at h
  · exact holdsPort_parseAuthority h
  · cases h
    exact holdsPort_of_none rfl
  · cases h
    exact holdsPort_of_none rfl

theorem holdsPort_parseWithScheme (hbase : ∀ b ∈ base, b.HoldsPort)
    (h : parseWithScheme base scheme t = .ok u) : u.HoldsPort := by
  rw [parseWithScheme.eq_def] at h
  dsimp only at h
  split at h
  · refine holdsPort_parseFile (fun b hb => ?_) h
    exact hbase b (Option.eq_some_of_filter_eq_some hb)
  · split at h
    · split at h
      · exact holdsPort_parseRelative (hbase _ rfl) h
      · exact holdsPort_parseAuthority h
    · exact holdsPort_parseAuthority h
  · exact holdsPort_parsePlain h

/-- **The port of a URL that is read is not its scheme's own**, if that of its base is not. -/
theorem holdsPort_of_parse (hbase : ∀ b ∈ base, b.HoldsPort) (h : parse base t = .ok u) :
    u.HoldsPort := by
  rw [parse.eq_def] at h
  dsimp only at h
  split at h
  · exact holdsPort_parseWithScheme hbase h
  · cases h
  · rename_i b _
    have hb : b.HoldsPort := hbase b rfl
    split at h
    · cases h
      exact hb.withFragment _
    · split at h
      · cases h
      · split at h
        · exact holdsPort_parseFile hbase h
        · exact holdsPort_parseRelative hb h

end UrlMatch.Url
