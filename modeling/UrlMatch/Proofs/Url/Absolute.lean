import UrlMatch.Proofs.Url.Encoded

/-!
# URLs that are read without a base

A URL that is read without a base brings its own scheme, and the kind of the scheme decides what is
read behind it: an authority, a file, or what has no conventions.

## Main results

* `network_of_parse`: what is known of a URL with a special scheme, but for files.
* `path_of_parse_file`, `path_of_parse_plain`: the paths of the other URLs, unless they are opaque.
-/

namespace UrlMatch.Url

variable {u : Url} {scheme t : Text}

/-! ### Schemes -/

/-- A scheme is not empty, and in lower case. -/
theorem scheme_of_takeScheme? {rest : Text} (h : takeScheme? t = some (scheme, rest)) :
    scheme ≠ [] ∧ Text.asciiLower scheme = scheme := by
  rw [takeScheme?.eq_def] at h
  dsimp only at h
  split at h
  · rename_i c t
    split at h
    · rename_i halpha
      split at h
      · cases h
        refine ⟨?_, Text.asciiLower_asciiLower _⟩
        simp [Text.asciiLower, Char.isAlphanum, halpha]
      · cases h
    · cases h
  · cases h

/-- What is read without a base begins with a scheme. -/
theorem exists_scheme_of_parse (h : parse none t = .ok u) :
    ∃ scheme rest, (scheme ≠ [] ∧ Text.asciiLower scheme = scheme) ∧
      parseWithScheme none scheme rest = .ok u := by
  rw [parse.eq_def] at h
  dsimp only at h
  split at h
  · rename_i htake
    exact ⟨_, _, scheme_of_takeScheme? htake, h⟩
  · cases h
  · rename_i hbase
    cases hbase

/-- The special scheme for files is the only one of its kind. -/
theorem ofScheme_eq_file_iff : SchemeKind.ofScheme scheme = .file ↔ scheme = fileScheme := by
  rw [SchemeKind.ofScheme, fileScheme]
  split
  · simp_all
  · split <;> simp_all

/-- The schemes of special kinds are the special schemes. -/
theorem isSpecial_ofScheme (scheme : Text) :
    (SchemeKind.ofScheme scheme).isSpecial = isSpecialScheme scheme := by
  rw [SchemeKind.ofScheme]
  split
  · rename_i hfile
    rw [hfile]
    decide
  · split <;> simp_all [SchemeKind.isSpecial]

/-! ### The parts of a URL -/

/-- A file that is read without a base. -/
theorem exists_of_parseFile (h : parseFile none t = .ok u) :
    ∃ host path rest, u = withTail (ofFile host (Path.extend .file ['/'] path)) rest := by
  have hroot (c : Char) (hc : Path.isSlash .file c) (t : Text) : ∃ host path rest,
      parseFile.fromRoot none (c :: t) =
        withTail (ofFile host (Path.extend .file ['/'] path)) rest := by
    have hends : endsPath c = false := by
      simp only [Path.isSlash, Bool.or_eq_true, Bool.and_eq_true, beq_iff_eq] at hc
      rcases hc with rfl | ⟨rfl, -⟩ <;> rfl
    have hpath : (c :: t).takeWhile (!endsPath ·) = c :: t.takeWhile (!endsPath ·) :=
      List.takeWhile_cons_of_pos (by rw [hends]; rfl)
    refine ⟨none, t.takeWhile (!endsPath ·), (c :: t).dropWhile (!endsPath ·), ?_⟩
    rw [← Path.extend_cons hc, ← hpath]
    rfl
  have hrelative (t : Text) : ∃ host path rest,
      parseFile.relative none t = withTail (ofFile host (Path.extend .file ['/'] path)) rest := by
    rw [parseFile.relative.eq_def]
    exact ⟨_, _, _, rfl⟩
  rw [parseFile.eq_def] at h
  dsimp only at h
  split at h
  · split at h
    · obtain ⟨host, path, rest, -, h⟩ := exists_of_parseFileAuthority h
      exact ⟨host, path, rest, h⟩
    · split at h
      · cases h
        exact hroot _ ‹_› _
      · cases h
        exact hrelative _
  · split at h
    · cases h
      exact hroot _ ‹_› _
    · cases h
      exact hrelative _
  · cases h
    exact hrelative _

/-- The path of a URL without conventions is opaque, empty, or put behind a slash. -/
theorem path_of_parsePlain (hkind : SchemeKind.ofScheme scheme = .plain)
    (h : parsePlain scheme t = .ok u) :
    u.isOpaque ∨ u.path = [] ∨ ∃ path, u.path = Path.extend .plain ['/'] path := by
  rw [parsePlain.eq_def] at h
  dsimp only at h
  split at h
  · obtain ⟨a, path, rest, -, rfl⟩ := exists_of_parseAuthority h
    exact .inr (hkind ▸ Path.parse_plain false path)
  · cases h
    exact .inr (.inr ⟨_, rfl⟩)
  · rename_i hslashes hslash
    cases h
    left
    have hhead : (Percent.encode Percent.controls (cutAt endsPath t).1).head? ≠ some '/' := by
      intro hhead
      rcases Percent.head?_encode hhead with hsign | hfirst
      · cases hsign
      · rw [cutAt, List.head?_takeWhile, Option.filter_eq_some_iff] at hfirst
        obtain ⟨rest, rfl⟩ := List.head?_eq_some_iff.1 hfirst.1
        exact hslash rest rfl
    simpa [isOpaque, withTail, ofPath] using hhead

/-- The scheme of a URL that is read behind it. -/
theorem scheme_of_parseWithScheme (h : parseWithScheme none scheme t = .ok u) :
    u.scheme = scheme := by
  have hauthority {t : Text} (h : parseAuthority scheme t = .ok u) : u.scheme = scheme := by
    obtain ⟨a, path, rest, -, rfl⟩ := exists_of_parseAuthority h
    rfl
  rw [parseWithScheme.eq_def] at h
  split at h
  · rename_i hkind
    obtain ⟨host, path, rest, rfl⟩ := exists_of_parseFile h
    exact (ofScheme_eq_file_iff.1 hkind).symm
  · exact hauthority h
  · rw [parsePlain.eq_def] at h
    split at h
    · exact hauthority h
    · cases h
      rfl
    · cases h
      rfl

/-- A URL that is read without a base has a scheme. -/
theorem scheme_ne_nil (h : parse none t = .ok u) : u.scheme ≠ [] := by
  obtain ⟨scheme, behind, hscheme, h⟩ := exists_scheme_of_parse h
  rw [scheme_of_parseWithScheme h]
  exact hscheme.1

/-- The scheme of a URL that is read without a base is in lower case. -/
theorem asciiLower_scheme (h : parse none t = .ok u) : Text.asciiLower u.scheme = u.scheme := by
  obtain ⟨scheme, behind, hscheme, h⟩ := exists_scheme_of_parse h
  rw [scheme_of_parseWithScheme h]
  exact hscheme.2

/-- What is known of a URL with a special scheme that is not the one for files. -/
structure Network (u : Url) : Prop where
  kind : u.kind = .network
  encoded : u.Encoded
  host : ∃ t host, Host.parse t = .ok host ∧ u.host = some host
  port : ∀ n ∈ u.port, n ≤ 65535 ∧ defaultPort? u.scheme ≠ some (decimal n)
  path : Path.Settled u.path

/-- A special scheme needs a host. -/
theorem exists_of_parseHost {host : Option Host} (h : parseHost .network t = .ok host) :
    ∃ t host', Host.parse t = .ok host' ∧ host = some host' := by
  rw [parseHost, SchemeKind.isSpecial, if_pos rfl] at h
  split at h
  · cases h
  · obtain ⟨host', hparse, rfl⟩ := map_eq_ok.1 h
    exact ⟨_, host', hparse, rfl⟩

/-- A URL with such a scheme that is read without a base. -/
theorem network_of_parse (h : parse none t = .ok u) (hkind : u.kind = .network) : u.Network := by
  have hencoded : u.Encoded := encoded_parse (by simp) h
  obtain ⟨scheme, behind, -, h⟩ := exists_scheme_of_parse h
  obtain rfl := scheme_of_parseWithScheme h
  have hscheme : SchemeKind.ofScheme u.scheme = .network := hkind
  rw [parseWithScheme.eq_def, hscheme] at h
  obtain ⟨a, path, rest, ha, hu⟩ := exists_of_parseAuthority h
  have hhost : u.host = a.host := congrArg Url.host hu
  have hport : u.port = a.port := congrArg Url.port hu
  have hpath : u.path = Path.parse (.ofScheme u.scheme) false path := congrArg Url.path hu
  obtain ⟨t, hread⟩ := ha.host
  rw [hscheme] at hread hpath
  exact ⟨hkind, hencoded, hhost ▸ exists_of_parseHost hread, hport ▸ ha.port,
    hpath ▸ Path.settled_parse path⟩

theorem Network.isSpecialScheme (h : u.Network) : isSpecialScheme u.scheme := by
  rw [← isSpecial_ofScheme]
  exact congrArg SchemeKind.isSpecial h.kind

/-- The path of a file is put behind a slash. -/
theorem path_of_parse_file (h : parse none t = .ok u) (hkind : u.kind = .file) :
    ∃ path, u.path = Path.extend .file ['/'] path := by
  obtain ⟨scheme, behind, -, h⟩ := exists_scheme_of_parse h
  obtain rfl := scheme_of_parseWithScheme h
  have hkind : SchemeKind.ofScheme u.scheme = .file := hkind
  rw [parseWithScheme.eq_def, hkind] at h
  obtain ⟨host, path, rest, hu⟩ := exists_of_parseFile h
  exact ⟨path, congrArg Url.path hu⟩

/-- A path that is not opaque is empty, or put behind a slash. -/
theorem path_of_parse_plain (h : parse none t = .ok u) (hkind : u.kind = .plain)
    (hnotOpaque : u.isOpaque = false) :
    u.path = [] ∨ ∃ path, u.path = Path.extend .plain ['/'] path := by
  obtain ⟨scheme, behind, -, h⟩ := exists_scheme_of_parse h
  obtain rfl := scheme_of_parseWithScheme h
  have hkind : SchemeKind.ofScheme u.scheme = .plain := hkind
  rw [parseWithScheme.eq_def, hkind] at h
  refine (path_of_parsePlain hkind h).resolve_left ?_
  rw [hnotOpaque]
  simp

end UrlMatch.Url
