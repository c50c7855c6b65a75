import Mathlib.Data.List.TakeWhile
import UrlMatch.Proofs.Host.Address
import UrlMatch.Proofs.Result
import UrlMatch.Proofs.Url.Path
import UrlMatch.Url.Parser

/-!
# URLs are encoded

What a URL that is read holds in its parts is percent-encoded, each part in its own way, or consists
of characters that are not encoded anyway, as its scheme and its host do. A URL that is relative to
another one has parts of its own, which are encoded as they are read, and parts of the other one,
which are encoded already.

## Main results

* `encoded_parseHost`: nothing is to be encoded in a host.
* `holds_of_takeAuthority`: what is known of the parts of an authority.
* `encoded_parse`: a URL that is read is encoded if its base is.
-/

namespace UrlMatch

/-! ### Encoded texts -/

namespace Percent

variable {reserved : Char → Bool} {s t : Text}

/-- Nothing in the text is to be encoded. -/
def Encoded (reserved : Char → Bool) (t : Text) : Prop := ∀ c ∈ t, isEncoded reserved c = false

theorem encoded_encode (hr : SparesSigns reserved) (t : Text) :
    Encoded reserved (encode reserved t) :=
  isEncoded_of_mem_encode hr

theorem encoded_nil : Encoded reserved [] := fun _ h => nomatch h

theorem encoded_none : ∀ t ∈ (none : Option Text), Encoded reserved t := fun _ h => nomatch h

theorem encoded_getD {t : Option Text} (h : ∀ s ∈ t, Encoded reserved s) :
    Encoded reserved (t.getD []) := by
  cases t with
  | none => exact encoded_nil
  | some s => exact h s rfl

/-- Controls are encoded everywhere. -/
theorem Encoded.controls (h : Encoded reserved t) : Encoded Percent.controls t := by
  intro c hc
  have hone := h c hc
  simp only [isEncoded, Percent.controls, Bool.or_eq_false_iff] at hone ⊢
  exact ⟨hone.1, trivial⟩

/-- A line end is a control. -/
theorem Encoded.newline_notMem (h : Encoded reserved t) : '\n' ∉ t := by
  intro hmem
  have hcontrol : isControl '\n' := by decide
  simpa [isEncoded, hcontrol] using h '\n' hmem

end Percent

namespace Url

/-! ### Paths -/

namespace Path

variable {kind : SchemeKind} {path s t : Text} {slash : Bool} {c : Char}

theorem isPrefix_cutLast (path : Text) : (cutLast path).1 <+: path := by
  rw [cutLast, Text.cutAfterLast?]
  split
  · exact List.take_prefix _ _
  · exact List.nil_prefix

theorem isPrefix_dropLast (kind : SchemeKind) (path : Text) : dropLast kind path <+: path := by
  rw [dropLast.eq_def]
  dsimp only
  split
  · exact List.prefix_refl path
  · exact isPrefix_cutLast path

theorem isPrefix_openLast (path : Text) : openLast path <+: path := by
  rw [openLast]
  split
  · exact List.dropLast_prefix path
  · exact List.prefix_refl path

theorem mem_closed (h : c ∈ closed path) : c ∈ path ∨ c = '/' := by
  rw [closed] at h
  split at h
  · exact .inl h
  · simpa using h

/-- Adding a segment adds the characters of its encoded form, slashes, and the colon of a drive
letter. -/
theorem mem_push (h : c ∈ push kind path s slash) :
    c ∈ path ∨ c ∈ ['/', ':'] ∨ c ∈ Percent.encode Percent.path s := by
  rw [push] at h
  generalize hp : (if kind = .file ∧ s ≠ [] ∧ isNormalDriveLetter (path.drop 1) then path ++ ['/']
    else path) = p at h
  have hstart (hc : c ∈ p) : c ∈ path ∨ c ∈ ['/', ':'] := by
    rw [← hp] at hc
    split at hc
    · grind
    · exact .inl hc
  have hdrive (hc : c ∈ normalDrive (Percent.encode Percent.path s)) :
      c ∈ ['/', ':'] ∨ c ∈ Percent.encode Percent.path s := by
    generalize Percent.encode Percent.path s = segment at hc
    cases segment with
    | nil => cases hc
    | cons d rest => grind [normalDrive]
  dsimp only at h
  split at h
  · have hmem (hc : c ∈ dropLast kind (openLast p)) : c ∈ p :=
      (isPrefix_openLast p).subset ((isPrefix_dropLast kind _).subset hc)
    split at h
    · rcases mem_closed h with h | rfl
      · grind
      · simp
    · grind
  · split at h
    · rcases mem_closed h with h | rfl
      · grind
      · simp
    · split at h <;> grind

theorem encoded_push (h : Percent.Encoded Percent.controls path) (s : Text) (slash : Bool) :
    Percent.Encoded Percent.controls (push kind path s slash) := by
  intro c hc
  rcases mem_push hc with hc | hc | hc
  · exact h c hc
  · have hsigns : ∀ c ∈ ['/', ':'], Percent.isEncoded Percent.controls c = false :=
      Text.forall_mem_of_all (by decide)
    exact hsigns c hc
  · exact (Percent.encoded_encode (by decide) s).controls c hc

theorem encoded_pushAll (h : Percent.Encoded Percent.controls path) (t : Text) :
    Percent.Encoded Percent.controls (pushAll kind path t) := by
  rw [pushAll]
  generalize segments kind t = pieces
  induction pieces generalizing path with
  | nil => exact h
  | cons piece pieces ih => exact ih (encoded_push h _ _)

/-- **An encoded path stays encoded** when segments are added. -/
theorem encoded_extend (h : Percent.Encoded Percent.controls path) (t : Text) :
    Percent.Encoded Percent.controls (extend kind path t) := by
  have hall : Percent.Encoded Percent.controls (pushAll kind path t) := encoded_pushAll h t
  rw [extend]
  split
  · refine List.forall_mem_cons.2 ⟨by decide, fun c hc => hall c ?_⟩
    exact (List.dropWhile_sublist _).subset hc
  · exact hall

theorem encoded_root : Percent.Encoded Percent.controls ['/'] :=
  List.forall_mem_singleton.2 (by decide)

theorem encoded_parse (kind : SchemeKind) (bare : Bool) (t : Text) :
    Percent.Encoded Percent.controls (parse kind bare t) := by
  rw [parse.eq_def]
  split
  · split
    · exact encoded_extend Percent.encoded_nil _
    · split
      · split
        · exact encoded_extend encoded_root _
        · exact encoded_extend encoded_root _
      · exact encoded_extend encoded_root _
  · split
    · exact Percent.encoded_nil
    · exact encoded_extend Percent.encoded_nil _
    · exact encoded_extend encoded_root _

/-- A slash at the beginning of a text is the one that the path begins with. -/
theorem extend_cons (hc : isSlash kind c) (t : Text) :
    extend kind [] (c :: t) = extend kind ['/'] t := by
  have hfirst : push kind [] [] true = ['/'] := by cases kind <;> rfl
  rw [extend, extend, ← hfirst, ← pushAll_append_cons (s := []) (by simp) hc, List.nil_append]

/-- The path of a file is put behind a slash, be the slash its own or not. -/
theorem exists_parse_file {t : Text} (bare : Bool) (h : t.head?.all (isSlash .file)) :
    ∃ s, parse .file bare t = extend .file ['/'] s := by
  cases t with
  | nil =>
      refine ⟨[], ?_⟩
      cases bare <;> rfl
  | cons c t =>
      refine ⟨t, ?_⟩
      cases bare with
      | true => exact extend_cons h t
      | false => exact if_pos h

/-- The path of a URL without conventions is empty, or put behind a slash. -/
theorem parse_plain (bare : Bool) (t : Text) :
    parse .plain bare t = [] ∨ ∃ s, parse .plain bare t = extend .plain ['/'] s := by
  cases t with
  | nil => exact .inl rfl
  | cons c t =>
      by_cases hc : c = '/'
      · subst hc
        have hslash : isSlash .plain '/' := rfl
        exact .inr ⟨t, extend_cons hslash t⟩
      · exact .inr ⟨c :: t, by simp [parse, SchemeKind.isSpecial, hc]⟩

theorem encoded_dropLast (h : Percent.Encoded Percent.controls path) :
    Percent.Encoded Percent.controls (dropLast kind path) :=
  fun c hc => h c ((isPrefix_dropLast kind path).subset hc)

end Path

/-! ### Schemes -/

/-- Nothing is to be encoded in a scheme. -/
theorem isEncoded_of_schemePart {c : Char} (h : c.isAlphanum || c == '+' || c == '-' || c == '.') :
    Percent.isEncoded Percent.controls c = false := by
  have hlt : c.toNat < 128 := by
    simp only [Bool.or_eq_true, beq_iff_eq] at h
    rcases h with ((hname | rfl) | rfl) | rfl
    · exact Text.toNat_lt_of_isAlphanum hname
    all_goals decide
  exact Text.forall_ascii (fun c => (c.isAlphanum || c == '+' || c == '-' || c == '.') →
    Percent.isEncoded Percent.controls c = false) (by decide +kernel) c hlt h

theorem encoded_takeScheme? {scheme t rest : Text} (h : takeScheme? t = some (scheme, rest)) :
    Percent.Encoded Percent.controls scheme := by
  rw [takeScheme?.eq_def] at h
  dsimp only at h
  split at h
  · split at h
    · split at h
      · cases h
        refine Text.forall_mem_asciiLower (fun c hc => ?_) (by decide)
        have hpart := List.mem_takeWhile_imp hc
        exact isEncoded_of_schemePart hpart
      · cases h
    · cases h
  · cases h

theorem encoded_fileScheme : Percent.Encoded Percent.controls fileScheme :=
  Text.forall_mem_of_all (by decide)

/-! ### Hosts -/

theorem isEncoded_of_isNameChar {c : Char} (h : Host.isNameChar c) :
    Percent.isEncoded Percent.controls c = false := by
  simp only [Host.isNameChar, Host.Domain.isForbidden, Bool.and_eq_true, Bool.not_eq_true',
    Bool.or_eq_false_iff, decide_eq_true_eq, decide_eq_false_iff_not] at h
  obtain ⟨⟨hlt, -⟩, ⟨hblank, hdelete⟩, -⟩ := h
  have hcontrol : ¬ c.val < 0x20 := fun h => hblank (UInt32.le_of_lt h)
  simp [Percent.isEncoded, Percent.isControl, Percent.controls, hcontrol, hdelete, hlt]

/-- Nothing is to be encoded in a number. -/
theorem encoded_decimal (n : Nat) : Percent.Encoded Percent.controls (decimal n) :=
  fun _ hc => isEncoded_of_isNameChar (Host.isNameChar_of_isDigit (Host.isDigit_decimal hc))

theorem encoded_ipv6 (pieces : List Nat) :
    Percent.Encoded Percent.controls (Host.render (.ipv6 pieces)) := by
  have hdigit : ∀ d ∈ List.range 16, Percent.isEncoded Percent.controls d.digitChar = false := by
    decide
  have hsigns : ∀ c ∈ ['[', ':', ']'], Percent.isEncoded Percent.controls c = false :=
    Text.forall_mem_of_all (by decide)
  intro c hc
  rcases List.mem_append.1 hc with hc | hc
  · rcases List.mem_cons.1 hc with rfl | hc
    · exact hsigns _ (by simp)
    · rcases Host.Ipv6.mem_render hc with rfl | ⟨d, hd, rfl⟩
      · exact hsigns _ (by simp)
      · exact hdigit d (List.mem_range.2 hd)
  · exact hsigns c (by simp_all)

theorem encoded_render {t : Text} {host : Host} (h : Host.parse t = .ok host) :
    Percent.Encoded Percent.controls host.render := by
  rcases Host.isNameChar_or_ipv6 h with hname | ⟨pieces, rfl⟩
  · exact fun c hc => isEncoded_of_isNameChar (hname c hc)
  · exact encoded_ipv6 pieces

theorem encoded_render_opaque {t : Text} {host : Host} (h : Host.parseOpaque t = .ok host) :
    Percent.Encoded Percent.controls host.render := by
  rw [Host.parseOpaque.eq_def] at h
  split at h
  · obtain ⟨pieces, rfl⟩ := Host.exists_ipv6_of_parseBracketed h
    exact encoded_ipv6 pieces
  · split at h
    · cases h
    · cases h
      exact Percent.encoded_encode (by decide) _

theorem encoded_noHost : ∀ h ∈ (none : Option Host), Percent.Encoded Percent.controls h.render :=
  fun _ h => nomatch h

/-- Nothing is to be encoded in a host, whatever the scheme. -/
theorem encoded_parseHost {kind : SchemeKind} {t : Text} {host : Option Host}
    (h : parseHost kind t = .ok host) :
    ∀ h ∈ host, Percent.Encoded Percent.controls h.render := by
  rw [parseHost] at h
  split at h
  · split at h
    · cases h
    · obtain ⟨read, hread, rfl⟩ := map_eq_ok.1 h
      rintro _ ⟨⟩
      exact encoded_render hread
  · obtain ⟨read, hread, rfl⟩ := map_eq_ok.1 h
    split
    · exact encoded_noHost
    · rintro _ ⟨⟩
      exact encoded_render_opaque hread

theorem encoded_parseFileHost {t : Text} {host : Option Host} (h : parseFileHost t = .ok host) :
    ∀ h ∈ host, Percent.Encoded Percent.controls h.render := by
  rw [parseFileHost] at h
  split at h
  · cases h
    exact encoded_noHost
  · obtain ⟨read, hread, rfl⟩ := map_eq_ok.1 h
    split
    · exact encoded_noHost
    · rintro _ ⟨⟩
      exact encoded_render hread

/-! ### Authorities -/

/-- What an authority with a scheme holds: an encoded user name and password, a host, and a port
that is a port and not the scheme's own. -/
structure Authority.Holds (a : Authority) (scheme : Text) : Prop where
  username : Percent.Encoded Percent.userinfo a.username
  password : ∀ t ∈ a.password, Percent.Encoded Percent.userinfo t
  host : ∃ t, parseHost (.ofScheme scheme) t = .ok a.host
  port : ∀ n ∈ a.port, n ≤ 65535 ∧ defaultPort? scheme ≠ some (decimal n)

theorem encoded_takeUser (t : Text) : Percent.Encoded Percent.userinfo (takeUser t).1 ∧
    ∀ p ∈ (takeUser t).2, Percent.Encoded Percent.userinfo p := by
  have hencode (t : Text) :
      Percent.Encoded Percent.userinfo (Percent.encode Percent.userinfo t) :=
    Percent.encoded_encode (by decide) t
  rw [takeUser]
  refine ⟨hencode _, fun p hp => ?_⟩
  dsimp only at hp
  split at hp
  · cases hp
  · obtain rfl := Option.some.inj hp
    exact hencode _

theorem port_of_takePort {scheme t rest : Text} {port : Option Nat}
    (h : takePort scheme t = .ok (port, rest)) :
    ∀ n ∈ port, n ≤ 65535 ∧ defaultPort? scheme ≠ some (decimal n) := by
  rw [takePort] at h
  dsimp only at h
  split at h
  · cases h
  · split at h
    · cases h
    · split at h
      · cases h
        exact fun _ h => nomatch h
      · cases h
        rename_i hlarge _ hown
        rintro n ⟨⟩
        exact ⟨Nat.le_of_not_lt hlarge, fun h => hown (.inr h)⟩

/-- **What is read of an authority.** -/
theorem holds_of_takeAuthority {scheme t behind rest : Text} {a : Authority}
    (h : takeAuthority scheme t behind = .ok (a, rest)) : a.Holds scheme := by
  rw [takeAuthority] at h
  dsimp only at h
  generalize (Text.cutAfterLast? '@' t).getD ([], t) = cut at h
  obtain ⟨husername, hpassword⟩ := encoded_takeUser cut.1.dropLast
  split at h
  · cases h
  · obtain ⟨host, hhost, h⟩ := bind_eq_ok.1 h
    split at h
    · split at h
      · cases h
      · cases h
        exact ⟨husername, hpassword, ⟨_, hhost⟩, fun _ h => nomatch h⟩
    · split at h
      · cases h
      · obtain ⟨⟨port, behind⟩, hport, h⟩ := bind_eq_ok.1 h
        cases h
        exact ⟨husername, hpassword, ⟨_, hhost⟩, port_of_takePort hport⟩

/-! ### All parts of a URL -/

/-- What a query encodes. -/
def queryReserved (kind : SchemeKind) : Char → Bool :=
  if kind.isSpecial then Percent.specialQuery else Percent.query

/-- In no part of the URL is there anything left to encode. -/
structure Encoded (u : Url) : Prop where
  scheme : Percent.Encoded Percent.controls u.scheme
  username : Percent.Encoded Percent.userinfo u.username
  password : ∀ t ∈ u.password, Percent.Encoded Percent.userinfo t
  host : ∀ h ∈ u.host, Percent.Encoded Percent.controls h.render
  path : Percent.Encoded Percent.controls u.path
  query : ∀ t ∈ u.query, Percent.Encoded (queryReserved u.kind) t
  fragment : ∀ t ∈ u.fragment, Percent.Encoded Percent.fragment t

variable {u b : Url} {base : Option Url} {scheme t : Text}

theorem encoded_query (kind : SchemeKind) (t : Text) :
    Percent.Encoded (queryReserved kind) (Percent.encode (queryReserved kind) t) := by
  refine Percent.encoded_encode ?_ t
  cases kind <;> decide

theorem encoded_fragment (t : Text) :
    Percent.Encoded Percent.fragment (Percent.encode Percent.fragment t) :=
  Percent.encoded_encode (by decide) t

theorem encoded_takeTail (kind : SchemeKind) (t : Text) :
    (∀ q ∈ (takeTail kind t).1, Percent.Encoded (queryReserved kind) q) ∧
      ∀ f ∈ (takeTail kind t).2, Percent.Encoded Percent.fragment f := by
  have hfragment {t f : Text} (hf : f ∈ some (Percent.encode Percent.fragment t)) :
      Percent.Encoded Percent.fragment f := by
    obtain rfl := Option.some.inj hf
    exact encoded_fragment t
  rw [takeTail.eq_def]
  dsimp only
  split
  · refine ⟨fun q hq => ?_, fun f hf => ?_⟩
    · obtain rfl := Option.some.inj hq
      exact encoded_query kind _
    · dsimp only at hf
      split at hf
      · exact hfragment hf
      · cases hf
  · refine ⟨Percent.encoded_none, fun f hf => ?_⟩
    dsimp only at hf
    split at hf
    · exact hfragment hf
    · cases hf

/-- What stands behind the path is encoded as it is read. -/
theorem Encoded.withTail (h : u.Encoded) (t : Text) : (withTail u t).Encoded :=
  ⟨h.scheme, h.username, h.password, h.host, h.path, (encoded_takeTail u.kind t).1,
    (encoded_takeTail u.kind t).2⟩

theorem Encoded.withPath {path : Text} (h : b.Encoded)
    (hpath : Percent.Encoded Percent.controls path) (t : Text) : (withPath b path t).Encoded :=
  Encoded.withTail (u := { b with path })
    ⟨h.scheme, h.username, h.password, h.host, hpath, h.query, h.fragment⟩ t

theorem Encoded.withFragment (h : b.Encoded) (t : Text) : (withFragment b t).Encoded := by
  refine ⟨h.scheme, h.username, h.password, h.host, h.path, h.query, fun f hf => ?_⟩
  obtain rfl := Option.some.inj hf
  exact encoded_fragment t

theorem Encoded.withoutFragment (h : b.Encoded) : (withoutFragment b).Encoded :=
  ⟨h.scheme, h.username, h.password, h.host, h.path, h.query, Percent.encoded_none⟩

theorem encoded_ofPath {path : Text} (hscheme : Percent.Encoded Percent.controls scheme)
    (hpath : Percent.Encoded Percent.controls path) : (ofPath scheme path).Encoded :=
  ⟨hscheme, Percent.encoded_nil, Percent.encoded_none, encoded_noHost, hpath,
    Percent.encoded_none, Percent.encoded_none⟩

theorem encoded_ofFile {host : Option Host} {path : Text}
    (hhost : ∀ h ∈ host, Percent.Encoded Percent.controls h.render)
    (hpath : Percent.Encoded Percent.controls path) : (ofFile host path).Encoded :=
  ⟨encoded_fileScheme, Percent.encoded_nil, Percent.encoded_none, hhost, hpath,
    Percent.encoded_none, Percent.encoded_none⟩

/-- A file on the local host. -/
theorem encoded_ofFile_none {path : Text} (hpath : Percent.Encoded Percent.controls path) :
    (ofFile none path).Encoded :=
  encoded_ofFile encoded_noHost hpath

/-! ### Reading -/

/-- The URL that is read behind a scheme and two slashes. -/
theorem exists_of_parseAuthority (h : parseAuthority scheme t = .ok u) :
    ∃ a path rest, a.Holds scheme ∧
      u = withTail (ofAuthority scheme a (Path.parse (.ofScheme scheme) false path)) rest := by
  obtain ⟨⟨a, rest⟩, ha, h⟩ := bind_eq_ok.1 h
  exact ⟨a, _, _, holds_of_takeAuthority ha, (Except.ok.inj h).symm⟩

theorem encoded_parseAuthority (hscheme : Percent.Encoded Percent.controls scheme)
    (h : parseAuthority scheme t = .ok u) : u.Encoded := by
  obtain ⟨a, path, rest, ha, rfl⟩ := exists_of_parseAuthority h
  obtain ⟨hostText, hhost⟩ := ha.host
  exact Encoded.withTail ⟨hscheme, ha.username, ha.password, encoded_parseHost hhost,
    Path.encoded_parse _ _ _, Percent.encoded_none, Percent.encoded_none⟩ rest

/-- The path behind an authority begins with a slash, if there is one. -/
theorem isSlash_of_endsAuthority (kind : SchemeKind) (t : Text) :
    (cutAt endsPath (cutAt (endsAuthority kind) t).2).1.head?.all (Path.isSlash kind) := by
  rw [cutAt, cutAt, List.head?_takeWhile, Option.all_eq_true]
  intro c hc
  obtain ⟨hhead, hpath⟩ := Option.filter_eq_some_iff.1 hc
  have hends := List.head?_dropWhile_not (fun c => !endsAuthority kind c) t
  rw [hhead] at hends
  simp_all [endsAuthority]

/-- The URL of a file that is read behind two slashes. -/
theorem exists_of_parseFileAuthority (h : parseFileAuthority t = .ok u) :
    ∃ host path rest, (∀ h ∈ host, Percent.Encoded Percent.controls h.render) ∧
      u = withTail (ofFile host (Path.extend .file ['/'] path)) rest := by
  rw [parseFileAuthority] at h
  dsimp only at h
  split at h
  · cases h
    exact ⟨none, _, _, encoded_noHost, rfl⟩
  · obtain ⟨host, hhost, h⟩ := bind_eq_ok.1 h
    obtain ⟨path, hpath⟩ := Path.exists_parse_file host.isNone (isSlash_of_endsAuthority .file t)
    refine ⟨_, path, _, ?_, hpath ▸ (Except.ok.inj h).symm⟩
    split
    · exact encoded_noHost
    · exact encoded_parseFileHost hhost

theorem encoded_parseFileAuthority (h : parseFileAuthority t = .ok u) : u.Encoded := by
  obtain ⟨host, path, rest, hhost, rfl⟩ := exists_of_parseFileAuthority h
  exact (encoded_ofFile hhost (Path.encoded_extend Path.encoded_root path)).withTail rest

theorem encoded_fromRoot (hbase : ∀ b ∈ base, b.Encoded) (t : Text) :
    (parseFile.fromRoot base t).Encoded := by
  have hdrive (b : Url) (hb : b.Encoded) :
      Percent.Encoded Percent.controls ('/' :: Path.firstSegment b.path) := by
    refine List.forall_mem_cons.2 ⟨by decide, fun c hc => hb.path c ?_⟩
    exact List.mem_of_mem_drop ((List.takeWhile_sublist _).subset hc)
  rw [parseFile.fromRoot.eq_def]
  dsimp only
  split
  · exact (encoded_ofFile_none (Path.encoded_extend Percent.encoded_nil _)).withTail _
  · have hb := hbase _ rfl
    split
    · exact (encoded_ofFile_none (Path.encoded_extend Percent.encoded_nil _)).withTail _
    · split
      · exact (encoded_ofFile_none (Path.encoded_extend (hdrive _ hb) _)).withTail _
      · exact (encoded_ofFile hb.host (Path.encoded_extend Percent.encoded_nil _)).withTail _

theorem encoded_relative (hbase : ∀ b ∈ base, b.Encoded) (t : Text) :
    (parseFile.relative base t).Encoded := by
  have hroot (path rest : Text) :
      (withTail (ofFile none (Path.extend .file ['/'] path)) rest).Encoded :=
    (encoded_ofFile_none (Path.encoded_extend Path.encoded_root _)).withTail _
  rw [parseFile.relative.eq_def]
  dsimp only
  split
  · exact (hbase _ rfl).withoutFragment
  · exact (hbase _ rfl).withTail _
  · exact (hbase _ rfl).withFragment _
  · rename_i b _ _ _
    have hb : b.Encoded := hbase b rfl
    split
    · exact hroot _ _
    · exact hb.withPath (Path.encoded_extend (Path.encoded_dropLast hb.path) _) _
  · exact hroot _ _

theorem encoded_parseFile (hbase : ∀ b ∈ base, b.Encoded) (h : parseFile base t = .ok u) :
    u.Encoded := by
  rw [parseFile.eq_def] at h
  dsimp only at h
  split at h
  · split at h
    · exact encoded_parseFileAuthority h
    · split at h
      · cases h
        exact encoded_fromRoot hbase _
      · cases h
        exact encoded_relative hbase _
  · split at h
    · cases h
      exact encoded_fromRoot hbase _
    · cases h
      exact encoded_relative hbase _
  · cases h
    exact encoded_relative hbase _

theorem encoded_parseRelative (hb : b.Encoded) (h : parseRelative b t = .ok u) : u.Encoded := by
  rw [parseRelative.eq_def] at h
  dsimp only at h
  split at h
  · cases h
    exact hb.withoutFragment
  · cases h
    exact hb.withTail _
  · cases h
    exact hb.withFragment _
  · split at h
    · split at h
      · split at h
        · exact encoded_parseAuthority hb.scheme h
        · exact encoded_parseAuthority hb.scheme h
      · cases h
        exact hb.withPath (Path.encoded_extend Path.encoded_root _) _
    · cases h
      refine hb.withPath (Path.encoded_extend ?_ _) _
      split
      · exact Path.encoded_root
      · exact Path.encoded_dropLast hb.path

theorem encoded_parsePlain (hscheme : Percent.Encoded Percent.controls scheme)
    (h : parsePlain scheme t = .ok u) : u.Encoded := by
  rw [parsePlain.eq_def] at h
  dsimp only at h
  split at h
  · exact encoded_parseAuthority hscheme h
  · cases h
    exact (encoded_ofPath hscheme (Path.encoded_extend Path.encoded_root _)).withTail _
  · cases h
    exact (encoded_ofPath hscheme (Percent.encoded_encode (by decide) _)).withTail _

theorem encoded_parseWithScheme (hbase : ∀ b ∈ base, b.Encoded)
    (hscheme : Percent.Encoded Percent.controls scheme)
    (h : parseWithScheme base scheme t = .ok u) : u.Encoded := by
  rw [parseWithScheme.eq_def] at h
  dsimp only at h
  split at h
  · refine encoded_parseFile (fun b hb => ?_) h
    exact hbase b (Option.eq_some_of_filter_eq_some hb)
  · split at h
    · split at h
      · exact encoded_parseRelative (hbase _ rfl) h
      · exact encoded_parseAuthority hscheme h
    · exact encoded_parseAuthority hscheme h
  · exact encoded_parsePlain hscheme h

/-- **A URL that is read is encoded** if its base is. -/
theorem encoded_parse (hbase : ∀ b ∈ base, b.Encoded) (h : parse base t = .ok u) : u.Encoded := by
  rw [parse.eq_def] at h
  dsimp only at h
  split at h
  · rename_i htake
    exact encoded_parseWithScheme hbase (encoded_takeScheme? htake) h
  · cases h
  · rename_i b _
    have hb : b.Encoded := hbase b rfl
    split at h
    · cases h
      exact hb.withFragment _
    · split at h
      · cases h
      · split at h
        · exact encoded_parseFile hbase h
        · exact encoded_parseRelative hb h

end Url

end UrlMatch
