import UrlMatch.Proofs.Component.Encoding
import UrlMatch.Proofs.Fields.Base
import UrlMatch.Proofs.Matcher.Exec
import UrlMatch.Proofs.Url.Relative

/-!
# Relative paths as texts and as fields

A relative path can be given as a text beside a base, and as fields that hold it together with the
base. The two stand for the same values but for the path, which is joined in two ways: a text by the
rules of the scheme of the base, segment by segment, and fields by cutting the base behind its last
slash and reading the result as a path of a special scheme or, under another scheme, not reading it
as a path at all. So the two agree for special schemes, but for the drive letters and leading
slashes of files, and for other schemes exactly where no dots are to be worked off.

## Main results

* `exists_pathname`: the path of the fields, and when it is the one of the text.
* `resolve?_relative`: **relative paths as texts and as fields**.
-/

namespace UrlMatch

open Url

variable {u : Url} {b t folder : Text}

/-! ### The path of fields -/

namespace Encoding

theorem isEncoded_of_isPlainChar {c : Char} (h : Path.isPlainChar c) :
    Percent.isEncoded Percent.path c = false :=
  (not_special_of_isPlainChar h).2.2.2.2

/-- A relative path behind an open one is read segment by segment. -/
theorem specialPathname_append (h : Path.Open folder) (ht : ∀ c ∈ t, Path.isPlainChar c) :
    specialPathname (folder ++ t) = .ok (Path.pushAll .network folder t) := by
  have hchars : ∀ c ∈ folder ++ t, Percent.isControl c = false := by
    intro c hc
    rcases List.mem_append.1 hc with hc | hc
    · rcases h.settled.mem hc with rfl | hkept
      · decide
      · exact isControl_of_isEncoded (Path.isEncoded_of_isKeptChar hkept)
    · exact isControl_of_isEncoded (isEncoded_of_isPlainChar (ht c hc))
  have hpath : specialPath (folder ++ t) = Path.pushAll .network folder t := by
    rw [specialPath, dropIgnored_eq_self hchars, h.parse_append]
  obtain ⟨rest, rfl⟩ := List.head?_eq_some_iff.1 h.settled.head
  exact congrArg Except.ok hpath

/-- Where a text is not read as a path, a relative path is put behind the other one as it is. -/
theorem opaquePathname_append (h : Percent.Encoded Percent.controls folder)
    (ht : ∀ c ∈ t, Path.isPlainChar c) : opaquePathname (folder ++ t) = .ok (folder ++ t) := by
  have hplain : Percent.Encoded Percent.path t := fun c hc => isEncoded_of_isPlainChar (ht c hc)
  refine congrArg Except.ok (Percent.encode_eq_self fun c hc => ?_)
  rcases List.mem_append.1 hc with hc | hc
  · exact h c hc
  · exact hplain.controls c hc

end Encoding

namespace Fields

variable {protocol value w last : Text}

/-- A relative path is put behind the last slash of the base. -/
theorem completed_relative (ht : t.head? ≠ some '/') (hnotOpaque : u.isOpaque = false) :
    completed .url (some u) .pathname t = resolvePath .url u t := by
  have hrelative : isAbsolutePath .url t = false := by
    rw [isAbsolutePath.eq_def]
    split
    · exact absurd rfl ht
    · rfl
    · rfl
    · rfl
  simp [completed, hnotOpaque, hrelative]

theorem resolvePath_of_cut (h : Text.cutAfterLast? '/' u.path = some (folder, last)) (t : Text) :
    resolvePath .url u t = folder ++ t := by
  rw [resolvePath, inherited, h]

/-- The canonical form of a path is the encoder's. -/
theorem canonicalValue_pathname
    (h : Component.encode .pathname value (protocol = [] || isSpecialScheme protocol) value =
      .ok w) : canonicalValue .pathname protocol value = .ok w := by
  simp [canonicalValue, h]

/-- Under a special scheme a path among fields is joined by reading it. -/
theorem pathname_of_special (hspecial : isSpecialScheme u.scheme)
    (hcut : Text.cutAfterLast? '/' u.path = some (folder, last)) (hopen : Path.Open folder)
    (hnotOpaque : u.isOpaque = false) (ht : IsRelativePath t) :
    canonicalValue .pathname u.scheme (completed .url (some u) .pathname t) =
      .ok (Path.pushAll .network folder t) := by
  rw [completed_relative ht.head hnotOpaque, resolvePath_of_cut hcut]
  refine canonicalValue_pathname ?_
  rw [hspecial, Bool.or_true]
  exact Encoding.specialPathname_append hopen ht.char

/-- **Under a special scheme** fields and texts join paths alike. -/
theorem pathname_of_network (hu : u.Network) (hnotOpaque : u.isOpaque = false)
    (ht : IsRelativePath t) :
    canonicalValue .pathname u.scheme (completed .url (some u) .pathname t) = .ok (joined u t) := by
  obtain ⟨folder, last, hcut, hopen⟩ := hu.path.exists_cut
  have hjoined : joined u t = Path.pushAll .network folder t := by
    rw [joined, if_neg hu.path.ne_nil, hu.kind, Path.extend_network, Path.dropLast_network,
      Path.cutLast, hcut]
    rfl
  rw [hjoined]
  exact pathname_of_special hu.isSpecialScheme hcut hopen hnotOpaque ht

/-- **Under the scheme of files** they do, unless a drive letter is kept or slashes in front are
dropped. -/
theorem pathname_of_file (hkind : u.kind = .file) (hpath : Path.Settled u.path)
    (hnotOpaque : u.isOpaque = false) (ht : IsRelativePath t) :
    ∃ w, canonicalValue .pathname u.scheme (completed .url (some u) .pathname t) = .ok w ∧
      (Path.isNormalDriveLetter (Path.cutLast u.path).2 = false →
        (joined u t = w ↔ ¬ ['/', '/'] <+: w)) := by
  obtain ⟨folder, last, hcut, hopen⟩ := hpath.exists_cut
  have hspecial : isSpecialScheme u.scheme := by
    rw [← isSpecial_ofScheme]
    exact congrArg SchemeKind.isSpecial hkind
  refine ⟨_, pathname_of_special hspecial hcut hopen hnotOpaque ht, fun hdrive => ?_⟩
  have hcutLast : Path.cutLast u.path = (folder, last) := by
    rw [Path.cutLast, hcut]
    rfl
  have hstart : Path.dropLast .file u.path = folder := by
    have hlast : Path.isNormalDriveLetter last = false := by rwa [hcutLast] at hdrive
    simp [Path.dropLast, hcutLast, hlast]
  have hletters : ∀ piece ∈ Text.splitBy (Path.isSlash .network) t,
      Path.isDriveLetter (Percent.encode Percent.path piece) = false := by
    intro piece hpiece
    have hplain : ∀ c ∈ piece, Path.isPlainChar c :=
      fun c hc => ht.char c (Text.mem_of_mem_splitBy hpiece c hc).1
    rw [Percent.encode_eq_self fun c hc => Encoding.isEncoded_of_isPlainChar (hplain c hc)]
    exact isDriveLetter_of_isPlainChar hplain
  rw [joined, if_neg hpath.ne_nil, hkind, hstart, Url.Path.extend, if_pos rfl,
    hopen.pushAll_file hletters]
  exact Path.collapse_eq_self_iff (hopen.pushAll t).head

/-- Under any other scheme a relative path stays as it is behind an encoded text. -/
theorem canonicalValue_append_of_plain (hkind : u.kind = .plain) (hscheme : u.scheme ≠ [])
    (hfolder : Percent.Encoded Percent.controls folder) (ht : IsRelativePath t) :
    canonicalValue .pathname u.scheme (folder ++ t) = .ok (folder ++ t) := by
  have hnot : isSpecialScheme u.scheme = false := by
    rw [← isSpecial_ofScheme]
    exact congrArg SchemeKind.isSpecial hkind
  have hspecial : (u.scheme = [] || isSpecialScheme u.scheme) = false := by simp [hscheme, hnot]
  refine canonicalValue_pathname ?_
  rw [hspecial]
  exact Encoding.opaquePathname_append hfolder ht.char

/-- **Under any other scheme** they do exactly if there is a path to be joined with, and no dots to
be worked off. -/
theorem pathname_of_plain (hkind : u.kind = .plain) (hscheme : u.scheme ≠ [])
    (hpath : u.path = [] ∨ u.path.head? = some '/') (hencoded : u.Encoded)
    (hnotOpaque : u.isOpaque = false) (ht : IsRelativePath t) :
    ∃ w, canonicalValue .pathname u.scheme (completed .url (some u) .pathname t) = .ok w ∧
      (joined u t = w ↔ u.path ≠ [] ∧
        ∀ s ∈ Text.splitBy (· == '/') t, s ≠ ['.'] ∧ s ≠ ['.', '.']) := by
  rw [completed_relative ht.head hnotOpaque, joined, hkind, Path.extend_plain]
  rcases hpath with hnil | hhead
  · refine ⟨t, ?_, ?_⟩
    · rw [resolvePath, inherited, hnil]
      exact canonicalValue_append_of_plain hkind hscheme Percent.encoded_nil ht
    · rw [if_pos hnil]
      refine iff_of_false (fun heq => ht.head ?_) fun h => h.1 hnil
      rw [← heq]
      exact Path.head?_pushAll rfl t
  · obtain ⟨front, tail, hcut, hsplit, -⟩ :=
      Text.exists_cutAfterLast? (List.mem_of_mem_head? hhead)
    have hne : u.path ≠ [] := List.ne_nil_of_mem (List.mem_of_mem_head? hhead)
    have hstart : Path.dropLast .plain u.path = front ++ ['/'] := by
      simp [Path.dropLast, Path.cutLast, hcut]
    have hends : Path.endsInSlash (front ++ ['/']) := by simp [Path.endsInSlash]
    refine ⟨front ++ ['/'] ++ t, ?_, ?_⟩
    · rw [resolvePath_of_cut hcut]
      refine canonicalValue_append_of_plain hkind hscheme (fun c hc => hencoded.path c ?_) ht
      rw [hsplit]
      simpa [or_assoc] using List.mem_append_left tail hc
    · rw [if_neg hne, hstart, Path.pushAll_plain_eq_iff hends
        fun c hc => Encoding.isEncoded_of_isPlainChar (ht.char c hc), ht.notDots_iff]
      exact (and_iff_right hne).symm

end Fields

namespace Matcher

/-- The path that fields join, and when it is the one that a text stands for. -/
theorem exists_pathname (hb : Url.parse none b = .ok u) (hnotOpaque : u.isOpaque = false)
    (ht : IsRelativePath t) :
    ∃ w, Fields.canonicalValue .pathname u.scheme
        (Fields.completed .url (some u) .pathname t) = .ok w ∧
      (u.kind = .network → joined u t = w) ∧
      (u.kind = .file → Path.isNormalDriveLetter (Path.cutLast u.path).2 = false →
        (joined u t = w ↔ ¬ ['/', '/'] <+: w)) ∧
      (u.kind = .plain → (joined u t = w ↔ u.path ≠ [] ∧
        ∀ s ∈ Text.splitBy (· == '/') t, s ≠ ['.'] ∧ s ≠ ['.', '.'])) := by
  cases hkind : u.kind with
  | network =>
      have hpathname := Fields.pathname_of_network (network_of_parse hb hkind) hnotOpaque ht
      exact ⟨_, hpathname, fun _ => rfl, nofun, nofun⟩
  | file =>
      obtain ⟨w, hw, hjoined⟩ :=
        Fields.pathname_of_file hkind (settled_of_file hb hkind) hnotOpaque ht
      exact ⟨w, hw, nofun, fun _ => hjoined, nofun⟩
  | plain =>
      obtain ⟨w, hw, hjoined⟩ := Fields.pathname_of_plain hkind (scheme_ne_nil hb)
        (head?_path_of_plain hb hkind hnotOpaque) (encoded_parse (by simp) hb) hnotOpaque ht
      exact ⟨w, hw, nofun, nofun, fun _ => hjoined⟩

/-- The values that a relative path as a text stands for. -/
theorem resolve?_text_relative (hb : Url.parse none b = .ok u) (hnotOpaque : u.isOpaque = false)
    (ht : IsRelativePath t) : resolve? (.text t) (some b) =
      some (urlValues { u with path := joined u t, query := none, fragment := none }) := by
  have hpath (hkind : u.kind = .file) : u.path ≠ [] := (settled_of_file hb hkind).ne_nil
  rw [resolve?, parseUrl?, hb]
  simp only [Except.toOption, Option.bind_eq_bind, Option.bind_some,
    parse_relative ht hnotOpaque hpath, Option.map_some]

/-- The values that a relative path among fields stands for. -/
theorem resolve?_fields_relative {w : Text} (hb : Url.parse none b = .ok u)
    (hw : Fields.canonicalValue .pathname u.scheme (Fields.completed .url (some u) .pathname t) =
      .ok w) :
    resolve? (.fields ((Fields.ofBase b).set .pathname t)) none =
      some (urlValues { u with path := w, query := none, fragment := none }) := by
  have hother (c : Component) (hc : c ≠ .pathname) :
      ((Fields.ofBase b).set .pathname t).get? c = none :=
    (Components.get_set_of_ne _ _ (Ne.symm hc)).trans (Fields.get?_ofBase b c)
  have hprotocol : (((Fields.ofBase b).set .pathname t).inherit .url u (.replicate [])).protocol =
      u.scheme := rfl
  rw [resolve?, Fields.complete_of_pathname rfl hb (Fields.get?_set_self _ _ _) hother, hprotocol,
    hw]
  refine congrArg some (Components.ext_get fun c => ?_)
  cases c <;> rfl

/-- **Relative paths as texts and as fields** stand for the same values but for the path. The path
is the same under a special scheme, unless it is the one for files and the path in the fields begins
with two slashes; a base that ends in a drive letter is left aside. Under any other scheme it is the
same exactly if the base has a path and no segment of the relative one consists of dots. -/
theorem resolve?_relative (hb : Url.parse none b = .ok u) (hnotOpaque : u.isOpaque = false)
    (ht : IsRelativePath t) :
    ∃ v v', resolve? (.text t) (some b) = some v ∧
      resolve? (.fields ((Fields.ofBase b).set .pathname t)) none = some v' ∧
      (∀ c, c ≠ .pathname → v.get c = v'.get c) ∧
      (u.kind = .network → v = v') ∧
      (u.kind = .file → Path.isNormalDriveLetter (Path.cutLast u.path).2 = false →
        (v = v' ↔ ¬ ['/', '/'] <+: v'.pathname)) ∧
      (u.kind = .plain → (v = v' ↔ u.path ≠ [] ∧
        ∀ s ∈ Text.splitBy (· == '/') t, s ≠ ['.'] ∧ s ≠ ['.', '.'])) := by
  obtain ⟨w, hw, hnetwork, hfile, hplain⟩ := exists_pathname hb hnotOpaque ht
  have hother {p : Text} (c : Component) (hc : c ≠ .pathname) :
      (urlValues { u with path := joined u t, query := none, fragment := none }).get c =
        (urlValues { u with path := p, query := none, fragment := none }).get c := by
    cases c <;> first | rfl | exact absurd rfl hc
  have heq : urlValues { u with path := joined u t, query := none, fragment := none } =
      urlValues { u with path := w, query := none, fragment := none } ↔ joined u t = w := by
    constructor
    · exact congrArg Components.pathname
    · rintro rfl
      rfl
  refine ⟨_, _, resolve?_text_relative hb hnotOpaque ht, resolve?_fields_relative hb hw, hother, ?_⟩
  rw [heq]
  exact ⟨hnetwork, hfile, hplain⟩

/-- `resolve?_relative` under a special scheme, with dots that are worked off. -/
theorem resolve?_relative_of_dots :
    let b := "https://me@h:81/a/b?q#f".toList
    let t := "./.././c//~d".toList
    ∃ u v, Url.parse none b = .ok u ∧ u.isOpaque = false ∧ IsRelativePath t ∧
      resolve? (.text t) (some b) = some v ∧
      resolve? (.fields ((Fields.ofBase b).set .pathname t)) none = some v ∧
      v.pathname = "/c//~d".toList := by
  intro b t
  have hparse : (Url.parse none b).toOption.map (fun u => (u.isOpaque, u.kind)) =
      some (false, .network) := by
    decide +kernel
  have hpath : (resolve? (.text t) (some b)).map (·.pathname) = some "/c//~d".toList := by
    decide +kernel
  have ht : IsRelativePath t := ⟨by decide, by decide, Text.forall_mem_of_all (by decide)⟩
  obtain ⟨u, hu, hparts⟩ := Option.map_eq_some_iff.1 hparse
  obtain ⟨hnotOpaque, hkind⟩ := Prod.mk.inj hparts
  rw [toOption_eq_some] at hu
  obtain ⟨v, v', htext, hfields, -, hsame, -⟩ := resolve?_relative hu hnotOpaque ht
  obtain rfl := hsame hkind
  rw [htext] at hpath
  exact ⟨u, v, hu, hnotOpaque, ht, htext, hfields, Option.some.inj hpath⟩

/-- Files lose slashes in front and keep drive letters as texts, not as fields. -/
example :
    let path (b t : String) := (resolve? (.text t.toList) (some b.toList)).map (·.pathname)
    let path' (b t : String) :=
      (resolve? (.fields ((Fields.ofBase b.toList).set .pathname t.toList)) none).map (·.pathname)
    path "file:///a/b" "..//x" = some "/x".toList ∧
      path' "file:///a/b" "..//x" = some "//x".toList ∧
      path "file:///a/C:" "x" = some "/a/C:x".toList ∧
      path' "file:///a/C:" "x" = some "/a/x".toList := by
  decide +kernel

/-- **Under a scheme without conventions** the dots of a relative path are worked off in a text, and
kept in fields. -/
theorem not_resolve?_relative_of_dot :
    let b := "foo://h/a".toList
    (Url.parse none b).toOption.map (·.isOpaque) = some false ∧ IsRelativePath ['.'] ∧
      (resolve? (.text ['.']) (some b)).map (·.pathname) = some ['/'] ∧
      (resolve? (.fields ((Fields.ofBase b).set .pathname ['.'])) none).map (·.pathname) =
        some ['/', '.'] := by
  refine ⟨by decide +kernel, ⟨by decide, by decide, Text.forall_mem_of_all (by decide)⟩, ?_, ?_⟩
  · decide +kernel
  · decide +kernel

end Matcher

end UrlMatch
