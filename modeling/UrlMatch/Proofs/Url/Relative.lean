import Mathlib.Data.List.TakeWhile
import UrlMatch.Proofs.Url.Join

/-!
# Relative paths

A text of plain characters that does not begin with a slash is, beside a base, a relative path: it
holds no scheme, no host, no query and no fragment, and nothing in it is trimmed or encoded. All but
the path comes from the base.

## Main results

* `parse_relative`: what a relative path stands for beside a base.
-/

namespace UrlMatch.Url

open Url.Path

variable {u : Url} {t : Text} {c : Char}

/-- A text of plain characters that begins with one, but not with a slash. -/
structure IsRelativePath (t : Text) : Prop where
  ne_nil : t ≠ []
  head : t.head? ≠ some '/'
  char : ∀ c ∈ t, isPlainChar c

/-- What a plain character is not: a control, a blank, a sign between the parts of a URL or one of a
drive letter, or a character that a path encodes. -/
theorem not_special_of_isPlainChar (h : isPlainChar c) : isControlOrBlank c = false ∧
    isIgnored c = false ∧ endsPath c = false ∧ c ∉ [':', '|', '\\', '%'] ∧
      Percent.isEncoded Percent.path c = false :=
  forall_plainChar (P := fun c => isControlOrBlank c = false ∧ isIgnored c = false ∧
    endsPath c = false ∧ c ∉ [':', '|', '\\', '%'] ∧ Percent.isEncoded Percent.path c = false)
    (by decide +kernel) h

/-- Plain characters make no drive letter. -/
theorem isDriveLetter_of_isPlainChar (h : ∀ c ∈ t, isPlainChar c) : isDriveLetter t = false := by
  have hsigns : isPlainChar ':' = false ∧ isPlainChar '|' = false := by decide
  rw [isDriveLetter.eq_def]
  split
  · rename_i c d
    have hd : d ≠ ':' ∧ d ≠ '|' := by
      constructor <;> (rintro rfl; simp_all)
    simp [hd]
  · rfl

namespace IsRelativePath

/-- Nothing is trimmed or ignored. -/
theorem trim_eq_self (h : IsRelativePath t) : dropIgnored (trim t) = t := by
  have hblank : ∀ c ∈ t, isControlOrBlank c = false :=
    fun c hc => (not_special_of_isPlainChar (h.char c hc)).1
  have hignored : ∀ c ∈ t, isIgnored c = false :=
    fun c hc => (not_special_of_isPlainChar (h.char c hc)).2.1
  have htrim : trim t = t := by
    rw [trim, Text.dropWhile_eq_self hblank,
      Text.dropWhile_eq_self fun c hc => hblank c (List.mem_reverse.1 hc), List.reverse_reverse]
  rw [htrim, dropIgnored, List.filter_eq_self]
  exact fun c hc => by simp [hignored c hc]

/-- No colon ends a scheme. -/
theorem takeScheme?_eq_none (h : IsRelativePath t) : takeScheme? t = none := by
  have hcolon : ':' ∉ t := fun hc =>
    (not_special_of_isPlainChar (h.char _ hc)).2.2.2.1 (by simp)
  rw [takeScheme?.eq_def]
  dsimp only
  split
  · split
    · split
      · rename_i hdropped
        have hmem : ':' ∈ (_ :: _ : Text).dropWhile _ := hdropped ▸ List.mem_cons_self
        exact absurd ((List.dropWhile_sublist _).subset hmem) hcolon
      · rfl
    · rfl
  · rfl

/-- All of it is a path. -/
theorem cutAt_endsPath (h : IsRelativePath t) : cutAt endsPath t = (t, []) := by
  have hends : ∀ c ∈ t, !endsPath c := fun c hc => by
    simp [(not_special_of_isPlainChar (h.char c hc)).2.2.1]
  rw [cutAt, List.takeWhile_eq_self_iff.2 hends, List.dropWhile_eq_nil_iff.2 hends]

/-- No segment is written with percent-encoded dots. -/
theorem notDots_iff (h : IsRelativePath t) :
    (∀ s ∈ Text.splitBy (· == '/') t, ¬ IsDots s) ↔
      ∀ s ∈ Text.splitBy (· == '/') t, s ≠ ['.'] ∧ s ≠ ['.', '.'] := by
  refine forall₂_congr fun s hs => ?_
  have hsign : '%' ∉ s := fun hmem =>
    (not_special_of_isPlainChar (h.char _ (Text.mem_of_mem_splitBy hs _ hmem).1)).2.2.2.1 (by simp)
  rw [isDots_iff hsign, not_or]

end IsRelativePath

/-- The path of a base, joined with a relative one. -/
def joined (u : Url) (t : Text) : Text :=
  extend u.kind (if u.path = [] then ['/'] else dropLast u.kind u.path) t

theorem withPath_nil (u : Url) (path : Text) :
    withPath u path [] = { u with path, query := none, fragment := none } := rfl

/-- **A relative path** beside a base changes the path and drops what stands behind it. -/
theorem parse_relative (h : IsRelativePath t) (hnotOpaque : u.isOpaque = false)
    (hfile : u.kind = .file → u.path ≠ []) :
    parse (some u) t = .ok { u with path := joined u t, query := none, fragment := none } := by
  obtain ⟨c, rest, rfl⟩ := List.exists_cons_of_ne_nil h.ne_nil
  obtain ⟨-, -, hends, hsigns, -⟩ := not_special_of_isPlainChar (h.char c List.mem_cons_self)
  have hslash : c ≠ '/' := fun hc => h.head (congrArg some hc)
  have hback : c ≠ '\\' := fun hc => hsigns (by simp [hc])
  have hmarks : c ≠ '?' ∧ c ≠ '#' := by simpa [endsPath] using hends
  have hrelative : parseRelative u (c :: rest) =
      .ok { u with path := joined u (c :: rest), query := none, fragment := none } := by
    rw [parseRelative.eq_def]
    simp [hmarks, hslash, hback, h.cutAt_endsPath, joined, withPath_nil]
  have hparseFile (hkind : u.kind = .file) : parseFile (some u) (c :: rest) =
      .ok { u with path := joined u (c :: rest), query := none, fragment := none } := by
    have hisSlash : isSlash .file c = false := by simp [isSlash, hslash, hback]
    have hdrive : startsWithDrive (c :: rest) = false := by
      have hplain : ∀ d ∈ (c :: rest).take 2, isPlainChar d :=
        fun d hd => h.char d (List.mem_of_mem_take hd)
      rw [startsWithDrive, isDriveLetter_of_isPlainChar hplain]
      rfl
    have hjoined : parseFile.relative (some u) (c :: rest) =
        { u with path := joined u (c :: rest), query := none, fragment := none } := by
      rw [parseFile.relative.eq_def]
      simp [hmarks, hdrive, h.cutAt_endsPath, joined, withPath_nil, hkind, hfile hkind]
    rw [parseFile.eq_def]
    cases rest <;> simp [hisSlash, hjoined]
  rw [parse.eq_def]
  dsimp only
  rw [h.trim_eq_self, h.takeScheme?_eq_none]
  by_cases hkind : u.kind = .file
  · simp [hmarks, hnotOpaque, hkind, hparseFile]
  · simp [hmarks, hnotOpaque, hkind, hrelative]

end UrlMatch.Url
