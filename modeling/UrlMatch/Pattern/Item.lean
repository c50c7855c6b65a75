import UrlMatch.Pattern.Error
import UrlMatch.Pattern.Part

/-!
# Items of a pattern

The lexemes of a pattern group into items: a character, a capture with its modifier, and a pair of
braces with what is between them and its modifier. `Reading.ofLexemes` reads as many items as it
can and says what ended them.
-/

namespace UrlMatch.Pattern

/-- The core of a capture: a name, a regular expression, or both. -/
inductive Core
  | name (n : Text)
  | regexp (r : Text)
  | nameRegexp (n r : Text)
deriving Repr, DecidableEq

namespace Core

/-- The name of a core, if it has one. -/
def name? : Core → Option Text
  | name n => some n
  | regexp _ => none
  | nameRegexp n _ => some n

/-- The regular expression of a core, if it has one. -/
def regexp? : Core → Option Text
  | name _ => none
  | regexp r => some r
  | nameRegexp _ r => some r

end Core

/-- A unit of the grammar of patterns. -/
inductive Item
  /-- A character that the next capture may take along. -/
  | plain (value : Text)
  /-- A character that stands for itself whatever comes next. -/
  | escaped (value : Text)
  | bare (core : Core) (modifier : Modifier)
  | textGroup (value : Text) (modifier : Modifier)
  | group (lead : Text) (core : Core) (trail : Text) (modifier : Modifier)
deriving Repr, DecidableEq

/-- What stands behind the last item. -/
inductive Ending
  /-- The end of the pattern. -/
  | complete
  /-- A lexeme that starts no item. -/
  | stray (index : Nat) (found : LexemeKind)
  /-- A lexeme where a brace has to be closed. -/
  | unclosed (index : Nat) (found : LexemeKind)
deriving Repr, DecidableEq

/-- The items of a pattern and what ended them. -/
structure Reading where
  items : List Item
  ending : Ending
deriving Repr, DecidableEq

/-- Puts an item in front. -/
def Reading.cons (i : Item) (r : Reading) : Reading := { r with items := i :: r.items }

/-- A lexeme of a single character that stands for itself. -/
def Lexeme.isText (l : Lexeme) : Bool := l.kind == .char || l.kind == .escapedChar

/-- The characters that lexemes stand for. -/
def textOf (ls : List Lexeme) : Text := ls.flatMap (·.value)

/-- Reads the core of a capture. A regular expression directly behind a name belongs to it. -/
def takeCore : List Lexeme → Option Core × List Lexeme
  | ⟨.name, _, n⟩ :: ⟨.regexp, _, r⟩ :: rest => (some (.nameRegexp n r), rest)
  | ⟨.name, _, n⟩ :: rest => (some (.name n), rest)
  | ⟨.regexp, _, r⟩ :: rest => (some (.regexp r), rest)
  | ⟨.asterisk, _, _⟩ :: rest => (some (.regexp wildcardRegexp), rest)
  | rest => (none, rest)

/-- Reads a modifier; where none is written the part occurs once. -/
def takeModifier : List Lexeme → Modifier × List Lexeme
  | [] => (.once, [])
  | l :: rest =>
    if l.kind = .modifier ∨ l.kind = .asterisk then
      ((l.value.head?.bind Modifier.ofChar?).getD .once, rest)
    else (.once, l :: rest)

theorem length_takeCore_le (ls : List Lexeme) : (takeCore ls).2.length ≤ ls.length := by
  fun_cases takeCore ls <;> simp_all
  omega

theorem length_takeModifier_le (ls : List Lexeme) : (takeModifier ls).2.length ≤ ls.length := by
  fun_cases takeModifier ls <;> simp_all

theorem length_dropWhile_le (p : Lexeme → Bool) (ls : List Lexeme) :
    (ls.dropWhile p).length ≤ ls.length :=
  (List.dropWhile_sublist p).length_le

/-- A core takes at least one lexeme. -/
theorem length_takeCore_lt {ls rest : List Lexeme} {core : Core}
    (h : takeCore ls = (some core, rest)) : rest.length < ls.length := by
  revert h
  fun_cases takeCore ls <;> simp
  all_goals (intro _ h; subst h; omega)

/-- What stands between braces: text, perhaps a capture and text behind it. The rest begins with
the lexeme at which the closing brace is due. -/
def takeBody (ls : List Lexeme) : (Text × Option (Core × Text)) × List Lexeme :=
  let lead := textOf (ls.takeWhile Lexeme.isText)
  match takeCore (ls.dropWhile Lexeme.isText) with
  | (none, rest) => ((lead, none), rest)
  | (some core, rest) =>
    ((lead, some (core, textOf (rest.takeWhile Lexeme.isText))), rest.dropWhile Lexeme.isText)

theorem length_takeBody_le (ls : List Lexeme) : (takeBody ls).2.length ≤ ls.length := by
  have h1 := length_dropWhile_le Lexeme.isText ls
  have h2 := length_takeCore_le (ls.dropWhile Lexeme.isText)
  unfold takeBody
  split
  · rename_i rest h
    simp only [h] at h2
    exact Nat.le_trans h2 h1
  · rename_i core rest h
    simp only [h] at h2
    exact Nat.le_trans (length_dropWhile_le _ _) (Nat.le_trans h2 h1)

/-- The item of a pair of braces. -/
def Item.ofBody (body : Text × Option (Core × Text)) (m : Modifier) : Item :=
  match body.2 with
  | none => .textGroup body.1 m
  | some (core, trail) => .group body.1 core trail m

/-- Reads the items of a pattern. -/
def Reading.ofLexemes : List Lexeme → Reading
  | [] => ⟨[], .stray 0 .finish⟩
  | l :: rest =>
    match l.kind with
    | .finish => ⟨[], .complete⟩
    | .char => .cons (.plain l.value) (ofLexemes rest)
    | .escapedChar => .cons (.escaped l.value) (ofLexemes rest)
    | .opening =>
      let body := takeBody rest
      match _h : body.2 with
      | [] => ⟨[], .unclosed 0 .finish⟩
      | close :: behind =>
        if close.kind = .closing then
          let m := takeModifier behind
          .cons (.ofBody body.1 m.1) (ofLexemes m.2)
        else ⟨[], .unclosed close.start close.kind⟩
    | _ =>
      match _h : takeCore (l :: rest) with
      | (none, _) => ⟨[], .stray l.start l.kind⟩
      | (some core, behind) =>
        let m := takeModifier behind
        .cons (.bare core m.1) (ofLexemes m.2)
termination_by ls => ls.length
decreasing_by
  · simp
  · simp
  · have h1 := length_takeBody_le rest
    have h2 := length_takeModifier_le behind
    simp only [body] at _h
    simp only [_h, List.length_cons] at h1 ⊢
    omega
  · have h1 := length_takeCore_lt _h
    have h2 := length_takeModifier_le behind
    omega

end UrlMatch.Pattern
