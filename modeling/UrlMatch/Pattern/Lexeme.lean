import UrlMatch.Text

/-!
# Lexemes

The units that the text of a pattern is read in. A lexeme remembers the byte at which it starts
and its value; `Lexeme.written` is the text that it was read from, so that a pattern is the
concatenation of its lexemes' written forms.
-/

namespace UrlMatch.Pattern

/-- What a lexeme is. -/
inductive LexemeKind
  /-- An opening brace. -/
  | opening
  /-- A closing brace. -/
  | closing
  /-- A regular expression in parentheses. -/
  | regexp
  /-- A name behind a colon. -/
  | name
  /-- A character that stands for itself. -/
  | char
  /-- A character behind a backslash, which stands for itself. -/
  | escapedChar
  /-- A question mark or a plus sign. -/
  | modifier
  /-- An asterisk. -/
  | asterisk
  /-- A character at which no lexeme can be read. -/
  | invalid
  /-- The end of the pattern. -/
  | finish
deriving Repr, DecidableEq

/-- The label of a kind of lexeme in messages. -/
def LexemeKind.label : LexemeKind → String
  | opening => "Open"
  | closing => "Close"
  | regexp => "Regexp"
  | name => "Name"
  | char => "Char"
  | escapedChar => "EscapedChar"
  | modifier => "OtherModifier"
  | asterisk => "Asterisk"
  | invalid => "InvalidChar"
  | finish => "End"

/-- A unit of a pattern's text. -/
structure Lexeme where
  kind : LexemeKind
  /-- The byte at which the lexeme starts. -/
  start : Nat
  value : Text
deriving Repr, DecidableEq

namespace Lexeme

/-- The text that a lexeme was read from. -/
def written (l : Lexeme) : Text :=
  match l.kind with
  | .escapedChar => '\\' :: l.value
  | .name => ':' :: l.value
  | .regexp => '(' :: l.value ++ [')']
  | _ => l.value

/-- The lexeme, `n` bytes further on. -/
def shift (n : Nat) (l : Lexeme) : Lexeme := { l with start := l.start + n }

@[simp] theorem written_shift (n : Nat) (l : Lexeme) : (l.shift n).written = l.written := rfl

@[simp] theorem kind_shift (n : Nat) (l : Lexeme) : (l.shift n).kind = l.kind := rfl

@[simp] theorem value_shift (n : Nat) (l : Lexeme) : (l.shift n).value = l.value := rfl

end Lexeme

end UrlMatch.Pattern
