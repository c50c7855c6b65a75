import UrlMatch.Regex.Basic
import UrlMatch.Regex.NamedClass

/-!
# Flags of regular expressions

The flags that a regular expression can set and clear within a group, and what a character, a
point, an anchor and a class mean under them.

Without the flag `u` an expression speaks of bytes. As texts are matched character by character,
such an expression is refused as soon as it could match a part of a character.
-/

namespace UrlMatch.Regex

/-- The flags in force at a place of an expression. -/
structure Flags where
  /-- `i`: case makes no difference. -/
  ignoreCase : Bool
  /-- `m`: the anchors match at every line. -/
  multiLine : Bool
  /-- `s`: the point matches a line feed too. -/
  dotAll : Bool
  /-- `U`: repetitions are short unless marked. -/
  swapGreed : Bool
  /-- `u`: characters, not bytes. -/
  unicode : Bool
  /-- `R`: a carriage return ends a line too. -/
  crlf : Bool
  /-- `x`: blanks and comments are ignored. -/
  extended : Bool
deriving Repr, DecidableEq

namespace Flags

/-- The flags at the start of an expression. -/
def initial : Flags := ⟨false, false, false, false, true, false, false⟩

/-- Sets or clears the flag with a letter. -/
def update? (f : Flags) (value : Bool) : Char → Option Flags
  | 'i' => some { f with ignoreCase := value }
  | 'm' => some { f with multiLine := value }
  | 's' => some { f with dotAll := value }
  | 'U' => some { f with swapGreed := value }
  | 'u' => some { f with unicode := value }
  | 'R' => some { f with crlf := value }
  | 'x' => some { f with extended := value }
  | _ => none

/-- Adds the variants in case, if case makes no difference. -/
def fold (f : Flags) (c : CharClass) : CharClass :=
  if f.ignoreCase then (if f.unicode then .fold c else .foldAscii c) else c

/-- The complement of a class; of bytes it would hold parts of characters. -/
def compl? (f : Flags) (c : CharClass) : Option CharClass :=
  if f.unicode then some (.compl c) else none

/-- A class or its complement, with the variants in case. -/
def close? (f : Flags) (negated : Bool) (c : CharClass) : Option CharClass :=
  if negated then f.compl? (f.fold c) else some (f.fold c)

/-- A character that stands for itself. `byte` says that it is written as one byte. -/
def literal? (f : Flags) (c : Char) (byte : Bool) : Option Regex :=
  if !f.unicode && byte && 0x80 ≤ c.toNat then none else some (.one (f.fold (.single c)))

/-- Any character of a line, or any at all. -/
def dot? (f : Flags) : Option Regex :=
  if !f.unicode then none
  else if f.dotAll then some (.one .any)
  else if f.crlf then some (.one (.compl (.union (.single '\r') (.single '\n'))))
  else some (.one (.compl (.single '\n')))

/-- The anchor of a start. -/
def start (f : Flags) : Look :=
  if f.multiLine then (if f.crlf then .startLineCrlf else .startLine) else .startText

/-- The anchor of an end. -/
def finish (f : Flags) : Look :=
  if f.multiLine then (if f.crlf then .endLineCrlf else .endLine) else .endText

end Flags

end UrlMatch.Regex
