import UrlMatch.Pattern.Error
import UrlMatch.Unicode.Character

/-!
# Reading lexemes

`readLexeme` reads the one lexeme at the front of a text, or says why there is none. `lex` repeats
that to the end: under the strict policy the first failure is the answer, under the lenient one
the character at fault becomes a lexeme of kind `invalid` and reading goes on behind it. Both go
on behind the written form of what they have read, so no character is lost.
-/

namespace UrlMatch.Pattern

/-- What happens where no lexeme can be read. -/
inductive LexPolicy
  | strict
  | lenient
deriving Repr, DecidableEq

/-- A character that may start a name. -/
def isNameStart (c : Char) : Bool := c == '$' || c == '_' || Unicode.isAlphabetic c

/-- A character that may continue a name. -/
def isNamePart (c : Char) : Bool :=
  c == '$' || c == '_' || Unicode.isAlphanumeric c || c == '\u200C' || c == '\u200D'

/-- The longest name at the front of a text; empty if there is none. -/
def takeName : Text → Text
  | [] => []
  | c :: rest => if isNameStart c then c :: rest.takeWhile isNamePart else []

/-- Judges, by the text behind an opening parenthesis, whether the group captures nothing. -/
def isNonCapturing : Text → Bool
  | '?' :: 'P' :: _ => false
  | '?' :: '<' :: '=' :: _ => true
  | '?' :: '<' :: '!' :: _ => true
  | '?' :: '<' :: _ => false
  | '?' :: _ => true
  | _ => false

/-- Reads a regular expression up to the parenthesis that closes it. The one that opens it is at
the byte `start`, `depth` more are open, and the text starts at the byte `pos`. -/
def takeRegexp (start : Nat) : (depth pos : Nat) → Text → Except Error Text
  | _, _, [] => .error (.unbalancedRegexp start)
  | _, _, ['\\'] => .error (.unbalancedRegexp start)
  | depth, pos, '\\' :: c :: rest => do
    return '\\' :: c :: (← takeRegexp start depth (pos + 1 + c.utf8Size) rest)
  | 0, _, ')' :: _ => .ok []
  | depth + 1, pos, ')' :: rest => do
    return ')' :: (← takeRegexp start depth (pos + 1) rest)
  | depth, pos, '(' :: rest =>
    if isNonCapturing rest then do
      return '(' :: (← takeRegexp start (depth + 1) (pos + 1) rest)
    else .error (.nestedCapture pos)
  | depth, pos, c :: rest => do
    return c :: (← takeRegexp start depth (pos + c.utf8Size) rest)

/-- Reads the regular expression behind a parenthesis at the byte `start`. -/
def readRegexp (start : Nat) (rest : Text) : Except Error Lexeme :=
  if rest.head? = some '?' then .error (.leadingQuestionMark (start + 1))
  else do
    let body ← takeRegexp start 0 (start + 1) rest
    if body = [] then .error (.emptyRegexp start) else return ⟨.regexp, start, body⟩

/-- Reads the lexeme that starts with the character `c` at the byte `start`. -/
def readLexeme (start : Nat) (c : Char) (rest : Text) : Except Error Lexeme :=
  match c with
  | '*' => .ok ⟨.asterisk, start, ['*']⟩
  | '+' => .ok ⟨.modifier, start, ['+']⟩
  | '?' => .ok ⟨.modifier, start, ['?']⟩
  | '\x7b' => .ok ⟨.opening, start, ['\x7b']⟩
  | '\x7d' => .ok ⟨.closing, start, ['\x7d']⟩
  | '\\' =>
    match rest with
    | [] => .error (.loneEscape start)
    | d :: _ => .ok ⟨.escapedChar, start, [d]⟩
  | ':' =>
    let name := takeName rest
    if name = [] then .error (.missingName start) else .ok ⟨.name, start, name⟩
  | '(' => readRegexp start rest
  | c => .ok ⟨.char, start, [c]⟩

/-- The lexemes of a text that starts at the byte `start`, and the end behind them. -/
def lexFrom (policy : LexPolicy) (start : Nat) : Text → Except Error (List Lexeme)
  | [] => .ok [⟨.finish, start, []⟩]
  | c :: rest => do
    let l ← match policy, readLexeme start c rest with
      | .lenient, .error _ => .ok ⟨.invalid, start, [c]⟩
      | _, result => result
    let behind := rest.drop (l.written.length - 1)
    return l :: (← lexFrom policy (start + Text.utf8Size l.written) behind)
termination_by t => t.length
decreasing_by
  simp only [List.length_cons, List.length_drop]
  omega

/-- The lexemes of a pattern. -/
def lex (policy : LexPolicy) (t : Text) : Except Error (List Lexeme) := lexFrom policy 0 t

end UrlMatch.Pattern
