import UrlMatch.Regex.Flags

/-!
# Escapes of regular expressions

What stands behind a backslash: a character, a class, or a look. `escape` goes the other way: it
writes a text as an expression that matches just this text.
-/

namespace UrlMatch.Regex

/-- A character that has a meaning in some place of an expression. -/
def isMeta (c : Char) : Bool :=
  c ∈ ['\\', '.', '+', '*', '?', '(', ')', '|', '[', ']', '\x7b', '\x7d', '^', '$', '#', '&', '-',
    '~']

/-- The expression that matches just the given text. -/
def escape (t : Text) : Text := t.flatMap fun c => if isMeta c then ['\\', c] else [c]

/-- A character that stands for itself behind a backslash: of the ASCII characters all but letters
and digits, and but the two angles. -/
def standsForItself (c : Char) : Bool :=
  c.toNat < 0x80 && !c.isAlphanum && c != '<' && c != '>'

/-- Drops blanks and comments; `comment` says that one has begun. -/
def dropIgnored (comment : Bool) : Text → Text
  | [] => []
  | c :: rest =>
    if comment then dropIgnored (c != '\n') rest
    else if Unicode.isBlank c then dropIgnored false rest
    else if c = '#' then dropIgnored true rest
    else c :: rest

theorem length_dropIgnored_le (comment : Bool) (t : Text) :
    (dropIgnored comment t).length ≤ t.length := by
  induction t generalizing comment with
  | nil => simp [dropIgnored]
  | cons c rest ih =>
    simp only [dropIgnored]
    have h1 := ih (c != '\n')
    have h2 := ih false
    have h3 := ih true
    split <;> (try split) <;> (try split) <;> simp only [List.length_cons] <;> omega

/-- Drops blanks and comments where flags say that they are ignored. -/
def Flags.skip (f : Flags) (t : Text) : Text := if f.extended then dropIgnored false t else t

theorem Flags.length_skip_le (f : Flags) (t : Text) : (f.skip t).length ≤ t.length := by
  unfold Flags.skip
  split
  · exact length_dropIgnored_le _ _
  · exact Nat.le_refl _

/-- What an escape stands for. -/
inductive Escape
  /-- A character; `byte` says that it is written as one byte. -/
  | literal (c : Char) (byte : Bool)
  /-- A class with a one-letter name. -/
  | brief (name : Char) (negated : Bool)
  /-- A property of characters. -/
  | property (c : CharClass) (negated : Bool)
  | look (l : Bool → Look)

namespace Escape

/-- The character with a number, if there is one. -/
def charOf? (n : Nat) : Option Char := if h : n.isValidChar then some (Char.ofNatAux n h) else none

/-- Reads exactly `count` hexadecimal digits. -/
def readHex (f : Flags) : (count value : Nat) → Text → Option (Nat × Text)
  | 0, value, t => some (value, t)
  | _ + 1, _, [] => none
  | n + 1, value, c :: rest =>
    match hexValue? c with
    | none => none
    | some d => readHex f n (value * 16 + d) (f.skip rest)

/-- Reads characters up to a closing brace. -/
def readBraced (f : Flags) (t : Text) : Option (Text × Text) :=
  match f.skip t with
  | [] => none
  | c :: rest =>
    if c = '\x7d' then some ([], rest)
    else if rest.length < t.length then (readBraced f rest).map fun r => (c :: r.1, r.2)
    else none
termination_by t.length

/-- Reads the number of a character behind `x`, `u` or `U`, which ask for `count` digits or for
digits in braces. -/
def readNumber (f : Flags) (count : Nat) (t : Text) : Option (Escape × Text) :=
  match f.skip t with
  | [] => none
  | '\x7b' :: rest => do
    let (digits, rest) ← readBraced f rest
    if digits = [] then none
    let values ← digits.mapM hexValue?
    return (.literal (← charOf? (digitsValue 16 values)) false, f.skip rest)
  | t => do
    let (value, rest) ← readHex f count 0 t
    return (.literal (← charOf? value) (count == 2), rest)

/-- Cuts a text at the first `sep`, if it occurs. -/
def cutAt? (sep : Text) : Text → Option (Text × Text)
  | [] => none
  | c :: rest =>
    match Text.strip? sep (c :: rest) with
    | some behind => some ([], behind)
    | none => (cutAt? sep rest).map fun r => (c :: r.1, r.2)

/-- The class of a property, and whether the comparison with its value is negative. -/
def property? (name : Text) : Option (CharClass × Bool) :=
  match cutAt? ['!', '='] name with
  | some (n, v) => (CharClass.ofNameValue? n v).map (·, true)
  | none =>
    match (cutAt? [':'] name).or (cutAt? ['='] name) with
    | some (n, v) => (CharClass.ofNameValue? n v).map (·, false)
    | none => (CharClass.ofName? name).map (·, false)

/-- Reads the property behind `p` or `P`. -/
def readProperty (f : Flags) (negated : Bool) (t : Text) : Option (Escape × Text) :=
  match f.skip t with
  | [] => none
  | '\x7b' :: rest => do
    let (name, rest) ← readBraced f rest
    let (c, unequal) ← property? name
    return (.property c (negated != unequal), rest)
  | '\\' :: _ => none
  | c :: rest => do
    let (cls, _) ← property? [c]
    return (.property cls negated, f.skip rest)

/-- A character of the name of a word boundary. -/
def isBoundaryLetter (c : Char) : Bool := c.isAlpha || c == '-'

/-- Reads what stands behind `b`. A brace opens the name of a special boundary only if a letter
or a hyphen follows; otherwise it belongs to a repetition. -/
def readBoundary (f : Flags) (t : Text) : Option (Escape × Text) :=
  match t with
  | '\x7b' :: rest =>
    match f.skip rest with
    | [] => none
    | c :: _ =>
      if !isBoundaryLetter c then some (.look .wordBoundary, t)
      else do
        let (name, behind) ← readBraced f rest
        if name = "start".toList then return (.look .wordStart, behind)
        else if name = "end".toList then return (.look .wordEnd, behind)
        else if name = "start-half".toList then return (.look .wordStartHalf, behind)
        else if name = "end-half".toList then return (.look .wordEndHalf, behind)
        else none
  | _ => some (.look .wordBoundary, t)

/-- Reads what stands behind a backslash. -/
def read (f : Flags) : Text → Option (Escape × Text)
  | [] => none
  | c :: rest =>
    if standsForItself c then some (.literal c false, rest)
    else match c with
      | 'x' => readNumber f 2 rest
      | 'u' => readNumber f 4 rest
      | 'U' => readNumber f 8 rest
      | 'p' => readProperty f false rest
      | 'P' => readProperty f true rest
      | 'd' | 's' | 'w' => some (.brief c false, rest)
      | 'D' | 'S' | 'W' => some (.brief c.toLower true, rest)
      | 'a' => some (.literal '\x07' false, rest)
      | 'f' => some (.literal '\x0C' false, rest)
      | 't' => some (.literal '\t' false, rest)
      | 'n' => some (.literal '\n' false, rest)
      | 'r' => some (.literal '\r' false, rest)
      | 'v' => some (.literal '\x0B' false, rest)
      | 'A' => some (.look fun _ => .startText, rest)
      | 'z' => some (.look fun _ => .endText, rest)
      | 'b' => readBoundary f rest
      | 'B' => some (.look .notWordBoundary, rest)
      | '<' => some (.look .wordStart, rest)
      | '>' => some (.look .wordEnd, rest)
      | _ => none

/-- The class that an escape stands for inside the brackets of a class. -/
def class? (f : Flags) : Escape → Option CharClass
  | literal c _ => if f.unicode || c.toNat < 0x80 then some (.single c) else none
  | brief name negated =>
    let cls := match name with
      | 'd' => CharClass.digit f.unicode
      | 's' => CharClass.blank f.unicode
      | _ => CharClass.word f.unicode
    if negated then f.compl? cls else some cls
  | property c negated => if f.unicode then f.close? negated c else none
  | look _ => none

/-- The expression that an escape stands for outside of classes. -/
def regex? (f : Flags) : Escape → Option Regex
  | literal c byte => f.literal? c byte
  | look l => some (.look (l f.unicode))
  | e => (e.class? f).map .one

end Escape

end UrlMatch.Regex
