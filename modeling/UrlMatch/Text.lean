/-!
# Text

Every text of this library, a pattern, a URL or a part of either, is its list of characters, so
that a scan is a recursion on the data. Positions that are reported count bytes of the UTF-8 form,
which `utf8Size` measures.
-/

namespace UrlMatch

/-- A text, as the list of its characters. -/
abbrev Text := List Char

/-- Texts are equal if they compare as equal. -/
instance : LawfulBEq Text := inferInstanceAs (LawfulBEq (List Char))

namespace Text

/-- The number of bytes of the UTF-8 form. -/
def utf8Size : Text → Nat
  | [] => 0
  | c :: rest => c.utf8Size + utf8Size rest

@[simp] theorem utf8Size_nil : utf8Size [] = 0 := rfl

@[simp] theorem utf8Size_cons (c : Char) (t : Text) :
    utf8Size (c :: t) = c.utf8Size + utf8Size t := rfl

@[simp] theorem utf8Size_append (s t : Text) : utf8Size (s ++ t) = utf8Size s + utf8Size t := by
  induction s with
  | nil => simp
  | cons c s ih => simp [ih, Nat.add_assoc]

/-- Reads UTF-8, unless some byte does not belong. -/
def ofUtf8? (bytes : List UInt8) : Option Text :=
  (String.fromUTF8? ⟨bytes.toArray⟩).map String.toList

/-- Every character is one of the first 128. -/
def isAscii (t : Text) : Bool := t.all fun c => c.val < 128

/-- Lower case for the letters `A` to `Z`. -/
def asciiLower (t : Text) : Text := t.map Char.toLower

/-- What is left of the text after `lead`, if it starts with that. -/
def strip? : Text → Text → Option Text
  | [], t => some t
  | _ :: _, [] => none
  | c :: lead, d :: t => if c = d then strip? lead t else none

/-- Drops one leading `c`, if there is one. -/
def dropLeading (c : Char) : Text → Text
  | [] => []
  | d :: t => if d = c then t else d :: t

/-- Drops one trailing `c`, if there is one. -/
def dropTrailing (c : Char) (t : Text) : Text :=
  if t.getLast? = some c then t.dropLast else t

/-- Cuts a text at every character that `p` accepts; there is always at least one piece. -/
def splitBy (p : Char → Bool) : Text → List Text
  | [] => [[]]
  | c :: t =>
    if p c then [] :: splitBy p t
    else match splitBy p t with
      | [] => [[c]]
      | piece :: pieces => (c :: piece) :: pieces

/-- Puts `sep` between the pieces. -/
def join (sep : Text) : List Text → Text
  | [] => []
  | [piece] => piece
  | piece :: next :: pieces => piece ++ sep ++ join sep (next :: pieces)

/-- The part up to and including the last `c`, and the part behind it, if `c` occurs. -/
def cutAfterLast? (c : Char) (t : Text) : Option (Text × Text) :=
  if c ∈ t then
    let tail := (t.reverse.takeWhile (· ≠ c)).reverse
    some (t.take (t.length - tail.length), tail)
  else none

end Text

/-- The value of a hexadecimal digit. -/
def hexValue? (c : Char) : Option Nat :=
  if '0' ≤ c ∧ c ≤ '9' then some (c.toNat - '0'.toNat)
  else if 'a' ≤ c ∧ c ≤ 'f' then some (c.toNat - 'a'.toNat + 10)
  else if 'A' ≤ c ∧ c ≤ 'F' then some (c.toNat - 'A'.toNat + 10)
  else none

/-- The number that digits stand for in a base, with no digits standing for zero. -/
def digitsValue (base : Nat) (digits : List Nat) : Nat :=
  digits.foldl (fun n d => n * base + d) 0

/-- The value of a decimal digit. -/
def digitValue (c : Char) : Nat := c.toNat - '0'.toNat

/-- The number that decimal digits stand for. -/
def decimalValue (t : Text) : Nat := digitsValue 10 (t.map digitValue)

/-- The shortest decimal form of a number. -/
def decimal (n : Nat) : Text := Nat.toDigits 10 n

end UrlMatch
