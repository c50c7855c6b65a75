import UrlMatch.Text

/-!
# Percent encoding

Controls, characters beyond ASCII and, in each part of a URL, a few more are written as the bytes
of their UTF-8 form, each byte as `%` and two upper case hexadecimal digits. Which more, the part
decides: it passes a predicate such as `Percent.path`.
-/

namespace UrlMatch.Percent

/-- The upper case hexadecimal digit of a number below 16. -/
def hexDigit (n : Nat) : Char :=
  if n < 10 then Char.ofNat ('0'.toNat + n) else Char.ofNat ('A'.toNat + (n - 10))

/-- The written form of one byte. -/
def encodeByte (b : UInt8) : Text := ['%', hexDigit (b.toNat / 16), hexDigit (b.toNat % 16)]

/-- The C0 controls and the delete character. -/
def isControl (c : Char) : Bool := c.val < 0x20 || c.val == 0x7F

/-- Says whether `c` is written as bytes where `reserved` names the further characters. -/
def isEncoded (reserved : Char → Bool) (c : Char) : Bool :=
  isControl c || 128 ≤ c.val || reserved c

/-- The written form of one character. -/
def encodeChar (reserved : Char → Bool) (c : Char) : Text :=
  if isEncoded reserved c then (String.utf8EncodeChar c).flatMap encodeByte else [c]

/-- The written form of a text. -/
def encode (reserved : Char → Bool) (t : Text) : Text := t.flatMap (encodeChar reserved)

/-- Nothing beside controls and non-ASCII characters. -/
def controls (_ : Char) : Bool := false

/-- What a fragment encodes. -/
def fragment (c : Char) : Bool := c ∈ [' ', '"', '<', '>', '`']

/-- What a path encodes. -/
def path (c : Char) : Bool := fragment c || c ∈ ['#', '?', '\x7b', '\x7d']

/-- What a user name and a password encode. -/
def userinfo (c : Char) : Bool :=
  path c || c ∈ ['/', ':', ';', '=', '@', '[', '\\', ']', '^', '|']

/-- What a query encodes. -/
def query (c : Char) : Bool := c ∈ [' ', '"', '#', '<', '>']

/-- What the query of a special scheme encodes. -/
def specialQuery (c : Char) : Bool := query c || c == '\''

/-- The bytes that a text stands for: each `%` with two hexadecimal digits is one byte, and every
other character is its UTF-8 form. -/
def decode : Text → List UInt8
  | [] => []
  | '%' :: a :: b :: rest =>
    match hexValue? a, hexValue? b with
    | some x, some y => UInt8.ofNat (x * 16 + y) :: decode rest
    | _, _ => String.utf8EncodeChar '%' ++ decode (a :: b :: rest)
  | c :: rest => String.utf8EncodeChar c ++ decode rest

end UrlMatch.Percent
