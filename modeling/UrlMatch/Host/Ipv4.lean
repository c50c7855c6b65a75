import UrlMatch.Text

/-!
# IPv4 addresses

An address is read from up to four numbers, of which the last one fills what the others leave.
Each may be decimal, octal behind `0` or hexadecimal behind `0x`. It is written as four decimal
numbers.
-/

namespace UrlMatch.Host.Ipv4

/-- The value of digits in a base, if all of them are below it. -/
def digitsOf? (base : Nat) (t : Text) : Option Nat := do
  let ds ← t.mapM hexValue?
  if ds.all (· < base) then return digitsValue base ds else none

/-- Reads a number. A mark of its base alone stands for zero. -/
def readNumber (t : Text) : Option Nat :=
  match t with
  | [] => none
  | '0' :: 'x' :: rest | '0' :: 'X' :: rest => digitsOf? 16 rest
  | '0' :: c :: rest => digitsOf? 8 (c :: rest)
  | t => digitsOf? 10 t

/-- The pieces of a text between points, without an empty one behind a final point. -/
def pieces (t : Text) : List Text :=
  let ps := Text.splitBy (· == '.') t
  match ps.getLast? with
  | some [] => ps.dropLast
  | _ => ps

/-- The last piece is a number, so that the text has to be an address. -/
def endsInNumber (t : Text) : Bool :=
  match (pieces t).getLast? with
  | none => false
  | some [] => false
  | some last => last.all Char.isDigit || (readNumber last).isSome

/-- Reads an address. -/
def parse? (t : Text) : Option Nat := do
  let ps := pieces t
  if 4 < ps.length then none
  let ns ← ps.mapM readNumber
  let last ← ns.getLast?
  let front := ns.dropLast
  if front.all (· ≤ 255) ∧ last < Nat.pow 256 (4 - front.length) then
    return digitsValue 256 (front ++ List.replicate (4 - front.length) 0) + last
  else none

/-- Writes an address. -/
def render (n : Nat) : Text :=
  decimal (n / Nat.pow 256 3) ++ '.' :: decimal (n / Nat.pow 256 2 % 256) ++
    '.' :: decimal (n / 256 % 256) ++ '.' :: decimal (n % 256)

end UrlMatch.Host.Ipv4
