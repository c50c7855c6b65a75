import UrlMatch.Text

/-!
# IPv6 addresses

An address is eight pieces of sixteen bits, written in hexadecimal with colons between them. Two
colons stand for the zeros that are missing, and the last two pieces may be written as an IPv4
address. In the canonical form the longest of the runs of zeros is left out.
-/

namespace UrlMatch.Host.Ipv6

/-- The pieces that are read, and where the colons that stand for zeros are. A pair of colons
counts as a piece of its own. -/
structure Pieces where
  list : List Nat
  gap : Option Nat
deriving Repr, DecidableEq

/-- Adds a piece. -/
def Pieces.push (p : Pieces) (n : Nat) : Pieces := { p with list := p.list ++ [n] }

/-- Puts the gap behind the pieces so far, if there is none yet. -/
def Pieces.openGap? (p : Pieces) : Option Pieces :=
  if p.gap.isSome then none else some ⟨p.list ++ [0], some (p.list.length + 1)⟩

/-- All eight pieces, if they are complete. -/
def Pieces.complete? (p : Pieces) : Option (List Nat) :=
  match p.gap with
  | some k => some (p.list.take k ++ List.replicate (8 - p.list.length) 0 ++ p.list.drop k)
  | none => if p.list.length = 8 then some p.list else none

/-- A decimal number below 256 without leading zeros. -/
def readOctet (t : Text) : Option Nat :=
  match t with
  | [] => none
  | '0' :: _ :: _ => none
  | t =>
    if t.length ≤ 3 ∧ t.all Char.isDigit ∧ decimalValue t ≤ 255 then some (decimalValue t) else none

/-- Adds the two pieces that an IPv4 address stands for. -/
def readIpv4 (p : Pieces) (t : Text) : Option Pieces := do
  if 6 < p.list.length then none
  match ← (Text.splitBy (· == '.') t).mapM readOctet with
  | [a, b, c, d] => return (p.push (a * 256 + b)).push (c * 256 + d)
  | _ => none

/-- Reads pieces to the end. -/
def readPieces (p : Pieces) (t : Text) : Option Pieces :=
  match t with
  | [] => some p
  | ':' :: rest => do
    if p.list.length = 8 then none
    readPieces (← p.openGap?) rest
  | t =>
    if p.list.length = 8 then none
    else
      let digits := (t.take 4).takeWhile fun c => (hexValue? c).isSome
      let value := digitsValue 16 (digits.filterMap hexValue?)
      match _h : t.drop digits.length with
      | [] => some (p.push value)
      | ':' :: rest => if rest = [] then none else readPieces (p.push value) rest
      | '.' :: _ => if digits = [] then none else readIpv4 p t
      | _ => none
termination_by t.length
decreasing_by
  · simp
  · have h2 := congrArg List.length _h
    simp only [List.length_drop, List.length_cons] at h2
    omega

/-- Reads an address. -/
def parse? (t : Text) : Option (List Nat) :=
  match t with
  | ':' :: ':' :: rest => (readPieces ⟨[0], some 1⟩ rest).bind Pieces.complete?
  | ':' :: _ => none
  | [] => none
  | [_] => none
  | t => (readPieces ⟨[], none⟩ t).bind Pieces.complete?

/-- The hexadecimal form of a piece. -/
def hexadecimal (n : Nat) : Text := Nat.toDigits 16 n

/-- The number of zeros at the front. -/
def zeros (ns : List Nat) : Nat := (ns.takeWhile (· == 0)).length

/-- The length of the longest run of zeros. -/
def longestZeros : List Nat → Nat
  | [] => 0
  | n :: rest => max (zeros (n :: rest)) (longestZeros rest)

/-- The pieces before the first run of `k` zeros, and those behind it. -/
def cutZeros (k : Nat) : List Nat → List Nat × List Nat
  | [] => ([], [])
  | n :: rest =>
    if zeros (n :: rest) = k then ([], (n :: rest).drop k)
    else
      let (front, back) := cutZeros k rest
      (n :: front, back)

/-- Writes an address. -/
def render (ns : List Nat) : Text :=
  let join (ns : List Nat) := Text.join [':'] (ns.map hexadecimal)
  let k := longestZeros ns
  if k < 2 then join ns
  else
    let (front, back) := cutZeros k ns
    join front ++ [':', ':'] ++ join back

end UrlMatch.Host.Ipv6
