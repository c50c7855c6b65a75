import UrlMatch.Text

/-!
# Punycode

Writes any text in ASCII letters, digits and hyphens: first its ASCII characters, then, behind a
hyphen, where the others are to be inserted. Insertions come in the order of their code points, and
each says how far it is from the one before it, as a number in base 36 whose digits' weights adapt
to the numbers so far.
-/

namespace UrlMatch.Host.Punycode

/-- The digit with a value below 36. -/
def digitChar (n : Nat) : Char :=
  if n < 26 then Char.ofNat ('a'.toNat + n) else Char.ofNat ('0'.toNat + (n - 26))

/-- The value of a digit. -/
def digitValue? (c : Char) : Option Nat :=
  if '0' ≤ c ∧ c ≤ '9' then some (c.toNat - '0'.toNat + 26)
  else if 'a' ≤ c ∧ c ≤ 'z' then some (c.toNat - 'a'.toNat)
  else if 'A' ≤ c ∧ c ≤ 'Z' then some (c.toNat - 'A'.toNat)
  else none

/-- The least value that ends a number, at the digit `k` under the bias `bias`. -/
def threshold (k bias : Nat) : Nat :=
  if k ≤ bias then 1 else if bias + 26 ≤ k then 26 else k - bias

/-- Scales a distance down until it is small, counting the steps by 36. -/
def scale (delta k : Nat) : Nat × Nat :=
  if 455 < delta then scale (delta / 35) (k + 36) else (delta, k)
termination_by delta

/-- The bias that follows a distance, when `count` characters are written. -/
def adapt (delta count : Nat) (first : Bool) : Nat :=
  let delta := if first then delta / 700 else delta / 2
  let (delta, k) := scale (delta + delta / count) 0
  k + 36 * delta / (delta + 38)

theorem threshold_pos (k bias : Nat) : 0 < threshold k bias := by
  unfold threshold; split <;> (try split) <;> omega

theorem threshold_lt (k bias : Nat) : threshold k bias < 36 := by
  unfold threshold; split <;> (try split) <;> omega

/-- The digits of a number. -/
def encodeNumber (bias : Nat) (q k : Nat) : Text :=
  let t := threshold k bias
  if q < t then [digitChar q]
  else digitChar (t + (q - t) % (36 - t)) :: encodeNumber bias ((q - t) / (36 - t)) (k + 36)
termination_by q
decreasing_by
  have h1 := threshold_pos k bias
  have h3 := Nat.div_le_self (q - threshold k bias) (36 - threshold k bias)
  omega

/-- The state between two insertions. -/
structure State where
  /-- The distance that has gathered. -/
  delta : Nat
  bias : Nat
  /-- The number of characters that are written. -/
  written : Nat
  /-- Nothing has been inserted yet. -/
  first : Bool

/-- Walks over the text and inserts the characters with the code point `n`. -/
def insertAll (n : Nat) (s : State) : Text → State × Text
  | [] => (s, [])
  | c :: rest =>
    if c.toNat < n then insertAll n { s with delta := s.delta + 1 } rest
    else if c.toNat = n then
      let s' : State := ⟨0, adapt s.delta (s.written + 1) s.first, s.written + 1, false⟩
      let (s', out) := insertAll n s' rest
      (s', encodeNumber s.bias s.delta 36 ++ out)
    else insertAll n s rest

/-- Inserts the characters of the text with each of the given code points in turn. -/
def encodeFrom (t : Text) (n : Nat) (s : State) : List Nat → Text
  | [] => []
  | m :: ms =>
    let s := { s with delta := s.delta + (m - n) * (s.written + 1) }
    let (s, out) := insertAll m s t
    out ++ encodeFrom t (m + 1) { s with delta := s.delta + 1 } ms

/-- The code points beyond ASCII of a text, in increasing order. -/
def insertions (t : Text) : List Nat :=
  let ns := (t.map Char.toNat).filter (128 ≤ ·)
  (ns.eraseDups).mergeSort

/-- The written form of a text. -/
def encode (t : Text) : Text :=
  let basic := t.filter (·.toNat < 128)
  let head := if basic = [] then [] else basic ++ ['-']
  head ++ encodeFrom t 128 ⟨0, 72, basic.length, true⟩ (insertions t)

/-- Reads a number: its value and the rest. -/
def decodeNumber (bias weight value k : Nat) : Text → Option (Nat × Text)
  | [] => none
  | c :: rest =>
    match digitValue? c with
    | none => none
    | some d =>
      let value := value + d * weight
      let t := threshold k bias
      if d < t then some (value, rest)
      else decodeNumber bias (weight * (36 - t)) value (k + 36) rest

/-- Makes the insertions that a text describes. -/
def decodeFrom (n i bias : Nat) (out : Text) (t : Text) : Option Text :=
  if t = [] then some out
  else
    match decodeNumber bias 1 0 36 t with
    | none => none
    | some (delta, rest) =>
      let count := out.length + 1
      let n := n + (i + delta) / count
      let i := (i + delta) % count
      if n.isValidChar then
        if rest.length < t.length then
          decodeFrom n (i + 1) (adapt delta count (out.all (·.toNat < 128)))
            (out.take i ++ Char.ofNat n :: out.drop i) rest
        else none
      else none
termination_by t.length

/-- Reads the written form of a text. -/
def decode (t : Text) : Option Text :=
  match Text.cutAfterLast? '-' t with
  | some (front, rest) =>
    let basic := front.dropLast
    if basic = [] ∨ basic.any (128 ≤ ·.toNat) then none else decodeFrom 128 0 72 basic rest
  | none => decodeFrom 128 0 72 [] t

end UrlMatch.Host.Punycode
