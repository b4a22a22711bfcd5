import RoomCall.Json.Basic
import RoomCall.Text.Decimal

/-!
# Numbers in JSON texts

A number that is written without a point and an exponent and fits a 64-bit word is kept exactly.
Every other number only has to be small enough for a double, which is decided the way a fast
reader computes one: the digits are kept as long as they fit an unsigned 64-bit word, what is kept
and the power of ten behind it are each rounded to a double, and the number is too large if their
product is. Near the largest double the roundings show, and the test is about the rounded numbers.
-/

namespace RoomCall.Json

/-- A number taken apart: its sign, the digits before the point, those after it, the exponent, and
the whole as it was written. -/
structure Numeral where
  literal : List Char
  negative : Bool
  whole : List Char
  fraction : Option (List Char)
  exponent : Option Int

/-- Digits, of which there must be at least one, and what follows them. -/
def digits? (text : List Char) : Option (List Char × List Char) :=
  match text.takeWhile Char.isDigit with
  | [] => none
  | digits => some (digits, text.dropWhile Char.isDigit)

/-- The exponent that ends a numeral; without the letter that starts one there is none. -/
def exponent? : List Char → Option (Option Int)
  | [] => some none
  | letter :: rest =>
      if letter = 'e' ∨ letter = 'E' then
        match rest with
        | '-' :: digits => (exponentDigits? digits).map fun value => some (-(value : Int))
        | '+' :: digits => (exponentDigits? digits).map fun value => some (value : Int)
        | digits => (exponentDigits? digits).map fun value => some (value : Int)
      else
        none
where
  exponentDigits? (text : List Char) : Option Nat :=
    if text.isEmpty then none else Text.digitsFrom? 0 text

/-- A numeral: no zero stands in front of another digit, and a point and an exponent are each
followed by digits. -/
def numeral? (text : List Char) : Option Numeral := do
  let (negative, magnitude) := match text with
    | '-' :: rest => (true, rest)
    | _ => (false, text)
  let (whole, rest) ← digits? magnitude
  if whole.head? = some '0' ∧ whole.length ≠ 1 then
    none
  match rest with
  | '.' :: after =>
      let (fraction, last) ← digits? after
      let exponent ← exponent? last
      some ⟨text, negative, whole, some fraction, exponent⟩
  | last =>
      let exponent ← exponent? last
      some ⟨text, negative, whole, none, exponent⟩

/-- The number that some digits write after what has been read, as long as it fits an unsigned
64-bit word, and the number of digits that are left over. -/
def keepDigits (kept : Nat) : List Char → Nat × Nat
  | [] => (kept, 0)
  | character :: rest =>
      let next := 10 * kept + (Text.digit? character).getD 0
      if next < UInt64.size then keepDigits next rest else (kept, rest.length + 1)

/-- The double that is nearest to a natural number; of two equally near ones, the one whose last
bit is zero. -/
def nearestDouble (number : Nat) : Nat :=
  let shift := number.log2 - 52
  let unit := 1 <<< shift
  let lower := number / unit
  let rest := number % unit
  if unit < 2 * rest ∨ (unit = 2 * rest ∧ lower % 2 = 1) then (lower + 1) * unit
  else lower * unit

/-- The least number that rounds beyond the largest double. -/
def doubleLimit : Nat := 1 <<< 1024 - 1 <<< 970

/-- The digits that are kept of a numeral, and the power of ten they are multiplied with. Every
digit before the point that is not kept counts for the power. -/
def Numeral.scaled (numeral : Numeral) : Nat × Int :=
  let fraction := numeral.fraction.getD []
  let (kept, dropped) := keepDigits 0 numeral.whole
  let (significand, unused) := keepDigits kept fraction
  (significand, numeral.exponent.getD 0 + dropped - (fraction.length - unused : Nat))

/-- Whether a numeral is too large for a double. -/
def Numeral.isHuge (numeral : Numeral) : Bool :=
  let (significand, scale) := numeral.scaled
  if significand = 0 ∨ scale ≤ 0 then false
  else if 308 < scale then true
  else doubleLimit ≤ nearestDouble significand * nearestDouble (Nat.pow 10 scale.toNat)

/-- The value of a numeral; there is none if it is too large. Minus zero is no whole number. -/
def Numeral.value? (numeral : Numeral) : Option Json :=
  if numeral.isHuge then
    none
  else
    let literal := Json.decimal (String.ofList numeral.literal)
    match numeral.fraction, numeral.exponent, Text.digitsFrom? 0 numeral.whole with
    | none, none, some value =>
        let signed : Int := if numeral.negative then -(value : Int) else value
        if fitsWord signed && !(numeral.negative && value == 0) then some (.integer signed)
        else some literal
    | _, _, _ => some literal

end RoomCall.Json
