/-!
# Unsigned decimal numbers

Payload types, synchronization sources and durations are read as decimal digits with an optional
plus sign in front. A number that does not fit its width is refused rather than reduced.
-/

namespace RoomCall.Text

/-- The value of a decimal digit. -/
def digit? (character : Char) : Option Nat :=
  if '0' ≤ character ∧ character ≤ '9' then some (character.toNat - '0'.toNat) else none

/-- The number that a list of digits writes after the digits already read. -/
def digitsFrom? (read : Nat) : List Char → Option Nat
  | [] => some read
  | character :: rest => do
      let digit ← digit? character
      digitsFrom? (10 * read + digit) rest

/-- A decimal number below `bound`, with an optional plus sign and at least one digit. -/
def decimalBelow? (bound : Nat) (text : List Char) : Option Nat :=
  let digits := match text with
    | '+' :: rest => rest
    | _ => text
  if digits.isEmpty then
    none
  else
    (digitsFrom? 0 digits).filter (· < bound)

end RoomCall.Text
