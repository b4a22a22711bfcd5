/-!
# Percent-encoding

A credential that becomes part of a URI keeps only the characters that no URI component gives a
meaning to. Every other byte of its UTF-8 form is written as a percent sign and two upper-case
digits in base sixteen, so the separators of the URI never occur in it.
-/

namespace RoomCall.Text

/-- Whether a byte stands for itself in a percent-encoded text: letters, digits and `-_.~`. -/
def isUnreserved (byte : UInt8) : Bool :=
  let code := byte.toNat
  (0x41 ≤ code && code ≤ 0x5A) || (0x61 ≤ code && code ≤ 0x7A) ||
    (0x30 ≤ code && code ≤ 0x39) || code == 0x2D || code == 0x2E || code == 0x5F || code == 0x7E

/-- The upper-case digit in base sixteen for a number below sixteen. -/
def upperHexDigit (value : Nat) : Char :=
  Char.ofNat (if value < 10 then 0x30 + value else 0x37 + value)

/-- The percent-encoded form of one byte. -/
def percentByte (byte : UInt8) : List Char :=
  if isUnreserved byte then
    [Char.ofNat byte.toNat]
  else
    ['%', upperHexDigit (byte.toNat / 16), upperHexDigit (byte.toNat % 16)]

/-- The percent-encoded form of a text. -/
def percentEncode (text : String) : String :=
  String.ofList ((text.toList.flatMap String.utf8EncodeChar).flatMap percentByte)

end RoomCall.Text
