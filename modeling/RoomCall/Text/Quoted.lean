import RoomCall.Text.Unprintable

/-!
# Quoted texts

Error messages show an identifier between double quotes. Inside them the two characters that
would be read as part of the quoting, and those that would not be seen, are written as escapes.
-/

namespace RoomCall.Text

/-- The digits of a number in base sixteen, with lower-case letters. -/
def hexadecimal (number : Nat) : String :=
  String.ofList (Nat.toDigits 16 number)

/-- How a character is written between double quotes. -/
def quotedCharacter (character : Char) : String :=
  if character = '"' then "\\\""
  else if character = '\\' then "\\\\"
  else if character = '\n' then "\\n"
  else if character = '\t' then "\\t"
  else if character = '\r' then "\\r"
  else if character.toNat = 0 then "\\0"
  else if isUnprintable character then "\\u\x7b" ++ hexadecimal character.toNat ++ "\x7d"
  else character.toString

/-- A text between double quotes. -/
def quoted (text : String) : String :=
  "\"" ++ String.join (text.toList.map quotedCharacter) ++ "\""

end RoomCall.Text
