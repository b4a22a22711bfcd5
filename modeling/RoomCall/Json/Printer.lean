import RoomCall.Json.Basic
import RoomCall.Text.Quoted

/-!
# Writing JSON texts

The compact form has no blanks. The indented form puts every item and member on a line of its own,
two spaces further in than its container, and keeps empty containers on one line.
-/

namespace RoomCall.Json

/-- A code unit written with four digits in base sixteen. -/
def escapedUnit (code : Nat) : String :=
  let digits := Text.hexadecimal code
  "\\u" ++ String.ofList (List.replicate (4 - digits.length) '0') ++ digits

/-- How a character is written inside a string: only the quote, the backslash and the controls
are escaped. -/
def writtenCharacter (character : Char) : String :=
  if character = '"' then "\\\""
  else if character = '\\' then "\\\\"
  else if character = '\n' then "\\n"
  else if character = '\r' then "\\r"
  else if character = '\t' then "\\t"
  else if character.toNat = 0x8 then "\\b"
  else if character.toNat = 0xC then "\\f"
  else if character.toNat < 0x20 then escapedUnit character.toNat
  else character.toString

/-- A string with its quotes. -/
def writtenString (text : String) : String :=
  text.toList.foldl (fun written character => written ++ writtenCharacter character) "\"" ++ "\""

mutual

/-- The compact form of a value. -/
def compact : Json → String
  | .null => "null"
  | .boolean true => "true"
  | .boolean false => "false"
  | .integer value => toString value
  | .decimal literal => literal
  | .string text => writtenString text
  | .array items => "[" ++ compactItems items ++ "]"
  | .object members => "\x7b" ++ compactEntries members ++ "\x7d"

/-- The items of an array, separated by commas. -/
def compactItems : List Json → String
  | [] => ""
  | [item] => compact item
  | item :: later => compact item ++ "," ++ compactItems later

/-- The members of an object, separated by commas. -/
def compactEntries : List (String × Json) → String
  | [] => ""
  | [(name, value)] => writtenString name ++ ":" ++ compact value
  | (name, value) :: later =>
      writtenString name ++ ":" ++ compact value ++ "," ++ compactEntries later

end

/-- A new line that starts with two spaces per level. -/
def newLine (level : Nat) : String :=
  "\n" ++ String.ofList (List.replicate (2 * level) ' ')

mutual

/-- The indented form of a value that stands inside `level` containers. -/
def indented (level : Nat) : Json → String
  | .array [] => "[]"
  | .array items => "[" ++ indentedItems (level + 1) items ++ newLine level ++ "]"
  | .object [] => "\x7b\x7d"
  | .object members => "\x7b" ++ indentedMembers (level + 1) members ++ newLine level ++ "\x7d"
  | value => compact value

/-- The items of an array, each on its line. -/
def indentedItems (level : Nat) : List Json → String
  | [] => ""
  | [item] => newLine level ++ indented level item
  | item :: later => newLine level ++ indented level item ++ "," ++ indentedItems level later

/-- The members of an object, each on its line. -/
def indentedMembers (level : Nat) : List (String × Json) → String
  | [] => ""
  | [(name, value)] => newLine level ++ writtenString name ++ ": " ++ indented level value
  | (name, value) :: later =>
      newLine level ++ writtenString name ++ ": " ++ indented level value ++ "," ++
        indentedMembers level later

end

end RoomCall.Json
