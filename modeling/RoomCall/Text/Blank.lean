/-!
# Blanks, lines and words

Descriptions and candidate lines are split and trimmed at the characters with the Unicode
`White_Space` property. Everything here works on lists of characters, so that each function is a
plain recursion on the text it reads.
-/

namespace RoomCall.Text

/-- Whether a character has the `White_Space` property. -/
def isBlank (character : Char) : Bool :=
  let code := character.toNat
  (0x9 ≤ code && code ≤ 0xD) || code == 0x20 || code == 0x85 || code == 0xA0 || code == 0x1680 ||
    (0x2000 ≤ code && code ≤ 0x200A) || code == 0x2028 || code == 0x2029 || code == 0x202F ||
    code == 0x205F || code == 0x3000

/-- Whether a text has no character but blanks. -/
def allBlank (text : String) : Bool :=
  text.toList.all isBlank

/-- A text without the blanks at its end. -/
def trimEnd : List Char → List Char
  | [] => []
  | character :: rest =>
      match trimEnd rest with
      | [] => if isBlank character then [] else [character]
      | kept => character :: kept

/-- The first run of characters that are not blank; a text of blanks has none. -/
def firstWord? (text : List Char) : Option (List Char) :=
  match (text.dropWhile isBlank).takeWhile (fun character => !isBlank character) with
  | [] => none
  | word => some word

/-- The pieces of a text between the places where a separator stands; there is always at least
one piece. -/
def pieces (separator : Char) : List Char → List (List Char)
  | [] => [[]]
  | character :: rest =>
      if character = separator then
        [] :: pieces separator rest
      else
        match pieces separator rest with
        | [] => [[character]]
        | piece :: later => (character :: piece) :: later

/-- The lines of a text, each without the blanks at its end. A carriage return before a line feed
is a blank, so both line endings are read alike. -/
def lines (text : String) : List (List Char) :=
  (pieces '\n' text.toList).map trimEnd

end RoomCall.Text
