/-!
# Strings in JSON texts

Between its quotes a string is spelled with characters that stand for themselves and with escapes.
An escape may name a code unit, and two units that are the halves of a surrogate pair stand for
one character together. Whether a string is spelled properly and whether its units make up a text
are two questions: a half that stands alone is proper spelling, but no text.
-/

namespace RoomCall.Json

/-- A part of a spelled string: a character, or a code unit given by an escape. -/
inductive Piece where
  | character (value : Char)
  | unit (value : Nat)
  deriving DecidableEq, Inhabited, Repr

/-- The value of a digit in base sixteen, of either case. -/
def hexDigit? (character : Char) : Option Nat :=
  let code := character.toNat
  if 0x30 ≤ code ∧ code ≤ 0x39 then some (code - 0x30)
  else if 0x41 ≤ code ∧ code ≤ 0x46 then some (code - 0x37)
  else if 0x61 ≤ code ∧ code ≤ 0x66 then some (code - 0x57)
  else none

/-- The code unit that four digits in base sixteen write. -/
def unit? (first second third fourth : Char) : Option Nat := do
  let highest ← hexDigit? first
  let high ← hexDigit? second
  let low ← hexDigit? third
  let lowest ← hexDigit? fourth
  return 16 * (16 * (16 * highest + high) + low) + lowest

/-- The character that a one-letter escape stands for. -/
def escaped? (letter : Char) : Option Char :=
  if letter = '"' ∨ letter = '\\' ∨ letter = '/' then some letter
  else if letter = 'b' then some (Char.ofNat 0x8)
  else if letter = 'f' then some (Char.ofNat 0xC)
  else if letter = 'n' then some '\n'
  else if letter = 'r' then some '\r'
  else if letter = 't' then some '\t'
  else none

/-- The pieces of a spelled string, after those that have been read, which are kept backwards. -/
def piecesFrom? (read : List Piece) : List Char → Option (List Piece)
  | [] => some read.reverse
  | '\\' :: 'u' :: first :: second :: third :: fourth :: rest =>
      match unit? first second third fourth with
      | some value => piecesFrom? (.unit value :: read) rest
      | none => none
  | '\\' :: letter :: rest =>
      match escaped? letter with
      | some meant => piecesFrom? (.character meant :: read) rest
      | none => none
  | character :: rest =>
      if character = '\\' ∨ character.toNat < 0x20 then none
      else piecesFrom? (.character character :: read) rest

/-- The pieces of a spelled string, if it is spelled properly. -/
def pieces? (spelling : List Char) : Option (List Piece) :=
  piecesFrom? [] spelling

/-- Whether a code unit is the first half of a surrogate pair. -/
def isFirstHalf (unit : Nat) : Bool :=
  0xD800 ≤ unit && unit ≤ 0xDBFF

/-- Whether a code unit is the second half of a surrogate pair. -/
def isSecondHalf (unit : Nat) : Bool :=
  0xDC00 ≤ unit && unit ≤ 0xDFFF

/-- The characters that some pieces make up, after those that have been read, which are kept
backwards. A half of a pair stands for nothing alone. -/
def charactersFrom? (read : List Char) : List Piece → Option (List Char)
  | [] => some read.reverse
  | .character value :: rest => charactersFrom? (value :: read) rest
  | .unit first :: .unit second :: rest =>
      if isFirstHalf first then
        if isSecondHalf second then
          charactersFrom?
            (Char.ofNat (0x10000 + (first - 0xD800) * 0x400 + (second - 0xDC00)) :: read) rest
        else
          none
      else if isSecondHalf first then none
      else charactersFrom? (Char.ofNat first :: read) (.unit second :: rest)
  | .unit value :: rest =>
      if isFirstHalf value || isSecondHalf value then none
      else charactersFrom? (Char.ofNat value :: read) rest

/-- The text that some pieces make up. -/
def textOf? (pieces : List Piece) : Option String :=
  (charactersFrom? [] pieces).map String.ofList

end RoomCall.Json
