/-!
# Fresh identifiers

Identifiers that must not be guessed are drawn from a supply: a sequence of texts and the number
of them that are used up. A program fills its supplies from a source of randomness; a theorem may
ask of a supply only what it needs, for instance that no two of its texts are equal.
-/

namespace RoomCall

/-- A sequence of texts, of which the first `used` have been drawn. -/
structure Supply where
  text : Nat → String
  used : Nat := 0

namespace Supply

/-- The next text, and the supply without it. -/
def draw (supply : Supply) : String × Supply :=
  (supply.text supply.used, { supply with used := supply.used + 1 })

end Supply

/-- The supplies of one device: characters for the names of new calls, names for itself in them,
and names for streams and tracks. -/
structure Supplies where
  callTokens : Supply
  partyNames : Supply
  streamNames : Supply

/-- The digits of a number in base sixteen, with lower-case letters and zeros in front up to a
width. -/
def hexDigits (width : Nat) (value : Nat) : List Char :=
  let digits := Nat.toDigits 16 (value % Nat.pow 16 width)
  List.replicate (width - digits.length) '0' ++ digits

/-- The text of a random universally unique identifier: 32 digits in base sixteen in five groups,
of which one gives the version and one the variant, from 128 random bits. -/
def uniqueId (bits : Nat) : String :=
  let digits := hexDigits 32 bits
  let variant := hexDigits 1 (8 + (bits >>> 60) % 4)
  String.ofList (digits.take 8 ++ ['-'] ++ (digits.drop 8).take 4 ++ ['-', '4'] ++
    (digits.drop 13).take 3 ++ ['-'] ++ variant ++ (digits.drop 17).take 3 ++ ['-'] ++
    digits.drop 20)

end RoomCall
