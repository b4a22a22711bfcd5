import RoomCall.Json.Numeral
import RoomCall.Json.Spelling

/-!
# The structure of JSON texts

A tree is a text taken apart as far as its grammar goes. It need not have a value: its numbers may
be too large, and its strings may be no texts. Where only some parts of a text are of interest,
they are picked from the tree, and the rest does not have to have a value.
-/

namespace RoomCall.Json

/-- A number, a string or one of the three names, as it is written. -/
inductive Literal where
  | name (value : Json)
  | number (numeral : Numeral)
  | string (pieces : List Piece)

/-- The value of a literal. -/
def Literal.value? : Literal → Option Json
  | .name value => some value
  | .number numeral => numeral.value?
  | .string pieces => (textOf? pieces).map .string

/-- The structure of a JSON text. -/
inductive Tree where
  | literal (content : Literal)
  | array (items : List Tree)
  | object (members : List (List Piece × Tree))

namespace Tree

mutual

/-- The value of a tree, with the members of each object as they are written. -/
def value? : Tree → Option Json
  | .literal content => content.value?
  | .array items => (values? items).map .array
  | .object members => (memberValues? members).map .object

/-- The values of some trees. -/
def values? : List Tree → Option (List Json)
  | [] => some []
  | item :: later => do
      let value ← value? item
      let values ← values? later
      return value :: values

/-- The values of some members, with their names. -/
def memberValues? : List (List Piece × Tree) → Option (List (String × Json))
  | [] => some []
  | (pieces, content) :: later => do
      let name ← textOf? pieces
      let value ← value? content
      let members ← memberValues? later
      return (name, value) :: members

end

/-- How the fields of a record are read from the trees that stand for them. -/
abbrev Picks := List (String × (Tree → Option Json))

/-- The fields of a record that are picked from a tree. Other members of an object need a name and
nothing else; in an array every item has its field, and one item too many is kept as null. -/
def pick? (picks : Picks) : Tree → Option Json
  | .literal content => content.value?
  | .array items => do
      let values ← items.zipIdx.mapM fun (item, place) =>
        match picks[place]? with
        | some (_, read) => read item
        | none => some .null
      return .array values
  | .object members => do
      let picked ← members.mapM fun (pieces, content) => do
        let name ← textOf? pieces
        match picks.lookup name with
        | some read => return some (name, ← read content)
        | none => return none
      return .object (picked.filterMap id)

end Tree

end RoomCall.Json
