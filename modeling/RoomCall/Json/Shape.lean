import RoomCall.Json.Basic

/-!
# Reading values by their shape

The fields of a record are found by name in an object or by position in an array, and unknown
members of an object are passed over. A choice is the name of a case, or an object whose only
member carries the case's content; where that content is a list of fields, they are given by name.
Null stands for an absent optional value and for nothing else.
Every reader answers with nothing when the value does not have the shape it asks for.
-/

namespace RoomCall.Json

/-- The fields of a record: where each of them is found, and whether they were given by
position. -/
structure Fields where
  value? : String → Option Json
  positional : Bool

/-- The fields of a record with the given names. An array may stop early but not go on past the
last field. -/
def fields? (names : List String) : Json → Option Fields
  | .object members => some ⟨fun name => member? name members, false⟩
  | .array items =>
      if items.length ≤ names.length then
        some ⟨fun name => items[names.idxOf name]?, true⟩
      else
        none
  | _ => none

/-- The fields of a case of a choice, which are always given by name. -/
def namedFields? : Json → Option Fields
  | .object members => some ⟨fun name => member? name members, false⟩
  | _ => none

/-- A field that has to be there. -/
def Fields.required {α : Type} (fields : Fields) (name : String) (read : Json → Option α) :
    Option α :=
  fields.value? name >>= read

/-- A field with a value to use where it is missing. -/
def Fields.defaulted {α : Type} (fields : Fields) (name : String) (read : Json → Option α)
    (default : α) : Option α :=
  match fields.value? name with
  | none => some default
  | some value => read value

/-- A value that may be null. -/
def nullable? {α : Type} (read : Json → Option α) : Json → Option (Option α)
  | .null => some none
  | value => (read value).map some

/-- A field for an optional value. By name it may be missing; by position its place counts. -/
def Fields.optional {α : Type} (fields : Fields) (name : String) (read : Json → Option α) :
    Option (Option α) :=
  match fields.value? name with
  | none => if fields.positional then none else some none
  | some value => nullable? read value

/-- A string. -/
def text? : Json → Option String
  | .string text => some text
  | _ => none

/-- A boolean. -/
def boolean? : Json → Option Bool
  | .boolean value => some value
  | _ => none

/-- A natural number below `bound`. -/
def natBelow? (bound : Nat) : Json → Option Nat
  | .integer value => if 0 ≤ value ∧ value < bound then some value.toNat else none
  | _ => none

/-- A natural number that fits an unsigned 64-bit word. -/
def word64? : Json → Option Nat :=
  natBelow? UInt64.size

/-- A natural number that fits an unsigned 32-bit word. -/
def word32? : Json → Option Nat :=
  natBelow? UInt32.size

/-- An array whose items all have the same shape. -/
def list? {α : Type} (read : Json → Option α) : Json → Option (List α)
  | .array items => items.mapM read
  | _ => none

/-- An object whose values all have the same shape, with its keys. -/
def table? {α : Type} (read : Json → Option α) : Json → Option (List (String × α))
  | .object members => members.mapM fun (name, value) => (read value).map fun content => (name, content)
  | _ => none

/-- An object with values of any shape. -/
def members? : Json → Option (List (String × Json))
  | .object members => some members
  | _ => none

/-- The case of a choice and its content, if it has one. -/
def case? : Json → Option (String × Option Json)
  | .string name => some (name, none)
  | .object [(name, content)] => some (name, some content)
  | _ => none

/-- The content of a case that has none: it is not given, or given as null. -/
def noContent? : Option Json → Option Unit
  | none => some ()
  | some .null => some ()
  | some _ => none

/-- A choice between cases without content. -/
def choice? {α : Type} (cases : List (String × α)) (value : Json) : Option α := do
  let (name, content) ← case? value
  noContent? content
  (cases.find? fun candidate => candidate.1 == name).map Prod.snd

end RoomCall.Json
