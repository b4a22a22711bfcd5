/-!
# JSON values

Event contents and configurations travel as JSON. Integers that fit a signed or an unsigned
64-bit word are kept exactly; every other number is kept as the literal that wrote it, because no
shape in this library reads one. An object is the list of its members, ordered by name and without
repetition when it comes from `Json.ofMembers`.
-/

namespace RoomCall

/-- A JSON value. -/
inductive Json where
  | null
  | boolean (value : Bool)
  /-- A whole number that fits a 64-bit word. -/
  | integer (value : Int)
  /-- Any other number, as it was written. -/
  | decimal (literal : String)
  | string (text : String)
  | array (items : List Json)
  | object (members : List (String × Json))
  deriving Inhabited

namespace Json

/-- Whether a whole number fits a signed or an unsigned 64-bit word. -/
def fitsWord (value : Int) : Bool :=
  Int64.minValue.toInt ≤ value && value < UInt64.size

/-- The value of a member, by name. -/
def member? (name : String) : List (String × Json) → Option Json
  | [] => none
  | (key, value) :: later => if key = name then some value else member? name later

/-- The members with one more entry, in the place its key has in the order of the keys; an entry
with the same key is replaced. -/
def insertEntry {α : Type} (name : String) (value : α) : List (String × α) → List (String × α)
  | [] => [(name, value)]
  | (key, old) :: later =>
      if name = key then (name, value) :: later
      else if name < key then (name, value) :: (key, old) :: later
      else (key, old) :: insertEntry name value later

/-- Entries ordered by key; of entries with the same key the last one stays. -/
def sortEntries {α : Type} (entries : List (String × α)) : List (String × α) :=
  entries.foldl (fun sorted entry => insertEntry entry.1 entry.2 sorted) []

/-- An object with the given members; of members with the same name the last one stays. -/
def ofMembers (members : List (String × Json)) : Json :=
  .object (sortEntries members)

/-- A text, or null where there is none. -/
def ofText? : Option String → Json
  | none => .null
  | some text => .string text

/-- A natural number. -/
def ofNat (value : Nat) : Json :=
  .integer value

mutual

/-- The same value with the members of every object ordered by name, where of members with the
same name the last one stays. -/
def normalized : Json → Json
  | .array items => .array (normalizedItems items)
  | .object members => ofMembers (normalizedMembers members)
  | value => value

/-- `normalized` on every item. -/
def normalizedItems : List Json → List Json
  | [] => []
  | item :: later => normalized item :: normalizedItems later

/-- `normalized` on the value of every member. -/
def normalizedMembers : List (String × Json) → List (String × Json)
  | [] => []
  | (name, value) :: later => (name, normalized value) :: normalizedMembers later

end

end Json

end RoomCall
