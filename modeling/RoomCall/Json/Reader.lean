import RoomCall.Json.Tree

/-!
# Reading JSON texts

A text is read twice from left to right. The first pass turns characters into tokens, the second
tokens into a tree; both are folds of a step function over their input, so neither can fail to
end. What is open at a place in the text is part of the state: the string or word that is being
read, and the arrays and objects that have not been closed.
-/

namespace RoomCall.Json

/-- The parts that a JSON text is made of. -/
inductive Token where
  | openObject
  | closeObject
  | openArray
  | closeArray
  | colon
  | comma
  | literal (content : Literal)

/-- Where the reader is between two characters. What is being read is kept backwards. -/
inductive Position where
  | between
  /-- Inside a number or one of the three names. -/
  | word (read : List Char)
  /-- Inside a string. -/
  | inside (read : List Char)
  /-- Inside a string, after a backslash. -/
  | escape (read : List Char)

/-- The literal that a number or a name is. -/
def word? (text : List Char) : Option Literal :=
  if text = "null".toList then some (.name .null)
  else if text = "true".toList then some (.name (.boolean true))
  else if text = "false".toList then some (.name (.boolean false))
  else (numeral? text).map .number

/-- What a character means where no string or word is open. -/
def startToken (tokens : List Token) (character : Char) : Option (Position × List Token) :=
  if character = ' ' ∨ character = '\n' ∨ character = '\t' ∨ character = '\r' then
    some (.between, tokens)
  else if character = '"' then some (.inside [], tokens)
  else if character = '\x7b' then some (.between, .openObject :: tokens)
  else if character = '\x7d' then some (.between, .closeObject :: tokens)
  else if character = '[' then some (.between, .openArray :: tokens)
  else if character = ']' then some (.between, .closeArray :: tokens)
  else if character = ':' then some (.between, .colon :: tokens)
  else if character = ',' then some (.between, .comma :: tokens)
  else if character.isAlphanum ∨ character = '-' then some (.word [character], tokens)
  else none

/-- Reads one more character; the tokens are kept backwards. -/
def scanStep : Position × List Token → Char → Option (Position × List Token)
  | (.between, tokens), character => startToken tokens character
  | (.word read, tokens), character =>
      if character.isAlphanum ∨ character = '-' ∨ character = '+' ∨ character = '.' then
        some (.word (character :: read), tokens)
      else
        match word? read.reverse with
        | none => none
        | some content => startToken (.literal content :: tokens) character
  | (.inside read, tokens), character =>
      if character = '"' then
        (pieces? read.reverse).map fun pieces => (.between, .literal (.string pieces) :: tokens)
      else if character = '\\' then some (.escape (character :: read), tokens)
      else some (.inside (character :: read), tokens)
  | (.escape read, tokens), character => some (.inside (character :: read), tokens)

/-- The tokens of a text. -/
def tokens? (text : String) : Option (List Token) :=
  match text.toList.foldlM scanStep (.between, []) with
  | some (.between, tokens) => some tokens.reverse
  | some (.word read, tokens) =>
      (word? read.reverse).map fun content => (.literal content :: tokens).reverse
  | _ => none

/-- An array or object that has not been closed. Its parts are kept backwards; an object also
knows the key whose value is being read. -/
inductive Container where
  | array (items : List Tree)
  | object (members : List (List Piece × Tree)) (key : List Piece)

/-- What may come next. -/
inductive Expected where
  | value
  | valueOrClose
  | keyOrClose
  | key
  | colon
  | separator
  | nothing (result : Tree)

/-- The containers that are open, the innermost first, and what may come next. -/
structure Structure where
  opened : List Container
  expected : Expected

/-- A tree is complete: it becomes part of the innermost container or is the whole result. -/
def complete (tree : Tree) : List Container → Structure
  | [] => ⟨[], .nothing tree⟩
  | .array items :: outer => ⟨.array (tree :: items) :: outer, .separator⟩
  | .object members key :: outer => ⟨.object ((key, tree) :: members) key :: outer, .separator⟩

/-- Opens a container, unless as many as allowed are open. -/
def openContainer (depth : Option Nat) (container : Container) (expected : Expected)
    (opened : List Container) : Option Structure :=
  if depth.any (· ≤ opened.length) then none else some ⟨container :: opened, expected⟩

/-- A value starts. -/
def startValue (depth : Option Nat) (opened : List Container) : Token → Option Structure
  | .openObject => openContainer depth (.object [] []) .keyOrClose opened
  | .openArray => openContainer depth (.array []) .valueOrClose opened
  | .literal content => some (complete (.literal content) opened)
  | _ => none

/-- Replaces the key of the innermost object. -/
def setKey (key : List Piece) : List Container → Option Structure
  | .object members _ :: outer => some ⟨.object members key :: outer, .colon⟩
  | _ => none

/-- Closes the innermost container. -/
def close : Token → List Container → Option Structure
  | .closeArray, .array items :: outer => some (complete (.array items.reverse) outer)
  | .closeObject, .object members _ :: outer => some (complete (.object members.reverse) outer)
  | _, _ => none

/-- Reads one more token. -/
def buildStep (depth : Option Nat) (built : Structure) (token : Token) : Option Structure :=
  let opened := built.opened
  match built.expected, token with
  | .value, token => startValue depth opened token
  | .valueOrClose, .closeArray => close .closeArray opened
  | .valueOrClose, token => startValue depth opened token
  | .keyOrClose, .closeObject => close .closeObject opened
  | .keyOrClose, .literal (.string key) => setKey key opened
  | .key, .literal (.string key) => setKey key opened
  | .colon, .colon => some ⟨opened, .value⟩
  | .separator, .comma =>
      match opened with
      | .array _ :: _ => some ⟨opened, .value⟩
      | .object _ _ :: _ => some ⟨opened, .key⟩
      | [] => none
  | .separator, token => close token opened
  | _, _ => none

/-- The tree that a list of tokens makes up, with at most `depth` containers inside each other. -/
def build? (depth : Option Nat) (tokens : List Token) : Option Tree :=
  match tokens.foldlM (buildStep depth) ⟨[], .value⟩ with
  | some ⟨[], .nothing tree⟩ => some tree
  | _ => none

/-- The tree of a text, however deep it is. -/
def tree? (text : String) : Option Tree :=
  tokens? text >>= build? none

/-- The number of containers that may stand inside each other in a document. -/
def maximalDepth : Nat := 127

/-- The value of a document: its containers stand at most `maximalDepth` deep, and of members with
the same name the last one counts. -/
def document? (text : String) : Option Json := do
  let tokens ← tokens? text
  let tree ← build? (some maximalDepth) tokens
  let value ← tree.value?
  return value.normalized

end RoomCall.Json
