/-!
# Marks in a text

A mark is a short text that says how to read what stands around it. Here it is looked for at the
start of a text, anywhere inside it, or, when it is one character, as a separator.
-/

namespace RoomCall.Text

/-- What follows a mark at the start of a text. -/
def after? : List Char → List Char → Option (List Char)
  | [], text => some text
  | _ :: _, [] => none
  | expected :: mark, character :: text =>
      if expected = character then after? mark text else none

/-- A mark is found exactly where the text is the mark and what follows it. -/
theorem after?_eq_some_iff {mark text rest : List Char} :
    after? mark text = some rest ↔ text = mark ++ rest := by
  induction mark generalizing text with
  | nil => simp [after?]
  | cons expected mark ih =>
      cases text with
      | nil => simp [after?]
      | cons character text =>
          by_cases same : expected = character
          · subst same
            simp [after?, ih]
          · simp [after?, same, Ne.symm same]

/-- Whether one text occurs inside another. -/
def occursIn (part : List Char) : List Char → Bool
  | [] => part.isEmpty
  | character :: rest => part.isPrefixOf (character :: rest) || occursIn part rest

/-- The text before and after the first place where a separator stands. -/
def splitFirst? (separator : Char) : List Char → Option (List Char × List Char)
  | [] => none
  | character :: rest =>
      if character = separator then
        some ([], rest)
      else
        (splitFirst? separator rest).map fun (before, after) => (character :: before, after)

end RoomCall.Text
