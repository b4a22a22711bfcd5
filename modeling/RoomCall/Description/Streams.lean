import RoomCall.Supply
import RoomCall.Text.Blank
import RoomCall.Text.Mark

/-!
# Hiding the stream ids of a description

A media engine names its streams and tracks after the machine it runs on. Before a description
leaves the device every such name is replaced by a fresh one, the same for the same name, and the
table of replacements leads back. A description is first cut into segments: the pairs of a stream
and a track that `msid:` announces, and the characters around them. Replacing names maps segments
to segments, so nothing outside the pairs can change.
-/

namespace RoomCall.Description

/-- A part of a description: a pair of a stream and a track, or a character outside every pair. -/
inductive Segment where
  | character (value : Char)
  | pair (stream track : String)
  deriving DecidableEq, Repr

/-- Whether a character may be part of a stream or track name. -/
def isNameCharacter (character : Char) : Bool :=
  !Text.isBlank character

/-- The mark in front of a pair. -/
def pairMark : List Char := "msid:".toList

/-- The stream and track of the pair that starts a text, and what follows it. Between the two
names stands exactly one space. -/
def pairAt? (text : List Char) : Option (String × String × List Char) :=
  match Text.after? pairMark text with
  | none => none
  | some names =>
      match names.dropWhile isNameCharacter with
      | ' ' :: rest =>
          let stream := names.takeWhile isNameCharacter
          let track := rest.takeWhile isNameCharacter
          if stream.isEmpty || track.isEmpty then
            none
          else
            some (String.ofList stream, String.ofList track, rest.dropWhile isNameCharacter)
      | _ => none

/-- A pair takes up at least one character. -/
theorem length_lt_of_pairAt? {text rest : List Char} {stream track : String}
    (found : pairAt? text = some (stream, track, rest)) : rest.length < text.length := by
  unfold pairAt? at found
  split at found
  · simp at found
  · rename_i names marked
    split at found
    · rename_i after dropped
      dsimp only at found
      split at found
      · simp at found
      · simp only [Option.some.injEq, Prod.mk.injEq] at found
        have whole := Text.after?_eq_some_iff.mp marked
        have namesLength := (List.dropWhile_sublist isNameCharacter (l := names)).length_le
        have restLength := (List.dropWhile_sublist isNameCharacter (l := after)).length_le
        rw [dropped] at namesLength
        rw [whole, ← found.2.2, List.length_append]
        simp only [List.length_cons] at namesLength
        omega
    · simp at found

/-- The segments of a text, read from the left. -/
def segments (text : List Char) : List Segment :=
  match text with
  | [] => []
  | character :: later =>
      match _found : pairAt? (character :: later) with
      | some (stream, track, rest) => .pair stream track :: segments rest
      | none => .character character :: segments later
termination_by text.length
decreasing_by
  · exact length_lt_of_pairAt? _found
  · simp

namespace Segment

/-- The characters of a segment. -/
def characters : Segment → List Char
  | .character value => [value]
  | .pair stream track => pairMark ++ stream.toList ++ [' '] ++ track.toList

/-- The text that a list of segments makes up. -/
def join (parts : List Segment) : String :=
  String.ofList (parts.flatMap characters)

end Segment

/-- The replacements made so far: each name with its replacement, in the order of their first
appearance, and the replacements of the names that first appeared as a stream. -/
structure Masking where
  table : List (String × String) := []
  streams : List String := []
  supply : Supply

namespace Masking

/-- The replacement of a name, whether it is new, and the masking that knows it. -/
def replace (masking : Masking) (name : String) : String × Bool × Masking :=
  match masking.table.find? fun entry => entry.1 = name with
  | some (_, replacement) => (replacement, false, masking)
  | none =>
      let (fresh, supply) := masking.supply.draw
      (fresh, true, { masking with table := masking.table ++ [(name, fresh)], supply := supply })

/-- The replacement of a name that stands for a stream. -/
def replaceStream (masking : Masking) (name : String) : String × Masking :=
  let (replacement, isNew, masking) := masking.replace name
  (replacement,
    if isNew then { masking with streams := masking.streams ++ [replacement] } else masking)

/-- The replacement of a name that stands for a track. -/
def replaceTrack (masking : Masking) (name : String) : String × Masking :=
  let (replacement, _, masking) := masking.replace name
  (replacement, masking)

/-- Replaces the names in a list of segments, from the left. -/
def replaceAll (masking : Masking) : List Segment → List Segment × Masking
  | [] => ([], masking)
  | .character value :: later =>
      let (replaced, final) := masking.replaceAll later
      (.character value :: replaced, final)
  | .pair stream track :: later =>
      let (newStream, afterStream) := masking.replaceStream stream
      let (newTrack, afterTrack) := afterStream.replaceTrack track
      let (replaced, final) := afterTrack.replaceAll later
      (.pair newStream newTrack :: replaced, final)

end Masking

/-- A description whose stream and track names are replaced. -/
structure Masked where
  description : String
  /-- The fresh names of streams, in the order of their first appearance. -/
  streams : List String
  /-- Each name with its replacement. -/
  table : List (String × String)
  deriving DecidableEq, Repr

/-- Replaces every stream and track name of a description by a fresh one. -/
def mask (supply : Supply) (description : String) : Masked × Supply :=
  let start : Masking := { supply := supply }
  let (replaced, masking) := start.replaceAll (segments description.toList)
  (⟨Segment.join replaced, masking.streams, masking.table⟩, masking.supply)

namespace Masked

/-- The name that a replacement stands for; any other name stands for itself. Of two equal
replacements the later one counts. -/
def unmaskName (masked : Masked) (name : String) : String :=
  match masked.table.reverse.find? fun entry => entry.2 = name with
  | some (engineName, _) => engineName
  | none => name

/-- A segment with its replacements undone. -/
def unmaskSegment (masked : Masked) : Segment → Segment
  | .character value => .character value
  | .pair stream track => .pair (masked.unmaskName stream) (masked.unmaskName track)

/-- A description with the replacements of this table undone. -/
def unmask (masked : Masked) (description : String) : String :=
  Segment.join ((segments description.toList).map masked.unmaskSegment)

end Masked

end RoomCall.Description
