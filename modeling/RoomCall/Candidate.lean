import RoomCall.Text.Blank
import RoomCall.Json.Shape

/-!
# Candidates

A candidate offers one network path for the media of a call. A candidate whose line is blank
offers none: it says that no more will come.
-/

namespace RoomCall

/-- A network path offered for one section of a description. -/
structure Candidate where
  line : String
  sectionIndex : Nat
  sectionName : String
  deriving DecidableEq, Inhabited, Repr

namespace Candidate

/-- Whether this is the mark that no more candidates will come. -/
def isEndMark (candidate : Candidate) : Bool :=
  Text.allBlank candidate.line

def ofJson? (value : Json) : Option Candidate := do
  let fields ← Json.fields? ["candidate", "sdpMLineIndex", "sdpMid"] value
  let line ← fields.required "candidate" Json.text?
  let sectionIndex ← fields.required "sdpMLineIndex" Json.word32?
  let sectionName ← fields.required "sdpMid" Json.text?
  return ⟨line, sectionIndex, sectionName⟩

def toJson (candidate : Candidate) : Json :=
  Json.ofMembers
    [("candidate", .string candidate.line), ("sdpMLineIndex", .ofNat candidate.sectionIndex),
      ("sdpMid", .string candidate.sectionName)]

end Candidate

end RoomCall
