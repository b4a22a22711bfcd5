import RoomCall.Json.Shape

/-!
# Kinds of descriptions and media

A description of a session is offered by one side and answered by the other. It has sections for
audio and for video.
-/

namespace RoomCall

/-- Which side of an exchange a description belongs to. -/
inductive DescriptionKind where
  | offer
  | answer
  deriving DecidableEq, Inhabited, Repr

namespace DescriptionKind

def name : DescriptionKind → String
  | .offer => "offer"
  | .answer => "answer"

def ofJson? : Json → Option DescriptionKind :=
  Json.choice? [("offer", .offer), ("answer", .answer)]

def toJson (kind : DescriptionKind) : Json := .string kind.name

end DescriptionKind

/-- What a stream carries. -/
inductive Medium where
  | audio
  | video
  deriving DecidableEq, Inhabited, Repr

namespace Medium

def name : Medium → String
  | .audio => "audio"
  | .video => "video"

def ofJson? : Json → Option Medium :=
  Json.choice? [("audio", .audio), ("video", .video)]

def toJson (medium : Medium) : Json := .string medium.name

end Medium

end RoomCall
