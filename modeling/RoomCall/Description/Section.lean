import RoomCall.Description.Kind
import RoomCall.Text.Blank
import RoomCall.Text.Decimal
import RoomCall.Text.Mark

/-!
# The media sections of a description

A session description is a list of lines. A line that starts with `m=` opens a section, and the
attribute lines after it, up to the next such line, belong to that section. Attributes in front of
the first section describe the session as a whole and are passed over. Of all that a section can
say, only what a call has to know about the other side is kept.
-/

namespace RoomCall.Description

/-- One media section of a description. -/
structure Section where
  /-- The first word of the line that opens the section. -/
  medium : String
  /-- The codec mappings, in order. -/
  codecs : List String := []
  /-- The stream that the first stream attribute names. -/
  stream : Option String := none
  /-- The synchronization sources, each once. -/
  sources : List Nat := []
  receiveOnly : Bool := false
  sendOnly : Bool := false
  /-- Whether the section carries candidates itself. -/
  hasCandidates : Bool := false
  deriving DecidableEq, Inhabited, Repr

/-- An attribute line, as far as it matters. -/
inductive Attribute where
  | codec (mapping : String)
  | stream (name : String)
  | source (number : Nat)
  | receiveOnly
  | sendOnly
  | candidate
  deriving DecidableEq, Repr

/-- What follows a mark at the start of a line. -/
def after? (mark : String) (line : List Char) : Option (List Char) :=
  Text.after? mark.toList line

/-- The first word of a text as a 32-bit number. -/
def firstNumber? (text : List Char) : Option Nat :=
  Text.firstWord? text >>= Text.decimalBelow? UInt32.size

/-- The attribute whose text, without the mark of an attribute line, is given. -/
def Attribute.ofText? (text : List Char) : Option Attribute :=
  match after? "rtpmap:" text with
  | some rest => some (.codec (String.ofList rest))
  | none =>
      match after? "msid:" text with
      | some rest => (Text.firstWord? rest).map fun name => .stream (String.ofList name)
      | none =>
          match after? "ssrc:" text with
          | some rest => (firstNumber? rest).map .source
          | none =>
              if (after? "candidate:" text).isSome then some .candidate
              else if text = "recvonly".toList then some .receiveOnly
              else if text = "sendonly".toList then some .sendOnly
              else none

/-- The attribute of a line. -/
def Attribute.ofLine? (line : List Char) : Option Attribute :=
  after? "a=" line >>= Attribute.ofText?

namespace Section

/-- The section with one more attribute. Only the first stream counts, and a source counts
once. -/
def add (current : Section) : Attribute → Section
  | .codec mapping => { current with codecs := current.codecs ++ [mapping] }
  | .stream name => { current with stream := current.stream <|> some name }
  | .source number =>
      if current.sources.contains number then current
      else { current with sources := current.sources ++ [number] }
  | .receiveOnly => { current with receiveOnly := true }
  | .sendOnly => { current with sendOnly := true }
  | .candidate => { current with hasCandidates := true }

/-- The section with the attribute of one more line, if the line has one. -/
def addLine (current : Section) (line : List Char) : Section :=
  match Attribute.ofLine? line with
  | some given => current.add given
  | none => current

/-- The section that a line opens. -/
def opened? (line : List Char) : Option Section :=
  (after? "m=" line).map fun rest =>
    { medium := String.ofList ((Text.firstWord? rest).getD []) }

/-- The medium of a section, if it is one that a call handles. -/
def kind? (current : Section) : Option Medium :=
  if current.medium = "audio" then some .audio
  else if current.medium = "video" then some .video
  else none

/-- Whether a codec mapping mentions an encoding, in any case. -/
def mentions (encoding mapping : String) : Bool :=
  Text.occursIn (encoding.toList.map Char.toLower) (mapping.toList.map Char.toLower)

/-- The payload type of an encoding: the number at the start of the first mapping that mentions
it. -/
def payloadType? (current : Section) (encoding : String) : Option Nat :=
  current.codecs.find? (mentions encoding) >>= fun mapping => firstNumber? mapping.toList

end Section

/-- The sections of a list of lines, of which the first continue a section that may be open. -/
def sectionsFrom (current : Option Section) : List (List Char) → List Section
  | [] => current.toList
  | line :: later =>
      match Section.opened? line with
      | some opened => current.toList ++ sectionsFrom (some opened) later
      | none => sectionsFrom (current.map fun current => current.addLine line) later

/-- The media sections of a description. -/
def sections (description : String) : List Section :=
  sectionsFrom none (Text.lines description)

/-- The audio codec that both sides of a call have to support. -/
def requiredCodec : String := "opus"

/-- Whether the first audio section of a description has a payload type for the required codec. -/
def hasCompatibleAudio (description : String) : Bool :=
  match (sections description).find? fun candidate => candidate.kind? = some .audio with
  | some audio => (audio.payloadType? requiredCodec).isSome
  | none => false

/-- Whether a section of a description carries candidates itself. -/
def hasInlineCandidates (description : String) : Bool :=
  (sections description).any Section.hasCandidates

end RoomCall.Description
