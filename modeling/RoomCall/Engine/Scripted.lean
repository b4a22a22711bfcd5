import RoomCall.Engine.Basic
import RoomCall.Text.Blank

/-!
# The scripted engine

A scripted engine completes every step at once and always in the same way. It follows a script
that holds its two descriptions, its candidates and whether a connection comes about.
-/

namespace RoomCall.Engine

/-- The description that a scripted engine uses unless told otherwise. -/
def cannedDescription : String :=
  "v=0\r\no=- 1 0 IN IP4 0.0.0.0\r\ns=-\r\nt=0 0\r\nm=audio 9 UDP/TLS/RTP/SAVPF 111\r\n" ++
  "a=mid:0\r\na=rtpmap:111 OPUS/48000/2\r\na=msid:user1@host-1a2b webrtctransceiver0\r\n" ++
  "a=ssrc:1001 msid:user1@host-1a2b webrtctransceiver0\r\na=sendrecv\r\n"

/-- The candidate that a scripted engine finds unless told otherwise. -/
def cannedCandidate : Candidate :=
  ⟨"candidate:1 1 UDP 2122260223 192.0.2.10 50000 typ host", 0, "0"⟩

/-- What a scripted engine says. -/
structure Script where
  offer : String := cannedDescription
  answer : String := cannedDescription
  /-- The candidates that follow each description. -/
  candidates : List Candidate := [cannedCandidate]
  /-- Whether a remote description leads to a connection. -/
  connects : Bool := true
  deriving DecidableEq, Inhabited, Repr

/-- An engine that follows a script. -/
structure Scripted where
  script : Script := {}
  running : Bool := false
  muted : Bool := false
  cameraOn : Bool := false
  /-- The candidates of the other side, in order. -/
  remoteCandidates : List Candidate := []
  deriving DecidableEq, Inhabited, Repr

namespace Scripted

/-- The callbacks for a local description: the description, every candidate, and the end of the
search. -/
def describe (engine : Scripted) (description : String) (kind : DescriptionKind) :
    List Callback :=
  if engine.running then
    .localDescription description kind ::
      engine.script.candidates.map Callback.localCandidate ++ [.gatheringComplete]
  else
    []

/-- The response to a remote description. -/
def applyRemote (engine : Scripted) (description : String) : Response Scripted :=
  if !engine.running then
    { engine := engine, fault := some .notRunning }
  else if Text.allBlank description then
    { engine := engine, fault := some (.invalidDescription "empty sdp") }
  else if engine.script.connects then
    { engine := engine, callbacks := [.iceChanged .checking, .iceChanged .connected] }
  else
    { engine := engine }

/-- What a scripted engine does with a request. -/
def respond (engine : Scripted) : Request → Response Scripted
  | .build pipeline =>
      { engine := { engine with running := true, cameraOn := pipeline.camera.isSome }
        callbacks := [.negotiationNeeded] }
  | .offer => { engine := engine, callbacks := engine.describe engine.script.offer .offer }
  | .answer => { engine := engine, callbacks := engine.describe engine.script.answer .answer }
  | .applyRemote _ description => engine.applyRemote description
  | .addCandidates candidates =>
      { engine := { engine with remoteCandidates := engine.remoteCandidates ++ candidates } }
  | .finish => { engine := { engine with running := false } }
  | .setMuted muted =>
      if engine.running then { engine := { engine with muted := muted } }
      else { engine := engine, fault := some .notRunning }
  | .toggleCamera =>
      if engine.running then { engine := { engine with cameraOn := !engine.cameraOn } }
      else { engine := engine, fault := some .notRunning }

instance : MediaEngine Scripted where
  respond := respond
  isMuted := Scripted.muted
  hasCameraOn := Scripted.cameraOn

end Scripted

end RoomCall.Engine
