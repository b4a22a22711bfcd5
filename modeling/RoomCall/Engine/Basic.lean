import RoomCall.Candidate
import RoomCall.Description.Kind

/-!
# Media engines

An engine captures, sends and receives the media of one call. It is asked to do something through
a request and says at once whether it refuses; what takes time it reports later through callbacks.
Engines differ in what they do, so an engine is any type with a response to every request. Nothing
is assumed about the responses: a statement about all engines also covers those that refuse
everything or call back at random.
-/

namespace RoomCall.Engine

/-- Why an engine refuses a request. -/
inductive Fault where
  | deviceNotFound (device : String)
  | pipelineError (message : String)
  | invalidDescription (message : String)
  | notRunning
  deriving DecidableEq, Inhabited, Repr

def Fault.name : Fault → String
  | .deviceNotFound _ => "DeviceNotFound"
  | .pipelineError _ => "PipelineError"
  | .invalidDescription _ => "InvalidDescription"
  | .notRunning => "NotRunning"

def Fault.message : Fault → String
  | .deviceNotFound device => "Device not found: " ++ device
  | .pipelineError message => "Pipeline error: " ++ message
  | .invalidDescription message => "Invalid remote description: " ++ message
  | .notRunning => "Pipeline not running"

/-- What a pipeline is built from. -/
structure Pipeline where
  /-- Relay URIs with their credentials. -/
  relays : List String := []
  microphone : Option String := none
  /-- The camera to capture from; without one the call has no video from this side. -/
  camera : Option String := none
  deriving DecidableEq, Inhabited, Repr

/-- What an engine can be asked to do. -/
inductive Request where
  | build (pipeline : Pipeline)
  | offer
  | answer
  | applyRemote (kind : DescriptionKind) (description : String)
  | addCandidates (candidates : List Candidate)
  | finish
  | setMuted (muted : Bool)
  | toggleCamera
  deriving DecidableEq, Inhabited, Repr

/-- How far the search for a network path has come. -/
inductive IceState where
  | new
  | checking
  | connected
  | completed
  | failed
  | disconnected
  | closed
  deriving DecidableEq, Inhabited, Repr

def IceState.names : List (String × IceState) :=
  [("New", .new), ("Checking", .checking), ("Connected", .connected), ("Completed", .completed),
    ("Failed", .failed), ("Disconnected", .disconnected), ("Closed", .closed)]

def IceState.name : IceState → String
  | .new => "New"
  | .checking => "Checking"
  | .connected => "Connected"
  | .completed => "Completed"
  | .failed => "Failed"
  | .disconnected => "Disconnected"
  | .closed => "Closed"

/-- What an engine reports. -/
inductive Callback where
  /-- The engine wants the descriptions to be exchanged, for the first time or again. -/
  | negotiationNeeded
  /-- A local description is ready. -/
  | localDescription (description : String) (kind : DescriptionKind)
  /-- A local candidate was found. -/
  | localCandidate (candidate : Candidate)
  /-- No more local candidates will be found. -/
  | gatheringComplete
  /-- The search for a network path moved on. -/
  | iceChanged (state : IceState)
  /-- A stream of the other side has started. -/
  | remoteStream (stream : Option String) (medium : Medium)
  /-- The pipeline failed. -/
  | pipelineFailed (message : String)
  /-- The pipeline ran out of data. -/
  | endOfStream
  deriving DecidableEq, Inhabited, Repr

namespace Callback

def ofJson? (value : Json) : Option Callback :=
  match Json.case? value with
  | some ("NegotiationNeeded", content) =>
      (Json.noContent? content).map fun _ => .negotiationNeeded
  | some ("LocalDescriptionReady", some content) => do
      let fields ← Json.namedFields? content
      let description ← fields.required "sdp" Json.text?
      let kind ← fields.required "kind" DescriptionKind.ofJson?
      return .localDescription description kind
  | some ("LocalCandidateGathered", some content) =>
      (Candidate.ofJson? content).map .localCandidate
  | some ("IceGatheringComplete", content) =>
      (Json.noContent? content).map fun _ => .gatheringComplete
  | some ("IceConnectionStateChanged", some content) =>
      (Json.choice? IceState.names content).map .iceChanged
  | some ("RemoteStreamAdded", some content) => do
      let fields ← Json.namedFields? content
      let stream ← fields.optional "msid" Json.text?
      let medium ← fields.required "kind" Medium.ofJson?
      return .remoteStream stream medium
  | some ("PipelineError", some content) => (Json.text? content).map .pipelineFailed
  | some ("EndOfStream", content) => (Json.noContent? content).map fun _ => .endOfStream
  | _ => none

def toJson : Callback → Json
  | .negotiationNeeded => .string "NegotiationNeeded"
  | .localDescription description kind =>
      .object [("LocalDescriptionReady", Json.ofMembers
        [("sdp", .string description), ("kind", kind.toJson)])]
  | .localCandidate candidate => .object [("LocalCandidateGathered", candidate.toJson)]
  | .gatheringComplete => .string "IceGatheringComplete"
  | .iceChanged state => .object [("IceConnectionStateChanged", .string state.name)]
  | .remoteStream stream medium =>
      .object [("RemoteStreamAdded", Json.ofMembers
        [("msid", Json.ofText? stream), ("kind", medium.toJson)])]
  | .pipelineFailed message => .object [("PipelineError", .string message)]
  | .endOfStream => .string "EndOfStream"

end Callback

/-- What an engine does with a request: its next state, a fault if it refuses, and the callbacks
that it posts. -/
structure Response (ε : Type) where
  engine : ε
  fault : Option Fault := none
  callbacks : List Callback := []

end RoomCall.Engine

namespace RoomCall

/-- A type whose values are media engines. -/
class MediaEngine (ε : Type) where
  /-- What an engine does with a request. -/
  respond : ε → Engine.Request → Engine.Response ε
  /-- Whether the microphone is muted. -/
  isMuted : ε → Bool
  /-- Whether the camera is on. -/
  hasCameraOn : ε → Bool

/-- Numbers the negotiations of a phone, each of which has an engine of its own. -/
abbrev SessionId := Nat

/-- Where a phone gets its engines from, and what it lacks for calls. -/
structure EngineMaker (ε : Type) where
  /-- The engine for a negotiation, before its first request. -/
  make : SessionId → ε
  /-- The capabilities that are missing. -/
  missing : List String := []

end RoomCall
