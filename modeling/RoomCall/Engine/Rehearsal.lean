import RoomCall.Engine.Scripted

/-!
# The rehearsal engine

A rehearsal engine tries out what happens when an engine is slow or refuses. It is scripted or
silent: a silent engine accepts everything, keeps the switches of the microphone and the camera,
and never calls back by itself. On top of that, single requests can be set to be refused.
-/

namespace RoomCall.Engine

/-- The requests that are refused, each with its fault. -/
structure Refusals where
  build : Option Fault := none
  applyRemote : Option Fault := none
  mute : Option Fault := none
  camera : Option Fault := none
  deriving DecidableEq, Inhabited, Repr

/-- The fault for a request, if it is to be refused. -/
def Refusals.fault? (refusals : Refusals) : Request → Option Fault
  | .build _ => refusals.build
  | .applyRemote _ _ => refusals.applyRemote
  | .setMuted _ => refusals.mute
  | .toggleCamera => refusals.camera
  | _ => none

/-- An engine that never calls back. -/
structure Silent where
  muted : Bool := false
  cameraOn : Bool := false
  deriving DecidableEq, Inhabited, Repr

/-- What a silent engine does with a request. -/
def Silent.respond (engine : Silent) : Request → Response Silent
  | .setMuted muted => { engine := { engine with muted := muted } }
  | .toggleCamera => { engine := { engine with cameraOn := !engine.cameraOn } }
  | _ => { engine := engine }

/-- The engine behind a rehearsal. -/
inductive Player where
  | scripted (engine : Scripted)
  | silent (engine : Silent)
  deriving DecidableEq, Inhabited, Repr

/-- An engine with requests that it refuses. -/
structure Rehearsal where
  player : Player := .scripted {}
  refusals : Refusals := {}
  deriving DecidableEq, Inhabited, Repr

namespace Rehearsal

/-- What a rehearsal engine does with a request: a request to be refused has no other effect. -/
def respond (engine : Rehearsal) (request : Request) : Response Rehearsal :=
  match engine.refusals.fault? request with
  | some fault => { engine := engine, fault := some fault }
  | none =>
      match engine.player with
      | .scripted player =>
          let response := player.respond request
          { engine := { engine with player := .scripted response.engine }
            fault := response.fault
            callbacks := response.callbacks }
      | .silent player =>
          let response := player.respond request
          { engine := { engine with player := .silent response.engine }
            fault := response.fault
            callbacks := response.callbacks }

/-- Whether the microphone is muted. -/
def isMuted (engine : Rehearsal) : Bool :=
  match engine.player with
  | .scripted player => player.muted
  | .silent player => player.muted

/-- Whether the camera is on. -/
def hasCameraOn (engine : Rehearsal) : Bool :=
  match engine.player with
  | .scripted player => player.cameraOn
  | .silent player => player.cameraOn

instance : MediaEngine Rehearsal where
  respond := respond
  isMuted := isMuted
  hasCameraOn := hasCameraOn

end Rehearsal

end RoomCall.Engine
