import RoomCall.Json.Shape

/-!
# Progress of a negotiation

A negotiation moves from nothing through a running pipeline and a local description that was sent
to a connection. It can fail at any time, and it can be taken down at any time.
-/

namespace RoomCall

/-- How far a negotiation has come. -/
inductive Progress where
  /-- There is no pipeline. -/
  | disconnected
  /-- The devices found no way to reach each other. -/
  | iceFailed
  /-- The pipeline is being built. -/
  | initiating
  /-- The pipeline is running. -/
  | initiated
  /-- The local offer has been produced. -/
  | offerSent
  /-- The local answer has been produced. -/
  | answerSent
  /-- Network paths are being tried. -/
  | connecting
  /-- A network path works. -/
  | connected
  deriving DecidableEq, Inhabited, Repr

namespace Progress

/-- Every stage, in order. -/
def all : List Progress :=
  [.disconnected, .iceFailed, .initiating, .initiated, .offerSent, .answerSent, .connecting,
    .connected]

/-- The place of a stage in the order of the stages. -/
def rank : Progress → Nat
  | .disconnected => 0
  | .iceFailed => 1
  | .initiating => 2
  | .initiated => 3
  | .offerSent => 4
  | .answerSent => 5
  | .connecting => 6
  | .connected => 7

def name : Progress → String
  | .disconnected => "Disconnected"
  | .iceFailed => "IceFailed"
  | .initiating => "Initiating"
  | .initiated => "Initiated"
  | .offerSent => "OfferSent"
  | .answerSent => "AnswerSent"
  | .connecting => "Connecting"
  | .connected => "Connected"

/-- Whether a negotiation may go from one stage to another: a step of the setup, a failure or a
teardown, and never to the stage it is at. -/
def canBecome : Progress → Progress → Bool
  | .disconnected, .initiating => true
  | .initiating, .initiated => true
  | .initiated, .offerSent => true
  | .initiated, .answerSent => true
  | .offerSent, .connecting => true
  | .answerSent, .connecting => true
  | .connecting, .connected => true
  | stage, .iceFailed => stage ≠ .iceFailed
  | stage, .disconnected => stage ≠ .disconnected
  | _, _ => false

/-- Whether a local description has gone out. -/
def isNegotiated : Progress → Bool
  | .offerSent | .answerSent | .connecting | .connected => true
  | _ => false

def ofJson? : Json → Option Progress :=
  Json.choice? (all.map fun stage => (stage.name, stage))

def toJson (stage : Progress) : Json := .string stage.name

end Progress

end RoomCall
