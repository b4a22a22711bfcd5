import RoomCall.Proofs.Negotiation.Usage

/-!
# Everything that can happen to a negotiation

A negotiation knows nothing of the phone that owns it, so its operations may come in any order and
with any arguments: it may be asked for an answer that nobody waits for, be started again after it
was taken down, or hear from an engine that has gone wild. `perform` gathers the operations under
one type, and `after` and `outcomes` follow a negotiation through a list of them.
-/

namespace RoomCall.Negotiation

/-- What can be asked of a negotiation, and what its engine can tell it. -/
inductive Operation where
  | start (pipeline : Engine.Pipeline)
  | acceptOffer (pipeline : Engine.Pipeline) (offer : String) (candidates : List Candidate)
      (user : UserId)
  | acceptAnswer (answer : String) (candidates : List Candidate) (user : UserId)
  | renegotiate (description : String) (user : UserId) (isAnswer : Bool)
  | acceptCandidates (candidates : List Candidate)
  | finish
  | setMuted (muted : Bool)
  | toggleCamera
  | handle (callback : Engine.Callback)
  deriving DecidableEq, Repr

/-- What an operation gives back. -/
structure Outcome where
  notices : List Notice := []
  refusal : Option NegotiationError := none
  /-- Whether the camera is on, if it was switched. -/
  cameraOn : Option Bool := none
  deriving DecidableEq, Repr

/-- The outcome of an operation that is not refused and tells something. -/
def Outcome.telling (notices : List Notice) : Outcome := { notices := notices }

/-- The outcome of an operation that may be refused. -/
def Outcome.of {α : Type} (given : α → Outcome) : Except NegotiationError α → Outcome
  | .ok value => given value
  | .error error => { refusal := some error }

theorem Outcome.notices_of_quiet {α : Type} {given : α → Outcome}
    (quiet : ∀ value, (given value).notices = []) (reply : Except NegotiationError α) :
    (Outcome.of given reply).notices = [] := by
  cases reply with
  | ok value => exact quiet value
  | error => rfl

variable {ε : Type} [MediaEngine ε]

/-- What an operation makes of a negotiation, and what it gives back. -/
def perform (negotiation : Negotiation ε) :
    Operation → (move : Mover ε := moveTo) → Negotiation ε × Outcome
  | .start pipeline, move =>
      let (next, reply) := negotiation.start pipeline move
      (next, .of .telling reply)
  | .acceptOffer pipeline offer candidates user, move =>
      let (next, reply) := negotiation.acceptOffer pipeline offer candidates user move
      (next, .of .telling reply)
  | .acceptAnswer answer candidates user, _ =>
      let (next, reply) := negotiation.acceptAnswer answer candidates user
      (next, .of (fun _ => {}) reply)
  | .renegotiate description user isAnswer, _ =>
      let (next, reply) := negotiation.renegotiate description user isAnswer
      (next, .of (fun _ => {}) reply)
  | .acceptCandidates candidates, _ => (negotiation.acceptCandidates candidates, {})
  | .finish, move =>
      let (next, notices) := negotiation.finish move
      (next, .telling notices)
  | .setMuted muted, _ =>
      let (next, reply) := negotiation.setMuted muted
      (next, .of (fun _ => {}) reply)
  | .toggleCamera, _ =>
      let (next, reply) := negotiation.toggleCamera
      (next, .of (fun isOn => { cameraOn := some isOn }) reply)
  | .handle callback, move =>
      let (next, notices) := negotiation.handle callback move
      (next, .telling notices)

/-- A negotiation to which nothing has happened yet. -/
def fresh (id : SessionId) (engine : ε) : Negotiation ε :=
  { id := id, engine := engine }

/-- The negotiation after some operations. -/
def after (negotiation : Negotiation ε) (operations : List Operation) : Negotiation ε :=
  operations.foldl (fun current operation => (current.perform operation).1) negotiation

/-- What some operations give back, one after the other. -/
def outcomes (negotiation : Negotiation ε) : List Operation → List Outcome
  | [] => []
  | operation :: later =>
      (negotiation.perform operation).2 :: (negotiation.perform operation).1.outcomes later

/-- All notices that some operations give. -/
def notices (negotiation : Negotiation ε) (operations : List Operation) : List Notice :=
  (negotiation.outcomes operations).flatMap Outcome.notices

variable {negotiation : Negotiation ε} {operations : List Operation} {operation : Operation}

@[simp]
theorem after_nil : negotiation.after [] = negotiation := rfl

@[simp]
theorem after_cons :
    negotiation.after (operation :: operations) =
      (negotiation.perform operation).1.after operations := rfl

@[simp]
theorem notices_nil : negotiation.notices [] = [] := rfl

@[simp]
theorem notices_cons :
    negotiation.notices (operation :: operations) =
      (negotiation.perform operation).2.notices ++
        (negotiation.perform operation).1.notices operations := by
  simp [notices, outcomes]

/-- What holds of a new negotiation and is kept by every operation always holds. -/
theorem after_induction {property : Negotiation ε → Prop} (begins : property negotiation)
    (keeps : ∀ current operation, property current → property (current.perform operation).1)
    (operations : List Operation) : property (negotiation.after operations) := by
  induction operations generalizing negotiation with
  | nil => exact begins
  | cons operation later ih => exact ih (keeps negotiation operation begins)

end RoomCall.Negotiation
