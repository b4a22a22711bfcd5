import RoomCall.Signal.Wire

/-!
# From events to messages

A message is read from the content of an event by its kind. Content of another shape is refused
first, then an empty call name, then a blank description, so the first of these faults is the one
that is reported.
-/

namespace RoomCall

/-- What is wrong with the content of a call event. -/
inductive Defect where
  /-- The content does not have the form of its kind. -/
  | form
  /-- The call has no name. -/
  | emptyCall
  /-- The description is blank. -/
  | emptyDescription
  deriving DecidableEq, Repr

def Defect.message : Defect → String
  | .form => "unexpected form"
  | .emptyCall => "empty call_id"
  | .emptyDescription => "empty sdp"

/-- Why an event carries no message. -/
inductive SignalError where
  | malformed (kind : SignalKind) (defect : Defect)
  | unknownType (type : String)
  deriving DecidableEq, Repr

def SignalError.message : SignalError → String
  | .malformed kind defect => "Malformed " ++ kind.eventType ++ " signal: " ++ defect.message
  | .unknownType type => "Unknown call event type: " ++ type

namespace Message

/-- Reads content by its form. -/
def readForm {α : Type} (kind : SignalKind) (read : Json → Option α) (content : Json) :
    Except SignalError α :=
  match read content with
  | some value => .ok value
  | none => .error (.malformed kind .form)

/-- Refuses a call without a name. -/
def checkCall (kind : SignalKind) (call : CallId) : Except SignalError Unit :=
  if call.text.isEmpty then .error (.malformed kind .emptyCall) else .ok ()

/-- Refuses a blank description. -/
def checkDescription (kind : SignalKind) (description : String) : Except SignalError Unit :=
  if Text.allBlank description then .error (.malformed kind .emptyDescription) else .ok ()

/-- Reads an invite. -/
def readInvite (content : Json) : Except SignalError Invite := do
  let wire ← readForm .invite Wire.Invite.ofJson? content
  checkCall .invite wire.call
  checkDescription .invite wire.offer.description
  return {
    call := wire.call
    party := wire.party
    description := wire.offer.description
    lifetime := .ofMilliseconds wire.lifetime
    purposes := wire.purposes }

/-- Reads a batch of candidates. -/
def readCandidates (content : Json) : Except SignalError CandidateBatch := do
  let wire ← readForm .candidates Wire.Candidates.ofJson? content
  checkCall .candidates wire.call
  return { call := wire.call, party := wire.party, candidates := wire.candidates }

/-- Reads an answer. -/
def readAnswer (content : Json) : Except SignalError Answer := do
  let wire ← readForm .answer Wire.Answer.ofJson? content
  checkCall .answer wire.call
  checkDescription .answer wire.answer.description
  return {
    call := wire.call
    party := wire.party
    description := wire.answer.description
    purposes := wire.purposes }

/-- Reads a description sent during a call. -/
def readNegotiate (content : Json) : Except SignalError Renegotiation := do
  let wire ← readForm .negotiate Wire.Negotiate.ofJson? content
  checkCall .negotiate wire.call
  checkDescription .negotiate wire.description.description
  return {
    call := wire.call
    party := wire.party
    description := wire.description.description
    isAnswer := wire.description.kind = .answer
    purposes := wire.purposes }

/-- Reads a hangup. -/
def readHangup (content : Json) : Except SignalError Hangup := do
  let wire ← readForm .hangup Wire.Hangup.ofJson? content
  checkCall .hangup wire.call
  return { call := wire.call, party := wire.party, cause := wire.cause }

/-- Reads the message of a given kind from the content of an event. -/
def read (kind : SignalKind) (content : Json) : Except SignalError Message :=
  match kind with
  | .invite => (readInvite content).map .invite
  | .candidates => (readCandidates content).map .candidates
  | .answer => (readAnswer content).map .answer
  | .negotiate => (readNegotiate content).map .negotiate
  | .hangup => (readHangup content).map .hangup

end Message

/-- The signal that an event of a timeline carries. -/
def Signal.ofEvent (event : TimelineEvent) : Except SignalError Signal := do
  let kind ← match SignalKind.ofEventType? event.type with
    | some kind => .ok kind
    | none => .error (.unknownType event.type)
  let message ← Message.read kind event.content
  return { sender := event.sender, sentAt := event.sentAt, message := message }

end RoomCall
