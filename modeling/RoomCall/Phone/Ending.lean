import RoomCall.Phone.Basic

/-!
# How a call ends and what its negotiation leads to

A call ends in one place, whatever the reason: the other side is told if there is something to
tell, the timer is called off, the negotiation is taken down, the roster is emptied, and the phone
is idle again. Notices of the negotiation are acted on in order until the call is over.
-/

namespace RoomCall.Phone

variable {ε : Type} [MediaEngine ε]

/-- Announces the changes of stage among some notices. -/
def announceStages (phone : Phone ε) : List Notice → Phone ε
  | [] => phone
  | .progressChanged stage :: later => (phone.announce (.progressChanged stage)).announceStages later
  | _ :: later => phone.announceStages later

/-- Takes down the negotiation of a call that the phone no longer has. -/
def takeDown (phone : Phone ε) (negotiation : Negotiation ε) : Phone ε :=
  let (finished, notices) := negotiation.finish
  let (quiet, traffic) := finished.collect
  { phone with log := phone.log ++ traffic.map (LogEntry.traffic quiet.id) }.announceStages notices

/-- Sends a hangup for a call, if there is a cause to give. -/
def sendHangup (phone : Phone ε) (call : Call ε) : Option HangupCause → Phone ε
  | some cause =>
      phone.order (.send call.room (phone.style.hangup call.id call.party (some cause)))
  | none => phone

/-- Ends the current call. With a cause the other side is told. -/
def endCall (phone : Phone ε) (ending : Ending) (cause : Option HangupCause) : Phone ε :=
  match phone.call with
  | none => phone
  | some call =>
      let silent := ({ phone with call := none }.sendHangup call cause).order .cancelTimer
      let down := match call.negotiation with
        | some negotiation => silent.takeDown negotiation
        | none => silent
      ((down.setRoster []).setPhase .idle).announce (.callEnded call.id ending)

/-- Sends an event into the room of a call. -/
def sendSignal (phone : Phone ε) (call : Call ε) (signal : OutgoingSignal) : Phone ε :=
  phone.order (.send call.room signal)

/-- Adds everybody in the room to the roster. -/
def registerMembers (phone : Phone ε) (call : Call ε) : Phone ε :=
  phone.setRoster (phone.roster.addAll call.members)

/-- Sends the invite with the local offer and its candidates, and waits for an answer. -/
def sendInvite (phone : Phone ε) (call : Call ε) (offer : String)
    (candidates : List Candidate) : Phone ε :=
  let (invite, names) :=
    phone.style.invite phone.streamNames call.id call.party phone.inviteLifetime offer
  let sent := ({ phone with streamNames := names }.sendSignal call invite).sendSignal call
    (phone.style.candidates call.id call.party candidates)
  (sent.order (.armTimer call.id phone.inviteLifetime)).registerMembers call

/-- Sends the local answer and its candidates. The call is established. -/
def sendAnswer (phone : Phone ε) (call : Call ε) (answer : String)
    (candidates : List Candidate) : Phone ε :=
  let (signal, names) := phone.style.answer phone.streamNames call.id call.party answer
  let sent := ({ phone with streamNames := names }.sendSignal call signal).sendSignal call
    (phone.style.candidates call.id call.party candidates)
  (sent.setPhase .active).registerMembers call

/-- Sends a new local description. -/
def sendNegotiate (phone : Phone ε) (call : Call ε) (description : String)
    (kind : DescriptionKind) : Phone ε :=
  let (signal, names) := phone.style.negotiate phone.streamNames call.id call.party
    phone.inviteLifetime description kind
  { phone with streamNames := names }.sendSignal call signal

/-- The cause to give for an ending that the negotiation asks for. -/
def failureCause : Ending → HangupCause
  | .iceFailed => .iceFailed
  | .mediaFailed _ => .userMediaFailed
  | _ => .unknownError

/-- Acts on one notice of the negotiation of a call. -/
def applyNotice (phone : Phone ε) (call : Call ε) : Notice → Phone ε
  | .progressChanged stage => phone.announce (.progressChanged stage)
  | .offerCreated offer candidates => phone.sendInvite call offer candidates
  | .answerCreated answer candidates => phone.sendAnswer call answer candidates
  | .renegotiate description kind => phone.sendNegotiate call description kind
  | .remoteVideo user => phone.setRoster ((phone.roster.add user).setCamera user true)
  | .failed ending => phone.endCall ending (some (failureCause ending))

/-- Acts on the notices of the current negotiation, as long as the call goes on. -/
def applyNotices (phone : Phone ε) : List Notice → Phone ε
  | [] => phone
  | notice :: later =>
      match phone.call with
      | some call => (phone.applyNotice call notice).applyNotices later
      | none => phone

/-- The ending of a call whose negotiation could not be started. -/
def startFailure : NegotiationError → Ending
  | .noCompatibleCodec => .noCompatibleCodec
  | error => .mediaFailed error.message

/-- Starts the negotiation of the current call on one side. Answering uses up the offer and the
candidates that were held back. -/
def openNegotiation (phone : Phone ε) (side : Role) : Phone ε :=
  match phone.call with
  | none => phone
  | some call =>
      let session := phone.nextSession
      let fresh : Negotiation ε := { id := session, engine := phone.maker.make session }
      let (call, opened, outcome) := match side with
        | .offering =>
            let (opened, outcome) := fresh.start phone.pipeline
            (call, opened, outcome)
        | .answering =>
            let (opened, outcome) := fresh.acceptOffer phone.pipeline
              (call.heldDescription.getD "") (call.heldCandidates.map Prod.snd) call.remoteUser
            ({ call with heldDescription := none, heldCandidates := [] }, opened, outcome)
      let started := { phone with nextSession := session + 1 }.keep call opened
      match outcome with
      | .ok notices => started.applyNotices notices
      | .error error =>
          (started.announce (.failure error.message)).endCall (startFailure error)
            (some .userMediaFailed)

/-- Starts the negotiation of the current call now if the relay credentials still hold; otherwise
asks for new ones and starts when they are there. -/
def openOrDefer (phone : Phone ε) (now : Instant) (side : Role) : Phone ε :=
  if phone.relay.isFresh now then
    phone.openNegotiation side
  else
    match phone.call with
    | some call => { phone with call := some { call with deferred := some side } }.requestRelay
    | none => phone

end RoomCall.Phone
