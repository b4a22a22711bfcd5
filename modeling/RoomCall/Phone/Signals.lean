import RoomCall.Phone.Ending
import RoomCall.Signal.Reading

/-!
# How a phone hears signals

Every signal of every room passes through `hear`. Without a call only an invite counts. With a
call, a signal has to be about that call and from its room; then it is an echo of this device, a
word of another device of the same user, or a word of the other side. Once the party on the other
side is known, only that party is listened to, except that any of its user's devices may hang up.

Candidates that arrive before they can be used are held back with the name of their party. An
answer is applied as soon as three things are there: the answer itself, something to connect to,
and the local offer having gone out.
-/

namespace RoomCall.Phone

variable {ε : Type} [MediaEngine ε]

/-- Whether an invite is too old to ring. A signal from the future is new. -/
def isStale (phone : Phone ε) (now sentAt : Instant) (invite : Invite) : Bool :=
  let age := (Instant.ago now sentAt).nanoseconds
  phone.staleInviteAge.nanoseconds < age || invite.lifetime.nanoseconds < age

/-- Rings for an invite of another user, unless the invite is too old. -/
def hearInvite (phone : Phone ε) (now : Instant) (membership : Membership) (sender : UserId)
    (sentAt : Instant) (invite : Invite) : Phone ε :=
  if sender = membership.localUser || phone.isStale now sentAt invite then
    phone
  else
    let (party, partyNames) := phone.partyNames.draw
    let call : Call ε := {
      id := invite.call
      room := membership.room
      localUser := membership.localUser
      party := ⟨party⟩
      remoteUser := sender
      remoteParty := invite.party
      members := membership.members
      lifetime := invite.lifetime
      heldDescription := some invite.description }
    let ringing := { phone with call := some call, partyNames := partyNames }.setPhase .incoming
    let announced := (ringing.order (.armTimer call.id call.lifetime)).announce
      (.incomingCall sender membership.room call.lifetime call.id)
    if announced.relay.isFresh now then announced else announced.requestRelay

/-- Hears another device of the local user: it may answer a call that rings here, or hang up. -/
def hearOwnDevice (phone : Phone ε) (call : Call ε) : Message → Phone ε
  | .answer _ =>
      if phone.phase = .incoming then
        (phone.announce (.answeredElsewhere call.id)).endCall .answeredElsewhere none
      else
        phone
  | .hangup _ => phone.endCall .remoteHangup none
  | _ => phone

/-- Whether an answer has something to connect to: a candidate that was held back, or one that the
answer carries itself. -/
def canConnect (call : Call ε) (answer : String) : Bool :=
  !call.heldCandidates.isEmpty || Description.hasInlineCandidates answer

/-- Applies the answer that is held back to a negotiation that has sent its offer. -/
def applyAnswer (phone : Phone ε) (call : Call ε) (negotiation : Negotiation ε)
    (answer : String) : Phone ε :=
  let (applied, outcome) :=
    negotiation.acceptAnswer answer (call.heldCandidates.map Prod.snd) call.remoteUser
  let kept := phone.keep { call with heldDescription := none, heldCandidates := [] } applied
  match outcome with
  | .ok () => (kept.order .cancelTimer).setPhase .active
  | .error error => kept.endCall (.mediaFailed error.message) (some .unknownError)

/-- Applies the answer that is held back, if everything it needs is there. -/
def tryAnswer (phone : Phone ε) : Phone ε :=
  match phone.phase, phone.call with
  | .outgoing, some call =>
      match call.heldDescription, call.negotiation with
      | some answer, some negotiation =>
          if canConnect call answer && negotiation.progress = .offerSent then
            phone.applyAnswer call negotiation answer
          else
            phone
      | _, _ => phone
  | _, _ => phone

/-- Hears candidates: they go to the engine if the call is established or was accepted and its
pipeline is there, and are held back otherwise. -/
def hearCandidates (phone : Phone ε) (call : Call ε) (batch : CandidateBatch) : Phone ε :=
  let live := call.negotiation.filter fun negotiation =>
    negotiation.hasPipeline && (phone.phase = .active || call.accepted)
  match live with
  | some negotiation => phone.keep call (negotiation.acceptCandidates batch.candidates)
  | none =>
      let held := batch.candidates.map fun candidate => (batch.party, candidate)
      let holding := { phone with
        call := some { call with heldCandidates := call.heldCandidates ++ held } }
      if phone.phase = .outgoing then holding.tryAnswer else holding

/-- A call whose other side is the party of an answer. Candidates of other parties are dropped. -/
def bindParty (call : Call ε) : Option PartyId → Call ε
  | some party =>
      { call with
        heldCandidates := call.heldCandidates.filter fun held => held.1.all (· = party)
        remoteParty := some party }
  | none => call

/-- Hears an answer: the first one for a call that waits for it is held until it can be
applied. -/
def hearAnswer (phone : Phone ε) (call : Call ε) (answer : Answer) : Phone ε :=
  if phone.phase ≠ .outgoing || call.heldDescription.isSome then
    phone
  else
    { phone with
      call := some { bindParty call answer.party with
        heldDescription := some answer.description } }.tryAnswer

/-- Hears a new description during an established call. If it is refused nothing comes of it. -/
def hearNegotiate (phone : Phone ε) (call : Call ε) (content : Renegotiation) : Phone ε :=
  match phone.phase, call.negotiation with
  | .active, some negotiation =>
      phone.keep call
        (negotiation.renegotiate content.description call.remoteUser content.isAnswer).1
  | _, _ => phone

/-- Hears the other side of the call. -/
def hearRemote (phone : Phone ε) (call : Call ε) : Message → Phone ε
  | .invite _ => phone
  | .candidates content => phone.hearCandidates call content
  | .answer content => phone.hearAnswer call content
  | .negotiate content => phone.hearNegotiate call content
  | .hangup _ => phone.endCall .remoteHangup none

/-- Whether a message is a hangup. -/
def isHangup : Message → Bool
  | .hangup _ => true
  | _ => false

/-- Whether a message of the remote user comes from a party other than the one known to be on the
other side. -/
def isForeignParty (call : Call ε) (message : Message) : Bool :=
  match call.remoteParty, message.party with
  | some expected, some party => !isHangup message && expected ≠ party
  | _, _ => false

/-- Hears a signal about the current call. -/
def hearInCall (phone : Phone ε) (call : Call ε) (membership : Membership) (signal : Signal) :
    Phone ε :=
  if call.id ≠ signal.message.call || call.room ≠ membership.room then
    phone
  else
    match Origin.of call.localUser (some call.party) signal.sender signal.message.party with
    | .thisDevice => phone
    | .otherOwnDevice => phone.hearOwnDevice call signal.message
    | .remote =>
        if signal.sender ≠ call.remoteUser || isForeignParty call signal.message then
          phone
        else
          phone.hearRemote call signal.message

/-- Hears a signal from a room. -/
def hear (phone : Phone ε) (now : Instant) (membership : Membership) (signal : Signal) :
    Phone ε :=
  match phone.call with
  | some call => phone.hearInCall call membership signal
  | none =>
      match signal.message with
      | .invite invite =>
          phone.hearInvite now membership signal.sender signal.sentAt invite
      | _ => phone

/-- Hears an event of a room. Events that carry no signal are passed over. -/
def hearEvent (phone : Phone ε) (now : Instant) (membership : Membership)
    (event : TimelineEvent) : Phone ε :=
  match Signal.ofEvent event with
  | .ok signal => phone.hear now membership signal
  | .error _ => phone

end RoomCall.Phone
