import RoomCall.Phone.Ending

/-!
# What a user and an owner can ask of a phone

A refusal changes nothing, except that accepting an offer without a usable codec rejects the call.
The owner reports three things: the outcome of a request for relay credentials, the end of an
invite's lifetime, and the callbacks of engines.
-/

namespace RoomCall.Phone

variable {ε : Type} [MediaEngine ε]

/-- What is missing for calls on this phone. -/
def missing (phone : Phone ε) : List String :=
  phone.maker.missing ++
    if phone.settings.requireMicrophone && !phone.inventory.hasMicrophone then ["microphone"]
    else []

/-- The other member of a room, if the room has exactly two. -/
def callee? (membership : Membership) : Option UserId :=
  if membership.isOneToOne then membership.otherUser? else none

/-- Starts a call with the other member of a room. -/
def startCall (phone : Phone ε) (now : Instant) (membership : Membership) :
    Phone ε × Except PhoneError CallId :=
  if phone.phase ≠ .idle then
    (phone, .error .busy)
  else
    match callee? membership with
    | none => (phone, .error (.notOneToOne membership.members.length))
    | some callee =>
        if !phone.missing.isEmpty then
          (phone, .error (.missingCapabilities phone.missing))
        else
          let (token, callTokens) := phone.callTokens.draw
          let (party, partyNames) := phone.partyNames.draw
          let call : Call ε := {
            id := CallId.fresh now token
            room := membership.room
            localUser := membership.localUser
            party := ⟨party⟩
            remoteUser := callee
            remoteParty := none
            members := membership.members
            lifetime := phone.inviteLifetime }
          let dialing := { phone with
            call := some call
            callTokens := callTokens
            partyNames := partyNames }.setPhase .outgoing
          (dialing.openOrDefer now .offering, .ok call.id)

/-- Accepts the call that rings. If its offer has no usable codec, the call is rejected. -/
def accept (phone : Phone ε) (now : Instant) : Phone ε × Except PhoneError Unit :=
  match phone.call with
  | none => (phone, .error .noCall)
  | some call =>
      if phone.phase ≠ .incoming || call.accepted then
        (phone, .error (.wrongPhase phone.phase))
      else if !call.heldDescription.any Description.hasCompatibleAudio then
        (phone.endCall .noCompatibleCodec (some .unknownError), .error .noCompatibleCodec)
      else
        let accepted :=
          { phone with call := some { call with accepted := true } }.order .cancelTimer
        (accepted.openOrDefer now .answering, .ok ())

/-- Hangs up. Without a call nothing happens. -/
def hangUp (phone : Phone ε) : Phone ε :=
  phone.endCall .localHangup (some .userHangup)

/-- Silences the call that rings without telling the caller. -/
def ignore (phone : Phone ε) : Phone ε × Except PhoneError Unit :=
  if phone.phase ≠ .incoming || phone.call.any Call.accepted then
    (phone, .error (.wrongPhase phone.phase))
  else
    (phone.endCall .ignored none, .ok ())

/-- Mutes or unmutes the microphone. -/
def setMuted (phone : Phone ε) (muted : Bool) : Phone ε × Except PhoneError Unit :=
  match phone.call, phone.negotiation? with
  | some call, some negotiation =>
      let (asked, outcome) := negotiation.setMuted muted
      let kept := phone.keep call asked
      match outcome with
      | .ok () => (kept.announce (.mutedChanged muted), .ok ())
      | .error error => (kept, .error (.negotiation error))
  | _, _ => (phone, .error .noCall)

/-- Switches the camera and answers whether it is on now. -/
def toggleCamera (phone : Phone ε) : Phone ε × Except PhoneError Bool :=
  match phone.call, phone.negotiation? with
  | some call, some negotiation =>
      let (asked, outcome) := negotiation.toggleCamera
      (phone.keep call asked, outcome.mapError .negotiation)
  | _, _ => (phone, .error .noCall)

/-- Starts the negotiation that waited for relay credentials, if the call still waits for it. -/
def resume (phone : Phone ε) : Phone ε :=
  match phone.call with
  | none => phone
  | some call =>
      let resumed := { phone with call := some { call with deferred := none } }
      match call.deferred, phone.phase with
      | some .offering, .outgoing => resumed.openNegotiation .offering
      | some .answering, .incoming => resumed.openNegotiation .answering
      | _, _ => resumed

/-- Hears the outcome of a request for relay credentials. After a failure the phone goes on with
what it has. -/
def relayRefreshed (phone : Phone ε) (now : Instant) (outcome : Except String Relay.Grant) :
    Phone ε :=
  let answered := { phone with refreshing := false }
  match outcome with
  | .ok grant => { answered with relay := answered.relay.update grant now }.resume
  | .error _ => answered.resume

/-- Hears that the lifetime of an invite is over. -/
def inviteExpired (phone : Phone ε) (expired : CallId) : Phone ε :=
  match phone.call with
  | none => phone
  | some call =>
      if call.id ≠ expired then
        phone
      else
        match phone.phase with
        | .incoming => if call.accepted then phone else phone.endCall .inviteExpired none
        | .outgoing => phone.endCall .inviteExpired (some .inviteTimeout)
        | _ => phone

/-- Hears a callback of an engine. Callbacks of negotiations that are over are dropped. -/
def hearEngine (phone : Phone ε) (session : SessionId) (callback : Engine.Callback) : Phone ε :=
  match phone.call, phone.negotiation? with
  | some call, some negotiation =>
      if negotiation.id = session then
        let (handled, notices) := negotiation.handle callback
        (phone.keep call handled).applyNotices notices
      else
        phone
  | _, _ => phone

/-- Hears that a capture device was plugged in or went away. -/
def plug (phone : Phone ε) (change : Hotplug) : Phone ε :=
  { phone with inventory := (phone.inventory.apply change).1 }

end RoomCall.Phone
