import RoomCall.Proofs.Phone.Standing

/-!
# Everything a phone can do

`Phone.Move` lists what can come of an occurrence, with the exact phone after it. It says once and
for all what the handling of an occurrence does: invariants of a phone are shown by going through
the list, and no later file opens the definitions of the handling.

A message is heard in a call when it names the call, comes from its room and was sent by its remote
user. Whether it is listened to depends on the party that it names.
-/

namespace RoomCall

/-- The signal that an occurrence brings, with what is known of its room. -/
def Occurrence.signal? : Occurrence → Option (Membership × Signal)
  | .event membership carrier =>
      (Signal.ofEvent carrier).toOption.map fun signal => (membership, signal)
  | .signal membership content => some (membership, content)
  | _ => none

namespace Call

variable {ε : Type}

/-- The message that an occurrence brings from the other side of a call, whatever its party. -/
def heard? (call : Call ε) (occurrence : Occurrence) : Option Message :=
  match occurrence.signal? with
  | some (membership, signal) =>
      if signal.message.call = call.id ∧ membership.room = call.room ∧
          signal.sender = call.remoteUser then
        some signal.message
      else
        none
  | none => none

/-- Whether a message that names a party, or none, may be a word of the other side of a call. -/
def admits (call : Call ε) (party : Option PartyId) : Bool :=
  call.remoteParty.all fun known => party.all (· = known)

/-- The candidates that an occurrence brings for a call, each with the party that sent it. -/
def brought (call : Call ε) (occurrence : Occurrence) : List (Option PartyId × Candidate) :=
  match call.heard? occurrence with
  | some (.candidates batch) => batch.candidates.map fun candidate => (batch.party, candidate)
  | _ => []

/-- The candidates that an occurrence brings for a call from a party that is listened to. -/
def admitted (call : Call ε) (occurrence : Occurrence) : List (Option PartyId × Candidate) :=
  (call.brought occurrence).filter fun candidate => call.admits candidate.1

/-- Only messages with candidates hand any to a call. -/
theorem admitted_eq_nil_of_heard {call : Call ε} {occurrence : Occurrence}
    (silent : ∀ batch, call.heard? occurrence ≠ some (.candidates batch)) :
    call.admitted occurrence = [] := by
  unfold admitted brought
  split
  · rename_i batch heard
    exact absurd heard (silent batch)
  · rfl

theorem admitted_eq_nil_of_signal {call : Call ε} {occurrence : Occurrence}
    (silent : occurrence.signal? = none) : call.admitted occurrence = [] := by
  apply admitted_eq_nil_of_heard
  simp [heard?, silent]

/-- A call takes no candidates from a party that it is not bound to. -/
theorem admitted_eq_nil_of_foreign {call : Call ε} {occurrence : Occurrence} {message : Message}
    (heard : call.heard? occurrence = some message) (foreign : call.admits message.party = false) :
    call.admitted occurrence = [] := by
  unfold admitted brought
  rw [heard]
  cases message with
  | candidates batch =>
      have dropped : call.admits batch.party = false := foreign
      simp [dropped]
  | _ => rfl

/-- A call takes all candidates of a party that it admits, with the party they are from. -/
theorem admitted_candidates {call : Call ε} {occurrence : Occurrence} {batch : CandidateBatch}
    (heard : call.heard? occurrence = some (.candidates batch))
    (admits : call.admits batch.party = true) :
    call.admitted occurrence = batch.candidates.map fun candidate => (batch.party, candidate) := by
  unfold admitted brought
  rw [heard]
  dsimp only
  rw [List.filter_eq_self]
  simp [admits]

/-- The call with candidates that are held back. -/
def holding (call : Call ε) (batch : CandidateBatch) : Call ε :=
  { call with
    heldCandidates := call.heldCandidates ++
      batch.candidates.map fun candidate => (batch.party, candidate) }

/-- The call with an answer that is held back, whose party is the other side from now on. -/
def answeredBy (call : Call ε) (answer : Answer) : Call ε :=
  { Phone.bindParty call answer.party with heldDescription := some answer.description }

end Call

namespace Phone

variable {ε : Type} [MediaEngine ε]

/-- The call that an invite opens, with a name for this device in it. -/
def ringingCall (phone : Phone ε) (membership : Membership) (sender : UserId) (invite : Invite) :
    Call ε where
  id := invite.call
  room := membership.room
  localUser := membership.localUser
  party := ⟨phone.partyNames.draw.1⟩
  remoteUser := sender
  remoteParty := invite.party
  members := membership.members
  lifetime := invite.lifetime
  heldDescription := some invite.description

/-- The phone that rings for an invite. -/
def ringing (phone : Phone ε) (now : Instant) (membership : Membership) (sender : UserId)
    (invite : Invite) : Phone ε :=
  { phone with
    call := some (phone.ringingCall membership sender invite)
    phase := .incoming
    partyNames := phone.partyNames.draw.2
    refreshing := phone.refreshing || !phone.relay.isFresh now
    log := phone.log ++ phaseEntries phone.phase .incoming ++
      [.errand (.armTimer invite.call invite.lifetime),
        .announcement (.incomingCall sender membership.room invite.lifetime invite.call)] ++
      if phone.relay.isFresh now || phone.refreshing then [] else [.errand .refreshRelay] }

/-- The call that is started with another user, with a name for this device in it. -/
def dialedCall (phone : Phone ε) (now : Instant) (membership : Membership) (callee : UserId) :
    Call ε where
  id := CallId.fresh now phone.callTokens.draw.1
  room := membership.room
  localUser := membership.localUser
  party := ⟨phone.partyNames.draw.1⟩
  remoteUser := callee
  remoteParty := none
  members := membership.members
  lifetime := phone.inviteLifetime

/-- The phone that starts a call, before its negotiation starts. -/
def dialing (phone : Phone ε) (now : Instant) (membership : Membership) (callee : UserId) :
    Phone ε :=
  { phone with
    call := some (phone.dialedCall now membership callee)
    phase := .outgoing
    callTokens := phone.callTokens.draw.2
    partyNames := phone.partyNames.draw.2
    log := phone.log ++ phaseEntries phone.phase .outgoing }

/-- What a phone does with a reaction of the negotiation of its call. -/
inductive Reacts (phone : Phone ε) (call : Call ε) (side : Role) (before after : Negotiation ε) :
    Phone ε → Prop where
  | moved {stages : List Progress} (runs : after.Runs side)
      (same : after.described = before.described)
      (walk : Progress.Walk before.progress stages after.progress) :
      Reacts phone call side before after
        ((phone.keep call after).noted (stageEntries (stages.map .progressChanged)))
  | reported {stages : List Progress} {description : String} {candidates : List Candidate}
      (runs : after.Runs side) (silent : before.described = false)
      (described : after.described = true) (walk : Progress.Walk side.sent stages after.progress) :
      Reacts phone call side before after
        (((phone.keep call after).described (call.keeping after) description candidates side).noted
          (stageEntries ((side.sent :: stages).map .progressChanged)))
  | renegotiated {description : String} {kind : DescriptionKind} (runs : after.Runs side)
      (described : before.described = true) (same : after.described = before.described)
      (still : after.progress = before.progress) :
      Reacts phone call side before after
        ((phone.keep call after).sendNegotiate (call.keeping after) description kind)
  | watched {user : UserId} (runs : after.Runs side) (same : after.described = before.described)
      (still : after.progress = before.progress) :
      Reacts phone call side before after
        ((phone.keep call after).setRoster ((phone.roster.add user).setCamera user true))
  | broken {message : String} (runs : after.Runs side) :
      Reacts phone call side before after
        ((phone.keep call after).ended (call.keeping after) (.mediaFailed message)
          (some .userMediaFailed))
  | lost (failed : after.progress = .iceFailed) :
      Reacts phone call side before after
        (((phone.keep call after).noted (stageEntries [.progressChanged .iceFailed])).ended
          (call.keeping after) .iceFailed (some .iceFailed))
  | reportedLost {description : String} {candidates : List Candidate}
      (silent : before.described = false) (failed : after.progress = .iceFailed)
      (ice : before.ice = .failed) :
      Reacts phone call side before after
        ((((phone.keep call after).described (call.keeping after) description candidates side).noted
          (stageEntries [.progressChanged side.sent, .progressChanged .iceFailed])).ended
            (call.keeping after) .iceFailed (some .iceFailed))

/-- A phone that applies the notices of its negotiation reacts to the callback. -/
theorem reacts_applyNotices {phone : Phone ε} (call : Call ε) {side : Role}
    {before after : Negotiation ε} {notices : List Notice}
    (reaction : Negotiation.Reaction side before after notices) :
    phone.Reacts call side before after ((phone.keep call after).applyNotices notices) := by
  have kept : (phone.keep call after).call = some (call.keeping after) := rfl
  cases reaction with
  | moved runs same walk =>
      rw [applyNotices_onlyStages kept]
      exact .moved runs same walk
  | reported runs silent described description candidates walk =>
      rw [applyNotices_created kept]
      exact .reported runs silent described walk
  | renegotiated runs described same still description kind =>
      rw [applyNotices_cons kept]
      exact .renegotiated runs described same still
  | watched runs same still user =>
      rw [applyNotices_cons kept]
      exact .watched runs same still
  | broken runs message =>
      rw [applyNotices_cons kept, applyNotice, endCall_eq kept]
      exact .broken runs
  | lost failed =>
      have moved := applyNotices_stages kept [.iceFailed] [.failed .iceFailed]
      have still : ((phone.keep call after).noted (stageEntries [.progressChanged .iceFailed])).call =
          some (call.keeping after) := rfl
      rw [List.map_singleton, List.singleton_append] at moved
      rw [moved, applyNotices_cons still, applyNotice, endCall_eq still]
      exact .lost failed
  | reportedLost silent failed ice description candidates =>
      have sent : ((phone.keep call after).described (call.keeping after) description candidates
          side).call = some (call.keeping after) := rfl
      have still : (((phone.keep call after).described (call.keeping after) description candidates
          side).noted (stageEntries [.progressChanged side.sent, .progressChanged .iceFailed])).call =
          some (call.keeping after) := rfl
      have moved := applyNotices_stages sent [side.sent, .iceFailed] [.failed .iceFailed]
      rw [applyNotices_cons kept, applyNotice_created]
      rw [List.map_cons, List.map_singleton, List.cons_append, List.singleton_append] at moved
      rw [moved, applyNotices_cons still, applyNotice, endCall_eq still]
      exact .reportedLost silent failed ice

/-- The phone that has heard the outcome of a request for relay credentials. -/
def refreshed (phone : Phone ε) (now : Instant) (outcome : Except String Relay.Grant) : Phone ε :=
  { phone with
    refreshing := false
    relay := match outcome with
      | .ok grant => phone.relay.update grant now
      | .error _ => phone.relay }

/-- The reasons for which an occurrence ends the call of a phone, with what is announced first, the
ending and the cause. -/
inductive Ends (phone : Phone ε) (call : Call ε) (occurrence : Occurrence) :
    List LogEntry → Ending → Option HangupCause → Prop where
  | hungUp (is : occurrence = .hangUp) :
      Ends phone call occurrence [] .localHangup (some .userHangup)
  | ignored (is : occurrence = .ignore) (incoming : phone.phase = .incoming)
      (unaccepted : call.accepted = false) : Ends phone call occurrence [] .ignored none
  | rejected (is : occurrence = .accept) (incoming : phone.phase = .incoming)
      (unaccepted : call.accepted = false)
      (incompatible : call.heldDescription.any Description.hasCompatibleAudio = false) :
      Ends phone call occurrence [] .noCompatibleCodec (some .unknownError)
  | missed (is : occurrence = .inviteExpired call.id) (incoming : phone.phase = .incoming)
      (unaccepted : call.accepted = false) : Ends phone call occurrence [] .inviteExpired none
  | unanswered (is : occurrence = .inviteExpired call.id) (outgoing : phone.phase = .outgoing) :
      Ends phone call occurrence [] .inviteExpired (some .inviteTimeout)
  | answeredElsewhere {membership : Membership} {signal : Signal} {answer : Answer}
      (heard : occurrence.signal? = some (membership, signal))
      (message : signal.message = .answer answer) (own : signal.sender = call.localUser)
      (incoming : phone.phase = .incoming) :
      Ends phone call occurrence [.announcement (.answeredElsewhere call.id)] .answeredElsewhere none
  | hungUpElsewhere {membership : Membership} {signal : Signal} {hangup : Hangup}
      (heard : occurrence.signal? = some (membership, signal))
      (message : signal.message = .hangup hangup) :
      Ends phone call occurrence [] .remoteHangup none

/-- Everything that an occurrence can do to a phone. -/
inductive Move (phone : Phone ε) (now : Instant) (occurrence : Occurrence) : Phone ε → Prop where
  /-- Nothing comes of it. -/
  | still (deaf : ∀ call, phone.call = some call → call.admitted occurrence = []) :
      Move phone now occurrence phone
  /-- A capture device was plugged in or went away. -/
  | plugged {change : Hotplug} (is : occurrence = .plug change) :
      Move phone now occurrence { phone with inventory := (phone.inventory.apply change).1 }
  /-- A request for relay credentials is over, and no call waited for it. -/
  | refreshed {outcome : Except String Relay.Grant} (is : occurrence = .relayRefreshed outcome)
      (undeferred : ∀ call, phone.call = some call → call.deferred = none) :
      Move phone now occurrence (phone.refreshed now outcome)
  /-- A request for relay credentials is over, and the call starts that waited for it. -/
  | resumed {outcome : Except String Relay.Grant} {call : Call ε} {side : Role} {after : Phone ε}
      (is : occurrence = .relayRefreshed outcome) (current : phone.call = some call)
      (deferred : call.deferred = some side)
      (opens : Opens { phone.refreshed now outcome with call := some { call with deferred := none } }
        { call with deferred := none } side after) :
      Move phone now occurrence after
  /-- A call rings. -/
  | rang {membership : Membership} {signal : Signal} {invite : Invite} (idle : phone.call = none)
      (heard : occurrence.signal? = some (membership, signal))
      (message : signal.message = .invite invite) (other : signal.sender ≠ membership.localUser)
      (fresh : phone.isStale now signal.sentAt invite = false) :
      Move phone now occurrence (phone.ringing now membership signal.sender invite)
  /-- A call is started. -/
  | dialed {membership : Membership} {callee : UserId} {after : Phone ε}
      (is : occurrence = .startCall membership) (idle : phone.call = none)
      (known : callee? membership = some callee) (capable : phone.missing = [])
      (starts : Starts (phone.dialing now membership callee)
        (phone.dialedCall now membership callee) .offering after) :
      Move phone now occurrence after
  /-- The call that rings is accepted. -/
  | accepted {call : Call ε} {after : Phone ε} (is : occurrence = .accept)
      (current : phone.call = some call) (incoming : phone.phase = .incoming)
      (unaccepted : call.accepted = false)
      (compatible : call.heldDescription.any Description.hasCompatibleAudio = true)
      (starts : Starts ({ phone with call := some { call with accepted := true } }.noted
          [.errand .cancelTimer]) { call with accepted := true } .answering after) :
      Move phone now occurrence after
  /-- The call ends. -/
  | ended {call : Call ε} {entries : List LogEntry} {ending : Ending} {cause : Option HangupCause}
      (current : phone.call = some call) (ends : phone.Ends call occurrence entries ending cause) :
      Move phone now occurrence ((phone.noted entries).ended call ending cause)
  /-- Candidates are held back until the call is accepted. -/
  | held {call : Call ε} {batch : CandidateBatch} (current : phone.call = some call)
      (heard : call.heard? occurrence = some (.candidates batch))
      (admits : call.admits batch.party = true) (incoming : phone.phase = .incoming)
      (unopened : call.negotiation = none) :
      Move phone now occurrence { phone with call := some (call.holding batch) }
  /-- Candidates are held back for an answer. It may have waited for them. -/
  | gathered {call : Call ε} {batch : CandidateBatch} {after : Phone ε}
      (current : phone.call = some call)
      (heard : call.heard? occurrence = some (.candidates batch))
      (admits : call.admits batch.party = true) (outgoing : phone.phase = .outgoing)
      (settles : Settles { phone with call := some (call.holding batch) } (call.holding batch)
        after) :
      Move phone now occurrence after
  /-- Candidates are handed to the engine. -/
  | handed {call : Call ε} {negotiation : Negotiation ε} {batch : CandidateBatch}
      (current : phone.call = some call) (opened : call.negotiation = some negotiation)
      (heard : call.heard? occurrence = some (.candidates batch))
      (admits : call.admits batch.party = true) (live : phone.phase ≠ .outgoing) :
      Move phone now occurrence
        (phone.keep call (negotiation.addRemoteCandidates batch.candidates))
  /-- The first answer to a call arrives. -/
  | answered {call : Call ε} {answer : Answer} {after : Phone ε} (current : phone.call = some call)
      (heard : call.heard? occurrence = some (.answer answer))
      (admits : call.admits answer.party = true) (outgoing : phone.phase = .outgoing)
      (unanswered : call.heldDescription = none)
      (settles : Settles { phone with call := some (call.answeredBy answer) }
        (call.answeredBy answer) after) :
      Move phone now occurrence after
  /-- A new description arrives in an established call. -/
  | renegotiated {call : Call ε} {negotiation : Negotiation ε} {content : Renegotiation}
      (current : phone.call = some call) (opened : call.negotiation = some negotiation)
      (heard : call.heard? occurrence = some (.negotiate content))
      (admits : call.admits content.party = true) (active : phone.phase = .active) :
      Move phone now occurrence
        (phone.keep call
          (negotiation.renegotiate content.description call.remoteUser content.isAnswer).1)
  /-- The microphone is switched, if that is possible. -/
  | muted {call : Call ε} {negotiation : Negotiation ε} {muted : Bool}
      (is : occurrence = .setMuted muted) (current : phone.call = some call)
      (opened : call.negotiation = some negotiation) :
      Move phone now occurrence
        ((phone.keep call (negotiation.setMuted muted).1).noted
          (match (negotiation.setMuted muted).2 with
            | .ok () => [.announcement (.mutedChanged muted)]
            | .error _ => []))
  /-- The camera is switched, if that is possible. -/
  | toggled {call : Call ε} {negotiation : Negotiation ε} (is : occurrence = .toggleCamera)
      (current : phone.call = some call) (opened : call.negotiation = some negotiation) :
      Move phone now occurrence (phone.keep call negotiation.toggleCamera.1)
  /-- The negotiation reacts to a callback of its engine. -/
  | reacted {call : Call ε} {negotiation : Negotiation ε} {side : Role}
      {callback : Engine.Callback} {after : Phone ε}
      (is : occurrence = .callback negotiation.id callback) (current : phone.call = some call)
      (opened : call.negotiation = some negotiation) (runs : negotiation.Runs side)
      (reacts : phone.Reacts call side negotiation (negotiation.handle callback).1 after) :
      Move phone now occurrence after

end Phone

end RoomCall
