import RoomCall.Proofs.Phone.Moves

/-!
# Handling an occurrence is a move

Each kind of occurrence is handled by one function. For a coherent phone everything that such a
function does is one of the listed moves; `move_after` puts them together.
-/

namespace RoomCall.Phone

variable {ε : Type} [MediaEngine ε] {phone : Phone ε} {now : Instant}

/-- Nothing comes of an occurrence that brings no candidates. -/
theorem move_still {occurrence : Occurrence} (silent : occurrence.signal? = none) :
    Move phone now occurrence phone :=
  .still fun _ _ => Call.admitted_eq_nil_of_signal silent

/-- A call that ends without anything being announced first. -/
theorem move_endCall {call : Call ε} {occurrence : Occurrence} {ending : Ending}
    {cause : Option HangupCause} (current : phone.call = some call)
    (ends : phone.Ends call occurrence [] ending cause) :
    Move phone now occurrence (phone.endCall ending cause) := by
  rw [endCall_eq current]
  have ended : Move phone now occurrence ((phone.noted []).ended call ending cause) :=
    .ended current ends
  rwa [noted_nil] at ended

/-! ## What the user asks for -/

/-- An idle phone that lacks nothing calls the other member of a room of two. -/
theorem startCall_eq {membership : Membership} {callee : UserId} (idle : phone.phase = .idle)
    (known : callee? membership = some callee) (capable : phone.missing = []) :
    (phone.startCall now membership).1 =
      (phone.dialing now membership callee).openOrDefer now .offering := by
  unfold startCall
  rw [if_neg (by simp [idle]), known]
  dsimp only
  rw [if_neg (by simp [capable]), setPhase_eq]
  rfl

theorem move_startCall (coherent : phone.Coherent) (membership : Membership) :
    Move phone now (.startCall membership) (phone.startCall now membership).1 := by
  by_cases idle : phone.phase = .idle
  · cases known : callee? membership with
    | none =>
        have refused : (phone.startCall now membership).1 = phone := by
          simp [startCall, idle, known]
        rw [refused]
        exact move_still rfl
    | some callee =>
        by_cases capable : phone.missing = []
        · rw [startCall_eq idle known capable]
          exact .dialed rfl (coherent.phase_idle_iff.mp idle) known capable
            (starts_openOrDefer rfl now .offering)
        · have refused : (phone.startCall now membership).1 = phone := by
            simp [startCall, idle, known, capable]
          rw [refused]
          exact move_still rfl
  · have refused : (phone.startCall now membership).1 = phone := by simp [startCall, idle]
    rw [refused]
    exact move_still rfl

/-- A call that rings with a usable offer is accepted. -/
theorem accept_eq {call : Call ε} (current : phone.call = some call)
    (incoming : phone.phase = .incoming) (unaccepted : call.accepted = false)
    (compatible : call.heldDescription.any Description.hasCompatibleAudio = true) :
    (phone.accept now).1 =
      (({ phone with call := some { call with accepted := true } } : Phone ε).noted
        [.errand .cancelTimer]).openOrDefer now .answering := by
  unfold accept
  rw [current]
  dsimp only
  rw [if_neg (by simp [incoming, unaccepted]), if_neg (by simp [compatible])]
  rfl

theorem move_accept :
    Move phone now .accept (phone.accept now).1 := by
  cases current : phone.call with
  | none =>
      have refused : (phone.accept now).1 = phone := by simp [accept, current]
      rw [refused]
      exact move_still rfl
  | some call =>
      by_cases allowed : phone.phase = .incoming ∧ call.accepted = false
      · rcases allowed with ⟨incoming, unaccepted⟩
        cases compatible : call.heldDescription.any Description.hasCompatibleAudio with
        | true =>
            rw [accept_eq current incoming unaccepted compatible]
            exact .accepted rfl current incoming unaccepted compatible
              (starts_openOrDefer rfl now .answering)
        | false =>
            have rejected : (phone.accept now).1 =
                phone.endCall .noCompatibleCodec (some .unknownError) := by
              simp [accept, current, incoming, unaccepted, compatible]
            rw [rejected]
            exact move_endCall current (.rejected rfl incoming unaccepted compatible)
      · have wrong : phone.phase ≠ .incoming ∨ call.accepted = true := by
          by_cases incoming : phone.phase = .incoming
          · exact .inr (by simpa [incoming] using allowed)
          · exact .inl incoming
        have refused : (phone.accept now).1 = phone := by simp [accept, current, wrong]
        rw [refused]
        exact move_still rfl

theorem move_hangUp : Move phone now .hangUp phone.hangUp := by
  unfold hangUp
  cases current : phone.call with
  | none =>
      rw [endCall_none current]
      exact move_still rfl
  | some call => exact move_endCall current (.hungUp rfl)

theorem move_ignore (coherent : phone.Coherent) : Move phone now .ignore phone.ignore.1 := by
  unfold ignore
  split
  · exact move_still rfl
  · rename_i allowed
    simp only [ne_eq, Bool.or_eq_true, decide_eq_true_eq, not_or, Decidable.not_not,
      Bool.not_eq_true] at allowed
    rcases allowed with ⟨incoming, unaccepted⟩
    cases current : phone.call with
    | none =>
        have idle := (coherent.idle current).1
        simp [idle] at incoming
    | some call =>
        rw [current] at unaccepted
        exact move_endCall current (.ignored rfl incoming unaccepted)

theorem move_setMuted (muted : Bool) :
    Move phone now (.setMuted muted) (phone.setMuted muted).1 := by
  unfold setMuted negotiation?
  cases current : phone.call with
  | none => exact move_still rfl
  | some call =>
      cases opened : call.negotiation with
      | none => simpa [opened] using move_still rfl
      | some negotiation =>
          have moved : Move phone now (.setMuted muted) _ := .muted rfl current opened
          simp only [Option.bind_eq_bind, Option.bind_some, opened]
          split <;> simp_all [announce, record, noted]

theorem move_toggleCamera : Move phone now .toggleCamera phone.toggleCamera.1 := by
  unfold toggleCamera negotiation?
  cases current : phone.call with
  | none => exact move_still rfl
  | some call =>
      cases opened : call.negotiation with
      | none => simpa [opened] using move_still rfl
      | some negotiation =>
          simp only [Option.bind_eq_bind, Option.bind_some, opened]
          exact .toggled rfl current opened

/-! ## What the owner reports -/

theorem resume_undeferred
    (undeferred : ∀ call, phone.call = some call → call.deferred = none) :
    phone.resume = phone := by
  unfold resume
  cases current : phone.call with
  | none => rfl
  | some call =>
      have none := undeferred call current
      have same : { call with deferred := .none } = call := by rw [← none]
      dsimp only
      rw [none, same, ← current]

theorem resume_deferred {call : Call ε} {side : Role} (current : phone.call = some call)
    (deferred : call.deferred = some side)
    (fits : (side = .offering ∧ phone.phase = .outgoing) ∨
      (side = .answering ∧ phone.phase = .incoming)) :
    phone.resume =
      { phone with call := some { call with deferred := none } }.openNegotiation side := by
  unfold resume
  rcases fits with ⟨rfl, phase⟩ | ⟨rfl, phase⟩ <;> simp only [current, deferred, phase]

theorem relayRefreshed_eq (outcome : Except String Relay.Grant) :
    phone.relayRefreshed now outcome = (phone.refreshed now outcome).resume := by
  cases outcome <;> rfl

/-- The answer to a request for relay credentials starts the call that waits for it, if one does. -/
theorem relayRefreshed_cases (coherent : phone.Coherent) (now : Instant)
    (outcome : Except String Relay.Grant) :
    (∀ call, phone.call = some call → call.deferred = none) ∧
        phone.relayRefreshed now outcome = phone.refreshed now outcome ∨
      ∃ call side, phone.call = some call ∧ call.deferred = some side ∧
        Opens { phone.refreshed now outcome with call := some { call with deferred := none } }
          { call with deferred := none } side (phone.relayRefreshed now outcome) := by
  rw [relayRefreshed_eq]
  cases waiting : phone.call.bind Call.deferred with
  | none =>
      have undeferred : ∀ call, phone.call = some call → call.deferred = none := by
        intro call current
        rwa [current] at waiting
      exact .inl ⟨undeferred, @resume_undeferred ε _ (phone.refreshed now outcome) undeferred⟩
  | some side =>
      rcases Option.bind_eq_some_iff.mp waiting with ⟨call, current, deferred⟩
      have fits := (coherent.stands current).deferred_cases deferred
      rw [@resume_deferred ε _ (phone.refreshed now outcome) call side current deferred fits]
      exact .inr ⟨call, side, current, deferred, opens_openNegotiation rfl side⟩

theorem move_relayRefreshed (coherent : phone.Coherent) (outcome : Except String Relay.Grant) :
    Move phone now (.relayRefreshed outcome) (phone.relayRefreshed now outcome) := by
  rcases relayRefreshed_cases coherent now outcome with
    ⟨undeferred, answered⟩ | ⟨call, side, current, deferred, opens⟩
  · rw [answered]
    exact .refreshed rfl undeferred
  · exact .resumed rfl current deferred opens

theorem move_inviteExpired (expired : CallId) :
    Move phone now (.inviteExpired expired) (phone.inviteExpired expired) := by
  unfold inviteExpired
  split
  · exact move_still rfl
  · rename_i call current
    split
    · exact move_still rfl
    · rename_i same
      rw [ne_eq, Decidable.not_not] at same
      subst same
      split
      · rename_i incoming
        split
        · exact move_still rfl
        · rename_i unaccepted
          exact move_endCall current (.missed rfl incoming (by simpa using unaccepted))
      · rename_i outgoing
        exact move_endCall current (.unanswered rfl outgoing)
      · exact move_still rfl

/-- A callback of the current negotiation is handed to it, and its notices are acted on. -/
theorem hearEngine_eq {call : Call ε} {negotiation : Negotiation ε}
    (current : phone.call = some call) (opened : call.negotiation = some negotiation)
    (callback : Engine.Callback) :
    phone.hearEngine negotiation.id callback =
      (phone.keep call (negotiation.handle callback).1).applyNotices
        (negotiation.handle callback).2 := by
  simp [hearEngine, negotiation?, current, opened]

theorem move_hearEngine (coherent : phone.Coherent) (session : SessionId)
    (callback : Engine.Callback) :
    Move phone now (.callback session callback) (phone.hearEngine session callback) := by
  cases current : phone.call with
  | none => simpa [hearEngine, current] using move_still rfl
  | some call =>
      cases opened : call.negotiation with
      | none => simpa [hearEngine, negotiation?, current, opened] using move_still rfl
      | some negotiation =>
          by_cases same : negotiation.id = session
          · subst same
            rw [hearEngine_eq current opened]
            rcases (coherent.stands current).runs opened with ⟨side, runs⟩
            exact .reacted rfl current opened runs
              (reacts_applyNotices call (Negotiation.reaction_handle runs callback))
          · simpa [hearEngine, negotiation?, current, opened, same] using move_still rfl

/-! ## What is heard from rooms -/

omit [MediaEngine ε] in
/-- What does not come from the other side comes from the local user. -/
theorem sender_of_own {localUser sender : UserId} {localParty party : Option PartyId}
    {origin : Origin} (own : Origin.of localUser localParty sender party = origin)
    (here : origin ≠ .remote) : sender = localUser := by
  unfold Origin.of at own
  split at own
  · exact absurd own.symm here
  · rename_i same
    exact Decidable.not_not.mp same

omit [MediaEngine ε] in
/-- An invite of another user that is not too old rings. -/
theorem hearInvite_eq {membership : Membership} {signal : Signal} {invite : Invite}
    (other : signal.sender ≠ membership.localUser)
    (fresh : phone.isStale now signal.sentAt invite = false) :
    phone.hearInvite now membership signal.sender signal.sentAt invite =
      phone.ringing now membership signal.sender invite := by
  unfold hearInvite
  rw [if_neg (by simp [other, fresh])]
  cases holds : phone.relay.isFresh now <;> cases asked : phone.refreshing <;>
    simp [ringing, ringingCall, setPhase_eq, requestRelay_eq, order, announce, record, holds, asked]

theorem move_hearInvite {occurrence : Occurrence} {membership : Membership} {signal : Signal}
    {invite : Invite} (idle : phone.call = none)
    (heard : occurrence.signal? = some (membership, signal))
    (message : signal.message = .invite invite) :
    Move phone now occurrence
      (phone.hearInvite now membership signal.sender signal.sentAt invite) := by
  by_cases refused : signal.sender = membership.localUser ∨
      phone.isStale now signal.sentAt invite = true
  · have same : phone.hearInvite now membership signal.sender signal.sentAt invite = phone := by
      simp [hearInvite, refused]
    rw [same]
    refine .still ?_
    simp [idle]
  · rw [not_or, Bool.not_eq_true] at refused
    rw [hearInvite_eq refused.1 refused.2]
    exact .rang idle heard message refused.1 refused.2

theorem move_hearOwnDevice {occurrence : Occurrence} {membership : Membership} {signal : Signal}
    {call : Call ε} (coherent : phone.Coherent) (current : phone.call = some call)
    (heard : occurrence.signal? = some (membership, signal))
    (own : signal.sender = call.localUser) :
    Move phone now occurrence (phone.hearOwnDevice call signal.message) := by
  have still : Move phone now occurrence phone := by
    refine .still ?_
    intro other otherCurrent
    rw [current, Option.some.injEq] at otherCurrent
    subst otherCurrent
    apply Call.admitted_eq_nil_of_heard
    simp [Call.heard?, heard, own, (coherent.apart current).symm]
  cases message : signal.message with
  | invite | candidates | negotiate => exact still
  | answer answer =>
      simp only [hearOwnDevice]
      split
      · rename_i incoming
        have still : (phone.announce (.answeredElsewhere call.id)).call = some call := current
        rw [endCall_eq still]
        exact .ended current (.answeredElsewhere heard message own incoming)
      · exact still
  | hangup content => exact move_endCall current (.hungUpElsewhere heard message)

/-- Candidates are handed over if the call is established or was accepted. -/
theorem hearCandidates_live {call : Call ε} {negotiation : Negotiation ε} {side : Role}
    (opened : call.negotiation = some negotiation) (runs : negotiation.Runs side)
    (established : phone.phase = .active ∨ call.accepted = true) (batch : CandidateBatch) :
    phone.hearCandidates call batch =
      phone.keep call (negotiation.addRemoteCandidates batch.candidates) := by
  simp [hearCandidates, opened, Option.filter, runs.pipeline, established,
    Negotiation.acceptCandidates_running runs]

/-- Candidates for a call that rings are held back. -/
theorem hearCandidates_incoming {call : Call ε} (incoming : phone.phase = .incoming)
    (unopened : call.negotiation = none) (batch : CandidateBatch) :
    phone.hearCandidates call batch = { phone with call := some (call.holding batch) } := by
  simp [hearCandidates, unopened, incoming, Call.holding]

/-- Candidates for a call that goes out are held back, and the answer may have waited for them. -/
theorem hearCandidates_outgoing {call : Call ε} (outgoing : phone.phase = .outgoing)
    (unaccepted : call.accepted = false) (batch : CandidateBatch) :
    phone.hearCandidates call batch =
      ({ phone with call := some (call.holding batch) } : Phone ε).tryAnswer := by
  have dead : (call.negotiation.filter fun negotiation =>
      negotiation.hasPipeline && (phone.phase = .active || call.accepted)) = none := by
    simp [outgoing, unaccepted]
  unfold hearCandidates
  rw [dead]
  exact if_pos outgoing

theorem move_hearCandidates {occurrence : Occurrence} {call : Call ε} {batch : CandidateBatch}
    (coherent : phone.Coherent) (current : phone.call = some call)
    (heard : call.heard? occurrence = some (.candidates batch))
    (admits : call.admits batch.party = true) :
    Move phone now occurrence (phone.hearCandidates call batch) := by
  have stands := coherent.stands current
  generalize phase : phone.phase = stage at stands
  cases stands with
  | ringing unopened | awaitingAnswer unopened =>
      rw [hearCandidates_incoming phase unopened]
      exact .held current heard admits phase unopened
  | answering opened runs _ accepted =>
      rw [hearCandidates_live opened runs (.inr accepted)]
      exact .handed current opened heard admits (by simp [phase])
  | awaitingOffer _ unaccepted | offering _ _ unaccepted =>
      rw [hearCandidates_outgoing phase unaccepted]
      exact .gathered current heard admits phase (settles_tryAnswer rfl phase)
  | established opened runs =>
      rw [hearCandidates_live opened runs (.inl phase)]
      exact .handed current opened heard admits (by simp [phase])

theorem move_hearAnswer {occurrence : Occurrence} {call : Call ε} {answer : Answer}
    (current : phone.call = some call)
    (heard : call.heard? occurrence = some (.answer answer))
    (admits : call.admits answer.party = true) :
    Move phone now occurrence (phone.hearAnswer call answer) := by
  unfold hearAnswer
  split
  · refine .still ?_
    intro other otherCurrent
    rw [current, Option.some.injEq] at otherCurrent
    subst otherCurrent
    apply Call.admitted_eq_nil_of_heard
    simp [heard]
  · rename_i allowed
    simp only [ne_eq, Bool.or_eq_true, decide_eq_true_eq, not_or, Decidable.not_not,
      Option.not_isSome_iff_eq_none] at allowed
    rcases allowed with ⟨outgoing, unanswered⟩
    exact .answered current heard admits outgoing unanswered (settles_tryAnswer rfl outgoing)

theorem move_hearNegotiate {occurrence : Occurrence} {call : Call ε} {content : Renegotiation}
    (current : phone.call = some call)
    (heard : call.heard? occurrence = some (.negotiate content))
    (admits : call.admits content.party = true) :
    Move phone now occurrence (phone.hearNegotiate call content) := by
  unfold hearNegotiate
  split
  · rename_i negotiation active opened
    exact .renegotiated current opened heard admits active
  · refine .still ?_
    intro other otherCurrent
    rw [current, Option.some.injEq] at otherCurrent
    subst otherCurrent
    apply Call.admitted_eq_nil_of_heard
    simp [heard]

omit [MediaEngine ε] in
/-- A message that is not a hangup comes from a foreign party exactly when its party is not
listened to. -/
theorem isForeignParty_eq (call : Call ε) {message : Message} (stays : isHangup message = false) :
    isForeignParty call message = !call.admits message.party := by
  unfold isForeignParty Call.admits
  cases call.remoteParty <;> cases message.party <;> simp [stays, eq_comm]

theorem move_hearRemote {occurrence : Occurrence} {membership : Membership} {signal : Signal}
    {call : Call ε} (coherent : phone.Coherent) (current : phone.call = some call)
    (signalled : occurrence.signal? = some (membership, signal))
    (heard : call.heard? occurrence = some signal.message)
    (own : isForeignParty call signal.message = false) :
    Move phone now occurrence (phone.hearRemote call signal.message) := by
  cases message : signal.message with
  | hangup content => exact move_endCall current (.hungUpElsewhere signalled message)
  | invite content =>
      refine .still ?_
      intro other otherCurrent
      rw [current, Option.some.injEq] at otherCurrent
      subst otherCurrent
      apply Call.admitted_eq_nil_of_heard
      simp [heard, message]
  | candidates content =>
      rw [message] at heard own
      rw [isForeignParty_eq call rfl, Bool.not_eq_false'] at own
      exact move_hearCandidates coherent current heard own
  | answer content =>
      rw [message] at heard own
      rw [isForeignParty_eq call rfl, Bool.not_eq_false'] at own
      exact move_hearAnswer current heard own
  | negotiate content =>
      rw [message] at heard own
      rw [isForeignParty_eq call rfl, Bool.not_eq_false'] at own
      exact move_hearNegotiate current heard own

theorem move_hearInCall {occurrence : Occurrence} {membership : Membership} {signal : Signal}
    {call : Call ε} (coherent : phone.Coherent) (current : phone.call = some call)
    (signalled : occurrence.signal? = some (membership, signal)) :
    Move phone now occurrence (phone.hearInCall call membership signal) := by
  have deaf (silent : call.admitted occurrence = []) : Move phone now occurrence phone := by
    refine .still ?_
    intro other otherCurrent
    rw [current, Option.some.injEq] at otherCurrent
    exact otherCurrent ▸ silent
  have unheard (other : signal.message.call ≠ call.id ∨ membership.room ≠ call.room ∨
      signal.sender ≠ call.remoteUser) : call.admitted occurrence = [] := by
    apply Call.admitted_eq_nil_of_heard
    intro batch
    simp only [Call.heard?, signalled]
    split
    · rename_i addressed
      rcases addressed with ⟨sameCall, sameRoom, sameSender⟩
      simp [sameCall, sameRoom, sameSender] at other
    · simp
  unfold hearInCall
  split
  · rename_i elsewhere
    simp only [ne_eq, Bool.or_eq_true, decide_eq_true_eq] at elsewhere
    apply deaf
    apply unheard
    rcases elsewhere with call' | room
    · exact .inl (Ne.symm call')
    · exact .inr (.inl (Ne.symm room))
  · rename_i here
    simp only [ne_eq, Bool.or_eq_true, decide_eq_true_eq, not_or, Decidable.not_not] at here
    rcases here with ⟨sameCall, sameRoom⟩
    split
    · rename_i origin
      apply deaf
      apply unheard
      right; right
      rw [sender_of_own origin (by simp)]
      exact (coherent.apart current).symm
    · rename_i origin
      exact move_hearOwnDevice coherent current signalled (sender_of_own origin (by simp))
    · split
      · rename_i refused
        simp only [ne_eq, Bool.or_eq_true, decide_eq_true_eq] at refused
        apply deaf
        by_cases sender : signal.sender = call.remoteUser
        · have foreign : isForeignParty call signal.message = true := by
            rcases refused with other | foreign
            · exact absurd sender other
            · exact foreign
          have heard : call.heard? occurrence = some signal.message := by
            simp [Call.heard?, signalled, sameCall, sameRoom, sender]
          have stays : isHangup signal.message = false := by
            unfold isForeignParty at foreign
            split at foreign
            · simp only [Bool.and_eq_true, Bool.not_eq_true'] at foreign
              exact foreign.1
            · simp at foreign
          rw [isForeignParty_eq call stays, Bool.not_eq_true'] at foreign
          exact Call.admitted_eq_nil_of_foreign heard foreign
        · exact unheard (.inr (.inr sender))
      · rename_i accepted
        simp only [ne_eq, Bool.or_eq_true, decide_eq_true_eq, not_or, Decidable.not_not,
          Bool.not_eq_true] at accepted
        rcases accepted with ⟨sender, own⟩
        have heard : call.heard? occurrence = some signal.message := by
          simp [Call.heard?, signalled, sameCall, sameRoom, sender]
        exact move_hearRemote coherent current signalled heard own

theorem move_hear {occurrence : Occurrence} {membership : Membership} {signal : Signal}
    (coherent : phone.Coherent) (signalled : occurrence.signal? = some (membership, signal)) :
    Move phone now occurrence (phone.hear now membership signal) := by
  unfold hear
  cases current : phone.call with
  | some call => exact move_hearInCall coherent current signalled
  | none =>
      cases message : signal.message with
      | invite invite => exact move_hearInvite current signalled message
      | candidates | answer | negotiate | hangup =>
          refine .still ?_
          simp [current]

/-- Whatever happens to a coherent phone, the phone after it is given by a move. -/
theorem move_after (coherent : phone.Coherent) (now : Instant) (occurrence : Occurrence) :
    Move phone now occurrence (phone.after now occurrence) := by
  cases occurrence with
  | event membership carrier =>
      change Move phone now _ (phone.hearEvent now membership carrier)
      unfold hearEvent
      cases carried : Signal.ofEvent carrier with
      | ok signal =>
          apply move_hear coherent
          simp [Occurrence.signal?, carried, Except.toOption]
      | error =>
          apply move_still
          simp [Occurrence.signal?, carried, Except.toOption]
  | signal membership content => exact move_hear coherent rfl
  | startCall membership => exact move_startCall coherent membership
  | accept => exact move_accept
  | hangUp => exact move_hangUp
  | ignore => exact move_ignore coherent
  | setMuted muted => exact move_setMuted muted
  | toggleCamera => exact move_toggleCamera
  | relayRefreshed outcome => exact move_relayRefreshed coherent outcome
  | inviteExpired expired => exact move_inviteExpired expired
  | callback session content => exact move_hearEngine coherent session content
  | plug change => exact .plugged rfl

end RoomCall.Phone
