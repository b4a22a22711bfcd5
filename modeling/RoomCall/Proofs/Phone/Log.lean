import RoomCall.Proofs.Phone.Handling

/-!
# What a phone does without its log

A phone writes its log and never reads it. So it does not matter what stands in the log already:
entries that come before it are still there afterwards, and nothing else changes. The owner may take
the log at any time.
-/

namespace RoomCall.Phone

variable {ε : Type} {phone : Phone ε}

/-- The phone with some entries that come before those in its log. -/
def preceded (phone : Phone ε) (earlier : List LogEntry) : Phone ε :=
  { phone with log := earlier ++ phone.log }

variable (earlier : List LogEntry)

/-- An entry is written the same way whatever was written before. -/
theorem record_preceded (entry : LogEntry) :
    (phone.preceded earlier).record entry = (phone.record entry).preceded earlier := by
  simp [record, preceded]

theorem setPhase_preceded (phase : Phase) :
    (phone.preceded earlier).setPhase phase = (phone.setPhase phase).preceded earlier := by
  simp [setPhase_eq, preceded]

theorem setRoster_preceded (roster : Roster) :
    (phone.preceded earlier).setRoster roster = (phone.setRoster roster).preceded earlier := by
  simp [setRoster_eq, preceded]

theorem requestRelay_preceded :
    (phone.preceded earlier).requestRelay = phone.requestRelay.preceded earlier := by
  simp [requestRelay_eq, preceded]

theorem keep_preceded (call : Call ε) (negotiation : Negotiation ε) :
    (phone.preceded earlier).keep call negotiation =
      (phone.keep call negotiation).preceded earlier := by
  simp [keep_eq, preceded]

variable [MediaEngine ε]

/-! ## The course of a call -/

theorem endCall_preceded (ending : Ending) (cause : Option HangupCause) :
    (phone.preceded earlier).endCall ending cause =
      (phone.endCall ending cause).preceded earlier := by
  cases current : phone.call with
  | none =>
      have idle : (phone.preceded earlier).call = none := current
      rw [endCall_none current, endCall_none idle]
  | some call =>
      have there : (phone.preceded earlier).call = some call := current
      rw [endCall_eq current, endCall_eq there]
      simp [ended, preceded, farewell, style]

theorem created_preceded (call : Call ε) (description : String) (candidates : List Candidate)
    (side : Role) :
    (phone.preceded earlier).applyNotice call (side.created description candidates) =
      (phone.applyNotice call (side.created description candidates)).preceded earlier := by
  rw [applyNotice_created, applyNotice_created]
  cases side <;> simp [described, preceded, remainingNames, descriptionEntries, inviteEntries,
    answerEntries, style, inviteLifetime]

theorem applyNotice_preceded (call : Call ε) (notice : Notice) :
    (phone.preceded earlier).applyNotice call notice =
      (phone.applyNotice call notice).preceded earlier := by
  cases notice with
  | progressChanged stage => exact record_preceded earlier _
  | offerCreated description candidates =>
      exact created_preceded earlier call description candidates .offering
  | answerCreated description candidates =>
      exact created_preceded earlier call description candidates .answering
  | renegotiate description kind =>
      simp [applyNotice, sendNegotiate_eq, preceded, style, inviteLifetime]
  | remoteVideo user => exact setRoster_preceded earlier _
  | failed ending => exact endCall_preceded earlier ending _

theorem applyNotices_preceded (notices : List Notice) :
    (phone.preceded earlier).applyNotices notices =
      (phone.applyNotices notices).preceded earlier := by
  induction notices generalizing phone with
  | nil => rfl
  | cons notice later ih =>
      have same : (phone.preceded earlier).call = phone.call := rfl
      simp only [applyNotices, same]
      cases phone.call with
      | none => rfl
      | some call =>
          dsimp only
          rw [applyNotice_preceded, ih]

theorem openNegotiation_preceded (side : Role) :
    (phone.preceded earlier).openNegotiation side =
      (phone.openNegotiation side).preceded earlier := by
  cases current : phone.call with
  | none => simp [openNegotiation, preceded, current]
  | some call =>
      have there : (phone.preceded earlier).call = some call := current
      have opening : (phone.preceded earlier).opening call side = phone.opening call side := rfl
      have kept := @keep_preceded ε { phone with nextSession := phone.nextSession + 1 } earlier
        (call.handOver side) (phone.opening call side).1
      rw [openNegotiation_eq current, openNegotiation_eq there, opening]
      cases outcome : (phone.opening call side).2 with
      | ok notices =>
          have opens := congrArg (fun phone => phone.applyNotices notices) kept
          exact opens.trans (applyNotices_preceded earlier notices)
      | error error =>
          have fails := congrArg (fun phone => (phone.announce (.failure error.message)).endCall
            (startFailure error) (some .userMediaFailed)) kept
          refine fails.trans ?_
          rw [announce, record_preceded, endCall_preceded]
          rfl

theorem openOrDefer_preceded (now : Instant) (side : Role) :
    (phone.preceded earlier).openOrDefer now side =
      (phone.openOrDefer now side).preceded earlier := by
  have relay : (phone.preceded earlier).relay = phone.relay := rfl
  have same : (phone.preceded earlier).call = phone.call := rfl
  unfold openOrDefer
  rw [relay, same]
  split
  · exact openNegotiation_preceded earlier side
  · cases phone.call with
    | none => rfl
    | some call =>
        exact @requestRelay_preceded ε { phone with
          call := some { call with deferred := some side } } earlier

theorem resume_preceded :
    (phone.preceded earlier).resume = phone.resume.preceded earlier := by
  have same : (phone.preceded earlier).call = phone.call := rfl
  have phase : (phone.preceded earlier).phase = phone.phase := rfl
  unfold resume
  rw [same, phase]
  cases phone.call with
  | none => rfl
  | some call =>
      dsimp only
      split
      · exact @openNegotiation_preceded ε { phone with
          call := some { call with deferred := none } } earlier _ .offering
      · exact @openNegotiation_preceded ε { phone with
          call := some { call with deferred := none } } earlier _ .answering
      · rfl

/-! ## Signals -/

omit [MediaEngine ε] in
theorem hearInvite_preceded (now : Instant) (membership : Membership) (sender : UserId)
    (sentAt : Instant) (invite : Invite) :
    (phone.preceded earlier).hearInvite now membership sender sentAt invite =
      (phone.hearInvite now membership sender sentAt invite).preceded earlier := by
  have stale : (phone.preceded earlier).isStale now sentAt invite =
      phone.isStale now sentAt invite := rfl
  by_cases deaf : sender = membership.localUser ∨ phone.isStale now sentAt invite = true
  · simp [hearInvite, stale, deaf]
  · rw [not_or, Bool.not_eq_true] at deaf
    have heard (other : Phone ε) (fresh : other.isStale now sentAt invite = false) :
        other.hearInvite now membership sender sentAt invite =
          other.ringing now membership sender invite :=
      @hearInvite_eq ε other now membership ⟨sender, sentAt, .invite invite⟩ invite deaf.1 fresh
    rw [heard _ deaf.2, heard _ (stale.trans deaf.2)]
    simp [ringing, ringingCall, preceded]

theorem tryAnswer_preceded :
    (phone.preceded earlier).tryAnswer = phone.tryAnswer.preceded earlier := by
  have same : (phone.preceded earlier).call = phone.call := rfl
  have phase : (phone.preceded earlier).phase = phone.phase := rfl
  have applies (call : Call ε) (negotiation : Negotiation ε) (answer : String) :
      (phone.preceded earlier).applyAnswer call negotiation answer =
        (phone.applyAnswer call negotiation answer).preceded earlier := by
    unfold applyAnswer
    dsimp only
    rw [keep_preceded]
    split
    · rw [order, record_preceded, setPhase_preceded]
      rfl
    · exact endCall_preceded earlier _ _
  unfold tryAnswer
  rw [same, phase]
  split
  · split
    · split
      · exact applies _ _ _
      · rfl
    · rfl
  · rfl

theorem hearCandidates_preceded (call : Call ε) (batch : CandidateBatch) :
    (phone.preceded earlier).hearCandidates call batch =
      (phone.hearCandidates call batch).preceded earlier := by
  have phase : (phone.preceded earlier).phase = phone.phase := rfl
  unfold hearCandidates
  dsimp only
  rw [phase]
  split
  · exact keep_preceded earlier _ _
  · split
    · exact @tryAnswer_preceded ε { phone with call := some (call.holding batch) } earlier _
    · rfl

theorem hearAnswer_preceded (call : Call ε) (answer : Answer) :
    (phone.preceded earlier).hearAnswer call answer =
      (phone.hearAnswer call answer).preceded earlier := by
  have phase : (phone.preceded earlier).phase = phone.phase := rfl
  unfold hearAnswer
  rw [phase]
  split
  · rfl
  · exact @tryAnswer_preceded ε { phone with call := some (call.answeredBy answer) } earlier _

theorem hearNegotiate_preceded (call : Call ε) (content : Renegotiation) :
    (phone.preceded earlier).hearNegotiate call content =
      (phone.hearNegotiate call content).preceded earlier := by
  have phase : (phone.preceded earlier).phase = phone.phase := rfl
  unfold hearNegotiate
  rw [phase]
  split
  · exact keep_preceded earlier _ _
  · rfl

theorem hearRemote_preceded (call : Call ε) (message : Message) :
    (phone.preceded earlier).hearRemote call message =
      (phone.hearRemote call message).preceded earlier := by
  cases message with
  | invite => rfl
  | candidates batch => exact hearCandidates_preceded earlier call batch
  | answer answer => exact hearAnswer_preceded earlier call answer
  | negotiate content => exact hearNegotiate_preceded earlier call content
  | hangup => exact endCall_preceded earlier _ _

theorem hearOwnDevice_preceded (call : Call ε) (message : Message) :
    (phone.preceded earlier).hearOwnDevice call message =
      (phone.hearOwnDevice call message).preceded earlier := by
  have phase : (phone.preceded earlier).phase = phone.phase := rfl
  cases message with
  | answer =>
      simp only [hearOwnDevice, phase]
      split
      · rw [announce, record_preceded, endCall_preceded]
        rfl
      · rfl
  | hangup => exact endCall_preceded earlier _ _
  | invite | candidates | negotiate => rfl

/-- A signal is heard the same way whatever was written before. -/
theorem hear_preceded (now : Instant) (membership : Membership) (signal : Signal) :
    (phone.preceded earlier).hear now membership signal =
      (phone.hear now membership signal).preceded earlier := by
  have same : (phone.preceded earlier).call = phone.call := rfl
  unfold hear
  rw [same]
  cases phone.call with
  | none =>
      dsimp only
      split
      · exact hearInvite_preceded earlier _ _ _ _ _
      · rfl
  | some call =>
      dsimp only
      unfold hearInCall
      split
      · rfl
      · split
        · rfl
        · exact hearOwnDevice_preceded earlier call _
        · split
          · rfl
          · exact hearRemote_preceded earlier call _

/-! ## What the user and the owner ask -/

theorem startCall_preceded (now : Instant) (membership : Membership) :
    (phone.preceded earlier).startCall now membership =
      ((phone.startCall now membership).1.preceded earlier,
        (phone.startCall now membership).2) := by
  have phase : (phone.preceded earlier).phase = phone.phase := rfl
  have missing : (phone.preceded earlier).missing = phone.missing := rfl
  unfold startCall
  rw [phase, missing]
  split
  · rfl
  · split
    · rfl
    · split
      · rfl
      · rename_i callee _ _
        have dials := @setPhase_preceded ε { phone with
          call := some (phone.dialedCall now membership callee)
          callTokens := phone.callTokens.draw.2
          partyNames := phone.partyNames.draw.2 } earlier .outgoing
        have starts := congrArg (fun dialing => dialing.openOrDefer now .offering) dials
        exact congrArg (·, _) (starts.trans (openOrDefer_preceded earlier now .offering))

theorem accept_preceded (now : Instant) :
    (phone.preceded earlier).accept now =
      ((phone.accept now).1.preceded earlier, (phone.accept now).2) := by
  have same : (phone.preceded earlier).call = phone.call := rfl
  have phase : (phone.preceded earlier).phase = phone.phase := rfl
  unfold accept
  rw [same, phase]
  cases phone.call with
  | none => rfl
  | some call =>
      dsimp only
      split
      · rfl
      · split
        · rw [endCall_preceded]
        · have accepts := @record_preceded ε { phone with
            call := some { call with accepted := true } } earlier (.errand .cancelTimer)
          have starts := congrArg (fun accepted => accepted.openOrDefer now .answering) accepts
          exact congrArg (·, _) (starts.trans (openOrDefer_preceded earlier now .answering))

theorem ignore_preceded :
    (phone.preceded earlier).ignore = (phone.ignore.1.preceded earlier, phone.ignore.2) := by
  have same : (phone.preceded earlier).call = phone.call := rfl
  have phase : (phone.preceded earlier).phase = phone.phase := rfl
  unfold ignore
  rw [same, phase]
  split
  · rfl
  · rw [endCall_preceded]

theorem setMuted_preceded (muted : Bool) :
    (phone.preceded earlier).setMuted muted =
      ((phone.setMuted muted).1.preceded earlier, (phone.setMuted muted).2) := by
  have same : (phone.preceded earlier).call = phone.call := rfl
  have negotiation : (phone.preceded earlier).negotiation? = phone.negotiation? := rfl
  unfold setMuted
  rw [same, negotiation]
  split
  · dsimp only
    rw [keep_preceded]
    split
    · rw [announce, record_preceded]
      rfl
    · rfl
  · rfl

theorem toggleCamera_preceded :
    (phone.preceded earlier).toggleCamera =
      (phone.toggleCamera.1.preceded earlier, phone.toggleCamera.2) := by
  have same : (phone.preceded earlier).call = phone.call := rfl
  have negotiation : (phone.preceded earlier).negotiation? = phone.negotiation? := rfl
  unfold toggleCamera
  rw [same, negotiation]
  split
  · dsimp only
    rw [keep_preceded]
  · rfl

theorem inviteExpired_preceded (expired : CallId) :
    (phone.preceded earlier).inviteExpired expired =
      (phone.inviteExpired expired).preceded earlier := by
  have same : (phone.preceded earlier).call = phone.call := rfl
  have phase : (phone.preceded earlier).phase = phone.phase := rfl
  unfold inviteExpired
  rw [same, phase]
  cases phone.call with
  | none => rfl
  | some call =>
      dsimp only
      split
      · rfl
      · split
        · split
          · rfl
          · exact endCall_preceded earlier _ _
        · exact endCall_preceded earlier _ _
        · rfl

theorem hearEngine_preceded (session : SessionId) (callback : Engine.Callback) :
    (phone.preceded earlier).hearEngine session callback =
      (phone.hearEngine session callback).preceded earlier := by
  have same : (phone.preceded earlier).call = phone.call := rfl
  have negotiation : (phone.preceded earlier).negotiation? = phone.negotiation? := rfl
  unfold hearEngine
  rw [same, negotiation]
  split
  · split
    · dsimp only
      rw [keep_preceded, applyNotices_preceded]
    · rfl
  · rfl

/-- What a phone replies and does does not depend on what stands in its log already. -/
theorem handle_preceded (now : Instant) (occurrence : Occurrence) :
    (phone.preceded earlier).handle now occurrence =
      ((phone.handle now occurrence).1.preceded earlier, (phone.handle now occurrence).2) := by
  cases occurrence with
  | event membership event =>
      cases read : Signal.ofEvent event with
      | ok signal => simp [handle, hearEvent, read, hear_preceded]
      | error => simp [handle, hearEvent, read]
  | signal => simp [handle, hear_preceded]
  | startCall => simp [handle, startCall_preceded]
  | accept => simp [handle, accept_preceded]
  | hangUp => simp [handle, hangUp, endCall_preceded]
  | ignore => simp [handle, ignore_preceded]
  | setMuted => simp [handle, setMuted_preceded]
  | toggleCamera => simp [handle, toggleCamera_preceded]
  | relayRefreshed outcome =>
      have resumes := @resume_preceded ε (phone.refreshed now outcome) earlier _
      simp only [handle, relayRefreshed_eq]
      exact congrArg (·, _) resumes
  | inviteExpired => simp [handle, inviteExpired_preceded]
  | callback => simp [handle, hearEngine_preceded]
  | plug => rfl

end RoomCall.Phone
