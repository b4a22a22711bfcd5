import RoomCall.Proofs.Negotiation.Streams
import RoomCall.Proofs.Phone.Chronicle

/-!
# Whose video an established call shows

All remote streams of a call were announced by the user on the other side, and once the call is
established that user is known. So it does not matter which of the streams are known, and
`Phone.withStreams`, a phone that knows other ones, cannot be told from the phone itself.
-/

namespace RoomCall

variable {ε : Type}

/-- All remote streams of a call in some phase belong to the user on the other side, who is known
unless an answer is awaited. -/
def Call.Attributed (phase : Phase) (call : Call ε) : Prop :=
  ∀ negotiation, call.negotiation = some negotiation →
    negotiation.Credits call.remoteUser ∧
      (phase ≠ .outgoing → negotiation.Faces call.remoteUser)

namespace Phone

/-- The streams of the current call belong to the other side. -/
def Attributed (phone : Phone ε) : Prop :=
  ∀ call, phone.call = some call → call.Attributed phone.phase

variable {phone after : Phone ε} {call : Call ε} {side : Role} {negotiation asked : Negotiation ε}

theorem attributed_of_call (call : Call ε) (current : phone.call = some call)
    (attributed : call.Attributed phone.phase) : phone.Attributed := by
  intro other there
  rw [current, Option.some.injEq] at there
  exact there ▸ attributed

theorem attributed_of_idle (idle : phone.call = none) : phone.Attributed := by
  simp [Attributed, idle]

theorem attributed_of_unopened {phase : Phase} (unopened : call.negotiation = none) :
    call.Attributed phase := by
  simp [Call.Attributed, unopened]

theorem attributed_of_faces {phase : Phase} (opened : call.negotiation = some negotiation)
    (faces : negotiation.Faces call.remoteUser) : call.Attributed phase := by
  intro other there
  rw [opened, Option.some.injEq] at there
  exact there ▸ ⟨faces.credits, fun _ => faces⟩

/-- An operation that learns nothing of the other side leaves the streams where they belong. -/
theorem attributed_keeping {phase : Phase} (attributed : call.Attributed phase)
    (opened : call.negotiation = some negotiation)
    (same : asked.attribution = negotiation.attribution) :
    (call.keeping asked).Attributed phase := by
  rcases attributed negotiation opened with ⟨credits, faces⟩
  rintro other ⟨⟩
  exact ⟨credits.congr same, fun known => (faces known).congr same⟩

variable [MediaEngine ε]

theorem attributed_of_opens (opens : phone.Opens call side after)
    (fits : side = .offering → phone.phase = .outgoing) : after.Attributed := by
  cases opens with
  | refused => exact attributed_of_idle rfl
  | @opened negotiation opened id outcome =>
      refine attributed_of_call ((call.handOver side).keeping negotiation) rfl ?_
      cases side with
      | offering =>
          have credits : negotiation.Credits call.remoteUser := by
            have started : _ = negotiation := congrArg Prod.fst outcome
            rw [← started]
            exact Negotiation.credits_start rfl (by simp [Negotiation.Credits]) _
          rintro other ⟨⟩
          exact ⟨credits.congr rfl, absurd (fits rfl)⟩
      | answering =>
          have faces : negotiation.Faces call.remoteUser :=
            Negotiation.faces_acceptOffer rfl (by simp [Negotiation.Credits]) outcome
          exact attributed_of_faces rfl (faces.congr rfl)

theorem attributed_of_starts (starts : phone.Starts call side after)
    (fits : side = .offering → phone.phase = .outgoing) (unopened : call.negotiation = none) :
    after.Attributed := by
  cases starts with
  | opens opens => exact attributed_of_opens opens fits
  | waits => exact attributed_of_call _ rfl (attributed_of_unopened unopened)

/-- An answer that is taken gives its streams to the other side. -/
theorem attributed_of_settles (settles : phone.Settles call after)
    (current : phone.call = some call) (attributed : call.Attributed phone.phase) :
    after.Attributed := by
  cases settles with
  | waits => exact attributed_of_call call current attributed
  | refused => exact attributed_of_idle rfl
  | @applied answer negotiation answered opened =>
      have faces := Negotiation.faces_applyRemote (attributed negotiation opened).1 answer .answer
      refine attributed_of_call (call.emptied.keeping _) rfl (attributed_of_faces rfl ?_)
      exact (faces.congr (Negotiation.attribution_addRemoteCandidates _)).congr rfl

/-- The streams of a call stay with the other side when the phone reacts to a callback. -/
theorem attributed_of_reacts {callback : Engine.Callback}
    (reacts : phone.Reacts call side negotiation (negotiation.handle callback).1 after)
    (coherent : phone.Coherent) (current : phone.call = some call)
    (opened : call.negotiation = some negotiation) (runs : negotiation.Runs side)
    (attributed : call.Attributed phone.phase) : after.Attributed := by
  have kept : (call.keeping (negotiation.handle callback).1).Attributed phone.phase :=
    attributed_keeping attributed opened (Negotiation.attribution_handle callback)
  cases reacts with
  | broken | lost | reportedLost => exact attributed_of_idle rfl
  | moved => exact attributed_of_call _ rfl kept
  | renegotiated =>
      rw [sendNegotiate_eq]
      exact attributed_of_call _ rfl kept
  | watched =>
      rw [setRoster_eq]
      exact attributed_of_call _ rfl kept
  | reported _ silent =>
      refine attributed_of_call (call.keeping (negotiation.handle callback).1) rfl ?_
      rcases phase_of_silent coherent current opened runs silent with
        ⟨rfl, -⟩ | ⟨rfl, incoming, -⟩
      · exact kept
      -- The answer establishes the call, and the other side was known when its offer was applied.
      · intro other there
        rcases kept other there with ⟨credits, faces⟩
        exact ⟨credits, fun _ => faces (by simp [incoming])⟩

/-- Every move leaves the streams of a call with the other side. -/
theorem attributed_of_move {now : Instant} {occurrence : Occurrence}
    (move : phone.Move now occurrence after) (coherent : phone.Coherent)
    (attributed : phone.Attributed) : after.Attributed := by
  cases move with
  | still | plugged | refreshed => exact attributed
  | @resumed outcome call side after is current deferred opens =>
      refine attributed_of_opens opens ?_
      rintro rfl
      rcases (coherent.stands current).deferred_cases deferred with ⟨-, outgoing⟩ | ⟨other, -⟩
      · exact outgoing
      · cases other
  | rang => exact attributed_of_call _ rfl (attributed_of_unopened rfl)
  | dialed is idle known capable starts => exact attributed_of_starts starts (fun _ => rfl) rfl
  | @accepted call after is current incoming unaccepted compatible starts =>
      have unopened := (rings_of_unaccepted coherent current incoming unaccepted).1
      exact attributed_of_starts starts (by simp) unopened
  | ended => exact attributed_of_idle rfl
  | @held call batch current =>
      exact attributed_of_call (call.holding batch) rfl (attributed call current)
  | @gathered call batch after current heard admits outgoing settles =>
      exact attributed_of_settles settles rfl (attributed call current)
  | @answered call answer after current heard admits outgoing unanswered settles =>
      have before := attributed call current
      refine attributed_of_settles settles rfl ?_
      unfold Call.answeredBy bindParty
      cases answer.party <;> exact before
  | handed current opened =>
      exact attributed_of_call _ rfl (attributed_keeping (attributed _ current) opened
        (Negotiation.attribution_addRemoteCandidates _))
  | @renegotiated call negotiation content current opened heard admits active =>
      have faces := (attributed call current negotiation opened).2 (by simp [active])
      refine attributed_of_call (call.keeping _) rfl (attributed_of_faces rfl ?_)
      exact (Negotiation.faces_renegotiate faces content.description content.isAnswer).congr rfl
  | muted is current opened =>
      exact attributed_of_call _ rfl (attributed_keeping (attributed _ current) opened
        (Negotiation.attribution_setMuted _))
  | toggled is current opened =>
      exact attributed_of_call _ rfl (attributed_keeping (attributed _ current) opened
        Negotiation.attribution_toggleCamera)
  | reacted is current opened runs reacts =>
      exact attributed_of_reacts reacts coherent current opened runs (attributed _ current)

/-- In every phone that has lived the streams of its call belong to the other side. -/
theorem attributed_of_lived {chronicle : Chronicle} (lived : phone.Lived chronicle) :
    phone.Attributed := by
  induction lived with
  | new new => exact attributed_of_idle new.call
  | after lived now occurrence attributed =>
      have coherent := coherent_of_lived lived
      exact attributed_of_move (move_after coherent now occurrence) coherent attributed
  | read lived rest attributed => exact attributed

end Phone

/-! ## Other owners of the streams -/

/-- The call with other owners of the remote streams. -/
def Call.withStreams (call : Call ε) (streams : List (String × UserId)) : Call ε :=
  { call with
    negotiation := call.negotiation.map fun negotiation => negotiation.withStreams streams }

namespace Phone

/-- The phone with other owners of the remote streams. -/
def withStreams (phone : Phone ε) (streams : List (String × UserId)) : Phone ε :=
  { phone with call := phone.call.map fun call => call.withStreams streams }

variable {phone : Phone ε} {call : Call ε} (streams : List (String × UserId))

theorem withStreams_of_idle (idle : phone.call = none) : phone.withStreams streams = phone := by
  unfold withStreams
  rw [idle, Option.map_none, ← idle]

theorem call_withStreams (current : phone.call = some call) :
    (phone.withStreams streams).call = some (call.withStreams streams) := by
  simp [withStreams, current]

theorem withStreams_known {negotiation : Negotiation ε}
    (current : phone.call = some call) (opened : call.negotiation = some negotiation) :
    phone.withStreams negotiation.remoteStreams = phone := by
  have negotiations : (call.negotiation.map fun other =>
      other.withStreams negotiation.remoteStreams) = call.negotiation := by
    rw [opened]
    rfl
  have calls : (phone.call.map fun other => other.withStreams negotiation.remoteStreams) =
      phone.call := by
    rw [current, Option.map_some, Call.withStreams, negotiations]
  unfold withStreams
  rw [calls]

theorem keep_withStreams (call : Call ε) (negotiation : Negotiation ε) :
    (phone.withStreams streams).keep (call.withStreams streams)
        (negotiation.withStreams streams) =
      (phone.keep call negotiation).withStreams streams := rfl

theorem setRoster_withStreams (roster : Roster) :
    (phone.withStreams streams).setRoster roster =
      (phone.setRoster roster).withStreams streams := by
  rw [setRoster_eq, setRoster_eq]
  rfl

variable [MediaEngine ε]

/-- A call that ends forgets its streams. -/
theorem withStreams_endCall (ending : Ending) (cause : Option HangupCause) :
    (phone.endCall ending cause).withStreams streams = phone.endCall ending cause := by
  cases current : phone.call with
  | none => rw [endCall_none current, withStreams_of_idle streams current]
  | some call =>
      rw [endCall_eq current]
      exact withStreams_of_idle streams rfl

/-- The end of a call leaves nothing of the streams. -/
theorem endCall_withStreams (ending : Ending) (cause : Option HangupCause) :
    (phone.withStreams streams).endCall ending cause =
      (phone.endCall ending cause).withStreams streams := by
  rw [withStreams_endCall]
  cases current : phone.call with
  | none => rw [withStreams_of_idle streams current]
  | some call =>
      have torn : (call.withStreams streams).negotiation.elim [] teardownEntries =
          call.negotiation.elim [] teardownEntries := by
        cases opened : call.negotiation with
        | none => simp [Call.withStreams, opened]
        | some negotiation =>
            have finished := negotiation.finish_withStreams streams
            simp only [Call.withStreams, opened, Option.map_some, Option.elim_some,
              teardownEntries, finished]
            rfl
      rw [endCall_eq current, endCall_eq (call_withStreams streams current)]
      unfold Phone.ended farewell
      rw [torn]
      rfl

theorem created_withStreams (call : Call ε) (description : String) (candidates : List Candidate)
    (side : Role) :
    (phone.withStreams streams).applyNotice (call.withStreams streams)
        (side.created description candidates) =
      (phone.applyNotice call (side.created description candidates)).withStreams streams := by
  rw [applyNotice_created, applyNotice_created]
  cases side <;> rfl

theorem applyNotice_withStreams (call : Call ε) (notice : Notice) :
    (phone.withStreams streams).applyNotice (call.withStreams streams) notice =
      (phone.applyNotice call notice).withStreams streams := by
  cases notice with
  | progressChanged | renegotiate => rfl
  | offerCreated description candidates =>
      exact created_withStreams streams call description candidates .offering
  | answerCreated description candidates =>
      exact created_withStreams streams call description candidates .answering
  | remoteVideo user => exact setRoster_withStreams streams _
  | failed ending => exact endCall_withStreams streams ending _

/-- What the notices of a negotiation lead to does not depend on the streams that it knows. -/
theorem applyNotices_withStreams (notices : List Notice) :
    (phone.withStreams streams).applyNotices notices =
      (phone.applyNotices notices).withStreams streams := by
  induction notices generalizing phone with
  | nil => rfl
  | cons notice later ih =>
      cases current : phone.call with
      | none =>
          have unheard : phone.applyNotices (notice :: later) = phone := by
            simp [applyNotices, current]
          rw [withStreams_of_idle streams current, unheard, withStreams_of_idle streams current]
      | some call =>
          rw [applyNotices_cons current, applyNotices_cons (call_withStreams streams current),
            applyNotice_withStreams, ih]

/-! ## Established calls -/

/-- A phone with an established call. The other side is known, and all streams are its own. -/
structure Talks (phone : Phone ε) (call : Call ε) (negotiation : Negotiation ε) : Prop where
  active : phone.phase = .active
  current : phone.call = some call
  opened : call.negotiation = some negotiation
  runs : ∃ side, negotiation.Runs side
  faces : negotiation.Faces call.remoteUser

omit [MediaEngine ε] in
/-- An active phone has an established call with the user on the other side. -/
theorem talks_of_active (active : phone.phase = .active) (coherent : phone.Coherent)
    (attributed : phone.Attributed) : ∃ call negotiation, phone.Talks call negotiation := by
  cases current : phone.call with
  | none => simp [coherent.phase_idle_iff.mpr current] at active
  | some call =>
      have stands := coherent.stands current
      rw [active] at stands
      cases stands with
      | @established _ negotiation side opened runs =>
          have faces := (attributed call current negotiation opened).2 (by simp [active])
          exact ⟨call, negotiation, active, current, opened, ⟨side, runs⟩, faces⟩

/-- An established call stays established until it ends. -/
theorem active_of_move {after : Phone ε} {now : Instant} {occurrence : Occurrence}
    (move : phone.Move now occurrence after) (coherent : phone.Coherent)
    (active : phone.phase = .active) : after.phase = .active ∨ after.call = none := by
  have calls : phone.call ≠ none := by
    intro idle
    simp [coherent.phase_idle_iff.mpr idle] at active
  cases move with
  | still | plugged | refreshed | handed | renegotiated | muted | toggled => exact .inl active
  | rang idle | dialed _ idle => exact absurd idle calls
  | ended => exact .inr rfl
  | resumed _ current deferred =>
      have phase := (coherent.stands current).deferred_cases deferred
      simp [active] at phase
  | accepted _ _ incoming | held _ _ _ incoming => simp [active] at incoming
  | gathered _ _ _ outgoing | answered _ _ _ outgoing => simp [active] at outgoing
  | @reacted call negotiation side callback after is current opened runs reacts =>
      cases reacts with
      | moved => exact .inl active
      | reported =>
          left
          change phaseAfterReport phone.phase side = .active
          rw [active]
          cases side <;> rfl
      | renegotiated =>
          rw [sendNegotiate_eq]
          exact .inl active
      | watched =>
          rw [setRoster_eq]
          exact .inl active
      | broken | lost | reportedLost => exact .inr rfl

section

variable {negotiation : Negotiation ε}

omit [MediaEngine ε] in
theorem Talks.withStreams {streams : List (String × UserId)} (talks : phone.Talks call negotiation)
    (faces : (negotiation.withStreams streams).Faces call.remoteUser) :
    (phone.withStreams streams).Talks (call.withStreams streams)
      (negotiation.withStreams streams) where
  active := talks.active
  current := by simp [Phone.withStreams, talks.current]
  opened := by simp [Call.withStreams, talks.opened]
  runs := talks.runs.imp fun _ runs => runs.congr rfl rfl rfl rfl
  faces := faces

variable (talks : phone.Talks call negotiation)
  (others : (phone.withStreams streams).Talks (call.withStreams streams)
    (negotiation.withStreams streams))

include talks others

theorem hearCandidates_withStreams (batch : CandidateBatch) :
    (phone.withStreams streams).hearCandidates (call.withStreams streams) batch =
      (phone.hearCandidates call batch).withStreams streams := by
  rcases talks.runs with ⟨side, runs⟩
  rcases others.runs with ⟨otherSide, otherRuns⟩
  rw [hearCandidates_live talks.opened runs (.inl talks.active),
    hearCandidates_live others.opened otherRuns (.inl others.active),
    Negotiation.addRemoteCandidates_withStreams, keep_withStreams]

theorem hearOwnDevice_withStreams (message : Message) :
    (phone.withStreams streams).hearOwnDevice (call.withStreams streams) message =
      (phone.hearOwnDevice call message).withStreams streams := by
  cases message with
  | answer => simp [hearOwnDevice, talks.active, others.active]
  | hangup => exact endCall_withStreams streams _ _
  | invite | candidates | negotiate => rfl

/-- What a message of the other side leads to depends on the known streams only by the streams that
are known then. -/
theorem hearRemote_withStreams (message : Message) :
    ∃ later, (phone.withStreams streams).hearRemote (call.withStreams streams) message =
      (phone.hearRemote call message).withStreams later := by
  cases message with
  | invite => exact ⟨streams, rfl⟩
  | candidates batch => exact ⟨streams, hearCandidates_withStreams streams talks others batch⟩
  | answer => exact ⟨streams, by simp [hearRemote, hearAnswer, talks.active, others.active]⟩
  | hangup => exact ⟨streams, endCall_withStreams streams _ _⟩
  | negotiate content =>
      rcases negotiation.renegotiate_withStreams streams content.description call.remoteUser
        content.isAnswer with ⟨later, same⟩
      refine ⟨later, ?_⟩
      simp only [hearRemote, hearNegotiate, talks.active, others.active, talks.opened,
        others.opened]
      exact congrArg (fun asked => (phone.withStreams streams).keep (call.withStreams streams)
        asked.1) same

theorem hearInCall_withStreams (membership : Membership) (signal : Signal) :
    ∃ later, (phone.withStreams streams).hearInCall (call.withStreams streams) membership signal =
      (phone.hearInCall call membership signal).withStreams later := by
  -- Whether a signal is for the call is judged by what the two calls have in common.
  have id : (call.withStreams streams).id = call.id := rfl
  have room : (call.withStreams streams).room = call.room := rfl
  have localUser : (call.withStreams streams).localUser = call.localUser := rfl
  have party : (call.withStreams streams).party = call.party := rfl
  have remoteUser : (call.withStreams streams).remoteUser = call.remoteUser := rfl
  have foreign : isForeignParty (call.withStreams streams) = isForeignParty call := rfl
  unfold hearInCall
  rw [id, room, localUser, party, remoteUser, foreign]
  split
  · exact ⟨streams, rfl⟩
  · split
    · exact ⟨streams, rfl⟩
    · exact ⟨streams, hearOwnDevice_withStreams streams talks others signal.message⟩
    · split
      · exact ⟨streams, rfl⟩
      · exact hearRemote_withStreams streams talks others signal.message

/-- What a signal leads to depends on the known streams only by the streams that are known then. -/
theorem hear_withStreams (now : Instant) (membership : Membership) (signal : Signal) :
    ∃ later, (phone.withStreams streams).hear now membership signal =
      (phone.hear now membership signal).withStreams later := by
  simp only [hear, talks.current, others.current]
  exact hearInCall_withStreams streams talks others membership signal

/-- The microphone is switched the same way whatever streams are known. -/
theorem setMuted_withStreams (muted : Bool) :
    (phone.withStreams streams).setMuted muted =
      ((phone.setMuted muted).1.withStreams streams, (phone.setMuted muted).2) := by
  have same := negotiation.setMuted_withStreams streams muted
  simp only [setMuted, negotiation?, talks.current, others.current, talks.opened, others.opened,
    Option.bind_eq_bind, Option.bind_some, same, keep_withStreams]
  cases (negotiation.setMuted muted).2 <;> rfl

/-- The camera is switched the same way whatever streams are known. -/
theorem toggleCamera_withStreams :
    (phone.withStreams streams).toggleCamera =
      (phone.toggleCamera.1.withStreams streams, phone.toggleCamera.2) := by
  have same := negotiation.toggleCamera_withStreams streams
  simp only [toggleCamera, negotiation?, talks.current, others.current, talks.opened,
    others.opened, Option.bind_eq_bind, Option.bind_some, same, keep_withStreams]

/-- The answer to a request for relay credentials starts nothing in an established call. -/
theorem relayRefreshed_withStreams (now : Instant) (outcome : Except String Relay.Grant) :
    (phone.withStreams streams).relayRefreshed now outcome =
      (phone.relayRefreshed now outcome).withStreams streams := by
  have active : (phone.refreshed now outcome).phase = .active := talks.active
  have current : (phone.refreshed now outcome).call = some call := talks.current
  have otherActive : ((phone.withStreams streams).refreshed now outcome).phase = .active :=
    others.active
  have otherCurrent : ((phone.withStreams streams).refreshed now outcome).call =
      some (call.withStreams streams) := others.current
  rw [relayRefreshed_eq, relayRefreshed_eq]
  have deferred : (call.withStreams streams).deferred = call.deferred := rfl
  simp only [resume, active, current, otherActive, otherCurrent, deferred]
  rcases call.deferred with _ | _ | _ <;> rfl

/-- A callback is heard in the same way whichever streams of the other side are known. -/
theorem hearEngine_withStreams (session : SessionId) (callback : Engine.Callback) :
    (phone.withStreams streams).hearEngine session callback =
      (phone.hearEngine session callback).withStreams streams := by
  have same := Negotiation.handle_withStreams talks.faces others.faces callback
  have id : (negotiation.withStreams streams).id = negotiation.id := rfl
  simp only [hearEngine, negotiation?, talks.current, others.current, talks.opened,
    others.opened, Option.bind_eq_bind, Option.bind_some, same, id, keep_withStreams]
  split
  · exact applyNotices_withStreams streams _
  · rfl

/-- A phone with an established call does the same whichever streams of the other side are known:
what it replies and writes, and everything that it is afterwards. -/
theorem handle_withStreams (now : Instant) (occurrence : Occurrence) :
    ∃ later, (phone.withStreams streams).handle now occurrence =
      ((phone.handle now occurrence).1.withStreams later, (phone.handle now occurrence).2) := by
  cases occurrence with
  | event membership event =>
      cases read : Signal.ofEvent event with
      | ok signal =>
          rcases hear_withStreams streams talks others now membership signal with ⟨later, same⟩
          exact ⟨later, by simp [handle, hearEvent, read, same]⟩
      | error => exact ⟨streams, by simp [handle, hearEvent, read]⟩
  | signal membership signal =>
      rcases hear_withStreams streams talks others now membership signal with ⟨later, same⟩
      exact ⟨later, by simp [handle, same]⟩
  | startCall => exact ⟨streams, by simp [handle, startCall, talks.active, others.active]⟩
  | accept =>
      refine ⟨streams, ?_⟩
      simp [handle, Phone.accept, talks.current, others.current, talks.active, others.active]
  | hangUp => exact ⟨streams, congrArg (·, _) (endCall_withStreams streams _ _)⟩
  | ignore => exact ⟨streams, by simp [handle, Phone.ignore, talks.active, others.active]⟩
  | setMuted muted =>
      exact ⟨streams, by simp [handle, setMuted_withStreams streams talks others]⟩
  | toggleCamera =>
      exact ⟨streams, by simp [handle, toggleCamera_withStreams streams talks others]⟩
  | relayRefreshed outcome =>
      exact ⟨streams, congrArg (·, _) (relayRefreshed_withStreams streams talks others _ _)⟩
  | inviteExpired expired =>
      refine ⟨streams, ?_⟩
      have late : phone.inviteExpired expired = phone := by
        simp [inviteExpired, talks.current, talks.active]
      have otherLate : (phone.withStreams streams).inviteExpired expired =
          phone.withStreams streams := by
        simp [inviteExpired, others.current, others.active]
      simp [handle, late, otherLate]
  | callback session callback =>
      exact ⟨streams, congrArg (·, _) (hearEngine_withStreams streams talks others _ _)⟩
  | plug => exact ⟨streams, rfl⟩

end

/-- A phone that differs from another one at most in which streams of an established call are
known. -/
inductive Alike (phone : Phone ε) : Phone ε → Prop where
  | same : Alike phone phone
  | talks (streams : List (String × UserId)) (active : phone.phase = .active) :
      Alike phone (phone.withStreams streams)

omit [MediaEngine ε] in
theorem Alike.log {phone other : Phone ε} (alike : phone.Alike other) : other.log = phone.log := by
  cases alike <;> rfl

omit [MediaEngine ε] in
theorem Alike.withLog {phone other : Phone ε} (alike : phone.Alike other) (log : List LogEntry) :
    Alike ({ phone with log := log } : Phone ε) { other with log := log } := by
  cases alike with
  | same => exact .same
  | talks streams active => exact @Alike.talks ε { phone with log := log } streams active

/-- Alike phones reply the same to an occurrence, and are alike afterwards. -/
theorem alike_handle {phone other : Phone ε} (coherent : phone.Coherent)
    (attributed : phone.Attributed) (others : other.Attributed) (alike : phone.Alike other)
    (now : Instant) (occurrence : Occurrence) :
    (other.handle now occurrence).2 = (phone.handle now occurrence).2 ∧
      (phone.after now occurrence).Alike (other.after now occurrence) := by
  cases alike with
  | same => exact ⟨rfl, .same⟩
  | talks streams active =>
      rcases talks_of_active active coherent attributed with ⟨call, negotiation, talks⟩
      have faces : (negotiation.withStreams streams).Faces call.remoteUser :=
        (others (call.withStreams streams) (call_withStreams streams talks.current)
          (negotiation.withStreams streams) (by simp [Call.withStreams, talks.opened])).2
            (by simp [withStreams, active])
      rcases handle_withStreams streams talks (talks.withStreams faces) now occurrence with
        ⟨later, same⟩
      rw [Phone.after, Phone.after, same]
      refine ⟨rfl, ?_⟩
      rcases active_of_move (move_after coherent now occurrence) coherent active with still | ended
      · exact .talks later still
      · have nothing := withStreams_of_idle later ended
        rw [Phone.after] at nothing
        rw [nothing]
        exact .same

end Phone

end RoomCall
