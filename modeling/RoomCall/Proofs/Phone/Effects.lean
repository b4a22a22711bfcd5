import RoomCall.Phone.Run
import RoomCall.Proofs.Negotiation.Requests

/-!
# What the parts of a phone's handling do

Each part of the handling of an occurrence is given as one record update: the fields that it
changes, and the entries that it writes behind the log. Where a part depends on what the engine
says, all outcomes are listed. Later files use these statements and not the definitions.
-/

namespace RoomCall

/-- The entries that announce the changes of stage among some notices. -/
def stageEntries (notices : List Notice) : List LogEntry :=
  notices.filterMap fun notice =>
    match notice with
    | .progressChanged stage => some (.announcement (.progressChanged stage))
    | _ => none

/-- The entry that announces another phase. -/
def phaseEntries (before after : Phase) : List LogEntry :=
  if before = after then [] else [.announcement (.phaseChanged after)]

/-- The entry that announces another roster. -/
def rosterEntries (before after : Roster) : List LogEntry :=
  if before = after then [] else [.announcement .rosterChanged]

@[simp]
theorem stageEntries_nil : stageEntries [] = [] := rfl

@[simp]
theorem stageEntries_append (first second : List Notice) :
    stageEntries (first ++ second) = stageEntries first ++ stageEntries second :=
  List.filterMap_append

@[simp]
theorem stageEntries_progressChanged (stage : Progress) (later : List Notice) :
    stageEntries (.progressChanged stage :: later) =
      .announcement (.progressChanged stage) :: stageEntries later := rfl

section

variable {P : LogEntry → Prop}

/-- Notices write nothing but changes of stage when their stages are announced. -/
theorem forall_mem_stageEntries (each : ∀ stage, P (.announcement (.progressChanged stage)))
    (notices : List Notice) : ∀ entry ∈ stageEntries notices, P entry := by
  intro entry there
  rcases List.mem_filterMap.mp there with ⟨notice, -, written⟩
  cases notice <;> simp at written
  subst written
  exact each _

theorem forall_mem_phaseEntries (each : ∀ phase, P (.announcement (.phaseChanged phase)))
    (before after : Phase) : ∀ entry ∈ phaseEntries before after, P entry := by
  unfold phaseEntries
  split <;> simp [each]

theorem forall_mem_rosterEntries (is : P (.announcement .rosterChanged)) (before after : Roster) :
    ∀ entry ∈ rosterEntries before after, P entry := by
  unfold rosterEntries
  split <;> simp [is]

end

namespace Phone

variable {ε : Type} {phone : Phone ε}

/-! ## The log, the phase and the roster -/

/-- A phone enters a phase and announces it if it is another one. -/
theorem setPhase_eq (phase : Phase) :
    phone.setPhase phase =
      { phone with phase := phase, log := phone.log ++ phaseEntries phone.phase phase } := by
  unfold setPhase phaseEntries
  split
  · subst phase
    simp
  · rfl

/-- A phone takes a roster and announces it if it is another one. -/
theorem setRoster_eq (roster : Roster) :
    phone.setRoster roster =
      { phone with roster := roster, log := phone.log ++ rosterEntries phone.roster roster } := by
  unfold setRoster rosterEntries
  split
  · subst roster
    simp
  · rfl

theorem requestRelay_eq :
    phone.requestRelay =
      { phone with
        refreshing := true
        log := phone.log ++ if phone.refreshing then [] else [.errand .refreshRelay] } := by
  unfold requestRelay
  split
  · rename_i refreshing
    rw [List.append_nil, ← refreshing]
  · rfl

theorem announceStages_eq (notices : List Notice) :
    phone.announceStages notices = { phone with log := phone.log ++ stageEntries notices } := by
  induction notices generalizing phone with
  | nil => simp [announceStages]
  | cons notice later ih =>
      cases notice <;> simp [announceStages, ih, announce, record, stageEntries]

/-- A phone with some more entries in its log. -/
def noted (phone : Phone ε) (entries : List LogEntry) : Phone ε :=
  { phone with log := phone.log ++ entries }

@[simp]
theorem noted_nil : phone.noted [] = phone := by
  simp [noted]

end Phone

/-- A call whose negotiation was kept after an operation on it. -/
def Call.keeping {ε : Type} (call : Call ε) (negotiation : Negotiation ε) : Call ε :=
  { call with negotiation := some { negotiation with traffic := [] } }

namespace Phone

variable {ε : Type} {phone : Phone ε}

/-- Keeping a negotiation writes what passed between it and its engine. -/
theorem keep_eq (call : Call ε) (negotiation : Negotiation ε) :
    phone.keep call negotiation =
      { phone with
        call := some (call.keeping negotiation)
        log := phone.log ++ negotiation.traffic.map (LogEntry.traffic negotiation.id) } := rfl

variable [MediaEngine ε]

/-! ## The end of a call -/

/-- The entries of a negotiation that is taken down. -/
def teardownEntries (negotiation : Negotiation ε) : List LogEntry :=
  negotiation.finish.1.traffic.map (LogEntry.traffic negotiation.finish.1.id) ++
    stageEntries negotiation.finish.2

/-- The entries of the end of a call. -/
def farewell (phone : Phone ε) (call : Call ε) (ending : Ending) (cause : Option HangupCause) :
    List LogEntry :=
  (cause.toList.map fun cause =>
      .errand (.send call.room (phone.style.hangup call.id call.party (some cause)))) ++
    [.errand .cancelTimer] ++ call.negotiation.elim [] teardownEntries ++
    rosterEntries phone.roster [] ++ phaseEntries phone.phase .idle ++
    [.announcement (.callEnded call.id ending)]

theorem takeDown_eq (negotiation : Negotiation ε) :
    phone.takeDown negotiation =
      { phone with log := phone.log ++ teardownEntries negotiation } := by
  simp [takeDown, Negotiation.collect, announceStages_eq, teardownEntries]

/-- The phone after the end of a call: it is idle, whatever the reason was. -/
def ended (phone : Phone ε) (call : Call ε) (ending : Ending) (cause : Option HangupCause) :
    Phone ε :=
  { phone with
    call := none
    phase := .idle
    roster := []
    log := phone.log ++ phone.farewell call ending cause }

/-- To end the current call brings the phone to the state after a call. -/
theorem endCall_eq {call : Call ε} (current : phone.call = some call) (ending : Ending)
    (cause : Option HangupCause) : phone.endCall ending cause = phone.ended call ending cause := by
  unfold endCall ended farewell
  rw [current]
  cases cause <;> cases negotiation : call.negotiation <;>
    simp [sendHangup, takeDown_eq, setRoster_eq, setPhase_eq, announce, order, record, style,
      negotiation]

omit [MediaEngine ε] in
theorem endCall_none [MediaEngine ε] (idle : phone.call = none) (ending : Ending)
    (cause : Option HangupCause) : phone.endCall ending cause = phone := by
  simp [endCall, idle]

/-! ## Notices -/

theorem applyNotices_cons {call : Call ε} (current : phone.call = some call) (notice : Notice)
    (later : List Notice) :
    phone.applyNotices (notice :: later) = (phone.applyNotice call notice).applyNotices later := by
  simp [applyNotices, current]

/-- Changes of stage are only announced. -/
theorem applyNotices_stages {call : Call ε} (current : phone.call = some call)
    (stages : List Progress) (later : List Notice) :
    phone.applyNotices (stages.map .progressChanged ++ later) =
      (phone.noted (stageEntries (stages.map .progressChanged))).applyNotices later := by
  induction stages generalizing phone with
  | nil => simp [noted]
  | cons stage stages ih =>
      rw [List.map_cons, List.cons_append, applyNotices_cons current]
      simp [applyNotice, announce, record, ih, current, noted]

theorem applyNotices_onlyStages {call : Call ε} (current : phone.call = some call)
    (stages : List Progress) :
    phone.applyNotices (stages.map .progressChanged) =
      phone.noted (stageEntries (stages.map .progressChanged)) := by
  simpa [applyNotices] using applyNotices_stages current stages []

/-- The entries of an invite that goes out. -/
def inviteEntries (phone : Phone ε) (call : Call ε) (offer : String)
    (candidates : List Candidate) : List LogEntry :=
  [.errand (.send call.room (phone.style.invite phone.streamNames call.id call.party
      phone.inviteLifetime offer).1),
    .errand (.send call.room (phone.style.candidates call.id call.party candidates)),
    .errand (.armTimer call.id phone.inviteLifetime)]

/-- The entries of an answer that goes out. -/
def answerEntries (phone : Phone ε) (call : Call ε) (answer : String)
    (candidates : List Candidate) : List LogEntry :=
  [.errand (.send call.room (phone.style.answer phone.streamNames call.id call.party answer).1),
    .errand (.send call.room (phone.style.candidates call.id call.party candidates))]

/-- The entries by which the local description of a side goes out. -/
def descriptionEntries (phone : Phone ε) (call : Call ε) (description : String)
    (candidates : List Candidate) : Role → List LogEntry
  | .offering => phone.inviteEntries call description candidates
  | .answering => phone.answerEntries call description candidates

omit [MediaEngine ε] in
theorem forall_mem_descriptionEntries {P : LogEntry → Prop} (each : ∀ errand, P (.errand errand))
    (phone : Phone ε) (call : Call ε) (description : String) (candidates : List Candidate)
    (side : Role) :
    ∀ entry ∈ phone.descriptionEntries call description candidates side, P entry := by
  cases side <;> simp [descriptionEntries, inviteEntries, answerEntries, each]

/-- The names for streams that are left after the local description of a side went out. -/
def remainingNames (phone : Phone ε) (call : Call ε) (description : String) : Role → Supply
  | .offering =>
      (phone.style.invite phone.streamNames call.id call.party phone.inviteLifetime description).2
  | .answering => (phone.style.answer phone.streamNames call.id call.party description).2

/-- The phase after the local description of a side went out. -/
def phaseAfterReport (phase : Phase) : Role → Phase
  | .offering => phase
  | .answering => .active

/-- The phone after the local description of a side went out: everybody is on the roster, and an
answer establishes the call. -/
def described (phone : Phone ε) (call : Call ε) (description : String)
    (candidates : List Candidate) (side : Role) : Phone ε :=
  { phone with
    streamNames := phone.remainingNames call description side
    phase := phaseAfterReport phone.phase side
    roster := phone.roster.addAll call.members
    log := phone.log ++ phone.descriptionEntries call description candidates side ++
      phaseEntries phone.phase (phaseAfterReport phone.phase side) ++
      rosterEntries phone.roster (phone.roster.addAll call.members) }

/-- A first description goes out, with its candidates, to the side that it is for. -/
theorem applyNotice_created (call : Call ε) (description : String) (candidates : List Candidate)
    (side : Role) :
    phone.applyNotice call (side.created description candidates) =
      phone.described call description candidates side := by
  cases side
  · simp [applyNotice, Role.created, sendInvite, registerMembers, setRoster_eq, sendSignal, order,
      record, described, descriptionEntries, remainingNames, phaseAfterReport, phaseEntries,
      inviteEntries, style, inviteLifetime]
  · simp [applyNotice, Role.created, sendAnswer, registerMembers, setRoster_eq, setPhase_eq,
      sendSignal, order, record, described, descriptionEntries, remainingNames, phaseAfterReport,
      answerEntries, style]

/-- The report of a description goes out, and the stages that follow are announced. -/
theorem applyNotices_created {call : Call ε} (current : phone.call = some call)
    (description : String) (candidates : List Candidate) (side : Role) (stages : List Progress) :
    phone.applyNotices (side.created description candidates :: stages.map .progressChanged) =
      (phone.described call description candidates side).noted
        (stageEntries (stages.map .progressChanged)) := by
  have still : (phone.described call description candidates side).call = some call := current
  rw [applyNotices_cons current, applyNotice_created, applyNotices_onlyStages still]

omit [MediaEngine ε] in
theorem sendNegotiate_eq (call : Call ε) (description : String) (kind : DescriptionKind) :
    phone.sendNegotiate call description kind =
      { phone with
        streamNames := (phone.style.negotiate phone.streamNames call.id call.party
          phone.inviteLifetime description kind).2
        log := phone.log ++ [.errand (.send call.room (phone.style.negotiate phone.streamNames
          call.id call.party phone.inviteLifetime description kind).1)] } := by
  simp [sendNegotiate, sendSignal, order, record]

/-! ## Opening a negotiation -/

end Phone

/-- The call without what was held back. -/
def Call.emptied {ε : Type} (call : Call ε) : Call ε :=
  { call with heldDescription := none, heldCandidates := [] }

/-- The call whose negotiation is opened on a side: answering uses up what was held back. -/
def Call.handOver {ε : Type} (call : Call ε) : Role → Call ε
  | .offering => call
  | .answering => call.emptied

namespace Phone

variable {ε : Type} [MediaEngine ε] {phone : Phone ε}

/-- A new negotiation after it was asked to get under way on a side. -/
def opening (phone : Phone ε) (call : Call ε) (side : Role) :
    Negotiation ε × Except NegotiationError (List Notice) :=
  let fresh : Negotiation ε :=
    { id := phone.nextSession, engine := phone.maker.make phone.nextSession }
  match side with
  | .offering => fresh.start phone.pipeline
  | .answering =>
      fresh.acceptOffer phone.pipeline (call.heldDescription.getD "")
        (call.heldCandidates.map Prod.snd) call.remoteUser

theorem id_opening (call : Call ε) (side : Role) :
    (phone.opening call side).1.id = phone.nextSession := by
  cases side
  · exact Negotiation.id_start _
  · exact Negotiation.id_acceptOffer _ _ _ _

/-- A negotiation fails to open, or it opens with the requests and through the stages of its side.
-/
theorem opening_cases (call : Call ε) (side : Role) :
    (∃ error, (phone.opening call side).2 = .error error) ∨
      (phone.opening call side).2 = .ok (Negotiation.openingStages.map .progressChanged) ∧
      (phone.opening call side).1.Opened side (Negotiation.openingRequests phone.pipeline
        (call.heldDescription.getD "") (call.heldCandidates.map Prod.snd) side) := by
  cases side
  · exact Negotiation.start_cases rfl rfl rfl _ _ _
  · exact Negotiation.acceptOffer_cases rfl rfl rfl _ _ _ _

/-- A negotiation that fails to open ends the call; one that opens is kept. -/
theorem openNegotiation_eq {call : Call ε} (current : phone.call = some call) (side : Role) :
    phone.openNegotiation side =
      match (phone.opening call side).2 with
      | .ok notices =>
          ({ phone with nextSession := phone.nextSession + 1 }.keep (call.handOver side)
            (phone.opening call side).1).applyNotices notices
      | .error error =>
          (({ phone with nextSession := phone.nextSession + 1 }.keep (call.handOver side)
            (phone.opening call side).1).announce (.failure error.message)).endCall
              (startFailure error) (some .userMediaFailed) := by
  unfold openNegotiation
  rw [current]
  cases side <;> rfl

/-- How the negotiation of a call starts on a side: it is under way, or the call ends. -/
inductive Opens (phone : Phone ε) (call : Call ε) (side : Role) : Phone ε → Prop where
  | opened {negotiation : Negotiation ε}
      (opened : negotiation.Opened side (Negotiation.openingRequests phone.pipeline
        (call.heldDescription.getD "") (call.heldCandidates.map Prod.snd) side))
      (id : negotiation.id = phone.nextSession)
      (outcome : phone.opening call side =
        (negotiation, .ok (Negotiation.openingStages.map .progressChanged))) :
      Opens phone call side
        (({ phone with nextSession := phone.nextSession + 1 }.keep (call.handOver side)
          negotiation).noted (stageEntries (Negotiation.openingStages.map .progressChanged)))
  | refused {negotiation : Negotiation ε} {error : NegotiationError}
      (id : negotiation.id = phone.nextSession)
      (outcome : phone.opening call side = (negotiation, .error error)) :
      Opens phone call side
        ((({ phone with nextSession := phone.nextSession + 1 }.keep (call.handOver side)
          negotiation).noted [.announcement (.failure error.message)]).ended
            ((call.handOver side).keeping negotiation) (startFailure error) (some .userMediaFailed))

/-- What the phone does to open a negotiation is one of the ways to open one. -/
theorem opens_openNegotiation {call : Call ε} (current : phone.call = some call) (side : Role) :
    phone.Opens call side (phone.openNegotiation side) := by
  rw [openNegotiation_eq current side]
  rcases phone.opening_cases call side with ⟨error, refused⟩ | ⟨accepted, opened⟩
  · rw [refused]
    dsimp only
    rw [endCall_eq rfl]
    exact .refused (phone.id_opening call side) (Prod.ext rfl refused)
  · rw [accepted]
    dsimp only
    rw [applyNotices_onlyStages rfl]
    exact .opened opened (phone.id_opening call side) (Prod.ext rfl accepted)

/-- How a call gets going on a side: its negotiation starts at once, or it waits for relay
credentials. -/
inductive Starts (phone : Phone ε) (call : Call ε) (side : Role) : Phone ε → Prop where
  | opens {after : Phone ε} (opens : phone.Opens call side after) : Starts phone call side after
  | waits :
      Starts phone call side
        { phone with
          call := some { call with deferred := some side }
          refreshing := true
          log := phone.log ++ if phone.refreshing then [] else [.errand .refreshRelay] }

/-- A call whose negotiation is wanted opens it, or waits for credentials first. -/
theorem starts_openOrDefer {call : Call ε} (current : phone.call = some call) (now : Instant)
    (side : Role) : phone.Starts call side (phone.openOrDefer now side) := by
  unfold openOrDefer
  split
  · exact .opens (opens_openNegotiation current side)
  · rw [current]
    dsimp only
    rw [requestRelay_eq]
    exact .waits

/-! ## Hearing an answer -/

/-- What comes of an answer that may be held back: it waits, it is applied, or the engine refuses
it and the call ends. -/
inductive Settles (phone : Phone ε) (call : Call ε) : Phone ε → Prop where
  | waits
      (unready : ∀ answer negotiation, call.heldDescription = some answer →
        call.negotiation = some negotiation → canConnect call answer = true →
        negotiation.progress ≠ .offerSent) :
      Settles phone call phone
  | applied {answer : String} {negotiation : Negotiation ε}
      (answered : call.heldDescription = some answer)
      (opened : call.negotiation = some negotiation) (sent : negotiation.progress = .offerSent)
      (ready : canConnect call answer = true)
      (taken : (negotiation.applyRemote answer .answer call.remoteUser).2 = none) :
      Settles phone call
        { (phone.keep call.emptied
            ((negotiation.applyRemote answer .answer call.remoteUser).1.addRemoteCandidates
              (call.heldCandidates.map Prod.snd))).noted
            ([.errand .cancelTimer] ++ phaseEntries phone.phase .active) with
          phase := .active }
  | refused {answer : String} {negotiation failed : Negotiation ε} {fault : Engine.Fault}
      (answered : call.heldDescription = some answer)
      (opened : call.negotiation = some negotiation) (sent : negotiation.progress = .offerSent)
      (rejected : negotiation.applyRemote answer .answer call.remoteUser = (failed, some fault)) :
      Settles phone call
        ((phone.keep call.emptied failed).ended (call.emptied.keeping failed)
          (.mediaFailed (NegotiationError.media fault).message) (some .unknownError))

/-- An answer that the engine takes establishes the call. -/
theorem tryAnswer_applied {call : Call ε} {negotiation accepted : Negotiation ε} {answer : String}
    (current : phone.call = some call) (outgoing : phone.phase = .outgoing)
    (answered : call.heldDescription = some answer) (opened : call.negotiation = some negotiation)
    (ready : canConnect call answer = true) (sent : negotiation.progress = .offerSent)
    (taken : negotiation.acceptAnswer answer (call.heldCandidates.map Prod.snd) call.remoteUser =
      (accepted, .ok ())) :
    phone.tryAnswer =
      { (phone.keep call.emptied accepted).noted
          ([.errand .cancelTimer] ++ phaseEntries phone.phase .active) with
        phase := .active } := by
  unfold tryAnswer
  rw [current, outgoing]
  dsimp only
  rw [answered, opened]
  dsimp only
  rw [if_pos (by simp [ready, sent]), applyAnswer, taken]
  dsimp only
  rw [setPhase_eq]
  simp [noted, order, record, keep_eq, Call.emptied, outgoing]

/-- An answer waits until there is something to connect to and the offer is out. -/
theorem tryAnswer_unready {call : Call ε} (current : phone.call = some call)
    (unready : ∀ answer negotiation, call.heldDescription = some answer →
      call.negotiation = some negotiation → canConnect call answer = true →
      negotiation.progress ≠ .offerSent) :
    phone.tryAnswer = phone := by
  unfold tryAnswer
  rw [current]
  cases phone.phase with
  | outgoing =>
      dsimp only
      cases answered : call.heldDescription with
      | none => rfl
      | some answer =>
          cases opened : call.negotiation with
          | none => rfl
          | some negotiation =>
              have waits := unready answer negotiation answered opened
              dsimp only
              rw [if_neg]
              simpa using waits
  | idle | incoming | active => rfl

/-- What the phone does with a held answer is one of the ways to settle a call. -/
theorem settles_tryAnswer {call : Call ε} (current : phone.call = some call)
    (outgoing : phone.phase = .outgoing) : phone.Settles call phone.tryAnswer := by
  by_cases ready : ∃ answer negotiation, call.heldDescription = some answer ∧
      call.negotiation = some negotiation ∧ canConnect call answer = true ∧
      negotiation.progress = .offerSent
  · rcases ready with ⟨answer, negotiation, answered, opened, connectable, sent⟩
    rcases negotiation.acceptAnswer_cases sent answer (call.heldCandidates.map Prod.snd)
      call.remoteUser with ⟨failed, fault, rejected, refused⟩ | ⟨taken, accepted⟩
    · have ended : phone.tryAnswer = (phone.keep call.emptied failed).endCall
          (.mediaFailed (NegotiationError.media fault).message) (some .unknownError) := by
        simp [tryAnswer, current, outgoing, answered, opened, connectable, sent, applyAnswer,
          refused, Call.emptied]
      rw [ended, endCall_eq rfl]
      exact .refused answered opened sent rejected
    · rw [tryAnswer_applied current outgoing answered opened connectable sent accepted]
      exact .applied answered opened sent connectable taken
  · have unready : ∀ answer negotiation, call.heldDescription = some answer →
        call.negotiation = some negotiation → canConnect call answer = true →
        negotiation.progress ≠ .offerSent := by
      intro answer negotiation answered opened connectable sent
      exact ready ⟨answer, negotiation, answered, opened, connectable, sent⟩
    rw [tryAnswer_unready current unready]
    exact .waits unready

end Phone

end RoomCall
