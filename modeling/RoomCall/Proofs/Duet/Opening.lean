import Mathlib.Data.List.Basic
import RoomCall.Proofs.Duet.Stages

/-!
# Getting into the call

The call is started on one device and accepted on the other. On both the negotiation starts at once
or as soon as relay credentials are there, and the callbacks that are handed over then bring the
device to say its things.
-/

namespace RoomCall.Duet

open Engine (Scripted Script)

variable {duet : Duet} {id : CallId} {side : Role} {heard : Nat} {spoken : Bool}
  {phone : Phone Scripted} {call : Call Scripted} {now : Instant}

/-! ## The start of a negotiation -/

/-- The negotiation of a side gets under way with everything that was held back for it. -/
theorem opening_scripted (fits : duet.Fits) (maker : phone.maker = (duet.phone side).maker)
    (holds : duet.Holds side heard call) (first : heard = 0 ↔ side = .offering) :
    ∃ negotiation, phone.opening call side =
        (negotiation, .ok (Negotiation.openingStages.map .progressChanged)) ∧
      negotiation.Prepares side (duet.script side)
        (Candidate.usable (duet.found side.other heard)) := by
  have fresh : Negotiation.Fresh (duet.script side)
      { id := phone.nextSession, engine := phone.maker.make phone.nextSession } :=
    ⟨rfl, by rw [maker]; exact fits.engine side _, rfl, rfl, rfl, rfl, rfl⟩
  cases side with
  | offering =>
      rcases first.mpr rfl with rfl
      exact Negotiation.start_scripted fresh phone.pipeline
  | answering =>
      have invited : heard ≠ 0 := fun none => by simpa using first.mp none
      have offer : call.heldDescription.getD "" = (duet.masked .offering).description := by
        rw [holds.description, if_neg invited]
        rfl
      have candidates : call.heldCandidates.map Prod.snd = duet.found .offering heard := by
        rw [holds.candidates, List.map_map]
        exact List.map_id _
      have words := Description.allBlank_mask (fits.words .offering)
        (duet.phone .offering).streamNames
      have accepted := Negotiation.acceptOffer_scripted fresh (fits.connects .answering)
        phone.pipeline words fits.compatible (duet.found .offering heard) call.remoteUser
      unfold Phone.opening
      dsimp only
      rw [offer, candidates]
      exact accepted

/-- Opening a negotiation leaves nothing held back. -/
theorem Holds.handOver (holds : duet.Holds side heard call)
    (first : heard = 0 ↔ side = .offering) :
    (call.handOver side).heldDescription = none ∧ (call.handOver side).heldCandidates = [] := by
  cases side with
  | offering =>
      rcases first.mpr rfl with rfl
      exact ⟨holds.description, holds.candidates⟩
  | answering => exact ⟨rfl, rfl⟩

theorem comes_openNegotiation (fits : duet.Fits) (current : phone.call = some call)
    (maker : phone.maker = (duet.phone side).maker)
    (names : phone.streamNames = (duet.phone side).streamNames)
    (posted : Phone.callbacks phone.log = []) (silent : LogEntry.sends phone.log = [])
    (joins : duet.Joins id side heard call) (holds : duet.Holds side heard call)
    (first : heard = 0 ↔ side = .offering) :
    duet.Comes id side heard false [] [] (phone.openNegotiation side) := by
  rcases opening_scripted fits maker holds first with ⟨negotiation, opening, prepares⟩
  rw [Phone.openNegotiation_eq current side, opening]
  dsimp only
  rw [Phone.applyNotices_onlyStages rfl]
  have queued : Phone.callbacks ((({ phone with nextSession := phone.nextSession + 1 }.keep
      (call.handOver side) negotiation).noted
        (stageEntries (Negotiation.openingStages.map .progressChanged))).log) =
      (Traffic.callbacks negotiation.traffic).map (negotiation.id, ·) := by
    simp [Phone.noted, Phone.keep_eq, posted]
  refine ⟨?_, ?_⟩
  · rw [List.nil_append, queued]
    have emptied := holds.handOver first
    have kept : duet.Joins id side heard ((call.handOver side).keeping negotiation) := by
      cases side <;> exact joins.congr rfl rfl
    exact @Stage.prepares duet id side heard _ _ (negotiation.onEngine negotiation.engine []) _
      { current := rfl
        joins := kept
        hands := ⟨rfl, emptied.1, emptied.2, prepares.remote⟩
        first := first
        runs := prepares.runs.congr rfl rfl rfl rfl
        performs := ⟨prepares.performs.script, prepares.performs.running⟩
        names := names }
      (prepares.leads.onEngine negotiation.engine [])
  · simp [Phone.noted, Phone.keep_eq, silent]

theorem comes_openOrDefer (fits : duet.Fits) (current : phone.call = some call)
    (maker : phone.maker = (duet.phone side).maker)
    (names : phone.streamNames = (duet.phone side).streamNames)
    (posted : Phone.callbacks phone.log = []) (silent : LogEntry.sends phone.log = [])
    (joins : duet.Joins id side heard call) (holds : duet.Holds side heard call)
    (first : heard = 0 ↔ side = .offering) :
    duet.Comes id side heard false [] [] (phone.openOrDefer now side) := by
  unfold Phone.openOrDefer
  split
  · exact comes_openNegotiation fits current maker names posted silent joins holds first
  · rw [current]
    dsimp only
    rw [Phone.requestRelay_eq]
    have asked : Phone.callbacks (if phone.refreshing then [] else [.errand .refreshRelay]) = [] ∧
        LogEntry.sends (if phone.refreshing then [] else [.errand .refreshRelay]) = [] := by
      split <;> exact ⟨rfl, rfl⟩
    refine ⟨?_, ?_⟩
    · dsimp only
      rw [Phone.callbacks_append, posted, asked.1]
      exact .waits rfl rfl (joins.congr rfl rfl) ⟨holds.description, holds.candidates⟩ first names
    · dsimp only
      rw [LogEntry.sends_append, silent, asked.2]
      rfl

/-! ## What the users do -/

/-- The other member of the room is the one that is called. -/
theorem callee?_view (fits : duet.Fits) :
    Phone.callee? (duet.view .offering) = some (duet.user .answering) := by
  rcases List.length_eq_two.mp fits.two with ⟨first, second, members⟩
  have caller := fits.members .offering
  have callee := fits.members .answering
  have apart := fits.apart
  have reversed := apart.symm
  rw [members, List.mem_pair] at caller callee
  rcases caller with same | same <;> rcases callee with other | other <;>
    simp_all [Phone.callee?, view, Membership.isOneToOne, Membership.otherUser?]

theorem comes_startCall (fits : duet.Fits) (idle : phone.phase = .idle)
    (capable : phone.missing = []) (unread : phone.log = [])
    (maker : phone.maker = (duet.phone .offering).maker)
    (names : phone.streamNames = (duet.phone .offering).streamNames)
    (parties : phone.partyNames = (duet.phone .offering).partyNames) :
    duet.Comes (CallId.fresh now phone.callTokens.draw.1) .offering 0 false [] []
      (phone.startCall now (duet.view .offering)).1 := by
  rw [Phone.startCall_eq idle (callee?_view fits) capable]
  have joins : duet.Joins (CallId.fresh now phone.callTokens.draw.1) .offering 0
      (phone.dialedCall now (duet.view .offering) (duet.user .answering)) := by
    refine ⟨?_, rfl⟩
    simp only [Call.identity, Phone.dialedCall, parties]
    rfl
  refine comes_openOrDefer fits rfl maker names ?_ ?_ joins ⟨rfl, rfl⟩ (by simp)
  · simp [Phone.dialing, unread]
  · simp [Phone.dialing, unread]

theorem comes_accept {callbacks : List (SessionId × Engine.Callback)} (fits : duet.Fits)
    (coherent : phone.Coherent) (unread : phone.log = [])
    (maker : phone.maker = (duet.phone .answering).maker) (current : phone.call = some call)
    (incoming : phone.phase = .incoming) (unaccepted : call.accepted = false)
    (stage : duet.Stage id .answering heard spoken phone callbacks) :
    duet.Comes id .answering heard spoken callbacks [] (phone.accept now).1 := by
  rcases Phone.rings_of_unaccepted coherent current incoming unaccepted with ⟨unopened, undeferred⟩
  cases stage with
  | idle idle => simp [current] at idle
  | rings there _ _ joins holds invited names =>
      rw [current, Option.some.injEq] at there
      subst there
      have compatible : call.heldDescription.any Description.hasCompatibleAudio = true := by
        rw [holds.description, if_neg invited]
        exact fits.compatible
      rw [Phone.accept_eq current incoming unaccepted compatible]
      have first : heard = 0 ↔ Role.answering = .offering := by simp [invited]
      refine comes_openOrDefer fits rfl maker names ?_ ?_ (joins.congr rfl rfl)
        ⟨holds.description, holds.candidates⟩ first
      · simp [Phone.noted, unread]
      · simp [Phone.noted, unread]
  | waits there deferred =>
      rw [current, Option.some.injEq] at there
      subst there
      simp [undeferred] at deferred
  | prepares prepares =>
      have there := prepares.current
      rw [current, Option.some.injEq] at there
      subst there
      have opened := prepares.hands.opened
      simp [unopened] at opened
  | active _ established => simp [incoming] at established

/-! ## Relay credentials -/

theorem undeferred_of_opened {negotiation : Negotiation Scripted} (coherent : phone.Coherent)
    (current : phone.call = some call) (opened : call.negotiation = some negotiation) :
    ∀ call, phone.call = some call → call.deferred = none := by
  intro other there
  rw [current, Option.some.injEq] at there
  exact there ▸ (coherent.stands current).undeferred opened

/-- The outcome of a request for relay credentials starts the negotiation that waits for it. -/
theorem comes_relayRefreshed {callbacks : List (SessionId × Engine.Callback)} (fits : duet.Fits)
    (coherent : phone.Coherent) (unread : phone.log = [])
    (maker : phone.maker = (duet.phone side).maker)
    (stage : duet.Stage id side heard spoken phone callbacks)
    (outcome : Except String Relay.Grant) :
    duet.Comes id side heard spoken callbacks [] (phone.relayRefreshed now outcome) := by
  rw [Phone.relayRefreshed_eq]
  have still (undeferred : ∀ call, phone.call = some call → call.deferred = none) :
      duet.Comes id side heard spoken callbacks [] (phone.refreshed now outcome).resume := by
    rw [@Phone.resume_undeferred Scripted _ (phone.refreshed now outcome) undeferred]
    refine ⟨?_, ?_⟩
    · simp only [Phone.refreshed, unread, Phone.callbacks_nil, List.append_nil]
      exact stage.congr rfl rfl rfl rfl
    · simp [Phone.refreshed, unread]
  cases stage with
  | idle idle => exact still (by simp [idle])
  | rings current incoming unaccepted =>
      refine still ?_
      intro other there
      rw [current, Option.some.injEq] at there
      exact there ▸ (Phone.rings_of_unaccepted coherent current incoming unaccepted).2
  | waits current deferred joins holds first names =>
      rw [@Phone.resume_deferred Scripted _ (phone.refreshed now outcome) _ side current deferred
        ((coherent.stands current).deferred_cases deferred)]
      refine comes_openNegotiation fits rfl maker names ?_ ?_ (joins.congr rfl rfl)
        ⟨holds.description, holds.candidates⟩ first
      · simp [Phone.refreshed, unread]
      · simp [Phone.refreshed, unread]
  | prepares prepares =>
      exact still (undeferred_of_opened coherent prepares.current prepares.hands.opened)
  | offered current _ _ hands =>
      exact still (undeferred_of_opened coherent current hands.opened)
  | answered current _ _ _ opened =>
      exact still (undeferred_of_opened coherent current opened)
  | active current _ _ hands =>
      exact still (undeferred_of_opened coherent current hands.opened)

/-! ## Callbacks -/

/-- What a phone says when its description goes out is what its side says. -/
theorem speech_of_phone (settings : phone.settings = (duet.phone side).settings)
    (names : phone.streamNames = (duet.phone side).streamNames) :
    phone.speech id (duet.party side) ((duet.script side).description side)
      (duet.script side).candidates side = duet.speech id side := by
  cases side <;> simp only [Duet.speech, Phone.speech, Phone.style, Phone.inviteLifetime, settings,
    names]

variable {negotiation next : Negotiation Scripted} {callback : Engine.Callback}

/-- While the description is being made most callbacks bring nothing out. -/
theorem comes_silent {queue : List Engine.Callback} (coherent : phone.Coherent)
    (unread : phone.log = []) (prepares : duet.Prepares id side heard phone call negotiation)
    (silent : negotiation.described = false) (handled : negotiation.handle callback = (next, []))
    (leads : next.Leads side ((duet.script side).description side) (duet.script side).candidates
      queue) :
    duet.Comes id side heard false (queue.map (negotiation.id, ·)) []
      (phone.hearEngine negotiation.id callback) := by
  have quiet := coherent.collected prepares.current prepares.hands.opened
  rcases Negotiation.handle_unasked (fun _ => silent) handled with ⟨same, engine, traffic⟩
  rw [quiet] at traffic
  rw [Phone.hearEngine_eq prepares.current prepares.hands.opened, handled]
  have kept : (phone.keep call next).log = [] := by simp [Phone.keep_eq, unread, traffic]
  refine ⟨?_, ?_⟩
  · simp only [Phone.applyNotices, kept, Phone.callbacks_nil, List.append_nil, ← same]
    exact @Stage.prepares duet id side heard _ _ (next.onEngine next.engine []) _
      { current := rfl
        joins := prepares.joins.congr rfl rfl
        hands := ⟨rfl, prepares.hands.description, prepares.hands.candidates,
          engine ▸ prepares.hands.remote⟩
        first := prepares.first
        runs := (prepares.runs.handle_silent handled).congr rfl rfl rfl rfl
        performs := ⟨engine ▸ prepares.performs.script, engine ▸ prepares.performs.running⟩
        names := prepares.names }
      (leads.onEngine next.engine [])
  · simp [Phone.applyNotices, kept]

/-- When the description is ready, everything that the side has to say goes out. -/
theorem comes_speech (coherent : phone.Coherent) (unread : phone.log = [])
    (settings : phone.settings = (duet.phone side).settings)
    (prepares : duet.Prepares id side heard phone call negotiation)
    (silent : negotiation.described = false)
    (handled : negotiation.handle callback =
      (next, side.created ((duet.script side).description side) (duet.script side).candidates ::
        (side.sent :: side.follows).map .progressChanged))
    (reached : next.progress = side.reaches) :
    duet.Comes id side heard true [] (duet.said id side true)
      (phone.hearEngine negotiation.id callback) := by
  have quiet := coherent.collected prepares.current prepares.hands.opened
  rcases Negotiation.handle_unasked (fun _ => silent) handled with ⟨-, engine, traffic⟩
  rw [quiet] at traffic
  have keeps : (phone.keep call next).call = some (call.keeping next) := rfl
  rw [Phone.hearEngine_eq prepares.current prepares.hands.opened, handled]
  dsimp only
  rw [Phone.applyNotices_created keeps]
  have kept : (phone.keep call next).log = [] := by simp [Phone.keep_eq, unread, traffic]
  refine ⟨?_, ?_⟩
  · have posted : Phone.callbacks (((phone.keep call next).described (call.keeping next)
        ((duet.script side).description side) (duet.script side).candidates side).noted
          (stageEntries ((side.sent :: side.follows).map .progressChanged))).log = [] := by
      simp [Phone.noted, Phone.described, kept]
    have joins : duet.Joins id side heard (call.keeping next) := prepares.joins.congr rfl rfl
    have hands : duet.Hands side heard (call.keeping next) (next.onEngine next.engine []) :=
      ⟨rfl, prepares.hands.description, prepares.hands.candidates, engine ▸ prepares.hands.remote⟩
    rw [posted]
    rcases phone.phase_of_silent coherent prepares.current prepares.hands.opened prepares.runs
      silent with ⟨rfl, outgoing, _⟩ | ⟨rfl, _⟩
    · rcases prepares.first.mpr rfl with rfl
      exact .offered rfl outgoing joins hands
        ⟨engine ▸ prepares.performs.script, engine ▸ prepares.performs.running⟩ reached
    · have invited : heard ≠ 0 := fun none => by simpa using prepares.first.mp none
      exact @Stage.active duet id .answering heard _ _ _ [] rfl rfl joins hands invited
        (.done reached)
  · have identity := prepares.joins.identity
    simp only [Call.identity, CallIdentity.mk.injEq] at identity
    rcases identity with ⟨named, room, party, _, _⟩
    simp only [Phone.noted, Phone.described, kept, LogEntry.sends_append,
      LogEntry.sends_descriptionEntries, LogEntry.sends_phaseEntries,
      LogEntry.sends_rosterEntries, LogEntry.sends_stageEntries, List.append_nil, List.nil_append]
    change ((phone.keep call next).speech call.id call.party _ _ side).map (call.room, ·) = _
    rw [named, room, party,
      @speech_of_phone duet id side (phone.keep call next) settings prepares.names]
    rfl

/-- While an established call connects, callbacks bring nothing out. -/
theorem comes_connecting {state : Engine.IceState} {stages : List Progress}
    {queue : List Engine.Callback} (coherent : phone.Coherent) (unread : phone.log = [])
    (current : phone.call = some call) (established : phone.phase = .active)
    (joins : duet.Joins id side heard call) (hands : duet.Hands side heard call negotiation)
    (answered : heard ≠ 0)
    (handled : negotiation.handle (.iceChanged state) = (next, stages.map .progressChanged))
    (connects : next.Connects queue) :
    duet.Comes id side heard true (queue.map (negotiation.id, ·)) []
      (phone.hearEngine negotiation.id (.iceChanged state)) := by
  have quiet := coherent.collected current hands.opened
  rcases Negotiation.handle_unasked (by simp) handled with ⟨same, engine, traffic⟩
  rw [quiet] at traffic
  have keeps : (phone.keep call next).call = some (call.keeping next) := rfl
  rw [Phone.hearEngine_eq current hands.opened, handled]
  dsimp only
  rw [Phone.applyNotices_onlyStages keeps]
  have kept : (phone.keep call next).log = [] := by simp [Phone.keep_eq, unread, traffic]
  refine ⟨?_, ?_⟩
  · simp only [Phone.noted, kept, List.nil_append, Phone.callbacks_stageEntries, List.append_nil,
      ← same]
    exact @Stage.active duet id side heard _ _ (next.onEngine next.engine []) _ rfl established
      (joins.congr rfl rfl) ⟨rfl, hands.description, hands.candidates, engine ▸ hands.remote⟩
      answered (connects.onEngine next.engine [])
  · simp [Phone.noted, kept]

/-- A callback that is handed over leads further: either nothing is said, or everything. -/
theorem comes_hearEngine {session : SessionId} {later : List (SessionId × Engine.Callback)}
    (coherent : phone.Coherent) (unread : phone.log = [])
    (settings : phone.settings = (duet.phone side).settings)
    (stage : duet.Stage id side heard spoken phone ((session, callback) :: later)) :
    ∃ after sent, duet.Comes id side heard after later sent (phone.hearEngine session callback) ∧
      duet.said id side spoken ++ sent = duet.said id side after := by
  generalize waiting : (session, callback) :: later = callbacks at stage
  cases stage with
  | idle | rings | waits | offered | answered => cases waiting
  | prepares prepares leads =>
      cases leads with
      | wait silent handled leads =>
          rw [List.map_cons, List.cons.injEq, Prod.mk.injEq] at waiting
          rcases waiting with ⟨⟨rfl, rfl⟩, rfl⟩
          exact ⟨false, [], comes_silent coherent unread prepares silent handled leads, rfl⟩
      | report silent handled reached =>
          rw [List.map_singleton, List.cons.injEq, Prod.mk.injEq] at waiting
          rcases waiting with ⟨⟨rfl, rfl⟩, rfl⟩
          exact ⟨true, _,
            comes_speech coherent unread settings prepares silent handled reached, rfl⟩
  | active current established joins hands answered connects =>
      cases connects with
      | done => cases waiting
      | move handled connects =>
          rw [List.map_cons, List.cons.injEq, Prod.mk.injEq] at waiting
          rcases waiting with ⟨⟨rfl, rfl⟩, rfl⟩
          exact ⟨true, [], comes_connecting coherent unread current established joins hands
            answered handled connects, List.append_nil _⟩

end RoomCall.Duet
