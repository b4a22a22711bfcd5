import RoomCall.Proofs.Duet.Opening

/-!
# Hearing each other

A device passes over what it said itself. What the other side says is taken up wherever the device
stands: it rings, candidates are held back or handed to the engine, and the answer is applied as soon
as there is something to connect to.
-/

namespace RoomCall.Duet

open Engine (Scripted Script)

variable {duet : Duet} {id : CallId} {side : Role} {heard : Nat} {spoken : Bool}
  {phone : Phone Scripted} {call : Call Scripted} {now : Instant} {signal : Signal}
  {negotiation : Negotiation Scripted} {callbacks : List (SessionId × Engine.Callback)}

/-- What a device said itself is passed over. -/
theorem hear_own (current : phone.call = some call) (joins : duet.Joins id side heard call)
    (sender : signal.sender = duet.user side)
    (party : signal.message.party = some (duet.party side)) :
    phone.hear now (duet.view side) signal = phone := by
  have identity := joins.identity
  simp only [Call.identity, CallIdentity.mk.injEq] at identity
  rcases identity with ⟨_, _, ownParty, user, _⟩
  have own : Origin.of call.localUser (some call.party) signal.sender signal.message.party =
      .thisDevice := by
    simp [Origin.of, sender, party, ownParty, user]
  unfold Phone.hear
  rw [current]
  dsimp only
  unfold Phone.hearInCall
  rw [own]
  split <;> rfl

/-- What the other side says is listened to. -/
theorem hear_other (fits : duet.Fits) (current : phone.call = some call)
    (joins : duet.Joins id side heard call) (sender : signal.sender = duet.user side.other)
    (named : signal.message.call = id)
    (party : signal.message.party = some (duet.party side.other)) :
    phone.hear now (duet.view side) signal = phone.hearRemote call signal.message := by
  have identity := joins.identity
  simp only [Call.identity, CallIdentity.mk.injEq] at identity
  rcases identity with ⟨same, room, _, user, remote⟩
  have apart := fits.user_other_ne side
  have other : Origin.of call.localUser (some call.party) signal.sender signal.message.party =
      .remote := by
    simp [Origin.of, sender, user, apart]
  have familiar : Phone.isForeignParty call signal.message = false := by
    unfold Phone.isForeignParty
    rw [joins.remoteParty, party]
    split <;> simp_all
  unfold Phone.hear
  rw [current]
  dsimp only
  unfold Phone.hearInCall
  rw [other, familiar, if_neg (by simp [same, named, room, view])]
  dsimp only
  rw [if_neg (by simp [sender, remote])]

/-! ## The invite -/

/-- The invite rings. -/
theorem comes_invited (fits : duet.Fits) (unread : phone.log = [])
    (stage : duet.Stage id .answering 0 spoken phone callbacks)
    (sender : signal.sender = duet.user .offering)
    (message : signal.message = .invite (duet.invite id))
    (fresh : phone.isStale now signal.sentAt (duet.invite id) = false) :
    duet.Comes id .answering 1 spoken callbacks [] (phone.hear now (duet.view .answering) signal) := by
  cases stage with
  | idle idle names parties =>
      have other : signal.sender ≠ (duet.view .answering).localUser := by
        rw [sender]
        exact fits.apart
      have heard : phone.hear now (duet.view .answering) signal =
          phone.ringing now (duet.view .answering) signal.sender (duet.invite id) := by
        rw [← Phone.hearInvite_eq other fresh]
        simp [Phone.hear, idle, message]
      have joins : duet.Joins id .answering 1
          (phone.ringingCall (duet.view .answering) signal.sender (duet.invite id)) := by
        refine ⟨?_, rfl⟩
        simp only [Call.identity, Phone.ringingCall, parties, sender]
        rfl
      have posted : Phone.callbacks (phone.ringing now (duet.view .answering) signal.sender
          (duet.invite id)).log = [] := by
        simp only [Phone.ringing, unread, Phone.callbacks_append, Phone.callbacks_phaseEntries]
        split <;> rfl
      rw [heard]
      refine ⟨?_, ?_⟩
      · rw [posted]
        exact .rings rfl rfl rfl joins ⟨rfl, rfl⟩ (by simp) names
      · simp only [Phone.ringing, unread, LogEntry.sends_append, LogEntry.sends_phaseEntries]
        split <;> rfl
  | rings _ _ _ _ _ invited => exact absurd rfl invited
  | waits _ _ _ _ first => simp at first
  | prepares prepares => simpa using prepares.first
  | active _ _ _ _ answered => exact absurd rfl answered

/-! ## Candidates -/

theorem Joins.next (joins : duet.Joins id side 1 call) : duet.Joins id side 2 call :=
  ⟨joins.identity, joins.remoteParty⟩

/-- Candidates that are handed over change only what the engine has. -/
theorem addRemoteCandidates_onEngine (candidates : List Candidate) :
    ({ negotiation.addRemoteCandidates candidates with traffic := [] } : Negotiation Scripted) =
      negotiation.onEngine (negotiation.addRemoteCandidates candidates).engine [] := by
  rw [Negotiation.addRemoteCandidates_scripted]
  rfl

/-- Candidates are handed to the engine of a call. -/
theorem Hands.add (hands : duet.Hands side 1 call negotiation) :
    duet.Hands side 2
      (call.keeping (negotiation.addRemoteCandidates (duet.script side.other).candidates))
      (negotiation.onEngine
        (negotiation.addRemoteCandidates (duet.script side.other).candidates).engine []) where
  opened := congrArg some (addRemoteCandidates_onEngine _)
  description := hands.description
  candidates := hands.candidates
  remote := by
    change (negotiation.addRemoteCandidates _).engine.remoteCandidates = _
    rw [Negotiation.remoteCandidates_addRemoteCandidates, hands.remote]
    rfl

/-- A call holds back candidates that it has heard. -/
theorem Holds.add (holds : duet.Holds side 1 call) :
    duet.Holds side 2 (call.holding (duet.batch id side.other)) where
  description := holds.description
  candidates := congrArg (· ++ _) holds.candidates

/-- A phone that hands candidates to an engine says nothing, and no callbacks are posted. -/
theorem entries_keep (unread : phone.log = []) (quiet : negotiation.traffic = [])
    (candidates : List Candidate) :
    Phone.callbacks (phone.keep call (negotiation.addRemoteCandidates candidates)).log = [] ∧
      LogEntry.sends (phone.keep call (negotiation.addRemoteCandidates candidates)).log = [] := by
  simp [Phone.keep_eq, unread, Negotiation.callbacks_addRemoteCandidates, quiet]

/-- Candidates are handed over while the answer is being made. -/
theorem comes_candidates_preparing {queue : List Engine.Callback} (coherent : phone.Coherent)
    (unread : phone.log = []) (prepares : duet.Prepares id .answering 1 phone call negotiation)
    (leads : negotiation.Leads .answering ((duet.script .answering).description .answering)
      (duet.script .answering).candidates queue) :
    duet.Comes id .answering 2 false (queue.map (negotiation.id, ·)) []
      (phone.hearCandidates call (duet.batch id .offering)) := by
  have quiet := coherent.collected prepares.current prepares.hands.opened
  have accepted : call.accepted = true := by
    rcases phone.phase_of_silent coherent prepares.current prepares.hands.opened prepares.runs
      leads.silent with ⟨answering, _⟩ | ⟨_, incoming, _⟩
    · cases answering
    · exact (incoming ▸ coherent.stands prepares.current).accepted prepares.hands.opened
  rw [Phone.hearCandidates_live prepares.hands.opened prepares.runs (.inr accepted)]
  rcases entries_keep unread quiet (duet.script .offering).candidates with ⟨posted, silent⟩
  refine ⟨?_, silent⟩
  have added := prepares.performs.addRemoteCandidates (duet.script .offering).candidates
  rw [batch, posted, List.append_nil]
  exact @Stage.prepares duet id .answering 2 _ _ (negotiation.onEngine _ []) _
    { current := rfl
      joins := prepares.joins.next.congr rfl rfl
      hands := prepares.hands.add
      first := by simp
      runs := prepares.runs.congr rfl rfl rfl rfl
      performs := ⟨added.script, added.running⟩
      names := prepares.names }
    (leads.onEngine _ [])

/-- Candidates are handed over once the call is established. -/
theorem comes_candidates_active {queue : List Engine.Callback} (coherent : phone.Coherent)
    (unread : phone.log = []) (current : phone.call = some call)
    (established : phone.phase = .active) (joins : duet.Joins id side 1 call)
    (hands : duet.Hands side 1 call negotiation) (connects : negotiation.Connects queue) :
    duet.Comes id side 2 true (queue.map (negotiation.id, ·)) []
      (phone.hearCandidates call (duet.batch id side.other)) := by
  have quiet := coherent.collected current hands.opened
  rcases (coherent.stands current).runs hands.opened with ⟨role, runs⟩
  rw [Phone.hearCandidates_live hands.opened runs (.inl established)]
  rcases entries_keep unread quiet (duet.script side.other).candidates with ⟨posted, silent⟩
  refine ⟨?_, silent⟩
  rw [batch, posted, List.append_nil]
  exact @Stage.active duet id side 2 _ _ (negotiation.onEngine _ []) _ rfl established
    (joins.next.congr rfl rfl) hands.add (by simp) (connects.onEngine _ [])

/-- The candidates of the caller reach the device that answers, wherever it stands. -/
theorem comes_candidates_answering (fits : duet.Fits) (coherent : phone.Coherent)
    (unread : phone.log = []) (stage : duet.Stage id .answering 1 spoken phone callbacks)
    (sender : signal.sender = duet.user .offering)
    (message : signal.message = .candidates (duet.batch id .offering)) :
    duet.Comes id .answering 2 spoken callbacks []
      (phone.hear now (duet.view .answering) signal) := by
  have named : signal.message.call = id := by rw [message]; rfl
  have party : signal.message.party = some (duet.party .offering) := by rw [message]; rfl
  cases stage with
  | rings current incoming unaccepted joins holds invited names =>
      have unopened := (Phone.rings_of_unaccepted coherent current incoming unaccepted).1
      rw [hear_other fits current joins sender named party, message, Phone.hearRemote,
        Phone.hearCandidates_incoming incoming unopened]
      refine ⟨?_, ?_⟩
      · simp only [unread, Phone.callbacks_nil, List.append_nil]
        exact .rings rfl incoming unaccepted (joins.next.congr rfl rfl) holds.add (by simp) names
      · simp [unread]
  | waits current deferred joins holds first names =>
      have unopened := Phone.unopened_of_deferred coherent current deferred
      have incoming : phone.phase = .incoming := by
        rcases (coherent.stands current).deferred_cases deferred with ⟨answering, _⟩ | ⟨_, incoming⟩
        · cases answering
        · exact incoming
      rw [hear_other fits current joins sender named party, message, Phone.hearRemote,
        Phone.hearCandidates_incoming incoming unopened]
      refine ⟨?_, ?_⟩
      · simp only [unread, Phone.callbacks_nil, List.append_nil]
        exact .waits rfl deferred (joins.next.congr rfl rfl) holds.add (by simp) names
      · simp [unread]
  | prepares prepares leads =>
      rw [hear_other fits prepares.current prepares.joins sender named party, message,
        Phone.hearRemote]
      exact comes_candidates_preparing coherent unread prepares leads
  | active current established joins hands answered connects =>
      rw [hear_other fits current joins sender named party, message, Phone.hearRemote]
      exact comes_candidates_active coherent unread current established joins hands connects

/-! ## The answer -/

/-- The answer establishes the call once there is something to connect to. -/
theorem comes_applied (fits : duet.Fits) (unread : phone.log = []) (current : phone.call = some call)
    (outgoing : phone.phase = .outgoing) (joins : duet.Joins id .offering heard call)
    (answered : heard ≠ 0)
    (answer : call.heldDescription = some (duet.masked .answering).description)
    (candidates : call.heldCandidates.map Prod.snd = duet.found .answering heard)
    (opened : call.negotiation = some negotiation) (runs : negotiation.Runs side)
    (quiet : negotiation.traffic = []) (remote : negotiation.engine.remoteCandidates = [])
    (performs : negotiation.Performs (duet.script .offering))
    (sent : negotiation.progress = .offerSent)
    (ready : Phone.canConnect call (duet.masked .answering).description = true) :
    duet.Comes id .offering heard true [] [] phone.tryAnswer := by
  have words := Description.allBlank_mask (fits.words .answering)
    (duet.phone .answering).streamNames
  rcases Negotiation.acceptAnswer_scripted performs (fits.connects .offering) runs sent quiet words
      (duet.found .answering heard) call.remoteUser with ⟨accepted, taking, is, connects⟩
  rw [← candidates] at taking
  rw [Phone.tryAnswer_applied current outgoing answer opened ready sent taking]
  refine ⟨?_, ?_⟩
  · simp only [Phone.noted, Phone.keep_eq, unread, List.nil_append, Phone.callbacks_append,
      Phone.callbacks_traffic, Phone.callbacks_errand, Phone.callbacks_phaseEntries,
      Phone.callbacks_nil, List.append_nil]
    have handed : accepted.engine.remoteCandidates =
        Candidate.usable (duet.found .answering heard) := by
      rw [is, Negotiation.remoteCandidates_addRemoteCandidates]
      exact congrArg (· ++ _) remote
    exact @Stage.active duet id .offering heard _ _ (accepted.onEngine accepted.engine []) _ rfl
      rfl (joins.congr rfl rfl) ⟨rfl, rfl, rfl, handed⟩ answered (connects.onEngine _ [])
  · simp [Phone.noted, Phone.keep_eq, unread]

/-- The answer is heard when the offer is out. -/
theorem comes_answered (fits : duet.Fits) (coherent : phone.Coherent) (unread : phone.log = [])
    (stage : duet.Stage id .offering 0 true phone callbacks)
    (sender : signal.sender = duet.user .answering)
    (message : signal.message = .answer (duet.answer id)) :
    duet.Comes id .offering 1 true callbacks [] (phone.hear now (duet.view .offering) signal) := by
  have named : signal.message.call = id := by rw [message]; rfl
  have party : signal.message.party = some (duet.party .answering) := by rw [message]; rfl
  cases stage with
  | @offered _ call negotiation current outgoing joins hands performs sent =>
      rcases (coherent.stands current).runs hands.opened with ⟨side, runs⟩
      have quiet := coherent.collected current hands.opened
      have unanswered := hands.description
      have bound : duet.Joins id .offering 1 (call.answeredBy (duet.answer id)) :=
        ⟨joins.identity, rfl⟩
      have none : (call.answeredBy (duet.answer id)).heldCandidates = [] := by
        change call.heldCandidates.filter _ = []
        rw [hands.candidates, List.filter_nil]
      rw [hear_other fits current joins sender named party, message, Phone.hearRemote,
        Phone.hearAnswer, if_neg (by simp [outgoing, unanswered])]
      change duet.Comes id .offering 1 true [] []
        (Phone.tryAnswer { phone with call := some (call.answeredBy (duet.answer id)) })
      cases connected : Description.hasInlineCandidates (duet.masked .answering).description with
      | true =>
          exact comes_applied fits unread rfl outgoing bound (by simp) rfl (by rw [none]; rfl)
            hands.opened runs quiet hands.remote performs sent
            (by simp [Phone.canConnect, connected])
      | false =>
          rw [Phone.tryAnswer_unready rfl]
          · refine ⟨?_, ?_⟩
            · simp only [unread, Phone.callbacks_nil, List.append_nil]
              exact .answered rfl outgoing bound ⟨rfl, none⟩ hands.opened hands.remote performs
                sent connected
            · simp [unread]
          · intro answer other answered opened ready
            obtain rfl : (duet.masked .answering).description = answer := Option.some.inj answered
            simp [Phone.canConnect, none, connected] at ready
  | active _ _ _ _ answered => exact absurd rfl answered

/-- The candidates of the side that answers reach the caller. -/
theorem comes_candidates_offering (fits : duet.Fits) (coherent : phone.Coherent)
    (unread : phone.log = []) (stage : duet.Stage id .offering 1 spoken phone callbacks)
    (sender : signal.sender = duet.user .answering)
    (message : signal.message = .candidates (duet.batch id .answering)) :
    duet.Comes id .offering 2 spoken callbacks []
      (phone.hear now (duet.view .offering) signal) := by
  have named : signal.message.call = id := by rw [message]; rfl
  have party : signal.message.party = some (duet.party .answering) := by rw [message]; rfl
  cases stage with
  | waits _ _ _ _ first => simp at first
  | prepares prepares => simpa using prepares.first
  | @answered _ call _ current outgoing joins holds opened remote performs sent unconnected =>
      rcases (coherent.stands current).runs opened with ⟨side, runs⟩
      have quiet := coherent.collected current opened
      have unaccepted := (outgoing ▸ coherent.stands current).unaccepted
      have there : (duet.script .answering).candidates ≠ [] := by
        rcases fits.reachable with there | inline
        · exact there
        · simp [unconnected] at inline
      have held : duet.Holds .offering 2 (call.holding (duet.batch id .answering)) := holds.add
      have candidates : (call.holding (duet.batch id .answering)).heldCandidates.map Prod.snd =
          duet.found .answering 2 := by
        rw [held.candidates, List.map_map]
        exact List.map_id _
      have ready : Phone.canConnect (call.holding (duet.batch id .answering))
          (duet.masked .answering).description = true := by
        simp [Phone.canConnect, held.candidates, found, Role.other, there]
      rw [hear_other fits current joins sender named party, message, Phone.hearRemote,
        Phone.hearCandidates_outgoing outgoing unaccepted]
      exact comes_applied fits unread rfl outgoing (joins.next.congr rfl rfl) (by simp)
        held.description candidates opened runs quiet remote performs sent ready
  | active current established joins hands answered connects =>
      rw [hear_other fits current joins sender named party, message, Phone.hearRemote]
      exact comes_candidates_active coherent unread current established joins hands connects

end RoomCall.Duet
