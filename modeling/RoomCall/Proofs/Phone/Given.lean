import RoomCall.Proofs.Phone.Foreign
import RoomCall.Proofs.Phone.Provenance

/-!
# What engines are given of the other side

Descriptions and candidates of the other side reach an engine in few steps only. For a call that
was started here there are four: the first answer arrives, candidates arrive for it, and later
candidates or new descriptions arrive. `Phone.Advances` lists them; everything else gives the engine
nothing and leaves what is known of the other side as it was.
-/

namespace RoomCall

variable {ε : Type}

namespace LogEntry

/-- The requests by which engines are given what the other side has sent, whatever their
negotiation. -/
def given (entries : List LogEntry) : List Engine.Request :=
  entries.filterMap fun entry =>
    match entry with
    | .traffic _ (.request request) => if request.isDelivery then some request else none
    | _ => none

@[simp]
theorem given_nil : given [] = [] := rfl

@[simp]
theorem given_append (first second : List LogEntry) :
    given (first ++ second) = given first ++ given second :=
  List.filterMap_append

theorem given_append_of_nil {first : List LogEntry} (nothing : given first = [])
    (second : List LogEntry) : given (first ++ second) = given second := by
  rw [given_append, nothing, List.nil_append]

@[simp]
theorem given_traffic (session : SessionId) (contents : List Traffic) :
    given (contents.map (LogEntry.traffic session)) = Traffic.deliveries contents := by
  induction contents with
  | nil => rfl
  | cons content later ih =>
      cases content with
      | callback => exact ih
      | request request =>
          cases delivery : request.isDelivery <;>
            simp_all [given, Traffic.deliveries, Traffic.requests]

theorem given_of_silent {entries : List LogEntry} (silent : entries.any isTraffic = false) :
    given entries = [] := by
  apply List.filterMap_eq_nil_iff.mpr
  intro entry there
  cases entry with
  | traffic => exact absurd rfl (List.any_eq_false.mp silent _ there)
  | errand => rfl
  | announcement => rfl

@[simp]
theorem given_stageEntries (notices : List Notice) : given (stageEntries notices) = [] :=
  given_of_silent (any_isTraffic_stageEntries notices)

@[simp]
theorem given_phaseEntries (before after : Phase) : given (phaseEntries before after) = [] :=
  given_of_silent (any_isTraffic_phaseEntries before after)

@[simp]
theorem given_rosterEntries (before after : Roster) : given (rosterEntries before after) = [] :=
  given_of_silent (any_isTraffic_rosterEntries before after)

@[simp]
theorem given_descriptionEntries (phone : Phone ε) (call : Call ε) (description : String)
    (candidates : List Candidate) (side : Role) :
    given (phone.descriptionEntries call description candidates side) = [] :=
  given_of_silent (any_isTraffic_descriptionEntries phone call description candidates side)

@[simp]
theorem given_errand (errand : Errand) (later : List LogEntry) :
    given (.errand errand :: later) = given later := rfl

@[simp]
theorem given_announcement (announcement : Announcement) (later : List LogEntry) :
    given (.announcement announcement :: later) = given later := rfl

end LogEntry

@[simp]
theorem Traffic.deliveries_nil : Traffic.deliveries [] = [] := rfl

namespace Negotiation

@[simp]
theorem descriptions_candidateRequests (candidates : List Candidate) :
    (candidateRequests candidates).filterMap Engine.Request.description? = [] := by
  unfold candidateRequests
  split <;> rfl

variable [MediaEngine ε] {negotiation : Negotiation ε}

/-- A pipeline that is taken down is given nothing. -/
theorem deliveries_finish :
    Traffic.deliveries negotiation.finish.1.traffic = Traffic.deliveries negotiation.traffic := by
  rw [finish_eq, moveTo_fst]
  dsimp only
  split
  · exact deliveries_tell rfl
  · rfl

/-- A negotiation that is started gives its engine nothing, whether or not the engine refuses. -/
theorem deliveries_start (idle : negotiation.progress = .disconnected)
    (pipeline : Engine.Pipeline) :
    Traffic.deliveries (negotiation.start pipeline).1.traffic =
      Traffic.deliveries negotiation.traffic := by
  unfold start
  rw [if_neg (by simp [idle])]
  rcases @build_cases ε _ { negotiation with role := some .offering } idle pipeline with
    ⟨fault, _, refused⟩ | ⟨_, built⟩
  · rw [refused]
    exact deliveries_tell rfl
  · rw [built]
    exact (deliveries_tell rfl).trans (deliveries_tell rfl)

end Negotiation

namespace Call

variable {call later last : Call ε}

/-- What is known of the other side of a call, and what is held back of it, stays. -/
structure Keeps (call later : Call ε) : Prop where
  identity : later.identity = call.identity
  party : later.remoteParty = call.remoteParty
  description : later.heldDescription = call.heldDescription
  candidates : later.heldCandidates = call.heldCandidates

theorem Keeps.refl (call : Call ε) : call.Keeps call := ⟨rfl, rfl, rfl, rfl⟩

/-- What one step and the next keep of a call is kept by both. -/
theorem Keeps.trans (first : call.Keeps later) (second : later.Keeps last) : call.Keeps last :=
  ⟨second.identity.trans first.identity, second.party.trans first.party,
    second.description.trans first.description, second.candidates.trans first.candidates⟩

/-- The first answer binds the call to the party that it is from. -/
theorem remoteParty_answeredBy (unbound : call.remoteParty = none) (answer : Answer) :
    (call.answeredBy answer).remoteParty = answer.party := by
  unfold answeredBy Phone.bindParty
  cases answer.party
  · exact unbound
  · rfl

theorem negotiation_answeredBy (call : Call ε) (answer : Answer) :
    (call.answeredBy answer).negotiation = call.negotiation := by
  unfold answeredBy Phone.bindParty
  cases answer.party <;> rfl

end Call

namespace Phone

variable [MediaEngine ε] {phone after : Phone ε} {call later : Call ε} {occurrence : Occurrence}

open LogEntry (given)

omit [MediaEngine ε] in
theorem given_unwritten (log : after.log = phone.log) : given (written phone after) = [] := by
  rw [written_eq (log.trans (List.append_nil _).symm)]
  rfl

/-- When a call ends its engine is given nothing more. -/
theorem given_farewell
    (collected : ∀ negotiation, call.negotiation = some negotiation → negotiation.traffic = [])
    (ending : Ending) (cause : Option HangupCause) :
    given (phone.farewell call ending cause) = [] := by
  have down : given (call.negotiation.elim [] teardownEntries) = [] := by
    cases opened : call.negotiation with
    | none => rfl
    | some negotiation =>
        simp [teardownEntries, Negotiation.deliveries_finish, collected negotiation opened]
  cases cause <;> simp [farewell, down]

theorem given_ended (entries : List LogEntry)
    (collected : ∀ negotiation, call.negotiation = some negotiation → negotiation.traffic = [])
    (log : phone.log = after.log ++ entries) (ending : Ending) (cause : Option HangupCause) :
    given (written after (phone.ended call ending cause)) = given entries := by
  have grown : (phone.ended call ending cause).log =
      after.log ++ (entries ++ phone.farewell call ending cause) := by
    simp [ended, log]
  rw [written_eq grown, LogEntry.given_append, given_farewell collected, List.append_nil]

omit [MediaEngine ε] in
theorem given_keep_noted {negotiation : Negotiation ε} (call : Call ε) {entries : List LogEntry}
    (silent : given entries = []) :
    given (written phone ((phone.keep call negotiation).noted entries)) =
      Traffic.deliveries negotiation.traffic := by
  have grown : ((phone.keep call negotiation).noted entries).log =
      phone.log ++ (negotiation.traffic.map (LogEntry.traffic negotiation.id) ++ entries) := by
    simp [noted, keep_eq]
  rw [written_eq grown, LogEntry.given_append, LogEntry.given_traffic, silent, List.append_nil]

omit [MediaEngine ε] in
/-- What the engine was given shows in the log when the phone keeps its negotiation. -/
theorem given_keep (call : Call ε) (negotiation : Negotiation ε) :
    given (written phone (phone.keep call negotiation)) =
      Traffic.deliveries negotiation.traffic := by
  rw [written_eq rfl, LogEntry.given_traffic]

/-- The first answer that is heard is held back and applied if that is possible. -/
theorem after_of_first {answer : Answer} (coherent : phone.Coherent)
    (current : phone.call = some call) (outgoing : phone.phase = .outgoing)
    (heard : call.heard? occurrence = some (.answer answer))
    (unheld : call.heldDescription = none) (unbound : call.remoteParty = none) (now : Instant) :
    phone.after now occurrence =
      ({ phone with call := some (call.answeredBy answer) } : Phone ε).tryAnswer := by
  rw [after_of_heard coherent current heard, if_neg (by simp [isForeignParty, unbound])]
  simp [hearRemote, hearAnswer, outgoing, unheld, Call.answeredBy]

/-- Candidates that are listened to are held back and let an answer be applied that waits for
them. -/
theorem after_of_candidates {batch : CandidateBatch} (coherent : phone.Coherent)
    (current : phone.call = some call) (outgoing : phone.phase = .outgoing)
    (heard : call.heard? occurrence = some (.candidates batch))
    (admits : call.admits batch.party = true) (now : Instant) :
    phone.after now occurrence =
      ({ phone with call := some (call.holding batch) } : Phone ε).tryAnswer := by
  have stands := coherent.stands current
  rw [outgoing] at stands
  rw [after_of_heard coherent current heard, if_neg, hearRemote,
    hearCandidates_outgoing outgoing stands.unaccepted]
  rw [isForeignParty_eq call rfl]
  simp [admits, Message.party]

/-- What a step can do to a call that was started here, as far as the other side goes. -/
inductive Advances (phone : Phone ε) (call : Call ε) (occurrence : Occurrence) (after : Phone ε) :
    Prop where
  /-- The call is over. -/
  | ended (gone : after.call = none) (nothing : given (written phone after) = [])
  /-- Nothing comes from the other side, or it is not listened to. -/
  | rests {later : Call ε} (there : after.call = some later) (phase : after.phase = phone.phase)
      (keeps : call.Keeps later) (deaf : call.admitted occurrence = [])
      (nothing : given (written phone after) = [])
  /-- Candidates are held back for an answer. -/
  | gathered {batch : CandidateBatch}
      (heard : call.heard? occurrence = some (.candidates batch))
      (admits : call.admits batch.party = true) (outgoing : phone.phase = .outgoing)
      (settles : Settles { phone with call := some (call.holding batch) } (call.holding batch)
        after)
  /-- The first answer arrives. -/
  | answered {answer : Answer} (heard : call.heard? occurrence = some (.answer answer))
      (outgoing : phone.phase = .outgoing)
      (settles : Settles { phone with call := some (call.answeredBy answer) }
        (call.answeredBy answer) after)
  /-- Candidates are handed over. -/
  | handed {negotiation : Negotiation ε} {batch : CandidateBatch}
      (opened : call.negotiation = some negotiation)
      (heard : call.heard? occurrence = some (.candidates batch))
      (admits : call.admits batch.party = true) (active : phone.phase = .active)
      (is : after = phone.keep call (negotiation.addRemoteCandidates batch.candidates))
  /-- A new description arrives. -/
  | renegotiated {negotiation : Negotiation ε} {content : Renegotiation}
      (opened : call.negotiation = some negotiation)
      (heard : call.heard? occurrence = some (.negotiate content))
      (admits : call.admits content.party = true) (active : phone.phase = .active)
      (is : after = phone.keep call
        (negotiation.renegotiate content.description call.remoteUser content.isAnswer).1)

/-- A negotiation that offers opens without giving its engine anything of the other side. -/
theorem given_of_opens {before : Phone ε} (entries : List LogEntry)
    (opens : phone.Opens call .offering after) (log : phone.log = before.log ++ entries)
    (silent : given entries = []) : given (written before after) = [] := by
  cases opens with
  | @opened negotiation opened id outcome =>
      have grown : ((({ phone with nextSession := phone.nextSession + 1 } : Phone ε).keep
          (call.handOver .offering) negotiation).noted
            (stageEntries (Negotiation.openingStages.map .progressChanged))).log =
          before.log ++ (entries ++ (negotiation.traffic.map (LogEntry.traffic negotiation.id) ++
            stageEntries (Negotiation.openingStages.map .progressChanged))) := by
        simp [noted, keep_eq, log]
      rw [written_eq grown]
      simp [silent, opened.deliveries, Negotiation.openingDeliveries]
  | @refused negotiation error id outcome =>
      have asked : Traffic.deliveries negotiation.traffic = [] := by
        have started := @Negotiation.deliveries_start ε _
          { id := phone.nextSession, engine := phone.maker.make phone.nextSession } rfl
            phone.pipeline
        have is : (phone.opening call .offering).1 = negotiation := congrArg Prod.fst outcome
        rw [← is]
        exact started
      refine (given_ended (entries ++ (negotiation.traffic.map (LogEntry.traffic negotiation.id) ++
        [.announcement (.failure error.message)])) ?_ ?_ _ _).trans ?_
      · rintro kept ⟨⟩
        rfl
      · simp [noted, keep_eq, log]
      · simp [silent, asked]

theorem given_of_starts {before : Phone ε} {entries : List LogEntry}
    (starts : phone.Starts call .offering after) (log : phone.log = before.log ++ entries)
    (silent : given entries = []) : given (written before after) = [] := by
  cases starts with
  | opens opens => exact given_of_opens entries opens log silent
  | waits =>
      have grown : phone.log ++ (if phone.refreshing then [] else [LogEntry.errand .refreshRelay]) =
          before.log ++ (entries ++
            if phone.refreshing then [] else [LogEntry.errand .refreshRelay]) := by
        simp [log]
      rw [written_eq grown, LogEntry.given_append, silent]
      split <;> rfl

/-- A call keeps what is known of the other side when its negotiation opens. -/
theorem keeps_of_opens (opens : phone.Opens call .offering after)
    (there : after.call = some later) : call.Keeps later := by
  cases opens with
  | refused => cases there
  | opened =>
      cases there
      exact ⟨rfl, rfl, rfl, rfl⟩

theorem keeps_of_starts (starts : phone.Starts call .offering after)
    (there : after.call = some later) : call.Keeps later := by
  cases starts with
  | opens opens => exact keeps_of_opens opens there
  | waits =>
      cases there
      exact ⟨rfl, rfl, rfl, rfl⟩

/-- A reaction to a callback advances the call, and the engine is given nothing beyond. -/
theorem advances_of_reacts {negotiation : Negotiation ε} {side : Role} {callback : Engine.Callback}
    (reacts : phone.Reacts call side negotiation (negotiation.handle callback).1 after)
    (coherent : phone.Coherent) (current : phone.call = some call)
    (opened : call.negotiation = some negotiation) (runs : negotiation.Runs side)
    (ours : phone.phase = .outgoing ∨ phone.phase = .active)
    (deaf : call.admitted occurrence = []) : phone.Advances call occurrence after := by
  have nothing : Traffic.deliveries (negotiation.handle callback).1.traffic = [] := by
    rw [Negotiation.deliveries_handle, coherent.collected current opened]
    rfl
  have bare : ∀ kept, (call.keeping (negotiation.handle callback).1).negotiation = some kept →
      kept.traffic = [] := by
    rintro kept ⟨⟩
    rfl
  have rests (entries : List LogEntry) (silent : given entries = [])
      (there : after.call = some (call.keeping (negotiation.handle callback).1))
      (phase : after.phase = phone.phase)
      (log : after.log = phone.log ++ ((negotiation.handle callback).1.traffic.map
        (LogEntry.traffic (negotiation.handle callback).1.id) ++ entries)) :
      phone.Advances call occurrence after := by
    refine .rests there phase ⟨rfl, rfl, rfl, rfl⟩ deaf ?_
    rw [written_eq log, LogEntry.given_append, LogEntry.given_traffic, nothing, silent]
    rfl
  cases reacts with
  | moved =>
      exact rests _ (LogEntry.given_stageEntries _) rfl rfl (List.append_assoc ..)
  | @reported stages description candidates _ silent =>
      have outgoing : side = .offering := by
        rcases phase_of_silent coherent current opened runs silent with ⟨is, -⟩ | ⟨-, incoming, -⟩
        · exact is
        · simp [incoming] at ours
      subst outgoing
      refine rests ((phone.keep call (negotiation.handle callback).1).descriptionEntries
        (call.keeping (negotiation.handle callback).1) description candidates .offering ++
          phaseEntries phone.phase (phaseAfterReport phone.phase .offering) ++
          rosterEntries phone.roster (phone.roster.addAll call.members) ++
          stageEntries ((Role.offering.sent :: stages).map .progressChanged)) ?_ rfl rfl ?_
      · simp
      · simp [noted, described, keep_eq, Call.keeping]
  | renegotiated =>
      rw [sendNegotiate_eq] at rests ⊢
      exact rests _ rfl rfl rfl (List.append_assoc ..)
  | watched =>
      rw [setRoster_eq] at rests ⊢
      exact rests _ (LogEntry.given_rosterEntries _ _) rfl rfl (List.append_assoc ..)
  | broken =>
      refine .ended rfl ((given_ended _ bare (congrArg (phone.log ++ ·) (List.append_nil _).symm) _
        _).trans ?_)
      simpa using nothing
  | lost =>
      refine .ended rfl ((given_ended _ bare (List.append_assoc ..) _ _).trans ?_)
      simpa using nothing
  | @reportedLost description candidates =>
      refine .ended rfl ((given_ended
        ((negotiation.handle callback).1.traffic.map
          (LogEntry.traffic (negotiation.handle callback).1.id) ++
        ((phone.keep call (negotiation.handle callback).1).descriptionEntries
          (call.keeping (negotiation.handle callback).1) description candidates side ++
            (phaseEntries phone.phase (phaseAfterReport phone.phase side) ++
              (rosterEntries phone.roster (phone.roster.addAll call.members) ++
                stageEntries [.progressChanged side.sent, .progressChanged .iceFailed])))) bare ?_ _
        _).trans ?_)
      · simp [noted, described, keep_eq, Call.keeping]
      · simpa using nothing

/-- Every move advances the call that is ours, by what it admits. -/
theorem advances_of_move {now : Instant} (move : phone.Move now occurrence after)
    (coherent : phone.Coherent) (current : phone.call = some call)
    (ours : phone.phase = .outgoing ∨ phone.phase = .active) :
    phone.Advances call occurrence after := by
  have passive {P : Prop} (incoming : phone.phase = .incoming) : P := by
    simp [incoming] at ours
  have rests {same : Phone ε} {later : Call ε} (there : same.call = some later)
      (phase : same.phase = phone.phase) (keeps : call.Keeps later)
      (deaf : call.admitted occurrence = []) (log : same.log = phone.log) :
      phone.Advances call occurrence same :=
    .rests there phase keeps deaf (given_unwritten log)
  cases move with
  | still deaf => exact rests current rfl (.refl call) (deaf call current) rfl
  | plugged is =>
      exact rests current rfl (.refl call) (Call.admitted_eq_nil_of_signal (by rw [is]; rfl)) rfl
  | refreshed is =>
      exact rests current rfl (.refl call) (Call.admitted_eq_nil_of_signal (by rw [is]; rfl)) rfl
  | rang idle | dialed _ idle => simp [idle] at current
  | accepted _ _ incoming | held _ _ _ incoming => exact passive incoming
  | @resumed outcome other side after is there deferred opens =>
      rcases Option.some.inj (current.symm.trans there) with rfl
      rcases (coherent.stands current).deferred_cases deferred with ⟨rfl, -⟩ | ⟨-, incoming⟩
      · have nothing : given (written phone after) = [] :=
          given_of_opens [] opens (List.append_nil _).symm rfl
        cases gone : after.call with
        | none => exact .ended gone nothing
        | some later =>
            have keeps := keeps_of_opens opens gone
            refine .rests gone ?_ ⟨keeps.identity, keeps.party, keeps.description, keeps.candidates⟩
              (Call.admitted_eq_nil_of_signal (by rw [is]; rfl)) nothing
            exact (continues_of_opens opens gone).phase
      · exact passive incoming
  | @ended other entries ending cause there ends =>
      rcases Option.some.inj (current.symm.trans there) with rfl
      refine .ended rfl ((given_ended _ (fun _ opened => coherent.collected current opened) rfl _
        _).trans ?_)
      cases ends <;> rfl
  | gathered there heard admits outgoing settles =>
      rcases Option.some.inj (current.symm.trans there) with rfl
      exact .gathered heard admits outgoing settles
  | answered there heard admits outgoing unanswered settles =>
      rcases Option.some.inj (current.symm.trans there) with rfl
      exact .answered heard outgoing settles
  | handed there opened heard admits live =>
      rcases Option.some.inj (current.symm.trans there) with rfl
      exact .handed opened heard admits (ours.resolve_left live) rfl
  | renegotiated there opened heard admits active =>
      rcases Option.some.inj (current.symm.trans there) with rfl
      exact .renegotiated opened heard admits active rfl
  | @muted other negotiation muted is there opened =>
      rcases Option.some.inj (current.symm.trans there) with rfl
      refine .rests rfl rfl ⟨rfl, rfl, rfl, rfl⟩
        (Call.admitted_eq_nil_of_signal (by rw [is]; rfl)) ?_
      rw [given_keep_noted, Negotiation.deliveries_setMuted, coherent.collected current opened]
      · rfl
      · split <;> rfl
  | @toggled other negotiation is there opened =>
      rcases Option.some.inj (current.symm.trans there) with rfl
      refine .rests rfl rfl ⟨rfl, rfl, rfl, rfl⟩
        (Call.admitted_eq_nil_of_signal (by rw [is]; rfl)) ?_
      rw [given_keep, Negotiation.deliveries_toggleCamera, coherent.collected current opened]
      rfl
  | reacted is there opened runs reacts =>
      rcases Option.some.inj (current.symm.trans there) with rfl
      exact advances_of_reacts reacts coherent current opened runs ours
        (Call.admitted_eq_nil_of_signal (by rw [is]; rfl))

end Phone

end RoomCall
