import RoomCall.Proofs.Phone.Reached

/-!
# No candidate is lost

Candidates reach the engine of a call on several ways: they are held back while the call rings,
while relay credentials are asked for and while the answer is missing, and later they are handed
over at once. `Call.Conserves` is what all of this preserves: as long as the call waits, what is held
back is exactly what the other side has sent, and from then on exactly that was handed over.
-/

namespace RoomCall

variable {ε : Type}

namespace LogEntry

/-- The requests to the engine of a negotiation that hand over what the other side has sent. -/
def deliveries (session : SessionId) (entries : List LogEntry) : List Engine.Request :=
  entries.filterMap fun entry =>
    match entry with
    | .traffic other (.request request) =>
        if other = session ∧ request.isDelivery then some request else none
    | _ => none

/-- Whether an entry is about an engine. -/
def isTraffic : LogEntry → Bool
  | .traffic _ _ => true
  | _ => false

@[simp]
theorem deliveries_nil (session : SessionId) : deliveries session [] = [] := rfl

@[simp]
theorem deliveries_append (session : SessionId) (first second : List LogEntry) :
    deliveries session (first ++ second) = deliveries session first ++ deliveries session second :=
  List.filterMap_append

theorem deliveries_traffic (session : SessionId) (contents : List Traffic) :
    deliveries session (contents.map (LogEntry.traffic session)) = Traffic.deliveries contents := by
  induction contents with
  | nil => rfl
  | cons content later ih =>
      cases content with
      | callback => exact ih
      | request request =>
          cases delivery : request.isDelivery <;>
            simp_all [deliveries, Traffic.deliveries, Traffic.requests]

theorem deliveries_of_silent {entries : List LogEntry} (silent : entries.any isTraffic = false)
    (session : SessionId) : deliveries session entries = [] := by
  rw [List.any_eq_false] at silent
  apply List.filterMap_eq_nil_iff.mpr
  intro entry there
  cases entry with
  | traffic => exact absurd rfl (silent _ there)
  | errand => rfl
  | announcement => rfl

@[simp]
theorem any_isTraffic_stageEntries (notices : List Notice) :
    (stageEntries notices).any isTraffic = false :=
  List.any_eq_false.mpr (forall_mem_stageEntries (fun _ => Bool.false_ne_true) _)

@[simp]
theorem any_isTraffic_phaseEntries (before after : Phase) :
    (phaseEntries before after).any isTraffic = false :=
  List.any_eq_false.mpr (forall_mem_phaseEntries (fun _ => Bool.false_ne_true) _ _)

@[simp]
theorem any_isTraffic_rosterEntries (before after : Roster) :
    (rosterEntries before after).any isTraffic = false :=
  List.any_eq_false.mpr (forall_mem_rosterEntries Bool.false_ne_true _ _)

@[simp]
theorem any_isTraffic_descriptionEntries (phone : Phone ε) (call : Call ε) (description : String)
    (candidates : List Candidate) (side : Role) :
    (phone.descriptionEntries call description candidates side).any isTraffic = false :=
  List.any_eq_false.mpr
    (Phone.forall_mem_descriptionEntries (fun _ => Bool.false_ne_true) _ _ _ _ _)

end LogEntry

namespace Call

variable {call : Call ε}

/-- What the other side of a call has sent among some occurrences, as far as it is listened to. -/
def collected (call : Call ε) (occurrences : List Occurrence) : List (Option PartyId × Candidate) :=
  (occurrences.flatMap call.brought).filter fun candidate => call.admits candidate.1

/-- The candidates among some entries that were handed to the engine of a call. -/
def handed (call : Call ε) (entries : List LogEntry) : List Candidate :=
  match call.negotiation with
  | some negotiation =>
      (LogEntry.deliveries negotiation.id entries).flatMap Engine.Request.candidates
  | none => []

/-- What the other side of a call has sent reaches the engine: nothing while the call waits, and
then all of it in order. -/
structure Conserves (phase : Phase) (call : Call ε) (occurrences : List Occurrence)
    (entries : List LogEntry) : Prop where
  /-- Without a negotiation nothing was handed to an engine. -/
  unopened : call.negotiation = none → ∀ session, LogEntry.deliveries session entries = []
  /-- Before the answer is applied nothing was handed to the engine. -/
  unanswered : ∀ {negotiation}, phase = .outgoing → call.negotiation = some negotiation →
    LogEntry.deliveries negotiation.id entries = []
  /-- As long as the call waits, everything that was sent is held back. -/
  held : phase = .outgoing ∨ call.negotiation = none →
    call.heldCandidates = call.collected occurrences
  /-- From then on everything that was sent has been handed over. -/
  handed : ∀ {negotiation}, phase ≠ .outgoing → call.negotiation = some negotiation →
    (LogEntry.deliveries negotiation.id entries).flatMap Engine.Request.candidates =
      Candidate.usable ((call.collected occurrences).map Prod.snd)

theorem collected_append (occurrences : List Occurrence) (occurrence : Occurrence) :
    call.collected (occurrences ++ [occurrence]) =
      call.collected occurrences ++ call.admitted occurrence := by
  simp [collected, admitted]

/-- A candidate that was collected was heard in some batch of a party that is listened to. -/
theorem heard_of_collected {occurrences : List Occurrence} {party : Option PartyId}
    {candidate : Candidate} (there : (party, candidate) ∈ call.collected occurrences) :
    ∃ occurrence ∈ occurrences, ∃ batch, call.heard? occurrence = some (.candidates batch) ∧
      call.admits batch.party = true ∧ candidate ∈ batch.candidates := by
  rcases List.mem_filter.mp there with ⟨brought, admits⟩
  rcases List.mem_flatMap.mp brought with ⟨occurrence, happened, brings⟩
  unfold Call.brought at brings
  split at brings
  · rename_i batch heard
    rcases List.mem_map.mp brings with ⟨found, inside, same⟩
    rw [Prod.mk.injEq] at same
    rcases same with ⟨rfl, rfl⟩
    exact ⟨occurrence, happened, batch, heard, admits, inside⟩
  · simp at brings

variable {phase : Phase} {occurrences : List Occurrence} {entries more : List LogEntry}
  {occurrence : Occurrence}

/-- An occurrence that brings no candidates changes nothing for them. -/
theorem Conserves.unheard (conserves : call.Conserves phase occurrences entries)
    (none : call.admitted occurrence = []) :
    call.Conserves phase (occurrences ++ [occurrence]) entries := by
  have same : call.collected (occurrences ++ [occurrence]) = call.collected occurrences := by
    rw [collected_append, none, List.append_nil]
  exact ⟨conserves.unopened, conserves.unanswered, same ▸ conserves.held, same ▸ conserves.handed⟩

/-- Neither do entries that are not about an engine. -/
theorem Conserves.silent (conserves : call.Conserves phase occurrences entries)
    (silent : more.any LogEntry.isTraffic = false) :
    call.Conserves phase occurrences (entries ++ more) := by
  have nothing (session : SessionId) : LogEntry.deliveries session (entries ++ more) =
      LogEntry.deliveries session entries := by
    rw [LogEntry.deliveries_append, LogEntry.deliveries_of_silent silent, List.append_nil]
  refine ⟨?_, ?_, conserves.held, ?_⟩
  · intro unopened session
    rw [nothing, conserves.unopened unopened]
  · intro negotiation outgoing opened
    rw [nothing, conserves.unanswered outgoing opened]
  · intro negotiation answered opened
    rw [nothing, conserves.handed answered opened]

/-- Candidates that arrive while the call waits are held back. -/
theorem Conserves.holding {batch : CandidateBatch}
    (conserves : call.Conserves phase occurrences entries)
    (arrived : call.admitted occurrence =
      batch.candidates.map fun candidate => (batch.party, candidate))
    (waits : phase = .outgoing ∨ call.negotiation = none) :
    (call.holding batch).Conserves phase (occurrences ++ [occurrence]) entries := by
  refine ⟨conserves.unopened, conserves.unanswered, ?_, ?_⟩
  · intro _
    change call.heldCandidates ++ _ = call.collected (occurrences ++ [occurrence])
    rw [collected_append, arrived, conserves.held waits]
  · intro negotiation answered opened
    rcases waits with outgoing | unopened
    · exact absurd outgoing answered
    · exact absurd (unopened.symm.trans opened) (by simp)

/-- A call that opens has nothing held back yet. -/
theorem conserves_opening (unopened : call.negotiation = none) (empty : call.heldCandidates = [])
    (none : call.admitted occurrence = []) : call.Conserves phase [occurrence] [] := by
  have nothing : call.collected [occurrence] = [] := by
    rw [← List.nil_append [occurrence], collected_append, none]
    rfl
  refine ⟨fun _ _ => rfl, ?_, fun _ => empty.trans nothing.symm, ?_⟩
  · intro negotiation _ opened
    exact absurd (unopened.symm.trans opened) (by simp)
  · intro negotiation _ opened
    exact absurd (unopened.symm.trans opened) (by simp)

/-- An operation on the negotiation hands over the candidates that arrive. -/
theorem Conserves.keep {after : Phase} {negotiation asked : Negotiation ε}
    (conserves : call.Conserves phase occurrences entries)
    (opened : call.negotiation = some negotiation) (id : asked.id = negotiation.id)
    (fits : after = .outgoing ↔ phase = .outgoing)
    (waits : phase = .outgoing →
      call.admitted occurrence = [] ∧ Traffic.deliveries asked.traffic = [])
    (hands : (Traffic.deliveries asked.traffic).flatMap Engine.Request.candidates =
      Candidate.usable ((call.admitted occurrence).map Prod.snd))
    (silent : more.any LogEntry.isTraffic = false) :
    (call.keeping asked).Conserves after (occurrences ++ [occurrence])
      (entries ++ (asked.traffic.map (LogEntry.traffic asked.id) ++ more)) := by
  have grown : LogEntry.deliveries asked.id
      (entries ++ (asked.traffic.map (LogEntry.traffic asked.id) ++ more)) =
        LogEntry.deliveries negotiation.id entries ++ Traffic.deliveries asked.traffic := by
    rw [LogEntry.deliveries_append, LogEntry.deliveries_append, LogEntry.deliveries_traffic,
      LogEntry.deliveries_of_silent silent, List.append_nil, id]
  have same : (call.keeping asked).collected (occurrences ++ [occurrence]) =
      call.collected occurrences ++ call.admitted occurrence := collected_append _ _
  refine ⟨?_, ?_, ?_, ?_⟩
  · rintro ⟨⟩
  · rintro other outgoing ⟨⟩
    dsimp only
    have before := fits.mp outgoing
    rw [grown, conserves.unanswered before opened, (waits before).2]
    rfl
  · intro still
    have outgoing : phase = .outgoing := by
      rcases still with outgoing | unopened
      · exact fits.mp outgoing
      · cases unopened
    rw [same, (waits outgoing).1, List.append_nil]
    exact conserves.held (.inl outgoing)
  · rintro other answered ⟨⟩
    dsimp only
    have before : phase ≠ .outgoing := fun outgoing => answered (fits.mpr outgoing)
    rw [grown, same, List.flatMap_append, conserves.handed before opened, hands, List.map_append,
      Candidate.usable_append]

/-- An answer binds the call to its party; what was held back from other parties goes. -/
theorem collected_answeredBy (answer : Answer) (listened : call.admits answer.party = true) :
    (call.answeredBy answer).collected occurrences =
      (call.collected occurrences).filter fun candidate =>
        answer.party.all fun party => candidate.1.all (· = party) := by
  have brought : (call.answeredBy answer).brought = call.brought := by
    unfold answeredBy Phone.bindParty
    cases answer.party <;> rfl
  have listens (party : Option PartyId) : (call.answeredBy answer).admits party =
      (answer.party.all (fun bound => party.all (· = bound)) && call.admits party) := by
    unfold answeredBy Phone.bindParty
    unfold admits at listened ⊢
    cases bound : answer.party with
    | none => simp
    | some bound' =>
        rw [bound] at listened
        cases known : call.remoteParty with
        | none => simp
        | some party' =>
            rw [known] at listened
            simp only [Option.all_some, decide_eq_true_eq] at listened
            subst listened
            simp
  unfold collected
  rw [List.filter_filter, brought]
  simp only [listens]

theorem heldCandidates_answeredBy (answer : Answer) :
    (call.answeredBy answer).heldCandidates =
      call.heldCandidates.filter fun candidate =>
        answer.party.all fun party => candidate.1.all (· = party) := by
  unfold answeredBy Phone.bindParty
  cases answer.party
  · exact (List.filter_eq_self.mpr fun _ _ => rfl).symm
  · rfl

theorem Conserves.answeredBy {answer : Answer}
    (conserves : call.Conserves .outgoing occurrences entries)
    (listened : call.admits answer.party = true) (none : call.admitted occurrence = []) :
    (call.answeredBy answer).Conserves .outgoing (occurrences ++ [occurrence]) entries := by
  have opened : (call.answeredBy answer).negotiation = call.negotiation := by
    unfold Call.answeredBy Phone.bindParty
    cases answer.party <;> rfl
  refine ⟨?_, ?_, ?_, ?_⟩
  · rw [opened]
    exact conserves.unopened
  · rw [opened]
    exact conserves.unanswered
  · intro waits
    rw [heldCandidates_answeredBy, collected_answeredBy answer listened, collected_append, none,
      List.append_nil, conserves.held (.inl rfl)]
  · intro negotiation answered
    exact absurd rfl answered

end Call

namespace Phone

variable [MediaEngine ε] {phone after : Phone ε} {call : Call ε} {occurrences : List Occurrence}
  {entries : List LogEntry} {occurrence : Occurrence}

/-- What has to hold after a step: candidates are conserved for the call that is there then. -/
def Conserves (before after : Phone ε) (occurrences : List Occurrence) (entries : List LogEntry) :
    Prop :=
  ∀ call, after.call = some call →
    call.Conserves after.phase occurrences (entries ++ written before after)

omit [MediaEngine ε] in
theorem conserves_ended (gone : after.call = none) :
    phone.Conserves after occurrences entries := by
  intro call current
  simp [gone] at current

omit [MediaEngine ε] in
theorem conserves_of_log (call : Call ε) (more : List LogEntry) (current : after.call = some call)
    (log : after.log = phone.log ++ more)
    (conserves : call.Conserves after.phase occurrences (entries ++ more)) :
    phone.Conserves after occurrences entries := by
  intro other otherCurrent
  rw [current, Option.some.injEq] at otherCurrent
  rw [← otherCurrent, written_eq log]
  exact conserves

/-- A negotiation that opens is handed everything that was held back. -/
theorem conserves_of_opens {side : Role} {before : Phone ε} (more : List LogEntry)
    (opens : phone.Opens call side after) (fits : phone.Fits call side)
    (unopened : call.negotiation = none) (log : phone.log = before.log ++ more)
    (silent : more.any LogEntry.isTraffic = false)
    (conserves : call.Conserves phone.phase occurrences entries) :
    before.Conserves after occurrences entries := by
  cases opens with
  | refused => exact conserves_ended rfl
  | @opened negotiation opened id =>
      refine conserves_of_log ((call.handOver side).keeping negotiation)
        (more ++ (negotiation.traffic.map (LogEntry.traffic negotiation.id) ++
          stageEntries (Negotiation.openingStages.map .progressChanged))) rfl ?_ ?_
      · simp [noted, keep_eq, log]
      · have grown : LogEntry.deliveries negotiation.id (entries ++ (more ++
            (negotiation.traffic.map (LogEntry.traffic negotiation.id) ++
              stageEntries (Negotiation.openingStages.map .progressChanged)))) =
            Negotiation.openingDeliveries (call.heldDescription.getD "")
              (call.heldCandidates.map Prod.snd) side := by
          simp only [LogEntry.deliveries_append, conserves.unopened unopened,
            LogEntry.deliveries_of_silent silent, LogEntry.deliveries_traffic, opened.deliveries,
            LogEntry.deliveries_of_silent (LogEntry.any_isTraffic_stageEntries _)]
          simp
        have held := conserves.held (.inr unopened)
        cases side with
        | offering =>
            refine ⟨?_, ?_, fun _ => held, ?_⟩
            · rintro ⟨⟩
            · rintro other _ ⟨⟩
              exact grown
            · intro other answered
              exact absurd fits.1 answered
        | answering =>
            have incoming : phone.phase ≠ .outgoing := by simp [fits.1]
            refine ⟨?_, ?_, ?_, ?_⟩
            · rintro ⟨⟩
            · intro other outgoing
              exact absurd outgoing incoming
            · rintro (outgoing | ⟨⟨⟩⟩)
              exact absurd outgoing incoming
            · rintro other _ ⟨⟩
              have same : ((call.handOver .answering).keeping negotiation).collected occurrences =
                  call.collected occurrences := rfl
              dsimp only
              rw [grown, same, ← held, Negotiation.openingDeliveries, List.flatMap_cons,
                Negotiation.candidates_candidateRequests]
              rfl

theorem conserves_of_starts {side : Role} {before : Phone ε} (more : List LogEntry)
    (starts : phone.Starts call side after) (fits : phone.Fits call side)
    (unopened : call.negotiation = none) (log : phone.log = before.log ++ more)
    (silent : more.any LogEntry.isTraffic = false)
    (conserves : call.Conserves phone.phase occurrences entries) :
    before.Conserves after occurrences entries := by
  cases starts with
  | opens opens => exact conserves_of_opens more opens fits unopened log silent conserves
  | waits =>
      have quiet : (more ++ if phone.refreshing then [] else
          [LogEntry.errand .refreshRelay]).any LogEntry.isTraffic = false := by
        rw [List.any_append, silent]
        split <;> rfl
      refine conserves_of_log { call with deferred := some side }
        (more ++ if phone.refreshing then [] else [LogEntry.errand .refreshRelay]) rfl ?_ ?_
      · simp [log]
      · refine ⟨?_, ?_, conserves.held, ?_⟩
        · intro _ session
          rw [LogEntry.deliveries_append, conserves.unopened unopened,
            LogEntry.deliveries_of_silent quiet]
          rfl
        · intro negotiation _ opened
          exact absurd (unopened.symm.trans opened) (by simp)
        · intro negotiation _ opened
          exact absurd (unopened.symm.trans opened) (by simp)

/-- An answer that is applied is followed by what was held back, and by nothing else. -/
theorem deliveries_applied {negotiation : Negotiation ε}
    (quiet : negotiation.traffic = []) (answer : String) (candidates : List Candidate)
    (user : UserId) (phase : Phase) :
    LogEntry.deliveries negotiation.id
      (((negotiation.applyRemote answer .answer user).1.addRemoteCandidates candidates).traffic.map
        (LogEntry.traffic negotiation.id) ++
          LogEntry.errand .cancelTimer :: phaseEntries phase .active) =
      .applyRemote .answer answer :: Negotiation.candidateRequests candidates := by
  have silent : (LogEntry.errand .cancelTimer :: phaseEntries phase .active).any
      LogEntry.isTraffic = false := by
    rw [List.any_cons, LogEntry.any_isTraffic_phaseEntries]
    rfl
  have nothing : Traffic.deliveries negotiation.traffic = [] := by
    rw [quiet]
    rfl
  rw [LogEntry.deliveries_append, LogEntry.deliveries_traffic, LogEntry.deliveries_of_silent silent,
    Negotiation.deliveries_addRemoteCandidates, Negotiation.deliveries_applyRemote, nothing]
  simp

/-- An answer that is applied is followed by everything that was held back. -/
theorem conserves_of_settles {other : Call ε} (outgoing : phone.phase = .outgoing)
    (settles : Settles { phone with call := some other } other after)
    (collected : ∀ negotiation, other.negotiation = some negotiation → negotiation.traffic = [])
    (conserves : other.Conserves .outgoing occurrences entries) :
    phone.Conserves after occurrences entries := by
  cases settles with
  | refused => exact conserves_ended rfl
  | waits =>
      refine conserves_of_log other [] rfl (List.append_nil _).symm ?_
      rw [List.append_nil]
      exact outgoing ▸ conserves
  | @applied answer negotiation answered opened sent ready =>
      refine conserves_of_log (other.emptied.keeping _)
        (((negotiation.applyRemote answer .answer other.remoteUser).1.addRemoteCandidates
          (other.heldCandidates.map Prod.snd)).traffic.map (LogEntry.traffic negotiation.id) ++
            LogEntry.errand .cancelTimer :: phaseEntries phone.phase .active) rfl ?_ ?_
      · simp [noted, keep_eq]
      · refine ⟨?_, ?_, ?_, ?_⟩
        · rintro ⟨⟩
        · rintro same ⟨⟩
        · rintro (⟨⟨⟩⟩ | ⟨⟨⟩⟩)
        · intro same _ there
          have id : same.id = negotiation.id := by
            cases there
            exact Negotiation.id_addRemoteCandidates _
          change _ = Candidate.usable ((other.collected occurrences).map Prod.snd)
          rw [id, ← conserves.held (.inl rfl), LogEntry.deliveries_append,
            conserves.unanswered rfl opened, deliveries_applied (collected _ opened)]
          simp only [List.nil_append, List.flatMap_cons, Negotiation.candidates_candidateRequests]
          rfl

omit [MediaEngine ε] in
/-- An operation on the negotiation of a call that hands over the candidates that arrive. -/
theorem conserves_of_keep {kept : Phone ε} {negotiation asked : Negotiation ε}
    (more : List LogEntry) (opened : call.negotiation = some negotiation)
    (id : asked.id = negotiation.id) (call' : kept.call = some (call.keeping asked))
    (log : kept.log = phone.log ++ (asked.traffic.map (LogEntry.traffic asked.id) ++ more))
    (fits : kept.phase = .outgoing ↔ phone.phase = .outgoing)
    (waits : phone.phase = .outgoing →
      call.admitted occurrence = [] ∧ Traffic.deliveries asked.traffic = [])
    (hands : (Traffic.deliveries asked.traffic).flatMap Engine.Request.candidates =
      Candidate.usable ((call.admitted occurrence).map Prod.snd))
    (silent : more.any LogEntry.isTraffic = false)
    (conserves : call.Conserves phone.phase occurrences entries) :
    phone.Conserves kept (occurrences ++ [occurrence]) entries :=
  conserves_of_log _ _ call' log (conserves.keep opened id fits waits hands silent)

/-- Nothing is handed over by a callback, whatever its negotiation does. -/
theorem conserves_of_reacts {negotiation : Negotiation ε} {side : Role}
    {callback : Engine.Callback}
    (reacts : phone.Reacts call side negotiation (negotiation.handle callback).1 after)
    (coherent : phone.Coherent) (current : phone.call = some call)
    (opened : call.negotiation = some negotiation) (runs : negotiation.Runs side)
    (none : call.admitted occurrence = [])
    (conserves : call.Conserves phone.phase occurrences entries) :
    phone.Conserves after (occurrences ++ [occurrence]) entries := by
  have nothing : Traffic.deliveries (negotiation.handle callback).1.traffic = [] := by
    rw [Negotiation.deliveries_handle, coherent.collected current opened]
    rfl
  have kept {kept : Phone ε} (more : List LogEntry)
      (call' : kept.call = some (call.keeping (negotiation.handle callback).1))
      (log : kept.log = phone.log ++ ((negotiation.handle callback).1.traffic.map
        (LogEntry.traffic (negotiation.handle callback).1.id) ++ more))
      (fits : kept.phase = .outgoing ↔ phone.phase = .outgoing)
      (silent : more.any LogEntry.isTraffic = false) :
      phone.Conserves kept (occurrences ++ [occurrence]) entries := by
    refine conserves_of_keep _ opened (Negotiation.id_handle callback) call' log fits ?_ ?_
      silent conserves
    · exact fun _ => ⟨none, nothing⟩
    · rw [none, nothing]
      rfl
  cases reacts with
  | broken | lost | reportedLost => exact conserves_ended rfl
  | moved =>
      exact kept _ rfl (List.append_assoc ..) Iff.rfl (LogEntry.any_isTraffic_stageEntries _)
  | renegotiated =>
      rw [sendNegotiate_eq]
      exact kept _ rfl (List.append_assoc ..) Iff.rfl rfl
  | watched =>
      rw [setRoster_eq]
      exact kept _ rfl (List.append_assoc ..) Iff.rfl (LogEntry.any_isTraffic_rosterEntries _ _)
  | @reported stages description candidates _ silent =>
      refine kept ((phone.keep call (negotiation.handle callback).1).descriptionEntries
        (call.keeping (negotiation.handle callback).1) description candidates side ++
          (phaseEntries phone.phase (phaseAfterReport phone.phase side) ++
            (rosterEntries phone.roster (phone.roster.addAll call.members) ++
              stageEntries ((side.sent :: stages).map .progressChanged)))) rfl ?_ ?_ ?_
      · simp [noted, described, keep_eq, Call.keeping]
      · rcases phase_of_silent coherent current opened runs silent with
          ⟨rfl, outgoing, _⟩ | ⟨rfl, incoming, _⟩
        · exact Iff.rfl
        · simp [noted, described, phaseAfterReport, incoming]
      · simp only [List.any_append, LogEntry.any_isTraffic_descriptionEntries,
          LogEntry.any_isTraffic_phaseEntries, LogEntry.any_isTraffic_rosterEntries,
          LogEntry.any_isTraffic_stageEntries, Bool.or_self]

/-- Every move conserves the candidates of the call that is there after it. -/
theorem conserves_of_move {now : Instant} {history : History}
    (move : phone.Move now occurrence after) (coherent : phone.Coherent)
    (fresh : phone.call = none → history = {})
    (conserves : ∀ call, phone.call = some call →
      call.Conserves phone.phase history.occurrences history.entries) :
    phone.Conserves after (history.occurrences ++ [occurrence]) history.entries := by
  have unread {same : Phone ε} (current : same.call = phone.call) (log : same.log = phone.log)
      (phase : same.phase = phone.phase)
      (none : ∀ call, phone.call = some call → call.admitted occurrence = []) :
      phone.Conserves same (history.occurrences ++ [occurrence]) history.entries := by
    intro call there
    have before := current.symm.trans there
    have silent : written phone same = [] := written_eq (log.trans (List.append_nil _).symm)
    rw [silent, List.append_nil, phase]
    exact (conserves call before).unheard (none call before)
  have unheard {call : Call ε} (current : phone.call = some call)
      (silent : occurrence.signal? = none) :
      call.Conserves phone.phase (history.occurrences ++ [occurrence]) history.entries :=
    (conserves call current).unheard (Call.admitted_eq_nil_of_signal silent)
  cases move with
  | still deaf => exact unread rfl rfl rfl deaf
  | plugged is => exact unread rfl rfl rfl fun _ _ => Call.admitted_eq_nil_of_signal (by rw [is]; rfl)
  | refreshed is => exact unread rfl rfl rfl fun _ _ => Call.admitted_eq_nil_of_signal (by rw [is]; rfl)
  | @resumed outcome call side after is current deferred opens =>
      have fits := fits_of_deferred coherent current deferred
      have waiting := unheard current (by rw [is]; rfl)
      have unopened := unopened_of_deferred coherent current deferred
      refine conserves_of_opens [] opens ?_ unopened (List.append_nil _).symm rfl ?_
      · cases side <;> exact fits
      · exact ⟨waiting.unopened, waiting.unanswered, waiting.held, waiting.handed⟩
  | @rang membership signal invite idle heard message =>
      have silent : (phone.ringingCall membership signal.sender invite).admitted occurrence = [] := by
        apply Call.admitted_eq_nil_of_heard
        intro batch
        simp only [Call.heard?, heard, message]
        split <;> simp
      rw [fresh idle]
      refine conserves_of_log (phone.ringingCall membership signal.sender invite)
        (phaseEntries phone.phase .incoming ++
          [.errand (.armTimer invite.call invite.lifetime),
            .announcement (.incomingCall signal.sender membership.room invite.lifetime
              invite.call)] ++
          if phone.relay.isFresh now || phone.refreshing then [] else [.errand .refreshRelay])
        rfl ?_ ?_
      · simp [ringing]
      · refine (Call.conserves_opening rfl rfl silent).silent ?_
        rw [List.any_append, List.any_append, LogEntry.any_isTraffic_phaseEntries]
        split <;> rfl
  | @dialed membership callee after is idle known capable starts =>
      rw [fresh idle]
      exact conserves_of_starts _ starts ⟨rfl, rfl⟩ rfl rfl (LogEntry.any_isTraffic_phaseEntries _ _)
        (Call.conserves_opening rfl rfl (Call.admitted_eq_nil_of_signal (by rw [is]; rfl)))
  | @accepted call after is current incoming unaccepted compatible starts =>
      have unopened := (rings_of_unaccepted coherent current incoming unaccepted).1
      have offer : call.heldDescription.isSome = true := by
        cases held : call.heldDescription with
        | none => simp [held] at compatible
        | some offer => rfl
      have waiting := unheard current (by rw [is]; rfl)
      refine conserves_of_starts _ starts ⟨incoming, rfl, offer⟩ unopened rfl rfl ?_
      exact ⟨waiting.unopened, waiting.unanswered, waiting.held, waiting.handed⟩
  | ended => exact conserves_ended rfl
  | @held call batch current heard admits incoming unopened =>
      refine conserves_of_log (call.holding batch) [] rfl (List.append_nil _).symm ?_
      rw [List.append_nil]
      exact (conserves call current).holding (Call.admitted_candidates heard admits) (.inr unopened)
  | @gathered call batch after current heard admits outgoing settles =>
      have waiting := conserves call current
      rw [outgoing] at waiting
      refine conserves_of_settles outgoing settles ?_
        (waiting.holding (Call.admitted_candidates heard admits) (.inl rfl))
      intro negotiation opened
      exact coherent.collected current opened
  | @answered call answer after current heard admits outgoing unanswered settles =>
      have waiting := conserves call current
      rw [outgoing] at waiting
      refine conserves_of_settles outgoing settles ?_ (waiting.answeredBy admits ?_)
      · intro negotiation opened
        have same : (call.answeredBy answer).negotiation = call.negotiation := by
          unfold Call.answeredBy bindParty
          cases answer.party <;> rfl
        exact coherent.collected current (same.symm.trans opened)
      · apply Call.admitted_eq_nil_of_heard
        simp [heard]
  | @handed call negotiation batch current opened heard admits live =>
      have quiet := coherent.collected current opened
      refine conserves_of_keep [] opened (Negotiation.id_addRemoteCandidates _) rfl
        (by rw [List.append_nil]; rfl) Iff.rfl ?_ ?_ rfl (conserves call current)
      · exact fun outgoing => absurd outgoing live
      · rw [Negotiation.deliveries_addRemoteCandidates, quiet, Call.admitted_candidates heard admits]
        simp [Traffic.deliveries, Negotiation.candidates_candidateRequests, Function.comp_def]
  | @renegotiated call negotiation content current opened heard admits active =>
      have quiet := coherent.collected current opened
      have none : call.admitted occurrence = [] := by
        apply Call.admitted_eq_nil_of_heard
        simp [heard]
      rcases negotiation.deliveries_renegotiate content.description call.remoteUser
          content.isAnswer with ⟨more, kinds, delivered⟩
      refine conserves_of_keep [] opened (Negotiation.id_renegotiate _ _ _) rfl
        (by rw [List.append_nil]; rfl) Iff.rfl ?_ ?_ rfl (conserves call current)
      · simp [active]
      · rw [delivered, quiet, none]
        rcases kinds with rfl | ⟨kind, rfl⟩ <;> rfl
  | @muted call negotiation muted is current opened =>
      have quiet := coherent.collected current opened
      have none : call.admitted occurrence = [] := Call.admitted_eq_nil_of_signal (by rw [is]; rfl)
      refine conserves_of_keep _ opened (Negotiation.id_setMuted _) rfl (List.append_assoc ..) Iff.rfl
        ?_ ?_ ?_ (conserves call current)
      · exact fun _ => ⟨none, by rw [Negotiation.deliveries_setMuted, quiet]; rfl⟩
      · rw [Negotiation.deliveries_setMuted, quiet, none]
        rfl
      · split <;> rfl
  | @toggled call negotiation is current opened =>
      have quiet := coherent.collected current opened
      have none : call.admitted occurrence = [] := Call.admitted_eq_nil_of_signal (by rw [is]; rfl)
      refine conserves_of_keep [] opened Negotiation.id_toggleCamera rfl
        (by rw [List.append_nil]; rfl) Iff.rfl ?_ ?_ rfl (conserves call current)
      · exact fun _ => ⟨none, by rw [Negotiation.deliveries_toggleCamera, quiet]; rfl⟩
      · rw [Negotiation.deliveries_toggleCamera, quiet, none]
        rfl
  | @reacted call negotiation side callback after is current opened runs reacts =>
      exact conserves_of_reacts reacts coherent current opened runs
        (Call.admitted_eq_nil_of_signal (by rw [is]; rfl)) (conserves call current)

theorem conserves_of_reached {history : History} (reached : phone.Reached history) :
    (phone.call = none → history = {}) ∧
      ∀ call, phone.call = some call →
        call.Conserves phone.phase history.occurrences history.entries := by
  induction reached with
  | new new =>
      refine ⟨fun _ => rfl, ?_⟩
      intro call current
      simp [new.call] at current
  | @after phone history reached now occurrence ih =>
      have coherent := coherent_of_reached reached
      have conserves := conserves_of_move (move_after coherent now occurrence) coherent ih.1 ih.2
      constructor
      · intro gone
        simp [History.next, gone]
      · intro call current
        simpa [History.next, current] using conserves call current
  | read reached rest ih => exact ih

/-- No candidate is lost, doubled, reordered or taken from another device: in every state that a
phone can reach, what was handed to the engine of its call and what is still held back make up what
the other side has sent since the call opened. -/
theorem candidates_conserved {history : History} (reached : phone.Reached history)
    (current : phone.call = some call) :
    call.handed history.entries ++ Candidate.usable (call.heldCandidates.map Prod.snd) =
      Candidate.usable ((call.collected history.occurrences).map Prod.snd) := by
  have coherent := coherent_of_reached reached
  have conserves := (conserves_of_reached reached).2 call current
  unfold Call.handed
  cases opened : call.negotiation with
  | none =>
      rw [conserves.held (.inr opened)]
      rfl
  | some negotiation =>
      have stands := coherent.stands current
      generalize phase : phone.phase = stage at stands conserves
      cases stands with
      | ringing unopened | awaitingAnswer unopened | awaitingOffer unopened =>
          simp [unopened] at opened
      | offering =>
          rw [conserves.held (.inl rfl)]
          simp [conserves.unanswered rfl opened]
      | answering _ _ _ _ _ _ empty | established _ _ _ _ _ empty =>
          rw [empty, List.map_nil, Candidate.usable_nil, List.append_nil]
          exact conserves.handed (by simp) opened

/-- A call that rings and is accepted after a candidate and an end mark have arrived. -/
def acceptedRun : List (Instant × Occurrence) :=
  let view : Membership := { pair with localUser := ⟨"@bob"⟩ }
  let invite : Invite :=
    ⟨⟨"call"⟩, some ⟨"party"⟩, "m=audio\na=rtpmap:1 opus", .ofSeconds 60, []⟩
  let batch : CandidateBatch :=
    ⟨⟨"call"⟩, some ⟨"party"⟩, [Engine.cannedCandidate, ⟨"", 0, "0"⟩]⟩
  [(0, .signal view ⟨⟨"@alice"⟩, 0, .invite invite⟩),
    (1, .signal view ⟨⟨"@alice"⟩, 1, .candidates batch⟩),
    (2, .accept), (3, .relayRefreshed (.error "none"))]

theorem candidates_conserved_acceptedRun :
    ∃ call, (follow (scripted, {}) acceptedRun).1.call = some call ∧
      call.handed (follow (scripted, {}) acceptedRun).2.entries ++
          Candidate.usable (call.heldCandidates.map Prod.snd) =
        Candidate.usable
          ((call.collected (follow (scripted, {}) acceptedRun).2.occurrences).map Prod.snd) := by
  have current : (follow (scripted, {}) acceptedRun).1.call.isSome = true := by decide
  rcases Option.isSome_iff_exists.mp current with ⟨call, current⟩
  exact ⟨call, current, candidates_conserved (reached_follow (.new isNew_scripted) _) current⟩

end Phone

end RoomCall
