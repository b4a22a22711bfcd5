import RoomCall.Proofs.Phone.Candidates
import RoomCall.Proofs.Phone.Following

/-!
# What a step asks of engines

In one step a phone uses one engine at most: the one of its call, or a new one for a call that has
none. `Phone.Works` says that the use of an engine goes on as the protocol has it, and
`Phone.Labors` that a whole step does no more than that.
-/

namespace RoomCall

open Engine (Status)

variable {ε : Type}

namespace LogEntry

/-- The requests to the engine of a negotiation among some entries. -/
def requests (session : SessionId) (entries : List LogEntry) : List Engine.Request :=
  entries.filterMap fun entry =>
    match entry with
    | .traffic other (.request request) => if other = session then some request else none
    | _ => none

/-- The switches of the microphone that the user is told of. -/
def mutings (entries : List LogEntry) : List Bool :=
  entries.filterMap fun entry =>
    match entry with
    | .announcement (.mutedChanged muted) => some muted
    | _ => none

/-- Whether an entry tells of the work of an engine. -/
def isWork : LogEntry → Bool
  | .traffic _ _ | .announcement (.mutedChanged _) => true
  | _ => false

@[simp]
theorem requests_append (session : SessionId) (first second : List LogEntry) :
    requests session (first ++ second) = requests session first ++ requests session second :=
  List.filterMap_append

@[simp]
theorem mutings_append (first second : List LogEntry) :
    mutings (first ++ second) = mutings first ++ mutings second :=
  List.filterMap_append

@[simp]
theorem requests_traffic_self (session : SessionId) (contents : List Traffic) :
    requests session (contents.map (LogEntry.traffic session)) = Traffic.requests contents := by
  induction contents with
  | nil => rfl
  | cons content later ih => cases content <;> simp_all [requests, Traffic.requests]

theorem requests_traffic_other {session other : SessionId} (apart : other ≠ session)
    (contents : List Traffic) : requests session (contents.map (LogEntry.traffic other)) = [] := by
  induction contents with
  | nil => rfl
  | cons content later ih => cases content <;> simp_all [requests]

@[simp]
theorem mutings_traffic (session : SessionId) (contents : List Traffic) :
    mutings (contents.map (LogEntry.traffic session)) = [] := by
  simp [mutings]

theorem requests_of_silent {entries : List LogEntry} (silent : entries.any isTraffic = false)
    (session : SessionId) : requests session entries = [] := by
  apply List.filterMap_eq_nil_iff.mpr
  intro entry there
  have deaf := List.any_eq_false.mp silent entry there
  cases entry <;> simp_all [isTraffic]

theorem any_isTraffic_of_idle {entries : List LogEntry} (idle : entries.any isWork = false) :
    entries.any isTraffic = false := by
  apply List.any_eq_false.mpr
  intro entry there
  have deaf := List.any_eq_false.mp idle entry there
  cases entry <;> simp_all [isTraffic, isWork]

theorem mutings_of_idle {entries : List LogEntry} (idle : entries.any isWork = false) :
    mutings entries = [] := by
  apply List.filterMap_eq_nil_iff.mpr
  intro entry there
  have deaf := List.any_eq_false.mp idle entry there
  rcases entry with errand | announcement | traffic
  · rfl
  · cases announcement <;> simp_all [isWork]
  · rfl

@[simp]
theorem any_isWork_stageEntries (notices : List Notice) :
    (stageEntries notices).any isWork = false :=
  List.any_eq_false.mpr (forall_mem_stageEntries (fun _ => Bool.false_ne_true) _)

@[simp]
theorem any_isWork_phaseEntries (before after : Phase) :
    (phaseEntries before after).any isWork = false :=
  List.any_eq_false.mpr (forall_mem_phaseEntries (fun _ => Bool.false_ne_true) _ _)

@[simp]
theorem any_isWork_rosterEntries (before after : Roster) :
    (rosterEntries before after).any isWork = false :=
  List.any_eq_false.mpr (forall_mem_rosterEntries Bool.false_ne_true _ _)

@[simp]
theorem any_isWork_descriptionEntries (phone : Phone ε) (call : Call ε) (description : String)
    (candidates : List Candidate) (side : Role) :
    (phone.descriptionEntries call description candidates side).any isWork = false :=
  List.any_eq_false.mpr
    (Phone.forall_mem_descriptionEntries (fun _ => Bool.false_ne_true) _ _ _ _ _)

variable [MediaEngine ε]

/-- What is written while the engine of a negotiation is used, and no other one: the use goes on as
the protocol has it, and the user is told of every switch of the microphone. -/
structure Uses (side : Role) (session : SessionId) (engine : ε) (status : Status)
    (entries : List LogEntry) (later : ε) (next : Status) : Prop where
  others : ∀ other, other ≠ session → requests other entries = []
  leads : later = Engine.after engine (requests session entries)
  path : Engine.Path side status (Engine.exchanges engine (requests session entries)) next
  muted : Engine.mutes (Engine.exchanges engine (requests session entries)) = mutings entries

variable {side : Role} {session : SessionId} {engine later last : ε} {status next final : Status}
  {entries more : List LogEntry}

theorem uses_idle (idle : entries.any isWork = false) :
    Uses side session engine status entries engine status := by
  have silent := requests_of_silent (any_isTraffic_of_idle idle)
  refine ⟨fun other _ => silent other, ?_, ?_, ?_⟩ <;> rw [silent]
  · rfl
  · exact .stop status
  · rw [mutings_of_idle idle]
    rfl

/-- A protocol that is followed in two stretches is followed in both together. -/
theorem Uses.trans (earlier : Uses side session engine status entries later next)
    (after : Uses side session later next more last final) :
    Uses side session engine status (entries ++ more) last final := by
  have path := after.path
  have muted := after.muted
  rw [earlier.leads] at path muted
  refine ⟨?_, ?_, ?_, ?_⟩
  · intro other apart
    simp [earlier.others other apart, after.others other apart]
  · rw [after.leads, earlier.leads, requests_append, Engine.after_append]
  · rw [requests_append, Engine.exchanges_append]
    exact earlier.path.append path
  · simp [earlier.muted, muted]

/-- What an operation of a negotiation asks for, with what is announced of it. -/
theorem uses_of_conducts {before asked : Negotiation ε} {mutes : List Bool}
    (conducts : Negotiation.Conducts side before status mutes asked next)
    (collected : before.traffic = []) (silent : more.any isTraffic = false)
    (announced : mutings more = mutes) :
    Uses side before.id before.engine status
      (asked.traffic.map (LogEntry.traffic asked.id) ++ more) asked.engine next := by
  rcases conducts with ⟨requests, id, traffic, engine, path, switched⟩
  have asks : LogEntry.requests before.id
      (asked.traffic.map (LogEntry.traffic asked.id) ++ more) = requests := by
    rw [← id]
    simp [traffic, collected, requests_of_silent silent]
  refine ⟨?_, ?_, ?_, ?_⟩
  · intro other apart
    rw [id]
    simp [requests_traffic_other apart.symm, requests_of_silent silent]
  · rw [asks, engine]
  · rw [asks]
    exact path
  · rw [asks, switched]
    simp [announced]

end LogEntry

/-- A negotiation that is taken down as the protocol has it: its pipeline can be, or there is none
and nothing more may be asked. -/
def Negotiation.Ceases (negotiation : Negotiation ε) (status : Status) : Prop :=
  negotiation.hasPipeline = true ∧ (status = .waiting ∨ status = .settled ∨ status = .broken) ∨
    negotiation.hasPipeline = false ∧ status = .finished

/-- How far the use of the engine of a call has come in a phase. -/
def Phase.status : Phase → Status
  | .outgoing => .waiting
  | _ => .settled

namespace Phone

variable {phone before after late : Phone ε} {call other : Call ε}
  {negotiation asked : Negotiation ε} {side : Role} {status next : Status}

/-- What is left of the use of an engine after a step: it goes on with the call, or it is over
together with the call. -/
inductive Retains (phone : Phone ε) (session : SessionId) (engine : ε) : Status → Prop where
  | kept {negotiation : Negotiation ε} (opened : phone.negotiation? = some negotiation)
      (id : negotiation.id = session) (same : negotiation.engine = engine) :
      Retains phone session engine phone.phase.status
  | finished (gone : phone.call = none) : Retains phone session engine .finished

variable [MediaEngine ε]

/-- A step uses the engine of a negotiation, which can be muted afterwards if it was so before or
was muted in the step. -/
def Works (phone : Phone ε) (side : Role) (negotiation : Negotiation ε) (status : Status)
    (after : Phone ε) : Prop :=
  ∃ entries later next, after.log = phone.log ++ entries ∧
    LogEntry.Uses side negotiation.id negotiation.engine status entries later next ∧
    after.Retains negotiation.id later next ∧
    (negotiation.canMute = true ∨ LogEntry.mutings entries ≠ [] →
      ∀ kept, after.negotiation? = some kept → kept.canMute = true)

/-- The negotiation that a call would get which has none. -/
def recruit (phone : Phone ε) : Negotiation ε :=
  { id := phone.nextSession, engine := phone.maker.make phone.nextSession }

/-- All that a step does with engines. -/
inductive Labors (phone : Phone ε) (side : Role) (after : Phone ε) : Prop where
  /-- The engine of the call is used. -/
  | conducts {negotiation : Negotiation ε} (opened : phone.negotiation? = some negotiation)
      (works : phone.Works side negotiation phone.phase.status after)
      (sessions : after.nextSession = phone.nextSession)
  /-- A call gets an engine. -/
  | hires (unopened : phone.negotiation? = none)
      (works : phone.Works side phone.recruit .unused after)
      (sessions : after.nextSession = phone.nextSession + 1)
  /-- No engine is there, and none is made. -/
  | rests {entries : List LogEntry} (unopened : phone.negotiation? = none)
      (still : after.negotiation? = none) (log : after.log = phone.log ++ entries)
      (idle : entries.any LogEntry.isWork = false)
      (sessions : after.nextSession = phone.nextSession)

/-- A negotiation that is taken down ends its engine and asks nothing else of it. -/
theorem uses_teardown (ceases : negotiation.Ceases status) (collected : negotiation.traffic = []) :
    LogEntry.Uses side negotiation.id negotiation.engine status (teardownEntries negotiation)
      negotiation.finish.1.engine .finished := by
  have conducts : Negotiation.Conducts side negotiation status [] negotiation.finish.1
      .finished := by
    rcases ceases with ⟨pipeline, live⟩ | ⟨pipeline, rfl⟩
    · exact Negotiation.conducts_finish pipeline live
    · exact Negotiation.conducts_finish_unbuilt pipeline .finished
  have quiet := LogEntry.any_isWork_stageEntries negotiation.finish.2
  exact LogEntry.uses_of_conducts conducts collected (LogEntry.any_isTraffic_of_idle quiet)
    (LogEntry.mutings_of_idle quiet)

/-- A call that ends takes its engine down as the protocol has it. -/
theorem uses_farewell (ceases : negotiation.Ceases status) (collected : negotiation.traffic = [])
    (opened : call.negotiation = some negotiation) (ending : Ending) (cause : Option HangupCause) :
    LogEntry.Uses side negotiation.id negotiation.engine status
      (phone.farewell call ending cause) negotiation.finish.1.engine .finished := by
  have first : ((cause.toList.map fun cause =>
      LogEntry.errand (.send call.room (phone.style.hangup call.id call.party (some cause)))) ++
        [LogEntry.errand .cancelTimer]).any LogEntry.isWork = false := by
    cases cause <;> rfl
  have last : (rosterEntries phone.roster [] ++ phaseEntries phone.phase .idle ++
      [LogEntry.announcement (.callEnded call.id ending)]).any LogEntry.isWork = false := by
    simp [LogEntry.isWork]
  have down : LogEntry.Uses side negotiation.id negotiation.engine status
      (teardownEntries negotiation) negotiation.finish.1.engine .finished :=
    uses_teardown ceases collected
  simpa [farewell, opened] using ((LogEntry.uses_idle first).trans down).trans
    (LogEntry.uses_idle last)

/-- A step that writes nothing about engines leaves the use of the engine where it was. -/
theorem works_idle {entries : List LogEntry} (opened : after.negotiation? = some negotiation)
    (log : after.log = phone.log ++ entries) (idle : entries.any LogEntry.isWork = false)
    (phase : after.phase = phone.phase) :
    phone.Works side negotiation phone.phase.status after := by
  refine ⟨entries, _, _, log, LogEntry.uses_idle idle, phase ▸ .kept opened rfl rfl, ?_⟩
  rintro able kept there
  rw [opened, Option.some.injEq] at there
  subst there
  exact able.resolve_right (by simp [LogEntry.mutings_of_idle idle])

/-- A step that keeps a negotiation uses its engine for what the negotiation has conducted. -/
theorem works_kept {mutes : List Bool} {told : List LogEntry}
    (conducts : Negotiation.Conducts side negotiation status mutes asked next)
    (collected : negotiation.traffic = [])
    (able : negotiation.canMute = true ∨ mutes ≠ [] → asked.canMute = true)
    (log : after.log = phone.log ++ (asked.traffic.map (LogEntry.traffic asked.id) ++ told))
    (silent : told.any LogEntry.isTraffic = false) (announced : LogEntry.mutings told = mutes)
    (kept : after.negotiation? = some { asked with traffic := [] })
    (phase : after.phase.status = next) : phone.Works side negotiation status after := by
  have uses := LogEntry.uses_of_conducts conducts collected silent announced
  have id : asked.id = negotiation.id := by
    rcases conducts with ⟨_, id, _⟩
    exact id
  refine ⟨_, _, _, log, uses, phase ▸ .kept kept id rfl, ?_⟩
  intro before later there
  rw [kept, Option.some.injEq] at there
  subst there
  refine able ?_
  simpa [announced] using before

/-- A step that ends a call uses its engine for what was conducted, and then takes it down. -/
theorem works_ended {told : List LogEntry}
    (conducts : Negotiation.Conducts side negotiation status [] asked next)
    (collected : negotiation.traffic = []) (ceases : asked.Ceases next)
    (log : late.log = phone.log ++ (asked.traffic.map (LogEntry.traffic asked.id) ++ told))
    (idle : told.any LogEntry.isWork = false)
    (opened : other.negotiation = some { asked with traffic := [] }) (ending : Ending)
    (cause : Option HangupCause) :
    phone.Works side negotiation status (late.ended other ending cause) := by
  have uses := LogEntry.uses_of_conducts conducts collected (LogEntry.any_isTraffic_of_idle idle)
    (LogEntry.mutings_of_idle idle)
  have id : asked.id = negotiation.id := by
    rcases conducts with ⟨_, id, _⟩
    exact id
  let bare : Negotiation ε := { asked with traffic := [] }
  have halts : bare.Ceases next := ceases
  have down : LogEntry.Uses side bare.id bare.engine next (late.farewell other ending cause)
      bare.finish.1.engine .finished :=
    uses_farewell halts rfl opened ending cause
  change LogEntry.Uses side asked.id asked.engine next _ _ .finished at down
  rw [id] at down
  refine ⟨_, _, _, ?_, uses.trans down, .finished rfl, ?_⟩
  · simp [ended, log]
  · rintro _ kept ⟨⟩

/-! ## Moves -/

theorem Works.precede {entries : List LogEntry} (works : before.Works side negotiation status after)
    (log : before.log = phone.log ++ entries) (idle : entries.any LogEntry.isWork = false) :
    phone.Works side negotiation status after := by
  rcases works with ⟨more, later, next, grown, uses, retains, able⟩
  refine ⟨entries ++ more, later, next, ?_, (LogEntry.uses_idle idle).trans uses, retains, ?_⟩
  · rw [grown, log, List.append_assoc]
  · simpa [LogEntry.mutings_of_idle idle] using able

theorem Labors.precede {entries : List LogEntry} (labors : before.Labors side after)
    (log : before.log = phone.log ++ entries) (idle : entries.any LogEntry.isWork = false)
    (same : before.negotiation? = phone.negotiation?)
    (phase : before.negotiation?.isSome = true → before.phase = phone.phase)
    (sessions : before.nextSession = phone.nextSession) (maker : before.maker = phone.maker) :
    phone.Labors side after := by
  cases labors with
  | conducts opened works still =>
      rw [phase (by simp [opened])] at works
      exact .conducts (same ▸ opened) (works.precede log idle) (still.trans sessions)
  | hires unopened works next =>
      have recruit : before.recruit = phone.recruit := by simp [recruit, sessions, maker]
      rw [recruit] at works
      exact .hires (same ▸ unopened) (works.precede log idle) (sessions ▸ next)
  | @rests more unopened gone grown quiet still =>
      have written : after.log = phone.log ++ (entries ++ more) := by
        rw [grown, log, List.append_assoc]
      exact .rests (same ▸ unopened) gone written (by simp [idle, quiet]) (still.trans sessions)

theorem labors_idle {entries : List LogEntry} (log : after.log = phone.log ++ entries)
    (idle : entries.any LogEntry.isWork = false) (same : after.negotiation? = phone.negotiation?)
    (phase : after.phase = phone.phase) (sessions : after.nextSession = phone.nextSession) :
    phone.Labors side after := by
  cases opened : phone.negotiation? with
  | none => exact .rests opened (same.trans opened) log idle sessions
  | some negotiation =>
      exact .conducts opened (works_idle (same.trans opened) log idle phase) sessions

/-- A call gets an engine, which is used as the protocol has it from the start. -/
theorem works_of_opens (opens : before.Opens call side after)
    (compatible : side = .answering →
      call.heldDescription.any Description.hasCompatibleAudio = true)
    (fits : before.phase.status = side.begun) :
    before.Works side before.recruit .unused after := by
  have begins := begins_opening before side compatible
  cases opens with
  | @opened negotiation opened id outcome =>
      rw [outcome] at begins
      cases begins with
      | begun ice conducts =>
          have unable : before.recruit.canMute = false := rfl
          refine works_kept conducts rfl ?_ (List.append_assoc ..) ?_ ?_ rfl fits
          · rintro (able | mutes)
            · simp [unable] at able
            · simp at mutes
          · exact LogEntry.any_isTraffic_of_idle (LogEntry.any_isWork_stageEntries _)
          · exact LogEntry.mutings_of_idle (LogEntry.any_isWork_stageEntries _)
  | @refused negotiation error id outcome =>
      rw [outcome] at begins
      cases begins with
      | unbuilt pipeline conducts =>
          exact works_ended conducts rfl (.inr ⟨pipeline, rfl⟩) (List.append_assoc ..) rfl rfl _ _
      | rejected pipeline conducts =>
          exact works_ended conducts rfl (.inl ⟨pipeline, .inr (.inr rfl)⟩) (List.append_assoc ..)
            rfl rfl _ _

theorem nextSession_of_opens (opens : before.Opens call side after) :
    after.nextSession = before.nextSession + 1 := by
  cases opens <;> rfl

/-- An engine is used as the protocol has it from the start of its negotiation. -/
theorem labors_of_starts (starts : before.Starts call side after)
    (unopened : before.negotiation? = none) (current : before.call = some call)
    (compatible : side = .answering →
      call.heldDescription.any Description.hasCompatibleAudio = true)
    (fits : before.phase.status = side.begun) : before.Labors side after := by
  cases starts with
  | opens opens =>
      exact .hires unopened (works_of_opens opens compatible fits) (nextSession_of_opens opens)
  | waits =>
      rw [negotiation?_eq current] at unopened
      refine labors_idle rfl ?_ ?_ rfl rfl
      · split <;> rfl
      · simp [negotiation?, current]

/-- An answer that is held back establishes the call, or the call ends, or it waits. -/
theorem labors_of_settles (settles : phone.Settles call after) (coherent : phone.Coherent)
    (current : phone.call = some call) (outgoing : phone.phase = .outgoing) :
    phone.Labors side after := by
  have opens {negotiation : Negotiation ε} (opened : call.negotiation = some negotiation) :
      phone.negotiation? = some negotiation :=
    (negotiation?_eq current).trans opened
  have waiting : phone.phase.status = .waiting := by rw [outgoing]; rfl
  cases settles with
  | waits => exact labors_idle (List.append_nil _).symm rfl rfl rfl rfl
  | @refused answer negotiation failed fault answered opened sent rejected =>
      rcases (coherent.stands current).runs opened with ⟨_, runs⟩
      have refuses : Negotiation.Conducts side negotiation .waiting []
          (negotiation.applyRemote answer .answer call.remoteUser).1 .broken :=
        Negotiation.conducts_applyRemote (congrArg Prod.snd rejected) .fails
      have pipeline : failed.hasPipeline = negotiation.hasPipeline :=
        (congrArg (fun reply => reply.1.hasPipeline) rejected).symm
      rw [rejected] at refuses
      refine .conducts (opens opened) ?_ rfl
      rw [waiting]
      exact works_ended refuses (coherent.collected current opened)
        (.inl ⟨pipeline.trans runs.pipeline, .inr (.inr rfl)⟩)
        (congrArg (phone.log ++ ·) (List.append_nil _).symm) rfl rfl _ _
  | @applied answer negotiation answered opened sent ready taken =>
      have takes : Negotiation.Conducts side negotiation .waiting []
          (negotiation.applyRemote answer .answer call.remoteUser).1 .settled :=
        Negotiation.conducts_applyRemote taken .connects
      have conducts := takes.trans (Negotiation.conducts_addRemoteCandidates
        (call.heldCandidates.map Prod.snd))
      have idle : ([LogEntry.errand .cancelTimer] ++ phaseEntries phone.phase .active).any
          LogEntry.isWork = false := by
        rw [List.any_append, LogEntry.any_isWork_phaseEntries]
        rfl
      refine .conducts (opens opened) ?_ rfl
      rw [waiting]
      refine works_kept conducts (coherent.collected current opened) ?_ (List.append_assoc ..)
        (LogEntry.any_isTraffic_of_idle idle) (LogEntry.mutings_of_idle idle) rfl rfl
      intro able
      have same := (negotiation.applyRemote answer .answer
        call.remoteUser).1.bearing_addRemoteCandidates (call.heldCandidates.map Prod.snd)
      rw [Negotiation.canMute_of_bearing same]
      exact able.resolve_right (by simp)

/-- An engine is used as the protocol has it if its negotiation conducts what is asked. -/
theorem labors_keep {mutes : List Bool} {told : List LogEntry} (coherent : phone.Coherent)
    (current : phone.call = some call) (opened : call.negotiation = some negotiation)
    (conducts : Negotiation.Conducts side negotiation phone.phase.status mutes asked
      phone.phase.status)
    (able : negotiation.canMute = true ∨ mutes ≠ [] → asked.canMute = true)
    (silent : told.any LogEntry.isTraffic = false) (announced : LogEntry.mutings told = mutes) :
    phone.Labors side ((phone.keep call asked).noted told) :=
  .conducts ((negotiation?_eq current).trans opened)
    (works_kept conducts (coherent.collected current opened) able (List.append_assoc ..) silent
      announced rfl rfl) rfl

theorem labors_quietly (coherent : phone.Coherent) (current : phone.call = some call)
    (opened : call.negotiation = some negotiation)
    (conducts : Negotiation.Conducts side negotiation phone.phase.status [] asked
      phone.phase.status)
    (same : asked.bearing = negotiation.bearing) : phone.Labors side (phone.keep call asked) := by
  have able : negotiation.canMute = true ∨ ([] : List Bool) ≠ [] → asked.canMute = true := by
    intro before
    rw [Negotiation.canMute_of_bearing same]
    exact before.resolve_right (by simp)
  have kept : phone.Labors side ((phone.keep call asked).noted []) :=
    labors_keep coherent current opened conducts able rfl rfl
  simpa using kept

/-- An engine is used as the protocol has it to the end of its call. -/
theorem labors_ended {entries : List LogEntry} (coherent : phone.Coherent)
    (current : phone.call = some call) (idle : entries.any LogEntry.isWork = false)
    (ending : Ending) (cause : Option HangupCause) :
    phone.Labors side ((phone.noted entries).ended call ending cause) := by
  cases opened : call.negotiation with
  | none =>
      refine .rests ((negotiation?_eq current).trans opened) rfl (List.append_assoc ..) ?_ rfl
      have quiet : ((phone.noted entries).farewell call ending cause).any
          LogEntry.isWork = false := by
        cases cause <;> simp [farewell, opened, LogEntry.isWork]
      simp [idle, quiet]
  | some negotiation =>
      rcases (coherent.stands current).runs opened with ⟨_, runs⟩
      have collected := coherent.collected current opened
      have bare : ({ negotiation with traffic := [] } : Negotiation ε) = negotiation := by
        rw [← collected]
      have ceases : negotiation.Ceases phone.phase.status := by
        refine .inl ⟨runs.pipeline, ?_⟩
        cases phone.phase <;> simp [Phase.status]
      refine .conducts ((negotiation?_eq current).trans opened) ?_ rfl
      refine works_ended (Negotiation.conducts_still rfl rfl rfl _) collected ceases ?_ idle
        (opened.trans (congrArg some bare.symm)) ending cause
      simp [noted, collected]

/-- The engine works on while its negotiation reacts, until the call ends. -/
theorem labors_of_reacts {callback : Engine.Callback} {role : Role}
    (reacts : phone.Reacts call role negotiation (negotiation.handle callback).1 after)
    (coherent : phone.Coherent) (hopeful : negotiation.ice ≠ .failed)
    (current : phone.call = some call) (opened : call.negotiation = some negotiation)
    (started : negotiation.Runs role) : phone.Labors side after := by
  have live : phone.phase.status = .waiting ∨ phone.phase.status = .settled := by
    cases phone.phase <;> simp [Phase.status]
  have conducts : Negotiation.Conducts side negotiation phone.phase.status []
      (negotiation.handle callback).1 phone.phase.status :=
    Negotiation.conducts_handle callback live
  have able (runs : (negotiation.handle callback).1.Runs role) :
      negotiation.canMute = true ∨ ([] : List Bool) ≠ [] →
        (negotiation.handle callback).1.canMute = true :=
    fun able => Negotiation.canMute_handle started callback runs (able.resolve_right (by simp))
  have ceases : (negotiation.handle callback).1.Ceases phone.phase.status := by
    refine .inl ⟨?_, live.imp_right .inl⟩
    rcases negotiation.handle_fst callback with ⟨_, _, told⟩ | ⟨_, _, _, _, _, _, noted⟩
    · rw [told]
      exact started.pipeline
    · rw [noted]
      exact started.pipeline
  have opens := (negotiation?_eq current).trans opened
  have collected := coherent.collected current opened
  cases reacts with
  | moved runs =>
      have idle := LogEntry.any_isWork_stageEntries
      exact labors_keep coherent current opened conducts (able runs)
        (LogEntry.any_isTraffic_of_idle (idle _)) (LogEntry.mutings_of_idle (idle _))
  | renegotiated runs =>
      rw [sendNegotiate_eq]
      exact .conducts opens (works_kept conducts collected (able runs) (List.append_assoc ..) rfl
        rfl rfl rfl) rfl
  | watched runs =>
      rw [setRoster_eq]
      have idle := LogEntry.any_isWork_rosterEntries
      exact .conducts opens (works_kept conducts collected (able runs) (List.append_assoc ..)
        (LogEntry.any_isTraffic_of_idle (idle _ _)) (LogEntry.mutings_of_idle (idle _ _)) rfl rfl)
        rfl
  | @reported stages description candidates runs silent described walk =>
      have idle : (phone.descriptionEntries call description candidates role ++
          phaseEntries phone.phase (phaseAfterReport phone.phase role) ++
          rosterEntries phone.roster (phone.roster.addAll call.members) ++
          stageEntries ((role.sent :: stages).map .progressChanged)).any
            LogEntry.isWork = false := by
        simp only [List.any_append, LogEntry.any_isWork_descriptionEntries,
          LogEntry.any_isWork_phaseEntries, LogEntry.any_isWork_rosterEntries,
          LogEntry.any_isWork_stageEntries, Bool.or_self]
      refine .conducts opens (works_kept conducts collected (able runs) ?_
        (LogEntry.any_isTraffic_of_idle idle) (LogEntry.mutings_of_idle idle) rfl ?_) rfl
      · simp only [noted, log_described, List.append_assoc]
      · change (phaseAfterReport phone.phase role).status = phone.phase.status
        rcases phase_of_silent coherent current opened started silent with
          ⟨rfl, -⟩ | ⟨rfl, incoming, -⟩
        · rfl
        · rw [incoming]
          rfl
  | broken =>
      exact .conducts opens (works_ended conducts collected ceases
        (congrArg (phone.log ++ ·) (List.append_nil _).symm) rfl rfl _ _) rfl
  | lost =>
      exact .conducts opens (works_ended conducts collected ceases (List.append_assoc ..)
        (LogEntry.any_isWork_stageEntries _) rfl _ _) rfl
  | reportedLost _ _ ice => exact absurd ice hopeful

/-- A move of a phone with a call does no more with engines than the protocol allows. -/
theorem labors_of_move {now : Instant} {occurrence : Occurrence}
    (move : phone.Move now occurrence after) (coherent : phone.Coherent) (viable : phone.Viable)
    (current : phone.call = some call)
    (fits : (phone.phase = .outgoing → side = .offering) ∧
      (phone.phase = .incoming → side = .answering)) : phone.Labors side after := by
  have unchanged : after.log = phone.log → after.negotiation? = phone.negotiation? →
      after.phase = phone.phase → after.nextSession = phone.nextSession → phone.Labors side after :=
    fun log => labors_idle (log.trans (List.append_nil _).symm) rfl
  have live : phone.phase.status = .waiting ∨ phone.phase.status = .settled := by
    cases phone.phase <;> simp [Phase.status]
  cases move with
  | still | plugged => exact unchanged rfl rfl rfl rfl
  | refreshed => exact unchanged rfl rfl rfl rfl
  | rang idle => simp [idle] at current
  | dialed _ idle => simp [idle] at current
  | @resumed outcome other role after is there deferred opens =>
      have unopened : phone.negotiation? = none :=
        (negotiation?_eq there).trans (unopened_of_deferred coherent there deferred)
      have same : Phone.negotiation? { phone.refreshed now outcome with
          call := some { other with deferred := none } } = phone.negotiation? := by
        simp [negotiation?, there]
      have waits : role = side ∧ phone.phase.status = role.begun := by
        rcases (coherent.stands there).deferred_cases deferred with ⟨rfl, phase⟩ | ⟨rfl, phase⟩
        · exact ⟨(fits.1 phase).symm, by rw [phase]; rfl⟩
        · exact ⟨(fits.2 phase).symm, by rw [phase]; rfl⟩
      rcases waits with ⟨rfl, begun⟩
      have compatible : role = .answering →
          other.heldDescription.any Description.hasCompatibleAudio = true := by
        rintro rfl
        exact (viable _ there).compatible deferred
      exact (Labors.hires (same.trans unopened) (works_of_opens opens compatible begun)
        (nextSession_of_opens opens)).precede (List.append_nil _).symm rfl same (fun _ => rfl) rfl
        rfl
  | @accepted other after is there incoming unaccepted compatible starts =>
      have same : Phone.negotiation? ({ phone with
          call := some { other with accepted := true } }.noted [.errand .cancelTimer]) =
            phone.negotiation? := by
        simp [negotiation?, noted, there]
      have unopened : phone.negotiation? = none := by
        rw [negotiation?_eq there]
        exact (rings_of_unaccepted coherent there incoming unaccepted).1
      obtain rfl := fits.2 incoming
      have begun : phone.phase.status = Role.answering.begun := by
        rw [incoming]
        rfl
      exact (labors_of_starts starts (same.trans unopened) rfl (fun _ => compatible) begun).precede
        rfl rfl same (fun _ => rfl) rfl rfl
  | @ended other entries ending cause there ends =>
      exact labors_ended coherent there (by cases ends <;> rfl) ending cause
  | @held other batch there =>
      exact unchanged rfl (by simp [negotiation?, there, Call.holding]) rfl rfl
  | @gathered other batch after there heard admits outgoing settles =>
      have same : Phone.negotiation? { phone with call := some (other.holding batch) } =
          phone.negotiation? := by
        simp [negotiation?, there, Call.holding]
      exact (labors_of_settles settles (coherent.recall there outgoing rfl rfl rfl rfl rfl rfl) rfl
        outgoing).precede (List.append_nil _).symm rfl same (fun _ => rfl) rfl rfl
  | @answered other answer after there heard admits outgoing unanswered settles =>
      have same : Phone.negotiation? { phone with call := some (other.answeredBy answer) } =
          phone.negotiation? := by
        unfold Call.answeredBy
        cases answer.party <;> simp [negotiation?, there, bindParty]
      have answers : Coherent { phone with call := some (other.answeredBy answer) } := by
        unfold Call.answeredBy
        cases answer.party <;> exact coherent.recall there outgoing rfl rfl rfl rfl rfl rfl
      exact (labors_of_settles settles answers rfl outgoing).precede (List.append_nil _).symm rfl
        same (fun _ => rfl) rfl rfl
  | @handed other negotiation batch there opened heard admits talks =>
      have settled : phone.phase.status = .settled := by
        cases phase : phone.phase <;> simp_all [Phase.status]
      refine labors_quietly coherent there opened ?_ (Negotiation.bearing_addRemoteCandidates _)
      rw [settled]
      exact Negotiation.conducts_addRemoteCandidates _
  | @renegotiated other negotiation content there opened heard admits active =>
      have settled : phone.phase.status = .settled := by
        rw [active]
        rfl
      refine labors_quietly coherent there opened ?_ (Negotiation.bearing_renegotiate _ _ _)
      rw [settled]
      exact Negotiation.conducts_renegotiate _ _ _
  | @muted other negotiation muted is there opened =>
      refine labors_keep coherent there opened (Negotiation.conducts_setMuted muted live) ?_ ?_ ?_
      · intro before
        rw [Negotiation.canMute_of_bearing (Negotiation.bearing_setMuted muted)]
        refine before.elim id fun switched => ?_
        cases able : negotiation.canMute with
        | true => rfl
        | false => simp [Negotiation.setMuted, able] at switched
      · split <;> rfl
      · cases (negotiation.setMuted muted).2 <;> rfl
  | @toggled other negotiation is there opened =>
      exact labors_quietly coherent there opened (Negotiation.conducts_toggleCamera live)
        Negotiation.bearing_toggleCamera
  | @reacted other negotiation role callback after is there opened runs reacts =>
      exact labors_of_reacts reacts coherent ((viable _ there).hopeful opened) there opened runs

/-- In every turn a phone uses its engines as the protocol has it. -/
theorem labors_of_turn {now : Instant} {occurrence : Occurrence} {opened : Option CallRecord}
    {started : Option CallId} (turn : phone.Turn now occurrence after opened started)
    (coherent : phone.Coherent) (viable : phone.Viable)
    (fits : (phone.phase = .outgoing → side = .offering) ∧
      (phone.phase = .incoming → side = .answering))
    (opens : ∀ record ∈ opened, record.side = side) : phone.Labors side after := by
  have unopened (idle : phone.call = none) : phone.negotiation? = none := by
    simp [negotiation?, idle]
  cases turn with
  | quiet idle still log sessions =>
      exact .rests (unopened idle) (by simp [negotiation?, still])
        (log.trans (List.append_nil _).symm) rfl sessions
  | @rang membership sender invite idle rings =>
      subst rings
      refine .rests (unopened idle) rfl ((List.append_assoc ..).trans (List.append_assoc ..)) ?_
        rfl
      split <;> simp [LogEntry.isWork]
  | @dialed membership callee idle starts =>
      obtain rfl : Role.offering = side := opens _ rfl
      exact (labors_of_starts starts rfl rfl (by simp) rfl).precede rfl
        (LogEntry.any_isWork_phaseEntries _ _) (unopened idle).symm (by rintro ⟨⟩) rfl rfl
  | going current move => exact labors_of_move move coherent viable current fits

end Phone

end RoomCall
