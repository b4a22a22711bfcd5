import RoomCall.Proofs.Phone.Engines
import RoomCall.Proofs.Phone.Tracking

/-!
# What a phone announces

A user who hears everything that a phone announces knows the phase it is in, the stage of its
negotiation, whether its microphone is muted, when to look at the roster again, and which calls are
over.
-/

namespace RoomCall

variable {ε : Type}

namespace Phase

/-- Whether a phase may follow another one. -/
def precedes : Phase → Phase → Bool
  | .idle, .incoming | .idle, .outgoing => true
  | .incoming, .active | .incoming, .idle => true
  | .outgoing, .active | .outgoing, .idle => true
  | .active, .idle => true
  | _, _ => false

/-- A walk through some phases, each of which may follow the one before. -/
inductive Walk : Phase → List Phase → Phase → Prop where
  | stay (phase : Phase) : Walk phase [] phase
  | move {phase next final : Phase} {later : List Phase} (allowed : phase.precedes next = true)
      (rest : Walk next later final) : Walk phase (next :: later) final

variable {phase next final : Phase} {first second : List Phase}

/-- Two walks through the phases make one. -/
theorem Walk.append (walk : Walk phase first next) (rest : Walk next second final) :
    Walk phase (first ++ second) final := by
  induction walk with
  | stay => exact rest
  | move allowed _ ih => exact .move allowed (ih rest)

theorem Walk.last (walk : Walk phase first final) : first.getLastD phase = final := by
  induction walk with
  | stay => rfl
  | move _ _ ih => exact (List.getLastD_cons ..).trans ih

end Phase

namespace LogEntry

/-- The phases that are announced among some entries. -/
def phases (entries : List LogEntry) : List Phase :=
  entries.filterMap fun entry =>
    match entry with
    | .announcement (.phaseChanged phase) => some phase
    | _ => none

@[simp]
theorem phases_append (first second : List LogEntry) :
    phases (first ++ second) = phases first ++ phases second :=
  List.filterMap_append

theorem any_isRoster {entries : List LogEntry} :
    entries.any isRoster = true ↔ .announcement .rosterChanged ∈ entries := by
  rw [List.any_eq_true]
  constructor
  · rintro ⟨errand | announcement | ⟨session, content⟩, there, roster⟩
    · cases roster
    · cases announcement <;> first | exact there | cases roster
    · cases roster
  · intro there
    exact ⟨_, there, rfl⟩

theorem phases_asides {entries : List LogEntry} (quiet : entries.all isAside = true) :
    phases entries = [] := by
  refine filterMap_asides ?_ quiet
  apply forall_aside <;> intros <;> rfl

end LogEntry

/-- The phase of a phone whose call has come this far. -/
def Situation.phase : Situation → Phase
  | .ringing | .accepted => .incoming
  | .dialing | .invited => .outgoing
  | .talking => .active
  | .finished _ => .idle

theorem Call.At.phase {phase : Phase} {call : Call ε} {side : Role} {situation : Situation}
    (at_ : call.At phase side situation) : situation.phase = phase := by
  cases at_ with
  | ringing is | accepted is | dialing is | invited is | talking is => exact is.symm

/-- In the course of a call the phases walk from idle to the phase of its situation. -/
theorem CallRecord.Course.walk {record : CallRecord} {situation : Situation}
    (course : record.Course situation) :
    Phase.Walk .idle (LogEntry.phases record.entries) situation.phase := by
  induction course with
  | rang _ entries | dialed _ entries =>
      rw [entries]
      exact .move rfl (.stay _)
  | aside course quiet ih => simpa [LogEntry.phases_asides quiet] using ih
  | accepted course ih | invited course bears adds ih | renegotiated course live bears ih =>
      rw [grow_entries, LogEntry.phases_append]
      exact ih.append (.stay _)
  | answered course bears adds ih | established course ih =>
      rw [grow_entries, LogEntry.phases_append]
      exact ih.append (.move rfl (.stay _))
  | @ended record situation ending hangups entries course live bears count quiet ih =>
      have spoken : LogEntry.phases (hangups.map record.sending) = [] := by
        simp [LogEntry.phases, sending]
      have hung : situation.phase.precedes .idle = true := by
        cases situation with
        | finished earlier => exact absurd rfl (live earlier)
        | _ => rfl
      rw [grow_entries, LogEntry.phases_append, LogEntry.phases_append, LogEntry.phases_append,
        spoken]
      refine ih.append ?_
      change Phase.Walk _ (LogEntry.phases entries ++ [.idle]) .idle
      rw [LogEntry.phases_asides quiet]
      exact .move hung (.stay _)

/-- The end of a finished call is announced once. -/
theorem CallRecord.Course.endings_finished {record : CallRecord} {ending : Ending}
    (course : record.Course (.finished ending)) :
    (LogEntry.endings record.entries).map Prod.fst = [record.call] := by
  simp [course.endings, Situation.ending?]

namespace Phone

variable {phone after : Phone ε} {chronicle : Chronicle} {record : CallRecord}

theorem walk_finished {records : List CallRecord}
    (finished : ∀ record ∈ records, ∃ ending, record.Course (.finished ending)) :
    Phase.Walk .idle (LogEntry.phases (records.flatMap CallRecord.entries)) .idle := by
  induction records with
  | nil => exact .stay _
  | cons record later ih =>
      rcases finished record List.mem_cons_self with ⟨ending, course⟩
      rw [List.flatMap_cons, LogEntry.phases_append]
      have rest := ih fun other there => finished other (List.mem_cons_of_mem record there)
      exact course.walk.append rest

theorem endings_finished {records : List CallRecord}
    (finished : ∀ record ∈ records, ∃ ending, record.Course (.finished ending)) :
    (LogEntry.endings (records.flatMap CallRecord.entries)).map Prod.fst =
      records.map CallRecord.call := by
  induction records with
  | nil => rfl
  | cons record later ih =>
      rcases finished record List.mem_cons_self with ⟨ending, course⟩
      have rest := ih fun other there => finished other (List.mem_cons_of_mem record there)
      simp [course.endings_finished, rest]

/-- Every call was opened once: the user was told that it was started or that it rings. -/
theorem count_opened {records : List CallRecord}
    (courses : ∀ record ∈ records, ∃ situation, record.Course situation) (call : CallId) :
    (LogEntry.rings (records.flatMap CallRecord.entries)).count call +
        ((records.filter fun record => record.side = .offering).map CallRecord.call).count call =
      (records.map CallRecord.call).count call := by
  induction records with
  | nil => rfl
  | cons record later ih =>
      rcases courses record List.mem_cons_self with ⟨situation, course⟩
      have rest := ih fun other there => courses other (List.mem_cons_of_mem record there)
      cases side : record.side <;>
        simp [course.rings, side, List.count_cons, ← rest] <;> omega

end Phone

/-- Engines whose microphone is as the last switch that succeeded has left it, and on at first. -/
def EngineMaker.Honest [MediaEngine ε] (maker : EngineMaker ε) : Prop :=
  ∀ session requests, MediaEngine.isMuted (Engine.after (maker.make session) requests) =
    (Engine.mutes (Engine.exchanges (maker.make session) requests)).getLastD false

/-- It is enough that an engine switches its microphone when it says so, and never otherwise. -/
theorem EngineMaker.honest_of_respond [MediaEngine ε] {maker : EngineMaker ε}
    (on : ∀ session, MediaEngine.isMuted (maker.make session) = false)
    (switches : ∀ (engine : ε) request,
      MediaEngine.isMuted (MediaEngine.respond engine request).engine =
        (Engine.mutes (Engine.exchanges engine [request])).getLastD
          (MediaEngine.isMuted engine)) :
    maker.Honest := by
  have leads (requests : List Engine.Request) : ∀ engine : ε,
      MediaEngine.isMuted (Engine.after engine requests) =
        (Engine.mutes (Engine.exchanges engine requests)).getLastD
          (MediaEngine.isMuted engine) := by
    induction requests with
    | nil => exact fun engine => rfl
    | cons request later ih =>
        intro engine
        change MediaEngine.isMuted
          (Engine.after (MediaEngine.respond engine request).engine later) = _
        have split : Engine.mutes (Engine.exchanges engine (request :: later)) =
            Engine.mutes (Engine.exchanges engine [request]) ++
              Engine.mutes (Engine.exchanges (MediaEngine.respond engine request).engine later) :=
          Engine.mutes_append [_] _
        rw [ih, switches, split]
        cases Engine.mutes (Engine.exchanges (MediaEngine.respond engine request).engine later) <;>
          simp
  intro session requests
  rw [leads requests, on]

theorem Phone.honest_scripted : scripted.maker.Honest := by
  refine EngineMaker.honest_of_respond (fun _ => rfl) ?_
  intro engine request
  cases request with
  | setMuted | toggleCamera =>
      by_cases running : engine.running = true <;>
        simp [MediaEngine.respond, MediaEngine.isMuted, Engine.Scripted.respond, Engine.exchanges,
          Engine.mutes, running]
  | applyRemote kind description =>
      have kept : (engine.applyRemote description).engine = engine := by
        unfold Engine.Scripted.applyRemote
        split
        · rfl
        · split
          · rfl
          · split <;> rfl
      exact congrArg Engine.Scripted.muted kept
  | build | offer | answer | addCandidates | finish => rfl

namespace Phone

variable [MediaEngine ε] {phone : Phone ε} {chronicle : Chronicle} {record : CallRecord}

/-- What the announcements of a phone so far tell of it. -/
structure Announces (phone : Phone ε) (chronicle : Chronicle) : Prop where
  phase : (LogEntry.phases chronicle.entries).getLastD .idle = phone.phase
  /-- No phase follows another one that it may not follow. -/
  phases : Phase.Walk .idle (LogEntry.phases chronicle.entries) phone.phase
  stage : (LogEntry.stages chronicle.entries).getLastD .disconnected = phone.progress
  /-- The last switch since the current call was opened, if there is a call. -/
  muted : phone.maker.Honest → (phone.call.isSome &&
    (chronicle.latest.elim [] fun record => LogEntry.mutings record.entries).getLastD false) =
      phone.isMuted
  /-- Every call that was opened has ended once, but for the current one. -/
  calls : ∀ call, (LogEntry.rings chronicle.entries).count call + chronicle.started.count call =
    ((LogEntry.endings chronicle.entries).map Prod.fst).count call +
      if phone.call.map Call.id = some call then 1 else 0

/-- The last stage that was announced is the one that the phone is in. -/
theorem stages_of_lived (lived : phone.Lived chronicle) :
    (LogEntry.stages chronicle.entries).getLastD .disconnected = phone.progress := by
  induction lived with
  | new new => simp [progress, negotiation?, new.call, LogEntry.stages]
  | read lived rest ih => exact ih
  | @after phone chronicle lived now occurrence ih =>
      have coherent := coherent_of_lived lived
      rcases tracks_of_move (move_after coherent now occurrence) coherent (viable_of_lived lived)
        with ⟨entries, log, stage, -⟩
      have grown : (LogEntry.stages (chronicle.entries ++ entries)).getLastD .disconnected =
          (LogEntry.stages entries).getLastD
            ((LogEntry.stages chronicle.entries).getLastD .disconnected) := by
        rw [LogEntry.stages_append]
        cases last : LogEntry.stages entries <;> simp
      rw [entries_next, written_eq log, grown, ih]
      exact stage

/-- The last switch of the microphone that was announced is the one that the engine of the call is
in, if engines are honest. -/
theorem muted_of_staffed (staffed : phone.Staffed chronicle) (honest : phone.maker.Honest) :
    (phone.call.isSome &&
      (chronicle.latest.elim [] fun record => LogEntry.mutings record.entries).getLastD false) =
        phone.isMuted := by
  cases current : phone.call with
  | none => simp [isMuted, negotiation?, current]
  | some call =>
      have calls : phone.call ≠ none := by simp [current]
      cases opened : phone.negotiation? with
      | none =>
          have vacant := staffed.vacant calls opened
          cases latest : chronicle.latest with
          | none => simp [isMuted, opened]
          | some record =>
              have unmuted := (vacant record latest).unmuted
              simp [isMuted, opened, unmuted]
      | some negotiation =>
          rcases staffed.current negotiation opened with ⟨-, record, latest, serves, able⟩
          have told : MediaEngine.isMuted negotiation.engine =
              (LogEntry.mutings record.entries).getLastD false := by
            rw [serves.uses.leads, honest, serves.uses.muted]
          have muted : phone.isMuted =
              (negotiation.canMute && (LogEntry.mutings record.entries).getLastD false) := by
            simp [isMuted, opened, Negotiation.isMuted, told]
          rw [muted, Option.mem_def.mp latest]
          -- A switch that succeeded was possible then, and it still is.
          by_cases never : LogEntry.mutings record.entries = []
          · simp [never]
          · simp [able never]

omit [MediaEngine ε] in
theorem Recounts.courses (recounts : phone.Recounts chronicle) :
    ∀ record ∈ chronicle.calls, ∃ situation, record.Course situation := by
  intro record there
  rcases Chronicle.mem_calls.mp there with past | latest
  · rcases recounts.past record past with ⟨ending, course⟩
    exact ⟨_, course⟩
  · rcases recounts.latest record latest with ⟨situation, course, -⟩
    exact ⟨_, course⟩

omit [MediaEngine ε] in
/-- The calls that have ended are those that were opened, but for the current one. -/
theorem Recounts.ended (recounts : phone.Recounts chronicle) :
    (LogEntry.endings chronicle.entries).map Prod.fst ++ (phone.call.map Call.id).toList =
      chronicle.calls.map CallRecord.call := by
  rw [recounts.entries, Chronicle.calls, List.flatMap_append, LogEntry.endings_append,
    List.map_append, List.map_append, endings_finished recounts.past, List.append_assoc]
  congr 1
  cases latest : chronicle.latest with
  | none => simp [recounts.idle latest, LogEntry.endings]
  | some record =>
      rcases recounts.latest record latest with ⟨situation, course, recalls⟩
      cases recalls with
      | finished gone => simp [gone, course.endings_finished]
      | current current names _ stands =>
          have going := Situation.ending?_of_live stands.not_finished
          simp [current, course.endings, going, names.id]

omit [MediaEngine ε] in
/-- A call was heard or started as often as it ended, and once more if it is the current one. -/
theorem Recounts.count (recounts : phone.Recounts chronicle) (call : CallId) :
    (LogEntry.rings chronicle.entries).count call + chronicle.started.count call =
      ((LogEntry.endings chronicle.entries).map Prod.fst).count call +
        if phone.call.map Call.id = some call then 1 else 0 := by
  have opened := count_opened recounts.courses call
  rw [← recounts.entries, ← recounts.started, ← recounts.ended, List.count_append] at opened
  rw [opened]
  congr 1
  cases phone.call.map Call.id <;> simp [List.count_singleton]

omit [MediaEngine ε] in
/-- In a whole chronicle the phases walk from idle to the phase that the phone is in. -/
theorem Recounts.walk (recounts : phone.Recounts chronicle) (coherent : phone.Coherent) :
    Phase.Walk .idle (LogEntry.phases chronicle.entries) phone.phase := by
  rw [recounts.entries, Chronicle.calls, List.flatMap_append, LogEntry.phases_append]
  refine (walk_finished recounts.past).append ?_
  cases latest : chronicle.latest with
  | none =>
      rw [coherent.phase_idle_iff.mpr (recounts.idle latest)]
      exact .stay _
  | some record =>
      rcases recounts.latest record latest with ⟨situation, course, recalls⟩
      have arrived : situation.phase = phone.phase := by
        cases recalls with
        | finished gone => exact (coherent.phase_idle_iff.mpr gone).symm
        | current _ _ _ stands => exact stands.phase
      simpa [arrived] using course.walk

/-- What a phone has announced since it was made tells the phase, the stage and the microphone as
they are, and the calls that were opened and are over; and every occurrence announces another roster
exactly if it leaves another one. -/
theorem announces_of_lived (lived : phone.Lived chronicle) :
    phone.Announces chronicle ∧
      ∀ now occurrence, .announcement .rosterChanged ∈ written phone (phone.after now occurrence) ↔
        (phone.after now occurrence).roster ≠ phone.roster := by
  have coherent := coherent_of_lived lived
  have recounts := recounts_of_lived lived
  have walk := recounts.walk coherent
  refine ⟨⟨walk.last, walk, stages_of_lived lived, muted_of_staffed (staffed_of_lived lived),
    recounts.count⟩, fun now occurrence => ?_⟩
  rcases tracks_of_move (move_after coherent now occurrence) coherent (viable_of_lived lived) with
    ⟨entries, log, -, roster⟩
  rw [written_eq log, ← roster]
  exact LogEntry.any_isRoster.symm

/-- A call that was accepted, with the microphone switched off while a path is searched. -/
def mutedRun : List (Instant × Occurrence) :=
  acceptedRun ++ [(4, .callback 1 (.localDescription "answer" .answer)),
    (5, .callback 1 .gatheringComplete), (6, .callback 1 (.iceChanged .checking)),
    (7, .setMuted true)]

theorem announces_of_lived_mutedRun :
    (chronicled (scripted, {}) mutedRun).1.isMuted = true ∧
      (LogEntry.phases (chronicled (scripted, {}) mutedRun).2.entries).getLastD .idle = .active ∧
      (LogEntry.stages (chronicled (scripted, {}) mutedRun).2.entries).getLastD .disconnected =
        .connecting := by
  have announces := (announces_of_lived (lived_chronicled (.new isNew_scripted) mutedRun)).1
  exact ⟨(announces.muted honest_scripted).symm.trans (by decide),
    announces.phase.trans (by decide), announces.stage.trans (by decide)⟩

end Phone

end RoomCall
