import RoomCall.Proofs.Phone.Engines

/-!
# When engines are made

An engine is asked for its pipeline as soon as it is made, and never again. So the requests for
pipelines in a log tell when engines were made: a step makes one engine at most, and so does a whole
call.
-/

namespace RoomCall

open Engine (Status)

variable {ε : Type}

namespace Engine

/-- The pipeline that a request asks for. -/
def Request.pipeline? : Request → Option Pipeline
  | .build pipeline => some pipeline
  | _ => none

/-- The pipeline that was asked for in an exchange. -/
def Exchange.pipeline? (exchange : Exchange) : Option Pipeline :=
  exchange.request.pipeline?

variable {side : Role} {status next final : Status} {exchange : Exchange} {used : List Exchange}

/-- The pipeline is asked for first, and nothing leads back to that point. -/
theorem Step.pipeline?_eq_none_iff (step : Step side status exchange next) :
    (exchange.pipeline? = none ↔ status ≠ .unused) ∧ next ≠ .unused := by
  unfold Exchange.pipeline?
  cases step with
  | answers ready => rcases ready with rfl | rfl | rfl <;> simp [Request.pipeline?]
  | @switches _ _ request _ live own =>
      rcases live with rfl | rfl <;> cases request <;>
        simp_all [Request.isOwn, Request.pipeline?]
  | finishes live => rcases live with rfl | rfl | rfl <;> simp [Request.pipeline?]
  | built | unbuilt | offers | takes | rejects | prepares | connects | fails | adds | reoffers
    | reanswers | declines => simp [Request.pipeline?]

theorem Path.pipelines_of_begun (path : Path side status used final) (begun : status ≠ .unused) :
    used.filterMap Exchange.pipeline? = [] := by
  induction path with
  | stop => rfl
  | step step _ ih =>
      rw [List.filterMap_cons_none (step.pipeline?_eq_none_iff.1.mpr begun),
        ih step.pipeline?_eq_none_iff.2]

/-- An engine that was used at all was asked for its pipeline once. -/
theorem Path.pipelines (path : Path side .unused used final) (begun : final ≠ .unused) :
    ∃ pipeline, used.filterMap Exchange.pipeline? = [pipeline] := by
  cases path with
  | stop => exact absurd rfl begun
  | @step _ next _ exchange later step rest =>
      have asked : exchange.pipeline? ≠ none := by simp [step.pipeline?_eq_none_iff.1]
      rcases Option.ne_none_iff_exists'.mp asked with ⟨pipeline, builds⟩
      refine ⟨pipeline, ?_⟩
      rw [List.filterMap_cons_some builds, rest.pipelines_of_begun step.pipeline?_eq_none_iff.2]

theorem pipelines_exchanges [MediaEngine ε] (engine : ε) (requests : List Request) :
    (exchanges engine requests).filterMap Exchange.pipeline? =
      requests.filterMap Request.pipeline? := by
  induction requests generalizing engine with
  | nil => rfl
  | cons request later ih =>
      rw [exchanges, List.filterMap_cons, List.filterMap_cons, ih]
      rfl

end Engine

namespace LogEntry

/-- The pipelines that were asked for among some entries, with the numbers of the negotiations. -/
def pipelines (entries : List LogEntry) : List (SessionId × Engine.Pipeline) :=
  entries.filterMap fun entry =>
    match entry with
    | .traffic session (.request request) =>
        request.pipeline?.map fun pipeline => (session, pipeline)
    | _ => none

/-- The engines that were made while some entries were written, by the numbers of their
negotiations. -/
def hired (entries : List LogEntry) : List SessionId :=
  (pipelines entries).map Prod.fst

@[simp]
theorem pipelines_append (first second : List LogEntry) :
    pipelines (first ++ second) = pipelines first ++ pipelines second :=
  List.filterMap_append

@[simp]
theorem hired_append (first second : List LogEntry) :
    hired (first ++ second) = hired first ++ hired second := by
  simp [hired]

/-- Where only one engine is asked anything, it is the only one that is asked for a pipeline. -/
theorem pipelines_of_single {session : SessionId} {entries : List LogEntry}
    (others : ∀ other, other ≠ session → requests other entries = []) :
    pipelines entries = ((requests session entries).filterMap Engine.Request.pipeline?).map
      fun pipeline => (session, pipeline) := by
  induction entries with
  | nil => rfl
  | cons entry later ih =>
      have rest (other : SessionId) (apart : other ≠ session) : requests other later = [] := by
        have asked := others other apart
        rw [← List.singleton_append, requests_append] at asked
        exact (List.append_eq_nil_iff.mp asked).2
      have told := ih rest
      rcases entry with errand | announcement | ⟨asked, request | callback⟩
      · exact told
      · exact told
      · by_cases same : asked = session
        · subst same
          cases asks : request.pipeline? <;> simp_all [pipelines, requests]
        · have silent := others asked same
          simp [requests] at silent
      · exact told

theorem pipelines_of_silent {entries : List LogEntry}
    (silent : ∀ session, requests session entries = []) : pipelines entries = [] := by
  have quiet := @pipelines_of_single 0 entries fun other _ => silent other
  rwa [silent] at quiet

end LogEntry

namespace Phone

variable [MediaEngine ε] {phone after : Phone ε} {chronicle : Chronicle} {side : Role}

/-- What a step does with regard to new engines: it makes none, or it makes one for a call that has
none, and asks it for its pipeline. -/
inductive Hires (phone after : Phone ε) : Prop where
  | none (sessions : after.nextSession = phone.nextSession)
      (silent : LogEntry.pipelines (written phone after) = [])
  | one {pipeline : Engine.Pipeline} (unopened : phone.negotiation? = .none)
      (sessions : after.nextSession = phone.nextSession + 1)
      (asked : LogEntry.pipelines (written phone after) = [(phone.nextSession, pipeline)])

theorem hires_of_labors (labors : phone.Labors side after) : phone.Hires after := by
  cases labors with
  | @conducts negotiation opened works sessions =>
      rcases works with ⟨entries, later, next, log, uses, -⟩
      have begun : phone.phase.status ≠ .unused := by cases phone.phase <;> simp [Phase.status]
      have silent := uses.path.pipelines_of_begun begun
      rw [Engine.pipelines_exchanges] at silent
      refine .none sessions ?_
      rw [written_eq log, LogEntry.pipelines_of_single uses.others, silent]
      rfl
  | hires unopened works sessions =>
      rcases works with ⟨entries, later, next, log, uses, retains, -⟩
      have begun : next ≠ .unused := by
        cases retains with
        | kept => cases after.phase <;> simp [Phase.status]
        | finished => simp
      rcases uses.path.pipelines begun with ⟨pipeline, asked⟩
      rw [Engine.pipelines_exchanges] at asked
      refine @Hires.one ε _ _ pipeline unopened sessions ?_
      rw [written_eq log, LogEntry.pipelines_of_single uses.others, asked]
      rfl
  | rests unopened still log idle sessions =>
      refine .none sessions ?_
      rw [written_eq log]
      exact LogEntry.pipelines_of_silent
        (LogEntry.requests_of_silent (LogEntry.any_isTraffic_of_idle idle))

theorem hires_after (lived : phone.Lived chronicle) (now : Instant) (occurrence : Occurrence) :
    phone.Hires (phone.after now occurrence) := by
  rcases labors_after (recounts_of_lived lived) (coherent_of_lived lived) (viable_of_lived lived)
    now occurrence with ⟨side, labors⟩
  exact hires_of_labors labors

omit [MediaEngine ε] in
/-- The engines that a step makes are those whose numbers it uses up. -/
theorem Hires.hired (hires : phone.Hires after) :
    LogEntry.hired (written phone after) =
      List.range' phone.nextSession (after.nextSession - phone.nextSession) := by
  cases hires with
  | none sessions silent =>
      rw [LogEntry.hired, silent, sessions, Nat.sub_self]
      rfl
  | one _ sessions asked =>
      rw [LogEntry.hired, asked, sessions, Nat.add_sub_cancel_left]
      rfl

/-- Without a call, a step that opens none makes no engine. -/
theorem quiet_of_idle (lived : phone.Lived chronicle) (idle : phone.call = none) {now : Instant}
    {occurrence : Occurrence} (unopened : phone.opened now occurrence = none) :
    (phone.after now occurrence).call = none ∧
      LogEntry.hired (written phone (phone.after now occurrence)) = [] := by
  have turn := turn_after (recounts_of_lived lived) (coherent_of_lived lived)
    (viable_of_lived lived) now occurrence
  rw [unopened] at turn
  generalize phone.started? now occurrence = started at turn
  cases turn with
  | quiet idle still log sessions =>
      refine ⟨still, ?_⟩
      rw [written_eq (log.trans (List.append_nil _).symm)]
      rfl
  | going current => simp [idle] at current

/-- The answer to a request for relay credentials uses up the number of an engine for the call that
waits for it. -/
theorem nextSession_of_answer {call : Call ε} (coherent : phone.Coherent)
    (current : phone.call = some call) (deferred : call.deferred = some side) (now : Instant)
    (outcome : Except String Relay.Grant) :
    (phone.after now (.relayRefreshed outcome)).nextSession = phone.nextSession + 1 := by
  rcases relayRefreshed_cases coherent now outcome with ⟨undeferred, -⟩ | ⟨_, _, _, _, opens⟩
  · simp [undeferred call current] at deferred
  · exact (nextSession_of_opens opens :)

/-- Every call has one engine at most. -/
theorem hired_le_one (lived : phone.Lived chronicle) :
    ∀ record ∈ chronicle.calls, (LogEntry.hired record.entries).length ≤ 1 := by
  induction lived with
  | new => simp [Chronicle.calls]
  | read lived rest ih => exact ih
  | @after phone chronicle lived now occurrence ih =>
      have hires := hires_after lived now occurrence
      have single : (LogEntry.hired (written phone (phone.after now occurrence))).length ≤ 1 := by
        cases hires with
        | none _ silent => simp [LogEntry.hired, silent]
        | one _ _ asked => simp [LogEntry.hired, asked]
      intro record there
      cases opened : phone.opened now occurrence with
      | some first =>
          have turn := turn_after (recounts_of_lived lived) (coherent_of_lived lived)
            (viable_of_lived lived) now occurrence
          have bare := (turn.opens first opened).2
          simp only [Chronicle.next, opened, Chronicle.calls, Option.toList_some, List.mem_append,
            List.mem_singleton] at there
          rcases there with before | rfl
          · exact ih record (by simpa [Chronicle.calls] using before)
          · simpa [bare] using single
      | none =>
          simp only [Chronicle.next, opened, Chronicle.calls, List.mem_append, Option.mem_toList,
            Option.map_eq_some_iff] at there
          rcases there with before | ⟨latest, there, rfl⟩
          · exact ih record (Chronicle.mem_calls.mpr (.inl before))
          · have earlier := ih latest (Chronicle.mem_calls.mpr (.inr there))
            rw [CallRecord.grow_entries, LogEntry.hired_append, List.length_append]
            -- A call that gets an engine now had none before.
            cases hires with
            | none _ silent =>
                rw [LogEntry.hired, LogEntry.hired, silent]
                exact earlier
            | one unopened =>
                by_cases idle : phone.call = none
                · rw [(quiet_of_idle lived idle opened).2]
                  exact earlier
                · have vacant := (staffed_of_lived lived).vacant idle unopened latest there
                  have bare := LogEntry.pipelines_of_silent vacant.unasked
                  simpa [LogEntry.hired, bare] using single

end Phone

end RoomCall
