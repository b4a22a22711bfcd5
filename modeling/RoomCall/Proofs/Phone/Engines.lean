import RoomCall.Proofs.Phone.Discourse
import RoomCall.Proofs.Phone.Steadiness
import RoomCall.Proofs.Phone.Work

/-!
# The engines of a phone

Every engine that a phone makes belongs to one call. Its use follows the protocol from the first
request to the last, it comes to rest between two steps, and it is over when the call is. So a phone
never has more than one running pipeline.
-/

namespace RoomCall

open Engine (Status)

variable {ε : Type}

/-- A record of a call that has no engine, whose microphone was not switched either. -/
structure CallRecord.Vacant (record : CallRecord) : Prop where
  unasked : ∀ session, LogEntry.requests session record.entries = []
  unmuted : LogEntry.mutings record.entries = []

/-- The chronicle with some more entries in the latest call. -/
def Chronicle.grow (chronicle : Chronicle) (entries : List LogEntry) : Chronicle :=
  { chronicle with
    entries := chronicle.entries ++ entries
    latest := chronicle.latest.map fun record => record.grow entries }

theorem Chronicle.mem_calls {chronicle : Chronicle} {record : CallRecord} :
    record ∈ chronicle.calls ↔ record ∈ chronicle.past ∨ record ∈ chronicle.latest := by
  simp [calls]

namespace Phone

variable [MediaEngine ε] {phone after : Phone ε} {chronicle : Chronicle} {record : CallRecord}
  {maker : EngineMaker ε} {session : SessionId} {engine later : ε} {status next : Status}
  {earlier entries : List LogEntry}

/-- The engine of a negotiation belongs to a call, and it was used as the protocol has it. -/
structure Serves (maker : EngineMaker ε) (entries : List LogEntry) (record : CallRecord)
    (session : SessionId) (engine : ε) (status : Status) : Prop where
  whole : LogEntry.requests session record.entries = LogEntry.requests session entries
  uses : LogEntry.Uses record.side session (maker.make session) .unused record.entries engine status

/-- Every engine of a phone belongs to a call, and its use is over unless it is the one of the
current call. -/
structure Staffed (phone : Phone ε) (chronicle : Chronicle) : Prop where
  fresh : ∀ session, phone.nextSession ≤ session →
    LogEntry.requests session chronicle.entries = []
  former : ∀ session, LogEntry.requests session chronicle.entries = [] ∨
    (∃ record ∈ chronicle.calls, ∃ engine,
      Serves phone.maker chronicle.entries record session engine .finished) ∨
    ∃ negotiation, phone.negotiation? = some negotiation ∧ negotiation.id = session
  vacant : phone.call ≠ none → phone.negotiation? = none →
    ∀ record ∈ chronicle.latest, record.Vacant
  current : ∀ negotiation, phone.negotiation? = some negotiation →
    negotiation.id < phone.nextSession ∧ ∃ record ∈ chronicle.latest,
      Serves phone.maker chronicle.entries record negotiation.id negotiation.engine
        phone.phase.status ∧
      (LogEntry.mutings record.entries ≠ [] → negotiation.canMute = true)

/-! ## One step -/

theorem Serves.unasked (serves : Serves maker earlier record session engine status)
    (silent : LogEntry.requests session entries = []) :
    Serves maker (earlier ++ entries) record session engine status where
  whole := by simp [silent, serves.whole]
  uses := serves.uses

theorem Serves.grow (serves : Serves maker earlier record session engine status)
    (uses : LogEntry.Uses record.side session engine status entries later next) :
    Serves maker (earlier ++ entries) (record.grow entries) session later next where
  whole := by simp [serves.whole]
  uses := serves.uses.trans uses

theorem uses_of_vacant (vacant : record.Vacant) :
    LogEntry.Uses record.side session engine .unused record.entries engine .unused := by
  refine ⟨fun other _ => vacant.unasked other, ?_, ?_, ?_⟩ <;> rw [vacant.unasked]
  · rfl
  · exact .stop .unused
  · exact vacant.unmuted.symm

/-- A step that uses one engine. -/
theorem Staffed.advance (staffed : phone.Staffed chronicle)
    (latest : chronicle.latest = some record) (maker : after.maker = phone.maker)
    (sessions : phone.nextSession ≤ after.nextSession) (below : session < after.nextSession)
    (only : ∀ negotiation, phone.negotiation? = some negotiation → negotiation.id = session)
    (others : ∀ other, other ≠ session →
      LogEntry.requests other record.entries = [] ∧ LogEntry.requests other entries = [])
    (serves : Serves phone.maker (chronicle.entries ++ entries) (record.grow entries) session later
      next)
    (retains : after.Retains session later next)
    (able : LogEntry.mutings (record.grow entries).entries ≠ [] →
      ∀ kept, after.negotiation? = some kept → kept.canMute = true) :
    after.Staffed (chronicle.grow entries) where
  fresh other above := by
    have apart : other ≠ session := Nat.ne_of_gt (Nat.lt_of_lt_of_le below above)
    simp [Chronicle.grow, staffed.fresh other (Nat.le_trans sessions above), (others other apart).2]
  former other := by
    rw [maker]
    -- The engine that was used is kept or over; the others are where they were.
    by_cases same : other = session
    · subst same
      cases retains with
      | kept opened id => exact .inr (.inr ⟨_, opened, id⟩)
      | finished =>
          refine .inr (.inl ⟨record.grow entries, ?_, later, serves⟩)
          simp [Chronicle.mem_calls, Chronicle.grow, latest]
    · rcases others other same with ⟨unasked, silent⟩
      rcases staffed.former other with
        none | ⟨holder, member, engine, holds⟩ | ⟨negotiation, opened, id⟩
      · exact .inl (by simp [Chronicle.grow, none, silent])
      · rcases Chronicle.mem_calls.mp member with past | there
        · refine .inr (.inl ⟨holder, ?_, engine, holds.unasked silent⟩)
          exact Chronicle.mem_calls.mpr (.inl past)
        · obtain rfl : record = holder := Option.some.inj (latest.symm.trans there)
          refine .inl ?_
          simp [Chronicle.grow, ← holds.whole, unasked, silent]
      · exact absurd (id.symm.trans (only negotiation opened)) same
  vacant calls idle := by
    cases retains with
    | kept opened => simp [opened] at idle
    | finished gone => exact absurd gone calls
  current negotiation opened := by
    rw [maker]
    cases retains with
    | kept there id engine =>
        obtain rfl := Option.some.inj (there.symm.trans opened)
        subst id engine
        refine ⟨below, record.grow entries, ?_, serves, fun muted => able muted _ opened⟩
        simp [Chronicle.grow, latest]
    | finished gone => simp [negotiation?, gone] at opened

/-- A step that uses no engine. -/
theorem Staffed.rest (staffed : phone.Staffed chronicle) (maker : after.maker = phone.maker)
    (sessions : after.nextSession = phone.nextSession) (unopened : phone.negotiation? = none)
    (still : after.negotiation? = none)
    (vacant : after.call ≠ none → ∀ record ∈ chronicle.latest, record.Vacant)
    (idle : entries.any LogEntry.isWork = false) : after.Staffed (chronicle.grow entries) where
  fresh other above := by
    have silent := LogEntry.requests_of_silent (LogEntry.any_isTraffic_of_idle idle) other
    simp [Chronicle.grow, staffed.fresh other (sessions ▸ above), silent]
  former other := by
    have silent := LogEntry.requests_of_silent (LogEntry.any_isTraffic_of_idle idle) other
    rw [maker]
    rcases staffed.former other with none | ⟨holder, member, engine, holds⟩ | ⟨_, opened, _⟩
    · exact .inl (by simp [Chronicle.grow, none, silent])
    · rcases Chronicle.mem_calls.mp member with past | there
      · refine .inr (.inl ⟨holder, ?_, engine, holds.unasked silent⟩)
        exact Chronicle.mem_calls.mpr (.inl past)
      · refine .inr (.inl ⟨holder.grow entries, ?_, engine, holds.grow (LogEntry.uses_idle idle)⟩)
        refine Chronicle.mem_calls.mpr (.inr ?_)
        simp [Chronicle.grow, Option.mem_def.mp there]
    · simp [unopened] at opened
  vacant calls _ other there := by
    have silent := LogEntry.requests_of_silent (LogEntry.any_isTraffic_of_idle idle)
    have unmuted := LogEntry.mutings_of_idle idle
    rcases Option.map_eq_some_iff.mp there with ⟨record, latest, rfl⟩
    have bare := vacant calls record latest
    exact ⟨by simp [bare.unasked, silent], by simp [bare.unmuted, unmuted]⟩
  current negotiation opened := by simp [still] at opened

theorem Staffed.labors (staffed : phone.Staffed chronicle) (latest : chronicle.latest = some record)
    (maker : after.maker = phone.maker) (labors : phone.Labors record.side after)
    (vacant : phone.negotiation? = none → record.Vacant) :
    after.Staffed (chronicle.grow (written phone after)) := by
  cases labors with
  | @conducts negotiation opened works sessions =>
      rcases works with ⟨entries, later, next, log, uses, retains, able⟩
      rcases staffed.current negotiation opened with ⟨below, holder, there, serves, muted⟩
      obtain rfl : record = holder := Option.some.inj (latest.symm.trans there)
      rw [written_eq log]
      refine staffed.advance latest maker (Nat.le_of_eq sessions.symm) (sessions ▸ below) ?_ ?_
        (serves.grow uses) retains ?_
      · intro other also
        exact congrArg Negotiation.id (Option.some.inj (also.symm.trans opened))
      · exact fun other apart => ⟨serves.uses.others other apart, uses.others other apart⟩
      · intro switched
        refine able ?_
        by_cases before : LogEntry.mutings record.entries = []
        · exact .inr (by simpa [before] using switched)
        · exact .inl (muted before)
  | hires unopened works sessions =>
      rcases works with ⟨entries, later, next, log, uses, retains, able⟩
      have bare := vacant unopened
      have assigned : Serves phone.maker chronicle.entries record phone.nextSession
          (phone.maker.make phone.nextSession) .unused :=
        ⟨(bare.unasked _).trans (staffed.fresh _ (Nat.le_refl _)).symm, uses_of_vacant bare⟩
      rw [written_eq log]
      refine staffed.advance latest maker (sessions ▸ Nat.le_succ _) (sessions ▸ Nat.lt_succ_self _)
        ?_ ?_ (assigned.grow uses) retains ?_
      · simp [unopened]
      · exact fun other apart => ⟨bare.unasked other, uses.others other apart⟩
      · intro switched
        exact able (.inr (by simpa [bare.unmuted] using switched))
  | rests unopened still log idle sessions =>
      rw [written_eq log]
      refine staffed.rest maker sessions unopened still (fun _ other there => ?_) idle
      obtain rfl := Option.some.inj (latest.symm.trans there)
      exact vacant unopened

theorem Staffed.opened (staffed : phone.Staffed chronicle) (idle : phone.call = none)
    (record : CallRecord) :
    phone.Staffed { chronicle with past := chronicle.calls, latest := some record } where
  fresh := staffed.fresh
  former session := (staffed.former session).imp_right fun holds => holds.imp_left fun
    ⟨holder, member, serves⟩ => ⟨holder, Chronicle.mem_calls.mpr (.inl member), serves⟩
  vacant calls := absurd idle calls
  current negotiation opened := by simp [negotiation?, idle] at opened

omit [MediaEngine ε] in
/-- The side of a call shows in the phase. -/
theorem Recalls.fits {situation : Situation} (recalls : phone.Recalls record situation)
    (current : phone.call ≠ none) :
    (phone.phase = .outgoing → record.side = .offering) ∧
      (phone.phase = .incoming → record.side = .answering) := by
  cases recalls with
  | finished gone => exact absurd gone current
  | current _ _ _ stands =>
      constructor <;> intro phase <;> rw [phase] at stands
      · exact stands.situation_outgoing.1
      · exact stands.situation_incoming.1

theorem Turn.opens {now : Instant} {occurrence : Occurrence} {opened : Option CallRecord}
    {started : Option CallId} (turn : phone.Turn now occurrence after opened started) :
    ∀ record ∈ opened, phone.call = none ∧ record.entries = [] := by
  cases turn with
  | quiet | going => simp
  | rang idle | dialed idle =>
      intro record there
      rw [Option.mem_some_iff] at there
      subst there
      exact ⟨idle, rfl⟩

theorem Staffed.unopened {now : Instant} {occurrence : Occurrence} {started : Option CallId}
    (staffed : phone.Staffed chronicle) (recounts : phone.Recounts chronicle)
    (coherent : phone.Coherent) (viable : phone.Viable) (maker : after.maker = phone.maker)
    (turn : phone.Turn now occurrence after none started) :
    after.Staffed (chronicle.grow (written phone after)) := by
  cases turn with
  | quiet idle still log sessions =>
      refine staffed.rest maker sessions ?_ ?_ (absurd still) (by simp [written, log])
      · simp [negotiation?, idle]
      · simp [negotiation?, still]
  | going current move =>
      have calls : phone.call ≠ none := by simp [current]
      cases latest : chronicle.latest with
      | none => exact absurd (recounts.idle latest) calls
      | some record =>
          rcases recounts.latest record latest with ⟨situation, course, recalls⟩
          have labors := labors_of_move move coherent viable current (recalls.fits calls)
          exact staffed.labors latest maker labors fun unopened =>
            staffed.vacant calls unopened record latest

theorem staffed_after (staffed : phone.Staffed chronicle) (recounts : phone.Recounts chronicle)
    (coherent : phone.Coherent) (viable : phone.Viable) (now : Instant) (occurrence : Occurrence) :
    (phone.after now occurrence).Staffed (chronicle.next phone now occurrence) := by
  have turn := turn_after recounts coherent viable now occurrence
  have maker := (steady_after coherent now occurrence).maker
  cases opened : phone.opened now occurrence with
  | some record =>
      rcases turn.opens record opened with ⟨idle, bare⟩
      have rests : phone.phase = .idle := coherent.phase_idle_iff.mpr idle
      have labors : phone.Labors record.side (phone.after now occurrence) := by
        refine labors_of_turn turn coherent viable (by simp [rests]) ?_
        rintro other there
        obtain rfl := Option.some.inj (opened.symm.trans there)
        rfl
      have vacant : record.Vacant := by
        constructor <;> simp [bare, LogEntry.requests, LogEntry.mutings]
      have grown := (staffed.opened idle record).labors rfl maker labors fun _ => vacant
      rw [Chronicle.next, opened]
      exact ⟨grown.fresh, grown.former, grown.vacant, grown.current⟩
  | none =>
      rw [opened] at turn
      have grown := staffed.unopened recounts coherent viable maker turn
      rw [Chronicle.next, opened]
      exact ⟨grown.fresh, grown.former, grown.vacant, grown.current⟩

theorem staffed_of_lived (lived : phone.Lived chronicle) : phone.Staffed chronicle := by
  induction lived with
  | new new =>
      have idle := new.call
      refine ⟨fun _ _ => rfl, fun _ => .inl rfl, absurd idle, ?_⟩
      simp [negotiation?, idle]
  | after lived now occurrence staffed =>
      exact staffed_after staffed (recounts_of_lived lived) (coherent_of_lived lived)
        (viable_of_lived lived) now occurrence
  | read lived rest staffed =>
      exact ⟨staffed.fresh, staffed.former, staffed.vacant, staffed.current⟩

/-! ## The whole run -/

/-- The requests to the engine of a negotiation so far, with what it said to them. -/
def used (maker : EngineMaker ε) (session : SessionId) (entries : List LogEntry) :
    List Engine.Exchange :=
  Engine.exchanges (maker.make session) (LogEntry.requests session entries)

theorem Serves.path (serves : Serves maker entries record session engine status) :
    Engine.Path record.side .unused (used maker session entries) status := by
  rw [used, ← serves.whole]
  exact serves.uses.path

theorem Staffed.running (staffed : phone.Staffed chronicle)
    (running : Engine.IsRunning (used phone.maker session chronicle.entries)) :
    ∃ negotiation, phone.negotiation? = some negotiation ∧ negotiation.id = session := by
  rcases staffed.former session with none | ⟨record, -, engine, serves⟩ | current
  · rcases running.built with ⟨pipeline, built⟩
    simp [used, none] at built
  · exact absurd running serves.path.not_isRunning
  · exact current

/-- A step asks one engine at most, and only the one of the call if that has one. -/
theorem Labors.single {side : Role} (labors : phone.Labors side after) :
    ∃ session,
      (∀ other, other ≠ session → LogEntry.requests other (written phone after) = []) ∧
      ∀ negotiation, phone.negotiation? = some negotiation → negotiation.id = session := by
  cases labors with
  | @conducts negotiation opened works =>
      rcases works with ⟨entries, _, _, log, uses, -⟩
      refine ⟨negotiation.id, fun other apart => ?_, fun kept there => ?_⟩
      · rw [written_eq log]
        exact uses.others other apart
      · rw [opened, Option.some.injEq] at there
        rw [there]
  | hires unopened works =>
      rcases works with ⟨entries, _, _, log, uses, -⟩
      refine ⟨phone.nextSession, fun other apart => ?_, by simp [unopened]⟩
      rw [written_eq log]
      exact uses.others other apart
  | rests unopened still log idle =>
      refine ⟨0, fun other _ => ?_, by simp [unopened]⟩
      rw [written_eq log]
      exact LogEntry.requests_of_silent (LogEntry.any_isTraffic_of_idle idle) other

theorem labors_after (recounts : phone.Recounts chronicle) (coherent : phone.Coherent)
    (viable : phone.Viable) (now : Instant) (occurrence : Occurrence) :
    ∃ side, phone.Labors side (phone.after now occurrence) := by
  have turn := turn_after recounts coherent viable now occurrence
  cases opened : phone.opened now occurrence with
  | some record =>
      rcases turn.opens record opened with ⟨idle, -⟩
      have rests : phone.phase = .idle := coherent.phase_idle_iff.mpr idle
      refine ⟨record.side, labors_of_turn turn coherent viable (by simp [rests]) ?_⟩
      rintro other there
      rw [opened, Option.mem_some_iff] at there
      rw [there]
  | none =>
      refine ⟨if phone.phase = .incoming then .answering else .offering,
        labors_of_turn turn coherent viable ?_ (by simp [opened])⟩
      cases phone.phase <;> simp

theorem entries_next (now : Instant) (occurrence : Occurrence) :
    (chronicle.next phone now occurrence).entries =
      chronicle.entries ++ written phone (phone.after now occurrence) := by
  unfold Chronicle.next
  cases phone.opened now occurrence <;> rfl

theorem running_unique (lived : phone.Lived chronicle) {earlier : List LogEntry}
    (before : earlier <+: chronicle.entries) {first second : SessionId}
    (runs : Engine.IsRunning (used phone.maker first earlier))
    (also : Engine.IsRunning (used phone.maker second earlier)) : first = second := by
  induction lived with
  | new =>
      obtain rfl := List.prefix_nil.mp before
      rcases runs.built with ⟨pipeline, built⟩
      simp [used, LogEntry.requests] at built
  | read lived rest ih => exact ih before runs also
  | @after phone chronicle lived now occurrence ih =>
      have coherent := coherent_of_lived lived
      rw [(steady_after coherent now occurrence).maker] at runs also
      rw [entries_next] at before
      -- A prefix that ends within the step differs from the chronicle before it in one engine only.
      rcases List.prefix_or_prefix_of_prefix before (List.prefix_append _ _) with past | ⟨more, rfl⟩
      · exact ih past runs also
      · rcases labors_after (recounts_of_lived lived) coherent (viable_of_lived lived) now
          occurrence with ⟨side, labors⟩
        rcases labors.single with ⟨session, others, only⟩
        have alone {other : SessionId}
            (running : Engine.IsRunning (used phone.maker other (chronicle.entries ++ more))) :
            other = session := by
          by_cases same : other = session
          · exact same
          · have silent : LogEntry.requests other more = [] := by
              rcases List.prefix_append_right_inj _ |>.mp before with ⟨rest, whole⟩
              have asked := others other same
              rw [← whole, LogEntry.requests_append] at asked
              exact (List.append_eq_nil_iff.mp asked).1
            have still : used phone.maker other (chronicle.entries ++ more) =
                used phone.maker other chronicle.entries := by
              simp [used, silent]
            rw [still] at running
            rcases (staffed_of_lived lived).running running with ⟨negotiation, opened, id⟩
            exact id.symm.trans (only negotiation opened)
        rw [alone runs, alone also]

/-- At no time two engines are built and not taken down. Every engine that a phone has asked
anything belongs to one of its calls and is used as it should be by the side that the phone is on,
and if its pipeline was built, it was taken down by its last request and no other one, unless its
call is still the current one. The engine of the current call is in the state to which its requests
have led it. -/
theorem engines_wellUsed (lived : phone.Lived chronicle) :
    (∀ earlier, earlier <+: chronicle.entries → ∀ first second,
        Engine.IsRunning (used phone.maker first earlier) →
        Engine.IsRunning (used phone.maker second earlier) → first = second) ∧
      (∀ session, used phone.maker session chronicle.entries = [] ∨
        ∃ record ∈ chronicle.calls,
          LogEntry.requests session record.entries =
            LogEntry.requests session chronicle.entries ∧
          Engine.WellUsed record.side (used phone.maker session chronicle.entries) ∧
          ∀ pipeline, ⟨.build pipeline, none⟩ ∈ used phone.maker session chronicle.entries →
            Engine.IsFinished (used phone.maker session chronicle.entries) ∨
              record ∈ chronicle.latest ∧ ∃ call, phone.call = some call ∧ record.Names call) ∧
      ∀ negotiation, phone.negotiation? = some negotiation →
        negotiation.engine = Engine.after (phone.maker.make negotiation.id)
          (LogEntry.requests negotiation.id chronicle.entries) := by
  have staffed := staffed_of_lived lived
  refine ⟨fun earlier before first second => running_unique lived before, fun session => ?_, ?_⟩
  · rcases staffed.former session with
      none | ⟨record, member, engine, serves⟩ | ⟨negotiation, opened, rfl⟩
    · exact .inl (by simp [used, none])
    · refine .inr ⟨record, member, serves.whole, serves.path.wellUsed rfl, ?_⟩
      exact fun pipeline built => .inl (serves.path.finished built)
    · rcases staffed.current negotiation opened with ⟨-, record, latest, serves, -⟩
      have rests : phone.phase.status.isRest = true := by cases phone.phase <;> rfl
      refine .inr ⟨record, Chronicle.mem_calls.mpr (.inr latest), serves.whole,
        serves.path.wellUsed rests, fun _ _ => .inr ⟨latest, ?_⟩⟩
      cases current : phone.call with
      | none => simp [negotiation?, current] at opened
      | some call =>
          rcases (recounts_of_lived lived).latest record latest with ⟨_, _, recalls⟩
          exact ⟨call, rfl, (recalls.at current).1⟩
  · intro negotiation opened
    rcases staffed.current negotiation opened with ⟨-, record, -, serves, -⟩
    rw [← serves.whole]
    exact serves.uses.leads

/-- The engine of a call that was hung up before it was answered. -/
theorem engines_wellUsed_missedRun :
    (used scripted.maker 1 (chronicled (scripted, {}) missedRun).2.entries).map
        Engine.Exchange.request = [.build scripted.pipeline, .offer, .finish] ∧
      ∃ record ∈ (chronicled (scripted, {}) missedRun).2.calls,
        Engine.WellUsed record.side
          (used scripted.maker 1 (chronicled (scripted, {}) missedRun).2.entries) := by
  have lived := lived_chronicled (.new isNew_scripted) missedRun
  have asked : used scripted.maker 1 (chronicled (scripted, {}) missedRun).2.entries ≠ [] := by
    decide
  rcases ((engines_wellUsed lived).2.1 1).resolve_left asked with ⟨record, member, -, well, -⟩
  exact ⟨by decide, record, member, well⟩

end Phone

end RoomCall
