import RoomCall.Proofs.Phone.Course

/-!
# Every call takes its course

`Phone.Recalls` bears where in its course the call of a phone is, and `Phone.Tells` that what a step
has written so far goes on with the course. Each thing that a step does keeps this, so every move
does, and the chronicle of a phone consists of courses: those of the earlier calls are over, and the
latest one is where the phone is.
-/

namespace RoomCall

variable {ε : Type}

namespace Call

/-- Whether the local description of a call was reported. -/
def hasReported (call : Call ε) : Bool :=
  call.negotiation.any Negotiation.described

/-- Where a call is in its course, on the side that this device is on. -/
inductive At (phase : Phase) (call : Call ε) : Role → Situation → Prop where
  | ringing (incoming : phase = .incoming) (unaccepted : call.accepted = false) :
      At phase call .answering .ringing
  | accepted (incoming : phase = .incoming) (accepted : call.accepted = true) :
      At phase call .answering .accepted
  | dialing (outgoing : phase = .outgoing) (silent : call.hasReported = false) :
      At phase call .offering .dialing
  | invited (outgoing : phase = .outgoing) (reported : call.hasReported = true) :
      At phase call .offering .invited
  | talking {side : Role} (active : phase = .active) : At phase call side .talking

variable {phase : Phase} {call later : Call ε} {side : Role} {situation : Situation}

theorem At.phase_ne_idle (at_ : call.At phase side situation) : phase ≠ .idle := by
  cases at_ with
  | ringing is | accepted is | dialing is | invited is | talking is => simp [is]

theorem At.not_finished (at_ : call.At phase side situation) (ending : Ending) :
    situation ≠ .finished ending := by
  cases at_ <;> simp

/-- A call on an outgoing phone is invited or still to be, as it has reported its candidates or not.
-/
theorem At.situation_outgoing (at_ : call.At .outgoing side situation) :
    side = .offering ∧
      situation = if call.hasReported then .invited else .dialing := by
  cases at_ with
  | ringing is | accepted is | talking is => cases is
  | dialing _ silent => exact ⟨rfl, by rw [silent]; rfl⟩
  | invited _ reported => exact ⟨rfl, by rw [reported]; rfl⟩

/-- A call on a phone with an incoming call is accepted or rings. -/
theorem At.situation_incoming (at_ : call.At .incoming side situation) :
    side = .answering ∧ situation = if call.accepted then .accepted else .ringing := by
  cases at_ with
  | dialing is | invited is | talking is => cases is
  | ringing _ unaccepted => exact ⟨rfl, by rw [unaccepted]; rfl⟩
  | accepted _ accepted => exact ⟨rfl, by rw [accepted]; rfl⟩

theorem At.situation_active (at_ : call.At .active side situation) : situation = .talking := by
  cases at_ with
  | ringing is | accepted is | dialing is | invited is => cases is
  | talking => rfl

/-- What the course of a call depends on. -/
structure Outline where
  id : CallId
  room : RoomId
  party : PartyId
  accepted : Bool
  hasReported : Bool

/-- A call without what its course does not depend on. -/
def outline (call : Call ε) : Outline :=
  ⟨call.id, call.room, call.party, call.accepted, call.hasReported⟩

/-- The situation of a call depends on its outline only. -/
theorem At.congr (at_ : call.At phase side situation) (same : later.outline = call.outline) :
    later.At phase side situation := by
  simp only [outline, Outline.mk.injEq] at same
  rcases same with ⟨-, -, -, accepted, reported⟩
  cases at_ with
  | ringing is unaccepted => exact .ringing is (accepted.trans unaccepted)
  | accepted is was => exact .accepted is (accepted.trans was)
  | dialing is silent => exact .dialing is (reported.trans silent)
  | invited is was => exact .invited is (reported.trans was)
  | talking is => exact .talking is

/-- A call keeps its outline when its negotiation changes but for whether it is described. -/
theorem outline_keeping {negotiation asked : Negotiation ε}
    (opened : call.negotiation = some negotiation)
    (same : asked.described = negotiation.described) :
    (call.keeping asked).outline = call.outline := by
  simp [outline, hasReported, keeping, opened, same]

end Call

theorem CallRecord.Names.congr {record : CallRecord} {call later : Call ε}
    (names : record.Names call) (same : later.outline = call.outline) : record.Names later := by
  simp only [Call.outline, Call.Outline.mk.injEq] at same
  rcases same with ⟨id, room, party, -, -⟩
  exact ⟨names.id.trans id.symm, names.room.trans room.symm, names.party.trans party.symm⟩

namespace Phone

/-- How the record of the latest call fits a phone. -/
inductive Recalls (phone : Phone ε) (record : CallRecord) : Situation → Prop where
  | finished {ending : Ending} (gone : phone.call = none) : Recalls phone record (.finished ending)
  | current {call : Call ε} {situation : Situation} (current : phone.call = some call)
      (names : record.Names call)
      (lifetime : record.side = .offering → record.lifetime = phone.inviteLifetime)
      (stands : call.At phone.phase record.side situation) : Recalls phone record situation

theorem Recalls.grow {phone : Phone ε} {record : CallRecord} {situation : Situation}
    (recalls : phone.Recalls record situation) (entries : List LogEntry) :
    phone.Recalls (record.grow entries) situation := by
  cases recalls with
  | finished gone => exact .finished gone
  | current current names lifetime stands =>
      exact .current current ⟨names.id, names.room, names.party⟩ lifetime stands

/-- What a step has written so far goes on with the course of a call. -/
def Tells (phone : Phone ε) (record : CallRecord) (after : Phone ε) : Prop :=
  ∃ entries situation, after.log = phone.log ++ entries ∧
    (record.grow entries).Course situation ∧ after.Recalls record situation

variable {phone before after : Phone ε} {record : CallRecord} {call later : Call ε}
  {situation : Situation}

theorem Recalls.at (recalls : phone.Recalls record situation) (current : phone.call = some call) :
    record.Names call ∧
      (record.side = .offering → record.lifetime = phone.inviteLifetime) ∧
      call.At phone.phase record.side situation := by
  cases recalls with
  | finished gone => simp [gone] at current
  | current there names lifetime stands =>
      rw [current, Option.some.injEq] at there
      subst there
      exact ⟨names, lifetime, stands⟩

theorem tells_still (course : record.Course situation) (recalls : phone.Recalls record situation) :
    phone.Tells record phone :=
  ⟨[], situation, (List.append_nil _).symm, by rwa [CallRecord.grow_nil], recalls⟩

/-- A step that writes asides and leaves the course where it is. -/
theorem Tells.aside (tells : phone.Tells record before) (current : before.call = some call)
    (entries : List LogEntry) (log : after.log = before.log ++ entries)
    (quiet : entries.all LogEntry.isAside = true) (kept : after.call = some later)
    (same : later.outline = call.outline) (phase : after.phase = before.phase)
    (settings : after.settings = before.settings) : phone.Tells record after := by
  rcases tells with ⟨written, situation, grown, course, recalls⟩
  rcases recalls.at current with ⟨names, lifetime, stands⟩
  refine ⟨written ++ entries, situation, ?_, ?_, .current kept (names.congr same) ?_ ?_⟩
  · rw [log, grown, List.append_assoc]
  · rw [← CallRecord.grow_grow]
    exact .aside course quiet
  · rw [inviteLifetime, settings]
    exact lifetime
  · rw [phase]
    exact stands.congr same

theorem Tells.keep {negotiation asked : Negotiation ε} (tells : phone.Tells record before)
    (current : before.call = some call) (opened : call.negotiation = some negotiation)
    (same : asked.described = negotiation.described) :
    phone.Tells record (before.keep call asked) :=
  tells.aside current _ rfl (LogEntry.all_isAside_traffic _ _) rfl
    (Call.outline_keeping opened same) rfl rfl

/-- Entries that are aside from the course of calls may be written at any time. -/
theorem Tells.noted (tells : phone.Tells record before) (current : before.call = some call)
    {entries : List LogEntry} (quiet : entries.all LogEntry.isAside = true) :
    phone.Tells record (before.noted entries) :=
  tells.aside current entries rfl quiet current rfl rfl rfl

variable [MediaEngine ε]

/-- The end of a call ends its course, whatever else is written before it. -/
theorem Tells.ended {late : Phone ε} {other : Call ε} (tells : phone.Tells record before)
    (current : before.call = some call) (entries : List LogEntry)
    (log : late.log = before.log ++ entries) (quiet : entries.all LogEntry.isAside = true)
    (phase : late.phase = before.phase) (names : record.Names call → record.Names other)
    {ending : Ending} {cause : Option HangupCause}
    (hangs : cause.isSome = ending.hangsUp record.side) :
    phone.Tells record (late.ended other ending cause) := by
  rcases tells with ⟨written, situation, grown, course, recalls⟩
  rcases recalls.at current with ⟨named, -, stands⟩
  have present := names named
  let hangups := cause.toList.map fun cause =>
    late.style.hangup other.id other.party (some cause)
  let asides := other.negotiation.elim [] teardownEntries ++ rosterEntries late.roster []
  have farewell : late.farewell other ending cause =
      hangups.map record.sending ++ .errand .cancelTimer :: asides ++
        [.announcement (.phaseChanged .idle), .announcement (.callEnded record.call ending)] := by
    have busy : late.phase ≠ .idle := by
      rw [phase]
      exact stands.phase_ne_idle
    simp [Phone.farewell, hangups, asides, CallRecord.sending, phaseEntries, busy, present.id,
      present.room]
  refine ⟨written ++ entries ++ late.farewell other ending cause, .finished ending, ?_, ?_,
    .finished rfl⟩
  · simp [Phone.ended, log, grown]
  · rw [← CallRecord.grow_grow, ← CallRecord.grow_grow, farewell]
    refine .ended (.aside course quiet) stands.not_finished ?_ ?_ ?_
    · intro hangup there
      rcases List.mem_map.mp there with ⟨cause, -, rfl⟩
      exact ((present.bears_hangup cause).grow written).grow entries
    · simp only [hangups, List.length_map]
      change cause.toList.length = if ending.hangsUp record.side then 1 else 0
      rw [← hangs]
      cases cause <;> rfl
    · simp [asides]

omit [MediaEngine ε] in
/-- A phone that has its offer and candidates sends both and arms the timer for the invite's
lifetime. -/
theorem inviteEntries_eq (names : record.Names call)
    (lifetime : record.lifetime = phone.inviteLifetime) (offer : String)
    (candidates : List Candidate) :
    phone.inviteEntries call offer candidates =
      [record.sending (phone.style.invite phone.streamNames call.id call.party
          phone.inviteLifetime offer).1,
        record.sending (phone.style.candidates call.id call.party candidates),
        .errand (.armTimer record.call record.lifetime)] := by
  simp [inviteEntries, CallRecord.sending, names.id, names.room, lifetime]

omit [MediaEngine ε] in
/-- A phone that has its answer and candidates sends both and announces that it is active. -/
theorem answerEntries_eq (names : record.Names call) (answer : String)
    (candidates : List Candidate) :
    phone.answerEntries call answer candidates ++ [.announcement (.phaseChanged .active)] =
      [record.sending (phone.style.answer phone.streamNames call.id call.party answer).1,
        record.sending (phone.style.candidates call.id call.party candidates),
        .announcement (.phaseChanged .active)] := by
  simp [answerEntries, CallRecord.sending, names.room]

omit [MediaEngine ε] in
/-- With the invite a dialing call goes on to be invited. -/
theorem Tells.invited (tells : phone.Tells record before) (current : before.call = some call)
    (outgoing : before.phase = .outgoing) (silent : call.hasReported = false)
    (description : String) (candidates : List Candidate) (entries : List LogEntry)
    (log : after.log =
      before.log ++ (before.inviteEntries call description candidates ++ entries))
    (quiet : entries.all LogEntry.isAside = true) (kept : after.call = some later)
    (names : record.Names call → record.Names later) (reported : later.hasReported = true)
    (phase : after.phase = .outgoing) (settings : after.settings = before.settings) :
    phone.Tells record after := by
  rcases tells with ⟨written, situation, grown, course, recalls⟩
  rcases recalls.at current with ⟨named, lifetime, stands⟩
  rw [outgoing] at stands
  rcases stands.situation_outgoing with ⟨offering, rfl⟩
  rw [silent] at course
  refine ⟨_, .invited, by rw [log, grown, List.append_assoc], ?_,
    .current kept (names named) ?_ ?_⟩
  · rw [inviteEntries_eq named (lifetime offering), ← CallRecord.grow_grow, ← CallRecord.grow_grow]
    exact .aside (.invited course ((named.bears_invite _ _ _).grow written)
      ((named.bears_candidates _).grow written)) quiet
  · rw [inviteLifetime, settings]
    exact lifetime
  · rw [offering, phase]
    exact .invited rfl reported

omit [MediaEngine ε] in
/-- With the answer an accepted call goes on to talking. -/
theorem Tells.answered (tells : phone.Tells record before) (current : before.call = some call)
    (incoming : before.phase = .incoming) (accepted : call.accepted = true)
    (description : String) (candidates : List Candidate) (entries : List LogEntry)
    (log : after.log = before.log ++ (before.answerEntries call description candidates ++
      [.announcement (.phaseChanged .active)] ++ entries))
    (quiet : entries.all LogEntry.isAside = true) (kept : after.call = some later)
    (names : record.Names call → record.Names later)
    (phase : after.phase = .active) (settings : after.settings = before.settings) :
    phone.Tells record after := by
  rcases tells with ⟨written, situation, grown, course, recalls⟩
  rcases recalls.at current with ⟨named, lifetime, stands⟩
  rw [incoming] at stands
  rcases stands.situation_incoming with ⟨answering, rfl⟩
  rw [accepted] at course
  refine ⟨_, .talking, by rw [log, grown, List.append_assoc], ?_,
    .current kept (names named) ?_ ?_⟩
  · rw [answerEntries_eq named, ← CallRecord.grow_grow, ← CallRecord.grow_grow]
    exact .aside (.answered course ((named.bears_answer _ _).grow written)
      ((named.bears_candidates _).grow written)) quiet
  · rw [inviteLifetime, settings]
    exact lifetime
  · rw [phase]
    exact .talking rfl

omit [MediaEngine ε] in
theorem log_described (phone : Phone ε) (call : Call ε) (negotiation : Negotiation ε)
    (description : String) (candidates : List Candidate) (side : Role) :
    ((phone.keep call negotiation).described (call.keeping negotiation) description candidates
        side).log =
      phone.log ++ negotiation.traffic.map (LogEntry.traffic negotiation.id) ++
        phone.descriptionEntries call description candidates side ++
        phaseEntries phone.phase (phaseAfterReport phone.phase side) ++
        rosterEntries phone.roster (phone.roster.addAll call.members) := by
  cases side <;> rfl

omit [MediaEngine ε] in
/-- The local description of a call goes out once, where the course has a place for it. -/
theorem Tells.described {negotiation handled : Negotiation ε} {side : Role} {description : String}
    {candidates : List Candidate} (tells : phone.Tells record before)
    (coherent : before.Coherent) (current : before.call = some call)
    (opened : call.negotiation = some negotiation) (runs : negotiation.Runs side)
    (silent : negotiation.described = false) (reported : handled.described = true) :
    phone.Tells record ((before.keep call handled).described (call.keeping handled) description
      candidates side) := by
  have told := tells.noted current (LogEntry.all_isAside_traffic handled.id handled.traffic)
  have kept : record.Names call → record.Names (call.keeping handled) :=
    fun names => ⟨names.id, names.room, names.party⟩
  have quiet := LogEntry.all_isAside_rosterEntries before.roster
    (before.roster.addAll call.members)
  -- Which of the two messages goes out shows in the phase: the description was not reported before.
  rcases phase_of_silent coherent current opened runs silent with
    ⟨rfl, outgoing, -, -⟩ | ⟨rfl, incoming, -, -, -⟩
  · have unreported : call.hasReported = false := by simp [Call.hasReported, opened, silent]
    refine told.invited current outgoing unreported description candidates _ ?_ quiet rfl kept
      reported outgoing rfl
    have same : phaseEntries before.phase (phaseAfterReport before.phase .offering) = [] := by
      simp [phaseAfterReport, phaseEntries]
    rw [log_described, same, List.append_nil, List.append_assoc]
    rfl
  · have stands := coherent.stands current
    rw [incoming] at stands
    refine told.answered current incoming (stands.accepted opened) description candidates _ ?_ quiet
      rfl kept rfl rfl
    have moved : phaseEntries before.phase (phaseAfterReport before.phase .answering) =
        [.announcement (.phaseChanged .active)] := by
      simp [phaseAfterReport, phaseEntries, incoming]
    rw [log_described, moved, List.append_assoc _ (before.descriptionEntries ..),
      List.append_assoc]
    rfl

omit [MediaEngine ε] in
/-- With the answer of the other side an invited call goes on to talking. -/
theorem Tells.established (tells : phone.Tells record before) (current : before.call = some call)
    (outgoing : before.phase = .outgoing) (reported : call.hasReported = true)
    (log : after.log =
      before.log ++ [.errand .cancelTimer, .announcement (.phaseChanged .active)])
    (kept : after.call = some later) (names : record.Names call → record.Names later)
    (phase : after.phase = .active) (settings : after.settings = before.settings) :
    phone.Tells record after := by
  rcases tells with ⟨written, situation, grown, course, recalls⟩
  rcases recalls.at current with ⟨named, lifetime, stands⟩
  rw [outgoing] at stands
  rcases stands.situation_outgoing with ⟨offering, rfl⟩
  rw [reported] at course
  refine ⟨_, .talking, by rw [log, grown, List.append_assoc], ?_,
    .current kept (names named) ?_ ?_⟩
  · rw [← CallRecord.grow_grow]
    exact .established course
  · rw [inviteLifetime, settings]
    exact lifetime
  · rw [phase]
    exact .talking rfl

omit [MediaEngine ε] in
/-- Another description for a call that is described leaves the course of the call where it is. -/
theorem Tells.renegotiated {negotiation handled : Negotiation ε} {description : String}
    {kind : DescriptionKind} (tells : phone.Tells record before) (coherent : before.Coherent)
    (current : before.call = some call) (opened : call.negotiation = some negotiation)
    (described : negotiation.described = true)
    (same : handled.described = negotiation.described) :
    phone.Tells record
      ((before.keep call handled).sendNegotiate (call.keeping handled) description kind) := by
  have kept : (before.keep call handled).call = some (call.keeping handled) := rfl
  rcases tells.keep current opened same with ⟨written, situation, grown, course, recalls⟩
  rcases recalls.at kept with ⟨named, lifetime, stands⟩
  have live : situation = .invited ∨ situation = .talking := by
    have earlier := coherent.stands current
    change Call.At before.phase (call.keeping handled) record.side situation at stands
    generalize before.phase = phase at earlier stands
    cases earlier with
    | ringing unopened | awaitingAnswer unopened | awaitingOffer unopened =>
        simp [unopened] at opened
    | answering there runs initiated =>
        rcases Option.some.inj (opened.symm.trans there) with rfl
        simp [runs.silent_of_initiated initiated] at described
    | offering =>
        have reported : (call.keeping handled).hasReported = true := same.trans described
        rw [stands.situation_outgoing.2, reported]
        exact .inl rfl
    | established => exact .inr stands.situation_active
  rw [sendNegotiate_eq]
  refine ⟨_, situation, by rw [grown, List.append_assoc], ?_,
    .current kept named lifetime stands⟩
  rw [← CallRecord.grow_grow, ← named.room]
  exact .renegotiated course live ((named.bears_negotiate _ _ _ _).grow written)

/-- The opening of a negotiation is a step in the course of its call. -/
theorem tells_of_opens {side : Role} (opens : before.Opens call side after)
    (tells : phone.Tells record before) (current : before.call = some call)
    (unopened : call.negotiation = none) : phone.Tells record after := by
  cases opens with
  | @opened negotiation opened =>
      have quiet : (negotiation.traffic.map (LogEntry.traffic negotiation.id) ++
          stageEntries (Negotiation.openingStages.map .progressChanged)).all
            LogEntry.isAside = true := by
        rw [List.all_append, LogEntry.all_isAside_traffic, LogEntry.all_isAside_stageEntries]
        rfl
      refine tells.aside current _ (List.append_assoc ..) quiet rfl ?_ rfl rfl
      cases side <;>
        simp [Call.outline, Call.hasReported, Call.handOver, Call.emptied, unopened, opened.silent]
  | @refused negotiation error =>
      have quiet : (negotiation.traffic.map (LogEntry.traffic negotiation.id) ++
          [LogEntry.announcement (.failure error.message)]).all LogEntry.isAside = true := by
        rw [List.all_append, LogEntry.all_isAside_traffic]
        rfl
      refine tells.ended current _ ?_ quiet ?_ ?_ ?_
      · exact List.append_assoc ..
      · rfl
      · cases side <;> exact fun names => ⟨names.id, names.room, names.party⟩
      · cases error <;> rfl

theorem tells_of_starts {side : Role} (starts : before.Starts call side after)
    (tells : phone.Tells record before) (current : before.call = some call)
    (unopened : call.negotiation = none) : phone.Tells record after := by
  cases starts with
  | opens opens => exact tells_of_opens opens tells current unopened
  | waits =>
      refine tells.aside current _ rfl ?_ rfl rfl rfl rfl
      split <;> rfl

/-- An answer that is taken is a step in the course of its call. -/
theorem tells_of_settles (settles : before.Settles call after) (tells : phone.Tells record before)
    (coherent : before.Coherent) (current : before.call = some call)
    (outgoing : before.phase = .outgoing) : phone.Tells record after := by
  cases settles with
  | waits => exact tells
  | @refused answer negotiation failed fault =>
      have quiet := LogEntry.all_isAside_traffic failed.id failed.traffic
      refine tells.ended current _ ?_ quiet ?_ ?_ ?_
      · rfl
      · rfl
      · exact fun names => ⟨names.id, names.room, names.party⟩
      · rfl
  | @applied answer negotiation answered opened sent =>
      have described : negotiation.described = true := by
        rcases (coherent.stands current).runs opened with ⟨side, runs⟩
        rw [← runs.isNegotiated_eq, sent]
        rfl
      have told := tells.noted current (LogEntry.all_isAside_traffic negotiation.id
        ((negotiation.applyRemote answer .answer call.remoteUser).1.addRemoteCandidates
          (call.heldCandidates.map Prod.snd)).traffic)
      have reported : call.hasReported = true := by simp [Call.hasReported, opened, described]
      refine told.established current outgoing reported ?_ rfl
        (fun names => ⟨names.id, names.room, names.party⟩) rfl rfl
      simp [noted, keep_eq, phaseEntries, outgoing]

/-- A reaction to a callback is a step in the course of its call. -/
theorem tells_of_reacts {negotiation handled : Negotiation ε} {side : Role}
    (reacts : before.Reacts call side negotiation handled after)
    (tells : phone.Tells record before) (coherent : before.Coherent)
    (hopeful : negotiation.ice ≠ .failed)
    (current : before.call = some call) (opened : call.negotiation = some negotiation)
    (runs : negotiation.Runs side) : phone.Tells record after := by
  have named : record.Names call → record.Names (call.keeping handled) :=
    fun names => ⟨names.id, names.room, names.party⟩
  cases reacts with
  | moved _ same =>
      exact (tells.keep current opened same).noted rfl (LogEntry.all_isAside_stageEntries _)
  | reported _ silent reported =>
      exact (tells.described coherent current opened runs silent reported).noted rfl
        (LogEntry.all_isAside_stageEntries _)
  | renegotiated _ described same =>
      exact tells.renegotiated coherent current opened described same
  | watched _ same =>
      rw [setRoster_eq]
      have quiet := LogEntry.all_isAside_rosterEntries
      exact (tells.keep current opened same).aside rfl _ rfl (quiet _ _)
        rfl rfl rfl rfl
  | broken =>
      have quiet := LogEntry.all_isAside_traffic handled.id handled.traffic
      refine tells.ended current _ ?_ quiet ?_ named ?_
      · rfl
      · rfl
      · rfl
  | lost =>
      have quiet : (handled.traffic.map (LogEntry.traffic handled.id) ++
          stageEntries [.progressChanged .iceFailed]).all LogEntry.isAside = true := by
        rw [List.all_append, LogEntry.all_isAside_traffic, LogEntry.all_isAside_stageEntries]
        rfl
      refine tells.ended current _ ?_ quiet ?_ named ?_
      · exact List.append_assoc ..
      · rfl
      · rfl
  -- Here a message would go out for a call that ends in the same step.
  | reportedLost _ _ ice => exact absurd ice hopeful

omit [MediaEngine ε] in
/-- The other side is told of the end of a call as its ending asks for. -/
theorem Ends.hangsUp {occurrence : Occurrence} {entries : List LogEntry} {ending : Ending}
    {cause : Option HangupCause} {side : Role}
    (ends : phone.Ends call occurrence entries ending cause)
    (stands : call.At phone.phase side situation) : cause.isSome = ending.hangsUp side := by
  cases ends with
  | missed _ incoming =>
      rw [incoming] at stands
      rw [stands.situation_incoming.1]
      rfl
  | unanswered _ outgoing =>
      rw [outgoing] at stands
      rw [stands.situation_outgoing.1]
      rfl
  | hungUp | ignored | rejected | answeredElsewhere | hungUpElsewhere => rfl

/-- Every move of a phone is a step in the course of the call that it has. -/
theorem tells_of_move {now : Instant} {occurrence : Occurrence}
    (move : phone.Move now occurrence after) (coherent : phone.Coherent) (viable : phone.Viable)
    (current : phone.call = some call) (course : record.Course situation)
    (recalls : phone.Recalls record situation) : phone.Tells record after := by
  have tells := tells_still course recalls
  have replaced {other : Call ε} (same : other.outline = call.outline) :
      phone.Tells record { phone with call := some other } :=
    tells.aside current [] (List.append_nil _).symm rfl rfl same rfl rfl
  cases move with
  | still => exact tells
  | plugged => exact tells.aside current [] (List.append_nil _).symm rfl current rfl rfl rfl
  | refreshed => exact tells.aside current [] (List.append_nil _).symm rfl current rfl rfl rfl
  | rang idle => simp [idle] at current
  | dialed _ idle => simp [idle] at current
  | @resumed outcome other side after is there deferred opens =>
      have unopened := unopened_of_deferred coherent there deferred
      have told : phone.Tells record
          { phone.refreshed now outcome with call := some { other with deferred := none } } :=
        tells.aside there [] (List.append_nil _).symm rfl rfl rfl rfl rfl
      exact tells_of_opens opens told rfl unopened
  | @accepted other after is there incoming unaccepted compatible starts =>
      have unopened := (rings_of_unaccepted coherent there incoming unaccepted).1
      refine tells_of_starts starts ?_ rfl unopened
      rcases recalls.at there with ⟨names, lifetime, stands⟩
      rw [incoming] at stands
      rcases stands.situation_incoming with ⟨answering, rfl⟩
      rw [unaccepted] at course
      refine ⟨[.errand .cancelTimer], .accepted, rfl, .accepted course,
        .current rfl ⟨names.id, names.room, names.party⟩ lifetime ?_⟩
      rw [answering]
      exact .accepted incoming rfl
  | @ended other entries ending cause there ends =>
      have hangs := ends.hangsUp (recalls.at there).2.2
      refine tells.ended there entries ?_ ?_ ?_ id hangs
      · rfl
      · cases ends <;> rfl
      · rfl
  | @held other batch there =>
      rcases Option.some.inj (current.symm.trans there) with rfl
      exact replaced rfl
  | @gathered other batch after there heard admits outgoing settles =>
      rcases Option.some.inj (current.symm.trans there) with rfl
      have same : (call.holding batch).outline = call.outline := rfl
      exact tells_of_settles settles (replaced same)
        (coherent.recall current outgoing rfl rfl rfl rfl rfl rfl) rfl outgoing
  | @answered other answer after there heard admits outgoing unanswered settles =>
      rcases Option.some.inj (current.symm.trans there) with rfl
      have same : (call.answeredBy answer).outline = call.outline := by
        unfold Call.answeredBy
        cases answer.party <;> rfl
      refine tells_of_settles settles (replaced same) ?_ rfl outgoing
      unfold Call.answeredBy
      cases answer.party <;> exact coherent.recall current outgoing rfl rfl rfl rfl rfl rfl
  | handed there opened =>
      exact tells.keep there opened (Negotiation.described_addRemoteCandidates _)
  | renegotiated there opened =>
      exact tells.keep there opened (Negotiation.described_renegotiate _ _ _)
  | muted is there opened =>
      refine (tells.keep there opened (Negotiation.described_setMuted _)).noted rfl ?_
      split <;> rfl
  | toggled is there opened => exact tells.keep there opened Negotiation.described_toggleCamera
  | reacted is there opened runs reacts =>
      have hopeful := (viable _ there).hopeful opened
      exact tells_of_reacts reacts tells coherent hopeful there opened runs

omit [MediaEngine ε] in
/-- The course of a call that is heard begins with ringing. -/
theorem tells_ringing (idle : phone.phase = .idle) (now : Instant) (membership : Membership)
    (sender : UserId) (invite : Invite) :
    phone.Tells (phone.rungRecord membership invite)
      (phone.ringing now membership sender invite) := by
  have rung : ((phone.rungRecord membership invite).grow [.announcement (.phaseChanged .incoming),
      .errand (.armTimer invite.call invite.lifetime),
      .announcement (.incomingCall sender membership.room invite.lifetime
        invite.call)]).Course .ringing :=
    .rang rfl rfl
  have quiet : (if phone.relay.isFresh now || phone.refreshing then []
      else [LogEntry.errand .refreshRelay]).all LogEntry.isAside = true := by
    split <;> rfl
  have told := CallRecord.Course.aside rung quiet
  rw [CallRecord.grow_grow] at told
  refine ⟨_, .ringing, ?_, told, .current rfl ⟨rfl, rfl, rfl⟩ ?_ (.ringing rfl rfl)⟩
  · simp [ringing, phaseEntries, idle]
  · rintro ⟨⟩

omit [MediaEngine ε] in
/-- The course of a call that is started begins with dialing. -/
theorem tells_dialing (idle : phone.phase = .idle) (now : Instant) (membership : Membership)
    (callee : UserId) :
    phone.Tells (phone.dialedRecord membership (phone.dialedCall now membership callee).id)
      (phone.dialing now membership callee) := by
  refine ⟨[.announcement (.phaseChanged .outgoing)], .dialing, ?_, .dialed rfl rfl,
    .current rfl ⟨rfl, rfl, rfl⟩ (fun _ => rfl) (.dialing rfl rfl)⟩
  simp [dialing, phaseEntries, idle]

/-! ## The whole chronicle -/

/-- A chronicle that accounts for everything a phone has written and told: it consists of the
courses of the calls that were opened. -/
structure Recounts (phone : Phone ε) (chronicle : Chronicle) : Prop where
  entries : chronicle.entries = chronicle.calls.flatMap CallRecord.entries
  started : chronicle.started =
    (chronicle.calls.filter fun record => record.side = .offering).map CallRecord.call
  past : ∀ record ∈ chronicle.past, ∃ ending, record.Course (.finished ending)
  latest : ∀ record, chronicle.latest = some record →
    ∃ situation, record.Course situation ∧ phone.Recalls record situation
  idle : chronicle.latest = none → phone.call = none

variable {chronicle : Chronicle}

omit [MediaEngine ε] in
/-- When a phone has no call, all that it had are finished. -/
theorem Recounts.finished (recounts : phone.Recounts chronicle) (idle : phone.call = none) :
    ∀ record ∈ chronicle.calls, ∃ ending, record.Course (.finished ending) := by
  intro record there
  rcases List.mem_append.mp there with past | latest
  · exact recounts.past record past
  · rw [Option.mem_toList] at latest
    rcases recounts.latest record latest with ⟨situation, course, recalls⟩
    cases recalls with
    | finished => exact ⟨_, course⟩
    | current current => simp [idle] at current

/-- A history is continued by a call that opens when there is none. -/
theorem Recounts.opened {now : Instant} {occurrence : Occurrence}
    (recounts : phone.Recounts chronicle) (idle : phone.call = none)
    (opened : phone.opened now occurrence = some record)
    (bare : record.entries = [])
    (started : (phone.started? now occurrence).toList =
      if record.side = .offering then [record.call] else [])
    (tells : phone.Tells record (phone.after now occurrence)) :
    (phone.after now occurrence).Recounts (chronicle.next phone now occurrence) := by
  rcases tells with ⟨entries, situation, log, course, recalls⟩
  have next : chronicle.next phone now occurrence =
      { entries := chronicle.entries ++ entries
        started := chronicle.started ++ if record.side = .offering then [record.call] else []
        past := chronicle.calls
        latest := some (record.grow entries) } := by
    simp [Chronicle.next, opened, started, written_eq log]
  rw [next]
  refine ⟨?_, ?_, recounts.finished idle, ?_, by simp⟩
  · simp [Chronicle.calls, recounts.entries, CallRecord.grow, bare]
  · by_cases offering : record.side = .offering <;>
      simp [Chronicle.calls, recounts.started, offering, CallRecord.grow]
  · rintro other ⟨⟩
    exact ⟨situation, course, recalls.grow entries⟩

/-- A history is continued by what is written about the latest call. -/
theorem Recounts.grown {now : Instant} {occurrence : Occurrence}
    (recounts : phone.Recounts chronicle) (unopened : phone.opened now occurrence = none)
    (unstarted : phone.started? now occurrence = none) (latest : chronicle.latest = some record)
    (tells : phone.Tells record (phone.after now occurrence)) :
    (phone.after now occurrence).Recounts (chronicle.next phone now occurrence) := by
  rcases tells with ⟨entries, situation, log, course, recalls⟩
  have next : chronicle.next phone now occurrence =
      { chronicle with
        entries := chronicle.entries ++ entries
        latest := some (record.grow entries) } := by
    simp [Chronicle.next, unopened, unstarted, written_eq log, latest]
  rw [next]
  refine ⟨?_, ?_, recounts.past, ?_, by simp⟩
  · simp [Chronicle.calls, recounts.entries, CallRecord.grow, latest]
  · by_cases offering : record.side = .offering <;>
      simp [Chronicle.calls, recounts.started, latest, offering, CallRecord.grow]
  · rintro other ⟨⟩
    exact ⟨situation, course, recalls.grow entries⟩

/-- A step that writes nothing leaves the chronicle of an idle phone as it is. -/
theorem Recounts.quiet {now : Instant} {occurrence : Occurrence}
    (recounts : phone.Recounts chronicle) (idle : phone.call = none)
    (unopened : phone.opened now occurrence = none)
    (unstarted : phone.started? now occurrence = none)
    (log : (phone.after now occurrence).log = phone.log)
    (still : (phone.after now occurrence).call = none) :
    (phone.after now occurrence).Recounts (chronicle.next phone now occurrence) := by
  have next : chronicle.next phone now occurrence = chronicle := by
    simp [Chronicle.next, unopened, unstarted, written, log]
  rw [next]
  refine ⟨recounts.entries, recounts.started, recounts.past, ?_, fun _ => still⟩
  intro record latest
  have there : record ∈ chronicle.calls := by simp [Chronicle.calls, latest]
  rcases recounts.finished idle record there with ⟨ending, course⟩
  exact ⟨_, course, .finished still⟩

/-! ## Steps, and the calls that they open -/

omit [MediaEngine ε] in
/-- A step that goes on with the course of a call rings for it only if it has not rung before. -/
theorem rings_of_tells (tells : phone.Tells record after) :
    LogEntry.rings record.entries ++ LogEntry.rings (written phone after) =
      if record.side = .answering then [record.call] else [] := by
  rcases tells with ⟨entries, situation, log, course, -⟩
  rw [written_eq log, ← LogEntry.rings_append]
  exact course.rings

omit [MediaEngine ε] in
/-- In the course of one call no other call rings. -/
theorem unrung_of_tells (course : record.Course situation) (tells : phone.Tells record after) :
    LogEntry.rings (written phone after) = [] := by
  have rings := rings_of_tells tells
  rw [course.rings] at rings
  exact List.append_right_eq_self.mp rings

omit [MediaEngine ε] in
theorem rings_ringing (idle : phone.phase = .idle) (now : Instant) (membership : Membership)
    (sender : UserId) (invite : Invite) :
    LogEntry.rings (written phone (phone.ringing now membership sender invite)) = [invite.call] :=
  rings_of_tells (tells_ringing idle now membership sender invite)

theorem opened_of_unstarted {now : Instant} {occurrence : Occurrence}
    (unstarted : phone.started? now occurrence = none)
    (silent : LogEntry.rings (written phone (phone.after now occurrence)) = []) :
    phone.opened now occurrence = none := by
  unfold Phone.opened dialedRecord? rungRecord?
  rw [silent]
  cases occurrence <;> simp [unstarted] <;> split <;> rfl

/-- Nothing that happens during a call opens another one. -/
theorem unopened_of_current {now : Instant} {occurrence : Occurrence} (coherent : phone.Coherent)
    (current : phone.call = some call) (course : record.Course situation)
    (tells : phone.Tells record (phone.after now occurrence)) :
    phone.started? now occurrence = none ∧ phone.opened now occurrence = none := by
  have unstarted : phone.started? now occurrence = none := by
    cases started : phone.started? now occurrence with
    | none => rfl
    | some id =>
        rcases startable_of_started? started with ⟨membership, callee, -, idle, -⟩
        rw [coherent.phase_idle_iff, current] at idle
        cases idle
  exact ⟨unstarted, opened_of_unstarted unstarted (unrung_of_tells course tells)⟩

theorem opened_of_rang {now : Instant} {occurrence : Occurrence} {membership : Membership}
    {signal : Signal} {invite : Invite} (idle : phone.phase = .idle)
    (heard : occurrence.signal? = some (membership, signal))
    (message : signal.message = .invite invite)
    (rang : phone.after now occurrence = phone.ringing now membership signal.sender invite) :
    phone.opened now occurrence = some (phone.rungRecord membership invite) := by
  rcases signal with ⟨sender, sentAt, content⟩
  cases message
  unfold Phone.opened dialedRecord? rungRecord?
  rw [rang, rings_ringing idle, heard]
  cases occurrence with
  | startCall => cases heard
  | _ => simp

/-- What a step does, with the call that it opens and the one that the reply names. -/
inductive Turn (phone : Phone ε) (now : Instant) (occurrence : Occurrence) (after : Phone ε) :
    Option CallRecord → Option CallId → Prop where
  /-- Without a call, nothing is written. -/
  | quiet (idle : phone.call = none) (still : after.call = none) (log : after.log = phone.log)
      (sessions : after.nextSession = phone.nextSession) : Turn phone now occurrence after none none
  | rang {membership : Membership} {sender : UserId} {invite : Invite} (idle : phone.call = none)
      (rings : after = phone.ringing now membership sender invite) :
      Turn phone now occurrence after (some (phone.rungRecord membership invite)) none
  | dialed {membership : Membership} {callee : UserId} (idle : phone.call = none)
      (starts : (phone.dialing now membership callee).Starts
        (phone.dialedCall now membership callee) .offering after) :
      Turn phone now occurrence after
        (some (phone.dialedRecord membership (phone.dialedCall now membership callee).id))
        (some (phone.dialedCall now membership callee).id)
  | going {call : Call ε} (current : phone.call = some call)
      (move : phone.Move now occurrence after) : Turn phone now occurrence after none none

/-- The turn in which a call is started opens it. -/
theorem turn_started {now : Instant} {occurrence : Occurrence} {id : CallId}
    (coherent : phone.Coherent) (started : phone.started? now occurrence = some id) :
    phone.Turn now occurrence (phone.after now occurrence) (phone.opened now occurrence)
      (some id) := by
  rcases startable_of_started? started with ⟨membership, callee, rfl, idle, known, capable⟩
  have named : some id = some (phone.dialedCall now membership callee).id :=
    started.symm.trans (started?_startCall idle known capable)
  rw [Option.some.injEq] at named
  subst named
  have opened : phone.opened now (.startCall membership) =
      some (phone.dialedRecord membership (phone.dialedCall now membership callee).id) := by
    simp [Phone.opened, dialedRecord?, started]
  have current : (phone.dialing now membership callee).call =
      some (phone.dialedCall now membership callee) := rfl
  have starts := starts_openOrDefer current now .offering
  rw [← startCall_eq idle known capable] at starts
  rw [opened]
  exact .dialed (coherent.phase_idle_iff.mp idle) starts

/-- An idle phone that starts no call rings or writes nothing. -/
theorem turn_unstarted {now : Instant} {occurrence : Occurrence} (coherent : phone.Coherent)
    (idle : phone.call = none) (unstarted : phone.started? now occurrence = none) :
    phone.Turn now occurrence (phone.after now occurrence) (phone.opened now occurrence) none := by
  have rests : phone.phase = .idle := coherent.phase_idle_iff.mpr idle
  have quiet {after : Phone ε} (is : phone.after now occurrence = after) (still : after.call = none)
      (log : after.log = phone.log) (sessions : after.nextSession = phone.nextSession) :
      phone.Turn now occurrence after (phone.opened now occurrence) none := by
    rw [opened_of_unstarted unstarted (by simp [is, written, log, LogEntry.rings])]
    exact .quiet idle still log sessions
  have move := move_after coherent now occurrence
  generalize result : phone.after now occurrence = after at move
  cases move with
  | still | plugged | refreshed => exact quiet result idle rfl rfl
  | rang _ heard message =>
      rw [opened_of_rang rests heard message result]
      exact .rang idle rfl
  | dialed is _ known capable =>
      subst is
      rw [started?_startCall rests known capable] at unstarted
      cases unstarted
  | resumed _ current | accepted _ current | ended current | held current | gathered current
    | handed current | answered current | renegotiated current | muted _ current
    | toggled _ current | reacted _ current => simp [idle] at current

theorem turn_after (recounts : phone.Recounts chronicle) (coherent : phone.Coherent)
    (viable : phone.Viable) (now : Instant) (occurrence : Occurrence) :
    phone.Turn now occurrence (phone.after now occurrence) (phone.opened now occurrence)
      (phone.started? now occurrence) := by
  cases started : phone.started? now occurrence with
  | some id => exact turn_started coherent started
  | none =>
      cases current : phone.call with
      | none => exact turn_unstarted coherent current started
      | some call =>
          have move := move_after coherent now occurrence
          cases latest : chronicle.latest with
          | none => simp [recounts.idle latest] at current
          | some record =>
              rcases recounts.latest record latest with ⟨situation, course, recalls⟩
              have tells := tells_of_move move coherent viable current course recalls
              rw [(unopened_of_current coherent current course tells).2]
              exact .going current move

/-! ## The whole chronicle, step by step -/

/-- Every occurrence continues the history of a phone. -/
theorem recounts_after (recounts : phone.Recounts chronicle) (coherent : phone.Coherent)
    (viable : phone.Viable) (now : Instant) (occurrence : Occurrence) :
    (phone.after now occurrence).Recounts (chronicle.next phone now occurrence) := by
  have turn := turn_after recounts coherent viable now occurrence
  generalize opened : phone.opened now occurrence = record, started :
    phone.started? now occurrence = id, result : phone.after now occurrence = after at turn
  subst result
  cases turn with
  | quiet idle still log => exact recounts.quiet idle opened started log still
  | @rang membership sender invite idle rings =>
      have told := tells_ringing (coherent.phase_idle_iff.mpr idle) now membership sender invite
      rw [← rings] at told
      exact recounts.opened idle opened rfl (by simp [started, rungRecord]) told
  | @dialed membership callee idle starts =>
      have told := tells_dialing (coherent.phase_idle_iff.mpr idle) now membership callee
      exact recounts.opened idle opened rfl (by simp [started, dialedRecord])
        (tells_of_starts starts told rfl rfl)
  | going current move =>
      cases latest : chronicle.latest with
      | none => simp [recounts.idle latest] at current
      | some record =>
          rcases recounts.latest record latest with ⟨situation, course, recalls⟩
          exact recounts.grown opened started latest
            (tells_of_move move coherent viable current course recalls)

/-- The chronicle of a phone accounts for everything since the phone was made. -/
theorem recounts_of_lived (lived : phone.Lived chronicle) : phone.Recounts chronicle := by
  induction lived with
  | new new => exact ⟨rfl, rfl, by simp, by simp, fun _ => new.call⟩
  | after lived now occurrence recounts =>
      exact recounts_after recounts (coherent_of_lived lived) (viable_of_lived lived) now occurrence
  | read lived rest recounts =>
      refine ⟨recounts.entries, recounts.started, recounts.past, ?_, recounts.idle⟩
      intro record latest
      rcases recounts.latest record latest with ⟨situation, course, recalls⟩
      refine ⟨situation, course, ?_⟩
      cases recalls with
      | finished gone => exact .finished gone
      | current current names lifetime stands => exact .current current names lifetime stands

end Phone

end RoomCall
