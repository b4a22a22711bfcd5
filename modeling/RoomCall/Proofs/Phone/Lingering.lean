import RoomCall.Proofs.Phone.Announcements
import RoomCall.Proofs.Phone.Engines
import RoomCall.Proofs.Phone.Foreign
import RoomCall.Proofs.Phone.InviteTimer
import RoomCall.Proofs.Phone.Provenance

/-!
# Calls that linger

A call lingers while it rings and was not accepted, or while its invite is out and was not answered.
Nothing is written in the meantime that would end the call, touch the timer or open another call. A
step in which a call stops lingering settles it: the call was accepted, is established or is over,
and it never lingers again. Only the end of its lifetime ends it as expired.
-/

namespace RoomCall

variable {ε : Type}

namespace LogEntry

/-- Whether an entry is the first one of a call: the phone leaves the idle phase. -/
def opensCall : LogEntry → Bool
  | .announcement (.phaseChanged .incoming) | .announcement (.phaseChanged .outgoing) => true
  | _ => false

/-- Whether an entry arms the timer or calls it off. -/
def isWinding : LogEntry → Bool
  | .errand (.armTimer _ _) | .errand .cancelTimer => true
  | _ => false

theorem countP_asides {p : LogEntry → Bool} {entries : List LogEntry}
    (deaf : ∀ entry, entry.isAside = true → p entry = false)
    (quiet : entries.all isAside = true) : entries.countP p = 0 := by
  rw [List.all_eq_true] at quiet
  refine List.countP_eq_zero.mpr fun entry there => ?_
  simp [deaf entry (quiet entry there)]

theorem opensCall_aside : ∀ entry : LogEntry, entry.isAside = true → entry.opensCall = false := by
  apply forall_aside <;> intros <;> rfl

theorem isWinding_aside : ∀ entry : LogEntry, entry.isAside = true → entry.isWinding = false := by
  apply forall_aside <;> intros <;> rfl

theorem forall_of_countP_eq_zero {p : LogEntry → Bool} {entries : List LogEntry}
    (none : entries.countP p = 0) : ∀ entry ∈ entries, p entry = false := by
  simpa [List.countP_eq_zero] using none

theorem incoming_notMem_phases {entries : List LogEntry}
    (unopened : ∀ entry ∈ entries, entry.opensCall = false) : .incoming ∉ phases entries := by
  intro rings
  rcases List.mem_filterMap.mp rings with ⟨entry, there, is⟩
  have stays := unopened entry there
  split at is
  · rcases Option.some.inj is with rfl
    cases stays
  · cases is

end LogEntry

/-- How often the timer was armed and called off in a call that has come this far. -/
def Situation.Wound (times : Nat) : Situation → Prop
  | .dialing => times = 0
  | .ringing | .invited => times = 1
  | .accepted | .talking => 1 < times
  | .finished _ => 0 < times

namespace CallRecord

variable {record : CallRecord} {situation : Situation}

theorem countP_sending {p : LogEntry → Bool}
    (deaf : ∀ room signal, p (.errand (.send room signal)) = false)
    (signals : List OutgoingSignal) : (signals.map record.sending).countP p = 0 := by
  simp [List.countP_eq_zero, sending, deaf]

/-- A call is opened once. -/
theorem Course.opensCall (course : record.Course situation) :
    record.entries.countP LogEntry.opensCall = 1 := by
  induction course with
  | rang _ entries | dialed _ entries =>
      rw [entries]
      rfl
  | aside course quiet ih =>
      rw [grow_entries, List.countP_append, ih,
        LogEntry.countP_asides LogEntry.opensCall_aside quiet]
  | accepted course ih | invited course bears adds ih | answered course bears adds ih
    | established course ih | renegotiated course live bears ih =>
      rw [grow_entries, List.countP_append, ih]
      rfl
  | ended course live bears count quiet ih =>
      rw [grow_entries, List.countP_append, ih, List.countP_append, List.countP_append,
        countP_sending (fun _ _ => rfl), List.countP_cons,
        LogEntry.countP_asides LogEntry.opensCall_aside quiet]
      rfl

theorem Course.wound (course : record.Course situation) :
    situation.Wound (record.entries.countP LogEntry.isWinding) := by
  induction course with
  | rang _ entries | dialed _ entries =>
      rw [entries]
      rfl
  | aside course quiet ih =>
      rw [grow_entries, List.countP_append,
        LogEntry.countP_asides LogEntry.isWinding_aside quiet]
      exact ih
  | @accepted record course ih | @established record course ih =>
      have once : record.entries.countP LogEntry.isWinding = 1 := ih
      rw [grow_entries, List.countP_append, once]
      exact Nat.lt_add_one 1
  | @invited record invite candidates course bears adds ih =>
      have never : record.entries.countP LogEntry.isWinding = 0 := ih
      rw [grow_entries, List.countP_append, never]
      rfl
  | answered course bears adds ih | renegotiated course live bears ih =>
      rw [grow_entries, List.countP_append]
      exact ih
  | ended course live bears count quiet ih =>
      rw [grow_entries, List.countP_append, List.countP_append, List.countP_append,
        countP_sending (fun _ _ => rfl), List.countP_cons]
      change 0 < _ + (0 + (_ + 1) + 0)
      omega

end CallRecord

/-- The situation of a call that lingers on a side. -/
def Role.lingering : Role → Situation
  | .offering => .invited
  | .answering => .ringing

/-- Whether a side holds a message of some kind back while a call lingers: nothing is said to a
caller who waits, and whoever waits for an answer does not hang up. -/
def Role.withholds : Role → SignalKind → Bool
  | .offering, kind => kind = .hangup
  | .answering, _ => true

/-- Entries that are written while a call lingers on a side. -/
structure LogEntry.Uneventful (side : Role) (entries : List LogEntry) : Prop where
  unopened : ∀ entry ∈ entries, entry.opensCall = false
  unwound : ∀ entry ∈ entries, entry.isWinding = false
  unended : LogEntry.endings entries = []
  unsaid : ∀ sent ∈ LogEntry.sends entries, side.withholds sent.2.kind = false

namespace CallRecord.Course

variable {record : CallRecord} {situation : Situation} {entries : List LogEntry}

theorem unopened (course : record.Course situation) {later : Situation}
    (grown : (record.grow entries).Course later) : ∀ entry ∈ entries, entry.opensCall = false := by
  have once := course.opensCall
  have still := grown.opensCall
  rw [grow_entries, List.countP_append, once] at still
  exact LogEntry.forall_of_countP_eq_zero (by omega)

/-- The timer of a call that lingers was armed once, and nothing else was done about it. -/
theorem windings_lingering {side : Role} (course : record.Course side.lingering) :
    record.entries.countP LogEntry.isWinding = 1 := by
  cases side <;> exact course.wound

theorem count_invite (course : record.Course .invited) : record.kinds.count .invite = 1 := by
  rcases course.said with ⟨count, said⟩
  simp [said, course.side.1 (.inr rfl), Role.overture, List.count_replicate]

/-- While a call lingers, nothing happens in its course. -/
theorem uneventful {side : Role} (course : record.Course side.lingering)
    (grown : (record.grow entries).Course side.lingering) : LogEntry.Uneventful side entries where
  unopened := course.unopened grown
  unwound := by
    have still := grown.windings_lingering
    rw [grow_entries, List.countP_append, course.windings_lingering] at still
    exact LogEntry.forall_of_countP_eq_zero (by omega)
  unended := by
    have none := course.endings
    have still := grown.endings
    rw [grow_entries, LogEntry.endings_append, none] at still
    cases side <;> exact still
  unsaid := by
    intro sent there
    have said : sent.2.kind ∈ (record.grow entries).kinds := by
      rw [kinds_grow, List.mem_append]
      exact .inr (List.mem_map_of_mem there)
    cases side with
    | offering =>
        have kinds := grown.said
        rcases kinds with ⟨count, kinds⟩
        rw [kinds, grow_side, course.side.1 (.inr rfl)] at said
        simp only [Role.overture, List.mem_append, List.mem_cons, List.not_mem_nil, or_false,
          List.mem_replicate] at said
        rcases said with (invite | candidates) | ⟨-, negotiate⟩ <;>
          simp [Role.withholds, *]
    | answering =>
        have silent : (record.grow entries).kinds = [] := grown.said
        rw [silent] at said
        cases said

end CallRecord.Course

/-- What settles a call that rings: its user does something about it, another device of its user
answers it, or it is hung up. -/
inductive Call.SettledBy (call : Call ε) : Occurrence → Prop where
  | accepted : SettledBy call .accept
  | ignored : SettledBy call .ignore
  | hungUp : SettledBy call .hangUp
  | answeredElsewhere {occurrence : Occurrence} {membership : Membership} {signal : Signal}
      {answer : Answer} (heard : occurrence.signal? = some (membership, signal))
      (message : signal.message = .answer answer) (named : answer.call = call.id)
      (room : membership.room = call.room)
      (own : Origin.of call.localUser (some call.party) signal.sender answer.party =
        .otherOwnDevice) : SettledBy call occurrence
  | hungUpElsewhere {occurrence : Occurrence} {membership : Membership} {signal : Signal}
      {hangup : Hangup} (heard : occurrence.signal? = some (membership, signal))
      (message : signal.message = .hangup hangup) (named : hangup.call = call.id)
      (room : membership.room = call.room)
      (known : signal.sender = call.remoteUser ∨
        Origin.of call.localUser (some call.party) signal.sender hangup.party = .otherOwnDevice) :
      SettledBy call occurrence

theorem Call.SettledBy.congr {call later : Call ε} {occurrence : Occurrence}
    (settled : later.SettledBy occurrence) (same : later.identity = call.identity) :
    call.SettledBy occurrence := by
  simp only [Call.identity, CallIdentity.mk.injEq] at same
  rcases same with ⟨id, room, party, localUser, remoteUser⟩
  cases settled with
  | accepted => exact .accepted
  | ignored => exact .ignored
  | hungUp => exact .hungUp
  | answeredElsewhere heard message named here own =>
      rw [localUser, party] at own
      exact .answeredElsewhere heard message (named.trans id) (here.trans room) own
  | hungUpElsewhere heard message named here known =>
      rw [localUser, party, remoteUser] at known
      exact .hungUpElsewhere heard message (named.trans id) (here.trans room) known

namespace Phone

/-- A call waits for an answer on the side that this device is on: it rings and was not accepted, or
its invite is out. -/
def Lingers (phone : Phone ε) (side : Role) (call : Call ε) : Prop :=
  ∃ current, phone.call = some current ∧ current.identity = call.identity ∧
    match side with
    | .offering => phone.phase = .outgoing ∧ current.hasReported = true
    | .answering => phone.phase = .incoming ∧ current.accepted = false

/-- The phone has no call but one that was accepted or is established. -/
def IsSettled (phone : Phone ε) : Prop :=
  ∀ call, phone.call = some call → call.accepted = true ∨ phone.phase = .active

variable {phone after : Phone ε} {chronicle : Chronicle} {record : CallRecord}
  {call current : Call ε} {side : Role} {situation : Situation}

theorem settled_of_idle (idle : phone.call = none) : phone.IsSettled := by
  intro call current
  simp [idle] at current

theorem not_outgoing_of_settled (coherent : phone.Coherent) (settled : phone.IsSettled) :
    phone.phase ≠ .outgoing := by
  intro outgoing
  cases current : phone.call with
  | none => simp [coherent.phase_idle_iff.mpr current] at outgoing
  | some call =>
      have stands := coherent.stands current
      rw [outgoing] at stands
      simpa [stands.unaccepted, outgoing] using settled call current

theorem not_lingers_of_settled (coherent : phone.Coherent) (settled : phone.IsSettled) :
    ¬phone.Lingers side call := by
  rintro ⟨current, there, -, waits⟩
  cases side with
  | offering => exact not_outgoing_of_settled coherent settled waits.1
  | answering => simpa [waits.1, waits.2] using settled current there

theorem situation_of_lingers (recalls : phone.Recalls record situation)
    (lingers : phone.Lingers side call) : record.side = side ∧ situation = side.lingering := by
  rcases lingers with ⟨current, there, -, waits⟩
  have stands := (recalls.at there).2.2
  cases side with
  | offering =>
      rw [waits.1] at stands
      rcases stands.situation_outgoing with ⟨offering, rfl⟩
      rw [waits.2]
      exact ⟨offering, rfl⟩
  | answering =>
      rw [waits.1] at stands
      rcases stands.situation_incoming with ⟨answering, rfl⟩
      rw [waits.2]
      exact ⟨answering, rfl⟩

theorem lingers_of_situation (recalls : phone.Recalls record side.lingering)
    (there : phone.call = some current) (same : current.identity = call.identity) :
    phone.Lingers side call := by
  refine ⟨current, there, same, ?_⟩
  have stands := (recalls.at there).2.2
  generalize record.side = role at stands
  generalize situation : side.lingering = situation at stands
  cases stands with
  | ringing incoming unaccepted =>
      cases side with
      | offering => cases situation
      | answering => exact ⟨incoming, unaccepted⟩
  | invited outgoing reported =>
      cases side with
      | offering => exact ⟨outgoing, reported⟩
      | answering => cases situation
  | accepted | dialing | talking => cases side <;> cases situation

theorem current_of_lingering (recalls : phone.Recalls record side.lingering) :
    ∃ current, phone.call = some current := by
  generalize situation : side.lingering = situation at recalls
  cases recalls with
  | finished => cases side <;> cases situation
  | current there => exact ⟨_, there⟩

/-- A call that has lingered and does not linger any more is settled. -/
theorem settled_of_wound (recalls : phone.Recalls record situation)
    (course : record.Course situation) (wound : 0 < record.entries.countP LogEntry.isWinding)
    (left : situation ≠ record.side.lingering) : phone.IsSettled := by
  cases recalls with
  | finished gone => exact settled_of_idle gone
  | current there _ _ stands =>
      intro other current
      rcases Option.some.inj (there.symm.trans current) with rfl
      generalize record.side = role at stands left
      cases stands with
      | ringing | invited => exact absurd rfl left
      | accepted _ accepted => exact .inl accepted
      | talking active => exact .inr active
      | dialing =>
          have never : record.entries.countP LogEntry.isWinding = 0 := course.wound
          omega

/-! ## One step -/

variable [MediaEngine ε]

/-- A step during a call goes on with its course. -/
theorem exists_course (lived : phone.Lived chronicle) (current : phone.call = some call)
    (now : Instant) (occurrence : Occurrence) :
    ∃ record situation later, chronicle.latest = some record ∧ record.Course situation ∧
      phone.Recalls record situation ∧
      (record.grow (written phone (phone.after now occurrence))).Course later ∧
      (phone.after now occurrence).Recalls record later := by
  have recounts := recounts_of_lived lived
  have coherent := coherent_of_lived lived
  cases latest : chronicle.latest with
  | none => simp [recounts.idle latest] at current
  | some record =>
      rcases recounts.latest record latest with ⟨situation, course, recalls⟩
      rcases tells_of_move (move_after coherent now occurrence) coherent (viable_of_lived lived)
        current course recalls with ⟨entries, later, log, grown, leads⟩
      rw [← written_eq log] at grown
      exact ⟨record, situation, later, rfl, course, recalls, grown, leads⟩

/-- In a step a call goes on lingering, and nothing happens, or it is settled. -/
theorem step_of_lingers (lived : phone.Lived chronicle) (lingers : phone.Lingers side call)
    (now : Instant) (occurrence : Occurrence) :
    ((phone.after now occurrence).Lingers side call ∧
        LogEntry.Uneventful side (written phone (phone.after now occurrence))) ∨
      ((phone.after now occurrence).IsSettled ∧
        ∀ entry ∈ written phone (phone.after now occurrence), entry.opensCall = false) := by
  have lingered := lingers
  rcases lingers with ⟨current, there, same, -⟩
  rcases exists_course lived there now occurrence with
    ⟨record, situation, later, -, course, recalls, grown, leads⟩
  rcases situation_of_lingers recalls lingered with ⟨rfl, rfl⟩
  by_cases still : later = record.side.lingering
  · subst still
    rcases current_of_lingering leads with ⟨other, next⟩
    have identity := identity_of_move (move_after (coherent_of_lived lived) now occurrence)
      there next
    exact .inl ⟨lingers_of_situation leads next (identity.trans same), course.uneventful grown⟩
  · refine .inr ⟨settled_of_wound (leads.grow _) grown ?_ still, course.unopened grown⟩
    rw [CallRecord.grow_entries, List.countP_append, course.windings_lingering]
    omega

/-- Without a call, a step begins the course of one or writes nothing. -/
theorem opening_of_idle (lived : phone.Lived chronicle) (idle : phone.call = none) (now : Instant)
    (occurrence : Occurrence) :
    (∃ record situation, record.entries = [] ∧
        (record.grow (written phone (phone.after now occurrence))).Course situation ∧
        (phone.after now occurrence).Recalls record situation) ∨
      (phone.after now occurrence).call = none ∧
        written phone (phone.after now occurrence) = [] := by
  have coherent := coherent_of_lived lived
  have rests := coherent.phase_idle_iff.mpr idle
  have opens {record : CallRecord} (bare : record.entries = [])
      (tells : phone.Tells record (phone.after now occurrence)) :
      ∃ record situation, record.entries = [] ∧
        (record.grow (written phone (phone.after now occurrence))).Course situation ∧
        (phone.after now occurrence).Recalls record situation := by
    rcases tells with ⟨entries, situation, log, course, leads⟩
    rw [← written_eq log] at course
    exact ⟨record, situation, bare, course, leads⟩
  have turn := turn_after (recounts_of_lived lived) coherent (viable_of_lived lived) now occurrence
  generalize phone.opened now occurrence = opened, phone.started? now occurrence = started at turn
  generalize result : phone.after now occurrence = after at turn opens ⊢
  cases turn with
  | quiet _ still log =>
      exact .inr ⟨still, written_eq (log.trans (List.append_nil _).symm)⟩
  | @rang membership sender invite _ rings =>
      subst rings
      exact .inl (opens rfl (tells_ringing rests now membership sender invite))
  | @dialed membership callee _ starts =>
      exact .inl (opens rfl (tells_of_starts starts (tells_dialing rests now membership callee)
        rfl rfl))
  | going current => simp [idle] at current

/-- A call lingers if the timer was armed for it and it is not settled. -/
theorem lingers_of_wound (lived : phone.Lived chronicle) (latest : chronicle.latest = some record)
    (wound : 0 < record.entries.countP LogEntry.isWinding) (unsettled : ¬phone.IsSettled)
    (current : phone.call = some call) : ∃ side, phone.Lingers side call := by
  rcases (recounts_of_lived lived).latest record latest with ⟨situation, course, recalls⟩
  refine ⟨record.side, ?_⟩
  by_cases waits : situation = record.side.lingering
  · subst waits
    exact lingers_of_situation recalls current rfl
  · exact absurd (settled_of_wound recalls course wound waits) unsettled

/-! ## How calls come to linger -/

/-- No call but a new one begins to ring. -/
theorem idle_of_rings (lived : phone.Lived chronicle) {now : Instant} {occurrence : Occurrence}
    (silent : phone.phase ≠ .incoming) (rings : (phone.after now occurrence).phase = .incoming) :
    phone.call = none := by
  cases current : phone.call with
  | none => rfl
  | some call =>
      rcases exists_course lived current now occurrence with
        ⟨record, situation, later, -, course, recalls, grown, leads⟩
      have coherent := coherent_of_move (move_after (coherent_of_lived lived) now occurrence)
        (coherent_of_lived lived)
      have arrived : later.phase = .incoming := by
        cases leads with
        | finished gone => simp [coherent.phase_idle_iff.mpr gone] at rings
        | current _ _ _ stands => exact stands.phase.trans rings
      have walked := course.walk.last
      have onward := grown.walk.last
      rw [CallRecord.grow_entries, LogEntry.phases_append, arrived] at onward
      -- The phase is announced last that the phone is in, and nobody announces a phone that rings.
      rcases List.eq_nil_or_concat (LogEntry.phases (written phone (phone.after now occurrence)))
        with none | ⟨earlier, phase, phases⟩
      · rw [none, List.append_nil, walked, (recalls.at current).2.2.phase] at onward
        exact absurd onward silent
      · have announced :
            .incoming ∈ LogEntry.phases (written phone (phone.after now occurrence)) := by
          rw [phases, List.concat_eq_append, ← List.append_assoc, List.getLastD_concat] at onward
          simp [phases, onward]
        exact absurd announced (LogEntry.incoming_notMem_phases (course.unopened grown))

/-- A call that rings lingers from then on, and the timer is armed for it. -/
theorem lingers_of_rang (coherent : phone.Coherent) (idle : phone.call = none) {now : Instant}
    {occurrence : Occurrence} (current : (phone.after now occurrence).call = some call)
    (incoming : (phone.after now occurrence).phase = .incoming) :
    (∃ carried, occurrence.signal? = some carried) ∧
      (phone.after now occurrence).Lingers .answering call ∧
      (written phone (phone.after now occurrence)).foldl LogEntry.wind none =
        some (call.id, call.lifetime) := by
  have move := move_after coherent now occurrence
  generalize phone.after now occurrence = after at move current incoming ⊢
  cases move with
  | still | plugged | refreshed =>
      have there : phone.call = some call := current
      simp [idle] at there
  | @rang membership signal invite _ heard =>
      obtain rfl := Option.some.inj current
      have log : (phone.ringing now membership signal.sender invite).log = phone.log ++
          (phaseEntries phone.phase .incoming ++
            [.errand (.armTimer invite.call invite.lifetime), .announcement (.incomingCall
              signal.sender membership.room invite.lifetime invite.call)] ++
            if phone.relay.isFresh now || phone.refreshing then []
            else [.errand .refreshRelay]) := by
        simp [ringing]
      refine ⟨⟨_, heard⟩, ⟨_, rfl, rfl, rfl, rfl⟩, ?_⟩
      rw [written_eq log, coherent.phase_idle_iff.mpr idle]
      split <;> rfl
  | dialed _ _ _ _ starts =>
      have outgoing := (continues_of_starts starts current).phase
      rw [incoming] at outgoing
      cases outgoing
  | resumed _ there | accepted _ there | ended there | held there | gathered there
    | handed there | answered there | renegotiated there | muted _ there | toggled _ there
    | reacted _ there => simp [idle] at there

/-- An invite goes out only for a call that was started before. -/
theorem outgoing_of_invited (coherent : phone.Coherent) {now : Instant} {occurrence : Occurrence}
    {sent : RoomId × OutgoingSignal}
    (said : sent ∈ LogEntry.sends (written phone (phone.after now occurrence)))
    (invite : sent.2.kind = .invite) :
    phone.phase = .outgoing ∧ ∃ call, phone.call = some call := by
  rcases speaks_of_move coherent (move_after coherent now occurrence) with ⟨entries, log, explained⟩
  rw [written_eq log] at said
  rcases explained sent said with hangup | ⟨call, there, -, utters⟩
  · rw [invite] at hangup
    cases hangup
  · generalize sent.2 = signal at utters invite
    cases utters with
    | invite outgoing => exact ⟨outgoing, call, there⟩
    | answer | candidates | negotiate => cases invite

/-- A call whose invite goes out lingers from then on, and the timer is armed for it. Until then the
timer was never touched in the call. -/
theorem lingers_of_invited (lived : phone.Lived chronicle) {now : Instant}
    {occurrence : Occurrence} {sent : RoomId × OutgoingSignal}
    (said : sent ∈ LogEntry.sends (written phone (phone.after now occurrence)))
    (invite : sent.2.kind = .invite) (current : (phone.after now occurrence).call = some call)
    (outgoing : (phone.after now occurrence).phase = .outgoing) :
    (phone.after now occurrence).Lingers .offering call ∧
      (written phone (phone.after now occurrence)).foldl LogEntry.wind none =
        some (call.id, phone.inviteLifetime) ∧
      ∃ record, chronicle.latest = some record ∧
        record.entries.countP LogEntry.isWinding = 0 := by
  rcases outgoing_of_invited (coherent_of_lived lived) said invite with ⟨dialing, before, there⟩
  rcases exists_course lived there now occurrence with
    ⟨record, situation, later, latest, course, recalls, grown, leads⟩
  rcases recalls.at there with ⟨-, lifetime, stood⟩
  rcases leads.at current with ⟨names, -, stands⟩
  rw [dialing] at stood
  rw [outgoing] at stands
  rcases stood.situation_outgoing with ⟨offering, rfl⟩
  have fresh : 0 < ((LogEntry.sends (written phone (phone.after now occurrence))).map
      fun sent => sent.2.kind).count .invite :=
    List.count_pos_iff.mpr (List.mem_map.mpr ⟨sent, said, invite⟩)
  cases reported : call.hasReported with
  | false =>
      rw [stands.situation_outgoing.2, reported] at grown
      have silent : (record.grow (written phone (phone.after now occurrence))).kinds = [] :=
        grown.said
      rw [CallRecord.kinds_grow, List.append_eq_nil_iff] at silent
      simp [silent.2] at fresh
  | true =>
      rw [stands.situation_outgoing.2, reported] at grown leads
      have once := grown.count_invite
      rw [CallRecord.kinds_grow, List.count_append] at once
      cases earlier : before.hasReported with
      | true =>
          rw [earlier] at course
          have already := course.count_invite
          omega
      | false =>
          rw [earlier] at course
          have unarmed : LogEntry.timer record.entries = none := course.timer
          have armed : LogEntry.timer (record.grow (written phone
              (phone.after now occurrence))).entries = some (record.call, record.lifetime) :=
            grown.timer
          rw [CallRecord.grow_entries, LogEntry.timer, List.foldl_append] at armed
          change List.foldl _ (LogEntry.timer record.entries) _ = _ at armed
          rw [unarmed, names.id, lifetime offering] at armed
          exact ⟨@lingers_of_situation _ _ _ _ _ .offering leads current rfl, armed, record, latest,
            course.wound⟩

/-- A call begins to linger when it begins to ring or when its invite goes out. -/
theorem begins_of_lingers (lived : phone.Lived chronicle) {now : Instant} {occurrence : Occurrence}
    (lingers : (phone.after now occurrence).Lingers side call) (new : ¬phone.Lingers side call) :
    match side with
    | .answering => phone.phase ≠ .incoming
    | .offering => ∃ sent ∈ LogEntry.sends (written phone (phone.after now occurrence)),
        sent.2.kind = .invite := by
  have invites {record : CallRecord} (unsaid : record.kinds.count .invite = 0)
      (grown : (record.grow (written phone (phone.after now occurrence))).Course .invited) :
      ∃ sent ∈ LogEntry.sends (written phone (phone.after now occurrence)),
        sent.2.kind = .invite := by
    have once := grown.count_invite
    rw [CallRecord.kinds_grow, List.count_append, unsaid, Nat.zero_add] at once
    have said := List.count_pos_iff.mp (Nat.lt_of_lt_of_eq Nat.one_pos once.symm)
    rcases List.mem_map.mp said with ⟨sent, there, kind⟩
    exact ⟨sent, there, kind⟩
  cases current : phone.call with
  | none =>
      rcases opening_of_idle lived current now occurrence with
        ⟨record, situation, bare, course, leads⟩ | ⟨still, -⟩
      · rcases situation_of_lingers leads lingers with ⟨-, rfl⟩
        cases side with
        | answering => simp [(coherent_of_lived lived).phase_idle_iff.mpr current]
        | offering => exact invites (by simp [CallRecord.kinds, bare]) course
      · rcases lingers with ⟨other, there, -⟩
        simp [still] at there
  | some before =>
      rcases exists_course lived current now occurrence with
        ⟨record, situation, later, -, course, recalls, grown, leads⟩
      rcases situation_of_lingers leads lingers with ⟨role, rfl⟩
      have still : situation ≠ side.lingering := by
        rintro rfl
        rcases lingers with ⟨other, there, same, -⟩
        have identity := identity_of_move (move_after (coherent_of_lived lived) now occurrence)
          current there
        exact new (lingers_of_situation recalls current (identity.symm.trans same))
      have once := grown.windings_lingering
      rw [CallRecord.grow_entries, List.countP_append] at once
      have stands := (recalls.at current).2.2
      have wound := course.wound
      rw [role] at stands
      cases stands with
      | ringing | invited => exact absurd rfl still
      | accepted | talking =>
          have twice : 1 < record.entries.countP LogEntry.isWinding := wound
          omega
      | dialing =>
          have silent : record.kinds = [] := course.said
          exact invites (by simp [silent]) grown

/-! ## The end of a lifetime -/

/-- A phone that has just ended a call, and not as expired unless the lifetime of the call was said
to be over. -/
inductive Concludes (occurrence : Occurrence) : Phone ε → Prop where
  | intro (late : Phone ε) (call : Call ε) (ending : Ending) (cause : Option HangupCause)
      (expired : ending = .inviteExpired → occurrence = .inviteExpired call.id) :
      Concludes occurrence (late.ended call ending cause)

theorem concludes_of_opens {occurrence : Occurrence} (opens : phone.Opens call side after)
    (gone : after.call = none) : Concludes occurrence after := by
  cases opens with
  | opened => cases gone
  | @refused _ error => cases error <;> exact .intro _ _ _ _ (nomatch ·)

theorem concludes_of_starts {occurrence : Occurrence} (starts : phone.Starts call side after)
    (gone : after.call = none) : Concludes occurrence after := by
  cases starts with
  | opens opens => exact concludes_of_opens opens gone
  | waits => cases gone

theorem concludes_of_settles {occurrence : Occurrence} (settles : phone.Settles call after)
    (there : phone.call ≠ none) (gone : after.call = none) : Concludes occurrence after := by
  cases settles with
  | waits => exact absurd gone there
  | applied => cases gone
  | refused => exact .intro _ _ _ _ (nomatch ·)

/-- A call ends as expired only when its lifetime is said to be over. -/
theorem concludes_of_move {now : Instant} {occurrence : Occurrence}
    (move : phone.Move now occurrence after) (spoke : after.log ≠ phone.log)
    (gone : after.call = none) : Concludes occurrence after := by
  cases move with
  | still | plugged | refreshed => exact absurd rfl spoke
  | rang | held | handed | renegotiated | muted | toggled => cases gone
  | resumed _ _ _ opens => exact concludes_of_opens opens gone
  | dialed _ _ _ _ starts | accepted _ _ _ _ _ starts => exact concludes_of_starts starts gone
  | ended _ ends =>
      refine .intro _ _ _ _ ?_
      rintro rfl
      cases ends with
      | missed is | unanswered is => exact is
  | gathered _ _ _ _ settles => exact concludes_of_settles settles (by simp) gone
  | answered _ _ _ _ _ settles => exact concludes_of_settles settles (by simp) gone
  | reacted _ _ _ _ reacts =>
      cases reacts with
      | moved | reported | renegotiated => cases gone
      | watched =>
          rw [setRoster_eq] at gone
          cases gone
      | broken | lost | reportedLost => exact .intro _ _ _ _ (nomatch ·)

theorem endings_farewell (phone : Phone ε) (call : Call ε) (ending : Ending)
    (cause : Option HangupCause) :
    LogEntry.endings (phone.farewell call ending cause) = [(call.id, ending)] := by
  have quiet := LogEntry.endings_asides (LogEntry.all_isAside_teardownEntries call.negotiation)
  have roster := LogEntry.endings_asides (LogEntry.all_isAside_rosterEntries phone.roster [])
  have phase : LogEntry.endings (phaseEntries phone.phase .idle) = [] := by
    unfold phaseEntries
    split <;> rfl
  cases cause <;> simp [farewell, quiet, roster, phase]

/-- The last thing that a phone announces when it ends a call is the end of the call. -/
theorem mem_endings_ended {late : Phone ε} {entries : List LogEntry} {ending : Ending}
    {cause : Option HangupCause} (log : (late.ended call ending cause).log = phone.log ++ entries)
    (filled : entries ≠ []) : (call.id, ending) ∈ LogEntry.endings entries := by
  have last : (late.ended call ending cause).log.getLast? =
      some (.announcement (.callEnded call.id ending)) := by
    rw [ended, farewell, ← List.append_assoc, List.getLast?_concat]
  rw [log, List.getLast?_append, List.getLast?_eq_some_getLast filled] at last
  have is : entries.getLast filled = .announcement (.callEnded call.id ending) :=
    Option.some.inj last
  exact List.mem_filterMap.mpr ⟨_, is ▸ List.getLast_mem filled, rfl⟩

theorem exists_log (lived : phone.Lived chronicle) (now : Instant) (occurrence : Occurrence) :
    (phone.after now occurrence).log = phone.log ++ written phone (phone.after now occurrence) := by
  rcases speaks_of_move (coherent_of_lived lived)
    (move_after (coherent_of_lived lived) now occurrence) with ⟨entries, log, -⟩
  rw [written_eq log, log]

/-- When a step announces the end of a call, that is the only one and there is no call any more. -/
theorem ended_of_step (lived : phone.Lived chronicle) {now : Instant} {occurrence : Occurrence}
    (told : LogEntry.endings (written phone (phone.after now occurrence)) ≠ []) :
    (∃ ended, LogEntry.endings (written phone (phone.after now occurrence)) = [ended]) ∧
      (phone.after now occurrence).call = none := by
  have ends {record : CallRecord} {situation : Situation}
      (unended : LogEntry.endings record.entries = [])
      (course : (record.grow (written phone (phone.after now occurrence))).Course situation)
      (leads : (phone.after now occurrence).Recalls record situation) :
      (∃ ended, LogEntry.endings (written phone (phone.after now occurrence)) = [ended]) ∧
        (phone.after now occurrence).call = none := by
    have ended := course.endings
    rw [CallRecord.grow_entries, LogEntry.endings_append, unended, List.nil_append] at ended
    cases leads with
    | finished gone => exact ⟨⟨_, ended⟩, gone⟩
    | current _ _ _ stands =>
        rw [Situation.ending?_of_live stands.not_finished] at ended
        exact absurd ended told
  cases current : phone.call with
  | none =>
      rcases opening_of_idle lived current now occurrence with
        ⟨record, situation, bare, course, leads⟩ | ⟨-, silent⟩
      · exact ends (by rw [bare]; rfl) course leads
      · exact absurd (by rw [silent]; rfl) told
  | some call =>
      rcases exists_course lived current now occurrence with
        ⟨record, situation, later, -, course, recalls, grown, leads⟩
      refine ends ?_ grown leads
      rw [course.endings, Situation.ending?_of_live (recalls.at current).2.2.not_finished]
      rfl

/-- A step announces that a call has expired only if its lifetime is said to be over before the call
is settled. -/
theorem expired_of_step (lived : phone.Lived chronicle) {now : Instant} {occurrence : Occurrence}
    {id : CallId}
    (expired : (id, .inviteExpired) ∈
      LogEntry.endings (written phone (phone.after now occurrence))) :
    occurrence = .inviteExpired id ∧ ¬phone.IsSettled ∧
      ∃ call, phone.call = some call ∧ call.id = id := by
  have coherent := coherent_of_lived lived
  have log := exists_log lived now occurrence
  have filled : written phone (phone.after now occurrence) ≠ [] := by
    intro silent
    simp [silent] at expired
  have is : occurrence = .inviteExpired id := by
    rcases ended_of_step lived (List.ne_nil_of_mem expired) with ⟨⟨ended, one⟩, gone⟩
    have concludes := concludes_of_move (move_after coherent now occurrence)
      (by simpa [log] using filled) gone
    generalize phone.after now occurrence = after at concludes log filled expired one
    cases concludes with
    | intro late call ending cause reason =>
        have told := mem_endings_ended log filled
        rw [one, List.mem_singleton] at told expired
        cases told.trans expired.symm
        exact reason rfl
  have waits : ¬∀ call, phone.call = some call → call.id = id →
      call.accepted = true ∨ phone.phase = .active := by
    intro late
    rw [is, after_inviteExpired coherent now late] at filled
    simp [written] at filled
  refine ⟨is, fun settled => waits fun call current _ => settled call current, ?_⟩
  refine Classical.byContradiction fun missing => waits fun call current same => ?_
  exact absurd ⟨call, current, same⟩ missing

/-- A call that lingers expires when its lifetime is said to be over. Only a side that calls tells
the other one. -/
theorem after_of_expiry (lingers : phone.Lingers side call) (now : Instant) :
    ∃ current, phone.call = some current ∧ current.identity = call.identity ∧
      phone.after now (.inviteExpired call.id) = phone.ended current .inviteExpired
        (match side with
          | .offering => some .inviteTimeout
          | .answering => none) := by
  rcases lingers with ⟨current, there, same, waits⟩
  have named : current.id = call.id := congrArg CallIdentity.id same
  refine ⟨current, there, same, ?_⟩
  change phone.inviteExpired call.id = _
  cases side with
  | offering => simp [inviteExpired, there, named, waits.1, endCall_eq there]
  | answering => simp [inviteExpired, there, named, waits.1, waits.2, endCall_eq there]

/-! ## What does not settle a call that rings -/

end Phone

end RoomCall
