import RoomCall.Proofs.Phone.Discourse

/-!
# The timer of an invite

The owner of a phone runs one timer, which the errands arm and call off. It runs exactly while an
invite waits for the user of this device or for the other side, and it is armed for as long as the
invite is valid.
-/

namespace RoomCall

variable {ε : Type}

namespace LogEntry

/-- The timer after an entry: the call that it is armed for, with the time that it was set to. -/
def wind (timer : Option (CallId × Duration)) : LogEntry → Option (CallId × Duration)
  | .errand (.armTimer call lifetime) => some (call, lifetime)
  | .errand .cancelTimer => none
  | _ => timer

/-- The timer after some entries. -/
def timer (entries : List LogEntry) : Option (CallId × Duration) :=
  entries.foldl wind none

theorem wind_asides {entries : List LogEntry} (quiet : entries.all isAside = true)
    (timer : Option (CallId × Duration)) : entries.foldl wind timer = timer := by
  induction entries generalizing timer with
  | nil => rfl
  | cons entry later ih =>
      simp only [List.all_cons, Bool.and_eq_true] at quiet
      have still : ∀ entry, entry.isAside = true → wind timer entry = timer := by
        apply forall_aside <;> intros <;> rfl
      simp [still entry quiet.1, ih quiet.2]

end LogEntry

namespace CallRecord

variable {record : CallRecord} {situation : Situation}

/-- The timer that belongs to a call that has come this far. -/
def timer (record : CallRecord) : Situation → Option (CallId × Duration)
  | .ringing | .invited => some (record.call, record.lifetime)
  | _ => none

@[simp]
theorem timer_grow (entries : List LogEntry) :
    (record.grow entries).timer situation = record.timer situation := by
  cases situation <;> rfl

/-- The course of a call leaves the timer as it belongs, if none ran before. -/
theorem Course.timer (course : record.Course situation) :
    LogEntry.timer record.entries = record.timer situation := by
  have grown (record : CallRecord) (more : List LogEntry) :
      LogEntry.timer (record.grow more).entries =
        more.foldl LogEntry.wind (LogEntry.timer record.entries) :=
    List.foldl_append
  induction course with
  | rang _ entries | dialed _ entries =>
      rw [entries]
      rfl
  | aside course quiet ih => simpa [LogEntry.timer, LogEntry.wind_asides quiet] using ih
  | accepted course ih | invited course bears adds ih | answered course bears adds ih
    | established course ih =>
      rw [grown, ih]
      rfl
  | renegotiated course live bears ih =>
      rw [grown, ih, timer_grow]
      rfl
  | @ended record situation ending hangups entries course live bears count quiet ih =>
      rw [grown, List.append_assoc, List.foldl_append, List.cons_append, List.foldl_cons,
        List.foldl_append]
      change [_, _].foldl LogEntry.wind (entries.foldl LogEntry.wind none) = none
      rw [LogEntry.wind_asides quiet]
      rfl

theorem Course.invite_mem_kinds (course : record.Course .invited) : .invite ∈ record.kinds := by
  rcases course.said with ⟨count, said⟩
  simp [said, course.side.1 (.inr rfl), Role.overture]

end CallRecord

namespace Phone

variable [MediaEngine ε] {phone : Phone ε} {chronicle : Chronicle} {record : CallRecord}
  {call : Call ε} {situation : Situation}

theorem timer_of_finished {records : List CallRecord}
    (finished : ∀ record ∈ records, ∃ ending, record.Course (.finished ending)) :
    LogEntry.timer (records.flatMap CallRecord.entries) = none := by
  induction records with
  | nil => rfl
  | cons record later ih =>
      rcases finished record List.mem_cons_self with ⟨ending, course⟩
      have first : LogEntry.timer record.entries = none := course.timer
      rw [List.flatMap_cons, LogEntry.timer, List.foldl_append]
      change (later.flatMap CallRecord.entries).foldl LogEntry.wind
        (LogEntry.timer record.entries) = none
      rw [first]
      exact ih fun other there => finished other (List.mem_cons_of_mem record there)

/-- A call that rings and was not accepted, or that was started and whose invite went out. -/
inductive Awaits (phone : Phone ε) (record : CallRecord) (call : Call ε) : Duration → Prop where
  | ringing (incoming : phone.phase = .incoming) (unaccepted : call.accepted = false) :
      Awaits phone record call record.lifetime
  | invited (outgoing : phone.phase = .outgoing) (sent : .invite ∈ record.kinds) :
      Awaits phone record call phone.inviteLifetime

omit [MediaEngine ε] in
/-- The timer of a phone is the one that belongs to its latest call. -/
theorem Recounts.timer (recounts : phone.Recounts chronicle) :
    LogEntry.timer chronicle.entries =
      LogEntry.timer (chronicle.latest.toList.flatMap CallRecord.entries) := by
  rw [recounts.entries, Chronicle.calls, List.flatMap_append, LogEntry.timer, List.foldl_append]
  change _ = List.foldl LogEntry.wind none _
  congr 1
  exact timer_of_finished recounts.past

omit [MediaEngine ε] in
theorem timer_eq_some_iff (course : record.Course situation)
    (recalls : phone.Recalls record situation) (current : phone.call = some call)
    (armed : CallId) (lifetime : Duration) :
    record.timer situation = some (armed, lifetime) ↔
      call.id = armed ∧ phone.Awaits record call lifetime := by
  rcases recalls.at current with ⟨names, settings, stands⟩
  rw [← names.id]
  generalize side : record.side = role at stands settings
  -- A call waits in two of the five situations that come before its end.
  cases stands with
  | ringing incoming unaccepted =>
      constructor
      · rintro ⟨⟩
        exact ⟨rfl, .ringing incoming unaccepted⟩
      · rintro ⟨rfl, awaits⟩
        cases awaits with
        | ringing => rfl
        | invited outgoing => simp [incoming] at outgoing
  | accepted incoming accepted =>
      refine iff_of_false (by simp [CallRecord.timer]) ?_
      rintro ⟨-, awaits⟩
      cases awaits with
      | ringing _ unaccepted => simp [accepted] at unaccepted
      | invited outgoing => simp [incoming] at outgoing
  | dialing outgoing =>
      refine iff_of_false (by simp [CallRecord.timer]) ?_
      rintro ⟨-, awaits⟩
      cases awaits with
      | ringing incoming => simp [outgoing] at incoming
      | invited _ sent =>
          have silent : record.kinds = [] := course.said
          simp [silent] at sent
  | invited outgoing =>
      have known := settings rfl
      constructor
      · rintro ⟨⟩
        rw [known]
        exact ⟨rfl, .invited outgoing (course.invite_mem_kinds)⟩
      · rintro ⟨rfl, awaits⟩
        cases awaits with
        | ringing incoming => simp [outgoing] at incoming
        | invited => exact congrArg (fun lifetime => some (record.call, lifetime)) known
  | talking active =>
      refine iff_of_false (by simp [CallRecord.timer]) ?_
      rintro ⟨-, awaits⟩
      cases awaits with
      | ringing incoming => simp [active] at incoming
      | invited outgoing => simp [active] at outgoing

/-- An expiry that comes for a call that no longer waits is not acted on. -/
theorem after_inviteExpired (coherent : phone.Coherent) (now : Instant) {expired : CallId}
    (late : ∀ call, phone.call = some call → call.id = expired →
      call.accepted = true ∨ phone.phase = .active) :
    phone.after now (.inviteExpired expired) = phone := by
  change phone.inviteExpired expired = phone
  cases current : phone.call with
  | none => simp [inviteExpired, current]
  | some call =>
      by_cases same : call.id = expired
      · have stands := coherent.stands current
        rcases late call current same with accepted | active
        · cases phase : phone.phase with
          | idle | incoming | active => simp [inviteExpired, current, phase, accepted]
          | outgoing =>
              rw [phase] at stands
              simp [stands.unaccepted] at accepted
        · simp [inviteExpired, current, active]
      · simp [inviteExpired, current, same]

/-- The timer is armed exactly while the invite of the current call waits: on the side that rings
until the call is accepted, for the lifetime that the invite names, and on the side that calls from
the moment when the invite has gone out, for the lifetime that the settings name. An expiry that
comes for a call that was accepted, is established or is over, or for another call, changes nothing
and writes nothing. -/
theorem timer_of_lived (lived : phone.Lived chronicle) (armed : CallId) :
    (∀ lifetime, LogEntry.timer chronicle.entries = some (armed, lifetime) ↔
        ∃ record ∈ chronicle.latest, ∃ call, phone.call = some call ∧ record.Names call ∧
          call.id = armed ∧ phone.Awaits record call lifetime) ∧
      ((∀ call, phone.call = some call → call.id = armed →
          call.accepted = true ∨ phone.phase = .active) →
        ∀ now, phone.after now (.inviteExpired armed) = phone) := by
  have recounts := recounts_of_lived lived
  have coherent := coherent_of_lived lived
  refine ⟨fun lifetime => ?_, fun late now => after_inviteExpired coherent now late⟩
  rw [recounts.timer]
  cases latest : chronicle.latest with
  | none => simp [LogEntry.timer]
  | some record =>
      rcases recounts.latest record latest with ⟨situation, course, recalls⟩
      have same : LogEntry.timer ((some record).toList.flatMap CallRecord.entries) =
          record.timer situation := by
        simpa using course.timer
      rw [same]
      cases recalls with
      | finished gone => simp [CallRecord.timer, gone]
      | @current call _ current names settings stands =>
          have belongs := timer_eq_some_iff course (.current current names settings stands) current
            armed lifetime
          simp [belongs, current, names]

/-- The timer runs for the invite that has gone out, and it is late for a call that was accepted. -/
theorem timer_of_lived_acceptedRun :
    (∃ record ∈ (chronicled (scripted, {}) dialedRun).2.latest, ∃ call,
        (chronicled (scripted, {}) dialedRun).1.call = some call ∧ record.Names call ∧
          call.id = CallId.fresh 0 "0" ∧
          (chronicled (scripted, {}) dialedRun).1.Awaits record call (.ofSeconds 60)) ∧
      (chronicled (scripted, {}) acceptedRun).1.after 9 (.inviteExpired ⟨"call"⟩) =
        (chronicled (scripted, {}) acceptedRun).1 := by
  have dialed := lived_chronicled (.new isNew_scripted) dialedRun
  have accepted := lived_chronicled (.new isNew_scripted) acceptedRun
  have runs : LogEntry.timer (chronicled (scripted, {}) dialedRun).2.entries =
      some (CallId.fresh 0 "0", .ofSeconds 60) := by decide
  have late : (chronicled (scripted, {}) acceptedRun).1.call.all Call.accepted = true := by decide
  refine ⟨((timer_of_lived dialed _).1 _).mp runs, (timer_of_lived accepted _).2 ?_ 9⟩
  intro call current _
  rw [current] at late
  exact .inl late

end Phone

end RoomCall
