import RoomCall.Proofs.Phone.RelayRequests

/-!
# Calls that wait for relay credentials

A call that is started or accepted without relay credentials that hold waits for the answer to the
open request, whatever that was made for. `Phone.Waits` and `Phone.Over` are the two states in which
such a call can be until then: it is current, or it has ended. The answer makes the engine of a call
that is current, and nothing ever makes one for a call that has ended.
-/

namespace RoomCall

variable {ε : Type}

/-- The engines that were made in a call, which is given by its place among all calls. -/
def Chronicle.engines (chronicle : Chronicle) (place : Nat) : List SessionId :=
  chronicle.calls[place]?.elim [] fun record => LogEntry.hired record.entries

namespace Phone

variable [MediaEngine ε] {phone later final : Phone ε} {chronicle told ended : Chronicle}
  {place : Nat}

/-- What can come of a phone and its chronicle while only some occurrences happen. The owner may
take entries off the log at any time. -/
inductive Later (allowed : Occurrence → Prop) (phone : Phone ε) (chronicle : Chronicle) :
    Phone ε → Chronicle → Prop where
  | same : Later allowed phone chronicle phone chronicle
  | after {later : Phone ε} {told : Chronicle} (before : Later allowed phone chronicle later told)
      (now : Instant) (occurrence : Occurrence) (allows : allowed occurrence) :
      Later allowed phone chronicle (later.after now occurrence) (told.next later now occurrence)
  | read {later : Phone ε} {told : Chronicle} (before : Later allowed phone chronicle later told)
      (rest : List LogEntry) : Later allowed phone chronicle { later with log := rest } told

/-- The user starts or accepts a call and is not refused, while no relay credentials hold. -/
def Defers (phone : Phone ε) (now : Instant) (occurrence : Occurrence) : Prop :=
  phone.relay.isFresh now = false ∧
    ((∃ call, phone.started? now occurrence = some call) ∨
      occurrence = .accept ∧ (phone.handle now occurrence).2 = .ok .done)

/-- The call at a place is the one that the phone has. -/
def IsCurrent (phone : Phone ε) (chronicle : Chronicle) (place : Nat) : Prop :=
  phone.call ≠ none ∧ chronicle.past.length = place

/-- What holds of a call that began to wait for relay credentials, until they are answered. -/
structure Suspended (phone : Phone ε) (chronicle : Chronicle) (place : Nat) : Prop where
  unmade : chronicle.engines place = []
  requested : phone.IsCurrent chronicle place → phone.refreshing = true
  busy : phone.IsCurrent chronicle place →
    ∀ now membership, phone.startCall now membership = (phone, .error .busy)
  /-- Whatever the answer is, it makes the engine of the call. -/
  resumes : phone.IsCurrent chronicle place → ∀ now outcome,
    (chronicle.next phone now (.relayRefreshed outcome)).engines place = [phone.nextSession]
  /-- Nothing makes an engine for a call that has ended. -/
  never : ¬phone.IsCurrent chronicle place → ∀ final ended,
    Later (fun _ => True) phone chronicle final ended → ended.engines place = []

/-- The call at a place waits for relay credentials. -/
def Waits (phone : Phone ε) (chronicle : Chronicle) (place : Nat) : Prop :=
  chronicle.past.length = place ∧ ∃ call side, phone.call = some call ∧ call.deferred = some side

/-- The call at a place has ended. -/
def Over (phone : Phone ε) (chronicle : Chronicle) (place : Nat) : Prop :=
  place < chronicle.calls.length ∧ (chronicle.past.length = place → phone.call = none)

theorem lived_of_later {allowed : Occurrence → Prop} (lived : phone.Lived chronicle)
    (leads : Later allowed phone chronicle later told) : later.Lived told := by
  induction leads with
  | same => exact lived
  | after _ now occurrence _ ih => exact ih.after now occurrence
  | read _ rest ih => exact ih.read rest

/-! ## The engines of one call -/

omit [MediaEngine ε] in
theorem length_calls (recounts : phone.Recounts chronicle) (current : phone.call ≠ none) :
    chronicle.calls.length = chronicle.past.length + 1 := by
  cases latest : chronicle.latest with
  | none => exact absurd (recounts.idle latest) current
  | some record => simp [Chronicle.calls, latest]

theorem elim_concat (records : List CallRecord) (record : CallRecord) (place : Nat) :
    (records ++ [record])[place]?.elim [] (fun record => LogEntry.hired record.entries) =
      if records.length = place then LogEntry.hired record.entries
      else records[place]?.elim [] fun record => LogEntry.hired record.entries := by
  split
  · rename_i last
    simp [← last]
  · rename_i other
    rcases Nat.lt_or_gt_of_ne other with beyond | before
    · rw [List.getElem?_eq_none (by simp; omega), List.getElem?_eq_none (Nat.le_of_lt beyond)]
    · rw [List.getElem?_append_left before]

/-- The engine that a step makes is that of the call that was opened last. -/
theorem engines_next (lived : phone.Lived chronicle) (now : Instant) (occurrence : Occurrence)
    (place : Nat) :
    (chronicle.next phone now occurrence).engines place =
      chronicle.engines place ++
        if (chronicle.next phone now occurrence).past.length = place then
          LogEntry.hired (written phone (phone.after now occurrence))
        else [] := by
  have recounts := recounts_of_lived lived
  have turn := turn_after recounts (coherent_of_lived lived) (viable_of_lived lived) now occurrence
  cases opened : phone.opened now occurrence with
  | some record =>
      have bare := (turn.opens record opened).2
      simp only [Chronicle.engines, Chronicle.next, opened]
      change (chronicle.calls ++ [_])[place]?.elim _ _ = _
      rw [elim_concat]
      split
      · rename_i last
        simp [← last, bare]
      · simp
  | none =>
      simp only [Chronicle.engines, Chronicle.next, opened]
      cases latest : chronicle.latest with
      | none =>
          have idle := recounts.idle latest
          simp [Chronicle.calls, latest, (quiet_of_idle lived idle opened).2]
      | some record =>
          simp only [Chronicle.calls, latest, Option.map_some, Option.toList_some]
          rw [elim_concat, elim_concat]
          split <;> simp

/-! ## Until the answer -/

/-- A call that waits for relay credentials goes on waiting, or it ends. No engine is made. -/
theorem waits_of_move {call : Call ε} {side : Role} {now : Instant} {occurrence : Occurrence}
    (move : phone.Move now occurrence later) (coherent : phone.Coherent)
    (current : phone.call = some call) (deferred : call.deferred = some side)
    (other : occurrence.isAnswer = false) :
    later.nextSession = phone.nextSession ∧
      (later.call = none ∨ ∃ call side, later.call = some call ∧ call.deferred = some side) := by
  have unopened := unopened_of_deferred coherent current deferred
  have goes : ∃ call side, phone.call = some call ∧ call.deferred = some side :=
    ⟨call, side, current, deferred⟩
  have bare {other : Call ε} (there : phone.call = some other) : other.negotiation = none := by
    obtain rfl := Option.some.inj (current.symm.trans there)
    exact unopened
  have settles {other : Call ε} {after : Phone ε}
      (settles : Settles { phone with call := some other } other after)
      (unopened : other.negotiation = none) (waits : other.deferred = some side) :
      after.nextSession = phone.nextSession ∧
        (after.call = none ∨ ∃ call side, after.call = some call ∧ call.deferred = some side) := by
    cases settles with
    | waits => exact ⟨rfl, .inr ⟨other, side, rfl, waits⟩⟩
    | applied _ opened | refused _ opened => simp [unopened] at opened
  cases move with
  | still | plugged => exact ⟨rfl, .inr goes⟩
  | refreshed is | resumed is => simp [is, Occurrence.isAnswer] at other
  | rang idle | dialed _ idle => simp [idle] at current
  | @accepted call' after is there incoming unaccepted =>
      obtain rfl := Option.some.inj (current.symm.trans there)
      simp [(rings_of_unaccepted coherent current incoming unaccepted).2] at deferred
  | ended => exact ⟨rfl, .inl rfl⟩
  | @held call' batch there =>
      obtain rfl := Option.some.inj (current.symm.trans there)
      exact ⟨rfl, .inr ⟨_, side, rfl, deferred⟩⟩
  | @gathered call' batch after there heard admits outgoing settled =>
      obtain rfl := Option.some.inj (current.symm.trans there)
      exact settles settled unopened deferred
  | @answered call' answer after there heard admits outgoing unanswered settled =>
      obtain rfl := Option.some.inj (current.symm.trans there)
      refine settles settled ?_ ?_ <;> unfold Call.answeredBy <;> cases answer.party
      · exact unopened
      · exact unopened
      · exact deferred
      · exact deferred
  | handed there opened | renegotiated there opened | muted _ there opened
    | toggled _ there opened | reacted _ there opened => simp [bare there] at opened

theorem waits_after (lived : phone.Lived chronicle) (waits : phone.Waits chronicle place)
    (now : Instant) {occurrence : Occurrence} (other : occurrence.isAnswer = false) :
    ((phone.after now occurrence).Waits (chronicle.next phone now occurrence) place ∨
        (phone.after now occurrence).Over (chronicle.next phone now occurrence) place) ∧
      (chronicle.next phone now occurrence).engines place = chronicle.engines place := by
  rcases waits with ⟨last, call, side, current, deferred⟩
  have calls : phone.call ≠ none := by simp [current]
  have recounts := recounts_of_lived lived
  have coherent := coherent_of_lived lived
  have turn := turn_after recounts coherent (viable_of_lived lived) now occurrence
  have unopened : phone.opened now occurrence = none := by
    cases opened : phone.opened now occurrence with
    | none => rfl
    | some record => exact absurd (turn.opens record opened).1 calls
  have past : (chronicle.next phone now occurrence).past = chronicle.past := by
    simp [Chronicle.next, unopened]
  have length : (chronicle.next phone now occurrence).calls.length = chronicle.calls.length := by
    cases latest : chronicle.latest <;> simp [Chronicle.calls, Chronicle.next, unopened, latest]
  rcases waits_of_move (move_after coherent now occurrence) coherent current deferred other with
    ⟨sessions, goes⟩
  constructor
  · rcases goes with gone | waiting
    · refine .inr ⟨?_, fun _ => gone⟩
      rw [length, length_calls recounts calls, last]
      exact Nat.lt_succ_self place
    · exact .inl ⟨(congrArg List.length past).trans last, waiting⟩
  · rw [engines_next lived, (hires_after lived now occurrence).hired, sessions, Nat.sub_self]
    simp

/-- A call that has ended stays ended, and no engine is made for it. -/
theorem over_after (lived : phone.Lived chronicle) (closed : phone.Over chronicle place)
    (now : Instant) (occurrence : Occurrence) :
    (phone.after now occurrence).Over (chronicle.next phone now occurrence) place ∧
      (chronicle.next phone now occurrence).engines place = chronicle.engines place := by
  rcases closed with ⟨there, gone⟩
  rw [engines_next lived]
  cases opened : phone.opened now occurrence with
  | some record =>
      have past : (chronicle.next phone now occurrence).past = chronicle.calls := by
        simp [Chronicle.next, opened]
      have earlier : (chronicle.next phone now occurrence).past.length ≠ place := by
        rw [past]
        exact Nat.ne_of_gt there
      refine ⟨⟨?_, fun last => absurd last earlier⟩, by rw [if_neg earlier, List.append_nil]⟩
      rw [Chronicle.calls, List.length_append, past]
      exact Nat.lt_of_lt_of_le there (Nat.le_add_right _ _)
  | none =>
      have past : (chronicle.next phone now occurrence).past = chronicle.past := by
        simp [Chronicle.next, opened]
      have length :
          (chronicle.next phone now occurrence).calls.length = chronicle.calls.length := by
        cases latest : chronicle.latest <;> simp [Chronicle.calls, Chronicle.next, opened, latest]
      rw [past]
      refine ⟨⟨length ▸ there, fun last => ?_⟩, ?_⟩
      · exact (quiet_of_idle lived (gone (past ▸ last)) opened).1
      · split
        · rename_i last
          rw [(quiet_of_idle lived (gone last) opened).2, List.append_nil]
        · exact List.append_nil _

theorem engines_of_over {allowed : Occurrence → Prop} (lived : phone.Lived chronicle)
    (closed : phone.Over chronicle place) (leads : Later allowed phone chronicle later told) :
    later.Over told place ∧ told.engines place = chronicle.engines place := by
  induction leads with
  | same => exact ⟨closed, rfl⟩
  | after before now occurrence _ ih =>
      have step := over_after (lived_of_later lived before) ih.1 now occurrence
      exact ⟨step.1, step.2.trans ih.2⟩
  | read before rest ih => exact ih

/-- A call that waits for relay credentials has no engine. -/
theorem engines_of_waits (lived : phone.Lived chronicle) (waits : phone.Waits chronicle place) :
    chronicle.engines place = [] := by
  rcases waits with ⟨rfl, call, side, current, deferred⟩
  have coherent := coherent_of_lived lived
  have calls : phone.call ≠ none := by simp [current]
  have unopened : phone.negotiation? = none :=
    (negotiation?_eq current).trans (unopened_of_deferred coherent current deferred)
  cases latest : chronicle.latest with
  | none => exact absurd ((recounts_of_lived lived).idle latest) calls
  | some record =>
      have vacant := (staffed_of_lived lived).vacant calls unopened record latest
      have bare := LogEntry.pipelines_of_silent vacant.unasked
      simp [Chronicle.engines, Chronicle.calls, latest, LogEntry.hired, bare]

/-- The answer makes the engine of the call that waits for it. -/
theorem engines_of_answer (lived : phone.Lived chronicle) (waits : phone.Waits chronicle place)
    (now : Instant) (outcome : Except String Relay.Grant) :
    (chronicle.next phone now (.relayRefreshed outcome)).engines place = [phone.nextSession] := by
  have bare := engines_of_waits lived waits
  rcases waits with ⟨last, call, side, current, deferred⟩
  have coherent := coherent_of_lived lived
  have sessions := nextSession_of_answer coherent current deferred now outcome
  have turn := turn_after (recounts_of_lived lived) coherent (viable_of_lived lived) now
    (.relayRefreshed outcome)
  have unopened : phone.opened now (.relayRefreshed outcome) = none := by
    cases opened : phone.opened now (.relayRefreshed outcome) with
    | none => rfl
    | some record => simp [(turn.opens record opened).1] at current
  have past : (chronicle.next phone now (.relayRefreshed outcome)).past = chronicle.past := by
    simp [Chronicle.next, unopened]
  rw [engines_next lived, bare, past, if_pos last, (hires_after lived _ _).hired, sessions,
    Nat.add_sub_cancel_left]
  rfl

theorem suspended_of_waits (lived : phone.Lived chronicle) (waits : phone.Waits chronicle place) :
    phone.Suspended chronicle place := by
  have coherent := coherent_of_lived lived
  have unmade := engines_of_waits lived waits
  have resumes := engines_of_answer lived waits
  rcases waits with ⟨last, call, side, current, deferred⟩
  have calls : phone.call ≠ none := by simp [current]
  refine ⟨unmade, fun _ => (coherent.stands current).requested deferred, ?_, fun _ => resumes,
    fun past => absurd ⟨calls, last⟩ past⟩
  intro _ now membership
  have busy : phone.phase ≠ .idle := mt coherent.phase_idle_iff.mp calls
  simp [startCall, busy]

theorem suspended_of_over (lived : phone.Lived chronicle) (closed : phone.Over chronicle place)
    (unmade : chronicle.engines place = []) : phone.Suspended chronicle place := by
  have past : ¬phone.IsCurrent chronicle place := fun current => current.1 (closed.2 current.2)
  refine ⟨unmade, (absurd · past), (absurd · past), (absurd · past), fun _ final ended leads => ?_⟩
  exact (engines_of_over lived closed leads).2.trans unmade

/-! ## From the start on -/

theorem call_of_stale {call : Call ε} (current : phone.call = some call) {now : Instant}
    (stale : phone.relay.isFresh now = false) (side : Role) :
    (phone.openOrDefer now side).call = some { call with deferred := some side } := by
  unfold openOrDefer
  rw [if_neg (by simp [stale]), current]
  dsimp only
  rw [requestRelay_eq]

/-- A call can be accepted only while it rings with a usable offer. -/
theorem acceptable_of_reply {now : Instant} (reply : (phone.handle now .accept).2 = .ok .done) :
    ∃ call, phone.call = some call ∧ phone.phase = .incoming ∧ call.accepted = false ∧
      call.heldDescription.any Description.hasCompatibleAudio = true := by
  simp only [handle, accept] at reply
  cases current : phone.call with
  | none => simp [current, Except.map] at reply
  | some call =>
      simp only [current] at reply
      split at reply
      · simp [Except.map] at reply
      · rename_i allowed
        split at reply
        · simp [Except.map] at reply
        · rename_i usable
          simp only [ne_eq, Bool.or_eq_true, decide_eq_true_eq, not_or, Decidable.not_not,
            Bool.not_eq_true] at allowed
          exact ⟨call, rfl, allowed.1, allowed.2, by simpa using usable⟩

theorem waits_of_defers {now : Instant} {occurrence : Occurrence}
    (defers : phone.Defers now occurrence) :
    (phone.after now occurrence).Waits (chronicle.next phone now occurrence)
      (chronicle.next phone now occurrence).past.length := by
  refine ⟨rfl, ?_⟩
  rcases defers with ⟨stale, ⟨call, started⟩ | ⟨rfl, reply⟩⟩
  · rcases startable_of_started? started with ⟨membership, callee, rfl, idle, known, capable⟩
    have dials : (phone.dialing now membership callee).call =
        some (phone.dialedCall now membership callee) := rfl
    have defers := call_of_stale dials stale .offering
    rw [← startCall_eq idle known capable] at defers
    exact ⟨_, .offering, defers, rfl⟩
  · rcases acceptable_of_reply reply with ⟨call, current, incoming, unaccepted, compatible⟩
    have accepts : (({ phone with call := some { call with accepted := true } } : Phone ε).noted
        [.errand .cancelTimer]).call = some { call with accepted := true } := rfl
    have defers := call_of_stale accepts stale .answering
    rw [← accept_eq current incoming unaccepted compatible] at defers
    exact ⟨_, .answering, defers, rfl⟩

/-- Until the answer a call that waits is suspended, also when it ends. -/
theorem waits_of_later (lived : phone.Lived chronicle) (waits : phone.Waits chronicle place)
    (leads : Later (fun occurrence => occurrence.isAnswer = false) phone chronicle later told) :
    later.Waits told place ∨ later.Over told place ∧ told.engines place = [] := by
  induction leads with
  | same => exact .inl waits
  | read before rest ih => exact ih
  | @after later told before now occurrence other ih =>
      have lives := lived_of_later lived before
      rcases ih with waits | ⟨closed, unmade⟩
      · rcases waits_after lives waits now other with ⟨waits | closed, still⟩
        · exact .inl waits
        · exact .inr ⟨closed, still.trans (engines_of_waits lives ‹_›)⟩
      · have step := over_after lives closed now occurrence
        exact .inr ⟨step.1, step.2.trans unmade⟩

/-- An owner answers requests for relay credentials, each once and at any later time. Then at most
one request is open, exactly while the phone waits for an answer. The engines that a step makes are
those that it asks for their pipelines, and every call has one at most. A call that is started or
accepted while no credentials hold gets its engine with the next answer, whatever that is and
whatever it was asked for, if the call is still the one of the phone; until then it has none, and no
other call can be started. If the call has ended it never gets one. -/
theorem relay_requests_coalesce {answers : Nat} (served : Served phone chronicle answers) :
    LogEntry.relayRequests chronicle.entries = answers + phone.refreshing.toNat ∧
      (∀ now occurrence, LogEntry.hired (written phone (phone.after now occurrence)) =
        List.range' phone.nextSession
          ((phone.after now occurrence).nextSession - phone.nextSession)) ∧
      (∀ record ∈ chronicle.calls, (LogEntry.hired record.entries).length ≤ 1) ∧
      ∀ now occurrence, phone.Defers now occurrence → ∀ later told,
        Later (fun between => between.isAnswer = false) (phone.after now occurrence)
          (chronicle.next phone now occurrence) later told →
        later.Suspended told (chronicle.next phone now occurrence).past.length := by
  have lived := lived_of_served served
  refine ⟨relayRequests_of_served served,
    fun now occurrence => (hires_after lived now occurrence).hired, hired_le_one lived, ?_⟩
  intro now occurrence defers later told leads
  have begun := lived.after now occurrence
  have lives := lived_of_later begun leads
  rcases waits_of_later begun (waits_of_defers defers) leads with waits | ⟨closed, unmade⟩
  · exact suspended_of_waits lives waits
  · exact suspended_of_over lives closed unmade

/-- An invite of the other member. -/
def bobsInvite : Occurrence :=
  .signal pair ⟨⟨"@bob"⟩, 0, .invite ⟨⟨"call"⟩, none, "offer", .ofSeconds 60, []⟩⟩

/-- A call that rings without relay credentials and is ignored. -/
def ignoredRun : List (Instant × Occurrence) :=
  [(0, bobsInvite), (1, .ignore)]

theorem relay_requests_coalesce_ignoredRun :
    LogEntry.relayRequests (chronicled (scripted, {}) ignoredRun).2.entries = 1 ∧
      ∀ now outcome,
        (Chronicle.next (chronicled (scripted, {}) (ignoredRun ++ [(2, .startCall pair)])).2
          (chronicled (scripted, {}) (ignoredRun ++ [(2, .startCall pair)])).1 now
          (.relayRefreshed outcome)).engines 1 = [1] := by
  have served : Served (chronicled (scripted, {}) ignoredRun).1
      (chronicled (scripted, {}) ignoredRun).2 0 :=
    ((Served.new isNew_scripted).after 0 bobsInvite rfl).after 1 .ignore rfl
  have coalesce := relay_requests_coalesce served
  have defers : (chronicled (scripted, {}) ignoredRun).1.Defers 2 (.startCall pair) :=
    ⟨by decide, .inl ⟨CallId.fresh 2 "0", by decide⟩⟩
  have suspended := coalesce.2.2.2 2 (.startCall pair) defers _ _ .same
  exact ⟨coalesce.1.trans (by decide), suspended.resumes ⟨by decide, by decide⟩⟩

end Phone

end RoomCall
