import RoomCall.Proofs.Phone.Hiring

/-!
# Requests for relay credentials

A phone asks for relay credentials when it rings, starts a call or accepts one, but never while an
answer is due. So if its owner answers every request once, at most one request is open at any time,
and the phone knows whether one is.
-/

namespace RoomCall

variable {ε : Type}

/-- Whether an occurrence is the answer to a request for relay credentials. -/
def Occurrence.isAnswer : Occurrence → Bool
  | .relayRefreshed _ => true
  | _ => false

namespace LogEntry

/-- Whether an entry asks for relay credentials. -/
def isRelayRequest : LogEntry → Bool
  | .errand .refreshRelay => true
  | _ => false

/-- How often relay credentials are asked for among some entries. -/
def relayRequests (entries : List LogEntry) : Nat :=
  entries.countP isRelayRequest

@[simp]
theorem relayRequests_nil : relayRequests [] = 0 := rfl

@[simp]
theorem relayRequests_append (first second : List LogEntry) :
    relayRequests (first ++ second) = relayRequests first + relayRequests second :=
  List.countP_append

theorem relayRequests_eq_zero {entries : List LogEntry}
    (silent : ∀ entry ∈ entries, ¬entry.isRelayRequest = true) : relayRequests entries = 0 :=
  List.countP_eq_zero.mpr silent

@[simp]
theorem relayRequests_traffic (session : SessionId) (contents : List Traffic) :
    relayRequests (contents.map (LogEntry.traffic session)) = 0 :=
  relayRequests_eq_zero (by simp [isRelayRequest])

@[simp]
theorem relayRequests_stageEntries (notices : List Notice) :
    relayRequests (stageEntries notices) = 0 :=
  relayRequests_eq_zero (forall_mem_stageEntries (fun _ => Bool.false_ne_true) _)

@[simp]
theorem relayRequests_phaseEntries (before after : Phase) :
    relayRequests (phaseEntries before after) = 0 :=
  relayRequests_eq_zero (forall_mem_phaseEntries (fun _ => Bool.false_ne_true) _ _)

@[simp]
theorem relayRequests_rosterEntries (before after : Roster) :
    relayRequests (rosterEntries before after) = 0 :=
  relayRequests_eq_zero (forall_mem_rosterEntries Bool.false_ne_true _ _)

@[simp]
theorem relayRequests_descriptionEntries (phone : Phone ε) (call : Call ε) (description : String)
    (candidates : List Candidate) (side : Role) :
    relayRequests (phone.descriptionEntries call description candidates side) = 0 := by
  cases side <;> rfl

end LogEntry

namespace Phone

/-- A step asks for relay credentials exactly if an answer is due after it that was not due before.
-/
def Asks (phone after : Phone ε) : Prop :=
  ∃ entries, after.log = phone.log ++ entries ∧
    LogEntry.relayRequests entries + phone.refreshing.toNat = after.refreshing.toNat

variable {phone before after : Phone ε} {call : Call ε} {side : Role} {entries : List LogEntry}

theorem asks_silent (log : after.log = phone.log ++ entries)
    (silent : LogEntry.relayRequests entries = 0) (same : after.refreshing = phone.refreshing) :
    phone.Asks after :=
  ⟨entries, log, by rw [silent, same, Nat.zero_add]⟩

theorem asks_still (log : after.log = phone.log) (same : after.refreshing = phone.refreshing) :
    phone.Asks after :=
  asks_silent (log.trans (List.append_nil _).symm) rfl same

/-- Two steps together ask for credentials exactly if an answer is due after both that was not due
before. -/
theorem Asks.trans (first : phone.Asks before) (second : before.Asks after) : phone.Asks after := by
  rcases first with ⟨entries, log, balance⟩
  rcases second with ⟨more, grown, rest⟩
  refine ⟨entries ++ more, by rw [grown, log, List.append_assoc], ?_⟩
  rw [LogEntry.relayRequests_append]
  omega

theorem Asks.noted (asks : phone.Asks before) (silent : LogEntry.relayRequests entries = 0) :
    phone.Asks (before.noted entries) :=
  asks.trans (asks_silent rfl silent rfl)

theorem Asks.keep (asks : phone.Asks before) (call : Call ε) (negotiation : Negotiation ε) :
    phone.Asks (before.keep call negotiation) :=
  asks.trans (asks_silent rfl (LogEntry.relayRequests_traffic _ _) rfl)

variable [MediaEngine ε]

theorem relayRequests_farewell (ending : Ending) (cause : Option HangupCause) :
    LogEntry.relayRequests (phone.farewell call ending cause) = 0 := by
  have first : LogEntry.relayRequests ((cause.toList.map fun cause =>
      LogEntry.errand (.send call.room (phone.style.hangup call.id call.party (some cause)))) ++
        [.errand .cancelTimer]) = 0 := by
    cases cause <;> rfl
  have last : LogEntry.relayRequests [LogEntry.announcement (.callEnded call.id ending)] = 0 := rfl
  rw [LogEntry.relayRequests_append] at first
  cases opened : call.negotiation <;>
    simp only [farewell, opened, Option.elim, teardownEntries, LogEntry.relayRequests_append, first,
      last, LogEntry.relayRequests_traffic, LogEntry.relayRequests_stageEntries,
      LogEntry.relayRequests_rosterEntries, LogEntry.relayRequests_phaseEntries,
      LogEntry.relayRequests_nil, Nat.add_zero]

theorem Asks.ended (asks : phone.Asks before) (call : Call ε) (ending : Ending)
    (cause : Option HangupCause) : phone.Asks (before.ended call ending cause) :=
  asks.trans (asks_silent rfl (relayRequests_farewell ending cause) rfl)

omit [MediaEngine ε] in
theorem Asks.described (asks : phone.Asks before) (call : Call ε) (description : String)
    (candidates : List Candidate) (side : Role) :
    phone.Asks (before.described call description candidates side) := by
  refine asks.trans (asks_silent ((List.append_assoc ..).trans (List.append_assoc ..)) ?_ rfl)
  simp

theorem asks_of_opens (opens : phone.Opens call side after) : phone.Asks after := by
  have counted : phone.Asks { phone with nextSession := phone.nextSession + 1 } :=
    asks_still rfl rfl
  cases opens with
  | opened => exact (counted.keep _ _).noted (LogEntry.relayRequests_stageEntries _)
  | refused => exact ((counted.keep _ _).noted rfl).ended _ _ _

/-- A call that has to wait for credentials asks for them, unless an answer is due already. -/
theorem asks_of_starts (starts : phone.Starts call side after) : phone.Asks after := by
  cases starts with
  | opens opens => exact asks_of_opens opens
  | waits =>
      refine ⟨_, rfl, ?_⟩
      cases phone.refreshing <;> rfl

theorem asks_of_settles (settles : phone.Settles call after) : phone.Asks after := by
  have still : phone.Asks phone := asks_still rfl rfl
  cases settles with
  | waits => exact still
  | refused => exact (still.keep _ _).ended _ _ _
  | @applied answer negotiation =>
      have told : LogEntry.relayRequests
          ([.errand .cancelTimer] ++ phaseEntries phone.phase .active) = 0 := by
        rw [LogEntry.relayRequests_append, LogEntry.relayRequests_phaseEntries]
        rfl
      exact ((still.keep _ _).noted told).trans (asks_still rfl rfl)

theorem asks_of_reacts {negotiation handled : Negotiation ε}
    (reacts : phone.Reacts call side negotiation handled after) : phone.Asks after := by
  have kept : phone.Asks (phone.keep call handled) := Asks.keep (asks_still rfl rfl) _ _
  have stages := LogEntry.relayRequests_stageEntries
  cases reacts with
  | moved => exact kept.noted (stages _)
  | reported => exact (kept.described _ _ _ _).noted (stages _)
  | renegotiated =>
      rw [sendNegotiate_eq]
      exact kept.trans (asks_silent rfl rfl rfl)
  | watched =>
      rw [setRoster_eq]
      exact kept.trans (asks_silent rfl (LogEntry.relayRequests_rosterEntries _ _) rfl)
  | broken => exact kept.ended _ _ _
  | lost => exact (kept.noted (stages _)).ended _ _ _
  | reportedLost => exact ((kept.described _ _ _ _).noted (stages _)).ended _ _ _

/-- What happens apart from answers keeps account of the requests. -/
theorem asks_of_move {now : Instant} {occurrence : Occurrence}
    (move : phone.Move now occurrence after) (other : occurrence.isAnswer = false) :
    phone.Asks after := by
  have still {call : Option (Call ε)} : phone.Asks { phone with call := call } := asks_still rfl rfl
  cases move with
  | still | plugged | held => exact asks_still rfl rfl
  | refreshed is | resumed is => simp [is, Occurrence.isAnswer] at other
  | @rang membership signal invite =>
      refine ⟨_, (List.append_assoc ..).trans (List.append_assoc ..), ?_⟩
      rw [LogEntry.relayRequests_append, LogEntry.relayRequests_phaseEntries]
      simp only [ringing]
      cases phone.refreshing <;> cases phone.relay.isFresh now <;> rfl
  | @dialed membership callee after _ _ _ _ starts =>
      have dials : phone.Asks (phone.dialing now membership callee) :=
        asks_silent rfl (LogEntry.relayRequests_phaseEntries _ _) rfl
      exact dials.trans (asks_of_starts starts)
  | accepted _ _ _ _ _ starts => exact (still.noted rfl).trans (asks_of_starts starts)
  | @ended call entries ending cause current ends =>
      have told : LogEntry.relayRequests entries = 0 := by cases ends <;> rfl
      exact ((asks_still rfl rfl).noted told).ended _ _ _
  | gathered _ _ _ _ settles | answered _ _ _ _ _ settles =>
      exact still.trans (asks_of_settles settles)
  | handed | renegotiated | toggled => exact Asks.keep (asks_still rfl rfl) _ _
  | muted =>
      refine (Asks.keep (asks_still rfl rfl) _ _).noted ?_
      split <;> rfl
  | reacted _ _ _ _ reacts => exact asks_of_reacts reacts

/-- An answer asks for nothing, and no other answer is due after it. -/
theorem silent_of_answer (coherent : phone.Coherent) (now : Instant)
    (outcome : Except String Relay.Grant) :
    (phone.after now (.relayRefreshed outcome)).refreshing = false ∧
      LogEntry.relayRequests (written phone (phone.after now (.relayRefreshed outcome))) = 0 := by
  have settled : (phone.after now (.relayRefreshed outcome)).refreshing = false :=
    refreshing_relayRefreshed now outcome
  have asks : (phone.refreshed now outcome).Asks (phone.after now (.relayRefreshed outcome)) := by
    rcases relayRefreshed_cases coherent now outcome with
      ⟨-, answered⟩ | ⟨call, side, -, -, opens⟩
    · rw [after, handle, answered]
      exact asks_still rfl rfl
    · have still : (phone.refreshed now outcome).Asks
          { phone.refreshed now outcome with call := some { call with deferred := none } } :=
        asks_still rfl rfl
      exact still.trans (asks_of_opens opens)
  rcases asks with ⟨entries, log, balance⟩
  have told : written phone (phone.after now (.relayRefreshed outcome)) = entries := written_eq log
  rw [settled] at balance
  rw [told]
  exact ⟨settled, balance⟩

/-- A phone whose owner answers requests for relay credentials, each at most once and at any later
time, with its chronicle and the number of answers so far. -/
inductive Served : Phone ε → Chronicle → Nat → Prop where
  | new {phone : Phone ε} (new : phone.IsNew) : Served phone {} 0
  | after {phone : Phone ε} {chronicle : Chronicle} {answers : Nat}
      (served : Served phone chronicle answers) (now : Instant) (occurrence : Occurrence)
      (other : occurrence.isAnswer = false) :
      Served (phone.after now occurrence) (chronicle.next phone now occurrence) answers
  /-- A request that is open is answered. -/
  | answered {phone : Phone ε} {chronicle : Chronicle} {answers : Nat}
      (served : Served phone chronicle answers)
      (due : answers < LogEntry.relayRequests chronicle.entries) (now : Instant)
      (outcome : Except String Relay.Grant) :
      Served (phone.after now (.relayRefreshed outcome))
        (chronicle.next phone now (.relayRefreshed outcome)) (answers + 1)
  /-- The owner takes entries off the log. -/
  | read {phone : Phone ε} {chronicle : Chronicle} {answers : Nat}
      (served : Served phone chronicle answers) (rest : List LogEntry) :
      Served { phone with log := rest } chronicle answers

variable {chronicle : Chronicle} {answers : Nat}

/-- A phone whose requests are answered has lived. -/
theorem lived_of_served (served : Served phone chronicle answers) : phone.Lived chronicle := by
  induction served with
  | new new => exact .new new
  | after served now occurrence other lived => exact lived.after now occurrence
  | answered served due now outcome lived => exact lived.after now (.relayRefreshed outcome)
  | read served rest lived => exact lived.read rest

/-- At most one request is open, and the phone waits for an answer exactly if one is. -/
theorem relayRequests_of_served (served : Served phone chronicle answers) :
    LogEntry.relayRequests chronicle.entries = answers + phone.refreshing.toNat := by
  induction served with
  | new new => simp [new.refreshing]
  | @after phone chronicle answers served now occurrence other ih =>
      have move := move_after (coherent_of_lived (lived_of_served served)) now occurrence
      rcases asks_of_move move other with ⟨entries, log, balance⟩
      rw [entries_next, written_eq log, LogEntry.relayRequests_append, ih]
      omega
  | @answered phone chronicle answers served due now outcome ih =>
      have coherent := coherent_of_lived (lived_of_served served)
      rcases silent_of_answer coherent now outcome with ⟨settled, silent⟩
      rw [entries_next, LogEntry.relayRequests_append, silent, settled]
      -- An answer is due only if the phone waits for one.
      rw [ih] at due ⊢
      cases waits : phone.refreshing with
      | false => simp [waits] at due
      | true => rfl
  | read served rest ih => exact ih

end Phone

end RoomCall
