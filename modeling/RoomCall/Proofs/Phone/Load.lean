import RoomCall.Proofs.Negotiation.Load
import RoomCall.Proofs.Phone.Sending

/-!
# What is still to come of a phone

The loads of callbacks go on to phones. What a phone hears weighs more than everything that comes of
it: an invite more than the timer and the request for relay credentials, an answer more than what
the engine makes of it. What a phone sends is heard twice. A call is weighed with its own end, and a
call that waits for relay credentials with all that its negotiation may lead to once it is open.
-/

namespace RoomCall

open Engine (Scripted)

/-! ## Messages and orders -/

/-- The load of a message. -/
def Message.load (width : Nat) : Message → Nat
  | .invite _ => 8
  | .candidates _ | .answer _ => 4
  | .negotiate content =>
      DescriptionKind.load width (if content.isAnswer then .answer else .offer)
  | .hangup _ => 1

/-- Every message leaves something to do. -/
theorem Message.load_pos (width : Nat) (message : Message) : 0 < message.load width := by
  cases message with
  | negotiate content =>
      simp only [load]
      split <;> simp [DescriptionKind.load]
  | invite | candidates | answer | hangup => simp [load]

/-- The load of what was read: something that carries no message is only looked at. -/
def Message.readLoad (width : Nat) : Except SignalError Message → Nat
  | .ok message => message.load width
  | .error _ => 1

/-- A message that is read through checks leaves at most its own work to do. -/
theorem Message.readLoad_checked (width : Nat) (first second : Except SignalError Unit)
    (value : Message) :
    readLoad width (do first; second; return value) ≤ value.load width := by
  cases first with
  | error _ => exact value.load_pos width
  | ok =>
      cases second with
      | error _ => exact value.load_pos width
      | ok => exact Nat.le_refl _

/-- The load of an event that waits to be heard. -/
def TimelineEvent.load (width : Nat) (event : TimelineEvent) : Nat :=
  Message.readLoad width ((Signal.ofEvent event).map Signal.message)

/-- The load of an event that is ready to be sent, once it is in a room. -/
def OutgoingSignal.load (width : Nat) (signal : OutgoingSignal) : Nat :=
  Message.readLoad width (Message.read signal.kind signal.content)

theorem TimelineEvent.load_posted (width : Nat) (signal : OutgoingSignal) (id : EventId)
    (user : UserId) (now : Instant) :
    load width ⟨id, signal.kind.eventType, user, now, signal.content⟩ = signal.load width := by
  rw [load, OutgoingSignal.load, Signal.ofEvent_of_kind]
  cases Message.read signal.kind signal.content <;> rfl

/-- The load of an order. What is sent reaches both devices. -/
def Errand.load (width : Nat) : Errand → Nat
  | .send _ signal => 2 * signal.load width + 1
  | .refreshRelay => 2
  | .armTimer _ _ | .cancelTimer => 1

section

variable (width : Nat) (style : SignalStyle) (names : Supply) (call : CallId) (party : PartyId)

/-- Whoever reads an invite has at most the work of an invite, whatever the description. -/
theorem OutgoingSignal.load_invite (lifetime : Duration) (description : String) :
    (style.invite names call party lifetime description).1.load width ≤ 8 := by
  change Message.readLoad width (Message.read .invite _) ≤ 8
  rw [Message.read_invite]
  exact Message.readLoad_checked width _ _ _

theorem OutgoingSignal.load_answer (description : String) :
    (style.answer names call party description).1.load width ≤ 4 := by
  change Message.readLoad width (Message.read .answer _) ≤ 4
  rw [Message.read_answer]
  exact Message.readLoad_checked width _ _ _

theorem OutgoingSignal.load_negotiate (lifetime : Duration) (description : String)
    (kind : DescriptionKind) :
    (style.negotiate names call party lifetime description kind).1.load width ≤
      kind.load width := by
  change Message.readLoad width (Message.read .negotiate _) ≤ kind.load width
  rw [Message.read_negotiate]
  refine Nat.le_trans (Message.readLoad_checked width _ _ _) (Nat.le_of_eq ?_)
  cases kind <;> rfl

theorem OutgoingSignal.load_candidates (found : List Candidate) :
    (style.candidates call party found).load width ≤ 4 := by
  change Message.readLoad width (Message.read .candidates _) ≤ 4
  rw [Message.read_candidates]
  split
  · exact Message.readLoad_checked width (Message.checkCall .candidates call) (.ok ()) _
  · exact Nat.le_add_left 1 3

theorem OutgoingSignal.load_hangup (cause : Option HangupCause) :
    (style.hangup call party cause).load width ≤ 1 := by
  change Message.readLoad width (Message.read .hangup _) ≤ 1
  rw [Message.read_hangup]
  exact Message.readLoad_checked width (Message.checkCall .hangup call) (.ok ()) _

end

/-! ## The log and the call -/

namespace LogEntry

/-- The load of a log entry: orders are still to be carried out, and callbacks to be handed over. -/
def load (width : Nat) : LogEntry → Nat
  | .errand content => content.load width
  | .announcement _ => 0
  | .traffic _ content => content.load width

/-- The load of all that a phone has written. -/
def loads (width : Nat) (entries : List LogEntry) : Nat :=
  (entries.map (load width)).sum

variable {width : Nat}

@[simp]
theorem loads_nil : loads width [] = 0 := rfl

@[simp]
theorem loads_cons (entry : LogEntry) (later : List LogEntry) :
    loads width (entry :: later) = entry.load width + loads width later := by
  simp [loads]

@[simp]
theorem loads_append (first second : List LogEntry) :
    loads width (first ++ second) = loads width first + loads width second := by
  simp [loads]

@[simp]
theorem loads_traffic (session : SessionId) (contents : List Traffic) :
    loads width (contents.map (LogEntry.traffic session)) = Traffic.loads width contents := by
  rw [loads, Traffic.loads, List.map_map]
  rfl

theorem loads_announcement (content : Announcement) :
    loads width [.announcement content] = 0 := rfl

theorem loads_of_idle {entries : List LogEntry} (idle : ∀ entry ∈ entries, entry.load width = 0) :
    loads width entries = 0 := by
  induction entries with
  | nil => rfl
  | cons entry later ih =>
      rw [loads_cons, idle entry List.mem_cons_self,
        ih fun other there => idle other (List.mem_cons_of_mem entry there)]

@[simp]
theorem loads_stageEntries (notices : List Notice) : loads width (stageEntries notices) = 0 :=
  loads_of_idle (forall_mem_stageEntries (fun _ => rfl) notices)

@[simp]
theorem loads_phaseEntries (before after : Phase) : loads width (phaseEntries before after) = 0 :=
  loads_of_idle (forall_mem_phaseEntries (fun _ => rfl) before after)

@[simp]
theorem loads_rosterEntries (before after : Roster) :
    loads width (rosterEntries before after) = 0 :=
  loads_of_idle (forall_mem_rosterEntries (P := fun entry => entry.load width = 0) rfl before after)

end LogEntry

/-- The load of a call: its end, its negotiation, and the negotiation that it waits to open. -/
def Call.load (width : Nat) (call : Call Scripted) : Nat :=
  4 + (if call.deferred.isSome then 6 * width + 82 else 0) +
    call.negotiation.elim 0 (Negotiation.load width)

namespace Phone

/-- The load of a phone: its log that was not read, and its call. -/
def load (width : Nat) (phone : Phone Scripted) : Nat :=
  LogEntry.loads width phone.log + phone.call.elim 0 (Call.load width)

/-- The engine that works for a phone has few candidates, and so has the next one if a call waits
for it. -/
structure Narrow (width : Nat) (phone : Phone Scripted) : Prop where
  current : ∀ call negotiation, phone.call = some call → call.negotiation = some negotiation →
    negotiation.engine.Narrow width
  next : ∀ call, phone.call = some call → call.deferred.isSome = true →
    (phone.maker.make phone.nextSession).Narrow width

/-- What a part of a phone's handling costs: the load grows by no more than that, and the engines
stay as narrow as they were. -/
def Costs (width cost : Nat) (phone after : Phone Scripted) : Prop :=
  phone.Narrow width → after.Narrow width ∧ after.load width ≤ phone.load width + cost

/-- Hearing something uses up its load. -/
def Spends (width load : Nat) (phone after : Phone Scripted) : Prop :=
  phone.Narrow width → after.Narrow width ∧ after.load width < phone.load width + load

variable {width cost more : Nat} {phone before after : Phone Scripted} {call : Call Scripted}
  {negotiation : Negotiation Scripted}

/-- The costs of two steps add up. -/
theorem Costs.trans (first : Costs width cost phone before) (second : Costs width more before after) :
    Costs width (cost + more) phone after := by
  intro narrow
  obtain ⟨stillNarrow, firstLoad⟩ := first narrow
  obtain ⟨narrowAtLast, secondLoad⟩ := second stillNarrow
  exact ⟨narrowAtLast, by omega⟩

theorem Costs.mono (costs : Costs width cost phone after) (within : cost ≤ more) :
    Costs width more phone after := by
  intro narrow
  obtain ⟨narrowAtLast, load⟩ := costs narrow
  exact ⟨narrowAtLast, by omega⟩

/-- What costs less than it is worth spends some of it. -/
theorem Costs.spends (costs : Costs width cost phone after) (within : cost < more) :
    Spends width more phone after := by
  intro narrow
  obtain ⟨narrowAtLast, load⟩ := costs narrow
  exact ⟨narrowAtLast, by omega⟩

/-- What is written to the log costs its load. -/
theorem costs_written {entries : List LogEntry} (call : after.call = phone.call)
    (maker : after.maker = phone.maker) (session : after.nextSession = phone.nextSession)
    (log : after.log = phone.log ++ entries) (within : LogEntry.loads width entries ≤ cost) :
    Costs width cost phone after := by
  intro narrow
  refine ⟨⟨?_, ?_⟩, ?_⟩
  · rw [call]
    exact narrow.current
  · rw [call, maker, session]
    exact narrow.next
  · rw [load, load, call, log, LogEntry.loads_append]
    omega

theorem costs_of_same (call : after.call = phone.call) (maker : after.maker = phone.maker)
    (session : after.nextSession = phone.nextSession) (log : after.log = phone.log) :
    Costs width cost phone after :=
  costs_written call maker session (log.trans (List.append_nil _).symm) (Nat.zero_le cost)

theorem costs_noted {entries : List LogEntry} (idle : LogEntry.loads width entries = 0) :
    Costs width 0 phone (phone.noted entries) :=
  costs_written rfl rfl rfl rfl (Nat.le_of_eq idle)

theorem costs_order (phone : Phone Scripted) (errand : Errand) :
    Costs width (errand.load width) phone (phone.order errand) :=
  costs_written rfl rfl rfl rfl (Nat.le_refl _)

theorem costs_announce (phone : Phone Scripted) (announcement : Announcement) :
    Costs width 0 phone (phone.announce announcement) :=
  costs_written rfl rfl rfl rfl (Nat.le_refl _)

theorem costs_setPhase (phone : Phone Scripted) (phase : Phase) :
    Costs width 0 phone (phone.setPhase phase) := by
  rw [setPhase_eq]
  exact costs_written rfl rfl rfl rfl (Nat.le_of_eq (LogEntry.loads_phaseEntries _ _))

theorem costs_setRoster (phone : Phone Scripted) (roster : Roster) :
    Costs width 0 phone (phone.setRoster roster) := by
  rw [setRoster_eq]
  exact costs_written rfl rfl rfl rfl (Nat.le_of_eq (LogEntry.loads_rosterEntries _ _))

/-! ## The call -/

/-- What a call remembers otherwise costs nothing. -/
theorem costs_recall {other : Call Scripted} (current : phone.call = some call)
    (negotiation : other.negotiation = call.negotiation)
    (deferred : other.deferred = call.deferred) :
    Costs width 0 phone { phone with call := some other } := by
  intro narrow
  refine ⟨⟨?_, ?_⟩, ?_⟩
  · rintro _ held ⟨⟩ opened
    exact narrow.current call held current (negotiation ▸ opened)
  · rintro _ ⟨⟩ waits
    exact narrow.next call current (deferred ▸ waits)
  · simp only [load, current, Option.elim_some, Call.load, negotiation, deferred]
    exact Nat.le_refl _

/-- Keeping a negotiation replaces its load. -/
theorem load_keep {other : Call Scripted} (after : Negotiation Scripted)
    (current : phone.call = some call) (opened : call.negotiation = some negotiation)
    (deferred : other.deferred = call.deferred) :
    (phone.keep other after).load width + negotiation.load width =
      phone.load width + after.load width := by
  simp only [keep_eq, load, current, Option.elim_some, Call.load, Call.keeping, opened, deferred,
    LogEntry.loads_append, LogEntry.loads_traffic, Negotiation.load, Traffic.loads, List.map_nil,
    List.sum_nil]
  omega

theorem narrow_keep {other : Call Scripted} {after : Negotiation Scripted}
    (current : phone.call = some call) (deferred : other.deferred = call.deferred)
    (narrow : phone.Narrow width) (engine : after.engine.Narrow width) :
    (phone.keep other after).Narrow width := by
  rw [keep_eq]
  refine ⟨?_, ?_⟩
  · rintro _ _ ⟨⟩ ⟨⟩
    exact engine
  · rintro _ ⟨⟩ waits
    exact narrow.next call current (deferred ▸ waits)

theorem costs_keep {other : Call Scripted} {after : Negotiation Scripted}
    (costs : Negotiation.Costs width cost negotiation after)
    (current : phone.call = some call) (opened : call.negotiation = some negotiation)
    (deferred : other.deferred = call.deferred) :
    Costs width cost phone (phone.keep other after) := by
  intro narrow
  obtain ⟨engine, within⟩ := costs (narrow.current call negotiation current opened)
  have kept : (phone.keep other after).load width + negotiation.load width =
      phone.load width + after.load width := load_keep after current opened deferred
  exact ⟨narrow_keep current deferred narrow engine, by omega⟩

/-- The end of a call was weighed with it. -/
theorem loads_farewell (current : phone.call = some call) (narrow : phone.Narrow width)
    (ending : Ending) (cause : Option HangupCause) :
    LogEntry.loads width (phone.farewell call ending cause) ≤ call.load width := by
  have down : LogEntry.loads width (call.negotiation.elim [] teardownEntries) ≤
      call.negotiation.elim 0 (Negotiation.load width) := by
    cases opened : call.negotiation with
    | none => exact Nat.le_refl _
    | some negotiation =>
        obtain ⟨_, finished⟩ :=
          Negotiation.costs_finish negotiation (narrow.current call negotiation current opened)
        simp only [Option.elim_some, teardownEntries, LogEntry.loads_append,
          LogEntry.loads_traffic, LogEntry.loads_stageEntries]
        rw [Negotiation.load] at finished
        omega
  have told : LogEntry.loads width (cause.toList.map fun cause =>
      .errand (.send call.room (phone.style.hangup call.id call.party (some cause)))) ≤ 3 := by
    cases cause with
    | none => exact Nat.zero_le _
    | some cause =>
        have hangup := OutgoingSignal.load_hangup width phone.style call.id call.party (some cause)
        simp only [Option.toList_some, List.map_cons, List.map_nil, LogEntry.loads_cons,
          LogEntry.loads_nil, LogEntry.load, Errand.load]
        omega
  simp only [farewell, LogEntry.loads_append, LogEntry.loads_cons, LogEntry.loads_nil,
    LogEntry.loads_rosterEntries, LogEntry.loads_phaseEntries, LogEntry.load, Errand.load,
    Call.load]
  omega

theorem costs_ended (current : phone.call = some call) (ending : Ending)
    (cause : Option HangupCause) : Costs width 0 phone (phone.ended call ending cause) := by
  intro narrow
  have farewell := loads_farewell current narrow ending cause
  refine ⟨⟨?_, ?_⟩, ?_⟩
  · rintro _ _ ⟨⟩
  · rintro _ ⟨⟩
  · simp only [load, ended, LogEntry.loads_append, Option.elim_none, current, Option.elim_some]
    omega

/-- To end a call costs nothing. -/
theorem costs_endCall (phone : Phone Scripted) (ending : Ending) (cause : Option HangupCause) :
    Costs width 0 phone (phone.endCall ending cause) := by
  cases current : phone.call with
  | none =>
      rw [endCall_none current]
      exact costs_of_same rfl rfl rfl rfl
  | some call =>
      rw [endCall_eq current]
      exact costs_ended current ending cause

/-! ## Notices -/

/-- A signal is paid for twice, since both devices may hear it, and once more for being sent. -/
theorem costs_sendSignal (call : Call Scripted) {signal : OutgoingSignal}
    (within : signal.load width ≤ cost) :
    Costs width (2 * cost + 1) phone (phone.sendSignal call signal) :=
  (costs_order phone (.send call.room signal)).mono
    (Nat.succ_le_succ (Nat.mul_le_mul_left 2 within))

theorem costs_sendInvite (phone : Phone Scripted) (call : Call Scripted) (offer : String)
    (candidates : List Candidate) :
    Costs width 27 phone (phone.sendInvite call offer candidates) := by
  have invite := OutgoingSignal.load_invite width phone.style phone.streamNames call.id call.party
    phone.inviteLifetime offer
  have batch := OutgoingSignal.load_candidates width phone.style call.id call.party candidates
  have named : Costs width 0 phone { phone with streamNames :=
      (phone.style.invite phone.streamNames call.id call.party phone.inviteLifetime offer).2 } :=
    costs_of_same rfl rfl rfl rfl
  exact (((named.trans (costs_sendSignal call invite)).trans (costs_sendSignal call batch)).trans
    (costs_order _ (.armTimer call.id phone.inviteLifetime))).trans (costs_setRoster _ _)

theorem costs_sendAnswer (phone : Phone Scripted) (call : Call Scripted) (answer : String)
    (candidates : List Candidate) :
    Costs width 18 phone (phone.sendAnswer call answer candidates) := by
  have signal := OutgoingSignal.load_answer width phone.style phone.streamNames call.id call.party
    answer
  have batch := OutgoingSignal.load_candidates width phone.style call.id call.party candidates
  have named : Costs width 0 phone { phone with streamNames :=
      (phone.style.answer phone.streamNames call.id call.party answer).2 } :=
    costs_of_same rfl rfl rfl rfl
  exact (((named.trans (costs_sendSignal call signal)).trans (costs_sendSignal call batch)).trans
    (costs_setPhase _ .active)).trans (costs_setRoster _ _)

theorem costs_sendNegotiate (phone : Phone Scripted) (call : Call Scripted) (description : String)
    (kind : DescriptionKind) :
    Costs width (2 * kind.load width + 1) phone (phone.sendNegotiate call description kind) := by
  have signal := OutgoingSignal.load_negotiate width phone.style phone.streamNames call.id
    call.party phone.inviteLifetime description kind
  have named : Costs width 0 phone { phone with streamNames :=
      (phone.style.negotiate phone.streamNames call.id call.party phone.inviteLifetime description
        kind).2 } :=
    costs_of_same rfl rfl rfl rfl
  exact (named.trans (costs_sendSignal call signal)).mono (Nat.le_of_eq (Nat.zero_add _))

theorem costs_applyNotice (phone : Phone Scripted) (call : Call Scripted) (notice : Notice) :
    Costs width (notice.load width) phone (phone.applyNotice call notice) := by
  cases notice with
  | offerCreated offer candidates => exact costs_sendInvite phone call offer candidates
  | answerCreated answer candidates =>
      exact (costs_sendAnswer phone call answer candidates).mono (by simp [Notice.load])
  | renegotiate description kind => exact costs_sendNegotiate phone call description kind
  | progressChanged stage => exact costs_announce phone (.progressChanged stage)
  | remoteVideo user => exact costs_setRoster phone _
  | failed ending => exact costs_endCall phone ending _

/-- The notices of a negotiation cost what is counted for them. -/
theorem costs_applyNotices (phone : Phone Scripted) (notices : List Notice) :
    Costs width (Notice.loads width notices) phone (phone.applyNotices notices) := by
  induction notices generalizing phone with
  | nil => exact costs_of_same rfl rfl rfl rfl
  | cons notice later ih =>
      cases current : phone.call with
      | none =>
          simp only [applyNotices, current]
          exact costs_of_same rfl rfl rfl rfl
      | some call =>
          rw [applyNotices_cons current, Notice.loads_cons]
          exact (costs_applyNotice phone call notice).trans (ih _)

/-! ## Opening a negotiation -/

/-- What the opening of a negotiation leads to is what a call that waits for it was weighed with. -/
theorem costs_opening (call : Call Scripted) (side : Role)
    (narrow : (phone.maker.make phone.nextSession).Narrow width) :
    (phone.opening call side).1.engine.Narrow width ∧
      (phone.opening call side).1.load width ≤ 6 * width + 82 := by
  have fresh : Negotiation.load width
      { id := phone.nextSession, engine := phone.maker.make phone.nextSession } = 27 := rfl
  have costs : Negotiation.Costs width (6 * width + 55)
      { id := phone.nextSession, engine := phone.maker.make phone.nextSession }
      (phone.opening call side).1 := by
    cases side with
    | offering => exact Negotiation.costs_start _ _
    | answering => exact Negotiation.costs_acceptOffer _ _ _ _ _
  obtain ⟨engine, within⟩ := costs narrow
  exact ⟨engine, by omega⟩

/-- A negotiation that opens costs no more than is counted for a call that waits for it. -/
theorem costs_opens {side : Role} (opens : phone.Opens call side after)
    (unopened : call.deferred = none)
    (narrow : (phone.maker.make phone.nextSession).Narrow width) :
    after.Narrow width ∧ after.load width ≤ LogEntry.loads width phone.log + (6 * width + 86) := by
  obtain ⟨engine, within⟩ := costs_opening call side narrow
  -- The call waits for nothing any more, so the next engine need not be narrow.
  have waits : (call.handOver side).deferred = none := by cases side <;> exact unopened
  have kept : Narrow width ({ phone with nextSession := phone.nextSession + 1 }.keep
      (call.handOver side) (phone.opening call side).1) := by
    refine ⟨?_, ?_⟩
    · rintro _ _ ⟨⟩ ⟨⟩
      exact engine
    · rintro _ ⟨⟩ other
      simp [waits] at other
  have load : load width ({ phone with nextSession := phone.nextSession + 1 }.keep
      (call.handOver side) (phone.opening call side).1) ≤
        LogEntry.loads width phone.log + (6 * width + 86) := by
    simp only [Negotiation.load] at within
    simp only [keep_eq, load, Option.elim_some, Call.load, Call.keeping, waits,
      LogEntry.loads_append, LogEntry.loads_traffic, Negotiation.load, Traffic.loads,
      List.map_nil, List.sum_nil, Option.isSome_none, Bool.false_eq_true, if_false] at within ⊢
    omega
  cases opens with
  | opened opened id outcome =>
      rw [outcome] at kept load
      obtain ⟨narrowAtLast, grown⟩ := costs_noted (LogEntry.loads_stageEntries _) kept
      exact ⟨narrowAtLast, Nat.le_trans grown load⟩
  | refused id outcome =>
      rw [outcome] at kept load
      obtain ⟨stillNarrow, told⟩ := costs_noted (LogEntry.loads_announcement _) kept
      obtain ⟨narrowAtLast, grown⟩ := costs_ended rfl _ _ stillNarrow
      exact ⟨narrowAtLast, Nat.le_trans grown (Nat.le_trans told load)⟩

/-- A call that waits no longer weighs no more. -/
theorem costs_unopened (current : phone.call = some call) :
    Costs width 0 phone { phone with call := some { call with deferred := none } } := by
  intro narrow
  refine ⟨⟨?_, ?_⟩, ?_⟩
  · rintro _ held ⟨⟩ opened
    exact narrow.current call held current opened
  · rintro _ ⟨⟩ ⟨⟩
  · simp only [load, current, Option.elim_some, Call.load, Option.isSome_none, Bool.false_eq_true,
      if_false]
    omega

/-- A call that opens the negotiation that it waited for was weighed with it. -/
theorem costs_opened (current : phone.call = some call) (waits : call.deferred.isSome = true)
    (side : Role) :
    Costs width 0 phone
      (openNegotiation { phone with call := some { call with deferred := none } } side) := by
  intro narrow
  have opens : Opens { phone with call := some { call with deferred := none } }
      { call with deferred := none } side (openNegotiation _ side) :=
    opens_openNegotiation rfl side
  obtain ⟨narrowAtLast, within⟩ := costs_opens opens rfl (narrow.next call current waits)
  refine ⟨narrowAtLast, Nat.le_trans within ?_⟩
  simp only [load, current, Option.elim_some, Call.load, waits, if_true]
  omega

/-- Going on without waiting any longer costs nothing. -/
theorem costs_resume (phone : Phone Scripted) : Costs width 0 phone phone.resume := by
  cases current : phone.call with
  | none =>
      simp only [resume, current]
      exact costs_of_same rfl rfl rfl rfl
  | some call =>
      simp only [resume, current]
      split
      · rename_i deferred outgoing
        exact costs_opened current (by rw [deferred]; rfl) .offering
      · rename_i deferred incoming
        exact costs_opened current (by rw [deferred]; rfl) .answering
      · exact costs_unopened current

theorem costs_relayRefreshed (phone : Phone Scripted) (now : Instant)
    (outcome : Except String Relay.Grant) :
    Costs width 0 phone (phone.relayRefreshed now outcome) := by
  unfold relayRefreshed
  cases outcome with
  | ok grant =>
      have granted : Costs width 0 phone { phone with
          refreshing := false, relay := phone.relay.update grant now } :=
        costs_of_same rfl rfl rfl rfl
      exact granted.trans (costs_resume _)
  | error message =>
      have refused : Costs width 0 phone { phone with refreshing := false } :=
        costs_of_same rfl rfl rfl rfl
      exact refused.trans (costs_resume _)

/-! ## Hearing messages -/

/-- An invite leads to a call, its timer and perhaps a request for relay credentials. -/
theorem costs_ringing (idle : phone.call = none) (now : Instant) (membership : Membership)
    (sender : UserId) (invite : Invite) :
    Costs width 7 phone (phone.ringing now membership sender invite) := by
  intro _
  refine ⟨⟨?_, ?_⟩, ?_⟩
  · rintro _ _ ⟨⟩ ⟨⟩
  · rintro _ ⟨⟩ ⟨⟩
  · have asked : LogEntry.loads width
        (if phone.relay.isFresh now || phone.refreshing then [] else [.errand .refreshRelay]) ≤
          2 := by
      split
      · exact Nat.zero_le _
      · exact Nat.le_refl _
    simp only [load, ringing, ringingCall, idle, Option.elim_none, Option.elim_some, Call.load,
      LogEntry.loads_append, LogEntry.loads_phaseEntries, LogEntry.loads_cons, LogEntry.loads_nil,
      LogEntry.load, Errand.load, Option.isSome_none, Bool.false_eq_true, if_false]
    omega

/-- To hear an invite costs less than is counted for its message. -/
theorem costs_hearInvite (idle : phone.call = none) (now : Instant) (membership : Membership)
    (signal : Signal) (invite : Invite) :
    Costs width 7 phone
      (phone.hearInvite now membership signal.sender signal.sentAt invite) := by
  by_cases refused : signal.sender = membership.localUser ∨
      phone.isStale now signal.sentAt invite = true
  · have same : phone.hearInvite now membership signal.sender signal.sentAt invite = phone := by
      simp [hearInvite, refused]
    rw [same]
    exact costs_of_same rfl rfl rfl rfl
  · rw [not_or, Bool.not_eq_true] at refused
    rw [hearInvite_eq refused.1 refused.2]
    exact costs_ringing idle now membership signal.sender invite

theorem costs_hearOwnDevice (phone : Phone Scripted) (call : Call Scripted) (message : Message) :
    Costs width 0 phone (phone.hearOwnDevice call message) := by
  cases message with
  | answer content =>
      unfold hearOwnDevice
      dsimp only
      split
      · exact (costs_announce phone _).trans (costs_endCall _ _ _)
      · exact costs_of_same rfl rfl rfl rfl
  | hangup content => exact costs_endCall phone _ _
  | invite | candidates | negotiate => exact costs_of_same rfl rfl rfl rfl

/-- An answer that can be applied is handed to the engine, and the timer is called off. -/
theorem costs_applyAnswer (current : phone.call = some call)
    (opened : call.negotiation = some negotiation) (answer : String) :
    Costs width 3 phone (phone.applyAnswer call negotiation answer) := by
  have applied : Costs width 2 phone (phone.keep call.emptied
      (negotiation.acceptAnswer answer (call.heldCandidates.map Prod.snd) call.remoteUser).1) :=
    costs_keep (Negotiation.costs_acceptAnswer _ _ _ _) current opened rfl
  unfold applyAnswer
  dsimp only
  split
  · exact (applied.trans (costs_order _ .cancelTimer)).trans (costs_setPhase _ .active)
  · exact (applied.trans (costs_endCall _ _ _)).mono (by omega)

theorem costs_tryAnswer (phone : Phone Scripted) : Costs width 3 phone phone.tryAnswer := by
  have still : Costs width 3 phone phone := costs_of_same rfl rfl rfl rfl
  unfold tryAnswer
  split
  · rename_i call outgoing current
    split
    · rename_i answer negotiation answered opened
      split
      · exact costs_applyAnswer current opened answer
      · exact still
    · exact still
  · exact still

theorem costs_hearCandidates (current : phone.call = some call) (batch : CandidateBatch) :
    Costs width 3 phone (phone.hearCandidates call batch) := by
  unfold hearCandidates
  dsimp only
  split
  · rename_i negotiation live
    have opened := (Option.filter_eq_some_iff.mp live).1
    exact (costs_keep (negotiation.costs_acceptCandidates batch.candidates) current opened
      rfl).mono (Nat.zero_le 3)
  · have held : Costs width 0 phone { phone with call := some (call.holding batch) } :=
      costs_recall current rfl rfl
    split
    · exact held.trans (costs_tryAnswer _)
    · exact held.mono (Nat.zero_le 3)

theorem costs_hearAnswer (current : phone.call = some call) (answer : Answer) :
    Costs width 3 phone (phone.hearAnswer call answer) := by
  unfold hearAnswer
  split
  · exact costs_of_same rfl rfl rfl rfl
  · have held : Costs width 0 phone { phone with call := some (call.answeredBy answer) } := by
      unfold Call.answeredBy
      cases answer.party <;> exact costs_recall current rfl rfl
    exact held.trans (costs_tryAnswer _)

/-- A further description costs what is counted for the engine's reply to it. -/
theorem costs_hearNegotiate (current : phone.call = some call) (content : Renegotiation) :
    Costs width (if content.isAnswer then 2 else width + 11) phone
      (phone.hearNegotiate call content) := by
  have still : Costs width (if content.isAnswer then 2 else width + 11) phone phone :=
    costs_of_same rfl rfl rfl rfl
  unfold hearNegotiate
  cases opened : call.negotiation with
  | none => cases phone.phase <;> exact still
  | some negotiation =>
      cases phone.phase with
      | active => exact costs_keep (negotiation.costs_renegotiate _ _ _) current opened rfl
      | idle | outgoing | incoming => exact still

/-- What the other side says is used up when it is heard. -/
theorem spends_hearRemote (current : phone.call = some call) (message : Message) :
    Spends width (message.load width) phone (phone.hearRemote call message) := by
  cases message with
  | invite content =>
      have still : Costs width 0 phone phone := costs_of_same rfl rfl rfl rfl
      exact still.spends (Nat.zero_lt_succ 7)
  | candidates content => exact (costs_hearCandidates current content).spends (Nat.lt_succ_self 3)
  | answer content => exact (costs_hearAnswer current content).spends (Nat.lt_succ_self 3)
  | negotiate content =>
      refine (costs_hearNegotiate current content).spends ?_
      simp only [Message.load]
      split
      · exact Nat.lt_succ_self 2
      · exact Nat.lt_succ_self (width + 11)
  | hangup content => exact (costs_endCall phone _ _).spends Nat.zero_lt_one

/-- To hear a signal costs less than is counted for its message. -/
theorem spends_hear (phone : Phone Scripted) (now : Instant) (membership : Membership)
    (signal : Signal) :
    Spends width (signal.message.load width) phone (phone.hear now membership signal) := by
  have still : Spends width (signal.message.load width) phone phone :=
    Costs.spends (costs_of_same rfl rfl rfl rfl) (signal.message.load_pos width)
  unfold hear
  split
  · rename_i call current
    unfold hearInCall
    split
    · exact still
    · split
      · exact still
      · exact (costs_hearOwnDevice phone call signal.message).spends
          (signal.message.load_pos width)
      · split
        · exact still
        · exact spends_hearRemote current signal.message
  · rename_i idle
    split
    · rename_i invite message
      rw [message]
      exact (costs_hearInvite idle now membership signal invite).spends (Nat.lt_succ_self 7)
    · exact still

/-- What comes of an event weighs less than the event. -/
theorem spends_hearEvent (phone : Phone Scripted) (now : Instant) (membership : Membership)
    (event : TimelineEvent) :
    Spends width (event.load width) phone (phone.hearEvent now membership event) := by
  unfold hearEvent TimelineEvent.load
  split
  · rename_i signal carried
    rw [carried]
    exact spends_hear phone now membership signal
  · rename_i fault carried
    rw [carried]
    exact Costs.spends (costs_of_same rfl rfl rfl rfl) Nat.zero_lt_one

/-! ## Hearing the engine -/

/-- What comes of a callback weighs less than the callback. -/
theorem spends_hearEngine (phone : Phone Scripted) (session : SessionId)
    (callback : Engine.Callback) :
    Spends width (callback.load width) phone (phone.hearEngine session callback) := by
  have still : Spends width (callback.load width) phone phone :=
    Costs.spends (costs_of_same rfl rfl rfl rfl) (callback.load_pos width)
  cases current : phone.call with
  | none => simpa [hearEngine, current] using still
  | some call =>
      cases opened : call.negotiation with
      | none => simpa [hearEngine, negotiation?, current, opened] using still
      | some negotiation =>
          by_cases same : negotiation.id = session
          · subst same
            rw [hearEngine_eq current opened]
            intro narrow
            -- The callback pays for the negotiation and the notices, these for what is sent.
            obtain ⟨engine, spent⟩ := negotiation.spends_handle callback
              (narrow.current call negotiation current opened)
            have kept : (phone.keep call (negotiation.handle callback).1).load width +
                negotiation.load width =
                  phone.load width + (negotiation.handle callback).1.load width :=
              load_keep _ current opened rfl
            obtain ⟨narrowAtLast, acted⟩ := costs_applyNotices
              (phone.keep call (negotiation.handle callback).1) (negotiation.handle callback).2
              (narrow_keep current rfl narrow engine)
            exact ⟨narrowAtLast, by omega⟩
          · simpa [hearEngine, negotiation?, current, opened, same] using still

end Phone

end RoomCall
