import RoomCall.Proofs.Phone.Coherence
import RoomCall.Proofs.Signal.RoundTrip

/-!
# What a phone sends

Apart from hangups, everything that a phone sends is about the call that it has, goes to the room of
that call and names the call and this device's party in it. An invite only leaves a phone that has
started the call, and an answer only one on which it rang.
-/

namespace RoomCall

variable {ε : Type}

namespace LogEntry

/-- What is sent among some entries, with the rooms that it is sent to. -/
def sends (entries : List LogEntry) : List (RoomId × OutgoingSignal) :=
  entries.filterMap fun entry =>
    match entry with
    | .errand (.send room signal) => some (room, signal)
    | _ => none

@[simp]
theorem sends_nil : sends [] = [] := rfl

@[simp]
theorem sends_append (first second : List LogEntry) :
    sends (first ++ second) = sends first ++ sends second :=
  List.filterMap_append

@[simp]
theorem sends_send (room : RoomId) (signal : OutgoingSignal) (later : List LogEntry) :
    sends (.errand (.send room signal) :: later) = (room, signal) :: sends later := rfl

@[simp]
theorem sends_cancelTimer (later : List LogEntry) :
    sends (.errand .cancelTimer :: later) = sends later := rfl

@[simp]
theorem sends_armTimer (call : CallId) (lifetime : Duration) (later : List LogEntry) :
    sends (.errand (.armTimer call lifetime) :: later) = sends later := rfl

@[simp]
theorem sends_refreshRelay (later : List LogEntry) :
    sends (.errand .refreshRelay :: later) = sends later := rfl

@[simp]
theorem sends_announcement (content : Announcement) (later : List LogEntry) :
    sends (.announcement content :: later) = sends later := rfl

@[simp]
theorem sends_traffic (session : SessionId) (contents : List Traffic) :
    sends (contents.map (LogEntry.traffic session)) = [] := by
  simp [sends]

@[simp]
theorem sends_stageEntries (notices : List Notice) : sends (stageEntries notices) = [] :=
  List.filterMap_eq_nil_iff.mpr (forall_mem_stageEntries (fun _ => rfl) _)

@[simp]
theorem sends_phaseEntries (before after : Phase) : sends (phaseEntries before after) = [] :=
  List.filterMap_eq_nil_iff.mpr (forall_mem_phaseEntries (fun _ => rfl) _ _)

@[simp]
theorem sends_rosterEntries (before after : Roster) : sends (rosterEntries before after) = [] := by
  apply List.filterMap_eq_nil_iff.mpr
  apply forall_mem_rosterEntries
  rfl

/-- At its end a call sends a hangup if there is a cause to give, and nothing else. -/
theorem sends_farewell [MediaEngine ε] (phone : Phone ε) (call : Call ε) (ending : Ending)
    (cause : Option HangupCause) :
    sends (phone.farewell call ending cause) = cause.toList.map fun cause =>
      (call.room, phone.style.hangup call.id call.party (some cause)) := by
  have quiet : sends (call.negotiation.elim [] Phone.teardownEntries) = [] := by
    cases call.negotiation <;> simp [Phone.teardownEntries]
  cases cause <;> simp [Phone.farewell, quiet]

theorem kind_of_sends_farewell [MediaEngine ε] {phone : Phone ε} {call : Call ε} {ending : Ending}
    {cause : Option HangupCause} {sent : RoomId × OutgoingSignal}
    (there : sent ∈ sends (phone.farewell call ending cause)) : sent.2.kind = .hangup := by
  rw [sends_farewell, List.mem_map] at there
  rcases there with ⟨cause, -, rfl⟩
  rfl

end LogEntry

namespace Phone

/-- What a phone says about a call: it goes out under the names of the call, and what it may say
depends on the phase. -/
inductive Utters (phone : Phone ε) (call : Call ε) : OutgoingSignal → Prop where
  | invite {description : String} (outgoing : phone.phase = .outgoing) :
      Utters phone call (phone.style.invite phone.streamNames call.id call.party
        phone.inviteLifetime description).1
  | answer {description : String} (incoming : phone.phase = .incoming) :
      Utters phone call (phone.style.answer phone.streamNames call.id call.party description).1
  | candidates {found : List Candidate} :
      Utters phone call (phone.style.candidates call.id call.party found)
  | negotiate {description : String} {kind : DescriptionKind} :
      Utters phone call (phone.style.negotiate phone.streamNames call.id call.party
        phone.inviteLifetime description kind).1

theorem of_checked {first second : Except SignalError Unit} {value message : Message}
    (read : (do first; second; return value) = Except.ok message) : value = message := by
  cases first with
  | error _ => cases read
  | ok =>
      cases second with
      | error _ => cases read
      | ok => exact Except.ok.inj read

/-- What can be read from something that a phone says about a call. -/
structure Names (phone : Phone ε) (call : Call ε) (message : Message) : Prop where
  named : message.call = call.id
  party : message.party = some call.party
  invite : ∀ content, message = .invite content → phone.phase = .outgoing
  answer : ∀ content, message = .answer content → phone.phase = .incoming

/-- What can be read from something that a phone says names the call and the party. -/
theorem Utters.names {phone : Phone ε} {call : Call ε} {sent : OutgoingSignal} {message : Message}
    (utters : phone.Utters call sent) (read : Message.read sent.kind sent.content = .ok message) :
    phone.Names call message := by
  cases utters with
  | invite outgoing =>
      have same := of_checked ((Message.read_invite _ _ _ _ _ _).symm.trans read)
      subst same
      exact ⟨rfl, rfl, fun _ _ => outgoing, fun _ other => nomatch other⟩
  | answer incoming =>
      have same := of_checked ((Message.read_answer _ _ _ _ _).symm.trans read)
      subst same
      exact ⟨rfl, rfl, fun _ other => (nomatch other), fun _ _ => incoming⟩
  | @candidates found =>
      have checked := (Message.read_candidates phone.style call.id call.party found).symm.trans read
      split at checked
      · have same := @of_checked _ (.ok ()) _ _ checked
        subst same
        exact ⟨rfl, rfl, fun _ other => (nomatch other), fun _ other => nomatch other⟩
      · cases checked
  | negotiate =>
      have same := of_checked ((Message.read_negotiate _ _ _ _ _ _ _).symm.trans read)
      subst same
      exact ⟨rfl, rfl, fun _ other => (nomatch other), fun _ other => nomatch other⟩

/-- What a phone may send: a hangup, or something about the call that it has. -/
def Says (phone : Phone ε) (sent : RoomId × OutgoingSignal) : Prop :=
  sent.2.kind = .hangup ∨
    ∃ call, phone.call = some call ∧ sent.1 = call.room ∧ phone.Utters call sent.2

/-- A later phone has the log of an earlier one and some entries more, and what they send was for
the earlier one to say. -/
def Speaks (phone after : Phone ε) : Prop :=
  ∃ entries, after.log = phone.log ++ entries ∧ ∀ sent ∈ LogEntry.sends entries, phone.Says sent

variable {phone before after : Phone ε} {call : Call ε}

theorem speaks_of_log (log : after.log = phone.log) : phone.Speaks after :=
  ⟨[], log.trans (List.append_nil _).symm, by simp⟩

theorem Speaks.extend (speaks : phone.Speaks before) (more : List LogEntry)
    (log : after.log = before.log ++ more)
    (spoken : ∀ sent ∈ LogEntry.sends more, phone.Says sent) : phone.Speaks after := by
  rcases speaks with ⟨entries, grown, earlier⟩
  refine ⟨entries ++ more, by rw [log, grown, List.append_assoc], ?_⟩
  intro sent there
  rw [LogEntry.sends_append, List.mem_append] at there
  exact there.elim (earlier sent) (spoken sent)

theorem Speaks.quietly (speaks : phone.Speaks before) (more : List LogEntry)
    (log : after.log = before.log ++ more) (quiet : LogEntry.sends more = []) :
    phone.Speaks after :=
  speaks.extend more log (by simp [quiet])

theorem Speaks.keep (speaks : phone.Speaks before) (negotiation : Negotiation ε) :
    phone.Speaks (before.keep call negotiation) :=
  speaks.quietly _ rfl (LogEntry.sends_traffic _ _)

variable [MediaEngine ε]

theorem Speaks.ended (speaks : phone.Speaks before) (ending : Ending)
    (cause : Option HangupCause) : phone.Speaks (before.ended call ending cause) :=
  speaks.extend _ rfl fun _ there => .inl (LogEntry.kind_of_sends_farewell there)

theorem speaks_of_opens {side : Role} (opens : before.Opens call side after)
    (speaks : phone.Speaks before) : phone.Speaks after := by
  have numbered : phone.Speaks { before with nextSession := before.nextSession + 1 } := speaks
  cases opens with
  | opened => exact (numbered.keep _).quietly _ rfl (LogEntry.sends_stageEntries _)
  | refused => exact ((numbered.keep _).quietly [.announcement _] rfl rfl).ended _ _

theorem speaks_of_starts {side : Role} (starts : before.Starts call side after)
    (speaks : phone.Speaks before) : phone.Speaks after := by
  cases starts with
  | opens opens => exact speaks_of_opens opens speaks
  | waits =>
      refine speaks.quietly _ rfl ?_
      split <;> rfl

theorem speaks_of_settles (settles : before.Settles call after) (speaks : phone.Speaks before) :
    phone.Speaks after := by
  cases settles with
  | waits => exact speaks
  | applied => exact (speaks.keep _).quietly (_ ++ _) rfl (by simp)
  | refused => exact (speaks.keep _).ended _ _

omit [MediaEngine ε] in
/-- A description that is reported for the first time goes out in the phase of its side. -/
theorem speaks_described {negotiation handled : Negotiation ε} {side : Role} {description : String}
    {candidates : List Candidate} (coherent : phone.Coherent) (current : phone.call = some call)
    (opened : call.negotiation = some negotiation) (runs : negotiation.Runs side)
    (silent : negotiation.described = false) :
    phone.Speaks ((phone.keep call handled).described (call.keeping handled) description candidates
      side) := by
  have kept : phone.Speaks (phone.keep call handled) := (speaks_of_log rfl).keep handled
  refine kept.extend ((phone.keep call handled).descriptionEntries (call.keeping handled)
    description candidates side ++ _ ++ _) (by simp [described]; rfl) ?_
  intro sent there
  have which : sent ∈ LogEntry.sends ((phone.keep call handled).descriptionEntries
      (call.keeping handled) description candidates side) := by
    simpa using there
  right
  rcases phase_of_silent coherent current opened runs silent with
    ⟨rfl, outgoing, _⟩ | ⟨rfl, incoming, _⟩
  · simp only [descriptionEntries, inviteEntries, LogEntry.sends_send, LogEntry.sends_armTimer,
      LogEntry.sends_nil, List.mem_cons, List.not_mem_nil, or_false] at which
    rcases which with rfl | rfl
    · exact ⟨call, current, rfl, .invite outgoing⟩
    · exact ⟨call, current, rfl, .candidates⟩
  · simp only [descriptionEntries, answerEntries, LogEntry.sends_send, LogEntry.sends_nil,
      List.mem_cons, List.not_mem_nil, or_false] at which
    rcases which with rfl | rfl
    · exact ⟨call, current, rfl, .answer incoming⟩
    · exact ⟨call, current, rfl, .candidates⟩

/-- All that a phone says when it reacts to a callback is about its own call. -/
theorem speaks_of_reacts {negotiation handled : Negotiation ε} {side : Role}
    (coherent : phone.Coherent) (current : phone.call = some call)
    (opened : call.negotiation = some negotiation) (runs : negotiation.Runs side)
    (reacts : phone.Reacts call side negotiation handled after) : phone.Speaks after := by
  have kept : phone.Speaks (phone.keep call handled) := (speaks_of_log rfl).keep handled
  cases reacts with
  | moved => exact kept.quietly _ rfl (LogEntry.sends_stageEntries _)
  | reported _ silent =>
      exact (speaks_described coherent current opened runs silent).quietly _ rfl
        (LogEntry.sends_stageEntries _)
  | renegotiated =>
      rw [sendNegotiate_eq]
      refine kept.extend _ rfl ?_
      intro sent there
      rw [LogEntry.sends_send, LogEntry.sends_nil, List.mem_singleton] at there
      subst there
      exact .inr ⟨call, current, rfl, .negotiate⟩
  | watched =>
      rw [setRoster_eq]
      exact kept.quietly _ rfl (LogEntry.sends_rosterEntries _ _)
  | broken => exact kept.ended _ _
  | lost => exact (kept.quietly _ rfl (LogEntry.sends_stageEntries _)).ended _ _
  | reportedLost silent =>
      exact ((speaks_described coherent current opened runs silent).quietly _ rfl
        (LogEntry.sends_stageEntries _)).ended _ _

/-- A move only writes behind the log, and sends nothing but hangups and what is to be said about
the call that the phone had before it. -/
theorem speaks_of_move {now : Instant} {occurrence : Occurrence} (coherent : phone.Coherent)
    (move : phone.Move now occurrence after) : phone.Speaks after := by
  cases move with
  | still | plugged | refreshed | held => exact speaks_of_log rfl
  | resumed is current deferred opens => exact speaks_of_opens opens (speaks_of_log rfl)
  | @rang membership signal invite =>
      refine (speaks_of_log rfl).quietly (phaseEntries phone.phase .incoming ++
        ([.errand (.armTimer invite.call invite.lifetime),
          .announcement (.incomingCall signal.sender membership.room invite.lifetime invite.call)] ++
        if phone.relay.isFresh now || phone.refreshing then [] else [.errand .refreshRelay]))
        (by simp [ringing]) ?_
      rw [LogEntry.sends_append, LogEntry.sends_phaseEntries]
      split <;> rfl
  | dialed is idle known capable starts =>
      exact speaks_of_starts starts
        ((speaks_of_log rfl).quietly _ rfl (LogEntry.sends_phaseEntries _ _))
  | accepted is current incoming unaccepted compatible starts =>
      exact speaks_of_starts starts
        ((speaks_of_log rfl).quietly [.errand .cancelTimer] rfl rfl)
  | ended current ends =>
      refine ((speaks_of_log rfl).quietly _ rfl ?_).ended _ _
      cases ends <;> rfl
  | gathered current heard admits outgoing settles => exact speaks_of_settles settles (speaks_of_log rfl)
  | answered current heard admits outgoing unanswered settles => exact speaks_of_settles settles (speaks_of_log rfl)
  | handed => exact (speaks_of_log rfl).keep _
  | renegotiated => exact (speaks_of_log rfl).keep _
  | muted =>
      refine ((speaks_of_log rfl).keep _).quietly _ rfl ?_
      split <;> rfl
  | toggled => exact (speaks_of_log rfl).keep _
  | reacted is current opened runs reacts => exact speaks_of_reacts coherent current opened runs reacts

end Phone

end RoomCall
