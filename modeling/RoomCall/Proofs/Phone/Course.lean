import RoomCall.Proofs.Json.Members
import RoomCall.Proofs.Phone.Chronicle

/-!
# The course of a call

Whatever happens to a phone, what it writes about a call follows one course: the call rings or is
started, it is accepted or its invite goes out, it is answered, and at some point it ends. The
course says where in it messages are sent, the timer is armed and called off, and the phase changes;
the other entries may stand anywhere. What is to be said about the messages, the timer and the
phases of a phone follows from the course of its calls.
-/

namespace RoomCall

variable {ε : Type}

/-- Whether an entry has nothing to do with the course of a call. -/
def LogEntry.isAside : LogEntry → Bool
  | .traffic _ _ | .errand .refreshRelay | .announcement (.progressChanged _)
  | .announcement (.mutedChanged _) | .announcement .rosterChanged | .announcement (.failure _)
  | .announcement (.answeredElsewhere _) => true
  | _ => false

/-- Whether the other side is told that a call has ended, on the side that this device is on. -/
def Ending.hangsUp (side : Role) : Ending → Bool
  | .localHangup | .iceFailed | .mediaFailed _ | .noCompatibleCodec => true
  | .inviteExpired => side = .offering
  | .remoteHangup | .answeredElsewhere | .ignored => false

/-- How far a call has come. -/
inductive Situation where
  | ringing
  /-- The user has accepted the call, and no answer has gone out. -/
  | accepted
  /-- The call was started, and its invite has not gone out. -/
  | dialing
  | invited
  | talking
  | finished (ending : Ending)
  deriving DecidableEq, Repr

/-- What a message says under a name. -/
def OutgoingSignal.member? (signal : OutgoingSignal) (name : String) : Option Json :=
  match signal.content with
  | .object members => Json.member? name members
  | _ => none

namespace CallRecord

/-- A message of a kind that names the call and the party that this device is in it. -/
structure Bears (record : CallRecord) (kind : SignalKind) (signal : OutgoingSignal) : Prop where
  kind : signal.kind = kind
  call : signal.member? "call_id" = some (.string record.call.text)
  party : signal.member? "party_id" = some (.string record.party.text)

theorem Bears.grow {record : CallRecord} {kind : SignalKind} {signal : OutgoingSignal}
    (bears : record.Bears kind signal) (entries : List LogEntry) :
    (record.grow entries).Bears kind signal :=
  ⟨bears.kind, bears.call, bears.party⟩

/-- The entry that sends a message into the room of the call. -/
def sending (record : CallRecord) (signal : OutgoingSignal) : LogEntry :=
  .errand (.send record.room signal)

/-- The courses that a call can take. -/
inductive Course : CallRecord → Situation → Prop where
  | rang {record : CallRecord} {caller : UserId} (answering : record.side = .answering)
      (entries : record.entries = [.announcement (.phaseChanged .incoming),
        .errand (.armTimer record.call record.lifetime),
        .announcement (.incomingCall caller record.room record.lifetime record.call)]) :
      Course record .ringing
  | dialed {record : CallRecord} (offering : record.side = .offering)
      (entries : record.entries = [.announcement (.phaseChanged .outgoing)]) :
      Course record .dialing
  | aside {record : CallRecord} {situation : Situation} {entries : List LogEntry}
      (course : Course record situation) (quiet : entries.all LogEntry.isAside = true) :
      Course (record.grow entries) situation
  | accepted {record : CallRecord} (course : Course record .ringing) :
      Course (record.grow [.errand .cancelTimer]) .accepted
  | invited {record : CallRecord} {invite candidates : OutgoingSignal}
      (course : Course record .dialing) (bears : record.Bears .invite invite)
      (adds : record.Bears .candidates candidates) :
      Course (record.grow [record.sending invite, record.sending candidates,
        .errand (.armTimer record.call record.lifetime)]) .invited
  | answered {record : CallRecord} {answer candidates : OutgoingSignal}
      (course : Course record .accepted) (bears : record.Bears .answer answer)
      (adds : record.Bears .candidates candidates) :
      Course (record.grow [record.sending answer, record.sending candidates,
        .announcement (.phaseChanged .active)]) .talking
  | established {record : CallRecord} (course : Course record .invited) :
      Course (record.grow [.errand .cancelTimer, .announcement (.phaseChanged .active)]) .talking
  | renegotiated {record : CallRecord} {situation : Situation} {signal : OutgoingSignal}
      (course : Course record situation) (live : situation = .invited ∨ situation = .talking)
      (bears : record.Bears .negotiate signal) :
      Course (record.grow [record.sending signal]) situation
  | ended {record : CallRecord} {situation : Situation} {ending : Ending}
      {hangups : List OutgoingSignal} {entries : List LogEntry} (course : Course record situation)
      (live : ∀ earlier, situation ≠ .finished earlier)
      (bears : ∀ hangup ∈ hangups, record.Bears .hangup hangup)
      (count : hangups.length = if ending.hangsUp record.side then 1 else 0)
      (quiet : entries.all LogEntry.isAside = true) :
      Course (record.grow (hangups.map record.sending ++ .errand .cancelTimer :: entries ++
        [.announcement (.phaseChanged .idle), .announcement (.callEnded record.call ending)]))
        (.finished ending)

end CallRecord

/-! ## Asides -/

namespace LogEntry

@[simp]
theorem all_isAside_traffic (session : SessionId) (contents : List Traffic) :
    (contents.map (LogEntry.traffic session)).all isAside = true := by
  simp [isAside]

@[simp]
theorem all_isAside_stageEntries (notices : List Notice) :
    (stageEntries notices).all isAside = true :=
  List.all_eq_true.mpr (forall_mem_stageEntries (fun _ => rfl) _)

@[simp]
theorem all_isAside_rosterEntries (before after : Roster) :
    (rosterEntries before after).all isAside = true := by
  apply List.all_eq_true.mpr
  apply forall_mem_rosterEntries
  rfl

@[simp]
theorem all_isAside_teardownEntries [MediaEngine ε] (negotiation : Option (Negotiation ε)) :
    (negotiation.elim [] Phone.teardownEntries).all isAside = true := by
  cases negotiation with
  | none => rfl
  | some negotiation =>
      simp only [Option.elim, Phone.teardownEntries, List.all_append, all_isAside_traffic,
        all_isAside_stageEntries, Bool.and_self]

end LogEntry

/-- What is read off entries one by one is not read off asides, if it is not read off any of
them. -/
theorem LogEntry.filterMap_asides {α : Type} {read : LogEntry → Option α} {entries : List LogEntry}
    (deaf : ∀ entry, entry.isAside = true → read entry = none)
    (quiet : entries.all isAside = true) : entries.filterMap read = [] := by
  rw [List.all_eq_true] at quiet
  exact List.filterMap_eq_nil_iff.mpr fun entry there => deaf entry (quiet entry there)

/-- What holds of each kind of entry aside from the course of calls holds of all such entries. -/
theorem LogEntry.forall_aside {P : LogEntry → Prop}
    (traffic : ∀ session content, P (.traffic session content)) (relay : P (.errand .refreshRelay))
    (stage : ∀ stage, P (.announcement (.progressChanged stage)))
    (muted : ∀ muted, P (.announcement (.mutedChanged muted)))
    (roster : P (.announcement .rosterChanged))
    (failure : ∀ message, P (.announcement (.failure message)))
    (elsewhere : ∀ call, P (.announcement (.answeredElsewhere call))) :
    ∀ entry, entry.isAside = true → P entry := by
  rintro (errand | announcement | ⟨session, content⟩) aside
  · cases errand with
    | refreshRelay => exact relay
    | _ => cases aside
  · cases announcement with
    | progressChanged => exact stage _
    | mutedChanged => exact muted _
    | rosterChanged => exact roster
    | failure => exact failure _
    | answeredElsewhere => exact elsewhere _
    | _ => cases aside
  · exact traffic session content

/-- Entries aside from the course of calls make nothing ring. -/
theorem LogEntry.rings_asides {entries : List LogEntry} (quiet : entries.all isAside = true) :
    rings entries = [] := by
  refine filterMap_asides ?_ quiet
  apply forall_aside <;> intros <;> rfl

/-- A call rings once, at the beginning, if it was not started on this device. -/
theorem CallRecord.Course.rings {record : CallRecord} {situation : Situation}
    (course : record.Course situation) :
    LogEntry.rings record.entries = if record.side = .answering then [record.call] else [] := by
  have silent {more : List LogEntry} {grown : CallRecord} (quiet : LogEntry.rings more = [])
      (before : LogEntry.rings grown.entries =
        if grown.side = .answering then [grown.call] else []) :
      LogEntry.rings (grown.grow more).entries =
        if grown.side = .answering then [grown.call] else [] := by
    simp only [grow, LogEntry.rings_append, quiet, before, List.append_nil]
  induction course with
  | rang answering entries =>
      rw [entries, answering]
      rfl
  | dialed offering entries =>
      rw [entries, offering]
      rfl
  | aside course quiet ih => exact silent (LogEntry.rings_asides quiet) ih
  | accepted course ih | invited course _ _ ih | answered course _ _ ih | established course ih
    | renegotiated course _ _ ih => exact silent rfl ih
  | @ended record situation ending hangups entries course live bears count quiet ih =>
      refine silent ?_ ih
      have spoken : LogEntry.rings (hangups.map record.sending) = [] := by
        simp [LogEntry.rings, sending]
      rw [LogEntry.rings_append, LogEntry.rings_append, spoken]
      exact (congrArg (· ++ _) (LogEntry.rings_asides quiet)).trans rfl

/-! ## What is sent -/

namespace CallRecord

/-- A record that has the names of a call. -/
structure Names (record : CallRecord) (call : Call ε) : Prop where
  id : record.call = call.id
  room : record.room = call.room
  party : record.party = call.party

variable {record : CallRecord} {style : SignalStyle} {call : Call ε}

/-- A content that names the call and the party of a device bears the names of its record. -/
theorem Names.bears {kind : SignalKind} {signal : OutgoingSignal} {members : List (String × Json)}
    (names : record.Names call) (is : signal.kind = kind)
    (content : signal.content = Json.ofMembers members)
    (id : Json.member? "call_id" members.reverse = some (.string call.id.text))
    (party : Json.member? "party_id" members.reverse = some (.string call.party.text)) :
    record.Bears kind signal := by
  have read (name : String) : signal.member? name = Json.member? name members.reverse := by
    simp [OutgoingSignal.member?, content, Json.ofMembers, Json.member?_sortEntries]
  exact ⟨is, by rw [read, id, names.id], by rw [read, party, names.party]⟩

theorem Names.bears_invite (names : record.Names call) (supply : Supply) (lifetime : Duration)
    (description : String) :
    record.Bears .invite (style.invite supply call.id call.party lifetime description).1 :=
  names.bears rfl rfl rfl rfl

theorem Names.bears_answer (names : record.Names call) (supply : Supply) (description : String) :
    record.Bears .answer (style.answer supply call.id call.party description).1 :=
  names.bears rfl rfl rfl rfl

theorem Names.bears_negotiate (names : record.Names call) (supply : Supply) (lifetime : Duration)
    (description : String) (kind : DescriptionKind) :
    record.Bears .negotiate
      (style.negotiate supply call.id call.party lifetime description kind).1 :=
  names.bears rfl rfl rfl rfl

theorem Names.bears_candidates (names : record.Names call) (found : List Candidate) :
    record.Bears .candidates (style.candidates call.id call.party found) :=
  names.bears rfl rfl rfl rfl

theorem Names.bears_hangup (names : record.Names call) (cause : HangupCause) :
    record.Bears .hangup (style.hangup call.id call.party (some cause)) :=
  names.bears rfl rfl rfl rfl

end CallRecord

end RoomCall
