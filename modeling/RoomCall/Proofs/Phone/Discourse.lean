import RoomCall.Proofs.Phone.Candidates
import RoomCall.Proofs.Phone.Following
import RoomCall.Proofs.Phone.Sending

/-!
# The messages of a call

What a phone sends falls into blocks, one for each call that it has opened. A block starts with the
description of this side and its candidates, goes on with new descriptions, and ends with a hangup
if the call ended in a way that the other side has to be told of.
-/

namespace RoomCall

variable {ε : Type}

/-- What a side sends to set up a call. -/
def Role.overture : Role → List SignalKind
  | .offering => [.invite, .candidates]
  | .answering => [.answer, .candidates]

/-- What a side may have sent before a call ends: nothing, or its overture and then new
descriptions. -/
def Role.Converses (side : Role) (kinds : List SignalKind) : Prop :=
  kinds = [] ∨ ∃ count, kinds = side.overture ++ List.replicate count .negotiate

namespace Situation

/-- How a call that is over has ended. -/
def ending? : Situation → Option Ending
  | finished ending => some ending
  | _ => none

theorem ending?_of_live {situation : Situation} (live : ∀ ending, situation ≠ .finished ending) :
    situation.ending? = none := by
  cases situation with
  | finished ending => exact absurd rfl (live ending)
  | _ => rfl

end Situation

namespace LogEntry

/-- The calls that end among some entries, with the reasons that the user is given. -/
def endings (entries : List LogEntry) : List (CallId × Ending) :=
  entries.filterMap fun entry =>
    match entry with
    | .announcement (.callEnded call ending) => some (call, ending)
    | _ => none

@[simp]
theorem endings_append (first second : List LogEntry) :
    endings (first ++ second) = endings first ++ endings second :=
  List.filterMap_append

@[simp]
theorem endings_nil : endings [] = [] := rfl

@[simp]
theorem endings_errand (errand : Errand) (later : List LogEntry) :
    endings (.errand errand :: later) = endings later := rfl

@[simp]
theorem endings_callEnded (call : CallId) (ending : Ending) (later : List LogEntry) :
    endings (.announcement (.callEnded call ending) :: later) = (call, ending) :: endings later :=
  rfl

theorem endings_asides {entries : List LogEntry} (quiet : entries.all isAside = true) :
    endings entries = [] := by
  refine filterMap_asides ?_ quiet
  apply forall_aside <;> intros <;> rfl

theorem sends_asides {entries : List LogEntry} (quiet : entries.all isAside = true) :
    sends entries = [] := by
  refine filterMap_asides ?_ quiet
  apply forall_aside <;> intros <;> rfl

end LogEntry

namespace CallRecord

/-- The kinds of the messages that were sent in a call, in order. -/
def kinds (record : CallRecord) : List SignalKind :=
  (LogEntry.sends record.entries).map fun sent => sent.2.kind

/-- A message that goes to the room of the call and names the call and the party that this device is
in it. -/
structure Addresses (record : CallRecord) (sent : RoomId × OutgoingSignal) : Prop where
  room : sent.1 = record.room
  call : sent.2.member? "call_id" = some (.string record.call.text)
  party : sent.2.member? "party_id" = some (.string record.party.text)

/-- The messages of a call are in order, and it has ended for a reason or goes on. -/
structure Orderly (record : CallRecord) (ended : Option Ending) : Prop where
  addressed : ∀ sent ∈ LogEntry.sends record.entries, record.Addresses sent
  endings : LogEntry.endings record.entries = ended.toList.map fun ending => (record.call, ending)
  kinds : ∃ said, record.side.Converses said ∧
    record.kinds = said ++ if ended.any (Ending.hangsUp record.side) then [.hangup] else []

variable {record : CallRecord} {situation : Situation} {entries : List LogEntry}

@[simp]
theorem kinds_grow (entries : List LogEntry) :
    (record.grow entries).kinds =
      record.kinds ++ (LogEntry.sends entries).map fun sent => sent.2.kind := by
  simp [CallRecord.kinds]

@[simp]
theorem sends_sending (signal : OutgoingSignal) (later : List LogEntry) :
    LogEntry.sends (record.sending signal :: later) =
      (record.room, signal) :: LogEntry.sends later := rfl

theorem Bears.addresses {kind : SignalKind} {signal : OutgoingSignal}
    (bears : record.Bears kind signal) : record.Addresses (record.room, signal) :=
  ⟨rfl, bears.call, bears.party⟩

/-- All that is sent in the course of a call goes to its room and names the call. -/
theorem Course.addressed (course : record.Course situation) :
    ∀ sent ∈ LogEntry.sends record.entries, record.Addresses sent := by
  have grown {record : CallRecord} {more : List LogEntry}
      (before : ∀ sent ∈ LogEntry.sends record.entries, record.Addresses sent)
      (added : ∀ sent ∈ LogEntry.sends more, record.Addresses sent) :
      ∀ sent ∈ LogEntry.sends (record.grow more).entries, (record.grow more).Addresses sent := by
    intro sent there
    simp only [grow_entries, LogEntry.sends_append, List.mem_append] at there
    rcases there with earlier | later
    · exact ⟨(before sent earlier).room, (before sent earlier).call, (before sent earlier).party⟩
    · exact ⟨(added sent later).room, (added sent later).call, (added sent later).party⟩
  induction course with
  | rang _ entries | dialed _ entries => simp [entries]
  | aside course quiet ih => exact grown ih (by simp [LogEntry.sends_asides quiet])
  | accepted course ih | established course ih => exact grown ih (by simp)
  | invited course bears adds ih | answered course bears adds ih =>
      exact grown ih (by simp [bears.addresses, adds.addresses])
  | renegotiated course live bears ih => exact grown ih (by simp [bears.addresses])
  | @ended record situation ending hangups entries course live bears count quiet ih =>
      refine grown ih ?_
      intro sent there
      have hangup : sent ∈ LogEntry.sends (hangups.map record.sending) := by
        simpa [LogEntry.sends_asides quiet] using there
      simp only [LogEntry.sends, sending, List.filterMap_map, List.mem_filterMap,
        Function.comp_apply, Option.some.injEq] at hangup
      rcases hangup with ⟨signal, member, rfl⟩
      exact (bears signal member).addresses

/-- Only a call that was started waits for its invite or has sent it, and only a call that rang was
accepted. -/
theorem Course.side (course : record.Course situation) :
    (situation = .dialing ∨ situation = .invited → record.side = .offering) ∧
      (situation = .ringing ∨ situation = .accepted → record.side = .answering) := by
  induction course with
  | rang answering => simp [answering]
  | dialed offering => simp [offering]
  | aside course quiet ih | renegotiated course live bears ih => exact ih
  | accepted course ih => simpa using ih
  | invited course bears adds ih => simpa using ih
  | answered | established | ended => simp

/-- What has been sent in a call that has come this far. -/
def Said (record : CallRecord) : Situation → Prop
  | .ringing | .accepted | .dialing => record.kinds = []
  | .invited | .talking =>
      ∃ count, record.kinds = record.side.overture ++ List.replicate count .negotiate
  | .finished ending => ∃ said, record.side.Converses said ∧
      record.kinds = said ++ if ending.hangsUp record.side then [.hangup] else []

theorem Said.converses (said : record.Said situation)
    (live : ∀ ending, situation ≠ .finished ending) :
    record.side.Converses record.kinds := by
  cases situation with
  | ringing | accepted | dialing => exact .inl said
  | invited | talking => exact .inr said
  | finished ending => exact absurd rfl (live ending)

theorem Said.congr {later : CallRecord} (said : record.Said situation)
    (side : later.side = record.side) (kinds : later.kinds = record.kinds) :
    later.Said situation := by
  cases situation <;> simpa only [Said, side, kinds] using said

/-- The messages of a call are those of its situation, in their order. -/
theorem Course.said (course : record.Course situation) : record.Said situation := by
  induction course with
  | rang _ entries | dialed _ entries => simp [Said, CallRecord.kinds, entries]
  | aside course quiet ih =>
      exact ih.congr rfl (by simp [LogEntry.sends_asides quiet])
  | @accepted record course ih =>
      have silent : record.kinds = [] := ih
      simp [Said, silent]
  | @invited record invite candidates course bears adds ih =>
      have silent : record.kinds = [] := ih
      have offering : record.side = .offering := course.side.1 (.inl rfl)
      refine ⟨0, ?_⟩
      simp [silent, offering, Role.overture, bears.kind, adds.kind]
  | @answered record answer candidates course bears adds ih =>
      have silent : record.kinds = [] := ih
      have answering : record.side = .answering := course.side.2 (.inr rfl)
      refine ⟨0, ?_⟩
      simp [silent, answering, Role.overture, bears.kind, adds.kind]
  | established course ih =>
      rcases ih with ⟨count, said⟩
      exact ⟨count, by simp [said]⟩
  | renegotiated course live bears ih =>
      rcases live with rfl | rfl
      all_goals
        rcases ih with ⟨count, said⟩
        refine ⟨count + 1, ?_⟩
        simp [said, bears.kind, List.replicate_succ']
  | @ended record situation ending hangups entries course live bears count quiet ih =>
      have told : ∀ hangup ∈ hangups, hangup.kind = .hangup :=
        fun hangup there => (bears hangup there).kind
      have sent : (LogEntry.sends (hangups.map record.sending)).map (fun sent => sent.2.kind) =
          List.replicate hangups.length .hangup := by
        simpa [List.eq_replicate_iff, LogEntry.sends, sending, List.filterMap_map,
          Function.comp_def] using told
      -- What was said before the end is kept, and nothing but the hangup is added.
      refine ⟨record.kinds, ih.converses live, ?_⟩
      rw [count] at sent
      simp only [kinds_grow, LogEntry.sends_append, LogEntry.sends_cancelTimer,
        LogEntry.sends_asides quiet, LogEntry.sends_announcement, LogEntry.sends_nil,
        List.append_nil, sent, grow_side]
      by_cases told : ending.hangsUp record.side = true <;> simp [told]

/-- A call that is over has ended once, and one that goes on has not. -/
theorem Course.endings (course : record.Course situation) :
    LogEntry.endings record.entries =
      situation.ending?.toList.map fun ending => (record.call, ending) := by
  induction course with
  | rang _ entries | dialed _ entries =>
      rw [entries]
      rfl
  | aside course quiet ih =>
      rw [grow_entries, LogEntry.endings_append, LogEntry.endings_asides quiet, ih, List.append_nil]
      rfl
  | accepted course ih | invited course bears adds ih | answered course bears adds ih
    | established course ih | renegotiated course live bears ih =>
      rw [grow_entries, LogEntry.endings_append, ih]
      exact List.append_nil _
  | @ended record situation ending hangups entries course live bears count quiet ih =>
      have spoken : LogEntry.endings (hangups.map record.sending) = [] := by
        simp [LogEntry.endings, sending]
      rw [Situation.ending?_of_live live] at ih
      rw [grow_entries, LogEntry.endings_append, ih, LogEntry.endings_append,
        LogEntry.endings_append, spoken]
      exact congrArg (· ++ _) (LogEntry.endings_asides quiet)

/-- The messages of a call are in the order that its side has, up to its end. -/
theorem Course.orderly (course : record.Course situation) : record.Orderly situation.ending? where
  addressed := course.addressed
  endings := course.endings
  kinds := by
    have said := course.said
    cases situation with
    | finished ending => exact said
    | _ => exact ⟨record.kinds, said.converses (by simp), (List.append_nil _).symm⟩

end CallRecord

namespace Phone

variable [MediaEngine ε] {phone : Phone ε} {chronicle : Chronicle}

/-- Everything that a phone sends, from the first call on, falls into one block for each call that
it has opened, in the order in which they were opened. A block is addressed to its call, its
messages come in order, and it ends with a hangup exactly if the call has ended for a reason that
asks for one. The last block alone belongs to a call that goes on, if the phone has one. -/
theorem sends_in_blocks (lived : phone.Lived chronicle) :
    LogEntry.sends chronicle.entries =
        chronicle.calls.flatMap (fun record => LogEntry.sends record.entries) ∧
      (∀ record ∈ chronicle.past, ∃ ending, record.Orderly (some ending)) ∧
      (∀ record ∈ chronicle.latest, phone.call = none → ∃ ending, record.Orderly (some ending)) ∧
      ∀ call, phone.call = some call →
        ∃ record ∈ chronicle.latest, record.Names call ∧ record.Orderly none := by
  have recounts := recounts_of_lived lived
  have orderly {record : CallRecord} (finished : ∃ ending, record.Course (.finished ending)) :
      ∃ ending, record.Orderly (some ending) :=
    finished.imp fun _ course => course.orderly
  refine ⟨?_, fun record there => orderly (recounts.past record there), ?_, ?_⟩
  · rw [recounts.entries, LogEntry.sends, List.filterMap_flatMap]
    rfl
  · intro record latest idle
    refine orderly (recounts.finished idle record ?_)
    simp only [Chronicle.calls, List.mem_append, Option.mem_toList]
    exact .inr latest
  · intro call current
    cases latest : chronicle.latest with
    | none => simp [recounts.idle latest] at current
    | some record =>
        rcases recounts.latest record latest with ⟨situation, course, recalls⟩
        rcases recalls.at current with ⟨names, -, stands⟩
        refine ⟨record, rfl, names, ?_⟩
        simpa [Situation.ending?_of_live stands.not_finished] using course.orderly

/-- A call that was started, whose invite went out, is hung up before it is answered, and another
one rings and is ignored. -/
def missedRun : List (Instant × Occurrence) :=
  dialedRun ++ [(4, .hangUp),
    (5, .signal { pair with localUser := ⟨"@bob"⟩ }
      ⟨⟨"@alice"⟩, 5, .invite ⟨⟨"call"⟩, none, "m=audio\na=rtpmap:1 opus", .ofSeconds 60, []⟩⟩),
    (6, .ignore)]

theorem sends_in_blocks_missedRun :
    (chronicled (scripted, {}) missedRun).2.calls.map CallRecord.kinds =
        [[.invite, .candidates, .hangup], []] ∧
      LogEntry.sends (chronicled (scripted, {}) missedRun).2.entries =
        (chronicled (scripted, {}) missedRun).2.calls.flatMap
          (fun record => LogEntry.sends record.entries) :=
  ⟨by decide, (sends_in_blocks (lived_chronicled (.new isNew_scripted) missedRun)).1⟩

end Phone

end RoomCall
