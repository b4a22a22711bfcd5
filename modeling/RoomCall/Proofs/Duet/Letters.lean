import RoomCall.Proofs.Description.Masking
import RoomCall.Proofs.Duet.Basic

/-!
# What the two devices say to each other

Each side says two things in the call: its description, and all of its candidates. Both are known
once the call has a name, because a side masks its description with the first names of its supply.
Whatever carries them through the room, they are read back as they were meant.
-/

namespace RoomCall

open Engine (Scripted Script)

theorem Instant.length_padded (width value : Nat) : width ≤ (padded width value).length := by
  unfold padded
  rw [String.length_ofList, List.length_append, List.length_replicate]
  omega

/-- The name of a new call is never empty: its year alone has four digits. -/
theorem CallId.isEmpty_fresh (now : Instant) (token : String) :
    (CallId.fresh now token).text.isEmpty = false := by
  have year := Instant.length_padded 4 (Instant.civil (now.milliseconds / 86400000)).1.toNat
  rw [← Bool.not_eq_true, String.isEmpty_iff, ← String.length_eq_zero_iff]
  simp only [fresh, Instant.stamp, String.length_append]
  omega

/-! ## Letters -/

/-- The type and the content of an event. -/
def TimelineEvent.letter (event : TimelineEvent) : String × Json :=
  (event.type, event.content)

/-- The type and the content of the event that will carry a signal. -/
def OutgoingSignal.letter (signal : OutgoingSignal) : String × Json :=
  (signal.kind.eventType, signal.content)

/-- An event is read as the message of the signal that it carries. -/
theorem Signal.ofEvent_of_letter {event : TimelineEvent} {signal : OutgoingSignal}
    {message : Message} (same : event.letter = signal.letter)
    (read : Message.read signal.kind signal.content = .ok message) :
    Signal.ofEvent event = .ok ⟨event.sender, event.sentAt, message⟩ := by
  rcases Prod.mk.inj same with ⟨type, content⟩
  refine Signal.ofEvent_eq_ok_iff.mpr ⟨signal.kind, message, ?_, ?_, rfl⟩
  · rw [type, SignalKind.ofEventType?_eventType]
  · rw [content, read]

/-- What a phone says when the local description of a side goes out. -/
def Phone.speech {ε : Type} (phone : Phone ε) (id : CallId) (party : PartyId)
    (description : String) (candidates : List Candidate) : Role → List OutgoingSignal
  | .offering =>
      [(phone.style.invite phone.streamNames id party phone.inviteLifetime description).1,
        phone.style.candidates id party candidates]
  | .answering =>
      [(phone.style.answer phone.streamNames id party description).1,
        phone.style.candidates id party candidates]

theorem LogEntry.sends_descriptionEntries {ε : Type} (phone : Phone ε) (call : Call ε)
    (description : String) (candidates : List Candidate) (side : Role) :
    LogEntry.sends (phone.descriptionEntries call description candidates side) =
      (phone.speech call.id call.party description candidates side).map (call.room, ·) := by
  cases side <;> rfl

namespace Duet

variable (duet : Duet) (id : CallId)

/-- The signals of a side in a call. -/
def speech (side : Role) : List OutgoingSignal :=
  (duet.phone side).speech id (duet.party side) ((duet.script side).description side)
    (duet.script side).candidates side

/-- The purposes that a side announces for its streams. -/
def purposes (side : Role) : Purposes :=
  (duet.phone side).style.purposes (duet.masked side).streams

/-- The invite of the side that calls. -/
def invite : Invite where
  call := id
  party := some (duet.party .offering)
  description := (duet.masked .offering).description
  lifetime := .ofMilliseconds (SignalStyle.wireLifetime (duet.phone .offering).inviteLifetime)
  purposes := duet.purposes .offering

/-- The answer of the other side. -/
def answer : Answer where
  call := id
  party := some (duet.party .answering)
  description := (duet.masked .answering).description
  purposes := duet.purposes .answering

/-- The description of a side as a message. -/
def opening : Role → Message
  | .offering => .invite (duet.invite id)
  | .answering => .answer (duet.answer id)

/-- The candidates of a side. -/
def batch (side : Role) : CandidateBatch :=
  ⟨id, some (duet.party side), (duet.script side).candidates⟩

variable {duet id}

/-- Both things that a side says can be read. -/
theorem speech_eq (fits : duet.Fits) (named : id.text.isEmpty = false) (side : Role) :
    ∃ first second, duet.speech id side = [first, second] ∧
      Message.read first.kind first.content = .ok (duet.opening id side) ∧
      Message.read second.kind second.content = .ok (.candidates (duet.batch id side)) := by
  have words := Description.allBlank_mask (fits.words side) (duet.phone side).streamNames
  have readable := @Json.list?_map _ Candidate.ofJson? Candidate.toJson
    (duet.script side).candidates fun candidate there =>
      Json.Returns.undoes
        (Candidate.returns (Json.returns_word32 (fits.numbered side candidate there)))
  have batch : Message.read .candidates ((duet.phone side).style.candidates id (duet.party side)
      (duet.script side).candidates).content = .ok (.candidates (duet.batch id side)) := by
    rw [Message.read_candidates, readable]
    simp only [Message.checkCall, named]
    rfl
  cases side with
  | offering =>
      refine ⟨_, _, rfl, (Message.read_invite _ _ _ _ _ _).trans ?_, batch⟩
      simp only [Message.checkCall, named, Message.checkDescription, words]
      rfl
  | answering =>
      refine ⟨_, _, rfl, (Message.read_answer _ _ _ _ _).trans ?_, batch⟩
      simp only [Message.checkCall, named, Message.checkDescription, words]
      rfl

end Duet

end RoomCall
