import RoomCall.Proofs.Description.Masking
import RoomCall.Proofs.Description.Unmasking
import RoomCall.Proofs.Json.Sorting
import RoomCall.Proofs.Signal.RoundTrip

/-!
# Decoding undoes encoding

Whatever a device writes is read by the others as what it was meant to say. A draft is what the
device has to say; written in its style and put into an event, it comes back as the message of the
same kind, with its description masked, its lifetime as far as the wire can carry it, and the
purpose of every stream that the description announces. It is refused only for a call without a
name, or else for a blank description.
-/

namespace RoomCall

namespace Description

/-- A blank text has no pairs to rename. -/
theorem renamed_of_blank (naming : String → String) (text : List Char)
    (blank : text.all Text.isBlank = true) : renamed naming text = text := by
  induction text using segments.induct with
  | case1 => rw [renamed_nil]
  | case2 character later stream track rest found ih =>
      rw [(pairAt?_eq_some_iff.mp found).1, List.all_append, Bool.and_eq_true] at blank
      exact absurd blank.1 (by decide)
  | case3 character later found ih =>
      rw [List.all_cons, Bool.and_eq_true] at blank
      rw [renamed_cons found, ih blank.2]

/-- Masking neither makes a description blank nor gives a blank one something to read. -/
theorem allBlank_mask_iff (supply : Supply) (description : String) :
    Text.allBlank (mask supply description).1.description = true ↔
      Text.allBlank description = true := by
  refine ⟨allBlank_of_mask supply description, fun blank => ?_⟩
  obtain ⟨-, replaced⟩ :=
    Masking.learns_replaceAll supply { supply := supply } (segments description.toList)
  have unchanged : (mask supply description).1.description = description := by
    change Segment.join (Masking.replaceAll { supply := supply }
      (segments description.toList)).1 = description
    rw [replaced, Segment.join, ← renamed, renamed_of_blank _ _ blank, String.ofList_toList]
  rw [unchanged, blank]

end Description

/-- What a device has to say to the others in a call. -/
inductive Draft where
  | invite (lifetime : Duration) (description : String)
  | candidates (found : List Candidate)
  | answer (description : String)
  | negotiate (lifetime : Duration) (description : String) (kind : DescriptionKind)
  | hangup (cause : Option HangupCause)

namespace Draft

/-- The event that says it. -/
def write (style : SignalStyle) (names : Supply) (call : CallId) (party : PartyId) :
    Draft → OutgoingSignal
  | .invite lifetime description => (style.invite names call party lifetime description).1
  | .candidates found => style.candidates call party found
  | .answer description => (style.answer names call party description).1
  | .negotiate lifetime description kind =>
      (style.negotiate names call party lifetime description kind).1
  | .hangup cause => style.hangup call party cause

/-- The kind of message that says it. -/
def kind : Draft → SignalKind
  | .invite .. => .invite
  | .candidates .. => .candidates
  | .answer .. => .answer
  | .negotiate .. => .negotiate
  | .hangup .. => .hangup

/-- The description in it, if there is one. -/
def description? : Draft → Option String
  | .invite _ description => some description
  | .candidates _ => none
  | .answer description => some description
  | .negotiate _ description _ => some description
  | .hangup _ => none

/-- Whether every section that a candidate names has a number that fits a word of 32 bits. -/
def Fits : Draft → Prop
  | .candidates found => ∀ candidate ∈ found, candidate.sectionIndex < UInt32.size
  | _ => True

/-- Whether purposes list some streams, each of them once and with one purpose for all. -/
def Lists (purposes : Purposes) (streams : List String) (purpose : String) : Prop :=
  (purposes.map Prod.fst).Nodup ∧
    ∀ stream given, (stream, given) ∈ purposes ↔ stream ∈ streams ∧ given = purpose

/-- Whether a message says what the draft has to say, as far as an event can carry it. -/
def SaidBy (style : SignalStyle) (names : Supply) (call : CallId) (party : PartyId)
    (message : Message) : Draft → Prop
  | .invite lifetime description =>
      ∃ purposes, Lists purposes (Description.mask names description).1.streams style.purpose ∧
        message = .invite {
          call := call
          party := some party
          description := (Description.mask names description).1.description
          lifetime := .ofMilliseconds (min (lifetime.nanoseconds / 1000000) (UInt64.size - 1))
          purposes := purposes }
  | .candidates found =>
      message = .candidates { call := call, party := some party, candidates := found }
  | .answer description =>
      ∃ purposes, Lists purposes (Description.mask names description).1.streams style.purpose ∧
        message = .answer {
          call := call
          party := some party
          description := (Description.mask names description).1.description
          purposes := purposes }
  | .negotiate _ description kind =>
      ∃ purposes, Lists purposes (Description.mask names description).1.streams style.purpose ∧
        message = .negotiate {
          call := call
          party := some party
          description := (Description.mask names description).1.description
          isAnswer := kind = .answer
          purposes := purposes }
  | .hangup cause => message = .hangup { call := call, party := some party, cause := cause }

theorem lists_purposes (style : SignalStyle) (streams : List String) :
    Lists (style.purposes streams) streams style.purpose :=
  ⟨(Json.ordered_sortEntries _).keys_nodup, fun stream given =>
    Json.mem_sortEntries_of_constant style.purpose streams (stream, given)⟩

section

variable (style : SignalStyle) (names : Supply) (call : CallId) (party : PartyId)

/-- An event announces the streams of its masked description, and no others. -/
theorem streams_write (draft : Draft) :
    (draft.write style names call party).streams =
      (draft.description?.map fun description =>
        (Description.mask names description).1.streams).getD [] := by
  cases draft <;> rfl

theorem kind_write (draft : Draft) : (draft.write style names call party).kind = draft.kind := by
  cases draft <;> rfl

/-- A content is read if the call has a name and the description, if there is one, says
something. -/
theorem read_write {draft : Draft} (fits : draft.Fits) :
    ∃ message, draft.SaidBy style names call party message ∧
      Message.read draft.kind (draft.write style names call party).content = (do
        Message.checkCall draft.kind call
        draft.description?.elim (.ok ()) fun description =>
          Message.checkDescription draft.kind (Description.mask names description).1.description
        return message) := by
  cases draft with
  | invite lifetime description =>
      exact ⟨_, ⟨_, lists_purposes style _, rfl⟩,
        Message.read_invite style names call party lifetime description⟩
  | candidates found =>
      refine ⟨_, rfl, ?_⟩
      have whole : Json.list? Candidate.ofJson? (.array (found.map Candidate.toJson)) = some found :=
        Json.list?_map fun candidate there =>
          Json.Returns.undoes (Candidate.returns (Json.returns_word32 (fits candidate there)))
      exact (Message.read_candidates style call party found).trans (by rw [whole]; rfl)
  | answer description =>
      exact ⟨_, ⟨_, lists_purposes style _, rfl⟩,
        Message.read_answer style names call party description⟩
  | negotiate lifetime description kind =>
      exact ⟨_, ⟨_, lists_purposes style _, rfl⟩,
        Message.read_negotiate style names call party lifetime description kind⟩
  | hangup cause =>
      exact ⟨_, rfl, Message.read_hangup style call party cause⟩

/-- If the call has a name and there is no blank description, what is heard is what was meant. -/
theorem exists_heard {draft : Draft} (fits : draft.Fits) (named : call.text ≠ "")
    (words : ∀ description ∈ draft.description?, Text.allBlank description = false)
    (id : EventId) (sender : UserId) (sentAt : Instant) :
    ∃ message, draft.SaidBy style names call party message ∧
      Signal.ofEvent ⟨id, (draft.write style names call party).kind.eventType, sender, sentAt,
        (draft.write style names call party).content⟩ = .ok ⟨sender, sentAt, message⟩ := by
  obtain ⟨message, said, read⟩ := read_write style names call party fits
  have readable : (draft.description?.elim (.ok ()) fun description =>
      Message.checkDescription draft.kind
        (Description.mask names description).1.description) = .ok () := by
    cases found : draft.description? with
    | none => rfl
    | some description =>
        have masked := Description.allBlank_mask (words description found) names
        simp [Message.checkDescription, masked]
  refine ⟨message, said, ?_⟩
  rw [kind_write, Signal.ofEvent_of_kind, read, readable]
  simp [Message.checkCall, named, Except.map, bind, Except.bind, pure, Except.pure]

end

/-- Decoding undoes encoding, for every kind of message.

The event that is made of what a device writes has the type of its kind and announces the streams
of its masked description. If the call has a name and there is no blank description, the event is
read as the message that was meant. If the call has no name, this is what is reported, and else
that the description is blank. -/
theorem ofEvent_write (style : SignalStyle) (names : Supply) (call : CallId) (party : PartyId)
    (draft : Draft) (fits : draft.Fits) (id : EventId) (sender : UserId) (sentAt : Instant) :
    let written := draft.write style names call party
    let event : TimelineEvent := ⟨id, written.kind.eventType, sender, sentAt, written.content⟩
    written.kind = draft.kind ∧
      written.streams = (draft.description?.map fun description =>
        (Description.mask names description).1.streams).getD [] ∧
      (call.text ≠ "" → (∀ description ∈ draft.description?, Text.allBlank description = false) →
        ∃ message, draft.SaidBy style names call party message ∧
          Signal.ofEvent event = .ok ⟨sender, sentAt, message⟩) ∧
      (call.text = "" → Signal.ofEvent event = .error (.malformed draft.kind .emptyCall)) ∧
      (call.text ≠ "" → (∃ description ∈ draft.description?, Text.allBlank description = true) →
        Signal.ofEvent event = .error (.malformed draft.kind .emptyDescription)) := by
  obtain ⟨message, -, read⟩ := read_write style names call party fits
  refine ⟨kind_write style names call party draft, streams_write style names call party draft,
    fun named words => exists_heard style names call party fits named words id sender sentAt,
    fun unnamed => ?_, fun named blank => ?_⟩
  · rw [kind_write, Signal.ofEvent_of_kind, read]
    simp [Message.checkCall, unnamed, Except.map, bind, Except.bind]
  · obtain ⟨description, found, blank⟩ := blank
    have masked := (Description.allBlank_mask_iff names description).mpr blank
    rw [kind_write, Signal.ofEvent_of_kind, read, Option.mem_def.mp found]
    simp [Message.checkCall, Message.checkDescription, named, masked, Except.map, bind,
      Except.bind]

/-- A batch of one candidate, written and read. -/
theorem ofEvent_write_candidates :
    (Draft.candidates [⟨"candidate:1 1 udp 1 host", 1, "audio"⟩]).Fits ∧
      Signal.ofEvent ⟨⟨"$1"⟩, SignalKind.candidates.eventType, ⟨"@alice:home"⟩, 0,
        ((Draft.candidates [⟨"candidate:1 1 udp 1 host", 1, "audio"⟩]).write {}
          Description.letters ⟨"call"⟩ ⟨"party"⟩).content⟩ =
        .ok ⟨⟨"@alice:home"⟩, 0, .candidates
          ⟨⟨"call"⟩, some ⟨"party"⟩, [⟨"candidate:1 1 udp 1 host", 1, "audio"⟩]⟩⟩ := by
  have fits : (Draft.candidates [⟨"candidate:1 1 udp 1 host", 1, "audio"⟩]).Fits := by
    intro candidate there
    obtain rfl := List.mem_singleton.mp there
    decide
  obtain ⟨-, -, heard, -⟩ := ofEvent_write {} Description.letters ⟨"call"⟩ ⟨"party"⟩ _ fits
    ⟨"$1"⟩ ⟨"@alice:home"⟩ 0
  obtain ⟨message, said, read⟩ := heard (by decide) (by simp [description?])
  rw [SaidBy] at said
  exact ⟨fits, said ▸ read⟩

end Draft

end RoomCall
