import RoomCall.Proofs.Signal.Forms
import RoomCall.Signal.Reading
import RoomCall.Signal.Writing

/-!
# Reading back what was written

Each kind of message is read back from the content that a device writes for it: the same call, the
same party, and the masked description or the candidates. A message is refused only for what its
sender put into it, an empty call name or a blank description.
-/

namespace RoomCall

namespace Wire

variable (call : CallId) (party : PartyId) (version : String)

/-- What the fields of a candidates event are read to, with any reader for the candidates: were it
the actual one, the kernel would evaluate the comparison with the bound of a word. -/
theorem candidates_fields (read : Json → Option (List RoomCall.Candidate)) (json : Json) :
    (do
      let fields ← Json.fields? ["call_id", "party_id", "candidates", "version"] (Json.ofMembers
        [("call_id", .string call.text), ("party_id", .string party.text), ("candidates", json),
          ("version", .string version)])
      let call ← fields.required "call_id" CallId.ofJson?
      let party ← party? fields
      let candidates ← fields.defaulted "candidates" read []
      let version ← version? fields
      return (⟨call, party, candidates, version⟩ : Candidates)) =
      (read json).map fun found => ⟨call, some party, found, .text version⟩ := by
  rw [Json.fields?_ofMembers]
  exact (Option.map_eq_bind).symm

/-- Candidates are read back one by one. -/
theorem Candidates.ofJson?_toJson (candidates : List RoomCall.Candidate) :
    Candidates.ofJson? (toJson ⟨call, some party, candidates, .text version⟩) =
      (Json.list? RoomCall.Candidate.ofJson?
        (.array (candidates.map RoomCall.Candidate.toJson))).map
        fun found => ⟨call, some party, found, .text version⟩ :=
  candidates_fields call party version _ _

end Wire

namespace Message

/-- A content is wrapped into a message after it was checked. -/
theorem map_checked {α β : Type} (wrap : α → β) (first second : Except SignalError Unit) (value : α) :
    Except.map wrap (do first; second; return value) = (do first; second; return wrap value) := by
  cases first <;> cases second <;> rfl

theorem read_invite_of_form {content : Json} {wire : Wire.Invite}
    (form : Wire.Invite.ofJson? content = some wire) :
    read .invite content = (do
      checkCall .invite wire.call
      checkDescription .invite wire.offer.description
      return .invite {
        call := wire.call
        party := wire.party
        description := wire.offer.description
        lifetime := .ofMilliseconds wire.lifetime
        purposes := wire.purposes }) := by
  simp only [read, readInvite, readForm, form]
  exact map_checked Message.invite _ _ _

theorem read_negotiate_of_form {content : Json} {wire : Wire.Negotiate}
    (form : Wire.Negotiate.ofJson? content = some wire) :
    read .negotiate content = (do
      checkCall .negotiate wire.call
      checkDescription .negotiate wire.description.description
      return .negotiate {
        call := wire.call
        party := wire.party
        description := wire.description.description
        isAnswer := wire.description.kind = .answer
        purposes := wire.purposes }) := by
  simp only [read, readNegotiate, readForm, form]
  exact map_checked Message.negotiate _ _ _

theorem wireLifetime_lt (lifetime : Duration) :
    SignalStyle.wireLifetime lifetime < UInt64.size :=
  Nat.lt_of_le_of_lt (Nat.min_le_right _ SignalStyle.longestLifetime) (by decide)

variable (style : SignalStyle) (names : Supply) (call : CallId) (party : PartyId)

/-- Reading an invite back checks the call name and the description, and nothing else. -/
theorem read_invite (lifetime : Duration) (description : String) :
    read .invite (style.invite names call party lifetime description).1.content = (do
      checkCall .invite call
      checkDescription .invite (Description.mask names description).1.description
      return .invite {
        call := call
        party := some party
        description := (Description.mask names description).1.description
        lifetime := .ofMilliseconds (SignalStyle.wireLifetime lifetime)
        purposes := style.purposes (Description.mask names description).1.streams }) := by
  have form : Wire.Invite.ofJson? (style.invite names call party lifetime description).1.content =
      some ⟨call, some party, SignalStyle.wireLifetime lifetime,
        ⟨(Description.mask names description).1.description, .offer⟩, SignalStyle.capabilities,
        .text style.version, style.purposes (Description.mask names description).1.streams⟩ :=
    Json.Returns.undoes (Wire.Invite.returns (Json.returns_word64 (wireLifetime_lt lifetime)) rfl
      (Wire.Version.returns_text style.version) (Wire.returns_purposes _))
  exact read_invite_of_form form

theorem read_negotiate (lifetime : Duration) (description : String) (kind : DescriptionKind) :
    read .negotiate (style.negotiate names call party lifetime description kind).1.content = (do
      checkCall .negotiate call
      checkDescription .negotiate (Description.mask names description).1.description
      return .negotiate {
        call := call
        party := some party
        description := (Description.mask names description).1.description
        isAnswer := kind = .answer
        purposes := style.purposes (Description.mask names description).1.streams }) := by
  have form :
      Wire.Negotiate.ofJson?
          (style.negotiate names call party lifetime description kind).1.content = some
        ⟨call, some party, SignalStyle.wireLifetime lifetime,
          ⟨(Description.mask names description).1.description, kind⟩, .text style.version,
          style.purposes (Description.mask names description).1.streams⟩ :=
    Json.Returns.undoes (Wire.Negotiate.returns (Json.returns_word64 (wireLifetime_lt lifetime))
      (Wire.Version.returns_text style.version) (Wire.returns_purposes _))
  exact read_negotiate_of_form form

theorem read_answer (description : String) :
    read .answer (style.answer names call party description).1.content = (do
      checkCall .answer call
      checkDescription .answer (Description.mask names description).1.description
      return .answer {
        call := call
        party := some party
        description := (Description.mask names description).1.description
        purposes := style.purposes (Description.mask names description).1.streams }) := by
  have form : Wire.Answer.ofJson? (style.answer names call party description).1.content = some
      ⟨call, some party, ⟨(Description.mask names description).1.description, .answer⟩,
        SignalStyle.capabilities, .text style.version,
        style.purposes (Description.mask names description).1.streams⟩ :=
    Json.Returns.undoes (Wire.Answer.returns rfl (Wire.Version.returns_text style.version)
      (Wire.returns_purposes _))
  simp only [read, readAnswer, readForm, form]
  exact map_checked Message.answer _ _ _

/-- Reading candidates back succeeds if every candidate can be read back. -/
theorem read_candidates (found : List Candidate) :
    read .candidates (style.candidates call party found).content =
      match Json.list? Candidate.ofJson? (.array (found.map Candidate.toJson)) with
      | some readable => (do
          checkCall .candidates call
          return .candidates { call := call, party := some party, candidates := readable })
      | none => .error (.malformed .candidates .form) := by
  have form : Wire.Candidates.ofJson? (style.candidates call party found).content =
      (Json.list? Candidate.ofJson? (.array (found.map Candidate.toJson))).map
        fun readable => ⟨call, some party, readable, .text style.version⟩ :=
    Wire.Candidates.ofJson?_toJson _ _ _ _
  simp only [read, readCandidates, readForm, form]
  cases Json.list? Candidate.ofJson? (.array (found.map Candidate.toJson)) with
  | none => rfl
  | some readable => exact map_checked Message.candidates (checkCall .candidates call) (.ok ()) _

theorem read_hangup (cause : Option HangupCause) :
    read .hangup (style.hangup call party cause).content = (do
      checkCall .hangup call
      return .hangup { call := call, party := some party, cause := cause }) := by
  have form : Wire.Hangup.ofJson? (style.hangup call party cause).content = some
      ⟨call, some party, .text style.version, cause⟩ :=
    Json.Returns.undoes (Wire.Hangup.returns (Wire.Version.returns_text style.version))
  simp only [read, readHangup, readForm, form]
  exact map_checked Message.hangup (checkCall .hangup call) (.ok ()) _

end Message

/-! ## Events -/

theorem SignalKind.ofEventType?_eventType (kind : SignalKind) :
    SignalKind.ofEventType? kind.eventType = some kind := by
  cases kind <;> decide

/-- A signal has the sender and the time of the event that carries it. -/
theorem Signal.ofEvent_eq_ok_iff {event : TimelineEvent} {signal : Signal} :
    Signal.ofEvent event = .ok signal ↔
      ∃ kind message, SignalKind.ofEventType? event.type = some kind ∧
        Message.read kind event.content = .ok message ∧
        signal = ⟨event.sender, event.sentAt, message⟩ := by
  unfold Signal.ofEvent
  generalize SignalKind.ofEventType? event.type = found
  cases found with
  | none => simp [bind, Except.bind]
  | some kind =>
      cases read : Message.read kind event.content with
      | error fault => simp [bind, Except.bind, read]
      | ok message => simp [bind, Except.bind, pure, Except.pure, read, eq_comm]

/-- An event of a known kind is read by the content. -/
theorem Signal.ofEvent_of_kind (kind : SignalKind) (id : EventId) (sender : UserId) (sentAt : Instant)
    (content : Json) :
    ofEvent ⟨id, kind.eventType, sender, sentAt, content⟩ =
      (Message.read kind content).map fun message => ⟨sender, sentAt, message⟩ := by
  rw [ofEvent]
  simp only [SignalKind.ofEventType?_eventType]
  cases read : Message.read kind content <;>
    simp [read, Except.map, bind, Except.bind, pure, Except.pure]

end RoomCall
