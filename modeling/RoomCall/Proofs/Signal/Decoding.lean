import Mathlib.Data.List.Forall2
import RoomCall.Proofs.Signal.Purposes

/-!
# Which contents carry which messages

The readers of messages take the values of fields one after the other. Here is said what they make of
a content as a whole: `Message.Spelled` lists, for each kind of message, the fields that a content
has to have and how their values spell the message. A message is read from exactly the contents that
spell it, if its call has a name and its description is not blank.
-/

namespace RoomCall

namespace Json

/-- A value that spells a case of a choice: the name of the case, or an object with nothing but that
name. -/
def SpellsCase (name : String) (value : Json) : Prop :=
  value = .string name ∨ value = .object [(name, .null)]

/-- A choice is read from what spells one of its cases. -/
theorem choice?_eq_some_iff {α : Type} {cases : List (String × α)} {value : Json} {chosen : α} :
    choice? cases value = some chosen ↔
      ∃ name, SpellsCase name value ∧
        (cases.find? fun candidate => candidate.1 == name).map Prod.snd = some chosen := by
  constructor
  · intro read
    obtain ⟨⟨name, content⟩, spelled, read⟩ := Option.bind_eq_some_iff.mp read
    obtain ⟨_, empty, found⟩ := Option.bind_eq_some_iff.mp read
    refine ⟨name, ?_, found⟩
    unfold case? at spelled
    split at spelled
    · cases spelled
      exact .inl rfl
    · cases spelled
      unfold noContent? at empty
      split at empty
      · rename_i same
        cases same
      · rename_i same
        cases same
        exact .inr rfl
      · cases empty
    · cases spelled
  · rintro ⟨name, rfl | rfl, found⟩
    · exact found
    · exact found

theorem natBelow?_eq_some_iff {bound count : Nat} {value : Json} :
    natBelow? bound value = some count ↔ count < bound ∧ value = .integer count := by
  constructor
  · intro read
    unfold natBelow? at read
    split at read
    · split at read
      · rename_i fits
        obtain rfl := Option.some.inj read
        have same := Int.toNat_of_nonneg fits.1
        refine ⟨?_, by rw [same]⟩
        omega
      · cases read
    · cases read
  · rintro ⟨below, rfl⟩
    have fits : (0 : Int) ≤ count ∧ (count : Int) < bound := by omega
    rw [natBelow?, if_pos fits, Int.toNat_natCast]

theorem text?_eq_some_iff {value : Json} {text : String} :
    text? value = some text ↔ value = .string text := by
  cases value <;> simp [text?]

theorem mapM_eq_some_iff {α β : Type} {read : α → Option β} {items : List α} {contents : List β} :
    items.mapM read = some contents ↔
      List.Forall₂ (fun item content => read item = some content) items contents := by
  induction items generalizing contents with
  | nil => simp [List.forall₂_nil_left_iff, eq_comm]
  | cons item later ih =>
      rw [List.mapM_cons, Option.bind_eq_bind, Option.bind_eq_some_iff, List.forall₂_cons_left_iff]
      constructor
      · rintro ⟨content, here, rest⟩
        obtain ⟨others, there, same⟩ := Option.bind_eq_some_iff.mp rest
        exact ⟨content, others, here, ih.mp there, (Option.some.inj same).symm⟩
      · rintro ⟨content, others, here, there, rfl⟩
        exact ⟨content, here, Option.bind_eq_some_iff.mpr ⟨others, ih.mpr there, rfl⟩⟩

namespace Fields

variable {fields : Fields} {name : String}

/-- A field that has to be there is read from its value. -/
theorem required_eq_some_iff {α : Type} {read : Json → Option α} {content : α} :
    fields.required name read = some content ↔
      ∃ value, fields.value? name = some value ∧ read value = some content :=
  Option.bind_eq_some_iff

/-- A field with a usual value has that one if it is left out. -/
theorem defaulted_eq_some_iff {α : Type} {read : Json → Option α} {default content : α} :
    fields.defaulted name read default = some content ↔
      (fields.value? name = none ∧ default = content) ∨
        ∃ value, fields.value? name = some value ∧ read value = some content := by
  unfold defaulted
  cases fields.value? name <;> simp

end Fields

end Json

/-! ## How values spell the parts of a message -/

namespace Wire

/-- A field that names a party. Where it is missing or null, no party is named. -/
def NamesParty (field : Option Json) : Option PartyId → Prop
  | some party => field = some (.string party.text)
  | none => field = none ∨ field = some .null

/-- A field that gives a cause. Where it is missing or null, no cause is given. -/
def GivesCause (field : Option Json) : Option HangupCause → Prop
  | some cause => ∃ value, field = some value ∧ Json.SpellsCase cause.name value
  | none => field = none ∨ field = some .null

/-- A field for a version, which may be missing: a text or a number that fits a word. -/
def HasVersion (field : Option Json) : Prop :=
  ∀ value ∈ field, (∃ text, value = .string text) ∨
    ∃ count : Nat, count < UInt64.size ∧ value = .integer count

/-- A field for capabilities, which may be missing: an object. -/
def HasCapabilities (field : Option Json) : Prop :=
  ∀ value ∈ field, ∃ members, value = .object members

/-- A value with the purpose of one stream. -/
def SpellsPurpose (value : Json) (purpose : String) : Prop :=
  ∃ fields, Json.fields? ["purpose"] value = some fields ∧
    fields.value? "purpose" = some (.string purpose)

/-- A field with the purposes of streams, under the names of the streams. Where it is missing, there
are none. -/
def GivesPurposes (field : Option Json) (purposes : Purposes) : Prop :=
  (field = none ∧ purposes = []) ∨
    ∃ members, field = some (.object members) ∧
      List.Forall₂ (fun member entry => member.1 = entry.1 ∧ SpellsPurpose member.2 entry.2)
        members purposes

/-- A value with a description and the side it belongs to. -/
def SpellsDescription (value : Json) (description : String) (kind : DescriptionKind) : Prop :=
  ∃ fields type, Json.fields? ["sdp", "type"] value = some fields ∧
    fields.value? "sdp" = some (.string description) ∧
    fields.value? "type" = some type ∧ Json.SpellsCase kind.name type

/-- A value with a candidate. -/
def SpellsCandidate (value : Json) (candidate : Candidate) : Prop :=
  candidate.sectionIndex < UInt32.size ∧
    ∃ fields, Json.fields? ["candidate", "sdpMLineIndex", "sdpMid"] value = some fields ∧
      fields.value? "candidate" = some (.string candidate.line) ∧
      fields.value? "sdpMLineIndex" = some (.integer candidate.sectionIndex) ∧
      fields.value? "sdpMid" = some (.string candidate.sectionName)

/-- What all contents have in common: the name of the call, the party and the version. -/
structure SpellsHeader (fields : Json.Fields) (call : CallId) (party : Option PartyId) : Prop where
  call : fields.value? "call_id" = some (.string call.text)
  party : NamesParty (fields.value? "party_id") party
  version : HasVersion (fields.value? "version")

end Wire

open Wire in
/-- The fields of a content and how they spell a message. The side that a description belongs to
matters for those sent during a call alone. -/
inductive Message.Spelled (content : Json) : Message → Prop where
  | invite {invite : Invite} {fields : Json.Fields} {offer : Json} {kind : DescriptionKind}
      {lifetime : Nat}
      (found : Json.fields? ["call_id", "party_id", "lifetime", "offer", "capabilities", "version",
        Wire.purposesKey] content = some fields)
      (header : SpellsHeader fields invite.call invite.party)
      (lasts : fields.value? "lifetime" = some (.integer lifetime))
      (fits : lifetime < UInt64.size)
      (milliseconds : invite.lifetime = .ofMilliseconds lifetime)
      (offered : fields.value? "offer" = some offer)
      (describes : SpellsDescription offer invite.description kind)
      (capabilities : HasCapabilities (fields.value? "capabilities"))
      (purposes : GivesPurposes (fields.value? Wire.purposesKey) invite.purposes) :
      Spelled content (.invite invite)
  | candidates {batch : CandidateBatch} {fields : Json.Fields}
      (found : Json.fields? ["call_id", "party_id", "candidates", "version"] content = some fields)
      (header : SpellsHeader fields batch.call batch.party)
      (listed : (fields.value? "candidates" = none ∧ batch.candidates = []) ∨
        ∃ items, fields.value? "candidates" = some (.array items) ∧
          List.Forall₂ SpellsCandidate items batch.candidates) :
      Spelled content (.candidates batch)
  | answer {reply : Answer} {fields : Json.Fields} {answer : Json} {kind : DescriptionKind}
      (found : Json.fields? ["call_id", "party_id", "answer", "capabilities", "version",
        Wire.purposesKey] content = some fields)
      (header : SpellsHeader fields reply.call reply.party)
      (answered : fields.value? "answer" = some answer)
      (describes : SpellsDescription answer reply.description kind)
      (capabilities : HasCapabilities (fields.value? "capabilities"))
      (purposes : GivesPurposes (fields.value? Wire.purposesKey) reply.purposes) :
      Spelled content (.answer reply)
  | negotiate {update : Renegotiation} {fields : Json.Fields} {description : Json}
      {kind : DescriptionKind}
      (found : Json.fields? ["call_id", "party_id", "lifetime", "description", "version",
        Wire.purposesKey] content = some fields)
      (header : SpellsHeader fields update.call update.party)
      (lasts : ∀ value ∈ fields.value? "lifetime",
        ∃ lifetime : Nat, lifetime < UInt64.size ∧ value = .integer lifetime)
      (described : fields.value? "description" = some description)
      (describes : SpellsDescription description update.description kind)
      (directed : update.isAnswer = true ↔ kind = .answer)
      (purposes : GivesPurposes (fields.value? Wire.purposesKey) update.purposes) :
      Spelled content (.negotiate update)
  | hangup {ending : Hangup} {fields : Json.Fields}
      (found : Json.fields? ["call_id", "party_id", "version", "reason"] content = some fields)
      (header : SpellsHeader fields ending.call ending.party)
      (cause : GivesCause (fields.value? "reason") ending.cause) :
      Spelled content (.hangup ending)

/-! ## What the readers of the parts accept -/

theorem CallId.ofJson?_eq_some_iff {value : Json} {call : CallId} :
    CallId.ofJson? value = some call ↔ value = .string call.text := by
  rw [ofJson?, Option.map_eq_some_iff]
  constructor
  · rintro ⟨text, spelled, rfl⟩
    exact Json.text?_eq_some_iff.mp spelled
  · intro spelled
    exact ⟨call.text, Json.text?_eq_some_iff.mpr spelled, rfl⟩

theorem PartyId.ofJson?_eq_some_iff {value : Json} {party : PartyId} :
    PartyId.ofJson? value = some party ↔ value = .string party.text := by
  rw [ofJson?, Option.map_eq_some_iff]
  constructor
  · rintro ⟨text, spelled, rfl⟩
    exact Json.text?_eq_some_iff.mp spelled
  · intro spelled
    exact ⟨party.text, Json.text?_eq_some_iff.mpr spelled, rfl⟩

theorem DescriptionKind.ofJson?_eq_some_iff {value : Json} {kind : DescriptionKind} :
    DescriptionKind.ofJson? value = some kind ↔ Json.SpellsCase kind.name value := by
  rw [ofJson?, Json.choice?_eq_some_iff]
  constructor
  · rintro ⟨name, spelled, found⟩
    obtain ⟨⟨key, other⟩, hit, rfl⟩ := Option.map_eq_some_iff.mp found
    obtain rfl : key = name := by simpa using List.find?_some hit
    have listed := List.mem_of_find?_eq_some hit
    cases other <;> simp_all [DescriptionKind.name]
  · intro spelled
    exact ⟨kind.name, spelled, by cases kind <;> rfl⟩

theorem HangupCause.ofJson?_eq_some_iff {value : Json} {cause : HangupCause} :
    HangupCause.ofJson? value = some cause ↔ Json.SpellsCase cause.name value := by
  rw [ofJson?, Json.choice?_eq_some_iff]
  constructor
  · rintro ⟨name, spelled, found⟩
    obtain ⟨⟨key, other⟩, hit, rfl⟩ := Option.map_eq_some_iff.mp found
    obtain rfl : key = name := by simpa using List.find?_some hit
    obtain ⟨one, -, same⟩ := List.mem_map.mp (List.mem_of_find?_eq_some hit)
    obtain ⟨rfl, rfl⟩ := Prod.mk.inj same
    exact spelled
  · intro spelled
    exact ⟨cause.name, spelled, by cases cause <;> rfl⟩

/-- A candidate is read from what spells it. -/
theorem Candidate.ofJson?_eq_some_iff {value : Json} {candidate : Candidate} :
    Candidate.ofJson? value = some candidate ↔ Wire.SpellsCandidate value candidate := by
  simp only [ofJson?, Option.bind_eq_bind, Option.bind_eq_some_iff, Option.pure_def,
    Option.some.injEq, Json.Fields.required_eq_some_iff, Json.text?_eq_some_iff, Json.word32?,
    Json.natBelow?_eq_some_iff]
  constructor
  · rintro ⟨fields, found, line, ⟨_, lineGiven, rfl⟩, place, ⟨_, placeGiven, fits, rfl⟩, name,
      ⟨_, nameGiven, rfl⟩, rfl⟩
    exact ⟨fits, fields, found, lineGiven, placeGiven, nameGiven⟩
  · rintro ⟨fits, fields, found, lineGiven, placeGiven, nameGiven⟩
    exact ⟨fields, found, candidate.line, ⟨_, lineGiven, rfl⟩, candidate.sectionIndex,
      ⟨_, placeGiven, fits, rfl⟩, candidate.sectionName, ⟨_, nameGiven, rfl⟩, rfl⟩

namespace Wire

variable {fields : Json.Fields}

/-- A description is read from what spells it. -/
theorem SessionDescription.ofJson?_eq_some_iff {value : Json} {content : SessionDescription} :
    SessionDescription.ofJson? value = some content ↔
      SpellsDescription value content.description content.kind := by
  simp only [ofJson?, Option.bind_eq_bind, Option.bind_eq_some_iff, Option.pure_def,
    Option.some.injEq, Json.Fields.required_eq_some_iff, Json.text?_eq_some_iff,
    DescriptionKind.ofJson?_eq_some_iff]
  constructor
  · rintro ⟨fields, found, description, ⟨_, descriptionGiven, rfl⟩, kind, ⟨type, typeGiven, spelled⟩,
      rfl⟩
    exact ⟨fields, type, found, descriptionGiven, typeGiven, spelled⟩
  · rintro ⟨fields, type, found, descriptionGiven, typeGiven, spelled⟩
    exact ⟨fields, found, content.description, ⟨_, descriptionGiven, rfl⟩, content.kind,
      ⟨type, typeGiven, spelled⟩, rfl⟩

theorem party?_eq_some_iff {party : Option PartyId} :
    party? fields = some party ↔ NamesParty (fields.value? "party_id") party := by
  have nullable {value : Json} : Json.nullable? PartyId.ofJson? value = some party ↔
      NamesParty (some value) party := by
    cases party with
    | none => cases value <;> simp [Json.nullable?, NamesParty]
    | some known =>
        have text := @PartyId.ofJson?_eq_some_iff value known
        cases value <;> simp_all [Json.nullable?, NamesParty]
  rw [party?, Json.Fields.defaulted_eq_some_iff]
  cases fields.value? "party_id" with
  | none => cases party <;> simp [NamesParty]
  | some value => simp [nullable]

theorem cause?_eq_some_iff {cause : Option HangupCause} :
    fields.defaulted "reason" (Json.nullable? HangupCause.ofJson?) none = some cause ↔
      GivesCause (fields.value? "reason") cause := by
  have nullable {value : Json} : Json.nullable? HangupCause.ofJson? value = some cause ↔
      GivesCause (some value) cause := by
    cases cause with
    | none => cases value <;> simp [Json.nullable?, GivesCause]
    | some known =>
        have spelled := @HangupCause.ofJson?_eq_some_iff value known
        cases value <;> simp_all [Json.nullable?, GivesCause, Json.SpellsCase]
  rw [Json.Fields.defaulted_eq_some_iff]
  cases fields.value? "reason" with
  | none => cases cause <;> simp [GivesCause]
  | some value => simp [nullable]

/-- A version can be read if none is given, or a text or a number that fits a word. -/
theorem exists_version?_iff :
    (∃ version, version? fields = some version) ↔ HasVersion (fields.value? "version") := by
  have reads {value : Json} : (∃ version, Version.ofJson? value = some version) ↔
      (∃ text, value = .string text) ∨ ∃ count : Nat, count < UInt64.size ∧ value = .integer count := by
    have number : (∃ version, (Json.word64? value).map Version.number = some version) ↔
        ∃ count : Nat, count < UInt64.size ∧ value = .integer count := by
      simp only [Option.map_eq_some_iff, Json.word64?, Json.natBelow?_eq_some_iff]
      constructor
      · rintro ⟨_, count, spelled, -⟩
        exact ⟨count, spelled⟩
      · rintro ⟨count, spelled⟩
        exact ⟨_, count, spelled, rfl⟩
    cases value with
    | string text => exact ⟨fun _ => .inl ⟨text, rfl⟩, fun _ => ⟨.text text, rfl⟩⟩
    | _ => exact number.trans ⟨.inr, fun either => either.resolve_left (by rintro ⟨_, ⟨⟩⟩)⟩
  simp only [version?, Json.Fields.defaulted_eq_some_iff]
  cases fields.value? "version" with
  | none => simp [HasVersion]
  | some value => simpa [HasVersion] using reads

theorem exists_capabilities?_iff :
    (∃ capabilities, capabilities? fields = some capabilities) ↔
      HasCapabilities (fields.value? "capabilities") := by
  simp only [capabilities?, Json.Fields.defaulted_eq_some_iff]
  cases fields.value? "capabilities" with
  | none => simp [HasCapabilities]
  | some value => cases value <;> simp [HasCapabilities, Json.members?]

theorem exists_lifetime?_iff :
    (∃ lifetime, fields.defaulted "lifetime" Json.word64? 0 = some lifetime) ↔
      ∀ value ∈ fields.value? "lifetime",
        ∃ lifetime : Nat, lifetime < UInt64.size ∧ value = .integer lifetime := by
  simp only [Json.Fields.defaulted_eq_some_iff, Json.word64?, Json.natBelow?_eq_some_iff]
  cases fields.value? "lifetime" with
  | none => simp
  | some value => simp [and_comm]

theorem purpose?_eq_some_iff {value : Json} {purpose : String} :
    purpose? value = some purpose ↔ SpellsPurpose value purpose := by
  simp only [purpose?, Option.bind_eq_bind, Option.bind_eq_some_iff,
    Json.Fields.required_eq_some_iff, Json.text?_eq_some_iff, SpellsPurpose]
  constructor
  · rintro ⟨fields, found, _, given, rfl⟩
    exact ⟨fields, found, given⟩
  · rintro ⟨fields, found, given⟩
    exact ⟨fields, found, _, given, rfl⟩

/-- Purposes are read from the table that gives them. -/
theorem purposes?_eq_some_iff {purposes : Purposes} :
    purposes? fields = some purposes ↔ GivesPurposes (fields.value? purposesKey) purposes := by
  have entry (member : String × Json) (entry : String × String) :
      ((purpose? member.2).map fun content => (member.1, content)) = some entry ↔
        member.1 = entry.1 ∧ SpellsPurpose member.2 entry.2 := by
    rw [Option.map_eq_some_iff, ← purpose?_eq_some_iff]
    constructor
    · rintro ⟨purpose, given, rfl⟩
      exact ⟨rfl, given⟩
    · rintro ⟨same, given⟩
      exact ⟨entry.2, given, Prod.ext same rfl⟩
  have table {value : Json} : Json.table? purpose? value = some purposes ↔
      ∃ members, value = .object members ∧
        List.Forall₂ (fun member entry => member.1 = entry.1 ∧ SpellsPurpose member.2 entry.2)
          members purposes := by
    cases value with
    | object members =>
        rw [Json.table?]
        simp only [Json.mapM_eq_some_iff, entry, Json.object.injEq, exists_eq_left']
    | _ => simp [Json.table?]
  rw [purposes?, Json.Fields.defaulted_eq_some_iff, GivesPurposes]
  cases fields.value? purposesKey with
  | none => simp [eq_comm]
  | some value => simp [table]

/-- Candidates are read from the array that spells them one by one, and there are none without one.
-/
theorem candidates?_eq_some_iff {candidates : List Candidate} :
    fields.defaulted "candidates" (Json.list? Candidate.ofJson?) [] = some candidates ↔
      (fields.value? "candidates" = none ∧ candidates = []) ∨
        ∃ items, fields.value? "candidates" = some (.array items) ∧
          List.Forall₂ SpellsCandidate items candidates := by
  have list {value : Json} : Json.list? Candidate.ofJson? value = some candidates ↔
      ∃ items, value = .array items ∧ List.Forall₂ SpellsCandidate items candidates := by
    cases value with
    | array items =>
        rw [Json.list?]
        simp only [Json.mapM_eq_some_iff, Candidate.ofJson?_eq_some_iff, Json.array.injEq,
          exists_eq_left']
    | _ => simp [Json.list?]
  rw [Json.Fields.defaulted_eq_some_iff]
  cases fields.value? "candidates" with
  | none => simp [eq_comm]
  | some value => simp [list]

end Wire

namespace Wire

variable {fields : Json.Fields}

/-- What all events have in common is spelled where it can be read. -/
theorem spellsHeader_iff {call : CallId} {party : Option PartyId} :
    SpellsHeader fields call party ↔
      fields.required "call_id" CallId.ofJson? = some call ∧ party? fields = some party ∧
        ∃ version, version? fields = some version := by
  simp only [Json.Fields.required_eq_some_iff, CallId.ofJson?_eq_some_iff, party?_eq_some_iff,
    exists_version?_iff]
  constructor
  · rintro ⟨call, party, version⟩
    exact ⟨⟨_, call, rfl⟩, party, version⟩
  · rintro ⟨⟨_, call, rfl⟩, party, version⟩
    exact ⟨call, party, version⟩

theorem word64?_field_iff {name : String} {count : Nat} :
    fields.required name Json.word64? = some count ↔
      fields.value? name = some (.integer count) ∧ count < UInt64.size := by
  simp only [Json.Fields.required_eq_some_iff, Json.word64?, Json.natBelow?_eq_some_iff]
  constructor
  · rintro ⟨_, given, fits, rfl⟩
    exact ⟨given, fits⟩
  · rintro ⟨given, fits⟩
    exact ⟨_, given, fits, rfl⟩

theorem description?_field_iff {name : String} {content : SessionDescription} :
    fields.required name SessionDescription.ofJson? = some content ↔
      ∃ value, fields.value? name = some value ∧
        SpellsDescription value content.description content.kind := by
  simp only [Json.Fields.required_eq_some_iff, SessionDescription.ofJson?_eq_some_iff]

end Wire

/-! ## What the readers of messages accept -/

namespace Message

theorem bind_eq_ok_iff {α β : Type} {first : Except SignalError α}
    {next : α → Except SignalError β} {result : β} :
    (first >>= next) = .ok result ↔ ∃ value, first = .ok value ∧ next value = .ok result := by
  cases first <;> simp [bind, Except.bind]

theorem readForm_eq_ok_iff {α : Type} {kind : SignalKind} {read : Json → Option α} {content : Json}
    {value : α} : readForm kind read content = .ok value ↔ read content = some value := by
  unfold readForm
  cases read content <;> simp

theorem checkCall_eq_ok_iff {kind : SignalKind} {call : CallId} {done : Unit} :
    checkCall kind call = .ok done ↔ call.text ≠ "" := by
  unfold checkCall
  split <;> simp_all

theorem checkDescription_eq_ok_iff {kind : SignalKind} {description : String} {done : Unit} :
    checkDescription kind description = .ok done ↔ Text.allBlank description = false := by
  unfold checkDescription
  split <;> simp_all

/-- A message whose call has a name and whose description, if it has one, is not blank. -/
structure Complete (message : Message) : Prop where
  named : message.call.text ≠ ""
  described : ∀ description ∈ message.description?, Text.allBlank description = false

variable {content : Json}

/-- An invite is read from what spells it if its call has a name and its description is not blank.
-/
theorem readInvite_eq_ok_iff {invite : Invite} :
    readInvite content = .ok invite ↔
      Spelled content (.invite invite) ∧ Complete (.invite invite) := by
  simp only [readInvite, bind_eq_ok_iff, readForm_eq_ok_iff, checkCall_eq_ok_iff,
    checkDescription_eq_ok_iff, Wire.Invite.ofJson?, Option.bind_eq_bind, Option.bind_eq_some_iff,
    Option.pure_def, Option.some.injEq]
  constructor
  · rintro ⟨_, ⟨fields, found, call, callGiven, party, partyGiven, lifetime, lifetimeGiven, offer,
      offerGiven, capabilities, capabilitiesGiven, version, versionGiven, purposes, purposesGiven,
      rfl⟩, -, named, -, described, made⟩
    cases made
    obtain ⟨lasts, fits⟩ := Wire.word64?_field_iff.mp lifetimeGiven
    obtain ⟨value, offered, describes⟩ := Wire.description?_field_iff.mp offerGiven
    refine ⟨.invite found ?_ lasts fits rfl offered describes ?_ ?_, named, by simpa [description?]⟩
    · exact Wire.spellsHeader_iff.mpr ⟨callGiven, partyGiven, version, versionGiven⟩
    · exact Wire.exists_capabilities?_iff.mp ⟨capabilities, capabilitiesGiven⟩
    · exact Wire.purposes?_eq_some_iff.mp purposesGiven
  · rintro ⟨spelled, named, described⟩
    cases spelled with
    | @invite _ fields offer kind lifetime found header lasts fits milliseconds offered describes
        capabilities purposes =>
        obtain ⟨callGiven, partyGiven, version, versionGiven⟩ := Wire.spellsHeader_iff.mp header
        obtain ⟨kept, capabilitiesGiven⟩ := Wire.exists_capabilities?_iff.mpr capabilities
        refine ⟨⟨_, _, lifetime, ⟨invite.description, kind⟩, kept, version, _⟩,
          ⟨fields, found, _, callGiven, _, partyGiven, _, Wire.word64?_field_iff.mpr ⟨lasts, fits⟩,
            _, Wire.description?_field_iff.mpr ⟨offer, offered, describes⟩, _, capabilitiesGiven, _,
            versionGiven, _, Wire.purposes?_eq_some_iff.mpr purposes, rfl⟩,
          (), named, (), described _ rfl, ?_⟩
        rw [← milliseconds]
        rfl

/-- Candidates are read from what spells them if their call has a name. -/
theorem readCandidates_eq_ok_iff {batch : CandidateBatch} :
    readCandidates content = .ok batch ↔
      Spelled content (.candidates batch) ∧ Complete (.candidates batch) := by
  simp only [readCandidates, bind_eq_ok_iff, readForm_eq_ok_iff, checkCall_eq_ok_iff,
    Wire.Candidates.ofJson?, Option.bind_eq_bind, Option.bind_eq_some_iff, Option.pure_def,
    Option.some.injEq]
  constructor
  · rintro ⟨_, ⟨fields, found, call, callGiven, party, partyGiven, candidates, candidatesGiven,
      version, versionGiven, rfl⟩, -, named, made⟩
    cases made
    refine ⟨.candidates found ?_ (Wire.candidates?_eq_some_iff.mp candidatesGiven), named, by simp [description?]⟩
    exact Wire.spellsHeader_iff.mpr ⟨callGiven, partyGiven, version, versionGiven⟩
  · rintro ⟨spelled, named, -⟩
    cases spelled with
    | candidates found header listed =>
        obtain ⟨callGiven, partyGiven, version, versionGiven⟩ := Wire.spellsHeader_iff.mp header
        exact ⟨⟨_, _, _, version⟩, ⟨_, found, _, callGiven, _, partyGiven, _,
          Wire.candidates?_eq_some_iff.mpr listed, _, versionGiven, rfl⟩, (), named, rfl⟩

theorem readAnswer_eq_ok_iff {reply : Answer} :
    readAnswer content = .ok reply ↔
      Spelled content (.answer reply) ∧ Complete (.answer reply) := by
  simp only [readAnswer, bind_eq_ok_iff, readForm_eq_ok_iff, checkCall_eq_ok_iff,
    checkDescription_eq_ok_iff, Wire.Answer.ofJson?, Option.bind_eq_bind, Option.bind_eq_some_iff,
    Option.pure_def, Option.some.injEq]
  constructor
  · rintro ⟨_, ⟨fields, found, call, callGiven, party, partyGiven, answer, answerGiven,
      capabilities, capabilitiesGiven, version, versionGiven, purposes, purposesGiven, rfl⟩, -,
      named, -, described, made⟩
    cases made
    obtain ⟨value, answered, describes⟩ := Wire.description?_field_iff.mp answerGiven
    refine ⟨.answer found ?_ answered describes ?_ ?_, named, by simpa [description?]⟩
    · exact Wire.spellsHeader_iff.mpr ⟨callGiven, partyGiven, version, versionGiven⟩
    · exact Wire.exists_capabilities?_iff.mp ⟨capabilities, capabilitiesGiven⟩
    · exact Wire.purposes?_eq_some_iff.mp purposesGiven
  · rintro ⟨spelled, named, described⟩
    cases spelled with
    | @answer _ fields value kind found header answered describes capabilities purposes =>
        obtain ⟨callGiven, partyGiven, version, versionGiven⟩ := Wire.spellsHeader_iff.mp header
        obtain ⟨kept, capabilitiesGiven⟩ := Wire.exists_capabilities?_iff.mpr capabilities
        exact ⟨⟨_, _, ⟨reply.description, kind⟩, kept, version, _⟩,
          ⟨fields, found, _, callGiven, _, partyGiven, _,
            Wire.description?_field_iff.mpr ⟨value, answered, describes⟩, _, capabilitiesGiven, _,
            versionGiven, _, Wire.purposes?_eq_some_iff.mpr purposes, rfl⟩,
          (), named, (), described _ rfl, rfl⟩

/-- A further description is read like an invite. -/
theorem readNegotiate_eq_ok_iff {update : Renegotiation} :
    readNegotiate content = .ok update ↔
      Spelled content (.negotiate update) ∧ Complete (.negotiate update) := by
  simp only [readNegotiate, bind_eq_ok_iff, readForm_eq_ok_iff, checkCall_eq_ok_iff,
    checkDescription_eq_ok_iff, Wire.Negotiate.ofJson?, Option.bind_eq_bind,
    Option.bind_eq_some_iff, Option.pure_def, Option.some.injEq]
  constructor
  · rintro ⟨_, ⟨fields, found, call, callGiven, party, partyGiven, lifetime, lifetimeGiven, sent,
      sentGiven, version, versionGiven, purposes, purposesGiven, rfl⟩, -, named, -, described, made⟩
    cases made
    obtain ⟨value, given, describes⟩ := Wire.description?_field_iff.mp sentGiven
    refine ⟨.negotiate found ?_ ?_ given describes (by simp) ?_, named, by simpa [description?]⟩
    · exact Wire.spellsHeader_iff.mpr ⟨callGiven, partyGiven, version, versionGiven⟩
    · exact Wire.exists_lifetime?_iff.mp ⟨lifetime, lifetimeGiven⟩
    · exact Wire.purposes?_eq_some_iff.mp purposesGiven
  · rintro ⟨spelled, named, described⟩
    cases spelled with
    | @negotiate _ fields value kind found header lasts given describes directed purposes =>
        obtain ⟨callGiven, partyGiven, version, versionGiven⟩ := Wire.spellsHeader_iff.mp header
        obtain ⟨lifetime, lifetimeGiven⟩ := Wire.exists_lifetime?_iff.mpr lasts
        have side : decide (kind = .answer) = update.isAnswer := by
          rw [Bool.eq_iff_iff, decide_eq_true_iff, directed]
        refine ⟨⟨_, _, lifetime, ⟨update.description, kind⟩, version, _⟩,
          ⟨fields, found, _, callGiven, _, partyGiven, _, lifetimeGiven, _,
            Wire.description?_field_iff.mpr ⟨value, given, describes⟩, _, versionGiven, _,
            Wire.purposes?_eq_some_iff.mpr purposes, rfl⟩,
          (), named, (), described _ rfl, ?_⟩
        rw [side]
        rfl

theorem readHangup_eq_ok_iff {ending : Hangup} :
    readHangup content = .ok ending ↔
      Spelled content (.hangup ending) ∧ Complete (.hangup ending) := by
  simp only [readHangup, bind_eq_ok_iff, readForm_eq_ok_iff, checkCall_eq_ok_iff,
    Wire.Hangup.ofJson?, Option.bind_eq_bind, Option.bind_eq_some_iff, Option.pure_def,
    Option.some.injEq]
  constructor
  · rintro ⟨_, ⟨fields, found, call, callGiven, party, partyGiven, version, versionGiven, cause,
      causeGiven, rfl⟩, -, named, made⟩
    cases made
    refine ⟨.hangup found ?_ (Wire.cause?_eq_some_iff.mp causeGiven), named, by simp [description?]⟩
    exact Wire.spellsHeader_iff.mpr ⟨callGiven, partyGiven, version, versionGiven⟩
  · rintro ⟨spelled, named, -⟩
    cases spelled with
    | hangup found header cause =>
        obtain ⟨callGiven, partyGiven, version, versionGiven⟩ := Wire.spellsHeader_iff.mp header
        exact ⟨⟨_, _, version, _⟩, ⟨_, found, _, callGiven, _, partyGiven, _, versionGiven, _,
          Wire.cause?_eq_some_iff.mpr cause, rfl⟩, (), named, rfl⟩

theorem map_eq_ok_iff {α : Type} {first : Except SignalError α} {wrap : α → Message}
    {message : Message} :
    first.map wrap = .ok message ↔ ∃ value, first = .ok value ∧ wrap value = message := by
  cases first <;> simp [Except.map]

/-- The message of a kind is read from exactly the contents that spell it, if it is complete. -/
theorem read_eq_ok_iff {kind : SignalKind} {message : Message} :
    read kind content = .ok message ↔
      message.kind = kind ∧ Spelled content message ∧ message.Complete := by
  cases kind <;> cases message <;>
    simp [read, map_eq_ok_iff, Message.kind, readInvite_eq_ok_iff, readCandidates_eq_ok_iff,
      readAnswer_eq_ok_iff, readNegotiate_eq_ok_iff, readHangup_eq_ok_iff]

end Message

/-- Each kind of signal has one type of event. -/
theorem SignalKind.ofEventType?_eq_some_iff {type : String} {kind : SignalKind} :
    SignalKind.ofEventType? type = some kind ↔ type = kind.eventType := by
  constructor
  · intro found
    simpa [eq_comm] using List.find?_some found
  · rintro rfl
    exact ofEventType?_eventType kind

/-- An event carries a signal exactly if its type is the one for the kind of the message, its content
spells the message, the call has a name and the description, where the message has one, is not blank.
The signal has the sender and the time of the event. The side that the description of an invite or an
answer belongs to is read, but it may be either. -/
theorem Signal.carried_iff_spelled {event : TimelineEvent} {signal : Signal} :
    Signal.ofEvent event = .ok signal ↔
      signal.sender = event.sender ∧ signal.sentAt = event.sentAt ∧
        event.type = signal.message.kind.eventType ∧ signal.message.Spelled event.content ∧
        signal.message.call.text ≠ "" ∧
        ∀ description ∈ signal.message.description?, Text.allBlank description = false := by
  rw [ofEvent_eq_ok_iff]
  constructor
  · rintro ⟨kind, message, named, read, rfl⟩
    obtain ⟨rfl, spelled, complete⟩ := Message.read_eq_ok_iff.mp read
    exact ⟨rfl, rfl, SignalKind.ofEventType?_eq_some_iff.mp named, spelled, complete.named,
      complete.described⟩
  · rintro ⟨sender, sentAt, named, spelled, call, described⟩
    refine ⟨signal.message.kind, signal.message, SignalKind.ofEventType?_eq_some_iff.mpr named,
      Message.read_eq_ok_iff.mpr ⟨rfl, spelled, call, described⟩, ?_⟩
    rw [← sender, ← sentAt]

/-- The content of an invite whose description is marked as an answer. -/
def crossedContent : Json :=
  .object [("call_id", .string "c1"), ("lifetime", .ofNat 60000),
    ("offer", .object [("sdp", .string "v=0"), ("type", .string "answer")])]

/-- An invite is read although its description is marked as an answer. -/
theorem exists_crossed_invite :
    ∃ (event : TimelineEvent) (signal : Signal) (invite : Invite) (offer : List (String × Json)),
      Signal.ofEvent event = .ok signal ∧ signal.message = .invite invite ∧
        event.content = .object [("call_id", .string "c1"), ("lifetime", .ofNat 60000),
          ("offer", .object offer)] ∧
        Json.member? "type" offer = some (.string "answer") := by
  let invite : Invite := ⟨⟨"c1"⟩, none, "v=0", .ofMilliseconds 60000, []⟩
  have spelled : Message.Spelled crossedContent (.invite invite) := by
    have describes : Wire.SpellsDescription
        (.object [("sdp", .string "v=0"), ("type", .string "answer")]) "v=0" .answer :=
      ⟨_, .string "answer", rfl, rfl, rfl, .inl rfl⟩
    exact .invite rfl ⟨rfl, .inl rfl, nofun⟩ rfl (by decide) rfl rfl describes nofun
      (.inl ⟨rfl, rfl⟩)
  have read : Message.read .invite crossedContent = .ok (.invite invite) := by
    refine Message.read_eq_ok_iff.mpr ⟨rfl, spelled, by decide, ?_⟩
    rintro _ ⟨⟩
    decide
  refine ⟨⟨⟨"$1"⟩, SignalKind.invite.eventType, ⟨"@bob:home"⟩, 0, crossedContent⟩,
    ⟨⟨"@bob:home"⟩, 0, .invite invite⟩, invite, _, ?_, rfl, rfl, rfl⟩
  rw [Signal.ofEvent_of_kind, read]
  rfl

end RoomCall
