import RoomCall.Proofs.Host.Forms

/-!
# What the readers accept

That a form is canonical says nothing of a reader that refuses everything. The readers here accept
what is written of any content whose numbers fit the words they are read into. They take the fields
of a record in their order as well as by name, and to leave out a field that has a usual value is to
give it that value.
-/

namespace RoomCall

open Json

/-! ## Two ways to give the fields of a record -/

namespace Json

variable {α : Type} {names : List String} {read : Json → Option α} {name key : String}
  {value : Json} {members : List (String × Json)}

/-- Whether a reader takes an array for the object that has its items under the given names, in
their order. The last items may be missing, but there may not be more. -/
structure ReadsByPosition (names : List String) (read : Json → Option α) : Prop where
  as_named : ∀ items : List Json, items.length ≤ names.length →
    read (.array items) = read (.object (names.zip items))
  refuses_longer : ∀ items : List Json, names.length < items.length → read (.array items) = none

/-- The item at the place of a name is the one that the name is paired with. -/
theorem getElem?_idxOf {items : List Json} (short : items.length ≤ names.length) (name : String) :
    items[names.idxOf name]? = member? name (names.zip items) := by
  induction names generalizing items with
  | nil =>
      obtain rfl := List.length_eq_zero_iff.mp (Nat.le_zero.mp short)
      rfl
  | cons first names ih =>
      cases items with
      | nil => rfl
      | cons item items =>
          rw [List.idxOf_cons, List.zip_cons_cons, member?]
          by_cases same : first = name
          · simp [same]
          · have other : (first == name) = false := beq_eq_false_iff_ne.mpr same
            rw [if_neg same, other]
            exact ih (Nat.le_of_succ_le_succ short)

/-- A record that does not ask how its fields are given is read by position as by name. -/
theorem readsByPosition {next : Fields → Option α}
    (unaware : ∀ find, next ⟨find, true⟩ = next ⟨find, false⟩) :
    ReadsByPosition names fun value => fields? names value >>= next where
  as_named items short := by
    have found : fields? names (.array items) =
        some ⟨fun name => member? name (names.zip items), true⟩ := by
      rw [fields?, if_pos short, funext (getElem?_idxOf short)]
    rw [found]
    exact unaware _
  refuses_longer items long := by
    rw [fields?, if_neg (Nat.not_le_of_gt long)]
    rfl

/-- Whether an object with one of the given members in front is read as the object without it, if
that has no other member of this name. -/
def LeavesOut (usual : List (String × Json)) (read : Json → Option α) : Prop :=
  ∀ entry ∈ usual, ∀ members, member? entry.1 members = none →
    read (.object (entry :: members)) = read (.object members)

/-- The fields of an object. -/
def objectFields (members : List (String × Json)) : Fields :=
  ⟨fun name => member? name members, false⟩

@[simp]
theorem fields?_object (names : List String) (members : List (String × Json)) :
    fields? names (.object members) = some (objectFields members) :=
  rfl

theorem value?_objectFields_of_ne (other : key ≠ name) :
    (objectFields ((key, value) :: members)).value? name = (objectFields members).value? name :=
  if_neg other

@[simp]
theorem required_objectFields_of_ne (other : key ≠ name) :
    (objectFields ((key, value) :: members)).required name read =
      (objectFields members).required name read := by
  rw [Fields.required, value?_objectFields_of_ne other]
  rfl

@[simp]
theorem defaulted_objectFields_of_ne {usual : α} (other : key ≠ name) :
    (objectFields ((key, value) :: members)).defaulted name read usual =
      (objectFields members).defaulted name read usual := by
  rw [Fields.defaulted, value?_objectFields_of_ne other]
  rfl

/-- A field with its usual value is like a field that is left out. -/
theorem defaulted_objectFields_usual {usual : α} (absent : member? name members = none)
    (found : read value = some usual) :
    (objectFields ((name, value) :: members)).defaulted name read usual =
      (objectFields members).defaulted name read usual := by
  have left : (objectFields ((name, value) :: members)).value? name = some value := if_pos rfl
  have right : (objectFields members).value? name = none := absent
  rw [Fields.defaulted, left, Fields.defaulted, right]
  exact found

end Json

/-! ## Fields that may be left out -/

namespace Wire

section

variable {members : List (String × Json)} {key : String} {value : Json}

@[simp]
theorem party?_of_ne (other : key ≠ "party_id") :
    party? (objectFields ((key, value) :: members)) = party? (objectFields members) :=
  defaulted_objectFields_of_ne other

@[simp]
theorem version?_of_ne (other : key ≠ "version") :
    version? (objectFields ((key, value) :: members)) = version? (objectFields members) :=
  defaulted_objectFields_of_ne other

@[simp]
theorem purposes?_of_ne (other : key ≠ purposesKey) :
    purposes? (objectFields ((key, value) :: members)) = purposes? (objectFields members) :=
  defaulted_objectFields_of_ne other

@[simp]
theorem capabilities?_of_ne (other : key ≠ "capabilities") :
    capabilities? (objectFields ((key, value) :: members)) =
      capabilities? (objectFields members) :=
  defaulted_objectFields_of_ne other

theorem party?_leftOut (absent : member? "party_id" members = none) :
    party? (objectFields (("party_id", .null) :: members)) = party? (objectFields members) :=
  defaulted_objectFields_usual absent rfl

theorem version?_leftOut (absent : member? "version" members = none) :
    version? (objectFields (("version", .ofNat 0) :: members)) =
      version? (objectFields members) :=
  defaulted_objectFields_usual absent rfl

theorem purposes?_leftOut (absent : member? purposesKey members = none) :
    purposes? (objectFields ((purposesKey, .object []) :: members)) =
      purposes? (objectFields members) :=
  defaulted_objectFields_usual absent rfl

theorem capabilities?_leftOut (absent : member? "capabilities" members = none) :
    capabilities? (objectFields (("capabilities", .object []) :: members)) =
      capabilities? (objectFields members) :=
  defaulted_objectFields_usual absent rfl

end

/-- Of an invite the party, capabilities, version and purposes may be left out. -/
theorem Invite.leavesOut :
    LeavesOut [("party_id", .null), ("capabilities", .object []), ("version", .ofNat 0),
      (purposesKey, .object [])] Invite.ofJson? := by
  simp only [LeavesOut, List.forall_mem_cons]
  refine ⟨?party, ?capabilities, ?version, ?purposes, by simp⟩ <;> intro members absent
  case party => simp (disch := decide) [ofJson?, party?_leftOut absent]
  case capabilities => simp (disch := decide) [ofJson?, capabilities?_leftOut absent]
  case version => simp (disch := decide) [ofJson?, version?_leftOut absent]
  case purposes => simp (disch := decide) [ofJson?, purposes?_leftOut absent]

theorem Candidates.leavesOut :
    LeavesOut [("party_id", .null), ("candidates", .array []), ("version", .ofNat 0)]
      Candidates.ofJson? := by
  simp only [LeavesOut, List.forall_mem_cons]
  refine ⟨?party, ?candidates, ?version, by simp⟩ <;> intro members absent
  case party => simp (disch := decide) [ofJson?, party?_leftOut absent]
  case candidates =>
    have nobody : list? Candidate.ofJson? (.array []) = some [] := rfl
    simp (disch := decide) [ofJson?, defaulted_objectFields_usual absent nobody]
  case version => simp (disch := decide) [ofJson?, version?_leftOut absent]

theorem Answer.leavesOut :
    LeavesOut [("party_id", .null), ("capabilities", .object []), ("version", .ofNat 0),
      (purposesKey, .object [])] Answer.ofJson? := by
  simp only [LeavesOut, List.forall_mem_cons]
  refine ⟨?party, ?capabilities, ?version, ?purposes, by simp⟩ <;> intro members absent
  case party => simp (disch := decide) [ofJson?, party?_leftOut absent]
  case capabilities => simp (disch := decide) [ofJson?, capabilities?_leftOut absent]
  case version => simp (disch := decide) [ofJson?, version?_leftOut absent]
  case purposes => simp (disch := decide) [ofJson?, purposes?_leftOut absent]

/-- A further description may be given without a lifetime as well. -/
theorem Negotiate.leavesOut :
    LeavesOut [("party_id", .null), ("lifetime", .ofNat 0), ("version", .ofNat 0),
      (purposesKey, .object [])] Negotiate.ofJson? := by
  simp only [LeavesOut, List.forall_mem_cons]
  refine ⟨?party, ?lifetime, ?version, ?purposes, by simp⟩ <;> intro members absent
  case party => simp (disch := decide) [ofJson?, party?_leftOut absent]
  case lifetime =>
    have zero : word64? (.ofNat 0) = some 0 := word64?_ofNat (by decide)
    simp (disch := decide) [ofJson?, defaulted_objectFields_usual absent zero]
  case version => simp (disch := decide) [ofJson?, version?_leftOut absent]
  case purposes => simp (disch := decide) [ofJson?, purposes?_leftOut absent]

theorem Hangup.leavesOut :
    LeavesOut [("party_id", .null), ("version", .ofNat 0), ("reason", .null)]
      Hangup.ofJson? := by
  simp only [LeavesOut, List.forall_mem_cons]
  refine ⟨?party, ?version, ?cause, by simp⟩ <;> intro members absent
  case party => simp (disch := decide) [ofJson?, party?_leftOut absent]
  case version => simp (disch := decide) [ofJson?, version?_leftOut absent]
  case cause =>
    have nothing : nullable? HangupCause.ofJson? .null = some none := rfl
    simp (disch := decide) [ofJson?, defaulted_objectFields_usual absent nothing]

end Wire

/-- Of a grant any part may be left out. -/
theorem Relay.Grant.leavesOut :
    LeavesOut [("username", .string ""), ("password", .string ""), ("uris", .array []),
      ("ttl", .ofNat 0)] Relay.Grant.ofJson? := by
  have blank : text? (.string "") = some "" := rfl
  have empty : list? text? (.array []) = some [] := rfl
  have zero : word64? (.ofNat 0) = some 0 := word64?_ofNat (by decide)
  simp only [LeavesOut, List.forall_mem_cons]
  refine ⟨?username, ?password, ?uris, ?lifetime, by simp⟩ <;> intro members absent
  case username => simp (disch := decide) [ofJson?, defaulted_objectFields_usual absent blank]
  case password => simp (disch := decide) [ofJson?, defaulted_objectFields_usual absent blank]
  case uris => simp (disch := decide) [ofJson?, defaulted_objectFields_usual absent empty]
  case lifetime => simp (disch := decide) [ofJson?, defaulted_objectFields_usual absent zero]

theorem Camera.leavesOut : LeavesOut [("caps", .array [])] Camera.ofJson? := by
  have empty : list? CaptureMode.ofJson? (.array []) = some [] := rfl
  simp only [LeavesOut, List.forall_mem_cons]
  refine ⟨?modes, by simp⟩
  intro members absent
  simp (disch := decide) [ofJson?, defaulted_objectFields_usual absent empty]

/-- Of a phone's settings any may be left out. -/
theorem PhoneSettings.leavesOut :
    LeavesOut
      [("invite_lifetime_ms", .ofNat 60000), ("stale_invite_age_ms", .ofNat 60000),
        ("call_version", .string "1"), ("stream_purpose", .string "m.usermedia"),
        ("require_microphone", .boolean true), ("microphone", .null), ("camera", .null)]
      PhoneSettings.ofJson? := by
  have minute : word64? (.ofNat 60000) = some 60000 := word64?_ofNat (by decide)
  have nothing : nullable? text? .null = some none := rfl
  simp only [LeavesOut, List.forall_mem_cons]
  refine ⟨?lifetime, ?age, ?version, ?purpose, ?required, ?microphone, ?camera, by simp⟩ <;>
    intro members absent
  case lifetime => simp (disch := decide) [ofJson?, defaulted_objectFields_usual absent minute]
  case age => simp (disch := decide) [ofJson?, defaulted_objectFields_usual absent minute]
  case version =>
    have usual : text? (.string "1") = some "1" := rfl
    simp (disch := decide) [ofJson?, defaulted_objectFields_usual absent usual]
  case purpose =>
    have usual : text? (.string "m.usermedia") = some "m.usermedia" := rfl
    simp (disch := decide) [ofJson?, defaulted_objectFields_usual absent usual]
  case required =>
    have usual : boolean? (.boolean true) = some true := rfl
    simp (disch := decide) [ofJson?, defaulted_objectFields_usual absent usual]
  case microphone => simp (disch := decide) [ofJson?, defaulted_objectFields_usual absent nothing]
  case camera => simp (disch := decide) [ofJson?, defaulted_objectFields_usual absent nothing]

/-- The settings of a host may leave out those of its phone as a whole. -/
theorem HostSettings.leavesOut :
    LeavesOut
      [("manager", PhoneSettings.toJson {}), ("event_channel_capacity", .ofNat 1000),
        ("command_channel_capacity", .ofNat 64)] HostSettings.ofJson? := by
  simp only [LeavesOut, List.forall_mem_cons]
  refine ⟨?phone, ?announcements, ?commands, by simp⟩ <;> intro members absent
  case phone =>
    have usual := Returns.undoes PhoneSettings.returns_usual
    simp (disch := decide) [ofJson?, defaulted_objectFields_usual absent usual]
  case announcements =>
    have usual : word64? (.ofNat 1000) = some 1000 := word64?_ofNat (by decide)
    simp (disch := decide) [ofJson?, defaulted_objectFields_usual absent usual]
  case commands =>
    have usual : word64? (.ofNat 64) = some 64 := word64?_ofNat (by decide)
    simp (disch := decide) [ofJson?, defaulted_objectFields_usual absent usual]

/-! ## All forms -/

/-- Whether the numbers in an announcement fit their words. -/
def Announcement.Fits : Announcement → Prop
  | .incomingCall _ _ lifetime _ => lifetime.seconds < UInt64.size
  | _ => True

/-- Whether the numbers in a report fit their words. -/
def Engine.Callback.Fits : Engine.Callback → Prop
  | .localCandidate candidate => candidate.sectionIndex < UInt32.size
  | _ => True

/-- What is written of any content is read back, if its numbers fit the words they are read into
and its instant is one of the calendar in whole milliseconds. -/
theorem forms_accepted :
    (∀ content : Wire.Invite, content.lifetime < UInt64.size → content.version.Fits →
      Wire.Invite.ofJson? content.toJson = some content) ∧
    (∀ content : Wire.Candidates,
      (∀ candidate ∈ content.candidates, candidate.sectionIndex < UInt32.size) →
      content.version.Fits → Wire.Candidates.ofJson? content.toJson = some content) ∧
    (∀ content : Wire.Answer, content.version.Fits →
      Wire.Answer.ofJson? content.toJson = some content) ∧
    (∀ content : Wire.Negotiate, content.lifetime < UInt64.size → content.version.Fits →
      Wire.Negotiate.ofJson? content.toJson = some content) ∧
    (∀ content : Wire.Hangup, content.version.Fits →
      Wire.Hangup.ofJson? content.toJson = some content) ∧
    (∀ event : TimelineEvent, event.sentAt.isValid = true →
      Instant.ofMilliseconds event.sentAt.milliseconds = event.sentAt →
      TimelineEvent.ofJson? event.toJson = some event) ∧
    (∀ candidate : Candidate, candidate.sectionIndex < UInt32.size →
      Candidate.ofJson? candidate.toJson = some candidate) ∧
    (∀ grant : Relay.Grant, grant.lifetime < UInt64.size →
      Relay.Grant.ofJson? grant.toJson = some grant) ∧
    (∀ settings : PhoneSettings, settings.inviteLifetime < UInt64.size →
      settings.staleInviteAge < UInt64.size →
      PhoneSettings.ofJson? settings.toJson = some settings) ∧
    (∀ settings : HostSettings, settings.phone.inviteLifetime < UInt64.size →
      settings.phone.staleInviteAge < UInt64.size → settings.announcementCapacity < UInt64.size →
      settings.commandCapacity < UInt64.size →
      HostSettings.ofJson? settings.toJson = some settings) ∧
    (∀ announcement : Announcement, announcement.Fits →
      Announcement.ofJson? announcement.toJson = some announcement) ∧
    (∀ callback : Engine.Callback, callback.Fits →
      Engine.Callback.ofJson? callback.toJson = some callback) ∧
    ∀ camera : Camera, Camera.ofJson? camera.toJson = some camera := by
  refine ⟨?invite, ?candidates, ?answer, ?negotiate, ?hangup, ?event, ?candidate, ?grant, ?phone,
    ?host, ?announcement, ?callback, ?camera⟩
  case invite =>
    intro content lifetime version
    exact Returns.undoes (Wire.Invite.returns (returns_word64 lifetime) rfl
      (Wire.Version.returns version) (Wire.returns_purposes _))
  case candidates =>
    intro content indices version
    have each : ∀ candidate ∈ content.candidates,
        Returns false Candidate.ofJson? Candidate.toJson candidate :=
      fun candidate inside => Candidate.returns (returns_word32 (indices candidate inside))
    exact Returns.undoes
      (Wire.Candidates.returns (returns_list each) (Wire.Version.returns version))
  case answer =>
    intro content version
    exact Returns.undoes (Wire.Answer.returns rfl (Wire.Version.returns version)
      (Wire.returns_purposes _))
  case negotiate =>
    intro content lifetime version
    exact Returns.undoes (Wire.Negotiate.returns (returns_word64 lifetime)
      (Wire.Version.returns version) (Wire.returns_purposes _))
  case hangup =>
    intro content version
    exact Returns.undoes (Wire.Hangup.returns (Wire.Version.returns version))
  case event =>
    intro event valid whole
    exact Returns.undoes (TimelineEvent.returns (TimelineEvent.returns_instant valid whole) rfl)
  case candidate =>
    intro candidate index
    exact Returns.undoes (Candidate.returns (returns_word32 index))
  case grant =>
    intro grant lifetime
    exact Returns.undoes (Relay.Grant.returns (returns_word64 lifetime))
  case phone =>
    intro settings lifetime age
    exact Returns.undoes (PhoneSettings.returns (returns_word64 lifetime) (returns_word64 age))
  case host =>
    intro settings lifetime age announcements commands
    have phone : Returns false PhoneSettings.ofJson? PhoneSettings.toJson settings.phone :=
      PhoneSettings.returns (returns_word64 lifetime) (returns_word64 age)
    exact Returns.undoes (HostSettings.returns phone (returns_word64 announcements)
      (returns_word64 commands))
  case announcement =>
    intro announcement fits
    refine Returns.undoes (Announcement.returns ?_)
    rintro caller room lifetime call rfl
    exact Duration.returns fits
  case callback =>
    intro callback fits
    refine Returns.undoes (Engine.Callback.returns ?_)
    rintro candidate rfl
    exact Candidate.returns (returns_word32 fits)
  case camera => exact fun camera => Returns.undoes camera.returns

/-- The fields of every record may be given in an array, in this order. -/
theorem forms_by_position :
    ReadsByPosition
        ["call_id", "party_id", "lifetime", "offer", "capabilities", "version", Wire.purposesKey]
        Wire.Invite.ofJson? ∧
      ReadsByPosition ["call_id", "party_id", "candidates", "version"] Wire.Candidates.ofJson? ∧
      ReadsByPosition
        ["call_id", "party_id", "answer", "capabilities", "version", Wire.purposesKey]
        Wire.Answer.ofJson? ∧
      ReadsByPosition
        ["call_id", "party_id", "lifetime", "description", "version", Wire.purposesKey]
        Wire.Negotiate.ofJson? ∧
      ReadsByPosition ["call_id", "party_id", "version", "reason"] Wire.Hangup.ofJson? ∧
      ReadsByPosition ["event_id", "type", "sender", "origin_server_ts", "content"]
        TimelineEvent.ofJson? ∧
      ReadsByPosition ["candidate", "sdpMLineIndex", "sdpMid"] Candidate.ofJson? ∧
      ReadsByPosition ["username", "password", "uris", "ttl"] Relay.Grant.ofJson? ∧
      ReadsByPosition PhoneSettings.names PhoneSettings.ofJson? ∧
      ReadsByPosition HostSettings.names HostSettings.ofJson? ∧
      ReadsByPosition ["id", "name", "caps"] Camera.ofJson? :=
  ⟨readsByPosition fun _ => rfl, readsByPosition fun _ => rfl, readsByPosition fun _ => rfl,
    readsByPosition fun _ => rfl, readsByPosition fun _ => rfl, readsByPosition fun _ => rfl,
    readsByPosition fun _ => rfl, readsByPosition fun _ => rfl, readsByPosition fun _ => rfl,
    readsByPosition fun _ => rfl, readsByPosition fun _ => rfl⟩

end RoomCall
