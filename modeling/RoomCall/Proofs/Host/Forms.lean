import RoomCall.Engine.Basic
import RoomCall.Host.Settings
import RoomCall.Inventory
import RoomCall.Proofs.Signal.Forms
import RoomCall.Relay

/-!
# All forms are canonical

Besides the events of a room a host reads relay credentials, settings and descriptions of cameras,
and it tells others about announcements and about what engines report. For all of these, and for
the events and their contents, the form that is written is canonical.
-/

namespace RoomCall

open Json

section

variable {ordered : Bool}

/-! ## Relay credentials -/

/-- A grant is read back if its lifetime is. -/
theorem Relay.Grant.returns {grant : Relay.Grant}
    (lifetimeBack : Returns ordered word64? ofNat grant.lifetime) :
    Returns ordered Relay.Grant.ofJson? Relay.Grant.toJson grant := by
  refine Option.bind_eq_some_iff.mpr ⟨_, fields?_arranged_ofMembers _ _, ?_⟩
  refine Option.bind_eq_some_iff.mpr
    ⟨grant.username, defaulted_arrangedFields rfl (returns_text _), ?_⟩
  refine Option.bind_eq_some_iff.mpr
    ⟨grant.password, defaulted_arrangedFields rfl (returns_text _), ?_⟩
  refine Option.bind_eq_some_iff.mpr
    ⟨grant.uris, defaulted_arrangedFields rfl (returns_list fun uri _ => returns_text uri), ?_⟩
  exact Option.bind_eq_some_iff.mpr
    ⟨grant.lifetime, defaulted_arrangedFields rfl lifetimeBack, rfl⟩

/-- No grant is accepted with a lifetime that is not read back. -/
theorem Relay.Grant.rereads : Rereads ordered Relay.Grant.ofJson? Relay.Grant.toJson := by
  intro value content normal accepted
  simp only [ofJson?, Option.bind_eq_bind, Option.bind_eq_some_iff, Option.pure_def,
    Option.some.injEq] at accepted
  obtain ⟨fields, found, username, -, password, -, uris, -, lifetime, lifetimeGiven, rfl⟩ :=
    accepted
  exact Relay.Grant.returns (rereads_word64.defaulted (tidy_of_fields? found normal)
    (returns_word64 (by decide)) lifetimeGiven)

/-! ## Cameras -/

theorem CaptureMode.returns (mode : CaptureMode) :
    Returns ordered CaptureMode.ofJson? CaptureMode.toJson mode := by
  refine Option.bind_eq_some_iff.mpr ⟨_, fields?_arranged_ofMembers _ _, ?_⟩
  refine Option.bind_eq_some_iff.mpr
    ⟨mode.resolution, required_arrangedFields rfl (returns_text _), ?_⟩
  exact Option.bind_eq_some_iff.mpr
    ⟨mode.frameRates, required_arrangedFields rfl (returns_list fun rate _ => returns_text rate),
      rfl⟩

/-- A camera has no numbers, so every camera is read back. -/
theorem Camera.returns (camera : Camera) : Returns ordered Camera.ofJson? Camera.toJson camera := by
  refine Option.bind_eq_some_iff.mpr ⟨_, fields?_arranged_ofMembers _ _, ?_⟩
  refine Option.bind_eq_some_iff.mpr ⟨camera.id, required_arrangedFields rfl (returns_text _), ?_⟩
  refine Option.bind_eq_some_iff.mpr
    ⟨camera.name, required_arrangedFields rfl (returns_text _), ?_⟩
  exact Option.bind_eq_some_iff.mpr
    ⟨camera.modes, defaulted_arrangedFields rfl (returns_list fun mode _ => mode.returns), rfl⟩

/-! ## Settings -/

/-- The settings of a phone are read back if its two times are. -/
theorem PhoneSettings.returns {settings : PhoneSettings}
    (lifetimeBack : Returns ordered word64? ofNat settings.inviteLifetime)
    (ageBack : Returns ordered word64? ofNat settings.staleInviteAge) :
    Returns ordered PhoneSettings.ofJson? PhoneSettings.toJson settings := by
  refine Option.bind_eq_some_iff.mpr ⟨_, fields?_arranged_object _ (by decide : names.Nodup), ?_⟩
  refine Option.bind_eq_some_iff.mpr
    ⟨settings.inviteLifetime, defaulted_arrangedFields rfl lifetimeBack, ?_⟩
  refine Option.bind_eq_some_iff.mpr
    ⟨settings.staleInviteAge, defaulted_arrangedFields rfl ageBack, ?_⟩
  refine Option.bind_eq_some_iff.mpr
    ⟨settings.version, defaulted_arrangedFields rfl (returns_text _), ?_⟩
  refine Option.bind_eq_some_iff.mpr
    ⟨settings.streamPurpose, defaulted_arrangedFields rfl (returns_text _), ?_⟩
  refine Option.bind_eq_some_iff.mpr
    ⟨settings.requireMicrophone, defaulted_arrangedFields rfl (returns_boolean _), ?_⟩
  refine Option.bind_eq_some_iff.mpr
    ⟨settings.microphone, defaulted_arrangedFields rfl (returns_ofText _), ?_⟩
  exact Option.bind_eq_some_iff.mpr
    ⟨settings.camera, defaulted_arrangedFields rfl (returns_ofText _), rfl⟩

/-- The usual settings of a phone are read back. -/
theorem PhoneSettings.returns_usual :
    Returns ordered PhoneSettings.ofJson? PhoneSettings.toJson {} :=
  PhoneSettings.returns (returns_word64 (by decide)) (returns_word64 (by decide))

/-- No settings of a phone are accepted with times that are not read back. -/
theorem PhoneSettings.rereads : Rereads ordered PhoneSettings.ofJson? PhoneSettings.toJson := by
  intro value content normal accepted
  simp only [ofJson?, Option.bind_eq_bind, Option.bind_eq_some_iff, Option.pure_def,
    Option.some.injEq] at accepted
  obtain ⟨fields, found, lifetime, lifetimeGiven, age, ageGiven, version, -, purpose, -, required,
    -, microphone, -, camera, -, rfl⟩ := accepted
  have tidy := tidy_of_fields? found normal
  exact PhoneSettings.returns
    (rereads_word64.defaulted tidy (returns_word64 (by decide)) lifetimeGiven)
    (rereads_word64.defaulted tidy (returns_word64 (by decide)) ageGiven)

/-- The settings of a host are read back if those of its phone and the room of its channels are. -/
theorem HostSettings.returns {settings : HostSettings}
    (phoneBack : Returns ordered PhoneSettings.ofJson? PhoneSettings.toJson settings.phone)
    (announcementsBack : Returns ordered word64? ofNat settings.announcementCapacity)
    (commandsBack : Returns ordered word64? ofNat settings.commandCapacity) :
    Returns ordered HostSettings.ofJson? HostSettings.toJson settings := by
  refine Option.bind_eq_some_iff.mpr ⟨_, fields?_arranged_object _ (by decide : names.Nodup), ?_⟩
  refine Option.bind_eq_some_iff.mpr
    ⟨settings.phone, defaulted_arrangedFields rfl phoneBack, ?_⟩
  refine Option.bind_eq_some_iff.mpr
    ⟨settings.announcementCapacity, defaulted_arrangedFields rfl announcementsBack, ?_⟩
  exact Option.bind_eq_some_iff.mpr
    ⟨settings.commandCapacity, defaulted_arrangedFields rfl commandsBack, rfl⟩

/-- No settings of a host are accepted with numbers that are not read back. -/
theorem HostSettings.rereads : Rereads ordered HostSettings.ofJson? HostSettings.toJson := by
  intro value content normal accepted
  simp only [ofJson?, Option.bind_eq_bind, Option.bind_eq_some_iff, Option.pure_def,
    Option.some.injEq] at accepted
  obtain ⟨fields, found, phone, phoneGiven, announcements, announcementsGiven, commands,
    commandsGiven, rfl⟩ := accepted
  have tidy := tidy_of_fields? found normal
  exact HostSettings.returns
    (PhoneSettings.rereads.defaulted tidy PhoneSettings.returns_usual phoneGiven)
    (rereads_word64.defaulted tidy (returns_word64 (by decide)) announcementsGiven)
    (rereads_word64.defaulted tidy (returns_word64 (by decide)) commandsGiven)

/-! ## Announcements -/

theorem Progress.returns (stage : Progress) :
    Returns ordered Progress.ofJson? Progress.toJson stage :=
  returns_of_undoes (by cases stage <;> rfl) (isNormal_string _)

theorem Phase.returns (phase : Phase) : Returns ordered Phase.ofJson? Phase.toJson phase :=
  returns_of_undoes (by cases phase <;> rfl) (isNormal_string _)

theorem Ending.returns (ending : Ending) : Returns ordered Ending.ofJson? Ending.toJson ending := by
  refine returns_of_undoes (by cases ending <;> rfl) ?_
  cases ending with
  | mediaFailed message => exact isNormal_single (isNormal_string message)
  | _ => exact isNormal_string _

theorem Duration.toJson_eq (duration : Duration) :
    duration.toJson =
      .object [("nanos", .ofNat duration.subsecond), ("secs", .ofNat duration.seconds)] := by
  have order : "nanos" < "secs" := by decide
  simp [toJson, ofMembers, sortEntries, insertEntry, order]

/-- What is left to do when the fields of a duration were found. -/
def Duration.ofFields? (fields : Json.Fields) (readSeconds readNanoseconds : Json → Option Nat) :
    Option Duration := do
  let seconds ← fields.required "secs" readSeconds
  let nanoseconds ← fields.required "nanos" readNanoseconds
  let duration : Duration := ⟨seconds * 1000000000 + nanoseconds⟩
  if duration.seconds < UInt64.size then some duration else none

/-- The seconds of an accepted duration fit a word. -/
theorem Duration.seconds_lt_of_ofFields? {fields : Json.Fields}
    {readSeconds readNanoseconds : Json → Option Nat} {duration : Duration}
    (accepted : ofFields? fields readSeconds readNanoseconds = some duration) :
    duration.seconds < UInt64.size := by
  simp only [ofFields?, Option.bind_eq_bind, Option.bind_eq_some_iff] at accepted
  obtain ⟨seconds, -, nanoseconds, -, fits⟩ := accepted
  split at fits
  · rename_i below
    exact Option.some.inj fits ▸ below
  · exact nomatch fits

/-- What the numbers of a duration add up to fits again when it is written. -/
theorem Duration.seconds_lt_of_ofJson? {value : Json} {duration : Duration}
    (accepted : ofJson? value = some duration) : duration.seconds < UInt64.size := by
  have tail (found : Option Json.Fields)
      (accepted : (found >>= fun fields => ofFields? fields word64? word32?) = some duration) :
      duration.seconds < UInt64.size := by
    obtain ⟨fields, -, rest⟩ := Option.bind_eq_some_iff.mp accepted
    exact seconds_lt_of_ofFields? rest
  unfold ofJson? at accepted
  dsimp only at accepted
  split at accepted
  · split at accepted
    · exact tail _ accepted
    · exact tail _ accepted
  · exact tail _ accepted

theorem Duration.ofFields?_toJson {duration : Duration} (fits : duration.seconds < UInt64.size)
    {readSeconds readNanoseconds : Json → Option Nat} {seconds nanoseconds : Json}
    (secondsBack : readSeconds seconds = some duration.seconds)
    (nanosecondsBack : readNanoseconds nanoseconds = some duration.subsecond) :
    ofFields? ⟨fun name => member? name [("nanos", nanoseconds), ("secs", seconds)], false⟩
      readSeconds readNanoseconds = some duration := by
  have whole : (⟨duration.seconds * 1000000000 + duration.subsecond⟩ : Duration) = duration :=
    congrArg Duration.mk (Nat.div_add_mod' duration.nanoseconds 1000000000)
  refine Option.bind_eq_some_iff.mpr ⟨duration.seconds, secondsBack, ?_⟩
  refine Option.bind_eq_some_iff.mpr ⟨duration.subsecond, nanosecondsBack, ?_⟩
  dsimp only
  rw [whole, if_pos fits]

/-- A duration is read back from its seconds and nanoseconds. -/
theorem Duration.ofJson?_toJson {duration : Duration} (fits : duration.seconds < UInt64.size) :
    ofJson? duration.toJson = some duration := by
  have small : duration.subsecond < UInt32.size :=
    Nat.lt_trans (Nat.mod_lt _ (by decide)) (by decide)
  have again := ofFields?_toJson fits (word64?_ofNat fits) (word32?_ofNat small)
  rw [toJson_eq, ofJson?]
  dsimp only
  rw [if_pos (by rfl)]
  refine Option.bind_eq_some_iff.mpr ⟨_, rfl, ?_⟩
  unfold ofFields? at again
  exact again

/-- A duration is read back if its seconds fit a word. -/
theorem Duration.returns {duration : Duration} (fits : duration.seconds < UInt64.size) :
    Returns ordered Duration.ofJson? Duration.toJson duration :=
  returns_of_undoes (Duration.ofJson?_toJson fits) (isNormal_ofMembers (by simp [isNormal_ofNat]))

theorem Duration.rereads : Rereads ordered Duration.ofJson? Duration.toJson :=
  fun _ _ _ accepted => Duration.returns (Duration.seconds_lt_of_ofJson? accepted)

theorem RoomId.returns (id : RoomId) :
    Returns ordered RoomId.ofJson? (fun id => .string id.text) id :=
  returns_of_undoes rfl (isNormal_string _)

/-- An announcement is read back if it is not of a call that rings for a time that is not. -/
theorem Announcement.returns {announcement : Announcement}
    (lifetimeBack : ∀ caller room lifetime call,
      announcement = .incomingCall caller room lifetime call →
        Returns ordered Duration.ofJson? Duration.toJson lifetime) :
    Returns ordered Announcement.ofJson? Announcement.toJson announcement := by
  cases announcement with
  | incomingCall caller room lifetime call =>
      rw [Returns, toJson, arranged_single]
      refine Option.bind_eq_some_iff.mpr ⟨_, namedFields?_arranged_ofMembers _, ?_⟩
      refine Option.bind_eq_some_iff.mpr
        ⟨caller, required_arrangedFields rfl (UserId.returns _), ?_⟩
      refine Option.bind_eq_some_iff.mpr ⟨room, required_arrangedFields rfl (RoomId.returns _), ?_⟩
      refine Option.bind_eq_some_iff.mpr
        ⟨lifetime, required_arrangedFields rfl (lifetimeBack _ _ _ _ rfl), ?_⟩
      exact Option.bind_eq_some_iff.mpr
        ⟨call, required_arrangedFields rfl (CallId.returns _), rfl⟩
  | callEnded call ending =>
      rw [Returns, toJson, arranged_single]
      refine Option.bind_eq_some_iff.mpr ⟨_, namedFields?_arranged_ofMembers _, ?_⟩
      refine Option.bind_eq_some_iff.mpr ⟨call, required_arrangedFields rfl (CallId.returns _), ?_⟩
      exact Option.bind_eq_some_iff.mpr
        ⟨ending, required_arrangedFields rfl (Ending.returns _), rfl⟩
  | answeredElsewhere call =>
      rw [Returns, toJson, arranged_single, arranged_single, arranged_string]
      rfl
  | progressChanged stage =>
      rw [Returns, toJson, arranged_single]
      exact Option.map_eq_some_iff.mpr ⟨stage, Progress.returns stage, rfl⟩
  | phaseChanged phase =>
      rw [Returns, toJson, arranged_single]
      exact Option.map_eq_some_iff.mpr ⟨phase, Phase.returns phase, rfl⟩
  | mutedChanged muted => exact returns_of_undoes rfl (isNormal_single (isNormal_boolean muted))
  | rosterChanged => exact returns_of_undoes rfl (isNormal_string _)
  | failure message => exact returns_of_undoes rfl (isNormal_single (isNormal_string message))

/-- No announcement is accepted of a call that rings for a time that is not read back. -/
theorem Announcement.rereads : Rereads ordered Announcement.ofJson? Announcement.toJson := by
  intro value content normal accepted
  refine Announcement.returns ?_
  rintro caller room lifetime call rfl
  unfold ofJson? at accepted
  split at accepted
  · rename_i inner chosen
    simp only [Option.bind_eq_bind, Option.bind_eq_some_iff, Option.pure_def,
      Option.some.injEq, incomingCall.injEq] at accepted
    obtain ⟨fields, found, _, -, _, -, _, lifetimeGiven, _, -, -, -, rfl, -⟩ := accepted
    exact Duration.rereads.required
      (tidy_of_namedFields? found (isNormal_of_case? chosen normal)) lifetimeGiven
  all_goals simp [Option.bind_eq_some_iff] at accepted

/-! ## Reports of engines -/

theorem Medium.returns (medium : Medium) : Returns ordered Medium.ofJson? Medium.toJson medium :=
  returns_of_undoes (by cases medium <;> rfl) (isNormal_string _)

theorem Engine.IceState.choice?_name (state : Engine.IceState) :
    choice? Engine.IceState.names (.string state.name) = some state := by
  cases state <;> rfl

/-- A report is read back if it is not of a candidate that is not. -/
theorem Engine.Callback.returns {callback : Engine.Callback}
    (candidateBack : ∀ candidate, callback = .localCandidate candidate →
      Returns ordered Candidate.ofJson? Candidate.toJson candidate) :
    Returns ordered Engine.Callback.ofJson? Engine.Callback.toJson callback := by
  cases callback with
  | localDescription description kind =>
      rw [Returns, toJson, arranged_single]
      refine Option.bind_eq_some_iff.mpr ⟨_, namedFields?_arranged_ofMembers _, ?_⟩
      refine Option.bind_eq_some_iff.mpr
        ⟨description, required_arrangedFields rfl (returns_text _), ?_⟩
      exact Option.bind_eq_some_iff.mpr
        ⟨kind, required_arrangedFields rfl (DescriptionKind.returns _), rfl⟩
  | localCandidate candidate =>
      rw [Returns, toJson, arranged_single]
      exact Option.map_eq_some_iff.mpr ⟨candidate, candidateBack candidate rfl, rfl⟩
  | iceChanged state =>
      rw [Returns, toJson, arranged_single, arranged_string]
      exact Option.map_eq_some_iff.mpr ⟨state, Engine.IceState.choice?_name state, rfl⟩
  | remoteStream stream medium =>
      rw [Returns, toJson, arranged_single]
      refine Option.bind_eq_some_iff.mpr ⟨_, namedFields?_arranged_ofMembers _, ?_⟩
      refine Option.bind_eq_some_iff.mpr
        ⟨stream, optional_arrangedFields rfl (returns_ofText _), ?_⟩
      exact Option.bind_eq_some_iff.mpr
        ⟨medium, required_arrangedFields rfl (Medium.returns _), rfl⟩
  | pipelineFailed message =>
      exact returns_of_undoes rfl (isNormal_single (isNormal_string message))
  | negotiationNeeded | gatheringComplete | endOfStream =>
      exact returns_of_undoes rfl (isNormal_string _)

/-- No report is accepted of a candidate that is not read back. -/
theorem Engine.Callback.rereads :
    Rereads ordered Engine.Callback.ofJson? Engine.Callback.toJson := by
  intro value content normal accepted
  refine Engine.Callback.returns ?_
  rintro candidate rfl
  unfold ofJson? at accepted
  split at accepted
  case h_3 inner chosen =>
    obtain ⟨found, here, same⟩ := Option.map_eq_some_iff.mp accepted
    obtain rfl := localCandidate.inj same
    exact Candidate.rereads inner found (isNormal_of_case? chosen normal) here
  all_goals simp [Option.bind_eq_some_iff] at accepted

end

/-- Every form that is read and written is canonical, and documents are read in normal form. -/
theorem forms_canonical :
    Canonical Wire.Invite.ofJson? Wire.Invite.toJson ∧
      Canonical Wire.Candidates.ofJson? Wire.Candidates.toJson ∧
      Canonical Wire.Answer.ofJson? Wire.Answer.toJson ∧
      Canonical Wire.Negotiate.ofJson? Wire.Negotiate.toJson ∧
      Canonical Wire.Hangup.ofJson? Wire.Hangup.toJson ∧
      Canonical TimelineEvent.ofJson? TimelineEvent.toJson ∧
      Canonical Candidate.ofJson? Candidate.toJson ∧
      Canonical Relay.Grant.ofJson? Relay.Grant.toJson ∧
      Canonical PhoneSettings.ofJson? PhoneSettings.toJson ∧
      Canonical HostSettings.ofJson? HostSettings.toJson ∧
      Canonical Announcement.ofJson? Announcement.toJson ∧
      Canonical Engine.Callback.ofJson? Engine.Callback.toJson ∧
      Canonical Camera.ofJson? Camera.toJson ∧
      ∀ text value, document? text = some value → value.IsNormal :=
  ⟨canonical_of_rereads fun _ => Wire.Invite.rereads,
    canonical_of_rereads fun _ => Wire.Candidates.rereads,
    canonical_of_rereads fun _ => Wire.Answer.rereads,
    canonical_of_rereads fun _ => Wire.Negotiate.rereads,
    canonical_of_rereads fun _ => Wire.Hangup.rereads,
    canonical_of_rereads fun _ => TimelineEvent.rereads,
    canonical_of_rereads fun _ => Candidate.rereads,
    canonical_of_rereads fun _ => Relay.Grant.rereads,
    canonical_of_rereads fun _ => PhoneSettings.rereads,
    canonical_of_rereads fun _ => HostSettings.rereads,
    canonical_of_rereads fun _ => Announcement.rereads,
    canonical_of_rereads fun _ => Engine.Callback.rereads,
    canonical_of_rereads fun _ _ camera _ _ => camera.returns,
    fun _ _ => isNormal_of_document?⟩

/-- A grant that is given by position and ends after the password is written with all of its fields,
and read from there as before. -/
theorem forms_canonical_short_grant :
    Relay.Grant.ofJson? (.array [.string "user", .string "word"]) =
        some ⟨"user", "word", [], 0⟩ ∧
      Relay.Grant.ofJson? (.object [("password", .string "word"), ("ttl", .ofNat 0),
        ("uris", .array []), ("username", .string "user")]) = some ⟨"user", "word", [], 0⟩ := by
  have accepted : Relay.Grant.ofJson? (.array [.string "user", .string "word"]) =
      some ⟨"user", "word", [], 0⟩ := rfl
  have written : Relay.Grant.toJson ⟨"user", "word", [], 0⟩ =
      .object [("password", .string "word"), ("ttl", .ofNat 0), ("uris", .array []),
        ("username", .string "user")] := rfl
  obtain ⟨-, -, -, -, -, -, -, grants, -⟩ := forms_canonical
  exact ⟨accepted, written ▸ grants.read_write _ _ accepted⟩

end RoomCall
