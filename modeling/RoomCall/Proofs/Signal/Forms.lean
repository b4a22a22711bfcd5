import RoomCall.Proofs.Json.Canonical
import RoomCall.Room
import RoomCall.Signal.Wire

/-!
# The forms of messages and events are canonical

An event may give its content by position, leave out what has a usual value, or carry a version as a
number or as a text. What a device understands of it is written in one form, and read from there as
it was read before.

For each form there are two facts. What is written of a content is read back if the parts are that
can fail to be: numbers that may not fit a word, and values that are kept as they come. And a reader
accepts no content with a part that is not read back.
-/

namespace RoomCall

open Json

section

variable {ordered : Bool}

theorem UserId.returns (id : UserId) :
    Returns ordered UserId.ofJson? (fun id => .string id.text) id :=
  returns_of_undoes rfl (isNormal_string _)

theorem EventId.returns (id : EventId) :
    Returns ordered EventId.ofJson? (fun id => .string id.text) id :=
  returns_of_undoes rfl (isNormal_string _)

theorem CallId.returns (id : CallId) :
    Returns ordered CallId.ofJson? (fun id => .string id.text) id :=
  returns_of_undoes rfl (isNormal_string _)

theorem PartyId.returns (id : PartyId) :
    Returns ordered PartyId.ofJson? (fun id => .string id.text) id :=
  returns_of_undoes rfl (isNormal_string _)

theorem DescriptionKind.returns (kind : DescriptionKind) :
    Returns ordered DescriptionKind.ofJson? DescriptionKind.toJson kind :=
  returns_of_undoes (by cases kind <;> rfl) (isNormal_string _)

theorem HangupCause.returns (cause : HangupCause) :
    Returns ordered HangupCause.ofJson? HangupCause.toJson cause :=
  returns_of_undoes (by cases cause <;> rfl) (isNormal_string _)

/-! ## Candidates -/

/-- A candidate is read back if the number of its section is. -/
theorem Candidate.returns {candidate : Candidate}
    (index : Returns ordered word32? ofNat candidate.sectionIndex) :
    Returns ordered Candidate.ofJson? Candidate.toJson candidate := by
  refine Option.bind_eq_some_iff.mpr ⟨_, fields?_arranged_ofMembers _ _, ?_⟩
  refine Option.bind_eq_some_iff.mpr
    ⟨candidate.line, required_arrangedFields rfl (returns_text _), ?_⟩
  refine Option.bind_eq_some_iff.mpr
    ⟨candidate.sectionIndex, required_arrangedFields rfl index, ?_⟩
  exact Option.bind_eq_some_iff.mpr
    ⟨candidate.sectionName, required_arrangedFields rfl (returns_text _), rfl⟩

/-- No candidate is accepted whose section has a number that is not read back. -/
theorem Candidate.rereads : Rereads ordered Candidate.ofJson? Candidate.toJson := by
  intro value content normal accepted
  simp only [Candidate.ofJson?, Option.bind_eq_bind, Option.bind_eq_some_iff, Option.pure_def,
    Option.some.injEq] at accepted
  obtain ⟨fields, found, line, -, index, indexGiven, name, -, rfl⟩ := accepted
  exact Candidate.returns (rereads_word32.required (tidy_of_fields? found normal) indexGiven)

/-! ## Events -/

namespace TimelineEvent

/-- An instant of the calendar is read back if it is given in whole milliseconds. -/
theorem returns_instant {instant : Instant} (valid : instant.isValid = true)
    (whole : Instant.ofMilliseconds instant.milliseconds = instant) :
    Returns ordered instant? (fun instant => .integer instant.milliseconds) instant := by
  rw [Returns, arranged_integer, instant?, whole]
  exact if_pos valid

theorem rereads_instant :
    Rereads ordered instant? fun instant => .integer instant.milliseconds := by
  intro value content _ accepted
  cases value with
  | integer number =>
      rw [instant?] at accepted
      split at accepted
      · rename_i valid
        obtain rfl := Option.some.inj accepted
        have same : (Instant.ofMilliseconds number).milliseconds = number :=
          Int.mul_ediv_cancel number (by decide)
        exact returns_instant valid (congrArg Instant.ofMilliseconds same)
      · exact nomatch accepted
  | _ => exact nomatch accepted

/-- An event is read back if its instant and its content are. -/
theorem returns {event : TimelineEvent}
    (sentAt : Returns ordered instant? (fun instant => .integer instant.milliseconds) event.sentAt)
    (kept : Returns ordered some (fun value => value) event.content) :
    Returns ordered TimelineEvent.ofJson? TimelineEvent.toJson event := by
  refine Option.bind_eq_some_iff.mpr ⟨_, fields?_arranged_ofMembers _ _, ?_⟩
  refine Option.bind_eq_some_iff.mpr
    ⟨event.id, required_arrangedFields rfl (EventId.returns _), ?_⟩
  refine Option.bind_eq_some_iff.mpr
    ⟨event.type, required_arrangedFields rfl (returns_text _), ?_⟩
  refine Option.bind_eq_some_iff.mpr
    ⟨event.sender, required_arrangedFields rfl (UserId.returns _), ?_⟩
  refine Option.bind_eq_some_iff.mpr ⟨event.sentAt, required_arrangedFields rfl sentAt, ?_⟩
  exact Option.bind_eq_some_iff.mpr ⟨event.content, required_arrangedFields rfl kept, rfl⟩

theorem rereads : Rereads ordered TimelineEvent.ofJson? TimelineEvent.toJson := by
  intro value content normal accepted
  simp only [TimelineEvent.ofJson?, Option.bind_eq_bind, Option.bind_eq_some_iff, Option.pure_def,
    Option.some.injEq] at accepted
  obtain ⟨fields, found, id, -, type, -, sender, -, sentAt, sentAtGiven, kept, keptGiven, rfl⟩ :=
    accepted
  have tidy := tidy_of_fields? found normal
  exact returns (rereads_instant.required tidy sentAtGiven) (rereads_some.required tidy keptGiven)

end TimelineEvent

/-! ## Contents of events -/

namespace Wire

theorem SessionDescription.returns (content : SessionDescription) :
    Returns ordered SessionDescription.ofJson? SessionDescription.toJson content := by
  refine Option.bind_eq_some_iff.mpr ⟨_, fields?_arranged_ofMembers _ _, ?_⟩
  refine Option.bind_eq_some_iff.mpr
    ⟨content.description, required_arrangedFields rfl (returns_text _), ?_⟩
  exact Option.bind_eq_some_iff.mpr
    ⟨content.kind, required_arrangedFields rfl (DescriptionKind.returns _), rfl⟩

/-- Whether the number of a version fits a word, if it is a number. -/
def Version.Fits : Version → Prop
  | .number value => value < UInt64.size
  | .text _ => True

/-- A version is read back if it is a text or a number that fits a word. -/
theorem Version.returns {version : Version} (fits : version.Fits) :
    Returns ordered Version.ofJson? Version.toJson version := by
  cases version with
  | number value =>
      have again : Returns ordered word64? ofNat value := returns_word64 fits
      rw [Returns, arranged_ofNat] at again
      rw [Returns, toJson, arranged_ofNat]
      change (word64? (ofNat value)).map Version.number = _
      rw [again]
      rfl
  | text value => exact returns_of_undoes rfl (isNormal_string value)

/-- The version that a device writes itself is a text, which always fits. -/
theorem Version.returns_text (text : String) :
    Returns ordered Version.ofJson? Version.toJson (.text text) :=
  Version.returns trivial

theorem Version.rereads : Rereads ordered Version.ofJson? Version.toJson := by
  intro value content normal accepted
  cases value with
  | string text =>
      obtain rfl := Option.some.inj accepted
      exact Version.returns_text text
  | integer number =>
      obtain ⟨count, found, rfl⟩ := Option.map_eq_some_iff.mp accepted
      refine Version.returns ?_
      rw [word64?, natBelow?] at found
      split at found
      · rename_i inside
        obtain rfl := Option.some.inj found
        change number.toNat < UInt64.size
        omega
      · exact absurd found.symm (Option.some_ne_none _)
  | _ => exact absurd accepted.symm (Option.some_ne_none _)

theorem returns_purpose (purpose : String) :
    Returns ordered purpose? (fun purpose => .object [("purpose", .string purpose)]) purpose := by
  refine returns_of_undoes rfl (isNormal_object_iff.mpr ⟨?_, ?_⟩)
  · simp [Ordered]
  · simp [isNormal_string]

/-- The purposes of streams are read back also where writing puts them into normal form. -/
theorem rereads_purposes : Rereads ordered (table? purpose?) purposesToJson :=
  rereads_table fun _ purpose _ _ => returns_purpose purpose

/-- The purposes of streams are read back in the order in which they are written. -/
theorem returns_purposes (purposes : Purposes) :
    Returns false (table? purpose?) purposesToJson purposes := by
  change table? purpose? (purposesToJson purposes) = some purposes
  rw [purposesToJson, table?]
  induction purposes with
  | nil => rfl
  | cons entry later ih =>
      have one : purpose? (.object [("purpose", .string entry.2)]) = some entry.2 := rfl
      rw [List.map_cons, List.mapM_cons, ih]
      simp [one]

/-! What the contents of events have in common: a party, a version, purposes and capabilities. -/

section

variable {fields : Fields} {members : List (String × Json)}

/-- A party is read back, and so is its absence. -/
theorem party?_arrangedFields {party : Option PartyId}
    (there : member? "party_id" members = party.map fun known => .string known.text) :
    party? (arrangedFields ordered members) = some party :=
  leftOut_arrangedFields there (returns_nullable rfl fun known _ => PartyId.returns known)

theorem version?_arrangedFields {version : Version}
    (there : member? "version" members = some version.toJson)
    (returns : Returns ordered Version.ofJson? Version.toJson version) :
    version? (arrangedFields ordered members) = some version :=
  defaulted_arrangedFields there returns

/-- The version of an accepted event is read back, also where none was given. -/
theorem returns_of_version? (tidy : fields.Tidy ordered) {version : Version}
    (given : version? fields = some version) :
    Returns ordered Version.ofJson? Version.toJson version := by
  refine Version.rereads.defaulted tidy (Version.returns ?_) given
  change 0 < UInt64.size
  decide

theorem purposes?_arrangedFields {purposes : Purposes}
    (there : member? purposesKey members = some (purposesToJson purposes))
    (returns : Returns ordered (table? purpose?) purposesToJson purposes) :
    purposes? (arrangedFields ordered members) = some purposes :=
  defaulted_arrangedFields there returns

theorem returns_of_purposes? (tidy : fields.Tidy ordered) {purposes : Purposes}
    (given : purposes? fields = some purposes) :
    Returns ordered (table? purpose?) purposesToJson purposes := by
  refine rereads_purposes.defaulted tidy ?_ given
  rw [Returns, purposesToJson, List.map_nil, arranged_empty]
  rfl

theorem capabilities?_arrangedFields {capabilities : List (String × Json)}
    (there : member? "capabilities" members = some (.object capabilities))
    (returns : Returns ordered members? .object capabilities) :
    capabilities? (arrangedFields ordered members) = some capabilities :=
  defaulted_arrangedFields there returns

/-- The capabilities of an accepted event are read back, also where none were given. -/
theorem returns_of_capabilities? (tidy : fields.Tidy ordered) {capabilities : List (String × Json)}
    (given : capabilities? fields = some capabilities) :
    Returns ordered members? .object capabilities := by
  refine rereads_members.defaulted tidy ?_ given
  rw [Returns, arranged_empty]
  rfl

end

/-- An invite is read back if its numbers are and what it keeps as it came. -/
theorem Invite.returns {content : Invite}
    (lifetimeBack : Returns ordered word64? ofNat content.lifetime)
    (capabilitiesBack : Returns ordered members? .object content.capabilities)
    (versionBack : Returns ordered Version.ofJson? Version.toJson content.version)
    (purposesBack : Returns ordered (table? purpose?) purposesToJson content.purposes) :
    Returns ordered Invite.ofJson? Invite.toJson content := by
  rcases content with ⟨call, party, lifetime, offer, capabilities, version, purposes⟩
  refine Option.bind_eq_some_iff.mpr ⟨_, fields?_arranged_ofMembers _ _, ?_⟩
  refine Option.bind_eq_some_iff.mpr
    ⟨call, required_arrangedFields (by cases party <;> rfl) (CallId.returns call), ?_⟩
  refine Option.bind_eq_some_iff.mpr
    ⟨party, party?_arrangedFields (by cases party <;> rfl), ?_⟩
  refine Option.bind_eq_some_iff.mpr
    ⟨lifetime, required_arrangedFields (by cases party <;> rfl) lifetimeBack, ?_⟩
  refine Option.bind_eq_some_iff.mpr ⟨offer,
    required_arrangedFields (by cases party <;> rfl) (SessionDescription.returns offer), ?_⟩
  refine Option.bind_eq_some_iff.mpr ⟨capabilities,
    capabilities?_arrangedFields (by cases party <;> rfl) capabilitiesBack, ?_⟩
  refine Option.bind_eq_some_iff.mpr
    ⟨version, version?_arrangedFields (by cases party <;> rfl) versionBack, ?_⟩
  exact Option.bind_eq_some_iff.mpr
    ⟨purposes, purposes?_arrangedFields (by cases party <;> rfl) purposesBack, rfl⟩

/-- No invite is accepted with a part that is not read back. -/
theorem Invite.rereads : Rereads ordered Invite.ofJson? Invite.toJson := by
  intro value content normal accepted
  simp only [ofJson?, Option.bind_eq_bind, Option.bind_eq_some_iff, Option.pure_def,
    Option.some.injEq] at accepted
  obtain ⟨fields, found, call, -, party, -, lifetime, lifetimeGiven, offer, -, capabilities,
    capabilitiesGiven, version, versionGiven, purposes, purposesGiven, rfl⟩ := accepted
  have tidy := tidy_of_fields? found normal
  exact Invite.returns (rereads_word64.required tidy lifetimeGiven)
    (returns_of_capabilities? tidy capabilitiesGiven) (returns_of_version? tidy versionGiven)
    (returns_of_purposes? tidy purposesGiven)

theorem Candidates.returns {content : Candidates}
    (candidatesBack : Returns ordered (list? Candidate.ofJson?)
      (fun items => .array (items.map Candidate.toJson)) content.candidates)
    (versionBack : Returns ordered Version.ofJson? Version.toJson content.version) :
    Returns ordered Candidates.ofJson? Candidates.toJson content := by
  rcases content with ⟨call, party, candidates, version⟩
  refine Option.bind_eq_some_iff.mpr ⟨_, fields?_arranged_ofMembers _ _, ?_⟩
  refine Option.bind_eq_some_iff.mpr
    ⟨call, required_arrangedFields (by cases party <;> rfl) (CallId.returns call), ?_⟩
  refine Option.bind_eq_some_iff.mpr
    ⟨party, party?_arrangedFields (by cases party <;> rfl), ?_⟩
  refine Option.bind_eq_some_iff.mpr
    ⟨candidates, defaulted_arrangedFields (by cases party <;> rfl) candidatesBack, ?_⟩
  exact Option.bind_eq_some_iff.mpr
    ⟨version, version?_arrangedFields (by cases party <;> rfl) versionBack, rfl⟩

theorem Candidates.rereads : Rereads ordered Candidates.ofJson? Candidates.toJson := by
  intro value content normal accepted
  simp only [ofJson?, Option.bind_eq_bind, Option.bind_eq_some_iff, Option.pure_def,
    Option.some.injEq] at accepted
  obtain ⟨fields, found, call, -, party, -, candidates, candidatesGiven, version, versionGiven,
    rfl⟩ := accepted
  have tidy := tidy_of_fields? found normal
  exact Candidates.returns
    ((rereads_list Candidate.rereads).defaulted tidy returns_noItems candidatesGiven)
    (returns_of_version? tidy versionGiven)

theorem Answer.returns {content : Answer}
    (capabilitiesBack : Returns ordered members? .object content.capabilities)
    (versionBack : Returns ordered Version.ofJson? Version.toJson content.version)
    (purposesBack : Returns ordered (table? purpose?) purposesToJson content.purposes) :
    Returns ordered Answer.ofJson? Answer.toJson content := by
  rcases content with ⟨call, party, answer, capabilities, version, purposes⟩
  refine Option.bind_eq_some_iff.mpr ⟨_, fields?_arranged_ofMembers _ _, ?_⟩
  refine Option.bind_eq_some_iff.mpr
    ⟨call, required_arrangedFields (by cases party <;> rfl) (CallId.returns call), ?_⟩
  refine Option.bind_eq_some_iff.mpr
    ⟨party, party?_arrangedFields (by cases party <;> rfl), ?_⟩
  refine Option.bind_eq_some_iff.mpr ⟨answer,
    required_arrangedFields (by cases party <;> rfl) (SessionDescription.returns answer), ?_⟩
  refine Option.bind_eq_some_iff.mpr ⟨capabilities,
    capabilities?_arrangedFields (by cases party <;> rfl) capabilitiesBack, ?_⟩
  refine Option.bind_eq_some_iff.mpr
    ⟨version, version?_arrangedFields (by cases party <;> rfl) versionBack, ?_⟩
  exact Option.bind_eq_some_iff.mpr
    ⟨purposes, purposes?_arrangedFields (by cases party <;> rfl) purposesBack, rfl⟩

theorem Answer.rereads : Rereads ordered Answer.ofJson? Answer.toJson := by
  intro value content normal accepted
  simp only [ofJson?, Option.bind_eq_bind, Option.bind_eq_some_iff, Option.pure_def,
    Option.some.injEq] at accepted
  obtain ⟨fields, found, call, -, party, -, answer, -, capabilities, capabilitiesGiven, version,
    versionGiven, purposes, purposesGiven, rfl⟩ := accepted
  have tidy := tidy_of_fields? found normal
  exact Answer.returns (returns_of_capabilities? tidy capabilitiesGiven)
    (returns_of_version? tidy versionGiven) (returns_of_purposes? tidy purposesGiven)

theorem Negotiate.returns {content : Negotiate}
    (lifetimeBack : Returns ordered word64? ofNat content.lifetime)
    (versionBack : Returns ordered Version.ofJson? Version.toJson content.version)
    (purposesBack : Returns ordered (table? purpose?) purposesToJson content.purposes) :
    Returns ordered Negotiate.ofJson? Negotiate.toJson content := by
  rcases content with ⟨call, party, lifetime, description, version, purposes⟩
  refine Option.bind_eq_some_iff.mpr ⟨_, fields?_arranged_ofMembers _ _, ?_⟩
  refine Option.bind_eq_some_iff.mpr
    ⟨call, required_arrangedFields (by cases party <;> rfl) (CallId.returns call), ?_⟩
  refine Option.bind_eq_some_iff.mpr
    ⟨party, party?_arrangedFields (by cases party <;> rfl), ?_⟩
  refine Option.bind_eq_some_iff.mpr
    ⟨lifetime, defaulted_arrangedFields (by cases party <;> rfl) lifetimeBack, ?_⟩
  refine Option.bind_eq_some_iff.mpr ⟨description,
    required_arrangedFields (by cases party <;> rfl) (SessionDescription.returns description), ?_⟩
  refine Option.bind_eq_some_iff.mpr
    ⟨version, version?_arrangedFields (by cases party <;> rfl) versionBack, ?_⟩
  exact Option.bind_eq_some_iff.mpr
    ⟨purposes, purposes?_arrangedFields (by cases party <;> rfl) purposesBack, rfl⟩

theorem Negotiate.rereads : Rereads ordered Negotiate.ofJson? Negotiate.toJson := by
  intro value content normal accepted
  simp only [ofJson?, Option.bind_eq_bind, Option.bind_eq_some_iff, Option.pure_def,
    Option.some.injEq] at accepted
  obtain ⟨fields, found, call, -, party, -, lifetime, lifetimeGiven, description, -, version,
    versionGiven, purposes, purposesGiven, rfl⟩ := accepted
  have tidy := tidy_of_fields? found normal
  exact Negotiate.returns
    (rereads_word64.defaulted tidy (returns_word64 (by decide)) lifetimeGiven)
    (returns_of_version? tidy versionGiven) (returns_of_purposes? tidy purposesGiven)

/-- A hangup is read back if its version is, with or without a cause. -/
theorem Hangup.returns {content : Hangup}
    (versionBack : Returns ordered Version.ofJson? Version.toJson content.version) :
    Returns ordered Hangup.ofJson? Hangup.toJson content := by
  rcases content with ⟨call, party, version, cause⟩
  refine Option.bind_eq_some_iff.mpr ⟨_, fields?_arranged_ofMembers _ _, ?_⟩
  refine Option.bind_eq_some_iff.mpr ⟨call, required_arrangedFields
    (by cases party <;> cases cause <;> rfl) (CallId.returns call), ?_⟩
  refine Option.bind_eq_some_iff.mpr
    ⟨party, party?_arrangedFields (by cases party <;> cases cause <;> rfl), ?_⟩
  refine Option.bind_eq_some_iff.mpr ⟨version,
    version?_arrangedFields (by cases party <;> cases cause <;> rfl) versionBack, ?_⟩
  exact Option.bind_eq_some_iff.mpr ⟨cause, leftOut_arrangedFields
    (by cases party <;> cases cause <;> rfl)
    (returns_nullable rfl fun known _ => HangupCause.returns known), rfl⟩

theorem Hangup.rereads : Rereads ordered Hangup.ofJson? Hangup.toJson := by
  intro value content normal accepted
  simp only [ofJson?, Option.bind_eq_bind, Option.bind_eq_some_iff, Option.pure_def,
    Option.some.injEq] at accepted
  obtain ⟨fields, found, call, -, party, -, version, versionGiven, cause, -, rfl⟩ := accepted
  exact Hangup.returns (returns_of_version? (tidy_of_fields? found normal) versionGiven)

end Wire

end

end RoomCall
