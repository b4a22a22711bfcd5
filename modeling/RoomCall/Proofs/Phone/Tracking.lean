import RoomCall.Proofs.Phone.Following

/-!
# Stages and rosters as they are announced

Whoever listens to a phone knows the stage of its negotiation and whether its roster has changed:
every change of stage is announced, the last one that is announced is the present one, and a step
announces another roster exactly if it leaves another one.
-/

namespace RoomCall

variable {ε : Type}

namespace LogEntry

/-- The stages that are announced among some entries. -/
def stages (entries : List LogEntry) : List Progress :=
  entries.filterMap fun entry =>
    match entry with
    | .announcement (.progressChanged stage) => some stage
    | _ => none

/-- Whether an entry announces another roster. -/
def isRoster : LogEntry → Bool
  | .announcement .rosterChanged => true
  | _ => false

@[simp]
theorem stages_append (first second : List LogEntry) :
    stages (first ++ second) = stages first ++ stages second :=
  List.filterMap_append

@[simp]
theorem stages_errand (errand : Errand) (later : List LogEntry) :
    stages (.errand errand :: later) = stages later := rfl

@[simp]
theorem stages_traffic (session : SessionId) (contents : List Traffic) :
    stages (contents.map (LogEntry.traffic session)) = [] := by
  simp [stages]

@[simp]
theorem stages_stageEntries (walked : List Progress) :
    stages (stageEntries (walked.map .progressChanged)) = walked := by
  induction walked with
  | nil => rfl
  | cons stage later ih => simpa [stages] using ih

@[simp]
theorem stages_phaseEntries (before after : Phase) : stages (phaseEntries before after) = [] :=
  List.filterMap_eq_nil_iff.mpr (forall_mem_phaseEntries (fun _ => rfl) _ _)

@[simp]
theorem stages_rosterEntries (before after : Roster) :
    stages (rosterEntries before after) = [] := by
  apply List.filterMap_eq_nil_iff.mpr
  apply forall_mem_rosterEntries
  rfl

@[simp]
theorem stages_descriptionEntries (phone : Phone ε) (call : Call ε) (description : String)
    (candidates : List Candidate) (side : Role) :
    stages (phone.descriptionEntries call description candidates side) = [] :=
  List.filterMap_eq_nil_iff.mpr
    (Phone.forall_mem_descriptionEntries (fun _ => rfl) _ _ _ _ _)

theorem any_isRoster_traffic (session : SessionId) (contents : List Traffic) :
    (contents.map (LogEntry.traffic session)).any isRoster = false := by
  simp [isRoster]

@[simp]
theorem any_isRoster_stageEntries (notices : List Notice) :
    (stageEntries notices).any isRoster = false :=
  List.any_eq_false.mpr (forall_mem_stageEntries (fun _ => Bool.false_ne_true) _)

@[simp]
theorem any_isRoster_phaseEntries (before after : Phase) :
    (phaseEntries before after).any isRoster = false :=
  List.any_eq_false.mpr (forall_mem_phaseEntries (fun _ => Bool.false_ne_true) _ _)

@[simp]
theorem any_isRoster_rosterEntries (before after : Roster) :
    (rosterEntries before after).any isRoster = true ↔ after ≠ before := by
  unfold rosterEntries
  split <;> simp_all [isRoster, eq_comm]

@[simp]
theorem any_isRoster_descriptionEntries (phone : Phone ε) (call : Call ε) (description : String)
    (candidates : List Candidate) (side : Role) :
    (phone.descriptionEntries call description candidates side).any isRoster = false :=
  List.any_eq_false.mpr
    (Phone.forall_mem_descriptionEntries (fun _ => Bool.false_ne_true) _ _ _ _ _)

end LogEntry

theorem Negotiation.Runs.progress_ne_disconnected {side : Role} {negotiation : Negotiation ε}
    (runs : negotiation.Runs side) : negotiation.progress ≠ .disconnected := by
  rcases runs.standing with ⟨_, initiated⟩ | ⟨_, sent | connecting | connected⟩
  · simp [initiated]
  · rw [sent]
    cases side <;> simp [Role.sent]
  · simp [connecting]
  · simp [connected]

theorem Progress.Walk.last {stage final : Progress} {stages : List Progress}
    (walk : Progress.Walk stage stages final) : stages.getLastD stage = final := by
  induction walk with
  | stay => rfl
  | move _ _ ih => exact (List.getLastD_cons ..).trans ih

namespace Phone

/-- What a step announces keeps the user up to date. -/
def Tracks (phone after : Phone ε) : Prop :=
  ∃ entries, after.log = phone.log ++ entries ∧
    (LogEntry.stages entries).getLastD phone.progress = after.progress ∧
    (entries.any LogEntry.isRoster = true ↔ after.roster ≠ phone.roster)

variable [MediaEngine ε] {phone before after : Phone ε} {call : Call ε}
  {negotiation asked : Negotiation ε} {side : Role} {entries : List LogEntry}

omit [MediaEngine ε] in
theorem progress_of_unopened (unopened : phone.negotiation? = none) :
    phone.progress = .disconnected := by
  simp [progress, unopened]

/-- Taking a negotiation down is announced, unless it had not begun. -/
theorem stages_finish (negotiation : Negotiation ε) :
    LogEntry.stages (stageEntries negotiation.finish.2) =
      if negotiation.progress = .disconnected then [] else [.disconnected] := by
  have moved (negotiation : Negotiation ε) : (negotiation.moveTo .disconnected).2 =
      if negotiation.progress.canBecome .disconnected then [.progressChanged .disconnected]
      else [] := by
    unfold Negotiation.moveTo
    split <;> rfl
  have told : negotiation.finish.2 =
      if negotiation.progress.canBecome .disconnected then [.progressChanged .disconnected]
      else [] := by
    rw [Negotiation.finish_eq, moved]
    split <;> rfl
  rw [told]
  cases negotiation.progress <;> rfl

theorem stages_farewell (ending : Ending) (cause : Option HangupCause) :
    LogEntry.stages (phone.farewell call ending cause) =
      call.negotiation.elim [] fun negotiation =>
        if negotiation.progress = .disconnected then [] else [.disconnected] := by
  have last : LogEntry.stages [LogEntry.announcement (.callEnded call.id ending)] = [] := rfl
  cases cause <;> cases opened : call.negotiation <;>
    simp [farewell, opened, last, teardownEntries, stages_finish]

theorem any_isRoster_farewell (ending : Ending) (cause : Option HangupCause) :
    (phone.farewell call ending cause).any LogEntry.isRoster = true ↔ [] ≠ phone.roster := by
  rw [← LogEntry.any_isRoster_rosterEntries]
  cases cause <;> cases opened : call.negotiation <;>
    simp [farewell, opened, teardownEntries, LogEntry.isRoster]

/-- At its end a call leaves nobody on the roster and no stage but the first one. -/
theorem tracks_ended {late : Phone ε} {told : List LogEntry} {ending : Ending}
    {cause : Option HangupCause} (log : late.log = phone.log ++ told)
    (roster : late.roster = phone.roster) (unchanged : told.any LogEntry.isRoster = false)
    (reported : ∀ negotiation, call.negotiation = some negotiation →
      negotiation.progress = .disconnected →
      (LogEntry.stages told).getLastD phone.progress = .disconnected)
    (unopened : call.negotiation = none →
      (LogEntry.stages told).getLastD phone.progress = .disconnected) :
    phone.Tracks (late.ended call ending cause) := by
  refine ⟨told ++ late.farewell call ending cause, by simp [ended, log], ?_, ?_⟩
  -- Taking the negotiation down announces the first stage, unless that was the last one announced.
  · have gone : (late.ended call ending cause).progress = .disconnected := rfl
    rw [gone, LogEntry.stages_append, stages_farewell]
    cases opened : call.negotiation with
    | none => simpa using unopened opened
    | some negotiation =>
        by_cases down : negotiation.progress = .disconnected
        · simpa [down] using reported negotiation opened down
        · simp [down]
  · rw [List.any_append, unchanged, Bool.false_or, any_isRoster_farewell, roster]
    rfl

omit [MediaEngine ε] in
theorem tracks_quiet {entries : List LogEntry} (log : after.log = phone.log ++ entries)
    (silent : LogEntry.stages entries = []) (unchanged : entries.any LogEntry.isRoster = false)
    (progress : after.progress = phone.progress) (roster : after.roster = phone.roster) :
    phone.Tracks after :=
  ⟨entries, log, by simp [silent, progress], by simp [unchanged, roster]⟩

omit [MediaEngine ε] in
theorem tracks_kept {told : List LogEntry} (current : phone.call = some call)
    (opened : call.negotiation = some negotiation)
    (log : after.log = phone.log ++ (asked.traffic.map (LogEntry.traffic asked.id) ++ told))
    (kept : after.negotiation? = some { asked with traffic := [] })
    (walk : (LogEntry.stages told).getLastD negotiation.progress = asked.progress)
    (roster : told.any LogEntry.isRoster = true ↔ after.roster ≠ phone.roster) :
    phone.Tracks after := by
  refine ⟨_, log, ?_, ?_⟩
  · rw [progress_of_call current opened]
    simpa [progress, kept] using walk
  · rw [List.any_append, LogEntry.any_isRoster_traffic, Bool.false_or]
    exact roster

/-- The stages that are announced while a negotiation opens lead to the stage that it is in. -/
theorem tracks_of_opens (opens : before.Opens call side after)
    (unopened : before.negotiation? = none) : before.Tracks after := by
  have idle := progress_of_unopened unopened
  cases opens with
  | @opened negotiation opened =>
      have initiated := opened.runs.progress_initiated opened.silent
      refine ⟨_, List.append_assoc .., ?_, ?_⟩
      · rw [LogEntry.stages_append, LogEntry.stages_traffic, LogEntry.stages_stageEntries]
        exact initiated.symm
      · rw [List.any_append, LogEntry.any_isRoster_traffic, LogEntry.any_isRoster_stageEntries]
        simp [noted, keep_eq]
  | @refused negotiation error id outcome =>
      have silent : LogEntry.stages (negotiation.traffic.map (LogEntry.traffic negotiation.id) ++
          [.announcement (.failure error.message)]) = [] := by
        rw [LogEntry.stages_append, LogEntry.stages_traffic]
        rfl
      refine tracks_ended (List.append_assoc ..) rfl ?_ ?_ ?_
      · rw [List.any_append, LogEntry.any_isRoster_traffic]
        rfl
      · intro _ _ _
        rw [silent, idle]
        rfl
      · intro _
        rw [silent, idle]
        rfl

theorem tracks_of_starts (starts : before.Starts call side after)
    (current : before.call = some call) (unopened : call.negotiation = none) :
    before.Tracks after := by
  have none : before.negotiation? = none := by simp [negotiation?, current, unopened]
  cases starts with
  | opens opens => exact tracks_of_opens opens none
  | waits =>
      refine tracks_quiet rfl ?_ ?_ ?_ rfl
      · split <;> rfl
      · split <;> rfl
      · simp [progress, negotiation?, current]

theorem tracks_of_settles (settles : phone.Settles call after)
    (current : phone.call = some call) : phone.Tracks after := by
  cases settles with
  | waits => exact tracks_quiet (List.append_nil _).symm rfl rfl rfl rfl
  | @refused answer negotiation failed fault answered opened sent rejected =>
      have same : failed.progress = negotiation.progress :=
        (congrArg (fun reply => reply.1.progress) rejected).symm
      refine tracks_ended rfl rfl (LogEntry.any_isRoster_traffic _ _) ?_ ?_
      · rintro other ⟨⟩ down
        change failed.progress = .disconnected at down
        simp [same, sent] at down
      · rintro ⟨⟩
  | @applied answer negotiation answered opened sent ready taken =>
      have same := (negotiation.applyRemote answer .answer
        call.remoteUser).1.bearing_addRemoteCandidates (call.heldCandidates.map Prod.snd)
      refine tracks_kept current opened (List.append_assoc ..) rfl ?_ ?_
      · rw [LogEntry.stages_append, LogEntry.stages_phaseEntries,
          Negotiation.progress_of_bearing same]
        rfl
      · rw [List.any_append, LogEntry.any_isRoster_phaseEntries]
        simp [noted, keep_eq, LogEntry.isRoster]

/-- The stages that are announced when a phone reacts to a callback lead to the stage that it is in.
-/
theorem tracks_of_reacts {callback : Engine.Callback}
    (reacts : phone.Reacts call side negotiation (negotiation.handle callback).1 after)
    (hopeful : negotiation.ice ≠ .failed) (current : phone.call = some call)
    (opened : call.negotiation = some negotiation) : phone.Tracks after := by
  cases reacts with
  | moved runs same walk =>
      refine tracks_kept current opened (List.append_assoc ..) rfl ?_ ?_
      · rw [LogEntry.stages_stageEntries]
        exact walk.last
      · rw [LogEntry.any_isRoster_stageEntries]
        simp [noted, keep_eq]
  | renegotiated runs described same still =>
      rw [sendNegotiate_eq]
      refine tracks_kept current opened (List.append_assoc ..) rfl still.symm ?_
      simp [keep_eq, LogEntry.isRoster]
  | watched runs same still =>
      rw [setRoster_eq]
      refine tracks_kept current opened (List.append_assoc ..) rfl ?_ ?_
      · rw [LogEntry.stages_rosterEntries]
        exact still.symm
      · exact LogEntry.any_isRoster_rosterEntries _ _
  | @reported stages description candidates runs silent described walk =>
      have log : (((phone.keep call (negotiation.handle callback).1).described
          (call.keeping (negotiation.handle callback).1) description candidates side).noted
            (stageEntries ((side.sent :: stages).map .progressChanged))).log =
          phone.log ++ ((negotiation.handle callback).1.traffic.map
            (LogEntry.traffic (negotiation.handle callback).1.id) ++
            (phone.descriptionEntries call description candidates side ++
              (phaseEntries phone.phase (phaseAfterReport phone.phase side) ++
                (rosterEntries phone.roster (phone.roster.addAll call.members) ++
                  stageEntries ((side.sent :: stages).map .progressChanged))))) := by
        simp only [noted, log_described, List.append_assoc]
      refine tracks_kept current opened log rfl ?_ ?_
      · simp only [LogEntry.stages_append, LogEntry.stages_descriptionEntries,
          LogEntry.stages_phaseEntries, LogEntry.stages_rosterEntries,
          LogEntry.stages_stageEntries, List.nil_append, List.getLastD_cons]
        exact walk.last
      · simp only [List.any_append, LogEntry.any_isRoster_descriptionEntries,
          LogEntry.any_isRoster_phaseEntries, LogEntry.any_isRoster_stageEntries, Bool.false_or,
          Bool.or_false]
        exact LogEntry.any_isRoster_rosterEntries _ _
  | broken runs =>
      refine tracks_ended rfl rfl (LogEntry.any_isRoster_traffic _ _) ?_ ?_
      · rintro other ⟨⟩ down
        exact absurd down runs.progress_ne_disconnected
      · rintro ⟨⟩
  | lost failed =>
      refine tracks_ended (List.append_assoc ..) rfl ?_ ?_ ?_
      · rw [List.any_append, LogEntry.any_isRoster_traffic, LogEntry.any_isRoster_stageEntries]
        rfl
      · rintro other ⟨⟩ down
        cases failed.symm.trans down
      · rintro ⟨⟩
  | reportedLost _ _ ice => exact absurd ice hopeful

omit [MediaEngine ε] in
/-- What was done before, without a word of stages or rosters, does not matter. -/
theorem Tracks.precede {entries : List LogEntry} (tracks : before.Tracks after)
    (log : before.log = phone.log ++ entries) (silent : LogEntry.stages entries = [])
    (unchanged : entries.any LogEntry.isRoster = false)
    (progress : before.progress = phone.progress) (roster : before.roster = phone.roster) :
    phone.Tracks after := by
  rcases tracks with ⟨more, grown, stage, changes⟩
  refine ⟨entries ++ more, ?_, ?_, ?_⟩
  · rw [grown, log, List.append_assoc]
  · rw [LogEntry.stages_append, silent, List.nil_append, ← progress]
    exact stage
  · rw [List.any_append, unchanged, Bool.false_or, ← roster]
    exact changes

omit [MediaEngine ε] in
theorem tracks_bearing {told : List LogEntry} (current : phone.call = some call)
    (opened : call.negotiation = some negotiation) (same : asked.bearing = negotiation.bearing)
    (silent : LogEntry.stages told = []) (unchanged : told.any LogEntry.isRoster = false) :
    phone.Tracks ((phone.keep call asked).noted told) := by
  refine tracks_kept current opened (List.append_assoc ..) rfl ?_ ?_
  · rw [silent, Negotiation.progress_of_bearing same]
    rfl
  · rw [unchanged]
    simp [noted, keep_eq]

/-- Every move keeps the user up to date. -/
theorem tracks_of_move {now : Instant} {occurrence : Occurrence}
    (move : phone.Move now occurrence after) (coherent : phone.Coherent) (viable : phone.Viable) :
    phone.Tracks after := by
  have unopened (idle : phone.call = none) : phone.progress = .disconnected := by
    simp [progress, negotiation?, idle]
  have quietly {call : Call ε} {negotiation asked : Negotiation ε} (there : phone.call = some call)
      (opened : call.negotiation = some negotiation) (same : asked.bearing = negotiation.bearing) :
      phone.Tracks (phone.keep call asked) := by
    have kept : phone.Tracks ((phone.keep call asked).noted []) :=
      tracks_bearing there opened same rfl rfl
    simpa using kept
  have recalled {call other : Call ε} (there : phone.call = some call)
      (same : other.negotiation = call.negotiation) :
      Phone.progress { phone with call := some other } = phone.progress := by
    simp [progress, negotiation?, there, same]
  cases move with
  | still | plugged => exact tracks_quiet (List.append_nil _).symm rfl rfl rfl rfl
  | refreshed => exact tracks_quiet (List.append_nil _).symm rfl rfl rfl rfl
  | rang idle =>
      have asks : LogEntry.stages (if phone.relay.isFresh now || phone.refreshing then []
          else [LogEntry.errand .refreshRelay]) = [] ∧
          (if phone.relay.isFresh now || phone.refreshing then []
            else [LogEntry.errand .refreshRelay]).any LogEntry.isRoster = false := by
        split <;> exact ⟨rfl, rfl⟩
      refine tracks_quiet (List.append_assoc .. |>.trans (List.append_assoc ..)) ?_ ?_
        (unopened idle).symm rfl
      · rw [LogEntry.stages_append, LogEntry.stages_phaseEntries]
        exact asks.1
      · rw [List.any_append, LogEntry.any_isRoster_phaseEntries]
        exact asks.2
  | dialed _ idle known capable starts =>
      exact (tracks_of_starts starts rfl rfl).precede rfl (LogEntry.stages_phaseEntries _ _)
        (LogEntry.any_isRoster_phaseEntries _ _) (unopened idle).symm rfl
  | @resumed outcome other role after is there deferred opens =>
      have bare := unopened_of_deferred coherent there deferred
      exact (tracks_of_opens opens (by simp [negotiation?, bare])).precede
        (List.append_nil _).symm rfl rfl (by simp [progress, negotiation?, there]) rfl
  | @accepted other after is there incoming unaccepted compatible starts =>
      have bare := (rings_of_unaccepted coherent there incoming unaccepted).1
      exact (tracks_of_starts starts rfl bare).precede rfl rfl rfl (recalled there rfl) rfl
  | @ended other entries ending cause there ends =>
      have silent : LogEntry.stages entries = [] ∧ entries.any LogEntry.isRoster = false := by
        cases ends <;> exact ⟨rfl, rfl⟩
      refine tracks_ended rfl rfl silent.2 ?_ ?_
      · intro negotiation opened down
        rcases (coherent.stands there).runs opened with ⟨_, runs⟩
        exact absurd down runs.progress_ne_disconnected
      · intro bare
        rw [silent.1, progress_of_unopened (by simp [negotiation?, there, bare])]
        rfl
  | held there =>
      exact tracks_quiet (List.append_nil _).symm rfl rfl (recalled there rfl) rfl
  | gathered there heard admits outgoing settles =>
      exact (tracks_of_settles settles rfl).precede (List.append_nil _).symm rfl rfl
        (recalled there rfl) rfl
  | @answered other answer after there heard admits outgoing unanswered settles =>
      have same : (other.answeredBy answer).negotiation = other.negotiation := by
        unfold Call.answeredBy
        cases answer.party <;> rfl
      exact (tracks_of_settles settles rfl).precede (List.append_nil _).symm rfl rfl
        (recalled there same) rfl
  | handed there opened =>
      exact quietly there opened (Negotiation.bearing_addRemoteCandidates _)
  | renegotiated there opened =>
      exact quietly there opened (Negotiation.bearing_renegotiate _ _ _)
  | muted is there opened =>
      refine tracks_bearing there opened (Negotiation.bearing_setMuted _) ?_ ?_ <;> split <;> rfl
  | toggled is there opened => exact quietly there opened Negotiation.bearing_toggleCamera
  | reacted is there opened runs reacts =>
      exact tracks_of_reacts reacts ((viable _ there).hopeful opened) there opened

end Phone

end RoomCall
