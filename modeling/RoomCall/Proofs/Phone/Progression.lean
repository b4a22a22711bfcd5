import RoomCall.Engine.Rehearsal
import RoomCall.Proofs.Phone.Credentials
import RoomCall.Proofs.Phone.Tracking

/-!
# The stages that are announced, one after the other

The stages that a phone announces, call after call, are a walk through the stages that a negotiation
may go through, with one exception: an engine that has built its pipeline and then refuses the offer
of the other side. The stages that were reached until then are not announced, but leaving them is,
and so the first stage is announced where it was the last one that was heard of.
-/

namespace RoomCall

variable {ε : Type}

namespace Progress

/-- The places in a list of stages where a stage follows another one that it may not follow. -/
def slips (stage : Progress) : List Progress → List (Progress × Progress)
  | [] => []
  | next :: later => (if stage.canBecome next then [] else [(stage, next)]) ++ slips next later

theorem slips_append (stage : Progress) (first second : List Progress) :
    slips stage (first ++ second) = slips stage first ++ slips (first.getLastD stage) second := by
  induction first generalizing stage with
  | nil => rfl
  | cons next later ih =>
      rw [List.cons_append, slips, slips, ih, List.append_assoc, List.getLastD_cons]

/-- Stages without a slip are a walk. -/
theorem slips_eq_nil_iff {stage : Progress} {stages : List Progress} :
    slips stage stages = [] ↔ Walk stage stages (stages.getLastD stage) := by
  induction stages generalizing stage with
  | nil => exact ⟨fun _ => .stay stage, fun _ => rfl⟩
  | cons next later ih =>
      rw [slips, List.append_eq_nil_iff, ih, List.getLastD_cons]
      constructor
      · rintro ⟨allowed, rest⟩
        exact .move (by simpa using allowed) rest
      · rintro ⟨⟩
        simp_all

theorem Walk.slips {stage final : Progress} {stages : List Progress}
    (walk : Walk stage stages final) : stage.slips stages = [] :=
  slips_eq_nil_iff.mpr (walk.last.symm ▸ walk)

/-- Every stage but the first may be left for the first. -/
theorem canBecome_disconnected {stage : Progress} (begun : stage ≠ .disconnected) :
    stage.canBecome .disconnected = true := by
  cases stage <;> simp_all [canBecome]

theorem canBecome_iceFailed {stage : Progress} (other : stage ≠ .iceFailed) :
    stage.canBecome .iceFailed = true := by
  cases stage <;> simp_all [canBecome]

end Progress

namespace LogEntry

/-- Whether an entry hands an offer of the other side to an engine. -/
def handsOffer : LogEntry → Bool
  | .traffic _ (.request (.applyRemote .offer _)) => true
  | _ => false

/-- Whether an entry tells the user of a failure. -/
def isFailure : LogEntry → Bool
  | .announcement (.failure _) => true
  | _ => false

/-- Whether an offer of the other side was handed to an engine and the user was told of a failure:
the engine was there and refused the offer. -/
def rejectsOffer (entries : List LogEntry) : Bool :=
  entries.any handsOffer && entries.any isFailure

theorem rejectsOffer_of_unfailing {entries : List LogEntry}
    (unfailing : entries.any isFailure = false) : rejectsOffer entries = false := by
  rw [rejectsOffer, unfailing, Bool.and_false]

@[simp]
theorem any_isFailure_traffic (session : SessionId) (contents : List Traffic) :
    (contents.map (LogEntry.traffic session)).any isFailure = false := by
  simp [isFailure]

@[simp]
theorem any_isFailure_stageEntries (notices : List Notice) :
    (stageEntries notices).any isFailure = false :=
  List.any_eq_false.mpr (forall_mem_stageEntries (fun _ => Bool.false_ne_true) _)

@[simp]
theorem any_isFailure_phaseEntries (before after : Phase) :
    (phaseEntries before after).any isFailure = false :=
  List.any_eq_false.mpr (forall_mem_phaseEntries (fun _ => Bool.false_ne_true) _ _)

@[simp]
theorem any_isFailure_rosterEntries (before after : Roster) :
    (rosterEntries before after).any isFailure = false :=
  List.any_eq_false.mpr (forall_mem_rosterEntries Bool.false_ne_true _ _)

@[simp]
theorem any_isFailure_descriptionEntries (phone : Phone ε) (call : Call ε) (description : String)
    (candidates : List Candidate) (side : Role) :
    (phone.descriptionEntries call description candidates side).any isFailure = false :=
  List.any_eq_false.mpr
    (Phone.forall_mem_descriptionEntries (fun _ => Bool.false_ne_true) _ _ _ _ _)

end LogEntry

namespace Traffic

/-- Whether an offer of the other side is handed to the engine. -/
def handsOffer : Traffic → Bool
  | .request (.applyRemote .offer _) => true
  | _ => false

@[simp]
theorem any_handsOffer_callbacks (contents : List Engine.Callback) :
    (contents.map Traffic.callback).any handsOffer = false := by
  simp [handsOffer]

theorem any_handsOffer_traffic (session : SessionId) (contents : List Traffic) :
    (contents.map (LogEntry.traffic session)).any LogEntry.handsOffer =
      contents.any handsOffer := by
  rw [List.any_map]
  congr 1
  funext content
  rcases content with request | callback
  · cases request with
    | applyRemote kind description => cases kind <;> rfl
    | _ => rfl
  · rfl

end Traffic

namespace Negotiation

variable [MediaEngine ε] {negotiation failed : Negotiation ε} {error : NegotiationError}

theorem any_handsOffer_ask (request : Engine.Request) :
    (negotiation.ask request).1.traffic.any Traffic.handsOffer =
      (negotiation.traffic.any Traffic.handsOffer || (Traffic.request request).handsOffer) := by
  simp only [ask, List.any_append, List.any_cons, Traffic.any_handsOffer_callbacks, Bool.or_false]

theorem any_handsOffer_tell_build (quiet : negotiation.traffic = []) (pipeline : Engine.Pipeline) :
    (negotiation.tell (.build pipeline)).traffic.any Traffic.handsOffer = false := by
  rw [tell, any_handsOffer_ask, quiet]
  rfl

/-- How far a negotiation has come whose engine would not get under way: it is where it was, or the
pipeline was built and the offer of the other side was refused. -/
def Stopped (negotiation : Negotiation ε) : Prop :=
  negotiation.progress =
    if negotiation.traffic.any Traffic.handsOffer then .initiated else .disconnected

/-- With its offer handed over, a negotiation that was under way stops there. -/
theorem stopped_applyRemote (initiated : negotiation.progress = .initiated) (offer : String)
    (user : UserId) : (negotiation.applyRemote offer .offer user).1.Stopped := by
  have handed : (negotiation.applyRemote offer .offer user).1.traffic.any Traffic.handsOffer =
      true := by
    rw [applyRemote, any_handsOffer_ask]
    exact Bool.or_true _
  rw [Stopped, handed, if_pos rfl]
  exact initiated

theorem stopped_start (idle : negotiation.progress = .disconnected)
    (quiet : negotiation.traffic = []) (pipeline : Engine.Pipeline)
    (refused : (negotiation.start pipeline).2 = .error error) :
    (negotiation.start pipeline).1.Stopped := by
  have asked : Negotiation.Stopped
      ({ negotiation with role := some .offering }.tell (.build pipeline)) := by
    rw [Stopped, any_handsOffer_tell_build (by exact quiet)]
    exact idle
  unfold start at refused ⊢
  rw [if_neg (by simp [idle])] at refused ⊢
  rcases @build_cases ε _ { negotiation with role := some .offering } idle pipeline with
    ⟨fault, _, built⟩ | ⟨_, built⟩
  · rw [built]
    exact asked
  · rw [built] at refused
    exact nomatch refused

theorem stopped_acceptOffer (idle : negotiation.progress = .disconnected)
    (quiet : negotiation.traffic = []) (pipeline : Engine.Pipeline) (offer : String)
    (candidates : List Candidate) (user : UserId)
    (refused : (negotiation.acceptOffer pipeline offer candidates user).2 = .error error) :
    (negotiation.acceptOffer pipeline offer candidates user).1.Stopped := by
  have unasked := @any_handsOffer_tell_build ε _ { negotiation with role := some .answering } quiet
    pipeline
  unfold acceptOffer at refused ⊢
  rw [if_neg (by simp [idle])] at refused ⊢
  split at refused <;> rename_i compatible
  · rw [if_pos compatible]
    simp [Stopped, idle, quiet]
  · rw [if_neg compatible]
    rcases @build_cases ε _ { negotiation with role := some .answering } idle pipeline with
      ⟨fault, _, built⟩ | ⟨_, built⟩
    · rw [built]
      rw [Stopped, unasked]
      exact idle
    · rw [built] at refused ⊢
      dsimp only at refused ⊢
      split at refused
      · rename_i applied fault took
        have reached : (Negotiation.applyRemote _ offer .offer user).1 = applied :=
          congrArg Prod.fst took
        change applied.Stopped
        rw [← reached]
        exact stopped_applyRemote rfl offer user
      · exact nomatch refused

/-- Nothing is handed over when a negotiation is taken down. -/
theorem any_handsOffer_finish (quiet : negotiation.traffic = []) :
    negotiation.finish.1.traffic.any Traffic.handsOffer = false := by
  rw [finish_eq, moveTo_fst]
  split
  · change (negotiation.tell .finish).traffic.any Traffic.handsOffer = false
    rw [tell, any_handsOffer_ask, quiet]
    rfl
  · simp [quiet]

end Negotiation

namespace Phone

variable [MediaEngine ε] {phone before after : Phone ε} {call : Call ε}
  {negotiation asked : Negotiation ε} {side : Role}

theorem stopped_opening (call : Call ε) (side : Role) {error : NegotiationError}
    (refused : (phone.opening call side).2 = .error error) : (phone.opening call side).1.Stopped := by
  cases side with
  | offering => exact Negotiation.stopped_start rfl rfl phone.pipeline refused
  | answering => exact Negotiation.stopped_acceptOffer rfl rfl phone.pipeline _ _ _ refused

/-- What a step announces goes on from the stage that was announced last, unless it rejects the
offer of the other side. -/
def Proceeds (phone after : Phone ε) : Prop :=
  ∃ entries, after.log = phone.log ++ entries ∧
    phone.progress.slips (LogEntry.stages entries) =
      if LogEntry.rejectsOffer entries then [(.disconnected, .disconnected)] else []

omit [MediaEngine ε] in
theorem proceeds_of_walk {entries : List LogEntry} (log : after.log = phone.log ++ entries)
    (unfailing : entries.any LogEntry.isFailure = false)
    (walk : phone.progress.slips (LogEntry.stages entries) = []) : phone.Proceeds after :=
  ⟨entries, log, by simp [LogEntry.rejectsOffer_of_unfailing unfailing, walk]⟩

omit [MediaEngine ε] in
theorem proceeds_quiet {entries : List LogEntry} (log : after.log = phone.log ++ entries)
    (unfailing : entries.any LogEntry.isFailure = false)
    (silent : LogEntry.stages entries = []) : phone.Proceeds after :=
  proceeds_of_walk log unfailing (by rw [silent]; rfl)

theorem any_isFailure_farewell (ending : Ending) (cause : Option HangupCause) :
    (phone.farewell call ending cause).any LogEntry.isFailure = false := by
  cases cause <;> cases opened : call.negotiation <;>
    simp [farewell, opened, teardownEntries, LogEntry.isFailure]

/-- The end of a call hands no offer to its engine. -/
theorem any_handsOffer_farewell (ending : Ending) (cause : Option HangupCause)
    (quiet : ∀ negotiation, call.negotiation = some negotiation → negotiation.traffic = []) :
    (phone.farewell call ending cause).any LogEntry.handsOffer = false := by
  have rosters : (rosterEntries phone.roster []).any LogEntry.handsOffer = false :=
    List.any_eq_false.mpr (forall_mem_rosterEntries Bool.false_ne_true _ _)
  have phases : (phaseEntries phone.phase .idle).any LogEntry.handsOffer = false :=
    List.any_eq_false.mpr (forall_mem_phaseEntries (fun _ => Bool.false_ne_true) _ _)
  have stages (notices : List Notice) : (stageEntries notices).any LogEntry.handsOffer = false :=
    List.any_eq_false.mpr (forall_mem_stageEntries (fun _ => Bool.false_ne_true) _)
  have down : (call.negotiation.elim [] teardownEntries).any LogEntry.handsOffer = false := by
    cases opened : call.negotiation with
    | none => rfl
    | some negotiation =>
        rw [Option.elim_some, teardownEntries, List.any_append, Traffic.any_handsOffer_traffic,
          Negotiation.any_handsOffer_finish (quiet negotiation opened), stages]
        rfl
  simp only [farewell, List.any_append, down, rosters, phases]
  cases cause <;> rfl

/-- The end of a call takes its negotiation down from the stage it is at. -/
theorem slips_farewell (stage : Progress) (ending : Ending) (cause : Option HangupCause)
    (reached : ∀ negotiation, call.negotiation = some negotiation →
      negotiation.progress ≠ .disconnected → stage ≠ .disconnected) :
    stage.slips (LogEntry.stages (phone.farewell call ending cause)) = [] := by
  rw [stages_farewell]
  cases opened : call.negotiation with
  | none => rfl
  | some negotiation =>
      by_cases down : negotiation.progress = .disconnected
      · simp [down, Progress.slips]
      · have allowed := Progress.canBecome_disconnected (reached negotiation opened down)
        simp [down, Progress.slips, allowed]

/-- A call that ends for any other reason than that its negotiation did not start. -/
theorem proceeds_ended {late : Phone ε} {told : List LogEntry} {ending : Ending}
    {cause : Option HangupCause} (log : late.log = phone.log ++ told)
    (unfailing : told.any LogEntry.isFailure = false)
    (walk : phone.progress.slips (LogEntry.stages told) = [])
    (reached : ∀ negotiation, call.negotiation = some negotiation →
      negotiation.progress ≠ .disconnected →
        (LogEntry.stages told).getLastD phone.progress ≠ .disconnected) :
    phone.Proceeds (late.ended call ending cause) := by
  have grown : (late.ended call ending cause).log =
      phone.log ++ (told ++ late.farewell call ending cause) := by
    simp [ended, log]
  refine proceeds_of_walk grown ?_ ?_
  · rw [List.any_append, unfailing, any_isFailure_farewell]
    rfl
  · rw [LogEntry.stages_append, Progress.slips_append, walk, slips_farewell _ _ _ reached]
    rfl

theorem proceeds_of_opens (opens : before.Opens call side after)
    (unopened : before.negotiation? = none) : before.Proceeds after := by
  have idle := progress_of_unopened unopened
  cases opens with
  | @opened negotiation opened =>
      refine proceeds_of_walk (List.append_assoc ..) ?_ ?_
      · rw [List.any_append, LogEntry.any_isFailure_traffic, LogEntry.any_isFailure_stageEntries]
        rfl
      · rw [LogEntry.stages_append, LogEntry.stages_traffic, LogEntry.stages_stageEntries, idle]
        rfl
  | @refused negotiation error id outcome =>
      have stopped := stopped_opening call side (congrArg Prod.snd outcome)
      rw [outcome] at stopped
      have quiet : ∀ kept, ((call.handOver side).keeping negotiation).negotiation = some kept →
          kept.traffic = [] := by
        rintro kept ⟨⟩
        rfl
      refine ⟨_, (List.append_assoc ..).trans (List.append_assoc ..), ?_⟩
      -- The stage that was reached is not announced, but the negotiation is taken down from it.
      have rejects : LogEntry.rejectsOffer (negotiation.traffic.map
          (LogEntry.traffic negotiation.id) ++ ([.announcement (.failure error.message)] ++
            farewell (noted (keep { before with nextSession := before.nextSession + 1 }
              (call.handOver side) negotiation) [.announcement (.failure error.message)])
              ((call.handOver side).keeping negotiation) (startFailure error)
              (some .userMediaFailed))) = negotiation.traffic.any Traffic.handsOffer := by
        rw [LogEntry.rejectsOffer, List.any_append, Traffic.any_handsOffer_traffic]
        simp [any_handsOffer_farewell _ _ quiet, LogEntry.handsOffer, LogEntry.isFailure]
      have failure : LogEntry.stages [.announcement (.failure error.message)] = [] := rfl
      rw [rejects, LogEntry.stages_append, LogEntry.stages_traffic, LogEntry.stages_append, failure,
        stages_farewell, idle]
      change Progress.slips .disconnected
        (if negotiation.progress = .disconnected then [] else [.disconnected]) = _
      rw [stopped]
      cases negotiation.traffic.any Traffic.handsOffer <;> rfl

theorem proceeds_of_starts (starts : before.Starts call side after)
    (current : before.call = some call) (unopened : call.negotiation = none) :
    before.Proceeds after := by
  cases starts with
  | opens opens => exact proceeds_of_opens opens (by simp [negotiation?, current, unopened])
  | waits => exact proceeds_quiet rfl (by split <;> rfl) (by split <;> rfl)

theorem proceeds_of_settles (settles : phone.Settles call after)
    (current : phone.call = some call) : phone.Proceeds after := by
  cases settles with
  | waits => exact proceeds_quiet (List.append_nil _).symm rfl rfl
  | @refused answer negotiation failed fault answered opened sent rejected =>
      have stage := (progress_of_call current opened).trans sent
      refine proceeds_ended rfl (LogEntry.any_isFailure_traffic _ _) ?_ ?_
      · rw [LogEntry.stages_traffic]
        rfl
      · intro _ _ _
        simp [stage]
  | applied =>
      refine proceeds_quiet (List.append_assoc ..) ?_ ?_
      · rw [List.any_append, LogEntry.any_isFailure_traffic, List.any_append,
          LogEntry.any_isFailure_phaseEntries]
        rfl
      · rw [LogEntry.stages_append, LogEntry.stages_traffic, LogEntry.stages_append,
          LogEntry.stages_phaseEntries]
        rfl

omit [MediaEngine ε] in
theorem canBecome_sent (runs : negotiation.Runs side) (silent : negotiation.described = false) :
    negotiation.progress.canBecome side.sent = true := by
  rw [runs.progress_initiated silent]
  cases side <;> rfl

omit [MediaEngine ε] in
/-- What is written when the local description is reported. -/
theorem log_reported (call : Call ε) (description : String) (candidates : List Candidate)
    (side : Role) (stages : List Progress) :
    (((phone.keep call asked).described (call.keeping asked) description candidates side).noted
        (stageEntries (stages.map .progressChanged))).log =
      phone.log ++ (asked.traffic.map (LogEntry.traffic asked.id) ++
        (phone.descriptionEntries call description candidates side ++
          (phaseEntries phone.phase (phaseAfterReport phone.phase side) ++
            (rosterEntries phone.roster (phone.roster.addAll call.members) ++
              stageEntries (stages.map .progressChanged))))) := by
  simp only [noted, log_described, List.append_assoc]

omit [MediaEngine ε] in
theorem stages_reported (call : Call ε) (description : String) (candidates : List Candidate)
    (side : Role) (phase : Phase) (roster : Roster) (stages : List Progress) :
    LogEntry.stages (asked.traffic.map (LogEntry.traffic asked.id) ++
      (phone.descriptionEntries call description candidates side ++
        (phaseEntries phone.phase phase ++ (rosterEntries phone.roster roster ++
          stageEntries (stages.map .progressChanged))))) = stages := by
  simp only [LogEntry.stages_append, LogEntry.stages_descriptionEntries,
    LogEntry.stages_traffic, LogEntry.stages_phaseEntries, LogEntry.stages_rosterEntries,
    LogEntry.stages_stageEntries, List.nil_append]

omit [MediaEngine ε] in
theorem any_isFailure_reported (call : Call ε) (description : String) (candidates : List Candidate)
    (side : Role) (phase : Phase) (roster : Roster) (notices : List Notice) :
    (asked.traffic.map (LogEntry.traffic asked.id) ++
      (phone.descriptionEntries call description candidates side ++
        (phaseEntries phone.phase phase ++ (rosterEntries phone.roster roster ++
          stageEntries notices)))).any LogEntry.isFailure = false := by
  simp only [List.any_append, LogEntry.any_isFailure_traffic,
    LogEntry.any_isFailure_descriptionEntries, LogEntry.any_isFailure_phaseEntries,
    LogEntry.any_isFailure_rosterEntries, LogEntry.any_isFailure_stageEntries, Bool.or_self]

theorem proceeds_of_reacts (reacts : phone.Reacts call side negotiation asked after)
    (runs : negotiation.Runs side) (current : phone.call = some call)
    (opened : call.negotiation = some negotiation) : phone.Proceeds after := by
  have stage := progress_of_call current opened
  cases reacts with
  | moved _ _ walk =>
      refine proceeds_of_walk (List.append_assoc ..) ?_ ?_
      · rw [List.any_append, LogEntry.any_isFailure_traffic, LogEntry.any_isFailure_stageEntries]
        rfl
      · rw [LogEntry.stages_append, LogEntry.stages_traffic, LogEntry.stages_stageEntries, stage]
        exact walk.slips
  | renegotiated =>
      rw [sendNegotiate_eq]
      refine proceeds_quiet (List.append_assoc ..) ?_ ?_
      · rw [List.any_append, LogEntry.any_isFailure_traffic]
        rfl
      · rw [LogEntry.stages_append, LogEntry.stages_traffic]
        rfl
  | watched =>
      rw [setRoster_eq]
      refine proceeds_quiet (List.append_assoc ..) ?_ ?_
      · rw [List.any_append, LogEntry.any_isFailure_traffic, LogEntry.any_isFailure_rosterEntries]
        rfl
      · rw [LogEntry.stages_append, LogEntry.stages_traffic, LogEntry.stages_rosterEntries]
        rfl
  | reported _ silent _ walk =>
      refine proceeds_of_walk (log_reported ..) (any_isFailure_reported ..) ?_
      rw [stages_reported, stage]
      exact (Progress.Walk.move (canBecome_sent runs silent) walk).slips
  | broken =>
      refine proceeds_ended rfl (LogEntry.any_isFailure_traffic _ _) ?_ ?_
      · rw [LogEntry.stages_traffic]
        rfl
      · intro _ _ _
        rw [LogEntry.stages_traffic, stage]
        exact runs.progress_ne_disconnected
  | lost failed =>
      refine proceeds_ended (List.append_assoc ..) ?_ ?_ ?_
      · rw [List.any_append, LogEntry.any_isFailure_traffic, LogEntry.any_isFailure_stageEntries]
        rfl
      · rw [LogEntry.stages_append, LogEntry.stages_traffic, stage]
        exact (Progress.Walk.move (Progress.canBecome_iceFailed runs.progress_ne_iceFailed) (.stay _)).slips
      · intro _ _ _
        rw [LogEntry.stages_append, LogEntry.stages_traffic]
        exact nofun
  | reportedLost silent failed =>
      have lost : side.sent.canBecome .iceFailed = true := by
        cases side <;> rfl
      refine proceeds_ended (log_reported call _ _ side [side.sent, .iceFailed])
        (any_isFailure_reported ..) ?_ ?_
      · rw [stages_reported, stage]
        exact (Progress.Walk.move (canBecome_sent runs silent) (.move lost (.stay _))).slips
      · intro _ _ _
        rw [stages_reported]
        exact nofun

omit [MediaEngine ε] in
/-- What was done before, without a word of stages, offers or failures, does not matter. -/
theorem Proceeds.precede {entries : List LogEntry} (proceeds : before.Proceeds after)
    (log : before.log = phone.log ++ entries) (silent : LogEntry.stages entries = [])
    (unhanded : entries.any LogEntry.handsOffer = false)
    (unfailing : entries.any LogEntry.isFailure = false)
    (progress : before.progress = phone.progress) : phone.Proceeds after := by
  rcases proceeds with ⟨more, grown, slips⟩
  have same : LogEntry.rejectsOffer (entries ++ more) = LogEntry.rejectsOffer more := by
    rw [LogEntry.rejectsOffer, List.any_append, List.any_append, unhanded, unfailing]
    rfl
  refine ⟨entries ++ more, by rw [grown, log, List.append_assoc], ?_⟩
  rw [same, LogEntry.stages_append, silent, List.nil_append, ← progress]
  exact slips

/-- Every step goes on from the stage that was announced last, unless it rejects an offer. -/
theorem proceeds_of_move {now : Instant} {occurrence : Occurrence}
    (move : phone.Move now occurrence after) (coherent : phone.Coherent) : phone.Proceeds after := by
  have unopened (idle : phone.call = none) : phone.progress = .disconnected := by
    simp [progress, negotiation?, idle]
  have quietly (call : Call ε) (asked : Negotiation ε) (told : List LogEntry)
      (unfailing : told.any LogEntry.isFailure = false) (silent : LogEntry.stages told = []) :
      phone.Proceeds ((phone.keep call asked).noted told) := by
    refine proceeds_quiet (List.append_assoc ..) ?_ ?_
    · rw [List.any_append, LogEntry.any_isFailure_traffic, unfailing]
      rfl
    · rw [LogEntry.stages_append, LogEntry.stages_traffic, silent]
      rfl
  have recalled {call other : Call ε} (there : phone.call = some call)
      (same : other.negotiation = call.negotiation) :
      Phone.progress { phone with call := some other } = phone.progress := by
    simp [progress, negotiation?, there, same]
  cases move with
  | still | plugged | refreshed | held => exact proceeds_quiet (List.append_nil _).symm rfl rfl
  | rang idle =>
      refine proceeds_quiet (List.append_assoc .. |>.trans (List.append_assoc ..)) ?_ ?_
      · rw [List.any_append, LogEntry.any_isFailure_phaseEntries]
        split <;> rfl
      · rw [LogEntry.stages_append, LogEntry.stages_phaseEntries]
        split <;> rfl
  | dialed _ idle known capable starts =>
      refine (proceeds_of_starts starts rfl rfl).precede rfl (LogEntry.stages_phaseEntries _ _) ?_
        (LogEntry.any_isFailure_phaseEntries _ _) (unopened idle).symm
      exact List.any_eq_false.mpr (forall_mem_phaseEntries (fun _ => Bool.false_ne_true) _ _)
  | @resumed outcome other role after is there deferred opens =>
      have bare := unopened_of_deferred coherent there deferred
      exact (proceeds_of_opens opens (by simp [negotiation?, bare])).precede
        (List.append_nil _).symm rfl rfl rfl (by simp [progress, negotiation?, there])
  | @accepted other after is there incoming unaccepted compatible starts =>
      have bare := (rings_of_unaccepted coherent there incoming unaccepted).1
      exact (proceeds_of_starts starts rfl bare).precede rfl rfl rfl rfl (recalled there rfl)
  | @ended other entries ending cause there ends =>
      have silent : LogEntry.stages entries = [] ∧ entries.any LogEntry.isFailure = false := by
        cases ends <;> exact ⟨rfl, rfl⟩
      refine proceeds_ended rfl silent.2 ?_ ?_
      · rw [silent.1]
        rfl
      · intro negotiation opened begun
        rw [silent.1, progress_of_call there opened]
        exact begun
  | gathered there heard admits outgoing settles =>
      exact (proceeds_of_settles settles rfl).precede (List.append_nil _).symm rfl rfl rfl
        (recalled there rfl)
  | @answered other answer after there heard admits outgoing unanswered settles =>
      have same : (other.answeredBy answer).negotiation = other.negotiation := by
        unfold Call.answeredBy
        cases answer.party <;> rfl
      exact (proceeds_of_settles settles rfl).precede (List.append_nil _).symm rfl rfl rfl
        (recalled there same)
  | handed | renegotiated | toggled => simpa using quietly _ _ [] rfl rfl
  | muted =>
      refine quietly _ _ _ ?_ ?_ <;> split <;> rfl
  | reacted is there opened runs reacts => exact proceeds_of_reacts reacts runs there opened

/-! ## Runs -/

/-- How many steps of a run reject an offer of the other side. -/
def rejections (phone : Phone ε) : List (Instant × Occurrence) → Nat
  | [] => 0
  | entry :: later =>
      (if LogEntry.rejectsOffer (written phone (phone.after entry.1 entry.2)) then 1 else 0) +
        (phone.after entry.1 entry.2).rejections later

/-- A run goes on from step to step: it slips as often as it rejects an offer, and each time from
the first stage to the first stage. -/
theorem slips_run {chronicle : Chronicle} (lived : phone.Lived chronicle)
    (run : List (Instant × Occurrence)) :
    ∃ entries, (phone.run run).log = phone.log ++ entries ∧
      phone.progress.slips (LogEntry.stages entries) =
        List.replicate (phone.rejections run) (.disconnected, .disconnected) ∧
      (LogEntry.stages entries).getLastD phone.progress = (phone.run run).progress := by
  induction run generalizing phone chronicle with
  | nil => exact ⟨[], (List.append_nil _).symm, rfl, rfl⟩
  | cons entry later ih =>
      have coherent := coherent_of_lived lived
      have move := move_after coherent entry.1 entry.2
      obtain ⟨first, log, slips⟩ := proceeds_of_move move coherent
      obtain ⟨same, tracked, last, -⟩ := tracks_of_move move coherent (viable_of_lived lived)
      obtain rfl : same = first := List.append_cancel_left (tracked.symm.trans log)
      obtain ⟨second, grown, further, stage⟩ := ih (lived.after entry.1 entry.2)
      refine ⟨same ++ second, ?_, ?_, ?_⟩
      · rw [← List.append_assoc, ← log]
        exact grown
      · rw [LogEntry.stages_append, Progress.slips_append, last, slips, further, rejections,
          written_eq log]
        split
        · rw [Nat.add_comm, List.replicate_succ]
          rfl
        · rw [Nat.zero_add]
          rfl
      · have joined : (LogEntry.stages same ++ LogEntry.stages second).getLastD phone.progress =
            (LogEntry.stages second).getLastD
              ((LogEntry.stages same).getLastD phone.progress) := by
          cases LogEntry.stages second <;> simp
        rw [LogEntry.stages_append, joined, last]
        exact stage

/-- The stages that a phone announces follow each other as the stages of a negotiation do, from the
first stage on and through all calls, but for one step: where an engine has built its pipeline and
refuses the offer of the other side. Then the first stage is announced although it was the last one
that was announced, and nothing else ever slips. -/
theorem announced_stages_walk (new : phone.IsNew) (run : List (Instant × Occurrence)) :
    Progress.slips .disconnected (LogEntry.stages (phone.run run).log) =
        List.replicate (phone.rejections run) (.disconnected, .disconnected) ∧
      (phone.rejections run = 0 →
        Progress.Walk .disconnected (LogEntry.stages (phone.run run).log)
          (phone.run run).progress) := by
  obtain ⟨entries, log, slips, last⟩ := slips_run (.new new) run
  have start : phone.progress = .disconnected := by
    simp [progress, negotiation?, new.call]
  rw [start] at slips last
  rw [log, new.log, List.nil_append]
  refine ⟨slips, fun none => ?_⟩
  rw [none, List.replicate_zero] at slips
  exact last ▸ Progress.slips_eq_nil_iff.mp slips

/-- A phone whose engines build their pipelines and refuse every description. -/
def fussy : Phone Engine.Rehearsal where
  settings := { requireMicrophone := false }
  maker := {
    make := fun _ =>
      { player := .silent {}, refusals := { applyRemote := some (.invalidDescription "no") } } }
  callTokens := { text := toString }
  partyNames := { text := toString }
  streamNames := { text := toString }

theorem isNew_fussy : fussy.IsNew :=
  ⟨rfl, rfl, rfl, rfl, rfl, rfl, rfl⟩

/-- A call that rings and is accepted. -/
def acceptingRun : List (Instant × Occurrence) :=
  let view : Membership := { pair with localUser := ⟨"@bob"⟩ }
  let invite : Invite :=
    ⟨⟨"call"⟩, some ⟨"party"⟩, "m=audio\na=rtpmap:1 opus", .ofSeconds 60, []⟩
  [(0, .signal view ⟨⟨"@alice"⟩, 0, .invite invite⟩), (1, .accept),
    (2, .relayRefreshed (.error "offline"))]

theorem announced_stages_walk_acceptingRun :
    Progress.slips .disconnected (LogEntry.stages (fussy.run acceptingRun).log) =
        [(.disconnected, .disconnected)] ∧
      Progress.Walk .disconnected (LogEntry.stages (scripted.run acceptingRun).log)
        (scripted.run acceptingRun).progress := by
  have once : fussy.rejections acceptingRun = 1 := by decide
  have never : scripted.rejections acceptingRun = 0 := by decide
  refine ⟨?_, (announced_stages_walk isNew_scripted acceptingRun).2 never⟩
  rw [(announced_stages_walk isNew_fussy acceptingRun).1, once]
  rfl

/-- If an engine refuses the offer of the other side, the stages that are announced are not those of
a negotiation. -/
theorem exists_run_slips :
    fussy.IsNew ∧ LogEntry.stages (fussy.run acceptingRun).log = [.disconnected] ∧
      ∀ final, ¬Progress.Walk .disconnected (LogEntry.stages (fussy.run acceptingRun).log) final := by
  have only : LogEntry.stages (fussy.run acceptingRun).log = [.disconnected] := by decide
  refine ⟨isNew_fussy, only, fun final walk => ?_⟩
  have slips := walk.slips
  rw [only] at slips
  exact absurd slips (by decide)

end Phone

end RoomCall
