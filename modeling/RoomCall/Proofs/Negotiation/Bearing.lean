import RoomCall.Proofs.Negotiation.Requests

/-!
# What only callbacks change

The stage of a negotiation, its pipeline and what it knows of the search for a path are its bearing.
What the other side and the user ask for leaves the bearing alone; only callbacks change it, and
they never lead back: once the search has begun it goes on, and a search that failed ends the
negotiation at once.
-/

namespace RoomCall.Negotiation

/-- How a negotiation stands towards its engine. -/
structure Bearing where
  progress : Progress
  hasPipeline : Bool
  ice : Engine.IceState
  deriving DecidableEq, Repr

variable {ε : Type} {side : Role} {negotiation other : Negotiation ε}

/-- The part of a negotiation that only callbacks change. -/
def bearing (negotiation : Negotiation ε) : Bearing :=
  ⟨negotiation.progress, negotiation.hasPipeline, negotiation.ice⟩

theorem progress_of_bearing (same : other.bearing = negotiation.bearing) :
    other.progress = negotiation.progress :=
  congrArg Bearing.progress same

theorem ice_of_bearing (same : other.bearing = negotiation.bearing) :
    other.ice = negotiation.ice :=
  congrArg Bearing.ice same

theorem canMute_of_bearing (same : other.bearing = negotiation.bearing) :
    other.canMute = negotiation.canMute := by
  have pipeline : other.hasPipeline = negotiation.hasPipeline := congrArg Bearing.hasPipeline same
  simp [canMute, pipeline, progress_of_bearing same]

/-! ## Operations -/

variable [MediaEngine ε]

@[simp]
theorem bearing_tell (request : Engine.Request) :
    (negotiation.tell request).bearing = negotiation.bearing := rfl

@[simp]
theorem bearing_applyRemote (description : String) (kind : DescriptionKind) (user : UserId) :
    (negotiation.applyRemote description kind user).1.bearing = negotiation.bearing := rfl

@[simp]
theorem bearing_addRemoteCandidates (candidates : List Candidate) :
    (negotiation.addRemoteCandidates candidates).bearing = negotiation.bearing := by
  rcases negotiation.addRemoteCandidates_cases candidates with ⟨_, same⟩ | ⟨_, _, same⟩ <;>
    simp [same]

@[simp]
theorem bearing_renegotiate (description : String) (user : UserId) (isAnswer : Bool) :
    (negotiation.renegotiate description user isAnswer).1.bearing = negotiation.bearing := by
  rcases negotiation.renegotiate_cases description user isAnswer with same | ⟨kind, same | same⟩ <;>
    simp [same]

@[simp]
theorem bearing_setMuted (muted : Bool) :
    (negotiation.setMuted muted).1.bearing = negotiation.bearing := by
  rcases negotiation.setMuted_cases muted with same | same <;> simp [same]

@[simp]
theorem bearing_toggleCamera : negotiation.toggleCamera.1.bearing = negotiation.bearing := by
  rcases negotiation.toggleCamera_cases with same | same <;> simp [same]

/-! ## Callbacks -/

omit [MediaEngine ε] in
theorem ice_followIce : negotiation.followIce.1.ice = negotiation.ice := by
  rw [followIce_fst]

omit [MediaEngine ε] in
theorem ice_reportAndFollow : negotiation.reportAndFollow.1.ice = negotiation.ice := by
  rw [reportAndFollow_fst]

omit [MediaEngine ε] in
/-- A negotiation that hears of the failed search follows it at once. -/
theorem progress_followIce_failed (ice : negotiation.ice = .failed) :
    negotiation.followIce.1.progress = .iceFailed := by
  by_cases ended : negotiation.progress = .iceFailed
  · simp [followIce, ice, ended]
  · rw [followIce_failed ice ended]

/-- A negotiation that still runs after a callback has not heard that the search failed. -/
theorem ice_handle (callback : Engine.Callback) (hopeful : negotiation.ice ≠ .failed)
    (runs : (negotiation.handle callback).1.Runs side) :
    (negotiation.handle callback).1.ice ≠ .failed := by
  have going := runs.progress_ne_iceFailed
  unfold handle at going ⊢
  split
  · rename_i pipeline
    rw [if_pos pipeline] at going
    cases callback with
    | localCandidate | pipelineFailed | endOfStream => exact hopeful
    | negotiationNeeded =>
        simp only [handleRunning]
        split <;> exact hopeful
    | remoteStream =>
        simp only [handleRunning]
        split <;> exact hopeful
    | gatheringComplete =>
        simp only [handleRunning, ice_reportAndFollow]
        exact hopeful
    | localDescription =>
        simp only [handleRunning]
        split
        · exact hopeful
        · split
          · rw [ice_reportAndFollow]
            exact hopeful
          · exact hopeful
    | iceChanged state =>
        simp only [handleRunning, ice_followIce]
        rintro rfl
        exact going (progress_followIce_failed rfl)
  · exact hopeful

/-- Whether network paths are being tried, or one works. -/
def IsSearching (negotiation : Negotiation ε) : Prop :=
  negotiation.progress = .connecting ∨ negotiation.progress = .connected

omit [MediaEngine ε] in
/-- Paths are tried or work until the search fails. -/
theorem IsSearching.followIce (searching : negotiation.IsSearching) :
    negotiation.followIce.1.IsSearching ∨ negotiation.followIce.1.progress = .iceFailed := by
  have begun := beginConnecting_begun searching
  cases state : negotiation.ice with
  | new | disconnected | closed =>
      exact .inl (by simpa [Negotiation.followIce, state] using searching)
  | checking => exact .inl (by simpa [Negotiation.followIce, state, begun] using searching)
  | connected | completed =>
      left
      rcases searching with stage | stage
      · simp [Negotiation.followIce, state, begun, stage, moveTo_connected stage, IsSearching]
      · simp [Negotiation.followIce, state, begun, stage, IsSearching]
  | failed =>
      right
      have going : negotiation.progress ≠ .iceFailed := by
        rcases searching with stage | stage <;> simp [stage]
      rw [followIce_failed state going]

omit [MediaEngine ε] in
theorem IsSearching.reportAndFollow (searching : negotiation.IsSearching) :
    negotiation.reportAndFollow.1.IsSearching ∨
      negotiation.reportAndFollow.1.progress = .iceFailed := by
  have quiet : negotiation.report = (negotiation, []) := by
    rcases searching with stage | stage <;> simp [report, stage]
  simpa [Negotiation.reportAndFollow, quiet] using searching.followIce

/-- Once the search has begun, callbacks do not lead back. -/
theorem IsSearching.handle (searching : negotiation.IsSearching) (callback : Engine.Callback) :
    (negotiation.handle callback).1.IsSearching ∨
      (negotiation.handle callback).1.progress = .iceFailed := by
  unfold Negotiation.handle
  split
  · cases callback with
    | localCandidate | pipelineFailed | endOfStream => exact .inl searching
    | negotiationNeeded =>
        simp only [handleRunning]
        split <;> exact .inl searching
    | remoteStream =>
        simp only [handleRunning]
        split <;> exact .inl searching
    | gatheringComplete =>
        exact @IsSearching.reportAndFollow _ { negotiation with gathered := true } searching
    | localDescription description kind =>
        simp only [handleRunning]
        split
        · exact .inl searching
        · split
          · exact @IsSearching.reportAndFollow _
              { negotiation with localDescription := some description } searching
          · exact .inl searching
    | iceChanged state => exact @IsSearching.followIce _ { negotiation with ice := state } searching
  · exact .inl searching

omit [MediaEngine ε] in
/-- The microphone can be switched exactly while paths are tried or one works. -/
theorem Runs.canMute_iff (runs : negotiation.Runs side) :
    negotiation.canMute = true ↔ negotiation.IsSearching := by
  unfold canMute IsSearching
  rw [runs.pipeline]
  rcases runs.standing with ⟨_, initiated⟩ | ⟨_, sent | connecting | connected⟩
  · simp [initiated, Progress.rank]
  · rw [sent]
    cases side <;> simp [Role.sent, Progress.rank]
  · simp [connecting]
  · simp [connected, Progress.rank]

/-- A negotiation that goes on after a callback can still be muted if it could before. -/
theorem canMute_handle (before : negotiation.Runs side) (callback : Engine.Callback)
    (runs : (negotiation.handle callback).1.Runs side) (able : negotiation.canMute = true) :
    (negotiation.handle callback).1.canMute = true := by
  rw [runs.canMute_iff]
  exact ((before.canMute_iff.mp able).handle callback).resolve_right runs.progress_ne_iceFailed

end RoomCall.Negotiation
