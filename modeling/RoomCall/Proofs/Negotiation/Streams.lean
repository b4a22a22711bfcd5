import RoomCall.Proofs.Negotiation.Requests

/-!
# Whose streams arrive

A negotiation remembers who announced each remote stream, so that the user is known whose video
starts. It does so before its engine has taken the description, and keeps it if the engine refuses.
Nothing else depends on this memory, and once all streams belong to the user on the other side
nothing depends on it at all: `handle_withStreams` and the lemmas before it show that a negotiation
with other owners of its streams does the same.
-/

namespace RoomCall.Negotiation

variable {ε : Type}

/-- The negotiation with another engine behind it, other owners of the remote streams, and other
traffic. -/
def disguised (negotiation : Negotiation ε) (engine : ε) (streams : List (String × UserId))
    (traffic : List Traffic) : Negotiation ε :=
  { negotiation with engine := engine, remoteStreams := streams, traffic := traffic }

/-- The negotiation with another engine behind it, another user on the other side, other owners of
the remote streams, and other traffic. -/
def recast (negotiation : Negotiation ε) (engine : ε) (user : Option UserId)
    (streams : List (String × UserId)) (traffic : List Traffic) : Negotiation ε :=
  { negotiation with
    engine := engine, remoteUser := user, remoteStreams := streams, traffic := traffic }

section

variable {negotiation : Negotiation ε} (engine : ε) (user : Option UserId)
  (streams : List (String × UserId)) (traffic : List Traffic)

theorem moveTo_recast (stage : Progress) :
    (negotiation.recast engine user streams traffic).moveTo stage =
      ((negotiation.moveTo stage).1.recast engine user streams traffic,
        (negotiation.moveTo stage).2) := by
  have progress : (negotiation.recast engine user streams traffic).progress =
      negotiation.progress := rfl
  unfold moveTo
  rw [progress]
  split <;> rfl

theorem beginConnecting_recast :
    (negotiation.recast engine user streams traffic).beginConnecting =
      (negotiation.beginConnecting.1.recast engine user streams traffic,
        negotiation.beginConnecting.2) := by
  have awaits : (negotiation.recast engine user streams traffic).isAwaitingIce =
      negotiation.isAwaitingIce := rfl
  unfold beginConnecting
  rw [awaits]
  split
  · exact moveTo_recast engine user streams traffic .connecting
  · rfl

theorem followIce_recast :
    (negotiation.recast engine user streams traffic).followIce =
      (negotiation.followIce.1.recast engine user streams traffic, negotiation.followIce.2) := by
  have ice : (negotiation.recast engine user streams traffic).ice = negotiation.ice := rfl
  have progress (begun : Negotiation ε) : (begun.recast engine user streams traffic).progress =
      begun.progress := rfl
  unfold followIce
  rw [ice]
  split
  · exact beginConnecting_recast engine user streams traffic
  · rw [beginConnecting_recast]
    dsimp only
    rw [progress, moveTo_recast]
    split <;> rfl
  · rw [beginConnecting_recast]
    dsimp only
    rw [progress, moveTo_recast]
    split <;> rfl
  · rw [progress, moveTo_recast]
    split <;> rfl
  · rfl
  · rfl
  · rfl

theorem report_recast :
    (negotiation.recast engine user streams traffic).report =
      (negotiation.report.1.recast engine user streams traffic, negotiation.report.2) := by
  have described : (negotiation.recast engine user streams traffic).described =
      negotiation.described := rfl
  have progress : (negotiation.recast engine user streams traffic).progress =
      negotiation.progress := rfl
  have known : (negotiation.recast engine user streams traffic).localDescription =
      negotiation.localDescription := rfl
  have role : (negotiation.recast engine user streams traffic).role = negotiation.role := rfl
  unfold report
  rw [described, progress, known, role]
  split
  · rfl
  · split
    · rfl
    · dsimp only
      split
      · have moved := @moveTo_recast ε { negotiation with described := true } engine user streams
          traffic .offerSent
        exact congrArg (fun moved : Negotiation ε × List Notice =>
          (moved.1, Notice.offerCreated _ _ :: moved.2)) moved
      · have moved := @moveTo_recast ε { negotiation with described := true } engine user streams
          traffic .answerSent
        exact congrArg (fun moved : Negotiation ε × List Notice =>
          (moved.1, Notice.answerCreated _ _ :: moved.2)) moved
      · rfl

/-- A report and what follows it are the same whatever a negotiation knows of streams. -/
theorem reportAndFollow_recast :
    (negotiation.recast engine user streams traffic).reportAndFollow =
      (negotiation.reportAndFollow.1.recast engine user streams traffic,
        negotiation.reportAndFollow.2) := by
  simp only [reportAndFollow, report_recast, followIce_recast]

variable [MediaEngine ε]

/-- A callback for which the engine is asked nothing is handled in the same way whatever the engine
is, and whoever is on the other side, if it is the same user whose video starts. -/
theorem handle_recast (callback : Engine.Callback)
    (quiet : callback = .negotiationNeeded → negotiation.described = false)
    (owners : ∀ stream medium, callback = .remoteStream stream medium →
      (negotiation.recast engine user streams traffic).streamUser? stream =
        negotiation.streamUser? stream) :
    (negotiation.recast engine user streams traffic).handle callback =
      ((negotiation.handle callback).1.recast engine user streams traffic,
        (negotiation.handle callback).2) := by
  have pipeline : (negotiation.recast engine user streams traffic).hasPipeline =
      negotiation.hasPipeline := rfl
  unfold handle
  rw [pipeline]
  split
  · cases callback with
    | negotiationNeeded =>
        have described : (negotiation.recast engine user streams traffic).described =
            negotiation.described := rfl
        simp [handleRunning, described, quiet rfl]
    | localDescription description kind =>
        rw [handleRunning, handleRunning]
        change (if negotiation.described then
            (negotiation.recast engine user streams traffic, [.renegotiate description kind])
          else if negotiation.gathered then
            (Negotiation.recast { negotiation with localDescription := some description } engine
              user streams traffic).reportAndFollow
          else
            (Negotiation.recast { negotiation with localDescription := some description } engine
              user streams traffic, [])) = _
        rw [reportAndFollow_recast]
        split
        · rfl
        · dsimp only
          split <;> rfl
    | localCandidate | pipelineFailed | endOfStream => rfl
    | gatheringComplete =>
        exact @reportAndFollow_recast ε { negotiation with gathered := true } engine user streams
          traffic
    | iceChanged state =>
        exact @followIce_recast ε { negotiation with ice := state } engine user streams traffic
    | remoteStream stream medium =>
        simp only [handleRunning, owners stream medium rfl]
        split <;> rfl
  · rfl

end

variable [MediaEngine ε] {negotiation next : Negotiation ε}

/-- A callback for which the engine is asked nothing leaves the engine and the traffic alone. -/
theorem handle_unasked {callback : Engine.Callback} {notices : List Notice}
    (quiet : callback = .negotiationNeeded → negotiation.described = false)
    (handled : negotiation.handle callback = (next, notices)) :
    next.id = negotiation.id ∧ next.engine = negotiation.engine ∧
      next.traffic = negotiation.traffic := by
  have first : (negotiation.handle callback).1 = next := congrArg Prod.fst handled
  rcases negotiation.handle_fst callback with ⟨needed, described, _⟩ | ⟨_, _, _, _, _, _, noted⟩
  · simp [quiet needed] at described
  · rw [← first, noted]
    exact ⟨rfl, rfl, rfl⟩

/-! ## Who is on the other side -/

/-- What a negotiation knows of the other side: its user, and who announced which stream. -/
def attribution (negotiation : Negotiation ε) : Option UserId × List (String × UserId) :=
  (negotiation.remoteUser, negotiation.remoteStreams)

@[simp]
theorem attribution_tell (request : Engine.Request) :
    (negotiation.tell request).attribution = negotiation.attribution := rfl

@[simp]
theorem attribution_addRemoteCandidates (candidates : List Candidate) :
    (negotiation.addRemoteCandidates candidates).attribution = negotiation.attribution := by
  rcases negotiation.addRemoteCandidates_cases candidates with ⟨_, same⟩ | ⟨_, _, same⟩ <;>
    simp [same]

@[simp]
theorem attribution_setMuted (muted : Bool) :
    (negotiation.setMuted muted).1.attribution = negotiation.attribution := by
  rcases negotiation.setMuted_cases muted with same | same <;> simp [same]

@[simp]
theorem attribution_toggleCamera :
    negotiation.toggleCamera.1.attribution = negotiation.attribution := by
  rcases negotiation.toggleCamera_cases with same | same <;> simp [same]

@[simp]
theorem attribution_handle (callback : Engine.Callback) :
    (negotiation.handle callback).1.attribution = negotiation.attribution := by
  rcases negotiation.handle_fst callback with ⟨_, _, told⟩ | ⟨_, _, _, _, _, _, noted⟩
  · rw [told, attribution_tell]
  · rw [noted]
    rfl

/-- A callback for which the engine is asked nothing is handled in the same way whatever the engine
is, and whoever owns the streams, if it is the same user whose video starts. -/
theorem handle_disguised (engine : ε) (streams : List (String × UserId)) (traffic : List Traffic)
    (callback : Engine.Callback)
    (quiet : callback = .negotiationNeeded → negotiation.described = false)
    (owners : ∀ stream, (negotiation.disguised engine streams traffic).streamUser? stream =
      negotiation.streamUser? stream) :
    (negotiation.disguised engine streams traffic).handle callback =
      ((negotiation.handle callback).1.disguised engine streams traffic,
        (negotiation.handle callback).2) := by
  have known : (negotiation.handle callback).1.remoteUser = negotiation.remoteUser :=
    congrArg Prod.fst (attribution_handle callback)
  refine (handle_recast engine negotiation.remoteUser streams traffic callback quiet
    fun stream _ _ => owners stream).trans ?_
  rw [← known]
  rfl

/-- All remote streams that are known were announced by one user. -/
def Credits (negotiation : Negotiation ε) (user : UserId) : Prop :=
  ∀ entry ∈ negotiation.remoteStreams, entry.2 = user

/-- The user on the other side is known, and all remote streams were announced by that user. -/
structure Faces (negotiation : Negotiation ε) (user : UserId) : Prop where
  known : negotiation.remoteUser = some user
  credits : negotiation.Credits user

variable {user : UserId} {streams : List (String × UserId)}

omit [MediaEngine ε] in
theorem Credits.congr (credits : negotiation.Credits user)
    (same : next.attribution = negotiation.attribution) : next.Credits user := by
  have streams : next.remoteStreams = negotiation.remoteStreams := congrArg Prod.snd same
  unfold Credits
  rwa [streams]

omit [MediaEngine ε] in
theorem Faces.congr (faces : negotiation.Faces user)
    (same : next.attribution = negotiation.attribution) : next.Faces user :=
  ⟨(congrArg Prod.fst same).trans faces.known, faces.credits.congr same⟩

/-- Streams that are credited to a user stay so when the streams of a description of that user are
added. -/
theorem rememberStreams_credited (credited : ∀ entry ∈ streams, entry.2 = user)
    (description : String) : ∀ entry ∈ rememberStreams streams description user,
      entry.2 = user := by
  unfold rememberStreams
  generalize (Description.sections description).filterMap Description.Section.stream = names
  induction names generalizing streams with
  | nil => exact credited
  | cons name later ih =>
      refine ih fun entry there => ?_
      rcases List.mem_cons.mp there with rfl | there
      · rfl
      · exact credited entry (List.mem_filter.mp there).1

/-- A description of a user adds streams of that user alone, and makes the user known. -/
theorem faces_applyRemote (credits : negotiation.Credits user) (description : String)
    (kind : DescriptionKind) : (negotiation.applyRemote description kind user).1.Faces user :=
  ⟨rfl, rememberStreams_credited credits description⟩

/-- A further description of the remote user leaves all streams with that user. -/
theorem faces_renegotiate (faces : negotiation.Faces user) (description : String)
    (isAnswer : Bool) : (negotiation.renegotiate description user isAnswer).1.Faces user := by
  rcases negotiation.renegotiate_cases description user isAnswer with same | ⟨kind, same | same⟩
  · rwa [same]
  · rw [same]
    exact faces_applyRemote faces.credits description kind
  · rw [same]
    exact (faces_applyRemote faces.credits description kind).congr (attribution_tell _)

/-- To start a call brings no streams of anybody else. -/
theorem credits_start (idle : negotiation.progress = .disconnected)
    (credits : negotiation.Credits user) (pipeline : Engine.Pipeline) :
    (negotiation.start pipeline).1.Credits user := by
  unfold start
  rw [if_neg (by simp [idle])]
  rcases @build_cases ε _ { negotiation with role := some .offering } idle pipeline with
    ⟨fault, _, refused⟩ | ⟨_, built⟩
  · rw [refused]
    exact credits
  · rw [built]
    exact credits

/-- An offer that is accepted gives its streams to the user who sent it. -/
theorem faces_acceptOffer {pipeline : Engine.Pipeline} {offer : String}
    {candidates : List Candidate} {notices : List Notice}
    (idle : negotiation.progress = .disconnected) (credits : negotiation.Credits user)
    (accepted : negotiation.acceptOffer pipeline offer candidates user = (next, .ok notices)) :
    next.Faces user := by
  unfold acceptOffer at accepted
  rw [if_neg (by simp [idle])] at accepted
  split at accepted
  · simp at accepted
  · rcases @build_cases ε _ { negotiation with role := some .answering } idle pipeline with
      ⟨fault, _, refused⟩ | ⟨_, built⟩
    · simp [refused] at accepted
    · rw [built] at accepted
      dsimp only at accepted
      split at accepted
      · simp at accepted
      · rename_i applied took
        have first : _ = applied := congrArg Prod.fst took
        have last : _ = next := congrArg Prod.fst accepted
        have faces : applied.Faces user := by
          rw [← first]
          apply faces_applyRemote
          exact credits
        rw [← last]
        exact faces.congr (by simp)

omit [MediaEngine ε] in
/-- A stream of any name belongs to the user on the other side. -/
theorem Faces.streamUser?_eq (faces : negotiation.Faces user) (stream : Option String) :
    negotiation.streamUser? stream = some user := by
  have announced (name : String) :
      negotiation.userForStream? name = none ∨ negotiation.userForStream? name = some user := by
    unfold userForStream?
    cases found : negotiation.remoteStreams.find? fun entry => entry.1 = name with
    | none => exact .inl rfl
    | some entry =>
        exact .inr (congrArg some (faces.credits entry (List.mem_of_find?_eq_some found)))
  unfold streamUser?
  cases stream with
  | none => simp [faces.known]
  | some name => rcases announced name with unknown | known <;> simp [*, faces.known]

/-! ## Other owners of the streams -/

/-- The negotiation with other owners of the remote streams. -/
def withStreams (negotiation : Negotiation ε) (streams : List (String × UserId)) : Negotiation ε :=
  { negotiation with remoteStreams := streams }

theorem ask_withStreams (streams : List (String × UserId)) (request : Engine.Request) :
    (negotiation.withStreams streams).ask request =
      ((negotiation.ask request).1.withStreams streams, (negotiation.ask request).2) := rfl

theorem tell_withStreams (streams : List (String × UserId)) (request : Engine.Request) :
    (negotiation.withStreams streams).tell request =
      (negotiation.tell request).withStreams streams := rfl

/-- A description is taken the same way whatever streams are known; its own are added to them. -/
theorem applyRemote_withStreams (streams : List (String × UserId)) (description : String)
    (kind : DescriptionKind) (user : UserId) :
    (negotiation.withStreams streams).applyRemote description kind user =
      ((negotiation.applyRemote description kind user).1.withStreams
          (rememberStreams streams description user),
        (negotiation.applyRemote description kind user).2) := rfl

theorem addRemoteCandidates_withStreams (streams : List (String × UserId))
    (candidates : List Candidate) :
    (negotiation.withStreams streams).addRemoteCandidates candidates =
      (negotiation.addRemoteCandidates candidates).withStreams streams := by
  unfold addRemoteCandidates
  split <;> rfl

/-- A further description leads to the same whatever streams are known, but for the streams known
then. -/
theorem renegotiate_withStreams (streams : List (String × UserId)) (description : String)
    (user : UserId) (isAnswer : Bool) :
    ∃ later, (negotiation.withStreams streams).renegotiate description user isAnswer =
      ((negotiation.renegotiate description user isAnswer).1.withStreams later,
        (negotiation.renegotiate description user isAnswer).2) := by
  have pipeline : (negotiation.withStreams streams).hasPipeline = negotiation.hasPipeline := rfl
  have progress : (negotiation.withStreams streams).progress = negotiation.progress := rfl
  unfold renegotiate
  simp only [applyRemote_withStreams, pipeline, progress]
  split
  · exact ⟨streams, rfl⟩
  · refine ⟨rememberStreams streams description user, ?_⟩
    split
    · rcases negotiation.applyRemote description .answer user with ⟨applied, _ | fault⟩ <;> rfl
    · rcases negotiation.applyRemote description .offer user with ⟨applied, _ | fault⟩ <;> rfl

theorem setMuted_withStreams (streams : List (String × UserId)) (muted : Bool) :
    (negotiation.withStreams streams).setMuted muted =
      ((negotiation.setMuted muted).1.withStreams streams, (negotiation.setMuted muted).2) := by
  have able : (negotiation.withStreams streams).canMute = negotiation.canMute := rfl
  have progress : (negotiation.withStreams streams).progress = negotiation.progress := rfl
  unfold setMuted
  rw [able, progress, ask_withStreams]
  split
  · rfl
  · rcases negotiation.ask (.setMuted muted) with ⟨asked, _ | fault⟩ <;> rfl

theorem toggleCamera_withStreams (streams : List (String × UserId)) :
    (negotiation.withStreams streams).toggleCamera =
      (negotiation.toggleCamera.1.withStreams streams, negotiation.toggleCamera.2) := by
  have pipeline : (negotiation.withStreams streams).hasPipeline = negotiation.hasPipeline := rfl
  have progress : (negotiation.withStreams streams).progress = negotiation.progress := rfl
  unfold toggleCamera
  rw [pipeline, progress, ask_withStreams]
  split
  · rfl
  · rcases negotiation.ask .toggleCamera with ⟨asked, _ | fault⟩ <;> rfl

omit [MediaEngine ε] in
theorem moveTo_withStreams (streams : List (String × UserId)) (stage : Progress) :
    (negotiation.withStreams streams).moveTo stage =
      ((negotiation.moveTo stage).1.withStreams streams, (negotiation.moveTo stage).2) := by
  have progress : (negotiation.withStreams streams).progress = negotiation.progress := rfl
  unfold moveTo
  rw [progress]
  split <;> rfl

theorem finish_withStreams (streams : List (String × UserId)) :
    (negotiation.withStreams streams).finish =
      (negotiation.finish.1.withStreams streams, negotiation.finish.2) := by
  have pipeline : (negotiation.withStreams streams).hasPipeline = negotiation.hasPipeline := rfl
  rw [finish_eq, finish_eq, pipeline]
  split
  · exact @moveTo_withStreams ε { negotiation.tell .finish with hasPipeline := false } streams
      .disconnected
  · exact moveTo_withStreams streams .disconnected

/-- If all streams belong to the user on the other side, a callback is handled in the same way
whichever streams are known. -/
theorem handle_withStreams (faces : negotiation.Faces user)
    (others : (negotiation.withStreams streams).Faces user) (callback : Engine.Callback) :
    (negotiation.withStreams streams).handle callback =
      ((negotiation.handle callback).1.withStreams streams, (negotiation.handle callback).2) := by
  by_cases asks : callback = .negotiationNeeded
  · have pipeline : (negotiation.withStreams streams).hasPipeline = negotiation.hasPipeline := rfl
    have described : (negotiation.withStreams streams).described = negotiation.described := rfl
    have progress : (negotiation.withStreams streams).progress = negotiation.progress := rfl
    subst asks
    simp only [handle, handleRunning, pipeline, described, progress, tell_withStreams]
    split
    · split <;> rfl
    · rfl
  · have owners (stream : Option String) :
        (negotiation.disguised negotiation.engine streams negotiation.traffic).streamUser? stream =
          negotiation.streamUser? stream :=
      (others.streamUser?_eq stream).trans (faces.streamUser?_eq stream).symm
    have quiet : callback = .negotiationNeeded → negotiation.described = false :=
      fun needed => absurd needed asks
    rcases handle_unasked quiet rfl with ⟨-, engine, traffic⟩
    refine (handle_disguised negotiation.engine streams negotiation.traffic callback quiet
      owners).trans ?_
    rw [← engine, ← traffic]
    rfl

end RoomCall.Negotiation
