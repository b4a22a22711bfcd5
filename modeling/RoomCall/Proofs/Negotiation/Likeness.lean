import RoomCall.Proofs.Negotiation.Pieces
import RoomCall.Proofs.Negotiation.Streams

/-!
# Negotiations that differ in what they know of the other side

What a negotiation knows of the other side has no bearing on anything it does, except on whose video
it reports. Two negotiations that differ in this alone therefore stay so, whatever is asked of both:
they give the same outcomes but for the video. How far apart they are in their knowledge is a
parameter, `near`, of which nothing is required but that one lesson for both keeps them near. If
nearness decides whose streams are whose, the outcomes are the same altogether.
-/

namespace RoomCall

/-- Whether a notice reports video. -/
def Notice.isVideo : Notice → Bool
  | .remoteVideo _ => true
  | _ => false

namespace Negotiation

/-- The user on the other side, and who announced which stream. -/
abbrev Attribution := Option UserId × List (String × UserId)

/-- What is known of the other side after a description of a user. -/
def Attribution.taught (attribution : Attribution) (description : String) (user : UserId) :
    Attribution :=
  (some user, rememberStreams attribution.2 description user)

/-- One lesson for both sides of the relation keeps them related. -/
def Teachable (near : Attribution → Attribution → Prop) : Prop :=
  ∀ first second description user, near first second →
    near (first.taught description user) (second.taught description user)

variable {ε α : Type}

/-- The second negotiation is the first one with another knowledge of the other side, which is near
to its own, and other traffic. -/
inductive Alike (near : Attribution → Attribution → Prop) (first : Negotiation ε) :
    Negotiation ε → Prop where
  | recast (user : Option UserId) (streams : List (String × UserId)) (traffic : List Traffic)
      (close : near first.attribution (user, streams)) :
      Alike near first (first.recast first.engine user streams traffic)

/-- The same reply from negotiations that are alike. -/
inductive Parallel (near : Attribution → Attribution → Prop) :
    Negotiation ε × α → Negotiation ε × α → Prop where
  | intro {first second : Negotiation ε} (alike : Alike near first second) (reply : α) :
      Parallel near (first, reply) (second, reply)

variable {near : Attribution → Attribution → Prop} {first second : Negotiation ε}

theorem Alike.progress (alike : Alike near first second) : second.progress = first.progress := by
  cases alike
  rfl

theorem Alike.hasPipeline (alike : Alike near first second) :
    second.hasPipeline = first.hasPipeline := by
  cases alike
  rfl

theorem Alike.engine (alike : Alike near first second) : second.engine = first.engine := by
  cases alike
  rfl

theorem Alike.staged (alike : Alike near first second) (stage : Progress) :
    Alike near { first with progress := stage } { second with progress := stage } := by
  cases alike with
  | recast user streams traffic close => exact .recast user streams traffic close

theorem Alike.sided (alike : Alike near first second) (side : Role) :
    Alike near { first with role := some side } { second with role := some side } := by
  cases alike with
  | recast user streams traffic close => exact .recast user streams traffic close

theorem Alike.piped (alike : Alike near first second) (isUp : Bool) :
    Alike near { first with hasPipeline := isUp } { second with hasPipeline := isUp } := by
  cases alike with
  | recast user streams traffic close => exact .recast user streams traffic close

/-- Negotiations that are alike move to the same stage or stay where they are together. -/
theorem Alike.moveTo (alike : Alike near first second) (stage : Progress) :
    Parallel near (first.moveTo stage) (second.moveTo stage) := by
  have moved := alike.staged stage
  unfold Negotiation.moveTo
  rw [alike.progress]
  split
  · exact .intro moved _
  · exact .intro alike _

variable [MediaEngine ε]

theorem Alike.ask (alike : Alike near first second) (request : Engine.Request) :
    Parallel near (first.ask request) (second.ask request) := by
  cases alike with
  | recast user streams traffic close =>
      have asked : Alike near (first.ask request).1
          ((first.recast first.engine user streams traffic).ask request).1 :=
        .recast user streams _ close
      exact .intro asked _

theorem Alike.tell (alike : Alike near first second) (request : Engine.Request) :
    Alike near (first.tell request) (second.tell request) := by
  have asked := alike.ask request
  unfold Negotiation.tell
  generalize first.ask request = reply, second.ask request = other at asked ⊢
  cases asked with
  | intro alike => exact alike

/-! ## Operations -/

theorem Alike.addRemoteCandidates (alike : Alike near first second)
    (candidates : List Candidate) :
    Alike near (first.addRemoteCandidates candidates) (second.addRemoteCandidates candidates) := by
  unfold Negotiation.addRemoteCandidates
  split
  · exact alike
  · exact alike.tell _

/-- Negotiations that are alike take a description alike, as long as one lesson for both keeps near
what they know. -/
theorem Alike.applyRemote (teachable : Teachable near) (alike : Alike near first second)
    (description : String) (kind : DescriptionKind) (user : UserId) :
    Parallel near (first.applyRemote description kind user)
      (second.applyRemote description kind user) := by
  unfold Negotiation.applyRemote
  refine Alike.ask ?_ _
  cases alike with
  | recast known streams traffic close =>
      exact .recast (some user) (rememberStreams streams description user) traffic
        (teachable first.attribution (known, streams) description user close)

theorem Alike.build (alike : Alike near first second) (pipeline : Engine.Pipeline) :
    Parallel near (first.build pipeline) (second.build pipeline) := by
  have initiating := alike.moveTo .initiating
  unfold Negotiation.build
  generalize first.moveTo .initiating = begun, second.moveTo .initiating = other at initiating ⊢
  cases initiating with
  | @intro begun other alike opening =>
      have asked := alike.ask (.build pipeline)
      dsimp only
      generalize begun.ask (.build pipeline) = reply, other.ask (.build pipeline) = twin at asked ⊢
      cases asked with
      | @intro built twin alike refusal =>
          cases refusal with
          | none =>
              have initiated := (alike.piped true).moveTo .initiated
              dsimp only
              generalize ({ built with hasPipeline := true } : Negotiation ε).moveTo .initiated = up,
                ({ twin with hasPipeline := true } : Negotiation ε).moveTo .initiated = upTwin
                at initiated ⊢
              cases initiated with
              | intro alike more => exact .intro alike _
          | some fault =>
              have down := alike.moveTo .disconnected
              dsimp only
              generalize built.moveTo .disconnected = left, twin.moveTo .disconnected = leftTwin
                at down ⊢
              cases down with
              | intro alike => exact .intro alike _

theorem Alike.start (alike : Alike near first second) (pipeline : Engine.Pipeline) :
    Parallel near (first.start pipeline) (second.start pipeline) := by
  have built := (alike.sided .offering).build pipeline
  unfold Negotiation.start
  generalize ({ first with role := some .offering } : Negotiation ε).build pipeline = reply,
    ({ second with role := some .offering } : Negotiation ε).build pipeline = twin at built ⊢
  rw [alike.progress]
  split
  · exact .intro alike _
  · cases built with
    | intro alike reply =>
        cases reply with
        | error error => exact .intro alike _
        | ok notices => exact .intro (alike.tell .offer) _

theorem Alike.acceptOffer (teachable : Teachable near) (alike : Alike near first second)
    (pipeline : Engine.Pipeline) (offer : String) (candidates : List Candidate) (user : UserId) :
    Parallel near (first.acceptOffer pipeline offer candidates user)
      (second.acceptOffer pipeline offer candidates user) := by
  have built := (alike.sided .answering).build pipeline
  unfold Negotiation.acceptOffer
  generalize ({ first with role := some .answering } : Negotiation ε).build pipeline = reply,
    ({ second with role := some .answering } : Negotiation ε).build pipeline = twin at built ⊢
  rw [alike.progress]
  split
  · exact .intro alike _
  · split
    · exact .intro alike _
    · cases built with
      | @intro built twin alike reply =>
          cases reply with
          | error error => exact .intro alike _
          | ok notices =>
              have applied := alike.applyRemote teachable offer .offer user
              dsimp only
              generalize built.applyRemote offer .offer user = reply,
                twin.applyRemote offer .offer user = other at applied ⊢
              cases applied with
              | intro alike refusal =>
                  cases refusal with
                  | some fault => exact .intro alike _
                  | none => exact .intro ((alike.addRemoteCandidates candidates).tell .answer) _

/-- Negotiations that are alike take an answer or refuse it alike. -/
theorem Alike.acceptAnswer (teachable : Teachable near) (alike : Alike near first second)
    (answer : String) (candidates : List Candidate) (user : UserId) :
    Parallel near (first.acceptAnswer answer candidates user)
      (second.acceptAnswer answer candidates user) := by
  unfold Negotiation.acceptAnswer
  rw [alike.progress]
  split
  · exact .intro alike _
  · have applied := alike.applyRemote teachable answer .answer user
    generalize first.applyRemote answer .answer user = reply,
      second.applyRemote answer .answer user = other at applied ⊢
    cases applied with
    | intro alike refusal =>
        cases refusal with
        | some fault => exact .intro alike _
        | none => exact .intro (alike.addRemoteCandidates candidates) _

theorem Alike.renegotiate (teachable : Teachable near) (alike : Alike near first second)
    (description : String) (user : UserId) (isAnswer : Bool) :
    Parallel near (first.renegotiate description user isAnswer)
      (second.renegotiate description user isAnswer) := by
  have applied (kind : DescriptionKind) := alike.applyRemote teachable description kind user
  have answers := applied .answer
  have offers := applied .offer
  unfold Negotiation.renegotiate
  rw [alike.progress, alike.hasPipeline]
  generalize first.applyRemote description .answer user = answered,
    second.applyRemote description .answer user = other at answers ⊢
  generalize first.applyRemote description .offer user = offered,
    second.applyRemote description .offer user = another at offers ⊢
  cases answers with
  | intro answered refusal =>
      cases offers with
      | intro offered rejection =>
          split
          · exact .intro alike _
          · split
            · cases refusal with
              | some fault => exact .intro answered _
              | none => exact .intro answered _
            · cases rejection with
              | some fault => exact .intro offered _
              | none => exact .intro (offered.tell .answer) _

theorem Alike.acceptCandidates (alike : Alike near first second) (candidates : List Candidate) :
    Alike near (first.acceptCandidates candidates) (second.acceptCandidates candidates) := by
  unfold Negotiation.acceptCandidates
  rw [alike.hasPipeline]
  split
  · exact alike.addRemoteCandidates candidates
  · exact alike

theorem Alike.finish (alike : Alike near first second) :
    Parallel near first.finish second.finish := by
  rw [finish_eq, finish_eq, alike.hasPipeline]
  split
  · exact ((alike.tell .finish).piped false).moveTo .disconnected
  · exact alike.moveTo .disconnected

theorem Alike.setMuted (alike : Alike near first second) (muted : Bool) :
    Parallel near (first.setMuted muted) (second.setMuted muted) := by
  have able : second.canMute = first.canMute := by
    rw [canMute, canMute, alike.hasPipeline, alike.progress]
  have asked := alike.ask (.setMuted muted)
  unfold Negotiation.setMuted
  rw [able, alike.progress]
  split
  · exact .intro alike _
  · generalize first.ask (.setMuted muted) = reply, second.ask (.setMuted muted) = other at asked ⊢
    cases asked with
    | intro alike refusal => cases refusal <;> exact .intro alike _

theorem Alike.toggleCamera (alike : Alike near first second) :
    Parallel near first.toggleCamera second.toggleCamera := by
  have asked := alike.ask .toggleCamera
  unfold Negotiation.toggleCamera
  rw [alike.hasPipeline, alike.progress]
  split
  · exact .intro alike _
  · generalize first.ask .toggleCamera = reply, second.ask .toggleCamera = other at asked ⊢
    cases asked with
    | intro alike refusal =>
        cases refusal with
        | some fault => exact .intro alike _
        | none =>
            dsimp only
            rw [alike.engine]
            exact .intro alike _

/-! ## Callbacks -/

/-- A callback is handled alike, if the same user's video starts. -/
theorem Alike.handle (alike : Alike near first second) (callback : Engine.Callback)
    (owners : ∀ stream medium, callback = .remoteStream stream medium →
      second.streamUser? stream = first.streamUser? stream) :
    Parallel near (first.handle callback) (second.handle callback) := by
  by_cases asks : callback = .negotiationNeeded
  · subst asks
    have described : second.described = first.described := by cases alike; rfl
    simp only [Negotiation.handle, handleRunning, alike.hasPipeline, alike.progress, described]
    split
    · split
      · exact .intro (alike.tell .offer) _
      · exact .intro alike _
    · exact .intro alike _
  · have quiet : callback = .negotiationNeeded → first.described = false :=
      fun needed => absurd needed asks
    have same : (first.handle callback).1.attribution = first.attribution :=
      attribution_handle callback
    have engine : (first.handle callback).1.engine = first.engine := (handle_unasked quiet rfl).2.1
    cases alike with
    | recast user streams traffic close =>
        have handled := handle_recast first.engine user streams traffic callback quiet owners
        generalize first.handle callback = reply at handled same engine
        rcases reply with ⟨next, notices⟩
        dsimp only at handled same engine
        rw [handled, ← engine]
        exact .intro (.recast user streams traffic (same ▸ close)) _

/-! ## Whatever is asked -/

/-- All operations are performed alike, if the same user's video starts. -/
theorem Alike.perform (teachable : Teachable near) (alike : Alike near first second)
    (operation : Operation)
    (owners : ∀ stream medium, operation = .handle (.remoteStream stream medium) →
      second.streamUser? stream = first.streamUser? stream) :
    Parallel near (first.perform operation) (second.perform operation) := by
  have given {α : Type} {reply other : Negotiation ε × α} (parallel : Parallel near reply other)
      (outcome : α → Outcome) :
      Parallel near (reply.1, outcome reply.2) (other.1, outcome other.2) := by
    cases parallel with
    | intro alike reply => exact .intro alike _
  cases operation with
  | start pipeline => exact given (alike.start pipeline) _
  | acceptOffer pipeline offer candidates user =>
      exact given (alike.acceptOffer teachable pipeline offer candidates user) _
  | acceptAnswer answer candidates user =>
      exact given (alike.acceptAnswer teachable answer candidates user) _
  | renegotiate description user isAnswer =>
      exact given (alike.renegotiate teachable description user isAnswer) _
  | acceptCandidates candidates => exact .intro (alike.acceptCandidates candidates) _
  | finish => exact given alike.finish _
  | setMuted muted => exact given (alike.setMuted muted) _
  | toggleCamera => exact given alike.toggleCamera _
  | handle callback =>
      have handled := alike.handle callback fun stream medium starts =>
        owners stream medium (congrArg Operation.handle starts)
      exact given handled _

/-- What an outcome tells apart from the video that starts. -/
def Outcome.unseen (outcome : Outcome) : Outcome :=
  { outcome with notices := outcome.notices.filter fun notice => !notice.isVideo }

/-- A stream that starts changes nothing, and no more than video is told of it. -/
theorem perform_remoteStream (negotiation : Negotiation ε) (stream : Option String)
    (medium : Medium) :
    (negotiation.perform (.handle (.remoteStream stream medium))).1 = negotiation ∧
      (negotiation.perform (.handle (.remoteStream stream medium))).2.unseen = {} := by
  simp only [Negotiation.perform, Negotiation.handle, handleRunning]
  split
  · split <;> exact ⟨rfl, rfl⟩
  · exact ⟨rfl, rfl⟩

/-- Every operation leaves negotiations alike, with the same outcome but for the users of streams.
-/
theorem Alike.perform_unseen (teachable : Teachable near) (alike : Alike near first second)
    (operation : Operation) :
    Alike near (first.perform operation).1 (second.perform operation).1 ∧
      (second.perform operation).2.unseen = (first.perform operation).2.unseen := by
  by_cases starts : ∃ stream medium, operation = .handle (.remoteStream stream medium)
  · obtain ⟨stream, medium, rfl⟩ := starts
    rcases first.perform_remoteStream stream medium with ⟨same, outcome⟩
    rcases second.perform_remoteStream stream medium with ⟨sameToo, outcomeToo⟩
    rw [same, sameToo, outcome, outcomeToo]
    exact ⟨alike, rfl⟩
  · have performed := alike.perform teachable operation fun stream medium same =>
      absurd ⟨stream, medium, same⟩ starts
    generalize first.perform operation = reply, second.perform operation = other at performed
    cases performed with
    | intro alike => exact ⟨alike, rfl⟩

/-- Whatever is asked of negotiations that are alike, they tell the same but for the video. -/
theorem Alike.outcomes_unseen (teachable : Teachable near) (alike : Alike near first second)
    (operations : List Operation) :
    (second.outcomes operations).map Outcome.unseen =
      (first.outcomes operations).map Outcome.unseen := by
  induction operations generalizing first second with
  | nil => rfl
  | cons operation later ih =>
      rcases alike.perform_unseen teachable operation with ⟨next, outcome⟩
      rw [Negotiation.outcomes, Negotiation.outcomes, List.map_cons, List.map_cons, outcome, ih next]

/-- If nearness decides whose video starts, they tell the same altogether. -/
theorem Alike.outcomes (teachable : Teachable near)
    (decides : ∀ {first second : Negotiation ε}, near first.attribution second.attribution →
      ∀ stream, second.streamUser? stream = first.streamUser? stream)
    (alike : Alike near first second) (operations : List Operation) :
    second.outcomes operations = first.outcomes operations := by
  induction operations generalizing first second with
  | nil => rfl
  | cons operation later ih =>
      have close : near first.attribution second.attribution := by
        cases alike with
        | recast _ _ _ close => exact close
      have performed := alike.perform teachable operation fun stream _ _ => decides close stream
      rw [Negotiation.outcomes, Negotiation.outcomes]
      generalize first.perform operation = reply, second.perform operation = other at performed ⊢
      cases performed with
      | intro alike outcome => rw [ih alike]

end Negotiation

end RoomCall
