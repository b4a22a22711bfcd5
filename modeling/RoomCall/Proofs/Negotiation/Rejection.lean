import RoomCall.Engine.Rehearsal
import RoomCall.Proofs.Negotiation.Likeness

/-!
# What a rejected description leaves behind

A remote description is rejected at the wrong stage, or by the engine. At the wrong stage it changes
nothing. But before the engine is asked, the user who sent the description is remembered as the one
on the other side, and as the owner of the streams that it announces; that stays when the engine
rejects it. So video that starts later can be put down to a user of whom nothing was ever accepted.
Nothing else comes of it.
-/

namespace RoomCall

/-- The streams that a description announces. -/
def Description.announced (description : String) : List String :=
  (Description.sections description).filterMap Description.Section.stream

namespace Negotiation

/-- The description that an operation hands over, with the user who sent it. -/
def Operation.remote? : Operation → Option (String × UserId)
  | .acceptAnswer answer _ user => some (answer, user)
  | .renegotiate description user _ => some (description, user)
  | _ => none

/-! ## Owners of streams -/

/-- The user who owns a stream. -/
def owner? (streams : List (String × UserId)) (name : String) : Option UserId :=
  (streams.find? fun entry => entry.1 = name).map Prod.snd

/-- A stream that is remembered has its user from then on, and no other stream changes hands. -/
theorem owner?_rememberStream (streams : List (String × UserId)) (announced name : String)
    (user : UserId) :
    owner? (rememberStream streams announced user) name =
      if announced = name then some user else owner? streams name := by
  unfold owner? rememberStream
  by_cases same : announced = name
  · simp [same]
  · have others : (streams.filter fun entry => entry.1 ≠ announced).find?
        (fun entry => entry.1 = name) = streams.find? fun entry => entry.1 = name := by
      rw [List.find?_filter]
      congr 1
      funext entry
      by_cases found : entry.1 = name
      · simp [found, Ne.symm same]
      · simp [found]
    rw [List.find?_cons_of_neg (by simpa using same), others, if_neg same]

/-- After a description of a user, the streams that it announces are owned by that user. -/
theorem owner?_rememberStreams (streams : List (String × UserId)) (description name : String)
    (user : UserId) :
    owner? (rememberStreams streams description user) name =
      if name ∈ Description.announced description then some user else owner? streams name := by
  unfold rememberStreams Description.announced
  generalize (Description.sections description).filterMap Description.Section.stream = names
  induction names generalizing streams with
  | nil => simp
  | cons announced later ih =>
      rw [List.foldl_cons, ih, owner?_rememberStream]
      by_cases again : name ∈ later
      · simp [again]
      · by_cases same : announced = name
        · simp [same]
        · simp [again, same, Ne.symm same]

/-- The same user is on the other side, and all streams have the same owners. -/
def SameOwners (first second : Attribution) : Prop :=
  second.1 = first.1 ∧ ∀ name, owner? second.2 name = owner? first.2 name

theorem teachable_sameOwners : Teachable SameOwners := by
  intro first second description user same
  refine ⟨rfl, fun name => ?_⟩
  rw [Attribution.taught, Attribution.taught, owner?_rememberStreams, owner?_rememberStreams,
    same.2 name]

theorem teachable_true : Teachable fun _ _ => True := fun _ _ _ _ _ => trivial

variable {ε : Type} {before after : Negotiation ε} {description : String} {user : UserId}

theorem SameOwners.streamUser?_eq (same : SameOwners before.attribution after.attribution)
    (stream : Option String) : after.streamUser? stream = before.streamUser? stream := by
  have known : after.remoteUser = before.remoteUser := same.1
  have owners (name : String) : after.userForStream? name = before.userForStream? name :=
    same.2 name
  unfold streamUser?
  rw [known]
  cases stream with
  | none => rfl
  | some name => simp [owners]

variable [MediaEngine ε]

/-! ## Rejections -/

/-- What a description changes that the engine rejects. -/
structure Unheeded (before after : Negotiation ε) (description : String) (user : UserId) : Prop where
  /-- All but the attribution and the traffic is as it was. -/
  same : after = before.recast before.engine after.remoteUser after.remoteStreams after.traffic
  known : after.remoteUser = some user
  owners : ∀ name, after.userForStream? name =
    if name ∈ Description.announced description then some user else before.userForStream? name

/-- If the engine stays as it was, a description has changed only what a rejected one does. -/
theorem unheeded_applyRemote (kind : DescriptionKind)
    (still : (before.applyRemote description kind user).1.engine = before.engine) :
    Unheeded before (before.applyRemote description kind user).1 description user := by
  refine ⟨?_, rfl, fun name => ?_⟩
  · rw [← still]
    rfl
  · exact owner?_rememberStreams before.remoteStreams description name user

/-- A description is refused at the wrong stage, or while there is a pipeline by the engine. -/
inductive Refused (before after : Negotiation ε) (description : String) (user : UserId) :
    NegotiationError → Prop where
  | wrongStage (same : after = before) :
      Refused before after description user (.wrongStage before.progress)
  | media (fault : Engine.Fault) (kind : DescriptionKind) (up : before.hasPipeline = true)
      (same : after = (before.applyRemote description kind user).1) :
      Refused before after description user (.media fault)

variable {refusal : NegotiationError}

theorem refused_acceptAnswer (upright : before.Upright) {candidates : List Candidate}
    (refused : (before.acceptAnswer description candidates user).2 = .error refusal) :
    Refused before (before.acceptAnswer description candidates user).1 description user refusal := by
  by_cases sent : before.progress = .offerSent
  · rcases acceptAnswer_cases sent description candidates user with
      ⟨failed, fault, reply, rejected⟩ | ⟨_, taken⟩
    · rw [rejected] at refused ⊢
      obtain rfl := Except.error.inj refused
      exact .media fault .answer (upright.up sent (by simp)) (by rw [reply])
    · rw [taken] at refused
      cases refused
  · rw [acceptAnswer, if_pos sent] at refused ⊢
    obtain rfl := Except.error.inj refused
    exact .wrongStage rfl

theorem refused_renegotiate {isAnswer : Bool}
    (refused : (before.renegotiate description user isAnswer).2 = .error refusal) :
    Refused before (before.renegotiate description user isAnswer).1 description user refusal := by
  unfold renegotiate at refused ⊢
  split
  · rename_i idle
    rw [if_pos idle] at refused
    obtain rfl := Except.error.inj refused
    exact .wrongStage rfl
  · rename_i ready
    have up : before.hasPipeline = true := by
      cases pipeline : before.hasPipeline <;> simp_all
    rw [if_neg ready] at refused
    split
    · rename_i answers
      rw [if_pos answers] at refused
      split
      · rename_i failed fault rejected
        rw [rejected] at refused
        obtain rfl := Except.error.inj refused
        exact .media fault .answer up (by rw [rejected])
      · rename_i taken
        simp [taken] at refused
    · rename_i offers
      rw [if_neg offers] at refused
      split
      · rename_i failed fault rejected
        rw [rejected] at refused
        obtain rfl := Except.error.inj refused
        exact .media fault .offer up (by rw [rejected])
      · rename_i taken
        simp [taken] at refused

/-- An operation that hands over a description and is refused was refused for the stage or by the
engine. -/
theorem refused_perform {operation : Operation} (upright : before.Upright)
    (hands : operation.remote? = some (description, user))
    (refused : (before.perform operation).2.refusal = some refusal) :
    Refused before (before.perform operation).1 description user refusal := by
  have error {reply : Except NegotiationError Unit}
      (told : (Outcome.of (fun _ => {}) reply).refusal = some refusal) : reply = .error refusal := by
    cases reply with
    | ok => cases told
    | error error => exact congrArg Except.error (Option.some.inj told)
  cases operation with
  | acceptAnswer answer candidates sender =>
      obtain ⟨rfl, rfl⟩ := Prod.mk.inj (Option.some.inj hands)
      exact refused_acceptAnswer upright (error refused)
  | renegotiate sent sender isAnswer =>
      obtain ⟨rfl, rfl⟩ := Prod.mk.inj (Option.some.inj hands)
      exact refused_renegotiate (error refused)
  | _ => cases hands

/-- What a rejected description leaves behind. -/
structure Rejection (before after : Negotiation ε) (description : String) (user : UserId)
    (refusal : NegotiationError) : Prop where
  /-- Stage, side, pipeline, local candidates and all else are as they were, but for the attribution
  and the traffic. -/
  same : after = before.recast before.engine after.remoteUser after.remoteStreams after.traffic
  cause : (refusal = .wrongStage before.progress ∧ after = before) ∨
    ∃ fault, refusal = .media fault ∧ after.remoteUser = some user ∧
      ∀ name, after.userForStream? name =
        if name ∈ Description.announced description then some user
        else before.userForStream? name
  /-- Whatever comes later, no more than the video that is reported tells the difference. -/
  later : ∀ operations, (after.outcomes operations).map Outcome.unseen =
    (before.outcomes operations).map Outcome.unseen
  /-- Nothing at all does just if the stage was wrong, or all that the description says of its user
  was known. -/
  unnoticed_iff :
    ((∀ name, after.userForStream? name = before.userForStream? name) ∧
        ∀ operations, after.outcomes operations = before.outcomes operations) ↔
      (∃ stage, refusal = .wrongStage stage) ∨
        (before.remoteUser = some user ∧
          ∀ name ∈ Description.announced description, before.userForStream? name = some user)

/-- With a pipeline, video of an unknown stream is put down to the user on the other side. -/
theorem outcomes_video (up : before.hasPipeline = true) :
    before.outcomes [.handle (.remoteStream none .video)] =
      [.telling (before.remoteUser.toList.map .remoteVideo)] := by
  cases known : before.remoteUser <;>
    simp [outcomes, perform, handle, handleRunning, up, streamUser?, known]

/-- A description that the engine does not take is rejected. -/
theorem rejection_of_unheeded {fault : Engine.Fault} (up : before.hasPipeline = true)
    (unheeded : Unheeded before after description user) :
    Rejection before after description user (.media fault) := by
  have alike {near : Attribution → Attribution → Prop}
      (close : near before.attribution after.attribution) : Alike near before after := by
    rw [unheeded.same]
    exact .recast _ _ _ close
  have unrelated : Alike (fun _ _ => True) before after := alike trivial
  refine ⟨unheeded.same, .inr ⟨fault, rfl, unheeded.known, unheeded.owners⟩,
    unrelated.outcomes_unseen teachable_true, ?_⟩
  constructor
  · rintro ⟨owners, outcomes⟩
    refine .inr ⟨?_, fun name announced => ?_⟩
    · have heard := outcomes [.handle (.remoteStream none .video)]
      have upToo : after.hasPipeline = true := by
        rw [unheeded.same]
        exact up
      rw [outcomes_video up, outcomes_video upToo, unheeded.known] at heard
      cases known : before.remoteUser with
      | none => simp [known, Outcome.telling] at heard
      | some other => simpa [known, Outcome.telling, eq_comm] using heard
    · rw [← owners name, unheeded.owners name, if_pos announced]
  · rintro (⟨stage, wrong⟩ | ⟨known, told⟩)
    · cases wrong
    · have owners (name : String) : after.userForStream? name = before.userForStream? name := by
        rw [unheeded.owners name]
        split
        · exact (told name ‹_›).symm
        · rfl
      have close : SameOwners before.attribution after.attribution :=
        ⟨unheeded.known.trans known.symm, owners⟩
      exact ⟨owners, (alike close).outcomes teachable_sameOwners SameOwners.streamUser?_eq⟩

theorem rejection_refl {stage : Progress} (wrong : stage = before.progress) :
    Rejection before before description user (.wrongStage stage) :=
  ⟨rfl, .inl ⟨by rw [wrong], rfl⟩, fun _ => rfl,
    ⟨fun _ => .inl ⟨stage, rfl⟩, fun _ => ⟨fun _ => rfl, fun _ => rfl⟩⟩⟩

/-- Whenever an answer or a description of a renegotiation is rejected, and the engine is as before,
all that is left behind is to whom video is put down. -/
theorem rejection_perform (id : SessionId) (engine : ε) (earlier : List Operation)
    (operation : Operation) (refusal : NegotiationError)
    (hands : operation.remote? = some (description, user))
    (refused : (((fresh id engine).after earlier).perform operation).2.refusal = some refusal)
    (still : (((fresh id engine).after earlier).perform operation).1.engine =
      ((fresh id engine).after earlier).engine) :
    Rejection ((fresh id engine).after earlier)
      (((fresh id engine).after earlier).perform operation).1 description user refusal := by
  have upright := (upright_fresh id engine).after earlier
  have cause := refused_perform upright hands refused
  generalize ((fresh id engine).after earlier).perform operation = reply at cause still ⊢
  cases cause with
  | wrongStage same =>
      rw [same]
      exact rejection_refl rfl
  | media fault kind up same =>
      rw [same] at still ⊢
      exact rejection_of_unheeded up (unheeded_applyRemote kind still)

/-- An engine that takes no description of the other side. -/
def picky : Engine.Rehearsal :=
  { player := .silent {}, refusals := { applyRemote := some (.invalidDescription "no") } }

/-- A call is started, and the engine has its offer and all of its candidates. -/
def untilOffered : List Operation :=
  [.start {}, .handle (.localDescription "v=0" .offer), .handle .gatheringComplete]

/-- An answer with a stream, which the engine refuses. -/
def bobsAnswer : Operation :=
  .acceptAnswer "m=video 9 RTP/SAVPF 96\na=msid:stream track\n" [] ⟨"@bob:example.org"⟩

theorem rejection_perform_bobsAnswer :
    Rejection ((fresh 0 picky).after untilOffered)
      (((fresh 0 picky).after untilOffered).perform bobsAnswer).1
      "m=video 9 RTP/SAVPF 96\na=msid:stream track\n" ⟨"@bob:example.org"⟩
      (.media (.invalidDescription "no")) :=
  rejection_perform 0 picky untilOffered bobsAnswer (.media (.invalidDescription "no")) rfl rfl rfl

/-- A rejected answer can put video down to the user who sent it. -/
theorem exists_rejection_noticed :
    ∃ (earlier : List Operation) (operation : Operation) (later : List Operation) (name : String),
      (((fresh 0 picky).after earlier).perform operation).2.refusal =
        some (.media (.invalidDescription "no")) ∧
      (((fresh 0 picky).after earlier).perform operation).1.engine =
        ((fresh 0 picky).after earlier).engine ∧
      (((fresh 0 picky).after earlier).perform operation).1.userForStream? name ≠
        ((fresh 0 picky).after earlier).userForStream? name ∧
      (((fresh 0 picky).after earlier).perform operation).1.notices later ≠
        ((fresh 0 picky).after earlier).notices later :=
  ⟨untilOffered, bobsAnswer, [.handle (.remoteStream none .video)], "stream",
    by decide, by decide, by decide, by decide⟩

end Negotiation

end RoomCall
