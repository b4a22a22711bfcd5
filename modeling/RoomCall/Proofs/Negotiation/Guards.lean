import RoomCall.Proofs.Negotiation.Operations

/-!
# No move is refused

`moveTo` refuses a move that the order of the stages does not allow, and the negotiation then goes
on as if nothing had been asked. No operation ever runs into that: each checks the stage by itself
before it moves.

To see this, put another way to move in the place of `moveTo`. It agrees with `moveTo` on the moves
that are allowed and may do anything where `moveTo` refuses, and yet no operation can tell it from
`moveTo`.
-/

namespace RoomCall.Negotiation

/-- A mover that does as `moveTo` wherever that is allowed. -/
def Mover.Agrees {ε : Type} (move : Mover ε) : Prop :=
  ∀ negotiation stage, negotiation.progress.canBecome stage = true →
    move negotiation stage = negotiation.moveTo stage

variable {ε : Type} [MediaEngine ε]

variable {move : Mover ε} {negotiation : Negotiation ε}

/-- A disconnected negotiation builds its pipeline the same way by every mover that agrees. -/
theorem build_of_agrees (agrees : move.Agrees) (idle : negotiation.progress = .disconnected)
    (pipeline : Engine.Pipeline) :
    negotiation.build pipeline move = negotiation.build pipeline := by
  have initiating : move negotiation .initiating = negotiation.moveTo .initiating :=
    agrees negotiation .initiating (by rw [idle]; rfl)
  -- What the engine says at once does not change the stage.
  have down (asked : Negotiation ε) (stage : asked.progress = .initiating) :
      move asked .disconnected = asked.moveTo .disconnected :=
    agrees asked .disconnected (by rw [stage]; rfl)
  have up (asked : Negotiation ε) (stage : asked.progress = .initiating) :
      move asked .initiated = asked.moveTo .initiated :=
    agrees asked .initiated (by rw [stage]; rfl)
  have stage : (({ negotiation with progress := .initiating } : Negotiation ε).ask
      (.build pipeline)).1.progress = .initiating := rfl
  unfold build
  rw [initiating, moveTo_of_canBecome (by rw [idle]; rfl)]
  dsimp only
  generalize ({ negotiation with progress := .initiating } : Negotiation ε).ask (.build pipeline) =
    reply at stage ⊢
  rcases reply with ⟨asked, _ | fault⟩
  · dsimp only
    rw [up { asked with hasPipeline := true } stage]
  · dsimp only
    rw [down asked stage]

theorem start_of_agrees (agrees : move.Agrees) (pipeline : Engine.Pipeline) :
    negotiation.start pipeline move = negotiation.start pipeline := by
  unfold start
  split
  · rfl
  · rename_i idle
    have built := @build_of_agrees ε _ move { negotiation with role := some .offering } agrees
      (Decidable.not_not.mp idle) pipeline
    generalize { negotiation with role := some .offering }.build pipeline move = reply at built ⊢
    subst built
    rfl

theorem acceptOffer_of_agrees (agrees : move.Agrees) (pipeline : Engine.Pipeline) (offer : String)
    (candidates : List Candidate) (user : UserId) :
    negotiation.acceptOffer pipeline offer candidates user move =
      negotiation.acceptOffer pipeline offer candidates user := by
  unfold acceptOffer
  split
  · rfl
  · rename_i idle
    have built := @build_of_agrees ε _ move { negotiation with role := some .answering } agrees
      (Decidable.not_not.mp idle) pipeline
    generalize { negotiation with role := some .answering }.build pipeline move = reply at built ⊢
    subst built
    rfl

/-- A negotiation can be taken down from every other stage. -/
theorem canBecome_disconnected_of_ne {stage : Progress} (busy : stage ≠ .disconnected) :
    stage.canBecome .disconnected = true := by
  cases stage <;> simp_all [Progress.canBecome]

theorem finish_of_agrees (agrees : move.Agrees) : negotiation.finish move = negotiation.finish := by
  have leaves (ended : Negotiation ε) :
      (if ended.progress ≠ .disconnected then move ended .disconnected else (ended, [])) =
        if ended.progress ≠ .disconnected then ended.moveTo .disconnected else (ended, []) := by
    split
    · rename_i busy
      exact agrees ended .disconnected (canBecome_disconnected_of_ne busy)
    · rfl
  exact leaves _

omit [MediaEngine ε] in
theorem beginConnecting_of_agrees (agrees : move.Agrees) :
    negotiation.beginConnecting move = negotiation.beginConnecting := by
  unfold beginConnecting
  split
  · rename_i awaiting
    refine agrees negotiation .connecting ?_
    rcases (by simpa [isAwaitingIce] using awaiting :
        negotiation.progress = .offerSent ∨ negotiation.progress = .answerSent) with sent | sent <;>
      rw [sent] <;> rfl
  · rfl

omit [MediaEngine ε] in
theorem followIce_of_agrees (agrees : move.Agrees) :
    negotiation.followIce move = negotiation.followIce := by
  have begins : negotiation.beginConnecting move = negotiation.beginConnecting :=
    beginConnecting_of_agrees agrees
  have connects (begun : Negotiation ε) (stage : begun.progress = .connecting) :
      move begun .connected = begun.moveTo .connected :=
    agrees begun .connected (by rw [stage]; rfl)
  have fails (stage : negotiation.progress ≠ .iceFailed) :
      move negotiation .iceFailed = negotiation.moveTo .iceFailed := by
    refine agrees negotiation .iceFailed ?_
    cases progress : negotiation.progress <;> simp_all [Progress.canBecome]
  unfold followIce
  rw [begins]
  cases negotiation.ice with
  | new | disconnected | closed => rfl
  | checking => rfl
  | connected | completed =>
      dsimp only
      split
      · rename_i stage
        rw [connects _ stage]
      · rfl
  | failed =>
      dsimp only
      split
      · rename_i stage
        rw [fails stage]
      · rfl

omit [MediaEngine ε] in
theorem report_of_agrees (agrees : move.Agrees) : negotiation.report move = negotiation.report := by
  unfold report
  split
  · rfl
  · rename_i ready
    have initiated : negotiation.progress = .initiated := by
      simp only [Bool.or_eq_true, decide_eq_true_eq, not_or] at ready
      exact Decidable.not_not.mp ready.2
    have sends (side : Role) :
        move { negotiation with described := true } side.sent =
          ({ negotiation with described := true } : Negotiation ε).moveTo side.sent :=
      agrees _ side.sent (by cases side <;> simp [initiated, Role.sent, Progress.canBecome])
    have offers := sends .offering
    have answers := sends .answering
    simp only [Role.sent] at offers answers
    dsimp only
    generalize move { negotiation with described := true } .offerSent = offered at offers ⊢
    generalize move { negotiation with described := true } .answerSent = answered at answers ⊢
    subst offers answers
    rfl

omit [MediaEngine ε] in
theorem reportAndFollow_of_agrees (agrees : move.Agrees) :
    negotiation.reportAndFollow move = negotiation.reportAndFollow := by
  simp only [reportAndFollow, report_of_agrees agrees, followIce_of_agrees agrees]

/-- A callback is handled the same way by every mover that agrees. -/
theorem handle_of_agrees (agrees : move.Agrees) (callback : Engine.Callback) :
    negotiation.handle callback move = negotiation.handle callback := by
  unfold handle
  split
  · cases callback with
    | localDescription =>
        simp only [handleRunning, reportAndFollow_of_agrees agrees]
    | gatheringComplete => exact reportAndFollow_of_agrees agrees
    | iceChanged => exact followIce_of_agrees agrees
    | _ => rfl
  · rfl

/-- The refusal of `moveTo` is never met: whatever stood in its place, every operation would do the
same. -/
theorem perform_of_agrees (agrees : move.Agrees) (operation : Operation) :
    negotiation.perform operation move = negotiation.perform operation := by
  cases operation with
  | start pipeline => simp only [perform, start_of_agrees agrees]
  | acceptOffer pipeline offer candidates user =>
      simp only [perform, acceptOffer_of_agrees agrees]
  | finish => simp only [perform, finish_of_agrees agrees]
  | handle callback => simp only [perform, handle_of_agrees agrees]
  | _ => rfl

end RoomCall.Negotiation
