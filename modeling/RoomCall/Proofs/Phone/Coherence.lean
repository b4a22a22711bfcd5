import RoomCall.Proofs.Phone.Handling

/-!
# The fields of a phone always agree

Every move leads from a coherent phone to a coherent phone, so a phone that was new once is coherent
for good, whatever happens to it and whatever its engines say.
-/

namespace RoomCall

variable {ε : Type}

namespace Negotiation.Runs

variable {negotiation : Negotiation ε}

/-- A negotiation is under way on one side only. -/
theorem side_unique {side other : Role} (runs : negotiation.Runs side)
    (otherRuns : negotiation.Runs other) : side = other :=
  Option.some.inj (runs.role.symm.trans otherRuns.role)

theorem silent_of_initiated {side : Role} (runs : negotiation.Runs side)
    (initiated : negotiation.progress = .initiated) : negotiation.described = false := by
  rw [← runs.isNegotiated_eq, initiated]
  rfl

end Negotiation.Runs

/-- Between two operations a negotiation that has not reported its description stays in the same
situation as its call, and so does one that has. -/
theorem Call.Stands.keeping {refreshing : Bool} {phase : Phase} {call : Call ε}
    {negotiation asked : Negotiation ε} {side : Role} (stands : call.Stands refreshing phase)
    (opened : call.negotiation = some negotiation) (before : negotiation.Runs side)
    (runs : asked.Runs side) (same : asked.described = negotiation.described) :
    (call.keeping asked).Stands refreshing phase := by
  have kept {other : Role} (otherRuns : negotiation.Runs other) :
      Negotiation.Runs other { asked with traffic := [] } := by
    rw [← before.side_unique otherRuns]
    exact runs.congr rfl rfl rfl rfl
  cases stands with
  | ringing unopened | awaitingAnswer unopened | awaitingOffer unopened =>
      simp [unopened] at opened
  | answering there runs' initiated accepted undeferred noDescription noCandidates =>
      rw [there, Option.some.injEq] at opened
      subst opened
      have silent := same.trans (runs'.silent_of_initiated initiated)
      exact .answering rfl (kept runs') (runs.progress_initiated silent) accepted undeferred
        noDescription noCandidates
  | offering there runs' unaccepted undeferred =>
      rw [there, Option.some.injEq] at opened
      subst opened
      exact .offering rfl (kept runs') unaccepted undeferred
  | established there runs' negotiated undeferred noDescription noCandidates =>
      rw [there, Option.some.injEq] at opened
      subst opened
      refine .established rfl (kept runs') ?_ undeferred noDescription noCandidates
      change asked.progress.isNegotiated = true
      rw [runs.isNegotiated_eq, same, ← runs'.isNegotiated_eq, negotiated]

namespace Phone

variable {phone : Phone ε} {call : Call ε}

/-- A user never calls oneself. -/
theorem callee_ne_localUser {membership : Membership} {callee : UserId}
    (known : callee? membership = some callee) : callee ≠ membership.localUser := by
  unfold callee? at known
  split at known
  · have found := List.find?_some known
    simpa using found
  · simp at known

theorem Coherent.of_call (call : Call ε) (current : phone.call = some call)
    (stands : call.Stands phone.refreshing phone.phase)
    (apart : call.remoteUser ≠ call.localUser)
    (collected : ∀ negotiation, call.negotiation = some negotiation → negotiation.traffic = [])
    (nodup : phone.roster.users.Nodup)
    (listed : ∀ negotiation, call.negotiation = some negotiation → negotiation.described = true →
      ∀ member ∈ call.members, member ∈ phone.roster.users) : phone.Coherent where
  idle none := by simp [current] at none
  stands other := by
    rw [current, Option.some.injEq] at other
    exact other ▸ stands
  apart other := by
    rw [current, Option.some.injEq] at other
    exact other ▸ apart
  collected other opened := by
    rw [current, Option.some.injEq] at other
    subst other
    exact collected _ opened
  nodup := nodup
  listed other opened described := by
    rw [current, Option.some.injEq] at other
    subst other
    exact listed _ opened described

/-- Coherence does not depend on the log. -/
theorem Coherent.withLog (coherent : phone.Coherent) (log : List LogEntry) :
    ({ phone with log := log } : Phone ε).Coherent :=
  ⟨coherent.idle, coherent.stands, coherent.apart, coherent.collected, coherent.nodup,
    coherent.listed⟩

theorem Coherent.noted (coherent : phone.Coherent) (entries : List LogEntry) :
    (phone.noted entries).Coherent :=
  coherent.withLog _

/-- An operation that leaves the negotiation under way leaves the phone coherent. -/
theorem Coherent.keep {negotiation asked : Negotiation ε} {side : Role}
    (coherent : phone.Coherent) (current : phone.call = some call)
    (opened : call.negotiation = some negotiation) (before : negotiation.Runs side)
    (runs : asked.Runs side) (same : asked.described = negotiation.described) :
    (phone.keep call asked).Coherent := by
  have apart := coherent.apart current
  have listed := coherent.listed current opened
  refine .of_call (call.keeping asked) rfl
    ((coherent.stands current).keeping opened before runs same) apart ?_ coherent.nodup ?_
  · rintro other ⟨⟩
    rfl
  · rintro other ⟨⟩ described
    exact listed (same.symm.trans described)

variable [MediaEngine ε]

theorem coherent_ended (ending : Ending) (cause : Option HangupCause) :
    (phone.ended call ending cause).Coherent :=
  .of_idle rfl rfl rfl

/-- What a call has to be like for its negotiation to start on a side. -/
def Fits (phone : Phone ε) (call : Call ε) : Role → Prop
  | .offering => phone.phase = .outgoing ∧ call.accepted = false
  | .answering =>
      phone.phase = .incoming ∧ call.accepted = true ∧ call.heldDescription.isSome = true

omit [MediaEngine ε] in
/-- A call that waits for relay credentials fits the side that it waits for. -/
theorem fits_of_deferred {side : Role} (coherent : phone.Coherent)
    (current : phone.call = some call) (deferred : call.deferred = some side) :
    phone.Fits call side := by
  have stands := coherent.stands current
  unfold Fits
  generalize phone.phase = phase at stands
  cases stands with
  | ringing _ _ undeferred | answering _ _ _ _ undeferred | offering _ _ _ undeferred
    | established _ _ _ undeferred => simp [undeferred] at deferred
  | awaitingAnswer _ accepted waits _ offer =>
      rw [waits, Option.some.injEq] at deferred
      subst deferred
      exact ⟨rfl, accepted, offer⟩
  | awaitingOffer _ unaccepted waits =>
      rw [waits, Option.some.injEq] at deferred
      subst deferred
      exact ⟨rfl, unaccepted⟩

theorem coherent_of_opens {side : Role} {after : Phone ε} (opens : phone.Opens call side after)
    (fits : phone.Fits call side) (apart : call.remoteUser ≠ call.localUser)
    (undeferred : call.deferred = none) (nodup : phone.roster.users.Nodup) : after.Coherent := by
  cases opens with
  | refused => exact coherent_ended _ _
  | @opened negotiation opened id =>
      apply Coherent.noted
      have runs : Negotiation.Runs side { negotiation with traffic := [] } :=
        opened.runs.congr rfl rfl rfl rfl
      have silent (other : Negotiation ε)
          (there : some { negotiation with traffic := [] } = some other)
          (described : other.described = true) : False := by
        rw [Option.some.injEq] at there
        rw [← there] at described
        exact absurd (opened.silent.symm.trans described) (by simp)
      cases side with
      | offering =>
          refine .of_call ((call.handOver .offering).keeping negotiation) rfl ?_ apart ?_
            nodup ?_
          · change Call.Stands phone.refreshing phone.phase _
            rw [fits.1]
            exact .offering rfl runs fits.2 undeferred
          · rintro other ⟨⟩
            rfl
          · exact fun other there described => (silent other there described).elim
      | answering =>
          refine .of_call ((call.handOver .answering).keeping negotiation) rfl ?_ apart ?_
            nodup ?_
          · change Call.Stands phone.refreshing phone.phase _
            rw [fits.1]
            exact .answering rfl runs (runs.progress_initiated opened.silent) fits.2.1 undeferred
              rfl rfl
          · rintro other ⟨⟩
            rfl
          · exact fun other there described => (silent other there described).elim

theorem coherent_of_starts {side : Role} {after : Phone ε} (starts : phone.Starts call side after)
    (fits : phone.Fits call side) (apart : call.remoteUser ≠ call.localUser)
    (undeferred : call.deferred = none) (unopened : call.negotiation = none)
    (nodup : phone.roster.users.Nodup) : after.Coherent := by
  cases starts with
  | opens opens => exact coherent_of_opens opens fits apart undeferred nodup
  | waits =>
      refine .of_call { call with deferred := some side } rfl ?_ apart ?_ nodup ?_
      · cases side with
        | offering =>
            change Call.Stands true phone.phase _
            rw [fits.1]
            exact .awaitingOffer unopened fits.2 rfl rfl
        | answering =>
            change Call.Stands true phone.phase _
            rw [fits.1]
            exact .awaitingAnswer unopened fits.2.1 rfl rfl fits.2.2
      · simp [unopened]
      · simp [unopened]

omit [MediaEngine ε] in
/-- What is held back for an outgoing call may change. -/
theorem Coherent.recall {other : Call ε} (coherent : phone.Coherent)
    (current : phone.call = some call) (outgoing : phone.phase = .outgoing)
    (remoteUser : other.remoteUser = call.remoteUser) (localUser : other.localUser = call.localUser)
    (members : other.members = call.members) (negotiation : other.negotiation = call.negotiation)
    (accepted : other.accepted = call.accepted) (deferred : other.deferred = call.deferred) :
    Coherent { phone with call := some other } := by
  have stands := coherent.stands current
  have apart := coherent.apart current
  have collected := fun found => @Coherent.collected ε phone coherent call found current
  have listed := fun found => @Coherent.listed ε phone coherent call found current
  refine .of_call other rfl ?_ ?_ ?_ coherent.nodup ?_
  · rw [outgoing] at stands
    change other.Stands phone.refreshing phone.phase
    rw [outgoing]
    cases stands with
    | awaitingOffer unopened unaccepted waits requested =>
        exact .awaitingOffer (negotiation.trans unopened) (accepted.trans unaccepted)
          (deferred.trans waits) requested
    | offering opened runs unaccepted undeferred =>
        exact .offering (negotiation.trans opened) runs (accepted.trans unaccepted)
          (deferred.trans undeferred)
  · rwa [remoteUser, localUser]
  · rwa [negotiation]
  · rwa [negotiation, members]

theorem coherent_of_settles {after : Phone ε} (settles : phone.Settles call after)
    (coherent : phone.Coherent) (current : phone.call = some call)
    (outgoing : phone.phase = .outgoing) : after.Coherent := by
  cases settles with
  | waits => exact coherent
  | refused => exact coherent_ended _ _
  | @applied answer negotiation answered opened sent ready =>
      have stands := coherent.stands current
      rw [outgoing] at stands
      cases stands with
      | awaitingOffer unopened => simp [unopened] at opened
      | offering there runs unaccepted undeferred =>
          rcases Option.some.inj (opened.symm.trans there) with rfl
          have applied := (runs.applyRemote answer .answer call.remoteUser).addRemoteCandidates
            (call.heldCandidates.map Prod.snd)
          have described : negotiation.described = true := by
            rw [← runs.isNegotiated_eq, sent]
            rfl
          have same := (negotiation.applyRemote answer .answer
            call.remoteUser).1.described_addRemoteCandidates (call.heldCandidates.map Prod.snd)
          have apart := coherent.apart current
          have listed := coherent.listed current there described
          refine .of_call (call.emptied.keeping _) rfl ?_ apart ?_ coherent.nodup ?_
          · refine .established rfl (applied.congr rfl rfl rfl rfl) ?_ undeferred rfl rfl
            exact applied.isNegotiated_eq.trans (same.trans described)
          · rintro other ⟨⟩
            rfl
          · exact fun _ _ _ => listed

omit [MediaEngine ε] in
/-- The local description goes out in the phase that fits its side. -/
theorem phase_of_silent {negotiation : Negotiation ε} {side : Role} (coherent : phone.Coherent)
    (current : phone.call = some call) (opened : call.negotiation = some negotiation)
    (runs : negotiation.Runs side) (silent : negotiation.described = false) :
    (side = .offering ∧ phone.phase = .outgoing ∧ call.accepted = false ∧ call.deferred = none) ∨
      (side = .answering ∧ phone.phase = .incoming ∧ call.deferred = none ∧
        call.heldDescription = none ∧ call.heldCandidates = []) := by
  have stands := coherent.stands current
  generalize phone.phase = phase at stands
  cases stands with
  | ringing unopened | awaitingAnswer unopened | awaitingOffer unopened =>
      simp [unopened] at opened
  | answering there otherRuns _ accepted undeferred noDescription noCandidates =>
      rw [there, Option.some.injEq] at opened
      subst opened
      exact .inr ⟨runs.side_unique otherRuns, rfl, undeferred, noDescription, noCandidates⟩
  | offering there otherRuns unaccepted undeferred =>
      rw [there, Option.some.injEq] at opened
      subst opened
      exact .inl ⟨runs.side_unique otherRuns, rfl, unaccepted, undeferred⟩
  | established there otherRuns negotiated =>
      rw [there, Option.some.injEq] at opened
      subst opened
      rw [otherRuns.isNegotiated_eq, silent] at negotiated
      simp at negotiated

theorem coherent_of_reacts {before handled : Negotiation ε} {side : Role} {after : Phone ε}
    (reacts : phone.Reacts call side before handled after) (coherent : phone.Coherent)
    (current : phone.call = some call) (opened : call.negotiation = some before)
    (started : before.Runs side) : after.Coherent := by
  cases reacts with
  | broken | lost | reportedLost => exact coherent_ended _ _
  | moved runs same => exact (coherent.keep current opened started runs same).noted _
  | @renegotiated description kind runs described same still =>
      rw [sendNegotiate_eq]
      have kept := coherent.keep current opened started runs same
      exact ⟨kept.idle, kept.stands, kept.apart, kept.collected, kept.nodup, kept.listed⟩
  | @watched user runs same still =>
      have kept := coherent.keep current opened started runs same
      have listed := coherent.listed current opened
      rw [setRoster_eq]
      refine .of_call (call.keeping handled) rfl (kept.stands rfl) (kept.apart rfl) ?_ ?_ ?_
      · rintro other ⟨⟩
        rfl
      · dsimp only
        rw [Roster.users_setCamera]
        exact Roster.nodup_add coherent.nodup user
      · rintro other ⟨⟩ described member there
        dsimp only
        rw [Roster.users_setCamera, Roster.mem_add]
        exact .inl (listed (same.symm.trans described) member there)
  | @reported stages description candidates runs silent described walk =>
      apply Coherent.noted
      have apart := coherent.apart current
      have kept : Negotiation.Runs side { handled with traffic := [] } :=
        runs.congr rfl rfl rfl rfl
      refine .of_call (call.keeping handled) rfl ?_ apart ?_
        (Roster.nodup_addAll coherent.nodup _) ?_
      · change Call.Stands phone.refreshing (phaseAfterReport phone.phase side) _
        rcases phase_of_silent coherent current opened started silent with
          ⟨rfl, outgoing, unaccepted, undeferred⟩ |
          ⟨rfl, incoming, undeferred, noDescription, noCandidates⟩
        · rw [outgoing]
          exact .offering rfl kept unaccepted undeferred
        · exact .established rfl kept (runs.isNegotiated_eq.trans described) undeferred
            noDescription noCandidates
      · rintro other ⟨⟩
        rfl
      · rintro other ⟨⟩ _ member there
        exact Roster.mem_addAll.mpr (.inr there)

omit [MediaEngine ε] in
theorem rings_of_unaccepted (coherent : phone.Coherent) (current : phone.call = some call)
    (incoming : phone.phase = .incoming) (unaccepted : call.accepted = false) :
    call.negotiation = none ∧ call.deferred = none := by
  have stands := coherent.stands current
  rw [incoming] at stands
  cases stands with
  | ringing unopened _ undeferred => exact ⟨unopened, undeferred⟩
  | awaitingAnswer _ accepted | answering _ _ _ accepted => simp [unaccepted] at accepted

omit [MediaEngine ε] in
theorem unopened_of_deferred {side : Role} (coherent : phone.Coherent)
    (current : phone.call = some call) (deferred : call.deferred = some side) :
    call.negotiation = none := by
  cases opened : call.negotiation with
  | none => rfl
  | some negotiation =>
      have undeferred := (coherent.stands current).undeferred opened
      simp [undeferred] at deferred

/-- Every move leads from a coherent phone to a coherent phone. -/
theorem coherent_of_move {now : Instant} {occurrence : Occurrence} {after : Phone ε}
    (move : phone.Move now occurrence after) (coherent : phone.Coherent) : after.Coherent := by
  cases move with
  | still => exact coherent
  | plugged =>
      exact ⟨coherent.idle, coherent.stands, coherent.apart, coherent.collected, coherent.nodup,
        coherent.listed⟩
  | refreshed is undeferred =>
      refine ⟨coherent.idle, ?_, coherent.apart, coherent.collected, coherent.nodup,
        coherent.listed⟩
      intro call current
      have none := undeferred call current
      have stands := coherent.stands current
      change call.Stands false phone.phase
      generalize phone.phase = phase at stands
      cases stands with
      | ringing unopened unaccepted undeferred offer =>
          exact .ringing unopened unaccepted undeferred offer
      | awaitingAnswer _ _ deferred | awaitingOffer _ _ deferred => simp [none] at deferred
      | answering opened runs initiated accepted undeferred noDescription noCandidates =>
          exact .answering opened runs initiated accepted undeferred noDescription noCandidates
      | offering opened runs unaccepted undeferred =>
          exact .offering opened runs unaccepted undeferred
      | established opened runs negotiated undeferred noDescription noCandidates =>
          exact .established opened runs negotiated undeferred noDescription noCandidates
  | @resumed outcome call side after is current deferred opens =>
      have apart := coherent.apart current
      refine coherent_of_opens opens ?_ apart rfl coherent.nodup
      have fits := fits_of_deferred coherent current deferred
      cases side <;> exact fits
  | @rang membership signal invite idle heard message other fresh =>
      refine .of_call (phone.ringingCall membership signal.sender invite) rfl ?_ other ?_
        coherent.nodup ?_
      · exact .ringing rfl rfl rfl rfl
      · rintro negotiation ⟨⟩
      · rintro negotiation ⟨⟩
  | @dialed membership callee after is idle known capable starts =>
      refine coherent_of_starts starts ⟨rfl, rfl⟩ ?_ rfl rfl coherent.nodup
      exact callee_ne_localUser known
  | @accepted call after is current incoming unaccepted compatible starts =>
      have offer : call.heldDescription.isSome = true := by
        cases held : call.heldDescription with
        | none => simp [held] at compatible
        | some offer => rfl
      have apart := coherent.apart current
      rcases rings_of_unaccepted coherent current incoming unaccepted with ⟨unopened, undeferred⟩
      exact coherent_of_starts starts ⟨incoming, rfl, offer⟩ apart undeferred unopened
        coherent.nodup
  | ended current ends => exact coherent_ended _ _
  | @held call batch current heard admits incoming unopened =>
      have stands := coherent.stands current
      have apart := coherent.apart current
      refine .of_call (call.holding batch) rfl ?_ apart ?_ coherent.nodup ?_
      · change Call.Stands phone.refreshing phone.phase _
        rw [incoming] at stands ⊢
        cases stands with
        | ringing _ unaccepted undeferred offer =>
            exact .ringing unopened unaccepted undeferred offer
        | awaitingAnswer _ accepted deferred requested offer =>
            exact .awaitingAnswer unopened accepted deferred requested offer
        | answering opened => simp [unopened] at opened
      · simp [Call.holding, unopened]
      · simp [Call.holding, unopened]
  | @gathered call batch after current heard admits outgoing settles =>
      exact coherent_of_settles settles
        (coherent.recall current outgoing rfl rfl rfl rfl rfl rfl) rfl outgoing
  | @answered call answer after current heard admits outgoing unanswered settles =>
      refine coherent_of_settles settles ?_ rfl outgoing
      unfold Call.answeredBy
      cases answer.party <;> exact coherent.recall current outgoing rfl rfl rfl rfl rfl rfl
  | @handed call negotiation batch current opened heard admits live =>
      rcases (coherent.stands current).runs opened with ⟨side, runs⟩
      exact coherent.keep current opened runs (runs.addRemoteCandidates _)
        (Negotiation.described_addRemoteCandidates _)
  | @renegotiated call negotiation content current opened heard admits active =>
      rcases (coherent.stands current).runs opened with ⟨side, runs⟩
      exact coherent.keep current opened runs (runs.renegotiate _ _ _)
        (Negotiation.described_renegotiate _ _ _)
  | @muted call negotiation muted is current opened =>
      rcases (coherent.stands current).runs opened with ⟨side, runs⟩
      exact (coherent.keep current opened runs (runs.setMuted muted)
        (Negotiation.described_setMuted muted)).noted _
  | @toggled call negotiation is current opened =>
      rcases (coherent.stands current).runs opened with ⟨side, runs⟩
      exact coherent.keep current opened runs runs.toggleCamera Negotiation.described_toggleCamera
  | reacted is current opened runs reacts =>
      exact coherent_of_reacts reacts coherent current opened runs

end Phone

end RoomCall
