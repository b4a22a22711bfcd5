import RoomCall.Proofs.Host.Hearing
import RoomCall.Proofs.Host.Shutdown

/-!
# Waiting for the end of a lifetime

While a call lingers the timer of the host runs for it or has just run out, so time does not pass
beyond the deadline; and whatever the host hands to its phone in the meantime either leaves the call
lingering or settles it for good. So in every run a call that lingers goes on doing so, or is
settled before the host hears that its lifetime is over, or ends when it hears so.
-/

namespace RoomCall

variable {ε : Type}

/-- What a side says when the lifetime of an invite is over: a caller tells the other side. -/
def Call.lastWords (call : Call ε) (style : SignalStyle) : Role → List Parcel
  | .offering => [⟨call.room, style.hangup call.id call.party (some .inviteTimeout)⟩]
  | .answering => []

namespace Host

/-- Whether a host hears in its next turn that the lifetime of a call's invite is over. -/
def hearsExpiry (host : Host ε) (call : CallId) : Bool :=
  match host.next? with
  | some (.inviteExpired expired) => expired = call
  | _ => false

/-- What a host waits for while a call lingers: the timer that runs for the call, or, once that has
run out, the turn in which it hears so. -/
inductive Expects (host : Host ε) (call : CallId) (deadline : Moment) : Prop where
  | timed (timer : host.timer = some ⟨deadline, call⟩) (early : host.clock ≤ deadline)
      (unheard : ∀ other, .expired other ∉ host.findings)
  | elapsed {earlier later : List Finding} (timer : host.timer = none) (due : host.clock = deadline)
      (findings : host.findings = earlier ++ .expired call :: later)
      (single : ∀ other, .expired other ∉ earlier ++ later)

variable [MediaEngine ε]

/-- The part of a run before the host hears that the lifetime of a call's invite is over. -/
def ahead (host : Host ε) (call : CallId) : List Move → List Move
  | [] => []
  | .turn now :: later =>
      if host.hearsExpiry call then [] else .turn now :: (host.turn now).ahead call later
  | move :: later => move :: (host.move move).ahead call later

/-- What a host hands to its phone in a run, in order and with the moments. -/
def handed (host : Host ε) : List Move → List (Moment × Occurrence)
  | [] => []
  | .turn now :: later =>
      (host.next?.toList.map fun occurrence => (host.clock, occurrence)) ++
        (host.turn now).handed later
  | move :: later => (host.move move).handed later

/-- Something holds of every host on the way of some moves, from the first to the last. -/
def Throughout (host : Host ε) (moves : List Move) (P : Host ε → Prop) : Prop :=
  ∀ earlier between, earlier <+: moves → host.run? earlier = some between → P between

/-- A host whose phone has a call that has lingered since an earlier state. -/
structure Lasts (first : Host ε) (side : Role) (call : Call ε) (deadline : Moment)
    (host : Host ε) : Prop where
  working : host.closing = false
  follows : ∃ chronicle, host.Follows first.phone.settings chronicle
  lingers : host.phone.Lingers side call
  expects : host.Expects call.id deadline
  uneventful : ∃ log, host.log = first.log ++ log ∧ Uneventful side log

/-- A turn that settles the call that lingers, and not because its lifetime is over. -/
structure Leaves (host : Host ε) (call : Call ε) (now : Instant) : Prop where
  heard : ∃ occurrence, host.next? = some occurrence ∧ occurrence ≠ .inviteExpired call.id
  settled : (host.turn now).phone.IsSettled
  wrote : ∃ log, (host.turn now).log = host.log ++ log ∧
    (∀ entry ∈ log, entry.2.opensCall = false) ∧
    ∀ ended ∈ endings log, ended.2.2 ≠ .inviteExpired

variable {first host last : Host ε} {side : Role} {call : Call ε} {deadline : Moment}

omit [MediaEngine ε] in
/-- The deadline of a call that is waited for is not past. -/
theorem Expects.early {id : CallId} (expects : host.Expects id deadline) :
    host.clock ≤ deadline := by
  cases expects with
  | timed _ early => exact early
  | elapsed _ due => exact Nat.le_of_eq due

omit [MediaEngine ε] in
/-- When the timer has run out, the host is about to hear so. -/
theorem Expects.expire {id : CallId} (expects : host.Expects id deadline) :
    host.expire.Expects id deadline := by
  unfold Host.expire
  cases expects with
  | timed timer early unheard =>
      split
      · rename_i ran due
        simp only [dueTimer?, timer, Option.filter_some, Option.ite_none_right_eq_some,
          decide_eq_true_eq, Option.some.injEq] at due
        obtain ⟨elapsed, rfl⟩ := due
        exact .elapsed rfl (Nat.le_antisymm early elapsed) rfl (by simpa using unheard)
      · exact .timed timer early unheard
  | elapsed timer due findings single =>
      rw [dueTimer?, timer]
      exact .elapsed timer due findings single

omit [MediaEngine ε] in
/-- Time passes up to the deadline and not beyond it. -/
theorem Expects.wait {id : CallId} (expects : host.Expects id deadline)
    (working : host.closing = false) {span : Nat} (allowed : host.allows (.wait span) = true) :
    ({ host with clock := host.clock + span } : Host ε).Expects id deadline := by
  simp only [allows, Bool.and_eq_true] at allowed
  cases expects with
  | timed timer early unheard =>
      have wakes : host.clock + span ≤ deadline := by
        have awake := allowed.2
        simp only [wake?, timer, Option.map_some] at awake
        cases pause : host.pauseEnd? with
        | none => simpa [pause] using awake
        | some pauseEnd =>
            simp only [pause, Option.all_some, decide_eq_true_eq] at awake
            exact Nat.le_trans awake (Nat.min_le_left _ _)
      exact .timed timer wakes unheard
  | elapsed _ _ findings => simp [isIdle, isAtRest, working, findings] at allowed

omit [MediaEngine ε] in
theorem Expects.relayAnswer {id : CallId} (expects : host.Expects id deadline)
    (outcome : Except String Relay.Grant) : (host.takeRelayAnswer outcome).Expects id deadline := by
  cases expects with
  | timed timer early unheard =>
      refine .timed timer early fun other there => ?_
      rcases List.mem_append.mp there with waited | new
      · exact unheard other waited
      · simp at new
  | @elapsed earlier later timer due findings single =>
      refine @Expects.elapsed _ _ _ _ earlier (later ++ [.relay outcome]) timer due ?_ ?_
      · simp [takeRelayAnswer, findings]
      · simpa using single

omit [MediaEngine ε] in
theorem Expects.attempt {id : CallId} (expects : host.Expects id deadline) (delivered : Bool) :
    (host.attempt delivered).Expects id deadline := by
  unfold Host.attempt
  split
  · cases expects with
    | timed timer early unheard => exact .timed timer early unheard
    | elapsed timer due findings single => exact .elapsed timer due findings single
  · exact expects

/-- Nothing but turns can settle a call that lingers. -/
theorem lasts_move (lasts : first.Lasts side call deadline host) {move : Move}
    (allowed : host.allows move = true) (other : ∀ now, move ≠ .turn now) :
    first.Lasts side call deadline (host.move move) := by
  obtain ⟨chronicle, follows⟩ := lasts.follows
  have followed := follows_move follows move
  cases move with
  | turn now => exact absurd rfl (other now)
  | command | arrival | plug =>
      refine ⟨lasts.working, followed, lasts.lingers, ?_, lasts.uneventful⟩
      cases lasts.expects with
      | timed timer early unheard => exact .timed timer early unheard
      | elapsed timer due findings single => exact .elapsed timer due findings single
  | relayAnswer outcome =>
      exact ⟨lasts.working, followed, lasts.lingers, lasts.expects.relayAnswer outcome,
        lasts.uneventful⟩
  | wait span =>
      exact ⟨lasts.working, followed, lasts.lingers, lasts.expects.wait lasts.working allowed,
        lasts.uneventful⟩
  | expiry =>
      have expects := lasts.expects.expire
      rw [Host.move, expire] at followed ⊢
      rw [expire] at expects
      cases ran : host.dueTimer? with
      | none => exact lasts
      | some timer =>
          rw [ran] at followed expects
          exact ⟨lasts.working, followed, lasts.lingers, expects, lasts.uneventful⟩
  | attempt delivered =>
      have expects := lasts.expects.attempt delivered
      obtain ⟨log, wrote, uneventful⟩ := lasts.uneventful
      rw [Host.move, Host.attempt] at followed ⊢
      rw [Host.attempt] at expects
      cases due : host.outbox.due? host.clock with
      | none => exact lasts
      | some parcel =>
          rw [due] at followed expects
          refine ⟨lasts.working, followed, lasts.lingers, expects,
            log ++ [(host.clock, .tried parcel delivered)], ?_, ?_⟩
          · simp [record, wrote]
          · exact uneventful.append (uneventful_own side (by simp [HostEntry.isOwn]))

omit [MediaEngine ε] in
/-- The news that a lifetime is over is not lost while other things are handed on. -/
theorem Draws.keeps {findings left : List Finding} {occurrence : Occurrence}
    (draws : Draws findings occurrence left) {id : CallId} {earlier later : List Finding}
    (waits : findings = earlier ++ .expired id :: later) (other : occurrence ≠ .inviteExpired id) :
    ∃ rest, left = rest ++ .expired id :: later ∧ ∀ finding ∈ rest, finding ∈ earlier := by
  cases draws with
  | callback => exact ⟨earlier, waits, fun _ there => there⟩
  | other none => simp [none] at waits
  | finding first =>
      rw [first] at waits
      cases earlier with
      | nil =>
          obtain ⟨rfl, -⟩ := List.cons.inj waits
          exact absurd rfl other
      | cons finding rest =>
          obtain ⟨-, left⟩ := List.cons.inj waits
          exact ⟨rest, left, fun _ there => List.mem_cons_of_mem finding there⟩

/-- A turn that leaves the timer alone, and in which the host does not hear that it ran out, goes on
to wait. -/
theorem Expects.turned {id : CallId} (expects : host.Expects id deadline) {now : Instant}
    {occurrence : Occurrence} {after : Host ε} (turned : host.Turned now occurrence after)
    (timer : after.timer = host.timer) (other : occurrence ≠ .inviteExpired id) :
    after.Expects id deadline := by
  have draws := turned.findings
  cases expects with
  | timed armed early unheard =>
      exact .timed (timer.trans armed) (turned.clock ▸ early)
        fun other there => unheard other (draws.subset _ there)
  | @elapsed earlier later unarmed due findings single =>
      obtain ⟨rest, left, among⟩ := draws.keeps findings other
      refine .elapsed (timer.trans unarmed) (turned.clock.trans due) left fun another there => ?_
      rw [List.mem_append] at there
      exact single another (List.mem_append.mpr (there.imp_left (among _)))

/-- A host that closes has no call any more. -/
theorem uncalled_of_closing (working : host.closing = false) (coherent : host.phone.Coherent)
    {now : Instant} (closing : (host.turn now).closing = true) :
    (host.turn now).phone.call = none := by
  obtain ⟨-, callbacks, findings, commands, arrivals, closes⟩ := closes_of_turn working closing
  rw [closes]
  exact (@closed_close _ _ (host.facing callbacks findings commands arrivals) coherent now).uncalled

/-- In a turn that does not bring the news of its end, a call goes on lingering or is settled. -/
theorem lasts_turn (lasts : first.Lasts side call deadline host)
    (other : host.hearsExpiry call.id = false) (now : Instant) :
    first.Lasts side call deadline (host.turn now) ∨ host.Leaves call now := by
  cases next : host.next? with
  | none =>
      rw [turn_of_rest next]
      exact .inl lasts
  | some occurrence =>
      have turned := turned_of_next next now
      have early : occurrence ≠ .inviteExpired call.id := by
        rintro rfl
        simp [hearsExpiry, next] at other
      obtain ⟨chronicle, follows⟩ := lasts.follows
      obtain ⟨replies, own, wrote⟩ := turned.log
      have step := Phone.step_of_lingers follows.lived lasts.lingers now occurrence
      have unexpired := @Phone.expired_of_step _ _ _ _ follows.lived now occurrence
      rw [written_after follows.quiet] at step unexpired
      rcases step with ⟨lingers, uneventful⟩ | ⟨settled, unopened⟩
      · left
        obtain ⟨log, logged, quiet⟩ := lasts.uneventful
        rcases turned.timer with ⟨working, timer⟩ | ⟨-, closing, -⟩
        · rw [Timer.foldl_wind_unwound uneventful.unwound] at timer
          refine ⟨working, ⟨_, follows.turned turned⟩, ?_, lasts.expects.turned turned timer early,
            log ++ (stamped host.clock (host.phone.after now occurrence).log ++ replies), ?_, ?_⟩
          · rw [turned.phone]
            exact lingers
          · rw [wrote, logged, List.append_assoc]
          · exact quiet.append ((uneventful_stamped host.clock uneventful).append
              (uneventful_own side own))
        · have gone := uncalled_of_closing lasts.working
            (Phone.coherent_of_lived follows.lived) closing
          rw [turned.phone] at gone
          obtain ⟨current, there, -⟩ := lingers
          exact absurd (there.symm.trans gone) (Option.some_ne_none _)
      · right
        refine ⟨⟨occurrence, next, early⟩, ?_, _, wrote, ?_, ?_⟩
        · rw [turned.phone]
          exact settled
        · intro entry there
          exact (List.mem_append.mp there).elim (unopened_stamped host.clock unopened entry)
            (unopened_own own entry)
        · intro ended there expired
          rw [endings_append, endings_own own, List.append_nil, endings_stamped, List.mem_map]
            at there
          rcases there with ⟨⟨id, ending⟩, among, rfl⟩
          obtain rfl : ending = .inviteExpired := expired
          obtain ⟨is, -, current, there, named⟩ := unexpired among
          obtain ⟨other, same, identity, -⟩ := lasts.lingers
          obtain rfl := Option.some.inj (there.symm.trans same)
          exact early (is.trans (congrArg _ (named.symm.trans (congrArg CallIdentity.id identity))))

/-! ## What becomes of a call that lingers -/

/-- What becomes of a call that lingers in a run: it goes on lingering all the time, it lingers
until its lifetime is over, or it is settled before. -/
inductive Fate (first : Host ε) (side : Role) (call : Call ε) (deadline : Moment) (host : Host ε)
    (moves : List Move) (last : Host ε) : Prop where
  | lasts (whole : host.ahead call.id moves = moves) (lasts : first.Lasts side call deadline last)
      (throughout : host.Throughout moves (first.Lasts side call deadline))
  | expires {now : Instant} {later : List Move} {between : Host ε}
      (split : moves = host.ahead call.id moves ++ .turn now :: later)
      (reached : host.run? (host.ahead call.id moves) = some between)
      (lasts : first.Lasts side call deadline between)
      (elapsed : between.hearsExpiry call.id = true)
      (rest : (between.turn now).run? later = some last)
      (throughout : host.Throughout (host.ahead call.id moves) (first.Lasts side call deadline))
  | leaves {now : Instant} {earlier later : List Move} {between : Host ε}
      (split : moves = earlier ++ .turn now :: later)
      (before : earlier ++ [.turn now] <+: host.ahead call.id moves)
      (reached : host.run? earlier = some between) (lasts : first.Lasts side call deadline between)
      (leaves : between.Leaves call now) (rest : (between.turn now).run? later = some last)

theorem throughout_cons {P : Host ε → Prop} {move : Move} {moves : List Move} (holds : P host)
    (later : (host.move move).Throughout moves P) : host.Throughout (move :: moves) P := by
  intro earlier between before reached
  cases earlier with
  | nil =>
      obtain rfl := Option.some.inj reached
      exact holds
  | cons other rest =>
      obtain ⟨rfl, shorter⟩ := List.cons_prefix_cons.mp before
      rw [run?] at reached
      split at reached
      · exact later rest between shorter reached
      · cases reached

/-- A move that leaves a call lingering does not change its fate. -/
theorem Fate.cons {move : Move} {moves : List Move}
    (fate : first.Fate side call deadline (host.move move) moves last)
    (lasts : first.Lasts side call deadline host) (allowed : host.allows move = true)
    (ahead : host.ahead call.id (move :: moves) = move :: (host.move move).ahead call.id moves) :
    first.Fate side call deadline host (move :: moves) last := by
  cases fate with
  | lasts whole still throughout =>
      exact .lasts (by rw [ahead, whole]) still (throughout_cons lasts throughout)
  | @expires now later between split reached still elapsed rest throughout =>
      refine @Fate.expires _ _ _ _ _ _ _ _ _ now later between ?_ ?_ still elapsed rest ?_
      · rw [ahead, List.cons_append, ← split]
      · rw [ahead, run?, if_pos allowed, reached]
      · rw [ahead]
        exact throughout_cons lasts throughout
  | @leaves now earlier later between split before reached still leaves rest =>
      refine @Fate.leaves _ _ _ _ _ _ _ _ _ now (move :: earlier) later between ?_ ?_ ?_ still
        leaves rest
      · rw [split, List.cons_append]
      · rw [ahead, List.cons_append]
        exact List.cons_prefix_cons.mpr ⟨rfl, before⟩
      · rw [run?, if_pos allowed, reached]

variable {moves : List Move}

omit [MediaEngine ε] in
theorem next?_of_hearsExpiry {id : CallId} (elapsed : host.hearsExpiry id = true) :
    host.next? = some (.inviteExpired id) := by
  unfold hearsExpiry at elapsed
  split at elapsed
  · rename_i expired next
    rw [next, of_decide_eq_true elapsed]
  · cases elapsed

omit [MediaEngine ε] in
/-- Only a finding tells the host that a lifetime is over. -/
theorem mem_findings_of_expiry {id : CallId} (next : host.next? = some (.inviteExpired id)) :
    .expired id ∈ host.findings := by
  unfold next? at next
  split at next
  · cases next
  · split at next
    · cases next
    · rename_i finding _ _ findings
      cases finding with
      | relay => cases next
      | expired other =>
          cases next
          simp [findings]
    · rename_i command _ _ _ _
      cases command <;> cases next
    · cases next
    · cases next

/-- The host hears that a lifetime is over when it is, and the call is over then. -/
theorem expired_turn (lasts : first.Lasts side call deadline host)
    (elapsed : host.hearsExpiry call.id = true) (now : Instant) :
    host.clock = deadline ∧ (host.turn now).phone.call = none ∧
      ∃ log, (host.turn now).log = host.log ++ log ∧
        (∀ entry ∈ log, entry.2.opensCall = false) ∧
        endings log = [(deadline, call.id, .inviteExpired)] ∧
        queued log =
          (call.lastWords first.phone.style side).map fun parcel => (deadline, parcel) := by
  obtain ⟨chronicle, follows⟩ := lasts.follows
  have next := next?_of_hearsExpiry elapsed
  have turned := turned_of_next next now
  have due : host.clock = deadline := by
    cases lasts.expects with
    | timed _ _ unheard => exact absurd (mem_findings_of_expiry next) (unheard call.id)
    | elapsed _ due => exact due
  obtain ⟨replies, own, wrote⟩ := turned.log
  obtain ⟨current, there, same, after⟩ := Phone.after_of_expiry lasts.lingers now
  have style : host.phone.style = first.phone.style := by
    rw [Phone.style, Phone.style, follows.settings]
  have unopened := Phone.step_of_lingers follows.lived lasts.lingers now (.inviteExpired call.id)
  rw [written_after follows.quiet] at unopened
  have farewell := congrArg Phone.log after
  rw [Phone.ended, follows.quiet, List.nil_append] at farewell
  simp only [Call.identity, CallIdentity.mk.injEq] at same
  refine ⟨due, ?_, _, wrote, ?_, ?_, ?_⟩
  · rw [turned.phone, after]
    rfl
  · rcases unopened with ⟨⟨other, goes, -⟩, -⟩ | ⟨-, unopened⟩
    · rw [after] at goes
      cases goes
    · intro entry there
      exact (List.mem_append.mp there).elim (unopened_stamped host.clock unopened entry)
        (unopened_own own entry)
  · rw [endings_append, endings_own own, List.append_nil, endings_stamped, farewell,
      Phone.endings_farewell, same.1, due]
    rfl
  · rw [queued_append, queued_own own, List.append_nil, queued_stamped, farewell, parcels,
      LogEntry.sends_farewell, due, style]
    cases side with
    | offering => simp [Call.lastWords, same]
    | answering => rfl

end Host

end RoomCall
