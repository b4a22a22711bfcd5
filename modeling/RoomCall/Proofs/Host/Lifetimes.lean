import RoomCall.Proofs.Host.Expiry

/-!
# Calls that nobody answers

A call begins to linger when it begins to ring or when its invite is queued. It expires exactly when
the lifetime of the invite is over, unless it is settled before, and no other call does.

What the host turns to at the deadline itself, but before it hears that the lifetime is over, is not
too late. The host hears that first if it never turns to its work while its timer has run out and
it has not noted so.
-/

namespace RoomCall

variable {ε : Type} [MediaEngine ε]

namespace Host

variable {first host last : Host ε} {side : Role} {call : Call ε} {deadline : Moment}
  {moves : List Move}

/-! ## How a call begins to linger -/

/-- A call begins to linger in a turn, on the side that this device is on, with the deadline that it
has from then on: it begins to ring, or its invite is queued. -/
inductive Begins (settings : PhoneSettings) (host : Host ε) (now : Instant) (call : Call ε) :
    Role → Moment → Prop where
  | rings (current : (host.turn now).phone.call = some call)
      (silent : host.phone.phase ≠ .incoming) (rings : (host.turn now).phone.phase = .incoming) :
      Begins settings host now call .answering (host.clock + call.lifetime.milliseconds)
  | invited {sent : Moment × Parcel} (current : (host.turn now).phone.call = some call)
      (outgoing : (host.turn now).phone.phase = .outgoing)
      (said : sent ∈ queued (host.since (host.turn now)))
      (invite : sent.2.signal.kind = .invite) :
      Begins settings host now call .offering (host.clock + settings.inviteLifetime)

omit [MediaEngine ε] in
theorem working_of_next {occurrence : Occurrence} (next : host.next? = some occurrence) :
    host.closing = false := by
  cases closing : host.closing with
  | true => simp [next?, closing] at next
  | false => rfl

/-- A call lasts from the turn in which the timer is armed for it. -/
theorem lasts_of_armed {settings : PhoneSettings} {chronicle : Chronicle}
    (follows : host.Follows settings chronicle) {now : Instant} {occurrence : Occurrence}
    (next : host.next? = some occurrence) {lifetime : Duration}
    (lingers : (host.phone.after now occurrence).Lingers side call)
    (armed : (host.phone.after now occurrence).log.foldl LogEntry.wind none =
      some (call.id, lifetime))
    (unheard : ∀ other, .expired other ∉ host.findings) :
    (host.turn now).Lasts side call (host.clock + lifetime.milliseconds) (host.turn now) := by
  have turned := turned_of_next next now
  have followed := follows.turned turned
  have lingers : (host.turn now).phone.Lingers side call := by
    rw [turned.phone]
    exact lingers
  rcases turned.timer with ⟨working, timer⟩ | ⟨-, closing, -⟩
  · rw [Timer.foldl_wind_armed armed] at timer
    exact {
      working
      follows := ⟨_, followed.settings ▸ followed⟩
      lingers
      expects := .timed timer (turned.clock ▸ Nat.le_add_right _ _)
        fun other there => unheard other (turned.findings.subset _ there)
      uneventful := ⟨[], (List.append_nil _).symm, uneventful_nil side⟩ }
  · have gone := uncalled_of_closing (working_of_next next)
      (Phone.coherent_of_lived follows.lived) closing
    obtain ⟨current, there, -⟩ := lingers
    exact absurd (there.symm.trans gone) (Option.some_ne_none _)

/-- What is queued in a turn is what the phone says in it. -/
theorem queued_since {now : Instant} {occurrence : Occurrence} {after : Host ε}
    (turned : host.Turned now occurrence after) :
    queued (host.since after) =
      (parcels (host.phone.after now occurrence).log).map fun parcel => (host.clock, parcel) := by
  obtain ⟨replies, own, wrote⟩ := turned.log
  rw [since_eq wrote, queued_append, queued_own own, List.append_nil, queued_stamped]

/-- A call that begins to linger lasts from then on. -/
theorem lasts_of_begins {settings : PhoneSettings} {chronicle : Chronicle}
    (follows : host.Follows settings chronicle) {now : Instant}
    (begins : host.Begins settings now call side deadline) :
    (host.turn now).Lasts side call deadline (host.turn now) := by
  have coherent := Phone.coherent_of_lived follows.lived
  cases next : host.next? with
  | none =>
      have rests := turn_of_rest next now
      cases begins with
      | rings _ silent rings =>
          rw [rests] at rings
          exact absurd rings silent
      | invited _ _ said => simp [rests, since, queued] at said
  | some occurrence =>
      have turned := turned_of_next next now
      cases begins with
      | rings current silent rings =>
          rw [turned.phone] at rings current
          have idle := Phone.idle_of_rings follows.lived silent rings
          obtain ⟨⟨carried, heard⟩, lingers, armed⟩ :=
            Phone.lingers_of_rang coherent idle current rings
          rw [written_after follows.quiet] at armed
          refine lasts_of_armed follows next lingers armed fun other there => ?_
          simp [turned.findings.of_signal heard] at there
      | invited current outgoing said invite =>
          rw [queued_since turned, List.mem_map] at said
          obtain ⟨parcel, among, rfl⟩ := said
          obtain ⟨spoken, there, rfl⟩ := List.mem_map.mp among
          rw [← written_after follows.quiet] at there
          rw [turned.phone] at outgoing current
          obtain ⟨lingers, armed, record, latest, never⟩ :=
            Phone.lingers_of_invited follows.lived there invite current outgoing
          rw [written_after follows.quiet] at armed
          -- What waits to be heard belongs to the latest call, which had no timer so far.
          have lasts := lasts_of_armed follows next lingers armed fun other waits => by
            obtain ⟨last, same, wound⟩ := follows.expired other waits
            obtain rfl := Option.some.inj (latest.symm.trans same)
            omega
          have lifetime : host.phone.inviteLifetime.milliseconds = settings.inviteLifetime := by
            rw [Phone.inviteLifetime, follows.settings]
            exact Nat.mul_div_cancel _ (by decide)
          rwa [lifetime] at lasts

/-- A call that lingers after a turn and did not before has begun to. -/
theorem begins_of_lingers {settings : PhoneSettings} {chronicle : Chronicle}
    (follows : host.Follows settings chronicle) {now : Instant}
    (lingers : (host.turn now).phone.Lingers side call) (new : ¬host.phone.Lingers side call) :
    ∃ current deadline, current.identity = call.identity ∧
      host.Begins settings now current side deadline := by
  cases next : host.next? with
  | none =>
      rw [turn_of_rest next] at lingers
      exact absurd lingers new
  | some occurrence =>
      have turned := turned_of_next next now
      obtain ⟨current, there, same, waits⟩ := lingers
      have begins := @Phone.begins_of_lingers _ _ _ call side _ follows.lived now occurrence (by
        rw [turned.phone] at there waits
        exact ⟨current, there, same, waits⟩) new
      refine ⟨current, ?_⟩
      cases side with
      | answering => exact ⟨_, same, .rings there begins waits.1⟩
      | offering =>
          obtain ⟨sent, said, invite⟩ := begins
          rw [written_after follows.quiet] at said
          refine ⟨_, same, @Begins.invited _ _ _ _ _ _ (host.clock, ⟨sent.1, sent.2⟩) there waits.1
            ?_ invite⟩
          rw [queued_since turned]
          exact List.mem_map_of_mem (List.mem_map.mpr ⟨sent, said, rfl⟩)

/-! ## Afterwards -/

/-- While a call lasts the phone is not idle. -/
theorem Lasts.busy (lasts : first.Lasts side call deadline host) : host.phone.phase ≠ .idle := by
  obtain ⟨current, -, -, waits⟩ := lasts.lingers
  cases side with
  | offering => simp [waits.1]
  | answering => simp [waits.1]

/-- What a phone has been through stays known in the turn in which a call may stop lasting. -/
theorem Lasts.followed (lasts : first.Lasts side call deadline host) (now : Instant) :
    ∃ chronicle, (host.turn now).Follows first.phone.settings chronicle := by
  obtain ⟨chronicle, follows⟩ := lasts.follows
  exact follows_move follows (.turn now)

/-- In a turn of a run a call began to linger that has some deadline. -/
def Began (first : Host ε) (settings : PhoneSettings) (moves : List Move) (call : Call ε)
    (side : Role) (deadline : Moment) : Prop :=
  ∃ earlier now later before, moves = earlier ++ .turn now :: later ∧
    first.run? earlier = some before ∧ before.Begins settings now call side deadline

/-- A call that lingers at the end of a run has lasted since it began to in the run. -/
def HasLasted (first : Host ε) (settings : PhoneSettings) (moves : List Move) (side : Role)
    (call : Call ε) (last : Host ε) : Prop :=
  ∃ (origin : Call ε) (deadline : Moment) (rung : Host ε), origin.identity = call.identity ∧
    first.Began settings moves origin side deadline ∧ rung.Lasts side origin deadline last

/-- What is known of the end of a run: whatever lingers has lasted since it began to, and every call
that has expired did so at its deadline. -/
structure Traced (first : Host ε) (settings : PhoneSettings) (moves : List Move)
    (last : Host ε) : Prop where
  follows : ∃ chronicle, last.Follows settings chronicle
  lasts : ∀ side call, last.phone.Lingers side call →
    first.HasLasted settings moves side call last
  expired : ∀ ended ∈ endings last.log, ended.2.2 = .inviteExpired →
    ∃ origin side, origin.id = ended.2.1 ∧ first.Began settings moves origin side ended.1

variable {settings : PhoneSettings} {move : Move}

/-- A call that began to linger in a run began to in every longer one. -/
theorem Began.concat (began : first.Began settings moves call side deadline) (move : Move) :
    first.Began settings (moves ++ [move]) call side deadline := by
  obtain ⟨earlier, now, later, before, rfl, reached, begins⟩ := began
  exact ⟨earlier, now, later ++ [move], before, by simp, reached, begins⟩

/-- Nothing but turns makes a call linger. -/
theorem lingers_of_move (other : ∀ now, move ≠ .turn now)
    (lingers : (host.move move).phone.Lingers side call) : host.phone.Lingers side call := by
  cases move with
  | turn now => exact absurd rfl (other now)
  | command | arrival | plug | relayAnswer | wait => exact lingers
  | attempt =>
      rw [Host.move, Host.attempt] at lingers
      split at lingers <;> exact lingers
  | expiry =>
      rw [Host.move, expire] at lingers
      split at lingers <;> exact lingers

/-- A call that lingers after a move began to in the move or before. -/
theorem Traced.lasts_move (traced : first.Traced settings moves host)
    (reached : first.run? moves = some host) (allowed : host.allows move = true)
    (lingers : (host.move move).phone.Lingers side call) :
    first.HasLasted settings (moves ++ [move]) side call (host.move move) := by
  by_cases turns : ∃ now, move = .turn now
  · obtain ⟨now, rfl⟩ := turns
    by_cases old : host.phone.Lingers side call
    · obtain ⟨origin, deadline, rung, same, began, lasts⟩ := traced.lasts side call old
      refine ⟨origin, deadline, rung, same, began.concat _, ?_⟩
      cases elapsed : host.hearsExpiry origin.id with
      | true =>
          obtain ⟨current, there, -⟩ := lingers
          have gone := (expired_turn lasts elapsed now).2.1
          exact absurd (there.symm.trans gone) (Option.some_ne_none _)
      | false =>
          refine (lasts_turn lasts elapsed now).resolve_right fun leaves => ?_
          obtain ⟨told, followed⟩ := lasts.followed now
          exact Phone.not_lingers_of_settled (Phone.coherent_of_lived followed.lived)
            leaves.settled lingers
    · obtain ⟨chronicle, follows⟩ := traced.follows
      obtain ⟨current, deadline, same, begins⟩ := begins_of_lingers follows lingers old
      exact ⟨current, deadline, host.turn now, same, ⟨moves, now, [], host, rfl, reached, begins⟩,
        lasts_of_begins follows begins⟩
  · have other : ∀ now, move ≠ .turn now := fun now is => turns ⟨now, is⟩
    obtain ⟨origin, deadline, rung, same, began, lasts⟩ :=
      traced.lasts side call (lingers_of_move other lingers)
    exact ⟨origin, deadline, rung, same, began.concat _, Host.lasts_move lasts allowed other⟩

/-- A call that expires in a turn began to linger in the run and does so at its deadline. -/
theorem Traced.expired_turn (traced : first.Traced settings moves host) {now : Instant}
    {occurrence : Occurrence} (next : host.next? = some occurrence) {id : CallId}
    (expired : (id, .inviteExpired) ∈
      LogEntry.endings (host.phone.after now occurrence).log) :
    ∃ origin side, origin.id = id ∧ first.Began settings moves origin side host.clock := by
  obtain ⟨chronicle, follows⟩ := traced.follows
  rw [← written_after follows.quiet] at expired
  obtain ⟨rfl, unsettled, call, current, named⟩ := Phone.expired_of_step follows.lived expired
  obtain ⟨record, latest, wound⟩ := follows.expired id (mem_findings_of_expiry next)
  obtain ⟨side, lingers⟩ :=
    Phone.lingers_of_wound follows.lived latest wound unsettled current
  obtain ⟨origin, deadline, rung, same, began, lasts⟩ := traced.lasts side call lingers
  have id : origin.id = id := (congrArg CallIdentity.id same).trans named
  have elapsed : host.hearsExpiry origin.id = true := by simp [hearsExpiry, next, id]
  rw [← (Host.expired_turn lasts elapsed now).1] at began
  exact ⟨origin, side, id, began⟩

/-- What is known of the end of a run is known again after one more move. -/
theorem Traced.concat (traced : first.Traced settings moves host)
    (reached : first.run? moves = some host) (allowed : host.allows move = true) :
    first.Traced settings (moves ++ [move]) (host.move move) where
  follows := by
    obtain ⟨chronicle, follows⟩ := traced.follows
    exact follows_move follows move
  lasts _ _ lingers := traced.lasts_move reached allowed lingers
  expired := by
    intro ended there elapsed
    have earlier (waited : ended ∈ endings host.log) :
        ∃ origin side, origin.id = ended.2.1 ∧
          first.Began settings (moves ++ [move]) origin side ended.1 := by
      obtain ⟨origin, side, id, began⟩ := traced.expired ended waited elapsed
      exact ⟨origin, side, id, began.concat move⟩
    have moved := moved_move host move
    cases moved with
    | aside own wrote =>
        rw [wrote, endings_append, endings_own own, List.append_nil] at there
        exact earlier there
    | turned next turned =>
        obtain ⟨replies, own, wrote⟩ := turned.log
        rw [wrote, endings_append, endings_append, endings_own own, List.append_nil,
          endings_stamped, List.mem_append, List.mem_map] at there
        rcases there with waited | ⟨⟨id, ending⟩, among, rfl⟩
        · exact earlier waited
        · obtain rfl : ending = .inviteExpired := elapsed
          obtain ⟨origin, side, id, began⟩ := traced.expired_turn next among
          exact ⟨origin, side, id, began.concat move⟩

end Host

open Host

namespace Host

/-- A phone with an engine that has little to say, for a user who does not wait long. -/
def impatient : Phone Engine.Scripted :=
  { Phone.scripted with
    settings := { requireMicrophone := false, inviteLifetime := 300 }
    maker := { make := fun _ => { script := { offer := "m=audio" } } } }

/-- An invite from somebody who waits for 200 milliseconds. -/
def invitation : TimelineEvent where
  id := ⟨"$1"⟩
  type := SignalKind.invite.eventType
  sender := ⟨"@bob"⟩
  sentAt := 0
  content := .object [("call_id", .string "call"), ("version", .string "1"),
    ("lifetime", .integer 200),
    ("offer", .object [("type", .string "offer"), ("sdp", .string "m=audio")])]

/-- Nobody answers a call that rings. -/
def missedRun : List Move := [.wait 200, .expiry, .turn 1]

/-- A call that rings is ignored. -/
def ignoredRun : List Move := [.command .ignore, .turn 1, .wait 200]

/-- The invite has arrived, and the host is about to turn to it. -/
def ringing : Host Engine.Scripted :=
  Host.move { phone := impatient } (.arrival Phone.pair invitation)

end Host

end RoomCall
