import RoomCall.Proofs.Host.Posting
import RoomCall.Stage.Run

/-!
# The hosts of a stage

However the workers of a stage take turns, each of its hosts is in a run of its own, and it posts
into the timeline of the stage as a host does that sends its events through a line. The other hosts
are among the others who post. So what holds of every host that posts into a timeline holds of each
host of a stage.
-/

namespace RoomCall.Stage

variable {ε : Type}

/-- Making workers ready changes neither the seats nor the timeline. -/
theorem foldl_rouse {α : Type} (stage : Stage ε) (items : List α) (worker : α → Worker) :
    (items.foldl (fun stage item => stage.rouse (worker item)) stage).seats = stage.seats ∧
      (items.foldl (fun stage item => stage.rouse (worker item)) stage).timeline =
        stage.timeline := by
  induction items generalizing stage with
  | nil => exact ⟨rfl, rfl⟩
  | cons item later ih => exact ih (stage.rouse (worker item))

theorem seats_rouseDue (stage : Stage ε) : stage.rouseDue.seats = stage.seats :=
  (foldl_rouse stage _ id).1

theorem timeline_rouseDue (stage : Stage ε) : stage.rouseDue.timeline = stage.timeline :=
  (foldl_rouse stage _ id).2

variable [MediaEngine ε]

theorem seats_spread (stage : Stage ε) (timeline : Timeline) (event : TimelineEvent) :
    (stage.spread timeline event).seats = stage.seats.map (deliver event) :=
  (foldl_rouse _ _ _).1

theorem timeline_spread (stage : Stage ε) (timeline : Timeline) (event : TimelineEvent) :
    (stage.spread timeline event).timeline = timeline :=
  (foldl_rouse _ _ _).2

/-- What can become of a stage: somebody gives a command to a host, the workers take steps, events
come from elsewhere, devices are plugged in or go away, and time passes as far as all hosts let
it. -/
inductive Becomes (user : UserId) (begun : Stage ε) : Stage ε → Prop where
  | start : Becomes user begun begun
  | command {stage : Stage ε} (becomes : Becomes user begun stage) {seat : Seat ε}
      {name : String} (there : stage.seat? name = some seat) (command : Command) :
      Becomes user begun
        ((stage.putSeat { seat with host := seat.host.move (.command command) }).rouse
          ⟨name, .host⟩)
  | step {stage next : Stage ε} (becomes : Becomes user begun stage)
      (taken : stage.step? = some next) : Becomes user begun next
  | post {stage : Stage ε} (becomes : Becomes user begun stage) {sender : UserId}
      (foreign : sender ≠ user) (type : String) (content : Json) :
      Becomes user begun (stage.post sender type content).1
  | plug {stage : Stage ε} (becomes : Becomes user begun stage) (name : String)
      (change : Hotplug) : Becomes user begun (stage.plug name change)
  | pass {stage : Stage ε} (becomes : Becomes user begun stage) {span : Nat}
      (allowed : ∀ seat ∈ stage.seats, seat.host.allows (.wait span) = true) :
      Becomes user begun (stage.pass span)

/-- On a stage one user has the seats with one name and no others, and their hosts post into the
timeline as a host does that sends its events through a line. -/
structure Seats (name : String) (user : UserId) (first : Host ε) (begun : Timeline)
    (stage : Stage ε) : Prop where
  mine : ∀ seat ∈ stage.seats, seat.name = name →
    seat.line.user = user ∧ Host.Posts user first begun seat.host stage.timeline
  others : ∀ seat ∈ stage.seats, seat.name ≠ name → seat.line.user ≠ user

variable {name : String} {user : UserId} {first : Host ε} {begun : Timeline} {stage : Stage ε}

omit [MediaEngine ε] in
theorem mem_seat? {seat : Seat ε} (there : stage.seat? name = some seat) :
    seat ∈ stage.seats ∧ seat.name = name := by
  refine ⟨List.mem_of_find?_eq_some there, ?_⟩
  simpa using List.find?_some there

namespace Seats

/-- The same seats and the same timeline. -/
theorem congr (seats : Seats name user first begun stage) {other : Stage ε}
    (same : other.seats = stage.seats) (timeline : other.timeline = stage.timeline) :
    Seats name user first begun other where
  mine := by rw [same, timeline]; exact seats.mine
  others := by rw [same]; exact seats.others

/-- The host of each seat makes a move that it can make, or none. -/
theorem moves (seats : Seats name user first begun stage) (change : Seat ε → Seat ε)
    (stays : ∀ seat, (change seat).name = seat.name ∧ (change seat).line = seat.line)
    (moves : ∀ seat ∈ stage.seats, (change seat).host = seat.host ∨
      ∃ move, seat.host.allows move = true ∧ (∀ delivered, move ≠ .attempt delivered) ∧
        (change seat).host = seat.host.move move) :
    Seats name user first begun { stage with seats := stage.seats.map change } where
  mine := by
    intro seat there named
    obtain ⟨before, found, rfl⟩ := List.mem_map.mp there
    rw [(stays before).1] at named
    obtain ⟨line, posts⟩ := seats.mine before found named
    refine ⟨(stays before).2 ▸ line, ?_⟩
    rcases moves before found with same | ⟨move, allowed, other, moved⟩
    · exact same ▸ posts
    · exact moved ▸ posts.move allowed other
  others := by
    intro seat there named
    obtain ⟨before, found, rfl⟩ := List.mem_map.mp there
    rw [(stays before).1] at named
    exact (stays before).2 ▸ seats.others before found named

/-- Everybody hears an event. -/
theorem hear (seats : Seats name user first begun stage) (event : TimelineEvent) :
    Seats name user first begun { stage with seats := stage.seats.map (deliver event) } := by
  refine seats.moves (deliver event) (fun seat => ?_) fun seat _ => ?_
  · unfold deliver
    split <;> exact ⟨rfl, rfl⟩
  · unfold deliver
    split
    · exact .inl rfl
    · exact .inr ⟨.arrival seat.membership event, rfl, fun _ => Move.noConfusion, rfl⟩

/-- Somebody else posts. -/
theorem post (seats : Seats name user first begun stage) {sender : UserId}
    (foreign : sender ≠ user) (type : String) (content : Json) :
    Seats name user first begun (stage.post sender type content).1 := by
  have posted : Seats name user first begun
      { stage with timeline := (stage.timeline.post stage.now sender type content).1 } :=
    ⟨fun seat there named => ⟨(seats.mine seat there named).1,
      (seats.mine seat there named).2.other foreign _ _ _⟩, seats.others⟩
  exact (posted.hear _).congr (seats_spread _ _ _) (timeline_spread _ _ _)

/-- Something happens at one seat, and the timeline may change with it. -/
theorem put (seats : Seats name user first begun stage) {before : Seat ε} (after : Seat ε)
    {timeline : Timeline} (there : before ∈ stage.seats) (named : after.name = before.name)
    (line : after.line.user = before.line.user)
    (mine : before.line.user = user → Host.Posts user first begun before.host stage.timeline →
      Host.Posts user first begun after.host timeline)
    (others : before.line.user ≠ user → ∀ host, Host.Posts user first begun host stage.timeline →
      Host.Posts user first begun host timeline) :
    Seats name user first begun { stage.putSeat after with timeline := timeline } where
  mine := by
    intro seat present here
    obtain ⟨other, found, rfl⟩ := List.mem_map.mp present
    split at here
    · rename_i replaced
      rw [if_pos replaced]
      rw [named] at here
      obtain ⟨own, posts⟩ := seats.mine before there here
      exact ⟨line.trans own, mine own posts⟩
    · rename_i kept
      rw [if_neg kept]
      -- A seat that keeps its host is not the one at which something happens.
      have apart : before.name ≠ name := fun same => kept (here.trans (same.symm.trans named.symm))
      obtain ⟨own, posts⟩ := seats.mine other found here
      exact ⟨own, others (seats.others before there apart) _ posts⟩
  others := by
    intro seat present elsewhere
    obtain ⟨other, found, rfl⟩ := List.mem_map.mp present
    split at elsewhere
    · rename_i replaced
      rw [if_pos replaced, line]
      exact seats.others before there (named ▸ elsewhere)
    · rename_i kept
      rw [if_neg kept]
      exact seats.others other found elsewhere

/-- The host of one seat makes a move. -/
theorem move (seats : Seats name user first begun stage) {seat : Seat ε}
    (there : seat ∈ stage.seats) (line : Line) (same : line.user = seat.line.user) (move : Move)
    (allowed : seat.host.allows move = true) (other : ∀ delivered, move ≠ .attempt delivered) :
    Seats name user first begun
      (stage.putSeat { seat with line := line, host := seat.host.move move }) :=
  seats.put _ there rfl same (fun _ posts => posts.move allowed other) fun _ _ posts => posts

/-- The event that is due at one seat is sent. -/
theorem dispatch (seats : Seats name user first begun stage) {seat : Seat ε}
    (there : seat ∈ stage.seats) {parcel : Parcel}
    (due : seat.host.outbox.due? seat.host.clock = some parcel) :
    Seats name user first begun (stage.dispatch seat parcel) := by
  have mine (own : seat.line.user = user)
      (posts : Host.Posts user first begun seat.host stage.timeline) :=
    posts.send own stage.now due
  unfold Stage.dispatch
  by_cases here : parcel.room = stage.timeline.room
  · have sent : seat.line.send stage.timeline stage.now parcel.room parcel.signal =
        ((stage.timeline.post stage.now seat.line.user parcel.signal.kind.eventType
            parcel.signal.content).1,
          .ok (stage.timeline.post stage.now seat.line.user parcel.signal.kind.eventType
            parcel.signal.content).2) := if_pos here
    rw [sent] at mine ⊢
    have put := seats.put { seat with host := seat.host.move (.attempt true) } there rfl rfl mine
      fun foreign _ posts => posts.other foreign _ _ _
    exact (put.hear _).congr (seats_spread _ _ _) (timeline_spread _ _ _)
  · have sent : seat.line.send stage.timeline stage.now parcel.room parcel.signal =
        (stage.timeline, .error (.notJoined parcel.room)) := if_neg here
    rw [sent] at mine ⊢
    exact seats.put _ there rfl rfl mine fun _ _ posts => posts

theorem work (seats : Seats name user first begun stage) {seat : Seat ε}
    (there : seat ∈ stage.seats) {duty : Duty} {next : Stage ε}
    (worked : stage.work? seat duty = some next) : Seats name user first begun next := by
  cases duty with
  | host =>
      simp only [work?] at worked
      split at worked
      · exact nomatch worked
      · rename_i busy
        rcases Option.some.inj worked with rfl
        have turned := seats.move there seat.line rfl (.turn stage.turningPoint)
          (by simpa [Host.allows] using busy) fun _ => Move.noConfusion
        have roused := foldl_rouse
          (stage.putSeat { seat with host := seat.host.move (.turn stage.turningPoint) })
          (rousedBy seat.host (seat.host.move (.turn stage.turningPoint))) fun duty =>
            ⟨seat.name, duty⟩
        exact turned.congr roused.1 roused.2
  | outbox =>
      obtain ⟨parcel, due, rfl⟩ := Option.map_eq_some_iff.mp worked
      exact seats.dispatch there due
  | relay =>
      simp only [work?] at worked
      split at worked
      · rename_i asked
        rcases Option.some.inj worked with rfl
        have answered := seats.move there seat.line.requestRelay.1 rfl
          (.relayAnswer (seat.line.requestRelay.2.mapError LineError.message))
          (by simpa [Host.allows] using asked) fun _ => Move.noConfusion
        exact answered.congr rfl rfl
      · exact nomatch worked
  | timer =>
      simp only [work?] at worked
      split at worked
      · rename_i due
        rcases Option.some.inj worked with rfl
        have expired := seats.move there seat.line rfl .expiry due fun _ => Move.noConfusion
        exact expired.congr rfl rfl
      · exact nomatch worked

theorem step (seats : Seats name user first begun stage) {next : Stage ε}
    (taken : stage.step? = some next) : Seats name user first begun next := by
  unfold step? at taken
  split at taken
  · exact nomatch taken
  · rename_i worker later _
    split at taken
    · rcases Option.some.inj taken with rfl
      exact seats.congr rfl rfl
    · rename_i seat found
      rcases Option.some.inj taken with rfl
      cases worked : stage.work? seat worker.duty with
      | some next => exact seats.work (mem_seat? found).1 worked
      | none =>
          rw [Option.getD_none]
          split <;> exact seats.congr rfl rfl

end Seats

/-- Whatever becomes of a stage, the host of the only seat of a user posts into its timeline. -/
theorem seats_of_becomes {begun stage : Stage ε} {first : Seat ε}
    (only : ∀ seat ∈ begun.seats, seat = first ∨
      seat.name ≠ first.name ∧ seat.line.user ≠ first.line.user)
    (becomes : Becomes first.line.user begun stage) :
    Seats first.name first.line.user first.host begun.timeline stage := by
  induction becomes with
  | start =>
      refine ⟨fun seat there named => ?_, fun seat there named => ?_⟩
      · rcases only seat there with rfl | ⟨apart, -⟩
        · exact ⟨rfl, .start⟩
        · exact absurd named apart
      · rcases only seat there with rfl | ⟨-, apart⟩
        · exact absurd rfl named
        · exact apart
  | command _ there command ih =>
      have given := ih.move (mem_seat? there).1 _ rfl (.command command) rfl fun _ =>
        Move.noConfusion
      exact given.congr rfl rfl
  | step _ taken ih => exact ih.step taken
  | post _ foreign type content ih => exact ih.post foreign type content
  | plug _ name change ih =>
      refine ih.moves _ (fun seat => ?_) fun seat _ => ?_
      · split <;> exact ⟨rfl, rfl⟩
      · split
        · exact .inr ⟨.plug change, rfl, fun _ => Move.noConfusion, rfl⟩
        · exact .inl rfl
  | @pass stage _ span allowed ih =>
      have waited := ih.moves (fun seat => { seat with host := seat.host.move (.wait span) })
        (fun _ => ⟨rfl, rfl⟩) fun seat there =>
          .inr ⟨.wait span, allowed seat there, fun _ => Move.noConfusion, rfl⟩
      exact waited.congr (seats_rouseDue _) (timeline_rouseDue _)

/-- What the only host of a user has tried for the room of a stage is what that user has posted into
the timeline, and the host is in a run of its own. -/
theorem postsOf_of_becomes {begun stage : Stage ε} {first seat : Seat ε}
    (only : ∀ seat ∈ begun.seats, seat = first ∨
      seat.name ≠ first.name ∧ seat.line.user ≠ first.line.user)
    (untried : Host.tries first.host.log = [])
    (becomes : Becomes first.line.user begun stage) (there : seat ∈ stage.seats)
    (named : seat.name = first.name) :
    (∃ moves, first.host.run? moves = some seat.host) ∧
      stage.timeline.postsOf first.line.user = begun.timeline.postsOf first.line.user ++
        Parcel.posts begun.timeline.room ((Host.tries seat.host.log).map Try.parcel) := by
  obtain ⟨-, posts⟩ := (seats_of_becomes only becomes).mine seat there named
  exact ⟨Host.exists_run_of_posts posts, (Host.postsOf_of_posts posts untried).2⟩

end RoomCall.Stage
