import RoomCall.Proofs.Host.Shutdown
import RoomCall.Timeline

/-!
# A host that posts into a timeline

A host may send its events through a line, which posts what is for the room of its timeline and
refuses everything else. Others post into the same timeline, but not under the name of the line's
user. Then the events of that user are those that the host has tried for that room, in the same
order and with the same contents.
-/

namespace RoomCall

variable {ε : Type}

/-- What a user has posted into a timeline: the types and the contents of the events, in order. -/
def Timeline.postsOf (timeline : Timeline) (user : UserId) : List (String × Json) :=
  (timeline.history.filter (·.sender = user)).map fun event => (event.type, event.content)

/-- The events among some parcels that are for one room: their types and contents, in order. -/
def Parcel.posts (room : RoomId) (parcels : List Parcel) : List (String × Json) :=
  (parcels.filter (·.room = room)).map fun parcel =>
    (parcel.signal.kind.eventType, parcel.signal.content)

theorem Timeline.postsOf_post (timeline : Timeline) (now : Instant) (sender user : UserId)
    (type : String) (content : Json) :
    (timeline.post now sender type content).1.postsOf user =
      timeline.postsOf user ++ if sender = user then [(type, content)] else [] := by
  by_cases same : sender = user <;> simp [postsOf, post, same]

/-- A line posts what is for the room of its timeline, and nothing else. -/
theorem Line.postsOf_send (line : Line) (timeline : Timeline) (now : Instant) (parcel : Parcel) :
    (line.send timeline now parcel.room parcel.signal).1.room = timeline.room ∧
      (line.send timeline now parcel.room parcel.signal).1.postsOf line.user =
        timeline.postsOf line.user ++ Parcel.posts timeline.room [parcel] := by
  unfold send
  split
  · rename_i here
    refine ⟨rfl, ?_⟩
    dsimp only
    rw [Timeline.postsOf_post, if_pos rfl]
    simp [Parcel.posts, here]
  · rename_i elsewhere
    exact ⟨rfl, by simp [Parcel.posts, elsewhere]⟩

namespace Host

variable [MediaEngine ε]

/-- What becomes of a host and a timeline when the host sends its events through a line of a user,
and others post into the timeline. -/
inductive Posts (user : UserId) (first : Host ε) (begun : Timeline) : Host ε → Timeline → Prop where
  | start : Posts user first begun first begun
  /-- The host makes a move, other than to try an event. -/
  | move {host : Host ε} {timeline : Timeline} (posts : Posts user first begun host timeline)
      {move : Move} (allowed : host.allows move = true)
      (other : ∀ delivered, move ≠ .attempt delivered) :
      Posts user first begun (host.move move) timeline
  /-- The host tries an event, and that succeeds if the line can send it. -/
  | send {host : Host ε} {timeline : Timeline} (posts : Posts user first begun host timeline)
      {line : Line} (mine : line.user = user) (now : Instant) {parcel : Parcel}
      (due : host.outbox.due? host.clock = some parcel) :
      Posts user first begun
        (host.move (.attempt (line.send timeline now parcel.room parcel.signal).2.isOk))
        (line.send timeline now parcel.room parcel.signal).1
  /-- Somebody else posts. -/
  | other {host : Host ε} {timeline : Timeline} (posts : Posts user first begun host timeline)
      {sender : UserId} (foreign : sender ≠ user) (now : Instant) (type : String)
      (content : Json) :
      Posts user first begun host (timeline.post now sender type content).1

variable {user : UserId} {first host : Host ε} {begun timeline : Timeline}

/-- A host that posts into a timeline is in a run like any other. -/
theorem exists_run_of_posts (posts : Posts user first begun host timeline) :
    ∃ moves, first.run? moves = some host := by
  have one {host : Host ε} {moves : List Move} (ran : first.run? moves = some host) {move : Move}
      (allowed : host.allows move = true) : first.run? (moves ++ [move]) = some (host.move move) := by
    rw [run?_append, ran, Option.bind_some, run?, if_pos allowed]
    rfl
  induction posts with
  | start => exact ⟨[], rfl⟩
  | move _ allowed _ ih =>
      obtain ⟨moves, ran⟩ := ih
      exact ⟨_, one ran allowed⟩
  | send _ _ _ due ih =>
      obtain ⟨moves, ran⟩ := ih
      exact ⟨_, one ran (by simp [allows, due])⟩
  | other _ _ _ _ _ ih => exact ih

/-- As long as the host tries nothing it may go on as in any run. -/
theorem Posts.run (posts : Posts user first begun host timeline) {last : Host ε}
    {moves : List Move} (other : ∀ move ∈ moves, ∀ delivered, move ≠ .attempt delivered)
    (ran : host.run? moves = some last) : Posts user first begun last timeline := by
  induction moves generalizing host with
  | nil => exact Option.some.inj ran ▸ posts
  | cons move later ih =>
      rw [run?] at ran
      split at ran
      · rename_i allowed
        rw [List.forall_mem_cons] at other
        exact ih (posts.move allowed other.1) other.2 ran
      · exact absurd ran.symm (Option.some_ne_none _)

/-- Only trying an event writes down a try. -/
theorem tries_move {move : Move} (other : ∀ delivered, move ≠ .attempt delivered) :
    tries (host.move move).log = tries host.log := by
  cases move with
  | command | arrival | plug | relayAnswer | wait => rfl
  | turn now =>
      have turns := turns_turn host now
      change tries (host.turn now).log = _
      generalize host.turn now = turned at turns ⊢
      cases turns with
      | rests => rfl
      | hears | follows | closes => simp [close, record, perform_fst, keeping, facing]
  | attempt delivered => exact absurd rfl (other delivered)
  | expiry =>
      simp only [Host.move, expire]
      split <;> rfl

/-- What the host has tried for the room of the timeline is what its user has posted. -/
theorem postsOf_of_posts (posts : Posts user first begun host timeline)
    (untried : tries first.log = []) :
    timeline.room = begun.room ∧
      timeline.postsOf user =
        begun.postsOf user ++ Parcel.posts begun.room ((tries host.log).map Try.parcel) := by
  induction posts with
  | start => simp [untried, Parcel.posts]
  | move _ _ other ih => rwa [tries_move other]
  | @send host timeline _ line mine now parcel due ih =>
      obtain ⟨room, same⟩ := ih
      subst mine
      have sent := line.postsOf_send timeline now parcel
      refine ⟨sent.1.trans room, ?_⟩
      rw [sent.2, same, room]
      simp [Host.move, attempt, due, record, Parcel.posts]
  | other _ foreign _ _ _ ih =>
      refine ⟨ih.1, ?_⟩
      rw [Timeline.postsOf_post, if_neg foreign, List.append_nil, ih.2]

end Host

end RoomCall
