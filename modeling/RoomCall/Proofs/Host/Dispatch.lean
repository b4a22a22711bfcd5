import RoomCall.Proofs.Host.Runs

/-!
# What leaves a host

Every event that the phone of a host has sent is queued, and the events are tried one by one in the
order in which they were queued, each once. A try happens at the first moment at which its event is
there and the pause after the last try is over. Both are invariants of the log, the outbox and the
clock: queueing, trying and waiting keep them.
-/

namespace RoomCall

variable {ε : Type}

namespace Try

/-- The number of failures in a row that some tries end with. -/
def streak (tries : List Try) : Nat :=
  (tries.reverse.takeWhile fun last => !last.delivered).length

/-- The end of the pause after some tries. -/
def resumption (tries : List Try) : Moment :=
  match tries.getLast? with
  | some last => last.moment + 100 * min (streak tries) 10
  | none => 0

/-- A try that fails makes the streak of failures longer by one, and a delivery ends it. -/
theorem streak_concat (tries : List Try) (last : Try) :
    streak (tries ++ [last]) = if last.delivered then 0 else streak tries + 1 := by
  cases delivered : last.delivered <;> simp [streak, delivered]

/-- After a try the host pauses for a tenth of a second for each failure in a row, and for one
second at most. -/
theorem resumption_concat (tries : List Try) (last : Try) :
    resumption (tries ++ [last]) = last.moment + 100 * min (streak (tries ++ [last])) 10 := by
  simp [resumption]

/-- Every try is of the event whose turn it is, at the first moment at which that event has been
queued and the pause after the tries before is over. -/
def Timely (queue : List (Moment × Parcel)) (tries : List Try) : Prop :=
  ∀ earlier next later, tries = earlier ++ next :: later →
    ∃ moment, queue[earlier.length]? = some (moment, next.parcel) ∧
      next.moment = max moment (resumption earlier)

variable {queue : List (Moment × Parcel)} {tries : List Try}

theorem Timely.extend (timely : Timely queue tries) (more : List (Moment × Parcel)) :
    Timely (queue ++ more) tries := by
  intro earlier next later is
  obtain ⟨moment, there, timed⟩ := timely earlier next later is
  refine ⟨moment, ?_, timed⟩
  rw [List.getElem?_append_left (List.getElem?_eq_some_iff.mp there).1, there]

/-- A try of the next parcel, as soon as it is queued and the pause is over, is timely. -/
theorem Timely.concat (timely : Timely queue tries) {last : Try} {moment : Moment}
    (there : queue[tries.length]? = some (moment, last.parcel))
    (timed : last.moment = max moment (resumption tries)) : Timely queue (tries ++ [last]) := by
  intro earlier next later is
  rcases List.eq_nil_or_concat later with rfl | ⟨between, final, rfl⟩
  · obtain ⟨rfl, same⟩ := List.append_inj' is rfl
    rw [List.singleton_inj] at same
    exact same ▸ ⟨moment, there, timed⟩
  · rw [List.concat_eq_append, ← List.cons_append, ← List.append_assoc] at is
    exact timely earlier next between (List.append_inj' is rfl).1

end Try

namespace Host

/-- The outbox of a host fits its log: what is in it has been queued and not been tried, it counts
the failures and minds the pause, and the host is not late for what is to be tried next. -/
structure Dispatched (clock : Moment) (log : List (Moment × HostEntry)) (outbox : Outbox) :
    Prop where
  conserved : (queued log).map Prod.snd = (tries log).map Try.parcel ++ outbox.parcels
  timely : Try.Timely (queued log) (tries log)
  failures : outbox.backoff.failures = Try.streak (tries log)
  pause : outbox.readyAt = Try.resumption (tries log)
  past : ∀ entry ∈ queued log, entry.1 ≤ clock
  /-- Time has not passed beyond the moment at which the next event can be tried. -/
  prompt : ∀ next, (queued log)[(tries log).length]? = some next →
    clock ≤ max next.1 outbox.readyAt

variable {clock : Moment} {log : List (Moment × HostEntry)} {outbox : Outbox}

namespace Dispatched

/-- The next event to try is the one behind those that were tried. -/
theorem next (dispatched : Dispatched clock log outbox) {parcel : Parcel}
    (first : outbox.parcels.head? = some parcel) :
    ∃ moment, (queued log)[(tries log).length]? = some (moment, parcel) := by
  have there : ((queued log).map Prod.snd)[(tries log).length]? = some parcel := by
    rw [dispatched.conserved, List.getElem?_append_right (by simp)]
    simpa [List.head?_eq_getElem?] using first
  rw [List.getElem?_map, Option.map_eq_some_iff] at there
  obtain ⟨⟨moment, _⟩, there, rfl⟩ := there
  exact ⟨moment, there⟩

/-- The phone orders something. -/
theorem order (dispatched : Dispatched clock log outbox) (entries : List LogEntry) :
    Dispatched clock (log ++ stamped clock entries)
      { outbox with parcels := outbox.parcels ++ parcels entries } where
  conserved := by simp [dispatched.conserved, Function.comp_def]
  timely := by simpa using dispatched.timely.extend _
  failures := by simpa using dispatched.failures
  pause := by simpa using dispatched.pause
  past := by
    intro entry there
    rw [queued_append, queued_stamped, List.mem_append] at there
    rcases there with there | there
    · exact dispatched.past entry there
    · obtain ⟨parcel, -, rfl⟩ := List.mem_map.mp there
      exact Nat.le_refl clock
  prompt := by
    intro next there
    simp only [queued_append, tries_append, queued_stamped, tries_stamped, List.append_nil] at there
    rcases Nat.lt_or_ge (tries log).length (queued log).length with before | behind
    · rw [List.getElem?_append_left before] at there
      exact dispatched.prompt next there
    · rw [List.getElem?_append_right behind, List.getElem?_map, Option.map_eq_some_iff] at there
      obtain ⟨parcel, -, rfl⟩ := there
      exact Nat.le_max_left clock _

theorem reply (dispatched : Dispatched clock log outbox) (command : Command)
    (outcome : Except PhoneError Reply) :
    Dispatched clock (log ++ [(clock, .replied command outcome)]) outbox where
  conserved := by simpa using dispatched.conserved
  timely := by simpa using dispatched.timely
  failures := by simpa using dispatched.failures
  pause := by simpa using dispatched.pause
  past := by simpa using dispatched.past
  prompt := by simpa using dispatched.prompt

/-- The first event is tried. -/
theorem attempt (dispatched : Dispatched clock log outbox) {parcel : Parcel}
    (due : outbox.due? clock = some parcel) (delivered : Bool) :
    Dispatched clock (log ++ [(clock, .tried parcel delivered)])
      (outbox.tried clock delivered) := by
  obtain ⟨ready, first⟩ : outbox.readyAt ≤ clock ∧ outbox.parcels.head? = some parcel := by
    simpa [Outbox.due?] using due
  obtain ⟨moment, there⟩ := dispatched.next first
  -- The event could not be tried earlier, and `prompt` says that it is not tried later.
  have since : moment ≤ clock := dispatched.past _ (List.mem_of_getElem? there)
  have now : clock = max moment outbox.readyAt :=
    Nat.le_antisymm (dispatched.prompt _ there) (Nat.max_le.mpr ⟨since, ready⟩)
  have failures : (outbox.backoff.after delivered).failures =
      Try.streak (tries log ++ [⟨clock, parcel, delivered⟩]) := by
    rw [Try.streak_concat, ← dispatched.failures]
    cases delivered <;> rfl
  constructor
  · obtain ⟨rest, is⟩ := List.head?_eq_some_iff.mp first
    simp [dispatched.conserved, is, Outbox.tried]
  · rw [queued_append, queued_tried, List.append_nil, tries_append, tries_tried]
    exact dispatched.timely.concat there (dispatched.pause ▸ now)
  · simpa [Outbox.tried] using failures
  · rw [tries_append, tries_tried, Try.resumption_concat, ← failures]
    rfl
  · simpa using dispatched.past
  · intro next _
    exact Nat.le_trans (Nat.le_add_right clock _) (Nat.le_max_right _ _)

/-- Time passes, but not beyond the end of a pause after which something is to be tried. -/
theorem wait (dispatched : Dispatched clock log outbox) {span : Nat}
    (patient : outbox.parcels ≠ [] → clock + span ≤ outbox.readyAt) :
    Dispatched (clock + span) log outbox where
  conserved := dispatched.conserved
  timely := dispatched.timely
  failures := dispatched.failures
  pause := dispatched.pause
  past := fun entry there => Nat.le_trans (dispatched.past entry there) (Nat.le_add_right _ _)
  prompt := by
    intro next there
    have within := (List.getElem?_eq_some_iff.mp there).1
    have count := congrArg List.length dispatched.conserved
    simp only [List.length_map, List.length_append] at count
    have waiting : outbox.parcels ≠ [] := by
      rintro empty
      rw [empty, List.length_nil] at count
      omega
    exact Nat.le_trans (patient waiting) (Nat.le_max_right _ _)

end Dispatched

/-! ## The moves of a host -/

variable [MediaEngine ε] {host last : Host ε}

end Host

end RoomCall
