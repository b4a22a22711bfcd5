import RoomCall.Proofs.Host.Log
import RoomCall.Proofs.Phone.Chronicle
import RoomCall.Proofs.Phone.Log

/-!
# The phone of a host

What holds of a host at first and is kept by every move holds after every run. The phone of a host
is a phone like any other: leaving aside that the host takes its log each time, all that has
happened to it since the host was started is a run of the phone, and the host has kept the log of
that run.
-/

namespace RoomCall

variable {ε : Type}

namespace Host

variable [MediaEngine ε]

/-- A run can be split at any place. -/
theorem run?_append (host : Host ε) (earlier later : List Move) :
    host.run? (earlier ++ later) = (host.run? earlier).bind fun between => between.run? later := by
  induction earlier generalizing host with
  | nil => rfl
  | cons move rest ih =>
      rw [List.cons_append, run?, run?]
      split
      · exact ih _
      · rfl

/-- The phone of a host came about from another one in a run, and the host has kept the log. -/
structure Plays (first : Phone ε) (log : List (Moment × HostEntry)) (phone : Phone ε) : Prop where
  quiet : phone.log = []
  coherent : phone.Coherent
  played : ∃ occurrences, first.run occurrences = { phone with log := written log }

/-- Something happens to the phone, and the host takes the log. -/
theorem Plays.after {first phone : Phone ε} {log : List (Moment × HostEntry)}
    (plays : Plays first log phone) (clock : Moment) (now : Instant) (occurrence : Occurrence) :
    Plays first (log ++ stamped clock (phone.after now occurrence).log)
      (phone.after now occurrence).takeLog.1 where
  quiet := rfl
  coherent := (Phone.coherent_of_move (Phone.move_after plays.coherent now occurrence)
    plays.coherent).withLog _
  played := by
    obtain ⟨occurrences, played⟩ := plays.played
    refine ⟨occurrences ++ [(now, occurrence)], ?_⟩
    -- The run writes behind what the host has kept already, and that makes no difference to it.
    have behind : { phone with log := written log } = phone.preceded (written log) := by
      rw [Phone.preceded, plays.quiet, List.append_nil]
    rw [written_append, written_stamped]
    calc first.run (occurrences ++ [(now, occurrence)])
        = (first.run occurrences).after now occurrence := Phone.run_concat ..
      _ = (phone.preceded (written log)).after now occurrence := by rw [played, behind]
      _ = (phone.after now occurrence).preceded (written log) :=
        congrArg Prod.fst (Phone.handle_preceded (written log) now occurrence)

/-- What a host hands to its phone is one more occurrence of the run, and what the phone writes is
kept. -/
theorem Plays.perform {first : Phone ε} {host : Host ε}
    (plays : Plays first host.log host.phone) (now : Instant) (occurrence : Occurrence) :
    Plays first (host.perform now occurrence).1.log (host.perform now occurrence).1.phone := by
  rw [perform_fst]
  exact plays.after host.clock now occurrence

theorem Plays.write {first phone : Phone ε} {log more : List (Moment × HostEntry)}
    (plays : Plays first log phone) (silent : written more = []) :
    Plays first (log ++ more) phone where
  quiet := plays.quiet
  coherent := plays.coherent
  played := by rw [written_append, silent, List.append_nil]; exact plays.played

/-- A turn continues the run of the phone. -/
theorem Plays.turn {first : Phone ε} {host : Host ε} (plays : Plays first host.log host.phone)
    (now : Instant) : Plays first (host.turn now).log (host.turn now).phone := by
  have turns := turns_turn host now
  generalize host.turn now = turned at turns ⊢
  cases turns with
  | rests => exact plays
  | @hears callbacks findings commands arrivals occurrence =>
      exact @Plays.perform _ _ _ (host.facing callbacks findings commands arrivals) plays now
        occurrence
  | @follows callbacks findings commands arrivals command occurrence outcome =>
      exact (@Plays.perform _ _ _ (host.facing callbacks findings commands arrivals) plays now
        occurrence).write rfl
  | @closes callbacks findings commands arrivals =>
      exact @Plays.perform _ _ _ (host.facing callbacks findings commands arrivals) plays now
        .hangUp

theorem Plays.plug {first phone : Phone ε} {log : List (Moment × HostEntry)}
    (plays : Plays first log phone) (change : Hotplug) : Plays first log (phone.plug change) where
  quiet := plays.quiet
  coherent := Phone.coherent_of_move (Phone.move_after plays.coherent 0 (.plug change))
    plays.coherent
  played := by
    obtain ⟨occurrences, played⟩ := plays.played
    refine ⟨occurrences ++ [(0, .plug change)], ?_⟩
    calc first.run (occurrences ++ [(0, .plug change)])
        = (first.run occurrences).after 0 (.plug change) := Phone.run_concat ..
      _ = { phone.plug change with log := written log } := by rw [played]; rfl

end Host

end RoomCall
