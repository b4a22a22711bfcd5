import RoomCall.Host.Run
import RoomCall.Proofs.Phone.RelayRequests
import RoomCall.Proofs.Phone.Sending

/-!
# What a host writes down

A host keeps everything that its phone writes, the replies that it gives and the events that it
tries. What the phone has ordered so far, what has been queued and what has been tried can all be
read off its log.

This file says what the moves of a host write and do; later files use these statements and not the
definitions.
-/

namespace RoomCall

variable {ε : Type}

/-- An event that was tried, with the moment at which that was. -/
structure Try where
  moment : Moment
  parcel : Parcel
  delivered : Bool

/-- A timer after an entry of the phone's log. -/
def Timer.wind (clock : Moment) (timer : Option Timer) : LogEntry → Option Timer
  | .errand (.armTimer call lifetime) => some ⟨clock + lifetime.milliseconds, call⟩
  | .errand .cancelTimer => none
  | _ => timer

namespace Host

/-! ## Reading the log -/

/-- What the phone has written, in order. -/
def written (log : List (Moment × HostEntry)) : List LogEntry :=
  log.filterMap fun entry =>
    match entry.2 with
    | .phone entry => some entry
    | _ => none

/-- The events that were queued, in order, with the moments at which they were. -/
def queued (log : List (Moment × HostEntry)) : List (Moment × Parcel) :=
  log.filterMap fun entry =>
    match entry.2 with
    | .phone (.errand (.send room signal)) => some (entry.1, ⟨room, signal⟩)
    | _ => none

/-- The events that were tried, in order. -/
def tries (log : List (Moment × HostEntry)) : List Try :=
  log.filterMap fun entry =>
    match entry.2 with
    | .tried parcel delivered => some ⟨entry.1, parcel, delivered⟩
    | _ => none

/-- The events that some entries of the phone's log ask to be sent. -/
def parcels (entries : List LogEntry) : List Parcel :=
  (LogEntry.sends entries).map fun sent => ⟨sent.1, sent.2⟩

/-- The entries of a phone's log as the host keeps them. -/
def stamped (clock : Moment) (entries : List LogEntry) : List (Moment × HostEntry) :=
  entries.map fun entry => (clock, .phone entry)

section

variable (first second log : List (Moment × HostEntry)) (clock : Moment) (entries : List LogEntry)

@[simp]
theorem written_append : written (first ++ second) = written first ++ written second :=
  List.filterMap_append

@[simp]
theorem queued_append : queued (first ++ second) = queued first ++ queued second :=
  List.filterMap_append

@[simp]
theorem tries_append : tries (first ++ second) = tries first ++ tries second :=
  List.filterMap_append

@[simp]
theorem parcels_append (first second : List LogEntry) :
    parcels (first ++ second) = parcels first ++ parcels second := by
  simp [parcels]

@[simp]
theorem written_stamped : written (stamped clock entries) = entries := by
  rw [written, stamped, List.filterMap_map]
  exact List.filterMap_some

@[simp]
theorem tries_stamped : tries (stamped clock entries) = [] := by
  simp [tries, stamped]

@[simp]
theorem queued_stamped :
    queued (stamped clock entries) = (parcels entries).map fun parcel => (clock, parcel) := by
  rw [queued, stamped, List.filterMap_map, parcels, LogEntry.sends, List.map_map,
    List.map_filterMap]
  congr 1
  funext entry
  rcases entry with errand | announcement | traffic
  · cases errand <;> rfl
  · rfl
  · rfl

@[simp]
theorem queued_replied (command : Command) (outcome : Except PhoneError Reply) :
    queued [(clock, .replied command outcome)] = [] := rfl

@[simp]
theorem tries_replied (command : Command) (outcome : Except PhoneError Reply) :
    tries [(clock, .replied command outcome)] = [] := rfl

@[simp]
theorem queued_tried (parcel : Parcel) (delivered : Bool) :
    queued [(clock, .tried parcel delivered)] = [] := rfl

@[simp]
theorem tries_tried (parcel : Parcel) (delivered : Bool) :
    tries [(clock, .tried parcel delivered)] = [⟨clock, parcel, delivered⟩] := rfl

end

/-! ## Carrying out what the phone has ordered -/

/-- The host after it has carried out some entries of the phone's log. -/
def keeping (host : Host ε) (entries : List LogEntry) : Host ε :=
  { host with
    callbacks := host.callbacks ++ Phone.callbacks entries
    timer := entries.foldl (Timer.wind host.clock) host.timer
    relayRequests := host.relayRequests + LogEntry.relayRequests entries
    outbox := { host.outbox with parcels := host.outbox.parcels ++ parcels entries }
    log := host.log ++ stamped host.clock entries }

theorem keeping_nil (host : Host ε) : host.keeping [] = host := by
  simp [keeping, Phone.callbacks, parcels, stamped]

theorem keeping_append (host : Host ε) (first second : List LogEntry) :
    host.keeping (first ++ second) = (host.keeping first).keeping second := by
  simp [keeping, Phone.callbacks, stamped, Nat.add_assoc]

/-- To carry out what an entry asks for is to keep the entry. -/
theorem carryOut_eq (host : Host ε) (entry : LogEntry) :
    host.carryOut entry = host.keeping [entry] := by
  cases entry with
  | errand errand =>
      cases errand <;> simp [carryOut, carryOutErrand, record, keeping, Phone.callbacks, parcels,
        stamped, Outbox.push, Timer.wind, LogEntry.relayRequests, LogEntry.isRelayRequest]
  | announcement =>
      simp [carryOut, record, keeping, Phone.callbacks, parcels, stamped, Timer.wind,
        LogEntry.relayRequests, LogEntry.isRelayRequest]
  | traffic session content =>
      cases content <;> simp [carryOut, record, keeping, Phone.callbacks, parcels, stamped,
        Timer.wind, LogEntry.sends, LogEntry.relayRequests, LogEntry.isRelayRequest]

/-- A host keeps the entries of its phone one by one. -/
theorem foldl_carryOut (host : Host ε) (entries : List LogEntry) :
    entries.foldl carryOut host = host.keeping entries := by
  induction entries generalizing host with
  | nil => exact (keeping_nil host).symm
  | cons entry later ih =>
      rw [List.foldl_cons, ih, carryOut_eq, ← keeping_append, List.singleton_append]

variable [MediaEngine ε]

/-- A host lets its phone deal with an occurrence and then keeps what the phone has written. -/
theorem perform_fst (host : Host ε) (now : Instant) (occurrence : Occurrence) :
    (host.perform now occurrence).1 =
      ({ host with phone := (host.phone.after now occurrence).takeLog.1 } : Host ε).keeping
        (host.phone.after now occurrence).log :=
  foldl_carryOut _ _

@[simp]
theorem closing_perform (host : Host ε) (now : Instant) (occurrence : Occurrence) :
    (host.perform now occurrence).1.closing = host.closing := by
  rw [perform_fst]
  rfl

/-! ## What a turn comes to -/

/-- The host with other things before it. -/
def facing (host : Host ε) (callbacks : List (SessionId × Engine.Callback))
    (findings : List Finding) (commands : List Command)
    (arrivals : List (Membership × TimelineEvent)) : Host ε :=
  { host with
    callbacks := callbacks, findings := findings, commands := commands, arrivals := arrivals }

/-- What a host does in one turn: nothing, or it hands something on to its phone, or it follows a
command. -/
inductive Turns (host : Host ε) (now : Instant) : Host ε → Prop where
  | rests : Turns host now host
  | hears {callbacks : List (SessionId × Engine.Callback)} {findings : List Finding}
      {commands : List Command} {arrivals : List (Membership × TimelineEvent)}
      (occurrence : Occurrence) (working : host.closing = false) :
      Turns host now
        ((host.facing callbacks findings commands arrivals).perform now occurrence).1
  | follows {callbacks : List (SessionId × Engine.Callback)} {findings : List Finding}
      {commands : List Command} {arrivals : List (Membership × TimelineEvent)}
      {command : Command} (occurrence : Occurrence) (outcome : Except PhoneError Reply)
      (working : host.closing = false) :
      Turns host now
        (((host.facing callbacks findings commands arrivals).perform now occurrence).1.record
          (.replied command outcome))
  | closes {callbacks : List (SessionId × Engine.Callback)} {findings : List Finding}
      {commands : List Command} {arrivals : List (Membership × TimelineEvent)}
      (working : host.closing = false) (asked : host.commands.head? = some .shutDown) :
      Turns host now ((host.facing callbacks findings commands arrivals).close now)

/-- A turn does one of the things that a turn can do. -/
theorem turns_turn (host : Host ε) (now : Instant) : host.Turns now (host.turn now) := by
  unfold turn
  split
  · exact .rests
  · rename_i working
    rw [Bool.not_eq_true] at working
    split
    · exact .hears _ working
    · exact .hears _ working
    · rename_i command later _ _ commands
      cases followed : command.occurrence? with
      | some occurrence =>
          have is : ({ host with commands := later } : Host ε).follow now command =
              (({ host with commands := later } : Host ε).perform now occurrence).1.record
                (.replied command
                  (({ host with commands := later } : Host ε).perform now occurrence).2) := by
            simp [follow, followed]
          rw [is]
          exact .follows _ _ working
      | none =>
          have shutDown : command = .shutDown := by cases command <;> simp_all [Command.occurrence?]
          have is : ({ host with commands := later } : Host ε).follow now command =
              ({ host with commands := later } : Host ε).close now := by
            simp [follow, followed]
          rw [is]
          exact .closes working (by simp [commands, shutDown])
    · exact .hears _ working
    · exact .rests

end Host

end RoomCall
