import Mathlib.Data.List.Nodup
import RoomCall.Proofs.Phone.Provenance

/-!
# Networks of phones

Any number of devices, each with a phone of some user, hear nothing but what one of them has sent:
under the name of its user, and in the room it was sent to. Whether, when, how often and where
something is heard is left open. All other occurrences happen as they like.

A network remembers what was sent, the calls that its devices have had, and the names that were
generated for them.
-/

namespace RoomCall

variable {ι ε : Type}

/-- The room in which an occurrence starts a call. -/
def Occurrence.started? : Occurrence → Option Membership
  | .startCall membership => some membership
  | _ => none

/-- Whether an occurrence is the user's wish to start a call. -/
def Occurrence.starts (occurrence : Occurrence) : Bool :=
  occurrence.started?.isSome

/-- Something that a device has sent. -/
structure Dispatch (ι : Type) where
  device : ι
  room : RoomId
  signal : OutgoingSignal

namespace Dispatch

/-- What can be read from something that was sent. -/
def message (dispatch : Dispatch ι) : Except SignalError Message :=
  Message.read dispatch.signal.kind dispatch.signal.content

/-- A signal is what a device has sent, under the name of its user and in the same room. -/
structure Brings (user : ι → UserId) (dispatch : Dispatch ι) (membership : Membership)
    (signal : Signal) : Prop where
  room : dispatch.room = membership.room
  sender : user dispatch.device = signal.sender
  message : dispatch.message = .ok signal.message

instance (user : ι → UserId) (dispatch : Dispatch ι) (membership : Membership) (signal : Signal) :
    Decidable (dispatch.Brings user membership signal) :=
  decidable_of_iff (dispatch.room = membership.room ∧ user dispatch.device = signal.sender ∧
      dispatch.message = .ok signal.message)
    ⟨fun ⟨room, sender, message⟩ => ⟨room, sender, message⟩,
      fun ⟨room, sender, message⟩ => ⟨room, sender, message⟩⟩

end Dispatch

/-- A call that a device has come to have, with its names. The name of the party was generated then;
the name of the call was generated if the device has started it. -/
structure Opening (ι : Type) where
  device : ι
  call : CallId
  party : PartyId
  started : Bool

/-- Devices with their phones, and what has happened to them. -/
structure Network (ι ε : Type) where
  phones : ι → Phone ε
  histories : ι → Phone.History := fun _ => {}
  sent : List (Dispatch ι) := []
  /-- The calls that the devices had, as they were after each occurrence. -/
  calls : List (ι × Call ε) := []
  openings : List (Opening ι) := []

namespace Network

/-- What can happen to a device: it starts calls for its user, and it hears what was sent. -/
structure Admits (network : Network ι ε) (user : ι → UserId) (device : ι)
    (occurrence : Occurrence) : Prop where
  starts : ∀ membership ∈ occurrence.started?, membership.localUser = user device
  hears : ∀ heard ∈ occurrence.signal?, heard.1.localUser = user device ∧
    ∃ dispatch ∈ network.sent, dispatch.Brings user heard.1 heard.2

instance (network : Network ι ε) (user : ι → UserId) (device : ι) (occurrence : Occurrence) :
    Decidable (network.Admits user device occurrence) :=
  decidable_of_iff ((∀ membership ∈ occurrence.started?, membership.localUser = user device) ∧
      ∀ heard ∈ occurrence.signal?, heard.1.localUser = user device ∧
        ∃ dispatch ∈ network.sent, dispatch.Brings user heard.1 heard.2)
    ⟨fun ⟨starts, hears⟩ => ⟨starts, hears⟩, fun ⟨starts, hears⟩ => ⟨starts, hears⟩⟩

variable [DecidableEq ι]

/-- The network after its owner has taken entries off the log of a device. -/
def read (network : Network ι ε) (device : ι) (rest : List LogEntry) : Network ι ε :=
  { network with
    phones := fun other =>
      if other = device then { network.phones device with log := rest } else network.phones other }

variable [MediaEngine ε]

/-- The network after an occurrence at a device. -/
def after (network : Network ι ε) (device : ι) (now : Instant) (occurrence : Occurrence) :
    Network ι ε :=
  let before := network.phones device
  let next := before.after now occurrence
  let current := next.call.toList
  { phones := fun other => if other = device then next else network.phones other
    histories := fun other =>
      if other = device then (network.histories device).next before next occurrence
      else network.histories other
    sent := network.sent ++ (LogEntry.sends (Phone.written before next)).map fun sent =>
      ⟨device, sent.1, sent.2⟩
    calls := network.calls ++ current.map fun call => (device, call)
    openings := network.openings ++
      if before.call.isNone then
        current.map fun call => ⟨device, call.id, call.party, occurrence.starts⟩
      else [] }

/-- A network that can be reached from new phones. -/
inductive Reached (user : ι → UserId) : Network ι ε → Prop where
  | new {phones : ι → Phone ε} (new : ∀ device, (phones device).IsNew) :
      Reached user { phones := phones }
  /-- Something happens to a device. -/
  | after {network : Network ι ε} (reached : Reached user network) (device : ι) (now : Instant)
      (occurrence : Occurrence) (admits : network.Admits user device occurrence) :
      Reached user (network.after device now occurrence)
  /-- The owner of a device takes entries off its log. -/
  | read {network : Network ι ε} (reached : Reached user network) (device : ι)
      (rest : List LogEntry) : Reached user (network.read device rest)

/-- The network after some occurrences, if each of them could happen. -/
def follow? (user : ι → UserId) (network : Network ι ε) :
    List (ι × Instant × Occurrence) → Option (Network ι ε)
  | [] => some network
  | (device, now, occurrence) :: later =>
      if network.Admits user device occurrence then
        follow? user (network.after device now occurrence) later
      else
        none

theorem reached_follow? {user : ι → UserId} {network last : Network ι ε}
    (reached : network.Reached user) {occurrences : List (ι × Instant × Occurrence)}
    (followed : network.follow? user occurrences = some last) : last.Reached user := by
  induction occurrences generalizing network with
  | nil =>
      rcases Option.some.inj followed with rfl
      exact reached
  | cons entry later ih =>
      rw [follow?] at followed
      split at followed
      · rename_i admits
        exact ih (reached.after entry.1 entry.2.1 entry.2.2 admits) followed
      · cases followed

omit [DecidableEq ι] [MediaEngine ε] in
/-- No two calls were started under one name, and no party has the name of another. -/
structure Distinct (network : Network ι ε) : Prop where
  calls : ((network.openings.filter Opening.started).map Opening.call).Nodup
  parties : (network.openings.map Opening.party).Nodup

/-- A network that remembers everything that another one does. -/
structure Extends (network next : Network ι ε) : Prop where
  sent : network.sent ⊆ next.sent
  calls : network.calls ⊆ next.calls
  openings : network.openings ⊆ next.openings

end Network

end RoomCall
