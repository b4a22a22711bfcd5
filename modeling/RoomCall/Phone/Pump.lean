import RoomCall.Phone.Run

/-!
# Pumping callbacks

The callbacks that engines post wait in a queue until somebody hands them over. A pump hands over
one after the other, also those that are posted meanwhile, until the queue is empty or a given
number has been handed over. It gathers what came of it.
-/

namespace RoomCall

/-- The callbacks in some traffic, in order. -/
def Traffic.callbacks (traffic : List Traffic) : List Engine.Callback :=
  traffic.filterMap fun entry =>
    match entry with
    | .callback content => some content
    | .request _ => none

/-- The requests in some traffic, in order. -/
def Traffic.requests (traffic : List Traffic) : List Engine.Request :=
  traffic.filterMap fun entry =>
    match entry with
    | .request content => some content
    | .callback _ => none

/-- A negotiation with the callbacks of its engine that wait, and what came of those that were
handed over. -/
structure PumpedNegotiation (ε : Type) where
  negotiation : Negotiation ε
  queue : List Engine.Callback := []
  notices : List Notice := []
  traffic : List Traffic := []

namespace PumpedNegotiation

variable {ε : Type}

/-- Takes the traffic of the negotiation, with the callbacks in it into the queue. -/
def gather (pumped : PumpedNegotiation ε) : PumpedNegotiation ε :=
  let (quiet, traffic) := pumped.negotiation.collect
  { pumped with
    negotiation := quiet
    queue := pumped.queue ++ Traffic.callbacks traffic
    traffic := pumped.traffic ++ traffic }

/-- Hands over callbacks, at most `limit`. -/
def pump [MediaEngine ε] : Nat → PumpedNegotiation ε → PumpedNegotiation ε
  | 0, pumped => pumped
  | limit + 1, pumped =>
      match pumped.queue with
      | [] => pumped
      | callback :: queue =>
          let (negotiation, notices) := pumped.negotiation.handle callback
          pump limit
            { pumped with
              negotiation := negotiation
              queue := queue
              notices := pumped.notices ++ notices }.gather

end PumpedNegotiation

/-- A phone with the callbacks of its engines that wait, what came of those that were handed over,
and their number. -/
structure PumpedPhone (ε : Type) where
  phone : Phone ε
  queue : List (SessionId × Engine.Callback) := []
  entries : List LogEntry := []
  count : Nat := 0

namespace PumpedPhone

variable {ε : Type}

/-- Takes the log of the phone, with the callbacks in it into the queue. -/
def gather (pumped : PumpedPhone ε) : PumpedPhone ε :=
  let (quiet, entries) := pumped.phone.takeLog
  { pumped with
    phone := quiet
    queue := pumped.queue ++ Phone.callbacks entries
    entries := pumped.entries ++ entries }

/-- Hands over callbacks, at most `limit`. -/
def pump [MediaEngine ε] (now : Instant) : Nat → PumpedPhone ε → PumpedPhone ε
  | 0, pumped => pumped
  | limit + 1, pumped =>
      match pumped.queue with
      | [] => pumped
      | (session, callback) :: queue =>
          pump now limit
            { pumped with
              phone := pumped.phone.after now (.callback session callback)
              queue := queue
              count := pumped.count + 1 }.gather

end PumpedPhone

end RoomCall
