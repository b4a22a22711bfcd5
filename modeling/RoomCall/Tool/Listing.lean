import RoomCall.Json.Printer
import RoomCall.Json.Reader
import RoomCall.Signal.Reading

/-!
# Listings of events

A file holds one event or an array of them. Each event that carries a signal is listed on a line
of its own, with a summary of its message; the others are reported as failures.
-/

namespace RoomCall.Tool

/-- A message in a few words. -/
def summary : Message → String
  | .invite content => "offer, lifetime " ++ toString content.lifetime.milliseconds ++ "ms"
  | .candidates content => toString content.candidates.length ++ " candidate(s)"
  | .answer _ => "answer"
  | .negotiate content => if content.isAnswer then "renegotiation answer" else "renegotiation offer"
  | .hangup content =>
      match content.cause with
      | some cause => "hangup (" ++ cause.title ++ ")"
      | none => "hangup"

/-- The line for a signal. -/
def listed (signal : Signal) : String :=
  Json.compact (.object
    [("event_type", .string signal.message.kind.eventType),
      ("sender", .string signal.sender.text),
      ("call_id", .string signal.message.call.text),
      ("party_id", Json.ofText? (signal.message.party.map PartyId.text)),
      ("summary", .string (summary signal.message))])

/-- The events that a value holds: one, or those of an array. -/
def events? : Json → Option (List TimelineEvent)
  | .array items => items.mapM TimelineEvent.ofJson?
  | value => (TimelineEvent.ofJson? value).map fun event => [event]

/-- The lines for the events that carry signals, in order. -/
def listing (events : List TimelineEvent) : List String :=
  events.filterMap fun event => (Signal.ofEvent event).toOption.map listed

/-- The events that carry no signal, each with the reason, in order. -/
def undecoded (events : List TimelineEvent) : List (EventId × SignalError) :=
  events.filterMap fun event =>
    match Signal.ofEvent event with
    | .ok _ => none
    | .error error => some (event.id, error)

end RoomCall.Tool
