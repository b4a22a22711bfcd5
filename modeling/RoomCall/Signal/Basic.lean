import RoomCall.Announcement
import RoomCall.Candidate
import RoomCall.Room

/-!
# The messages of a call

A call is set up by five kinds of messages: an invite with an offer, batches of candidates, an
answer, new descriptions during the call, and a hangup. Each message names its call and may name
the party that sent it. Together with the sender and the time of the room event that carried it, a
message is a signal.
-/

namespace RoomCall

/-- The kinds of messages. -/
inductive SignalKind where
  | invite
  | candidates
  | answer
  | negotiate
  | hangup
  deriving DecidableEq, Inhabited, Repr

namespace SignalKind

def all : List SignalKind := [.invite, .candidates, .answer, .negotiate, .hangup]

/-- The type of the events that carry messages of a kind. -/
def eventType : SignalKind → String
  | .invite => "m.call.invite"
  | .candidates => "m.call.candidates"
  | .answer => "m.call.answer"
  | .negotiate => "m.call.negotiate"
  | .hangup => "m.call.hangup"

/-- The kind of message that events of a type carry. -/
def ofEventType? (type : String) : Option SignalKind :=
  all.find? fun kind => kind.eventType = type

end SignalKind

/-- What the streams of a description are for: a purpose for each stream name. -/
abbrev Purposes := List (String × String)

/-- Offers a call. -/
structure Invite where
  call : CallId
  party : Option PartyId
  description : String
  lifetime : Duration
  purposes : Purposes
  deriving DecidableEq, Repr

/-- Adds candidates, in the order in which they were found. -/
structure CandidateBatch where
  call : CallId
  party : Option PartyId
  candidates : List Candidate
  deriving DecidableEq, Repr

/-- Answers an offer. -/
structure Answer where
  call : CallId
  party : Option PartyId
  description : String
  purposes : Purposes
  deriving DecidableEq, Repr

/-- Offers a new description during a call, or answers one. -/
structure Renegotiation where
  call : CallId
  party : Option PartyId
  description : String
  isAnswer : Bool
  purposes : Purposes
  deriving DecidableEq, Repr

/-- Ends a call. -/
structure Hangup where
  call : CallId
  party : Option PartyId
  cause : Option HangupCause
  deriving DecidableEq, Repr

/-- A message of a call. -/
inductive Message where
  | invite (content : Invite)
  | candidates (content : CandidateBatch)
  | answer (content : Answer)
  | negotiate (content : Renegotiation)
  | hangup (content : Hangup)
  deriving DecidableEq, Repr

namespace Message

/-- The call that a message belongs to. -/
def call : Message → CallId
  | .invite content => content.call
  | .candidates content => content.call
  | .answer content => content.call
  | .negotiate content => content.call
  | .hangup content => content.call

/-- The party that sent a message, if it is named. -/
def party : Message → Option PartyId
  | .invite content => content.party
  | .candidates content => content.party
  | .answer content => content.party
  | .negotiate content => content.party
  | .hangup content => content.party

/-- The kind of a message. -/
def kind : Message → SignalKind
  | .invite _ => .invite
  | .candidates _ => .candidates
  | .answer _ => .answer
  | .negotiate _ => .negotiate
  | .hangup _ => .hangup

end Message

/-- A message with the sender and the time of the event that carried it. -/
structure Signal where
  sender : UserId
  sentAt : Instant
  message : Message
  deriving DecidableEq, Repr

end RoomCall
