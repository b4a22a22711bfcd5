import RoomCall.Engine.Wire
import RoomCall.Phone.Snapshot
import RoomCall.Signal.Reading

/-!
# Reports on phones

What a phone and its negotiations do is written down as JSON values: messages as they were read,
notices, errands, and the state of a phone with everything that a snapshot leaves out.
-/

namespace RoomCall

/-- A party, or null where none is known. -/
def PartyId.toJson? (party : Option PartyId) : Json :=
  Json.ofText? (party.map PartyId.text)

/-- A message with everything that was read. -/
def Message.toJson (message : Message) : Json :=
  let content := match message with
    | .invite content =>
        [("sdp", .string content.description),
          ("lifetime_ms", .ofNat content.lifetime.milliseconds),
          ("metadata", Wire.purposesToJson content.purposes)]
    | .candidates content => [("candidates", .array (content.candidates.map Candidate.toJson))]
    | .answer content =>
        [("sdp", .string content.description),
          ("metadata", Wire.purposesToJson content.purposes)]
    | .negotiate content =>
        [("sdp", .string content.description), ("is_answer", .boolean content.isAnswer),
          ("metadata", Wire.purposesToJson content.purposes)]
    | .hangup content => [("reason", (content.cause.map HangupCause.toJson).getD .null)]
  Json.ofMembers <|
    [("call_id", .string message.call.text), ("party_id", PartyId.toJson? message.party)] ++ content

def Notice.toJson : Notice → Json
  | .offerCreated description candidates =>
      .object [("OfferCreated", described description candidates)]
  | .answerCreated description candidates =>
      .object [("AnswerCreated", described description candidates)]
  | .renegotiate description kind =>
      .object [("Renegotiate", Json.ofMembers
        [("sdp", .string description), ("kind", kind.toJson)])]
  | .progressChanged stage => .object [("StateChanged", stage.toJson)]
  | .remoteVideo user => .object [("RemoteVideo", .string user.text)]
  | .failed ending => .object [("Failed", ending.toJson)]
where
  described (description : String) (candidates : List Candidate) : Json :=
    Json.ofMembers
      [("sdp", .string description), ("candidates", .array (candidates.map Candidate.toJson))]

def Errand.toJson : Errand → Json
  | .send room signal =>
      .object [("send", Json.ofMembers
        [("room_id", .string room.text), ("event_type", .string signal.kind.eventType),
          ("content", signal.content), ("stream_ids", .array (signal.streams.map Json.string))])]
  | .refreshRelay => .string "refresh_turn"
  | .armTimer call lifetime =>
      .object [("arm_invite_timer", Json.ofMembers
        [("call_id", .string call.text), ("lifetime_ms", .ofNat lifetime.milliseconds)])]
  | .cancelTimer => .string "cancel_invite_timer"

/-- The state of a phone: its snapshot, what is known about its call, and what is held back. -/
def Phone.toJson {ε : Type} [MediaEngine ε] (phone : Phone ε) : Json :=
  let call := phone.call
  Json.ofMembers <| phone.snapshot.members ++
    [("remote_party", PartyId.toJson? (call >>= Call.remoteParty)),
      ("local_party", PartyId.toJson? (call.map Call.party)),
      ("lifetime_ms", (call.map fun call => Json.ofNat call.lifetime.milliseconds).getD .null),
      ("has_session", .boolean phone.negotiation?.isSome),
      ("pending_sdp", .boolean (call >>= Call.heldDescription).isSome),
      ("pending_candidates", .ofNat ((call.map fun call => call.heldCandidates.length).getD 0)),
      ("turn_uris", .array (phone.relay.uris.map Json.string))]

end RoomCall
