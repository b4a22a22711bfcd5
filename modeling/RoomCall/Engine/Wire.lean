import RoomCall.Engine.Rehearsal

/-!
# Wire forms around engines

Requests are written down for reports. Pipelines, faults, scripts and rehearsals are read from
configurations, where everything that may be left out has a usual value.
-/

namespace RoomCall.Engine

def Fault.ofJson? (value : Json) : Option Fault :=
  match Json.case? value with
  | some ("DeviceNotFound", some content) => (Json.text? content).map .deviceNotFound
  | some ("PipelineError", some content) => (Json.text? content).map .pipelineError
  | some ("InvalidDescription", some content) => (Json.text? content).map .invalidDescription
  | some ("NotRunning", content) => (Json.noContent? content).map fun _ => .notRunning
  | _ => none

def Pipeline.ofJson? (value : Json) : Option Pipeline := do
  let fields ← Json.fields? ["turn_uris", "audio_device", "video_device"] value
  let relays ← fields.defaulted "turn_uris" (Json.list? Json.text?) []
  let microphone ← fields.defaulted "audio_device" (Json.nullable? Json.text?) none
  let camera ← fields.defaulted "video_device" (Json.nullable? Json.text?) none
  return ⟨relays, microphone, camera⟩

def Pipeline.toJson (pipeline : Pipeline) : Json :=
  Json.ofMembers
    [("turn_uris", .array (pipeline.relays.map Json.string)),
      ("audio_device", Json.ofText? pipeline.microphone),
      ("video_device", Json.ofText? pipeline.camera)]

def Request.toJson : Request → Json
  | .build pipeline => .object [("build", pipeline.toJson)]
  | .offer => .string "request_offer"
  | .answer => .string "request_answer"
  | .applyRemote kind description =>
      .object [("apply_remote", Json.ofMembers
        [("kind", kind.toJson), ("sdp", .string description)])]
  | .addCandidates candidates =>
      .object [("add_candidates", .array (candidates.map Candidate.toJson))]
  | .finish => .string "end"
  | .setMuted muted => .object [("set_muted", .boolean muted)]
  | .toggleCamera => .string "toggle_camera"

def Script.ofJson? (value : Json) : Option Script := do
  let usual : Script := {}
  let fields ← Json.fields? ["offer", "answer", "candidates", "connects"] value
  let offer ← fields.defaulted "offer" Json.text? usual.offer
  let answer ← fields.defaulted "answer" Json.text? usual.answer
  let candidates ← fields.defaulted "candidates" (Json.list? Candidate.ofJson?) usual.candidates
  let connects ← fields.defaulted "connects" Json.boolean? usual.connects
  return ⟨offer, answer, candidates, connects⟩

def Refusals.ofJson? (value : Json) : Option Refusals := do
  let fields ← Json.fields? ["fail_build", "fail_apply", "fail_mute", "fail_camera"] value
  let build ← fields.defaulted "fail_build" (Json.nullable? Fault.ofJson?) none
  let applyRemote ← fields.defaulted "fail_apply" (Json.nullable? Fault.ofJson?) none
  let mute ← fields.defaulted "fail_mute" (Json.nullable? Fault.ofJson?) none
  let camera ← fields.defaulted "fail_camera" (Json.nullable? Fault.ofJson?) none
  return ⟨build, applyRemote, mute, camera⟩

/-- Reads a rehearsal engine: it is scripted unless it is told to be silent. -/
def Rehearsal.ofJson? (value : Json) : Option Rehearsal := do
  let fields ← Json.fields? ["mode"] value
  let mode ← fields.defaulted "mode" (Json.nullable? Json.text?) none
  let script ← Script.ofJson? value
  let refusals ← Refusals.ofJson? value
  let player := if mode = some "silent" then .silent {} else .scripted { script := script }
  return ⟨player, refusals⟩

end RoomCall.Engine
