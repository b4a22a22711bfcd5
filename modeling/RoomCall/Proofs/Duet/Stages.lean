import RoomCall.Proofs.Duet.Letters
import RoomCall.Proofs.Phone.Provenance
import RoomCall.Proofs.Phone.Steadiness

/-!
# How far a device has come

`Duet.Stage` lists where a device can stand in the call, together with how much it has heard of the
other side, whether it has said its own things, and which callbacks wait at it. A device answers
first and calls second, or the other way round, but what it keeps in between is the same, so one list
serves both. What happens to a phone brings it from one of these stages to another.
-/

namespace RoomCall

open Engine (Scripted Script)

/-! ## Callbacks in a log -/

namespace Phone

@[simp]
theorem callbacks_nil : callbacks [] = [] := rfl

@[simp]
theorem callbacks_append (first second : List LogEntry) :
    callbacks (first ++ second) = callbacks first ++ callbacks second :=
  List.filterMap_append

@[simp]
theorem callbacks_errand (errand : Errand) (later : List LogEntry) :
    callbacks (.errand errand :: later) = callbacks later := rfl

@[simp]
theorem callbacks_announcement (content : Announcement) (later : List LogEntry) :
    callbacks (.announcement content :: later) = callbacks later := rfl

@[simp]
theorem callbacks_traffic (session : SessionId) (contents : List Traffic) :
    callbacks (contents.map (LogEntry.traffic session)) =
      (Traffic.callbacks contents).map (session, ·) := by
  induction contents with
  | nil => rfl
  | cons content later ih =>
      cases content with
      | request content => exact ih
      | callback content => exact congrArg ((session, content) :: ·) ih

@[simp]
theorem callbacks_stageEntries (notices : List Notice) : callbacks (stageEntries notices) = [] :=
  List.filterMap_eq_nil_iff.mpr (forall_mem_stageEntries (fun _ => rfl) _)

@[simp]
theorem callbacks_phaseEntries (before after : Phase) :
    callbacks (phaseEntries before after) = [] :=
  List.filterMap_eq_nil_iff.mpr (forall_mem_phaseEntries (fun _ => rfl) _ _)

@[simp]
theorem callbacks_rosterEntries (before after : Roster) :
    callbacks (rosterEntries before after) = [] := by
  apply List.filterMap_eq_nil_iff.mpr
  apply forall_mem_rosterEntries
  rfl

@[simp]
theorem callbacks_descriptionEntries {ε : Type} (phone : Phone ε) (call : Call ε)
    (description : String) (candidates : List Candidate) (side : Role) :
    callbacks (phone.descriptionEntries call description candidates side) = [] :=
  List.filterMap_eq_nil_iff.mpr
    (Phone.forall_mem_descriptionEntries (fun _ => rfl) _ _ _ _ _)

end Phone

namespace Duet

variable (duet : Duet) (id : CallId)

/-! ## Stages -/

/-- The candidates of a side among the first things that it said. -/
def found (side : Role) (heard : Nat) : List Candidate :=
  if 2 ≤ heard then (duet.script side).candidates else []

/-- A call is the one between the two sides. Its other party is known once something was heard. -/
structure Joins (side : Role) (heard : Nat) (call : Call Scripted) : Prop where
  identity : call.identity =
    ⟨id, duet.room, duet.party side, duet.user side, duet.user side.other⟩
  remoteParty : call.remoteParty = if heard = 0 then none else some (duet.party side.other)

/-- A call holds back everything that was heard. -/
structure Holds (side : Role) (heard : Nat) (call : Call Scripted) : Prop where
  description : call.heldDescription =
    if heard = 0 then none else some (duet.masked side.other).description
  candidates : call.heldCandidates =
    (duet.found side.other heard).map fun candidate => (some (duet.party side.other), candidate)

/-- A call has handed over to its engine everything that was heard. -/
structure Hands (side : Role) (heard : Nat) (call : Call Scripted)
    (negotiation : Negotiation Scripted) : Prop where
  opened : call.negotiation = some negotiation
  description : call.heldDescription = none
  candidates : call.heldCandidates = []
  remote : negotiation.engine.remoteCandidates =
    Candidate.usable (duet.found side.other heard)

/-- The negotiation of a call is under way, and the local description is being made. -/
structure Prepares (side : Role) (heard : Nat) (phone : Phone Scripted) (call : Call Scripted)
    (negotiation : Negotiation Scripted) : Prop where
  current : phone.call = some call
  joins : duet.Joins id side heard call
  hands : duet.Hands side heard call negotiation
  first : heard = 0 ↔ side = .offering
  runs : negotiation.Runs side
  performs : negotiation.Performs (duet.script side)
  names : phone.streamNames = (duet.phone side).streamNames

/-- Where a device can stand in the call: on a side, having heard so many things, having spoken or
not, with a phone and the callbacks that wait. -/
inductive Stage : Role → Nat → Bool → Phone Scripted → List (SessionId × Engine.Callback) → Prop where
  /-- The invite has not been heard. -/
  | idle {phone : Phone Scripted} (idle : phone.call = none)
      (names : phone.streamNames = (duet.phone .answering).streamNames)
      (parties : phone.partyNames = (duet.phone .answering).partyNames) :
      Stage .answering 0 false phone []
  /-- The call rings. -/
  | rings {heard : Nat} {phone : Phone Scripted} {call : Call Scripted}
      (current : phone.call = some call) (incoming : phone.phase = .incoming)
      (unaccepted : call.accepted = false) (joins : duet.Joins id .answering heard call)
      (holds : duet.Holds .answering heard call) (invited : heard ≠ 0)
      (names : phone.streamNames = (duet.phone .answering).streamNames) :
      Stage .answering heard false phone []
  /-- The call waits for relay credentials. -/
  | waits {side : Role} {heard : Nat} {phone : Phone Scripted} {call : Call Scripted}
      (current : phone.call = some call) (deferred : call.deferred = some side)
      (joins : duet.Joins id side heard call) (holds : duet.Holds side heard call)
      (first : heard = 0 ↔ side = .offering)
      (names : phone.streamNames = (duet.phone side).streamNames) :
      Stage side heard false phone []
  /-- The local description is being made. -/
  | prepares {side : Role} {heard : Nat} {phone : Phone Scripted} {call : Call Scripted}
      {negotiation : Negotiation Scripted} {queue : List Engine.Callback}
      (prepares : duet.Prepares id side heard phone call negotiation)
      (leads : negotiation.Leads side ((duet.script side).description side)
        (duet.script side).candidates queue) :
      Stage side heard false phone (queue.map (negotiation.id, ·))
  /-- The offer is out and not answered. -/
  | offered {phone : Phone Scripted} {call : Call Scripted} {negotiation : Negotiation Scripted}
      (current : phone.call = some call) (outgoing : phone.phase = .outgoing)
      (joins : duet.Joins id .offering 0 call) (hands : duet.Hands .offering 0 call negotiation)
      (performs : negotiation.Performs (duet.script .offering))
      (sent : negotiation.progress = .offerSent) : Stage .offering 0 true phone []
  /-- The offer is out, and its answer waits for something to connect to. -/
  | answered {phone : Phone Scripted} {call : Call Scripted} {negotiation : Negotiation Scripted}
      (current : phone.call = some call) (outgoing : phone.phase = .outgoing)
      (joins : duet.Joins id .offering 1 call) (holds : duet.Holds .offering 1 call)
      (opened : call.negotiation = some negotiation)
      (remote : negotiation.engine.remoteCandidates = [])
      (performs : negotiation.Performs (duet.script .offering))
      (sent : negotiation.progress = .offerSent)
      (unconnected : Description.hasInlineCandidates (duet.masked .answering).description = false) :
      Stage .offering 1 true phone []
  /-- The call is established, and connects. -/
  | active {side : Role} {heard : Nat} {phone : Phone Scripted} {call : Call Scripted}
      {negotiation : Negotiation Scripted} {queue : List Engine.Callback}
      (current : phone.call = some call) (established : phone.phase = .active)
      (joins : duet.Joins id side heard call) (hands : duet.Hands side heard call negotiation)
      (answered : heard ≠ 0) (connects : negotiation.Connects queue) :
      Stage side heard true phone (queue.map (negotiation.id, ·))

/-- What a side has said, and to which room. -/
def said (side : Role) (spoken : Bool) : List (RoomId × OutgoingSignal) :=
  if spoken then (duet.speech id side).map (duet.room, ·) else []

/-- A phone has come to a stage, and its log says what it sends and which callbacks were posted. -/
structure Comes (side : Role) (heard : Nat) (spoken : Bool)
    (callbacks : List (SessionId × Engine.Callback)) (sent : List (RoomId × OutgoingSignal))
    (after : Phone Scripted) : Prop where
  stage : duet.Stage id side heard spoken after (callbacks ++ Phone.callbacks after.log)
  sends : LogEntry.sends after.log = sent

variable {duet id} {side : Role} {heard : Nat} {spoken : Bool} {phone : Phone Scripted}
  {callbacks : List (SessionId × Engine.Callback)} {call : Call Scripted}

theorem Joins.congr {other : Call Scripted} (joins : duet.Joins id side heard call)
    (same : other.identity = call.identity) (party : other.remoteParty = call.remoteParty) :
    duet.Joins id side heard other :=
  ⟨same.trans joins.identity, party.trans joins.remoteParty⟩

/-- A stage depends on a phone only through its call, its phase and its names. -/
theorem Stage.congr {after : Phone Scripted} (stage : duet.Stage id side heard spoken phone callbacks)
    (call : after.call = phone.call) (phase : after.phase = phone.phase)
    (streams : after.streamNames = phone.streamNames)
    (parties : after.partyNames = phone.partyNames) :
    duet.Stage id side heard spoken after callbacks := by
  cases stage with
  | idle idle names known => exact .idle (call.trans idle) (streams.trans names) (parties.trans known)
  | rings current incoming unaccepted joins holds invited names =>
      exact .rings (call.trans current) (phase.trans incoming) unaccepted joins holds invited
        (streams.trans names)
  | waits current deferred joins holds first names =>
      exact .waits (call.trans current) deferred joins holds first (streams.trans names)
  | prepares prepares leads =>
      exact .prepares { prepares with
        current := call.trans prepares.current
        names := streams.trans prepares.names } leads
  | offered current outgoing joins hands performs sent =>
      exact .offered (call.trans current) (phase.trans outgoing) joins hands performs sent
  | answered current outgoing joins holds opened remote performs sent unconnected =>
      exact .answered (call.trans current) (phase.trans outgoing) joins holds opened remote performs
        sent unconnected
  | active current established joins hands answered connects =>
      exact .active (call.trans current) (phase.trans established) joins hands answered connects

/-- A phone that nothing happened to is at the same stage. -/
theorem comes_still (unread : phone.log = [])
    (stage : duet.Stage id side heard spoken phone callbacks) :
    duet.Comes id side heard spoken callbacks [] phone := by
  refine ⟨?_, ?_⟩
  · rwa [unread, Phone.callbacks_nil, List.append_nil]
  · rw [unread, LogEntry.sends_nil]

end Duet

end RoomCall
