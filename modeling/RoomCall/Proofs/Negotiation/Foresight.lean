import RoomCall.Proofs.Negotiation.Streams

/-!
# Where the callbacks that wait will lead

An engine posts callbacks faster than they are handed over. `Leads` and `Connects` look ahead: handed
over one after the other, what waits makes the negotiation report its local description once, or
brings it to a connection. Neither depends on the engine behind the negotiation, so what else the
engine is asked meanwhile does not matter.
-/

namespace RoomCall

namespace Role

/-- The stages that follow the report of a description, when the search has gone as far as it can by
then: an answer is only made once the offer was applied. -/
def follows : Role → List Progress
  | .offering => []
  | .answering => [.connecting, .connected]

/-- The stage that the report of a description ends at. -/
def reaches : Role → Progress
  | .offering => .offerSent
  | .answering => .connected

/-- What an engine that connects has reported about the search when its description is ready. -/
def searched : Role → Engine.IceState
  | .offering => .new
  | .answering => .connected

end Role

namespace Negotiation

variable {ε : Type}

/-- The negotiation with another engine behind it, and with other traffic. -/
def onEngine (negotiation : Negotiation ε) (engine : ε) (traffic : List Traffic) : Negotiation ε :=
  { negotiation with engine := engine, traffic := traffic }

variable [MediaEngine ε] {negotiation next : Negotiation ε}

/-- A callback for which the engine is asked nothing is handled in the same way whatever the engine
is. -/
theorem handle_onEngine (engine : ε) (traffic : List Traffic) (callback : Engine.Callback)
    (quiet : callback = .negotiationNeeded → negotiation.described = false) :
    (negotiation.onEngine engine traffic).handle callback =
      ((negotiation.handle callback).1.onEngine engine traffic, (negotiation.handle callback).2) := by
  have streams : (negotiation.handle callback).1.remoteStreams = negotiation.remoteStreams :=
    congrArg Prod.snd (attribution_handle callback)
  refine (handle_disguised engine negotiation.remoteStreams traffic callback quiet
    fun _ => rfl).trans ?_
  rw [← streams]
  rfl

/-- A negotiation that is under way stays so when nothing is told. -/
theorem Runs.handle_silent {side : Role} {callback : Engine.Callback} (runs : negotiation.Runs side)
    (handled : negotiation.handle callback = (next, [])) : next.Runs side := by
  have reaction := reaction_handle runs callback
  rw [handled] at reaction
  generalize told : ([] : List Notice) = notices at reaction
  cases reaction with
  | moved runs => exact runs
  | reported | renegotiated | watched | broken | lost | reportedLost => cases told

/-! ## The report of the local description -/

/-- The callbacks that wait lead to the report of the local description. Before that nothing is
told, and after it none is left. -/
inductive Leads (side : Role) (description : String) (candidates : List Candidate) :
    Negotiation ε → List Engine.Callback → Prop where
  | wait {negotiation next : Negotiation ε} {callback : Engine.Callback}
      {later : List Engine.Callback} (silent : negotiation.described = false)
      (handled : negotiation.handle callback = (next, []))
      (leads : Leads side description candidates next later) :
      Leads side description candidates negotiation (callback :: later)
  | report {negotiation next : Negotiation ε} {callback : Engine.Callback}
      (silent : negotiation.described = false)
      (handled : negotiation.handle callback =
        (next, side.created description candidates ::
          (side.sent :: side.follows).map .progressChanged))
      (reached : next.progress = side.reaches) :
      Leads side description candidates negotiation [callback]

variable {side : Role} {description : String} {candidates : List Candidate}
  {callbacks : List Engine.Callback}

theorem Leads.silent (leads : negotiation.Leads side description candidates callbacks) :
    negotiation.described = false := by
  cases leads with
  | wait silent | report silent => exact silent

/-- Where the callbacks lead does not depend on the engine. -/
theorem Leads.onEngine (leads : negotiation.Leads side description candidates callbacks)
    (engine : ε) (traffic : List Traffic) :
    (negotiation.onEngine engine traffic).Leads side description candidates callbacks := by
  induction leads with
  | wait silent handled leads ih =>
      refine .wait silent ?_ ih
      rw [handle_onEngine engine traffic _ fun _ => silent, handled]
  | @report negotiation next callback silent handled reached =>
      refine @Leads.report ε _ side _ _ _ (next.onEngine engine traffic) _ silent ?_ reached
      rw [handle_onEngine engine traffic _ fun _ => silent, handled]

/-- The end of a search for candidates leads to the report of the description that is known by
then. -/
theorem leads_gathering (runs : negotiation.Runs side) (silent : negotiation.described = false)
    (known : negotiation.localDescription = some description)
    (searched : negotiation.ice = side.searched) (found : List Candidate) :
    negotiation.Leads side description (negotiation.localCandidates ++ found)
      (found.map Engine.Callback.localCandidate ++ [.gatheringComplete]) := by
  induction found generalizing negotiation with
  | nil =>
      have initiated := runs.progress_initiated silent
      rw [List.append_nil]
      cases side with
      | offering =>
          refine @Leads.report ε _ .offering _ _ _ { negotiation with
            gathered := true, described := true, progress := .offerSent } _ silent ?_ rfl
          simp [handle, runs.pipeline, handleRunning, reportAndFollow, report, silent, initiated,
            known, runs.role, moveTo, Progress.canBecome, followIce, searched, Role.searched,
            Role.created, Role.sent, Role.follows]
      | answering =>
          refine @Leads.report ε _ .answering _ _ _ { negotiation with
            gathered := true, described := true, progress := .connected } _ silent ?_ rfl
          simp [handle, runs.pipeline, handleRunning, reportAndFollow, report, silent, initiated,
            known, runs.role, moveTo, Progress.canBecome, followIce, searched, Role.searched,
            Role.created, Role.sent, Role.follows, beginConnecting, isAwaitingIce]
  | cons candidate found ih =>
      have noted := @ih { negotiation with
        localCandidates := negotiation.localCandidates ++ [candidate] }
        (runs.congr rfl rfl rfl rfl) silent known searched
      rw [List.append_assoc] at noted
      refine .wait silent ?_ noted
      simp [handle, runs.pipeline, handleRunning]

/-! ## The search for a network path -/

/-- The callbacks that wait lead to a connection, or there is one. -/
inductive Connects : Negotiation ε → List Engine.Callback → Prop where
  | done {negotiation : Negotiation ε} (connected : negotiation.progress = .connected) :
      Connects negotiation []
  | move {negotiation next : Negotiation ε} {state : Engine.IceState} {stages : List Progress}
      {later : List Engine.Callback}
      (handled : negotiation.handle (.iceChanged state) = (next, stages.map .progressChanged))
      (connects : Connects next later) : Connects negotiation (.iceChanged state :: later)

/-- Whether a connection comes about does not depend on the engine. -/
theorem Connects.onEngine (connects : negotiation.Connects callbacks) (engine : ε)
    (traffic : List Traffic) : (negotiation.onEngine engine traffic).Connects callbacks := by
  induction connects with
  | done connected => exact .done connected
  | @move negotiation next state stages later handled connects ih =>
      refine @Connects.move ε _ _ _ state stages later ?_ ih
      rw [handle_onEngine engine traffic _ (by simp), handled]

/-- A negotiation whose offer is out connects when a path is tried and works. -/
theorem connects_of_offerSent (pipeline : negotiation.hasPipeline = true)
    (sent : negotiation.progress = .offerSent) :
    negotiation.Connects [.iceChanged .checking, .iceChanged .connected] := by
  refine @Connects.move ε _ _ { negotiation with ice := .checking, progress := .connecting } _
    [.connecting] _ ?_ ?_
  · simp [handle, pipeline, handleRunning, followIce, beginConnecting, isAwaitingIce, sent, moveTo,
      Progress.canBecome]
  · refine @Connects.move ε _ _ { negotiation with ice := .connected, progress := .connected } _
      [.connected] _ ?_ (.done rfl)
    simp [handle, pipeline, handleRunning, followIce, beginConnecting, isAwaitingIce, moveTo,
      Progress.canBecome]

end Negotiation

end RoomCall
