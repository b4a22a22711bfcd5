import RoomCall.Engine.Scripted
import RoomCall.Proofs.Negotiation.Bearing

/-!
# Callbacks in any interleaving

An engine works on three things at once: it looks for candidates, it makes a local description, and
it searches for a network path. Each of them is reported in order, but nothing is said about the
order between them, so `Woven` admits every interleaving of three strands.

What a negotiation tells of them is always the same. As long as candidates or the description are
missing it only takes note (`Preparing`); once both are there it reports them and catches up with
the search (`Following`), whose remaining callbacks bring the stages that are still missing.
-/

namespace RoomCall

/-- A list that consists of three strands, the items of each in their order. -/
inductive Woven {α : Type} : List α → List α → List α → List α → Prop where
  | done : Woven [] [] [] []
  | first {item : α} {first second third later : List α} (rest : Woven first second third later) :
      Woven (item :: first) second third (item :: later)
  | second {item : α} {first second third later : List α} (rest : Woven first second third later) :
      Woven first (item :: second) third (item :: later)
  | third {item : α} {first second third later : List α} (rest : Woven first second third later) :
      Woven first second (item :: third) (item :: later)

/-- With two strands used up the rest is the third. -/
theorem Woven.eq_third {α : Type} {third later : List α} (woven : Woven [] [] third later) :
    later = third := by
  induction third generalizing later with
  | nil =>
      cases woven
      rfl
  | cons item third ih =>
      cases woven with
      | third rest => rw [ih rest]

namespace Engine.IceState

/-- How far a search that does not fail has come. -/
def steps : IceState → Nat
  | .checking => 1
  | .connected | .completed => 2
  | .new | .failed | .disconnected | .closed => 0

/-- The states of a search that goes forward. -/
def IsHopeful (state : IceState) : Prop :=
  state = .new ∨ state = .checking ∨ state = .connected ∨ state = .completed

/-- A search that is in a state goes forward through the later ones and finds a path. -/
inductive Finds : IceState → List IceState → Prop where
  | found {state : IceState} (works : state = .connected ∨ state = .completed) : Finds state []
  | move {state next : IceState} {later : List IceState} (hopeful : state.IsHopeful)
      (forward : state.steps ≤ next.steps) (rest : Finds next later) : Finds state (next :: later)

/-- A search that finds a path is hopeful at the start. -/
theorem Finds.isHopeful {state : IceState} {later : List IceState} (finds : Finds state later) :
    state.IsHopeful := by
  cases finds with
  | found works => exact .inr (.inr works)
  | move hopeful => exact hopeful

theorem IsHopeful.ne_failed {state : IceState} (hopeful : state.IsHopeful) : state ≠ .failed := by
  rcases hopeful with rfl | rfl | rfl | rfl <;> simp

theorem finds_works {state : IceState} {later : List IceState}
    (works : state = .connected ∨ state = .completed)
    (all : ∀ next ∈ later, next = .connected ∨ next = .completed) : Finds state later := by
  induction later generalizing state with
  | nil => exact .found works
  | cons next later ih =>
      have follows := all next List.mem_cons_self
      refine .move (.inr (.inr works)) ?_ (ih follows fun other among =>
        all other (List.mem_cons_of_mem next among))
      rcases works with rfl | rfl <;> rcases follows with rfl | rfl <;> simp [steps]

/-- The search of an engine that connects: nothing happens for a while, then paths are tried for a
while, and then a path works. -/
theorem finds_search (idle tries : Nat) {arrivals : List IceState} (arrives : arrivals ≠ [])
    (works : ∀ state ∈ arrivals, state = .connected ∨ state = .completed) :
    Finds .new (List.replicate idle .new ++ List.replicate tries .checking ++ arrivals) := by
  obtain ⟨arrival, later, rfl⟩ := List.exists_cons_of_ne_nil arrives
  have arrived : arrival = .connected ∨ arrival = .completed := works arrival List.mem_cons_self
  have found : Finds arrival later :=
    finds_works arrived fun state among => works state (List.mem_cons_of_mem arrival among)
  have reached : arrival.steps = 2 := by rcases arrived with rfl | rfl <;> rfl
  -- From `checking` on, any number of further tries leads to the arrival.
  have tried : ∀ tries, Finds .checking (List.replicate tries .checking ++ arrival :: later) := by
    intro tries
    induction tries with
    | zero => exact .move (.inr (.inl rfl)) (reached ▸ by decide) found
    | succ tries ih => exact .move (.inr (.inl rfl)) (Nat.le_refl _) ih
  induction idle with
  | zero =>
      cases tries with
      | zero => exact .move (.inl rfl) (by simp [steps]) found
      | succ tries => exact .move (.inl rfl) (by simp [steps]) (tried tries)
  | succ idle ih => exact .move (.inl rfl) (Nat.le_refl _) ih

end Engine.IceState

namespace Negotiation

variable {ε : Type} {side : Role} {negotiation : Negotiation ε}

/-- The stage of a negotiation that has reported its description and has followed the search for
some steps. -/
def stageAfter (side : Role) : Nat → Progress
  | 0 => side.sent
  | 1 => .connecting
  | _ => .connected

/-- The stages that a search brings. -/
def searchStages : List Progress := [.connecting, .connected]

/-- A negotiation that has reported its description and has caught up with the search. -/
structure Following (side : Role) (negotiation : Negotiation ε) : Prop where
  pipeline : negotiation.hasPipeline = true
  described : negotiation.described = true
  progress : negotiation.progress = stageAfter side negotiation.ice.steps

/-- Catching up with the search brings the stages between where the negotiation stands and how far
the search has come. -/
theorem followIce_hopeful {steps : Nat} (hopeful : negotiation.ice.IsHopeful)
    (stage : negotiation.progress = stageAfter side steps) (behind : steps ≤ negotiation.ice.steps) :
    negotiation.followIce.1.progress = stageAfter side negotiation.ice.steps ∧
      negotiation.followIce.2 ++ (searchStages.drop negotiation.ice.steps).map .progressChanged =
        (searchStages.drop steps).map .progressChanged := by
  have known : steps = 0 ∨ steps = 1 ∨ steps = 2 := by
    have bound : negotiation.ice.steps ≤ 2 := by
      rcases hopeful with ice | ice | ice | ice <;> simp [ice, Engine.IceState.steps]
    omega
  rcases known with rfl | rfl | rfl
  · have sent : negotiation.progress = side.sent := stage
    have begins := beginConnecting_sent sent
    rcases hopeful with ice | ice | ice | ice <;>
      simp [followIce, ice, begins, stage, Engine.IceState.steps, searchStages, stageAfter,
        moveTo_connected]
  · have connecting : negotiation.progress = .connecting := stage
    have begins := beginConnecting_begun (.inl connecting)
    rcases hopeful with ice | ice | ice | ice <;>
      simp_all [followIce, Engine.IceState.steps, searchStages, stageAfter, moveTo_connected]
  · have connected : negotiation.progress = .connected := stage
    have begins := beginConnecting_begun (.inr connected)
    rcases hopeful with ice | ice | ice | ice <;>
      simp_all [followIce, Engine.IceState.steps, searchStages, stageAfter]

variable [MediaEngine ε]

/-- Handles callbacks one after the other and gathers the notices. -/
def handleAll (negotiation : Negotiation ε) :
    List Engine.Callback → Negotiation ε × List Notice
  | [] => (negotiation, [])
  | callback :: later =>
      let (next, first) := negotiation.handle callback
      let (final, second) := next.handleAll later
      (final, first ++ second)

/-- What a negotiation tells when it handles some callbacks, and the stage where it ends. -/
def Tells (negotiation : Negotiation ε) (callbacks : List Engine.Callback) (notices : List Notice)
    (stage : Progress) : Prop :=
  (negotiation.handleAll callbacks).2 = notices ∧
    (negotiation.handleAll callbacks).1.progress = stage

/-- The notices of one more callback come first. -/
theorem Tells.cons {callback : Engine.Callback} {later : List Engine.Callback}
    {notices : List Notice} {stage : Progress}
    (tells : (negotiation.handle callback).1.Tells later notices stage) :
    negotiation.Tells (callback :: later) ((negotiation.handle callback).2 ++ notices) stage :=
  ⟨congrArg (_ ++ ·) tells.1, tells.2⟩

/-- A callback of which nothing is told may come first. -/
theorem Tells.silent {next : Negotiation ε} {callback : Engine.Callback}
    {later : List Engine.Callback} {notices : List Notice} {stage : Progress}
    (handled : negotiation.handle callback = (next, [])) (tells : next.Tells later notices stage) :
    negotiation.Tells (callback :: later) notices stage := by
  have more : (negotiation.handle callback).1.Tells later notices stage := by rwa [handled]
  have all := more.cons
  rwa [handled] at all

/-! ## After the report -/

omit [MediaEngine ε] in
/-- Catching up with a search that goes forward. -/
theorem following_followIce {steps : Nat} (pipeline : negotiation.hasPipeline = true)
    (described : negotiation.described = true) (hopeful : negotiation.ice.IsHopeful)
    (stage : negotiation.progress = stageAfter side steps)
    (behind : steps ≤ negotiation.ice.steps) :
    negotiation.followIce.1.Following side := by
  have caught := (followIce_hopeful hopeful stage behind).1
  rw [followIce_fst]
  refine ⟨pipeline, described, ?_⟩
  exact caught

/-- A negotiation that follows the search tells of the stages that are missing, and of nothing
else. -/
theorem Following.tells {later : List Engine.IceState} (following : negotiation.Following side)
    (finds : negotiation.ice.Finds later) :
    negotiation.Tells (later.map .iceChanged)
      ((searchStages.drop negotiation.ice.steps).map .progressChanged) .connected := by
  generalize reached : negotiation.ice = state at finds
  induction finds generalizing negotiation with
  | found works =>
      have last : negotiation.ice.steps = 2 := by
        rcases works with rfl | rfl <;> rw [reached] <;> rfl
      refine ⟨?_, ?_⟩
      · rw [← reached, last]
        rfl
      · change negotiation.progress = _
        rw [following.progress, last]
        rfl
  | @move state next later hopeful forward rest ih =>
      have heard : negotiation.handle (.iceChanged next) =
          ({ negotiation with ice := next } : Negotiation ε).followIce := by
        rw [handle, if_pos following.pipeline, handleRunning]
      have stage : negotiation.progress = stageAfter side state.steps := by
        rw [following.progress, reached]
      have caught := @followIce_hopeful ε side { negotiation with ice := next } state.steps
        rest.isHopeful stage forward
      have follows : (negotiation.handle (.iceChanged next)).1.Following side := by
        rw [heard]
        exact following_followIce following.pipeline following.described
          rest.isHopeful stage forward
      have known : (negotiation.handle (.iceChanged next)).1.ice = next := by
        rw [heard, ice_followIce]
      have tells := (ih follows known).cons
      rwa [heard, caught.2] at tells

/-! ## The report -/

/-- Everything that a negotiation tells on its way to a connection. -/
def fullReport (side : Role) (description : String) (candidates : List Candidate) : List Notice :=
  side.created description candidates :: (side.sent :: searchStages).map .progressChanged

omit [MediaEngine ε] in
/-- A negotiation that has its description reports it with the candidates found so far. -/
theorem report_known {description : String} (runs : negotiation.Runs side)
    (silent : negotiation.described = false)
    (known : negotiation.localDescription = some description) :
    negotiation.report =
      ({ negotiation with described := true, progress := side.sent },
        [side.created description negotiation.localCandidates, .progressChanged side.sent]) := by
  have initiated := runs.progress_initiated silent
  cases side <;>
    simp [report, silent, initiated, known, runs.role, moveTo, Progress.canBecome, Role.sent,
      Role.created]

omit [MediaEngine ε] in
/-- Without a description there is nothing to report, and nothing to follow. -/
theorem reportAndFollow_unknown (unknown : negotiation.localDescription = none)
    (hopeful : negotiation.ice ≠ .failed) (initiated : negotiation.progress = .initiated) :
    negotiation.reportAndFollow = (negotiation, []) := by
  simp [reportAndFollow, report, unknown, followIce_initiated hopeful initiated]

/-- A negotiation that has everything it reports. -/
structure Complete (side : Role) (description : String) (candidates : List Candidate)
    (negotiation : Negotiation ε) : Prop where
  runs : negotiation.Runs side
  silent : negotiation.described = false
  known : negotiation.localDescription = some description
  gathered : negotiation.localCandidates = candidates

variable {description : String} {kind : DescriptionKind} {candidates : List Candidate}

/-- The callback that completes the report brings it, and what is missing of the search follows. -/
theorem Complete.tells {complete : Negotiation ε} {callback : Engine.Callback}
    {later : List Engine.IceState} (ready : complete.Complete side description candidates)
    (handled : negotiation.handle callback = complete.reportAndFollow)
    (finds : complete.ice.Finds later) :
    negotiation.Tells (callback :: later.map .iceChanged) (fullReport side description candidates)
      .connected := by
  obtain ⟨runs, silent, known, rfl⟩ := ready
  have reported := report_known runs silent known
  have hopeful := finds.isHopeful
  have follows : (negotiation.handle callback).1.Following side := by
    rw [handled, reportAndFollow, reported]
    exact @following_followIce ε side { complete with described := true, progress := side.sent } 0
      runs.pipeline rfl hopeful rfl (Nat.zero_le _)
  have searched : (negotiation.handle callback).1.ice = complete.ice := by
    rw [handled, ice_reportAndFollow]
  have caught := (@followIce_hopeful ε side
    { complete with described := true, progress := side.sent } 0 hopeful rfl (Nat.zero_le _)).2
  have told : (negotiation.handle callback).2 ++
      (searchStages.drop complete.ice.steps).map .progressChanged =
        fullReport side description complete.localCandidates := by
    rw [handled, reportAndFollow, reported]
    exact (List.append_assoc ..).trans (congrArg (_ ++ ·) caught)
  have tells := (follows.tells (searched.symm ▸ finds)).cons
  rwa [searched, told] at tells

/-! ## Before the report -/

/-- A negotiation that waits for the rest of two strands of callbacks: the candidates up to the end
of the search for them, and the description. -/
structure Preparing (side : Role) (description : String) (kind : DescriptionKind)
    (candidates : List Candidate) (negotiation : Negotiation ε)
    (gathering describing : List Engine.Callback) : Prop where
  runs : negotiation.Runs side
  silent : negotiation.described = false
  gathering :
    (negotiation.gathered = false ∧
        ∃ later, gathering = later.map Engine.Callback.localCandidate ++ [.gatheringComplete] ∧
          negotiation.localCandidates ++ later = candidates) ∨
      (negotiation.gathered = true ∧ gathering = [] ∧ negotiation.localCandidates = candidates)
  describing :
    (negotiation.localDescription = none ∧ describing = [.localDescription description kind]) ∨
      (negotiation.localDescription = some description ∧ describing = [])
  /-- As soon as nothing is missing the description is reported. -/
  waits : negotiation.gathered = true → negotiation.localDescription = none

/-- What a callback of the two strands brings about in a negotiation that is preparing: it waits for
what is still missing, or nothing is missing any more. -/
inductive Advance (side : Role) (description : String) (kind : DescriptionKind)
    (candidates : List Candidate) (negotiation : Negotiation ε) (callback : Engine.Callback) :
    List Engine.Callback → List Engine.Callback → Prop where
  | waits {next : Negotiation ε} {gathering describing : List Engine.Callback}
      (handled : negotiation.handle callback = (next, [])) (ice : next.ice = negotiation.ice)
      (preparing : next.Preparing side description kind candidates gathering describing) :
      Advance side description kind candidates negotiation callback gathering describing
  | completes {complete : Negotiation ε}
      (handled : negotiation.handle callback = complete.reportAndFollow)
      (ice : complete.ice = negotiation.ice)
      (ready : complete.Complete side description candidates) :
      Advance side description kind candidates negotiation callback [] []

variable {gathering describing callbacks : List Engine.Callback} {callback : Engine.Callback}

namespace Preparing

theorem handle_eq (preparing : negotiation.Preparing side description kind candidates gathering
    describing) (callback : Engine.Callback) :
    negotiation.handle callback = negotiation.handleRunning callback := by
  rw [handle, if_pos preparing.runs.pipeline]

/-- The next callback of the search for candidates. -/
theorem gather (preparing : negotiation.Preparing side description kind candidates
      (callback :: gathering) describing) (hopeful : negotiation.ice ≠ .failed) :
    Advance side description kind candidates negotiation callback gathering describing := by
  have handled := preparing.handle_eq callback
  rcases preparing.gathering with ⟨early, later, remaining, all⟩ | ⟨_, none, _⟩
  · cases later with
    | cons candidate later =>
        obtain ⟨rfl, rfl⟩ := List.cons.inj remaining
        exact .waits handled rfl
          { runs := preparing.runs.congr rfl rfl rfl rfl
            silent := preparing.silent
            gathering := .inl ⟨early, later, rfl, by simpa using all⟩
            describing := preparing.describing
            waits := preparing.waits }
    | nil =>
        obtain ⟨rfl, rfl⟩ := List.cons.inj remaining
        have gathered : negotiation.localCandidates = candidates := by simpa using all
        have runs : Runs side { negotiation with gathered := true } :=
          preparing.runs.congr rfl rfl rfl rfl
        rcases preparing.describing with ⟨unknown, rfl⟩ | ⟨known, rfl⟩
        · have quiet := @reportAndFollow_unknown ε { negotiation with gathered := true } unknown
            hopeful (runs.progress_initiated preparing.silent)
          exact .waits (handled.trans quiet) rfl
            { runs := runs
              silent := preparing.silent
              gathering := .inr ⟨rfl, rfl, gathered⟩
              describing := .inl ⟨unknown, rfl⟩
              waits := fun _ => unknown }
        · exact .completes handled rfl ⟨runs, preparing.silent, known, gathered⟩
  · cases none

/-- The description. -/
theorem describe (preparing : negotiation.Preparing side description kind candidates gathering
      (callback :: describing)) :
    Advance side description kind candidates negotiation callback gathering describing := by
  rcases preparing.describing with ⟨unknown, remaining⟩ | ⟨_, none⟩
  · obtain ⟨rfl, rfl⟩ := List.cons.inj remaining
    have handled := preparing.handle_eq (.localDescription description kind)
    have runs : Runs side { negotiation with localDescription := some description } :=
      preparing.runs.congr rfl rfl rfl rfl
    rcases preparing.gathering with ⟨early, later, rfl, all⟩ | ⟨gathered, rfl, all⟩
    · have noted : negotiation.handle (.localDescription description kind) =
          ({ negotiation with localDescription := some description }, []) := by
        rw [handled]
        simp [handleRunning, preparing.silent, early]
      exact .waits noted rfl
        { runs := runs
          silent := preparing.silent
          gathering := .inl ⟨early, later, rfl, all⟩
          describing := .inr ⟨rfl, rfl⟩
          waits := fun gathered => by simp [early] at gathered }
    · have completed : negotiation.handle (.localDescription description kind) =
          ({ negotiation with localDescription := some description } :
            Negotiation ε).reportAndFollow := by
        rw [handled]
        simp [handleRunning, preparing.silent, gathered]
      exact .completes completed rfl ⟨runs, preparing.silent, rfl, all⟩
  · cases none

/-- What the engine reports of the search is only remembered. -/
theorem search {state : Engine.IceState} (preparing : negotiation.Preparing side description kind
      candidates gathering describing) (hopeful : state ≠ .failed) :
    negotiation.handle (.iceChanged state) = ({ negotiation with ice := state }, []) ∧
      Preparing side description kind candidates { negotiation with ice := state } gathering
        describing := by
  have initiated := preparing.runs.progress_initiated preparing.silent
  refine ⟨?_, preparing.runs.congr rfl rfl rfl rfl, preparing.silent, preparing.gathering,
    preparing.describing, preparing.waits⟩
  rw [preparing.handle_eq, handleRunning]
  exact @followIce_initiated ε { negotiation with ice := state } hopeful initiated

/-- Whatever the interleaving, a negotiation that is preparing reports once and connects. -/
theorem tells {later : List Engine.IceState} (preparing : negotiation.Preparing side description
      kind candidates gathering describing) (finds : negotiation.ice.Finds later)
    (woven : Woven gathering describing (later.map .iceChanged) callbacks) :
    negotiation.Tells callbacks (fullReport side description candidates) .connected := by
  generalize searching : later.map Engine.Callback.iceChanged = search at woven
  induction woven generalizing negotiation later with
  | done =>
      -- With both strands used up the negotiation would have reported already.
      rcases preparing.gathering with ⟨_, _, remaining, _⟩ | ⟨gathered, _, _⟩
      · simp at remaining
      · rcases preparing.describing with ⟨_, remaining⟩ | ⟨known, _⟩
        · cases remaining
        · rw [preparing.waits gathered] at known
          cases known
  | first rest ih =>
      cases preparing.gather finds.isHopeful.ne_failed with
      | waits handled ice next => exact (ih next (ice.symm ▸ finds) searching).silent handled
      | completes handled ice ready =>
          rw [rest.eq_third, ← searching]
          exact ready.tells handled (ice.symm ▸ finds)
  | second rest ih =>
      cases preparing.describe with
      | waits handled ice next => exact (ih next (ice.symm ▸ finds) searching).silent handled
      | completes handled ice ready =>
          rw [rest.eq_third, ← searching]
          exact ready.tells handled (ice.symm ▸ finds)
  | third rest ih =>
      cases finds with
      | found => cases searching
      | move hopeful forward finds =>
          obtain ⟨rfl, searched⟩ := List.cons.inj searching
          obtain ⟨handled, next⟩ := preparing.search finds.isHopeful.ne_failed
          exact (ih next finds searched).silent handled

end Preparing

/-! ## From the start -/

/-- A negotiation that has heard nothing of its engine. -/
structure Unheard (negotiation : Negotiation ε) : Prop where
  ice : negotiation.ice = .new
  undescribed : negotiation.localDescription = none
  candidates : negotiation.localCandidates = []
  early : negotiation.gathered = false
  silent : negotiation.described = false

namespace Unheard

theorem tell (unheard : negotiation.Unheard) (request : Engine.Request) :
    (negotiation.tell request).Unheard :=
  { unheard with }

omit [MediaEngine ε] in
theorem moveTo (unheard : negotiation.Unheard) (stage : Progress) :
    (negotiation.moveTo stage).1.Unheard := by
  rw [moveTo_fst]
  exact { unheard with }

theorem addRemoteCandidates (unheard : negotiation.Unheard) (candidates : List Candidate) :
    (negotiation.addRemoteCandidates candidates).Unheard := by
  rcases negotiation.addRemoteCandidates_cases candidates with ⟨_, same⟩ | ⟨request, _, told⟩
  · rwa [same]
  · rw [told]
    exact unheard.tell request

/-- What an engine says at once is not remembered. -/
theorem of_ask {request : Engine.Request} {asked : Negotiation ε} {fault : Option Engine.Fault}
    (reply : negotiation.ask request = (asked, fault)) (unheard : negotiation.Unheard) :
    asked.Unheard := by
  have told := unheard.tell request
  rwa [Negotiation.tell, reply] at told

theorem of_build {pipeline : Engine.Pipeline} {built : Negotiation ε}
    {outcome : Except NegotiationError (List Notice)}
    (done : negotiation.build pipeline = (built, outcome)) (unheard : negotiation.Unheard) :
    built.Unheard := by
  have initiating := unheard.moveTo .initiating
  rw [build] at done
  dsimp only at done
  split at done
  · rename_i asked fault reply
    obtain ⟨rfl, _⟩ := Prod.mk.inj done
    exact (of_ask reply initiating).moveTo .disconnected
  · rename_i asked reply
    obtain ⟨rfl, _⟩ := Prod.mk.inj done
    have heard : ({ asked with hasPipeline := true } : Negotiation ε).Unheard :=
      { of_ask reply initiating with }
    exact heard.moveTo .initiated

theorem start (unheard : negotiation.Unheard) (pipeline : Engine.Pipeline) :
    (negotiation.start pipeline).1.Unheard := by
  unfold Negotiation.start
  split
  · exact unheard
  · split
    · rename_i built error done
      exact of_build done { unheard with }
    · rename_i built notices done
      exact (of_build done { unheard with }).tell .offer

theorem acceptOffer (unheard : negotiation.Unheard) (pipeline : Engine.Pipeline) (offer : String)
    (candidates : List Candidate) (user : UserId) :
    (negotiation.acceptOffer pipeline offer candidates user).1.Unheard := by
  unfold Negotiation.acceptOffer
  split
  · exact unheard
  · split
    · exact unheard
    · split
      · rename_i built error done
        exact of_build done { unheard with }
      · rename_i built notices done
        have begun : built.Unheard := of_build done { unheard with }
        split
        · rename_i applied fault took
          exact of_ask took { begun with }
        · rename_i applied took
          exact ((of_ask took { begun with }).addRemoteCandidates candidates).tell .answer

end Unheard

/-- A new negotiation with an engine that got under way on a side. -/
inductive Embarks (id : SessionId) (engine : ε) : Role → Negotiation ε → Prop where
  | offering {pipeline : Engine.Pipeline} {begun : Negotiation ε} {notices : List Notice}
      (done : Negotiation.start { id := id, engine := engine } pipeline = (begun, .ok notices)) :
      Embarks id engine .offering begun
  | answering {pipeline : Engine.Pipeline} {offer : String} {remote : List Candidate}
      {user : UserId} {begun : Negotiation ε} {notices : List Notice}
      (done : Negotiation.acceptOffer { id := id, engine := engine } pipeline offer remote user =
        (begun, .ok notices)) :
      Embarks id engine .answering begun

variable {id : SessionId} {engine : ε}

omit [MediaEngine ε] in
/-- A negotiation that has done nothing has heard nothing. -/
theorem unheard_new (id : SessionId) (engine : ε) :
    ({ id := id, engine := engine } : Negotiation ε).Unheard :=
  ⟨rfl, rfl, rfl, rfl, rfl⟩

/-- A negotiation that got under way runs and has heard nothing yet. -/
theorem Embarks.runs {begun : Negotiation ε} (embarks : Embarks id engine side begun) :
    begun.Runs side ∧ begun.Unheard := by
  cases embarks with
  | @offering pipeline begun notices done =>
      have unheard := (unheard_new id engine).start pipeline
      rw [done] at unheard
      rcases @start_cases ε _ { id := id, engine := engine } rfl rfl rfl pipeline "" [] with
        ⟨error, refused⟩ | ⟨_, opened⟩
      · rw [done] at refused
        cases refused
      · rw [done] at opened
        exact ⟨opened.runs, unheard⟩
  | @answering pipeline offer remote user begun notices done =>
      have unheard :=
        (unheard_new id engine).acceptOffer pipeline offer remote user
      rw [done] at unheard
      rcases @acceptOffer_cases ε _ { id := id, engine := engine } rfl rfl rfl pipeline offer remote
        user with ⟨error, refused⟩ | ⟨_, opened⟩
      · rw [done] at refused
        cases refused
      · rw [done] at opened
        exact ⟨opened.runs, unheard⟩

omit [MediaEngine ε] in
/-- A running negotiation that has heard nothing is preparing, with all callbacks still to come. -/
theorem preparing_of_unheard (runs : negotiation.Runs side) (unheard : negotiation.Unheard)
    (description : String) (kind : DescriptionKind) (candidates : List Candidate) :
    negotiation.Preparing side description kind candidates
      (candidates.map .localCandidate ++ [.gatheringComplete])
      [.localDescription description kind] where
  runs := runs
  silent := unheard.silent
  gathering := .inl ⟨unheard.early, candidates, rfl, by rw [unheard.candidates, List.nil_append]⟩
  describing := .inl ⟨unheard.undescribed, rfl⟩
  waits := fun _ => unheard.undescribed

/-- Take a new negotiation that got under way, and any interleaving of three strands of callbacks:
candidates and the end of the search for them, one local description, and a search for a network
path that has nothing to say for a while, then tries for a while and then succeeds. The negotiation
tells its description with exactly these candidates, then the stages up to a connection, and nothing
else. -/
theorem handleAll_woven {begun : Negotiation ε} (embarks : Embarks id engine side begun)
    (candidates : List Candidate) (description : String) (kind : DescriptionKind)
    (idle tries : Nat) {arrivals : List Engine.IceState} (arrives : arrivals ≠ [])
    (works : ∀ state ∈ arrivals, state = .connected ∨ state = .completed)
    {callbacks : List Engine.Callback}
    (woven : Woven (candidates.map .localCandidate ++ [.gatheringComplete])
      [.localDescription description kind]
      ((List.replicate idle Engine.IceState.new ++
        List.replicate tries Engine.IceState.checking ++ arrivals).map .iceChanged) callbacks) :
    (begun.handleAll callbacks).2 =
        [side.created description candidates, .progressChanged side.sent,
          .progressChanged .connecting, .progressChanged .connected] ∧
      (begun.handleAll callbacks).1.progress = .connected := by
  obtain ⟨runs, unheard⟩ := embarks.runs
  have preparing := preparing_of_unheard runs unheard description kind candidates
  have finds : begun.ice.Finds
      (List.replicate idle .new ++ List.replicate tries .checking ++ arrivals) :=
    unheard.ice.symm ▸ Engine.IceState.finds_search idle tries arrives works
  exact preparing.tells finds woven

/-- Callbacks of an engine that finds its path before it has finished looking for candidates. -/
def earlyPath : List Engine.Callback :=
  [.iceChanged .new, .localDescription "v=0" .offer, .iceChanged .checking,
    .localCandidate Engine.cannedCandidate, .iceChanged .connected, .gatheringComplete,
    .iceChanged .completed]

/-- A negotiation that has just been started with an engine that follows the default script. -/
def startedScripted : Negotiation Engine.Scripted :=
  (Negotiation.start { id := 1, engine := {} } {}).1

theorem embarks_startedScripted : Embarks 1 {} .offering startedScripted :=
  have done : Negotiation.start { id := 1, engine := ({} : Engine.Scripted) } {} =
      (startedScripted, .ok (openingStages.map .progressChanged)) := rfl
  .offering done

theorem handleAll_woven_earlyPath :
    (startedScripted.handleAll earlyPath).2 =
        [.offerCreated "v=0" [Engine.cannedCandidate], .progressChanged .offerSent,
          .progressChanged .connecting, .progressChanged .connected] ∧
      (startedScripted.handleAll earlyPath).1.progress = .connected :=
  handleAll_woven embarks_startedScripted [Engine.cannedCandidate] "v=0" .offer 1 1
    (show [Engine.IceState.connected, .completed] ≠ [] by simp) (by decide)
    (.third (.second (.third (.first (.third (.first (.third .done)))))))

end Negotiation

end RoomCall
