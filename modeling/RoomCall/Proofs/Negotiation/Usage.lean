import RoomCall.Proofs.Negotiation.Bearing

/-!
# How an engine may be used

The requests to an engine follow a protocol. `Engine.Step` is its table: which request may be made
at which point, and where its outcome leads. A negotiation keeps to it in every operation, whatever
its engine says: `Negotiation.Conducts` says so for one operation, and the operations of a call are
put together by `Engine.Path.append`.

`Engine.WellUsed` is what the protocol amounts to for the whole life of an engine.
-/

namespace RoomCall.Engine

/-- A request that was made of an engine, with the fault by which it was refused, if it was. -/
structure Exchange where
  request : Request
  fault : Option Fault := none
  deriving DecidableEq, Repr

/-- Whether a request is about this side alone and may be made at any time during a call. -/
def Request.isOwn : Request → Bool
  | .offer | .setMuted _ | .toggleCamera => true
  | _ => false

/-- Candidates as they may be handed over: there are some, and none of them is an end mark. -/
structure Usable (candidates : List Candidate) : Prop where
  nonempty : candidates ≠ []
  unmarked : ∀ candidate ∈ candidates, candidate.isEndMark = false

/-- How far the use of an engine has come. -/
inductive Status where
  /-- Nothing was asked. -/
  | unused
  /-- The pipeline was built. -/
  | built
  /-- The offer of the other side was taken. -/
  | offered
  /-- The offer of the other side was taken, and candidates with it. -/
  | prepared
  /-- The local offer was asked for and waits for an answer. -/
  | waiting
  /-- Descriptions of both sides are there. -/
  | settled
  /-- A new offer of the other side was taken. -/
  | reoffered
  /-- A description was refused without which there is no call. -/
  | broken
  /-- Nothing more may be asked. -/
  | finished
  deriving DecidableEq, Repr

/-- What may be asked of the engine of a side, and where that leads. -/
inductive Step : Role → Status → Exchange → Status → Prop where
  | built {side : Role} {pipeline : Pipeline} : Step side .unused ⟨.build pipeline, none⟩ .built
  | unbuilt {side : Role} {pipeline : Pipeline} {fault : Fault} :
      Step side .unused ⟨.build pipeline, some fault⟩ .finished
  | offers {fault : Option Fault} : Step .offering .built ⟨.offer, fault⟩ .waiting
  | takes {offer : String} : Step .answering .built ⟨.applyRemote .offer offer, none⟩ .offered
  | rejects {offer : String} {fault : Fault} :
      Step .answering .built ⟨.applyRemote .offer offer, some fault⟩ .broken
  | prepares {side : Role} {candidates : List Candidate} {fault : Option Fault}
      (usable : Usable candidates) :
      Step side .offered ⟨.addCandidates candidates, fault⟩ .prepared
  | answers {side : Role} {status : Status} {fault : Option Fault}
      (ready : status = .offered ∨ status = .prepared ∨ status = .reoffered) :
      Step side status ⟨.answer, fault⟩ .settled
  | switches {side : Role} {status : Status} {request : Request} {fault : Option Fault}
      (live : status = .waiting ∨ status = .settled) (own : request.isOwn = true) :
      Step side status ⟨request, fault⟩ status
  | connects {side : Role} {answer : String} :
      Step side .waiting ⟨.applyRemote .answer answer, none⟩ .settled
  | fails {side : Role} {answer : String} {fault : Fault} :
      Step side .waiting ⟨.applyRemote .answer answer, some fault⟩ .broken
  | adds {side : Role} {candidates : List Candidate} {fault : Option Fault}
      (usable : Usable candidates) :
      Step side .settled ⟨.addCandidates candidates, fault⟩ .settled
  | reoffers {side : Role} {offer : String} :
      Step side .settled ⟨.applyRemote .offer offer, none⟩ .reoffered
  | reanswers {side : Role} {answer : String} {fault : Option Fault} :
      Step side .settled ⟨.applyRemote .answer answer, fault⟩ .settled
  | declines {side : Role} {offer : String} {fault : Fault} :
      Step side .settled ⟨.applyRemote .offer offer, some fault⟩ .settled
  | finishes {side : Role} {status : Status} {fault : Option Fault}
      (live : status = .waiting ∨ status = .settled ∨ status = .broken) :
      Step side status ⟨.finish, fault⟩ .finished

/-- What may be asked in turn. -/
inductive Path (side : Role) : Status → List Exchange → Status → Prop where
  | stop (status : Status) : Path side status [] status
  | step {status next final : Status} {exchange : Exchange} {later : List Exchange}
      (step : Step side status exchange next) (rest : Path side next later final) :
      Path side status (exchange :: later) final

variable {side : Role} {status next final : Status} {exchange : Exchange}
  {used first second : List Exchange}

theorem Step.path (step : Step side status exchange next) : Path side status [exchange] next :=
  .step step (.stop next)

theorem Path.append (before : Path side status first next) (after : Path side next second final) :
    Path side status (first ++ second) final := by
  induction before with
  | stop => exact after
  | step step _ ih => exact .step step (ih after)

theorem Path.split (path : Path side status (first ++ second) final) :
    ∃ next, Path side status first next ∧ Path side next second final := by
  induction first generalizing status with
  | nil => exact ⟨status, .stop status, path⟩
  | cons exchange later ih =>
      cases path with
      | step step rest =>
          rcases ih rest with ⟨next, before, after⟩
          exact ⟨next, .step step before, after⟩

/-- At any place among the requests there is a step of the protocol. -/
theorem Path.inside (path : Path side status (first ++ exchange :: second) final) :
    ∃ here next, Path side status first here ∧ Step side here exchange next ∧
      Path side next second final := by
  rcases path.split with ⟨here, before, after⟩
  cases after with
  | step step rest => exact ⟨here, _, before, step, rest⟩

theorem Path.last (path : Path side status (used ++ [exchange]) final) :
    ∃ here, Path side status used here ∧ Step side here exchange final := by
  rcases path.inside with ⟨here, next, before, step, rest⟩
  cases rest
  exact ⟨here, before, step⟩

/-- Nothing is asked of an engine after its end. -/
theorem Path.of_finished (path : Path side .finished used final) :
    used = [] ∧ final = .finished := by
  cases path with
  | stop => exact ⟨rfl, rfl⟩
  | step step _ =>
      cases step with
      | answers ready => simp at ready
      | switches live => simp at live
      | finishes live => simp at live

/-- An engine is unused only before anything was asked of it. -/
theorem Path.to_unused (path : Path side status used .unused) : used = [] ∧ status = .unused := by
  rcases used.eq_nil_or_concat with rfl | ⟨before, exchange, rfl⟩
  · cases path
    exact ⟨rfl, rfl⟩
  · rw [List.concat_eq_append] at path
    rcases path.last with ⟨here, _, step⟩
    cases step with
    | switches live => simp at live

/-! ## What the protocol amounts to -/

/-- Whether an engine may be left alone for a while. -/
def Status.isRest : Status → Bool
  | .waiting | .settled | .finished => true
  | _ => false

/-- The ways in which the use of an engine begins. -/
inductive Opening : Role → List Exchange → Prop where
  /-- No pipeline was built. -/
  | unbuilt {side : Role} (pipeline : Pipeline) (fault : Fault) :
      Opening side [⟨.build pipeline, some fault⟩]
  /-- An offer is asked for. -/
  | offering (pipeline : Pipeline) (fault : Option Fault) (later : List Exchange) :
      Opening .offering (⟨.build pipeline, none⟩ :: ⟨.offer, fault⟩ :: later)
  /-- The offer of the other side is refused. -/
  | rejecting (pipeline : Pipeline) (offer : String) (fault : Fault) (ended : Option Fault) :
      Opening .answering
        [⟨.build pipeline, none⟩, ⟨.applyRemote .offer offer, some fault⟩, ⟨.finish, ended⟩]
  /-- The offer of the other side is answered. -/
  | answering (pipeline : Pipeline) (offer : String) (fault : Option Fault)
      (later : List Exchange) :
      Opening .answering (⟨.build pipeline, none⟩ :: ⟨.applyRemote .offer offer, none⟩ ::
        ⟨.answer, fault⟩ :: later)
  /-- The offer of the other side is answered with the candidates that came with it. -/
  | preparing (pipeline : Pipeline) (offer : String) (candidates : List Candidate)
      (usable : Usable candidates) (handed fault : Option Fault) (later : List Exchange) :
      Opening .answering (⟨.build pipeline, none⟩ :: ⟨.applyRemote .offer offer, none⟩ ::
        ⟨.addCandidates candidates, handed⟩ :: ⟨.answer, fault⟩ :: later)

/-- A path to a point of rest goes on from every other point. -/
theorem Path.leave (path : Path side status used final) (moves : status.isRest = false)
    (rests : final.isRest = true) :
    ∃ exchange next later, used = exchange :: later ∧ Step side status exchange next ∧
      Path side next later final := by
  cases path with
  | stop => simp [moves] at rests
  | step step rest => exact ⟨_, _, _, rfl, step, rest⟩

/-- An offer that was taken is answered, after its candidates were handed over. -/
theorem Path.of_offered (path : Path side .offered used final) (rests : final.isRest = true) :
    (∃ fault later, used = ⟨.answer, fault⟩ :: later) ∨
      ∃ candidates handed fault later, Usable candidates ∧
        used = ⟨.addCandidates candidates, handed⟩ :: ⟨.answer, fault⟩ :: later := by
  rcases path.leave rfl rests with ⟨exchange, next, later, rfl, step, rest⟩
  cases step with
  | answers => exact .inl ⟨_, _, rfl⟩
  | switches live => simp at live
  | finishes live => simp at live
  | prepares usable =>
      rcases rest.leave rfl rests with ⟨exchange, next, later, rfl, step, -⟩
      cases step with
      | answers => exact .inr ⟨_, _, _, _, usable, rfl⟩
      | switches live => simp at live
      | finishes live => simp at live

/-- All that is asked of a broken engine is to end. -/
theorem Path.of_broken (path : Path side .broken used final) (rests : final.isRest = true) :
    ∃ fault, used = [⟨.finish, fault⟩] := by
  rcases path.leave rfl rests with ⟨exchange, next, later, rfl, step, rest⟩
  cases step with
  | answers ready => simp at ready
  | switches live => simp at live
  | finishes =>
      rcases rest.of_finished with ⟨rfl, -⟩
      exact ⟨_, rfl⟩

/-- What is asked first of an engine opens it as its side has it. -/
theorem Path.opening (path : Path side .unused used final) (rests : final.isRest = true) :
    Opening side used := by
  rcases path.leave rfl rests with ⟨exchange, next, later, rfl, step, rest⟩
  cases step with
  | answers ready => simp at ready
  | switches live => simp at live
  | finishes live => simp at live
  | unbuilt =>
      rcases rest.of_finished with ⟨rfl, -⟩
      exact .unbuilt _ _
  | built =>
      rcases rest.leave rfl rests with ⟨exchange, next, later, rfl, step, rest⟩
      cases step with
      | answers ready => simp at ready
      | switches live => simp at live
      | finishes live => simp at live
      | offers => exact .offering _ _ _
      | rejects =>
          rcases rest.of_broken rests with ⟨ended, rfl⟩
          exact .rejecting _ _ _ _
      | takes =>
          rcases rest.of_offered rests with
            ⟨fault, later, rfl⟩ | ⟨candidates, handed, fault, later, usable, rfl⟩
          · exact .answering _ _ _ _
          · exact .preparing _ _ _ usable _ _ _

/-- An engine that is used as it should be. -/
structure WellUsed (side : Role) (used : List Exchange) : Prop where
  opening : Opening side used
  /-- The pipeline is built first, and only then. -/
  once : ∀ before pipeline fault later, used = before ++ ⟨.build pipeline, fault⟩ :: later →
    before = []
  /-- The first thing that an offering engine is given from the other side is an answer. -/
  answered : side = .offering → ∀ before exchange later, used = before ++ exchange :: later →
    (∀ other ∈ before, other.request.isDelivery = false) → exchange.request.isDelivery = true →
    ∃ answer, exchange.request = .applyRemote .answer answer
  /-- An answer is asked for right after an offer was taken, or it is the one with which the
  answering side begins. -/
  answers : ∀ before fault later, used = before ++ ⟨.answer, fault⟩ :: later →
    (∃ offer, before.getLast? = some ⟨.applyRemote .offer offer, none⟩) ∨
      side = .answering ∧ ∀ other ∈ before, other.request ≠ .answer
  /-- Candidates are handed over when a remote description was taken, and never in vain. -/
  candidates : ∀ before candidates fault later,
    used = before ++ ⟨.addCandidates candidates, fault⟩ :: later →
    Usable candidates ∧ ∃ kind description, ⟨.applyRemote kind description, none⟩ ∈ before
  /-- Nothing comes after the end. -/
  finished : ∀ before fault later, used = before ++ ⟨.finish, fault⟩ :: later → later = []

/-- Whether a description of the other side was taken at some point. -/
def Status.hasRemote : Status → Bool
  | .offered | .prepared | .settled | .reoffered => true
  | _ => false

/-- Where a description of the other side was taken, it was so from the start or in some exchange.
-/
theorem Path.taken (path : Path side status used final) (remote : final.hasRemote = true) :
    status.hasRemote = true ∨ ∃ kind description, ⟨.applyRemote kind description, none⟩ ∈ used := by
  induction path with
  | stop => exact .inl remote
  | step step _ ih =>
      rcases ih remote with before | ⟨kind, description, there⟩
      · cases step with
        | built | unbuilt | offers | rejects | fails | finishes => simp [Status.hasRemote] at before
        | takes | connects | reoffers => exact .inr ⟨_, _, List.mem_cons_self ..⟩
        | prepares | adds | reanswers | declines => exact .inl rfl
        | answers ready => exact .inl (by rcases ready with rfl | rfl | rfl <;> rfl)
        | switches => exact .inl before
      · exact .inr ⟨kind, description, List.mem_cons_of_mem _ there⟩

theorem Path.arrive (path : Path side .unused used final) (begun : final ≠ .unused) :
    ∃ before exchange here, used = before ++ [exchange] ∧ Path side .unused before here ∧
      Step side here exchange final := by
  rcases used.eq_nil_or_concat with rfl | ⟨before, exchange, rfl⟩
  · cases path
    exact absurd rfl begun
  · rw [List.concat_eq_append] at path ⊢
    rcases path.last with ⟨here, earlier, step⟩
    exact ⟨before, exchange, here, rfl, earlier, step⟩

theorem Path.to_offered (path : Path side .unused used .offered) :
    side = .answering ∧ ∃ pipeline offer,
      used = [⟨.build pipeline, none⟩, ⟨.applyRemote .offer offer, none⟩] := by
  rcases path.arrive (by simp) with ⟨before, exchange, here, rfl, earlier, step⟩
  cases step with
  | switches live => simp at live
  | takes =>
      rcases earlier.arrive (by simp) with ⟨first, exchange, here, rfl, start, step⟩
      cases step with
      | switches live => simp at live
      | built =>
          rcases start.to_unused with ⟨rfl, -⟩
          exact ⟨rfl, _, _, rfl⟩

/-- Candidates that came with the offer are handed over before anything was answered. -/
theorem Path.to_prepared (path : Path side .unused used .prepared) :
    side = .answering ∧ ∀ other ∈ used, other.request ≠ .answer := by
  rcases path.arrive (by simp) with ⟨before, exchange, here, rfl, earlier, step⟩
  cases step with
  | switches live => simp at live
  | prepares =>
      rcases earlier.to_offered with ⟨rfl, pipeline, offer, rfl⟩
      simp

theorem Path.to_reoffered (path : Path side .unused used .reoffered) :
    ∃ offer, used.getLast? = some ⟨.applyRemote .offer offer, none⟩ := by
  rcases path.arrive (by simp) with ⟨before, exchange, here, rfl, earlier, step⟩
  cases step with
  | switches live => simp at live
  | reoffers => exact ⟨_, List.getLast?_concat ..⟩

/-- An engine that comes to rest by the protocol was well used. -/
theorem Path.wellUsed (path : Path side .unused used final) (rests : final.isRest = true) :
    WellUsed side used where
  opening := path.opening rests
  once := by
    rintro before pipeline fault later rfl
    rcases path.inside with ⟨here, next, earlier, step, -⟩
    cases step with
    | built | unbuilt => exact earlier.to_unused.1
    | switches _ own => simp [Request.isOwn] at own
  answered := by
    rintro rfl before exchange later rfl silent delivery
    rcases path.inside with ⟨here, next, earlier, step, -⟩
    -- As long as nothing was delivered, no description was taken.
    have untaken (remote : here.hasRemote = true) : False := by
      rcases earlier.taken remote with unused | ⟨kind, description, there⟩
      · simp [Status.hasRemote] at unused
      · have delivered := silent _ there
        simp [Request.isDelivery] at delivered
    cases step with
    | connects | fails => exact ⟨_, rfl⟩
    | prepares | adds | reoffers | reanswers | declines => exact (untaken rfl).elim
    | built | unbuilt | offers | answers | finishes => simp [Request.isDelivery] at delivery
    | @switches _ _ request _ _ own =>
        cases request <;> simp_all [Request.isDelivery, Request.isOwn]
  answers := by
    rintro before fault later rfl
    rcases path.inside with ⟨here, next, earlier, step, -⟩
    cases step with
    | switches _ own => simp [Request.isOwn] at own
    | answers ready =>
        rcases ready with rfl | rfl | rfl
        · rcases earlier.to_offered with ⟨-, pipeline, offer, rfl⟩
          exact .inl ⟨offer, rfl⟩
        · exact .inr earlier.to_prepared
        · exact .inl earlier.to_reoffered
  candidates := by
    rintro before candidates fault later rfl
    rcases path.inside with ⟨here, next, earlier, step, -⟩
    cases step with
    | prepares usable | adds usable =>
        refine ⟨usable, (earlier.taken rfl).resolve_left ?_⟩
        simp [Status.hasRemote]
    | switches _ own => simp [Request.isOwn] at own
  finished := by
    rintro before fault later rfl
    rcases path.inside with ⟨here, next, -, step, rest⟩
    cases step with
    | finishes => exact rest.of_finished.1
    | switches _ own => simp [Request.isOwn] at own

/-- An engine whose pipeline was built and not taken down. -/
structure IsRunning (used : List Exchange) : Prop where
  built : ∃ pipeline, ⟨.build pipeline, none⟩ ∈ used
  unfinished : ∀ exchange ∈ used, exchange.request ≠ .finish

/-- A live engine was not asked to end. -/
theorem Path.unfinished (path : Path side status used final) (live : final ≠ .finished) :
    ∀ exchange ∈ used, exchange.request ≠ .finish := by
  intro exchange there is
  rcases List.append_of_mem there with ⟨before, later, rfl⟩
  rcases path.inside with ⟨here, next, -, step, rest⟩
  rcases exchange with ⟨request, fault⟩
  obtain rfl : request = .finish := is
  cases step with
  | finishes => exact live rest.of_finished.2
  | switches _ own => simp [Request.isOwn] at own

/-- An engine that was taken down by its last request, and by no other one. -/
def IsFinished (used : List Exchange) : Prop :=
  ∃ before fault, used = before ++ [⟨.finish, fault⟩] ∧
    ∀ exchange ∈ before, exchange.request ≠ .finish

/-- An engine that was built and is finished was taken down by its last request, and by no other
one. -/
theorem Path.finished {pipeline : Pipeline} (path : Path side .unused used .finished)
    (built : ⟨.build pipeline, none⟩ ∈ used) : IsFinished used := by
  rcases path.arrive (by simp) with ⟨before, exchange, here, rfl, earlier, step⟩
  cases step with
  | switches live => simp at live
  | unbuilt =>
      rcases earlier.to_unused with ⟨rfl, -⟩
      simp at built
  | finishes live =>
      refine ⟨before, _, rfl, earlier.unfinished ?_⟩
      rcases live with rfl | rfl | rfl <;> simp

theorem Path.not_isRunning (path : Path side .unused used .finished) : ¬ IsRunning used := by
  rintro ⟨⟨pipeline, built⟩, unfinished⟩
  rcases path.finished built with ⟨before, fault, rfl, -⟩
  exact unfinished ⟨.finish, fault⟩ (by simp) rfl

/-! ## What is asked and what is said -/

/-- The successful switches of the microphone among some requests. -/
def mutes (used : List Exchange) : List Bool :=
  used.filterMap fun exchange =>
    match exchange with
    | ⟨.setMuted muted, none⟩ => some muted
    | _ => none

@[simp]
theorem mutes_append (first second : List Exchange) :
    mutes (first ++ second) = mutes first ++ mutes second :=
  List.filterMap_append

variable {ε : Type} [MediaEngine ε] {engine : ε}

/-- An engine after some requests. -/
def after (engine : ε) (requests : List Request) : ε :=
  requests.foldl (fun current request => (MediaEngine.respond current request).engine) engine

/-- Some requests with what the engine says to them. -/
def exchanges (engine : ε) : List Request → List Exchange
  | [] => []
  | request :: later =>
      ⟨request, (MediaEngine.respond engine request).fault⟩ ::
        exchanges (MediaEngine.respond engine request).engine later

@[simp]
theorem after_append (first second : List Request) :
    after engine (first ++ second) = after (after engine first) second :=
  List.foldl_append

@[simp]
theorem exchanges_nil : exchanges engine [] = [] := rfl

@[simp]
theorem exchanges_append (first second : List Request) :
    exchanges engine (first ++ second) =
      exchanges engine first ++ exchanges (after engine first) second := by
  induction first generalizing engine with
  | nil => rfl
  | cons request later ih => simp [exchanges, ih, after]

end RoomCall.Engine

namespace RoomCall.Negotiation

open Engine (Status Path Step)

variable {ε : Type} [MediaEngine ε] {side : Role} {status next final : Status}
  {before negotiation later : Negotiation ε} {first second : List Bool}

/-- An operation that asks of the engine what the protocol allows. It leads the use of the engine
from one status to another, and switches the microphone some times with success. -/
def Conducts (side : Role) (before : Negotiation ε) (status : Status) (mutes : List Bool)
    (after : Negotiation ε) (next : Status) : Prop :=
  ∃ requests, after.id = before.id ∧
    Traffic.requests after.traffic = Traffic.requests before.traffic ++ requests ∧
    after.engine = Engine.after before.engine requests ∧
    Path side status (Engine.exchanges before.engine requests) next ∧
    Engine.mutes (Engine.exchanges before.engine requests) = mutes

theorem conducts_still (id : negotiation.id = before.id)
    (engine : negotiation.engine = before.engine)
    (traffic : negotiation.traffic = before.traffic) (status : Status) :
    Conducts side before status [] negotiation status :=
  ⟨[], id, by simp [traffic], engine, .stop status, rfl⟩

/-- What is conducted in two steps is conducted in both together. -/
theorem Conducts.trans (earlier : Conducts side before status first negotiation next)
    (after : Conducts side negotiation next second later final) :
    Conducts side before status (first ++ second) later final := by
  rcases earlier with ⟨requests, id, traffic, engine, path, mutes⟩
  rcases after with ⟨more, laterId, laterTraffic, laterEngine, laterPath, laterMutes⟩
  refine ⟨requests ++ more, laterId.trans id, ?_, ?_, ?_, ?_⟩
  · rw [laterTraffic, traffic, List.append_assoc]
  · rw [laterEngine, engine, Engine.after_append]
  · rw [Engine.exchanges_append]
    exact path.append (engine ▸ laterPath)
  · rw [Engine.exchanges_append, Engine.mutes_append, mutes, ← laterMutes, engine]

/-- A request that the protocol allows is conducted. -/
theorem conducts_ask (request : Engine.Request)
    (step : Step side status
      ⟨request, (MediaEngine.respond negotiation.engine request).fault⟩ next) :
    Conducts side negotiation status
      (Engine.mutes [⟨request, (MediaEngine.respond negotiation.engine request).fault⟩])
      (negotiation.ask request).1 next :=
  ⟨[request], rfl, requests_ask request, rfl, step.path, rfl⟩

theorem Conducts.congr (conducts : Conducts side before status first negotiation next)
    (id : later.id = negotiation.id) (engine : later.engine = negotiation.engine)
    (traffic : later.traffic = negotiation.traffic) :
    Conducts side before status first later next := by
  simpa using conducts.trans (conducts_still id engine traffic next)

/-! ## The operations -/

theorem addRemoteCandidates_usable (candidates : List Candidate) :
    negotiation.addRemoteCandidates candidates = negotiation ∨
      ∃ usable, Engine.Usable usable ∧
        negotiation.addRemoteCandidates candidates = negotiation.tell (.addCandidates usable) := by
  unfold addRemoteCandidates
  cases usable : candidates.filter fun candidate => !candidate.isEndMark with
  | nil => exact .inl rfl
  | cons first later =>
      refine .inr ⟨first :: later, ⟨by simp, ?_⟩, rfl⟩
      intro candidate there
      rw [← usable] at there
      simpa using (List.mem_filter.mp there).2

/-- Candidates of the other side may be handed to an engine that has both descriptions. -/
theorem conducts_addRemoteCandidates (candidates : List Candidate) :
    Conducts side negotiation .settled [] (negotiation.addRemoteCandidates candidates)
      .settled := by
  rcases negotiation.addRemoteCandidates_usable candidates with same | ⟨usable, are, told⟩
  · rw [same]
    exact conducts_still rfl rfl rfl _
  · rw [told]
    exact conducts_ask (.addCandidates usable) (.adds are)

/-- A remote description is one request; what else is remembered does not concern the engine. -/
theorem conducts_applyRemote {description : String} {kind : DescriptionKind} {user : UserId}
    {fault : Option Engine.Fault}
    (reply : (negotiation.applyRemote description kind user).2 = fault)
    (step : Step side status ⟨.applyRemote kind description, fault⟩ next) :
    Conducts side negotiation status [] (negotiation.applyRemote description kind user).1 next := by
  subst reply
  exact conducts_ask (.applyRemote kind description) step

/-- A description sent during the call is applied, and an offer that was taken is answered. -/
theorem conducts_renegotiate (description : String) (user : UserId) (isAnswer : Bool) :
    Conducts side negotiation .settled []
      (negotiation.renegotiate description user isAnswer).1 .settled := by
  unfold renegotiate
  split
  · exact conducts_still rfl rfl rfl _
  · split
    · have applied : Conducts side negotiation .settled []
          (negotiation.applyRemote description .answer user).1 .settled :=
        conducts_applyRemote rfl .reanswers
      split <;> simp_all
    · split
      · rename_i applied fault took
        have declined : Conducts side negotiation .settled []
            (negotiation.applyRemote description .offer user).1 .settled :=
          conducts_applyRemote (congrArg Prod.snd took) .declines
        rwa [took] at declined
      · rename_i applied took
        have taken : Conducts side negotiation .settled []
            (negotiation.applyRemote description .offer user).1 .reoffered :=
          conducts_applyRemote (congrArg Prod.snd took) .reoffers
        rw [took] at taken
        exact taken.trans (conducts_ask .answer (.answers (.inr (.inr rfl))))

/-- A callback leads to nothing that the protocol forbids. -/
theorem conducts_handle (callback : Engine.Callback)
    (live : status = .waiting ∨ status = .settled) :
    Conducts side negotiation status [] (negotiation.handle callback).1 status := by
  rcases negotiation.handle_fst callback with ⟨_, _, told⟩ | ⟨_, _, _, _, _, _, noted⟩
  · rw [told]
    exact conducts_ask .offer (.switches live rfl)
  · rw [noted]
    exact conducts_still rfl rfl rfl _

theorem conducts_toggleCamera (live : status = .waiting ∨ status = .settled) :
    Conducts side negotiation status [] negotiation.toggleCamera.1 status := by
  rcases negotiation.toggleCamera_cases with same | same
  · rw [same]
    exact conducts_still rfl rfl rfl _
  · rw [same]
    exact conducts_ask .toggleCamera (.switches live rfl)

theorem setMuted_eq (able : negotiation.canMute = true) (muted : Bool) :
    negotiation.setMuted muted =
      (negotiation.tell (.setMuted muted),
        match (MediaEngine.respond negotiation.engine (.setMuted muted)).fault with
        | some fault => .error (.media fault)
        | none => .ok ()) := by
  unfold setMuted
  rw [if_neg (by simp [able])]
  cases fault : (MediaEngine.respond negotiation.engine (.setMuted muted)).fault <;>
    simp [ask, tell, fault]

/-- The microphone is switched if and only if the operation succeeds. -/
theorem conducts_setMuted (muted : Bool) (live : status = .waiting ∨ status = .settled) :
    Conducts side negotiation status
      (match (negotiation.setMuted muted).2 with
        | .ok () => [muted]
        | .error _ => [])
      (negotiation.setMuted muted).1 status := by
  have asked := @conducts_ask ε _ side status status negotiation (.setMuted muted)
    (.switches live rfl)
  cases able : negotiation.canMute with
  | false =>
      have refused : negotiation.setMuted muted =
          (negotiation, .error (.wrongStage negotiation.progress)) := by
        simp [setMuted, able]
      rw [refused]
      exact conducts_still rfl rfl rfl _
  | true =>
      rw [setMuted_eq able]
      cases fault : (MediaEngine.respond negotiation.engine (.setMuted muted)).fault <;>
        rw [fault] at asked <;> exact asked

/-- A negotiation with a pipeline ends its engine. -/
theorem conducts_finish (pipeline : negotiation.hasPipeline = true)
    (live : status = .waiting ∨ status = .settled ∨ status = .broken) :
    Conducts side negotiation status [] negotiation.finish.1 .finished := by
  have told : Conducts side negotiation status [] (negotiation.tell .finish) .finished :=
    conducts_ask .finish (.finishes live)
  rw [finish_eq, if_pos pipeline, moveTo_fst]
  exact told.congr rfl rfl rfl

/-- A negotiation without a pipeline asks nothing of its engine when it ends. -/
theorem conducts_finish_unbuilt (pipeline : negotiation.hasPipeline = false) (status : Status) :
    Conducts side negotiation status [] negotiation.finish.1 status := by
  rw [finish_eq, if_neg (by simp [pipeline]), moveTo_fst]
  exact conducts_still rfl rfl rfl _

/-! ## Getting under way -/

end RoomCall.Negotiation

namespace RoomCall

/-- How far the use of the engine has come when a side has got under way. -/
def Role.begun : Role → Engine.Status
  | .offering => .waiting
  | .answering => .settled

namespace Negotiation

open Engine (Status)

variable {ε : Type} [MediaEngine ε] {side : Role} {negotiation : Negotiation ε}

/-- How a side gets under way with a new engine, or fails to. -/
inductive Begins (side : Role) (negotiation : Negotiation ε) :
    Negotiation ε × Except NegotiationError (List Notice) → Prop where
  | begun {opened : Negotiation ε} {notices : List Notice} (ice : opened.ice = negotiation.ice)
      (conducts : Conducts side negotiation .unused [] opened side.begun) :
      Begins side negotiation (opened, .ok notices)
  /-- No pipeline was built. -/
  | unbuilt {failed : Negotiation ε} {error : NegotiationError}
      (pipeline : failed.hasPipeline = false)
      (conducts : Conducts side negotiation .unused [] failed .finished) :
      Begins side negotiation (failed, .error error)
  /-- The pipeline was built, but the offer of the other side was refused. -/
  | rejected {failed : Negotiation ε} {error : NegotiationError}
      (pipeline : failed.hasPipeline = true)
      (conducts : Conducts side negotiation .unused [] failed .broken) :
      Begins side negotiation (failed, .error error)

theorem conducts_build {fault : Option Engine.Fault} {pipeline : Engine.Pipeline} (side : Role)
    (reply : (MediaEngine.respond negotiation.engine (.build pipeline)).fault = fault) :
    Conducts side negotiation .unused [] (negotiation.tell (.build pipeline))
      (if fault.isSome then .finished else .built) := by
  subst reply
  refine conducts_ask (.build pipeline) ?_
  cases (MediaEngine.respond negotiation.engine (.build pipeline)).fault with
  | none => exact .built
  | some fault => exact .unbuilt

/-- A call that is started gets under way with its engine as the offering side, or fails to. -/
theorem begins_start (idle : negotiation.progress = .disconnected)
    (bare : negotiation.hasPipeline = false) (pipeline : Engine.Pipeline) :
    Begins .offering negotiation (negotiation.start pipeline) := by
  unfold start
  rw [if_neg (by simp [idle])]
  rcases @build_cases ε _ { negotiation with role := some .offering } idle pipeline with
    ⟨fault, refusal, refused⟩ | ⟨consent, built⟩
  · have asked := conducts_build .offering refusal
    rw [refused]
    exact .unbuilt bare asked
  · have asked := conducts_build .offering consent
    have offered := asked.trans (conducts_ask .offer .offers)
    rw [built]
    exact .begun rfl (offered.congr rfl rfl rfl)

/-- Candidates that come with an offer are handed over before the answer is asked for. -/
theorem conducts_answer (candidates : List Candidate) :
    Conducts side negotiation .offered []
      ((negotiation.addRemoteCandidates candidates).tell .answer) .settled := by
  rcases negotiation.addRemoteCandidates_usable candidates with same | ⟨usable, are, told⟩
  · rw [same]
    exact conducts_ask .answer (.answers (.inl rfl))
  · rw [told]
    have handed : Conducts side negotiation .offered [] (negotiation.tell (.addCandidates usable))
        .prepared :=
      conducts_ask (.addCandidates usable) (.prepares are)
    exact handed.trans (conducts_ask .answer (.answers (.inr (.inl rfl))))

/-- With a pipeline the answering side takes the offer and answers it, or the offer is refused. -/
theorem begins_offered {built : Negotiation ε}
    (asked : Conducts .answering negotiation .unused [] built .built)
    (pipeline : built.hasPipeline = true) (ice : built.ice = negotiation.ice) (offer : String)
    (candidates : List Candidate) (user : UserId) (notices : List Notice) :
    Begins .answering negotiation
      (match built.applyRemote offer .offer user with
        | (applied, some fault) => (applied, .error (.media fault))
        | (applied, none) =>
            ((applied.addRemoteCandidates candidates).tell .answer, .ok notices)) := by
  split
  · rename_i applied fault took
    have rejected : Conducts .answering built .built [] (built.applyRemote offer .offer user).1
        .broken :=
      conducts_applyRemote (congrArg Prod.snd took) .rejects
    have same : applied.hasPipeline = built.hasPipeline :=
      (congrArg (fun reply => reply.1.hasPipeline) took).symm
    rw [took] at rejected
    exact .rejected (same.trans pipeline) (asked.trans rejected)
  · rename_i applied took
    have taken : Conducts .answering built .built [] (built.applyRemote offer .offer user).1
        .offered :=
      conducts_applyRemote (congrArg Prod.snd took) .takes
    have same : applied.ice = built.ice := (congrArg (fun reply => reply.1.ice) took).symm
    rw [took] at taken
    refine .begun ?_ ((asked.trans taken).trans (conducts_answer candidates))
    change (applied.addRemoteCandidates candidates).ice = negotiation.ice
    rw [ice_of_bearing (bearing_addRemoteCandidates candidates), same, ice]

/-- An offer with audio that is accepted gets under way with its engine as the answering side, or
fails to. -/
theorem begins_acceptOffer (idle : negotiation.progress = .disconnected)
    (bare : negotiation.hasPipeline = false) (pipeline : Engine.Pipeline) {offer : String}
    (compatible : Description.hasCompatibleAudio offer = true) (candidates : List Candidate)
    (user : UserId) :
    Begins .answering negotiation (negotiation.acceptOffer pipeline offer candidates user) := by
  unfold acceptOffer
  rw [if_neg (by simp [idle]), if_neg (by simp [compatible])]
  rcases @build_cases ε _ { negotiation with role := some .answering } idle pipeline with
    ⟨fault, refusal, refused⟩ | ⟨consent, built⟩
  · have asked := conducts_build .answering refusal
    rw [refused]
    exact .unbuilt bare asked
  · have asked := conducts_build .answering consent
    rw [built]
    refine begins_offered ?_ ?_ ?_ offer candidates user _
    · exact asked.congr rfl rfl rfl
    · rfl
    · rfl

end Negotiation

end RoomCall
