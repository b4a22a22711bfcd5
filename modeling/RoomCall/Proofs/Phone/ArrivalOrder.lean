import RoomCall.Proofs.Phone.Given

/-!
# The order in which an answer and its candidates arrive

The answer to a call and the candidates of the side that answers are separate messages, and rooms do
not keep them in order. Until the answer is there candidates are held back; the answer is applied as
soon as there is something to connect to, which may be a candidate before it, one behind it or one
of its own; and what arrives later goes to the engine at once. The outcome is the same wherever the
answer stands among the candidates.
-/

namespace RoomCall

open LogEntry (given)
open Engine (Request)

variable {ε : Type}

namespace LogEntry

/-- The announcements among some entries. -/
def announced (entries : List LogEntry) : List Announcement :=
  entries.filterMap fun entry =>
    match entry with
    | .announcement content => some content
    | _ => none

@[simp]
theorem announced_append (first second : List LogEntry) :
    announced (first ++ second) = announced first ++ announced second :=
  List.filterMap_append

@[simp]
theorem announced_traffic (session : SessionId) (contents : List Traffic) :
    announced (contents.map (LogEntry.traffic session)) = [] := by
  simp [announced]

end LogEntry

namespace Call

/-- A run that brings an answer to a call and batches of candidates, in this order of the batches
and with the answer anywhere among them. -/
def Delivers (call : Call ε) (answer : Answer) (batches : List CandidateBatch)
    (run : List (Instant × Occurrence)) : Prop :=
  ∃ first second, batches = first ++ second ∧
    run.map (fun entry => call.heard? entry.2) =
      (first.map Message.candidates ++ .answer answer :: second.map Message.candidates).map some

theorem admits_of_party (call : Call ε) {party : Option PartyId} (same : party = call.remoteParty) :
    call.admits party = true := by
  unfold admits
  rw [same]
  cases call.remoteParty <;> simp

/-- The call that holds back nothing but some batches of candidates. -/
def gathering (call : Call ε) (batches : List CandidateBatch) : Call ε :=
  { call with
    heldCandidates := batches.flatMap fun batch =>
      batch.candidates.map fun candidate => (batch.party, candidate) }

theorem gathering_nil {call : Call ε} (empty : call.heldCandidates = []) :
    call.gathering [] = call := by
  unfold gathering
  rw [List.flatMap_nil, ← empty]

theorem holding_gathering (call : Call ε) (batches : List CandidateBatch)
    (batch : CandidateBatch) :
    (call.gathering batches).holding batch = call.gathering (batches ++ [batch]) := by
  simp [holding, gathering]

end Call

namespace Phone

variable [MediaEngine ε] {phone after : Phone ε} {call : Call ε} {answer : Answer}
  {batches : List CandidateBatch} {occurrence : Occurrence} {now : Instant}

/-- An outgoing call whose offer is out, that knows nothing of its other side, and whose engine
takes an answer. -/
structure AwaitsAnswer (phone : Phone ε) (call : Call ε) (negotiation : Negotiation ε)
    (answer : Answer) : Prop where
  current : phone.call = some call
  outgoing : phone.phase = .outgoing
  opened : call.negotiation = some negotiation
  sent : negotiation.progress = .offerSent
  unheld : call.heldDescription = none
  empty : call.heldCandidates = []
  unbound : call.remoteParty = none
  takes : (MediaEngine.respond negotiation.engine
    (.applyRemote .answer answer.description)).fault = none

/-- A call that was established by an answer after some batches of candidates, with the entries that
were written for it. -/
structure Establishes (call : Call ε) (answer : Answer) (batches : List CandidateBatch)
    (entries : List LogEntry) (after : Phone ε) : Prop where
  active : after.phase = .active
  /-- Nothing is held back, and the other side is the party of the answer. -/
  there : ∃ later, after.call = some later ∧ later.identity = call.identity ∧
    later.remoteParty = answer.party ∧ later.heldDescription = none ∧ later.heldCandidates = []
  /-- The engine was given the answer once, and after it the candidates in their order. -/
  gives : ∃ requests, given entries = .applyRemote .answer answer.description :: requests ∧
    (∀ request ∈ requests, ∃ candidates, request = .addCandidates candidates) ∧
    requests.flatMap Request.candidates =
      Candidate.usable (batches.flatMap CandidateBatch.candidates)
  announces : LogEntry.announced entries = [.phaseChanged .active]

omit [MediaEngine ε] in
theorem addCandidates_of_candidateRequests (candidates : List Candidate) :
    ∀ request ∈ Negotiation.candidateRequests candidates,
      ∃ usable, request = .addCandidates usable := by
  intro request there
  unfold Negotiation.candidateRequests at there
  split at there
  · cases there
  · exact ⟨_, List.mem_singleton.mp there⟩

/-- The phone with another account of its call. -/
def withCall (phone : Phone ε) (call : Call ε) : Phone ε :=
  { phone with call := some call }

section

variable {negotiation : Negotiation ε}

omit [MediaEngine ε] in
theorem withCall_self (current : phone.call = some call) : phone.withCall call = phone := by
  unfold withCall
  rw [← current]

/-- Candidates that arrive before the answer are held back. -/
theorem run_gathering (coherent : phone.Coherent)
    (awaits : phone.AwaitsAnswer call negotiation answer) (done first : List CandidateBatch)
    {run : List (Instant × Occurrence)}
    (brings : run.map (fun entry => call.heard? entry.2) =
      (first.map Message.candidates).map some) :
    (phone.withCall (call.gathering done)).run run =
      phone.withCall (call.gathering (done ++ first)) := by
  induction first generalizing done run with
  | nil =>
      obtain rfl : run = [] := by simpa using brings
      simp [Phone.run]
  | cons batch later ih =>
      cases run with
      | nil => simp at brings
      | cons entry rest =>
          simp only [List.map_cons, List.cons.injEq] at brings
          rcases brings with ⟨heard, brings⟩
          have stands : (phone.withCall (call.gathering done)).Coherent :=
            coherent.recall awaits.current awaits.outgoing rfl rfl rfl rfl rfl rfl
          have listens : (call.gathering done).heard? entry.2 = some (.candidates batch) := heard
          have admits : (call.gathering done).admits batch.party = true := by
            simp [Call.admits, Call.gathering, awaits.unbound]
          have held : (phone.withCall (call.gathering done)).after entry.1 entry.2 =
              phone.withCall (call.gathering (done ++ [batch])) := by
            rw [after_of_candidates stands rfl awaits.outgoing listens admits,
              Call.holding_gathering]
            apply tryAnswer_unready rfl
            intro description _ waits
            exact absurd (awaits.unheld.symm.trans waits) (by simp)
          change Phone.run (Phone.after _ entry.1 entry.2) rest = _
          rw [held, ih (done ++ [batch]) brings]
          simp

/-- An answer that is held back establishes the call as soon as there is something to connect to. -/
theorem establishes_tryAnswer {other : Call ε} (awaits : phone.AwaitsAnswer call negotiation answer)
    (quiet : negotiation.traffic = []) (same : other.identity = call.identity)
    (opened : other.negotiation = some negotiation)
    (held : other.heldDescription = some answer.description)
    (bound : other.remoteParty = answer.party)
    (ready : canConnect other answer.description = true)
    (waiting : other.heldCandidates.map Prod.snd = batches.flatMap CandidateBatch.candidates) :
    ∃ entries, (phone.withCall other).tryAnswer.log = phone.log ++ entries ∧
      Establishes call answer batches entries (phone.withCall other).tryAnswer := by
  have outgoing : (phone.withCall other).phase = .outgoing := awaits.outgoing
  have settles : Settles (phone.withCall other) other (phone.withCall other).tryAnswer :=
    settles_tryAnswer rfl outgoing
  generalize (phone.withCall other).tryAnswer = after at settles
  cases settles with
  | waits unready => exact absurd awaits.sent (unready _ _ held opened ready)
  | @refused description refusing failed fault answered open' sent rejected =>
      obtain rfl : negotiation = refusing := Option.some.inj (opened.symm.trans open')
      obtain rfl : answer.description = description := Option.some.inj (held.symm.trans answered)
      have takes : (negotiation.applyRemote answer.description .answer other.remoteUser).2 = none :=
        awaits.takes
      simp [rejected] at takes
  | @applied description applying answered open' sent connects taken =>
      obtain rfl : negotiation = applying := Option.some.inj (opened.symm.trans open')
      obtain rfl : answer.description = description := Option.some.inj (held.symm.trans answered)
      refine ⟨((negotiation.applyRemote answer.description .answer
        other.remoteUser).1.addRemoteCandidates (other.heldCandidates.map Prod.snd)).traffic.map
          (LogEntry.traffic negotiation.id) ++
            .errand .cancelTimer :: phaseEntries phone.phase .active, ?_, rfl, ?_, ?_, ?_⟩
      · simp [noted, keep_eq, withCall]
      · exact ⟨_, rfl, same, bound, rfl, rfl⟩
      · refine ⟨Negotiation.candidateRequests (other.heldCandidates.map Prod.snd), ?_,
          addCandidates_of_candidateRequests _, ?_⟩
        · simp [quiet]
        · rw [Negotiation.candidates_candidateRequests, waiting]
      · rw [LogEntry.announced_append, LogEntry.announced_traffic, awaits.outgoing]
        rfl

/-- Candidates for an established call go to the engine at once. -/
theorem establishes_candidates {entries : List LogEntry} {batch : CandidateBatch}
    (coherent : after.Coherent) (establishes : Establishes call answer batches entries after)
    (heard : call.heard? occurrence = some (.candidates batch))
    (party : batch.party = answer.party) (now : Instant) :
    ∃ more, (after.after now occurrence).log = after.log ++ more ∧
      Establishes call answer (batches ++ [batch]) (entries ++ more)
        (after.after now occurrence) := by
  rcases establishes with ⟨active, ⟨later, current, same, bound, unheld, empty⟩, gives, announces⟩
  have listens : later.heard? occurrence = some (.candidates batch) := by
    rw [Call.heard?_congr same, heard]
  have stands := coherent.stands current
  rw [active] at stands
  cases stands with
  | @established _ negotiation side opened runs =>
      have quiet := coherent.collected current opened
      have handed : after.after now occurrence =
          after.keep later (negotiation.addRemoteCandidates batch.candidates) := by
        rw [after_of_heard coherent current listens, if_neg, hearRemote,
          hearCandidates_live opened runs (.inl active)]
        rw [isForeignParty_eq later rfl]
        simp [later.admits_of_party (party.trans bound.symm), Message.party]
      rcases gives with ⟨requests, leads, kinds, candidates⟩
      rw [handed]
      refine ⟨(negotiation.addRemoteCandidates batch.candidates).traffic.map (LogEntry.traffic
        (negotiation.addRemoteCandidates batch.candidates).id), rfl, active,
          ⟨_, rfl, same, bound, unheld, empty⟩, ?_, ?_⟩
      · refine ⟨requests ++ Negotiation.candidateRequests batch.candidates, ?_, ?_, ?_⟩
        · simp [leads, quiet]
        · intro request there
          rcases List.mem_append.mp there with before | new
          · exact kinds request before
          · exact addCandidates_of_candidateRequests _ request new
        · rw [List.flatMap_append, candidates, Negotiation.candidates_candidateRequests]
          simp
      · rw [LogEntry.announced_append, announces, LogEntry.announced_traffic]
        rfl

/-- How far an outgoing call is that has heard its answer and some batches of candidates: it waits
for something to connect to, or it is established. -/
inductive Takes (phone : Phone ε) (call : Call ε) (negotiation : Negotiation ε) (answer : Answer)
    (batches : List CandidateBatch) : Phone ε → Prop where
  | waits {other : Call ε} (same : other.identity = call.identity)
      (opened : other.negotiation = some negotiation)
      (held : other.heldDescription = some answer.description)
      (bound : other.remoteParty = answer.party)
      (waiting : other.heldCandidates.map Prod.snd = batches.flatMap CandidateBatch.candidates)
      (unready : canConnect other answer.description = false) :
      Takes phone call negotiation answer batches (phone.withCall other)
  | established {entries : List LogEntry} {after : Phone ε} (log : after.log = phone.log ++ entries)
      (establishes : Establishes call answer batches entries after) :
      Takes phone call negotiation answer batches after

theorem takes_tryAnswer {other : Call ε} (awaits : phone.AwaitsAnswer call negotiation answer)
    (quiet : negotiation.traffic = []) (same : other.identity = call.identity)
    (opened : other.negotiation = some negotiation)
    (held : other.heldDescription = some answer.description)
    (bound : other.remoteParty = answer.party)
    (waiting : other.heldCandidates.map Prod.snd = batches.flatMap CandidateBatch.candidates) :
    phone.Takes call negotiation answer batches (phone.withCall other).tryAnswer := by
  cases ready : canConnect other answer.description with
  | true =>
      rcases establishes_tryAnswer awaits quiet same opened held bound ready waiting with
        ⟨entries, log, establishes⟩
      exact .established log establishes
  | false =>
      have still : (phone.withCall other).tryAnswer = phone.withCall other := by
        refine @tryAnswer_unready ε _ _ other rfl ?_
        intro description _ there _ connects
        obtain rfl : answer.description = description := Option.some.inj (held.symm.trans there)
        simp [ready] at connects
      rw [still]
      exact .waits same opened held bound waiting ready

/-- The answer takes effect together with the candidates that came before it. -/
theorem takes_answer (coherent : phone.Coherent)
    (awaits : phone.AwaitsAnswer call negotiation answer) (first : List CandidateBatch)
    (parties : ∀ batch ∈ first, batch.party = answer.party)
    (heard : call.heard? occurrence = some (.answer answer)) (now : Instant) :
    phone.Takes call negotiation answer first
      ((phone.withCall (call.gathering first)).after now occurrence) := by
  have stands : (phone.withCall (call.gathering first)).Coherent :=
    coherent.recall awaits.current awaits.outgoing rfl rfl rfl rfl rfl rfl
  have listens : (call.gathering first).heard? occurrence = some (.answer answer) := heard
  have unbound : (call.gathering first).remoteParty = none := awaits.unbound
  have taken : (phone.withCall (call.gathering first)).after now occurrence =
      (phone.withCall ((call.gathering first).answeredBy answer)).tryAnswer :=
    after_of_first stands rfl awaits.outgoing listens awaits.unheld unbound now
  have waiting : ((call.gathering first).answeredBy answer).heldCandidates =
      (call.gathering first).heldCandidates := by
    rw [Call.heldCandidates_answeredBy, List.filter_eq_self]
    intro held there
    rcases List.mem_flatMap.mp there with ⟨batch, inside, mapped⟩
    rcases List.mem_map.mp mapped with ⟨candidate, _, rfl⟩
    rw [parties batch inside]
    cases answer.party <;> simp
  rw [taken]
  refine takes_tryAnswer awaits (coherent.collected awaits.current awaits.opened) ?_ ?_ rfl
    (Call.remoteParty_answeredBy unbound answer) ?_
  · exact identity_answeredBy answer
  · exact (Call.negotiation_answeredBy _ answer).trans awaits.opened
  · rw [waiting]
    simp [Call.gathering, List.map_flatMap, Function.comp_def]

/-- Candidates that come after the answer are handed on at once. -/
theorem takes_candidates {batch : CandidateBatch} (coherent : phone.Coherent)
    (awaits : phone.AwaitsAnswer call negotiation answer) (stands : after.Coherent)
    (takes : phone.Takes call negotiation answer batches after)
    (heard : call.heard? occurrence = some (.candidates batch))
    (party : batch.party = answer.party) (now : Instant) :
    phone.Takes call negotiation answer (batches ++ [batch]) (after.after now occurrence) := by
  cases takes with
  | @waits other same opened held bound waiting unready =>
      have listens : other.heard? occurrence = some (.candidates batch) := by
        rw [Call.heard?_congr same, heard]
      have taken : (phone.withCall other).after now occurrence =
          (phone.withCall (other.holding batch)).tryAnswer :=
        after_of_candidates stands rfl awaits.outgoing listens
          (other.admits_of_party (party.trans bound.symm)) now
      rw [taken]
      refine takes_tryAnswer awaits (coherent.collected awaits.current awaits.opened) same opened
        held bound ?_
      simp [Call.holding, waiting, Function.comp_def]
  | established log establishes =>
      rcases establishes_candidates stands establishes heard party now with ⟨more, grown, settled⟩
      refine .established ?_ settled
      rw [grown, log, List.append_assoc]

/-- All candidates that come after the answer are handed on. -/
theorem takes_run (coherent : phone.Coherent) (awaits : phone.AwaitsAnswer call negotiation answer)
    (second : List CandidateBatch) (parties : ∀ batch ∈ second, batch.party = answer.party)
    {run : List (Instant × Occurrence)} (stands : after.Coherent)
    (takes : phone.Takes call negotiation answer batches after)
    (brings : run.map (fun entry => call.heard? entry.2) =
      (second.map Message.candidates).map some) :
    phone.Takes call negotiation answer (batches ++ second) (after.run run) := by
  induction second generalizing batches after run with
  | nil =>
      obtain rfl : run = [] := by simpa using brings
      rwa [List.append_nil]
  | cons batch later ih =>
      cases run with
      | nil => simp at brings
      | cons entry rest =>
          simp only [List.map_cons, List.cons.injEq] at brings
          rcases brings with ⟨heard, brings⟩
          have next := takes_candidates coherent awaits stands takes heard
            (parties batch (List.mem_cons_self ..)) entry.1
          rw [List.append_cons]
          change phone.Takes call negotiation answer _ ((after.after entry.1 entry.2).run rest)
          exact ih (fun batch there => parties batch (List.mem_cons_of_mem _ there))
            (coherent_of_move (move_after stands entry.1 entry.2) stands) next brings

/-- Wherever the answer stands among the batches of candidates, the call is established once there
is something to connect to. -/
theorem establishes_run (coherent : phone.Coherent)
    (awaits : phone.AwaitsAnswer call negotiation answer)
    (parties : ∀ batch ∈ batches, batch.party = answer.party)
    (ready : (∃ batch ∈ batches, batch.candidates ≠ []) ∨
      Description.hasInlineCandidates answer.description = true)
    {run : List (Instant × Occurrence)} (delivers : call.Delivers answer batches run) :
    Establishes call answer batches (written phone (phone.run run)) (phone.run run) := by
  rcases delivers with ⟨first, second, rfl, brings⟩
  rw [List.map_append, List.map_cons] at brings
  rcases List.map_eq_append_iff.mp brings with ⟨earlier, rest, rfl, before, behind⟩
  rcases List.map_eq_cons_iff.mp behind with ⟨entry, later, rfl, heard, after⟩
  have split : phone.run (earlier ++ entry :: later) =
      (((phone.run earlier).after entry.1 entry.2).run later) := by
    simp [Phone.run]
  have start : phone.withCall (call.gathering []) = phone := by
    rw [Call.gathering_nil awaits.empty, withCall_self awaits.current]
  have gathered : phone.run earlier = phone.withCall (call.gathering first) := by
    have held := run_gathering coherent awaits [] first before
    rwa [start] at held
  have stands : (phone.withCall (call.gathering first)).Coherent :=
    coherent.recall awaits.current awaits.outgoing rfl rfl rfl rfl rfl rfl
  have answered := takes_answer coherent awaits first
    (fun batch there => parties batch (List.mem_append_left _ there)) heard entry.1
  have takes := takes_run coherent awaits second
    (fun batch there => parties batch (List.mem_append_right _ there))
    (coherent_of_move (move_after stands entry.1 entry.2) stands) answered after
  rw [split, gathered]
  generalize ((phone.withCall (call.gathering first)).after entry.1 entry.2).run later = final
    at takes
  cases takes with
  | established log establishes => exact (written_eq log).symm ▸ establishes
  | waits _ _ _ _ waiting unready =>
      simp only [canConnect, Bool.or_eq_false_iff, Bool.not_eq_eq_eq_not, Bool.not_false,
        List.isEmpty_iff] at unready
      rw [unready.1, List.map_nil, eq_comm, List.flatMap_eq_nil_iff] at waiting
      rcases ready with ⟨batch, there, some⟩ | inline
      · exact absurd (waiting batch there) some
      · simp [unready.2] at inline

/-- An answer and its candidates establish a call in whatever order they arrive. As long as the
candidates keep their order among themselves, nothing else depends on it. -/
theorem established_in_any_order {history : History} (reached : phone.Reached history)
    (awaits : phone.AwaitsAnswer call negotiation answer)
    (parties : ∀ batch ∈ batches, batch.party = answer.party)
    (ready : (∃ batch ∈ batches, batch.candidates ≠ []) ∨
      Description.hasInlineCandidates answer.description = true) :
    (∀ run, call.Delivers answer batches run →
      Establishes call answer batches (written phone (phone.run run)) (phone.run run)) ∧
    ∀ run other, call.Delivers answer batches run → call.Delivers answer batches other →
      (phone.run run).phase = (phone.run other).phase ∧
      (phone.run run).call.map Call.remoteParty = (phone.run other).call.map Call.remoteParty ∧
      (given (written phone (phone.run run))).flatMap Request.candidates =
        (given (written phone (phone.run other))).flatMap Request.candidates ∧
      LogEntry.announced (written phone (phone.run run)) =
        LogEntry.announced (written phone (phone.run other)) := by
  have each (run : List (Instant × Occurrence)) (delivers : call.Delivers answer batches run) :=
    establishes_run (coherent_of_reached reached) awaits parties ready delivers
  refine ⟨each, ?_⟩
  intro run other delivers delivers'
  have first := each run delivers
  have second := each other delivers'
  refine ⟨first.active.trans second.active.symm, ?_, ?_,
    first.announces.trans second.announces.symm⟩
  · rcases first.there with ⟨later, current, _, bound, _⟩
    rcases second.there with ⟨later', current', _, bound', _⟩
    rw [current, current', Option.map_some, Option.map_some, bound, bound']
  · rcases first.gives with ⟨requests, leads, _, candidates⟩
    rcases second.gives with ⟨requests', leads', _, candidates'⟩
    rw [leads, leads', List.flatMap_cons, List.flatMap_cons, candidates, candidates']

end

/-- The answer of a device. -/
def mobileAnswer : Answer :=
  ⟨CallId.fresh 0 "0", some ⟨"mobile"⟩, "answer", []⟩

/-- What a device sends of candidates: first none, and then one behind an end mark. -/
def mobileBatches : List CandidateBatch :=
  [⟨CallId.fresh 0 "0", some ⟨"mobile"⟩, []⟩,
    ⟨CallId.fresh 0 "0", some ⟨"mobile"⟩, [⟨"", 0, "0"⟩, ⟨"path", 0, "0"⟩]⟩]

/-- The answer arrives between the two batches. -/
def mixedRun : List (Instant × Occurrence) :=
  (([mobileBatches[0]].map Message.candidates ++ .answer mobileAnswer ::
    [mobileBatches[1]].map Message.candidates)).map
      fun message => (4, .signal pair ⟨⟨"@bob"⟩, 4, message⟩)

theorem established_in_any_order_mixedRun :
    ∃ call, (follow (scripted, {}) dialedRun).1.call = some call ∧
      Establishes call mobileAnswer mobileBatches
        (written (follow (scripted, {}) dialedRun).1
          ((follow (scripted, {}) dialedRun).1.run mixedRun))
        ((follow (scripted, {}) dialedRun).1.run mixedRun) := by
  have applies : ∃ call negotiation,
      (follow (scripted, {}) dialedRun).1.AwaitsAnswer call negotiation mobileAnswer ∧
        call.Delivers mobileAnswer mobileBatches mixedRun :=
    ⟨_, _, ⟨rfl, rfl, rfl, rfl, rfl, rfl, rfl, by decide⟩,
      [mobileBatches[0]], [mobileBatches[1]], rfl, by decide⟩
  rcases applies with ⟨call, negotiation, awaits, delivers⟩
  exact ⟨call, awaits.current, (established_in_any_order
    (reached_follow (.new isNew_scripted) dialedRun) awaits (by decide) (.inl (by decide))).1
      mixedRun delivers⟩

end Phone

end RoomCall
