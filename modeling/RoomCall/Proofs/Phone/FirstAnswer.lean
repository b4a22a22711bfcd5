import RoomCall.Proofs.Phone.Given

/-!
# The first answer wins

Several devices of the other side may answer a call that was started here, and what they send may
come in any order. The call goes by the answer that arrives first: its party is the other side from
then on, its description is the one that the engine is given, and nothing that names another party
reaches the engine, not even what was held back before the answer came. `Call.Heeds` is the
invariant behind this, with one case for each stage of the exchange.
-/

namespace RoomCall

open LogEntry (given)
open Engine (Request)

variable {ε : Type}

namespace Call

/-- The answer that an occurrence brings from the other side of a call, whatever its party. -/
def answer? (call : Call ε) (occurrence : Occurrence) : Option Answer :=
  match call.heard? occurrence with
  | some (.answer answer) => some answer
  | _ => none

/-- The first answer among some occurrences. -/
def firstAnswer? (call : Call ε) (occurrences : List Occurrence) : Option Answer :=
  occurrences.findSome? call.answer?

/-- The candidates that the other side of a call has sent, without those that name another party
than a known one. -/
def sentBy (call : Call ε) (party : Option PartyId) (occurrences : List Occurrence) :
    List Candidate :=
  ((occurrences.flatMap call.brought).filter fun candidate =>
    party.all fun known => candidate.1.all (· = known)).map Prod.snd

/-- The new descriptions that the other side of a call has sent, without those that name another
party than a known one. -/
def redescribedBy (call : Call ε) (party : Option PartyId) (occurrences : List Occurrence) :
    List String :=
  occurrences.filterMap fun occurrence =>
    match call.heard? occurrence with
    | some (.negotiate content) =>
        if party.all fun known => content.party.all (· = known) then some content.description
        else none
    | _ => none

variable {call later : Call ε} {phase : Phase} {occurrences : List Occurrence}
  {occurrence : Occurrence} {entries more : List LogEntry} {party : Option PartyId}

/-- The first answer is not replaced by a later one. -/
theorem firstAnswer?_append (occurrences : List Occurrence) (occurrence : Occurrence) :
    call.firstAnswer? (occurrences ++ [occurrence]) =
      (call.firstAnswer? occurrences).or (call.answer? occurrence) := by
  unfold firstAnswer?
  rw [List.findSome?_append, List.findSome?_singleton]

theorem firstAnswer?_append_of_some {answer : Answer}
    (first : call.firstAnswer? occurrences = some answer) (occurrence : Occurrence) :
    call.firstAnswer? (occurrences ++ [occurrence]) = some answer := by
  rw [firstAnswer?_append, first, Option.some_or]

theorem sentBy_append (party : Option PartyId) (occurrences : List Occurrence)
    (occurrence : Occurrence) :
    call.sentBy party (occurrences ++ [occurrence]) =
      call.sentBy party occurrences ++ call.sentBy party [occurrence] := by
  simp [sentBy]

theorem sentBy_remoteParty (occurrences : List Occurrence) :
    call.sentBy call.remoteParty occurrences = (call.collected occurrences).map Prod.snd := rfl

theorem sentBy_of_admitted :
    call.sentBy call.remoteParty [occurrence] = (call.admitted occurrence).map Prod.snd := by
  simp [sentBy_remoteParty, collected, admitted]

theorem redescribedBy_append (party : Option PartyId) (occurrences : List Occurrence)
    (occurrence : Occurrence) :
    call.redescribedBy party (occurrences ++ [occurrence]) =
      call.redescribedBy party occurrences ++ call.redescribedBy party [occurrence] :=
  List.filterMap_append

theorem answer?_congr (same : later.identity = call.identity) : later.answer? = call.answer? := by
  funext occurrence
  simp only [answer?, heard?_congr same]

theorem firstAnswer?_congr (same : later.identity = call.identity) (occurrences : List Occurrence) :
    later.firstAnswer? occurrences = call.firstAnswer? occurrences := by
  simp only [firstAnswer?, answer?_congr same]

theorem sentBy_congr (same : later.identity = call.identity) (party : Option PartyId)
    (occurrences : List Occurrence) :
    later.sentBy party occurrences = call.sentBy party occurrences := by
  have brought : later.brought = call.brought := by
    funext occurrence
    simp only [brought, heard?_congr same]
  simp only [sentBy, brought]

theorem redescribedBy_congr (same : later.identity = call.identity) (party : Option PartyId)
    (occurrences : List Occurrence) :
    later.redescribedBy party occurrences = call.redescribedBy party occurrences := by
  simp only [redescribedBy, heard?_congr same]

/-- What engines were given for a call that stood in some phase before the last step goes by the
first answer to the call. -/
inductive Obeys (call : Call ε) (phase : Phase) (occurrences : List Occurrence)
    (entries : List LogEntry) : Prop where
  | silent (nothing : given entries = [])
  | led {answer : Answer} {later : List Request}
      (first : call.firstAnswer? occurrences = some answer)
      (leads : given entries = .applyRemote .answer answer.description :: later)
      (once : phase = .outgoing → later.filterMap Request.description? = [])
      (descriptions : (later.filterMap Request.description?).Sublist
        (call.redescribedBy answer.party occurrences))
      (candidates : later.flatMap Request.candidates <+:
        Candidate.usable (call.sentBy answer.party occurrences)) :
      Obeys call phase occurrences entries

/-- How a call that was started here stands with the answers that it has heard. -/
inductive Heeds (call : Call ε) (occurrences : List Occurrence) (entries : List LogEntry) :
    Phase → Prop where
  /-- There was no answer yet. -/
  | unanswered (none : call.firstAnswer? occurrences = none)
      (unheld : call.heldDescription = .none) (unbound : call.remoteParty = .none)
      (nothing : given entries = []) : Heeds call occurrences entries .outgoing
  /-- The first answer is held back. -/
  | answered {answer : Answer} (first : call.firstAnswer? occurrences = some answer)
      (held : call.heldDescription = some answer.description)
      (bound : call.remoteParty = answer.party) (nothing : given entries = []) :
      Heeds call occurrences entries .outgoing
  /-- The first answer was applied, and what the same party sends goes to the engine. -/
  | established {answer : Answer} {later : List Request}
      (first : call.firstAnswer? occurrences = some answer)
      (bound : call.remoteParty = answer.party)
      (leads : given entries = .applyRemote .answer answer.description :: later)
      (descriptions : (later.filterMap Request.description?).Sublist
        (call.redescribedBy answer.party occurrences))
      (candidates : later.flatMap Request.candidates =
        Candidate.usable (call.sentBy answer.party occurrences)) :
      Heeds call occurrences entries .active

theorem Obeys.congr (obeys : later.Obeys phase occurrences entries)
    (same : later.identity = call.identity) : call.Obeys phase occurrences entries := by
  cases obeys with
  | silent nothing => exact .silent nothing
  | led first leads once descriptions candidates =>
      rw [firstAnswer?_congr same] at first
      rw [redescribedBy_congr same] at descriptions
      rw [sentBy_congr same] at candidates
      exact .led first leads once descriptions candidates

/-- A call goes on to obey if its engine is given nothing. -/
theorem Obeys.extend (obeys : call.Obeys phase occurrences entries) (occurrence : Occurrence)
    (nothing : given more = []) :
    call.Obeys phase (occurrences ++ [occurrence]) (entries ++ more) := by
  have same : given (entries ++ more) = given entries := by
    rw [LogEntry.given_append, nothing, List.append_nil]
  cases obeys with
  | silent before => exact .silent (same.trans before)
  | led first leads once descriptions candidates =>
      refine .led (firstAnswer?_append_of_some first occurrence) (same.trans leads) once ?_ ?_
      · rw [redescribedBy_append]
        exact descriptions.trans (List.sublist_append_left ..)
      · rw [sentBy_append, Candidate.usable_append]
        exact candidates.trans (List.prefix_append ..)

theorem Heeds.obeys (heeds : call.Heeds occurrences entries phase) :
    call.Obeys phase occurrences entries := by
  cases heeds with
  | unanswered _ _ _ nothing | answered _ _ _ nothing => exact .silent nothing
  | established first bound leads descriptions candidates =>
      exact .led first leads (by simp) descriptions (candidates ▸ List.prefix_rfl)

theorem Heeds.ours (heeds : call.Heeds occurrences entries phase) :
    phase = .outgoing ∨ phase = .active := by
  cases heeds with
  | unanswered | answered => exact .inl rfl
  | established => exact .inr rfl

/-- A call is bound to the party of its first answer. -/
theorem Heeds.remoteParty (heeds : call.Heeds occurrences entries phase) :
    call.remoteParty = call.firstAnswer? occurrences >>= Answer.party := by
  cases heeds with
  | unanswered none _ unbound => rw [none, unbound]; rfl
  | answered first _ bound => rw [first, bound]; rfl
  | established first bound => rw [first, bound]; rfl

/-- A step that leaves what is known of the other side, and that brings no first answer. -/
theorem Heeds.stays (heeds : call.Heeds occurrences entries phase)
    (same : later.identity = call.identity) (party : later.remoteParty = call.remoteParty)
    (description : later.heldDescription = call.heldDescription)
    (deaf : phase = .active → call.admitted occurrence = []) (nothing : given more = [])
    (settled : call.answer? occurrence = none ∨ (call.firstAnswer? occurrences).isSome = true) :
    later.Heeds (occurrences ++ [occurrence]) (entries ++ more) phase := by
  have gives : given (entries ++ more) = given entries := by
    rw [LogEntry.given_append, nothing, List.append_nil]
  have first {answer : Answer} (is : call.firstAnswer? occurrences = some answer) :
      later.firstAnswer? (occurrences ++ [occurrence]) = some answer := by
    rw [firstAnswer?_congr same]
    exact firstAnswer?_append_of_some is occurrence
  cases heeds with
  | unanswered none unheld unbound before =>
      refine .unanswered ?_ (description.trans unheld) (party.trans unbound) (gives.trans before)
      rw [firstAnswer?_congr same, firstAnswer?_append, none, Option.none_or]
      exact settled.resolve_right (by simp [none])
  | answered is held bound before =>
      exact .answered (first is) (description.trans held) (party.trans bound) (gives.trans before)
  | established is bound leads descriptions candidates =>
      refine .established (first is) (party.trans bound) (gives.trans leads) ?_ ?_
      · rw [redescribedBy_congr same, redescribedBy_append]
        exact descriptions.trans (List.sublist_append_left ..)
      · rw [sentBy_congr same, sentBy_append, ← bound, sentBy_of_admitted, deaf rfl, bound,
          candidates]
        simp

end Call

namespace Phone

variable [MediaEngine ε] {phone after : Phone ε} {call : Call ε} {occurrences : List Occurrence}
  {entries : List LogEntry} {occurrence : Occurrence} {now : Instant}

/-- What has to hold after a step: the call that is there then heeds its first answer, and what
engines were given goes by it. -/
structure HeedsNext (phone after : Phone ε) (call : Call ε) (occurrences : List Occurrence)
    (entries : List LogEntry) : Prop where
  stays : ∀ later, after.call = some later →
    later.Heeds occurrences (entries ++ written phone after) after.phase
  obeys : call.Obeys phone.phase occurrences (entries ++ written phone after)

/-- The first answer is applied as soon as that is possible, and nothing else is given before. -/
theorem heedsNext_of_settles {other : Call ε} {answer : Answer}
    (settles : Settles { phone with call := some other } other after)
    (outgoing : phone.phase = .outgoing)
    (first : other.firstAnswer? occurrences = some answer)
    (held : other.heldDescription = some answer.description)
    (bound : other.remoteParty = answer.party)
    (waiting : other.heldCandidates = other.collected occurrences)
    (collected : ∀ negotiation, other.negotiation = some negotiation → negotiation.traffic = [])
    (nothing : given entries = []) : phone.HeedsNext after other occurrences entries := by
  cases settles with
  | waits =>
      have silent : written phone { phone with call := some other } = [] :=
        written_eq (List.append_nil _).symm
      refine ⟨?_, ?_⟩
      · rintro later ⟨⟩
        rw [silent, List.append_nil]
        exact outgoing ▸ .answered first held bound nothing
      · rw [silent, List.append_nil]
        exact .silent nothing
  | @refused description negotiation failed fault answered opened sent rejected =>
      obtain rfl : answer.description = description := Option.some.inj (held.symm.trans answered)
      have asked : Traffic.deliveries failed.traffic =
          [.applyRemote .answer answer.description] := by
        have is :
            (negotiation.applyRemote answer.description .answer other.remoteUser).1 = failed :=
          congrArg Prod.fst rejected
        rw [← is, Negotiation.deliveries_applyRemote, collected negotiation opened]
        rfl
      have grown : given (written phone
          ((Phone.keep { phone with call := some other } other.emptied failed).ended
            (other.emptied.keeping failed) (.mediaFailed (NegotiationError.media fault).message)
            (some .unknownError))) = [.applyRemote .answer answer.description] := by
        refine (given_ended _ ?_ rfl _ _).trans ((LogEntry.given_traffic _ _).trans asked)
        rintro kept ⟨⟩
        rfl
      have leads := (LogEntry.given_append_of_nil nothing _).trans grown
      refine ⟨?_, .led first leads (fun _ => rfl) (List.nil_sublist _) List.nil_prefix⟩
      rintro later ⟨⟩
  | @applied description negotiation answered opened sent ready taken =>
      obtain rfl : answer.description = description := Option.some.inj (held.symm.trans answered)
      have grown : given (written phone
          { (Phone.keep { phone with call := some other } other.emptied
              ((negotiation.applyRemote answer.description .answer
                other.remoteUser).1.addRemoteCandidates (other.heldCandidates.map Prod.snd))).noted
              ([.errand .cancelTimer] ++ phaseEntries phone.phase .active) with
            phase := .active }) =
          .applyRemote .answer answer.description ::
            Negotiation.candidateRequests (other.heldCandidates.map Prod.snd) := by
        refine (@given_keep_noted ε { phone with call := some other } _ other.emptied _ ?_).trans ?_
        · simp
        · simp [collected negotiation opened]
      have leads := (LogEntry.given_append_of_nil nothing _).trans grown
      have descriptions := Negotiation.descriptions_candidateRequests
        (other.heldCandidates.map Prod.snd)
      have candidates : (Negotiation.candidateRequests (other.heldCandidates.map
          Prod.snd)).flatMap Request.candidates =
          Candidate.usable (other.sentBy answer.party occurrences) := by
        rw [Negotiation.candidates_candidateRequests, waiting, ← bound]
        rfl
      refine ⟨?_, .led first leads (fun _ => descriptions) ?_ ?_⟩
      · rintro later ⟨⟩
        refine .established first bound leads ?_ candidates
        rw [descriptions]
        exact List.nil_sublist _
      · rw [descriptions]
        exact List.nil_sublist _
      · exact candidates ▸ List.prefix_rfl

theorem heedsNext_of_answer {answer : Answer} (coherent : phone.Coherent)
    (current : phone.call = some call) (outgoing : phone.phase = .outgoing)
    (heard : call.heard? occurrence = some (.answer answer))
    (none : call.firstAnswer? occurrences = none) (unheld : call.heldDescription = .none)
    (unbound : call.remoteParty = .none)
    (waiting : call.heldCandidates = call.collected occurrences)
    (nothing : given entries = []) :
    phone.HeedsNext (phone.after now occurrence) call (occurrences ++ [occurrence]) entries := by
  have admits : call.admits answer.party = true := by simp [Call.admits, unbound]
  have same : (call.answeredBy answer).identity = call.identity := identity_answeredBy answer
  have deaf : call.admitted occurrence = [] := Call.admitted_eq_nil_of_heard (by simp [heard])
  have bound := Call.remoteParty_answeredBy unbound answer
  have opened := call.negotiation_answeredBy answer
  have settles : Settles { phone with call := some (call.answeredBy answer) }
      (call.answeredBy answer) (phone.after now occurrence) := by
    rw [after_of_first coherent current outgoing heard unheld unbound]
    exact settles_tryAnswer rfl outgoing
  have settled : phone.HeedsNext (phone.after now occurrence) (call.answeredBy answer)
      (occurrences ++ [occurrence]) entries := by
    refine heedsNext_of_settles settles outgoing ?_ rfl bound ?_ ?_ nothing
    · rw [Call.firstAnswer?_congr same, Call.firstAnswer?_append, none, Option.none_or]
      simp [Call.answer?, heard]
    · rw [Call.heldCandidates_answeredBy, Call.collected_answeredBy answer admits,
        Call.collected_append, deaf, List.append_nil, waiting]
    · intro negotiation there
      exact coherent.collected current (opened.symm.trans there)
  exact ⟨settled.stays, settled.obeys.congr same⟩

omit [MediaEngine ε] in
/-- A step that gives the engine nothing and leaves what is known of the other side. -/
theorem heedsNext_of_rests {later : Call ε}
    (heeds : call.Heeds occurrences entries phone.phase) (there : after.call = some later)
    (phase : after.phase = phone.phase) (same : later.identity = call.identity)
    (party : later.remoteParty = call.remoteParty)
    (description : later.heldDescription = call.heldDescription)
    (deaf : phone.phase = .active → call.admitted occurrence = [])
    (nothing : given (written phone after) = [])
    (settled : call.answer? occurrence = none ∨ (call.firstAnswer? occurrences).isSome = true) :
    phone.HeedsNext after call (occurrences ++ [occurrence]) entries := by
  refine ⟨?_, heeds.obeys.extend occurrence nothing⟩
  intro other current
  rw [there, Option.some.injEq] at current
  subst current
  rw [phase]
  exact heeds.stays same party description deaf nothing settled

omit [MediaEngine ε] in
/-- An established call gives its engine what its party sends. -/
theorem heedsNext_of_keep {asked : Negotiation ε}
    (heeds : call.Heeds occurrences entries phone.phase) (active : phone.phase = .active)
    (descriptions : ((Traffic.deliveries asked.traffic).filterMap Request.description?).Sublist
      (call.redescribedBy call.remoteParty [occurrence]))
    (candidates : (Traffic.deliveries asked.traffic).flatMap Request.candidates =
      Candidate.usable ((call.admitted occurrence).map Prod.snd)) :
    phone.HeedsNext (phone.keep call asked) call (occurrences ++ [occurrence]) entries := by
  rw [active] at heeds
  cases heeds with
  | @established answer later first bound leads earlier handed =>
      have grown : given (entries ++ written phone (phone.keep call asked)) =
          .applyRemote .answer answer.description ::
            (later ++ Traffic.deliveries asked.traffic) := by
        rw [LogEntry.given_append, leads, given_keep]
        rfl
      have described : ((later ++ Traffic.deliveries asked.traffic).filterMap
          Request.description?).Sublist
            (call.redescribedBy answer.party (occurrences ++ [occurrence])) := by
        rw [List.filterMap_append, Call.redescribedBy_append, ← bound]
        exact (bound ▸ earlier).append descriptions
      have sent : (later ++ Traffic.deliveries asked.traffic).flatMap Request.candidates =
          Candidate.usable (call.sentBy answer.party (occurrences ++ [occurrence])) := by
        rw [List.flatMap_append, handed, candidates, Call.sentBy_append, Candidate.usable_append,
          ← bound, Call.sentBy_of_admitted]
      have still := Call.firstAnswer?_append_of_some first occurrence
      refine ⟨?_, .led still grown (by simp [active]) described (sent ▸ List.prefix_rfl)⟩
      rintro kept ⟨⟩
      have stands : (call.keeping asked).Heeds (occurrences ++ [occurrence])
          (entries ++ written phone (phone.keep call asked)) .active :=
        .established still bound grown described sent
      exact active ▸ stands

/-- After the first answer, all others are passed over. -/
theorem after_of_late {answer : Answer} (coherent : phone.Coherent)
    (current : phone.call = some call) (heeds : call.Heeds occurrences entries phone.phase)
    (heard : call.heard? occurrence = some (.answer answer))
    (late : (call.firstAnswer? occurrences).isSome = true) (now : Instant) :
    phone.after now occurrence = phone := by
  rw [after_of_heard coherent current heard]
  split
  · rfl
  · generalize stage : phone.phase = phase at heeds
    cases heeds with
    | unanswered none => simp [none] at late
    | answered _ held => simp [hearRemote, hearAnswer, held]
    | established => simp [hearRemote, hearAnswer, stage]

theorem heedsNext_of_candidates {batch : CandidateBatch} (coherent : phone.Coherent)
    (current : phone.call = some call) (heeds : call.Heeds occurrences entries phone.phase)
    (heard : call.heard? occurrence = some (.candidates batch))
    (admits : call.admits batch.party = true) (outgoing : phone.phase = .outgoing)
    (waiting : call.heldCandidates = call.collected occurrences)
    (settles : Settles { phone with call := some (call.holding batch) } (call.holding batch)
      after) :
    phone.HeedsNext after call (occurrences ++ [occurrence]) entries := by
  have stage := heeds
  rw [outgoing] at stage
  cases stage with
  | unanswered none unheld unbound nothing =>
      cases settles with
      | applied held | refused held => exact absurd (unheld.symm.trans held) (by simp)
      | waits =>
          exact heedsNext_of_rests heeds rfl rfl rfl rfl rfl (by simp [outgoing])
            (given_unwritten rfl) (.inl (by simp [Call.answer?, heard]))
  | answered first held bound nothing =>
      have gathered : (call.holding batch).heldCandidates =
          (call.holding batch).collected (occurrences ++ [occurrence]) := by
        change call.heldCandidates ++ _ = call.collected (occurrences ++ [occurrence])
        rw [Call.collected_append, Call.admitted_candidates heard admits, waiting]
      have settled : phone.HeedsNext after (call.holding batch) (occurrences ++ [occurrence])
          entries :=
        heedsNext_of_settles settles outgoing (Call.firstAnswer?_append_of_some first _) held bound
          gathered (fun _ opened => coherent.collected current opened) nothing
      exact ⟨settled.stays, settled.obeys.congr rfl⟩

/-- A step keeps what is given to engines in line with the first answer. -/
theorem heedsNext_after (coherent : phone.Coherent) (current : phone.call = some call)
    (heeds : call.Heeds occurrences entries phone.phase)
    (waiting : phone.phase = .outgoing → call.heldCandidates = call.collected occurrences) :
    phone.HeedsNext (phone.after now occurrence) call (occurrences ++ [occurrence]) entries := by
  have unanswering (other : ∀ answer, call.heard? occurrence ≠ some (.answer answer)) :
      call.answer? occurrence = none := by
    unfold Call.answer?
    split
    · rename_i answer heard
      exact absurd heard (other answer)
    · rfl
  by_cases answers : ∃ answer, call.heard? occurrence = some (.answer answer)
  · rcases answers with ⟨answer, heard⟩
    -- a late answer may find the call in any phase; the first one finds it outgoing
    by_cases late : (call.firstAnswer? occurrences).isSome = true
    · rw [after_of_late coherent current heeds heard late]
      exact heedsNext_of_rests heeds current rfl rfl rfl rfl
        (fun _ => Call.admitted_eq_nil_of_heard (by simp [heard])) (given_unwritten rfl)
        (.inr late)
    · generalize stage : phone.phase = phase at heeds
      cases heeds with
      | unanswered none unheld unbound nothing =>
          exact heedsNext_of_answer coherent current stage heard none unheld unbound (waiting stage)
            nothing
      | answered first | established first => simp [first] at late
  · have other : ∀ answer, call.heard? occurrence ≠ some (.answer answer) :=
      fun answer heard => answers ⟨answer, heard⟩
    have advances :=
      advances_of_move (move_after coherent now occurrence) coherent current heeds.ours
    generalize phone.after now occurrence = after at advances
    cases advances with
    | ended gone nothing =>
        refine ⟨?_, heeds.obeys.extend occurrence nothing⟩
        simp [gone]
    | rests there phase keeps deaf nothing =>
        exact heedsNext_of_rests heeds there phase keeps.identity keeps.party keeps.description
          (fun _ => deaf) nothing (.inl (unanswering other))
    | gathered heard admits outgoing settles =>
        exact heedsNext_of_candidates coherent current heeds heard admits outgoing
          (waiting outgoing) settles
    | answered heard => exact absurd heard (other _)
    | @handed negotiation batch opened heard admits active is =>
        have collected := coherent.collected current opened
        subst is
        refine heedsNext_of_keep heeds active ?_ ?_
        · simp [collected]
        · rw [Negotiation.deliveries_addRemoteCandidates, collected,
            Call.admitted_candidates heard admits]
          simp [Negotiation.candidates_candidateRequests, Function.comp_def]
    | @renegotiated negotiation content opened heard admits active is =>
        have collected := coherent.collected current opened
        have deaf : call.admitted occurrence = [] :=
          Call.admitted_eq_nil_of_heard (by simp [heard])
        have listed : call.redescribedBy call.remoteParty [occurrence] = [content.description] := by
          unfold Call.admits at admits
          simp [Call.redescribedBy, heard, admits]
        subst is
        rcases negotiation.deliveries_renegotiate content.description call.remoteUser
          content.isAnswer with ⟨more, kinds, delivered⟩
        refine heedsNext_of_keep heeds active ?_ ?_
        · rw [delivered, collected, listed]
          rcases kinds with rfl | ⟨kind, rfl⟩
          · exact List.nil_sublist _
          · exact List.Sublist.refl _
        · rw [delivered, collected, deaf]
          rcases kinds with rfl | ⟨kind, rfl⟩ <;> rfl

/-- A call that is started gives its engine nothing, and knows nothing of its other side. -/
theorem heeds_of_startCall {membership : Membership} (idle : phone.call = none)
    (move : phone.Move now (.startCall membership) after) :
    given (written phone after) = [] ∧ ∀ call, after.call = some call →
      call.Heeds [.startCall membership] (written phone after) after.phase := by
  cases move with
  | still =>
      refine ⟨given_unwritten rfl, ?_⟩
      simp [idle]
  | rang _ heard => cases heard
  | resumed is | plugged is | refreshed is => cases is
  | accepted _ current | ended current | held current | gathered current | handed current
    | answered current | renegotiated current | muted _ current | toggled _ current
    | reacted _ current => simp [idle] at current
  | @dialed other callee after is _ known capable starts =>
      have nothing : given (written phone after) = [] :=
        given_of_starts starts rfl (LogEntry.given_phaseEntries _ _)
      refine ⟨nothing, ?_⟩
      intro call current
      have keeps := keeps_of_starts starts current
      rw [(continues_of_starts starts current).phase]
      exact .unanswered rfl keeps.description keeps.party nothing

/-- The history of a call starts with what opened it. -/
theorem head?_history {history : History} (reached : phone.Reached history)
    (current : phone.call = some call) (occurrence : Occurrence) :
    (history.occurrences ++ [occurrence]).head? = history.occurrences.head? := by
  cases traced_of_reached reached call current with
  | rang first | dialed first => rw [Call.head?_append_of_some first, first]

/-- A call that was started here heeds its first answer in every phone that can be reached. -/
theorem heeds_of_reached {history : History} {membership : Membership}
    (reached : phone.Reached history)
    (began : history.occurrences.head? = some (.startCall membership)) :
    ∀ call, phone.call = some call →
      call.Heeds history.occurrences history.entries phone.phase := by
  induction reached with
  | new new => simp at began
  | @after phone history reached now occurrence ih =>
      intro later there
      have coherent := coherent_of_reached reached
      have conserves := conserves_of_reached reached
      have next : history.next phone (phone.after now occurrence) occurrence =
          ⟨history.occurrences ++ [occurrence],
            history.entries ++ written phone (phone.after now occurrence)⟩ := by
        simp [History.next, there]
      rw [next] at began ⊢
      cases current : phone.call with
      | none =>
          rw [conserves.1 current] at began ⊢
          obtain rfl : occurrence = .startCall membership := by simpa using began
          exact (heeds_of_startCall current (move_after coherent now _)).2 later there
      | some call =>
          rw [head?_history reached current] at began
          refine (heedsNext_after coherent current (ih began call current) ?_).stays later there
          exact fun outgoing => (conserves.2 call current).held (.inl outgoing)
  | read reached rest ih => exact ih began

/-- What engines were given for a call up to the end of a step. -/
def givenThrough (phone : Phone ε) (history : History) (now : Instant) (occurrence : Occurrence) :
    List Request :=
  given (history.entries ++ written phone (phone.after now occurrence))

/-- A step of a call that was started here, after some history: everything that its engine was
given up to the end of the step goes by the first answer. -/
structure FirstAnswerWins (phone : Phone ε) (call : Call ε) (history : History) (now : Instant)
    (occurrence : Occurrence) : Prop where
  /-- The other side is the party of the first answer, if there was one and it names one. -/
  party : call.remoteParty = call.firstAnswer? history.occurrences >>= Answer.party
  /-- What the engine is given first is the description of the first answer. -/
  first : ∀ request, (phone.givenThrough history now occurrence).head? = some request →
    ∃ answer, call.firstAnswer? (history.occurrences ++ [occurrence]) = some answer ∧
      request = .applyRemote .answer answer.description
  /-- Until the call is established this is the only description. -/
  once : phone.phase = .outgoing →
    ((phone.givenThrough history now occurrence).filterMap Request.description?).Sublist
      ((call.firstAnswer? (history.occurrences ++ [occurrence])).map Answer.description).toList
  /-- Later answers change nothing. -/
  late : (call.firstAnswer? history.occurrences).isSome = true →
    ∀ answer, call.heard? occurrence = some (.answer answer) → phone.after now occurrence = phone
  /-- Once the other side is known, what another party says changes nothing, unless it hangs up. -/
  others : ∀ known message party, call.remoteParty = some known →
    call.heard? occurrence = some message → message.party = some party → party ≠ known →
      isHangup message = false → phone.after now occurrence = phone
  /-- Candidates of another party are not given to the engine, whenever they came. -/
  candidates : ∀ answer, call.firstAnswer? (history.occurrences ++ [occurrence]) = some answer →
    (phone.givenThrough history now occurrence).flatMap Request.candidates <+:
      Candidate.usable (call.sentBy answer.party (history.occurrences ++ [occurrence]))
  /-- Neither are new descriptions of another party. -/
  descriptions : ∀ answer, call.firstAnswer? (history.occurrences ++ [occurrence]) = some answer →
    ((phone.givenThrough history now occurrence).filterMap Request.description?).Sublist
      (answer.description :: call.redescribedBy answer.party (history.occurrences ++ [occurrence]))

/-- A message of a party that the call is not bound to leaves the phone as it is, unless it hangs
up. -/
theorem after_of_other {known party : PartyId} {message : Message} (coherent : phone.Coherent)
    (current : phone.call = some call) (bound : call.remoteParty = some known)
    (heard : call.heard? occurrence = some message) (named : message.party = some party)
    (other : party ≠ known) (stays : isHangup message = false) (now : Instant) :
    phone.after now occurrence = phone := by
  rw [after_of_heard coherent current heard]
  exact if_pos (by simp [isForeignParty, bound, named, stays, other.symm])

/-- Whatever arrives in whatever order, a call that was started here goes by the first answer. -/
theorem first_answer_wins {history : History} {membership : Membership}
    (reached : phone.Reached history) (now : Instant) (occurrence : Occurrence)
    (began : (history.occurrences ++ [occurrence]).head? = some (.startCall membership)) :
    (phone.call = none → given (written phone (phone.after now occurrence)) = []) ∧
      ∀ call, phone.call = some call → phone.FirstAnswerWins call history now occurrence := by
  have coherent := coherent_of_reached reached
  have conserves := conserves_of_reached reached
  refine ⟨?_, ?_⟩
  · intro idle
    rw [conserves.1 idle] at began
    obtain rfl : occurrence = .startCall membership := by simpa using began
    exact (heeds_of_startCall idle (move_after coherent now _)).1
  · intro call current
    rw [head?_history reached current] at began
    have heeds := heeds_of_reached reached began call current
    have next : phone.HeedsNext (phone.after now occurrence) call
        (history.occurrences ++ [occurrence]) history.entries :=
      heedsNext_after coherent current heeds
        fun outgoing => (conserves.2 call current).held (.inl outgoing)
    have obeys := next.obeys
    refine ⟨heeds.remoteParty, ?_, ?_, ?_, ?_, ?_, ?_⟩
    · intro request head
      unfold givenThrough at head
      cases obeys with
      | silent nothing => simp [nothing] at head
      | @led answer later first leads =>
          rw [leads, List.head?_cons, Option.some.injEq] at head
          exact ⟨answer, first, head.symm⟩
    · intro outgoing
      unfold givenThrough
      cases obeys with
      | silent nothing => simp [nothing]
      | led first leads once =>
          simp [first, leads, once outgoing, Request.description?]
    · intro late answer heard
      exact after_of_late coherent current heeds heard late now
    · intro known message party bound heard named other stays
      exact after_of_other coherent current bound heard named other stays now
    · intro answer is
      unfold givenThrough
      cases obeys with
      | silent nothing => simp [nothing]
      | led first leads _ _ candidates =>
          obtain rfl := Option.some.inj (first.symm.trans is)
          simpa [leads, Request.candidates] using candidates
    · intro answer is
      unfold givenThrough
      cases obeys with
      | silent nothing => simp [nothing]
      | led first leads _ descriptions =>
          obtain rfl := Option.some.inj (first.symm.trans is)
          simpa [leads, Request.description?] using descriptions

/-- Two devices answer a call, and candidates of the second one came before. -/
def contestedRun : List (Instant × Occurrence) :=
  let call := CallId.fresh 0 "0"
  let desk : Option PartyId := some ⟨"desk"⟩
  let mobile : Option PartyId := some ⟨"mobile"⟩
  dialedRun ++
    [(4, .signal pair ⟨⟨"@bob"⟩, 4, .candidates ⟨call, desk, [Engine.cannedCandidate]⟩⟩),
      (5, .signal pair ⟨⟨"@bob"⟩, 5, .answer ⟨call, mobile, "answer", []⟩⟩),
      (6, .signal pair ⟨⟨"@bob"⟩, 6, .candidates ⟨call, mobile, [⟨"path", 0, "0"⟩]⟩⟩)]

theorem first_answer_wins_contestedRun :
    ∃ call, (follow (scripted, {}) contestedRun).1.call = some call ∧
      (given (follow (scripted, {}) contestedRun).2.entries =
        [.applyRemote .answer "answer", .addCandidates [⟨"path", 0, "0"⟩]]) ∧
      (follow (scripted, {}) contestedRun).1.FirstAnswerWins call
        (follow (scripted, {}) contestedRun).2 7
        (.signal pair ⟨⟨"@bob"⟩, 7, .answer ⟨CallId.fresh 0 "0", some ⟨"desk"⟩, "late", []⟩⟩) := by
  have current : (follow (scripted, {}) contestedRun).1.call.isSome = true := by decide
  rcases Option.isSome_iff_exists.mp current with ⟨call, current⟩
  exact ⟨call, current, by decide, (first_answer_wins
    (reached_follow (.new isNew_scripted) contestedRun) 7 _ rfl).2 call current⟩

end Phone

end RoomCall
