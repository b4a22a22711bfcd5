import RoomCall.Proofs.Negotiation.Bearing
import RoomCall.Proofs.Phone.FirstAnswer

/-!
# An answer that is ready

An answer is ready when there is something to connect to. When an answer or candidates are heard the
answer is applied if it is ready and the offer is out, but nothing is tried when the offer goes out:
an answer that was ready before then is left waiting until the next candidates come, or until the
call ends. That is the only way in which a ready answer comes to wait although the offer is out.
-/

namespace RoomCall

variable {ε : Type}

namespace Negotiation

variable [MediaEngine ε] {negotiation : Negotiation ε} {side : Role}

/-- A callback leaves a negotiation with its offer just out only if it was there already or had not
sent it yet. -/
theorem progress_of_sent (runs : negotiation.Runs side) (callback : Engine.Callback)
    (later : (negotiation.handle callback).1.Runs side)
    (sent : (negotiation.handle callback).1.progress = .offerSent) :
    negotiation.progress = .offerSent ∨ negotiation.progress = .initiated := by
  rcases runs.standing with ⟨_, initiated⟩ | ⟨_, stage | searching⟩
  · exact .inr initiated
  · left
    cases side with
    | offering => exact stage
    | answering =>
        rcases later.standing with ⟨_, other⟩ | ⟨_, other | other | other⟩ <;>
          simp [sent, Role.sent] at other
  · have able := canMute_handle runs callback later (runs.canMute_iff.mpr searching)
    rw [later.canMute_iff, IsSearching, sent] at able
    simp at able

end Negotiation

namespace Phone

variable [MediaEngine ε] {phone after : Phone ε} {call later : Call ε} {occurrence : Occurrence}
  {now : Instant}

omit [MediaEngine ε] in
theorem progress_keep (current : phone.call = some call) {negotiation asked : Negotiation ε}
    (opened : call.negotiation = some negotiation) (same : asked.bearing = negotiation.bearing) :
    (phone.keep call asked).progress = phone.progress :=
  (Negotiation.progress_of_bearing same).trans (progress_of_call current opened).symm

theorem progress_of_opens {side : Role} (opens : phone.Opens call side after) :
    after.progress ≠ .offerSent := by
  cases opens with
  | opened opened =>
      intro sent
      exact absurd ((opened.runs.progress_initiated opened.silent).symm.trans sent) (by simp)
  | refused => simp [ended, progress, negotiation?]

/-- An answer settles behind the offer and never sends it. -/
theorem progress_of_settles {other : Call ε} (current : phone.call = some call)
    (settles : Settles { phone with call := some other } other after)
    (same : other.negotiation = call.negotiation) (sent : after.progress = .offerSent) :
    phone.progress = .offerSent := by
  cases settles with
  | waits =>
      rw [progress, negotiation?_eq current, ← same]
      exact sent
  | applied _ opened stage => exact (progress_of_call current (same.symm.trans opened)).trans stage
  | refused _ opened stage => exact (progress_of_call current (same.symm.trans opened)).trans stage

/-- The offer of a call goes out in a callback, and no other occurrence leads there. -/
theorem offer_of_move (move : phone.Move now occurrence after) (outgoing : after.phase = .outgoing)
    (sent : after.progress = .offerSent) :
    phone.phase = .outgoing ∧ (phone.progress = .offerSent ∨ phone.progress = .initiated ∧
      ∃ session callback, occurrence = .callback session callback) := by
  cases move with
  | still => exact ⟨outgoing, .inl sent⟩
  | plugged => exact ⟨outgoing, .inl sent⟩
  | refreshed => exact ⟨outgoing, .inl sent⟩
  | rang => cases outgoing
  | ended => cases outgoing
  | resumed _ _ _ opens => exact absurd sent (progress_of_opens opens)
  | dialed _ _ _ _ starts =>
      cases starts with
      | opens opens => exact absurd sent (progress_of_opens opens)
      | waits => cases sent
  | accepted _ _ incoming _ _ starts =>
      cases starts with
      | opens opens => exact absurd sent (progress_of_opens opens)
      | waits => exact absurd (incoming.symm.trans outgoing) (by simp)
  | held _ _ _ incoming => exact absurd (incoming.symm.trans outgoing) (by simp)
  | gathered current _ _ outgoing settles =>
      exact ⟨outgoing, .inl (progress_of_settles current settles rfl sent)⟩
  | @answered call answer _ current _ _ outgoing _ settles =>
      have same := call.negotiation_answeredBy answer
      exact ⟨outgoing, .inl (progress_of_settles current settles same sent)⟩
  | handed _ _ _ _ live => exact absurd outgoing live
  | renegotiated _ _ _ _ active => exact absurd (active.symm.trans outgoing) (by simp)
  | @muted _ _ muted _ current opened =>
      have same := progress_keep current opened (Negotiation.bearing_setMuted muted)
      exact ⟨outgoing, .inl (same.symm.trans sent)⟩
  | toggled _ current opened =>
      have same := progress_keep current opened Negotiation.bearing_toggleCamera
      exact ⟨outgoing, .inl (same.symm.trans sent)⟩
  | @reacted call negotiation side callback after is current opened runs reacts =>
      have stage (going : (negotiation.handle callback).1.Runs side)
          (there : (negotiation.handle callback).1.progress = .offerSent) :
          phone.progress = .offerSent ∨ phone.progress = .initiated ∧
            ∃ session callback, occurrence = .callback session callback := by
        rw [progress_of_call current opened]
        exact (Negotiation.progress_of_sent runs callback going there).imp_right
          fun initiated => ⟨initiated, _, _, is⟩
      cases reacts with
      | moved going => exact ⟨outgoing, stage going sent⟩
      | reported going =>
          refine ⟨?_, stage going sent⟩
          cases side with
          | offering => exact outgoing
          | answering => cases outgoing
      | renegotiated going =>
          rw [sendNegotiate_eq] at outgoing sent
          exact ⟨outgoing, stage going sent⟩
      | watched going =>
          rw [setRoster_eq] at outgoing sent
          exact ⟨outgoing, stage going sent⟩
      | broken | lost | reportedLost => cases outgoing

/-! ## Readiness -/

/-- Whether an outgoing call holds back an answer that has something to connect to. -/
def holdsReady (phone : Phone ε) : Bool :=
  phone.phase = .outgoing && phone.call.any fun call => call.heldDescription.any (canConnect call)

/-- Whether such an answer is left waiting although the offer is out. -/
def leavesWaiting (phone : Phone ε) : Bool :=
  phone.holdsReady && phone.progress = .offerSent

/-- The offer goes out while a ready answer is held back. -/
structure Overlooks (phone : Phone ε) (now : Instant) (occurrence : Occurrence) : Prop where
  ready : phone.holdsReady = true
  unsent : phone.progress = .initiated
  sent : (phone.after now occurrence).progress = .offerSent

/-- A ready answer waits all through a run, and nothing that is heard in it is a reason to apply
the answer. -/
structure WaitsThrough (phone : Phone ε) (call : Call ε) (run : List (Instant × Occurrence)) :
    Prop where
  waits : ∀ earlier, earlier <+: run → (phone.run earlier).leavesWaiting = true
  deaf : ∀ entry ∈ run, ∀ batch, call.heard? entry.2 = some (.candidates batch) →
    call.admits batch.party = false

omit [MediaEngine ε] in
theorem leavesWaiting_iff :
    phone.leavesWaiting = true ↔ phone.holdsReady = true ∧ phone.progress = .offerSent := by
  simp [leavesWaiting]

omit [MediaEngine ε] in
theorem holdsReady_iff (current : phone.call = some call) :
    phone.holdsReady = true ↔ phone.phase = .outgoing ∧
      ∃ answer, call.heldDescription = some answer ∧ canConnect call answer = true := by
  simp [holdsReady, current, Option.any_eq_true]

omit [MediaEngine ε] in
theorem holdsReady_of_keeps (current : phone.call = some call) (there : after.call = some later)
    (keeps : call.Keeps later) (phase : after.phase = phone.phase) :
    after.holdsReady = phone.holdsReady := by
  have connects : canConnect later = canConnect call := by
    funext answer
    simp [canConnect, keeps.candidates]
  simp [holdsReady, current, there, keeps.description, phase, connects]

theorem not_leavesWaiting_of_settles (current : phone.call = some call)
    (settles : Settles phone call after) : after.leavesWaiting ≠ true := by
  intro waits
  rcases leavesWaiting_iff.mp waits with ⟨holds, sent⟩
  cases settles with
  | applied => simp [holdsReady] at holds
  | refused => cases sent
  | waits unready =>
      rcases (holdsReady_iff current).mp holds with ⟨_, answer, held, ready⟩
      cases opened : call.negotiation with
      | none => simp [progress, negotiation?, current, opened] at sent
      | some negotiation =>
          exact unready answer negotiation held opened ready
            ((progress_of_call current opened).symm.trans sent)

theorem deaf_of_leavesWaiting (coherent : phone.Coherent) (current : phone.call = some call)
    (outgoing : phone.phase = .outgoing) (waits : (phone.after now occurrence).leavesWaiting = true)
    (batch : CandidateBatch) (heard : call.heard? occurrence = some (.candidates batch)) :
    call.admits batch.party = false := by
  cases admits : call.admits batch.party with
  | false => rfl
  | true =>
      rw [after_of_candidates coherent current outgoing heard admits] at waits
      exact absurd waits (not_leavesWaiting_of_settles rfl (settles_tryAnswer rfl outgoing))

/-- If a ready answer is left waiting after an occurrence it waited before, or the offer has just
gone out. -/
theorem leavesWaiting_or_overlooks (coherent : phone.Coherent)
    (there : (phone.after now occurrence).call = some later)
    (waits : (phone.after now occurrence).leavesWaiting = true) :
    (∃ call, phone.call = some call ∧ call.Keeps later ∧ ∀ batch,
      call.heard? occurrence = some (.candidates batch) → call.admits batch.party = false) ∧
    (phone.leavesWaiting = true ∨ phone.Overlooks now occurrence ∧
      ∃ session callback, occurrence = .callback session callback) := by
  have move := move_after coherent now occurrence
  rcases leavesWaiting_iff.mp waits with ⟨holds, sent⟩
  rcases (holdsReady_iff there).mp holds with ⟨outgoing, _⟩
  rcases offer_of_move move outgoing sent with ⟨before, stage⟩
  cases current : phone.call with
  | none => exact absurd ((coherent.idle current).1.symm.trans before) (by simp)
  | some call =>
      have deaf := deaf_of_leavesWaiting coherent current before waits
      have keeps : call.Keeps later := by
        have advances := advances_of_move move coherent current (.inl before)
        generalize phone.after now occurrence = after at there waits advances
        cases advances with
        | ended gone => simp [gone] at there
        | rests other _ keeps =>
            obtain rfl := Option.some.inj (other.symm.trans there)
            exact keeps
        | gathered heard admits => exact absurd admits (by simp [deaf _ heard])
        | answered _ _ settles => exact absurd waits (not_leavesWaiting_of_settles rfl settles)
        | handed _ _ _ active => exact absurd (active.symm.trans before) (by simp)
        | renegotiated _ _ _ active => exact absurd (active.symm.trans before) (by simp)
      have ready : phone.holdsReady = true := by
        rw [← holdsReady_of_keeps current there keeps (outgoing.trans before.symm), holds]
      refine ⟨⟨call, rfl, keeps, deaf⟩, ?_⟩
      rcases stage with already | ⟨unsent, callback⟩
      · exact .inl (leavesWaiting_iff.mpr ⟨ready, already⟩)
      · exact .inr ⟨⟨ready, unsent, sent⟩, callback⟩

theorem Overlooks.leavesWaiting (coherent : phone.Coherent)
    (overlooks : phone.Overlooks now occurrence) :
    (phone.after now occurrence).leavesWaiting = true := by
  rcases overlooks with ⟨ready, unsent, sent⟩
  have early : phone.progress ≠ .offerSent := by simp [unsent]
  cases current : phone.call with
  | none => simp [holdsReady, current] at ready
  | some call =>
      have outgoing := ((holdsReady_iff current).mp ready).1
      -- nothing that is heard sends the offer, so the answer is held back as before
      have advances := advances_of_move (move_after coherent now occurrence) coherent current
        (.inl outgoing)
      generalize phone.after now occurrence = after at sent advances
      cases advances with
      | ended gone => simp [progress, negotiation?, gone] at sent
      | rests there phase keeps =>
          exact leavesWaiting_iff.mpr
            ⟨(holdsReady_of_keeps current there keeps phase).trans ready, sent⟩
      | gathered _ _ _ settles => exact absurd (progress_of_settles current settles rfl sent) early
      | @answered answer _ _ settles =>
          have same := call.negotiation_answeredBy answer
          exact absurd (progress_of_settles current settles same sent) early
      | handed _ _ _ active => exact absurd (active.symm.trans outgoing) (by simp)
      | renegotiated _ _ _ active => exact absurd (active.symm.trans outgoing) (by simp)

/-! ## Runs -/

theorem WaitsThrough.cons {entry : Instant × Occurrence} {run : List (Instant × Occurrence)}
    (waits : phone.leavesWaiting = true)
    (later : (phone.after entry.1 entry.2).WaitsThrough call run)
    (deaf : ∀ batch, call.heard? entry.2 = some (.candidates batch) →
      call.admits batch.party = false) : phone.WaitsThrough call (entry :: run) where
  waits earlier start := by
    cases earlier with
    | nil => exact waits
    | cons first rest =>
        rcases List.cons_prefix_cons.mp start with ⟨rfl, within⟩
        exact later.waits rest within
  deaf other there := by
    rcases List.mem_cons.mp there with rfl | there
    · exact deaf
    · exact later.deaf other there

/-- The part of a run in which a ready answer waits goes back to its start, or to an occurrence
that overlooks the answer. -/
theorem waitsThrough_or_overlooks (coherent : phone.Coherent) (run : List (Instant × Occurrence))
    (there : (phone.run run).call = some later) (waits : (phone.run run).leavesWaiting = true) :
    ((∃ call, phone.call = some call ∧ call.Keeps later) ∧ phone.WaitsThrough later run) ∨
      ∃ before entry behind, run = before ++ entry :: behind ∧
        (phone.run before).Overlooks entry.1 entry.2 ∧
        (∃ session callback, entry.2 = .callback session callback) ∧
        ((phone.run before).after entry.1 entry.2).WaitsThrough later behind := by
  -- from the end of the run back to its start, as long as the answer waits
  induction run generalizing phone with
  | nil =>
      refine .inl ⟨⟨later, there, .refl later⟩, ?_, by simp⟩
      intro earlier before
      rw [List.prefix_nil.mp before]
      exact waits
  | cons entry rest ih =>
      have stands := coherent_of_move (move_after coherent entry.1 entry.2) coherent
      rcases ih stands there waits with ⟨⟨middle, current, keeps⟩, through⟩ |
        ⟨before, other, behind, rfl, overlooks, callback, through⟩
      · have waiting := through.waits [] List.nil_prefix
        rcases leavesWaiting_or_overlooks coherent current waiting with
          ⟨⟨call, before, kept, deaf⟩, already | ⟨overlooks, callback⟩⟩
        · have same := kept.trans keeps
          refine .inl ⟨⟨call, before, same⟩, .cons already through ?_⟩
          intro batch heard
          rw [Call.heard?_congr same.identity] at heard
          rw [Call.admits, same.party]
          exact deaf batch heard
        · exact .inr ⟨[], entry, rest, rfl, overlooks, callback, through⟩
      · exact .inr ⟨entry :: before, other, behind, rfl, overlooks, callback, through⟩

theorem coherent_run (coherent : phone.Coherent) (run : List (Instant × Occurrence)) :
    (phone.run run).Coherent := by
  induction run generalizing phone with
  | nil => exact coherent
  | cons entry rest ih =>
      exact ih (coherent_of_move (move_after coherent entry.1 entry.2) coherent)

/-- A ready answer is left waiting only if it was ready when the offer went out, and from then on
nothing was heard that would be a reason to apply it. If it was ready then, it does wait. -/
theorem ready_answer_waits (new : phone.IsNew) (run : List (Instant × Occurrence)) :
    (∀ call, (phone.run run).call = some call → (phone.run run).leavesWaiting = true →
      ∃ before entry behind, run = before ++ entry :: behind ∧
        (phone.run before).Overlooks entry.1 entry.2 ∧
        (∃ session callback, entry.2 = .callback session callback) ∧
        ((phone.run before).after entry.1 entry.2).WaitsThrough call behind) ∧
    ∀ now occurrence, (phone.run run).Overlooks now occurrence →
      ((phone.run run).after now occurrence).leavesWaiting = true := by
  have coherent : phone.Coherent := .of_idle new.call new.phase new.roster
  refine ⟨?_, fun _ _ overlooks => overlooks.leavesWaiting (coherent_run coherent run)⟩
  intro call there waits
  rcases waitsThrough_or_overlooks coherent run there waits with ⟨⟨_, current, _⟩, _⟩ | overlooked
  · simp [new.call] at current
  · exact overlooked

/-- An answer and candidates of its device arrive before the offer is out. -/
def earlyAnswerRun : List (Instant × Occurrence) :=
  let call := CallId.fresh 0 "0"
  let mobile : Option PartyId := some ⟨"mobile"⟩
  [(0, .startCall pair), (1, .relayRefreshed (.error "none")),
    (2, .signal pair ⟨⟨"@bob"⟩, 2, .candidates ⟨call, mobile, [Engine.cannedCandidate]⟩⟩),
    (3, .signal pair ⟨⟨"@bob"⟩, 3, .answer ⟨call, mobile, "answer", []⟩⟩),
    (4, .callback 1 (.localDescription "offer" .offer)), (5, .callback 1 .gatheringComplete)]

theorem ready_answer_waits_earlyAnswerRun :
    ∃ call before entry behind, (scripted.run earlyAnswerRun).call = some call ∧
      earlyAnswerRun = before ++ entry :: behind ∧
      (scripted.run before).Overlooks entry.1 entry.2 ∧
      ((scripted.run before).after entry.1 entry.2).WaitsThrough call behind := by
  have waits : (scripted.run earlyAnswerRun).leavesWaiting = true := by decide
  have current : (scripted.run earlyAnswerRun).call.isSome = true := by decide
  rcases Option.isSome_iff_exists.mp current with ⟨call, current⟩
  rcases (ready_answer_waits isNew_scripted earlyAnswerRun).1 call current waits with
    ⟨before, entry, behind, split, overlooks, _, through⟩
  exact ⟨call, before, entry, behind, current, split, overlooks, through⟩

/-- A ready answer can be left waiting even if the engine never reports on its search for a path. -/
theorem exists_run_leavesWaiting :
    ∃ run : List (Instant × Occurrence),
      (∀ entry ∈ run, ∀ session state, entry.2 ≠ .callback session (.iceChanged state)) ∧
      (scripted.run run).leavesWaiting = true := by
  refine ⟨earlyAnswerRun, ?_, by decide⟩
  simp [earlyAnswerRun]

end Phone

end RoomCall
