import RoomCall.Proofs.Phone.Announcements
import RoomCall.Proofs.Phone.Foreign
import RoomCall.Proofs.Phone.Log
import RoomCall.Proofs.Phone.Streams

/-!
# What a phone refuses

A phone that refuses what it is asked for is the same phone. If the refusal comes from an engine,
that was asked and may post callbacks, but no errand and no announcement is written; and if a new
description was refused, its streams are known all the same, which shows nowhere. So nobody can tell
the runs of the phone afterwards from its runs without the refusal.
-/

namespace RoomCall

variable {ε : Type}

/-- Engines that stay as they are when they refuse a request. -/
def MediaEngine.Firm (ε : Type) [MediaEngine ε] : Prop :=
  ∀ (engine : ε) request, (MediaEngine.respond engine request).fault ≠ none →
    (MediaEngine.respond engine request).engine = engine

theorem Engine.firm_scripted : MediaEngine.Firm Engine.Scripted := by
  intro engine request refused
  cases request with
  | applyRemote kind description =>
      change (engine.applyRemote description).engine = engine
      unfold Scripted.applyRemote
      split
      · rfl
      · split
        · rfl
        · split <;> rfl
  | setMuted | toggleCamera =>
      by_cases running : engine.running = true <;>
        simp_all [MediaEngine.respond, Scripted.respond]
  | build | offer | answer | addCandidates | finish => exact absurd rfl refused

/-! ## Operations that a negotiation refuses -/

namespace Negotiation

variable [MediaEngine ε] {negotiation asked : Negotiation ε} {user : UserId}
  {error : NegotiationError} {fault : Engine.Fault}

/-- A negotiation that is the same after an operation, but for the streams that it knows then and
what passed between it and its engine. -/
def Unmoved (before after : Negotiation ε) (streams : List (String × UserId)) : Prop :=
  ∃ traffic, after = before.disguised before.engine streams traffic

theorem unmoved_of_ask (firm : MediaEngine.Firm ε) {request : Engine.Request}
    (refused : negotiation.ask request = (asked, some fault)) :
    negotiation.Unmoved asked negotiation.remoteStreams := by
  have faulty : (MediaEngine.respond negotiation.engine request).fault = some fault :=
    congrArg Prod.snd refused
  have still := firm negotiation.engine request (by simp [faulty])
  have first : (negotiation.ask request).1 = asked := congrArg Prod.fst refused
  refine ⟨asked.traffic, ?_⟩
  rw [← first]
  exact congrArg (fun engine => negotiation.disguised engine negotiation.remoteStreams _) still

/-- A description that is refused adds its streams to those that are known, and nothing else if its
user is known already. -/
theorem unmoved_of_applyRemote (firm : MediaEngine.Firm ε) {description : String}
    {kind : DescriptionKind} (known : negotiation.remoteUser = some user)
    (refused : negotiation.applyRemote description kind user = (asked, some fault)) :
    negotiation.Unmoved asked
      (rememberStreams negotiation.remoteStreams description user) := by
  rcases unmoved_of_ask firm refused with ⟨traffic, rfl⟩
  refine ⟨traffic, ?_⟩
  unfold disguised
  rw [known]

theorem unmoved_of_setMuted (firm : MediaEngine.Firm ε) {muted : Bool}
    (refused : (negotiation.setMuted muted).2 = .error error) :
    negotiation.Unmoved (negotiation.setMuted muted).1 negotiation.remoteStreams := by
  unfold setMuted at refused ⊢
  split
  · exact ⟨negotiation.traffic, rfl⟩
  · rename_i able
    rw [if_neg able] at refused
    split
    · exact unmoved_of_ask firm ‹_›
    · rename_i taken
      simp [taken] at refused

theorem unmoved_of_toggleCamera (firm : MediaEngine.Firm ε)
    (refused : negotiation.toggleCamera.2 = .error error) :
    negotiation.Unmoved negotiation.toggleCamera.1 negotiation.remoteStreams := by
  unfold toggleCamera at refused ⊢
  split
  · exact ⟨negotiation.traffic, rfl⟩
  · rename_i running
    rw [if_neg running] at refused
    split
    · exact unmoved_of_ask firm ‹_›
    · rename_i taken
      simp [taken] at refused

theorem unmoved_of_renegotiate (firm : MediaEngine.Firm ε)
    (known : negotiation.remoteUser = some user) {description : String} {isAnswer : Bool}
    (refused : (negotiation.renegotiate description user isAnswer).2 = .error error) :
    ∃ streams, negotiation.Unmoved (negotiation.renegotiate description user isAnswer).1
      streams := by
  unfold renegotiate at refused ⊢
  split
  · exact ⟨negotiation.remoteStreams, negotiation.traffic, rfl⟩
  · rename_i running
    rw [if_neg running] at refused
    split
    · rename_i answers
      rw [if_pos answers] at refused
      split
      · exact ⟨_, unmoved_of_applyRemote firm known ‹_›⟩
      · rename_i taken
        simp [taken] at refused
    · rename_i offers
      rw [if_neg offers] at refused
      split
      · exact ⟨_, unmoved_of_applyRemote firm known ‹_›⟩
      · rename_i taken
        simp [taken] at refused

end Negotiation

/-! ## Operations that a phone refuses -/

namespace Phone

variable [MediaEngine ε] {phone : Phone ε} {chronicle : Chronicle} {now : Instant}
  {occurrence : Occurrence}

/-- An occurrence that a phone refuses: the user gets an error, or the other side of an established
call sends a description that the negotiation or its engine refuses. An offer without a usable codec
is not refused but rejected, with the call. -/
inductive Refuses (phone : Phone ε) (now : Instant) : Occurrence → Prop where
  | start {membership : Membership} {error : PhoneError}
      (refused : (phone.startCall now membership).2 = .error error) :
      Refuses phone now (.startCall membership)
  | accept {error : PhoneError} (refused : (phone.accept now).2 = .error error)
      (early : error = .noCall ∨ ∃ phase, error = .wrongPhase phase) :
      Refuses phone now .accept
  | ignore {error : PhoneError} (refused : phone.ignore.2 = .error error) :
      Refuses phone now .ignore
  | mute {muted : Bool} {error : PhoneError} (refused : (phone.setMuted muted).2 = .error error) :
      Refuses phone now (.setMuted muted)
  | camera {error : PhoneError} (refused : phone.toggleCamera.2 = .error error) :
      Refuses phone now .toggleCamera
  | negotiate {occurrence : Occurrence} {call : Call ε} {negotiation : Negotiation ε}
      {content : Renegotiation} {error : NegotiationError} (active : phone.phase = .active)
      (current : phone.call = some call) (opened : call.negotiation = some negotiation)
      (heard : call.heard? occurrence = some (.negotiate content))
      (refused : (negotiation.renegotiate content.description call.remoteUser
        content.isAnswer).2 = .error error) : Refuses phone now occurrence

omit [MediaEngine ε] in
/-- An operation that leaves the negotiation of a call unmoved leaves the phone as it was, but for
the streams that are known, and writes of the engine alone. -/
theorem keep_of_unmoved {call : Call ε} {negotiation asked : Negotiation ε}
    {streams : List (String × UserId)} (coherent : phone.Coherent)
    (current : phone.call = some call) (opened : call.negotiation = some negotiation)
    (unmoved : negotiation.Unmoved asked streams) :
    ∃ entries, phone.keep call asked = (phone.withStreams streams).noted entries ∧
      entries.all LogEntry.isTraffic = true := by
  have quiet := coherent.collected current opened
  rcases unmoved with ⟨traffic, rfl⟩
  refine ⟨traffic.map (LogEntry.traffic negotiation.id), ?_, by simp [LogEntry.isTraffic]⟩
  have kept : call.keeping (negotiation.disguised negotiation.engine streams traffic) =
      call.withStreams streams := by
    simp [Call.keeping, Call.withStreams, opened, Negotiation.disguised, Negotiation.withStreams,
      quiet]
  rw [keep_eq, kept]
  unfold noted withStreams
  rw [current]
  rfl

omit [MediaEngine ε] in
/-- A phone writes what it asks its engine, and nothing else, if the negotiation is left unmoved. -/
theorem keep_of_still {call : Call ε} {negotiation asked : Negotiation ε}
    (coherent : phone.Coherent) (current : phone.call = some call)
    (opened : call.negotiation = some negotiation)
    (unmoved : negotiation.Unmoved asked negotiation.remoteStreams) :
    ∃ entries, phone.keep call asked = phone.noted entries ∧
      entries.all LogEntry.isTraffic = true := by
  have kept := keep_of_unmoved coherent current opened unmoved
  rwa [withStreams_known current opened] at kept

theorem startCall_of_refused {membership : Membership} {error : PhoneError}
    (refused : (phone.startCall now membership).2 = .error error) :
    (phone.startCall now membership).1 = phone := by
  unfold startCall at refused ⊢
  split
  · rfl
  · rename_i idle
    rw [if_neg idle] at refused
    split
    · rfl
    · rename_i callee known
      simp only [known] at refused
      split
      · rfl
      · rename_i capable
        rw [if_neg capable] at refused
        cases refused

/-- A phone also refuses to accept an offer without a usable codec, but that ends the call. -/
theorem accept_of_refused {error : PhoneError} (refused : (phone.accept now).2 = .error error)
    (early : error = .noCall ∨ ∃ phase, error = .wrongPhase phase) :
    (phone.accept now).1 = phone := by
  unfold accept at refused ⊢
  split
  · rfl
  · rename_i call current
    simp only [current] at refused
    split
    · rfl
    · rename_i rings
      rw [if_neg rings] at refused
      split at refused
      · cases refused
        simp at early
      · cases refused

theorem ignore_of_refused {error : PhoneError} (refused : phone.ignore.2 = .error error) :
    phone.ignore.1 = phone := by
  unfold ignore at refused ⊢
  split
  · rfl
  · rename_i rings
    rw [if_neg rings] at refused
    cases refused

theorem setMuted_of_refused (firm : MediaEngine.Firm ε) (coherent : phone.Coherent) {muted : Bool}
    {error : PhoneError} (refused : (phone.setMuted muted).2 = .error error) :
    ∃ entries, (phone.setMuted muted).1 = phone.noted entries ∧
      entries.all LogEntry.isTraffic = true := by
  cases opened : phone.negotiation? with
  | none => exact ⟨[], by simp [setMuted, opened, noted_nil], rfl⟩
  | some negotiation =>
      rcases Option.bind_eq_some_iff.mp opened with ⟨call, current, run⟩
      cases outcome : (negotiation.setMuted muted).2 with
      | ok => simp [setMuted, current, opened, outcome] at refused
      | error fault =>
          have still := Negotiation.unmoved_of_setMuted firm outcome
          simpa [setMuted, current, opened, outcome] using keep_of_still coherent current run still

theorem toggleCamera_of_refused (firm : MediaEngine.Firm ε) (coherent : phone.Coherent)
    {error : PhoneError} (refused : phone.toggleCamera.2 = .error error) :
    ∃ entries, phone.toggleCamera.1 = phone.noted entries ∧
      entries.all LogEntry.isTraffic = true := by
  cases opened : phone.negotiation? with
  | none => exact ⟨[], by simp [toggleCamera, opened, noted_nil], rfl⟩
  | some negotiation =>
      rcases Option.bind_eq_some_iff.mp opened with ⟨call, current, run⟩
      cases outcome : negotiation.toggleCamera.2 with
      | ok =>
          simp only [toggleCamera, current, opened, outcome] at refused
          cases refused
      | error fault =>
          have still := Negotiation.unmoved_of_toggleCamera firm outcome
          simpa [toggleCamera, current, opened] using keep_of_still coherent current run still

/-- An occurrence that leaves no trace: the phone differs afterwards at most in the streams that are
known of an established call, which only a signal brings, and what it writes passed between it and
its engine. -/
structure Traceless (phone : Phone ε) (now : Instant) (occurrence : Occurrence) (other : Phone ε)
    (entries : List LogEntry) : Prop where
  after : phone.after now occurrence = other.noted entries
  alike : phone.Alike other
  brought : occurrence.signal? = none → other = phone
  traffic : entries.all LogEntry.isTraffic = true

theorem traceless_of_refuses (firm : MediaEngine.Firm ε) (coherent : phone.Coherent)
    (attributed : phone.Attributed) (refuses : phone.Refuses now occurrence) :
    ∃ other entries, phone.Traceless now occurrence other entries := by
  have still (same : phone.after now occurrence = phone) :
      ∃ other entries, phone.Traceless now occurrence other entries :=
    ⟨phone, [], by rw [same, noted_nil], .same, fun _ => rfl, rfl⟩
  cases refuses with
  | start refused => exact still (startCall_of_refused refused)
  | accept refused early => exact still (accept_of_refused refused early)
  | ignore refused => exact still (ignore_of_refused refused)
  | mute refused =>
      rcases setMuted_of_refused firm coherent refused with ⟨entries, after, traffic⟩
      exact ⟨phone, entries, after, .same, fun _ => rfl, traffic⟩
  | camera refused =>
      rcases toggleCamera_of_refused firm coherent refused with ⟨entries, after, traffic⟩
      exact ⟨phone, entries, after, .same, fun _ => rfl, traffic⟩
  | @negotiate _ call negotiation content error active current opened heard refused =>
      have faces := (attributed call current negotiation opened).2 (by simp [active])
      rcases Negotiation.unmoved_of_renegotiate firm faces.known refused with ⟨streams, unmoved⟩
      rcases keep_of_unmoved coherent current opened unmoved with ⟨entries, kept, traffic⟩
      have after := after_of_heard coherent current heard now
      have brought : occurrence.signal? ≠ none := by
        intro silent
        simp [Call.heard?, silent] at heard
      split at after
      · exact still after
      · refine ⟨_, entries, ?_, .talks streams active, fun silent => absurd silent brought, traffic⟩
        rw [after, ← kept]
        simp only [hearRemote, hearNegotiate, active, opened]

/-! ## Runs after a refusal -/

/-- What the owner of a phone is told, without what passed between the phone and its engine. -/
def Outcome.told : Outcome → Outcome
  | .replied reply => .replied reply
  | .took entries => .took (entries.filter fun entry => !entry.isTraffic)

/-- What the owner of a phone gets for each action of a run. -/
def outcomes (phone : Phone ε) : List Action → List Outcome
  | [] => []
  | action :: later => (phone.act action).2 :: (phone.act action).1.outcomes later

/-- Runs of a phone with different logs tell the same if the logs differ in traffic only. -/
theorem told_outcomes_preceded {earlier others : List LogEntry}
    (same : (earlier.filter fun entry => !entry.isTraffic) =
      others.filter fun entry => !entry.isTraffic) (actions : List Action) :
    ((phone.preceded earlier).outcomes actions).map Outcome.told =
      ((phone.preceded others).outcomes actions).map Outcome.told := by
  induction actions generalizing phone with
  | nil => rfl
  | cons action later ih =>
      cases action with
      | passes now occurrence =>
          simp only [outcomes, act, handle_preceded, List.map_cons, ih]
      | takesLog =>
          have taken : (Outcome.took (earlier ++ phone.log)).told =
              (Outcome.took (others ++ phone.log)).told := by
            simp [Outcome.told, same]
          exact congrArg (· :: _) taken

/-- Nobody can tell alike phones apart. -/
theorem outcomes_of_alike {other : Phone ε} {others : Chronicle} (lived : phone.Lived chronicle)
    (livedToo : other.Lived others) (alike : phone.Alike other) (actions : List Action) :
    other.outcomes actions = phone.outcomes actions := by
  induction actions generalizing phone other chronicle others with
  | nil => rfl
  | cons action later ih =>
      cases action with
      | passes now occurrence =>
          rcases alike_handle (coherent_of_lived lived) (attributed_of_lived lived)
            (attributed_of_lived livedToo) alike now occurrence with ⟨reply, afterwards⟩
          have rest := ih (lived.after now occurrence) (livedToo.after now occurrence) afterwards
          simp only [Phone.after] at rest
          simp only [outcomes, act, reply, rest]
      | takesLog =>
          have rest := ih (lived.read []) (livedToo.read []) (alike.withLog [])
          simp only [outcomes, act, takeLog, alike.log, rest]

/-- A refusal leaves no trace. Every run afterwards tells the owner what it tells without the
refusal, and once the log is read, even what passes between the phone and its engine is the same. -/
theorem outcomes_of_refuses (firm : MediaEngine.Firm ε) (lived : phone.Lived chronicle)
    (refuses : phone.Refuses now occurrence) :
    (∃ other entries, phone.Traceless now occurrence other entries) ∧
    (∀ actions, ((phone.after now occurrence).outcomes actions).map Outcome.told =
      (phone.outcomes actions).map Outcome.told) ∧
    ∀ actions, (phone.after now occurrence).takeLog.1.outcomes actions =
      phone.takeLog.1.outcomes actions := by
  have traceless :=
    traceless_of_refuses firm (coherent_of_lived lived) (attributed_of_lived lived) refuses
  refine ⟨traceless, ?_⟩
  rcases traceless with ⟨other, entries, after, alike, -, traffic⟩
  have livedOn := lived.after now occurrence
  rw [after] at livedOn ⊢
  refine ⟨fun actions => ?_, fun actions => ?_⟩
  · have livedToo : other.Lived (chronicle.next phone now occurrence) := livedOn.read other.log
    have silent : ((other.log ++ entries).filter fun entry => !entry.isTraffic) =
        other.log.filter fun entry => !entry.isTraffic := by
      simp only [List.all_eq_true] at traffic
      simpa using traffic
    calc
      ((other.noted entries).outcomes actions).map Outcome.told
      _ = ((preceded { other with log := [] } (other.log ++ entries)).outcomes actions).map
            Outcome.told := by simp [preceded, noted]
      _ = ((preceded { other with log := [] } other.log).outcomes actions).map Outcome.told :=
          told_outcomes_preceded silent actions
      _ = (other.outcomes actions).map Outcome.told := by simp [preceded]
      _ = (phone.outcomes actions).map Outcome.told := by
          rw [outcomes_of_alike lived livedToo alike]
  · exact outcomes_of_alike (lived.read []) (livedOn.read []) (alike.withLog []) actions

/-- An offer for a running call without any text. -/
def blankOffer : Occurrence :=
  .signal { pair with localUser := ⟨"@bob"⟩ }
    ⟨⟨"@alice"⟩, 8, .negotiate ⟨⟨"call"⟩, some ⟨"party"⟩, "", false, []⟩⟩

theorem refuses_blankOffer :
    (chronicled (scripted, {}) mutedRun).1.Refuses 8 blankOffer :=
  .negotiate rfl rfl rfl rfl rfl

theorem outcomes_of_refuses_mutedRun :
    let phone := (chronicled (scripted, {}) mutedRun).1
    phone.Refuses 8 blankOffer ∧
      (phone.after 8 blankOffer).log.length = phone.log.length + 1 ∧
      ∀ actions, ((phone.after 8 blankOffer).outcomes actions).map Outcome.told =
        (phone.outcomes actions).map Outcome.told :=
  have refuses := refuses_blankOffer
  ⟨refuses, by decide, (outcomes_of_refuses Engine.firm_scripted
    (lived_chronicled (.new isNew_scripted) mutedRun) refuses).2.1⟩

end Phone

end RoomCall
