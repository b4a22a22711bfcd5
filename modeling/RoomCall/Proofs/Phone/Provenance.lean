import RoomCall.Proofs.Phone.Candidates
import RoomCall.Proofs.Phone.Sending

/-!
# Where a call comes from

A call was either started on this phone or rang for an invite, and for good: the names that it was
opened with stay. `Call.Traced` keeps this together with what a call that was started knows of its
other side: the description that its engine was given first is the one of an answer that was heard,
and the other side is the party of this answer.
-/

namespace RoomCall

variable {ε : Type}

/-- What stays of a call from its opening to its end. -/
structure CallIdentity where
  id : CallId
  room : RoomId
  party : PartyId
  localUser : UserId
  remoteUser : UserId
  deriving DecidableEq, Repr

/-- A request that hands over the description of the other side. -/
def Engine.Request.description? : Engine.Request → Option String
  | .applyRemote _ description => some description
  | _ => none

namespace Call

/-- The names that a call was opened with. -/
def identity (call : Call ε) : CallIdentity :=
  ⟨call.id, call.room, call.party, call.localUser, call.remoteUser⟩

/-- The first description of the other side that the engine of a call was given. -/
def firstRemote? (call : Call ε) (entries : List LogEntry) : Option String :=
  call.negotiation >>= fun negotiation =>
    (LogEntry.deliveries negotiation.id entries).findSome? Engine.Request.description?

/-- An occurrence that makes a call ring. -/
structure RangFor (call : Call ε) (membership : Membership) (signal : Signal) (invite : Invite) :
    Prop where
  message : signal.message = .invite invite
  user : call.localUser = membership.localUser
  room : call.room = membership.room
  sender : call.remoteUser = signal.sender
  named : call.id = invite.call
  party : call.remoteParty = invite.party

/-- An answer with some description was heard in a call, and its party is the other side. -/
def Answered (call : Call ε) (occurrences : List Occurrence) (description : String) : Prop :=
  ∃ occurrence ∈ occurrences, ∃ answer, call.heard? occurrence = some (.answer answer) ∧
    (∀ party, answer.party = some party → call.remoteParty = some party) ∧
    answer.description = description

/-- How a call came about, and what follows for its description. -/
inductive Traced (phase : Phase) (call : Call ε) (occurrences : List Occurrence)
    (entries : List LogEntry) : Prop where
  /-- The call rang on this phone. -/
  | rang {occurrence : Occurrence} {membership : Membership} {signal : Signal} {invite : Invite}
      (first : occurrences.head? = some occurrence)
      (heard : occurrence.signal? = some (membership, signal))
      (rang : call.RangFor membership signal invite) (passive : phase ≠ .outgoing) :
      Traced phase call occurrences entries
  /-- The call was started on this phone. -/
  | dialed {membership : Membership} (first : occurrences.head? = some (.startCall membership))
      (user : call.localUser = membership.localUser) (active : phase ≠ .incoming)
      (held : phase = .outgoing → ∀ description, call.heldDescription = some description →
        call.Answered occurrences description)
      (applied : phase = .active → ∃ description,
        call.firstRemote? entries = some description ∧ call.Answered occurrences description) :
      Traced phase call occurrences entries

variable {call later : Call ε} {phase : Phase} {occurrences : List Occurrence}
  {entries : List LogEntry}

theorem heard?_congr (same : later.identity = call.identity) : later.heard? = call.heard? := by
  simp only [identity, CallIdentity.mk.injEq] at same
  rcases same with ⟨id, room, _, _, remote⟩
  funext occurrence
  simp only [heard?, id, room, remote]

theorem Answered.stays {description : String} (answered : call.Answered occurrences description)
    (same : later.identity = call.identity) (party : later.remoteParty = call.remoteParty)
    (more : List Occurrence) : later.Answered (occurrences ++ more) description := by
  rcases answered with ⟨occurrence, there, answer, heard, bound, is⟩
  refine ⟨occurrence, List.mem_append_left _ there, answer, ?_, ?_, is⟩
  · rw [heard?_congr same, heard]
  · rw [party]
    exact bound

theorem firstRemote?_append {description : String} (more : List LogEntry)
    (first : call.firstRemote? entries = some description)
    (session : later.negotiation.map Negotiation.id = call.negotiation.map Negotiation.id) :
    later.firstRemote? (entries ++ more) = some description := by
  unfold firstRemote? at first ⊢
  cases opened : call.negotiation with
  | none => simp [opened] at first
  | some negotiation =>
      rw [opened] at first session
      rcases Option.map_eq_some_iff.mp session with ⟨kept, there, id⟩
      have before : (LogEntry.deliveries negotiation.id entries).findSome?
          Engine.Request.description? = some description := first
      rw [there]
      change (LogEntry.deliveries kept.id (entries ++ more)).findSome? _ = _
      rw [id, LogEntry.deliveries_append, List.findSome?_append, before]
      rfl

theorem head?_append_of_some {α : Type} {first : α} {list : List α} (is : list.head? = some first)
    (more : List α) : (list ++ more).head? = some first := by
  rw [List.head?_append, is]
  rfl

/-- The origin of a call is kept by everything that leaves its names, its party, its held
description and its negotiation where they are, also when the call is established by answering. -/
theorem Traced.stays {after : Phase} (traced : call.Traced phase occurrences entries)
    (occurrence : Occurrence) (more : List LogEntry) (same : later.identity = call.identity)
    (party : later.remoteParty = call.remoteParty)
    (phases : after = phase ∨ phase = .incoming ∧ after = .active)
    (held : phase = .outgoing → later.heldDescription = call.heldDescription)
    (session : phase = .active →
      later.negotiation.map Negotiation.id = call.negotiation.map Negotiation.id) :
    later.Traced after (occurrences ++ [occurrence]) (entries ++ more) := by
  have names := same
  simp only [identity, CallIdentity.mk.injEq] at names
  rcases names with ⟨id, room, _, user, remote⟩
  cases traced with
  | rang first heard rang passive =>
      refine .rang (head?_append_of_some first _) heard ⟨rang.message, ?_, ?_, ?_, ?_, ?_⟩ ?_
      · rw [user, rang.user]
      · rw [room, rang.room]
      · rw [remote, rang.sender]
      · rw [id, rang.named]
      · rw [party, rang.party]
      · rcases phases with rfl | ⟨_, rfl⟩
        · exact passive
        · simp
  | dialed first dialer active answered applied =>
      obtain rfl : after = phase := by
        rcases phases with same | ⟨incoming, _⟩
        · exact same
        · exact absurd incoming active
      refine .dialed (head?_append_of_some first _) (user.trans dialer) active ?_ ?_
      · intro outgoing description there
        rw [held outgoing] at there
        exact (answered outgoing description there).stays same party _
      · intro established
        rcases applied established with ⟨description, given, heard⟩
        exact ⟨description, firstRemote?_append more given (session established),
          heard.stays same party _⟩

end Call

namespace Phone

variable [MediaEngine ε] {phone after : Phone ε} {call : Call ε} {occurrences : List Occurrence}
  {entries : List LogEntry} {occurrence : Occurrence}

/-- What has to hold after a step: the call that is there then is traced. -/
def Traces (before after : Phone ε) (occurrences : List Occurrence) (entries : List LogEntry) :
    Prop :=
  ∀ call, after.call = some call →
    call.Traced after.phase occurrences (entries ++ written before after)

omit [MediaEngine ε] in
theorem traces_ended (gone : after.call = none) : phone.Traces after occurrences entries := by
  intro call current
  simp [gone] at current

omit [MediaEngine ε] in
theorem traces_of_call (later : Call ε) (there : after.call = some later)
    (traced : later.Traced after.phase occurrences (entries ++ written phone after)) :
    phone.Traces after occurrences entries := by
  intro other current
  rw [there, Option.some.injEq] at current
  exact current ▸ traced

omit [MediaEngine ε] in
theorem traces_of_log (later : Call ε) (more : List LogEntry) (there : after.call = some later)
    (log : after.log = phone.log ++ more)
    (traced : later.Traced after.phase occurrences (entries ++ more)) :
    phone.Traces after occurrences entries := by
  refine traces_of_call later there ?_
  rw [written_eq log]
  exact traced

omit [MediaEngine ε] in
/-- Keeping the negotiation of a call after an operation on it keeps the call traced. -/
theorem traces_of_keep {kept : Phone ε} {negotiation asked : Negotiation ε}
    (opened : call.negotiation = some negotiation) (id : asked.id = negotiation.id)
    (there : kept.call = some (call.keeping asked))
    (phases : kept.phase = phone.phase ∨ phone.phase = .incoming ∧ kept.phase = .active)
    (traced : call.Traced phone.phase occurrences entries) :
    phone.Traces kept (occurrences ++ [occurrence]) entries := by
  refine traces_of_call _ there (traced.stays _ _ rfl rfl phases (fun _ => rfl) fun _ => ?_)
  rw [opened]
  exact congrArg some id

/-- What the start of a negotiation leaves as it was. -/
structure Continues (phone : Phone ε) (call : Call ε) (side : Role) (after : Phone ε)
    (later : Call ε) : Prop where
  phase : after.phase = phone.phase
  identity : later.identity = call.identity
  party : later.remoteParty = call.remoteParty
  held : side = .offering → later.heldDescription = call.heldDescription

theorem continues_of_opens {side : Role} {later : Call ε} (opens : phone.Opens call side after)
    (there : after.call = some later) : phone.Continues call side after later := by
  cases opens with
  | refused => cases there
  | opened =>
      cases there
      cases side
      · exact ⟨rfl, rfl, rfl, fun _ => rfl⟩
      · exact ⟨rfl, rfl, rfl, fun other => nomatch other⟩

theorem continues_of_starts {side : Role} {later : Call ε} (starts : phone.Starts call side after)
    (there : after.call = some later) : phone.Continues call side after later := by
  cases starts with
  | opens opens => exact continues_of_opens opens there
  | waits =>
      cases there
      exact ⟨rfl, rfl, rfl, fun _ => rfl⟩

theorem identity_of_settles {later : Call ε} (settles : phone.Settles call after)
    (current : phone.call = some call) (there : after.call = some later) :
    later.identity = call.identity := by
  cases settles with
  | refused => cases there
  | waits => rw [Option.some.inj (there.symm.trans current)]
  | applied =>
      cases there
      rfl

omit [MediaEngine ε] in
theorem identity_answeredBy (answer : Answer) : (call.answeredBy answer).identity = call.identity := by
  unfold Call.answeredBy bindParty
  cases answer.party <;> rfl

/-- A call keeps the names that it was opened with. -/
theorem identity_of_move {now : Instant} {later : Call ε} (move : phone.Move now occurrence after)
    (current : phone.call = some call) (there : after.call = some later) :
    later.identity = call.identity := by
  cases move with
  | still | plugged | refreshed =>
      have same : phone.call = some later := there
      rw [Option.some.inj (same.symm.trans current)]
  | rang idle | dialed is idle => simp [idle] at current
  | ended => cases there
  | @resumed _ call' _ _ is current' deferred opens =>
      rcases Option.some.inj (current.symm.trans current') with rfl
      exact (continues_of_opens opens there).identity
  | @accepted call' _ is current' incoming unaccepted compatible starts =>
      rcases Option.some.inj (current.symm.trans current') with rfl
      exact (continues_of_starts starts there).identity
  | held current' | handed current' | renegotiated current' | muted _ current'
    | toggled _ current' =>
      rcases Option.some.inj (current.symm.trans current') with rfl
      cases there
      rfl
  | gathered current' heard admits outgoing settles =>
      rcases Option.some.inj (current.symm.trans current') with rfl
      have same := identity_of_settles settles rfl there
      exact same
  | answered current' heard admits outgoing unanswered settles =>
      rcases Option.some.inj (current.symm.trans current') with rfl
      exact (identity_of_settles settles rfl there).trans (identity_answeredBy _)
  | reacted is current' opened runs reacts =>
      rcases Option.some.inj (current.symm.trans current') with rfl
      cases reacts with
      | broken | lost | reportedLost => cases there
      | moved | reported | renegotiated =>
          cases there
          rfl
      | watched =>
          rw [setRoster_eq] at there
          cases there
          rfl

omit [MediaEngine ε] in
/-- The start of a negotiation keeps a call traced that waits for it. -/
theorem traced_of_continues {side : Role} {phase : Phase} {later origin : Call ε}
    {more : List LogEntry} (traced : origin.Traced phase occurrences entries)
    (continues : phone.Continues call side after later) (same : phone.phase = phase)
    (fits : phone.Fits call side) (names : call.identity = origin.identity)
    (party : call.remoteParty = origin.remoteParty)
    (held : call.heldDescription = origin.heldDescription) :
    later.Traced after.phase (occurrences ++ [occurrence]) (entries ++ more) := by
  subst same
  refine traced.stays _ _ (continues.identity.trans names) (continues.party.trans party)
    (.inl continues.phase) ?_ ?_
  · intro outgoing
    cases side with
    | offering => rw [continues.held rfl, held]
    | answering => exact absurd fits.1 (by simp [outgoing])
  · intro active
    cases side <;> exact absurd fits.1 (by simp [active])

/-- An answer that is applied is the first description that the engine is given. -/
theorem traces_of_settles {other : Call ε} {membership : Membership}
    (settles : Settles { phone with call := some other } other after)
    (outgoing : phone.phase = .outgoing)
    (first : occurrences.head? = some (.startCall membership))
    (user : other.localUser = membership.localUser)
    (answered : ∀ description, other.heldDescription = some description →
      other.Answered occurrences description)
    (collected : ∀ negotiation, other.negotiation = some negotiation → negotiation.traffic = [])
    (silent : ∀ negotiation, other.negotiation = some negotiation →
      LogEntry.deliveries negotiation.id entries = []) :
    phone.Traces after occurrences entries := by
  cases settles with
  | refused => exact traces_ended rfl
  | waits =>
      refine traces_of_call other rfl (.dialed first user ?_ (fun _ => answered) ?_)
      · simp [outgoing]
      · simp [outgoing]
  | @applied answer negotiation held opened sent ready =>
      refine traces_of_log (other.emptied.keeping _)
        (((negotiation.applyRemote answer .answer other.remoteUser).1.addRemoteCandidates
          (other.heldCandidates.map Prod.snd)).traffic.map (LogEntry.traffic negotiation.id) ++
            LogEntry.errand .cancelTimer :: phaseEntries phone.phase .active) rfl ?_
        (.dialed first user (by simp) ?_ ?_)
      · simp [noted, keep_eq]
      · intro waits
        cases waits
      · intro _
        refine ⟨answer, ?_, answered answer held⟩
        have id : ((negotiation.applyRemote answer .answer other.remoteUser).1.addRemoteCandidates
            (other.heldCandidates.map Prod.snd)).id = negotiation.id :=
          Negotiation.id_addRemoteCandidates _
        change (LogEntry.deliveries (Negotiation.id _) _).findSome? Engine.Request.description? = _
        rw [id, LogEntry.deliveries_append, silent _ opened,
          deliveries_applied (collected _ opened)]
        rfl

omit [MediaEngine ε] in
/-- An answer that is held back was heard. -/
theorem answered_answeredBy {answer : Answer} {earlier : List Occurrence}
    (heard : call.heard? occurrence = some (.answer answer)) :
    ∀ description, (call.answeredBy answer).heldDescription = some description →
      (call.answeredBy answer).Answered (earlier ++ [occurrence]) description := by
  rintro description ⟨⟩
  refine ⟨occurrence, by simp, answer, ?_, ?_, rfl⟩
  · rw [Call.heard?_congr (identity_answeredBy answer), heard]
  · intro party bound
    simp [Call.answeredBy, bindParty, bound]

theorem traces_of_reacts {negotiation handled : Negotiation ε} {side : Role}
    (reacts : phone.Reacts call side negotiation handled after) (coherent : phone.Coherent)
    (current : phone.call = some call) (opened : call.negotiation = some negotiation)
    (runs : negotiation.Runs side) (id : handled.id = negotiation.id)
    (traced : call.Traced phone.phase occurrences entries) :
    phone.Traces after (occurrences ++ [occurrence]) entries := by
  cases reacts with
  | broken | lost | reportedLost => exact traces_ended rfl
  | moved => exact traces_of_keep opened id rfl (.inl rfl) traced
  | renegotiated =>
      rw [sendNegotiate_eq]
      exact traces_of_keep opened id rfl (.inl rfl) traced
  | watched =>
      rw [setRoster_eq]
      exact traces_of_keep opened id rfl (.inl rfl) traced
  | reported _ silent =>
      refine traces_of_keep opened id rfl ?_ traced
      rcases phase_of_silent coherent current opened runs silent with
        ⟨rfl, outgoing, _⟩ | ⟨rfl, incoming, _⟩
      · exact .inl rfl
      · exact .inr ⟨incoming, rfl⟩

/-- Every move keeps the call that is there after it traced. -/
theorem traces_of_move {now : Instant} {history : History}
    (move : phone.Move now occurrence after) (coherent : phone.Coherent)
    (fresh : phone.call = none → history = {})
    (conserves : ∀ call, phone.call = some call →
      call.Conserves phone.phase history.occurrences history.entries)
    (traced : ∀ call, phone.call = some call →
      call.Traced phone.phase history.occurrences history.entries) :
    phone.Traces after (history.occurrences ++ [occurrence]) history.entries := by
  have unread {same : Phone ε} (current : same.call = phone.call)
      (phase : same.phase = phone.phase) :
      phone.Traces same (history.occurrences ++ [occurrence]) history.entries := by
    intro call there
    exact (traced call (current.symm.trans there)).stays _ _ rfl rfl (.inl phase) (fun _ => rfl)
      fun _ => rfl
  -- A call that waits for an answer was started here, and its engine was given nothing yet.
  have settled {call other : Call ε} (current : phone.call = some call)
      (outgoing : phone.phase = .outgoing) (names : other.identity = call.identity)
      (negotiation : other.negotiation = call.negotiation)
      (settles : Settles { phone with call := some other } other after)
      (answered : ∀ description, other.heldDescription = some description →
        other.Answered (history.occurrences ++ [occurrence]) description) :
      phone.Traces after (history.occurrences ++ [occurrence]) history.entries := by
    have user : other.localUser = call.localUser := congrArg CallIdentity.localUser names
    cases traced call current with
    | rang _ _ _ passive => exact absurd outgoing passive
    | dialed first dialer =>
        refine traces_of_settles settles outgoing (Call.head?_append_of_some first _)
          (user.trans dialer) answered ?_ ?_
        · intro opened there
          exact coherent.collected current (negotiation.symm.trans there)
        · intro opened there
          exact (conserves call current).unanswered outgoing (negotiation.symm.trans there)
  cases move with
  | still => exact unread rfl rfl
  | plugged => exact unread rfl rfl
  | refreshed => exact unread rfl rfl
  | @resumed outcome call side after is current deferred opens =>
      intro later there
      have fits := fits_of_deferred coherent current deferred
      refine traced_of_continues (traced call current) (continues_of_opens opens there) rfl ?_ rfl
        rfl rfl
      cases side <;> exact fits
  | @rang membership signal invite idle heard message other fresh' =>
      rw [fresh idle]
      refine traces_of_call (phone.ringingCall membership signal.sender invite) rfl ?_
      exact .rang rfl heard ⟨message, rfl, rfl, rfl, rfl, rfl⟩ (by simp [ringing])
  | @dialed membership callee after is idle known capable starts =>
      intro later there
      have continues := continues_of_starts starts there
      rw [fresh idle]
      refine .dialed (congrArg some is) (congrArg CallIdentity.localUser continues.identity)
        ?_ ?_ ?_
      · simp [continues.phase, dialing]
      · intro _ description held
        rw [continues.held rfl] at held
        cases held
      · simp [continues.phase, dialing]
  | @accepted call after is current incoming unaccepted compatible starts =>
      intro later there
      have offer : call.heldDescription.isSome = true := by
        cases held : call.heldDescription with
        | none => simp [held] at compatible
        | some offer => rfl
      exact traced_of_continues (traced call current) (continues_of_starts starts there) rfl
        ⟨incoming, rfl, offer⟩ rfl rfl rfl
  | ended => exact traces_ended rfl
  | @held call batch current heard admits incoming unopened =>
      exact traces_of_call (call.holding batch) rfl
        ((traced call current).stays _ _ rfl rfl (.inl rfl) (fun _ => rfl) fun _ => rfl)
  | @gathered call batch after current heard admits outgoing settles =>
      have before := traced call current
      refine @settled call (call.holding batch) current outgoing rfl rfl settles ?_
      intro description there
      cases before with
      | rang _ _ _ passive => exact absurd outgoing passive
      | dialed _ _ _ answered => exact (answered outgoing description there).stays rfl rfl _
  | @answered call answer after current heard admits outgoing unanswered settles =>
      refine settled current outgoing (identity_answeredBy _) ?_ settles (answered_answeredBy heard)
      · unfold Call.answeredBy bindParty
        cases answer.party <;> rfl
  | handed current opened =>
      exact traces_of_keep opened (Negotiation.id_addRemoteCandidates _) rfl (.inl rfl)
        (traced _ current)
  | renegotiated current opened =>
      exact traces_of_keep opened (Negotiation.id_renegotiate _ _ _) rfl (.inl rfl)
        (traced _ current)
  | muted is current opened =>
      exact traces_of_keep opened (Negotiation.id_setMuted _) rfl (.inl rfl) (traced _ current)
  | toggled is current opened =>
      exact traces_of_keep opened Negotiation.id_toggleCamera rfl (.inl rfl) (traced _ current)
  | reacted is current opened runs reacts =>
      exact traces_of_reacts reacts coherent current opened runs (Negotiation.id_handle _)
        (traced _ current)

theorem traced_of_reached {history : History} (reached : phone.Reached history) :
    ∀ call, phone.call = some call →
      call.Traced phone.phase history.occurrences history.entries := by
  induction reached with
  | new new =>
      intro call current
      simp [new.call] at current
  | @after phone history reached now occurrence ih =>
      have coherent := coherent_of_reached reached
      have conserves := conserves_of_reached reached
      have traces := traces_of_move (move_after coherent now occurrence) coherent conserves.1
        conserves.2 ih
      intro call current
      simpa [History.next, current] using traces call current
  | read reached rest ih => exact ih

end Phone

end RoomCall
