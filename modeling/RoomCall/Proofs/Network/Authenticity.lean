import RoomCall.Proofs.Network.Basic

/-!
# Whoever answers a call is who it seems to be

In a network everything that a device sends, hangups apart, is vouched for: the device had the call
that it names, under the party that it names; who sends an invite has started the call, and who sends
an answer has heard an invite that was sent. Together with the origin of the calls this leads from a
device whose call is established back to the one that has answered it.
-/

namespace RoomCall

variable {ι ε : Type}

/-- The content of a hangup is read as a hangup. -/
theorem Message.eq_hangup_of_read {content : Json} {message : Message}
    (read : Message.read .hangup content = .ok message) : ∃ hangup, message = .hangup hangup := by
  cases found : Message.readHangup content with
  | error fault =>
      rw [Message.read, found] at read
      cases read
  | ok hangup =>
      rw [Message.read, found] at read
      exact ⟨hangup, (Except.ok.inj read).symm⟩

namespace Network

/-- The names of a call of a device are among those of its openings. -/
def Opened (network : Network ι ε) (device : ι) (call : Call ε) (started : Bool) : Prop :=
  ⟨device, call.id, call.party, started⟩ ∈ network.openings

/-- What stands behind a message that a device has sent. -/
structure Vouched (network : Network ι ε) (user : ι → UserId) (device : ι) (message : Message)
    (call : Call ε) : Prop where
  had : (device, call) ∈ network.calls
  named : message.call = call.id
  party : message.party = some call.party
  /-- Whoever invites has started the call. -/
  invites : ∀ invite, message = .invite invite → network.Opened device call true
  /-- Whoever answers has heard an invite that was sent. -/
  answers : ∀ answer, message = .answer answer → ∃ source ∈ network.sent, ∃ invite,
    source.message = .ok (.invite invite) ∧ call.remoteUser = user source.device ∧
      invite.call = call.id ∧ invite.party = call.remoteParty

/-- What holds of every network that can be reached. -/
structure Sound (network : Network ι ε) [MediaEngine ε] (user : ι → UserId) : Prop where
  reached : ∀ device, (network.phones device).Reached (network.histories device)
  /-- Everything that has happened to a device could happen to it. -/
  admitted : ∀ device, ∀ occurrence ∈ (network.histories device).occurrences,
    network.Admits user device occurrence
  /-- The current calls are remembered. -/
  current : ∀ device call, (network.phones device).call = some call →
    (device, call) ∈ network.calls
  /-- So are their names, and how they came about. -/
  opened : ∀ device call, (network.phones device).call = some call →
    network.Opened device call
      ((network.histories device).occurrences.head?.any Occurrence.starts)
  /-- All calls that a device had were opened. -/
  names : ∀ entry ∈ network.calls, ∃ started, network.Opened entry.1 entry.2 started
  /-- Everything that was sent is vouched for. -/
  vouched : ∀ dispatch ∈ network.sent, ∀ message, dispatch.message = .ok message →
    (∃ hangup, message = .hangup hangup) ∨
      ∃ call, network.Vouched user dispatch.device message call

variable {network next : Network ι ε} {user : ι → UserId} {device : ι} {call : Call ε}

theorem Admits.mono {occurrence : Occurrence} (admits : network.Admits user device occurrence)
    (grown : network.Extends next) : next.Admits user device occurrence := by
  refine ⟨admits.starts, ?_⟩
  intro heard there
  rcases admits.hears heard there with ⟨here, dispatch, sent, brings⟩
  exact ⟨here, dispatch, grown.sent sent, brings⟩

theorem Vouched.mono {message : Message} (vouched : network.Vouched user device message call)
    (grown : network.Extends next) : next.Vouched user device message call := by
  refine ⟨grown.calls vouched.had, vouched.named, vouched.party, ?_, ?_⟩
  · intro invite is
    exact grown.openings (vouched.invites invite is)
  · intro answer is
    rcases vouched.answers answer is with ⟨source, sent, rest⟩
    exact ⟨source, grown.sent sent, rest⟩

variable [MediaEngine ε]

/-- A call that goes out was started by its device. -/
theorem Sound.started_of_outgoing (sound : network.Sound user)
    (current : (network.phones device).call = some call)
    (outgoing : (network.phones device).phase = .outgoing) : network.Opened device call true := by
  have opened := sound.opened device call current
  cases Phone.traced_of_reached (sound.reached device) call current with
  | rang _ _ _ passive => exact absurd outgoing passive
  | dialed first => rwa [first] at opened

/-- A call that rings does so for an invite that was sent. -/
theorem Sound.invite_of_incoming (sound : network.Sound user)
    (current : (network.phones device).call = some call)
    (incoming : (network.phones device).phase = .incoming) :
    ∃ source ∈ network.sent, ∃ invite, source.message = .ok (.invite invite) ∧
      call.remoteUser = user source.device ∧ invite.call = call.id ∧
        invite.party = call.remoteParty := by
  cases Phone.traced_of_reached (sound.reached device) call current with
  | dialed _ _ active => exact absurd incoming active
  | @rang occurrence membership signal invite first heard rang =>
      have admits := sound.admitted device occurrence (List.mem_of_head? first)
      rcases admits.hears _ heard with ⟨_, source, sent, brings⟩
      refine ⟨source, sent, invite, ?_, ?_, rang.named.symm, rang.party.symm⟩
      · rw [brings.message, rang.message]
      · rw [rang.sender, brings.sender]

/-- A device vouches for what it says about its call. -/
theorem Sound.vouched_of_names {message : Message} (sound : network.Sound user)
    (current : (network.phones device).call = some call)
    (names : (network.phones device).Names call message) :
    network.Vouched user device message call :=
  ⟨sound.current device call current, names.named, names.party,
    fun invite is => sound.started_of_outgoing current (names.invite invite is),
    fun answer is => sound.invite_of_incoming current (names.answer answer is)⟩

variable [DecidableEq ι]

theorem extends_after (network : Network ι ε) (device : ι) (now : Instant)
    (occurrence : Occurrence) : network.Extends (network.after device now occurrence) :=
  ⟨List.subset_append_left _ _, List.subset_append_left _ _, List.subset_append_left _ _⟩

omit [DecidableEq ι] in
theorem sound_new {phones : ι → Phone ε} (new : ∀ device, (phones device).IsNew) :
    Sound { phones := phones } user where
  reached device := .new (new device)
  admitted device occurrence there := by simp at there
  current device call current := by simp [(new device).call] at current
  opened device call current := by simp [(new device).call] at current
  names entry there := by simp at there
  vouched dispatch there := by simp at there

theorem sound_read (sound : network.Sound user) (device : ι) (rest : List LogEntry) :
    (network.read device rest).Sound user := by
  have call (other : ι) : ((network.read device rest).phones other).call =
      (network.phones other).call := by
    by_cases same : other = device
    · simp [read, same]
    · simp [read, same]
  refine ⟨?_, ?_, ?_, ?_, sound.names, ?_⟩
  · intro other
    by_cases same : other = device
    · subst same
      simpa [read] using (sound.reached other).read rest
    · simpa [read, same] using sound.reached other
  · intro other occurrence there
    exact (sound.admitted other occurrence there).mono ⟨fun _ => id, fun _ => id, fun _ => id⟩
  · intro other current there
    exact sound.current other current ((call other).symm.trans there)
  · intro other current there
    exact sound.opened other current ((call other).symm.trans there)
  · intro dispatch there message is
    exact (sound.vouched dispatch there message is).imp_right fun ⟨current, vouched⟩ =>
      ⟨current, vouched.mono ⟨fun _ => id, fun _ => id, fun _ => id⟩⟩

variable {now : Instant} {occurrence : Occurrence}

omit [DecidableEq ι] [MediaEngine ε] in
theorem opened_congr {later : Call ε} {started : Bool} (same : later.identity = call.identity)
    (opened : network.Opened device call started) : network.Opened device later started := by
  have id : later.id = call.id := congrArg CallIdentity.id same
  have party : later.party = call.party := congrArg CallIdentity.party same
  rwa [Opened, id, party]

@[simp]
theorem phones_after_self :
    (network.after device now occurrence).phones device =
      (network.phones device).after now occurrence := by
  simp [after]

@[simp]
theorem histories_after_self :
    (network.after device now occurrence).histories device =
      (network.histories device).next (network.phones device)
        ((network.phones device).after now occurrence) occurrence := by
  simp [after]

theorem phones_after_other {other : ι} (different : other ≠ device) :
    (network.after device now occurrence).phones other = network.phones other := by
  simp [after, different]

theorem histories_after_other {other : ι} (different : other ≠ device) :
    (network.after device now occurrence).histories other = network.histories other := by
  simp [after, different]

omit [DecidableEq ι] [MediaEngine ε] in
theorem occurrences_next {phone next : Phone ε} (history : Phone.History)
    (there : next.call = some call) :
    (history.next phone next occurrence).occurrences = history.occurrences ++ [occurrence] := by
  simp [Phone.History.next, there]

/-- A call that a device has after an occurrence is remembered as opened: it is opened now, or it
keeps its names. -/
theorem Sound.opened_after (sound : network.Sound user)
    (there : ((network.phones device).after now occurrence).call = some call) :
    (network.after device now occurrence).Opened device call
      (((network.histories device).occurrences ++ [occurrence]).head?.any Occurrence.starts) := by
  have reached := sound.reached device
  have coherent := Phone.coherent_of_reached reached
  cases current : (network.phones device).call with
  | none =>
      have fresh := (Phone.conserves_of_reached reached).1 current
      rw [fresh]
      simp [Opened, after, current, there]
  | some before =>
      have same := Phone.identity_of_move (Phone.move_after coherent now occurrence) current there
      have head : ((network.histories device).occurrences ++ [occurrence]).head? =
          (network.histories device).occurrences.head? := by
        cases Phone.traced_of_reached reached before current with
        | rang first => rw [Call.head?_append_of_some first, first]
        | dialed first => rw [Call.head?_append_of_some first, first]
      rw [head]
      exact opened_congr same
        ((extends_after network device now occurrence).openings (sound.opened device before current))

omit [DecidableEq ι] in
/-- Everything that a device sends upon an occurrence is vouched for. -/
theorem Sound.vouched_after (sound : network.Sound user) {sent : RoomId × OutgoingSignal}
    {message : Message}
    (there : sent ∈ LogEntry.sends (Phone.written (network.phones device)
      ((network.phones device).after now occurrence)))
    (read : Message.read sent.2.kind sent.2.content = .ok message) :
    (∃ hangup, message = .hangup hangup) ∨ ∃ call, network.Vouched user device message call := by
  have coherent := Phone.coherent_of_reached (sound.reached device)
  rcases Phone.speaks_of_move coherent (Phone.move_after coherent now occurrence) with
      ⟨entries, log, spoken⟩
  rw [Phone.written_eq log] at there
  rcases spoken sent there with hangup | ⟨call, current, _, utters⟩
  · rw [hangup] at read
    exact .inl (Message.eq_hangup_of_read read)
  · exact .inr ⟨call, sound.vouched_of_names current (utters.names read)⟩

theorem sound_after (sound : network.Sound user) (now : Instant)
    (admits : network.Admits user device occurrence) :
    (network.after device now occurrence).Sound user := by
  have grown := extends_after network device now occurrence
  have opened : ∀ other call, ((network.after device now occurrence).phones other).call = some call →
      (network.after device now occurrence).Opened other call
        (((network.after device now occurrence).histories other).occurrences.head?.any
          Occurrence.starts) := by
    intro other call there
    by_cases same : other = device
    · subst same
      rw [phones_after_self] at there
      rw [histories_after_self, occurrences_next _ there]
      exact sound.opened_after there
    · rw [phones_after_other same] at there
      rw [histories_after_other same]
      exact grown.openings (sound.opened other call there)
  refine ⟨?_, ?_, ?_, opened, ?_, ?_⟩
  · intro other
    by_cases same : other = device
    · subst same
      simpa using (sound.reached other).after now occurrence
    · simpa [phones_after_other same, histories_after_other same] using sound.reached other
  · intro other earlier there
    by_cases same : other = device
    · subst same
      rw [histories_after_self, Phone.History.next] at there
      split at there
      · simp at there
      · rcases List.mem_append.mp there with before | now'
        · exact (sound.admitted other earlier before).mono grown
        · rw [List.mem_singleton.mp now']
          exact admits.mono grown
    · rw [histories_after_other same] at there
      exact (sound.admitted other earlier there).mono grown
  · intro other call there
    by_cases same : other = device
    · subst same
      rw [phones_after_self] at there
      simp [after, there]
    · rw [phones_after_other same] at there
      exact grown.calls (sound.current other call there)
  · intro entry there
    rcases List.mem_append.mp there with before | now'
    · rcases sound.names entry before with ⟨started, names⟩
      exact ⟨started, grown.openings names⟩
    · rcases List.mem_map.mp now' with ⟨call, current, rfl⟩
      rw [Option.mem_toList] at current
      exact ⟨_, opened device call (by rw [phones_after_self]; exact current)⟩
  · intro dispatch there message is
    rcases List.mem_append.mp there with before | now'
    · rcases sound.vouched dispatch before message is with hangup | ⟨call, vouched⟩
      · exact .inl hangup
      · exact .inr ⟨call, vouched.mono grown⟩
    · rcases List.mem_map.mp now' with ⟨sent, written, rfl⟩
      rcases sound.vouched_after written is with hangup | ⟨call, vouched⟩
      · exact .inl hangup
      · exact .inr ⟨call, vouched.mono grown⟩

/-- In every network that can be reached everything that was sent is vouched for. -/
theorem sound_of_reached (reached : network.Reached user) : network.Sound user := by
  induction reached with
  | new new => exact sound_new new
  | after reached device now occurrence admits sound => exact sound_after sound now admits
  | read reached device rest sound => exact sound_read sound device rest

/-! ## Going back from a call to the device that answered it -/

omit [DecidableEq ι] [MediaEngine ε] in
/-- A party belongs to one device. -/
theorem Distinct.device_unique (distinct : network.Distinct) {other : ι} {theirs : Call ε}
    {started otherStarted : Bool} (opened : network.Opened device call started)
    (otherOpened : network.Opened other theirs otherStarted) (same : call.party = theirs.party) :
    device = other := by
  have equal := List.inj_on_of_nodup_map distinct.parties opened otherOpened same
  exact congrArg Opening.device equal

omit [DecidableEq ι] [MediaEngine ε] in
/-- A call is started once. -/
theorem Distinct.opening_unique (distinct : network.Distinct) {other : Opening ι}
    (opened : network.Opened device call true) (there : other ∈ network.openings)
    (started : other.started = true) (same : other.call = call.id) :
    other = ⟨device, call.id, call.party, true⟩ := by
  refine List.inj_on_of_nodup_map distinct.calls ?_ ?_ same
  · exact List.mem_filter.mpr ⟨there, started⟩
  · exact List.mem_filter.mpr ⟨opened, rfl⟩

omit [DecidableEq ι] in
/-- An invite that was sent comes from the device that has started its call. -/
theorem Sound.inviter (sound : network.Sound user) {source : Dispatch ι} {invite : Invite}
    (sent : source ∈ network.sent) (read : source.message = .ok (.invite invite)) :
    ∃ theirs, network.Opened source.device theirs true ∧ invite.call = theirs.id ∧
      invite.party = some theirs.party := by
  rcases sound.vouched source sent _ read with ⟨_, other⟩ | ⟨theirs, vouched⟩
  · cases other
  · exact ⟨theirs, vouched.invites invite rfl, vouched.named, vouched.party⟩

omit [DecidableEq ι] in
/-- What a device has heard in its call was sent by a device of the remote user, which vouches for
it. -/
theorem Sound.source_of_heard (sound : network.Sound user) {message : Message}
    (happened : occurrence ∈ (network.histories device).occurrences)
    (heard : call.heard? occurrence = some message) :
    ∃ dispatch ∈ network.sent, dispatch.message = .ok message ∧
      user dispatch.device = call.remoteUser ∧ message.call = call.id := by
  have admits := sound.admitted device occurrence happened
  unfold Call.heard? at heard
  split at heard
  · rename_i membership signal signalled
    split at heard
    · rename_i names
      rcases Option.some.inj heard with rfl
      rcases admits.hears _ signalled with ⟨_, dispatch, sent, brings⟩
      exact ⟨dispatch, sent, brings.message, brings.sender.trans names.2.2, names.1⟩
    · cases heard
  · cases heard

omit [DecidableEq ι] in
/-- What the engine of a call was handed was sent by devices of the remote user. -/
theorem Sound.source_of_handed (sound : network.Sound user)
    (current : (network.phones device).call = some call) {candidate : Candidate}
    (there : candidate ∈ call.handed (network.histories device).entries) :
    ∃ dispatch ∈ network.sent, ∃ batch, dispatch.message = .ok (.candidates batch) ∧
      batch.call = call.id ∧ call.admits batch.party = true ∧ candidate ∈ batch.candidates := by
  have conserved := Phone.candidates_conserved (sound.reached device) current
  have sent : candidate ∈ Candidate.usable
      ((call.collected (network.histories device).occurrences).map Prod.snd) := by
    rw [← conserved]
    exact List.mem_append_left _ there
  rcases List.mem_map.mp (List.mem_of_mem_filter sent) with ⟨⟨party, _⟩, collected, rfl⟩
  rcases Call.heard_of_collected collected with ⟨occurrence, happened, batch, heard, admits, inside⟩
  rcases sound.source_of_heard happened heard with ⟨dispatch, dispatched, read, _, named⟩
  exact ⟨dispatch, dispatched, batch, read, named, admits, inside⟩

omit [DecidableEq ι] in
/-- A device that has started the call that it has does not ring for it. -/
theorem Sound.dialed_of_started (sound : network.Sound user) (distinct : network.Distinct)
    (current : (network.phones device).call = some call) {opening : Opening ι}
    (there : opening ∈ network.openings) (own : opening.device = device)
    (named : opening.call = call.id) (started : opening.started = true) :
    ∃ membership, (network.histories device).occurrences.head? = some (.startCall membership) := by
  cases Phone.traced_of_reached (sound.reached device) call current with
  | dialed first => exact ⟨_, first⟩
  | @rang occurrence membership signal invite first heard rang =>
      have admits := sound.admitted device occurrence (List.mem_of_head? first)
      rcases admits.hears _ heard with ⟨here, source, sent, brings⟩
      have read : source.message = .ok (.invite invite) := by rw [brings.message, rang.message]
      -- The invite comes from the device that has started the call: from this one.
      rcases sound.inviter sent read with ⟨theirs, opened, sameCall, _⟩
      have equal := distinct.opening_unique opened there started
        (named.trans (rang.named.trans sameCall))
      have same : source.device = device := by rw [← own, equal]
      have apart := (Phone.coherent_of_reached (sound.reached device)).apart current
      refine absurd ?_ apart
      rw [rang.sender, rang.user, here, ← brings.sender, same]

/-- Whoever answers a call is who it seems to be. If a device has started its call and the call is
established with some party, then a device of the remote user had this call under this party, with
the first device's user and party on its other side. It has sent the answer whose description the
first device's engine was given first, and it has sent all candidates that this engine was given. -/
theorem answered_by_partner (reached : network.Reached user) (distinct : network.Distinct)
    {device : ι} {call : Call ε} {party : PartyId}
    (current : (network.phones device).call = some call)
    (active : (network.phones device).phase = .active)
    (started : ∃ opening ∈ network.openings, opening.device = device ∧ opening.call = call.id ∧
      opening.started = true)
    (known : call.remoteParty = some party) :
    ∃ partner theirs, (partner, theirs) ∈ network.calls ∧ user partner = call.remoteUser ∧
      theirs.id = call.id ∧ theirs.party = party ∧ theirs.remoteUser = user device ∧
      theirs.remoteParty = some call.party ∧
      (∃ dispatch ∈ network.sent, dispatch.device = partner ∧ ∃ answer,
        dispatch.message = .ok (.answer answer) ∧ answer.call = call.id ∧
        call.firstRemote? (network.histories device).entries = some answer.description) ∧
      ∀ candidate ∈ call.handed (network.histories device).entries,
        ∃ dispatch ∈ network.sent, dispatch.device = partner ∧ ∃ batch,
          dispatch.message = .ok (.candidates batch) ∧ batch.call = call.id ∧
          candidate ∈ batch.candidates := by
  have sound := sound_of_reached reached
  have traced := Phone.traced_of_reached (sound.reached device) call current
  have opened := sound.opened device call current
  rcases started with ⟨opening, there, own, named, flag⟩
  rcases sound.dialed_of_started distinct current there own named flag with ⟨membership, dials⟩
  rw [dials] at opened
  cases traced with
  | rang first heard =>
      rcases Option.some.inj (dials.symm.trans first) with rfl
      cases heard
  | dialed _ _ _ _ applied =>
      rcases applied active with
          ⟨description, given, occurrence, happened, answer, heard, bound, rfl⟩
      rcases sound.source_of_heard happened heard with ⟨dispatch, sent, read, sender, sameCall⟩
      rcases sound.vouched dispatch sent _ read with ⟨_, other⟩ | ⟨theirs, vouched⟩
      · cases other
      · have itsParty : theirs.party = party :=
          Option.some.inj ((bound _ vouched.party).symm.trans known)
        have itsCall : theirs.id = call.id := vouched.named.symm.trans sameCall
        have itsNames := sound.names _ vouched.had
        rcases vouched.answers answer rfl with
            ⟨source, invited, invite, sourceRead, remote, inviteCall, inviteParty⟩
        -- The invite that was answered comes from the device that has started the call.
        rcases sound.inviter invited sourceRead with
            ⟨inviter, itsOpening, inviterCall, inviterParty⟩
        have equal := distinct.opening_unique opened itsOpening rfl
          (inviterCall.symm.trans (inviteCall.trans itsCall))
        rw [Opening.mk.injEq] at equal
        refine ⟨dispatch.device, theirs, vouched.had, sender, itsCall, itsParty, ?_, ?_, ?_, ?_⟩
        · rw [remote, equal.1]
        · rw [← inviteParty, inviterParty, equal.2.2.1]
        · exact ⟨dispatch, sent, rfl, answer, read, sameCall, given⟩
        · intro candidate there
          rcases sound.source_of_handed current there with
              ⟨other, otherSent, batch, otherRead, batchCall, admits, inside⟩
          refine ⟨other, otherSent, ?_, batch, otherRead, batchCall, inside⟩
          -- The candidates name the party of the answer, and a party belongs to one device.
          rcases sound.vouched other otherSent _ otherRead with ⟨_, other⟩ | ⟨speaker, behind⟩
          · cases other
          · rcases sound.names _ behind.had with ⟨_, first⟩
            rcases itsNames with ⟨_, second⟩
            refine distinct.device_unique first second ?_
            have named : batch.party = some speaker.party := behind.party
            rw [Call.admits, known, named] at admits
            rw [itsParty]
            simpa using admits

/-! ## A conversation -/

/-- Two users with a device each. -/
def duo : Network Bool Engine.Scripted where
  phones device := { Phone.scripted with partyNames := { text := fun _ => toString device } }

/-- The users of the two devices. -/
def duoUser (device : Bool) : UserId :=
  if device then ⟨"@bob"⟩ else ⟨"@alice"⟩

/-- A call that is started, rings, is accepted and is answered, with one candidate. -/
def conversation : List (Bool × Instant × Occurrence) :=
  let call := CallId.fresh 0 "0"
  let description := "m=audio\na=rtpmap:1 opus"
  let view : Membership := { Phone.pair with localUser := ⟨"@bob"⟩ }
  [(false, 0, .startCall Phone.pair), (false, 1, .relayRefreshed (.error "none")),
    (false, 2, .callback 1 (.localDescription description .offer)),
    (false, 3, .callback 1 .gatheringComplete),
    (true, 4, .signal view ⟨⟨"@alice"⟩, 3,
      .invite ⟨call, some ⟨"false"⟩, description, .ofSeconds 60, []⟩⟩),
    (true, 5, .accept), (true, 6, .relayRefreshed (.error "none")),
    (true, 7, .callback 1 (.localDescription description .answer)),
    (true, 8, .callback 1 (.localCandidate Engine.cannedCandidate)),
    (true, 9, .callback 1 .gatheringComplete),
    (false, 10, .signal Phone.pair ⟨⟨"@bob"⟩, 9,
      .candidates ⟨call, some ⟨"true"⟩, [Engine.cannedCandidate]⟩⟩),
    (false, 11, .signal Phone.pair ⟨⟨"@bob"⟩, 9, .answer ⟨call, some ⟨"true"⟩, description, []⟩⟩)]

theorem answered_by_partner_conversation :
    ∃ network call, duo.follow? duoUser conversation = some network ∧
      (network.phones false).call = some call ∧ call.remoteParty = some ⟨"true"⟩ ∧
      call.handed (network.histories false).entries ≠ [] ∧
      ∃ partner theirs, (partner, theirs) ∈ network.calls ∧ duoUser partner = call.remoteUser ∧
        theirs.id = call.id ∧ theirs.party = ⟨"true"⟩ ∧ theirs.remoteUser = duoUser false ∧
        theirs.remoteParty = some call.party ∧
        (∃ dispatch ∈ network.sent, dispatch.device = partner ∧ ∃ answer,
          dispatch.message = .ok (.answer answer) ∧ answer.call = call.id ∧
          call.firstRemote? (network.histories false).entries = some answer.description) ∧
        ∀ candidate ∈ call.handed (network.histories false).entries,
          ∃ dispatch ∈ network.sent, dispatch.device = partner ∧ ∃ batch,
            dispatch.message = .ok (.candidates batch) ∧ batch.call = call.id ∧
            candidate ∈ batch.candidates := by
  have possible : (duo.follow? duoUser conversation).isSome = true := by decide +kernel
  have facts : ∀ network ∈ duo.follow? duoUser conversation,
      ((network.openings.filter Opening.started).map Opening.call).Nodup ∧
        (network.openings.map Opening.party).Nodup ∧
        (network.phones false).phase = .active ∧
        ((network.phones false).call.map fun call => (call.id, call.remoteParty,
          (call.handed (network.histories false).entries).isEmpty)) =
          some (CallId.fresh 0 "0", some ⟨"true"⟩, false) ∧
        ∃ opening ∈ network.openings, opening.device = false ∧
          opening.call = CallId.fresh 0 "0" ∧ opening.started = true := by decide +kernel
  rcases Option.isSome_iff_exists.mp possible with ⟨network, followed⟩
  rcases facts network followed with ⟨calls, parties, active, names, started⟩
  rcases Option.map_eq_some_iff.mp names with ⟨call, current, same⟩
  simp only [Prod.mk.injEq] at same
  rcases same with ⟨id, known, handed⟩
  have reached : network.Reached duoUser := by
    refine reached_follow? (.new ?_) followed
    exact fun _ => ⟨rfl, rfl, rfl, rfl, rfl, rfl, rfl⟩
  rw [← id] at started
  exact ⟨network, call, followed, current, known, by simpa using handed,
    answered_by_partner reached ⟨calls, parties⟩ current active started known⟩

end Network

end RoomCall
