import Mathlib.Data.List.Induction
import RoomCall.Proofs.Host.Runs
import RoomCall.Proofs.Phone.Lingering

/-!
# What a host hands to its phone

In each turn a host hands the first thing in its queues to its phone. Callbacks go first, then what
the host was waiting for, so whatever opens a call is handed on only when nothing else is left over
from the calls before. This file says what such a turn comes to, and what the timer and the findings
of a host have to do with the latest call of its phone.
-/

namespace RoomCall

variable {ε : Type}

/-- What a host hands to its phone to follow a command. To shut down it hangs up. -/
def Command.order (command : Command) : Occurrence :=
  command.occurrence?.getD .hangUp

/-- Whether an entry is the host's own: a reply or a try. -/
def HostEntry.isOwn : HostEntry → Bool
  | .phone _ => false
  | .replied _ _ | .tried _ _ => true

/-- Whether an entry is the first one of a call. -/
def HostEntry.opensCall : HostEntry → Bool
  | .phone entry => entry.opensCall
  | .replied _ _ | .tried _ _ => false

namespace LogEntry

/-- What changes only where the timer is touched stays as it is everywhere else. -/
theorem foldl_unwound {α : Type} {step : α → LogEntry → α} {entries : List LogEntry}
    (still : ∀ state entry, entry.isWinding = false → step state entry = state)
    (unwound : ∀ entry ∈ entries, entry.isWinding = false) (state : α) :
    entries.foldl step state = state := by
  induction entries generalizing state with
  | nil => rfl
  | cons entry later ih =>
      rw [List.foldl_cons, still state entry (unwound entry List.mem_cons_self)]
      exact ih (fun other there => unwound other (List.mem_cons_of_mem entry there)) state

/-- A log that never winds a timer leaves none. -/
theorem timer_of_unwound {entries : List LogEntry}
    (never : entries.countP isWinding = 0) : timer entries = none := by
  refine foldl_unwound (fun armed entry still => ?_) (forall_of_countP_eq_zero never) none
  rcases entry with errand | announcement | traffic
  · cases errand <;> first | rfl | cases still
  · rfl
  · rfl

end LogEntry

namespace Timer

variable {clock : Moment} {entries : List LogEntry}

theorem foldl_wind_unwound (unwound : ∀ entry ∈ entries, entry.isWinding = false)
    (timer : Option Timer) : entries.foldl (wind clock) timer = timer := by
  refine LogEntry.foldl_unwound (fun timer entry still => ?_) unwound timer
  rcases entry with errand | announcement | traffic
  · cases errand <;> first | rfl | cases still
  · rfl
  · rfl

/-- The timer that some entries have armed in the end does not depend on the one before. -/
theorem foldl_wind_armed {call : CallId} {lifetime : Duration}
    (armed : entries.foldl LogEntry.wind none = some (call, lifetime)) (timer : Option Timer) :
    entries.foldl (wind clock) timer = some ⟨clock + lifetime.milliseconds, call⟩ := by
  induction entries using List.reverseRecOn with
  | nil => cases armed
  | append_singleton earlier entry ih =>
      rw [List.foldl_append, List.foldl_cons, List.foldl_nil] at armed ⊢
      rcases entry with errand | announcement | traffic
      · cases errand with
        | armTimer =>
            cases armed
            rfl
        | cancelTimer => cases armed
        | send | refreshRelay => exact ih armed
      · exact ih armed
      · exact ih armed

/-- A timer runs only if the entries say so. -/
theorem foldl_wind_ne_none {timer : Option Timer} {armed : Option (CallId × Duration)}
    (runs : timer ≠ none → armed ≠ none)
    (still : entries.foldl (wind clock) timer ≠ none) :
    entries.foldl LogEntry.wind armed ≠ none := by
  induction entries generalizing timer armed with
  | nil => exact runs still
  | cons entry later ih =>
      refine ih ?_ still
      rcases entry with errand | announcement | traffic
      · cases errand with
        | armTimer | cancelTimer => simp [wind, LogEntry.wind]
        | send | refreshRelay => exact runs
      · exact runs
      · exact runs

end Timer

namespace Host

/-- What a host hands to its phone in its next turn. -/
def next? (host : Host ε) : Option Occurrence :=
  if host.closing then
    none
  else
    match host.callbacks, host.findings, host.commands, host.arrivals with
    | (session, callback) :: _, _, _, _ => some (.callback session callback)
    | [], finding :: _, _, _ => some finding.occurrence
    | [], [], command :: _, _ => some command.order
    | [], [], [], (membership, event) :: _ => some (.event membership event)
    | [], [], [], [] => none

/-- The findings of a host before and after it has handed something to its phone. -/
inductive Draws (findings : List Finding) : Occurrence → List Finding → Prop where
  | callback (session : SessionId) (callback : Engine.Callback) :
      Draws findings (.callback session callback) findings
  | finding {finding : Finding} {later : List Finding} (first : findings = finding :: later) :
      Draws findings finding.occurrence later
  | other {occurrence : Occurrence} (none : findings = []) : Draws findings occurrence findings

variable [MediaEngine ε]

/-- What a turn comes to in which a host hands something to its phone. -/
structure Turned (host : Host ε) (now : Instant) (occurrence : Occurrence) (after : Host ε) :
    Prop where
  phone : after.phone = (host.phone.after now occurrence).takeLog.1
  clock : after.clock = host.clock
  log : ∃ replies : List (Moment × HostEntry), (∀ entry ∈ replies, entry.2.isOwn = true) ∧
    after.log = host.log ++ (stamped host.clock (host.phone.after now occurrence).log ++ replies)
  findings : Draws host.findings occurrence after.findings
  timer : after.closing = false ∧ after.timer =
      (host.phone.after now occurrence).log.foldl (Timer.wind host.clock) host.timer ∨
    occurrence = .hangUp ∧ after.closing = true ∧ after.timer = none

variable {host : Host ε} {now : Instant} {occurrence : Occurrence}

/-- A host at rest does nothing in a turn. -/
theorem turn_of_rest (rests : host.next? = none) (now : Instant) : host.turn now = host := by
  unfold next? at rests
  unfold turn
  split
  · rfl
  · rename_i working
    rw [if_neg working] at rests
    split at rests <;> simp_all

theorem turned_perform (working : host.closing = false)
    {callbacks : List (SessionId × Engine.Callback)} {findings : List Finding}
    {commands : List Command} {arrivals : List (Membership × TimelineEvent)}
    (draws : Draws host.findings occurrence findings) :
    host.Turned now occurrence
      ((host.facing callbacks findings commands arrivals).perform now occurrence).1 := by
  rw [perform_fst]
  exact ⟨rfl, rfl, ⟨[], by simp, by simp [keeping, facing]⟩, draws, .inl ⟨working, rfl⟩⟩

theorem turned_follow (working : host.closing = false) (waited : host.findings = [])
    {callbacks : List (SessionId × Engine.Callback)} {commands : List Command}
    {arrivals : List (Membership × TimelineEvent)} (command : Command) :
    host.Turned now command.order
      ((host.facing callbacks host.findings commands arrivals).follow now command) := by
  unfold follow Command.order
  cases command.occurrence? with
  | some occurrence =>
      have turned := @turned_perform _ _ host now occurrence working callbacks host.findings
        commands arrivals (.other waited)
      let reply : Moment × HostEntry := (host.clock, .replied command
        ((host.facing callbacks host.findings commands arrivals).perform now occurrence).2)
      refine ⟨turned.phone, turned.clock, ⟨[reply], ?_, ?_⟩, turned.findings, turned.timer⟩
      · simp [reply, HostEntry.isOwn]
      · dsimp only
        rw [record, perform_fst, ← List.append_assoc]
        rfl
  | none =>
      have turned := @turned_perform _ _ host now .hangUp working callbacks host.findings commands
        arrivals (.other waited)
      exact ⟨turned.phone, turned.clock, turned.log, turned.findings, .inr ⟨rfl, rfl, rfl⟩⟩

/-- A turn of a host is a step of its phone for what the host turns to next. -/
theorem turned_of_next (next : host.next? = some occurrence) (now : Instant) :
    host.Turned now occurrence (host.turn now) := by
  unfold next? at next
  unfold turn
  split
  · rename_i closing
    rw [if_pos closing] at next
    cases next
  · rename_i working
    rw [if_neg working] at next
    rw [Bool.not_eq_true] at working
    split
    · rename_i callbacks
      rw [callbacks] at next
      obtain rfl := Option.some.inj next
      exact turned_perform working (.callback _ _)
    · rename_i none findings
      rw [none, findings] at next
      obtain rfl := Option.some.inj next
      exact turned_perform working (.finding findings)
    · rename_i none waited commands
      rw [none, waited, commands] at next
      obtain rfl := Option.some.inj next
      exact turned_follow working waited _
    · rename_i none waited unasked arrivals
      rw [none, waited, unasked, arrivals] at next
      obtain rfl := Option.some.inj next
      exact turned_perform working (.other waited)
    · rename_i none waited unasked quiet
      rw [none, waited, unasked, quiet] at next
      cases next

/-! ## Reading the log of a call -/

section

omit [MediaEngine ε]

/-- The calls that have ended, with the moments and the reasons that the user is given. -/
def endings (log : List (Moment × HostEntry)) : List (Moment × CallId × Ending) :=
  log.filterMap fun entry =>
    match entry.2 with
    | .phone (.announcement (.callEnded call ending)) => some (entry.1, call, ending)
    | _ => none

/-- What a host has written since an earlier state. -/
def since (earlier later : Host ε) : List (Moment × HostEntry) :=
  later.log.drop earlier.log.length

/-- Entries that are written while a call lingers on a side. -/
structure Uneventful (side : Role) (log : List (Moment × HostEntry)) : Prop where
  unopened : ∀ entry ∈ log, entry.2.opensCall = false
  unended : endings log = []
  unsaid : ∀ sent ∈ queued log, side.withholds sent.2.signal.kind = false

variable {first second log : List (Moment × HostEntry)} {side : Role}

@[simp]
theorem endings_append (first second : List (Moment × HostEntry)) :
    endings (first ++ second) = endings first ++ endings second :=
  List.filterMap_append

@[simp]
theorem endings_stamped (clock : Moment) (entries : List LogEntry) :
    endings (stamped clock entries) =
      (LogEntry.endings entries).map fun ended => (clock, ended) := by
  rw [endings, stamped, List.filterMap_map, LogEntry.endings, List.map_filterMap]
  congr 1
  funext entry
  rcases entry with errand | announcement | traffic
  · rfl
  · cases announcement <;> rfl
  · rfl

/-- What a host writes on its own account ends no call. -/
theorem endings_own (own : ∀ entry ∈ log, entry.2.isOwn = true) : endings log = [] := by
  refine List.filterMap_eq_nil_iff.mpr fun entry there => ?_
  have mine := own entry there
  rcases entry with ⟨moment, entry | reply | try'⟩
  · cases mine
  · rfl
  · rfl

/-- What a host writes on its own account queues nothing. -/
theorem queued_own (own : ∀ entry ∈ log, entry.2.isOwn = true) : queued log = [] := by
  refine List.filterMap_eq_nil_iff.mpr fun entry there => ?_
  have mine := own entry there
  rcases entry with ⟨moment, entry | reply | try'⟩
  · cases mine
  · rfl
  · rfl

theorem unopened_own (own : ∀ entry ∈ log, entry.2.isOwn = true) :
    ∀ entry ∈ log, entry.2.opensCall = false := by
  intro entry there
  have mine := own entry there
  rcases entry with ⟨moment, entry | reply | try'⟩
  · cases mine
  · rfl
  · rfl

theorem unopened_stamped {entries : List LogEntry} (clock : Moment)
    (unopened : ∀ entry ∈ entries, entry.opensCall = false) :
    ∀ entry ∈ stamped clock entries, entry.2.opensCall = false := by
  intro entry there
  rcases List.mem_map.mp there with ⟨written, among, rfl⟩
  exact unopened written among

theorem since_eq {earlier later : Host ε} (wrote : later.log = earlier.log ++ log) :
    earlier.since later = log := by
  simp [since, wrote]

theorem Uneventful.append (before : Uneventful side first) (more : Uneventful side second) :
    Uneventful side (first ++ second) where
  unopened := by
    intro entry there
    exact (List.mem_append.mp there).elim (before.unopened entry) (more.unopened entry)
  unended := by rw [endings_append, before.unended, more.unended, List.append_nil]
  unsaid := by
    intro sent there
    rw [queued_append, List.mem_append] at there
    exact there.elim (before.unsaid sent) (more.unsaid sent)

theorem uneventful_nil (side : Role) : Uneventful side [] :=
  ⟨by simp, rfl, by simp [queued]⟩

theorem uneventful_own (side : Role) (own : ∀ entry ∈ log, entry.2.isOwn = true) :
    Uneventful side log :=
  ⟨unopened_own own, endings_own own, by simp [queued_own own]⟩

/-- What is uneventful for the phone is uneventful for its host. -/
theorem uneventful_stamped {entries : List LogEntry} (clock : Moment)
    (uneventful : LogEntry.Uneventful side entries) : Uneventful side (stamped clock entries) where
  unopened := unopened_stamped clock uneventful.unopened
  unended := by rw [endings_stamped, uneventful.unended, List.map_nil]
  unsaid := by
    intro sent there
    rw [queued_stamped, List.mem_map] at there
    rcases there with ⟨parcel, among, rfl⟩
    rcases List.mem_map.mp among with ⟨said, spoken, rfl⟩
    exact uneventful.unsaid said spoken

end

/-! ## The latest call of the phone -/

/-- A host that has followed its phone from the beginning, with the chronicle of the phone. If the
timer runs, it is the one that the latest call has armed, and what is still to be handed on about
the end of a lifetime belongs to the latest call. -/
structure Follows (settings : PhoneSettings) (host : Host ε) (chronicle : Chronicle) : Prop where
  quiet : host.phone.log = []
  lived : host.phone.Lived chronicle
  settings : host.phone.settings = settings
  armed : host.timer ≠ none →
    ∃ record, chronicle.latest = some record ∧ LogEntry.timer record.entries ≠ none
  expired : ∀ call, .expired call ∈ host.findings →
    ∃ record, chronicle.latest = some record ∧ 0 < record.entries.countP LogEntry.isWinding

variable {settings : PhoneSettings} {chronicle : Chronicle} {after : Host ε}

omit [MediaEngine ε] in
theorem written_after (quiet : host.phone.log = []) (phone : Phone ε) :
    Phone.written host.phone phone = phone.log := by
  simp [Phone.written, quiet]

theorem Draws.subset {findings later : List Finding} (draws : Draws findings occurrence later) :
    ∀ finding ∈ later, finding ∈ findings := by
  cases draws with
  | callback | other => exact fun _ there => there
  | finding first =>
      intro finding there
      rw [first]
      exact List.mem_cons_of_mem _ there

/-- A call is opened when nothing is left over from the calls before. -/
theorem Draws.of_opened {findings later : List Finding} (draws : Draws findings occurrence later)
    {phone : Phone ε} {record : CallRecord} (opened : phone.opened now occurrence = some record) :
    findings = [] := by
  cases draws with
  | callback session callback => simp [Phone.opened, Phone.dialedRecord?, Phone.rungRecord?,
      Occurrence.signal?] at opened
  | @finding finding _ first =>
      cases finding <;> simp [Phone.opened, Phone.dialedRecord?, Phone.rungRecord?,
        Occurrence.signal?, Finding.occurrence] at opened
  | other none => exact none

/-- A message is heard when nothing is left over. -/
theorem Draws.of_signal {findings later : List Finding} (draws : Draws findings occurrence later)
    {carried : Membership × Signal} (heard : occurrence.signal? = some carried) :
    findings = [] := by
  cases draws with
  | callback => cases heard
  | @finding finding => cases finding <;> cases heard
  | other none => exact none

/-- When there is no call, the timer does not run. -/
theorem Follows.unarmed_of_idle (follows : host.Follows settings chronicle)
    (idle : host.phone.call = none) : host.timer = none := by
  by_contra runs
  obtain ⟨record, latest, armed⟩ := follows.armed runs
  have there : record ∈ chronicle.calls := by simp [Chronicle.calls, latest]
  obtain ⟨ending, course⟩ := (Phone.recounts_of_lived follows.lived).finished idle record there
  exact armed course.timer

/-- A call that is opened becomes the latest one, and what is written in the same step belongs to
it. -/
theorem latest_of_opened {phone : Phone ε} {record : CallRecord}
    (opened : phone.opened now occurrence = some record) (chronicle : Chronicle) :
    (chronicle.next phone now occurrence).latest =
      some (record.grow (Phone.written phone (phone.after now occurrence))) := by
  simp [Chronicle.next, opened]

/-- What is written in a step that opens no call belongs to the latest one. -/
theorem latest_of_unopened {phone : Phone ε} {record : CallRecord}
    (unopened : phone.opened now occurrence = none) (latest : chronicle.latest = some record) :
    (chronicle.next phone now occurrence).latest =
      some (record.grow (Phone.written phone (phone.after now occurrence))) := by
  simp [Chronicle.next, unopened, latest]

/-- The timer runs after a turn only if the latest call has armed it. -/
theorem Follows.armed_of_turned (follows : host.Follows settings chronicle)
    (turned : host.Turned now occurrence after) (runs : after.timer ≠ none) :
    ∃ record, (chronicle.next host.phone now occurrence).latest = some record ∧
      LogEntry.timer record.entries ≠ none := by
  have recounts := Phone.recounts_of_lived follows.lived
  have turn := Phone.turn_after recounts (Phone.coherent_of_lived follows.lived)
    (Phone.viable_of_lived follows.lived) now occurrence
  have still : (Phone.written host.phone (host.phone.after now occurrence)).foldl
      (Timer.wind host.clock) host.timer ≠ none := by
    rw [written_after follows.quiet]
    rcases turned.timer with ⟨-, timer⟩ | ⟨-, -, timer⟩
    · rwa [← timer]
    · exact absurd timer runs
  cases opened : host.phone.opened now occurrence with
  | some record =>
      obtain ⟨idle, bare⟩ := turn.opens record opened
      refine ⟨_, latest_of_opened opened chronicle, ?_⟩
      rw [CallRecord.grow_entries, bare, List.nil_append]
      exact Timer.foldl_wind_ne_none (fun some => absurd (follows.unarmed_of_idle idle) some) still
  | none =>
      cases latest : chronicle.latest with
      | none =>
          have idle := recounts.idle latest
          rw [opened] at turn
          generalize host.phone.started? now occurrence = started at turn
          cases turn with
          | quiet _ _ log =>
              rw [Phone.written_eq (log.trans (List.append_nil _).symm)] at still
              exact absurd (follows.unarmed_of_idle idle) still
          | going current => simp [idle] at current
      | some record =>
          refine ⟨_, latest_of_unopened opened latest, ?_⟩
          rw [CallRecord.grow_entries, LogEntry.timer, List.foldl_append]
          refine Timer.foldl_wind_ne_none (fun some => ?_) still
          obtain ⟨other, same, armed⟩ := follows.armed some
          obtain rfl := Option.some.inj (latest.symm.trans same)
          exact armed

/-- After a turn the host follows the chronicle with one more step. -/
theorem Follows.turned (follows : host.Follows settings chronicle)
    (turned : host.Turned now occurrence after) :
    after.Follows settings (chronicle.next host.phone now occurrence) where
  quiet := by
    rw [turned.phone]
    rfl
  lived := by
    rw [turned.phone]
    exact (follows.lived.after now occurrence).read []
  settings := by
    rw [turned.phone]
    exact (Phone.steady_after (Phone.coherent_of_lived follows.lived) now occurrence).settings.trans
      follows.settings
  armed := follows.armed_of_turned turned
  expired := by
    intro call there
    have waited := turned.findings.subset _ there
    cases opened : host.phone.opened now occurrence with
    | some record =>
        rw [turned.findings.of_opened opened] at waited
        cases waited
    | none =>
        obtain ⟨record, latest, wound⟩ := follows.expired call waited
        refine ⟨_, latest_of_unopened opened latest, ?_⟩
        rw [CallRecord.grow_entries, List.countP_append]
        omega

theorem next_plug (chronicle : Chronicle) (phone : Phone ε) (now : Instant) (change : Hotplug) :
    chronicle.next phone now (.plug change) = chronicle := by
  have silent : Phone.written phone (phone.after now (.plug change)) = [] := by
    simp [Phone.written, Phone.after, Phone.handle, Phone.plug]
  simp [Chronicle.next, silent, Phone.opened, Phone.dialedRecord?, Phone.rungRecord?,
    Occurrence.signal?, Phone.started?, Phone.handle]

/-- A host goes on following its phone in every move. -/
theorem follows_move (follows : host.Follows settings chronicle) (move : Move) :
    ∃ told, (host.move move).Follows settings told := by
  cases move with
  | command | arrival | wait =>
      exact ⟨chronicle, follows.quiet, follows.lived, follows.settings, follows.armed,
        follows.expired⟩
  | plug change =>
      have lived := follows.lived.after 0 (.plug change)
      rw [next_plug] at lived
      exact ⟨chronicle, follows.quiet, lived, follows.settings, follows.armed, follows.expired⟩
  | turn now =>
      cases next : host.next? with
      | none =>
          rw [move, turn_of_rest next]
          exact ⟨chronicle, follows⟩
      | some occurrence => exact ⟨_, follows.turned (turned_of_next next now)⟩
  | attempt delivered =>
      rw [move, attempt]
      split
      · exact ⟨chronicle, follows.quiet, follows.lived, follows.settings, follows.armed,
          follows.expired⟩
      · exact ⟨chronicle, follows⟩
  | relayAnswer outcome =>
      refine ⟨chronicle, follows.quiet, follows.lived, follows.settings, follows.armed, ?_⟩
      intro call there
      exact follows.expired call (by simpa [move, takeRelayAnswer] using there)
  | expiry =>
      rw [move, expire]
      split
      · rename_i timer due
        refine ⟨chronicle, follows.quiet, follows.lived, follows.settings,
          fun some => absurd rfl some, ?_⟩
        intro call there
        rcases List.mem_append.mp there with waited | new
        · exact follows.expired call waited
        · have runs : host.timer ≠ none := by
            intro none
            simp [dueTimer?, none] at due
          obtain ⟨record, latest, armed⟩ := follows.armed runs
          exact ⟨record, latest,
            Nat.pos_of_ne_zero fun never => armed (LogEntry.timer_of_unwound never)⟩
      · exact ⟨chronicle, follows⟩

/-- What a move of a host comes to: only the host's own entries are written and the call stays as it
is, or the host hands something to its phone. -/
inductive Moved (host : Host ε) : Host ε → Prop where
  | aside {after : Host ε} {log : List (Moment × HostEntry)}
      (own : ∀ entry ∈ log, entry.2.isOwn = true) (wrote : after.log = host.log ++ log)
      (call : after.phone.call = host.phone.call) (phase : after.phone.phase = host.phone.phase) :
      Moved host after
  | turned {now : Instant} {occurrence : Occurrence} {after : Host ε}
      (next : host.next? = some occurrence) (turned : host.Turned now occurrence after) :
      Moved host after

/-- Every move is a turn, or it leaves the phone and its calls alone. -/
theorem moved_move (host : Host ε) (move : Move) : host.Moved (host.move move) := by
  have quiet {after : Host ε} (wrote : after.log = host.log)
      (call : after.phone.call = host.phone.call) (phase : after.phone.phase = host.phone.phase) :
      host.Moved after :=
    @Moved.aside _ _ _ _ [] (by simp) (by rw [wrote, List.append_nil]) call phase
  cases move with
  | command | arrival | plug | relayAnswer | wait => exact quiet rfl rfl rfl
  | turn now =>
      cases next : host.next? with
      | none =>
          rw [move, turn_of_rest next]
          exact quiet rfl rfl rfl
      | some occurrence => exact .turned next (turned_of_next next now)
  | attempt delivered =>
      rw [move, attempt]
      split
      · rename_i parcel due
        exact @Moved.aside _ _ _ _ [(host.clock, .tried parcel delivered)]
          (by simp [HostEntry.isOwn]) rfl rfl rfl
      · exact quiet rfl rfl rfl
  | expiry =>
      rw [move, expire]
      split <;> exact quiet rfl rfl rfl

end Host

end RoomCall
