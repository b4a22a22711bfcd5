import RoomCall.Proofs.Description.Listing
import RoomCall.Proofs.Signal.Undoing

/-!
# Which streams have a purpose

A message that carries a description also says what its streams are for. The purposes are written
for the streams that masking lists, and they are read back as they were written. So a stream of a
pair has a purpose unless its name is the track of an earlier pair.
-/

namespace RoomCall

namespace Message

/-- The description in a message, if there is one. -/
def description? : Message → Option String
  | .invite content => some content.description
  | .answer content => some content.description
  | .negotiate content => some content.description
  | .candidates _ | .hangup _ => none

/-- The purposes of the streams of a message. -/
def purposes : Message → Purposes
  | .invite content => content.purposes
  | .answer content => content.purposes
  | .negotiate content => content.purposes
  | .candidates _ | .hangup _ => []

end Message

namespace Draft

variable {style : SignalStyle} {names : Supply} {call : CallId} {party : PartyId}

theorem fits_of_describes {draft : Draft} {description : String}
    (describes : draft.description? = some description) : draft.Fits := by
  cases draft with
  | candidates found => exact nomatch describes
  | _ => trivial

/-- A message that was meant has the masked description and purposes for the listed streams. -/
theorem SaidBy.described {draft : Draft} {message : Message} {description : String}
    (said : draft.SaidBy style names call party message)
    (describes : draft.description? = some description) :
    message.description? = some (Description.mask names description).1.description ∧
      Lists message.purposes (Description.mask names description).1.streams style.purpose := by
  cases draft with
  | invite lifetime own =>
      obtain rfl : own = description := Option.some.inj describes
      obtain ⟨purposes, lists, rfl⟩ := said
      exact ⟨rfl, lists⟩
  | candidates found => exact nomatch describes
  | answer own =>
      obtain rfl : own = description := Option.some.inj describes
      obtain ⟨purposes, lists, rfl⟩ := said
      exact ⟨rfl, lists⟩
  | negotiate lifetime own kind =>
      obtain rfl : own = description := Option.some.inj describes
      obtain ⟨purposes, lists, rfl⟩ := said
      exact ⟨rfl, lists⟩
  | hangup cause => exact nomatch describes

/-- A draft with a description that says something is heard, if its call has a name, as a message
with the masked description and purposes for the listed streams. -/
theorem exists_described (style : SignalStyle) (names : Supply) {call : CallId} (party : PartyId)
    {draft : Draft} {description : String} (describes : draft.description? = some description)
    (named : call.text ≠ "") (words : Text.allBlank description = false) (id : EventId)
    (sender : UserId) (sentAt : Instant) :
    ∃ message, Signal.ofEvent ⟨id, draft.kind.eventType, sender, sentAt,
        (draft.write style names call party).content⟩ = .ok ⟨sender, sentAt, message⟩ ∧
      message.description? = some (Description.mask names description).1.description ∧
      Lists message.purposes (Description.mask names description).1.streams style.purpose := by
  have readable : ∀ other ∈ draft.description?, Text.allBlank other = false := by
    intro other there
    rw [describes] at there
    exact Option.some.inj there ▸ words
  obtain ⟨message, said, heard⟩ := draft.exists_heard style names call party
    (fits_of_describes describes) named readable id sender sentAt
  rw [kind_write] at heard
  exact ⟨message, heard, said.described describes⟩

end Draft

namespace Description

/-- A masked description lists the streams of its pairs, each once and in the order in which they
appear as streams, but for those that are the track of an earlier pair; so it lists all of them
exactly if each of them is the stream of a pair before it is a track. Whatever kind of message the
description is sent in, what is heard of it is the masked description and a purpose for every
listed stream and for nothing else. -/
theorem purposes_of_leading_streams (names : Supply) (apart : NamesApart names)
    (description : String) :
    let masked := (mask names description).1
    let parts := segments masked.description.toList
    let leading : String → Prop := fun name => ∃ before track after,
      parts = before ++ .pair name track :: after ∧ name ∉ trackNames before
    masked.streams.Nodup ∧
      masked.streams = ((streamNames parts).eraseDups.filter fun name => leads name parts) ∧
      (∀ name, leads name parts = true ↔ leading name) ∧
      (masked.streams = (streamNames parts).eraseDups ↔ ∀ name ∈ streamNames parts, leading name) ∧
      ∀ (style : SignalStyle) (call : CallId) (party : PartyId) (draft : Draft),
        draft.description? = some description → call.text ≠ "" →
          Text.allBlank description = false → ∀ id sender sentAt, ∃ message,
            Signal.ofEvent ⟨id, draft.kind.eventType, sender, sentAt,
              (draft.write style names call party).content⟩ = .ok ⟨sender, sentAt, message⟩ ∧
            message.description? = some masked.description ∧
            (message.purposes.map Prod.fst).Nodup ∧
            ∀ stream purpose, (stream, purpose) ∈ message.purposes ↔
              leading stream ∧ purpose = style.purpose := by
  have listed := streams_mask apart description
  dsimp only at listed ⊢
  generalize segments (mask names description).1.description.toList = parts at *
  refine ⟨?_, listed, fun name => leads_iff, ?_, ?_⟩
  · rw [listed]
    exact (nodup_eraseDups _).filter _
  · simp only [listed, List.filter_eq_self, List.mem_eraseDups, leads_iff]
  · intro style call party draft describes named words id sender sentAt
    obtain ⟨message, heard, carried, once, lists⟩ :=
      Draft.exists_described style names party describes named words id sender sentAt
    refine ⟨message, heard, carried, once, fun stream purpose => ?_⟩
    rw [lists, listed, List.mem_filter, List.mem_eraseDups, leads_iff]
    refine and_congr_left fun _ => ⟨And.right, fun leading => ⟨?_, leading⟩⟩
    exact mem_streamNames_of_leads (leads_iff.mpr leading)

theorem purposes_of_leading_streams_letters :
    NamesApart letters ∧
      ((mask letters "msid:a b\nmsid:b c").1.streams =
          (streamNames
            (segments (mask letters "msid:a b\nmsid:b c").1.description.toList)).eraseDups ↔
        ∀ name ∈ streamNames (segments (mask letters "msid:a b\nmsid:b c").1.description.toList),
          ∃ before track after,
            segments (mask letters "msid:a b\nmsid:b c").1.description.toList =
              before ++ .pair name track :: after ∧ name ∉ trackNames before) := by
  obtain ⟨-, -, -, complete, -⟩ :=
    purposes_of_leading_streams letters namesApart_letters "msid:a b\nmsid:b c"
  exact ⟨namesApart_letters, complete⟩

/-- A stream of a pair can go without a purpose: the second pair of the answer has the stream `xx`,
which is the track of the first one, and nothing is said about it. -/
theorem exists_stream_without_purpose :
    ∃ (names : Supply) (description : String),
      NamesApart names ∧
        (mask names description).1.streams ≠
          (streamNames (segments (mask names description).1.description.toList)).eraseDups ∧
        ∃ content : Answer,
          Signal.ofEvent ⟨⟨"$1"⟩, SignalKind.answer.eventType, ⟨"@alice:home"⟩, 0,
            ((Draft.answer description).write {} names ⟨"call"⟩ ⟨"party"⟩).content⟩ =
              .ok ⟨⟨"@alice:home"⟩, 0, .answer content⟩ ∧
          "xx" ∈ streamNames (segments content.description.toList) ∧
          "xx" ∉ content.purposes.map Prod.fst := by
  have masked : (mask letters "msid:a b\nmsid:b c").1.description = "msid:x xx\nmsid:xx xxx" := by
    decide +kernel
  have listed : (mask letters "msid:a b\nmsid:b c").1.streams = ["x"] := by
    decide +kernel
  have parts : segments "msid:x xx\nmsid:xx xxx".toList =
      [.pair "x" "xx", .character '\n', .pair "xx" "xxx"] := by decide +kernel
  have fits : (Draft.answer "msid:a b\nmsid:b c").Fits := Draft.fits_of_describes rfl
  have words : ∀ description ∈ (Draft.answer "msid:a b\nmsid:b c").description?,
      Text.allBlank description = false := by
    intro description there
    obtain rfl := Option.some.inj there
    decide
  obtain ⟨message, ⟨purposes, lists, rfl⟩, heard⟩ :=
    Draft.exists_heard {} letters ⟨"call"⟩ ⟨"party"⟩ fits (by decide) words ⟨"$1"⟩
      ⟨"@alice:home"⟩ 0
  refine ⟨letters, "msid:a b\nmsid:b c", namesApart_letters, ?_, _, heard, ?_, ?_⟩
  · rw [masked, listed, parts]
    decide
  · simp only [masked, parts]
    decide
  · intro there
    obtain ⟨entry, inside, same⟩ := List.mem_map.mp there
    have known := ((lists.2 entry.1 entry.2).mp inside).1
    rw [listed, same] at known
    exact absurd known (by decide)

end Description

end RoomCall
