import RoomCall.Proofs.Description.Exposure

/-!
# Which audio is taken for compatible

A codec mapping spells out a payload type, blanks, and an encoding, whose name goes up to the first
slash. The check for compatible audio does not read mappings that closely. It looks at the first
audio section alone, and there at the first mapping that has the letters of the codec anywhere, and
is content if that one has a payload type. `Misjudged` lists the three ways in which this goes
wrong, and there are no others.
-/

namespace RoomCall.Text

theorem occursIn_iff {part text : List Char} : occursIn part text = true ↔ part <:+: text := by
  induction text with
  | nil => simp [occursIn]
  | cons character rest ih => simp [occursIn, ih, List.infix_cons_iff]

end RoomCall.Text

namespace RoomCall.Description

/-! ## What a mapping says -/

/-- The characters of a mapping in front of its first blank. -/
def payloadText (mapping : String) : List Char :=
  mapping.toList.takeWhile fun character => !Text.isBlank character

/-- The name of the encoding of a mapping, which stands behind the first blanks and goes up to the
first slash, in lower-case letters. -/
def encodingName (mapping : String) : List Char :=
  let behind := mapping.toList.dropWhile fun character => !Text.isBlank character
  ((behind.dropWhile Text.isBlank).takeWhile (· ≠ '/')).map Char.toLower

/-- A mapping gives a codec a payload type. -/
def Maps (codec mapping : String) : Prop :=
  (Text.decimalBelow? UInt32.size (payloadText mapping)).isSome = true ∧
    encodingName mapping = codec.toList.map Char.toLower

instance {codec mapping : String} : Decidable (Maps codec mapping) :=
  inferInstanceAs (Decidable (_ ∧ _))

variable {codec mapping description : String}

/-- The payload type of a mapping is the number that it starts with. -/
theorem Maps.isSome_firstNumber? (maps : Maps codec mapping) :
    (firstNumber? mapping.toList).isSome = true := by
  have numbered := maps.1
  have first : Text.firstWord? mapping.toList = some (payloadText mapping) := by
    rw [firstWord?_eq_some_iff]
    unfold payloadText at numbered ⊢
    cases letters : mapping.toList with
    | nil => simp [letters, Text.decimalBelow?] at numbered
    | cons character later =>
        cases blank : Text.isBlank character with
        | true => simp [letters, blank, Text.decimalBelow?] at numbered
        | false =>
            rw [List.dropWhile_cons_of_neg (by simp [blank])]
            exact ⟨rfl, by simp [blank]⟩
  rw [firstNumber?, first]
  exact numbered

/-- The codec that a mapping gives a payload type is mentioned in it. -/
theorem Maps.mentions (maps : Maps codec mapping) : Section.mentions codec mapping = true := by
  rw [Section.mentions, Text.occursIn_iff, ← maps.2]
  refine List.IsInfix.map Char.toLower ?_
  refine (List.takeWhile_prefix _).isInfix.trans ?_
  exact ((List.dropWhile_suffix _).trans (List.dropWhile_suffix _)).isInfix

/-! ## The check -/

/-- A section has a payload type for a codec. -/
def Section.Offers (current : Section) (codec : String) : Prop :=
  ∃ mapping ∈ current.codecs, Maps codec mapping

instance {current : Section} : Decidable (current.Offers codec) :=
  inferInstanceAs (Decidable (∃ mapping ∈ current.codecs, Maps codec mapping))

/-- A description has an audio section with a payload type for the required codec. -/
def OffersAudio (description : String) : Prop :=
  ∃ current ∈ sections description, current.kind? = some .audio ∧ current.Offers requiredCodec

instance : Decidable (OffersAudio description) :=
  inferInstanceAs (Decidable (∃ current ∈ sections description,
    current.kind? = some .audio ∧ current.Offers requiredCodec))

/-- The first section for audio, which alone is looked at for a codec. -/
def firstAudio? (description : String) : Option Section :=
  (sections description).find? fun current => current.kind? = some .audio

/-- The first mapping of a section that mentions the required codec. -/
def Section.firstMention? (current : Section) : Option String :=
  current.codecs.find? (Section.mentions requiredCodec)

/-- The descriptions of which the check gives the wrong answer. -/
inductive Misjudged (description : String) : Prop where
  /-- The letters of the codec stand for something else, and the codec itself is not offered. -/
  | lookalike {audio : Section} {mapping : String} (first : firstAudio? description = some audio)
      (mention : audio.firstMention? = some mapping)
      (usable : (firstNumber? mapping.toList).isSome = true) (absent : ¬OffersAudio description)
  /-- The mapping with the letters has no payload type, and another one with the codec is not
  looked at. -/
  | unusable {audio : Section} {mapping : String} (first : firstAudio? description = some audio)
      (mention : audio.firstMention? = some mapping)
      (useless : firstNumber? mapping.toList = none) (offered : OffersAudio description)
  /-- Another audio section than the first one has the codec. -/
  | outrun {audio other : Section} (first : firstAudio? description = some audio)
      (silent : audio.firstMention? = none) (there : other ∈ sections description)
      (kind : other.kind? = some .audio) (different : other ≠ audio)
      (offers : other.Offers requiredCodec)

theorem Section.Offers.firstMention? {current : Section} (offers : current.Offers requiredCodec) :
    current.firstMention? ≠ none := by
  obtain ⟨mapping, there, maps⟩ := offers
  intro silent
  exact List.find?_eq_none.mp silent mapping there maps.mentions

theorem hasCompatibleAudio_of_first {audio : Section} (first : firstAudio? description = some audio) :
    hasCompatibleAudio description =
      audio.firstMention?.any fun mapping => (firstNumber? mapping.toList).isSome := by
  rw [firstAudio?] at first
  rw [hasCompatibleAudio, first]
  dsimp only [Section.payloadType?]
  rw [← Section.firstMention?]
  cases audio.firstMention? <;> rfl

/-- Without an audio section no audio is offered, nor taken for compatible. -/
theorem not_offersAudio_of_none (absent : firstAudio? description = none) :
    hasCompatibleAudio description = false ∧ ¬OffersAudio description := by
  constructor
  · rw [firstAudio?] at absent
    rw [hasCompatibleAudio, absent]
  · rintro ⟨current, there, kind, -⟩
    simpa [kind] using List.find?_eq_none.mp absent current there

theorem Misjudged.wrong (misjudged : Misjudged description) :
    ¬(hasCompatibleAudio description = true ↔ OffersAudio description) := by
  intro right
  cases misjudged with
  | lookalike first mention usable absent =>
      refine absent (right.mp ?_)
      rw [hasCompatibleAudio_of_first first, mention]
      exact usable
  | unusable first mention useless offered =>
      have answer := right.mpr offered
      simp [hasCompatibleAudio_of_first first, mention, useless] at answer
  | outrun first silent there kind _ offers =>
      have answer := right.mpr ⟨_, there, kind, offers⟩
      simp [hasCompatibleAudio_of_first first, silent] at answer

theorem right_of_not_misjudged (judged : ¬Misjudged description) :
    hasCompatibleAudio description = true ↔ OffersAudio description := by
  cases first : firstAudio? description with
  | none =>
      have absent := not_offersAudio_of_none first
      simp [absent.1, absent.2]
  | some audio =>
      rw [hasCompatibleAudio_of_first first]
      cases mention : audio.firstMention? with
      | none =>
          refine ⟨nofun, fun ⟨other, there, kind, offers⟩ => ?_⟩
          -- The first audio section has no such letters, so it is not the one that offers.
          have different : other ≠ audio := by
            rintro rfl
            exact offers.firstMention? mention
          exact absurd (.outrun first mention there kind different offers) judged
      | some mapping =>
          cases usable : (firstNumber? mapping.toList).isSome with
          | true =>
              refine ⟨fun _ => ?_, fun _ => usable⟩
              exact Decidable.byContradiction fun absent =>
                judged (.lookalike first mention usable absent)
          | false =>
              refine ⟨fun answer => absurd (usable.symm.trans answer) (by decide), fun offered => ?_⟩
              exact absurd (.unusable first mention (by simpa using usable) offered) judged

/-- The check for compatible audio gives the right answer, but for the descriptions that it
misjudges. -/
theorem hasCompatibleAudio_right_iff (description : String) :
    (hasCompatibleAudio description = true ↔ OffersAudio description) ↔ ¬Misjudged description :=
  ⟨fun right misjudged => misjudged.wrong right, right_of_not_misjudged⟩

/-- Another codec with the letters, a mapping without a payload type in front of a good one, and a
second audio section mislead the check. -/
theorem exists_misjudged :
    ∃ lookalike unusable outrun : String,
      (hasCompatibleAudio lookalike = true ∧ ¬OffersAudio lookalike) ∧
      (hasCompatibleAudio unusable = false ∧ OffersAudio unusable) ∧
      (hasCompatibleAudio outrun = false ∧ OffersAudio outrun) :=
  ⟨"m=audio 9 RTP/SAVPF 111\na=rtpmap:111 notopus/48000\n",
    "m=audio 9 RTP/SAVPF 111\na=rtpmap:x opus/48000\na=rtpmap:111 opus/48000\n",
    "m=audio 9 RTP/SAVPF 0\na=rtpmap:0 PCMU/8000\nm=audio 9 RTP/SAVPF 111\na=rtpmap:111 opus/48000\n",
    by decide +kernel, by decide +kernel, by decide +kernel⟩

/-- If all audio sections agree, and the letters of the codec stand for the codec alone, the check
is right. -/
theorem hasCompatibleAudio_iff_of_plain
    (plain : ∀ current ∈ sections description, current.kind? = some .audio →
      ∀ mapping ∈ current.codecs, Section.mentions requiredCodec mapping = true →
        Maps requiredCodec mapping)
    (agree : ∀ first ∈ sections description, ∀ second ∈ sections description,
      first.kind? = some .audio → second.kind? = some .audio → first.Offers requiredCodec →
        second.Offers requiredCodec) :
    hasCompatibleAudio description = true ↔ OffersAudio description := by
  have audioOf {audio : Section} (first : firstAudio? description = some audio) :
      audio ∈ sections description ∧ audio.kind? = some .audio :=
    ⟨List.mem_of_find?_eq_some first, by simpa using List.find?_some first⟩
  have genuine {audio : Section} {mapping : String} (first : firstAudio? description = some audio)
      (mention : audio.firstMention? = some mapping) :
      mapping ∈ audio.codecs ∧ Maps requiredCodec mapping :=
    have there := List.mem_of_find?_eq_some mention
    ⟨there, plain audio (audioOf first).1 (audioOf first).2 mapping there
      (List.find?_some mention)⟩
  refine right_of_not_misjudged fun misjudged => ?_
  cases misjudged with
  | lookalike first mention _ absent =>
      exact absent ⟨_, (audioOf first).1, (audioOf first).2, _, genuine first mention⟩
  | unusable first mention useless _ =>
      simpa [useless] using (genuine first mention).2.isSome_firstNumber?
  | outrun first silent there kind _ offers =>
      exact (agree _ there _ (audioOf first).1 kind (audioOf first).2 offers).firstMention? silent

end RoomCall.Description
