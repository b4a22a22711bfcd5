import Mathlib.Data.List.Nodup
import RoomCall.Proofs.Description.Matching

/-!
# Masking can be undone

Masking renames the streams and tracks of a description, each name to one of its own. The renamed
description is read like the description itself: a pair stays a pair, and a character that belongs
to no pair still belongs to none, although the text around it has changed. So the pairs that were
renamed are found again, and the table leads every replacement back to its name.
-/

namespace RoomCall.Description

/-! ## Renaming the pairs of a text -/

namespace Segment

/-- The names in a segment. -/
def names : Segment → List String
  | .character _ => []
  | .pair stream track => [stream, track]

/-- A segment with other names. -/
def rename (naming : String → String) : Segment → Segment
  | .character value => .character value
  | .pair stream track => .pair (naming stream) (naming track)

end Segment

/-- A text with other names in its pairs. -/
def renamed (naming : String → String) (text : List Char) : List Char :=
  ((segments text).map (Segment.rename naming)).flatMap Segment.characters

/-- Whether a text, read over the end of a name, goes on with a space and the start of a name. -/
def nameFollows (text : List Char) : Bool :=
  match text.dropWhile isNameCharacter with
  | ' ' :: after => after.head?.any isNameCharacter
  | _ => false

theorem nameFollows_append {name later : List Char}
    (named : ∀ character ∈ name, isNameCharacter character = true) :
    nameFollows (name ++ later) = nameFollows later := by
  rw [nameFollows, nameFollows, List.dropWhile_append_of_pos named]

theorem IsName.head?_append {name : List Char} (named : IsName name) (later : List Char) :
    (name ++ later).head?.any isNameCharacter = true := by
  rcases name with _ | ⟨character, name⟩
  · exact absurd rfl named.1
  · simpa using named.2 character (by simp)

/-- Whether a pair starts a text can be told without reading its track to the end. -/
theorem isSome_pairAt?_iff {text : List Char} :
    (pairAt? text).isSome = true ↔
      ∃ names, text = pairMark ++ names ∧ names.head?.any isNameCharacter = true ∧
        nameFollows names = true := by
  rw [Option.isSome_iff_exists]
  constructor
  · rintro ⟨⟨stream, track, rest⟩, found⟩
    obtain ⟨whole, streamNamed, trackNamed, -⟩ := pairAt?_eq_some_iff.mp found
    refine ⟨_, whole, streamNamed.head?_append _, ?_⟩
    rw [nameFollows_append streamNamed.2]
    exact trackNamed.head?_append rest
  · rintro ⟨names, rfl, starts, follows⟩
    unfold nameFollows at follows
    split at follows
    · rename_i after spaced
      refine ⟨(String.ofList (names.takeWhile isNameCharacter),
        String.ofList (after.takeWhile isNameCharacter), after.dropWhile isNameCharacter), ?_⟩
      simp only [pairAt?_eq_some_iff, String.toList_ofList, List.takeWhile_append_dropWhile]
      have begins : ∀ {text : List Char}, text.head?.any isNameCharacter = true →
          text.takeWhile isNameCharacter ≠ [] := by
        intro text first
        cases text with
        | nil => simp at first
        | cons character later => simp_all
      refine ⟨?_, isName_takeWhile (begins starts), isName_takeWhile (begins follows),
        endsName_dropWhile after⟩
      rw [← spaced, List.takeWhile_append_dropWhile]
    · simp at follows

section

variable {naming : String → String}

theorem renamed_of_pairAt? {text rest : List Char} {stream track : String}
    (found : pairAt? text = some (stream, track, rest)) :
    renamed naming text =
      pairMark ++ ((naming stream).toList ++ ' ' :: ((naming track).toList ++
        renamed naming rest)) := by
  rw [renamed, segments_of_pairAt? found]
  simp [renamed, Segment.rename, Segment.characters]

theorem renamed_cons {character : Char} {later : List Char}
    (unpaired : pairAt? (character :: later) = none) :
    renamed naming (character :: later) = character :: renamed naming later := by
  rw [renamed, segments_cons unpaired]
  rfl

@[simp]
theorem renamed_nil : renamed naming [] = [] := by
  rw [renamed, segments_nil]
  rfl

/-- A renamed text starts with the same character: with the mark if a pair starts it. -/
theorem head?_renamed (text : List Char) : (renamed naming text).head? = text.head? := by
  cases text with
  | nil => rw [renamed_nil]
  | cons character later =>
      cases found : pairAt? (character :: later) with
      | none => rw [renamed_cons found, List.head?_cons, List.head?_cons]
      | some pair =>
          rw [renamed_of_pairAt? found, (pairAt?_eq_some_iff.mp found).1]
          rfl

/-- A character other than the first one of the mark starts no pair, so it is taken over. -/
theorem cons_of_renamed {text later : List Char} {character : Char} (other : character ≠ 'm')
    (starts : renamed naming text = character :: later) :
    ∃ rest, text = character :: rest ∧ renamed naming rest = later := by
  have first : (renamed naming text).head? = text.head? := head?_renamed text
  rw [starts, List.head?_cons] at first
  cases text with
  | nil => simp at first
  | cons head rest =>
      obtain rfl : character = head := by simpa using first
      cases found : pairAt? (character :: rest) with
      | none =>
          rw [renamed_cons found] at starts
          exact ⟨rest, rfl, (List.cons.inj starts).2⟩
      | some pair =>
          have whole := (pairAt?_eq_some_iff.mp found).1
          exact absurd (List.cons.inj whole).1 other

/-- Behind its first character the mark has no character that a mark starts with. -/
theorem plain_mark : ∀ character ∈ "sid:".toList, character ≠ 'm' := by
  simp

/-- So a text without the first character of the mark at the start of a renamed text is taken
over. -/
theorem append_of_renamed {front : List Char} (plain : ∀ character ∈ front, character ≠ 'm')
    {text later : List Char} (starts : renamed naming text = front ++ later) :
    ∃ rest, text = front ++ rest ∧ renamed naming rest = later := by
  induction front generalizing text with
  | nil => exact ⟨text, rfl, starts⟩
  | cons character front ih =>
      obtain ⟨next, rfl, fromNext⟩ := cons_of_renamed (plain character (by simp)) starts
      obtain ⟨rest, rfl, fromRest⟩ := ih (fun other there => plain other (by simp [there])) fromNext
      exact ⟨rest, rfl, fromRest⟩

/-- Names may run on across a mark, but where the first of them ends is not moved by a renaming:
either it ends in front of every pair, or in the space of the first one. -/
theorem nameFollows_renamed (keeps : ∀ name : String, IsName name.toList → IsName (naming name).toList)
    (text : List Char) : nameFollows (renamed naming text) = nameFollows text := by
  have marks : ∀ character ∈ pairMark, isNameCharacter character = true :=
    List.all_eq_true.mp (by decide)
  induction text using segments.induct with
  | case1 => rw [renamed_nil]
  | case2 character later stream track rest found ih =>
      obtain ⟨whole, streamNamed, trackNamed, -⟩ := pairAt?_eq_some_iff.mp found
      have follows : ∀ {track : List Char} (later : List Char), IsName track →
          nameFollows (' ' :: (track ++ later)) = true :=
        fun later named => named.head?_append later
      rw [renamed_of_pairAt? found, whole, nameFollows_append marks, nameFollows_append marks,
        nameFollows_append streamNamed.2, nameFollows_append (keeps stream streamNamed).2,
        follows _ trackNamed, follows _ (keeps track trackNamed)]
  | case3 character later found ih =>
      rw [renamed_cons found]
      by_cases isNamed : isNameCharacter character = true
      · have alone : ∀ inner ∈ [character], isNameCharacter inner = true := by simpa using isNamed
        exact (nameFollows_append alone).trans (ih.trans (nameFollows_append alone).symm)
      · simp only [nameFollows, List.dropWhile_cons, isNamed, Bool.false_eq_true, if_false]
        split <;> rename_i same
        · obtain ⟨rfl, rfl⟩ := List.cons.inj same
          simp only [head?_renamed]
        · split <;> rename_i spaced
          · obtain ⟨rfl, rfl⟩ := List.cons.inj spaced
            exact absurd rfl (same _)
          · rfl

/-- A renaming makes no pair out of characters that were none. -/
theorem pairAt?_renamed_cons
    (keeps : ∀ name : String, IsName name.toList → IsName (naming name).toList)
    {character : Char} {later : List Char} (unpaired : pairAt? (character :: later) = none) :
    pairAt? (character :: renamed naming later) = none := by
  rw [← Option.not_isSome_iff_eq_none] at unpaired ⊢
  refine mt (fun found => ?_) unpaired
  obtain ⟨names, whole, starts, follows⟩ := isSome_pairAt?_iff.mp found
  have spelled : character :: renamed naming later = 'm' :: ("sid:".toList ++ names) := whole
  obtain ⟨rfl, behind⟩ := List.cons.inj spelled
  obtain ⟨rest, rfl, rfl⟩ := append_of_renamed plain_mark behind
  rw [head?_renamed] at starts
  rw [nameFollows_renamed keeps] at follows
  exact isSome_pairAt?_iff.mpr ⟨rest, rfl, starts, follows⟩

/-- The pairs of a renamed text are the renamed pairs. -/
theorem segments_renamed
    (keeps : ∀ name : String, IsName name.toList → IsName (naming name).toList) (text : List Char) :
    segments (renamed naming text) = (segments text).map (Segment.rename naming) := by
  induction text using segments.induct with
  | case1 => simp
  | case2 character later stream track rest found ih =>
      obtain ⟨-, streamNamed, trackNamed, ends⟩ := pairAt?_eq_some_iff.mp found
      have pair : pairAt? (renamed naming (character :: later)) =
          some (naming stream, naming track, renamed naming rest) := by
        rw [pairAt?_eq_some_iff]
        refine ⟨renamed_of_pairAt? found, keeps stream streamNamed, keeps track trackNamed, ?_⟩
        intro first starts
        rw [head?_renamed] at starts
        exact ends first starts
      rw [segments_of_pairAt? pair, segments_of_pairAt? found, ih]
      rfl
  | case3 character later found ih =>
      rw [renamed_cons found, segments_cons (pairAt?_renamed_cons keeps found),
        segments_cons found, ih]
      rfl

end

/-! ## The table of a masking -/

/-- A supply whose next texts are names, no two of them equal. -/
structure NamesApart (supply : Supply) : Prop where
  named : ∀ index, supply.used ≤ index → IsName (supply.text index).toList
  distinct : ∀ first second, supply.used ≤ first → supply.used ≤ second →
    supply.text first = supply.text second → first = second

/-- What a table puts in the place of a name. -/
def nameIn (table : List (String × String)) (name : String) : String :=
  ((table.find? fun entry => entry.1 = name).map Prod.snd).getD name

/-- What holds of a masking while it goes through a description: each name in its table has one
entry, and the replacements are the texts drawn so far. -/
structure Masking.Orderly (start : Supply) (masking : Masking) : Prop where
  supply : masking.supply = { start with used := start.used + masking.table.length }
  drawn : masking.table.map Prod.snd =
    (List.range masking.table.length).map fun place => start.text (start.used + place)
  distinct : (masking.table.map Prod.fst).Nodup

theorem find?_key {table : List (String × String)} {name : String}
    (known : name ∈ table.map Prod.fst) :
    ∃ replacement, (table.find? fun entry => entry.1 = name) = some (name, replacement) := by
  obtain ⟨⟨key, value⟩, there, rfl⟩ := List.mem_map.mp known
  cases found : table.find? fun entry => entry.1 = key with
  | none => simpa using List.find?_eq_none.mp found _ there
  | some entry =>
      have same : entry.1 = key := by simpa using List.find?_some found
      exact ⟨entry.2, by rw [← same]⟩

theorem find?_key_eq_none {table : List (String × String)} {name : String}
    (unknown : name ∉ table.map Prod.fst) : (table.find? fun entry => entry.1 = name) = none := by
  rw [List.find?_eq_none]
  intro entry there
  simpa using fun same : entry.1 = name => unknown (List.mem_map.mpr ⟨entry, there, same⟩)

/-- An entry that is made later does not change what stands for a known name. -/
theorem nameIn_append {table more : List (String × String)} {name : String}
    (known : name ∈ table.map Prod.fst) : nameIn (table ++ more) name = nameIn table name := by
  obtain ⟨replacement, found⟩ := find?_key known
  simp [nameIn, List.find?_append, found]

namespace Masking

variable {start : Supply} {masking : Masking}

/-- A known name is replaced as before; any other name gets the next text of the supply. -/
theorem replace_cases (masking : Masking) (name : String) :
    (name ∈ masking.table.map Prod.fst ∧
        masking.replace name = (nameIn masking.table name, false, masking)) ∨
      (name ∉ masking.table.map Prod.fst ∧
        masking.replace name = (masking.supply.text masking.supply.used, true,
          { masking with
            table := masking.table ++ [(name, masking.supply.text masking.supply.used)]
            supply := { masking.supply with used := masking.supply.used + 1 } })) := by
  by_cases known : name ∈ masking.table.map Prod.fst
  · obtain ⟨replacement, found⟩ := find?_key known
    exact .inl ⟨known, by simp [replace, nameIn, found]⟩
  · exact .inr ⟨known, by simp [replace, find?_key_eq_none known, Supply.draw]⟩

/-- What one replacement does: the table grows at its end, by the name if it was not known, and
gives the replacement from then on. -/
structure Learns (start : Supply) (masking after : Masking) (names : List String) : Prop where
  grows : ∃ more, after.table = masking.table ++ more
  known : ∀ name, name ∈ after.table.map Prod.fst ↔ name ∈ masking.table.map Prod.fst ∨ name ∈ names
  orderly : masking.Orderly start → after.Orderly start

theorem Learns.refl (masking : Masking) : masking.Learns start masking [] :=
  ⟨⟨[], (List.append_nil _).symm⟩, by simp, id⟩

theorem Learns.trans {middle after : Masking} {first second : List String}
    (one : masking.Learns start middle first) (other : middle.Learns start after second) :
    masking.Learns start after (first ++ second) := by
  obtain ⟨more, oneTable⟩ := one.grows
  obtain ⟨evenMore, otherTable⟩ := other.grows
  refine ⟨⟨more ++ evenMore, by rw [otherTable, oneTable, List.append_assoc]⟩, fun name => ?_,
    other.orderly ∘ one.orderly⟩
  rw [other.known, one.known, List.mem_append, or_assoc]

theorem Learns.nameIn_eq {after : Masking} {names : List String}
    (learns : masking.Learns start after names) {name : String}
    (known : name ∈ masking.table.map Prod.fst) :
    nameIn after.table name = nameIn masking.table name := by
  obtain ⟨more, table⟩ := learns.grows
  rw [table, nameIn_append known]

theorem learns_replace (start : Supply) (masking : Masking) (name : String) :
    masking.Learns start (masking.replace name).2.2 [name] ∧
      (masking.replace name).1 = nameIn (masking.replace name).2.2.table name := by
  rcases replace_cases masking name with ⟨known, replaced⟩ | ⟨unknown, replaced⟩
  · rw [replaced]
    refine ⟨⟨⟨[], (List.append_nil _).symm⟩, fun other => ?_, id⟩, rfl⟩
    simp only [List.mem_singleton]
    exact ⟨.inl, fun either => either.elim id (fun same => same ▸ known)⟩
  · rw [replaced]
    refine ⟨⟨⟨_, rfl⟩, by simp, fun orderly => ⟨?_, ?_, ?_⟩⟩, ?_⟩
    · simp [orderly.supply, Nat.add_assoc]
    · simp [List.range_succ, orderly.drawn, orderly.supply]
    · rw [List.map_append, List.nodup_append]
      refine ⟨orderly.distinct, by simp, fun key there other same => ?_⟩
      obtain rfl : other = name := by simpa using same
      exact fun equal => unknown (equal ▸ there)
    · simp [nameIn, List.find?_append, find?_key_eq_none unknown]

/-- That a name was first seen as a stream is noted beside the table. -/
theorem learns_replaceStream (start : Supply) (masking : Masking) (name : String) :
    masking.Learns start (masking.replaceStream name).2 [name] ∧
      (masking.replaceStream name).1 = nameIn (masking.replaceStream name).2.table name := by
  obtain ⟨⟨grows, known, orderly⟩, same⟩ := learns_replace start masking name
  unfold replaceStream
  dsimp only
  split
  · refine ⟨⟨grows, known, fun before => ?_⟩, same⟩
    have after := orderly before
    exact ⟨after.supply, after.drawn, after.distinct⟩
  · exact ⟨⟨grows, known, orderly⟩, same⟩

/-- Replacing the names of all segments renames them, and makes an entry for each name. -/
theorem learns_replaceAll (start : Supply) (masking : Masking) (parts : List Segment) :
    masking.Learns start (masking.replaceAll parts).2 (parts.flatMap Segment.names) ∧
      (masking.replaceAll parts).1 =
        parts.map (Segment.rename (nameIn (masking.replaceAll parts).2.table)) := by
  induction parts generalizing masking with
  | nil => exact ⟨Learns.refl masking, rfl⟩
  | cons part later ih =>
      cases part with
      | character value =>
          obtain ⟨learns, replaced⟩ := ih masking
          exact ⟨learns, congrArg (Segment.character value :: ·) replaced⟩
      | pair stream track =>
          obtain ⟨streamLearns, streamNamed⟩ := learns_replaceStream start masking stream
          obtain ⟨trackLearns, trackNamed⟩ :=
            learns_replace start (masking.replaceStream stream).2 track
          obtain ⟨laterLearns, replaced⟩ :=
            ih ((masking.replaceStream stream).2.replaceTrack track).2
          refine ⟨(streamLearns.trans trackLearns).trans laterLearns, ?_⟩
          have streamKnown := (streamLearns.known stream).mpr (.inr (by simp))
          have trackKnown := (trackLearns.known track).mpr (.inr (by simp))
          have sameStream := (trackLearns.trans laterLearns).nameIn_eq streamKnown
          have sameTrack := laterLearns.nameIn_eq trackKnown
          simp only [replaceAll, List.map_cons, Segment.rename, List.cons.injEq,
            Segment.pair.injEq]
          exact ⟨⟨streamNamed.trans sameStream.symm, trackNamed.trans sameTrack.symm⟩, replaced⟩

theorem orderly_start (supply : Supply) : Orderly supply { supply := supply } :=
  ⟨rfl, rfl, List.nodup_nil⟩

variable (orderly : masking.Orderly start) (apart : NamesApart start)
include orderly

/-- The replacements in a table are the texts that were drawn. -/
theorem Orderly.mem_replacements {text : String} :
    text ∈ masking.table.map Prod.snd ↔
      ∃ index, start.used ≤ index ∧ index < start.used + masking.table.length ∧
        start.text index = text := by
  simp only [orderly.drawn, List.mem_map, List.mem_range]
  constructor
  · rintro ⟨place, inside, same⟩
    exact ⟨start.used + place, by omega, by omega, same⟩
  · rintro ⟨index, lower, upper, same⟩
    exact ⟨index - start.used, by omega, by rw [← same, Nat.add_sub_cancel' lower]⟩

/-- A table gives for a name the replacement in its entry. -/
theorem Orderly.nameIn_of_mem {name replacement : String}
    (there : (name, replacement) ∈ masking.table) : nameIn masking.table name = replacement := by
  obtain ⟨other, found⟩ := find?_key (List.mem_map.mpr ⟨_, there, rfl⟩)
  have same : (name, other) = (name, replacement) :=
    List.inj_on_of_nodup_map orderly.distinct (List.mem_of_find?_eq_some found) there rfl
  rw [nameIn, found]
  exact congrArg Prod.snd same

include apart

theorem Orderly.replacements_distinct : (masking.table.map Prod.snd).Nodup := by
  rw [orderly.drawn]
  refine List.Nodup.map_on (fun first _ second _ same => ?_) List.nodup_range
  have places := apart.distinct _ _ (Nat.le_add_right _ first) (Nat.le_add_right _ second) same
  omega

/-- A name is replaced by a name. -/
theorem Orderly.isName_nameIn {name : String} (named : IsName name.toList) :
    IsName (nameIn masking.table name).toList := by
  by_cases known : name ∈ masking.table.map Prod.fst
  · obtain ⟨⟨key, replacement⟩, there, rfl⟩ := List.mem_map.mp known
    rw [orderly.nameIn_of_mem there]
    obtain ⟨index, lower, -, rfl⟩ :=
      orderly.mem_replacements.mp (List.mem_map.mpr ⟨_, there, rfl⟩)
    exact apart.named index lower
  · simpa [nameIn, find?_key_eq_none known] using named

/-- The table leads a replacement back to its name, although it is searched from its end. -/
theorem Orderly.unmaskName_nameIn (description : String) (streams : List String) {name : String}
    (known : name ∈ masking.table.map Prod.fst) :
    Masked.unmaskName ⟨description, streams, masking.table⟩ (nameIn masking.table name) = name := by
  obtain ⟨⟨key, replacement⟩, there, rfl⟩ := List.mem_map.mp known
  rw [orderly.nameIn_of_mem there, Masked.unmaskName]
  cases found : masking.table.reverse.find? fun entry => entry.2 = replacement with
  | none =>
      exact absurd (List.find?_eq_none.mp found (key, replacement) (List.mem_reverse.mpr there))
        (by simp)
  | some entry =>
      have same : entry.2 = replacement := by simpa using List.find?_some found
      have inside := List.mem_reverse.mp (List.mem_of_find?_eq_some found)
      rw [List.inj_on_of_nodup_map (orderly.replacements_distinct apart) inside there same]

end Masking

/-! ## Masking and unmasking -/

theorem unmaskSegment_eq_rename (masked : Masked) :
    masked.unmaskSegment = Segment.rename masked.unmaskName := by
  funext part
  cases part <;> rfl

/-- A renaming that another one undoes on the names of a segment leaves the segment as it was. -/
theorem Segment.rename_rename {naming back : String → String} {part : Segment}
    (undone : ∀ name ∈ part.names, back (naming name) = name) :
    (part.rename naming).rename back = part := by
  cases part with
  | character value => rfl
  | pair stream track =>
      simp only [Segment.rename, Segment.pair.injEq]
      exact ⟨undone stream (by simp [Segment.names]), undone track (by simp [Segment.names])⟩

theorem join_segments (description : String) :
    Segment.join (segments description.toList) = description := by
  rw [Segment.join, characters_segments, String.ofList_toList]

/-- A table that leads every replacement back to its name restores a renamed description. -/
theorem unmask_renamed {masked : Masked} {naming : String → String} {description : String}
    (keeps : ∀ name : String, IsName name.toList → IsName (naming name).toList)
    (undone : ∀ name ∈ (segments description.toList).flatMap Segment.names,
      masked.unmaskName (naming name) = name) :
    masked.unmask
      (Segment.join ((segments description.toList).map (Segment.rename naming))) = description := by
  have read : segments (Segment.join
      ((segments description.toList).map (Segment.rename naming))).toList =
        (segments description.toList).map (Segment.rename naming) := by
    rw [Segment.join, String.toList_ofList]
    exact segments_renamed keeps _
  have restored : ∀ part ∈ segments description.toList,
      (Segment.rename masked.unmaskName ∘ Segment.rename naming) part = part := by
    intro part inside
    refine Segment.rename_rename fun name there => ?_
    exact undone name (List.mem_flatMap.mpr ⟨part, inside, there⟩)
  rw [Masked.unmask, read, List.map_map, unmaskSegment_eq_rename, List.map_congr_left restored,
    List.map_id', join_segments]

/-- A description whose names are replaced by names of their own can be restored from it, and the
table of replacements is used up.

The description has one reading with the pattern of a pair, which cuts it into the pairs that the
pattern matches and the characters outside of them. Masking gives each stream and each track of a
pair its replacement, the same for two of them exactly if they are the same name, and leaves all
else in its place. The texts it draws from the supply are the replacements of these names and no
others, and with its table the masked description is restored. -/
theorem unmask_mask (supply : Supply) (apart : NamesApart supply) (description : String) :
    ∃ (parts : List Segment) (naming : String → String) (drawn : Nat),
      (∀ reading, Scan description.toList reading ↔ reading = parts) ∧
        Segment.join parts = description ∧
        (mask supply description).1.description =
          Segment.join (parts.map (Segment.rename naming)) ∧
        (∀ first ∈ parts.flatMap Segment.names, ∀ second ∈ parts.flatMap Segment.names,
          naming first = naming second ↔ first = second) ∧
        (mask supply description).2 = { supply with used := supply.used + drawn } ∧
        (∀ replacement,
          (∃ name ∈ parts.flatMap Segment.names, naming name = replacement) ↔
            ∃ index, supply.used ≤ index ∧ index < supply.used + drawn ∧
              supply.text index = replacement) ∧
        (mask supply description).1.unmask (mask supply description).1.description =
          description := by
  obtain ⟨learns, replaced⟩ :=
    Masking.learns_replaceAll supply { supply := supply } (segments description.toList)
  have orderly := learns.orderly (Masking.orderly_start supply)
  have known : ∀ name,
      name ∈ (Masking.replaceAll { supply := supply }
        (segments description.toList)).2.table.map Prod.fst ↔
        name ∈ (segments description.toList).flatMap Segment.names := by
    intro name
    rw [learns.known]
    simp
  have masked : mask supply description =
      (⟨Segment.join (Masking.replaceAll { supply := supply } (segments description.toList)).1,
        (Masking.replaceAll { supply := supply } (segments description.toList)).2.streams,
        (Masking.replaceAll { supply := supply } (segments description.toList)).2.table⟩,
        (Masking.replaceAll { supply := supply } (segments description.toList)).2.supply) := rfl
  rw [masked, replaced]
  generalize (Masking.replaceAll { supply := supply } (segments description.toList)).2 = final at *
  have undone : ∀ name ∈ (segments description.toList).flatMap Segment.names, ∀ text streams,
      Masked.unmaskName ⟨text, streams, final.table⟩ (nameIn final.table name) = name :=
    fun name there text streams =>
      orderly.unmaskName_nameIn apart text streams ((known name).mpr there)
  refine ⟨segments description.toList, nameIn final.table, final.table.length,
    fun reading => scan_iff, join_segments description, rfl, fun first firstThere second secondThere => ?_,
    orderly.supply, fun replacement => ?_, ?_⟩
  · refine ⟨fun same => ?_, congrArg _⟩
    rw [← undone first firstThere "" [], same, undone second secondThere]
  · rw [← orderly.mem_replacements, List.mem_map]
    constructor
    · rintro ⟨name, there, rfl⟩
      obtain ⟨⟨key, replacement⟩, inside, rfl⟩ := List.mem_map.mp ((known name).mpr there)
      exact ⟨_, inside, (orderly.nameIn_of_mem inside).symm⟩
    · rintro ⟨⟨key, replacement⟩, inside, rfl⟩
      exact ⟨key, (known key).mp (List.mem_map.mpr ⟨_, inside, rfl⟩), orderly.nameIn_of_mem inside⟩
  · exact unmask_renamed (fun _ named => orderly.isName_nameIn apart named)
      fun name there => undone name there _ _

/-- A supply of names that can be told apart by their lengths. -/
def letters : Supply where
  text index := String.ofList (List.replicate (index + 1) 'x')

theorem namesApart_letters : NamesApart letters := by
  constructor
  · intro index _
    simp only [letters, String.toList_ofList]
    refine ⟨by simp, fun character there => ?_⟩
    rw [List.eq_of_mem_replicate there]
    decide
  · intro first second _ _ same
    have lengths := congrArg (fun text => text.toList.length) same
    simpa [letters] using lengths

theorem unmask_mask_letters :
    NamesApart letters ∧
      (mask letters "a=msid:msid:s msid:s b").1.unmask
        (mask letters "a=msid:msid:s msid:s b").1.description = "a=msid:msid:s msid:s b" := by
  obtain ⟨_, _, _, _, _, _, _, _, _, restored⟩ :=
    unmask_mask letters namesApart_letters "a=msid:msid:s msid:s b"
  exact ⟨namesApart_letters, restored⟩

end RoomCall.Description
