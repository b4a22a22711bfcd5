import RoomCall.Proofs.Description.Chapters
import RoomCall.Proofs.Description.Lines
import RoomCall.Proofs.Description.Listing

/-!
# Which stream names stay visible

A section has its stream from the first attribute line that names one, and there the stream is the
first word behind the mark, however many blanks stand around it and whether or not a track follows.
Masking replaces the stream of a pair, which follows the mark at once and is followed by one space
and a track. So a section of a masked description has a fresh name for its stream exactly if that
attribute spells a pair out; in any other spelling the engine's own name stays where it was.
-/

namespace RoomCall.Description

/-! ## The first word -/

/-- The first word of a text is the name that stands behind the blanks it starts with. -/
theorem firstWord?_eq_some_iff {text word : List Char} :
    Text.firstWord? text = some word ↔
      (text.dropWhile Text.isBlank).takeWhile isNameCharacter = word ∧ word ≠ [] := by
  unfold Text.firstWord?
  split
  · rename_i empty
    exact ⟨nofun, fun ⟨same, nonempty⟩ => absurd (same.symm.trans empty) nonempty⟩
  · rename_i found nonempty
    rw [Option.some_inj]
    exact ⟨fun same => same ▸ ⟨rfl, nonempty⟩, And.left⟩

/-- A name is the first word of a text that starts with it. -/
theorem IsName.firstWord?_append {name later : List Char} (named : IsName name)
    (ends : EndsName later) : Text.firstWord? (name ++ later) = some name := by
  have starts : (name ++ later).dropWhile Text.isBlank = name ++ later := by
    cases name with
    | nil => exact absurd rfl named.1
    | cons first name =>
        have seen : Text.isBlank first = false := by
          simpa [isNameCharacter] using named.2 first (by simp)
        simp [seen]
  rw [firstWord?_eq_some_iff, starts]
  exact ⟨named.takeWhile_append ends, named.1⟩

/-- A text has a first word if it has more than blanks. -/
theorem isSome_firstWord? (text : List Char) :
    (Text.firstWord? text).isSome = (text.dropWhile Text.isBlank).head?.isSome := by
  rw [Text.firstWord?]
  cases behind : text.dropWhile Text.isBlank with
  | nil => rfl
  | cons character later =>
      have seen : Text.isBlank character = false := by
        have first := List.head?_dropWhile_not Text.isBlank text
        simpa [behind] using first
      simp [seen]

theorem infix_of_firstWord? {text word : List Char} (first : Text.firstWord? text = some word) :
    word <:+: text := by
  rw [← (firstWord?_eq_some_iff.mp first).1]
  exact (List.takeWhile_prefix _).isInfix.trans (List.dropWhile_suffix _).isInfix

section

variable {naming : String → String}

theorem dropWhile_isBlank_renamed (text : List Char) :
    (renamed naming text).dropWhile Text.isBlank =
      renamed naming (text.dropWhile Text.isBlank) := by
  induction text with
  | nil => simp
  | cons character later ih =>
      by_cases blank : Text.isBlank character = true
      · have other : character ≠ 'm' := by
          rintro rfl
          exact absurd blank (by decide)
        rw [renamed_cons_of_ne other, List.dropWhile_cons_of_pos blank,
          List.dropWhile_cons_of_pos blank, ih]
      · have same : (renamed naming (character :: later)).head? = some character :=
          head?_renamed _
        obtain ⟨rest, whole⟩ := List.head?_eq_some_iff.mp same
        rw [List.dropWhile_cons_of_neg blank, whole, List.dropWhile_cons_of_neg blank]

/-- A name without a mark inside is no part of a pair, as far as it stands at the start. -/
theorem takeWhile_renamed {text : List Char}
    (unmarked : ¬pairMark <:+: text.takeWhile isNameCharacter) :
    (renamed naming text).takeWhile isNameCharacter = text.takeWhile isNameCharacter := by
  induction text using segments.induct with
  | case1 => rw [renamed_nil]
  | case2 character later stream track rest found ih =>
      obtain ⟨whole, streamNamed, -, -⟩ := pairAt?_eq_some_iff.mp found
      have marked : pairMark <+: (character :: later).takeWhile isNameCharacter := by
        rw [whole, List.takeWhile_append_of_pos (List.all_eq_true.mp (by decide))]
        exact List.prefix_append _ _
      exact absurd marked.isInfix unmarked
  | case3 character later found ih =>
      rw [renamed_cons found, List.takeWhile_cons, List.takeWhile_cons]
      by_cases named : isNameCharacter character = true
      · simp only [named, if_true]
        rw [ih fun inside => unmarked ?_]
        rw [List.takeWhile_cons_of_pos named]
        exact inside.trans (List.suffix_cons _ _).isInfix
      · simp [named]

/-- A name with a mark inside keeps a mark. -/
theorem pairMark_infix_takeWhile_renamed {text : List Char}
    (marked : pairMark <:+: text.takeWhile isNameCharacter) :
    pairMark <:+: (renamed naming text).takeWhile isNameCharacter := by
  have starts (rest : List Char) :
      pairMark <:+: (pairMark ++ rest).takeWhile isNameCharacter := by
    rw [List.takeWhile_append_of_pos (List.all_eq_true.mp (by decide))]
    exact (List.prefix_append _ _).isInfix
  induction text using segments.induct with
  | case1 => rwa [renamed_nil]
  | case2 character later stream track rest found ih =>
      rw [renamed_of_pairAt? found]
      exact starts _
  | case3 character later found ih =>
      by_cases named : isNameCharacter character = true
      · rw [List.takeWhile_cons_of_pos named, List.infix_cons_iff] at marked
        rcases marked with here | later
        · obtain ⟨names, whole⟩ : ∃ names, pairMark ++ names = character :: later :=
            here.trans (List.cons_prefix_cons.mpr ⟨rfl, List.takeWhile_prefix _⟩)
          have there : Text.after? pairMark (renamed naming (character :: later)) = _ :=
            after?_pairMark_renamed (character :: later)
          rw [Text.after?_eq_some_iff.mpr whole.symm, Option.map_some] at there
          rw [Text.after?_eq_some_iff.mp there]
          exact starts _
        · rw [renamed_cons found, List.takeWhile_cons_of_pos named]
          exact (ih later).trans (List.suffix_cons _ _).isInfix
      · rw [List.takeWhile_cons_of_neg named] at marked
        exact absurd marked (by decide)

theorem isSome_firstWord?_renamed (text : List Char) :
    (Text.firstWord? (renamed naming text)).isSome = (Text.firstWord? text).isSome := by
  simp only [isSome_firstWord?, dropWhile_isBlank_renamed, head?_renamed]

/-- A first word without a mark inside stays the first word, and any other keeps a mark. -/
theorem exists_firstWord?_renamed {text word : List Char}
    (first : Text.firstWord? text = some word) :
    ∃ shown, Text.firstWord? (renamed naming text) = some shown ∧
      (shown = word ∨ pairMark <:+: word ∧ pairMark <:+: shown) := by
  have there : (Text.firstWord? (renamed naming text)).isSome = true := by
    rw [isSome_firstWord?_renamed, first]
    rfl
  obtain ⟨shown, found⟩ := Option.isSome_iff_exists.mp there
  refine ⟨shown, found, ?_⟩
  have ofText := (firstWord?_eq_some_iff.mp first).1
  have ofRenamed := (firstWord?_eq_some_iff.mp found).1
  rw [dropWhile_isBlank_renamed] at ofRenamed
  rw [← ofText, ← ofRenamed]
  by_cases marked : pairMark <:+: (text.dropWhile Text.isBlank).takeWhile isNameCharacter
  · exact .inr ⟨marked, pairMark_infix_takeWhile_renamed marked⟩
  · exact .inl (takeWhile_renamed marked)

end

/-! ## The attribute that decides -/

/-- The stream that the text behind a mark names. -/
def firstName? (text : List Char) : Option String :=
  (Text.firstWord? text).map String.ofList

/-- What stands behind the mark in an attribute line that names a stream. A line with nothing but
blanks there names none. -/
def namingText? (line : List Char) : Option (List Char) :=
  (after? "a=" line >>= after? "msid:").filter fun text => (Text.firstWord? text).isSome

/-- For each section of a description, what stands behind the mark in the line that names its
stream, if there is one. -/
def namingTexts (description : String) : List (Option (List Char)) :=
  (chapters (Text.lines description)).map fun chapter => chapter.2.findSome? namingText?

/-- A text that starts with one mark does not start with another, if neither goes on from the
other. -/
theorem after?_eq_none_of_after? {first second : String}
    (apart : ¬first.toList <+: second.toList ∧ ¬second.toList <+: first.toList)
    {text rest : List Char} (found : after? first text = some rest) : after? second text = none := by
  rw [Option.eq_none_iff_forall_ne_some]
  intro other there
  have one := Text.after?_eq_some_iff.mp found
  have two := Text.after?_eq_some_iff.mp there
  rcases List.prefix_or_prefix_of_prefix (one ▸ List.prefix_append first.toList rest)
    (two ▸ List.prefix_append second.toList other) with before | after
  · exact apart.1 before
  · exact apart.2 after

/-- The stream that an attribute names, if it names one. -/
def Attribute.stream? : Attribute → Option String
  | .stream name => some name
  | _ => none

theorem Section.stream_add (current : Section) (given : Attribute) :
    (current.add given).stream = (current.stream <|> given.stream?) := by
  cases given <;> simp only [add, Attribute.stream?]
  case source => split <;> simp
  all_goals simp

/-- Only the attribute with the mark of streams names one. -/
theorem Attribute.stream?_ofText? (text : List Char) :
    (Attribute.ofText? text >>= Attribute.stream?) = (after? "msid:" text >>= firstName?) := by
  rw [Attribute.ofText?]
  cases mapping : after? "rtpmap:" text with
  | some rest =>
      have silent : after? "msid:" text = none := after?_eq_none_of_after? (by decide) mapping
      rw [silent]
      rfl
  | none =>
      cases after? "msid:" text with
      | some rest => cases word : Text.firstWord? rest <;> simp [word, firstName?, stream?]
      | none =>
          dsimp only
          cases after? "ssrc:" text with
          | some rest => cases number : firstNumber? rest <;> simp [number, stream?]
          | none =>
              dsimp only
              split_ifs <;> rfl

theorem bind_namingText? (line : List Char) :
    (namingText? line >>= firstName?) = (after? "a=" line >>= after? "msid:" >>= firstName?) := by
  rw [namingText?]
  cases after? "a=" line >>= after? "msid:" with
  | none => rfl
  | some text => cases word : Text.firstWord? text <;> simp [Option.filter, word, firstName?]

/-- An attribute line names a stream for a section that has none yet. -/
theorem Section.stream_addLine (current : Section) (line : List Char) :
    (current.addLine line).stream = (current.stream <|> (namingText? line >>= firstName?)) := by
  have named : (Attribute.ofLine? line >>= Attribute.stream?) = (namingText? line >>= firstName?) := by
    rw [bind_namingText?, Attribute.ofLine?]
    cases after? "a=" line with
    | none => rfl
    | some text => exact Attribute.stream?_ofText? text
  rw [addLine, ← named]
  cases Attribute.ofLine? line with
  | none => simp
  | some given => exact stream_add current given

theorem Section.stream_foldl (current : Section) (lines : List (List Char)) :
    (lines.foldl Section.addLine current).stream =
      (current.stream <|> (lines.findSome? namingText? >>= firstName?)) := by
  induction lines generalizing current with
  | nil => simp
  | cons line later ih =>
      rw [List.foldl_cons, ih, stream_addLine, List.findSome?_cons]
      cases found : namingText? line with
      | none => simp
      | some text =>
          obtain ⟨word, first⟩ : ∃ word, Text.firstWord? text = some word := by
            rw [← Option.isSome_iff_exists]
            exact (Option.filter_eq_some_iff.mp found).2
          cases current.stream <;> simp [firstName?, first]

/-- A section has the stream that its naming text starts with. -/
theorem streams_sections (description : String) :
    (sections description).map Section.stream =
      (namingTexts description).map fun text => text >>= firstName? := by
  rw [sections, sectionsFrom_none, namingTexts, List.map_map, List.map_map]
  refine List.map_congr_left fun chapter there => ?_
  rw [Function.comp_apply, Section.stream_foldl, eq_of_mem_chapters there]
  simp

/-! ## What a masked description shows -/

section

variable {naming : String → String}

variable (keeps : ∀ name : String, IsName name.toList → IsName (naming name).toList)
include keeps

theorem isSome_firstWord?_renamedNames (text : List Char) :
    (Text.firstWord? (renamedNames naming text)).isSome = (Text.firstWord? text).isSome := by
  rw [renamedNames]
  cases found : pairAt? (pairMark ++ text) with
  | none => exact isSome_firstWord?_renamed text
  | some pair =>
      obtain ⟨stream, track, rest⟩ := pair
      obtain ⟨whole, streamNamed, -, -⟩ := pairAt?_eq_some_iff.mp found
      rw [List.append_cancel_left whole, streamNamed.firstWord?_append (endsName_space _)]
      dsimp only
      rw [(keeps stream streamNamed).firstWord?_append (endsName_space _)]
      rfl

/-- A renamed line names a stream where the line does. -/
theorem namingText?_renamed (line : List Char) :
    namingText? (renamed naming line) = (namingText? line).map (renamedNames naming) := by
  have opened : after? "a=" (renamed naming line) = (after? "a=" line).map (renamed naming) :=
    after?_renamed (by decide) line
  rw [namingText?, namingText?, opened]
  cases after? "a=" line with
  | none => rfl
  | some text =>
      have marked : after? "msid:" (renamed naming text) =
          (after? "msid:" text).map (renamedNames naming) :=
        after?_pairMark_renamed text
      change (after? "msid:" (renamed naming text)).filter _ =
        ((after? "msid:" text).filter _).map _
      rw [marked]
      cases after? "msid:" text with
      | none => rfl
      | some names =>
          simp only [Option.map_some, Option.filter, isSome_firstWord?_renamedNames keeps]
          split <;> rfl

omit keeps in
theorem continues_renamed (line : List Char) :
    continues (renamed naming line) = continues line := by
  have opened : after? "m=" (renamed naming line) = (after? "m=" line).map (renamed naming) :=
    after?_renamed (by decide) line
  simp [continues, Section.opened?, opened]

/-- The naming texts of a renamed description are those of the description, renamed. -/
theorem namingTexts_renamed (description : String) :
    namingTexts (String.ofList (renamed naming description.toList)) =
      (namingTexts description).map (Option.map (renamedNames naming)) := by
  have first (lines : List (List Char)) :
      (lines.map (renamed naming)).findSome? namingText? =
        (lines.findSome? namingText?).map (renamedNames naming) := by
    induction lines with
    | nil => rfl
    | cons line later ih =>
        rw [List.map_cons, List.findSome?_cons, List.findSome?_cons, namingText?_renamed keeps]
        cases namingText? line with
        | none => exact ih
        | some text => rfl
  have ofBodies (lines : List (List Char)) :
      (chapters lines).map (fun chapter => chapter.2.findSome? namingText?) =
        ((chapters lines).map Prod.snd).map (List.findSome? namingText?) := by
    rw [List.map_map]
    rfl
  have same : ∀ line, continues (renamed naming line) = continues line := continues_renamed
  rw [namingTexts, namingTexts, lines_renamed keeps, String.ofList_toList, ofBodies,
    bodies_map same, List.map_map, List.map_map]
  exact List.map_congr_left fun chapter _ => first chapter.2

end

/-! ## Where the names come from -/

/-- A naming text is what follows the mark in a line of the description. -/
theorem exists_line_of_namingTexts {description : String} {names : List Char}
    (there : some names ∈ namingTexts description) :
    'a' :: '=' :: (pairMark ++ names) ∈ Text.lines description ∧
      (Text.firstWord? names).isSome = true := by
  obtain ⟨chapter, inside, found⟩ := List.mem_map.mp there
  obtain ⟨line, member, named⟩ := List.exists_of_findSome?_eq_some found
  obtain ⟨behind, some⟩ := Option.filter_eq_some_iff.mp named
  obtain ⟨text, isAttribute, marked⟩ := Option.bind_eq_some_iff.mp behind
  refine ⟨?_, some⟩
  have whole : line = 'a' :: '=' :: (pairMark ++ names) := by
    rw [Text.after?_eq_some_iff.mp isAttribute, Text.after?_eq_some_iff.mp marked]
    rfl
  exact whole ▸ mem_lines_of_mem_chapters inside member

/-- The stream of a pair that is a naming text is a name of the description. -/
theorem mem_names_of_namingTexts {description : String} {names rest : List Char}
    {stream track : String} (there : some names ∈ namingTexts description)
    (found : pairAt? (pairMark ++ names) = some (stream, track, rest)) :
    stream ∈ (segments description.toList).flatMap Segment.names := by
  refine names_of_line (exists_line_of_namingTexts there).1 ?_
  rw [segments_cons_of_ne (by decide), segments_cons_of_ne (by decide), segments_of_pairAt? found]
  simp [Segment.names]

/-- The first word of a naming text occurs in the description. -/
theorem infix_of_namingTexts {description : String} {names word : List Char}
    (there : some names ∈ namingTexts description)
    (first : Text.firstWord? names = some word) : word <:+: description.toList := by
  have behind : names <:+: 'a' :: '=' :: (pairMark ++ names) :=
    (List.suffix_append ('a' :: '=' :: pairMark) names).isInfix
  exact (infix_of_firstWord? first).trans
    (behind.trans (Text.infix_of_mem_lines (exists_line_of_namingTexts there).1))

end RoomCall.Description
