import RoomCall.Proofs.Description.Exposure

/-!
# What a masked description negotiates

Masking goes over the raw text of a description, wherever a pair stands in it, while sections are
read line by line, and each line by the mark that it starts with. Still the two do not meet. A line
with a pair keeps its place and its mark, and the word of the line that is read, if the pair is part
of it, has the mark of the pair inside before and afterwards, so it was and is neither a medium nor
a number. What remains are the texts that name streams and codecs. `Section.outline` is everything
else that a section says.
-/

namespace RoomCall.Text

/-! ## Blanks at the end -/

theorem exists_trimEnd (text : List Char) :
    ∃ blanks, (∀ character ∈ blanks, isBlank character = true) ∧ text = trimEnd text ++ blanks := by
  induction text using List.reverseRecOn with
  | nil => exact ⟨[], by simp, rfl⟩
  | append_singleton text last ih =>
      rw [trimEnd_concat]
      split
      · rename_i blank
        obtain ⟨blanks, all, whole⟩ := ih
        refine ⟨blanks ++ [last], fun character there => ?_, ?_⟩
        · rcases List.mem_append.mp there with there | there
          · exact all character there
          · exact List.mem_singleton.mp there ▸ blank
        · rw [← List.append_assoc, ← whole]
      · exact ⟨[], by simp, by simp⟩

theorem trimEnd_append_blanks (text : List Char) {blanks : List Char}
    (all : ∀ character ∈ blanks, isBlank character = true) :
    trimEnd (text ++ blanks) = trimEnd text := by
  induction blanks using List.reverseRecOn with
  | nil => rw [List.append_nil]
  | append_singleton blanks last ih =>
      rw [← List.append_assoc, trimEnd_concat, if_pos (all last (by simp)),
        ih fun character there => all character (by simp [there])]

theorem trimEnd_trimEnd (text : List Char) : trimEnd (trimEnd text) = trimEnd text := by
  obtain ⟨blanks, all, whole⟩ := exists_trimEnd text
  conv_rhs => rw [whole, trimEnd_append_blanks _ all]

theorem trimEnd_of_mem_lines {text : String} {line : List Char} (there : line ∈ lines text) :
    trimEnd line = line := by
  obtain ⟨piece, -, rfl⟩ := List.mem_map.mp there
  exact trimEnd_trimEnd piece

/-- Behind a text that does not end in a blank, blanks are dropped from what follows. -/
theorem trimEnd_append {front : List Char} (kept : trimEnd front = front) (text : List Char) :
    trimEnd (front ++ text) = front ++ trimEnd text := by
  induction text using List.reverseRecOn with
  | nil => simpa [trimEnd] using kept
  | append_singleton text last ih =>
      rw [← List.append_assoc, trimEnd_concat, trimEnd_concat, ih]
      split
      · rfl
      · rw [List.append_assoc]

/-- A mark that does not end in a blank is found in a text whether or not the text is trimmed. -/
theorem after?_trimEnd {mark : List Char} (kept : trimEnd mark = mark) (text : List Char) :
    after? mark (trimEnd text) = (after? mark text).map trimEnd := by
  cases found : after? mark text with
  | some rest =>
      rw [after?_eq_some_iff.mp found, trimEnd_append kept, Option.map_some, after?_eq_some_iff]
  | none =>
      rw [Option.map_none, Option.eq_none_iff_forall_ne_some]
      intro rest there
      obtain ⟨blanks, -, whole⟩ := exists_trimEnd text
      rw [after?_eq_some_iff.mp there, List.append_assoc] at whole
      exact nomatch found.symm.trans (after?_eq_some_iff.mpr whole)

theorem firstWord?_concat_blank (text : List Char) {last : Char} (blank : isBlank last = true) :
    firstWord? (text ++ [last]) = firstWord? text := by
  have same : ((text ++ [last]).dropWhile isBlank).takeWhile (fun character => !isBlank character) =
      (text.dropWhile isBlank).takeWhile fun character => !isBlank character := by
    rw [List.dropWhile_append]
    split
    · rename_i empty
      simp [List.isEmpty_iff.mp empty, blank]
    · rw [List.takeWhile_append]
      split
      · rename_i named
        rw [List.takeWhile_prefix _ |>.eq_of_length named]
        simp [blank]
      · rfl
  rw [firstWord?, firstWord?, same]

/-- The first word of a text ends before the blanks at its end. -/
theorem firstWord?_trimEnd (text : List Char) : firstWord? (trimEnd text) = firstWord? text := by
  induction text using List.reverseRecOn with
  | nil => rfl
  | append_singleton text last ih =>
      rw [trimEnd_concat]
      split
      · rename_i blank
        rw [ih, firstWord?_concat_blank text blank]
      · rfl

/-! ## Numbers -/

theorem isSome_digit?_of_digitsFrom? {read number : Nat} {text : List Char}
    (digits : digitsFrom? read text = some number) :
    ∀ character ∈ text, (digit? character).isSome = true := by
  induction text generalizing read with
  | nil => simp
  | cons first later ih =>
      obtain ⟨digit, found, more⟩ := Option.bind_eq_some_iff.mp digits
      intro character there
      rcases List.mem_cons.mp there with rfl | there
      · rw [found]
        rfl
      · exact ih more character there

/-- A number is written with digits, apart from a sign in front. -/
theorem not_mem_of_decimalBelow? {bound number : Nat} {text : List Char}
    (read : decimalBelow? bound text = some number) {character : Char}
    (other : digit? character = none) (unsigned : character ≠ '+') : character ∉ text := by
  have digits : ∀ text : List Char, (digitsFrom? 0 text).filter (· < bound) = some number →
      character ∉ text := by
    intro text found there
    have all := isSome_digit?_of_digitsFrom? (Option.filter_eq_some_iff.mp found).1 character there
    rw [other] at all
    cases all
  unfold decimalBelow? at read
  dsimp only at read
  split at read
  · rename_i rest
    split at read
    · cases read
    · rw [List.mem_cons, not_or]
      exact ⟨unsigned, digits rest read⟩
  · split at read
    · cases read
    · exact digits text read

end RoomCall.Text

namespace RoomCall.Description

/-! ## A line that is masked -/

section

variable {naming : String → String}

/-- A line as it is read after the names in its pairs are replaced. A name may be replaced by
nothing, and then a blank can be left at the end. -/
def shown (naming : String → String) (line : List Char) : List Char :=
  Text.trimEnd (renamed naming line)

/-- The lines of a renamed text show its lines. -/
theorem lines_renamed_shown
    (blankless : ∀ name : String, IsName name.toList →
      ∀ character ∈ (naming name).toList, isNameCharacter character = true) (text : List Char) :
    Text.lines (String.ofList (renamed naming text)) =
      (Text.lines (String.ofList text)).map (shown naming) := by
  have trimmed (piece : List Char) :
      Text.trimEnd (renamed naming piece) = shown naming (Text.trimEnd piece) := by
    induction piece using List.reverseRecOn with
    | nil => rfl
    | append_singleton piece last ih =>
        rw [Text.trimEnd_concat]
        split
        · rename_i blank
          rw [renamed_concat_blank piece blank, Text.trimEnd_concat, if_pos blank, ih]
        · rfl
  simp only [Text.lines, String.toList_ofList, pieces_renamed blankless, List.map_map]
  exact List.map_congr_left fun piece _ => trimmed piece

/-- A mark that is apart from the mark of a pair stands in a masked line where it stands in the
line. -/
theorem after?_shown {mark : List Char} (apart : IsApart mark) (kept : Text.trimEnd mark = mark)
    (line : List Char) :
    Text.after? mark (shown naming line) = (Text.after? mark line).map (shown naming) := by
  rw [shown, Text.after?_trimEnd kept, after?_renamed apart, Option.map_map]
  rfl

theorem isSome_after?_pairMark_shown (line : List Char) :
    (Text.after? pairMark (shown naming line)).isSome = (Text.after? pairMark line).isSome := by
  rw [shown, Text.after?_trimEnd (by decide), after?_pairMark_renamed, Option.isSome_map,
    Option.isSome_map]

/-- A line without the mark of a pair is taken over. -/
theorem renamed_of_unmarked {text : List Char} (unmarked : ¬pairMark <:+: text) :
    renamed naming text = text := by
  induction text using segments.induct with
  | case1 => exact renamed_nil
  | case2 character later stream track rest found ih =>
      have starts : pairMark <+: character :: later :=
        (pairAt?_eq_some_iff.mp found).1 ▸ List.prefix_append pairMark _
      exact absurd starts.isInfix unmarked
  | case3 character later found ih =>
      rw [renamed_cons found, ih fun inside => unmarked ?_]
      exact inside.trans (List.suffix_cons _ _).isInfix

/-- A text that has no character of the start of a mark is shown exactly by itself. -/
theorem shown_eq_iff {text word : List Char} (plain : ∀ character ∈ word, character ≠ 'm')
    (kept : Text.trimEnd word = word) (trimmed : Text.trimEnd text = text) :
    shown naming text = word ↔ text = word := by
  have still {plainText : List Char} (plain : ∀ character ∈ plainText, character ≠ 'm') :
      renamed naming plainText = plainText := by
    have whole := @renamed_append_of_plain naming plainText plain []
    rwa [renamed_nil, List.append_nil] at whole
  constructor
  · intro same
    obtain ⟨blanks, all, whole⟩ := Text.exists_trimEnd (renamed naming text)
    rw [← shown, same] at whole
    obtain ⟨rest, rfl, fromRest⟩ := append_of_renamed plain whole
    have other : ∀ character ∈ blanks, character ≠ 'm' := by
      rintro character there rfl
      exact absurd (all _ there) (by decide)
    obtain ⟨none, rfl, empty⟩ := append_of_renamed other
      (fromRest.trans (List.append_nil blanks).symm)
    have nothing : none = [] := by
      have heads : (renamed naming none).head? = none.head? := head?_renamed none
      rw [empty] at heads
      simpa using heads.symm
    rw [nothing, List.append_nil, Text.trimEnd_append_blanks word all, kept] at trimmed
    rw [nothing, List.append_nil, ← trimmed]
  · rintro rfl
    rw [shown, still plain, trimmed]

/-- The first word of a masked text is the one of the text, or both have the mark of a pair
inside. -/
theorem firstWord?_shown (text : List Char) :
    Text.firstWord? (shown naming text) = Text.firstWord? text ∨
      ∃ word other, Text.firstWord? text = some word ∧
        Text.firstWord? (shown naming text) = some other ∧ pairMark <:+: word ∧
        pairMark <:+: other := by
  rw [shown, Text.firstWord?_trimEnd]
  cases first : Text.firstWord? text with
  | none =>
      left
      rw [← Option.not_isSome_iff_eq_none, isSome_firstWord?_renamed, first]
      simp
  | some word =>
      obtain ⟨other, found, same | ⟨marked, stillMarked⟩⟩ := exists_firstWord?_renamed first
      · exact .inl (same ▸ found)
      · exact .inr ⟨word, other, rfl, found, marked, stillMarked⟩

theorem firstNumber?_of_marked {text word : List Char} (first : Text.firstWord? text = some word)
    (marked : pairMark <:+: word) : firstNumber? text = none := by
  have inside : 'm' ∈ word := marked.subset (by decide)
  rw [firstNumber?, first, Option.bind_eq_bind, Option.bind_some, Option.eq_none_iff_forall_ne_some]
  intro number read
  exact Text.not_mem_of_decimalBelow? read (by decide) (by decide) inside

theorem firstNumber?_shown (text : List Char) :
    firstNumber? (shown naming text) = firstNumber? text := by
  rcases @firstWord?_shown naming text with same | ⟨word, other, first, found, marked, stillMarked⟩
  · rw [firstNumber?, firstNumber?, same]
  · rw [firstNumber?_of_marked first marked, firstNumber?_of_marked found stillMarked]

end

/-! ## What a section says -/

/-- What a section says, apart from the streams and the codecs that it names. -/
structure Outline where
  kind : Option Medium
  sources : List Nat
  receiveOnly : Bool
  sendOnly : Bool
  hasCandidates : Bool
  deriving DecidableEq, Repr

/-- What this section says, apart from the streams and the codecs that it names. -/
def Section.outline (current : Section) : Outline where
  kind := current.kind?
  sources := current.sources
  receiveOnly := current.receiveOnly
  sendOnly := current.sendOnly
  hasCandidates := current.hasCandidates

/-- The attribute, unless it names a stream or a codec. -/
def Attribute.outlined? : Attribute → Option Attribute
  | .codec _ | .stream _ => none
  | given => some given

/-- The codec mapping that an attribute gives, if it gives one. -/
def Attribute.mapping? : Attribute → Option String
  | .codec mapping => some mapping
  | _ => none

namespace Outline

/-- The outline with one more attribute. -/
def add (outline : Outline) : Attribute → Outline
  | .source number =>
      if outline.sources.contains number then outline
      else { outline with sources := outline.sources ++ [number] }
  | .receiveOnly => { outline with receiveOnly := true }
  | .sendOnly => { outline with sendOnly := true }
  | .candidate => { outline with hasCandidates := true }
  | .codec _ | .stream _ => outline

end Outline

namespace Section

/-- Names of streams and codecs do not enter an outline. -/
theorem outline_add (current : Section) (given : Attribute) :
    (current.add given).outline = given.outlined?.elim current.outline current.outline.add := by
  cases given with
  | source number =>
      simp only [add, Attribute.outlined?, Option.elim, Outline.add, outline]
      split <;> rfl
  | codec | stream | receiveOnly | sendOnly | candidate => rfl

theorem outline_addLine (current : Section) (line : List Char) :
    (current.addLine line).outline =
      (Attribute.ofLine? line >>= Attribute.outlined?).elim current.outline current.outline.add := by
  rw [addLine]
  cases Attribute.ofLine? line with
  | none => rfl
  | some given => exact outline_add current given

theorem codecs_addLine (current : Section) (line : List Char) :
    (current.addLine line).codecs =
      current.codecs ++ (Attribute.ofLine? line >>= Attribute.mapping?).toList := by
  rw [addLine]
  cases Attribute.ofLine? line with
  | none => simp
  | some given =>
      cases given with
      | source number =>
          simp only [add]
          split <;> simp [Attribute.mapping?]
      | codec | stream | receiveOnly | sendOnly | candidate => simp [add, Attribute.mapping?]

theorem kind?_addLine (current : Section) (line : List Char) :
    (current.addLine line).kind? = current.kind? :=
  congrArg Outline.kind (outline_addLine current line) |>.trans <| by
    cases Attribute.ofLine? line >>= Attribute.outlined? with
    | none => rfl
    | some given =>
        cases given with
        | source number =>
            simp only [Option.elim, Outline.add]
            split <;> rfl
        | codec | stream | receiveOnly | sendOnly | candidate => rfl

end Section

section

variable {naming : String → String}

/-- A masked line has the attribute of the line, unless that names a stream or a codec. -/
theorem outlined?_ofText?_shown {text : List Char} (trimmed : Text.trimEnd text = text) :
    (Attribute.ofText? (shown naming text) >>= Attribute.outlined?) =
      (Attribute.ofText? text >>= Attribute.outlined?) := by
  have found {mark : String} (apart : IsApart mark.toList)
      (kept : Text.trimEnd mark.toList = mark.toList) :
      after? mark (shown naming text) = (after? mark text).map (shown naming) :=
    after?_shown apart kept text
  have announced : (after? "msid:" (shown naming text)).isSome = (after? "msid:" text).isSome :=
    isSome_after?_pairMark_shown text
  have receiving : shown naming text = "recvonly".toList ↔ text = "recvonly".toList :=
    shown_eq_iff (by simp) (by decide) trimmed
  have sending : shown naming text = "sendonly".toList ↔ text = "sendonly".toList :=
    shown_eq_iff (by simp) (by decide) trimmed
  have silent (word : Option (List Char)) :
      ((word.map fun name => Attribute.stream (String.ofList name)) >>= Attribute.outlined?) =
        none := by
    cases word <;> rfl
  rw [Attribute.ofText?, Attribute.ofText?, found (by decide) (by decide)]
  cases after? "rtpmap:" text with
  | some rest => rfl
  | none =>
      cases marked : after? "msid:" text with
      | some rest =>
          rw [marked] at announced
          obtain ⟨other, there⟩ := Option.isSome_iff_exists.mp announced
          rw [there]
          exact (silent (Text.firstWord? other)).trans (silent (Text.firstWord? rest)).symm
      | none =>
          rw [marked, Option.isSome_none, Option.isSome_eq_false_iff, Option.isNone_iff_eq_none]
            at announced
          rw [announced, found (by decide) (by decide)]
          cases after? "ssrc:" text with
          | some rest =>
              simp only [Option.map_none, Option.map_some, firstNumber?_shown]
          | none =>
              simp only [Option.map_none, found (by decide : IsApart "candidate:".toList) (by decide),
                Option.isSome_map, receiving, sending]

theorem trimEnd_of_after? {mark line rest : List Char} (kept : Text.trimEnd mark = mark)
    (trimmed : Text.trimEnd line = line) (found : Text.after? mark line = some rest) :
    Text.trimEnd rest = rest := by
  have same := Text.after?_trimEnd kept line
  rw [trimmed, found, Option.map_some, Option.some_inj] at same
  exact same.symm

theorem outlined?_ofLine?_shown {line : List Char} (trimmed : Text.trimEnd line = line) :
    (Attribute.ofLine? (shown naming line) >>= Attribute.outlined?) =
      (Attribute.ofLine? line >>= Attribute.outlined?) := by
  have opened : after? "a=" (shown naming line) = (after? "a=" line).map (shown naming) :=
    after?_shown (by decide) (by decide) line
  rw [Attribute.ofLine?, Attribute.ofLine?, opened]
  cases found : after? "a=" line with
  | none => rfl
  | some text => exact outlined?_ofText?_shown (trimEnd_of_after? (by decide) trimmed found)

theorem after?_append (first second text : List Char) :
    Text.after? (first ++ second) text = (Text.after? first text >>= Text.after? second) := by
  induction first generalizing text with
  | nil => rfl
  | cons expected first ih =>
      cases text with
      | nil => rfl
      | cons character later =>
          simp only [List.cons_append, Text.after?]
          split
          · exact ih later
          · rfl

/-- The codec lines of a description are those with one mark. -/
theorem mapping?_ofLine? (line : List Char) :
    (Attribute.ofLine? line >>= Attribute.mapping?) =
      (after? "a=rtpmap:" line).map String.ofList := by
  have split : after? "a=rtpmap:" line = (after? "a=" line >>= after? "rtpmap:") :=
    after?_append "a=".toList "rtpmap:".toList line
  rw [split, Attribute.ofLine?]
  cases after? "a=" line with
  | none => rfl
  | some text =>
      change (Attribute.ofText? text >>= Attribute.mapping?) =
        (after? "rtpmap:" text).map String.ofList
      rw [Attribute.ofText?]
      cases after? "rtpmap:" text with
      | some rest => rfl
      | none =>
          cases after? "msid:" text with
          | some rest => cases word : Text.firstWord? rest <;> simp [word, Attribute.mapping?]
          | none =>
              cases after? "ssrc:" text with
              | some rest => cases number : firstNumber? rest <;> simp [number, Attribute.mapping?]
              | none =>
                  dsimp only [Option.map_none]
                  split_ifs <;> rfl

/-- A codec line without a pair is shown as it is. -/
theorem mapping?_ofLine?_shown {line : List Char} (trimmed : Text.trimEnd line = line)
    (unmarked : (after? "a=rtpmap:" line).isSome = true → ¬pairMark <:+: line) :
    (Attribute.ofLine? (shown naming line) >>= Attribute.mapping?) =
      (Attribute.ofLine? line >>= Attribute.mapping?) := by
  rw [mapping?_ofLine?, mapping?_ofLine?]
  cases found : after? "a=rtpmap:" line with
  | none =>
      have apart : after? "a=rtpmap:" (shown naming line) = _ :=
        after?_shown (by decide) (by decide) line
      rw [apart]
      change ((after? "a=rtpmap:" line).map (shown naming)).map String.ofList = _
      rw [found]
      rfl
  | some mapping =>
      rw [shown, renamed_of_unmarked (unmarked (by rw [found]; rfl)), trimmed, found]

/-- A masked line opens a section of the kind that the line opens. -/
theorem kind?_opened?_shown (line : List Char) :
    (Section.opened? (shown naming line)).map Section.kind? =
      (Section.opened? line).map Section.kind? := by
  have opened : after? "m=" (shown naming line) = (after? "m=" line).map (shown naming) :=
    after?_shown (by decide) (by decide) line
  have other {word : List Char} (marked : pairMark <:+: word) :
      ({ medium := String.ofList word } : Section).kind? = none := by
    have differs {name : String} (unmarked : ¬pairMark <:+: name.toList) :
        String.ofList word ≠ name := by
      rintro rfl
      exact unmarked (by rwa [String.toList_ofList])
    rw [Section.kind?, if_neg (differs (by decide)), if_neg (differs (by decide))]
  rw [Section.opened?, Section.opened?, opened]
  cases after? "m=" line with
  | none => rfl
  | some text =>
      simp only [Option.map_some]
      rcases @firstWord?_shown naming text with
        same | ⟨word, found, first, there, marked, stillMarked⟩
      · rw [same]
      · rw [first, there, Option.getD_some, Option.getD_some, other marked, other stillMarked]

end

/-! ## Sections -/

/-- What is observed of the sections does not change if the lines change in a way that is not
observed. -/
theorem map_sectionsFrom_congr {β : Type} {observe : Section → β}
    {change : List Char → List Char} {lines : List (List Char)}
    (opens : ∀ line, (Section.opened? (change line)).map observe =
      (Section.opened? line).map observe)
    (adds : ∀ line ∈ lines, ∀ current other : Section, observe current = observe other →
      observe (current.addLine (change line)) = observe (other.addLine line))
    {current other : Option Section} (same : current.map observe = other.map observe) :
    (sectionsFrom current (lines.map change)).map observe =
      (sectionsFrom other lines).map observe := by
  induction lines generalizing current other with
  | nil => cases current <;> cases other <;> simp_all [sectionsFrom]
  | cons line later ih =>
      have onward := fun next inside => adds next (List.mem_cons_of_mem line inside)
      have closed : current.toList.map observe = other.toList.map observe := by
        cases current <;> cases other <;> simp_all
      have alike := opens line
      rw [List.map_cons, sectionsFrom, sectionsFrom]
      cases before : Section.opened? line with
      | some opened =>
          rw [before, Option.map_some, Option.map_eq_some_iff] at alike
          obtain ⟨shown, after, looks⟩ := alike
          have further : (some shown).map observe = (some opened).map observe :=
            congrArg some looks
          simp only [after, List.map_append, closed, ih onward further]
      | none =>
          rw [before, Option.map_none, Option.map_eq_none_iff] at alike
          rw [alike]
          refine ih onward ?_
          cases current with
          | none => cases other <;> simp_all
          | some current =>
              cases other with
              | none => simp at same
              | some other =>
                  exact congrArg some (adds line List.mem_cons_self current other (by simpa using same))

section

variable {naming : String → String}
  (blankless : ∀ name : String, IsName name.toList →
    ∀ character ∈ (naming name).toList, isNameCharacter character = true)
include blankless

/-- The sections of a renamed description are read from what its lines show. -/
theorem sections_renamed (description : String) :
    sections (String.ofList (renamed naming description.toList)) =
      sectionsFrom none ((Text.lines description).map (shown naming)) := by
  rw [sections, lines_renamed_shown blankless, String.ofList_toList]

theorem outline_renamed (description : String) :
    (sections (String.ofList (renamed naming description.toList))).map Section.outline =
      (sections description).map Section.outline := by
  rw [sections_renamed blankless]
  refine map_sectionsFrom_congr (fun line => ?_) (fun line inside current other same => ?_) rfl
  · -- A section that has just been opened says nothing but its kind.
    have ofKind (line : List Char) : (Section.opened? line).map Section.outline =
        ((Section.opened? line).map Section.kind?).map fun kind => ⟨kind, [], false, false, false⟩ := by
      rw [Option.map_map]
      refine Option.map_congr fun opened opens => ?_
      rw [eq_of_opened? opens]
      rfl
    rw [ofKind, ofKind, kind?_opened?_shown]
  · rw [Section.outline_addLine, Section.outline_addLine, same,
      outlined?_ofLine?_shown (Text.trimEnd_of_mem_lines inside)]

/-- Without a pair in its codec lines, a renamed description also has the same codecs. -/
theorem codecs_renamed {description : String}
    (unmarked : ∀ line ∈ Text.lines description,
      (after? "a=rtpmap:" line).isSome = true → ¬pairMark <:+: line) :
    (sections (String.ofList (renamed naming description.toList))).map
        (fun current => (current.kind?, current.codecs)) =
      (sections description).map fun current => (current.kind?, current.codecs) := by
  rw [sections_renamed blankless]
  refine map_sectionsFrom_congr (fun line => ?_) (fun line inside current other same => ?_) rfl
  · have ofKind (line : List Char) :
        (Section.opened? line).map (fun current => (current.kind?, current.codecs)) =
          ((Section.opened? line).map Section.kind?).map fun kind => (kind, []) := by
      rw [Option.map_map]
      refine Option.map_congr fun opened opens => ?_
      rw [eq_of_opened? opens]
      rfl
    rw [ofKind, ofKind, kind?_opened?_shown]
  · obtain ⟨kind, codecs⟩ := Prod.mk.inj same
    rw [Section.kind?_addLine, Section.kind?_addLine, Section.codecs_addLine,
      Section.codecs_addLine, kind, codecs,
      mapping?_ofLine?_shown (Text.trimEnd_of_mem_lines inside) (unmarked line inside)]

end

theorem hasInlineCandidates_eq (description : String) :
    hasInlineCandidates description =
      ((sections description).map Section.outline).any Outline.hasCandidates := by
  rw [hasInlineCandidates, List.any_map]
  rfl

/-- Whether the audio is compatible is decided by the kinds and the codecs of the sections. -/
theorem hasCompatibleAudio_congr {first second : String}
    (same : (sections first).map (fun current => (current.kind?, current.codecs)) =
      (sections second).map fun current => (current.kind?, current.codecs)) :
    hasCompatibleAudio first = hasCompatibleAudio second := by
  have ofView (description : String) : hasCompatibleAudio description =
      ((((sections description).map fun current => (current.kind?, current.codecs)).find?
        fun seen => seen.1 = some .audio).any fun seen =>
          (({ medium := "", codecs := seen.2 } : Section).payloadType? requiredCodec).isSome) := by
    rw [hasCompatibleAudio, List.find?_map]
    simp only [Function.comp_def]
    cases (sections description).find? fun current => current.kind? = some .audio <;> rfl
  rw [ofView, ofView, same]

/-- What is put in the place of a name has no blanks, if the texts that are drawn have none. -/
theorem Masking.Orderly.blankless {start : Supply} {masking : Masking}
    (orderly : masking.Orderly start)
    (solid : ∀ index, start.used ≤ index →
      ∀ character ∈ (start.text index).toList, Text.isBlank character = false)
    {name : String} (named : IsName name.toList) :
    ∀ character ∈ (nameIn masking.table name).toList, isNameCharacter character = true := by
  by_cases known : name ∈ masking.table.map Prod.fst
  · obtain ⟨⟨key, replacement⟩, there, rfl⟩ := List.mem_map.mp known
    rw [orderly.nameIn_of_mem there]
    obtain ⟨index, lower, -, rfl⟩ :=
      orderly.mem_replacements.mp (List.mem_map.mpr ⟨_, there, rfl⟩)
    intro character inside
    simp [isNameCharacter, solid index lower character inside]
  · simpa [nameIn, find?_key_eq_none known] using named.2

/-- Masking a description does not change what the other side is told of its sections: their number
and kinds, sources and directions, and whether they carry candidates, provided that the fresh names
have no blanks. Unless a codec line has the mark of a pair, it does not change either whether the
audio is compatible. -/
theorem outline_mask {names : Supply}
    (solid : ∀ index, names.used ≤ index →
      ∀ character ∈ (names.text index).toList, Text.isBlank character = false)
    (description : String) :
    let masked := (mask names description).1.description
    (sections masked).map Section.outline = (sections description).map Section.outline ∧
      hasInlineCandidates masked = hasInlineCandidates description ∧
      ((∀ line ∈ Text.lines description,
          (after? "a=rtpmap:" line).isSome = true → ¬pairMark <:+: line) →
        hasCompatibleAudio masked = hasCompatibleAudio description) := by
  obtain ⟨final, orderly, -, -, written, -⟩ := exists_masking names description
  have blankless (name : String) (named : IsName name.toList) :=
    orderly.blankless solid named
  have spelled : (mask names description).1.description =
      String.ofList (renamed (nameIn final.table) description.toList) := by
    rw [← written, String.ofList_toList]
  have outlines := outline_renamed blankless description
  dsimp only
  rw [spelled]
  refine ⟨outlines, ?_, fun unmarked => ?_⟩
  · rw [hasInlineCandidates_eq, hasInlineCandidates_eq, outlines]
  · exact hasCompatibleAudio_congr (codecs_renamed blankless unmarked)

/-- A description with a pair in its source line. -/
def taggedDescription : String :=
  "m=audio 9 RTP 111\r\na=rtpmap:111 opus/48000\r\na=ssrc:5 msid:s t\r\na=recvonly"

theorem outline_mask_letters :
    let masked := (mask letters taggedDescription).1.description
    (sections masked).map Section.outline = [⟨some .audio, [5], true, false, false⟩] ∧
      hasInlineCandidates masked = false ∧ hasCompatibleAudio masked = true := by
  have solid : ∀ index, letters.used ≤ index →
      ∀ character ∈ (letters.text index).toList, Text.isBlank character = false := by
    intro index drawn character there
    simpa [isNameCharacter] using (namesApart_letters.named index drawn).2 character there
  have unmarked : ∀ line ∈ Text.lines taggedDescription,
      (after? "a=rtpmap:" line).isSome = true → ¬pairMark <:+: line := by decide +kernel
  obtain ⟨outlines, inline, audio⟩ := outline_mask solid taggedDescription
  refine ⟨outlines.trans ?_, inline.trans ?_, (audio unmarked).trans ?_⟩
  all_goals decide +kernel

end RoomCall.Description
