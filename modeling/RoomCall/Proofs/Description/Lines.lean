import Mathlib.Data.List.Induction
import RoomCall.Description.Section
import RoomCall.Proofs.Description.Unmasking

/-!
# Renaming goes line by line

The pairs of a text are found in it as a whole, its sections by lines that are trimmed at their
ends. No pair goes over the end of a line, and none needs the blanks there, so a text can be taken
apart before its pairs are renamed as well as afterwards: the lines of a renamed text are its
renamed lines. The marks by which lines are told apart are not touched either.
-/

namespace RoomCall.Text

/-! ## Taking a text apart -/

theorem pieces_of_not_mem {separator : Char} {text : List Char} (absent : separator ∉ text) :
    pieces separator text = [text] := by
  induction text with
  | nil => rfl
  | cons character later ih =>
      simp only [List.mem_cons, not_or] at absent
      simp [pieces, Ne.symm absent.1, ih absent.2]

theorem pieces_append_cons {separator : Char} {piece : List Char} (absent : separator ∉ piece)
    (later : List Char) :
    pieces separator (piece ++ separator :: later) = piece :: pieces separator later := by
  induction piece with
  | nil => simp [pieces]
  | cons character piece ih =>
      simp only [List.mem_cons, not_or] at absent
      simp [pieces, Ne.symm absent.1, ih absent.2]

/-- A blank at the end is dropped, and nothing is dropped in front of another character. -/
theorem trimEnd_concat (text : List Char) (last : Char) :
    trimEnd (text ++ [last]) = if isBlank last then trimEnd text else text ++ [last] := by
  induction text with
  | nil => rfl
  | cons character later ih =>
      rw [List.cons_append, trimEnd, ih]
      by_cases blank : isBlank last = true
      · simp [blank, trimEnd]
      · simp only [blank, Bool.false_eq_true, if_false]
        cases later <;> rfl

theorem infix_of_mem_pieces {separator : Char} {text piece : List Char}
    (there : piece ∈ pieces separator text) : piece <:+: text := by
  by_cases broken : separator ∈ text
  · obtain ⟨first, later, whole, absent⟩ := List.eq_append_cons_of_mem broken
    have shorter : later.length < text.length := by
      rw [whole, List.length_append, List.length_cons]
      omega
    rw [whole, pieces_append_cons absent, List.mem_cons] at there
    rw [whole]
    rcases there with rfl | there
    · exact (List.prefix_append piece _).isInfix
    · refine (infix_of_mem_pieces there).trans ?_
      exact ((List.suffix_cons separator later).trans (List.suffix_append first _)).isInfix
  · rw [pieces_of_not_mem broken, List.mem_singleton] at there
    exact there ▸ List.infix_rfl
termination_by text.length
decreasing_by
  exact shorter

theorem isPrefix_trimEnd (text : List Char) : trimEnd text <+: text := by
  induction text using List.reverseRecOn with
  | nil => exact List.prefix_rfl
  | append_singleton text last ih =>
      rw [trimEnd_concat]
      split
      · exact ih.trans (List.prefix_append text [last])
      · exact List.prefix_rfl

theorem infix_of_mem_lines {text : String} {line : List Char} (there : line ∈ lines text) :
    line <:+: text.toList := by
  obtain ⟨piece, inside, rfl⟩ := List.mem_map.mp there
  exact (isPrefix_trimEnd piece).isInfix.trans (infix_of_mem_pieces inside)

end RoomCall.Text

namespace RoomCall.Description

/-! ## Where no pair can be -/

theorem pairAt?_eq_none_of_ne {character : Char} {later : List Char} (other : character ≠ 'm') :
    pairAt? (character :: later) = none := by
  rw [pairAt?, pairMark]
  have apart : Text.after? "msid:".toList (character :: later) = none := by
    change (if 'm' = character then Text.after? "sid:".toList later else none) = none
    rw [if_neg (Ne.symm other)]
  rw [apart]

/-- A text in which no name can go on starts with none. -/
theorem EndsName.head? {text : List Char} (ends : EndsName text) :
    text.head?.any isNameCharacter = false := by
  cases first : text.head? with
  | none => rfl
  | some character => exact ends character first

/-- A name that follows in a text that goes on follows in the text itself, if what comes later
neither lengthens a name nor starts one behind a space. -/
theorem nameFollows_of_append {text later : List Char} (ends : EndsName later)
    (bare : nameFollows later = false) (follows : nameFollows (text ++ later) = true) :
    nameFollows text = true := by
  induction text with
  | nil => exact absurd (bare.symm.trans follows) (by decide)
  | cons character text ih =>
      by_cases named : isNameCharacter character = true
      · have alone : ∀ inner ∈ [character], isNameCharacter inner = true := by simpa using named
        rw [← List.singleton_append, nameFollows_append alone]
        rw [List.cons_append, ← List.singleton_append, nameFollows_append alone] at follows
        exact ih follows
      · simp only [nameFollows, List.cons_append, List.dropWhile_cons, named, Bool.false_eq_true,
          if_false] at follows ⊢
        split at follows
        · rename_i after same
          obtain ⟨rfl, rfl⟩ := List.cons.inj same
          cases text with
          | nil => exact absurd (ends.head?.symm.trans follows) (by decide)
          | cons first text => exact follows
        · exact absurd follows (by decide)

/-- A mark does not go over the end of a name. -/
theorem pairMark_prefix_of_append {text later : List Char} (ends : EndsName later)
    (starts : pairMark <+: text ++ later) : pairMark <+: text := by
  have marks : ∀ character ∈ pairMark, isNameCharacter character = true :=
    List.all_eq_true.mp (by decide)
  rcases List.prefix_or_prefix_of_prefix (List.prefix_append text later) starts with
    shorter | longer
  · obtain ⟨rest, split⟩ := shorter
    cases rest with
    | nil => rw [List.append_nil] at split; exact split ▸ List.prefix_rfl
    | cons first rest =>
        obtain ⟨behind, whole⟩ := starts
        rw [← split, List.append_assoc] at whole
        have same := List.append_cancel_left whole
        have named := marks first (by rw [← split]; simp)
        rw [ends first (by rw [← same]; simp)] at named
        exact absurd named (by decide)
  · exact longer

/-- What comes later makes no pair of characters that were none, if it neither lengthens a name
nor starts one behind a space. -/
theorem isSome_pairAt?_of_append {text later : List Char} (ends : EndsName later)
    (bare : nameFollows later = false) (found : (pairAt? (text ++ later)).isSome = true) :
    (pairAt? text).isSome = true := by
  obtain ⟨names, whole, starts, follows⟩ := isSome_pairAt?_iff.mp found
  obtain ⟨own, rfl⟩ := pairMark_prefix_of_append ends (whole ▸ List.prefix_append pairMark names)
  rw [List.append_assoc] at whole
  obtain rfl := List.append_cancel_left whole
  refine isSome_pairAt?_iff.mpr ⟨own, rfl, ?_, nameFollows_of_append ends bare follows⟩
  cases own with
  | nil => exact absurd (ends.head?.symm.trans starts) (by decide)
  | cons first own => exact starts

/-- A text is read up to such a place as if nothing came later. -/
theorem segments_append {text later : List Char} (ends : EndsName later)
    (bare : nameFollows later = false) :
    segments (text ++ later) = segments text ++ segments later := by
  induction text using segments.induct with
  | case1 => rw [segments_nil]; rfl
  | case2 character text stream track rest found ih =>
      obtain ⟨whole, streamNamed, trackNamed, stops⟩ := pairAt?_eq_some_iff.mp found
      have further : pairAt? (character :: text ++ later) = some (stream, track, rest ++ later) := by
        rw [pairAt?_eq_some_iff, whole]
        refine ⟨by simp, streamNamed, trackNamed, ?_⟩
        cases rest with
        | nil => exact ends
        | cons first rest => exact stops
      rw [segments_of_pairAt? further, segments_of_pairAt? found, ih, List.cons_append]
  | case3 character text found ih =>
      have further : pairAt? (character :: (text ++ later)) = none := by
        rw [← Option.not_isSome_iff_eq_none] at found ⊢
        exact mt (fun paired => isSome_pairAt?_of_append ends bare paired) found
      rw [List.cons_append, segments_cons further, segments_cons found, ih, List.cons_append]

theorem segments_cons_of_ne {character : Char} (other : character ≠ 'm') (later : List Char) :
    segments (character :: later) = .character character :: segments later :=
  segments_cons (pairAt?_eq_none_of_ne other)

/-- No pair goes over the end of a line. -/
theorem segments_append_break (text later : List Char) :
    segments (text ++ '\n' :: later) = segments text ++ .character '\n' :: segments later := by
  have ends : EndsName ('\n' :: later) := by
    intro character first
    obtain rfl : '\n' = character := by simpa using first
    decide
  have bare : nameFollows ('\n' :: later) = false := by
    have blank : isNameCharacter '\n' = false := by decide
    simp [nameFollows, blank]
  rw [segments_append ends bare, segments_cons_of_ne (by decide)]

/-- No pair needs a blank at its end. -/
theorem segments_concat_blank (text : List Char) {last : Char} (blank : Text.isBlank last = true) :
    segments (text ++ [last]) = segments text ++ [.character last] := by
  have unnamed : isNameCharacter last = false := by simpa [isNameCharacter] using blank
  have ends : EndsName [last] := by
    intro character first
    obtain rfl : last = character := by simpa using first
    exact unnamed
  have bare : nameFollows [last] = false := by
    simp only [nameFollows, List.dropWhile_cons, unnamed, Bool.false_eq_true, if_false]
    split <;> simp_all
  have other : last ≠ 'm' := by
    rintro rfl
    exact absurd blank (by decide)
  rw [segments_append ends bare, segments_cons_of_ne other, segments_nil]

/-- The names in a line of a text are names in the text. -/
theorem names_of_line {text line : List Char} {name : String}
    (there : line ∈ (Text.pieces '\n' text).map Text.trimEnd)
    (named : name ∈ (segments line).flatMap Segment.names) :
    name ∈ (segments text).flatMap Segment.names := by
  have trimmed (piece : List Char) : (segments (Text.trimEnd piece)).flatMap Segment.names =
      (segments piece).flatMap Segment.names := by
    induction piece using List.reverseRecOn with
    | nil => rfl
    | append_singleton piece last ih =>
        rw [Text.trimEnd_concat]
        split
        · rename_i blank
          simp [segments_concat_blank piece blank, Segment.names, ih]
        · rfl
  by_cases broken : '\n' ∈ text
  · obtain ⟨piece, later, whole, absent⟩ := List.eq_append_cons_of_mem broken
    have shorter : later.length < text.length := by
      rw [whole, List.length_append, List.length_cons]
      omega
    rw [whole, Text.pieces_append_cons absent, List.map_cons, List.mem_cons] at there
    rw [whole, segments_append_break, List.flatMap_append, List.flatMap_cons, List.mem_append,
      List.mem_append]
    rcases there with rfl | there
    · exact .inl (trimmed piece ▸ named)
    · exact .inr (.inr (names_of_line there named))
  · rw [Text.pieces_of_not_mem broken, List.map_singleton, List.mem_singleton] at there
    exact trimmed text ▸ there ▸ named
termination_by text.length
decreasing_by
  exact shorter

section

variable {naming : String → String}

theorem renamed_cons_of_ne {character : Char} (other : character ≠ 'm') (later : List Char) :
    renamed naming (character :: later) = character :: renamed naming later :=
  renamed_cons (pairAt?_eq_none_of_ne other)

theorem renamed_append_of_plain {front : List Char} (plain : ∀ character ∈ front, character ≠ 'm')
    (later : List Char) : renamed naming (front ++ later) = front ++ renamed naming later := by
  induction front with
  | nil => rfl
  | cons character front ih =>
      rw [List.cons_append, renamed_cons_of_ne (plain character (by simp)),
        ih fun other there => plain other (by simp [there]), List.cons_append]

/-! ## Lines -/

theorem renamed_append_break (text later : List Char) :
    renamed naming (text ++ '\n' :: later) =
      renamed naming text ++ '\n' :: renamed naming later := by
  simp [renamed, segments_append_break, Segment.rename, Segment.characters]

theorem renamed_concat_blank (text : List Char) {last : Char} (blank : Text.isBlank last = true) :
    renamed naming (text ++ [last]) = renamed naming text ++ [last] := by
  simp [renamed, segments_concat_blank text blank, Segment.rename, Segment.characters]

section

variable (blankless : ∀ name : String, IsName name.toList →
  ∀ character ∈ (naming name).toList, isNameCharacter character = true)
include blankless

/-- If names are replaced by texts without blanks, the blanks of a renamed text are those of the
text. -/
theorem mem_of_mem_renamed {character : Char} (blank : Text.isBlank character = true)
    {text : List Char} (there : character ∈ renamed naming text) : character ∈ text := by
  have unnamed : isNameCharacter character = false := by simpa [isNameCharacter] using blank
  induction text using segments.induct with
  | case1 => rwa [renamed_nil] at there
  | case2 first text stream track rest found ih =>
      obtain ⟨whole, streamNamed, trackNamed, -⟩ := pairAt?_eq_some_iff.mp found
      have outside : ∀ {name : String}, IsName name.toList → character ∉ (naming name).toList := by
        intro name named inside
        exact absurd (unnamed.symm.trans (blankless name named character inside)) (by decide)
      rw [renamed_of_pairAt? found] at there
      rw [whole]
      simp only [List.mem_append, List.mem_cons] at there ⊢
      have ofStream := outside streamNamed
      have ofTrack := outside trackNamed
      tauto
  | case3 first text found ih =>
      rw [renamed_cons found] at there
      rcases List.mem_cons.mp there with rfl | later
      · exact List.mem_cons_self
      · exact List.mem_cons_of_mem _ (ih later)

theorem pieces_renamed (text : List Char) :
    Text.pieces '\n' (renamed naming text) = (Text.pieces '\n' text).map (renamed naming) := by
  by_cases there : '\n' ∈ text
  · obtain ⟨line, later, whole, absent⟩ := List.eq_append_cons_of_mem there
    have shorter : later.length < text.length := by
      rw [whole, List.length_append, List.length_cons]
      omega
    have ih := pieces_renamed later
    have still := mt (mem_of_mem_renamed blankless (by decide)) absent
    rw [whole, renamed_append_break, Text.pieces_append_cons still, Text.pieces_append_cons absent, ih,
      List.map_cons]
  · have still := mt (mem_of_mem_renamed blankless (by decide)) there
    rw [Text.pieces_of_not_mem still, Text.pieces_of_not_mem there]
    rfl
termination_by text.length
decreasing_by
  exact shorter

end

variable (keeps : ∀ name : String, IsName name.toList → IsName (naming name).toList)
include keeps

/-- A blank at the end of a renamed text is the one at the end of the text. -/
theorem getLast?_of_renamed {last : Char} (blank : Text.isBlank last = true) {text : List Char}
    (ends : (renamed naming text).getLast? = some last) : text.getLast? = some last := by
  have unnamed : isNameCharacter last = false := by simpa [isNameCharacter] using blank
  induction text using segments.induct with
  | case1 => simp at ends
  | case2 first text stream track rest found ih =>
      obtain ⟨whole, -, trackNamed, -⟩ := pairAt?_eq_some_iff.mp found
      rw [renamed_of_pairAt? found] at ends
      cases later : (renamed naming rest).getLast? with
      | none =>
          have named := keeps track trackNamed
          cases final : (naming track).toList.getLast? with
          | none => exact absurd (List.getLast?_eq_none_iff.mp final) named.1
          | some character =>
              obtain rfl : character = last := by
                simpa [List.getLast?_append, List.getLast?_cons, later, final] using ends
              have there := named.2 character (List.mem_of_getLast? final)
              exact absurd (unnamed.symm.trans there) (by decide)
      | some character =>
          obtain rfl : character = last := by
            simpa [List.getLast?_append, List.getLast?_cons, later] using ends
          have further := ih later
          rw [whole]
          simp [List.getLast?_append, List.getLast?_cons, further]
  | case3 first text found ih =>
      rw [renamed_cons found, List.getLast?_cons] at ends
      rw [List.getLast?_cons]
      cases later : (renamed naming text).getLast? with
      | none =>
          have empty : text = [] := by
            have heads : (renamed naming text).head? = text.head? := head?_renamed text
            rw [List.getLast?_eq_none_iff.mp later] at heads
            simpa using heads.symm
          simpa [later, empty] using ends
      | some character =>
          obtain rfl : character = last := by simpa [later] using ends
          rw [ih later]
          rfl

/-- The blanks at the end of a text are dropped before or after it is renamed. -/
theorem trimEnd_renamed (text : List Char) :
    Text.trimEnd (renamed naming text) = renamed naming (Text.trimEnd text) := by
  induction text using List.reverseRecOn with
  | nil => rw [renamed_nil]; exact renamed_nil.symm
  | append_singleton text last ih =>
      rw [Text.trimEnd_concat]
      by_cases blank : Text.isBlank last = true
      · rw [renamed_concat_blank text blank, Text.trimEnd_concat, if_pos blank, if_pos blank, ih]
      · rw [if_neg blank]
        rcases List.eq_nil_or_concat' (renamed naming (text ++ [last])) with
          empty | ⟨front, final, whole⟩
        · rw [empty]; rfl
        · rw [whole, Text.trimEnd_concat, if_neg]
          intro finalBlank
          have same : (text ++ [last]).getLast? = some final :=
            getLast?_of_renamed keeps finalBlank (by rw [whole, List.getLast?_concat])
          obtain rfl : last = final := by simpa using same
          exact blank finalBlank

/-- The lines of a renamed text are its renamed lines. -/
theorem lines_renamed (text : List Char) :
    Text.lines (String.ofList (renamed naming text)) =
      (Text.lines (String.ofList text)).map (renamed naming) := by
  simp only [Text.lines, String.toList_ofList, pieces_renamed fun name named => (keeps name named).2,
    List.map_map]
  exact List.map_congr_left fun line _ => trimEnd_renamed keeps line

end

/-! ## Marks -/

section

variable {naming : String → String}

/-- Whether a mark can be told from the mark of a pair wherever it is met. -/
def IsApart (mark : List Char) : Prop :=
  ∀ part ∈ mark.tails, part = [] ∨ (¬part <+: pairMark ∧ ¬pairMark <+: part)

instance (mark : List Char) : Decidable (IsApart mark) :=
  inferInstanceAs (Decidable (∀ part ∈ mark.tails, _))

/-- A mark that is apart from the mark of a pair stands in a renamed text where it stands in the
text. -/
theorem after?_renamed {mark : List Char} (apart : IsApart mark) (text : List Char) :
    Text.after? mark (renamed naming text) = (Text.after? mark text).map (renamed naming) := by
  induction mark generalizing text with
  | nil => rfl
  | cons expected mark ih =>
      simp only [IsApart, List.tails, List.forall_mem_cons] at apart
      obtain ⟨here, later⟩ := apart
      have differs (rest : List Char) : Text.after? (expected :: mark) (pairMark ++ rest) = none := by
        rw [Option.eq_none_iff_forall_ne_some]
        intro after found
        have whole := Text.after?_eq_some_iff.mp found
        rcases List.prefix_or_prefix_of_prefix (List.prefix_append pairMark rest)
          (whole ▸ List.prefix_append (expected :: mark) after) with longer | shorter
        · exact (here.resolve_left (List.cons_ne_nil _ _)).2 longer
        · exact (here.resolve_left (List.cons_ne_nil _ _)).1 shorter
      cases text with
      | nil => simp [renamed_nil, Text.after?]
      | cons character text =>
          cases found : pairAt? (character :: text) with
          | some pair =>
              rw [renamed_of_pairAt? found, (pairAt?_eq_some_iff.mp found).1, differs, differs]
              rfl
          | none =>
              rw [renamed_cons found, Text.after?, Text.after?]
              split
              · exact ih later text
              · rfl

/-- What stands behind a mark in a renamed text, if a text stood there: the new names behind the
mark of a pair, and the renamed text behind any other. -/
def renamedNames (naming : String → String) (names : List Char) : List Char :=
  match pairAt? (pairMark ++ names) with
  | some (stream, track, rest) =>
      (naming stream).toList ++ ' ' :: ((naming track).toList ++ renamed naming rest)
  | none => renamed naming names

/-- The mark of a pair stands in a renamed text where it stands in the text. -/
theorem after?_pairMark_renamed (text : List Char) :
    Text.after? pairMark (renamed naming text) =
      (Text.after? pairMark text).map (renamedNames naming) := by
  cases marked : Text.after? pairMark text with
  | some names =>
      obtain rfl := Text.after?_eq_some_iff.mp marked
      rw [Option.map_some, Text.after?_eq_some_iff, renamedNames]
      cases found : pairAt? (pairMark ++ names) with
      | some pair => exact renamed_of_pairAt? found
      | none =>
          change pairAt? ('m' :: ("sid:".toList ++ names)) = none at found
          change renamed naming ('m' :: ("sid:".toList ++ names)) = _
          rw [renamed_cons found, renamed_append_of_plain plain_mark]
          rfl
  | none =>
      have unmarked (names : List Char) : text ≠ pairMark ++ names := by
        rintro rfl
        exact nomatch marked.symm.trans (Text.after?_eq_some_iff.mpr rfl)
      rw [Option.map_none, Option.eq_none_iff_forall_ne_some]
      intro after there
      have spelled : renamed naming text = 'm' :: ("sid:".toList ++ after) :=
        Text.after?_eq_some_iff.mp there
      cases text with
      | nil => simp at spelled
      | cons character later =>
          have unpaired : pairAt? (character :: later) = none := by
            rw [Option.eq_none_iff_forall_ne_some]
            intro pair found
            exact unmarked _ (pairAt?_eq_some_iff.mp found).1
          rw [renamed_cons unpaired] at spelled
          obtain ⟨rfl, behind⟩ := List.cons.inj spelled
          obtain ⟨rest, rfl, -⟩ := append_of_renamed plain_mark behind
          exact unmarked rest rfl

end

end RoomCall.Description
