import RoomCall.Proofs.Description.Outline

/-!
# Sections are read apart from each other

Cut the lines of a description in front of every line that starts with `m=`. Each block that comes
out is read for itself: its first line gives the medium, the others are looked through for one kind
of attribute at a time, and what stands in other blocks or in front of the first one plays no part.
So there are as many sections as opening lines, and a description that is made of two, joined at a
line that opens a section, has the sections of both, whichever way its lines are ended.
-/

namespace RoomCall.Text

/-! ## Joined texts -/

/-- The lines of a text as they stand in it, with the blanks at their ends. -/
def rawLines (text : String) : List (List Char) :=
  pieces '\n' text.toList

theorem pieces_ne_nil (separator : Char) (text : List Char) : pieces separator text ≠ [] := by
  cases text with
  | nil => simp [pieces]
  | cons character later =>
      rw [pieces]
      split
      · simp
      · split <;> simp

/-- A text is cut at a separator before its parts are cut further. -/
theorem pieces_append_separator (separator : Char) (first second : List Char) :
    pieces separator (first ++ separator :: second) =
      pieces separator first ++ pieces separator second := by
  induction first with
  | nil => simp [pieces]
  | cons character later ih =>
      rw [List.cons_append, pieces, pieces, ih]
      split
      · rfl
      · cases cut : pieces separator later with
        | nil => exact absurd cut (pieces_ne_nil separator later)
        | cons piece others => rfl

/-- A blank at the end of a text is at the end of its last line. -/
theorem trimmed_pieces_concat (text : List Char) {last : Char} (blank : isBlank last = true)
    (other : last ≠ '\n') :
    (pieces '\n' (text ++ [last])).map trimEnd = (pieces '\n' text).map trimEnd := by
  induction text with
  | nil => simp [pieces, other, trimEnd, blank]
  | cons character later ih =>
      rw [List.cons_append, pieces, pieces]
      split
      · rw [List.map_cons, List.map_cons, ih]
      · cases cut : pieces '\n' later with
        | nil => exact absurd cut (pieces_ne_nil '\n' later)
        | cons piece others =>
            cases longer : pieces '\n' (later ++ [last]) with
            | nil => exact absurd longer (pieces_ne_nil '\n' (later ++ [last]))
            | cons front behind =>
                rw [cut, longer, List.map_cons, List.map_cons] at ih
                obtain ⟨same, rest⟩ := List.cons.inj ih
                simp only [List.map_cons, rest, trimEnd, same]

theorem lines_eq_trimmed (text : String) : lines text = (rawLines text).map trimEnd :=
  rfl

/-- The lines of two texts that a line ending joins are those of the first and those of the
second. -/
theorem lines_append (first second : String) {newline : String}
    (ends : newline = "\n" ∨ newline = "\r\n") :
    lines (first ++ newline ++ second) = lines first ++ lines second := by
  rcases ends with rfl | rfl
  · have whole : (first ++ "\n" ++ second).toList = first.toList ++ '\n' :: second.toList := by
      simp
    rw [lines, lines, lines, whole, pieces_append_separator, List.map_append]
  · have whole : (first ++ "\r\n" ++ second).toList =
        (first.toList ++ ['\r']) ++ '\n' :: second.toList := by
      simp
    rw [lines, lines, lines, whole, pieces_append_separator, List.map_append,
      trimmed_pieces_concat first.toList (by decide) (by decide)]

end RoomCall.Text

namespace RoomCall.Description

/-! ## What a line says -/

/-- The codec mapping that a line gives. -/
def codecIn? (line : List Char) : Option String :=
  (after? "a=rtpmap:" line).map String.ofList

/-- The stream that a line names. A line with no word behind the mark names none. -/
def streamIn? (line : List Char) : Option String :=
  after? "a=msid:" line >>= firstName?

/-- The synchronization source that a line names. A line without a number names none. -/
def sourceIn? (line : List Char) : Option Nat :=
  after? "a=ssrc:" line >>= firstNumber?

/-- Whether a line says that the sender of the description only receives. -/
def isReceiveOnly (line : List Char) : Bool :=
  line = "a=recvonly".toList

/-- Whether a line says that the sender of the description only sends. -/
def isSendOnly (line : List Char) : Bool :=
  line = "a=sendonly".toList

/-- Whether a line offers a candidate. -/
def isCandidate (line : List Char) : Bool :=
  (after? "a=candidate:" line).isSome

/-! ## One kind of attribute at a time -/

/-- What stands at the start of the text of an attribute line that matters. -/
abbrev attributeMarks : List String :=
  ["rtpmap:", "msid:", "ssrc:", "candidate:", "recvonly", "sendonly"]

/-- No two of the marks start alike, so a text that starts with one starts with no other. -/
theorem silent_of_after? {mark : String} (listed : mark ∈ attributeMarks) {text rest : List Char}
    (found : after? mark text = some rest) :
    ∀ other ∈ attributeMarks, other ≠ mark → after? other text = none := by
  have apart : ∀ one ∈ attributeMarks, ∀ two ∈ attributeMarks, two ≠ one →
      ¬one.toList <+: two.toList := by decide
  intro other there different
  exact after?_eq_none_of_after?
    ⟨apart mark listed other there different, apart other there mark listed different.symm⟩ found

/-- A text is a word if nothing follows the word at its start. -/
theorem eq_word_iff {word : String} {text : List Char} :
    text = word.toList ↔ after? word text = some [] := by
  rw [after?, Text.after?_eq_some_iff, List.append_nil]

namespace Attribute

/-- An attribute is what the text of an attribute line says, however the marks are tried. -/
def IsSaid (text : List Char) : Attribute → Prop
  | .codec mapping => (after? "rtpmap:" text).map String.ofList = some mapping
  | .stream name => (after? "msid:" text >>= firstName?) = some name
  | .source number => (after? "ssrc:" text >>= firstNumber?) = some number
  | .receiveOnly => after? "recvonly" text = some []
  | .sendOnly => after? "sendonly" text = some []
  | .candidate => (after? "candidate:" text).isSome = true

theorem ofText?_eq_some_iff {text : List Char} {given : Attribute} :
    ofText? text = some given ↔ IsSaid text given := by
  simp only [ofText?, eq_word_iff]
  -- In each case the mark that is found keeps all others from being found.
  cases mapping : after? "rtpmap:" text with
  | some rest =>
      have silent := silent_of_after? (by decide) mapping
      cases given <;> simp [IsSaid, mapping, silent]
  | none =>
      cases named : after? "msid:" text with
      | some rest =>
          have silent := silent_of_after? (by decide) named
          cases given <;> simp [IsSaid, mapping, named, firstName?, silent]
      | none =>
          cases numbered : after? "ssrc:" text with
          | some rest =>
              have silent := silent_of_after? (by decide) numbered
              cases given <;> simp [IsSaid, mapping, named, numbered, silent]
          | none =>
              cases offered : after? "candidate:" text with
              | some rest =>
                  have silent := silent_of_after? (by decide) offered
                  cases given <;>
                    simp [IsSaid, mapping, named, numbered, offered, silent]
              | none =>
                  cases receives : after? "recvonly" text with
                  | some rest =>
                      have silent := silent_of_after? (by decide) receives
                      cases rest <;> cases given <;>
                        simp [IsSaid, mapping, named, numbered, offered, receives, silent]
                  | none =>
                      cases given <;>
                        simp [IsSaid, mapping, named, numbered, offered, receives]

theorem ofLine?_eq_some_iff {line : List Char} {given : Attribute} :
    ofLine? line = some given ↔ ∃ text, after? "a=" line = some text ∧ IsSaid text given := by
  rw [ofLine?, Option.bind_eq_bind, Option.bind_eq_some_iff]
  simp only [ofText?_eq_some_iff]

/-- The synchronization source that an attribute names, if it names one. -/
def number? : Attribute → Option Nat
  | .source number => some number
  | _ => none

end Attribute

/-- What an attribute line says stands behind the mark of attribute lines. -/
theorem after?_attribute (mark : String) (line : List Char) :
    Text.after? ("a=".toList ++ mark.toList) line = (after? "a=" line >>= after? mark) :=
  after?_append "a=".toList mark.toList line

theorem streamIn?_eq (line : List Char) :
    streamIn? line = (Attribute.ofLine? line >>= Attribute.stream?) := by
  have split : streamIn? line = (after? "a=" line >>= after? "msid:" >>= firstName?) :=
    congrArg (· >>= firstName?) (after?_attribute "msid:" line)
  rw [split, Attribute.ofLine?]
  cases after? "a=" line with
  | none => rfl
  | some text => exact (Attribute.stream?_ofText? text).symm

theorem sourceIn?_eq (line : List Char) :
    sourceIn? line = (Attribute.ofLine? line >>= Attribute.number?) := by
  have split : sourceIn? line = (after? "a=" line >>= after? "ssrc:" >>= firstNumber?) :=
    congrArg (· >>= firstNumber?) (after?_attribute "ssrc:" line)
  refine Option.ext fun number => ?_
  have told : (Attribute.ofLine? line >>= Attribute.number?) = some number ↔
      Attribute.ofLine? line = some (.source number) := by
    rw [Option.bind_eq_bind, Option.bind_eq_some_iff]
    constructor
    · rintro ⟨given, found, named⟩
      cases given <;> simp_all [Attribute.number?]
    · intro found
      exact ⟨_, found, rfl⟩
  rw [told, Attribute.ofLine?_eq_some_iff, split]
  cases after? "a=" line <;> simp [Attribute.IsSaid]

theorem eq_attribute_iff (word : String) (line : List Char) :
    line = "a=".toList ++ word.toList ↔
      ∃ text, after? "a=" line = some text ∧ after? word text = some [] := by
  rw [← Option.bind_eq_some_iff, ← Option.bind_eq_bind, ← after?_attribute,
    Text.after?_eq_some_iff, List.append_nil]

theorem isReceiveOnly_eq (line : List Char) :
    isReceiveOnly line = decide (Attribute.ofLine? line = some .receiveOnly) := by
  rw [isReceiveOnly, decide_eq_decide, Attribute.ofLine?_eq_some_iff]
  exact eq_attribute_iff "recvonly" line

theorem isSendOnly_eq (line : List Char) :
    isSendOnly line = decide (Attribute.ofLine? line = some .sendOnly) := by
  rw [isSendOnly, decide_eq_decide, Attribute.ofLine?_eq_some_iff]
  exact eq_attribute_iff "sendonly" line

theorem isCandidate_eq (line : List Char) :
    isCandidate line = decide (Attribute.ofLine? line = some .candidate) := by
  have split : isCandidate line = (after? "a=" line >>= after? "candidate:").isSome :=
    congrArg Option.isSome (after?_attribute "candidate:" line)
  rw [split, Bool.eq_iff_iff, decide_eq_true_iff, Attribute.ofLine?_eq_some_iff]
  cases after? "a=" line <;> simp [Attribute.IsSaid]

/-! ## Blocks -/

/-- A line opens a section. -/
def Opens (line : List Char) : Prop :=
  "m=".toList <+: line

instance : DecidablePred Opens :=
  fun line => inferInstanceAs (Decidable ("m=".toList <+: line))

/-- Lines that are cut in front of those that open a section. -/
structure Cut (lines front : List (List Char)) (blocks : List (List Char × List (List Char))) :
    Prop where
  whole : lines = front ++ blocks.flatMap fun block => block.1 :: block.2
  before : ∀ line ∈ front, ¬Opens line
  starts : ∀ block ∈ blocks, Opens block.1
  inside : ∀ block ∈ blocks, ∀ line ∈ block.2, ¬Opens line

/-- All lines can be cut, and nothing but the lines decides where. -/
theorem exists_cut (lines : List (List Char)) : ∃ front blocks, Cut lines front blocks := by
  induction lines with
  | nil => exact ⟨[], [], by constructor <;> simp⟩
  | cons line later ih =>
      obtain ⟨front, blocks, cut⟩ := ih
      by_cases opens : Opens line
      · refine ⟨[], (line, front) :: blocks, ?_, by simp, ?_, ?_⟩
        · simp [cut.whole]
        · simpa [opens] using cut.starts
        · intro block there
          rcases List.mem_cons.mp there with rfl | there
          · exact cut.before
          · exact cut.inside block there
      · refine ⟨line :: front, blocks, ?_, ?_, cut.starts, cut.inside⟩
        · simp [cut.whole]
        · simpa [opens] using cut.before

namespace Cut

variable {lines front : List (List Char)} {blocks : List (List Char × List (List Char))}

/-- There is one block for each line that opens a section. -/
theorem length_blocks (cut : Cut lines front blocks) :
    blocks.length = lines.countP fun line => decide (Opens line) := by
  have none {body : List (List Char)} (plain : ∀ line ∈ body, ¬Opens line) :
      (body.countP fun line => decide (Opens line)) = 0 := by
    rw [List.countP_eq_zero]
    simpa using plain
  have one : ∀ block ∈ blocks,
      ((List.countP fun line => decide (Opens line)) ∘ fun block : List Char × List (List Char) =>
        block.1 :: block.2) block = 1 := by
    intro block there
    rw [Function.comp_apply, List.countP_cons, none (cut.inside block there),
      if_pos (by simpa using cut.starts block there)]
  rw [cut.whole, List.countP_append, none cut.before, List.countP_flatMap,
    List.map_congr_left one, Nat.zero_add]
  simp

end Cut

namespace Section

/-- A section by its own lines, with each kind of attribute taken by itself. -/
def ofLines (medium : String) (body : List (List Char)) : Section where
  medium := medium
  codecs := body.filterMap codecIn?
  stream := body.findSome? streamIn?
  sources := (body.filterMap sourceIn?).eraseDups
  receiveOnly := body.any isReceiveOnly
  sendOnly := body.any isSendOnly
  hasCandidates := body.any isCandidate

/-- A number at the end counts if it was not there before. -/
theorem eraseDups_concat (numbers : List Nat) (number : Nat) :
    (numbers ++ [number]).eraseDups =
      if numbers.eraseDups.contains number then numbers.eraseDups
      else numbers.eraseDups ++ [number] := by
  have alone : [number].eraseDups = [number] := by simp [List.eraseDups_cons]
  by_cases known : number ∈ numbers <;>
    simp [List.eraseDups_append, List.removeAll, known, alone]

/-- One more line adds what it says, whichever kind of attribute that is. -/
theorem ofLines_concat (medium : String) (body : List (List Char)) (line : List Char) :
    ofLines medium (body ++ [line]) = (ofLines medium body).addLine line := by
  have codec : codecIn? line = _ := (mapping?_ofLine? line).symm
  simp only [ofLines, addLine, List.filterMap_append, List.findSome?_append, List.any_append]
  simp only [List.filterMap_cons, List.findSome?_cons, List.any_cons, codec, streamIn?_eq,
    sourceIn?_eq, isReceiveOnly_eq, isSendOnly_eq, isCandidate_eq]
  cases Attribute.ofLine? line with
  | none => simp
  | some given =>
      cases given with
      | source number =>
          simp [add, Attribute.mapping?, Attribute.stream?, Attribute.number?, eraseDups_concat]
          split <;> simp
      | codec | stream | receiveOnly | sendOnly | candidate =>
          simp [add, Attribute.mapping?, Attribute.stream?, Attribute.number?]

/-- What the lines add one after the other is what they say kind by kind. -/
theorem foldl_addLine (medium : String) (body : List (List Char)) :
    body.foldl addLine { medium := medium } = ofLines medium body := by
  induction body using List.reverseRecOn with
  | nil => rfl
  | append_singleton body line ih =>
      rw [List.foldl_append, ih, ofLines_concat]
      rfl

/-- A section by the lines of its block. -/
def ofBlock (block : List Char × List (List Char)) : Section :=
  ofLines (String.ofList ((Text.firstWord? (block.1.drop 2)).getD [])) (block.2.map Text.trimEnd)

end Section

/-! ## Reading blocks -/

/-- Whether a line opens a section does not hang on the blanks at its end. -/
theorem opened?_trimEnd (line : List Char) :
    Section.opened? (Text.trimEnd line) =
      if Opens line then some { medium := String.ofList ((Text.firstWord? (line.drop 2)).getD []) }
      else none := by
  have found : after? "m=" (Text.trimEnd line) = (after? "m=" line).map Text.trimEnd :=
    Text.after?_trimEnd (by decide) line
  rw [Section.opened?, found]
  split
  · rename_i opens
    obtain ⟨rest, rfl⟩ := opens
    have behind : after? "m=" ("m=".toList ++ rest) = some rest := Text.after?_eq_some_iff.mpr rfl
    have left : ("m=".toList ++ rest).drop 2 = rest := rfl
    rw [behind, left, Option.map_some, Option.map_some, Text.firstWord?_trimEnd]
  · rename_i closed
    have absent : after? "m=" line = none := by
      rw [Option.eq_none_iff_forall_ne_some]
      intro rest there
      exact closed ⟨rest, (Text.after?_eq_some_iff.mp there).symm⟩
    rw [absent]
    rfl

/-- Lines that open no section go to the one that is open. -/
theorem sectionsFrom_plain {body : List (List Char)} (plain : ∀ line ∈ body, ¬Opens line)
    (current : Option Section) (later : List (List Char)) :
    sectionsFrom current (body.map Text.trimEnd ++ later) =
      sectionsFrom
        (current.map fun current => (body.map Text.trimEnd).foldl Section.addLine current)
        later := by
  induction body generalizing current with
  | nil => simp
  | cons line body ih =>
      have closed : Section.opened? (Text.trimEnd line) = none := by
        rw [opened?_trimEnd, if_neg (plain line List.mem_cons_self)]
      rw [List.map_cons, List.cons_append, sectionsFrom, closed]
      rw [ih fun other there => plain other (List.mem_cons_of_mem line there), Option.map_map]
      rfl

/-- Each block becomes a section of its own, behind the one that is open. -/
theorem sectionsFrom_blocks {blocks : List (List Char × List (List Char))}
    (starts : ∀ block ∈ blocks, Opens block.1)
    (inside : ∀ block ∈ blocks, ∀ line ∈ block.2, ¬Opens line) (current : Option Section) :
    sectionsFrom current
        ((blocks.flatMap fun block => block.1 :: block.2).map Text.trimEnd) =
      current.toList ++ blocks.map Section.ofBlock := by
  induction blocks generalizing current with
  | nil => simp [sectionsFrom]
  | cons block blocks ih =>
      have opened := opened?_trimEnd block.1
      rw [if_pos (starts block List.mem_cons_self)] at opened
      have further := ih (fun other there => starts other (List.mem_cons_of_mem block there))
        fun other there => inside other (List.mem_cons_of_mem block there)
      rw [List.flatMap_cons, List.cons_append, List.map_cons, sectionsFrom, opened]
      dsimp only
      rw [List.map_append, sectionsFrom_plain (inside block List.mem_cons_self), further,
        Option.map_some, Section.foldl_addLine]
      rfl

/-- The sections of a description are those of its blocks. -/
theorem sections_of_cut {description : String} {front : List (List Char)}
    {blocks : List (List Char × List (List Char))}
    (cut : Cut (Text.rawLines description) front blocks) :
    sections description = blocks.map Section.ofBlock := by
  rw [sections, Text.lines_eq_trimmed, cut.whole, List.map_append, sectionsFrom_plain cut.before,
    sectionsFrom_blocks cut.starts cut.inside]
  rfl

/-! ## Joined descriptions -/

/-- Lines that start with an opening line are read as if nothing stood in front of them. -/
theorem sectionsFrom_append (current : Option Section) (lines : List (List Char))
    {first : List Char} (opens : (Section.opened? first).isSome = true) (later : List (List Char)) :
    sectionsFrom current (lines ++ first :: later) =
      sectionsFrom current lines ++ sectionsFrom none (first :: later) := by
  induction lines generalizing current with
  | nil =>
      obtain ⟨opened, found⟩ := Option.isSome_iff_exists.mp opens
      simp [sectionsFrom, found]
  | cons line lines ih =>
      rw [List.cons_append, sectionsFrom, sectionsFrom]
      cases Section.opened? line with
      | some opened => simp only [ih, List.append_assoc]
      | none => exact ih _

/-- A text that starts with the mark of a section has a first line that opens one. -/
theorem exists_first_of_opens {text : String} (opens : Opens text.toList) :
    ∃ first later, Text.lines text = first :: later ∧ (Section.opened? first).isSome = true := by
  obtain ⟨rest, whole⟩ := opens
  cases cut : Text.pieces '\n' rest with
  | nil => exact absurd cut (Text.pieces_ne_nil '\n' rest)
  | cons piece others =>
      refine ⟨Text.trimEnd ("m=".toList ++ piece), others.map Text.trimEnd, ?_, ?_⟩
      · rw [Text.lines, ← whole]
        simp [Text.pieces, cut]
      · have opening : Opens ("m=".toList ++ piece) := List.prefix_append _ piece
        rw [opened?_trimEnd, if_pos opening]
        rfl

/-- A description is read block by block: its lines can be cut in front of those that open a
section, and each section is what its own block says. There are as many sections as opening lines,
a description that is joined to another one at an opening line has the sections of both, and lines
in front of the first opening line add nothing. -/
theorem sections_blockwise (description : String) :
    (∃ front blocks, Cut (Text.rawLines description) front blocks ∧
      sections description = blocks.map Section.ofBlock) ∧
    (sections description).length =
      (Text.rawLines description).countP (fun line => decide (Opens line)) ∧
    ∀ newline later, newline = "\n" ∨ newline = "\r\n" →
      (Opens later.toList →
        sections (description ++ newline ++ later) = sections description ++ sections later) ∧
      ((∀ line ∈ Text.rawLines description, ¬Opens line) →
        sections (description ++ newline ++ later) = sections later) := by
  obtain ⟨front, blocks, cut⟩ := exists_cut (Text.rawLines description)
  have read := sections_of_cut cut
  refine ⟨⟨front, blocks, cut, read⟩, ?_, ?_⟩
  · rw [read, List.length_map, cut.length_blocks]
  · intro newline later ends
    rw [sections, sections, sections, Text.lines_append description later ends]
    constructor
    · intro opens
      obtain ⟨first, others, starts, opened⟩ := exists_first_of_opens opens
      rw [starts, sectionsFrom_append none _ opened]
    · intro plain
      rw [Text.lines_eq_trimmed description, sectionsFrom_plain plain]
      rfl

theorem sections_blockwise_joined :
    let preamble := "v=0\r\na=recvonly"
    let audio := "m=audio 9 \r\na=msid: \r\na=msid: s t\na=ssrc:7 x\na=ssrc:7 y\t\r"
    let video := "m=video 9\na=recvonly"
    (Opens video.toList ∧
      sections (audio ++ "\r\n" ++ video) = sections audio ++ sections video) ∧
    ((∀ line ∈ Text.rawLines preamble, ¬Opens line) ∧
      sections (preamble ++ "\n" ++ audio) = sections audio) := by
  intro preamble audio video
  have opens : Opens video.toList := by decide
  have plain : ∀ line ∈ Text.rawLines preamble, ¬Opens line := by decide
  exact ⟨⟨opens, ((sections_blockwise audio).2.2 "\r\n" video (.inr rfl)).1 opens⟩,
    plain, ((sections_blockwise preamble).2.2 "\n" audio (.inl rfl)).2 plain⟩

example :
    sections "v=0\nm=audio 9 \r\na=msid: \r\na=msid: s t\na=ssrc:7 x\na=ssrc:7 y\t\r\nm=video 9" =
      [{ medium := "audio", stream := some "s", sources := [7] }, { medium := "video" }] := by
  decide +kernel

end RoomCall.Description
