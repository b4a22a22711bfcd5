import RoomCall.Description.Section

/-!
# Each section is read from its own lines

The lines of a description are read one after the other, with the section that is open so far.
Seen as a whole this cuts the lines into chapters: a line that opens a section, with the lines up
to the next such line. A section is what the lines of its chapter add to it, and lines in front of
the first chapter add nothing.
-/

namespace RoomCall.Description

/-- Whether a line belongs to the section that is open. -/
def continues (line : List Char) : Bool :=
  (Section.opened? line).isNone

/-- The section that each opening line opens, with the lines that continue it. -/
def chapters : List (List Char) → List (Section × List (List Char))
  | [] => []
  | line :: later =>
      match Section.opened? line with
      | some opened => (opened, later.takeWhile continues) :: chapters later
      | none => chapters later

/-- An open section is completed by the lines that continue it. -/
theorem sectionsFrom_some (current : Section) (lines : List (List Char)) :
    sectionsFrom (some current) lines =
      (lines.takeWhile continues).foldl Section.addLine current :: sectionsFrom none lines := by
  induction lines generalizing current with
  | nil => rfl
  | cons line later ih =>
      cases opens : Section.opened? line with
      | some opened => simp [sectionsFrom, continues, opens]
      | none => simp [sectionsFrom, continues, opens, ih]

/-- The sections are what the lines of the chapters make of the sections they open. -/
theorem sectionsFrom_none (lines : List (List Char)) :
    sectionsFrom none lines =
      (chapters lines).map fun chapter => chapter.2.foldl Section.addLine chapter.1 := by
  induction lines with
  | nil => rfl
  | cons line later ih =>
      cases opens : Section.opened? line with
      | some opened => simp [sectionsFrom, chapters, opens, sectionsFrom_some, ih]
      | none => simp [sectionsFrom, chapters, opens, ih]

/-- A new section has no attributes. -/
theorem eq_of_opened? {line : List Char} {opened : Section}
    (opens : Section.opened? line = some opened) : opened = { medium := opened.medium } := by
  obtain ⟨rest, -, rfl⟩ := Option.map_eq_some_iff.mp opens
  rfl

theorem eq_of_mem_chapters {lines : List (List Char)} {chapter : Section × List (List Char)}
    (there : chapter ∈ chapters lines) : chapter.1 = { medium := chapter.1.medium } := by
  induction lines with
  | nil => exact nomatch there
  | cons line later ih =>
      rw [chapters] at there
      split at there
      · rename_i opened opens
        rcases List.mem_cons.mp there with rfl | there
        · exact eq_of_opened? opens
        · exact ih there
      · exact ih there

/-- The lines of a chapter are among the lines that were read. -/
theorem mem_lines_of_mem_chapters {lines : List (List Char)}
    {chapter : Section × List (List Char)} (there : chapter ∈ chapters lines) {line : List Char}
    (inside : line ∈ chapter.2) : line ∈ lines := by
  induction lines with
  | nil => exact nomatch there
  | cons first later ih =>
      rw [chapters] at there
      split at there
      · rcases List.mem_cons.mp there with rfl | there
        · exact List.mem_cons_of_mem _ (List.takeWhile_subset _ inside)
        · exact List.mem_cons_of_mem _ (ih there)
      · exact List.mem_cons_of_mem _ (ih there)

/-- Lines that change without becoming or ceasing to be opening lines stay in their chapters. -/
theorem bodies_map {change : List Char → List Char}
    (same : ∀ line, continues (change line) = continues line) (lines : List (List Char)) :
    (chapters (lines.map change)).map Prod.snd =
      (chapters lines).map fun chapter => chapter.2.map change := by
  induction lines with
  | nil => rfl
  | cons line later ih =>
      have body : (later.map change).takeWhile continues = (later.takeWhile continues).map change := by
        rw [List.takeWhile_map]
        congr 2
        exact funext same
      have alike := same line
      rw [List.map_cons, chapters, chapters]
      cases before : Section.opened? line <;> cases after : Section.opened? (change line) <;>
        simp_all [continues]

end RoomCall.Description
