import RoomCall.Description.Streams

/-!
# A masked description is not blank

Only names are replaced, and a pair of names keeps its mark. So if nothing can be read in a masked
description, nothing could be read in the description itself.
-/

namespace RoomCall.Description

/-- Whether a segment is a character that cannot be seen. -/
def Segment.isBlank : Segment → Bool
  | .character value => Text.isBlank value
  | .pair _ _ => false

/-- Only a blank segment has no characters that can be seen. -/
theorem Segment.isBlank_of_characters {segment : Segment}
    (blank : segment.characters.all Text.isBlank = true) : segment.isBlank = true := by
  cases segment with
  | character value => simpa [characters, isBlank] using blank
  | pair stream track =>
      have mark : Text.isBlank 'm' = true := by
        rw [List.all_eq_true] at blank
        apply blank
        simp [characters, pairMark]
      exact absurd mark (by decide)

/-- Replacing names leaves a segment a character or a pair. -/
theorem isBlank_replaceAll (masking : Masking) (parts : List Segment)
    (blank : ∀ part ∈ (masking.replaceAll parts).1, part.isBlank = true) :
    ∀ part ∈ parts, part.isBlank = true := by
  induction parts generalizing masking with
  | nil => simp
  | cons part later ih =>
      cases part with
      | character value =>
          simp only [Masking.replaceAll, List.mem_cons, forall_eq_or_imp] at blank ⊢
          exact ⟨blank.1, ih masking blank.2⟩
      | pair stream track =>
          simp only [Masking.replaceAll, List.mem_cons, forall_eq_or_imp] at blank
          exact absurd blank.1 (by simp [Segment.isBlank])

/-- A text whose segments are blank is blank. -/
theorem blank_of_segments (text : List Char)
    (blank : ∀ part ∈ segments text, part.isBlank = true) : text.all Text.isBlank = true := by
  induction text using segments.induct with
  | case1 => rfl
  | case2 character later stream track rest found ih =>
      rw [segments] at blank
      split at blank
      · simp only [List.mem_cons, forall_eq_or_imp] at blank
        exact absurd blank.1 (by simp [Segment.isBlank])
      · simp_all
  | case3 character later none ih =>
      rw [segments] at blank
      split at blank
      · simp_all
      · simp only [List.mem_cons, forall_eq_or_imp] at blank
        rw [List.all_cons, ih blank.2, Bool.and_true]
        exact blank.1

theorem allBlank_of_mask (supply : Supply) (description : String)
    (blank : Text.allBlank (mask supply description).1.description = true) :
    Text.allBlank description = true := by
  apply blank_of_segments
  apply isBlank_replaceAll { supply := supply }
  intro part there
  apply Segment.isBlank_of_characters
  have characters : (((Masking.mk [] [] supply).replaceAll
      (segments description.toList)).1.flatMap Segment.characters).all Text.isBlank = true := by
    simpa [Text.allBlank, mask, Segment.join] using blank
  rw [List.all_eq_true] at characters ⊢
  intro character inside
  exact characters character (List.mem_flatMap.mpr ⟨part, there, inside⟩)

/-- Masking keeps a description that says something from becoming blank. -/
theorem allBlank_mask {description : String} (words : Text.allBlank description = false)
    (supply : Supply) : Text.allBlank (mask supply description).1.description = false := by
  rw [← Bool.not_eq_true] at words ⊢
  exact mt (allBlank_of_mask supply description) words

end RoomCall.Description
