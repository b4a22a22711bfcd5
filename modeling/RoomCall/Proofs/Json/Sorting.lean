import RoomCall.Json.Basic

/-!
# Entries in the order of their keys

Sorting entries gives a table: each key stands in it once, and it has the value that was given for
it last. Where all entries have the same value, the table lists the keys that were given.
-/

namespace RoomCall.Json

variable {α : Type}

/-- Entries in strictly increasing order of their keys. -/
def Ordered (entries : List (String × α)) : Prop :=
  entries.Pairwise fun first second => first.1 < second.1

/-- No two entries of a table have the same key. -/
theorem Ordered.keys_nodup {entries : List (String × α)} (ordered : Ordered entries) :
    (entries.map Prod.fst).Nodup := by
  refine List.pairwise_map.mpr (ordered.imp fun less same => ?_)
  exact String.lt_irrefl _ (same ▸ less)

/-- An entry that is inserted takes the place of the entry with its key. -/
theorem mem_insertEntry {entries : List (String × α)} (ordered : Ordered entries) (name : String)
    (value : α) (entry : String × α) :
    entry ∈ insertEntry name value entries ↔
      entry = (name, value) ∨ (entry ∈ entries ∧ entry.1 ≠ name) := by
  induction entries with
  | nil => simp [insertEntry]
  | cons first later ih =>
      obtain ⟨key, old⟩ := first
      obtain ⟨above, orderedLater⟩ := List.pairwise_cons.mp ordered
      rw [insertEntry]
      split
      · rename_i same
        subst same
        have others : entry ∈ later → entry.1 ≠ name :=
          fun there same => String.lt_irrefl _ (same ▸ above entry there)
        simp only [List.mem_cons]
        grind
      · split
        · rename_i other less
          have others : entry ∈ (key, old) :: later → entry.1 ≠ name := by
            rintro there rfl
            rcases List.mem_cons.mp there with rfl | there
            · exact other rfl
            · exact String.lt_irrefl _ (String.lt_trans less (above entry there))
          simp only [List.mem_cons] at others ⊢
          grind
        · simp only [List.mem_cons, ih orderedLater]
          grind

theorem Ordered.insertEntry {entries : List (String × α)} (ordered : Ordered entries)
    (name : String) (value : α) : Ordered (insertEntry name value entries) := by
  induction entries with
  | nil => simp [Json.insertEntry, Ordered]
  | cons first later ih =>
      obtain ⟨key, old⟩ := first
      obtain ⟨above, orderedLater⟩ := List.pairwise_cons.mp ordered
      rw [Json.insertEntry]
      split
      · rename_i same
        subst same
        exact List.pairwise_cons.mpr ⟨above, orderedLater⟩
      · split
        · rename_i less
          refine List.pairwise_cons.mpr ⟨fun entry there => ?_, ordered⟩
          rcases List.mem_cons.mp there with rfl | there
          · exact less
          · exact String.lt_trans less (above entry there)
        · rename_i other notLess
          refine List.pairwise_cons.mpr ⟨fun entry there => ?_, ih orderedLater⟩
          rcases (mem_insertEntry orderedLater name value entry).mp there with rfl | ⟨there, -⟩
          · exact Std.lt_of_le_of_ne (Std.not_lt.mp notLess) (Ne.symm other)
          · exact above entry there

theorem ordered_foldl (entries sorted : List (String × α)) (ordered : Ordered sorted) :
    Ordered (entries.foldl (fun sorted entry => insertEntry entry.1 entry.2 sorted) sorted) := by
  induction entries generalizing sorted with
  | nil => exact ordered
  | cons entry later ih => exact ih _ (ordered.insertEntry entry.1 entry.2)

/-- Sorted entries are in order. -/
theorem ordered_sortEntries (entries : List (String × α)) : Ordered (sortEntries entries) :=
  ordered_foldl entries [] List.Pairwise.nil

theorem mem_foldl_of_constant (value : α) (keys : List String) (sorted : List (String × α))
    (ordered : Ordered sorted) (constant : ∀ entry ∈ sorted, entry.2 = value)
    (entry : String × α) :
    entry ∈ (keys.map fun key => (key, value)).foldl
        (fun sorted entry => insertEntry entry.1 entry.2 sorted) sorted ↔
      entry ∈ sorted ∨ (entry.1 ∈ keys ∧ entry.2 = value) := by
  induction keys generalizing sorted with
  | nil => simp
  | cons key later ih =>
      rw [List.map_cons, List.foldl_cons, ih _ (ordered.insertEntry key value)]
      · rw [mem_insertEntry ordered]
        have same := constant entry
        obtain ⟨name, found⟩ := entry
        simp only [Prod.mk.injEq, List.mem_cons] at same ⊢
        grind
      · intro other there
        rcases (mem_insertEntry ordered key value other).mp there with rfl | ⟨there, -⟩
        · rfl
        · exact constant other there

/-- Sorting entries of one value lists their keys with that value. -/
theorem mem_sortEntries_of_constant (value : α) (keys : List String) (entry : String × α) :
    entry ∈ sortEntries (keys.map fun key => (key, value)) ↔
      entry.1 ∈ keys ∧ entry.2 = value := by
  rw [sortEntries, mem_foldl_of_constant value keys [] List.Pairwise.nil (by simp)]
  simp

end RoomCall.Json
