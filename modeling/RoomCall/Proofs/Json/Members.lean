import RoomCall.Json.Shape

/-!
# Reading the members of an object

`Json.ofMembers` orders the members of an object by name. What is read back by name does not depend
on that order: it is the last value that was given for the name.
-/

namespace RoomCall.Json

/-- An inserted entry is found under its name, and every other name is found as before. -/
theorem member?_insertEntry (name key : String) (value : Json) (members : List (String × Json)) :
    member? name (insertEntry key value members) =
      if key = name then some value else member? name members := by
  induction members with
  | nil => rfl
  | cons member later ih =>
      rcases member with ⟨first, old⟩
      rw [insertEntry]
      split
      · rename_i same
        subst same
        by_cases found : key = name <;> simp [member?, found]
      · rename_i other
        split
        · rfl
        · rw [member?, member?, ih]
          by_cases found : key = name
          · have away : first ≠ name := fun same => other (found.trans same.symm)
            simp [found, away]
          · simp [found]

/-- A member is found in the first of two objects that has it. -/
theorem member?_append (name : String) (front back : List (String × Json)) :
    member? name (front ++ back) = (member? name front).or (member? name back) := by
  induction front with
  | nil => rfl
  | cons member later ih =>
      rw [List.cons_append, member?, member?]
      split
      · rfl
      · exact ih

/-- Sorting further entries into an object. -/
theorem member?_foldl (name : String) (entries sorted : List (String × Json)) :
    member? name (entries.foldl (fun sorted entry => insertEntry entry.1 entry.2 sorted) sorted) =
      (member? name entries.reverse).or (member? name sorted) := by
  induction entries generalizing sorted with
  | nil => rfl
  | cons entry later ih =>
      rw [List.foldl_cons, ih, member?_insertEntry, List.reverse_cons, member?_append,
        Option.or_assoc]
      by_cases found : entry.1 = name <;> simp [member?, found]

/-- An object finds the last value that was given for a name. -/
theorem member?_sortEntries (name : String) (members : List (String × Json)) :
    member? name (sortEntries members) = member? name members.reverse := by
  rw [sortEntries, member?_foldl]
  simp [member?]

theorem member?_eq_none {name : String} {members : List (String × Json)}
    (absent : name ∉ members.map Prod.fst) : member? name members = none := by
  induction members with
  | nil => rfl
  | cons member later ih =>
      obtain ⟨key, value⟩ := member
      simp only [List.map_cons, List.mem_cons, not_or] at absent
      rw [member?, if_neg (Ne.symm absent.1), ih absent.2]

/-- Where each name is given once, the first value for it is the last one. -/
theorem member?_reverse {members : List (String × Json)}
    (distinct : (members.map Prod.fst).Nodup) (name : String) :
    member? name members.reverse = member? name members := by
  induction members with
  | nil => rfl
  | cons member later ih =>
      obtain ⟨key, value⟩ := member
      obtain ⟨fresh, distinctLater⟩ := List.nodup_cons.mp distinct
      rw [List.reverse_cons, member?_append, ih distinctLater]
      by_cases same : key = name
      · have absent : member? name later = none := member?_eq_none (same ▸ fresh)
        simp [member?, same, absent]
      · simp [member?, same]

/-- The fields of an object are its members. -/
theorem fields?_ofMembers (names : List String) (members : List (String × Json)) :
    fields? names (ofMembers members) =
      some ⟨fun name => member? name members.reverse, false⟩ := by
  simp [fields?, ofMembers, member?_sortEntries]

theorem natBelow?_ofNat {bound value : Nat} (fits : value < bound) :
    natBelow? bound (ofNat value) = some value := by
  have below : (value : Int) < bound := Int.ofNat_lt.mpr fits
  rw [ofNat, natBelow?, if_pos ⟨Int.natCast_nonneg value, below⟩, Int.toNat_natCast]

theorem word64?_ofNat {value : Nat} (fits : value < UInt64.size) :
    word64? (ofNat value) = some value := by
  rw [word64?, natBelow?_ofNat fits]

theorem word32?_ofNat {value : Nat} (fits : value < UInt32.size) :
    word32? (ofNat value) = some value := by
  rw [word32?, natBelow?_ofNat fits]

/-- Reading an array undoes writing it, if that is so for every item. -/
theorem list?_map {α : Type} {read : Json → Option α} {write : α → Json} {items : List α}
    (undo : ∀ item ∈ items, read (write item) = some item) :
    list? read (.array (items.map write)) = some items := by
  rw [list?]
  induction items with
  | nil => rfl
  | cons item later ih =>
      rw [List.map_cons, List.mapM_cons, undo item (by simp),
        ih fun other there => undo other (by simp [there])]
      rfl

end RoomCall.Json
