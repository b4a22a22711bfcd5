import RoomCall.Json.Reader
import RoomCall.Proofs.Json.Members
import RoomCall.Proofs.Json.Sorting

/-!
# Values in normal form

A value is in normal form if the members of every object in it stand in the order of their names,
each name once. A document is always read in normal form. Bringing a value into normal form again
changes nothing, and it changes the members of an object one by one.
-/

namespace RoomCall.Json

/-! ## Sorting -/

section

variable {α β : Type}

/-- The entries with other contents under the same keys. -/
def mapEntries (change : α → β) (entries : List (String × α)) : List (String × β) :=
  entries.map fun entry => (entry.1, change entry.2)

theorem insertEntry_mapEntries (change : α → β) (name : String) (value : α)
    (entries : List (String × α)) :
    insertEntry name (change value) (mapEntries change entries) =
      mapEntries change (insertEntry name value entries) := by
  induction entries with
  | nil => rfl
  | cons entry later ih =>
      obtain ⟨key, old⟩ := entry
      change insertEntry name (change value) ((key, change old) :: mapEntries change later) = _
      rw [insertEntry, insertEntry]
      split
      · rfl
      · split
        · rfl
        · exact congrArg ((key, change old) :: ·) ih

/-- Sorting looks at keys alone. -/
theorem sortEntries_mapEntries (change : α → β) (entries : List (String × α)) :
    sortEntries (mapEntries change entries) = mapEntries change (sortEntries entries) := by
  have onto (sorted : List (String × α)) :
      (mapEntries change entries).foldl
          (fun sorted entry => insertEntry entry.1 entry.2 sorted) (mapEntries change sorted) =
        mapEntries change
          (entries.foldl (fun sorted entry => insertEntry entry.1 entry.2 sorted) sorted) := by
    induction entries generalizing sorted with
    | nil => rfl
    | cons entry later ih =>
        rw [List.foldl_cons, ← ih, ← insertEntry_mapEntries]
        rfl
  exact onto []

/-- An entry whose key comes last is inserted at the end. -/
theorem insertEntry_of_above {entries : List (String × α)} {name : String} (value : α)
    (above : ∀ entry ∈ entries, entry.1 < name) :
    insertEntry name value entries = entries ++ [(name, value)] := by
  induction entries with
  | nil => rfl
  | cons entry later ih =>
      obtain ⟨key, old⟩ := entry
      have less : key < name := above (key, old) (by simp)
      have other : name ≠ key := by
        rintro rfl
        exact String.lt_irrefl _ less
      rw [insertEntry, if_neg other, if_neg (String.lt_asymm less),
        ih fun entry there => above entry (by simp [there])]
      rfl

/-- Entries that are in order are not moved. -/
theorem sortEntries_of_ordered {entries : List (String × α)} (ordered : Ordered entries) :
    sortEntries entries = entries := by
  have onto (sorted : List (String × α)) (whole : Ordered (sorted ++ entries)) :
      entries.foldl (fun sorted entry => insertEntry entry.1 entry.2 sorted) sorted =
        sorted ++ entries := by
    induction entries generalizing sorted with
    | nil => simp
    | cons entry later ih =>
        have above : ∀ other ∈ sorted, other.1 < entry.1 := fun other there =>
          (List.pairwise_append.mp whole).2.2 other there entry (by simp)
        rw [List.foldl_cons, insertEntry_of_above entry.2 above,
          ih (List.pairwise_cons.mp ordered).2 _ (by simpa using whole)]
        simp
  exact onto [] ordered

theorem mem_of_mem_insertEntry {entries : List (String × α)} {name : String} {value : α}
    {entry : String × α} (there : entry ∈ insertEntry name value entries) :
    entry = (name, value) ∨ entry ∈ entries := by
  induction entries with
  | nil => simpa [insertEntry] using there
  | cons first later ih =>
      rw [insertEntry] at there
      split at there
      · grind
      · split at there <;> grind

theorem mem_of_mem_foldl {entries sorted : List (String × α)} {entry : String × α}
    (there : entry ∈ entries.foldl
      (fun sorted entry => insertEntry entry.1 entry.2 sorted) sorted) :
    entry ∈ sorted ∨ entry ∈ entries := by
  induction entries generalizing sorted with
  | nil => exact .inl there
  | cons first later ih =>
      rcases ih there with inside | inside
      · rcases mem_of_mem_insertEntry inside with rfl | inside
        · exact .inr List.mem_cons_self
        · exact .inl inside
      · exact .inr (List.mem_cons_of_mem _ inside)

theorem mem_of_mem_sortEntries {entries : List (String × α)} {entry : String × α}
    (there : entry ∈ sortEntries entries) : entry ∈ entries :=
  (mem_of_mem_foldl there).resolve_left List.not_mem_nil

theorem sortEntries_sortEntries (entries : List (String × α)) :
    sortEntries (sortEntries entries) = sortEntries entries :=
  sortEntries_of_ordered (ordered_sortEntries entries)

theorem Ordered.mapEntries {entries : List (String × α)} (change : α → β)
    (ordered : Ordered entries) : Ordered (mapEntries change entries) :=
  List.pairwise_map.mpr ordered

end

/-! ## Normal forms -/

theorem map_eq_self_iff {α : Type} {change : α → α} {items : List α} :
    items.map change = items ↔ ∀ item ∈ items, change item = item := by
  have pointwise := List.map_inj_left (f := change) (g := id) (l := items)
  rwa [List.map_id] at pointwise

/-- Whether the members of every object in a value stand in the order of their names. -/
def IsNormal (value : Json) : Prop :=
  value.normalized = value

theorem isNormal_string (text : String) : (Json.string text).IsNormal := by
  simp only [IsNormal, normalized]

theorem isNormal_ofNat (value : Nat) : (ofNat value).IsNormal := by
  simp only [IsNormal, ofNat, normalized]

theorem isNormal_boolean (value : Bool) : (Json.boolean value).IsNormal := by
  simp only [IsNormal, normalized]

theorem normalizedItems_eq (items : List Json) :
    normalizedItems items = items.map normalized := by
  induction items with
  | nil => rw [normalizedItems]; rfl
  | cons item later ih => rw [normalizedItems, ih]; rfl

theorem normalizedMembers_eq (members : List (String × Json)) :
    normalizedMembers members = mapEntries normalized members := by
  induction members with
  | nil => rw [normalizedMembers]; rfl
  | cons member later ih => rw [normalizedMembers, ih]; rfl

theorem normalized_array (items : List Json) :
    (Json.array items).normalized = .array (items.map normalized) := by
  rw [normalized, normalizedItems_eq]

theorem normalized_object (members : List (String × Json)) :
    (Json.object members).normalized = ofMembers (mapEntries normalized members) := by
  rw [normalized, normalizedMembers_eq]

theorem normalized_ofMembers (members : List (String × Json)) :
    (ofMembers members).normalized = ofMembers (mapEntries normalized members) := by
  rw [ofMembers, normalized_object, ofMembers, ofMembers, ← sortEntries_mapEntries,
    sortEntries_sortEntries]

/-- An array is in normal form if its items are. -/
theorem isNormal_array_iff {items : List Json} :
    (Json.array items).IsNormal ↔ ∀ item ∈ items, item.IsNormal := by
  rw [IsNormal, normalized_array, Json.array.injEq]
  exact map_eq_self_iff

theorem mapEntries_normalized_iff {members : List (String × Json)} :
    mapEntries normalized members = members ↔ ∀ member ∈ members, member.2.IsNormal := by
  rw [mapEntries, map_eq_self_iff]
  simp [IsNormal, Prod.ext_iff]

theorem isNormal_ofMembers {members : List (String × Json)}
    (normal : ∀ member ∈ members, member.2.IsNormal) : (ofMembers members).IsNormal := by
  rw [IsNormal, normalized_ofMembers, mapEntries_normalized_iff.mpr normal]

/-- An object is in normal form if its keys are in order and its contents are in normal form. -/
theorem isNormal_object_iff {members : List (String × Json)} :
    (Json.object members).IsNormal ↔
      Ordered members ∧ ∀ member ∈ members, member.2.IsNormal := by
  rw [IsNormal, normalized_object, ofMembers, Json.object.injEq]
  constructor
  · intro same
    have ordered : Ordered members := same ▸ ordered_sortEntries (mapEntries normalized members)
    rw [sortEntries_of_ordered (ordered.mapEntries normalized)] at same
    exact ⟨ordered, mapEntries_normalized_iff.mp same⟩
  · rintro ⟨ordered, normal⟩
    rw [sortEntries_of_ordered (ordered.mapEntries normalized), mapEntries_normalized_iff.mpr normal]

theorem isNormal_single {name : String} {content : Json} (normal : content.IsNormal) :
    (Json.object [(name, content)]).IsNormal :=
  isNormal_object_iff.mpr
    ⟨List.pairwise_singleton _ _, fun _ there => List.mem_singleton.mp there ▸ normal⟩

/-- What is put into normal form is in normal form. -/
theorem isNormal_normalized (value : Json) : value.normalized.IsNormal := by
  match value with
  | .null | .boolean _ | .integer _ | .decimal _ | .string _ =>
      simp only [IsNormal, normalized]
  | .array items =>
      rw [normalized_array, isNormal_array_iff, List.forall_mem_map]
      exact fun item inside => isNormal_normalized item
  | .object members =>
      rw [normalized_object, ofMembers, isNormal_object_iff]
      refine ⟨ordered_sortEntries _, fun member there => ?_⟩
      obtain ⟨⟨name, content⟩, inside, rfl⟩ := List.mem_map.mp (mem_of_mem_sortEntries there)
      exact isNormal_normalized content
termination_by sizeOf value
decreasing_by
  · have smaller := List.sizeOf_lt_of_mem inside
    simp only [Json.array.sizeOf_spec]
    omega
  · have smaller := List.sizeOf_lt_of_mem inside
    simp only [Json.object.sizeOf_spec, Prod.mk.sizeOf_spec] at smaller ⊢
    omega

/-- A document is read in normal form. -/
theorem isNormal_of_document? {text : String} {value : Json} (found : document? text = some value) :
    value.IsNormal := by
  simp only [document?, Option.bind_eq_bind, Option.bind_eq_some_iff, Option.pure_def,
    Option.some.injEq] at found
  obtain ⟨_, -, _, -, tree, -, rfl⟩ := found
  exact isNormal_normalized tree

end RoomCall.Json
