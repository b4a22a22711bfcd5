import RoomCall.Proofs.Json.Normal

/-!
# Values that are written and read again

A reader accepts more than its writer produces: records given by position, choices given as
objects, values left out or null. Whatever it accepts, it should read the same again from what is
written of it, so that a value that has been written once is not changed by being passed on. What
is written may be put into normal form on the way, if the accepted value was in normal form: a part
of it that is kept as it is then stays as it is.

Each lemma here says so for one way to read, given that it holds of the parts.
-/

namespace RoomCall.Json

variable {α : Type}

/-- A value as it is, or in normal form. -/
def arranged (ordered : Bool) (value : Json) : Json :=
  if ordered then value.normalized else value

/-- Whether what is written of a value is read back, as it is or in normal form. -/
def Returns (ordered : Bool) (read : Json → Option α) (write : α → Json) (content : α) : Prop :=
  read (arranged ordered (write content)) = some content

/-- Whether a reader that accepts a value reads the same from what is written of it. -/
def Rereads (ordered : Bool) (read : Json → Option α) (write : α → Json) : Prop :=
  ∀ value content, (ordered = true → value.IsNormal) → read value = some content →
    read (arranged ordered (write content)) = some content

/-- What a reader accepts has one form, which is reached by writing it: it is read again to the same
result, written again to the same value, and read to the same result also from its normal form.
Different results are written differently. -/
structure Canonical (read : Json → Option α) (write : α → Json) : Prop where
  read_write : ∀ value content, read value = some content → read (write content) = some content
  write_read_write : ∀ value content, read value = some content →
    (read (write content)).map write = some (write content)
  read_normalized : ∀ value content, value.IsNormal → read value = some content →
    read (write content).normalized = some content
  apart : ∀ first second one other, read first = some one → read second = some other →
    write one = write other → one = other

section

variable {ordered : Bool} {read : Json → Option α} {write : α → Json}

/-- A form is canonical if whatever is accepted is read back, as it is written and in normal form.
-/
theorem canonical_of_rereads (rereads : ∀ ordered, Rereads ordered read write) :
    Canonical read write where
  read_write value content accepted := rereads false value content (by simp) accepted
  write_read_write value content accepted := by
    have again : read (write content) = some content :=
      rereads false value content (by simp) accepted
    rw [again]
    rfl
  apart first second one other oneAccepted otherAccepted same := by
    have oneAgain : read (write one) = some one :=
      rereads false first one (by simp) oneAccepted
    have otherAgain : read (write other) = some other :=
      rereads false second other (by simp) otherAccepted
    rw [same, otherAgain] at oneAgain
    exact (Option.some.inj oneAgain).symm
  read_normalized value content normal accepted :=
    rereads true value content (fun _ => normal) accepted

theorem arranged_of_isNormal {value : Json} (normal : ordered = true → value.IsNormal) :
    arranged ordered value = value := by
  cases ordered with
  | false => rfl
  | true => exact normal rfl

@[simp]
theorem arranged_null : arranged ordered .null = .null :=
  arranged_of_isNormal fun _ => rfl

@[simp]
theorem arranged_boolean (value : Bool) : arranged ordered (.boolean value) = .boolean value :=
  arranged_of_isNormal fun _ => rfl

@[simp]
theorem arranged_integer (value : Int) : arranged ordered (.integer value) = .integer value :=
  arranged_of_isNormal fun _ => rfl

@[simp]
theorem arranged_ofNat (value : Nat) : arranged ordered (ofNat value) = ofNat value :=
  arranged_of_isNormal fun _ => rfl

@[simp]
theorem arranged_string (text : String) : arranged ordered (.string text) = .string text :=
  arranged_of_isNormal fun _ => rfl

@[simp]
theorem arranged_array (items : List Json) :
    arranged ordered (.array items) = .array (items.map (arranged ordered)) := by
  cases ordered with
  | false => exact congrArg Json.array (List.map_id _).symm
  | true => exact normalized_array items

theorem arranged_ofMembers (members : List (String × Json)) :
    arranged ordered (ofMembers members) = ofMembers (mapEntries (arranged ordered) members) := by
  cases ordered with
  | false => exact congrArg ofMembers (List.map_id _).symm
  | true => exact normalized_ofMembers members

@[simp]
theorem arranged_single (name : String) (content : Json) :
    arranged ordered (.object [(name, content)]) = .object [(name, arranged ordered content)] :=
  arranged_ofMembers [(name, content)]

@[simp]
theorem arranged_empty : arranged ordered (.object []) = .object [] :=
  arranged_ofMembers []

/-! ## Plain values -/

/-- What is written in normal form and read back is read back from its normal form. -/
theorem returns_of_undoes {content : α} (undoes : read (write content) = some content)
    (normal : (write content).IsNormal) : Returns ordered read write content := by
  rw [Returns, arranged_of_isNormal fun _ => normal, undoes]

/-- What is read back as it was written. -/
theorem Returns.undoes {content : α} (returns : Returns false read write content) :
    read (write content) = some content :=
  returns

theorem returns_text (text : String) : Returns ordered text? .string text :=
  returns_of_undoes rfl (isNormal_string text)

theorem returns_boolean (value : Bool) : Returns ordered boolean? .boolean value :=
  returns_of_undoes rfl (isNormal_boolean value)

/-- A number that is accepted is read back. -/
theorem rereads_natBelow (bound : Nat) : Rereads ordered (natBelow? bound) ofNat := by
  intro value content _ accepted
  rw [arranged_ofNat]
  cases value with
  | integer number =>
      rw [natBelow?] at accepted
      split at accepted
      · rename_i inside
        obtain rfl := Option.some.inj accepted
        exact natBelow?_ofNat (by omega)
      · exact absurd accepted.symm (Option.some_ne_none _)
  | _ => exact absurd accepted.symm (Option.some_ne_none _)

theorem rereads_word64 : Rereads ordered word64? ofNat :=
  rereads_natBelow UInt64.size

theorem returns_word64 {value : Nat} (fits : value < UInt64.size) :
    Returns ordered word64? ofNat value :=
  returns_of_undoes (word64?_ofNat fits) (isNormal_ofNat value)

theorem rereads_word32 : Rereads ordered word32? ofNat :=
  rereads_natBelow UInt32.size

theorem returns_word32 {value : Nat} (fits : value < UInt32.size) :
    Returns ordered word32? ofNat value :=
  returns_of_undoes (word32?_ofNat fits) (isNormal_ofNat value)

/-- Any value is kept as it is. -/
theorem rereads_some : Rereads ordered some id := by
  intro value content normal accepted
  obtain rfl := Option.some.inj accepted
  exact congrArg some (arranged_of_isNormal normal)

/-- An object that is kept as it is is read back. -/
theorem rereads_members : Rereads ordered members? .object := by
  intro value content normal accepted
  cases value with
  | object members =>
      obtain rfl := Option.some.inj accepted
      rw [arranged_of_isNormal normal]
      rfl
  | _ => exact absurd accepted.symm (Option.some_ne_none _)

/-! ## Lists and tables -/

/-- If every item that is converted can be converted again, so can a list. -/
theorem mapM_map_of_mapM {β γ : Type} {convert : α → Option β} {write : β → γ}
    {again : γ → Option β} {items : List α} {results : List β}
    (each : ∀ item ∈ items, ∀ result, convert item = some result →
      again (write result) = some result)
    (whole : items.mapM convert = some results) :
    (results.map write).mapM again = some results := by
  induction items generalizing results with
  | nil =>
      obtain rfl := Option.some.inj whole
      rfl
  | cons item later ih =>
      simp only [List.mapM_cons, Option.bind_eq_bind, Option.bind_eq_some_iff, Option.pure_def,
        Option.some.injEq] at whole
      obtain ⟨first, here, rest, there, rfl⟩ := whole
      rw [List.map_cons, List.mapM_cons, each item (by simp) first here,
        ih (fun other inside => each other (by simp [inside])) there]
      rfl

/-- A list is read back if its items are. -/
theorem rereads_list (rereads : Rereads ordered read write) :
    Rereads ordered (list? read) fun items => .array (items.map write) := by
  intro value content normal accepted
  cases value with
  | array items =>
      rw [arranged_array, List.map_map]
      refine mapM_map_of_mapM (fun item inside result found => ?_) accepted
      exact rereads item result (fun sorted => isNormal_array_iff.mp (normal sorted) item inside)
        found
  | _ => exact absurd accepted.symm (Option.some_ne_none _)

/-- A list is read back if all of its items are. -/
theorem returns_list {items : List α} (returns : ∀ item ∈ items, Returns ordered read write item) :
    Returns ordered (list? read) (fun items => .array (items.map write)) items := by
  rw [Returns, arranged_array, List.map_map]
  exact list?_map returns

theorem returns_noItems :
    Returns ordered (list? read) (fun items => .array (items.map write)) [] :=
  returns_list fun _ inside => absurd inside List.not_mem_nil

/-- The keys of a table are those of the object it was read from. -/
theorem keys_of_table? {members : List (String × Json)} {entries : List (String × α)}
    (whole : table? read (.object members) = some entries) :
    entries.map Prod.fst = members.map Prod.fst := by
  rw [table?] at whole
  induction members generalizing entries with
  | nil =>
      obtain rfl := Option.some.inj whole
      rfl
  | cons member later ih =>
      simp only [List.mapM_cons, Option.bind_eq_bind, Option.bind_eq_some_iff, Option.pure_def,
        Option.some.injEq, Option.map_eq_some_iff] at whole
      obtain ⟨first, ⟨content, -, rfl⟩, rest, there, rfl⟩ := whole
      rw [List.map_cons, List.map_cons, ih there]

theorem ordered_iff_keys {entries : List (String × α)} :
    Ordered entries ↔ (entries.map Prod.fst).Pairwise (· < ·) :=
  List.pairwise_map.symm

/-- A table is read back if its contents are. -/
theorem rereads_table (rereads : Rereads ordered read write) :
    Rereads ordered (table? read) fun entries => .object (mapEntries write entries) := by
  intro value content normal accepted
  cases value with
  | object members =>
      have written : arranged ordered (.object (mapEntries write content)) =
          .object (mapEntries (fun item => arranged ordered (write item)) content) := by
        cases ordered with
        | false => rfl
        | true =>
            have sorted : Ordered content := by
              rw [ordered_iff_keys, keys_of_table? accepted, ← ordered_iff_keys]
              exact (isNormal_object_iff.mp (normal rfl)).1
            change (Json.object (mapEntries write content)).normalized = _
            rw [normalized_object, ofMembers,
              sortEntries_of_ordered ((sorted.mapEntries write).mapEntries normalized)]
            exact congrArg Json.object (List.map_map)
      rw [written]
      refine mapM_map_of_mapM (fun member inside entry found => ?_) accepted
      obtain ⟨item, here, rfl⟩ := Option.map_eq_some_iff.mp found
      have again := rereads member.2 item
        (fun sorted => (isNormal_object_iff.mp (normal sorted)).2 member inside) here
      exact congrArg (Option.map _) again
  | _ => exact absurd accepted.symm (Option.some_ne_none _)

/-! ## Optional values -/

/-- A value that may be missing, with null in its place. -/
def orNull (write : α → Json) (content : Option α) : Json :=
  content.elim .null write

/-- A value that may be missing is read back if it is read back where it is there, since null is
read as nothing else. -/
theorem returns_nullable (refused : read .null = none) {content : Option α}
    (returns : ∀ known ∈ content, Returns ordered read write known) :
    Returns ordered (nullable? read) (orNull write) content := by
  cases content with
  | none => simp [Returns, orNull, nullable?]
  | some known =>
      have again : read (arranged ordered (write known)) = some known := returns known rfl
      rw [Returns, orNull, Option.elim_some]
      cases written : arranged ordered (write known) <;> simp_all [nullable?]

theorem ofText?_eq_orNull : ofText? = orNull .string := by
  funext text
  cases text <;> rfl

theorem returns_ofText (text : Option String) :
    Returns ordered (nullable? text?) ofText? text :=
  ofText?_eq_orNull ▸ returns_nullable rfl fun known _ => returns_text known

/-! ## Records -/

/-- Whether the fields of a record are in normal form, if that is asked for. -/
def Fields.Tidy (ordered : Bool) (fields : Fields) : Prop :=
  ∀ name value, fields.value? name = some value → ordered = true → value.IsNormal

theorem mem_of_member? {name : String} {value : Json} {members : List (String × Json)}
    (found : member? name members = some value) : (name, value) ∈ members := by
  induction members with
  | nil => exact absurd found.symm (Option.some_ne_none _)
  | cons member later ih =>
      obtain ⟨key, content⟩ := member
      rw [member?] at found
      split at found
      · rename_i same
        obtain rfl := Option.some.inj found
        exact same ▸ List.mem_cons_self
      · exact List.mem_cons_of_mem _ (ih found)

theorem tidy_of_members {members : List (String × Json)}
    (normal : ordered = true → (Json.object members).IsNormal) (positional : Bool) :
    Fields.Tidy ordered ⟨fun name => member? name members, positional⟩ :=
  fun _ _ found sorted => (isNormal_object_iff.mp (normal sorted)).2 _ (mem_of_member? found)

/-- The fields of a value in normal form are in normal form. -/
theorem tidy_of_fields? {names : List String} {value : Json} {fields : Fields}
    (found : fields? names value = some fields) (normal : ordered = true → value.IsNormal) :
    fields.Tidy ordered := by
  cases value with
  | object members =>
      obtain rfl := Option.some.inj found
      exact tidy_of_members normal false
  | array items =>
      rw [fields?] at found
      split at found
      · obtain rfl := Option.some.inj found
        exact fun name item there sorted =>
          isNormal_array_iff.mp (normal sorted) item (List.mem_of_getElem? there)
      · exact absurd found.symm (Option.some_ne_none _)
  | _ => exact absurd found.symm (Option.some_ne_none _)

theorem tidy_of_namedFields? {value : Json} {fields : Fields}
    (found : namedFields? value = some fields) (normal : ordered = true → value.IsNormal) :
    fields.Tidy ordered := by
  cases value with
  | object members =>
      obtain rfl := Option.some.inj found
      exact tidy_of_members normal false
  | _ => exact absurd found.symm (Option.some_ne_none _)

section

variable {fields : Fields} {name : String} {content : α}

/-- A field of an accepted record is read back. -/
theorem Rereads.required (rereads : Rereads ordered read write) (tidy : fields.Tidy ordered)
    (given : fields.required name read = some content) :
    Returns ordered read write content := by
  obtain ⟨value, there, found⟩ := Option.bind_eq_some_iff.mp given
  exact rereads value content (tidy name value there) found

/-- A field that was left out has a value that can be written as well. -/
theorem Rereads.defaulted (rereads : Rereads ordered read write) (tidy : fields.Tidy ordered)
    {usual : α} (returns : Returns ordered read write usual)
    (given : fields.defaulted name read usual = some content) :
    Returns ordered read write content := by
  rw [Fields.defaulted] at given
  split at given
  · obtain rfl := Option.some.inj given
    exact returns
  · rename_i value there
    exact rereads value content (tidy name value there) given

end

/-- The content of a chosen case is in normal form if the choice is. -/
theorem isNormal_of_case? {value content : Json} {name : String}
    (chosen : case? value = some (name, some content)) (normal : ordered = true → value.IsNormal) :
    ordered = true → content.IsNormal := by
  intro sorted
  unfold case? at chosen
  split at chosen
  · simp at chosen
  · obtain ⟨rfl, rfl⟩ : _ ∧ _ := by simpa using chosen
    exact (isNormal_object_iff.mp (normal sorted)).2 _ List.mem_cons_self
  · exact absurd chosen.symm (Option.some_ne_none _)

/-! The fields of what is written are found by their names, in normal form or not. -/

/-- The fields of an object with the given members, each of them in normal form or as it is. -/
def arrangedFields (ordered : Bool) (members : List (String × Json)) : Fields :=
  ⟨fun name => (member? name members).map (arranged ordered), false⟩

section

variable {members : List (String × Json)} {name : String} {value : Json} {content usual : α}

theorem value?_arrangedFields (members : List (String × Json)) (name : String) :
    (arrangedFields ordered members).value? name =
      (member? name members).map (arranged ordered) :=
  rfl

theorem required_arrangedFields (there : member? name members = some value)
    (found : read (arranged ordered value) = some content) :
    (arrangedFields ordered members).required name read = some content := by
  rw [Fields.required, value?_arrangedFields, there]
  exact found

theorem defaulted_arrangedFields (there : member? name members = some value)
    (found : read (arranged ordered value) = some content) :
    (arrangedFields ordered members).defaulted name read usual = some content := by
  rw [Fields.defaulted, value?_arrangedFields, there]
  exact found

theorem defaulted_arrangedFields_absent (absent : member? name members = none) :
    (arrangedFields ordered members).defaulted name read usual = some usual := by
  rw [Fields.defaulted, value?_arrangedFields, absent]
  rfl

/-- A member that is left out where there is no content. -/
theorem leftOut_arrangedFields {write : α → Json} {content : Option α}
    (there : member? name members = content.map write)
    (found : Returns ordered (nullable? read) (orNull write) content) :
    (arrangedFields ordered members).defaulted name (nullable? read) none = some content := by
  cases content with
  | none => exact defaulted_arrangedFields_absent there
  | some content => exact defaulted_arrangedFields there found

theorem optional_arrangedFields {content : Option α} (there : member? name members = some value)
    (found : nullable? read (arranged ordered value) = some content) :
    (arrangedFields ordered members).optional name read = some content := by
  rw [Fields.optional, value?_arrangedFields, there]
  exact found

end

theorem member?_mapEntries (change : Json → Json) (name : String)
    (members : List (String × Json)) :
    member? name (mapEntries change members) = (member? name members).map change := by
  induction members with
  | nil => rfl
  | cons member later ih =>
      obtain ⟨key, content⟩ := member
      change (if key = name then _ else member? name (mapEntries change later)) = _
      rw [ih, member?]
      split <;> rfl

theorem arranged_ofMembers_eq_object (ordered : Bool) (members : List (String × Json)) :
    ∃ sorted, arranged ordered (ofMembers members) = .object sorted ∧
      ∀ name, member? name sorted = (member? name members.reverse).map (arranged ordered) := by
  refine ⟨_, arranged_ofMembers members, fun name => ?_⟩
  rw [member?_sortEntries, ← member?_mapEntries, mapEntries, mapEntries, List.map_reverse]

/-- The fields of an object that was written are found under their names. -/
theorem fields?_arranged_ofMembers (names : List String) (members : List (String × Json)) :
    fields? names (arranged ordered (ofMembers members)) =
      some (arrangedFields ordered members.reverse) := by
  obtain ⟨sorted, written, found⟩ := arranged_ofMembers_eq_object ordered members
  rw [written, fields?, funext found, arrangedFields]

theorem namedFields?_arranged_ofMembers (members : List (String × Json)) :
    namedFields? (arranged ordered (ofMembers members)) =
      some (arrangedFields ordered members.reverse) := by
  obtain ⟨sorted, written, found⟩ := arranged_ofMembers_eq_object ordered members
  rw [written, namedFields?, funext found, arrangedFields]

/-- The same for an object whose members are not sorted, if it has each name once. -/
theorem fields?_arranged_object (names : List String) {members : List (String × Json)}
    (distinct : (members.map Prod.fst).Nodup) :
    fields? names (arranged ordered (.object members)) =
      some (arrangedFields ordered members) := by
  cases ordered with
  | false =>
      have same (name : String) : (member? name members).map (arranged false) =
          member? name members := Option.map_id'
      rw [arrangedFields, funext same]
      rfl
  | true =>
      have keys : (mapEntries normalized members).map Prod.fst = members.map Prod.fst := by
        rw [mapEntries, List.map_map]
        rfl
      change fields? names (Json.object members).normalized = _
      rw [normalized_object, fields?_ofMembers]
      congr 2
      funext name
      rw [member?_reverse (keys ▸ distinct), member?_mapEntries]
      rfl

end

end RoomCall.Json
