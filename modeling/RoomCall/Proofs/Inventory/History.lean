import Mathlib.Data.List.Induction
import Mathlib.Data.List.Nodup
import Mathlib.Data.List.Perm.Basic
import RoomCall.Inventory

/-!
# The inventory as a history

The inventory is kept by replacing and reordering lists. What it is after any notifications can be
read off them: a device is there if it was plugged in and not removed since, as it was described
last, and the devices stand in the order in which they were plugged in last. Microphones and cameras
differ only in the notifications that plug them in, so both follow one account of a kind of devices.

Where the inventory is listed by name and where a device is chosen from it, the same device comes
first.
-/

namespace RoomCall

/-- The microphone that a notification plugs in. -/
def Hotplug.microphone? : Hotplug → Option Microphone
  | .microphone device => some device
  | _ => none

/-- The camera that a notification plugs in. -/
def Hotplug.camera? : Hotplug → Option Camera
  | .camera device => some device
  | _ => none

namespace Inventory

/-- The inventory after some notifications. -/
def after (inventory : Inventory) (changes : List Hotplug) : Inventory :=
  changes.foldl (fun known change => (known.apply change).1) inventory

/-! ## A kind of devices -/

section Kind

variable {α : Type} (id : α → String) (plugged? : Hotplug → Option α)

/-- Whether a notification plugs in a device of the kind with an identifier. -/
def Plugs (key : String) (change : Hotplug) : Prop :=
  (plugged? change).map id = some key

instance (key : String) (change : Hotplug) : Decidable (Plugs id plugged? key change) :=
  inferInstanceAs (Decidable (_ = _))

/-- Whether a device with an identifier was plugged in and not removed since. -/
def Present (changes : List Hotplug) (key : String) : Prop :=
  ∃ (place : Nat) (change : Hotplug), changes[place]? = some change ∧
    Plugs id plugged? key change ∧ ∀ later > place, changes[later]? ≠ some (.removed key)

/-- Whether a device was plugged in by the notification at a place, and not again after it. -/
def LastPlugged (changes : List Hotplug) (place : Nat) (device : α) : Prop :=
  changes[place]?.bind plugged? = some device ∧
    ∀ later > place, ∀ change, changes[later]? = some change → ¬Plugs id plugged? (id device) change

/-- Whether one device was plugged in last before another one was. -/
def Precedes (changes : List Hotplug) (first second : α) : Prop :=
  ∃ place later, place < later ∧ LastPlugged id plugged? changes place first ∧
    LastPlugged id plugged? changes later second

/-- The devices of a kind are what the notifications say: each is listed once, those are listed that
are present, as they were plugged in last and in that order. -/
structure Follows (changes : List Hotplug) (devices : List α) : Prop where
  nodup : (devices.map id).Nodup
  mem_iff (key : String) : key ∈ devices.map id ↔ Present id plugged? changes key
  lastPlugged : ∀ device ∈ devices, ∃ place, LastPlugged id plugged? changes place device
  ordered : devices.Pairwise (Precedes id plugged? changes)

/-- The devices of a kind after one more notification: those that it is not about, and the one that
it plugs in. -/
def devicesAfter (devices : List α) (change : Hotplug) : List α :=
  (devices.filter fun device =>
    ¬Plugs id plugged? (id device) change ∧ change ≠ .removed (id device)) ++
      (plugged? change).toList

variable {id plugged?} {changes : List Hotplug} {change : Hotplug} {devices : List α} {device : α}

theorem mem_devicesAfter : device ∈ devicesAfter id plugged? devices change ↔
    device ∈ devices ∧ ¬Plugs id plugged? (id device) change ∧ change ≠ .removed (id device) ∨
      plugged? change = some device := by
  rw [devicesAfter, List.mem_append, List.mem_filter, decide_eq_true_iff, Option.mem_toList]

theorem mem_devicesAfter_of_plugs {key : String} (devices : List α)
    (plugs : Plugs id plugged? key change) :
    key ∈ (devicesAfter id plugged? devices change).map id := by
  obtain ⟨device, added, rfl⟩ := Option.map_eq_some_iff.mp plugs
  exact List.mem_map_of_mem (mem_devicesAfter.mpr (.inr added))

theorem getElem?_concat_eq_some_iff {place : Nat} {found : Hotplug} :
    (changes ++ [change])[place]? = some found ↔
      changes[place]? = some found ∨ place = changes.length ∧ change = found := by
  rcases Nat.lt_trichotomy place changes.length with before | rfl | beyond
  · rw [List.getElem?_append_left before]
    simp [Nat.ne_of_lt before]
  · simp
  · rw [List.getElem?_eq_none (by simp; omega), List.getElem?_eq_none (by omega)]
    simp [Nat.ne_of_gt beyond]

theorem LastPlugged.lt_length {place : Nat} (last : LastPlugged id plugged? changes place device) :
    place < changes.length := by
  obtain ⟨change, found, -⟩ := Option.bind_eq_some_iff.mp last.1
  exact (List.getElem?_eq_some_iff.mp found).1

/-- What was plugged in last stays so until it is plugged in again. -/
theorem LastPlugged.concat {place : Nat} (last : LastPlugged id plugged? changes place device)
    (other : ¬Plugs id plugged? (id device) change) :
    LastPlugged id plugged? (changes ++ [change]) place device := by
  constructor
  · rw [List.getElem?_append_left last.lt_length]
    exact last.1
  · intro later after next found
    rcases getElem?_concat_eq_some_iff.mp found with earlier | ⟨-, rfl⟩
    · exact last.2 later after next earlier
    · exact other

/-- What is plugged in now is plugged in last. -/
theorem lastPlugged_concat_length (plugs : plugged? change = some device) :
    LastPlugged id plugged? (changes ++ [change]) changes.length device := by
  constructor
  · rw [List.getElem?_concat_length]
    exact plugs
  · intro later after next found
    rw [List.getElem?_eq_none (by simp; omega)] at found
    cases found

/-- A device is present after one more notification if it was plugged in by it, or was there and is
not removed by it. -/
theorem present_concat_iff {key : String} :
    Present id plugged? (changes ++ [change]) key ↔
      Present id plugged? changes key ∧ change ≠ .removed key ∨ Plugs id plugged? key change := by
  constructor
  · rintro ⟨place, added, found, plugs, kept⟩
    rcases getElem?_concat_eq_some_iff.mp found with earlier | ⟨-, rfl⟩
    · refine .inl ⟨⟨place, added, earlier, plugs, ?_⟩, ?_⟩
      · intro later after removed
        exact kept later after (getElem?_concat_eq_some_iff.mpr (.inl removed))
      · intro removes
        exact kept changes.length (List.getElem?_eq_some_iff.mp earlier).1
          (getElem?_concat_eq_some_iff.mpr (.inr ⟨rfl, removes⟩))
    · exact .inr plugs
  · rintro (⟨⟨place, added, earlier, plugs, kept⟩, remains⟩ | plugs)
    · refine ⟨place, added, getElem?_concat_eq_some_iff.mpr (.inl earlier), plugs, ?_⟩
      intro later after removed
      rcases getElem?_concat_eq_some_iff.mp removed with removed | ⟨-, removes⟩
      · exact kept later after removed
      · exact remains removes
    · refine ⟨changes.length, change, List.getElem?_concat_length, plugs, ?_⟩
      intro later after removed
      rw [List.getElem?_eq_none (by simp; omega)] at removed
      cases removed

theorem Follows.nil : Follows id plugged? [] [] where
  nodup := List.nodup_nil
  mem_iff key := by simp [Present]
  lastPlugged device mem := absurd mem List.not_mem_nil
  ordered := .nil

/-- One more notification changes the devices to what the notifications say then. -/
theorem Follows.concat (follows : Follows id plugged? changes devices) (change : Hotplug) :
    Follows id plugged? (changes ++ [change]) (devicesAfter id plugged? devices change) where
  nodup := by
    rw [devicesAfter, List.map_append, List.nodup_append]
    refine ⟨follows.nodup.sublist (List.filter_sublist.map id), ?_, ?_⟩
    · cases plugged? change with
      | none => exact List.nodup_nil
      | some added => exact List.nodup_singleton _
    · intro key known key' plugged same
      obtain ⟨device, kept, rfl⟩ := List.mem_map.mp known
      obtain ⟨added, plugs, rfl⟩ := List.mem_map.mp plugged
      obtain ⟨-, kept⟩ := List.mem_filter.mp kept
      have other := (of_decide_eq_true kept).1
      rw [Plugs, Option.mem_toList.mp plugs, Option.map_some, same] at other
      exact other rfl
  mem_iff key := by
    rw [present_concat_iff, ← follows.mem_iff]
    constructor
    · intro known
      obtain ⟨device, mem, rfl⟩ := List.mem_map.mp known
      rcases mem_devicesAfter.mp mem with ⟨mem, -, remains⟩ | plugs
      · exact .inl ⟨List.mem_map_of_mem mem, remains⟩
      · exact .inr (congrArg (Option.map id) plugs)
    · rintro (⟨known, remains⟩ | plugs)
      · obtain ⟨device, mem, rfl⟩ := List.mem_map.mp known
        by_cases again : Plugs id plugged? (id device) change
        · exact mem_devicesAfter_of_plugs devices again
        · exact List.mem_map_of_mem (mem_devicesAfter.mpr (.inl ⟨mem, again, remains⟩))
      · exact mem_devicesAfter_of_plugs devices plugs
  lastPlugged device mem := by
    rcases mem_devicesAfter.mp mem with ⟨mem, other, -⟩ | plugs
    · obtain ⟨place, last⟩ := follows.lastPlugged device mem
      exact ⟨place, last.concat other⟩
    · exact ⟨changes.length, lastPlugged_concat_length plugs⟩
  ordered := by
    rw [devicesAfter, List.pairwise_append]
    refine ⟨?_, ?_, ?_⟩
    · refine (follows.ordered.filter _).imp_of_mem ?_
      rintro first second firstKept secondKept ⟨place, later, before, firstLast, secondLast⟩
      have firstOther := (of_decide_eq_true (List.mem_filter.mp firstKept).2).1
      have secondOther := (of_decide_eq_true (List.mem_filter.mp secondKept).2).1
      exact ⟨place, later, before, firstLast.concat firstOther, secondLast.concat secondOther⟩
    · cases plugged? change with
      | none => exact .nil
      | some added => exact List.pairwise_singleton _ _
    · intro first kept added plugs
      obtain ⟨mem, kept⟩ := List.mem_filter.mp kept
      obtain ⟨place, last⟩ := follows.lastPlugged first mem
      exact ⟨place, changes.length, last.lt_length, last.concat (of_decide_eq_true kept).1,
        lastPlugged_concat_length (Option.mem_toList.mp plugs)⟩

end Kind

/-! ## Notifications -/

section Notifications

variable (inventory : Inventory) (changes : List Hotplug) (change : Hotplug)

/-- A notification acts on the microphones as on any list of devices. -/
theorem microphones_apply : (inventory.apply change).1.microphones =
    devicesAfter Microphone.id Hotplug.microphone? inventory.microphones change := by
  cases change with
  | microphone device => simp [apply, devicesAfter, Plugs, Hotplug.microphone?, eq_comm]
  | camera device => simp [apply, devicesAfter, Plugs, Hotplug.microphone?]
  | removed id => simp [apply, devicesAfter, Plugs, Hotplug.microphone?, eq_comm]

theorem cameras_apply : (inventory.apply change).1.cameras =
    devicesAfter Camera.id Hotplug.camera? inventory.cameras change := by
  cases change with
  | microphone device => simp [apply, devicesAfter, Plugs, Hotplug.camera?]
  | camera device => simp [apply, devicesAfter, Plugs, Hotplug.camera?, eq_comm]
  | removed id => simp [apply, devicesAfter, Plugs, Hotplug.camera?, eq_comm]

theorem after_concat : inventory.after (changes ++ [change]) =
    ((inventory.after changes).apply change).1 := by
  rw [after, List.foldl_append]
  rfl

/-- Where each notification is taken note of, the devices are what all of them say. -/
theorem follows_after {α : Type} {id : α → String} {plugged? : Hotplug → Option α}
    {listed : Inventory → List α} (empty : listed { } = [])
    (step : ∀ inventory change,
      listed (inventory.apply change).1 = devicesAfter id plugged? (listed inventory) change) :
    Follows id plugged? changes (listed (({ } : Inventory).after changes)) := by
  induction changes using List.reverseRecOn with
  | nil =>
      have none : listed (({ } : Inventory).after []) = [] := empty
      rw [none]
      exact Follows.nil
  | append_singleton changes change ih =>
      rw [after_concat, step]
      exact ih.concat change

theorem length_filter_ne_lt_iff {α : Type} (id : α → String) (key : String) (devices : List α) :
    (devices.filter fun device => id device ≠ key).length < devices.length ↔
      key ∈ devices.map id := by
  rw [List.length_filter_lt_length_iff_exists, List.mem_map]
  simp

theorem filter_ne_eq_self {α : Type} {id : α → String} {key : String} {devices : List α}
    (absent : key ∉ devices.map id) :
    (devices.filter fun device => id device ≠ key) = devices := by
  rw [List.filter_eq_self]
  intro device mem
  rw [decide_eq_true_iff]
  rintro rfl
  exact absent (List.mem_map_of_mem mem)

/-- A removal is reported exactly if a device had that identifier. -/
theorem apply_removed_iff (key : String) : (inventory.apply (.removed key)).2 = true ↔
    key ∈ inventory.microphones.map Microphone.id ∨ key ∈ inventory.cameras.map Camera.id := by
  have microphones := List.length_filter_le (fun known => known.id ≠ key) inventory.microphones
  have cameras := List.length_filter_le (fun known => known.id ≠ key) inventory.cameras
  rw [← length_filter_ne_lt_iff, ← length_filter_ne_lt_iff]
  simp only [apply, decide_eq_true_iff]
  omega

/-- A removal counts as a change exactly if it changes the inventory. -/
theorem apply_removed_ne_iff (key : String) : (inventory.apply (.removed key)).2 = true ↔
    (inventory.apply (.removed key)).1 ≠ inventory := by
  constructor
  · intro reported same
    have microphones := congrArg (fun known => known.microphones.length) same
    have cameras := congrArg (fun known => known.cameras.length) same
    simp only [apply, decide_eq_true_iff] at reported microphones cameras
    omega
  · intro changed
    by_contra unreported
    rw [apply_removed_iff, not_or] at unreported
    apply changed
    simp only [apply, filter_ne_eq_self unreported.1, filter_ne_eq_self unreported.2]

end Notifications

/-! ## Names -/

/-- Whether a list is another one with the first occurrence of an item moved to the front. -/
inductive Promoted (item : String) : List String → List String → Prop where
  | absent {items : List String} (absent : item ∉ items) : Promoted item items items
  | moved {front back : List String} (first : item ∉ front) :
      Promoted item (front ++ item :: back) (item :: (front ++ back))

theorem promoted_promote (item : String) (items : List String) :
    Promoted item items (promote item items) := by
  unfold promote
  split
  · rename_i known
    obtain ⟨front, back, rfl, first⟩ := List.eq_append_cons_of_mem (List.contains_iff_mem.mp known)
    rw [List.erase_append_right _ first, List.erase_cons_head]
    exact .moved first
  · rename_i unknown
    exact .absent fun mem => unknown (List.contains_iff_mem.mpr mem)

/-- A promotion lists the same names. -/
theorem Promoted.perm {item : String} {items promoted : List String}
    (moves : Promoted item items promoted) : promoted.Perm items := by
  cases moves with
  | absent _ => exact .refl _
  | moved _ => exact List.perm_middle.symm

theorem find?_of_not_mem {item : String} {items : List String} (absent : item ∉ items) :
    items.find? (· = item) = none := by
  rw [List.find?_eq_none]
  intro other mem same
  exact absent (of_decide_eq_true same ▸ mem)

/-- A promotion begins with the promoted name if that is listed, and with the first name otherwise.
-/
theorem Promoted.head? {item : String} {items promoted : List String}
    (moves : Promoted item items promoted) :
    promoted.head? = (items.find? (· = item)).or items.head? := by
  cases moves with
  | absent absent => rw [find?_of_not_mem absent, Option.none_or]
  | @moved front back first =>
      rw [List.find?_append, find?_of_not_mem first, Option.none_or,
        List.find?_cons_of_pos (by simp)]
      rfl

/-- How the devices with some names are listed and one of them is chosen: they are listed in their
order, the first place of a preferred name is moved to the front, and what is listed first is
chosen. -/
structure Offers (known : List String) (listed : Option String → List String)
    (chosen : Option String → Option String) : Prop where
  listed_none : listed none = known
  promoted (name : String) : Promoted name known (listed (some name))
  perm (preferred : Option String) : (listed preferred).Perm known
  head?_listed (preferred : Option String) : (listed preferred).head? = chosen preferred

/-- A search among the devices finds the one whose name a search among the names finds. -/
theorem map_preferred? {α : Type} (nameOf : α → String) (devices : List α) (name : String) :
    (preferred? nameOf devices (some name)).map nameOf =
      ((devices.map nameOf).find? (· = name)).or (devices.map nameOf).head? := by
  rw [preferred?, Option.bind_eq_bind, Option.bind_some, Option.orElse_eq_orElse,
    Option.orElse_eq_or, Option.map_or, List.find?_map, List.head?_map]
  rfl

/-- The names of devices with a preferred one in front, and the device chosen by preference, are
offered from the devices' own names. -/
theorem offers_preferred {α : Type} (nameOf : α → String) (devices : List α)
    {listed : Option String → List String} (unpreferred : listed none = devices.map nameOf)
    (preferring : ∀ name, listed (some name) = promote name (devices.map nameOf)) :
    Offers (devices.map nameOf) listed
      fun preferred => (preferred? nameOf devices preferred).map nameOf where
  listed_none := unpreferred
  promoted name := by
    rw [preferring]
    exact promoted_promote name (devices.map nameOf)
  perm preferred := by
    cases preferred with
    | none => rw [unpreferred]
    | some name =>
        rw [preferring]
        exact (promoted_promote name (devices.map nameOf)).perm
  head?_listed preferred := by
    cases preferred with
    | none =>
        rw [unpreferred, List.head?_map]
        rfl
    | some name =>
        rw [preferring, map_preferred?]
        exact (promoted_promote name (devices.map nameOf)).head?

/-- The inventory is what the notifications say about each kind of devices, and a removal is
reported exactly if it changes the inventory, which is if a device had that identifier. However an
inventory came about, its microphones and its cameras are each listed by name in their order, with
the first place of a preferred name moved to the front if it has one, and the device that is chosen
is the one that is listed first. -/
theorem follows_notifications (changes : List Hotplug) :
    (Follows Microphone.id Hotplug.microphone? changes
        (({ } : Inventory).after changes).microphones ∧
      Follows Camera.id Hotplug.camera? changes (({ } : Inventory).after changes).cameras) ∧
    (∀ (inventory : Inventory) (key : String),
      ((inventory.apply (.removed key)).2 = true ↔ (inventory.apply (.removed key)).1 ≠ inventory) ∧
      ((inventory.apply (.removed key)).2 = true ↔
        key ∈ inventory.microphones.map Microphone.id ∨ key ∈ inventory.cameras.map Camera.id)) ∧
    ∀ inventory : Inventory,
      Offers (inventory.microphones.map Microphone.name) (inventory.names .audio)
        (inventory.choose .audio) ∧
      Offers (inventory.cameras.map Camera.name) (inventory.names .video)
        (inventory.choose .video) := by
  refine ⟨⟨follows_after changes rfl microphones_apply, follows_after changes rfl cameras_apply⟩,
    ?_, ?_⟩
  · intro inventory key
    exact ⟨apply_removed_ne_iff inventory key, apply_removed_iff inventory key⟩
  · intro inventory
    exact ⟨offers_preferred Microphone.name inventory.microphones rfl fun _ => rfl,
      offers_preferred Camera.name inventory.cameras rfl fun _ => rfl⟩

/-- A microphone and a camera share an identifier and two microphones share a name; one microphone
is plugged in again under another name, and the camera goes away with the microphone. -/
def replugged : List Hotplug :=
  [.microphone ⟨"a", "Headset"⟩, .microphone ⟨"b", "Desk"⟩, .camera ⟨"c", "Desk", []⟩,
    .microphone ⟨"c", "Desk"⟩, .microphone ⟨"a", "Earphones"⟩, .removed "c",
    .microphone ⟨"d", "Desk"⟩]

theorem follows_notifications_replugged :
    (({ } : Inventory).after replugged).microphones =
      [⟨"b", "Desk"⟩, ⟨"a", "Earphones"⟩, ⟨"d", "Desk"⟩] ∧
    (({ } : Inventory).after replugged).cameras = [] ∧
    Precedes Microphone.id Hotplug.microphone? replugged ⟨"b", "Desk"⟩ ⟨"a", "Earphones"⟩ ∧
    ¬Present Camera.id Hotplug.camera? replugged "c" ∧
    (({ } : Inventory).after replugged).names .audio (some "Earphones") =
      ["Earphones", "Desk", "Desk"] ∧
    (({ } : Inventory).after replugged).choose .audio (some "Earphones") = some "Earphones" ∧
    (({ } : Inventory).after replugged).choose .audio (some "Headset") = some "Desk" ∧
    (({ } : Inventory).after replugged).choose .video none = none := by
  obtain ⟨⟨microphones, cameras⟩, -, offered⟩ := follows_notifications replugged
  obtain ⟨audio, video⟩ := offered (({ } : Inventory).after replugged)
  have heard : (({ } : Inventory).after replugged).microphones =
      [⟨"b", "Desk"⟩, ⟨"a", "Earphones"⟩, ⟨"d", "Desk"⟩] := by decide
  have seen : (({ } : Inventory).after replugged).cameras = [] := by decide
  refine ⟨heard, seen, ?_, ?_, by decide, ?_, ?_, ?_⟩
  · have ordered := microphones.ordered
    rw [heard] at ordered
    exact List.rel_of_pairwise_cons ordered (List.mem_cons_self)
  · rw [← cameras.mem_iff, seen]
    exact List.not_mem_nil
  · rw [← audio.head?_listed]
    decide
  · rw [← audio.head?_listed]
    decide
  · rw [← video.head?_listed]
    decide

end Inventory

end RoomCall
