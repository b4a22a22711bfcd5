import RoomCall.Proofs.Description.Exposure
import RoomCall.Proofs.Signal.Purposes

/-!
# Which engine names leave the device

The other side takes the stream of a section from the attribute that names it, whether or not a
track follows and whatever blanks stand around the name. Masking knows only pairs. So a message
hides the stream of a section exactly if the attribute spells a pair out; otherwise the name that
the engine chose is sent as it is.
-/

namespace RoomCall.Description

/-- A supply whose next texts cannot be taken for anything that stands in a description. -/
structure Unmistakable (names : Supply) (description : String) : Prop extends NamesApart names where
  absent : ∀ index, names.used ≤ index → ¬(names.text index).toList <:+: description.toList
  unmarked : ∀ index, names.used ≤ index → ¬pairMark <:+: (names.text index).toList

/-- What the section of a masked description shows of its stream, by the naming text of the section
in the description itself: nothing, if it has none; the replacement, if it starts with a pair; and
otherwise its own first word, in which at most the names behind an inner mark are replaced. -/
inductive Shows (table : List (String × String)) : Option (List Char) → Option String → Prop
  | nothing : Shows table none none
  | replaced {names rest : List Char} {stream track replacement : String}
      (pair : pairAt? (pairMark ++ names) = some (stream, track, rest))
      (entry : (stream, replacement) ∈ table) : Shows table (some names) (some replacement)
  | exposed {names : List Char} {word shown : String}
      (single : pairAt? (pairMark ++ names) = none) (first : firstName? names = some word)
      (own : shown = word ∨ pairMark <:+: word.toList ∧ pairMark <:+: shown.toList)
      (unlisted : shown ∉ table.map Prod.snd) : Shows table (some names) (some shown)

/-- A stream is hidden exactly if its naming text starts with a pair. -/
theorem Shows.hidden_iff {table : List (String × String)} {text : Option (List Char)}
    {shown : Option String} (shows : Shows table text shown) :
    (∀ stream ∈ shown, stream ∈ table.map Prod.snd) ↔
      ∀ names ∈ text, (pairAt? (pairMark ++ names)).isSome = true := by
  cases shows with
  | nothing => simp
  | replaced pair entry =>
      rename_i stream track replacement
      have listed : replacement ∈ table.map Prod.snd := List.mem_map.mpr ⟨_, entry, rfl⟩
      simpa [pair] using listed
  | exposed single first own unlisted => simpa [single] using unlisted

theorem hidden_iff_of_shows {table : List (String × String)} {texts : List (Option (List Char))}
    {streams : List (Option String)} (shows : List.Forall₂ (Shows table) texts streams) :
    (∀ shown ∈ streams, ∀ stream ∈ shown, stream ∈ table.map Prod.snd) ↔
      ∀ text ∈ texts, ∀ names ∈ text, (pairAt? (pairMark ++ names)).isSome = true := by
  induction shows with
  | nil => simp
  | cons one _ ih => simp only [List.forall_mem_cons, one.hidden_iff, ih]

/-- The replacements of a masked description are texts of the supply. -/
theorem mem_supply_of_mem_table {names : Supply} {description replacement : String}
    (there : replacement ∈ (mask names description).1.table.map Prod.snd) :
    ∃ index, names.used ≤ index ∧ names.text index = replacement := by
  obtain ⟨final, orderly, -, table, -, -⟩ := exists_masking names description
  rw [table] at there
  obtain ⟨index, lower, -, drawn⟩ := orderly.mem_replacements.mp there
  exact ⟨index, lower, drawn⟩

section

variable {names : Supply} {description : String} (fresh : Unmistakable names description)
include fresh

/-- The sections of a masked description, in order, and what they show of their streams. -/
theorem shows_mask :
    let masked := (mask names description).1
    List.Forall₂ (Shows masked.table) (namingTexts description)
      ((sections masked.description).map Section.stream) := by
  obtain ⟨final, orderly, known, table, written, -⟩ := exists_masking names description
  have keeps : ∀ name : String, IsName name.toList → IsName (nameIn final.table name).toList :=
    fun name named => orderly.isName_nameIn fresh.toNamesApart named
  have whole : (mask names description).1.description =
      String.ofList (renamed (nameIn final.table) description.toList) := by
    rw [← written, String.ofList_toList]
  dsimp only
  rw [streams_sections, whole, namingTexts_renamed keeps, List.map_map, table,
    List.forall₂_map_right_iff, List.forall₂_same]
  intro text there
  cases text with
  | none => exact .nothing
  | some naming =>
      rw [Function.comp_apply, Option.map_some, Option.bind_eq_bind, Option.bind_some, firstName?,
        renamedNames]
      cases found : pairAt? (pairMark ++ naming) with
      | some pair =>
          obtain ⟨stream, track, rest⟩ := pair
          have named := (pairAt?_eq_some_iff.mp found).2.1
          obtain ⟨replacement, entry⟩ :=
            find?_key ((known stream).mpr (mem_names_of_namingTexts there found))
          have inTable : (stream, replacement) ∈ final.table := List.mem_of_find?_eq_some entry
          dsimp only
          rw [(keeps stream named).firstWord?_append (endsName_space _), Option.map_some,
            String.ofList_toList, orderly.nameIn_of_mem inTable]
          exact .replaced found inTable
      | none =>
          obtain ⟨word, first⟩ :=
            Option.isSome_iff_exists.mp (exists_line_of_namingTexts there).2
          obtain ⟨shown, firstShown, own⟩ := exists_firstWord?_renamed first
          dsimp only
          rw [firstShown, Option.map_some]
          refine .exposed found (by rw [firstName?, first, Option.map_some]) ?_ ?_
          · refine own.imp (congrArg String.ofList) fun both => ?_
            simpa only [String.toList_ofList] using both
          · intro listed
            obtain ⟨index, lower, -, drawn⟩ := orderly.mem_replacements.mp listed
            have spelled : shown = (names.text index).toList := by
              rw [drawn, String.toList_ofList]
            rcases own with rfl | ⟨-, marked⟩
            · exact fresh.absent index lower (spelled ▸ infix_of_namingTexts there first)
            · exact fresh.unmarked index lower (spelled ▸ marked)

end

theorem unmistakable_letters {description : String} (absent : 'x' ∉ description.toList) :
    Unmistakable letters description where
  toNamesApart := namesApart_letters
  absent index _ inside := by
    refine absent (inside.subset ?_)
    simp [letters]
  unmarked index _ marked := by
    have spelled : 'm' ∈ (letters.text index).toList := marked.subset (by decide)
    simp [letters] at spelled

/-- The sections of a description have the streams that their naming texts start with, and the
sections of the masked description show what `Shows` says of them. So all streams are fresh names
exactly if every naming text starts with a pair. Whatever kind of message the description is sent
in, the masked description is what is heard of it. -/
theorem streams_hidden_iff (names : Supply) (description : String)
    (fresh : Unmistakable names description) :
    let masked := (mask names description).1
    (sections description).map Section.stream =
        ((namingTexts description).map fun text => text >>= firstName?) ∧
      List.Forall₂ (Shows masked.table) (namingTexts description)
        ((sections masked.description).map Section.stream) ∧
      (∀ replacement ∈ masked.table.map Prod.snd,
        ∃ index, names.used ≤ index ∧ names.text index = replacement) ∧
      ((∀ current ∈ sections masked.description, ∀ stream ∈ current.stream,
          stream ∈ masked.table.map Prod.snd) ↔
        ∀ text ∈ namingTexts description, ∀ naming ∈ text,
          (pairAt? (pairMark ++ naming)).isSome = true) ∧
      ∀ (style : SignalStyle) (call : CallId) (party : PartyId) (draft : Draft),
        draft.description? = some description → call.text ≠ "" →
          Text.allBlank description = false → ∀ id sender sentAt, ∃ message,
            Signal.ofEvent ⟨id, draft.kind.eventType, sender, sentAt,
              (draft.write style names call party).content⟩ = .ok ⟨sender, sentAt, message⟩ ∧
            message.description? = some masked.description := by
  have shows := shows_mask fresh
  dsimp only at shows ⊢
  refine ⟨streams_sections description, shows, fun _ => mem_supply_of_mem_table, ?_, ?_⟩
  · rw [← hidden_iff_of_shows shows, List.forall_mem_map]
  · intro style call party draft describes named words id sender sentAt
    obtain ⟨message, heard, carried, -⟩ :=
      Draft.exists_described style names party describes named words id sender sentAt
    exact ⟨message, heard, carried⟩

theorem streams_hidden_iff_letters :
    Unmistakable letters "m=audio 9\na=msid:s  t" ∧
      ((∀ current ∈ sections (mask letters "m=audio 9\na=msid:s  t").1.description,
          ∀ stream ∈ current.stream,
            stream ∈ (mask letters "m=audio 9\na=msid:s  t").1.table.map Prod.snd) ↔
        ∀ text ∈ namingTexts "m=audio 9\na=msid:s  t", ∀ naming ∈ text,
          (pairAt? (pairMark ++ naming)).isSome = true) := by
  have fresh : Unmistakable letters "m=audio 9\na=msid:s  t" := unmistakable_letters (by decide)
  obtain ⟨-, -, -, hidden, -⟩ := streams_hidden_iff letters "m=audio 9\na=msid:s  t" fresh
  exact ⟨fresh, hidden⟩

/-- The streams `s` and `t` of the engine leave the device in an answer: no track follows the first
one, and two blanks stand in front of the track of the second one. -/
theorem exists_visible_stream :
    ∃ (names : Supply) (description : String), Unmistakable names description ∧
      (∀ index, names.used ≤ index → names.text index ≠ "s" ∧ names.text index ≠ "t") ∧
      (sections description).map Section.stream = [some "s", some "t"] ∧
      ∃ message, Signal.ofEvent ⟨⟨"$1"⟩, SignalKind.answer.eventType, ⟨"@alice:home"⟩, 0,
          ((Draft.answer description).write {} names ⟨"call"⟩ ⟨"party"⟩).content⟩ =
            .ok ⟨⟨"@alice:home"⟩, 0, message⟩ ∧
        (message.description?.map fun sent => (sections sent).map Section.stream) =
          some [some "s", some "t"] := by
  let description := "m=audio 9\na=msid:s\nm=video 9\na=msid:t  u"
  have fresh : Unmistakable letters description := unmistakable_letters (by decide)
  have masked : (mask letters description).1.description = description := by decide +kernel
  have streams : (sections description).map Section.stream = [some "s", some "t"] := by
    decide +kernel
  have describes : (Draft.answer description).description? = some description := rfl
  have named : (CallId.mk "call").text ≠ "" := by decide
  have words : Text.allBlank description = false := by decide
  obtain ⟨message, heard, carried, -⟩ := Draft.exists_described {} letters ⟨"party"⟩ describes named
    words ⟨"$1"⟩ ⟨"@alice:home"⟩ 0
  have spelled (index : Nat) {name : String} (other : 'x' ∉ name.toList) :
      letters.text index ≠ name := by
    rintro rfl
    exact other (by simp [letters])
  refine ⟨letters, description, fresh,
    fun index _ => ⟨spelled index (by decide), spelled index (by decide)⟩, streams, message, heard, ?_⟩
  rw [carried, masked, Option.map_some, streams]

end RoomCall.Description
