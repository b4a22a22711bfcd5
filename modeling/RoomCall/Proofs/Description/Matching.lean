import RoomCall.Description.Streams

/-!
# Where the pairs of a description stand

A pair is what the pattern `msid:(\S+) (\S+)` matches: the mark, one or more name characters, one
space, one or more name characters. A backtracking matcher tries the ways to match the pattern in
an order of preference, a longer name before a shorter one, and takes the first that succeeds; it
looks for a match at each place from the left, and goes on behind the match it found. Here that
reading is written down with all its ways, and `segments` is shown to be the one reading there is.
-/

namespace RoomCall.Description

/-! ## Names -/

/-- A name: at least one character, and no blank. -/
def IsName (characters : List Char) : Prop :=
  characters ≠ [] ∧ ∀ character ∈ characters, isNameCharacter character = true

/-- A text in which a name cannot go on. -/
def EndsName (text : List Char) : Prop :=
  ∀ character ∈ text.head?, isNameCharacter character = false

theorem endsName_dropWhile (text : List Char) : EndsName (text.dropWhile isNameCharacter) := by
  intro character first
  have stop := List.head?_dropWhile_not isNameCharacter text
  rw [Option.mem_def.mp first] at stop
  exact stop

theorem IsName.takeWhile_append {name later : List Char} (named : IsName name)
    (ends : EndsName later) : (name ++ later).takeWhile isNameCharacter = name := by
  rw [List.takeWhile_append_of_pos named.2]
  cases later with
  | nil => simp
  | cons character rest => simp [ends character (by simp)]

theorem IsName.dropWhile_append {name later : List Char} (named : IsName name)
    (ends : EndsName later) : (name ++ later).dropWhile isNameCharacter = later := by
  rw [List.dropWhile_append_of_pos named.2]
  cases later with
  | nil => simp
  | cons character rest => simp [ends character (by simp)]

theorem isName_takeWhile {text : List Char} (starts : text.takeWhile isNameCharacter ≠ []) :
    IsName (text.takeWhile isNameCharacter) :=
  ⟨starts, List.all_eq_true.mp List.all_takeWhile⟩

/-- A space is no part of a name. -/
theorem endsName_space (text : List Char) : EndsName (' ' :: text) := by
  intro character first
  obtain rfl : ' ' = character := by simpa using first
  decide

/-- A pair starts a text exactly if the text is the mark and two names with a space between them,
and the second name goes as far as it can. -/
theorem pairAt?_eq_some_iff {text rest : List Char} {stream track : String} :
    pairAt? text = some (stream, track, rest) ↔
      text = pairMark ++ (stream.toList ++ ' ' :: (track.toList ++ rest)) ∧
        IsName stream.toList ∧ IsName track.toList ∧ EndsName rest := by
  constructor
  · intro found
    unfold pairAt? at found
    split at found
    · simp at found
    · rename_i names marked
      split at found
      · rename_i after dropped
        dsimp only at found
        split at found
        · simp at found
        · rename_i bothNamed
          simp only [Option.some.injEq, Prod.mk.injEq] at found
          obtain ⟨rfl, rfl, rfl⟩ := found
          simp only [Bool.or_eq_true, List.isEmpty_iff, not_or] at bothNamed
          simp only [String.toList_ofList]
          refine ⟨?_, isName_takeWhile bothNamed.1, isName_takeWhile bothNamed.2,
            endsName_dropWhile after⟩
          rw [List.takeWhile_append_dropWhile, ← dropped, List.takeWhile_append_dropWhile]
          exact Text.after?_eq_some_iff.mp marked
      · simp at found
  · rintro ⟨rfl, streamNamed, trackNamed, ends⟩
    have marked : Text.after? pairMark
        (pairMark ++ (stream.toList ++ ' ' :: (track.toList ++ rest))) =
          some (stream.toList ++ ' ' :: (track.toList ++ rest)) :=
      Text.after?_eq_some_iff.mpr rfl
    have spaced := endsName_space (track.toList ++ rest)
    rw [pairAt?, marked]
    simp only [streamNamed.dropWhile_append spaced, streamNamed.takeWhile_append spaced,
      trackNamed.takeWhile_append ends, trackNamed.dropWhile_append ends, String.ofList_toList]
    simp [streamNamed.1, trackNamed.1]

/-! ## All ways to match -/

/-- The ways to read a name at the start of a text and go on, longer names first. -/
def nameWays : List Char → List (List Char × List Char)
  | [] => []
  | character :: later =>
      if isNameCharacter character then
        (nameWays later).map (fun way => (character :: way.1, way.2)) ++ [([character], later)]
      else
        []

/-- The ways to match a pair at the start of a text and go on, in the order in which a backtracking
matcher tries them. -/
def pairWays (text : List Char) : List (String × String × List Char) :=
  match Text.after? pairMark text with
  | none => []
  | some names =>
      (nameWays names).flatMap fun first =>
        match first.2 with
        | ' ' :: after =>
            (nameWays after).map fun second =>
              (String.ofList first.1, String.ofList second.1, second.2)
        | _ => []

theorem mem_nameWays_iff {text name later : List Char} :
    (name, later) ∈ nameWays text ↔ text = name ++ later ∧ IsName name := by
  induction text generalizing name with
  | nil =>
      simp only [nameWays, List.not_mem_nil, false_iff, not_and]
      intro whole named
      exact named.1 (List.append_eq_nil_iff.mp whole.symm).1
  | cons character rest ih =>
      cases name with
      | nil =>
          simp only [nameWays, IsName, ne_eq, not_true_eq_false, false_and, and_false, iff_false]
          split <;> simp
      | cons first name =>
          by_cases isNamed : isNameCharacter character = true
          · simp only [nameWays, isNamed, if_true, List.mem_append, List.mem_map, Prod.mk.injEq,
              List.mem_singleton, List.cons_append, List.cons.injEq]
            constructor
            · rintro (⟨⟨shorter, after⟩, there, ⟨rfl, rfl⟩, rfl⟩ | ⟨⟨rfl, rfl⟩, rfl⟩)
              · obtain ⟨whole, named⟩ := ih.mp there
                exact ⟨⟨rfl, whole⟩, by simp, by simpa [isNamed] using named.2⟩
              · exact ⟨⟨rfl, rfl⟩, by simp, by simpa using isNamed⟩
            · rintro ⟨⟨rfl, whole⟩, named⟩
              cases name with
              | nil => exact .inr ⟨⟨rfl, rfl⟩, by simpa using whole.symm⟩
              | cons second name =>
                  refine .inl ⟨(second :: name, later), ih.mpr ⟨whole, by simp, ?_⟩, ⟨rfl, rfl⟩, rfl⟩
                  intro inner inside
                  exact named.2 inner (List.mem_cons_of_mem _ inside)
          · simp only [nameWays, isNamed, Bool.false_eq_true, if_false, List.not_mem_nil,
              false_iff, not_and]
            intro whole named
            obtain rfl : character = first := by simpa using (List.cons.inj whole).1
            exact isNamed (named.2 character (by simp))

/-- The preferred way to read a name is the longest one. -/
theorem head?_nameWays (text : List Char) :
    (nameWays text).head? =
      if text.takeWhile isNameCharacter = [] then none
      else some (text.takeWhile isNameCharacter, text.dropWhile isNameCharacter) := by
  induction text with
  | nil => rfl
  | cons character rest ih =>
      by_cases isNamed : isNameCharacter character = true
      · simp only [nameWays, isNamed, if_true, List.takeWhile_cons, List.dropWhile_cons,
          List.head?_append, List.head?_map, ih]
        by_cases stops : rest.takeWhile isNameCharacter = []
        · have stays : rest.dropWhile isNameCharacter = rest := by
            simpa [stops] using List.takeWhile_append_dropWhile (p := isNameCharacter) (l := rest)
          simp [stops, stays]
        · simp [stops]
      · simp [nameWays, isNamed]

/-- Every way to match a pair takes the mark, two names and the space between them. -/
theorem mem_pairWays_iff {text rest : List Char} {stream track : String} :
    (stream, track, rest) ∈ pairWays text ↔
      text = pairMark ++ (stream.toList ++ ' ' :: (track.toList ++ rest)) ∧
        IsName stream.toList ∧ IsName track.toList := by
  constructor
  · intro there
    unfold pairWays at there
    split at there
    · simp at there
    · rename_i names marked
      obtain ⟨⟨first, afterFirst⟩, firstWay, second⟩ := List.mem_flatMap.mp there
      dsimp only at second
      split at second
      · rename_i after
        obtain ⟨⟨last, afterLast⟩, lastWay, same⟩ := List.mem_map.mp second
        simp only [Prod.mk.injEq] at same
        obtain ⟨rfl, rfl, rfl⟩ := same
        obtain ⟨firstWhole, firstNamed⟩ := mem_nameWays_iff.mp firstWay
        obtain ⟨lastWhole, lastNamed⟩ := mem_nameWays_iff.mp lastWay
        simp only [String.toList_ofList]
        refine ⟨?_, firstNamed, lastNamed⟩
        rw [Text.after?_eq_some_iff.mp marked, firstWhole, lastWhole]
      · simp at second
  · rintro ⟨rfl, streamNamed, trackNamed⟩
    have marked : Text.after? pairMark
        (pairMark ++ (stream.toList ++ ' ' :: (track.toList ++ rest))) =
          some (stream.toList ++ ' ' :: (track.toList ++ rest)) :=
      Text.after?_eq_some_iff.mpr rfl
    rw [pairWays, marked]
    refine List.mem_flatMap.mpr ⟨(stream.toList, ' ' :: (track.toList ++ rest)),
      mem_nameWays_iff.mpr ⟨rfl, streamNamed⟩, ?_⟩
    exact List.mem_map.mpr ⟨(track.toList, rest), mem_nameWays_iff.mpr ⟨rfl, trackNamed⟩,
      by simp⟩

/-- Where a name ends, the longest way to read it comes first. -/
theorem nameWays_append {name later : List Char} (named : IsName name) (ends : EndsName later) :
    ∃ shorter, nameWays (name ++ later) = (name, later) :: shorter := by
  have longest := head?_nameWays (name ++ later)
  rw [named.takeWhile_append ends, named.dropWhile_append ends, if_neg named.1] at longest
  exact List.head?_eq_some_iff.mp longest

/-- The pair at the start of a text is the way that a backtracking matcher finds first. -/
theorem pairAt?_eq_head? (text : List Char) : pairAt? text = (pairWays text).head? := by
  cases found : pairAt? text with
  | none =>
      symm
      rw [List.head?_eq_none_iff, List.eq_nil_iff_forall_not_mem]
      rintro ⟨stream, track, rest⟩ way
      obtain ⟨whole, streamNamed, trackNamed⟩ := mem_pairWays_iff.mp way
      -- The way may stop inside a name; the pair then has the rest of the name in its track.
      have further : pairAt? text = some (stream,
          String.ofList ((track.toList ++ rest).takeWhile isNameCharacter),
          (track.toList ++ rest).dropWhile isNameCharacter) := by
        rw [pairAt?_eq_some_iff, String.toList_ofList, List.takeWhile_append_dropWhile]
        refine ⟨whole, streamNamed, isName_takeWhile ?_, endsName_dropWhile _⟩
        rw [List.takeWhile_append_of_pos trackNamed.2]
        exact fun empty => trackNamed.1 (List.append_eq_nil_iff.mp empty).1
      rw [found] at further
      exact nomatch further
  | some pair =>
      obtain ⟨stream, track, rest⟩ := pair
      obtain ⟨whole, streamNamed, trackNamed, ends⟩ := pairAt?_eq_some_iff.mp found
      obtain ⟨shorterStreams, streamWays⟩ :=
        nameWays_append streamNamed (endsName_space (track.toList ++ rest))
      obtain ⟨shorterTracks, trackWays⟩ := nameWays_append trackNamed ends
      have marked : Text.after? pairMark text =
          some (stream.toList ++ ' ' :: (track.toList ++ rest)) :=
        Text.after?_eq_some_iff.mpr whole
      simp [pairWays, marked, streamWays, trackWays]

/-! ## Scanning -/

/-- The reading of a text from the left: at the first place where the pattern matches, the
preferred match is a pair, and the reading goes on behind it. Characters that no match reaches
stay what they are. -/
inductive Scan : List Char → List Segment → Prop
  | unmatched (text : List Char)
      (none : ∀ before here, before ++ here = text → pairWays here = []) :
      Scan text (text.map .character)
  | matched (before here rest : List Char) (stream track : String) (later : List Segment)
      (leftmost : ∀ earlier there, earlier ++ there = before ++ here →
        earlier.length < before.length → pairWays there = [])
      (preferred : (pairWays here).head? = some (stream, track, rest))
      (further : Scan rest later) :
      Scan (before ++ here) (before.map .character ++ .pair stream track :: later)

theorem Scan.cons {character : Char} {text : List Char} {parts : List Segment}
    (none : pairWays (character :: text) = []) (scan : Scan text parts) :
    Scan (character :: text) (.character character :: parts) := by
  cases scan with
  | unmatched _ unmatched =>
      refine .unmatched (character :: text) fun before here whole => ?_
      cases before with
      | nil => exact (List.nil_append here ▸ whole) ▸ none
      | cons first before => exact unmatched before here (List.cons.inj whole).2
  | matched before here rest stream track later leftmost preferred further =>
      refine .matched (character :: before) here rest stream track later ?_ preferred further
      intro earlier there whole shorter
      cases earlier with
      | nil => exact (List.nil_append there ▸ whole) ▸ none
      | cons first earlier =>
          exact leftmost earlier there (List.cons.inj whole).2 (Nat.lt_of_succ_lt_succ shorter)

@[simp]
theorem segments_nil : segments [] = [] := by
  rw [segments]

theorem segments_of_pairAt? {text rest : List Char} {stream track : String}
    (found : pairAt? text = some (stream, track, rest)) :
    segments text = .pair stream track :: segments rest := by
  cases text with
  | nil => exact absurd (length_lt_of_pairAt? found) (Nat.not_lt_zero _)
  | cons character later =>
      rw [segments]
      split <;> simp_all

theorem segments_cons {character : Char} {later : List Char}
    (unpaired : pairAt? (character :: later) = none) :
    segments (character :: later) = .character character :: segments later := by
  rw [segments]
  split <;> simp_all

/-- The segments of a text are its reading from the left. -/
theorem scan_segments (text : List Char) : Scan text (segments text) := by
  induction text using segments.induct with
  | case1 =>
      rw [segments_nil]
      refine .unmatched [] fun before here whole => ?_
      rw [(List.append_eq_nil_iff.mp whole).2]
      rfl
  | case2 character later stream track rest found ih =>
      rw [segments_of_pairAt? found]
      refine .matched [] (character :: later) rest stream track _ ?_ ?_ ih
      · intro earlier there _ shorter
        exact absurd shorter (Nat.not_lt_zero _)
      · rw [← pairAt?_eq_head?, found]
  | case3 character later found ih =>
      rw [segments_cons found]
      refine Scan.cons ?_ ih
      rw [← List.head?_eq_none_iff, ← pairAt?_eq_head?, found]

/-- A text has one reading. -/
theorem Scan.unique {text : List Char} {first second : List Segment} (one : Scan text first)
    (other : Scan text second) : first = second := by
  induction one generalizing second with
  | unmatched text none =>
      cases other with
      | unmatched => rfl
      | matched before here rest stream track later leftmost preferred further =>
          rw [none before here rfl] at preferred
          exact nomatch preferred
  | matched before here rest stream track later leftmost preferred further ih =>
      generalize whole : before ++ here = text at other
      cases other with
      | unmatched _ none =>
          rw [none before here whole] at preferred
          exact nomatch preferred
      | matched before' here' rest' stream' track' later' leftmost' preferred' further' =>
          have aligned : before.length = before'.length := by
            rcases Nat.lt_trichotomy before.length before'.length with less | same | more
            · rw [leftmost' before here whole less] at preferred
              exact nomatch preferred
            · exact same
            · rw [leftmost before' here' whole.symm more] at preferred'
              exact nomatch preferred'
          obtain ⟨rfl, rfl⟩ := List.append_inj whole aligned
          obtain ⟨rfl, rfl, rfl⟩ : stream = stream' ∧ track = track' ∧ rest = rest' := by
            simpa using preferred.symm.trans preferred'
          rw [ih further']

theorem scan_iff {text : List Char} {parts : List Segment} :
    Scan text parts ↔ parts = segments text :=
  ⟨fun scan => scan.unique (scan_segments text), fun same => same ▸ scan_segments text⟩

/-- Nothing of a text is lost in its segments. -/
theorem characters_segments (text : List Char) :
    (segments text).flatMap Segment.characters = text := by
  induction text using segments.induct with
  | case1 => rw [segments_nil]; rfl
  | case2 character later stream track rest found ih =>
      rw [segments_of_pairAt? found, List.flatMap_cons, ih, (pairAt?_eq_some_iff.mp found).1]
      simp [Segment.characters]
  | case3 character later found ih =>
      rw [segments_cons found, List.flatMap_cons, ih]
      rfl

end RoomCall.Description
