import RoomCall.Proofs.Description.Unmasking

/-!
# Which streams a masked description lists

Beside the masked description stands a list of streams. A name gets there when it is replaced for
the first time, and only if it stands for a stream at that place: a name that is a track of an
earlier pair is known by then and never listed. So the list has the streams of the pairs, each once
and in the order in which they appear as streams, without those that appeared as a track before.
-/

namespace RoomCall.Description

/-! ## First appearances -/

section

variable {α β : Type} [BEq α] [LawfulBEq α] [BEq β] [LawfulBEq β]

/-- Of equal items the first one stays, whether some items are dropped before or after. -/
theorem eraseDups_filter (keep : α → Bool) (items : List α) :
    (items.filter keep).eraseDups = items.eraseDups.filter keep := by
  match items with
  | [] => rfl
  | item :: later =>
      have ih := eraseDups_filter keep (later.filter fun other => !other == item)
      have swap : ((later.filter keep).filter fun other => !other == item) =
          (later.filter fun other => !other == item).filter keep := by
        rw [List.filter_filter, List.filter_filter]
        exact List.filter_congr fun other _ => Bool.and_comm _ _
      rw [List.eraseDups_cons]
      by_cases kept : keep item = true
      · rw [List.filter_cons_of_pos kept, List.filter_cons_of_pos kept, List.eraseDups_cons, swap,
          ih]
      · have absent : (later.filter keep).filter (fun other => !other == item) =
            later.filter keep := by
          refine List.filter_eq_self.mpr fun other there => ?_
          have different : other ≠ item := fun same => kept (same ▸ (List.mem_filter.mp there).2)
          simpa using different
        rw [List.filter_cons_of_neg kept, List.filter_cons_of_neg kept, ← ih, ← swap, absent]
termination_by items.length
decreasing_by
  exact Nat.lt_succ_of_le (List.length_filter_le _ _)

/-- The first appearances are not moved by a map that keeps different items apart. -/
theorem eraseDups_map (change : α → β) (items : List α)
    (apart : ∀ first ∈ items, ∀ second ∈ items, change first = change second → first = second) :
    (items.map change).eraseDups = items.eraseDups.map change := by
  match items with
  | [] => rfl
  | item :: later =>
      have ih := eraseDups_map change (later.filter fun other => !other == item)
        fun first inFirst second inSecond =>
          apart first (List.mem_cons_of_mem _ (List.mem_filter.mp inFirst).1) second
            (List.mem_cons_of_mem _ (List.mem_filter.mp inSecond).1)
      have others : (later.map change).filter (fun other => !other == change item) =
          (later.filter fun other => !other == item).map change := by
        rw [List.filter_map]
        congr 1
        refine List.filter_congr fun other there => ?_
        have same : (change other == change item) = (other == item) := by
          rw [Bool.eq_iff_iff, beq_iff_eq, beq_iff_eq]
          exact ⟨apart other (List.mem_cons_of_mem _ there) item (by simp), congrArg change⟩
        simp [same]
      rw [List.map_cons, List.eraseDups_cons, List.eraseDups_cons, List.map_cons, others, ih]
termination_by items.length
decreasing_by
  exact Nat.lt_succ_of_le (List.length_filter_le _ _)

theorem nodup_eraseDups (items : List α) : items.eraseDups.Nodup := by
  match items with
  | [] => exact List.nodup_nil
  | item :: later =>
      rw [List.eraseDups_cons, List.nodup_cons]
      refine ⟨fun there => ?_, nodup_eraseDups (later.filter fun other => !other == item)⟩
      simpa using (List.mem_filter.mp (List.mem_eraseDups.mp there)).2
termination_by items.length
decreasing_by
  exact Nat.lt_succ_of_le (List.length_filter_le _ _)

end

/-! ## The streams of a reading -/

namespace Segment

/-- The stream in a segment. -/
def streams : Segment → List String
  | .character _ => []
  | .pair stream _ => [stream]

/-- The track in a segment. -/
def tracks : Segment → List String
  | .character _ => []
  | .pair _ track => [track]

end Segment

/-- The names that stand for streams in some segments, in order. -/
def streamNames (parts : List Segment) : List String :=
  parts.flatMap Segment.streams

/-- The names that stand for tracks in some segments, in order. -/
def trackNames (parts : List Segment) : List String :=
  parts.flatMap Segment.tracks

/-- Whether a name stands for a stream at the first place where it stands in some segments. -/
def leads (name : String) : List Segment → Bool
  | [] => false
  | .character _ :: later => leads name later
  | .pair stream track :: later =>
      if stream = name then true else if track = name then false else leads name later

/-- A name leads if it is the stream of a pair and the track of no earlier one. -/
theorem leads_iff {name : String} {parts : List Segment} :
    leads name parts = true ↔
      ∃ before track after, parts = before ++ .pair name track :: after ∧
        name ∉ trackNames before := by
  induction parts with
  | nil => simp [leads]
  | cons part later ih =>
      have shift (part : Segment) (other : name ∉ part.tracks) :
          leads name later = true → ∃ before track after,
            part :: later = before ++ .pair name track :: after ∧ name ∉ trackNames before := by
        intro leading
        obtain ⟨before, track, after, rfl, fresh⟩ := ih.mp leading
        refine ⟨part :: before, track, after, rfl, ?_⟩
        simpa [trackNames, other] using fresh
      constructor
      · intro leading
        cases part with
        | character value => exact shift _ (by simp [Segment.tracks]) leading
        | pair stream track =>
            unfold leads at leading
            split at leading
            · rename_i same
              exact ⟨[], track, later, by rw [same]; rfl, by simp [trackNames]⟩
            · split at leading
              · exact absurd leading (by simp)
              · rename_i other
                exact shift _ (by simpa [Segment.tracks] using Ne.symm other) leading
      · rintro ⟨before, track, after, whole, fresh⟩
        cases before with
        | nil =>
            obtain ⟨rfl, rfl⟩ := List.cons.inj whole
            simp [leads]
        | cons first before =>
            obtain ⟨rfl, rfl⟩ := List.cons.inj whole
            simp only [trackNames, List.flatMap_cons, List.mem_append, not_or] at fresh
            have further := ih.mpr ⟨before, track, after, rfl, fresh.2⟩
            cases part with
            | character value => exact further
            | pair stream other =>
                have different : other ≠ name := by
                  simpa [Segment.tracks, eq_comm] using fresh.1
                have onward : leads name (before ++ .pair name track :: after) = true := further
                simp [leads, different, onward]

/-- A name that leads is the stream of a pair. -/
theorem mem_streamNames_of_leads {name : String} {parts : List Segment}
    (leading : leads name parts = true) : name ∈ streamNames parts := by
  obtain ⟨before, track, after, rfl, -⟩ := leads_iff.mp leading
  simp [streamNames, Segment.streams]

/-! ## What masking lists -/

namespace Masking

variable {start : Supply}

/-- A name that is replaced is known afterwards, together with all that were known before. -/
theorem mem_names_replaceStream (masking : Masking) (stream name : String) :
    name ∈ (masking.replaceStream stream).2.table.map Prod.fst ↔
      name ∈ masking.table.map Prod.fst ∨ name = stream := by
  rw [(learns_replaceStream masking.supply masking stream).1.known, List.mem_singleton]

theorem mem_names_replaceTrack (masking : Masking) (track name : String) :
    name ∈ (masking.replaceTrack track).2.table.map Prod.fst ↔
      name ∈ masking.table.map Prod.fst ∨ name = track := by
  change name ∈ (masking.replace track).2.2.table.map Prod.fst ↔ _
  rw [(learns_replace masking.supply masking track).1.known, List.mem_singleton]

/-- A stream is listed where it is replaced if its name was not known. -/
theorem streams_replaceStream (masking : Masking) (stream : String) :
    (masking.replaceStream stream).2.streams = masking.streams ++
      if stream ∈ masking.table.map Prod.fst then [] else [(masking.replaceStream stream).1] := by
  rcases replace_cases masking stream with ⟨known, replaced⟩ | ⟨unknown, replaced⟩
  · simp only [replaceStream, replaced, known, if_true]
    simp
  · simp only [replaceStream, replaced, unknown, if_false, if_true]

/-- A track is never listed. -/
theorem streams_replaceTrack (masking : Masking) (track : String) :
    (masking.replaceTrack track).2.streams = masking.streams := by
  rcases replace_cases masking track with ⟨-, replaced⟩ | ⟨-, replaced⟩ <;>
    simp [replaceTrack, replaced]

/-- Of the names in some segments those are listed that were not known before and lead. -/
theorem streams_replaceAll (masking : Masking) (parts : List Segment) :
    (masking.replaceAll parts).2.streams = masking.streams ++
      ((streamNames parts).eraseDups.filter fun name =>
        name ∉ masking.table.map Prod.fst && leads name parts).map
          (nameIn (masking.replaceAll parts).2.table) := by
  induction parts generalizing masking with
  | nil => simp [replaceAll, streamNames]
  | cons part later ih =>
      cases part with
      | character value => exact ih masking
      | pair stream track =>
          have further := ih ((masking.replaceStream stream).2.replaceTrack track).2
          obtain ⟨trackLearns, -⟩ :=
            learns_replace masking.supply (masking.replaceStream stream).2 track
          obtain ⟨laterLearns, -⟩ := learns_replaceAll masking.supply
            ((masking.replaceStream stream).2.replaceTrack track).2 later
          have named : (masking.replaceStream stream).1 =
              nameIn (masking.replaceAll (.pair stream track :: later)).2.table stream := by
            rw [(learns_replaceStream masking.supply masking stream).2]
            refine (Learns.nameIn_eq (trackLearns.trans laterLearns) ?_).symm
            exact (mem_names_replaceStream masking stream stream).mpr (.inr rfl)
          -- What leads here and is another name than the two of the pair, leads further on.
          have others : ((streamNames later).filter fun name => !name == stream).eraseDups.filter
              (fun name => name ∉ masking.table.map Prod.fst &&
                leads name (.pair stream track :: later)) =
              (streamNames later).eraseDups.filter fun name =>
                name ∉ ((masking.replaceStream stream).2.replaceTrack track).2.table.map Prod.fst &&
                  leads name later := by
            rw [eraseDups_filter, List.filter_filter]
            refine List.filter_congr fun name _ => ?_
            simp only [mem_names_replaceTrack, mem_names_replaceStream, leads]
            by_cases isStream : stream = name <;> by_cases isTrack : track = name <;>
              simp [isStream, isTrack, eq_comm (a := name)]
          change (masking.replaceAll (.pair stream track :: later)).2.streams = _ at further
          rw [further, streams_replaceTrack, streams_replaceStream, List.append_assoc, ← others]
          congr 1
          change _ = List.map _ (List.filter _ (stream :: streamNames later).eraseDups)
          rw [List.eraseDups_cons, List.filter_cons]
          by_cases known : stream ∈ masking.table.map Prod.fst
          · simp only [known, if_true, List.nil_append, not_true_eq_false, decide_false,
              Bool.false_and, Bool.false_eq_true, if_false]
            rfl
          · have leading : leads stream (.pair stream track :: later) = true := by simp [leads]
            simp only [known, if_false, not_false_eq_true, decide_true, leading, Bool.and_self,
              if_true, List.map_cons, List.singleton_append, named]
            rfl

end Masking

/-! ## The reading of a masked description -/

section

variable {naming : String → String}

theorem streamNames_rename (parts : List Segment) :
    streamNames (parts.map (Segment.rename naming)) = (streamNames parts).map naming := by
  induction parts with
  | nil => rfl
  | cons part later ih =>
      rw [streamNames, List.map_cons, List.flatMap_cons, ← streamNames, ih]
      cases part <;> rfl

/-- A renaming that keeps different names apart changes no name's lead. -/
theorem leads_rename {name : String} {parts : List Segment}
    (apart : ∀ other ∈ parts.flatMap Segment.names, naming other = naming name → other = name) :
    leads (naming name) (parts.map (Segment.rename naming)) = leads name parts := by
  induction parts with
  | nil => rfl
  | cons part later ih =>
      simp only [List.flatMap_cons, List.mem_append] at apart
      have further := ih fun other there => apart other (.inr there)
      cases part with
      | character value => exact further
      | pair stream track =>
          have sameStream : naming stream = naming name ↔ stream = name :=
            ⟨apart stream (.inl (by simp [Segment.names])), congrArg naming⟩
          have sameTrack : naming track = naming name ↔ track = name :=
            ⟨apart track (.inl (by simp [Segment.names])), congrArg naming⟩
          simp only [List.map_cons, Segment.rename, leads, sameStream, sameTrack, further]

theorem streamNames_subset (parts : List Segment) :
    ∀ name ∈ streamNames parts, name ∈ parts.flatMap Segment.names := by
  intro name there
  obtain ⟨part, inside, named⟩ := List.mem_flatMap.mp there
  refine List.mem_flatMap.mpr ⟨part, inside, ?_⟩
  cases part with
  | character value => simp [Segment.streams] at named
  | pair stream track =>
      obtain rfl : name = stream := by simpa [Segment.streams] using named
      simp [Segment.names]

end

/-- What is left of masking a description: a table of its names, by which its pairs are renamed and
its leading streams are listed. -/
theorem exists_masking (names : Supply) (description : String) :
    ∃ final : Masking, final.Orderly names ∧
      (∀ name, name ∈ final.table.map Prod.fst ↔
        name ∈ (segments description.toList).flatMap Segment.names) ∧
      (mask names description).1.table = final.table ∧
      (mask names description).1.description.toList =
        renamed (nameIn final.table) description.toList ∧
      (mask names description).1.streams =
        ((streamNames (segments description.toList)).eraseDups.filter fun name =>
          leads name (segments description.toList)).map (nameIn final.table) := by
  obtain ⟨learns, replaced⟩ :=
    Masking.learns_replaceAll names { supply := names } (segments description.toList)
  have listed := Masking.streams_replaceAll { supply := names } (segments description.toList)
  refine ⟨_, learns.orderly (Masking.orderly_start names), fun name => ?_, rfl, ?_, ?_⟩
  · simpa using learns.known name
  · change (Segment.join (Masking.replaceAll { supply := names }
      (segments description.toList)).1).toList = _
    rw [replaced, Segment.join, String.toList_ofList, renamed]
  · change (Masking.replaceAll { supply := names } (segments description.toList)).2.streams = _
    simpa using listed

/-- A masked description lists the streams of its own pairs, each once and in the order in which
they appear as streams, without those that appear as a track before. -/
theorem streams_mask {names : Supply} (apart : NamesApart names) (description : String) :
    let masked := (mask names description).1
    let parts := segments masked.description.toList
    masked.streams = (streamNames parts).eraseDups.filter fun name => leads name parts := by
  obtain ⟨final, orderly, known, -, written, listed⟩ := exists_masking names description
  have read : segments (mask names description).1.description.toList =
      (segments description.toList).map (Segment.rename (nameIn final.table)) := by
    rw [written, segments_renamed fun _ named => orderly.isName_nameIn apart named]
  have distinct : ∀ first ∈ (segments description.toList).flatMap Segment.names,
      ∀ second ∈ (segments description.toList).flatMap Segment.names,
        nameIn final.table first = nameIn final.table second → first = second := by
    intro first firstThere second secondThere same
    have back := orderly.unmaskName_nameIn apart "" [] ((known first).mpr firstThere)
    rw [same, orderly.unmaskName_nameIn apart "" [] ((known second).mpr secondThere)] at back
    exact back.symm
  dsimp only
  rw [listed, read, streamNames_rename, eraseDups_map, List.filter_map]
  · congr 1
    refine List.filter_congr fun name there => (leads_rename fun other inside same => ?_).symm
    exact distinct other inside name
      (streamNames_subset _ name (List.mem_eraseDups.mp there)) same
  · intro first firstThere second secondThere
    exact distinct first (streamNames_subset _ first firstThere) second
      (streamNames_subset _ second secondThere)

end RoomCall.Description
