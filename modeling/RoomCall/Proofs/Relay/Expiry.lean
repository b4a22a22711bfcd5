import Mathlib.Order.MinMax
import RoomCall.Relay

/-!
# Until when relay credentials hold

A lifetime meets three limits on its way to an instant: it is counted in seconds, then in
milliseconds, and what it leads to has to be in the calendar. Whichever limit is hit, the
credentials hold until the end of the calendar, and none of the limits is hit by a lifetime that
ends before. So the end is that of unbounded arithmetic, cut off at the last instant, and a cache
is fresh exactly before the end of the grant that it got last.
-/

namespace RoomCall

/-! ## Limits -/

theorem Duration.ofSeconds?_eq_some_iff {count : Nat} {span : Duration} :
    ofSeconds? count = some span ↔ count * 1000 ≤ highestCount ∧ ofSeconds count = span := by
  unfold ofSeconds?
  split
  · split <;> simp_all
  · rename_i beyond
    have further : ¬count * 1000 ≤ highestCount := by omega
    simp [further]

theorem Instant.isValid_iff {instant : Instant} :
    instant.isValid = true ↔ earliest ≤ instant ∧ instant ≤ latest := by
  simp [isValid]

theorem Instant.later?_eq_some_iff {instant reached : Instant} {span : Duration} :
    instant.later? span = some reached ↔
      instant.later span = reached ∧ (instant.later span).isValid = true := by
  unfold later?
  dsimp only
  split <;> simp_all

namespace Relay

namespace Grant

variable {now later : Instant} {grant other : Grant}

/-- A lifetime that ends in the calendar is within all limits. -/
theorem expiry_of_le (valid : now.isValid = true)
    (ends : now.later (.ofSeconds grant.lifetime) ≤ Instant.latest) :
    grant.expiry now = now.later (.ofSeconds grant.lifetime) := by
  rw [Instant.isValid_iff] at valid
  have counted : Duration.ofSeconds? grant.lifetime = some (.ofSeconds grant.lifetime) := by
    rw [Duration.ofSeconds?_eq_some_iff]
    refine ⟨?_, rfl⟩
    simp only [Instant, Instant.later, Duration.ofSeconds, Duration.highestCount, Instant.earliest,
      Instant.latest] at *
    omega
  have reached : now.later? (.ofSeconds grant.lifetime) =
      some (now.later (.ofSeconds grant.lifetime)) := by
    rw [Instant.later?_eq_some_iff, Instant.isValid_iff]
    refine ⟨rfl, ?_, ends⟩
    apply le_trans valid.1
    simp only [Instant, Instant.later]
    omega
  rw [expiry, counted, Option.bind_eq_bind, Option.bind_some, reached, Option.getD_some]

/-- A lifetime that ends beyond the calendar hits one of the limits. -/
theorem expiry_of_lt (ends : Instant.latest < now.later (.ofSeconds grant.lifetime)) :
    grant.expiry now = Instant.latest := by
  have unreached : (Duration.ofSeconds? grant.lifetime >>= now.later?) = none := by
    rw [Option.bind_eq_bind, Option.bind_eq_none_iff]
    intro span counted
    obtain ⟨-, rfl⟩ := Duration.ofSeconds?_eq_some_iff.mp counted
    rw [Option.eq_none_iff_forall_ne_some]
    intro reached found
    obtain ⟨-, valid⟩ := Instant.later?_eq_some_iff.mp found
    exact absurd (Instant.isValid_iff.mp valid).2 (not_le.mpr ends)
  rw [expiry, unreached, Option.getD_none]

/-- The end of a grant is that of unbounded arithmetic, cut off at the end of the calendar. -/
theorem expiry_eq_min (valid : now.isValid = true) (grant : Grant) :
    grant.expiry now = min (now + grant.lifetime * 1000000000) Instant.latest := by
  have whole : now.later (.ofSeconds grant.lifetime) = now + grant.lifetime * 1000000000 := by
    simp [Instant.later, Duration.ofSeconds]
  rcases le_or_gt (now.later (.ofSeconds grant.lifetime)) Instant.latest with ends | ends
  · rw [expiry_of_le valid ends, ← whole, min_eq_left ends]
  · rw [expiry_of_lt ends, ← whole, min_eq_right (le_of_lt ends)]

theorem le_expiry (valid : now.isValid = true) (grant : Grant) : now ≤ grant.expiry now := by
  rw [expiry_eq_min valid]
  refine le_min ?_ (Instant.isValid_iff.mp valid).2
  simp only [Instant]
  omega

theorem isValid_expiry (valid : now.isValid = true) (grant : Grant) :
    (grant.expiry now).isValid = true := by
  rw [Instant.isValid_iff]
  refine ⟨le_trans (Instant.isValid_iff.mp valid).1 (le_expiry valid grant), ?_⟩
  rw [expiry_eq_min valid]
  exact min_le_right _ _

/-- A longer lifetime from a later instant ends no earlier. -/
theorem expiry_le_expiry (valid : now.isValid = true) (validLater : later.isValid = true)
    (notBefore : now ≤ later) (longer : grant.lifetime ≤ other.lifetime) :
    grant.expiry now ≤ other.expiry later := by
  rw [expiry_eq_min valid, expiry_eq_min validLater]
  refine min_le_min ?_ le_rfl
  simp only [Instant] at notBefore ⊢
  omega

end Grant

namespace Cache

/-- The cache after some grants, each with the instant at which it is made. -/
def updateAll (cache : Cache) (grants : List (Grant × Instant)) : Cache :=
  grants.foldl (fun known entry => known.update entry.1 entry.2) cache

/-- Nothing is left of what was in the cache before the last grant. -/
theorem updateAll_concat (cache : Cache) (earlier : List (Grant × Instant)) (grant : Grant)
    (now : Instant) :
    cache.updateAll (earlier ++ [(grant, now)]) =
      { uris := grant.credentialUris, validUntil := some (grant.expiry now) } := by
  rw [updateAll, List.foldl_append]
  rfl

theorem isFresh_iff {cache : Cache} {moment : Instant} :
    cache.isFresh moment = true ↔ ∃ expiry, cache.validUntil = some expiry ∧ moment < expiry := by
  simp [isFresh, Option.any_eq_true]

/-- What is fresh was fresh before, so without a grant freshness does not come back. -/
theorem isFresh_of_le {cache : Cache} {moment later : Instant} (notBefore : moment ≤ later)
    (fresh : cache.isFresh later = true) : cache.isFresh moment = true := by
  obtain ⟨expiry, holds, before⟩ := isFresh_iff.mp fresh
  exact isFresh_iff.mpr ⟨expiry, holds, lt_of_le_of_lt notBefore before⟩

end Cache

/-- Grants are cached with exact ends. The end is that of unbounded arithmetic, cut off at the end
of the calendar, so it is an instant of the calendar and not before the grant; after any grants the
cache is what the last one makes of it, and fresh exactly before that one's end; a longer lifetime
or a later grant ends no earlier; and a cache that is not fresh does not become so by itself. -/
theorem expiry_saturates {now : Instant} (valid : now.isValid = true) (grant : Grant) :
    grant.expiry now = min (now + grant.lifetime * 1000000000) Instant.latest ∧
    (now ≤ grant.expiry now ∧ (grant.expiry now).isValid = true) ∧
    (∀ (cache : Cache) (earlier : List (Grant × Instant)),
      cache.updateAll (earlier ++ [(grant, now)]) =
        { uris := grant.credentialUris, validUntil := some (grant.expiry now) }) ∧
    (∀ (cache : Cache) (moment : Instant),
      (cache.update grant now).isFresh moment = true ↔ moment < grant.expiry now) ∧
    (∀ (other : Grant) (later : Instant), later.isValid = true → now ≤ later →
      grant.lifetime ≤ other.lifetime → grant.expiry now ≤ other.expiry later) ∧
    ∀ (cache : Cache) (moment later : Instant), moment ≤ later →
      cache.isFresh moment = false → cache.isFresh later = false := by
  refine ⟨Grant.expiry_eq_min valid grant,
    ⟨Grant.le_expiry valid grant, Grant.isValid_expiry valid grant⟩,
    fun cache earlier => cache.updateAll_concat earlier grant now, ?_, ?_, ?_⟩
  · intro cache moment
    rw [Cache.isFresh_iff]
    simp [Cache.update]
  · intro other later validLater notBefore longer
    exact Grant.expiry_le_expiry valid validLater notBefore longer
  · intro cache moment later notBefore stale
    rw [← Bool.not_eq_true] at stale ⊢
    exact mt (Cache.isFresh_of_le notBefore) stale

/-- The longest lifetime on the wire, by itself and in front of another grant. -/
theorem expiry_saturates_endless :
    (Instant.ofMilliseconds 1750000000000).isValid = true ∧
    ({ lifetime := 18446744073709551615 } : Grant).expiry (.ofMilliseconds 1750000000000) =
      8210266876799999999999 ∧
    (({ } : Cache).updateAll [({ lifetime := 18446744073709551615 }, 8210266876799999999998),
      ({ lifetime := 60 }, .ofMilliseconds 1750000000000)]).validUntil =
        some 1750000060000000000 := by
  have valid : (Instant.ofMilliseconds 1750000000000).isValid = true := by decide
  obtain ⟨endless, -⟩ := expiry_saturates valid { lifetime := 18446744073709551615 }
  obtain ⟨short, -, last, -⟩ := expiry_saturates valid { lifetime := 60 }
  have cached := last { } [({ lifetime := 18446744073709551615 }, 8210266876799999999998)]
  refine ⟨valid, endless.trans (by decide), (congrArg Cache.validUntil cached).trans ?_⟩
  rw [short]
  decide

end Relay

end RoomCall
