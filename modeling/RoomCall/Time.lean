/-!
# Instants and durations

An instant is a number of nanoseconds since the start of 1970 in coordinated universal time.
Instants have an earliest and a latest value, the ends of the proleptic calendar years -262143 and
262142. On the wire an instant is a number of milliseconds. A duration is a number of nanoseconds
too; most durations here are whole milliseconds.
-/

namespace RoomCall

/-- Nanoseconds since the start of 1970 in coordinated universal time. -/
abbrev Instant := Int

namespace Instant

/-- The first nanosecond of the year -262143. -/
def earliest : Instant := -8334601228800000000000

/-- The last nanosecond of the year 262142. -/
def latest : Instant := 8210266876799999999999

/-- The instant that is some milliseconds after the start of 1970. -/
def ofMilliseconds (count : Int) : Instant := count * 1000000

/-- The whole milliseconds of an instant. -/
def milliseconds (instant : Instant) : Int := instant / 1000000

/-- Whether an instant belongs to the calendar. -/
def isValid (instant : Instant) : Bool :=
  earliest ≤ instant && instant ≤ latest

/-- The year, month and day that a number of days after the start of 1970 falls on. The count is
taken from the first of March of the year zero, in eras of 400 years, so that the leap day is the
last day of its year. -/
def civil (days : Int) : Int × Nat × Nat :=
  let shifted := days + 719468
  let era := shifted / 146097
  let dayOfEra := (shifted % 146097).toNat
  let yearOfEra := (dayOfEra - dayOfEra / 1460 + dayOfEra / 36524 - dayOfEra / 146096) / 365
  let dayOfYear := dayOfEra - (365 * yearOfEra + yearOfEra / 4 - yearOfEra / 100)
  let monthFromMarch := (5 * dayOfYear + 2) / 153
  let day := dayOfYear - (153 * monthFromMarch + 2) / 5 + 1
  let month := if monthFromMarch < 10 then monthFromMarch + 3 else monthFromMarch - 9
  let year := era * 400 + yearOfEra + (if month ≤ 2 then 1 else 0)
  (year, month, day)

/-- A number with zeros in front up to a width. -/
def padded (width : Nat) (value : Nat) : String :=
  let digits := Nat.toDigits 10 value
  String.ofList (List.replicate (width - digits.length) '0' ++ digits)

/-- An instant as seventeen digits: year, month, day, hour, minute, second and millisecond. -/
def stamp (instant : Instant) : String :=
  let (year, month, day) := civil (instant.milliseconds / 86400000)
  let inDay := (instant.milliseconds % 86400000).toNat
  padded 4 year.toNat ++ padded 2 month ++ padded 2 day ++ padded 2 (inDay / 3600000) ++
    padded 2 (inDay / 60000 % 60) ++ padded 2 (inDay / 1000 % 60) ++ padded 3 (inDay % 1000)

end Instant

/-- A span of time in nanoseconds. -/
structure Duration where
  nanoseconds : Nat
  deriving DecidableEq, Inhabited, Repr

/-- The instant that is a duration after another one. -/
def Instant.later (instant : Instant) (duration : Duration) : Instant :=
  instant + duration.nanoseconds

/-- The instant that is a duration after another one, if the calendar has it. -/
def Instant.later? (instant : Instant) (duration : Duration) : Option Instant :=
  let reached := instant.later duration
  if reached.isValid then some reached else none

/-- How long ago an instant was, and nothing for an instant to come. -/
def Instant.ago (now instant : Instant) : Duration := ⟨(now - instant).toNat⟩

namespace Duration

/-- A number of milliseconds. -/
def ofMilliseconds (count : Nat) : Duration := ⟨count * 1000000⟩

/-- A number of seconds. -/
def ofSeconds (count : Nat) : Duration := ⟨count * 1000000000⟩

/-- The highest count of seconds or milliseconds: the largest signed number of 64 bits. -/
def highestCount : Nat := 9223372036854775807

/-- A number of seconds, if it can be counted in seconds and in milliseconds. -/
def ofSeconds? (count : Nat) : Option Duration :=
  if count ≤ highestCount then
    if count * 1000 ≤ highestCount then some (.ofSeconds count) else none
  else
    none

/-- The whole milliseconds of a duration. -/
def milliseconds (duration : Duration) : Nat := duration.nanoseconds / 1000000

/-- The whole seconds of a duration. -/
def seconds (duration : Duration) : Nat := duration.nanoseconds / 1000000000

/-- The nanoseconds past the last whole second. -/
def subsecond (duration : Duration) : Nat := duration.nanoseconds % 1000000000

end Duration

end RoomCall
