/-
**Instants, zones and local times.**

An instant is a number of nanoseconds since the start of 1970 in a range that leaves room for
every zone, so that each instant has a local date and clock in each zone. A zone is a whole number
of hours from -25 to 25.

* `LocalTime.position_inZone`: going to local time moves the position by the hours of the zone.
* `LocalTime.toInstant?_inZone`: going to local time and back returns the same instant.
-/

import TaskQuery.Calendar.Clock
import TaskQuery.Calendar.Date

namespace TaskQuery.Calendar

/-! ### Instants and zones -/

/-- The earliest instant, -9999-01-02T01:59:59Z. -/
abbrev earliest : Int := -377705023201000000000

/-- The latest instant, the last nanosecond of 9999-12-30T22:00:00Z. -/
abbrev latest : Int := 253402207200999999999

/-- A point in time, in nanoseconds since 1970-01-01T00:00:00Z. -/
structure Instant where
  nanoseconds : Int
  range : earliest ≤ nanoseconds ∧ nanoseconds ≤ latest
  deriving DecidableEq, Repr

namespace Instant

/-- The instant of a number of nanoseconds, if it lies in the range. -/
def ofNanoseconds? (nanoseconds : Int) : Option Instant :=
  if range : earliest ≤ nanoseconds ∧ nanoseconds ≤ latest then some ⟨nanoseconds, range⟩ else none

/-- The whole seconds of an instant, cut off towards 1970. -/
def seconds (instant : Instant) : Int :=
  instant.nanoseconds.tdiv secondLength

/-- The start of 1970. -/
def unixEpoch : Instant :=
  ⟨0, by decide⟩

end Instant

/-- A time zone of a fixed number of hours from UTC. -/
structure Zone where
  hours : Int
  range : -25 ≤ hours ∧ hours ≤ 25
  deriving DecidableEq, Repr

namespace Zone

/-- The zone of a number of hours, if it is one. -/
def ofHours? (hours : Int) : Option Zone :=
  if range : -25 ≤ hours ∧ hours ≤ 25 then some ⟨hours, range⟩ else none

/-- The nanoseconds by which local time is ahead of UTC. -/
def shift (zone : Zone) : Int :=
  zone.hours * hourLength

end Zone

/-! ### Local times -/

/-- A date and a time of day, in some zone. -/
structure LocalTime where
  date : Date
  clock : Clock
  deriving DecidableEq, Repr

namespace LocalTime

/-- The nanoseconds from the start of 1970 to a local time, both in its own zone. -/
def position (time : LocalTime) : Int :=
  time.date.dayNumber * dayLength + time.clock.nanoseconds

/-- The local time of a position. -/
def ofPosition (position : Int) (first : Date.firstDay ≤ position / dayLength)
    (last : position / dayLength ≤ Date.lastDay) : LocalTime where
  date := Date.ofDayNumber (position / dayLength) first last
  clock := Clock.ofNanoseconds (position % dayLength).toNat (by unfold dayLength; omega)

theorem position_ofPosition (position : Int) (first : Date.firstDay ≤ position / dayLength)
    (last : position / dayLength ≤ Date.lastDay) :
    (ofPosition position first last).position = position := by
  unfold LocalTime.position ofPosition
  rw [Date.dayNumber_ofDayNumber, Clock.nanoseconds_ofNanoseconds]
  unfold dayLength
  omega

/-- The local time of an instant in a zone. -/
def inZone (instant : Instant) (zone : Zone) : LocalTime :=
  ofPosition (instant.nanoseconds + zone.shift)
    (by
      have low := instant.range.1
      have hours := zone.range.1
      unfold Zone.shift Date.firstDay earliest dayLength hourLength at *
      omega)
    (by
      have high := instant.range.2
      have hours := zone.range.2
      unfold Zone.shift Date.lastDay latest dayLength hourLength at *
      omega)

theorem position_inZone (instant : Instant) (zone : Zone) :
    (inZone instant zone).position = instant.nanoseconds + zone.shift :=
  position_ofPosition _ _ _

/-- The instant of a local time in a zone, if it lies in the range. -/
def toInstant? (time : LocalTime) (zone : Zone) : Option Instant :=
  Instant.ofNanoseconds? (time.position - zone.shift)

theorem toInstant?_inZone (instant : Instant) (zone : Zone) :
    (inZone instant zone).toInstant? zone = some instant := by
  have same : (inZone instant zone).position - zone.shift = instant.nanoseconds := by
    rw [position_inZone]; omega
  unfold toInstant? Instant.ofNanoseconds?
  rw [dif_pos (by rw [same]; exact instant.range)]
  simp only [same]

end LocalTime

end TaskQuery.Calendar
