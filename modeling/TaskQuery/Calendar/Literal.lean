/-
**Date literals.**

A literal is read where it is written: in a zone, at an instant. Sixteen patterns are tried in
order, then the names of weekdays, and the first reading that gives an instant counts. A literal
without a year means this year, or the next one if it has gone by; a clock time alone means its
next occurrence; a weekday means the nearest one from today on.

* `Vantage.read`: the instant of a literal, or why it has none.
* `DateError.message`: the wording of a refusal.
-/

import TaskQuery.Calendar.Pattern
import TaskQuery.Text.Blank
import TaskQuery.Text.Quoted

namespace TaskQuery.Calendar

/-- Why a literal or its zone is refused. -/
inductive DateError where
  | empty
  | offsetOutOfRange (hours : Int)
  | unrecognized (literal : String)
  deriving DecidableEq, Repr

namespace DateError

/-- The wording of a refusal. -/
def message : DateError → String
  | empty => "empty date literal"
  | offsetOutOfRange hours => "timezone offset " ++ toString hours ++ "h is out of range"
  | unrecognized literal => "unrecognized date literal " ++ Text.quoted literal

end DateError

/-- Where and when a literal is read. -/
structure Vantage where
  zone : Zone
  now : Instant
  deriving DecidableEq, Repr

namespace Vantage

/-- The vantage of an offset and a clock, if the offset is one. -/
def ofOffset (hours : Int) (now : Instant) : Except DateError Vantage :=
  match Zone.ofHours? hours with
  | some zone => .ok { zone, now }
  | none => .error (.offsetOutOfRange hours)

theorem ofOffset_eq_ok {hours : Int} {now : Instant} {vantage : Vantage} :
    ofOffset hours now = .ok vantage ↔ vantage.zone.hours = hours ∧ vantage.now = now := by
  unfold ofOffset Zone.ofHours?
  constructor
  · intro valid
    split at valid
    · next found =>
      split at found
      · cases found
        cases valid
        exact ⟨rfl, rfl⟩
      · cases found
    · cases valid
  · rintro ⟨rfl, rfl⟩
    rw [dif_pos vantage.zone.range]

/-- The local time of the vantage. -/
def here (vantage : Vantage) : LocalTime :=
  LocalTime.inZone vantage.now vantage.zone

/-! ### Patterns of literals -/

/-- The patterns of literals in the order in which they are tried. -/
def patterns : List Pattern :=
  [Pattern.yearFirst '-' ++ [.literal ','] ++ Pattern.toSeconds,
    Pattern.yearFirst '-' ++ [.literal ','] ++ Pattern.toMinutes,
    Pattern.yearFirst '-' ++ [.gap] ++ Pattern.toSeconds,
    Pattern.yearFirst '-' ++ [.gap] ++ Pattern.toMinutes,
    Pattern.yearFirst '/' ++ [.literal ','] ++ Pattern.toMinutes,
    Pattern.yearLast ++ [.literal ','] ++ Pattern.toMinutes,
    Pattern.monthDay ++ [.literal ','] ++ Pattern.toSeconds,
    Pattern.monthDay ++ [.literal ','] ++ Pattern.toMinutes,
    Pattern.dayMonth ++ [.literal ','] ++ Pattern.toMinutes,
    Pattern.yearFirst '-',
    Pattern.yearFirst '/',
    Pattern.yearLast,
    Pattern.monthDay,
    Pattern.dayMonth,
    Pattern.toSeconds,
    Pattern.toMinutes]

/-- The clock time of some fields: seconds may be left out, and fields without an hour mean
midnight. -/
def clockOf? (fields : Fields) : Option Clock :=
  match fields.hour with
  | none => some Clock.midnight
  | some hour => fields.minute.bind fun minute => Clock.ofParts? hour minute (fields.second.getD 0)

/-- A date without a year: this year, or the next one if it has gone by. It has to exist this year
in either case. A literal with a clock time is compared with the clock, one without only with the
date. -/
def inferYear? (vantage : Vantage) (month day : Nat) (clock : Clock) (timed : Bool) :
    Option LocalTime :=
  (Date.ofParts? vantage.here.date.year month day).bind fun date =>
    let candidate : LocalTime := { date, clock }
    let passed :=
      if timed then candidate.position < vantage.here.position
      else date.dayNumber < vantage.here.date.dayNumber
    if passed then
      (Date.ofParts? (vantage.here.date.year + 1) month day).map fun date => { date, clock }
    else some candidate

/-- The next occurrence of a clock time: today, or tomorrow if it has gone by. -/
def nextOccurrence? (vantage : Vantage) (clock : Clock) : Option LocalTime :=
  if clock.nanoseconds < vantage.here.clock.nanoseconds then
    vantage.here.date.tomorrow?.map fun date => { date, clock }
  else some { date := vantage.here.date, clock }

/-- The local time that the fields of a literal mean. -/
def resolve? (vantage : Vantage) (fields : Fields) : Option LocalTime :=
  (clockOf? fields).bind fun clock =>
    match fields.month, fields.day with
    | some month, some day =>
      match fields.year with
      | some year => (Date.ofParts? year month day).map fun date => { date, clock }
      | none => vantage.inferYear? month day clock fields.hour.isSome
    | _, _ => vantage.nextOccurrence? clock

/-- The instant of a literal in one pattern. -/
def readPattern? (vantage : Vantage) (literal : List Char) (pattern : Pattern) : Option Instant :=
  ((pattern.read? literal).bind vantage.resolve?).bind fun time => time.toInstant? vantage.zone

/-! ### Weekdays -/

/-- The first date with a weekday among so many dates from one on. -/
def seekWeekday? (weekday : Weekday) : Nat → Date → Option Date
  | 0, _ => none
  | days + 1, date =>
    if Weekday.ofDayNumber date.dayNumber = weekday then some date
    else date.tomorrow?.bind (seekWeekday? weekday days)

/-- How many dates are tried for a weekday. -/
def weekdayReach : Nat := 10

/-- The clock time written after a weekday. -/
def readClock? (text : List Char) : Option Clock :=
  [Pattern.toSeconds, Pattern.toMinutes].findSome? fun pattern =>
    (pattern.read? text).bind clockOf?

/-- The name before the first comma, and the text after it if there is one. -/
def splitAtComma (text : List Char) : List Char × Option (List Char) :=
  match text.dropWhile (· != ',') with
  | [] => (text, none)
  | _ :: rest => (text.takeWhile (· != ','), some rest)

/-- The instant of a weekday, with a clock time after a comma or at midnight. -/
def readWeekday? (vantage : Vantage) (literal : List Char) : Option Instant :=
  (Weekday.ofName? (Text.trim (splitAtComma literal).1)).bind fun weekday =>
    let clock :=
      match (splitAtComma literal).2 with
      | none => some Clock.midnight
      | some text => readClock? (Text.trim text)
    clock.bind fun clock =>
      (seekWeekday? weekday weekdayReach vantage.here.date).bind fun date =>
        LocalTime.toInstant? { date, clock } vantage.zone

/-! ### Literals -/

/-- The instant of a literal without blanks at its ends. -/
def readTrimmed? (vantage : Vantage) (literal : List Char) : Option Instant :=
  (patterns.findSome? (vantage.readPattern? literal)).or (vantage.readWeekday? literal)

/-- The instant of a literal. -/
def read (vantage : Vantage) (literal : String) : Except DateError Instant :=
  let trimmed := Text.trim literal.toList
  if trimmed.isEmpty then .error .empty
  else
    match vantage.readTrimmed? trimmed with
    | some instant => .ok instant
    | none => .error (.unrecognized (String.ofList trimmed))

/-- The instant of a literal, if it has one. -/
def read? (vantage : Vantage) (literal : String) : Option Instant :=
  (vantage.read literal).toOption

theorem read?_eq_some {vantage : Vantage} {literal : String} {time : Instant} :
    vantage.read? literal = some time ↔ vantage.read literal = .ok time := by
  unfold read?
  cases vantage.read literal <;> simp [Except.toOption]

end Vantage

end TaskQuery.Calendar
