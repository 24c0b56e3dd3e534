/-!
# Points in time

A timestamp is a day of the proleptic Gregorian calendar and a time of that day, without a zone.
Both carry the proof that their fields are in range, so a timestamp that exists is valid. A leap
second is kept as second 59 with a nanosecond field of `10 ^ 9` or more.
-/

namespace RowMap

/-- Every fourth year, but not every hundredth, unless it is a four hundredth. -/
def isLeapYear (year : Int) : Bool :=
  year % 4 = 0 && (year % 100 ≠ 0 || year % 400 = 0)

/-- The number of days of a month. -/
def daysInMonth (year : Int) (month : Nat) : Nat :=
  if month = 2 then (if isLeapYear year then 29 else 28)
  else if month = 4 ∨ month = 6 ∨ month = 9 ∨ month = 11 then 30
  else 31

/-- The first year of the calendar. -/
def Date.minYear : Int := -262143

/-- The last year of the calendar. -/
def Date.maxYear : Int := 262142

/-- The three numbers name a day of the calendar. -/
structure Date.Valid (year : Int) (month day : Nat) : Prop where
  minYear_le : Date.minYear ≤ year
  le_maxYear : year ≤ Date.maxYear
  month_pos : 1 ≤ month
  month_le : month ≤ 12
  day_pos : 1 ≤ day
  day_le : day ≤ daysInMonth year month

instance (year : Int) (month day : Nat) : Decidable (Date.Valid year month day) :=
  decidable_of_iff
    (Date.minYear ≤ year ∧ year ≤ Date.maxYear ∧ 1 ≤ month ∧ month ≤ 12 ∧ 1 ≤ day ∧
      day ≤ daysInMonth year month)
    ⟨fun ⟨h₁, h₂, h₃, h₄, h₅, h₆⟩ => ⟨h₁, h₂, h₃, h₄, h₅, h₆⟩,
      fun ⟨h₁, h₂, h₃, h₄, h₅, h₆⟩ => ⟨h₁, h₂, h₃, h₄, h₅, h₆⟩⟩

/-- A day of the calendar. -/
structure Date where
  year : Int
  month : Nat
  day : Nat
  valid : Date.Valid year month day
  deriving DecidableEq

namespace Date

def ofFields? (year : Int) (month day : Nat) : Option Date :=
  if h : Valid year month day then some ⟨year, month, day, h⟩ else none

/-- The following day, unless the calendar ends. -/
def next? (d : Date) : Option Date :=
  (ofFields? d.year d.month (d.day + 1)).or
    ((ofFields? d.year (d.month + 1) 1).or (ofFields? (d.year + 1) 1 1))

/-- The preceding day, unless the calendar begins. -/
def previous? (d : Date) : Option Date :=
  if 1 < d.day then ofFields? d.year d.month (d.day - 1)
  else if 1 < d.month then
    ofFields? d.year (d.month - 1) (daysInMonth d.year (d.month - 1))
  else ofFields? (d.year - 1) 12 31

end Date

/-- The four numbers name a time of day; only second 59 may be a leap second. -/
structure Clock.Valid (hour minute second nanosecond : Nat) : Prop where
  hour_lt : hour < 24
  minute_lt : minute < 60
  second_lt : second < 60
  nanosecond_lt : nanosecond < 1000000000 ∨ (second = 59 ∧ nanosecond < 2000000000)

instance (hour minute second nanosecond : Nat) :
    Decidable (Clock.Valid hour minute second nanosecond) :=
  decidable_of_iff
    (hour < 24 ∧ minute < 60 ∧ second < 60 ∧
      (nanosecond < 1000000000 ∨ (second = 59 ∧ nanosecond < 2000000000)))
    ⟨fun ⟨h₁, h₂, h₃, h₄⟩ => ⟨h₁, h₂, h₃, h₄⟩, fun ⟨h₁, h₂, h₃, h₄⟩ => ⟨h₁, h₂, h₃, h₄⟩⟩

/-- A time of day, with a leap second where it may stand. -/
structure Clock where
  hour : Nat
  minute : Nat
  second : Nat
  nanosecond : Nat
  valid : Clock.Valid hour minute second nanosecond
  deriving DecidableEq

namespace Clock

def ofFields? (hour minute second nanosecond : Nat) : Option Clock :=
  if h : Valid hour minute second nanosecond then some ⟨hour, minute, second, nanosecond, h⟩
  else none

/-- The start of a day. -/
def midnight : Clock :=
  ⟨0, 0, 0, 0, by decide⟩

/-- The time of day as a clock displays it, where a leap second is second 60. -/
def ofDisplay? (hour minute second fraction : Nat) : Option Clock :=
  if second = 60 then ofFields? hour minute 59 (1000000000 + fraction)
  else if fraction < 1000000000 then ofFields? hour minute second fraction
  else none

end Clock

/-- A day and a time on it, without a zone. -/
structure Timestamp where
  date : Date
  clock : Clock
  deriving DecidableEq

namespace Timestamp

def ofFields? (year : Int) (month day hour minute second nanosecond : Nat) : Option Timestamp := do
  let date ← Date.ofFields? year month day
  let clock ← Clock.ofFields? hour minute second nanosecond
  return ⟨date, clock⟩

/-- The timestamp a number of minutes later, or earlier if the number is negative; less than one
day. -/
def addMinutes? (t : Timestamp) (minutes : Int) : Option Timestamp := do
  let total := 60 * (t.clock.hour : Int) + t.clock.minute + minutes
  let date ←
    if total < 0 then t.date.previous?
    else if 1440 ≤ total then t.date.next?
    else some t.date
  let minuteOfDay := (total % 1440).toNat
  let clock ← Clock.ofFields? (minuteOfDay / 60) (minuteOfDay % 60) t.clock.second
    t.clock.nanosecond
  return ⟨date, clock⟩

end Timestamp

end RowMap
