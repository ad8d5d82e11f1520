import RunCharts.Calendar.Date
import RunCharts.Decimal.Style
import RunCharts.Text.DecimalDigit

/-!
# Dates with a time

A time of day is counted in nanoseconds, leap seconds do not exist, and a zone is an offset from
UTC in minutes, less than a day. A date-time without a zone is taken as UTC.
-/

namespace RunCharts

structure TimeOfDay where
  hour : Nat
  minute : Nat
  second : Nat
  nanosecond : Nat
deriving DecidableEq, Repr

namespace TimeOfDay

def Valid (t : TimeOfDay) : Prop :=
  t.hour < 24 ∧ t.minute < 60 ∧ t.second < 60 ∧ t.nanosecond < 1000000000

instance (t : TimeOfDay) : Decidable t.Valid := inferInstanceAs (Decidable (_ ∧ _ ∧ _ ∧ _))

def midnight : TimeOfDay := ⟨0, 0, 0, 0⟩

def nanoseconds (t : TimeOfDay) : Nat :=
  ((t.hour * 60 + t.minute) * 60 + t.second) * 1000000000 + t.nanosecond

end TimeOfDay

/-- The nanoseconds of the digits after the point of a second. Digits past them are cut. -/
def nanosecondsOf (fraction : List Nat) : Nat :=
  Text.valueOfDigits ((fraction ++ List.replicate 9 0).take 9)

/-- A date with a time and perhaps an offset from UTC, in minutes. -/
structure DateTime where
  date : Date
  time : TimeOfDay
  offset : Option Int
deriving DecidableEq, Repr

namespace DateTime

def minutesPerDay : Nat := 1440

def Valid (t : DateTime) : Prop :=
  t.date.Valid ∧ t.time.Valid ∧ (t.offset.getD 0).natAbs < minutesPerDay

instance (t : DateTime) : Decidable t.Valid := inferInstanceAs (Decidable (_ ∧ _ ∧ _))

def epochDay : Nat := 719163

example : (Date.mk 1970 1 1).dayNumber = epochDay := by decide

def localInstant (t : DateTime) : Int :=
  ((t.date.dayNumber : Int) - epochDay) * minutesPerDay * 60000000000 + t.time.nanoseconds

def instant (t : DateTime) : Int := t.localInstant - t.offset.getD 0 * 60000000000

end DateTime

inductive CalendarFault where
  | year (n : Nat)
  | month
  | day
  | hour
  | minute
  | second
  /-- An offset of a day or more, in minutes. -/
  | offset (minutes : Int)
deriving DecidableEq, Repr

def Date.fault? (d : Date) : Option CalendarFault :=
  if ¬(1 ≤ d.year ∧ d.year ≤ 9999) then some (.year d.year)
  else if ¬(1 ≤ d.month ∧ d.month ≤ 12) then some .month
  else if ¬(1 ≤ d.day ∧ d.day ≤ daysInMonth d.year d.month) then some .day
  else none

theorem Date.fault?_eq_none_iff {d : Date} : d.fault? = none ↔ d.Valid := by
  simp only [fault?, Valid, InYear]
  split
  · simp only [reduceCtorEq, false_iff]
    exact fun h => ‹¬_› h.1
  · split
    · simp only [reduceCtorEq, false_iff]
      exact fun h => ‹¬(1 ≤ d.month ∧ _)› h.2.1
    · split <;> simp_all

/-- The first part of a time that is out of range; fractions of a second never are. -/
def TimeOfDay.fault? (t : TimeOfDay) : Option CalendarFault :=
  if 24 ≤ t.hour then some .hour
  else if 60 ≤ t.minute then some .minute
  else if 60 ≤ t.second then some .second
  else none

/-- The first part that is out of range. The offset is looked at first. -/
def DateTime.fault? (t : DateTime) : Option CalendarFault :=
  if minutesPerDay ≤ (t.offset.getD 0).natAbs then some (.offset (t.offset.getD 0))
  else (t.date.fault?).orElse fun _ => t.time.fault?

end RunCharts
