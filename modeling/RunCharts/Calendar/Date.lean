/-!
# Dates

The proleptic Gregorian calendar of the years 1 to 9999. A date is counted by its day number:
1 January of year 1 is day 1.
-/

namespace RunCharts

structure Date where
  year : Nat
  month : Nat
  day : Nat
deriving DecidableEq, Repr

namespace Date

def isLeap (year : Nat) : Bool := year % 4 == 0 && (year % 100 != 0 || year % 400 == 0)

def daysInMonth (year month : Nat) : Nat :=
  if month = 2 then if isLeap year then 29 else 28
  else if month = 4 ∨ month = 6 ∨ month = 9 ∨ month = 11 then 30
  else 31

/-- The month and the day exist in the year, whatever year that is. -/
def InYear (d : Date) : Prop :=
  (1 ≤ d.month ∧ d.month ≤ 12) ∧ (1 ≤ d.day ∧ d.day ≤ daysInMonth d.year d.month)

instance (d : Date) : Decidable d.InYear := inferInstanceAs (Decidable (_ ∧ _))

def Valid (d : Date) : Prop := (1 ≤ d.year ∧ d.year ≤ 9999) ∧ d.InYear

instance (d : Date) : Decidable d.Valid := inferInstanceAs (Decidable (_ ∧ _))

def daysBeforeYear (year : Nat) : Nat :=
  365 * (year - 1) + (year - 1) / 4 - (year - 1) / 100 + (year - 1) / 400

def daysBeforeMonth (year : Nat) : Nat → Nat
  | 0 => 0
  | 1 => 0
  | m + 2 => daysBeforeMonth year (m + 1) + daysInMonth year (m + 1)

def dayNumber (d : Date) : Nat := daysBeforeYear d.year + daysBeforeMonth d.year d.month + d.day

def next (d : Date) : Date :=
  if d.day < daysInMonth d.year d.month then ⟨d.year, d.month, d.day + 1⟩
  else if d.month < 12 then ⟨d.year, d.month + 1, 1⟩
  else ⟨d.year + 1, 1, 1⟩

/-- The day of the week, Monday being 0. -/
def weekday (d : Date) : Nat := (d.dayNumber + 6) % 7

example : (Date.mk 1970 1 1).weekday = 3 := by decide

def onWeekday (d : Date) (weekday : Nat) : Date :=
  Nat.repeat next ((weekday + 7 - d.weekday) % 7) d

theorem daysBeforeYear_succ {year : Nat} (h : 1 ≤ year) :
    daysBeforeYear (year + 1) = daysBeforeYear year + if isLeap year then 366 else 365 := by
  obtain ⟨p, rfl⟩ : ∃ p, year = p + 1 := ⟨year - 1, by omega⟩
  have h4 : (p + 1) / 4 = p / 4 + if (p + 1) % 4 = 0 then 1 else 0 := by split <;> omega
  have h100 : (p + 1) / 100 = p / 100 + if (p + 1) % 100 = 0 then 1 else 0 := by split <;> omega
  have h400 : (p + 1) / 400 = p / 400 + if (p + 1) % 400 = 0 then 1 else 0 := by split <;> omega
  have hle : p / 100 ≤ p / 4 := Nat.div_le_div_left (by decide) (by decide)
  have hd : (p + 1) % 400 = 0 → (p + 1) % 100 = 0 := by omega
  have hd' : (p + 1) % 100 = 0 → (p + 1) % 4 = 0 := by omega
  simp only [daysBeforeYear, Nat.add_sub_cancel, h4, h100, h400, isLeap]
  by_cases c4 : (p + 1) % 4 = 0 <;> by_cases c100 : (p + 1) % 100 = 0 <;>
    by_cases c400 : (p + 1) % 400 = 0 <;> simp_all <;> omega

theorem daysBeforeMonth_thirteen (year : Nat) :
    daysBeforeMonth year 13 = if isLeap year then 366 else 365 := by
  simp only [daysBeforeMonth, daysInMonth]
  cases isLeap year <;> rfl

/-- The day after a valid date has the next number. -/
theorem dayNumber_next {d : Date} (h : d.Valid) : d.next.dayNumber = d.dayNumber + 1 := by
  obtain ⟨⟨hy, -⟩, ⟨hm, hm'⟩, -, hd⟩ := h
  simp only [next, dayNumber]
  split
  · simp only; omega
  · have hday : d.day = daysInMonth d.year d.month := by omega
    split
    · obtain ⟨m, hm⟩ : ∃ m, d.month = m + 1 := ⟨d.month - 1, by omega⟩
      simp only [hm] at hday ⊢
      simp only [daysBeforeMonth, hday]
      omega
    · have h12 : d.month = 12 := by omega
      have h13 := daysBeforeMonth_thirteen d.year
      simp only [h12] at hday ⊢
      rw [daysBeforeMonth] at h13
      rw [daysBeforeYear_succ hy, ← h13, hday]
      simp only [daysBeforeMonth, Nat.reduceAdd]
      omega

end Date

end RunCharts
