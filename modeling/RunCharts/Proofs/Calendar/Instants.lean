import Mathlib.Order.Monotone.Basic
import Mathlib.Tactic.Ring
import RunCharts.Timestamp

/-!
# Instants of date-times

Instants are counted from the start of 1970. The calendar goes on day by day, through the ends of
months and years, and an instant goes on with it by a day at a time; an offset is taken off. All
instants of the years 1678 to 2261 can be kept, whatever the zone.
-/

namespace RunCharts

namespace Date

variable {d : Date}

theorem daysInMonth_bounds (year month : Nat) :
    1 ≤ daysInMonth year month ∧ daysInMonth year month ≤ 31 := by
  unfold daysInMonth
  repeat' split
  all_goals decide

theorem inYear_next (h : d.InYear) : d.next.InYear := by
  obtain ⟨⟨hmonth, hmonth'⟩, hday, hday'⟩ := h
  unfold next
  split
  · exact ⟨⟨hmonth, hmonth'⟩, Nat.succ_pos _, by assumption⟩
  · split
    · exact ⟨⟨Nat.succ_pos _, by assumption⟩, le_rfl, (daysInMonth_bounds _ _).1⟩
    · exact ⟨⟨le_rfl, Nat.succ_pos _⟩, le_rfl, (daysInMonth_bounds _ _).1⟩

theorem year_le_next (d : Date) : d.year ≤ d.next.year := by
  unfold next
  repeat' split
  · exact le_rfl
  · exact le_rfl
  · exact Nat.le_succ _

theorem inYear_repeat_next (h : d.InYear) (days : Nat) : (Nat.repeat next days d).InYear := by
  induction days with
  | zero => exact h
  | succ days ih => exact inYear_next ih

theorem year_le_repeat_next (d : Date) (days : Nat) : d.year ≤ (Nat.repeat next days d).year := by
  induction days with
  | zero => exact le_rfl
  | succ days ih => exact ih.trans (year_le_next _)

/-- The calendar counts its days one by one. -/
theorem dayNumber_repeat_next (h : d.Valid) {days : Nat} (hlast : (Nat.repeat next days d).Valid) :
    (Nat.repeat next days d).dayNumber = d.dayNumber + days := by
  induction days with
  | zero => rfl
  | succ days ih =>
    have hvalid : (Nat.repeat next days d).Valid :=
      ⟨⟨h.1.1.trans (year_le_repeat_next d days), (year_le_next _).trans hlast.1.2⟩,
        inYear_repeat_next h.2 days⟩
    rw [Nat.repeat, dayNumber_next hvalid, ih hvalid, Nat.add_assoc]

theorem daysBeforeYear_mono : Monotone daysBeforeYear := by
  apply monotone_nat_of_le_succ
  intro year
  rcases Nat.eq_zero_or_pos year with rfl | hyear
  · exact le_rfl
  · rw [daysBeforeYear_succ hyear]
    exact Nat.le_add_right _ _

theorem daysBeforeMonth_mono (year : Nat) : Monotone (daysBeforeMonth year) := by
  apply monotone_nat_of_le_succ
  intro month
  cases month with
  | zero => exact le_rfl
  | succ month => exact Nat.le_add_right _ _

theorem daysBeforeYear_lt (h : d.InYear) : daysBeforeYear d.year < d.dayNumber := by
  have hday := h.2.1
  unfold dayNumber
  omega

theorem dayNumber_le (h : d.InYear) (hyear : 1 ≤ d.year) :
    d.dayNumber ≤ daysBeforeYear (d.year + 1) := by
  obtain ⟨⟨hmonth, hmonth'⟩, -, hday⟩ := h
  obtain ⟨month, hsucc⟩ : ∃ month, d.month = month + 1 := ⟨d.month - 1, by omega⟩
  have hend : daysBeforeMonth d.year d.month + daysInMonth d.year d.month ≤
      daysBeforeMonth d.year 13 := by
    have hmono : daysBeforeMonth d.year (month + 2) ≤ daysBeforeMonth d.year 13 :=
      daysBeforeMonth_mono d.year (by omega)
    rw [hsucc]
    exact hmono
  rw [daysBeforeYear_succ hyear, ← daysBeforeMonth_thirteen, dayNumber]
  omega

end Date

namespace DateTime

variable {t t' : DateTime}

theorem instant_later (h : t.date.Valid) {days : Nat}
    (hlast : (Nat.repeat Date.next days t.date).Valid) :
    instant { t with date := Nat.repeat Date.next days t.date } =
      t.instant + days * 86400000 * 1000000 := by
  simp only [instant, localInstant, Date.dayNumber_repeat_next h hlast, minutesPerDay]
  push_cast
  ring

theorem instant_withOffset (t : DateTime) (offset : Option Int) :
    instant { t with offset } =
      t.instant + (t.offset.getD 0 - offset.getD 0) * 60000 * 1000000 := by
  simp only [instant, localInstant]
  ring

theorem nanoseconds_lt {t : TimeOfDay} (h : t.Valid) : t.nanoseconds < 86400000000000 := by
  obtain ⟨hhour, hminute, hsecond, hnanosecond⟩ := h
  unfold TimeOfDay.nanoseconds
  omega

/-- The instants of these years are in range, as they are written and in UTC. -/
theorem inRange_of_years (hdate : t.date.InYear) (htime : t.time.Valid)
    (hoffset : (t.offset.getD 0).natAbs < minutesPerDay) (hyear : 1678 ≤ t.date.year)
    (hyear' : t.date.year ≤ 2261) :
    Timestamp.InRange t.localInstant ∧ Timestamp.InRange t.instant := by
  have hfrom : Date.daysBeforeYear 1678 ≤ Date.daysBeforeYear t.date.year :=
    Date.daysBeforeYear_mono hyear
  have hto : Date.daysBeforeYear (t.date.year + 1) ≤ Date.daysBeforeYear 2262 :=
    Date.daysBeforeYear_mono (by omega)
  have hlow := Date.daysBeforeYear_lt hdate
  have hhigh := Date.dayNumber_le hdate (by omega)
  have hnanoseconds := nanoseconds_lt htime
  have hfirst : Date.daysBeforeYear 1678 = 612512 := rfl
  have hlast : Date.daysBeforeYear 2262 = 825813 := by decide
  unfold minutesPerDay at hoffset
  unfold Timestamp.InRange Timestamp.instantLimit instant localInstant minutesPerDay epochDay
  omega

end DateTime

namespace Timestamp

variable {instant instant' n : Int}

/-- Milliseconds are rounded down, before 1970 too. -/
theorem millisOfInstant_eq_iff :
    millisOfInstant instant = n ↔ n * 1000000 ≤ instant ∧ instant < (n + 1) * 1000000 := by
  rw [millisOfInstant, Int.fdiv_eq_ediv_of_nonneg _ (by decide)]
  omega

theorem millisOfInstant_mono (h : instant ≤ instant') :
    millisOfInstant instant ≤ millisOfInstant instant' := by
  unfold millisOfInstant
  rw [Int.fdiv_eq_ediv_of_nonneg _ (by decide), Int.fdiv_eq_ediv_of_nonneg _ (by decide)]
  omega

theorem millisOfInstant_add (instant n : Int) :
    millisOfInstant (instant + n * 1000000) = millisOfInstant instant + n := by
  unfold millisOfInstant
  rw [Int.fdiv_eq_ediv_of_nonneg _ (by decide), Int.fdiv_eq_ediv_of_nonneg _ (by decide)]
  omega

end Timestamp

end RunCharts
