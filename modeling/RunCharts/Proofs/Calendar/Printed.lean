import RunCharts.Document.Display
import RunCharts.Proofs.Calendar.Instants
import RunCharts.Proofs.Calendar.Written
import RunCharts.Proofs.Decimal.Digits

/-!
# Displayed dates and times

A date is displayed as a text of ISO 8601 that stands for it, and so is a date-time in whole
microseconds, with six digits after the point of its seconds or none.
-/

namespace RunCharts

open Iso Text

variable {width n : Nat} {fraction : List Nat}

/-! ### Padded numbers -/

theorem isField_padded (hwidth : 0 < width) (h : n < 10 ^ width) :
    IsField width n (padded width n).toList := by
  have hlength : (NumberStyle.digits n).length ≤ width :=
    (Nat.length_toDigits_le_iff (by decide) hwidth).mpr h
  have htext : (padded width n).toList =
      NumberStyle.zeros (width - (NumberStyle.digits n).length) ++ NumberStyle.digits n :=
    String.toList_ofList
  rw [htext]
  refine ⟨?_, ?_, ?_⟩
  · rw [List.length_append, NumberStyle.length_zeros, Nat.sub_add_cancel hlength]
  · exact List.forall_mem_append.mpr ⟨fun _ => NumberStyle.isAsciiDigit_of_mem_zeros,
      fun _ => NumberStyle.isAsciiDigit_of_mem_digits⟩
  · rw [NumberStyle.valueOfAscii_zeros_append, NumberStyle.valueOfAscii_digits]

/-! ### Fractions of a second -/

theorem Iso.IsFraction.lt_ten {cs : List Char} (h : IsFraction fraction cs) :
    ∀ d ∈ fraction, d < 10 := by
  cases h with
  | missing => exact nofun
  | digits hne hdigits => exact lt_ten_of_mem_asciiDigits hdigits

/-- The digits after the point of a second, in millionths and what is below them. -/
theorem nanosecondsOf_eq (fraction : List Nat) :
    nanosecondsOf fraction = valueOfDigits ((fraction ++ List.replicate 9 0).take 6) * 1000 +
      valueOfDigits (((fraction ++ List.replicate 9 0).drop 6).take 3) := by
  have hsplit : (fraction ++ List.replicate 9 0).take 9 =
      (fraction ++ List.replicate 9 0).take 6 ++ ((fraction ++ List.replicate 9 0).drop 6).take 3 :=
    List.take_add (i := 6) (j := 3)
  have hlength : (((fraction ++ List.replicate 9 0).drop 6).take 3).length = 3 := by simp
  have hpow : 10 ^ 3 = 1000 := rfl
  rw [nanosecondsOf, hsplit, valueOfDigits_append, hlength, hpow]

theorem nanosecondsOf_take (fraction : List Nat) :
    nanosecondsOf (fraction.take 6) =
      valueOfDigits ((fraction ++ List.replicate 9 0).take 6) * 1000 := by
  have hzeros : (fraction.take 6 ++ List.replicate 9 0).take 9 =
      (fraction ++ List.replicate 9 0).take 6 ++ List.replicate 3 0 := by
    simp only [List.take_append, List.take_take, List.take_replicate, List.append_assoc,
      List.replicate_append_replicate, List.length_take]
    congr 2
    omega
  have hpow : 10 ^ 3 = 1000 := rfl
  rw [nanosecondsOf, hzeros, valueOfDigits_append, valueOfDigits_zeros, List.length_replicate,
    hpow, Nat.add_zero]

/-- Digits past the sixth are less than a microsecond. -/
theorem nanosecondsOf_take_le (h : ∀ d ∈ fraction, d < 10) :
    nanosecondsOf (fraction.take 6) % 1000 = 0 ∧
      nanosecondsOf (fraction.take 6) ≤ nanosecondsOf fraction ∧
      nanosecondsOf fraction < nanosecondsOf (fraction.take 6) + 1000 := by
  have hdigits : ∀ d ∈ ((fraction ++ List.replicate 9 0).drop 6).take 3, d < 10 := by
    intro d hd
    rcases List.mem_append.mp (List.mem_of_mem_drop (List.mem_of_mem_take hd)) with hd | hd
    · exact h d hd
    · rw [(List.mem_replicate.mp hd).2]
      decide
  have hlt := valueOfDigits_lt hdigits
  have hlength : (((fraction ++ List.replicate 9 0).drop 6).take 3).length = 3 := by simp
  have hpow : Nat.pow 10 3 = 1000 := rfl
  rw [hlength, hpow] at hlt
  rw [nanosecondsOf_take, nanosecondsOf_eq]
  omega

theorem nanosecondsOf_of_length (h : fraction.length = 6) :
    nanosecondsOf fraction = valueOfDigits fraction * 1000 := by
  have htake := nanosecondsOf_take fraction
  rwa [List.take_of_length_le h.le, List.take_left' h] at htake

/-- Microseconds after the point: six digits, or no point where there are none. -/
theorem isFraction_padded (h : n < 1000000) :
    ∃ fraction, fraction.length ≤ 6 ∧ nanosecondsOf fraction = n * 1000 ∧
      IsFraction fraction (if n = 0 then "" else "." ++ padded 6 n).toList := by
  by_cases hzero : n = 0
  · subst hzero
    exact ⟨[], Nat.zero_le 6, rfl, .missing⟩
  · have hpadded : IsField 6 n (padded 6 n).toList := isField_padded (by decide) h
    have hlength : (asciiDigits (padded 6 n).toList).length = 6 := by
      rw [asciiDigits, List.length_map, hpadded.length_eq]
    have hvalue : valueOfDigits (asciiDigits (padded 6 n).toList) = n := hpadded.value_eq
    refine ⟨asciiDigits (padded 6 n).toList, hlength.le, ?_, ?_⟩
    · rw [nanosecondsOf_of_length hlength, hvalue]
    · rw [if_neg hzero, String.toList_append]
      exact .digits (List.ne_nil_of_length_pos (by rw [hpadded.length_eq]; decide))
        hpadded.areDigits

/-! ### Displayed texts -/

theorem Date.isDate_text {d : Date} (h : d.Valid) : IsDate true d d.text.toList := by
  obtain ⟨⟨-, hyear⟩, ⟨-, hmonth⟩, -, hday⟩ := h
  have hdays : d.day ≤ 31 := hday.trans (daysInMonth_bounds d.year d.month).2
  refine ⟨(padded 4 d.year).toList, (padded 2 d.month).toList, (padded 2 d.day).toList,
    isField_padded (by decide) (by omega), isField_padded (by decide) (by omega),
    isField_padded (by decide) (by omega), ?_⟩
  simp only [Date.text, String.toList_append, List.append_assoc]
  rfl

/-- A time in whole microseconds is displayed as a text that stands for it. -/
theorem TimeOfDay.isTime_text {t : TimeOfDay} (h : t.Valid) (hmicros : t.nanosecond % 1000 = 0) :
    ∃ fraction, fraction.length ≤ 6 ∧ IsTime true t fraction t.text.toList := by
  obtain ⟨hhour, hminute, hsecond, hnanosecond⟩ := h
  have hhours : IsField 2 t.hour (padded 2 t.hour).toList :=
    isField_padded (by decide) (by omega)
  have hminutes : IsField 2 t.minute (padded 2 t.minute).toList :=
    isField_padded (by decide) (by omega)
  have hseconds : IsField 2 t.second (padded 2 t.second).toList :=
    isField_padded (by decide) (by omega)
  obtain ⟨fraction, hlength, hvalue, hfraction⟩ :=
    isFraction_padded (show t.nanosecond / 1000 < 1000000 by omega)
  have hwhole : nanosecondsOf fraction = t.nanosecond := by omega
  have htime : IsTime true ⟨t.hour, t.minute, t.second, nanosecondsOf fraction⟩ fraction _ :=
    .second hhours hminutes hseconds hfraction
  rw [hwhole] at htime
  refine ⟨fraction, hlength, ?_⟩
  simp only [TimeOfDay.text, String.toList_append, List.append_assoc]
  exact htime

namespace DateTime

theorem isZone_text {offset : Option Int} (h : (offset.getD 0).natAbs < minutesPerDay) :
    IsZone offset ((offset.map offsetText).getD "").toList := by
  cases offset with
  | none => exact .missing
  | some minutes =>
    have hlt : minutes.natAbs < 1440 := h
    have hhours : IsField 2 (minutes.natAbs / 60) (padded 2 (minutes.natAbs / 60)).toList :=
      isField_padded (by decide) (by omega)
    have hminutes : IsField 2 (minutes.natAbs % 60) (padded 2 (minutes.natAbs % 60)).toList :=
      isField_padded (by decide) (by omega)
    have hzone := IsZone.minutes (decide (minutes < 0)) true hhours (by omega) hminutes (by omega)
    rw [Nat.div_add_mod', Numeral.applySign_natAbs] at hzone
    have hsign : (if minutes < 0 then "-" else "+").toList =
        [signChar (decide (minutes < 0))] := by
      by_cases hnegative : minutes < 0 <;> simp [signChar, hnegative]
    have hcolon : ":".toList = gap true ':' := rfl
    rw [Option.map_some, Option.getD_some, offsetText, String.toList_append, String.toList_append,
      String.toList_append, hsign, hcolon, List.append_assoc, List.append_assoc,
      List.singleton_append]
    exact hzone

/-- A date-time in whole microseconds is displayed as a text that stands for it. -/
theorem isStamp_text {t : DateTime} (h : t.Valid) (hmicros : t.time.nanosecond % 1000 = 0) :
    ∃ fraction, fraction.length ≤ 6 ∧ IsStamp t fraction t.text.toList := by
  obtain ⟨hdate, htime, hoffset⟩ := h
  obtain ⟨fraction, hlength, hclock⟩ := TimeOfDay.isTime_text htime hmicros
  refine ⟨fraction, hlength, ?_⟩
  have hspace : " ".toList = [' '] := rfl
  rw [text, String.toList_append, String.toList_append, String.toList_append, hspace,
    List.append_assoc, List.append_assoc, List.singleton_append]
  exact .dateTime (Date.isDate_text hdate) (.inr rfl) hclock (isZone_text hoffset)

end DateTime

end RunCharts
