import RunCharts.Proofs.Calendar.Milliseconds
import RunCharts.Proofs.Yaml.Stamps
import RunCharts.Yaml.Part

/-!
# Dates without quotes

A date or a date-time of RFC 3339 that stands without quotes is a value of its own: its fraction is
cut to microseconds, and where a text is called for it is displayed. What is displayed stands for
the same millisecond as the text between quotes, which is kept as it is.
-/

namespace RunCharts

namespace DateTime

variable {t : DateTime}

def inMicroseconds (t : DateTime) : DateTime :=
  { t with time := { t.time with nanosecond := t.time.nanosecond / 1000 * 1000 } }

theorem valid_inMicroseconds (h : t.Valid) : t.inMicroseconds.Valid := by
  obtain ⟨hdate, ⟨hhour, hminute, hsecond, hnanosecond⟩, hoffset⟩ := h
  exact ⟨hdate, ⟨hhour, hminute, hsecond, (Nat.div_mul_le_self _ _).trans_lt hnanosecond⟩, hoffset⟩

theorem nanosecond_inMicroseconds (t : DateTime) : t.inMicroseconds.time.nanosecond % 1000 = 0 :=
  Nat.mul_mod_left _ _

/-- What is below the microseconds does not count in the milliseconds. -/
theorem millisOfInstant_inMicroseconds (t : DateTime) :
    Timestamp.millisOfInstant t.inMicroseconds.instant = Timestamp.millisOfInstant t.instant := by
  have hcut : t.inMicroseconds.instant = t.instant - (t.time.nanosecond % 1000 : Nat) := by
    simp only [instant, localInstant, inMicroseconds, TimeOfDay.nanoseconds]
    omega
  have hwhole : t.inMicroseconds.instant % 1000 = 0 := by
    simp only [instant, localInstant, inMicroseconds, TimeOfDay.nanoseconds, minutesPerDay]
    omega
  have hfloor := Timestamp.millisOfInstant_eq_iff.mp (Eq.refl (Timestamp.millisOfInstant t.instant))
  rw [Timestamp.millisOfInstant_eq_iff]
  omega

theorem fault?_of_valid (h : t.Valid) : t.fault? = none := by
  obtain ⟨hdate, ⟨hhour, hminute, hsecond, -⟩, hoffset⟩ := h
  have htime : t.time.fault? = none := by
    rw [TimeOfDay.fault?, if_neg (by omega), if_neg (by omega), if_neg (by omega)]
  rw [fault?, if_neg (by omega), Date.fault?_eq_none_iff.mpr hdate, htime]
  rfl

end DateTime

namespace Timestamp

variable {t : DateTime}

theorem isKept_of_years (h : t.Valid) (hyear : 1678 ≤ t.date.year) (hyear' : t.date.year ≤ 2261)
    {fraction : List Nat} : IsKept t fraction := by
  obtain ⟨hwritten, hinstant⟩ := DateTime.inRange_of_years h.1.2 h.2.1 h.2.2 hyear hyear'
  exact ⟨hinstant, fun _ => hwritten⟩

/-- The text that a date-time is displayed as stands for the date-time. -/
theorem millis?_text (h : t.Valid) (hmicros : t.time.nanosecond % 1000 = 0)
    (hyear : 1678 ≤ t.date.year) (hyear' : t.date.year ≤ 2261) :
    millis? (some t.text) = .ok (some (millisOfInstant t.instant)) := by
  obtain ⟨fraction, hlength, hstamp⟩ := DateTime.isStamp_text h hmicros
  exact millis?_of_isStamp hstamp h (by omega) (isKept_of_years h hyear hyear')

/-- The text that a date is displayed as stands for the start of its day in UTC. -/
theorem millis?_dateText {d : Date} (h : d.Valid) (hyear : 1678 ≤ d.year) (hyear' : d.year ≤ 2261) :
    millis? (some d.text) =
      .ok (some (millisOfInstant (DateTime.instant ⟨d, .midnight, none⟩))) := by
  have hmidnight : TimeOfDay.midnight.Valid := by decide
  have hvalid : DateTime.Valid ⟨d, .midnight, none⟩ := ⟨h, hmidnight, Nat.succ_pos _⟩
  exact millis?_of_isStamp (.date (Date.isDate_text h)) hvalid (Nat.zero_le 9)
    (isKept_of_years hvalid hyear hyear')

end Timestamp

namespace Yaml

open Iso

variable {t : DateTime} {fraction : List Nat} {cs : List Char}

/-- A date of RFC 3339 without quotes is read as a date, or as a date-time to the microsecond. -/
theorem moment_eq (h : IsFullStamp t fraction cs) (hvalid : t.Valid) :
    Scalars.moment cs = .ok (.date t.date) ∧ t.time = .midnight ∧ t.offset = none ∨
      Scalars.moment cs = .ok (.dateTime t.inMicroseconds) := by
  unfold Scalars.moment
  rw [Resolve.withoutBreak_of_isStampChar h.isStamp.isStampChar]
  cases h with
  | date hdate =>
    left
    rw [Resolve.timestamp?_date hdate]
    dsimp only
    rw [Date.fault?_eq_none_iff.mpr hvalid.1]
    exact ⟨rfl, rfl, rfl⟩
  | dateTime hdate hmark htime hzone =>
    right
    rw [Resolve.timestamp?_append hdate (Resolve.time?_append hmark htime hzone),
      htime.nanosecondsOf_take]
    have hfault := DateTime.fault?_of_valid (DateTime.valid_inMicroseconds hvalid)
    unfold DateTime.inMicroseconds at hfault ⊢
    dsimp only at hfault ⊢
    rw [hfault]

/-- The node of a scalar without a tag, between quotes or not. -/
def Node.ofText (plain : Bool) (s : String) : Node :=
  ⟨Node.scalarTag none plain s.toList, .scalar s.toList⟩

/-- A scalar with nothing in front of it becomes this node, wherever it stands. -/
theorem content_ofText (scope : Graph.Scope) (block indentless plain : Bool) (fuel : Nat)
    {s : String} {st : Graph.State} {ts : List Token}
    (h : st.tokens = .scalar plain s.toList :: ts) :
    (Graph.content scope block indentless ⟨none, none⟩ (fuel + 1)).run st =
      .ok (st.nodes.size, { st with tokens := ts, nodes := st.nodes.push (.ofText plain s) }) := by
  obtain ⟨tokens, anchors, nodes⟩ := st
  subst h
  rfl

variable {s : String}

theorem scalarOf_quoted (nodes : Array Node) (s : String) :
    Part.scalarOf nodes (.ofText false s) = .ok (.text s) := by
  have htext : Scalars.ofText .text s.toList = .ok (.text s) := by
    rw [Scalars.ofText, String.ofList_toList]
  exact htext

theorem scalarOf_unquoted (nodes : Array Node) (h : IsFullStamp t fraction s.toList) :
    Part.scalarOf nodes (.ofText true s) = Scalars.moment s.toList := by
  have htag : Node.scalarTag none true s.toList = .timestamp := Resolve.tagOf_of_isFullStamp h
  rw [Node.ofText, htag]
  rfl

/-- A date in the years that can be kept stands for the same millisecond whether it is written
without quotes, as a value that is displayed where a text is asked for, or between quotes. Either
way its node is the one of the scalar, wherever the scalar stands. -/
theorem millis?_of_unquoted (nodes : Array Node) (h : IsFullStamp t fraction s.toList)
    (hvalid : t.Valid) (hlength : fraction.length ≤ 9) (hyear : 1678 ≤ t.date.year)
    (hyear' : t.date.year ≤ 2261) :
    (∀ scope block indentless plain fuel (st : Graph.State) ts,
      st.tokens = .scalar plain s.toList :: ts →
      (Graph.content scope block indentless ⟨none, none⟩ (fuel + 1)).run st =
        .ok (st.nodes.size, { st with tokens := ts, nodes := st.nodes.push (.ofText plain s) })) ∧
    ∃ value stored n, Part.scalarOf nodes (.ofText true s) = .ok value ∧
      (value = .date t.date ∨ value = .dateTime t.inMicroseconds) ∧
      (Document.scalar value).text? = .ok (some stored) ∧
      Part.scalarOf nodes (.ofText false s) = .ok (.text s) ∧
      (Document.scalar (.text s)).text? = .ok (some s) ∧
      Timestamp.millis? (some stored) = .ok (some n) ∧
      Timestamp.millis? (some s) = .ok (some n) := by
  have hquoted := Timestamp.millis?_of_isStamp h.isStamp hvalid hlength
    (Timestamp.isKept_of_years hvalid hyear hyear')
  have hread := scalarOf_unquoted nodes h
  refine ⟨fun scope block indentless plain fuel st ts =>
    content_ofText scope block indentless plain fuel, ?_⟩
  rcases moment_eq h hvalid with ⟨hmoment, htime, hoffset⟩ | hmoment
  · have hdate : t = ⟨t.date, .midnight, none⟩ := by
      rw [← htime, ← hoffset]
    refine ⟨.date t.date, t.date.text, _, hread.trans hmoment, .inl rfl, rfl,
      scalarOf_quoted nodes s, rfl, ?_, hquoted⟩
    rw [hdate] at hvalid ⊢
    exact Timestamp.millis?_dateText hvalid.1 hyear hyear'
  · refine ⟨.dateTime t.inMicroseconds, t.inMicroseconds.text, _, hread.trans hmoment, .inr rfl,
      rfl, scalarOf_quoted nodes s, rfl, ?_, hquoted⟩
    rw [← DateTime.millisOfInstant_inMicroseconds]
    exact Timestamp.millis?_text (DateTime.valid_inMicroseconds hvalid)
      (DateTime.nanosecond_inMicroseconds t) hyear hyear'

/-- The last nanosecond before 1970, in a zone behind UTC. Its millisecond is the one before the
start of 1970, though three digits of it are lost without quotes. -/
theorem millis?_of_unquoted_eve :
    IsFullStamp ⟨⟨1969, 12, 31⟩, ⟨20, 59, 59, 999999999⟩, some (-180)⟩ [9, 9, 9, 9, 9, 9, 9, 9, 9]
      "1969-12-31 20:59:59.999999999-03:00".toList ∧
    DateTime.Valid ⟨⟨1969, 12, 31⟩, ⟨20, 59, 59, 999999999⟩, some (-180)⟩ ∧
    ∃ value stored,
      Part.scalarOf #[] (.ofText true "1969-12-31 20:59:59.999999999-03:00") = .ok value ∧
      (Document.scalar value).text? = .ok (some stored) ∧
      Timestamp.millis? (some stored) = .ok (some (-1)) ∧
      Timestamp.millis? (some "1969-12-31 20:59:59.999999999-03:00") = .ok (some (-1)) := by
  have hdate : IsDate true ⟨1969, 12, 31⟩ "1969-12-31".toList :=
    ⟨"1969".toList, "12".toList, "31".toList, by decide, by decide, by decide, rfl⟩
  have htime : IsFullTime ⟨20, 59, 59, 999999999⟩ [9, 9, 9, 9, 9, 9, 9, 9, 9]
      "20:59:59.999999999".toList :=
    @IsFullTime.second 20 59 59 _ "20".toList "59".toList "59".toList ".999999999".toList
      (by decide) (by decide) (by decide)
      (@IsFraction.digits "999999999".toList (by decide) (List.all_eq_true.mp rfl))
  have hzone : IsFullZone (some (-180)) "-03:00".toList :=
    @IsFullZone.minutes 3 0 "03".toList "00".toList true (by decide)
      (by decide) (by decide) (by decide)
  have hstamp : IsFullStamp ⟨⟨1969, 12, 31⟩, ⟨20, 59, 59, 999999999⟩, some (-180)⟩ _
      "1969-12-31 20:59:59.999999999-03:00".toList := .dateTime hdate (.inr rfl) htime hzone
  have hvalid : DateTime.Valid ⟨⟨1969, 12, 31⟩, ⟨20, 59, 59, 999999999⟩, some (-180)⟩ := by decide
  have hmillis : Timestamp.millis? (some "1969-12-31 20:59:59.999999999-03:00") =
      .ok (some (-1)) := by decide +kernel
  obtain ⟨-, value, stored, n, hread, -, htext, -, -, hstored, hquoted⟩ :=
    millis?_of_unquoted #[] hstamp hvalid (by decide) (by decide) (by decide)
  rw [hmillis] at hquoted
  cases hquoted
  exact ⟨hstamp, hvalid, value, stored, hread, htext, hstored, hmillis⟩

end Yaml

end RunCharts
