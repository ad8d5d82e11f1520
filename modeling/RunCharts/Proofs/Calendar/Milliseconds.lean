import RunCharts.Proofs.Calendar.Instants
import RunCharts.Proofs.Calendar.Written
import RunCharts.Proofs.Summary.Outcome

/-!
# Milliseconds of written dates

A text of ISO 8601 stands for its instant, rounded down to the millisecond. A text with more than
six digits after the point needs nanoseconds; it is refused also where only the instant that is
written, its zone left aside, is out of range.
-/

namespace RunCharts.Timestamp

variable {s s' : String} {t t' : DateTime} {fraction fraction' : List Nat}

/-- The instant is in range, and so is the one that is written if it needs nanoseconds. -/
def IsKept (t : DateTime) (fraction : List Nat) : Prop :=
  InRange t.instant ∧ (6 < fraction.length → InRange t.localInstant)

instance (t : DateTime) (fraction : List Nat) : Decidable (IsKept t fraction) :=
  inferInstanceAs (Decidable (_ ∧ _))

def epoch : DateTime := ⟨⟨1970, 1, 1⟩, .midnight, some 0⟩

theorem isWrittenInRange_of_length (h : InRange t.localInstant) (hlength : fraction.length ≤ 9) :
    IsWrittenInRange t fraction := by
  refine ⟨h, fun hcut => ?_⟩
  rw [List.drop_eq_nil_of_le hlength] at hcut
  exact absurd hcut.2 Bool.false_ne_true

theorem millis?_of_isStamp (h : Iso.IsStamp t fraction s.toList) (hvalid : t.Valid)
    (hlength : fraction.length ≤ 9) (hkept : IsKept t fraction) :
    millis? (some s) = .ok (some (millisOfInstant t.instant)) := by
  have hlimit : fraction.length ≤ Iso.fractionLimit := hlength.trans (by decide)
  rw [millis?_eq_some_iff]
  exact ⟨s, rfl, t, fraction, read_of_isStamp h hlimit hvalid.1 hvalid.2.1, hkept.1,
    fun hlong => isWrittenInRange_of_length (hkept.2 hlong) hlength, rfl⟩

/-- A text of ISO 8601 whose instant is kept stands for that instant, rounded down to the
millisecond. The start of 1970 is zero, each day of the calendar adds a day, and an offset is taken
off. So texts of one instant stand for one number, and a later instant never has a smaller one. -/
theorem millis?_of_iso (h : Iso.IsStamp t fraction s.toList)
    (h' : Iso.IsStamp t' fraction' s'.toList) (hvalid : t.Valid) (hvalid' : t'.Valid)
    (hlength : fraction.length ≤ 9) (hlength' : fraction'.length ≤ 9) (hkept : IsKept t fraction)
    (hkept' : IsKept t' fraction') :
    ∃ n n', millis? (some s) = .ok (some n) ∧ millis? (some s') = .ok (some n') ∧
      (n * 1000000 ≤ t.instant ∧ t.instant < (n + 1) * 1000000) ∧
      (t = epoch → n = 0) ∧
      (∀ days, t' = { t with date := Nat.repeat Date.next days t.date } →
        n' = n + days * 86400000) ∧
      (∀ offset, t' = { t with offset } →
        n' = n + (t.offset.getD 0 - offset.getD 0) * 60000) ∧
      (t.instant = t'.instant → n = n') ∧ (t.instant ≤ t'.instant → n ≤ n') := by
  refine ⟨_, _, millis?_of_isStamp h hvalid hlength hkept,
    millis?_of_isStamp h' hvalid' hlength' hkept', millisOfInstant_eq_iff.mp rfl, ?_, ?_, ?_,
    congrArg millisOfInstant, millisOfInstant_mono⟩
  · rintro rfl
    decide
  · rintro days rfl
    rw [DateTime.instant_later hvalid.1 hvalid'.1, millisOfInstant_add]
  · rintro offset rfl
    rw [DateTime.instant_withOffset, millisOfInstant_add]

def lateTime : TimeOfDay := ⟨23, 59, 59, 123456789⟩

/-- A date, and the last second of it in a zone ahead of UTC. -/
theorem isStamp_late {d : Date} {ds : List Char} (h : Iso.IsDate true d ds) :
    Iso.IsStamp ⟨d, lateTime, some 330⟩ [1, 2, 3, 4, 5, 6, 7, 8, 9]
      (ds ++ "T23:59:59.123456789+05:30".toList) := by
  have htime : Iso.IsTime true lateTime [1, 2, 3, 4, 5, 6, 7, 8, 9]
      "23:59:59.123456789".toList :=
    @Iso.IsTime.second true 23 59 59 _ "23".toList "59".toList "59".toList ".123456789".toList
      (by decide) (by decide) (by decide)
      (@Iso.IsFraction.digits "123456789".toList (by decide) (List.all_eq_true.mp rfl))
  have hzone : Iso.IsZone (some 330) "+05:30".toList :=
    @Iso.IsZone.minutes 5 30 "05".toList "30".toList false true (by decide)
      (by decide) (by decide) (by decide)
  exact .dateTime h (.inl rfl) htime hzone

/-- The year 1900 has no 29 February, and before 1970 milliseconds are rounded down as well. -/
theorem millis?_of_february :
    DateTime.Valid ⟨⟨1900, 2, 28⟩, lateTime, some 330⟩ ∧
    DateTime.Valid ⟨⟨1900, 3, 1⟩, lateTime, some 330⟩ ∧
    ∃ n n', millis? (some "1900-02-28T23:59:59.123456789+05:30") = .ok (some n) ∧
      millis? (some "1900-03-01T23:59:59.123456789+05:30") = .ok (some n') ∧
      n' = n + 86400000 ∧ n * 1000000 ≤ -2203911000876543211 ∧
      -2203911000876543211 < (n + 1) * 1000000 := by
  have hdate : Iso.IsDate true ⟨1900, 2, 28⟩ "1900-02-28".toList :=
    ⟨"1900".toList, "02".toList, "28".toList, by decide, by decide, by decide, rfl⟩
  have hdate' : Iso.IsDate true ⟨1900, 3, 1⟩ "1900-03-01".toList :=
    ⟨"1900".toList, "03".toList, "01".toList, by decide, by decide, by decide, rfl⟩
  have hvalid : DateTime.Valid ⟨⟨1900, 2, 28⟩, lateTime, some 330⟩ := by decide
  have hvalid' : DateTime.Valid ⟨⟨1900, 3, 1⟩, lateTime, some 330⟩ := by decide
  have hstamp : Iso.IsStamp _ _ "1900-02-28T23:59:59.123456789+05:30".toList := isStamp_late hdate
  have hstamp' : Iso.IsStamp _ _ "1900-03-01T23:59:59.123456789+05:30".toList := isStamp_late hdate'
  obtain ⟨n, n', hn, hn', hfloor, -, hnext, -⟩ := millis?_of_iso hstamp hstamp' hvalid hvalid'
    (by decide) (by decide) (by decide +kernel) (by decide +kernel)
  have hinstant : DateTime.instant ⟨⟨1900, 2, 28⟩, lateTime, some 330⟩ = -2203911000876543211 := by
    decide +kernel
  rw [hinstant] at hfloor
  exact ⟨hvalid, hvalid', n, n', hn, hn', hnext 1 rfl, hfloor⟩

/-- A text with seven digits after the point whose instant is in range and which yet stands for
nothing: the instant that is written, its zone left aside, is hours out of range. -/
theorem millis?_of_late_zone :
    Iso.IsStamp ⟨⟨2262, 4, 12⟩, ⟨5, 0, 0, 123456700⟩, some 480⟩ [1, 2, 3, 4, 5, 6, 7]
      "2262-04-12T05:00:00.1234567+08:00".toList ∧
    DateTime.Valid ⟨⟨2262, 4, 12⟩, ⟨5, 0, 0, 123456700⟩, some 480⟩ ∧
    InRange (DateTime.instant ⟨⟨2262, 4, 12⟩, ⟨5, 0, 0, 123456700⟩, some 480⟩) ∧
    millis? (some "2262-04-12T05:00:00.1234567+08:00") = .ok none := by
  have hdate : Iso.IsDate true ⟨2262, 4, 12⟩ "2262-04-12".toList :=
    ⟨"2262".toList, "04".toList, "12".toList, by decide, by decide, by decide, rfl⟩
  have htime : Iso.IsTime true ⟨5, 0, 0, 123456700⟩ [1, 2, 3, 4, 5, 6, 7]
      "05:00:00.1234567".toList :=
    @Iso.IsTime.second true 5 0 0 _ "05".toList "00".toList "00".toList ".1234567".toList
      (by decide) (by decide) (by decide)
      (@Iso.IsFraction.digits "1234567".toList (by decide) (List.all_eq_true.mp rfl))
  have hzone : Iso.IsZone (some 480) "+08:00".toList :=
    @Iso.IsZone.minutes 8 0 "08".toList "00".toList false true (by decide)
      (by decide) (by decide) (by decide)
  exact ⟨.dateTime hdate (.inl rfl) htime hzone, by decide, by decide +kernel, by decide +kernel⟩

end RunCharts.Timestamp
