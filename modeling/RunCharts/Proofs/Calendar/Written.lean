import RunCharts.Proofs.Json.Numerals
import RunCharts.Timestamp

/-!
# Written dates and times

The texts of ISO 8601, said without the reader: a date, a date and a time, and perhaps a zone. The
parts stand apart, with hyphens and colons, or close together; the time may leave out its seconds,
or minutes and seconds, and a date alone its day, or day and month. Each of these texts is read as
what it says.
-/

namespace RunCharts.Iso

open Text

structure IsField (width n : Nat) (cs : List Char) : Prop where
  length_eq : cs.length = width
  areDigits : ∀ c ∈ cs, isAsciiDigit c = true
  value_eq : valueOfAscii cs = n

instance (width n : Nat) (cs : List Char) : Decidable (IsField width n cs) :=
  decidable_of_iff (cs.length = width ∧ cs.all isAsciiDigit = true ∧ valueOfAscii cs = n)
    ⟨fun ⟨hlength, hdigits, hvalue⟩ => ⟨hlength, List.all_eq_true.mp hdigits, hvalue⟩,
      fun h => ⟨h.length_eq, List.all_eq_true.mpr h.areDigits, h.value_eq⟩⟩

/-- What stands between two parts: a mark, or nothing where they are close together. -/
def gap (apart : Bool) (mark : Char) : List Char := if apart then [mark] else []

def IsDate (apart : Bool) (d : Date) (cs : List Char) : Prop :=
  ∃ ys ms ds, IsField 4 d.year ys ∧ IsField 2 d.month ms ∧ IsField 2 d.day ds ∧
    cs = ys ++ (gap apart '-' ++ (ms ++ (gap apart '-' ++ ds)))

inductive IsFraction : List Nat → List Char → Prop
  | missing : IsFraction [] []
  | digits {cs : List Char} (hne : cs ≠ []) (h : ∀ c ∈ cs, isAsciiDigit c = true) :
      IsFraction (asciiDigits cs) ('.' :: cs)

inductive IsTime (apart : Bool) : TimeOfDay → List Nat → List Char → Prop
  | hour {hour : Nat} {hs : List Char} (hhour : IsField 2 hour hs) :
      IsTime apart ⟨hour, 0, 0, 0⟩ [] hs
  | minute {hour minute : Nat} {hs ms : List Char} (hhour : IsField 2 hour hs)
      (hminute : IsField 2 minute ms) :
      IsTime apart ⟨hour, minute, 0, 0⟩ [] (hs ++ (gap apart ':' ++ ms))
  | second {hour minute second : Nat} {fraction : List Nat} {hs ms ss fs : List Char}
      (hhour : IsField 2 hour hs) (hminute : IsField 2 minute ms) (hsecond : IsField 2 second ss)
      (hfraction : IsFraction fraction fs) :
      IsTime apart ⟨hour, minute, second, nanosecondsOf fraction⟩ fraction
        (hs ++ (gap apart ':' ++ (ms ++ (gap apart ':' ++ (ss ++ fs)))))

def signChar (negative : Bool) : Char := if negative then '-' else '+'

/-- The text is a zone: none, UTC, or an offset of less than a day. -/
inductive IsZone : Option Int → List Char → Prop
  | missing : IsZone none []
  | utc : IsZone (some 0) ['Z']
  | hours {hours : Nat} {hs : List Char} (negative : Bool) (hhours : IsField 2 hours hs)
      (hlt : hours < 24) :
      IsZone (some (Numeral.applySign negative (hours * 60))) (signChar negative :: hs)
  | minutes {hours minutes : Nat} {hs ms : List Char} (negative apart : Bool)
      (hhours : IsField 2 hours hs) (hlt : hours < 24) (hminutes : IsField 2 minutes ms)
      (hlt' : minutes < 60) :
      IsZone (some (Numeral.applySign negative (hours * 60 + minutes)))
        (signChar negative :: (hs ++ (gap apart ':' ++ ms)))

/-- The text stands for a date-time, with these digits after the point of its seconds. What a text
leaves out is the first there is. -/
inductive IsStamp : DateTime → List Nat → List Char → Prop
  | year {year : Nat} {ys : List Char} (hyear : IsField 4 year ys) :
      IsStamp ⟨⟨year, 1, 1⟩, .midnight, none⟩ [] ys
  | month {year month : Nat} {ys ms : List Char} (hyear : IsField 4 year ys)
      (hmonth : IsField 2 month ms) :
      IsStamp ⟨⟨year, month, 1⟩, .midnight, none⟩ [] (ys ++ '-' :: ms)
  | date {d : Date} {ds : List Char} {apart : Bool} (hdate : IsDate apart d ds) :
      IsStamp ⟨d, .midnight, none⟩ [] ds
  | dateTime {d : Date} {t : TimeOfDay} {offset : Option Int} {fraction : List Nat}
      {ds ts zs : List Char} {apart apart' : Bool} {mark : Char} (hdate : IsDate apart d ds)
      (hmark : mark = 'T' ∨ mark = ' ') (htime : IsTime apart' t fraction ts)
      (hzone : IsZone offset zs) : IsStamp ⟨d, t, offset⟩ fraction (ds ++ mark :: (ts ++ zs))

variable {width n : Nat} {cs rest : List Char} {d : Date} {t : TimeOfDay} {fraction : List Nat}
  {apart : Bool} {offset : Option Int}

/-! ### Fields -/

theorem IsField.exists_cons (h : IsField (width + 1) n cs) :
    ∃ c ds, cs = c :: ds ∧ isAsciiDigit c = true := by
  cases hcs : cs with
  | nil => exact absurd h.length_eq (by simp [hcs])
  | cons c ds => exact ⟨c, ds, rfl, h.areDigits c (by rw [hcs]; exact List.mem_cons_self)⟩

theorem IsField.takeNumber_append (h : IsField width n cs) (rest : List Char) :
    takeNumber width (cs ++ rest) = some (n, rest) := by
  have hfront : (cs ++ rest).take width = cs := List.take_left' h.length_eq
  have hbehind : (cs ++ rest).drop width = rest := List.drop_left' h.length_eq
  rw [takeNumber, hfront, hbehind, if_pos ⟨h.length_eq, List.all_eq_true.mpr h.areDigits⟩,
    h.value_eq]

theorem IsField.takeShort_append (h : IsField 2 n cs) (rest : List Char) :
    takeShort (cs ++ rest) = some (n, rest) := by
  rw [takeShort, h.takeNumber_append]

theorem IsField.takeNumber_eq (h : IsField width n cs) : takeNumber width cs = some (n, []) := by
  simpa using h.takeNumber_append []

theorem IsField.takeShort_eq (h : IsField 2 n cs) : takeShort cs = some (n, []) := by
  simpa using h.takeShort_append []

/-! ### Dates -/

theorem takeMonthDay_apart {year month day : Nat} {ms ds : List Char} (hmonth : IsField 2 month ms)
    (hday : IsField 2 day ds) (rest : List Char) :
    takeMonthDay year ('-' :: (ms ++ '-' :: (ds ++ rest))) = some (⟨year, month, day⟩, rest) := by
  rw [takeMonthDay, if_neg (by decide), if_pos (by decide), hmonth.takeShort_append]
  change (takeShort (ds ++ rest)).bind _ = _
  rw [hday.takeShort_append]
  rfl

theorem takeMonthDay_close {year month day : Nat} {ms ds : List Char} (hmonth : IsField 2 month ms)
    (hday : IsField 2 day ds) (rest : List Char) :
    takeMonthDay year (ms ++ (ds ++ rest)) = some (⟨year, month, day⟩, rest) := by
  obtain ⟨m, ms', rfl, hm⟩ := hmonth.exists_cons
  rw [List.cons_append, takeMonthDay, if_pos hm, ← List.cons_append, hmonth.takeNumber_append]
  change (takeNumber 2 (ds ++ rest)).bind _ = _
  rw [hday.takeNumber_append]
  rfl

theorem IsDate.takeDate_append (h : IsDate apart d cs) (rest : List Char) :
    takeDate (cs ++ rest) = some (d, rest) := by
  obtain ⟨ys, ms, ds, hyear, hmonth, hday, rfl⟩ := h
  rw [List.append_assoc, takeDate, hyear.takeNumber_append]
  cases apart with
  | true =>
    simp only [gap, if_true, List.cons_append, List.append_assoc]
    exact takeMonthDay_apart hmonth hday rest
  | false =>
    simp only [gap, Bool.false_eq_true, if_false, List.nil_append, List.append_assoc]
    exact takeMonthDay_close hmonth hday rest

/-! ### Times -/

def EndsTime (rest : List Char) : Prop := ∀ c ∈ rest.head?, c = 'Z' ∨ c = '+' ∨ c = '-'

theorem EndsTime.not_of_head? (h : EndsTime rest) {p : Char → Bool}
    (hp : p 'Z' = false ∧ p '+' = false ∧ p '-' = false) : ∀ c ∈ rest.head?, p c = false := by
  intro c hc
  rcases h c hc with rfl | rfl | rfl
  · exact hp.1
  · exact hp.2.1
  · exact hp.2.2

theorem takeField_gap {field : Nat} {fs : List Char} (h : IsField 2 field fs) (apart : Bool)
    (rest : List Char) :
    takeField apart (gap apart ':' ++ (fs ++ rest)) = some (some field, rest) := by
  cases apart with
  | true =>
    change (takeShort (fs ++ rest)).map _ = _
    rw [h.takeShort_append]
    rfl
  | false =>
    obtain ⟨c, fs', rfl, hc⟩ := h.exists_cons
    change (if (some c).any isAsciiDigit then (takeNumber 2 ((c :: fs') ++ rest)).map _ else _) = _
    rw [Option.any_some, if_pos hc, h.takeNumber_append]
    rfl

theorem EndsTime.takeField_eq (h : EndsTime rest) (apart : Bool) :
    takeField apart rest = some (none, rest) := by
  cases rest with
  | nil => cases apart <;> rfl
  | cons c cs => rcases h c rfl with rfl | rfl | rfl <;> cases apart <;> rfl

/-- Whether the parts stand apart is seen at what follows the hour. -/
theorem head?_gap {field : Nat} {fs : List Char} (h : IsField 2 field fs) (apart : Bool)
    (rest : List Char) : ((gap apart ':' ++ (fs ++ rest)).head? == some ':') = apart := by
  cases apart with
  | true => rfl
  | false =>
    obtain ⟨c, fs', rfl, hc⟩ := h.exists_cons
    change (some c == some ':') = false
    rw [beq_eq_false_iff_ne]
    exact fun heq => ne_of_isAsciiDigit hc rfl (Option.some.inj heq)

theorem EndsTime.head?_eq (h : EndsTime rest) : (rest.head? == some ':') = false := by
  cases rest with
  | nil => rfl
  | cons c cs => rcases h c rfl with rfl | rfl | rfl <;> rfl

theorem IsFraction.takeFraction_append (h : IsFraction fraction cs) (hrest : EndsTime rest) :
    takeFraction (cs ++ rest) = (fraction, rest) := by
  cases h with
  | missing =>
    cases rest with
    | nil => rfl
    | cons c cs => rcases hrest c rfl with rfl | rfl | rfl <;> rfl
  | digits hne hdigits =>
    have htake := Json.Reader.takeDigits_append_of hdigits
      (hrest.not_of_head? (p := isAsciiDigit) (by decide))
    obtain ⟨hfront, hbehind⟩ := Prod.mk.inj htake
    rw [List.cons_append, takeFraction, hfront, hbehind]

theorem IsTime.takeTime_append (h : IsTime apart t fraction cs)
    (hlength : fraction.length ≤ fractionLimit) (hrest : EndsTime rest) :
    takeTime (cs ++ rest) = some ((t, fraction), rest) := by
  cases h with
  | hour hhour =>
    simp only [takeTime, hhour.takeShort_append, hhour.takeNumber_append, hrest.head?_eq,
      hrest.takeField_eq, Option.bind_eq_bind, Option.bind_some, Option.isSome_some, if_true]
  | @minute hour minute hs ms hhour hminute =>
    have hcolons := head?_gap hminute apart rest
    simp only [takeTime, List.append_assoc, hhour.takeShort_append, hcolons,
      takeField_gap hminute, hrest.takeField_eq, Option.bind_eq_bind, Option.bind_some]
  | @second hour minute second fraction hs ms ss fs hhour hminute hsecond hfraction =>
    have hcolons := head?_gap hminute apart (gap apart ':' ++ (ss ++ (fs ++ rest)))
    simp only [takeTime, List.append_assoc, hhour.takeShort_append, hcolons,
      takeField_gap hminute, takeField_gap hsecond, hfraction.takeFraction_append hrest,
      if_pos hlength, Option.bind_eq_bind, Option.bind_some]

/-! ### Zones -/

theorem IsZone.endsTime (h : IsZone offset cs) : EndsTime cs := by
  cases h with
  | missing => exact nofun
  | utc =>
    rintro _ ⟨⟩
    exact .inl rfl
  | hours negative hhours hlt | minutes negative apart hhours hlt hminutes hlt' =>
    rintro _ ⟨⟩
    cases negative
    · exact .inr (.inl rfl)
    · exact .inr (.inr rfl)

theorem offset?_hours {hours : Nat} {hs : List Char} (h : IsField 2 hours hs) (hlt : hours < 24) :
    offset? hs = some (hours * 60) := by
  simp [offset?, h.takeShort_eq, hlt]

theorem offset?_minutes {hours minutes : Nat} {hs ms : List Char} (apart : Bool)
    (hhours : IsField 2 hours hs) (hlt : hours < 24) (hminutes : IsField 2 minutes ms)
    (hlt' : minutes < 60) :
    offset? (hs ++ (gap apart ':' ++ ms)) = some (hours * 60 + minutes) := by
  have htake := hminutes.takeShort_eq
  obtain ⟨c, ms', rfl, hc⟩ := hminutes.exists_cons
  cases apart with
  | true =>
    simp [offset?, gap, hhours.takeShort_append, htake, hlt, hlt']
  | false =>
    have hne : c ≠ ':' := ne_of_isAsciiDigit hc rfl
    simp [offset?, gap, hhours.takeShort_append, htake, hlt, hlt', hne]

theorem zone?_signed {minutes : Nat} (negative : Bool) (h : offset? cs = some minutes) :
    zone? (signChar negative :: cs) = some (some (Numeral.applySign negative minutes)) := by
  cases negative
  · rw [zone?, List.dropWhile_cons_of_neg (by decide)]
    change Option.map _ ((offset? cs).bind _) = _
    rw [h]
    rfl
  · rw [zone?, List.dropWhile_cons_of_neg (by decide)]
    change Option.map _ ((offset? cs).bind _) = _
    rw [h]
    rfl

theorem IsZone.zone?_eq (h : IsZone offset cs) : zone? cs = some offset := by
  cases h with
  | missing => rfl
  | utc => rfl
  | hours negative hhours hlt => exact zone?_signed negative (offset?_hours hhours hlt)
  | minutes negative apart hhours hlt hminutes hlt' =>
    exact zone?_signed negative (offset?_minutes apart hhours hlt hminutes hlt')

/-! ### Whole texts -/

theorem not_isAsciiBlank_of_isAsciiDigit {c : Char} (h : isAsciiDigit c = true) :
    isAsciiBlank c = false := by
  have hzero : '0' ≤ c := of_decide_eq_true (Bool.and_eq_true_iff.mp h).1
  have hreturn : ¬c ≤ '\r' := fun hle => absurd (Char.le_trans hzero hle) (by decide)
  have hspace : c ≠ ' ' := ne_of_isAsciiDigit h rfl
  simp [isAsciiBlank, hreturn, hspace]

theorem IsStamp.parse?_eq {t : DateTime} (h : IsStamp t fraction cs)
    (hlength : fraction.length ≤ fractionLimit) : parse? cs = some (t, fraction) := by
  cases h with
  | year hyear => simp [parse?, takeDate, hyear.takeNumber_eq, takeMonthDay]
  | month hyear hmonth =>
    have hseparator : '-' ∈ separators := by decide
    have hdigit : isAsciiDigit '-' = false := by decide
    simp [parse?, takeDate, hyear.takeNumber_append, takeMonthDay, hmonth.takeShort_eq, hseparator,
      hdigit]
  | date hdate =>
    have htake := hdate.takeDate_append []
    rw [List.append_nil] at htake
    simp [parse?, htake]
  | dateTime hdate hmark htime hzone =>
    have htake := htime.takeTime_append hlength hzone.endsTime
    rcases hmark with rfl | rfl <;>
      simp [parse?, hdate.takeDate_append, htake, hzone.zone?_eq]

theorem IsDate.exists_cons (h : IsDate apart d cs) :
    ∃ c ds, cs = c :: ds ∧ isAsciiDigit c = true := by
  obtain ⟨ys, ms, ds, hyear, -, -, rfl⟩ := h
  obtain ⟨c, ys', rfl, hc⟩ := hyear.exists_cons
  exact ⟨c, _, rfl, hc⟩

theorem IsStamp.exists_cons {t : DateTime} (h : IsStamp t fraction cs) :
    ∃ c ds, cs = c :: ds ∧ isAsciiDigit c = true := by
  cases h with
  | year hyear => exact hyear.exists_cons
  | month hyear hmonth =>
    obtain ⟨c, ys', rfl, hc⟩ := hyear.exists_cons
    exact ⟨c, _, rfl, hc⟩
  | date hdate => exact hdate.exists_cons
  | dateTime hdate hmark htime hzone =>
    obtain ⟨c, ds', rfl, hc⟩ := hdate.exists_cons
    exact ⟨c, _, rfl, hc⟩

/-- A text of a date-time whose parts are in range is read as that date-time. -/
theorem IsStamp.read_eq {t : DateTime} (h : IsStamp t fraction cs)
    (hlength : fraction.length ≤ fractionLimit) (hdate : t.date.Valid) (htime : t.time.Valid) :
    read cs = .stamp t fraction := by
  have hparse := h.parse?_eq hlength
  obtain ⟨c, ds, rfl, hc⟩ := h.exists_cons
  have hblank := not_isAsciiBlank_of_isAsciiDigit hc
  have hminus : c ≠ '-' := ne_of_isAsciiDigit hc rfl
  have hfront : dropMinus ((c :: ds).dropWhile isAsciiBlank) = c :: ds := by
    rw [List.dropWhile_cons_of_neg (by simp [hblank]), dropMinus]
    exact fun cs heq => hminus (List.cons.inj heq).1
  have hhead : (c :: ds).head? ≠ some '-' := by simpa using hminus
  rw [read, hfront, hparse]
  change (if _ then _ else _) = _
  rw [if_pos ⟨hdate.2, htime⟩, if_pos ⟨hdate, hhead⟩]

/-! ### The characters of dates and times -/

def isStampChar (c : Char) : Bool :=
  isAsciiDigit c || ['-', ':', '.', '+', 'T', ' ', 'Z'].contains c

theorem isStampChar_of_isAsciiDigit {c : Char} (h : isAsciiDigit c = true) :
    isStampChar c = true := by
  rw [isStampChar, h, Bool.true_or]

theorem IsField.isStampChar (h : IsField width n cs) : ∀ c ∈ cs, isStampChar c = true :=
  fun c hc => isStampChar_of_isAsciiDigit (h.areDigits c hc)

theorem isStampChar_gap (apart : Bool) {mark : Char} (h : isStampChar mark = true) :
    ∀ c ∈ gap apart mark, isStampChar c = true := by
  cases apart with
  | true => exact List.forall_mem_singleton.mpr h
  | false => exact List.forall_mem_nil _

theorem IsDate.isStampChar (h : IsDate apart d cs) : ∀ c ∈ cs, isStampChar c = true := by
  obtain ⟨ys, ms, ds, hyear, hmonth, hday, rfl⟩ := h
  simp only [List.forall_mem_append]
  exact ⟨hyear.isStampChar, isStampChar_gap apart rfl, hmonth.isStampChar,
    isStampChar_gap apart rfl, hday.isStampChar⟩

theorem IsFraction.isStampChar (h : IsFraction fraction cs) : ∀ c ∈ cs, isStampChar c = true := by
  cases h with
  | missing => exact List.forall_mem_nil _
  | digits hne hdigits =>
    exact List.forall_mem_cons.mpr ⟨rfl, fun c hc => isStampChar_of_isAsciiDigit (hdigits c hc)⟩

theorem IsTime.isStampChar (h : IsTime apart t fraction cs) : ∀ c ∈ cs, isStampChar c = true := by
  cases h with
  | hour hhour => exact hhour.isStampChar
  | minute hhour hminute =>
    simp only [List.forall_mem_append]
    exact ⟨hhour.isStampChar, isStampChar_gap apart rfl, hminute.isStampChar⟩
  | second hhour hminute hsecond hfraction =>
    simp only [List.forall_mem_append]
    exact ⟨hhour.isStampChar, isStampChar_gap apart rfl, hminute.isStampChar,
      isStampChar_gap apart rfl, hsecond.isStampChar, hfraction.isStampChar⟩

theorem isStampChar_signChar (negative : Bool) : isStampChar (signChar negative) = true := by
  cases negative <;> rfl

theorem IsZone.isStampChar (h : IsZone offset cs) : ∀ c ∈ cs, isStampChar c = true := by
  cases h with
  | missing => exact List.forall_mem_nil _
  | utc => exact List.forall_mem_singleton.mpr rfl
  | hours negative hhours hlt =>
    exact List.forall_mem_cons.mpr ⟨isStampChar_signChar negative, hhours.isStampChar⟩
  | minutes negative apart hhours hlt hminutes hlt' =>
    simp only [List.forall_mem_cons, List.forall_mem_append]
    exact ⟨isStampChar_signChar negative, hhours.isStampChar, isStampChar_gap apart rfl,
      hminutes.isStampChar⟩

theorem IsStamp.isStampChar {t : DateTime} (h : IsStamp t fraction cs) :
    ∀ c ∈ cs, isStampChar c = true := by
  cases h with
  | year hyear => exact hyear.isStampChar
  | month hyear hmonth =>
    simp only [List.forall_mem_append, List.forall_mem_cons]
    exact ⟨hyear.isStampChar, rfl, hmonth.isStampChar⟩
  | date hdate => exact hdate.isStampChar
  | dateTime hdate hmark htime hzone =>
    simp only [List.forall_mem_append, List.forall_mem_cons]
    exact ⟨hdate.isStampChar, by rcases hmark with rfl | rfl <;> rfl, htime.isStampChar,
      hzone.isStampChar⟩

end RunCharts.Iso

namespace RunCharts.Timestamp

variable {cs : List Char} {t : DateTime} {fraction : List Nat}

theorem not_isStandIn_of_isStampChar {c : Char} (h : Iso.isStampChar c = true) :
    Text.isStandIn c = false := by
  rw [Iso.isStampChar, Bool.or_eq_true] at h
  rcases h with h | h
  · have hnine : c ≤ '9' := of_decide_eq_true (Bool.and_eq_true_iff.mp h).2
    have hlt : c.toNat ≤ 57 := hnine
    rw [Text.isStandIn, Bool.and_eq_false_iff]
    refine .inl (decide_eq_false ?_)
    unfold Text.standInShift
    omega
  · have hall : (['-', ':', '.', '+', 'T', ' ', 'Z'].all fun c => !Text.isStandIn c) = true := by
      decide
    simpa using List.all_eq_true.mp hall c (List.contains_iff_mem.mp h)

/-- A text of a date-time is read with its year in front, and in no other form. -/
theorem read_of_isStamp (h : Iso.IsStamp t fraction cs)
    (hlength : fraction.length ≤ Iso.fractionLimit) (hdate : t.date.Valid)
    (htime : t.time.Valid) : read cs = .stamp t fraction := by
  have hplain : ¬cs.any Text.isStandIn = true := by
    rw [Bool.not_eq_true, List.any_eq_false]
    intro c hc
    rw [not_isStandIn_of_isStampChar (h.isStampChar c hc)]
    exact Bool.false_ne_true
  rw [read, if_neg hplain, h.read_eq hlength hdate htime]
  rfl

end RunCharts.Timestamp
