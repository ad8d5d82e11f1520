import RunCharts.Proofs.Calendar.Printed
import RunCharts.Yaml.Resolve

/-!
# Texts that look like dates

The dates and date-times of RFC 3339, said without the reader. Such a text looks like a date and
like nothing else: the hyphen after its year stands in no number. It is read as what it says, but
for the digits of its fraction past the sixth, which are cut.
-/

namespace RunCharts

namespace Iso

inductive IsFullTime : TimeOfDay → List Nat → List Char → Prop
  | second {hour minute second : Nat} {fraction : List Nat} {hs ms ss fs : List Char}
      (hhour : IsField 2 hour hs) (hminute : IsField 2 minute ms) (hsecond : IsField 2 second ss)
      (hfraction : IsFraction fraction fs) :
      IsFullTime ⟨hour, minute, second, nanosecondsOf fraction⟩ fraction
        (hs ++ ':' :: (ms ++ ':' :: (ss ++ fs)))

inductive IsFullZone : Option Int → List Char → Prop
  | missing : IsFullZone none []
  | utc : IsFullZone (some 0) ['Z']
  | minutes {hours minutes : Nat} {hs ms : List Char} (negative : Bool)
      (hhours : IsField 2 hours hs) (hlt : hours < 24) (hminutes : IsField 2 minutes ms)
      (hlt' : minutes < 60) :
      IsFullZone (some (Numeral.applySign negative (hours * 60 + minutes)))
        (signChar negative :: (hs ++ ':' :: ms))

/-- The text is a date or a date-time of RFC 3339, a space being allowed for the letter in front of
the time, and the zone being optional. -/
inductive IsFullStamp : DateTime → List Nat → List Char → Prop
  | date {d : Date} {ds : List Char} (hdate : IsDate true d ds) :
      IsFullStamp ⟨d, .midnight, none⟩ [] ds
  | dateTime {d : Date} {t : TimeOfDay} {offset : Option Int} {fraction : List Nat}
      {ds ts zs : List Char} {mark : Char} (hdate : IsDate true d ds)
      (hmark : mark = 'T' ∨ mark = ' ') (htime : IsFullTime t fraction ts)
      (hzone : IsFullZone offset zs) :
      IsFullStamp ⟨d, t, offset⟩ fraction (ds ++ mark :: (ts ++ zs))

variable {d : Date} {t : TimeOfDay} {offset : Option Int} {fraction : List Nat} {cs : List Char}

theorem IsFullTime.isTime (h : IsFullTime t fraction cs) : IsTime true t fraction cs := by
  cases h with
  | second hhour hminute hsecond hfraction => exact .second hhour hminute hsecond hfraction

/-- Without the digits past the sixth a time is told to the microsecond. -/
theorem IsFullTime.nanosecondsOf_take (h : IsFullTime t fraction cs) :
    nanosecondsOf (fraction.take 6) = t.nanosecond / 1000 * 1000 := by
  cases h with
  | second hhour hminute hsecond hfraction =>
    have htake := nanosecondsOf_take_le hfraction.lt_ten
    dsimp only
    omega

theorem IsFullZone.isZone (h : IsFullZone offset cs) : IsZone offset cs := by
  cases h with
  | missing => exact .missing
  | utc => exact .utc
  | minutes negative hhours hlt hminutes hlt' =>
    exact .minutes negative true hhours hlt hminutes hlt'

theorem IsFullStamp.isStamp {t : DateTime} (h : IsFullStamp t fraction cs) :
    IsStamp t fraction cs := by
  cases h with
  | date hdate => exact .date hdate
  | dateTime hdate hmark htime hzone => exact .dateTime hdate hmark htime.isTime hzone.isZone

theorem IsDate.exists_year (h : IsDate true d cs) :
    ∃ ys rest, IsField 4 d.year ys ∧ cs = ys ++ '-' :: rest ∧ cs.length = 10 := by
  obtain ⟨ys, ms, ds, hyear, hmonth, hday, rfl⟩ := h
  refine ⟨ys, _, hyear, rfl, ?_⟩
  simp [gap, hyear.length_eq, hmonth.length_eq, hday.length_eq]

theorem IsFullStamp.exists_year {t : DateTime} (h : IsFullStamp t fraction cs) :
    ∃ ys rest, IsField 4 t.date.year ys ∧ cs = ys ++ '-' :: rest := by
  cases h with
  | date hdate =>
    obtain ⟨ys, rest, hyear, hcs, -⟩ := hdate.exists_year
    exact ⟨ys, rest, hyear, hcs⟩
  | dateTime hdate hmark htime hzone =>
    obtain ⟨ys, rest, hyear, rfl, -⟩ := hdate.exists_year
    exact ⟨ys, _, hyear, List.append_assoc ..⟩

end Iso

/-! ### The kind of a date -/

theorem Text.exists_split_append_eq {sep : Char} {cs : List Char} (h : sep ∉ cs) (ds : List Char) :
    ∃ piece pieces, split sep (cs ++ ds) = (cs ++ piece) :: pieces := by
  induction cs with
  | nil =>
    obtain ⟨piece, pieces, heq⟩ := List.exists_cons_of_ne_nil (split_ne_nil sep ds)
    exact ⟨piece, pieces, heq⟩
  | cons c cs ih =>
    obtain ⟨hc, hcs⟩ := List.ne_and_not_mem_of_not_mem_cons h
    obtain ⟨piece, pieces, heq⟩ := ih hcs
    refine ⟨piece, pieces, ?_⟩
    rw [List.cons_append, split, if_neg (Ne.symm hc), heq]
    rfl

namespace Yaml.Resolve

open Text Iso

variable {year : Nat} {ys rest cs : List Char}

theorem isRun_eq_false {p : Char → Bool} (hp : p '-' = false) (h : '-' ∈ cs) :
    isRun p cs = false := by
  have hall : (cs.all fun c => p c || c == '_') = false := by
    rw [List.all_eq_false]
    exact ⟨'-', h, by simp [hp]⟩
  rw [isRun, hall, Bool.and_false]

theorem isNumeral_eq_false (p : Char → Bool) {c : Char} (h : '-' ∈ cs) :
    isNumeral p (c :: cs) = false := by
  have hall : (cs.all fun c => isAsciiDigit c || c == '_') = false := by
    rw [List.all_eq_false]
    exact ⟨'-', h, by decide⟩
  rw [isNumeral, hall, Bool.and_false]

/-- A year with a hyphen after it is the start of no number, whatever follows. -/
theorem looksLikeMagnitude_eq_false {a b : Char} (hb : isAsciiDigit b = true) (h : '-' ∈ rest)
    {pieces : List (List Char)} (hsplit : split ':' cs = (a :: b :: rest) :: pieces) :
    looksLikeMagnitude cs = false := by
  have hbehind : '-' ∈ b :: rest := List.mem_cons_of_mem _ h
  have hnumeral := isNumeral_eq_false (fun c => '1' ≤ c && c ≤ '9') (c := a) hbehind
  unfold looksLikeMagnitude
  rw [hsplit]
  cases pieces with
  | cons piece pieces =>
    change (isNumeral _ _ && _) = false
    rw [hnumeral, Bool.false_and]
  | nil =>
    dsimp only
    split
    · rename_i heq
      cases heq
    · rename_i heq
      cases heq
      cases hb
    · rename_i heq
      cases heq
      cases hb
    · rename_i heq
      cases heq
      exact isRun_eq_false (by decide) hbehind
    · exact hnumeral

/-- The first piece of a text that starts with a year and a hyphen holds both. -/
theorem exists_split_year (h : IsField 4 year ys) (rest : List Char) :
    ∃ a b piece pieces, isAsciiDigit b = true ∧ '-' ∈ piece ∧
      split ':' (ys ++ '-' :: rest) = (a :: b :: piece) :: pieces := by
  have hcolon : ':' ∉ ys ++ ['-'] := by
    rw [List.mem_append, List.mem_singleton]
    rintro (hmem | heq)
    · exact ne_of_isAsciiDigit (h.areDigits ':' hmem) rfl rfl
    · exact absurd heq (by decide)
  obtain ⟨piece, pieces, hsplit⟩ := exists_split_append_eq hcolon rest
  rw [List.append_assoc, List.singleton_append] at hsplit
  match ys, h with
  | a :: b :: ys, h =>
    refine ⟨a, b, ys ++ ['-'] ++ piece, pieces, h.areDigits b (by simp), by simp, ?_⟩
    rw [hsplit]
    rfl

theorem takeSign_year (h : IsField 4 year ys) (rest : List Char) :
    takeSign (ys ++ '-' :: rest) = (false, ys ++ '-' :: rest) := by
  obtain ⟨c, ys, rfl, hc⟩ := h.exists_cons
  have hminus : c ≠ '-' := ne_of_isAsciiDigit hc rfl
  have hplus : c ≠ '+' := ne_of_isAsciiDigit hc rfl
  simp [takeSign, Numeral.takeSign, hminus, hplus]

theorem looksLikeInt_eq_false (h : IsField 4 year ys) (rest : List Char) :
    looksLikeInt (ys ++ '-' :: rest) = false := by
  obtain ⟨a, b, piece, pieces, hb, hpiece, hsplit⟩ := exists_split_year h rest
  rw [looksLikeInt, takeSign_year h]
  exact looksLikeMagnitude_eq_false hb hpiece hsplit

theorem looksLikeFloat_eq_false (h : IsField 4 year ys) (rest : List Char) :
    looksLikeFloat (ys ++ '-' :: rest) = false := by
  have hfront : ∀ c ∈ ys, (c != '.') = true := fun c hc =>
    bne_iff_ne.mpr (ne_of_isAsciiDigit (h.areDigits c hc) rfl)
  have hwhole : (ys ++ '-' :: rest).takeWhile (· != '.') =
      ys ++ '-' :: rest.takeWhile (· != '.') := by
    rw [List.takeWhile_append_of_pos hfront, List.takeWhile_cons_of_pos (by decide)]
  have hnonempty : (ys ++ '-' :: rest.takeWhile (· != '.')).isEmpty = false := by simp
  obtain ⟨a, b, piece, pieces, hb, hpiece, hsplit⟩ :=
    exists_split_year h (rest.takeWhile (· != '.'))
  have hnumeral := isNumeral_eq_false isAsciiDigit (c := a) (List.mem_cons_of_mem b hpiece)
  unfold looksLikeFloat
  rw [takeSign_year h]
  dsimp only
  rw [hwhole, hnonempty, hsplit]
  split
  · cases pieces with
    | nil => simp [hnumeral]
    | cons => simp [hnumeral]
  · rfl

def words : List String :=
  nullWords ++ trueWords ++ falseWords ++ ["<<", "="] ++ markWords

theorem ofList_not_mem_words {c : Char} (h : isAsciiDigit c = true) (cs : List Char) :
    String.ofList (c :: cs) ∉ words := by
  intro hmem
  have hwords : ∀ w ∈ words, w.toList.head?.any isAsciiDigit = false := by decide
  have hhead := hwords _ hmem
  rw [String.toList_ofList, List.head?_cons, Option.any_some, h] at hhead
  cases hhead

theorem kindOf_of_not_mem_words (hwords : String.ofList cs ∉ words)
    (hfloat : looksLikeFloat cs = false) (hint : looksLikeInt cs = false)
    (hlooks : looksLikeTimestamp cs = true) : kindOf cs = .timestamp := by
  simp only [words, List.mem_append, List.mem_cons, List.not_mem_nil, or_false, not_or] at hwords
  obtain ⟨⟨⟨⟨hnull, htrue⟩, hfalse⟩, hmerge, hdefault⟩, hmark⟩ := hwords
  simp [kindOf, hnull, htrue, hfalse, hmerge, hdefault, hmark, hfloat, hint, hlooks]

/-- A text that starts with a year and a hyphen is a date if it looks like one. -/
theorem kindOf_year (h : IsField 4 year ys)
    (hlooks : looksLikeTimestamp (ys ++ '-' :: rest) = true) :
    kindOf (ys ++ '-' :: rest) = .timestamp := by
  refine kindOf_of_not_mem_words ?_ (looksLikeFloat_eq_false h rest) (looksLikeInt_eq_false h rest)
    hlooks
  obtain ⟨c, ys, rfl, hc⟩ := h.exists_cons
  exact ofList_not_mem_words hc _

theorem withoutBreak_of_isStampChar (h : ∀ c ∈ cs, isStampChar c = true) :
    withoutBreak cs = cs := by
  rw [withoutBreak, if_neg]
  intro hlast
  exact absurd (h '\n' (List.mem_of_getLast? hlast)) (by decide)

/-! ### What is read -/

variable {d : Date} {t : TimeOfDay} {offset : Option Int} {fraction : List Nat} {mark : Char}

theorem offset?_eq (h : IsFullZone offset cs) : offset? cs = some offset := by
  cases h with
  | missing => rfl
  | utc => rfl
  | @minutes hours minutes hs ms negative hhours hlt hminutes hlt' =>
    cases negative <;>
      simp [offset?, signChar, hhours.takeShort_append, hminutes.takeNumber_eq]

theorem dropTimeMark?_append (hmark : mark = 'T' ∨ mark = ' ') {hour : Nat} (h : IsField 2 hour cs)
    (rest : List Char) : dropTimeMark? (mark :: (cs ++ rest)) = some (cs ++ rest) := by
  obtain ⟨c, ds, rfl, hc⟩ := h.exists_cons
  have hspace : c ≠ ' ' := ne_of_isAsciiDigit hc rfl
  have htab : c ≠ '\t' := ne_of_isAsciiDigit hc rfl
  rcases hmark with rfl | rfl
  · rfl
  · simp [dropTimeMark?, hspace, htab]

theorem time?_append (hmark : mark = 'T' ∨ mark = ' ') (h : IsFullTime t fraction cs)
    (hzone : IsFullZone offset rest) :
    time? (mark :: (cs ++ rest)) =
      some ({ t with nanosecond := nanosecondsOf (fraction.take 6) }, offset) := by
  cases h with
  | second hhour hminute hsecond hfraction =>
    simp [time?, List.append_assoc, dropTimeMark?_append hmark hhour, dropChar?,
      hhour.takeShort_append, hminute.takeNumber_append, hsecond.takeNumber_append,
      hfraction.takeFraction_append hzone.isZone.endsTime, offset?_eq hzone]

theorem timestamp?_date (h : IsDate true d cs) : timestamp? cs = some (d, none) := by
  obtain ⟨ys, ms, ds, hyear, hmonth, hday, rfl⟩ := h
  simp [timestamp?, gap, dropChar?, hyear.takeNumber_append, hmonth.takeShort_append,
    hday.takeShort_eq]

theorem timestamp?_append (h : IsDate true d cs) {r : TimeOfDay × Option Int}
    (htime : time? rest = some r) : timestamp? (cs ++ rest) = some (d, some r) := by
  have hrest : rest ≠ [] := by
    rintro rfl
    cases htime
  obtain ⟨ys, ms, ds, hyear, hmonth, hday, rfl⟩ := h
  simp [timestamp?, gap, dropChar?, hyear.takeNumber_append, hmonth.takeShort_append,
    hday.takeShort_append, hrest, htime]

theorem looksLikeTimestamp_of_isFullStamp {t : DateTime} (h : IsFullStamp t fraction cs) :
    looksLikeTimestamp cs = true := by
  cases h with
  | date hdate =>
    obtain ⟨-, -, -, -, hlength⟩ := hdate.exists_year
    rw [looksLikeTimestamp, timestamp?_date hdate, hlength]
    rfl
  | dateTime hdate hmark htime hzone =>
    rw [looksLikeTimestamp, timestamp?_append hdate (time?_append hmark htime hzone)]
    rfl

/-- A date of RFC 3339 without quotes is a date by its looks. -/
theorem tagOf_of_isFullStamp {t : DateTime} (h : IsFullStamp t fraction cs) :
    tagOf cs = .timestamp := by
  have hlooks := looksLikeTimestamp_of_isFullStamp h
  have hchars := h.isStamp.isStampChar
  have hbreak : cs ≠ ['\n'] := by
    rintro rfl
    exact absurd (hchars '\n' List.mem_cons_self) (by decide)
  rw [tagOf, if_neg hbreak, withoutBreak_of_isStampChar hchars]
  obtain ⟨ys, rest, hyear, rfl⟩ := h.exists_year
  exact kindOf_year hyear hlooks

end Yaml.Resolve

end RunCharts
