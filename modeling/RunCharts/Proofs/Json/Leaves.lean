import RunCharts.Proofs.Json.Grammar
import RunCharts.Proofs.Json.Strings
import RunCharts.Proofs.Json.Trees

/-!
# Reading what has no parts

Blanks, strings and numbers are read as far as the grammar goes and no further. A number that is
refused for its size is an integer in the grammar, and nothing that follows it would make it another
number.
-/

namespace RunCharts.Json.Grammar

open Reader

variable {cs rest digits whole fraction exponent : List Char} {c : Char} {n : Nat} {j : Json}
  {negative : Bool}

/-! ### Blanks -/

theorem isGap_iff : isGap c = true ↔ c ∈ [' ', '\t', '\n', '\r'] := by
  simp [isGap, or_assoc]

theorem isBlank_iff : IsBlank cs ↔ ∀ c ∈ cs, isGap c = true := by
  simp only [IsBlank, isGap_iff]

theorem exists_blank_skipGap (cs : List Char) :
    ∃ gap, IsBlank gap ∧ cs = gap ++ skipGap cs := by
  refine ⟨cs.takeWhile isGap, isBlank_iff.mpr ?_, List.takeWhile_append_dropWhile.symm⟩
  exact List.all_eq_true.mp List.all_takeWhile

/-! ### Strings -/

theorem hexValue?_ne_none_iff : Text.hexValue? c ≠ none ↔ IsHexDigit c := by
  unfold Text.hexValue? IsHexDigit
  split
  · simp_all
  · split
    · simp_all
    · split <;> simp_all

theorem hexNumber?_ne_none_iff (n : Nat) :
    Text.hexNumber? n cs ≠ none ↔ ∀ c ∈ cs, IsHexDigit c := by
  induction cs generalizing n with
  | nil => simp [Text.hexNumber?]
  | cons c cs ih =>
    rw [Text.hexNumber?, List.forall_mem_cons, ← hexValue?_ne_none_iff]
    cases Text.hexValue? c with
    | none => simp
    | some d => simpa using ih (16 * n + d)

theorem shortEscape?_ne_none_iff :
    shortEscape? c ≠ none ↔ c ∈ ['"', '\\', '/', 'b', 'f', 'n', 'r', 't'] := by
  have hmem : c ∈ ['"', '\\', '/', 'b', 'f', 'n', 'r', 't'] ↔
      (c = '"' ∨ c = '\\' ∨ c = '/') ∨ c = 'n' ∨ c = 't' ∨ c = 'r' ∨ c = 'b' ∨ c = 'f' := by
    simp only [List.mem_cons, List.not_mem_nil, or_false]
    tauto
  rw [hmem]
  unfold shortEscape?
  split
  · simp_all [or_assoc]
  · repeat'
      split
    all_goals simp_all

theorem exists_body_of_stringUnits? {units : List Nat} (h : stringUnits? cs = some (units, rest)) :
    ∃ body, IsStringBody body ∧ cs = body ++ '"' :: rest := by
  fun_induction stringUnits? cs generalizing units rest with
  | case1 => cases h
  | case2 cs =>
    cases h
    exact ⟨[], .nil, rfl⟩
  | case3 c₃ c₂ c₁ c₀ cs n units' rest' hrest hnumber ih =>
    cases h
    obtain ⟨body, hbody, rfl⟩ := ih hrest
    have hdigits := (hexNumber?_ne_none_iff 0).mp (hnumber ▸ Option.some_ne_none n)
    exact ⟨_, .unit hdigits hbody, rfl⟩
  | case4 => cases h
  | case5 c cs _ d units' rest' hrest hescape ih =>
    cases h
    obtain ⟨body, hbody, rfl⟩ := ih hrest
    have hshort := shortEscape?_ne_none_iff.mp (hescape ▸ Option.some_ne_none d)
    exact ⟨_, .short hshort hbody, rfl⟩
  | case6 => cases h
  | case7 => cases h
  | case8 c cs hquote _ _ hc ih =>
    obtain ⟨⟨units', rest'⟩, hrest, hpair⟩ := Option.map_eq_some_iff.mp h
    cases hpair
    obtain ⟨body, hbody, rfl⟩ := ih hrest
    have hne := not_or.mp (mt (Bool.or_eq_true _ _).mpr hc)
    rw [decide_eq_true_eq, Char.not_lt, beq_iff_eq] at hne
    exact ⟨c :: body, .plain hne.1 hquote hne.2 hbody, rfl⟩

theorem exists_stringUnits? {body : List Char} (h : IsStringBody body) (rest : List Char) :
    ∃ units, stringUnits? (body ++ '"' :: rest) = some (units, rest) := by
  induction h with
  | nil => exact ⟨[], rfl⟩
  | plain hcontrol hquote hbackslash _ ih =>
    obtain ⟨units, hunits⟩ := ih
    rw [List.cons_append, stringUnits?_cons_of_unescaped hcontrol hquote hbackslash, hunits]
    exact ⟨_, rfl⟩
  | short hc _ ih =>
    obtain ⟨units, hunits⟩ := ih
    obtain ⟨d, hd⟩ := Option.ne_none_iff_exists'.mp (shortEscape?_ne_none_iff.mpr hc)
    rw [List.cons_append, List.cons_append, stringUnits?_of_shortEscape hd, hunits]
    exact ⟨_, rfl⟩
  | unit hc _ ih =>
    obtain ⟨units, hunits⟩ := ih
    obtain ⟨n, hn⟩ := Option.ne_none_iff_exists'.mp ((hexNumber?_ne_none_iff 0).mpr hc)
    simp only [List.cons_append, stringUnits?, hn, hunits]
    exact ⟨_, rfl⟩

/-- Behind the opening quote, a string is read up to the quote that closes it. -/
theorem exists_string_iff : (∃ s, string cs = .ok (s, rest)) ↔
    ∃ body, IsStringBody body ∧ cs = body ++ '"' :: rest := by
  unfold string
  constructor
  · rintro ⟨s, h⟩
    split at h
    · rename_i hunits
      cases h
      exact exists_body_of_stringUnits? hunits
    · cases h
  · rintro ⟨body, hbody, rfl⟩
    obtain ⟨units, hunits⟩ := exists_stringUnits? hbody rest
    rw [hunits]
    exact ⟨_, rfl⟩

/-! ### Numbers -/

theorem not_digit_head?_takeDigits (cs : List Char) :
    ∀ c ∈ (takeDigits cs).2.head?, Text.isAsciiDigit c = false := by
  intro c hc
  have hstop := List.head?_dropWhile_not Text.isAsciiDigit cs
  have hhead : (cs.dropWhile Text.isAsciiDigit).head? = some c := hc
  rwa [hhead] at hstop

theorem areDigits_takeDigits (h : (takeDigits cs).1 ≠ []) : AreDigits (takeDigits cs).1 :=
  ⟨h, List.all_eq_true.mp List.all_takeWhile⟩

theorem takeDigits_ne_nil (h : AreDigits digits) (rest : List Char) :
    (takeDigits (digits ++ rest)).1 ≠ [] := by
  obtain ⟨c, cs, rfl⟩ := List.exists_cons_of_ne_nil h.1
  have hc := h.2 c List.mem_cons_self
  rw [takeDigits, List.cons_append, List.takeWhile_cons_of_pos hc]
  exact List.cons_ne_nil _ _

/-- A point is read with the digits behind it, and not at all if there are none. -/
theorem takeFraction_cases (cs : List Char) :
    (takeFraction cs = ([], cs) ∧ ¬∃ part rest, IsFraction part ∧ cs = part ++ rest) ∨
      ∃ digits rest, takeFraction cs = (digits, rest) ∧ AreDigits digits ∧
        cs = '.' :: (digits ++ rest) := by
  by_cases h : ∃ part rest, IsFraction part ∧ cs = part ++ rest
  · obtain ⟨_, rest, ⟨digits, hdigits, rfl⟩, rfl⟩ := h
    have hne := takeDigits_ne_nil hdigits rest
    have hempty : (takeDigits (digits ++ rest)).1.isEmpty = false :=
      List.isEmpty_eq_false_iff.mpr hne
    refine .inr ⟨(takeDigits (digits ++ rest)).1, (takeDigits (digits ++ rest)).2, ?_,
      areDigits_takeDigits hne, ?_⟩
    · simp only [List.cons_append, takeFraction, hempty, Bool.false_eq_true, if_false]
    · rw [takeDigits_append, List.cons_append]
  · refine .inl ⟨?_, h⟩
    unfold takeFraction
    split
    · rename_i rest
      split
      · rfl
      · rename_i hempty
        rw [List.isEmpty_iff] at hempty
        exact absurd ⟨_, _, ⟨_, areDigits_takeDigits hempty, rfl⟩,
          congrArg ('.' :: ·) (takeDigits_append rest).symm⟩ h
    · rfl

theorem takeSign_append {sign : List Char} (hsign : sign ∈ [[], ['-'], ['+']])
    (hdigits : AreDigits digits) (rest : List Char) :
    (Numeral.takeSign (sign ++ (digits ++ rest))).2 = digits ++ rest := by
  obtain ⟨c, cs, rfl⟩ := List.exists_cons_of_ne_nil hdigits.1
  have hc := hdigits.2 c List.mem_cons_self
  rcases List.mem_cons.mp hsign with rfl | hsign
  · rw [List.nil_append, List.cons_append]
    unfold Numeral.takeSign
    split
    · rename_i heq
      cases heq
      cases hc
    · rename_i heq
      cases heq
      cases hc
    · rfl
  · rcases List.mem_cons.mp hsign with rfl | hsign
    · rfl
    · rw [List.mem_singleton.mp hsign]
      rfl

theorem exists_sign_takeSign (cs : List Char) :
    ∃ sign ∈ [[], ['-'], ['+']], cs = sign ++ (Numeral.takeSign cs).2 := by
  unfold Numeral.takeSign
  split
  · exact ⟨['-'], by decide, rfl⟩
  · exact ⟨['+'], by decide, rfl⟩
  · exact ⟨[], by decide, rfl⟩

theorem takeExponent_cons {mark : Char} (hmark : mark ∈ ['e', 'E']) (cs : List Char) :
    takeExponent (mark :: cs) =
      let (negative, rest) := Numeral.takeSign cs
      let (digits, rest) := takeDigits rest
      if digits.isEmpty then (none, mark :: cs)
      else (some (Numeral.applySign negative (Text.valueOfAscii digits)), rest) := by
  rw [takeExponent, if_pos]
  rcases List.mem_cons.mp hmark with rfl | hmark
  · rfl
  · rw [List.mem_singleton.mp hmark]
    rfl

theorem takeExponent_mark {mark : Char} {sign : List Char} (hmark : mark ∈ ['e', 'E'])
    (hsign : sign ∈ [[], ['-'], ['+']]) (hdigits : AreDigits digits) (rest : List Char) :
    ∃ e, takeExponent (mark :: (sign ++ (digits ++ rest))) =
      (some e, (takeDigits (digits ++ rest)).2) := by
  have hempty : (takeDigits (digits ++ rest)).1.isEmpty = false :=
    List.isEmpty_eq_false_iff.mpr (takeDigits_ne_nil hdigits rest)
  rw [takeExponent_cons hmark]
  simp only [takeSign_append hsign hdigits rest, hempty, Bool.false_eq_true, if_false]
  exact ⟨_, rfl⟩

/-- A mark is read with the digits behind it, and not at all if there are none. -/
theorem takeExponent_cases (cs : List Char) :
    (takeExponent cs = (none, cs) ∧ ¬∃ part rest, IsExponent part ∧ cs = part ++ rest) ∨
      ∃ e part rest, takeExponent cs = (some e, rest) ∧ IsExponent part ∧ cs = part ++ rest := by
  by_cases h : ∃ part rest, IsExponent part ∧ cs = part ++ rest
  · obtain ⟨_, rest, ⟨mark, sign, digits, hmark, hsign, hdigits, rfl⟩, rfl⟩ := h
    obtain ⟨e, hread⟩ := takeExponent_mark hmark hsign hdigits rest
    have hpart : IsExponent (mark :: (sign ++ (takeDigits (digits ++ rest)).1)) :=
      ⟨mark, sign, _, hmark, hsign, areDigits_takeDigits (takeDigits_ne_nil hdigits rest), rfl⟩
    refine .inr ⟨e, _, (takeDigits (digits ++ rest)).2, ?_, hpart, ?_⟩
    · rw [List.cons_append, List.append_assoc, hread]
    · rw [List.cons_append, List.cons_append, List.append_assoc, List.append_assoc,
        takeDigits_append]
  · refine .inl ⟨?_, h⟩
    cases cs with
    | nil => rfl
    | cons mark cs =>
      by_cases hmark : mark ∈ ['e', 'E']
      · rw [takeExponent_cons hmark]
        dsimp only
        split
        · rfl
        · rename_i hempty
          rw [List.isEmpty_iff] at hempty
          obtain ⟨sign, hsign, hcs⟩ := exists_sign_takeSign cs
          have hpart : IsExponent (mark :: (sign ++ (takeDigits (Numeral.takeSign cs).2).1)) :=
            ⟨mark, sign, _, hmark, hsign, areDigits_takeDigits hempty, rfl⟩
          refine absurd ⟨_, (takeDigits (Numeral.takeSign cs).2).2, hpart, ?_⟩ h
          rw [List.cons_append, List.append_assoc, takeDigits_append, ← hcs]
      · rw [takeExponent, if_neg]
        simpa using hmark

theorem isWhole_takeWhole (h : (takeWhole cs).1 ≠ []) : IsWhole (takeWhole cs).1 := by
  refine ⟨List.all_eq_true.mp (all_takeWhole cs), h, ?_⟩
  intro hzero
  have happend := takeWhole_append cs
  obtain ⟨c, whole, hcons⟩ := List.exists_cons_of_ne_nil h
  rw [hcons] at hzero happend
  cases hzero
  rw [← happend]
  rfl

theorem not_digit_head?_takeWhole (h : 1 < (takeWhole cs).1.length) :
    ∀ c ∈ (takeWhole cs).2.head?, Text.isAsciiDigit c = false := by
  unfold takeWhole at h ⊢
  split at h
  · exact absurd h (by simp)
  · exact not_digit_head?_takeDigits cs

theorem exists_fraction_takeFraction (cs : List Char) :
    ∃ part, (part = [] ∨ IsFraction part) ∧ cs = part ++ (takeFraction cs).2 := by
  rcases takeFraction_cases cs with ⟨hread, -⟩ | ⟨digits, rest, hread, hdigits, hcs⟩
  · exact ⟨[], .inl rfl, by rw [hread, List.nil_append]⟩
  · exact ⟨'.' :: digits, .inr ⟨digits, hdigits, rfl⟩, by rw [hread, hcs, List.cons_append]⟩

theorem exists_exponent_takeExponent (cs : List Char) :
    ∃ part, (part = [] ∨ IsExponent part) ∧ cs = part ++ (takeExponent cs).2 := by
  rcases takeExponent_cases cs with ⟨hread, -⟩ | ⟨e, part, rest, hread, hpart, hcs⟩
  · exact ⟨[], .inl rfl, by rw [hread, List.nil_append]⟩
  · exact ⟨part, .inr hpart, by rw [hread, hcs]⟩

/-- What is read as a number is one, and so is its value. -/
theorem isUnsigned_of_unsigned (h : unsigned negative cs = .ok (j, rest)) :
    j.hasNoNaN = true ∧ ∃ v, IsUnsigned v ∧ cs = v ++ rest := by
  obtain ⟨fraction, hfraction, hafterWhole⟩ := exists_fraction_takeFraction (takeWhole cs).2
  obtain ⟨exponent, hexponent, hafterFraction⟩ :=
    exists_exponent_takeExponent (takeFraction (takeWhole cs).2).2
  have hcs : cs = ((takeWhole cs).1 ++ (fraction ++ exponent)) ++
      (takeExponent (takeFraction (takeWhole cs).2).2).2 := by
    rw [List.append_assoc, List.append_assoc, ← hafterFraction, ← hafterWhole, takeWhole_append]
  unfold unsigned at h
  dsimp only at h
  split at h
  · cases h
  · rename_i hne
    rw [List.isEmpty_iff] at hne
    have hv : IsUnsigned ((takeWhole cs).1 ++ (fraction ++ exponent)) :=
      ⟨_, _, _, isWhole_takeWhole hne, hfraction, hexponent, rfl⟩
    split at h
    · split at h
      · cases h
      · cases h
        exact ⟨rfl, _, hv, hcs⟩
    · cases h
      exact ⟨decide_eq_true (Decimal.toBinary64_ne_nan _), _, hv, hcs⟩

/-- Digits do not go on where none follow them and neither a point nor a mark is read. -/
theorem not_goesOn (hdigit : ∀ c ∈ cs.head?, Text.isAsciiDigit c = false)
    (hfraction : (takeFraction cs).1 = [])
    (hexponent : (takeExponent (takeFraction cs).2).1 = none) : ¬GoesOn cs := by
  rcases takeFraction_cases cs with ⟨hread, hpoint⟩ | ⟨digits, rest, hread, hdigits, -⟩
  · rw [hread] at hexponent
    rcases takeExponent_cases cs with ⟨-, hmark⟩ | ⟨e, _, _, hread, -, -⟩
    · rintro ⟨part, rest, hpart | hpart | hpart, hcs⟩
      · obtain ⟨c, part, rfl⟩ := List.exists_cons_of_ne_nil hpart.1
        have hc := hpart.2 c List.mem_cons_self
        rw [hdigit c (hcs ▸ rfl)] at hc
        cases hc
      · exact hpoint ⟨part, rest, hpart, hcs⟩
      · exact hmark ⟨part, rest, hpart, hcs⟩
    · rw [hread] at hexponent
      cases hexponent
  · rw [hread] at hfraction
    exact absurd hfraction hdigits.1

/-- What is refused for its size is an integer that does not go on. -/
theorem isWhole_of_unsigned (h : unsigned negative cs = .error (.hugeInteger n)) :
    Numeral.digitLimit < n ∧ ∃ whole after, IsWhole whole ∧ whole.length = n ∧ ¬GoesOn after ∧
      cs = whole ++ after := by
  unfold unsigned at h
  dsimp only at h
  split at h
  · cases h
  · rename_i hne
    rw [List.isEmpty_iff] at hne
    split at h
    · rename_i hint
      rw [Bool.and_eq_true, List.isEmpty_iff, Option.isNone_iff_eq_none] at hint
      split at h
      · rename_i hlimit
        cases h
        -- a zero ends the digits although more may follow, but it is not too long
        have hlength : 1 < (takeWhole cs).1.length := Nat.lt_of_le_of_lt (by decide) hlimit
        have hafter := not_goesOn (not_digit_head?_takeWhole hlength) hint.1 hint.2
        exact ⟨hlimit, _, _, isWhole_takeWhole hne, rfl, hafter, (takeWhole_append cs).symm⟩
      · cases h
    · cases h

/-- A reading that ends where `rest` begins, unless an integer has too many digits. -/
def Reads {α : Type} (r : Result α) (rest : List Char) : Prop :=
  (∃ a, r = .ok (a, rest)) ∨ ∃ n, r = .error (.hugeInteger n)

theorem exists_takeFraction (h : fraction = [] ∨ IsFraction fraction)
    (hend : ∀ c ∈ rest.head?, Text.isAsciiDigit c = false ∧ c ≠ '.') :
    ∃ digits, takeFraction (fraction ++ rest) = (digits, rest) := by
  rcases h with rfl | ⟨digits, hdigits, rfl⟩
  · exact ⟨[], takeFraction_of_not_point fun c hc => (hend c hc).2⟩
  · exact ⟨digits, takeFraction_append_of hdigits.1 hdigits.2 fun c hc => (hend c hc).1⟩

theorem exists_takeExponent (h : exponent = [] ∨ IsExponent exponent) (hrest : AtBoundary rest) :
    ∃ e, takeExponent (exponent ++ rest) = (e, rest) := by
  rcases h with rfl | ⟨mark, sign, digits, hmark, hsign, hdigits, rfl⟩
  · exact ⟨none, takeExponent_of_boundary hrest⟩
  · obtain ⟨e, hread⟩ := takeExponent_mark hmark hsign hdigits rest
    have htake := takeDigits_append_of hdigits.2
      (hrest.not_of_head? fun c hc => not_isAsciiDigit_of_isBoundary hc)
    rw [htake] at hread
    refine ⟨some e, ?_⟩
    rw [List.cons_append, List.append_assoc, hread]

theorem not_digit_head?_exponent (h : exponent = [] ∨ IsExponent exponent)
    (hrest : AtBoundary rest) :
    ∀ c ∈ (exponent ++ rest).head?, Text.isAsciiDigit c = false ∧ c ≠ '.' := by
  rcases h with rfl | ⟨mark, sign, digits, hmark, -, -, rfl⟩
  · intro c hc
    refine ⟨not_isAsciiDigit_of_isBoundary (hrest c hc), ?_⟩
    rintro rfl
    exact absurd (hrest '.' hc) (by decide)
  · rintro _ ⟨⟩
    rcases List.mem_cons.mp hmark with rfl | hmark
    · decide
    · rw [List.mem_singleton.mp hmark]
      decide

/-- A number is read whole where nothing follows that can belong to it. -/
theorem reads_unsigned (negative : Bool) {v : List Char} (hv : IsUnsigned v)
    (hrest : AtBoundary rest) : Reads (unsigned negative (v ++ rest)) rest := by
  obtain ⟨whole, fraction, exponent, hwhole, hfraction, hexponent, rfl⟩ := hv
  have hend := not_digit_head?_exponent hexponent hrest
  obtain ⟨e, htakeExponent⟩ := exists_takeExponent hexponent hrest
  obtain ⟨digits, htakeFraction⟩ := exists_takeFraction hfraction hend
  have hpoint : ∀ c ∈ (fraction ++ (exponent ++ rest)).head?, Text.isAsciiDigit c = false := by
    rcases hfraction with rfl | ⟨digits, -, rfl⟩
    · exact fun c hc => (hend c hc).1
    · rintro _ ⟨⟩
      rfl
  have hempty : whole.isEmpty = false := List.isEmpty_eq_false_iff.mpr hwhole.ne_nil
  unfold unsigned
  simp only [List.append_assoc, takeWhole_append_of hwhole hpoint, htakeFraction, htakeExponent,
    hempty, Bool.false_eq_true, if_false]
  split
  · split
    · exact .inr ⟨_, rfl⟩
    · exact .inl ⟨_, rfl⟩
  · exact .inl ⟨_, rfl⟩

end RunCharts.Json.Grammar
