import RunCharts.Json.Printer
import RunCharts.Json.Reader
import RunCharts.Proofs.Decimal.Digits
import RunCharts.Proofs.Decimal.Value
import RunCharts.Proofs.Json.Rules
import RunCharts.Proofs.Json.Sound

/-!
# Reading written numbers

A written integer is read as that integer, and a written decimal as the number nearest to it,
whatever the style, as long as no more of a numeral follows. So the shortest decimal of a number is
read as the number.
-/

namespace RunCharts.Json.Reader

open NumberStyle

def isBoundary (c : Char) : Bool := c == ',' || c == ']' || c == '\x7d' || isGap c

def AtBoundary (cs : List Char) : Prop := ∀ c ∈ cs.head?, isBoundary c = true

/-- Digits that stand before a point: some, and a zero in front stands alone. -/
structure IsWhole (cs : List Char) : Prop where
  digits : ∀ c ∈ cs, Text.isAsciiDigit c = true
  ne_nil : cs ≠ []
  zero : cs.head? = some '0' → cs = ['0']

variable {whole fraction cs cs₁ cs₂ rest : List Char} {exponent : Option Int}

theorem atBoundary_nil : AtBoundary [] := nofun

theorem atBoundary_cons {c : Char} (h : isBoundary c = true) : AtBoundary (c :: cs) := by
  rintro _ ⟨⟩
  exact h

theorem AtBoundary.not_of_head? (h : AtBoundary rest) {p : Char → Bool}
    (hp : ∀ c, isBoundary c = true → p c = false) : ∀ c ∈ rest.head?, p c = false :=
  fun c hc => hp c (h c hc)

theorem isBoundary_cases {c : Char} (h : isBoundary c = true) :
    c = ',' ∨ c = ']' ∨ c = '\x7d' ∨ c = ' ' ∨ c = '\t' ∨ c = '\n' ∨ c = '\r' := by
  simp only [isBoundary, isGap, Bool.or_eq_true, beq_iff_eq] at h
  tauto

theorem not_isAsciiDigit_of_isBoundary {c : Char} (h : isBoundary c = true) :
    Text.isAsciiDigit c = false := by
  rcases isBoundary_cases h with rfl | rfl | rfl | rfl | rfl | rfl | rfl <;> rfl

/-! ### The parts of a numeral -/

theorem takeDigits_append_of (hcs : ∀ c ∈ cs, Text.isAsciiDigit c = true)
    (hrest : ∀ c ∈ rest.head?, Text.isAsciiDigit c = false) :
    takeDigits (cs ++ rest) = (cs, rest) := by
  have hstop : rest.takeWhile Text.isAsciiDigit = [] ∧ rest.dropWhile Text.isAsciiDigit = rest := by
    cases rest with
    | nil => exact ⟨rfl, rfl⟩
    | cons c rest =>
      have hc := hrest c rfl
      exact ⟨List.takeWhile_cons_of_neg (by simp [hc]), List.dropWhile_cons_of_neg (by simp [hc])⟩
  rw [takeDigits, List.takeWhile_append_of_pos hcs, List.dropWhile_append_of_pos hcs, hstop.1,
    hstop.2, List.append_nil]

theorem takeWhole_append_of (h : IsWhole whole)
    (hrest : ∀ c ∈ rest.head?, Text.isAsciiDigit c = false) :
    takeWhole (whole ++ rest) = (whole, rest) := by
  by_cases hzero : whole.head? = some '0'
  · rw [h.zero hzero]
    rfl
  · rw [takeWhole.eq_def]
    split
    · rename_i heq
      rw [← List.head?_append_of_ne_nil whole h.ne_nil, heq] at hzero
      exact absurd rfl hzero
    · exact takeDigits_append_of h.digits hrest

theorem takeFraction_append_of (hne : fraction ≠ [])
    (hfraction : ∀ c ∈ fraction, Text.isAsciiDigit c = true)
    (hrest : ∀ c ∈ rest.head?, Text.isAsciiDigit c = false) :
    takeFraction ('.' :: (fraction ++ rest)) = (fraction, rest) := by
  have hdigits := takeDigits_append_of hfraction hrest
  have hempty : fraction.isEmpty = false := List.isEmpty_eq_false_iff.mpr hne
  simp only [takeFraction, hdigits, hempty, Bool.false_eq_true, if_false]

theorem takeFraction_of_not_point (h : ∀ c ∈ cs.head?, c ≠ '.') : takeFraction cs = ([], cs) := by
  unfold takeFraction
  split
  · exact absurd rfl (h '.' rfl)
  · rfl

theorem takeExponent_of_boundary (h : AtBoundary rest) : takeExponent rest = (none, rest) := by
  cases rest with
  | nil => rfl
  | cons c rest =>
    rcases isBoundary_cases (h c rfl) with rfl | rfl | rfl | rfl | rfl | rfl | rfl <;> rfl

theorem takeExponent_exponentChars (style : NumberStyle) (e : Int) (h : AtBoundary rest) :
    takeExponent (style.exponentChars e ++ rest) = (some e, rest) := by
  have hdigits : ∀ c ∈ zeros (style.exponentWidth - (digits e.natAbs).length) ++ digits e.natAbs,
      Text.isAsciiDigit c = true := by
    intro c hc
    rcases List.mem_append.mp hc with hc | hc
    · exact isAsciiDigit_of_mem_zeros hc
    · exact isAsciiDigit_of_mem_digits hc
  have htake := takeDigits_append_of hdigits
    (h.not_of_head? fun c hc => not_isAsciiDigit_of_isBoundary hc)
  have hempty : (zeros (style.exponentWidth - (digits e.natAbs).length) ++
      digits e.natAbs).isEmpty = false := by
    rw [List.isEmpty_eq_false_iff]
    intro hnil
    exact digits_ne_nil _ (List.append_eq_nil_iff.mp hnil).2
  have hsign : ∀ cs : List Char,
      Numeral.takeSign ((if e < 0 then '-' else '+') :: cs) = (decide (e < 0), cs) := by
    intro cs
    by_cases he : e < 0
    · rw [if_pos he, decide_eq_true he]
      rfl
    · rw [if_neg he, decide_eq_false he]
      rfl
  simp only [exponentChars, List.cons_append, takeExponent, hsign, htake, hempty,
    valueOfAscii_zeros_append, valueOfAscii_digits, Numeral.applySign_natAbs, beq_self_eq_true,
    Bool.true_or, if_true, Bool.false_eq_true, if_false]

/-! ### Whole numerals -/

theorem unsigned_of_parts (negative : Bool) (hwhole : takeWhole cs = (whole, cs₁))
    (hfraction : takeFraction cs₁ = (fraction, cs₂))
    (hexponent : takeExponent cs₂ = (exponent, rest)) (hne : whole ≠ [])
    (hfloat : fraction ≠ [] ∨ exponent ≠ none) :
    unsigned negative cs = .ok (.float (Decimal.toBinary64
      ⟨negative, Text.valueOfAscii (whole ++ fraction), exponent.getD 0 - fraction.length⟩),
      rest) := by
  have hempty : whole.isEmpty = false := List.isEmpty_eq_false_iff.mpr hne
  have hint : (fraction.isEmpty && exponent.isNone) = false := by
    rw [Bool.and_eq_false_iff, List.isEmpty_eq_false_iff, ← Bool.not_eq_true,
      Option.isNone_iff_eq_none]
    exact hfloat
  simp only [unsigned, hwhole, hfraction, hexponent, hempty, hint, Bool.false_eq_true, if_false]

theorem unsigned_whole (negative : Bool) (hwhole : IsWhole whole)
    (hlimit : whole.length ≤ Numeral.digitLimit) (hrest : AtBoundary rest) :
    unsigned negative (whole ++ rest) =
      .ok (.int (Numeral.applySign negative (Text.valueOfAscii whole)), rest) := by
  have htake := takeWhole_append_of hwhole
    (hrest.not_of_head? fun c hc => not_isAsciiDigit_of_isBoundary hc)
  have hpoint : takeFraction rest = ([], rest) := by
    apply takeFraction_of_not_point
    rintro c hc rfl
    exact absurd (hrest '.' hc) (by decide)
  have hempty : whole.isEmpty = false := List.isEmpty_eq_false_iff.mpr hwhole.ne_nil
  unfold unsigned
  simp only [htake, hpoint, takeExponent_of_boundary hrest, hempty]
  exact if_neg (Nat.not_lt.mpr hlimit)

theorem isWhole_digits (n : Nat) : IsWhole (digits n) := by
  refine ⟨fun c => isAsciiDigit_of_mem_digits, digits_ne_nil n, ?_⟩
  intro hhead
  by_cases hn : n = 0
  · subst hn
    rfl
  · exact absurd hhead (head?_digits_ne_zero hn)

theorem isWhole_of_head? (hcs : ∀ c ∈ cs, Text.isAsciiDigit c = true) (hne : cs ≠ [])
    (hhead : cs.head? ≠ some '0') : IsWhole cs :=
  ⟨hcs, hne, fun hzero => absurd hzero hhead⟩

theorem unsigned_point (negative : Bool) (hwhole : IsWhole whole) (hne : fraction ≠ [])
    (hfraction : ∀ c ∈ fraction, Text.isAsciiDigit c = true)
    (hend : ∀ c ∈ cs.head?, Text.isAsciiDigit c = false)
    (hexponent : takeExponent cs = (exponent, rest)) :
    unsigned negative (whole ++ '.' :: (fraction ++ cs)) = .ok (.float (Decimal.toBinary64
      ⟨negative, Text.valueOfAscii (whole ++ fraction), exponent.getD 0 - fraction.length⟩),
      rest) := by
  have hpoint : ∀ c ∈ ('.' :: (fraction ++ cs)).head?, Text.isAsciiDigit c = false := by
    rintro _ ⟨⟩
    rfl
  exact unsigned_of_parts negative (takeWhole_append_of hwhole hpoint)
    (takeFraction_append_of hne hfraction hend) hexponent hwhole.ne_nil (.inl hne)

/-! ### Layouts of digits -/

/-- A layout of digits with a point in it, as the parts that are read. Zeros that the layout adds
count in the value as `j` places. -/
structure IsPointed (ds : List Char) (n : Int) (whole fraction : List Char) (j : Nat) : Prop where
  isWhole : IsWhole whole
  ne_nil : fraction ≠ []
  isFraction : ∀ c ∈ fraction, Text.isAsciiDigit c = true
  value : Text.valueOfAscii (whole ++ fraction) = Text.valueOfAscii ds * Nat.pow 10 j
  places : j - (fraction.length : Int) = n - ds.length

section

variable {ds : List Char} (hds : ∀ c ∈ ds, Text.isAsciiDigit c = true) (hne : ds ≠ [])
  (hhead : ds.head? ≠ some '0')

include hds hne

theorem isPointed_before {n : Int} (hn : n ≤ 0) :
    IsPointed ds n ['0'] (zeros (-n).toNat ++ ds) 0 := by
  refine ⟨isWhole_digits 0, by simp [hne], ?_, ?_, ?_⟩
  · intro c hc
    rcases List.mem_append.mp hc with hc | hc
    · exact isAsciiDigit_of_mem_zeros hc
    · exact hds c hc
  · have hzero : ['0'] = zeros 1 := rfl
    rw [hzero, valueOfAscii_zeros_append, valueOfAscii_zeros_append]
    exact (Nat.mul_one _).symm
  · rw [List.length_append, length_zeros]
    omega

include hhead

theorem isPointed_behind {n : Int} (hn : ds.length ≤ n.toNat) (hpos : 0 < n) :
    IsPointed ds n (ds ++ zeros (n.toNat - ds.length)) ['0'] (n.toNat - ds.length + 1) := by
  have hwhole : ∀ c ∈ ds ++ zeros (n.toNat - ds.length), Text.isAsciiDigit c = true := by
    intro c hc
    rcases List.mem_append.mp hc with hc | hc
    · exact hds c hc
    · exact isAsciiDigit_of_mem_zeros hc
  refine ⟨isWhole_of_head? hwhole (by simp [hne]) ?_, by simp, ?_, ?_, ?_⟩
  · rwa [List.head?_append_of_ne_nil _ hne]
  · intro c hc
    rw [List.mem_singleton.mp hc]
    rfl
  · have hzero : zeros (n.toNat - ds.length) ++ ['0'] = zeros (n.toNat - ds.length + 1) :=
      List.replicate_succ'.symm
    rw [List.append_assoc, hzero, valueOfAscii_append_zeros]
  · rw [List.length_singleton]
    omega

theorem isPointed_inside {n : Int} (hn : n.toNat < ds.length) (hpos : 0 < n) :
    IsPointed ds n (ds.take n.toNat) (ds.drop n.toNat) 0 := by
  have htake : ds.take n.toNat ≠ [] := by
    rw [ne_eq, List.take_eq_nil_iff, not_or]
    exact ⟨by omega, hne⟩
  refine ⟨isWhole_of_head? (fun c hc => hds c (List.mem_of_mem_take hc)) htake ?_, ?_, ?_, ?_, ?_⟩
  · rwa [← List.head?_append_of_ne_nil _ htake, List.take_append_drop]
  · rw [ne_eq, List.drop_eq_nil_iff]
    omega
  · exact fun c hc => hds c (List.mem_of_mem_drop hc)
  · rw [List.take_append_drop]
    exact (Nat.mul_one _).symm
  · rw [List.length_drop]
    omega

theorem exists_positional_eq (n : Int) : ∃ whole fraction j,
    positional ds n = whole ++ '.' :: fraction ∧ IsPointed ds n whole fraction j := by
  unfold positional
  split
  · rename_i hn
    exact ⟨_, _, _, rfl, isPointed_before hds hne hn⟩
  · rename_i hn
    split
    · rename_i hlength
      exact ⟨_, _, _, by simp, isPointed_behind hds hne hhead hlength (by omega)⟩
    · rename_i hlength
      exact ⟨_, _, _, rfl, isPointed_inside hds hne hhead (by omega) (by omega)⟩

end

/-- Digits with an exponent are read with the exponent less the digits behind the point. -/
theorem unsigned_scientific (negative : Bool) (style : NumberStyle) {ds : List Char}
    (hds : ∀ c ∈ ds, Text.isAsciiDigit c = true) (hne : ds ≠ []) (hhead : ds.head? ≠ some '0')
    (e : Int) (hrest : AtBoundary rest) :
    unsigned negative (style.scientific ds e ++ rest) = .ok (.float (Decimal.toBinary64
      ⟨negative, Text.valueOfAscii ds, e - (ds.length - 1)⟩), rest) := by
  have hexponent := takeExponent_exponentChars style e hrest
  have hend : ∀ c ∈ (style.exponentChars e ++ rest).head?, Text.isAsciiDigit c = false := by
    rintro _ ⟨⟩
    rfl
  obtain ⟨d, ds, rfl⟩ := List.exists_cons_of_ne_nil hne
  cases ds with
  | nil =>
    have hwhole := takeWhole_append_of (isWhole_of_head? hds hne hhead) hend
    have hpoint : takeFraction (style.exponentChars e ++ rest) =
        ([], style.exponentChars e ++ rest) := rfl
    have hread := unsigned_of_parts negative hwhole hpoint hexponent hne (.inr nofun)
    have hlayout : style.scientific [d] e = [d] ++ style.exponentChars e := rfl
    rw [hlayout, List.append_assoc, hread, List.append_nil, Option.getD_some]
    rfl
  | cons d' ds =>
    have hwhole : IsWhole [d] := by
      refine isWhole_of_head? ?_ (List.cons_ne_nil d []) hhead
      intro c hc
      exact hds c (List.mem_singleton.mp hc ▸ List.mem_cons_self)
    have hfraction : ∀ c ∈ d' :: ds, Text.isAsciiDigit c = true :=
      fun c hc => hds c (List.mem_cons_of_mem d hc)
    have hread := unsigned_point negative hwhole (List.cons_ne_nil d' ds) hfraction
      hend hexponent
    have hplaces : e - ((d' :: ds).length : Int) = e - ((d :: d' :: ds).length - 1) := by
      simp only [List.length_cons]
      omega
    have hlayout : style.scientific (d :: d' :: ds) e ++ rest =
        [d] ++ '.' :: ((d' :: ds) ++ (style.exponentChars e ++ rest)) := by
      rw [scientific, List.append_assoc]
      rfl
    rw [hlayout, hread, Option.getD_some, hplaces]
    rfl

/-! ### Written numbers -/

/-- A written decimal is read as the number nearest to it, in any style. -/
theorem unsigned_magnitude (style : NumberStyle) (d : Decimal) (hrest : AtBoundary rest) :
    unsigned d.negative (style.magnitude d ++ rest) = .ok (.float d.toBinary64, rest) := by
  have hend := hrest.not_of_head? fun c hc => not_isAsciiDigit_of_isBoundary hc
  by_cases hd : d.digits = 0
  · have hfraction : ∀ c ∈ ['0'], Text.isAsciiDigit c = true := List.all_eq_true.mp rfl
    have hread := unsigned_point d.negative (isWhole_digits 0) (List.cons_ne_nil '0' []) hfraction
      hend (takeExponent_of_boundary hrest)
    have hzero : style.magnitude d = digits 0 ++ ['.', '0'] := by
      rw [magnitude, if_pos hd]
      rfl
    rw [hzero, List.append_assoc]
    refine hread.trans ?_
    congr 3
    rw [Decimal.toBinary64, Decimal.toBinary64, if_pos hd]
    rfl
  · obtain ⟨k, hk⟩ := exists_digits_eq d.digits
    have hds : ∀ c ∈ significant d.digits, Text.isAsciiDigit c = true :=
      fun c => isAsciiDigit_of_mem_significant
    obtain ⟨hne, hhead⟩ : significant d.digits ≠ [] ∧ (significant d.digits).head? ≠ some '0' := by
      obtain ⟨c, cs, hcs, hc⟩ := exists_significant_eq hd
      simp [hcs, hc]
    have hlength : (digits d.digits).length = (significant d.digits).length + k := by
      rw [hk, List.length_append, length_zeros]
    -- the zeros that are dropped count in the exponent, and those that are added too
    have hvalue : ∀ (j : Nat) (e : Int), e + j = d.exponent + k → Decimal.toBinary64
        ⟨d.negative, Text.valueOfAscii (significant d.digits) * Nat.pow 10 j, e⟩ =
          d.toBinary64 := by
      intro j e he
      rw [Decimal.toBinary64_shift, he, ← Decimal.toBinary64_shift, ← valueOfAscii_append_zeros,
        ← hk, valueOfAscii_digits]
    rw [magnitude, if_neg hd]
    dsimp only
    split
    · obtain ⟨whole, fraction, j, hlayout, hpointed⟩ :=
        exists_positional_eq hds hne hhead (d.exponent + (digits d.digits).length - 1 + 1)
      have hread := unsigned_point d.negative hpointed.isWhole hpointed.ne_nil
        hpointed.isFraction hend (takeExponent_of_boundary hrest)
      have hplaces := hpointed.places
      unfold significant at hlayout
      rw [hlayout, List.append_assoc, List.cons_append, hread, hpointed.value, hvalue]
      rw [Option.getD_none]
      omega
    · have hread := unsigned_scientific d.negative style hds hne hhead
        (d.exponent + (digits d.digits).length - 1) hrest
      have hzeros := hvalue 0
      have hone : Nat.pow 10 0 = 1 := rfl
      rw [hone, Nat.mul_one] at hzeros
      refine hread.trans ?_
      rw [hzeros]
      omega

/-- What is read as a number starts with a digit. -/
theorem exists_of_unsigned_eq_ok {negative : Bool} {r : Json × List Char}
    (h : unsigned negative cs = .ok r) :
    ∃ c cs', cs = c :: cs' ∧ Text.isAsciiDigit c = true := by
  have hwhole : (takeWhole cs).1 ≠ [] := by
    intro hnil
    simp [unsigned, hnil] at h
  obtain ⟨c, whole, hcons⟩ := List.exists_cons_of_ne_nil hwhole
  have happend := takeWhole_append cs
  rw [hcons] at happend
  refine ⟨c, whole ++ (takeWhole cs).2, happend.symm, ?_⟩
  exact List.all_eq_true.mp (all_takeWhole cs) c (hcons ▸ List.mem_cons_self)

/-- What starts with a digit behind its sign is taken for a number. -/
theorem value_signed_of_digit (constants : Constants) (fuel room : Nat) (negative : Bool) {c : Char}
    (hc : Text.isAsciiDigit c = true) (cs : List Char) :
    value constants (fuel + 1) room (signed negative (c :: cs)) = unsigned negative (c :: cs) := by
  cases negative with
  | false => rw [signed, if_neg Bool.false_ne_true, value_of_digit hc]
  | true =>
    have hne : c ≠ 'I' := by
      rintro rfl
      cases hc
    have hwords : findWord? words ('-' :: c :: cs) = none := rfl
    have hconstants : findWord? constantWords ('-' :: c :: cs) = none := by
      simp [findWord?, constantWords, dropWord?, Ne.symm hne]
    rw [signed, if_pos rfl, value]
    · rw [atom, hwords, hconstants]
      rfl
    all_goals simp

/-- A number with its sign is read as a value. -/
theorem value_signed (constants : Constants) (fuel room : Nat) {negative : Bool}
    {r : Json × List Char} (h : unsigned negative cs = .ok r) :
    value constants (fuel + 1) room (signed negative cs) = .ok r := by
  obtain ⟨c, cs', rfl, hc⟩ := exists_of_unsigned_eq_ok h
  rw [value_signed_of_digit constants fuel room negative hc, h]

theorem signed_append (negative : Bool) (cs ds : List Char) :
    signed negative cs ++ ds = signed negative (cs ++ ds) := by
  cases negative <;> rfl

/-- A written integer is read as it was, if it has few enough digits. -/
theorem value_int (constants : Constants) (fuel room : Nat) {n : Int}
    (hn : Numeral.isWritable n = true) (hrest : AtBoundary rest) :
    value constants (fuel + 1) room (intChars n ++ rest) = .ok (.int n, rest) := by
  have hlength : ∀ k, 0 < k → n.natAbs < Nat.pow 10 k → (digits n.natAbs).length ≤ k :=
    fun k hk => (Nat.length_toDigits_le_iff (by decide) hk).mpr
  have hlimit : (digits n.natAbs).length ≤ Numeral.digitLimit := by
    unfold Numeral.isWritable at hn
    exact hlength _ (by decide) (of_decide_eq_true hn)
  have hread := unsigned_whole (decide (n < 0)) (isWhole_digits n.natAbs) hlimit hrest
  rw [valueOfAscii_digits, Numeral.applySign_natAbs] at hread
  rw [intChars, signed_append, value_signed constants fuel room hread]

theorem value_finite (constants : Constants) (fuel room : Nat) (style : NumberStyle)
    {x : Binary64} (hx : x.isFinite = true) (hrest : AtBoundary rest) :
    value constants (fuel + 1) room (style.chars x ++ rest) = .ok (.float x, rest) := by
  cases x with
  | infinite s => cases hx
  | nan => cases hx
  | finite s u h =>
    have hread := unsigned_magnitude style (Decimal.shortest s u h) hrest
    rw [Decimal.toBinary64_shortest, Decimal.negative_shortest] at hread
    rw [NumberStyle.chars, signed_append, value_signed constants fuel room hread]

end RunCharts.Json.Reader
