import Mathlib.Data.List.DropRight
import Mathlib.Tactic.Ring
import RunCharts.Decimal.Numeral
import RunCharts.Decimal.Style

/-!
# Written digits

The digits of a number denote it. Without the zeros at their end they denote it divided by a power
of ten, and they still start with the same digit. A numeral has no characters but digits, signs, a
point and the mark of an exponent.
-/

namespace RunCharts

theorem Numeral.applySign_natAbs (n : Int) : applySign (decide (n < 0)) n.natAbs = n := by
  unfold applySign
  by_cases h : n < 0
  · rw [decide_eq_true h, if_pos rfl]
    omega
  · rw [decide_eq_false h, if_neg Bool.false_ne_true]
    omega

namespace Text

theorem ne_of_isAsciiDigit {c mark : Char} (h : isAsciiDigit c = true)
    (hmark : isAsciiDigit mark = false) : c ≠ mark := by
  rintro rfl
  exact Bool.false_ne_true (hmark.symm.trans h)

theorem valueOfAscii_eq_ofDigitChars (cs : List Char) :
    valueOfAscii cs = Nat.ofDigitChars 10 cs 0 := by
  rw [valueOfAscii, valueOfDigits, asciiDigits, List.foldl_map, Nat.ofDigitChars_eq_foldl]

theorem valueOfDigits_append (ds es : List Nat) :
    valueOfDigits (ds ++ es) = valueOfDigits ds * 10 ^ es.length + valueOfDigits es := by
  induction es using List.reverseRecOn with
  | nil => rw [List.append_nil, List.length_nil, Nat.pow_zero, Nat.mul_one]; rfl
  | append_singleton es d ih =>
    have hlast (ds : List Nat) : valueOfDigits (ds ++ [d]) = 10 * valueOfDigits ds + d :=
      List.foldl_concat ..
    rw [← List.append_assoc, hlast, hlast, ih, List.length_append, List.length_singleton,
      Nat.pow_succ]
    ring

theorem valueOfDigits_lt {ds : List Nat} (h : ∀ d ∈ ds, d < 10) :
    valueOfDigits ds < Nat.pow 10 ds.length := by
  induction ds using List.reverseRecOn with
  | nil => decide
  | append_singleton ds d ih =>
    have hlt := ih fun e he => h e (List.mem_append_left _ he)
    have hd : d < 10 := h d (List.mem_append_right _ List.mem_cons_self)
    unfold valueOfDigits at hlt ⊢
    rw [List.foldl_append, List.length_append, List.length_singleton]
    change 10 * _ + d < Nat.pow 10 ds.length * 10
    omega

theorem valueOfDigits_zeros (n : Nat) : valueOfDigits (List.replicate n 0) = 0 := by
  induction n with
  | zero => rfl
  | succ n ih => exact ih

theorem lt_ten_of_mem_asciiDigits {cs : List Char} (h : ∀ c ∈ cs, isAsciiDigit c = true) :
    ∀ d ∈ asciiDigits cs, d < 10 := by
  intro d hd
  obtain ⟨c, hc, rfl⟩ := List.mem_map.mp hd
  have hdigit := h c hc
  simp only [isAsciiDigit, Bool.and_eq_true, decide_eq_true_eq, Char.le_def,
    UInt32.le_iff_toNat_le] at hdigit
  have hle : c.toNat ≤ 57 := hdigit.2
  have hzero : '0'.toNat = 48 := rfl
  omega

theorem valueOfAscii_lt {cs : List Char} (h : cs.all isAsciiDigit = true) :
    valueOfAscii cs < Nat.pow 10 cs.length := by
  have hlt := valueOfDigits_lt (lt_ten_of_mem_asciiDigits (List.all_eq_true.mp h))
  rwa [asciiDigits, List.length_map] at hlt

theorem valueOfAscii_append (cs ds : List Char) :
    valueOfAscii (cs ++ ds) = valueOfAscii cs * Nat.pow 10 ds.length + valueOfAscii ds := by
  rw [valueOfAscii, asciiDigits, List.map_append, valueOfDigits_append, List.length_map]
  rfl

end Text

namespace NumberStyle

open Text

theorem valueOfAscii_digits (n : Nat) : valueOfAscii (digits n) = n := by
  rw [valueOfAscii_eq_ofDigitChars]
  exact Nat.ofDigitChars_ten_toDigits

theorem isAsciiDigit_of_mem_digits {n : Nat} {c : Char} (h : c ∈ digits n) :
    isAsciiDigit c = true := Nat.isDigit_of_mem_toDigits (by decide) (by decide) h

theorem isAsciiDigit_of_mem_zeros {n : Nat} {c : Char} (h : c ∈ zeros n) :
    isAsciiDigit c = true := by
  rw [(List.mem_replicate.mp h).2]
  rfl

theorem length_zeros (n : Nat) : (zeros n).length = n := List.length_replicate

theorem valueOfAscii_zeros (n : Nat) : valueOfAscii (zeros n) = 0 := by
  induction n with
  | zero => rfl
  | succ n ih =>
    have hcons : zeros (n + 1) = ['0'] ++ zeros n := rfl
    have hzero : valueOfAscii ['0'] = 0 := rfl
    rw [hcons, valueOfAscii_append, ih, hzero, Nat.zero_mul]

theorem valueOfAscii_zeros_append (n : Nat) (cs : List Char) :
    valueOfAscii (zeros n ++ cs) = valueOfAscii cs := by
  rw [valueOfAscii_append, valueOfAscii_zeros, Nat.zero_mul, Nat.zero_add]

theorem valueOfAscii_append_zeros (cs : List Char) (n : Nat) :
    valueOfAscii (cs ++ zeros n) = valueOfAscii cs * Nat.pow 10 n := by
  rw [valueOfAscii_append, valueOfAscii_zeros, length_zeros, Nat.add_zero]

theorem digits_ne_nil (n : Nat) : digits n ≠ [] := Nat.toDigits_ne_nil

/-- Only zero is written with a zero in front. -/
theorem head?_digits_ne_zero {n : Nat} (h : n ≠ 0) : (digits n).head? ≠ some '0' := by
  induction n using Nat.strongRecOn with
  | ind n ih =>
    rcases Nat.lt_or_ge n 10 with hlt | hge
    · rw [digits, Nat.toDigits_of_lt_base hlt]
      intro hhead
      exact h (Nat.digitChar_eq_zero.mp (Option.some.inj hhead))
    · have hfront := ih (n / 10) (Nat.div_lt_self (by omega) (by decide)) (by omega)
      have hsplit : digits n = digits (n / 10) ++ [Nat.digitChar (n % 10)] :=
        Nat.toDigits_of_base_le (by decide) hge
      rw [hsplit, List.head?_append_of_ne_nil _ (digits_ne_nil _)]
      exact hfront

def significant (n : Nat) : List Char := ((digits n).reverse.dropWhile (· == '0')).reverse

theorem exists_digits_eq (n : Nat) : ∃ k, digits n = significant n ++ zeros k := by
  refine ⟨((digits n).rtakeWhile (· == '0')).length, ?_⟩
  have hzeros : (digits n).rtakeWhile (· == '0') =
      zeros ((digits n).rtakeWhile (· == '0')).length := by
    refine List.eq_replicate_iff.mpr ⟨rfl, ?_⟩
    intro c hc
    rw [List.rtakeWhile, List.mem_reverse] at hc
    exact eq_of_beq (List.mem_takeWhile_imp (p := (· == '0')) hc)
  rw [← hzeros]
  exact List.rdropWhile_append_rtakeWhile.symm

theorem isAsciiDigit_of_mem_significant {n : Nat} {c : Char} (h : c ∈ significant n) :
    isAsciiDigit c = true :=
  isAsciiDigit_of_mem_digits ((List.rdropWhile_prefix _ _).subset h)

/-- A number above zero has digits left, and the first of them is not a zero. -/
theorem exists_significant_eq {n : Nat} (h : n ≠ 0) :
    ∃ d ds, significant n = d :: ds ∧ d ≠ '0' := by
  obtain ⟨k, hk⟩ := exists_digits_eq n
  have hhead := head?_digits_ne_zero h
  rw [hk] at hhead
  cases hds : significant n with
  | nil =>
    rw [hds, List.nil_append] at hhead hk
    cases k with
    | zero => exact absurd hk (digits_ne_nil n)
    | succ k => exact absurd rfl hhead
  | cons d ds =>
    refine ⟨d, ds, rfl, ?_⟩
    rintro rfl
    rw [hds] at hhead
    exact hhead rfl

/-! ### The characters of numerals -/

def isNumeralChar (c : Char) : Bool :=
  isAsciiDigit c || c == '-' || c == '+' || c == '.' || c == 'e'

variable {cs : List Char}

theorem isNumeralChar_of_isAsciiDigit {c : Char} (h : isAsciiDigit c = true) :
    isNumeralChar c = true := by
  simp [isNumeralChar, h]

theorem isNumeralChar_of_mem_zeros {n : Nat} {c : Char} (h : c ∈ zeros n) :
    isNumeralChar c = true := isNumeralChar_of_isAsciiDigit (isAsciiDigit_of_mem_zeros h)

theorem isNumeralChar_of_mem_digits {n : Nat} {c : Char} (h : c ∈ digits n) :
    isNumeralChar c = true := isNumeralChar_of_isAsciiDigit (isAsciiDigit_of_mem_digits h)

theorem isNumeralChar_signed (h : ∀ c ∈ cs, isNumeralChar c = true) (negative : Bool) :
    ∀ c ∈ signed negative cs, isNumeralChar c = true := by
  cases negative with
  | false => exact h
  | true => exact List.forall_mem_cons.mpr ⟨rfl, h⟩

theorem isNumeralChar_positional (h : ∀ c ∈ cs, isNumeralChar c = true) (n : Int) :
    ∀ c ∈ positional cs n, isNumeralChar c = true := by
  unfold positional
  split
  · rw [List.forall_mem_cons, List.forall_mem_cons, List.forall_mem_append]
    exact ⟨rfl, rfl, fun _ => isNumeralChar_of_mem_zeros, h⟩
  · split
    · rw [List.forall_mem_append, List.forall_mem_append]
      exact ⟨⟨h, fun _ => isNumeralChar_of_mem_zeros⟩, List.all_eq_true.mp rfl⟩
    · rw [List.forall_mem_append, List.forall_mem_cons]
      exact ⟨fun c hc => h c (List.mem_of_mem_take hc), rfl,
        fun c hc => h c (List.mem_of_mem_drop hc)⟩

theorem isNumeralChar_exponentChars (style : NumberStyle) (e : Int) :
    ∀ c ∈ style.exponentChars e, isNumeralChar c = true := by
  unfold exponentChars
  rw [List.forall_mem_cons, List.forall_mem_cons, List.forall_mem_append]
  refine ⟨rfl, ?_, fun _ => isNumeralChar_of_mem_zeros, fun _ => isNumeralChar_of_mem_digits⟩
  split <;> rfl

theorem isNumeralChar_scientific (style : NumberStyle) (h : ∀ c ∈ cs, isNumeralChar c = true)
    (e : Int) : ∀ c ∈ style.scientific cs e, isNumeralChar c = true := by
  unfold scientific
  rw [List.forall_mem_append]
  refine ⟨?_, isNumeralChar_exponentChars style e⟩
  split
  · rw [List.forall_mem_cons] at h ⊢
    exact ⟨h.1, List.forall_mem_cons.mpr ⟨rfl, h.2⟩⟩
  · exact h

theorem isNumeralChar_magnitude (style : NumberStyle) (d : Decimal) :
    ∀ c ∈ style.magnitude d, isNumeralChar c = true := by
  have hdigits : ∀ c ∈ significant d.digits, isNumeralChar c = true :=
    fun c hc => isNumeralChar_of_isAsciiDigit (isAsciiDigit_of_mem_significant hc)
  unfold magnitude
  split
  · exact List.all_eq_true.mp rfl
  · dsimp only
    split
    · exact isNumeralChar_positional hdigits _
    · exact isNumeralChar_scientific style hdigits _

end NumberStyle

end RunCharts
