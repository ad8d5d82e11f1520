import RunCharts.Decimal.Basic

/-!
# The shortest decimal of a number

`Decimal.shortest` looks for the fewest digits, at most seventeen, that read back as the number.
Of two decimals of that length the nearer one is taken, on a tie the even one. Main statement:
what is chosen reads back, whatever the search finds.

That no shorter decimal reads back, and that seventeen digits always suffice, is not proved here.
-/

namespace RunCharts

namespace Decimal

/-- The decimal that equals a magnitude exactly, since `2 ^ -1074 = 5 ^ 1074 * 10 ^ -1074`. -/
def exact (negative : Bool) (units : Nat) : Decimal :=
  ⟨negative, units * Nat.pow 5 Binary64.unitExponent, -Binary64.unitExponent⟩

/-- The least `k` with `units * 2 ^ -1074 < 10 ^ k`, for a magnitude above zero. -/
def leadingPlace (units : Nat) : Int :=
  (Nat.toDigits 10 (units * Nat.pow 10 400 / Binary64.unitsPerOne)).length - 400

def neighbours (negative : Bool) (units n : Nat) : List Decimal :=
  let e := leadingPlace units - n
  let num := units * Nat.pow 10 (-e).toNat
  let den := Binary64.unitsPerOne * Nat.pow 10 e.toNat
  let low := num / den
  let near := Binary64.roundQuotient num den
  let far := if near = low then low + 1 else low
  [⟨negative, near, e⟩, ⟨negative, far, e⟩]

/-- The first decimal of at most seventeen digits that reads back as `x`, short ones first. -/
def findShort? (negative : Bool) (units : Nat) (x : Binary64) : Option Decimal :=
  (List.range 17).findSome? fun i =>
    (neighbours negative units (i + 1)).find? fun d => d.toBinary64 = x

def shortest (negative : Bool) (units : Nat) (h : Binary64.Representable units) : Decimal :=
  if units = 0 then ⟨negative, 0, 0⟩
  else (findShort? negative units (.finite negative units h)).getD (exact negative units)

theorem toBinary64_of_findShort? {negative : Bool} {units : Nat} {x : Binary64} {d : Decimal}
    (h : findShort? negative units x = some d) : d.toBinary64 = x := by
  obtain ⟨i, -, hi⟩ := List.exists_of_findSome?_eq_some h
  simpa using List.find?_some hi

/-- A common factor of numerator and denominator does not change a rounded quotient. -/
theorem roundQuotient_mul_right (a b : Nat) {c : Nat} (hc : 0 < c) :
    Binary64.roundQuotient (a * c) (b * c) = Binary64.roundQuotient a b := by
  simp only [Binary64.roundQuotient, Nat.mul_div_mul_right _ _ hc, Nat.mul_mod_mul_right]
  have h₁ : 2 * (a % b * c) < b * c ↔ 2 * (a % b) < b := by
    rw [← Nat.mul_assoc]; exact Nat.mul_lt_mul_right hc
  have h₂ : b * c < 2 * (a % b * c) ↔ b < 2 * (a % b) := by
    rw [← Nat.mul_assoc]; exact Nat.mul_lt_mul_right hc
  simp only [h₁, h₂]

theorem nearest_mul_right (negative : Bool) (a b : Nat) {c : Nat} (hc : 0 < c) :
    Binary64.nearest negative (a * c) (b * c) = Binary64.nearest negative a b := by
  have h : b * c * Binary64.gridStep (a / b) = b * Binary64.gridStep (a / b) * c := by
    rw [Nat.mul_assoc, Nat.mul_comm c, ← Nat.mul_assoc]
  simp only [Binary64.nearest, Nat.mul_div_mul_right _ _ hc, h, roundQuotient_mul_right _ _ hc]

theorem pow_five_mul_pow_two (n : Nat) : Nat.pow 5 n * Nat.pow 2 n = Nat.pow 10 n :=
  (Nat.mul_pow 5 2 n).symm

theorem toBinary64_exact {negative : Bool} {units : Nat} (h : Binary64.Representable units)
    (hpos : 0 < units) : (exact negative units).toBinary64 = .finite negative units h := by
  have h5 : 0 < Nat.pow 5 Binary64.unitExponent := Binary64.pow_pos (by decide) _
  have hne : units * Nat.pow 5 Binary64.unitExponent ≠ 0 := Nat.ne_of_gt (Nat.mul_pos hpos h5)
  have hprod : units * Nat.pow 5 Binary64.unitExponent * Binary64.unitsPerOne
      = units * Nat.pow 10 Binary64.unitExponent := by
    unfold Binary64.unitsPerOne
    simp only [Nat.mul_assoc, pow_five_mul_pow_two]
  have hexp : (exact negative units).exponent = -1074 := rfl
  have hdig : (exact negative units).digits = units * Nat.pow 5 Binary64.unitExponent := rfl
  have hneg : (exact negative units).negative = negative := rfl
  unfold toBinary64
  rw [hdig, hexp, hneg, if_neg hne, if_neg (by decide), if_neg (by omega), if_neg (by decide),
    hprod]
  have hten : (-(-1074 : Int)).toNat = Binary64.unitExponent := rfl
  rw [hten]
  have := nearest_mul_right negative units 1 (c := Nat.pow 10 Binary64.unitExponent)
    (Binary64.pow_pos (by decide) _)
  rw [Nat.one_mul] at this
  rw [this]
  exact Binary64.nearest_of_representable h negative

/-- The shortest decimal reads back as the number it was chosen for. -/
theorem toBinary64_shortest (negative : Bool) (units : Nat) (h : Binary64.Representable units) :
    (shortest negative units h).toBinary64 = .finite negative units h := by
  unfold shortest
  split
  · subst units; rfl
  · rename_i hne
    cases hf : findShort? negative units (.finite negative units h) with
    | none => exact toBinary64_exact h (Nat.pos_of_ne_zero hne)
    | some d => exact toBinary64_of_findShort? hf

end Decimal

end RunCharts
