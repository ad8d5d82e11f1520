import Mathlib.Algebra.Order.Field.Rat
import Mathlib.Order.Bounds.Basic
import Mathlib.Tactic.Linarith
import Mathlib.Tactic.Ring
import RunCharts.Axis

/-!
# The axis in exact numbers

In rational numbers nothing but the last step of the rule is rounded. There the end of the axis is
not lowered by a higher number of the data or by a higher threshold, and it covers what it is taken
from as long as the headroom does not draw a negative top down by more than half a hundredth.

No thresholds are the empty list, and no number is below every number.
-/

namespace RunCharts.Axis

/-- Whether a number is one of those that a top is taken from. -/
def Contributes (value : Option Rat) (fail success : List Rat) (x : Rat) : Prop :=
  value = some x ∨ x ∈ fail ∨ x ∈ success

def IsHundredths (x : Rat) : Prop := ∃ n : Int, x = n / 100

variable {headroom x y t u : Rat} {value value' : Option Rat}
  {fail fail' success success' xs xs' ys ys' : List Rat}

/-! ### The top -/

theorem greater_some (x y : Rat) : greater (some x) (some y) = some (max x y) := by
  have hlt : AxisNumber.lt x y = true ↔ x < y := decide_eq_true_iff
  rw [greater]
  by_cases h : x < y
  · rw [if_pos (hlt.mpr h), max_eq_right h.le]
  · rw [if_neg (mt hlt.mp h), max_eq_left (not_lt.mp h)]

theorem foldl_greater (xs : List Rat) (x : Rat) :
    xs.foldl (fun m y => greater m (some y)) (some x) = some (xs.foldl max x) := by
  induction xs generalizing x with
  | nil => rfl
  | cons y ys ih => rw [List.foldl_cons, List.foldl_cons, greater_some, ih]

theorem greatest_eq_max? (xs : List Rat) : greatest xs = xs.max? := by
  cases xs with
  | nil => rfl
  | cons x xs => rw [greatest, foldl_greater, List.max?_cons']

theorem greater_max? (xs ys : List Rat) : greater xs.max? ys.max? = (xs ++ ys).max? := by
  cases hx : xs.max? with
  | none =>
    rw [List.max?_eq_none_iff.mp hx, List.nil_append]
    cases ys.max? <;> rfl
  | some x =>
    obtain ⟨hxmem, hxle⟩ := List.max?_eq_some_iff.mp hx
    cases hy : ys.max? with
    | none => rw [List.max?_eq_none_iff.mp hy, List.append_nil, hx, greater]
    | some y =>
      obtain ⟨hymem, hyle⟩ := List.max?_eq_some_iff.mp hy
      rw [greater_some, eq_comm, List.max?_eq_some_iff]
      constructor
      · rcases max_choice x y with hmax | hmax
        · rw [hmax]
          exact List.mem_append_left _ hxmem
        · rw [hmax]
          exact List.mem_append_right _ hymem
      · intro z hz
        rcases List.mem_append.mp hz with hz | hz
        · exact (hxle z hz).trans (le_max_left x y)
        · exact (hyle z hz).trans (le_max_right x y)

theorem top_eq_max? (value : Option Rat) (fail success : List Rat) :
    top value fail success = (value.toList ++ fail ++ success).max? := by
  have hvalue : value = value.toList.max? := by cases value <;> rfl
  conv_lhs => rw [top, greatest_eq_max?, greatest_eq_max?, hvalue]
  rw [greater_max?, greater_max?]

theorem contributes_iff : Contributes value fail success x ↔
    x ∈ value.toList ++ fail ++ success := by
  rw [Contributes, List.mem_append, List.mem_append, Option.mem_toList]
  exact or_assoc.symm

theorem isGreatest_of_top (h : top value fail success = some t) :
    IsGreatest {x | Contributes value fail success x} t := by
  rw [top_eq_max?, List.max?_eq_some_iff] at h
  exact ⟨contributes_iff.mpr h.1, fun x hx => h.2 x (contributes_iff.mp hx)⟩

theorem max?_le_max?_iff : xs.max? ≤ ys.max? ↔ ∀ x ∈ xs, ∃ y ∈ ys, x ≤ y := by
  cases hx : xs.max? with
  | none => simp [List.max?_eq_none_iff.mp hx]
  | some x =>
    obtain ⟨hxmem, hxle⟩ := List.max?_eq_some_iff.mp hx
    cases hy : ys.max? with
    | none =>
      rw [List.max?_eq_none_iff.mp hy]
      simp only [Option.not_some_le_none, List.not_mem_nil, false_and, exists_false, imp_false,
        false_iff, not_forall, not_not]
      exact ⟨x, hxmem⟩
    | some y =>
      obtain ⟨hymem, hyle⟩ := List.max?_eq_some_iff.mp hy
      rw [Option.some_le_some]
      constructor
      · exact fun hxy z hz => ⟨y, hymem, (hxle z hz).trans hxy⟩
      · intro h
        obtain ⟨z, hz, hxz⟩ := h x hxmem
        exact hxz.trans (hyle z hz)

theorem max?_append_le (h : xs.max? ≤ xs'.max?) (h' : ys.max? ≤ ys'.max?) :
    (xs ++ ys).max? ≤ (xs' ++ ys').max? := by
  rw [max?_le_max?_iff] at h h' ⊢
  intro x hx
  rcases List.mem_append.mp hx with hx | hx
  · obtain ⟨y, hy, hxy⟩ := h x hx
    exact ⟨y, List.mem_append_left _ hy, hxy⟩
  · obtain ⟨y, hy, hxy⟩ := h' x hx
    exact ⟨y, List.mem_append_right _ hy, hxy⟩

theorem max?_le_max?_of_subset (h : xs ⊆ ys) : xs.max? ≤ ys.max? :=
  max?_le_max?_iff.mpr fun x hx => ⟨x, h hx, le_rfl⟩

theorem top_mono (hvalue : value ≤ value') (hfail : fail.max? ≤ fail'.max?)
    (hsuccess : success.max? ≤ success'.max?) :
    top value fail success ≤ top value' fail' success' := by
  have hlist : value.toList.max? ≤ value'.toList.max? := by
    cases value <;> cases value' <;> exact hvalue
  rw [top_eq_max?, top_eq_max?]
  exact max?_append_le (max?_append_le hlist hfail) hsuccess

/-! ### The end -/

theorem toHundredths_eq (x : Rat) :
    AxisNumber.toHundredths x = ((x * 100 + 1 / 2).floor : Rat) / 100 := rfl

theorem toHundredths_mono (h : x ≤ y) : AxisNumber.toHundredths x ≤ AxisNumber.toHundredths y := by
  rw [toHundredths_eq, toHundredths_eq]
  have hfloor : (x * 100 + 1 / 2).floor ≤ (y * 100 + 1 / 2).floor := by
    rw [Rat.le_floor_iff]
    exact (Rat.floor_le _).trans (by linarith)
  have hcast := Rat.intCast_le_intCast.mpr hfloor
  linarith

/-- In exact numbers every top is finite, so that there is an end wherever there is a top. -/
theorem upper_eq_map (headroom : Rat) (value : Option Rat) (fail success : List Rat) :
    upper headroom value fail success =
      (top value fail success).map fun t => AxisNumber.toHundredths (t * headroom) := by
  rw [upper]
  cases top value fail success <;> rfl

theorem upper_eq_some_iff : upper headroom value fail success = some u ↔
    ∃ t, top value fail success = some t ∧ AxisNumber.toHundredths (t * headroom) = u := by
  rw [upper_eq_map, Option.map_eq_some_iff]

theorem exists_upper_of_top_le (h : 1 ≤ headroom)
    (htop : top value fail success ≤ top value' fail' success')
    (hu : upper headroom value fail success = some u) :
    ∃ u', upper headroom value' fail' success' = some u' ∧ u ≤ u' := by
  obtain ⟨t, ht, rfl⟩ := upper_eq_some_iff.mp hu
  rw [ht] at htop
  cases ht' : top value' fail' success' with
  | none => simp [ht'] at htop
  | some t' =>
    rw [ht', Option.some_le_some] at htop
    have hmul : t * headroom ≤ t' * headroom :=
      mul_le_mul_of_nonneg_right htop (zero_le_one.trans h)
    exact ⟨_, upper_eq_some_iff.mpr ⟨t', ht', rfl⟩, toHundredths_mono hmul⟩

/-- No end is lowered, and none is lost, by a higher number of the data, by thresholds whose
greatest is higher, or by more thresholds in any order. -/
theorem upper_mono (h : 1 ≤ headroom) (hu : upper headroom value fail success = some u) :
    (∀ value' fail' success', value ≤ value' → fail.max? ≤ fail'.max? →
      success.max? ≤ success'.max? →
        ∃ u', upper headroom value' fail' success' = some u' ∧ u ≤ u') ∧
    ∀ fail' success', fail ⊆ fail' → success ⊆ success' →
      ∃ u', upper headroom value fail' success' = some u' ∧ u ≤ u' := by
  constructor
  · intro value' fail' success' hvalue hfail hsuccess
    exact exists_upper_of_top_le h (top_mono hvalue hfail hsuccess) hu
  · intro fail' success' hfail hsuccess
    have hvalue : value ≤ value := by cases value <;> simp
    exact exists_upper_of_top_le h (top_mono hvalue (max?_le_max?_of_subset hfail)
      (max?_le_max?_of_subset hsuccess)) hu

/-- Thresholds are joined by data above them, and by more thresholds. -/
theorem upper_mono_raised : upper (6 / 5 : Rat) none [-3, 1] [] = some (6 / 5) ∧
    ∃ u, upper (6 / 5 : Rat) (some (5 / 2)) [4, 1, -3] [2] = some u ∧ 6 / 5 ≤ u := by
  have hu : upper (6 / 5 : Rat) none [-3, 1] [] = some (6 / 5) := by decide +kernel
  obtain ⟨hraise, -⟩ := upper_mono (by decide +kernel) hu
  refine ⟨hu, hraise (some (5 / 2)) [4, 1, -3] [2] Option.none_le ?_ Option.none_le⟩
  exact max?_le_max?_of_subset (by decide)

/-- Rounding brings a number down by half a hundredth at most. -/
theorem le_toHundredths_iff (h : IsHundredths x) :
    x ≤ AxisNumber.toHundredths y ↔ x ≤ y + 1 / 200 := by
  obtain ⟨n, rfl⟩ := h
  have hfloor : n ≤ (y * 100 + 1 / 2).floor ↔ (n : Rat) ≤ y * 100 + 1 / 2 := Rat.le_floor_iff
  rw [toHundredths_eq]
  constructor
  · intro hle
    have hn := hfloor.mp (Rat.intCast_le_intCast.mp (by linarith))
    linarith
  · intro hle
    have hn := Rat.intCast_le_intCast.mpr (hfloor.mpr (by linarith))
    linarith

/-- The end covers what the top is taken from if and only if the headroom draws the greatest of it
down by half a hundredth at most. A greatest from zero on is not drawn down. -/
theorem upper_covers_iff (h : 1 ≤ headroom)
    (hhundredths : ∀ x, Contributes value fail success x → IsHundredths x)
    (hu : upper headroom value fail success = some u) :
    ∃ t, IsGreatest {x | Contributes value fail success x} t ∧
      ((∀ x, Contributes value fail success x → x ≤ u) ↔
        0 ≤ t ∨ -t * (headroom - 1) ≤ 1 / 200) := by
  obtain ⟨t, ht, rfl⟩ := upper_eq_some_iff.mp hu
  have hgreatest := isGreatest_of_top ht
  have hdrawn : 0 ≤ t ∨ -t * (headroom - 1) ≤ 1 / 200 ↔ -t * (headroom - 1) ≤ 1 / 200 := by
    refine or_iff_right_of_imp fun hnonneg => ?_
    have hproduct : 0 ≤ t * (headroom - 1) := mul_nonneg hnonneg (sub_nonneg.mpr h)
    linarith
  refine ⟨t, hgreatest, ?_⟩
  calc (∀ x, Contributes value fail success x → x ≤ AxisNumber.toHundredths (t * headroom))
      ↔ t ≤ AxisNumber.toHundredths (t * headroom) :=
        ⟨fun hall => hall t hgreatest.1, fun hle x hx => (hgreatest.2 hx).trans hle⟩
    _ ↔ t ≤ t * headroom + 1 / 200 := le_toHundredths_iff (hhundredths t hgreatest.1)
    _ ↔ -t * (headroom - 1) ≤ 1 / 200 := by
      have hring : -t * (headroom - 1) = t - t * headroom := by ring
      rw [hring, sub_le_iff_le_add']
    _ ↔ 0 ≤ t ∨ -t * (headroom - 1) ≤ 1 / 200 := hdrawn.symm

/-- A chart of numbers below zero with a threshold above it is covered. -/
theorem upper_covers_mixed : ∃ u, upper (6 / 5 : Rat) (some (-1 / 2)) [3, -4] [29 / 10] = some u ∧
    ∀ x, Contributes (some (-1 / 2)) [3, -4] [29 / 10] x → x ≤ u := by
  have hu : upper (6 / 5 : Rat) (some (-1 / 2)) [3, -4] [29 / 10] = some (18 / 5) := by
    decide +kernel
  have hhundredths : ∀ x, Contributes (some (-1 / 2)) [3, -4] [29 / 10] x → IsHundredths x := by
    intro x hx
    simp only [contributes_iff, Option.toList_some, List.cons_append, List.nil_append,
      List.mem_cons, List.not_mem_nil, or_false] at hx
    rcases hx with rfl | rfl | rfl | rfl
    · exact ⟨-50, by decide +kernel⟩
    · exact ⟨300, by decide +kernel⟩
    · exact ⟨-400, by decide +kernel⟩
    · exact ⟨290, by decide +kernel⟩
  obtain ⟨t, hgreatest, hiff⟩ := upper_covers_iff (by decide +kernel) hhundredths hu
  have hthree : 3 ≤ t := hgreatest.2 (.inr (.inl List.mem_cons_self))
  exact ⟨_, hu, hiff.mpr (.inl (by linarith))⟩

/-- Where all numbers are negative, the headroom draws the end below them. -/
theorem upper_not_covering : ¬∀ (headroom : Rat) (value : Option Rat) (fail success : List Rat)
    (u : Rat), 1 ≤ headroom → (∀ x, Contributes value fail success x → IsHundredths x) →
      upper headroom value fail success = some u →
        ∀ x, Contributes value fail success x → x ≤ u := by
  intro hall
  have hu : upper (6 / 5 : Rat) (some (-5)) [] [] = some (-6) := by decide +kernel
  have hhundredths : ∀ x, Contributes (some (-5)) [] [] x → IsHundredths x := by
    intro x hx
    simp only [contributes_iff, Option.toList_some, List.append_nil, List.mem_singleton] at hx
    exact ⟨-500, by rw [hx]; decide +kernel⟩
  have hle := hall _ _ _ _ _ (by decide +kernel) hhundredths hu (-5) (.inl rfl)
  exact absurd hle (by decide +kernel)

end RunCharts.Axis
