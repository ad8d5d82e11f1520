import RunCharts.Proofs.Binary64.Order
import RunCharts.Proofs.Measurement.Readings
import RunCharts.Proofs.Series.Rows

/-!
# The bounds of a series

The numbers of a series are finite and rounded to hundredths, so its bounds are the numbers that
the order says: the greatest of them, and the least of them and zero. How the numbers follow each
other makes no difference.
-/

namespace RunCharts

section

variable {α : Type} {pick : α → α → α} {x : α} {xs : List α}

theorem foldl_pick_mem (hpick : ∀ x y, pick x y = x ∨ pick x y = y) :
    xs.foldl pick x ∈ x :: xs := by
  induction xs generalizing x with
  | nil => exact List.mem_cons_self
  | cons y ys ih =>
    rw [List.foldl_cons]
    rcases List.mem_cons.mp (ih (x := pick x y)) with h | h
    · rw [h]
      rcases hpick x y with hx | hy
      · rw [hx]
        exact List.mem_cons_self
      · rw [hy]
        exact List.mem_cons_of_mem _ List.mem_cons_self
    · exact List.mem_cons_of_mem _ (List.mem_cons_of_mem _ h)

/-- What is picked from left to right by a measure has the greatest measure. -/
theorem measure_le_foldl_pick {P : α → Prop} (measure : α → Int)
    (hpick : ∀ x y, pick x y = x ∨ pick x y = y)
    (hmeasure : ∀ x y, P x → P y →
      measure x ≤ measure (pick x y) ∧ measure y ≤ measure (pick x y))
    (hP : ∀ y ∈ x :: xs, P y) {y : α} (hy : y ∈ x :: xs) :
    measure y ≤ measure (xs.foldl pick x) := by
  induction xs generalizing x y with
  | nil =>
    rw [List.mem_singleton.mp hy]
    exact Int.le_refl _
  | cons z zs ih =>
    have hx := hP x List.mem_cons_self
    have hz := hP z (List.mem_cons_of_mem _ List.mem_cons_self)
    have hpicked : P (pick x z) := by
      rcases hpick x z with h | h
      · rwa [h]
      · rwa [h]
    have hrest : ∀ w ∈ pick x z :: zs, P w := by
      intro w hw
      rcases List.mem_cons.mp hw with rfl | hw
      · exact hpicked
      · exact hP w (List.mem_cons_of_mem _ (List.mem_cons_of_mem _ hw))
    have hfirst := ih hrest List.mem_cons_self
    obtain ⟨hxz, hzx⟩ := hmeasure x z hx hz
    rw [List.foldl_cons]
    rcases List.mem_cons.mp hy with rfl | hy
    · exact Int.le_trans hxz hfirst
    · rcases List.mem_cons.mp hy with rfl | hy
      · exact Int.le_trans hzx hfirst
      · exact ih hrest (List.mem_cons_of_mem _ hy)

end

namespace Series

open Measurement Binary64

theorem greater_eq_or (x y : Binary64) : greater x y = x ∨ greater x y = y := by
  unfold greater
  split
  · exact .inr rfl
  · exact .inl rfl

theorem lesser_eq_or (x y : Binary64) : lesser x y = x ∨ lesser x y = y := by
  unfold lesser
  split
  · exact .inr rfl
  · exact .inl rfl

theorem units_le_greater (x y : Binary64) (hx : x.isFinite = true) (hy : y.isFinite = true) :
    x.units ≤ (greater x y).units ∧ y.units ≤ (greater x y).units := by
  unfold greater
  split
  · rename_i h
    exact ⟨Int.le_of_lt ((lt_iff_units hx hy).mp h), Int.le_refl _⟩
  · rename_i h
    exact ⟨Int.le_refl _, (not_lt_iff_units hx hy).mp (Bool.not_eq_true _ ▸ h)⟩

theorem lesser_units_le (x y : Binary64) (hx : x.isFinite = true) (hy : y.isFinite = true) :
    (lesser x y).units ≤ x.units ∧ (lesser x y).units ≤ y.units := by
  unfold lesser
  split
  · rename_i h
    exact ⟨Int.le_of_lt ((lt_iff_units hy hx).mp h), Int.le_refl _⟩
  · rename_i h
    exact ⟨Int.le_refl _, (not_lt_iff_units hy hx).mp (Bool.not_eq_true _ ▸ h)⟩

theorem number?_eq_some_iff {row : Row} {x : Binary64} : row.number? = some x ↔
    row.reading.canChart = true ∧ row.reading.chart = .single (.number x) ∧ x.isFinite = true := by
  unfold Row.number?
  constructor
  · intro h
    split at h
    · rename_i hcan hchart
      split at h
      · rename_i hfinite
        rw [← Option.some.inj h]
        exact ⟨hcan, hchart, hfinite⟩
      · cases h
    · cases h
  · rintro ⟨hcan, hchart, hfinite⟩
    rw [hcan, hchart]
    exact if_pos hfinite

/-- What a series puts into the chart has been rounded, so it is no negative zero. -/
theorem isCanonical_of_mem_numbers {strict : Bool} {keys : List String} {ms : List Measurement}
    {s : Series} (h : ofMeasurements strict keys ms = .ok s) :
    ∀ x ∈ s.numbers, x.IsCanonical := by
  intro x hx
  obtain ⟨row, hrow, hnumber⟩ := List.mem_filterMap.mp hx
  obtain ⟨hcan, hchart, hfinite⟩ := number?_eq_some_iff.mp hnumber
  rcases toRow_eq_ok_iff.mp ((ofMeasurements_eq_ok_iff.mp h).2 row hrow) with
    ⟨reading, hread, hreading⟩ | ⟨-, -, hreading⟩
  · rw [hreading] at hchart
    obtain ⟨y, -, rfl⟩ := exists_of_read_single hread hchart
    exact ⟨hfinite, toHundredths_ne_zero_true y⟩
  · rw [hreading] at hcan
    cases hcan

def IsGreatestOf (xs : List Binary64) (g : Binary64) : Prop :=
  g ∈ xs ∧ ∀ y ∈ xs, y.units ≤ g.units

def IsLeastOf (xs : List Binary64) (l : Binary64) : Prop :=
  l ∈ xs ∧ ∀ y ∈ xs, l.units ≤ y.units

section

variable {xs ys : List Binary64} {x y : Binary64}

theorem isGreatestOf_congr (h : ∀ z, z ∈ xs ↔ z ∈ ys) : IsGreatestOf xs x ↔ IsGreatestOf ys x := by
  simp only [IsGreatestOf, h]

theorem isLeastOf_congr (h : ∀ z, z ∈ xs ↔ z ∈ ys) : IsLeastOf xs x ↔ IsLeastOf ys x := by
  simp only [IsLeastOf, h]

theorem IsGreatestOf.unique (hx : IsGreatestOf xs x) (hy : IsGreatestOf xs y)
    (hxs : ∀ z ∈ xs, z.IsCanonical) : x = y :=
  eq_of_units_eq (hxs x hx.1) (hxs y hy.1) (Int.le_antisymm (hy.2 x hx.1) (hx.2 y hy.1))

theorem IsLeastOf.unique (hx : IsLeastOf xs x) (hy : IsLeastOf xs y)
    (hxs : ∀ z ∈ xs, z.IsCanonical) : x = y :=
  eq_of_units_eq (hxs x hx.1) (hxs y hy.1) (Int.le_antisymm (hx.2 y hy.1) (hy.2 x hx.1))

theorem IsGreatestOf.isAtLeast (hx : IsGreatestOf xs x) (hxs : ∀ z ∈ xs, z.IsCanonical)
    (hy : y ∈ xs) : x.isAtLeast y = true :=
  (isAtLeast_iff_units (hxs x hx.1).1 (hxs y hy).1).mpr (hx.2 y hy)

theorem IsLeastOf.isAtLeast (hx : IsLeastOf xs x) (hxs : ∀ z ∈ xs, z.IsCanonical)
    (hy : y ∈ xs) : y.isAtLeast x = true :=
  (isAtLeast_iff_units (hxs y hy).1 (hxs x hx.1).1).mpr (hx.2 y hy)

theorem IsGreatestOf.append (hx : IsGreatestOf xs x) (hy : IsGreatestOf ys y)
    (hxfinite : x.isFinite = true) (hyfinite : y.isFinite = true) :
    IsGreatestOf (xs ++ ys) (greater x y) := by
  obtain ⟨hxle, hyle⟩ := units_le_greater x y hxfinite hyfinite
  constructor
  · rcases greater_eq_or x y with h | h
    · rw [h]
      exact List.mem_append_left _ hx.1
    · rw [h]
      exact List.mem_append_right _ hy.1
  · intro z hz
    rcases List.mem_append.mp hz with hz | hz
    · exact Int.le_trans (hx.2 z hz) hxle
    · exact Int.le_trans (hy.2 z hz) hyle

theorem IsLeastOf.append (hx : IsLeastOf xs x) (hy : IsLeastOf ys y)
    (hxfinite : x.isFinite = true) (hyfinite : y.isFinite = true) :
    IsLeastOf (xs ++ ys) (lesser x y) := by
  obtain ⟨hlex, hley⟩ := lesser_units_le x y hxfinite hyfinite
  constructor
  · rcases lesser_eq_or x y with h | h
    · rw [h]
      exact List.mem_append_left _ hx.1
    · rw [h]
      exact List.mem_append_right _ hy.1
  · intro z hz
    rcases List.mem_append.mp hz with hz | hz
    · exact Int.le_trans hlex (hx.2 z hz)
    · exact Int.le_trans hley (hy.2 z hz)

end

variable {s t : Series}

theorem isGreatestOf_of_greatest (hs : ∀ x ∈ s.numbers, x.IsCanonical) {g : Binary64}
    (h : s.greatest = some g) : IsGreatestOf s.numbers g := by
  unfold greatest at h
  split at h
  · cases h
  · rename_i x xs hnumbers
    cases h
    rw [hnumbers] at hs ⊢
    refine ⟨foldl_pick_mem greater_eq_or, ?_⟩
    intro y hy
    exact measure_le_foldl_pick units greater_eq_or units_le_greater (fun z hz => (hs z hz).1) hy

theorem greatest_eq_none_iff : s.greatest = none ↔ s.numbers = [] := by
  unfold greatest
  split <;> simp_all

theorem greatest_eq_some_iff (hs : ∀ x ∈ s.numbers, x.IsCanonical) {g : Binary64} :
    s.greatest = some g ↔ IsGreatestOf s.numbers g := by
  constructor
  · exact isGreatestOf_of_greatest hs
  · intro hg
    cases h : s.greatest with
    | none =>
      rw [greatest_eq_none_iff.mp h] at hg
      exact absurd hg.1 List.not_mem_nil
    | some g' => rw [(isGreatestOf_of_greatest hs h).unique hg hs]

theorem isCanonical_of_mem_zero_cons (hs : ∀ x ∈ s.numbers, x.IsCanonical) :
    ∀ x ∈ zero false :: s.numbers, x.IsCanonical :=
  List.forall_mem_cons.mpr ⟨isCanonical_zero, hs⟩

theorem isLeastOf_least (hs : ∀ x ∈ s.numbers, x.IsCanonical) :
    IsLeastOf (zero false :: s.numbers) s.least := by
  refine ⟨foldl_pick_mem lesser_eq_or, ?_⟩
  intro y hy
  have hfinite : ∀ z ∈ zero false :: s.numbers, z.isFinite = true :=
    fun z hz => (isCanonical_of_mem_zero_cons hs z hz).1
  have h := measure_le_foldl_pick (fun x : Binary64 => -x.units) lesser_eq_or
    (fun x z hx hz => by
      obtain ⟨hxz, hzx⟩ := lesser_units_le x z hx hz
      exact ⟨Int.neg_le_neg hxz, Int.neg_le_neg hzx⟩) hfinite hy
  exact Int.neg_le_neg_iff.mp h

theorem eq_least_iff (hs : ∀ x ∈ s.numbers, x.IsCanonical) {l : Binary64} :
    l = s.least ↔ IsLeastOf (zero false :: s.numbers) l := by
  constructor
  · rintro rfl
    exact isLeastOf_least hs
  · intro hl
    exact hl.unique (isLeastOf_least hs) (isCanonical_of_mem_zero_cons hs)

theorem isCanonical_least (hs : ∀ x ∈ s.numbers, x.IsCanonical) : s.least.IsCanonical :=
  isCanonical_of_mem_zero_cons hs _ (isLeastOf_least hs).1

theorem greatest_perm (hs : ∀ x ∈ s.numbers, x.IsCanonical) (h : t.numbers.Perm s.numbers) :
    t.greatest = s.greatest := by
  have ht : ∀ x ∈ t.numbers, x.IsCanonical := fun x hx => hs x (h.mem_iff.mp hx)
  apply Option.ext
  intro g
  rw [greatest_eq_some_iff hs, greatest_eq_some_iff ht]
  exact isGreatestOf_congr fun _ => h.mem_iff

theorem least_perm (hs : ∀ x ∈ s.numbers, x.IsCanonical) (h : t.numbers.Perm s.numbers) :
    t.least = s.least := by
  have ht : ∀ x ∈ t.numbers, x.IsCanonical := fun x hx => hs x (h.mem_iff.mp hx)
  rw [eq_least_iff hs]
  exact (isLeastOf_congr fun _ => (h.cons _).mem_iff).mp (isLeastOf_least ht)

/-- The measurements in another order have the rows in another order, and the same bounds. -/
theorem ofMeasurements_perm {strict : Bool} {keys : List String} {ms ms' : List Measurement}
    (hperm : ms'.Perm ms) (h : ofMeasurements strict keys ms = .ok s) :
    ∃ t, ofMeasurements strict keys ms' = .ok t ∧ t.rows.Perm s.rows ∧
      t.chartable = s.chartable ∧ t.least = s.least ∧ t.greatest = s.greatest := by
  obtain ⟨rows', hrows', hrows⟩ := Traversal.mapM_perm hperm (ofMeasurements_eq_ok_iff_mapM.mp h)
  have hnumbers : (numbers ⟨rows'⟩).Perm s.numbers := hrows.filterMap _
  have hcanonical := isCanonical_of_mem_numbers h
  refine ⟨⟨rows'⟩, ofMeasurements_eq_ok_iff_mapM.mpr hrows', hrows, ?_,
    least_perm hcanonical hnumbers, greatest_perm hcanonical hnumbers⟩
  rw [chartable, chartable, hrows.isEmpty_eq, hrows.all_eq]

end Series

end RunCharts
