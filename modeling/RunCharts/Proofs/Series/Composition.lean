import RunCharts.Proofs.Measurement.Displays

/-!
# Series put one after another

The series of measurements that follow others has their rows first. The chart can show the whole
where it can show both parts, and the outer bounds of the parts are the bounds of the whole.
-/

namespace RunCharts

def Measurement.Display.scalar? : Display → Option Binary64
  | .single (.number x) => some x
  | _ => .none

namespace Series

open Measurement Binary64

instance : Append Series := ⟨fun a b => ⟨a.rows ++ b.rows⟩⟩

/-- The numbers that stand alone in the chart values of the rows. -/
def scalars (s : Series) : List Binary64 := s.rows.filterMap fun row => row.reading.chart.scalar?

variable {strict : Bool} {keys : List String} {ms front back : List Measurement} {s a b : Series}
  {row : Row} {x : Binary64}

theorem scalar?_eq_some_iff {d : Display} : d.scalar? = some x ↔ d = .single (.number x) := by
  unfold Display.scalar?
  split <;> simp_all

/-- Whether the chart can show a row makes no difference to the bounds: it can show every row whose
chart value is a number. -/
theorem number?_eq_scalar? (h : ofMeasurements strict keys ms = .ok s) (hrow : row ∈ s.rows) :
    row.number? = row.reading.chart.scalar? := by
  apply Option.ext
  intro x
  rw [number?_eq_some_iff, scalar?_eq_some_iff]
  constructor
  · rintro ⟨-, hchart, -⟩
    exact hchart
  · intro hchart
    exact ⟨canChart_of_single h hrow hchart, hchart, (isRounded_of_single h hrow hchart).isFinite⟩

theorem numbers_eq_scalars (h : ofMeasurements strict keys ms = .ok s) : s.numbers = s.scalars :=
  List.filterMap_congr fun _ hrow => number?_eq_scalar? h hrow

theorem rows_ne_nil (h : ofMeasurements strict keys ms = .ok s) (hms : ms ≠ []) : s.rows ≠ [] := by
  intro hrows
  rw [← (ofMeasurements_eq_ok_iff.mp h).1, hrows] at hms
  exact hms rfl

theorem chartable_iff (hrows : s.rows ≠ []) :
    s.chartable = true ↔ ∀ row ∈ s.rows, row.reading.canChart = true := by
  rw [chartable, Bool.and_eq_true, List.all_eq_true, Bool.not_eq_true', List.isEmpty_eq_false_iff]
  exact and_iff_right hrows

theorem reading_of_read (h : ofMeasurements strict keys ms = .ok s)
    (hms : ∀ m ∈ ms, ∃ r, read keys m.value = .ok r) (hrow : row ∈ s.rows) :
    read keys row.measurement.value = .ok row.reading := by
  obtain ⟨hmeasurements, hrows⟩ := ofMeasurements_eq_ok_iff.mp h
  obtain ⟨r, hr⟩ := hms row.measurement (hmeasurements ▸ List.mem_map_of_mem hrow)
  have hrow' := (toRow_of_read hr).symm.trans (hrows row hrow)
  rw [hr, ← Except.ok.inj hrow']

theorem exists_of_read (strict : Bool) (hms : ∀ m ∈ ms, ∃ r, read keys m.value = .ok r) :
    ∃ s, ofMeasurements strict keys ms = .ok s := by
  rw [exists_ofMeasurements_iff]
  intro m hm
  obtain ⟨r, hr⟩ := hms m hm
  exact ⟨_, toRow_of_read hr⟩

/-! ### The whole and its parts -/

theorem ofMeasurements_append (ha : ofMeasurements strict keys front = .ok a)
    (hb : ofMeasurements strict keys back = .ok b) :
    ofMeasurements strict keys (front ++ back) = .ok (a ++ b) :=
  ofMeasurements_eq_ok_iff_mapM.mpr (Traversal.mapM_append_eq_ok_iff.mpr
    ⟨a.rows, b.rows, ofMeasurements_eq_ok_iff_mapM.mp ha, ofMeasurements_eq_ok_iff_mapM.mp hb, rfl⟩)

theorem numbers_append (a b : Series) : (a ++ b).numbers = a.numbers ++ b.numbers :=
  List.filterMap_append

theorem chartable_append (ha : a.rows ≠ []) (hb : b.rows ≠ []) :
    (a ++ b).chartable = (a.chartable && b.chartable) := by
  have hab : (a ++ b).rows ≠ [] := List.append_ne_nil_of_left_ne_nil ha _
  rw [Bool.eq_iff_iff, Bool.and_eq_true, chartable_iff ha, chartable_iff hb, chartable_iff hab]
  exact List.forall_mem_append

theorem isCanonical_append (ha : ∀ x ∈ a.numbers, x.IsCanonical)
    (hb : ∀ x ∈ b.numbers, x.IsCanonical) : ∀ x ∈ (a ++ b).numbers, x.IsCanonical := by
  rw [numbers_append]
  exact List.forall_mem_append.mpr ⟨ha, hb⟩

theorem least_append (ha : ∀ x ∈ a.numbers, x.IsCanonical) (hb : ∀ x ∈ b.numbers, x.IsCanonical) :
    (a ++ b).least = lesser a.least b.least := by
  symm
  rw [eq_least_iff (isCanonical_append ha hb), numbers_append]
  -- Zero is among the numbers of the whole once, and among those of each part.
  have hmem : ∀ z, z ∈ zero false :: (a.numbers ++ b.numbers) ↔
      z ∈ (zero false :: a.numbers) ++ (zero false :: b.numbers) := by
    intro z
    simp only [List.mem_cons, List.mem_append]
    exact or_or_distrib_left
  rw [isLeastOf_congr hmem]
  exact (isLeastOf_least ha).append (isLeastOf_least hb) (isCanonical_least ha).1
    (isCanonical_least hb).1

theorem greatest_append (ha : ∀ x ∈ a.numbers, x.IsCanonical)
    (hb : ∀ x ∈ b.numbers, x.IsCanonical) :
    (a ++ b).greatest = Option.merge greater a.greatest b.greatest := by
  have hab := isCanonical_append ha hb
  cases hx : a.greatest with
  | none =>
    have hnumbers : (a ++ b).numbers = b.numbers := by
      rw [numbers_append, greatest_eq_none_iff.mp hx, List.nil_append]
    cases hy : b.greatest with
    | none => exact greatest_eq_none_iff.mpr (hnumbers.trans (greatest_eq_none_iff.mp hy))
    | some y =>
      rw [Option.merge_none_left, greatest_eq_some_iff hab, hnumbers]
      exact isGreatestOf_of_greatest hb hy
  | some x =>
    have hgreatest := isGreatestOf_of_greatest ha hx
    cases hy : b.greatest with
    | none =>
      rw [Option.merge_none_right, greatest_eq_some_iff hab, numbers_append,
        greatest_eq_none_iff.mp hy, List.append_nil]
      exact hgreatest
    | some y =>
      have hgreatest' := isGreatestOf_of_greatest hb hy
      rw [Option.merge, greatest_eq_some_iff hab, numbers_append]
      exact hgreatest.append hgreatest' (ha x hgreatest.1).1 (hb y hgreatest'.1).1

theorem least_isAtLeast_append (ha : ∀ x ∈ a.numbers, x.IsCanonical)
    (hb : ∀ x ∈ b.numbers, x.IsCanonical) : a.least.isAtLeast (a ++ b).least = true := by
  have hab := isCanonical_append ha hb
  apply (isLeastOf_least hab).isAtLeast (isCanonical_of_mem_zero_cons hab)
  rw [numbers_append, ← List.cons_append]
  exact List.mem_append_left _ (isLeastOf_least ha).1

theorem greatest_append_isAtLeast (ha : ∀ x ∈ a.numbers, x.IsCanonical)
    (hb : ∀ x ∈ b.numbers, x.IsCanonical) (hx : a.greatest = some x) :
    ∃ y, (a ++ b).greatest = some y ∧ y.isAtLeast x = true := by
  have hab := isCanonical_append ha hb
  have hmem : x ∈ (a ++ b).numbers := by
    rw [numbers_append]
    exact List.mem_append_left _ (isGreatestOf_of_greatest ha hx).1
  obtain ⟨y, hy⟩ := Option.ne_none_iff_exists'.mp
    (mt greatest_eq_none_iff.mp (List.ne_nil_of_mem hmem))
  exact ⟨y, hy, (isGreatestOf_of_greatest hab hy).isAtLeast hab hmem⟩

/-- What the series of measurements comes to where every value can be read, and how the series of
measurements and of those that follow them make up one. -/
theorem bounds_compose (strict : Bool) (keys : List String) :
    (∀ ms, ms ≠ [] → (∀ m ∈ ms, ∃ r, read keys m.value = .ok r) →
      ∃ s, ofMeasurements strict keys ms = .ok s ∧ s.rows.map Row.measurement = ms ∧
        (∀ row ∈ s.rows, read keys row.measurement.value = .ok row.reading) ∧
        (s.chartable = true ↔ ∀ row ∈ s.rows, row.reading.canChart = true) ∧
        s.least ∈ zero false :: s.scalars ∧
        (∀ x ∈ zero false :: s.scalars, x.isAtLeast s.least = true) ∧
        (s.greatest = none ↔ s.scalars = []) ∧
        (∀ g, s.greatest = some g → g ∈ s.scalars ∧ ∀ x ∈ s.scalars, g.isAtLeast x = true)) ∧
    ∀ front back a b, front ≠ [] → back ≠ [] → ofMeasurements strict keys front = .ok a →
      ofMeasurements strict keys back = .ok b →
      ∃ s, ofMeasurements strict keys (front ++ back) = .ok s ∧ s.rows = a.rows ++ b.rows ∧
        s.chartable = (a.chartable && b.chartable) ∧ s.least = lesser a.least b.least ∧
        s.greatest = Option.merge greater a.greatest b.greatest ∧
        (a.chartable = false → s.chartable = false) ∧ a.least.isAtLeast s.least = true ∧
        (∀ g, a.greatest = some g → ∃ g', s.greatest = some g' ∧ g'.isAtLeast g = true) := by
  constructor
  · intro ms hne hms
    obtain ⟨s, h⟩ := exists_of_read strict hms
    have hs := isCanonical_of_mem_numbers h
    have hleast := isLeastOf_least hs
    refine ⟨s, h, (ofMeasurements_eq_ok_iff.mp h).1, fun row hrow => reading_of_read h hms hrow,
      chartable_iff (rows_ne_nil h hne), ?_⟩
    rw [← numbers_eq_scalars h]
    refine ⟨hleast.1, ?_, greatest_eq_none_iff, ?_⟩
    · intro x hx
      exact hleast.isAtLeast (isCanonical_of_mem_zero_cons hs) hx
    · intro g hg
      have hgreatest := isGreatestOf_of_greatest hs hg
      exact ⟨hgreatest.1, fun x hx => hgreatest.isAtLeast hs hx⟩
  · intro front back a b hfront hback h h'
    have ha := isCanonical_of_mem_numbers h
    have hb := isCanonical_of_mem_numbers h'
    have hchartable := chartable_append (rows_ne_nil h hfront) (rows_ne_nil h' hback)
    refine ⟨a ++ b, ofMeasurements_append h h', rfl, hchartable, least_append ha hb,
      greatest_append ha hb, ?_, least_isAtLeast_append ha hb, ?_⟩
    · intro hfalse
      rw [hchartable, hfalse, Bool.false_and]
    · intro g hg
      exact greatest_append_isAtLeast ha hb hg

def chartedMeasurements : List Measurement :=
  ["3", "-1", ""].map fun raw => ⟨"Successful", some raw, none, none, none⟩

def latterMeasurements : List Measurement :=
  ["[7.5, 9]", "\"up\""].map fun raw => ⟨"Successful", some raw, none, none, none⟩

theorem latter_compose : ∃ a b s,
    ofMeasurements true [] chartedMeasurements = .ok a ∧
    ofMeasurements true [] latterMeasurements = .ok b ∧
    ofMeasurements true [] (chartedMeasurements ++ latterMeasurements) = .ok s ∧
    (∀ row ∈ s.rows, read [] row.measurement.value = .ok row.reading) ∧
    s.rows = a.rows ++ b.rows ∧ s.chartable = (a.chartable && b.chartable) ∧
    s.least = lesser a.least b.least ∧ s.greatest = Option.merge greater a.greatest b.greatest := by
  have htest : (chartedMeasurements ++ latterMeasurements).all
      (fun m => (read [] m.value).isOk) = true := by
    decide +kernel
  have hread : ∀ m ∈ chartedMeasurements ++ latterMeasurements,
      ∃ r, read [] m.value = .ok r := by
    intro m hm
    have hok := List.all_eq_true.mp htest m hm
    cases h : read [] m.value with
    | ok r => exact ⟨r, rfl⟩
    | error fault =>
      rw [h] at hok
      cases hok
  obtain ⟨hbounds, hcompose⟩ := bounds_compose true []
  obtain ⟨hfront, hback⟩ := List.forall_mem_append.mp hread
  obtain ⟨a, ha, -⟩ := hbounds chartedMeasurements (by decide) hfront
  obtain ⟨b, hb, -⟩ := hbounds latterMeasurements (by decide) hback
  obtain ⟨s, hs, hrows, hchartable, hleast, hgreatest, -⟩ :=
    hcompose _ _ a b (by decide) (by decide) ha hb
  obtain ⟨s', hs', -, hreadings, -⟩ := hbounds _ (by decide) hread
  obtain rfl : s' = s := Except.ok.inj (hs'.symm.trans hs)
  exact ⟨a, b, s', ha, hb, hs, hreadings, hrows, hchartable, hleast, hgreatest⟩

end Series

end RunCharts
