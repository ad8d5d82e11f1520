import RunCharts.Proofs.Condition.Reading
import RunCharts.Proofs.Measurement.Numbers
import RunCharts.Proofs.Metric.Parts
import RunCharts.Proofs.Series.Bounds

/-!
# What ends the axis

The top of a metric is the greatest of the greatest number of its series and its thresholds, all of
which are finite. The axis ends at the top times the headroom.
-/

namespace RunCharts

open Binary64 Series

namespace Axis

variable {xs ys fail success : List Binary64} {value m n : Option Binary64} {t : Binary64}

/-- The greatest of some numbers, or nothing where there are none. -/
def IsTopOf (xs : List Binary64) (m : Option Binary64) : Prop :=
  (m = none ∧ xs = []) ∨ ∃ g, m = some g ∧ IsGreatestOf xs g

/-- What a top is taken from: the number of the data, if there is one, and the thresholds. -/
def contributors (value : Option Binary64) (fail success : List Binary64) : List Binary64 :=
  value.toList ++ fail ++ success

theorem greater_some_some (x y : Binary64) :
    greater (some x) (some y) = some (if x.lt y then y else x) := by
  rw [greater]
  exact (apply_ite some _ _ _).symm

theorem greater_none_some {y : Binary64} (hy : y.isFinite = true) :
    greater none (some y) = some y := by
  have hordered : AxisNumber.isOrdered y = true := by
    apply decide_eq_true
    rintro rfl
    cases hy
  rw [greater, if_pos hordered]

theorem IsTopOf.greater (hm : IsTopOf xs m) (hn : IsTopOf ys n)
    (hfinite : ∀ x ∈ xs ++ ys, x.isFinite = true) : IsTopOf (xs ++ ys) (greater m n) := by
  rcases hn with ⟨rfl, rfl⟩ | ⟨y, rfl, hy, hle'⟩
  · rw [List.append_nil]
    cases m <;> exact hm
  · have hyfinite : y.isFinite = true := hfinite y (List.mem_append_right _ hy)
    rcases hm with ⟨rfl, rfl⟩ | ⟨x, rfl, hx, hle⟩
    · rw [greater_none_some hyfinite]
      exact .inr ⟨y, rfl, hy, hle'⟩
    · have hxfinite : x.isFinite = true := hfinite x (List.mem_append_left _ hx)
      refine .inr ⟨_, greater_some_some x y, ?_, ?_⟩
      · split
        · exact List.mem_append_right _ hy
        · exact List.mem_append_left _ hx
      · obtain ⟨hxg, hyg⟩ := units_le_greater x y hxfinite hyfinite
        intro z hz
        rcases List.mem_append.mp hz with hz | hz
        · exact Int.le_trans (hle z hz) hxg
        · exact Int.le_trans (hle' z hz) hyg

theorem isTopOf_singleton (x : Binary64) : IsTopOf [x] (some x) := by
  refine .inr ⟨x, rfl, List.mem_cons_self, ?_⟩
  intro y hy
  rw [List.mem_singleton.mp hy]

theorem isTopOf_toList (value : Option Binary64) : IsTopOf value.toList value := by
  cases value with
  | none => exact .inl ⟨rfl, rfl⟩
  | some x => exact isTopOf_singleton x

theorem isTopOf_foldl (hm : IsTopOf ys m) (hfinite : ∀ x ∈ ys ++ xs, x.isFinite = true) :
    IsTopOf (ys ++ xs) (xs.foldl (fun m y => greater m (some y)) m) := by
  induction xs generalizing ys m with
  | nil => rwa [List.append_nil]
  | cons x xs ih =>
    have hfirst : IsTopOf (ys ++ [x]) (greater m (some x)) := by
      apply hm.greater (isTopOf_singleton x)
      intro y hy
      apply hfinite y
      rw [← List.singleton_append, ← List.append_assoc]
      exact List.mem_append_left _ hy
    rw [List.foldl_cons, ← List.singleton_append, ← List.append_assoc]
    apply ih hfirst
    rwa [List.append_assoc, List.singleton_append]

theorem isTopOf_greatest (hfinite : ∀ x ∈ xs, x.isFinite = true) :
    IsTopOf xs (greatest xs) := by
  cases xs with
  | nil => exact .inl ⟨rfl, rfl⟩
  | cons x xs => exact isTopOf_foldl (isTopOf_singleton x) hfinite

theorem isTopOf_top (hfinite : ∀ x ∈ contributors value fail success, x.isFinite = true) :
    IsTopOf (contributors value fail success) (top value fail success) := by
  have hfail : ∀ x ∈ value.toList ++ fail, x.isFinite = true := fun x hx =>
    hfinite x (List.mem_append_left _ hx)
  have hsuccess : ∀ x ∈ success, x.isFinite = true := fun x hx =>
    hfinite x (List.mem_append_right _ hx)
  have hgreatest := isTopOf_greatest fun x hx => hfail x (List.mem_append_right _ hx)
  exact ((isTopOf_toList value).greater hgreatest hfail).greater (isTopOf_greatest hsuccess) hfinite

theorem isGreatestOf_top (hfinite : ∀ x ∈ contributors value fail success, x.isFinite = true)
    (h : top value fail success = some t) : IsGreatestOf (contributors value fail success) t := by
  rcases isTopOf_top hfinite with ⟨hnone, -⟩ | ⟨g, hg, hgreatest⟩
  · rw [hnone] at h
    cases h
  · rw [hg] at h
    cases h
    exact hgreatest

theorem upper_of_finite (hfinite : ∀ x ∈ contributors value fail success, x.isFinite = true)
    (headroom : Binary64) : upper headroom value fail success =
      (top value fail success).map fun t => (t.mul headroom).toHundredths := by
  unfold upper
  cases h : top value fail success with
  | none => rfl
  | some t =>
    have ht : t.isFinite = true := hfinite t (isGreatestOf_top hfinite h).1
    exact if_pos ht

end Axis

theorem Guideline.isRounded_of_mem_thresholds {args : List Argument} {provider : Option Provider}
    {text : Option String} {x : Binary64}
    (h : x ∈ (ofCondition (Condition.read args provider text)).thresholds.getD []) :
    x.IsRounded := by
  unfold ofCondition at h
  dsimp only at h
  split at h
  · cases h
  · obtain ⟨y, hy, rfl⟩ := List.mem_map.mp h
    exact ⟨y, Condition.isFinite_of_mem_thresholds hy, rfl⟩

namespace Metric

def failThresholds (m : Metric) : List Binary64 := m.failure.thresholds.getD []

def successThresholds (m : Metric) : List Binary64 := m.success.thresholds.getD []

def top (m : Metric) : Option Binary64 :=
  Axis.top m.series.greatest m.failThresholds m.successThresholds

variable {settings : Settings} {args : List Argument} {spec : MetricSpec} {name : String}
  {result : MetricResult} {m : Metric} {x t : Binary64}

theorem isRounded_of_mem_thresholds (h : ofResult settings args spec name result = .ok m)
    (hx : x ∈ m.failThresholds ∨ x ∈ m.successThresholds) : x.IsRounded := by
  obtain ⟨series, queries, -, -, rfl⟩ := ofResult_eq_ok_iff.mp h
  rcases hx with hx | hx
  · exact Guideline.isRounded_of_mem_thresholds hx
  · exact Guideline.isRounded_of_mem_thresholds hx

theorem mem_of_mem_contributors (h : ofResult settings args spec name result = .ok m)
    (hx : x ∈ Axis.contributors m.series.greatest m.failThresholds m.successThresholds) :
    x ∈ m.series.numbers ∨ x ∈ m.failThresholds ∨ x ∈ m.successThresholds := by
  unfold Axis.contributors at hx
  rw [List.mem_append, List.mem_append] at hx
  rcases hx with (hx | hx) | hx
  · have hgreatest := isGreatestOf_of_greatest (isCanonical_of_mem_numbers (series_of_ofResult h))
      (Option.mem_toList.mp hx)
    exact .inl hgreatest.1
  · exact .inr (.inl hx)
  · exact .inr (.inr hx)

theorem isRounded_of_mem_contributors (h : ofResult settings args spec name result = .ok m)
    (hx : x ∈ Axis.contributors m.series.greatest m.failThresholds m.successThresholds) :
    x.IsRounded := by
  rcases mem_of_mem_contributors h hx with hx | hx
  · exact isRounded_of_mem_numbers (series_of_ofResult h) hx
  · exact isRounded_of_mem_thresholds h hx

theorem isFinite_of_mem_contributors (h : ofResult settings args spec name result = .ok m) :
    ∀ x ∈ Axis.contributors m.series.greatest m.failThresholds m.successThresholds,
      x.isFinite = true :=
  fun _ hx => (isRounded_of_mem_contributors h hx).isFinite

theorem isGreatestOf_top (h : ofResult settings args spec name result = .ok m)
    (ht : m.top = some t) : IsGreatestOf
      (Axis.contributors m.series.greatest m.failThresholds m.successThresholds) t :=
  Axis.isGreatestOf_top (isFinite_of_mem_contributors h) ht

theorem isRounded_top (h : ofResult settings args spec name result = .ok m)
    (ht : m.top = some t) : t.IsRounded :=
  isRounded_of_mem_contributors h (isGreatestOf_top h ht).1

/-- The axis of a metric ends at its top times the headroom. -/
theorem upper_eq (h : ofResult settings args spec name result = .ok m) :
    m.upper = m.top.map fun t => (t.mul settings.headroom).toHundredths := by
  have hupper : m.upper =
      Axis.upper settings.headroom m.series.greatest m.failThresholds m.successThresholds := by
    obtain ⟨series, queries, -, -, rfl⟩ := ofResult_eq_ok_iff.mp h
    rfl
  rw [hupper]
  exact Axis.upper_of_finite (isFinite_of_mem_contributors h) _

end Metric

end RunCharts
