import RunCharts.Proofs.Json.Words
import RunCharts.Proofs.Metric.Cover
import RunCharts.Proofs.Report.Order

/-!
# The numbers of a report

Thresholds, bounds and the numbers of rows are finite in every report. The end of an axis is finite
as long as the top times the headroom is in range; where it is not, the text of the report has the
word for an infinity, or for a number without a value, and is no JSON.
-/

namespace RunCharts

namespace Json

@[simp] theorem hasFiniteNumbers_bool (b : Bool) : (bool b).hasFiniteNumbers = true := by
  rw [hasFiniteNumbers]

@[simp] theorem hasFiniteNumbers_int (n : Int) : (int n).hasFiniteNumbers = true := by
  rw [hasFiniteNumbers]

@[simp] theorem hasFiniteNumbers_str (s : String) : (str s).hasFiniteNumbers = true := by
  rw [hasFiniteNumbers]

@[simp] theorem hasFiniteNumbers_obj (fields : List (String × Json)) :
    (obj fields).hasFiniteNumbers = haveFiniteFields fields := by
  rw [hasFiniteNumbers]

@[simp] theorem hasFiniteNumbers_ofText? (s : Option String) :
    (ofText? s).hasFiniteNumbers = true := by
  cases s <;> rw [ofText?, hasFiniteNumbers]

@[simp] theorem hasFiniteNumbers_ofInt? (n : Option Int) :
    (ofInt? n).hasFiniteNumbers = true := by
  cases n <;> rw [ofInt?, ofOption, hasFiniteNumbers]

@[simp] theorem hasFiniteNumbers_ofTexts (texts : List String) :
    (ofTexts texts).hasFiniteNumbers = true := by
  rw [ofTexts, hasFiniteNumbers, haveFiniteNumbers_eq_all, List.all_map, List.all_eq_true]
  intro s _
  exact hasFiniteNumbers.eq_def _

theorem hasFiniteNumbers_ofNumbers (xs : List Binary64) :
    (ofNumbers xs).hasFiniteNumbers = xs.all Binary64.isFinite := by
  rw [ofNumbers, hasFiniteNumbers, haveFiniteNumbers_eq_all, List.all_map]
  congr 1

theorem hasFiniteNumbers_ofOption {α : Type} (f : α → Json) (a : Option α) :
    (ofOption f a).hasFiniteNumbers = a.all fun a => (f a).hasFiniteNumbers := by
  cases a with
  | none => rw [ofOption, hasFiniteNumbers, Option.all_none]
  | some a => rw [ofOption, Option.all_some]

end Json

namespace Measurement

theorem Cell.hasFiniteNumbers_toJson {c : Cell} (h : ∀ x, c = .number x → x.isFinite = true) :
    c.toJson.hasFiniteNumbers = true := by
  cases c with
  | none => rw [toJson, Json.hasFiniteNumbers]
  | text s => rw [toJson, Json.hasFiniteNumbers]
  | number x =>
    rw [toJson, Json.hasFiniteNumbers]
    exact h x rfl

theorem Display.hasFiniteNumbers_toJson {d : Display} (h : ∀ x ∈ d.numbers, x.isFinite = true) :
    d.toJson.hasFiniteNumbers = true := by
  cases d with
  | single c =>
    rw [toJson]
    apply Cell.hasFiniteNumbers_toJson
    intro x hx
    exact h x (mem_numbers_single.mpr hx)
  | keyed entries =>
    rw [toJson, Json.hasFiniteNumbers, Json.haveFiniteFields_eq_all, List.all_map,
      List.all_eq_true]
    rintro ⟨key, c⟩ he
    apply Cell.hasFiniteNumbers_toJson
    intro x hx
    exact h x (mem_numbers_keyed.mpr ⟨key, hx ▸ he⟩)

/-- The numbers of a row are those that its chart and its table show. -/
theorem Row.hasFiniteNumbers_toJson {row : Row}
    (h : ∀ x, x ∈ row.reading.chart.numbers ∨ x ∈ row.reading.table.numbers → x.isFinite = true) :
    row.toJson.hasFiniteNumbers = true := by
  have hchart := Display.hasFiniteNumbers_toJson fun x hx => h x (.inl hx)
  have htable := Display.hasFiniteNumbers_toJson fun x hx => h x (.inr hx)
  simp [toJson, Json.haveFiniteFields, hchart, htable]

end Measurement

namespace Metric

variable {settings : Settings} {args : List Argument} {spec : MetricSpec} {name : String}
  {result : MetricResult} {m : Metric}

theorem hasFiniteNumbers_thresholds {g : Guideline}
    (h : ∀ x ∈ g.thresholds.getD [], x.isFinite = true) :
    (Json.ofOption Json.ofNumbers g.thresholds).hasFiniteNumbers = true := by
  rw [Json.hasFiniteNumbers_ofOption]
  cases hthresholds : g.thresholds with
  | none => rfl
  | some xs =>
    rw [hthresholds] at h
    rw [Option.all_some, Json.hasFiniteNumbers_ofNumbers, List.all_eq_true]
    exact h

theorem hasFiniteNumbers_specJson (h : ofResult settings args spec name result = .ok m) :
    m.specJson.hasFiniteNumbers = true := by
  have hfail := hasFiniteNumbers_thresholds (g := m.failure) fun x hx =>
    (isRounded_of_mem_thresholds h (.inl hx)).isFinite
  have hsuccess := hasFiniteNumbers_thresholds (g := m.success) fun x hx =>
    (isRounded_of_mem_thresholds h (.inr hx)).isFinite
  have hqueries : (Json.ofOption Json.ofTexts m.queries).hasFiniteNumbers = true := by
    rw [Json.hasFiniteNumbers_ofOption]
    cases m.queries <;> simp
  simp [specJson, Json.haveFiniteFields, hfail, hsuccess, hqueries]

theorem hasFiniteNumbers_leastJson (h : ofResult settings args spec name result = .ok m) :
    m.series.leastJson.hasFiniteNumbers = true := by
  have hleast := Series.isCanonical_least (Series.isCanonical_of_mem_numbers (series_of_ofResult h))
  unfold Series.leastJson
  split
  · rw [Json.hasFiniteNumbers]
    exact hleast.1
  · rw [Json.hasFiniteNumbers]

/-- The only number of a metric that may not be finite is the end of its axis. -/
theorem hasFiniteNumbers_toJson (h : ofResult settings args spec name result = .ok m) :
    m.toJson.hasFiniteNumbers = m.upper.all Binary64.isFinite := by
  have hspec := hasFiniteNumbers_specJson h
  have hleast := hasFiniteNumbers_leastJson h
  have hrows : (Json.arr (m.series.rows.map Measurement.Row.toJson)).hasFiniteNumbers = true := by
    rw [Json.hasFiniteNumbers, Json.haveFiniteNumbers_eq_all, List.all_map, List.all_eq_true]
    intro row hrow
    apply Measurement.Row.hasFiniteNumbers_toJson
    intro x hx
    exact (Series.isRounded_of_mem_rows (series_of_ofResult h) hrow hx).isFinite
  have hupper : (Json.ofOption Json.float m.upper).hasFiniteNumbers =
      m.upper.all Binary64.isFinite := by
    rw [Json.hasFiniteNumbers_ofOption]
    congr 1
  have hstatus : m.statusJson.hasFiniteNumbers = m.upper.all Binary64.isFinite := by
    simp [statusJson, Json.haveFiniteFields, hrows, hleast, hupper]
  simp [toJson, Json.haveFiniteFields, hspec, hstatus]

/-- Whether the top of a metric times the headroom is in range, as far as there is a top. -/
def HasFiniteAxis (settings : Settings) (m : Metric) : Prop :=
  ∀ t, m.top = some t → settings.headroom.isFinite = true ∧
    2 * (t.units.natAbs * settings.headroom.units.natAbs) <
      (2 * Binary64.significandLimit - 1) * Binary64.greatestStep * Binary64.unitsPerOne

theorem all_isFinite_upper_iff (h : ofResult settings args spec name result = .ok m) :
    m.upper.all Binary64.isFinite = true ↔ m.HasFiniteAxis settings := by
  have hproduct : ∀ t, m.top = some t → ((t.mul settings.headroom).isFinite = true ↔
      settings.headroom.isFinite = true ∧
        2 * (t.units.natAbs * settings.headroom.units.natAbs) <
          (2 * Binary64.significandLimit - 1) * Binary64.greatestStep * Binary64.unitsPerOne) := by
    intro t ht
    cases hheadroom : settings.headroom.isFinite with
    | false =>
      rw [Binary64.not_isFinite_mul hheadroom]
      simp
    | true =>
      rw [Binary64.isFinite_mul_iff (isRounded_top h ht).isFinite hheadroom]
      simp
  rw [upper_eq h]
  unfold HasFiniteAxis
  cases htop : m.top with
  | none => simp
  | some t =>
    rw [Option.map_some, Option.all_some, Binary64.isFinite_toHundredths, hproduct t htop]
    constructor
    · rintro haxis t' ht'
      cases ht'
      exact haxis
    · intro haxis
      exact haxis t rfl

end Metric

theorem Summary.hasFiniteNumbers_toJson (s : Summary) : s.toJson.hasFiniteNumbers = true := by
  simp [toJson, Json.haveFiniteFields]

namespace Report

variable {settings : Settings} {run : Run} {r : Report}

theorem exists_ofResult (h : ofRun settings run = .ok r) {m : Metric} (hm : m ∈ r.metrics) :
    ∃ args spec name result, Metric.ofResult settings args spec name result = .ok m := by
  obtain ⟨ms, s, hms, -, rfl⟩ := ofRun_eq_ok_iff.mp h
  exact Metrics.exists_ofResult hms ((List.mergeSort_perm _ _).mem_iff.mp hm)

theorem hasFiniteNumbers_metrics (h : ofRun settings run = .ok r) :
    (Json.arr (r.metrics.map Metric.toJson)).hasFiniteNumbers = true ↔
      ∀ m ∈ r.metrics, m.HasFiniteAxis settings := by
  rw [Json.hasFiniteNumbers, Json.haveFiniteNumbers_eq_all, List.all_map, List.all_eq_true]
  apply forall₂_congr
  intro m hm
  obtain ⟨args, spec, name, result, hof⟩ := exists_ofResult h hm
  rw [← Metric.all_isFinite_upper_iff hof, ← Metric.hasFiniteNumbers_toJson hof]
  rfl

theorem hasFiniteNumbers_metricsJson (h : ofRun settings run = .ok r) :
    r.metricsJson.hasFiniteNumbers = true ↔ ∀ m ∈ r.metrics, m.HasFiniteAxis settings := by
  rw [← hasFiniteNumbers_metrics h]
  simp [metricsJson, Json.haveFiniteFields]

theorem hasFiniteNumbers_toJson (h : ofRun settings run = .ok r) :
    r.toJson.hasFiniteNumbers = true ↔ ∀ m ∈ r.metrics, m.HasFiniteAxis settings := by
  rw [← hasFiniteNumbers_metrics h]
  simp [toJson, Json.haveFiniteFields, Summary.hasFiniteNumbers_toJson]

/-- Which numbers of a report are finite, and what its texts have for those that are not. A text is
free of words for numbers without a value, outside its strings, if and only if the top of every
metric times the headroom is in range. -/
theorem finite_numbers_iff (settings : Settings) (run : Run) (r : Report)
    (h : ofRun settings run = .ok r) :
    (∀ m ∈ r.metrics,
      (∀ x, x ∈ m.failThresholds ∨ x ∈ m.successThresholds → x.isFinite = true) ∧
      m.series.least.isFinite = true ∧
      (∀ row ∈ m.series.rows, ∀ x,
        x ∈ row.reading.chart.numbers ∨ x ∈ row.reading.table.numbers → x.isFinite = true) ∧
      (m.upper.all Binary64.isFinite = true ↔ m.HasFiniteAxis settings)) ∧
    (r.toJson.hasFiniteNumbers = true ↔ ∀ m ∈ r.metrics, m.HasFiniteAxis settings) ∧
    (∀ width, Json.SaysNoNumber (r.toJson.report width) ↔
      ¬ ∀ m ∈ r.metrics, m.HasFiniteAxis settings) ∧
    (∀ width, Json.SaysNoNumber (r.metricsJson.report width) ↔
      ¬ ∀ m ∈ r.metrics, m.HasFiniteAxis settings) ∧
    ∀ width, ¬ Json.SaysNoNumber (r.summary.toJson.report width) := by
  refine ⟨?_, hasFiniteNumbers_toJson h, ?_, ?_, ?_⟩
  · intro m hm
    obtain ⟨args, spec, name, result, hof⟩ := exists_ofResult h hm
    have hseries := Metric.series_of_ofResult hof
    refine ⟨?_, ?_, ?_, Metric.all_isFinite_upper_iff hof⟩
    · intro x hx
      exact (Metric.isRounded_of_mem_thresholds hof hx).isFinite
    · exact (Series.isCanonical_least (Series.isCanonical_of_mem_numbers hseries)).1
    · intro row hrow x hx
      exact (Series.isRounded_of_mem_rows hseries hrow hx).isFinite
  · intro width
    rw [Json.saysNoNumber_report_iff, ← hasFiniteNumbers_toJson h, Bool.not_eq_true]
  · intro width
    rw [Json.saysNoNumber_report_iff, ← hasFiniteNumbers_metricsJson h, Bool.not_eq_true]
  · intro width
    rw [Json.saysNoNumber_report_iff, Summary.hasFiniteNumbers_toJson]
    exact Bool.noConfusion

def hugeThresholdRun : Run :=
  ⟨some "canary", none, Metrics.oneMetric (some "result[0] < 1.7e308") ["[4]"]⟩

/-- A threshold within a fifth of the greatest number puts the end of the axis out of range. -/
theorem infinite_axis : ∃ r,
    ofRun .default hugeThresholdRun = .ok r ∧
    r.toJson.hasFiniteNumbers = false ∧ ∀ width, Json.SaysNoNumber (r.toJson.report width) := by
  have hcheck : (ofOrderedRun? .default hugeThresholdRun).map
      (fun r => r.toJson.hasFiniteNumbers) = some false := by
    decide +kernel
  obtain ⟨r, hr, hnumbers⟩ := Option.map_eq_some_iff.mp hcheck
  have hok := ofRun_of_ofOrderedRun? hr
  obtain ⟨-, hiff, hreport, -, -⟩ := finite_numbers_iff .default _ r hok
  refine ⟨r, hok, hnumbers, ?_⟩
  intro width
  rw [hreport, ← hiff, hnumbers]
  exact Bool.false_ne_true

end Report

end RunCharts
