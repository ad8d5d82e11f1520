import RunCharts.Proofs.Metric.Order
import RunCharts.Proofs.Metric.Remeasured
import RunCharts.Report

/-!
# Reports and the order of what they are made from

A report of a run with names of its own does not tell in which order results and specs were listed.
A report of any run tells of the order of the measurements in the rows of its metrics and nowhere
else.
-/

namespace RunCharts

namespace Report

variable {settings : Settings} {run run' : Run} {r : Report}

theorem ofRun_eq_ok_iff : ofRun settings run = .ok r ↔ ∃ ms s,
    Metrics.ofSnapshot settings run.snapshot = .ok ms ∧ Summary.ofRun run = .ok s ∧
      r = ⟨run.name, s, ms.sorted, ms.log⟩ := by
  unfold ofRun
  cases Metrics.ofSnapshot settings run.snapshot with
  | error e => simp [bind, Except.bind]
  | ok ms =>
    cases Summary.ofRun run with
    | error e => simp [bind, Except.bind]
    | ok s => simp [bind, Except.bind, pure, Except.pure, eq_comm]

/-- The report of a run whose metrics come in the order of their names. Nothing is sorted here, so
closed runs can be evaluated. -/
def ofOrderedRun? (settings : Settings) (run : Run) : Option Report := do
  let metrics ← (Metrics.ofSnapshot settings run.snapshot).toOption
  let summary ← (Summary.ofRun run).toOption
  if (metrics.entries.map fun e => e.2.name).Pairwise fun a b => Text.precedes a b = true then
    some ⟨run.name, summary, metrics.entries.map Prod.snd, metrics.log⟩
  else none

theorem ofRun_of_ofOrderedRun? (h : ofOrderedRun? settings run = some r) :
    ofRun settings run = .ok r := by
  unfold ofOrderedRun? at h
  cases hms : Metrics.ofSnapshot settings run.snapshot with
  | error fault =>
    rw [hms] at h
    cases h
  | ok ms =>
    cases hs : Summary.ofRun run with
    | error fault =>
      rw [hms, hs] at h
      cases h
    | ok s =>
      rw [hms, hs] at h
      by_cases hordered : (ms.entries.map fun e => e.2.name).Pairwise
          fun a b => Text.precedes a b = true
      · have hr : some ⟨run.name, s, ms.entries.map Prod.snd, ms.log⟩ = some r := by
          rw [← h]
          exact (if_pos hordered).symm
        rw [← Metrics.sorted_of_pairwise hordered] at hr
        exact ofRun_eq_ok_iff.mpr ⟨ms, s, hms, hs, (Option.some.inj hr).symm⟩
      · have hr : none = some r := by
          rw [← h]
          exact (if_neg hordered).symm
        cases hr

theorem exists_ofRun_reordered (hnames : run.HasDistinctNames) (hrun : Run.Reordered run run')
    (h : ofRun settings run = .ok r) : ∃ r', ofRun settings run' = .ok r' ∧
      r'.name = r.name ∧ r'.summary = r.summary ∧ r'.metrics = r.metrics := by
  obtain ⟨ms, s, hms, hs, rfl⟩ := ofRun_eq_ok_iff.mp h
  obtain ⟨ms', hms', hsorted⟩ :=
    Metrics.ofSnapshot_reordered hrun.spec hrun.status hnames.spec hnames.status hms
  have hs' : Summary.ofRun run' = .ok s :=
    Summary.ofRun_perm hrun.createdAt (rel_imp (fun _ _ h => h.sameMeasurements) hrun.status) hs
  exact ⟨_, ofRun_eq_ok_iff.mpr ⟨ms', s, hms', hs', rfl⟩, hrun.name, rfl, hsorted⟩

theorem exists_ofRun_remeasured (hrun : Run.Remeasured run run')
    (h : ofRun settings run = .ok r) : ∃ r', ofRun settings run' = .ok r' ∧
      r'.name = r.name ∧ r'.summary = r.summary ∧
        List.Forall₂ Metric.Remeasured r.metrics r'.metrics := by
  obtain ⟨ms, s, hms, hs, rfl⟩ := ofRun_eq_ok_iff.mp h
  obtain ⟨ms', hms', hmetrics⟩ := Metrics.ofSnapshot_remeasured hrun.spec hrun.status hms
  have hs' : Summary.ofRun run' = .ok s :=
    Summary.ofRun_perm hrun.createdAt (rel_imp (fun _ _ h => h.sameMeasurements) hrun.status) hs
  exact ⟨_, ofRun_eq_ok_iff.mpr ⟨ms', s, hms', hs', rfl⟩, hrun.name, rfl, hmetrics⟩

/-- If there is a report of a run, there is one of the run in another order. It is the same where
results and specs have names of their own, and after a change in the order of measurements it
differs in the order of its rows only. -/
theorem ofRun_order_invariant (settings : Settings) (run : Run) (r : Report)
    (h : ofRun settings run = .ok r) :
    (run.HasDistinctNames → ∀ run', Run.Reordered run run' →
      ∃ r', ofRun settings run' = .ok r' ∧ r'.name = r.name ∧ r'.summary = r.summary ∧
        r'.metrics = r.metrics ∧ r'.toJson = r.toJson) ∧
    (∀ run', Run.Remeasured run run' →
      ∃ r', ofRun settings run' = .ok r' ∧ r'.name = r.name ∧ r'.summary = r.summary ∧
        List.Forall₂ Metric.Remeasured r.metrics r'.metrics) := by
  refine ⟨?_, fun run' hrun => exists_ofRun_remeasured hrun h⟩
  intro hnames run' hrun
  obtain ⟨r', hr', hname, hsummary, hmetrics⟩ := exists_ofRun_reordered hnames hrun h
  refine ⟨r', hr', hname, hsummary, hmetrics, ?_⟩
  rw [toJson, toJson, hname, hsummary, hmetrics]

def sampleRun (names : List String) (first second : Measurement) : Run :=
  ⟨some "canary", some "2024-03-01T10:00:00Z",
    some ⟨names.map fun name =>
      ⟨name, some (.prometheus none), some "result[0] < 5", none, none, none, none⟩, []⟩,
    some ⟨"Successful", none, names.map fun name =>
      ⟨some name, "Successful", 0, 0, 0, 2, 0, 2, none, [first, second]⟩, ⟨2, 2, 0, 0, 0⟩, none⟩⟩

def earlier : Measurement := ⟨"Successful", some "[4.05]", none, some "2024-03-01T10:01:00Z", none⟩

def later : Measurement := ⟨"Successful", some "[-1]", none, some "2024-03-01T10:02:00Z", none⟩

theorem sample_order_invariant :
    (sampleRun ["latency", "errors"] earlier later).HasDistinctNames ∧
    Run.Reordered (sampleRun ["latency", "errors"] earlier later)
      (sampleRun ["errors", "latency"] earlier later) ∧
    Run.Remeasured (sampleRun ["latency", "errors"] earlier later)
      (sampleRun ["latency", "errors"] later earlier) ∧
    ∃ r, ofRun .default (sampleRun ["latency", "errors"] earlier later) = .ok r ∧
      (∃ r', ofRun .default (sampleRun ["errors", "latency"] earlier later) = .ok r' ∧
        r'.toJson = r.toJson) ∧
      ∃ r', ofRun .default (sampleRun ["latency", "errors"] later earlier) = .ok r' ∧
        List.Forall₂ Metric.Remeasured r.metrics r'.metrics := by
  have hnames : (sampleRun ["latency", "errors"] earlier later).HasDistinctNames := by
    constructor
    · rintro spec hspec
      cases hspec
      unfold RunSpec.HasDistinctNames
      decide
    · rintro status hstatus
      cases hstatus
      exact ⟨by decide, by decide⟩
  have hreordered : Run.Reordered (sampleRun ["latency", "errors"] earlier later)
      (sampleRun ["errors", "latency"] earlier later) :=
    ⟨rfl, rfl, .some ⟨.swap .., rfl⟩, .some ⟨.swap .., rfl⟩⟩
  have hresult (name : String) : MetricResult.Remeasured
      ⟨some name, "Successful", 0, 0, 0, 2, 0, 2, none, [earlier, later]⟩
      ⟨some name, "Successful", 0, 0, 0, 2, 0, 2, none, [later, earlier]⟩ := ⟨.swap .., rfl⟩
  have hremeasured : Run.Remeasured (sampleRun ["latency", "errors"] earlier later)
      (sampleRun ["latency", "errors"] later earlier) :=
    ⟨rfl, rfl, rfl, .some ⟨.cons (hresult _) (.cons (hresult _) .nil), rfl⟩⟩
  have hok : (ofRun .default (sampleRun ["latency", "errors"] earlier later)).isOk = true := by
    decide +kernel
  cases h : ofRun .default (sampleRun ["latency", "errors"] earlier later) with
  | error fault =>
    rw [h] at hok
    cases hok
  | ok r =>
    obtain ⟨hsame, hsimilar⟩ := ofRun_order_invariant .default _ r h
    obtain ⟨r', hr', -, -, -, hjson⟩ := hsame hnames _ hreordered
    obtain ⟨r'', hr'', -, -, hmetrics⟩ := hsimilar _ hremeasured
    exact ⟨hnames, hreordered, hremeasured, r, rfl, ⟨r', hr', hjson⟩, r'', hr'', hmetrics⟩

end Report

end RunCharts
