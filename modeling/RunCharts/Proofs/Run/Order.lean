import Mathlib.Data.Option.Basic
import RunCharts.Proofs.Traversal
import RunCharts.Summary

/-!
# Runs in another order

Two ways in which a run can be recorded differently and still be the same run: its results and the
metrics of its spec in another order, and the measurements of its results in another order. The
summary of the run sees neither.
-/

namespace RunCharts

structure RunSpec.Reordered (s t : RunSpec) : Prop where
  metrics : t.metrics.Perm s.metrics
  args : t.args = s.args

structure RunStatus.Reordered (s t : RunStatus) : Prop where
  results : t.results.Perm s.results
  rest : t = { s with results := t.results }

/-- The run with its results and the metrics of its spec in another order. -/
structure Run.Reordered (run run' : Run) : Prop where
  name : run'.name = run.name
  createdAt : run'.createdAt = run.createdAt
  spec : Option.Rel RunSpec.Reordered run.snapshot.spec run'.snapshot.spec
  status : Option.Rel RunStatus.Reordered run.snapshot.status run'.snapshot.status

structure MetricResult.Remeasured (r r' : MetricResult) : Prop where
  measurements : r'.measurements.Perm r.measurements
  rest : r' = { r with measurements := r'.measurements }

structure RunStatus.Remeasured (s t : RunStatus) : Prop where
  results : List.Forall₂ MetricResult.Remeasured s.results t.results
  rest : t = { s with results := t.results }

/-- The run with the measurements of each result in another order. -/
structure Run.Remeasured (run run' : Run) : Prop where
  name : run'.name = run.name
  createdAt : run'.createdAt = run.createdAt
  spec : run'.snapshot.spec = run.snapshot.spec
  status : Option.Rel RunStatus.Remeasured run.snapshot.status run'.snapshot.status

structure RunStatus.HasDistinctNames (status : RunStatus) : Prop where
  named : ∀ r ∈ status.results, r.name.isSome = true
  distinct : (status.results.map MetricResult.name).Nodup

def RunSpec.HasDistinctNames (spec : RunSpec) : Prop := (spec.metrics.map MetricSpec.name).Nodup

/-- All results have names, no two the same, and no two metrics of the spec have the same name. -/
structure Run.HasDistinctNames (run : Run) : Prop where
  spec : ∀ spec ∈ run.snapshot.spec, spec.HasDistinctNames
  status : ∀ status ∈ run.snapshot.status, status.HasDistinctNames

def measurementsOf (results : List MetricResult) : List Measurement :=
  results.flatMap fun r => r.measurements

theorem measurementsOf_perm {results results' : List MetricResult} (h : results'.Perm results) :
    (measurementsOf results').Perm (measurementsOf results) := h.flatMap_right _

theorem measurementsOf_remeasured {results results' : List MetricResult}
    (h : List.Forall₂ MetricResult.Remeasured results results') :
    (measurementsOf results').Perm (measurementsOf results) := by
  induction h with
  | nil => exact .nil
  | cons hr _ ih => exact hr.measurements.append ih

/-- States that differ in their results only, with the same measurements in all. -/
structure RunStatus.SameMeasurements (s t : RunStatus) : Prop where
  measurements : (measurementsOf t.results).Perm (measurementsOf s.results)
  rest : t = { s with results := t.results }

theorem RunStatus.Reordered.sameMeasurements {s t : RunStatus} (h : RunStatus.Reordered s t) :
    RunStatus.SameMeasurements s t := ⟨measurementsOf_perm h.results, h.rest⟩

theorem RunStatus.Remeasured.sameMeasurements {s t : RunStatus} (h : RunStatus.Remeasured s t) :
    RunStatus.SameMeasurements s t := ⟨measurementsOf_remeasured h.results, h.rest⟩

theorem rel_imp {α β : Type} {R S : α → β → Prop} (h : ∀ a b, R a b → S a b) {a : Option α}
    {b : Option β} (hab : Option.Rel R a b) : Option.Rel S a b := by
  cases hab with
  | none => exact .none
  | some hab => exact .some (h _ _ hab)

theorem Timestamp.latest_perm {times times' : List (Option Int)} (h : times'.Perm times) :
    latest times' = latest times := by
  have hperm := h.filterMap id
  unfold latest
  apply Option.ext
  intro t
  rw [List.max?_eq_some_iff, List.max?_eq_some_iff, hperm.mem_iff]
  constructor
  · rintro ⟨ht, hle⟩
    exact ⟨ht, fun u hu => hle u (hperm.mem_iff.mpr hu)⟩
  · rintro ⟨ht, hle⟩
    exact ⟨ht, fun u hu => hle u (hperm.mem_iff.mp hu)⟩

namespace Summary

theorem endTimeOf_eq_ok_iff {results : List MetricResult} {t : Option Int} :
    endTimeOf results = .ok t ↔ ∃ times,
      (measurementsOf results).mapM (fun m => Timestamp.millis? m.finishedAt) = .ok times ∧
        t = Timestamp.latest times := by
  unfold endTimeOf measurementsOf
  cases (results.flatMap fun r => r.measurements).mapM fun m => Timestamp.millis? m.finishedAt <;>
    simp [Except.map, eq_comm]

/-- The end of a run depends on which measurements there are and not on their order. -/
theorem endTimeOf_perm {results results' : List MetricResult} {t : Option Int}
    (hperm : (measurementsOf results').Perm (measurementsOf results))
    (h : endTimeOf results = .ok t) : endTimeOf results' = .ok t := by
  obtain ⟨times, htimes, rfl⟩ := endTimeOf_eq_ok_iff.mp h
  obtain ⟨times', htimes', hp⟩ := Traversal.mapM_perm hperm htimes
  exact endTimeOf_eq_ok_iff.mpr ⟨times', htimes', (Timestamp.latest_perm hp).symm⟩

theorem ofRun_perm {run run' : Run} {s : Summary} (hcreated : run'.createdAt = run.createdAt)
    (hstatus : Option.Rel RunStatus.SameMeasurements run.snapshot.status run'.snapshot.status)
    (h : ofRun run = .ok s) : ofRun run' = .ok s := by
  obtain ⟨name, createdAt, spec?, status?⟩ := run
  obtain ⟨name', createdAt', spec'?, status'?⟩ := run'
  obtain rfl : createdAt' = createdAt := hcreated
  cases hstatus with
  | none => exact h
  | @some t t' hsame =>
    obtain ⟨hperm, hrest⟩ := hsame
    rw [hrest]
    unfold ofRun at h ⊢
    dsimp only at h ⊢
    cases hend : endTimeOf t.results with
    | error e =>
      rw [hend] at h
      cases hstart : Timestamp.millis? (startText createdAt' t.startedAt) with
      | error e => rw [hstart] at h; cases h
      | ok start => rw [hstart] at h; cases h
    | ok finish =>
      rw [hend] at h
      rw [endTimeOf_perm hperm hend]
      exact h

end Summary

end RunCharts
