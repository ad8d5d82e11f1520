import RunCharts.Proofs.Json.Sound
import RunCharts.Proofs.Run.Order
import RunCharts.Report

/-!
# The times of a summary

Instants are kept as nanoseconds in 64 bits, so the milliseconds of a time stamp have thirteen
digits at most, and a summary can always be written.
-/

namespace RunCharts

namespace Timestamp

variable {text : Option String} {n : Int}

/-- The greatest number of milliseconds, either way from the start of 1970. -/
def millisLimit : Nat := 9223372036855

theorem natAbs_millisOfInstant_le {instant : Int} (h : InRange instant) :
    (millisOfInstant instant).natAbs ≤ millisLimit := by
  unfold InRange instantLimit at h
  unfold millisOfInstant millisLimit
  rw [Int.fdiv_eq_ediv_of_nonneg _ (by decide)]
  omega

theorem natAbs_le_of_beyondRange {fraction : List Nat}
    (h : beyondRange fraction = .ok (some n)) : n.natAbs ≤ millisLimit := by
  unfold beyondRange at h
  split at h <;> cases h

theorem natAbs_le_of_millisOfDateTime {t : DateTime} {fraction : List Nat}
    (h : millisOfDateTime t fraction = .ok (some n)) : n.natAbs ≤ millisLimit := by
  unfold millisOfDateTime at h
  split at h
  next hrange =>
    cases h
    exact natAbs_millisOfInstant_le hrange.1
  next => exact natAbs_le_of_beyondRange h

theorem natAbs_le_of_millis? (h : millis? text = .ok (some n)) : n.natAbs ≤ millisLimit := by
  cases text with
  | none => cases h
  | some s =>
    unfold millis? at h
    dsimp only at h
    split at h
    · exact natAbs_le_of_millisOfDateTime h
    · exact natAbs_le_of_beyondRange h
    · cases h
    · cases h

theorem mem_of_latest {times : List (Option Int)} (h : latest times = some n) :
    some n ∈ times := by
  obtain ⟨time, htime, heq⟩ := List.mem_filterMap.mp (List.max?_mem h)
  rwa [← heq]

end Timestamp

namespace Summary

variable {run : Run} {s : Summary} {n : Int}

/-- What the title and the times of a summary are made from. -/
theorem exists_sources (h : ofRun run = .ok s) : ∃ issues text results,
    s.title = Status.label s.phase issues ∧ Timestamp.millis? text = .ok s.startTime ∧
      endTimeOf results = .ok s.endTime := by
  unfold ofRun at h
  cases hstatus : run.snapshot.status with
  | none =>
    rw [hstatus] at h
    obtain ⟨start, hstart, hs⟩ := Traversal.bind_eq_ok_iff.mp h
    cases hs
    exact ⟨.none, run.createdAt, [], rfl, hstart, rfl⟩
  | some status =>
    rw [hstatus] at h
    obtain ⟨start, hstart, h⟩ := Traversal.bind_eq_ok_iff.mp h
    obtain ⟨finish, hfinish, hs⟩ := Traversal.bind_eq_ok_iff.mp h
    cases hs
    exact ⟨_, _, status.results, rfl, hstart, hfinish⟩

theorem natAbs_le_of_ofRun (h : ofRun run = .ok s) :
    (s.startTime = some n → n.natAbs ≤ Timestamp.millisLimit) ∧
    (s.endTime = some n → n.natAbs ≤ Timestamp.millisLimit) := by
  obtain ⟨issues, text, results, -, hstart, hend⟩ := exists_sources h
  constructor
  · intro hn
    rw [hn] at hstart
    exact Timestamp.natAbs_le_of_millis? hstart
  · -- The end is the time of one of the measurements.
    intro hn
    obtain ⟨times, htimes, hlatest⟩ := endTimeOf_eq_ok_iff.mp hend
    rw [hn] at hlatest
    obtain ⟨m, -, hm⟩ :=
      Traversal.exists_of_mem_right htimes (Timestamp.mem_of_latest hlatest.symm)
    exact Timestamp.natAbs_le_of_millis? hm

end Summary

theorem Numeral.isWritable_of_natAbs_le {n : Int} (h : n.natAbs ≤ Timestamp.millisLimit) :
    isWritable n = true := by
  have hlt : n.natAbs < Nat.pow 10 13 := h.trans_lt (by decide)
  exact isWritable_of_natAbs_lt hlt (by decide)

theorem Json.isWritable_ofInt? {n : Option Int}
    (h : ∀ i, n = some i → i.natAbs ≤ Timestamp.millisLimit) : (ofInt? n).isWritable = true := by
  cases n with
  | none => rfl
  | some i =>
    rw [ofInt?, ofOption, isWritable]
    exact Numeral.isWritable_of_natAbs_le (h i rfl)

/-- A summary can be written, whatever the run. -/
theorem Summary.isWritable_toJson {run : Run} {s : Summary} (h : ofRun run = .ok s) :
    s.toJson.isWritable = true := by
  have htext (t : Option String) : (Json.ofText? t).isWritable = true := by cases t <;> rfl
  have hstart := Json.isWritable_ofInt? fun n hn => (natAbs_le_of_ofRun h).1 hn
  have hend := Json.isWritable_ofInt? fun n hn => (natAbs_le_of_ofRun h).2 hn
  rw [toJson, Json.isWritable]
  simp only [Json.areWritableFields, htext, hstart, hend, Json.isWritable, Bool.true_and]

end RunCharts
