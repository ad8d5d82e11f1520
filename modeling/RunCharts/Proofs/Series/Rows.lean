import RunCharts.Proofs.Measurement.Faults
import RunCharts.Proofs.Traversal

/-!
# The rows of a series

What a row is, how the rows of a series stand to its measurements, and when there is no series. Two
series over the same measurements are compared row by row, so all later statements about a series
start from `ofMeasurements_eq_ok_iff`.
-/

namespace RunCharts

namespace Measurement

theorem toRow_of_read {strict : Bool} {keys : List String} {m : Measurement} {reading : Reading}
    (h : read keys m.value = .ok reading) : toRow strict keys m = .ok ⟨m, reading, false⟩ := by
  rw [toRow, h]

theorem toRow_of_valueFault? {keys : List String} {m : Measurement} {fault : Fault}
    (h : m.valueFault? = some fault) :
    toRow false keys m = .ok ⟨m, .tableOnly (rawDisplay m.value), true⟩ := by
  obtain ⟨hread, hfault⟩ := (valueFault?_eq_some_iff_read keys).mp h
  simp [toRow, hread, hfault]

theorem toRow_eq_ok_iff {strict : Bool} {keys : List String} {m : Measurement} {row : Row} :
    toRow strict keys m = .ok row ↔
      (∃ reading, read keys m.value = .ok reading ∧ row = ⟨m, reading, false⟩) ∨
      (strict = false ∧ m.isUndecodable = true ∧
        row = ⟨m, .tableOnly (rawDisplay m.value), true⟩) := by
  constructor
  · intro h
    cases hread : read keys m.value with
    | ok reading =>
      rw [toRow_of_read hread] at h
      cases h
      exact .inl ⟨reading, rfl, rfl⟩
    | error fault =>
      rw [toRow, hread] at h
      cases strict with
      | true => simp at h
      | false =>
        by_cases hfault : fault.isValueFault = true
        · have hvalue := (valueFault?_eq_some_iff_read keys).mpr ⟨hread, hfault⟩
          simp only [hfault, Bool.not_false, Bool.and_self, if_true, Except.ok.injEq] at h
          exact .inr ⟨rfl, by rw [isUndecodable, hvalue]; rfl, h.symm⟩
        · simp [hfault] at h
  · rintro (⟨reading, hread, rfl⟩ | ⟨rfl, hm, rfl⟩)
    · exact toRow_of_read hread
    · obtain ⟨fault, hfault⟩ := Option.isSome_iff_exists.mp hm
      exact toRow_of_valueFault? hfault

theorem toRow_eq_error_iff {strict : Bool} {keys : List String} {m : Measurement} {fault : Fault} :
    toRow strict keys m = .error fault ↔
      read keys m.value = .error fault ∧ (strict = true ∨ fault.isValueFault = false) := by
  rw [toRow]
  cases read keys m.value with
  | ok reading => simp
  | error e =>
    cases strict <;> cases he : e.isValueFault <;> simp [he] <;> rintro rfl <;> simp [he]

theorem isUndecodable_of_read {keys : List String} {m : Measurement} {reading : Reading}
    (h : read keys m.value = .ok reading) : m.isUndecodable = false := by
  cases hm : m.valueFault? with
  | none => rw [isUndecodable, hm]; rfl
  | some fault =>
    rw [((valueFault?_eq_some_iff_read keys).mp hm).1] at h
    cases h

section

variable {strict : Bool} {keys : List String} {m : Measurement} {row : Row}

theorem measurement_of_toRow (h : toRow strict keys m = .ok row) : row.measurement = m := by
  rcases toRow_eq_ok_iff.mp h with ⟨reading, -, rfl⟩ | ⟨-, -, rfl⟩ <;> rfl

/-- A row that could not be decoded stands in the table only, as its text. -/
theorem tableOnly_of_toRow (h : toRow strict keys m = .ok row) (hm : m.isUndecodable = true) :
    ∃ raw, m.value = some raw ∧ row.reading = .tableOnly (.text raw) := by
  rcases toRow_eq_ok_iff.mp h with ⟨reading, hread, -⟩ | ⟨-, -, rfl⟩
  · rw [isUndecodable_of_read hread] at hm
    cases hm
  · obtain ⟨fault, hfault⟩ := Option.isSome_iff_exists.mp hm
    obtain ⟨raw, hvalue, -, -, -⟩ := valueFault?_eq_some_iff.mp hfault
    refine ⟨raw, hvalue, ?_⟩
    rw [hvalue]
    rfl

end

end Measurement

namespace Series

open Measurement

variable {strict : Bool} {keys : List String} {ms : List Measurement} {s : Series}

theorem ofMeasurements_eq_ok_iff_mapM {rows : List Row} :
    ofMeasurements strict keys ms = .ok ⟨rows⟩ ↔ ms.mapM (toRow strict keys) = .ok rows := by
  rw [ofMeasurements]
  cases ms.mapM (toRow strict keys) <;> simp [Except.map]

theorem ofMeasurements_eq_ok_iff : ofMeasurements strict keys ms = .ok s ↔
    s.rows.map Row.measurement = ms ∧
      ∀ row ∈ s.rows, toRow strict keys row.measurement = .ok row := by
  obtain ⟨rows⟩ := s
  rw [ofMeasurements_eq_ok_iff_mapM, Traversal.mapM_eq_ok_iff]
  constructor
  · intro h
    induction h with
    | nil => simp
    | cons hrow _ ih =>
      have hm := measurement_of_toRow hrow
      refine ⟨by rw [List.map_cons, hm, ih.1], ?_⟩
      intro row hmem
      rcases List.mem_cons.mp hmem with rfl | hmem
      · rwa [hm]
      · exact ih.2 row hmem
  · rintro ⟨rfl, hrows⟩
    rw [List.forall₂_map_left_iff, List.forall₂_same]
    exact hrows

theorem ofMeasurements_eq_error_iff {fault : Fault} : ofMeasurements strict keys ms = .error fault ↔
    ∃ before m after, ms = before ++ m :: after ∧
      (∀ m' ∈ before, ∃ row, toRow strict keys m' = .ok row) ∧
      toRow strict keys m = .error fault := by
  rw [← Traversal.mapM_eq_error_iff, ofMeasurements]
  cases ms.mapM (toRow strict keys) <;> simp [Except.map]

theorem exists_ofMeasurements_iff : (∃ s, ofMeasurements strict keys ms = .ok s) ↔
    ∀ m ∈ ms, ∃ row, toRow strict keys m = .ok row := by
  rw [← Traversal.exists_mapM_ok_iff]
  unfold ofMeasurements
  cases ms.mapM (toRow strict keys) <;> simp [Except.map]

end Series

end RunCharts
