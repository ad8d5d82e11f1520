import RunCharts.Measurement.Reading
import RunCharts.Proofs.Traversal

/-!
# The forms of a reading

Everything that the reading of a decoded value can be, with the value and the keys that lead to it.
-/

namespace RunCharts

theorem Json.isFinite_of_finite? {j : Json} {x : Binary64} (h : j.finite? = some x) :
    x.isFinite = true := by
  cases j with
  | int n =>
    rw [Json.finite?] at h
    split at h
    · rename_i hfinite
      rw [← Option.some.inj h]
      exact hfinite
    · cases h
  | float y =>
    rw [Json.finite?] at h
    split at h
    · rename_i hfinite
      rw [← Option.some.inj h]
      exact hfinite
    · cases h
  | null | bool _ | str _ | arr _ | obj _ => cases h

theorem Json.exists_of_cell_eq_number {j : Json} {x : Binary64} (h : j.cell = .number x) :
    ∃ y, j.finite? = some y ∧ x = y.toHundredths := by
  unfold Json.cell at h
  split at h
  · rename_i y hy
    cases h
    exact ⟨y, hy, rfl⟩
  · split at h <;> cases h

namespace Measurement

variable {keys : List String} {j : Json} {r : Reading}

/-- How a value comes to its reading. -/
inductive Reads (keys : List String) : Json → Reading → Prop
  | number {j : Json} {x : Binary64} (hx : j.finite? = some x) :
    Reads keys j (.both true (.single (.number x.toHundredths)))
  | null : Reads keys .null .gap
  | item {key : String} {first : Json} {items : List Json} {i : Nat} (hkeys : keys = [key])
    (hi : index? key = .ok (some i)) :
    Reads keys (.arr (first :: items)) (readItem key ((first :: items)[i]?.getD .null))
  | head {first : Json} {items : List Json} (hkeys : keys.length ≠ 1) :
    Reads keys (.arr (first :: items)) ⟨first.isChartable,
      if first.isChartable then .single first.cell else .none,
      .text (Json.arr (first :: items)).plain⟩
  | fields {fields : List (String × Json)} (hkeys : keys ≠ []) :
    Reads keys (.obj fields) (readObject keys fields)
  | other {j : Json} : Reads keys j (.tableOnly (.text j.plain))

theorem readArray_reads {first : Json} {items : List Json}
    (h : readArray keys first (first :: items) = .ok r) :
    Reads keys (.arr (first :: items)) r := by
  match keys with
  | [key] =>
    cases hindex : index? key with
    | error e =>
      rw [readArray, hindex] at h
      cases h
    | ok i =>
      rw [readArray, hindex] at h
      cases i with
      | none =>
        cases h
        exact .other
      | some i =>
        cases h
        exact .item rfl hindex
  | [] | _ :: _ :: _ =>
    cases h
    exact .head (by simp)

theorem readForm_reads (h : readForm keys j = .ok r) : Reads keys j r := by
  unfold readForm at h
  split at h
  · rename_i x hx
    cases h
    exact .number hx
  · split at h
    · cases h
      exact .null
    · exact readArray_reads h
    · split at h
      · cases h
        exact .other
      · rename_i hkeys
        cases h
        exact .fields (by simpa using hkeys)
    · cases h
      exact .other

theorem readForm_of_readJson (h : readJson keys j = .ok r) : readForm keys j = .ok r := by
  obtain ⟨r', hform, hshown⟩ := Traversal.bind_eq_ok_iff.mp h
  split at hshown <;> cases hshown
  exact hform

theorem readJson_reads (h : readJson keys j = .ok r) : Reads keys j r :=
  readForm_reads (readForm_of_readJson h)

theorem read_eq_ok_cases {value : Option String} (h : read keys value = .ok r) :
    r = .gap ∨ ∃ raw j, value = some raw ∧ decode raw = .ok j ∧ Reads keys j r := by
  match value with
  | none =>
    cases h
    exact .inl rfl
  | some raw =>
    by_cases hraw : raw = ""
    · rw [read, if_pos hraw] at h
      cases h
      exact .inl rfl
    · rw [read, if_neg hraw] at h
      cases hd : decode raw with
      | error e =>
        rw [hd] at h
        cases h
      | ok j =>
        rw [hd] at h
        exact .inr ⟨raw, j, rfl, hd, readJson_reads h⟩

/-- A single number in the chart has been rounded to hundredths. -/
theorem Reads.exists_of_single (h : Reads keys j r) {x : Binary64}
    (hx : r.chart = .single (.number x)) :
    ∃ y : Binary64, y.isFinite = true ∧ x = y.toHundredths := by
  cases h with
  | number hy =>
    cases hx
    exact ⟨_, Json.isFinite_of_finite? hy, rfl⟩
  | null => cases hx
  | item hkeys hi =>
    unfold readItem at hx
    split at hx <;> cases hx
  | @head first items hkeys =>
    dsimp only at hx
    split at hx
    · obtain ⟨y, hy, hxy⟩ := Json.exists_of_cell_eq_number (Display.single.inj hx)
      exact ⟨y, Json.isFinite_of_finite? hy, hxy⟩
    · cases hx
  | fields hkeys => cases hx
  | other => cases hx

theorem exists_of_read_single {value : Option String} (h : read keys value = .ok r) {x : Binary64}
    (hx : r.chart = .single (.number x)) :
    ∃ y : Binary64, y.isFinite = true ∧ x = y.toHundredths := by
  rcases read_eq_ok_cases h with rfl | ⟨raw, j, -, -, hreads⟩
  · cases hx
  · exact hreads.exists_of_single hx

end Measurement

end RunCharts
