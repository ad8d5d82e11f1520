import RunCharts.Proofs.Binary64.Hundredths
import RunCharts.Proofs.Entries
import RunCharts.Proofs.Measurement.Readings
import RunCharts.Proofs.Series.Bounds

/-!
# The numbers that are shown

A display shows one number, or some under the keys of the conditions. Whatever the form of a
reading, each of its numbers is a finite number of the value, rounded to hundredths.
-/

namespace RunCharts

namespace Measurement

def Cell.number? : Cell → Option Binary64
  | number x => some x
  | _ => Option.none

def Display.numbers : Display → List Binary64
  | single c => c.number?.toList
  | keyed entries => entries.filterMap fun e => e.2.number?

variable {keys : List String} {j : Json} {r : Reading} {x : Binary64} {row : Row}

theorem Cell.number?_eq_some_iff {c : Cell} : c.number? = some x ↔ c = .number x := by
  cases c <;> simp [number?]

theorem Display.mem_numbers_single {c : Cell} :
    x ∈ (Display.single c).numbers ↔ c = .number x := by
  rw [numbers, Option.mem_toList, Cell.number?_eq_some_iff]

theorem Display.mem_numbers_keyed {entries : List (String × Cell)} :
    x ∈ (Display.keyed entries).numbers ↔ ∃ key, (key, Cell.number x) ∈ entries := by
  rw [numbers, List.mem_filterMap]
  constructor
  · rintro ⟨⟨key, c⟩, he, hx⟩
    rw [Cell.number?_eq_some_iff] at hx
    exact ⟨key, hx ▸ he⟩
  · rintro ⟨key, he⟩
    exact ⟨_, he, rfl⟩

theorem isRounded_of_cell (h : j.cell = .number x) : x.IsRounded := by
  obtain ⟨y, hy, rfl⟩ := Json.exists_of_cell_eq_number h
  exact ⟨y, Json.isFinite_of_finite? hy, rfl⟩

theorem isRounded_of_mem_fieldCells {fields : List (String × Json)} {key : String}
    (h : (key, Cell.number x) ∈ fieldCells keys fields) : x.IsRounded := by
  obtain ⟨key', -, he⟩ := List.mem_map.mp (mem_of_mem_upsertAll h)
  have hcell : ((lookup key' fields).map Json.cell).getD .none = .number x := congrArg Prod.snd he
  cases hfield : lookup key' fields with
  | none =>
    rw [hfield] at hcell
    cases hcell
  | some j =>
    rw [hfield] at hcell
    exact isRounded_of_cell hcell

/-- Every number of a reading has been rounded, in the chart and in the table. -/
theorem Reads.isRounded (h : Reads keys j r) (hx : x ∈ r.chart.numbers ∨ x ∈ r.table.numbers) :
    x.IsRounded := by
  cases h with
  | number hy =>
    rw [Reading.both, or_self, Display.mem_numbers_single] at hx
    cases hx
    exact ⟨_, Json.isFinite_of_finite? hy, rfl⟩
  | null => simp [Reading.gap, Display.numbers, Cell.number?] at hx
  | item hkeys hi =>
    unfold readItem at hx
    split at hx
    · rw [Reading.both, or_self, Display.mem_numbers_keyed] at hx
      obtain ⟨key, he⟩ := hx
      exact isRounded_of_cell (Prod.mk.inj (List.mem_singleton.mp he)).2.symm
    · simp [Reading.tableOnly, Display.numbers, Cell.number?] at hx
  | @head first items hkeys =>
    rcases hx with hx | hx
    · by_cases hfirst : first.isChartable = true
      · rw [if_pos hfirst, Display.mem_numbers_single] at hx
        exact isRounded_of_cell hx
      · rw [if_neg hfirst, Display.mem_numbers_single] at hx
        cases hx
    · rw [Display.mem_numbers_single] at hx
      cases hx
  | fields hkeys =>
    rw [readObject, Reading.both, or_self, Display.mem_numbers_keyed] at hx
    obtain ⟨key, he⟩ := hx
    exact isRounded_of_mem_fieldCells he
  | other => simp [Reading.tableOnly, Display.numbers, Cell.number?] at hx

theorem isRounded_of_read {value : Option String} (h : read keys value = .ok r)
    (hx : x ∈ r.chart.numbers ∨ x ∈ r.table.numbers) : x.IsRounded := by
  rcases read_eq_ok_cases h with rfl | ⟨raw, j, -, -, hreads⟩
  · simp [Reading.gap, Display.numbers, Cell.number?] at hx
  · exact hreads.isRounded hx

theorem isRounded_of_toRow {strict : Bool} {m : Measurement} (h : toRow strict keys m = .ok row)
    (hx : x ∈ row.reading.chart.numbers ∨ x ∈ row.reading.table.numbers) : x.IsRounded := by
  cases hm : m.isUndecodable with
  | true =>
    obtain ⟨raw, -, hreading⟩ := tableOnly_of_toRow h hm
    rw [hreading] at hx
    simp [Reading.tableOnly, Display.numbers, Cell.number?] at hx
  | false =>
    rcases toRow_eq_ok_iff.mp h with ⟨reading, hread, rfl⟩ | ⟨-, hm', -⟩
    · exact isRounded_of_read hread hx
    · rw [hm'] at hm
      cases hm

end Measurement

namespace Series

open Measurement

variable {strict : Bool} {keys : List String} {ms : List Measurement} {s : Series} {row : Row}
  {x : Binary64}

/-- Every number in the rows of a series has been rounded. -/
theorem isRounded_of_mem_rows (h : ofMeasurements strict keys ms = .ok s) (hrow : row ∈ s.rows)
    (hx : x ∈ row.reading.chart.numbers ∨ x ∈ row.reading.table.numbers) : x.IsRounded :=
  isRounded_of_toRow ((ofMeasurements_eq_ok_iff.mp h).2 row hrow) hx

theorem isRounded_of_single (h : ofMeasurements strict keys ms = .ok s) (hrow : row ∈ s.rows)
    (hchart : row.reading.chart = .single (.number x)) : x.IsRounded := by
  apply isRounded_of_mem_rows h hrow
  left
  rw [hchart, Display.mem_numbers_single]

/-- The numbers that move the bounds are those that stand alone in the chart of a row that it can
show. -/
theorem mem_numbers_iff (h : ofMeasurements strict keys ms = .ok s) : x ∈ s.numbers ↔
    ∃ row ∈ s.rows, row.reading.canChart = true ∧ row.reading.chart = .single (.number x) := by
  constructor
  · intro hx
    obtain ⟨row, hrow, hnumber⟩ := List.mem_filterMap.mp hx
    obtain ⟨hcan, hchart, -⟩ := number?_eq_some_iff.mp hnumber
    exact ⟨row, hrow, hcan, hchart⟩
  · rintro ⟨row, hrow, hcan, hchart⟩
    have hfinite := (isRounded_of_single h hrow hchart).isFinite
    exact List.mem_filterMap.mpr ⟨row, hrow, number?_eq_some_iff.mpr ⟨hcan, hchart, hfinite⟩⟩

theorem isRounded_of_mem_numbers (h : ofMeasurements strict keys ms = .ok s)
    (hx : x ∈ s.numbers) : x.IsRounded := by
  obtain ⟨row, hrow, -, hchart⟩ := (mem_numbers_iff h).mp hx
  exact isRounded_of_single h hrow hchart

end Series

end RunCharts
