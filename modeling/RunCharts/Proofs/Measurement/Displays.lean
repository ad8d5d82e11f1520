import RunCharts.Proofs.Measurement.Faults
import RunCharts.Proofs.Measurement.Numbers

/-!
# What a chart relies on

Of all that a reading could hold, little occurs. The chart has a gap, a finite number, or a cell
under each key; the table repeats what is charted, or it has a text. Whether the chart can show a
reading is seen from the cells.
-/

namespace RunCharts

namespace Measurement

def Cell.IsPoint (c : Cell) : Prop := c = .none ∨ ∃ x : Binary64, x.isFinite = true ∧ c = .number x

end Measurement

namespace Json

variable {j : Json}

theorem isPoint_cell (h : j.isChartable = true) : j.cell.IsPoint := by
  cases hj : j.finite? with
  | some x =>
    have hcell : j.cell = .number x.toHundredths := by
      unfold cell
      rw [hj]
    exact .inr ⟨_, (Measurement.isRounded_of_cell hcell).isFinite, hcell⟩
  | none =>
    cases j with
    | null => exact .inl rfl
    | bool _ | int _ | float _ | str _ | arr _ | obj _ => simp [isChartable, hj] at h

theorem exists_text_of_cell (h : j.isChartable = false) : ∃ s, j.cell = .text s := by
  have hj : j.finite? = none := by
    cases j with
    | null => cases h
    | bool _ | int _ | float _ | str _ | arr _ | obj _ => simpa [isChartable] using h
  unfold cell
  rw [hj]
  cases j with
  | null => cases h
  | bool _ | int _ | float _ | str _ | arr _ | obj _ => exact ⟨_, rfl⟩

end Json

namespace Measurement

variable {keys : List String} {fields : List (String × Json)} {key : String} {c : Cell} {j : Json}
  {r : Reading} {value : Option String}

/-! ### The cells of an object -/

theorem keys_fieldCells (keys : List String) (fields : List (String × Json)) :
    (fieldCells keys fields).map Prod.fst = keys.eraseDups := by
  rw [fieldCells, keys_upsertAll, List.map_map]
  exact congrArg List.eraseDups (List.map_id keys)

theorem mem_fieldCells_iff : (key, c) ∈ fieldCells keys fields ↔
    key ∈ keys ∧ c = ((lookup key fields).map Json.cell).getD .none := by
  have hcell : ∀ c', (key, c') ∈ fieldCells keys fields →
      c' = ((lookup key fields).map Json.cell).getD .none := by
    intro c' hmem
    obtain ⟨key', -, he⟩ := List.mem_map.mp (mem_of_mem_upsertAll hmem)
    cases he
    rfl
  have hkey : key ∈ keys ↔ key ∈ (fieldCells keys fields).map Prod.fst := by
    rw [keys_fieldCells, List.mem_eraseDups]
  constructor
  · intro hmem
    exact ⟨hkey.mpr (List.mem_map_of_mem hmem), hcell c hmem⟩
  · rintro ⟨hmem, rfl⟩
    obtain ⟨⟨key', c'⟩, he, rfl⟩ := List.mem_map.mp (hkey.mp hmem)
    rwa [← hcell c' he]

theorem fieldCells_ne_nil (hkeys : keys ≠ []) : fieldCells keys fields ≠ [] := by
  obtain ⟨key, hkey⟩ := List.exists_mem_of_ne_nil keys hkeys
  exact List.ne_nil_of_mem (mem_fieldCells_iff.mpr ⟨hkey, rfl⟩)

theorem isPoint_of_mem_fieldCells {e : String × Cell} (h : (readObject keys fields).canChart = true)
    (he : e ∈ fieldCells keys fields) : e.2.IsPoint := by
  obtain ⟨key, c⟩ := e
  obtain ⟨hkey, rfl⟩ := mem_fieldCells_iff.mp he
  rw [readObject, Reading.both, Bool.and_eq_true, List.all_eq_true] at h
  cases hfield : lookup key fields with
  | none => exact .inl rfl
  | some j =>
    have hchartable := h.1 key hkey
    rw [hfield] at hchartable
    exact Json.isPoint_cell hchartable

theorem withheld_fieldCells (h : (readObject keys fields).canChart = false) :
    (∃ e ∈ fieldCells keys fields, ∃ s, e.2 = .text s) ∨
      ∀ e ∈ fieldCells keys fields, e.2 = .none := by
  rw [readObject, Reading.both, Bool.and_eq_false_iff, List.all_eq_false] at h
  rcases h with ⟨key, hkey, hchartable⟩ | hnone
  · left
    cases hfield : lookup key fields with
    | none => simp [hfield] at hchartable
    | some j =>
      obtain ⟨s, hs⟩ := j.exists_text_of_cell (by simpa [hfield] using hchartable)
      refine ⟨(key, .text s), mem_fieldCells_iff.mpr ⟨hkey, ?_⟩, s, rfl⟩
      rw [hfield, Option.map_some, Option.getD_some, hs]
  · right
    intro e he
    rw [Bool.not_eq_false', List.all_eq_true] at hnone
    exact of_decide_eq_true (hnone e he)

/-! ### The forms of a reading -/

/-- What holds of the reading of a value by keys. -/
structure Reading.IsProper (keys : List String) (j : Json) (r : Reading) : Prop where
  /-- No text stands alone in a chart. -/
  chart : r.chart = .none ∨ (∃ x : Binary64, x.isFinite = true ∧ r.chart = .single (.number x)) ∨
    ∃ entries, entries ≠ [] ∧ r.chart = .keyed entries
  points : r.canChart = true → ∀ entries, r.chart = .keyed entries → ∀ e ∈ entries, e.2.IsPoint
  keyed : ∀ entries, r.chart = .keyed entries →
    entries.map Prod.fst = keys.eraseDups ∧ r.table = .keyed entries
  single : ∀ x, r.chart = .single (.number x) → r.canChart = true ∧
    (r.table = .single (.number x) ∨ ∃ items, j = .arr items ∧ r.table = .text j.plain)
  withheld : r.canChart = false → r.chart = .none ∨ ∃ entries, r.chart = .keyed entries ∧
    ((∃ e ∈ entries, ∃ s, e.2 = .text s) ∨ ∀ e ∈ entries, e.2 = .none)
  table_eq_none_iff : r.table = .none ↔ j = .null
  canChart_of_table : r.table = .none → r.canChart = true

theorem isProper_gap : Reading.gap.IsProper keys .null where
  chart := .inl rfl
  points := nofun
  keyed := nofun
  single := by
    rintro x hchart
    cases hchart
  withheld := nofun
  table_eq_none_iff := ⟨fun _ => rfl, fun _ => rfl⟩
  canChart_of_table _ := rfl

theorem isProper_number {x : Binary64} (hj : j ≠ .null) (hx : x.isFinite = true) :
    (Reading.both true (.single (.number x))).IsProper keys j where
  chart := .inr (.inl ⟨x, hx, rfl⟩)
  points := nofun
  keyed := nofun
  single := by
    rintro y hy
    cases hy
    exact ⟨rfl, .inl rfl⟩
  withheld := nofun
  table_eq_none_iff := ⟨nofun, fun h => absurd h hj⟩
  canChart_of_table := nofun

theorem isProper_tableOnly {table : Display} (hj : j ≠ .null) (htable : table ≠ .none) :
    (Reading.tableOnly table).IsProper keys j where
  chart := .inl rfl
  points := nofun
  keyed := nofun
  single := by
    rintro x hchart
    cases hchart
  withheld _ := .inl rfl
  table_eq_none_iff := ⟨fun h => absurd h htable, fun h => absurd h hj⟩
  canChart_of_table h := absurd h htable

theorem isProper_keyed {canChart : Bool} {entries : List (String × Cell)} (hj : j ≠ .null)
    (hne : entries ≠ []) (hkeys : entries.map Prod.fst = keys.eraseDups)
    (hpoints : canChart = true → ∀ e ∈ entries, e.2.IsPoint)
    (hwithheld : canChart = false →
      (∃ e ∈ entries, ∃ s, e.2 = .text s) ∨ ∀ e ∈ entries, e.2 = .none) :
    (Reading.both canChart (.keyed entries)).IsProper keys j where
  chart := .inr (.inr ⟨entries, hne, rfl⟩)
  points := by
    rintro hcan _ hchart
    cases hchart
    exact hpoints hcan
  keyed := by
    rintro _ hchart
    cases hchart
    exact ⟨hkeys, rfl⟩
  single := by
    rintro x hchart
    cases hchart
  withheld hcan := .inr ⟨entries, rfl, hwithheld hcan⟩
  table_eq_none_iff := ⟨nofun, fun h => absurd h hj⟩
  canChart_of_table := nofun

/-- An array is charted by its first item and tabulated as a text. -/
theorem isProper_head {first : Json} {items : List Json} :
    Reading.IsProper keys (.arr items) ⟨first.isChartable,
      if first.isChartable then .single first.cell else .none, .text (Json.arr items).plain⟩ where
  chart := by
    dsimp only
    split
    · rename_i hfirst
      rcases Json.isPoint_cell hfirst with hcell | ⟨x, hx, hcell⟩
      · exact .inl (congrArg Display.single hcell)
      · exact .inr (.inl ⟨x, hx, congrArg Display.single hcell⟩)
    · exact .inl rfl
  points := by
    rintro hfirst entries hchart
    dsimp only at hfirst hchart
    rw [if_pos hfirst] at hchart
    cases hchart
  keyed := by
    rintro entries hchart
    dsimp only at hchart
    split at hchart <;> cases hchart
  single := by
    rintro x hchart
    dsimp only at hchart
    split at hchart
    · rename_i hfirst
      exact ⟨hfirst, .inr ⟨items, rfl, rfl⟩⟩
    · cases hchart
  withheld hfirst := .inl (if_neg (Bool.eq_false_iff.mp hfirst))
  table_eq_none_iff := ⟨nofun, nofun⟩
  canChart_of_table := nofun

theorem isProper_readItem {item : Json} (hj : j ≠ .null) :
    (readItem key item).IsProper [key] j := by
  unfold readItem
  split
  · refine isProper_keyed hj (List.cons_ne_nil _ _) rfl ?_ ?_
    · intro hcan e he
      rw [List.mem_singleton.mp he]
      exact Json.isPoint_cell hcan
    · intro hcan
      exact .inl ⟨_, List.mem_singleton_self _, Json.exists_text_of_cell hcan⟩
  · exact isProper_tableOnly hj nofun

theorem isProper_readObject (hj : j ≠ .null) (hkeys : keys ≠ []) :
    (readObject keys fields).IsProper keys j :=
  isProper_keyed hj (fieldCells_ne_nil hkeys) (keys_fieldCells keys fields)
    (fun hcan _ he => isPoint_of_mem_fieldCells hcan he) withheld_fieldCells

theorem isProper_readJson (h : readJson keys j = .ok r) : r.IsProper keys j := by
  by_cases hj : j = .null
  · subst hj
    cases h
    exact isProper_gap
  · cases readJson_reads h with
    | number hx =>
      exact isProper_number hj (Binary64.IsRounded.isFinite ⟨_, Json.isFinite_of_finite? hx, rfl⟩)
    | null => exact absurd rfl hj
    | item hkeys hi =>
      subst hkeys
      exact isProper_readItem hj
    | head hkeys => exact isProper_head
    | fields hkeys => exact isProper_readObject hj hkeys
    | other => exact isProper_tableOnly hj nofun

/-- The value that a measurement's text stands for. No text and an empty one stand for null. -/
def valueOf (value : Option String) : Except Fault Json :=
  if value.getD "" = "" then .ok .null else decode (value.getD "")

theorem read_eq (keys : List String) (value : Option String) :
    read keys value = (valueOf value).bind (readJson keys) := by
  cases value with
  | none => rfl
  | some raw =>
    dsimp only [read, valueOf, Option.getD_some]
    split <;> rfl

theorem valueOf_eq_null_iff : valueOf value = .ok .null ↔
    value = none ∨ value = some "" ∨ ∃ raw, value = some raw ∧ decode raw = .ok .null := by
  cases value with
  | none => simp [valueOf]
  | some raw =>
    by_cases hraw : raw = ""
    · simp [valueOf, hraw]
    · simp [valueOf, hraw]

/-- The reading of any text has one of the forms that charts and tables are made for. -/
theorem read_isProper (keys : List String) (value : Option String) (r : Reading)
    (h : read keys value = .ok r) : (∃ j, valueOf value = .ok j ∧ r.IsProper keys j) ∧
      (r.table = .none ↔
        value = none ∨ value = some "" ∨ ∃ raw, value = some raw ∧ decode raw = .ok .null) ∧
      ∀ x, x ∈ r.chart.numbers ∨ x ∈ r.table.numbers → x.isFinite = true := by
  have hfinite : ∀ x, x ∈ r.chart.numbers ∨ x ∈ r.table.numbers → x.isFinite = true :=
    fun x hx => (isRounded_of_read h hx).isFinite
  rw [read_eq] at h
  obtain ⟨j, hj, hread⟩ := Traversal.bind_eq_ok_iff.mp h
  have hproper := isProper_readJson hread
  refine ⟨⟨j, hj, hproper⟩, ?_, hfinite⟩
  rw [← valueOf_eq_null_iff, hj, Except.ok.injEq]
  exact hproper.table_eq_none_iff

def outOfRangeText : String := "\x7b\"a\": 2.5, \"b\": 1e400\x7d"

def outOfRangeReading : Reading :=
  .both false (.keyed [("a", .number (.ofRatio 250 100)), ("b", .text "inf")])

theorem outOfRange_isProper :
    read ["a", "b", "a"] (some outOfRangeText) = .ok outOfRangeReading ∧
    ∃ j, valueOf (some outOfRangeText) = .ok j ∧ outOfRangeReading.IsProper ["a", "b", "a"] j := by
  have hread : read ["a", "b", "a"] (some outOfRangeText) = .ok outOfRangeReading := by
    decide +kernel
  exact ⟨hread, (read_isProper _ _ _ hread).1⟩

end Measurement

namespace Series

open Measurement

variable {strict : Bool} {keys : List String} {ms : List Measurement} {s : Series} {row : Row}

theorem isProper_of_mem_rows (h : ofMeasurements strict keys ms = .ok s) (hrow : row ∈ s.rows) :
    row.reading.chart = .none ∨ ∃ j, row.reading.IsProper keys j := by
  rcases toRow_eq_ok_iff.mp ((ofMeasurements_eq_ok_iff.mp h).2 row hrow) with
    ⟨reading, hread, heq⟩ | ⟨-, -, heq⟩
  · rw [heq]
    rw [read_eq] at hread
    obtain ⟨j, -, hjson⟩ := Traversal.bind_eq_ok_iff.mp hread
    exact .inr ⟨j, isProper_readJson hjson⟩
  · rw [heq]
    exact .inl rfl

theorem canChart_of_single (h : ofMeasurements strict keys ms = .ok s) (hrow : row ∈ s.rows)
    {x : Binary64} (hchart : row.reading.chart = .single (.number x)) :
    row.reading.canChart = true := by
  rcases isProper_of_mem_rows h hrow with hgap | ⟨j, hproper⟩
  · rw [hgap] at hchart
    cases hchart
  · exact (hproper.single x hchart).1

/-- A number that stands alone in the chart moves the bounds, since the chart can show it. -/
theorem numbers_eq_nil_iff (h : ofMeasurements strict keys ms = .ok s) : s.numbers = [] ↔
    ∀ row ∈ s.rows, ∀ x, row.reading.chart ≠ .single (.number x) := by
  rw [List.eq_nil_iff_forall_not_mem]
  constructor
  · intro hnone row hrow x hchart
    have hcan := canChart_of_single h hrow hchart
    exact hnone x ((mem_numbers_iff h).mpr ⟨row, hrow, hcan, hchart⟩)
  · intro hrows x hx
    obtain ⟨row, hrow, -, hchart⟩ := (mem_numbers_iff h).mp hx
    exact hrows row hrow x hchart

theorem keys_ne_nil_of_keyed (h : ofMeasurements strict keys ms = .ok s) (hrow : row ∈ s.rows)
    {entries : List (String × Cell)} (hchart : row.reading.chart = .keyed entries) : keys ≠ [] := by
  rcases isProper_of_mem_rows h hrow with hgap | ⟨j, hproper⟩
  · rw [hgap] at hchart
    cases hchart
  · rintro rfl
    have hempty : entries = [] := List.map_eq_nil_iff.mp (hproper.keyed entries hchart).1
    rcases hproper.chart with hgap | ⟨x, -, hsingle⟩ | ⟨entries', hne, hkeyed⟩
    · rw [hgap] at hchart
      cases hchart
    · rw [hsingle] at hchart
      cases hchart
    · rw [hkeyed] at hchart
      cases hchart
      exact hne hempty

end Series

end RunCharts
