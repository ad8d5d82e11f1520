import RunCharts.Proofs.Json.Trees
import RunCharts.Proofs.Report.Numbers

/-!
# The trees of a report

Whatever a run holds, the trees of its report nest a few brackets deep and no object of them has a
key twice. The keys of a keyed display are the keys of the conditions, each once.
-/

namespace RunCharts

namespace Json

/-- Whether brackets nest so deep at most, and no object has a key twice. -/
structure IsRegular (n : Nat) (j : Json) : Prop where
  depth : j.depth ≤ n
  keys : j.hasDistinctKeys = true

variable {n : Nat} {j : Json}

theorem IsRegular.mono {m : Nat} (h : j.IsRegular m) (hmn : m ≤ n) : j.IsRegular n :=
  ⟨h.depth.trans hmn, h.keys⟩

@[simp] theorem isRegular_null : null.IsRegular n := ⟨Nat.zero_le n, rfl⟩

@[simp] theorem isRegular_bool (b : Bool) : (bool b).IsRegular n := ⟨Nat.zero_le n, rfl⟩

@[simp] theorem isRegular_int (i : Int) : (int i).IsRegular n := ⟨Nat.zero_le n, rfl⟩

@[simp] theorem isRegular_float (x : Binary64) : (float x).IsRegular n := ⟨Nat.zero_le n, rfl⟩

@[simp] theorem isRegular_str (s : String) : (str s).IsRegular n := ⟨Nat.zero_le n, rfl⟩

theorem isRegular_arr {items : List Json} (h : ∀ j ∈ items, j.IsRegular n) :
    (arr items).IsRegular (n + 1) := by
  constructor
  · rw [depth]
    exact Nat.succ_le_succ (depthOfItems_le_iff.mpr fun j hj => (h j hj).depth)
  · exact hasDistinctKeys_arr_iff.mpr fun j hj => (h j hj).keys

theorem isRegular_obj {fields : List (String × Json)} (hkeys : (fields.map Prod.fst).Nodup)
    (h : ∀ f ∈ fields, f.2.IsRegular n) : (obj fields).IsRegular (n + 1) := by
  constructor
  · rw [depth]
    exact Nat.succ_le_succ (depthOfFields_le_iff.mpr fun f hf => (h f hf).depth)
  · exact hasDistinctKeys_obj_iff.mpr ⟨hkeys, fun f hf => (h f hf).keys⟩

theorem isRegular_ofOption {α : Type} {f : α → Json} (h : ∀ a, (f a).IsRegular n) (a : Option α) :
    (ofOption f a).IsRegular n := by
  cases a with
  | none => exact isRegular_null
  | some a => exact h a

@[simp] theorem isRegular_ofText? (s : Option String) : (ofText? s).IsRegular n := by
  cases s with
  | none => exact isRegular_null
  | some s => exact isRegular_str s

@[simp] theorem isRegular_ofInt? (i : Option Int) : (ofInt? i).IsRegular n :=
  isRegular_ofOption isRegular_int i

@[simp] theorem isRegular_ofTexts (texts : List String) : (ofTexts texts).IsRegular (n + 1) :=
  isRegular_arr (List.forall_mem_map.mpr fun s _ => isRegular_str s)

@[simp] theorem isRegular_ofNumbers (xs : List Binary64) : (ofNumbers xs).IsRegular (n + 1) :=
  isRegular_arr (List.forall_mem_map.mpr fun x _ => isRegular_float x)

end Json

namespace Measurement

def Display.keys : Display → List String
  | single _ => []
  | keyed entries => entries.map Prod.fst

variable {keys : List String} {j : Json} {r : Reading} {row : Row} {d : Display}

/-- The keys of a reading differ, in the chart and in the table. -/
theorem Reads.nodup_keys (h : Reads keys j r) (hd : d = r.chart ∨ d = r.table) : d.keys.Nodup := by
  cases h with
  | number hy | null | other => rcases hd with rfl | rfl <;> exact List.nodup_nil
  | item hkeys hi =>
    unfold readItem at hd
    split at hd <;> rcases hd with rfl | rfl
    · exact List.nodup_singleton _
    · exact List.nodup_singleton _
    · exact List.nodup_nil
    · exact List.nodup_singleton _
  | @head first items hkeys =>
    rcases hd with rfl | rfl
    · dsimp only
      split <;> exact List.nodup_nil
    · exact List.nodup_nil
  | fields hkeys => rcases hd with rfl | rfl <;> exact nodup_keys_upsertAll _

theorem nodup_keys_of_toRow {strict : Bool} {m : Measurement} (h : toRow strict keys m = .ok row)
    (hd : d = row.reading.chart ∨ d = row.reading.table) : d.keys.Nodup := by
  rcases toRow_eq_ok_iff.mp h with ⟨reading, hread, rfl⟩ | ⟨hstrict, hm, -⟩
  · rcases read_eq_ok_cases hread with rfl | ⟨raw, j, -, -, hreads⟩
    · rcases hd with rfl | rfl <;> exact List.nodup_nil
    · exact hreads.nodup_keys hd
  · obtain ⟨raw, -, hreading⟩ := tableOnly_of_toRow h hm
    rw [hreading] at hd
    rcases hd with rfl | rfl <;> exact List.nodup_nil

theorem Cell.isRegular_toJson {n : Nat} (c : Cell) : c.toJson.IsRegular n := by
  cases c with
  | none => exact Json.isRegular_null
  | number x => exact Json.isRegular_float x
  | text s => exact Json.isRegular_str s

theorem Display.isRegular_toJson (h : d.keys.Nodup) : d.toJson.IsRegular 1 := by
  cases d with
  | single c => exact c.isRegular_toJson
  | keyed entries =>
    refine Json.isRegular_obj ?_ (List.forall_mem_map.mpr fun e _ => e.2.isRegular_toJson)
    rw [List.map_map]
    exact h

theorem Row.isRegular_toJson (hchart : row.reading.chart.keys.Nodup)
    (htable : row.reading.table.keys.Nodup) : row.toJson.IsRegular 2 := by
  refine Json.isRegular_obj (by simp) ?_
  simp [Display.isRegular_toJson hchart, Display.isRegular_toJson htable]

end Measurement

namespace Metric

variable {settings : Settings} {args : List Argument} {spec : MetricSpec} {name : String}
  {result : MetricResult} {m : Metric}

theorem isRegular_specJson (m : Metric) : m.specJson.IsRegular 2 := by
  refine Json.isRegular_obj (by simp) ?_
  simp [Json.isRegular_ofOption]

theorem isRegular_statusJson (h : ofResult settings args spec name result = .ok m) :
    m.statusJson.IsRegular 4 := by
  have hrows : (Json.arr (m.series.rows.map Measurement.Row.toJson)).IsRegular 3 := by
    refine Json.isRegular_arr (List.forall_mem_map.mpr ?_)
    intro row hrow
    have hread := (Series.ofMeasurements_eq_ok_iff.mp (series_of_ofResult h)).2 row hrow
    exact Measurement.Row.isRegular_toJson (Measurement.nodup_keys_of_toRow hread (.inl rfl))
      (Measurement.nodup_keys_of_toRow hread (.inr rfl))
  have hleast : m.series.leastJson.IsRegular 3 := by
    unfold Series.leastJson
    split
    · exact Json.isRegular_float _
    · exact Json.isRegular_int _
  refine Json.isRegular_obj (by simp) ?_
  simp [hrows, hleast, Json.isRegular_ofOption]

theorem isRegular_toJson (h : ofResult settings args spec name result = .ok m) :
    m.toJson.IsRegular 5 := by
  have hspec : m.specJson.IsRegular 4 := m.isRegular_specJson.mono (by omega)
  have hstatus := isRegular_statusJson h
  refine Json.isRegular_obj (by simp) ?_
  simp [hspec, hstatus]

end Metric

theorem Summary.isRegular_toJson (s : Summary) : s.toJson.IsRegular 1 := by
  refine Json.isRegular_obj (by simp) ?_
  simp

namespace Report

variable {settings : Settings} {run : Run} {r : Report}

theorem isRegular_metrics (h : ofRun settings run = .ok r) :
    (Json.arr (r.metrics.map Metric.toJson)).IsRegular 6 := by
  refine Json.isRegular_arr (List.forall_mem_map.mpr ?_)
  intro m hm
  obtain ⟨args, spec, name, result, hof⟩ := exists_ofResult h hm
  exact Metric.isRegular_toJson hof

theorem isRegular_metricsJson (h : ofRun settings run = .ok r) : r.metricsJson.IsRegular 7 := by
  refine Json.isRegular_obj (by simp) ?_
  simp [isRegular_metrics h]

end Report

end RunCharts
