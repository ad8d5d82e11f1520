import RunCharts.Proofs.Binary64.Order
import RunCharts.Proofs.Csv.Reader
import RunCharts.Proofs.Report.Folder

/-!
# Tables without loss

What is read of a metric's table is what was put into it, field by field, whatever the texts are.
A table is written unless one of its texts holds half of a surrogate pair.
-/

namespace RunCharts

theorem Text.firstStretch?_eq_none_iff {cs : List Char} :
    firstStretch? cs = none ↔ ∀ c ∈ cs, isStandIn c = false := by
  have hdrop : cs.drop (cs.takeWhile fun c => !isStandIn c).length =
      cs.dropWhile fun c => !isStandIn c := by
    conv =>
      lhs; arg 2
      rw [← List.takeWhile_append_dropWhile (p := fun c => !isStandIn c) (l := cs)]
    exact List.drop_left
  have hall : (cs.dropWhile fun c => !isStandIn c) = [] ↔ ∀ c ∈ cs, isStandIn c = false := by
    simp only [List.dropWhile_eq_nil_iff, Bool.not_eq_true']
  unfold firstStretch?
  rw [← hall]
  dsimp only
  rw [hdrop]
  cases cs.dropWhile fun c => !isStandIn c <;> simp

theorem Text.mem_join_iff {sep c : Char} {pieces : List (List Char)} (hc : c ≠ sep) :
    c ∈ join sep pieces ↔ ∃ piece ∈ pieces, c ∈ piece := by
  induction pieces with
  | nil => simp [join]
  | cons piece pieces ih =>
    cases pieces with
    | nil => simp [join]
    | cons next pieces =>
      rw [join, List.mem_append, List.mem_cons, ih]
      · simp [hc]
      · simp

theorem Csv.mem_writeField_iff {field : List Char} {c : Char} (hc : c ≠ '"') :
    c ∈ writeField field ↔ c ∈ field := by
  have hdouble : c ∈ doubleQuotes field ↔ c ∈ field := by
    simp only [doubleQuotes, List.mem_flatMap]
    constructor
    · rintro ⟨d, hd, hmem⟩
      split at hmem
      · simp [hc] at hmem
      · rwa [List.mem_singleton.mp hmem]
    · intro hmem
      exact ⟨c, hmem, by simp [hc]⟩
  unfold writeField
  split
  · simp [hc, hdouble]
  · rfl

namespace Table

open Measurement

/-- What is shown of an entry under its key: "null" where there is nothing, a whole number without
a point, any other number as where it stands alone, and a text as it is. -/
def shownEntry : Cell → String
  | .none => "null"
  | .number x =>
    if x.isFinite = true ∧ (Binary64.unitsPerOne : Int) ∣ x.units then
      toString (x.units / Binary64.unitsPerOne)
    else displayStyle.text x
  | .text s => s

/-- The field of a display. The entries under keys stand in one field, each with its key. -/
def shown : Display → String
  | .single .none => ""
  | .single (.number x) => displayStyle.text x
  | .single (.text s) => s
  | .keyed entries => ", ".intercalate (entries.map fun e => e.1 ++ ": " ++ shownEntry e.2)

/-- The fields of a row. What is missing is empty. -/
def rowFields (name : String) (row : Row) : List String :=
  [name, row.measurement.phase, row.measurement.startedAt.getD "",
    row.measurement.finishedAt.getD "", shown row.reading.table, shown row.reading.chart,
    row.measurement.message.getD ""]

variable {m : Metric}

theorem intText_eq (n : Int) : intText n = toString n := by
  cases n with
  | ofNat n =>
    simp [intText, Json.intChars, NumberStyle.signed, NumberStyle.digits]
    rfl
  | negSucc n =>
    simp [intText, Json.intChars, NumberStyle.signed, NumberStyle.digits]
    rfl

theorem entryText_eq (c : Cell) : entryText c = shownEntry c := by
  cases c with
  | number x =>
    rw [entryText, Json.floatPlain, Binary64.toInt?_eq, shownEntry]
    split
    · rename_i n hn
      split at hn
      · rename_i hwhole
        rw [if_pos hwhole, ← Option.some.inj hn, intText_eq]
      · cases hn
    · rename_i hn
      split at hn
      · cases hn
      · rename_i hfraction
        rw [if_neg hfraction]
  | none | text s => rfl

theorem field_displayCell (d : Display) : field (displayCell d) = shown d := by
  cases d with
  | single c => cases c <;> rfl
  | keyed entries => simp only [displayCell, field, shown, entryText_eq]

theorem field_textCell (s : Option String) : field (textCell s) = s.getD "" := by
  cases s <;> rfl

theorem records_eq (m : Metric) :
    records m = columns :: m.series.rows.map (rowFields m.name) := by
  rw [records, rows, List.map_map]
  congr 1
  apply List.map_congr_left
  intro row _
  simp only [Function.comp, rowCells, List.map_cons, List.map_nil, field_displayCell,
    field_textCell]
  rfl

theorem brokenRecord?_eq_none_iff {record : List String} :
    brokenRecord? record = none ↔ ∀ s ∈ record, Text.isWhole s = true := by
  have hseparators : ∀ c, Text.isStandIn c = true → c ≠ ',' ∧ c ≠ '"' ∧ c ≠ '\n' := by
    intro c hc
    refine ⟨?_, ?_, ?_⟩ <;> rintro rfl <;> cases hc
  rw [brokenRecord?, Text.firstStretch?_eq_none_iff]
  constructor
  · intro h s hs
    rw [Text.isWhole, List.all_eq_true]
    intro c hc
    rw [Bool.not_eq_true', ← Bool.not_eq_true]
    intro hstandIn
    obtain ⟨hcomma, hquote, -⟩ := hseparators c hstandIn
    have hmem : c ∈ Csv.writeRecord (record.map String.toList) := by
      rw [Csv.writeRecord, List.mem_append, Text.mem_join_iff hcomma]
      refine .inl ⟨Csv.writeField s.toList, ?_, (Csv.mem_writeField_iff hquote).mpr hc⟩
      exact List.mem_map_of_mem (List.mem_map_of_mem hs)
    rw [h c hmem] at hstandIn
    cases hstandIn
  · intro h c hc
    rw [← Bool.not_eq_true]
    intro hstandIn
    obtain ⟨hcomma, hquote, hnewline⟩ := hseparators c hstandIn
    rw [Csv.writeRecord, List.mem_append, Text.mem_join_iff hcomma, List.mem_singleton] at hc
    rcases hc with ⟨piece, hpiece, hc⟩ | hc
    · rw [List.map_map] at hpiece
      obtain ⟨s, hs, rfl⟩ := List.mem_map.mp hpiece
      have hwhole := List.all_eq_true.mp (h s hs) c ((Csv.mem_writeField_iff hquote).mp hc)
      rw [hstandIn] at hwhole
      cases hwhole
    · exact hnewline hc

/-- A cell whose field is whole is not broken. -/
theorem brokenCell?_eq_none {c : Cell} (h : Text.isWhole (field c) = true) :
    brokenCell? c = none := by
  cases c with
  | text s =>
    apply Text.firstStretch?_eq_none_iff.mpr
    intro d hd
    exact (Bool.not_eq_true' _).mp (List.all_eq_true.mp h d hd)
  | _ => rfl

theorem fault?_eq_none (h : ∀ record ∈ records m, ∀ s ∈ record, Text.isWhole s = true) :
    fault? m = none := by
  unfold fault?
  rw [List.findSome?_eq_none_iff]
  intro column hcolumn
  obtain ⟨⟨name, i⟩, -, rfl⟩ := List.mem_map.mp hcolumn
  have hcells : ∀ c ∈ (rows m).filterMap (fun r => r[i]?), brokenCell? c = none := by
    intro c hc
    obtain ⟨cells, hcells, hget⟩ := List.mem_filterMap.mp hc
    apply brokenCell?_eq_none
    refine h (cells.map field) ?_ (field c) (List.mem_map_of_mem (List.mem_of_getElem? hget))
    exact List.mem_cons_of_mem _ (List.mem_map_of_mem hcells)
  unfold textFault?
  split
  · rfl
  · rw [List.findSome?_eq_none_iff.mpr hcells]
    rfl

theorem forall_mem_records_iff : (∀ record ∈ records m, ∀ s ∈ record, Text.isWhole s = true) ↔
    ∀ row ∈ m.series.rows, ∀ s ∈ rowFields m.name row, Text.isWhole s = true := by
  rw [records_eq, List.forall_mem_cons, List.forall_mem_map]
  exact and_iff_right (by decide)

/-- A table is written as a whole if and only if its texts are. -/
theorem write_csv_done_iff : write .csv m = ⟨some (some (csv m)), none⟩ ↔
    ∀ row ∈ m.series.rows, ∀ s ∈ rowFields m.name row, Text.isWhole s = true := by
  rw [← forall_mem_records_iff]
  constructor
  · intro h
    unfold write at h
    cases hfault : fault? m with
    | some fault => simp [hfault] at h
    | none =>
      rw [hfault] at h
      have hdone : ((records m).findSome? brokenRecord?).map Fault.unencodable = none :=
        congrArg Written.fault h
      rw [Option.map_eq_none_iff, List.findSome?_eq_none_iff] at hdone
      exact fun record hrecord => brokenRecord?_eq_none_iff.mp (hdone record hrecord)
  · intro h
    apply write_csv_of_done
    have hbroken : (records m).findSome? brokenRecord? = none :=
      List.findSome?_eq_none_iff.mpr fun record hrecord =>
        brokenRecord?_eq_none_iff.mpr (h record hrecord)
    unfold write
    rw [fault?_eq_none h]
    exact congrArg (Option.map Fault.unencodable) hbroken

/-- What is read of a table: the names of the columns, and for each row its seven fields. The file
is written as a whole if and only if all of these texts consist of characters. -/
theorem read_csv (m : Metric) :
    Csv.read (csv m).toList =
      (["metric", "phase", "started_at", "finished_at", "value", "chart_value", "message"] ::
        m.series.rows.map (rowFields m.name)).map (fun record => record.map String.toList) ∧
    (Csv.read (csv m).toList).length = m.series.rows.length + 1 ∧
    (∀ record ∈ Csv.read (csv m).toList, record.length = 7) ∧
    (write .csv m = ⟨some (some (csv m)), none⟩ ↔
      ∀ row ∈ m.series.rows, ∀ s ∈ rowFields m.name row, Text.isWhole s = true) := by
  have hne : ∀ fields ∈ (records m).map (fun record => record.map String.toList), fields ≠ [] := by
    rw [List.forall_mem_map, records_eq, List.forall_mem_cons, List.forall_mem_map]
    exact ⟨nofun, fun row _ => nofun⟩
  have hread : Csv.read (csv m).toList =
      (records m).map fun record => record.map String.toList := by
    rw [csv, recordsText, String.toList_ofList, Csv.read_write hne]
  rw [hread, records_eq]
  refine ⟨rfl, ?_, ?_, write_csv_done_iff⟩
  · rw [List.length_map, List.length_cons, List.length_map]
  · rw [List.forall_mem_map, List.forall_mem_cons, List.forall_mem_map]
    exact ⟨rfl, fun row _ => rfl⟩

example : shown (.keyed [("p95", .number (.ofRatio 18046 100)), ("p99", .number (.ofInt 390)),
    ("max", .none)]) = "p95: 180.46, p99: 390, max: null" := by
  decide +kernel

end Table

end RunCharts
