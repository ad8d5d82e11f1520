import RunCharts.Proofs.Report.Order
import RunCharts.Proofs.Table.Stem

/-!
# The folder of a report

Files are written one after another, and a later file takes the place of an earlier one of the same
path. The file of a metric's table is named after the stem of the metric's name, so metrics whose
names have one stem share one file, and the last of them is what is left in it.
-/

namespace RunCharts

theorem Table.writeCsv_of_done {m : Metric} (h : (writeCsv m).fault = none) :
    writeCsv m = ⟨some (some (csv m)), none⟩ := by
  have hwhole : ∀ record ∈ records m, brokenRecord? record = none :=
    List.findSome?_eq_none_iff.mp (Option.map_eq_none_iff.mp h)
  have hfront : (records m).takeWhile (fun r => (brokenRecord? r).isNone) = records m := by
    apply List.takeWhile_eq_self_iff.mpr
    intro record hrecord
    rw [hwhole record hrecord]
    rfl
  have hfault : ((records m).findSome? brokenRecord?).map Fault.unencodable = none := h
  unfold writeCsv
  rw [hfront, hfault]
  rfl

theorem Table.write_csv_of_done {m : Metric} (h : (write .csv m).fault = none) :
    write .csv m = ⟨some (some (csv m)), none⟩ := by
  unfold write at h ⊢
  cases hfault : fault? m with
  | some fault =>
    rw [hfault] at h
    cases h
  | none =>
    rw [hfault] at h
    exact writeCsv_of_done h

namespace Report

/-- What is in a folder that was empty once files have been written into it, path by path. -/
def folderOf (files : List OutputFile) : List (List String × Option String) :=
  upsertAll (files.map fun f => (f.path, f.text))

def tablePaths (folder : List (List String × Option String)) : List (List String) :=
  (folder.map Prod.fst).filter fun path => path.head? = some "tables"

def tablePath (m : Metric) : List String :=
  ["tables", Table.fileStem m.name ++ "." ++ TableFormat.csv.name]

def tableFile (m : Metric) : OutputFile := ⟨tablePath m, some (Table.csv m)⟩

def treeFiles (settings : Settings) (r : Report) : List OutputFile :=
  [⟨["summary", "analysis.json"], some (r.summary.toJson.report settings.indent)⟩,
    ⟨metricsPath, some (r.metricsJson.report settings.indent)⟩]

def stems (metrics : List Metric) : List String := metrics.map fun m => Table.fileStem m.name

/-- The last of some metrics that has the stem of a metric. -/
def lastOfStem? (metrics : List Metric) (m : Metric) : Option Metric :=
  (metrics.filter fun m' => Table.fileStem m'.name = Table.fileStem m.name).getLast?

variable {settings : Settings} {run : Run} {r : Report} {m m' : Metric}

theorem untilFault_of_done {steps : List Step} (h : (untilFault steps).2 = none) :
    (∀ step ∈ steps, step.fault = none) ∧
      (untilFault steps).1 = steps.flatMap fun step => step.file.toList := by
  induction steps with
  | nil => exact ⟨nofun, rfl⟩
  | cons step steps ih =>
    cases hfault : step.fault with
    | some fault => simp [untilFault, hfault] at h
    | none =>
      rw [untilFault, hfault] at h ⊢
      obtain ⟨hfaults, hfiles⟩ := ih h
      refine ⟨?_, ?_⟩
      · intro other hother
        rcases List.mem_cons.mp hother with rfl | hother
        · exact hfault
        · exact hfaults other hother
      · rw [List.flatMap_cons, ← hfiles]

theorem treeStep_of_writable {path : List String} {tree : Json} (h : tree.isWritable = true) :
    treeStep settings path tree = ⟨some ⟨path, some (tree.report settings.indent)⟩, none⟩ :=
  if_pos h

theorem treeStep_of_not_writable {path : List String} {tree : Json} (h : tree.isWritable = false) :
    treeStep settings path tree = ⟨none, some .unwritableInteger⟩ := by
  rw [treeStep, h, if_neg Bool.false_ne_true]

theorem treeStep_of_done {path : List String} {tree : Json}
    (h : (treeStep settings path tree).fault = none) :
    (treeStep settings path tree).file = some ⟨path, some (tree.report settings.indent)⟩ := by
  cases hw : tree.isWritable with
  | true => rw [treeStep_of_writable hw]
  | false =>
    rw [treeStep_of_not_writable hw] at h
    cases h

theorem tableStep_of_done (h : (tableStep .csv m).fault = none) :
    (tableStep .csv m).file = some (tableFile m) := by
  have hwrite : Table.write .csv m = ⟨some (some (Table.csv m)), none⟩ := Table.write_csv_of_done h
  unfold tableStep
  rw [hwrite]
  rfl

/-- The files of a report whose writing comes to its end, with tables as comma-separated records. -/
theorem files_of_done (hcsv : settings.tableFormat = .csv) (h : (r.files settings).2 = none) :
    (r.files settings).1 = treeFiles settings r ++ r.metrics.map tableFile := by
  obtain ⟨hfaults, hfiles⟩ := untilFault_of_done h
  rw [steps, hcsv, List.forall_mem_cons, List.forall_mem_cons, List.forall_mem_map] at hfaults
  obtain ⟨hsummary, hmetrics, htables⟩ := hfaults
  have htable : r.metrics.flatMap (fun m => (tableStep .csv m).file.toList) =
      r.metrics.map tableFile := by
    rw [List.map_eq_flatMap]
    apply List.flatMap_congr
    intro m hm
    rw [tableStep_of_done (htables m hm)]
    rfl
  rw [files, hfiles, steps, hcsv, List.flatMap_cons, List.flatMap_cons, List.flatMap_map,
    treeStep_of_done hsummary, treeStep_of_done hmetrics, htable]
  rfl

theorem tablePath_eq_iff :
    tablePath m = tablePath m' ↔ Table.fileStem m.name = Table.fileStem m'.name := by
  unfold tablePath
  rw [List.cons.injEq, List.cons.injEq, String.append_left_inj, String.append_left_inj]
  simp

/-- There are as many paths of tables as there are stems. -/
theorem length_eraseDups_tablePath (metrics : List Metric) :
    (metrics.map tablePath).eraseDups.length = metrics.length ↔ (stems metrics).Nodup := by
  have hlength : (metrics.map tablePath).length = metrics.length := List.length_map ..
  rw [← hlength, length_eraseDups_eq_iff, stems, List.Nodup, List.Nodup, List.pairwise_map,
    List.pairwise_map]
  simp only [ne_eq, tablePath_eq_iff]

theorem head?_of_mem_treeFiles {path : List String}
    (h : path ∈ (treeFiles settings r).map OutputFile.path) : path.head? = some "summary" := by
  rcases List.mem_cons.mp h with rfl | h
  · rfl
  · rw [List.mem_singleton.mp h]
    rfl

theorem head?_of_mem_tableFiles {path : List String}
    (h : path ∈ (r.metrics.map tableFile).map OutputFile.path) : path.head? = some "tables" := by
  rw [List.map_map] at h
  obtain ⟨m, -, rfl⟩ := List.mem_map.mp h
  rfl

theorem tablePaths_folderOf (hcsv : settings.tableFormat = .csv)
    (h : (r.files settings).2 = none) :
    tablePaths (folderOf (r.files settings).1) = (r.metrics.map tablePath).eraseDups := by
  have htables : (r.metrics.map tableFile).map OutputFile.path = r.metrics.map tablePath := by
    rw [List.map_map]
    rfl
  have hapart : ((r.metrics.map tableFile).map OutputFile.path).removeAll
      ((treeFiles settings r).map OutputFile.path) =
        (r.metrics.map tableFile).map OutputFile.path := by
    rw [List.removeAll, List.filter_eq_self]
    intro path hpath
    rw [Bool.not_eq_true', ← Bool.not_eq_true, List.elem_iff]
    intro hmem
    have hhead := head?_of_mem_treeFiles hmem
    rw [head?_of_mem_tableFiles hpath] at hhead
    simp at hhead
  have hkeys : (folderOf (r.files settings).1).map Prod.fst =
      ((treeFiles settings r).map OutputFile.path).eraseDups ++
        ((r.metrics.map tableFile).map OutputFile.path).eraseDups := by
    rw [folderOf, keys_upsertAll, files_of_done hcsv h, List.map_map, List.map_append]
    exact List.eraseDups_append.trans (by rw [← hapart]; rfl)
  rw [tablePaths, hkeys, List.filter_append, List.filter_eq_nil_iff.mpr, List.nil_append,
    List.filter_eq_self.mpr, htables]
  · intro path hpath
    exact decide_eq_true (head?_of_mem_tableFiles (List.mem_eraseDups.mp hpath))
  · intro path hpath
    rw [head?_of_mem_treeFiles (List.mem_eraseDups.mp hpath)]
    simp

/-- What is at a path is the last file that was written there. -/
theorem lookup_folderOf (files : List OutputFile) (path : List String) :
    lookup path (folderOf files) =
      ((files.filter fun f => f.path = path).getLast?).map OutputFile.text := by
  have hpath : (fun e : List String × Option String => e.1 == path) ∘
      (fun f : OutputFile => (f.path, f.text)) = fun f => decide (f.path = path) := by
    funext f
    exact beq_eq_decide ..
  rw [folderOf, lookup_upsertAll, List.filter_map, hpath, List.getLast?_map, Option.map_map]
  rfl

/-- What is left at the path of a metric's table is the table of the last metric of its stem. -/
theorem lookup_tablePath (hcsv : settings.tableFormat = .csv) (h : (r.files settings).2 = none)
    (m : Metric) : lookup (tablePath m) (folderOf (r.files settings).1) =
      (lastOfStem? r.metrics m).map fun last => some (Table.csv last) := by
  have htrees : (treeFiles settings r).filter (fun f => f.path = tablePath m) = [] := by
    simp [treeFiles, tablePath, metricsPath]
  have hpath : (fun f => decide (f.path = tablePath m)) ∘ tableFile =
      fun m' => decide (Table.fileStem m'.name = Table.fileStem m.name) := by
    funext m'
    exact decide_eq_decide.mpr tablePath_eq_iff
  rw [lookup_folderOf, files_of_done hcsv h, List.filter_append, htrees, List.nil_append,
    List.filter_map, hpath, List.getLast?_map, Option.map_map]
  rfl

theorem exists_lastOfStem (hm : m ∈ r.metrics) : ∃ last ∈ r.metrics,
    lastOfStem? r.metrics m = some last ∧ Table.fileStem last.name = Table.fileStem m.name := by
  have hmem : m ∈ r.metrics.filter fun m' => Table.fileStem m'.name = Table.fileStem m.name :=
    List.mem_filter.mpr ⟨hm, decide_eq_true rfl⟩
  cases hlast : lastOfStem? r.metrics m with
  | none =>
    rw [lastOfStem?, List.getLast?_eq_none_iff] at hlast
    rw [hlast] at hmem
    cases hmem
  | some last =>
    obtain ⟨hin, hstem⟩ := List.mem_filter.mp (List.mem_of_getLast? hlast)
    exact ⟨last, hin, rfl, of_decide_eq_true hstem⟩

/-- A metric whose stem no other metric has is the last of its stem. -/
theorem lastOfStem?_of_nodup (h : (stems r.metrics).Nodup) (hm : m ∈ r.metrics) :
    lastOfStem? r.metrics m = some m := by
  obtain ⟨last, hlast, hsome, hstem⟩ := exists_lastOfStem hm
  rw [hsome, List.inj_on_of_nodup_map h hlast hm hstem]

/-- Names that are plain have stems of their own, since no two metrics of a report share a name. -/
theorem nodup_stems_of_plain (hnames : (r.metrics.map Metric.name).Nodup)
    (hplain : ∀ m ∈ r.metrics, Table.IsPlainName m.name) : (stems r.metrics).Nodup := by
  have hstems : stems r.metrics = r.metrics.map Metric.name := by
    apply List.map_congr_left
    intro m hm
    exact Table.fileStem_of_isPlainName (hplain m hm)
  rwa [hstems]

/-- What the writing of a whole report leaves in a folder that was empty. There is a table at the
path of every metric; it is the table of the last metric of that stem, so there are as many tables
as metrics, and each metric has its own, if and only if no two names have one stem. The log gives
the number of the metrics in any case. -/
theorem tables_of_files (settings : Settings) (run : Run) (ms : Metrics) (r : Report)
    (hcsv : settings.tableFormat = .csv)
    (hms : Metrics.ofSnapshot settings run.snapshot = .ok ms) (h : ofRun settings run = .ok r)
    (hdone : (r.files settings).2 = none) :
    r.metrics = ms.sorted ∧ r.metrics.length = ms.entries.length ∧
    tablePaths (folderOf (r.files settings).1) = (r.metrics.map tablePath).eraseDups ∧
    (∀ m ∈ r.metrics, ∃ last ∈ r.metrics, lastOfStem? r.metrics m = some last ∧
      lookup (tablePath m) (folderOf (r.files settings).1) = some (some (Table.csv last))) ∧
    ((tablePaths (folderOf (r.files settings).1)).length = ms.entries.length ↔
      (stems r.metrics).Nodup) ∧
    ((stems r.metrics).Nodup → ∀ m ∈ r.metrics,
      lookup (tablePath m) (folderOf (r.files settings).1) = some (some (Table.csv m))) ∧
    ((∀ m ∈ r.metrics, Table.IsPlainName m.name) → (stems r.metrics).Nodup) ∧
    ∀ root, (r.logWithFiles root).getLast? =
      some (.tablesWritten ms.entries.length (root ++ "/tables")) := by
  obtain ⟨ms', s, hms', -, hr⟩ := ofRun_eq_ok_iff.mp h
  rw [hms] at hms'
  cases hms'
  have hsorted : r.metrics = ms.sorted := by rw [hr]
  have hlength : r.metrics.length = ms.entries.length := by
    rw [hsorted, Metrics.sorted, List.length_mergeSort, List.length_map]
  have hnames : (r.metrics.map Metric.name).Nodup := by
    rw [hsorted]
    exact Metrics.nodup_names hms
  refine ⟨hsorted, hlength, tablePaths_folderOf hcsv hdone, ?_, ?_, ?_,
    nodup_stems_of_plain hnames, ?_⟩
  · intro m hm
    obtain ⟨last, hmem, hlast, -⟩ := exists_lastOfStem hm
    refine ⟨last, hmem, hlast, ?_⟩
    rw [lookup_tablePath hcsv hdone, hlast]
    rfl
  · rw [tablePaths_folderOf hcsv hdone, ← hlength]
    exact length_eraseDups_tablePath r.metrics
  · intro hnodup m hm
    rw [lookup_tablePath hcsv hdone, lastOfStem?_of_nodup hnodup hm]
    rfl
  · intro root
    rw [logWithFiles, List.getLast?_append, hlength]
    rfl

/-- Two metrics whose names differ in a blank and a slash share one file, and the log counts two. -/
theorem tables_of_shared_stem : ∃ ms r,
    Metrics.ofSnapshot .default (sampleRun ["a b", "a/b"] earlier later).snapshot = .ok ms ∧
    ofRun .default (sampleRun ["a b", "a/b"] earlier later) = .ok r ∧
    (r.files .default).2 = none ∧ r.metrics.map Metric.name = ["a b", "a/b"] ∧
    tablePaths (folderOf (r.files .default).1) = [["tables", "a_b.csv"]] ∧
    (tablePaths (folderOf (r.files .default).1)).length ≠ ms.entries.length ∧
    (r.logWithFiles "out").getLast? = some (.tablesWritten 2 "out/tables") := by
  have hcheck : (ofOrderedRun? .default (sampleRun ["a b", "a/b"] earlier later)).map
      (fun r => ((r.files .default).2.isNone, r.metrics.map Metric.name)) =
        some (true, ["a b", "a/b"]) := by
    decide +kernel
  obtain ⟨r, hr, hpair⟩ := Option.map_eq_some_iff.mp hcheck
  obtain ⟨hdone, hnames⟩ := Prod.mk.inj hpair
  rw [Option.isNone_iff_eq_none] at hdone
  have hok := ofRun_of_ofOrderedRun? hr
  obtain ⟨ms, s, hms, -, -⟩ := ofRun_eq_ok_iff.mp hok
  obtain ⟨-, hlength, hpaths, -, -, -, -, hlog⟩ := tables_of_files .default _ ms r rfl hms hok hdone
  have hcount : ms.entries.length = 2 := by
    rw [← hlength, ← List.length_map Metric.name, hnames]
    rfl
  have htables : r.metrics.map tablePath = (r.metrics.map Metric.name).map fun name =>
      ["tables", Table.fileStem name ++ "." ++ TableFormat.csv.name] := by
    rw [List.map_map]
    rfl
  have hone : (r.metrics.map tablePath).eraseDups = [["tables", "a_b.csv"]] := by
    rw [htables, hnames]
    decide
  refine ⟨ms, r, hms, hok, hdone, hnames, hpaths.trans hone, ?_, ?_⟩
  · rw [hpaths, hone, hcount]
    decide
  · rw [hlog, hcount]
    rfl

end Report

end RunCharts
