import RunCharts.CommandLine
import RunCharts.Proofs.Json.Reread
import RunCharts.Proofs.Report.Trees
import RunCharts.Proofs.Table.Lossless

/-!
# Views and whole runs

A view shows the name, the summary and the metrics of a run file; a whole run writes them into two
files and adds the tables. Both fail alike where there is nothing to show. Where there is, a whole
run still fails if an integer is too long to be written, or if a table holds half of a surrogate
pair; else its files are read back as what the view shows.
-/

namespace RunCharts

/-- Whether the fields of a metric's table consist of characters. -/
def Metric.HasWholeTable (m : Metric) : Prop :=
  ∀ row ∈ m.series.rows, ∀ s ∈ Table.rowFields m.name row, Text.isWhole s = true

instance (m : Metric) : Decidable m.HasWholeTable :=
  inferInstanceAs (Decidable (∀ row ∈ m.series.rows, ∀ s ∈ Table.rowFields m.name row,
    Text.isWhole s = true))

/-- Nothing but half of a surrogate pair ends the writing of comma-separated records. -/
theorem Table.exists_stretch_of_fault {m : Metric} {fault : Fault}
    (h : (write .csv m).fault = some fault) : ∃ stretch, fault = .unencodable stretch := by
  unfold write at h
  cases hfault : fault? m with
  | some first =>
    rw [hfault] at h
    cases h
    obtain ⟨column, -, hcolumn⟩ := List.exists_of_findSome?_eq_some hfault
    unfold textFault? at hcolumn
    split at hcolumn
    · cases hcolumn
    · obtain ⟨stretch, -, rfl⟩ := Option.map_eq_some_iff.mp hcolumn
      exact ⟨stretch, rfl⟩
  | none =>
    rw [hfault] at h
    obtain ⟨stretch, -, rfl⟩ := Option.map_eq_some_iff.mp h
    exact ⟨stretch, rfl⟩

namespace Report

def view (settings : Settings) (suffix text : String) : Except Fault Json := do
  let run ← Run.ofFile suffix text
  let metrics ← Metrics.ofSnapshot settings run.snapshot
  let summary ← Summary.ofRun run
  return .obj [("name", .ofText? run.name), ("summary", summary.toJson),
    ("metrics", .arr (metrics.sorted.map Metric.toJson))]

def Step.outcome (step : Step) : Except Fault (List OutputFile) :=
  match step.fault with
  | some fault => .error fault
  | none => .ok step.file.toList

def analysisPath : List String := ["summary", "analysis.json"]

/-- What a whole run makes of a run file: all of its files, or the fault that ends it. -/
def runAll (settings : Settings) (suffix text : String) : Except Fault (List OutputFile) := do
  let run ← Run.ofFile suffix text
  let metrics := (← Metrics.ofSnapshot settings run.snapshot).sorted
  let summary ← Summary.ofRun run
  let analysis ← (treeStep settings analysisPath summary.toJson).outcome
  let listed ← (treeStep settings metricsPath (.obj [("name", .ofText? run.name),
    ("metrics", .arr (metrics.map Metric.toJson))])).outcome
  let tables ← metrics.mapM fun m => (tableStep settings.tableFormat m).outcome
  return analysis ++ listed ++ tables.flatten

def write (settings : Settings) (r : Report) : Except Fault (List OutputFile) :=
  ((r.steps settings).mapM Step.outcome).map List.flatten

variable {settings : Settings} {run : Run} {r : Report} {m : Metric} {suffix text : String}

theorem view_eq (settings : Settings) (suffix text : String) :
    view settings suffix text = ((Run.ofFile suffix text).bind (ofRun settings)).map toJson := by
  unfold view
  cases Run.ofFile suffix text with
  | error fault => rfl
  | ok run =>
    change (Metrics.ofSnapshot settings run.snapshot >>= _) =
      (Metrics.ofSnapshot settings run.snapshot >>= _).map toJson
    cases Metrics.ofSnapshot settings run.snapshot with
    | error fault => rfl
    | ok ms =>
      change (Summary.ofRun run >>= _) = (Summary.ofRun run >>= _).map toJson
      cases Summary.ofRun run <;> rfl

theorem write_eq (settings : Settings) (r : Report) : write settings r = (do
    let analysis ← (treeStep settings analysisPath r.summary.toJson).outcome
    let listed ← (treeStep settings metricsPath r.metricsJson).outcome
    let tables ← r.metrics.mapM fun m => (tableStep settings.tableFormat m).outcome
    return analysis ++ listed ++ tables.flatten) := by
  rw [write, steps, List.mapM_cons, List.mapM_cons, List.mapM_map]
  simp only [Traversal.map_bind, bind_assoc, pure_bind, List.append_assoc]
  rfl

theorem runAll_eq (settings : Settings) (suffix text : String) : runAll settings suffix text =
    ((Run.ofFile suffix text).bind (ofRun settings)).bind (write settings) := by
  unfold runAll
  cases Run.ofFile suffix text with
  | error fault => rfl
  | ok run =>
    change (Metrics.ofSnapshot settings run.snapshot >>= _) =
      (Metrics.ofSnapshot settings run.snapshot >>= _).bind (write settings)
    cases Metrics.ofSnapshot settings run.snapshot with
    | error fault => rfl
    | ok ms =>
      change (Summary.ofRun run >>= _) = (Summary.ofRun run >>= _).bind (write settings)
      cases Summary.ofRun run with
      | error fault => rfl
      | ok s => exact (write_eq settings ⟨run.name, s, ms.sorted, ms.log⟩).symm

def ended : List OutputFile × Option Fault → Except Fault (List OutputFile)
  | (files, none) => .ok files
  | (_, some fault) => .error fault

/-- The steps up to the first fault are the writing as a whole. -/
theorem ended_untilFault (steps : List Step) :
    ended (untilFault steps) = (steps.mapM Step.outcome).map List.flatten := by
  induction steps with
  | nil => rfl
  | cons step steps ih =>
    rw [List.mapM_cons, untilFault, Step.outcome]
    cases hfault : step.fault with
    | some fault => rfl
    | none =>
      have hbind : (.ok step.file.toList >>= fun files => steps.mapM Step.outcome >>= fun rest =>
          pure (files :: rest) : Except Fault (List (List OutputFile))).map List.flatten =
            ((steps.mapM Step.outcome).map List.flatten).map fun files =>
              step.file.toList ++ files := by
        cases steps.mapM Step.outcome <;> rfl
      rw [hbind, ← ih]
      obtain ⟨files, fault⟩ := untilFault steps
      cases fault <;> rfl

theorem ended_files (settings : Settings) (r : Report) :
    ended (r.files settings) = write settings r := ended_untilFault _

/-! ### What a step makes -/

theorem outcome_treeStep {path : List String} {tree : Json} (h : tree.isWritable = true) :
    (treeStep settings path tree).outcome = .ok [⟨path, some (tree.report settings.indent)⟩] := by
  rw [treeStep_of_writable h]
  rfl

theorem outcome_treeStep_of_not {path : List String} {tree : Json} (h : tree.isWritable = false) :
    (treeStep settings path tree).outcome = .error .unwritableInteger := by
  rw [treeStep_of_not_writable h]
  rfl

theorem outcome_tableStep (h : m.HasWholeTable) :
    (tableStep .csv m).outcome = .ok [tableFile m] := by
  rw [tableStep, Table.write_csv_done_iff.mpr h]
  rfl

theorem outcome_tableStep_of_not (h : ¬ m.HasWholeTable) :
    ∃ stretch, (tableStep .csv m).outcome = .error (.unencodable stretch) := by
  cases hfault : (Table.write .csv m).fault with
  | none => exact absurd (Table.write_csv_done_iff.mp (Table.write_csv_of_done hfault)) h
  | some fault =>
    obtain ⟨stretch, rfl⟩ := Table.exists_stretch_of_fault hfault
    refine ⟨stretch, ?_⟩
    simp only [Step.outcome, tableStep, hfault]

/-! ### What the writing of a report comes to -/

theorem isWritable_toJson (r : Report) :
    r.toJson.isWritable = (r.summary.toJson.isWritable && r.metricsJson.isWritable) := by
  have hname : (Json.ofText? r.name).isWritable = true := by cases r.name <;> rfl
  rw [toJson, metricsJson, Json.isWritable, Json.isWritable]
  simp only [Json.areWritableFields, hname, Bool.true_and, Bool.and_true]

theorem write_of_writable (hcsv : settings.tableFormat = .csv) (h : r.toJson.isWritable = true)
    (htables : ∀ m ∈ r.metrics, m.HasWholeTable) :
    write settings r = .ok (treeFiles settings r ++ r.metrics.map tableFile) := by
  rw [isWritable_toJson, Bool.and_eq_true] at h
  have hmapM : r.metrics.mapM (fun m => (tableStep .csv m).outcome) =
      .ok (r.metrics.map fun m => [tableFile m]) := by
    rw [Traversal.mapM_eq_ok_iff, List.forall₂_map_right_iff, List.forall₂_same]
    exact fun m hm => outcome_tableStep (htables m hm)
  have hflatten : (r.metrics.map fun m => [tableFile m]).flatten = r.metrics.map tableFile :=
    List.map_eq_flatMap.symm
  rw [write_eq, outcome_treeStep h.1, outcome_treeStep h.2, hcsv, hmapM, ← hflatten]
  rfl

theorem write_of_not_writable (h : r.toJson.isWritable = false) :
    write settings r = .error .unwritableInteger := by
  rw [isWritable_toJson, Bool.and_eq_false_iff] at h
  rw [write_eq]
  cases hsummary : r.summary.toJson.isWritable with
  | false => rw [outcome_treeStep_of_not hsummary]; rfl
  | true =>
    have hmetrics : r.metricsJson.isWritable = false :=
      h.resolve_left (by rw [hsummary]; exact Bool.noConfusion)
    rw [outcome_treeStep hsummary, outcome_treeStep_of_not hmetrics]
    rfl

theorem write_of_not_whole (hcsv : settings.tableFormat = .csv) (h : r.toJson.isWritable = true)
    (htables : ¬ ∀ m ∈ r.metrics, m.HasWholeTable) :
    ∃ stretch, write settings r = .error (.unencodable stretch) := by
  rw [isWritable_toJson, Bool.and_eq_true] at h
  rw [write_eq, outcome_treeStep h.1, outcome_treeStep h.2, hcsv]
  cases hmapM : r.metrics.mapM fun m => (tableStep .csv m).outcome with
  | ok files =>
    refine absurd ?_ htables
    intro m hm
    by_contra hbroken
    obtain ⟨made, -, hmade⟩ := Traversal.exists_of_mem_left hmapM hm
    obtain ⟨stretch, hstretch⟩ := outcome_tableStep_of_not hbroken
    rw [hstretch] at hmade
    cases hmade
  | error fault =>
    obtain ⟨-, m, -, -, -, hm⟩ := Traversal.mapM_eq_error_iff.mp hmapM
    by_cases hwhole : m.HasWholeTable
    · rw [outcome_tableStep hwhole] at hm
      cases hm
    · obtain ⟨stretch, hstretch⟩ := outcome_tableStep_of_not hwhole
      rw [hstretch] at hm
      cases hm
      exact ⟨stretch, rfl⟩

/-- The writing of a report is one of three: an integer is too long, a table holds half of a pair,
or all files are made. -/
theorem write_cases (r : Report) (hcsv : settings.tableFormat = .csv) :
    (r.toJson.isWritable = false ∧ write settings r = .error .unwritableInteger) ∨
    (r.toJson.isWritable = true ∧ (¬ ∀ m ∈ r.metrics, m.HasWholeTable) ∧
      ∃ stretch, write settings r = .error (.unencodable stretch)) ∨
    (r.toJson.isWritable = true ∧ (∀ m ∈ r.metrics, m.HasWholeTable) ∧
      write settings r = .ok (treeFiles settings r ++ r.metrics.map tableFile)) := by
  cases hw : r.toJson.isWritable with
  | false => exact .inl ⟨rfl, write_of_not_writable hw⟩
  | true =>
    right
    by_cases htables : ∀ m ∈ r.metrics, m.HasWholeTable
    · exact .inr ⟨rfl, htables, write_of_writable hcsv hw htables⟩
    · exact .inl ⟨rfl, htables, write_of_not_whole hcsv hw htables⟩

/-! ### What is read in the folder -/

/-- A tree is left in the folder as it was written: tables have other paths. -/
theorem lookup_treeFile {file : OutputFile} (h : file ∈ treeFiles settings r) :
    lookup file.path (folderOf (treeFiles settings r ++ r.metrics.map tableFile)) =
      some file.text := by
  have htables : ((r.metrics.map tableFile).map fun f => (f.path, f.text)).filter
      (fun e => e.1 == file.path) = [] := by
    rw [List.filter_eq_nil_iff]
    intro e he hpath
    obtain ⟨table, htable, rfl⟩ := List.mem_map.mp he
    have hhead := head?_of_mem_tableFiles (List.mem_map_of_mem htable)
    have hsame : table.path = file.path := eq_of_beq hpath
    rw [hsame, head?_of_mem_treeFiles (List.mem_map_of_mem h)] at hhead
    simp at hhead
  rw [folderOf, lookup_upsertAll, List.map_append, List.filter_append, htables, List.append_nil]
  rcases List.mem_cons.mp h with rfl | h
  · rfl
  · rw [List.mem_singleton.mp h]
    rfl

theorem reread_metricsJson (r : Report) : r.metricsJson.reread =
    .obj [("metrics", (Json.arr (r.metrics.map Metric.toJson)).reread),
      ("name", (Json.ofText? r.name).reread)] := by
  have hkeys : ∀ key ∈ ["name", "metrics"], Text.hasSplitPair key.toList = false := by decide
  have hsorted (name metrics : Json) : Json.sortFields [("name", name), ("metrics", metrics)] =
      [("metrics", metrics), ("name", name)] := by
    rw [Json.sortFields_eq_of_perm (by simp) (List.Perm.swap ("metrics", metrics) _ [])]
    apply List.mergeSort_of_pairwise
    rw [List.pairwise_pair]
    exact (by decide : (!Text.precedes "name" "metrics") = true)
  have hnodup : (["name", "metrics"] : List String).Nodup := by decide
  rw [← hsorted]
  exact Json.reread_obj hnodup hkeys

/-- Whether a file in a folder is read as a tree. -/
def Holds (files : List OutputFile) (path : List String) (tree : Json) : Prop :=
  ∃ text, lookup path (folderOf files) = some (some text) ∧ Json.read .allowed text = .ok tree

/-- What is in the folder of a whole run: the summary and the metrics, each as it is read back. -/
theorem holds_trees (h : ofRun settings run = .ok r) (hw : r.toJson.isWritable = true) :
    Holds (treeFiles settings r ++ r.metrics.map tableFile) analysisPath r.summary.toJson.reread ∧
    Holds (treeFiles settings r ++ r.metrics.map tableFile) metricsPath r.metricsJson.reread := by
  rw [isWritable_toJson, Bool.and_eq_true] at hw
  have hsummary := r.summary.isRegular_toJson.depth.trans (by decide : 1 ≤ Json.Reader.depthLimit)
  have hmetrics := (isRegular_metricsJson h).depth.trans (by decide : 7 ≤ Json.Reader.depthLimit)
  exact ⟨⟨_, lookup_treeFile List.mem_cons_self, Json.read_report hw.1 hsummary _⟩,
    ⟨_, lookup_treeFile (List.mem_cons_of_mem _ List.mem_cons_self),
      Json.read_report hw.2 hmetrics _⟩⟩

/-- The parts of a payload are read back as they are, up to the order of keys, if and only if no
text of the payload holds halves side by side. -/
theorem isJoined_toJson_iff (h : ofRun settings run = .ok r) : r.toJson.isJoined = true ↔
    ∀ part ∈ [Json.ofText? r.name, r.summary.toJson, Json.arr (r.metrics.map Metric.toJson)],
      Json.SameUpToKeyOrder part part.reread := by
  have hname := Json.sameUpToKeyOrder_reread_iff (Json.isRegular_ofText? r.name (n := 7)).keys
  have hsummary := Json.sameUpToKeyOrder_reread_iff r.summary.isRegular_toJson.keys
  have hmetrics := Json.sameUpToKeyOrder_reread_iff (isRegular_metrics h).keys
  have hkeys : ∀ key ∈ ["name", "summary", "metrics"], Text.hasSplitPair key.toList = false := by
    decide
  have hfields : ∀ f ∈ [("name", Json.ofText? r.name), ("summary", r.summary.toJson),
      ("metrics", Json.arr (r.metrics.map Metric.toJson))],
      Text.hasSplitPair f.1.toList = false :=
    fun f hf => hkeys f.1 (List.mem_map_of_mem hf)
  rw [toJson, Json.isJoined_obj_iff, and_iff_right hfields]
  simp only [List.forall_mem_cons, hname, hsummary, hmetrics]
  simp

/-- A whole run and a view of one file. Where the view has a fault, the whole run ends with it.
Where there is a payload, the whole run makes all of its files if and only if the integers of the
payload can be written and the tables consist of characters; else its fault says which of the two
is amiss. The files hold the parts of the payload, whatever the indentation: each as it is, up to
the order of keys, unless a text has halves side by side. -/
theorem runAll_agrees_with_view (settings : Settings) (suffix text : String)
    (hcsv : settings.tableFormat = .csv) :
    (∀ fault, view settings suffix text = .error fault →
      runAll settings suffix text = .error fault) ∧
    ∀ payload, view settings suffix text = .ok payload → ∃ run r,
      Run.ofFile suffix text = .ok run ∧ ofRun settings run = .ok r ∧
      payload = .obj [("name", .ofText? r.name), ("summary", r.summary.toJson),
        ("metrics", .arr (r.metrics.map Metric.toJson))] ∧
      ((∃ files, runAll settings suffix text = .ok files) ↔
        payload.isWritable = true ∧ ∀ m ∈ r.metrics, m.HasWholeTable) ∧
      (∀ fault, runAll settings suffix text = .error fault →
        payload.isWritable = false ∧ fault = .unwritableInteger ∨
        payload.isWritable = true ∧ ∃ stretch, fault = .unencodable stretch) ∧
      (∀ files, runAll settings suffix text = .ok files →
        Holds files analysisPath r.summary.toJson.reread ∧
        Holds files metricsPath (.obj [("metrics", (Json.arr (r.metrics.map Metric.toJson)).reread),
          ("name", (Json.ofText? r.name).reread)])) ∧
      (payload.isJoined = true ↔
        ∀ part ∈ [Json.ofText? r.name, r.summary.toJson, Json.arr (r.metrics.map Metric.toJson)],
          Json.SameUpToKeyOrder part part.reread) := by
  rw [view_eq, runAll_eq]
  cases hreport : (Run.ofFile suffix text).bind (ofRun settings) with
  | error fault =>
    refine ⟨?_, nofun⟩
    rintro fault' hfault
    cases hfault
    rfl
  | ok r =>
    refine ⟨nofun, ?_⟩
    rintro payload hpayload
    cases hpayload
    obtain ⟨run, hrun, hof⟩ := Traversal.bind_eq_ok_iff.mp hreport
    refine ⟨run, r, hrun, hof, rfl, ?_⟩
    rw [← reread_metricsJson, ← isJoined_toJson_iff hof]
    change ((∃ files, write settings r = .ok files) ↔ _) ∧
      (∀ fault, write settings r = .error fault → _) ∧
      (∀ files, write settings r = .ok files → _) ∧ _
    rcases write_cases r hcsv with ⟨hw, hwrite⟩ | ⟨hw, htables, stretch, hwrite⟩ |
      ⟨hw, htables, hwrite⟩
    · rw [hwrite, hw]
      refine ⟨⟨nofun, fun h => Bool.noConfusion h.1⟩, ?_, nofun, Iff.rfl⟩
      rintro fault hfault
      cases hfault
      exact .inl ⟨rfl, rfl⟩
    · rw [hwrite, hw]
      refine ⟨⟨nofun, fun h => absurd h.2 htables⟩, ?_, nofun, Iff.rfl⟩
      rintro fault hfault
      cases hfault
      exact .inr ⟨rfl, stretch, rfl⟩
    · have hholds := holds_trees hof hw
      rw [hwrite, hw]
      refine ⟨⟨fun _ => ⟨rfl, htables⟩, fun _ => ⟨_, rfl⟩⟩, nofun, ?_, Iff.rfl⟩
      rintro files hfiles
      cases hfiles
      exact hholds

/-- What decides how a report is written and what is read of it. -/
def conditions (r : Report) : Bool × Bool × Bool :=
  (r.toJson.isWritable, decide (∀ m ∈ r.metrics, m.HasWholeTable), r.toJson.isJoined)

/-- A file whose metrics come in the order of their names can be evaluated. -/
theorem exists_of_conditions {c : Bool × Bool × Bool}
    (h : ((Run.ofFile suffix text).toOption.bind (ofOrderedRun? .default)).map conditions =
      some c) : ∃ run r, Run.ofFile suffix text = .ok run ∧ ofRun .default run = .ok r ∧
        view .default suffix text = .ok r.toJson ∧
        runAll .default suffix text = write .default r ∧ r.conditions = c := by
  obtain ⟨r, hr, hc⟩ := Option.map_eq_some_iff.mp h
  obtain ⟨run, hrun, hordered⟩ := Option.bind_eq_some_iff.mp hr
  have hfile : Run.ofFile suffix text = .ok run := by
    cases hfile : Run.ofFile suffix text with
    | error fault =>
      rw [hfile] at hrun
      cases hrun
    | ok run' =>
      rw [hfile] at hrun
      cases hrun
      rfl
  have hof := ofRun_of_ofOrderedRun? hordered
  refine ⟨run, r, hfile, hof, ?_, ?_, hc⟩
  · rw [view_eq, hfile]
    exact congrArg (Except.map toJson) hof
  · rw [runAll_eq, hfile]
    change (ofRun .default run).bind (write .default) = _
    rw [hof]
    rfl

def fileWithMessage (message : String) : String :=
  "\x7b\"spec\": \x7b\"metrics\": [\x7b\"name\": \"a\"\x7d]\x7d, " ++
    "\"status\": \x7b\"metricResults\": [\x7b\"name\": \"a\", " ++
    "\"measurements\": [\x7b\"message\": \"" ++ message ++ "\"\x7d]\x7d]\x7d\x7d"

theorem agreement_on_file : Settings.default.tableFormat = .csv ∧
    ∃ (r : Report) (files : List OutputFile),
      view .default ".json" (fileWithMessage "slow") = .ok r.toJson ∧
      runAll .default ".json" (fileWithMessage "slow") = .ok files ∧
      Holds files analysisPath r.summary.toJson.reread ∧
      Json.SameUpToKeyOrder r.summary.toJson r.summary.toJson.reread := by
  have hcheck : ((Run.ofFile ".json" (fileWithMessage "slow")).toOption.bind
      (ofOrderedRun? .default)).map conditions = some (true, true, true) := by
    decide +kernel
  obtain ⟨run, r, hrun, hof, hview, -, hconditions⟩ := exists_of_conditions hcheck
  obtain ⟨hwritable, hrest⟩ := Prod.mk.inj hconditions
  obtain ⟨hwhole, hjoined⟩ := Prod.mk.inj hrest
  obtain ⟨-, hagrees⟩ := runAll_agrees_with_view .default ".json" (fileWithMessage "slow") rfl
  obtain ⟨run', r', hrun', hof', -, hdone, -, hholds, hsame⟩ := hagrees _ hview
  rw [hrun] at hrun'
  cases hrun'
  rw [hof] at hof'
  cases hof'
  obtain ⟨files, hfiles⟩ := hdone.mpr ⟨hwritable, of_decide_eq_true hwhole⟩
  exact ⟨rfl, r, files, hview, hfiles, (hholds files hfiles).1, hsame.mp hjoined _ (by simp)⟩

/-- Half of a pair in the message of a measurement is in a table. -/
theorem exists_of_broken_message : ∃ run r stretch,
    Run.ofFile ".json" (fileWithMessage "\\ud800") = .ok run ∧ ofRun .default run = .ok r ∧
      r.toJson.isWritable = true ∧
      view .default ".json" (fileWithMessage "\\ud800") = .ok r.toJson ∧
      runAll .default ".json" (fileWithMessage "\\ud800") = .error (.unencodable stretch) := by
  have hcheck : ((Run.ofFile ".json" (fileWithMessage "\\ud800")).toOption.bind
      (ofOrderedRun? .default)).map conditions = some (true, false, true) := by
    decide +kernel
  obtain ⟨run, r, hrun, hof, hview, hrunAll, hconditions⟩ := exists_of_conditions hcheck
  obtain ⟨hwritable, hrest⟩ := Prod.mk.inj hconditions
  obtain ⟨hwhole, -⟩ := Prod.mk.inj hrest
  obtain ⟨stretch, hwrite⟩ : ∃ stretch, write .default r = .error (.unencodable stretch) :=
    write_of_not_whole rfl hwritable (of_decide_eq_false hwhole)
  exact ⟨run, r, stretch, hrun, hof, hwritable, hview, hrunAll.trans hwrite⟩

/-- A YAML file of a run whose message has the two halves of a pair as escapes of their own. -/
def fileWithPair : String := "status:\n  message: \"\\ud83d\\ude00\"\n"

def longLimitRun : Run :=
  ⟨none, none, some ⟨[⟨"a", none, none, none, some (10 ^ 4300), none, none⟩], []⟩,
    some ⟨"Successful", none, [⟨some "a", "Successful", 0, 0, 0, 0, 0, 0, none, []⟩],
      ⟨0, 0, 0, 0, 0⟩, none⟩⟩

/-- There is a view without a whole run, where half of a pair is in a table or an integer is too
long; and there is a view of two halves that the files of the whole run have as one character. -/
theorem view_without_agreement :
    (∃ payload stretch, view .default ".json" (fileWithMessage "\\ud800") = .ok payload ∧
      runAll .default ".json" (fileWithMessage "\\ud800") = .error (.unencodable stretch)) ∧
    (∃ (r : Report) (files : List OutputFile), view .default ".yaml" fileWithPair = .ok r.toJson ∧
      runAll .default ".yaml" fileWithPair = .ok files ∧
      Holds files analysisPath r.summary.toJson.reread ∧
      Holds files metricsPath r.metricsJson.reread ∧
      ¬ ∀ part ∈ [Json.ofText? r.name, r.summary.toJson, Json.arr (r.metrics.map Metric.toJson)],
        Json.SameUpToKeyOrder part part.reread) ∧
    ∃ r, ofRun .default longLimitRun = .ok r ∧
      write .default r = .error .unwritableInteger := by
  refine ⟨?_, ?_, ?_⟩
  · obtain ⟨run, r, stretch, -, -, -, hview, hrunAll⟩ := exists_of_broken_message
    exact ⟨_, stretch, hview, hrunAll⟩
  · have hcheck : ((Run.ofFile ".yaml" fileWithPair).toOption.bind
        (ofOrderedRun? .default)).map conditions = some (true, true, false) := by
      decide +kernel
    obtain ⟨run, r, -, hof, hview, hrunAll, hconditions⟩ := exists_of_conditions hcheck
    obtain ⟨hwritable, hrest⟩ := Prod.mk.inj hconditions
    obtain ⟨hwhole, hjoined⟩ := Prod.mk.inj hrest
    have hwrite : write .default r = .ok (treeFiles .default r ++ r.metrics.map tableFile) :=
      write_of_writable rfl hwritable (of_decide_eq_true hwhole)
    obtain ⟨hsummary, hmetrics⟩ := holds_trees hof hwritable
    refine ⟨r, _, hview, hrunAll.trans hwrite, hsummary, hmetrics, ?_⟩
    rw [← isJoined_toJson_iff hof, hjoined]
    exact Bool.false_ne_true
  · have hcheck : (ofOrderedRun? .default longLimitRun).map (fun r => r.toJson.isWritable) =
        some false := by
      decide +kernel
    obtain ⟨r, hr, hwritable⟩ := Option.map_eq_some_iff.mp hcheck
    exact ⟨r, ofRun_of_ofOrderedRun? hr, write_of_not_writable hwritable⟩

end Report

end RunCharts
