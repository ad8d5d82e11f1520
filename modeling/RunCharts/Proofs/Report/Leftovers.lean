import RunCharts.Proofs.Report.Commands
import RunCharts.Proofs.Report.Times

/-!
# What a failure leaves

A command that fails before there is anything to write leaves nothing. What is written, is written
piece by piece: lines are printed one after another, files are made one after another, and a table
is written record by record. A piece that cannot be written ends the writing, and the pieces before
it stay.
-/

namespace RunCharts

theorem Text.isNone_firstStretch? (s : String) : (firstStretch? s.toList).isNone = isWhole s := by
  rw [Bool.eq_iff_iff, Option.isNone_iff_eq_none, firstStretch?_eq_none_iff, isWhole,
    List.all_eq_true]
  simp only [Bool.not_eq_true']

theorem exists_split_takeWhile {α : Type} {p : α → Bool} {xs : List α}
    (h : ∃ x ∈ xs, p x = false) :
    ∃ x rest, xs = xs.takeWhile p ++ x :: rest ∧ p x = false := by
  cases hdrop : xs.dropWhile p with
  | nil =>
    obtain ⟨x, hx, hp⟩ := h
    rw [List.dropWhile_eq_nil_iff.mp hdrop x hx] at hp
    cases hp
  | cons x rest =>
    refine ⟨x, rest, ?_, ?_⟩
    · rw [← hdrop, List.takeWhile_append_dropWhile]
    · have hhead := List.head?_dropWhile_not p xs
      rw [hdrop] at hhead
      exact hhead

namespace Report

variable {settings : Settings} {run : Run} {r : Report} {m : Metric} {fault : Fault}

/-- The steps before the one that ends the writing make their files, and it may have made one. -/
theorem exists_split_of_fault {steps : List Step} (h : (untilFault steps).2 = some fault) :
    ∃ before step after, steps = before ++ step :: after ∧
      (∀ earlier ∈ before, earlier.fault = none) ∧ step.fault = some fault ∧
      (untilFault steps).1 =
        before.flatMap (fun earlier => earlier.file.toList) ++ step.file.toList := by
  induction steps with
  | nil => cases h
  | cons step steps ih =>
    cases hfault : step.fault with
    | some fault' =>
      rw [untilFault, hfault] at h ⊢
      cases h
      exact ⟨[], step, steps, rfl, List.forall_mem_nil _, hfault, rfl⟩
    | none =>
      rw [untilFault, hfault] at h ⊢
      obtain ⟨before, last, after, rfl, hbefore, hlast, hfiles⟩ := ih h
      refine ⟨step :: before, last, after, rfl, ?_, hlast, ?_⟩
      · exact List.forall_mem_cons.mpr ⟨hfault, hbefore⟩
      · rw [hfiles, List.flatMap_cons, List.append_assoc]

theorem fault_tableStep_eq_none_iff : (tableStep .csv m).fault = none ↔ m.HasWholeTable := by
  constructor
  · intro h
    exact Table.write_csv_done_iff.mp (Table.write_csv_of_done h)
  · intro h
    rw [tableStep, Table.write_csv_done_iff.mpr h]

/-- What is left of the table of a metric that cannot be written as a whole: nothing where a column
of texts is broken, else the records before the first broken one. -/
inductive LeftOfTable (m : Metric) : List OutputFile → Prop
  | nothing (h : Table.fault? m ≠ none) : LeftOfTable m []
  | front {front : List (List String)} {record : List String} {rest : List (List String)}
      (hcolumns : Table.fault? m = none) (hrecords : Table.records m = front ++ record :: rest)
      (hfront : ∀ earlier ∈ front, ∀ s ∈ earlier, Text.isWhole s = true)
      (hrecord : ¬ ∀ s ∈ record, Text.isWhole s = true) :
      LeftOfTable m [⟨tablePath m, some (Table.recordsText front)⟩]

theorem leftOfTable_of_not_whole (h : ¬ m.HasWholeTable) :
    LeftOfTable m (tableStep .csv m).file.toList := by
  unfold tableStep Table.write
  cases hcolumns : Table.fault? m with
  | some fault => exact .nothing (by rw [hcolumns]; exact nofun)
  | none =>
    have hbroken : ∃ record ∈ Table.records m, (Table.brokenRecord? record).isNone = false := by
      by_contra hnone
      simp only [not_exists, not_and, Bool.not_eq_false, Option.isNone_iff_eq_none] at hnone
      apply h
      apply Table.forall_mem_records_iff.mp
      exact fun record hrecord => Table.brokenRecord?_eq_none_iff.mp (hnone record hrecord)
    obtain ⟨record, rest, hsplit, hrecord⟩ := exists_split_takeWhile hbroken
    refine .front hcolumns hsplit ?_ ?_
    · intro earlier hearlier
      have hnone := List.mem_takeWhile_imp hearlier
      exact Table.brokenRecord?_eq_none_iff.mp (Option.isNone_iff_eq_none.mp hnone)
    · intro hwhole
      rw [Table.brokenRecord?_eq_none_iff.mpr hwhole] at hrecord
      cases hrecord

/-- What is left of a report that is not written as a whole: the summary alone where an integer of
the metrics is too long, else both trees and the tables before the first broken one, of which
something may be left too. -/
inductive Leaves (settings : Settings) (r : Report) : List OutputFile → Prop
  | summary (h : r.metricsJson.isWritable = false) :
      Leaves settings r [⟨analysisPath, some (r.summary.toJson.report settings.indent)⟩]
  | tables {before : List Metric} {m : Metric} {after : List Metric} {part : List OutputFile}
      (hwritable : r.metricsJson.isWritable = true) (hmetrics : r.metrics = before ++ m :: after)
      (hbefore : ∀ earlier ∈ before, earlier.HasWholeTable) (hm : ¬ m.HasWholeTable)
      (hpart : LeftOfTable m part) :
      Leaves settings r (treeFiles settings r ++ before.map tableFile ++ part)

/-- What is left in a folder that was empty, path by path, where a report is not written as a
whole. Of tables that share a path, the last one of which anything was written is left. -/
inductive LeavesInFolder (settings : Settings) (r : Report)
    (folder : List String → Option (Option String)) : Prop
  | summary (hwritable : r.metricsJson.isWritable = false)
      (hsummary : folder analysisPath = some (some (r.summary.toJson.report settings.indent)))
      (hrest : ∀ path, path ≠ analysisPath → folder path = none)
  | tables {before : List Metric} {m : Metric} {after : List Metric} {part : List OutputFile}
      (hwritable : r.metricsJson.isWritable = true) (hmetrics : r.metrics = before ++ m :: after)
      (hbefore : ∀ earlier ∈ before, earlier.HasWholeTable) (hm : ¬ m.HasWholeTable)
      (hpart : LeftOfTable m part)
      (hsummary : folder analysisPath = some (some (r.summary.toJson.report settings.indent)))
      (htree : folder metricsPath = some (some (r.metricsJson.report settings.indent)))
      (hbroken : ∀ f ∈ part, folder f.path = some f.text)
      (hrest : ∀ path, path ≠ analysisPath → path ≠ metricsPath → (∀ f ∈ part, f.path ≠ path) →
        folder path = ((before.filter fun earlier => tablePath earlier = path).getLast?).map
          fun last => some (Table.csv last))

theorem LeftOfTable.path_eq {part : List OutputFile} (h : LeftOfTable m part) {f : OutputFile}
    (hf : f ∈ part) : f.path = tablePath m := by
  cases h with
  | nothing => cases hf
  | front => rw [List.mem_singleton.mp hf]

theorem LeftOfTable.getLast?_filter {part : List OutputFile} (h : LeftOfTable m part)
    {f : OutputFile} (hf : f ∈ part) (files : List OutputFile) :
    ((files ++ part).filter fun g => g.path = f.path).getLast? = some f := by
  cases h with
  | nothing => cases hf
  | front =>
    rw [List.mem_singleton.mp hf, List.filter_append]
    simp

/-- No table is written where the trees are. -/
theorem LeftOfTable.filter_summary {part : List OutputFile} (h : LeftOfTable m part)
    (before : List Metric) (name : String) :
    (before.map tableFile ++ part).filter (fun f => f.path = ["summary", name]) = [] := by
  rw [List.filter_eq_nil_iff]
  intro f hf heq
  have hpath : ∃ m', f.path = tablePath m' := by
    rcases List.mem_append.mp hf with hf | hf
    · obtain ⟨m', -, rfl⟩ := List.mem_map.mp hf
      exact ⟨m', rfl⟩
    · exact ⟨m, h.path_eq hf⟩
  obtain ⟨m', hpath⟩ := hpath
  rw [of_decide_eq_true heq] at hpath
  simp [tablePath] at hpath

theorem Leaves.inFolder {left : List OutputFile} (h : r.Leaves settings left) :
    r.LeavesInFolder settings fun path => lookup path (folderOf left) := by
  cases h with
  | summary hwritable =>
    refine .summary hwritable rfl ?_
    intro path hpath
    simp [lookup_folderOf, Ne.symm hpath]
  | @tables before m after part hwritable hmetrics hbefore hm hpart =>
    refine .tables hwritable hmetrics hbefore hm hpart ?_ ?_ ?_ ?_
    · rw [List.append_assoc, lookup_folderOf, List.filter_append, analysisPath,
        hpart.filter_summary]
      simp [treeFiles, metricsPath]
    · rw [List.append_assoc, lookup_folderOf, List.filter_append, metricsPath,
        hpart.filter_summary]
      simp [treeFiles, metricsPath]
    · intro f hf
      rw [lookup_folderOf, hpart.getLast?_filter hf]
      rfl
    · intro path hanalysis hmetrics hother
      have hbroken : part.filter (fun f => f.path = path) = [] := by
        rw [List.filter_eq_nil_iff]
        intro f hf heq
        exact hother f hf (of_decide_eq_true heq)
      have htrees : (treeFiles settings r).filter (fun f => f.path = path) = [] := by
        have hanalysis' : ["summary", "analysis.json"] ≠ path := Ne.symm hanalysis
        simp [treeFiles, Ne.symm hmetrics, hanalysis']
      rw [lookup_folderOf, List.filter_append, List.filter_append, hbroken, htrees,
        List.append_nil, List.nil_append, List.filter_map, List.getLast?_map, Option.map_map]
      rfl

/-- What is left where the tables are not written to their end. -/
theorem exists_split_of_tables_fault {metrics : List Metric}
    (h : (untilFault (metrics.map (tableStep .csv))).2 = some fault) :
    ∃ before m after part, metrics = before ++ m :: after ∧
      (∀ earlier ∈ before, earlier.HasWholeTable) ∧ ¬ m.HasWholeTable ∧ LeftOfTable m part ∧
      (untilFault (metrics.map (tableStep .csv))).1 = before.map tableFile ++ part := by
  obtain ⟨before, step, after, hsplit, hbefore, hstep, hfiles⟩ := exists_split_of_fault h
  obtain ⟨whole, rest, rfl, rfl, hrest⟩ := List.map_eq_append_iff.mp hsplit
  obtain ⟨m, others, rfl, rfl, -⟩ := List.map_eq_cons_iff.mp hrest
  rw [List.forall_mem_map] at hbefore
  have hbroken : ¬ m.HasWholeTable := by
    intro hwhole
    rw [fault_tableStep_eq_none_iff.mpr hwhole] at hstep
    cases hstep
  have htables : (whole.map (tableStep .csv)).flatMap (fun step => step.file.toList) =
      whole.map tableFile := by
    rw [List.flatMap_map, List.map_eq_flatMap]
    apply List.flatMap_congr
    intro earlier hearlier
    rw [tableStep_of_done (hbefore earlier hearlier)]
    rfl
  refine ⟨whole, m, others, _, rfl, ?_, hbroken, leftOfTable_of_not_whole hbroken, ?_⟩
  · exact fun earlier hearlier => fault_tableStep_eq_none_iff.mp (hbefore earlier hearlier)
  · rw [hfiles, htables]

theorem leaves_of_fault (hcsv : settings.tableFormat = .csv) (h : ofRun settings run = .ok r)
    (hfault : (r.files settings).2 = some fault) : r.Leaves settings (r.files settings).1 := by
  -- The integers of a summary are times in range, so the first tree is always made.
  have hsummary : r.summary.toJson.isWritable = true := by
    obtain ⟨ms, s, -, hs, rfl⟩ := ofRun_eq_ok_iff.mp h
    exact Summary.isWritable_toJson hs
  unfold files steps at hfault ⊢
  rw [hcsv, treeStep_of_writable hsummary] at hfault ⊢
  cases hmetrics : r.metricsJson.isWritable with
  | false =>
    rw [treeStep_of_not_writable hmetrics]
    exact .summary hmetrics
  | true =>
    rw [treeStep_of_writable hmetrics] at hfault ⊢
    obtain ⟨before, m, after, part, hsplit, hbefore, hm, hpart, hfiles⟩ :=
      exists_split_of_tables_fault hfault
    rw [untilFault, untilFault]
    dsimp only
    rw [hfiles]
    exact .tables hmetrics hsplit hbefore hm hpart

end Report

namespace Status

theorem isWhole_qualifier (issues : Issues) : Text.isWhole issues.qualifier = true := by
  unfold Issues.qualifier Issues.remarks
  by_cases hfailures : 0 < issues.failures <;> by_cases herrors : 0 < issues.errors <;>
    by_cases hinconclusives : 0 < issues.inconclusives <;>
    simp only [hfailures, herrors, hinconclusives, if_true, if_false] <;> rfl

theorem isWhole_label (phase : String) (issues : Issues) :
    Text.isWhole (label phase issues) = true := by
  unfold label
  split
  case h_4 =>
    split
    · rfl
    · rw [Text.isWhole, String.toList_append, List.all_append, Bool.and_eq_true]
      exact ⟨rfl, isWhole_qualifier issues⟩
  all_goals rfl

end Status

theorem Summary.isWhole_title {run : Run} {s : Summary} (h : ofRun run = .ok s) :
    Text.isWhole s.title = true := by
  obtain ⟨issues, text, results, htitle, -, -⟩ := exists_sources h
  rw [htitle]
  exact Status.isWhole_label _ _

namespace CommandLine

variable {folder root : String} {level : Option String} {look : String → Option Place}
  {out : Option String} {config : Option Place} {place : Place} {settings : Settings} {run : Run}
  {r : Report} {s : Summary} {fault : Fault} {q : Request} {o : Outcome}

/-- Whether a command has neither printed nor written anything. -/
def Outcome.IsSilent (o : Outcome) : Prop := o.output = "" ∧ o.files = []

theorem Outcome.exitCode_eq_zero_iff : o.exitCode = 0 ↔ o.ending = .done := by
  unfold exitCode
  split <;> simp [*]

theorem Outcome.exitCode_of_refused (h : o.ending = .refused) : o.exitCode = 2 := by
  unfold exitCode
  rw [h]

theorem Outcome.isSilent_failed (ending : Ending) : (failed ending).IsSilent := ⟨rfl, rfl⟩

theorem isSilent_or_done_transformed (folder : String) (look : String → Option Place)
    (out : Option String) (settings : Settings) (r : Report) :
    (transformed folder look out settings r).IsSilent ∨
      (transformed folder look out settings r).ending = .done := by
  unfold transformed
  dsimp only
  cases out.map (resolvePath folder) with
  | none =>
    dsimp only
    split
    · exact .inr rfl
    · exact .inl (Outcome.isSilent_failed _)
  | some path =>
    dsimp only
    split
    · exact .inl (Outcome.isSilent_failed _)
    · split
      · exact .inl (Outcome.isSilent_failed _)
      · split
        · exact .inl (Outcome.isSilent_failed _)
        · exact .inr rfl

/-- A summary that is not printed as a whole is printed up to a line that has half of a pair. -/
theorem exists_split_of_summarised (htitle : Text.isWhole s.title = true)
    (h : (summarised s).ending ≠ .done) : ∃ front line rest,
      summaryLines s = s.title :: front ++ line :: rest ∧
      (∀ earlier ∈ s.title :: front, Text.isWhole earlier = true) ∧
      Text.isWhole line = false ∧ (summarised s).output = printed (s.title :: front) := by
  have hbroken : ∃ line ∈ summaryLines s, Text.isWhole line = false := by
    by_contra hnone
    apply h
    simp only [not_exists, not_and, Bool.not_eq_false, ← Text.isNone_firstStretch?,
      Option.isNone_iff_eq_none] at hnone
    unfold summarised
    dsimp only
    rw [List.findSome?_eq_none_iff.mpr hnone]
  obtain ⟨line, rest, hsplit, hline⟩ := exists_split_takeWhile hbroken
  -- The title is the first line, and it is whole.
  have hfront : ∃ front, (summaryLines s).takeWhile Text.isWhole = s.title :: front :=
    ⟨_, List.takeWhile_cons_of_pos htitle⟩
  obtain ⟨front, hfront⟩ := hfront
  have hlines : (fun line : String => (Text.firstStretch? line.toList).isNone) = Text.isWhole :=
    funext Text.isNone_firstStretch?
  rw [hfront] at hsplit
  refine ⟨front, line, rest, hsplit, ?_, hline, ?_⟩
  · intro earlier hearlier
    rw [← hfront] at hearlier
    exact List.mem_takeWhile_imp hearlier
  · rw [← hfront, ← hlines]
    unfold summarised
    dsimp only
    split <;> rfl

theorem files_summarised (s : Summary) : (summarised s).files = [] := by
  unfold summarised
  dsimp only
  split <;> rfl

/-- The files of a whole run that fails are what the writing of its report leaves. -/
theorem exists_leaves_of_written (hcsv : settings.tableFormat = .csv)
    (hr : Report.ofRun settings run = .ok r) (h : (written root settings r).ending ≠ .done) :
    (written root settings r).output = "" ∧ ∃ left, r.Leaves settings left ∧
      (written root settings r).files = left.map (placed root) := by
  cases hmade : r.files settings with
  | mk made fault? =>
    unfold written at h ⊢
    rw [hmade] at h ⊢
    cases fault? with
    | none => exact absurd rfl h
    | some fault =>
      have hleaves := Report.leaves_of_fault hcsv hr (congrArg Prod.snd hmade)
      rw [hmade] at hleaves
      exact ⟨rfl, made, hleaves, rfl⟩

/-! ### One command at a time -/

theorem isSilent_of_unset (hsettings : loadSettings level config = .error fault) :
    (q.answer folder level look place config).IsSilent := by
  unfold loadSettings at hsettings
  unfold Request.answer
  rw [hsettings]
  exact Outcome.isSilent_failed _

theorem isSilent_of_transform (hcommand : q.command = .transform)
    (hsettings : loadSettings level config = .ok settings)
    (hfail : (q.answer folder level look place config).ending ≠ .done) :
    (q.answer folder level look place config).IsSilent := by
  unfold loadSettings at hsettings
  unfold Request.answer at hfail ⊢
  rw [hsettings, hcommand] at hfail ⊢
  dsimp only at hfail ⊢
  cases hreport : (q.run folder place).bind (Report.ofRun settings) with
  | error fault => exact Outcome.isSilent_failed _
  | ok r =>
    rw [hreport] at hfail
    exact (isSilent_or_done_transformed folder look q.out settings r).resolve_right hfail

theorem summary_leftovers (hcommand : q.command = .summary)
    (hsettings : loadSettings level config = .ok settings)
    (hfail : (q.answer folder level look place config).ending ≠ .done) :
    (q.answer folder level look place config).files = [] ∧
    (∀ fault, (q.run folder place).bind Summary.ofRun = .error fault →
      (q.answer folder level look place config).output = "") ∧
    ∀ s, (q.run folder place).bind Summary.ofRun = .ok s → ∃ front line rest,
      summaryLines s = s.title :: front ++ line :: rest ∧
      (∀ earlier ∈ s.title :: front, Text.isWhole earlier = true) ∧
      Text.isWhole line = false ∧
      (q.answer folder level look place config).output = printed (s.title :: front) := by
  unfold loadSettings at hsettings
  unfold Request.answer at hfail ⊢
  rw [hsettings, hcommand] at hfail ⊢
  dsimp only at hfail ⊢
  cases hrun : q.run folder place with
  | error fault => exact ⟨rfl, fun _ _ => rfl, nofun⟩
  | ok run =>
    have hbind : (Except.ok run).bind Summary.ofRun = Summary.ofRun run := rfl
    rw [hrun] at hfail
    rw [hbind]
    dsimp only at hfail ⊢
    cases hs : Summary.ofRun run with
    | error fault => exact ⟨rfl, fun _ _ => rfl, nofun⟩
    | ok s =>
      rw [hs] at hfail
      refine ⟨files_summarised s, nofun, ?_⟩
      rintro s' hs'
      cases hs'
      exact exists_split_of_summarised (Summary.isWhole_title hs) hfail

theorem runAll_leftovers (hcommand : q.command = .runAll)
    (hsettings : loadSettings level config = .ok settings) (hcsv : settings.tableFormat = .csv)
    (hfail : (q.answer folder level look place config).ending ≠ .done) :
    (q.answer folder level look place config).output = "" ∧
    (∀ fault, (q.run folder place).bind (Report.ofRun settings) = .error fault →
      (q.answer folder level look place config).files = []) ∧
    ∀ r, (q.run folder place).bind (Report.ofRun settings) = .ok r →
      (outputFolders (outputRoot folder q.out)).findSome? (folderFault? look) = none →
      ∃ left, r.Leaves settings left ∧ (q.answer folder level look place config).files =
        left.map (placed (outputRoot folder q.out)) := by
  unfold loadSettings at hsettings
  unfold Request.answer at hfail ⊢
  rw [hsettings, hcommand] at hfail ⊢
  dsimp only at hfail ⊢
  cases hfolders : (outputFolders (outputRoot folder q.out)).findSome? (folderFault? look) with
  | some fault => exact ⟨rfl, fun _ _ => rfl, nofun⟩
  | none =>
    rw [hfolders] at hfail
    cases hreport : (q.run folder place).bind (Report.ofRun settings) with
    | error fault => exact ⟨rfl, fun _ _ => rfl, nofun⟩
    | ok r =>
      rw [hreport] at hfail
      obtain ⟨run, -, hr⟩ := Traversal.bind_eq_ok_iff.mp hreport
      obtain ⟨houtput, hleft⟩ := exists_leaves_of_written hcsv hr hfail
      refine ⟨houtput, nofun, ?_⟩
      rintro r' hr' -
      cases hr'
      exact hleft

/-- What a command leaves that fails. If the settings, the run, its report or its summary have a
fault, nothing is printed and no file is made. A report that is to be shown leaves nothing in any
case. A summary leaves the lines before the first one that has half of a surrogate pair, which are
its title at least. A whole run prints nothing, and leaves the files that are made before the piece
that cannot be written, a later one in the place of an earlier one of the same path. -/
theorem leftovers_of_failure (q : Request) (folder : String) (level : Option String)
    (look : String → Option Place) (place : Place) (config : Option Place) (o : Outcome)
    (hcsv : ∀ settings, loadSettings level config = .ok settings → settings.tableFormat = .csv)
    (ho : q.answer folder level look place config = o) (hfail : o.exitCode ≠ 0) :
    (∀ fault, loadSettings level config = .error fault → o.IsSilent) ∧
    ∀ settings, loadSettings level config = .ok settings →
      (q.command = .transform → o.IsSilent) ∧
      (q.command = .summary → o.files = [] ∧
        (∀ fault, (q.run folder place).bind Summary.ofRun = .error fault → o.output = "") ∧
        ∀ s, (q.run folder place).bind Summary.ofRun = .ok s → ∃ front line rest,
          summaryLines s = s.title :: front ++ line :: rest ∧
          (∀ earlier ∈ s.title :: front, Text.isWhole earlier = true) ∧
          Text.isWhole line = false ∧ o.output = printed (s.title :: front)) ∧
      (q.command = .runAll → o.output = "" ∧
        (∀ fault, (q.run folder place).bind (Report.ofRun settings) = .error fault →
          o.files = []) ∧
        ∀ r, (q.run folder place).bind (Report.ofRun settings) = .ok r →
          (outputFolders (outputRoot folder q.out)).findSome? (folderFault? look) = none →
          ∃ left, r.Leaves settings left ∧
            o.files = left.map (placed (outputRoot folder q.out)) ∧
            r.LeavesInFolder settings fun path => lookup path (Report.folderOf left)) := by
  subst ho
  have hending : (q.answer folder level look place config).ending ≠ .done :=
    fun hdone => hfail (Outcome.exitCode_eq_zero_iff.mpr hdone)
  refine ⟨fun fault hsettings => isSilent_of_unset hsettings, ?_⟩
  intro settings hsettings
  refine ⟨fun hcommand => isSilent_of_transform hcommand hsettings hending, ?_, ?_⟩
  · exact fun hcommand => summary_leftovers hcommand hsettings hending
  · intro hcommand
    obtain ⟨houtput, hfault, hleft⟩ :=
      runAll_leftovers hcommand hsettings (hcsv settings hsettings) hending
    refine ⟨houtput, hfault, ?_⟩
    intro r hr hfolders
    obtain ⟨left, hleaves, hfiles⟩ := hleft r hr hfolders
    exact ⟨left, hleaves, hfiles, hleaves.inFolder⟩

theorem loadSettings_none : loadSettings none none = .ok .default := rfl

def sampleRequest (command : Command) : Request := ⟨command, "run.json", none, none⟩

def Request.sampleAnswer (q : Request) (text : String) : Outcome :=
  q.answer "/work" none (fun _ => none) (.file text) none

def fileWithStatus (message : String) : String :=
  "\x7b\"status\": \x7b\"message\": \"" ++ message ++ "\"\x7d\x7d"

theorem leftovers_of_broken_status :
    (∀ settings, loadSettings none none = .ok settings → settings.tableFormat = .csv) ∧
    ((sampleRequest .summary).sampleAnswer (fileWithStatus "\\ud800")).exitCode ≠ 0 ∧
    ((sampleRequest .summary).sampleAnswer (fileWithStatus "\\ud800")).files = [] ∧
    ∃ s front line rest, summaryLines s = s.title :: front ++ line :: rest ∧
      Text.isWhole line = false ∧
      ((sampleRequest .summary).sampleAnswer (fileWithStatus "\\ud800")).output =
        printed (s.title :: front) := by
  have hcsv (settings : Settings) (h : loadSettings none none = .ok settings) :
      settings.tableFormat = .csv := by
    rw [loadSettings_none] at h
    rw [← Except.ok.inj h]
    rfl
  have hfail :
      ((sampleRequest .summary).sampleAnswer (fileWithStatus "\\ud800")).exitCode ≠ 0 := by
    decide +kernel
  have hok : (((sampleRequest .summary).run "/work" (.file (fileWithStatus "\\ud800"))).bind
      Summary.ofRun).isOk = true := by
    decide +kernel
  obtain ⟨-, hleft⟩ := leftovers_of_failure (sampleRequest .summary) "/work" none (fun _ => none)
    (.file (fileWithStatus "\\ud800")) none _ hcsv rfl hfail
  obtain ⟨-, hsummary, -⟩ := hleft _ loadSettings_none
  obtain ⟨hfiles, -, hprinted⟩ := hsummary rfl
  cases hs : ((sampleRequest .summary).run "/work" (.file (fileWithStatus "\\ud800"))).bind
      Summary.ofRun with
  | error fault =>
    rw [hs] at hok
    cases hok
  | ok s =>
    obtain ⟨front, line, rest, hlines, -, hline, houtput⟩ := hprinted s hs
    exact ⟨hcsv, hfail, hfiles, s, front, line, rest, hlines, hline, houtput⟩

/-- Half of a surrogate pair in the message of a measurement ends a whole run once both trees are
made, and in the message of the status it ends a summary once two lines are printed. -/
theorem failure_with_leftovers :
    (((sampleRequest .runAll).sampleAnswer (Report.fileWithMessage "\\ud800")).exitCode = 2 ∧
      ∃ analysis metrics rest,
        ((sampleRequest .runAll).sampleAnswer (Report.fileWithMessage "\\ud800")).files =
          ⟨"/work/out/summary/analysis.json", some analysis⟩ ::
          ⟨"/work/out/summary/metrics.json", some metrics⟩ :: rest) ∧
    ((sampleRequest .summary).sampleAnswer (fileWithStatus "\\ud800")).exitCode = 1 ∧
    ((sampleRequest .summary).sampleAnswer (fileWithStatus "\\ud800")).output =
      "Analysis status unknown\n- phase: Unknown\n" := by
  refine ⟨?_, by decide +kernel, by decide +kernel⟩
  obtain ⟨run, r, stretch, hrun, hof, hwritable, -, hrunAll⟩ := Report.exists_of_broken_message
  have hsuffix : (sampleRequest .runAll).suffix "/work" = ".json" := by decide +kernel
  have hroot : outputRoot "/work" (sampleRequest .runAll).out = "/work/out" := by decide +kernel
  have hfolders : (outputFolders (outputRoot "/work" (sampleRequest .runAll).out)).findSome?
      (folderFault? fun _ => none) = none := by
    decide +kernel
  have hfault : ∀ fault, Report.runAll .default ((sampleRequest .runAll).suffix "/work")
      (Report.fileWithMessage "\\ud800") = .error fault →
      ((sampleRequest .runAll).sampleAnswer (Report.fileWithMessage "\\ud800")).ending =
        Outcome.endingOf fault :=
    (answer_runAll rfl loadSettings_none hfolders).2
  rw [hsuffix, hrunAll] at hfault
  have hending := hfault _ rfl
  have hreport : ((sampleRequest .runAll).run "/work"
      (.file (Report.fileWithMessage "\\ud800"))).bind (Report.ofRun .default) = .ok r := by
    rw [Request.run_file, hsuffix, hrun]
    exact hof
  have hbroken : ((sampleRequest .runAll).sampleAnswer
      (Report.fileWithMessage "\\ud800")).ending ≠ .done := by
    rw [hending]
    exact nofun
  obtain ⟨-, -, hleft⟩ := runAll_leftovers rfl loadSettings_none rfl hbroken
  obtain ⟨left, hleaves, hfiles⟩ := hleft r hreport hfolders
  rw [Report.isWritable_toJson, Bool.and_eq_true] at hwritable
  constructor
  · exact Outcome.exitCode_of_refused hending
  · cases hleaves with
    | summary h =>
      rw [hwritable.2] at h
      cases h
    | tables =>
      rw [hroot] at hfiles
      exact ⟨_, _, _, hfiles⟩

end CommandLine

end RunCharts
