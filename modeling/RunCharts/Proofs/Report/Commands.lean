import RunCharts.Proofs.Report.Agreement

/-!
# Whole runs as commands

The command for a whole run makes its files in the output folder, and ends with the fault that ends
it.
-/

namespace RunCharts.CommandLine

variable {folder text : String} {level : Option String} {look : String → Option Place}
  {config : Option Place} {settings : Settings} {q : Request}

def loadSettings (level : Option String) (config : Option Place) : Except Fault Settings :=
  (config.mapM Place.text).bind fun text => Settings.load text level

def Request.suffix (q : Request) (folder : String) : String :=
  fileSuffix (fileName (resolvePath folder q.snapshot))

theorem Request.run_file (q : Request) (folder text : String) :
    q.run folder (.file text) = Run.ofFile (q.suffix folder) text := by
  unfold Request.run Place.text
  exact pure_bind text _

def placed (root : String) (f : OutputFile) : WrittenFile :=
  ⟨"/".intercalate (root :: f.path), f.text⟩

theorem written_of_write_ok {root : String} {r : Report} {files : List OutputFile}
    (h : Report.write settings r = .ok files) :
    (written root settings r).ending = .done ∧
      (written root settings r).files = files.map (placed root) := by
  rw [← Report.ended_files] at h
  unfold written
  generalize r.files settings = made at h
  obtain ⟨made, _ | fault⟩ := made <;> cases h
  exact ⟨rfl, rfl⟩

theorem written_of_write_error {root : String} {r : Report} {fault : Fault}
    (h : Report.write settings r = .error fault) :
    (written root settings r).ending = Outcome.endingOf fault := by
  rw [← Report.ended_files] at h
  unfold written
  generalize r.files settings = made at h
  obtain ⟨made, _ | fault⟩ := made <;> cases h
  rfl

/-- What the command for a whole run does, once its settings are read and its folders can be
made. -/
theorem answer_runAll (hcommand : q.command = .runAll)
    (hsettings : loadSettings level config = .ok settings)
    (hfolders : (outputFolders (outputRoot folder q.out)).findSome? (folderFault? look) = none) :
    (∀ files, Report.runAll settings (q.suffix folder) text = .ok files →
      (q.answer folder level look (.file text) config).ending = .done ∧
      (q.answer folder level look (.file text) config).files =
        files.map (placed (outputRoot folder q.out))) ∧
    ∀ fault, Report.runAll settings (q.suffix folder) text = .error fault →
      (q.answer folder level look (.file text) config).ending = Outcome.endingOf fault := by
  unfold loadSettings at hsettings
  unfold Request.answer
  rw [hsettings, hcommand]
  dsimp only
  rw [hfolders, Report.runAll_eq, Request.run_file]
  cases (Run.ofFile (q.suffix folder) text).bind (Report.ofRun settings) with
  | error fault =>
    refine ⟨nofun, ?_⟩
    rintro fault' hfault
    cases hfault
    rfl
  | ok r => exact ⟨fun _ => written_of_write_ok, fun _ => written_of_write_error⟩

end RunCharts.CommandLine
