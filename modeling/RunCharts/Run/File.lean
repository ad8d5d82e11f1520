import RunCharts.Document.File
import RunCharts.Run.Document

/-!
# Run files

A run is kept in a JSON or a YAML file; the ending of its name says which.
-/

namespace RunCharts.Run

def documentOfFile (suffix text : String) : Except Fault Document :=
  if suffix = ".json" then Document.ofJsonText (Document.fileText text)
  else if suffix = ".yaml" ∨ suffix = ".yml" then Document.ofYamlText (Document.fileText text)
  else .error (.fileType suffix)

def ofFile (suffix text : String) : Except Fault Run := do
  match (← documentOfFile suffix text).entries? with
  | none => .error .fileNotMapping
  | some entries => ofEntries entries

end RunCharts.Run
