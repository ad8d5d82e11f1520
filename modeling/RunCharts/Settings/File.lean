import RunCharts.Document.File
import RunCharts.Settings.Document

/-!
# Settings files

Settings are kept in a YAML file. Without a file nothing is chosen.
-/

namespace RunCharts.Settings

def load (file level : Option String) : Except Fault Settings := do
  let document ← match file with
    | none => pure (.mapping [])
    | some text => Document.ofYamlText (Document.fileText text)
  let settings ← (ofDocument document).mapError Fault.settings
  (overrideLevel level settings).mapError Fault.settings

end RunCharts.Settings
