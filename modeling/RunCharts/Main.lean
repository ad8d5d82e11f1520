import RunCharts.CommandLine
import RunCharts.Entries

/-!
# The program

Looks at the places that a command line names, does what `CommandLine.run` decides, and ends with
its exit code. The log goes to standard error.
-/

open RunCharts

def lookAt (path : String) : IO (Option CommandLine.Place) := do
  if ← (← IO.FS.realPath path).isDir then
    return some .folder
  try
    return some (.file (← IO.FS.readFile path))
  catch _ =>
    return none

def writeText (file : CommandLine.WrittenFile) : IO Unit := do
  match file.text with
  | none => return ()
  | some text =>
    let folder := file.path.toList.take (file.path.length - (fileName file.path).length)
    IO.FS.createDirAll (String.ofList folder)
    IO.FS.writeFile file.path text

def main (words : List String) : IO UInt32 := do
  let folder := (← IO.currentDir).toString
  let level ← IO.getEnv "ROLLOUT_ANALYSIS_LOG_LEVEL"
  let paths := match CommandLine.Request.parse? words with
    | none => []
    | some q => q.places folder
  let found ← paths.mapM fun path => return (path, ← lookAt path)
  let outcome := CommandLine.run folder level (fun path => (lookup path found).bind id) words
  for file in outcome.files do
    writeText file
  for entry in outcome.log do
    IO.eprintln (entry.level.name ++ " " ++ entry.message)
  match outcome.ending with
  | .broken fault => IO.eprintln fault.message
  | _ => pure ()
  IO.print outcome.output
  return UInt32.ofNat outcome.exitCode
