import RunCharts.Report
import RunCharts.Run.File
import RunCharts.Settings.File

/-!
# The command line

Three commands on a run file: `transform` writes the report as JSON, `summary` prints the overall
status, `run-all` writes all files of a run into a folder. What a command answers is decided here,
from its words and what is at the places that it looks at; reading and writing are left to the
program.

A command whose input has a fault prints nothing and writes no file. A fault that shows only when a
text is written leaves what was written before.
-/

namespace RunCharts

/-- The place that a path leads to from a folder, without dots and doubled separators. -/
def resolvePath (folder path : String) : String :=
  let step (places : List (List Char)) (part : List Char) : List (List Char) :=
    if part = [] ∨ part = ['.'] then places
    else if part = ['.', '.'] then places.drop 1
    else part :: places
  let full := if path.toList.head? = some '/' then path else folder ++ "/" ++ path
  let places := (Text.split '/' full.toList).foldl step []
  let absolute := full.toList.head? = some '/'
  (if absolute then "/" else "") ++ "/".intercalate (places.reverse.map String.ofList)

def fileName (path : String) : String :=
  String.ofList (path.toList.reverse.takeWhile (· != '/')).reverse

namespace CommandLine

inductive Place where
  | folder
  | file (text : String)
deriving DecidableEq, Repr

def Place.text : Place → Except Fault String
  | folder => .error .isFolder
  | file text => .ok text

def foldersAbove (path : String) : List String :=
  let parts := Text.split '/' path.toList
  (List.range (parts.length - 1)).map fun n =>
    String.ofList (Text.join '/' (parts.take (parts.length - 1 - n)))

def folderFault? (look : String → Option Place) (path : String) : Option Fault :=
  match look path with
  | some .folder => none
  | some (.file _) => some .folderIsFile
  | none => match (foldersAbove path).findSome? look with
    | some (.file _) => some .pathThroughFile
    | _ => none

inductive Command where
  | transform
  | summary
  | runAll
deriving DecidableEq, Repr

namespace Command

def name : Command → String
  | transform => "transform"
  | summary => "summary"
  | runAll => "run-all"

def all : List Command := [transform, summary, runAll]

def hasOut : Command → Bool
  | summary => false
  | _ => true

end Command

structure Request where
  command : Command
  snapshot : String
  config : Option String
  out : Option String
deriving DecidableEq, Repr

structure Words where
  positional : List String
  config : Option String
  out : Option String

namespace Words

def none : Words := ⟨[], .none, .none⟩

def add (word : String) (w : Words) : Words := { w with positional := w.positional ++ [word] }

def set? (command : Command) (name value : String) (w : Words) : Option Words :=
  if name = "--config" then some { w with config := some value }
  else if name = "--out" ∧ command.hasOut then some { w with out := some value }
  else Option.none

end Words

/-- Reads the words after a command. A later option takes the place of an earlier one; after two
dashes there are no options. -/
def readWords? (command : Command) (w : Words) : List String → Option Words
  | [] => some w
  | word :: words =>
    match word.toList with
    | ['-', '-'] => some (words.foldl (fun w word => w.add word) w)
    | '-' :: _ :: _ =>
      let name := String.ofList (word.toList.takeWhile (· != '='))
      match word.toList.dropWhile (· != '=') with
      | _ :: value =>
        (w.set? command name (String.ofList value)).bind fun w => readWords? command w words
      | [] =>
        match words with
        | [] => none
        | value :: words => (w.set? command name value).bind fun w => readWords? command w words
    | _ => readWords? command (w.add word) words

def Request.parse? : List String → Option Request
  | [] => none
  | word :: words => do
    let command ← Command.all.find? fun c => c.name = word
    let w ← readWords? command .none words
    match w.positional with
    | [snapshot] => some ⟨command, snapshot, w.config, w.out⟩
    | _ => none

structure WrittenFile where
  path : String
  text : Option String
deriving DecidableEq, Repr

inductive Ending where
  | done
  | refused
  | broken (fault : Fault)
deriving DecidableEq

structure Outcome where
  ending : Ending
  output : String
  files : List WrittenFile
  log : List LogEntry

namespace Outcome

def failed (ending : Ending) : Outcome := ⟨ending, "", [], []⟩

def exitCode (o : Outcome) : Nat :=
  match o.ending with
  | .done => 0
  | .refused => 2
  | .broken _ => 1

/-- How a command ends that meets a fault: by a refusal of the input, or by a break. -/
def endingOf (fault : Fault) : Ending := if fault.isRefusal then .refused else .broken fault

def ofFault (fault : Fault) : Outcome := failed (endingOf fault)

end Outcome

def summaryLines (s : Summary) : List String :=
  [s.title, "- phase: " ++ s.phase] ++
  (s.flag.toList.map fun f => "- substatus: " ++ f.text) ++
  ((s.message.filter (· ≠ "")).toList.map fun m => "- message: " ++ m) ++
  (s.startTime.toList.map fun t => "- start_time: " ++ intText t) ++
  (s.endTime.toList.map fun t => "- end_time: " ++ intText t)

def printed (lines : List String) : String := String.join (lines.map (· ++ "\n"))

/-- What `summary` does: it prints the lines up to the first one that cannot be printed. -/
def summarised (s : Summary) : Outcome :=
  let lines := summaryLines s
  let front := lines.takeWhile fun line => (Text.firstStretch? line.toList).isNone
  match lines.findSome? fun line => Text.firstStretch? line.toList with
  | none => ⟨.done, printed front, [], []⟩
  | some stretch => ⟨.broken (.unencodable stretch), printed front, [], []⟩

def transformed (folder : String) (look : String → Option Place) (out : Option String)
    (settings : Settings) (r : Report) : Outcome :=
  let text := r.toJson.report settings.indent
  let log := LogEntry.visible settings.level r.log
  match out.map (resolvePath folder) with
  | none =>
    if r.toJson.isWritable then ⟨.done, printed [text], [], log⟩
    else .failed (.broken .unwritableInteger)
  | some path =>
    match (foldersAbove path).head?.bind (folderFault? look) with
    | some fault => .failed (.broken fault)
    | none =>
      if !r.toJson.isWritable then .failed (.broken .unwritableInteger)
      else if look path = some .folder then .failed (.broken .isFolder)
      else ⟨.done, printed ["Payload written to: " ++ path], [⟨path, some text⟩], log⟩

def outputRoot (folder : String) (out : Option String) : String :=
  resolvePath folder (out.getD "out")

def outputFolders (root : String) : List String := [root, root ++ "/tables", root ++ "/summary"]

def written (root : String) (settings : Settings) (r : Report) : Outcome :=
  let place (parts : List String) : String := "/".intercalate (root :: parts)
  let (files, fault) := r.files settings
  let files := files.map fun f => ⟨place f.path, f.text⟩
  match fault with
  | some fault => ⟨Outcome.endingOf fault, "", files, LogEntry.visible settings.level r.log⟩
  | none =>
    ⟨.done, printed ["Run complete. Metrics: " ++ place Report.metricsPath], files,
      LogEntry.visible settings.level (r.logWithFiles root)⟩

def Request.run (q : Request) (folder : String) (place : Place) : Except Fault Run := do
  Run.ofFile (fileSuffix (fileName (resolvePath folder q.snapshot))) (← place.text)

/-- What a request does in a folder, with what is at the places of its files. Settings with a fault
break the program; a run with a fault may be refused, its summary may not. -/
def Request.answer (q : Request) (folder : String) (level : Option String)
    (look : String → Option Place) (run : Place) (config : Option Place) : Outcome :=
  match (config.mapM Place.text).bind fun text => Settings.load text level with
  | .error fault => .failed (.broken fault)
  | .ok settings =>
    match q.command with
    | .summary =>
      match q.run folder run with
      | .error fault => .ofFault fault
      | .ok run => match Summary.ofRun run with
        | .error fault => .failed (.broken fault)
        | .ok s => summarised s
    | .transform =>
      match (q.run folder run).bind (Report.ofRun settings) with
      | .error fault => .ofFault fault
      | .ok r => transformed folder look q.out settings r
    | .runAll =>
      let root := outputRoot folder q.out
      match (outputFolders root).findSome? (folderFault? look) with
      | some fault => .failed (.broken fault)
      | none => match (q.run folder run).bind (Report.ofRun settings) with
        | .error fault => .ofFault fault
        | .ok r => written root settings r

def Request.places (q : Request) (folder : String) : List String :=
  let outputs := match q.command with
    | .summary => []
    | .transform => (q.out.map (resolvePath folder)).toList
    | .runAll => outputFolders (outputRoot folder q.out)
  (q.snapshot :: q.config.toList).map (resolvePath folder) ++
    outputs.flatMap fun path => path :: foldersAbove path

/-- What a command line does in a folder, `look` saying what is at a place. -/
def run (folder : String) (level : Option String) (look : String → Option Place)
    (words : List String) : Outcome :=
  match Request.parse? words with
  | none => .failed .refused
  | some q =>
    let placeOf (path : String) := look (resolvePath folder path)
    match placeOf q.snapshot, q.config, q.config.bind placeOf with
    | none, _, _ => .failed .refused
    | some _, some _, none => .failed .refused
    | some run, _, config => q.answer folder level look run config

end CommandLine

end RunCharts
