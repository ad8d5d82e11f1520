import RunCharts.Json.Reader
import RunCharts.Yaml.Document

/-!
# Files of documents

Documents are kept in JSON and in YAML files. The ends of lines are unified before a file is read.
-/

namespace RunCharts

def Text.unifyBreaks : List Char → List Char
  | [] => []
  | '\r' :: '\n' :: cs => '\n' :: unifyBreaks cs
  | c :: cs => (if c = '\r' then '\n' else c) :: unifyBreaks cs

/-- The ending of a file's name with its point. A point at either end of the name starts none. -/
def fileSuffix (name : String) : String :=
  let ending := (name.toList.reverse.takeWhile (· != '.')).reverse
  if ending.isEmpty || name.length ≤ ending.length + 1 then "" else String.ofList ('.' :: ending)

def Fault.ofFileError : Json.ReadError → Fault
  | .malformed => .jsonMalformed
  | .constant _ => .jsonMalformed
  | .hugeInteger digits => .hugeInteger digits
  | .tooDeep => .jsonTooDeep

namespace Document

def ofJsonText (s : String) : Except Fault Document :=
  ((Json.read .allowed s).mapError Fault.ofFileError).map ofJson

/-- The document of a YAML text. One that is nothing is an empty mapping. -/
def ofYamlText (s : String) : Except Fault Document :=
  (Yaml.read s).map fun d => d.orElse (.mapping [])

def fileText (s : String) : String := String.ofList (Text.unifyBreaks s.toList)

end Document

end RunCharts
