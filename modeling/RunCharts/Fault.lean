import RunCharts.Calendar.DateTime
import RunCharts.Json.Printer
import RunCharts.Settings.Issue
import RunCharts.Text.Quoted

/-!
# Faults

Everything that ends a computation without a result, by cause. `Fault.message` has the wording.
A fault is either a refusal of the input, which the command line reports as wrong usage, or a
break that ends the program.
-/

namespace RunCharts

/-- A cause for which there is no result. -/
inductive Fault where
  | valueMalformed (raw : String)
  /-- A measurement value that holds a word for a number without a value. -/
  | valueConstant (name : String)
  | valueTooDeep
  /-- A measurement value that is decoded, but nests too deeply for its text to be made. -/
  | displayTooDeep
  | hugeInteger (digits : Nat)
  | unwritableInteger
  /-- A run that is no mapping. -/
  | runNotMapping
  /-- A run file that holds no mapping. -/
  | fileNotMapping
  /-- A run file with an ending that stands for no format. -/
  | fileType (suffix : String)
  /-- A format in which tables are not written. -/
  | tableFormat (format : String)
  /-- A date or time of a YAML text with a part out of range. -/
  | calendar (fault : CalendarFault)
  /-- A text that is no integer to its base, under the tag of integers. -/
  | notInteger (base : Nat) (text : String)
  /-- A text that is no float, under the tag of floats. -/
  | notFloat (text : String)
  | emptyNumber
  /-- A word that is no truth value, under the tag of truth values. -/
  | notTruth (word : String)
  /-- A text that is no date, under the tag of dates. -/
  | notTimestamp
  | timestampParts
  | floatRange
  | escapeRange
  /-- An escape for a code of more than 31 bits. -/
  | escapeSize
  | yamlTooDeep
  /-- A file that is not JSON. -/
  | jsonMalformed
  | jsonTooDeep
  /-- A file that is not YAML. -/
  | yamlMalformed
  | settings (issues : List Issue)
  | infiniteCount
  /-- A time stamp outside the range of nanoseconds in 64 bits. -/
  | instantRange
  /-- A value of a kind that JSON does not have. -/
  | notWritable (kind : String)
  /-- A key of a kind that JSON does not have. -/
  | keyNotWritable (kind : String)
  /-- A value that contains itself, where JSON is to be written. -/
  | containsItself
  /-- A provider whose name is not written as a text. -/
  | providerName (name : String)
  /-- Half of a surrogate pair where characters are to be written. -/
  | unencodable (stretch : Text.Stretch)
  /-- A number among the texts of a column that is to hold one kind. -/
  | numberAmongTexts (column : String)
  /-- A text among the numbers of a column that is to hold one kind. -/
  | textAmongNumbers (text column : String)
  /-- A folder where a file is to be read or written. -/
  | isFolder
  /-- A file where a folder is to be made. -/
  | folderIsFile
  | pathThroughFile
deriving DecidableEq, Repr

/-- The first part of a span of minutes that has to be named: days, and seconds of the day. -/
def CalendarFault.spanText (minutes : Int) : String :=
  let day : Int := DateTime.minutesPerDay
  let days := Int.fdiv minutes day
  let seconds := Int.fmod minutes day * 60
  let parts := (if days = 0 then [] else ["days=" ++ toString days]) ++
    (if seconds = 0 then [] else ["seconds=" ++ toString seconds])
  "datetime.timedelta(" ++ ", ".intercalate parts ++ ")"

def CalendarFault.message : CalendarFault → String
  | year n => "year " ++ toString n ++ " is out of range"
  | month => "month must be in 1..12"
  | day => "day is out of range for month"
  | hour => "hour must be in 0..23"
  | minute => "minute must be in 0..59"
  | second => "second must be in 0..59"
  | offset minutes =>
    "offset must be a timedelta strictly between -timedelta(hours=24) and timedelta(hours=24), " ++
      "not " ++ spanText minutes ++ "."

def Fault.encodingText (stretch : Text.Stretch) : String :=
  let place := if stretch.length = 1 then
      "character '\\u" ++ String.ofList (Text.hexDigits 4 stretch.first) ++ "' in position " ++
        toString stretch.start
    else "characters in position " ++ toString stretch.start ++ "-" ++
      toString (stretch.start + stretch.length - 1)
  "'utf-8' codec can't encode " ++ place ++ ": surrogates not allowed"

def Fault.conversionText (column : String) : String :=
  "'Conversion failed for column " ++ column ++ " with type object'"

namespace Fault

/-- How much is shown of a text that is no integer, its quotes included. -/
def shownLength : Nat := 200

/-- What is said of a fault. A file that does not follow its format gets no wording here. -/
def message : Fault → String
  | valueMalformed raw => "measurement value is not valid JSON: " ++ Text.quoted raw
  | valueConstant name => "measurement value is not valid JSON: " ++ Text.quoted name
  | valueTooDeep => "measurement value is nested too deeply to decode"
  | hugeInteger digits =>
    "Exceeds the limit (4300 digits) for integer string conversion: value has " ++
      toString digits ++ " digits; use sys.set_int_max_str_digits() to increase the limit"
  | runNotMapping => "analysis run payload must be a mapping/object"
  | fileNotMapping => "analysis run file must contain a mapping/object"
  | fileType suffix => "Unsupported analysis run file type: " ++ suffix
  | tableFormat format => "Unsupported table format: " ++ format
  | calendar fault => fault.message
  | infiniteCount => "cannot convert float infinity to integer"
  | unwritableInteger =>
    "Exceeds the limit (4300 digits) for integer string conversion; use " ++
      "sys.set_int_max_str_digits() to increase the limit"
  | notInteger base text =>
    "invalid literal for int() with base " ++ toString base ++ ": " ++
      String.ofList ((Text.quoted text).toList.take shownLength)
  | notFloat text => "could not convert string to float: " ++ Text.quoted text
  | emptyNumber => "string index out of range"
  | notTruth word => Text.quoted word
  | notTimestamp => "'NoneType' object has no attribute 'groupdict'"
  | timestampParts => "expected string or bytes-like object, got 'list'"
  | floatRange => "int too large to convert to float"
  | escapeRange => "chr() arg not in range(0x110000)"
  | escapeSize => "Python int too large to convert to C int"
  | displayTooDeep | yamlTooDeep => "maximum recursion depth exceeded"
  | containsItself => "Circular reference detected"
  | unencodable stretch => encodingText stretch
  | numberAmongTexts column =>
    "(\"Expected bytes, got a 'float' object\", " ++ conversionText column ++ ")"
  | textAmongNumbers text column =>
    "(" ++ Text.quoted ("Could not convert " ++ Text.quoted text ++
      " with type str: tried to convert to double") ++ ", " ++ conversionText column ++ ")"
  | isFolder => "Is a directory"
  | folderIsFile => "File exists"
  | pathThroughFile => "Not a directory"
  | instantRange =>
    "Cannot convert Timestamp to nanoseconds without overflow. Use `.asm8.view('i8')` to cast " ++
      "represent Timestamp in its own unit (here, us)."
  | notWritable kind => "Object of type " ++ kind ++ " is not JSON serializable"
  | keyNotWritable kind => "keys must be str, int, float, bool or None, not " ++ kind
  | providerName name => Text.quoted name
  | jsonTooDeep =>
    "maximum recursion depth exceeded while decoding a JSON array from a unicode string"
  | jsonMalformed | yamlMalformed | settings _ => ""

def isValueFault : Fault → Bool
  | valueMalformed _ | valueConstant _ | valueTooDeep => true
  | _ => false

/-- Whether the fault refuses its input, rather than breaking the program. -/
def isRefusal : Fault → Bool
  | valueMalformed _ | valueConstant _ | valueTooDeep | hugeInteger _ | unwritableInteger
  | runNotMapping | fileNotMapping | fileType _ | tableFormat _ | calendar _ | jsonMalformed
  | settings _ | notInteger .. | notFloat _ | escapeRange | containsItself | unencodable _
  | textAmongNumbers .. => true
  | _ => false

end Fault

end RunCharts
