import RunCharts.Text.Split

/-!
# Comma-separated records

Fields are separated by commas and records end with a newline. A field that holds a comma, a double
quote or a newline stands between double quotes, and its double quotes are doubled.
-/

namespace RunCharts.Csv

def needsQuotes (field : List Char) : Bool :=
  field.any fun c => c == ',' || c == '"' || c == '\n'

def doubleQuotes (field : List Char) : List Char :=
  field.flatMap fun c => if c = '"' then ['"', '"'] else [c]

def writeField (field : List Char) : List Char :=
  if needsQuotes field then '"' :: doubleQuotes field ++ ['"'] else field

def writeRecord (fields : List (List Char)) : List Char :=
  Text.join ',' (fields.map writeField) ++ ['\n']

def write (records : List (List (List Char))) : List Char := records.flatMap writeRecord

end RunCharts.Csv
