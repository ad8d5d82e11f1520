/-!
# Issues with settings

What can be wrong with one entry of a settings file. An issue names its entry by the path of keys.
A key that is no text is an integer of 64 bits, or else it is named by how it is shown.
-/

namespace RunCharts

inductive IssueKind where
  | belowLimit
  /-- A text that is no number. -/
  | numberText
  | numberKind
  /-- A text or number that is no truth value. -/
  | truthText
  | truthKind
  /-- A text that is no whole number. -/
  | wholeText
  /-- A whole number of too many digits, or a float beyond 64 bits. -/
  | wholeSize
  | wholeKind
  | fraction
  /-- An infinity or NaN. -/
  | notFinite
  | notAllowed
  | brokenText
  /-- A section that is no mapping. -/
  | notMapping
  /-- An entry that does not exist. -/
  | unknownKey
  /-- A key that is no text. -/
  | keyKind
deriving DecidableEq, Repr

inductive IssueKey where
  | name (s : String)
  | number (n : Int)
deriving DecidableEq, Repr

structure Issue where
  path : List IssueKey
  kind : IssueKind
deriving DecidableEq, Repr

end RunCharts
