import RunCharts.Provider.Basic
import RunCharts.Text.Blank

/-!
# Accessors

The left side of a condition says which part of a provider's result is compared. Each provider has
its own form, and some forms name the part by a key: an index of an array or a field of an object.
-/

namespace RunCharts

structure Accessor where
  isSupported : Bool
  key : Option String
deriving DecidableEq, Repr

namespace Accessor

def unknown : Accessor := ⟨false, none⟩

def firstItem (accessor : String) : Accessor := ⟨accessor = "result[0]", some "0"⟩

def wholeOrZero (accessor : String) : Accessor :=
  ⟨accessor = "result" || accessor = "default(result, 0)",
    if accessor.toList.contains '0' then some "0" else none⟩

def whole (accessor : String) : Accessor := ⟨accessor = "result", none⟩

def fieldStart : List Char := ['r', 'e', 's', 'u', 'l', 't', '.']

def field (accessor : String) : Accessor :=
  ⟨fieldStart.isPrefixOf accessor.toList,
    some (String.ofList (accessor.toList.drop fieldStart.length))⟩

/-- The rule of a provider, for an accessor without blanks at its ends. -/
def rule : Provider → String → Accessor
  | .prometheus _ | .graphite _ | .influxdb _ => firstItem
  | .datadog .. => wholeOrZero
  | .wavefront _ => whole
  | .newRelic .. => field
  | .cloudWatch _ | .skywalking _ | .unsupported .. => fun _ => unknown

def of (provider : Option Provider) (accessor : String) : Accessor :=
  match provider with
  | none => unknown
  | some p => rule p (Text.strip accessor)

end Accessor

end RunCharts
