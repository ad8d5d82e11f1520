import RunCharts.Binary64.Basic

/-!
# JSON trees

Integers and floats stay apart, since they are written differently. The fields of an object are a
list: what is read keeps the order of the text, with one field per key.
-/

namespace RunCharts

inductive Json where
  | null
  | bool (b : Bool)
  | int (n : Int)
  | float (x : Binary64)
  | str (s : String)
  | arr (items : List Json)
  | obj (fields : List (String × Json))

namespace Json

instance : Inhabited Json := ⟨null⟩

def ofText? : Option String → Json
  | none => null
  | some s => str s

def ofTexts (texts : List String) : Json := arr (texts.map str)

def ofNumbers (xs : List Binary64) : Json := arr (xs.map float)

def ofOption {α : Type} (f : α → Json) : Option α → Json
  | none => null
  | some a => f a

mutual

/-- How many brackets are open at once where most are. -/
def depth : Json → Nat
  | arr items => depthOfItems items + 1
  | obj fields => depthOfFields fields + 1
  | null | bool _ | int _ | float _ | str _ => 0

def depthOfItems : List Json → Nat
  | [] => 0
  | item :: items => max (depth item) (depthOfItems items)

def depthOfFields : List (String × Json) → Nat
  | [] => 0
  | (_, value) :: fields => max (depth value) (depthOfFields fields)

end

end Json

end RunCharts
