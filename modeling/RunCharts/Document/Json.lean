import RunCharts.Document.Basic
import RunCharts.Fault

/-!
# Documents as JSON

A document is written as JSON unless it holds a date, bytes, a set or itself. A pair is an array of
two. Keys become texts: numbers, truth values and null by the text that JSON has for them. Integers
of too many digits are not written.

Main statement: `toJson_ofJson`.
-/

namespace RunCharts

namespace Scalar

def toJson : Scalar → Except Fault Json
  | null => .ok .null
  | bool b => .ok (.bool b)
  | int n => if Numeral.isWritable n then .ok (.int n) else .error .unwritableInteger
  | float x => .ok (.float x)
  | text s => .ok (.str s)
  | bytes _ => .error (.notWritable "bytes")
  | date _ => .error (.notWritable "date")
  | dateTime _ => .error (.notWritable "datetime")

def toKey : Scalar → Except Fault String
  | null => .ok "null"
  | bool b => .ok (if b then "true" else "false")
  | int n =>
    if Numeral.isWritable n then .ok (String.ofList (Json.intChars n))
    else .error .unwritableInteger
  | float x => .ok (Json.numberStyle.text x)
  | text s => .ok s
  | bytes _ => .error (.keyNotWritable "bytes")
  | date _ => .error (.keyNotWritable "datetime.date")
  | dateTime _ => .error (.keyNotWritable "datetime.datetime")

end Scalar

namespace Document

mutual

/-- The tree that is written for a document. That the stack may run out while it is written, as on
a long chain of aliases, is left out. -/
def toJson : Document → Except Fault Json
  | scalar s => s.toJson
  | list items => (itemsToJson items).map .arr
  | mapping entries => (entriesToJson entries).map .obj
  | pair key value => do
    let k ← toJson key
    let v ← toJson value
    return .arr [k, v]
  | set _ => .error (.notWritable "set")
  | knot _ body => toJson body
  | back .. => .error .containsItself

def itemsToJson : List Document → Except Fault (List Json)
  | [] => .ok []
  | d :: ds => do
    let j ← toJson d
    let js ← itemsToJson ds
    return j :: js

def entriesToJson : List (Scalar × Document) → Except Fault (List (String × Json))
  | [] => .ok []
  | (key, d) :: entries => do
    let k ← key.toKey
    let j ← toJson d
    let js ← entriesToJson entries
    return (k, j) :: js

end

mutual

/-- What came from JSON goes back to it unchanged, if its integers can be written. -/
theorem toJson_ofJson : (j : Json) → j.isWritable = true → (ofJson j).toJson = .ok j
  | .null, _ | .bool _, _ | .float _, _ | .str _, _ => rfl
  | .int n, h => by
    rw [Json.isWritable] at h
    simp [ofJson, toJson, Scalar.toJson, h]
  | .arr items, h => by
    rw [Json.isWritable] at h
    rw [ofJson, toJson, itemsToJson_ofItems items h]; rfl
  | .obj fields, h => by
    rw [Json.isWritable] at h
    rw [ofJson, toJson, entriesToJson_ofFields fields h]; rfl

theorem itemsToJson_ofItems :
    (js : List Json) → Json.areWritable js = true → itemsToJson (ofItems js) = .ok js
  | [], _ => rfl
  | j :: js, h => by
    rw [Json.areWritable, Bool.and_eq_true] at h
    rw [ofItems, itemsToJson, toJson_ofJson j h.1, itemsToJson_ofItems js h.2]; rfl

theorem entriesToJson_ofFields :
    (fields : List (String × Json)) → Json.areWritableFields fields = true →
      entriesToJson (ofFields fields) = .ok fields
  | [], _ => rfl
  | (key, j) :: fields, h => by
    rw [Json.areWritableFields, Bool.and_eq_true] at h
    rw [ofFields, entriesToJson, Scalar.toKey, toJson_ofJson j h.1,
      entriesToJson_ofFields fields h.2]
    rfl

end

end Document

end RunCharts
