import RunCharts.Document.Display
import RunCharts.Proofs.Document.Json
import RunCharts.Proofs.Traversal

/-!
# What keeps a document from being a text

The faults of a document, listed without reading it: those of its display, where integers of too
many digits are the only ones, and those of its JSON, where dates, bytes, sets, keys of these kinds
and collections inside themselves are faults as well. Displaying a document, or writing it as JSON,
ends with the first of its faults. What came from JSON has none of either kind.
-/

namespace RunCharts

open Traversal

theorem Numeral.isWritable_zero : isWritable 0 = true := by
  unfold isWritable
  rw [Nat.pow_eq]
  generalize digitLimit = limit
  exact decide_eq_true (Nat.pow_pos (by decide))

namespace Scalar

def textFaults : Scalar → List Fault
  | int n => if Numeral.isWritable n then [] else [.unwritableInteger]
  | _ => []

def jsonFaults : Scalar → List Fault
  | bytes _ => [.notWritable "bytes"]
  | date _ => [.notWritable "date"]
  | dateTime _ => [.notWritable "datetime"]
  | s => s.textFaults

def keyFaults : Scalar → List Fault
  | bytes _ => [.keyNotWritable "bytes"]
  | date _ => [.keyNotWritable "datetime.date"]
  | dateTime _ => [.keyNotWritable "datetime.datetime"]
  | s => s.textFaults

theorem int_endsAtFirst {α : Type} (n : Int) (a : α) :
    EndsAtFirst (if Numeral.isWritable n then .ok a else .error Fault.unwritableInteger)
      (int n).textFaults := by
  unfold textFaults
  dsimp only
  split
  · exact endsAtFirst_ok a
  · exact endsAtFirst_error _ _

theorem asText_endsAtFirst (s : Scalar) : EndsAtFirst s.asText s.textFaults := by
  cases s with
  | int n => exact int_endsAtFirst n _
  | _ => exact endsAtFirst_ok _

theorem display_endsAtFirst (s : Scalar) : EndsAtFirst s.display s.textFaults := by
  cases s with
  | text _ | date _ | dateTime _ => exact endsAtFirst_ok _
  | int n => exact asText_endsAtFirst (int n)
  | _ => exact endsAtFirst_ok _

theorem displaySet_endsAtFirst (items : List Scalar) :
    EndsAtFirst (displaySet items) (items.flatMap textFaults) := by
  unfold displaySet
  split
  · rename_i hempty
    rw [List.isEmpty_iff.mp hempty]
    exact endsAtFirst_ok _
  · exact (endsAtFirst_mapM fun s _ => display_endsAtFirst s).map _

theorem toJson_endsAtFirst (s : Scalar) : EndsAtFirst s.toJson s.jsonFaults := by
  cases s with
  | int n => exact int_endsAtFirst n _
  | bytes _ | date _ | dateTime _ => exact endsAtFirst_error _ _
  | _ => exact endsAtFirst_ok _

theorem toKey_endsAtFirst (s : Scalar) : EndsAtFirst s.toKey s.keyFaults := by
  cases s with
  | int n => exact int_endsAtFirst n _
  | bytes _ | date _ | dateTime _ => exact endsAtFirst_error _ _
  | _ => exact endsAtFirst_ok _

end Scalar

namespace Document

mutual

/-- The faults of a document that is displayed. A knot inside itself is not displayed again. -/
def displayFaults (path : List Nat) : Document → List Fault
  | scalar s => s.textFaults
  | list items => itemsDisplayFaults path items
  | mapping entries => entriesDisplayFaults path entries
  | pair key value => displayFaults path key ++ displayFaults path value
  | set items => items.flatMap Scalar.textFaults
  | knot label body => if path.contains label then [] else displayFaults (label :: path) body
  | back .. => []

def itemsDisplayFaults (path : List Nat) : List Document → List Fault
  | [] => []
  | d :: ds => displayFaults path d ++ itemsDisplayFaults path ds

def entriesDisplayFaults (path : List Nat) : List (Scalar × Document) → List Fault
  | [] => []
  | (key, d) :: entries =>
    key.textFaults ++ displayFaults path d ++ entriesDisplayFaults path entries

end

def textFaults (d : Document) : List Fault := displayFaults [] d

mutual

def jsonFaults : Document → List Fault
  | scalar s => s.jsonFaults
  | list items => itemsJsonFaults items
  | mapping entries => entriesJsonFaults entries
  | pair key value => jsonFaults key ++ jsonFaults value
  | set _ => [.notWritable "set"]
  | knot _ body => jsonFaults body
  | back .. => [.containsItself]

def itemsJsonFaults : List Document → List Fault
  | [] => []
  | d :: ds => jsonFaults d ++ itemsJsonFaults ds

def entriesJsonFaults : List (Scalar × Document) → List Fault
  | [] => []
  | (key, d) :: entries => key.keyFaults ++ jsonFaults d ++ entriesJsonFaults entries

end

mutual

theorem display_endsAtFirst (path : List Nat) :
    (d : Document) → EndsAtFirst (display path d) (displayFaults path d)
  | scalar s => by
    rw [display, displayFaults]
    exact s.display_endsAtFirst
  | list items => by
    rw [display, displayFaults]
    exact (displayItems_endsAtFirst path items).map _
  | mapping entries => by
    rw [display, displayFaults]
    exact (displayEntries_endsAtFirst path entries).map _
  | pair key value => by
    rw [display, displayFaults]
    apply (display_endsAtFirst path key).bind
    intro k _
    exact (display_endsAtFirst path value).map fun v => bracketed '(' ')' [k, v]
  | set items => by
    rw [display, displayFaults]
    exact Scalar.displaySet_endsAtFirst items
  | knot label body => by
    rw [display, displayFaults]
    split
    · exact endsAtFirst_ok _
    · exact display_endsAtFirst (label :: path) body
  | back _ _ => by
    rw [display, displayFaults]
    exact endsAtFirst_ok _

theorem displayItems_endsAtFirst (path : List Nat) :
    (items : List Document) →
      EndsAtFirst (displayItems path items) (itemsDisplayFaults path items)
  | [] => by
    rw [displayItems, itemsDisplayFaults]
    exact endsAtFirst_ok _
  | d :: ds => by
    rw [displayItems, itemsDisplayFaults]
    apply (display_endsAtFirst path d).bind
    intro s _
    exact (displayItems_endsAtFirst path ds).map (s :: ·)

theorem displayEntries_endsAtFirst (path : List Nat) :
    (entries : List (Scalar × Document)) →
      EndsAtFirst (displayEntries path entries) (entriesDisplayFaults path entries)
  | [] => by
    rw [displayEntries, entriesDisplayFaults]
    exact endsAtFirst_ok _
  | (key, d) :: entries => by
    rw [displayEntries, entriesDisplayFaults, List.append_assoc]
    apply key.display_endsAtFirst.bind
    intro k _
    apply (display_endsAtFirst path d).bind
    intro s _
    exact (displayEntries_endsAtFirst path entries).map ((k ++ ": " ++ s) :: ·)

end

mutual

theorem toJson_endsAtFirst : (d : Document) → EndsAtFirst d.toJson d.jsonFaults
  | scalar s => by
    rw [toJson, jsonFaults]
    exact s.toJson_endsAtFirst
  | list items => by
    rw [toJson, jsonFaults]
    exact (itemsToJson_endsAtFirst items).map _
  | mapping entries => by
    rw [toJson, jsonFaults]
    exact (entriesToJson_endsAtFirst entries).map _
  | pair key value => by
    rw [toJson, jsonFaults]
    apply (toJson_endsAtFirst key).bind
    intro k _
    exact (toJson_endsAtFirst value).map fun v => Json.arr [k, v]
  | set _ => by
    rw [toJson, jsonFaults]
    exact endsAtFirst_error _ _
  | knot _ body => by
    rw [toJson, jsonFaults]
    exact toJson_endsAtFirst body
  | back _ _ => by
    rw [toJson, jsonFaults]
    exact endsAtFirst_error _ _

theorem itemsToJson_endsAtFirst :
    (items : List Document) → EndsAtFirst (itemsToJson items) (itemsJsonFaults items)
  | [] => by
    rw [itemsToJson, itemsJsonFaults]
    exact endsAtFirst_ok _
  | d :: ds => by
    rw [itemsToJson, itemsJsonFaults]
    apply (toJson_endsAtFirst d).bind
    intro j _
    exact (itemsToJson_endsAtFirst ds).map (j :: ·)

theorem entriesToJson_endsAtFirst :
    (entries : List (Scalar × Document)) →
      EndsAtFirst (entriesToJson entries) (entriesJsonFaults entries)
  | [] => by
    rw [entriesToJson, entriesJsonFaults]
    exact endsAtFirst_ok _
  | (key, d) :: entries => by
    rw [entriesToJson, entriesJsonFaults, List.append_assoc]
    apply key.toKey_endsAtFirst.bind
    intro k _
    apply (toJson_endsAtFirst d).bind
    intro j _
    exact (entriesToJson_endsAtFirst entries).map ((k, j) :: ·)

end

theorem text_endsAtFirst (d : Document) : EndsAtFirst d.text d.textFaults := by
  unfold textFaults
  cases d with
  -- A scalar that stands alone is not quoted, but has the same faults.
  | scalar s =>
    rw [displayFaults]
    exact s.asText_endsAtFirst
  | _ => exact display_endsAtFirst [] _

theorem text?_endsAtFirst (d : Document) : EndsAtFirst d.text? d.textFaults := by
  unfold text?
  split
  · exact endsAtFirst_ok _
  · exact d.text_endsAtFirst.map some

theorem textFaults_eq_nil_of_not_isSomething {d : Document} (h : d.isSomething = false) :
    d.textFaults = [] := by
  unfold textFaults
  cases d with
  | scalar s =>
    rw [displayFaults]
    cases s with
    | int n =>
      have hn : n = 0 := by simpa [isSomething] using h
      rw [hn, Scalar.textFaults, if_pos Numeral.isWritable_zero]
    | _ => rfl
  | list items =>
    have hitems : items = [] := by simpa [isSomething] using h
    rw [hitems, displayFaults, itemsDisplayFaults]
  | mapping entries =>
    have hentries : entries = [] := by simpa [isSomething] using h
    rw [hentries, displayFaults, entriesDisplayFaults]
  | set items =>
    have hitems : items = [] := by simpa [isSomething] using h
    rw [hitems, displayFaults, List.flatMap_nil]
  | _ => cases h

/-- A text in the place of nothing changes no fault. -/
theorem textFaults_orElse (d : Document) (s : String) :
    (d.orElse (scalar (.text s))).textFaults = d.textFaults := by
  unfold orElse
  split
  · rfl
  · rename_i h
    rw [Bool.not_eq_true] at h
    rw [textFaults_eq_nil_of_not_isSomething h]
    rfl

mutual

theorem displayFaults_ofJson (path : List Nat) :
    (j : Json) → j.isWritable = true → displayFaults path (ofJson j) = []
  | .null, _ | .bool _, _ | .float _, _ | .str _, _ => by
    rw [ofJson, displayFaults]
    rfl
  | .int n, h => by
    rw [Json.isWritable] at h
    rw [ofJson, displayFaults, Scalar.textFaults, if_pos h]
  | .arr items, h => by
    rw [Json.isWritable] at h
    rw [ofJson, displayFaults, itemsDisplayFaults_ofItems path items h]
  | .obj fields, h => by
    rw [Json.isWritable] at h
    rw [ofJson, displayFaults, entriesDisplayFaults_ofFields path fields h]

theorem itemsDisplayFaults_ofItems (path : List Nat) :
    (js : List Json) → Json.areWritable js = true → itemsDisplayFaults path (ofItems js) = []
  | [], _ => by rw [ofItems, itemsDisplayFaults]
  | j :: js, h => by
    rw [Json.areWritable, Bool.and_eq_true] at h
    rw [ofItems, itemsDisplayFaults, displayFaults_ofJson path j h.1,
      itemsDisplayFaults_ofItems path js h.2, List.append_nil]

theorem entriesDisplayFaults_ofFields (path : List Nat) :
    (fields : List (String × Json)) → Json.areWritableFields fields = true →
      entriesDisplayFaults path (ofFields fields) = []
  | [], _ => by rw [ofFields, entriesDisplayFaults]
  | (key, j) :: fields, h => by
    rw [Json.areWritableFields, Bool.and_eq_true] at h
    rw [ofFields, entriesDisplayFaults, displayFaults_ofJson path j h.1,
      entriesDisplayFaults_ofFields path fields h.2]
    rfl

end

theorem IsJson.textFaults_eq_nil {d : Document} (h : d.IsJson) : d.textFaults = [] := by
  obtain ⟨j, hj, rfl⟩ := h
  exact displayFaults_ofJson [] j hj

theorem IsJson.jsonFaults_eq_nil {d : Document} (h : d.IsJson) : d.jsonFaults = [] := by
  obtain ⟨j, hj, rfl⟩ := h
  exact (toJson_endsAtFirst _).nil_of_ok (toJson_ofJson j hj)

end Document

end RunCharts
