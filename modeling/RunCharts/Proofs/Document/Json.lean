import Mathlib.Data.List.Basic
import RunCharts.Document.File
import RunCharts.Document.Json
import RunCharts.Proofs.Json.Sound

/-!
# Documents that came from JSON

Every part of such a document came from JSON as well, and all of it can be written again.
-/

namespace RunCharts.Document

/-- A document that came from a JSON tree which can be written. -/
def IsJson (d : Document) : Prop := ∃ j : Json, j.isWritable = true ∧ d = ofJson j

def AreJson (entries : List (Scalar × Document)) : Prop := ∀ e ∈ entries, e.2.IsJson

theorem isJson_of_ofJsonText {s : String} {d : Document} (h : ofJsonText s = .ok d) :
    d.IsJson := by
  unfold ofJsonText at h
  cases hread : Json.read .allowed s with
  | error e =>
    rw [hread] at h
    cases h
  | ok j =>
    rw [hread] at h
    cases h
    exact ⟨j, Json.isWritable_of_read hread, rfl⟩

theorem isJson_null : null.IsJson := ⟨.null, by rw [Json.isWritable], rfl⟩

theorem opened_ofJson (j : Json) : (ofJson j).opened = ofJson j := by
  cases j <;> rfl

theorem isJson_of_mem_ofItems {js : List Json} (h : Json.areWritable js = true) {d : Document}
    (hd : d ∈ ofItems js) : d.IsJson := by
  induction js with
  | nil => cases hd
  | cons j js ih =>
    rw [Json.areWritable, Bool.and_eq_true] at h
    rw [ofItems] at hd
    rcases List.mem_cons.mp hd with rfl | hd
    · exact ⟨j, h.1, rfl⟩
    · exact ih h.2 hd

theorem areJson_ofFields {fields : List (String × Json)}
    (h : Json.areWritableFields fields = true) : AreJson (ofFields fields) := by
  induction fields with
  | nil =>
    intro e he
    cases he
  | cons f fields ih =>
    obtain ⟨key, j⟩ := f
    rw [Json.areWritableFields, Bool.and_eq_true] at h
    intro e he
    rw [ofFields] at he
    rcases List.mem_cons.mp he with rfl | he
    · exact ⟨j, h.1, rfl⟩
    · exact ih h.2 e he

theorem exists_text_of_mem_ofFields {fields : List (String × Json)} {e : Scalar × Document}
    (he : e ∈ ofFields fields) : ∃ s, e.1 = .text s := by
  induction fields with
  | nil => cases he
  | cons f fields ih =>
    obtain ⟨key, j⟩ := f
    rw [ofFields] at he
    rcases List.mem_cons.mp he with rfl | he
    · exact ⟨key, rfl⟩
    · exact ih he

section

variable {d : Document} {entries : List (Scalar × Document)} {items : List Document}

theorem AreJson.get (h : AreJson entries) (key : String) : (Document.get key entries).IsJson := by
  induction entries with
  | nil => exact isJson_null
  | cons e entries ih =>
    obtain ⟨k, value⟩ := e
    rw [Document.get]
    split
    · exact h _ List.mem_cons_self
    · exact ih fun e he => h e (List.mem_cons_of_mem _ he)

theorem IsJson.areJson_entries? (h : d.IsJson) (he : d.entries? = some entries) :
    AreJson entries := by
  obtain ⟨j, hj, rfl⟩ := h
  rw [entries?, opened_ofJson] at he
  cases j with
  | obj fields =>
    cases he
    rw [Json.isWritable] at hj
    exact areJson_ofFields hj
  | _ => cases he

theorem IsJson.exists_text_of_mem_entries? (h : d.IsJson) (he : d.entries? = some entries)
    {e : Scalar × Document} (hmem : e ∈ entries) : ∃ s, e.1 = .text s := by
  obtain ⟨j, -, rfl⟩ := h
  rw [entries?, opened_ofJson] at he
  cases j with
  | obj fields =>
    cases he
    exact exists_text_of_mem_ofFields hmem
  | _ => cases he

theorem IsJson.areJson_entries (h : d.IsJson) : AreJson d.entries := by
  unfold Document.entries
  cases he : d.entries? with
  | none =>
    intro e he
    cases he
  | some entries => exact h.areJson_entries? he

theorem IsJson.isJson_of_mem_items? (h : d.IsJson) (hi : d.items? = some items) :
    ∀ item ∈ items, item.IsJson := by
  obtain ⟨j, hj, rfl⟩ := h
  rw [items?, opened_ofJson] at hi
  cases j with
  | arr js =>
    cases hi
    rw [Json.isWritable] at hj
    exact fun _ hitem => isJson_of_mem_ofItems hj hitem
  | _ => cases hi

theorem IsJson.areJson_of_mem_records (h : d.IsJson) (he : entries ∈ d.records) :
    AreJson entries := by
  obtain ⟨item, hitem, hentries⟩ := List.mem_filterMap.mp he
  cases hi : d.items? with
  | none =>
    rw [hi] at hitem
    cases hitem
  | some items =>
    rw [hi] at hitem
    exact (h.isJson_of_mem_items? hi item hitem).areJson_entries? hentries

theorem IsJson.orElse {e : Document} (h : d.IsJson) (he : e.IsJson) : (d.orElse e).IsJson := by
  unfold Document.orElse
  split
  · exact h
  · exact he

theorem exists_itemsToJson (h : ∀ item ∈ items, item.IsJson) :
    ∃ trees, itemsToJson items = .ok trees := by
  induction items with
  | nil => exact ⟨[], rfl⟩
  | cons item items ih =>
    obtain ⟨j, hj, rfl⟩ := h item List.mem_cons_self
    obtain ⟨trees, htrees⟩ := ih fun d hd => h d (List.mem_cons_of_mem _ hd)
    refine ⟨j :: trees, ?_⟩
    rw [itemsToJson, toJson_ofJson j hj, htrees]
    rfl

end

end RunCharts.Document
