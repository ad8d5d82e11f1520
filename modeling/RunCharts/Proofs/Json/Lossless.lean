import RunCharts.Measurement.Value
import RunCharts.Proofs.Json.Ascii
import RunCharts.Proofs.Json.KeyOrder
import RunCharts.Provider.Queries
import RunCharts.Run.Document

/-!
# Trees that are written without loss

A tree with finite numbers, integers that are not too long, keys that differ and texts of Unicode
characters is read back from whatever text is written of it. A report has its keys in order, so
there it is the tree up to that order, and trees that differ in that order have one report.
-/

namespace RunCharts

namespace Json

/-- What a tree has to be like to be written without loss. Texts of characters only are joined, and
so are those that hold single halves. -/
structure IsLossless (j : Json) : Prop where
  writable : j.isWritable = true
  finite : j.hasFiniteNumbers = true
  keys : j.hasDistinctKeys = true
  joined : j.isJoined = true
  depth : j.depth ≤ Reader.depthLimit

/-- Whether a text is read as a tree, both in a file and in a measurement. -/
def ReadsAs (s : String) (j : Json) : Prop :=
  (∀ constants, read constants s = .ok j) ∧ Measurement.decode s = .ok j

variable {j : Json}

theorem ReadsAs.of_read {s : String} (h : ∀ constants, read constants s = .ok j) : ReadsAs s j :=
  ⟨h, by rw [Measurement.decode, h]; rfl⟩

namespace IsLossless

theorem of_isWhole (writable : j.isWritable = true) (finite : j.hasFiniteNumbers = true)
    (keys : j.hasDistinctKeys = true) (whole : j.isWhole = true)
    (depth : j.depth ≤ Reader.depthLimit) : j.IsLossless :=
  ⟨writable, finite, keys, isJoined_of_isWhole whole, depth⟩

theorem sorted (h : j.IsLossless) : j.sorted.IsLossless where
  writable := isWritable_sorted h.writable
  finite := by rw [hasFiniteNumbers_sorted, h.finite]
  keys := by rw [hasDistinctKeys_sorted, h.keys]
  joined := by rw [isJoined_sorted, h.joined]
  depth := depth_sorted_le h.depth

theorem of_mem {items : List Json} (h : (arr items).IsLossless) (hj : j ∈ items) :
    j.IsLossless where
  writable := areWritable_iff.mp (by have := h.writable; rwa [isWritable] at this) j hj
  finite := by
    have hfinite := h.finite
    rw [hasFiniteNumbers, haveFiniteNumbers_eq_all, List.all_eq_true] at hfinite
    exact hfinite j hj
  keys := hasDistinctKeys_arr_iff.mp h.keys j hj
  joined := isJoined_arr_iff.mp h.joined j hj
  depth := by
    have hdepth := h.depth
    rw [Json.depth] at hdepth
    exact depthOfItems_le_iff.mp (Nat.le_of_succ_le hdepth) j hj

theorem readsAs_text (h : j.IsLossless) {layout : Layout} (hlayout : IsReadable layout) :
    ReadsAs (j.text layout) j := by
  apply ReadsAs.of_read
  intro constants
  rw [read_text hlayout constants h.writable h.depth, constantNames_eq_nil_iff.mpr h.finite,
    joined_eq_self h.keys h.joined]
  cases constants <;> rfl

end IsLossless

end Json

open Json

/-- A value of a measurement that is neither null nor a text is written as JSON. -/
theorem Run.value?_of_json {entries : Entries} {j : Json} (hj : j.isWritable = true)
    (hget : Document.get "value" entries = .ofJson j) (hnull : j ≠ .null)
    (htext : ∀ s, j ≠ .str s) : value? entries = .ok (some (j.text .spaced)) := by
  have hjson := Document.toJson_ofJson j hj
  rw [value?, hget]
  cases j with
  | null => exact absurd rfl hnull
  | str s => exact absurd rfl (htext s)
  | _ => exact congrArg (Except.map fun j => some (j.text .spaced)) hjson

/-- Structured queries that came from JSON are each written as JSON. -/
theorem Provider.queries_of_json (args : List Argument) {items : List Json}
    (h : Json.areWritable items = true) :
    queries args (some (.cloudWatch (.ofJson (.arr items)))) =
      .ok (some (items.map (Json.text .compact))) := by
  have hitems := Document.itemsToJson_ofItems items h
  unfold queries
  simp only [Document.ofJson, Document.items?, Document.opened, hitems]
  rfl

theorem Provider.formulaQueries_of_named (args : List Argument) (named : List (String × String))
    (formula : String) : formulaQueries args none (some named) (some formula) =
      some ["queries: " ++ (queriesJson (named.map fun q => (q.1, Template.fill args q.2))).text
        .spaced ++ ", formula: " ++ Template.fill args formula] := rfl

/-- A lossless tree is read back from every text that is written of it: from a report, which is
ASCII and the same for trees that differ in the order of keys, as the tree in the order of its keys;
from one line, as plain text of an object, as structured queries, as the value of a measurement and
as named queries, as the tree. -/
theorem roundTrip (d : Json) (h : d.IsLossless) :
    (∀ width, AreAscii (d.report width).toList ∧ ReadsAs (d.report width) d.sorted) ∧
    SameUpToKeyOrder d d.sorted ∧
    (∀ d', SameUpToKeyOrder d d' → ∀ width, d'.report width = d.report width) ∧
    ReadsAs (d.text .compact) d ∧ ReadsAs (d.text .spaced) d ∧
    (∀ fields, d = .obj fields → ReadsAs d.plain d) ∧
    (∀ items args, d = .arr items → ∃ texts,
      Provider.queries args (some (.cloudWatch (.ofJson d))) = .ok (some texts) ∧
        List.Forall₂ ReadsAs texts items) ∧
    (∀ entries, Document.get "value" entries = .ofJson d → d ≠ .null → (∀ s, d ≠ .str s) →
      ∃ text, Run.value? entries = .ok (some text) ∧ ReadsAs text d) ∧
    (∀ args named formula,
      d = Provider.queriesJson (named.map fun q => (q.1, Template.fill args q.2)) → ∃ text,
        Provider.formulaQueries args none (some named) (some formula) =
          some ["queries: " ++ text ++ ", formula: " ++ Template.fill args formula] ∧
        ReadsAs text d) := by
  have hcompact := h.readsAs_text isReadable_compact
  have hspaced := h.readsAs_text isReadable_spaced
  refine ⟨?_, sameUpToKeyOrder_sorted d, ?_, hcompact, hspaced, ?_, ?_, ?_, ?_⟩
  · intro width
    refine ⟨?_, h.sorted.readsAs_text (isReadable_indented width)⟩
    rw [report, text, String.toList_ofList]
    exact areAscii_chars (isReadable_indented width) 0 _
  · intro d' hsame width
    rw [report, report, hsame.sorted_eq h.keys]
  · rintro fields rfl
    rwa [plain]
  · rintro items args rfl
    have hwritable := h.writable
    rw [isWritable] at hwritable
    refine ⟨_, Provider.queries_of_json args hwritable, ?_⟩
    rw [List.forall₂_map_left_iff, List.forall₂_same]
    exact fun j hj => (h.of_mem hj).readsAs_text isReadable_compact
  · intro entries hget hnull htext
    exact ⟨_, Run.value?_of_json h.writable hget hnull htext, hspaced⟩
  · rintro args named formula rfl
    exact ⟨_, Provider.formulaQueries_of_named args named formula, hspaced⟩

def sampleTree : Json :=
  .obj [("b", .arr [.int (-7), .float (.ofInt 3), .null, .bool true]), ("a", .str "\"😀\n")]

theorem roundTrip_sampleTree : sampleTree.IsLossless ∧
    ReadsAs (sampleTree.report 2) sampleTree.sorted ∧
    ReadsAs (sampleTree.text .compact) sampleTree := by
  have h : sampleTree.IsLossless := by
    apply IsLossless.of_isWhole <;> decide +kernel
  obtain ⟨hreport, -, -, hcompact, -⟩ := roundTrip sampleTree h
  exact ⟨h, (hreport 2).2, hcompact⟩

end RunCharts
