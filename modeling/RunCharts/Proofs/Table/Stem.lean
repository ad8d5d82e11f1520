import Mathlib.Data.List.DropRight
import RunCharts.Report

/-!
# Names of table files

The name of a table's file keeps of a metric's name what can stand in the name of a file. A plain
name is kept as it is; any other name shares its file with the plain name that is made of it. What
is made of a name is plain, so nothing in it leads out of the folder of the tables.
-/

namespace RunCharts.Table

/-- Whether a name can be the name of a file: it is made of safe characters and has no underscore at
either end. -/
def IsPlainName (name : String) : Prop :=
  name.toList ≠ [] ∧ (∀ c ∈ name.toList, isSafe c = true) ∧
    name.toList.head? ≠ some '_' ∧ name.toList.getLast? ≠ some '_'

instance (name : String) : Decidable (IsPlainName name) :=
  decidable_of_iff (name.toList ≠ [] ∧ name.toList.all isSafe = true ∧
    name.toList.head? ≠ some '_' ∧ name.toList.getLast? ≠ some '_')
    (by rw [IsPlainName, List.all_eq_true])

theorem isSafe_iff {c : Char} :
    isSafe c = true ↔ c.isAlphanum = true ∨ c = '_' ∨ c = '.' ∨ c = '-' := by
  have hupper : c.isUpper = ('A' ≤ c && c ≤ 'Z') := Bool.decide_and ..
  have halphanum : c.isAlphanum = (c.isUpper || c.isLower || c.isDigit) := rfl
  have hclasses : isSafe c = (c.isAlphanum || c == '_' || c == '.' || c == '-') := by
    rw [halphanum, hupper]
    rfl
  simp only [hclasses, Bool.or_eq_true, beq_iff_eq, or_assoc]

theorem isPlainName_iff {name : String} : IsPlainName name ↔ name ≠ "" ∧
    (∀ c ∈ name.toList, c.isAlphanum = true ∨ c = '_' ∨ c = '.' ∨ c = '-') ∧
      name.toList.head? ≠ some '_' ∧ name.toList.getLast? ≠ some '_' := by
  rw [IsPlainName, ne_eq, String.toList_eq_nil_iff]
  simp only [isSafe_iff, ne_eq]

theorem replaceUnsafe_of_safe {cs : List Char} (h : ∀ c ∈ cs, isSafe c = true) (inRun : Bool) :
    replaceUnsafe inRun cs = cs := by
  induction cs generalizing inRun with
  | nil => rfl
  | cons c cs ih =>
    have hc : isSafe c = true := h c List.mem_cons_self
    rw [replaceUnsafe, if_pos hc, ih (fun d hd => h d (List.mem_cons_of_mem c hd))]

theorem isSafe_of_mem_replaceUnsafe {cs : List Char} {inRun : Bool} {c : Char}
    (h : c ∈ replaceUnsafe inRun cs) : isSafe c = true := by
  induction cs generalizing inRun with
  | nil => cases h
  | cons d cs ih =>
    rw [replaceUnsafe] at h
    by_cases hd : isSafe d = true
    · rw [if_pos hd] at h
      rcases List.mem_cons.mp h with rfl | h
      · exact hd
      · exact ih h
    · rw [if_neg hd] at h
      cases inRun with
      | true => exact ih h
      | false =>
        rcases List.mem_cons.mp h with rfl | h
        · decide
        · exact ih h

section

variable {p : Char → Bool} {l : List Char} {c : Char}

theorem trim_eq_rdropWhile : Text.trim p l = (l.dropWhile p).rdropWhile p := rfl

theorem trim_of_ends (hhead : ∀ c, l.head? = some c → p c = false)
    (hlast : ∀ c, l.getLast? = some c → p c = false) : Text.trim p l = l := by
  have hfront : l.dropWhile p = l := by
    cases l with
    | nil => rfl
    | cons c cs =>
      have hc : p c = false := hhead c rfl
      rw [List.dropWhile_cons, hc]
      rfl
  rw [trim_eq_rdropWhile, hfront, List.rdropWhile_eq_self_iff]
  intro hne
  rw [hlast _ (List.getLast?_eq_some_getLast hne)]
  exact Bool.false_ne_true

theorem mem_of_mem_trim (h : c ∈ Text.trim p l) : c ∈ l :=
  (List.dropWhile_sublist p).subset ((List.rdropWhile_prefix p _).subset h)

theorem not_of_head?_trim (h : (Text.trim p l).head? = some c) : p c = false := by
  obtain ⟨rest, hrest⟩ : Text.trim p l <+: l.dropWhile p := List.rdropWhile_prefix p _
  have hhead : (l.dropWhile p).head? = some c := by
    rw [← hrest, List.head?_append, h]
    rfl
  have hnot := List.head?_dropWhile_not p l
  rw [hhead] at hnot
  simpa using hnot

theorem not_of_getLast?_trim (h : (Text.trim p l).getLast? = some c) : p c = false := by
  rw [trim_eq_rdropWhile] at h
  have hne : (l.dropWhile p).rdropWhile p ≠ [] := by
    intro hnil
    rw [hnil] at h
    cases h
  have hnot := List.rdropWhile_last_not p (l.dropWhile p) hne
  rw [List.getLast?_eq_some_getLast hne] at h
  cases h
  simpa using hnot

end

theorem fileStem_of_isPlainName {name : String} (h : IsPlainName name) : fileStem name = name := by
  obtain ⟨hne, hsafe, hhead, hlast⟩ := h
  have htrim : Text.trim (· == '_') name.toList = name.toList := by
    apply trim_of_ends
    · intro c hc
      rw [beq_eq_false_iff_ne]
      rintro rfl
      exact hhead hc
    · intro c hc
      rw [beq_eq_false_iff_ne]
      rintro rfl
      exact hlast hc
  rw [fileStem, replaceUnsafe_of_safe hsafe, htrim]
  simp [List.isEmpty_iff, hne]

/-- What is left of a name is a plain name, whatever the name. -/
theorem isPlainName_fileStem (name : String) : IsPlainName (fileStem name) := by
  unfold fileStem
  by_cases h : (Text.trim (· == '_') (replaceUnsafe false name.toList)).isEmpty = true
  · rw [if_pos h]
    decide
  · rw [if_neg h]
    unfold IsPlainName
    rw [String.toList_ofList]
    refine ⟨?_, ?_, ?_, ?_⟩
    · rwa [List.isEmpty_iff] at h
    · intro c hc
      exact isSafe_of_mem_replaceUnsafe (mem_of_mem_trim hc)
    · intro hhead
      have := not_of_head?_trim hhead
      cases this
    · intro hlast
      have := not_of_getLast?_trim hlast
      cases this

theorem fileStem_eq_self_iff {name : String} : fileStem name = name ↔ IsPlainName name := by
  constructor
  · intro h
    rw [← h]
    exact isPlainName_fileStem name
  · exact fileStem_of_isPlainName

/-! ### What is kept -/

def isKept (c : Char) : Bool := isSafe c && c != '_'

theorem filter_isKept_replaceUnsafe (inRun : Bool) (cs : List Char) :
    (replaceUnsafe inRun cs).filter isKept = cs.filter isKept := by
  induction cs generalizing inRun with
  | nil => rfl
  | cons c cs ih =>
    rw [replaceUnsafe]
    by_cases hc : isSafe c = true
    · rw [if_pos hc, List.filter_cons, List.filter_cons, ih]
    · have hnot : ¬isKept c = true := by simp [isKept, hc]
      rw [if_neg hc, List.filter_cons_of_neg hnot]
      cases inRun with
      | true => exact ih true
      | false => exact (List.filter_cons_of_neg (by decide)).trans (ih true)

theorem filter_trim {p q : Char → Bool} (h : ∀ c, p c = true → q c = false) (l : List Char) :
    (Text.trim p l).filter q = l.filter q := by
  have hdrop (l : List Char) : (l.dropWhile p).filter q = l.filter q := by
    have hfront : (l.takeWhile p).filter q = [] := by
      rw [List.filter_eq_nil_iff]
      intro c hc
      rw [h c (List.mem_takeWhile_imp hc)]
      exact Bool.false_ne_true
    conv_rhs => rw [← List.takeWhile_append_dropWhile (p := p) (l := l), List.filter_append, hfront]
    rfl
  rw [Text.trim, List.filter_reverse, hdrop, List.filter_reverse, List.reverse_reverse, hdrop]

theorem filter_isKept_stem (name : String) :
    (Text.trim (· == '_') (replaceUnsafe false name.toList)).filter isKept =
      name.toList.filter isKept := by
  rw [filter_trim (by simp [isKept]), filter_isKept_replaceUnsafe]

theorem filter_isKept_fileStem {name : String} (h : ∃ c ∈ name.toList, isKept c = true) :
    (fileStem name).toList.filter isKept = name.toList.filter isKept := by
  obtain ⟨c, hmem, hc⟩ := h
  have hne : Text.trim (· == '_') (replaceUnsafe false name.toList) ≠ [] := by
    intro hnil
    have hkept := List.mem_filter.mpr ⟨hmem, hc⟩
    rw [← filter_isKept_stem, hnil] at hkept
    cases hkept
  unfold fileStem
  dsimp only
  rw [if_neg (by rwa [List.isEmpty_iff]), String.toList_ofList, filter_isKept_stem]

theorem fileStem_of_nothing_kept {name : String} (h : ∀ c ∈ name.toList, isKept c = false) :
    fileStem name = "metric" := by
  have hnil : Text.trim (· == '_') (replaceUnsafe false name.toList) = [] := by
    by_contra hne
    -- The first character that is left is kept, for it is safe and no underscore.
    obtain ⟨c, cs, hcs⟩ := List.exists_cons_of_ne_nil hne
    have hmem : c ∈ Text.trim (· == '_') (replaceUnsafe false name.toList) := by
      rw [hcs]
      exact List.mem_cons_self
    have hsafe := isSafe_of_mem_replaceUnsafe (mem_of_mem_trim hmem)
    have hhead : (Text.trim (· == '_') (replaceUnsafe false name.toList)).head? = some c := by
      rw [hcs]
      rfl
    have hend := not_of_head?_trim hhead
    have hkept : c ∈ name.toList.filter isKept := by
      rw [← filter_isKept_stem]
      exact List.mem_filter.mpr ⟨hmem, by simp [isKept, hsafe, bne, hend]⟩
    obtain ⟨hname, hc⟩ := List.mem_filter.mp hkept
    rw [h c hname] at hc
    cases hc
  unfold fileStem
  rw [hnil]
  rfl

/-! ### The place of the file -/

theorem isSafe_of_mem_fileName {stem : String} (h : IsPlainName stem) (format : TableFormat)
    {c : Char} (hc : c ∈ (stem ++ "." ++ format.name).toList) : isSafe c = true := by
  have hending : ∀ c ∈ ("." ++ format.name).toList, isSafe c = true := by
    rw [← List.all_eq_true]
    cases format <;> decide
  rw [String.append_assoc, String.toList_append] at hc
  rcases List.mem_append.mp hc with hc | hc
  · exact h.2.1 c hc
  · exact hending c hc

theorem two_lt_length_fileName (stem : String) (format : TableFormat) :
    2 < (stem ++ "." ++ format.name).length := by
  have hending : 2 < ("." ++ format.name).length := by
    cases format <;> decide
  rw [String.append_assoc, String.length_append]
  omega

theorem path_of_tableStep {format : TableFormat} {m : Metric} {file : OutputFile}
    (h : (Report.tableStep format m).file = some file) :
    file.path = ["tables", fileStem m.name ++ "." ++ format.name] := by
  obtain ⟨text, -, rfl⟩ := Option.map_eq_some_iff.mp h
  rfl

/-- What is made of a name is plain, and it is the name itself just if that is plain already; so it
does not change when it is made once more. The letters and the like of a name are kept in their
order. The file of a table lies in the folder of the tables: its name has no separator of paths in
it, and does not stand for a folder. -/
theorem fileStem_normalForm (name : String) :
    (∀ s, IsPlainName s ↔ s ≠ "" ∧
      (∀ c ∈ s.toList, c.isAlphanum = true ∨ c = '_' ∨ c = '.' ∨ c = '-') ∧
        s.toList.head? ≠ some '_' ∧ s.toList.getLast? ≠ some '_') ∧
    IsPlainName (fileStem name) ∧
    fileStem (fileStem name) = fileStem name ∧
    (fileStem name = name ↔ IsPlainName name) ∧
    ((∃ c ∈ name.toList, isKept c = true) →
      (fileStem name).toList.filter isKept = name.toList.filter isKept) ∧
    ((∀ c ∈ name.toList, isKept c = false) → fileStem name = "metric") ∧
    ∀ format (m : Metric), ∀ file ∈ (Report.tableStep format m).file, ∃ last,
      file.path = ["tables", last] ∧ last = fileStem m.name ++ "." ++ format.name ∧
        '/' ∉ last.toList ∧ '\\' ∉ last.toList ∧ last ≠ "." ∧ last ≠ ".." := by
  have hplain := isPlainName_fileStem name
  refine ⟨fun s => isPlainName_iff, hplain, fileStem_of_isPlainName hplain,
    fileStem_eq_self_iff, filter_isKept_fileStem, fileStem_of_nothing_kept, ?_⟩
  intro format m file hfile
  refine ⟨_, path_of_tableStep hfile, rfl, ?_, ?_, ?_, ?_⟩
  · intro hc
    exact absurd (isSafe_of_mem_fileName (isPlainName_fileStem m.name) format hc) (by decide)
  · intro hc
    exact absurd (isSafe_of_mem_fileName (isPlainName_fileStem m.name) format hc) (by decide)
  all_goals
    intro heq
    have hlong := two_lt_length_fileName (fileStem m.name) format
    rw [heq] at hlong
    exact absurd hlong (by decide)

example : fileStem "p99 latency (ms)" = "p99_latency_ms" ∧ fileStem " /_" = "metric" := by decide

end RunCharts.Table
