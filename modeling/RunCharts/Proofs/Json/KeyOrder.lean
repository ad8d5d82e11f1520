import Mathlib.Data.List.Forall2
import RunCharts.Proofs.Json.Trees
import RunCharts.Proofs.Text.Order

/-!
# The order of keys

Sorting the keys of a tree changes nothing but their order, and two trees that differ in nothing
else become the same tree.
-/

namespace RunCharts.Json

/-- Whether two trees differ in the order of keys only, at any depth. -/
inductive SameUpToKeyOrder : Json → Json → Prop
  | null : SameUpToKeyOrder null null
  | bool (b : Bool) : SameUpToKeyOrder (bool b) (bool b)
  | int (n : Int) : SameUpToKeyOrder (int n) (int n)
  | float (x : Binary64) : SameUpToKeyOrder (float x) (float x)
  | str (s : String) : SameUpToKeyOrder (str s) (str s)
  | arr {items items' : List Json} (h : List.Forall₂ SameUpToKeyOrder items items') :
      SameUpToKeyOrder (arr items) (arr items')
  | obj {fields fields' fields'' : List (String × Json)}
      (hkeys : fields.map Prod.fst = fields'.map Prod.fst)
      (hvalues : List.Forall₂ SameUpToKeyOrder (fields.map Prod.snd) (fields'.map Prod.snd))
      (hperm : fields'.Perm fields'') : SameUpToKeyOrder (obj fields) (obj fields'')

variable {j j' : Json} {items : List Json} {fields fields' : List (String × Json)}

theorem sortedItems_eq_map (items : List Json) : sortedItems items = items.map sorted := by
  induction items with
  | nil => rw [sortedItems, List.map_nil]
  | cons item items ih => rw [sortedItems, ih, List.map_cons]

theorem sortedFields_eq_map (fields : List (String × Json)) :
    sortedFields fields = fields.map fun f => (f.1, f.2.sorted) := by
  induction fields with
  | nil => rw [sortedFields, List.map_nil]
  | cons f fields ih =>
    obtain ⟨key, value⟩ := f
    rw [sortedFields, ih, List.map_cons]

theorem sortFields_perm (fields : List (String × Json)) : (sortFields fields).Perm fields :=
  List.mergeSort_perm _ _

theorem sortFields_eq_of_perm (h : (fields'.map Prod.fst).Nodup) (hperm : fields.Perm fields') :
    sortFields fields = sortFields fields' := Text.mergeSort_eq_of_perm h hperm

theorem keys_sortedFields (fields : List (String × Json)) :
    (sortedFields fields).map Prod.fst = fields.map Prod.fst := by
  rw [sortedFields_eq_map, List.map_map]
  rfl

/-- The fields of a sorted object are the fields, each with its value sorted. -/
theorem forall_mem_sorted_iff {p : String × Json → Prop} :
    (∀ f ∈ sortFields (sortedFields fields), p f) ↔ ∀ f ∈ fields, p (f.1, f.2.sorted) := by
  simp only [(sortFields_perm _).mem_iff, sortedFields_eq_map, List.forall_mem_map]

theorem sameUpToKeyOrder_sorted (j : Json) : SameUpToKeyOrder j j.sorted := by
  induction j using treeInduction with
  | null => rw [sorted]; exact .null
  | bool b => rw [sorted]; exact .bool b
  | int n => rw [sorted]; exact .int n
  | float x => rw [sorted]; exact .float x
  | str s => rw [sorted]; exact .str s
  | arr items ih =>
    rw [sorted, sortedItems_eq_map]
    exact .arr (List.forall₂_map_right_iff.mpr (List.forall₂_same.mpr ih))
  | obj fields ih =>
    rw [sorted]
    refine .obj (keys_sortedFields fields).symm ?_ (sortFields_perm _).symm
    rw [sortedFields_eq_map, List.map_map, List.forall₂_map_left_iff, List.forall₂_map_right_iff]
    exact List.forall₂_same.mpr ih

theorem map_eq_of_forall₂ {α β γ : Type} {R : α → β → Prop} {f : α → γ} {g : β → γ} {xs : List α}
    {ys : List β} (h : List.Forall₂ R xs ys) (hf : ∀ x ∈ xs, ∀ y, R x y → f x = g y) :
    xs.map f = ys.map g := by
  induction h with
  | nil => rfl
  | cons hxy _ ih =>
    rw [List.forall_mem_cons] at hf
    rw [List.map_cons, List.map_cons, hf.1 _ hxy, ih hf.2]

theorem sortedFields_eq_zip (fields : List (String × Json)) :
    sortedFields fields = (fields.map Prod.fst).zip ((fields.map Prod.snd).map sorted) := by
  rw [sortedFields_eq_map, List.map_map, List.zip_map']
  rfl

/-- Trees that differ in the order of keys only have one sorted form. -/
theorem SameUpToKeyOrder.sorted_eq (h : SameUpToKeyOrder j j') (hkeys : j.hasDistinctKeys = true) :
    j.sorted = j'.sorted := by
  induction j using treeInduction generalizing j' with
  | arr items ih =>
    cases h with
    | arr h =>
      rw [hasDistinctKeys_arr_iff] at hkeys
      have hitems := map_eq_of_forall₂ h fun j hj j' hsame => ih j hj hsame (hkeys j hj)
      rw [sorted, sorted, sortedItems_eq_map, sortedItems_eq_map, hitems]
  | obj fields ih =>
    cases h with
    | obj hnames hvalues hperm =>
      rename_i fields' fields''
      rw [hasDistinctKeys_obj_iff] at hkeys
      have hsorted : (fields.map Prod.snd).map sorted = (fields'.map Prod.snd).map sorted := by
        apply map_eq_of_forall₂ hvalues
        intro j hj j' hsame
        obtain ⟨f, hf, rfl⟩ := List.mem_map.mp hj
        exact ih f hf hsame (hkeys.2 f hf)
      have hfields : sortedFields fields = sortedFields fields' := by
        rw [sortedFields_eq_zip, sortedFields_eq_zip, hnames, hsorted]
      have hperm' : (sortedFields fields').Perm (sortedFields fields'') := by
        rw [sortedFields_eq_map, sortedFields_eq_map]
        exact hperm.map _
      have hnodup : ((sortedFields fields'').map Prod.fst).Nodup := by
        rw [keys_sortedFields, ← (hperm.map Prod.fst).nodup_iff, ← hnames]
        exact hkeys.1
      rw [sorted, sorted, hfields, sortFields_eq_of_perm hnodup hperm']
  | _ => cases h; rfl

/-! ### What sorting keeps -/

theorem isWritable_sorted (h : j.isWritable = true) : j.sorted.isWritable = true := by
  induction j using treeInduction with
  | arr items ih =>
    rw [isWritable, areWritable_iff] at h
    rw [sorted, sortedItems_eq_map, isWritable, areWritable_iff, List.forall_mem_map]
    exact fun j hj => ih j hj (h j hj)
  | obj fields ih =>
    rw [isWritable, areWritableFields_iff] at h
    rw [sorted, isWritable, areWritableFields_iff, forall_mem_sorted_iff]
    exact fun f hf => ih f hf (h f hf)
  | _ => rwa [sorted]

theorem depth_sorted_le {n : Nat} (h : j.depth ≤ n) : j.sorted.depth ≤ n := by
  induction j using treeInduction generalizing n with
  | arr items ih =>
    rw [depth] at h
    obtain ⟨n, rfl⟩ : ∃ m, n = m + 1 := ⟨n - 1, by omega⟩
    have hitems := depthOfItems_le_iff.mp (Nat.le_of_succ_le_succ h)
    rw [sorted, depth, sortedItems_eq_map]
    apply Nat.succ_le_succ
    rw [depthOfItems_le_iff, List.forall_mem_map]
    exact fun j hj => ih j hj (hitems j hj)
  | obj fields ih =>
    rw [depth] at h
    obtain ⟨n, rfl⟩ : ∃ m, n = m + 1 := ⟨n - 1, by omega⟩
    have hfields := depthOfFields_le_iff.mp (Nat.le_of_succ_le_succ h)
    rw [sorted, depth]
    apply Nat.succ_le_succ
    rw [depthOfFields_le_iff, forall_mem_sorted_iff]
    exact fun f hf => ih f hf (hfields f hf)
  | _ => rwa [sorted]

theorem everywhere_sorted {p : Json → Bool}
    (hitems : ∀ items, p (arr (items.map sorted)) = p (arr items))
    (hfields : ∀ fields, p (obj (sortFields (sortedFields fields))) = p (obj fields)) :
    j.sorted.everywhere p = j.everywhere p := by
  induction j using treeInduction with
  | arr items ih =>
    rw [Bool.eq_iff_iff, sorted, sortedItems_eq_map, everywhere_arr_iff, everywhere_arr_iff,
      List.forall_mem_map, hitems]
    exact and_congr_right' (forall₂_congr fun j hj => by rw [ih j hj])
  | obj fields ih =>
    rw [Bool.eq_iff_iff, sorted, everywhere_obj_iff, everywhere_obj_iff, forall_mem_sorted_iff,
      hfields]
    exact and_congr_right' (forall₂_congr fun f hf => by rw [ih f hf])
  | _ => rw [sorted]

theorem hasDistinctKeys_sorted (j : Json) : j.sorted.hasDistinctKeys = j.hasDistinctKeys := by
  refine everywhere_sorted (fun _ => rfl) ?_
  intro fields
  rw [decide_eq_decide, ((sortFields_perm _).map Prod.fst).nodup_iff, keys_sortedFields]

theorem isJoined_sorted (j : Json) : j.sorted.isJoined = j.isJoined := by
  refine everywhere_sorted (fun _ => rfl) ?_
  intro fields
  rw [Bool.eq_iff_iff, List.all_eq_true, List.all_eq_true, forall_mem_sorted_iff]

end RunCharts.Json
