import Mathlib.Algebra.Order.BigOperators.Group.List
import Mathlib.Data.List.Nodup
import RunCharts.Proofs.Json.KeyOrder
import RunCharts.Proofs.Json.RoundTrip

/-!
# Reports that are read back

A report is read back as its tree with the keys in order and with halves that stand side by side
joined. Up to the order of keys that is the tree itself if and only if no text holds such halves:
joining them makes a text shorter, and the order of keys has no part in the length of texts.
-/

namespace RunCharts.Json

def reread (j : Json) : Json := j.sorted.joined

mutual

def textLength : Json → Nat
  | str s => s.length
  | arr items => textLengthOfItems items
  | obj fields => textLengthOfFields fields
  | null | bool _ | int _ | float _ => 0

def textLengthOfItems : List Json → Nat
  | [] => 0
  | item :: items => textLength item + textLengthOfItems items

def textLengthOfFields : List (String × Json) → Nat
  | [] => 0
  | (key, value) :: fields => key.length + textLength value + textLengthOfFields fields

end

variable {j j' : Json}

theorem textLength_arr (items : List Json) :
    (arr items).textLength = (items.map textLength).sum := by
  rw [textLength]
  induction items with
  | nil => rfl
  | cons item items ih => rw [textLengthOfItems, ih, List.map_cons, List.sum_cons]

theorem textLength_obj (fields : List (String × Json)) :
    (obj fields).textLength = (fields.map fun f => f.1.length + f.2.textLength).sum := by
  rw [textLength]
  induction fields with
  | nil => rfl
  | cons f fields ih =>
    obtain ⟨key, value⟩ := f
    rw [textLengthOfFields, ih, List.map_cons, List.sum_cons]

theorem textLength_obj_eq_zip (fields : List (String × Json)) : (obj fields).textLength =
    (((fields.map Prod.fst).zip ((fields.map Prod.snd).map textLength)).map
      fun e : String × Nat => e.1.length + e.2).sum := by
  rw [textLength_obj, List.map_map, List.zip_map', List.map_map]
  rfl

theorem SameUpToKeyOrder.textLength_eq (h : SameUpToKeyOrder j j') :
    j.textLength = j'.textLength := by
  induction j using treeInduction generalizing j' with
  | arr items ih =>
    cases h with
    | arr h =>
      rw [textLength_arr, textLength_arr, map_eq_of_forall₂ h fun j hj j' hsame => ih j hj hsame]
  | obj fields ih =>
    cases h with
    | obj hkeys hvalues hperm =>
      rename_i fields' fields''
      have hlengths : (fields.map Prod.snd).map textLength =
          (fields'.map Prod.snd).map textLength := by
        apply map_eq_of_forall₂ hvalues
        intro j hj j' hsame
        obtain ⟨f, hf, rfl⟩ := List.mem_map.mp hj
        exact ih f hf hsame
      have hfields : (Json.obj fields).textLength =
          (Json.obj fields').textLength := by
        rw [textLength_obj_eq_zip, textLength_obj_eq_zip, hkeys, hlengths]
      rw [hfields, textLength_obj, textLength_obj]
      exact (hperm.map _).sum_eq
  | _ => cases h; rfl

/-- Keys that become one take no length with them. -/
theorem textLength_obj_upsertAll_le (fields : List (String × Json)) :
    (obj (upsertAll fields)).textLength ≤ (obj fields).textLength := by
  have hnodup : (upsertAll fields).Nodup := .of_map Prod.fst (nodup_keys_upsertAll fields)
  obtain ⟨front, hperm, hsublist⟩ :=
    List.subperm_of_subset hnodup fun _ => mem_of_mem_upsertAll
  rw [textLength_obj, textLength_obj, ← (hperm.map _).sum_eq]
  exact (hsublist.map _).sum_le_sum fun _ _ => Nat.zero_le _

theorem textLength_joined_le (j : Json) : j.joined.textLength ≤ j.textLength := by
  induction j using treeInduction with
  | str s =>
    rw [joined, textLength, textLength, Text.length_joined]
    exact Text.length_joinHalves_le s.toList
  | arr items ih =>
    rw [joined, joinedItems_eq_map, textLength_arr, textLength_arr, List.map_map]
    exact List.sum_le_sum ih
  | obj fields ih =>
    rw [joined, joinedFields_eq_map]
    refine (textLength_obj_upsertAll_le _).trans ?_
    rw [textLength_obj, textLength_obj, List.map_map]
    apply List.sum_le_sum
    intro f hf
    have hkey := Text.length_joinHalves_le f.1.toList
    exact Nat.add_le_add ((Text.length_joined f.1).trans_le hkey) (ih f hf)
  | _ => rw [joined]

theorem textLength_joined_lt (h : j.isJoined = false) : j.joined.textLength < j.textLength := by
  induction j using treeInduction with
  | str s =>
    rw [isJoined, everywhere, Bool.not_eq_false'] at h
    rw [joined, textLength, textLength, Text.length_joined]
    exact Text.length_joinHalves_lt h
  | arr items ih =>
    rw [← Bool.not_eq_true, isJoined_arr_iff] at h
    push Not at h
    obtain ⟨j, hj, hsplit⟩ := h
    rw [joined, joinedItems_eq_map, textLength_arr, textLength_arr, List.map_map]
    exact List.sum_lt_sum _ _ (fun j _ => textLength_joined_le j)
      ⟨j, hj, ih j hj (Bool.eq_false_of_not_eq_true hsplit)⟩
  | obj fields ih =>
    rw [← Bool.not_eq_true, isJoined_obj_iff, not_and_or] at h
    rw [joined, joinedFields_eq_map]
    refine (textLength_obj_upsertAll_le _).trans_lt ?_
    rw [textLength_obj, textLength_obj, List.map_map]
    have hkey (f : String × Json) : (Text.joined f.1).length ≤ f.1.length :=
      (Text.length_joined f.1).trans_le (Text.length_joinHalves_le f.1.toList)
    refine List.sum_lt_sum _ _
      (fun f _ => Nat.add_le_add (hkey f) (textLength_joined_le f.2)) ?_
    rcases h with h | h
    · push Not at h
      obtain ⟨f, hf, hsplit⟩ := h
      rw [ne_eq, Bool.not_eq_false] at hsplit
      have hlt := (Text.length_joined f.1).trans_lt (Text.length_joinHalves_lt hsplit)
      exact ⟨f, hf, Nat.add_lt_add_of_lt_of_le hlt (textLength_joined_le f.2)⟩
    · push Not at h
      obtain ⟨f, hf, hsplit⟩ := h
      rw [ne_eq, Bool.not_eq_true] at hsplit
      exact ⟨f, hf, Nat.add_lt_add_of_le_of_lt (hkey f) (ih f hf hsplit)⟩
  | _ => cases h

/-- A tree is read from its report, whatever the indentation, and words for numbers are read too. -/
theorem read_report (h : j.isWritable = true) (hdepth : j.depth ≤ Reader.depthLimit)
    (width : Nat) : read .allowed (j.report width) = .ok j.reread := by
  rw [report, read_text (isReadable_indented width) .allowed (isWritable_sorted h)
    (depth_sorted_le hdepth)]
  rfl

/-- An object with keys that are not joined to anything is read back field by field. -/
theorem reread_obj {fields : List (String × Json)} (hkeys : (fields.map Prod.fst).Nodup)
    (hjoined : ∀ key ∈ fields.map Prod.fst, Text.hasSplitPair key.toList = false) :
    (obj fields).reread = obj (sortFields (fields.map fun f => (f.1, f.2.reread))) := by
  have hfields : joinedFields (sortFields (sortedFields fields)) =
      sortFields (fields.map fun f => (f.1, f.2.reread)) := by
    have hmap : joinedFields (sortFields (sortedFields fields)) =
        (sortFields (sortedFields fields)).map fun f => (f.1, f.2.joined) := by
      rw [joinedFields_eq_map]
      apply List.map_congr_left
      rw [forall_mem_sorted_iff]
      intro f hf
      rw [Text.joined_eq_self (hjoined f.1 (List.mem_map_of_mem hf))]
    rw [hmap, sortFields, List.map_mergeSort, sortedFields_eq_map, List.map_map]
    · rfl
    · exact fun _ _ _ _ => rfl
  have hnodup : ((sortFields (fields.map fun f => (f.1, f.2.reread))).map Prod.fst).Nodup := by
    rw [((sortFields_perm _).map Prod.fst).nodup_iff, List.map_map]
    exact hkeys
  rw [reread, sorted, joined, hfields, upsertAll_of_nodup hnodup]

/-- A tree is read back from a report as it was, up to the order of keys, if and only if no text of
it holds halves side by side. -/
theorem sameUpToKeyOrder_reread_iff (hkeys : j.hasDistinctKeys = true) :
    SameUpToKeyOrder j j.reread ↔ j.isJoined = true := by
  rw [reread]
  constructor
  · intro hsame
    by_contra hsplit
    rw [Bool.not_eq_true, ← isJoined_sorted] at hsplit
    have hlt := textLength_joined_lt hsplit
    rw [← hsame.textLength_eq, (sameUpToKeyOrder_sorted j).textLength_eq] at hlt
    exact lt_irrefl _ hlt
  · intro hjoined
    rw [← isJoined_sorted] at hjoined
    rw [← hasDistinctKeys_sorted] at hkeys
    rw [joined_eq_self hkeys hjoined]
    exact sameUpToKeyOrder_sorted j

end RunCharts.Json
