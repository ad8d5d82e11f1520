import RunCharts.Json.Printer
import RunCharts.Proofs.Entries
import RunCharts.Proofs.Json.Words
import RunCharts.Proofs.Text.Halves

/-!
# Trees that can be read back

What decides whether a written tree is read as it was: how deep its brackets nest, which of its
numbers are words, whether the keys of an object differ, and whether a text holds halves side by
side. `joined` is what a tree comes back as.
-/

namespace RunCharts.Json

@[elab_as_elim]
theorem treeInduction {P : Json → Prop} (null : P .null) (bool : ∀ b, P (.bool b))
    (int : ∀ n, P (.int n)) (float : ∀ x, P (.float x)) (str : ∀ s, P (.str s))
    (arr : ∀ items, (∀ j ∈ items, P j) → P (.arr items))
    (obj : ∀ fields, (∀ f ∈ fields, P f.2) → P (.obj fields)) (j : Json) : P j :=
  @Json.rec P (fun items => ∀ j ∈ items, P j) (fun fields => ∀ f ∈ fields, P f.2)
    (fun f => P f.2) null bool int float str arr obj nofun
    (fun _ _ hj hitems => List.forall_mem_cons.mpr ⟨hj, hitems⟩) nofun
    (fun _ _ hf hfields => List.forall_mem_cons.mpr ⟨hf, hfields⟩) (fun _ _ hj => hj) j

mutual

def constantNames : Json → List String
  | float x => if x.isFinite then [] else [numberStyle.text x]
  | arr items => constantNamesOfItems items
  | obj fields => constantNamesOfFields fields
  | null | bool _ | int _ | str _ => []

def constantNamesOfItems : List Json → List String
  | [] => []
  | item :: items => constantNames item ++ constantNamesOfItems items

def constantNamesOfFields : List (String × Json) → List String
  | [] => []
  | (_, value) :: fields => constantNames value ++ constantNamesOfFields fields

end

mutual

/-- A tree with halves that stand side by side joined. Keys that become equal are one key. -/
def joined : Json → Json
  | str s => str (Text.joined s)
  | arr items => arr (joinedItems items)
  | obj fields => obj (upsertAll (joinedFields fields))
  | null => null
  | bool b => bool b
  | int n => int n
  | float x => float x

def joinedItems : List Json → List Json
  | [] => []
  | item :: items => joined item :: joinedItems items

def joinedFields : List (String × Json) → List (String × Json)
  | [] => []
  | (key, value) :: fields => (Text.joined key, joined value) :: joinedFields fields

end

mutual

def everywhere (p : Json → Bool) : Json → Bool
  | arr items => p (arr items) && everywhereInItems p items
  | obj fields => p (obj fields) && everywhereInFields p fields
  | null => p null
  | bool b => p (bool b)
  | int n => p (int n)
  | float x => p (float x)
  | str s => p (str s)

def everywhereInItems (p : Json → Bool) : List Json → Bool
  | [] => true
  | item :: items => everywhere p item && everywhereInItems p items

def everywhereInFields (p : Json → Bool) : List (String × Json) → Bool
  | [] => true
  | (_, value) :: fields => everywhere p value && everywhereInFields p fields

end

def hasDistinctKeys : Json → Bool := everywhere fun
  | obj fields => decide (fields.map Prod.fst).Nodup
  | _ => true

def isWhole : Json → Bool := everywhere fun
  | str s => Text.isWhole s
  | obj fields => fields.all fun f => Text.isWhole f.1
  | _ => true

/-- Whether no text holds halves side by side. -/
def isJoined : Json → Bool := everywhere fun
  | str s => !Text.hasSplitPair s.toList
  | obj fields => fields.all fun f => !Text.hasSplitPair f.1.toList
  | _ => true

def hasNoNaN : Json → Bool := everywhere fun
  | float x => decide (x ≠ .nan)
  | _ => true

variable {items : List Json} {fields : List (String × Json)} {p q : Json → Bool} {j : Json}
  {n : Nat}

theorem depthOfItems_le_iff : depthOfItems items ≤ n ↔ ∀ j ∈ items, j.depth ≤ n := by
  induction items with
  | nil => simp [depthOfItems]
  | cons item items ih => rw [depthOfItems, Nat.max_le, ih, List.forall_mem_cons]

theorem depthOfFields_le_iff : depthOfFields fields ≤ n ↔ ∀ f ∈ fields, f.2.depth ≤ n := by
  induction fields with
  | nil => simp [depthOfFields]
  | cons f fields ih =>
    obtain ⟨key, value⟩ := f
    rw [depthOfFields, Nat.max_le, ih, List.forall_mem_cons]

theorem joinedItems_eq_map (items : List Json) : joinedItems items = items.map joined := by
  induction items with
  | nil => rw [joinedItems, List.map_nil]
  | cons item items ih => rw [joinedItems, ih, List.map_cons]

theorem joinedFields_eq_map (fields : List (String × Json)) :
    joinedFields fields = fields.map fun f => (Text.joined f.1, f.2.joined) := by
  induction fields with
  | nil => rw [joinedFields, List.map_nil]
  | cons f fields ih =>
    obtain ⟨key, value⟩ := f
    rw [joinedFields, ih, List.map_cons]

theorem everywhere_arr_iff : (arr items).everywhere p = true ↔
    p (arr items) = true ∧ ∀ j ∈ items, j.everywhere p = true := by
  have hitems : everywhereInItems p items = true ↔ ∀ j ∈ items, j.everywhere p = true := by
    induction items with
    | nil => simp [everywhereInItems]
    | cons item items ih => rw [everywhereInItems, Bool.and_eq_true, ih, List.forall_mem_cons]
  rw [everywhere, Bool.and_eq_true, hitems]

theorem everywhere_obj_iff : (obj fields).everywhere p = true ↔
    p (obj fields) = true ∧ ∀ f ∈ fields, f.2.everywhere p = true := by
  have hfields : everywhereInFields p fields = true ↔ ∀ f ∈ fields, f.2.everywhere p = true := by
    induction fields with
    | nil => simp [everywhereInFields]
    | cons f fields ih =>
      obtain ⟨key, value⟩ := f
      rw [everywhereInFields, Bool.and_eq_true, ih, List.forall_mem_cons]
  rw [everywhere, Bool.and_eq_true, hfields]

theorem everywhere_mono (hpq : ∀ j, p j = true → q j = true) (h : j.everywhere p = true) :
    j.everywhere q = true := by
  induction j using treeInduction with
  | arr items ih =>
    rw [everywhere_arr_iff] at h ⊢
    exact ⟨hpq _ h.1, fun j hj => ih j hj (h.2 j hj)⟩
  | obj fields ih =>
    rw [everywhere_obj_iff] at h ⊢
    exact ⟨hpq _ h.1, fun f hf => ih f hf (h.2 f hf)⟩
  | _ => exact hpq _ h

theorem hasDistinctKeys_arr_iff :
    (arr items).hasDistinctKeys = true ↔ ∀ j ∈ items, j.hasDistinctKeys = true :=
  everywhere_arr_iff.trans (and_iff_right rfl)

theorem hasDistinctKeys_obj_iff : (obj fields).hasDistinctKeys = true ↔
    (fields.map Prod.fst).Nodup ∧ ∀ f ∈ fields, f.2.hasDistinctKeys = true := by
  unfold hasDistinctKeys
  rw [everywhere_obj_iff, decide_eq_true_eq]

theorem hasNoNaN_arr_iff : (arr items).hasNoNaN = true ↔ ∀ j ∈ items, j.hasNoNaN = true :=
  everywhere_arr_iff.trans (and_iff_right rfl)

theorem hasNoNaN_obj_iff : (obj fields).hasNoNaN = true ↔ ∀ f ∈ fields, f.2.hasNoNaN = true :=
  everywhere_obj_iff.trans (and_iff_right rfl)

theorem isJoined_arr_iff : (arr items).isJoined = true ↔ ∀ j ∈ items, j.isJoined = true :=
  everywhere_arr_iff.trans (and_iff_right rfl)

theorem isJoined_obj_iff : (obj fields).isJoined = true ↔
    (∀ f ∈ fields, Text.hasSplitPair f.1.toList = false) ∧ ∀ f ∈ fields, f.2.isJoined = true := by
  unfold isJoined
  simp only [everywhere_obj_iff, List.all_eq_true, Bool.not_eq_true']

/-- Texts of characters hold no halves at all. -/
theorem isJoined_of_isWhole (h : j.isWhole = true) : j.isJoined = true := by
  refine everywhere_mono ?_ h
  intro j hj
  cases j with
  | str s => exact (Bool.not_eq_true' _).mpr (Text.hasSplitPair_of_isWhole hj)
  | obj fields =>
    dsimp only at hj ⊢
    rw [List.all_eq_true] at hj ⊢
    exact fun f hf => (Bool.not_eq_true' _).mpr (Text.hasSplitPair_of_isWhole (hj f hf))
  | _ => rfl

theorem areWritable_iff : areWritable items = true ↔ ∀ j ∈ items, j.isWritable = true := by
  induction items with
  | nil => simp [areWritable]
  | cons item items ih => rw [areWritable, Bool.and_eq_true, ih, List.forall_mem_cons]

theorem areWritableFields_iff :
    areWritableFields fields = true ↔ ∀ f ∈ fields, f.2.isWritable = true := by
  induction fields with
  | nil => simp [areWritableFields]
  | cons f fields ih =>
    obtain ⟨key, j⟩ := f
    simp [areWritableFields, ih]

theorem constantNames_eq_nil_iff : j.constantNames = [] ↔ j.hasFiniteNumbers = true := by
  induction j using treeInduction with
  | float x =>
    rw [constantNames, hasFiniteNumbers]
    split <;> simp_all
  | arr items ih =>
    rw [constantNames, hasFiniteNumbers]
    induction items with
    | nil => simp [constantNamesOfItems, haveFiniteNumbers]
    | cons item items ihitems =>
      rw [List.forall_mem_cons] at ih
      rw [constantNamesOfItems, haveFiniteNumbers, List.append_eq_nil_iff, Bool.and_eq_true, ih.1,
        ihitems ih.2]
  | obj fields ih =>
    rw [constantNames, hasFiniteNumbers]
    induction fields with
    | nil => simp [constantNamesOfFields, haveFiniteFields]
    | cons f fields ihfields =>
      obtain ⟨key, value⟩ := f
      rw [List.forall_mem_cons] at ih
      rw [constantNamesOfFields, haveFiniteFields, List.append_eq_nil_iff, Bool.and_eq_true, ih.1,
        ihfields ih.2]
  | _ => simp [constantNames, hasFiniteNumbers]

/-- A tree without halves side by side, and without a key twice, is joined as it is. -/
theorem joined_eq_self (hkeys : j.hasDistinctKeys = true) (hjoined : j.isJoined = true) :
    j.joined = j := by
  induction j using treeInduction with
  | str s =>
    rw [isJoined, everywhere, Bool.not_eq_true'] at hjoined
    rw [joined, Text.joined_eq_self hjoined]
  | arr items ih =>
    rw [hasDistinctKeys_arr_iff] at hkeys
    rw [isJoined_arr_iff] at hjoined
    have hitems : items.map joined = items.map id :=
      List.map_congr_left fun j hj => ih j hj (hkeys j hj) (hjoined j hj)
    rw [List.map_id] at hitems
    rw [joined, joinedItems_eq_map, hitems]
  | obj fields ih =>
    rw [hasDistinctKeys_obj_iff] at hkeys
    rw [isJoined_obj_iff] at hjoined
    have hfields : fields.map (fun f => (Text.joined f.1, f.2.joined)) = fields.map id := by
      apply List.map_congr_left
      intro f hf
      rw [Text.joined_eq_self (hjoined.1 f hf), ih f hf (hkeys.2 f hf) (hjoined.2 f hf)]
      rfl
    rw [List.map_id] at hfields
    rw [joined, joinedFields_eq_map, hfields, upsertAll_of_nodup hkeys.1]
  | _ => rw [joined]

end RunCharts.Json
