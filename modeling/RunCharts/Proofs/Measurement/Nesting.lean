import RunCharts.Measurement.Reading
import RunCharts.Proofs.Json.Trees

/-!
# Values that nest too deeply

The text of a value is made call by call, and the calls that are open at once have a limit. Here it
is said which calls are open, by the way down into the value, and of which part of the value a text
is made at all. A value of small depth stays within the limit.
-/

namespace RunCharts

namespace Json

variable {j : Json} {n : Nat}

/-- While the plain text of a value is made, so many calls are open at some time. -/
inductive OpensCalls : Json → Nat → Prop
  | value (j : Json) : OpensCalls j 1
  | int (n : Int) : OpensCalls (.int n) 2
  | float (x : Binary64) : OpensCalls (.float x) 2
  | array (items : List Json) : OpensCalls (.arr items) 3
  | item {items : List Json} {item : Json} {n : Nat} (hmem : item ∈ items) (hitem : item ≠ .null)
      (h : OpensCalls item n) : OpensCalls (.arr items) (n + 3)
  | object (fields : List (String × Json)) : OpensCalls (.obj fields) ((Json.obj fields).depth + 5)

theorem callsOfItems_cons_of_ne_null {item : Json} (h : item ≠ .null) (items : List Json) :
    callsOfItems (item :: items) = max item.calls (callsOfItems items) := by
  cases item with
  | null => exact absurd rfl h
  | _ => rw [callsOfItems]; exact h

theorem callsOfItems_le_iff {items : List Json} :
    callsOfItems items ≤ n ↔ ∀ item ∈ items, item ≠ .null → item.calls ≤ n := by
  induction items with
  | nil => simp [callsOfItems]
  | cons item items ih =>
    by_cases hitem : item = .null
    · subst hitem
      simp [callsOfItems, ih]
    · rw [callsOfItems_cons_of_ne_null hitem, Nat.max_le, ih, List.forall_mem_cons]
      simp [hitem]

theorem exists_calls_of_lt_callsOfItems {items : List Json} (h : n < callsOfItems items) :
    ∃ item ∈ items, item ≠ .null ∧ n < item.calls := by
  by_contra hnone
  push Not at hnone
  exact absurd (callsOfItems_le_iff.mpr hnone) (Nat.not_le.mpr h)

theorem OpensCalls.le_calls (h : OpensCalls j n) : n ≤ j.calls := by
  induction h with
  | value j => cases j <;> simp [calls]
  | int n => rw [calls]
  | float x => rw [calls]
  | array items => simp [calls]
  | item hmem hitem _ ih =>
    rw [calls]
    exact Nat.add_le_add_right (ih.trans (callsOfItems_le_iff.mp le_rfl _ hmem hitem)) 3
  | object fields => rw [calls]

theorem exists_opensCalls (h : n < j.calls) : ∃ m, n < m ∧ OpensCalls j m := by
  induction j using treeInduction generalizing n with
  | null => exact ⟨1, h, .value _⟩
  | bool b => exact ⟨1, h, .value _⟩
  | str s => exact ⟨1, h, .value _⟩
  | int i => exact ⟨2, h, .int i⟩
  | float x => exact ⟨2, h, .float x⟩
  | arr items ih =>
    rw [calls] at h
    by_cases hn : n < 3
    · exact ⟨3, hn, .array items⟩
    · have hitems : n - 3 < callsOfItems items := by omega
      obtain ⟨item, hmem, hitem, hcalls⟩ := exists_calls_of_lt_callsOfItems hitems
      obtain ⟨m, hm, hopens⟩ := ih item hmem hcalls
      exact ⟨m + 3, by omega, .item hmem hitem hopens⟩
  | obj fields ih =>
    rw [calls] at h
    exact ⟨_, h, .object fields⟩

theorem lt_calls_iff : n < j.calls ↔ ∃ m, n < m ∧ OpensCalls j m :=
  ⟨exists_opensCalls, fun ⟨_, hm, hopens⟩ => hm.trans_le hopens.le_calls⟩

theorem calls_le (j : Json) : j.calls ≤ 3 * j.depth + 5 := by
  induction j using treeInduction with
  | null | bool _ | int _ | float _ | str _ => simp [calls]
  | arr items ih =>
    have hitems : callsOfItems items ≤ 3 * depthOfItems items + 5 := by
      rw [callsOfItems_le_iff]
      intro item hmem _
      have hdepth := depthOfItems_le_iff.mp le_rfl item hmem
      have hcalls := ih item hmem
      omega
    rw [calls, depth]
    omega
  | obj fields ih =>
    rw [calls]
    omega

end Json

namespace Measurement

variable {keys : List String} {j : Json}

/-- The part of a value that is shown as a text or as a number. -/
inductive Shows (keys : List String) : Json → Json → Prop
  | item {key : String} {items : List Json} {i : Nat} {item : Json} (hkeys : keys = [key])
      (hi : index? key = .ok (some i)) (hitem : items[i]? = some item) :
      Shows keys (.arr items) item
  | items {items : List Json} (hkeys : ∀ key, keys = [key] → index? key = .ok none) :
      Shows keys (.arr items) (.arr items)
  | field {key : String} {fields : List (String × Json)} {value : Json} (hkey : key ∈ keys)
      (hvalue : lookup key fields = some value) : Shows keys (.obj fields) value
  | object {fields : List (String × Json)} (hkeys : keys = []) :
      Shows keys (.obj fields) (.obj fields)

/-- A value of which a part is shown whose text takes more calls than there is room for. -/
def IsTooDeep (keys : List String) (j : Json) : Prop :=
  ∃ part, Shows keys j part ∧ ∃ n, Json.callLimit < n ∧ part.OpensCalls n

theorem shownParts_item {key : String} {i : Nat} (hi : index? key = .ok (some i)) (first : Json)
    (items : List Json) : shownParts [key] (.arr (first :: items)) =
      [(first :: items)[i]?.getD .null] := by
  simp [shownParts, hi]

theorem shownParts_items (hkeys : ∀ key, keys = [key] → index? key = .ok none) (first : Json)
    (items : List Json) :
    shownParts keys (.arr (first :: items)) = [.arr (first :: items)] := by
  match keys with
  | [key] => simp [shownParts, hkeys key rfl]
  | [] | _ :: _ :: _ => rfl

theorem mem_shownParts_of_shows {part : Json} (h : Shows keys j part)
    (hdeep : Json.callLimit < part.calls) : part ∈ shownParts keys j := by
  cases h with
  | @item key items i item hkeys hi hitem =>
    subst hkeys
    cases items with
    | nil => cases hitem
    | cons first items =>
      rw [shownParts_item hi, hitem]
      exact List.mem_singleton_self _
  | @items items hkeys =>
    cases items with
    | nil => exact absurd hdeep (by decide)
    | cons first items =>
      rw [shownParts_items hkeys]
      exact List.mem_singleton_self _
  | @field key fields value hkey hvalue =>
    have hne : keys.isEmpty = false := List.isEmpty_eq_false_iff.mpr (List.ne_nil_of_mem hkey)
    simp only [shownParts, hne]
    exact List.mem_filterMap.mpr ⟨key, hkey, hvalue⟩
  | object hkeys =>
    subst hkeys
    exact List.mem_singleton_self _

theorem shows_of_mem_items {first part : Json} {items : List Json}
    (h : part ∈ shownParts keys (.arr (first :: items))) (hdeep : Json.callLimit < part.calls) :
    Shows keys (.arr (first :: items)) part := by
  by_cases hkeys : ∀ key, keys = [key] → index? key = .ok none
  · rw [shownParts_items hkeys, List.mem_singleton] at h
    rw [h]
    exact .items hkeys
  · simp only [not_forall] at hkeys
    obtain ⟨key, rfl, hindex⟩ := hkeys
    cases hi : index? key with
    | error e => simp [shownParts, hi] at h
    | ok i =>
      cases i with
      | none => exact absurd hi hindex
      | some i =>
        rw [shownParts_item hi, List.mem_singleton] at h
        cases hitem : (first :: items)[i]? with
        | none =>
          -- Null stands for an item that is not there, and no text is made of it.
          rw [hitem] at h
          subst h
          exact absurd hdeep (by decide)
        | some item =>
          rw [hitem] at h
          subst h
          exact .item rfl hi hitem

theorem shows_of_mem_shownParts {part : Json} (h : part ∈ shownParts keys j)
    (hdeep : Json.callLimit < part.calls) : Shows keys j part := by
  match j with
  | .arr (first :: items) => exact shows_of_mem_items h hdeep
  | .obj fields =>
    rw [shownParts] at h
    split at h
    · rename_i hkeys
      rw [List.mem_singleton.mp h]
      exact .object (List.isEmpty_iff.mp hkeys)
    · obtain ⟨key, hkey, hvalue⟩ := List.mem_filterMap.mp h
      exact .field hkey hvalue
  | .null | .bool _ | .int _ | .float _ | .str _ | .arr [] =>
    rw [List.mem_singleton.mp h] at hdeep
    simp [Json.calls, Json.callsOfItems, Json.callLimit] at hdeep

theorem isTooDeep_iff :
    IsTooDeep keys j ↔ ∃ part ∈ shownParts keys j, Json.callLimit < part.calls := by
  simp only [IsTooDeep, ← Json.lt_calls_iff]
  constructor
  · rintro ⟨part, hshows, hdeep⟩
    exact ⟨part, mem_shownParts_of_shows hshows hdeep, hdeep⟩
  · rintro ⟨part, hmem, hdeep⟩
    exact ⟨part, shows_of_mem_shownParts hmem hdeep, hdeep⟩

theorem Shows.depth_le {part : Json} (h : Shows keys j part) : part.depth ≤ j.depth := by
  cases h with
  | item hkeys hi hitem =>
    rw [Json.depth]
    exact (Json.depthOfItems_le_iff.mp le_rfl _ (List.mem_of_getElem? hitem)).trans (Nat.le_succ _)
  | items hkeys => exact le_rfl
  | field hkey hvalue =>
    rw [Json.depth]
    exact (Json.depthOfFields_le_iff.mp le_rfl _ (mem_of_lookup hvalue)).trans (Nat.le_succ _)
  | object hkeys => exact le_rfl

theorem not_isTooDeep_of_depth (h : 3 * j.depth + 5 ≤ Json.callLimit) : ¬ IsTooDeep keys j := by
  rintro ⟨part, hshows, n, hn, hopens⟩
  have hdepth := hshows.depth_le
  have hcalls := hopens.le_calls.trans part.calls_le
  omega

end Measurement

end RunCharts
