import Mathlib.Data.List.Forall2
import Mathlib.Data.List.Induction
import RunCharts.Entries

/-!
# Entries put one after another

What comes of putting many entries into an empty list: every key once, in the order of the first
occurrences, with the last of its values. The inductions put one entry more at the end.
-/

namespace RunCharts

section

variable {α β γ : Type} [BEq α] [LawfulBEq α]

theorem eraseDups_concat_of_mem {keys : List α} {key : α} (h : key ∈ keys) :
    (keys ++ [key]).eraseDups = keys.eraseDups := by
  rw [List.eraseDups_append]
  simp [List.removeAll, h]

theorem eraseDups_concat_of_not_mem {keys : List α} {key : α} (h : key ∉ keys) :
    (keys ++ [key]).eraseDups = keys.eraseDups ++ [key] := by
  rw [List.eraseDups_append]
  simp [List.removeAll, h, List.eraseDups_cons]

theorem nodup_eraseDups (keys : List α) : keys.eraseDups.Nodup := by
  induction keys using List.reverseRecOn with
  | nil => simp
  | append_singleton keys key ih =>
    by_cases h : key ∈ keys
    · rwa [eraseDups_concat_of_mem h]
    · rw [eraseDups_concat_of_not_mem h, List.nodup_append]
      refine ⟨ih, by simp, ?_⟩
      intro a ha b hb
      rw [List.mem_singleton.mp hb]
      rintro rfl
      exact h (List.mem_eraseDups.mp ha)

/-- What is kept stands in the order of its first occurrences. -/
theorem pairwise_idxOf_eraseDups (keys : List α) :
    keys.eraseDups.Pairwise fun a b => keys.idxOf a < keys.idxOf b := by
  induction keys using List.reverseRecOn with
  | nil => simp
  | append_singleton keys key ih =>
    have hidx : ∀ {a}, a ∈ keys.eraseDups → (keys ++ [key]).idxOf a = keys.idxOf a := fun ha =>
      List.idxOf_append_of_mem (List.mem_eraseDups.mp ha)
    have hkept : keys.eraseDups.Pairwise fun a b =>
        (keys ++ [key]).idxOf a < (keys ++ [key]).idxOf b :=
      ih.imp_of_mem fun ha hb hab => by rwa [hidx ha, hidx hb]
    by_cases h : key ∈ keys
    · rwa [eraseDups_concat_of_mem h]
    · rw [eraseDups_concat_of_not_mem h, List.pairwise_append]
      refine ⟨hkept, List.pairwise_singleton _ _, ?_⟩
      intro a ha b hb
      have hlast : (keys ++ [key]).idxOf key = keys.length := by
        rw [List.idxOf_append_of_notMem h]
        simp
      rw [List.mem_singleton.mp hb, hlast, hidx ha]
      exact List.idxOf_lt_length_of_mem (List.mem_eraseDups.mp ha)

theorem length_eraseDups_le (keys : List α) : keys.eraseDups.length ≤ keys.length := by
  induction keys using List.reverseRecOn with
  | nil => simp
  | append_singleton keys key ih =>
    rw [List.length_append, List.length_singleton]
    by_cases h : key ∈ keys
    · rw [eraseDups_concat_of_mem h]
      omega
    · rw [eraseDups_concat_of_not_mem h, List.length_append, List.length_singleton]
      omega

theorem length_eraseDups_eq_iff {keys : List α} :
    keys.eraseDups.length = keys.length ↔ keys.Nodup := by
  induction keys using List.reverseRecOn with
  | nil => simp
  | append_singleton keys key ih =>
    rw [List.nodup_append, ← ih, List.length_append, List.length_singleton]
    by_cases h : key ∈ keys
    · have hle := length_eraseDups_le keys
      rw [eraseDups_concat_of_mem h]
      constructor
      · intro heq
        omega
      · rintro ⟨-, -, hne⟩
        exact absurd rfl (hne key h key List.mem_cons_self)
    · rw [eraseDups_concat_of_not_mem h, List.length_append, List.length_singleton]
      constructor
      · intro heq
        refine ⟨by omega, by simp, ?_⟩
        intro a ha b hb hab
        rw [List.mem_singleton.mp hb] at hab
        exact h (hab ▸ ha)
      · rintro ⟨heq, -, -⟩
        omega

theorem keys_upsert_of_mem {key : α} {value : β} {entries : List (α × β)}
    (h : key ∈ entries.map Prod.fst) :
    (upsert key value entries).map Prod.fst = entries.map Prod.fst := by
  induction entries with
  | nil => cases h
  | cons e entries ih =>
    obtain ⟨k, v⟩ := e
    by_cases hk : k = key
    · simp [upsert, hk]
    · have hmem : key ∈ entries.map Prod.fst := by
        rcases List.mem_cons.mp h with rfl | hmem
        · exact absurd rfl hk
        · exact hmem
      simp [upsert, hk, ih hmem]

theorem upsert_of_not_mem {key : α} {value : β} {entries : List (α × β)}
    (h : key ∉ entries.map Prod.fst) : upsert key value entries = entries ++ [(key, value)] := by
  induction entries with
  | nil => rfl
  | cons e entries ih =>
    obtain ⟨k, v⟩ := e
    rw [List.map_cons, List.mem_cons, not_or] at h
    simp [upsert, Ne.symm h.1, ih h.2]

omit [LawfulBEq α] in
theorem upsertAll_concat (entries : List (α × β)) (e : α × β) :
    upsertAll (entries ++ [e]) = upsert e.1 e.2 (upsertAll entries) := by
  rw [upsertAll, List.foldl_append]
  rfl

theorem keys_upsertAll (entries : List (α × β)) :
    (upsertAll entries).map Prod.fst = (entries.map Prod.fst).eraseDups := by
  induction entries using List.reverseRecOn with
  | nil => rfl
  | append_singleton entries e ih =>
    rw [upsertAll_concat, List.map_append, List.map_singleton]
    by_cases h : e.1 ∈ entries.map Prod.fst
    · have hmem : e.1 ∈ (upsertAll entries).map Prod.fst := by
        rw [ih]
        exact List.mem_eraseDups.mpr h
      rw [keys_upsert_of_mem hmem, eraseDups_concat_of_mem h, ih]
    · have hmem : e.1 ∉ (upsertAll entries).map Prod.fst := by
        rw [ih]
        exact fun hmem => h (List.mem_eraseDups.mp hmem)
      rw [upsert_of_not_mem hmem, eraseDups_concat_of_not_mem h, List.map_append, ih]
      rfl

theorem nodup_keys_upsertAll (entries : List (α × β)) :
    ((upsertAll entries).map Prod.fst).Nodup := by
  rw [keys_upsertAll]
  exact nodup_eraseDups _

theorem upsertAll_of_nodup {entries : List (α × β)} (h : (entries.map Prod.fst).Nodup) :
    upsertAll entries = entries := by
  induction entries using List.reverseRecOn with
  | nil => rfl
  | append_singleton entries e ih =>
    rw [List.map_append, List.nodup_append] at h
    have hnot : e.1 ∉ entries.map Prod.fst := fun hmem =>
      h.2.2 e.1 hmem e.1 List.mem_cons_self rfl
    rw [upsertAll_concat, ih h.1, upsert_of_not_mem hnot]

theorem lookup_upsertAll (key : α) (entries : List (α × β)) :
    lookup key (upsertAll entries) =
      ((entries.filter fun e => e.1 == key).getLast?).map Prod.snd := by
  induction entries using List.reverseRecOn with
  | nil => rfl
  | append_singleton entries e ih =>
    rw [upsertAll_concat, List.filter_append]
    by_cases h : e.1 = key
    · subst h
      rw [lookup_upsert_self]
      simp
    · rw [lookup_upsert_of_ne (Ne.symm h), ih]
      simp [h]

theorem mem_of_lookup {key : α} {value : β} {entries : List (α × β)}
    (h : lookup key entries = some value) : (key, value) ∈ entries := by
  induction entries with
  | nil => cases h
  | cons e entries ih =>
    obtain ⟨k, v⟩ := e
    rw [lookup] at h
    split at h
    · rename_i hk
      rw [← eq_of_beq hk, Option.some.inj h]
      exact List.mem_cons_self
    · exact List.mem_cons_of_mem _ (ih h)

theorem lookup_eq_some_iff_of_nodup {entries : List (α × β)} (h : (entries.map Prod.fst).Nodup)
    {key : α} {value : β} : lookup key entries = some value ↔ (key, value) ∈ entries := by
  induction entries with
  | nil => simp [lookup]
  | cons e entries ih =>
    obtain ⟨k, v⟩ := e
    rw [List.map_cons, List.nodup_cons] at h
    by_cases hk : k = key
    · subst hk
      have hnot : (k, value) ∉ entries := fun hmem => h.1 (List.mem_map.mpr ⟨_, hmem, rfl⟩)
      simp [lookup, hnot, eq_comm]
    · simp [lookup, hk, ih h.2, Ne.symm hk]

theorem isSome_lookup_iff {key : α} {entries : List (α × β)} :
    (lookup key entries).isSome = true ↔ key ∈ entries.map Prod.fst := by
  induction entries with
  | nil => simp [lookup]
  | cons e entries ih =>
    obtain ⟨k, v⟩ := e
    by_cases hk : k = key
    · simp [lookup, hk]
    · simp [lookup, hk, ih, Ne.symm hk]

theorem mem_upsertAll_iff {entries : List (α × β)} {key : α} {value : β} :
    (key, value) ∈ upsertAll entries ↔
      ((entries.filter fun e => e.1 == key).getLast?).map Prod.snd = some value := by
  rw [← lookup_upsertAll, lookup_eq_some_iff_of_nodup (nodup_keys_upsertAll entries)]

theorem mem_of_mem_upsertAll {entries : List (α × β)} {e : α × β} (h : e ∈ upsertAll entries) :
    e ∈ entries := by
  obtain ⟨key, value⟩ := e
  obtain ⟨e, he, hvalue⟩ := Option.map_eq_some_iff.mp (mem_upsertAll_iff.mp h)
  obtain ⟨hmem, hkey⟩ := List.mem_filter.mp (List.mem_of_getLast? he)
  rw [← eq_of_beq hkey, ← hvalue]
  exact hmem

end

section

variable {α β γ : Type} [BEq α] [LawfulBEq α] {R : β → γ → Prop}

def RelatedEntries (R : β → γ → Prop) : List (α × β) → List (α × γ) → Prop :=
  List.Forall₂ fun e e' => e.1 = e'.1 ∧ R e.2 e'.2

theorem RelatedEntries.upsert {key : α} {value : β} {value' : γ} (hvalue : R value value')
    {entries : List (α × β)} {entries' : List (α × γ)} (h : RelatedEntries R entries entries') :
    RelatedEntries R (upsert key value entries) (upsert key value' entries') := by
  induction h with
  | nil => exact .cons ⟨rfl, hvalue⟩ .nil
  | @cons e e' entries entries' he hrest ih =>
    obtain ⟨k, v⟩ := e
    obtain ⟨k', v'⟩ := e'
    obtain ⟨rfl, hv⟩ := he
    by_cases hk : k = key
    · simp only [RunCharts.upsert, hk, beq_self_eq_true, if_true]
      exact .cons ⟨rfl, hvalue⟩ hrest
    · simp only [RunCharts.upsert, beq_iff_eq, hk, if_false]
      exact .cons ⟨rfl, hv⟩ ih

theorem RelatedEntries.upsertAll {entries : List (α × β)} {entries' : List (α × γ)}
    (h : RelatedEntries R entries entries') :
    RelatedEntries R (upsertAll entries) (upsertAll entries') := by
  have hfold : ∀ {acc : List (α × β)} {acc' : List (α × γ)}, RelatedEntries R acc acc' →
      RelatedEntries R (entries.foldl (fun acc e => RunCharts.upsert e.1 e.2 acc) acc)
        (entries'.foldl (fun acc e => RunCharts.upsert e.1 e.2 acc) acc') := by
    induction h with
    | nil => exact id
    | cons he _ ih =>
      intro acc acc' hacc
      rw [List.foldl_cons, List.foldl_cons, he.1]
      exact ih (hacc.upsert he.2)
  exact hfold .nil

end

end RunCharts
