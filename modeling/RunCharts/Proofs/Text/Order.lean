import Mathlib.Data.List.Lex
import RunCharts.Text.Surrogate

/-!
# The order of texts

Texts are ordered by the code points that their characters stand for. Different characters stand for
different code points, so the order is strict and total. Items that have texts of their own are in
one order by them.
-/

namespace RunCharts.Text

theorem codes_injective {s t : String} (h : s.toList.map code = t.toList.map code) : s = t :=
  String.toList_inj.mp (List.map_injective_iff.mpr (fun _ _ => code_injective) h)

theorem precedes_iff {s t : String} :
    precedes s t = true ↔ s.toList.map code < t.toList.map code := decide_eq_true_iff

theorem precedes_irrefl (s : String) : precedes s s = false := by
  rw [← Bool.not_eq_true, precedes_iff]
  exact lt_irrefl _

theorem precedes_trans {s t u : String} (hst : precedes s t = true) (htu : precedes t u = true) :
    precedes s u = true :=
  precedes_iff.mpr (lt_trans (precedes_iff.mp hst) (precedes_iff.mp htu))

theorem not_precedes_of_precedes {s t : String} (h : precedes s t = true) :
    precedes t s = false := by
  rw [← Bool.not_eq_true]
  intro h'
  have := precedes_trans h h'
  rw [precedes_irrefl] at this
  cases this

theorem precedes_or_eq_or_precedes (s t : String) :
    precedes s t = true ∨ s = t ∨ precedes t s = true := by
  rcases lt_trichotomy (s.toList.map code) (t.toList.map code) with h | h | h
  · exact .inl (precedes_iff.mpr h)
  · exact .inr (.inl (codes_injective h))
  · exact .inr (.inr (precedes_iff.mpr h))

theorem precedes_of_not_precedes {s t : String} (h : precedes t s = false) (hne : s ≠ t) :
    precedes s t = true := by
  rcases precedes_or_eq_or_precedes s t with hst | hst | hts
  · exact hst
  · exact absurd hst hne
  · rw [h] at hts
    cases hts

/-- What a sort by this order needs: the texts that do not come after a text are transitive. -/
theorem not_precedes_trans {s t u : String} (hst : precedes t s = false)
    (htu : precedes u t = false) : precedes u s = false := by
  by_cases hs : s = t
  · rwa [hs]
  · by_cases ht : t = u
    · rwa [← ht]
    · exact not_precedes_of_precedes
        (precedes_trans (precedes_of_not_precedes hst hs) (precedes_of_not_precedes htu ht))

section

variable {α : Type} {key : α → String} {xs ys : List α}

theorem pairwise_mergeSort (h : (xs.map key).Nodup) :
    (xs.mergeSort fun a b => !precedes (key b) (key a)).Pairwise
      fun a b => precedes (key a) (key b) = true := by
  have hsorted : (xs.mergeSort fun a b => !precedes (key b) (key a)).Pairwise
      fun a b => (!precedes (key b) (key a)) = true := by
    apply List.pairwise_mergeSort
    · intro a b c hab hbc
      rw [Bool.not_eq_true'] at hab hbc ⊢
      exact not_precedes_trans hab hbc
    · intro a b
      rcases precedes_or_eq_or_precedes (key a) (key b) with hab | hab | hab
      · simp [not_precedes_of_precedes hab]
      · simp [hab, precedes_irrefl]
      · simp [not_precedes_of_precedes hab]
  have hkeys :=
    ((List.mergeSort_perm xs fun a b => !precedes (key b) (key a)).map key).nodup_iff.mpr h
  refine hsorted.imp₂ ?_ (List.pairwise_map.mp hkeys)
  intro a b hab hne
  exact precedes_of_not_precedes ((Bool.not_eq_true' _).mp hab) hne

theorem mergeSort_eq_of_perm (h : (ys.map key).Nodup) (hperm : xs.Perm ys) :
    (xs.mergeSort fun a b => !precedes (key b) (key a)) =
      ys.mergeSort fun a b => !precedes (key b) (key a) := by
  have hsorted := (List.mergeSort_perm xs fun a b => !precedes (key b) (key a)).trans
    (hperm.trans (List.mergeSort_perm ys fun a b => !precedes (key b) (key a)).symm)
  refine hsorted.eq_of_pairwise ?_ (pairwise_mergeSort ((hperm.map key).nodup_iff.mpr h))
    (pairwise_mergeSort h)
  intro a b _ _ hab hba
  rw [not_precedes_of_precedes hab] at hba
  cases hba

end

end RunCharts.Text
