import RunCharts.Proofs.Condition.Alignment
import RunCharts.Proofs.Metric.Cover

/-!
# The keys of a metric

The keys of both conditions, each once. Only one provider has keys of more than one kind.
-/

namespace RunCharts

namespace Metric

/-- The keys of both conditions as they were found, those of the failure condition first. -/
def foundKeys (args : List Argument) (spec : MetricSpec) : List String :=
  (Condition.read args spec.provider spec.failureCondition).keys ++
    (Condition.read args spec.provider spec.successCondition).keys

variable {args : List Argument} {spec : MetricSpec} {keys : List String}

theorem eq_zero_of_mem_foundKeys
    (h : ∀ query profile, spec.provider ≠ some (.newRelic query profile)) {key : String}
    (hkey : key ∈ foundKeys args spec) : key = "0" := by
  rcases List.mem_append.mp hkey with hkey | hkey
  · exact (Condition.read_keysFit _ _ _).eq_zero_of_mem h hkey
  · exact (Condition.read_keysFit _ _ _).eq_zero_of_mem h hkey

theorem eq_nil_or_singleton_of_nodup {key : String} (hnodup : keys.Nodup)
    (h : ∀ k ∈ keys, k = key) : keys = [] ∨ keys = [key] := by
  have hkeys : keys = List.replicate keys.length key := List.eq_replicate_of_mem h
  rw [hkeys, List.nodup_replicate] at hnodup
  rcases Nat.le_one_iff_eq_zero_or_eq_one.mp hnodup with hlength | hlength
  · exact .inl (List.eq_nil_of_length_eq_zero hlength)
  · rw [hlength] at hkeys
    exact .inr hkeys

theorem keysOfSpec_eq_nil_or_zero
    (h : ∀ query profile, spec.provider ≠ some (.newRelic query profile)) :
    keysOfSpec args spec = [] ∨ keysOfSpec args spec = ["0"] := by
  apply eq_nil_or_singleton_of_nodup
  · exact nodup_eraseDups _
  · intro key hkey
    exact eq_zero_of_mem_foundKeys h (List.mem_eraseDups.mp hkey)

end Metric

namespace Metrics

/-- The keys of a condition stand to its thresholds as its provider has it, whatever its text and
the arguments filled into it. The keys of a metric are the first occurrences of those that were
found in its conditions. -/
theorem keys_of_providers (settings : Settings) (s : Snapshot) :
    (∀ args provider text,
      (Condition.read args provider text).thresholds =
        (Condition.comparisons args provider text).map (·.threshold) ∧
      (∀ x ∈ (Condition.read args provider text).thresholds, x.isFinite = true) ∧
      (Condition.read args provider text).keys.length ≤
        (Condition.read args provider text).thresholds.length ∧
      Condition.KeysFit provider (Condition.comparisons args provider text)
        (Condition.read args provider text).keys) ∧
    ∀ ms, ofSnapshot settings s = .ok ms → ∀ m ∈ ms.entries.map Prod.snd,
      ∃ spec, s.spec = some spec ∧ m.keys.Nodup ∧
        (∀ key, key ∈ m.keys ↔ key ∈ Metric.foundKeys spec.args m.spec) ∧
        (m.keys.Pairwise fun a b =>
          (Metric.foundKeys spec.args m.spec).idxOf a <
            (Metric.foundKeys spec.args m.spec).idxOf b) ∧
        ((∀ query profile, m.spec.provider ≠ some (.newRelic query profile)) →
          m.keys = [] ∨ m.keys = ["0"]) := by
  constructor
  · intro args provider text
    exact ⟨(Condition.read_of_comparisons args provider text).1,
      fun x hx => Condition.isFinite_of_mem_thresholds hx, Condition.length_keys_le _ _ _,
      Condition.read_keysFit args provider text⟩
  · intro ms h m hm
    obtain ⟨runSpec, spec, name, result, hspec, hof⟩ := exists_spec_ofResult h hm
    have hkeys := Metric.keys_of_ofResult hof
    refine ⟨runSpec, hspec, ?_, ?_, ?_, ?_⟩
    · rw [hkeys]
      exact nodup_eraseDups _
    · intro key
      rw [hkeys]
      exact List.mem_eraseDups
    · rw [hkeys]
      exact pairwise_idxOf_eraseDups _
    · intro hprovider
      rw [hkeys]
      exact Metric.keysOfSpec_eq_nil_or_zero hprovider

def fieldsBesideItems : Snapshot :=
  ⟨some ⟨[⟨"errors", some (.newRelic none none), some "result.b < 5 && result.c < 6",
        some "result.a > 1 || result.b > 2", none, none, none⟩,
      ⟨"latency", some (.prometheus none), some "result[0] < 5 && result[0] > 1", none, none, none,
        none⟩], []⟩,
    some ⟨"Successful", none, [some "errors", some "latency"].map fun name =>
      ⟨name, "Successful", 0, 0, 0, 0, 0, 0, none, []⟩, ⟨0, 0, 0, 0, 0⟩, none⟩⟩

theorem keys_of_fieldsBesideItems : ∃ ms fields items,
    ofSnapshot .default fieldsBesideItems = .ok ms ∧
    fields ∈ ms.entries.map Prod.snd ∧ items ∈ ms.entries.map Prod.snd ∧
    Metric.foundKeys [] fields.spec = ["a", "b", "b", "c"] ∧ fields.keys.Nodup ∧
    (∀ key, key ∈ fields.keys ↔ key ∈ ["a", "b", "b", "c"]) ∧
    Metric.foundKeys [] items.spec = ["0", "0"] ∧ (items.keys = [] ∨ items.keys = ["0"]) := by
  have hfields : (ofSnapshot .default fieldsBesideItems).toOption.any (fun ms =>
      (ms.entries.map Prod.snd).any fun m =>
        decide (Metric.foundKeys [] m.spec = ["a", "b", "b", "c"])) = true := by
    decide +kernel
  have hitems : (ofSnapshot .default fieldsBesideItems).toOption.any (fun ms =>
      (ms.entries.map Prod.snd).any fun m => decide (Metric.foundKeys [] m.spec = ["0", "0"] ∧
        Provider.nameOf m.spec.provider = "prometheus")) = true := by
    decide +kernel
  obtain ⟨ms, fields, hms, hfields, hfound⟩ := exists_of_test hfields
  obtain ⟨ms', items, hms', hitems, htest⟩ := exists_of_test hitems
  obtain rfl : ms' = ms := Except.ok.inj (hms'.symm.trans hms)
  have hfound := of_decide_eq_true hfound
  obtain ⟨hzeros, hname⟩ := of_decide_eq_true htest
  obtain ⟨-, hkeys⟩ := keys_of_providers .default fieldsBesideItems
  obtain ⟨spec, hspec, hnodup, hmem, -, -⟩ := hkeys ms' hms fields hfields
  obtain ⟨-, -, -, -, -, hzero⟩ := hkeys ms' hms items hitems
  obtain rfl := Option.some.inj hspec
  refine ⟨ms', fields, items, hms, hfields, hitems, hfound, hnodup, ?_, hzeros, hzero ?_⟩
  · intro key
    rw [← hfound]
    exact hmem key
  · intro query profile hprovider
    rw [hprovider] at hname
    change "newRelic" = "prometheus" at hname
    exact absurd hname (by decide)

end Metrics

end RunCharts
