import RunCharts.Metric.Collection
import RunCharts.Proofs.Entries
import RunCharts.Proofs.Metric.Parts
import RunCharts.Proofs.Text.Order
import RunCharts.Proofs.Traversal

/-!
# Which metrics a run has

The results of a run are taken one after another, each under the name by which it is shown. What has
been collected after any number of them is said by `Accounts`: the names so far that have a spec, in
the order of their first occurrence, and under each name the metric of its first spec and its last
result. Nothing else of the run has a part in that metric.
-/

namespace RunCharts

namespace Metrics

def shown (results : List MetricResult) : List (String × MetricResult) :=
  results.zipIdx.map fun r => (r.1.displayName r.2, r.1)

def lastShown? (rs : List (String × MetricResult)) (name : String) : Option MetricResult :=
  ((rs.filter fun r => r.1 = name).getLast?).map Prod.snd

def hasMetric (spec : RunSpec) (name : String) : Bool := spec.metrics.any fun m => m.name = name

def outcomeOf (settings : Settings) (spec : RunSpec) (r : String × MetricResult) :
    Except Fault Outcome :=
  match spec.metric? r.1 with
  | none => .ok (.skipped r.1)
  | some m => (Metric.ofResult settings spec.args m r.1 r.2).map .kept

def ofShown (settings : Settings) (spec : RunSpec) (rs : List (String × MetricResult)) :
    Except Fault Metrics :=
  (rs.mapM (outcomeOf settings spec)).map ofOutcomes

def after (ms : Metrics) (o : Outcome) : Metrics :=
  ⟨o.entry?.elim ms.entries fun e => upsert e.1 e.2 ms.entries, ms.log ++ o.log⟩

variable {settings : Settings} {spec : RunSpec} {status : RunStatus}
  {rs : List (String × MetricResult)} {r : String × MetricResult} {ms : Metrics}

theorem hasMetric_eq_isSome (name : String) : hasMetric spec name = (spec.metric? name).isSome := by
  rw [Bool.eq_iff_iff, hasMetric, RunSpec.metric?, List.any_eq_true, List.find?_isSome]

theorem ofSnapshot_eq_ofShown :
    ofSnapshot settings ⟨some spec, some status⟩ =
      ofShown settings spec (shown status.results) := by
  unfold ofSnapshot ofShown shown
  rw [List.mapM_map]
  rfl

/-- Metrics come from a snapshot with a spec and a status. -/
theorem exists_ofShown {s : Snapshot} (h : ofSnapshot settings s = .ok ms) {e : String × Metric}
    (he : e ∈ ms.entries) : ∃ spec status, s.spec = some spec ∧ s.status = some status ∧
      ofShown settings spec (shown status.results) = .ok ms := by
  obtain ⟨spec?, status?⟩ := s
  cases spec? with
  | none =>
    cases h
    cases he
  | some spec =>
    cases status? with
    | none =>
      cases h
      cases he
    | some status => exact ⟨spec, status, rfl, rfl, ofSnapshot_eq_ofShown ▸ h⟩

theorem ofShown_eq_ok_iff : ofShown settings spec rs = .ok ms ↔
    ∃ outcomes, rs.mapM (outcomeOf settings spec) = .ok outcomes ∧ ms = ofOutcomes outcomes := by
  unfold ofShown
  cases rs.mapM (outcomeOf settings spec) <;> simp [Except.map, eq_comm]

theorem ofShown_eq_error_iff {fault : Fault} : ofShown settings spec rs = .error fault ↔
    rs.mapM (outcomeOf settings spec) = .error fault := by
  unfold ofShown
  cases rs.mapM (outcomeOf settings spec) <;> simp [Except.map]

theorem ofOutcomes_concat (outcomes : List Outcome) (o : Outcome) :
    ofOutcomes (outcomes ++ [o]) = (ofOutcomes outcomes).after o := by
  simp only [ofOutcomes, after, List.flatMap_append, List.flatMap_singleton, List.filterMap_append]
  cases ho : o.entry? with
  | none => simp [ho]
  | some e =>
    rw [List.filterMap_cons_some ho, List.filterMap_nil, upsertAll_concat]
    rfl

theorem ofShown_concat_eq_ok_iff : ofShown settings spec (rs ++ [r]) = .ok ms ↔
    ∃ ms' o, ofShown settings spec rs = .ok ms' ∧ outcomeOf settings spec r = .ok o ∧
      ms = ms'.after o := by
  rw [ofShown_eq_ok_iff]
  constructor
  · rintro ⟨outcomes, h, rfl⟩
    obtain ⟨front, back, hfront, hback, rfl⟩ := Traversal.mapM_append_eq_ok_iff.mp h
    obtain ⟨o, rest, ho, hrest, rfl⟩ := Traversal.mapM_cons_eq_ok_iff.mp hback
    cases hrest
    exact ⟨ofOutcomes front, o, ofShown_eq_ok_iff.mpr ⟨front, hfront, rfl⟩, ho,
      ofOutcomes_concat front o⟩
  · rintro ⟨ms', o, hms, ho, rfl⟩
    obtain ⟨outcomes, h, rfl⟩ := ofShown_eq_ok_iff.mp hms
    exact ⟨outcomes ++ [o],
      Traversal.mapM_append_eq_ok_iff.mpr ⟨outcomes, [o], h, Traversal.mapM_cons_ok ho rfl, rfl⟩,
      (ofOutcomes_concat outcomes o).symm⟩

theorem outcomeOf_eq_ok_iff {o : Outcome} : outcomeOf settings spec r = .ok o ↔
    (spec.metric? r.1 = none ∧ o = .skipped r.1) ∨
    ∃ s m, spec.metric? r.1 = some s ∧ Metric.ofResult settings spec.args s r.1 r.2 = .ok m ∧
      o = .kept m := by
  unfold outcomeOf
  cases spec.metric? r.1 with
  | none => simp [eq_comm]
  | some s =>
    cases hm : Metric.ofResult settings spec.args s r.1 r.2 with
    | error e => simp [hm, Except.map]
    | ok m => simp [hm, Except.map, eq_comm]

theorem outcomeOf_eq_error_iff {fault : Fault} : outcomeOf settings spec r = .error fault ↔
    ∃ s, spec.metric? r.1 = some s ∧
      Metric.ofResult settings spec.args s r.1 r.2 = .error fault := by
  unfold outcomeOf
  cases spec.metric? r.1 with
  | none => simp
  | some s =>
    cases hm : Metric.ofResult settings spec.args s r.1 r.2 <;> simp [hm, Except.map]

theorem lastShown?_concat_self : lastShown? (rs ++ [r]) r.1 = some r.2 := by
  rw [lastShown?, List.filter_append]
  simp

theorem lastShown?_concat_of_ne {name : String} (h : r.1 ≠ name) :
    lastShown? (rs ++ [r]) name = lastShown? rs name := by
  rw [lastShown?, lastShown?, List.filter_append]
  simp [h]

/-- What has been collected from results. -/
structure Accounts (settings : Settings) (spec : RunSpec) (rs : List (String × MetricResult))
    (ms : Metrics) : Prop where
  keys : ms.entries.map Prod.fst = ((rs.map Prod.fst).filter (hasMetric spec)).eraseDups
  lookup : ∀ name m, lookup name ms.entries = some m ↔ ∃ s r, spec.metric? name = some s ∧
    lastShown? rs name = some r ∧ Metric.ofResult settings spec.args s name r = .ok m

theorem accounts_nil : Accounts settings spec [] ⟨[], []⟩ := by
  refine ⟨rfl, ?_⟩
  intro name m
  constructor
  · intro h
    cases h
  · rintro ⟨s, r, -, hr, -⟩
    cases hr

/-- A result without a spec adds nothing to what has been collected. -/
theorem Accounts.skipped (h : Accounts settings spec rs ms) (hs : spec.metric? r.1 = none) :
    Accounts settings spec (rs ++ [r]) (ms.after (.skipped r.1)) := by
  have hnot : hasMetric spec r.1 = false := by rw [hasMetric_eq_isSome, hs]; rfl
  refine ⟨?_, ?_⟩
  · rw [List.map_append, List.map_singleton, List.filter_append,
      List.filter_cons_of_neg (by rw [hnot]; decide), List.filter_nil, List.append_nil]
    exact h.keys
  · intro name m
    by_cases hname : r.1 = name
    · subst hname
      constructor
      · intro hm
        obtain ⟨s, -, hs', -⟩ := (h.lookup r.1 m).mp hm
        rw [hs] at hs'
        cases hs'
      · rintro ⟨s, -, hs', -⟩
        rw [hs] at hs'
        cases hs'
    · rw [lastShown?_concat_of_ne hname]
      exact h.lookup name m

/-- A result with a spec takes the place of what was collected under its name. -/
theorem Accounts.kept (h : Accounts settings spec rs ms) {s : MetricSpec} {m : Metric}
    (hs : spec.metric? r.1 = some s) (hm : Metric.ofResult settings spec.args s r.1 r.2 = .ok m) :
    Accounts settings spec (rs ++ [r]) (ms.after (.kept m)) := by
  have hname : m.name = r.1 := Metric.name_of_ofResult hm
  have hentries : (ms.after (.kept m)).entries = upsert r.1 m ms.entries := by rw [← hname]; rfl
  have hhas : hasMetric spec r.1 = true := by rw [hasMetric_eq_isSome, hs]; rfl
  refine ⟨?_, ?_⟩
  · rw [hentries, List.map_append, List.map_singleton, List.filter_append,
      List.filter_cons_of_pos hhas, List.filter_nil]
    by_cases hmem : r.1 ∈ (rs.map Prod.fst).filter (hasMetric spec)
    · rw [eraseDups_concat_of_mem hmem, keys_upsert_of_mem, h.keys]
      rw [h.keys]
      exact List.mem_eraseDups.mpr hmem
    · rw [eraseDups_concat_of_not_mem hmem, upsert_of_not_mem, List.map_append, h.keys]
      · rfl
      · rw [h.keys]
        exact fun h' => hmem (List.mem_eraseDups.mp h')
  · intro name m'
    rw [hentries]
    by_cases hne : r.1 = name
    · subst hne
      rw [lookup_upsert_self, lastShown?_concat_self]
      constructor
      · intro h'
        cases h'
        exact ⟨s, r.2, hs, rfl, hm⟩
      · rintro ⟨s', r', hs', hr', hm'⟩
        rw [hs] at hs'
        cases hs'
        cases hr'
        rw [hm] at hm'
        cases hm'
        rfl
    · rw [lookup_upsert_of_ne (Ne.symm hne), lastShown?_concat_of_ne hne]
      exact h.lookup name m'

theorem accounts_of_ofShown (h : ofShown settings spec rs = .ok ms) :
    Accounts settings spec rs ms := by
  induction rs using List.reverseRecOn generalizing ms with
  | nil =>
    cases h
    exact accounts_nil
  | append_singleton rs r ih =>
    obtain ⟨ms', o, hms, ho, rfl⟩ := ofShown_concat_eq_ok_iff.mp h
    rcases outcomeOf_eq_ok_iff.mp ho with ⟨hs, rfl⟩ | ⟨s, m, hs, hm, rfl⟩
    · exact (ih hms).skipped hs
    · exact (ih hms).kept hs hm

theorem Accounts.nodup_keys (h : Accounts settings spec rs ms) :
    (ms.entries.map Prod.fst).Nodup := by
  rw [h.keys]
  exact nodup_eraseDups _

theorem Accounts.mem_entries_iff (h : Accounts settings spec rs ms) {name : String} {m : Metric} :
    (name, m) ∈ ms.entries ↔ ∃ s r, spec.metric? name = some s ∧
      lastShown? rs name = some r ∧ Metric.ofResult settings spec.args s name r = .ok m := by
  rw [← lookup_eq_some_iff_of_nodup h.nodup_keys, h.lookup]

theorem Accounts.names_eq_keys (h : Accounts settings spec rs ms) :
    (ms.entries.map Prod.snd).map Metric.name = ms.entries.map Prod.fst := by
  rw [List.map_map]
  apply List.map_congr_left
  rintro ⟨name, m⟩ hm
  obtain ⟨s, r, -, -, hof⟩ := h.mem_entries_iff.mp hm
  exact Metric.name_of_ofResult hof

/-- Every metric of a snapshot is made under its spec. -/
theorem exists_spec_ofResult {s : Snapshot} (h : ofSnapshot settings s = .ok ms) {m : Metric}
    (hm : m ∈ ms.entries.map Prod.snd) : ∃ runSpec spec name result, s.spec = some runSpec ∧
      Metric.ofResult settings runSpec.args spec name result = .ok m := by
  obtain ⟨⟨name, m'⟩, he, rfl⟩ := List.mem_map.mp hm
  obtain ⟨runSpec, status, hspec, -, hshown⟩ := exists_ofShown h he
  obtain ⟨spec, result, -, -, hof⟩ := (accounts_of_ofShown hshown).mem_entries_iff.mp he
  exact ⟨runSpec, spec, name, result, hspec, hof⟩

theorem exists_ofResult {s : Snapshot} (h : ofSnapshot settings s = .ok ms) {m : Metric}
    (hm : m ∈ ms.entries.map Prod.snd) : ∃ args spec name result,
      Metric.ofResult settings args spec name result = .ok m := by
  obtain ⟨runSpec, spec, name, result, -, hof⟩ := exists_spec_ofResult h hm
  exact ⟨runSpec.args, spec, name, result, hof⟩

theorem nodup_names {s : Snapshot} (h : ofSnapshot settings s = .ok ms) :
    (ms.sorted.map Metric.name).Nodup := by
  have hperm : ms.sorted.Perm (ms.entries.map Prod.snd) := List.mergeSort_perm _ _
  rw [(hperm.map Metric.name).nodup_iff]
  cases hentries : ms.entries with
  | nil => exact List.nodup_nil
  | cons e entries =>
    have he : e ∈ ms.entries := by
      rw [hentries]
      exact List.mem_cons_self
    obtain ⟨spec, status, -, -, hshown⟩ := exists_ofShown h he
    have haccounts := accounts_of_ofShown hshown
    rw [← hentries, haccounts.names_eq_keys]
    exact haccounts.nodup_keys

/-- Metrics that came in the order of their names are in order. -/
theorem sorted_of_pairwise (h : (ms.entries.map fun e => e.2.name).Pairwise
    fun a b => Text.precedes a b = true) : ms.sorted = ms.entries.map Prod.snd := by
  apply List.mergeSort_of_pairwise
  rw [List.pairwise_map] at h ⊢
  apply h.imp
  intro e e' hnames
  rw [Text.not_precedes_of_precedes hnames]
  rfl

end Metrics

end RunCharts
