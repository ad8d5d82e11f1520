import Mathlib.Data.List.Nodup
import RunCharts.Proofs.Metric.Collection
import RunCharts.Proofs.Run.Order

/-!
# Metrics of a run in another order

Where every result has a name of its own, the metrics are the pairs of a spec and a result of one
name, and the order of neither list is left in them once they are sorted.
-/

namespace RunCharts

theorem RunSpec.metric?_eq_some_iff {spec : RunSpec} (h : spec.HasDistinctNames) {name : String}
    {m : MetricSpec} : spec.metric? name = some m ↔ m ∈ spec.metrics ∧ m.name = name := by
  unfold metric?
  constructor
  · intro hm
    exact ⟨List.mem_of_find?_eq_some hm, by simpa using List.find?_some hm⟩
  · rintro ⟨hm, rfl⟩
    cases hfind : spec.metrics.find? fun m' => m'.name = m.name with
    | none => exact absurd (List.find?_eq_none.mp hfind m hm) (by simp)
    | some m' =>
      have hname : m'.name = m.name := by simpa using List.find?_some hfind
      rw [List.inj_on_of_nodup_map h (List.mem_of_find?_eq_some hfind) hm hname]

theorem RunSpec.Reordered.metric?_eq {spec spec' : RunSpec} (h : RunSpec.Reordered spec spec')
    (hnames : spec.HasDistinctNames) (name : String) : spec'.metric? name = spec.metric? name := by
  have hnames' : spec'.HasDistinctNames := (h.metrics.map MetricSpec.name).nodup_iff.mpr hnames
  apply Option.ext
  intro m
  rw [metric?_eq_some_iff hnames', metric?_eq_some_iff hnames, h.metrics.mem_iff]

namespace Metrics

variable {settings : Settings} {spec spec' : RunSpec} {status status' : RunStatus}
  {rs rs' : List (String × MetricResult)} {ms ms' : Metrics}

/-- A result that has a name is shown under it, whatever its place. -/
theorem shown_of_named {results : List MetricResult} (h : ∀ r ∈ results, r.name.isSome = true) :
    shown results = results.map fun r => (r.name.getD "", r) := by
  have hplace : ∀ r ∈ results.zipIdx, (r.1.displayName r.2, r.1) = (r.1.name.getD "", r.1) := by
    rintro ⟨r, place⟩ hr
    obtain ⟨name, hname⟩ := Option.isSome_iff_exists.mp (h r (List.fst_mem_of_mem_zipIdx hr))
    simp [MetricResult.displayName, hname]
  calc shown results = results.zipIdx.map fun r => (r.1.name.getD "", r.1) :=
        List.map_congr_left hplace
    _ = (results.zipIdx.map Prod.fst).map fun r => (r.name.getD "", r) := by rw [List.map_map]; rfl
    _ = results.map fun r => (r.name.getD "", r) := by rw [List.zipIdx_map_fst]

theorem shown_perm (hperm : status'.results.Perm status.results)
    (h : ∀ r ∈ status.results, r.name.isSome = true) :
    (shown status'.results).Perm (shown status.results) := by
  have h' : ∀ r ∈ status'.results, r.name.isSome = true := fun r hr => h r (hperm.mem_iff.mp hr)
  rw [shown_of_named h, shown_of_named h']
  exact hperm.map _

theorem nodup_shown (h : status.HasDistinctNames) :
    ((shown status.results).map Prod.fst).Nodup := by
  rw [shown_of_named h.named, List.map_map]
  refine List.Nodup.map_on ?_ (List.Nodup.of_map _ h.distinct)
  intro r hr r' hr' hname
  apply List.inj_on_of_nodup_map h.distinct hr hr'
  obtain ⟨name, hsome⟩ := Option.isSome_iff_exists.mp (h.named r hr)
  obtain ⟨name', hsome'⟩ := Option.isSome_iff_exists.mp (h.named r' hr')
  rw [hsome, hsome']
  simpa [hsome, hsome'] using hname

theorem lastShown?_eq_some_iff_of_nodup (h : (rs.map Prod.fst).Nodup) {name : String}
    {r : MetricResult} : lastShown? rs name = some r ↔ (name, r) ∈ rs := by
  have hlast : lastShown? rs name = lookup name (upsertAll rs) := by
    rw [lookup_upsertAll, lastShown?]
    rfl
  rw [hlast, upsertAll_of_nodup h, lookup_eq_some_iff_of_nodup h]

/-- Results under names of their own, in another order and with specs that are found alike, have the
same metrics. -/
theorem ofShown_perm (hspec : ∀ name, spec'.metric? name = spec.metric? name)
    (hargs : spec'.args = spec.args) (hperm : rs'.Perm rs) (hnodup : (rs.map Prod.fst).Nodup)
    (h : ofShown settings spec rs = .ok ms) :
    ∃ ms', ofShown settings spec' rs' = .ok ms' ∧ ms'.entries.Perm ms.entries := by
  have houtcome : outcomeOf settings spec' = outcomeOf settings spec := by
    funext r
    unfold outcomeOf
    rw [hspec, hargs]
  obtain ⟨outcomes, hmap, -⟩ := ofShown_eq_ok_iff.mp h
  obtain ⟨outcomes', hmap', -⟩ := Traversal.mapM_perm hperm hmap
  have h' : ofShown settings spec' rs' = .ok (ofOutcomes outcomes') :=
    ofShown_eq_ok_iff.mpr ⟨outcomes', by rw [houtcome, hmap'], rfl⟩
  refine ⟨_, h', ?_⟩
  have hms := accounts_of_ofShown h
  have hms' := accounts_of_ofShown h'
  have hnodup' : (rs'.map Prod.fst).Nodup := (hperm.map Prod.fst).nodup_iff.mpr hnodup
  rw [List.perm_ext_iff_of_nodup (.of_map _ hms'.nodup_keys) (.of_map _ hms.nodup_keys)]
  rintro ⟨name, m⟩
  rw [hms'.mem_entries_iff, hms.mem_entries_iff]
  simp only [lastShown?_eq_some_iff_of_nodup hnodup, lastShown?_eq_some_iff_of_nodup hnodup',
    hperm.mem_iff, hspec, hargs]

/-- There is one order by names for metrics of different names. -/
theorem sorted_eq_of_perm (hnames : ((ms.entries.map Prod.snd).map Metric.name).Nodup)
    (hperm : ms'.entries.Perm ms.entries) : ms'.sorted = ms.sorted :=
  Text.mergeSort_eq_of_perm hnames (hperm.map Prod.snd)

theorem ofSnapshot_reordered {s s' : Snapshot} (hspec : Option.Rel RunSpec.Reordered s.spec s'.spec)
    (hstatus : Option.Rel RunStatus.Reordered s.status s'.status)
    (hspecNames : ∀ spec ∈ s.spec, spec.HasDistinctNames)
    (hstatusNames : ∀ status ∈ s.status, status.HasDistinctNames)
    (h : ofSnapshot settings s = .ok ms) :
    ∃ ms', ofSnapshot settings s' = .ok ms' ∧ ms'.sorted = ms.sorted := by
  obtain ⟨spec?, status?⟩ := s
  obtain ⟨spec'?, status'?⟩ := s'
  cases hspec with
  | none => exact ⟨ms, h, rfl⟩
  | some hspec =>
    cases hstatus with
    | none => exact ⟨ms, h, rfl⟩
    | some hstatus =>
      have hnames := hstatusNames _ rfl
      rw [ofSnapshot_eq_ofShown] at h
      obtain ⟨ms', h', hperm⟩ := ofShown_perm (hspec.metric?_eq (hspecNames _ rfl)) hspec.args
        (shown_perm hstatus.results hnames.named) (nodup_shown hnames) h
      have hms := accounts_of_ofShown h
      refine ⟨ms', by rw [ofSnapshot_eq_ofShown, h'], sorted_eq_of_perm ?_ hperm⟩
      rw [hms.names_eq_keys]
      exact hms.nodup_keys

end Metrics

end RunCharts
