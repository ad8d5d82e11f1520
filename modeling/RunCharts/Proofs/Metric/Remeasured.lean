import RunCharts.Proofs.Metric.Collection
import RunCharts.Proofs.Run.Order
import RunCharts.Proofs.Series.Bounds

/-!
# Metrics of a run with its measurements in another order

Each metric keeps all it has but the order of its rows. That relation passes from the results to the
outcomes, through the entries of one name, and through the sorting.
-/

namespace RunCharts

/-- Metrics that differ in the order of their measurements only. -/
structure Metric.Remeasured (m m' : Metric) : Prop where
  rows : m'.series.rows.Perm m.series.rows
  chartable : m'.series.chartable = m.series.chartable
  least : m'.series.least = m.series.least
  upper : m'.upper = m.upper
  result : MetricResult.Remeasured m.result m'.result
  rest : m' = { m with result := m'.result, series := m'.series }

theorem Metric.Remeasured.name_eq {m m' : Metric} (h : Metric.Remeasured m m') :
    m'.name = m.name := by
  rw [h.rest]

theorem Metric.exists_ofResult_remeasured {settings : Settings} {args : List Argument}
    {spec : MetricSpec} {name : String} {result result' : MetricResult} {m : Metric}
    (hresult : MetricResult.Remeasured result result')
    (h : ofResult settings args spec name result = .ok m) :
    ∃ m', ofResult settings args spec name result' = .ok m' ∧ Metric.Remeasured m m' := by
  obtain ⟨series, queries, hseries, hqueries, rfl⟩ := ofResult_eq_ok_iff.mp h
  obtain ⟨series', hseries', hrows, hchart, hleast, hgreatest⟩ :=
    Series.ofMeasurements_perm hresult.measurements hseries
  have hupper : (ofParts settings args spec name result' series' queries).upper =
      (ofParts settings args spec name result series queries).upper := by
    simp only [ofParts, hgreatest]
  refine ⟨_, ofResult_eq_ok_iff.mpr ⟨series', queries, hseries', hqueries, rfl⟩,
    hrows, hchart, hleast, hupper, hresult, ?_⟩
  simp only [ofParts, hgreatest]

namespace Metrics

variable {settings : Settings} {spec : RunSpec} {ms : Metrics}

inductive Outcome.Remeasured : Outcome → Outcome → Prop
  | skipped (name : String) : Outcome.Remeasured (.skipped name) (.skipped name)
  | kept {m m' : Metric} (h : Metric.Remeasured m m') : Outcome.Remeasured (.kept m) (.kept m')

theorem exists_outcomeOf_remeasured {r r' : String × MetricResult} {o : Outcome}
    (hr : r.1 = r'.1 ∧ MetricResult.Remeasured r.2 r'.2) (h : outcomeOf settings spec r = .ok o) :
    ∃ o', outcomeOf settings spec r' = .ok o' ∧ Outcome.Remeasured o o' := by
  obtain ⟨name, result⟩ := r
  obtain ⟨name', result'⟩ := r'
  obtain ⟨rfl, hresult⟩ := hr
  rcases outcomeOf_eq_ok_iff.mp h with ⟨hs, rfl⟩ | ⟨s, m, hs, hm, rfl⟩
  · exact ⟨_, outcomeOf_eq_ok_iff.mpr (.inl ⟨hs, rfl⟩), .skipped _⟩
  · obtain ⟨m', hm', hmm'⟩ := Metric.exists_ofResult_remeasured hresult hm
    exact ⟨_, outcomeOf_eq_ok_iff.mpr (.inr ⟨s, m', hs, hm', rfl⟩), .kept hmm'⟩

theorem shown_remeasured {results results' : List MetricResult}
    (h : List.Forall₂ MetricResult.Remeasured results results') :
    RelatedEntries MetricResult.Remeasured (shown results) (shown results') := by
  unfold shown
  -- The places are counted from any number, so that the tail is of the same form.
  generalize 0 = place
  induction h generalizing place with
  | nil => exact .nil
  | @cons r r' _ _ hr _ ih =>
    have hname : r'.name = r.name := by rw [hr.rest]
    refine .cons ⟨?_, hr⟩ (ih _)
    simp only [MetricResult.displayName, hname]

theorem entries_remeasured {outcomes outcomes' : List Outcome}
    (h : List.Forall₂ Outcome.Remeasured outcomes outcomes') :
    RelatedEntries Metric.Remeasured (outcomes.filterMap Outcome.entry?)
      (outcomes'.filterMap Outcome.entry?) := by
  induction h with
  | nil => exact .nil
  | cons ho _ ih =>
    cases ho with
    | skipped name => exact ih
    | kept hm => exact .cons ⟨hm.name_eq.symm, hm⟩ ih

theorem exists_ofShown_remeasured {rs rs' : List (String × MetricResult)}
    (hrs : RelatedEntries MetricResult.Remeasured rs rs') (h : ofShown settings spec rs = .ok ms) :
    ∃ ms', ofShown settings spec rs' = .ok ms' ∧
      RelatedEntries Metric.Remeasured ms.entries ms'.entries := by
  obtain ⟨outcomes, hmap, rfl⟩ := ofShown_eq_ok_iff.mp h
  obtain ⟨outcomes', hmap', hrelated⟩ :=
    Traversal.mapM_related hrs (fun _ _ _ hr ho => exists_outcomeOf_remeasured hr ho) hmap
  exact ⟨_, ofShown_eq_ok_iff.mpr ⟨outcomes', hmap', rfl⟩, (entries_remeasured hrelated).upsertAll⟩

/-- Lists of related items, compared alike, are sorted into lists of related items. -/
theorem forall₂_mergeSort {α β : Type} {R : α → β → Prop} {le : α → α → Bool}
    {le' : β → β → Bool} (hle : ∀ a b a' b', R a a' → R b b' → le a b = le' a' b')
    {xs : List α} {ys : List β} (h : List.Forall₂ R xs ys) :
    List.Forall₂ R (xs.mergeSort le) (ys.mergeSort le') := by
  obtain ⟨hlength, hpairs⟩ := List.forall₂_iff_zip.mp h
  have hleft : (xs.zip ys).map Prod.fst = xs := List.map_fst_zip (by omega)
  have hright : (xs.zip ys).map Prod.snd = ys := List.map_snd_zip (by omega)
  -- The pairs are sorted once; both lists are read off them.
  have hxs := List.map_mergeSort (f := Prod.fst) (r := fun p q => le p.1 q.1) (s := le)
    (l := xs.zip ys) fun _ _ _ _ => rfl
  have hys := List.map_mergeSort (f := Prod.snd) (r := fun p q => le p.1 q.1) (s := le')
    (l := xs.zip ys) fun p hp q hq => hle _ _ _ _ (hpairs hp) (hpairs hq)
  rw [hleft] at hxs
  rw [hright] at hys
  rw [← hxs, ← hys, List.forall₂_map_left_iff, List.forall₂_map_right_iff, List.forall₂_same]
  intro p hp
  exact hpairs (List.mem_mergeSort.mp hp)

theorem sorted_remeasured {ms' : Metrics}
    (h : RelatedEntries Metric.Remeasured ms.entries ms'.entries) :
    List.Forall₂ Metric.Remeasured ms.sorted ms'.sorted := by
  apply forall₂_mergeSort
  · intro a b a' b' ha hb
    rw [ha.name_eq, hb.name_eq]
  · rw [List.forall₂_map_left_iff, List.forall₂_map_right_iff]
    exact h.imp fun _ _ he => he.2

theorem ofSnapshot_remeasured {s s' : Snapshot} (hspec : s'.spec = s.spec)
    (hstatus : Option.Rel RunStatus.Remeasured s.status s'.status)
    (h : ofSnapshot settings s = .ok ms) :
    ∃ ms', ofSnapshot settings s' = .ok ms' ∧
      List.Forall₂ Metric.Remeasured ms.sorted ms'.sorted := by
  obtain ⟨spec?, status?⟩ := s
  obtain ⟨spec'?, status'?⟩ := s'
  obtain rfl : spec'? = spec? := hspec
  cases spec'? with
  | none =>
    cases h
    exact ⟨_, rfl, sorted_remeasured .nil⟩
  | some spec =>
    cases hstatus with
    | none =>
      cases h
      exact ⟨_, rfl, sorted_remeasured .nil⟩
    | some hstatus =>
      rw [ofSnapshot_eq_ofShown] at h
      obtain ⟨ms', h', hentries⟩ := exists_ofShown_remeasured (shown_remeasured hstatus.results) h
      exact ⟨ms', by rw [ofSnapshot_eq_ofShown, h'], sorted_remeasured hentries⟩

end Metrics

end RunCharts
