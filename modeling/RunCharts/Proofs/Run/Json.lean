import RunCharts.Metric.Basic
import RunCharts.Proofs.Document.Json
import RunCharts.Proofs.Traversal
import RunCharts.Run.Document

/-!
# Runs read from JSON

Structured queries are the one part of a run that is written as JSON when metrics are made. In a run
that was read from JSON they came from JSON, so there is no metric without queries for that cause.
-/

namespace RunCharts

/-- Structured queries, where the provider has them, came from JSON. -/
def Provider.HasJsonQueries (provider : Option Provider) : Prop :=
  ∀ queries, provider = some (.cloudWatch queries) → queries.IsJson

namespace Provider

theorem exists_queries {provider : Option Provider} (h : HasJsonQueries provider)
    (args : List Argument) : ∃ qs, queries args provider = .ok qs := by
  unfold queries
  split
  · exact ⟨_, rfl⟩
  · exact ⟨_, rfl⟩
  · dsimp only
    split
    · exact ⟨_, rfl⟩
    · split <;> exact ⟨_, rfl⟩
  · rename_i structured
    split
    · exact ⟨_, rfl⟩
    · rename_i items hitems
      obtain ⟨trees, htrees⟩ :=
        Document.exists_itemsToJson ((h structured rfl).isJson_of_mem_items? hitems)
      exact ⟨_, by rw [htrees]; rfl⟩
  all_goals exact ⟨_, rfl⟩

/-- The name under which structured queries are written. -/
theorem eq_get_of_ofSettings {name : String} {settings : List (Scalar × Document)}
    {queries : Document} (h : ofSettings name settings = .ok (.cloudWatch queries)) :
    queries = Document.get "metricDataQueries" settings := by
  simp only [ofSettings, Except.map, bind, Except.bind, pure, Except.pure] at h
  repeat' split at h
  all_goals simp_all

theorem hasJsonQueries_of_ofDocument {d : Document} {provider : Option Provider} (hd : d.IsJson)
    (h : ofDocument d = .ok provider) : HasJsonQueries provider := by
  rintro queries rfl
  unfold ofDocument at h
  split at h
  · rename_i hentries
    obtain ⟨name, -, h⟩ := Traversal.bind_eq_ok_iff.mp h
    split at h
    · obtain ⟨provider, hsettings, h⟩ := Traversal.bind_eq_ok_iff.mp h
      cases h
      rw [eq_get_of_ofSettings hsettings]
      exact ((hd.areJson_entries? hentries).get name).areJson_entries.get _
    · cases h
  · cases h

end Provider

namespace Run

theorem hasJsonQueries_of_metricSpec {entries : Entries} {m : MetricSpec}
    (he : Document.AreJson entries) (h : metricSpec entries = .ok m) :
    Provider.HasJsonQueries m.provider := by
  simp only [metricSpec, Traversal.bind_eq_ok_iff] at h
  obtain ⟨_, -, provider, hprovider, _, -, _, -, _, -, _, -, _, -, hm⟩ := h
  cases hm
  exact Provider.hasJsonQueries_of_ofDocument (he.get _) hprovider

theorem hasJsonQueries_of_spec {entries : Entries} {s : RunSpec}
    (he : Document.AreJson entries) (h : spec entries = .ok s) :
    ∀ m ∈ s.metrics, Provider.HasJsonQueries m.provider := by
  simp only [spec, Traversal.bind_eq_ok_iff] at h
  obtain ⟨metrics, hmetrics, _, -, hs⟩ := h
  cases hs
  intro m hm
  obtain ⟨record, hrecord, hspec⟩ := Traversal.exists_of_mem_right hmetrics hm
  exact hasJsonQueries_of_metricSpec ((he.get _).areJson_of_mem_records hrecord) hspec

theorem hasJsonQueries_of_snapshotOf {entries : Entries} {s : Snapshot}
    (he : Document.AreJson entries) (h : snapshotOf entries = .ok s) :
    ∀ spec ∈ s.spec, ∀ m ∈ spec.metrics, Provider.HasJsonQueries m.provider := by
  simp only [snapshotOf, Traversal.bind_eq_ok_iff] at h
  obtain ⟨spec?, hspec, _, -, hs⟩ := h
  cases hs
  unfold part? at hspec
  split at hspec
  · cases hspec
    exact nofun
  · rename_i part hpart
    cases hread : spec part with
    | error e =>
      rw [hread] at hspec
      cases hspec
    | ok s =>
      rw [hread] at hspec
      cases hspec
      intro s' hs'
      cases hs'
      exact hasJsonQueries_of_spec ((he.get _).areJson_entries? hpart) hread

theorem hasJsonQueries_of_ofDocument {d : Document} {run : Run} (hd : d.IsJson)
    (h : ofDocument d = .ok run) :
    ∀ spec ∈ run.snapshot.spec, ∀ m ∈ spec.metrics, Provider.HasJsonQueries m.provider := by
  unfold ofDocument at h
  split at h
  · cases h
  · rename_i entries hentries
    have he := hd.areJson_entries? hentries
    simp only [ofEntries, Traversal.bind_eq_ok_iff] at h
    obtain ⟨_, -, _, -, snapshot, hsnapshot, hrun⟩ := h
    cases hrun
    refine hasJsonQueries_of_snapshotOf ?_ hsnapshot
    cases hparts : (Document.get "specAndStatus" entries).entries? with
    | none => exact he
    | some parts => exact (he.get _).areJson_entries? hparts

end Run

end RunCharts
