import RunCharts.Proofs.Document.Faults
import RunCharts.Provider.Basic

/-!
# What keeps a provider from being read

A provider is looked up under the text of its first key, which fails where the key is no text. Under
the names that are known, some settings have to be texts; the queries of the second one are named,
and each name has to be a text as well.
-/

namespace RunCharts.Provider

open Traversal

def textKeys (name : String) : List String :=
  if name = "datadog" then ["apiVersion", "query", "formula"]
  else if name = "newRelic" then ["query", "profile"]
  else if name ∈ ["prometheus", "wavefront", "graphite", "influxdb", "skywalking"] then ["query"]
  else []

def namedQueriesFaults (d : Document) : List Fault :=
  d.entries.flatMap fun e => e.1.textFaults ++ e.2.textFaults

def settingsFaults (name : String) (settings : List (Scalar × Document)) : List Fault :=
  (if name = "datadog" then namedQueriesFaults (Document.get "queries" settings) else []) ++
    (textKeys name).flatMap fun key => (Document.get key settings).textFaults

def faults (d : Document) : List Fault :=
  match d.entries? with
  | some ((key, value) :: entries) =>
    match key.asText with
    | .error f => [f]
    | .ok name =>
      if Document.hasKey name ((key, value) :: entries) then
        settingsFaults name (Document.get name ((key, value) :: entries)).entries
      else [.providerName name]
  | _ => []

theorem namedQueries?_endsAtFirst (d : Document) :
    EndsAtFirst (namedQueries? d) (namedQueriesFaults d) := by
  unfold namedQueries? namedQueriesFaults Document.entries
  cases d.entries? with
  | none => exact endsAtFirst_ok _
  | some entries =>
    have hentry (e : Scalar × Document) :
        EndsAtFirst (do return (← e.1.asText, ← e.2.text)) (e.1.textFaults ++ e.2.textFaults) := by
      apply e.1.asText_endsAtFirst.bind
      intro name _
      exact e.2.text_endsAtFirst.map fun query => (name, query)
    exact (endsAtFirst_mapM fun e _ => hentry e).map fun queries => some (upsertAll queries)

theorem settingsFaults_of_mem {name : String} {settings : List (Scalar × Document)}
    (h : name ∈ ["prometheus", "wavefront", "graphite", "influxdb", "skywalking"]) :
    settingsFaults name settings = (Document.get "query" settings).textFaults := by
  have hdatadog : name ≠ "datadog" := by
    rintro rfl
    exact absurd h (by decide)
  have hrelic : name ≠ "newRelic" := by
    rintro rfl
    exact absurd h (by decide)
  rw [settingsFaults, textKeys, if_neg hdatadog, if_neg hdatadog, if_neg hrelic, if_pos h,
    List.flatMap_singleton, List.nil_append]

theorem settingsFaults_datadog (settings : List (Scalar × Document)) :
    settingsFaults "datadog" settings =
      namedQueriesFaults (Document.get "queries" settings) ++
        ((Document.get "apiVersion" settings).textFaults ++
          ((Document.get "query" settings).textFaults ++
            (Document.get "formula" settings).textFaults)) := by
  simp [settingsFaults, textKeys]

theorem settingsFaults_newRelic (settings : List (Scalar × Document)) :
    settingsFaults "newRelic" settings =
      (Document.get "query" settings).textFaults ++
        (Document.get "profile" settings).textFaults := by
  simp [settingsFaults, textKeys]

theorem settingsFaults_of_not_mem {name : String} {settings : List (Scalar × Document)}
    (h : name ∉ ["prometheus", "datadog", "wavefront", "newRelic", "graphite", "influxdb",
      "skywalking"]) : settingsFaults name settings = [] := by
  simp_all [settingsFaults, textKeys]

theorem ofSettings_endsAtFirst (name : String) (settings : List (Scalar × Document)) :
    EndsAtFirst (ofSettings name settings) (settingsFaults name settings) := by
  have htext (key : String) :
      EndsAtFirst (Document.get key settings).text? (Document.get key settings).textFaults :=
    Document.text?_endsAtFirst _
  have hquery (build : Option String → Provider)
      (h : name ∈ ["prometheus", "wavefront", "graphite", "influxdb", "skywalking"]) :
      EndsAtFirst ((Document.get "query" settings).text?.map build)
        (settingsFaults name settings) := by
    rw [settingsFaults_of_mem h]
    exact (htext "query").map build
  -- The names are tried in the order of the definition.
  unfold ofSettings
  dsimp only
  split
  · exact hquery _ (by simp_all)
  split
  · rename_i hname
    rw [hname, settingsFaults_datadog]
    apply (namedQueries?_endsAtFirst _).bind
    intro queries _
    have hversion := Document.text_endsAtFirst
      ((Document.get "apiVersion" settings).orElse (.scalar (.text "v1")))
    rw [Document.textFaults_orElse] at hversion
    apply hversion.bind
    intro version _
    apply (htext "query").bind
    intro query _
    exact (htext "formula").map fun formula => datadog version query queries formula
  split
  · exact hquery _ (by simp_all)
  split
  · rename_i hname
    rw [hname, settingsFaults_newRelic]
    apply (htext "query").bind
    intro query _
    exact (htext "profile").map fun profile => newRelic query profile
  split
  · rename_i hname
    rw [hname, settingsFaults_of_not_mem (by decide)]
    exact endsAtFirst_ok _
  split
  · exact hquery _ (by simp_all)
  split
  · exact hquery _ (by simp_all)
  split
  · exact hquery _ (by simp_all)
  · rw [settingsFaults_of_not_mem (by simp_all)]
    exact endsAtFirst_ok _

theorem ofDocument_endsAtFirst (d : Document) : EndsAtFirst (ofDocument d) (faults d) := by
  unfold ofDocument faults
  cases d.entries? with
  | none => exact endsAtFirst_ok none
  | some entries =>
    cases entries with
    | nil => exact endsAtFirst_ok none
    | cons e entries =>
      obtain ⟨key, value⟩ := e
      dsimp only
      cases key.asText with
      | error f => exact endsAtFirst_error f []
      | ok name =>
        change EndsAtFirst (if Document.hasKey name ((key, value) :: entries) then _ else _) _
        dsimp only
        split
        · exact (ofSettings_endsAtFirst name _).map some
        · exact endsAtFirst_error _ []

theorem namedQueriesFaults_eq_nil {d : Document} (h : d.IsJson) : namedQueriesFaults d = [] := by
  unfold namedQueriesFaults Document.entries
  cases hentries : d.entries? with
  | none => rfl
  | some entries =>
    rw [Option.getD_some, List.flatMap_eq_nil_iff]
    intro e he
    obtain ⟨s, hs⟩ := h.exists_text_of_mem_entries? hentries he
    rw [hs, (h.areJson_entries? hentries e he).textFaults_eq_nil]
    rfl

theorem settingsFaults_eq_nil {settings : List (Scalar × Document)}
    (h : Document.AreJson settings) (name : String) : settingsFaults name settings = [] := by
  unfold settingsFaults
  have hqueries := namedQueriesFaults_eq_nil (h.get "queries")
  rw [hqueries, ite_self, List.nil_append, List.flatMap_eq_nil_iff]
  intro key _
  exact (h.get key).textFaults_eq_nil

/-- The keys of a mapping that came from JSON are texts, so its first key is found. -/
theorem faults_eq_nil {d : Document} (h : d.IsJson) : faults d = [] := by
  unfold faults
  split
  · rename_i key value entries hentries
    obtain ⟨s, hs⟩ := h.exists_text_of_mem_entries? hentries List.mem_cons_self
    dsimp only at hs
    subst hs
    have hkey : Document.hasKey s ((.text s, value) :: entries) = true := by
      simp [Document.hasKey]
    have hget : Document.get s ((.text s, value) :: entries) = value := by
      simp [Document.get]
    dsimp only [Scalar.asText]
    rw [if_pos hkey, hget]
    exact settingsFaults_eq_nil (h.areJson_entries? hentries _ List.mem_cons_self).areJson_entries s
  · rfl

end RunCharts.Provider
