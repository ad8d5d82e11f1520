import RunCharts.Proofs.Json.Lossless
import RunCharts.Proofs.Json.Rules
import RunCharts.Proofs.Metric.Collection
import RunCharts.Proofs.Run.Json
import RunCharts.Proofs.Run.Order
import RunCharts.Proofs.Series.Rows

/-!
# What ends a lenient run

A lenient run passes over values that cannot be decoded. Two things end it all the same: an integer
of more digits than are read, in the text of a measurement or as the index by which its items are
chosen, and a value that is decoded, but nests too deeply for its text.
-/

namespace RunCharts

namespace Measurement

/-- A measurement for which there is no row, even where what cannot be decoded is passed over. The
fault is the one that ends the run. -/
inductive HasNoRow (keys : List String) (m : Measurement) : Fault → Prop
  | literal {raw : String} {digits : Nat} (hvalue : m.value = some raw)
      (hread : Json.read .refused raw = .error (.hugeInteger digits)) :
      HasNoRow keys m (.hugeInteger digits)
  | index {raw key : String} {first : Json} {items : List Json} (hvalue : m.value = some raw)
      (hread : Json.read .refused raw = .ok (.arr (first :: items))) (hkeys : keys = [key])
      (hkey : IsHugeIndex key) : HasNoRow keys m (.hugeInteger key.length)
  | nesting {raw : String} {j : Json} (hvalue : m.value = some raw)
      (hread : Json.read .refused raw = .ok j) (hdeep : IsTooDeep keys j) :
      HasNoRow keys m .displayTooDeep

theorem ne_empty_of_read {raw : String} (h : Json.read .refused raw ≠ .error .malformed) :
    raw ≠ "" := by
  rintro rfl
  exact h rfl

theorem toRow_lenient_eq_error_iff {keys : List String} {m : Measurement} {fault : Fault} :
    toRow false keys m = .error fault ↔ m.HasNoRow keys fault := by
  rw [toRow_eq_error_iff, read_eq_error_iff]
  constructor
  · rintro ⟨⟨raw, hvalue, -, hdecode | ⟨j, hdecode, hj⟩⟩, hfault⟩
    · obtain ⟨e, hread, rfl⟩ := decode_eq_error_iff.mp hdecode
      obtain ⟨digits, rfl⟩ := isValueFault_ofValueError_iff.mp (hfault.resolve_left nofun)
      exact .literal hvalue hread
    · have hread := decode_eq_ok_iff.mp hdecode
      rcases readJson_eq_error_iff.mp hj with
        ⟨key, first, items, hkeys, rfl, hkey, rfl⟩ | ⟨hdeep, rfl⟩
      · exact .index hvalue hread hkeys hkey
      · exact .nesting hvalue hread hdeep
  · intro hnone
    cases hnone with
    | @literal raw digits hvalue hread =>
      have hne := ne_empty_of_read (by rw [hread]; nofun)
      exact ⟨⟨raw, hvalue, hne, .inl (decode_eq_error_iff.mpr ⟨_, hread, rfl⟩)⟩, .inr rfl⟩
    | @index raw key first items hvalue hread hkeys hkey =>
      have hne := ne_empty_of_read (by rw [hread]; nofun)
      have hfault := readJson_eq_error_iff.mpr (.inl ⟨key, first, items, hkeys, rfl, hkey, rfl⟩)
      exact ⟨⟨raw, hvalue, hne, .inr ⟨_, decode_eq_ok_iff.mpr hread, hfault⟩⟩, .inr rfl⟩
    | @nesting raw j hvalue hread hdeep =>
      have hne := ne_empty_of_read (by rw [hread]; nofun)
      have hfault := readJson_eq_error_iff.mpr (.inr ⟨hdeep, rfl⟩)
      exact ⟨⟨raw, hvalue, hne, .inr ⟨_, decode_eq_ok_iff.mpr hread, hfault⟩⟩, .inr rfl⟩

end Measurement

open Measurement

namespace Series

variable {keys : List String} {ms : List Measurement} {fault : Fault}

theorem not_hasNoRow_of_lenient {s : Series} (h : ofMeasurements false keys ms = .ok s)
    {m : Measurement} (hm : m ∈ ms) (fault : Fault) : ¬ m.HasNoRow keys fault := by
  intro hnone
  obtain ⟨row, hrow⟩ := exists_ofMeasurements_iff.mp ⟨s, h⟩ m hm
  rw [toRow_lenient_eq_error_iff.mpr hnone] at hrow
  cases hrow

theorem hasNoRow_of_error (h : ofMeasurements false keys ms = .error fault) :
    ∃ m ∈ ms, m.HasNoRow keys fault := by
  obtain ⟨before, m, after, rfl, -, hrow⟩ := ofMeasurements_eq_error_iff.mp h
  exact ⟨m, List.mem_append_right _ List.mem_cons_self, toRow_lenient_eq_error_iff.mp hrow⟩

end Series

namespace Metrics

/-- A result with a spec, for one of whose measurements there is no row. -/
def ResultLacksRow (spec : RunSpec) (r : String × MetricResult) (fault : Fault) : Prop :=
  ∃ s, spec.metric? r.1 = some s ∧
    ∃ m ∈ r.2.measurements, m.HasNoRow (Metric.keysOfSpec spec.args s) fault

/-- A snapshot in which such a result is shown. -/
def LacksRow (s : Snapshot) (fault : Fault) : Prop :=
  ∃ spec ∈ s.spec, ∃ status ∈ s.status, ∃ r ∈ shown status.results, ResultLacksRow spec r fault

section

variable {settings : Settings} {spec : RunSpec} {r : String × MetricResult}
  {rs : List (String × MetricResult)} {ms : Metrics} {fault : Fault}
  (hlenient : settings.strictValues = false)

include hlenient

theorem not_resultLacksRow_of_outcomeOf {o : Outcome} (h : outcomeOf settings spec r = .ok o)
    (fault : Fault) : ¬ ResultLacksRow spec r fault := by
  rintro ⟨s, hs, m, hm, hnone⟩
  rcases outcomeOf_eq_ok_iff.mp h with ⟨hnospec, -⟩ | ⟨s', metric, hs', hmetric, -⟩
  · rw [hs] at hnospec
    cases hnospec
  · rw [hs] at hs'
    cases hs'
    obtain ⟨series, queries, hseries, -, -⟩ := Metric.ofResult_eq_ok_iff.mp hmetric
    rw [hlenient] at hseries
    exact Series.not_hasNoRow_of_lenient hseries hm fault hnone

theorem resultLacksRow_of_outcomeOf_error
    (hqueries : ∀ s ∈ spec.metrics, Provider.HasJsonQueries s.provider)
    (h : outcomeOf settings spec r = .error fault) : ResultLacksRow spec r fault := by
  obtain ⟨s, hs, hresult⟩ := outcomeOf_eq_error_iff.mp h
  have hmem : s ∈ spec.metrics := List.mem_of_find?_eq_some hs
  have hseries := (Metric.ofResult_eq_error_iff
    (Provider.exists_queries (hqueries s hmem) spec.args)).mp hresult
  rw [hlenient] at hseries
  exact ⟨s, hs, Series.hasNoRow_of_error hseries⟩

theorem not_resultLacksRow_of_ofShown (h : ofShown settings spec rs = .ok ms) (hr : r ∈ rs)
    (fault : Fault) : ¬ ResultLacksRow spec r fault := by
  obtain ⟨outcomes, hmap, -⟩ := ofShown_eq_ok_iff.mp h
  obtain ⟨o, -, ho⟩ := Traversal.exists_of_mem_left hmap hr
  exact not_resultLacksRow_of_outcomeOf hlenient ho fault

theorem resultLacksRow_of_ofShown_error
    (hqueries : ∀ s ∈ spec.metrics, Provider.HasJsonQueries s.provider)
    (h : ofShown settings spec rs = .error fault) : ∃ r ∈ rs, ResultLacksRow spec r fault := by
  obtain ⟨before, r, after, rfl, -, hr⟩ :=
    Traversal.mapM_eq_error_iff.mp (ofShown_eq_error_iff.mp h)
  exact ⟨r, List.mem_append_right _ List.mem_cons_self,
    resultLacksRow_of_outcomeOf_error hlenient hqueries hr⟩

theorem not_lacksRow_of_ofSnapshot {s : Snapshot} (h : ofSnapshot settings s = .ok ms)
    (fault : Fault) : ¬ LacksRow s fault := by
  rintro ⟨spec, hspec, status, hstatus, r, hr, hlacks⟩
  obtain ⟨spec?, status?⟩ := s
  cases hspec
  cases hstatus
  rw [ofSnapshot_eq_ofShown] at h
  exact not_resultLacksRow_of_ofShown hlenient h hr fault hlacks

theorem lacksRow_of_ofSnapshot_error {s : Snapshot}
    (hqueries : ∀ spec ∈ s.spec, ∀ m ∈ spec.metrics, Provider.HasJsonQueries m.provider)
    (h : ofSnapshot settings s = .error fault) : LacksRow s fault := by
  obtain ⟨spec?, status?⟩ := s
  cases spec? with
  | none => cases h
  | some spec =>
    cases status? with
    | none => cases h
    | some status =>
      rw [ofSnapshot_eq_ofShown] at h
      obtain ⟨r, hr, hlacks⟩ := resultLacksRow_of_ofShown_error hlenient (hqueries spec rfl) h
      exact ⟨spec, rfl, status, rfl, r, hr, hlacks⟩

theorem row_of_lenient {name : String} {m : Metric} {s : MetricSpec} {args : List Argument}
    {result : MetricResult} (h : Metric.ofResult settings args s name result = .ok m) :
    m.series.rows.map Row.measurement = m.result.measurements ∧
      ∀ row ∈ m.series.rows, read m.keys row.measurement.value = .ok row.reading ∨
        ∃ raw fault, row.measurement.value = some raw ∧ raw ≠ "" ∧ decode raw = .error fault ∧
          row.reading = .tableOnly (.text raw) := by
  have hseries := Metric.series_of_ofResult h
  rw [hlenient] at hseries
  obtain ⟨hmeasurements, hrows⟩ := Series.ofMeasurements_eq_ok_iff.mp hseries
  refine ⟨hmeasurements, ?_⟩
  intro row hrow
  rcases toRow_eq_ok_iff.mp (hrows row hrow) with ⟨reading, hread, heq⟩ | ⟨-, hm, heq⟩
  · rw [heq]
    exact .inl hread
  · obtain ⟨fault, hfault⟩ := Option.isSome_iff_exists.mp hm
    obtain ⟨raw, hvalue, hraw, hdecode, -⟩ := valueFault?_eq_some_iff.mp hfault
    refine .inr ⟨raw, fault, hvalue, hraw, hdecode, ?_⟩
    rw [heq, hvalue]
    rfl

end

theorem mem_results_of_mem_shown {results : List MetricResult} {r : String × MetricResult}
    (h : r ∈ shown results) : r.2 ∈ results := by
  obtain ⟨⟨result, place⟩, hmem, rfl⟩ := List.mem_map.mp h
  exact List.fst_mem_of_mem_zipIdx hmem

/-- No measurement has more digits in a row than are read, no key is an index of that many, and no
value nests so deep that the calls for its text could exceed the limit. -/
structure IsModest (s : Snapshot) : Prop where
  texts : ∀ status ∈ s.status, ∀ m ∈ measurementsOf status.results, ∀ raw, m.value = some raw →
    ∀ n, ¬ Json.Reader.HasHugeRun n raw.toList
  keys : ∀ spec ∈ s.spec, ∀ m ∈ spec.metrics, ∀ key ∈ Metric.keysOfSpec spec.args m,
    ¬ IsHugeIndex key
  depth : ∀ status ∈ s.status, ∀ m ∈ measurementsOf status.results, ∀ raw, m.value = some raw →
    ∀ j, Json.read .refused raw = .ok j → 3 * j.depth + 5 ≤ Json.callLimit

theorem IsModest.not_lacksRow {s : Snapshot} (h : IsModest s) (fault : Fault) :
    ¬ LacksRow s fault := by
  rintro ⟨spec, hspec, status, hstatus, r, hr, metric, hmetric, m, hm, hnone⟩
  have hmem : m ∈ measurementsOf status.results :=
    List.mem_flatMap.mpr ⟨r.2, mem_results_of_mem_shown hr, hm⟩
  cases hnone with
  | @literal raw digits hvalue hread =>
    exact h.texts status hstatus m hmem raw hvalue digits (Json.hasHugeRun_of_read hread)
  | @index raw key first items _ _ hkeys hkey =>
    refine h.keys spec hspec metric (List.mem_of_find?_eq_some hmetric) key ?_ hkey
    rw [hkeys]
    exact List.mem_singleton_self key
  | @nesting raw j hvalue hread hdeep =>
    exact not_isTooDeep_of_depth (h.depth status hstatus m hmem raw hvalue j hread) hdeep

/-- The metrics of a lenient run that was read from JSON: what alone ends the run, and what becomes
of a value that cannot be decoded. -/
theorem ofSnapshot_lenient_iff (text : String) (d : Document) (run : Run) (settings : Settings)
    (hd : Document.ofJsonText text = .ok d) (hrun : Run.ofDocument d = .ok run)
    (hlenient : settings.strictValues = false) :
    ((∃ ms, ofSnapshot settings run.snapshot = .ok ms) ↔
      ∀ fault, ¬ LacksRow run.snapshot fault) ∧
    (∀ fault, ofSnapshot settings run.snapshot = .error fault → LacksRow run.snapshot fault) ∧
    (IsModest run.snapshot → ∃ ms, ofSnapshot settings run.snapshot = .ok ms) ∧
    ∀ ms, ofSnapshot settings run.snapshot = .ok ms → ∀ name m, (name, m) ∈ ms.entries →
      (∃ status ∈ run.snapshot.status,
        lastShown? (shown status.results) name = some m.result) ∧
      m.series.rows.map Row.measurement = m.result.measurements ∧
      ∀ row ∈ m.series.rows, read m.keys row.measurement.value = .ok row.reading ∨
        ∃ raw fault, row.measurement.value = some raw ∧ raw ≠ "" ∧ decode raw = .error fault ∧
          row.reading = .tableOnly (.text raw) := by
  have hqueries := Run.hasJsonQueries_of_ofDocument (Document.isJson_of_ofJsonText hd) hrun
  have hend : (∀ fault, ¬ LacksRow run.snapshot fault) →
      ∃ ms, ofSnapshot settings run.snapshot = .ok ms := by
    intro hnone
    cases h : ofSnapshot settings run.snapshot with
    | ok ms => exact ⟨ms, rfl⟩
    | error fault =>
      exact absurd (lacksRow_of_ofSnapshot_error hlenient hqueries h) (hnone fault)
  refine ⟨⟨?_, hend⟩, ?_, fun h => hend h.not_lacksRow, ?_⟩
  · rintro ⟨ms, h⟩
    exact not_lacksRow_of_ofSnapshot hlenient h
  · intro fault h
    exact lacksRow_of_ofSnapshot_error hlenient hqueries h
  · intro ms h name m hm
    obtain ⟨spec, status, hspec, hstatus, hshown⟩ := exists_ofShown h hm
    obtain ⟨s, r, -, hr, hof⟩ := (accounts_of_ofShown hshown).mem_entries_iff.mp hm
    have hresult : m.result = r := Metric.result_of_ofResult hof
    exact ⟨⟨status, hstatus, hresult ▸ hr⟩, row_of_lenient hlenient hof⟩

section

open Json.Reader

def quotedText (s : String) : List Char := '"' :: s.toList ++ ['"']

def fieldText (key : String) (value : List Char) : List Char := quotedText key ++ ':' :: value

def objectText (fields : List Char) : List Char := '{' :: fields ++ ['}']

def arrayText (items : List Char) : List Char := '[' :: items ++ [']']

/-- The JSON text of a run with one measurement, which has a value without escapes. -/
def oneValueText (value : String) : String := String.ofList <| objectText <|
  fieldText "spec" (objectText (fieldText "metrics" (arrayText (objectText
    (fieldText "name" (quotedText "latency")))))) ++ ',' ::
  fieldText "status" (objectText (fieldText "metricResults" (arrayText (objectText
    (fieldText "name" (quotedText "latency") ++ ',' :: fieldText "measurements" (arrayText
      (objectText (fieldText "value" (quotedText value)))))))))

def oneValueJson (value : String) : Json :=
  .obj [("spec", .obj [("metrics", .arr [.obj [("name", .str "latency")]])]),
    ("status", .obj [("metricResults", .arr [.obj [("name", .str "latency"),
      ("measurements", .arr [.obj [("value", .str value)]])]])])]

def oneValueRun (value : String) : Run :=
  ⟨none, none, some ⟨[⟨"latency", none, none, none, none, none, none⟩], []⟩,
    some ⟨"Unknown", none, [⟨some "latency", "Unknown", 0, 0, 0, 0, 0, 0, none,
      [⟨"Unknown", some value, none, none, none⟩]⟩], ⟨0, 0, 0, 0, 0⟩, none⟩⟩

theorem read_oneValueText {value : String} (h : value.toList.all isPlain = true) :
    Json.read .allowed (oneValueText value) = .ok (oneValueJson value) := by
  obtain ⟨fuel, hfuel⟩ : ∃ fuel, 2 * (oneValueText value).toList.length + 1 = fuel + 20 := by
    apply Nat.exists_eq_add_of_le'
    unfold oneValueText
    rw [String.toList_ofList]
    simp [objectText, arrayText, fieldText, quotedText]
    omega
  have hgap : skipGap (oneValueText value).toList = (oneValueText value).toList := by
    unfold oneValueText
    rw [String.toList_ofList]
    rfl
  have hvalue : Json.Reader.value .allowed (fuel + 20) depthLimit (oneValueText value).toList =
      .ok (oneValueJson value, []) := by
    unfold oneValueText
    rw [String.toList_ofList]
    simp only [objectText, arrayText, fieldText, quotedText, List.cons_append, List.append_assoc,
      List.nil_append]
    refine value_object (fields_next (by decide) rfl (value_object (fields_last (by decide) rfl
      (value_array (items_last (value_object (fields_last (by decide) rfl
        (value_string (by decide))) (by simp))))) (by simp)) ?_) (by simp)
    -- What is left is the text from `status` on.
    refine fields_last (by decide) rfl (value_object (fields_last (by decide) rfl
      (value_array (items_last ?_))) (by simp))
    exact value_object (fields_next (by decide) rfl (value_string (by decide))
      (fields_last (by decide) rfl (value_array (items_last (value_object
        (fields_last (by decide) rfl (value_string h)) (by simp)))))) (by simp)
  unfold Json.read
  dsimp only
  rw [hgap, hfuel, hvalue]
  rfl

theorem ofDocument_oneValueJson (value : String) :
    Run.ofDocument (.ofJson (oneValueJson value)) = .ok (oneValueRun value) := by
  rfl

theorem ofJsonText_oneValueText (value : String) (h : value.toList.all isPlain = true) :
    Document.ofJsonText (oneValueText value) = .ok (.ofJson (oneValueJson value)) := by
  rw [Document.ofJsonText, read_oneValueText h]
  rfl

theorem isModest_oneValueRun {value : String} (h : value.length ≤ Numeral.digitLimit)
    (hdepth : ∀ j, Json.read .refused value = .ok j → 3 * j.depth + 5 ≤ Json.callLimit) :
    IsModest (oneValueRun value).snapshot := by
  constructor
  · rintro status hstatus m hm raw hraw n ⟨hn, ds, hinfix, -, rfl⟩
    cases hstatus
    rw [List.mem_singleton.mp hm] at hraw
    cases hraw
    have hlength := hinfix.length_le
    rw [String.length_toList] at hlength
    omega
  · intro spec hspec m hm key hkey
    cases hspec
    rw [List.mem_singleton.mp hm] at hkey
    cases hkey
  · rintro status hstatus m hm raw hraw j hread
    cases hstatus
    rw [List.mem_singleton.mp hm] at hraw
    cases hraw
    exact hdepth j hread

theorem lacksRow_oneValueRun {value : String} {fault : Fault}
    (h : HasNoRow [] ⟨"Unknown", some value, none, none, none⟩ fault) :
    LacksRow (oneValueRun value).snapshot fault :=
  ⟨_, rfl, _, rfl, _, List.mem_singleton_self _, _, rfl, _, List.mem_singleton_self _, h⟩

/-- An integer of as many ones. -/
def ones (digits : Nat) : String := String.ofList (List.replicate digits '1')

theorem all_isPlain_ones (digits : Nat) : (ones digits).toList.all isPlain = true := by
  rw [ones, String.toList_ofList, List.all_eq_true]
  intro c hc
  rw [List.eq_of_mem_replicate hc]
  decide

theorem lacksRow_ones {digits : Nat} (h : Numeral.digitLimit < digits) :
    LacksRow (oneValueRun (ones digits)).snapshot (.hugeInteger digits) := by
  have hdigits : (List.replicate digits '1').all Text.isAsciiDigit = true := by
    rw [List.all_eq_true]
    intro c hc
    rw [List.eq_of_mem_replicate hc]
    decide
  have hzero : (List.replicate digits '1').head? ≠ some '0' := by
    intro hhead
    have hc := List.eq_of_mem_replicate (List.mem_of_head? hhead)
    cases hc
  have hlength := List.length_replicate (n := digits) (a := '1')
  have hread := Json.read_of_huge .refused hzero hdigits (hlength.symm ▸ h)
  rw [hlength] at hread
  exact lacksRow_oneValueRun (.literal rfl hread)

/-- An array with `n` arrays inside each other in it. -/
def nested : Nat → Json
  | 0 => .arr []
  | n + 1 => .arr [nested n]

theorem depth_nested (n : Nat) : (nested n).depth = n + 1 := by
  induction n with
  | zero => rfl
  | succ n ih => simp [nested, Json.depth, Json.depthOfItems, ih]

theorem isLossless_nested {n : Nat} (h : n < depthLimit) : (nested n).IsLossless := by
  induction n with
  | zero => exact ⟨rfl, rfl, rfl, rfl, h⟩
  | succ n ih =>
    have hinner := ih (Nat.lt_of_succ_lt h)
    refine ⟨?_, ?_, ?_, ?_, (depth_nested _).trans_le h⟩
    · simp [nested, Json.isWritable, Json.areWritable, hinner.writable]
    · simp [nested, Json.hasFiniteNumbers, Json.haveFiniteNumbers, hinner.finite]
    · simp [nested, Json.hasDistinctKeys_arr_iff, hinner.keys]
    · simp [nested, Json.isJoined_arr_iff, hinner.joined]

theorem all_isPlain_nested (level n : Nat) :
    ((nested n).chars .compact level).all isPlain = true := by
  induction n generalizing level with
  | zero => rfl
  | succ n ih =>
    have hline (level : Nat) : Layout.compact.lineBreak level = [] := rfl
    simp only [nested, Json.chars, Json.itemChars, hline, List.append_nil, List.all_append,
      List.all_cons, List.all_nil, ih]
    rfl

theorem opensCalls_nested (n : Nat) : (nested n).OpensCalls (3 * n + 3) := by
  induction n with
  | zero => exact .array []
  | succ n ih => exact .item (List.mem_singleton_self _) (by cases n <;> nofun) ih

theorem lacksRow_nested {n : Nat} (hread : n < depthLimit) (h : Json.callLimit < 3 * n + 3) :
    LacksRow (oneValueRun ((nested n).text .compact)).snapshot .displayTooDeep := by
  obtain ⟨hread, -⟩ := (isLossless_nested hread).readsAs_text Json.isReadable_compact
  have hshows : Shows [] (nested n) (nested n) := by
    cases n <;> exact .items nofun
  exact lacksRow_oneValueRun
    (.nesting rfl (hread .refused) ⟨_, hshows, _, h, opensCalls_nested n⟩)

def lenient : Settings := { Settings.default with strictValues := false }

/-- A lenient run passes over a value that is no JSON. It ends at an integer of one digit too many,
and at 400 brackets inside each other. -/
theorem ofSnapshot_lenient_oneValue :
    (∃ d run ms, Document.ofJsonText (oneValueText "oops") = .ok d ∧ Run.ofDocument d = .ok run ∧
      ofSnapshot lenient run.snapshot = .ok ms) ∧
    (∃ d run, Document.ofJsonText (oneValueText (ones 4301)) = .ok d ∧ Run.ofDocument d = .ok run ∧
      ¬ ∃ ms, ofSnapshot lenient run.snapshot = .ok ms) ∧
    ∃ d run, Document.ofJsonText (oneValueText ((nested 399).text .compact)) = .ok d ∧
      Run.ofDocument d = .ok run ∧ ¬ ∃ ms, ofSnapshot lenient run.snapshot = .ok ms := by
  refine ⟨?_, ?_, ?_⟩
  · have hd := ofJsonText_oneValueText "oops" (by decide)
    have hrun := ofDocument_oneValueJson "oops"
    obtain ⟨-, -, hend, -⟩ := ofSnapshot_lenient_iff _ _ _ lenient hd hrun rfl
    obtain ⟨ms, hms⟩ := hend (isModest_oneValueRun (by decide) nofun)
    exact ⟨_, _, ms, hd, hrun, hms⟩
  · have hd := ofJsonText_oneValueText (ones 4301) (all_isPlain_ones 4301)
    have hrun := ofDocument_oneValueJson (ones 4301)
    obtain ⟨hiff, -⟩ := ofSnapshot_lenient_iff _ _ _ lenient hd hrun rfl
    refine ⟨_, _, hd, hrun, ?_⟩
    intro hms
    exact hiff.mp hms _ (lacksRow_ones (by decide))
  · have hplain : ((nested 399).text .compact).toList.all isPlain = true := by
      rw [Json.text, String.toList_ofList]
      exact all_isPlain_nested 0 399
    have hd := ofJsonText_oneValueText _ hplain
    have hrun := ofDocument_oneValueJson ((nested 399).text .compact)
    obtain ⟨hiff, -⟩ := ofSnapshot_lenient_iff _ _ _ lenient hd hrun rfl
    refine ⟨_, _, hd, hrun, ?_⟩
    intro hms
    exact hiff.mp hms _ (lacksRow_nested (by decide) (by decide))

end

end Metrics

end RunCharts
