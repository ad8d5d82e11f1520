import Mathlib.Order.Bounds.Basic
import RunCharts.Proofs.Run.Order

/-!
# What comes of a summary

Not every instant that a text names can be kept. One out of range is passed over if it is written
with nanoseconds, and refused if it is not, and then the run has no summary. Nothing else stands in
the way of a summary, and the end in it is the latest of the times at which measurements finished.
-/

namespace RunCharts

namespace Timestamp

/-- The text names an instant out of range, and is written with microseconds at most. -/
def IsRefused (text : Option String) : Prop :=
  ∃ s ∈ text, ∃ fraction, fraction.length ≤ 6 ∧
    ((∃ t, read s.toList = .stamp t fraction ∧ ¬InRange t.instant) ∨
      read s.toList = .early fraction)

/-- The text names an instant that can be kept, in that millisecond from the start of 1970. -/
def Denotes (text : Option String) (n : Int) : Prop :=
  ∃ s ∈ text, ∃ t fraction, read s.toList = .stamp t fraction ∧ InRange t.instant ∧
    (6 < fraction.length → IsWrittenInRange t fraction) ∧ n = millisOfInstant t.instant

variable {text : Option String} {t : DateTime} {fraction : List Nat} {n : Int} {fault : Fault}

theorem beyondRange_ne_some : beyondRange fraction ≠ .ok (some n) := by
  unfold beyondRange
  split <;> nofun

theorem beyondRange_eq_error_iff :
    beyondRange fraction = .error fault ↔ fraction.length ≤ 6 ∧ fault = .instantRange := by
  unfold beyondRange
  split <;> simp_all [eq_comm]

theorem millisOfDateTime_eq_some_iff : millisOfDateTime t fraction = .ok (some n) ↔
    InRange t.instant ∧ (6 < fraction.length → IsWrittenInRange t fraction) ∧
      n = millisOfInstant t.instant := by
  unfold millisOfDateTime
  split
  · rename_i hrange
    rw [Except.ok.injEq, Option.some.injEq, eq_comm]
    exact ⟨fun hn => ⟨hrange.1, hrange.2, hn⟩, fun h => h.2.2⟩
  · rename_i hrange
    constructor
    · exact fun h => absurd h beyondRange_ne_some
    · exact fun h => absurd ⟨h.1, h.2.1⟩ hrange

theorem millisOfDateTime_eq_error_iff : millisOfDateTime t fraction = .error fault ↔
    fraction.length ≤ 6 ∧ ¬InRange t.instant ∧ fault = .instantRange := by
  unfold millisOfDateTime
  split
  · rename_i hrange
    simp [hrange.1]
  · rename_i hrange
    rw [beyondRange_eq_error_iff]
    constructor
    · rintro ⟨hlength, hfault⟩
      refine ⟨hlength, fun hin => hrange ⟨hin, fun hlong => ?_⟩, hfault⟩
      omega
    · exact fun h => ⟨h.1, h.2.2⟩

theorem millis?_eq_some_iff : millis? text = .ok (some n) ↔ Denotes text n := by
  unfold Denotes
  cases text with
  | none => simp [millis?]
  | some s =>
    cases hread : read s.toList with
    | stamp t fraction => simp [millis?, hread, millisOfDateTime_eq_some_iff]
    | early fraction => simp [millis?, hread, beyondRange_ne_some]
    | unread | noInstant => simp [millis?, hread]

theorem millis?_eq_error_iff :
    millis? text = .error fault ↔ IsRefused text ∧ fault = .instantRange := by
  unfold IsRefused
  cases text with
  | none => simp [millis?]
  | some s =>
    cases hread : read s.toList with
    | stamp t fraction => simp [millis?, hread, millisOfDateTime_eq_error_iff, and_assoc]
    | early fraction => simp [millis?, hread, beyondRange_eq_error_iff]
    | unread | noInstant => simp [millis?, hread]

example : millis? (some "9999-12-31T00:00:00Z") = .error .instantRange := by decide +kernel

theorem exists_millis?_iff : (∃ n, millis? text = .ok n) ↔ ¬IsRefused text := by
  cases h : millis? text with
  | ok n =>
    refine iff_of_true ⟨n, rfl⟩ fun hrange => ?_
    rw [millis?_eq_error_iff.mpr ⟨hrange, rfl⟩] at h
    cases h
  | error fault =>
    refine iff_of_false (fun ⟨n, hn⟩ => by cases hn) ?_
    exact not_not.mpr (millis?_eq_error_iff.mp h).1

theorem latest_eq_some_iff {times : List (Option Int)} :
    latest times = some n ↔ IsGreatest {m | some m ∈ times} n := by
  have hmem : ∀ m, m ∈ times.filterMap id ↔ some m ∈ times := by
    intro m
    rw [List.mem_filterMap]
    exact ⟨fun ⟨time, htime, heq⟩ => heq ▸ htime, fun h => ⟨some m, h, rfl⟩⟩
  rw [latest, List.max?_eq_some_iff]
  simp only [hmem]
  exact Iff.rfl

theorem latest_eq_none_iff {times : List (Option Int)} :
    latest times = none ↔ ∀ n, some n ∉ times := by
  rw [latest, List.max?_eq_none_iff, List.filterMap_eq_nil_iff]
  constructor
  · exact fun h n hn => absurd (h (some n) hn) nofun
  · rintro h (_ | n) hn
    · rfl
    · exact absurd hn (h n)

end Timestamp

def Run.startText (run : Run) : Option String :=
  match run.snapshot.status with
  | none => run.createdAt
  | some status => Summary.startText run.createdAt status.startedAt

def Run.finishTexts (run : Run) : List (Option String) :=
  match run.snapshot.status with
  | none => []
  | some status => (measurementsOf status.results).map Measurement.finishedAt

namespace Summary

open Timestamp

variable {run : Run} {s : Summary} {fault : Fault} {n : Int}

def ofTimes (run : Run) (start finish : Option Int) : Summary :=
  match run.snapshot.status with
  | none => ⟨Phase.unknown.text, Status.label Phase.unknown.text .none, none, none, start, finish⟩
  | some status => ⟨status.phase, Status.label status.phase status.summary.issues,
      Status.flag status.phase status.summary.issues, status.message, start, finish⟩

/-- A summary is made of the time of the start and the times of the ends, read in this order. -/
theorem ofRun_eq (run : Run) : ofRun run = do
    let start ← millis? run.startText
    let times ← run.finishTexts.mapM millis?
    return ofTimes run start (latest times) := by
  unfold ofRun ofTimes Run.startText Run.finishTexts
  cases run.snapshot.status with
  | none => rfl
  | some status =>
    have hmap : (measurementsOf status.results).mapM (millis? ∘ Measurement.finishedAt) =
        (status.results.flatMap fun r => r.measurements).mapM fun m => millis? m.finishedAt := rfl
    simp only [endTimeOf, List.mapM_map, hmap, Traversal.bind_map]

theorem ofRun_eq_ok_iff : ofRun run = .ok s ↔ ∃ start times, millis? run.startText = .ok start ∧
    run.finishTexts.mapM millis? = .ok times ∧ s = ofTimes run start (latest times) := by
  rw [ofRun_eq]
  simp only [Traversal.bind_eq_ok_iff]
  constructor
  · rintro ⟨start, hstart, times, htimes, hs⟩
    exact ⟨start, times, hstart, htimes, (Except.ok.inj hs).symm⟩
  · rintro ⟨start, times, hstart, htimes, rfl⟩
    exact ⟨start, hstart, times, htimes, rfl⟩

theorem exists_ofRun_iff : (∃ s, ofRun run = .ok s) ↔
    ∀ text ∈ run.startText :: run.finishTexts, ¬IsRefused text := by
  rw [List.forall_mem_cons, ← exists_millis?_iff]
  simp only [← exists_millis?_iff, ← Traversal.exists_mapM_ok_iff, ofRun_eq_ok_iff]
  constructor
  · rintro ⟨-, start, times, hstart, htimes, -⟩
    exact ⟨⟨start, hstart⟩, times, htimes⟩
  · rintro ⟨⟨start, hstart⟩, times, htimes⟩
    exact ⟨_, start, times, hstart, htimes, rfl⟩

theorem eq_instantRange_of_ofRun (h : ofRun run = .error fault) : fault = .instantRange := by
  rw [ofRun_eq] at h
  cases hstart : millis? run.startText with
  | error e =>
    rw [hstart] at h
    cases h
    exact (millis?_eq_error_iff.mp hstart).2
  | ok start =>
    rw [hstart] at h
    cases htimes : run.finishTexts.mapM millis? with
    | error e =>
      simp only [htimes] at h
      cases h
      obtain ⟨before, text, after, -, -, htext⟩ := Traversal.mapM_eq_error_iff.mp htimes
      exact (millis?_eq_error_iff.mp htext).2
    | ok times =>
      simp only [htimes] at h
      cases h

theorem startTime_ofTimes (run : Run) (start finish : Option Int) :
    (ofTimes run start finish).startTime = start := by
  unfold ofTimes
  split <;> rfl

theorem endTime_ofTimes (run : Run) (start finish : Option Int) :
    (ofTimes run start finish).endTime = finish := by
  unfold ofTimes
  split <;> rfl

/-- The times that are read are those that the texts denote. -/
theorem some_mem_iff_of_mapM {texts : List (Option String)} {times : List (Option Int)}
    (h : texts.mapM millis? = .ok times) : some n ∈ times ↔ ∃ text ∈ texts, Denotes text n := by
  constructor
  · intro hn
    obtain ⟨text, htext, hread⟩ := Traversal.exists_of_mem_right h hn
    exact ⟨text, htext, millis?_eq_some_iff.mp hread⟩
  · rintro ⟨text, htext, hdenotes⟩
    obtain ⟨time, htime, hread⟩ := Traversal.exists_of_mem_left h htext
    rw [millis?_eq_some_iff.mpr hdenotes] at hread
    cases hread
    exact htime

/-- Every text has a time or has none, unless it is refused. A run has a summary unless one of the
texts that are read for it is refused; its end is the latest of the times that its measurements
denote, and those that denote none do not count. -/
theorem ofRun_outcome (run : Run) :
    (∀ text, (IsRefused text ∧ millis? text = .error .instantRange) ∨
      (¬IsRefused text ∧ ∃ time, millis? text = .ok time ∧
        ∀ n, time = some n ↔ Denotes text n)) ∧
    (((∃ text ∈ run.startText :: run.finishTexts, IsRefused text) ∧
        ofRun run = .error .instantRange) ∨
      ((∀ text ∈ run.startText :: run.finishTexts, ¬IsRefused text) ∧
        ∃ s, ofRun run = .ok s ∧
          (∀ n, s.startTime = some n ↔ Denotes run.startText n) ∧
          (∀ n, s.endTime = some n ↔
            IsGreatest {m | ∃ text ∈ run.finishTexts, Denotes text m} n) ∧
          (s.endTime = none ↔ ∀ text ∈ run.finishTexts, ∀ n, ¬Denotes text n))) := by
  constructor
  · intro text
    cases h : millis? text with
    | error fault =>
      obtain ⟨hrange, rfl⟩ := millis?_eq_error_iff.mp h
      exact .inl ⟨hrange, rfl⟩
    | ok time =>
      refine .inr ⟨exists_millis?_iff.mp ⟨time, h⟩, time, rfl, fun n => ?_⟩
      rw [← millis?_eq_some_iff, h, Except.ok.injEq]
  · cases h : ofRun run with
    | error fault =>
      obtain rfl := eq_instantRange_of_ofRun h
      refine .inl ⟨?_, rfl⟩
      by_contra hnone
      obtain ⟨s, hs⟩ := exists_ofRun_iff.mpr fun text htext hrefused =>
        hnone ⟨text, htext, hrefused⟩
      rw [h] at hs
      cases hs
    | ok s =>
      refine .inr ⟨exists_ofRun_iff.mp ⟨s, h⟩, s, rfl, ?_⟩
      obtain ⟨start, times, hstart, htimes, rfl⟩ := ofRun_eq_ok_iff.mp h
      rw [startTime_ofTimes, endTime_ofTimes]
      refine ⟨fun n => ?_, fun n => ?_, ?_⟩
      · rw [← millis?_eq_some_iff, hstart, Except.ok.injEq]
      · simp only [latest_eq_some_iff, some_mem_iff_of_mapM htimes]
      · simp only [latest_eq_none_iff, some_mem_iff_of_mapM htimes]
        push Not
        exact ⟨fun h text htext n => h n text htext, fun h n text htext => h text htext n⟩

end Summary

end RunCharts
