import RunCharts.Proofs.Json.Lossless
import RunCharts.Proofs.Json.Refused
import RunCharts.Proofs.Measurement.Faults
import RunCharts.Proofs.Run.Site

/-!
# Inlined values

A payload can hold the value of a measurement as a JSON text, or the value itself. A value that is
inlined is written as JSON when the run is read, and decoded again for the chart. The two ways agree
for finite numbers. A numeral that is too large for a number is infinite as a value, and that is
written as a word which is refused where values are decoded.
-/

namespace RunCharts

def Json.float? : Json → Option Binary64
  | .float x => some x
  | _ => none

namespace Measurement

/-- The text of an inlined value that is no text itself. -/
def inlinedText : Json → Option String
  | .null => none
  | v => some (v.text .spaced)

variable {t : String} {v : Json}

theorem isReadAs_ofJson (hv : v.isWritable = true) (htext : ∀ s, v ≠ .str s) :
    Run.IsReadAs (.ofJson v) (inlinedText v) := by
  intro entries hget
  cases v with
  | null => rw [Run.value?, hget]; rfl
  | str s => exact absurd rfl (htext s)
  | _ => exact Run.value?_of_json hv hget Json.noConfusion htext

theorem isReadAs_text (t : String) : Run.IsReadAs (.scalar (.text t)) (some t) := by
  intro entries hget
  rw [Run.value?, hget]

theorem read_refused_of_decode (h : decode t = .ok v) : Json.read .refused t = .ok v := by
  unfold decode at h
  cases hread : Json.read .refused t with
  | error e =>
    rw [hread] at h
    cases h
  | ok j =>
    rw [hread] at h
    cases h
    rfl

/-- A text is read by its value. -/
theorem read_of_decode (h : decode t = .ok v) (keys : List String) :
    read keys (some t) = readJson keys v := by
  have hne : t ≠ "" := by
    rintro rfl
    cases h
  rw [read, if_neg hne, h]
  rfl

/-- A finite value reads the same when it is inlined. -/
theorem read_inlinedText (h : v.IsLossless) (keys : List String) :
    read keys (inlinedText v) = readJson keys v := by
  have hdecode := (h.readsAs_text Json.isReadable_spaced).2
  cases v with
  | null => rfl
  | _ => exact read_of_decode hdecode keys

/-- A value that is not finite is refused when it is inlined, whatever the keys. -/
theorem read_inlinedText_of_not_finite (hread : Json.Reader.IsRead Json.Reader.depthLimit v)
    (h : v.hasFiniteNumbers = false) : ∃ name, ∀ keys,
      read keys (inlinedText v) = .error (.valueConstant name) := by
  have hnames : v.constantNames ≠ [] := by
    rw [ne_eq, Json.constantNames_eq_nil_iff, h]
    exact Bool.false_ne_true
  obtain ⟨name, names, hname⟩ := List.exists_cons_of_ne_nil hnames
  have htext := Json.read_text Json.isReadable_spaced .refused hread.writable hread.depth
  rw [hname] at htext
  have hdecode : decode (v.text .spaced) = .error (.valueConstant name) := by
    rw [decode, htext]
    rfl
  have hne : v.text .spaced ≠ "" := by
    intro hempty
    rw [hempty] at hdecode
    cases hdecode
  have hvalue : inlinedText v = some (v.text .spaced) := by
    cases v with
    | null => rw [Json.hasFiniteNumbers] at h; cases h
    | _ => rfl
  refine ⟨name, fun keys => ?_⟩
  rw [hvalue, read, if_neg hne, hdecode]
  rfl

theorem readJson_ne_valueConstant (keys : List String) (v : Json) (name : String) :
    readJson keys v ≠ .error (.valueConstant name) := by
  intro h
  rcases readJson_eq_error_iff.mp h with ⟨_, _, _, -, -, -, hfault⟩ | ⟨-, hfault⟩ <;> cases hfault

/-- The text of a value and the value inlined are read alike if and only if its numbers are
finite. -/
theorem read_inlinedText_iff (hdecode : decode t = .ok v) (hjoined : v.isJoined = true) :
    (∀ keys, read keys (inlinedText v) = read keys (some t)) ↔ v.hasFiniteNumbers = true := by
  have hv := Json.isRead_of_read (read_refused_of_decode hdecode)
  constructor
  · intro h
    rw [← Bool.not_eq_false]
    intro hinfinite
    obtain ⟨name, hname⟩ := read_inlinedText_of_not_finite hv hinfinite
    have hempty := h []
    rw [hname, read_of_decode hdecode] at hempty
    exact readJson_ne_valueConstant [] v name hempty.symm
  · intro hfinite keys
    rw [read_of_decode hdecode]
    exact read_inlinedText ⟨hv.writable, hfinite, hv.keys, hjoined, hv.depth⟩ keys

/-- A payload with a value inlined, and the one with a text of that value in its place. Both are
read, or neither for the same cause; the runs differ in that value only. It has the same reading in
both for all keys if and only if all of its numbers are finite. If one is not, the inlined value is
refused whatever the keys are, as the text is for none. -/
theorem inlined_value (t : String) (v : Json) (hdecode : decode t = .ok v)
    (htext : ∀ s, v ≠ .str s) (hjoined : v.isJoined = true) (site : Run.Site) :
    Json.read .allowed t = .ok v ∧
    ((∃ fault, Run.ofDocument (site.payload (.ofJson v)) = .error fault ∧
        Run.ofDocument (site.payload (.scalar (.text t))) = .error fault) ∨
      ∃ run m, Run.ofDocument (site.payload (.ofJson v)) = .ok run ∧
        Run.ofDocument (site.payload (.scalar (.text t))) = .ok (site.setValue (some t) run) ∧
        site.measurement? run = some m ∧
        site.measurement? (site.setValue (some t) run) = some { m with value := some t } ∧
        ((∀ keys, read keys m.value = read keys (some t)) ↔ v.hasFiniteNumbers = true) ∧
        (v.hasFiniteNumbers = false → ∃ name, ∀ keys,
          read keys m.value = .error (.valueConstant name) ∧
          ∀ name', read keys (some t) ≠ .error (.valueConstant name'))) := by
  have hread := read_refused_of_decode hdecode
  have hv := Json.isRead_of_read hread
  have hinlined := site.ofDocument_payload (isReadAs_ofJson hv.writable htext)
  have hquoted := site.ofDocument_payload (isReadAs_text t)
  refine ⟨Json.read_allowed_of_refused hread, ?_⟩
  cases hbase : Run.ofDocument (site.payload .null) with
  | error fault =>
    rw [hbase] at hinlined hquoted
    exact .inl ⟨fault, hinlined, hquoted⟩
  | ok base =>
    rw [hbase] at hinlined hquoted
    obtain ⟨m, hm, -⟩ := site.exists_measurement hbase
    refine .inr ⟨site.setValue (inlinedText v) base, { m with value := inlinedText v }, hinlined,
      ?_, ?_, ?_, read_inlinedText_iff hdecode hjoined, ?_⟩
    · rw [hquoted, site.setValue_setValue]
      rfl
    · rw [site.measurement?_setValue, hm]
      rfl
    · rw [site.setValue_setValue, site.measurement?_setValue, hm]
      rfl
    · intro hinfinite
      obtain ⟨name, hname⟩ := read_inlinedText_of_not_finite hv hinfinite
      refine ⟨name, fun keys => ⟨hname keys, fun name' => ?_⟩⟩
      rw [read_of_decode hdecode]
      exact readJson_ne_valueConstant keys v name'

def onlySite : Run.Site where
  wrapper := none
  parts := []
  status := []
  result := [(.text "name", .scalar (.text "latency"))]
  measurement := [(.text "phase", .scalar (.text "Successful"))]
  resultsBefore := []
  resultsAfter := []
  before := []
  after := []
  unwrapped := fun _ => rfl

/-- A numeral that is too large for a number is shown where it is a text, and refused where it was
inlined. -/
theorem inlined_overflow : decode "1e400" = .ok (.float (.infinite false)) ∧
    (∀ s, Json.float (.infinite false) ≠ .str s) ∧
    (Json.float (.infinite false)).isJoined = true ∧
    read [] (some "1e400") = .ok (.tableOnly (.text "inf")) ∧
    ∃ run m, Run.ofDocument (onlySite.payload (.ofJson (.float (.infinite false)))) = .ok run ∧
      onlySite.measurement? run = some m ∧
      ∃ name, ∀ keys, read keys m.value = .error (.valueConstant name) := by
  have hcheck : (decode "1e400").toOption.bind Json.float? = some (.infinite false) := by
    decide +kernel
  have hdecode : decode "1e400" = .ok (.float (.infinite false)) := by
    revert hcheck
    cases decode "1e400" with
    | error fault => nofun
    | ok j => cases j <;> simp [Except.toOption, Json.float?]
  have htext : ∀ s, Json.float (.infinite false) ≠ .str s := nofun
  have hjoined : (Json.float (.infinite false)).isJoined = true := rfl
  refine ⟨hdecode, htext, hjoined, ?_, ?_⟩
  · rw [read_of_decode hdecode]
    rfl
  · have hok : (Run.ofDocument (onlySite.payload (.ofJson (.float (.infinite false))))).isOk =
        true := rfl
    obtain ⟨-, ⟨fault, hfault, -⟩ | ⟨run, m, hrun, -, hm, -, -, hrefused⟩⟩ :=
      inlined_value "1e400" _ hdecode htext hjoined onlySite
    · rw [hfault] at hok
      cases hok
    · obtain ⟨name, hname⟩ := hrefused rfl
      exact ⟨run, m, hrun, hm, name, fun keys => (hname keys).1⟩

end Measurement

end RunCharts
