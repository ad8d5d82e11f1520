import RunCharts.Measurement.Series
import RunCharts.Proofs.Measurement.Nesting

/-!
# The faults of a measurement

A measurement has no reading for one of three causes: its text cannot be decoded, the only key of
the conditions is an index of more digits than are read, or a part that is to be shown nests too
deeply for its text. Which of them it is says what a lenient series makes of it.
-/

namespace RunCharts.Measurement

def valueFault? (m : Measurement) : Option Fault :=
  match m.value with
  | none => none
  | some raw =>
    if raw = "" then none
    else match decode raw with
      | .ok _ => none
      | .error fault => if fault.isValueFault then some fault else none

def isUndecodable (m : Measurement) : Bool := m.valueFault?.isSome

/-- An index of more digits than are read. -/
def IsHugeIndex (key : String) : Prop :=
  key.toList.all Text.isDecimalDigit = true ∧ Numeral.digitLimit < key.length

theorem length_filterMap_digitValue? {cs : List Char} (h : cs.all Text.isDecimalDigit = true) :
    (cs.filterMap Text.digitValue?).length = cs.length := by
  induction cs with
  | nil => rfl
  | cons c cs ih =>
    rw [List.all_cons, Bool.and_eq_true] at h
    obtain ⟨d, hd⟩ := Option.isSome_iff_exists.mp h.1
    rw [List.filterMap_cons_some hd, List.length_cons, List.length_cons, ih h.2]

theorem index?_eq_error_iff {key : String} {fault : Fault} :
    index? key = .error fault ↔ IsHugeIndex key ∧ fault = .hugeInteger key.length := by
  unfold index? IsHugeIndex
  by_cases hall : key.toList.all Text.isDecimalDigit = true
  · have hlength := length_filterMap_digitValue? hall
    rw [String.length_toList] at hlength
    by_cases hempty : key = ""
    · subst hempty
      simp [Numeral.digitLimit]
    · by_cases hlimit : Numeral.digitLimit < key.length
      · simp [hempty, hall, hlength, hlimit, eq_comm]
      · simp [hempty, hall, hlength, hlimit]
  · simp [hall]

theorem IsHugeIndex.index?_eq {key : String} (h : IsHugeIndex key) :
    index? key = .error (.hugeInteger key.length) :=
  index?_eq_error_iff.mpr ⟨h, rfl⟩

/-- An array whose item is to be chosen by an index of more digits than are read. -/
def HasHugeIndex (keys : List String) (j : Json) (fault : Fault) : Prop :=
  ∃ key first items, keys = [key] ∧ j = .arr (first :: items) ∧ IsHugeIndex key ∧
    fault = .hugeInteger key.length

theorem readForm_eq_error_iff {keys : List String} {j : Json} {fault : Fault} :
    readForm keys j = .error fault ↔ HasHugeIndex keys j fault := by
  constructor
  · intro h
    unfold readForm at h
    split at h
    · cases h
    · split at h
      · cases h
      · rename_i first items _
        match keys with
        | [key] =>
          cases hindex : index? key with
          | error e =>
            rw [readArray, hindex] at h
            cases h
            exact ⟨key, first, items, rfl, rfl, index?_eq_error_iff.mp hindex⟩
          | ok i => cases i <;> (rw [readArray, hindex] at h; cases h)
        | [] | _ :: _ :: _ => cases h
      · split at h <;> cases h
      · cases h
  · rintro ⟨key, first, items, rfl, rfl, hkey, rfl⟩
    simp only [readForm, Json.finite?, readArray, hkey.index?_eq]
    rfl

/-- Nothing is shown of an array under an index that is not read. -/
theorem HasHugeIndex.not_isTooDeep {keys : List String} {j : Json} {fault : Fault}
    (h : HasHugeIndex keys j fault) : ¬ IsTooDeep keys j := by
  obtain ⟨key, first, items, rfl, rfl, hkey, -⟩ := h
  rw [isTooDeep_iff]
  rintro ⟨part, hpart, -⟩
  simp [shownParts, hkey.index?_eq] at hpart

theorem readJson_eq_error_iff {keys : List String} {j : Json} {fault : Fault} :
    readJson keys j = .error fault ↔
      HasHugeIndex keys j fault ∨ IsTooDeep keys j ∧ fault = .displayTooDeep := by
  have hdeep : IsTooDeep keys j ↔ ¬ (shownParts keys j).all Json.isShowable = true := by
    simp [isTooDeep_iff, Json.isShowable]
  cases hform : readForm keys j with
  | error e =>
    have hindex := readForm_eq_error_iff.mp hform
    rw [← readForm_eq_error_iff, hform, readJson, hform]
    simp [hindex.not_isTooDeep, bind, Except.bind]
  | ok r =>
    have hnone : ¬ HasHugeIndex keys j fault := by
      rw [← readForm_eq_error_iff, hform]
      nofun
    rw [readJson, hform]
    simp only [bind, Except.bind, hnone, false_or, hdeep]
    split
    · rename_i hall
      exact ⟨nofun, fun h => absurd hall h.1⟩
    · rename_i hall
      exact ⟨fun h => ⟨hall, (Except.error.inj h).symm⟩, fun h => h.2 ▸ rfl⟩

theorem not_isValueFault_of_readJson {keys : List String} {j : Json} {fault : Fault}
    (h : readJson keys j = .error fault) : fault.isValueFault = false := by
  rcases readJson_eq_error_iff.mp h with ⟨_, _, _, -, -, -, rfl⟩ | ⟨-, rfl⟩ <;> rfl

theorem decode_eq_error_iff {raw : String} {fault : Fault} : decode raw = .error fault ↔
    ∃ e, Json.read .refused raw = .error e ∧ fault = Fault.ofValueError raw e := by
  unfold decode
  cases Json.read .refused raw with
  | ok j =>
    constructor
    · intro h
      cases h
    · rintro ⟨e, he, -⟩
      cases he
  | error e =>
    constructor
    · intro h
      cases h
      exact ⟨e, rfl, rfl⟩
    · rintro ⟨e', he, rfl⟩
      cases he
      rfl

theorem decode_eq_ok_iff {raw : String} {j : Json} :
    decode raw = .ok j ↔ Json.read .refused raw = .ok j := by
  unfold decode
  cases Json.read .refused raw with
  | ok j =>
    constructor
    · intro h
      cases h
      rfl
    · intro h
      cases h
      rfl
  | error e =>
    constructor
    · intro h
      cases h
    · intro h
      cases h

/-- A text that has no value is refused for one measurement, but for integers of too many digits. -/
theorem isValueFault_ofValueError_iff {raw : String} {e : Json.ReadError} :
    (Fault.ofValueError raw e).isValueFault = false ↔ ∃ digits, e = .hugeInteger digits := by
  cases e <;> simp [Fault.ofValueError, Fault.isValueFault]

theorem read_some {keys : List String} {raw : String} (h : raw ≠ "") :
    read keys (some raw) = (decode raw).bind (readJson keys) := by
  rw [read, if_neg h]

theorem read_eq_error_iff {keys : List String} {value : Option String} {fault : Fault} :
    read keys value = .error fault ↔ ∃ raw, value = some raw ∧ raw ≠ "" ∧
      (decode raw = .error fault ∨ ∃ j, decode raw = .ok j ∧ readJson keys j = .error fault) := by
  constructor
  · intro h
    match value with
    | none => cases h
    | some raw =>
      by_cases hraw : raw = ""
      · rw [read, if_pos hraw] at h
        cases h
      · rw [read_some hraw] at h
        refine ⟨raw, rfl, hraw, ?_⟩
        cases hd : decode raw with
        | error e => rw [hd] at h; cases h; exact .inl rfl
        | ok j => rw [hd] at h; exact .inr ⟨j, rfl, h⟩
  · rintro ⟨raw, rfl, hraw, hd | ⟨j, hd, hj⟩⟩
    · rw [read_some hraw, hd]
      rfl
    · rw [read_some hraw, hd]
      exact hj

theorem valueFault?_eq_some_iff {m : Measurement} {fault : Fault} :
    m.valueFault? = some fault ↔ ∃ raw, m.value = some raw ∧ raw ≠ "" ∧
      decode raw = .error fault ∧ fault.isValueFault = true := by
  unfold valueFault?
  constructor
  · intro h
    split at h
    · cases h
    · rename_i raw hvalue
      split at h
      · cases h
      · rename_i hraw
        split at h
        · cases h
        · rename_i e hd
          split at h
          · rename_i he
            cases h
            exact ⟨raw, hvalue, hraw, hd, he⟩
          · cases h
  · rintro ⟨raw, hvalue, hraw, hd, hfault⟩
    simp [hvalue, hraw, hd, hfault]

/-- Which keys are asked for makes no difference to a value that cannot be decoded. -/
theorem valueFault?_eq_some_iff_read (keys : List String) {m : Measurement} {fault : Fault} :
    m.valueFault? = some fault ↔ read keys m.value = .error fault ∧ fault.isValueFault = true := by
  rw [valueFault?_eq_some_iff, read_eq_error_iff]
  constructor
  · rintro ⟨raw, hvalue, hraw, hd, hfault⟩
    exact ⟨⟨raw, hvalue, hraw, .inl hd⟩, hfault⟩
  · rintro ⟨⟨raw, hvalue, hraw, hd | ⟨j, -, hj⟩⟩, hfault⟩
    · exact ⟨raw, hvalue, hraw, hd, hfault⟩
    · rw [not_isValueFault_of_readJson hj] at hfault
      cases hfault

end RunCharts.Measurement
