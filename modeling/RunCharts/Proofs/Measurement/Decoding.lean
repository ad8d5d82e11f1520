import RunCharts.Proofs.Json.Complete
import RunCharts.Proofs.Measurement.Faults

/-!
# What a measurement value is decoded from

A text has a value if and only if it is a JSON text that does not nest too deeply. Only integers of
too many digits have to be left aside: they end the decoding in a text of any kind, and with an
error that is not the measurement's own.
-/

namespace RunCharts.Measurement

open Json.Grammar Json.Reader

/-- The values are those of the JSON texts, and none of them has a NaN. Every other text is an error
of its measurement. -/
theorem decode_iff_isText (raw : String)
    (hintegers : ∀ n, HasInteger n raw.toList → n ≤ Numeral.digitLimit) :
    ((∃ j, decode raw = .ok j) ↔ IsText depthLimit raw.toList) ∧
      (∀ j, decode raw = .ok j → j.hasNoNaN = true) ∧
      ∀ fault, decode raw = .error fault → fault.isValueFault = true := by
  have hsize : ∀ n, Json.read .refused raw ≠ .error (.hugeInteger n) := by
    intro n hread
    obtain ⟨hlimit, hinteger⟩ := hasInteger_of_read hread
    exact absurd hlimit (Nat.not_lt.mpr (hintegers n hinteger))
  refine ⟨⟨?_, ?_⟩, ?_, ?_⟩
  · rintro ⟨j, h⟩
    exact (isText_of_read (decode_eq_ok_iff.mp h)).1
  · intro h
    rcases read_of_isText h with ⟨j, hread⟩ | ⟨n, hread⟩
    · exact ⟨j, decode_eq_ok_iff.mpr hread⟩
    · exact absurd hread (hsize n)
  · intro j h
    exact (isText_of_read (decode_eq_ok_iff.mp h)).2
  · intro fault h
    obtain ⟨e, hread, rfl⟩ := decode_eq_error_iff.mp h
    rw [← Bool.not_eq_false]
    intro hfault
    obtain ⟨n, rfl⟩ := isValueFault_ofValueError_iff.mp hfault
    exact hsize n hread

theorem decode_iff_isText_samples :
    (∀ n, HasInteger n " [1, \x7b\"a\": []\x7d]".toList → n ≤ Numeral.digitLimit) ∧
      (∀ n, HasInteger n "[1,]".toList → n ≤ Numeral.digitLimit) ∧
      IsText depthLimit " [1, \x7b\"a\": []\x7d]".toList ∧ ¬IsText depthLimit "[1,]".toList := by
  have hshort : ∀ cs : List Char, cs.length ≤ Numeral.digitLimit →
      ∀ n, HasInteger n cs → n ≤ Numeral.digitLimit :=
    fun cs hcs n h => h.le_length.trans hcs
  have hfirst := hshort " [1, \x7b\"a\": []\x7d]".toList (by decide)
  have hsecond := hshort "[1,]".toList (by decide)
  have hread : (decode " [1, \x7b\"a\": []\x7d]").isOk = true := by decide +kernel
  have hrefused : (decode "[1,]").isOk = false := by decide +kernel
  refine ⟨hfirst, hsecond, (decode_iff_isText _ hfirst).1.mp ?_, ?_⟩
  · cases h : decode " [1, \x7b\"a\": []\x7d]" with
    | ok j => exact ⟨j, rfl⟩
    | error fault =>
      rw [h] at hread
      cases hread
  · intro h
    obtain ⟨j, hj⟩ := (decode_iff_isText _ hsecond).1.mpr h
    rw [hj] at hrefused
    cases hrefused

end RunCharts.Measurement
