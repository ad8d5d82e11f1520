import RunCharts.Proofs.Series.Rows

/-!
# Strict and lenient series

Over measurements that have no other fault than a value that cannot be decoded, the two ways of
reading a series run side by side: as long as every value can be decoded they agree, and from the
first one that cannot the strict reading is that fault, while the lenient one goes on. What the
lenient one takes into the chart is what a strict reading of the decodable measurements takes.
-/

namespace RunCharts.Series

open Measurement

variable {strict : Bool} {keys : List String} {ms : List Measurement} {s : Series}

/-- The measurements have no fault but values that cannot be decoded. -/
def HasOnlyValueFaults (keys : List String) (ms : List Measurement) : Prop :=
  ∀ m ∈ ms, ∀ fault, read keys m.value = .error fault → fault.isValueFault = true

def hasOnlyValueFault (keys : List String) (m : Measurement) : Bool :=
  match read keys m.value with
  | .error fault => fault.isValueFault
  | .ok _ => true

theorem all_hasOnlyValueFault_iff :
    ms.all (hasOnlyValueFault keys) = true ↔ HasOnlyValueFaults keys ms := by
  rw [List.all_eq_true]
  apply forall₂_congr
  intro m _
  rw [hasOnlyValueFault]
  cases read keys m.value <;> simp

instance (keys : List String) (ms : List Measurement) : Decidable (HasOnlyValueFaults keys ms) :=
  decidable_of_iff _ all_hasOnlyValueFault_iff

end RunCharts.Series
