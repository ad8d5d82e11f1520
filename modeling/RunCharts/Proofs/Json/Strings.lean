import RunCharts.Json.Printer
import RunCharts.Proofs.Json.Rules
import RunCharts.Proofs.Text.Halves

/-!
# Reading written strings

Every escape is read as the 16-bit units of its character. A string is therefore read as it was,
except that halves which stand side by side come back as the character that they stand for.
-/

namespace RunCharts.Json.Reader

variable {cs : List Char}

def prependUnits (us : List Nat) : Option (List Nat × List Char) → Option (List Nat × List Char) :=
  Option.map fun r => (us ++ r.1, r.2)

theorem stringUnits?_of_shortEscape {c d : Char} (h : shortEscape? c = some d) (cs : List Char) :
    stringUnits? ('\\' :: c :: cs) = prependUnits [d.toNat] (stringUnits? cs) := by
  have hu : c ≠ 'u' := by
    rintro rfl
    cases h
  rw [stringUnits?.eq_def]
  split
  · simp_all
  · simp_all
  · simp_all
  · rename_i heq
    cases heq
    rw [h]
    cases stringUnits? cs <;> rfl
  · rename_i hpair heq
    cases heq
    exact absurd rfl (hpair c cs rfl)

theorem stringUnits?_unitEscape {n : Nat} (h : n < 0x10000) (cs : List Char) :
    stringUnits? (unitEscape n ++ cs) = prependUnits [n] (stringUnits? cs) := by
  have hnumber : Text.hexNumber? 0 (Text.hexDigits 4 n) = some n := by
    rw [Text.hexNumber?_hexDigits, Nat.zero_mul, Nat.zero_add, Nat.mod_eq_of_lt h]
  match hdigits : Text.hexDigits 4 n, Text.length_hexDigits 4 n with
  | [c₃, c₂, c₁, c₀], _ =>
    rw [hdigits] at hnumber
    rw [unitEscape, hdigits]
    simp only [List.cons_append, List.nil_append, stringUnits?, hnumber]
    cases stringUnits? cs <;> rfl

theorem isPlain_of_range {c : Char} (h : ' ' ≤ c ∧ c < '\x7f') (hquote : c ≠ '"')
    (hbackslash : c ≠ '\\') : isPlain c = true := by
  simp [isPlain, h.1, h.2, hquote, hbackslash]

theorem units_of_lt {c : Char} (h : c < '\x80') : Text.units c = [c.toNat] := by
  have hlt : c.toNat < 128 := by
    rwa [Char.lt_def, UInt32.lt_iff_toNat_lt] at h
  have hcode : Text.code c = c.toNat := by
    apply if_neg
    rw [Text.isStandIn, Bool.and_eq_true, decide_eq_true_eq, decide_eq_true_eq]
    omega
  rw [Text.units, hcode, if_pos (by omega)]

/-- An escaped character is read as its units. -/
theorem stringUnits?_charEscape (c : Char) (cs : List Char) :
    stringUnits? (charEscape c ++ cs) = prependUnits (Text.units c) (stringUnits? cs) := by
  unfold charEscape
  split
  · rename_i hspecial
    rw [Bool.or_eq_true, beq_iff_eq, beq_iff_eq] at hspecial
    rcases hspecial with rfl | rfl
    · rw [units_of_lt (by decide)]
      exact stringUnits?_of_shortEscape rfl cs
    · rw [units_of_lt (by decide)]
      exact stringUnits?_of_shortEscape rfl cs
  · rename_i hspecial
    rw [Bool.or_eq_true, beq_iff_eq, beq_iff_eq, not_or] at hspecial
    split
    · rename_i hrange
      rw [Bool.and_eq_true, decide_eq_true_eq, decide_eq_true_eq] at hrange
      rw [units_of_lt (Char.lt_trans hrange.2 (by decide)), List.singleton_append]
      exact stringUnits?_cons_of_plain (isPlain_of_range hrange hspecial.1 hspecial.2) cs
    · iterate 5
        split
        · rename_i hc
          rw [eq_of_beq hc, units_of_lt (by decide)]
          exact stringUnits?_of_shortEscape rfl cs
      dsimp only
      split
      · rename_i hlt
        rw [Text.units, if_pos hlt]
        exact stringUnits?_unitEscape hlt cs
      · rename_i hge
        have hlt := Text.code_lt c
        rw [Text.units, if_neg hge, List.append_assoc, stringUnits?_unitEscape (by omega),
          stringUnits?_unitEscape (by omega)]
        cases stringUnits? cs <;> rfl

theorem stringUnits?_flatMap_charEscape (cs ds : List Char) :
    stringUnits? (cs.flatMap charEscape ++ ds) =
      prependUnits (cs.flatMap Text.units) (stringUnits? ds) := by
  induction cs with
  | nil => cases h : stringUnits? ds <;> simp [prependUnits, h]
  | cons c cs ih =>
    rw [List.flatMap_cons, List.append_assoc, stringUnits?_charEscape, ih]
    cases stringUnits? ds <;> simp [prependUnits]

/-- A written string is read as it was, with halves that stand side by side joined. -/
theorem string_stringChars (s : String) (rest : List Char) :
    string (s.toList.flatMap charEscape ++ '"' :: rest) =
      .ok (Text.joined s, rest) := by
  have hclose : stringUnits? ('"' :: rest) = some ([], rest) := rfl
  rw [string, stringUnits?_flatMap_charEscape, hclose]
  simp only [prependUnits, Option.map_some, List.append_nil, Text.joinPairs_units, Text.joined]

end RunCharts.Json.Reader
