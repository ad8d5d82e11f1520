import Mathlib.Data.String.Defs
import RunCharts.Proofs.Decimal.Digits
import RunCharts.Proofs.Json.RoundTrip

/-!
# Written trees are ASCII

Every character of a tree is written by an escape or is ASCII itself, and so are the numerals, the
words and the separators.
-/

namespace RunCharts.Json

def AreAscii (cs : List Char) : Prop := ∀ c ∈ cs, c.isAscii = true

instance (cs : List Char) : Decidable (AreAscii cs) :=
  decidable_of_iff (cs.all Char.isAscii = true) List.all_eq_true

variable {cs ds : List Char} {layout : Layout}

theorem areAscii_nil : AreAscii [] := List.forall_mem_nil _

theorem AreAscii.append (hcs : AreAscii cs) (hds : AreAscii ds) : AreAscii (cs ++ ds) :=
  List.forall_mem_append.mpr ⟨hcs, hds⟩

theorem AreAscii.cons {c : Char} (hc : c.isAscii = true) (hcs : AreAscii cs) :
    AreAscii (c :: cs) := List.forall_mem_cons.mpr ⟨hc, hcs⟩

theorem isAscii_of_isNumeralChar {c : Char} (h : NumberStyle.isNumeralChar c = true) :
    c.isAscii = true := by
  simp only [NumberStyle.isNumeralChar, Text.isAsciiDigit, Bool.or_eq_true, Bool.and_eq_true,
    decide_eq_true_eq, beq_iff_eq, Char.le_def, UInt32.le_iff_toNat_le] at h
  rcases h with (((h | rfl) | rfl) | rfl) | rfl
  · have hle : c.toNat ≤ 57 := h.2
    rw [Char.isAscii, decide_eq_true_eq]
    omega
  all_goals rfl

theorem areAscii_numeral (h : ∀ c ∈ cs, NumberStyle.isNumeralChar c = true) : AreAscii cs :=
  fun c hc => isAscii_of_isNumeralChar (h c hc)

theorem areAscii_gap (h : ∀ c ∈ cs, Reader.isGap c = true) : AreAscii cs := by
  intro c hc
  have hgap := h c hc
  simp only [Reader.isGap, Bool.or_eq_true, beq_iff_eq] at hgap
  rcases hgap with ((rfl | rfl) | rfl) | rfl <;> rfl

theorem areAscii_intChars (n : Int) : AreAscii (intChars n) :=
  areAscii_numeral (NumberStyle.isNumeralChar_signed
    (fun _ => NumberStyle.isNumeralChar_of_mem_digits) _)

theorem areAscii_numberChars (x : Binary64) : AreAscii (numberStyle.chars x) := by
  cases x with
  | finite s u h =>
    exact areAscii_numeral (NumberStyle.isNumeralChar_signed
      (NumberStyle.isNumeralChar_magnitude _ _) s)
  | infinite s => cases s <;> decide
  | nan => decide

theorem areAscii_hexDigits (width n : Nat) : AreAscii (Text.hexDigits width n) := by
  have hdigit : ∀ d : Fin 16, (Nat.digitChar d).isAscii = true := by decide
  induction width generalizing n with
  | zero => exact areAscii_nil
  | succ w ih =>
    exact (ih _).append (.cons (hdigit ⟨n % 16, Nat.mod_lt _ (by decide)⟩) areAscii_nil)

theorem areAscii_unitEscape (n : Nat) : AreAscii (unitEscape n) :=
  .cons rfl (.cons rfl (areAscii_hexDigits 4 n))

theorem areAscii_charEscape (c : Char) : AreAscii (charEscape c) := by
  unfold charEscape
  split
  · rename_i hspecial
    rw [Bool.or_eq_true, beq_iff_eq, beq_iff_eq] at hspecial
    rcases hspecial with rfl | rfl <;> decide
  · split
    · rename_i hrange
      rw [Bool.and_eq_true, decide_eq_true_eq, decide_eq_true_eq, Char.lt_def,
        UInt32.lt_iff_toNat_lt] at hrange
      have hlt : c.toNat < 127 := hrange.2
      refine .cons ?_ areAscii_nil
      rw [Char.isAscii, decide_eq_true_eq]
      omega
    · iterate 5
        split
        · decide
      dsimp only
      split
      · exact areAscii_unitEscape _
      · exact (areAscii_unitEscape _).append (areAscii_unitEscape _)

theorem areAscii_stringChars (s : String) : AreAscii (stringChars s) := by
  refine AreAscii.append (.cons rfl ?_) (.cons rfl areAscii_nil)
  intro c hc
  obtain ⟨d, -, hd⟩ := List.mem_flatMap.mp hc
  exact areAscii_charEscape d c hd

theorem areAscii_lineBreak (layout : Layout) (level : Nat) : AreAscii (layout.lineBreak level) :=
  areAscii_gap (isGap_lineBreak layout level)

theorem IsReadable.areAscii_comma (h : IsReadable layout) : AreAscii layout.comma := by
  obtain ⟨gap, hcomma, hgap⟩ := h.comma
  rw [hcomma]
  exact .cons rfl (areAscii_gap hgap)

theorem IsReadable.areAscii_colon (h : IsReadable layout) : AreAscii layout.colon := by
  obtain ⟨gap, hcolon, hgap⟩ := h.colon
  rw [hcolon]
  exact .cons rfl (areAscii_gap hgap)

theorem areAscii_itemChars (hlayout : IsReadable layout) (level : Nat) {items : List Json}
    (h : ∀ j ∈ items, AreAscii (chars layout level j)) :
    AreAscii (itemChars layout level items) := by
  induction items with
  | nil => rw [itemChars]; exact areAscii_nil
  | cons item items ih =>
    rw [List.forall_mem_cons] at h
    rw [itemChars]
    exact ((hlayout.areAscii_comma.append (areAscii_lineBreak _ _)).append h.1).append (ih h.2)

theorem areAscii_fieldChars (hlayout : IsReadable layout) (level : Nat) {f : String × Json}
    (h : AreAscii (chars layout level f.2)) : AreAscii (fieldChars layout level f) := by
  obtain ⟨key, j⟩ := f
  rw [fieldChars]
  exact ((areAscii_stringChars key).append hlayout.areAscii_colon).append h

theorem areAscii_fieldsChars (hlayout : IsReadable layout) (level : Nat)
    {fields : List (String × Json)} (h : ∀ f ∈ fields, AreAscii (chars layout level f.2)) :
    AreAscii (fieldsChars layout level fields) := by
  induction fields with
  | nil => rw [fieldsChars]; exact areAscii_nil
  | cons f fields ih =>
    rw [List.forall_mem_cons] at h
    rw [fieldsChars]
    exact ((hlayout.areAscii_comma.append (areAscii_lineBreak _ _)).append
      (areAscii_fieldChars hlayout level h.1)).append (ih h.2)

theorem areAscii_chars (hlayout : IsReadable layout) (level : Nat) (j : Json) :
    AreAscii (chars layout level j) := by
  induction j using treeInduction generalizing level with
  | null => rw [chars]; decide
  | bool b => cases b <;> rw [chars] <;> decide
  | int n => rw [chars]; exact areAscii_intChars n
  | float x => rw [chars]; exact areAscii_numberChars x
  | str s => rw [chars]; exact areAscii_stringChars s
  | arr items ih =>
    cases items with
    | nil => rw [chars]; decide
    | cons item items =>
      rw [List.forall_mem_cons] at ih
      rw [chars]
      refine .append (.append (.append (.append (.cons rfl (areAscii_lineBreak _ _)) (ih.1 _)) ?_)
        (areAscii_lineBreak _ _)) (by decide)
      exact areAscii_itemChars hlayout _ fun j hj => ih.2 j hj _
  | obj fields ih =>
    cases fields with
    | nil => rw [chars]; decide
    | cons f fields =>
      rw [List.forall_mem_cons] at ih
      rw [chars]
      refine .append (.append (.append (.append (.cons rfl (areAscii_lineBreak _ _)) ?_) ?_)
        (areAscii_lineBreak _ _)) (by decide)
      · exact areAscii_fieldChars hlayout _ (ih.1 _)
      · exact areAscii_fieldsChars hlayout _ fun f hf => ih.2 f hf _

end RunCharts.Json
