import RunCharts.Json.Reader

/-!
# Halves side by side

A text may hold a leading half right before a trailing one and still not hold the character that the
two stand for together. Written as 16-bit units the two cannot be told from that character, so
reading the units joins them.
-/

namespace RunCharts.Text

open Json.Reader

def isLeadingHalf (c : Char) : Bool := isLeading (code c)

def isTrailingHalf (c : Char) : Bool := isTrailing (code c)

def pairOf (c d : Char) : Char := ofCode (0x10000 + (code c - 0xD800) * 0x400 + (code d - 0xDC00))

/-- Whether two halves stand side by side that stand for a character together. -/
def hasSplitPair : List Char → Bool
  | c :: d :: cs => (isLeadingHalf c && isTrailingHalf d) || hasSplitPair (d :: cs)
  | _ => false

def joinHalves : List Char → List Char
  | c :: d :: cs =>
    if isLeadingHalf c && isTrailingHalf d then pairOf c d :: joinHalves cs
    else c :: joinHalves (d :: cs)
  | cs => cs

def joined (s : String) : String := String.ofList (joinHalves s.toList)

/-- The 16-bit units of a character: one, or a pair of them above U+FFFF. -/
def units (c : Char) : List Nat :=
  if code c < 0x10000 then [code c]
  else [0xD800 + (code c - 0x10000) / 0x400, 0xDC00 + (code c - 0x10000) % 0x400]

variable {c d : Char} {cs : List Char}

theorem joinHalves_eq_self (h : hasSplitPair cs = false) : joinHalves cs = cs := by
  fun_induction joinHalves cs with
  | case1 c d cs hpair ih => simp [hasSplitPair, hpair] at h
  | case2 c d cs hpair ih =>
    rw [hasSplitPair, Bool.or_eq_false_iff] at h
    rw [ih h.2]
  | case3 => rfl

theorem joined_eq_self {s : String} (h : hasSplitPair s.toList = false) : joined s = s := by
  rw [joined, joinHalves_eq_self h, String.ofList_toList]

theorem length_joinHalves_le (cs : List Char) : (joinHalves cs).length ≤ cs.length := by
  fun_induction joinHalves cs with
  | case1 c d cs hpair ih =>
    rw [List.length_cons, List.length_cons, List.length_cons]
    omega
  | case2 c d cs hpair ih =>
    rw [List.length_cons, List.length_cons]
    exact Nat.succ_le_succ ih
  | case3 cs => exact Nat.le_refl _

/-- Two halves that stand side by side become one character. -/
theorem length_joinHalves_lt (h : hasSplitPair cs = true) : (joinHalves cs).length < cs.length := by
  fun_induction joinHalves cs with
  | case1 c d cs hpair ih =>
    have hle := length_joinHalves_le cs
    rw [List.length_cons, List.length_cons, List.length_cons]
    omega
  | case2 c d cs hpair ih =>
    rw [hasSplitPair, Bool.or_eq_true_iff] at h
    rw [List.length_cons, List.length_cons]
    exact Nat.succ_lt_succ (ih (h.resolve_left hpair))
  | case3 cs hshort =>
    match cs with
    | [] | [_] => cases h
    | c :: d :: cs => exact absurd rfl (hshort c d cs)

theorem length_joined (s : String) : (joined s).length = (joinHalves s.toList).length := by
  rw [joined, String.length_ofList]

theorem ofCode_code (c : Char) : ofCode (code c) = c := by
  unfold ofCode code
  by_cases hc : isStandIn c = true
  · have hrange : 0xD800 ≤ c.toNat - standInShift ∧ c.toNat - standInShift < 0xE000 ∧
        standInShift ≤ c.toNat := by
      rw [isStandIn, Bool.and_eq_true, decide_eq_true_eq, decide_eq_true_eq] at hc
      omega
    have hsurrogate : isSurrogate (c.toNat - standInShift) = true := by
      rw [isSurrogate, Bool.and_eq_true, decide_eq_true_eq, decide_eq_true_eq]
      exact ⟨hrange.1, hrange.2.1⟩
    rw [if_pos hc, if_pos hsurrogate, Nat.sub_add_cancel hrange.2.2, Char.ofNat_toNat]
  · rw [if_neg hc, if_neg (by simp [not_isSurrogate_toNat]), Char.ofNat_toNat]

theorem code_lt (c : Char) : code c < 0x110000 := by
  have hc : c.toNat < 0x110000 := by
    have h := c.valid
    simp only [UInt32.isValidChar, Nat.isValidChar] at h
    simp only [Char.toNat]
    omega
  unfold code
  split <;> omega

theorem not_isLeadingHalf_of_le (h : 0x10000 ≤ code c) : isLeadingHalf c = false := by
  unfold isLeadingHalf isLeading
  rw [Bool.and_eq_false_iff, decide_eq_false_iff_not, decide_eq_false_iff_not]
  omega

/-- Characters that are no halves are no split pair. -/
theorem hasSplitPair_of_isWhole {s : String} (h : isWhole s = true) :
    hasSplitPair s.toList = false := by
  have hleading : ∀ c ∈ s.toList, isLeadingHalf c = false := by
    intro c hc
    have hwhole := List.all_eq_true.mp h c hc
    rw [Bool.not_eq_true'] at hwhole
    have hcode : code c = c.toNat := by rw [code, hwhole, if_neg Bool.false_ne_true]
    have hsurrogate := not_isSurrogate_toNat c
    simp only [isSurrogate, Bool.and_eq_false_iff, decide_eq_false_iff_not] at hsurrogate
    unfold isLeadingHalf isLeading
    rw [hcode, Bool.and_eq_false_iff, decide_eq_false_iff_not, decide_eq_false_iff_not]
    omega
  generalize s.toList = cs at hleading
  fun_induction hasSplitPair cs with
  | case1 c d cs ih =>
    rw [hleading c List.mem_cons_self, Bool.false_and, Bool.false_or]
    exact ih fun e he => hleading e (List.mem_cons_of_mem c he)
  | case2 => rfl

/-- The units of a character above U+FFFF are read as that character. -/
theorem joinPairs_units_append (h : 0x10000 ≤ code c) (ns : List Nat) :
    joinPairs (units c ++ ns) = c :: joinPairs ns := by
  have hlt := code_lt c
  have hunits : units c ++ ns = (0xD800 + (code c - 0x10000) / 0x400) ::
      (0xDC00 + (code c - 0x10000) % 0x400) :: ns := by
    rw [units, if_neg (by omega)]
    rfl
  have hpair : (isLeading (0xD800 + (code c - 0x10000) / 0x400) &&
      isTrailing (0xDC00 + (code c - 0x10000) % 0x400)) = true := by
    simp only [isLeading, isTrailing, Bool.and_eq_true, decide_eq_true_eq]
    omega
  have hcode : 0x10000 + (0xD800 + (code c - 0x10000) / 0x400 - 0xD800) * 0x400 +
      (0xDC00 + (code c - 0x10000) % 0x400 - 0xDC00) = code c := by
    omega
  rw [hunits, joinPairs, if_pos hpair, hcode, ofCode_code]

/-- The first unit of a character is a trailing one only if the character is a trailing half. -/
theorem exists_units_eq (d : Char) :
    ∃ n ns, units d = n :: ns ∧ isTrailing n = isTrailingHalf d ∧
      (isTrailingHalf d = true → n = code d ∧ ns = []) := by
  unfold units isTrailingHalf
  split
  · exact ⟨_, _, rfl, rfl, fun _ => ⟨rfl, rfl⟩⟩
  · rename_i hd
    have hlt := code_lt d
    have hcode : isTrailing (code d) = false := by
      unfold isTrailing
      rw [Bool.and_eq_false_iff, decide_eq_false_iff_not, decide_eq_false_iff_not]
      omega
    refine ⟨_, _, rfl, ?_, ?_⟩
    · rw [hcode]
      unfold isTrailing
      rw [Bool.and_eq_false_iff, decide_eq_false_iff_not, decide_eq_false_iff_not]
      omega
    · rw [hcode]
      exact fun h => absurd h Bool.false_ne_true

/-- Reading the units of a text joins the halves that stand side by side. -/
theorem joinPairs_units (cs : List Char) : joinPairs (cs.flatMap units) = joinHalves cs := by
  fun_induction joinHalves cs with
  | case1 c d cs hpair ih =>
    have hhalves := Bool.and_eq_true_iff.mp hpair
    have hc : units c = [code c] := by
      rcases Nat.lt_or_ge (code c) 0x10000 with hlt | hge
      · exact if_pos hlt
      · rw [not_isLeadingHalf_of_le hge] at hhalves
        exact absurd hhalves.1 Bool.false_ne_true
    obtain ⟨n, ns, hd, -, hn⟩ := exists_units_eq d
    obtain ⟨rfl, rfl⟩ := hn hhalves.2
    have hjoin : (isLeading (code c) && isTrailing (code d)) = true := hpair
    rw [List.flatMap_cons, List.flatMap_cons, hc, hd, List.singleton_append,
      List.singleton_append, joinPairs, if_pos hjoin, ih]
    rfl
  | case2 c d cs hpair ih =>
    rw [List.flatMap_cons]
    rcases Nat.lt_or_ge (code c) 0x10000 with hlt | hge
    · obtain ⟨n, ns, hd, htrailing, -⟩ := exists_units_eq d
      have hsplit : ¬ (isLeading (code c) && isTrailing n) = true := by
        rw [htrailing]
        exact hpair
      rw [units, if_pos hlt, List.singleton_append, List.flatMap_cons, hd, List.cons_append,
        joinPairs, if_neg hsplit, ofCode_code, ← ih, List.flatMap_cons, hd, List.cons_append]
    · rw [joinPairs_units_append hge, ih]
  | case3 cs hshort =>
    match cs with
    | [] => rfl
    | [c] =>
      rw [List.flatMap_cons, List.flatMap_nil]
      rcases Nat.lt_or_ge (code c) 0x10000 with hlt | hge
      · rw [units, if_pos hlt, List.append_nil, joinPairs, ofCode_code]
      · rw [joinPairs_units_append hge]
        rfl
    | c :: d :: cs => exact absurd rfl (hshort c d cs)

end RunCharts.Text
