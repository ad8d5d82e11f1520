import RunCharts.Proofs.Json.Derived
import RunCharts.Proofs.Json.RoundTrip

/-!
# JSON is read

What can be derived is read to its end, wherever something follows that can stand behind it, unless
one of its integers has too many digits. So much fuel as the reader has is enough.
-/

namespace RunCharts.Json.Grammar

open Reader

variable {cs gap rest tail : List Char} {fuel room : Nat} {kind : Kind}

/-! ### Rules of reading -/

section

variable {α β : Type} {r : Result α}

theorem Reads.map (f : α → β) (h : Reads r rest) : Reads (r.map fun p => (f p.1, p.2)) rest := by
  rcases h with ⟨a, rfl⟩ | ⟨n, rfl⟩
  · exact .inl ⟨f a, rfl⟩
  · exact .inr ⟨n, rfl⟩

theorem Reads.ne_malformed (h : Reads r rest) : r ≠ .error .malformed := by
  rcases h with ⟨a, rfl⟩ | ⟨n, rfl⟩ <;> nofun

end

/-- What is derived is read: a value from where it stands, and what has blanks in front from where
they end. Items and fields take one call beside those of their values. -/
def IsComplete (room : Nat) : Kind → List Char → Prop
  | .value, cs => ∀ fuel rest, 2 * cs.length < fuel → AtBoundary rest →
      Reads (value .refused fuel room (cs ++ rest)) rest
  | .element, cs => ∀ fuel rest, 2 * cs.length < fuel → AtBoundary rest →
      ∃ gap, IsBlank gap ∧ Reads (value .refused fuel room (skipGap (cs ++ rest))) (gap ++ rest)
  | .elements, cs => ∀ fuel rest, 2 * cs.length + 1 < fuel →
      Reads (items .refused fuel room (skipGap (cs ++ ']' :: rest))) rest
  | .member, cs => ∀ fuel rest, 2 * cs.length < fuel → AtBoundary rest →
      (∃ f, fields .refused (fuel + 1) room (skipGap (cs ++ rest)) =
        afterField .refused fuel room f (skipGap rest)) ∨
      ∃ n, fields .refused (fuel + 1) room (skipGap (cs ++ rest)) = .error (.hugeInteger n)
  | .members, cs => ∀ fuel rest, 2 * cs.length + 1 < fuel →
      Reads (fields .refused fuel room (skipGap (cs ++ '}' :: rest))) rest

/-! ### Values -/

/-- A value takes some fuel. -/
theorem isComplete_value (h : ∀ fuel rest, 2 * cs.length ≤ fuel → AtBoundary rest →
    Reads (value .refused (fuel + 1) room (cs ++ rest)) rest) : IsComplete room .value cs := by
  intro fuel rest hfuel hrest
  obtain ⟨fuel, rfl⟩ := Nat.exists_eq_add_one.mpr (Nat.zero_lt_of_lt hfuel)
  exact h fuel rest (Nat.le_of_lt_succ hfuel) hrest

theorem isComplete_word (h : cs ∈ ["null".toList, "true".toList, "false".toList]) :
    IsComplete room .value cs := by
  refine isComplete_value fun fuel rest _ _ => ?_
  simp only [List.mem_cons, List.not_mem_nil, or_false] at h
  rcases h with rfl | rfl | rfl <;> exact .inl ⟨_, rfl⟩

theorem exists_digit_of_isUnsigned (h : IsUnsigned cs) :
    ∃ c cs', cs = c :: cs' ∧ Text.isAsciiDigit c = true := by
  obtain ⟨whole, fraction, exponent, hwhole, -, -, rfl⟩ := h
  obtain ⟨c, whole', rfl⟩ := List.exists_cons_of_ne_nil hwhole.ne_nil
  exact ⟨c, _, rfl, hwhole.digits c List.mem_cons_self⟩

theorem isComplete_number (h : IsNumber cs) : IsComplete room .value cs := by
  obtain ⟨sign, v, hsign, hv, rfl⟩ := h
  refine isComplete_value fun fuel rest _ hrest => ?_
  obtain ⟨negative, hnegative⟩ : ∃ negative, sign ++ v ++ rest =
      NumberStyle.signed negative (v ++ rest) := by
    rcases hsign with rfl | rfl
    · exact ⟨false, rfl⟩
    · exact ⟨true, rfl⟩
  have hread := reads_unsigned negative hv hrest
  obtain ⟨c, v, rfl, hc⟩ := exists_digit_of_isUnsigned hv
  rwa [hnegative, List.cons_append, value_signed_of_digit .refused fuel room negative hc]

theorem isComplete_string (h : IsString cs) : IsComplete room .value cs := by
  obtain ⟨body, hbody, rfl⟩ := h
  refine isComplete_value fun fuel rest _ _ => ?_
  obtain ⟨s, hs⟩ := exists_string_iff.mpr ⟨body, hbody, rfl⟩
  rw [List.cons_append, List.append_assoc, List.singleton_append, value, hs]
  exact .inl ⟨_, rfl⟩

theorem skipGap_blank {c : Char} (hgap : IsBlank gap) (hc : isGap c = false) (cs : List Char) :
    skipGap (gap ++ c :: cs) = c :: cs := by
  rw [skipGap_append (isBlank_iff.mp hgap), skipGap_cons hc]

theorem isComplete_emptyArray (h : IsBlank gap) :
    IsComplete (room + 1) .value ('[' :: (gap ++ [']'])) := by
  refine isComplete_value fun fuel rest _ _ => ?_
  refine .inl ⟨.arr [], ?_⟩
  rw [List.cons_append, List.append_assoc, List.singleton_append, value]
  exact skipGap_blank h rfl rest

theorem isComplete_emptyObject (h : IsBlank gap) :
    IsComplete (room + 1) .value ('{' :: (gap ++ ['}'])) := by
  refine isComplete_value fun fuel rest _ _ => ?_
  refine .inl ⟨.obj [], ?_⟩
  rw [List.cons_append, List.append_assoc, List.singleton_append, value]
  exact skipGap_blank h rfl rest

theorem exists_cons_of_items (h : items .refused fuel room cs ≠ .error .malformed) :
    ∃ c cs', cs = c :: cs' ∧ c ≠ ']' := by
  cases fuel with
  | zero => exact absurd rfl h
  | succ fuel =>
    obtain ⟨c, cs', hcs, -, hc⟩ := exists_cons_of_value (mt items_of_error h)
    exact ⟨c, cs', hcs, hc⟩

theorem isComplete_array (h : IsComplete room .elements cs) :
    IsComplete (room + 1) .value ('[' :: (cs ++ [']'])) := by
  refine isComplete_value fun fuel rest hfuel _ => ?_
  simp only [List.length_cons, List.length_append] at hfuel
  have hread := h fuel rest (by omega)
  -- no items start with the bracket, so the array is not taken for an empty one
  obtain ⟨c, cs', hcs, hc⟩ := exists_cons_of_items hread.ne_malformed
  rw [List.cons_append, List.append_assoc, List.singleton_append, value_items hcs hc, ← hcs]
  exact hread.map arr

theorem exists_cons_of_fields (h : fields .refused fuel room cs ≠ .error .malformed) :
    ∃ cs', cs = '"' :: cs' := by
  cases fuel with
  | zero => exact absurd rfl h
  | succ fuel =>
    unfold fields at h
    split at h
    · exact ⟨_, rfl⟩
    · exact absurd rfl h

theorem isComplete_object (h : IsComplete room .members cs) :
    IsComplete (room + 1) .value ('{' :: (cs ++ ['}'])) := by
  refine isComplete_value fun fuel rest hfuel _ => ?_
  simp only [List.length_cons, List.length_append] at hfuel
  have hread := h fuel rest (by omega)
  obtain ⟨cs', hcs⟩ := exists_cons_of_fields hread.ne_malformed
  rw [List.cons_append, List.append_assoc, List.singleton_append, value_fields hcs (by decide),
    ← hcs]
  exact hread.map fun fs => obj (upsertAll fs)

/-! ### Items -/

theorem isComplete_element {before after : List Char} (hbefore : IsBlank before)
    (h : IsComplete room .value cs) (hafter : IsBlank after) :
    IsComplete room .element (before ++ (cs ++ after)) := by
  intro fuel rest hfuel hrest
  refine ⟨after, hafter, ?_⟩
  simp only [List.length_append] at hfuel
  -- the blanks behind a value are left to the caller, who skips them
  have hread := h fuel (after ++ rest) (by omega) (atBoundary_append (isBlank_iff.mp hafter) hrest)
  obtain ⟨c, cs', hcs, hc, -⟩ := exists_cons_of_value hread.ne_malformed
  rw [List.append_assoc, List.append_assoc, hcs, skipGap_blank hbefore hc, ← hcs]
  exact hread

theorem reads_items {c : Char} (hread : Reads (value .refused fuel room cs) (gap ++ c :: tail))
    (hgap : IsBlank gap) (hc : isGap c = false)
    (hafter : ∀ j, Reads (afterItem .refused fuel room j (c :: tail)) rest) :
    Reads (items .refused (fuel + 1) room cs) rest := by
  rcases hread with ⟨j, hread⟩ | ⟨n, hread⟩
  · rw [items_of_value hread, skipGap_blank hgap hc]
    exact hafter j
  · exact .inr ⟨n, items_of_error hread⟩

theorem isComplete_lastElement (h : IsComplete room .element cs) :
    IsComplete room .elements cs := by
  intro fuel rest hfuel
  obtain ⟨fuel, rfl⟩ := Nat.exists_eq_add_one.mpr (Nat.zero_lt_of_lt hfuel)
  obtain ⟨gap, hgap, hread⟩ := h fuel (']' :: rest) (by omega) (atBoundary_cons rfl)
  exact reads_items hread hgap rfl fun j => .inl ⟨[j], rfl⟩

theorem isComplete_nextElement {more : List Char} (h : IsComplete room .element cs)
    (hmore : IsComplete room .elements more) : IsComplete room .elements (cs ++ ',' :: more) := by
  intro fuel rest hfuel
  obtain ⟨fuel, rfl⟩ := Nat.exists_eq_add_one.mpr (Nat.zero_lt_of_lt hfuel)
  simp only [List.length_append, List.length_cons] at hfuel
  obtain ⟨gap, hgap, hread⟩ :=
    h fuel (',' :: (more ++ ']' :: rest)) (by omega) (atBoundary_cons rfl)
  rw [List.append_assoc, List.cons_append]
  exact reads_items hread hgap rfl fun j => (hmore fuel rest (by omega)).map (j :: ·)

/-! ### Fields -/

theorem isComplete_member {before key after : List Char} (hbefore : IsBlank before)
    (hkey : IsString key) (hafter : IsBlank after) (h : IsComplete room .element cs) :
    IsComplete room .member (before ++ (key ++ (after ++ ':' :: cs))) := by
  intro fuel rest hfuel hrest
  obtain ⟨body, hbody, rfl⟩ := hkey
  simp only [List.length_append, List.length_cons] at hfuel
  have htext : before ++ ('"' :: (body ++ ['"']) ++ (after ++ ':' :: cs)) ++ rest =
      before ++ '"' :: (body ++ '"' :: (after ++ ':' :: (cs ++ rest))) := by simp
  obtain ⟨s, hs⟩ : ∃ s, string (body ++ '"' :: (after ++ ':' :: (cs ++ rest))) =
      .ok (s, after ++ ':' :: (cs ++ rest)) := exists_string_iff.mpr ⟨body, hbody, rfl⟩
  rw [htext, skipGap_blank hbefore rfl, fields_of_key hs (skipGap_blank hafter rfl _)]
  obtain ⟨gap, hgap, ⟨j, hread⟩ | ⟨n, hread⟩⟩ := h fuel rest (by omega) hrest
  · refine .inl ⟨(s, j), ?_⟩
    rw [afterColon_of_value hread, skipGap_append (isBlank_iff.mp hgap)]
  · exact .inr ⟨n, afterColon_of_error hread⟩

theorem isComplete_lastMember (h : IsComplete room .member cs) : IsComplete room .members cs := by
  intro fuel rest hfuel
  obtain ⟨fuel, rfl⟩ := Nat.exists_eq_add_one.mpr (Nat.zero_lt_of_lt hfuel)
  rcases h fuel ('}' :: rest) (by omega) (atBoundary_cons rfl) with ⟨f, hread⟩ | ⟨n, hread⟩
  · exact .inl ⟨[f], hread⟩
  · exact .inr ⟨n, hread⟩

theorem isComplete_nextMember {more : List Char} (h : IsComplete room .member cs)
    (hmore : IsComplete room .members more) : IsComplete room .members (cs ++ ',' :: more) := by
  intro fuel rest hfuel
  obtain ⟨fuel, rfl⟩ := Nat.exists_eq_add_one.mpr (Nat.zero_lt_of_lt hfuel)
  simp only [List.length_append, List.length_cons] at hfuel
  rw [List.append_assoc, List.cons_append]
  rcases h fuel (',' :: (more ++ '}' :: rest)) (by omega) (atBoundary_cons rfl)
    with ⟨f, hread⟩ | ⟨n, hread⟩
  · rw [hread]
    exact (hmore fuel rest (by omega)).map (f :: ·)
  · exact .inr ⟨n, hread⟩

theorem Derives.isComplete (h : Derives room kind cs) : IsComplete room kind cs := by
  induction h with
  | word h => exact isComplete_word h
  | number h => exact isComplete_number h
  | string h => exact isComplete_string h
  | emptyArray h => exact isComplete_emptyArray h
  | array _ ih => exact isComplete_array ih
  | emptyObject h => exact isComplete_emptyObject h
  | object _ ih => exact isComplete_object ih
  | element hbefore _ hafter ih => exact isComplete_element hbefore ih hafter
  | lastElement _ ih => exact isComplete_lastElement ih
  | nextElement _ _ ih ihmore => exact isComplete_nextElement ih ihmore
  | member hbefore hkey hafter _ ih => exact isComplete_member hbefore hkey hafter ih
  | lastMember _ ih => exact isComplete_lastMember ih
  | nextMember _ _ ih ihmore => exact isComplete_nextMember ih ihmore

theorem read_of_isText {s : String} (h : IsText depthLimit s.toList) :
    (∃ j, read .refused s = .ok j) ∨ ∃ n, read .refused s = .error (.hugeInteger n) := by
  unfold IsText at h
  unfold read
  generalize s.toList = cs at h ⊢
  cases h with
  | @element _ before v after hbefore hv hafter =>
    have hend := atBoundary_append (isBlank_iff.mp hafter) atBoundary_nil
    rw [List.append_nil] at hend
    have hread := hv.isComplete (2 * (v ++ after).length + 1) after
      (by rw [List.length_append]; omega) hend
    have hskip : skipGap (before ++ (v ++ after)) = v ++ after := by
      obtain ⟨c, cs, hcs, hc, -⟩ := exists_cons_of_value hread.ne_malformed
      rw [hcs, skipGap_blank hbefore hc]
    have hafterSkip : skipGap after = [] := List.dropWhile_eq_nil_iff.mpr (isBlank_iff.mp hafter)
    dsimp only
    rw [hskip]
    rcases hread with ⟨j, hread⟩ | ⟨n, hread⟩
    · rw [hread]
      dsimp only
      rw [hafterSkip]
      exact .inl ⟨j, rfl⟩
    · rw [hread]
      exact .inr ⟨n, rfl⟩

end RunCharts.Json.Grammar
