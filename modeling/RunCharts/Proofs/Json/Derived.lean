import RunCharts.Proofs.Json.Leaves
import RunCharts.Proofs.Json.Places

/-!
# What is read is JSON

What the reader takes from the front of a text can be derived, where the words for numbers without a
value are refused. What is read of it has no NaN. A number that is refused for its size is an
integer of the text. `IsExplained` says this of one reading; it passes from the items and the fields
to the value, and back, on the fuel of the reader.
-/

namespace RunCharts.Json.Grammar

open Reader

/-- A reading whose characters are in a language and whose result has a property, or that ends with
an integer of too many digits, or with an error that is not about the size of an integer. -/
inductive IsExplained {α : Type} (L : List Char → Prop) (W : α → Prop) (cs : List Char) :
    Result α → Prop
  | read {v rest : List Char} {a : α} (hv : L v) (ha : W a) (hcs : cs = v ++ rest) :
      IsExplained L W cs (.ok (a, rest))
  | huge {n : Nat} (hn : Numeral.digitLimit < n) (h : HasInteger n cs) :
      IsExplained L W cs (.error (.hugeInteger n))
  | refused {e : ReadError} (h : ∀ n, e ≠ .hugeInteger n) : IsExplained L W cs (.error e)

section

variable {α β : Type} {L L' : List Char → Prop} {W : α → Prop} {V : β → Prop}
  {cs before : List Char} {r : Result α}

theorem IsExplained.malformed : IsExplained L W cs (.error .malformed) := .refused nofun

theorem IsExplained.tooDeep : IsExplained L W cs (.error .tooDeep) := .refused nofun

/-- An error says nothing of what would have been read. -/
theorem IsExplained.error {e : ReadError} (h : IsExplained L W cs (.error e : Result α)) :
    IsExplained L' V cs (.error e : Result β) := by
  cases h with
  | huge hn h => exact .huge hn h
  | refused h => exact .refused h

theorem IsExplained.map {f : α → β} (h : IsExplained L W cs r) (hL : ∀ v, L v → L' v)
    (hf : ∀ a, W a → V (f a)) : IsExplained L' V cs (r.map fun p => (f p.1, p.2)) := by
  cases h with
  | read hv ha hcs => exact .read (hL _ hv) (hf _ ha) hcs
  | huge hn h => exact .huge hn h
  | refused h => exact .refused h

/-- Characters in front of which a value may begin are in front of the integer too. -/
theorem IsExplained.prepend (h : IsExplained L W cs r) (hbefore : IsValuePlace before)
    (hL : ∀ v, L v → L' (before ++ v)) : IsExplained L' W (before ++ cs) r := by
  cases h with
  | read hv ha hcs => exact .read (hL _ hv) ha (hcs ▸ (List.append_assoc ..).symm)
  | huge hn h => exact .huge hn (h.prepend hbefore)
  | refused h => exact .refused h

theorem IsExplained.weaken (h : IsExplained L W cs r) (hL : ∀ v, L v → L' v) :
    IsExplained L' W cs r := h.prepend .start hL

end

/-! ### Values without parts -/

theorem unsigned_explained {sign cs : List Char} (hsign : IsSign sign) (negative : Bool) :
    IsExplained IsNumber (fun j => j.hasNoNaN = true) (sign ++ cs) (unsigned negative cs) := by
  cases hread : unsigned negative cs with
  | ok r =>
    obtain ⟨j, rest⟩ := r
    obtain ⟨hj, v, hv, rfl⟩ := isUnsigned_of_unsigned hread
    exact .read ⟨sign, v, hsign, hv, rfl⟩ hj (List.append_assoc ..).symm
  | error e =>
    by_cases he : ∃ n, e = .hugeInteger n
    · obtain ⟨n, rfl⟩ := he
      obtain ⟨hlimit, whole, after, hwhole, hlength, hafter, rfl⟩ := isWhole_of_unsigned hread
      exact .huge hlimit ⟨[], sign, whole, after, .start, hsign, hwhole, hlength, hafter, rfl⟩
    · exact .refused fun n hn => he ⟨n, hn⟩

theorem number_explained (cs : List Char) :
    IsExplained IsNumber (fun j => j.hasNoNaN = true) cs (number cs) := by
  unfold number
  split
  · exact unsigned_explained (.inr rfl) true
  · exact unsigned_explained (.inl rfl) false

theorem hasNoNaN_of_mem_words {entry : String × Json} (h : entry ∈ words) :
    entry.2.hasNoNaN = true := by
  revert entry
  simp [words, hasNoNaN, everywhere]

theorem atom_explained (room : Nat) (cs : List Char) :
    IsExplained (Derives room .value) (fun j => j.hasNoNaN = true) cs (atom .refused cs) := by
  unfold atom
  split
  · rename_i h
    obtain ⟨hmem, hcs⟩ := findWord?_spec h
    have hword : _ ∈ words.map fun entry => entry.1.toList := List.mem_map_of_mem hmem
    exact .read (.word hword) (hasNoNaN_of_mem_words hmem) hcs.symm
  · split
    · exact .refused nofun
    · exact (number_explained cs).weaken fun _ hv => .number hv

/-- The quote in front of a string is a part of it. -/
theorem string_explained (cs : List Char) :
    IsExplained IsString (fun _ => True) ('"' :: cs) (string cs) := by
  cases hread : string cs with
  | ok r =>
    obtain ⟨s, rest⟩ := r
    obtain ⟨body, hbody, rfl⟩ := exists_string_iff.mp ⟨s, hread⟩
    exact .read ⟨body, hbody, rfl⟩ trivial (by simp)
  | error e =>
    unfold string at hread
    split at hread
    · cases hread
    · cases hread
      exact .malformed

/-! ### Items and fields -/

theorem Derives.element_append {room : Nat} {gap cs : List Char} (hgap : IsBlank gap)
    (h : Derives room .element cs) : Derives room .element (gap ++ cs) := by
  cases h with
  | element hbefore h hafter =>
    rw [← List.append_assoc]
    exact .element (List.forall_mem_append.mpr ⟨hgap, hbefore⟩) h hafter

theorem Derives.elements_append {room : Nat} {gap cs : List Char} (hgap : IsBlank gap)
    (h : Derives room .elements cs) : Derives room .elements (gap ++ cs) := by
  cases h with
  | lastElement h => exact .lastElement (h.element_append hgap)
  | nextElement h hmore =>
    rw [← List.append_assoc]
    exact .nextElement (h.element_append hgap) hmore

theorem Derives.member_append {room : Nat} {gap cs : List Char} (hgap : IsBlank gap)
    (h : Derives room .member cs) : Derives room .member (gap ++ cs) := by
  cases h with
  | member hbefore hkey hafter h =>
    rw [← List.append_assoc]
    exact .member (List.forall_mem_append.mpr ⟨hgap, hbefore⟩) hkey hafter h

theorem Derives.members_append {room : Nat} {gap cs : List Char} (hgap : IsBlank gap)
    (h : Derives room .members cs) : Derives room .members (gap ++ cs) := by
  cases h with
  | lastMember h => exact .lastMember (h.member_append hgap)
  | nextMember h hmore =>
    rw [← List.append_assoc]
    exact .nextMember (h.member_append hgap) hmore

def AreItems (room : Nat) (cs : List Char) : Prop :=
  ∃ xs, Derives room .elements xs ∧ cs = xs ++ [']']

def AreFields (room : Nat) (cs : List Char) : Prop :=
  ∃ xs, Derives room .members xs ∧ cs = xs ++ ['}']

/-- Behind a separator come blanks, and then what is explained. -/
theorem IsExplained.behind {α : Type} {L L' : List Char → Prop} {W : α → Prop} {c : Char}
    {front cs : List Char} {r : Result α} (hfront : IsClosed front)
    (hc : c ∈ separators) (h : IsExplained L W (skipGap cs) r)
    (hL : ∀ gap v, IsBlank gap → L v → L' (front ++ c :: (gap ++ v))) :
    IsExplained L' W (front ++ c :: cs) r := by
  obtain ⟨gap, hgap, hcs⟩ := exists_blank_skipGap cs
  have hopen : ∀ v, front ++ c :: (gap ++ v) = (front ++ [c] ++ gap) ++ v := by simp
  rw [hcs, hopen]
  refine h.prepend (.blank (.separator hfront hc) hgap) fun v hv => ?_
  rw [← hopen]
  exact hL gap v hgap hv

/-- An error behind a separator is explained like the error. -/
theorem IsExplained.error_behind {α β : Type} {L L' : List Char → Prop} {W : α → Prop}
    {V : β → Prop} {c : Char} {front cs : List Char} {e : ReadError} (hfront : IsClosed front)
    (hc : c ∈ separators)
    (h : IsExplained L W (skipGap cs) (.error e : Result α)) :
    IsExplained L' V (front ++ c :: cs) (.error e : Result β) :=
  IsExplained.behind (L := fun _ => False) hfront hc h.error fun _ _ _ hv => hv.elim

def ValuesExplained (fuel : Nat) : Prop :=
  ∀ room cs, IsExplained (Derives room .value) (fun j => j.hasNoNaN = true) cs
    (value .refused fuel room cs)

def ItemsExplained (fuel : Nat) : Prop :=
  ∀ room cs, IsExplained (AreItems room) (fun js => ∀ j ∈ js, j.hasNoNaN = true) cs
    (items .refused fuel room cs)

def FieldsExplained (fuel : Nat) : Prop :=
  ∀ room cs, IsExplained (AreFields room) (fun fs => ∀ f ∈ fs, f.2.hasNoNaN = true) cs
    (fields .refused fuel room cs)

section

variable {fuel : Nat}

theorem array_explained {room : Nat} {cs : List Char} {r : Result (List Json)}
    (h : IsExplained (AreItems room) (fun js => ∀ j ∈ js, j.hasNoNaN = true) (skipGap cs) r) :
    IsExplained (Derives (room + 1) .value) (fun j : Json => j.hasNoNaN = true) ('[' :: cs)
      (r.map fun p => (Json.arr p.1, p.2)) := by
  refine IsExplained.behind (L := AreItems room) isClosed_nil (by decide) ?_ ?_
  · exact h.map (fun _ hv => hv) fun _ hjs => hasNoNaN_arr_iff.mpr hjs
  · rintro gap _ hgap ⟨xs, hxs, rfl⟩
    rw [← List.append_assoc]
    exact .array (hxs.elements_append hgap)

theorem object_explained {room : Nat} {cs : List Char} {r : Result (List (String × Json))}
    (h : IsExplained (AreFields room) (fun fs => ∀ f ∈ fs, f.2.hasNoNaN = true) (skipGap cs) r) :
    IsExplained (Derives (room + 1) .value) (fun j : Json => j.hasNoNaN = true) ('{' :: cs)
      (r.map fun p => (Json.obj (upsertAll p.1), p.2)) := by
  refine IsExplained.behind (L := AreFields room) isClosed_nil (by decide) ?_ ?_
  · refine h.map (f := fun fs => obj (upsertAll fs)) (fun _ hv => hv) fun _ hfs => ?_
    exact hasNoNaN_obj_iff.mpr fun f hf => hfs f (mem_of_mem_upsertAll hf)
  · rintro gap _ hgap ⟨xs, hxs, rfl⟩
    rw [← List.append_assoc]
    exact .object (hxs.members_append hgap)

theorem value_explained (hitems : ItemsExplained fuel) (hfields : FieldsExplained fuel) :
    ValuesExplained (fuel + 1) := by
  intro room cs
  unfold value
  split
  · exact (string_explained _).map (fun _ hv => .string hv) fun _ _ => rfl
  · rename_i cs
    split
    · exact .tooDeep
    · rename_i rest hskip
      obtain ⟨gap, hgap, hcs⟩ := exists_blank_skipGap cs
      refine .read (.emptyArray hgap) rfl ?_
      rw [hcs, hskip]
      simp
    · exact array_explained (hitems ..)
  · rename_i cs
    split
    · exact .tooDeep
    · rename_i rest hskip
      obtain ⟨gap, hgap, hcs⟩ := exists_blank_skipGap cs
      refine .read (.emptyObject hgap) rfl ?_
      rw [hcs, hskip]
      simp
    · exact object_explained (hfields ..)
  · exact atom_explained room _

theorem afterItem_explained (hitems : ItemsExplained fuel) {room : Nat} {cs : List Char}
    {item : Json} (hcs : Derives room .element cs) (hitem : item.hasNoNaN = true)
    (tail : List Char) :
    IsExplained (AreItems room) (fun js => ∀ j ∈ js, j.hasNoNaN = true) (cs ++ tail)
      (afterItem .refused fuel room item tail) := by
  unfold afterItem
  split
  · refine IsExplained.behind (L := AreItems room) hcs.isClosed (by decide) ?_ ?_
    · exact (hitems ..).map (fun _ hv => hv) fun _ hjs => List.forall_mem_cons.mpr ⟨hitem, hjs⟩
    · rintro gap _ hgap ⟨xs, hxs, rfl⟩
      exact ⟨_, .nextElement hcs (hxs.elements_append hgap), by simp⟩
  · exact .read ⟨_, .lastElement hcs, rfl⟩ (List.forall_mem_singleton.mpr hitem) (by simp)
  · exact .malformed

theorem items_explained (hvalue : ValuesExplained fuel) (hitems : ItemsExplained fuel) :
    ItemsExplained (fuel + 1) := by
  intro room cs
  have h := hvalue room cs
  cases hread : value .refused fuel room cs with
  | error e =>
    rw [hread] at h
    rw [items_of_error hread]
    exact h.error
  | ok r =>
    obtain ⟨item, rest⟩ := r
    rw [hread] at h
    cases h with
    | @read v _ _ hv hitem hcs =>
      obtain ⟨gap, hgap, hrest⟩ := exists_blank_skipGap rest
      have helement : Derives room .element (v ++ gap) := .element (List.forall_mem_nil _) hv hgap
      have hsplit : cs = v ++ gap ++ skipGap rest := by rw [hcs, List.append_assoc, ← hrest]
      have hafter := afterItem_explained hitems helement hitem (skipGap rest)
      rwa [← hsplit, ← items_of_value hread] at hafter

theorem afterField_explained (hfields : FieldsExplained fuel) {room : Nat} {cs : List Char}
    {field : String × Json} (hcs : Derives room .member cs) (hfield : field.2.hasNoNaN = true)
    (tail : List Char) :
    IsExplained (AreFields room) (fun fs => ∀ f ∈ fs, f.2.hasNoNaN = true) (cs ++ tail)
      (afterField .refused fuel room field tail) := by
  unfold afterField
  split
  · refine IsExplained.behind (L := AreFields room) hcs.isClosed (by decide) ?_ ?_
    · exact (hfields ..).map (fun _ hv => hv) fun _ hfs => List.forall_mem_cons.mpr ⟨hfield, hfs⟩
    · rintro gap _ hgap ⟨xs, hxs, rfl⟩
      exact ⟨_, .nextMember hcs (hxs.members_append hgap), by simp⟩
  · exact .read ⟨_, .lastMember hcs, rfl⟩ (List.forall_mem_singleton.mpr hfield) (by simp)
  · exact .malformed

theorem afterColon_explained (hvalue : ValuesExplained fuel) (hfields : FieldsExplained fuel)
    {k gap : List Char} (hk : IsString k) (hgap : IsBlank gap) (room : Nat) (key : String)
    (cs : List Char) :
    IsExplained (AreFields room) (fun fs => ∀ f ∈ fs, f.2.hasNoNaN = true) (k ++ gap ++ ':' :: cs)
      (afterColon .refused fuel room key cs) := by
  have h := hvalue room (skipGap cs)
  cases hread : value .refused fuel room (skipGap cs) with
  | error e =>
    rw [hread] at h
    rw [afterColon_of_error hread]
    exact h.error_behind ((isClosed_string hk).append (isClosed_blank hgap)) (by decide)
  | ok r =>
    obtain ⟨j, rest⟩ := r
    rw [hread] at h
    cases h with
    | @read v _ _ hv hj hcs =>
      obtain ⟨before, hbefore, hopen⟩ := exists_blank_skipGap cs
      obtain ⟨after, hafter, hrest⟩ := exists_blank_skipGap rest
      have hmember : Derives room .member (k ++ (gap ++ ':' :: (before ++ (v ++ after)))) :=
        .member (List.forall_mem_nil _) hk hgap (.element hbefore hv hafter)
      -- the member ends with the blanks behind its value
      have hsplit : k ++ gap ++ ':' :: cs =
          k ++ (gap ++ ':' :: (before ++ (v ++ after))) ++ skipGap rest := by
        conv_lhs => rw [hopen, hcs, hrest]
        simp
      rw [afterColon_of_value hread, hsplit]
      exact afterField_explained hfields hmember hj _

theorem fields_explained (hvalue : ValuesExplained fuel) (hfields : FieldsExplained fuel) :
    FieldsExplained (fuel + 1) := by
  intro room cs
  unfold fields
  split
  · rename_i cs
    -- an error of the key is never about an integer, so its place does not matter
    have hkey := string_explained cs
    split
    · rename_i hstring
      rw [hstring] at hkey
      exact hkey.error
    · rename_i key afterKey hstring
      rw [hstring] at hkey
      cases hkey with
      | @read k _ _ hk _ hcs =>
        obtain ⟨gap, hgap, hafterKey⟩ := exists_blank_skipGap afterKey
        split
        · rename_i rest hcolon
          have hsplit : '"' :: cs = k ++ gap ++ ':' :: rest := by
            rw [hcs, List.append_assoc, ← hcolon, ← hafterKey]
          rw [hsplit]
          exact afterColon_explained hvalue hfields hk hgap room key rest
        · exact .malformed
  · exact .malformed

end

theorem explained (fuel : Nat) :
    ValuesExplained fuel ∧ ItemsExplained fuel ∧ FieldsExplained fuel := by
  induction fuel with
  | zero => exact ⟨fun _ _ => .malformed, fun _ _ => .malformed, fun _ _ => .malformed⟩
  | succ fuel ih =>
    obtain ⟨hvalue, hitems, hfields⟩ := ih
    exact ⟨value_explained hitems hfields, items_explained hvalue hitems,
      fields_explained hvalue hfields⟩

/-! ### Whole texts -/

theorem isText_of_read {s : String} {j : Json} (h : read .refused s = .ok j) :
    IsText depthLimit s.toList ∧ j.hasNoNaN = true := by
  have hexplained := (explained (2 * (skipGap s.toList).length + 1)).1 depthLimit
    (skipGap s.toList)
  unfold read at h
  dsimp only at h
  split at h
  · cases h
  · rename_i rest hread
    rw [hread] at hexplained
    split at h
    · rename_i hempty
      cases h
      cases hexplained with
      | @read v _ _ hv hj hcs =>
        obtain ⟨before, hbefore, hopen⟩ := exists_blank_skipGap s.toList
        obtain ⟨after, hafter, hrest⟩ := exists_blank_skipGap rest
        rw [List.isEmpty_iff.mp hempty, List.append_nil] at hrest
        rw [hopen, hcs, hrest]
        exact ⟨.element hbefore hv hafter, hj⟩
    · cases h

/-- An integer that is refused stands in the text. -/
theorem hasInteger_of_read {s : String} {n : Nat} (h : read .refused s = .error (.hugeInteger n)) :
    Numeral.digitLimit < n ∧ HasInteger n s.toList := by
  have hexplained := (explained (2 * (skipGap s.toList).length + 1)).1 depthLimit
    (skipGap s.toList)
  unfold read at h
  dsimp only at h
  split at h
  · rename_i hread
    rw [hread] at hexplained
    cases h
    cases hexplained with
    | huge hlimit hinteger =>
      obtain ⟨before, hbefore, hopen⟩ := exists_blank_skipGap s.toList
      rw [hopen]
      exact ⟨hlimit, hinteger.prepend (.blank .start hbefore)⟩
    | refused hother => exact absurd rfl (hother n)
  · split at h <;> cases h

end RunCharts.Json.Grammar
