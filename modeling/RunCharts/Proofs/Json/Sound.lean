import Mathlib.Data.List.Infix
import RunCharts.Json.Reader
import RunCharts.Proofs.Decimal.Digits
import RunCharts.Proofs.Json.Trees

/-!
# What comes of reading JSON

What is left of a text after a part of it has been read is a suffix of the text, and what has been
read can be written again: its integers are not too long, no object has a key twice, and its
brackets are not too many. An integer is refused for its size only if the text has that many digits
in a row. `Sound` says all of this about one step, and it passes from the steps to the whole.
-/

namespace RunCharts

theorem Numeral.isWritable_of_natAbs_lt {n : Int} {k : Nat} (h : n.natAbs < Nat.pow 10 k)
    (hk : k ≤ digitLimit) : isWritable n = true := by
  have hpow (limit : Nat) (hlimit : k ≤ limit) : Nat.pow 10 k ≤ Nat.pow 10 limit :=
    Nat.pow_le_pow_right (by decide) hlimit
  unfold isWritable
  exact decide_eq_true (Nat.lt_of_lt_of_le h (hpow _ hk))

theorem Numeral.isWritable_applySign {negative : Bool} {n k : Nat} (h : n < Nat.pow 10 k)
    (hk : k ≤ digitLimit) : isWritable (applySign negative n) = true := by
  have habs : (applySign negative n).natAbs = n := by
    cases negative with
    | false => exact Int.natAbs_natCast n
    | true => exact (Int.natAbs_neg _).trans (Int.natAbs_natCast n)
  rw [← habs] at h
  exact isWritable_of_natAbs_lt h hk

namespace Json

namespace Reader

/-- A run of `n` digits, which are more than are read, somewhere in a text. -/
def HasHugeRun (n : Nat) (cs : List Char) : Prop :=
  Numeral.digitLimit < n ∧
    ∃ ds, ds <:+: cs ∧ ds.all Text.isAsciiDigit = true ∧ ds.length = n

/-- What is known of a tree that was read where some brackets could still be opened. -/
structure IsRead (room : Nat) (j : Json) : Prop where
  writable : j.isWritable = true
  keys : j.hasDistinctKeys = true
  depth : j.depth ≤ room

def IsLeaf (j : Json) : Prop := j.isWritable = true ∧ j.hasDistinctKeys = true ∧ j.depth = 0

theorem IsLeaf.isRead {j : Json} (h : IsLeaf j) (room : Nat) : IsRead room j :=
  ⟨h.1, h.2.1, h.2.2 ▸ Nat.zero_le room⟩

theorem isRead_arr {room : Nat} {items : List Json} (h : ∀ j ∈ items, IsRead room j) :
    IsRead (room + 1) (arr items) where
  writable := by
    rw [isWritable, areWritable_iff]
    exact fun j hj => (h j hj).writable
  keys := hasDistinctKeys_arr_iff.mpr fun j hj => (h j hj).keys
  depth := by
    rw [depth]
    exact Nat.succ_le_succ (depthOfItems_le_iff.mpr fun j hj => (h j hj).depth)

theorem isRead_obj {room : Nat} {fields : List (String × Json)}
    (h : ∀ f ∈ fields, IsRead room f.2) : IsRead (room + 1) (obj (upsertAll fields)) := by
  have hupsert : ∀ f ∈ upsertAll fields, IsRead room f.2 :=
    fun f hf => h f (mem_of_mem_upsertAll hf)
  refine ⟨?_, hasDistinctKeys_obj_iff.mpr ⟨nodup_keys_upsertAll fields, ?_⟩, ?_⟩
  · rw [isWritable, areWritableFields_iff]
    exact fun f hf => (hupsert f hf).writable
  · exact fun f hf => (hupsert f hf).keys
  · rw [depth]
    exact Nat.succ_le_succ (depthOfFields_le_iff.mpr fun f hf => (hupsert f hf).depth)

inductive Sound {α : Type} (W : α → Prop) (cs : List Char) : Result α → Prop
  | read {a : α} {rest : List Char} (ha : W a) (hrest : rest <:+ cs) : Sound W cs (.ok (a, rest))
  | huge {n : Nat} (h : HasHugeRun n cs) : Sound W cs (.error (.hugeInteger n))
  | refused {e : ReadError} (h : ∀ n, e ≠ .hugeInteger n) : Sound W cs (.error e)

section

variable {α β : Type} {W : α → Prop} {V : β → Prop} {cs cs' : List Char} {r : Result α}

theorem HasHugeRun.mono {n : Nat} (h : HasHugeRun n cs') (hcs : cs' <:+ cs) : HasHugeRun n cs := by
  obtain ⟨hn, ds, hds, hall, hlength⟩ := h
  exact ⟨hn, ds, hds.trans hcs.isInfix, hall, hlength⟩

theorem Sound.mono (h : Sound W cs' r) (hcs : cs' <:+ cs) : Sound W cs r := by
  cases h with
  | read ha hrest => exact .read ha (hrest.trans hcs)
  | huge h => exact .huge (h.mono hcs)
  | refused h => exact .refused h

theorem Sound.weaken {V : α → Prop} (h : Sound W cs r) (hW : ∀ a, W a → V a) : Sound V cs r := by
  cases h with
  | read ha hrest => exact .read (hW _ ha) hrest
  | huge h => exact .huge h
  | refused h => exact .refused h

theorem Sound.map {f : α → β} (h : Sound W cs r) (hf : ∀ a, W a → V (f a)) :
    Sound V cs (r.map fun p => (f p.1, p.2)) := by
  cases h with
  | read ha hrest => exact .read (hf _ ha) hrest
  | huge h => exact .huge h
  | refused h => exact .refused h

/-- An error says nothing of what would have been read. -/
theorem Sound.error {e : ReadError} (h : Sound W cs (.error e : Result α)) :
    Sound V cs (.error e : Result β) := by
  cases h with
  | huge h => exact .huge h
  | refused h => exact .refused h

theorem Sound.malformed : Sound W cs (.error .malformed) := .refused nofun

end

theorem skipGap_suffix (cs : List Char) : skipGap cs <:+ cs := List.dropWhile_suffix _

theorem stringUnits?_suffix {cs rest : List Char} {units : List Nat}
    (h : stringUnits? cs = some (units, rest)) : rest <:+ cs := by
  fun_induction stringUnits? cs generalizing units rest with
  | case1 => cases h
  | case2 cs =>
    cases h
    exact List.suffix_cons ..
  | case3 c₃ c₂ c₁ c₀ cs n units' rest' hrest _ ih =>
    cases h
    exact (ih hrest).trans ((List.suffix_append [c₃, c₂, c₁, c₀] cs).trans
      (List.suffix_append ['\\', 'u'] _))
  | case4 => cases h
  | case5 c cs _ d units' rest' hrest _ ih =>
    cases h
    exact (ih hrest).trans (List.suffix_append ['\\', c] cs)
  | case6 => cases h
  | case7 => cases h
  | case8 c cs _ _ _ _ ih =>
    obtain ⟨⟨units', rest'⟩, hrest, hpair⟩ := Option.map_eq_some_iff.mp h
    cases hpair
    exact (ih hrest).trans (List.suffix_cons ..)

theorem string_sound (cs : List Char) : Sound (fun _ => True) cs (string cs) := by
  unfold string
  split
  · rename_i h
    exact .read trivial (stringUnits?_suffix h)
  · exact .malformed

theorem takeDigits_append (cs : List Char) : (takeDigits cs).1 ++ (takeDigits cs).2 = cs :=
  List.takeWhile_append_dropWhile

theorem takeDigits_suffix (cs : List Char) : (takeDigits cs).2 <:+ cs := List.dropWhile_suffix _

theorem takeWhole_append (cs : List Char) : (takeWhole cs).1 ++ (takeWhole cs).2 = cs := by
  unfold takeWhole
  split
  · rfl
  · exact takeDigits_append _

theorem all_takeWhole (cs : List Char) : (takeWhole cs).1.all Text.isAsciiDigit = true := by
  unfold takeWhole
  split
  · rfl
  · exact List.all_takeWhile

theorem takeFraction_suffix (cs : List Char) : (takeFraction cs).2 <:+ cs := by
  unfold takeFraction
  split
  · split
    · exact List.suffix_rfl
    · exact (takeDigits_suffix _).trans (List.suffix_cons ..)
  · exact List.suffix_rfl

theorem takeSign_suffix (cs : List Char) : (Numeral.takeSign cs).2 <:+ cs := by
  unfold Numeral.takeSign
  split
  · exact List.suffix_cons ..
  · exact List.suffix_cons ..
  · exact List.suffix_rfl

theorem takeExponent_suffix (cs : List Char) : (takeExponent cs).2 <:+ cs := by
  unfold takeExponent
  split
  · exact List.suffix_rfl
  · rename_i c rest
    dsimp only
    split
    · split
      · exact List.suffix_rfl
      · exact ((takeDigits_suffix _).trans (takeSign_suffix _)).trans (List.suffix_cons ..)
    · exact List.suffix_rfl

theorem isLeaf_str (s : String) : IsLeaf (str s) :=
  ⟨by rw [isWritable], rfl, by rw [depth]⟩

theorem isLeaf_float (x : Binary64) : IsLeaf (float x) :=
  ⟨by rw [isWritable], rfl, by rw [depth]⟩

theorem unsigned_sound (negative : Bool) (cs : List Char) :
    Sound IsLeaf cs (unsigned negative cs) := by
  have hwhole : (takeWhole cs).2 <:+ cs := ⟨_, takeWhole_append cs⟩
  have hrest := (takeExponent_suffix (takeFraction (takeWhole cs).2).2).trans
    ((takeFraction_suffix _).trans hwhole)
  unfold unsigned
  dsimp only
  split
  · exact .malformed
  · split
    · split
      · rename_i hlimit
        exact .huge ⟨hlimit, _, ⟨[], (takeWhole cs).2, takeWhole_append cs⟩, all_takeWhole cs, rfl⟩
      · rename_i hlimit
        refine .read ⟨?_, rfl, by rw [depth]⟩ hrest
        rw [isWritable]
        exact Numeral.isWritable_applySign (Text.valueOfAscii_lt (all_takeWhole cs))
          (Nat.le_of_not_lt hlimit)
    · exact .read (isLeaf_float _) hrest

theorem number_sound (cs : List Char) : Sound IsLeaf cs (number cs) := by
  unfold number
  split
  · exact (unsigned_sound ..).mono (List.suffix_cons ..)
  · exact unsigned_sound ..

theorem findWord?_spec {α : Type} {table : List (String × α)} {cs rest : List Char}
    {entry : String × α} (h : findWord? table cs = some (entry, rest)) :
    entry ∈ table ∧ entry.1.toList ++ rest = cs := by
  obtain ⟨e, he, hmap⟩ := List.exists_of_findSome?_eq_some h
  obtain ⟨rest', hdrop, hpair⟩ := Option.map_eq_some_iff.mp hmap
  cases hpair
  refine ⟨he, ?_⟩
  unfold dropWord? at hdrop
  split at hdrop
  · rename_i hprefix
    cases hdrop
    exact List.prefix_iff_eq_append.mp (List.isPrefixOf_iff_prefix.mp hprefix)
  · cases hdrop

theorem isLeaf_of_mem_words {entry : String × Json} (h : entry ∈ words) : IsLeaf entry.2 := by
  revert entry
  simp [words, IsLeaf, isWritable, hasDistinctKeys, everywhere, depth]

theorem atom_sound (constants : Constants) (cs : List Char) :
    Sound IsLeaf cs (atom constants cs) := by
  unfold atom
  split
  · rename_i h
    obtain ⟨hmem, hcs⟩ := findWord?_spec h
    exact .read (isLeaf_of_mem_words hmem) ⟨_, hcs⟩
  · split
    · rename_i h
      cases constants with
      | allowed => exact .read (isLeaf_float _) ⟨_, (findWord?_spec h).2⟩
      | refused => exact .refused nofun
    · exact number_sound cs

section

variable {constants : Constants} {fuel : Nat}

theorem value_sound_succ
    (hitems : ∀ room cs,
      Sound (fun js => ∀ j ∈ js, IsRead room j) cs (items constants fuel room cs))
    (hfields : ∀ room cs,
      Sound (fun fs => ∀ f ∈ fs, IsRead room f.2) cs (fields constants fuel room cs))
    (room : Nat) (cs : List Char) :
    Sound (IsRead room) cs (value constants (fuel + 1) room cs) := by
  unfold value
  split
  · exact ((string_sound _).map fun s _ => (isLeaf_str s).isRead room).mono (List.suffix_cons ..)
  · have hgap {c : Char} {cs' : List Char} := (skipGap_suffix cs').trans (List.suffix_cons c cs')
    split
    · exact .refused nofun
    · rename_i rest hskip
      exact .read (isRead_arr nofun)
        ((List.suffix_cons ..).trans (hskip ▸ hgap))
    · exact ((hitems _ _).map fun _ h => isRead_arr h).mono hgap
  · have hgap {c : Char} {cs' : List Char} := (skipGap_suffix cs').trans (List.suffix_cons c cs')
    split
    · exact .refused nofun
    · rename_i rest hskip
      exact .read (@isRead_obj _ [] nofun)
        ((List.suffix_cons ..).trans (hskip ▸ hgap))
    · exact ((hfields _ _).map fun _ h => isRead_obj h).mono hgap
  · exact (atom_sound ..).weaken fun _ h => h.isRead room

theorem items_sound_succ
    (hvalue : ∀ room cs, Sound (IsRead room) cs (value constants fuel room cs))
    (hitems : ∀ room cs,
      Sound (fun js => ∀ j ∈ js, IsRead room j) cs (items constants fuel room cs))
    (room : Nat) (cs : List Char) :
    Sound (fun js => ∀ j ∈ js, IsRead room j) cs (items constants (fuel + 1) room cs) := by
  unfold items
  have h := hvalue room cs
  split
  · rename_i hread
    rw [hread] at h
    exact h.error
  · rename_i item rest hread
    rw [hread] at h
    obtain ⟨hitem, hrest⟩ := h
    split
    · rename_i rest' hskip
      have hsuffix : skipGap rest' <:+ cs := (skipGap_suffix _).trans ((List.suffix_cons ..).trans
        (hskip ▸ (skipGap_suffix rest).trans hrest))
      exact ((hitems _ _).map fun js hjs => List.forall_mem_cons.mpr ⟨hitem, hjs⟩).mono hsuffix
    · rename_i rest' hskip
      exact .read (List.forall_mem_singleton.mpr hitem)
        ((List.suffix_cons ..).trans (hskip ▸ (skipGap_suffix rest).trans hrest))
    · exact .malformed

theorem fields_sound_succ
    (hvalue : ∀ room cs, Sound (IsRead room) cs (value constants fuel room cs))
    (hfields : ∀ room cs,
      Sound (fun fs => ∀ f ∈ fs, IsRead room f.2) cs (fields constants fuel room cs))
    (room : Nat) (cs : List Char) :
    Sound (fun fs => ∀ f ∈ fs, IsRead room f.2) cs (fields constants (fuel + 1) room cs) := by
  unfold fields
  split
  · rename_i cs
    have hkey := string_sound cs
    split
    · rename_i hstring
      rw [hstring] at hkey
      exact (hkey.mono (List.suffix_cons ..)).error
    · rename_i key afterKey hstring
      rw [hstring] at hkey
      obtain ⟨-, hafterKey⟩ := hkey
      split
      · rename_i afterColon hcolon
        have hstart : skipGap afterColon <:+ '"' :: cs :=
          (skipGap_suffix _).trans ((List.suffix_cons ..).trans (hcolon ▸
            (skipGap_suffix afterKey).trans (hafterKey.trans (List.suffix_cons ..))))
        have h := hvalue room (skipGap afterColon)
        split
        · rename_i hread
          rw [hread] at h
          exact (h.mono hstart).error
        · rename_i j rest hread
          rw [hread] at h
          obtain ⟨hj, hrest⟩ := h
          have hnext := (skipGap_suffix rest).trans (hrest.trans hstart)
          split
          · rename_i rest' hskip
            have hsuffix :=
              (skipGap_suffix rest').trans ((List.suffix_cons ..).trans (hskip ▸ hnext))
            refine ((hfields _ _).map fun fs hfs => ?_).mono hsuffix
            rw [List.forall_mem_cons]
            exact ⟨hj, hfs⟩
          · rename_i rest' hskip
            exact .read (List.forall_mem_singleton.mpr hj)
              ((List.suffix_cons ..).trans (hskip ▸ hnext))
          · exact .malformed
      · exact .malformed
  · exact .malformed

end

theorem sound (constants : Constants) (fuel : Nat) :
    (∀ room cs, Sound (IsRead room) cs (value constants fuel room cs)) ∧
    (∀ room cs, Sound (fun js => ∀ j ∈ js, IsRead room j) cs (items constants fuel room cs)) ∧
    ∀ room cs, Sound (fun fs => ∀ f ∈ fs, IsRead room f.2) cs (fields constants fuel room cs) := by
  induction fuel with
  | zero => exact ⟨fun _ _ => .malformed, fun _ _ => .malformed, fun _ _ => .malformed⟩
  | succ fuel ih =>
    obtain ⟨hvalue, hitems, hfields⟩ := ih
    exact ⟨value_sound_succ hitems hfields, items_sound_succ hvalue hitems,
      fields_sound_succ hvalue hfields⟩

end Reader

open Reader

theorem isRead_of_read {constants : Constants} {s : String} {j : Json}
    (h : read constants s = .ok j) : IsRead depthLimit j := by
  have hsound := (sound constants (2 * (skipGap s.toList).length + 1)).1 depthLimit
    (skipGap s.toList)
  unfold read at h
  dsimp only at h
  split at h
  · cases h
  · rename_i hvalue
    rw [hvalue] at hsound
    split at h
    · cases h
      cases hsound with
      | read hj => exact hj
    · cases h

theorem isWritable_of_read {constants : Constants} {s : String} {j : Json}
    (h : read constants s = .ok j) : j.isWritable = true := (isRead_of_read h).writable

theorem hasHugeRun_of_read {constants : Constants} {s : String} {n : Nat}
    (h : read constants s = .error (.hugeInteger n)) : HasHugeRun n s.toList := by
  have hsound := (sound constants (2 * (skipGap s.toList).length + 1)).1 depthLimit
    (skipGap s.toList)
  unfold read at h
  dsimp only at h
  split at h
  · rename_i hvalue
    rw [hvalue] at hsound
    cases h
    cases hsound with
    | huge h => exact h.mono (skipGap_suffix _)
    | refused h => exact absurd rfl (h n)
  · split at h <;> cases h

end Json

end RunCharts
