import Mathlib.Data.List.TakeWhile
import RunCharts.Json.Reader
import RunCharts.Proofs.Entries

/-!
# Rules of reading JSON

How the reader takes a text apart that has no blanks between its tokens, one rule for each kind of
value, and how it takes a text of digits.
-/

namespace RunCharts.Json

namespace Reader

def isPlain (c : Char) : Bool := ' ' ≤ c && c < '\x7f' && c != '"' && c != '\\'

/-- Inside a string a character stands for itself unless it is a quote, a backslash or a control
character. -/
theorem stringUnits?_cons_of_unescaped {c : Char} (hcontrol : ' ' ≤ c) (hquote : c ≠ '"')
    (hbackslash : c ≠ '\\') (cs : List Char) :
    stringUnits? (c :: cs) = (stringUnits? cs).map fun r => (c.toNat :: r.1, r.2) := by
  rw [stringUnits?.eq_def]
  split
  · simp_all
  · simp_all
  · simp_all
  · simp_all
  · rename_i heq
    cases heq
    rw [if_neg (by simp [Char.not_lt.mpr hcontrol, hbackslash])]

theorem stringUnits?_cons_of_plain {c : Char} (h : isPlain c = true) (cs : List Char) :
    stringUnits? (c :: cs) = (stringUnits? cs).map fun r => (c.toNat :: r.1, r.2) := by
  simp only [isPlain, Bool.and_eq_true, decide_eq_true_eq, bne_iff_ne, ne_eq] at h
  exact stringUnits?_cons_of_unescaped h.1.1.1 h.1.2 h.2 cs

theorem stringUnits?_of_plain {cs rest : List Char} (h : cs.all isPlain = true) :
    stringUnits? (cs ++ '"' :: rest) = some (cs.map Char.toNat, rest) := by
  induction cs with
  | nil => rfl
  | cons c cs ih =>
    rw [List.all_cons, Bool.and_eq_true] at h
    rw [List.cons_append, stringUnits?_cons_of_plain h.1, ih h.2]
    rfl

theorem joinPairs_of_plain {cs : List Char} (h : cs.all isPlain = true) :
    joinPairs (cs.map Char.toNat) = cs := by
  have hleading (c : Char) (hc : isPlain c = true) : isLeading c.toNat = false := by
    simp only [isPlain, Bool.and_eq_true, decide_eq_true_eq, Char.lt_def, UInt32.lt_iff_toNat_lt]
      at hc
    have hlt : c.toNat < 127 := hc.1.1.2
    unfold isLeading
    rw [decide_eq_false (by omega), Bool.false_and]
  have hcode (c : Char) (hc : isPlain c = true) : Text.ofCode c.toNat = c := by
    rw [Text.ofCode, Text.not_isSurrogate_toNat, if_neg Bool.false_ne_true, Char.ofNat_toNat]
  induction cs with
  | nil => rfl
  | cons c cs ih =>
    rw [List.all_cons, Bool.and_eq_true] at h
    cases cs with
    | nil => simp only [List.map_cons, List.map_nil, joinPairs, hcode c h.1]
    | cons d ds =>
      have hrest := ih h.2
      simp only [List.map_cons] at hrest ⊢
      rw [joinPairs, hleading c h.1, Bool.false_and, if_neg Bool.false_ne_true, hcode c h.1, hrest]

theorem string_of_plain {s : String} {rest : List Char} (h : s.toList.all isPlain = true) :
    string (s.toList ++ '"' :: rest) = .ok (s, rest) := by
  rw [string, stringUnits?_of_plain h]
  simp only [joinPairs_of_plain h, String.ofList_toList]

section

variable {constants : Constants} {fuel room : Nat} {cs rest : List Char} {j : Json}
  {key : String} {fs : List (String × Json)} {js : List Json}

theorem value_string {s : String} (h : s.toList.all isPlain = true) :
    value constants (fuel + 1) room ('"' :: (s.toList ++ '"' :: rest)) = .ok (.str s, rest) := by
  rw [value, string_of_plain h]
  rfl

/-- An array that is not empty is read by its items. -/
theorem value_items {c : Char} {ds : List Char} (h : skipGap cs = c :: ds) (hc : c ≠ ']') :
    value constants (fuel + 1) (room + 1) ('[' :: cs) =
      (items constants fuel room (c :: ds)).map fun r => (.arr r.1, r.2) := by
  unfold value
  simp only [h]
  split
  · contradiction
  · rename_i heq
    cases heq
    exact absurd rfl hc
  · rename_i hroom _
    cases hroom
    rfl

/-- An object that is not empty is read by its fields. -/
theorem value_fields {c : Char} {ds : List Char} (h : skipGap cs = c :: ds) (hc : c ≠ '\x7d') :
    value constants (fuel + 1) (room + 1) ('\x7b' :: cs) =
      (fields constants fuel room (c :: ds)).map fun r => (.obj (upsertAll r.1), r.2) := by
  unfold value
  simp only [h]
  split
  · contradiction
  · rename_i heq
    cases heq
    exact absurd rfl hc
  · rename_i hroom _
    cases hroom
    rfl

theorem value_object (h : fields constants fuel room ('"' :: cs) = .ok (fs, rest))
    (hkeys : (fs.map Prod.fst).Nodup) :
    value constants (fuel + 1) (room + 1) ('{' :: '"' :: cs) = .ok (.obj fs, rest) := by
  rw [value_fields rfl (by decide), h, Except.map, upsertAll_of_nodup hkeys]

/-- What an array starts with when its first item is an object. -/
theorem value_array (h : items constants fuel room ('{' :: cs) = .ok (js, rest)) :
    value constants (fuel + 1) (room + 1) ('[' :: '{' :: cs) = .ok (.arr js, rest) := by
  rw [value_items rfl (by decide), h, Except.map]

def afterItem (constants : Constants) (fuel room : Nat) (item : Json) :
    List Char → Result (List Json)
  | ',' :: rest => (items constants fuel room (skipGap rest)).map fun r => (item :: r.1, r.2)
  | ']' :: rest => .ok ([item], rest)
  | _ => .error .malformed

def afterField (constants : Constants) (fuel room : Nat) (field : String × Json) :
    List Char → Result (List (String × Json))
  | ',' :: rest => (fields constants fuel room (skipGap rest)).map fun r => (field :: r.1, r.2)
  | '\x7d' :: rest => .ok ([field], rest)
  | _ => .error .malformed

def afterColon (constants : Constants) (fuel room : Nat) (key : String) (cs : List Char) :
    Result (List (String × Json)) :=
  match value constants fuel room (skipGap cs) with
  | .error e => .error e
  | .ok (j, rest) => afterField constants fuel room (key, j) (skipGap rest)

theorem items_of_value (h : value constants fuel room cs = .ok (j, rest)) :
    items constants (fuel + 1) room cs = afterItem constants fuel room j (skipGap rest) := by
  rw [items, h]
  rfl

theorem items_of_error {e : ReadError} (h : value constants fuel room cs = .error e) :
    items constants (fuel + 1) room cs = .error e := by
  rw [items, h]

theorem items_last (h : value constants fuel room cs = .ok (j, ']' :: rest)) :
    items constants (fuel + 1) room cs = .ok ([j], rest) := items_of_value h

theorem fields_of_key {afterKey : List Char} (hkey : string cs = .ok (key, afterKey))
    (hcolon : skipGap afterKey = ':' :: rest) :
    fields constants (fuel + 1) room ('"' :: cs) = afterColon constants fuel room key rest := by
  unfold fields
  simp only [hkey, hcolon]
  rfl

theorem afterColon_of_value (h : value constants fuel room (skipGap cs) = .ok (j, rest)) :
    afterColon constants fuel room key cs =
      afterField constants fuel room (key, j) (skipGap rest) := by
  rw [afterColon, h]

theorem afterColon_of_error {e : ReadError}
    (h : value constants fuel room (skipGap cs) = .error e) :
    afterColon constants fuel room key cs = .error e := by
  rw [afterColon, h]

variable {c : Char} {vs : List Char}

theorem fields_plain (hkey : key.toList.all isPlain = true) (hc : isGap c = false)
    (h : value constants fuel room (c :: vs) = .ok (j, rest)) :
    fields constants (fuel + 1) room ('"' :: (key.toList ++ '"' :: ':' :: c :: vs)) =
      afterField constants fuel room (key, j) (skipGap rest) := by
  have hcolon : skipGap (':' :: c :: vs) = ':' :: c :: vs := rfl
  have hvalue : skipGap (c :: vs) = c :: vs := List.dropWhile_cons_of_neg (by simp [hc])
  rw [fields_of_key (string_of_plain hkey) hcolon, afterColon_of_value (hvalue.symm ▸ h)]

theorem fields_last (hkey : key.toList.all isPlain = true) (hc : isGap c = false)
    (h : value constants fuel room (c :: vs) = .ok (j, '}' :: rest)) :
    fields constants (fuel + 1) room ('"' :: (key.toList ++ '"' :: ':' :: c :: vs)) =
      .ok ([(key, j)], rest) := fields_plain hkey hc h

theorem fields_next {more : List Char} (hkey : key.toList.all isPlain = true)
    (hc : isGap c = false) (h : value constants fuel room (c :: vs) = .ok (j, ',' :: '"' :: more))
    (hmore : fields constants fuel room ('"' :: more) = .ok (fs, rest)) :
    fields constants (fuel + 1) room ('"' :: (key.toList ++ '"' :: ':' :: c :: vs)) =
      .ok ((key, j) :: fs, rest) := by
  have hskip : skipGap (',' :: '"' :: more) = ',' :: '"' :: more := rfl
  have hquote : skipGap ('"' :: more) = '"' :: more := rfl
  rw [fields_plain hkey hc h, hskip, afterField, hquote, hmore]
  rfl

end

theorem findWord?_eq_none {α : Type} {table : List (String × α)} {c : Char} {cs : List Char}
    (h : ∀ entry ∈ table, entry.1.toList.head? ≠ some c ∧ entry.1.toList ≠ []) :
    findWord? table (c :: cs) = none := by
  rw [findWord?, List.findSome?_eq_none_iff]
  intro entry hentry
  obtain ⟨hhead, hne⟩ := h entry hentry
  cases hword : entry.1.toList with
  | nil => exact absurd hword hne
  | cons w ws =>
    have hwc : w ≠ c := by
      rintro rfl
      rw [hword] at hhead
      exact hhead rfl
    simp [dropWord?, List.isPrefixOf, hwc]

/-- A text that starts with a digit is taken for a number. -/
theorem value_of_digit {constants : Constants} {fuel room : Nat} {c : Char} {cs : List Char}
    (h : Text.isAsciiDigit c = true) :
    value constants (fuel + 1) room (c :: cs) = unsigned false (c :: cs) := by
  have hne (d : Char) (hd : Text.isAsciiDigit d = false) : d ≠ c := by
    rintro rfl
    rw [h] at hd
    cases hd
  have hwords : findWord? words (c :: cs) = none := by
    apply findWord?_eq_none
    simp [words, hne 'n' (by decide), hne 't' (by decide), hne 'f' (by decide)]
  have hconstants : findWord? constantWords (c :: cs) = none := by
    apply findWord?_eq_none
    simp [constantWords, hne 'N' (by decide), hne 'I' (by decide), hne '-' (by decide)]
  unfold value
  split
  · rename_i heq
    cases heq
    exact absurd rfl (hne '"' (by decide))
  · rename_i heq
    cases heq
    exact absurd rfl (hne '[' (by decide))
  · rename_i heq
    cases heq
    exact absurd rfl (hne '{' (by decide))
  · rw [atom, hwords, hconstants]
    dsimp only
    unfold number
    split
    · rename_i heq
      cases heq
      exact absurd rfl (hne '-' (by decide))
    · rfl

theorem unsigned_of_huge {negative : Bool} {c : Char} {cs : List Char} (hc : c ≠ '0')
    (hdigits : (c :: cs).all Text.isAsciiDigit = true)
    (hlimit : Numeral.digitLimit < (c :: cs).length) :
    unsigned negative (c :: cs) = .error (.hugeInteger (c :: cs).length) := by
  have htake : takeDigits (c :: cs) = (c :: cs, []) := by
    have hall := List.all_eq_true.mp hdigits
    rw [takeDigits, List.takeWhile_eq_self_iff.mpr hall, List.dropWhile_eq_nil_iff.mpr hall]
  have hwhole : takeWhole (c :: cs) = (c :: cs, []) := by
    rw [takeWhole.eq_def]
    split
    · rename_i heq
      cases heq
      exact absurd rfl hc
    · exact htake
  unfold unsigned
  rw [hwhole]
  simp only [takeFraction, takeExponent]
  exact if_pos hlimit

end Reader

open Reader

/-- An integer that stands alone and has more digits than are read. -/
theorem read_of_huge (constants : Constants) {ds : List Char} (hzero : ds.head? ≠ some '0')
    (hdigits : ds.all Text.isAsciiDigit = true) (hlimit : Numeral.digitLimit < ds.length) :
    read constants (String.ofList ds) = .error (.hugeInteger ds.length) := by
  cases ds with
  | nil => cases hlimit
  | cons c cs =>
    have hc : Text.isAsciiDigit c = true := List.all_eq_true.mp hdigits c List.mem_cons_self
    have hgap : skipGap (c :: cs) = c :: cs := by
      apply List.dropWhile_cons_of_neg
      unfold isGap
      simp only [Bool.or_eq_true, beq_iff_eq]
      rintro (((rfl | rfl) | rfl) | rfl) <;> cases hc
    have hne : c ≠ '0' := fun h => hzero (congrArg some h)
    unfold read
    dsimp only
    rw [String.toList_ofList, hgap, value_of_digit hc, unsigned_of_huge hne hdigits hlimit]

end RunCharts.Json
