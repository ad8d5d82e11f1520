import RunCharts.Json.Printer
import RunCharts.Proofs.Decimal.Digits

/-!
# Words for numbers without a value

The words for NaN and the infinities are not JSON. A written tree has one of them outside its
strings if and only if one of its numbers is not finite: no other part of it has their first letters
there.
-/

namespace RunCharts

namespace Json

mutual

def hasFiniteNumbers : Json → Bool
  | float x => x.isFinite
  | arr items => haveFiniteNumbers items
  | obj fields => haveFiniteFields fields
  | null | bool _ | int _ | str _ => true

def haveFiniteNumbers : List Json → Bool
  | [] => true
  | item :: items => hasFiniteNumbers item && haveFiniteNumbers items

def haveFiniteFields : List (String × Json) → Bool
  | [] => true
  | (_, value) :: fields => hasFiniteNumbers value && haveFiniteFields fields

end

theorem haveFiniteFields_eq_all (fields : List (String × Json)) :
    haveFiniteFields fields = fields.all fun f => f.2.hasFiniteNumbers := by
  induction fields with
  | nil => rw [haveFiniteFields, List.all_nil]
  | cons f fields ih =>
    obtain ⟨key, value⟩ := f
    rw [haveFiniteFields, ih, List.all_cons]

theorem haveFiniteNumbers_eq_all (items : List Json) :
    haveFiniteNumbers items = items.all hasFiniteNumbers := by
  induction items with
  | nil => rw [haveFiniteNumbers, List.all_nil]
  | cons item items ih => rw [haveFiniteNumbers, ih, List.all_cons]

mutual

theorem hasFiniteNumbers_sorted (j : Json) : j.sorted.hasFiniteNumbers = j.hasFiniteNumbers := by
  match j with
  | arr items =>
    rw [sorted, hasFiniteNumbers, hasFiniteNumbers]
    exact haveFiniteNumbers_sortedItems items
  | obj fields =>
    have hperm : (sortFields (sortedFields fields)).Perm (sortedFields fields) :=
      List.mergeSort_perm _ _
    rw [sorted, hasFiniteNumbers, hasFiniteNumbers, haveFiniteFields_eq_all, hperm.all_eq,
      ← haveFiniteFields_eq_all]
    exact haveFiniteFields_sortedFields fields
  | null | bool _ | int _ | float _ | str _ => rw [sorted]

theorem haveFiniteNumbers_sortedItems (items : List Json) :
    haveFiniteNumbers (sortedItems items) = haveFiniteNumbers items := by
  match items with
  | [] => rw [sortedItems]
  | item :: items =>
    rw [sortedItems, haveFiniteNumbers, haveFiniteNumbers, hasFiniteNumbers_sorted item,
      haveFiniteNumbers_sortedItems items]

theorem haveFiniteFields_sortedFields (fields : List (String × Json)) :
    haveFiniteFields (sortedFields fields) = haveFiniteFields fields := by
  match fields with
  | [] => rw [sortedFields]
  | (key, value) :: fields =>
    rw [sortedFields, haveFiniteFields, haveFiniteFields, hasFiniteNumbers_sorted value,
      haveFiniteFields_sortedFields fields]

end

/-- A text without what stands between quotes. `inString` says whether a string is open. -/
def outside (inString : Bool) : List Char → List Char
  | [] => []
  | c :: cs =>
    if inString then
      if c = '\\' then
        match cs with
        | [] => []
        | _ :: cs => outside true cs
      else if c = '"' then c :: outside false cs
      else outside true cs
    else c :: outside (c = '"') cs

def noNumberWords : List (List Char) := ["NaN".toList, "Infinity".toList]

def HasNoNumberWord (cs : List Char) : Prop := ∃ word ∈ noNumberWords, word <:+: cs

/-- Whether a text has a word for a number without a value outside its strings. -/
def SaysNoNumber (s : String) : Prop := HasNoNumberWord (outside false s.toList)

def isQuiet (c : Char) : Bool := c != '"' && c != 'N' && c != 'I'

/-- Characters that leave no string open, with a word for a number without a value outside their
strings if and only if they print a number that is not finite. -/
structure Prints (cs : List Char) (finite : Bool) : Prop where
  closed : ∀ rest, outside false (cs ++ rest) = outside false cs ++ outside false rest
  quiet : finite = true → ∀ c ∈ outside false cs, c ≠ 'N' ∧ c ≠ 'I'
  word : finite = false → HasNoNumberWord (outside false cs)

variable {cs ds : List Char} {p q : Bool}

theorem outside_cons_false {c : Char} (h : c ≠ '"') (cs : List Char) :
    outside false (c :: cs) = c :: outside false cs := by
  rw [outside.eq_def]
  simp [h]

theorem outside_append_of_no_quote (h : ∀ c ∈ cs, c ≠ '"') (rest : List Char) :
    outside false (cs ++ rest) = cs ++ outside false rest := by
  induction cs with
  | nil => rfl
  | cons c cs ih =>
    rw [List.cons_append, outside_cons_false (h c List.mem_cons_self),
      ih fun d hd => h d (List.mem_cons_of_mem c hd)]
    rfl

theorem outside_of_no_quote (h : ∀ c ∈ cs, c ≠ '"') : outside false cs = cs := by
  have happend := outside_append_of_no_quote h []
  rwa [List.append_nil, outside, List.append_nil] at happend

theorem HasNoNumberWord.append_left (h : HasNoNumberWord cs) (ds : List Char) :
    HasNoNumberWord (cs ++ ds) := by
  obtain ⟨word, hword, hinfix⟩ := h
  exact ⟨word, hword, List.infix_append_of_infix_left hinfix⟩

theorem HasNoNumberWord.append_right (h : HasNoNumberWord ds) (cs : List Char) :
    HasNoNumberWord (cs ++ ds) := by
  obtain ⟨word, hword, hinfix⟩ := h
  exact ⟨word, hword, List.infix_append_of_infix_right hinfix⟩

theorem prints_of_no_quote (h : '"' ∉ cs)
    (hquiet : p = true → ∀ c ∈ cs, c ≠ 'N' ∧ c ≠ 'I') (hword : p = false → HasNoNumberWord cs) :
    Prints cs p := by
  have hne : ∀ c ∈ cs, c ≠ '"' := by
    rintro c hc rfl
    exact h hc
  refine ⟨?_, ?_, ?_⟩
  · intro rest
    rw [outside_append_of_no_quote hne, outside_of_no_quote hne]
  · rwa [outside_of_no_quote hne]
  · rwa [outside_of_no_quote hne]

theorem forall_isQuiet (h : cs.all isQuiet = true) : ∀ c ∈ cs, isQuiet c = true :=
  List.all_eq_true.mp h

theorem prints_of_quiet (h : ∀ c ∈ cs, isQuiet c = true) : Prints cs true := by
  have hparts : ∀ c ∈ cs, c ≠ '"' ∧ c ≠ 'N' ∧ c ≠ 'I' := by
    intro c hc
    have hc := h c hc
    simp only [isQuiet, Bool.and_eq_true, bne_iff_ne] at hc
    exact ⟨hc.1.1, hc.1.2, hc.2⟩
  apply prints_of_no_quote
  · intro hc
    exact (hparts _ hc).1 rfl
  · intro _ c hc
    exact (hparts c hc).2
  · intro hfalse
    cases hfalse

theorem Prints.append (hcs : Prints cs p) (hds : Prints ds q) : Prints (cs ++ ds) (p && q) := by
  refine ⟨?_, ?_, ?_⟩
  · intro rest
    rw [List.append_assoc, hcs.closed, hds.closed, hcs.closed, List.append_assoc]
  · intro hpq c hc
    rw [Bool.and_eq_true] at hpq
    rw [hcs.closed] at hc
    rcases List.mem_append.mp hc with hc | hc
    · exact hcs.quiet hpq.1 c hc
    · exact hds.quiet hpq.2 c hc
  · intro hpq
    rw [hcs.closed]
    rcases (Bool.and_eq_false_iff).mp hpq with hp | hq
    · exact (hcs.word hp).append_left _
    · exact (hds.word hq).append_right _

theorem Prints.quiet_append (hcs : ∀ c ∈ cs, isQuiet c = true) (hds : Prints ds q) :
    Prints (cs ++ ds) q := by
  have happend := (prints_of_quiet hcs).append hds
  rwa [Bool.true_and] at happend

theorem Prints.append_quiet (hcs : Prints cs p) (hds : ∀ c ∈ ds, isQuiet c = true) :
    Prints (cs ++ ds) p := by
  have happend := hcs.append (prints_of_quiet hds)
  rwa [Bool.and_true] at happend

/-- There is no word where its first letter is not. -/
theorem Prints.hasNoNumberWord_iff (h : Prints cs p) :
    HasNoNumberWord (outside false cs) ↔ p = false := by
  constructor
  · rintro ⟨word, hword, hinside⟩
    rw [← Bool.not_eq_true]
    intro hp
    rcases List.mem_cons.mp hword with rfl | hword
    · exact (h.quiet hp 'N' (hinside.subset (by decide))).1 rfl
    · rw [List.mem_singleton.mp hword] at hinside
      exact (h.quiet hp 'I' (hinside.subset (by decide))).2 rfl
  · exact h.word

/-! ### Strings -/

theorem outside_cons_true {c : Char} (h : c ≠ '"') (h' : c ≠ '\\') (cs : List Char) :
    outside true (c :: cs) = outside true cs := by
  rw [outside.eq_def]
  simp [h, h']

theorem outside_escape (c : Char) (cs : List Char) :
    outside true ('\\' :: c :: cs) = outside true cs := by
  rw [outside.eq_def]
  simp

def isPlainInString (c : Char) : Bool := c != '"' && c != '\\'

theorem outside_plain_append (h : ∀ c ∈ cs, isPlainInString c = true) (rest : List Char) :
    outside true (cs ++ rest) = outside true rest := by
  induction cs with
  | nil => rfl
  | cons c cs ih =>
    have hc := h c List.mem_cons_self
    rw [isPlainInString, Bool.and_eq_true, bne_iff_ne, bne_iff_ne] at hc
    rw [List.cons_append, outside_cons_true hc.1 hc.2,
      ih fun d hd => h d (List.mem_cons_of_mem c hd)]

theorem isPlainInString_digitChar {d : Nat} (h : d < 16) :
    isPlainInString (Nat.digitChar d) = true := by
  have hall : ∀ d : Fin 16, isPlainInString (Nat.digitChar d) = true := by decide
  exact hall ⟨d, h⟩

theorem isPlainInString_of_mem_hexDigits {width n : Nat} {c : Char}
    (h : c ∈ Text.hexDigits width n) : isPlainInString c = true := by
  induction width generalizing n with
  | zero => cases h
  | succ w ih =>
    rw [Text.hexDigits] at h
    rcases List.mem_append.mp h with h | h
    · exact ih h
    · rw [List.mem_singleton.mp h]
      exact isPlainInString_digitChar (Nat.mod_lt _ (by decide))

theorem outside_unitEscape (n : Nat) (rest : List Char) :
    outside true (unitEscape n ++ rest) = outside true rest := by
  rw [unitEscape, List.cons_append, List.cons_append, outside_escape]
  exact outside_plain_append (fun c hc => isPlainInString_of_mem_hexDigits hc) rest

/-- An escaped character neither ends the string nor is seen outside. -/
theorem outside_charEscape (c : Char) (rest : List Char) :
    outside true (charEscape c ++ rest) = outside true rest := by
  unfold charEscape
  split
  · exact outside_escape c rest
  · rename_i hspecial
    rw [Bool.or_eq_true, beq_iff_eq, beq_iff_eq, not_or] at hspecial
    split
    · exact outside_cons_true hspecial.1 hspecial.2 rest
    · iterate 5
        split
        · exact outside_escape _ rest
      dsimp only
      split
      · exact outside_unitEscape _ rest
      · rw [List.append_assoc, outside_unitEscape, outside_unitEscape]

theorem outside_escapes (cs rest : List Char) :
    outside true (cs.flatMap charEscape ++ rest) = outside true rest := by
  induction cs with
  | nil => rfl
  | cons c cs ih => rw [List.flatMap_cons, List.append_assoc, outside_charEscape, ih]

theorem outside_quote (inString : Bool) (cs : List Char) :
    outside inString ('"' :: cs) = '"' :: outside (!inString) cs := by
  rw [outside.eq_def]
  cases inString <;> rfl

/-- Nothing of a string is outside but its quotes. -/
theorem outside_stringChars (s : String) (rest : List Char) :
    outside false (stringChars s ++ rest) = '"' :: '"' :: outside false rest := by
  rw [stringChars, List.cons_append, List.cons_append, outside_quote, List.append_assoc,
    Bool.not_false, outside_escapes, List.singleton_append, outside_quote, Bool.not_true]

theorem prints_stringChars (s : String) : Prints (stringChars s) true := by
  have hquotes : outside false (stringChars s) = ['"', '"'] := by
    have happend := outside_stringChars s []
    rwa [List.append_nil] at happend
  refine ⟨?_, ?_, ?_⟩
  · intro rest
    rw [outside_stringChars, hquotes]
    rfl
  · intro _ c hc
    rw [hquotes] at hc
    rcases List.mem_cons.mp hc with rfl | hc
    · decide
    · rw [List.mem_singleton.mp hc]
      decide
  · intro hfalse
    cases hfalse

/-! ### Numerals -/

theorem forall_isQuiet_cons {c : Char} (hc : isQuiet c = true) (h : ∀ d ∈ cs, isQuiet d = true) :
    ∀ d ∈ c :: cs, isQuiet d = true := List.forall_mem_cons.mpr ⟨hc, h⟩

theorem forall_isQuiet_append (h : ∀ c ∈ cs, isQuiet c = true) (h' : ∀ c ∈ ds, isQuiet c = true) :
    ∀ c ∈ cs ++ ds, isQuiet c = true := List.forall_mem_append.mpr ⟨h, h'⟩

theorem isQuiet_of_isNumeralChar {c : Char} (h : NumberStyle.isNumeralChar c = true) :
    isQuiet c = true := by
  rw [isQuiet, Bool.and_eq_true, Bool.and_eq_true, bne_iff_ne, bne_iff_ne, bne_iff_ne]
  refine ⟨⟨?_, ?_⟩, ?_⟩
  all_goals
    rintro rfl
    exact absurd h (by decide)

theorem prints_numeral (h : ∀ c ∈ cs, NumberStyle.isNumeralChar c = true) : Prints cs true :=
  prints_of_quiet fun c hc => isQuiet_of_isNumeralChar (h c hc)

theorem prints_intChars (n : Int) : Prints (intChars n) true :=
  prints_numeral (NumberStyle.isNumeralChar_signed
    (fun _ => NumberStyle.isNumeralChar_of_mem_digits) _)

/-- A number is written as a numeral if it is finite, and as a word if it is not. -/
theorem prints_numberChars (x : Binary64) : Prints (numberStyle.chars x) x.isFinite := by
  cases x with
  | finite s u h =>
    exact prints_numeral (NumberStyle.isNumeralChar_signed
      (NumberStyle.isNumeralChar_magnitude _ _) s)
  | infinite s =>
    apply prints_of_no_quote
    · cases s <;> decide
    · intro hfinite
      cases hfinite
    · intro _
      refine ⟨"Infinity".toList, by decide, ?_⟩
      cases s
      · exact List.infix_rfl
      · exact ⟨['-'], [], rfl⟩
  | nan =>
    apply prints_of_no_quote
    · decide
    · intro hfinite
      cases hfinite
    · intro _
      exact ⟨"NaN".toList, by decide, List.infix_rfl⟩

/-! ### Trees -/

def IsQuietLayout (layout : Layout) : Prop :=
  (∀ c ∈ layout.comma, isQuiet c = true) ∧ ∀ c ∈ layout.colon, isQuiet c = true

theorem isQuietLayout_indented (width : Nat) : IsQuietLayout (.indented width) := by
  unfold Layout.indented
  split
  · exact ⟨forall_isQuiet rfl, forall_isQuiet rfl⟩
  · exact ⟨forall_isQuiet rfl, forall_isQuiet rfl⟩

theorem isQuiet_lineBreak (layout : Layout) (level : Nat) :
    ∀ c ∈ layout.lineBreak level, isQuiet c = true := by
  unfold Layout.lineBreak
  split
  · nofun
  · apply forall_isQuiet_cons (by decide)
    intro c hc
    rw [(List.mem_replicate.mp hc).2]
    decide

section

variable {layout : Layout}

mutual

/-- What is written of a tree has a word for each number that is not finite, and no other. -/
theorem prints_chars (hlayout : IsQuietLayout layout) (level : Nat) (j : Json) :
    Prints (chars layout level j) j.hasFiniteNumbers := by
  match j with
  | null =>
    rw [chars, hasFiniteNumbers]
    exact prints_of_quiet (forall_isQuiet (by decide))
  | bool true =>
    rw [chars, hasFiniteNumbers]
    exact prints_of_quiet (forall_isQuiet (by decide))
  | bool false =>
    rw [chars, hasFiniteNumbers]
    exact prints_of_quiet (forall_isQuiet (by decide))
  | int n =>
    rw [chars, hasFiniteNumbers]
    exact prints_intChars n
  | float x =>
    rw [chars, hasFiniteNumbers]
    exact prints_numberChars x
  | str s =>
    rw [chars, hasFiniteNumbers]
    exact prints_stringChars s
  | arr [] =>
    rw [chars, hasFiniteNumbers, haveFiniteNumbers]
    exact prints_of_quiet (forall_isQuiet (by decide))
  | arr (item :: items) =>
    rw [chars, hasFiniteNumbers, haveFiniteNumbers]
    have hopen := forall_isQuiet_cons (c := '[') (by decide) (isQuiet_lineBreak layout (level + 1))
    have hfirst := Prints.quiet_append hopen (prints_chars hlayout (level + 1) item)
    have hitems := hfirst.append (prints_itemChars hlayout (level + 1) items)
    have hend := hitems.append_quiet (isQuiet_lineBreak layout level)
    exact hend.append_quiet (forall_isQuiet (by decide))
  | obj [] =>
    rw [chars, hasFiniteNumbers, haveFiniteFields]
    exact prints_of_quiet (forall_isQuiet (by decide))
  | obj ((key, value) :: fields) =>
    rw [chars, hasFiniteNumbers, haveFiniteFields]
    have hopen := forall_isQuiet_cons (c := '\x7b') (by decide)
      (isQuiet_lineBreak layout (level + 1))
    have hfirst := Prints.quiet_append hopen (prints_fieldChars hlayout (level + 1) key value)
    have hfields := hfirst.append (prints_fieldsChars hlayout (level + 1) fields)
    have hend := hfields.append_quiet (isQuiet_lineBreak layout level)
    exact hend.append_quiet (forall_isQuiet (by decide))

theorem prints_itemChars (hlayout : IsQuietLayout layout) (level : Nat) (items : List Json) :
    Prints (itemChars layout level items) (haveFiniteNumbers items) := by
  match items with
  | [] =>
    rw [itemChars, haveFiniteNumbers]
    exact prints_of_quiet nofun
  | item :: items =>
    rw [itemChars, haveFiniteNumbers]
    have hcomma := forall_isQuiet_append hlayout.1 (isQuiet_lineBreak layout level)
    exact (Prints.quiet_append hcomma (prints_chars hlayout level item)).append
      (prints_itemChars hlayout level items)

theorem prints_fieldChars (hlayout : IsQuietLayout layout) (level : Nat) (key : String)
    (value : Json) :
    Prints (fieldChars layout level (key, value)) value.hasFiniteNumbers := by
  rw [fieldChars]
  exact ((prints_stringChars key).append_quiet hlayout.2).append (prints_chars hlayout level value)

theorem prints_fieldsChars (hlayout : IsQuietLayout layout) (level : Nat)
    (fields : List (String × Json)) :
    Prints (fieldsChars layout level fields) (haveFiniteFields fields) := by
  match fields with
  | [] =>
    rw [fieldsChars, haveFiniteFields]
    exact prints_of_quiet nofun
  | (key, value) :: fields =>
    rw [fieldsChars, haveFiniteFields]
    have hcomma := forall_isQuiet_append hlayout.1 (isQuiet_lineBreak layout level)
    exact (Prints.quiet_append hcomma (prints_fieldChars hlayout level key value)).append
      (prints_fieldsChars hlayout level fields)

end

theorem saysNoNumber_text_iff (hlayout : IsQuietLayout layout) (j : Json) :
    SaysNoNumber (j.text layout) ↔ j.hasFiniteNumbers = false := by
  rw [SaysNoNumber, text, String.toList_ofList]
  exact (prints_chars hlayout 0 j).hasNoNumberWord_iff

end

/-- The text of a report file has a word for a number without a value if and only if a number of the
tree is not finite. -/
theorem saysNoNumber_report_iff (width : Nat) (j : Json) :
    SaysNoNumber (j.report width) ↔ j.hasFiniteNumbers = false := by
  rw [report, saysNoNumber_text_iff (isQuietLayout_indented width), hasFiniteNumbers_sorted]

end Json

end RunCharts
