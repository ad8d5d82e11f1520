import RunCharts.Proofs.Json.Numerals
import RunCharts.Proofs.Json.Strings
import RunCharts.Proofs.Json.Trees

/-!
# Reading written trees

A written tree is read as the tree, joined. The layout does not matter as long as its separators
are a comma and a colon with blanks after them. Where words for numbers without a value are refused,
the first of them is what the reading ends with.

`ReadsBack` is the property of one tree; it passes from the items to the array and from the values
to the object.
-/

namespace RunCharts.Json

open Reader

def refusedName? : Constants → List String → Option String
  | .allowed, _ => none
  | .refused, names => names.head?

/-- What comes of reading something written with words for numbers without a value in it. -/
def readBack {α : Type} (constants : Constants) (names : List String) (a : α) (rest : List Char) :
    Result α :=
  match refusedName? constants names with
  | some name => .error (.constant name)
  | none => .ok (a, rest)

/-- Separators that are a comma and a colon, with blanks after them. -/
structure IsReadable (layout : Layout) : Prop where
  comma : ∃ gap, layout.comma = ',' :: gap ∧ ∀ c ∈ gap, isGap c = true
  colon : ∃ gap, layout.colon = ':' :: gap ∧ ∀ c ∈ gap, isGap c = true

theorem isReadable_compact : IsReadable .compact :=
  ⟨⟨[], rfl, List.forall_mem_nil _⟩, ⟨[], rfl, List.forall_mem_nil _⟩⟩

theorem isReadable_spaced : IsReadable .spaced :=
  ⟨⟨[' '], rfl, List.all_eq_true.mp rfl⟩, ⟨[' '], rfl, List.all_eq_true.mp rfl⟩⟩

theorem isReadable_indented (width : Nat) : IsReadable (.indented width) := by
  unfold Layout.indented
  split
  · exact isReadable_spaced
  · exact ⟨⟨[], rfl, List.forall_mem_nil _⟩, ⟨[' '], rfl, List.all_eq_true.mp rfl⟩⟩

/-- Whatever follows it, a written tree is read as the tree, joined. -/
def ReadsBack (layout : Layout) (j : Json) : Prop :=
  ∀ (constants : Constants) (fuel room level : Nat) (rest : List Char), j.depth ≤ room →
    AtBoundary rest → 2 * (chars layout level j).length < fuel →
    value constants fuel room (chars layout level j ++ rest) =
      readBack constants j.constantNames j.joined rest

section

variable {α β : Type} {constants : Constants} {names names' : List String} {a : α} {j : Json}
  {gap cs tail more rest : List Char} {fuel room : Nat} {layout : Layout}

theorem readBack_of_name {name : String} (h : refusedName? constants names = some name) :
    readBack constants names a rest = .error (.constant name) := by
  rw [readBack, h]

theorem readBack_of_none (h : refusedName? constants names = none) :
    readBack constants names a rest = .ok (a, rest) := by
  rw [readBack, h]

theorem readBack_map (f : α → β) : (readBack constants names a rest).map (fun r => (f r.1, r.2)) =
    readBack constants names (f a) rest := by
  unfold readBack
  cases refusedName? constants names <;> rfl

theorem refusedName?_append (constants : Constants) (names names' : List String) :
    refusedName? constants (names ++ names') =
      (refusedName? constants names).or (refusedName? constants names') := by
  cases constants with
  | allowed => rfl
  | refused => exact List.head?_append

/-! ### Blanks -/

theorem skipGap_append (h : ∀ c ∈ gap, isGap c = true) (cs : List Char) :
    skipGap (gap ++ cs) = skipGap cs := List.dropWhile_append_of_pos h

theorem skipGap_cons {c : Char} (h : isGap c = false) (cs : List Char) :
    skipGap (c :: cs) = c :: cs := List.dropWhile_cons_of_neg (by simp [h])

theorem isGap_lineBreak (layout : Layout) (level : Nat) :
    ∀ c ∈ layout.lineBreak level, isGap c = true := by
  unfold Layout.lineBreak
  split
  · exact List.forall_mem_nil _
  · rw [List.forall_mem_cons]
    refine ⟨rfl, ?_⟩
    intro c hc
    rw [(List.mem_replicate.mp hc).2]
    rfl

theorem atBoundary_append (h : ∀ c ∈ gap, isGap c = true) (hcs : AtBoundary cs) :
    AtBoundary (gap ++ cs) := by
  cases gap with
  | nil => exact hcs
  | cons c gap =>
    apply atBoundary_cons
    rw [isBoundary, h c List.mem_cons_self, Bool.or_true]

/-- No value starts with a blank or with a closing bracket. -/
theorem exists_cons_of_value (h : value constants fuel room cs ≠ .error .malformed) :
    ∃ c cs', cs = c :: cs' ∧ isGap c = false ∧ c ≠ ']' := by
  have hmalformed : ∀ c cs', isGap c = true ∨ c = ']' →
      value constants fuel room (c :: cs') = .error .malformed := by
    intro c cs' hc
    simp only [isGap, Bool.or_eq_true, beq_iff_eq] at hc
    cases fuel with
    | zero => rfl
    | succ fuel => rcases hc with (((rfl | rfl) | rfl) | rfl) | rfl <;> rfl
  cases cs with
  | nil => cases fuel <;> exact absurd rfl h
  | cons c cs =>
    refine ⟨c, cs, rfl, ?_, ?_⟩
    · rw [← Bool.not_eq_true]
      exact fun hc => h (hmalformed c cs (.inl hc))
    · exact fun hc => h (hmalformed c cs (.inr hc))

theorem readBack_ne_malformed : readBack constants names a rest ≠ .error .malformed := by
  unfold readBack
  cases refusedName? constants names <;> nofun

/-! ### Values without parts -/

theorem value_stringChars (constants : Constants) (fuel room : Nat) (s : String)
    (rest : List Char) : value constants (fuel + 1) room (stringChars s ++ rest) =
      .ok (.str (Text.joined s), rest) := by
  have happend : stringChars s ++ rest = '"' :: (s.toList.flatMap charEscape ++ '"' :: rest) := by
    simp [stringChars]
  rw [happend, value, string_stringChars]
  rfl

/-- A word for a number without a value is read as the number, or refused. -/
theorem value_constant (constants : Constants) (fuel room : Nat) {x : Binary64}
    (hx : x.isFinite = false) (rest : List Char) :
    value constants (fuel + 1) room (numberStyle.chars x ++ rest) =
      readBack constants [numberStyle.text x] (.float x) rest := by
  cases x with
  | finite s u h => cases hx
  | infinite s => cases s <;> cases constants <;> rfl
  | nan => cases constants <;> rfl

/-! ### Items and fields -/

theorem readBack_append_of_name {name : String} (h : refusedName? constants names = some name) :
    readBack constants (names ++ names') a rest = .error (.constant name) := by
  rw [readBack_of_name]
  rw [refusedName?_append, h, Option.some_or]

theorem readBack_append_of_none (h : refusedName? constants names = none) :
    readBack constants (names ++ names') a rest = readBack constants names' a rest := by
  rw [readBack, refusedName?_append, h, Option.none_or]
  rfl

theorem ReadsBack.exists_cons (h : ReadsBack layout j) (level : Nat) :
    ∃ c cs, chars layout level j = c :: cs ∧ isGap c = false ∧ c ≠ ']' := by
  have hread := h .allowed _ _ level [] (Nat.le_refl _) atBoundary_nil (Nat.lt_succ_self _)
  rw [List.append_nil] at hread
  exact exists_cons_of_value (hread ▸ readBack_ne_malformed)

/-- No blanks stand in front of a written tree. -/
theorem ReadsBack.skipGap (h : ReadsBack layout j) (level : Nat) (rest : List Char) :
    Reader.skipGap (chars layout level j ++ rest) = chars layout level j ++ rest := by
  obtain ⟨c, cs, hcs, hc, -⟩ := h.exists_cons level
  rw [hcs, List.cons_append, skipGap_cons hc]

theorem items_of_last (h : value constants fuel room cs = readBack constants names j tail)
    (htail : skipGap tail = ']' :: rest) :
    Reader.items constants (fuel + 1) room cs = readBack constants names [j] rest := by
  rw [items, h]
  unfold readBack
  cases refusedName? constants names with
  | some name => rfl
  | none => simp only [htail]

theorem items_of_next {js : List Json}
    (h : value constants fuel room cs = readBack constants names j tail)
    (htail : skipGap tail = ',' :: more)
    (hmore : items constants fuel room (skipGap more) = readBack constants names' js rest) :
    Reader.items constants (fuel + 1) room cs =
      readBack constants (names ++ names') (j :: js) rest := by
  rw [items, h]
  cases hname : refusedName? constants names with
  | some name => rw [readBack_of_name hname, readBack_append_of_name hname]
  | none =>
    rw [readBack_of_none hname, readBack_append_of_none hname]
    simp only [htail, hmore]
    exact readBack_map _

/-! ### Arrays -/

theorem atBoundary_itemChars (hlayout : IsReadable layout) (level : Nat) (items : List Json)
    (hgap : ∀ c ∈ gap, isGap c = true) (rest : List Char) :
    AtBoundary (itemChars layout level items ++ (gap ++ ']' :: rest)) := by
  cases items with
  | nil =>
    rw [itemChars, List.nil_append]
    exact atBoundary_append hgap (atBoundary_cons rfl)
  | cons item items =>
    obtain ⟨commaGap, hcomma, -⟩ := hlayout.comma
    rw [itemChars, hcomma]
    exact atBoundary_cons rfl

/-- What is written between the brackets of an array is read as the items. -/
theorem items_chars (constants : Constants) (rest : List Char) (hlayout : IsReadable layout)
    {items : List Json}
    (hitems : ∀ j ∈ items, ReadsBack layout j) {item : Json} (hitem : ReadsBack layout item)
    (level : Nat) (hdepth : depthOfItems (item :: items) ≤ room)
    (hgap : ∀ c ∈ gap, isGap c = true)
    (hfuel : 2 * (chars layout level item ++ itemChars layout level items).length + 1 < fuel) :
    Reader.items constants fuel room
        (chars layout level item ++ (itemChars layout level items ++ (gap ++ ']' :: rest))) =
      readBack constants (constantNamesOfItems (item :: items)) (joinedItems (item :: items))
        rest := by
  rw [constantNamesOfItems, joinedItems]
  induction items generalizing item fuel with
  | nil =>
    rw [depthOfItems, Nat.max_le] at hdepth
    rw [List.length_append] at hfuel
    obtain ⟨fuel, rfl⟩ : ∃ n, fuel = n + 1 := ⟨fuel - 1, by omega⟩
    have hread := hitem constants fuel room level _ hdepth.1
      (atBoundary_itemChars hlayout level [] hgap rest) (by omega)
    rw [constantNamesOfItems, List.append_nil, joinedItems]
    exact items_of_last hread ((skipGap_append hgap _).trans (skipGap_cons rfl rest))
  | cons next items ih =>
    obtain ⟨commaGap, hcomma, hcommaGap⟩ := hlayout.comma
    rw [List.forall_mem_cons] at hitems
    rw [depthOfItems, Nat.max_le] at hdepth
    have htext : ∀ cs, itemChars layout level (next :: items) ++ cs =
        ',' :: ((commaGap ++ layout.lineBreak level) ++ (chars layout level next ++
          (itemChars layout level items ++ cs))) := by
      simp [itemChars, hcomma]
    have hlength := congrArg List.length (htext [])
    simp only [List.length_append, List.length_cons, List.length_nil] at hfuel hlength
    obtain ⟨fuel, rfl⟩ : ∃ n, fuel = n + 1 := ⟨fuel - 1, by omega⟩
    have hread := hitem constants fuel room level _ hdepth.1
      (atBoundary_itemChars hlayout level (next :: items) hgap rest) (by omega)
    have hshorter : 2 * (chars layout level next ++ itemChars layout level items).length + 1 <
        fuel := by
      rw [List.length_append]
      omega
    have hmore := ih hitems.2 hitems.1 hdepth.2 hshorter
    rw [constantNamesOfItems, joinedItems]
    refine items_of_next hread ((congrArg Reader.skipGap (htext _)).trans (skipGap_cons rfl _)) ?_
    rwa [skipGap_append (List.forall_mem_append.mpr ⟨hcommaGap, isGap_lineBreak _ _⟩),
      hitems.1.skipGap]

/-! ### Objects -/

theorem fields_stringChars (constants : Constants) (fuel room : Nat) (key : String)
    (cs : List Char) : Reader.fields constants (fuel + 1) room (stringChars key ++ ':' :: cs) =
      afterColon constants fuel room (Text.joined key) cs := by
  have hkey : stringChars key ++ ':' :: cs =
      '"' :: (key.toList.flatMap charEscape ++ '"' :: ':' :: cs) := by
    simp [stringChars]
  rw [hkey, fields_of_key (string_stringChars key _) (skipGap_cons rfl _)]

theorem fields_of_last {key : String} (hgap : ∀ c ∈ gap, isGap c = true)
    (hcs : skipGap cs = cs)
    (h : value constants fuel room cs = readBack constants names j tail)
    (htail : skipGap tail = '\x7d' :: rest) :
    Reader.fields constants (fuel + 1) room (stringChars key ++ ':' :: (gap ++ cs)) =
      readBack constants names [(Text.joined key, j)] rest := by
  rw [fields_stringChars, afterColon, skipGap_append hgap, hcs, h]
  unfold readBack
  cases refusedName? constants names with
  | some name => rfl
  | none =>
    dsimp only
    rw [htail]
    rfl

theorem fields_of_next {key : String} {fs : List (String × Json)}
    (hgap : ∀ c ∈ gap, isGap c = true) (hcs : skipGap cs = cs)
    (h : value constants fuel room cs = readBack constants names j tail)
    (htail : skipGap tail = ',' :: more)
    (hmore : fields constants fuel room (skipGap more) = readBack constants names' fs rest) :
    Reader.fields constants (fuel + 1) room (stringChars key ++ ':' :: (gap ++ cs)) =
      readBack constants (names ++ names') ((Text.joined key, j) :: fs) rest := by
  rw [fields_stringChars, afterColon, skipGap_append hgap, hcs, h]
  cases hname : refusedName? constants names with
  | some name => rw [readBack_of_name hname, readBack_append_of_name hname]
  | none =>
    rw [readBack_of_none hname, readBack_append_of_none hname]
    dsimp only
    rw [htail, afterField, hmore]
    exact readBack_map _

theorem atBoundary_fieldsChars (hlayout : IsReadable layout) (level : Nat)
    (fields : List (String × Json)) (hgap : ∀ c ∈ gap, isGap c = true) (rest : List Char) :
    AtBoundary (fieldsChars layout level fields ++ (gap ++ '\x7d' :: rest)) := by
  cases fields with
  | nil =>
    rw [fieldsChars, List.nil_append]
    exact atBoundary_append hgap (atBoundary_cons rfl)
  | cons f fields =>
    obtain ⟨commaGap, hcomma, -⟩ := hlayout.comma
    rw [fieldsChars, hcomma]
    exact atBoundary_cons rfl

theorem length_chars_lt (layout : Layout) (level : Nat) (f : String × Json) :
    (chars layout level f.2).length < (fieldChars layout level f).length := by
  obtain ⟨key, j⟩ := f
  simp only [fieldChars, stringChars, List.length_append, List.length_cons]
  omega

theorem exists_fieldChars_eq (layout : Layout) (level : Nat) (f : String × Json) :
    ∃ cs, fieldChars layout level f = '"' :: cs := by
  obtain ⟨key, j⟩ := f
  exact ⟨_, rfl⟩

/-- What is written between the brackets of an object is read as the fields. -/
theorem fields_chars (constants : Constants) (rest : List Char) (hlayout : IsReadable layout)
    {fields : List (String × Json)}
    (hfields : ∀ f ∈ fields, ReadsBack layout f.2) {f : String × Json}
    (hf : ReadsBack layout f.2) (level : Nat) (hdepth : depthOfFields (f :: fields) ≤ room)
    (hgap : ∀ c ∈ gap, isGap c = true)
    (hfuel : 2 * (fieldChars layout level f ++ fieldsChars layout level fields).length + 1 <
      fuel) :
    Reader.fields constants fuel room (fieldChars layout level f ++
        (fieldsChars layout level fields ++ (gap ++ '\x7d' :: rest))) =
      readBack constants (constantNamesOfFields (f :: fields)) (joinedFields (f :: fields))
        rest := by
  obtain ⟨colonGap, hcolon, hcolonGap⟩ := hlayout.colon
  have htext : ∀ (f : String × Json) cs, fieldChars layout level f ++ cs =
      stringChars f.1 ++ ':' :: (colonGap ++ (chars layout level f.2 ++ cs)) := by
    simp [fieldChars, hcolon]
  induction fields generalizing f fuel with
  | nil =>
    have hlength := length_chars_lt layout level f
    rw [depthOfFields, Nat.max_le] at hdepth
    rw [List.length_append] at hfuel
    obtain ⟨fuel, rfl⟩ : ∃ n, fuel = n + 1 := ⟨fuel - 1, by omega⟩
    have hread := hf constants fuel room level _ hdepth.1
      (atBoundary_fieldsChars hlayout level [] hgap rest) (by omega)
    rw [constantNamesOfFields, constantNamesOfFields, List.append_nil, joinedFields, joinedFields,
      htext]
    exact fields_of_last hcolonGap (hf.skipGap level _) hread
      ((skipGap_append hgap _).trans (skipGap_cons rfl rest))
  | cons next fields ih =>
    obtain ⟨commaGap, hcomma, hcommaGap⟩ := hlayout.comma
    have hlength := length_chars_lt layout level f
    rw [List.forall_mem_cons] at hfields
    rw [depthOfFields, Nat.max_le] at hdepth
    have hnext : ∀ cs, fieldsChars layout level (next :: fields) ++ cs =
        ',' :: ((commaGap ++ layout.lineBreak level) ++ (fieldChars layout level next ++
          (fieldsChars layout level fields ++ cs))) := by
      simp [fieldsChars, hcomma]
    have hskip : ∀ cs, skipGap (fieldChars layout level next ++ cs) =
        fieldChars layout level next ++ cs := by
      obtain ⟨ds, hds⟩ := exists_fieldChars_eq layout level next
      rw [hds]
      exact fun cs => skipGap_cons rfl _
    have hlength' := congrArg List.length (hnext [])
    simp only [List.length_append, List.length_cons, List.length_nil] at hfuel hlength'
    obtain ⟨fuel, rfl⟩ : ∃ n, fuel = n + 1 := ⟨fuel - 1, by omega⟩
    have hread := hf constants fuel room level _ hdepth.1
      (atBoundary_fieldsChars hlayout level (next :: fields) hgap rest) (by omega)
    have hshorter : 2 * (fieldChars layout level next ++ fieldsChars layout level fields).length +
        1 < fuel := by
      rw [List.length_append]
      omega
    have hmore := ih hfields.2 hfields.1 hdepth.2 hshorter
    rw [constantNamesOfFields, joinedFields, htext]
    refine fields_of_next hcolonGap (hf.skipGap level _) hread
      ((congrArg Reader.skipGap (hnext _)).trans (skipGap_cons rfl _)) ?_
    rwa [skipGap_append (List.forall_mem_append.mpr ⟨hcommaGap, isGap_lineBreak _ _⟩), hskip]

/-! ### Trees -/

theorem readsBack_arr (hlayout : IsReadable layout) {items : List Json}
    (h : ∀ j ∈ items, ReadsBack layout j) : ReadsBack layout (arr items) := by
  intro constants fuel room level rest hdepth hrest hfuel
  rw [depth] at hdepth
  obtain ⟨room, rfl⟩ : ∃ n, room = n + 1 := ⟨room - 1, by omega⟩
  obtain ⟨fuel, rfl⟩ : ∃ n, fuel = n + 1 := ⟨fuel - 1, by omega⟩
  rw [constantNames, joined]
  cases items with
  | nil =>
    rw [chars, constantNamesOfItems, joinedItems]
    cases constants <;> rfl
  | cons item items =>
    rw [List.forall_mem_cons] at h
    have htext : ∀ cs, chars layout level (arr (item :: items)) ++ cs =
        '[' :: (layout.lineBreak (level + 1) ++ (chars layout (level + 1) item ++
          (itemChars layout (level + 1) items ++ (layout.lineBreak level ++ ']' :: cs)))) := by
      simp [chars]
    have hlength := congrArg List.length (htext [])
    simp only [List.length_append, List.length_cons, List.length_nil] at hlength
    have hfuel' : 2 * (chars layout (level + 1) item ++
        itemChars layout (level + 1) items).length + 1 < fuel := by
      rw [List.length_append]
      omega
    have hread := items_chars constants rest hlayout h.2 h.1 (level + 1)
      (Nat.le_of_succ_le_succ hdepth) (isGap_lineBreak layout level) hfuel'
    obtain ⟨c, cs, hcs, hgap, hc⟩ := h.1.exists_cons (level + 1)
    rw [hcs, List.cons_append] at hread
    rw [htext, hcs, List.cons_append,
      value_items ((skipGap_append (isGap_lineBreak _ _) _).trans (skipGap_cons hgap _)) hc, hread]
    exact readBack_map arr

theorem readsBack_obj (hlayout : IsReadable layout) {fields : List (String × Json)}
    (h : ∀ f ∈ fields, ReadsBack layout f.2) : ReadsBack layout (obj fields) := by
  intro constants fuel room level rest hdepth hrest hfuel
  rw [depth] at hdepth
  obtain ⟨room, rfl⟩ : ∃ n, room = n + 1 := ⟨room - 1, by omega⟩
  obtain ⟨fuel, rfl⟩ : ∃ n, fuel = n + 1 := ⟨fuel - 1, by omega⟩
  rw [constantNames, joined]
  cases fields with
  | nil =>
    rw [chars, constantNamesOfFields, joinedFields]
    cases constants <;> rfl
  | cons f fields =>
    rw [List.forall_mem_cons] at h
    have htext : ∀ cs, chars layout level (obj (f :: fields)) ++ cs =
        '\x7b' :: (layout.lineBreak (level + 1) ++ (fieldChars layout (level + 1) f ++
          (fieldsChars layout (level + 1) fields ++ (layout.lineBreak level ++
            '\x7d' :: cs)))) := by
      simp [chars]
    have hlength := congrArg List.length (htext [])
    simp only [List.length_append, List.length_cons, List.length_nil] at hlength
    have hfuel' : 2 * (fieldChars layout (level + 1) f ++
        fieldsChars layout (level + 1) fields).length + 1 < fuel := by
      rw [List.length_append]
      omega
    have hread := fields_chars constants rest hlayout h.2 h.1 (level + 1)
      (Nat.le_of_succ_le_succ hdepth) (isGap_lineBreak layout level) hfuel'
    obtain ⟨cs, hcs⟩ := exists_fieldChars_eq layout (level + 1) f
    rw [hcs, List.cons_append] at hread
    rw [htext, hcs, List.cons_append,
      value_fields ((skipGap_append (isGap_lineBreak _ _) _).trans (skipGap_cons rfl _))
        (by decide), hread]
    exact readBack_map fun fs => obj (upsertAll fs)

/-- Every tree whose integers are not too long is read back. -/
theorem readsBack (hlayout : IsReadable layout) (h : j.isWritable = true) :
    ReadsBack layout j := by
  induction j using treeInduction with
  | arr items ih =>
    rw [isWritable, areWritable_iff] at h
    exact readsBack_arr hlayout fun j hj => ih j hj (h j hj)
  | obj fields ih =>
    rw [isWritable, areWritableFields_iff] at h
    exact readsBack_obj hlayout fun f hf => ih f hf (h f hf)
  | int n =>
    rintro constants (_ | fuel) room level rest - hrest hfuel
    · cases hfuel
    · rw [isWritable] at h
      rw [chars, constantNames, joined, value_int constants fuel room h hrest]
      cases constants <;> rfl
  | float x =>
    rintro constants (_ | fuel) room level rest - hrest hfuel
    · cases hfuel
    · rw [chars, constantNames, joined]
      split
      · rename_i hx
        rw [value_finite constants fuel room numberStyle hx hrest]
        cases constants <;> rfl
      · rename_i hx
        rw [Bool.not_eq_true] at hx
        exact value_constant constants fuel room hx rest
  | str s =>
    rintro constants (_ | fuel) room level rest - hrest hfuel
    · cases hfuel
    · rw [chars, constantNames, joined, value_stringChars]
      cases constants <;> rfl
  | null =>
    rintro constants (_ | fuel) room level rest - hrest hfuel
    · cases hfuel
    · rw [chars, constantNames, joined]
      cases constants <;> rfl
  | bool b =>
    rintro constants (_ | fuel) room level rest - hrest hfuel
    · cases hfuel
    · rw [constantNames, joined]
      cases b <;> cases constants <;> rfl

end

/-! ### Whole texts -/

/-- A written tree is read as the tree, joined, or ends with the first word that is refused. -/
theorem read_text {layout : Layout} (hlayout : IsReadable layout) (constants : Constants)
    {j : Json} (h : j.isWritable = true) (hdepth : j.depth ≤ depthLimit) :
    read constants (j.text layout) =
      match refusedName? constants j.constantNames with
      | some name => .error (.constant name)
      | none => .ok j.joined := by
  have hreads := readsBack hlayout h
  have hskip := hreads.skipGap 0 []
  have hread := hreads constants _ depthLimit 0 [] hdepth atBoundary_nil (Nat.lt_succ_self _)
  rw [List.append_nil] at hskip hread
  rw [read, text, String.toList_ofList, hskip, hread]
  unfold readBack
  cases refusedName? constants j.constantNames <;> rfl

end RunCharts.Json
