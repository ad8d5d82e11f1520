import RunCharts.Proofs.Template.Filling

/-!
# Where filled text meets other text

A placeholder is read alike whatever follows it. So a text whose opening braces are all closed can
be filled in apart from what comes after it. And values without an opening brace open nothing, also
not together with the text around them: what was filled in is cut at the placeholders that stayed,
and filling it in again changes nothing.
-/

namespace RunCharts.Template

variable {args : List Argument} {cs body rest : List Char} {c : Char} {n : Nat}

theorem takeBody?_eq_none_iff : takeBody? cs = none ↔ ∀ n, ¬ ClosesAt cs n := by
  rcases takeBody?_cases cs with ⟨hnone, hcloses⟩ | ⟨n, hsome, hclose, -⟩
  · exact iff_of_true hnone hcloses
  · rw [hsome]
    exact iff_of_false nofun fun hcloses => hcloses n hclose

theorem takeBody?_ne_none_iff : takeBody? cs ≠ none ↔ ∃ n, ClosesAt cs n := by
  rw [ne_eq, takeBody?_eq_none_iff, Classical.not_forall_not]

theorem takeBody?_of_not_pair (hc : c ≠ '\n') (h : ∀ rest, c = '}' → cs = '}' :: rest → False) :
    takeBody? (c :: cs) = (takeBody? cs).map fun r => (c :: r.1, r.2) := by
  rw [takeBody?.eq_3 _ _ h, if_neg hc]

theorem takeBody?_again (h : takeBody? cs = some (body, rest)) (after : List Char) :
    takeBody? (body ++ '}' :: '}' :: after) = some (body, after) := by
  fun_induction takeBody? cs generalizing body rest with
  | case1 => cases h
  | case2 => cases h; rfl
  | case3 => cases h
  | case4 c cs hbraces hc ih =>
    obtain ⟨⟨tail, rest'⟩, htail, heq⟩ := Option.map_eq_some_iff.mp h
    cases heq
    have hcs : cs = tail ++ '}' :: '}' :: rest' := eq_append_of_takeBody? htail
    rw [List.cons_append, takeBody?_of_not_pair hc, ih htail, Option.map_some]
    intro after' hbrace hafter
    cases tail with
    | nil => exact hbraces _ hbrace hcs
    | cons d tail =>
      obtain ⟨rfl, -⟩ := List.cons.inj hafter
      exact hbraces _ hbrace hcs

theorem pieces_placeholder_append (h : takeBody? cs = some (body, rest)) (after : List Char) :
    pieces ((Piece.placeholder body).chars ++ after) = .placeholder body :: pieces after := by
  have hchars : (Piece.placeholder body).chars ++ after =
      '{' :: '{' :: (body ++ '}' :: '}' :: after) := by simp [Piece.chars]
  rw [hchars, pieces_of_takeBody?_some (takeBody?_again h after)]

theorem pieces_cons (h : ∀ n, ¬ OpensAt (c :: cs) 0 n) :
    pieces (c :: cs) = .literal c :: pieces cs := by
  by_cases hbraces : c = '{' ∧ ∃ rest, cs = '{' :: rest
  · obtain ⟨rfl, rest, rfl⟩ := hbraces
    apply pieces_of_takeBody?_none
    rw [takeBody?_eq_none_iff]
    exact fun n hclose => h n (opensAt_zero_iff.mpr hclose)
  · exact pieces.eq_3 c cs fun rest hc hcs => hbraces ⟨hc, rest, hcs⟩

theorem not_opensAt_of_ne (hc : c ≠ '{') (n : Nat) : ¬ OpensAt (c :: cs) 0 n :=
  not_opensAt_zero fun _ hbrace => absurd hbrace hc

theorem pieces_append_of_not_mem (h : '{' ∉ cs) (after : List Char) :
    pieces (cs ++ after) = cs.map .literal ++ pieces after := by
  induction cs with
  | nil => rfl
  | cons c cs ih =>
    rw [List.mem_cons, not_or] at h
    rw [List.cons_append, pieces_cons (not_opensAt_of_ne (Ne.symm h.1)), ih h.2]
    rfl

theorem fillChars_append_of_not_mem (args : List Argument) (h : '{' ∉ cs) (after : List Char) :
    fillChars args (cs ++ after) = cs ++ fillChars args after := by
  rw [fillChars, pieces_append_of_not_mem h, List.flatMap_append, flatMap_fill_literals]
  rfl

theorem fillChars_nil (args : List Argument) : fillChars args [] = [] := by
  rw [fillChars, pieces]
  rfl

theorem fillChars_cons (args : List Argument) (h : ∀ n, ¬ OpensAt (c :: cs) 0 n) :
    fillChars args (c :: cs) = c :: fillChars args cs := by
  rw [fillChars, pieces_cons h, List.flatMap_cons]
  rfl

/-! ### Closed text -/

/-- Whether every two opening braces are closed behind them, on their line. -/
def IsClosed (cs : List Char) : Prop :=
  ∀ i, ['{', '{'] <+: cs.drop i → ∃ n, ClosesAt (cs.drop (i + 2)) n

theorem isClosed_iff_takeBody? : IsClosed cs ↔
    ∀ i < cs.length, ['{', '{'] <+: cs.drop i → takeBody? (cs.drop (i + 2)) ≠ none := by
  simp only [takeBody?_ne_none_iff]
  constructor
  · exact fun h i _ => h i
  · intro h i hopen
    refine h i (Nat.lt_of_not_le fun hlength => ?_) hopen
    rw [List.drop_eq_nil_of_le hlength] at hopen
    exact absurd (List.prefix_nil.mp hopen) (List.cons_ne_nil _ _)

instance (cs : List Char) : Decidable (IsClosed cs) := decidable_of_iff' _ isClosed_iff_takeBody?

theorem IsClosed.of_append {before : List Char} (h : IsClosed (before ++ cs)) : IsClosed cs := by
  have hdrop : ∀ j, (before ++ cs).drop (before.length + j) = cs.drop j :=
    fun j => List.drop_length_add_append j
  intro i hopen
  obtain ⟨n, hclose⟩ := h (before.length + i) (by rwa [hdrop])
  rw [Nat.add_assoc, hdrop] at hclose
  exact ⟨n, hclose⟩

theorem IsClosed.takeBody?_ne_none (h : IsClosed ('{' :: '{' :: cs)) : takeBody? cs ≠ none :=
  takeBody?_ne_none_iff.mpr (h 0 ⟨cs, rfl⟩)

/-- Closed text is cut apart from what follows it, unless that starts with a brace. -/
theorem pieces_append_of_isClosed (h : IsClosed cs) (hc : c ≠ '{') (after : List Char) :
    pieces (cs ++ c :: after) = pieces cs ++ pieces (c :: after) := by
  fun_induction pieces cs with
  | case1 => rfl
  | case2 rest body rest' hbody _ ih =>
    have hrest : '{' :: '{' :: rest = (Piece.placeholder body).chars ++ rest' :=
      (startsWith_of_takeBody? hbody).eq_append
    rw [hrest] at h
    rw [hrest, List.append_assoc, pieces_placeholder_append hbody, ih h.of_append,
      List.cons_append]
  | case3 rest hbody _ => exact absurd hbody h.takeBody?_ne_none
  | case4 d rest hbraces ih =>
    change IsClosed ([d] ++ rest) at h
    rw [List.cons_append, pieces.eq_3, ih h.of_append, List.cons_append]
    intro tail hd htail
    cases rest with
    | nil => exact hc (List.cons.inj htail).1
    | cons e rest =>
      obtain ⟨rfl, -⟩ := List.cons.inj htail
      exact hbraces rest hd rfl

theorem fill_append_of_isClosed (args : List Argument) {text separator : String}
    (h : IsClosed text.toList) (hne : separator ≠ "") (hbrace : '{' ∉ separator.toList)
    (after : String) :
    fill args (text ++ separator ++ after) = fill args text ++ separator ++ fill args after := by
  have hchars : fillChars args (text.toList ++ (separator.toList ++ after.toList)) =
      fillChars args text.toList ++ (separator.toList ++ fillChars args after.toList) := by
    obtain ⟨c, tail, hseparator⟩ := List.exists_cons_of_ne_nil (mt String.toList_eq_nil_iff.mp hne)
    rw [← fillChars_append_of_not_mem args hbrace]
    rw [hseparator, List.mem_cons, not_or] at hbrace
    rw [hseparator, List.cons_append, fillChars, pieces_append_of_isClosed h (Ne.symm hbrace.1),
      List.flatMap_append]
    rfl
  have htext : (text ++ separator ++ after).toList =
      text.toList ++ (separator.toList ++ after.toList) := by simp
  rw [fill, htext, hchars, fill, fill]
  simp [String.ext_iff]

/-! ### Filling in again -/

theorem closesAt_cons_zero_iff : ClosesAt (c :: cs) 0 ↔ c = '}' ∧ cs.head? = some '}' := by
  rw [closesAt_zero_iff, List.cons_prefix_cons, eq_comm]
  cases cs <;> simp [eq_comm]

theorem closesAt_of_opensAt (h : OpensAt cs 0 n) : ClosesAt cs (n + 2) := by
  obtain ⟨⟨rest, hrest⟩, hclose⟩ := h
  rw [List.drop_zero] at hrest
  subst hrest
  rw [List.cons_append, List.cons_append, closesAt_cons_succ_iff, closesAt_cons_succ_iff]
  exact ⟨by decide, by decide, hclose⟩

theorem head?_fillChars (args : List Argument) (h : ∀ n, ¬ OpensAt cs 0 n) :
    (fillChars args cs).head? = cs.head? := by
  cases cs with
  | nil => rw [fillChars_nil]
  | cons c cs => rw [fillChars_cons args h]; rfl

/-- Where nothing closes on the line, no placeholder is filled in on it, and nothing closes there
afterwards. -/
theorem not_closesAt_fillChars (args : List Argument) (h : ∀ n, ¬ ClosesAt cs n) (n : Nat) :
    ¬ ClosesAt (fillChars args cs) n := by
  induction cs generalizing n with
  | nil => rw [fillChars_nil]; exact h n
  | cons c cs ih =>
    have htail : c ≠ '\n' → ∀ n, ¬ ClosesAt cs n := fun hc n hclose =>
      h (n + 1) (closesAt_cons_succ_iff.mpr ⟨hc, hclose⟩)
    rw [fillChars_cons args fun n hopen => h _ (closesAt_of_opensAt hopen)]
    intro hclose
    cases n with
    | zero =>
      obtain ⟨rfl, hhead⟩ := closesAt_cons_zero_iff.mp hclose
      rw [head?_fillChars args fun n hopen => htail (by decide) _ (closesAt_of_opensAt hopen)]
        at hhead
      exact h 0 (closesAt_cons_zero_iff.mpr ⟨rfl, hhead⟩)
    | succ n =>
      obtain ⟨hc, hclose⟩ := closesAt_cons_succ_iff.mp hclose
      exact ih (htail hc) n hclose

/-- What is read in the place of a piece after it was filled in. -/
def Piece.refilled (args : List Argument) : Piece → List Piece
  | literal c => [literal c]
  | placeholder body =>
    match (argumentName? body).bind fun name => Argument.value? (String.ofList name) args with
    | some value => value.toList.map literal
    | none => [placeholder body]

theorem flatMap_fill_refilled (args : List Argument) (p : Piece) :
    (p.refilled args).flatMap (Piece.fill args) = p.fill args := by
  cases p with
  | literal c => rfl
  | placeholder body =>
    cases hvalue : (argumentName? body).bind fun name =>
        Argument.value? (String.ofList name) args with
    | none => simp [Piece.refilled, hvalue]
    | some value =>
      rw [Piece.refilled, Piece.fill, hvalue]
      exact flatMap_fill_literals args value.toList

section

variable (hargs : ∀ a ∈ args, ∀ value ∈ a.value, '{' ∉ value.toList)

include hargs

theorem pieces_fill_append (h : takeBody? cs = some (body, rest)) (after : List Char) :
    pieces (Piece.fill args (.placeholder body) ++ after) =
      Piece.refilled args (.placeholder body) ++ pieces after := by
  rw [Piece.fill, Piece.refilled]
  cases hvalue : (argumentName? body).bind fun name =>
      Argument.value? (String.ofList name) args with
  | none => exact pieces_placeholder_append h after
  | some value =>
    obtain ⟨name, a, -, ha, hvalue⟩ := argumentName?_bind_eq_some_iff.mp hvalue
    exact pieces_append_of_not_mem (hargs a (List.mem_of_find?_eq_some ha) value hvalue) after

theorem pieces_fillChars (cs : List Char) :
    pieces (fillChars args cs) = (pieces cs).flatMap (Piece.refilled args) := by
  fun_induction pieces cs with
  | case1 => rw [fillChars_nil, pieces]; rfl
  | case2 rest body rest' hbody _ ih =>
    have hfill : fillChars args ('{' :: '{' :: rest) =
        Piece.fill args (.placeholder body) ++ fillChars args rest' := by
      rw [fillChars, pieces_of_takeBody?_some hbody, List.flatMap_cons]
      rfl
    rw [hfill, pieces_fill_append hargs hbody, ih, List.flatMap_cons]
  | case3 rest hbody ih =>
    -- Nothing closes these braces, neither before nor after the rest is filled in.
    have hcloses := takeBody?_eq_none_iff.mp hbody
    have hsecond : fillChars args ('{' :: rest) = '{' :: fillChars args rest := by
      apply fillChars_cons
      intro n hopen
      exact hcloses _ (closesAt_cons_succ_iff.mp (closesAt_of_opensAt hopen)).2
    rw [fillChars_cons args fun n hopen => hcloses n (opensAt_zero_iff.mp hopen), pieces_cons, ih]
    · rfl
    · intro n hopen
      rw [hsecond, opensAt_zero_iff] at hopen
      exact not_closesAt_fillChars args hcloses n hopen
  | case4 c rest hbraces ih =>
    rw [fillChars_cons args fun n => not_opensAt_zero hbraces, pieces_cons, ih]
    · rfl
    · intro n
      apply not_opensAt_zero
      rintro tail rfl htail
      have hhead : (fillChars args rest).head? = rest.head? := by
        apply head?_fillChars
        rintro m ⟨⟨after, hafter⟩, -⟩
        exact hbraces _ rfl hafter.symm
      rw [htail, List.head?_cons] at hhead
      obtain ⟨after, hafter⟩ := List.head?_eq_some_iff.mp hhead.symm
      exact hbraces after rfl hafter

theorem fillChars_fillChars (cs : List Char) :
    fillChars args (fillChars args cs) = fillChars args cs := by
  rw [fillChars, pieces_fillChars hargs, List.flatMap_assoc]
  simp only [flatMap_fill_refilled]
  rfl

end

/-- Filling in again changes nothing, as long as no value has an opening brace. -/
theorem fill_fill (args : List Argument)
    (hargs : ∀ a ∈ args, ∀ value ∈ a.value, '{' ∉ value.toList) (template : String) :
    fill args (fill args template) = fill args template := by
  rw [fill, fill, String.toList_ofList, fillChars_fillChars hargs]

def closingArguments : List Argument :=
  [⟨"x", some "\x7d\x7d\n"⟩, ⟨"y", some ""⟩, ⟨"z", none⟩]

def crowdedTemplate : String :=
  "\x7b\x7b\x7bargs.x\x7d\x7d\x7b\x7b\x7bargs.z\x7d\x7d\x7b\x7bargs.y\x7d\x7d\x7b\x7b"

theorem fill_fill_crowded :
    (∀ a ∈ closingArguments, ∀ value ∈ a.value, '{' ∉ value.toList) ∧
    fill closingArguments crowdedTemplate =
      "\x7d\x7d\n\x7b\x7b\x7bargs.z\x7d\x7d\x7b\x7b" ∧
    fill closingArguments (fill closingArguments crowdedTemplate) =
      fill closingArguments crowdedTemplate := by
  have hargs : ∀ a ∈ closingArguments, ∀ value ∈ a.value, '{' ∉ value.toList := by decide
  refine ⟨hargs, ?_, fill_fill closingArguments hargs crowdedTemplate⟩
  decide +kernel

end RunCharts.Template
