import RunCharts.Proofs.Template.Cuts

/-!
# What a template is filled in with

Filling in keeps the text of a cut and puts in the place of each placeholder the value of the first
argument of its name, as long as there is one; inserted text is not cut again. No placeholder goes
over the end of a line, so lines can be filled in one by one.
-/

namespace RunCharts

theorem Argument.value?_eq_bind_find? (name : String) (args : List Argument) :
    value? name args = (args.find? fun a => a.name = name).bind Argument.value := by
  induction args with
  | nil => rfl
  | cons a args ih =>
    rw [value?, List.find?_cons]
    by_cases ha : a.name = name
    · simp [ha]
    · simp [ha, ih]

namespace Template

/-- Whether a placeholder asks for an argument of a name: without braces and spaces, the first part
between points is `args` and the second one is the name. -/
def AsksFor (placeholder : List Char) (name : String) : Prop :=
  ∃ others, (placeholder.filter fun c => c ∉ ['{', '}', ' ']).splitOn '.' =
    "args".toList :: name.toList :: others

/-- The text that comes in the place of a placeholder. -/
inductive StandsFor (args : List Argument) (placeholder : List Char) : List Char → Prop
  | value {name value : String} {a : Argument} (hname : AsksFor placeholder name)
    (ha : args.find? (fun a => a.name = name) = some a) (hvalue : a.value = some value) :
    StandsFor args placeholder value.toList
  | verbatim (hnone : ∀ name a, AsksFor placeholder name →
      args.find? (fun a => a.name = name) = some a → a.value = none) :
    StandsFor args placeholder placeholder

def Cut.FillsTo (args : List Argument) : Cut → List Char → Prop
  | last text, cs => cs = text
  | next before body cut, cs => ∃ text rest,
      StandsFor args (Piece.placeholder body).chars text ∧ cut.FillsTo args rest ∧
      cs = before ++ text ++ rest

variable {args : List Argument} {cs body text : List Char} {name : String} {cut : Cut}

theorem asksFor_placeholder_iff : AsksFor (Piece.placeholder body).chars name ↔
    argumentName? body = some name.toList := by
  have hfilter : ((Piece.placeholder body).chars.filter fun c => c ∉ ['{', '}', ' ']) =
      body.filter fun c => c != '{' && c != '}' && c != ' ' := by
    have hkept : ∀ c : Char, decide (c ∉ ['{', '}', ' ']) = (c != '{' && c != '}' && c != ' ') := by
      intro c
      rw [Bool.eq_iff_iff]
      simp [and_assoc]
    simp only [hkept]
    simp [Piece.chars]
  unfold AsksFor argumentName?
  rw [hfilter, ← Text.split_eq_splitOn]
  split
  · rename_i first name' others hsplit
    rw [hsplit]
    by_cases hfirst : first = ['a', 'r', 'g', 's']
    · rw [if_pos hfirst, Option.some.injEq]
      constructor
      · rintro ⟨others', heq⟩
        cases heq
        rfl
      · rintro rfl
        exact ⟨others, by rw [hfirst]; rfl⟩
    · rw [if_neg hfirst]
      refine iff_of_false ?_ (Option.some_ne_none _).symm
      rintro ⟨others', heq⟩
      exact hfirst (List.cons.inj heq).1
  · rename_i hsplit
    refine iff_of_false ?_ (Option.some_ne_none _).symm
    rintro ⟨others', heq⟩
    exact hsplit _ _ _ heq

theorem argumentName?_bind_eq_some_iff {value : String} :
    ((argumentName? body).bind fun name => Argument.value? (String.ofList name) args) = some value ↔
      ∃ name a, AsksFor (Piece.placeholder body).chars name ∧
        args.find? (fun a => a.name = name) = some a ∧ a.value = some value := by
  simp only [Option.bind_eq_some_iff, Argument.value?_eq_bind_find?, asksFor_placeholder_iff]
  constructor
  · rintro ⟨name, hname, a, ha, hvalue⟩
    exact ⟨String.ofList name, a, by rwa [String.toList_ofList], ha, hvalue⟩
  · rintro ⟨name, a, hname, ha, hvalue⟩
    exact ⟨name.toList, hname, a, by rwa [String.ofList_toList], hvalue⟩

/-- What a placeholder is filled in with is the one text that stands for it. -/
theorem standsFor_iff : StandsFor args (Piece.placeholder body).chars text ↔
    text = Piece.fill args (.placeholder body) := by
  rw [Piece.fill]
  constructor
  · intro h
    cases h with
    | value hname ha hvalue =>
      rw [argumentName?_bind_eq_some_iff.mpr ⟨_, _, hname, ha, hvalue⟩]
    | verbatim hnone =>
      split
      · rename_i value hvalue
        obtain ⟨name, a, hname, ha, hvalue⟩ := argumentName?_bind_eq_some_iff.mp hvalue
        rw [hnone name a hname ha] at hvalue
        cases hvalue
      · rfl
  · rintro rfl
    split
    · rename_i value hvalue
      obtain ⟨name, a, hname, ha, hvalue⟩ := argumentName?_bind_eq_some_iff.mp hvalue
      exact .value hname ha hvalue
    · rename_i hnone
      refine .verbatim ?_
      intro name a hname ha
      rw [Option.eq_none_iff_forall_ne_some]
      intro value hvalue
      rw [argumentName?_bind_eq_some_iff.mpr ⟨name, a, hname, ha, hvalue⟩] at hnone
      cases hnone

theorem flatMap_fill_literals (args : List Argument) (text : List Char) :
    (text.map Piece.literal).flatMap (Piece.fill args) = text := by
  rw [List.flatMap_map]
  exact List.flatMap_singleton' text

theorem fillsTo_iff : cut.FillsTo args cs ↔ cs = cut.pieces.flatMap (Piece.fill args) := by
  induction cut generalizing cs with
  | last text => rw [Cut.FillsTo, Cut.pieces, flatMap_fill_literals]
  | next before body cut ih =>
    rw [Cut.FillsTo, Cut.pieces, List.flatMap_append, List.flatMap_cons, flatMap_fill_literals]
    constructor
    · rintro ⟨text, rest, htext, hrest, rfl⟩
      rw [standsFor_iff.mp htext, ih.mp hrest, List.append_assoc]
    · rintro rfl
      exact ⟨_, _, standsFor_iff.mpr rfl, ih.mpr rfl, (List.append_assoc ..).symm⟩

/-! ### Lines -/

/-- Two characters that do not stand together do not do so in front of the end of a line. -/
theorem not_pair_append_newline {c brace : Char} {after : List Char} (hbrace : brace ≠ '\n')
    (h : ∀ rest, c = brace → cs = brace :: rest → False) :
    ∀ rest, c = brace → cs ++ '\n' :: after = brace :: rest → False := by
  intro rest hc hcs
  cases cs with
  | nil => exact hbrace (List.cons.inj hcs).1.symm
  | cons d cs =>
    obtain ⟨rfl, -⟩ := List.cons.inj hcs
    exact h cs hc rfl

theorem takeBody?_append_newline (cs after : List Char) : takeBody? (cs ++ '\n' :: after) =
    (takeBody? cs).map fun r => (r.1, r.2 ++ '\n' :: after) := by
  fun_induction takeBody? cs with
  | case1 => rfl
  | case2 cs => rfl
  | case3 cs hbraces => rfl
  | case4 c cs hbraces hc ih =>
    rw [List.cons_append, takeBody?.eq_3 _ _ (not_pair_append_newline (by decide) hbraces),
      if_neg hc, ih, Option.map_map, Option.map_map]
    rfl

theorem pieces_of_takeBody?_some {rest : List Char} (h : takeBody? cs = some (body, rest)) :
    pieces ('{' :: '{' :: cs) = .placeholder body :: pieces rest := by
  rw [pieces]
  split
  · rename_i h'
    rw [h] at h'
    cases h'
    rfl
  · rename_i h'
    rw [h] at h'
    cases h'

theorem pieces_of_takeBody?_none (h : takeBody? cs = none) :
    pieces ('{' :: '{' :: cs) = .literal '{' :: pieces ('{' :: cs) := by
  rw [pieces]
  split
  · rename_i h'
    rw [h] at h'
    cases h'
  · rfl

theorem pieces_newline (after : List Char) :
    pieces ('\n' :: after) = .literal '\n' :: pieces after :=
  pieces.eq_3 '\n' after (fun _ hbrace => absurd hbrace (by decide))

theorem pieces_append_newline (cs after : List Char) :
    pieces (cs ++ '\n' :: after) = pieces cs ++ .literal '\n' :: pieces after := by
  fun_induction pieces cs with
  | case1 => exact pieces_newline after
  | case2 rest body rest' h _ ih =>
    have hbody : takeBody? (rest ++ '\n' :: after) = some (body, rest' ++ '\n' :: after) := by
      rw [takeBody?_append_newline, h, Option.map_some]
    rw [List.cons_append, List.cons_append, pieces_of_takeBody?_some hbody, ih, List.cons_append]
  | case3 rest h ih =>
    have hbody : takeBody? (rest ++ '\n' :: after) = none := by
      rw [takeBody?_append_newline, h, Option.map_none]
    rw [List.cons_append, List.cons_append, pieces_of_takeBody?_none hbody, ← List.cons_append, ih,
      List.cons_append]
  | case4 c rest hbraces ih =>
    rw [List.cons_append, pieces.eq_3 _ _ (not_pair_append_newline (by decide) hbraces), ih,
      List.cons_append]

theorem fillChars_append_newline (args : List Argument) (cs after : List Char) :
    fillChars args (cs ++ '\n' :: after) = fillChars args cs ++ '\n' :: fillChars args after := by
  rw [fillChars, pieces_append_newline, List.flatMap_append, List.flatMap_cons]
  rfl

/-- What filling in comes to: a template has one cut, the result is the one text that the cut fills
to, and lines are filled in apart. -/
theorem fill_of_cut (args : List Argument) (template : String) :
    (∃ cut : Cut, (∀ other : Cut, other.IsOf template.toList ↔ other = cut) ∧
      ∀ text, cut.FillsTo args text ↔ text = (fill args template).toList) ∧
    ∀ after, fill args (template ++ "\n" ++ after) =
      fill args template ++ "\n" ++ fill args after := by
  constructor
  · obtain ⟨cut, hcut, hpieces⟩ := exists_isOf_pieces template.toList
    refine ⟨cut, ?_, ?_⟩
    · intro other
      constructor
      · intro hother
        exact hother.unique hcut
      · rintro rfl
        exact hcut
    · intro text
      rw [fillsTo_iff, hpieces, fill, String.toList_ofList, fillChars]
  · intro after
    have htext : (template ++ "\n" ++ after).toList =
        template.toList ++ '\n' :: after.toList := by simp
    rw [fill, htext, fillChars_append_newline, fill, fill]
    simp [String.ext_iff]

/-- A brace in front of two is taken as the first of two, and an argument without a value hides a
later one of its name. -/
example : fill [⟨"x", none⟩, ⟨"x", some "0"⟩, ⟨"y", some "1"⟩]
    "\x7b\x7b\x7bargs.y\x7d\x7d\x7d \x7b\x7bargs.x\x7d\x7d" =
      "1\x7d \x7b\x7bargs.x\x7d\x7d" := by
  decide +kernel

end Template

end RunCharts
