import RunCharts.Template

/-!
# Where placeholders stand

A placeholder starts at the leftmost two opening braces that are closed on their line, and ends at
the first two braces that close them. This cuts a template in one way only, and the pieces that are
read from left to right are those of the cut.
-/

namespace RunCharts.Template

/-- Whether two closing braces stand `n` characters further on, with no end of a line before. -/
def ClosesAt (cs : List Char) (n : Nat) : Prop := ['}', '}'] <+: cs.drop n ∧ '\n' ∉ cs.take n

/-- Whether two opening braces stand at a place and are closed `n` characters behind them. -/
def OpensAt (cs : List Char) (i n : Nat) : Prop :=
  ['{', '{'] <+: cs.drop i ∧ ClosesAt (cs.drop (i + 2)) n

/-- A template cut at its placeholders: the text before each one with its body, and the text behind
the last one. -/
inductive Cut where
  | last (text : List Char)
  | next (before body : List Char) (cut : Cut)

structure StartsWith (before body rest cs : List Char) : Prop where
  eq_append : cs = before ++ (Piece.placeholder body).chars ++ rest
  opens : OpensAt cs before.length body.length
  leftmost : ∀ i n, OpensAt cs i n → before.length ≤ i
  shortest : ∀ n, OpensAt cs before.length n → body.length ≤ n

def Cut.IsOf : Cut → List Char → Prop
  | last text, cs => cs = text ∧ ∀ i n, ¬ OpensAt cs i n
  | next before body cut, cs => ∃ rest, StartsWith before body rest cs ∧ cut.IsOf rest

def Cut.pieces : Cut → List Piece
  | last text => text.map .literal
  | next before body cut => before.map .literal ++ .placeholder body :: cut.pieces

variable {cs before body rest : List Char} {c : Char} {i n : Nat} {cut cut' : Cut}

/-! ### The end of a placeholder -/

theorem not_closesAt_nil (n : Nat) : ¬ ClosesAt [] n := by
  rintro ⟨hclose, -⟩
  rw [List.drop_nil] at hclose
  exact absurd (List.prefix_nil.mp hclose) (List.cons_ne_nil _ _)

theorem closesAt_zero_iff : ClosesAt cs 0 ↔ ['}', '}'] <+: cs := by
  simp [ClosesAt]

theorem closesAt_cons_succ_iff : ClosesAt (c :: cs) (n + 1) ↔ c ≠ '\n' ∧ ClosesAt cs n := by
  rw [ClosesAt, ClosesAt, List.drop_succ_cons, List.take_succ_cons, List.mem_cons, not_or,
    and_left_comm]
  exact and_congr_left' ne_comm

theorem not_closesAt_zero (h : ∀ rest, c = '}' → cs = '}' :: rest → False) :
    ¬ ClosesAt (c :: cs) 0 := by
  rw [closesAt_zero_iff]
  rintro ⟨rest, hrest⟩
  cases hrest
  exact h rest rfl rfl

/-- A body ends at the first closing braces of the line, if there are any. -/
theorem takeBody?_cases (cs : List Char) : (takeBody? cs = none ∧ ∀ n, ¬ ClosesAt cs n) ∨
    ∃ n, takeBody? cs = some (cs.take n, cs.drop (n + 2)) ∧ ClosesAt cs n ∧
      ∀ m, ClosesAt cs m → n ≤ m := by
  fun_induction takeBody? cs with
  | case1 => exact .inl ⟨rfl, not_closesAt_nil⟩
  | case2 cs => exact .inr ⟨0, rfl, closesAt_zero_iff.mpr ⟨cs, rfl⟩, fun _ _ => Nat.zero_le _⟩
  | case3 cs hbraces =>
    refine .inl ⟨rfl, ?_⟩
    rintro (_ | n) hclose
    · exact not_closesAt_zero hbraces hclose
    · exact (closesAt_cons_succ_iff.mp hclose).1 rfl
  | case4 c cs hbraces hc ih =>
    rcases ih with ⟨hnone, hcloses⟩ | ⟨n, hsome, hclose, hleast⟩
    · refine .inl ⟨by rw [hnone]; rfl, ?_⟩
      rintro (_ | n) hclose
      · exact not_closesAt_zero hbraces hclose
      · exact hcloses n (closesAt_cons_succ_iff.mp hclose).2
    · refine .inr ⟨n + 1, by rw [hsome]; rfl, closesAt_cons_succ_iff.mpr ⟨hc, hclose⟩, ?_⟩
      rintro (_ | m) hm
      · exact absurd hm (not_closesAt_zero hbraces)
      · exact Nat.succ_le_succ (hleast m (closesAt_cons_succ_iff.mp hm).2)

/-! ### The start of a placeholder -/

theorem not_opensAt_nil (i n : Nat) : ¬ OpensAt [] i n := by
  rintro ⟨-, hclose⟩
  rw [List.drop_nil] at hclose
  exact not_closesAt_nil n hclose

theorem opensAt_cons_succ_iff : OpensAt (c :: cs) (i + 1) n ↔ OpensAt cs i n := Iff.rfl

theorem opensAt_zero_iff : OpensAt ('{' :: '{' :: cs) 0 n ↔ ClosesAt cs n :=
  and_iff_right ⟨cs, rfl⟩

theorem not_opensAt_zero (h : ∀ rest, c = '{' → cs = '{' :: rest → False) :
    ¬ OpensAt (c :: cs) 0 n := by
  rintro ⟨⟨rest, hrest⟩, -⟩
  cases hrest
  exact h rest rfl rfl

theorem startsWith_of_takeBody? (h : takeBody? cs = some (body, rest)) :
    StartsWith [] body rest ('{' :: '{' :: cs) := by
  rcases takeBody?_cases cs with ⟨hnone, -⟩ | ⟨n, hsome, hclose, hleast⟩
  · rw [hnone] at h
    cases h
  · rw [hsome] at h
    cases h
    have hlength : (cs.take n).length = n := by
      obtain ⟨tail, htail⟩ := hclose.1
      have := congrArg List.length htail
      simp at this ⊢
      omega
    refine ⟨?_, ?_, fun _ _ _ => Nat.zero_le _, ?_⟩
    · refine (congrArg ('{' :: '{' :: ·) (eq_append_of_takeBody? hsome)).trans ?_
      simp [Piece.chars]
    · rw [hlength]
      exact opensAt_zero_iff.mpr hclose
    · intro m hm
      rw [hlength]
      exact hleast m (opensAt_zero_iff.mp hm)

theorem StartsWith.cons (h : StartsWith before body rest cs) (hc : ∀ n, ¬ OpensAt (c :: cs) 0 n) :
    StartsWith (c :: before) body rest (c :: cs) where
  eq_append := congrArg (c :: ·) h.eq_append
  opens := opensAt_cons_succ_iff.mpr h.opens
  leftmost := by
    rintro (_ | i) n hopen
    · exact absurd hopen (hc n)
    · exact Nat.succ_le_succ (h.leftmost i n (opensAt_cons_succ_iff.mp hopen))
  shortest := h.shortest

theorem StartsWith.unique {before' body' rest' : List Char} (h : StartsWith before body rest cs)
    (h' : StartsWith before' body' rest' cs) : before = before' ∧ body = body' ∧ rest = rest' := by
  have hbefore : before.length = before'.length :=
    Nat.le_antisymm (h.leftmost _ _ h'.opens) (h'.leftmost _ _ h.opens)
  have hopens := h.opens
  have hopens' := h'.opens
  rw [hbefore] at hopens
  rw [← hbefore] at hopens'
  have hbody : body.length = body'.length :=
    Nat.le_antisymm (h.shortest _ hopens') (h'.shortest _ hopens)
  have heq := h.eq_append.symm.trans h'.eq_append
  rw [List.append_assoc, List.append_assoc] at heq
  obtain ⟨hsame, heq⟩ := List.append_inj heq hbefore
  obtain ⟨hchars, hrest⟩ := List.append_inj heq (by simp [Piece.chars, hbody])
  refine ⟨hsame, ?_, hrest⟩
  simpa [Piece.chars] using hchars

/-! ### The one cut of a text -/

def Cut.cons (c : Char) : Cut → Cut
  | last text => last (c :: text)
  | next before body cut => next (c :: before) body cut

theorem Cut.pieces_cons (c : Char) (cut : Cut) :
    (cut.cons c).pieces = .literal c :: cut.pieces := by
  cases cut <;> rfl

theorem Cut.IsOf.cons (h : cut.IsOf cs) (hc : ∀ n, ¬ OpensAt (c :: cs) 0 n) :
    (cut.cons c).IsOf (c :: cs) := by
  cases cut with
  | last text =>
    obtain ⟨rfl, hopens⟩ := h
    refine ⟨rfl, ?_⟩
    rintro (_ | i) n hopen
    · exact hc n hopen
    · exact hopens i n (opensAt_cons_succ_iff.mp hopen)
  | next before body cut =>
    obtain ⟨rest, hstarts, hrest⟩ := h
    exact ⟨rest, hstarts.cons hc, hrest⟩

theorem exists_isOf_pieces (cs : List Char) :
    ∃ cut : Cut, cut.IsOf cs ∧ cut.pieces = pieces cs := by
  fun_induction pieces cs with
  | case1 => exact ⟨.last [], ⟨rfl, not_opensAt_nil⟩, rfl⟩
  | case2 rest body rest' h _ ih =>
    obtain ⟨cut, hcut, hpieces⟩ := ih
    exact ⟨.next [] body cut, ⟨rest', startsWith_of_takeBody? h, hcut⟩,
      congrArg (Piece.placeholder body :: ·) hpieces⟩
  | case3 rest h ih =>
    obtain ⟨cut, hcut, hpieces⟩ := ih
    -- Nothing closes these braces, so the first of them belongs to the text.
    have hopens : ∀ n, ¬ OpensAt ('{' :: '{' :: rest) 0 n := by
      intro n hopen
      rcases takeBody?_cases rest with ⟨-, hcloses⟩ | ⟨m, hsome, -⟩
      · exact hcloses n (opensAt_zero_iff.mp hopen)
      · rw [hsome] at h
        cases h
    exact ⟨cut.cons '{', hcut.cons hopens, by rw [Cut.pieces_cons, hpieces]⟩
  | case4 c rest hbraces ih =>
    obtain ⟨cut, hcut, hpieces⟩ := ih
    have hopens : ∀ n, ¬ OpensAt (c :: rest) 0 n := fun n =>
      not_opensAt_zero fun tail hc htail => hbraces tail hc htail
    exact ⟨cut.cons c, hcut.cons hopens, by rw [Cut.pieces_cons, hpieces]⟩

theorem Cut.IsOf.unique (h : cut.IsOf cs) (h' : cut'.IsOf cs) : cut = cut' := by
  induction cut generalizing cs cut' with
  | last text =>
    obtain ⟨rfl, hopens⟩ := h
    cases cut' with
    | last text' => exact congrArg Cut.last h'.1
    | next before body cut =>
      obtain ⟨rest, hstarts, -⟩ := h'
      exact absurd hstarts.opens (hopens _ _)
  | next before body cut ih =>
    obtain ⟨rest, hstarts, hrest⟩ := h
    -- Both cuts have the same first placeholder, so they go on with the same rest.
    cases cut' with
    | last text' => exact absurd hstarts.opens (h'.2 _ _)
    | next before' body' cut' =>
      obtain ⟨rest', hstarts', hrest'⟩ := h'
      obtain ⟨rfl, rfl, rfl⟩ := hstarts.unique hstarts'
      rw [ih hrest hrest']

end RunCharts.Template
