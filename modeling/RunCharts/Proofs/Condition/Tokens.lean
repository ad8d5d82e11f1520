import Mathlib.Data.List.Induction
import Mathlib.Data.List.Infix
import RunCharts.Condition

/-!
# Tokens of a subcondition

A subcondition is cut at the spaces in front of which no parenthesis is open. The tokens with single
spaces between them are the subcondition again, and what follows a text with balanced parentheses is
cut as if it stood alone.
-/

namespace RunCharts

/-- A text is one piece, or a text with one piece more behind it. -/
theorem Text.pieceInduction (sep : Char) {motive : List Char → Prop}
    (single : ∀ piece, sep ∉ piece → motive piece)
    (snoc : ∀ cs piece, sep ∉ piece → motive cs → motive (cs ++ sep :: piece))
    (cs : List Char) : motive cs := by
  have hbefore : ∀ piece, sep ∉ piece → motive (cs ++ piece) := by
    induction cs using List.reverseRecOn with
    | nil => exact single
    | append_singleton cs c ih =>
      intro piece hpiece
      rw [List.append_assoc, List.singleton_append]
      by_cases hc : c = sep
      · have hcs : motive cs := by simpa using ih [] List.not_mem_nil
        rw [hc]
        exact snoc cs piece hpiece hcs
      · exact ih (c :: piece) (List.not_mem_cons_of_ne_of_not_mem (Ne.symm hc) hpiece)
  simpa using hbefore [] List.not_mem_nil

namespace Condition

def openAfter (cs : List Char) : Nat := (Text.split ' ' cs).foldl depthAfter 0

/-- Whether a text opens more parentheses than it closes: what follows it stands inside of one. -/
def LeavesOpen (cs : List Char) : Prop := cs.count ')' < cs.count '('

/-- The parentheses are balanced: a closing one always has a partner before it, and every opening
one is closed. -/
structure IsBalanced (cs : List Char) : Prop where
  closed_le : ∀ before, before <+: cs → before.count ')' ≤ before.count '('
  count_eq : cs.count '(' = cs.count ')'

def SpacesInside (cs : List Char) : Prop := ∀ before, before ++ [' '] <+: cs → LeavesOpen before

instance (cs : List Char) : Decidable (LeavesOpen cs) :=
  inferInstanceAs (Decidable (cs.count ')' < cs.count '('))

instance (cs : List Char) : Decidable (IsBalanced cs) :=
  decidable_of_iff ((∀ before ∈ cs.inits, before.count ')' ≤ before.count '(') ∧
      cs.count '(' = cs.count ')')
    ⟨fun h => ⟨fun before hbefore => h.1 before ((List.mem_inits before cs).mpr hbefore), h.2⟩,
      fun h => ⟨fun before hbefore => h.closed_le before ((List.mem_inits before cs).mp hbefore),
        h.count_eq⟩⟩

instance (cs : List Char) : Decidable (SpacesInside cs) :=
  decidable_of_iff (∀ before ∈ cs.inits, before ++ [' '] <+: cs → LeavesOpen before)
    ⟨fun h before hspace => h before ((List.mem_inits before cs).mpr
      ((List.prefix_append before [' ']).trans hspace)) hspace, fun h before _ => h before⟩

/-- What one piece more makes of tokens: where no parenthesis is open it is a token of its own, and
else it goes to the last token. -/
inductive TakesPiece (piece : List Char) (depth : Nat) (before after : List (List Char)) : Prop
  | apart (hclosed : depth = 0) (hafter : after = before ++ [piece])
  | joined (ts : List (List Char)) (t : List Char) (hopen : 0 < depth)
    (hbefore : before = ts ++ [t]) (hafter : after = ts ++ [t ++ ' ' :: piece])

variable {cs after piece : List Char} {before behind behind' pieces ts us : List (List Char)}
  {depth : Nat}

/-! ### One piece more -/

theorem TakesPiece.append (h : TakesPiece piece depth before behind) (ts : List (List Char)) :
    TakesPiece piece depth (ts ++ before) (ts ++ behind) := by
  cases h with
  | apart hclosed hafter => exact .apart hclosed (by rw [hafter, List.append_assoc])
  | joined us t hopen hbefore hafter =>
    exact .joined (ts ++ us) t hopen (by rw [hbefore, List.append_assoc])
      (by rw [hafter, List.append_assoc])

theorem TakesPiece.unique (h : TakesPiece piece depth before behind)
    (h' : TakesPiece piece depth before behind') : behind = behind' := by
  cases h with
  | apart hclosed hafter =>
    cases h' with
    | apart _ hafter' => rw [hafter, hafter']
    | joined _ _ hopen => exact absurd hclosed hopen.ne'
  | joined ts t hopen hbefore hafter =>
    cases h' with
    | apart hclosed => exact absurd hclosed hopen.ne'
    | joined ts' t' _ hbefore' hafter' =>
      obtain ⟨rfl, heq⟩ := List.append_inj' (hbefore.symm.trans hbefore') rfl
      cases heq
      rw [hafter, hafter']

theorem glue_concat (depth : Nat) (token piece : List Char) (pieces : List (List Char)) :
    TakesPiece piece (pieces.foldl depthAfter depth) (glue depth token pieces)
      (glue depth token (pieces ++ [piece])) := by
  induction pieces generalizing depth token with
  | nil =>
    rw [List.foldl_nil, List.nil_append, glue, glue]
    split
    · rename_i hopen
      exact .joined [] token hopen rfl rfl
    · exact .apart (by omega) rfl
  | cons next pieces ih =>
    rw [List.foldl_cons, List.cons_append, glue, glue]
    split
    · exact ih _ _
    · have hclosed : depth = 0 := by omega
      rw [hclosed]
      exact (ih _ next).append [token]

theorem exists_pieces (cs : List Char) :
    ∃ first pieces, Text.split ' ' cs = first :: pieces ∧
      tokens cs = glue (depthAfter 0 first) first pieces ∧
      openAfter cs = pieces.foldl depthAfter (depthAfter 0 first) := by
  obtain ⟨first, pieces, hsplit⟩ := List.exists_cons_of_ne_nil (Text.split_ne_nil ' ' cs)
  refine ⟨first, pieces, hsplit, ?_, ?_⟩
  · rw [tokens, hsplit]
  · rw [openAfter, hsplit, List.foldl_cons]

theorem tokens_of_not_mem (h : ' ' ∉ piece) : tokens piece = [piece] := by
  rw [tokens, Text.split_of_not_mem h]
  rfl

theorem openAfter_of_not_mem (h : ' ' ∉ piece) :
    openAfter piece = piece.count '(' - piece.count ')' := by
  rw [openAfter, Text.split_of_not_mem h, List.foldl_cons, List.foldl_nil, depthAfter, Nat.zero_add]

theorem tokens_concat (cs : List Char) (hpiece : ' ' ∉ piece) :
    TakesPiece piece (openAfter cs) (tokens cs) (tokens (cs ++ ' ' :: piece)) := by
  obtain ⟨first, pieces, hsplit, htokens, hopen⟩ := exists_pieces cs
  have hmore : tokens (cs ++ ' ' :: piece) =
      glue (depthAfter 0 first) first (pieces ++ [piece]) := by
    rw [tokens, Text.split_append, Text.split_of_not_mem hpiece, hsplit, List.cons_append]
  rw [htokens, hopen, hmore]
  exact glue_concat _ first piece pieces

theorem openAfter_append (cs after : List Char) :
    openAfter (cs ++ ' ' :: after) = (Text.split ' ' after).foldl depthAfter (openAfter cs) := by
  rw [openAfter, Text.split_append, List.foldl_append, openAfter]

theorem openAfter_concat (hpiece : ' ' ∉ piece) :
    openAfter (cs ++ ' ' :: piece) = openAfter cs + piece.count '(' - piece.count ')' := by
  rw [openAfter_append, Text.split_of_not_mem hpiece, List.foldl_cons, List.foldl_nil, depthAfter]

/-! ### Open parentheses -/

theorem count_append_space {c : Char} (hc : c ≠ ' ') (cs after : List Char) :
    (cs ++ ' ' :: after).count c = cs.count c + after.count c := by
  rw [List.count_append, List.count_cons_of_ne (Ne.symm hc)]

/-- A closing parenthesis without a partner is forgotten at the end of its piece, so there may be
more open ones than a count over the whole text says, and never fewer. -/
theorem count_open_le (cs : List Char) : cs.count '(' ≤ cs.count ')' + openAfter cs := by
  induction cs using Text.pieceInduction ' ' with
  | single piece hpiece =>
    rw [openAfter_of_not_mem hpiece]
    omega
  | snoc cs piece hpiece ih =>
    rw [openAfter_concat hpiece, count_append_space (by decide), count_append_space (by decide)]
    omega

example : openAfter "x) (".toList = 1 ∧ openAfter "x)(".toList = 0 := by decide +kernel

theorem openAfter_pos (h : LeavesOpen cs) : 0 < openAfter cs := by
  have hcount := count_open_le cs
  unfold LeavesOpen at h
  omega

theorem openAfter_eq_sub (h : ∀ before, before <+: cs → before.count ')' ≤ before.count '(') :
    openAfter cs = cs.count '(' - cs.count ')' := by
  induction cs using Text.pieceInduction ' ' with
  | single piece hpiece => exact openAfter_of_not_mem hpiece
  | snoc cs piece hpiece ih =>
    have hcs := h cs (List.prefix_append cs _)
    rw [openAfter_concat hpiece, count_append_space (by decide), count_append_space (by decide),
      ih fun before hbefore => h before (hbefore.trans (List.prefix_append cs _))]
    omega

theorem IsBalanced.openAfter_eq_zero (h : IsBalanced cs) : openAfter cs = 0 := by
  rw [openAfter_eq_sub h.closed_le, h.count_eq, Nat.sub_self]

/-! ### Tokens and their text -/

theorem tokens_ne_nil (cs : List Char) : tokens cs ≠ [] := by
  induction cs using Text.pieceInduction ' ' with
  | single piece hpiece =>
    rw [tokens_of_not_mem hpiece]
    exact List.cons_ne_nil _ _
  | snoc cs piece hpiece ih =>
    cases tokens_concat cs hpiece with
    | apart _ hafter =>
      rw [hafter]
      exact List.concat_ne_nil _ _
    | joined ts t _ _ hafter =>
      rw [hafter]
      exact List.concat_ne_nil _ _

theorem join_tokens (cs : List Char) : Text.join ' ' (tokens cs) = cs := by
  induction cs using Text.pieceInduction ' ' with
  | single piece hpiece =>
    rw [tokens_of_not_mem hpiece]
    rfl
  | snoc cs piece hpiece ih =>
    cases tokens_concat cs hpiece with
    | apart _ hafter => rw [hafter, Text.join_concat ' ' (tokens_ne_nil cs), ih]
    | joined ts t _ hbefore hafter => rw [hafter, Text.join_concat_append, ← hbefore, ih]

/-- Wherever the tokens are parted, no parenthesis is open after the first ones. -/
theorem openAfter_join_of_append (h : tokens cs = ts ++ us) (hts : ts ≠ []) (hus : us ≠ []) :
    openAfter (Text.join ' ' ts) = 0 := by
  induction cs using Text.pieceInduction ' ' generalizing us with
  | single piece hpiece =>
    rw [tokens_of_not_mem hpiece] at h
    rcases List.append_eq_singleton_iff.mp h.symm with ⟨rfl, -⟩ | ⟨-, rfl⟩
    · exact absurd rfl hts
    · exact absurd rfl hus
  | snoc cs piece hpiece ih =>
    obtain ⟨us, u, rfl⟩ := (List.eq_nil_or_concat' us).resolve_left hus
    rw [← List.append_assoc] at h
    cases tokens_concat cs hpiece with
    | apart hclosed hafter =>
      rw [hafter] at h
      have hbefore : tokens cs = ts ++ us := (List.append_inj' h rfl).1
      -- The parting is the new one exactly if nothing is left behind the first tokens.
      by_cases hempty : us = []
      · rw [hempty, List.append_nil] at hbefore
        rw [← hbefore, join_tokens, hclosed]
      · exact ih hbefore hempty
    | joined ts' t _ hbefore hafter =>
      rw [hafter] at h
      rw [(List.append_inj' h rfl).1, List.append_assoc] at hbefore
      exact ih hbefore (List.concat_ne_nil _ _)

theorem tokens_append (h : openAfter cs = 0) (after : List Char) :
    tokens (cs ++ ' ' :: after) = tokens cs ++ tokens after := by
  induction after using Text.pieceInduction ' ' with
  | single piece hpiece =>
    have hapart : TakesPiece piece (openAfter cs) (tokens cs) (tokens cs ++ [piece]) := .apart h rfl
    rw [tokens_of_not_mem hpiece]
    exact (tokens_concat cs hpiece).unique hapart
  | snoc after piece hpiece ih =>
    have hopen : openAfter (cs ++ ' ' :: after) = openAfter after := by
      rw [openAfter_append, h, openAfter]
    have hmore := tokens_concat (cs ++ ' ' :: after) hpiece
    rw [hopen, ih, List.append_assoc, List.cons_append] at hmore
    exact hmore.unique ((tokens_concat after hpiece).append (tokens cs))

theorem tokens_of_spacesInside (h : SpacesInside cs) : tokens cs = [cs] := by
  induction cs using Text.pieceInduction ' ' with
  | single piece hpiece => exact tokens_of_not_mem hpiece
  | snoc cs piece hpiece ih =>
    have hspace : cs ++ [' '] <+: cs ++ ' ' :: piece := ⟨piece, List.append_assoc ..⟩
    have hcs : tokens cs = [cs] :=
      ih fun before hbefore => h before (hbefore.trans (List.prefix_append cs _))
    have hjoined : TakesPiece piece (openAfter cs) (tokens cs) [cs ++ ' ' :: piece] :=
      .joined [] cs (openAfter_pos (h cs hspace)) hcs rfl
    exact (tokens_concat cs hpiece).unique hjoined

theorem openAfter_of_no_opening (hspace : ' ' ∉ cs) (hopening : '(' ∉ cs) : openAfter cs = 0 := by
  rw [openAfter_of_not_mem hspace, List.count_eq_zero_of_not_mem hopening, Nat.zero_sub]

/-- The tokens give the text back, and they are never parted where more parentheses have been opened
than closed. Behind a text with balanced parentheses the rest is cut as if it stood alone, so an
accessor with its spaces in parentheses, an operator and a literal are three tokens. -/
theorem tokens_outside_parentheses :
    (∀ cs, Text.join ' ' (tokens cs) = cs) ∧
    (∀ cs ts us, tokens cs = ts ++ us → us ≠ [] → ¬ LeavesOpen (Text.join ' ' ts)) ∧
    (∀ cs after, IsBalanced cs → tokens (cs ++ ' ' :: after) = tokens cs ++ tokens after) ∧
    (∀ accessor operator literal, IsBalanced accessor → SpacesInside accessor →
      ' ' ∉ operator → '(' ∉ operator → ' ' ∉ literal →
      tokens (accessor ++ ' ' :: (operator ++ ' ' :: literal)) = [accessor, operator, literal]) := by
  refine ⟨join_tokens, ?_, fun cs after h => tokens_append h.openAfter_eq_zero after, ?_⟩
  · intro cs ts us htokens hus hopen
    by_cases hts : ts = []
    · rw [hts] at hopen
      exact absurd hopen (by decide)
    · exact (openAfter_pos hopen).ne' (openAfter_join_of_append htokens hts hus)
  · intro accessor operator literal hbalanced hinside hspace hopening hliteral
    have hopen : openAfter operator = 0 := openAfter_of_no_opening hspace hopening
    rw [tokens_append hbalanced.openAfter_eq_zero, tokens_of_spacesInside hinside,
      tokens_append hopen, tokens_of_not_mem hspace, tokens_of_not_mem hliteral]
    rfl

theorem tokens_outside_parentheses_nested :
    IsBalanced "default(max(a,  b), 0)".toList ∧ SpacesInside "default(max(a,  b), 0)".toList ∧
    tokens ("default(max(a,  b), 0)".toList ++ ' ' :: ("<=".toList ++ ' ' :: "2)".toList)) =
      ["default(max(a,  b), 0)".toList, "<=".toList, "2)".toList] ∧
    tokens ("default(max(a,  b), 0)".toList ++ ' ' :: ") ( x".toList) =
      ["default(max(a,  b), 0)".toList, ")".toList, "( x".toList] ∧
    ¬ LeavesOpen (Text.join ' ' ["default(max(a,  b), 0)".toList, ")".toList]) := by
  obtain ⟨-, hparted, happend, hthree⟩ := tokens_outside_parentheses
  have hbalanced : IsBalanced "default(max(a,  b), 0)".toList := by decide +kernel
  have hinside : SpacesInside "default(max(a,  b), 0)".toList := by decide +kernel
  have hbehind : tokens ("default(max(a,  b), 0)".toList ++ ' ' :: ") ( x".toList) =
      ["default(max(a,  b), 0)".toList, ")".toList, "( x".toList] := by
    rw [happend _ _ hbalanced]
    decide +kernel
  exact ⟨hbalanced, hinside,
    hthree _ _ _ hbalanced hinside (by decide) (by decide) (by decide), hbehind,
    hparted _ _ _ hbehind (List.cons_ne_nil _ _)⟩

end Condition

end RunCharts
