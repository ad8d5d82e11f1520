/-!
# Pieces of a text

A text cut at every occurrence of a character. The pieces joined by that character give the text
back; there is always one piece at least.
-/

namespace RunCharts.Text

def consFirst (c : Char) : List (List Char) → List (List Char)
  | [] => [[c]]
  | piece :: pieces => (c :: piece) :: pieces

def split (sep : Char) : List Char → List (List Char)
  | [] => [[]]
  | c :: cs => if c = sep then [] :: split sep cs else consFirst c (split sep cs)

def join (sep : Char) : List (List Char) → List Char
  | [] => []
  | [piece] => piece
  | piece :: pieces => piece ++ sep :: join sep pieces

theorem split_ne_nil (sep : Char) (cs : List Char) : split sep cs ≠ [] := by
  cases cs with
  | nil => simp [split]
  | cons c cs =>
    rw [split]
    split
    · simp
    · cases split sep cs <;> simp [consFirst]

theorem join_consFirst (sep c : Char) {pieces : List (List Char)} (h : pieces ≠ []) :
    join sep (consFirst c pieces) = c :: join sep pieces := by
  match pieces, h with
  | [_], _ => rfl
  | _ :: _ :: _, _ => rfl

theorem join_cons (sep : Char) (piece : List Char) {pieces : List (List Char)} (h : pieces ≠ []) :
    join sep (piece :: pieces) = piece ++ sep :: join sep pieces := by
  match pieces, h with
  | _ :: _, _ => rfl

theorem join_split (sep : Char) (cs : List Char) : join sep (split sep cs) = cs := by
  induction cs with
  | nil => rfl
  | cons c cs ih =>
    rw [split]
    split
    · rename_i h
      rw [join_cons sep [] (split_ne_nil sep cs), ih, h, List.nil_append]
    · rw [join_consFirst sep c (split_ne_nil sep cs), ih]

theorem join_concat (sep : Char) {pieces : List (List Char)} (h : pieces ≠ []) (piece : List Char) :
    join sep (pieces ++ [piece]) = join sep pieces ++ sep :: piece := by
  induction pieces with
  | nil => exact absurd rfl h
  | cons first pieces ih =>
    cases pieces with
    | nil => rfl
    | cons second pieces =>
      have hsecond : second :: pieces ≠ [] := List.cons_ne_nil _ _
      rw [List.cons_append, join_cons sep first (List.append_ne_nil_of_left_ne_nil hsecond [piece]),
        ih hsecond, join_cons sep first hsecond, List.append_assoc, List.cons_append]

theorem join_concat_append (sep : Char) (pieces : List (List Char)) (piece cs : List Char) :
    join sep (pieces ++ [piece ++ cs]) = join sep (pieces ++ [piece]) ++ cs := by
  by_cases h : pieces = []
  · rw [h]
    rfl
  · rw [join_concat sep h, join_concat sep h, List.append_assoc, List.cons_append]

theorem split_eq_splitOn (sep : Char) (cs : List Char) : split sep cs = cs.splitOn sep := by
  induction cs with
  | nil => rfl
  | cons c cs ih =>
    rw [split, List.splitOn_cons_eq_if_modifyHead, ih]
    by_cases hc : c = sep
    · simp [hc]
    · rw [if_neg hc, if_neg (by simpa using hc)]
      cases hsplit : cs.splitOn sep with
      | nil => exact absurd hsplit (List.splitOn_ne_nil sep cs)
      | cons piece pieces => rfl

theorem split_append (sep : Char) (cs after : List Char) :
    split sep (cs ++ sep :: after) = split sep cs ++ split sep after := by
  simp only [split_eq_splitOn, List.splitOn_append_cons_self]

theorem split_of_not_mem {sep : Char} {cs : List Char} (h : sep ∉ cs) : split sep cs = [cs] := by
  rw [split_eq_splitOn, List.splitOn_eq_singleton h]

end RunCharts.Text
