import RunCharts.Text.Split

/-!
# Templates

Queries and conditions hold placeholders: two opening braces, a body on the same line, two closing
braces. A placeholder whose body names an argument that has a value is replaced by the value. Every
other one stays, and inserted values are not looked at again.
-/

namespace RunCharts

structure Argument where
  name : String
  value : Option String
deriving DecidableEq, Repr

def Argument.value? (name : String) : List Argument → Option String
  | [] => none
  | a :: args => if a.name = name then a.value else value? name args

namespace Template

inductive Piece where
  | literal (c : Char)
  | placeholder (body : List Char)
deriving DecidableEq, Repr

def Piece.chars : Piece → List Char
  | literal c => [c]
  | placeholder body => '{' :: '{' :: body ++ ['}', '}']

/-- A body up to the first two closing braces on the line, and what follows them. -/
def takeBody? : List Char → Option (List Char × List Char)
  | [] => none
  | '}' :: '}' :: cs => some ([], cs)
  | c :: cs => if c = '\n' then none else (takeBody? cs).map fun r => (c :: r.1, r.2)

theorem eq_append_of_takeBody? {cs : List Char} {r : List Char × List Char}
    (h : takeBody? cs = some r) : cs = r.1 ++ '}' :: '}' :: r.2 := by
  fun_induction takeBody? cs generalizing r with
  | case1 => simp at h
  | case2 cs => simp only [Option.some.injEq] at h; subst h; rfl
  | case3 => simp at h
  | case4 c cs _ _ ih =>
    obtain ⟨r', h', rfl⟩ := Option.map_eq_some_iff.1 h
    simp [ih h']

def pieces (cs : List Char) : List Piece :=
  match cs with
  | [] => []
  | '{' :: '{' :: rest =>
    match h : takeBody? rest with
    | some (body, rest') =>
      have : rest'.length < rest.length := by
        have := congrArg List.length (eq_append_of_takeBody? h)
        simp at this
        omega
      .placeholder body :: pieces rest'
    | none => .literal '{' :: pieces ('{' :: rest)
  | c :: rest => .literal c :: pieces rest
termination_by cs.length

/-- The name of the argument that a body asks for: its second part between points, the first part
being `args`. Braces and spaces are passed over. -/
def argumentName? (body : List Char) : Option (List Char) :=
  match Text.split '.' (body.filter fun c => c != '{' && c != '}' && c != ' ') with
  | first :: name :: _ => if first = ['a', 'r', 'g', 's'] then some name else none
  | _ => none

def Piece.fill (args : List Argument) : Piece → List Char
  | literal c => [c]
  | placeholder body =>
    match (argumentName? body).bind fun name => Argument.value? (String.ofList name) args with
    | some value => value.toList
    | none => (placeholder body).chars

def fillChars (args : List Argument) (cs : List Char) : List Char :=
  (pieces cs).flatMap (Piece.fill args)

def fill (args : List Argument) (s : String) : String :=
  String.ofList (fillChars args s.toList)

/-- Nothing of a template is lost in its pieces. -/
theorem flatMap_chars_pieces (cs : List Char) : (pieces cs).flatMap Piece.chars = cs := by
  fun_induction pieces cs with
  | case1 => rfl
  | case2 rest body rest' h _ ih =>
    rw [List.flatMap_cons, ih, eq_append_of_takeBody? h]
    simp [Piece.chars]
  | case3 rest _ ih => rw [List.flatMap_cons, ih]; rfl
  | case4 c rest _ ih => rw [List.flatMap_cons, ih]; rfl

/-- Without arguments every placeholder stays. -/
theorem fill_nil (s : String) : fill [] s = s := by
  have h : Piece.fill [] = Piece.chars := by
    funext p
    cases p with
    | literal c => rfl
    | placeholder body => simp [Piece.fill, Argument.value?]
  rw [fill, fillChars, h, flatMap_chars_pieces, String.ofList_toList]

end Template

end RunCharts
