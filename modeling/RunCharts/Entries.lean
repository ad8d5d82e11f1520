/-!
# Lists of entries

Keys with values, in the order in which the keys came. Putting a value under a key that is there
already changes the value and leaves the order. Main statements: what is put under a key is found
there, and nothing else changes.
-/

namespace RunCharts

def lookup {α β : Type} [BEq α] (key : α) : List (α × β) → Option β
  | [] => none
  | (k, v) :: entries => if k == key then some v else lookup key entries

/-- Puts a value under a key: in the place of the entry that has the key, or at the end. -/
def upsert {α β : Type} [BEq α] (key : α) (value : β) : List (α × β) → List (α × β)
  | [] => [(key, value)]
  | (k, v) :: entries =>
    if k == key then (k, value) :: entries else (k, v) :: upsert key value entries

/-- Entries put one after another: a key keeps its first place and takes its last value. -/
def upsertAll {α β : Type} [BEq α] (entries : List (α × β)) : List (α × β) :=
  entries.foldl (fun acc e => upsert e.1 e.2 acc) []

theorem lookup_upsert_self {α β : Type} [BEq α] [LawfulBEq α] (key : α) (value : β)
    (entries : List (α × β)) : lookup key (upsert key value entries) = some value := by
  induction entries with
  | nil => simp [upsert, lookup]
  | cons e entries ih =>
    obtain ⟨k, v⟩ := e
    by_cases h : k = key <;> simp [upsert, lookup, h, ih]

theorem lookup_upsert_of_ne {α β : Type} [BEq α] [LawfulBEq α] {key other : α} (hne : other ≠ key)
    (value : β) (entries : List (α × β)) :
    lookup other (upsert key value entries) = lookup other entries := by
  induction entries with
  | nil => simp [upsert, lookup, Ne.symm hne]
  | cons e entries ih =>
    obtain ⟨k, v⟩ := e
    by_cases h : k = key
    · subst h; simp [upsert, lookup, Ne.symm hne]
    · simp [upsert, lookup, h, ih]

end RunCharts
