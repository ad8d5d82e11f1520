import RunCharts.Json.Reader

/-!
# Refused words

Refusing the words for numbers without a value changes a reading in one way only: it ends with such
a word. Whatever is read with the words refused is read the same with the words allowed.
-/

namespace RunCharts.Json

namespace Reader

/-- Whether a reading with the words refused ends with a word, or else is the one with the words
allowed. -/
def EndsOrAgrees {α : Type} (refused allowed : Result α) : Prop :=
  (∃ name, refused = .error (.constant name)) ∨ refused = allowed

theorem EndsOrAgrees.map {α β : Type} {r r' : Result α} (f : α × List Char → β × List Char)
    (h : EndsOrAgrees r r') : EndsOrAgrees (r.map f) (r'.map f) := by
  rcases h with ⟨name, rfl⟩ | rfl
  · exact .inl ⟨name, rfl⟩
  · exact .inr rfl

theorem atom_endsOrAgrees (cs : List Char) :
    EndsOrAgrees (atom .refused cs) (atom .allowed cs) := by
  unfold atom
  split
  · exact .inr rfl
  · split
    · exact .inl ⟨_, rfl⟩
    · exact .inr rfl

section

variable {fuel : Nat}

theorem value_endsOrAgrees
    (hitems : ∀ room cs, EndsOrAgrees (items .refused fuel room cs) (items .allowed fuel room cs))
    (hfields : ∀ room cs,
      EndsOrAgrees (fields .refused fuel room cs) (fields .allowed fuel room cs))
    (room : Nat) (cs : List Char) :
    EndsOrAgrees (value .refused (fuel + 1) room cs) (value .allowed (fuel + 1) room cs) := by
  unfold value
  split
  · exact .inr rfl
  · split
    · exact .inr rfl
    · exact .inr rfl
    · exact (hitems _ _).map _
  · split
    · exact .inr rfl
    · exact .inr rfl
    · exact (hfields _ _).map _
  · exact atom_endsOrAgrees _

theorem items_endsOrAgrees
    (hvalue : ∀ room cs, EndsOrAgrees (value .refused fuel room cs) (value .allowed fuel room cs))
    (hitems : ∀ room cs, EndsOrAgrees (items .refused fuel room cs) (items .allowed fuel room cs))
    (room : Nat) (cs : List Char) :
    EndsOrAgrees (items .refused (fuel + 1) room cs) (items .allowed (fuel + 1) room cs) := by
  unfold items
  rcases hvalue room cs with ⟨name, hend⟩ | hagree
  · rw [hend]
    exact .inl ⟨name, rfl⟩
  · rw [hagree]
    split
    · exact .inr rfl
    · split
      · exact (hitems _ _).map _
      · exact .inr rfl
      · exact .inr rfl

theorem fields_endsOrAgrees
    (hvalue : ∀ room cs, EndsOrAgrees (value .refused fuel room cs) (value .allowed fuel room cs))
    (hfields : ∀ room cs,
      EndsOrAgrees (fields .refused fuel room cs) (fields .allowed fuel room cs))
    (room : Nat) (cs : List Char) :
    EndsOrAgrees (fields .refused (fuel + 1) room cs) (fields .allowed (fuel + 1) room cs) := by
  unfold fields
  split
  · split
    · exact .inr rfl
    · split
      · rename_i afterColon _
        rcases hvalue room (skipGap afterColon) with ⟨name, hend⟩ | hagree
        · rw [hend]
          exact .inl ⟨name, rfl⟩
        · rw [hagree]
          split
          · exact .inr rfl
          · split
            · exact (hfields _ _).map _
            · exact .inr rfl
            · exact .inr rfl
      · exact .inr rfl
  · exact .inr rfl

end

theorem endsOrAgrees (fuel : Nat) :
    (∀ room cs, EndsOrAgrees (value .refused fuel room cs) (value .allowed fuel room cs)) ∧
    (∀ room cs, EndsOrAgrees (items .refused fuel room cs) (items .allowed fuel room cs)) ∧
    ∀ room cs, EndsOrAgrees (fields .refused fuel room cs) (fields .allowed fuel room cs) := by
  induction fuel with
  | zero => exact ⟨fun _ _ => .inr rfl, fun _ _ => .inr rfl, fun _ _ => .inr rfl⟩
  | succ fuel ih =>
    obtain ⟨hvalue, hitems, hfields⟩ := ih
    exact ⟨value_endsOrAgrees hitems hfields, items_endsOrAgrees hvalue hitems,
      fields_endsOrAgrees hvalue hfields⟩

end Reader

open Reader

theorem read_allowed_of_refused {s : String} {j : Json} (h : read .refused s = .ok j) :
    read .allowed s = .ok j := by
  unfold read at h ⊢
  dsimp only at h ⊢
  rcases (endsOrAgrees (2 * (skipGap s.toList).length + 1)).1 depthLimit (skipGap s.toList)
    with ⟨name, hend⟩ | hagree
  · rw [hend] at h
    cases h
  · rwa [← hagree]

end RunCharts.Json
