import Mathlib.Data.List.Forall2
import Mathlib.Data.List.Perm.Basic

/-!
# Lists read item by item

A list whose items are read one after another, the first fault ending the reading. The reading
succeeds item by item, it fails at the first item that fails, and the order of the items decides
nothing but which fault is met first. `EndsAtFirst` says of a reading which faults it meets, each
part of it having its own.
-/

namespace RunCharts.Traversal

variable {α β γ ε : Type} {f : α → Except ε β} {xs : List α} {ys : List β}

theorem bind_eq_ok_iff {x : Except ε α} {k : α → Except ε β} {b : β} :
    (x >>= k) = .ok b ↔ ∃ a, x = .ok a ∧ k a = .ok b := by
  cases x <;> simp [bind, Except.bind]

theorem map_bind (g : β → γ) (x : Except ε α) (k : α → Except ε β) :
    (x >>= k).map g = x >>= fun a => (k a).map g := by
  cases x <;> rfl

theorem bind_map (g : α → β) (x : Except ε α) (k : β → Except ε γ) :
    x.map g >>= k = x >>= fun a => k (g a) := by
  cases x <;> rfl

theorem mapM_cons_ok {x : α} {y : β} (hx : f x = .ok y) (hxs : xs.mapM f = .ok ys) :
    (x :: xs).mapM f = .ok (y :: ys) := by
  rw [List.mapM_cons, hx, hxs]
  rfl

theorem mapM_cons_error {x : α} {e : ε} (hx : f x = .error e) : (x :: xs).mapM f = .error e := by
  rw [List.mapM_cons, hx]
  rfl

theorem mapM_cons_ok_error {x : α} {y : β} {e : ε} (hx : f x = .ok y)
    (hxs : xs.mapM f = .error e) : (x :: xs).mapM f = .error e := by
  rw [List.mapM_cons, hx, hxs]
  rfl

theorem mapM_cons_eq_ok_iff {x : α} : (x :: xs).mapM f = .ok ys ↔
    ∃ y rest, f x = .ok y ∧ xs.mapM f = .ok rest ∧ ys = y :: rest := by
  constructor
  · intro h
    cases hx : f x with
    | error e => rw [mapM_cons_error hx] at h; cases h
    | ok y =>
      cases hxs : xs.mapM f with
      | error e => rw [mapM_cons_ok_error hx hxs] at h; cases h
      | ok rest =>
        rw [mapM_cons_ok hx hxs] at h
        cases h
        exact ⟨y, rest, rfl, rfl, rfl⟩
  · rintro ⟨y, rest, hx, hxs, rfl⟩
    exact mapM_cons_ok hx hxs

theorem mapM_append_eq_ok_iff {xs' : List α} : (xs ++ xs').mapM f = .ok ys ↔
    ∃ ys₁ ys₂, xs.mapM f = .ok ys₁ ∧ xs'.mapM f = .ok ys₂ ∧ ys = ys₁ ++ ys₂ := by
  induction xs generalizing ys with
  | nil =>
    constructor
    · intro h
      exact ⟨[], ys, rfl, h, rfl⟩
    · rintro ⟨ys₁, ys₂, h₁, h₂, rfl⟩
      cases h₁
      exact h₂
  | cons x xs ih =>
    rw [List.cons_append, mapM_cons_eq_ok_iff]
    constructor
    · rintro ⟨y, rest, hx, hrest, rfl⟩
      obtain ⟨ys₁, ys₂, h₁, h₂, rfl⟩ := ih.mp hrest
      exact ⟨y :: ys₁, ys₂, mapM_cons_ok hx h₁, h₂, rfl⟩
    · rintro ⟨ys₁, ys₂, h₁, h₂, rfl⟩
      obtain ⟨y, rest, hx, hrest, rfl⟩ := mapM_cons_eq_ok_iff.mp h₁
      exact ⟨y, rest ++ ys₂, hx, ih.mpr ⟨rest, ys₂, hrest, h₂, rfl⟩, rfl⟩

theorem mapM_eq_ok_iff : xs.mapM f = .ok ys ↔ List.Forall₂ (fun x y => f x = .ok y) xs ys := by
  induction xs generalizing ys with
  | nil => cases ys <;> simp [pure, Except.pure]
  | cons x xs ih =>
    rw [List.forall₂_cons_left_iff, mapM_cons_eq_ok_iff]
    constructor
    · rintro ⟨y, rest, hx, hxs, rfl⟩
      exact ⟨y, rest, hx, ih.mp hxs, rfl⟩
    · rintro ⟨y, rest, hx, hxs, rfl⟩
      exact ⟨y, rest, hx, ih.mpr hxs, rfl⟩

theorem exists_of_mem_left (h : xs.mapM f = .ok ys) {x : α} (hx : x ∈ xs) :
    ∃ y ∈ ys, f x = .ok y := by
  induction mapM_eq_ok_iff.mp h with
  | nil => cases hx
  | cons hxy hrest ih =>
    rcases List.mem_cons.mp hx with rfl | hx
    · exact ⟨_, List.mem_cons_self, hxy⟩
    · obtain ⟨y, hy, hf⟩ := ih (mapM_eq_ok_iff.mpr hrest) hx
      exact ⟨y, List.mem_cons_of_mem _ hy, hf⟩

theorem exists_of_mem_right (h : xs.mapM f = .ok ys) {y : β} (hy : y ∈ ys) :
    ∃ x ∈ xs, f x = .ok y := by
  induction mapM_eq_ok_iff.mp h with
  | nil => cases hy
  | cons hxy hrest ih =>
    rcases List.mem_cons.mp hy with rfl | hy
    · exact ⟨_, List.mem_cons_self, hxy⟩
    · obtain ⟨x, hx, hf⟩ := ih (mapM_eq_ok_iff.mpr hrest) hy
      exact ⟨x, List.mem_cons_of_mem _ hx, hf⟩

theorem exists_mapM_ok_iff : (∃ ys, xs.mapM f = .ok ys) ↔ ∀ x ∈ xs, ∃ y, f x = .ok y := by
  constructor
  · rintro ⟨ys, h⟩ x hx
    obtain ⟨y, -, hy⟩ := exists_of_mem_left h hx
    exact ⟨y, hy⟩
  · intro h
    induction xs with
    | nil => exact ⟨[], rfl⟩
    | cons x xs ih =>
      obtain ⟨y, hy⟩ := h x List.mem_cons_self
      obtain ⟨ys, hys⟩ := ih fun z hz => h z (List.mem_cons_of_mem x hz)
      exact ⟨y :: ys, mapM_cons_ok hy hys⟩

theorem mapM_eq_error_iff {e : ε} : xs.mapM f = .error e ↔
    ∃ before x after, xs = before ++ x :: after ∧ (∀ z ∈ before, ∃ y, f z = .ok y) ∧
      f x = .error e := by
  constructor
  · intro h
    induction xs with
    | nil => cases h
    | cons x xs ih =>
      cases hx : f x with
      | error e' =>
        rw [mapM_cons_error hx] at h
        cases h
        exact ⟨[], x, xs, rfl, nofun, hx⟩
      | ok y =>
        cases hxs : xs.mapM f with
        | ok ys => rw [mapM_cons_ok hx hxs] at h; cases h
        | error e' =>
          rw [mapM_cons_ok_error hx hxs] at h
          cases h
          obtain ⟨before, z, after, rfl, hbefore, hz⟩ := ih hxs
          refine ⟨x :: before, z, after, rfl, ?_, hz⟩
          intro w hw
          rcases List.mem_cons.mp hw with rfl | hw
          · exact ⟨y, hx⟩
          · exact hbefore w hw
  · rintro ⟨before, x, after, rfl, hbefore, hx⟩
    obtain ⟨ys, hys⟩ := exists_mapM_ok_iff.mpr hbefore
    rw [List.mapM_append, hys, mapM_cons_error hx]
    rfl

/-- Where one item of a list is read differently, one result differs. -/
theorem mapM_around {g : β → β} {x y : α} (h : f x = (f y).map g) (before after : List α) :
    (before ++ x :: after).mapM f =
      ((before ++ y :: after).mapM f).map fun ys => ys.modify before.length g := by
  induction before with
  | nil =>
    rw [List.nil_append, List.nil_append, List.mapM_cons, List.mapM_cons, h]
    cases f y with
    | error e => rfl
    | ok b => cases after.mapM f <;> rfl
  | cons z before ih =>
    rw [List.cons_append, List.cons_append, List.mapM_cons, List.mapM_cons, ih]
    cases f z with
    | error e => rfl
    | ok b => cases (before ++ y :: after).mapM f <;> rfl

theorem exists_getElem?_of_mapM {before after : List α} {x : α}
    (h : (before ++ x :: after).mapM f = .ok ys) :
    ∃ y, ys[before.length]? = some y ∧ f x = .ok y := by
  obtain ⟨ys₁, ys₂, hbefore, hrest, rfl⟩ := mapM_append_eq_ok_iff.mp h
  obtain ⟨y, rest, hx, -, rfl⟩ := mapM_cons_eq_ok_iff.mp hrest
  have hlength := (mapM_eq_ok_iff.mp hbefore).length_eq
  refine ⟨y, ?_, hx⟩
  rw [hlength, List.getElem?_append_right (Nat.le_refl _), Nat.sub_self]
  rfl

theorem mapM_perm {xs' : List α} (hp : xs'.Perm xs) (h : xs.mapM f = .ok ys) :
    ∃ ys', xs'.mapM f = .ok ys' ∧ ys'.Perm ys := by
  obtain ⟨ys', hys', hperm⟩ := List.perm_comp_forall₂ hp (mapM_eq_ok_iff.mp h)
  exact ⟨ys', mapM_eq_ok_iff.mpr hys', hperm⟩

/-- Lists with related items are read to lists with related items. -/
theorem mapM_related {α' β' : Type} {R : α → α' → Prop} {S : β → β' → Prop} {f' : α' → Except ε β'}
    {xs' : List α'} (hR : List.Forall₂ R xs xs')
    (hf : ∀ x x' y, R x x' → f x = .ok y → ∃ y', f' x' = .ok y' ∧ S y y')
    (h : xs.mapM f = .ok ys) : ∃ ys', xs'.mapM f' = .ok ys' ∧ List.Forall₂ S ys ys' := by
  induction hR generalizing ys with
  | nil =>
    cases h
    exact ⟨[], rfl, .nil⟩
  | cons hx _ ih =>
    obtain ⟨y, rest, hy, hrest, rfl⟩ := mapM_cons_eq_ok_iff.mp h
    obtain ⟨y', hy', hyy'⟩ := hf _ _ _ hx hy
    obtain ⟨rest', hrest', hrests⟩ := ih hrest
    exact ⟨y' :: rest', mapM_cons_ok hy' hrest', .cons hyy' hrests⟩

/-- How a reading with these faults, in this order, comes out: it ends with the first of them. -/
def EndsAtFirst (x : Except ε α) (faults : List ε) : Prop :=
  ∀ e, x = .error e ↔ faults.head? = some e

section

variable {x : Except ε α} {faults : List ε}

theorem endsAtFirst_ok (a : α) : EndsAtFirst (.ok a : Except ε α) [] := by
  intro e
  constructor
  · intro h
    cases h
  · intro h
    cases h

theorem endsAtFirst_error (e : ε) (rest : List ε) :
    EndsAtFirst (.error e : Except ε α) (e :: rest) := by
  intro f
  constructor
  · intro h
    cases h
    rfl
  · intro h
    cases h
    rfl

theorem EndsAtFirst.exists_ok_iff (h : EndsAtFirst x faults) : (∃ a, x = .ok a) ↔ faults = [] := by
  cases x with
  | ok a =>
    cases faults with
    | nil => exact ⟨fun _ => rfl, fun _ => ⟨a, rfl⟩⟩
    | cons e faults => cases (h e).mpr rfl
  | error e =>
    have he := (h e).mp rfl
    constructor
    · rintro ⟨a, ha⟩
      cases ha
    · rintro rfl
      cases he

theorem EndsAtFirst.nil_of_ok {a : α} (h : EndsAtFirst x faults) (hx : x = .ok a) : faults = [] :=
  h.exists_ok_iff.mp ⟨a, hx⟩

theorem EndsAtFirst.eq_cons {e : ε} (h : EndsAtFirst x faults) (hx : x = .error e) :
    ∃ rest, faults = e :: rest :=
  List.head?_eq_some_iff.mp ((h e).mp hx)

theorem EndsAtFirst.bind {k : α → Except ε β} {more : List ε} (h : EndsAtFirst x faults)
    (hk : ∀ a, x = .ok a → EndsAtFirst (k a) more) : EndsAtFirst (x >>= k) (faults ++ more) := by
  cases x with
  | ok a =>
    -- What succeeds has no faults, so those of the rest are all there are.
    rw [h.nil_of_ok rfl, List.nil_append]
    exact hk a rfl
  | error e =>
    obtain ⟨rest, rfl⟩ := h.eq_cons rfl
    exact endsAtFirst_error e (rest ++ more)

theorem EndsAtFirst.map (h : EndsAtFirst x faults) (g : α → β) :
    EndsAtFirst (x.map g) faults := by
  cases x with
  | ok a =>
    rw [h.nil_of_ok rfl]
    exact endsAtFirst_ok (g a)
  | error e =>
    obtain ⟨rest, rfl⟩ := h.eq_cons rfl
    exact endsAtFirst_error e rest

theorem EndsAtFirst.bind_pure (h : EndsAtFirst x faults) (g : α → β) :
    EndsAtFirst (x >>= fun a => pure (g a)) faults :=
  h.map g

theorem endsAtFirst_mapM {faultsOf : α → List ε}
    (h : ∀ x ∈ xs, EndsAtFirst (f x) (faultsOf x)) :
    EndsAtFirst (xs.mapM f) (xs.flatMap faultsOf) := by
  induction xs with
  | nil => exact endsAtFirst_ok []
  | cons x xs ih =>
    rw [List.mapM_cons, List.flatMap_cons]
    apply (h x List.mem_cons_self).bind
    intro y _
    have htail := ih fun z hz => h z (List.mem_cons_of_mem x hz)
    exact htail.map (y :: ·)

end

end RunCharts.Traversal
