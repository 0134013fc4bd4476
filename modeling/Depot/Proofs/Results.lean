import Mathlib.Control.Monad.Basic

/-!
# Results of steps

A step gives a value or fails. What follows here tells when steps that are made of others
do so: a step and what is done with its value, and steps one after the other for the items
of a list.
-/

namespace Depot

variable {α β ε : Type} {e : ε}

/-! ## One step and the next -/

section

variable {x : Except ε α} {b : β}

theorem exists_of_map_eq_ok {f : α → β} (h : x.map f = .ok b) : ∃ a, x = .ok a ∧ b = f a := by
  cases x with
  | error e => contradiction
  | ok a => exact ⟨a, rfl, (Except.ok.inj h).symm⟩

theorem error_of_map {f : α → β} (h : x.map f = .error e) : x = .error e := by
  cases x with
  | error e' => exact congrArg Except.error (Except.error.inj h)
  | ok a => contradiction

theorem mapError_eq_error_iff {ε' : Type} {f : ε → ε'} {e' : ε'} :
    x.mapError f = .error e' ↔ ∃ e, x = .error e ∧ f e = e' := by
  cases x <;> simp [Except.mapError]

variable {f : α → Except ε β}

theorem bind_eq_ok_iff : x >>= f = .ok b ↔ ∃ a, x = .ok a ∧ f a = .ok b := by
  cases x with
  | error e => exact ⟨nofun, nofun⟩
  | ok a => exact ⟨fun h => ⟨a, rfl, h⟩, fun ⟨_, ha, h⟩ => Except.ok.inj ha ▸ h⟩

/-- Of two steps, the first one fails or the second one. -/
theorem bind_eq_error_iff :
    x >>= f = .error e ↔ x = .error e ∨ ∃ a, x = .ok a ∧ f a = .error e := by
  cases x <;> simp [bind, Except.bind]

/-- A step fails with what is made of its value. -/
theorem bind_pure_eq_error_iff {g : α → β} :
    (x >>= fun a => pure (g a)) = .error e ↔ x = .error e := by
  cases x <;> simp [bind, Except.bind, pure, Except.pure]

end

/-! ## Steps for the items of a list -/

section

variable {f : α → Except ε β} {xs : List α}

/-- Steps that do the same one by one do the same one after the other. -/
theorem mapM_congr {g : α → Except ε β} (h : ∀ x ∈ xs, f x = g x) : xs.mapM f = xs.mapM g := by
  induction xs with
  | nil => rfl
  | cons x xs ih =>
    rw [List.mapM_cons, List.mapM_cons, h x List.mem_cons_self,
      ih fun x hx => h x (List.mem_cons_of_mem _ hx)]

/-- Steps that all succeed give their results in order. -/
theorem mapM_eq_ok {g : α → β} (h : ∀ x ∈ xs, f x = .ok (g x)) : xs.mapM f = .ok (xs.map g) := by
  induction xs with
  | nil => rfl
  | cons x xs ih =>
    rw [List.mapM_cons, h x List.mem_cons_self, ih fun x hx => h x (List.mem_cons_of_mem _ hx)]
    rfl

/-- Steps that can each be undone are undone one after the other: the results are those
    from which the items come. -/
theorem mapM_eq_ok_iff_map {g : β → α} {P : β → Prop}
    (h : ∀ x y, f x = .ok y ↔ P y ∧ g y = x) (ys : List β) :
    xs.mapM f = .ok ys ↔ (∀ y ∈ ys, P y) ∧ ys.map g = xs := by
  induction xs generalizing ys with
  | nil => cases ys <;> simp [pure, Except.pure]
  | cons x xs ih =>
    rw [List.mapM_cons, bind_eq_ok_iff]
    simp only [h, bind_eq_ok_iff, ih]
    constructor
    · rintro ⟨y, ⟨hy, rfl⟩, ys, ⟨hys, rfl⟩, hcons⟩
      obtain rfl := Except.ok.inj hcons
      exact ⟨List.forall_mem_cons.2 ⟨hy, hys⟩, rfl⟩
    · rintro ⟨hall, hmap⟩
      cases ys with
      | nil => contradiction
      | cons y ys =>
        obtain ⟨rfl, rfl⟩ := List.cons.inj hmap
        obtain ⟨hy, hys⟩ := List.forall_mem_cons.1 hall
        exact ⟨y, ⟨hy, rfl⟩, ys, ⟨hys, rfl⟩, rfl⟩

/-- Steps one after the other succeed together where each of them does. -/
theorem exists_mapM_eq_ok_iff : (∃ ys, xs.mapM f = .ok ys) ↔ ∀ x ∈ xs, ∃ y, f x = .ok y := by
  induction xs with
  | nil => simp [List.mapM_nil, pure, Except.pure]
  | cons x xs ih =>
    rw [List.forall_mem_cons, ← ih, List.mapM_cons]
    cases f x with
    | error e => simp [bind, Except.bind]
    | ok y => cases xs.mapM f <;> simp [bind, Except.bind, pure, Except.pure]

/-- Steps one after the other fail at the first one that does. -/
theorem mapM_eq_error_iff : xs.mapM f = .error e ↔ ∃ before x after, xs = before ++ x :: after ∧
    (∀ y ∈ before, ∃ b, f y = .ok b) ∧ f x = .error e := by
  induction xs with
  | nil =>
    rw [List.mapM_nil]
    exact iff_of_false (by simp [pure, Except.pure]) (by simp)
  | cons x xs ih =>
    rw [List.mapM_cons, bind_eq_error_iff]
    simp only [bind_pure_eq_error_iff, ih]
    constructor
    · rintro (hx | ⟨b, hb, before, y, after, rfl, hbefore, hy⟩)
      · exact ⟨[], x, xs, rfl, List.forall_mem_nil _, hx⟩
      · exact ⟨x :: before, y, after, rfl, List.forall_mem_cons.2 ⟨⟨b, hb⟩, hbefore⟩, hy⟩
    · rintro ⟨_ | ⟨z, before⟩, y, after, heq, hbefore, hy⟩
      · obtain ⟨rfl, rfl⟩ := List.cons.inj heq
        exact .inl hy
      · obtain ⟨rfl, rfl⟩ := List.cons.inj heq
        obtain ⟨⟨b, hb⟩, hbefore⟩ := List.forall_mem_cons.1 hbefore
        exact .inr ⟨b, hb, before, y, after, rfl, hbefore, hy⟩

end

end Depot
