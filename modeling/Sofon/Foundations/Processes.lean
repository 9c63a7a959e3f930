import Mathlib.Algebra.BigOperators.Group.List.Basic

/-!
# Lists of processes

The processes of a system are kept in a list.  A step moves one of them, from `g`
to `g'`, and may start new ones: the list `l` becomes `l.set i g' ++ new`.

Three kinds of statement are carried over such a step:

* what holds of every process (`forall_mem_step`, and `forall_mem_join` when one
  joins from outside);
* what some process does (`mem_step`): the one that moved, or one that still does it;
* what the processes add up to (`total`, `total_step`): counters, and the tokens
  they hold.
-/

universe u v

namespace Interleaving

variable {γ : Type u} {l new : List γ} {g g' : γ} {i : ℕ}

theorem forall_mem_step {J J' : γ → Prop} (hl : ∀ p ∈ l, J p) (hJ : ∀ p ∈ l, J p → J' p)
    (hg' : J' g') (hnew : ∀ p ∈ new, J' p) : ∀ p ∈ l.set i g' ++ new, J' p := by
  intro p hp
  rcases List.mem_append.mp hp with hp | hp
  · rcases List.mem_or_eq_of_mem_set hp with hp | rfl
    · exact hJ p hp (hl p hp)
    · exact hg'
  · exact hnew p hp

theorem forall_mem_join {J : γ → Prop} (hl : ∀ p ∈ l, J p) (hg : J g) : ∀ p ∈ l ++ [g], J p := by
  intro p hp
  rcases List.mem_append.mp hp with hp | hp
  · exact hl p hp
  · rwa [List.mem_singleton.mp hp]

/-- A process is the one that moves, or it is still there. -/
theorem mem_step (hi : l[i]? = some g) {p : γ} (hp : p ∈ l) : p = g ∨ p ∈ l.set i g' ++ new := by
  obtain ⟨j, hj⟩ := List.mem_iff_getElem?.mp hp
  by_cases hij : i = j
  · subst hij
    exact Or.inl (Option.some.inj (hj.symm.trans hi))
  · refine Or.inr (List.mem_append_left _ (List.mem_iff_getElem?.mpr ⟨j, ?_⟩))
    exact (List.getElem?_set_ne hij).trans hj

theorem moved_mem_step (hi : l[i]? = some g) : g' ∈ l.set i g' ++ new :=
  List.mem_append_left _ (List.mem_set (List.getElem?_eq_some_iff.mp hi).1 _)

section Total

variable {M : Type v} [AddCommMonoid M] (f : γ → M)

/-- The sum over the processes. -/
def total (l : List γ) : M := (l.map f).sum

@[simp] theorem total_nil : total f [] = 0 := rfl

@[simp] theorem total_cons (p : γ) : total f (p :: l) = f p + total f l := by
  simp [total]

@[simp] theorem total_append (l' : List γ) : total f (l ++ l') = total f l + total f l' := by
  simp [total]

@[simp] theorem total_replicate (n : ℕ) (p : γ) : total f (List.replicate n p) = n • f p := by
  simp [total]

/-- **How a sum changes when one process moves.** -/
theorem total_step (hi : l[i]? = some g) :
    total f (l.set i g' ++ new) + f g = total f l + f g' + total f new := by
  have hset : total f (l.set i g') + f g = total f l + f g' := by
    induction l generalizing i with
    | nil => cases hi
    | cons p l ih =>
      cases i with
      | zero =>
        cases hi
        rw [List.set_cons_zero, total_cons, total_cons, add_right_comm, add_comm (f g')]
        exact add_right_comm _ _ _
      | succ i =>
        rw [List.set_cons_succ, total_cons, total_cons, add_assoc, ih hi, add_assoc]
  rw [total_append, add_right_comm, hset]

theorem total_eq_zero (h : ∀ p ∈ l, f p = 0) : total f l = 0 := by
  induction l with
  | nil => rfl
  | cons p l ih =>
    rw [total_cons, h p List.mem_cons_self, zero_add]
    exact ih fun q hq => h q (List.mem_cons_of_mem _ hq)

/-- What is asked of a sum can be asked of what each process adds to it. -/
theorem map_total {N : Type*} [AddCommMonoid N] (F : M →+ N) (l : List γ) :
    F (total f l) = total (fun p => F (f p)) l := by
  induction l with
  | nil => exact map_zero F
  | cons p l ih => rw [total_cons, total_cons, map_add, ih]

end Total

theorem le_total (f : γ → ℕ) {p : γ} (hp : p ∈ l) : f p ≤ total f l := by
  induction l with
  | nil => cases hp
  | cons q l ih =>
    rw [total_cons]
    rcases List.mem_cons.mp hp with rfl | hp
    · exact Nat.le_add_right _ _
    · have hle : f p ≤ total f l := ih hp
      omega

theorem total_mono {f f' : γ → ℕ} (h : ∀ p, f p ≤ f' p) (l : List γ) :
    total f l ≤ total f' l := by
  induction l with
  | nil => exact Nat.le_refl 0
  | cons p l ih =>
    rw [total_cons, total_cons]
    exact Nat.add_le_add (h p) ih

theorem total_add (f f' : γ → ℕ) (l : List γ) :
    total (fun p => f p + f' p) l = total f l + total f' l := List.sum_map_add

end Interleaving
