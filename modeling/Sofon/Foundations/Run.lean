import Mathlib.Data.List.Induction

/-!
# Runs of a transition relation

A transition relation `step s x t` moves from `s` to `t` under the label `x`.
`Runs step s l t` says that the labels `l`, in order, lead from `s` to `t`.

Runs grow at the end, so an induction over a run has the whole past at hand: an
invariant may speak of the labels so far (`Runs.induction`), and a statement
about the moment at which some label was met is a statement about a split of
the list (`runs_append_iff`, `Runs.at`).

A run whose steps all meet a condition is a run of a smaller relation, and
`Runs.mono` forgets the condition again.

`Settles` says of a state that no run goes on for ever, and what holds where it ends.
-/

universe u v

namespace Transition

variable {σ : Type u} {ℓ : Type v}

/-- The labels `l` lead from `s` to `t`. -/
inductive Runs (step : σ → ℓ → σ → Prop) (s : σ) : List ℓ → σ → Prop
  | nil : Runs step s [] s
  | snoc {l : List ℓ} {t u : σ} {x : ℓ} (h : Runs step s l t) (hx : step t x u) :
      Runs step s (l ++ [x]) u

variable {step : σ → ℓ → σ → Prop} {s t u : σ} {l l' : List ℓ} {x : ℓ}

@[simp] theorem runs_nil_iff : Runs step s [] t ↔ t = s := by
  constructor
  · intro h
    generalize hl : ([] : List ℓ) = l at h
    cases h with
    | nil => rfl
    | snoc h hx => simp at hl
  · rintro rfl
    exact Runs.nil

theorem runs_snoc_iff : Runs step s (l ++ [x]) u ↔ ∃ t, Runs step s l t ∧ step t x u := by
  constructor
  · intro h
    generalize hl : l ++ [x] = l' at h
    cases h with
    | nil => simp at hl
    | snoc h hx =>
      obtain ⟨rfl, hlast⟩ := List.append_inj' hl rfl
      obtain rfl := List.singleton_inj.mp hlast
      exact ⟨_, h, hx⟩
  · rintro ⟨t, h, hx⟩
    exact Runs.snoc h hx

theorem Runs.append (h : Runs step s l t) (h' : Runs step t l' u) : Runs step s (l ++ l') u := by
  induction h' with
  | nil => rwa [List.append_nil]
  | snoc _ hx ih =>
    rw [← List.append_assoc]
    exact Runs.snoc ih hx

/-- **A run splits wherever its labels do.** -/
theorem runs_append_iff : Runs step s (l ++ l') u ↔ ∃ t, Runs step s l t ∧ Runs step t l' u := by
  constructor
  · intro h
    induction l' using List.reverseRecOn generalizing u with
    | nil => exact ⟨u, by rwa [List.append_nil] at h, Runs.nil⟩
    | append_singleton l' x ih =>
      rw [← List.append_assoc] at h
      obtain ⟨v, hv, hx⟩ := runs_snoc_iff.mp h
      obtain ⟨t, ht, htv⟩ := ih hv
      exact ⟨t, ht, Runs.snoc htv hx⟩
  · rintro ⟨t, h, h'⟩
    exact h.append h'

theorem runs_singleton_iff : Runs step s [x] t ↔ step s x t := by
  constructor
  · intro h
    rw [← List.nil_append [x], runs_snoc_iff] at h
    obtain ⟨s', hs', hx⟩ := h
    rwa [runs_nil_iff.mp hs'] at hx
  · intro hx
    exact Runs.snoc (l := []) Runs.nil hx

theorem runs_cons_iff : Runs step s (x :: l) u ↔ ∃ t, step s x t ∧ Runs step t l u := by
  rw [← List.singleton_append, runs_append_iff]
  simp only [runs_singleton_iff]

/-- The moment at which a label was met. -/
theorem Runs.at (h : Runs step s (l ++ x :: l') u) :
    ∃ t t', Runs step s l t ∧ step t x t' ∧ Runs step t' l' u := by
  obtain ⟨t, ht, htu⟩ := runs_append_iff.mp h
  obtain ⟨t', hx, hl'⟩ := runs_cons_iff.mp htu
  exact ⟨t, t', ht, hx, hl'⟩

/-- **The run rule.**  What holds at the start and is kept by every step holds at
the end; a step may be looked at with the whole past. -/
theorem Runs.induction {I : List ℓ → σ → Prop} (h : Runs step s l t) (h₀ : I [] s)
    (hstep : ∀ l t x u, Runs step s l t → I l t → step t x u → I (l ++ [x]) u) : I l t := by
  induction h with
  | nil => exact h₀
  | snoc h hx ih => exact hstep _ _ _ _ h ih hx

/-- A property of the state kept by every step with a label of the run. -/
theorem Runs.invariant {I : σ → Prop} (h : Runs step s l t) (h₀ : I s)
    (hstep : ∀ x ∈ l, ∀ t u, step t x u → I t → I u) : I t := by
  induction h with
  | nil => exact h₀
  | snoc h hx ih =>
    refine hstep _ (by simp) _ _ hx (ih fun y hy => ?_)
    exact hstep y (List.mem_append_left _ hy)

theorem Runs.mono {step' : σ → ℓ → σ → Prop} (h : Runs step s l t)
    (hmono : ∀ t x u, step t x u → step' t x u) : Runs step' s l t := by
  induction h with
  | nil => exact Runs.nil
  | snoc _ hx ih => exact Runs.snoc ih (hmono _ _ _ hx)

/-- What every step says of its label holds of every label of a run. -/
theorem Runs.forall_label {P : ℓ → Prop} (h : Runs step s l t)
    (hP : ∀ t x u, step t x u → P x) : ∀ x ∈ l, P x := by
  induction h with
  | nil => simp
  | snoc _ hx ih =>
    intro y hy
    rcases List.mem_append.mp hy with hy | hy
    · exact ih y hy
    · rw [List.mem_singleton.mp hy]
      exact hP _ _ _ hx

/-- A run whose labels all meet a condition is a run of the steps that do. -/
theorem Runs.restrict {P : ℓ → Prop} (h : Runs step s l t) (hP : ∀ x ∈ l, P x) :
    Runs (fun s x t => step s x t ∧ P x) s l t := by
  induction h with
  | nil => exact Runs.nil
  | snoc _ hx ih =>
    refine Runs.snoc (ih fun y hy => hP y (List.mem_append_left _ hy)) ⟨hx, ?_⟩
    exact hP _ (List.mem_append_right _ (List.mem_singleton_self _))

/-! ## Runs that end -/

/-- Every run from `s` ends, and where one can go no further, `P` holds. -/
inductive Settles (step : σ → ℓ → σ → Prop) (P : σ → Prop) : σ → Prop
  | intro {s : σ} (hnext : ∀ x t, step s x t → Settles step P t)
      (hstuck : (∀ x t, ¬ step s x t) → P s) : Settles step P s

/-- **The rule of settling.**  Every step keeps an invariant and takes a measure down in
a well-founded order, and where the invariant holds and no step is left, `P` holds. -/
theorem settles_of_wellFounded {μ : Type*} {r : μ → μ → Prop} (hr : WellFounded r) (f : σ → μ)
    {I P : σ → Prop} (hstep : ∀ s x t, I s → step s x t → I t ∧ r (f t) (f s))
    (hstuck : ∀ s, I s → (∀ x t, ¬ step s x t) → P s) (hs : I s) : Settles step P s := by
  induction hm : f s using hr.induction generalizing s with
  | _ m ih =>
    subst hm
    refine Settles.intro (fun x t hx => ?_) (hstuck s hs)
    obtain ⟨ht, hless⟩ := hstep s x t hs hx
    exact ih _ hless ht rfl

/-- **What settles has a run to the end.** -/
theorem Settles.exists_runs {P : σ → Prop} (h : Settles step P s) :
    ∃ l t, Runs step s l t ∧ P t := by
  induction h with
  | @intro s hnext hstuck ih =>
    by_cases hstep : ∃ x t, step s x t
    · obtain ⟨x, t, hx⟩ := hstep
      obtain ⟨l, u, hl, hu⟩ := ih x t hx
      exact ⟨x :: l, u, runs_cons_iff.mpr ⟨t, hx, hl⟩, hu⟩
    · exact ⟨[], s, Runs.nil, hstuck fun x t hx => hstep ⟨x, t, hx⟩⟩

end Transition
