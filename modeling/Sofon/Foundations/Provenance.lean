import Sofon.Foundations.Embedding

/-!
# Where things come from

What holds at the end of a run and did not hold at its beginning has been brought about on the
way.  `BringsAbout` says by whom: by thread `i`, with the command `c`, issued after the trace
`tr`.  Before that step the fact did not hold, and after it it did, so it is no matter of
whether the command was answered well: a command that had no effect brings nothing about, and
one whose answer was lost may.

Two questions can be asked of a run then.

* Who has brought this about?  There always is somebody (`Reaches.bringsAbout`), and the trace
  `tr` tells what that thread had been through by then.
* Where has a thread got an answer from?  From a step of the run
  (`Reaches.exists_step_of_answered`), hence from the shared state of some pool on the way; and
  of that state the first question can be asked again (`BringsAbout.trans`).

So facts are traced back through the run, from the threads to the shared state and from the
shared state to the threads, without an invariant that would have to foresee the questions.
-/

universe u v w x

namespace Interleaving

namespace Pool

variable {C : Type u} {R : C → Type v} {α : Type w} {σ : Type x}
  {service : σ → (c : C) → R c → σ → Prop} {guard : Pool C R α σ → ℕ → Event C R → Prop}
  {p p' p'' : Pool C R α σ} {i : ℕ} {tr : List (Event C R)} {c : C} {e : Event C R}

/-- **Thread `i` brings `T` about** on the way from `p` to `p'`, with the command `c` that it
issues after the trace `tr`. -/
def BringsAbout (service : σ → (c : C) → R c → σ → Prop)
    (guard : Pool C R α σ → ℕ → Event C R → Prop) (T : σ → Prop) (p p' : Pool C R α σ) (i : ℕ)
    (tr : List (Event C R)) (c : C) : Prop :=
  ∃ p₁ r p₂, Reaches service guard p p₁ ∧ (p₁.threads.map Thread.log)[i]? = some tr ∧
    Step service p₁ i ⟨c, r⟩ p₂ ∧ Reaches service guard p₂ p' ∧ ¬ T p₁.shared ∧ T p₂.shared

/-- A step adds to the trace of its thread. -/
theorem Step.exists_log (hs : Step service p i e p') :
    ∃ tr, (p.threads.map Thread.log)[i]? = some tr ∧
      p'.threads.map Thread.log = (p.threads.map Thread.log).set i (tr ++ [e]) := by
  obtain ⟨hi, -⟩ := hs
  exact ⟨_, log_of_thread hi, List.map_set⟩

/-- **What a run has brought about, one of its threads has.** -/
theorem Reaches.bringsAbout {T : σ → Prop} (h : Reaches service guard p p')
    (h₀ : ¬ T p.shared) (h₁ : T p'.shared) : ∃ i tr c, BringsAbout service guard T p p' i tr c := by
  obtain ⟨p₁, i, e, p₂, hp₁, hs, -, hp₂, hbefore, hafter⟩ :=
    h.exists_step (T := fun p => T p.shared) h₀ h₁
  obtain ⟨tr, htr, -⟩ := hs.exists_log
  exact ⟨i, tr, e.cmd, p₁, e.resp, p₂, hp₁, htr, hs, hp₂, hbefore, hafter⟩

/-- It has done so as well when the run goes on. -/
theorem BringsAbout.trans {T : σ → Prop} (h : BringsAbout service guard T p p' i tr c)
    (h' : Reaches service guard p' p'') : BringsAbout service guard T p p'' i tr c := by
  obtain ⟨p₁, r, p₂, hp₁, htr, hs, hp₂, hT⟩ := h
  exact ⟨p₁, r, p₂, hp₁, htr, hs, Relation.ReflTransGen.trans hp₂ h', hT⟩

/-- **What a thread has been answered, it was answered on the way.** -/
theorem Reaches.exists_step_of_answered {s : σ} {ps : List (Program C R α)}
    (h : Reaches service guard (start s ps) p) (htr : (p.threads.map Thread.log)[i]? = some tr)
    (he : e ∈ tr) :
    ∃ p₁ p₂, Reaches service guard (start s ps) p₁ ∧ Step service p₁ i e p₂ ∧
      Reaches service guard p₂ p := by
  have hstart : ¬ ∃ tr, ((start s ps).threads.map Thread.log)[i]? = some tr ∧ e ∈ tr := by
    rintro ⟨tr₀, htr₀, he₀⟩
    obtain ⟨t, ht, rfl⟩ := List.mem_map.mp (List.mem_of_getElem? htr₀)
    obtain ⟨q, -, rfl⟩ := List.mem_map.mp ht
    cases he₀
  obtain ⟨p₁, j, e', p₂, hp₁, hs, -, hp₂, hbefore, tr₂, htr₂, he₂⟩ := h.exists_step
    (T := fun q => ∃ tr, (q.threads.map Thread.log)[i]? = some tr ∧ e ∈ tr) hstart ⟨tr, htr, he⟩
  obtain ⟨tr₁, htr₁, hset⟩ := hs.exists_log
  rw [hset] at htr₂
  by_cases hij : j = i
  · subst hij
    obtain ⟨hlt, -⟩ := List.getElem?_eq_some_iff.mp htr₁
    obtain rfl := Option.some.inj ((List.getElem?_set_self hlt).symm.trans htr₂)
    obtain hold | hnew := List.mem_append.mp he₂
    · exact absurd ⟨tr₁, htr₁, hold⟩ hbefore
    · obtain rfl := List.mem_singleton.mp hnew
      exact ⟨p₁, p₂, hp₁, hs, hp₂⟩
  · rw [List.getElem?_set_ne hij] at htr₂
    exact absurd ⟨tr₂, htr₂, he₂⟩ hbefore

end Pool

end Interleaving
