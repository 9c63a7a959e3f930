import Sofon.Foundations.Embedding

/-!
# What has been written is read later

Threads of a pool write and read a state that they share.  `Pool.Reaches.visible` is the rule by
which it is shown that a write counts for whatever begins after it: there is a property `Φ` of
the state which the write brings about, which every step keeps, and under which some events do
not happen.  Then these are not in the trace of a thread that had not begun when the writer had
written.

An invariant `J` of the state and of all traces may be used at every step.

The proof goes through the run step by step.  Before the writer has written, the traces of the
threads that have not begun are empty; at the write the state gets to `Φ`, and there it stays; so
an event that a thread adds to its trace after that happens under `Φ`.
-/

universe u v w x

namespace Interleaving.Pool

variable {C : Type u} {R : C → Type v} {α : Type w} {σ : Type x}

/-- What is in a trace after a step. -/
theorem mem_set_concat {logs : List (List (Event C R))} {i j : ℕ} {log log' : List (Event C R)}
    {e e' : Event C R} (hi : logs[i]? = some log)
    (hj : (logs.set i (log ++ [e]))[j]? = some log') (he : e' ∈ log') :
    (∃ log₀, logs[j]? = some log₀ ∧ e' ∈ log₀) ∨ (j = i ∧ e' = e) := by
  by_cases hij : i = j
  · subst hij
    obtain ⟨hlt, -⟩ := List.getElem?_eq_some_iff.mp hi
    obtain rfl := Option.some.inj ((List.getElem?_set_self hlt).symm.trans hj)
    obtain hold | hnew := List.mem_append.mp he
    · exact Or.inl ⟨log, hi, hold⟩
    · exact Or.inr ⟨rfl, List.mem_singleton.mp hnew⟩
  · rw [List.getElem?_set_ne hij] at hj
    exact Or.inl ⟨log', hj, he⟩

variable {service : σ → (c : C) → R c → σ → Prop} {guard : Pool C R α σ → ℕ → Event C R → Prop}
  {A : Event C R → Prop} {G : ℕ → List (Event C R) → C → Prop}
  {J : σ → List (List (Event C R)) → Prop} {s : σ} {ps : List (Program C R α)}
  {p p' : Pool C R α σ} {Φ : σ → Prop} {W B : Event C R → Prop} {i j : ℕ}
  {log log' : List (Event C R)} {e : Event C R}

/-- **A write is visible later.**  If a command brings about `Φ`, which no command that may be
issued takes back, then a thread that has not yet begun when the write is answered reads nothing
that `Φ` excludes. -/
theorem Reaches.visible (h : Reaches service guard (start s ps) p)
    (h' : Reaches service guard p p') (hA : ∀ s c r s', service s c r s' → A ⟨c, r⟩)
    (hps : ∀ (i : ℕ) (q : Program C R α), ps[i]? = some q →
      q.Follows (Protocol.history A (G i)) (fun _ _ => True) [])
    (h₀ : ∀ logs : List (List (Event C R)), (∀ log ∈ logs, log = []) → J s logs)
    (hJ : ∀ {s logs i log c r s'}, J s logs → logs[i]? = some log → G i log c →
      service s c r s' → J s' (logs.set i (log ++ [⟨c, r⟩])))
    (hkeep : ∀ {s logs i log c r s'}, J s logs → logs[i]? = some log → G i log c →
      service s c r s' → Φ s → Φ s')
    (hwrite : ∀ {s logs log c r s'}, J s logs → logs[i]? = some log → G i log c →
      service s c r s' → W ⟨c, r⟩ → Φ s')
    (hread : ∀ {s c r s'}, service s c r s' → Φ s → ¬ B ⟨c, r⟩)
    (hi : (p.threads.map Thread.log)[i]? = some log) (he : e ∈ log) (hwritten : W e)
    (hj : (p.threads.map Thread.log)[j]? = some [])
    (hj' : (p'.threads.map Thread.log)[j]? = some log') : ∀ e ∈ log', ¬ B e := by
  have hempty : ∀ log ∈ (start s ps).threads.map Thread.log, log = [] := by
    intro log hlog
    obtain ⟨t, ht, rfl⟩ := List.mem_map.mp hlog
    obtain ⟨q, -, rfl⟩ := List.mem_map.mp ht
    rfl
  -- until then: if the writer has written, the property holds
  have huntil := h.invariant_history (G := G)
    (J := fun s logs => J s logs ∧ ∀ log e, logs[i]? = some log → e ∈ log → W e → Φ s)
    (obeys_start hps) hA ⟨h₀ _ hempty, fun log e hlog he => ?_⟩ ?_
  · obtain ⟨hobeys, hbefore, hset⟩ := huntil
    -- from then on: it holds, and the reader has not done what it forbids
    have hfrom := h'.invariant_history
      (J := fun s logs => J s logs ∧ Φ s ∧ ∀ log e, logs[j]? = some log → e ∈ log → ¬ B e)
      hobeys hA ⟨hbefore, hset log e hi he hwritten, fun log e hlog he => ?_⟩ ?_
    · obtain ⟨-, -, -, hreads⟩ := hfrom
      exact fun e he => hreads log' e hj' he
    · obtain rfl := Option.some.inj (hj.symm.trans hlog)
      cases he
    · rintro s logs k log c r s' ⟨hJs, hΦ, hreads⟩ hk hc hserves
      refine ⟨hJ hJs hk hc hserves, hkeep hJs hk hc hserves hΦ, fun log' e hlog' he => ?_⟩
      obtain ⟨log₀, hlog₀, hold⟩ | ⟨-, rfl⟩ := mem_set_concat hk hlog' he
      · exact hreads log₀ e hlog₀ hold
      · exact hread hserves hΦ
  · rw [hempty log (List.mem_of_getElem? hlog)] at he
    cases he
  · rintro s logs k log c r s' ⟨hJs, hset⟩ hk hc hserves
    refine ⟨hJ hJs hk hc hserves, fun log' e hlog' he hW => ?_⟩
    obtain ⟨log₀, hlog₀, hold⟩ | ⟨rfl, rfl⟩ := mem_set_concat hk hlog' he
    · exact hkeep hJs hk hc hserves (hset log₀ e hlog₀ hold hW)
    · exact hwrite hJs hk hc hserves hW

end Interleaving.Pool
