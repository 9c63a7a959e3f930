import Sofon.Foundations.Program

/-!
# Two runs side by side

Two runs of a program that begin in different states, with the same choices of the
environment.  They are in step as long as they make the same calls; what the calls return may
differ, and so may what is left of the two programs.

* `Lockstep`: the two make the same calls until both return, and a relation holds of what they
  return and of the states they leave.
* `Lockstep.bind`, `Only.lockstep`: the rules by which it is shown of larger programs.
* `Lockstep.run`: what it says of two computed runs.

`may` confines the choices.  It makes room for a relation that mentions them.
-/

universe u v w x y

namespace Interleaving.Program

variable {C : Type u} {R : C → Type v} {α β γ δ : Type w} {σ : Type x} {ι : Type y}

/-- **In step**: the two programs make the same calls, and in the end `post` holds. -/
def Lockstep (exec : ι → σ → (c : C) → R c × σ) (may : ι → Prop) (post : α → σ → β → σ → Prop) :
    Program C R α → Program C R β → σ → σ → Prop
  | .ret a, .ret b, s, s' => post a s b s'
  | .ret _, .call _ _, _, _ => False
  | .call c k, q, s, s' => ∃ k', q = .call c k' ∧ ∀ e, may e →
      Lockstep exec may post (k (exec e s c).1) (k' (exec e s' c).1) (exec e s c).2 (exec e s' c).2

variable {exec : ι → σ → (c : C) → R c × σ} {may : ι → Prop} {post : α → σ → β → σ → Prop}
  {p : Program C R α} {q : Program C R β} {s s' : σ}

@[simp] theorem lockstep_ret {a : α} {b : β} :
    Lockstep exec may post (ret a) (ret b) s s' ↔ post a s b s' := Iff.rfl

/-- One call. -/
theorem Lockstep.call {c : C} {k : R c → Program C R α} {k' : R c → Program C R β}
    (h : ∀ e, may e → Lockstep exec may post (k (exec e s c).1) (k' (exec e s' c).1)
      (exec e s c).2 (exec e s' c).2) :
    Lockstep exec may post (.call c k) (.call c k') s s' := ⟨k', rfl, h⟩

/-- **Sequencing.**  Two sequences run in lockstep if their first parts do, and their second parts
from whatever these return. -/
theorem Lockstep.bind {f : α → Program C R γ} {g : β → Program C R δ}
    {post' : γ → σ → δ → σ → Prop} (h : Lockstep exec may post p q s s')
    (hk : ∀ a t b t', post a t b t' → Lockstep exec may post' (f a) (g b) t t') :
    Lockstep exec may post' (p >>= f) (q >>= g) s s' := by
  induction p generalizing q s s' with
  | ret a =>
    cases q with
    | ret b => exact hk _ _ _ _ h
    | call c k => exact h.elim
  | call c k ih =>
    obtain ⟨k', rfl, h⟩ := h
    exact Lockstep.call fun e he => ih _ (h e he)

/-- **A program all of whose calls are answered alike** returns the same in both runs. -/
theorem Only.lockstep {S : C → Prop} {I : σ → σ → Prop} {p : Program C R α} (hp : p.Only S)
    (hstep : ∀ c, S c → ∀ e, may e → ∀ s s', I s s' →
      (exec e s c).1 = (exec e s' c).1 ∧ I (exec e s c).2 (exec e s' c).2) (hI : I s s') :
    Lockstep exec may (fun a t b t' => a = b ∧ I t t') p p s s' := by
  induction p generalizing s s' with
  | ret a => exact ⟨rfl, hI⟩
  | call c k ih =>
    refine Lockstep.call fun e he => ?_
    obtain ⟨hanswer, hnext⟩ := hstep c hp.1 e he s s' hI
    rw [← hanswer]
    exact ih _ (hp.2 _) hnext

/-- **Two computed runs.**  If the environment does the same to both programs, call by call, then
what they return and leave behind is related as the lockstep says. -/
theorem Lockstep.run [Inhabited ι] (h : Lockstep exec may post p q s s') (es : List ι)
    (hes : ∀ e ∈ es, may e) (hdefault : may default) :
    post (Program.run exec es p s).2.1 (Program.run exec es p s).2.2
      (Program.run exec es q s').2.1 (Program.run exec es q s').2.2 := by
  induction p generalizing q s s' es with
  | ret a =>
    cases q with
    | ret b => exact h
    | call c k => exact h.elim
  | call c k ih =>
    obtain ⟨k', rfl, h⟩ := h
    have hhead : may es.headI := by
      cases es with
      | nil => exact hdefault
      | cons e es => exact hes e List.mem_cons_self
    exact ih _ (h _ hhead) es.tail fun e he => hes e (List.mem_of_mem_tail he)

end Interleaving.Program
