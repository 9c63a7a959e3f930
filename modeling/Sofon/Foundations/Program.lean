import Mathlib.Data.List.Basic
import Mathlib.Logic.Relation

/-!
# Programs over a set of commands

A program that talks to outside services is a tree: it either returns a value or
issues a command and continues with whatever the service answers.  Nothing in
the tree says what a command does.  That is the business of a *service*, a
relation saying which answers a command may get in a given state and which state
it leaves.  So one tree serves for every reading of the same code: run alone or
interleaved with others, with every command working or with any of them failing.

* `Program`: the trees, with their monad structure.
* `Program.Exec`: the terminated runs of a program, with the trace of the
  commands it issued and the answers it got.
* `Program.Returns`: a trace is that of such a run, whatever the service.
* `Program.run`: the runs, computed from a list of choices; `exec_run` says that
  the computation is a run.
* `Program.Only`: every command the program can issue satisfies a predicate.
* `Program.wp`: the weakest precondition for issuing each command in a state that suits it
  and for ending with a postcondition.
* `Program.Follows`: the program obeys a protocol, a finite automaton that reads
  the commands and their answers.

## Why protocols

An invariant of interleaved programs has to say how far each of them has got.
The tree has no program counter to say it with, but the trace does: a protocol
reads the trace, and its state is the program counter.  `Follows` is what makes
the reading exact, because it confines the commands that may come next.
-/

universe u v w x

namespace Interleaving

/-- A command together with the answer it got. -/
structure Event (C : Type u) (R : C → Type v) where
  cmd : C
  resp : R cmd

/-- A program over the commands `C`, where the command `c` is answered by a
value of type `R c`. -/
inductive Program (C : Type u) (R : C → Type v) (α : Type w) where
  | ret (a : α)
  | call (c : C) (k : R c → Program C R α)

namespace Program

variable {C : Type u} {R : C → Type v} {α β : Type w} {σ : Type x}

/-- Sequencing: the second program is grafted on the leaves of the first. -/
def bind : Program C R α → (α → Program C R β) → Program C R β
  | ret a, f => f a
  | call c k, f => call c fun r => (k r).bind f

instance : Monad (Program C R) where
  pure := ret
  bind := bind

/-- Issue one command and return its answer. -/
def perform {R : C → Type w} (c : C) : Program C R (R c) := call c ret

@[simp] theorem pure_eq (a : α) : (pure a : Program C R α) = ret a := rfl

@[simp] theorem ret_bind (a : α) (f : α → Program C R β) : (ret a >>= f) = f a := rfl

@[simp] theorem call_bind (c : C) (k : R c → Program C R α) (f : α → Program C R β) :
    (call c k >>= f) = call c fun r => k r >>= f := rfl

@[simp] theorem perform_bind {R : C → Type w} (c : C) (f : R c → Program C R β) :
    (perform c >>= f) = call c f := rfl

/-- Has the program returned? -/
def returned : Program C R α → Bool
  | ret _ => true
  | call _ _ => false

theorem returned_iff {p : Program C R α} : p.returned ↔ ∃ a, p = ret a := by
  cases p with
  | ret a => exact iff_of_true rfl ⟨a, rfl⟩
  | call c k => exact iff_of_false Bool.false_ne_true fun ⟨_, h⟩ => nomatch h

/-- The program `q` is what `p` goes on with after its next command. -/
inductive Continues : Program C R α → Program C R α → Prop
  | mk (c : C) (k : R c → Program C R α) (r : R c) : Continues (k r) (call c k)

/-- **A program issues its last command some time.** -/
theorem wellFounded_continues : WellFounded (Continues (C := C) (R := R) (α := α)) := by
  refine ⟨fun p => ?_⟩
  induction p with
  | ret a => exact Acc.intro _ fun q hq => nomatch hq
  | call c k ih =>
    refine Acc.intro _ fun q hq => ?_
    cases hq with
    | mk _ _ r => exact ih r

/-! ## Runs -/

/-- A terminated run: from the state `s` the program issues the commands of the
trace, gets the answers of the trace, returns `a` and leaves the state `s'`. -/
inductive Exec (service : σ → (c : C) → R c → σ → Prop) :
    Program C R α → σ → List (Event C R) → α → σ → Prop
  | ret (a : α) (s : σ) : Exec service (.ret a) s [] a s
  | call {c : C} {k : R c → Program C R α} {s s' s'' : σ} {r : R c}
      {tr : List (Event C R)} {a : α} (h : service s c r s')
      (hk : Exec service (k r) s' tr a s'') :
      Exec service (.call c k) s (⟨c, r⟩ :: tr) a s''

variable {service : σ → (c : C) → R c → σ → Prop}

@[simp] theorem exec_ret_iff {a b : α} {s s' : σ} {tr : List (Event C R)} :
    Exec service (.ret a) s tr b s' ↔ tr = [] ∧ b = a ∧ s' = s := by
  constructor
  · intro h
    cases h
    exact ⟨rfl, rfl, rfl⟩
  · rintro ⟨rfl, rfl, rfl⟩
    exact Exec.ret _ _

theorem exec_call_iff {c : C} {k : R c → Program C R α} {s s'' : σ}
    {tr : List (Event C R)} {a : α} :
    Exec service (.call c k) s tr a s'' ↔
      ∃ r s' tr', service s c r s' ∧ tr = ⟨c, r⟩ :: tr' ∧
        Exec service (k r) s' tr' a s'' := by
  constructor
  · intro h
    cases h with
    | call h hk => exact ⟨_, _, _, h, rfl, hk⟩
  · rintro ⟨r, s', tr', h, rfl, hk⟩
    exact Exec.call h hk

/-- **Runs of a sequence are runs of its parts**, one after the other. -/
theorem exec_bind_iff {p : Program C R α} {f : α → Program C R β} {s s'' : σ}
    {tr : List (Event C R)} {b : β} :
    Exec service (p >>= f) s tr b s'' ↔
      ∃ tr₁ a s' tr₂, Exec service p s tr₁ a s' ∧ Exec service (f a) s' tr₂ b s'' ∧
        tr = tr₁ ++ tr₂ := by
  constructor
  · intro h
    induction p generalizing s tr with
    | ret a => exact ⟨[], a, s, tr, Exec.ret a s, h, rfl⟩
    | call c k ih =>
      obtain ⟨r, s', tr', hc, rfl, hk⟩ := exec_call_iff.mp h
      obtain ⟨tr₁, a, t, tr₂, h₁, h₂, rfl⟩ := ih r hk
      exact ⟨⟨c, r⟩ :: tr₁, a, t, tr₂, Exec.call hc h₁, h₂, rfl⟩
  · rintro ⟨tr₁, a, s', tr₂, h₁, h₂, rfl⟩
    induction h₁ with
    | ret a s => exact h₂
    | call hc _ ih => exact Exec.call hc (ih h₂)

/-- A property of the state kept by every command of the program is kept by the
program. -/
theorem Exec.invariant {p : Program C R α} {s s' : σ} {tr : List (Event C R)} {a : α}
    (h : Exec service p s tr a s') {I : σ → Prop}
    (hI : ∀ e ∈ tr, ∀ t t', service t e.cmd e.resp t' → I t → I t') (hs : I s) : I s' := by
  induction h with
  | ret => exact hs
  | call hc _ ih =>
    exact ih (fun e he => hI e (List.mem_cons_of_mem _ he))
      (hI _ List.mem_cons_self _ _ hc hs)

/-- A run of one service is a run of another that does the same wherever an invariant
of the run holds. -/
theorem Exec.restrict {service' : σ → (c : C) → R c → σ → Prop} {J : σ → Prop}
    {p : Program C R α} {s s' : σ} {tr : List (Event C R)} {a : α}
    (h : Exec service p s tr a s')
    (hJ : ∀ s c r s', J s → service s c r s' → service' s c r s' ∧ J s') (hs : J s) :
    Exec service' p s tr a s' := by
  induction h with
  | ret a s => exact Exec.ret a s
  | call hc _ ih =>
    obtain ⟨hc', hJ'⟩ := hJ _ _ _ _ hs hc
    exact Exec.call hc' (ih hJ')

/-- With the answers of the trace, the program issues the commands of the trace and
returns `a`. -/
def Returns (p : Program C R α) (tr : List (Event C R)) (a : α) : Prop :=
  Exec (fun (_ : Unit) _ _ _ => True) p () tr a ()

/-! ## Computing a run -/

/-- The service of an interpreter: any choice `e` of the environment gives an
answer and a state. -/
def Interpreter {ι : Type*} (exec : ι → σ → (c : C) → R c × σ) (s : σ) (c : C) (r : R c)
    (s' : σ) : Prop := ∃ e, exec e s c = (r, s')

/-- Run a program, one choice for each command; the default choice stands in
when the list is exhausted. -/
def run {ι : Type*} [Inhabited ι] (exec : ι → σ → (c : C) → R c × σ) :
    List ι → Program C R α → σ → List (Event C R) × α × σ
  | _, .ret a, s => ([], a, s)
  | es, .call c k, s =>
    let x := exec es.headI s c
    let y := run exec es.tail (k x.1) x.2
    (⟨c, x.1⟩ :: y.1, y.2)

/-- **The computed run is a run.** -/
theorem exec_run {ι : Type*} [Inhabited ι] (exec : ι → σ → (c : C) → R c × σ) (es : List ι)
    (p : Program C R α) (s : σ) :
    Exec (Interpreter exec) p s (run exec es p s).1 (run exec es p s).2.1
      (run exec es p s).2.2 := by
  induction p generalizing es s with
  | ret a => exact Exec.ret a s
  | call c k ih => exact Exec.call ⟨es.headI, rfl⟩ (ih _ es.tail _)

/-- What follows a program may only have to make something of what it returned. -/
theorem run_bind_ret {ι : Type*} [Inhabited ι] {exec : ι → σ → (c : C) → R c × σ} {es : List ι}
    {p : Program C R α} {f : α → Program C R β} {s : σ} {b : β}
    (h : f (run exec es p s).2.1 = ret b) : (run exec es (p >>= f) s).2.1 = b := by
  induction p generalizing es s with
  | ret a =>
    have hret : f a = ret b := h
    rw [ret_bind, hret]
    rfl
  | call c k ih => exact ih _ h

/-- The states of the computed run, each with the command issued in it. -/
def visits {ι : Type*} [Inhabited ι] (exec : ι → σ → (c : C) → R c × σ) :
    Program C R α → List ι → σ → List (σ × C)
  | .ret _, _, _ => []
  | .call c k, es, s =>
    let x := exec es.headI s c
    (s, c) :: visits exec (k x.1) es.tail x.2

/-! ## The commands a program can issue -/

/-- Every command the program can issue, whatever the answers, satisfies `S`. -/
def Only (S : C → Prop) : Program C R α → Prop
  | ret _ => True
  | call c k => S c ∧ ∀ r, (k r).Only S

variable {S : C → Prop}

@[simp] theorem only_ret (a : α) : (ret a : Program C R α).Only S := trivial

@[simp] theorem only_call_iff {c : C} {k : R c → Program C R α} :
    (call c k).Only S ↔ S c ∧ ∀ r, (k r).Only S := Iff.rfl

theorem Only.bind {p : Program C R α} {f : α → Program C R β} (hp : p.Only S)
    (hf : ∀ a, (f a).Only S) : (p >>= f).Only S := by
  induction p with
  | ret a => exact hf a
  | call c k ih => exact ⟨hp.1, fun r => ih r (hp.2 r)⟩

theorem Only.mono {T : C → Prop} {p : Program C R α} (hp : p.Only S) (hST : ∀ c, S c → T c) :
    p.Only T := by
  induction p with
  | ret => trivial
  | call c k ih => exact ⟨hST c hp.1, fun r => ih r (hp.2 r)⟩

/-- What a program can issue bounds what it has issued. -/
theorem Exec.only {p : Program C R α} {s s' : σ} {tr : List (Event C R)} {a : α}
    (h : Exec service p s tr a s') (hp : p.Only S) : ∀ e ∈ tr, S e.cmd := by
  induction h with
  | ret => simp
  | call hc _ ih =>
    intro e he
    rcases List.mem_cons.mp he with rfl | he
    · exact hp.1
    · exact ih (hp.2 _) e he

/-! ## Weakest preconditions -/

/-- Run from the state `s`, whatever the service answers, the program issues each command
in a state in which `ok` holds of it, and if it returns, then with `post`. -/
def wp (service : σ → (c : C) → R c → σ → Prop) (ok : σ → C → Prop) :
    Program C R α → (α → σ → Prop) → σ → Prop
  | ret a, post, s => post a s
  | call c k, post, s => ok s c ∧ ∀ r s', service s c r s' → (k r).wp service ok post s'

variable {ok : σ → C → Prop}

@[simp] theorem wp_ret {post : α → σ → Prop} {a : α} {s : σ} :
    (ret a : Program C R α).wp service ok post s ↔ post a s := Iff.rfl

@[simp] theorem wp_call {post : α → σ → Prop} {c : C} {k : R c → Program C R α} {s : σ} :
    (call c k).wp service ok post s ↔
      ok s c ∧ ∀ r s', service s c r s' → (k r).wp service ok post s' := Iff.rfl

/-- **The rule of sequencing.** -/
theorem wp_bind {post : β → σ → Prop} {p : Program C R α} {f : α → Program C R β} {s : σ} :
    (p >>= f).wp service ok post s ↔
      p.wp service ok (fun a s' => (f a).wp service ok post s') s := by
  induction p generalizing s with
  | ret a => exact Iff.rfl
  | call c k ih => exact and_congr_right fun _ => forall₂_congr fun r s' =>
      imp_congr_right fun _ => ih r

theorem wp.mono {post post' : α → σ → Prop} {p : Program C R α} {s : σ}
    (h : p.wp service ok post s) (hpost : ∀ a s', post a s' → post' a s') :
    p.wp service ok post' s := by
  induction p generalizing s with
  | ret a => exact hpost a s h
  | call c k ih => exact ⟨h.1, fun r s' hc => ih r (h.2 r s' hc)⟩

theorem wp.weaken {ok' : σ → C → Prop} {post : α → σ → Prop} {p : Program C R α} {s : σ}
    (h : p.wp service ok post s) (hok : ∀ s c, ok s c → ok' s c) : p.wp service ok' post s := by
  induction p generalizing s with
  | ret a => exact h
  | call c k ih => exact ⟨hok s c h.1, fun r s' hc => ih r (h.2 r s' hc)⟩

/-- A service that answers less makes a precondition weaker. -/
theorem wp.restrict {service' : σ → (c : C) → R c → σ → Prop} {post : α → σ → Prop}
    {p : Program C R α} {s : σ} (h : p.wp service ok post s)
    (hle : ∀ s c r s', service' s c r s' → service s c r s') : p.wp service' ok post s := by
  induction p generalizing s with
  | ret a => exact h
  | call c k ih => exact ⟨h.1, fun r s' hc => ih r (h.2 r s' (hle s c r s' hc))⟩

/-- The computed run issues its commands where they are `ok`. -/
theorem wp.visits {ι : Type*} [Inhabited ι] {exec : ι → σ → (c : C) → R c × σ}
    {post : α → σ → Prop} {p : Program C R α} {s : σ} (h : p.wp (Interpreter exec) ok post s)
    (es : List ι) : ∀ x ∈ p.visits exec es s, ok x.1 x.2 := by
  induction p generalizing es s with
  | ret a => simp [Program.visits]
  | call c k ih =>
    intro x hx
    rcases List.mem_cons.mp hx with rfl | hx
    · exact h.1
    · exact ih _ (h.2 _ _ ⟨es.headI, rfl⟩) es.tail x hx

/-- **What a run shows of a weakest precondition**: every command of the run was issued in
a state in which it was `ok`, and the run ends with `post`. -/
theorem Exec.wp {post : α → σ → Prop} {p : Program C R α} {s s' : σ} {tr : List (Event C R)}
    {a : α} (h : Exec service p s tr a s') (hp : p.wp service ok post s) :
    Exec (fun s c r s' => service s c r s' ∧ ok s c) p s tr a s' ∧ post a s' := by
  induction h with
  | ret a s => exact ⟨Exec.ret a s, hp⟩
  | call hc _ ih =>
    obtain ⟨hrun, hpost⟩ := ih (hp.2 _ _ hc)
    exact ⟨Exec.call ⟨hc, hp.1⟩ hrun, hpost⟩

end Program

/-! ## Protocols -/

/-- A protocol: an automaton over commands and answers.  `allows` says which
commands may be issued in a state, `answers` which answers are to be expected. -/
structure Protocol (C : Type u) (R : C → Type v) (Q : Type x) where
  start : Q
  next : Q → Event C R → Q
  allows : Q → C → Prop
  answers : Event C R → Prop

namespace Protocol

variable {C : Type u} {R : C → Type v} {Q : Type x} {α β : Type w}

/-- The state the protocol is in after a trace. -/
def state (P : Protocol C R Q) (log : List (Event C R)) : Q := log.foldl P.next P.start

@[simp] theorem state_nil (P : Protocol C R Q) : P.state [] = P.start := rfl

@[simp] theorem state_append (P : Protocol C R Q) (log : List (Event C R)) (e : Event C R) :
    P.state (log ++ [e]) = P.next (P.state log) e := by
  simp [state]

/-- A protocol that remembers nothing. -/
def stateless (allowed : C → Prop) (answers : Event C R → Prop) : Protocol C R Unit where
  start := ()
  next _ _ := ()
  allows _ := allowed
  answers := answers

end Protocol

namespace Program

variable {C : Type u} {R : C → Type v} {Q : Type x} {α β : Type w}

/-- The program obeys the protocol from the state `q`: whatever the expected
answers, it issues allowed commands only, and it returns in a state and with a
value satisfying `fin`. -/
def Follows (P : Protocol C R Q) (fin : α → Q → Prop) : Program C R α → Q → Prop
  | ret a, q => fin a q
  | call c k, q => P.allows q c ∧
      ∀ r, P.answers ⟨c, r⟩ → (k r).Follows P fin (P.next q ⟨c, r⟩)

variable {P : Protocol C R Q}

@[simp] theorem follows_ret_iff {fin : α → Q → Prop} {a : α} {q : Q} :
    (ret a : Program C R α).Follows P fin q ↔ fin a q := Iff.rfl

@[simp] theorem follows_call_iff {fin : α → Q → Prop} {c : C} {k : R c → Program C R α} {q : Q} :
    (call c k).Follows P fin q ↔ P.allows q c ∧
      ∀ r, P.answers ⟨c, r⟩ → (k r).Follows P fin (P.next q ⟨c, r⟩) := Iff.rfl

/-- **A sequence obeys the protocol when its parts do**, the second from every
state the first can end in. -/
theorem follows_bind_iff {fin : β → Q → Prop} {p : Program C R α} {f : α → Program C R β}
    {q : Q} :
    (p >>= f).Follows P fin q ↔ p.Follows P (fun a q' => (f a).Follows P fin q') q := by
  induction p generalizing q with
  | ret a => exact Iff.rfl
  | call c k ih => exact and_congr_right fun _ => forall_congr' fun r =>
      imp_congr_right fun _ => ih r

theorem Follows.mono {fin fin' : α → Q → Prop} {p : Program C R α} {q : Q}
    (h : p.Follows P fin q) (hfin : ∀ a q', fin a q' → fin' a q') : p.Follows P fin' q := by
  induction p generalizing q with
  | ret a => exact hfin a q h
  | call c k ih => exact ⟨h.1, fun r hr => ih r (h.2 r hr)⟩

theorem Follows.bind {fin : α → Q → Prop} {fin' : β → Q → Prop} {p : Program C R α}
    {f : α → Program C R β} {q : Q} (hp : p.Follows P fin q)
    (hf : ∀ a q', fin a q' → (f a).Follows P fin' q') : (p >>= f).Follows P fin' q :=
  follows_bind_iff.mpr (hp.mono hf)

/-- A program whose commands are all allowed in `q` and leave `q` alone obeys the
protocol there without moving it. -/
theorem Only.follows {S : C → Prop} {p : Program C R α} {q : Q} (hp : p.Only S)
    (hallows : ∀ c, S c → P.allows q c) (hnext : ∀ c r, S c → P.next q ⟨c, r⟩ = q) :
    p.Follows P (fun _ q' => q' = q) q := by
  induction p with
  | ret a => exact rfl
  | call c k ih =>
    refine ⟨hallows c hp.1, fun r _ => ?_⟩
    rw [hnext c r hp.1]
    exact ih r (hp.2 r)

/-- A program whose commands are allowed while a property of the protocol's state holds,
and keep it, obeys the protocol and keeps it. -/
theorem Only.follows_of_keeps {S : C → Prop} {J : Q → Prop} {p : Program C R α} {q : Q}
    (hp : p.Only S)
    (hJ : ∀ c q, S c → J q → P.allows q c ∧ ∀ r, P.answers ⟨c, r⟩ → J (P.next q ⟨c, r⟩))
    (hq : J q) : p.Follows P (fun _ q' => J q') q := by
  induction p generalizing q with
  | ret a => exact hq
  | call c k ih =>
    obtain ⟨hallows, hnext⟩ := hJ c q hp.1 hq
    exact ⟨hallows, fun r hr => ih r (hp.2 r) (hnext r hr)⟩

/-- **A run of a program that obeys a protocol** ends in a state of the protocol that suits
it, and keeps every relation between the two states that each allowed command keeps. -/
theorem Exec.follows {σ : Type*} {service : σ → (c : C) → R c → σ → Prop}
    {fin : α → Q → Prop} {I : σ → Q → Prop} {p : Program C R α} {s s' : σ} {q : Q}
    {tr : List (Event C R)} {a : α} (h : Exec service p s tr a s') (hp : p.Follows P fin q)
    (hstep : ∀ s q c r s', I s q → P.allows q c → service s c r s' →
      P.answers ⟨c, r⟩ ∧ I s' (P.next q ⟨c, r⟩))
    (hs : I s q) : fin a (tr.foldl P.next q) ∧ I s' (tr.foldl P.next q) := by
  induction h generalizing q with
  | ret a s => exact ⟨hp, hs⟩
  | call hc _ ih =>
    obtain ⟨hallows, hnext⟩ := hp
    obtain ⟨hans, hI⟩ := hstep _ _ _ _ _ hs hallows hc
    exact ih (hnext _ hans) hI

/-- What a program can issue it may issue. -/
theorem Only.stateless {S : C → Prop} {answers : Event C R → Prop} {p : Program C R α}
    (hp : p.Only S) : p.Follows (Protocol.stateless S answers) (fun _ _ => True) () :=
  (hp.follows (fun _ hc => hc) fun _ _ _ => rfl).mono fun _ _ _ => trivial

end Program

end Interleaving
