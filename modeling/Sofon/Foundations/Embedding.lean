import Sofon.Foundations.Pool
import Mathlib.Data.List.Infix
import Mathlib.Logic.Equiv.Defs

/-!
# Programs inside larger programs, and what has happened so far

A program over a few commands is a program over more of them.  An `Embedding` says which
command stands for which, and `Program.embed` carries a program along, call by call and part by
part (`embed_call`, `embed_bind`).  So a handler of one service can be followed as a program over
the commands of the whole server, without being written a second time, and what it issues is what
it issued as a small program (`Only.embed`).

## Rules about the past

Some rules about a program are rules about its past: this command may be issued only after
that one was answered so.  Such a rule `G` is a protocol whose state is the trace
(`Protocol.history`).  A rule is usually monotone, so that what is allowed after a trace is
allowed after every longer one, and `Answered` is built so that it is.

Each thread of an interleaving keeps its own rule (`Pool.Reaches.history`), so of every command in
a trace it can be said by what right it was issued (`Keeps.answered`).  An invariant of the state
and of all traces is shown with the rule at hand at every step
(`Reaches.invariant_history`), and what a thread of an interleaving returns is what its program
returns by itself (`Reaches.follows`).
-/

universe u u' v w x y

namespace Interleaving

/-- A set of commands inside another one, with the same answers. -/
structure Embedding (C : Type u) (R : C → Type v) (C' : Type u') (R' : C' → Type v) where
  cmd : C → C'
  resp : ∀ c, R c ≃ R' (cmd c)

variable {C : Type u} {R : C → Type v} {C' : Type u'} {R' : C' → Type v} {α β : Type w}
  {σ : Type x} {Q : Type y}

namespace Program

variable {ι : Embedding C R C' R'}

/-- The program over the larger set. -/
def embed (ι : Embedding C R C' R') : Program C R α → Program C' R' α
  | ret a => ret a
  | call c k => call (ι.cmd c) fun r => (k ((ι.resp c).symm r)).embed ι

@[simp] theorem embed_ret (a : α) : (ret a : Program C R α).embed ι = ret a := rfl

@[simp] theorem embed_call (c : C) (k : R c → Program C R α) :
    (call c k).embed ι = call (ι.cmd c) fun r => (k ((ι.resp c).symm r)).embed ι := rfl

/-- A sequence is embedded part by part. -/
@[simp] theorem embed_bind (p : Program C R α) (f : α → Program C R β) :
    (p >>= f).embed ι = p.embed ι >>= fun a => (f a).embed ι := by
  induction p with
  | ret a => rfl
  | call c k ih =>
    rw [call_bind, embed_call, embed_call, call_bind]
    congr 1
    funext r
    exact ih _

/-- An embedded program issues embedded commands. -/
theorem Only.embed {S : C' → Prop} {p : Program C R α} (hp : p.Only fun c => S (ι.cmd c)) :
    (p.embed ι).Only S := by
  induction p with
  | ret a => trivial
  | call c k ih => exact ⟨hp.1, fun r => ih _ (hp.2 _)⟩

end Program

/-! ## Rules about the past -/

section Past

/-- The command has been answered so. -/
def Answered (tr : List (Event C R)) (c : C) (r : R c) : Prop := (⟨c, r⟩ : Event C R) ∈ tr

variable {tr tr' : List (Event C R)} {c : C} {r : R c} {e : Event C R}

theorem Answered.here : Answered (tr ++ [⟨c, r⟩]) c r :=
  List.mem_append_right _ (List.mem_singleton_self _)

theorem Answered.mono (h : Answered tr c r) (hpre : tr <+: tr') : Answered tr' c r :=
  hpre.subset h

theorem Answered.later (h : Answered tr c r) : Answered (tr ++ [e]) c r :=
  List.mem_append_left _ h

/-- Of several programs with these traces, the one with number `i` has issued the command. -/
def Issued (logs : List (List (Event C R))) (i : ℕ) (c : C) : Prop :=
  ∃ tr r, logs[i]? = some tr ∧ Answered tr c r

variable {logs : List (List (Event C R))} {i j : ℕ}

/-- The traces grow at a step of one of the programs. -/
theorem prefix_of_set (hi : logs[i]? = some tr) (hj : logs[j]? = some tr') :
    ∃ tr'', (logs.set i (tr ++ [e]))[j]? = some tr'' ∧ tr' <+: tr'' := by
  by_cases hij : i = j
  · subst hij
    obtain rfl := Option.some.inj (hi.symm.trans hj)
    obtain ⟨hlt, -⟩ := List.getElem?_eq_some_iff.mp hi
    exact ⟨_, List.getElem?_set_self hlt, List.prefix_append _ _⟩
  · exact ⟨tr', (List.getElem?_set_ne hij).trans hj, List.prefix_refl _⟩

theorem Issued.set (h : Issued logs j c) (hi : logs[i]? = some tr) :
    Issued (logs.set i (tr ++ [e])) j c := by
  obtain ⟨tr', r, hj, hc⟩ := h
  obtain ⟨tr'', hj', hpre⟩ := prefix_of_set hi hj
  exact ⟨tr'', r, hj', hc.mono hpre⟩

/-- The command of a step has been issued. -/
theorem issued_here (hi : logs[i]? = some tr) : Issued (logs.set i (tr ++ [⟨c, r⟩])) i c := by
  obtain ⟨hlt, -⟩ := List.getElem?_eq_some_iff.mp hi
  exact ⟨_, r, List.getElem?_set_self hlt, Answered.here⟩

end Past

/-- The protocol of a rule: after the trace `tr` the command `c` may be issued if `G tr c`. -/
def Protocol.history (A : Event C R → Prop) (G : List (Event C R) → C → Prop) :
    Protocol C R (List (Event C R)) where
  start := []
  next tr e := tr ++ [e]
  allows := G
  answers := A

/-- Every command of the trace was issued by the rule, after what is before it. -/
def Keeps (G : List (Event C R) → C → Prop) (tr : List (Event C R)) : Prop :=
  ∀ tr₁ e tr₂, tr = tr₁ ++ e :: tr₂ → G tr₁ e.cmd

variable {A : Event C R → Prop} {G G' : List (Event C R) → C → Prop}

theorem keeps_nil : Keeps G [] := by
  intro tr₁ e tr₂ h
  exact absurd h.symm (List.append_ne_nil_of_right_ne_nil _ (List.cons_ne_nil _ _))

/-- One more command. -/
theorem Keeps.concat {tr : List (Event C R)} {e : Event C R} (h : Keeps G tr) (he : G tr e.cmd) :
    Keeps G (tr ++ [e]) := by
  intro tr₁ e₁ tr₂ heq
  rcases List.eq_nil_or_concat tr₂ with rfl | ⟨tr₃, e₂, rfl⟩
  · obtain ⟨rfl, hcons⟩ := List.append_inj' heq rfl
    obtain ⟨rfl, -⟩ := List.cons.inj hcons
    exact he
  · rw [List.concat_eq_append, ← List.cons_append, ← List.append_assoc] at heq
    obtain ⟨rfl, -⟩ := List.append_inj' heq rfl
    exact h tr₁ e₁ tr₃ rfl

/-- A command of the trace was issued by the rule, after a part of the trace. -/
theorem Keeps.answered {tr : List (Event C R)} {c : C} {r : R c} (h : Keeps G tr)
    (hc : Answered tr c r) : ∃ tr₁, tr₁ <+: tr ∧ G tr₁ c := by
  obtain ⟨tr₁, tr₂, htr⟩ := List.append_of_mem hc
  exact ⟨tr₁, ⟨_, htr.symm⟩, h tr₁ _ tr₂ htr⟩

namespace Protocol

theorem state_history (A : Event C R → Prop) (G : List (Event C R) → C → Prop)
    (tr : List (Event C R)) : (history A G).state tr = tr := by
  induction tr using List.reverseRecOn with
  | nil => rfl
  | append_singleton tr e ih => rw [state_append, ih]; rfl

end Protocol

namespace Program

variable {p : Program C R α} {q : List (Event C R)} {fin : α → List (Event C R) → Prop}

/-- Commands that may always be issued from here on may be issued. -/
theorem Only.history (hp : p.Only fun c => ∀ tr, q <+: tr → G tr c) :
    p.Follows (Protocol.history A G) (fun _ _ => True) q :=
  (hp.follows_of_keeps (J := fun tr => q <+: tr) (fun _ tr hc hpre =>
    ⟨hc tr hpre, fun _ _ => hpre.trans (List.prefix_append _ _)⟩) (List.prefix_refl q)).mono
      fun _ _ _ => trivial

theorem follows_grows (p : Program C R α) (q : List (Event C R)) :
    p.Follows (Protocol.history A fun _ _ => True) (fun _ tr => q <+: tr) q := by
  induction p generalizing q with
  | ret a => exact List.prefix_refl q
  | call c k ih =>
    refine ⟨trivial, fun r _ => (ih r _).mono fun _ _ hpre => ?_⟩
    exact (List.prefix_append _ _).trans hpre

/-- A rule that allows more from here on. -/
theorem Follows.allow (hp : p.Follows (Protocol.history A G) fin q)
    (hG : ∀ tr c, q <+: tr → G tr c → G' tr c) : p.Follows (Protocol.history A G') fin q := by
  induction p generalizing q with
  | ret a => exact hp
  | call c k ih =>
    exact ⟨hG q c (List.prefix_refl q) hp.1, fun r hr => ih r (hp.2 r hr) fun tr c' hpre =>
      hG tr c' ((List.prefix_append _ _).trans hpre)⟩

end Program

namespace Pool

/-- **Each thread of an interleaving keeps its rule.** -/
theorem Reaches.history {service : σ → (c : C) → R c → σ → Prop}
    {guard : Pool C R α σ → ℕ → Event C R → Prop} {G : ℕ → List (Event C R) → C → Prop} {s : σ}
    {ps : List (Program C R α)} {p : Pool C R α σ} (h : Reaches service guard (Pool.start s ps) p)
    (hA : ∀ s c r s', service s c r s' → A ⟨c, r⟩)
    (hps : ∀ (i : ℕ) (q : Program C R α), ps[i]? = some q →
      q.Follows (Protocol.history A (G i)) (fun _ _ => True) []) :
    ∀ (i : ℕ) (t : Thread C R α), p.threads[i]? = some t → Keeps (G i) t.log := by
  refine (h.induction (I := fun p => Obeys (fun i => Protocol.history A (G i)) p ∧
    ∀ (i : ℕ) (t : Thread C R α), p.threads[i]? = some t → Keeps (G i) t.log)
    ⟨obeys_start hps, fun i t ht => ?_⟩ ?_).2
  · rw [start, List.getElem?_map] at ht
    obtain ⟨_, -, rfl⟩ := Option.map_eq_some_iff.mp ht
    exact keeps_nil
  · rintro p i e p' hs - ⟨hobeys, hkeeps⟩
    obtain ⟨hobeys', t, t', ht, -, hallow, hset, hlog⟩ :=
      obeys_step hs hobeys (hA _ _ _ _ hs.serves)
    refine ⟨hobeys', fun j x hx => ?_⟩
    rw [hset] at hx
    obtain ⟨rfl, rfl⟩ | ⟨-, hx⟩ := thread_of_set hx
    · rw [Protocol.state_history] at hallow
      rw [hlog]
      exact (hkeeps _ t ht).concat hallow
    · exact hkeeps j x hx

/-- **A thread of an interleaving, by itself**: it obeys the protocol of its program, and what
every allowed command keeps holds of its trace. -/
theorem Reaches.thread {service : σ → (c : C) → R c → σ → Prop}
    {guard : Pool C R α σ → ℕ → Event C R → Prop} {P : Protocol C R Q} {fin : α → Q → Prop}
    {K : Q → List (Event C R) → Prop} {s : σ} {ps : List (Program C R α)} {p : Pool C R α σ}
    {i : ℕ} {q : Program C R α} (h : Reaches service guard (Pool.start s ps) p)
    (hans : ∀ s c r s', service s c r s' → P.answers ⟨c, r⟩) (hi : ps[i]? = some q)
    (hq : q.Follows P fin P.start) (h₀ : K P.start [])
    (hK : ∀ q log e, P.allows q e.cmd → K q log → K (P.next q e) (log ++ [e]))
    {t : Thread C R α} (ht : p.threads[i]? = some t) :
    t.todo.Follows P fin (P.state t.log) ∧ K (P.state t.log) t.log := by
  refine h.induction (I := fun p => ∀ t, p.threads[i]? = some t →
    t.todo.Follows P fin (P.state t.log) ∧ K (P.state t.log) t.log) (fun t ht => ?_) ?_ t ht
  · rw [start, List.getElem?_map, hi] at ht
    obtain rfl := Option.some.inj ht
    exact ⟨hq, h₀⟩
  · rintro p j e p' hs - hp t ht
    obtain @⟨c, k, log, r, s', hj, hc⟩ := hs
    obtain ⟨rfl, rfl⟩ | ⟨-, ht⟩ := thread_of_set ht
    · obtain ⟨hfollows, hlog⟩ := hp _ hj
      rw [Protocol.state_append]
      exact ⟨hfollows.2 r (hans _ _ _ _ hc), hK _ _ _ hfollows.1 hlog⟩
    · exact hp t ht

/-- **What a thread of an interleaving returns** is what its program returns by itself. -/
theorem Reaches.follows {service : σ → (c : C) → R c → σ → Prop}
    {guard : Pool C R α σ → ℕ → Event C R → Prop} {P : Protocol C R Q} {fin : α → Q → Prop}
    {s : σ} {ps : List (Program C R α)} {p : Pool C R α σ} {i : ℕ} {q : Program C R α}
    (h : Reaches service guard (Pool.start s ps) p)
    (hans : ∀ s c r s', service s c r s' → P.answers ⟨c, r⟩) (hi : ps[i]? = some q)
    (hq : q.Follows P fin P.start) {t : Thread C R α} (ht : p.threads[i]? = some t) :
    t.todo.Follows P fin (P.state t.log) :=
  (h.thread (K := fun _ _ => True) hans hi hq trivial (fun _ _ _ _ _ => trivial) ht).1

theorem Reaches.length_threads {service : σ → (c : C) → R c → σ → Prop}
    {guard : Pool C R α σ → ℕ → Event C R → Prop} {p p' : Pool C R α σ}
    (h : Reaches service guard p p') : p'.threads.length = p.threads.length := by
  refine h.induction (I := fun p' => p'.threads.length = p.threads.length) rfl ?_
  rintro p₁ i e p₂ ⟨hi, hc⟩ - hlength
  exact List.length_set.trans hlength

theorem log_of_thread {p : Pool C R α σ} {i : ℕ} {t : Thread C R α}
    (ht : p.threads[i]? = some t) : (p.threads.map Thread.log)[i]? = some t.log := by
  rw [List.getElem?_map, ht]
  rfl

/-- With rules about the past, the stages are the traces. -/
theorem stages_history (A : Event C R → Prop) (G : ℕ → List (Event C R) → C → Prop)
    (p : Pool C R α σ) : p.stages (fun i => Protocol.history A (G i)) =
      p.threads.map Thread.log := by
  unfold stages
  refine List.ext_getElem? fun i => ?_
  rw [List.getElem?_mapIdx, List.getElem?_map]
  simp only [Protocol.state_history]

/-- **The invariant rule**, when each thread has a rule about its past. -/
theorem Reaches.invariant_history {service : σ → (c : C) → R c → σ → Prop}
    {guard : Pool C R α σ → ℕ → Event C R → Prop} {G : ℕ → List (Event C R) → C → Prop}
    {J : σ → List (List (Event C R)) → Prop} {p p' : Pool C R α σ}
    (h : Reaches service guard p p') (hobeys : Obeys (fun i => Protocol.history A (G i)) p)
    (hA : ∀ s c r s', service s c r s' → A ⟨c, r⟩) (h₀ : J p.shared (p.threads.map Thread.log))
    (hJ : ∀ {s logs i log c r s'}, J s logs → logs[i]? = some log → G i log c →
      service s c r s' → J s' (logs.set i (log ++ [⟨c, r⟩]))) :
    Obeys (fun i => Protocol.history A (G i)) p' ∧ J p'.shared (p'.threads.map Thread.log) := by
  have hinvariant := h.invariant_obeys (P := fun i => Protocol.history A (G i)) (I := J) hobeys
    (by rwa [stages_history]) (fun _ _ _ _ _ hserves => hA _ _ _ _ hserves)
    fun _ _ _ _ _ _ hserves hlog hallow hbefore => hJ hbefore hlog hallow hserves
  rwa [stages_history] at hinvariant

end Pool

end Interleaving
