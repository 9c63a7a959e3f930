import Sofon.Foundations.Program

/-!
# Interleaved programs

A pool is a shared state and a list of threads; a step lets one thread issue its
next command.  Nothing is said about who goes next, so a statement about every
reachable pool is a statement about every interleaving.

A thread carries the trace of what it has done.  The invariants of a pool read
the threads through a protocol: the state of a thread is the state of the
protocol after its trace (`Pool.states`).  `Conforms` says that every thread
still obeys the protocol from there; it is kept by every step (`conforms_step`),
and `invariant` turns a property of the shared state and the list of protocol
states that every *allowed* command keeps into a property of every reachable
pool.

Steps can be restricted by a guard.  A theorem about guarded reachability is a
theorem about the runs all of whose steps meet a condition.
-/

universe u v w x y

namespace Interleaving

/-- What a thread still has to do, and what it has done. -/
structure Thread (C : Type u) (R : C → Type v) (α : Type w) where
  todo : Program C R α
  log : List (Event C R)

namespace Thread

variable {C : Type u} {R : C → Type v} {α : Type w}

/-- The thread has come from the program `p`: what it does from here on completes its trace
to one of `p`. -/
def From (p : Program C R α) (t : Thread C R α) : Prop :=
  ∀ tr a, t.todo.Returns tr a → p.Returns (t.log ++ tr) a

theorem from_start (p : Program C R α) : From p ⟨p, []⟩ := fun _ _ h => h

theorem From.call {p : Program C R α} {c : C} {k : R c → Program C R α} {log : List (Event C R)}
    (h : From p ⟨.call c k, log⟩) (r : R c) : From p ⟨k r, log ++ [⟨c, r⟩]⟩ := by
  intro tr a hk
  rw [List.append_assoc]
  exact h (⟨c, r⟩ :: tr) a (.call trivial hk)

/-- The trace of a thread that has come to its end. -/
theorem From.returns {p : Program C R α} {a : α} {log : List (Event C R)}
    (h : From p ⟨.ret a, log⟩) : p.Returns log a := by
  have hall := h [] a (.ret a ())
  rwa [List.append_nil] at hall

end Thread

/-- A shared state and the threads working on it. -/
structure Pool (C : Type u) (R : C → Type v) (α : Type w) (σ : Type x) where
  shared : σ
  threads : List (Thread C R α)

namespace Pool

variable {C : Type u} {R : C → Type v} {α : Type w} {σ : Type x} {Q : Type y}

/-- The pool in which the given programs are about to start. -/
def start (s : σ) (ps : List (Program C R α)) : Pool C R α σ := ⟨s, ps.map (⟨·, []⟩)⟩

/-- Thread `i` issues its next command and gets an answer: the event `e`. -/
inductive Step (service : σ → (c : C) → R c → σ → Prop) :
    Pool C R α σ → ℕ → Event C R → Pool C R α σ → Prop
  | mk {p : Pool C R α σ} {i : ℕ} {c : C} {k : R c → Program C R α}
      {log : List (Event C R)} {r : R c} {s' : σ}
      (hi : p.threads[i]? = some ⟨.call c k, log⟩) (hc : service p.shared c r s') :
      Step service p i ⟨c, r⟩ ⟨s', p.threads.set i ⟨k r, log ++ [⟨c, r⟩]⟩⟩

/-- The pools reached by steps that all meet the guard. -/
def Reaches (service : σ → (c : C) → R c → σ → Prop)
    (guard : Pool C R α σ → ℕ → Event C R → Prop) : Pool C R α σ → Pool C R α σ → Prop :=
  Relation.ReflTransGen fun p p' => ∃ i e, Step service p i e p' ∧ guard p i e

/-- Every thread has returned. -/
def Finished (p : Pool C R α σ) : Prop := ∀ t ∈ p.threads, ∃ a, t.todo = .ret a

variable {service : σ → (c : C) → R c → σ → Prop}
  {guard : Pool C R α σ → ℕ → Event C R → Prop}

theorem Step.serves {p p' : Pool C R α σ} {i : ℕ} {e : Event C R} (h : Step service p i e p') :
    service p.shared e.cmd e.resp p'.shared := by
  obtain ⟨hi, hc⟩ := h
  exact hc

/-- Every thread has returned, computed. -/
theorem finished_of_all {p : Pool C R α σ} (h : p.threads.all fun t => t.todo.returned) :
    p.Finished := by
  intro t ht
  exact Program.returned_iff.mp (List.all_eq_true.mp h t ht)

theorem Reaches.mono {guard' : Pool C R α σ → ℕ → Event C R → Prop} {p p' : Pool C R α σ}
    (h : Reaches service guard p p') (hg : ∀ p i e, guard p i e → guard' p i e) :
    Reaches service guard' p p' := by
  refine Relation.ReflTransGen.mono ?_ p p' h
  rintro _ _ ⟨i, e, hs, he⟩
  exact ⟨i, e, hs, hg _ _ _ he⟩

/-- A guarded run is a run. -/
theorem Reaches.unguarded {p p' : Pool C R α σ} (h : Reaches service guard p p') :
    Reaches service (fun _ _ _ => True) p p' := h.mono fun _ _ _ _ => trivial

/-- A property kept by every guarded step holds of every pool reached. -/
theorem Reaches.induction {I : Pool C R α σ → Prop} {p p' : Pool C R α σ}
    (h : Reaches service guard p p') (h₀ : I p)
    (hstep : ∀ p i e p', Step service p i e p' → guard p i e → I p → I p') : I p' := by
  induction h with
  | refl => exact h₀
  | tail _ hs ih =>
    obtain ⟨i, e, hs, hg⟩ := hs
    exact hstep _ _ _ _ hs hg ih

/-! ## Computing a run -/

section Play

variable {ι : Type*} (exec : ι → σ → (c : C) → R c × σ) (ok : Pool C R α σ → ℕ → Event C R → Bool)

/-- Let thread `i` take a step chosen by `x`; there is none if the thread has
returned or the step is not `ok`. -/
def advance (i : ℕ) (x : ι) (p : Pool C R α σ) : Option (Pool C R α σ) :=
  match p.threads[i]? with
  | some ⟨.call c k, log⟩ =>
    let y := exec x p.shared c
    if ok p i ⟨c, y.1⟩ then some ⟨y.2, p.threads.set i ⟨k y.1, log ++ [⟨c, y.1⟩]⟩⟩ else none
  | _ => none

/-- Play a schedule: which thread moves, and what the environment chooses. -/
def play : List (ℕ × ι) → Pool C R α σ → Option (Pool C R α σ)
  | [], p => some p
  | (i, x) :: rest, p => (advance exec ok i x p).bind (play rest)

variable {exec ok}

/-- **What a played step was.** -/
theorem advance_eq_some {i : ℕ} {x : ι} {p p' : Pool C R α σ}
    (h : advance exec ok i x p = some p') :
    ∃ c k log, p.threads[i]? = some ⟨.call c k, log⟩ ∧ ok p i ⟨c, (exec x p.shared c).1⟩ ∧
      p' = ⟨(exec x p.shared c).2, p.threads.set i
        ⟨k (exec x p.shared c).1, log ++ [⟨c, (exec x p.shared c).1⟩]⟩⟩ := by
  unfold advance at h
  split at h
  · rename_i c k log hi
    simp only [Option.ite_none_right_eq_some, Option.some.injEq] at h
    exact ⟨c, k, log, hi, h.1, h.2.symm⟩
  · cases h

theorem step_of_advance {i : ℕ} {x : ι} {p p' : Pool C R α σ}
    (h : advance exec ok i x p = some p') :
    ∃ e, Step (Program.Interpreter exec) p i e p' ∧ ok p i e := by
  obtain ⟨c, k, log, hi, hok, rfl⟩ := advance_eq_some h
  exact ⟨_, Step.mk hi ⟨x, rfl⟩, hok⟩

/-- **A played schedule reaches its outcome** by steps that are all `ok`. -/
theorem reaches_of_play {sched : List (ℕ × ι)} {p p' : Pool C R α σ}
    (h : play exec ok sched p = some p') :
    Reaches (Program.Interpreter exec) (fun p i e => ok p i e) p p' := by
  induction sched generalizing p with
  | nil =>
    cases h
    exact Relation.ReflTransGen.refl
  | cons m rest ih =>
    obtain ⟨q, hq, h⟩ := Option.bind_eq_some_iff.mp h
    obtain ⟨e, hs, hok⟩ := step_of_advance hq
    exact Relation.ReflTransGen.head ⟨m.1, e, hs, hok⟩ (ih h)

variable (exec ok)

/-- What can be checked of the outcome holds of a pool that is reached. -/
theorem exists_reaches_of_play (sched : List (ℕ × ι)) (p : Pool C R α σ)
    (check : Pool C R α σ → Bool) (h : (play exec ok sched p).any check) :
    ∃ p', Reaches (Program.Interpreter exec) (fun p i e => ok p i e) p p' ∧ check p' := by
  obtain ⟨p', hp', hcheck⟩ := (Option.any_eq_true _ _).mp h
  exact ⟨p', reaches_of_play hp', hcheck⟩

end Play

/-! ## Reading the threads through a protocol -/

/-- The protocol state of each thread. -/
def states (P : Protocol C R Q) (p : Pool C R α σ) : List Q :=
  p.threads.map fun t => P.state t.log

/-- Every thread obeys the protocol from the state its trace has led to. -/
def Conforms (P : Protocol C R Q) (fin : α → Q → Prop) (p : Pool C R α σ) : Prop :=
  ∀ t ∈ p.threads, t.todo.Follows P fin (P.state t.log)

variable {P : Protocol C R Q} {fin : α → Q → Prop}

theorem conforms_start {s : σ} {ps : List (Program C R α)}
    (h : ∀ q ∈ ps, q.Follows P fin P.start) : Conforms P fin (start s ps) := by
  intro t ht
  obtain ⟨q, hq, rfl⟩ := List.mem_map.mp ht
  exact h q hq

theorem states_start (s : σ) (ps : List (Program C R α)) :
    (start s ps).states P = List.replicate ps.length P.start := by
  simp [start, states, List.map_const', Function.comp_def]

/-- **What a step of a conforming pool does**: the command was allowed in the
state of the thread that issued it, only that thread's state moves, and the
pool still conforms. -/
theorem conforms_step {p p' : Pool C R α σ} {i : ℕ} {e : Event C R}
    (hs : Step service p i e p') (hp : Conforms P fin p) (he : P.answers e) :
    Conforms P fin p' ∧ service p.shared e.cmd e.resp p'.shared ∧
      ∃ q, (p.states P)[i]? = some q ∧ P.allows q e.cmd ∧
        p'.states P = (p.states P).set i (P.next q e) := by
  obtain @⟨c, k, log, r, s', hi, hc⟩ := hs
  have hf := hp _ (List.mem_of_getElem? hi)
  refine ⟨?_, hc, P.state log, ?_, hf.1, ?_⟩
  · intro t ht
    rcases List.mem_or_eq_of_mem_set ht with ht | rfl
    · exact hp t ht
    · rw [Protocol.state_append]
      exact hf.2 r he
  · rw [states, List.getElem?_map, hi]
    rfl
  · rw [states, states, List.map_set, Protocol.state_append]

/-- **The invariant rule.**  A property of the shared state and the protocol
states that holds at the start and is kept by every allowed command holds in
every pool reached by guarded steps. -/
theorem Reaches.invariant {I : σ → List Q → Prop} {p p' : Pool C R α σ}
    (h : Reaches service guard p p') (hp : Conforms P fin p) (h₀ : I p.shared (p.states P))
    (hans : ∀ p i e s', guard p i e → service p.shared e.cmd e.resp s' → P.answers e)
    (hstep : ∀ p i e s' q, guard p i e → service p.shared e.cmd e.resp s' →
      (p.states P)[i]? = some q → P.allows q e.cmd → I p.shared (p.states P) →
      I s' ((p.states P).set i (P.next q e))) :
    Conforms P fin p' ∧ I p'.shared (p'.states P) := by
  refine Reaches.induction (I := fun p => Conforms P fin p ∧ I p.shared (p.states P)) h
    ⟨hp, h₀⟩ ?_
  rintro p i e p' hs hg ⟨hp, hI⟩
  obtain ⟨hp', hc, q, hq, hal, hst⟩ := conforms_step hs hp (hans _ _ _ _ hg hs.serves)
  rw [hst]
  exact ⟨hp', hstep p i e _ q hg hc hq hal hI⟩

/-- A command that does not move its thread moves no protocol state. -/
theorem set_of_getElem? {qs : List Q} {i : ℕ} {q : Q} (h : qs[i]? = some q) : qs.set i q = qs := by
  obtain ⟨hi, rfl⟩ := List.getElem?_eq_some_iff.mp h
  exact List.set_getElem_self hi

/-- Moving one thread leaves the states of the others. -/
theorem mem_set_of_ne {qs : List Q} {i : ℕ} {q a b : Q} (h : qs[i]? = some q) (ha : a ∈ qs)
    (hne : a ≠ q) : a ∈ qs.set i b := by
  obtain ⟨j, hj⟩ := List.mem_iff_getElem?.mp ha
  have hij : i ≠ j := by
    rintro rfl
    exact hne (Option.some.inj (hj.symm.trans h))
  rw [List.mem_iff_getElem?]
  exact ⟨j, (List.getElem?_set_ne hij).trans hj⟩

/-- Moving one thread from `a` to `b` moves one from the count of `a`. -/
theorem count_set_add [DecidableEq Q] {qs : List Q} {i : ℕ} {q : Q} (h : qs[i]? = some q)
    (a b : Q) :
    (qs.set i b).count a + (if q = a then 1 else 0) = qs.count a + if b = a then 1 else 0 := by
  obtain ⟨hi, rfl⟩ := List.getElem?_eq_some_iff.mp h
  rw [List.count_set hi]
  by_cases hq : qs[i] = a
  · have hpos : 0 < qs.count a := List.count_pos_iff.mpr (hq ▸ List.getElem_mem hi)
    simp only [hq, beq_self_eq_true, if_true, beq_iff_eq]
    omega
  · simp only [beq_iff_eq, hq, if_false]
    omega

/-- In a finished pool every thread has returned in a final state. -/
theorem Conforms.finished {p : Pool C R α σ} (hp : Conforms P fin p) (hf : p.Finished) :
    ∀ q ∈ p.states P, ∃ a, fin a q := by
  intro q hq
  obtain ⟨t, ht, rfl⟩ := List.mem_map.mp hq
  obtain ⟨a, ha⟩ := hf t ht
  have h := hp t ht
  rw [ha] at h
  exact ⟨a, h⟩

/-! ## A protocol for each thread -/

/-- The threads after a step, seen by their number. -/
theorem thread_of_set {ts : List (Thread C R α)} {i j : ℕ} {t t' : Thread C R α}
    (h : (ts.set i t')[j]? = some t) : (j = i ∧ t = t') ∨ (j ≠ i ∧ ts[j]? = some t) := by
  by_cases hij : i = j
  · subst hij
    rw [List.getElem?_set_self'] at h
    obtain ⟨_, -, rfl⟩ := Option.map_eq_some_iff.mp h
    exact Or.inl ⟨rfl, rfl⟩
  · rw [List.getElem?_set_ne hij] at h
    exact Or.inr ⟨Ne.symm hij, h⟩

/-- Thread `i` obeys the protocol `P i` from the state its trace has led to. -/
def Obeys (P : ℕ → Protocol C R Q) (p : Pool C R α σ) : Prop :=
  ∀ (i : ℕ) (t : Thread C R α), p.threads[i]? = some t →
    t.todo.Follows (P i) (fun _ _ => True) ((P i).state t.log)

theorem obeys_start {P : ℕ → Protocol C R Q} {s : σ} {ps : List (Program C R α)}
    (h : ∀ (i : ℕ) (q : Program C R α), ps[i]? = some q →
      q.Follows (P i) (fun _ _ => True) (P i).start) : Obeys P (start s ps) := by
  intro i t ht
  rw [start, List.getElem?_map] at ht
  obtain ⟨q, hq, rfl⟩ := Option.map_eq_some_iff.mp ht
  exact h i q hq

/-- **What a step of such a pool does**: the thread had a call to make, its protocol
allowed it, and the call is added to the trace. -/
theorem obeys_step {P : ℕ → Protocol C R Q} {p p' : Pool C R α σ} {i : ℕ} {e : Event C R}
    (hs : Step service p i e p') (hp : Obeys P p) (he : (P i).answers e) :
    Obeys P p' ∧ ∃ t t', p.threads[i]? = some t ∧ t.todo.returned = false ∧
      (P i).allows ((P i).state t.log) e.cmd ∧ p'.threads = p.threads.set i t' ∧
      t'.log = t.log ++ [e] := by
  obtain @⟨c, k, log, r, s', hi, hc⟩ := hs
  have hf := hp i _ hi
  refine ⟨?_, _, _, hi, rfl, hf.1, rfl, rfl⟩
  intro j t ht
  obtain ⟨rfl, rfl⟩ | ⟨-, ht⟩ := thread_of_set ht
  · rw [Protocol.state_append]
    exact hf.2 r he
  · exact hp j t ht

/-- The state of each thread's own protocol. -/
def stages (P : ℕ → Protocol C R Q) (p : Pool C R α σ) : List Q :=
  p.threads.mapIdx fun i t => (P i).state t.log

theorem stages_getElem? (P : ℕ → Protocol C R Q) (p : Pool C R α σ) (i : ℕ) :
    (p.stages P)[i]? = p.threads[i]?.map fun t => (P i).state t.log := List.getElem?_mapIdx

theorem mem_stages_start {P : ℕ → Protocol C R Q} {s : σ} {ps : List (Program C R α)} {q : Q}
    (h : q ∈ (start s ps).stages P) : ∃ i, q = (P i).start := by
  obtain ⟨i, hi, rfl⟩ := List.mem_mapIdx.mp h
  exact ⟨i, by simp [start]⟩

/-- **What a step does to the stages**: the command was allowed in the stage of the thread
that issued it, and only that thread's stage moves. -/
theorem stages_step {P : ℕ → Protocol C R Q} {p p' : Pool C R α σ} {i : ℕ} {e : Event C R}
    (hs : Step service p i e p') (hp : Obeys P p) (he : (P i).answers e) :
    Obeys P p' ∧ ∃ q, (p.stages P)[i]? = some q ∧ (P i).allows q e.cmd ∧
      p'.stages P = (p.stages P).set i ((P i).next q e) := by
  obtain ⟨hp', t, t', ht, -, hal, hset, hlog⟩ := obeys_step hs hp he
  refine ⟨hp', (P i).state t.log, ?_, hal, ?_⟩
  · rw [stages_getElem?, ht]
    rfl
  · rw [stages, stages, hset, List.mapIdx_set, hlog, Protocol.state_append]

/-- **The invariant rule**, when each thread has a protocol of its own. -/
theorem Reaches.invariant_obeys {P : ℕ → Protocol C R Q} {I : σ → List Q → Prop}
    {p p' : Pool C R α σ} (h : Reaches service guard p p') (hp : Obeys P p)
    (h₀ : I p.shared (p.stages P))
    (hans : ∀ p i e s', guard p i e → service p.shared e.cmd e.resp s' → (P i).answers e)
    (hstep : ∀ p i e s' q, guard p i e → service p.shared e.cmd e.resp s' →
      (p.stages P)[i]? = some q → (P i).allows q e.cmd → I p.shared (p.stages P) →
      I s' ((p.stages P).set i ((P i).next q e))) :
    Obeys P p' ∧ I p'.shared (p'.stages P) := by
  refine Reaches.induction (I := fun p => Obeys P p ∧ I p.shared (p.stages P)) h ⟨hp, h₀⟩ ?_
  rintro p i e p' hs hg ⟨hp, hI⟩
  obtain ⟨hp', q, hq, hal, hst⟩ := stages_step hs hp (hans _ _ _ _ hg hs.serves)
  rw [hst]
  exact ⟨hp', hstep p i e _ q hg hs.serves hq hal hI⟩

/-- **What the traces show of the stages**: a relation that every allowed command keeps holds
of every thread. -/
theorem Reaches.logs {P : ℕ → Protocol C R Q} {K : Q → List (Event C R) → Prop}
    {p p' : Pool C R α σ} (h : Reaches service guard p p') (hp : Obeys P p)
    (h₀ : ∀ (i : ℕ) (t : Thread C R α), p.threads[i]? = some t → K ((P i).state t.log) t.log)
    (hans : ∀ p i e s', guard p i e → service p.shared e.cmd e.resp s' → (P i).answers e)
    (hstep : ∀ i q log e, (P i).allows q e.cmd → (P i).answers e → K q log →
      K ((P i).next q e) (log ++ [e])) :
    ∀ (i : ℕ) (t : Thread C R α), p'.threads[i]? = some t → K ((P i).state t.log) t.log := by
  refine (Reaches.induction (I := fun p => Obeys P p ∧ ∀ (i : ℕ) (t : Thread C R α),
    p.threads[i]? = some t → K ((P i).state t.log) t.log) h ⟨hp, h₀⟩ ?_).2
  rintro p i e p' hs hg ⟨hp, hK⟩
  have he := hans _ _ _ _ hg hs.serves
  obtain ⟨hp', t, t', ht, -, hal, hset, hlog⟩ := obeys_step hs hp he
  refine ⟨hp', fun j x hx => ?_⟩
  rw [hset] at hx
  obtain ⟨rfl, rfl⟩ | ⟨-, hx⟩ := thread_of_set hx
  · rw [hlog, Protocol.state_append]
    exact hstep j _ _ e hal he (hK j t ht)
  · exact hK j x hx

/-- **What a run has brought about, one of its steps has**: the step after which the
property first held. -/
theorem Reaches.exists_step {T : Pool C R α σ → Prop} {p p' : Pool C R α σ}
    (h : Reaches service guard p p') (h₀ : ¬ T p) (h₁ : T p') :
    ∃ p₁ i e p₂, Reaches service guard p p₁ ∧ Step service p₁ i e p₂ ∧ guard p₁ i e ∧
      Reaches service guard p₂ p' ∧ ¬ T p₁ ∧ T p₂ := by
  induction h with
  | refl => exact absurd h₁ h₀
  | @tail b c hb hs ih =>
    obtain ⟨i, e, hs, hg⟩ := hs
    by_cases hT : T b
    · obtain ⟨p₁, i', e', p₂, hreach, hstep, hguard, hrest, hbefore, hafter⟩ := ih hT
      exact ⟨p₁, i', e', p₂, hreach, hstep, hguard, hrest.tail ⟨i, e, hs, hg⟩, hbefore, hafter⟩
    · exact ⟨b, i, e, c, hb, hs, hg, Relation.ReflTransGen.refl, hT, h₁⟩

end Pool

end Interleaving
