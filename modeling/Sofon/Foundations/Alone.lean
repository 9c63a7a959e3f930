import Sofon.Foundations.Pool

/-!
# An interleaving as one thread sees it

A thread of a pool sees a part of the shared state (`Window`).  The commands of the
other threads leave that part alone, but for what may happen to it at any time, by a
choice of the environment: it fades.  Then an interleaving, seen by the thread, is a run
of its program alone (`alone_of_play`): the same calls with the same answers, with the
fadings in between.

The proof is by the schedule of the interleaving.  A move of another thread is left out, and what
faded at it is added to what fades before the next call of the thread itself; a move of the
thread is a call of its run.  What fades twice fades once, so only whether it does is kept
(`fadings`).

Two such runs of programs that issue twin commands as long as they get twin answers
(`Twins`) end in states that are twins (`Alone.twins`).  So two interleavings whose
inputs are twins agree on what each of the threads sees, and nobody has to reorder their
steps.  That two programs are twins is shown along their code: one after another
(`Program.Twins.bind`), or at once for a program whose commands twins answer alike
(`Program.Only.twins`).
-/

universe u v w x y z

namespace Interleaving

variable {C : Type u} {R : C → Type v} {α β γ δ : Type w} {σ : Type x} {ι : Type y}

/-! ## Windows -/

/-- What a thread sees of the shared state, which commands are its own, and which are
those of the others. -/
structure Window (exec : ι → σ → (c : C) → R c × σ) (ok : Event C R → Bool) (V : Type z) where
  own : C → Prop
  other : C → Prop
  look : σ → V
  /-- What becomes of what is seen when it fades. -/
  fade : Bool → V → V
  /-- Does it fade with this choice of the environment? -/
  fades : ι → Bool
  /-- What a command of the thread does to what it sees. -/
  act : V → (c : C) → R c → V → Prop
  fade_false : ∀ v, fade false v = v
  fade_fade : ∀ a b v, fade b (fade a v) = fade (a || b) v
  look_own : ∀ x s c, own c → ok ⟨c, (exec x s c).1⟩ →
    act (fade (fades x) (look s)) c (exec x s c).1 (look (exec x s c).2)
  look_other : ∀ x s c, other c → look (exec x s c).2 = fade (fades x) (look s)

namespace Window

variable {exec : ι → σ → (c : C) → R c × σ} {ok : Event C R → Bool} {V : Type z}

/-- Alone with what it sees, the program issues the commands of the trace and returns.
Before its command `j` what it sees fades if `f j` says so, and after the last one
likewise. -/
inductive Alone (W : Window exec ok V) :
    V → Program C R α → (ℕ → Bool) → List (Event C R) → V → Prop
  | ret (v : V) (a : α) (f : ℕ → Bool) : Alone W v (.ret a) f [] (W.fade (f 0) v)
  | call {v v' v'' : V} {c : C} {k : R c → Program C R α} {r : R c} {f : ℕ → Bool}
      {log : List (Event C R)} (h : W.act (W.fade (f 0) v) c r v')
      (hk : Alone W v' (k r) (fun j => f (j + 1)) log v'') :
      Alone W v (.call c k) f (⟨c, r⟩ :: log) v''

/-- Does what thread `i` sees fade between its commands `j - 1` and `j`? -/
def fadings (W : Window exec ok V) (i : ℕ) : List (ℕ × ι) → ℕ → Bool
  | [], _ => false
  | (k, x) :: rest, j =>
    if k = i then
      match j with
      | 0 => W.fades x
      | j + 1 => W.fadings i rest j
    else (decide (j = 0) && W.fades x) || W.fadings i rest j

variable {W : Window exec ok V} {v v' : V} {p : Program C R α} {f : ℕ → Bool}
  {log : List (Event C R)}

/-- If nothing fades in the interleaving, nothing fades between the commands of a thread. -/
theorem fadings_of_never {i : ℕ} {S : List (ℕ × ι)} (h : ∀ m ∈ S, W.fades m.2 = false) :
    W.fadings i S = fun _ => false := by
  induction S with
  | nil => rfl
  | cons m rest ih =>
    obtain ⟨k, x⟩ := m
    have hx : W.fades x = false := h (k, x) List.mem_cons_self
    have hrest := ih fun m hm => h m (List.mem_cons_of_mem _ hm)
    funext j
    rw [fadings.eq_def]
    cases j <;> simp [hx, hrest]

/-- What fades before the run fades before its first command. -/
theorem Alone.fade {b : Bool} (h : W.Alone (W.fade b v) p f log v') :
    W.Alone v p (fun j => (decide (j = 0) && b) || f j) log v' := by
  cases h with
  | ret _ a =>
    rw [W.fade_fade]
    have hret := Alone.ret (W := W) v a fun j => (decide (j = 0) && b) || f j
    simpa using hret
  | @call _ v₁ _ c k r _ log hact hk =>
    rw [W.fade_fade] at hact
    have hact' : W.act (W.fade ((decide (0 = 0) && b) || f 0) v) c r v₁ := by simpa using hact
    refine Alone.call hact' ?_
    simpa using hk

/-- The commands of the run are commands of the program. -/
theorem Alone.only {S : C → Prop} (h : W.Alone v p f log v') (hp : p.Only S) :
    ∀ e ∈ log, S e.cmd := by
  induction h with
  | ret => simp
  | call _ _ ih =>
    intro e he
    rcases List.mem_cons.mp he with rfl | he
    · exact hp.1
    · exact ih (hp.2 _) e he

open Pool in
/-- **An interleaving, seen by a thread, is a run of its program alone.** -/
theorem alone_of_play {may : Pool C R α σ → ℕ → Event C R → Bool}
    (hmay : ∀ q i e, may q i e → ok e) {i : ℕ} {S : List (ℕ × ι)} {q q' : Pool C R α σ}
    {t : Thread C R α} (h : play exec may S q = some q') (hf : q'.Finished)
    (ht : q.threads[i]? = some t) (hown : t.todo.Only W.own)
    (hother : ∀ (j : ℕ) (u : Thread C R α), j ≠ i → q.threads[j]? = some u →
      u.todo.Only W.other) :
    ∃ t' log, q'.threads[i]? = some t' ∧ t'.log = t.log ++ log ∧
      W.Alone (W.look q.shared) t.todo (W.fadings i S) log (W.look q'.shared) := by
  induction S generalizing q t with
  | nil =>
    cases h
    obtain ⟨a, ha⟩ := hf t (List.mem_of_getElem? ht)
    have hret := Alone.ret (W := W) (W.look q'.shared) a (W.fadings i [])
    rw [fadings, W.fade_false] at hret
    exact ⟨t, [], ht, (List.append_nil _).symm, ha ▸ hret⟩
  | cons m rest ih =>
    obtain ⟨k, x⟩ := m
    obtain ⟨q₁, hq₁, h⟩ := Option.bind_eq_some_iff.mp h
    obtain ⟨c, next, log₀, hk, hok, rfl⟩ := advance_eq_some hq₁
    by_cases hki : k = i
    · -- the thread itself moves
      subst hki
      obtain rfl : t = ⟨.call c next, log₀⟩ := Option.some.inj (ht.symm.trans hk)
      have hlt := (List.getElem?_eq_some_iff.mp hk).1
      obtain ⟨t', log, ht', hlog, halone⟩ := ih h
        (List.getElem?_set_self hlt) (hown.2 _) fun j u hj hu => by
          rw [List.getElem?_set_ne (Ne.symm hj)] at hu
          exact hother j u hj hu
      refine ⟨t', _ :: log, ht', by rw [hlog, List.append_assoc, List.singleton_append], ?_⟩
      have hact := W.look_own x q.shared c hown.1 (hmay _ _ _ hok)
      have hfirst : W.fadings k ((k, x) :: rest) 0 = W.fades x := if_pos rfl
      rw [← hfirst] at hact
      refine Alone.call hact ?_
      have hshift : (fun j => W.fadings k ((k, x) :: rest) (j + 1)) = W.fadings k rest := by
        funext j
        rw [fadings, if_pos rfl]
      rw [hshift]
      exact halone
    · -- another one does, and what the thread sees may fade
      have hforeign := hother k _ hki hk
      obtain ⟨t', log, ht', hlog, halone⟩ := ih h
        ((List.getElem?_set_ne hki).trans ht) hown fun j u hj hu => by
          obtain ⟨rfl, rfl⟩ | ⟨-, hu⟩ := thread_of_set hu
          · exact hforeign.2 _
          · exact hother j u hj hu
      refine ⟨t', log, ht', hlog, ?_⟩
      change W.Alone (W.look (exec x q.shared c).2) _ _ _ _ at halone
      rw [W.look_other x q.shared c hforeign.1] at halone
      have hshift : W.fadings i ((k, x) :: rest) =
          fun j => (decide (j = 0) && W.fades x) || W.fadings i rest j := by
        funext j
        rw [fadings.eq_def]
        exact if_neg hki
      rw [hshift]
      exact halone.fade

open Pool in
theorem look_of_play {may : Pool C R α σ → ℕ → Event C R → Bool} {i : ℕ} {S : List (ℕ × ι)}
    {q q' : Pool C R α σ} (h : play exec may S q = some q') (hi : q.threads[i]? = none)
    (hother : ∀ (j : ℕ) (u : Thread C R α), q.threads[j]? = some u → u.todo.Only W.other) :
    W.look q'.shared = W.fade (W.fadings i S 0) (W.look q.shared) := by
  induction S generalizing q with
  | nil =>
    cases h
    exact (W.fade_false _).symm
  | cons m rest ih =>
    obtain ⟨k, x⟩ := m
    obtain ⟨q₁, hq₁, h⟩ := Option.bind_eq_some_iff.mp h
    obtain ⟨c, next, log₀, hk, -, rfl⟩ := advance_eq_some hq₁
    have hki : k ≠ i := by
      rintro rfl
      rw [hi] at hk
      cases hk
    have hforeign := hother k _ hk
    rw [ih h ((List.getElem?_set_ne hki).trans hi) fun j u hu => by
      obtain ⟨rfl, rfl⟩ | ⟨-, hu⟩ := thread_of_set hu
      · exact hforeign.2 _
      · exact hother j u hu]
    show W.fade _ (W.look (exec x q.shared c).2) = _
    have hfirst : W.fadings i ((k, x) :: rest) 0 = (W.fades x || W.fadings i rest 0) := by
      rw [fadings, if_neg hki, decide_eq_true rfl, Bool.true_and]
    rw [W.look_other x q.shared c hforeign.1, W.fade_fade, hfirst]

end Window

/-! ## Twins -/

/-- As long as they get twin answers, the two programs issue twin commands, and they return
what `post` relates. -/
def Program.Twins (cmds : C → C → Prop) (events : Event C R → Event C R → Prop)
    (post : α → β → Prop) : Program C R α → Program C R β → Prop
  | .ret a, .ret b => post a b
  | .call c k, .call c' k' => cmds c c' ∧
      ∀ r r', events ⟨c, r⟩ ⟨c', r'⟩ → Twins cmds events post (k r) (k' r')
  | _, _ => False

section Twins

open Program

variable {cmds : C → C → Prop} {events : Event C R → Event C R → Prop} {post : α → β → Prop}

/-- **Sequencing.** -/
theorem Program.Twins.bind {post' : γ → δ → Prop} {p : Program C R α} {q : Program C R β}
    {f : α → Program C R γ} {g : β → Program C R δ} (h : Twins cmds events post p q)
    (hk : ∀ a b, post a b → Twins cmds events post' (f a) (g b)) :
    Twins cmds events post' (p >>= f) (q >>= g) := by
  induction p generalizing q with
  | ret a =>
    cases q with
    | ret b => exact hk a b h
    | call c k => exact h.elim
  | call c k ih =>
    cases q with
    | ret b => exact h.elim
    | call c' k' => exact ⟨h.1, fun r r' he => ih r (h.2 r r' he)⟩

/-- A program is twin to itself if it only issues commands that twin answers agree on. -/
theorem Program.Only.twins {S : C → Prop} {p : Program C R α} (hp : p.Only S)
    (hS : ∀ c, S c → cmds c c ∧ ∀ r r', events ⟨c, r⟩ ⟨c, r'⟩ → r = r') :
    Twins cmds events Eq p p := by
  induction p with
  | ret a => rfl
  | call c k ih =>
    obtain ⟨hcmd, hanswers⟩ := hS c hp.1
    refine ⟨hcmd, fun r r' he => ?_⟩
    obtain rfl := hanswers r r' he
    exact ih r (hp.2 r)

variable {exec : ι → σ → (c : C) → R c × σ} {ok : Event C R → Bool} {V : Type z}
  {W : Window exec ok V}

/-- **Two runs of twin programs.**  They begin with twin views, these fade at the same
points, and what the environment puts into them is twin (`inputs`); then they end with
twin views. -/
theorem Window.Alone.twins {twin : V → V → Prop} {inputs : Event C R → Event C R → Prop}
    {p : Program C R α} {p' : Program C R β} {v v' v₁ v₁' : V} {f : ℕ → Bool}
    {log log' : List (Event C R)} (h : W.Alone v p f log v₁) (h' : W.Alone v' p' f log' v₁')
    (hp : Twins cmds events post p p') (hv : twin v v')
    (hfade : ∀ b v v', twin v v' → twin (W.fade b v) (W.fade b v'))
    (hact : ∀ v v' c c' r r' v₁ v₁', twin v v' → cmds c c' → W.act v c r v₁ →
      W.act v' c' r' v₁' → inputs ⟨c, r⟩ ⟨c', r'⟩ → events ⟨c, r⟩ ⟨c', r'⟩ ∧ twin v₁ v₁')
    (hin : ∀ (j : ℕ) (e e' : Event C R), log[j]? = some e → log'[j]? = some e' → inputs e e') :
    twin v₁ v₁' := by
  induction h generalizing p' v' log' with
  | ret v a f =>
    cases h' with
    | ret => exact hfade _ _ _ hv
    | call => exact hp.elim
  | call h hk ih =>
    cases h' with
    | ret => exact hp.elim
    | call h' hk' =>
      obtain ⟨hcmds, hnext⟩ := hp
      obtain ⟨hevents, htwin⟩ :=
        hact _ _ _ _ _ _ _ _ (hfade _ _ _ hv) hcmds h h' (hin 0 _ _ rfl rfl)
      exact ih hk' (hnext _ _ hevents) htwin fun j e e' he he' => hin (j + 1) e e' he he'

end Twins

end Interleaving
