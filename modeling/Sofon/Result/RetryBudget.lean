import Sofon.Result.History

/-!
# The retry budget

A retryable failure is counted toward an incident once the retry counter has
passed `retryLimit`.  The counter lives under a key of its own, so what it counts
depends on who deletes the key.  Two things do: spending the budget, and a
recovery that finds an incident hash.  A success that finds none returns before
it gets to `ClearRetry`, and a failure of another kind never tries to.

The counter is therefore a count of *consecutive* retryable failures exactly as
long as nothing else is handled while the key exists (`KeepsBudget`).
`retry_budget` proves it for every run whose steps meet that condition, and
`retry_budget_spans_success` is a run in which one step does not.

An expired key only lowers the count, so all statements about it are bounds
(`RetryBelow`).  The invariant of a history is that the counter is at most the number of
retryable failures at its end (`trailing`), and `retryBelow_of_handles` is its step:

* a retryable failure adds one to both, or finds the budget spent and deletes the counter
  (`retryBelow_of_retryable`);
* any other failure makes the end of the history start anew and leaves the counter where it was
  (`retryBelow_of_other`), so the counter has to be missing before it;
* a success does the same unless it finds a hash and deletes the counter
  (`retryBelow_of_success`).

When a retryable failure is counted, the counter has passed the limit, so the history ends in
more than that many retryable failures, and `split_of_le_trailing` names them.
-/

namespace Sofon

open Interleaving Transition Program

variable {cfg : ResultProcessorConfig} {m : UUID} {w₀ w w' : World} {h : List Handled} {x : Handled}
  {n : ℤ}

/-- The retry counter; a missing key counts as zero. -/
def World.retryCount (m : UUID) (w : World) : ℤ := (w.redis.retry m).elim 0 RetryKey.count

/-- The retry counter is at most `n`. -/
def RetryBelow (m : UUID) (n : ℤ) (w : World) : Prop :=
  0 ≤ w.retryCount m ∧ w.retryCount m ≤ n

theorem RetryBelow.mono {k : ℤ} (hw : RetryBelow m n w) (hnk : n ≤ k) : RetryBelow m k w :=
  ⟨hw.1, hw.2.trans hnk⟩

theorem retryBelow_of_none (hn : 0 ≤ n) (hw : w.redis.retry m = none) : RetryBelow m n w := by
  have hzero : w.retryCount m = 0 := by rw [World.retryCount, hw, Option.elim_none]
  exact ⟨hzero.ge, hzero.trans_le hn⟩

/-- A key that runs out counts as zero from then on. -/
theorem retryBelow_expire (ks : List UUID) (hw : RetryBelow m n w) :
    RetryBelow m n (w.expire ks) := by
  have hcases : (w.expire ks).redis.retry m = w.redis.retry m ∨
      (w.expire ks).redis.retry m = none := by
    show (w.redis.retry m).filter _ = _ ∨ (w.redis.retry m).filter _ = _
    cases hr : w.redis.retry m with
    | none => exact Or.inl rfl
    | some k =>
      rw [Option.filter_some]
      split
      · exact Or.inl rfl
      · exact Or.inr rfl
  rcases hcases with hsame | hnone
  · rwa [RetryBelow, World.retryCount, hsame]
  · exact retryBelow_of_none (hw.1.trans hw.2) hnone

/-! ## Calls that leave the counter alone -/

/-- The retry counter a command names. -/
def RedisCmd.retryKey : RedisCmd → Option UUID
  | incrRetry m => some m
  | expireRetry m => some m
  | delRetry m => some m
  | _ => none

/-- The calls that name no retry counter. -/
def Cmd.retryFree : Cmd → Bool
  | redis c => c.retryKey = none
  | _ => true

theorem Redis.exec_retry {c : RedisCmd} (h : c.retryKey = none) (s : Redis) :
    (s.exec c).2.retry = s.retry := by
  cases c with
  | incrRetry m | expireRetry m | delRetry m => cases h
  | hSetNXAlerted m | hSetNXRecoveredAlerted m =>
    simp only [Redis.exec]
    split <;> rfl
  | _ => rfl

/-- **A program of such calls raises no counter.** -/
theorem retryBelow_of_only {α : Type} {p : Prog α} {tr : List Call} {a : α}
    (h : Exec World.Live p w tr a w') (hp : p.Only (Cmd.retryFree ·)) (hw : RetryBelow m n w) :
    RetryBelow m n w' := by
  refine h.invariant (I := RetryBelow m n) ?_ hw
  intro e he t t' hc ht
  have hfree := h.only hp e he
  obtain ⟨c, r⟩ := e
  obtain ⟨ks, rfl | ⟨c, rfl, rfl⟩ | ⟨q, now, rfl, rfl⟩ | ⟨ev, rfl, rfl⟩⟩ := World.live_cases hc
  · exact retryBelow_expire ks ht
  · have hkey : c.retryKey = none := by simpa [Cmd.retryFree] using hfree
    have hexpired := retryBelow_expire ks ht
    rw [RetryBelow, World.retryCount] at hexpired ⊢
    rwa [Redis.exec_retry hkey]
  · exact retryBelow_expire ks ht
  · exact retryBelow_expire ks ht

theorem retryFree_scheduleMonitor (m : UUID) (i : ℤ) :
    (MonitorService.scheduleMonitor m i).Only (Cmd.retryFree ·) :=
  MonitorService.only_scheduleMonitor (Cmd.retryFree ·) rfl rfl (fun _ => rfl) i

theorem retryFree_storeStatus (m : UUID) (c l : ℤ) (t : Time) :
    (RedisClient.storeStatus m c l t).Only (Cmd.retryFree ·) :=
  RedisClient.only_retry_call (Cmd.retryFree ·) rfl rfl 2

theorem retryFree_failurePath (cfg : ResultProcessorConfig) (r : HTTPResult) :
    (ResultProcessor.failurePath cfg r).Only (Cmd.retryFree ·) :=
  ResultProcessor.only_failurePath (Cmd.retryFree ·)
    (RedisClient.only_incrementIncident (Cmd.retryFree ·) rfl rfl rfl fun _ _ => rfl) rfl
    (ResultProcessor.only_alertDown (Cmd.retryFree ·) rfl (fun _ _ _ _ => rfl) rfl fun _ => rfl)

/-! ## Calls that move the counter -/

/-- `IncrementRetry`, when nothing fails: one more than was left of the count. -/
theorem incrementRetry_of_exec {tr : List Call} {y : Except RedisError ℤ}
    (h : Exec World.Live (RedisClient.incrementRetry m) w tr y w') (hno : NoFail tr)
    (hw : RetryBelow m n w) : ∃ k, y = .ok k ∧ k ≤ n + 1 ∧ RetryBelow m k w' := by
  obtain ⟨tr₁, z, w₁, tr₂, honce, hk, rfl⟩ := exec_bind_iff.mp h
  rw [noFail_append] at hno
  obtain ⟨a, w₂, tr₃, hincr, rfl, h₁⟩ := exec_call_bind honce
  obtain ⟨ks, ⟨rfl, -⟩ | ⟨ha, hw₂⟩⟩ := World.live_redis hincr
  · simp [Call.failed] at hno
  have hstart := retryBelow_expire ks hw
  obtain ⟨k, hkdef⟩ : ∃ k, ((w.redis.expire ks).retry m).getD ⟨0, false⟩ = k := ⟨_, rfl⟩
  have hcount : (w.expire ks).retryCount m = k.count := by
    rw [World.retryCount, ← hkdef]
    show ((w.redis.expire ks).retry m).elim 0 _ = _
    cases (w.redis.expire ks).retry m <;> rfl
  obtain rfl : a = .ok (k.count + 1) := by
    rw [ha, Redis.exec, hkdef]
  have hincremented : w₂.retryCount m = k.count + 1 := by
    rw [hw₂, World.retryCount, Redis.exec, hkdef]
    simp
  obtain ⟨b, w₃, tr₄, hexp, rfl, h₂⟩ := exec_call_bind h₁
  obtain ⟨ks', ⟨rfl, -⟩ | ⟨hb, hw₃⟩⟩ := World.live_redis hexp
  · simp [Call.failed] at hno
  obtain rfl : b = .ok () := hb
  obtain ⟨rfl, rfl, rfl⟩ := exec_ret_iff.mp h₂
  obtain ⟨rfl, rfl, rfl⟩ := exec_ret_iff.mp hk
  rw [RetryBelow, hcount] at hstart
  refine ⟨k.count + 1, rfl, by omega, ?_⟩
  have hbelow : RetryBelow m (k.count + 1) (w₂.expire ks') := by
    refine retryBelow_expire ks' ⟨?_, ?_⟩
    · omega
    · omega
  -- `EXPIRE` keeps the count
  have hkept : w'.retryCount m = (w₂.expire ks').retryCount m := by
    rw [hw₃, World.retryCount, World.retryCount, Redis.exec]
    simp only [Redis.setRetry_retry]
    show (((w₂.redis.expire ks').retry m).map _).elim 0 _ =
      ((w₂.redis.expire ks').retry m).elim 0 _
    cases (w₂.redis.expire ks').retry m <;> rfl
  rw [RetryBelow, hkept]
  exact hbelow

/-- `ClearRetry`, when nothing fails. -/
theorem clearRetry_of_exec {tr : List Call} {y : Except RedisError Unit}
    (h : Exec World.Live (RedisClient.clearRetry m) w tr y w') (hno : NoFail tr) :
    w'.redis.retry m = none := by
  obtain ⟨tr₁, z, w₁, tr₂, honce, hk, rfl⟩ := exec_bind_iff.mp h
  obtain ⟨hdel, rfl⟩ := exec_call honce
  rw [noFail_append] at hno
  obtain ⟨ks, ⟨rfl, -⟩ | ⟨rfl, rfl⟩⟩ := World.live_redis hdel
  · simp [Call.failed] at hno
  · obtain ⟨rfl, rfl, rfl⟩ := exec_ret_iff.mp hk
    exact Redis.setRetry_retry ..

/-! ## Handlers -/

/-- What a retryable failure does to the counter: it is counted there, or it has
spent the budget and is brought to `IncrementIncident`. -/
theorem retryBelow_of_retryable {r : HTTPResult} {tr : List Call}
    (h : Exec World.Live (ResultProcessor.handleFailure cfg r) w tr () w') (hno : NoFail tr)
    (hterm : r.terminal = false) (hretry : r.retryable = true)
    (hw : RetryBelow r.monitorID n w) :
    (Reached r.monitorID tr = false ∧ RetryBelow r.monitorID (n + 1) w') ∨
      cfg.retryLimit ≤ n ∧ RetryBelow r.monitorID 0 w' := by
  have haside : ∀ {α : Type} {p : Prog α} {w w' : World} {tr : List Call} {a : α},
      Exec World.Live p w tr a w' → p.Only (Cmd.aside ·) → Reached r.monitorID tr = false :=
    fun hp honly => reached_of_only hp
      (honly.mono fun c hc => (c.not_of_aside hc r.monitorID).2.2.2)
  obtain ⟨tr₁, b, w₁, tr₂, hbody, hsched, rfl⟩ := exec_bind_iff.mp h
  rw [noFail_append] at hno
  have hend : Reached r.monitorID tr₂ = false ∧
      ∀ k, RetryBelow r.monitorID k w₁ → RetryBelow r.monitorID k w' := by
    cases b with
    | false =>
      obtain ⟨rfl, -, rfl⟩ := exec_ret_iff.mp hsched
      exact ⟨rfl, fun _ hk => hk⟩
    | true =>
      exact ⟨haside hsched (aside_scheduleMonitor _ _), fun _ hk =>
        retryBelow_of_only hsched (retryFree_scheduleMonitor _ _) hk⟩
  suffices hmain : (Reached r.monitorID tr₁ = false ∧ RetryBelow r.monitorID (n + 1) w₁) ∨
      cfg.retryLimit ≤ n ∧ RetryBelow r.monitorID 0 w₁ by
    rw [reached_append, hend.1, Bool.or_false]
    exact hmain.imp (fun hm => ⟨hm.1, hend.2 _ hm.2⟩) fun hm => ⟨hm.1, hend.2 _ hm.2⟩
  rw [ResultProcessor.handleFailureBody, hterm, if_neg Bool.false_ne_true] at hbody
  obtain ⟨tr₃, y, w₂, tr₄, hpath, hcase, rfl⟩ := exec_bind_iff.mp hbody
  rw [noFail_append] at hno
  have hpath' := hpath
  rw [ResultProcessor.retryPath, hretry, if_pos rfl] at hpath
  obtain ⟨tr₅, z, w₃, tr₆, hincr, hrest, rfl⟩ := exec_bind_iff.mp hpath
  rw [noFail_append] at hno
  obtain ⟨k, rfl, hk, hbelow⟩ := incrementRetry_of_exec hincr hno.1.1.1 hw
  change Exec _ (if k ≤ cfg.retryLimit then _ else _) _ _ _ _ at hrest
  by_cases hlimit : k ≤ cfg.retryLimit
  · -- within the budget: run again in five seconds
    rw [if_pos hlimit] at hrest
    obtain ⟨tr₇, u, w₄, tr₈, hagain, hret, rfl⟩ := exec_bind_iff.mp hrest
    obtain ⟨rfl, rfl, rfl⟩ := exec_ret_iff.mp hret
    obtain ⟨rfl, -, rfl⟩ := exec_ret_iff.mp hcase
    refine Or.inl ⟨?_, ?_⟩
    · rw [List.append_nil]
      exact haside hpath' (aside_retryPath cfg r)
    · exact retryBelow_of_only hagain (retryFree_scheduleMonitor _ _) (hbelow.mono hk)
  · -- budget exhausted: the key is deleted, and nothing creates it again
    rw [if_neg hlimit] at hrest
    obtain ⟨tr₇, u, w₄, tr₈, hclear, hret, rfl⟩ := exec_bind_iff.mp hrest
    obtain ⟨rfl, rfl, rfl⟩ := exec_ret_iff.mp hret
    obtain ⟨tr₉, u', w₅, tr₁₀, hfail, hret', rfl⟩ := exec_bind_iff.mp hcase
    obtain ⟨rfl, -, rfl⟩ := exec_ret_iff.mp hret'
    have hcleared := clearRetry_of_exec hclear (noFail_append.mp hno.1.1.2).1
    refine Or.inr ⟨by omega, ?_⟩
    exact retryBelow_of_only hfail (retryFree_failurePath cfg r)
      (retryBelow_of_none (le_refl 0) hcleared)

/-- No other failure moves the counter. -/
theorem retryBelow_of_other {r : HTTPResult} {tr : List Call}
    (h : Exec World.Live (ResultProcessor.handleFailure cfg r) w tr () w')
    (hother : r.terminal = true ∨ r.retryable = false) (hw : RetryBelow r.monitorID n w) :
    RetryBelow r.monitorID n w' := by
  refine retryBelow_of_only h ?_ hw
  have hend : ∀ b : Bool, (if b then MonitorService.scheduleMonitor r.monitorID r.intervalSec
      else pure () : Prog Unit).Only (Cmd.retryFree ·) := by
    intro b
    cases b
    · trivial
    · exact retryFree_scheduleMonitor _ _
  refine Only.bind ?_ hend
  rw [ResultProcessor.handleFailureBody]
  by_cases hterm : r.terminal = true
  · rw [if_pos hterm]
    exact (retryFree_storeStatus _ _ _ _).bind fun _ => trivial
  · rw [if_neg hterm, ResultProcessor.retryPath, hother.resolve_left hterm,
      if_neg Bool.false_ne_true]
    exact (retryFree_failurePath cfg r).bind fun _ => trivial

/-- A success leaves the counter alone when it finds no hash, and deletes it when
it finds one. -/
theorem retryBelow_of_success {r : HTTPResult} {tr : List Call}
    (h : Exec World.Live (ResultProcessor.handleSuccess r) w tr () w') (hno : NoFail tr)
    (hw : RetryBelow r.monitorID n w) :
    RetryBelow r.monitorID n w' ∧
      (w.redis.incident r.monitorID ≠ .absent → RetryBelow r.monitorID 0 w') := by
  obtain ⟨tr₁, u, w₁, tr₂, hbody, hsched, rfl⟩ := exec_bind_iff.mp h
  rw [noFail_append] at hno
  have hend : ∀ k, RetryBelow r.monitorID k w₁ → RetryBelow r.monitorID k w' := fun _ hk =>
    retryBelow_of_only hsched (retryFree_scheduleMonitor _ _) hk
  suffices hmain : (w.redis.incident r.monitorID = .absent ∧ RetryBelow r.monitorID n w₁) ∨
      RetryBelow r.monitorID 0 w₁ by
    rcases hmain with ⟨habsent, hbelow⟩ | hbelow
    · exact ⟨hend _ hbelow, fun hne => absurd habsent hne⟩
    · exact ⟨hend _ (hbelow.mono (hw.1.trans hw.2)), fun _ => hend _ hbelow⟩
  obtain ⟨tr₃, y, w₂, tr₄, hstore, h₁, rfl⟩ := exec_bind_iff.mp hbody
  rw [noFail_append] at hno
  have hstored := retryBelow_of_only hstore (retryFree_storeStatus _ _ _ _) hw
  have hhash : (w₂.outage r.monitorID).hash = w.redis.incident r.monitorID :=
    congrArg Outage.hash (outage_of_aside hstore (aside_storeStatus _ _ _ _) r.monitorID)
  obtain ⟨tr₅, z, w₃, tr₆, hget, h₂, rfl⟩ := exec_bind_iff.mp h₁
  rw [noFail_append] at hno
  have hgot := retryBelow_of_only hget (RedisClient.only_getIncident (Cmd.retryFree ·) rfl) hstored
  obtain ⟨-, -, ⟨rfl, habsent⟩ | rfl⟩ := getIncident_of_exec hget
  · obtain ⟨rfl, -, rfl⟩ := exec_ret_iff.mp h₂
    exact Or.inl ⟨hhash.symm.trans (habsent hno.1.2.1), hgot⟩
  · refine Or.inr ?_
    have hclean : ∀ {w w' tr}, Exec World.Live (ResultProcessor.cleanup r) w tr () w' →
        NoFail tr → RetryBelow r.monitorID 0 w' := by
      intro w w' tr hcleanup hno
      obtain ⟨tr₁, u₁, v₁, tr₂, -, hk₁, rfl⟩ := exec_bind_iff.mp hcleanup
      obtain ⟨tr₃, u₂, v₂, tr₄, hclear, hk₂, rfl⟩ := exec_bind_iff.mp hk₁
      obtain ⟨rfl, -, rfl⟩ := exec_ret_iff.mp hk₂
      rw [noFail_append, noFail_append] at hno
      exact retryBelow_of_none (le_refl 0) (clearRetry_of_exec hclear hno.2.1)
    change Exec _ (if (w₂.outage r.monitorID).hash.dbIncident = some true then _ else _)
      _ _ _ _ at h₂
    by_cases hd : (w₂.outage r.monitorID).hash.dbIncident = some true
    · rw [if_pos hd] at h₂
      obtain ⟨now, w₄, tr₇, -, rfl, h₃⟩ := exec_call_bind h₂
      obtain ⟨tr₈, v, w₅, tr₉, hclose, h₄, rfl⟩ := exec_bind_iff.mp h₃
      simp only [noFail_append, noFail_cons] at hno
      obtain ⟨-, ⟨err, rfl, -, hfail⟩ | ⟨rfl, -, -⟩ | ⟨row, rows, -, rfl, -⟩⟩ :=
        closeIncident_of_exec hclose
      · exact absurd hno.1.2.2.2.1 hfail
      · obtain ⟨tr₁₀, u', w₆, tr₁₁, -, h₅, rfl⟩ := exec_bind_iff.mp h₄
        exact hclean h₅ (noFail_append.mp hno.1.2.2.2.2).2
      · obtain ⟨tr₁₀, u', w₆, tr₁₁, -, h₅, rfl⟩ := exec_bind_iff.mp h₄
        exact hclean h₅ (noFail_append.mp hno.1.2.2.2.2).2
    · rw [if_neg hd] at h₂
      exact hclean h₂ hno.1.2.2

/-! ## Histories -/

/-- The retryable failures at the end of a history. -/
def trailing (h : List Handled) : ℕ :=
  (h.reverse.takeWhile (·.result.retryableFailure)).length

theorem trailing_snoc (h : List Handled) (x : Handled) :
    trailing (h ++ [x]) = if x.result.retryableFailure then trailing h + 1 else 0 := by
  rw [trailing, List.reverse_append, List.reverse_singleton, List.singleton_append,
    List.takeWhile_cons]
  split <;> rfl

/-- The last `n` results of a history, if it ends in that many retryable failures. -/
theorem split_of_le_trailing {n : ℕ} (hn : n ≤ trailing h) :
    ∃ older recent, h = older ++ recent ∧ recent.length = n ∧
      ∀ y ∈ recent, y.result.retryableFailure = true := by
  induction n generalizing h with
  | zero => exact ⟨h, [], by simp, rfl, by simp⟩
  | succ n ih =>
    induction h using List.reverseRecOn with
    | nil => simp [trailing] at hn
    | append_singleton h x _ =>
      rw [trailing_snoc] at hn
      split at hn
      · rename_i hx
        obtain ⟨older, recent, rfl, hlen, hall⟩ := ih (Nat.le_of_succ_le_succ hn)
        refine ⟨older, recent ++ [x], by simp, by simp [hlen], ?_⟩
        intro y hy
        rcases List.mem_append.mp hy with hy | hy
        · exact hall y hy
        · rw [List.mem_singleton.mp hy]
          exact hx
      · omega

/-- The result is a retryable failure, or there is no counter to outlive it, or it
is a recovery that deletes the counter. -/
def KeepsBudget (m : UUID) (w : World) (x : Handled) : Prop :=
  x.result.retryableFailure = true ∨ w.redis.retry m = none ∨
    x.result.success = true ∧ w.redis.incident m ≠ .absent

/-- What one more result does to the counter, and what it means that a retryable
failure is counted toward an incident. -/
theorem retryBelow_of_handles (hx : Handles cfg m w x w') (hno : NoFail x.trace)
    (hkeeps : KeepsBudget m w x) (hw : RetryBelow m (trailing h) w) :
    RetryBelow m (trailing (h ++ [x])) w' ∧
      (x.result.retryableFailure = true → Reached m x.trace = true →
        cfg.retryLimit ≤ trailing h) := by
  obtain ⟨rfl, hexec⟩ := hx
  rw [ResultProcessor.handle] at hexec
  rw [trailing_snoc]
  by_cases hr : x.result.retryableFailure = true
  · obtain ⟨⟨hs, hterm⟩, hretry⟩ : (x.result.success = false ∧ x.result.terminal = false) ∧
        x.result.retryable = true := by
      simpa [HTTPResult.retryableFailure] using hr
    rw [hs, if_neg Bool.false_ne_true] at hexec
    rw [if_pos hr]
    push_cast
    rcases retryBelow_of_retryable hexec hno hterm hretry hw with
      ⟨hquiet, hbelow⟩ | ⟨hspent, hbelow⟩
    · refine ⟨hbelow, fun _ hreach => ?_⟩
      rw [hquiet] at hreach
      cases hreach
    · exact ⟨hbelow.mono (by omega), fun _ _ => hspent⟩
  · rw [if_neg hr]
    refine ⟨?_, fun hr' => absurd hr' hr⟩
    -- the counter is gone, or this result deletes it
    have hzero : w.redis.retry x.result.monitorID = none →
        RetryBelow x.result.monitorID 0 w := retryBelow_of_none (le_refl 0)
    by_cases hs : x.result.success = true
    · rw [if_pos hs] at hexec
      rcases hkeeps.resolve_left hr with hnone | ⟨-, hhash⟩
      · exact (retryBelow_of_success hexec hno (hzero hnone)).1
      · exact (retryBelow_of_success hexec hno hw).2 hhash
    · rw [if_neg hs] at hexec
      have hother : x.result.terminal = true ∨ x.result.retryable = false := by
        simp only [HTTPResult.retryableFailure] at hr
        grind
      rcases hkeeps.resolve_left hr with hnone | ⟨hs', -⟩
      · exact retryBelow_of_other hexec hother (hzero hnone)
      · exact absurd hs' hs

/-- **The retry budget counts consecutive failures**, in every run that handles nothing else over a
live counter: whenever a retryable failure counts toward the outage, as many of them as the limit
allows have come right before it. -/
theorem retry_budget (h₀ : w₀.Fresh m)
    (hist : Runs (fun w x w' => Handles cfg m w x w' ∧ KeepsBudget m w x) w₀ h w)
    (hno : ∀ x ∈ h, NoFail x.trace) :
    ∀ before x after, h = before ++ x :: after → x.result.retryableFailure = true →
      Reached m x.trace = true →
      ∃ older recent, before = older ++ recent ∧ (recent.length : ℤ) = max cfg.retryLimit 0 ∧
        ∀ y ∈ recent, y.result.retryableFailure = true := by
  have hcount : ∀ l t, Runs (fun w x w' => Handles cfg m w x w' ∧ KeepsBudget m w x) w₀ l t →
      (∀ x ∈ l, NoFail x.trace) → RetryBelow m (trailing l) t := by
    intro l t hl
    refine hl.induction (I := fun l t => (∀ x ∈ l, NoFail x.trace) → RetryBelow m (trailing l) t)
      (fun _ => retryBelow_of_none (le_refl 0) h₀.retry) ?_
    intro l t x u _ ih hx hall
    have hlast := hall x (List.mem_append_right _ (List.mem_singleton_self x))
    exact (retryBelow_of_handles hx.1 hlast hx.2 (ih fun y hy =>
      hall y (List.mem_append_left _ hy))).1
  rintro before x after rfl hr hreach
  obtain ⟨t, t', hbefore, hx, -⟩ := hist.at
  have hbelow := hcount before t hbefore fun y hy => hno y (List.mem_append_left _ hy)
  have hlimit := (retryBelow_of_handles hx.1 (hno x (by simp)) hx.2 hbelow).2 hr hreach
  obtain ⟨older, recent, heq, hlen, hall⟩ :=
    split_of_le_trailing (n := cfg.retryLimit.toNat) (h := before) (by omega)
  exact ⟨older, recent, heq, by omega, hall⟩

/-- Three time-outs in a row. -/
def Sample.threeTimeouts : List (HTTPResult × List Env) :=
  [(hanging, []), (hanging, []), (hanging, [])]

theorem retry_budget_sample :
    (∃ x ∈ (Sample.after Sample.threeTimeouts).1, Reached 1 x.trace = true) ∧
      ∀ before x after, (Sample.after Sample.threeTimeouts).1 = before ++ x :: after →
        x.result.retryableFailure = true → Reached 1 x.trace = true →
        ∃ older recent, before = older ++ recent ∧
          (recent.length : ℤ) = max Config.default.resultProcessor.retryLimit 0 ∧
          ∀ y ∈ recent, y.result.retryableFailure = true := by
  refine ⟨by decide, ?_⟩
  have hruns := (Sample.runs_after Sample.threeTimeouts (by decide)).restrict
    (P := fun x => x.result.retryableFailure = true) (by decide)
  exact retry_budget Sample.fresh_world (hruns.mono fun t x u hx => ⟨hx.1, Or.inl hx.2⟩) (by decide)

/-- Two time-outs, a success that finds no incident, and a third time-out. -/
def Sample.interrupted : List (HTTPResult × List Env) :=
  [(hanging, []), (hanging, []), (passing, []), (hanging, [])]

/-- The third time-out is counted although a success came before it. -/
theorem retry_budget_spans_success :
    ¬ ∀ (w₀ w : World) (h : List Handled), w₀.Fresh 1 →
      Runs (Handles Config.default.resultProcessor 1) w₀ h w → (∀ x ∈ h, NoFail x.trace) →
      ∀ before x after, h = before ++ x :: after → x.result.retryableFailure = true →
        Reached 1 x.trace = true →
        ∃ older recent, before = older ++ recent ∧
          (recent.length : ℤ) = max Config.default.resultProcessor.retryLimit 0 ∧
          ∀ y ∈ recent, y.result.retryableFailure = true := by
  intro hclaim
  have hruns := Sample.runs_after Sample.interrupted (by decide)
  obtain ⟨x₁, x₂, x₃, x₄, heq, hx₃, hx₄⟩ : ∃ x₁ x₂ x₃ x₄,
      (Sample.after Sample.interrupted).1 = [x₁, x₂, x₃] ++ x₄ :: [] ∧
        x₃.result.retryableFailure = false ∧
        (x₄.result.retryableFailure = true ∧ Reached 1 x₄.trace = true) :=
    ⟨_, _, _, _, rfl, by decide, by decide⟩
  obtain ⟨older, recent, hsplit, hlen, hall⟩ :=
    hclaim _ _ _ Sample.fresh_world hruns (by decide) _ _ _ heq hx₄.1 hx₄.2
  have htwo : recent.length = 2 := by
    have hlimit : max Config.default.resultProcessor.retryLimit 0 = 2 := by decide
    omega
  have hdrop : recent = [x₂, x₃] := by
    have holder : older.length = 1 := by
      have := congrArg List.length hsplit
      simp only [List.length_append, List.length_cons, List.length_nil] at this
      omega
    have := congrArg (List.drop 1) hsplit
    rw [← holder, List.drop_left] at this
    rw [← this, holder]
    rfl
  have hlast := hall x₃ (by simp [hdrop])
  rw [hx₃] at hlast
  cases hlast

end Sofon
