import Sofon.Result.RetryBudget

/-!
# What one call to `IncrementRetry` costs

`IncrementRetry` counts one more retry and gives the counter five minutes to live: `INCR`,
then `EXPIRE`, both inside one `retry` of two attempts.  `RetryBudget` bounds the counter
along runs of the pipeline in which nothing fails; here a single call is followed through
every pattern of failures of its commands.

## Why the two commands do not go together

`retry` repeats what failed as a whole, so it suits a body whose commands can be repeated.
`EXPIRE` can, `INCR` cannot: when an `EXPIRE` fails, the `INCR` before it has already been
counted, and the next attempt counts again.  `IncrementIncident`, which has the same shape,
drops the errors of its second command.

`costsOneRetry_iff` says that this is the only way: a call costs one retry if and only if
none of its `EXPIRE`s failed.  Redis refuses an `INCR` past the largest 64-bit integer and on
a value that is no integer; such an `INCR` is one more command that failed.

## The induction

`incrementRetryOnce_cases` is one attempt, with its three ends: the `INCR` failed and nothing
has changed; the `EXPIRE` failed and one more is counted; or both got through.  The loop is then
by induction on the attempts that are left, for any number of them
(`costsOneRetry_loop_iff`).  What it needs beside the attempt is that the counter does not fall
over the rest of the call (`retryCount_le_of_exec`), so that an attempt that counted for nothing
is never made good.  The counter keeps its value between the commands because no key of the
monitor runs out during the call (`World.LiveKeeping`).
-/

namespace Sofon

open Interleaving Program

variable {m : UUID} {w w' : World} {tr : List Call}

/-- What the environment decides about a call before which the retry counter of `m` does not
run out. -/
abbrev KeepingEnv (m : UUID) := { e : Env // m ∉ e.expired }

instance : Inhabited (KeepingEnv m) := ⟨⟨default, List.not_mem_nil⟩⟩

/-- The service seen with a live context, as long as the retry counter of `m` does not run
out. -/
def World.LiveKeeping (m : UUID) : World → (c : Cmd) → c.Resp → World → Prop :=
  Program.Interpreter fun e : KeepingEnv m => World.exec false e

/-- **One failed check costs one retry**: a call that returns a number has counted one more,
returns the new count and has set the expiry; a call that returns an error has left the
counter as it was. -/
def CostsOneRetry (m : UUID) (w : World) (x : Except RedisError ℤ) (w' : World) : Prop :=
  match x with
  | .ok n => n = w.retryCount m + 1 ∧ w'.redis.retry m = some ⟨n, true⟩
  | .error _ => w'.redis.retry m = w.redis.retry m

/-- Is this the `EXPIRE` of the retry counter? -/
def Cmd.isExpireRetry (m : UUID) : Cmd → Bool
  | redis (.expireRetry m') => m' = m
  | _ => false

/-- No `EXPIRE` of the retry counter failed. -/
def NoExpireFailed (m : UUID) (tr : List Call) : Prop :=
  ∀ e ∈ tr, e.cmd.isExpireRetry m → Call.failed e = false

@[simp] theorem noExpireFailed_nil : NoExpireFailed m [] := by
  simp [NoExpireFailed]

@[simp] theorem noExpireFailed_cons {e : Call} : NoExpireFailed m (e :: tr) ↔
    (e.cmd.isExpireRetry m → Call.failed e = false) ∧ NoExpireFailed m tr := by
  simp [NoExpireFailed]

instance : Decidable (NoExpireFailed m tr) :=
  inferInstanceAs (Decidable (∀ e ∈ tr, e.cmd.isExpireRetry m → Call.failed e = false))

theorem retryCount_of_some {k : RetryKey} (h : w.redis.retry m = some k) :
    w.retryCount m = k.count := by
  rw [World.retryCount, h, Option.elim_some]

theorem retryCount_congr (h : w'.redis.retry m = w.redis.retry m) :
    w'.retryCount m = w.retryCount m := by
  rw [World.retryCount, World.retryCount, h]

/-! ## The commands -/

/-- Other counters may run out. -/
theorem retry_expire_of_notMem {ks : List UUID} (h : m ∉ ks) :
    (w.expire ks).redis.retry m = w.redis.retry m := by
  show (w.redis.retry m).filter _ = _
  cases w.redis.retry m with
  | none => rfl
  | some k => simp [h]

theorem keeping_ctxDone {b : Bool} (h : World.LiveKeeping m w .ctxDone b w') :
    b = false ∧ w'.redis.retry m = w.redis.retry m := by
  obtain ⟨⟨e, he⟩, hexec⟩ := h
  obtain ⟨rfl, rfl⟩ := Prod.mk.inj hexec
  exact ⟨rfl, retry_expire_of_notMem he⟩

/-- `INCR` fails without effect, or counts one more and keeps the time to live. -/
theorem keeping_incrRetry {r : Except RedisError ℤ}
    (h : World.LiveKeeping m w (.redis (.incrRetry m)) r w') :
    (r = .error .unavailable ∧ w'.redis.retry m = w.redis.retry m) ∨
      (r = .ok (w.retryCount m + 1) ∧
        ∃ b, w'.redis.retry m = some ⟨w.retryCount m + 1, b⟩) := by
  obtain ⟨⟨e, he⟩, hexec⟩ := h
  have hkeep : (w.expire e.expired).redis.retry m = w.redis.retry m := retry_expire_of_notMem he
  have hcount : (((w.expire e.expired).redis.retry m).getD ⟨0, false⟩).count =
      w.retryCount m := by
    rw [hkeep, World.retryCount]
    cases w.redis.retry m <;> rfl
  cases hf : e.fails with
  | true =>
    simp only [World.exec, hf] at hexec
    obtain ⟨rfl, rfl⟩ := Prod.mk.inj hexec
    exact Or.inl ⟨rfl, hkeep⟩
  | false =>
    simp only [World.exec, hf, Redis.exec, hcount] at hexec
    obtain ⟨rfl, rfl⟩ := Prod.mk.inj hexec
    exact Or.inr ⟨rfl, _, Redis.setRetry_retry _ _ _⟩

/-- `EXPIRE` fails without effect, or gives the counter a time to live. -/
theorem keeping_expireRetry {r : Except RedisError Unit}
    (h : World.LiveKeeping m w (.redis (.expireRetry m)) r w') :
    (r = .error .unavailable ∧ w'.redis.retry m = w.redis.retry m) ∨
      (r = .ok () ∧ w'.redis.retry m = (w.redis.retry m).map fun k => ⟨k.count, true⟩) := by
  obtain ⟨⟨e, he⟩, hexec⟩ := h
  have hkeep : (w.expire e.expired).redis.retry m = w.redis.retry m := retry_expire_of_notMem he
  cases hf : e.fails with
  | true =>
    simp only [World.exec, hf] at hexec
    obtain ⟨rfl, rfl⟩ := Prod.mk.inj hexec
    exact Or.inl ⟨rfl, hkeep⟩
  | false =>
    simp only [World.exec, hf, Redis.exec] at hexec
    obtain ⟨rfl, rfl⟩ := Prod.mk.inj hexec
    exact Or.inr ⟨rfl, (Redis.setRetry_retry _ _ _).trans (congrArg _ hkeep)⟩

/-! ## One attempt -/

/-- **What one attempt does.**  It fails before it counts, it fails after it has counted, or
it succeeds. -/
theorem incrementRetryOnce_cases {x : Except RedisError ℤ}
    (h : Exec (World.LiveKeeping m) (RedisClient.incrementRetryOnce m) w tr x w') :
    (x = .error .unavailable ∧ w'.redis.retry m = w.redis.retry m ∧ NoExpireFailed m tr) ∨
      (x = .error .unavailable ∧ w'.retryCount m = w.retryCount m + 1 ∧
        ¬NoExpireFailed m tr) ∨
      (x = .ok (w.retryCount m + 1) ∧
        w'.redis.retry m = some ⟨w.retryCount m + 1, true⟩ ∧ NoExpireFailed m tr) := by
  obtain ⟨r, w₁, tr₁, hincr, rfl, hk⟩ := exec_call_iff.mp h
  rcases keeping_incrRetry hincr with ⟨rfl, hw₁⟩ | ⟨rfl, b, hw₁⟩
  · obtain ⟨rfl, rfl, rfl⟩ := exec_ret_iff.mp hk
    exact Or.inl ⟨rfl, hw₁, by simp [Cmd.isExpireRetry]⟩
  · obtain ⟨r', w₂, tr₂, hexpire, rfl, hk'⟩ := exec_call_iff.mp hk
    rcases keeping_expireRetry hexpire with ⟨rfl, hw₂⟩ | ⟨rfl, hw₂⟩
    · obtain ⟨rfl, rfl, rfl⟩ := exec_ret_iff.mp hk'
      have hcount : w'.retryCount m = w.retryCount m + 1 :=
        retryCount_of_some (hw₂.trans hw₁)
      exact Or.inr (Or.inl ⟨rfl, hcount, by simp [Cmd.isExpireRetry, Call.failed]⟩)
    · obtain ⟨rfl, rfl, rfl⟩ := exec_ret_iff.mp hk'
      have hset : w'.redis.retry m = some ⟨w.retryCount m + 1, true⟩ := by
        rw [hw₂, hw₁, Option.map_some]
      exact Or.inr (Or.inr ⟨rfl, hset, by simp [Cmd.isExpireRetry, Call.failed]⟩)

/-! ## All attempts -/

/-- However many attempts are left, the counter does not fall, and a number that is returned
is above it. -/
theorem retryCount_le_of_exec {n : ℕ} {x : Except RedisError ℤ} {err : RedisError}
    (h : Exec (World.LiveKeeping m)
      (RedisClient.retryLoop (RedisClient.incrementRetryOnce m) n (.error err)) w tr x w') :
    w.retryCount m ≤ w'.retryCount m ∧ ∀ k, x = .ok k → w.retryCount m < k := by
  induction n generalizing w tr err with
  | zero =>
    obtain ⟨rfl, rfl, rfl⟩ := exec_ret_iff.mp h
    exact ⟨le_rfl, fun k hk => by cases hk⟩
  | succ n ih =>
    obtain ⟨tr₁, y, w₁, tr₂, honce, hrest, rfl⟩ := exec_bind_iff.mp h
    have hstep : ∀ e, y = .error e → w.retryCount m ≤ w₁.retryCount m →
        w.retryCount m ≤ w'.retryCount m ∧ ∀ k, x = .ok k → w.retryCount m < k := by
      rintro e rfl hle
      obtain ⟨b, w₂, tr₃, hctx, rfl, hrest'⟩ := exec_call_iff.mp hrest
      obtain ⟨rfl, hw₂⟩ := keeping_ctxDone hctx
      have hcount := retryCount_congr hw₂
      obtain ⟨hle', hlt⟩ := ih hrest'
      rw [hcount] at hle' hlt
      exact ⟨hle.trans hle', fun k hk => hle.trans_lt (hlt k hk)⟩
    rcases incrementRetryOnce_cases honce with ⟨rfl, hw₁, -⟩ | ⟨rfl, hw₁, -⟩ | ⟨rfl, hw₁, -⟩
    · exact hstep _ rfl (retryCount_congr hw₁).ge
    · exact hstep _ rfl (by omega)
    · obtain ⟨rfl, rfl, rfl⟩ := exec_ret_iff.mp hrest
      have hcount := retryCount_of_some hw₁
      refine ⟨hcount ▸ (Int.lt_succ _).le, fun k hk => ?_⟩
      obtain rfl := Except.ok.inj hk
      exact Int.lt_succ _

/-- With any number of attempts, a call costs one retry if and only if no `EXPIRE` failed. -/
theorem costsOneRetry_loop_iff {n : ℕ} {x : Except RedisError ℤ} {err : RedisError}
    (h : Exec (World.LiveKeeping m)
      (RedisClient.retryLoop (RedisClient.incrementRetryOnce m) n (.error err)) w tr x w') :
    CostsOneRetry m w x w' ↔ NoExpireFailed m tr := by
  induction n generalizing w tr err with
  | zero =>
    obtain ⟨rfl, rfl, rfl⟩ := exec_ret_iff.mp h
    exact iff_of_true rfl noExpireFailed_nil
  | succ n ih =>
    obtain ⟨tr₁, y, w₁, tr₂, honce, hrest, rfl⟩ := exec_bind_iff.mp h
    have happend : NoExpireFailed m (tr₁ ++ tr₂) ↔
        NoExpireFailed m tr₁ ∧ NoExpireFailed m tr₂ := by
      simp [NoExpireFailed, or_imp, forall_and]
    rcases incrementRetryOnce_cases honce with
      ⟨rfl, hw₁, htr₁⟩ | ⟨rfl, hw₁, htr₁⟩ | ⟨rfl, hw₁, htr₁⟩
    · -- nothing was counted, so the next attempt starts afresh
      obtain ⟨b, w₂, tr₃, hctx, rfl, hrest'⟩ := exec_call_iff.mp hrest
      obtain ⟨rfl, hw₂⟩ := keeping_ctxDone hctx
      have hsame : w₂.redis.retry m = w.redis.retry m := hw₂.trans hw₁
      have hcosts : CostsOneRetry m w₂ x w' ↔ CostsOneRetry m w x w' := by
        unfold CostsOneRetry
        rw [retryCount_congr hsame, hsame]
      have hctx : NoExpireFailed m (⟨.ctxDone, false⟩ :: tr₃) ↔ NoExpireFailed m tr₃ := by
        simp [Cmd.isExpireRetry]
      rw [happend, and_iff_right htr₁, hctx, ← hcosts]
      exact ih hrest'
    · -- one was counted, and the attempts that are left do not take it back
      refine iff_of_false (fun hcosts => ?_) fun hno => htr₁ (happend.mp hno).1
      obtain ⟨b, w₂, tr₃, hctx, rfl, hrest'⟩ := exec_call_iff.mp hrest
      obtain ⟨rfl, hw₂⟩ := keeping_ctxDone hctx
      have hcount : w₂.retryCount m = w.retryCount m + 1 := (retryCount_congr hw₂).trans hw₁
      obtain ⟨hle, hlt⟩ := retryCount_le_of_exec hrest'
      cases x with
      | ok k =>
        have hk := hlt k rfl
        have hone : k = w.retryCount m + 1 := hcosts.1
        omega
      | error e =>
        have hsame : w'.retryCount m = w.retryCount m := retryCount_congr hcosts
        omega
    · obtain ⟨rfl, rfl, rfl⟩ := exec_ret_iff.mp hrest
      exact iff_of_true ⟨rfl, hw₁⟩ (happend.mpr ⟨htr₁, noExpireFailed_nil⟩)

/-- **A call to `IncrementRetry` costs one retry if and only if no `EXPIRE` failed**, whatever
the counter was and whichever other commands failed. -/
theorem costsOneRetry_iff {x : Except RedisError ℤ}
    (h : Exec (World.LiveKeeping m) (RedisClient.incrementRetry m) w tr x w') :
    CostsOneRetry m w x w' ↔ NoExpireFailed m tr :=
  costsOneRetry_loop_iff h

namespace Sample

/-- The environment of a command that fails. -/
def commandFails : KeepingEnv 1 := ⟨⟨true, 0, [], .sent⟩, List.not_mem_nil⟩

/-- A run of `IncrementRetry` in which the first `INCR` fails. -/
def incrFails : List Call × Except RedisError ℤ × World :=
  Program.run (fun e : KeepingEnv 1 => World.exec false e) [commandFails]
    (RedisClient.incrementRetry 1) world

/-- A run of `IncrementRetry` in which the first `EXPIRE` fails. -/
def expireFails : List Call × Except RedisError ℤ × World :=
  Program.run (fun e : KeepingEnv 1 => World.exec false e) [default, commandFails]
    (RedisClient.incrementRetry 1) world

end Sample

/-- A failed `INCR` is made up for. -/
theorem costsOneRetry_sample :
    CostsOneRetry 1 Sample.world Sample.incrFails.2.1 Sample.incrFails.2.2 :=
  (costsOneRetry_iff (Program.exec_run _ _ _ _)).mpr (by decide)

/-- A failed `EXPIRE` costs a second retry: the first failed check counts two. -/
theorem two_retries_for_one : ¬∀ (m : UUID) (w : World) (tr : List Call)
    (x : Except RedisError ℤ) (w' : World),
    Exec (World.LiveKeeping m) (RedisClient.incrementRetry m) w tr x w' →
      CostsOneRetry m w x w' := by
  intro hall
  have hcosts := hall 1 Sample.world Sample.expireFails.1 Sample.expireFails.2.1
    Sample.expireFails.2.2 (Program.exec_run _ _ _ _)
  have hone : (2 : ℤ) = 0 + 1 := hcosts.1
  exact absurd hone (by decide)

end Sofon
