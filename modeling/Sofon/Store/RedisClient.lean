import Sofon.Store.World

/-!
# The Redis client

The methods of `redis.Client` in `pkg/redis`, call by call.  Most of them wrap
one command in `retry`, which runs it again when it fails and gives up when its
attempts are used or its context is cancelled.

The methods that read nothing back return only an error in the source; here they
return `Except RedisError Unit`.
-/

namespace Sofon

open Interleaving

namespace RedisClient

variable {α : Type}

/-- The loop of `retry`: `n` attempts are left, and the last one ended in `err`. -/
def retryLoop (fn : Prog (Except RedisError α)) :
    ℕ → Except RedisError α → Prog (Except RedisError α)
  | 0, err => return err
  | n + 1, _ => do
    match ← fn with
    | .ok a => return .ok a
    | .error e =>
      if ← call .ctxDone then return .error .canceled
      else retryLoop fn n (.error e)

/-- `retry`.  It is never called with no attempts. -/
def retry (attempts : ℕ) (fn : Prog (Except RedisError α)) : Prog (Except RedisError α) :=
  retryLoop fn attempts (.error .unavailable)

/-! ## `incident.go` -/

/-- One attempt of `IncrementIncident`.  The timestamps are written without
looking at the outcome. -/
def incrementIncidentOnce (m : UUID) (now : ℤ) : Prog (Except RedisError (ℤ × Bool)) := do
  match ← call (.redis (.hIncrByFailureCount m)) with
  | .error e => return .error e
  | .ok failureCount =>
    if failureCount = 1 then
      -- first incident
      let _ ← call (.redis (.hSetFailureTimes m (some now) now))
      return .ok (failureCount, true)
    else
      let _ ← call (.redis (.hSetFailureTimes m none now))
      return .ok (failureCount, false)

def incrementIncident (m : UUID) : Prog (Except RedisError (ℤ × Bool)) := do
  let now ← call .timeNow
  retry 3 (incrementIncidentOnce m (Time.unix now))

def clearIncident (m : UUID) : Prog (Except RedisError Unit) :=
  retry 2 (call (.redis (.delIncident m)))

/-- `GetIncident`.  An error comes with an empty map, so it reads as "no
incident". -/
def getIncident (m : UUID) : Prog (Except RedisError (Option IncidentHash)) := do
  match ← call (.redis (.hGetAllIncident m)) with
  | .error _ => return .ok none
  | .ok resp => if resp = .absent then return .ok none else return .ok (some resp)

def markDBIncidentCreated (m : UUID) : Prog (Except RedisError Unit) :=
  call (.redis (.hSetDBIncident m))

def markIncidentAlertedIfNotSet (m : UUID) : Prog (Except RedisError Bool) :=
  call (.redis (.hSetNXAlerted m))

def markIncidentRecoveredAlertedIfNotSet (m : UUID) : Prog (Except RedisError Bool) :=
  call (.redis (.hSetNXRecoveredAlerted m))

/-! ## `retry_counter.go` -/

/-- One attempt of `IncrementRetry`. -/
def incrementRetryOnce (m : UUID) : Prog (Except RedisError ℤ) := do
  match ← call (.redis (.incrRetry m)) with
  | .error e => return .error e
  | .ok count =>
    match ← call (.redis (.expireRetry m)) with
    | .error e => return .error e
    | .ok _ => return .ok count

def incrementRetry (m : UUID) : Prog (Except RedisError ℤ) := retry 2 (incrementRetryOnce m)

def clearRetry (m : UUID) : Prog (Except RedisError Unit) :=
  retry 2 (call (.redis (.delRetry m)))

/-! ## `scheduler.go` -/

def schedule (member : Member) (runAt : Time) : Prog (Except RedisError Unit) :=
  retry 3 (call (.redis (.zAdd [⟨runAt.unix, member⟩])))

def scheduleBatch (items : List Z) : Prog (Except RedisError Unit) :=
  if items.isEmpty then return .ok ()
  else retry 3 (call (.redis (.zAdd items)))

def popDue (batchCount : ℕ) : Prog (Except RedisError (List Z)) :=
  retry 3 (call (.redis (.zPopMin batchCount)))

def delSchedule (member : Member) : Prog (Except RedisError Unit) :=
  call (.redis (.zRem member))

/-! ## `status.go` and `monitor.go` -/

def storeStatus (m : UUID) (statusCode latencyMs : ℤ) (checkedAt : Time) :
    Prog (Except RedisError Unit) :=
  retry 2 (call (.redis (.hSetStatus m ⟨statusCode, latencyMs, checkedAt.unix⟩)))

def delStatus (m : UUID) : Prog (Except RedisError Unit) := call (.redis (.hDelStatus m))

def setMonitor (x : Monitor) : Prog (Except RedisError Unit) := call (.redis (.setMonitor x))

/-- `GetMonitor`: every error is a miss. -/
def getMonitor (m : UUID) : Prog (Option Monitor) := do
  match ← call (.redis (.getMonitor m)) with
  | .error _ => return none
  | .ok x => return x

def delMonitor (m : UUID) : Prog (Except RedisError Unit) := call (.redis (.delMonitor m))

/-! ## Commands and attempts -/

/-- Repeating a program issues the commands of the program. -/
theorem only_retry (S : Cmd → Prop) {fn : Prog (Except RedisError α)} (hfn : fn.Only S)
    (hctx : S .ctxDone) (n : ℕ) : (retry n fn).Only S := by
  have hloop : ∀ err, (retryLoop fn n err).Only S := by
    induction n with
    | zero => exact fun _ => trivial
    | succ n ih =>
      intro err
      refine hfn.bind fun x => ?_
      cases x with
      | ok a => trivial
      | error e =>
        refine ⟨hctx, fun b => ?_⟩
        cases b with
        | true => trivial
        | false => exact ih (.error e)
  exact hloop _

theorem only_retry_call (S : Cmd → Prop) {c : RedisCmd} (hc : S (.redis c)) (hctx : S .ctxDone)
    (n : ℕ) : (retry n (call (.redis c))).Only S := only_retry S (only_call hc) hctx n

theorem only_incrementIncident (S : Cmd → Prop) {m : UUID} (hnow : S .timeNow) (hctx : S .ctxDone)
    (hincr : S (.redis (.hIncrByFailureCount m)))
    (htimes : ∀ first last, S (.redis (.hSetFailureTimes m first last))) :
    (incrementIncident m).Only S := by
  have honce : ∀ now, (incrementIncidentOnce m now).Only S := by
    intro now
    refine ⟨hincr, fun x => ?_⟩
    cases x with
    | error err => trivial
    | ok n =>
      show Program.Only _ (if n = 1 then _ else _)
      split <;> exact ⟨htimes _ _, fun _ => trivial⟩
  exact ⟨hnow, fun now => only_retry S (honce now.unix) hctx 3⟩

theorem only_incrementRetry (S : Cmd → Prop) {m : UUID} (hctx : S .ctxDone)
    (hincr : S (.redis (.incrRetry m))) (hexpire : S (.redis (.expireRetry m))) :
    (incrementRetry m).Only S := by
  have honce : (incrementRetryOnce m).Only S := by
    refine ⟨hincr, fun x => ?_⟩
    cases x with
    | error err => trivial
    | ok n =>
      refine ⟨hexpire, fun y => ?_⟩
      cases y <;> trivial
  exact only_retry S honce hctx 2

theorem only_getIncident (S : Cmd → Prop) {m : UUID} (hget : S (.redis (.hGetAllIncident m))) :
    (getIncident m).Only S := by
  refine ⟨hget, fun x => ?_⟩
  cases x with
  | error err => trivial
  | ok resp =>
    show Program.Only _ (if resp = .absent then _ else _)
    split <;> trivial

/-- **Repeating a program that takes effect or fails without effect is again
such a program.**  The effect is seen through `proj`: `good` relates what it was
before and after a run that returned a value, and `bad` is what can be said of
the trace of a run that did not. -/
theorem exec_retry {β : Type} (proj : World → β) (good : β → α → β → Prop)
    (bad : List Call → Prop) {fn : Prog (Except RedisError α)}
    (hfn : ∀ {w tr x w'}, Program.Exec World.Live fn w tr x w' →
      (∃ a, x = .ok a ∧ good (proj w) a (proj w')) ∨
        ∃ e, x = .error e ∧ proj w' = proj w ∧ bad tr)
    (hexpire : ∀ ks w, proj (World.expire ks w) = proj w)
    (hbad : ∀ tr₁ tr₂, bad tr₁ → tr₂ = [] ∨ bad tr₂ →
      bad (tr₁ ++ ⟨.ctxDone, false⟩ :: tr₂)) {n : ℕ} (hn : 0 < n) {w w' : World}
    {tr : List Call} {x : Except RedisError α}
    (h : Program.Exec World.Live (retry n fn) w tr x w') :
    (∃ a, x = .ok a ∧ good (proj w) a (proj w')) ∨
      ∃ e, x = .error e ∧ proj w' = proj w ∧ bad tr := by
  have hloop : ∀ n err, 0 < n → ∀ w tr, Program.Exec World.Live (retryLoop fn n err) w tr x w' →
      (∃ a, x = .ok a ∧ good (proj w) a (proj w')) ∨
        ∃ e, x = .error e ∧ proj w' = proj w ∧ bad tr := by
    intro n
    induction n with
    | zero => intro err hn; exact absurd hn (lt_irrefl 0)
    | succ n ih =>
      intro err _ w tr h
      obtain ⟨tr₁, y, w₁, tr₂, h₁, h₂, rfl⟩ := Program.exec_bind_iff.mp h
      rcases hfn h₁ with ⟨a, rfl, ha⟩ | ⟨e, rfl, hw, hfail⟩
      · obtain ⟨rfl, rfl, rfl⟩ := Program.exec_ret_iff.mp h₂
        exact Or.inl ⟨a, rfl, ha⟩
      · obtain ⟨b, w₂, tr₃, hb, rfl, h₃⟩ := Program.exec_call_iff.mp h₂
        obtain ⟨rfl, ks, rfl⟩ := World.live_ctxDone hb
        have hw₂ : proj (World.expire ks w₁) = proj w := (hexpire ks w₁).trans hw
        rcases Nat.eq_zero_or_pos n with rfl | hpos
        · obtain ⟨rfl, rfl, rfl⟩ := Program.exec_ret_iff.mp h₃
          exact Or.inr ⟨e, rfl, hw₂, hbad _ _ hfail (Or.inl rfl)⟩
        · rcases ih _ hpos _ _ h₃ with ⟨a, rfl, ha⟩ | ⟨e', rfl, hw', hfail'⟩
          · exact Or.inl ⟨a, rfl, hw₂ ▸ ha⟩
          · exact Or.inr ⟨e', rfl, hw'.trans hw₂, hbad _ _ hfail (Or.inr hfail')⟩
  exact hloop n _ hn w tr h

/-- **A repeated program that succeeds under the protocol** runs once. -/
theorem follows_retry_of_ok {Q : Type} {P : Protocol Cmd Cmd.Resp Q}
    {fn : Prog (Except RedisError α)} {fin : Except RedisError α → Q → Prop} {q : Q} {n : ℕ}
    (hfn : fn.Follows P (fun x q' => (∃ a, x = .ok a) ∧ fin x q') q) :
    (retry (n + 1) fn).Follows P fin q := by
  refine hfn.bind fun x q' hx => ?_
  obtain ⟨⟨a, rfl⟩, hfin⟩ := hx
  exact hfin

/-- A repeated command that succeeds under the protocol is issued once. -/
theorem follows_retry {Q : Type} {P : Protocol Cmd Cmd.Resp Q} {c : RedisCmd}
    {fin : Except RedisError c.Reply → Q → Prop} {q : Q} {n : ℕ}
    (hallows : P.allows q (.redis c)) (hans : ∀ r, P.answers ⟨.redis c, r⟩ → ∃ a, r = .ok a)
    (hfin : ∀ a, fin (.ok a) (P.next q ⟨.redis c, .ok a⟩)) :
    (retry (n + 1) (call (.redis c))).Follows P fin q := by
  refine follows_retry_of_ok ⟨hallows, fun r hr => ?_⟩
  obtain ⟨a, rfl⟩ := hans r hr
  exact ⟨⟨a, rfl⟩, hfin a⟩

end RedisClient

end Sofon
