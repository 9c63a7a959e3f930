import Sofon.Executor
import Sofon.Result.History

/-!
# The next run of a handled result

A monitor is checked again only because somebody wrote its next run into the
schedule.  In the result processor that is `ScheduleMonitor`, called in five
places: three of them in the bodies of the handlers, two in deferred functions, one
of which is guarded by a flag.  Between them stand the early returns, each behind a
command that may fail.

Nothing is assumed of the service: its commands may fail or not, other programs may
run between them, and the context may be cancelled.

## One call, and the last one

`AsksOnce` says of a trace that all of this comes to one call: nothing before it
writes to the schedule, and it is the last thing that happens.  Asking once and asking never
exclude each other, because `ScheduleMonitor` always tries (`schedules_of_scheduleMonitor`).

* What runs before the deferred call writes nothing to the schedule, as none of the commands in
  it does (`neverSchedules_of_only`).  So a success asks once, at the interval of the monitor.
* "Case 2" is the one part with a call of its own, and where it makes it, the flag keeps the
  deferred call from being made (`asks_of_retryPath`).
* A terminal failure clears the flag before anything else is done
  (`neverSchedules_of_terminal`).

`handlers_ask_once` has one case for each, with the delay that the retry budget gives.

## From a transport error to that call

`reschedules_iff` follows an error from `classifyError` on.  Its chain may
hold layers of several kinds, and the kinds overlap: an error of the resolver can be a timeout
itself.  "Retry when its network err/timeout", the executor says, and "not retry: DNS failure";
which one an error is depends on the layer that is looked for first (`terminal_failed_iff`).
-/

namespace Sofon

open Interleaving Program ResultProcessor

/-- The calls that write to the schedule. -/
def Cmd.schedules : Cmd → Bool
  | redis (.zAdd _) => true
  | _ => false

/-- No call of the trace writes to the schedule. -/
def NeverSchedules (tr : List Call) : Prop := ∀ e ∈ tr, e.cmd.schedules = false

/-- The run asks for one next run of `m`, `delay` seconds ahead, and does nothing
after that. -/
def AsksOnce {σ : Type} (service : σ → (c : Cmd) → c.Resp → σ → Prop) (m : UUID) (delay : ℤ)
    (tr : List Call) (s' : σ) : Prop :=
  ∃ before s asked, tr = before ++ asked ∧ NeverSchedules before ∧
    Exec service (MonitorService.scheduleMonitor m delay) s asked () s'

/-- `IncrementRetry` succeeded, with a count within the budget. -/
def WithinBudget (cfg : ResultProcessorConfig) : Except RedisError ℤ → Prop
  | .ok retryCount => retryCount ≤ cfg.retryLimit
  | .error _ => False

instance (cfg : ResultProcessorConfig) (x : Except RedisError ℤ) :
    Decidable (WithinBudget cfg x) :=
  match x with
  | .ok retryCount => inferInstanceAs (Decidable (retryCount ≤ cfg.retryLimit))
  | .error _ => inferInstanceAs (Decidable False)

/-- How far ahead the next run of a retryable failure is. -/
def retryDelay (cfg : ResultProcessorConfig) (r : HTTPResult) (x : Except RedisError ℤ) : ℤ :=
  if WithinBudget cfg x then 5 else r.intervalSec

variable {σ : Type} {service : σ → (c : Cmd) → c.Resp → σ → Prop} {s s' : σ} {tr tr' : List Call}
  {cfg : ResultProcessorConfig} {r : HTTPResult} {m : UUID} {delay : ℤ}

theorem retryDelay_of_within {x : Except RedisError ℤ} (h : WithinBudget cfg x) :
    retryDelay cfg r x = 5 := if_pos h

theorem retryDelay_of_not_within {x : Except RedisError ℤ} (h : ¬ WithinBudget cfg x) :
    retryDelay cfg r x = r.intervalSec := if_neg h

@[simp] theorem neverSchedules_nil : NeverSchedules [] := by
  intro e he
  cases he

theorem NeverSchedules.append (h : NeverSchedules tr) (h' : NeverSchedules tr') :
    NeverSchedules (tr ++ tr') := by
  intro e he
  rcases List.mem_append.mp he with he | he
  · exact h e he
  · exact h' e he

/-- A program without schedule writes leaves none in its trace. -/
theorem neverSchedules_of_only {α : Type} {p : Prog α} {a : α} (h : Exec service p s tr a s')
    (hp : p.Only (Cmd.schedules · = false)) : NeverSchedules tr := h.only hp

theorem asksOnce_of_scheduleMonitor
    (h : Exec service (MonitorService.scheduleMonitor m delay) s tr () s') :
    AsksOnce service m delay tr s' := ⟨[], s, tr, rfl, neverSchedules_nil, h⟩

/-- What happens before and does not write to the schedule does not matter. -/
theorem AsksOnce.after (h : AsksOnce service m delay tr s') (hbefore : NeverSchedules tr') :
    AsksOnce service m delay (tr' ++ tr) s' := by
  obtain ⟨before, s, asked, rfl, hnever, hrun⟩ := h
  exact ⟨tr' ++ before, s, asked, (List.append_assoc _ _ _).symm, hbefore.append hnever, hrun⟩

/-- **`ScheduleMonitor` always tries** to write to the schedule. -/
theorem schedules_of_scheduleMonitor
    (h : Exec service (MonitorService.scheduleMonitor m delay) s tr () s') :
    ∃ e ∈ tr, e.cmd.schedules := by
  obtain ⟨now, s₁, tr₁, -, rfl, h₁⟩ := exec_call_iff.mp h
  obtain ⟨x, s₂, tr₂, -, rfl, -⟩ := exec_call_iff.mp h₁
  exact ⟨_, List.mem_cons_of_mem _ List.mem_cons_self, rfl⟩

/-- Asking once is not asking never. -/
theorem AsksOnce.not_neverSchedules (h : AsksOnce service m delay tr s') :
    ¬ NeverSchedules tr := by
  obtain ⟨before, s, asked, rfl, -, hrun⟩ := h
  obtain ⟨e, he, hschedules⟩ := schedules_of_scheduleMonitor hrun
  intro hnever
  rw [hnever e (List.mem_append_right _ he)] at hschedules
  exact absurd hschedules Bool.false_ne_true

/-! ## What comes before -/

theorem neverSchedules_handleSuccessBody (h : Exec service (handleSuccessBody r) s tr () s') :
    NeverSchedules tr :=
  neverSchedules_of_only h <|
    only_handleSuccessBody _ rfl rfl (fun _ => rfl) rfl (fun _ => rfl) rfl (fun _ => rfl) rfl rfl

theorem neverSchedules_failurePath (h : Exec service (failurePath cfg r) s tr () s') :
    NeverSchedules tr :=
  neverSchedules_of_only h <|
    only_failurePath _ (RedisClient.only_incrementIncident _ rfl rfl rfl fun _ _ => rfl) rfl <|
      only_alertDown _ rfl (fun _ _ _ _ => rfl) rfl fun _ => rfl

theorem neverSchedules_retry {c : RedisCmd} {n : ℕ} {x : Except RedisError c.Reply}
    (hc : (Cmd.redis c).schedules = false)
    (h : Exec service (RedisClient.retry n (call (.redis c))) s tr x s') : NeverSchedules tr :=
  neverSchedules_of_only h <| RedisClient.only_retry_call (Cmd.schedules · = false) hc rfl n

theorem neverSchedules_incrementRetry {x : Except RedisError ℤ}
    (h : Exec service (RedisClient.incrementRetry m) s tr x s') : NeverSchedules tr :=
  neverSchedules_of_only h <| RedisClient.only_incrementRetry _ rfl rfl rfl

/-- **"Case 2"**: it ends the handler with one call of its own, or counts a failure
whose budget is spent, or has nothing to do. -/
theorem asks_of_retryPath {y : Option Bool} (h : Exec service (retryPath cfg r) s tr y s') :
    if r.retryable then
      ∃ tr₁ x s₁, tr₁ <+: tr ∧ Exec service (RedisClient.incrementRetry r.monitorID) s tr₁ x s₁ ∧
        (y = some false ∧ AsksOnce service r.monitorID (retryDelay cfg r x) tr s' ∨
          y = none ∧ ¬ WithinBudget cfg x ∧ NeverSchedules tr)
    else y = none ∧ NeverSchedules tr := by
  rw [retryPath] at h
  split at h
  · rename_i hretryable
    rw [if_pos hretryable]
    obtain ⟨tr₁, x, s₁, tr₂, hincr, hrest, rfl⟩ := exec_bind_iff.mp h
    have hbefore := neverSchedules_incrementRetry hincr
    refine ⟨tr₁, x, s₁, List.prefix_append _ _, hincr, ?_⟩
    cases x with
    | error err =>
      obtain ⟨tr₃, u, s₂, tr₄, hsched, hret, rfl⟩ := exec_bind_iff.mp hrest
      obtain ⟨rfl, rfl, rfl⟩ := exec_ret_iff.mp hret
      refine Or.inl ⟨rfl, ?_⟩
      rw [List.append_nil]
      exact (asksOnce_of_scheduleMonitor hsched).after hbefore
    | ok retryCount =>
      by_cases hbudget : retryCount ≤ cfg.retryLimit
      · have hrun : Exec service
            (MonitorService.scheduleMonitor r.monitorID 5 >>= fun _ => pure (some false)) s₁ tr₂ y
            s' := by
          simpa only [if_pos hbudget] using hrest
        obtain ⟨tr₃, u, s₂, tr₄, hsched, hret, rfl⟩ := exec_bind_iff.mp hrun
        obtain ⟨rfl, rfl, rfl⟩ := exec_ret_iff.mp hret
        refine Or.inl ⟨rfl, ?_⟩
        have hwithin : WithinBudget cfg (.ok retryCount) := hbudget
        rw [List.append_nil, retryDelay_of_within hwithin]
        exact (asksOnce_of_scheduleMonitor hsched).after hbefore
      · have hrun : Exec service
            (RedisClient.clearRetry r.monitorID >>= fun _ => pure none) s₁ tr₂ y s' := by
          simpa only [if_neg hbudget] using hrest
        obtain ⟨tr₃, u, s₂, tr₄, hclear, hret, rfl⟩ := exec_bind_iff.mp hrun
        obtain ⟨rfl, rfl, rfl⟩ := exec_ret_iff.mp hret
        refine Or.inr ⟨rfl, hbudget, hbefore.append ?_⟩
        rw [List.append_nil]
        exact neverSchedules_retry rfl hclear
  · rename_i hretryable
    rw [if_neg hretryable]
    obtain ⟨rfl, rfl, rfl⟩ := exec_ret_iff.mp h
    exact ⟨rfl, neverSchedules_nil⟩

/-! ## The handlers -/

/-- **A success asks for one next run**, at the interval of the monitor. -/
theorem asksOnce_of_handleSuccess (h : Exec service (handleSuccess r) s tr () s') :
    AsksOnce service r.monitorID r.intervalSec tr s' := by
  obtain ⟨tr₁, u, s₁, tr₂, hbody, hsched, rfl⟩ := exec_bind_iff.mp h
  exact (asksOnce_of_scheduleMonitor hsched).after (neverSchedules_handleSuccessBody hbody)

theorem neverSchedules_of_terminal (hterminal : r.terminal = true)
    (h : Exec service (handleFailure cfg r) s tr () s') : NeverSchedules tr := by
  obtain ⟨tr₁, b, s₁, tr₂, hbody, hsched, rfl⟩ := exec_bind_iff.mp h
  rw [handleFailureBody, if_pos hterminal] at hbody
  obtain ⟨tr₃, x, s₂, tr₄, hstore, hret, rfl⟩ := exec_bind_iff.mp hbody
  obtain ⟨rfl, rfl, rfl⟩ := exec_ret_iff.mp hret
  obtain ⟨rfl, -, rfl⟩ := exec_ret_iff.mp hsched
  rw [List.append_nil, List.append_nil]
  exact neverSchedules_retry rfl hstore

/-- The end of a failure that "Case 2" did not take care of. -/
theorem asksOnce_of_failurePath
    (h : Exec service (failurePath cfg r >>= fun _ =>
      MonitorService.scheduleMonitor r.monitorID r.intervalSec) s tr () s') :
    AsksOnce service r.monitorID r.intervalSec tr s' := by
  obtain ⟨tr₁, u, s₁, tr₂, hpath, hsched, rfl⟩ := exec_bind_iff.mp h
  exact (asksOnce_of_scheduleMonitor hsched).after (neverSchedules_failurePath hpath)

/-- **Any other failure asks for one next run**: in five seconds while the budget
lasts, and at the interval of the monitor otherwise. -/
theorem asksOnce_of_handleFailure (hterminal : ¬ r.terminal)
    (h : Exec service (handleFailure cfg r) s tr () s') :
    if r.retryable then
      ∃ tr₁ x s₁, tr₁ <+: tr ∧ Exec service (RedisClient.incrementRetry r.monitorID) s tr₁ x s₁ ∧
        AsksOnce service r.monitorID (retryDelay cfg r x) tr s'
    else AsksOnce service r.monitorID r.intervalSec tr s' := by
  obtain ⟨tr₁, b, s₁, tr₂, hbody, hsched, rfl⟩ := exec_bind_iff.mp h
  rw [handleFailureBody, if_neg hterminal] at hbody
  obtain ⟨tr₃, y, s₂, tr₄, hretry, hrest, rfl⟩ := exec_bind_iff.mp hbody
  have hcases := asks_of_retryPath hretry
  -- what is left when "Case 2" had nothing to say: "Case 3" and the deferred call
  have hlast : y = none → AsksOnce service r.monitorID r.intervalSec (tr₄ ++ tr₂) s' := by
    rintro rfl
    obtain ⟨tr₅, u, s₃, tr₆, hpath, hret, rfl⟩ := exec_bind_iff.mp hrest
    obtain ⟨rfl, rfl, rfl⟩ := exec_ret_iff.mp hret
    rw [List.append_nil]
    exact asksOnce_of_failurePath (exec_bind_iff.mpr ⟨tr₅, u, _, tr₂, hpath, hsched, rfl⟩)
  rw [List.append_assoc]
  split at hcases
  · rename_i hretryable
    rw [if_pos hretryable]
    obtain ⟨tr₅, x, s₃, hprefix, hincr, ⟨rfl, hasks⟩ | ⟨hnone, hspent, hnever⟩⟩ := hcases
    · obtain ⟨rfl, rfl, rfl⟩ := exec_ret_iff.mp hrest
      obtain ⟨rfl, -, rfl⟩ := exec_ret_iff.mp hsched
      rw [List.append_nil, List.append_nil]
      exact ⟨tr₅, x, s₃, hprefix, hincr, hasks⟩
    · refine ⟨tr₅, x, s₃, hprefix.trans (List.prefix_append _ _), hincr, ?_⟩
      rw [retryDelay_of_not_within hspent]
      exact (hlast hnone).after hnever
  · rename_i hretryable
    rw [if_neg hretryable]
    exact (hlast hcases.1).after hcases.2

/-- **Each handled result asks for exactly one next run**, unless its failure is terminal.  It asks
last of all, and whatever fails before, it comes to that. -/
theorem handlers_ask_once (cfg : ResultProcessorConfig) (r : HTTPResult) (s s' : σ)
    (tr : List Call) :
    (Exec service (handleSuccess r) s tr () s' →
      AsksOnce service r.monitorID r.intervalSec tr s') ∧
    (Exec service (handleFailure cfg r) s tr () s' →
      if r.terminal then NeverSchedules tr
      else if r.retryable then
        ∃ tr₁ x s₁, tr₁ <+: tr ∧ Exec service (RedisClient.incrementRetry r.monitorID) s tr₁ x s₁ ∧
          AsksOnce service r.monitorID (retryDelay cfg r x) tr s'
      else AsksOnce service r.monitorID r.intervalSec tr s') := by
  refine ⟨asksOnce_of_handleSuccess, fun h => ?_⟩
  split
  · rename_i hterminal
    exact neverSchedules_of_terminal hterminal h
  · rename_i hterminal
    exact asksOnce_of_handleFailure hterminal h

/-- A success, and a timeout during which `INCR` fails twice. -/
theorem handlers_ask_once_sample :
    (∃ tr w, tr.length = 4 ∧ AsksOnce World.Live 1 60 tr w) ∧
    ∃ tr w, ∃ tr₁ x w₁, tr₁ <+: tr ∧
      Exec World.Live (RedisClient.incrementRetry 1) Sample.world tr₁ x w₁ ∧
      AsksOnce World.Live 1 (retryDelay Config.default.resultProcessor Sample.hanging x) tr w := by
  have hsuccess := exec_run (World.exec false) [] (handleSuccess Sample.passing) Sample.world
  have hfailure := exec_run (World.exec false)
    (List.replicate 4 { (default : Env) with fails := true })
    (handleFailure Config.default.resultProcessor Sample.hanging) Sample.world
  exact ⟨⟨_, _, by decide, (handlers_ask_once Config.default.resultProcessor _ _ _ _).1 hsuccess⟩,
    _, _, (handlers_ask_once _ _ _ _ _).2 hfailure⟩

/-! ## Transport errors -/

/-- The monitor is rescheduled: there is a call to `ScheduleMonitor` for it. -/
def Reschedules (service : σ → (c : Cmd) → c.Resp → σ → Prop) (m : UUID) (tr : List Call)
    (s' : σ) : Prop := ∃ delay, AsksOnce service m delay tr s'

/-- **A handled failure reschedules unless it is terminal.** -/
theorem reschedules_handle_iff (hfailed : r.success = false)
    (h : Exec service (handle cfg r) s tr () s') :
    Reschedules service r.monitorID tr s' ↔ r.terminal = false := by
  rw [handle, hfailed, if_neg Bool.false_ne_true] at h
  cases hterminal : r.terminal with
  | true =>
    refine iff_of_false ?_ (by decide)
    rintro ⟨delay, hasks⟩
    exact hasks.not_neverSchedules (neverSchedules_of_terminal hterminal h)
  | false =>
    refine iff_of_true ?_ rfl
    have hasks := asksOnce_of_handleFailure (by rw [hterminal]; decide) h
    split at hasks
    · obtain ⟨-, x, -, -, -, hasks⟩ := hasks
      exact ⟨_, hasks⟩
    · exact ⟨_, hasks⟩

/-- A transport error is terminal if a DNS error is found in it and no deadline. -/
theorem terminal_failed_iff (x : Monitor) (err : List Executor.ErrorLayer) (latency : ℤ)
    (checkedAt : Time) :
    (Executor.executeHTTPCheck x (.failed err latency checkedAt)).terminal = false ↔
      .deadlineExceeded ∈ err ∨ ∀ layer ∈ err, layer.isDNS = false := by
  have hreason : (Executor.executeHTTPCheck x (.failed err latency checkedAt)).reason =
      (Executor.classifyError err).1 := rfl
  have hvalid := Executor.classifyError_reason_ne_invalidRequest err
  rw [HTTPResult.terminal, hreason, decide_eq_false hvalid, Bool.false_or, decide_eq_false_iff_not,
    Executor.classifyError_reason_eq_dnsFailure_iff, not_and_or, not_not]
  simp

/-- **Which transient problems do not end monitoring**: those in whose chain there is a
deadline, or no DNS error. -/
theorem reschedules_iff (cfg : ResultProcessorConfig) (x : Monitor)
    (err : List Executor.ErrorLayer) (latency : ℤ) (checkedAt : Time)
    (_ : ∃ layer ∈ err, layer.transient)
    (h : Exec service (handle cfg (Executor.executeHTTPCheck x (.failed err latency checkedAt)))
      s tr () s') :
    Reschedules service x.id tr s' ↔
      .deadlineExceeded ∈ err ∨ ∀ layer ∈ err, layer.isDNS = false := by
  rw [← terminal_failed_iff x err latency checkedAt]
  exact reschedules_handle_iff rfl h

namespace Sample

/-- The error of a request whose handshake took too long, in the `*url.Error` that
`httpClient.Do` wraps it in. -/
def handshakeTimeout : List Executor.ErrorLayer := [.net true true, .net true true]

/-- The error of a request for which the resolver did not answer in time. -/
def resolverTimeout : List Executor.ErrorLayer :=
  [.net true true, .net true true, .dns true false]

end Sample

/-- After a handshake that took too long the monitor is checked again. -/
theorem reschedules_sample : ∃ tr w, Reschedules World.Live 1 tr w :=
  ⟨_, _, (reschedules_iff Config.default.resultProcessor (MonitorRepository.ofRow Sample.row)
    Sample.handshakeTimeout 5000 0 ⟨_, .head _, rfl⟩
    (exec_run (World.exec false) [] _ Sample.world)).mpr (Or.inr (by decide))⟩

/-- The timeout of a resolver ends monitoring. -/
theorem transient_but_final : ¬∀ (cfg : ResultProcessorConfig) (x : Monitor)
    (err : List Executor.ErrorLayer) (latency : ℤ) (checkedAt : Time) (w w' : World)
    (tr : List Call), (∃ layer ∈ err, layer.transient) →
    Exec World.Live (handle cfg (Executor.executeHTTPCheck x (.failed err latency checkedAt)))
      w tr () w' →
    Reschedules World.Live x.id tr w' := by
  intro hall
  have hrun := exec_run (World.exec false) [] (handle Config.default.resultProcessor
    (Executor.executeHTTPCheck (MonitorRepository.ofRow Sample.row)
      (.failed Sample.resolverTimeout 5000 0)))
    Sample.world
  have hasks := hall _ _ _ _ _ _ _ _ ⟨_, .head _, rfl⟩ hrun
  have hterminal := (reschedules_handle_iff rfl hrun).mp hasks
  exact absurd hterminal (by decide)

end Sofon
