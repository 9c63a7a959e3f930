import Sofon.Pipeline.System

/-!
# Counting goroutines and results

The counters of the two wait groups count goroutines: `httpWg` the checks that have
not called `Done` yet, `workerWG` the result workers that have not.  And every check
that was started is accounted for: its result is under way or has been handled.

These are equations that every step keeps.  A step of a goroutine changes one entry of the list
of goroutines and perhaps adds a new one, so `counters_step` and `account_step` compare what the
goroutine was with what it has become and the shared state before with the one after; the rest of
the list cancels.  The router takes a result from one channel and puts it into another, and
`main` only closes channels (`account_router`, `account_main`).

So they hold in every state reached, shutdown or not (`Balanced`, `balanced_step`).  `Load` reads
bounds from them and `Shutdown` that all results have been handled when the counters are zero.
-/

namespace Sofon

open Interleaving

/-! ## What a task may do -/

/-- The channels that a task sends on: only the scheduler offers jobs, and only a
handler sends alerts. -/
def Task.Utters (task : Task) : Cmd → Prop
  | .send _ => ∃ ok r, task = .handle ok r
  | .offer _ => task = .doWork
  | _ => True

/-- Where the loop of the goroutine goes on. -/
def Task.EndsAt : Task → Point → Prop
  | doWork, p => p = .select
  | startWork _, p => p = .jobs ∨ ∃ x, p = .loaded x
  | handle ok _, p => p = .results ok
  | request _, p => p = .exited

/-- The goroutine sends on the channels of its task and returns to its own loop. -/
def Goroutine.Proper : Goroutine → Prop
  | stands _ => True
  | runs task t => t.todo.Follows (Protocol.stateless task.Utters fun _ => True)
      (fun p _ => task.EndsAt p) ()

theorem proper_start (cfg : Config) (task : Task) : (Goroutine.start cfg task).Proper := by
  cases task with
  | doWork =>
    have honly : (Scheduler.doWork Member.printedOnly cfg.batchSize).Only (Task.Utters .doWork) :=
      Scheduler.only_doWork _ trivial trivial (fun _ => trivial) (fun _ => trivial) (fun _ => rfl)
        _ _
    exact honly.stateless.bind fun _ _ _ => rfl
  | startWork m =>
    have honly : (Executor.startWork m).Only (Task.Utters (.startWork m)) :=
      Executor.only_startWork _ trivial trivial trivial (fun _ => trivial) fun _ => trivial
    refine honly.stateless.bind fun x _ _ => ?_
    cases x with
    | none => exact Or.inl rfl
    | some y => exact Or.inr ⟨y, rfl⟩
  | handle ok r =>
    have hplan : (MonitorService.scheduleMonitor r.monitorID r.intervalSec).Only
        (Task.Utters (.handle ok r)) :=
      MonitorService.only_scheduleMonitor _ trivial trivial (fun _ => trivial) _
    cases ok with
    | true =>
      have hbody : (ResultProcessor.handleSuccessBody r).Only (Task.Utters (.handle true r)) :=
        ResultProcessor.only_handleSuccessBody _ trivial trivial (fun _ => trivial) trivial
          (fun _ => trivial) trivial (fun _ => ⟨_, _, rfl⟩) trivial trivial
      exact (hbody.bind fun _ => hplan).stateless.bind fun _ _ _ => rfl
    | false =>
      have honly : (ResultProcessor.handleFailure cfg.resultProcessor r).Only
          (Task.Utters (.handle false r)) :=
        ResultProcessor.only_handleFailure _ (RedisClient.only_retry_call _ trivial trivial 2)
          (ResultProcessor.only_retryPath _ trivial trivial trivial trivial trivial
            fun _ => trivial)
          (ResultProcessor.only_failurePath _
            (RedisClient.only_incrementIncident _ trivial trivial trivial fun _ _ => trivial)
            trivial
            (ResultProcessor.only_alertDown _ trivial (fun _ _ _ _ => trivial) trivial
              fun _ => ⟨_, _, rfl⟩)) hplan
      exact honly.stateless.bind fun _ _ _ => rfl
  | request req =>
    have honly : req.prog.Only (Task.Utters (.request req)) := by
      refine req.only _ (fun c hc => ?_) fun _ _ _ _ => trivial
      cases c <;> trivial
    exact honly.stateless.bind fun _ _ _ => rfl

theorem proper_step {cfg : Config} {s s' : Shared} {g g' : Goroutine} {x : Label}
    {new : List Goroutine} (h : Goroutine.Step cfg s g x s' g' new) (hg : g.Proper) :
    g'.Proper ∧ ∀ p ∈ new, p.Proper := by
  cases h with
  | call h => exact ⟨hg.2 _ trivial, fun p hp => nomatch hp⟩
  | tick | take h | receive h => exact ⟨proper_start cfg _, fun p hp => nomatch hp⟩
  | spawn => exact ⟨trivial, List.forall_mem_singleton.mpr trivial⟩
  | _ => exact ⟨trivial, fun p hp => nomatch hp⟩

/-! ## Counts -/

namespace Goroutine

/-- The goroutine is a check that has not called `httpWg.Done()`. -/
def checks : Goroutine → ℕ
  | stands (.checking _) => 1
  | stands (.checked _) => 1
  | stands .pushed => 1
  | stands .released => 1
  | _ => 0

/-- The goroutine is a result worker that has not called `workerWG.Done()`. -/
def works : Goroutine → ℕ
  | stands (.results _) => 1
  | runs (.handle _ _) _ => 1
  | _ => 0

/-- The results of `m` that the goroutine has, or is about to have. -/
def tokens (m : UUID) : Goroutine → ℕ
  | stands (.checking x) => if x.id = m then 1 else 0
  | stands (.checked r) => if r.monitorID = m then 1 else 0
  | runs (.handle _ r) _ => if r.monitorID = m then 1 else 0
  | _ => 0

end Goroutine

/-- How many of the results are of `m`. -/
def naming (m : UUID) (rs : List HTTPResult) : ℕ := rs.countP (·.monitorID = m)

@[simp] theorem naming_nil (m : UUID) : naming m [] = 0 := rfl

@[simp] theorem naming_cons (m : UUID) (r : HTTPResult) (rs : List HTTPResult) :
    naming m (r :: rs) = naming m rs + if r.monitorID = m then 1 else 0 := by
  rw [naming, List.countP_cons, naming]
  simp

@[simp] theorem naming_append (m : UUID) (rs rs' : List HTTPResult) :
    naming m (rs ++ rs') = naming m rs + naming m rs' := List.countP_append

/-- The result that the router has. -/
def Router.tokens (m : UUID) : Router → ℕ
  | routing r => if r.monitorID = m then 1 else 0
  | _ => 0

/-- The results of `m` that have been handled, are in a channel, or are with the
router. -/
def Shared.arrived (m : UUID) (s : Shared) : ℕ :=
  naming m s.handled + naming m s.resultChan.queue + s.router.tokens m +
    (naming m (s.routed true).queue + naming m (s.routed false).queue)

/-- Every goroutine keeps to its own channels, the counters are right, and every
check started is accounted for. -/
structure Balanced (s : System) : Prop where
  proper : ∀ g ∈ s.procs, g.Proper
  httpWg : s.shared.httpWg = total Goroutine.checks s.procs
  workerWG : s.shared.workerWG = total Goroutine.works s.procs
  account : ∀ m, s.shared.started.count m = s.shared.arrived m + total (·.tokens m) s.procs

section Step

variable {cfg : Config} {s s' : Shared} {g g' : Goroutine} {x : Label} {new : List Goroutine}

/-- Replacing one of the two channels. -/
theorem naming_setRouted (m : UUID) (ok : Bool) (ch : Channel HTTPResult) (s : Shared) :
    naming m ((s.setRouted ok ch).routed true).queue +
        naming m ((s.setRouted ok ch).routed false).queue + naming m (s.routed ok).queue =
      naming m (s.routed true).queue + naming m (s.routed false).queue + naming m ch.queue := by
  cases ok with
  | true =>
    rw [Shared.setRouted_self, Shared.setRouted_of_ne Bool.false_ne_true]
    omega
  | false =>
    rw [Shared.setRouted_self, Shared.setRouted_of_ne Bool.false_ne_true.symm]
    omega

theorem counters_step (h : Goroutine.Step cfg s g x s' g' new) (hg : g.Proper)
    (hc : g.checks ≤ s.httpWg) (hw : g.works ≤ s.workerWG) :
    s'.httpWg + g.checks = s.httpWg + g'.checks + total Goroutine.checks new ∧
      s'.workerWG + g.works = s.workerWG + g'.works + total Goroutine.works new := by
  cases h with
  | @call _ task c k r log h =>
    obtain ⟨w, jobs, alerts, p, rfl, -⟩ := Shared.serves_frame h
    exact ⟨by cases task <;> rfl, by cases task <;> rfl⟩
  | @ret task p log =>
    have hend : task.EndsAt p := hg
    cases task with
    | startWork m => obtain rfl | ⟨x, rfl⟩ := hend <;> exact ⟨rfl, rfl⟩
    | doWork | handle ok r | request req => cases hend; exact ⟨rfl, rfl⟩
  | done =>
    change 1 ≤ s.httpWg at hc
    refine ⟨?_, rfl⟩
    show s.httpWg - 1 + 1 = s.httpWg
    omega
  | leaveResults =>
    change 1 ≤ s.workerWG at hw
    refine ⟨rfl, ?_⟩
    show s.workerWG - 1 + 1 = s.workerWG
    omega
  | _ => exact ⟨rfl, rfl⟩

/-- **No result gets lost and none is made up.** -/
theorem account_step (h : Goroutine.Step cfg s g x s' g' new) (hg : g.Proper) (m : UUID) :
    s'.started.count m + s.arrived m + g.tokens m =
      s.started.count m + s'.arrived m + g'.tokens m + total (·.tokens m) new := by
  cases h with
  | @call _ task c k r log h =>
    obtain ⟨w, jobs, alerts, p, rfl, -⟩ := Shared.serves_frame h
    cases task <;> rfl
  | @ret task p log =>
    have hend : task.EndsAt p := hg
    cases task with
    | startWork m' => obtain rfl | ⟨x, rfl⟩ := hend <;> rfl
    | doWork | request req => cases hend; rfl
    | handle ok r =>
      cases hend
      simp only [Shared.arrived, Task.finish, Goroutine.tokens, naming_append, naming_cons,
        naming_nil, total_nil]
      omega
  | @spawn x =>
    simp only [Shared.arrived, Goroutine.tokens, List.count_append, total_cons, total_nil,
      List.count_singleton, beq_iff_eq]
    omega
  | check o =>
    simp only [Goroutine.tokens, Executor.executeHTTPCheck_monitorID, total_nil]
    rfl
  | @push r ch h =>
    simp only [Shared.arrived, Goroutine.tokens, (Channel.send_ok h).2.2, naming_append,
      naming_cons, naming_nil, total_nil]
    omega
  | @receive ok r ch h =>
    have hqueue : naming m (s.routed ok).queue =
        naming m ch.queue + if r.monitorID = m then 1 else 0 := by
      rw [(Channel.recv_some h).1, naming_cons]
    have hswap := naming_setRouted m ok ch s
    simp only [Shared.arrived, Goroutine.start, Goroutine.tokens, total_nil]
    show s.started.count m + _ + 0 = s.started.count m + (naming m s.handled +
      naming m s.resultChan.queue + s.router.tokens m + _) + _ + 0
    omega
  | _ => rfl

theorem account_router (h : Router.Step s s') (m : UUID) : s'.arrived m = s.arrived m := by
  cases h with
  | @receive r ch hr h =>
    simp only [Shared.arrived, hr, Router.tokens, (Channel.recv_some h).1, naming_cons]
    omega
  | @deliver r ch hr h =>
    have hswap := naming_setRouted m r.success ch s
    rw [(Channel.send_ok h).2.2, naming_append, naming_cons, naming_nil] at hswap
    simp only [Shared.arrived, hr, Router.tokens]
    show naming m s.handled + naming m s.resultChan.queue + 0 + _ = _
    omega
  | deliverPanics => rfl
  | leave hr h => simp only [Shared.arrived, hr, Router.tokens]
  | closeFailure hr =>
    have hswap := naming_setRouted m false (s.routed false).close s
    rw [Channel.close_queue] at hswap
    simp only [Shared.arrived, hr, Router.tokens]
    show naming m s.handled + naming m s.resultChan.queue + 0 + _ = _
    omega
  | closeSuccess hr =>
    have hswap := naming_setRouted m true (s.routed true).close s
    rw [Channel.close_queue] at hswap
    simp only [Shared.arrived, hr, Router.tokens]
    show naming m s.handled + naming m s.resultChan.queue + 0 + _ = _
    omega

/-- What `main` does changes no counter and moves no result. -/
theorem account_main (h : Main.Step s s') :
    s'.httpWg = s.httpWg ∧ s'.workerWG = s.workerWG ∧ s'.started = s.started ∧
      s'.handled = s.handled ∧ ∀ m, s'.arrived m = s.arrived m := by
  cases h with
  | _ => exact ⟨rfl, rfl, rfl, rfl, fun _ => rfl⟩

end Step

theorem balanced_boot (cfg : Config) (w : World) : Balanced (.boot cfg w) where
  proper := System.forall_mem_boot trivial trivial (fun _ => trivial) trivial cfg w
  httpWg := by simp [System.boot, Goroutine.checks]
  workerWG := by simp [System.boot, Goroutine.works]
  account m := by
    simp [System.boot, Goroutine.tokens, Shared.arrived, Router.tokens]

/-- **The accounts balance at every step.**  What a goroutine takes from a channel, or puts into
one, or has in hand, is counted once before the step and once after it. -/
theorem balanced_step {cfg : Config} {s t : System} {x : Label} (h : System.Step cfg s x t)
    (hs : Balanced s) : Balanced t := by
  obtain ⟨hproper, hhttp, hworker, haccount⟩ := hs
  cases h with
  | @proc s s' l new i g g' x hlive hi h =>
    have hmem : g ∈ l := List.mem_of_getElem? hi
    obtain ⟨hg', hnew⟩ := proper_step h (hproper g hmem)
    have hc : g.checks ≤ s.httpWg := (le_total Goroutine.checks hmem).trans_eq hhttp.symm
    have hw : g.works ≤ s.workerWG := (le_total Goroutine.works hmem).trans_eq hworker.symm
    obtain ⟨hhttp', hworker'⟩ := counters_step h (hproper g hmem) hc hw
    refine ⟨forall_mem_step hproper (fun _ _ h => h) hg' hnew, ?_, ?_, fun m => ?_⟩
    · have hmove : total Goroutine.checks (l.set i g' ++ new) + g.checks =
          total Goroutine.checks l + g'.checks + total Goroutine.checks new := total_step _ hi
      show s'.httpWg = total Goroutine.checks (l.set i g' ++ new)
      change s.httpWg = total Goroutine.checks l at hhttp
      omega
    · have hmove : total Goroutine.works (l.set i g' ++ new) + g.works =
          total Goroutine.works l + g'.works + total Goroutine.works new := total_step _ hi
      show s'.workerWG = total Goroutine.works (l.set i g' ++ new)
      change s.workerWG = total Goroutine.works l at hworker
      omega
    · have hmove : total (Goroutine.tokens m) (l.set i g' ++ new) + g.tokens m =
          total (Goroutine.tokens m) l + g'.tokens m + total (Goroutine.tokens m) new :=
        total_step _ hi
      have hstep := account_step h (hproper g hmem) m
      have hold := haccount m
      show s'.started.count m = s'.arrived m + total (Goroutine.tokens m) (l.set i g' ++ new)
      change s.started.count m = s.arrived m + total (Goroutine.tokens m) l at hold
      change _ = _ + total (Goroutine.tokens m) new at hstep
      omega
  | router hlive h =>
    have harrived := account_router h
    cases h <;> exact ⟨hproper, hhttp, hworker, fun m => by rw [harrived]; exact haccount m⟩
  | main hlive h =>
    obtain ⟨hhttp', hworker', hstarted, -, harrived⟩ := account_main h
    refine ⟨hproper, hhttp'.trans hhttp, hworker'.trans hworker, fun m => ?_⟩
    rw [hstarted, harrived]
    exact haccount m
  | @arrive s l hlive h req =>
    refine ⟨forall_mem_join hproper (proper_start cfg _), ?_, ?_, fun m => ?_⟩
    · rw [total_append, total_cons, total_nil]
      exact hhttp
    · rw [total_append, total_cons, total_nil]
      exact hworker
    · rw [total_append, total_cons, total_nil]
      exact haccount m

end Sofon
