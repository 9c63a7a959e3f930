import Sofon.Pipeline.Account
import Sofon.Pipeline.Signal

/-!
# Closing the channels

`Container.Shutdown` closes `jobChan`, `resultChan` and `alertChan`, and waits in
between for the checks and for the result workers.  A channel must not be closed
before the last send on it, and a wait must not pass before the last `Add`.

`alertChan`, `successChan` and `failureChan` are safe by construction.  The other two
are not: nobody waits for the scheduler, which may be inside a batch, and nobody
waits for the executor's workers, which may be between loading a monitor and
`httpWg.Add(1)`.

* `Silent`: the scheduler will offer nothing before its next tick.
* `Barren`: the worker will start no check before its next job.
* `Orderly`: the scheduler is silent when `jobChan` is closed, and the workers are
  barren when the wait for the checks passes.

Both last.  After the signal every call that the scheduler or a worker makes is abandoned, so
whatever function they begin comes to nothing (`silent_doWork`, `barren_startWork`), and once
silent or barren they stay so (`silent_step`, `barren_step`).

The invariant has a part for each phase of `main` (`Closing`): which channels are closed by then,
which are drained, and who has left.  A closed channel that is empty stays so
(`drained_step`), a result worker leaves behind a drained channel (`left_step`), and the counters
only go down (`counters_le`).  `closing_main` takes the phases in order, and `tidy_step` says that
an orderly step keeps the invariant.

In an orderly run no goroutine sends on a closed channel, and every check that was
started has been handled when `Shutdown` returns, since by then no counter counts a goroutine
with a result and all channels are drained (`shutdown_orderly`).  Neither is so in every run
(`shutdown_disorderly`).
-/

namespace Sofon

open Interleaving Program Transition

/-! ## What a cancelled context does -/

/-- The call was made with a cancelled context. -/
def Call.Abandoned : Call → Prop
  | ⟨.redis _, r⟩ => r = .error .canceled
  | ⟨.sql _, r⟩ => r = .error .canceled
  | ⟨.ctxDone, b⟩ => b = true
  | ⟨.offer _, o⟩ => o ≠ .full
  | _ => True

theorem abandoned_of_serves {s s' : Shared} {c : Cmd} {r : c.Resp} (h : s.Serves true c r s') :
    Call.Abandoned ⟨c, r⟩ := by
  cases c with
  | offer job =>
    rcases Shared.serves_offer h with ⟨rfl, -⟩ | ⟨rfl, -⟩ | ⟨-, hb, -⟩
    · exact Offer.noConfusion
    · exact Offer.noConfusion
    · cases hb
  | redis c | sql query | ctxDone =>
    obtain ⟨w', ⟨e, he⟩, -⟩ := Shared.serves_worldly rfl h
    exact (congrArg Prod.fst he).symm
  | timeNow | send ev => trivial

/-- A command that Redis never sees is tried once. -/
theorem follows_retry_abandoned {S : Cmd → Prop} {c : RedisCmd} (hc : S (.redis c))
    (hctx : S .ctxDone) (n : ℕ) :
    (RedisClient.retry (n + 1) (call (.redis c))).Follows (Protocol.stateless S Call.Abandoned)
      (fun x _ => x = .error .canceled) () := by
  refine ⟨hc, fun r hr => ?_⟩
  obtain rfl : r = .error .canceled := hr
  refine ⟨hctx, fun b hb => ?_⟩
  obtain rfl : b = true := hb
  exact rfl

namespace Goroutine

/-- The scheduler, as soon as it sees that the context is cancelled, offers nothing
more before its next tick. -/
def Silent : Goroutine → Prop
  | runs .doWork t => t.todo.Follows
      (Protocol.stateless (fun c => ∀ job, c ≠ .offer job) Call.Abandoned) (fun _ _ => True) ()
  | _ => True

/-- The worker, as soon as it sees that the context is cancelled, starts no check
before its next job. -/
def Barren : Goroutine → Prop
  | runs (.startWork _) t => t.todo.Follows
      (Protocol.stateless (fun _ => True) Call.Abandoned) (fun p _ => p = .jobs) ()
  | stands (.loaded _) => False
  | stands (.acquired _) => False
  | _ => True

end Goroutine

/-- A batch that is begun too late stays in the schedule. -/
theorem silent_doWork (cfg : Config) : (Goroutine.start cfg .doWork).Silent := by
  have hpop : (RedisClient.popDue cfg.batchSize).Follows
      (Protocol.stateless (fun c => ∀ job, c ≠ .offer job) Call.Abandoned)
      (fun x _ => x = .error .canceled) () :=
    follows_retry_abandoned (fun _ => Cmd.noConfusion) (fun _ => Cmd.noConfusion) 2
  have hwork : (Scheduler.doWork Member.printedOnly cfg.batchSize).Follows
      (Protocol.stateless (fun c => ∀ job, c ≠ .offer job) Call.Abandoned) (fun _ _ => True)
      () := by
    refine ⟨fun _ => Cmd.noConfusion, fun now _ => hpop.bind fun x _ hx => ?_⟩
    obtain rfl : x = .error .canceled := hx
    trivial
  exact hwork.bind fun _ _ _ => trivial

/-- A monitor that cannot be loaded is not checked. -/
theorem barren_startWork (cfg : Config) (m : UUID) :
    (Goroutine.start cfg (.startWork m)).Barren := by
  have hplan : (MonitorService.scheduleMonitor m 5).Follows
      (Protocol.stateless (fun _ => True) Call.Abandoned) (fun _ _ => True) () := by
    refine ⟨trivial, fun now _ => ?_⟩
    exact (follows_retry_abandoned (S := fun _ => True) trivial trivial 2).bind fun _ _ _ => trivial
  have hwork : (Executor.startWork m).Follows (Protocol.stateless (fun _ => True) Call.Abandoned)
      (fun x _ => x = none) () := by
    refine ⟨trivial, fun r hr => ?_⟩
    obtain rfl : r = .error .canceled := hr
    exact hplan.bind fun _ _ _ => rfl
  refine hwork.bind fun x _ hx => ?_
  subst hx
  exact rfl

section Step

variable {cfg : Config} {s s' : Shared} {g g' : Goroutine} {x : Label} {new : List Goroutine}

/-- **After the signal the scheduler stays silent.**  A tick that is begun then has its calls
abandoned, so it has no batch to offer anything of. -/
theorem silent_step (h : Goroutine.Step cfg s g x s' g' new) (hsig : s.cancelled = true)
    (hg : g.Silent) : g'.Silent ∧ ∀ p ∈ new, p.Silent := by
  cases h with
  | @call _ task c k r log h =>
    refine ⟨?_, fun p hp => nomatch hp⟩
    cases task with
    | doWork =>
      change Shared.Serves s.cancelled s c r s' at h
      rw [hsig] at h
      exact hg.2 r (abandoned_of_serves h)
    | startWork m | handle ok r' | request req => trivial
  | tick => exact ⟨silent_doWork cfg, fun p hp => nomatch hp⟩
  | spawn => exact ⟨trivial, List.forall_mem_singleton.mpr trivial⟩
  | _ => exact ⟨trivial, fun p hp => nomatch hp⟩

/-- **And the workers stay barren.**  A job that is taken up then comes to an end with the loading
of its monitor, which is abandoned, and no check is started. -/
theorem barren_step (h : Goroutine.Step cfg s g x s' g' new) (hsig : s.cancelled = true)
    (hproper : g.Proper) (hg : g.Barren) : g'.Barren ∧ ∀ p ∈ new, p.Barren := by
  cases h with
  | @call _ task c k r log h =>
    refine ⟨?_, fun p hp => nomatch hp⟩
    cases task with
    | startWork m =>
      change Shared.Serves s.cancelled s c r s' at h
      rw [hsig] at h
      exact hg.2 r (abandoned_of_serves h)
    | doWork | handle ok r' | request req => trivial
  | @ret task p log =>
    refine ⟨?_, fun p hp => nomatch hp⟩
    have hend : task.EndsAt p := hproper
    cases task with
    | startWork m =>
      obtain rfl : p = .jobs := hg
      trivial
    | doWork | handle ok r | request req => cases hend; trivial
  | @take job ch h => exact ⟨barren_startWork cfg _, fun p hp => nomatch hp⟩
  | acquire h => exact hg.elim
  | spawn => exact hg.elim
  | _ => exact ⟨trivial, fun p hp => nomatch hp⟩

/-! ## Sends and waits -/

/-- **No goroutine panics** while the scheduler is silent once `jobChan` is closed,
no check is left once `resultChan` is closed, and no result worker is left once
`alertChan` is closed. -/
theorem noPanic_step (h : Goroutine.Step cfg s g x s' g' new) (hlive : s.panicked = false)
    (hproper : g.Proper) (hjobs : s.jobChan.closed = true → g.Silent)
    (hresults : s.resultChan.closed = true → g.checks = 0)
    (halerts : s.alertChan.closed = true → g.works = 0) : s'.panicked = false := by
  cases h with
  | @call _ task c k r log h =>
    cases c with
    | offer job =>
      rcases Shared.serves_offer h with ⟨-, ⟨ch, -, rfl⟩ | ⟨hpanic, -⟩⟩ | ⟨-, -, rfl⟩ | ⟨-, -, rfl⟩
      · exact hlive
      · obtain rfl : task = .doWork := hproper.1
        have hsilent := (hjobs (Channel.closed_of_panics hpanic)).1
        exact absurd rfl (hsilent job)
      · exact hlive
      · exact hlive
    | send ev =>
      rcases Shared.serves_send h with ⟨ch, ks, -, rfl⟩ | ⟨hpanic, -⟩
      · exact hlive
      · obtain ⟨ok, r', rfl⟩ : ∃ ok r, task = .handle ok r := hproper.1
        cases halerts (Channel.closed_of_panics hpanic)
    | timeNow | ctxDone | redis c | sql query =>
      obtain ⟨w', -, rfl⟩ := Shared.serves_worldly rfl h
      exact hlive
  | @ret task p log => cases task <;> exact hlive
  | pushPanics h => cases hresults (Channel.closed_of_panics h)
  | _ => exact hlive

/-- **The counters go down** but for the checks that a barren worker does not start. -/
theorem counters_le (h : Goroutine.Step cfg s g x s' g' new) :
    s'.workerWG ≤ s.workerWG ∧ (g.Barren → s'.httpWg ≤ s.httpWg) := by
  cases h with
  | call h =>
    obtain ⟨w, jobs, alerts, p, rfl, -⟩ := Shared.serves_frame h
    exact ⟨le_rfl, fun _ => le_rfl⟩
  | @ret task p log => cases task <;> exact ⟨le_rfl, fun _ => le_rfl⟩
  | spawn => exact ⟨le_rfl, fun hg => hg.elim⟩
  | done => exact ⟨le_rfl, fun _ => Nat.sub_le _ 1⟩
  | leaveResults => exact ⟨Nat.sub_le _ 1, fun _ => le_rfl⟩
  | _ => exact ⟨le_rfl, fun _ => le_rfl⟩

theorem drained_step (h : Goroutine.Step cfg s g x s' g' new) :
    (s.resultChan.Drained → s'.resultChan.Drained) ∧
      ∀ ok, (s.routed ok).Drained → (s'.routed ok).Drained := by
  cases h with
  | call h =>
    obtain ⟨w, jobs, alerts, p, rfl, -⟩ := Shared.serves_frame h
    exact ⟨id, fun _ => id⟩
  | @ret task p log => cases task <;> exact ⟨id, fun _ => id⟩
  | push h => exact ⟨fun hd => absurd h hd.send_ne_ok, fun _ => id⟩
  | @receive ok r ch h =>
    refine ⟨id, fun ok' hd => ?_⟩
    by_cases hok : ok' = ok
    · subst hok
      exact absurd h hd.recv_ne_some
    · rwa [Shared.setRouted_of_ne hok]
  | _ => exact ⟨id, fun _ => id⟩

/-- Closing one of the two channels drains none that was not. -/
theorem drained_setRouted_close {ok ok' : Bool} (h : (s.routed ok').Drained) :
    ((s.setRouted ok (s.routed ok).close).routed ok').Drained := by
  by_cases hok : ok' = ok
  · subst hok
    rw [Shared.setRouted_self]
    exact h.close
  · rwa [Shared.setRouted_of_ne hok]

/-- A result worker leaves a drained channel behind. -/
def Goroutine.Left (s : Shared) : Goroutine → Prop
  | stands (.resultsDone ok) => (s.routed ok).Drained
  | _ => True

theorem Goroutine.Left.mono {p : Goroutine} (hp : p.Left s)
    (h : ∀ ok, (s.routed ok).Drained → (s'.routed ok).Drained) : p.Left s' := by
  cases p with
  | stands p =>
    cases p with
    | resultsDone ok => exact h ok hp
    | _ => trivial
  | runs task t => trivial

theorem left_step (h : Goroutine.Step cfg s g x s' g' new) (hproper : g.Proper) :
    g'.Left s' ∧ ∀ p ∈ new, p.Left s' := by
  cases h with
  | @ret task p log =>
    refine ⟨?_, fun p hp => nomatch hp⟩
    have hend : task.EndsAt p := hproper
    cases task with
    | startWork m => obtain rfl | ⟨x, rfl⟩ := hend <;> trivial
    | doWork | handle ok r | request req => cases hend; trivial
  | leaveResults h => exact ⟨h, fun p hp => nomatch hp⟩
  | spawn => exact ⟨trivial, List.forall_mem_singleton.mpr trivial⟩
  | _ => exact ⟨trivial, fun p hp => nomatch hp⟩

/-- A worker of `successChan` or `failureChan`, or what is left of it. -/
def Goroutine.Serving (ok : Bool) : Goroutine → Prop
  | stands (.results ok') => ok' = ok
  | stands (.resultsDone ok') => ok' = ok
  | runs (.handle ok' _) _ => ok' = ok
  | _ => False

theorem serving_step {ok : Bool} (h : Goroutine.Step cfg s g x s' g' new) (hproper : g.Proper)
    (hg : g.Serving ok) : g'.Serving ok := by
  cases h with
  | @call _ task c k r log h => cases task <;> exact hg
  | @ret task p log =>
    have hend : task.EndsAt p := hproper
    cases task with
    | handle ok' r => cases hend; exact hg
    | _ => exact hg.elim
  | receive h => exact hg
  | leaveResults h => exact hg
  | _ => exact hg.elim

end Step

/-! ## The invariant -/

/-- As long as the router has results to pass on, both of its channels are open;
when it closes them, `resultChan` is drained. -/
def Router.Tidy (routed : Bool → Channel HTTPResult) (results : Channel HTTPResult) :
    Router → Prop
  | ranging => ∀ ok, (routed ok).closed = false
  | routing _ => ∀ ok, (routed ok).closed = false
  | _ => results.Drained

theorem Router.Tidy.mono {routed routed' : Bool → Channel HTTPResult}
    {results results' : Channel HTTPResult} {r : Router} (h : r.Tidy routed results)
    (hclosed : ∀ ok, (routed' ok).closed = (routed ok).closed)
    (hdrained : results.Drained → results'.Drained) : r.Tidy routed' results' := by
  cases r with
  | ranging | routing r => exact fun ok => (hclosed ok).trans (h ok)
  | closingFailure | closingSuccess | done => exact hdrained h

/-- What has been closed, and who is done, when `main` has got to `p`. -/
structure Closing (p : Phase) (s : System) : Prop where
  jobs : s.shared.jobChan.closed = decide (3 ≤ p.rank)
  results : s.shared.resultChan.closed = decide (5 ≤ p.rank)
  alerts : s.shared.alertChan.closed = decide (7 ≤ p.rank)
  silent : 3 ≤ p.rank → ∀ g ∈ s.procs, g.Silent
  barren : 4 ≤ p.rank → ∀ g ∈ s.procs, g.Barren
  checksDone : 4 ≤ p.rank → s.shared.httpWg = 0
  workersDone : 6 ≤ p.rank → s.shared.workerWG = 0

/-- What holds of an orderly run. -/
structure Tidy (s : System) : Prop where
  live : s.shared.panicked = false
  balanced : Balanced s
  closing : Closing s.shared.main s
  router : s.shared.router.Tidy s.shared.routed s.shared.resultChan
  left : ∀ g ∈ s.procs, g.Left s.shared
  staffed : ∀ ok, ∃ g ∈ s.procs, g.Serving ok

/-- **The condition of a clean shutdown.**  When `jobChan` is closed, the scheduler is
not inside a batch of which it would still offer something; when the wait for the
checks passes, no worker is between loading a monitor that it will check and
`httpWg.Add(1)`. -/
def Orderly (s : System) (x : Label) : Prop :=
  (x = .main .jobsClosed → ∀ g ∈ s.procs, g.Silent) ∧
    (x = .main .checksDone → ∀ g ∈ s.procs, g.Barren)

theorem tidy_boot (cfg : Config) (w : World) (hsuccess : 0 < cfg.resultProcessor.successWorkerCount)
    (hfailure : 0 < cfg.resultProcessor.failureWorkerCount) : Tidy (.boot cfg w) where
  live := rfl
  balanced := balanced_boot cfg w
  closing := by
    have hclosing : Closing .running (.boot cfg w) :=
      ⟨rfl, rfl, rfl, fun h => absurd h (by decide), fun h => absurd h (by decide),
        fun h => absurd h (by decide), fun h => absurd h (by decide)⟩
    exact hclosing
  router _ := rfl
  left := System.forall_mem_boot trivial trivial (fun _ => trivial) trivial cfg w
  staffed ok := by
    refine ⟨.stands (.results ok), ?_, rfl⟩
    simp only [System.boot, List.mem_cons, List.mem_append, List.mem_replicate]
    cases ok with
    | true => exact Or.inr (Or.inl (Or.inl (Or.inr ⟨hsuccess.ne', rfl⟩)))
    | false => exact Or.inr (Or.inl (Or.inr ⟨hfailure.ne', rfl⟩))

variable {cfg : Config}

/-- **What `main` does, in order.** -/
theorem closing_main {s s' : Shared} {l : List Goroutine} (h : Main.Step s s')
    (hs : Closing s.main ⟨s, l⟩) (horderly : Orderly ⟨s, l⟩ (.main s'.main)) :
    Closing s'.main ⟨s', l⟩ := by
  cases h with
  | signal hm =>
    rw [hm] at hs
    show Closing .signalled _
    exact ⟨hs.jobs, hs.results, hs.alerts, fun h => absurd h (by decide),
      fun h => absurd h (by decide), fun h => absurd h (by decide), fun h => absurd h (by decide)⟩
  | serverDown hm =>
    rw [hm] at hs
    show Closing .serverDown _
    exact ⟨hs.jobs, hs.results, hs.alerts, fun h => absurd h (by decide),
      fun h => absurd h (by decide), fun h => absurd h (by decide), fun h => absurd h (by decide)⟩
  | closeJobs hm =>
    rw [hm] at hs
    show Closing .jobsClosed _
    exact ⟨rfl, hs.results, hs.alerts, fun _ => horderly.1 rfl, fun h => absurd h (by decide),
      fun h => absurd h (by decide), fun h => absurd h (by decide)⟩
  | waitChecks hm h =>
    rw [hm] at hs
    show Closing .checksDone _
    exact ⟨hs.jobs, hs.results, hs.alerts, fun _ => hs.silent (by decide), fun _ => horderly.2 rfl,
      fun _ => h, fun h => absurd h (by decide)⟩
  | closeResults hm =>
    rw [hm] at hs
    show Closing .resultsClosed _
    exact ⟨hs.jobs, rfl, hs.alerts, fun _ => hs.silent (by decide), fun _ => hs.barren (by decide),
      fun _ => hs.checksDone (by decide), fun h => absurd h (by decide)⟩
  | waitWorkers hm h =>
    rw [hm] at hs
    show Closing .workersDone _
    exact ⟨hs.jobs, hs.results, hs.alerts, fun _ => hs.silent (by decide),
      fun _ => hs.barren (by decide), fun _ => hs.checksDone (by decide), fun _ => h⟩
  | closeAlerts hm =>
    rw [hm] at hs
    exact ⟨hs.jobs, hs.results, rfl, fun _ => hs.silent (by decide), fun _ => hs.barren (by decide),
      fun _ => hs.checksDone (by decide), fun _ => hs.workersDone (by decide)⟩
  | waitAlerts hm h =>
    rw [hm] at hs
    exact ⟨hs.jobs, hs.results, hs.alerts, fun _ => hs.silent (by decide),
      fun _ => hs.barren (by decide), fun _ => hs.checksDone (by decide),
      fun _ => hs.workersDone (by decide)⟩

theorem tidy_main {s s' : Shared} {l : List Goroutine} (h : Main.Step s s') (hs : Tidy ⟨s, l⟩)
    (horderly : Orderly ⟨s, l⟩ (.main s'.main)) (hbalanced : Balanced ⟨s', l⟩) : Tidy ⟨s', l⟩ := by
  have hclosing := closing_main h hs.closing horderly
  cases h with
  | closeResults hm =>
    exact ⟨hs.live, hbalanced, hclosing, hs.router.mono (fun _ => rfl) Channel.Drained.close,
      hs.left, hs.staffed⟩
  | _ => exact ⟨hs.live, hbalanced, hclosing, hs.router, hs.left, hs.staffed⟩

/-- **What the router does.** -/
theorem tidy_router {s s' : Shared} {l : List Goroutine} (h : Router.Step s s') (hs : Tidy ⟨s, l⟩)
    (hbalanced : Balanced ⟨s', l⟩) : Tidy ⟨s', l⟩ := by
  obtain ⟨hlive, -, hclosing, hrouter, hleft, hstaffed⟩ := hs
  simp only at hrouter
  obtain ⟨hjobs, hresults, halerts, hsilent, hbarren, hchecks, hworkers⟩ := hclosing
  cases h with
  | receive hr h =>
    rw [hr] at hrouter
    exact ⟨hlive, hbalanced, ⟨hjobs, (Channel.recv_some h).2.trans hresults, halerts, hsilent,
      hbarren, hchecks, hworkers⟩, hrouter,
      hleft, hstaffed⟩
  | @deliver r ch hr h =>
    rw [hr] at hrouter
    have hopen := (Channel.send_ok h).2.1
    refine ⟨hlive, hbalanced, ⟨hjobs, hresults, halerts, hsilent, hbarren, hchecks,
      hworkers⟩, fun ok => ?_,
      fun g hg => (hleft g hg).mono fun ok hd => ?_, hstaffed⟩
    · show ((s.setRouted r.success ch).routed ok).closed = false
      by_cases hok : ok = r.success
      · rw [hok, Shared.setRouted_self]
        exact hopen
      · rw [Shared.setRouted_of_ne hok]
        exact hrouter ok
    · -- a drained channel is closed, and here both are open
      exact absurd ((hrouter ok).symm.trans hd.1) Bool.false_ne_true
  | deliverPanics hr h =>
    rw [hr] at hrouter
    exact absurd ((hrouter _).symm.trans (Channel.closed_of_panics h)) Bool.false_ne_true
  | leave hr h =>
    exact ⟨hlive, hbalanced, ⟨hjobs, hresults, halerts, hsilent, hbarren, hchecks,
      hworkers⟩, h, hleft, hstaffed⟩
  | closeFailure hr | closeSuccess hr =>
    rw [hr] at hrouter
    refine ⟨hlive, hbalanced, ⟨hjobs, hresults, halerts, hsilent, hbarren, hchecks,
      hworkers⟩, hrouter,
      fun g hg => (hleft g hg).mono fun ok hd => ?_, hstaffed⟩
    exact drained_setRouted_close hd

/-- **What a goroutine does.** -/
theorem tidy_proc {s s' : Shared} {l new : List Goroutine} {i : ℕ} {g g' : Goroutine} {x : Label}
    (hi : l[i]? = some g) (h : Goroutine.Step cfg s g x s' g' new) (hs : Tidy ⟨s, l⟩)
    (hbalanced : Balanced ⟨s', l.set i g' ++ new⟩) : Tidy ⟨s', l.set i g' ++ new⟩ := by
  obtain ⟨hlive, hold, hclosing, hrouter, hleft, hstaffed⟩ := hs
  obtain ⟨hjobs, hresults, halerts, hsilent, hbarren, hchecks, hworkers⟩ := hclosing
  simp only at hlive hjobs hresults halerts hsilent hbarren hchecks hworkers hrouter hleft hstaffed
  have hmem : g ∈ l := List.mem_of_getElem? hi
  have hproper : g.Proper := hold.proper g hmem
  obtain ⟨hmain, hpos, hjobs', hresults', hrouted', halerts'⟩ := h.frame
  obtain ⟨hresultsDrained, hroutedDrained⟩ := drained_step h
  obtain ⟨hworkerWG, hhttpWg⟩ := counters_le h
  have hsig : 3 ≤ s.main.rank → s.cancelled = true := by
    intro hrank
    rw [Shared.cancelled, decide_eq_true_eq]
    intro hrun
    rw [hrun] at hrank
    exact absurd hrank (by decide)
  refine ⟨?_, hbalanced, ?_, ?_, ?_, fun ok => ?_⟩
  · refine noPanic_step h hlive hproper (fun hc => ?_) (fun hc => ?_) fun hc => ?_
    · exact hsilent (of_decide_eq_true (hjobs.symm.trans hc)) g hmem
    · -- the wait for the checks has passed
      have hrank : 5 ≤ s.main.rank := of_decide_eq_true (hresults.symm.trans hc)
      have hzero : total Goroutine.checks l = 0 := hold.httpWg.symm.trans (hchecks (by omega))
      exact Nat.le_zero.mp (hzero ▸ le_total Goroutine.checks hmem)
    · -- and here the wait for the result workers
      have hrank : 7 ≤ s.main.rank := of_decide_eq_true (halerts.symm.trans hc)
      have hzero : total Goroutine.works l = 0 := hold.workerWG.symm.trans (hworkers (by omega))
      exact Nat.le_zero.mp (hzero ▸ le_total Goroutine.works hmem)
  · show Closing s'.main _
    rw [hmain]
    refine ⟨hjobs'.trans hjobs, hresults'.trans hresults, halerts'.trans halerts, fun hrank => ?_,
      fun hrank => ?_, fun hrank => ?_, fun hrank => ?_⟩
    · obtain ⟨hg', hnew⟩ := silent_step h (hsig hrank) (hsilent hrank g hmem)
      exact forall_mem_step (hsilent hrank) (fun _ _ h => h) hg' hnew
    · obtain ⟨hg', hnew⟩ := barren_step h (hsig (by omega)) hproper (hbarren hrank g hmem)
      exact forall_mem_step (hbarren hrank) (fun _ _ h => h) hg' hnew
    · exact Nat.le_zero.mp (hchecks hrank ▸ hhttpWg (hbarren hrank g hmem))
    · exact Nat.le_zero.mp (hworkers hrank ▸ hworkerWG)
  · show s'.router.Tidy _ _
    rw [hpos]
    exact hrouter.mono hrouted' hresultsDrained
  · obtain ⟨hg', hnew⟩ := left_step h hproper
    exact forall_mem_step hleft (fun p _ hp => hp.mono hroutedDrained) hg' hnew
  · obtain ⟨p, hp, hserving⟩ := hstaffed ok
    have hwhere : p = g ∨ p ∈ l.set i g' ++ new := mem_step hi hp
    rcases hwhere with rfl | hp
    · exact ⟨g', moved_mem_step hi, serving_step h hproper hserving⟩
    · exact ⟨p, hp, hserving⟩

/-- **An orderly step keeps everything tidy.**  The stages of the shutdown follow each other, and by
the condition the step does not close a channel that somebody will still send on. -/
theorem tidy_step {s t : System} {x : Label} (h : System.Step cfg s x t) (hx : Orderly s x)
    (hs : Tidy s) : Tidy t := by
  have hbalanced := balanced_step h hs.balanced
  cases h with
  | proc hlive hi h => exact tidy_proc hi h hs hbalanced
  | router hlive h => exact tidy_router h hs hbalanced
  | main hlive h => exact tidy_main h hs hx hbalanced
  | @arrive s l hlive h req =>
    obtain ⟨hlive, -, ⟨hjobs, hresults, halerts, hsilent, hbarren, hchecks, hworkers⟩, hrouter,
      hleft, hstaffed⟩ := hs
    refine ⟨hlive, hbalanced, ⟨hjobs, hresults, halerts,
      fun hrank => forall_mem_join (hsilent hrank) trivial,
      fun hrank => forall_mem_join (hbarren hrank) trivial, hchecks, hworkers⟩, hrouter,
      forall_mem_join hleft trivial, fun ok => ?_⟩
    obtain ⟨g, hg, hserving⟩ := hstaffed ok
    exact ⟨g, List.mem_append_left _ hg, hserving⟩

/-! ## The end -/

/-- A goroutine that no wait group counts has no result. -/
theorem tokens_eq_zero {g : Goroutine} (hc : g.checks = 0) (hw : g.works = 0) (m : UUID) :
    g.tokens m = 0 := by
  cases g with
  | stands p => cases p <;> first | rfl | cases hc
  | runs task t => cases task <;> first | rfl | cases hw

/-- **Everything has been handled** when `Shutdown` returns: no goroutine is left that has a result
in hand, and the channels are closed and empty, so the accounts say that what was started is what
was handled. -/
theorem handled_of_tidy {s : System} (hs : Tidy s) (hret : s.shared.main = .returned) :
    (s.shared.handled.map (·.monitorID)).Perm s.shared.started := by
  have hclosing : Closing .returned s := hret ▸ hs.closing
  have hchecks : ∀ g ∈ s.procs, g.checks = 0 := by
    have hzero : total Goroutine.checks s.procs = 0 :=
      hs.balanced.httpWg.symm.trans (hclosing.checksDone (by decide))
    exact fun g hg => Nat.le_zero.mp (hzero ▸ le_total Goroutine.checks hg)
  have hworks : ∀ g ∈ s.procs, g.works = 0 := by
    have hzero : total Goroutine.works s.procs = 0 :=
      hs.balanced.workerWG.symm.trans (hclosing.workersDone (by decide))
    exact fun g hg => Nat.le_zero.mp (hzero ▸ le_total Goroutine.works hg)
  -- a worker that has gone has left a drained channel
  have hdrained : ∀ ok, (s.shared.routed ok).Drained := by
    intro ok
    obtain ⟨g, hg, hserving⟩ := hs.staffed ok
    have hwork := hworks g hg
    have hgone := hs.left g hg
    cases g with
    | stands p =>
      cases p with
      | resultsDone ok' =>
        obtain rfl : ok' = ok := hserving
        exact hgone
      | results ok' => cases hwork
      | _ => exact hserving.elim
    | runs task t =>
      cases task with
      | handle ok' r => cases hwork
      | _ => exact hserving.elim
  have hrouter : ∀ m, s.shared.resultChan.queue = [] ∧ s.shared.router.tokens m = 0 := by
    intro m
    have htidy := hs.router
    cases hr : s.shared.router with
    | ranging | routing r =>
      rw [hr] at htidy
      exact absurd ((htidy true).symm.trans (hdrained true).1) Bool.false_ne_true
    | closingFailure | closingSuccess | done =>
      rw [hr] at htidy
      exact ⟨htidy.2, rfl⟩
  refine List.perm_iff_count.mpr fun m => ?_
  have htokens : total (·.tokens m) s.procs = 0 :=
    total_eq_zero _ fun g hg => tokens_eq_zero (hchecks g hg) (hworks g hg) m
  have haccount := hs.balanced.account m
  rw [htokens, Shared.arrived, (hrouter m).1, (hrouter m).2, (hdrained true).2, (hdrained false).2]
    at haccount
  rw [haccount, List.count_eq_countP, List.countP_map]
  rfl

/-- **An orderly shutdown is clean.**  In every run in which the scheduler is silent
when `jobChan` is closed and the workers are barren when the wait for the checks
passes, no goroutine sends on a closed channel, and every check that was started has
been handled when `Shutdown` returns. -/
theorem shutdown_orderly {w : World} {s : System} {l : List Label}
    (hsuccess : 0 < cfg.resultProcessor.successWorkerCount)
    (hfailure : 0 < cfg.resultProcessor.failureWorkerCount)
    (h : Runs (fun s x t => System.Step cfg s x t ∧ Orderly s x) (.boot cfg w) l s) :
    s.shared.panicked = false ∧ (s.shared.main = .returned →
      (s.shared.handled.map (·.monitorID)).Perm s.shared.started) := by
  have hs : Tidy s := h.invariant (tidy_boot cfg w hsuccess hfailure)
    fun _ _ _ _ hstep hs => tidy_step hstep.1 hstep.2 hs
  exact ⟨hs.live, handled_of_tidy hs⟩

namespace Sample

/-- The goroutine is not inside a batch or on the way to a check. -/
def atRest : Goroutine → Bool
  | .runs .doWork _ => false
  | .runs (.startWork _) _ => false
  | .stands (.loaded _) => false
  | .stands (.acquired _) => false
  | _ => true

theorem silent_barren_of_atRest {g : Goroutine} (h : atRest g = true) : g.Silent ∧ g.Barren := by
  cases g with
  | stands p => cases p <;> first | exact ⟨trivial, trivial⟩ | cases h
  | runs task t => cases task <;> first | exact ⟨trivial, trivial⟩ | cases h

/-- The scheduler has popped a batch, and offers its job after `jobChan` has been closed. -/
def lateOffer : List Move := moves 0 3 ++ List.replicate 3 Move.main ++ moves 0 1

/-- A worker has loaded its monitor when the wait for the checks passes, and then starts the
check. -/
def lateCheck : List Move :=
  moves 0 5 ++ moves 1 4 ++ List.replicate 4 Move.main ++ moves 1 2 ++ Move.main ::
    List.replicate 3 Move.router ++ workersLeave

/-- `main` closes channels and stops waiting only while all goroutines are at rest. -/
def unhurried (s : System) : Label → Bool
  | .main _ => s.procs.all atRest
  | _ => true

theorem orderly_of_unhurried {s : System} {x : Label} (h : unhurried s x = true) : Orderly s x := by
  constructor
  all_goals
    rintro rfl g hg
    have hrest : atRest g = true := List.all_eq_true.mp h g hg
    have hboth := silent_barren_of_atRest hrest
  · exact hboth.1
  · exact hboth.2

end Sample

/-- One monitor is checked and its result is handled; then the signal comes. -/
theorem shutdown_orderly_sample :
    ∃ s : System, (s.shared.main = .returned ∧ s.shared.started = [1]) ∧
      s.shared.panicked = false ∧ (s.shared.main = .returned →
        (s.shared.handled.map (·.monitorID)).Perm s.shared.started) := by
  have hplay : (System.play .least Sample.unhurried
      (Sample.checkStarted ++ Sample.checkHandled ++ .main :: Sample.shutDown [])
      (.boot .least Sample.scheduled)).any (fun s =>
        decide (s.shared.main = .returned) && decide (s.shared.started = [1])) := by decide
  obtain ⟨s, hs, hcheck⟩ := (Option.any_eq_true _ _).mp hplay
  obtain ⟨hret, hstarted⟩ := Bool.and_eq_true_iff.mp hcheck
  obtain ⟨l, hl⟩ := System.runs_of_play hs
  refine ⟨s, ⟨of_decide_eq_true hret, of_decide_eq_true hstarted⟩, ?_⟩
  exact shutdown_orderly (Nat.succ_pos 4) (Nat.succ_pos 4)
    (hl.mono fun _ _ _ h => ⟨h.1, Sample.orderly_of_unhurried h.2⟩)

/-- **A shutdown may go wrong in both ways**, although no call fails but for its
context: the scheduler pops a batch before the signal and offers a job after
`jobChan` has been closed; and a worker has loaded its monitor when the wait for the
checks passes, so that its check is started but not handled. -/
theorem shutdown_disorderly :
    (¬ ∀ (cfg : Config) (w : World) (s : System) (l : List Label), cfg.Valid → (∀ x ∈ l, x.Works) →
      Runs (System.Step cfg) (.boot cfg w) l s → s.shared.panicked = false) ∧
    ¬ ∀ (cfg : Config) (w : World) (s : System) (l : List Label), cfg.Valid → (∀ x ∈ l, x.Works) →
      Runs (System.Step cfg) (.boot cfg w) l s → s.shared.main = .returned →
        (s.shared.handled.map (·.monitorID)).Perm s.shared.started := by
  constructor
  · intro hclaim
    have hplay : (System.play .least (fun _ x => decide x.Works)
        Sample.lateOffer (.boot .least Sample.scheduled)).any (·.shared.panicked) := by decide
    obtain ⟨s, hs, hpanic⟩ := (Option.any_eq_true _ _).mp hplay
    obtain ⟨l, hl⟩ := System.runs_of_play hs
    have hlive := hclaim .least Sample.scheduled s l Config.least_valid
      (hl.forall_label fun _ _ _ h => of_decide_eq_true h.2) (hl.mono fun _ _ _ h => h.1)
    exact absurd (hlive.symm.trans hpanic) Bool.false_ne_true
  · intro hclaim
    have hplay : (System.play .least (fun _ x => decide x.Works)
        Sample.lateCheck (.boot .least Sample.scheduled)).any (fun s =>
          decide (s.shared.main = .returned) &&
            (decide (s.shared.started = [1]) && s.shared.handled.isEmpty)) := by decide
    obtain ⟨s, hs, hcheck⟩ := (Option.any_eq_true _ _).mp hplay
    simp only [Bool.and_eq_true, decide_eq_true_eq] at hcheck
    obtain ⟨hret, hstarted, hhandled⟩ := hcheck
    obtain ⟨l, hl⟩ := System.runs_of_play hs
    have hperm := hclaim .least Sample.scheduled s l Config.least_valid
      (hl.forall_label fun _ _ _ h => of_decide_eq_true h.2) (hl.mono fun _ _ _ h => h.1) hret
    rw [hstarted, List.isEmpty_iff.mp hhandled] at hperm
    exact absurd hperm.length_eq (by decide)

end Sofon
