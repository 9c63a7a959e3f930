import Mathlib.Logic.Hydra
import Mathlib.Tactic.Abel
import Sofon.Pipeline.Account
import Sofon.Pipeline.Loop

/-!
# The pipeline does not get stuck

Checks keep their slot of `httpSem` while they wait for `resultChan`, the router serves
two channels and waits for either, and handlers wait for `alertChan` before they
schedule the next run.  Nobody waits in a circle, though: each waits for somebody
further down, and the workers of `alertChan` wait for nobody.

Two things together say that the server works off whatever it has.

* *Progress*: before the signal, as long as anything is left to do, some goroutine has a
  step (`idle_of_stuck`).
* *Termination*: left alone, the server comes to rest (`drains_cut`).

Progress is argued up the pipeline, for a server in which nobody has a step.  The workers of
`alertChan` would have one if there were an alert (`alerts_of_stuck`), so there is room for
alerts and every function can go on (`not_runs_of_stuck`).  So the handlers are back at their
channels and have emptied them (`routed_of_stuck`), the router has passed on what there was
(`router_of_stuck`), no check is left and no slot is taken (`slots_of_stuck`), and the workers of
the executor have emptied `jobChan` (`jobs_of_stuck`).  That each channel has somebody behind it
is an invariant, as are the slots (`Working`).

For termination, all that there is to do is a multiset of chores, each with its distance from the
end of the pipeline and with the program that is left of it.  A step takes one chore and leaves
some that are nearer to the end, or the same one with a call less (`chores_step`).  It is the game
of the hydra: the pieces that grow back are smaller than the one cut off, so it ends.

`pipeline_drains` says both of every state that a run has before the signal.
-/

namespace Sofon

open Interleaving Program Transition

/-- Every capacity and every number of workers is at least one. -/
structure Config.Staffed (cfg : Config) : Prop where
  jobChannelSize : 0 < cfg.app.jobChannelSize
  resultChannelSize : 0 < cfg.app.resultChannelSize
  alertChannelSize : 0 < cfg.app.alertChannelSize
  workerCount : 0 < cfg.executor.workerCount
  httpSemCount : 0 < cfg.executor.httpSemCount
  alertWorkerCount : 0 < cfg.alertWorkerCount
  successWorkerCount : 0 < cfg.resultProcessor.successWorkerCount
  successChannelSize : 0 < cfg.resultProcessor.successChannelSize
  failureWorkerCount : 0 < cfg.resultProcessor.failureWorkerCount
  failureChannelSize : 0 < cfg.resultProcessor.failureChannelSize

/-! ## Who there is -/

/-- The workers of the pipeline, by the channel they receive from. -/
inductive Crew where
  | executor
  | results (ok : Bool)
  | alerts
  deriving DecidableEq

/-- How many of them are started. -/
def Config.crew (cfg : Config) : Crew → ℕ
  | .executor => cfg.executor.workerCount
  | .results true => cfg.resultProcessor.successWorkerCount
  | .results false => cfg.resultProcessor.failureWorkerCount
  | .alerts => cfg.alertWorkerCount

theorem Config.Staffed.crew_pos {cfg : Config} (h : cfg.Staffed) (k : Crew) : 0 < cfg.crew k := by
  cases k with
  | executor => exact h.workerCount
  | results ok =>
    cases ok
    · exact h.failureWorkerCount
    · exact h.successWorkerCount
  | alerts => exact h.alertWorkerCount

namespace Goroutine

/-- The crew that the goroutine belongs to. -/
def crew : Goroutine → Option Crew
  | stands .jobs => some .executor
  | runs (.startWork _) _ => some .executor
  | stands (.loaded _) => some .executor
  | stands (.acquired _) => some .executor
  | stands (.results ok) => some (.results ok)
  | runs (.handle ok _) _ => some (.results ok)
  | stands .alerts => some .alerts
  | stands (.alerting _) => some .alerts
  | _ => none

/-- Is it of the crew `k`? -/
def counted (k : Crew) (g : Goroutine) : ℕ := if g.crew = some k then 1 else 0

/-- The slots of `httpSem` that the goroutine has taken. -/
def slots : Goroutine → ℕ
  | stands (.acquired _) => 1
  | stands (.checking _) => 1
  | stands (.checked _) => 1
  | stands .pushed => 1
  | _ => 0

end Goroutine

/-- The shared state before the signal: all channels are in use. -/
structure Shared.Ready (s : Shared) : Prop where
  live : s.panicked = false
  running : s.main = .running
  jobs : s.jobChan.Usable
  results : s.resultChan.Usable
  routed : ∀ ok, (s.routed ok).Usable
  alerts : s.alertChan.Usable
  router : s.router = .ranging ∨ ∃ r, s.router = .routing r

/-- The server before the signal: nobody has gone, and the semaphore counts the
goroutines that have a slot. -/
structure Working (cfg : Config) (s : System) : Prop where
  ready : s.shared.Ready
  httpSem : s.shared.httpSem = total Goroutine.slots s.procs
  crew : ∀ k, total (Goroutine.counted k) s.procs = cfg.crew k
  balanced : Balanced s

section Step

variable {cfg : Config} {s s' : Shared} {g g' : Goroutine} {x : Label} {new : List Goroutine}

theorem usable_setRouted {ok : Bool} {ch : Channel HTTPResult} (hs : ∀ ok, (s.routed ok).Usable)
    (hch : ch.Usable) : ∀ ok', ((s.setRouted ok ch).routed ok').Usable := by
  intro ok'
  by_cases hok : ok' = ok
  · rwa [hok, Shared.setRouted_self]
  · rw [Shared.setRouted_of_ne hok]
    exact hs ok'

/-- **No goroutine takes a channel out of use.** -/
theorem ready_step (h : Goroutine.Step cfg s g x s' g' new) (hs : s.Ready) : s'.Ready := by
  obtain ⟨hlive, hrunning, hjobs, hresults, hrouted, halerts, hrouter⟩ := hs
  cases h with
  | @call _ task c k r log h =>
    cases c with
    | offer job =>
      rcases Shared.serves_offer h with
        ⟨-, ⟨ch, hch, rfl⟩ | ⟨hpanic, -⟩⟩ | ⟨-, -, rfl⟩ | ⟨-, -, rfl⟩
      · exact ⟨hlive, hrunning, hjobs.send hch, hresults, hrouted, halerts, hrouter⟩
      · exact absurd hpanic hjobs.not_panics
      · exact ⟨hlive, hrunning, hjobs, hresults, hrouted, halerts, hrouter⟩
      · exact ⟨hlive, hrunning, hjobs, hresults, hrouted, halerts, hrouter⟩
    | send ev =>
      rcases Shared.serves_send h with ⟨ch, ks, hch, rfl⟩ | ⟨hpanic, -⟩
      · exact ⟨hlive, hrunning, hjobs, hresults, hrouted, halerts.send hch, hrouter⟩
      · exact absurd hpanic halerts.not_panics
    | timeNow | ctxDone | redis c | sql query =>
      obtain ⟨w', -, rfl⟩ := Shared.serves_worldly rfl h
      exact ⟨hlive, hrunning, hjobs, hresults, hrouted, halerts, hrouter⟩
  | @ret task p log =>
    cases task <;> exact ⟨hlive, hrunning, hjobs, hresults, hrouted, halerts, hrouter⟩
  | take h => exact ⟨hlive, hrunning, hjobs.recv h, hresults, hrouted, halerts, hrouter⟩
  | push h => exact ⟨hlive, hrunning, hjobs, hresults.send h, hrouted, halerts, hrouter⟩
  | pushPanics h => exact absurd h hresults.not_panics
  | @receive ok r ch h =>
    exact ⟨hlive, hrunning, hjobs, hresults, usable_setRouted hrouted ((hrouted ok).recv h),
      halerts, hrouter⟩
  | takeAlert h => exact ⟨hlive, hrunning, hjobs, hresults, hrouted, halerts.recv h, hrouter⟩
  | _ => exact ⟨hlive, hrunning, hjobs, hresults, hrouted, halerts, hrouter⟩

theorem ready_router (h : Router.Step s s') (hs : s.Ready) : s'.Ready := by
  obtain ⟨hlive, hrunning, hjobs, hresults, hrouted, halerts, hrouter⟩ := hs
  cases h with
  | @receive r ch hr h =>
    exact ⟨hlive, hrunning, hjobs, hresults.recv h, hrouted, halerts, Or.inr ⟨r, rfl⟩⟩
  | @deliver r ch hr h =>
    exact ⟨hlive, hrunning, hjobs, hresults, usable_setRouted hrouted ((hrouted _).send h),
      halerts, Or.inl rfl⟩
  | deliverPanics hr h => exact absurd h (hrouted _).not_panics
  | leave hr h => exact absurd h hresults.not_drained
  | closeFailure hr | closeSuccess hr =>
    rw [hr] at hrouter
    rcases hrouter with h | ⟨r, h⟩ <;> cases h

/-- **A worker stays what it is**, and a check is no worker. -/
theorem crew_step (h : Goroutine.Step cfg s g x s' g' new) (hs : s.Ready) (hproper : g.Proper) :
    g'.crew = g.crew ∧ ∀ p ∈ new, p.crew = none := by
  cases h with
  | @call _ task c k r log h =>
    refine ⟨?_, fun p hp => nomatch hp⟩
    cases task <;> rfl
  | @ret task p log =>
    refine ⟨?_, fun p hp => nomatch hp⟩
    have hend : task.EndsAt p := hproper
    cases task with
    | startWork m => obtain rfl | ⟨y, rfl⟩ := hend <;> rfl
    | doWork | handle ok r | request req => cases hend; rfl
  | spawn => exact ⟨rfl, List.forall_mem_singleton.mpr rfl⟩
  | leaveJobs h => exact absurd h hs.jobs.not_drained
  | leaveResults h => exact absurd h (hs.routed _).not_drained
  | leaveAlerts h => exact absurd h hs.alerts.not_drained
  | _ => exact ⟨rfl, fun p hp => nomatch hp⟩

/-- **The semaphore counts.**  It goes up by as many slots as the goroutine and the new ones have
after the step more than the goroutine had before. -/
theorem slots_step (h : Goroutine.Step cfg s g x s' g' new) (hproper : g.Proper)
    (hle : g.slots ≤ s.httpSem) :
    s'.httpSem + g.slots = s.httpSem + g'.slots + total Goroutine.slots new := by
  cases h with
  | call h =>
    obtain ⟨w, jobs, alerts, p, rfl, -⟩ := Shared.serves_frame h
    rfl
  | @ret task p log =>
    have hend : task.EndsAt p := hproper
    cases task with
    | startWork m => obtain rfl | ⟨y, rfl⟩ := hend <;> rfl
    | doWork | handle ok r | request req => cases hend; rfl
  | release =>
    change 1 ≤ s.httpSem at hle
    show s.httpSem - 1 + 1 = s.httpSem
    omega
  | _ => rfl

end Step

theorem working_boot {cfg : Config} (hcfg : cfg.Staffed) (w : World) :
    Working cfg (.boot cfg w) where
  ready := by
    refine ⟨rfl, rfl, Channel.usable_make hcfg.jobChannelSize,
      Channel.usable_make hcfg.resultChannelSize, fun ok => ?_,
      Channel.usable_make hcfg.alertChannelSize, Or.inl rfl⟩
    cases ok
    · exact Channel.usable_make hcfg.failureChannelSize
    · exact Channel.usable_make hcfg.successChannelSize
  httpSem := by simp [System.boot, Goroutine.slots]
  crew k := by
    rcases k with _ | (_ | _) | _ <;>
      simp [System.boot, Goroutine.counted, Goroutine.crew, Config.crew]
  balanced := balanced_boot cfg w

/-- **The invariant is kept until the signal.**  No worker goes, no channel is closed, and the
semaphore counts the goroutines that have a slot. -/
theorem working_step {cfg : Config} {s t : System} {x : Label} (h : System.Step cfg s x t)
    (hrunning : t.shared.main = .running) (hs : Working cfg s) : Working cfg t := by
  have hbalanced := balanced_step h hs.balanced
  obtain ⟨hready, hsem, hcrew, hold⟩ := hs
  cases h with
  | @proc s s' l new i g g' x hlive hi h =>
    have hmem : g ∈ l := List.mem_of_getElem? hi
    have hproper : g.Proper := hold.proper g hmem
    refine ⟨ready_step h hready, ?_, fun k => ?_, hbalanced⟩
    · have hle : g.slots ≤ s.httpSem := (le_total Goroutine.slots hmem).trans_eq hsem.symm
      have hstep := slots_step h hproper hle
      have hmove : total Goroutine.slots (l.set i g' ++ new) + g.slots =
          total Goroutine.slots l + g'.slots + total Goroutine.slots new := total_step _ hi
      show s'.httpSem = total Goroutine.slots (l.set i g' ++ new)
      change s.httpSem = total Goroutine.slots l at hsem
      omega
    · obtain ⟨hsame, hnew⟩ := crew_step h hready hproper
      have hmove : total (Goroutine.counted k) (l.set i g' ++ new) + g.counted k =
          total (Goroutine.counted k) l + g'.counted k + total (Goroutine.counted k) new :=
        total_step _ hi
      have hnone : total (Goroutine.counted k) new = 0 :=
        total_eq_zero _ fun p hp => by rw [Goroutine.counted, hnew p hp, if_neg nofun]
      have hcount : g'.counted k = g.counted k := by
        rw [Goroutine.counted, hsame, Goroutine.counted]
      have hbefore := hcrew k
      show total (Goroutine.counted k) (l.set i g' ++ new) = cfg.crew k
      change total (Goroutine.counted k) l = cfg.crew k at hbefore
      omega
  | @router s s' l hlive h =>
    have hsame : s'.httpSem = s.httpSem := by cases h <;> rfl
    exact ⟨ready_router h hready, hsame.trans hsem, hcrew, hbalanced⟩
  | main hlive h => cases h <;> cases hrunning
  | @arrive s l hlive h req =>
    refine ⟨hready, ?_, fun k => ?_, hbalanced⟩
    · show s.httpSem = total Goroutine.slots (l ++ [_])
      rw [total_append]
      exact hsem
    · rw [total_append]
      exact hcrew k

theorem running_of_step {cfg : Config} {s t : System} {x : Label} (h : System.Step cfg s x t)
    (hrunning : t.shared.main = .running) : s.shared.main = .running := by
  cases h with
  | proc hlive hi h => exact h.frame.1.symm.trans hrunning
  | router hlive h => cases h <;> exact hrunning
  | main hlive h => cases h <;> cases hrunning
  | arrive => exact hrunning

/-- The steps with which the server works off what it has: all but the ticks of the
scheduler, the arrivals of requests and the steps of `main`. -/
inductive System.Drains (cfg : Config) : System → Label → System → Prop
  | proc {s s' : Shared} {l new : List Goroutine} {i : ℕ} {g g' : Goroutine} {x : Label}
      (hlive : s.panicked = false) (hi : l[i]? = some g) (hg : g ≠ .stands .select)
      (h : Goroutine.Step cfg s g x s' g' new) : Drains cfg ⟨s, l⟩ x ⟨s', l.set i g' ++ new⟩
  | router {s s' : Shared} {l : List Goroutine} (hlive : s.panicked = false)
      (h : Router.Step s s') : Drains cfg ⟨s, l⟩ .silent ⟨s', l⟩

theorem System.Drains.step {cfg : Config} {s t : System} {x : Label} (h : System.Drains cfg s x t) :
    System.Step cfg s x t := by
  cases h with
  | proc hlive hi hg h => exact .proc hlive hi h
  | router hlive h => exact .router hlive h

theorem working_drains {cfg : Config} {s t : System} {x : Label} (h : System.Drains cfg s x t)
    (hs : Working cfg s) : Working cfg t := by
  refine working_step h.step ?_ hs
  cases h with
  | proc hlive hi hg h => exact h.frame.1.trans hs.ready.running
  | router hlive h => cases h <;> exact hs.ready.running

/-! ## What is left to do -/

/-- A piece of work: how far from the end of the pipeline it is, and, inside a function,
what the function still has to do. -/
abbrev Chore := ℕ × Prog Point

namespace Chore

/-- A piece of work that is inside no function. -/
def due (stage : ℕ) : Chore := (stage, .ret .exited)

/-- Nearer to the end. -/
def Less : Chore → Chore → Prop := Prod.Lex (· < ·) Continues

theorem wellFounded_less : WellFounded Less := WellFounded.prod_lex wellFounded_lt
  wellFounded_continues

theorem less_of_lt {a b : Chore} (h : a.1 < b.1) : Less a b := Prod.Lex.left _ _ h

theorem less_call (stage : ℕ) (c : Cmd) (k : c.Resp → Prog Point) (r : c.Resp) :
    Less (stage, k r) (stage, .call c k) := Prod.Lex.right _ (.mk c k r)

/-- One piece of work is replaced by pieces that are nearer to the end. -/
theorem cut {p q t u : Multiset Chore} {a : Chore} (hbefore : p = t + {a}) (hafter : q = t + u)
    (hmore : ∀ b ∈ u, Less b a) : Relation.CutExpand Less q p := by
  rw [hbefore, hafter, Relation.cutExpand_add_left]
  exact Relation.cutExpand_singleton hmore

end Chore

/-- How far a function is from the end: what it makes of its work is nearer. -/
def Task.stage : Task → ℕ
  | doWork => 13
  | request _ => 13
  | startWork _ => 11
  | handle .. => 3

/-- The work of a goroutine. -/
def Goroutine.chores : Goroutine → Multiset Chore
  | runs task t => {(task.stage, t.todo)}
  | stands (.loaded _) => {.due 10}
  | stands (.acquired _) => {.due 9}
  | stands (.checking _) => {.due 8}
  | stands (.checked _) => {.due 7}
  | stands .pushed => {.due 2}
  | stands .released => {.due 1}
  | stands (.alerting _) => {.due 1}
  | stands _ => 0

/-- The work of the router. -/
def Router.chores : Router → Multiset Chore
  | routing _ => {.due 5}
  | _ => 0

/-- The work in the channels, and that of the router. -/
def Shared.chores (s : Shared) : Multiset Chore :=
  s.jobChan.queue.length • {.due 12} + s.resultChan.queue.length • {.due 6} + s.router.chores +
    ((s.routed true).queue.length + (s.routed false).queue.length) • {.due 4} +
    s.alertChan.queue.length • {.due 2}

/-- All that the server has to do. -/
def System.chores (s : System) : Multiset Chore :=
  s.shared.chores + total Goroutine.chores s.procs

section Chores

variable {cfg : Config} {s s' : Shared} {g g' : Goroutine} {x : Label} {new : List Goroutine}

/-- A member of one of the two channels more or less. -/
theorem routed_length (ok : Bool) (ch : Channel HTTPResult) (s : Shared) :
    ((s.setRouted ok ch).routed true).queue.length +
        ((s.setRouted ok ch).routed false).queue.length + (s.routed ok).queue.length =
      (s.routed true).queue.length + (s.routed false).queue.length + ch.queue.length := by
  cases ok with
  | true =>
    rw [Shared.setRouted_self, Shared.setRouted_of_ne Bool.false_ne_true]
    omega
  | false =>
    rw [Shared.setRouted_self, Shared.setRouted_of_ne Bool.false_ne_true.symm]
    omega

/-- **What a call makes of the work**: the function has less to do, and what it has sent
is nearer to the end. -/
theorem chores_call {task : Task} {c : Cmd} {k : c.Resp → Prog Point} {r : c.Resp}
    {log : List Call} (h : s.Serves (task.canceled s) c r s') (hs : s.Ready)
    (hproper : (Goroutine.runs task ⟨.call c k, log⟩).Proper) :
    Relation.CutExpand Chore.Less (s'.chores + {(task.stage, k r)})
      (s.chores + {(task.stage, .call c k)}) := by
  have hless : Chore.Less (task.stage, k r) (task.stage, .call c k) := Chore.less_call _ c k r
  have hsame : s'.chores = s.chores →
      Relation.CutExpand Chore.Less (s'.chores + {(task.stage, k r)})
        (s.chores + {(task.stage, .call c k)}) := by
    intro heq
    refine Chore.cut rfl (by rw [heq]) fun b hb => ?_
    rwa [Multiset.mem_singleton.mp hb]
  cases c with
  | offer job =>
    obtain rfl : task = .doWork := hproper.1
    rcases Shared.serves_offer h with ⟨-, ⟨ch, hch, rfl⟩ | ⟨hpanic, -⟩⟩ | ⟨-, -, rfl⟩ | ⟨-, -, rfl⟩
    · refine Chore.cut (u := {.due 12} + {(13, k r)}) rfl ?_ fun b hb => ?_
      · simp only [Shared.chores, (Channel.send_ok hch).2.2, List.length_append,
          List.length_singleton, succ_nsmul]
        show _ + {(13, k r)} = _
        abel
      · rcases Multiset.mem_add.mp hb with hb | hb
        · rw [Multiset.mem_singleton.mp hb]
          exact Chore.less_of_lt (Nat.lt_succ_self 12)
        · rwa [Multiset.mem_singleton.mp hb]
    · exact absurd hpanic hs.jobs.not_panics
    · exact hsame rfl
    · exact hsame rfl
  | send ev =>
    obtain ⟨ok, r', rfl⟩ : ∃ ok r, task = .handle ok r := hproper.1
    rcases Shared.serves_send h with ⟨ch, ks, hch, rfl⟩ | ⟨hpanic, -⟩
    · refine Chore.cut (u := {.due 2} + {(3, k r)}) rfl ?_ fun b hb => ?_
      · simp only [Shared.chores, (Channel.send_ok hch).2.2, List.length_append,
          List.length_singleton, succ_nsmul]
        show _ + {(3, k r)} = _
        abel
      · rcases Multiset.mem_add.mp hb with hb | hb
        · rw [Multiset.mem_singleton.mp hb]
          exact Chore.less_of_lt (Nat.lt_succ_self 2)
        · rwa [Multiset.mem_singleton.mp hb]
    · exact absurd hpanic hs.alerts.not_panics
  | timeNow | ctxDone | redis c | sql query =>
    obtain ⟨w', -, rfl⟩ := Shared.serves_worldly rfl h
    exact hsame rfl

/-- **Every step of a goroutine takes one piece of work and leaves nearer ones.** -/
theorem chores_step (h : Goroutine.Step cfg s g x s' g' new) (hg : g ≠ .stands .select)
    (hs : s.Ready) (hproper : g.Proper) :
    Relation.CutExpand Chore.Less (s'.chores + (g'.chores + total Goroutine.chores new))
      (s.chores + g.chores) := by
  -- the goroutine goes on at a point with work that is nearer, or with none
  have hmoves : ∀ {a : Chore} {more : Multiset Chore}, s'.chores = s.chores →
      g.chores = {a} → g'.chores + total Goroutine.chores new = more →
      (∀ b ∈ more, Chore.Less b a) →
      Relation.CutExpand Chore.Less (s'.chores + (g'.chores + total Goroutine.chores new))
        (s.chores + g.chores) := by
    intro a more heq hbefore hafter hmore
    exact Chore.cut (by rw [hbefore]) (by rw [heq, hafter]) hmore
  have hnone : ∀ a b : Chore, b ∈ (0 : Multiset Chore) → Chore.Less b a := by
    intro a b hb
    exact absurd hb (Multiset.notMem_zero b)
  have hone : ∀ {a b : Chore}, a.1 < b.1 → ∀ c ∈ ({a} : Multiset Chore), Chore.Less c b := by
    intro a b hab c hc
    rw [Multiset.mem_singleton.mp hc]
    exact Chore.less_of_lt hab
  cases h with
  | @call _ task c k r log h =>
    rw [total_nil, add_zero]
    exact chores_call h hs hproper
  | @ret task p log =>
    have hend : task.EndsAt p := hproper
    cases task with
    | startWork m =>
      obtain rfl | ⟨y, rfl⟩ := hend
      · exact hmoves rfl rfl rfl (hnone _)
      · exact hmoves rfl rfl (add_zero _) (hone (Nat.lt_succ_self 10))
    | doWork | handle ok r | request req =>
      cases hend
      exact hmoves rfl rfl rfl (hnone _)
  | tick => exact absurd rfl hg
  | stop => exact absurd rfl hg
  | @take job ch h =>
    refine Chore.cut (a := .due 12) (t := ({ s with jobChan := ch } : Shared).chores) ?_
      (by rw [total_nil, add_zero]; rfl) (hone (Nat.lt_succ_self 11))
    simp only [Shared.chores, (Channel.recv_some h).1, List.length_cons, succ_nsmul]
    show _ + 0 = _
    abel
  | leaveJobs h => exact absurd h hs.jobs.not_drained
  | acquire h => exact hmoves rfl rfl (add_zero _) (hone (by decide))
  | spawn => exact hmoves rfl rfl (by simp [Goroutine.chores]; rfl) (hone (by decide))
  | check o => exact hmoves rfl rfl (add_zero _) (hone (by decide))
  | @push r ch h =>
    refine Chore.cut (a := .due 7) (t := s.chores) (u := {.due 6} + {.due 2}) rfl ?_ ?_
    · simp only [Shared.chores, (Channel.send_ok h).2.2, List.length_append,
        List.length_singleton, succ_nsmul, total_nil, Goroutine.chores]
      abel
    · intro b hb
      rcases Multiset.mem_add.mp hb with hb | hb
      · exact hone (by decide) b hb
      · exact hone (by decide) b hb
  | pushPanics h => exact absurd h hs.results.not_panics
  | release => exact hmoves rfl rfl (add_zero _) (hone (by decide))
  | done => exact hmoves rfl rfl rfl (hnone _)
  | @receive ok r ch h =>
    have hlen := routed_length ok ch s
    rw [(Channel.recv_some h).1, List.length_cons] at hlen
    have hqueue : (s.routed true).queue.length + (s.routed false).queue.length =
        ((s.setRouted ok ch).routed true).queue.length +
          ((s.setRouted ok ch).routed false).queue.length + 1 := by omega
    refine Chore.cut (a := .due 4) (t := (s.setRouted ok ch).chores) ?_
      (by rw [total_nil, add_zero]; rfl) (hone (Nat.lt_succ_self 3))
    simp only [Shared.chores, hqueue, succ_nsmul]
    show _ + 0 = s.jobChan.queue.length • _ + s.resultChan.queue.length • _ + s.router.chores + _ +
      s.alertChan.queue.length • _ + _
    abel
  | leaveResults h => exact absurd h (hs.routed _).not_drained
  | @takeAlert ev ch h =>
    refine Chore.cut (a := .due 2) (t := ({ s with alertChan := ch } : Shared).chores) ?_
      (by rw [total_nil, add_zero]; rfl) (hone (Nat.lt_succ_self 1))
    simp only [Shared.chores, (Channel.recv_some h).1, List.length_cons, succ_nsmul]
    show _ + 0 = _
    abel
  | alerted => exact hmoves rfl rfl rfl (hnone _)
  | leaveAlerts h => exact absurd h hs.alerts.not_drained

theorem chores_router (h : Router.Step s s') (hs : s.Ready) :
    Relation.CutExpand Chore.Less s'.chores s.chores := by
  cases h with
  | @receive r ch hr h =>
    refine Chore.cut (a := .due 6) (u := {.due 5})
      (t := ({ s with resultChan := ch } : Shared).chores) ?_ ?_ ?_
    · simp only [Shared.chores, (Channel.recv_some h).1, List.length_cons, succ_nsmul]
      abel
    · simp only [Shared.chores, hr, Router.chores]
      abel
    · intro b hb
      rw [Multiset.mem_singleton.mp hb]
      exact Chore.less_of_lt (by decide)
  | @deliver r ch hr h =>
    have hlen := routed_length r.success ch s
    rw [(Channel.send_ok h).2.2, List.length_append, List.length_singleton] at hlen
    have hqueue : ((s.setRouted r.success ch).routed true).queue.length +
        ((s.setRouted r.success ch).routed false).queue.length =
        (s.routed true).queue.length + (s.routed false).queue.length + 1 := by omega
    refine Chore.cut (a := .due 5) (u := {.due 4})
      (t := ({ s with router := .ranging } : Shared).chores) ?_ ?_ ?_
    · simp only [Shared.chores, hr, Router.chores]
      abel
    · simp only [Shared.chores, hqueue, succ_nsmul]
      show s.jobChan.queue.length • _ + s.resultChan.queue.length • _ + _ + _ +
        s.alertChan.queue.length • _ = _
      abel
    · intro b hb
      rw [Multiset.mem_singleton.mp hb]
      exact Chore.less_of_lt (by decide)
  | deliverPanics hr h => exact absurd h (hs.routed _).not_panics
  | leave hr h => exact absurd h hs.results.not_drained
  | closeFailure hr | closeSuccess hr =>
    have hrouter := hs.router
    rw [hr] at hrouter
    rcases hrouter with h | ⟨r, h⟩ <;> cases h

end Chores

/-- **Working off is a hydra game.**  A step takes a chore away and leaves finitely many behind,
each of them less; and on finite multisets of chores such a game comes to an end. -/
theorem drains_cut {cfg : Config} {s t : System} {x : Label} (h : System.Drains cfg s x t)
    (hs : Working cfg s) : Relation.CutExpand Chore.Less t.chores s.chores := by
  cases h with
  | @proc s s' l new i g g' x hlive hi hg h =>
    have hcut := chores_step h hg hs.ready (hs.balanced.proper g (List.mem_of_getElem? hi))
    have hmove : total Goroutine.chores (l.set i g' ++ new) + g.chores =
        total Goroutine.chores l + g'.chores + total Goroutine.chores new := total_step _ hi
    rw [← Relation.cutExpand_add_right (total Goroutine.chores l)] at hcut
    rw [← Relation.cutExpand_add_right g.chores]
    have hafter : s'.chores + total Goroutine.chores (l.set i g' ++ new) + g.chores =
        s'.chores + (g'.chores + total Goroutine.chores new) + total Goroutine.chores l := by
      rw [add_assoc, hmove]
      abel
    have hbefore : s.chores + total Goroutine.chores l + g.chores =
        s.chores + g.chores + total Goroutine.chores l := add_right_comm _ _ _
    show Relation.CutExpand Chore.Less (s'.chores + total Goroutine.chores (l.set i g' ++ new) +
      g.chores) (s.chores + total Goroutine.chores l + g.chores)
    rwa [hafter, hbefore]
  | @router s s' l hlive h =>
    exact (Relation.cutExpand_add_right (total Goroutine.chores l)).mpr (chores_router h hs.ready)

/-! ## Nobody waits for ever -/

/-- The goroutine is at a point of its loop, or gone, with nothing to do. -/
def Goroutine.AtRest : Goroutine → Prop
  | stands .select => True
  | stands .jobs => True
  | stands (.results _) => True
  | stands (.resultsDone _) => True
  | stands .alerts => True
  | stands .exited => True
  | _ => False

/-- **All is done**: the channels are empty, no slot of the semaphore is taken, every
check that was started has been handled, and every worker is back at its channel. -/
structure Idle (cfg : Config) (s : System) : Prop where
  jobs : s.shared.jobChan.queue = []
  results : s.shared.resultChan.queue = []
  routed : ∀ ok, (s.shared.routed ok).queue = []
  alerts : s.shared.alertChan.queue = []
  router : s.shared.router = .ranging
  httpSem : s.shared.httpSem = 0
  atRest : ∀ g ∈ s.procs, g.AtRest
  crew : ∀ k, total (Goroutine.counted k) s.procs = cfg.crew k
  handled : (s.shared.handled.map (·.monitorID)).Perm s.shared.started

/-- A call has to wait for `alertChan` only. -/
theorem exists_serves {s : Shared} {b : Bool} (hs : s.Ready) (hb : b = false)
    (halerts : s.alertChan.queue = []) (c : Cmd) : ∃ r s', s.Serves b c r s' := by
  subst hb
  cases c with
  | offer job =>
    cases hsend : s.jobChan.send job with
    | none =>
      have hfull : s.exec false ⟨false, 0, [], .full⟩ (.offer job) = some (.full, s) := by
        simp [Shared.exec, hsend]
      exact ⟨_, _, _, hfull⟩
    | some sent =>
      cases sent with
      | ok ch =>
        have hsent : s.exec false ⟨false, 0, [], .sent⟩ (.offer job) =
            some (.sent, { s with jobChan := ch }) := by
          simp only [Shared.exec, hsend]
        exact ⟨_, _, _, hsent⟩
      | panics => exact absurd hsend hs.jobs.not_panics
  | send ev =>
    obtain ⟨ch, hch⟩ := hs.alerts.exists_send halerts ev
    have hsent : s.exec false default (.send ev) = some ((), { s with
        alertChan := ch, world := (s.world.exec false default (.send ev)).2 }) := by
      simp only [Shared.exec, hch]
    exact ⟨_, _, _, hsent⟩
  | timeNow | ctxDone | redis c | sql query => exact ⟨_, _, default, rfl⟩

section Stuck

variable {cfg : Config} {s : Shared} {l : List Goroutine}

/-- What is stuck: no goroutine has a step but the scheduler, and the router has none. -/
structure Stuck (cfg : Config) (s : Shared) (l : List Goroutine) : Prop where
  proc : ∀ g ∈ l, g ≠ .stands .select → ∀ x s' g' new, ¬ Goroutine.Step cfg s g x s' g' new
  router : ∀ s', ¬ Router.Step s s'

theorem stuck_of_not_drains (hlive : s.panicked = false)
    (h : ∀ x t, ¬ System.Drains cfg ⟨s, l⟩ x t) : Stuck cfg s l where
  proc g hg hne x s' g' new hstep := by
    obtain ⟨i, hi⟩ := List.mem_iff_getElem?.mp hg
    exact h _ _ (.proc hlive hi hne hstep)
  router s' hstep := h _ _ (.router hlive hstep)

/-- Somebody is there. -/
theorem exists_crew (hcfg : cfg.Staffed) {k : Crew}
    (h : total (Goroutine.counted k) l = cfg.crew k) : ∃ g ∈ l, g.crew = some k := by
  by_contra hnone
  have hzero : total (Goroutine.counted k) l = 0 := by
    refine total_eq_zero _ fun g hg => ?_
    rw [Goroutine.counted, if_neg fun hk => hnone ⟨g, hg, hk⟩]
  have hpos := hcfg.crew_pos k
  omega

/-- **The workers of `alertChan` wait for nobody.**  One that is idle can take an alert if there is
one, and one that is busy can go on; so when nothing can move, the channel is empty. -/
theorem alerts_of_stuck (hstuck : Stuck cfg s l)
    (hcrew : ∃ g ∈ l, g.crew = some .alerts) : s.alertChan.queue = [] := by
  obtain ⟨g, hg, hk⟩ := hcrew
  by_contra hne
  obtain ⟨ev, ch, hrecv⟩ := Channel.exists_recv hne
  cases g with
  | stands p =>
    cases p with
    | alerts => exact hstuck.proc _ hg nofun _ _ _ _ (.takeAlert hrecv)
    | alerting ev' => exact hstuck.proc _ hg nofun _ _ _ _ .alerted
    | _ => cases hk
  | runs task t => cases task <;> cases hk

/-- So every function can go on. -/
theorem not_runs_of_stuck (hs : s.Ready) (hstuck : Stuck cfg s l)
    (halerts : s.alertChan.queue = []) {task : Task} {t : Thread Cmd Cmd.Resp Point} :
    .runs task t ∉ l := by
  intro hg
  obtain ⟨todo, log⟩ := t
  cases todo with
  | ret p => exact hstuck.proc _ hg nofun _ _ _ _ .ret
  | call c k =>
    obtain ⟨r, s', hserves⟩ :=
      exists_serves hs (task.canceled_of_running hs.running) halerts c
    exact hstuck.proc _ hg nofun _ _ _ _ (.call hserves)

/-- **So the handlers are back at their channels**, and have emptied them. -/
theorem routed_of_stuck (hs : s.Ready) (hstuck : Stuck cfg s l) (halerts : s.alertChan.queue = [])
    {ok : Bool} (hcrew : ∃ g ∈ l, g.crew = some (.results ok)) : (s.routed ok).queue = [] := by
  obtain ⟨g, hg, hk⟩ := hcrew
  by_contra hne
  obtain ⟨r, ch, hrecv⟩ := Channel.exists_recv hne
  cases g with
  | stands p =>
    cases p with
    | results ok' =>
      obtain rfl : ok' = ok := Crew.results.inj (Option.some.inj hk)
      exact hstuck.proc _ hg nofun _ _ _ _ (.receive hrecv)
    | _ => cases hk
  | runs task t => exact not_runs_of_stuck hs hstuck halerts hg

/-- **So the router has passed on what there was.** -/
theorem router_of_stuck (hs : s.Ready) (hstuck : Stuck cfg s l)
    (hrouted : ∀ ok, (s.routed ok).queue = []) :
    s.router = .ranging ∧ s.resultChan.queue = [] := by
  have hranging : s.router = .ranging := by
    refine hs.router.resolve_right ?_
    rintro ⟨r, hr⟩
    obtain ⟨ch, hch⟩ := (hs.routed r.success).exists_send (hrouted r.success) r
    exact hstuck.router _ (.deliver hr hch)
  refine ⟨hranging, ?_⟩
  by_contra hne
  obtain ⟨r, ch, hrecv⟩ := Channel.exists_recv hne
  exact hstuck.router _ (.receive hranging hrecv)

/-- **So no check is left**, and no slot of the semaphore is taken. -/
theorem slots_of_stuck (hs : s.Ready) (hstuck : Stuck cfg s l)
    (hresults : s.resultChan.queue = []) : ∀ g ∈ l, g.slots = 0 := by
  intro g hg
  cases g with
  | stands p =>
    cases p with
    | acquired y => exact absurd .spawn (hstuck.proc _ hg nofun _ _ _ _)
    | checking y => exact absurd (.check (.invalid 0)) (hstuck.proc _ hg nofun _ _ _ _)
    | checked r =>
      obtain ⟨ch, hch⟩ := hs.results.exists_send hresults r
      exact absurd (.push hch) (hstuck.proc _ hg nofun _ _ _ _)
    | pushed => exact absurd .release (hstuck.proc _ hg nofun _ _ _ _)
    | _ => rfl
  | runs task t => rfl

/-- So the workers of the executor are back at `jobChan`, and have emptied it. -/
theorem jobs_of_stuck (hcfg : cfg.Staffed) (hstuck : Stuck cfg s l) (hsem : s.httpSem = 0)
    (hruns : ∀ task t, .runs task t ∉ l) (hcrew : ∃ g ∈ l, g.crew = some .executor) :
    s.jobChan.queue = [] := by
  have hroom : s.httpSem < cfg.executor.httpSemCount := by
    rw [hsem]
    exact hcfg.httpSemCount
  obtain ⟨g, hg, hk⟩ := hcrew
  by_contra hne
  obtain ⟨job, ch, hrecv⟩ := Channel.exists_recv hne
  cases g with
  | stands p =>
    cases p with
    | jobs => exact hstuck.proc _ hg nofun _ _ _ _ (.take hrecv)
    | loaded y => exact hstuck.proc _ hg nofun _ _ _ _ (.acquire hroom)
    | acquired y => exact hstuck.proc _ hg nofun _ _ _ _ .spawn
    | _ => cases hk
  | runs task t => exact hruns _ _ hg

end Stuck

/-- Who is neither at rest nor inside a function has a step. -/
theorem atRest_of_stuck {cfg : Config} {s : Shared} {l : List Goroutine} (hcfg : cfg.Staffed)
    (hstuck : Stuck cfg s l) (hsem : s.httpSem = 0) (hslots : ∀ g ∈ l, g.slots = 0)
    (hruns : ∀ task t, .runs task t ∉ l) : ∀ g ∈ l, g.AtRest := by
  intro g hg
  cases g with
  | stands p =>
    cases p with
    | loaded y =>
      have hroom : s.httpSem < cfg.executor.httpSemCount := by
        rw [hsem]
        exact hcfg.httpSemCount
      exact absurd (.acquire hroom) (hstuck.proc _ hg nofun _ _ _ _)
    | acquired y | checking y | checked r | pushed => cases hslots _ hg
    | released => exact absurd .done (hstuck.proc _ hg nofun _ _ _ _)
    | alerting ev => exact absurd .alerted (hstuck.proc _ hg nofun _ _ _ _)
    | _ => trivial
  | runs task t => exact absurd hg (hruns task t)

/-- **Progress.**  Before the signal, a server that cannot go on has nothing left to do. -/
theorem idle_of_stuck {cfg : Config} {s : System} (hcfg : cfg.Staffed) (hs : Working cfg s)
    (h : ∀ x t, ¬ System.Drains cfg s x t) : Idle cfg s := by
  obtain ⟨s, l⟩ := s
  have hready : s.Ready := hs.ready
  have hsem : s.httpSem = total Goroutine.slots l := hs.httpSem
  have hcrew : ∀ k, total (Goroutine.counted k) l = cfg.crew k := hs.crew
  have hstuck : Stuck cfg s l := stuck_of_not_drains hready.live h
  have halerts := alerts_of_stuck hstuck (exists_crew hcfg (hcrew .alerts))
  have hruns : ∀ task t, .runs task t ∉ l := fun _ _ => not_runs_of_stuck hready hstuck halerts
  have hrouted : ∀ ok, (s.routed ok).queue = [] := fun ok =>
    routed_of_stuck hready hstuck halerts (exists_crew hcfg (hcrew (.results ok)))
  obtain ⟨hranging, hresults⟩ := router_of_stuck hready hstuck hrouted
  have hslots : ∀ g ∈ l, g.slots = 0 := slots_of_stuck hready hstuck hresults
  have hsem₀ : s.httpSem = 0 := hsem.trans (total_eq_zero _ hslots)
  have hjobs := jobs_of_stuck hcfg hstuck hsem₀ hruns (exists_crew hcfg (hcrew .executor))
  have hrest := atRest_of_stuck hcfg hstuck hsem₀ hslots hruns
  refine ⟨hjobs, hresults, hrouted, halerts, hranging, hsem₀, hrest, hcrew, ?_⟩
  -- what was started and is nowhere any more has been handled
  refine List.perm_iff_count.mpr fun m => ?_
  have htokens : total (·.tokens m) l = 0 := by
    refine total_eq_zero _ fun g hg => ?_
    have hat := hrest g hg
    cases g with
    | stands p => cases p <;> first | rfl | exact hat.elim
    | runs task t => exact hat.elim
  have haccount : s.started.count m = s.arrived m + total (·.tokens m) l := hs.balanced.account m
  rw [htokens, Shared.arrived, hresults, hrouted, hrouted, hranging] at haccount
  rw [haccount, List.count_eq_countP, List.countP_map]
  rfl

/-- **The pipeline does not get stuck.**  From every state reached before the signal the
server comes to rest whatever the calls return and in whatever order the goroutines move,
as long as the scheduler does not tick and no request arrives; and at rest it has
processed everything.  In particular some run gets there. -/
theorem pipeline_drains {cfg : Config} {w : World} {s : System} {l : List Label}
    (hcfg : cfg.Staffed) (h : Runs (System.Step cfg) (.boot cfg w) l s)
    (hrunning : s.shared.main = .running) :
    (∃ l' t, Runs (System.Drains cfg) s l' t ∧ Idle cfg t) ∧
      Settles (System.Drains cfg) (Idle cfg) s := by
  have hworking : s.shared.main = .running → Working cfg s := by
    refine h.induction (I := fun _ u => u.shared.main = .running → Working cfg u)
      (fun _ => working_boot hcfg w) ?_
    intro l t x u _ ih hstep hu
    exact working_step hstep hu (ih (running_of_step hstep hu))
  have hsettles : Settles (System.Drains cfg) (Idle cfg) s := by
    refine settles_of_wellFounded Chore.wellFounded_less.cutExpand System.chores
      (I := Working cfg) (fun s x t hs hstep => ?_) (fun s hs hend => ?_) (hworking hrunning)
    · exact ⟨working_drains hstep hs, drains_cut hstep hs⟩
    · exact idle_of_stuck hcfg hs hend
  exact ⟨hsettles.exists_runs, hsettles⟩

/-- The check of a monitor is under way, with its slot of the semaphore. -/
theorem pipeline_drains_sample : ∃ s : System, (s.shared.main = .running ∧ s.shared.httpSem = 1) ∧
    (∃ l' t, Runs (System.Drains .least) s l' t ∧ Idle .least t) ∧
      Settles (System.Drains .least) (Idle .least) s := by
  have hplay : (System.play .least (fun _ _ => true) Sample.checkStarted
      (.boot .least Sample.scheduled)).any (fun s =>
        decide (s.shared.main = .running) && decide (s.shared.httpSem = 1)) := by decide
  obtain ⟨s, hs, hcheck⟩ := (Option.any_eq_true _ _).mp hplay
  obtain ⟨hrunning, hsem⟩ := Bool.and_eq_true_iff.mp hcheck
  obtain ⟨l, hl⟩ := System.runs_of_play hs
  have hstaffed : Config.least.Staffed := by constructor <;> decide
  refine ⟨s, ⟨of_decide_eq_true hrunning, of_decide_eq_true hsem⟩, ?_⟩
  exact pipeline_drains hstaffed (hl.mono fun _ _ _ h => h.1) (of_decide_eq_true hrunning)

end Sofon
