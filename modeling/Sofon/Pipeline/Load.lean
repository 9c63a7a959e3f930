import Mathlib.Data.Multiset.Count
import Sofon.Pipeline.Progress

/-!
# How much the server has at once

Each place of the pipeline holds a bounded number of monitors, so the settings bound what the
server has at once, however many monitors there are and whatever happens: while the requests
are under way, while results wait for each other, during the shutdown and after a panic.

* No more requests are under way than `httpSem` has slots, as the semaphore counts the
  goroutines that have one (`slots_step`).
* Nobody joins a crew (`counted_step`).
* Each of the five channels has the capacity of its setting, which no step changes
  (`sized_step`), and a channel holds no more than that by its type (`Channel.bounded`).
* A check that was started and whose result has not been handled is in one of finitely many
  places (`started_eq`), and their sizes add up to `Config.load`.

The last one needs the others and the books.  `Balanced` says of every monitor how its checks
and its results add up over the places; as the bound is about all monitors together, the books
are read as an equation between multisets of ids, and only the sizes are kept of it.  What the
goroutines hold then is at most a result for each slot and one for each worker, and the
channels and the router hold the rest.
-/

namespace Sofon

open Interleaving Transition

/-- The results that there is room for on the way from a check to the end of its handler. -/
def Config.load (cfg : Config) : ℕ :=
  cfg.executor.httpSemCount + cfg.app.resultChannelSize + 1 +
    (cfg.resultProcessor.successChannelSize + cfg.resultProcessor.failureChannelSize) +
    (cfg.resultProcessor.successWorkerCount + cfg.resultProcessor.failureWorkerCount)

/-- **The server has at most what its settings allow.** -/
structure Bounded (cfg : Config) (s : System) : Prop where
  /-- checks that have a slot of `httpSem` -/
  checks : total Goroutine.slots s.procs ≤ cfg.executor.httpSemCount
  crew : ∀ k, total (Goroutine.counted k) s.procs ≤ cfg.crew k
  jobChan : s.shared.jobChan.queue.length ≤ cfg.app.jobChannelSize
  resultChan : s.shared.resultChan.queue.length ≤ cfg.app.resultChannelSize
  successChan : (s.shared.routed true).queue.length ≤ cfg.resultProcessor.successChannelSize
  failureChan : (s.shared.routed false).queue.length ≤ cfg.resultProcessor.failureChannelSize
  alertChan : s.shared.alertChan.queue.length ≤ cfg.app.alertChannelSize
  /-- checks whose results have not been handled -/
  results : s.shared.started.length ≤ s.shared.handled.length + cfg.load

/-! ## Capacities -/

/-- The channels have the capacities of the settings. -/
structure Shared.Sized (cfg : Config) (s : Shared) : Prop where
  jobs : s.jobChan.capacity = cfg.app.jobChannelSize
  results : s.resultChan.capacity = cfg.app.resultChannelSize
  success : (s.routed true).capacity = cfg.resultProcessor.successChannelSize
  failure : (s.routed false).capacity = cfg.resultProcessor.failureChannelSize
  alerts : s.alertChan.capacity = cfg.app.alertChannelSize

section Step

variable {cfg : Config} {s s' : Shared} {g g' : Goroutine} {x : Label} {new : List Goroutine}

theorem Shared.Sized.setRouted (h : s.Sized cfg) {ok : Bool} {ch : Channel HTTPResult}
    (hch : ch.capacity = (s.routed ok).capacity) : (s.setRouted ok ch).Sized cfg := by
  obtain ⟨hjobs, hresults, hsuccess, hfailure, halerts⟩ := h
  cases ok with
  | true =>
    refine ⟨hjobs, hresults, ?_, ?_, halerts⟩
    · rw [Shared.setRouted_self, hch, hsuccess]
    · rw [Shared.setRouted_of_ne Bool.false_ne_true, hfailure]
  | false =>
    refine ⟨hjobs, hresults, ?_, ?_, halerts⟩
    · rw [Shared.setRouted_of_ne Bool.false_ne_true.symm, hsuccess]
    · rw [Shared.setRouted_self, hch, hfailure]

theorem sized_step (h : Goroutine.Step cfg s g x s' g' new) (hs : s.Sized cfg) : s'.Sized cfg := by
  have hsized := hs
  obtain ⟨hjobs, hresults, hsuccess, hfailure, halerts⟩ := hs
  cases h with
  | @call _ task c k r log h =>
    cases c with
    | offer job =>
      rcases Shared.serves_offer h with
        ⟨-, ⟨ch, hch, rfl⟩ | ⟨-, rfl⟩⟩ | ⟨-, -, rfl⟩ | ⟨-, -, rfl⟩
      · exact ⟨(Channel.capacity_of_send hch).trans hjobs, hresults, hsuccess, hfailure, halerts⟩
      · exact ⟨hjobs, hresults, hsuccess, hfailure, halerts⟩
      · exact ⟨hjobs, hresults, hsuccess, hfailure, halerts⟩
      · exact ⟨hjobs, hresults, hsuccess, hfailure, halerts⟩
    | send ev =>
      rcases Shared.serves_send h with ⟨ch, ks, hch, rfl⟩ | ⟨-, rfl⟩
      · exact ⟨hjobs, hresults, hsuccess, hfailure, (Channel.capacity_of_send hch).trans halerts⟩
      · exact ⟨hjobs, hresults, hsuccess, hfailure, halerts⟩
    | timeNow | ctxDone | redis c | sql query =>
      obtain ⟨w', -, rfl⟩ := Shared.serves_worldly rfl h
      exact ⟨hjobs, hresults, hsuccess, hfailure, halerts⟩
  | @ret task p log => cases task <;> exact ⟨hjobs, hresults, hsuccess, hfailure, halerts⟩
  | take h =>
    exact ⟨(Channel.capacity_of_recv h).trans hjobs, hresults, hsuccess, hfailure, halerts⟩
  | push h =>
    exact ⟨hjobs, (Channel.capacity_of_send h).trans hresults, hsuccess, hfailure, halerts⟩
  | receive h => exact hsized.setRouted (Channel.capacity_of_recv h)
  | takeAlert h =>
    exact ⟨hjobs, hresults, hsuccess, hfailure, (Channel.capacity_of_recv h).trans halerts⟩
  | _ => exact ⟨hjobs, hresults, hsuccess, hfailure, halerts⟩

theorem sized_router (h : Router.Step s s') (hs : s.Sized cfg) : s'.Sized cfg := by
  have hsized := hs
  obtain ⟨hjobs, hresults, hsuccess, hfailure, halerts⟩ := hs
  cases h with
  | receive hr h =>
    exact ⟨hjobs, (Channel.capacity_of_recv h).trans hresults, hsuccess, hfailure, halerts⟩
  | deliver hr h =>
    obtain ⟨hjobs', hresults', hsuccess', hfailure', halerts'⟩ :=
      hsized.setRouted (Channel.capacity_of_send h)
    exact ⟨hjobs', hresults', hsuccess', hfailure', halerts'⟩
  | deliverPanics | leave => exact ⟨hjobs, hresults, hsuccess, hfailure, halerts⟩
  | closeFailure hr =>
    obtain ⟨hjobs', hresults', hsuccess', hfailure', halerts'⟩ :=
      hsized.setRouted (rfl : (s.routed false).close.capacity = _)
    exact ⟨hjobs', hresults', hsuccess', hfailure', halerts'⟩
  | closeSuccess hr =>
    obtain ⟨hjobs', hresults', hsuccess', hfailure', halerts'⟩ :=
      hsized.setRouted (rfl : (s.routed true).close.capacity = _)
    exact ⟨hjobs', hresults', hsuccess', hfailure', halerts'⟩

/-! ## Crews and slots -/

/-- **Nobody joins a crew.** -/
theorem counted_step (h : Goroutine.Step cfg s g x s' g' new) (hproper : g.Proper) (k : Crew) :
    g'.counted k ≤ g.counted k ∧ total (Goroutine.counted k) new = 0 := by
  have hle : ∀ {p q : Goroutine}, q.crew = none ∨ q.crew = p.crew → q.counted k ≤ p.counted k := by
    rintro p q (hnone | hsame)
    · rw [Goroutine.counted, hnone, if_neg (Option.some_ne_none k).symm]
      exact Nat.zero_le _
    · rw [Goroutine.counted, hsame, Goroutine.counted]
  cases h with
  | @call _ task c k' r log h => exact ⟨hle (Or.inr (by cases task <;> rfl)), rfl⟩
  | @ret task p log =>
    have hend : task.EndsAt p := hproper
    refine ⟨hle ?_, rfl⟩
    cases task with
    | startWork m => obtain rfl | ⟨y, rfl⟩ := hend <;> exact Or.inr rfl
    | doWork | handle ok r | request req => cases hend; exact Or.inr rfl
  | spawn => exact ⟨hle (Or.inr rfl), rfl⟩
  | leaveJobs | leaveResults | leaveAlerts | stop => exact ⟨hle (Or.inl rfl), rfl⟩
  | _ => exact ⟨hle (Or.inr rfl), rfl⟩

/-- The semaphore has no more slots than it was made with. -/
theorem httpSem_step (h : Goroutine.Step cfg s g x s' g' new)
    (hle : s.httpSem ≤ cfg.executor.httpSemCount) : s'.httpSem ≤ cfg.executor.httpSemCount := by
  cases h with
  | call h =>
    obtain ⟨w, jobs, alerts, p, rfl, -⟩ := Shared.serves_frame h
    exact hle
  | @ret task p log => cases task <;> exact hle
  | acquire h => exact h
  | release => exact (Nat.sub_le _ _).trans hle
  | _ => exact hle

end Step

/-! ## Where the results are -/

/-- The monitors whose results the goroutine has, or is about to have. -/
def Goroutine.holding : Goroutine → Multiset UUID
  | stands (.checking x) => {x.id}
  | stands (.checked r) => {r.monitorID}
  | runs (.handle _ r) _ => {r.monitorID}
  | _ => 0

theorem Goroutine.count_holding (m : UUID) (g : Goroutine) : g.holding.count m = g.tokens m := by
  have hone (id : UUID) : ({id} : Multiset UUID).count m = if id = m then 1 else 0 := by
    rw [Multiset.count_singleton]
    simp only [eq_comm]
  cases g with
  | stands p => cases p <;> first | exact hone _ | exact Multiset.count_zero m
  | runs task t => cases task <;> first | exact hone _ | exact Multiset.count_zero m

/-- A result is with a check that has a slot or with a worker that handles it. -/
theorem Goroutine.card_holding_le (g : Goroutine) : g.holding.card ≤
    g.slots + (g.counted (.results true) + g.counted (.results false)) := by
  cases g with
  | stands p =>
    cases p with
    | checking x => exact (Multiset.card_singleton x.id).le
    | checked r => exact (Multiset.card_singleton r.monitorID).le
    | _ => exact Nat.zero_le _
  | runs task t =>
    cases task with
    | handle ok r => cases ok <;> exact (Multiset.card_singleton r.monitorID).le
    | _ => exact Nat.zero_le _

/-- The result that the router has. -/
def Router.results : Router → List HTTPResult
  | routing r => [r]
  | _ => []

/-- The results that are in a channel or with the router. -/
def Shared.underway (s : Shared) : List HTTPResult :=
  s.resultChan.queue ++ s.router.results ++ ((s.routed true).queue ++ (s.routed false).queue)

theorem Shared.naming_underway (m : UUID) (s : Shared) :
    naming m (s.handled ++ s.underway) = s.arrived m := by
  have hrouter : naming m s.router.results = s.router.tokens m := by
    cases s.router with
    | routing r => exact (naming_cons m r []).trans (Nat.zero_add _)
    | _ => rfl
  simp only [underway, arrived, naming_append, hrouter]
  omega

/-- **Every check that was started is somewhere**: its result has been handled, or is in a
channel, with the router or with a goroutine. -/
theorem Balanced.started_eq {s : System} (h : Balanced s) : (s.shared.started : Multiset UUID) =
    ((s.shared.handled ++ s.shared.underway).map (·.monitorID) : List UUID) +
      total Goroutine.holding s.procs := by
  refine Multiset.ext.mpr fun m => ?_
  have hnaming (rs : List HTTPResult) : (rs.map (·.monitorID)).count m = naming m rs := by
    rw [List.count_eq_countP, List.countP_map]
    rfl
  have hholding : (total Goroutine.holding s.procs).count m = total (·.tokens m) s.procs := by
    have hmap := map_total Goroutine.holding (Multiset.countAddMonoidHom m) s.procs
    refine hmap.trans (congrArg (total · s.procs) (funext fun g => ?_))
    exact g.count_holding m
  rw [Multiset.count_add, Multiset.coe_count, Multiset.coe_count, hnaming, hholding,
    Shared.naming_underway]
  exact h.account m

theorem Shared.Sized.length_underway_le {cfg : Config} {s : Shared} (h : s.Sized cfg) :
    s.underway.length ≤ cfg.app.resultChannelSize + 1 +
      (cfg.resultProcessor.successChannelSize + cfg.resultProcessor.failureChannelSize) := by
  have hresults := s.resultChan.bounded
  have hsuccess := (s.routed true).bounded
  have hfailure := (s.routed false).bounded
  have hrouter : s.router.results.length ≤ 1 := by
    cases s.router with
    | routing r => exact le_rfl
    | _ => exact Nat.zero_le 1
  rw [h.results] at hresults
  rw [h.success] at hsuccess
  rw [h.failure] at hfailure
  simp only [underway, List.length_append]
  omega

/-! ## Runs -/

/-- What carries the bounds. -/
structure Contained (cfg : Config) (s : System) : Prop where
  balanced : Balanced s
  sized : s.shared.Sized cfg
  httpSem : s.shared.httpSem = total Goroutine.slots s.procs
  httpSem_le : s.shared.httpSem ≤ cfg.executor.httpSemCount
  crew : ∀ k, total (Goroutine.counted k) s.procs ≤ cfg.crew k

theorem contained_boot (cfg : Config) (w : World) : Contained cfg (.boot cfg w) where
  balanced := balanced_boot cfg w
  sized := ⟨rfl, rfl, rfl, rfl, rfl⟩
  httpSem := by simp [System.boot, Goroutine.slots]
  httpSem_le := Nat.zero_le _
  crew k := by
    rcases k with _ | (_ | _) | _ <;>
      simp [System.boot, Goroutine.counted, Goroutine.crew, Config.crew]

theorem contained_step {cfg : Config} {s t : System} {x : Label} (h : System.Step cfg s x t)
    (hs : Contained cfg s) : Contained cfg t := by
  have hbalanced := balanced_step h hs.balanced
  obtain ⟨hold, hsized, hsem, hsemle, hcrew⟩ := hs
  cases h with
  | @proc s s' l new i g g' x hlive hi h =>
    have hmem : g ∈ l := List.mem_of_getElem? hi
    have hproper : g.Proper := hold.proper g hmem
    refine ⟨hbalanced, sized_step h hsized, ?_, httpSem_step h hsemle, fun k => ?_⟩
    · have hle : g.slots ≤ s.httpSem := (le_total Goroutine.slots hmem).trans_eq hsem.symm
      have hstep := slots_step h hproper hle
      have hmove : total Goroutine.slots (l.set i g' ++ new) + g.slots =
          total Goroutine.slots l + g'.slots + total Goroutine.slots new := total_step _ hi
      show s'.httpSem = total Goroutine.slots (l.set i g' ++ new)
      change s.httpSem = total Goroutine.slots l at hsem
      omega
    · obtain ⟨hless, hnew⟩ := counted_step h hproper k
      have hmove : total (Goroutine.counted k) (l.set i g' ++ new) + g.counted k =
          total (Goroutine.counted k) l + g'.counted k + total (Goroutine.counted k) new :=
        total_step _ hi
      have hbefore : total (Goroutine.counted k) l ≤ cfg.crew k := hcrew k
      show total (Goroutine.counted k) (l.set i g' ++ new) ≤ cfg.crew k
      omega
  | @router s s' l hlive h =>
    have hsame : s'.httpSem = s.httpSem := by cases h <;> rfl
    exact ⟨hbalanced, sized_router h hsized, hsame.trans hsem, hsame.trans_le hsemle, hcrew⟩
  | main hlive h =>
    obtain ⟨hjobs, hresults, hsuccess, hfailure, halerts⟩ := hsized
    cases h <;>
      exact ⟨hbalanced, ⟨hjobs, hresults, hsuccess, hfailure, halerts⟩, hsem, hsemle, hcrew⟩
  | @arrive s l hlive h req =>
    refine ⟨hbalanced, hsized, ?_, hsemle, fun k => ?_⟩
    · show s.httpSem = total Goroutine.slots (l ++ [_])
      rw [total_append]
      exact hsem
    · rw [total_append]
      exact hcrew k

/-- What is contained is bounded. -/
theorem Contained.bounded {cfg : Config} {s : System} (h : Contained cfg s) : Bounded cfg s := by
  have hslots : total Goroutine.slots s.procs ≤ cfg.executor.httpSemCount :=
    h.httpSem.symm.trans_le h.httpSem_le
  refine ⟨hslots, h.crew, ?_, ?_, ?_, ?_, ?_, ?_⟩
  · exact s.shared.jobChan.bounded.trans_eq h.sized.jobs
  · exact s.shared.resultChan.bounded.trans_eq h.sized.results
  · exact (s.shared.routed true).bounded.trans_eq h.sized.success
  · exact (s.shared.routed false).bounded.trans_eq h.sized.failure
  · exact s.shared.alertChan.bounded.trans_eq h.sized.alerts
  · have hlength := congrArg Multiset.card h.balanced.started_eq
    rw [Multiset.card_add, Multiset.coe_card, Multiset.coe_card, List.length_map,
      List.length_append] at hlength
    have hholding : (total Goroutine.holding s.procs).card ≤ total Goroutine.slots s.procs +
        (total (Goroutine.counted (.results true)) s.procs +
          total (Goroutine.counted (.results false)) s.procs) := by
      rw [← total_add, ← total_add]
      exact (map_total Goroutine.holding Multiset.cardHom s.procs).trans_le
        (total_mono Goroutine.card_holding_le s.procs)
    have hunderway := h.sized.length_underway_le
    have hsuccess : _ ≤ cfg.resultProcessor.successWorkerCount := h.crew (.results true)
    have hfailure : _ ≤ cfg.resultProcessor.failureWorkerCount := h.crew (.results false)
    unfold Config.load
    omega

/-- **The load is bounded**, in every state that the server reaches, before and after the
signal: by the slots of `httpSem`, the numbers of workers and the capacities of the channels,
and not by the number of monitors. -/
theorem bounded_of_runs {cfg : Config} {w : World} {s : System} {l : List Label}
    (h : Runs (System.Step cfg) (.boot cfg w) l s) : Bounded cfg s :=
  (h.invariant (contained_boot cfg w) fun _ _ _ _ hstep => contained_step hstep).bounded

/-- One check is under way, and the signal has come. -/
theorem bounded_of_runs_sample : ∃ s : System, s.shared.main = .signalled ∧
    total Goroutine.slots s.procs = 1 ∧ Bounded .least s := by
  have hplay : (System.play .least (fun _ _ => true) (Sample.checkStarted ++ [.main])
      (.boot .least Sample.scheduled)).any (fun s =>
        decide (s.shared.main = .signalled) && decide (total Goroutine.slots s.procs = 1)) := by
    decide
  obtain ⟨s, hs, hcheck⟩ := (Option.any_eq_true _ _).mp hplay
  obtain ⟨hsignalled, hslots⟩ := Bool.and_eq_true_iff.mp hcheck
  obtain ⟨l, hl⟩ := System.runs_of_play hs
  refine ⟨s, of_decide_eq_true hsignalled, of_decide_eq_true hslots, ?_⟩
  exact bounded_of_runs (hl.mono fun _ _ _ h => h.1)

end Sofon
