import Sofon.Pipeline.Signal
import Sofon.Pipeline.Silence

/-!
# One check at a time

Nothing locks a monitor.  That no two checks of it overlap rests on the schedule being
a set and on everyone scheduling a monitor only when its check is over.

The scheduler and the handlers do so.  What they put into the schedule they have in hand, and it
is out of their hands then: `handProtocol` is the automaton, with a list of monitors for its
state, and each function of the pipeline follows it (`follows_hand_doWork`,
`follows_hand_handleFailure`, `follows_hand_handleSuccess`).  It is stricter than custody.  A
monitor in hand may be dropped, since that takes away a check and adds none, but it may not be
passed on twice.  A repeated command runs again from where it failed, so the protocol has to let
a `ZADD` that failed be tried once more (`follows_hand_retry`).

The places of a monitor are counted: the one in the schedule, the hand of the scheduler, and the
checks that are not over, each with its job, its request or its result.  No call of the pipeline
adds to them (`places_call`), nor does a step (`places_step`), nor the router
(`places_router`).

Requests have no monitor in hand.  The `ZADD` of a request adds a place unless the
monitor is scheduled already or nowhere, and when it always is (`Label.Timely`), the invariant
`Single` holds in every state: one place at most.  So there is never more than one check of a
monitor (`checks_le_one`).  A request that enables a monitor whose last check is still under way
breaks the rule: `checks_overlap`.
-/

namespace Sofon

open Interleaving Program Transition

variable {own q : List UUID} {m : UUID}

/-! ## What a function has in hand -/

/-- The monitors in hand of a function of the pipeline that was given `own`: what it has
taken out of the schedule or been given, until it is scheduled or in `jobChan`. -/
def handProtocol (own : List UUID) : Protocol Cmd Cmd.Resp (List UUID) where
  start := own
  next q e := match e with
    | ⟨.redis (.zPopMin _), .ok items⟩ => q ++ ids items
    | ⟨.redis (.zAdd items), .ok _⟩ => q.filter (· ∉ ids items)
    | ⟨.offer job, .sent⟩ => q.filter (· ≠ job.monitorID)
    | _ => q
  allows q c := match c with
    | .redis (.zAdd items) => ∀ m ∈ ids items, m ∈ q
    | .offer job => job.monitorID ∈ q
    | _ => True
  answers e := match e with
    | ⟨.redis (.zPopMin _), .ok items⟩ => (ids items).Nodup
    | ⟨.sql (.getMonitorByID m), .ok row⟩ => row.id = m
    | _ => True

theorem Cmd.handsOff_may {c : Cmd} (h : c.handsOff) : (handProtocol own).allows q c := by
  cases c with
  | redis c =>
    cases c with
    | zAdd items => cases h
    | _ => trivial
  | offer job => cases h
  | _ => trivial

theorem Cmd.handsOff_keeps {c : Cmd} (h : c.handsOff) (r : c.Resp) :
    (handProtocol own).next q ⟨c, r⟩ = q := by
  cases c with
  | redis c => cases c <;> first | rfl | cases h
  | offer job => cases h
  | _ => rfl

theorem follows_hand_of_handsOff {α : Type} {p : Prog α} (hp : p.Only (Cmd.handsOff ·))
    (q : List UUID) : p.Follows (handProtocol own) (fun _ q' => q' = q) q :=
  hp.follows (fun _ hc => Cmd.handsOff_may hc) fun _ r hc => Cmd.handsOff_keeps hc r

/-- **A repeated program**: it is run again from where it failed. -/
theorem follows_hand_retry {α : Type} {fn : Prog (Except RedisError α)}
    {fin : Except RedisError α → List UUID → Prop} (hfn : fn.Follows (handProtocol own)
      (fun x q' => fin x q' ∧ ∀ err, x = .error err → q' = q) q)
    (hfin : ∀ err, fin (.error err) q) (n : ℕ) :
    (RedisClient.retry n fn).Follows (handProtocol own) fin q := by
  have hloop : ∀ err, (RedisClient.retryLoop fn n (.error err)).Follows (handProtocol own) fin
      q := by
    induction n with
    | zero => exact hfin
    | succ n ih =>
      intro err
      refine hfn.bind fun x q' hx => ?_
      rcases x with err | a
      · obtain rfl := hx.2 err rfl
        refine ⟨trivial, fun b _ => ?_⟩
        cases b with
        | true => exact hfin _
        | false => exact ih err
      · exact hx.1
  exact hloop _

/-- What is put into the schedule is out of hand, if it gets there. -/
theorem follows_hand_zAdd {items : List Z} (hq : ∀ m ∈ ids items, m ∈ q) (n : ℕ) :
    (RedisClient.retry n (call (.redis (.zAdd items)))).Follows (handProtocol own)
      (fun _ q' => q' = q ∨ q' = q.filter (· ∉ ids items)) q := by
  refine follows_hand_retry ?_ (fun _ => Or.inl rfl) n
  refine ⟨hq, fun r _ => ?_⟩
  rcases r with err | u
  · exact ⟨Or.inl rfl, fun _ _ => rfl⟩
  · exact ⟨Or.inr rfl, nofun⟩

theorem follows_hand_scheduleMonitor (i : ℤ) (hm : m ∈ q) :
    (MonitorService.scheduleMonitor m i).Follows (handProtocol own) (fun _ _ => True) q := by
  have hq : ∀ now : ℤ, ∀ m' ∈ ids [⟨now, Member.id m⟩], m' ∈ q := by
    intro now m' hm'
    rw [mem_ids] at hm'
    obtain rfl := Member.id.inj (List.mem_singleton.mp hm')
    exact hm
  exact ⟨trivial, fun now _ => (follows_hand_zAdd (hq _) 3).bind fun _ _ _ => trivial⟩

/-- The scheduler offers and schedules what is in its batch, each entry once. -/
theorem follows_hand_doWorkLoop (now : ℤ) (items : List Z) (hnodup : (ids items).Nodup)
    (hq : ∀ m ∈ ids items, m ∈ q) :
    (Scheduler.doWorkLoop Member.printedOnly now items).Follows (handProtocol own)
      (fun _ _ => True) q := by
  induction items generalizing q with
  | nil => trivial
  | cons item rest ih =>
    rw [Scheduler.doWorkLoop]
    split
    · -- this entry and all behind it go back
      exact (follows_hand_zAdd hq 3).bind fun _ _ _ => trivial
    · split
      · rename_i hnone
        obtain ⟨s, hs⟩ := Member.uuid?_printedOnly_eq_none.mp hnone
        rw [ids_cons_text hs] at hnodup hq
        exact ih hnodup hq
      · rename_i id hsome
        have hid := Member.uuid?_printedOnly_eq_some.mp hsome
        rw [hid]
        rw [ids_cons_id hid] at hnodup hq
        obtain ⟨hnot, hrest⟩ := List.nodup_cons.mp hnodup
        have hkeep : ∀ m ∈ ids rest, m ∈ q ∧ m ≠ id := by
          intro m hm
          refine ⟨hq m (List.mem_cons_of_mem _ hm), ?_⟩
          rintro rfl
          exact hnot hm
        refine ⟨hq id List.mem_cons_self, fun o _ => ?_⟩
        cases o with
        | sent =>
          refine ih hrest fun m hm => List.mem_filter.mpr ⟨(hkeep m hm).1, ?_⟩
          exact decide_eq_true (hkeep m hm).2
        | done => trivial
        | full =>
          have hback : ∀ m ∈ ids [⟨(Time.addSeconds (Time.ofUnix item.score) 2).unix,
              Member.id id⟩], m ∈ q := by
            intro m hm
            rw [mem_ids] at hm
            obtain rfl := Member.id.inj (List.mem_singleton.mp hm)
            exact hq m List.mem_cons_self
          refine (follows_hand_zAdd hback 3).bind fun _ q' hq' => ih hrest fun m hm => ?_
          rcases hq' with rfl | rfl
          · exact (hkeep m hm).1
          · refine List.mem_filter.mpr ⟨(hkeep m hm).1, decide_eq_true fun hmem => ?_⟩
            rw [mem_ids] at hmem
            exact (hkeep m hm).2 (Member.id.inj (List.mem_singleton.mp hmem))

theorem follows_hand_doWork (n : ℕ) :
    (Scheduler.doWork Member.printedOnly n).Follows (handProtocol own) (fun _ _ => True) [] := by
  refine ⟨trivial, fun now _ => ?_⟩
  have hpop : (RedisClient.popDue n).Follows (handProtocol own)
      (fun x q' => ∀ items, x = .ok items → (ids items).Nodup ∧ q' = ids items) [] := by
    refine follows_hand_retry ?_ (fun _ => nofun) 3
    refine ⟨trivial, fun r hr => ?_⟩
    rcases r with err | items
    · exact ⟨nofun, fun _ _ => rfl⟩
    · refine ⟨fun items' heq => ?_, nofun⟩
      obtain rfl := Except.ok.inj heq
      exact ⟨hr, rfl⟩
  refine hpop.bind fun x q' hx => ?_
  rcases x with err | items
  · trivial
  · obtain ⟨hnodup, rfl⟩ := hx items rfl
    exact follows_hand_doWorkLoop _ items hnodup fun m hm => hm

/-- A worker goes on with the monitor it was given, or without one. -/
theorem follows_hand_startWork (m : UUID) :
    (Executor.startWork m).Follows (handProtocol own)
      (fun x q' => ∀ y, x = some y → q' = [m] ∧ y.id = m) [m] := by
  refine ⟨trivial, fun x hx => ?_⟩
  rcases x with err | row
  · cases err with
    | noRows => exact fun _ hy => by cases hy
    | constraint | unavailable | canceled =>
      exact (follows_hand_scheduleMonitor 5 (List.mem_singleton_self m)).bind
        fun _ _ _ _ hy => by cases hy
  · have hrow : row.id = m := hx
    refine ⟨trivial, fun y _ => ?_⟩
    show Follows _ _ (if row.enabled then _ else _) _
    split
    · intro y hy
      obtain rfl := Option.some.inj hy
      exact ⟨rfl, hrow⟩
    · exact fun _ hy => by cases hy

/-- The retry path leaves the monitor in hand, or it was to be scheduled. -/
theorem follows_hand_retryPath (cfg : ResultProcessorConfig) (r : HTTPResult) :
    (ResultProcessor.retryPath cfg r).Follows (handProtocol own)
      (fun x q' => x = some true ∨ x = none → r.monitorID ∈ q') [r.monitorID] := by
  have hmem : r.monitorID ∈ [r.monitorID] := List.mem_singleton_self _
  rw [ResultProcessor.retryPath]
  split
  · have hincr : (RedisClient.incrementRetry r.monitorID).Only (Cmd.handsOff ·) :=
      RedisClient.only_incrementRetry (Cmd.handsOff ·) rfl rfl rfl
    refine (follows_hand_of_handsOff hincr _).bind fun x q' hq' => ?_
    obtain rfl := hq'
    cases x with
    | error err =>
      exact (follows_hand_scheduleMonitor _ hmem).bind fun _ _ _ => by simp
    | ok count =>
      show Follows _ _ (if count ≤ cfg.retryLimit then _ else _) _
      split
      · exact (follows_hand_scheduleMonitor _ hmem).bind fun _ _ _ => by simp
      · have hclear : (RedisClient.clearRetry r.monitorID).Only (Cmd.handsOff ·) :=
          RedisClient.only_retry_call (Cmd.handsOff ·) rfl rfl 2
        exact (follows_hand_of_handsOff hclear _).bind fun _ q' hq' _ => hq' ▸ hmem
  · exact fun _ => hmem

/-- **`handleFailure`** schedules what it has in hand, and at most once. -/
theorem follows_hand_handleFailure (cfg : ResultProcessorConfig) (r : HTTPResult) :
    (ResultProcessor.handleFailure cfg r).Follows (handProtocol own) (fun _ _ => True)
      [r.monitorID] := by
  have hbody : (ResultProcessor.handleFailureBody cfg r).Follows (handProtocol own)
      (fun b q' => b = true → r.monitorID ∈ q') [r.monitorID] := by
    rw [ResultProcessor.handleFailureBody]
    split
    · have hstore : (RedisClient.storeStatus r.monitorID r.status r.latencyMs r.checkedAt).Only
          (Cmd.handsOff ·) := RedisClient.only_retry_call (Cmd.handsOff ·) rfl rfl 2
      exact (follows_hand_of_handsOff hstore _).bind fun _ _ _ h => by cases h
    · refine (follows_hand_retryPath cfg r).bind fun x q' hx => ?_
      rcases x with - | b
      · have hpath : (ResultProcessor.failurePath cfg r).Only (Cmd.handsOff ·) :=
          ResultProcessor.only_failurePath (Cmd.handsOff ·)
            (RedisClient.only_incrementIncident (Cmd.handsOff ·) rfl rfl rfl fun _ _ => rfl) rfl
            (ResultProcessor.only_alertDown (Cmd.handsOff ·) rfl (fun _ _ _ _ => rfl) rfl
              fun _ => rfl)
        refine (follows_hand_of_handsOff hpath _).bind fun _ q'' hq'' _ => ?_
        rw [hq'']
        exact hx (Or.inr rfl)
      · rintro rfl
        exact hx (Or.inl rfl)
  refine hbody.bind fun b q' hb => ?_
  cases b with
  | true => exact follows_hand_scheduleMonitor _ (hb rfl)
  | false => trivial

/-- **So does `handleSuccess`.** -/
theorem follows_hand_handleSuccess (r : HTTPResult) :
    (ResultProcessor.handleSuccess r).Follows (handProtocol own) (fun _ _ => True)
      [r.monitorID] := by
  have hbody : (ResultProcessor.handleSuccessBody r).Only (Cmd.handsOff ·) :=
    ResultProcessor.only_handleSuccessBody (Cmd.handsOff ·) rfl rfl (fun _ => rfl) rfl
      (fun _ => rfl) rfl (fun _ => rfl) rfl rfl
  refine (follows_hand_of_handsOff hbody _).bind fun _ q' hq' => ?_
  obtain rfl := hq'
  exact follows_hand_scheduleMonitor _ (List.mem_singleton_self _)

/-! ## Places -/

/-- The monitor, if the router has its result. -/
def Router.checks (m : UUID) : Router → ℕ
  | routing r => if r.monitorID = m then 1 else 0
  | _ => 0

theorem Router.checks_routing (m : UUID) (r : HTTPResult) :
    (Router.routing r).checks m = if r.monitorID = m then 1 else 0 := rfl

/-- The jobs and the results of the monitor in the channels and with the router. -/
def Shared.checks (m : UUID) (s : Shared) : ℕ :=
  s.jobChan.queue.countP (·.monitorID = m) + s.resultChan.queue.countP (·.monitorID = m) +
    s.router.checks m +
    ((s.routed true).queue.countP (·.monitorID = m) +
      (s.routed false).queue.countP (·.monitorID = m))

/-! When a channel is replaced, its queue is counted anew. -/

theorem Shared.checks_jobChan (m : UUID) (s : Shared) (ch : Channel JobPayload) :
    Shared.checks m { s with jobChan := ch } + s.jobChan.queue.countP (·.monitorID = m) =
      s.checks m + ch.queue.countP (·.monitorID = m) := by
  simp only [Shared.checks]
  omega

theorem Shared.checks_resultChan (m : UUID) (s : Shared) (ch : Channel HTTPResult) :
    Shared.checks m { s with resultChan := ch } + s.resultChan.queue.countP (·.monitorID = m) =
      s.checks m + ch.queue.countP (·.monitorID = m) := by
  simp only [Shared.checks]
  omega

/-- Replace the position of the router. -/
def Shared.setRouter (router : Router) (s : Shared) : Shared := { s with router := router }

theorem Shared.checks_setRouter (m : UUID) (router : Router) (s : Shared) :
    (s.setRouter router).checks m + s.router.checks m = s.checks m + router.checks m := by
  simp only [Shared.checks, Shared.setRouter]
  omega

theorem Shared.checks_setRouted (m : UUID) (ok : Bool) (ch : Channel HTTPResult) (s : Shared) :
    (s.setRouted ok ch).checks m + (s.routed ok).queue.countP (·.monitorID = m) =
      s.checks m + ch.queue.countP (·.monitorID = m) := by
  cases ok with
  | true =>
    simp only [Shared.checks, Shared.setRouted_self,
      Shared.setRouted_of_ne (show false ≠ true by decide)]
    simp only [Shared.setRouted]
    omega
  | false =>
    simp only [Shared.checks, Shared.setRouted_self,
      Shared.setRouted_of_ne (show true ≠ false by decide)]
    simp only [Shared.setRouted]
    omega

/-- How often a goroutine has the monitor in hand. -/
def Goroutine.hand (m : UUID) : Goroutine → ℕ
  | stands p => if p.Holds m then 1 else 0
  | runs (.request _) _ => 0
  | runs task t => ((handProtocol task.given).state t.log).count m

/-- How many checks of the monitor a goroutine has in hand: the scheduler has none. -/
def Goroutine.checksInHand (m : UUID) : Goroutine → ℕ
  | runs .doWork _ => 0
  | g => g.hand m

/-- **The checks of a monitor that are not over**: its jobs, waiting or with a worker, its
running requests, its results on their way, and the handlers that have not scheduled it. -/
def System.checks (m : UUID) (s : System) : ℕ :=
  s.shared.checks m + total (Goroutine.checksInHand m) s.procs

/-- The same, with the batch of the scheduler. -/
def System.out (m : UUID) (s : System) : ℕ :=
  s.shared.checks m + total (Goroutine.hand m) s.procs

/-- The place of a monitor in the schedule. -/
def World.place (m : UUID) (w : World) : ℕ := if w.Scheduled m then 1 else 0

theorem Goroutine.checksInHand_le (m : UUID) (g : Goroutine) : g.checksInHand m ≤ g.hand m := by
  unfold Goroutine.checksInHand
  split
  · exact Nat.zero_le _
  · exact le_rfl

theorem System.checks_le_out (m : UUID) (s : System) : s.checks m ≤ s.out m :=
  Nat.add_le_add_left (total_mono (Goroutine.checksInHand_le m) s.procs) _

theorem World.place_le (m : UUID) (w : World) : w.place m ≤ 1 := by
  unfold World.place
  split <;> omega

theorem World.place_congr {w w' : World} (h : w'.redis.schedule = w.redis.schedule) (m : UUID) :
    w'.place m = w.place m := by
  refine if_congr ?_ rfl rfl
  unfold World.Scheduled
  rw [h]

theorem World.place_mono {w w' : World} (h : w'.Scheduled m → w.Scheduled m) :
    w'.place m ≤ w.place m := by
  unfold World.place
  split
  · rename_i hm
    rw [if_pos (h hm)]
  · exact Nat.zero_le _

/-- The calls of a request: it takes nothing out of the schedule and offers nothing. -/
def Cmd.takesNothing : Cmd → Bool
  | redis (.zPopMin _) => false
  | offer _ => false
  | _ => true

/-- The goroutine passes on only what it has in hand. -/
def Goroutine.HandsOver : Goroutine → Prop
  | stands _ => True
  | runs (.request _) t =>
    t.todo.Follows (Protocol.stateless (Cmd.takesNothing ·) fun _ => True)
      (fun p _ => ∀ m, ¬ p.Holds m) ()
  | runs task t =>
    t.todo.Follows (handProtocol task.given) (fun p q => ∀ m, p.Holds m → m ∈ q)
      ((handProtocol task.given).state t.log)

theorem handsOver_start (cfg : Config) (task : Task) : (Goroutine.start cfg task).HandsOver := by
  cases task with
  | doWork => exact (follows_hand_doWork cfg.batchSize).bind fun _ _ _ _ hm => nomatch hm
  | startWork m =>
    refine (follows_hand_startWork m).bind fun x q' hx => ?_
    cases x with
    | none => exact fun _ hm => nomatch hm
    | some y =>
      obtain ⟨rfl, hid⟩ := hx y rfl
      exact fun m' hm' => List.mem_singleton.mpr ((show y.id = m' from hm').symm.trans hid)
  | handle ok r =>
    cases ok with
    | true => exact (follows_hand_handleSuccess r).bind fun _ _ _ _ hm => nomatch hm
    | false =>
      exact (follows_hand_handleFailure cfg.resultProcessor r).bind fun _ _ _ _ hm => nomatch hm
  | request req =>
    have honly : req.prog.Only (Cmd.takesNothing ·) := by
      refine req.only _ (fun c hc => ?_) fun _ _ _ _ => rfl
      cases c with
      | redis c => cases c <;> first | rfl | cases hc
      | offer job => cases hc
      | _ => rfl
    exact honly.stateless.bind fun _ _ _ _ hm => nomatch hm

/-! ## One call -/

section Call

variable {b : Bool} {s s' : Shared} {c : Cmd} {r : c.Resp}

/-- A Redis command fails and leaves the schedule, or does what Redis does. -/
theorem exec_redis {w w' : World} {c : RedisCmd} {r : Except RedisError c.Reply}
    (h : Interpreter (World.exec b) w (.redis c) r w') :
    ((∃ err, r = .error err) ∧ w'.redis.schedule = w.redis.schedule) ∨
      ∃ ks, r = ((w.redis.expire ks).exec c).1 ∧
        w'.redis.schedule = ((w.redis.expire ks).exec c).2.schedule := by
  cases b with
  | true =>
    obtain ⟨e, he⟩ := h
    exact Or.inl ⟨⟨.canceled, (congrArg Prod.fst he).symm⟩, schedule_of_canceled rfl ⟨e, he⟩⟩
  | false =>
    obtain ⟨ks, ⟨rfl, rfl⟩ | ⟨rfl, rfl⟩⟩ := World.live_redis h
    · exact Or.inl ⟨⟨_, rfl⟩, rfl⟩
    · exact Or.inr ⟨ks, rfl, rfl⟩

/-- The calls that do not move entries leave the schedule. -/
theorem schedule_of_still {w w' : World} (hc : c.moves = false)
    (h : Interpreter (World.exec b) w c r w') : w'.redis.schedule = w.redis.schedule := by
  cases b with
  | true => exact schedule_of_canceled rfl h
  | false =>
    obtain ⟨ks, rfl | ⟨c, rfl, rfl⟩ | ⟨q, now, rfl, rfl⟩ | ⟨ev, rfl, rfl⟩⟩ := World.live_cases h
    · rfl
    · refine Redis.exec_schedule ?_ _
      cases c <;> first | rfl | cases hc
    · rfl
    · rfl

/-- Every answer is one that the protocol expects. -/
theorem hand_answers (h : s.Serves b c r s') (own : List UUID) :
    (handProtocol own).answers ⟨c, r⟩ := by
  cases c with
  | redis c =>
    cases c with
    | zPopMin n =>
      rcases r with err | items
      · trivial
      · obtain ⟨w', hw, -⟩ := Shared.serves_worldly rfl h
        rcases exec_redis hw with ⟨⟨err, hr⟩, -⟩ | ⟨ks, hr, -⟩
        · cases hr
        · cases hr
          exact nodup_ids_popMin n _
    | _ => trivial
  | sql query =>
    cases query with
    | getMonitorByID m =>
      rcases r with err | row
      · trivial
      · obtain ⟨w', hw, -⟩ := Shared.serves_worldly rfl h
        cases b with
        | true =>
          obtain ⟨e, he⟩ := hw
          cases congrArg Prod.fst he
        | false =>
          obtain ⟨ks, now, ⟨hr, -⟩ | ⟨hr, -⟩⟩ := World.live_sql hw
          · cases hr
          · exact DB.id_of_monitor? (DB.monitor?_of_getMonitorByID hr.symm)
    | _ => trivial
  | timeNow | ctxDone | send ev | offer job => trivial

/-- **A call of the pipeline adds no place.** -/
theorem places_call (h : s.Serves b c r s') (hallows : (handProtocol own).allows q c) (m : UUID) :
    s'.world.place m + s'.checks m + ((handProtocol own).next q ⟨c, r⟩).count m ≤
      s.world.place m + s.checks m + q.count m := by
  have hfilter : ∀ f : UUID → Bool, (q.filter f).count m ≤ q.count m :=
    fun f => (List.filter_sublist).count_le m
  -- what is passed on was in hand, and is not afterwards
  have hpassed : ∀ f : UUID → Bool, m ∈ q → f m = false → (q.filter f).count m + 1 ≤ q.count m := by
    intro f hm hf
    have hnone : (q.filter f).count m = 0 := by
      refine List.count_eq_zero.mpr fun hmem => ?_
      rw [(List.mem_filter.mp hmem).2] at hf
      cases hf
    have hpos : 0 < q.count m := List.count_pos_iff.mpr hm
    omega
  cases c with
  | timeNow | ctxDone | sql query =>
    obtain ⟨w', hw, rfl⟩ := Shared.serves_worldly rfl h
    exact Nat.add_le_add_right
      (Nat.add_le_add_right (World.place_congr (schedule_of_still rfl hw) m).le _) _
  | send ev =>
    rcases Shared.serves_send h with ⟨ch, ks, -, rfl⟩ | ⟨-, rfl⟩
    · exact le_rfl
    · exact le_rfl
  | offer job =>
    rcases Shared.serves_offer h with
      ⟨rfl, ⟨ch, hch, rfl⟩ | ⟨-, rfl⟩⟩ | ⟨rfl, -, rfl⟩ | ⟨rfl, -, rfl⟩
    · have hchecks := s.checks_jobChan m ch
      rw [(Channel.send_ok hch).2.2, List.countP_append, List.countP_singleton] at hchecks
      show s.world.place m + _ + (q.filter (· ≠ job.monitorID)).count m ≤ _
      by_cases hm : job.monitorID = m
      · have hless := hpassed (· ≠ job.monitorID) (hm ▸ hallows) (by simp [hm])
        rw [if_pos (decide_eq_true hm)] at hchecks
        omega
      · have hless := hfilter (· ≠ job.monitorID)
        rw [if_neg (by simp [hm])] at hchecks
        omega
    · exact Nat.add_le_add_left (hfilter _) _
    · exact le_rfl
    · exact le_rfl
  | redis c =>
    obtain ⟨w', hw, rfl⟩ := Shared.serves_worldly rfl h
    show w'.place m + s.checks m + _ ≤ _
    cases c with
    | zAdd items =>
      rcases exec_redis hw with ⟨⟨err, rfl⟩, hsched⟩ | ⟨ks, rfl, hsched⟩
      · rw [World.place_congr hsched]
        exact le_rfl
      · show _ + _ + (q.filter (· ∉ ids items)).count m ≤ _
        by_cases hm : m ∈ ids items
        · have hless := hpassed (· ∉ ids items) (hallows m hm) (by simp [hm])
          have hone := w'.place_le m
          omega
        · have hless := hfilter (· ∉ ids items)
          have hplace : w'.place m ≤ s.world.place m := by
            refine World.place_mono fun hs => ?_
            rw [World.Scheduled, hsched] at hs
            refine (KeyValue.SortedSet.mem_members_add.mp hs).resolve_left fun hmem => ?_
            exact hm (mem_ids.mpr hmem)
          omega
    | zPopMin n =>
      rcases exec_redis hw with ⟨⟨err, rfl⟩, hsched⟩ | ⟨ks, rfl, hsched⟩
      · rw [World.place_congr hsched]
        exact le_rfl
      · show _ + _ + (q ++ ids (s.world.redis.schedule.popMin n).1).count m ≤ _
        rw [List.count_append]
        have hbatch := List.nodup_iff_count_le_one.mp
          (nodup_ids_popMin n s.world.redis.schedule) m
        by_cases hm : m ∈ ids (s.world.redis.schedule.popMin n).1
        · -- popped, so it was in the schedule and is not there any more
          have hmem := mem_ids.mp hm
          have hbefore : s.world.place m = 1 :=
            if_pos (KeyValue.SortedSet.mem_members_popMin.mp (Or.inl hmem))
          have hafter : w'.place m = 0 := by
            refine if_neg fun hs => ?_
            rw [World.Scheduled, hsched] at hs
            exact (List.nodup_append.mp (KeyValue.SortedSet.nodup_popMin n
              s.world.redis.schedule)).2.2 _ hmem _ hs rfl
          omega
        · have hplace : w'.place m ≤ s.world.place m := by
            refine World.place_mono fun hs => ?_
            rw [World.Scheduled, hsched] at hs
            exact KeyValue.SortedSet.mem_members_popMin.mp (Or.inr hs)
          rw [List.count_eq_zero.mpr hm]
          omega
    | zRem member =>
      have hplace : w'.place m ≤ s.world.place m := by
        refine World.place_mono fun hs => ?_
        rcases exec_redis hw with ⟨-, hsched⟩ | ⟨ks, -, hsched⟩
        · rwa [World.Scheduled, hsched] at hs
        · rw [World.Scheduled, hsched] at hs
          exact (KeyValue.SortedSet.mem_members_remove.mp hs).1
      exact Nat.add_le_add_right (Nat.add_le_add_right hplace _) _
    | _ =>
      exact Nat.add_le_add_right
        (Nat.add_le_add_right (World.place_congr (schedule_of_still rfl hw) m).le _) _

end Call

/-! ## One step -/

/-- The monitors that a request schedules in this step. -/
def Label.adds : Label → List UUID
  | call (.request _) ⟨.redis (.zAdd items), _⟩ => ids items
  | _ => []

/-- **A request schedules a monitor only while it is in nobody's hand**: neither with the
scheduler nor in a check. -/
def Label.Timely (s : System) (x : Label) : Prop := ∀ m ∈ x.adds, s.out m = 0

instance (s : System) : DecidablePred (Label.Timely s) :=
  fun x => inferInstanceAs (Decidable (∀ m ∈ x.adds, s.out m = 0))

section Step

variable {cfg : Config} {s s' : Shared} {g g' : Goroutine} {x : Label} {new : List Goroutine}

/-- A call of a request puts a monitor into the schedule or leaves its place, and takes
none. -/
theorem places_request {req : Request} {c : Cmd} {r : c.Resp}
    (h : s.Serves false c r s') (hc : c.takesNothing = true) (m : UUID) :
    s'.checks m = s.checks m ∧
      (m ∉ (Label.call (.request req) ⟨c, r⟩).adds → s'.world.place m ≤ s.world.place m) := by
  cases c with
  | offer job => cases hc
  | send ev =>
    rcases Shared.serves_send h with ⟨ch, ks, -, rfl⟩ | ⟨-, rfl⟩
    · exact ⟨rfl, fun _ => le_rfl⟩
    · exact ⟨rfl, fun _ => le_rfl⟩
  | timeNow | ctxDone | sql query =>
    obtain ⟨w', hw, rfl⟩ := Shared.serves_worldly rfl h
    exact ⟨rfl, fun _ => (World.place_congr (schedule_of_still rfl hw) m).le⟩
  | redis c =>
    obtain ⟨w', hw, rfl⟩ := Shared.serves_worldly rfl h
    refine ⟨rfl, fun hm => ?_⟩
    by_cases hmoves : (Cmd.redis c).moves = true
    · refine World.place_mono fun hs => ?_
      rcases exec_redis hw with ⟨-, hsched⟩ | ⟨ks, -, hsched⟩
      · rwa [World.Scheduled, hsched] at hs
      · rw [World.Scheduled, hsched] at hs
        cases c with
        | zAdd items =>
          refine (KeyValue.SortedSet.mem_members_add.mp hs).resolve_left fun hmem => ?_
          exact hm (mem_ids.mpr hmem)
        | zRem member => exact (KeyValue.SortedSet.mem_members_remove.mp hs).1
        | zPopMin n => cases hc
        | _ => cases hmoves
    · exact (World.place_congr (schedule_of_still (Bool.eq_false_iff.mpr hmoves) hw) m).le

theorem handsOver_step (h : Goroutine.Step cfg s g x s' g' new) (hg : g.HandsOver) :
    g'.HandsOver ∧ ∀ p ∈ new, p.HandsOver := by
  cases h with
  | @call _ task c k r log h =>
    refine ⟨?_, fun p hp => nomatch hp⟩
    cases task with
    | request req => exact hg.2 r trivial
    | doWork | startWork m' | handle ok r' =>
      show Follows _ _ _ ((handProtocol _).state (log ++ [⟨c, r⟩]))
      rw [Protocol.state_append]
      exact hg.2 r (hand_answers h _)
  | tick | take h | receive h => exact ⟨handsOver_start cfg _, fun p hp => nomatch hp⟩
  | spawn => exact ⟨trivial, List.forall_mem_singleton.mpr trivial⟩
  | _ => exact ⟨trivial, fun p hp => nomatch hp⟩

/-- **A step of a goroutine adds no place**, unless it is a request that schedules the
monitor, and takes nothing in hand without giving up a place. -/
theorem places_step (h : Goroutine.Step cfg s g x s' g' new) (hg : g.HandsOver) (m : UUID) :
    (m ∉ x.adds → s'.world.place m + s'.checks m + (g'.hand m + total (Goroutine.hand m) new) ≤
      s.world.place m + s.checks m + g.hand m) ∧
    (m ∈ x.adds → s'.checks m + (g'.hand m + total (Goroutine.hand m) new) ≤
      s.checks m + g.hand m) := by
  cases h with
  | @call _ task c k r log h =>
    cases task with
    | request req =>
      obtain ⟨hc, -⟩ := hg
      obtain ⟨hchecks, hplace⟩ := places_request h hc m
      refine ⟨fun hm => ?_, fun _ => ?_⟩
      · have hle := hplace hm
        show _ + s'.checks m + 0 ≤ _ + s.checks m + 0
        omega
      · show s'.checks m + 0 ≤ s.checks m + 0
        omega
    | doWork | startWork m' | handle ok r' =>
      refine ⟨fun _ => ?_, fun hm => nomatch hm⟩
      show _ + _ + ((((handProtocol _).state (log ++ [⟨c, r⟩])).count m) + 0) ≤ _
      rw [Protocol.state_append]
      exact places_call h hg.1 m
  | @ret task p log =>
    refine ⟨fun _ => ?_, fun hm => nomatch hm⟩
    have hshared : (task.finish s).world = s.world ∧ (task.finish s).checks m = s.checks m := by
      cases task <;> exact ⟨rfl, rfl⟩
    have hhand : (if p.Holds m then 1 else 0) ≤ Goroutine.hand m (.runs task ⟨.ret p, log⟩) := by
      split
      · rename_i hm
        cases task with
        | request req => exact absurd hm (hg m)
        | doWork | startWork m' | handle ok r' => exact List.count_pos_iff.mpr (hg m hm)
      · exact Nat.zero_le _
    rw [hshared.1, hshared.2]
    show _ + _ + ((if p.Holds m then 1 else 0) + 0) ≤ _
    omega
  | @take job ch h =>
    refine ⟨fun _ => ?_, fun hm => nomatch hm⟩
    have hchecks := s.checks_jobChan m ch
    rw [(Channel.recv_some h).1, List.countP_cons] at hchecks
    show s.world.place m + _ + (List.count m [job.monitorID] + 0) ≤ s.world.place m + _ + 0
    rw [List.count_singleton]
    simp only [beq_iff_eq, decide_eq_true_eq] at hchecks ⊢
    omega
  | @push r ch h =>
    refine ⟨fun _ => ?_, fun hm => nomatch hm⟩
    have hchecks := s.checks_resultChan m ch
    rw [(Channel.send_ok h).2.2, List.countP_append, List.countP_singleton] at hchecks
    show s.world.place m + _ + (0 + 0) ≤ s.world.place m + _ + (if r.monitorID = m then 1 else 0)
    simp only [decide_eq_true_eq] at hchecks
    omega
  | @receive ok r ch h =>
    refine ⟨fun _ => ?_, fun hm => nomatch hm⟩
    have hchecks := s.checks_setRouted m ok ch
    rw [(Channel.recv_some h).1, List.countP_cons] at hchecks
    show s.world.place m + _ + (List.count m [r.monitorID] + 0) ≤ s.world.place m + _ + 0
    rw [List.count_singleton]
    simp only [beq_iff_eq, decide_eq_true_eq] at hchecks ⊢
    omega
  | @check y o =>
    refine ⟨fun _ => ?_, fun hm => nomatch hm⟩
    show _ + _ + ((if (Executor.executeHTTPCheck y o).monitorID = m then 1 else 0) + 0) ≤ _
    rw [Executor.executeHTTPCheck_monitorID]
    exact le_rfl
  | @spawn y =>
    refine ⟨fun _ => ?_, fun hm => nomatch hm⟩
    show _ + _ + (0 + ((if y.id = m then 1 else 0) + 0)) ≤ _ + _ + (if y.id = m then 1 else 0)
    rw [Nat.zero_add]
    exact le_rfl
  | _ => exact ⟨fun _ => le_rfl, fun hm => nomatch hm⟩

theorem places_router (h : Router.Step s s') (m : UUID) :
    s'.world = s.world ∧ s'.checks m = s.checks m := by
  refine ⟨by cases h <;> rfl, ?_⟩
  cases h with
  | @receive r ch hr h =>
    have hresults := s.checks_resultChan m ch
    have hrouter := Shared.checks_setRouter m (.routing r) { s with resultChan := ch }
    have hbefore : (Shared.router { s with resultChan := ch }).checks m = 0 :=
      congrArg (Router.checks m) hr
    rw [(Channel.recv_some h).1, List.countP_cons] at hresults
    rw [hbefore, Router.checks_routing] at hrouter
    simp only [decide_eq_true_eq] at hresults
    show (Shared.setRouter (.routing r) { s with resultChan := ch }).checks m = _
    omega
  | @deliver r ch hr h =>
    have hrouted := s.checks_setRouted m r.success ch
    have hrouter := Shared.checks_setRouter m .ranging (s.setRouted r.success ch)
    have hbefore : (s.setRouted r.success ch).router.checks m = if r.monitorID = m then 1 else 0 :=
      congrArg (Router.checks m) hr
    rw [(Channel.send_ok h).2.2, List.countP_append, List.countP_singleton] at hrouted
    have hafter : Router.ranging.checks m = 0 := rfl
    rw [hbefore, hafter] at hrouter
    simp only [decide_eq_true_eq] at hrouted
    show (Shared.setRouter .ranging (s.setRouted r.success ch)).checks m = _
    omega
  | deliverPanics => rfl
  | leave hr h =>
    have hrouter := Shared.checks_setRouter m .closingFailure s
    rw [hr] at hrouter
    exact hrouter
  | closeFailure hr =>
    have hrouted := s.checks_setRouted m false (s.routed false).close
    have hrouter := Shared.checks_setRouter m .closingSuccess
      (s.setRouted false (s.routed false).close)
    have hbefore : (s.setRouted false (s.routed false).close).router.checks m = 0 :=
      congrArg (Router.checks m) hr
    rw [Channel.close_queue] at hrouted
    have hafter : Router.closingSuccess.checks m = 0 := rfl
    rw [hbefore, hafter] at hrouter
    show (Shared.setRouter _ (s.setRouted false (s.routed false).close)).checks m = _
    omega
  | closeSuccess hr =>
    have hrouted := s.checks_setRouted m true (s.routed true).close
    have hrouter := Shared.checks_setRouter m .done (s.setRouted true (s.routed true).close)
    have hbefore : (s.setRouted true (s.routed true).close).router.checks m = 0 :=
      congrArg (Router.checks m) hr
    rw [Channel.close_queue] at hrouted
    have hafter : Router.done.checks m = 0 := rfl
    rw [hbefore, hafter] at hrouter
    show (Shared.setRouter _ (s.setRouted true (s.routed true).close)).checks m = _
    omega

end Step

/-! ## Runs -/

variable {cfg : Config}

/-- Everyone passes on what is in hand, and a monitor has one place at most. -/
structure Single (s : System) : Prop where
  handsOver : ∀ g ∈ s.procs, g.HandsOver
  place : ∀ m, s.shared.world.place m + s.out m ≤ 1

theorem single_boot (cfg : Config) (w : World) : Single (.boot cfg w) where
  handsOver := System.forall_mem_boot trivial trivial (fun _ => trivial) trivial cfg w
  place m := by
    have hnone : (System.boot cfg w).out m = 0 := by
      have hprocs : total (Goroutine.hand m) (System.boot cfg w).procs = 0 :=
        total_eq_zero _ (System.forall_mem_boot (J := fun g => g.hand m = 0) rfl rfl
          (fun _ => rfl) rfl cfg w)
      rw [System.out, hprocs]
      rfl
    rw [hnone]
    exact w.place_le m

theorem single_step {s t : System} {x : Label} (h : System.Step cfg s x t) (hx : x.Timely s)
    (hs : Single s) : Single t := by
  cases h with
  | @proc s s' l new i g g' x hlive hi h =>
    have hg := hs.handsOver g (List.mem_of_getElem? hi)
    obtain ⟨hg', hnew⟩ := handsOver_step h hg
    refine ⟨forall_mem_step hs.handsOver (fun _ _ h => h) hg' hnew, fun m => ?_⟩
    obtain ⟨hkeep, hadd⟩ := places_step h hg m
    have htotal : total (Goroutine.hand m) (l.set i g' ++ new) + g.hand m =
        total (Goroutine.hand m) l + g'.hand m + total (Goroutine.hand m) new := total_step _ hi
    have hbefore := hs.place m
    simp only [System.out] at hbefore ⊢
    by_cases hm : m ∈ x.adds
    · have hnone := hx m hm
      have hle := hadd hm
      have hplace := s'.world.place_le m
      simp only [System.out] at hnone
      omega
    · have hle := hkeep hm
      omega
  | @router s s' l hlive h =>
    refine ⟨hs.handsOver, fun m => ?_⟩
    obtain ⟨hworld, hchecks⟩ := places_router h m
    have hbefore := hs.place m
    simp only [System.out, hworld, hchecks] at hbefore ⊢
    exact hbefore
  | @main s s' l hlive h =>
    refine ⟨hs.handsOver, fun m => ?_⟩
    have hbefore := hs.place m
    cases h <;> exact hbefore
  | @arrive s l hlive h req =>
    refine ⟨forall_mem_join hs.handsOver (handsOver_start cfg _), fun m => ?_⟩
    have hbefore := hs.place m
    simp only [System.out, total_append, total_cons, total_nil] at hbefore ⊢
    exact hbefore

/-- **No two checks of a monitor overlap** in a run whose requests schedule monitors only
while they are in nobody's hand. -/
theorem checks_le_one {w : World} {s : System} {l : List Label}
    (h : Runs (fun s x t => System.Step cfg s x t ∧ x.Timely s) (.boot cfg w) l s) (m : UUID) :
    s.checks m ≤ 1 := by
  have hsingle : Single s := h.invariant (I := Single) (single_boot cfg w)
    fun x _ _ _ hstep hs => single_step hstep.1 hstep.2 hs
  have hout := s.checks_le_out m
  have hplace := hsingle.place m
  omega

namespace Sample

/-- Steps of one goroutine a minute after the epoch. -/
def later (i n : ℕ) : List Move :=
  List.replicate n (.proc i ⟨⟨false, Time.addSeconds 0 60, [], .sent⟩, .response 200 1 0, false⟩)

/-- The sample monitor is disabled and enabled again, by the requests `i` and `i + 1`. -/
def switching (i : ℕ) : List Move :=
  .arrive (.updateStatus 9 1 false) :: moves i 9 ++
    .arrive (.updateStatus 9 1 true) :: moves (i + 1) 5

end Sample

theorem checks_le_one_sample : ∃ s : System, s.checks 1 = 1 ∧ s.checks 1 ≤ 1 := by
  have hplay : (System.play .least (fun s x => decide (x.Timely s))
      (Sample.switching 21 ++ Sample.later 0 4) (.boot .least Sample.scheduled)).any
      (fun s => decide (s.checks 1 = 1)) := by decide
  obtain ⟨s, hs, hcheck⟩ := (Option.any_eq_true _ _).mp hplay
  obtain ⟨l, hl⟩ := System.runs_of_play hs
  exact ⟨s, of_decide_eq_true hcheck,
    checks_le_one (hl.mono fun _ _ _ h => ⟨h.1, of_decide_eq_true h.2⟩) 1⟩

/-- The request is a `DeleteMonitor`. -/
def Label.deletes : Label → Bool
  | arrive (.delete ..) => true
  | _ => false

/-- **Checks of a monitor may overlap**: the monitor is disabled and enabled again while
its job waits, and the scheduler makes a second one. -/
theorem checks_overlap :
    ¬∀ (cfg : Config) (w : World) (s : System) (l : List Label), cfg.Valid → w.db.Keyed →
      Runs (System.Step cfg) (.boot cfg w) l s → (∀ x ∈ l, x.Clean) →
      (∀ x ∈ l, x.deletes = false) → ∀ m, s.checks m ≤ 1 := by
  intro hclaim
  have hplay : (System.play .least (fun _ x => decide x.Clean && !x.deletes)
      (Sample.moves 0 5 ++ Sample.switching 21 ++ Sample.later 0 4)
      (.boot .least Sample.scheduled)).any (fun s => decide (s.checks 1 = 2)) := by decide
  obtain ⟨s, hs, hcheck⟩ := (Option.any_eq_true _ _).mp hplay
  obtain ⟨l, hl⟩ := System.runs_of_play hs
  have hlabels : ∀ x ∈ l, x.Clean ∧ x.deletes = false := by
    refine hl.forall_label fun _ x _ hx => ?_
    obtain ⟨hclean, hno⟩ := Bool.and_eq_true_iff.mp hx.2
    exact ⟨of_decide_eq_true hclean, Bool.not_eq_true' _ ▸ hno⟩
  have hone := hclaim .least Sample.scheduled s l Config.least_valid Sample.keyed_scheduled
    (hl.mono fun _ _ _ h => h.1) (fun x hx => (hlabels x hx).1) (fun x hx => (hlabels x hx).2) 1
  rw [of_decide_eq_true hcheck] at hone
  exact absurd hone (by decide)

end Sofon
