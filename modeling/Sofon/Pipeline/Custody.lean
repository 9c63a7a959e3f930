import Sofon.Monitor.Enabled
import Sofon.Pipeline.System

/-!
# Who has a monitor in hand

A monitor goes round: from the schedule to the scheduler's batch, to `jobChan`, to
a worker, to a check, to `resultChan`, to a handler and back to the schedule.  At
each place somebody has to pass it on.

## Inside a function

The trace says what is still in hand: what a `ZPOPMIN` took out is, until a `ZADD` puts it back
or `jobChan` has it; and a worker is rid of its monitor when it has read that there is nothing
to check.  `custodyProtocol` is the automaton, its state the list of the monitors in hand, and
the functions of the pipeline return with nothing in hand that the next point of their loop does
not have (`keeps_start`).  For the scheduler that is an induction over its batch
(`follows_doWorkLoop`); for the handlers it is that every path but the terminal one comes to
`ScheduleMonitor`.

## Between functions

The places are counted off in `System.InLoop`.  `custody_call` says of one call that what leaves
the hand is in the schedule or in `jobChan` afterwards, or is not enabled, and `custody_step`
says it of a step of a goroutine: between functions a monitor goes from one point of a loop to
the next, or over a channel.  The router does the same with its one result (`custody_router`).

The commands on the schedule are assumed to succeed here (`Label.InLoop`); what happens when a
`ZADD` fails is told in `Writeback`.
-/

namespace Sofon

open Interleaving Program

/-- The monitors among the members of a batch. -/
def ids (items : List Z) : List UUID :=
  items.filterMap fun item =>
    match item.member with
    | .id m => some m
    | .text _ => none

theorem ids_cons_text {item : Z} {s : String} (h : item.member = .text s) (rest : List Z) :
    ids (item :: rest) = ids rest := List.filterMap_cons_none (by rw [h])

theorem ids_cons_id {item : Z} {m : UUID} (h : item.member = .id m) (rest : List Z) :
    ids (item :: rest) = m :: ids rest := List.filterMap_cons_some (by rw [h])

theorem mem_ids {m : UUID} {items : List Z} :
    m ∈ ids items ↔ Member.id m ∈ items.map KeyValue.Scored.member := by
  rw [ids, List.mem_filterMap, List.mem_map]
  constructor
  · rintro ⟨item, hitem, heq⟩
    refine ⟨item, hitem, ?_⟩
    split at heq
    · rename_i m' hm'
      rw [hm', Option.some.inj heq]
    · cases heq
  · rintro ⟨item, hitem, heq⟩
    exact ⟨item, hitem, by rw [heq]⟩

/-- The ids of a batch are distinct. -/
theorem nodup_ids_popMin (n : ℕ) (s : KeyValue.SortedSet Member) :
    (ids (s.popMin n).1).Nodup := by
  have hmembers := (List.nodup_append.mp (KeyValue.SortedSet.nodup_popMin n s)).1
  have hids : ids (s.popMin n).1 = ((s.popMin n).1.map KeyValue.Scored.member).filterMap
      fun member => match member with
        | .id m => some m
        | .text _ => none := by
    rw [List.filterMap_map]
    rfl
  rw [hids]
  refine hmembers.filterMap ?_
  intro a a' m ha ha'
  cases a with
  | text s => cases ha
  | id m₁ =>
    cases a' with
    | text s => cases ha'
    | id m₂ => rw [Option.some.inj ha, Option.some.inj ha']

/-- Popping takes out what it answers. -/
theorem mem_popMin_iff {m : UUID} {n : ℕ} {s : KeyValue.SortedSet Member} :
    Member.id m ∈ (s.popMin n).2.members ↔
      Member.id m ∈ s.members ∧ m ∉ ids (s.popMin n).1 := by
  have hnodup := KeyValue.SortedSet.nodup_popMin n s
  rw [List.nodup_append'] at hnodup
  constructor
  · intro hm
    refine ⟨KeyValue.SortedSet.mem_members_popMin.mp (Or.inr hm), fun hpopped => ?_⟩
    exact hnodup.2.2 (mem_ids.mp hpopped) hm
  · rintro ⟨hm, hnot⟩
    rcases KeyValue.SortedSet.mem_members_popMin.mpr hm with hpopped | hm
    · exact absurd (mem_ids.mpr hpopped) hnot
    · exact hm

/-- The monitors in hand of a function of the pipeline that was given `own`. -/
def custodyProtocol (own : List UUID) : Protocol Cmd Cmd.Resp (List UUID) where
  start := own
  next q e := match e with
    | ⟨.redis (.zPopMin _), .ok items⟩ => q ++ ids items
    | ⟨.redis (.zAdd items), .ok _⟩ => q.filter (· ∉ ids items)
    | ⟨.offer job, .sent⟩ => q.filter (· ≠ job.monitorID)
    | ⟨.sql (.getMonitorByID m), .ok row⟩ => if row.enabled then q else q.filter (· ≠ m)
    | ⟨.sql (.getMonitorByID m), .error .noRows⟩ => q.filter (· ≠ m)
    | _ => q
  allows _ c := match c with
    | .redis (.zRem _) => False
    | .sql (.updateMonitorStatus ..) => False
    | .sql (.createMonitor ..) => False
    | .sql (.deleteMonitor ..) => False
    | _ => True
  -- the schedule commands succeed, and nobody is told that the context is done
  answers e := match e with
    | ⟨.redis (.zAdd _), .error _⟩ => False
    | ⟨.redis (.zPopMin _), .error _⟩ => False
    | ⟨.offer _, .done⟩ => False
    | ⟨.sql (.getMonitorByID m), .ok row⟩ => row.id = m
    | _ => True

variable {own q : List UUID} {m : UUID}

/-- The calls that leave every hand as it is. -/
def Cmd.handsOff : Cmd → Bool
  | sql (.getMonitorByID _) => false
  | offer _ => false
  | c => c.neutral

theorem Cmd.neutral_of_handsOff {c : Cmd} (h : c.handsOff) : c.neutral := by
  cases c with
  | sql query => cases query <;> first | exact h | rfl
  | offer job => rfl
  | _ => exact h

theorem Cmd.handsOff_allowed {c : Cmd} (h : c.handsOff) : (custodyProtocol own).allows q c := by
  cases c with
  | redis c => cases c <;> trivial
  | sql q' => cases q' <;> trivial
  | _ => trivial

theorem Cmd.handsOff_next {c : Cmd} (h : c.handsOff) (r : c.Resp) :
    (custodyProtocol own).next q ⟨c, r⟩ = q := by
  cases c with
  | redis c => cases c <;> first | rfl | cases h
  | sql q' => cases q' <;> first | rfl | cases h
  | offer job => cases h
  | timeNow | ctxDone | send ev => rfl

theorem follows_of_handsOff {α : Type} {p : Prog α} (hp : p.Only (Cmd.handsOff ·)) (q : List UUID) :
    p.Follows (custodyProtocol own) (fun _ q' => q' = q) q :=
  hp.follows (fun _ hc => Cmd.handsOff_allowed hc) fun _ r hc => Cmd.handsOff_next hc r

/-! ## The functions of the pipeline -/

/-- What is put into the schedule is out of hand. -/
theorem follows_zAdd (items : List Z) (n : ℕ) (q : List UUID) :
    (RedisClient.retry (n + 1) (call (.redis (.zAdd items)))).Follows (custodyProtocol own)
      (fun _ q' => q' = q.filter (· ∉ ids items)) q := by
  refine RedisClient.follows_retry trivial (fun r hr => ?_) fun _ => rfl
  rcases r with err | u
  · cases hr
  · exact ⟨u, rfl⟩

theorem follows_custody_scheduleMonitor (m : UUID) (i : ℤ) (hq : ∀ m' ∈ q, m' = m) :
    (MonitorService.scheduleMonitor m i).Follows (custodyProtocol own) (fun _ q' => q' = []) q := by
  refine ⟨trivial, fun now _ => (follows_zAdd _ 2 q).bind fun _ q' hq' => ?_⟩
  rw [pure_eq, follows_ret_iff, hq', List.filter_eq_nil_iff]
  intro m' hm'
  rw [hq m' hm']
  simp [ids]

/-- The scheduler deals with every member of its batch. -/
theorem follows_doWorkLoop (now : ℤ) (items : List Z) (hq : ∀ m ∈ q, m ∈ ids items) :
    (Scheduler.doWorkLoop Member.printedOnly now items).Follows (custodyProtocol own)
      (fun _ q' => q' = []) q := by
  induction items generalizing q with
  | nil =>
    rw [Scheduler.doWorkLoop, pure_eq, follows_ret_iff]
    exact List.eq_nil_iff_forall_not_mem.mpr fun m hm => absurd (hq m hm) List.not_mem_nil
  | cons item rest ih =>
    rw [Scheduler.doWorkLoop]
    split
    · -- this entry and all behind it go back
      refine (follows_zAdd (item :: rest) 2 q).bind fun _ q' hq' => ?_
      rw [pure_eq, follows_ret_iff, hq', List.filter_eq_nil_iff]
      intro m hm
      simpa using hq m hm
    · split
      · rename_i hnone
        obtain ⟨s, hs⟩ := Member.uuid?_printedOnly_eq_none.mp hnone
        refine ih fun m hm => ?_
        have hmem := hq m hm
        rw [ids_cons_text hs] at hmem
        exact hmem
      · rename_i id hsome
        have hid := Member.uuid?_printedOnly_eq_some.mp hsome
        rw [hid]
        have hrest : ∀ m ∈ q, m ≠ id → m ∈ ids rest := by
          intro m hm hne
          have hmem := hq m hm
          rw [ids_cons_id hid] at hmem
          exact (List.mem_cons.mp hmem).resolve_left hne
        refine ⟨trivial, fun o ho => ?_⟩
        cases o with
        | sent =>
          refine ih fun m hm => ?_
          obtain ⟨hm, hne⟩ := List.mem_filter.mp hm
          exact hrest m hm (of_decide_eq_true hne)
        | done => cases ho
        | full =>
          refine (follows_zAdd _ 2 q).bind fun _ q' hq' => ih fun m hm => ?_
          rw [hq', List.mem_filter] at hm
          refine hrest m hm.1 fun heq => ?_
          simp [ids, heq] at hm

theorem follows_doWork (n : ℕ) :
    (Scheduler.doWork Member.printedOnly n).Follows (custodyProtocol own)
      (fun _ q' => q' = []) [] := by
  refine ⟨trivial, fun now _ => ?_⟩
  have hpop : (RedisClient.popDue n).Follows (custodyProtocol own)
      (fun x q' => ∃ items, x = .ok items ∧ q' = ids items) [] := by
    refine RedisClient.follows_retry trivial (fun r hr => ?_) fun items => ⟨items, rfl, rfl⟩
    rcases r with err | items
    · cases hr
    · exact ⟨items, rfl⟩
  refine hpop.bind fun x q' hx => ?_
  obtain ⟨items, rfl, rfl⟩ := hx
  exact follows_doWorkLoop _ items fun m hm => hm

/-- A worker goes on with its monitor, or is rid of it. -/
theorem follows_startWork (m : UUID) :
    (Executor.startWork m).Follows (custodyProtocol own)
      (fun x q' => match x with
        | none => q' = []
        | some y => q' = [m] ∧ y.id = m) [m] := by
  have hrid : [m].filter (· ≠ m) = [] := by simp
  refine ⟨trivial, fun x hx => ?_⟩
  rcases x with err | row
  · cases err with
    | noRows =>
      show [m].filter (· ≠ m) = []
      exact hrid
    | constraint | unavailable | canceled =>
      have hown : ∀ m' ∈ [m], m' = m := fun m' hm' => List.mem_singleton.mp hm'
      exact (follows_custody_scheduleMonitor m 5 hown).bind fun _ _ hq => hq
  · have hrow : row.id = m := hx
    refine ⟨trivial, fun y _ => ?_⟩
    show Follows _ _ (if row.enabled then _ else _) (if row.enabled then [m] else _)
    split
    · exact ⟨rfl, hrow⟩
    · exact hrid

theorem follows_retryPath (cfg : ResultProcessorConfig) (r : HTTPResult) :
    (ResultProcessor.retryPath cfg r).Follows (custodyProtocol own)
      (fun x q' => x = none ∧ q' = [r.monitorID] ∨ x = some false ∧ q' = []) [r.monitorID] := by
  have hown : ∀ m ∈ [r.monitorID], m = r.monitorID := fun m hm => List.mem_singleton.mp hm
  rw [ResultProcessor.retryPath]
  split
  · have hincr : (RedisClient.incrementRetry r.monitorID).Only (Cmd.handsOff ·) :=
      RedisClient.only_incrementRetry (Cmd.handsOff ·) rfl rfl rfl
    refine (follows_of_handsOff hincr _).bind fun x q' hq' => ?_
    obtain rfl := hq'
    cases x with
    | error err =>
      exact (follows_custody_scheduleMonitor _ _ hown).bind fun _ _ hq => Or.inr ⟨rfl, hq⟩
    | ok count =>
      show Follows _ _ (if count ≤ cfg.retryLimit then _ else _) _
      split
      · exact (follows_custody_scheduleMonitor _ _ hown).bind fun _ _ hq => Or.inr ⟨rfl, hq⟩
      · have hclear : (RedisClient.clearRetry r.monitorID).Only (Cmd.handsOff ·) :=
          RedisClient.only_retry_call (Cmd.handsOff ·) rfl rfl 2
        exact (follows_of_handsOff hclear _).bind fun _ _ hq => Or.inl ⟨rfl, hq⟩
  · exact Or.inl ⟨rfl, rfl⟩

/-- **`handleFailure` schedules the monitor unless the failure is terminal.** -/
theorem follows_custody_handleFailure (cfg : ResultProcessorConfig) (r : HTTPResult) :
    (ResultProcessor.handleFailure cfg r).Follows (custodyProtocol own)
      (fun _ q' => q' = [] ∨ q' = [r.monitorID] ∧ r.terminal = true) [r.monitorID] := by
  have hown : ∀ m ∈ [r.monitorID], m = r.monitorID := fun m hm => List.mem_singleton.mp hm
  have hbody : (ResultProcessor.handleFailureBody cfg r).Follows (custodyProtocol own)
      (fun b q' => b = true ∧ q' = [r.monitorID] ∨
        b = false ∧ (q' = [] ∨ q' = [r.monitorID] ∧ r.terminal = true)) [r.monitorID] := by
    rw [ResultProcessor.handleFailureBody]
    split
    · rename_i hterm
      have hstore : (RedisClient.storeStatus r.monitorID r.status r.latencyMs r.checkedAt).Only
          (Cmd.handsOff ·) := RedisClient.only_retry_call (Cmd.handsOff ·) rfl rfl 2
      exact (follows_of_handsOff hstore _).bind fun _ _ hq => Or.inr ⟨rfl, Or.inr ⟨hq, hterm⟩⟩
    · refine (follows_retryPath cfg r).bind fun x q' hx => ?_
      obtain ⟨rfl, rfl⟩ | ⟨rfl, rfl⟩ := hx
      · have hpath : (ResultProcessor.failurePath cfg r).Only (Cmd.handsOff ·) :=
          ResultProcessor.only_failurePath (Cmd.handsOff ·)
            (RedisClient.only_incrementIncident (Cmd.handsOff ·) rfl rfl rfl fun _ _ => rfl) rfl
            (ResultProcessor.only_alertDown (Cmd.handsOff ·) rfl (fun _ _ _ _ => rfl) rfl
              fun _ => rfl)
        exact (follows_of_handsOff hpath _).bind fun _ _ hq => Or.inl ⟨rfl, hq⟩
      · exact Or.inr ⟨rfl, Or.inl rfl⟩
  refine hbody.bind fun b q' hb => ?_
  obtain ⟨rfl, rfl⟩ | ⟨rfl, hq'⟩ := hb
  · exact (follows_custody_scheduleMonitor _ _ hown).mono fun _ _ hq => Or.inl hq
  · exact hq'

/-- **`handleSuccess` always schedules the monitor.**  Whatever the calls before it have answered,
it comes to the `ZADD`, after which the monitor is in nobody's hand. -/
theorem follows_custody_handleSuccess (r : HTTPResult) :
    (ResultProcessor.handleSuccess r).Follows (custodyProtocol own) (fun _ q' => q' = [])
      [r.monitorID] := by
  have hbody : (ResultProcessor.handleSuccessBody r).Only (Cmd.handsOff ·) :=
    ResultProcessor.only_handleSuccessBody (Cmd.handsOff ·) rfl rfl (fun _ => rfl) rfl
      (fun _ => rfl) rfl (fun _ => rfl) rfl rfl
  refine (follows_of_handsOff hbody _).bind fun _ q' hq' => ?_
  obtain rfl := hq'
  exact follows_custody_scheduleMonitor _ _ fun m hm => List.mem_singleton.mp hm

/-! ## Places -/

/-- The monitor that is in hand at a point. -/
def Point.Holds (m : UUID) : Point → Prop
  | loaded x => x.id = m
  | acquired x => x.id = m
  | checking x => x.id = m
  | checked r => r.monitorID = m
  | _ => False

/-- What a function of the pipeline is given. -/
def Task.given : Task → List UUID
  | doWork => []
  | startWork m => [m]
  | handle _ r => [r.monitorID]
  | request _ => []

/-- Handling the result ends the monitoring of `m`: a terminal failure. -/
def Task.Stops (m : UUID) : Task → Prop
  | handle ok r => ok = false ∧ r.terminal = true ∧ r.monitorID = m
  | _ => False

/-- The goroutine has the monitor in hand: it stands there with it, or it is inside
a function that has taken it over and has not passed it on. -/
def Goroutine.Holds (m : UUID) : Goroutine → Prop
  | stands p => p.Holds m
  | runs task t => m ∈ (custodyProtocol task.given).state t.log

/-- The monitor is in a channel, or the router has its result. -/
def Shared.Holds (m : UUID) (s : Shared) : Prop :=
  ⟨m⟩ ∈ s.jobChan.queue ∨ (∃ r ∈ s.resultChan.queue, r.monitorID = m) ∨
    (∃ r, s.router = .routing r ∧ r.monitorID = m) ∨
      ∃ ok, ∃ r ∈ (s.routed ok).queue, r.monitorID = m

/-- **The monitor is in the loop**: in the schedule, in a channel, or in the hand of
a goroutine. -/
def System.InLoop (m : UUID) (s : System) : Prop :=
  s.shared.world.Scheduled m ∨ s.shared.Holds m ∨ ∃ g ∈ s.procs, g.Holds m

instance (m : UUID) : DecidablePred (Point.Holds m)
  | .loaded x | .acquired x | .checking x => inferInstanceAs (Decidable (x.id = m))
  | .checked r => inferInstanceAs (Decidable (r.monitorID = m))
  | .select | .jobs | .pushed | .released | .results _ | .resultsDone _ | .alerts | .alerting _
  | .exited => inferInstanceAs (Decidable False)

instance (m : UUID) : DecidablePred (Goroutine.Holds m)
  | .stands p => inferInstanceAs (Decidable (p.Holds m))
  | .runs task t => inferInstanceAs (Decidable (m ∈ (custodyProtocol task.given).state t.log))

instance (m : UUID) (s : Shared) : Decidable (∃ r, s.router = .routing r ∧ r.monitorID = m) :=
  match h : s.router with
  | .routing r => decidable_of_iff (r.monitorID = m)
      ⟨fun hr => ⟨r, rfl, hr⟩, fun ⟨r', heq, hr⟩ => by cases heq; exact hr⟩
  | .ranging | .closingFailure | .closingSuccess | .done =>
    isFalse fun ⟨_, heq, _⟩ => nomatch heq

instance (m : UUID) (s : Shared) : Decidable (s.Holds m) :=
  inferInstanceAs (Decidable (_ ∨ _ ∨ _ ∨ _))

instance (m : UUID) (s : System) : Decidable (s.InLoop m) :=
  inferInstanceAs (Decidable (_ ∨ _ ∨ _))

/-- What a function of the pipeline may have in hand when it returns. -/
def Task.PassedOn (task : Task) (p : Point) (q : List UUID) : Prop :=
  ∀ m ∈ q, p.Holds m ∨ task.Stops m

/-- The goroutine obeys the custody protocol.  Requests have no part in it. -/
def Goroutine.Keeps : Goroutine → Prop
  | stands _ => True
  | runs (.request _) _ => False
  | runs task t =>
    t.todo.Follows (custodyProtocol task.given) task.PassedOn
      ((custodyProtocol task.given).state t.log)

/-- **Every function of the pipeline passes on what it was given.** -/
theorem keeps_start (cfg : Config) {task : Task} (htask : ∀ req, task ≠ .request req) :
    (Goroutine.start cfg task).Keeps := by
  cases task with
  | doWork =>
    refine (follows_doWork cfg.batchSize).bind fun _ q' hq' => ?_
    rw [hq']
    exact fun m hm => nomatch hm
  | startWork m =>
    refine (follows_startWork m).bind fun x q' hx => ?_
    cases x with
    | none =>
      rw [show q' = [] from hx]
      exact fun m hm => nomatch hm
    | some y =>
      rw [hx.1]
      exact fun m' hm' => Or.inl (hx.2.trans (List.mem_singleton.mp hm').symm)
  | handle ok r =>
    cases ok with
    | true =>
      refine (follows_custody_handleSuccess r).bind fun _ q' hq' => ?_
      rw [hq']
      exact fun m hm => nomatch hm
    | false =>
      refine (follows_custody_handleFailure cfg.resultProcessor r).bind fun _ q' hq' => ?_
      obtain rfl | ⟨rfl, hterm⟩ := hq'
      · exact fun m hm => nomatch hm
      · exact fun m hm => Or.inr ⟨rfl, hterm, (List.mem_singleton.mp hm).symm⟩
  | request req => exact absurd rfl (htask req)

/-! ## What a call does to the places -/

section Call

variable {s s' : Shared} {c : Cmd} {r : c.Resp}

/-- The commands that move entries of the schedule. -/
def Cmd.moves : Cmd → Bool
  | redis (.zAdd _) => true
  | redis (.zPopMin _) => true
  | redis (.zRem _) => true
  | _ => false

/-- A live context and working schedule commands give the answers that the protocol
expects. -/
theorem answers_of_serves (h : s.Serves false c r s')
    (hok : c.moves = true → Call.failed ⟨c, r⟩ = false) : (custodyProtocol own).answers ⟨c, r⟩ := by
  cases c with
  | redis c =>
    cases c with
    | zAdd items =>
      rcases r with err | u
      · obtain ⟨w', hw, -⟩ := Shared.serves_worldly rfl h
        obtain ⟨ks, ⟨hr, -⟩ | ⟨hr, -⟩⟩ := World.live_redis hw
        · cases hr
          cases hok rfl
        · cases hr
      · trivial
    | zPopMin n =>
      rcases r with err | items
      · obtain ⟨w', hw, -⟩ := Shared.serves_worldly rfl h
        obtain ⟨ks, ⟨hr, -⟩ | ⟨hr, -⟩⟩ := World.live_redis hw
        · cases hr
          cases hok rfl
        · cases hr
      · trivial
    | _ => trivial
  | sql query =>
    cases query with
    | getMonitorByID m =>
      rcases r with err | row
      · trivial
      · obtain ⟨w', hw, -⟩ := Shared.serves_worldly rfl h
        obtain ⟨ks, now, ⟨hr, -⟩ | ⟨hr, -⟩⟩ := World.live_sql hw
        · cases hr
        · exact DB.id_of_monitor? (DB.monitor?_of_getMonitorByID hr.symm)
    | _ => trivial
  | offer job =>
    rcases Shared.serves_offer h with ⟨rfl, -⟩ | ⟨-, hb, -⟩ | ⟨rfl, -, -⟩
    · trivial
    · cases hb
    · trivial
  | timeNow | ctxDone | send ev => trivial

/-- **What leaves the hand is in the schedule or in `jobChan`, or is not enabled.** -/
theorem custody_call (h : s.Serves false c r s') (hopen : s.jobChan.closed = false)
    (hallows : (custodyProtocol own).allows q c) (hans : (custodyProtocol own).answers ⟨c, r⟩) :
    s'.world.db.monitors = s.world.db.monitors ∧
      ∀ m, s.world.db.Enabled m → s.world.Scheduled m ∨ s.Holds m ∨ m ∈ q →
        s'.world.Scheduled m ∨ s'.Holds m ∨ m ∈ (custodyProtocol own).next q ⟨c, r⟩ := by
  by_cases hoff : c.handsOff
  · rw [Cmd.handsOff_next hoff]
    cases c with
    | offer job => cases hoff
    | send ev =>
      rcases Shared.serves_send h with ⟨ch, ks, -, rfl⟩ | ⟨-, rfl⟩
      · exact ⟨rfl, fun m _ hm => hm⟩
      · exact ⟨rfl, fun m _ hm => hm⟩
    | timeNow | ctxDone | redis c | sql query =>
      obtain ⟨w', hw, rfl⟩ := Shared.serves_worldly rfl h
      obtain ⟨hrows, hsched⟩ := neutral_of_live (Cmd.neutral_of_handsOff hoff) hw
      refine ⟨hrows, fun m _ hm => ?_⟩
      show Member.id m ∈ w'.redis.schedule.members ∨ s.Holds m ∨ m ∈ q
      rwa [hsched]
  · cases c with
    | timeNow | ctxDone | send ev => exact absurd rfl hoff
    | offer job =>
      rcases Shared.serves_offer h with
        ⟨rfl, ⟨ch, hch, rfl⟩ | ⟨hpanic, -⟩⟩ | ⟨-, hb, -⟩ | ⟨rfl, -, rfl⟩
      · refine ⟨rfl, fun m _ hm => ?_⟩
        have hqueue := (Channel.send_ok hch).2.2
        rcases hm with hm | (hm | hm) | hm
        · exact Or.inl hm
        · refine Or.inr (Or.inl (Or.inl ?_))
          rw [hqueue]
          exact List.mem_append_left _ hm
        · exact Or.inr (Or.inl (Or.inr hm))
        · by_cases hjob : m = job.monitorID
          · refine Or.inr (Or.inl (Or.inl ?_))
            rw [hqueue, hjob]
            exact List.mem_append_right _ (List.mem_singleton_self _)
          · exact Or.inr (Or.inr (List.mem_filter.mpr ⟨hm, decide_eq_true hjob⟩))
      · rw [Channel.closed_of_panics hpanic] at hopen
        cases hopen
      · cases hb
      · exact ⟨rfl, fun m _ hm => hm⟩
    | redis c =>
      obtain ⟨w', hw, rfl⟩ := Shared.serves_worldly rfl h
      cases c with
      | zAdd items =>
        obtain ⟨ks, ⟨rfl, -⟩ | ⟨rfl, rfl⟩⟩ := World.live_redis hw
        · cases hans
        refine ⟨rfl, fun m _ hm => ?_⟩
        show Member.id m ∈ (s.world.redis.schedule.add items).members ∨ s.Holds m ∨
          m ∈ q.filter (· ∉ ids items)
        rw [KeyValue.SortedSet.mem_members_add, ← mem_ids, List.mem_filter, decide_eq_true_eq]
        by_cases hitems : m ∈ ids items
        · exact Or.inl (Or.inl hitems)
        · exact hm.imp Or.inr (Or.imp_right fun hq => ⟨hq, hitems⟩)
      | zPopMin n =>
        obtain ⟨ks, ⟨rfl, -⟩ | ⟨rfl, rfl⟩⟩ := World.live_redis hw
        · cases hans
        refine ⟨rfl, fun m _ hm => ?_⟩
        show Member.id m ∈ (s.world.redis.schedule.popMin n).2.members ∨ s.Holds m ∨
          m ∈ q ++ ids (s.world.redis.schedule.popMin n).1
        rw [List.mem_append, mem_ids]
        rcases hm with hm | hm | hm
        · rcases KeyValue.SortedSet.mem_members_popMin.mpr hm with hm | hm
          · exact Or.inr (Or.inr (Or.inr hm))
          · exact Or.inl hm
        · exact Or.inr (Or.inl hm)
        · exact Or.inr (Or.inr (Or.inl hm))
      | zRem member => cases hallows
      | _ => exact absurd rfl hoff
    | sql query =>
      obtain ⟨w', hw, rfl⟩ := Shared.serves_worldly rfl h
      cases query with
      | getMonitorByID m₀ =>
        obtain ⟨hrows, hsched⟩ := neutral_of_live (c := .sql (.getMonitorByID m₀)) rfl hw
        refine ⟨hrows, fun m hen hm => ?_⟩
        have hkeep : s.world.Scheduled m ∨ s.Holds m ∨ m ∈ q →
            w'.Scheduled m ∨ s.Holds m ∨ m ∈ q := by
          intro hm
          rwa [World.Scheduled, hsched]
        have hdrop : m ≠ m₀ → s.world.Scheduled m ∨ s.Holds m ∨ m ∈ q →
            w'.Scheduled m ∨ s.Holds m ∨ m ∈ q.filter (· ≠ m₀) := by
          intro hne hm
          refine (hkeep hm).imp_right (Or.imp_right fun hq => ?_)
          exact List.mem_filter.mpr ⟨hq, decide_eq_true hne⟩
        obtain ⟨row, hrow, hrowen⟩ := hen
        obtain ⟨ks, now, ⟨rfl, -⟩ | ⟨hr, -⟩⟩ := World.live_sql hw
        · exact hkeep hm
        · simp only [DB.exec] at hr
          split at hr
          · rename_i row' hrow'
            subst hr
            show _ ∨ _ ∨ m ∈ (if row'.enabled then q else q.filter (· ≠ m₀))
            split
            · exact hkeep hm
            · rename_i hdis
              refine hdrop (fun heq => hdis ?_) hm
              rw [heq, hrow'] at hrow
              rwa [Option.some.inj hrow]
          · rename_i hnone
            subst hr
            refine hdrop (fun heq => ?_) hm
            rw [heq, hnone] at hrow
            cases hrow
      | updateMonitorStatus | createMonitor | deleteMonitor => cases hallows
      | _ => exact absurd rfl hoff

end Call

/-! ## What a step does to the places -/

/-- What the steps of the loop must meet: no request and no shutdown, and the
commands on the schedule succeed. -/
def Label.InLoop : Label → Prop
  | silent => True
  | call _ e => e.cmd.moves = true → e.failed = false
  | returned _ => True
  | arrive _ => False
  | main _ => False

instance : DecidablePred Label.InLoop
  | .silent => inferInstanceAs (Decidable True)
  | .call _ e => inferInstanceAs (Decidable (e.cmd.moves = true → e.failed = false))
  | .returned _ => inferInstanceAs (Decidable True)
  | .arrive _ => inferInstanceAs (Decidable False)
  | .main _ => inferInstanceAs (Decidable False)

/-- The step is the return of a handler that ends the monitoring of `m`. -/
def Label.Stops (m : UUID) : Label → Prop
  | returned task => task.Stops m
  | _ => False

section Step

variable {cfg : Config} {s s' : Shared} {g g' : Goroutine} {x : Label} {new : List Goroutine}

/-- The goroutines obey the protocol, those that are started included. -/
theorem keeps_step (h : Goroutine.Step cfg s g x s' g' new) (hmain : s.main = .running)
    (hg : g.Keeps) (hx : x.InLoop) : g'.Keeps ∧ ∀ p ∈ new, p.Keeps := by
  cases h with
  | @call _ task c k r log h =>
    refine ⟨?_, fun p hp => nomatch hp⟩
    rw [task.canceled_of_running hmain] at h
    have hans : ∀ own, (custodyProtocol own).answers ⟨c, r⟩ := fun _ => answers_of_serves h hx
    cases task with
    | request req => cases hg
    | doWork | startWork m | handle ok r' =>
      show Follows _ _ _ ((custodyProtocol _).state (log ++ [⟨c, r⟩]))
      rw [Protocol.state_append]
      exact hg.2 r (hans _)
  | tick => exact ⟨keeps_start cfg nofun, fun p hp => nomatch hp⟩
  | take h => exact ⟨keeps_start cfg nofun, fun p hp => nomatch hp⟩
  | receive h => exact ⟨keeps_start cfg nofun, fun p hp => nomatch hp⟩
  | spawn => exact ⟨trivial, List.forall_mem_singleton.mpr trivial⟩
  | _ => exact ⟨trivial, fun p hp => nomatch hp⟩

/-- **A goroutine passes on what it had in hand.** -/
theorem custody_step (h : Goroutine.Step cfg s g x s' g' new) (hmain : s.main = .running)
    (hopen : s.jobChan.closed = false) (hg : g.Keeps) (hx : x.InLoop) :
    s'.world.db.monitors = s.world.db.monitors ∧
      ∀ m, s.world.db.Enabled m → ¬ x.Stops m →
        s.world.Scheduled m ∨ s.Holds m ∨ g.Holds m →
        s'.world.Scheduled m ∨ s'.Holds m ∨ g'.Holds m ∨ ∃ p ∈ new, p.Holds m := by
  have hkeep : ∀ {s : Shared} {g : Goroutine} {m : UUID},
      s.world.Scheduled m ∨ s.Holds m ∨ g.Holds m →
      s.world.Scheduled m ∨ s.Holds m ∨ g.Holds m ∨ ∃ p ∈ ([] : List Goroutine), p.Holds m :=
    fun hm => hm.imp_right (Or.imp_right Or.inl)
  cases h with
  | @call _ task c k r log h =>
    rw [task.canceled_of_running hmain] at h
    have hallows :
        (custodyProtocol task.given).allows ((custodyProtocol task.given).state log) c := by
      cases task with
      | request req => cases hg
      | doWork | startWork m | handle ok r' => exact hg.1
    obtain ⟨hrows, hcall⟩ := custody_call h hopen hallows (answers_of_serves h hx)
    refine ⟨hrows, fun m hen _ hm => hkeep ?_⟩
    show _ ∨ _ ∨ m ∈ (custodyProtocol task.given).state (log ++ [⟨c, r⟩])
    rw [Protocol.state_append]
    exact hcall m hen hm
  | @ret task p log =>
    have hworld : (task.finish s).world = s.world := by cases task <;> rfl
    have hholds : ∀ m, (task.finish s).Holds m ↔ s.Holds m := by
      cases task <;> exact fun _ => Iff.rfl
    refine ⟨congrArg (fun w => w.db.monitors) hworld, fun m _ hstop hm => hkeep ?_⟩
    rw [hholds, hworld]
    refine hm.imp_right (Or.imp_right fun hm => ?_)
    have hpassed : task.PassedOn p ((custodyProtocol task.given).state log) := by
      cases task with
      | request req => cases hg
      | doWork | startWork m | handle ok r' => exact hg
    exact (hpassed m hm).resolve_right hstop
  | tick => exact ⟨rfl, fun m _ _ hm => hkeep (hm.imp_right (Or.imp_right fun h => nomatch h))⟩
  | @take job ch h =>
    refine ⟨rfl, fun m _ _ hm => hkeep ?_⟩
    rcases hm with hm | (hm | hm) | hm
    · exact Or.inl hm
    · rw [(Channel.recv_some h).1] at hm
      rcases List.mem_cons.mp hm with rfl | hm
      · exact Or.inr (Or.inr (List.mem_singleton_self _))
      · exact Or.inr (Or.inl (Or.inl hm))
    · exact Or.inr (Or.inl (Or.inr hm))
    · cases hm
  | spawn =>
    refine ⟨rfl, fun m _ _ hm => hm.imp_right (Or.imp_right fun hm => Or.inr ?_)⟩
    exact ⟨_, List.mem_singleton_self _, hm⟩
  | @check x o =>
    refine ⟨rfl, fun m _ _ hm => hkeep (hm.imp_right (Or.imp_right fun hm => ?_))⟩
    exact (Executor.executeHTTPCheck_monitorID x o).trans hm
  | @push r ch h =>
    refine ⟨rfl, fun m _ _ hm => hkeep ?_⟩
    have hqueue := (Channel.send_ok h).2.2
    rcases hm with hm | (hm | ⟨r', hr', hm⟩ | hm) | hm
    · exact Or.inl hm
    · exact Or.inr (Or.inl (Or.inl hm))
    · refine Or.inr (Or.inl (Or.inr (Or.inl ⟨r', ?_, hm⟩)))
      rw [hqueue]
      exact List.mem_append_left _ hr'
    · exact Or.inr (Or.inl (Or.inr (Or.inr hm)))
    · refine Or.inr (Or.inl (Or.inr (Or.inl ⟨r, ?_, hm⟩)))
      rw [hqueue]
      exact List.mem_append_right _ (List.mem_singleton_self _)
  | @receive ok r ch h =>
    refine ⟨rfl, fun m _ _ hm => hkeep ?_⟩
    have hqueue := (Channel.recv_some h).1
    rcases hm with hm | (hm | hm | hm | ⟨ok', r', hr', hm⟩) | hm
    · exact Or.inl hm
    · exact Or.inr (Or.inl (Or.inl hm))
    · exact Or.inr (Or.inl (Or.inr (Or.inl hm)))
    · exact Or.inr (Or.inl (Or.inr (Or.inr (Or.inl hm))))
    · by_cases hok : ok' = ok
      · subst hok
        rw [hqueue] at hr'
        rcases List.mem_cons.mp hr' with rfl | hr'
        · exact Or.inr (Or.inr (hm ▸ List.mem_singleton_self _))
        · refine Or.inr (Or.inl (Or.inr (Or.inr (Or.inr ⟨ok', r', ?_, hm⟩))))
          rwa [Shared.setRouted_self]
      · refine Or.inr (Or.inl (Or.inr (Or.inr (Or.inr ⟨ok', r', ?_, hm⟩))))
        rwa [Shared.setRouted_of_ne hok]
    · cases hm
  | acquire h => exact ⟨rfl, fun m _ _ hm => hkeep hm⟩
  | pushPanics h => exact ⟨rfl, fun m _ _ hm => hkeep hm⟩
  | _ => exact ⟨rfl, fun m _ _ hm => hkeep (hm.imp_right (Or.imp_right fun h => nomatch h))⟩

/-- Nothing leaves `successChan` or `failureChan` when one of them only grows. -/
theorem mem_setRouted {ok ok' : Bool} {ch : Channel HTTPResult} {r : HTTPResult}
    (hgrow : ∀ r ∈ (s.routed ok).queue, r ∈ ch.queue) (hr : r ∈ (s.routed ok').queue) :
    r ∈ ((s.setRouted ok ch).routed ok').queue := by
  by_cases hok : ok' = ok
  · subst hok
    rw [Shared.setRouted_self]
    exact hgrow r hr
  · rwa [Shared.setRouted_of_ne hok]

/-- **So does the router.** -/
theorem custody_router (h : Router.Step s s') :
    s'.world = s.world ∧ s'.main = s.main ∧ s'.jobChan = s.jobChan ∧
      ∀ m, s.Holds m → s'.Holds m := by
  cases h with
  | @receive r ch hr h =>
    refine ⟨rfl, rfl, rfl, fun m hm => ?_⟩
    rcases hm with hm | ⟨r', hr', hm⟩ | ⟨r', hr', hm⟩ | hm
    · exact Or.inl hm
    · rw [(Channel.recv_some h).1] at hr'
      rcases List.mem_cons.mp hr' with rfl | hr'
      · exact Or.inr (Or.inr (Or.inl ⟨r', rfl, hm⟩))
      · exact Or.inr (Or.inl ⟨r', hr', hm⟩)
    · rw [hr] at hr'
      cases hr'
    · exact Or.inr (Or.inr (Or.inr hm))
  | @deliver r ch hr h =>
    have hqueue := (Channel.send_ok h).2.2
    have hgrow : ∀ r' ∈ (s.routed r.success).queue, r' ∈ ch.queue := by
      intro r' hr'
      rw [hqueue]
      exact List.mem_append_left _ hr'
    refine ⟨rfl, rfl, rfl, fun m hm => ?_⟩
    rcases hm with hm | hm | ⟨r', hr', hm⟩ | ⟨ok, r', hr', hm⟩
    · exact Or.inl hm
    · exact Or.inr (Or.inl hm)
    · rw [hr] at hr'
      cases hr'
      refine Or.inr (Or.inr (Or.inr ⟨r.success, r, ?_, hm⟩))
      show r ∈ ((s.setRouted r.success ch).routed r.success).queue
      rw [Shared.setRouted_self, hqueue]
      exact List.mem_append_right _ (List.mem_singleton_self _)
    · exact Or.inr (Or.inr (Or.inr ⟨ok, r', mem_setRouted hgrow hr', hm⟩))
  | deliverPanics => exact ⟨rfl, rfl, rfl, fun m hm => hm⟩
  | leave hr h | closeFailure hr | closeSuccess hr =>
    -- the router has no result here
    refine ⟨rfl, rfl, rfl, fun m hm => ?_⟩
    rcases hm with hm | hm | ⟨r', hr', -⟩ | ⟨ok, r', hr', hm⟩
    · exact Or.inl hm
    · exact Or.inr (Or.inl hm)
    · rw [hr] at hr'
      cases hr'
    · refine Or.inr (Or.inr (Or.inr ⟨ok, r', ?_, hm⟩))
      first
        | exact hr'
        | exact mem_setRouted (fun _ hr => hr) hr'

end Step

end Sofon
