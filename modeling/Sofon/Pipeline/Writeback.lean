import Sofon.Pipeline.Custody
import Sofon.Result.History

/-!
# A schedule write that fails

`ScheduleMonitor` tries three times, logs that it failed and returns nothing; so does
the scheduler when it puts back what it popped.  A comment promises that a write that
failed is made up for later, but nothing holds on to the monitor.

Of the trace of a call, four things are noted for each monitor (`Ledger`): that a write
of it was tried, that one got through, that it was taken out of the schedule, and that
it was handed to `jobChan`.  Two facts about the ledger carry the result.

The first is about the code.  The functions take out before they write, and write nothing
they have handed over (`writebackProtocol`), and they go on with no monitor whose write they have
tried (`follows_writeback`).  The scheduler is the one with both, and there it is an induction
over the batch whose entries are distinct (`follows_writeback_doWorkLoop`).

The second is about the schedule.  Under the protocol a monitor is in the schedule after the
call exactly when a write of it got through, or it was there before and was not taken out
(`Ledger.Fits`).  `Ledger.Fits.step` says of each call that what is noted of it is what it does
to the schedule; that nothing is taken out after it was written is what makes the order of the
notes not matter.

`located_of_exec` has both, for every function, every answer and every state, and
`kept_iff_written` reads off when a monitor whose write was tried is still somewhere.
-/

namespace Sofon

open Interleaving Program

/-! ## What the trace says -/

namespace Call

/-- The monitors the call tries to write into the schedule. -/
def tried (e : Call) : List UUID :=
  match e.cmd with
  | .redis (.zAdd items) => ids items
  | _ => []

/-- The monitors the call has written into the schedule. -/
def written : Call → List UUID
  | ⟨.redis (.zAdd items), .ok _⟩ => ids items
  | _ => []

/-- The monitors the call has taken out of the schedule. -/
def taken : Call → List UUID
  | ⟨.redis (.zPopMin _), .ok items⟩ => ids items
  | ⟨.redis (.zRem (.id m)), .ok _⟩ => [m]
  | _ => []

/-- The monitors the call has handed to `jobChan`. -/
def handed : Call → List UUID
  | ⟨.offer job, .sent⟩ => [job.monitorID]
  | _ => []

end Call

/-- What has been noted of the monitors. -/
structure Ledger where
  tried : List UUID
  written : List UUID
  taken : List UUID
  handed : List UUID

namespace Ledger

/-- Nothing has been noted. -/
def blank : Ledger := ⟨[], [], [], []⟩

/-- Note one call. -/
def note (q : Ledger) (e : Call) : Ledger :=
  ⟨q.tried ++ e.tried, q.written ++ e.written, q.taken ++ e.taken, q.handed ++ e.handed⟩

/-- What is noted of a trace. -/
def ofTrace (tr : List Call) : Ledger :=
  ⟨tr.flatMap Call.tried, tr.flatMap Call.written, tr.flatMap Call.taken, tr.flatMap Call.handed⟩

/-- Noting the calls one after another. -/
theorem foldl_note (q : Ledger) (tr : List Call) :
    tr.foldl note q = ⟨q.tried ++ (ofTrace tr).tried, q.written ++ (ofTrace tr).written,
      q.taken ++ (ofTrace tr).taken, q.handed ++ (ofTrace tr).handed⟩ := by
  induction tr generalizing q with
  | nil => simp [ofTrace]
  | cons e tr ih =>
    rw [List.foldl_cons, ih]
    simp [ofTrace, note]

end Ledger

/-- Nothing is taken out after a write was tried, and what is handed over is not
written, before or after. -/
def writebackProtocol : Protocol Cmd Cmd.Resp Ledger where
  start := .blank
  next := Ledger.note
  allows q c := match c with
    | .redis (.zPopMin _) => q.tried = []
    | .redis (.zRem _) => q.tried = []
    | .redis (.zAdd items) => ∀ m ∈ ids items, m ∉ q.handed
    | .offer job => job.monitorID ∉ q.tried
    | _ => True
  -- a sorted set holds a member once
  answers e := match e with
    | ⟨.redis (.zPopMin _), .ok items⟩ => (ids items).Nodup
    | _ => True

variable {m : UUID} {q : Ledger} {w w₀ w' : World} {tr : List Call}

/-! ## The functions of the pipeline -/

/-- The calls that nothing is noted of. -/
def Cmd.unnoted : Cmd → Bool
  | redis (.zAdd _) => false
  | redis (.zPopMin _) => false
  | redis (.zRem _) => false
  | offer _ => false
  | _ => true

theorem Cmd.allowed_of_unnoted {c : Cmd} (h : c.unnoted) : writebackProtocol.allows q c := by
  cases c with
  | redis c =>
    cases c with
    | zAdd items | zPopMin n | zRem member => cases h
    | _ => trivial
  | offer job => cases h
  | _ => trivial

theorem Ledger.note_of_unnoted {c : Cmd} (h : c.unnoted) (r : c.Resp) : q.note ⟨c, r⟩ = q := by
  have hnil : Call.tried ⟨c, r⟩ = [] ∧ Call.written ⟨c, r⟩ = [] ∧ Call.taken ⟨c, r⟩ = [] ∧
      Call.handed ⟨c, r⟩ = [] := by
    cases c with
    | redis c =>
      cases c with
      | zAdd items | zPopMin n | zRem member => cases h
      | _ => exact ⟨rfl, rfl, rfl, rfl⟩
    | offer job => cases h
    | _ => exact ⟨rfl, rfl, rfl, rfl⟩
  obtain ⟨h₁, h₂, h₃, h₄⟩ := hnil
  rw [note, h₁, h₂, h₃, h₄, List.append_nil, List.append_nil, List.append_nil, List.append_nil]

theorem follows_of_unnoted {α : Type} {p : Prog α} (hp : p.Only (Cmd.unnoted ·)) (q : Ledger) :
    p.Follows writebackProtocol (fun _ q' => q' = q) q :=
  hp.follows (fun _ hc => Cmd.allowed_of_unnoted hc) fun _ r hc => Ledger.note_of_unnoted hc r

/-- A repeated program: it is run again from wherever a failure left it. -/
theorem follows_writeback_retry {α : Type} {fn : Prog (Except RedisError α)} {J : Ledger → Prop}
    {fin : Except RedisError α → Ledger → Prop}
    (hfn : ∀ q, J q → fn.Follows writebackProtocol
      (fun x q' => (∀ err, x = .error err → J q') ∧ ∀ a, x = .ok a → fin x q') q)
    (hfin : ∀ err q, J q → fin (.error err) q) (n : ℕ) (hq : J q) :
    (RedisClient.retry n fn).Follows writebackProtocol fin q := by
  have hloop : ∀ err q, J q →
      (RedisClient.retryLoop fn n (.error err)).Follows writebackProtocol fin q := by
    induction n with
    | zero => exact fun err q hq => hfin err q hq
    | succ n ih =>
      intro err q hq
      refine (hfn q hq).bind fun x q' hx => ?_
      rcases x with err | a
      · have hJ := hx.1 err rfl
        refine ⟨trivial, fun b _ => ?_⟩
        have hnote : writebackProtocol.next q' ⟨.ctxDone, b⟩ = q' :=
          Ledger.note_of_unnoted (c := .ctxDone) rfl b
        rw [hnote]
        cases b with
        | true => exact hfin _ q' hJ
        | false => exact ih err q' hJ
      · exact hx.2 a rfl
  exact hloop _ q hq

/-- A write tries what it is given and hands nothing over. -/
theorem follows_writeback_zAdd {items : List Z} (hq : ∀ m ∈ ids items, m ∉ q.handed) (n : ℕ) :
    (RedisClient.retry n (call (.redis (.zAdd items)))).Follows writebackProtocol
      (fun _ q' => q'.handed = q.handed ∧ ∀ m ∈ q'.tried, m ∈ q.tried ∨ m ∈ ids items) q := by
  have hkeep : ∀ q' : Ledger, ∀ r : Except RedisError Unit,
      (q'.handed = q.handed ∧ ∀ m ∈ q'.tried, m ∈ q.tried ∨ m ∈ ids items) →
      (q'.note ⟨.redis (.zAdd items), r⟩).handed = q.handed ∧
        ∀ m ∈ (q'.note ⟨.redis (.zAdd items), r⟩).tried, m ∈ q.tried ∨ m ∈ ids items := by
    rintro q' r ⟨hhanded, htried⟩
    refine ⟨?_, fun m hm => ?_⟩
    · rw [← hhanded]
      exact List.append_nil _
    · exact (List.mem_append.mp hm).elim (htried m) Or.inr
  refine follows_writeback_retry
    (J := fun q' => q'.handed = q.handed ∧ ∀ m ∈ q'.tried, m ∈ q.tried ∨ m ∈ ids items)
    (fun q' hq' => ?_) (fun _ _ h => h) n ⟨rfl, fun m hm => Or.inl hm⟩
  refine ⟨fun m hm => hq'.1 ▸ hq m hm, fun r _ => ?_⟩
  exact ⟨fun _ _ => hkeep q' r hq', fun _ _ => hkeep q' r hq'⟩

/-- The calls that take nothing out and hand nothing over. -/
def Cmd.putsBack : Cmd → Bool
  | redis (.zPopMin _) => false
  | redis (.zRem _) => false
  | offer _ => false
  | _ => true

/-- The calls that write nothing into the schedule. -/
def Cmd.takesOut : Cmd → Bool
  | redis (.zAdd _) => false
  | _ => true

theorem follows_of_putsBack {α : Type} {p : Prog α} (hp : p.Only (Cmd.putsBack ·))
    (hq : q.handed = []) :
    p.Follows writebackProtocol (fun _ q' => q'.handed = []) q := by
  refine hp.follows_of_keeps (J := fun q : Ledger => q.handed = []) (fun c q hc hq => ?_) hq
  have hnote : ∀ r, (q.note ⟨c, r⟩).handed = q.handed := by
    intro r
    have hnil : Call.handed ⟨c, r⟩ = [] := by
      cases c with
      | offer job => cases hc
      | _ => rfl
    rw [Ledger.note, hnil, List.append_nil]
  refine ⟨?_, fun r _ => (hnote r).trans hq⟩
  cases c with
  | redis c =>
    cases c with
    | zAdd items =>
      intro m _
      rw [hq]
      exact List.not_mem_nil
    | zPopMin n | zRem member => cases hc
    | _ => trivial
  | offer job => cases hc
  | _ => trivial

theorem follows_of_takesOut {α : Type} {p : Prog α} (hp : p.Only (Cmd.takesOut ·))
    (hq : q.tried = []) :
    p.Follows writebackProtocol (fun _ q' => q'.tried = []) q := by
  refine hp.follows_of_keeps (J := fun q : Ledger => q.tried = []) (fun c q hc hq => ?_) hq
  have hnote : ∀ r, (q.note ⟨c, r⟩).tried = q.tried := by
    intro r
    have hnil : Call.tried ⟨c, r⟩ = [] := by
      cases c with
      | redis c =>
        cases c with
        | zAdd items => cases hc
        | _ => rfl
      | _ => rfl
    rw [Ledger.note, hnil, List.append_nil]
  refine ⟨?_, fun r _ => (hnote r).trans hq⟩
  cases c with
  | redis c =>
    cases c with
    | zAdd items => cases hc
    | zPopMin n | zRem member => exact hq
    | _ => trivial
  | offer job =>
    show job.monitorID ∉ q.tried
    rw [hq]
    exact List.not_mem_nil
  | _ => trivial

/-- The scheduler writes back what it did not hand over, each entry once. -/
theorem follows_writeback_doWorkLoop (now : ℤ) (items : List Z) (hnodup : (ids items).Nodup)
    (hq : ∀ m ∈ ids items, m ∉ q.handed ∧ m ∉ q.tried) :
    (Scheduler.doWorkLoop Member.printedOnly now items).Follows writebackProtocol
      (fun _ _ => True) q := by
  induction items generalizing q with
  | nil => trivial
  | cons item rest ih =>
    rw [Scheduler.doWorkLoop]
    split
    · exact (follows_writeback_zAdd (fun m hm => (hq m hm).1) 3).bind fun _ _ _ => trivial
    · split
      · rename_i hnone
        obtain ⟨s, hs⟩ := Member.uuid?_printedOnly_eq_none.mp hnone
        rw [ids_cons_text hs] at hnodup hq
        exact ih hnodup hq
      · rename_i id hsome
        have hid := Member.uuid?_printedOnly_eq_some.mp hsome
        rw [hid]
        rw [ids_cons_id hid] at hnodup hq
        obtain ⟨hnot, hrest⟩ := List.nodup_cons.mp hnodup
        obtain ⟨hhanded, htried⟩ := hq id List.mem_cons_self
        have hothers : ∀ m ∈ ids rest, m ≠ id ∧ m ∉ q.handed ∧ m ∉ q.tried := by
          intro m hm
          refine ⟨?_, hq m (List.mem_cons_of_mem _ hm)⟩
          rintro rfl
          exact hnot hm
        refine ⟨htried, fun o _ => ?_⟩
        cases o with
        | sent =>
          refine ih hrest fun m hm => ?_
          obtain ⟨hne, hnothanded, hnottried⟩ := hothers m hm
          refine ⟨fun hmem => ?_, fun hmem => ?_⟩
          · exact (List.mem_append.mp hmem).elim hnothanded fun h => hne (List.mem_singleton.mp h)
          · exact (List.mem_append.mp hmem).elim hnottried fun h => absurd h List.not_mem_nil
        | done => trivial
        | full =>
          have hsame : writebackProtocol.next q ⟨.offer ⟨id⟩, .full⟩ = q := by
            show q.note _ = q
            simp [Ledger.note, Call.tried, Call.written, Call.taken, Call.handed]
          rw [hsame]
          have hback : ∀ m ∈ ids [⟨(Time.addSeconds (Time.ofUnix item.score) 2).unix,
              Member.id id⟩], m ∉ q.handed := by
            intro m hm
            rw [mem_ids] at hm
            obtain rfl := Member.id.inj (List.mem_singleton.mp hm)
            exact hhanded
          refine (follows_writeback_zAdd hback 3).bind fun _ q' hq' => ih hrest fun m hm => ?_
          obtain ⟨hne, hnothanded, hnottried⟩ := hothers m hm
          refine ⟨hq'.1 ▸ hnothanded, fun hmem => ?_⟩
          rcases hq'.2 m hmem with hmem | hmem
          · exact hnottried hmem
          · rw [mem_ids] at hmem
            exact hne (Member.id.inj (List.mem_singleton.mp hmem))

theorem follows_writeback_doWork (n : ℕ) :
    (Scheduler.doWork Member.printedOnly n).Follows writebackProtocol (fun _ _ => True) .blank := by
  refine ⟨trivial, fun now _ => ?_⟩
  have hpop : (RedisClient.popDue n).Follows writebackProtocol
      (fun x q' => ∀ items, x = .ok items →
        (ids items).Nodup ∧ q'.tried = [] ∧ q'.handed = []) .blank := by
    refine follows_writeback_retry (J := fun q => q.tried = [] ∧ q.handed = []) (fun q hq => ?_)
      (fun _ _ _ _ h => nomatch h) 3 ⟨rfl, rfl⟩
    refine ⟨hq.1, fun r hr => ?_⟩
    have hnote : (q.note ⟨.redis (.zPopMin n), r⟩).tried = [] ∧
        (q.note ⟨.redis (.zPopMin n), r⟩).handed = [] := by
      refine ⟨?_, ?_⟩
      · exact (List.append_nil _).trans hq.1
      · exact (List.append_nil _).trans hq.2
    refine ⟨fun _ _ => hnote, fun a _ items hitems => ?_⟩
    obtain rfl : r = .ok items := hitems
    exact ⟨hr, hnote⟩
  have hblank : writebackProtocol.next .blank ⟨.timeNow, now⟩ = .blank :=
    Ledger.note_of_unnoted (c := .timeNow) rfl now
  rw [hblank]
  refine hpop.bind fun x q' hx => ?_
  rcases x with err | items
  · trivial
  · obtain ⟨hnodup, htried, hhanded⟩ := hx items rfl
    refine follows_writeback_doWorkLoop _ items hnodup fun m _ => ?_
    rw [htried, hhanded]
    exact ⟨List.not_mem_nil, List.not_mem_nil⟩

/-- A worker that goes on with its monitor has written nothing. -/
theorem follows_writeback_startWork (m : UUID) :
    (Executor.startWork m).Follows writebackProtocol
      (fun x q' => x ≠ none → q'.tried = []) .blank := by
  have hload : (MonitorService.loadMonitor m).Only (Cmd.unnoted ·) := by
    refine Program.Only.bind ⟨rfl, fun x => ?_⟩ fun y => ?_
    · rcases x with err | row <;> trivial
    · rcases y with err | x
      · trivial
      · exact ⟨rfl, fun _ => trivial⟩
  refine (follows_of_unnoted hload _).bind fun x q' hq' => ?_
  obtain rfl := hq'
  rcases x with err | x
  · show Follows _ _ (if err.kind = .notFound then _ else _) _
    split
    · exact fun h => absurd rfl h
    · have hsched : (MonitorService.scheduleMonitor m 5).Only (Cmd.putsBack ·) :=
        MonitorService.only_scheduleMonitor (Cmd.putsBack ·) rfl rfl (fun _ => rfl) 5
      exact (follows_of_putsBack hsched rfl).bind fun _ _ _ h => absurd rfl h
  · show Follows _ _ (if x.enabled then _ else _) _
    split
    · exact fun _ => rfl
    · exact fun h => absurd rfl h

theorem putsBack_handle (cfg : ResultProcessorConfig) (r : HTTPResult) :
    (ResultProcessor.handleSuccess r).Only (Cmd.putsBack ·) ∧
      (ResultProcessor.handleFailure cfg r).Only (Cmd.putsBack ·) := by
  have hsched : (MonitorService.scheduleMonitor r.monitorID r.intervalSec).Only
      (Cmd.putsBack ·) :=
    MonitorService.only_scheduleMonitor (Cmd.putsBack ·) rfl rfl (fun _ => rfl) _
  constructor
  · have hbody : (ResultProcessor.handleSuccessBody r).Only (Cmd.putsBack ·) :=
      ResultProcessor.only_handleSuccessBody (Cmd.putsBack ·) rfl rfl (fun _ => rfl) rfl
        (fun _ => rfl) rfl (fun _ => rfl) rfl rfl
    exact hbody.bind fun _ => hsched
  · refine ResultProcessor.only_handleFailure (Cmd.putsBack ·) ?_ ?_ ?_ hsched
    · exact RedisClient.only_retry_call (Cmd.putsBack ·) rfl rfl 2
    · exact ResultProcessor.only_retryPath (Cmd.putsBack ·) rfl rfl rfl rfl rfl fun _ => rfl
    · exact ResultProcessor.only_failurePath (Cmd.putsBack ·)
        (RedisClient.only_incrementIncident (Cmd.putsBack ·) rfl rfl rfl fun _ _ => rfl) rfl
        (ResultProcessor.only_alertDown (Cmd.putsBack ·) rfl (fun _ _ _ _ => rfl) rfl fun _ => rfl)

/-- A request that enables writes, and one that disables takes out. -/
theorem follows_writeback_updateMonitorStatus (team m : UUID) (enable : Bool) :
    (MonitorService.updateMonitorStatus team m enable).Follows writebackProtocol
      (fun _ _ => True) .blank := by
  have hget : (MonitorRepository.get team m).Only (Cmd.unnoted ·) := by
    refine ⟨rfl, fun x => ?_⟩
    rcases x with err | row <;> trivial
  refine (follows_of_unnoted hget _).bind fun x q hq => ?_
  obtain rfl := hq
  rcases x with err | x
  · trivial
  · show Follows _ _ (if x.enabled = enable then _ else _) _
    split
    · trivial
    · have hset : (MonitorRepository.setEnabled team m enable).Only (Cmd.unnoted ·) := by
        refine ⟨rfl, fun y => ?_⟩
        rcases y with err | rows
        · trivial
        · show Program.Only _ (if rows = 0 then _ else _)
          split <;> trivial
      refine (follows_of_unnoted hset _).bind fun y q hq => ?_
      obtain rfl := hq
      rcases y with err | u
      · trivial
      · show Follows _ _ (if enable then _ else _) _
        split
        · have hsched : (MonitorService.scheduleMonitor x.id x.intervalSec).Only (Cmd.putsBack ·) :=
            MonitorService.only_scheduleMonitor (Cmd.putsBack ·) rfl rfl (fun _ => rfl) _
          exact (follows_of_putsBack hsched rfl).bind fun _ _ _ => trivial
        · have hclose : (MonitorRepository.closeOpenIncident m).Only (Cmd.takesOut ·) :=
            MonitorService.only_closeOpenIncident (Cmd.takesOut ·) rfl fun _ => rfl
          have hdis : (MonitorService.disableMonitor m).Only (Cmd.takesOut ·) :=
            MonitorService.only_disableMonitor (Cmd.takesOut ·) rfl rfl rfl rfl rfl
          refine (follows_of_takesOut hclose rfl).bind fun _ q hq => ?_
          exact (follows_of_takesOut hdis hq).bind fun _ _ _ => trivial

/-- **Every function of the server obeys the protocol**, and goes on with no monitor whose
write it has tried. -/
theorem follows_writeback (cfg : Config) (task : Task) :
    (task.prog cfg).Follows writebackProtocol (fun p q => ∀ m ∈ q.tried, ¬ p.Holds m) .blank := by
  cases task with
  | doWork => exact (follows_writeback_doWork cfg.batchSize).bind fun _ _ _ _ _ => id
  | startWork m =>
    refine (follows_writeback_startWork m).bind fun x q hq => ?_
    rcases x with _ | x
    · exact fun _ _ => id
    · show ∀ m ∈ q.tried, ¬ (Point.loaded x).Holds m
      rw [hq (Option.some_ne_none x)]
      exact fun m hm => nomatch hm
  | handle ok r =>
    obtain ⟨hsuccess, hfailure⟩ := putsBack_handle cfg.resultProcessor r
    cases ok with
    | true => exact (follows_of_putsBack hsuccess rfl).bind fun _ _ _ _ _ => id
    | false => exact (follows_of_putsBack hfailure rfl).bind fun _ _ _ _ _ => id
  | request req =>
    have hprog : req.prog.Follows writebackProtocol (fun _ _ => True) .blank := by
      cases req with
      | create data =>
        have hcreate : (MonitorService.createMonitor data).Only (Cmd.putsBack ·) :=
          MonitorService.only_createMonitor (Cmd.putsBack ·) rfl rfl rfl (fun _ => rfl)
            fun _ _ => rfl
        exact (follows_of_putsBack hcreate rfl).bind fun _ _ _ => trivial
      | updateStatus team m enable =>
        exact (follows_writeback_updateMonitorStatus team m enable).bind fun _ _ _ => trivial
      | delete team m =>
        have hdelete : (MonitorService.deleteMonitor team m).Only (Cmd.takesOut ·) :=
          MonitorService.only_deleteMonitor (Cmd.takesOut ·) rfl rfl rfl (fun _ => rfl) rfl rfl
            rfl rfl
        exact (follows_of_takesOut hdelete rfl).bind fun _ _ _ => trivial
      | get team m =>
        have hget : (MonitorService.getMonitor team m).Only (Cmd.takesOut ·) :=
          MonitorService.only_getMonitor (Cmd.takesOut ·) rfl rfl fun _ => rfl
        exact (follows_of_takesOut hget rfl).bind fun _ _ _ => trivial
    exact hprog.bind fun _ _ _ _ _ => id

/-! ## Where a monitor is afterwards -/

/-- What the four lists say of the schedule, which was that of `w₀`. -/
structure Ledger.Fits (w₀ : World) (w : World) (q : Ledger) : Prop where
  scheduled : ∀ m, w.Scheduled m ↔ m ∈ q.written ∨ w₀.Scheduled m ∧ m ∉ q.taken
  tried : ∀ m ∈ q.written, m ∈ q.tried
  handed : ∀ m ∈ q.tried, m ∉ q.handed

/-- The calls that nothing is noted of leave the schedule alone. -/
theorem schedule_of_unnoted {c : Cmd} {r : c.Resp} (hc : c.unnoted) (h : World.Live w c r w') :
    w'.redis.schedule = w.redis.schedule := by
  obtain ⟨ks, rfl | ⟨c, rfl, rfl⟩ | ⟨q, now, rfl, rfl⟩ | ⟨ev, rfl, rfl⟩⟩ := World.live_cases h
  · rfl
  · have hneutral : (Cmd.redis c).neutral := by
      cases c with
      | zAdd items | zPopMin n | zRem member => cases hc
      | _ => rfl
    exact Redis.exec_schedule hneutral _
  · rfl
  · rfl

theorem Ledger.Fits.zAdd {items : List Z} {r : Except RedisError Unit} (h : q.Fits w₀ w)
    (hallows : ∀ m ∈ ids items, m ∉ q.handed) (hlive : World.Live w (.redis (.zAdd items)) r w') :
    (q.note ⟨.redis (.zAdd items), r⟩).Fits w₀ w' := by
  have hhanded : ∀ m ∈ q.tried ++ ids items, m ∉ q.handed ++ [] := by
    intro m hm
    rw [List.append_nil]
    exact (List.mem_append.mp hm).elim (h.handed m) (hallows m)
  obtain ⟨ks, ⟨rfl, rfl⟩ | ⟨rfl, rfl⟩⟩ := World.live_redis hlive
  · refine ⟨fun m => ?_, fun m hm => ?_, hhanded⟩
    · show w.Scheduled m ↔ m ∈ q.written ++ [] ∨ w₀.Scheduled m ∧ m ∉ q.taken ++ []
      rw [List.append_nil, List.append_nil]
      exact h.scheduled m
    · exact List.mem_append_left _ (h.tried m (by simpa [note, Call.written] using hm))
  · refine ⟨fun m => ?_, fun m hm => ?_, hhanded⟩
    · show Member.id m ∈ (w.redis.schedule.add items).members ↔
        m ∈ q.written ++ ids items ∨ w₀.Scheduled m ∧ m ∉ q.taken ++ []
      rw [KeyValue.SortedSet.mem_members_add, List.append_nil, List.mem_append, mem_ids]
      have hold := h.scheduled m
      rw [World.Scheduled] at hold
      tauto
    · exact List.mem_append.mpr ((List.mem_append.mp hm).imp_left (h.tried m))

theorem Ledger.Fits.zPopMin {n : ℕ} {r : Except RedisError (List Z)} (h : q.Fits w₀ w)
    (hallows : q.tried = []) (hlive : World.Live w (.redis (.zPopMin n)) r w') :
    (q.note ⟨.redis (.zPopMin n), r⟩).Fits w₀ w' := by
  have htried : ∀ r, (q.note ⟨.redis (.zPopMin n), r⟩).tried = [] :=
    fun r => (List.append_nil _).trans hallows
  have hwritten : ∀ r m, m ∉ (q.note ⟨.redis (.zPopMin n), r⟩).written := by
    intro r m hm
    have hmem := h.tried m ((List.append_nil q.written) ▸ hm)
    rw [hallows] at hmem
    cases hmem
  obtain ⟨ks, ⟨rfl, rfl⟩ | ⟨rfl, rfl⟩⟩ := World.live_redis hlive
  · refine ⟨fun m => ?_, fun m hm => absurd hm (hwritten _ m), fun m hm => ?_⟩
    · show w.Scheduled m ↔ m ∈ q.written ++ [] ∨ w₀.Scheduled m ∧ m ∉ q.taken ++ []
      rw [List.append_nil, List.append_nil]
      exact h.scheduled m
    · rw [htried] at hm
      cases hm
  · refine ⟨fun m => ?_, fun m hm => absurd hm (hwritten _ m), fun m hm => ?_⟩
    · show Member.id m ∈ (w.redis.schedule.popMin n).2.members ↔ m ∈ q.written ++ [] ∨
        w₀.Scheduled m ∧ m ∉ q.taken ++ ids (w.redis.schedule.popMin n).1
      have hold := h.scheduled m
      have hnot := hwritten (.ok []) m
      rw [World.Scheduled] at hold
      change m ∉ q.written ++ [] at hnot
      rw [List.append_nil] at hnot
      rw [mem_popMin_iff, hold, List.append_nil, List.mem_append]
      tauto
    · rw [htried] at hm
      cases hm

theorem Ledger.Fits.zRem {member : Member} {r : Except RedisError Unit} (h : q.Fits w₀ w)
    (hallows : q.tried = []) (hlive : World.Live w (.redis (.zRem member)) r w') :
    (q.note ⟨.redis (.zRem member), r⟩).Fits w₀ w' := by
  have hwritten : ∀ m, m ∉ q.written := by
    intro m hm
    have hmem := h.tried m hm
    rw [hallows] at hmem
    cases hmem
  have htried : ∀ m, m ∉ (q.note ⟨.redis (.zRem member), r⟩).tried := by
    intro m hm
    rw [show (q.note ⟨.redis (.zRem member), r⟩).tried = [] from
      (List.append_nil _).trans hallows] at hm
    cases hm
  have hnone : (q.note ⟨.redis (.zRem member), r⟩).written = q.written := List.append_nil _
  refine ⟨fun m => ?_, fun m hm => ?_, fun m hm => absurd hm (htried m)⟩
  · have hold := h.scheduled m
    rw [hnone]
    obtain ⟨ks, ⟨rfl, rfl⟩ | ⟨rfl, rfl⟩⟩ := World.live_redis hlive
    · have hsame : (q.note ⟨.redis (.zRem member), .error .unavailable⟩).taken = q.taken := by
        cases member <;> exact List.append_nil _
      rw [hsame]
      exact hold
    · rw [World.Scheduled] at hold
      show Member.id m ∈ (w.redis.schedule.remove member).members ↔ _
      rw [KeyValue.SortedSet.mem_members_remove, hold]
      have hnot := hwritten m
      cases member with
      | id m' =>
        show _ ↔ m ∈ q.written ∨ w₀.Scheduled m ∧ m ∉ q.taken ++ [m']
        rw [List.mem_append, List.mem_singleton, Ne, Member.id.injEq]
        tauto
      | text s =>
        show _ ↔ m ∈ q.written ∨ w₀.Scheduled m ∧ m ∉ q.taken ++ []
        rw [List.append_nil]
        exact and_iff_left fun h => by cases h
  · rw [hnone] at hm
    exact absurd hm (hwritten m)

theorem Ledger.Fits.offer {job : JobPayload} {o : Offer} (h : q.Fits w₀ w)
    (hallows : job.monitorID ∉ q.tried) (hlive : World.Live w (.offer job) o w') :
    (q.note ⟨.offer job, o⟩).Fits w₀ w' := by
  obtain ⟨ks, rfl⟩ := World.live_offer hlive
  have htried : (q.note ⟨.offer job, o⟩).tried = q.tried := List.append_nil _
  have hwritten : (q.note ⟨.offer job, o⟩).written = q.written := List.append_nil _
  have htaken : (q.note ⟨.offer job, o⟩).taken = q.taken := List.append_nil _
  refine ⟨fun m => ?_, fun m hm => ?_, fun m hm hmem => ?_⟩
  · rw [hwritten, htaken]
    exact h.scheduled m
  · rw [hwritten] at hm
    rw [htried]
    exact h.tried m hm
  · rw [htried] at hm
    rcases List.mem_append.mp hmem with hmem | hmem
    · exact h.handed m hm hmem
    · cases o with
      | sent =>
        rw [List.mem_singleton.mp hmem] at hm
        exact hallows hm
      | done | full => cases hmem

/-- **One call.**  What is noted of it is what it does to the schedule. -/
theorem Ledger.Fits.step {c : Cmd} {r : c.Resp} (h : q.Fits w₀ w)
    (hallows : writebackProtocol.allows q c) (hlive : World.Live w c r w') :
    writebackProtocol.answers ⟨c, r⟩ ∧ (q.note ⟨c, r⟩).Fits w₀ w' := by
  by_cases hc : c.unnoted
  · refine ⟨?_, ?_⟩
    · cases c with
      | redis c =>
        cases c with
        | zAdd items | zPopMin n | zRem member => cases hc
        | _ => trivial
      | _ => trivial
    · rw [Ledger.note_of_unnoted hc]
      refine ⟨fun m => ?_, h.tried, h.handed⟩
      rw [← h.scheduled m, World.Scheduled, World.Scheduled, schedule_of_unnoted hc hlive]
  cases c with
  | redis c =>
    cases c with
    | zAdd items => exact ⟨trivial, h.zAdd hallows hlive⟩
    | zPopMin n =>
      refine ⟨?_, h.zPopMin hallows hlive⟩
      obtain ⟨ks, ⟨rfl, -⟩ | ⟨rfl, -⟩⟩ := World.live_redis hlive
      · trivial
      · exact nodup_ids_popMin n _
    | zRem member => exact ⟨trivial, h.zRem hallows hlive⟩
    | _ => exact absurd rfl hc
  | offer job => exact ⟨trivial, h.offer hallows hlive⟩
  | _ => exact absurd rfl hc

/-- **The lists say where a monitor is when a call is over.** -/
theorem located_of_exec {cfg : Config} {task : Task} {p : Point}
    (h : Exec World.Live (task.prog cfg) w tr p w') :
    (∀ m ∈ (Ledger.ofTrace tr).tried, ¬ p.Holds m) ∧ (Ledger.ofTrace tr).Fits w w' := by
  have hblank : Ledger.blank.Fits w w := by
    refine ⟨fun m => ?_, fun m hm => (nomatch hm), fun m hm => (nomatch hm)⟩
    show w.Scheduled m ↔ m ∈ [] ∨ w.Scheduled m ∧ m ∉ []
    simp
  have hfold : tr.foldl Ledger.note .blank = Ledger.ofTrace tr := Ledger.foldl_note .blank tr
  rw [← hfold]
  exact h.follows (follows_writeback cfg task)
    (fun _ _ _ _ _ hfits hallows hlive => hfits.step hallows hlive) hblank

/-- **A monitor that a call tried to write into the schedule is somewhere afterwards
exactly when a write of it got through**, or it was in the schedule all along. -/
theorem kept_iff_written {cfg : Config} {task : Task} {p : Point}
    (h : Exec World.Live (task.prog cfg) w tr p w') (hm : m ∈ (Ledger.ofTrace tr).tried) :
    w'.Scheduled m ∨ p.Holds m ∨ m ∈ (Ledger.ofTrace tr).handed ↔
      m ∈ (Ledger.ofTrace tr).written ∨ w.Scheduled m ∧ m ∉ (Ledger.ofTrace tr).taken := by
  obtain ⟨hpoint, hfits⟩ := located_of_exec h
  have hnot : ¬ (p.Holds m ∨ m ∈ (Ledger.ofTrace tr).handed) :=
    not_or.mpr ⟨hpoint m hm, hfits.handed m hm⟩
  rw [or_iff_left hnot, hfits.scheduled m]

namespace Sample

/-- A success whose schedule write fails three times. -/
def unwritten : List Call × Point × World :=
  run (World.exec false)
    (List.replicate 3 default ++ List.replicate 6 { (default : Env) with fails := true })
    ((Task.handle true passing).prog Config.default) world

/-- A success whose schedule write fails once. -/
def rewritten : List Call × Point × World :=
  run (World.exec false)
    (List.replicate 3 default ++ [{ (default : Env) with fails := true }])
    ((Task.handle true passing).prog Config.default) world

theorem exec_rewritten : Exec World.Live ((Task.handle true passing).prog Config.default) world
    rewritten.1 rewritten.2.1 rewritten.2.2 := exec_run _ _ _ _

theorem exec_unwritten : Exec World.Live ((Task.handle true passing).prog Config.default) world
    unwritten.1 unwritten.2.1 unwritten.2.2 := exec_run _ _ _ _

end Sample

/-- After that the sample monitor is nowhere. -/
theorem unwritten_monitor_lost :
    ¬ ∀ (cfg : Config) (task : Task) (w w' : World) (tr : List Call) (p : Point) (m : UUID),
      Exec World.Live (task.prog cfg) w tr p w' → m ∈ (Ledger.ofTrace tr).tried →
      w'.Scheduled m ∨ p.Holds m ∨ m ∈ (Ledger.ofTrace tr).handed := by
  intro hclaim
  have hkept := hclaim _ _ _ _ _ _ 1 Sample.exec_unwritten (by decide)
  exact absurd hkept (by decide)

/-- The write that gets through at the second attempt keeps the sample monitor in the
schedule; the one that fails three times does not. -/
theorem kept_iff_written_sample :
    (Sample.rewritten.2.2.Scheduled 1 ∨ Sample.rewritten.2.1.Holds 1 ∨
        1 ∈ (Ledger.ofTrace Sample.rewritten.1).handed) ∧
    (Sample.unwritten.2.2.Scheduled 1 ∨ Sample.unwritten.2.1.Holds 1 ∨
        1 ∈ (Ledger.ofTrace Sample.unwritten.1).handed ↔
      1 ∈ (Ledger.ofTrace Sample.unwritten.1).written ∨
        Sample.world.Scheduled 1 ∧ 1 ∉ (Ledger.ofTrace Sample.unwritten.1).taken) := by
  have hwritten : 1 ∈ (Ledger.ofTrace Sample.rewritten.1).written := by decide
  exact ⟨(kept_iff_written Sample.exec_rewritten (by decide)).mpr (Or.inl hwritten),
    kept_iff_written Sample.exec_unwritten (by decide)⟩

end Sofon
