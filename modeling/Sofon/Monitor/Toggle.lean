import Sofon.Monitor.Enabled

/-!
# Requests that enable and disable a monitor

`UpdateMonitorStatus` reads the monitor, writes its row and then does the rest:
an enabling request adds the monitor to the schedule, a disabling one removes it.
Nothing keeps two requests apart, so the tail of one may land after the whole of
another.

Between its `UPDATE` and its `ZADD` an enabling request *owes* the schedule an
entry.  `toggleProtocol` says what a request owes at each point, and a request pays before it
returns (`follows_updateMonitorStatus`).  That is about one program.

Over all of them, an enabled monitor is scheduled or owed (`enabled_scheduled_or_owed`).  An
`UPDATE` that enables puts its request into debt, one that disables asks for nothing, and a
`ZADD` pays.  Only a `ZREM` can break it, and it does not as long as it comes while the monitor
is disabled or while some request owes its entry (`RemovesSafely`).  When all requests have
returned, nothing is owed, and what is left is `enabled_scheduled_of_finished`: toggle requests
agree with the schedule.

A `ZREM` at any other moment is the late tail of a disabling request, and
`toggle_requests_disagree` plays one.
-/

namespace Sofon

open Interleaving Program

/-- What an enabling request owes. -/
inductive Debt where
  | settled
  | owing
  deriving DecidableEq

/-- The calls of requests on the monitor `m`.  An `UPDATE` that enables a row puts
the request in debt, and `ZADD` settles it. -/
def toggleProtocol (m : UUID) : Protocol Cmd Cmd.Resp Debt where
  start := .settled
  next q e := match e with
    | ⟨.sql (.updateMonitorStatus m' enabled _), .ok rows⟩ =>
      if m' = m ∧ enabled ∧ rows ≠ 0 then .owing else q
    | ⟨.redis (.zAdd _), .ok _⟩ => .settled
    | _ => q
  allows q c := match c with
    | .sql (.updateMonitorStatus m' _ _) => m' = m ∧ q = .settled
    | .sql (.createMonitor ..) => False
    | .sql (.deleteMonitor ..) => False
    | .redis (.zAdd items) => ∃ score, items = [⟨score, .id m⟩]
    | .redis (.zPopMin _) => False
    | .redis (.zRem member) => member = .id m
    | _ => True
  answers := Call.Genuine

variable {m : UUID} {w w' : World}

theorem Cmd.neutral_allowed {c : Cmd} (h : c.neutral) (q : Debt) :
    (toggleProtocol m).allows q c := by
  cases c with
  | redis c => cases c <;> trivial
  | sql q' => cases q' <;> trivial
  | _ => trivial

theorem Cmd.neutral_next {c : Cmd} (h : c.neutral) (q : Debt) (r : c.Resp) :
    (toggleProtocol m).next q ⟨c, r⟩ = q := by
  cases c with
  | redis c => cases c <;> first | rfl | cases h
  | sql q' => cases q' <;> first | rfl | cases h
  | _ => rfl

/-- What a request does after its `UPDATE`, apart from the schedule. -/
theorem follows_of_neutral {α : Type} {p : Prog α} {q : Debt} (hp : p.Only (Cmd.neutral ·)) :
    p.Follows (toggleProtocol m) (fun _ q' => q' = q) q :=
  hp.follows (fun _ hc => Cmd.neutral_allowed hc q) fun _ r hc => Cmd.neutral_next hc q r

/-- The clean-up of a disabling request owes nothing. -/
theorem follows_disableMonitor (m : UUID) :
    (MonitorService.disableMonitor m).Follows (toggleProtocol m) (fun _ q => q = .settled)
      .settled := by
  refine ⟨trivial, fun _ _ => ⟨rfl, fun _ _ => ?_⟩⟩
  have hclear : (RedisClient.clearIncident m).Only (Cmd.neutral ·) :=
    RedisClient.only_retry_call (Cmd.neutral ·) rfl rfl 2
  refine (follows_of_neutral hclear).bind fun _ q hq => ?_
  obtain rfl := hq
  exact ⟨trivial, fun _ _ => rfl⟩

/-- Scheduling settles the debt. -/
theorem follows_scheduleMonitor (m : UUID) (i : ℤ) (q : Debt) :
    (MonitorService.scheduleMonitor m i).Follows (toggleProtocol m) (fun _ q' => q' = .settled)
      q := by
  refine ⟨trivial, fun now _ => ?_⟩
  have hpaid : (RedisClient.schedule (.id m) (Time.addSeconds now i)).Follows (toggleProtocol m)
      (fun _ q' => q' = .settled) q :=
    RedisClient.follows_retry ⟨_, rfl⟩
      (fun r hr => (Call.genuine_redis hr).elim fun _ hs => ⟨(), hs⟩)
      fun _ => rfl
  exact hpaid.bind fun _ _ hq => hq

/-- **A request pays what it owes before it returns.** -/
theorem follows_updateMonitorStatus (team m : UUID) (enable : Bool) :
    (MonitorService.updateMonitorStatus team m enable).Follows (toggleProtocol m)
      (fun _ q => q = .settled) .settled := by
  refine ⟨trivial, fun x hx => ?_⟩
  obtain ⟨now, d, hd⟩ := Call.genuine_sql hx
  rcases x with err | row
  · exact rfl
  · have hrow : row.id = m := DB.id_of_monitor? (DB.monitor?_of_getMonitorByTeamID hd.symm).1
    show Follows _ _ (if row.enabled = enable then _ else _) _
    split
    · exact rfl
    · refine ⟨⟨rfl, rfl⟩, fun y _ => ?_⟩
      rcases y with err | rows
      · exact rfl
      · show Follows _ _ ((if rows = 0 then ret _ else ret _ : Prog _) >>= _) _
        by_cases hzero : rows = 0
        · -- nothing was updated
          rw [if_pos hzero]
          show (if m = m ∧ enable ∧ rows ≠ 0 then Debt.owing else .settled) = .settled
          rw [if_neg fun h => h.2.2 hzero]
        · rw [if_neg hzero]
          show Follows _ _ (if enable then _ else _) _
          by_cases hen : enable = true
          · rw [if_pos hen]
            have hid : (MonitorRepository.ofRow row).id = m := hrow
            rw [hid]
            exact (follows_scheduleMonitor m _ _).bind fun _ _ hq => hq
          · rw [if_neg hen]
            have hstart : (if m = m ∧ enable ∧ rows ≠ 0 then Debt.owing else .settled) =
                .settled := if_neg fun h => hen h.2.1
            show Follows _ _ _ (if m = m ∧ enable ∧ rows ≠ 0 then Debt.owing else .settled)
            rw [hstart]
            have hclose : (MonitorRepository.closeOpenIncident m).Only (Cmd.neutral ·) :=
              MonitorService.only_closeOpenIncident (Cmd.neutral ·) rfl fun _ => rfl
            refine (follows_of_neutral hclose).bind fun _ q hq => ?_
            obtain rfl := hq
            exact (follows_disableMonitor m).bind fun _ _ hq' => hq'

/-! ## Interleaved requests -/

/-- The call takes the monitor out of the schedule. -/
def Cmd.removes (m : UUID) : Cmd → Bool
  | redis (.zRem member) => member = .id m
  | _ => false

/-- No call fails, and a `ZREM` comes only while the monitor is disabled or while
some request still owes the schedule its entry. -/
def RemovesSafely (m : UUID) (p : Pool Cmd Cmd.Resp (Except AppError Bool) World) (_ : ℕ)
    (e : Call) : Prop :=
  e.failed = false ∧
    (e.cmd.removes m = true →
      ¬ p.shared.db.Enabled m ∨ Debt.owing ∈ p.states (toggleProtocol m))

instance (m : UUID) (p : Pool Cmd Cmd.Resp (Except AppError Bool) World) (i : ℕ) (e : Call) :
    Decidable (RemovesSafely m p i e) :=
  inferInstanceAs (Decidable (e.failed = false ∧ (e.cmd.removes m = true →
    ¬ p.shared.db.Enabled m ∨ Debt.owing ∈ p.states (toggleProtocol m))))

/-- **An enabled monitor is scheduled or owed.** -/
theorem enabled_scheduled_or_owed {ps : List (Prog (Except AppError Bool))}
    {p : Pool Cmd Cmd.Resp (Except AppError Bool) World}
    (hps : ∀ q ∈ ps, ∃ team enable, q = MonitorService.updateMonitorStatus team m enable)
    (h₀ : w.db.Enabled m → w.Scheduled m)
    (h : Pool.Reaches World.Live (RemovesSafely m) (Pool.start w ps) p) :
    p.Conforms (toggleProtocol m) (fun _ q => q = .settled) ∧
      (p.shared.db.Enabled m →
        p.shared.Scheduled m ∨ Debt.owing ∈ p.states (toggleProtocol m)) := by
  have hstart : (Pool.start w ps).Conforms (toggleProtocol m) fun _ q => q = .settled := by
    refine Pool.conforms_start fun q hq => ?_
    obtain ⟨team, enable, rfl⟩ := hps q hq
    exact follows_updateMonitorStatus team m enable
  refine h.invariant (I := fun s qs => s.db.Enabled m → s.Scheduled m ∨ Debt.owing ∈ qs) hstart
    (fun hen => Or.inl (h₀ hen)) (fun _ _ _ _ hg hs => ⟨hg.1, _, _, hs⟩) ?_
  intro p i e s' q hg hs hq hallows hI hen
  obtain ⟨c, r⟩ := e
  by_cases hneutral : c.neutral
  · obtain ⟨hrows, hsched⟩ := neutral_of_live hneutral hs
    have hold : p.shared.db.Enabled m := by
      rwa [DB.Enabled, DB.monitor?, hrows] at hen
    rw [Cmd.neutral_next hneutral, Pool.set_of_getElem? hq]
    rw [World.Scheduled, hsched]
    exact hI hold
  · have hgenuine : Call.Genuine ⟨c, r⟩ := ⟨hg.1, _, _, hs⟩
    cases c with
    | timeNow | ctxDone | send ev | offer job => exact absurd rfl hneutral
    | redis c =>
      obtain ⟨s, hr⟩ := Call.genuine_redis hgenuine
      obtain ⟨ks, ⟨rfl, -⟩ | ⟨-, rfl⟩⟩ := World.live_redis hs
      · cases hg.1
      cases c with
      | zAdd items =>
        -- the monitor itself is added
        obtain ⟨score, rfl⟩ := hallows
        refine Or.inl ?_
        show Member.id m ∈ (p.shared.redis.schedule.add [⟨score, .id m⟩]).members
        rw [KeyValue.SortedSet.mem_members_add]
        simp
      | zPopMin n => cases hallows
      | zRem member =>
        have hmember : member = .id m := hallows
        have howing : Debt.owing ∈ p.states (toggleProtocol m) :=
          (hg.2 (decide_eq_true hmember)).resolve_left (not_not.mpr hen)
        refine Or.inr ?_
        show _ ∈ (p.states (toggleProtocol m)).set i q
        rwa [Pool.set_of_getElem? hq]
      | _ => exact absurd rfl hneutral
    | sql query =>
      cases query with
      | updateMonitorStatus m' b team =>
        obtain ⟨rfl, rfl⟩ := hallows
        obtain ⟨ks, now, ⟨rfl, -⟩ | ⟨rfl, rfl⟩⟩ := World.live_sql hs
        · cases hg.1
        rcases enabled_of_update hen with hold | ⟨rfl, rows, hrows, hne⟩
        · -- enabled before: what was owed then is owed now
          rcases hI hold with hsched | howing
          · exact Or.inl hsched
          · exact Or.inr (Pool.mem_set_of_ne hq howing fun h => by cases h)
        · refine Or.inr ?_
          rw [hrows]
          show _ ∈ (p.states (toggleProtocol m')).set i
            (if m' = m' ∧ true = true ∧ rows ≠ 0 then Debt.owing else .settled)
          rw [if_pos ⟨rfl, rfl, hne⟩]
          exact List.mem_set (List.getElem?_eq_some_iff.mp hq).1 _
      | createMonitor | deleteMonitor => cases hallows
      | _ => exact absurd rfl hneutral

/-- **Toggle requests agree with the schedule** in every run in which entries are removed safely.
As long as the monitor is enabled, it is in the schedule or one of the requests is still about to
put it there, and none is when all have returned. -/
theorem enabled_scheduled_of_finished {ps : List (Prog (Except AppError Bool))}
    {p : Pool Cmd Cmd.Resp (Except AppError Bool) World}
    (hps : ∀ q ∈ ps, ∃ team enable, q = MonitorService.updateMonitorStatus team m enable)
    (h₀ : w.db.Enabled m ↔ w.Scheduled m)
    (h : Pool.Reaches World.Live (RemovesSafely m) (Pool.start w ps) p) (hfin : p.Finished) :
    p.shared.db.Enabled m → p.shared.Scheduled m := by
  intro hen
  obtain ⟨hconf, hinv⟩ := enabled_scheduled_or_owed hps h₀.mp h
  refine (hinv hen).resolve_right fun howing => ?_
  obtain ⟨a, ha⟩ := hconf.finished hfin _ howing
  cases ha

/-- A disabling and an enabling request of the owner. -/
def Sample.requests : List (Prog (Except AppError Bool)) :=
  [MonitorService.updateMonitorStatus 9 1 false, MonitorService.updateMonitorStatus 9 1 true]

theorem Sample.of_mem_requests {q : Prog (Except AppError Bool)} (hq : q ∈ requests) :
    ∃ team enable, q = MonitorService.updateMonitorStatus team 1 enable := by
  rcases List.mem_pair.mp hq with rfl | rfl
  · exact ⟨9, false, rfl⟩
  · exact ⟨9, true, rfl⟩

theorem Sample.enabled_iff_scheduled : scheduled.db.Enabled 1 ↔ scheduled.Scheduled 1 :=
  iff_of_true (by decide) (by decide)

/-- The disabling request first, the enabling one after it. -/
def Sample.inTurn : List (ℕ × Env) :=
  [0, 0, 0, 0, 0, 0, 0, 0, 1, 1, 1, 1].map fun i => (i, default)

/-- The disabling request writes the row, the enabling one runs from start to end,
and the clean-up of the first comes last. -/
def Sample.lateCleanUp : List (ℕ × Env) :=
  [0, 0, 1, 1, 1, 1, 0, 0, 0, 0, 0, 0].map fun i => (i, default)

theorem enabled_scheduled_of_finished_sample :
    ∃ p : Pool Cmd Cmd.Resp (Except AppError Bool) World,
      (p.Finished ∧ p.shared.db.Enabled 1) ∧ p.shared.Scheduled 1 := by
  obtain ⟨p, hreach, hcheck⟩ := Pool.exists_reaches_of_play (World.exec false)
    (fun p i e => RemovesSafely 1 p i e) Sample.inTurn (Pool.start Sample.scheduled Sample.requests)
    (fun p => p.threads.all (fun t => t.todo.returned) && decide (p.shared.db.Enabled 1))
    (by decide)
  obtain ⟨hreturned, hen⟩ := Bool.and_eq_true_iff.mp hcheck
  have hfin := Pool.finished_of_all hreturned
  have hen := of_decide_eq_true hen
  refine ⟨p, ⟨hfin, hen⟩, ?_⟩
  exact enabled_scheduled_of_finished (fun q hq => Sample.of_mem_requests hq)
    Sample.enabled_iff_scheduled (hreach.mono fun _ _ _ he => of_decide_eq_true he) hfin hen

/-- A late clean-up leaves the monitor enabled and out of the schedule. -/
theorem toggle_requests_disagree :
    ¬ ∀ (w : World) (ps : List (Prog (Except AppError Bool)))
      (p : Pool Cmd Cmd.Resp (Except AppError Bool) World),
      (∀ q ∈ ps, ∃ team enable, q = MonitorService.updateMonitorStatus team 1 enable) →
      (w.db.Enabled 1 ↔ w.Scheduled 1) →
      Pool.Reaches World.Live (fun _ _ e => Call.failed e = false) (Pool.start w ps) p →
      p.Finished → p.shared.db.Enabled 1 → p.shared.Scheduled 1 := by
  intro hclaim
  obtain ⟨p, hreach, hcheck⟩ := Pool.exists_reaches_of_play (World.exec false)
    (fun _ _ e => !Call.failed e) Sample.lateCleanUp (Pool.start Sample.scheduled Sample.requests)
    (fun p => p.threads.all (fun t => t.todo.returned) &&
      (decide (p.shared.db.Enabled 1) && !decide (p.shared.Scheduled 1))) (by decide)
  simp only [Bool.and_eq_true, Bool.not_eq_true', decide_eq_false_iff_not, decide_eq_true_eq]
    at hcheck
  obtain ⟨hreturned, hen, hout⟩ := hcheck
  refine hout (hclaim _ _ p (fun q hq => Sample.of_mem_requests hq) Sample.enabled_iff_scheduled
    (hreach.mono fun _ _ e he => ?_) (Pool.finished_of_all hreturned) hen)
  simpa using he

end Sofon
