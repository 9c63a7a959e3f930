import Sofon.Result.History

/-!
# Handlers and requests at the same time

Nothing in the database keeps a monitor from having two open incidents.  What
does is the alert flag: `HSETNX` lets one handler through, and only that handler
inserts.  From its `HSETNX` to its `INSERT` a handler is *armed*.

## The programs

`claimProtocol` says where a handler stands with respect to its claim, and that an incident is
inserted only by one that has claimed the flag.  `follows_handleFailure` proves it of the code;
a success and the requests never claim and never insert (`follows_handleSuccess`,
`follows_claim_updateMonitorStatus`), and neither do the programs that are made of bystanders
(`follows_of_bystander`).  Nothing here is about states.

## The invariant

Open rows and armed handlers together are at most one, and when there is one the
flag is set (`Unique`).  `unique_step` goes through the calls:

* an `HSETNX` that arms a handler found no flag, so before it there was nothing;
* an `INSERT` turns an armed handler into an open row;
* every other statement opens no incident, and a bystander that is no `DEL` leaves the flag
  (`bystander_of_live`);
* a `DEL` of the hash takes the flag away.  It does no harm while no row is open and no handler
  is armed (`ClearsSafely`).

`open_incident_unique` is the run theorem: the rule for pools, in which each thread follows the
protocol, carries `Unique` through every run in which the hash is deleted at such moments only.
A recovery that comes between the insert and the mark issues the `DEL` at another one:
`two_open_incidents`.
-/

namespace Sofon

open Interleaving Program

/-- Where a handler stands between its claim of the alert flag and its insert. -/
inductive Claim where
  | idle
  | armed
  deriving DecidableEq

/-- The calls of handlers and requests for the monitor `m`: an incident is
inserted only by a handler that has claimed the flag. -/
def claimProtocol (m : UUID) : Protocol Cmd Cmd.Resp Claim where
  start := .idle
  next q e := match e with
    | ⟨.redis (.hSetNXAlerted m'), .ok claimed⟩ => if m' = m ∧ claimed then .armed else q
    | ⟨.sql (.createMonitorIncident m' ..), .ok _⟩ => if m' = m then .idle else q
    | _ => q
  allows q c := match c with
    | .sql (.createMonitorIncident m' ..) => m' = m → q = .armed
    | .sql (.deleteMonitor ..) => False
    | _ => True
  answers := Call.Genuine

variable {m : UUID} {w w' : World}

/-- The calls that neither claim the flag nor insert or delete rows. -/
def Cmd.bystander : Cmd → Bool
  | redis (.hSetNXAlerted _) => false
  | sql (.createMonitorIncident ..) => false
  | sql (.deleteMonitor ..) => false
  | _ => true

theorem Cmd.bystander_next {c : Cmd} (h : c.bystander) (q : Claim) (r : c.Resp) :
    (claimProtocol m).next q ⟨c, r⟩ = q := by
  cases c with
  | redis c => cases c <;> first | rfl | cases h
  | sql q' => cases q' <;> first | rfl | cases h
  | timeNow | ctxDone | send ev | offer job => rfl

theorem Cmd.bystander_allowed {c : Cmd} (h : c.bystander) (q : Claim) :
    (claimProtocol m).allows q c := by
  cases c with
  | sql q' => cases q' <;> trivial
  | _ => trivial

/-- Programs of such calls are harmless in every state. -/
theorem follows_of_bystander {α : Type} {p : Prog α} (hp : p.Only (Cmd.bystander ·)) (q : Claim) :
    p.Follows (claimProtocol m) (fun _ q' => q' = q) q :=
  hp.follows (fun _ hc => Cmd.bystander_allowed hc q) fun _ r hc => Cmd.bystander_next hc q r

theorem bystander_scheduleMonitor (m : UUID) (i : ℤ) :
    (MonitorService.scheduleMonitor m i).Only (Cmd.bystander ·) :=
  MonitorService.only_scheduleMonitor (Cmd.bystander ·) rfl rfl (fun _ => rfl) i

/-- A handler that has claimed the flag inserts at most once. -/
theorem follows_alertDown (r : HTTPResult) :
    (ResultProcessor.alertDown r).Follows (claimProtocol m) (fun _ _ => True) .armed := by
  refine ⟨trivial, fun now _ => ⟨fun _ => rfl, fun x _ => ?_⟩⟩
  rcases x with err | id
  · trivial
  · exact ⟨trivial, fun _ _ => ⟨trivial, fun _ _ => trivial⟩⟩

/-- **`handleFailure` inserts only what it has claimed.**  There is an `INSERT` on one way through
it only, and on that way `HSETNX` has said that the mark was not set before. -/
theorem follows_handleFailure (cfg : ResultProcessorConfig) (r : HTTPResult) :
    (ResultProcessor.handleFailure cfg r).Follows (claimProtocol r.monitorID) (fun _ _ => True)
      .idle := by
  have hpath : (ResultProcessor.failurePath cfg r).Follows (claimProtocol r.monitorID)
      (fun _ _ => True) .idle := by
    have hincr : (RedisClient.incrementIncident r.monitorID).Only (Cmd.bystander ·) :=
      RedisClient.only_incrementIncident (Cmd.bystander ·) rfl rfl rfl fun _ _ => rfl
    refine (follows_of_bystander hincr .idle).bind fun x q hq => ?_
    obtain rfl := hq
    rcases x with err | y
    · trivial
    · show Follows _ _ (if y.1 < cfg.failureThreshold then _ else _) _
      split
      · trivial
      · refine ⟨trivial, fun z _ => ?_⟩
        rcases z with err | _ | _
        · trivial
        · trivial
        · show Follows _ _ _ (if r.monitorID = r.monitorID ∧ true = true then Claim.armed
            else .idle)
          rw [if_pos ⟨rfl, rfl⟩]
          exact follows_alertDown r
  have hbody : (ResultProcessor.handleFailureBody cfg r).Follows (claimProtocol r.monitorID)
      (fun _ _ => True) .idle := by
    rw [ResultProcessor.handleFailureBody]
    split
    · have hstore : (RedisClient.storeStatus r.monitorID r.status r.latencyMs r.checkedAt).Only
          (Cmd.bystander ·) := RedisClient.only_retry_call (Cmd.bystander ·) rfl rfl 2
      exact (follows_of_bystander hstore .idle).bind fun _ _ _ => trivial
    · have hretry : (ResultProcessor.retryPath cfg r).Only (Cmd.bystander ·) :=
        ResultProcessor.only_retryPath (Cmd.bystander ·) rfl rfl rfl rfl rfl fun _ => rfl
      refine (follows_of_bystander hretry .idle).bind fun x q hq => ?_
      obtain rfl := hq
      cases x with
      | some b => trivial
      | none => exact hpath.bind fun _ _ _ => trivial
  refine hbody.bind fun b q _ => ?_
  cases b
  · trivial
  · exact (follows_of_bystander (bystander_scheduleMonitor _ _) q).mono fun _ _ _ => trivial

theorem follows_handleSuccess (r : HTTPResult) (m : UUID) :
    (ResultProcessor.handleSuccess r).Follows (claimProtocol m) (fun _ _ => True) .idle := by
  have hbody : (ResultProcessor.handleSuccessBody r).Only (Cmd.bystander ·) :=
    ResultProcessor.only_handleSuccessBody (Cmd.bystander ·) rfl rfl (fun _ => rfl) rfl
      (fun _ => rfl) rfl (fun _ => rfl) rfl rfl
  have honly : (ResultProcessor.handleSuccess r).Only (Cmd.bystander ·) :=
    hbody.bind fun _ => bystander_scheduleMonitor _ _
  exact (follows_of_bystander honly .idle).mono fun _ _ _ => trivial

theorem follows_claim_updateMonitorStatus (team m : UUID) (enable : Bool) :
    (MonitorService.updateMonitorStatus team m enable).Follows (claimProtocol m) (fun _ _ => True)
      .idle := by
  have honly : (MonitorService.updateMonitorStatus team m enable).Only (Cmd.bystander ·) :=
    MonitorService.only_updateMonitorStatus (Cmd.bystander ·) rfl rfl rfl rfl (fun _ _ => rfl)
      (fun _ => rfl) rfl rfl rfl rfl
  exact (follows_of_bystander honly .idle).mono fun _ _ _ => trivial

/-! ## What the calls do -/

/-- The call deletes the incident hash of `m`. -/
def Cmd.clears (m : UUID) : Cmd → Bool
  | redis (.delIncident m') => m' = m
  | _ => false

/-- The alert flag of `m` moves by `HSETNX` and `DEL` only. -/
theorem Redis.exec_alerted {c : RedisCmd} (hc : (Cmd.redis c).bystander)
    (hclear : (Cmd.redis c).clears m = false) (s : Redis) :
    ((s.exec c).2.incident m).alerted = (s.incident m).alerted := by
  by_cases hkey : c.incidentKey = some m
  · cases c with
    | hIncrByFailureCount m' | hSetFailureTimes m' | hSetDBIncident m' =>
      obtain rfl := Option.some.inj hkey
      simp only [Redis.exec, Redis.setIncident_incident]
    | hSetNXRecoveredAlerted m' =>
      obtain rfl := Option.some.inj hkey
      simp only [Redis.exec]
      split
      · rfl
      · simp only [Redis.setIncident_incident]
    | delIncident m' =>
      obtain rfl := Option.some.inj hkey
      simp [Cmd.clears] at hclear
    | hSetNXAlerted m' => cases hc
    | hGetAllIncident m' => rfl
    | _ => cases hkey
  · rw [Redis.exec_incident hkey]

/-- The calls that insert no incident open none. -/
theorem DB.openIncidents_le {now : Time} {q : Query} (hq : (Cmd.sql q).bystander) (d : DB) :
    ((d.exec now q).2.openIncidents m).length ≤ (d.openIncidents m).length := by
  cases q with
  | createMonitorIncident | deleteMonitor => cases hq
  | closeMonitorIncident m' t =>
    simp only [DB.exec]
    split
    · exact le_refl _
    · split
      · simp only [DB.openIncidents, List.filter_map, List.length_map]
        refine List.Sublist.length_le (List.monotone_filter_right _ fun row hrow => ?_)
        have hclosed := IncidentRow.openFor_close m' m t.micros row
        rw [Function.comp_apply, hclosed, Bool.and_eq_true] at hrow
        exact hrow.1
      · exact le_refl _
  | getMonitorByID | getMonitorByTeamID | createMonitor =>
    simp only [DB.exec]
    split <;> exact le_refl _
  | _ => exact le_refl _

/-- **Bystanders** open no incident, and leave the flag alone unless they delete
it. -/
theorem bystander_of_live {c : Cmd} {r : c.Resp} (hc : c.bystander) (hclear : c.clears m = false)
    (h : World.Live w c r w') :
    (w'.db.openIncidents m).length ≤ (w.db.openIncidents m).length ∧
      (w'.redis.incident m).alerted = (w.redis.incident m).alerted := by
  obtain ⟨ks, rfl | ⟨c, rfl, rfl⟩ | ⟨q, now, rfl, rfl⟩ | ⟨ev, rfl, rfl⟩⟩ := World.live_cases h
  · exact ⟨le_refl _, rfl⟩
  · exact ⟨le_refl _, Redis.exec_alerted hc hclear _⟩
  · exact ⟨DB.openIncidents_le hc _, rfl⟩
  · exact ⟨le_refl _, rfl⟩

/-! ## Interleaved handlers and requests -/

/-- What runs for a monitor: handlers of its results and requests of its owner. -/
inductive Job where
  | failure (r : HTTPResult)
  | success (r : HTTPResult)
  | request (team : UUID) (enable : Bool)

/-- The program of a job for the monitor `m`. -/
def Job.prog (cfg : ResultProcessorConfig) (m : UUID) : Job → Prog Unit
  | failure r => ResultProcessor.handleFailure cfg { r with monitorID := m }
  | success r => ResultProcessor.handleSuccess { r with monitorID := m }
  | request team enable => do
    let _ ← MonitorService.updateMonitorStatus team m enable
    return ()

theorem follows_job (cfg : ResultProcessorConfig) (m : UUID) (j : Job) :
    (j.prog cfg m).Follows (claimProtocol m) (fun _ _ => True) .idle := by
  cases j with
  | failure r => exact follows_handleFailure cfg { r with monitorID := m }
  | success r => exact follows_handleSuccess { r with monitorID := m } m
  | request team enable =>
    exact (follows_claim_updateMonitorStatus team m enable).bind fun _ _ _ => trivial

/-- No call fails, and a `DEL` of the hash comes only while no incident is open
and no handler stands between its claim and its insert. -/
def ClearsSafely (m : UUID) (p : Pool Cmd Cmd.Resp Unit World) (_ : ℕ) (e : Call) : Prop :=
  e.failed = false ∧ (e.cmd.clears m = true →
    p.shared.db.openIncidents m = [] ∧ Claim.armed ∉ p.states (claimProtocol m))

instance (m : UUID) (p : Pool Cmd Cmd.Resp Unit World) (i : ℕ) (e : Call) :
    Decidable (ClearsSafely m p i e) :=
  inferInstanceAs (Decidable (e.failed = false ∧ (e.cmd.clears m = true →
    p.shared.db.openIncidents m = [] ∧ Claim.armed ∉ p.states (claimProtocol m))))

/-- The open incidents of the monitor, and the handlers about to insert one. -/
def incidents (m : UUID) (w : World) (qs : List Claim) : ℕ :=
  (w.db.openIncidents m).length + qs.count .armed

/-- There is at most one of them, and when there is one the flag is set. -/
def Unique (m : UUID) (w : World) (qs : List Claim) : Prop :=
  incidents m w qs ≤ 1 ∧ (incidents m w qs = 1 → (w.redis.incident m).alerted ≠ none)

theorem Unique.of_le {qs qs' : List Claim} (h : Unique m w qs)
    (hle : incidents m w' qs' ≤ incidents m w qs)
    (ha : (w'.redis.incident m).alerted = (w.redis.incident m).alerted) : Unique m w' qs' := by
  refine ⟨hle.trans h.1, fun hone => ?_⟩
  have hone' : incidents m w qs = 1 := by
    have := h.1
    omega
  rw [ha]
  exact h.2 hone'

/-- **What one call does to them.** -/
theorem unique_step {p : Pool Cmd Cmd.Resp Unit World} {i : ℕ} {e : Call} {q : Claim}
    (hg : ClearsSafely m p i e) (hs : World.Live p.shared e.cmd e.resp w')
    (hq : (p.states (claimProtocol m))[i]? = some q) (hallows : (claimProtocol m).allows q e.cmd)
    (hI : Unique m p.shared (p.states (claimProtocol m))) :
    Unique m w' ((p.states (claimProtocol m)).set i ((claimProtocol m).next q e)) := by
  obtain ⟨c, r⟩ := e
  by_cases hby : c.bystander
  · rw [Cmd.bystander_next hby, Pool.set_of_getElem? hq]
    by_cases hclear : c.clears m = true
    · -- there is neither an open incident nor an armed handler
      obtain ⟨hopen, harmed⟩ := hg.2 hclear
      have hdb : w'.db = p.shared.db := by
        cases c with
        | redis c => obtain ⟨ks, ⟨-, rfl⟩ | ⟨-, rfl⟩⟩ := World.live_redis hs <;> rfl
        | _ => cases hclear
      have hzero : incidents m w' (p.states (claimProtocol m)) = 0 := by
        rw [incidents, hdb, hopen, List.count_eq_zero.mpr harmed]
        rfl
      exact ⟨by omega, by omega⟩
    · obtain ⟨hle, ha⟩ := bystander_of_live hby (Bool.not_eq_true _ ▸ hclear) hs
      exact hI.of_le (Nat.add_le_add_right hle _) ha
  · have hcount := Pool.count_set_add hq Claim.armed ((claimProtocol m).next q ⟨c, r⟩)
    cases c with
    | timeNow | ctxDone | send ev | offer job => exact absurd rfl hby
    | redis c =>
      cases c with
      | hSetNXAlerted m' =>
        by_cases hm : m' = m
        · subst hm
          have houtage : ∀ {w : World}, w.outage m' = p.shared.outage m' →
              (w.db.openIncidents m').length = (p.shared.db.openIncidents m').length ∧
                (w.redis.incident m').alerted = (p.shared.redis.incident m').alerted := by
            intro w hw
            exact ⟨congrArg (fun o => (o.db.openIncidents m').length) hw,
              congrArg (fun o => o.hash.alerted) hw⟩
          rcases live_hSetNXAlerted hs with ⟨rfl, -⟩ | ⟨rfl, -, hw⟩ | ⟨rfl, ha, hw⟩
          · cases hg.1
          · obtain ⟨hrows, ha⟩ := houtage hw
            show Unique m' w' ((p.states _).set i (if m' = m' ∧ false = true then _ else q))
            rw [if_neg (fun h => nomatch h.2), Pool.set_of_getElem? hq]
            exact hI.of_le (by rw [incidents, incidents, hrows]) ha
          · -- the flag was not set, so there was nothing before
            have hnone : incidents m' p.shared (p.states (claimProtocol m')) = 0 := by
              have hne : incidents m' p.shared (p.states (claimProtocol m')) ≠ 1 := fun hone =>
                hI.2 hone ha
              have := hI.1
              omega
            have hrows : (w'.db.openIncidents m').length =
                (p.shared.db.openIncidents m').length :=
              congrArg (fun o => (o.db.openIncidents m').length) hw
            have hset : (w'.redis.incident m').alerted = some true :=
              congrArg (fun o => o.hash.alerted) hw
            refine ⟨?_, fun _ => by rw [hset]; exact Option.some_ne_none true⟩
            rw [incidents] at hnone ⊢
            split at hcount <;> split at hcount <;> omega
        · have hnext : (claimProtocol m).next q ⟨.redis (.hSetNXAlerted m'), r⟩ = q := by
            rcases r with err | claimed
            · rfl
            · exact if_neg fun h => hm h.1
          have hkey : (RedisCmd.hSetNXAlerted m').incidentKey ≠ some m := fun h =>
            hm (Option.some.inj h)
          rw [hnext, Pool.set_of_getElem? hq]
          obtain ⟨ks, ⟨-, rfl⟩ | ⟨-, rfl⟩⟩ := World.live_redis hs
          · exact hI.of_le (le_refl _) rfl
          · refine hI.of_le (le_refl _) ?_
            exact congrArg IncidentHash.alerted
              (Redis.exec_incident hkey (p.shared.redis.expire ks))
      | _ => exact absurd rfl hby
    | sql query =>
      cases query with
      | createMonitorIncident m' alerted status latency t =>
        rcases live_createMonitorIncident (m := m) hs with ⟨err, rfl, herr, -⟩ | ⟨rfl, hw⟩
        · exact absurd hg.1 (by simpa [Call.failed] using herr)
        have hrows : w'.db.openIncidents m = p.shared.db.openIncidents m ++
            [⟨p.shared.db.nextID, m', t.micros, none, alerted, status, latency⟩].filter
              (·.openFor m) :=
          (congrArg (fun o => o.db.openIncidents m) hw).trans (Outage.openIncidents_insert _ _ _)
        have ha : (w'.redis.incident m).alerted = (p.shared.redis.incident m).alerted :=
          congrArg (fun o => o.hash.alerted) hw
        refine hI.of_le ?_ ha
        by_cases hm : m' = m
        · -- one more row, and one armed handler less
          obtain rfl := hallows hm
          have hnext : (claimProtocol m).next .armed ⟨.sql (.createMonitorIncident m' alerted status
              latency t), .ok p.shared.db.nextID⟩ = .idle := if_pos hm
          rw [hnext] at hcount ⊢
          simp only [if_true, reduceCtorEq, if_false] at hcount
          have hone :
              (w'.db.openIncidents m).length ≤ (p.shared.db.openIncidents m).length + 1 := by
            rw [hrows, List.length_append]
            exact Nat.add_le_add_left (List.length_filter_le _ _) _
          rw [incidents, incidents]
          omega
        · have hnext : (claimProtocol m).next q ⟨.sql (.createMonitorIncident m' alerted status
              latency t), .ok p.shared.db.nextID⟩ = q := if_neg hm
          rw [hnext, Pool.set_of_getElem? hq, incidents, incidents, hrows]
          simp [IncidentRow.openFor, hm]
      | deleteMonitor => cases hallows
      | _ => exact absurd rfl hby

/-- **At most one open incident**, in every run in which the hash is deleted safely: as long as a
row is open or about to be inserted, the mark in the hash keeps the others from inserting one. -/
theorem open_incident_unique {cfg : ResultProcessorConfig} {jobs : List Job}
    {p : Pool Cmd Cmd.Resp Unit World} (h₀ : Unique m w [])
    (h : Pool.Reaches World.Live (ClearsSafely m) (Pool.start w (jobs.map (Job.prog cfg m))) p) :
    (p.shared.db.openIncidents m).length ≤ 1 := by
  have hstart : (Pool.start w (jobs.map (Job.prog cfg m))).Conforms (claimProtocol m)
      fun _ _ => True := by
    refine Pool.conforms_start fun q hq => ?_
    obtain ⟨j, -, rfl⟩ := List.mem_map.mp hq
    exact follows_job cfg m j
  have hsame : incidents m w
      ((Pool.start w (jobs.map (Job.prog cfg m))).states (claimProtocol m)) = incidents m w [] := by
    rw [incidents, incidents, Pool.states_start]
    simp [List.count_replicate, claimProtocol]
  have hinv := h.invariant (I := Unique m) hstart (h₀.of_le hsame.le rfl)
    (fun _ _ _ _ hg hs => ⟨hg.1, _, _, hs⟩)
    fun p i e s' q hg hs hq hallows hI => unique_step hg hs hq hallows hI
  exact (Nat.le_add_right _ _).trans hinv.2.1

/-- A first failure at the sample monitor, a success and a second failure. -/
def Sample.jobs : List Job := [.failure failing, .success passing, .failure failing]

/-- The settings with a threshold of one failure. -/
def Sample.impatient : ResultProcessorConfig :=
  { Config.default.resultProcessor with failureThreshold := 1 }

/-- The failure inserts its incident; before it can mark the hash, the success
finds the hash unmarked and deletes it; the second failure finds no flag. -/
def Sample.overlap : List (ℕ × Env) :=
  ([0, 0, 0, 0, 0, 0] ++ [1, 1, 1, 1] ++ [2, 2, 2, 2, 2, 2]).map fun i => (i, default)

/-- One after the other. -/
def Sample.inOrder : List (ℕ × Env) :=
  (List.replicate 10 0 ++ List.replicate 10 1 ++ List.replicate 10 2).map fun i => (i, default)

theorem Sample.unique_world : Unique 1 world [] := ⟨by decide, by decide⟩

theorem open_incident_unique_sample :
    ∃ p : Pool Cmd Cmd.Resp Unit World,
      p.Finished ∧ (p.shared.db.openIncidents 1).length ≤ 1 := by
  obtain ⟨p, hreach, hcheck⟩ := Pool.exists_reaches_of_play (World.exec false)
    (fun p i e => ClearsSafely 1 p i e) Sample.inOrder
    (Pool.start Sample.world (Sample.jobs.map (Job.prog Sample.impatient 1)))
    (fun p => p.threads.all fun t => t.todo.returned) (by decide)
  refine ⟨p, Pool.finished_of_all hcheck, ?_⟩
  exact open_incident_unique Sample.unique_world (hreach.mono fun _ _ _ he => of_decide_eq_true he)

/-- A recovery between the insert and the mark lets a second incident in. -/
theorem two_open_incidents :
    ¬ ∀ (cfg : ResultProcessorConfig) (w : World) (jobs : List Job)
      (p : Pool Cmd Cmd.Resp Unit World), w.db.incidents = [] → w.redis.incident 1 = .absent →
      Pool.Reaches World.Live (fun _ _ e => Call.failed e = false)
        (Pool.start w (jobs.map (Job.prog cfg 1))) p →
      (p.shared.db.openIncidents 1).length ≤ 1 := by
  intro hclaim
  obtain ⟨p, hreach, hcheck⟩ := Pool.exists_reaches_of_play (World.exec false)
    (fun _ _ e => !Call.failed e) Sample.overlap
    (Pool.start Sample.world (Sample.jobs.map (Job.prog Sample.impatient 1)))
    (fun p => decide (1 < (p.shared.db.openIncidents 1).length)) (by decide)
  have htwo : 1 < (p.shared.db.openIncidents 1).length := of_decide_eq_true hcheck
  have hone := hclaim _ _ _ p rfl rfl (hreach.mono fun _ _ e he => by simpa using he)
  omega

end Sofon
