import Sofon.Result.Race

/-!
# One alert each way

Nothing the handlers do to Redis keeps them apart: flags, counters and rows may have
drifted, and a flag may be deleted and set again while its outage lasts.  An alert is
unique because the database gives each of them out once.  The id of a `DOWN` comes from the
`INSERT` of its row, and no later `INSERT` returns it.  The id of a `RECOVERED` comes from
a conditional `UPDATE`, which returns the id of a row that was open and closes it, and no
row is ever opened again.

## Tickets

So an alert needs a *ticket*, and the calls give out tickets as follows.

* A `handleFailure` gets a ticket by its `INSERT`, a `handleSuccess` by its `UPDATE`.  A
  request that closes an incident gets none.
* An alert uses up the ticket of its sender.

That the code sends nothing without one is a protocol, and each kind of job follows it
(`follows_tickets_handleFailure`, `follows_tickets_handleSuccess`,
`follows_tickets_updateMonitorStatus`).

## Runs

`TicketStep` says once what a call of a job can do, and everything else is read off it.  A
ticket that a call gives out is new (`TicketStep.unissued`): for a `DOWN` since the id is new in
the table, for a `RECOVERED` since the row was open a moment ago and all rows that have had
their ticket are closed.  That is `Honest`, and `honest_step` keeps it.

By the invariant rule for jobs it holds after every run (`honest_of_reaches`): of
each kind and for each incident one ticket is given out in the whole run, used up or not.  The
three statements about a run come from it.  `alerts_at_most_once` counts tickets;
`recovery_of_sent` looks for the step that gave the ticket out; `no_recovery_of_request` has a
row that a request closed, and a row is closed once.
-/

namespace Sofon

open Interleaving Program

/-- The right to send an alert. -/
inductive Ticket where
  | none
  | down (incidentID : UUID)
  | recovered (incidentID : UUID)
  deriving DecidableEq

/-- The ticket for an alert of this type. -/
def AlertType.ticket : AlertType → UUID → Ticket
  | down, id => .down id
  | recovered, id => .recovered id

theorem AlertType.ticket_ne_none (type : AlertType) (id : UUID) : type.ticket id ≠ .none := by
  cases type <;> exact nofun

theorem AlertType.ticket_inj {type type' : AlertType} {id id' : UUID} :
    type.ticket id = type'.ticket id' ↔ type = type' ∧ id = id' := by
  cases type <;> cases type' <;> simp [ticket]

/-- The ticket an alert uses up. -/
def AlertEvent.ticket (ev : AlertEvent) : Ticket := ev.type.ticket ev.incidentID

/-- Is the job a `handleSuccess`? -/
def Job.recovers : Job → Bool
  | success _ => true
  | _ => false

/-- The calls of a job, given with its monitor: what it inserts, closes and sends. -/
def ticketProtocol (job : Option (UUID × Job)) : Protocol Cmd Cmd.Resp Ticket where
  start := .none
  next q e := match e with
    | ⟨.sql (.createMonitorIncident ..), .ok id⟩ => .down id
    | ⟨.sql (.closeMonitorIncident ..), .ok id⟩ =>
      if job.any fun x => x.2.recovers then .recovered id else q
    | ⟨.send _, _⟩ => .none
    | _ => q
  allows q c := match c with
    | .sql (.createMonitorIncident m ..) => ∃ r, job = some (m, .failure r)
    | .sql (.closeMonitorIncident m _) => (∃ r, job = some (m, .success r)) ∨
        ∃ team enable, job = some (m, .request team enable)
    | .sql (.deleteMonitor ..) => False
    | .send ev => q = ev.ticket ∧ ∃ j, job = some (ev.monitorID, j)
    | _ => True
  answers _ := True

/-- The calls that have to do with no ticket. -/
def Cmd.ticketless : Cmd → Bool
  | sql (.createMonitorIncident ..) => false
  | sql (.closeMonitorIncident ..) => false
  | sql (.deleteMonitor ..) => false
  | send _ => false
  | _ => true

variable {job : Option (UUID × Job)} {q : Ticket} {w w₀ w' : World}

theorem Cmd.ticketless_next {c : Cmd} (h : c.ticketless) (q : Ticket) (r : c.Resp) :
    (ticketProtocol job).next q ⟨c, r⟩ = q := by
  cases c with
  | sql query => cases query <;> first | rfl | cases h
  | send ev => cases h
  | _ => rfl

theorem Cmd.ticketless_allowed {c : Cmd} (h : c.ticketless) (q : Ticket) :
    (ticketProtocol job).allows q c := by
  cases c with
  | sql query => cases query <;> trivial
  | send ev => cases h
  | _ => trivial

theorem follows_of_ticketless {α : Type} {p : Prog α} (hp : p.Only (Cmd.ticketless ·))
    (q : Ticket) : p.Follows (ticketProtocol job) (fun _ q' => q' = q) q :=
  hp.follows (fun _ hc => Cmd.ticketless_allowed hc q) fun _ r hc => Cmd.ticketless_next hc q r

theorem ticketless_scheduleMonitor (m : UUID) (i : ℤ) :
    (MonitorService.scheduleMonitor m i).Only (Cmd.ticketless ·) :=
  MonitorService.only_scheduleMonitor (Cmd.ticketless ·) rfl rfl (fun _ => rfl) i

/-! ## The jobs obey the protocol -/

section Follows

variable {r : HTTPResult}

/-- The `DOWN` goes out with the id of the row just inserted. -/
theorem follows_tickets_alertDown (hjob : ∃ r', job = some (r.monitorID, .failure r')) :
    (ResultProcessor.alertDown r).Follows (ticketProtocol job) (fun _ _ => True) q := by
  refine ⟨trivial, fun now _ => ⟨hjob, fun x _ => ?_⟩⟩
  rcases x with err | id
  · trivial
  · obtain ⟨r', hjob⟩ := hjob
    exact ⟨trivial, fun _ _ => ⟨⟨rfl, _, hjob⟩, fun _ _ => trivial⟩⟩

theorem follows_tickets_handleFailure (cfg : ResultProcessorConfig)
    (hjob : ∃ r', job = some (r.monitorID, .failure r')) :
    (ResultProcessor.handleFailure cfg r).Follows (ticketProtocol job) (fun _ _ => True) .none := by
  have hpath : ∀ q, (ResultProcessor.failurePath cfg r).Follows (ticketProtocol job)
      (fun _ _ => True) q := by
    intro q
    have hincr : (RedisClient.incrementIncident r.monitorID).Only (Cmd.ticketless ·) :=
      RedisClient.only_incrementIncident (Cmd.ticketless ·) rfl rfl rfl fun _ _ => rfl
    refine (follows_of_ticketless hincr q).bind fun x q' _ => ?_
    rcases x with err | y
    · trivial
    · show Follows _ _ (if y.1 < cfg.failureThreshold then _ else _) _
      split
      · trivial
      · refine ⟨trivial, fun z _ => ?_⟩
        rcases z with err | _ | _
        · trivial
        · trivial
        · exact follows_tickets_alertDown hjob
  have hbody : (ResultProcessor.handleFailureBody cfg r).Follows (ticketProtocol job)
      (fun _ _ => True) .none := by
    rw [ResultProcessor.handleFailureBody]
    split
    · have hstore : (RedisClient.storeStatus r.monitorID r.status r.latencyMs r.checkedAt).Only
          (Cmd.ticketless ·) := RedisClient.only_retry_call (Cmd.ticketless ·) rfl rfl 2
      exact (follows_of_ticketless hstore .none).bind fun _ _ _ => trivial
    · have hretry : (ResultProcessor.retryPath cfg r).Only (Cmd.ticketless ·) :=
        ResultProcessor.only_retryPath (Cmd.ticketless ·) rfl rfl rfl rfl rfl fun _ => rfl
      refine (follows_of_ticketless hretry .none).bind fun x q' _ => ?_
      cases x with
      | some b => trivial
      | none => exact (hpath q').bind fun _ _ _ => trivial
  refine hbody.bind fun b q' _ => ?_
  cases b
  · trivial
  · exact (follows_of_ticketless (ticketless_scheduleMonitor _ _) q').mono fun _ _ _ => trivial

/-- The `RECOVERED` goes out with the id that the `UPDATE` has returned. -/
theorem follows_tickets_alertRecovered {id : UUID} (hjob : ∃ j, job = some (r.monitorID, j)) :
    (ResultProcessor.alertRecovered r id).Follows (ticketProtocol job) (fun _ _ => True)
      (.recovered id) := by
  rw [ResultProcessor.alertRecovered]
  split
  · refine ⟨trivial, fun z _ => ?_⟩
    rcases z with err | _ | _
    · trivial
    · trivial
    · exact ⟨⟨rfl, hjob⟩, fun _ _ => trivial⟩
  · trivial

theorem follows_tickets_handleSuccess
    (hjob : ∃ r', job = some (r.monitorID, .success r')) :
    (ResultProcessor.handleSuccess r).Follows (ticketProtocol job) (fun _ _ => True) .none := by
  have hcleanup : ∀ q, (ResultProcessor.cleanup r).Follows (ticketProtocol job)
      (fun _ _ => True) q := by
    intro q
    have honly : (ResultProcessor.cleanup r).Only (Cmd.ticketless ·) :=
      (RedisClient.only_retry_call (Cmd.ticketless ·) rfl rfl 2).bind fun _ =>
        (RedisClient.only_retry_call (Cmd.ticketless ·) rfl rfl 2).bind fun _ => trivial
    exact (follows_of_ticketless honly q).mono fun _ _ _ => trivial
  have hbody : (ResultProcessor.handleSuccessBody r).Follows (ticketProtocol job)
      (fun _ _ => True) .none := by
    have hstore : (RedisClient.storeStatus r.monitorID r.status r.latencyMs r.checkedAt).Only
        (Cmd.ticketless ·) := RedisClient.only_retry_call (Cmd.ticketless ·) rfl rfl 2
    have hget : (RedisClient.getIncident r.monitorID).Only (Cmd.ticketless ·) :=
      RedisClient.only_getIncident (Cmd.ticketless ·) rfl
    refine (follows_of_ticketless hstore .none).bind fun _ q _ => ?_
    refine (follows_of_ticketless hget q).bind fun x q' _ => ?_
    rcases x with err | _ | incident
    · trivial
    · trivial
    · show Follows _ _ (if incident.dbIncident = some true then _ else _) _
      split
      · obtain ⟨r', hjob⟩ := hjob
        refine ⟨trivial, fun now _ => ⟨Or.inl ⟨r', hjob⟩, fun y _ => ?_⟩⟩
        rcases y with err | id
        · cases err with
          | noRows => exact hcleanup _
          | constraint | unavailable | canceled => trivial
        · have hnext : ∀ q, (ticketProtocol job).next q
              ⟨.sql (.closeMonitorIncident r.monitorID now), .ok id⟩ = .recovered id :=
            fun q => if_pos (by rw [hjob]; rfl)
          have htail : (ResultProcessor.alertRecovered r id >>= fun _ => ResultProcessor.cleanup r :
              Prog Unit).Follows (ticketProtocol job) (fun _ _ => True) (.recovered id) :=
            (follows_tickets_alertRecovered ⟨_, hjob⟩).bind fun _ q'' _ => hcleanup q''
          rw [hnext]
          exact htail
      · exact hcleanup q'
  refine hbody.bind fun _ q' _ => ?_
  exact (follows_of_ticketless (ticketless_scheduleMonitor _ _) q').mono fun _ _ _ => trivial

/-- A request closes the incident of its monitor, and sends nothing. -/
theorem follows_tickets_updateMonitorStatus {team m : UUID} {enable : Bool}
    (hjob : ∃ team enable, job = some (m, .request team enable)) :
    (MonitorService.updateMonitorStatus team m enable).Follows (ticketProtocol job)
      (fun _ _ => True) .none := by
  have honly : (MonitorService.updateMonitorStatus team m enable).Only fun c =>
      c.ticketless ∨ ∃ t, c = .sql (.closeMonitorIncident m t) :=
    MonitorService.only_updateMonitorStatus _ (Or.inl rfl) (Or.inl rfl) (Or.inl rfl) (Or.inl rfl)
      (fun _ _ => Or.inl rfl) (fun t => Or.inr ⟨t, rfl⟩) (Or.inl rfl) (Or.inl rfl) (Or.inl rfl)
      (Or.inl rfl)
  refine honly.follows_of_keeps (J := fun _ => True) (fun c q hc _ => ⟨?_, fun _ _ => trivial⟩)
    trivial
  obtain hc | ⟨t, rfl⟩ := hc
  · exact Cmd.ticketless_allowed hc q
  · exact Or.inr hjob

end Follows

theorem follows_tickets_job (cfg : ResultProcessorConfig) (m : UUID) (j : Job) :
    (j.prog cfg m).Follows (ticketProtocol (some (m, j))) (fun _ _ => True) .none := by
  cases j with
  | failure r => exact follows_tickets_handleFailure cfg ⟨r, rfl⟩
  | success r => exact follows_tickets_handleSuccess ⟨r, rfl⟩
  | request team enable =>
    exact (follows_tickets_updateMonitorStatus ⟨team, enable, rfl⟩).bind fun _ _ _ => trivial

/-- The protocol of each job. -/
def ticketProtocols (jobs : List (UUID × Job)) (i : ℕ) : Protocol Cmd Cmd.Resp Ticket :=
  ticketProtocol jobs[i]?

/-- The jobs about to start. -/
def startJobs (cfg : ResultProcessorConfig) (w : World) (jobs : List (UUID × Job)) :
    Pool Cmd Cmd.Resp Unit World :=
  Pool.start w (jobs.map fun x => x.2.prog cfg x.1)

theorem obeys_startJobs (cfg : ResultProcessorConfig) (w : World) (jobs : List (UUID × Job)) :
    Pool.Obeys (ticketProtocols jobs) (startJobs cfg w jobs) := by
  refine Pool.obeys_start fun i p hp => ?_
  rw [List.getElem?_map] at hp
  obtain ⟨x, hx, rfl⟩ := Option.map_eq_some_iff.mp hp
  rw [ticketProtocols, hx]
  exact follows_tickets_job cfg x.1 x.2

/-! ## What a call can do -/

/-- What the call `e` of a job holding the ticket `q` does to the world, and the ticket the
job holds then. -/
inductive TicketStep (job : Option (UUID × Job)) (q : Ticket) (w : World) (e : Call) (w' : World) :
    Ticket → Prop
  /-- Nothing that matters here. -/
  | quiet (hrows : w'.db.incidents = w.db.incidents) (hid : w.db.nextID ≤ w'.db.nextID)
      (hsent : w'.sent = w.sent) : TicketStep job q w e w' q
  /-- A row is inserted. -/
  | opened (row : IncidentRow) (hrow : row.id = w.db.nextID)
      (hrows : w'.db.incidents = w.db.incidents ++ [row]) (hid : w'.db.nextID = w.db.nextID + 1)
      (hsent : w'.sent = w.sent) : TicketStep job q w e w' (.down row.id)
  /-- The open rows of a monitor are closed, and the id of one of them is returned. -/
  | closed (m : UUID) (now : Time) (row : IncidentRow)
      (he : e = ⟨.sql (.closeMonitorIncident m now), .ok row.id⟩)
      (hrow : row ∈ w.db.openIncidents m)
      (hrows : w'.db.incidents = w.db.incidents.map (·.close m now.micros))
      (hid : w'.db.nextID = w.db.nextID) (hsent : w'.sent = w.sent) :
      TicketStep job q w e w' (if job.any fun x => x.2.recovers then .recovered row.id else q)
  /-- An alert is sent for the ticket. -/
  | sent (ev : AlertEvent) (he : e.cmd = .send ev) (hev : q = ev.ticket) (hdb : w'.db = w.db)
      (hsent : w'.sent = w.sent ++ [ev]) : TicketStep job q w e w' .none

/-- The queries that touch no incident, and the ids they leave. -/
theorem DB.exec_of_ticketless {query : Query} (hq : (Cmd.sql query).ticketless) (now : Time)
    (d : DB) : (d.exec now query).2.incidents = d.incidents ∧
      d.nextID ≤ (d.exec now query).2.nextID := by
  cases query with
  | createMonitorIncident | closeMonitorIncident | deleteMonitor => cases hq
  | createMonitor data channels =>
    simp only [DB.exec]
    split
    · exact ⟨rfl, Nat.le_succ _⟩
    · exact ⟨rfl, Nat.le_refl _⟩
  | getMonitorByID | getMonitorByTeamID =>
    simp only [DB.exec]
    split <;> exact ⟨rfl, Nat.le_refl _⟩
  | _ => exact ⟨rfl, Nat.le_refl _⟩

/-- **A call of a job does one of these things.** -/
theorem ticketStep_of_live {e : Call} (h : World.Live w e.cmd e.resp w')
    (hallows : (ticketProtocol job).allows q e.cmd) :
    TicketStep job q w e w' ((ticketProtocol job).next q e) := by
  obtain ⟨c, r⟩ := e
  by_cases hc : c.ticketless
  · rw [Cmd.ticketless_next hc]
    obtain ⟨ks, rfl | ⟨c, rfl, rfl⟩ | ⟨query, now, rfl, rfl⟩ | ⟨ev, rfl, rfl⟩⟩ :=
      World.live_cases h
    · exact .quiet rfl (Nat.le_refl _) rfl
    · exact .quiet rfl (Nat.le_refl _) rfl
    · obtain ⟨hrows, hid⟩ := DB.exec_of_ticketless hc now w.db
      exact .quiet hrows hid rfl
    · cases hc
  · cases c with
    | timeNow | ctxDone | redis c | offer job => exact absurd rfl hc
    | send ev =>
      obtain ⟨ks, rfl⟩ := World.live_send h
      exact .sent ev rfl hallows.1 rfl rfl
    | sql query =>
      cases query with
      | createMonitorIncident m alerted status latency t =>
        obtain ⟨err, rfl, -, hw⟩ | ⟨rfl, hw⟩ := live_createMonitorIncident (m := m) h
        · have hdb : w'.db = w.db := congrArg Outage.db hw
          have hsent : w'.sent = w.sent := congrArg Outage.sent hw
          exact .quiet (by rw [hdb]) (by rw [hdb]) hsent
        · have hdb := congrArg Outage.db hw
          exact .opened ⟨w.db.nextID, m, t.micros, none, alerted, status, latency⟩ rfl
            (congrArg DB.incidents hdb) (congrArg DB.nextID hdb) (congrArg Outage.sent hw)
      | closeMonitorIncident m now =>
        obtain ⟨err, rfl, -, hw⟩ | ⟨rfl, -, hw⟩ | ⟨row, rows, hopen, rfl, hw⟩ :=
          live_closeMonitorIncident h
        · have hdb : w'.db = w.db := congrArg Outage.db hw
          have hsent : w'.sent = w.sent := congrArg Outage.sent hw
          exact .quiet (by rw [hdb]) (by rw [hdb]) hsent
        · have hdb : w'.db = w.db := congrArg Outage.db hw
          have hsent : w'.sent = w.sent := congrArg Outage.sent hw
          exact .quiet (by rw [hdb]) (by rw [hdb]) hsent
        · have hdb : w'.db = { w.db with
              incidents := w.db.incidents.map (·.close m now.micros) } := congrArg Outage.db hw
          have hrow : row ∈ w.db.openIncidents m := by
            rw [hopen]
            exact List.mem_cons_self
          have hid : w'.db.nextID = w.db.nextID := by rw [hdb]
          exact .closed m now row rfl hrow (congrArg DB.incidents hdb) hid (congrArg Outage.sent hw)
      | deleteMonitor => exact hallows.elim
      | _ => exact absurd rfl hc

/-! ## The tickets of a run -/

/-- The alerts sent since the run began. -/
def World.sentSince (w₀ w : World) : List AlertEvent := w.sent.drop w₀.sent.length

/-- The tickets given out since the run began: used up, and held. -/
def issued (w₀ w : World) (qs : List Ticket) : List Ticket :=
  (w₀.sentSince w).map AlertEvent.ticket ++ qs

/-- Ids of incidents are keys, and the next one is new. -/
def DB.IncidentKeyed (d : DB) : Prop :=
  (d.incidents.map IncidentRow.id).Nodup ∧ ∀ row ∈ d.incidents, row.id < d.nextID

/-- **The tickets are right.**  Each was given out once, its incident is known, and a
`RECOVERED` is for a row that is closed. -/
structure Honest (w₀ w : World) (qs : List Ticket) : Prop where
  grown : w₀.sent <+: w.sent
  keyed : w.db.IncidentKeyed
  once : ∀ t, t ≠ .none → (issued w₀ w qs).count t ≤ 1
  down : ∀ id, .down id ∈ issued w₀ w qs → id < w.db.nextID
  recovered : ∀ id, .recovered id ∈ issued w₀ w qs →
    id < w.db.nextID ∧ ∀ row ∈ w.db.incidents, row.id = id → row.endTime ≠ none

section Tickets

variable {e : Call} {q' : Ticket} {qs : List Ticket} {i : ℕ} {p p' : Pool Cmd Cmd.Resp Unit World}
  {jobs : List (UUID × Job)} {cfg : ResultProcessorConfig}

theorem sentSince_self (w : World) : w.sentSince w = [] := List.drop_length

theorem sentSince_of_sent (h : w'.sent = w.sent) : w₀.sentSince w' = w₀.sentSince w := by
  rw [World.sentSince, World.sentSince, h]

theorem sentSince_append {ev : AlertEvent} (hgrown : w₀.sent <+: w.sent)
    (h : w'.sent = w.sent ++ [ev]) : w₀.sentSince w' = w₀.sentSince w ++ [ev] := by
  rw [World.sentSince, World.sentSince, h, List.drop_append_of_le_length hgrown.length_le]

/-- **A call gives out one ticket at most**, the one its job holds then. -/
theorem TicketStep.count_issued (h : TicketStep job q w e w' q') (hgrown : w₀.sent <+: w.sent)
    (hq : qs[i]? = some q) {t : Ticket} (ht : t ≠ .none) :
    (issued w₀ w' (qs.set i q')).count t ≤
      (issued w₀ w qs).count t + if q' = t ∧ q' ≠ q then 1 else 0 := by
  have hmove := Pool.count_set_add hq t q'
  -- unless an alert is sent, the tickets used up are the same
  have hheld : w'.sent = w.sent → (issued w₀ w' (qs.set i q')).count t ≤
      (issued w₀ w qs).count t + if q' = t ∧ q' ≠ q then 1 else 0 := by
    intro hsent
    rw [issued, issued, sentSince_of_sent hsent, List.count_append, List.count_append]
    by_cases hsame : q' = q
    · rw [hsame, Pool.set_of_getElem? hq]
      exact Nat.le_add_right _ _
    · by_cases hqt : q' = t
      · rw [if_pos ⟨hqt, hsame⟩]
        rw [if_pos hqt] at hmove
        omega
      · rw [if_neg fun h => hqt h.1]
        rw [if_neg hqt] at hmove
        omega
  cases h with
  | quiet _ _ hsent => exact hheld hsent
  | opened _ _ _ _ hsent => exact hheld hsent
  | closed _ _ _ _ _ _ _ hsent => exact hheld hsent
  | sent ev _ hev _ hsent =>
    rw [issued, issued, sentSince_append hgrown hsent, List.map_append, List.map_singleton,
      List.count_append, List.count_append, List.count_append, List.count_singleton, ← hev]
    rw [if_neg (Ne.symm ht)] at hmove
    simp only [beq_iff_eq]
    omega

/-- What is new among the tickets is what the job holds now and did not hold before. -/
theorem TicketStep.mem_issued (h : TicketStep job q w e w' q') (hgrown : w₀.sent <+: w.sent)
    (hq : qs[i]? = some q) {t : Ticket} (ht : t ≠ .none) (hmem : t ∈ issued w₀ w' (qs.set i q')) :
    t ∈ issued w₀ w qs ∨ q' = t ∧ q' ≠ q := by
  by_contra hnot
  obtain ⟨hold, hnew⟩ := not_or.mp hnot
  have hle := h.count_issued hgrown hq ht
  rw [if_neg hnew, List.count_eq_zero.mpr hold] at hle
  exact absurd (List.count_pos_iff.mpr hmem) (by omega)

/-- **A ticket that is given out is new**: the id of a `DOWN` is new in the table, and the
row of a `RECOVERED` was open until now. -/
theorem TicketStep.unissued (h : TicketStep job q w e w' q') (hw : Honest w₀ w qs)
    (hne : q' ≠ q) : q' = .none ∨ q' ∉ issued w₀ w qs := by
  cases h with
  | quiet => exact absurd rfl hne
  | sent => exact Or.inl rfl
  | opened row hrow =>
    refine Or.inr fun hmem => ?_
    have hlt := hw.down row.id hmem
    rw [hrow] at hlt
    exact lt_irrefl _ hlt
  | closed m now row he hrow =>
    refine Or.inr fun hmem => ?_
    by_cases hjob : job.any fun x => x.2.recovers
    · rw [if_pos hjob] at hmem
      obtain ⟨hin, hopen⟩ := List.mem_filter.mp hrow
      rw [IncidentRow.openFor, Bool.and_eq_true, Option.isNone_iff_eq_none] at hopen
      exact (hw.recovered row.id hmem).2 row hin rfl hopen.2
    · exact hne (if_neg hjob)

/-- The rows after a call: a known row that was closed still is. -/
theorem TicketStep.closed_rows (h : TicketStep job q w e w' q') {id : UUID}
    (hid : id < w.db.nextID) (hclosed : ∀ row ∈ w.db.incidents, row.id = id → row.endTime ≠ none) :
    id < w'.db.nextID ∧ ∀ row ∈ w'.db.incidents, row.id = id → row.endTime ≠ none := by
  cases h with
  | quiet hrows hle =>
    rw [hrows]
    exact ⟨hid.trans_le hle, hclosed⟩
  | opened row hrow hrows hnext =>
    rw [hrows, hnext]
    refine ⟨hid.trans (Nat.lt_succ_self _), fun x hx hxid => ?_⟩
    rcases List.mem_append.mp hx with hx | hx
    · exact hclosed x hx hxid
    · rw [List.mem_singleton.mp hx, hrow] at hxid
      exact absurd hid (by rw [hxid]; exact lt_irrefl _)
  | closed m now row he hrow hrows hnext =>
    rw [hrows, hnext]
    refine ⟨hid, fun x hx hxid => ?_⟩
    obtain ⟨y, hy, rfl⟩ := List.mem_map.mp hx
    rw [IncidentRow.close_id] at hxid
    have hy' := hclosed y hy hxid
    rw [IncidentRow.close]
    split
    · exact Option.some_ne_none _
    · exact hy'
  | sent ev he hev hdb =>
    rw [hdb]
    exact ⟨hid, hclosed⟩

theorem TicketStep.keyed (h : TicketStep job q w e w' q') (hw : w.db.IncidentKeyed) :
    w'.db.IncidentKeyed ∧ w.db.nextID ≤ w'.db.nextID := by
  obtain ⟨hnodup, hnew⟩ := hw
  cases h with
  | quiet hrows hle =>
    rw [DB.IncidentKeyed, hrows]
    exact ⟨⟨hnodup, fun row hrow => (hnew row hrow).trans_le hle⟩, hle⟩
  | opened row hrow hrows hnext =>
    rw [DB.IncidentKeyed, hrows, hnext]
    refine ⟨⟨?_, fun x hx => ?_⟩, Nat.le_succ _⟩
    · rw [List.map_append, List.map_singleton, ← List.concat_eq_append, List.nodup_concat]
      refine ⟨fun hmem => ?_, hnodup⟩
      obtain ⟨y, hy, hyid⟩ := List.mem_map.mp hmem
      have hlt := hnew y hy
      rw [hyid, hrow] at hlt
      exact lt_irrefl _ hlt
    · rcases List.mem_append.mp hx with hx | hx
      · exact (hnew x hx).trans (Nat.lt_succ_self _)
      · rw [List.mem_singleton.mp hx, hrow]
        exact Nat.lt_succ_self _
  | closed m now row he hrow hrows hnext =>
    rw [DB.IncidentKeyed, hrows, hnext]
    refine ⟨⟨?_, fun x hx => ?_⟩, Nat.le_refl _⟩
    · rw [List.map_map]
      simpa only [Function.comp_def, IncidentRow.close_id] using hnodup
    · obtain ⟨y, hy, rfl⟩ := List.mem_map.mp hx
      rw [IncidentRow.close_id]
      exact hnew y hy
  | sent ev he hev hdb =>
    rw [hdb]
    exact ⟨⟨hnodup, hnew⟩, Nat.le_refl _⟩

/-- **The ticket for a `RECOVERED`** goes to a `handleSuccess` that has just closed an open
row with this id. -/
theorem TicketStep.recovered (h : TicketStep job q w e w' q') {id : UUID}
    (hid : q' = .recovered id) (hne : q' ≠ q) :
    (job.any fun x => x.2.recovers) = true ∧ ∃ m now row, row.id = id ∧
      e = ⟨.sql (.closeMonitorIncident m now), .ok id⟩ ∧ row ∈ w.db.openIncidents m ∧
      w'.db.incidents = w.db.incidents.map (·.close m now.micros) ∧
      w'.db.nextID = w.db.nextID := by
  cases h with
  | quiet => exact absurd rfl hne
  | opened => cases hid
  | sent => cases hid
  | closed m now row he hrow hrows hnext =>
    by_cases hjob : job.any fun x => x.2.recovers
    · rw [if_pos hjob] at hid
      obtain rfl := Ticket.recovered.inj hid
      exact ⟨hjob, m, now, row, rfl, he, hrow, hrows, hnext⟩
    · exact absurd (if_neg hjob) hne

theorem mem_openIncidents {d : DB} {m : UUID} {row : IncidentRow} (h : row ∈ d.openIncidents m) :
    row ∈ d.incidents ∧ row.monitorID = m ∧ row.endTime = none := by
  obtain ⟨hin, hopen⟩ := List.mem_filter.mp h
  rw [IncidentRow.openFor, Bool.and_eq_true, decide_eq_true_eq, Option.isNone_iff_eq_none] at hopen
  exact ⟨hin, hopen⟩

/-- An open row after its monitor's rows are closed. -/
theorem close_of_mem_openIncidents {d : DB} {m : UUID} {row : IncidentRow} {t : ℤ}
    (h : row ∈ d.openIncidents m) : row.close m t = { row with endTime := some t } :=
  if_pos (List.mem_filter.mp h).2

theorem TicketStep.grown (h : TicketStep job q w e w' q') : w.sent <+: w'.sent := by
  cases h with
  | quiet _ _ hsent | opened _ _ _ _ hsent | closed _ _ _ _ _ _ _ hsent =>
    exact hsent.symm ▸ List.prefix_rfl
  | sent ev _ _ _ hsent =>
    rw [hsent]
    exact List.prefix_append _ _

/-- **One step.**  A ticket is given out with a new row, or when an open one is closed, and neither
can happen to a row twice. -/
theorem honest_step (h : TicketStep job q w e w' q') (hq : qs[i]? = some q)
    (hw : Honest w₀ w qs) : Honest w₀ w' (qs.set i q') := by
  obtain ⟨hkeyed, hnext⟩ := h.keyed hw.keyed
  refine ⟨hw.grown.trans h.grown, hkeyed, fun t ht => ?_, fun id hid => ?_, fun id hid => ?_⟩
  · have hle := h.count_issued hw.grown hq ht
    by_cases hnew : q' = t ∧ q' ≠ q
    · obtain ⟨rfl, hne⟩ := hnew
      have hzero := List.count_eq_zero.mpr ((h.unissued hw hne).resolve_left ht)
      rw [hzero, if_pos ⟨rfl, hne⟩] at hle
      exact hle
    · rw [if_neg hnew] at hle
      exact hle.trans (hw.once t ht)
  · obtain hold | ⟨hid, hne⟩ := h.mem_issued (t := .down id) hw.grown hq nofun hid
    · exact (hw.down id hold).trans_le hnext
    · cases h with
      | quiet => exact absurd rfl hne
      | sent => cases hid
      | opened row hrow hrows hnext' =>
        obtain rfl := Ticket.down.inj hid
        rw [hrow, hnext']
        exact Nat.lt_succ_self _
      | closed =>
        split at hid
        · cases hid
        · rename_i hjob
          exact absurd (if_neg hjob) hne
  · obtain hold | ⟨hid, hne⟩ := h.mem_issued (t := .recovered id) hw.grown hq nofun hid
    · exact h.closed_rows (hw.recovered id hold).1 (hw.recovered id hold).2
    · obtain ⟨-, m, now, row, rfl, -, hrow, hrows, hnext'⟩ := h.recovered hid hne
      obtain ⟨hin, -, -⟩ := mem_openIncidents hrow
      refine ⟨?_, fun x hx hxid => ?_⟩
      · rw [hnext']
        exact hw.keyed.2 row hin
      · rw [hrows] at hx
        obtain ⟨y, hy, rfl⟩ := List.mem_map.mp hx
        rw [IncidentRow.close_id] at hxid
        -- ids are keys, so it is the row that was closed
        obtain rfl := List.inj_on_of_nodup_map hw.keyed.1 hy hin hxid
        rw [close_of_mem_openIncidents hrow]
        exact Option.some_ne_none _

/-- **The invariant rule for jobs.**  It is enough to look at one call of one job and at what it
makes of the ticket of that job; the protocols do the rest. -/
theorem jobs_invariant {I : World → List Ticket → Prop}
    (h : Pool.Reaches World.Live (fun _ _ _ => True) p p')
    (hp : Pool.Obeys (ticketProtocols jobs) p) (h₀ : I p.shared (p.stages (ticketProtocols jobs)))
    (hstep : ∀ {i : ℕ} {qs : List Ticket} {q q' : Ticket} {e : Call} {w w' : World},
      TicketStep jobs[i]? q w e w' q' → qs[i]? = some q → I w qs → I w' (qs.set i q')) :
    Pool.Obeys (ticketProtocols jobs) p' ∧ I p'.shared (p'.stages (ticketProtocols jobs)) :=
  h.invariant_obeys hp h₀ (fun _ _ _ _ _ _ => trivial) fun _ _ _ _ _ _ hs hq hallows hI =>
    hstep (ticketStep_of_live hs hallows) hq hI

/-- **The tickets of every run are right.**  They are at the beginning, when nobody has done
anything, and every step keeps them so. -/
theorem honest_of_reaches (hw : w.db.IncidentKeyed)
    (h : Pool.Reaches World.Live (fun _ _ _ => True) (startJobs cfg w jobs) p) :
    Pool.Obeys (ticketProtocols jobs) p ∧
      Honest w p.shared (p.stages (ticketProtocols jobs)) := by
  have hnone : ∀ t ∈ issued w w ((startJobs cfg w jobs).stages (ticketProtocols jobs)),
      t = .none := by
    intro t ht
    rw [issued, sentSince_self] at ht
    obtain ⟨i, rfl⟩ := Pool.mem_stages_start ht
    rfl
  refine jobs_invariant (I := Honest w) h (obeys_startJobs cfg w jobs) ?_
    fun hs hq hI => honest_step hs hq hI
  refine ⟨List.prefix_rfl, hw, fun t ht => ?_, fun id hid => ?_, fun id hid => ?_⟩
  · exact (List.count_eq_zero.mpr fun hmem => ht (hnone t hmem)).le.trans (Nat.zero_le 1)
  · cases hnone _ hid
  · cases hnone _ hid

/-! ## What a run shows -/

/-- One pool of jobs leads to another: whoever moves, and whichever calls fail. -/
abbrev Leads (p p' : Pool Cmd Cmd.Resp Unit World) : Prop :=
  Pool.Reaches World.Live (fun _ _ _ => True) p p'

/-- On the way from `p₀` to `p`, job `i` closed an open row of the monitor and then sent the
alert with its id.  The row still has the end time it got there. -/
def Recovery (p₀ p : Pool Cmd Cmd.Resp Unit World) (i : ℕ) (ev : AlertEvent) : Prop :=
  ∃ now row q₁ q₂ p₁ p₂, Leads p₀ q₁ ∧ row ∈ q₁.shared.db.openIncidents ev.monitorID ∧
    row.id = ev.incidentID ∧
    Pool.Step World.Live q₁ i
      ⟨.sql (.closeMonitorIncident ev.monitorID now), .ok ev.incidentID⟩ q₂ ∧
    Leads q₂ p₁ ∧ Pool.Step World.Live p₁ i ⟨.send ev, ()⟩ p₂ ∧ Leads p₂ p ∧
    { row with endTime := some now.micros } ∈ p.shared.db.incidents

/-- On the way from `p₀` to `p`, a call of a request closed the incident: its row was open
before the call and not after it. -/
def ClosedByRequest (jobs : List (UUID × Job)) (p₀ p : Pool Cmd Cmd.Resp Unit World)
    (id : UUID) : Prop :=
  ∃ i m team enable q e q', jobs[i]? = some (m, .request team enable) ∧ Leads p₀ q ∧
    Pool.Step World.Live q i e q' ∧ Leads q' p ∧
    (∃ row ∈ q.shared.db.incidents, row.id = id ∧ row.endTime = none) ∧
    ∀ row ∈ q'.shared.db.incidents, row.id = id → row.endTime ≠ none

/-- A new alert was sent for the ticket that its sender held. -/
theorem TicketStep.sent_of_mem (h : TicketStep job q w e w' q') (hgrown : w₀.sent <+: w.sent)
    {ev : AlertEvent} (hnot : ev ∉ w₀.sentSince w) (hmem : ev ∈ w₀.sentSince w') :
    e.cmd = .send ev ∧ q = ev.ticket := by
  cases h with
  | quiet _ _ hsent | opened _ _ _ _ hsent | closed _ _ _ _ _ _ _ hsent =>
    rw [sentSince_of_sent hsent] at hmem
    exact absurd hmem hnot
  | sent ev' he hev hdb hsent =>
    rw [sentSince_append hgrown hsent] at hmem
    rcases List.mem_append.mp hmem with hmem | hmem
    · exact absurd hmem hnot
    · rw [List.mem_singleton.mp hmem]
      exact ⟨he, hev⟩

theorem TicketStep.mem_rows (h : TicketStep job q w e w' q') {row : IncidentRow}
    (hrow : row ∈ w.db.incidents) (hclosed : row.endTime ≠ none) : row ∈ w'.db.incidents := by
  cases h with
  | quiet hrows =>
    rw [hrows]
    exact hrow
  | opened _ _ hrows =>
    rw [hrows]
    exact List.mem_append_left _ hrow
  | closed m now _ _ _ hrows =>
    have hsame : row.close m now.micros = row := by
      refine if_neg fun hopen => hclosed ?_
      rw [IncidentRow.openFor, Bool.and_eq_true, Option.isNone_iff_eq_none] at hopen
      exact hopen.2
    rw [hrows]
    exact List.mem_map.mpr ⟨row, hrow, hsame⟩
  | sent _ _ _ hdb =>
    rw [hdb]
    exact hrow

/-- **At most one alert of each type for each incident.** -/
theorem alerts_at_most_once (hw : w.db.IncidentKeyed) (h : Leads (startJobs cfg w jobs) p)
    (type : AlertType) (id : UUID) :
    (w.sentSince p.shared).countP (fun ev => ev.type = type ∧ ev.incidentID = id) ≤ 1 := by
  obtain ⟨-, hhonest⟩ := honest_of_reaches hw h
  have hsame : (w.sentSince p.shared).countP (fun ev => ev.type = type ∧ ev.incidentID = id) =
      ((w.sentSince p.shared).map AlertEvent.ticket).count (type.ticket id) := by
    rw [List.count, List.countP_map]
    refine List.countP_congr fun ev _ => ?_
    rw [Function.comp_apply, beq_iff_eq, decide_eq_true_eq]
    exact AlertType.ticket_inj.symm
  have honce := hhonest.once (type.ticket id) (type.ticket_ne_none id)
  rw [issued, List.count_append] at honce
  omega

/-- **A `RECOVERED` comes from the run that closed its row.** -/
theorem recovery_of_sent (hw : w.db.IncidentKeyed) (h : Leads (startJobs cfg w jobs) p)
    {ev : AlertEvent} (hev : ev ∈ w.sentSince p.shared) (htype : ev.type = .recovered) :
    ∃ i r, jobs[i]? = some (ev.monitorID, .success r) ∧
      Recovery (startJobs cfg w jobs) p i ev := by
  -- the step that sent it
  have hunsent : ev ∉ w.sentSince (startJobs cfg w jobs).shared := by
    rw [show (startJobs cfg w jobs).shared = w from rfl, sentSince_self]
    exact List.not_mem_nil
  obtain ⟨p₁, i, e, p₂, hp₁, hs, -, hp₂, hbefore, hafter⟩ :=
    h.exists_step (T := fun p => ev ∈ w.sentSince p.shared) hunsent hev
  obtain ⟨hobeys, hhonest⟩ := honest_of_reaches hw hp₁
  obtain ⟨-, q, hq, hallows, -⟩ := Pool.stages_step hs hobeys trivial
  obtain ⟨hcmd, hticket⟩ :=
    (ticketStep_of_live hs.serves hallows).sent_of_mem hhonest.grown hbefore hafter
  obtain ⟨c, u⟩ := e
  obtain rfl : c = .send ev := hcmd
  obtain ⟨-, j, hjob⟩ := hallows
  have hholds : (p₁.stages (ticketProtocols jobs))[i]? = some (.recovered ev.incidentID) := by
    rw [hq, hticket, AlertEvent.ticket, htype]
    rfl
  -- the step that gave it its ticket
  have hstart : ((startJobs cfg w jobs).stages (ticketProtocols jobs))[i]? ≠
      some (.recovered ev.incidentID) := by
    intro hmem
    obtain ⟨k, hk⟩ := Pool.mem_stages_start (List.mem_of_getElem? hmem)
    cases hk
  obtain ⟨q₁, i', e, q₂, hq₁, hs', -, hq₂, hnone, hsome⟩ := hp₁.exists_step
    (T := fun p => (p.stages (ticketProtocols jobs))[i]? = some (.recovered ev.incidentID))
    hstart hholds
  obtain ⟨hobeys₁, hhonest₁⟩ := honest_of_reaches hw hq₁
  obtain ⟨hobeys₂, x, hx, hallows', hstages⟩ := Pool.stages_step hs' hobeys₁ trivial
  have hi : i' = i := by
    by_contra hne
    rw [hstages, List.getElem?_set_ne hne] at hsome
    exact hnone hsome
  subst hi
  have hnext : (ticketProtocols jobs i').next x e = .recovered ev.incidentID := by
    rw [hstages, List.getElem?_set_self' , hx] at hsome
    exact Option.some.inj hsome
  have hmoved : (ticketProtocols jobs i').next x e ≠ x := by
    rw [hnext]
    rintro rfl
    exact hnone hx
  obtain ⟨hrecovers, m, now, row, hid, rfl, hrow, hrows, -⟩ :=
    (ticketStep_of_live hs'.serves hallows').recovered hnext hmoved
  obtain ⟨r, hr⟩ | ⟨team, enable, hr⟩ := hallows'
  swap
  · rw [hr] at hrecovers
    cases hrecovers
  obtain rfl : m = ev.monitorID := congrArg Prod.fst (Option.some.inj (hr.symm.trans hjob))
  refine ⟨i', r, hr, now, row, q₁, q₂, p₁, p₂, hq₁, hrow, hid, hs', hq₂, hs, hp₂, ?_⟩
  -- no call changes the row any more
  have hclosed : { row with endTime := some now.micros } ∈ q₂.shared.db.incidents := by
    rw [hrows, ← close_of_mem_openIncidents hrow]
    exact List.mem_map.mpr ⟨row, (mem_openIncidents hrow).1, rfl⟩
  exact (jobs_invariant (I := fun w _ => { row with endTime := some now.micros } ∈ w.db.incidents)
    (hq₂.trans (Relation.ReflTransGen.head ⟨i', _, hs, trivial⟩ hp₂)) hobeys₂ hclosed
    fun hstep _ hmem => hstep.mem_rows hmem (Option.some_ne_none _)).2

/-- **An incident closed by a request gets no `RECOVERED`.** -/
theorem no_recovery_of_request (hw : w.db.IncidentKeyed) {id : UUID}
    (h : ClosedByRequest jobs (startJobs cfg w jobs) p id) {ev : AlertEvent}
    (hev : ev ∈ w.sentSince p.shared) (htype : ev.type = .recovered) : ev.incidentID ≠ id := by
  obtain ⟨i, m, team, enable, q, e, q', hjob, hq, hs, hq', ⟨row, hrow, rfl, hopen⟩, hclosed⟩ := h
  obtain ⟨hobeys, hhonest⟩ := honest_of_reaches hw hq
  obtain ⟨hobeys', x, hx, hallows, hstages⟩ := Pool.stages_step hs hobeys trivial
  have hstep := ticketStep_of_live hs.serves hallows
  have hunissued : .recovered row.id ∉ issued w q.shared (q.stages (ticketProtocols jobs)) :=
    fun hmem => (hhonest.recovered row.id hmem).2 row hrow rfl hopen
  have hunissued' : .recovered row.id ∉ issued w q'.shared (q'.stages (ticketProtocols jobs)) := by
    intro hmem
    rw [hstages] at hmem
    obtain hold | ⟨hid, hne⟩ :=
      hstep.mem_issued (t := .recovered row.id) hhonest.grown hx nofun hmem
    · exact hunissued hold
    · obtain ⟨hrecovers, -⟩ := hstep.recovered hid hne
      rw [hjob] at hrecovers
      cases hrecovers
  have hhonest' : Honest w q'.shared (q'.stages (ticketProtocols jobs)) := by
    rw [hstages]
    exact honest_step hstep hx hhonest
  have hlt : row.id < q'.shared.db.nextID :=
    (hhonest.keyed.2 row hrow).trans_le (hstep.keyed hhonest.keyed).2
  -- the row stays closed, so its ticket is never given out
  obtain ⟨-, -, hnever, -⟩ := jobs_invariant
    (I := fun w' qs => Honest w w' qs ∧ .recovered row.id ∉ issued w w' qs ∧
      row.id < w'.db.nextID ∧ ∀ x ∈ w'.db.incidents, x.id = row.id → x.endTime ≠ none)
    hq' hobeys' ⟨hhonest', hunissued', hlt, hclosed⟩
    fun hstep hx ⟨hhonest, hnot, hlt, hclosed⟩ => by
      refine ⟨honest_step hstep hx hhonest, fun hmem => ?_, hstep.closed_rows hlt hclosed⟩
      obtain hold | ⟨hid, hne⟩ :=
        hstep.mem_issued (t := .recovered row.id) hhonest.grown hx nofun hmem
      · exact hnot hold
      · obtain ⟨-, m, now, y, hyid, -, hy, -⟩ := hstep.recovered hid hne
        obtain ⟨hin, -, hyopen⟩ := mem_openIncidents hy
        exact hclosed y hin hyid hyopen
  intro hid
  refine hnever (List.mem_append_left _ (List.mem_map.mpr ⟨ev, hev, ?_⟩))
  rw [AlertEvent.ticket, htype, hid]
  rfl

/-- **Each incident alerts at most once each way**, over every run of any jobs of any monitors in
which any calls fail: the row is inserted by one job, and closed by one, and only these two alert.
-/
theorem alerts_once_each_way (hw : w.db.IncidentKeyed) (h : Leads (startJobs cfg w jobs) p) :
    (∀ type id,
      (w.sentSince p.shared).countP (fun ev => ev.type = type ∧ ev.incidentID = id) ≤ 1) ∧
    (∀ ev ∈ w.sentSince p.shared, ev.type = .recovered →
      ∃ i r, jobs[i]? = some (ev.monitorID, .success r) ∧
        Recovery (startJobs cfg w jobs) p i ev) ∧
    ∀ id, ClosedByRequest jobs (startJobs cfg w jobs) p id →
      ∀ ev ∈ w.sentSince p.shared, ev.type = .recovered → ev.incidentID ≠ id :=
  ⟨alerts_at_most_once hw h, fun _ hev htype => recovery_of_sent hw h hev htype,
    fun _ hreq _ hev htype => no_recovery_of_request hw hreq hev htype⟩

end Tickets

theorem alerts_once_each_way_sample : ∃ p : Pool Cmd Cmd.Resp Unit World,
    p.Finished ∧ (∃ ev ∈ Sample.world.sentSince p.shared, ev.type = .recovered) ∧
      (∀ type id, (Sample.world.sentSince p.shared).countP
        (fun ev => ev.type = type ∧ ev.incidentID = id) ≤ 1) ∧
      ∀ ev ∈ Sample.world.sentSince p.shared, ev.type = .recovered →
        ∃ i r, (Sample.jobs.map ((1 : UUID), ·))[i]? = some (ev.monitorID, .success r) ∧
          Recovery (startJobs Sample.impatient Sample.world (Sample.jobs.map (1, ·))) p i ev := by
  obtain ⟨p, hreach, hcheck⟩ := Pool.exists_reaches_of_play (World.exec false)
    (fun _ _ _ => true) Sample.inOrder
    (startJobs Sample.impatient Sample.world (Sample.jobs.map (1, ·)))
    (fun p => (p.threads.all fun t => t.todo.returned) &&
      (Sample.world.sentSince p.shared).any (·.type = .recovered)) (by decide)
  obtain ⟨hfinished, hsent⟩ := Bool.and_eq_true_iff.mp hcheck
  obtain ⟨ev, hev, htype⟩ := List.any_eq_true.mp hsent
  obtain ⟨honce, hrecovery, -⟩ := alerts_once_each_way ⟨by decide, by decide⟩
    (hreach.mono fun _ _ _ _ => trivial)
  exact ⟨p, Pool.finished_of_all hfinished, ⟨ev, hev, of_decide_eq_true htype⟩, honce, hrecovery⟩

end Sofon
