import Sofon.Quota.Bound

/-!
# An exact count

Requests one at a time, with the database available: a statement fails only when it
violates a constraint.  What a handler lets through and what the table accepts are two
sets of rules.  `CreateMonitorRequest` asks for a URL and for bounds on the interval and
the timeout; the table also bounds the length of the URL, the latency threshold and the
expected status (`Storable`).  A request between the two is counted and then refused,
and nobody counts down again.

So the count of every user stays exact (`DB.Exact`) just as long as no such request
gets as far as its `INSERT`.

* `createMonitor_db` and `deleteMonitor_db` say what a whole request does to the tables, since
  nothing comes between its statements: a create counts, and if there was a user with room it
  inserts; a delete does nothing, or takes the row out and counts its owner down.
* The `CHECK`s on the row of a validated request say no more than `Storable`
  (`check_iff_storable`).
* So a create whose user has room keeps the count exact just when the table takes the row
  (`exact_create`), and without room it changes nothing (`exact_increment`).  A delete keeps it
  exact, as the row that it removes is one of its owner (`exact_delete`).

`exact_iff_fits_of_serves` is one request from an exact state, and `exact_iff_fits` is the
induction: the count is exact after every request of a run just when every request fits.
-/

namespace Sofon

open Interleaving Program Transition

/-- The tags of `CreateMonitorRequest`, given the validator's notion of a URL. -/
def CreateMonitor.validated (isURL : String → Bool) (data : CreateMonitor) : Bool :=
  data.url ≠ "" && isURL data.url && 60 ≤ data.intervalSec && 120 ≤ data.timeoutSec

/-- The request has passed the validation of its handler. -/
def Request.Validated (isURL : String → Bool) : Request → Prop
  | create data => data.validated isURL
  | _ => True

/-- What the table asks of a row and the handler does not. -/
def CreateMonitor.Storable (data : CreateMonitor) : Prop :=
  data.url.length ≤ 2048 ∧ (∀ ms ∈ data.latencyThresholdMs, 0 ≤ ms) ∧
    ∀ status ∈ data.expectedStatus, 100 ≤ status ∧ status ≤ 599

/-- The statement failed for another reason than a constraint. -/
def Call.unanswered : Call → Bool
  | ⟨.sql _, .error err⟩ => err = .unavailable || err = .canceled
  | _ => false

/-- The database answered every statement of the trace. -/
def DBAvailable (tr : List Call) : Prop := ∀ e ∈ tr, e.unanswered = false

/-- A request that was served, with the states around it. -/
structure Served where
  before : World
  req : Request
  trace : List Call
  after : World

/-- One request, from start to end. -/
def Serves (isURL : String → Bool) (w : World) (x : Served) (w' : World) : Prop :=
  x.before = w ∧ x.after = w' ∧ x.req.Validated isURL ∧
    Exec World.Live x.req.prog w x.trace () w' ∧ DBAvailable x.trace

/-- **The count is exact**: it is the number of rows of the user. -/
def DB.Exact (d : DB) : Prop := ∀ user ∈ d.users, user.monitorsCount = d.owned user.id

/-- A request that gets as far as its `INSERT` asks for a row that the table accepts. -/
def Request.Fits (d : DB) : Request → Prop
  | create data => (∃ user ∈ d.users, user.id = data.userID ∧ user.monitorsCount < 10) →
      data.Storable
  | _ => True

instance (d : DB) : Decidable d.Exact := List.decidableBAll _ _

@[simp] theorem dbAvailable_cons {e : Call} {tr : List Call} :
    DBAvailable (e :: tr) ↔ e.unanswered = false ∧ DBAvailable tr := List.forall_mem_cons

@[simp] theorem dbAvailable_append {tr tr' : List Call} :
    DBAvailable (tr ++ tr') ↔ DBAvailable tr ∧ DBAvailable tr' := List.forall_mem_append

variable {w w' : World} {tr : List Call} {d : DB}

/-! ## What the calls do -/

/-- A statement that was answered did what the database does. -/
theorem sql_answered {q : Query} {x : Except DBError q.Result} (h : World.Live w (.sql q) x w')
    (hx : Call.unanswered ⟨.sql q, x⟩ = false) :
    ∃ now, x = (w.db.exec now q).1 ∧ w'.db = (w.db.exec now q).2 := by
  obtain ⟨ks, now, ⟨rfl, -⟩ | ⟨rfl, rfl⟩⟩ := World.live_sql h
  · cases hx
  · exact ⟨now, rfl, rfl⟩

/-- The calls that are no statements. -/
def Cmd.unstored : Cmd → Bool
  | sql _ => false
  | _ => true

theorem db_of_unstored {α : Type} {p : Prog α} {a : α} (h : Exec World.Live p w tr a w')
    (hp : p.Only (Cmd.unstored ·)) : w'.db = w.db := by
  refine h.invariant (I := fun x => x.db = w.db) (fun e he t t' hlive ht => ?_) rfl
  have hcmd := h.only hp e he
  obtain ⟨ks, rfl | ⟨c, hc, rfl⟩ | ⟨q, now, hc, rfl⟩ | ⟨ev, hc, rfl⟩⟩ := World.live_cases hlive
  · exact ht
  · exact ht
  · rw [hc] at hcmd
    cases hcmd
  · exact ht

theorem unstored_scheduleMonitor (m : UUID) (i : ℤ) :
    (MonitorService.scheduleMonitor m i).Only (Cmd.unstored ·) :=
  MonitorService.only_scheduleMonitor (Cmd.unstored ·) rfl rfl (fun _ => rfl) i

theorem unstored_disableMonitor (m : UUID) :
    (MonitorService.disableMonitor m).Only (Cmd.unstored ·) :=
  MonitorService.only_disableMonitor (Cmd.unstored ·) rfl rfl rfl rfl rfl

/-- The calls that count nothing: those without a part in the quota, and the reads. -/
def Cmd.uncounted : Cmd → Bool
  | sql (.getMonitorByTeamID ..) => true
  | c => c.unmetered

theorem DB.exec_uncounted (now : Time) {query : Query} (hq : (Cmd.sql query).uncounted) (d : DB) :
    (d.exec now query).2.users = d.users ∧ (d.exec now query).2.owners = d.owners := by
  by_cases hfree : (Cmd.sql query).unmetered
  · obtain ⟨husers, hown, -⟩ := DB.exec_unmetered now hfree d
    exact ⟨husers, hown⟩
  · cases query with
    | getMonitorByTeamID m team =>
      rw [DB.exec_getMonitorByTeamID_snd]
      exact ⟨rfl, rfl⟩
    | _ => exact absurd hq hfree

/-- Requests that count nothing leave the counts and the owners. -/
theorem meter_of_uncounted {α : Type} {p : Prog α} {a : α} (h : Exec World.Live p w tr a w')
    (hp : p.Only (Cmd.uncounted ·)) : w'.db.users = w.db.users ∧ w'.db.owners = w.db.owners := by
  refine h.invariant (I := fun x => x.db.users = w.db.users ∧ x.db.owners = w.db.owners)
    (fun e he t t' hlive ht => ?_) ⟨rfl, rfl⟩
  have hcmd := h.only hp e he
  obtain ⟨ks, rfl | ⟨c, hc, rfl⟩ | ⟨q, now, hc, rfl⟩ | ⟨ev, hc, rfl⟩⟩ := World.live_cases hlive
  · exact ht
  · exact ht
  · rw [hc] at hcmd
    obtain ⟨husers, hown⟩ := DB.exec_uncounted now hcmd t.db
    exact ⟨husers.trans ht.1, hown.trans ht.2⟩
  · exact ht

/-- Exactness is a matter of the counts and the owners. -/
theorem exact_congr {d d' : DB} (husers : d'.users = d.users) (hown : d'.owners = d.owners) :
    d'.Exact ↔ d.Exact := by
  rw [DB.Exact, DB.Exact, husers]
  exact forall₂_congr fun user _ => by rw [DB.owned_eq, DB.owned_eq, hown]

/-- **What a create does to the tables**: it counts, and if there was a user to count
it runs the `INSERT`. -/
theorem createMonitor_db {data : CreateMonitor} {x : Except AppError UUID}
    (h : Exec World.Live (MonitorService.createMonitor data) w tr x w') (hdb : DBAvailable tr) :
    ∃ now,
      (w.db.users.countP (fun row => row.id = data.userID && row.monitorsCount < 10) = 0 ∧
        w'.db = (w.db.exec now (.incrementMonitorCount data.userID)).2) ∨
      (w.db.users.countP (fun row => row.id = data.userID && row.monitorsCount < 10) ≠ 0 ∧
        ∃ now' channels, w'.db = ((w.db.exec now (.incrementMonitorCount data.userID)).2.exec now'
          (.createMonitor data channels)).2) := by
  obtain ⟨tr₁, y, w₁, tr₂, hcount, h₁, rfl⟩ := exec_bind_iff.mp h
  obtain ⟨r, w₂, tr₃, hlive, rfl, hret⟩ := exec_call_bind hcount
  obtain ⟨hdb₁, hdb₂⟩ := dbAvailable_append.mp hdb
  obtain ⟨now, rfl, hw₂⟩ := sql_answered hlive (dbAvailable_cons.mp hdb₁).1
  refine ⟨now, ?_⟩
  change Exec _ (if w.db.users.countP _ = 0 then ret _ else ret _) _ _ _ _ at hret
  split at hret
  · rename_i hnone
    obtain ⟨-, rfl, rfl⟩ := exec_ret_iff.mp hret
    obtain ⟨-, -, rfl⟩ := exec_ret_iff.mp h₁
    exact Or.inl ⟨hnone, hw₂⟩
  · rename_i hsome
    obtain ⟨-, rfl, rfl⟩ := exec_ret_iff.mp hret
    obtain ⟨tr₄, z, w₃, tr₅, hcreate, h₂, rfl⟩ := exec_bind_iff.mp h₁
    obtain ⟨r', w₄, tr₆, hinsert, rfl, hret'⟩ := exec_call_bind hcreate
    obtain ⟨hdb₃, -⟩ := dbAvailable_append.mp hdb₂
    obtain ⟨now', -, hw₄⟩ := sql_answered hinsert (dbAvailable_cons.mp hdb₃).1
    refine Or.inr ⟨hsome, now', MonitorRepository.channelsToString data.notificationChannels, ?_⟩
    rw [← hw₂, ← hw₄]
    -- what is left is no statement
    have hw₃ : w₃ = w₄ := by
      rcases r' with err | id
      · exact (exec_ret_iff.mp hret').2.2
      · exact (exec_ret_iff.mp hret').2.2
    rw [← hw₃]
    refine db_of_unstored h₂ ?_
    rcases z with err | id
    · trivial
    · exact (unstored_scheduleMonitor _ _).bind fun _ => trivial

/-- Reading a monitor changes no table, and what comes back is a row. -/
theorem get_db {team m : UUID} {x : Except AppError Monitor}
    (h : Exec World.Live (MonitorRepository.get team m) w tr x w') (hdb : DBAvailable tr) :
    w'.db = w.db ∧ ∀ y, x = .ok y → ∃ row, w.db.monitor? m = some row ∧ row.teamID = team ∧
      y = MonitorRepository.ofRow row := by
  obtain ⟨r, w₁, tr₁, hget, rfl, hret⟩ := exec_call_bind h
  obtain ⟨now, hr, hw₁⟩ := sql_answered hget (dbAvailable_cons.mp hdb).1
  rw [DB.exec_getMonitorByTeamID_snd] at hw₁
  rcases r with err | row
  · obtain ⟨-, rfl, rfl⟩ := exec_ret_iff.mp hret
    exact ⟨hw₁, nofun⟩
  · obtain ⟨-, rfl, rfl⟩ := exec_ret_iff.mp hret
    obtain ⟨hfind, hteam⟩ := DB.monitor?_of_getMonitorByTeamID hr.symm
    exact ⟨hw₁, fun y hy => ⟨row, hfind, hteam, (Except.ok.inj hy).symm⟩⟩

/-- **What a delete does to the tables**: nothing, or it deletes the row and counts its
owner down. -/
theorem deleteMonitor_db {team m : UUID} {x : Except AppError Unit}
    (h : Exec World.Live (MonitorService.deleteMonitor team m) w tr x w') (hdb : DBAvailable tr) :
    w'.db = w.db ∨ ∃ row now now', w.db.monitor? m = some row ∧ row.teamID = team ∧
      w'.db = ((w.db.exec now (.deleteMonitor m team)).2.exec now'
        (.decrementMonitorCount row.userID)).2 := by
  obtain ⟨tr₁, y, w₁, tr₂, hget, h₁, rfl⟩ := exec_bind_iff.mp h
  obtain ⟨hdb₁, hdb₂⟩ := dbAvailable_append.mp hdb
  obtain ⟨hw₁, hok⟩ := get_db hget hdb₁
  rcases y with err | y
  · obtain ⟨-, -, rfl⟩ := exec_ret_iff.mp h₁
    exact Or.inl hw₁
  obtain ⟨row, hrow, hteam, rfl⟩ := hok y rfl
  obtain ⟨tr₃, u, w₂, tr₄, hdis, h₂, rfl⟩ := exec_bind_iff.mp h₁
  have hw₂ : w₂.db = w.db := (db_of_unstored hdis (unstored_disableMonitor m)).trans hw₁
  obtain ⟨tr₅, z, w₃, tr₆, hdel, h₃, rfl⟩ := exec_bind_iff.mp h₂
  obtain ⟨r, w₄, tr₇, hlive, rfl, hret⟩ := exec_call_bind hdel
  obtain ⟨-, hdb₃⟩ := dbAvailable_append.mp hdb₂
  obtain ⟨hdb₄, hdb₅⟩ := dbAvailable_append.mp hdb₃
  obtain ⟨now, rfl, hw₄⟩ := sql_answered hlive (dbAvailable_cons.mp hdb₄).1
  rw [hw₂] at hw₄ hret
  -- the row is still there to be deleted
  have hpos : w.db.monitors.countP (fun row => row.id = m && row.teamID = team) ≠ 0 :=
    DB.countP_monitors_ne_zero_iff.mpr
      ⟨row, DB.mem_of_monitor? hrow, DB.id_of_monitor? hrow, hteam⟩
  change Exec _ (if w.db.monitors.countP _ = 0 then ret _ else ret _) _ _ _ _ at hret
  rw [if_neg hpos] at hret
  obtain ⟨-, rfl, rfl⟩ := exec_ret_iff.mp hret
  obtain ⟨tr₈, v, w₅, tr₉, hdec, hend, rfl⟩ := exec_bind_iff.mp h₃
  obtain ⟨-, -, rfl⟩ := exec_ret_iff.mp hend
  obtain ⟨r', w₆, tr₁₀, hlive', rfl, hret'⟩ := exec_call_bind hdec
  obtain ⟨hdb₆, -⟩ := dbAvailable_append.mp hdb₅
  obtain ⟨now', rfl, hw₆⟩ := sql_answered hlive' (dbAvailable_cons.mp hdb₆).1
  obtain ⟨-, -, rfl⟩ := exec_ret_iff.mp hret'
  exact Or.inr ⟨row, now, now', hrow, hteam, by rw [hw₆, hw₄]; rfl⟩

/-! ## What becomes of the counts -/

/-- Counting where nobody has room left changes nothing. -/
theorem exact_increment {now : Time} {user : UUID}
    (hnone : d.users.countP (fun row => row.id = user && row.monitorsCount < 10) = 0) :
    (d.exec now (.incrementMonitorCount user)).2.Exact ↔ d.Exact := by
  refine exact_congr ?_ rfl
  simp only [DB.exec]
  conv_rhs => rw [← List.map_id d.users]
  refine List.map_congr_left fun row hrow => ?_
  rw [if_neg (List.countP_eq_zero.mp hnone row hrow)]
  rfl

/-- The row of a request. -/
def CreateMonitor.row (data : CreateMonitor) (id : UUID) (channels : String) (now : ℤ) :
    MonitorRow :=
  ⟨id, data.userID, data.teamID, data.url, data.intervalSec, data.timeoutSec,
    data.latencyThresholdMs, data.expectedStatus, true, channels, now⟩

theorem exec_createMonitor (now : Time) (data : CreateMonitor) (channels : String) (d : DB) :
    (d.exec now (.createMonitor data channels)).2 =
      if (data.row d.nextID channels now.micros).check && d.users.any (·.id = data.userID) then
        { d with monitors := d.monitors ++ [data.row d.nextID channels now.micros]
                 nextID := d.nextID + 1 }
      else d := apply_ite Prod.snd _ _ _

/-- The `CHECK`s on the row of a validated request. -/
theorem check_iff_storable {isURL : String → Bool} {data : CreateMonitor}
    (hvalid : data.validated isURL) (id : UUID) (channels : String) (now : ℤ) :
    (data.row id channels now).check = true ↔ data.Storable := by
  simp only [CreateMonitor.validated, Bool.and_eq_true, decide_eq_true_eq] at hvalid
  obtain ⟨⟨-, hinterval⟩, htimeout⟩ := hvalid
  have hpos : 0 < data.timeoutSec := by omega
  simp only [MonitorRow.check, CreateMonitor.row, CreateMonitor.Storable, hinterval, hpos,
    Option.all_eq_true, Bool.and_eq_true, decide_eq_true_eq, and_true, and_assoc]
  exact and_congr decide_eq_true_iff Iff.rfl

/-- Under an exact count all rows of a user have the same count, so one has room left
just when all have. -/
theorem DB.Exact.increment_users {now : Time} {user : UUID} (h : d.Exact)
    (hsome : d.users.countP (fun row => row.id = user && row.monitorsCount < 10) ≠ 0) :
    (d.exec now (.incrementMonitorCount user)).2.users = d.users.map fun row =>
      if row.id = user then { row with monitorsCount := row.monitorsCount + 1 } else row := by
  obtain ⟨room, hroom, hroomid, hten⟩ := DB.countP_users_ne_zero_iff.mp hsome
  refine List.map_congr_left fun row hrow => ?_
  by_cases hid : row.id = user
  · have hlt : row.monitorsCount < 10 := by
      rw [h row hrow, hid, ← hroomid, ← h room hroom]
      exact hten
    rw [if_pos (by simpa using ⟨hid, hlt⟩), if_pos hid]
  · rw [if_neg (by simp [hid]), if_neg hid]

/-- **A create keeps the count exact** just when the table takes the row. -/
theorem exact_create {isURL : String → Bool} {data : CreateMonitor} {now now' : Time}
    {channels : String} (hvalid : data.validated isURL) (h : d.Exact)
    (hsome : d.users.countP (fun row => row.id = data.userID && row.monitorsCount < 10) ≠ 0) :
    ((d.exec now (.incrementMonitorCount data.userID)).2.exec now'
      (.createMonitor data channels)).2.Exact ↔ data.Storable := by
  obtain ⟨user, huser, hid, -⟩ := DB.countP_users_ne_zero_iff.mp hsome
  have husers : (d.exec now (.incrementMonitorCount data.userID)).2.users = d.users.map fun row =>
      if row.id = data.userID then { row with monitorsCount := row.monitorsCount + 1 } else row :=
    h.increment_users hsome
  have hany : (d.exec now (.incrementMonitorCount data.userID)).2.users.any
      (·.id = data.userID) = true := by
    rw [husers]
    refine List.any_eq_true.mpr ⟨_, List.mem_map.mpr ⟨user, huser, rfl⟩, ?_⟩
    rw [if_pos hid]
    exact decide_eq_true hid
  rw [exec_createMonitor, hany, Bool.and_true]
  have hcheck : (data.row (d.exec now (.incrementMonitorCount data.userID)).2.nextID channels
      now'.micros).check = true ↔ data.Storable := check_iff_storable hvalid _ _ _
  by_cases hstore : data.Storable
  · refine iff_of_true ?_ hstore
    rw [if_pos (hcheck.mpr hstore)]
    intro row' hrow'
    change row' ∈ (d.exec now (.incrementMonitorCount data.userID)).2.users at hrow'
    rw [husers] at hrow'
    obtain ⟨row, hrow, rfl⟩ := List.mem_map.mp hrow'
    have hexact := h row hrow
    have howned : (d.monitors ++ [data.row d.nextID channels now'.micros]).countP
        (·.userID = row.id) = d.owned row.id + if data.userID = row.id then 1 else 0 := by
      simp only [DB.owned, List.countP_append, List.countP_singleton, decide_eq_true_eq,
        CreateMonitor.row]
    by_cases hid : row.id = data.userID
    · rw [if_pos hid.symm] at howned
      rw [if_pos hid]
      refine Eq.trans ?_ (congrArg Nat.cast howned).symm
      show row.monitorsCount + 1 = ((d.owned row.id + 1 : ℕ) : ℤ)
      omega
    · rw [if_neg (Ne.symm hid), add_zero] at howned
      rw [if_neg hid]
      exact hexact.trans (congrArg Nat.cast howned.symm)
  · refine iff_of_false (fun hexact => ?_) hstore
    rw [if_neg (mt hcheck.mp hstore)] at hexact
    -- the user has been counted up and has no monitor more
    have hcount := hexact { user with monitorsCount := user.monitorsCount + 1 } (by
      rw [husers]
      exact List.mem_map.mpr ⟨user, huser, if_pos hid⟩)
    have hbefore := h user huser
    change user.monitorsCount + 1 = (d.owned user.id : ℤ) at hcount
    omega

/-- A `DELETE` of a row that is there takes one monitor from its owner. -/
theorem owned_delete {m team : UUID} {row : MonitorRow} (now : Time) (user : UUID) (hk : d.Keyed)
    (hrow : d.monitor? m = some row) (hteam : row.teamID = team) :
    d.owned user = (d.exec now (.deleteMonitor m team)).2.owned user +
      if row.userID = user then 1 else 0 := by
  obtain ⟨hid, as, bs, hrows, has⟩ := List.find?_eq_some_iff_append.mp hrow
  simp only [decide_eq_true_eq] at hid
  have hnodup := hk.1
  rw [hrows, List.map_append, List.map_cons, List.nodup_append, List.nodup_cons] at hnodup
  obtain ⟨-, ⟨hnot, -⟩, -⟩ := hnodup
  -- no other row has the id
  have hkeep : ∀ x ∈ as ++ bs, (!(decide (x.id = m) && decide (x.teamID = team))) = true := by
    intro x hx
    have hne : x.id ≠ m := by
      rcases List.mem_append.mp hx with hx | hx
      · simpa using has x hx
      · intro heq
        exact hnot (List.mem_map.mpr ⟨x, hx, heq.trans hid.symm⟩)
    simp [hne]
  have hleft : (d.exec now (.deleteMonitor m team)).2.monitors = as ++ bs := by
    obtain ⟨hkeepas, hkeepbs⟩ := List.forall_mem_append.mp hkeep
    show d.monitors.filter _ = _
    rw [hrows, List.filter_append, List.filter_cons, List.filter_eq_self.mpr hkeepas,
      List.filter_eq_self.mpr hkeepbs, if_neg (by simp [hid, hteam])]
  rw [DB.owned, DB.owned, hleft, hrows, List.countP_append, List.countP_append, List.countP_cons]
  simp only [decide_eq_true_eq]
  omega

/-- **A delete keeps the count exact.**  The row goes, and the count of the user whose it was goes
down by one, which it can as it was at least one. -/
theorem exact_delete {m team : UUID} {row : MonitorRow} {now now' : Time} (hk : d.Keyed)
    (h : d.Exact) (hrow : d.monitor? m = some row) (hteam : row.teamID = team) :
    ((d.exec now (.deleteMonitor m team)).2.exec now'
      (.decrementMonitorCount row.userID)).2.Exact := by
  intro user' huser'
  obtain ⟨user, huser, rfl⟩ := List.mem_map.mp huser'
  have hexact := h user huser
  have howned := owned_delete now user.id hk hrow hteam
  have hsame : DB.owned user.id ((d.exec now (.deleteMonitor m team)).2.exec now'
      (.decrementMonitorCount row.userID)).2 =
      (d.exec now (.deleteMonitor m team)).2.owned user.id := rfl
  by_cases hid : user.id = row.userID
  · rw [if_pos hid.symm] at howned
    rw [if_pos hid, hsame]
    show max (user.monitorsCount - 1) 0 = _
    omega
  · rw [if_neg (Ne.symm hid)] at howned
    rw [if_neg hid, hsame]
    omega

/-! ## Requests and runs -/

/-- Changing the status of a monitor leaves the counts and the owners. -/
theorem updateMonitorStatus_meter {team m : UUID} {enable : Bool} {x : Except AppError Bool}
    (h : Exec World.Live (MonitorService.updateMonitorStatus team m enable) w tr x w') :
    w'.db.users = w.db.users ∧ w'.db.owners = w.db.owners :=
  meter_of_uncounted h (MonitorService.only_updateMonitorStatus (Cmd.uncounted ·) rfl rfl rfl rfl
    (fun _ _ => rfl) (fun _ => rfl) rfl rfl rfl rfl)

/-- **One request** keeps the count exact just when it fits. -/
theorem exact_iff_fits_of_serves {isURL : String → Bool} {x : Served} (h : Serves isURL w x w')
    (hk : w.db.Keyed) (hexact : w.db.Exact) : w'.db.Exact ↔ x.req.Fits w.db := by
  obtain ⟨-, -, hvalid, hexec, hdb⟩ := h
  obtain ⟨before, req, tr, after⟩ := x
  cases req with
  | create data =>
    obtain ⟨tr₁, y, w₁, tr₂, hcreate, hret, rfl⟩ := exec_bind_iff.mp hexec
    obtain ⟨-, -, rfl⟩ := exec_ret_iff.mp hret
    rcases createMonitor_db hcreate (dbAvailable_append.mp hdb).1 with
      ⟨now, ⟨hnone, hw⟩ | ⟨hsome, now', channels, hw⟩⟩
    · rw [hw]
      refine iff_of_true ((exact_increment hnone).mpr hexact) ?_
      exact fun hroom => absurd hnone (DB.countP_users_ne_zero_iff.mpr hroom)
    · rw [hw, exact_create hvalid hexact hsome]
      exact ⟨fun hstore _ => hstore, fun hfits => hfits (DB.countP_users_ne_zero_iff.mp hsome)⟩
  | updateStatus team m enable =>
    obtain ⟨tr₁, y, w₁, tr₂, hupdate, hret, rfl⟩ := exec_bind_iff.mp hexec
    obtain ⟨-, -, rfl⟩ := exec_ret_iff.mp hret
    obtain ⟨husers, hown⟩ := updateMonitorStatus_meter hupdate
    exact iff_of_true ((exact_congr husers hown).mpr hexact) trivial
  | delete team m =>
    obtain ⟨tr₁, y, w₁, tr₂, hdelete, hret, rfl⟩ := exec_bind_iff.mp hexec
    obtain ⟨-, -, rfl⟩ := exec_ret_iff.mp hret
    rcases deleteMonitor_db hdelete (dbAvailable_append.mp hdb).1 with
      hw | ⟨row, now, now', hrow, hteam, hw⟩
    · exact iff_of_true (hw ▸ hexact) trivial
    · exact iff_of_true (hw ▸ exact_delete hk hexact hrow hteam) trivial
  | get team m =>
    obtain ⟨tr₁, y, w₁, tr₂, hget, hret, rfl⟩ := exec_bind_iff.mp hexec
    obtain ⟨-, -, rfl⟩ := exec_ret_iff.mp hret
    obtain ⟨husers, hown⟩ := meter_of_uncounted hget
      (MonitorService.only_getMonitor (Cmd.uncounted ·) rfl rfl fun _ => rfl)
    exact iff_of_true ((exact_congr husers hown).mpr hexact) trivial

theorem keyed_of_serves {isURL : String → Bool} {x : Served} (h : Serves isURL w x w')
    (hk : w.db.Keyed) : w'.db.Keyed := by
  obtain ⟨-, -, -, hexec, -⟩ := h
  exact hexec.invariant (I := fun w => w.db.Keyed) (fun _ _ _ _ hlive => keyed_of_live hlive) hk

/-- **The count stays exact** in a run of requests just as long as every one of them
fits. -/
theorem exact_iff_fits {isURL : String → Bool} {w₀ : World} {l : List Served}
    (hk : w₀.db.Keyed) (h₀ : w₀.db.Exact) (h : Runs (Serves isURL) w₀ l w) :
    (∀ x ∈ l, x.after.db.Exact) ↔ ∀ x ∈ l, x.req.Fits x.before.db := by
  -- the induction carries that the count is exact at the end if all was well before
  suffices hall : w.db.Keyed ∧ ((∀ x ∈ l, x.after.db.Exact) → w.db.Exact) ∧
      ((∀ x ∈ l, x.after.db.Exact) ↔ ∀ x ∈ l, x.req.Fits x.before.db) from hall.2.2
  induction h with
  | nil => exact ⟨hk, fun _ => h₀, by simp⟩
  | @snoc l w w' x h hx ih =>
    obtain ⟨hkeyed, hend, hiff⟩ := ih
    obtain ⟨hbefore, hafter, -⟩ := id hx
    refine ⟨keyed_of_serves hx hkeyed, fun hall => ?_, ?_⟩
    · exact hafter ▸ hall x (List.mem_append_right _ (List.mem_singleton_self x))
    · rw [List.forall_mem_append, List.forall_mem_append, List.forall_mem_singleton,
        List.forall_mem_singleton, ← hiff, hbefore, hafter]
      exact and_congr_right fun hall => exact_iff_fits_of_serves hx hkeyed (hend hall)

/-- A monitor with a latency threshold below zero.  The handler does not look at it. -/
def Sample.refused : CreateMonitor := ⟨9, 7, "https://example.com", 60, 120, some (-1), none, []⟩

/-- The request, served with nothing failing. -/
def Sample.served : Served :=
  let y := run (World.exec false) [] (Request.create refused).prog world
  ⟨world, .create refused, y.1, y.2.2⟩

theorem serves_sample : Serves (fun _ => true) Sample.world Sample.served Sample.served.after :=
  ⟨rfl, rfl, show Sample.refused.validated _ = true by decide, exec_run _ _ _ _,
    show ∀ e ∈ Sample.served.trace, e.unanswered = false by decide⟩

/-- The same request with no latency threshold. -/
def Sample.storable : CreateMonitor := { Sample.refused with latencyThresholdMs := none }

/-- The storable request, served with nothing failing. -/
def Sample.stored : Served :=
  let y := run (World.exec false) [] (Request.create storable).prog world
  ⟨world, .create storable, y.1, y.2.2⟩

theorem serves_stored : Serves (fun _ => true) Sample.world Sample.stored Sample.stored.after :=
  ⟨rfl, rfl, show Sample.storable.validated _ = true by decide, exec_run _ _ _ _,
    show ∀ e ∈ Sample.stored.trace, e.unanswered = false by decide⟩

/-- In the first run the row is stored, the request fits and the count is exact; in the second
the row is refused, the request does not fit and the count is one too high. -/
theorem exact_iff_fits_sample :
    (∃ w, Runs (Serves fun _ => true) Sample.world [Sample.stored] w ∧
      ((∀ x ∈ [Sample.stored], x.after.db.Exact) ↔
        ∀ x ∈ [Sample.stored], x.req.Fits x.before.db) ∧
      (∀ x ∈ [Sample.stored], x.after.db.Exact) ∧
      Sample.stored.after.db.monitors.length = Sample.world.db.monitors.length + 1) ∧
    (∃ w, Runs (Serves fun _ => true) Sample.world [Sample.served] w ∧
      ((∀ x ∈ [Sample.served], x.after.db.Exact) ↔
        ∀ x ∈ [Sample.served], x.req.Fits x.before.db) ∧
      ¬∀ x ∈ [Sample.served], x.after.db.Exact) := by
  have hstored : Runs (Serves fun _ => true) Sample.world [Sample.stored] Sample.stored.after :=
    Runs.nil.snoc serves_stored
  have hrefused : Runs (Serves fun _ => true) Sample.world [Sample.served] Sample.served.after :=
    Runs.nil.snoc serves_sample
  refine ⟨⟨_, hstored, exact_iff_fits ⟨by decide, by decide⟩ (by decide) hstored, ?_, by decide⟩,
    ⟨_, hrefused, exact_iff_fits ⟨by decide, by decide⟩ (by decide) hrefused, ?_⟩⟩
  · exact List.forall_mem_singleton.mpr (by decide)
  · exact fun hall => absurd (List.forall_mem_singleton.mp hall) (by decide)

/-- **The count does not stay exact.**  The row is refused, and its user has been counted
up. -/
theorem not_exact_of_runs : ¬∀ (isURL : String → Bool) (w₀ w : World) (l : List Served),
    w₀.db.Keyed → w₀.db.Exact → Runs (Serves isURL) w₀ l w → ∀ x ∈ l, x.after.db.Exact := by
  intro hall
  have hexact := hall (fun _ => true) Sample.world _ [Sample.served] ⟨by decide, by decide⟩
    (by decide) (Runs.nil.snoc serves_sample) Sample.served (List.mem_singleton_self _)
  exact absurd hexact (by decide)

end Sofon
