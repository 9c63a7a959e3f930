import Sofon.Monitor.Requests
import Sofon.Pipeline.System

/-!
# The quota

A user may have ten monitors.  `monitors_count` is counted up before a row is
inserted and down after a row is gone, each by a statement of its own, so between
the two a request stands with one monitor more in the count than in the table.

## The order of the statements

`quotaProtocol` reads from the trace of a request what it stands for (`Share`): `counted` before
the `INSERT`, `removed` before the count goes down.  A request counts first and inserts
afterwards, with the user for whom it has counted (`follows_createMonitor`); it deletes what it
has read and then counts down the owner it has read of (`follows_deleteMonitor`).

## The invariant

The count of a user bounds the rows of the user and the shares of the requests, and ten bounds
the count (`Metered`).  `Metered.step` says what a step must do to keep it: the rows that were
there keep their owners, and for each user rows and share together grow no more than the count.
Each statement is then a line of arithmetic.  An `INSERT` uses up a share
(`Metered.create`), a `DELETE` takes at least as many rows as the request stands for afterwards
(`Metered.delete`), and counting up or down goes with a share (`Metered.increment`,
`Metered.decrement`).

That survives any interleaving, and it survives statements that take effect and are reported as
failed (`World.Lossy`): a lost answer ends the request, and what it leaves behind is a count that
is too high.  With the shares left out the invariant is the quota (`withinQuota_of_reaches`).
-/

namespace Sofon

open Interleaving Program

/-! ## Lost answers -/

/-- The answer is lost on its way. -/
def Cmd.lose : (c : Cmd) → c.Resp → c.Resp
  | .redis _, _ => .error .unavailable
  | .sql _, _ => .error .unavailable
  | .timeNow, r => r
  | .ctxDone, r => r
  | .send _, r => r
  | .offer _, r => r

namespace World

/-- One call, whose answer may be lost. -/
def lossy (x : Env × Bool) (w : World) (c : Cmd) : c.Resp × World :=
  (if x.2 then c.lose (exec false x.1 w c).1 else (exec false x.1 w c).1, (exec false x.1 w c).2)

/-- The service whose calls fail before they take effect, or after, or not at all. -/
def Lossy : World → (c : Cmd) → c.Resp → World → Prop := Program.Interpreter lossy

variable {w w' : World}

/-- **What a statement can do**: nothing, or what the database does; and the answer
says which of the two, or that it failed. -/
theorem lossy_sql {q : Query} {r : Except DBError q.Result} (h : Lossy w (.sql q) r w') :
    (r = .error .unavailable ∧ w'.db = w.db) ∨
      ∃ now, (r = (w.db.exec now q).1 ∨ r = .error .unavailable) ∧ w'.db = (w.db.exec now q).2 := by
  obtain ⟨⟨e, lost⟩, he⟩ := h
  obtain ⟨hr, hw⟩ := Prod.mk.inj he
  have hlive : Live w (.sql q) (exec false e w (.sql q)).1 w' := ⟨e, Prod.ext rfl hw⟩
  obtain ⟨ks, now, ⟨hfail, rfl⟩ | ⟨hok, rfl⟩⟩ := live_sql hlive
  · refine Or.inl ⟨?_, rfl⟩
    cases lost with
    | true => exact hr.symm
    | false => exact hr.symm.trans hfail
  · refine Or.inr ⟨now, ?_, rfl⟩
    cases lost with
    | true => exact Or.inr hr.symm
    | false => exact Or.inl (hr.symm.trans hok)

theorem lossy_db {c : Cmd} {r : c.Resp} (hc : ∀ q, c ≠ .sql q) (h : Lossy w c r w') :
    w'.db = w.db := by
  obtain ⟨⟨e, lost⟩, he⟩ := h
  have hlive : Live w c (exec false e w c).1 w' := ⟨e, Prod.ext rfl (Prod.mk.inj he).2⟩
  obtain ⟨ks, rfl | ⟨c', rfl, rfl⟩ | ⟨q, now, rfl, -⟩ | ⟨ev, rfl, rfl⟩⟩ := live_cases hlive
  · rfl
  · rfl
  · exact absurd rfl (hc q)
  · rfl

end World

/-! ## What a request stands for -/

/-- What a request stands for in the count of a user. -/
inductive Share where
  | idle
  /-- counted, before the `INSERT` -/
  | counted (user : UUID)
  /-- the row of `m` has been read, and it is a row of `owner` -/
  | found (m owner : UUID)
  /-- the row is gone, before the count goes down -/
  | removed (owner : UUID)
  deriving DecidableEq

namespace Share

/-- By how much the request raises the count of the user above the rows. -/
def weight (user : UUID) : Share → ℕ
  | counted user' => if user' = user then 1 else 0
  | removed owner => if owner = user then 1 else 0
  | _ => 0

/-- After a `DELETE` that says how many rows it matched. -/
def delete (rows : ℕ) : Share → Share
  | found _ owner => if rows = 0 then idle else removed owner
  | _ => idle

end Share

/-- The order in which a request counts, inserts and deletes. -/
def quotaProtocol : Protocol Cmd Cmd.Resp Share where
  start := .idle
  next q e := match e with
    | ⟨.sql (.incrementMonitorCount user), .ok rows⟩ => if rows = 0 then q else .counted user
    | ⟨.sql (.createMonitor ..), _⟩ => .idle
    | ⟨.sql (.getMonitorByTeamID m _), .ok row⟩ => .found m row.userID
    | ⟨.sql (.deleteMonitor ..), .ok rows⟩ => q.delete rows
    | ⟨.sql (.deleteMonitor ..), .error _⟩ => .idle
    | ⟨.sql (.decrementMonitorCount _), _⟩ => .idle
    | _ => q
  allows q c := match c with
    | .sql (.incrementMonitorCount _) => q = .idle
    | .sql (.createMonitor data _) => q = .counted data.userID
    | .sql (.getMonitorByTeamID ..) => q = .idle
    | .sql (.deleteMonitor m _) => ∃ owner, q = .found m owner
    | .sql (.decrementMonitorCount user) => q = .removed user
    | _ => True
  answers _ := True

/-- The calls that have no part in the quota. -/
def Cmd.unmetered : Cmd → Bool
  | sql (.incrementMonitorCount _) => false
  | sql (.createMonitor ..) => false
  | sql (.getMonitorByTeamID ..) => false
  | sql (.deleteMonitor ..) => false
  | sql (.decrementMonitorCount _) => false
  | _ => true

theorem Cmd.unmetered_allowed {c : Cmd} (hc : c.unmetered) (q : Share) :
    quotaProtocol.allows q c := by
  cases c with
  | sql query => cases query <;> trivial
  | _ => trivial

theorem Cmd.unmetered_next {c : Cmd} (hc : c.unmetered) (q : Share) (r : c.Resp) :
    quotaProtocol.next q ⟨c, r⟩ = q := by
  cases c with
  | sql query => cases query <;> first | rfl | cases hc
  | _ => rfl

theorem follows_of_unmetered {α : Type} {p : Prog α} (hp : p.Only (Cmd.unmetered ·)) (q : Share) :
    p.Follows quotaProtocol (fun _ q' => q' = q) q :=
  hp.follows (fun _ hc => Cmd.unmetered_allowed hc q) fun _ r hc => Cmd.unmetered_next hc q r

theorem unmetered_scheduleMonitor (m : UUID) (i : ℤ) :
    (MonitorService.scheduleMonitor m i).Only (Cmd.unmetered ·) :=
  MonitorService.only_scheduleMonitor (Cmd.unmetered ·) rfl rfl (fun _ => rfl) i

theorem unmetered_disableMonitor (m : UUID) :
    (MonitorService.disableMonitor m).Only (Cmd.unmetered ·) :=
  MonitorService.only_disableMonitor (Cmd.unmetered ·) rfl rfl rfl rfl rfl

/-! ## The requests -/

/-- A request counts first and inserts afterwards. -/
theorem follows_createMonitor (data : CreateMonitor) :
    (MonitorService.createMonitor data).Follows quotaProtocol (fun _ _ => True) .idle := by
  have hcount : (UserRepository.incrementMonitorCount data.userID).Follows quotaProtocol
      (fun x q => x = .ok () → q = .counted data.userID) .idle := by
    refine ⟨rfl, fun x _ => ?_⟩
    rcases x with err | rows
    · exact nofun
    · show Follows _ _ (if rows = 0 then _ else _) (if rows = 0 then _ else _)
      split
      · exact nofun
      · exact fun _ => rfl
  refine hcount.bind fun x q hq => ?_
  rcases x with err | u
  · trivial
  · obtain rfl := hq rfl
    have hinsert : (MonitorRepository.create data).Follows quotaProtocol (fun _ _ => True)
        (.counted data.userID) := by
      refine ⟨rfl, fun y _ => ?_⟩
      rcases y with err | id <;> trivial
    refine hinsert.bind fun y q' _ => ?_
    rcases y with err | id
    · trivial
    · exact (follows_of_unmetered (unmetered_scheduleMonitor _ _) q').bind fun _ _ _ => trivial

theorem follows_get (team m : UUID) :
    (MonitorRepository.get team m).Follows quotaProtocol
      (fun x q => ∀ y, x = .ok y → q = .found m y.userID) .idle := by
  refine ⟨rfl, fun x _ => ?_⟩
  rcases x with err | row
  · exact fun _ hy => by cases hy
  · intro y hy
    cases hy
    rfl

/-- A request deletes what it has read, and then counts its owner down. -/
theorem follows_deleteMonitor (team m : UUID) :
    (MonitorService.deleteMonitor team m).Follows quotaProtocol (fun _ _ => True) .idle := by
  refine (follows_get team m).bind fun x q hq => ?_
  rcases x with err | y
  · trivial
  · obtain rfl := hq y rfl
    refine (follows_of_unmetered (unmetered_disableMonitor m) _).bind fun _ q hq => ?_
    obtain rfl := hq
    have hdelete : (MonitorRepository.delete team m).Follows quotaProtocol
        (fun z q => z = .ok () → q = .removed y.userID) (.found m y.userID) := by
      refine ⟨⟨_, rfl⟩, fun z _ => ?_⟩
      rcases z with err | rows
      · exact nofun
      · show Follows _ _ (if rows = 0 then _ else _) (if rows = 0 then _ else _)
        split
        · exact nofun
        · exact fun _ => rfl
    refine hdelete.bind fun z q hq => ?_
    rcases z with err | u
    · trivial
    · obtain rfl := hq rfl
      have hcount : (UserRepository.decrementMonitorCount y.userID).Follows quotaProtocol
          (fun _ _ => True) (.removed y.userID) := by
        refine ⟨rfl, fun v _ => ?_⟩
        rcases v with err | v <;> trivial
      exact hcount.bind fun _ _ _ => trivial

/-- Changing the status of a monitor leaves the quota alone. -/
theorem follows_quota_updateMonitorStatus (team m : UUID) (enable : Bool) :
    (MonitorService.updateMonitorStatus team m enable).Follows quotaProtocol (fun _ _ => True)
      .idle := by
  refine (follows_get team m).bind fun x q _ => ?_
  rcases x with err | y
  · trivial
  · show Follows _ _ (if y.enabled = enable then _ else _) _
    split
    · trivial
    · have hset : (MonitorRepository.setEnabled team m enable).Only (Cmd.unmetered ·) := by
        refine ⟨rfl, fun z => ?_⟩
        rcases z with err | rows
        · trivial
        · show Only _ (if rows = 0 then _ else _)
          split <;> trivial
      refine (follows_of_unmetered hset q).bind fun z q' _ => ?_
      rcases z with err | u
      · trivial
      · show Follows _ _ (if enable then _ else _) _
        have hclose : (MonitorRepository.closeOpenIncident m).Only (Cmd.unmetered ·) :=
          MonitorService.only_closeOpenIncident (Cmd.unmetered ·) rfl fun _ => rfl
        split
        · exact (follows_of_unmetered (unmetered_scheduleMonitor _ _) q').bind fun _ _ _ => trivial
        · refine (follows_of_unmetered hclose q').bind fun _ q'' _ => ?_
          exact (follows_of_unmetered (unmetered_disableMonitor m) q'').bind fun _ _ _ => trivial

theorem follows_quota_getMonitor (team m : UUID) :
    (MonitorService.getMonitor team m).Follows quotaProtocol (fun _ _ => True) .idle := by
  have hcached : (RedisClient.getMonitor m).Only (Cmd.unmetered ·) := by
    refine ⟨rfl, fun x => ?_⟩
    cases x <;> trivial
  refine (follows_of_unmetered hcached .idle).bind fun cached q hq => ?_
  obtain rfl := hq
  cases cached.filter (·.teamID = team) with
  | some x => trivial
  | none =>
    refine (follows_get team m).bind fun x q _ => ?_
    rcases x with err | y
    · trivial
    · have hset : (RedisClient.setMonitor y).Only (Cmd.unmetered ·) := only_call rfl
      exact (follows_of_unmetered hset q).bind fun _ _ _ => trivial

/-- **Every request keeps to the order of the protocol.** -/
theorem follows_quota_request (req : Request) :
    req.prog.Follows quotaProtocol (fun _ _ => True) .idle := by
  cases req with
  | create data => exact (follows_createMonitor data).bind fun _ _ _ => trivial
  | updateStatus team m enable =>
    exact (follows_quota_updateMonitorStatus team m enable).bind fun _ _ _ => trivial
  | delete team m => exact (follows_deleteMonitor team m).bind fun _ _ _ => trivial
  | get team m => exact (follows_quota_getMonitor team m).bind fun _ _ _ => trivial

/-! ## The invariant -/

/-- The monitors of a user. -/
def DB.owned (user : UUID) (d : DB) : ℕ := d.monitors.countP (·.userID = user)

/-- **The quota holds**: the count of a user bounds the rows of the user, and ten
bounds the count. -/
def DB.WithinQuota (d : DB) : Prop :=
  ∀ user ∈ d.users, (d.owned user.id : ℤ) ≤ user.monitorsCount ∧ user.monitorsCount ≤ 10

instance (d : DB) : Decidable d.WithinQuota := List.decidableBAll _ _

/-- The quota, with the shares of the requests under way. -/
structure Metered (d : DB) (qs : List Share) : Prop where
  keyed : d.Keyed
  users : (d.users.map UserRow.id).Nodup
  found : ∀ m owner, .found m owner ∈ qs →
    m < d.nextID ∧ ∀ row ∈ d.monitors, row.id = m → row.userID = owner
  counted : ∀ user ∈ d.users,
    (d.owned user.id + total (Share.weight user.id) qs : ℤ) ≤ user.monitorsCount ∧
      user.monitorsCount ≤ 10

theorem metered_start {d : DB} (hk : d.Keyed) (husers : (d.users.map UserRow.id).Nodup)
    (h : d.WithinQuota) (n : ℕ) : Metered d (List.replicate n .idle) where
  keyed := hk
  users := husers
  found m owner hmem := nomatch List.eq_of_mem_replicate hmem
  counted user huser := by
    rw [total_replicate]
    simpa [Share.weight] using h user huser

variable {d d' : DB} {qs : List Share} {i : ℕ} {q q' : Share}

/-- **How a step keeps the quota.**  The rows that were there keep their owners, and
no user gains more in rows and in the share of the request than in the count. -/
theorem Metered.step (h : Metered d qs) (hi : qs[i]? = some q) (hk : d'.Keyed)
    (husers : d'.users.map UserRow.id = d.users.map UserRow.id) (hid : d.nextID ≤ d'.nextID)
    (hrows : ∀ row ∈ d'.monitors, row.id < d.nextID →
      ∃ old ∈ d.monitors, old.id = row.id ∧ old.userID = row.userID)
    (hfound : ∀ m owner, q' = .found m owner →
      m < d'.nextID ∧ ∀ row ∈ d'.monitors, row.id = m → row.userID = owner)
    (hcount : ∀ user' ∈ d'.users, ∃ user ∈ d.users, user.id = user'.id ∧
      (d'.owned user.id + q'.weight user.id + user.monitorsCount : ℤ) ≤
        d.owned user.id + q.weight user.id + user'.monitorsCount ∧
      (user.monitorsCount ≤ 10 → user'.monitorsCount ≤ 10)) :
    Metered d' (qs.set i q') where
  keyed := hk
  users := husers ▸ h.users
  found m owner hmem := by
    rcases List.mem_or_eq_of_mem_set hmem with hmem | heq
    · obtain ⟨hlt, hown⟩ := h.found m owner hmem
      refine ⟨hlt.trans_le hid, fun row hrow hm => ?_⟩
      obtain ⟨old, hold, hoid, houser⟩ := hrows row hrow (hm ▸ hlt)
      exact houser ▸ hown old hold (hoid.trans hm)
    · exact hfound m owner heq.symm
  counted user' huser' := by
    obtain ⟨user, huser, heq, hle, hten⟩ := hcount user' huser'
    obtain ⟨hbound, hmax⟩ := h.counted user huser
    have htotal : total (Share.weight user.id) (qs.set i q' ++ []) + q.weight user.id =
        total (Share.weight user.id) qs + q'.weight user.id + total (Share.weight user.id) [] :=
      total_step _ hi
    rw [List.append_nil, total_nil, add_zero] at htotal
    rw [← heq]
    refine ⟨?_, hten hmax⟩
    omega

/-- The monitors and whose they are. -/
def DB.owners (d : DB) : List (UUID × UUID) := d.monitors.map fun row => (row.id, row.userID)

theorem DB.owned_eq (d : DB) (user : UUID) : d.owned user = d.owners.countP (·.2 = user) := by
  rw [owned, owners, List.countP_map]
  rfl

/-- Calls that move no monitor and count nothing. -/
theorem Metered.frame (h : Metered d qs) (hi : qs[i]? = some q) (hk : d'.Keyed)
    (husers : d'.users = d.users) (hown : d'.owners = d.owners) (hid : d.nextID ≤ d'.nextID)
    (hq : q' = q ∨ q' = .idle) : Metered d' (qs.set i q') := by
  have hrows : ∀ row ∈ d'.monitors, ∃ old ∈ d.monitors, old.id = row.id ∧
      old.userID = row.userID := by
    intro row hrow
    have hmem : (row.id, row.userID) ∈ d.owners := hown ▸ List.mem_map.mpr ⟨row, hrow, rfl⟩
    obtain ⟨old, hold, heq⟩ := List.mem_map.mp hmem
    exact ⟨old, hold, (Prod.mk.inj heq).1, (Prod.mk.inj heq).2⟩
  refine h.step hi hk (by rw [husers]) hid (fun row hrow _ => hrows row hrow)
    (fun m owner hfound => ?_) fun user huser => ⟨user, husers ▸ huser, rfl, ?_, id⟩
  · obtain rfl | rfl := hq
    · obtain ⟨hlt, hall⟩ := h.found m owner (hfound ▸ List.mem_of_getElem? hi)
      refine ⟨hlt.trans_le hid, fun row hrow hm => ?_⟩
      obtain ⟨old, hold, hoid, houser⟩ := hrows row hrow
      exact houser ▸ hall old hold (hoid.trans hm)
    · cases hfound
  · have hle : q'.weight user.id ≤ q.weight user.id := by
      obtain rfl | rfl := hq
      · exact le_rfl
      · exact Nat.zero_le _
    rw [DB.owned_eq, DB.owned_eq, hown]
    omega

/-- The queries that leave the monitors to their owners. -/
theorem DB.exec_unmetered (now : Time) {query : Query} (hq : (Cmd.sql query).unmetered) (d : DB) :
    (d.exec now query).2.users = d.users ∧ (d.exec now query).2.owners = d.owners ∧
      d.nextID ≤ (d.exec now query).2.nextID := by
  cases query with
  | createMonitorIncident =>
    simp only [exec]
    split
    · exact ⟨rfl, rfl, Nat.le_succ _⟩
    · exact ⟨rfl, rfl, le_rfl⟩
  | closeMonitorIncident =>
    simp only [exec]
    split
    · exact ⟨rfl, rfl, le_rfl⟩
    · split <;> exact ⟨rfl, rfl, le_rfl⟩
  | getMonitorByID =>
    simp only [exec]
    split <;> exact ⟨rfl, rfl, le_rfl⟩
  | updateMonitorStatus m b team =>
    refine ⟨rfl, ?_, le_rfl⟩
    simp only [exec, owners, List.map_map]
    refine List.map_congr_left fun row _ => ?_
    rw [Function.comp]
    split <;> rfl
  | _ => cases hq

/-- An `INSERT` uses up the share of the request. -/
theorem Metered.create {now : Time} {data : CreateMonitor} {channels : String}
    (h : Metered d qs) (hi : qs[i]? = some (.counted data.userID)) :
    Metered (d.exec now (.createMonitor data channels)).2 (qs.set i .idle) := by
  have hk := DB.keyed_exec now (.createMonitor data channels) h.keyed
  simp only [DB.exec] at hk ⊢
  split at hk
  · rename_i hcheck
    rw [if_pos hcheck]
    refine h.step hi hk rfl (Nat.le_succ _) (fun row hrow hlt => ?_)
      (fun _ _ hfound => by cases hfound) fun user huser => ⟨user, huser, rfl, ?_, id⟩
    · rcases List.mem_append.mp hrow with hrow | hrow
      · exact ⟨row, hrow, rfl, rfl⟩
      · rw [List.mem_singleton.mp hrow] at hlt
        exact absurd hlt (lt_irrefl _)
    · simp only [DB.owned, List.countP_append, List.countP_singleton, Share.weight,
        decide_eq_true_eq]
      omega
  · rename_i hcheck
    -- the row is refused, and the count stays too high
    rw [if_neg hcheck]
    exact h.frame hi hk rfl rfl le_rfl (Or.inr rfl)

/-- Counting up gives the request its share, or leaves a count that is too high. -/
theorem Metered.increment {now : Time} {user : UUID} {q' : Share} (h : Metered d qs)
    (hi : qs[i]? = some .idle)
    (hq : q' = .idle ∨ q' = .counted user ∧
      d.users.countP (fun row => row.id = user && row.monitorsCount < 10) ≠ 0) :
    Metered (d.exec now (.incrementMonitorCount user)).2 (qs.set i q') := by
  refine h.step hi (DB.keyed_exec now _ h.keyed) (DB.exec_users_map_id now _ d) le_rfl
    (fun row hrow _ => ⟨row, hrow, rfl, rfl⟩) (fun m owner hfound => ?_) fun row' hrow' => ?_
  · rcases hq with rfl | ⟨rfl, -⟩ <;> cases hfound
  · obtain ⟨row, hrow, rfl⟩ := List.mem_map.mp hrow'
    refine ⟨row, hrow, by split <;> rfl, ?_, fun hle => ?_⟩
    · -- the only row of the user has been counted up
      have hup : q'.weight row.id = 1 → row.id = user ∧ row.monitorsCount < 10 := by
        intro hw
        rcases hq with rfl | ⟨rfl, hpos⟩
        · cases hw
        · obtain ⟨x, hx, hxid, hlt⟩ := DB.countP_users_ne_zero_iff.mp hpos
          have hid : user = row.id := by
            by_contra hne
            simp [Share.weight, hne] at hw
          have heq : x = row := List.inj_on_of_nodup_map h.users hx hrow (hxid.trans hid)
          exact ⟨hid.symm, heq ▸ hlt⟩
      have hone : q'.weight row.id ≤ 1 := by
        rcases hq with rfl | ⟨rfl, -⟩
        · exact Nat.zero_le _
        · simp only [Share.weight]
          split <;> omega
      show (d.owned row.id + q'.weight row.id + row.monitorsCount : ℤ) ≤ d.owned row.id + 0 + _
      split
      · simp only
        omega
      · rename_i hnot
        have hzero : q'.weight row.id ≠ 1 := fun hw => hnot (by simpa using hup hw)
        omega
    · split
      · rename_i hmatch
        simp only [Bool.and_eq_true, decide_eq_true_eq] at hmatch
        simp only
        omega
      · exact hle

/-- A `DELETE` takes at least as many rows from the owner as the request then stands
for. -/
theorem Metered.delete {now : Time} {m team owner : UUID} {q' : Share} (h : Metered d qs)
    (hi : qs[i]? = some (.found m owner))
    (hq : q' = .idle ∨ q' = .removed owner ∧
      d.monitors.countP (fun row => row.id = m && row.teamID = team) ≠ 0) :
    Metered (d.exec now (.deleteMonitor m team)).2 (qs.set i q') := by
  refine h.step hi (DB.keyed_exec now _ h.keyed) rfl le_rfl
    (fun row hrow _ => ⟨row, (List.mem_filter.mp hrow).1, rfl, rfl⟩)
    (fun m owner hfound => ?_) fun user huser => ⟨user, huser, rfl, ?_, id⟩
  · rcases hq with rfl | ⟨rfl, -⟩ <;> cases hfound
  · obtain ⟨-, hown⟩ := h.found m owner (List.mem_of_getElem? hi)
    have hless : (d.exec now (.deleteMonitor m team)).2.owned user.id + q'.weight user.id ≤
        d.owned user.id := by
      rw [DB.owned, DB.owned, List.countP_eq_countP_filter_add d.monitors _
        fun row => row.id = m && row.teamID = team, add_comm]
      refine Nat.add_le_add ?_ (le_of_eq rfl)
      rcases hq with rfl | ⟨rfl, hpos⟩
      · exact Nat.zero_le _
      · simp only [Share.weight]
        split
        · rename_i huser
          obtain ⟨x, hx, hid, hteam⟩ := DB.countP_monitors_ne_zero_iff.mp hpos
          refine List.countP_pos_iff.mpr ⟨x, List.mem_filter.mpr ⟨hx, ?_⟩, ?_⟩
          · simp [hid, hteam]
          · exact decide_eq_true ((hown x hx hid).trans huser)
        · exact Nat.zero_le _
    have hbefore : (Share.found m owner).weight user.id = 0 := rfl
    omega

/-- Counting down uses up the share of the request. -/
theorem Metered.decrement {now : Time} {user : UUID} (h : Metered d qs)
    (hi : qs[i]? = some (.removed user)) :
    Metered (d.exec now (.decrementMonitorCount user)).2 (qs.set i .idle) := by
  refine h.step hi (DB.keyed_exec now _ h.keyed) (DB.exec_users_map_id now _ d) le_rfl
    (fun row hrow _ => ⟨row, hrow, rfl, rfl⟩) nofun fun row' hrow' => ?_
  obtain ⟨row, hrow, rfl⟩ := List.mem_map.mp hrow'
  refine ⟨row, hrow, by split <;> rfl, ?_, fun hle => ?_⟩
  · show (d.owned row.id + 0 + row.monitorsCount : ℤ) ≤ d.owned row.id +
      (if user = row.id then 1 else 0 : ℕ) + _
    split
    · rename_i hid
      rw [if_pos hid.symm]
      simp only
      omega
    · rename_i hid
      rw [if_neg (Ne.symm hid)]
      omega
  · split
    · simp only
      omega
    · exact hle

theorem Metered.get {now : Time} {m team : UUID} {row : MonitorRow} (h : Metered d qs)
    (hi : qs[i]? = some .idle) (hrow : (d.exec now (.getMonitorByTeamID m team)).1 = .ok row) :
    Metered d (qs.set i (.found m row.userID)) := by
  obtain ⟨hfind, -⟩ := DB.monitor?_of_getMonitorByTeamID hrow
  have hmem : row ∈ d.monitors := DB.mem_of_monitor? hfind
  have hid : row.id = m := DB.id_of_monitor? hfind
  refine h.step hi h.keyed rfl le_rfl (fun row hrow _ => ⟨row, hrow, rfl, rfl⟩) ?_
    fun user huser => ⟨user, huser, rfl, le_rfl, id⟩
  rintro m' owner heq
  obtain ⟨rfl, rfl⟩ := Share.found.inj heq
  refine ⟨hid ▸ h.keyed.2 row hmem, fun x hx hm => ?_⟩
  rw [List.inj_on_of_nodup_map h.keyed.1 hx hmem (hm.trans hid.symm)]

/-! ## Every interleaving -/

/-- A statement that fails moves no request forward. -/
theorem quota_next_lost (query : Query) (err : DBError) :
    quotaProtocol.next q ⟨.sql query, .error err⟩ = q ∨
      quotaProtocol.next q ⟨.sql query, .error err⟩ = .idle := by
  cases query with
  | createMonitor | deleteMonitor | decrementMonitorCount => exact Or.inr rfl
  | _ => exact Or.inl rfl

/-- **One call of a request.**  What a user has in rows and what the requests may still add is
within the count before and after, also when the answer to the statement is lost. -/
theorem metered_step {w w' : World} {e : Call} (h : Metered w.db qs) (hi : qs[i]? = some q)
    (hallow : quotaProtocol.allows q e.cmd) (hserve : World.Lossy w e.cmd e.resp w') :
    Metered w'.db (qs.set i (quotaProtocol.next q e)) := by
  obtain ⟨c, r⟩ := e
  cases c with
  | sql query =>
    rcases World.lossy_sql hserve with ⟨rfl, hdb⟩ | ⟨now, hr, hdb⟩
    · rw [hdb]
      exact h.frame hi h.keyed rfl rfl le_rfl (quota_next_lost query _)
    rw [hdb]
    by_cases hfree : (Cmd.sql query).unmetered
    · obtain ⟨husers, hown, hid⟩ := DB.exec_unmetered now hfree w.db
      have hk := DB.keyed_exec now query h.keyed
      exact h.frame hi hk husers hown hid (Or.inl (Cmd.unmetered_next hfree q r))
    cases query with
    | incrementMonitorCount user =>
      obtain rfl : q = .idle := hallow
      refine h.increment hi ?_
      rcases hr with rfl | rfl
      · show (if _ = 0 then _ else _) = _ ∨ (if _ = 0 then _ else _) = _ ∧ _
        split
        · exact Or.inl rfl
        · exact Or.inr ⟨rfl, by assumption⟩
      · exact Or.inl rfl
    | createMonitor data channels =>
      obtain rfl : q = .counted data.userID := hallow
      exact h.create hi
    | getMonitorByTeamID m team =>
      obtain rfl : q = .idle := hallow
      rw [DB.exec_getMonitorByTeamID_snd]
      rcases r with err | row
      · exact h.frame hi h.keyed rfl rfl le_rfl (Or.inl rfl)
      · exact h.get hi (hr.resolve_right nofun).symm
    | deleteMonitor m team =>
      obtain ⟨owner, rfl⟩ := hallow
      refine h.delete hi ?_
      rcases hr with rfl | rfl
      · show (if _ = 0 then _ else _) = _ ∨ (if _ = 0 then _ else _) = _ ∧ _
        split
        · exact Or.inl rfl
        · exact Or.inr ⟨rfl, by assumption⟩
      · exact Or.inl rfl
    | decrementMonitorCount user =>
      obtain rfl : q = .removed user := hallow
      exact h.decrement hi
    | _ => exact absurd rfl hfree
  | _ =>
    rw [World.lossy_db (fun _ heq => by cases heq) hserve]
    exact h.frame hi h.keyed rfl rfl le_rfl (Or.inl rfl)

/-- **The quota cannot be overrun**, by no interleaving of requests and with any statement failing
before or after it takes effect: the count goes up before the row comes, and down only after a row
has gone. -/
theorem withinQuota_of_reaches {w : World} {reqs : List Request}
    {p : Pool Cmd Cmd.Resp Unit World} (hk : w.db.Keyed)
    (husers : (w.db.users.map UserRow.id).Nodup) (h₀ : w.db.WithinQuota)
    (h : Pool.Reaches World.Lossy (fun _ _ _ => True)
      (Pool.start w (reqs.map Request.prog)) p) : p.shared.db.WithinQuota := by
  have hstart : Pool.Conforms quotaProtocol (fun _ _ => True)
      (Pool.start w (reqs.map Request.prog)) := by
    refine Pool.conforms_start fun q hq => ?_
    obtain ⟨req, -, rfl⟩ := List.mem_map.mp hq
    exact follows_quota_request req
  obtain ⟨-, hmetered⟩ := h.invariant (I := fun w qs => Metered w.db qs) hstart
    (by rw [Pool.states_start]; exact metered_start hk husers h₀ _)
    (fun _ _ _ _ _ _ => trivial)
    fun p i e w' q _ hserve hi hallow hmetered => metered_step hmetered hi hallow hserve
  intro user huser
  obtain ⟨hle, hten⟩ := hmetered.counted user huser
  exact ⟨by omega, hten⟩

/-- Two deletes of the sample monitor and a new monitor, one call after the other, with
the answer of the first `DELETE` lost. -/
def Sample.contested : List Request :=
  [.delete 9 1, .delete 9 1, .create ⟨9, 7, "https://example.com", 60, 120, none, none, []⟩]

/-- Both deletes read the monitor, and the first removes it and does not hear of it. -/
def Sample.lostAnswer : List (ℕ × (Env × Bool)) :=
  ([0, 1, 0, 0, 0, 0].map fun i => (i, (default, false))) ++ [(0, (default, true))] ++
    [1, 1, 1, 1, 1, 2, 2].map fun i => (i, (default, false))

theorem withinQuota_of_reaches_sample :
    ∃ p : Pool Cmd Cmd.Resp Unit World,
      (p.shared.db.monitors.map MonitorRow.id = [2] ∧
        p.shared.db.users.map UserRow.monitorsCount = [2]) ∧ p.shared.db.WithinQuota := by
  obtain ⟨p, hreach, hcheck⟩ := Pool.exists_reaches_of_play World.lossy (fun _ _ _ => true)
    Sample.lostAnswer (Pool.start Sample.world (Sample.contested.map Request.prog))
    (fun p => decide (p.shared.db.monitors.map MonitorRow.id = [2]) &&
      decide (p.shared.db.users.map UserRow.monitorsCount = [2])) (by decide)
  simp only [Bool.and_eq_true, decide_eq_true_eq] at hcheck
  refine ⟨p, hcheck, withinQuota_of_reaches ⟨by decide, by decide⟩ (by decide) (by decide)
    (hreach.mono fun _ _ _ _ => trivial)⟩

end Sofon
