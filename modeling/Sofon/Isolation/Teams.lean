import Sofon.Isolation.Lists
import Sofon.Isolation.Monitors
import Sofon.Isolation.Settings

/-!
# Teams do not see each other

The operations that are called with a team, on one state of the whole server.  Two states may
differ in whatever belongs to other teams: an operation returns the same in both, and it
changes nothing that belongs to another team (`team_isolated`).

The two runs have the same environment: the same calls fail, the clock shows the same, and a
row that is inserted gets the same id.

The operations come in four kinds, by the tables that they work on, and there is one argument for
each, stated once (`Isolated`).

* The monitor service starts with a query that names the team.  What follows names a monitor
  only, but one that was found to be the team's, so the two runs are in lockstep and keep to the
  keys of the team (`isolated_onWorld`).
* The lists are read by queries that name the team, and nothing is written
  (`isolated_onListing`).
* Every statement on members, invitations and plugins names the team, so it works on the part of
  its table that belongs to the team (`isolated_onDirectory`, `isolated_onPlugins`).

What one kind of operation leaves alone in its part of the state is left alone in the whole
(`untouched_setWorld`).  A cached monitor carries the team it was read with, so a copy of another
team's monitor is never under a key of one's own (`Sound.ofTeam_eq_false`).
-/

namespace Sofon

open Interleaving Program

/-- What the server keeps: the monitors with what the pipeline knows of them, the columns and
the table that only the lists read, the directory and the plugins. -/
structure Instance (κ : Type) where
  world : World
  insertedAt : UUID → ℤ
  alerts : List AlertRecord
  directory : Directory
  plugins : PluginStore κ

/-- The operations of a team. -/
inductive TeamOp where
  /-- `monitor.Service.GetMonitor` -/
  | getMonitor (m : UUID)
  /-- `monitor.Service.GetAllMonitors` -/
  | getAllMonitors (opts : ListMonitorsOptions)
  /-- `monitor.Service.UpdateMonitorStatus` -/
  | updateMonitorStatus (m : UUID) (enable : Bool)
  /-- `monitor.Service.DeleteMonitor` -/
  | deleteMonitor (m : UUID)
  /-- `incident.Service.ListByTeamID` -/
  | listIncidents (opts : ListIncidentsOptions)
  /-- `incident.Service.GetByIDAndTeamID` -/
  | getIncident (incident : UUID)
  /-- `plugin.Service.GetPlugin` -/
  | getPlugin (pluginType : String)
  /-- `plugin.Service.ListPlugins` -/
  | listPlugins
  /-- `plugin.Service.UpsertPlugin` -/
  | upsertPlugin (pluginType : String) (enabled : Bool) (config : ConfigMap)
  /-- `plugin.Service.DeletePlugin` -/
  | deletePlugin (pluginType : String)
  /-- `team.Service.ListMembers` -/
  | listMembers
  /-- `team.Service.SetMemberActive` -/
  | setMemberActive (target caller : UUID) (active : Bool)
  /-- `team.Service.ListInvitations` -/
  | listInvitations
  /-- `team.Service.RevokeInvitation` -/
  | revokeInvitation (inv : UUID)

/-- What an operation returns. -/
@[reducible] def TeamOp.Result : TeamOp → Type
  | getMonitor _ => Except AppError Monitor
  | getAllMonitors _ => Except AppError ListMonitorsPage
  | updateMonitorStatus .. => Except AppError Bool
  | deleteMonitor _ => Except AppError Unit
  | listIncidents _ => Except AppError ListIncidentsPage
  | getIncident _ => Except AppError Incident
  | getPlugin _ => Except AppError (Plugin × ConfigMap)
  | listPlugins => Except AppError (List Plugin)
  | upsertPlugin .. => Except AppError Plugin
  | deletePlugin _ => Except AppError Unit
  | listMembers => Except AppError (List TeamMember)
  | setMemberActive .. => Except AppError Unit
  | listInvitations => Except AppError (List Invitation)
  | revokeInvitation _ => Except AppError Unit

/-- What the environment decides in the course of an operation. -/
structure Choices where
  calls : List (Bool × Env)
  reads : List ListingEnv
  statements : List DirectoryEnv
  plugins : List PluginEnv

/-- A key that may run out in the course of an operation. -/
def Choices.Gone (es : Choices) (k : UUID) : Prop := ∃ e ∈ es.calls, k ∈ e.2.expired

variable {κ : Type}

namespace Instance

/-- The tables that lists are made of. -/
def listing (i : Instance κ) : Listing where
  monitors := i.world.db.monitors
  incidents := i.world.db.incidents.map fun row => ⟨row, i.insertedAt row.id⟩
  alerts := i.alerts

/-- What the calls of the monitor service leave; alerts go with their incident:
`ON DELETE CASCADE`. -/
def setWorld (i : Instance κ) (w : World) : Instance κ :=
  { i with
    world := w
    alerts := i.alerts.filter fun a => w.db.incidents.any (·.id = a.incidentID) }

/-- Run a program of the monitor service. -/
def onWorld {α : Type} (es : Choices) (p : Prog α) (i : Instance κ) : α × Instance κ :=
  ((p.run World.serve es.calls i.world).2.1,
    i.setWorld (p.run World.serve es.calls i.world).2.2)

/-- Run a program that reads the lists. -/
def onListing {α : Type} (ilike : String → String → Bool) (es : Choices) (p : ListingProg α)
    (i : Instance κ) : α × Instance κ :=
  ((p.run (Listing.serve ilike) es.reads i.listing).2.1, i)

/-- Run a program of the team service. -/
def onDirectory {α : Type} (es : Choices) (p : DirectoryProg α) (i : Instance κ) :
    α × Instance κ :=
  ((p.run Directory.serve es.statements i.directory).2.1,
    { i with directory := (p.run Directory.serve es.statements i.directory).2.2 })

/-- Run a program of the plugin service. -/
def onPlugins {α : Type} (enc : Encryptor κ) (es : Choices) (p : PluginProg κ α)
    (i : Instance κ) : α × Instance κ :=
  ((p.run (PluginStore.serve enc) es.plugins i.plugins).2.1,
    { i with plugins := (p.run (PluginStore.serve enc) es.plugins i.plugins).2.2 })

end Instance

/-- One operation of a team. -/
def TeamOp.run (ilike : String → String → Bool) (uuids : UUIDText) (isAddress : String → Bool)
    (enc : Encryptor κ) (team : UUID) (es : Choices) :
    (op : TeamOp) → Instance κ → op.Result × Instance κ
  | .getMonitor m => Instance.onWorld es (MonitorService.getMonitor team m)
  | .getAllMonitors opts =>
    Instance.onListing ilike es (MonitorService.getAllMonitors uuids team opts)
  | .updateMonitorStatus m enable =>
    Instance.onWorld es (MonitorService.updateMonitorStatus team m enable)
  | .deleteMonitor m => Instance.onWorld es (MonitorService.deleteMonitor team m)
  | .listIncidents opts =>
    Instance.onListing ilike es (IncidentService.listByTeamID uuids team opts)
  | .getIncident incident =>
    Instance.onListing ilike es (IncidentService.getByIDAndTeamID incident team)
  | .getPlugin pluginType =>
    Instance.onPlugins enc es (PluginService.getPlugin enc team pluginType)
  | .listPlugins => Instance.onPlugins enc es (PluginService.listPlugins team)
  | .upsertPlugin pluginType enabled config =>
    Instance.onPlugins enc es (PluginService.upsertPlugin isAddress team pluginType enabled config)
  | .deletePlugin pluginType =>
    Instance.onPlugins enc es (PluginService.deletePlugin team pluginType)
  | .listMembers => Instance.onDirectory es (TeamService.listMembers team)
  | .setMemberActive target caller active =>
    Instance.onDirectory es (TeamService.setMemberActive team target caller active)
  | .listInvitations => Instance.onDirectory es (TeamService.listInvitations team)
  | .revokeInvitation inv => Instance.onDirectory es (TeamService.revokeInvitation team inv)

/-! ## What is compared -/

namespace Instance

/-- A state: the ids of the monitors are a primary key, and a cached monitor carries the id it
is stored under and the team of its row. -/
structure Sound (i : Instance κ) : Prop where
  keyed : (i.world.db.monitors.map (·.id)).Nodup
  cached : ∀ m x, i.world.redis.monitor m = some x →
    x.id = m ∧ ∀ row ∈ i.world.db.monitors, row.id = m → row.teamID = x.teamID

/-- **Two states that agree** on the users, and on all rows and cached monitors that belong to a
team.  The last two are no rows: the clock, and the id of the next row that is inserted. -/
structure Agree (team : UUID) (i i' : Instance κ) : Prop where
  users : i.world.db.users = i'.world.db.users
  accounts : i.directory.users = i'.directory.users
  monitors : i.world.db.monitors.filter (·.teamID = team) =
    i'.world.db.monitors.filter (·.teamID = team)
  incidents : i.listing.incidentsOf team = i'.listing.incidentsOf team
  alerts : i.listing.alertsOf team = i'.listing.alertsOf team
  cached : ∀ k, (i.world.redis.monitor k).filter (·.teamID = team) =
    (i'.world.redis.monitor k).filter (·.teamID = team)
  members : i.directory.members.filter (·.teamID = team) =
    i'.directory.members.filter (·.teamID = team)
  invitations : i.directory.invitations.filter (·.teamID = team) =
    i'.directory.invitations.filter (·.teamID = team)
  plugins : i.plugins.plugins.filter (·.teamID = team) =
    i'.plugins.plugins.filter (·.teamID = team)
  clock : i.plugins.clock = i'.plugins.clock
  nextID : i.plugins.nextID = i'.plugins.nextID

/-- Is this an alert about an incident of a monitor that is not the team's? -/
def alertOfOthers (i : Instance κ) (team : UUID) (a : AlertRecord) : Bool :=
  i.world.db.incidents.any fun row =>
    row.id = a.incidentID && !i.world.db.ofTeam team row.monitorID

/-- **Nothing has changed that belongs to another team**: no row, and nothing that Redis has
for a monitor that is not the team's.  A cached monitor is still there, or its time is up. -/
structure Untouched (team : UUID) (gone : UUID → Prop) (i i' : Instance κ) : Prop where
  monitors : i'.world.db.monitors.filter (·.teamID ≠ team) =
    i.world.db.monitors.filter (·.teamID ≠ team)
  incidents : (i'.world.db.incidents.filter fun row => !i.world.db.ofTeam team row.monitorID) =
    i.world.db.incidents.filter fun row => !i.world.db.ofTeam team row.monitorID
  insertedAt : i'.insertedAt = i.insertedAt
  alerts : i'.alerts.filter (i.alertOfOthers team) = i.alerts.filter (i.alertOfOthers team)
  schedule : ∀ m, i.world.db.ofTeam team m = false →
    i'.world.redis.schedule.score (.id m) = i.world.redis.schedule.score (.id m)
  incident : ∀ m, i.world.db.ofTeam team m = false →
    i'.world.redis.incident m = i.world.redis.incident m
  status : ∀ m, i.world.db.ofTeam team m = false →
    i'.world.redis.status m = i.world.redis.status m
  cached : ∀ m x, i.world.redis.monitor m = some x → x.teamID ≠ team →
    i'.world.redis.monitor m = some x ∨ gone m ∧ i'.world.redis.monitor m = none
  members : i'.directory.members.filter (·.teamID ≠ team) =
    i.directory.members.filter (·.teamID ≠ team)
  invitations : i'.directory.invitations.filter (·.teamID ≠ team) =
    i.directory.invitations.filter (·.teamID ≠ team)
  plugins : i'.plugins.plugins.filter (·.teamID ≠ team) =
    i.plugins.plugins.filter (·.teamID ≠ team)

variable {team : UUID} {i i' : Instance κ} {α : Type} {es : Choices}

theorem Untouched.refl (team : UUID) (gone : UUID → Prop) (i : Instance κ) :
    Untouched team gone i i where
  monitors := rfl
  incidents := rfl
  insertedAt := rfl
  alerts := rfl
  schedule _ _ := rfl
  incident _ _ := rfl
  status _ _ := rfl
  cached _ _ hx _ := Or.inl hx
  members := rfl
  invitations := rfl
  plugins := rfl

/-- The incidents of the team, without the times of their insertion. -/
theorem incidentsOf_listing (i : Instance κ) (team : UUID) :
    (i.listing.incidentsOf team).map IncidentRecord.toIncidentRow =
      i.world.db.incidents.filter fun row => i.world.db.ofTeam team row.monitorID := by
  unfold Listing.incidentsOf listing
  rw [List.filter_map, List.map_map]
  exact List.map_id _

theorem Agree.world (h : Agree team i i') : World.Agree team i.world i'.world where
  users := h.users
  monitors := h.monitors
  incidents := by
    rw [← incidentsOf_listing, ← incidentsOf_listing, h.incidents]
  cached := h.cached

theorem Agree.listing (h : Agree team i i') : i.listing.part team = i'.listing.part team := by
  unfold Listing.part
  rw [h.incidents, h.alerts]
  exact congrArg (Listing.mk · _ _) h.monitors

theorem Agree.directory (h : Agree team i i') :
    i.directory.part team = i'.directory.part team := by
  unfold Directory.part
  rw [h.accounts, h.members, h.invitations]

theorem Agree.pluginStore (h : Agree team i i') : i.plugins.part team = i'.plugins.part team := by
  unfold PluginStore.part
  rw [h.plugins, h.clock, h.nextID]

/-! ## Every kind of operation -/

/-- A cached monitor of another team is not stored under the id of a monitor of the team. -/
theorem Sound.ofTeam_eq_false (h : i.Sound) {m : UUID} {x : Monitor}
    (hx : i.world.redis.monitor m = some x) (hteam : x.teamID ≠ team) :
    i.world.db.ofTeam team m = false := by
  rw [DB.ofTeam, List.any_eq_false]
  intro row hrow hmatch
  simp only [Bool.and_eq_true, decide_eq_true_eq] at hmatch
  exact hteam (((h.cached m x hx).2 row hrow hmatch.1).symm.trans hmatch.2)

/-- What is left alone in the world is left alone in the instance. -/
theorem untouched_setWorld {gone : UUID → Prop} {w : World} (hi : i.Sound)
    (h : Sofon.Untouched team (i.world.db.ofTeam team) gone i.world w) :
    Untouched team gone i (i.setWorld w) where
  monitors := h.monitors
  incidents := h.incidents
  insertedAt := rfl
  alerts := by
    refine List.filter_filter_eq_filter (fun a ha => ?_) _
    obtain ⟨row, hrow, hmatch⟩ := List.any_eq_true.mp ha
    obtain ⟨hid, hother⟩ := Bool.and_eq_true_iff.mp hmatch
    -- the incident is still there
    have hmem : row ∈ w.db.incidents.filter fun row => !i.world.db.ofTeam team row.monitorID :=
      h.incidents.symm ▸ List.mem_filter.mpr ⟨hrow, hother⟩
    exact List.any_eq_true.mpr ⟨row, List.mem_of_mem_filter hmem, hid⟩
  schedule m hm := by
    refine h.schedule _ fun k hk heq => ?_
    obtain rfl := Member.id.inj heq
    exact Bool.false_ne_true (hm.symm.trans hk)
  incident := h.incident
  status := h.status
  cached m x hx hteam := by
    have hcached := h.cached m (hi.ofTeam_eq_false hx hteam)
    rw [hx] at hcached
    exact hcached
  members := rfl
  invitations := rfl
  plugins := rfl

/-- **Isolation**: the same result in two states that agree, and nothing changed that belongs to
another team. -/
structure Isolated (team : UUID) (es : Choices) (f : Instance κ → α × Instance κ) : Prop where
  result : ∀ i i', i.Sound → i'.Sound → Agree team i i' → (f i).1 = (f i').1
  untouched : ∀ i, i.Sound → Untouched team es.Gone i (f i).2

/-- Two runs of the monitor service keep in step, so it is isolated. -/
theorem isolated_onWorld {p : Prog α}
    (hp : ∀ w w' : World, (w.db.monitors.map (·.id)).Nodup → (w'.db.monitors.map (·.id)).Nodup →
      InStep team (w.db.ofTeam team) es.Gone w w w' →
        Lockstep World.serve (Expiring es.Gone)
          (fun a v b v' => a = b ∧ InStep team (w.db.ofTeam team) es.Gone w v v') p p w w') :
    Isolated team es (onWorld (κ := κ) es p) := by
  have hchoices : ∀ e ∈ es.calls, Expiring es.Gone e := fun e he k hk => ⟨e, he, hk⟩
  have hdefault : Expiring es.Gone default := fun k hk => absurd hk List.not_mem_nil
  constructor
  · intro i i' hi hi' h
    have hstart : InStep team (i.world.db.ofTeam team) es.Gone i.world i.world i'.world :=
      ⟨h.world.sameView, Sofon.Untouched.refl _⟩
    exact ((hp _ _ hi.keyed hi'.keyed hstart).run es.calls hchoices hdefault).1
  · intro i hi
    -- the run beside itself
    have hstart : InStep team (i.world.db.ofTeam team) es.Gone i.world i.world i.world :=
      ⟨⟨rfl, fun _ => rfl⟩, Sofon.Untouched.refl _⟩
    have hrun := (hp _ _ hi.keyed hi.keyed hstart).run es.calls hchoices hdefault
    exact untouched_setWorld hi hrun.2.2

theorem isolated_onListing (ilike : String → String → Bool) {p : ListingProg α}
    (hp : p.Only (TeamListingQuery team)) : Isolated team es (onListing (κ := κ) ilike es p) where
  result _ _ _ _ h := Listing.run_eq hp ilike es.reads h.listing
  untouched i _ := Untouched.refl team es.Gone i

theorem isolated_onDirectory {p : DirectoryProg α} (hp : p.Only (TeamDirectoryCmd team)) :
    Isolated team es (onDirectory (κ := κ) es p) where
  result _ _ _ _ h := (Directory.run_eq hp es.statements h.directory).1
  untouched i _ := by
    have hother := (Directory.run_eq hp es.statements (rfl : i.directory.part team = _)).2
    exact { Untouched.refl team es.Gone i with
      members := hother.members
      invitations := hother.invitations }

theorem isolated_onPlugins (enc : Encryptor κ) {p : PluginProg κ α}
    (hp : p.Only (TeamPluginCmd team)) : Isolated team es (onPlugins enc es p) where
  result _ _ _ _ h := (PluginStore.run_eq hp enc es.plugins h.pluginStore).1
  untouched i _ := by
    have hother := (PluginStore.run_eq hp enc es.plugins (rfl : i.plugins.part team = _)).2
    exact { Untouched.refl team es.Gone i with plugins := hother.plugins }

end Instance

/-- **Teams are isolated**: what an operation returns depends on nothing that belongs to another
team, and it changes nothing that does. -/
theorem team_isolated (ilike : String → String → Bool) (uuids : UUIDText)
    (isAddress : String → Bool) (enc : Encryptor κ) (team : UUID) (op : TeamOp) (es : Choices) :
    (∀ i i' : Instance κ, i.Sound → i'.Sound → Instance.Agree team i i' →
      (op.run ilike uuids isAddress enc team es i).1 =
        (op.run ilike uuids isAddress enc team es i').1) ∧
    ∀ i : Instance κ, i.Sound →
      Instance.Untouched team es.Gone i (op.run ilike uuids isAddress enc team es i).2 := by
  suffices h : Instance.Isolated team es (op.run ilike uuids isAddress enc team es) from
    ⟨h.result, h.untouched⟩
  cases op with
  | getMonitor m =>
    exact Instance.isolated_onWorld fun w w' hk hk' h => lockstep_getMonitor hk hk' rfl h
  | getAllMonitors opts => exact Instance.isolated_onListing ilike (only_getAllMonitors uuids opts)
  | updateMonitorStatus m enable =>
    exact Instance.isolated_onWorld fun w w' hk hk' h =>
      lockstep_updateMonitorStatus enable hk hk' rfl h
  | deleteMonitor m =>
    exact Instance.isolated_onWorld fun w w' hk hk' h => lockstep_deleteMonitor hk hk' rfl h
  | listIncidents opts => exact Instance.isolated_onListing ilike (only_listByTeamID uuids opts)
  | getIncident incident =>
    exact Instance.isolated_onListing ilike (only_getByIDAndTeamID incident)
  | getPlugin pluginType => exact Instance.isolated_onPlugins enc (only_getPlugin enc pluginType)
  | listPlugins => exact Instance.isolated_onPlugins enc only_listPlugins
  | upsertPlugin pluginType enabled config =>
    exact Instance.isolated_onPlugins enc (only_upsertPlugin isAddress pluginType enabled config)
  | deletePlugin pluginType =>
    exact Instance.isolated_onPlugins enc (only_deletePlugin pluginType)
  | listMembers => exact Instance.isolated_onDirectory only_listMembers
  | setMemberActive target caller active =>
    exact Instance.isolated_onDirectory (only_setMemberActive target caller active)
  | listInvitations => exact Instance.isolated_onDirectory only_listInvitations
  | revokeInvitation inv => exact Instance.isolated_onDirectory (only_revokeInvitation inv)

/-- A server with one monitor of the team 9, and with what other teams have. -/
def Sample.shared (others : List MonitorRow) (cached : UUID → Option Monitor) :
    Instance ConfigMap where
  world := ⟨{ Redis.empty with monitor := cached }, ⟨[⟨7, 1⟩], Sample.row :: others, [], 3⟩, []⟩
  insertedAt := fun _ => 0
  alerts := []
  directory := ⟨[], false, [], [], 1, []⟩
  plugins := ⟨[], fun _ => none, fun _ => none, [], 0, 1⟩

/-- A monitor of the team 4. -/
def Sample.neighbour : MonitorRow := { Sample.row with id := 2, teamID := 4 }

/-- The team 9 wants to delete a monitor of the team 4. -/
theorem team_isolated_neighbour :
    let enc : Encryptor ConfigMap := ⟨fun _ m => m, .ok, fun _ m => ⟨m, rfl, fun _ => rfl⟩⟩
    let es : Choices := ⟨[], [], [], []⟩
    let delete := TeamOp.run (fun _ _ => true) Sample.uuids (fun _ => true) enc 9 es
      (.deleteMonitor 2)
    let i := Sample.shared [Sample.neighbour] fun m =>
      if m = 2 then some (MonitorRepository.ofRow Sample.neighbour) else none
    (delete i).1 = (delete (Sample.shared [] fun _ => none)).1 ∧
      Instance.Untouched 9 es.Gone i (delete i).2 := by
  intro enc es delete i
  have hsound : i.Sound := by
    refine ⟨by decide, fun m x hx => ?_⟩
    by_cases hm : m = 2
    · obtain rfl := hm
      obtain rfl := Option.some.inj hx
      exact ⟨rfl, by decide⟩
    · exact absurd (hx.symm.trans (if_neg hm)) (Option.some_ne_none x)
  have hsound' : (Sample.shared [] fun _ => none).Sound := ⟨by decide, nofun⟩
  have hcached : ∀ k, (i.world.redis.monitor k).filter (·.teamID = 9) = none := by
    intro k
    show Option.filter _ (if k = 2 then _ else _) = none
    split
    · rfl
    · rfl
  have hagree : Instance.Agree 9 i (Sample.shared [] fun _ => none) :=
    ⟨rfl, rfl, rfl, rfl, rfl, hcached, rfl, rfl, rfl, rfl, rfl⟩
  have h := team_isolated (fun _ _ => true) Sample.uuids (fun _ => true) enc 9 (.deleteMonitor 2) es
  exact ⟨h.1 i _ hsound hsound' hagree, h.2 i hsound⟩

end Sofon
