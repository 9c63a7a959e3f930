import Sofon.Foundations.Lockstep
import Sofon.Foundations.Tables
import Sofon.Monitor.Service

/-!
# A team and the monitors of the others

What `GetMonitor`, `UpdateMonitorStatus` and `DeleteMonitor` do for a team: they read nothing
but what belongs to the team, and change nothing else.

Many of the calls name a monitor and no team.  They come after a query that found the monitor
among those of the team, and the proofs follow this order: the first query decides for both
runs, and what comes after it works on a monitor of the team.

* `DB.part`: the part of the database that belongs to a team.
* `DB.exec_part`: a query about a monitor of the team works on this part alone.
* `SameView`, `Untouched`: what stays the same between two runs, and what within one.
-/

namespace Sofon

open Interleaving KeyValue Program

/-- Is this a monitor of the team? -/
def DB.ofTeam (d : DB) (team m : UUID) : Bool :=
  d.monitors.any fun row => row.id = m && row.teamID = team

/-- The part of the database that belongs to a team whose monitors are `mine`, and the users. -/
def DB.part (d : DB) (team : UUID) (mine : UUID → Bool) : DB where
  users := d.users
  monitors := d.monitors.filter (·.teamID = team)
  incidents := d.incidents.filter fun row => mine row.monitorID
  nextID := UUID.nil

/-- The queries about one monitor of a team, when it is known to be one. -/
inductive TeamQuery (team m : UUID) : Query → Prop
  | updateMonitorStatus (enabled : Bool) : TeamQuery team m (.updateMonitorStatus m enabled team)
  | closeMonitorIncident (t : Time) : TeamQuery team m (.closeMonitorIncident m t)
  | deleteMonitor : TeamQuery team m (.deleteMonitor m team)
  | decrementMonitorCount (user : UUID) : TeamQuery team m (.decrementMonitorCount user)

/-- The calls about it. -/
inductive TeamCmd (team m : UUID) : Cmd → Prop
  | timeNow : TeamCmd team m .timeNow
  | ctxDone : TeamCmd team m .ctxDone
  | sql {q : Query} (h : TeamQuery team m q) : TeamCmd team m (.sql q)
  | setMonitor {x : Monitor} (hid : x.id = m) (hteam : x.teamID = team) :
      TeamCmd team m (.redis (.setMonitor x))
  | delMonitor : TeamCmd team m (.redis (.delMonitor m))
  | zAdd (score : ℤ) : TeamCmd team m (.redis (.zAdd [⟨score, .id m⟩]))
  | zRem : TeamCmd team m (.redis (.zRem (.id m)))
  | delIncident : TeamCmd team m (.redis (.delIncident m))
  | hDelStatus : TeamCmd team m (.redis (.hDelStatus m))

variable {team m : UUID} {mine : UUID → Bool}

namespace DB

/-- The monitors of a team, counted in the part that belongs to it. -/
theorem countP_part (mine : UUID → Bool) (d : DB) (p : MonitorRow → Bool)
    (hp : ∀ row, p row → row.teamID = team) :
    (d.part team mine).monitors.countP p = d.monitors.countP p := by
  show (d.monitors.filter (·.teamID = team)).countP p = _
  rw [List.countP_filter]
  refine List.countP_congr fun row _ => ?_
  rw [Bool.and_eq_true, decide_eq_true_eq, and_iff_left_iff_imp]
  exact hp row

theorem ofTeam_part (team : UUID) (mine : UUID → Bool) (d : DB) (m : UUID) :
    (d.part team mine).ofTeam team m = d.ofTeam team m := by
  unfold ofTeam part
  rw [List.any_filter]
  congr 1
  funext row
  rw [Bool.and_left_comm, Bool.and_self]

/-- The open incidents of a monitor of the team are in that part. -/
theorem openIncidents_part (hm : mine m) (d : DB) :
    (d.part team mine).openIncidents m = d.openIncidents m := by
  unfold openIncidents part
  rw [List.filter_filter]
  refine List.filter_congr fun row _ => ?_
  unfold IncidentRow.openFor
  by_cases hrow : row.monitorID = m
  · simp [hrow, hm]
  · simp [hrow]

/-- **A query about a monitor of the team** returns what it would return if there were
nothing else, and leaves of that part what it would leave. -/
theorem exec_part {q : Query} (hq : TeamQuery team m q) (hm : mine m) (now : Time) (d : DB) :
    exec now q (d.part team mine) = ((exec now q d).1, (exec now q d).2.part team mine) := by
  cases hq with
  | updateMonitorStatus enabled =>
    have hcount := countP_part mine d
      (fun row => row.id = m && row.teamID = team) fun row hrow =>
        of_decide_eq_true (Bool.and_eq_true_iff.mp hrow).2
    refine Prod.ext (congrArg Except.ok hcount) ?_
    simp only [exec, part, List.filter_map]
    congr 2
    refine List.filter_congr fun row _ => ?_
    show _ = decide ((if _ then _ else _ : MonitorRow).teamID = team)
    split
    · rfl
    · rfl
  | closeMonitorIncident t =>
    simp only [exec, openIncidents_part hm]
    cases d.openIncidents m with
    | nil => rfl
    | cons row rows =>
      dsimp only
      split
      · refine Prod.ext rfl ?_
        simp only [part, List.filter_map]
        congr 2
        refine List.filter_congr fun row _ => ?_
        show _ = mine (row.close m t.micros).monitorID
        rw [IncidentRow.close_monitorID]
      · rfl
  | deleteMonitor =>
    have hcount := countP_part mine d
      (fun row => row.id = m && row.teamID = team) fun row hrow =>
        of_decide_eq_true (Bool.and_eq_true_iff.mp hrow).2
    have hany : ((d.part team mine).monitors.any fun x => x.id = m && x.teamID = team) =
        d.monitors.any fun x => x.id = m && x.teamID = team :=
      ofTeam_part team mine d m
    refine Prod.ext (congrArg Except.ok hcount) ?_
    simp only [exec, hany]
    simp only [part, List.filter_filter, Bool.and_comm]
  | decrementMonitorCount user => rfl

/-- **The first query**, with the team and the monitor, finds what there is to find in the part
that belongs to the team. -/
theorem exec_getMonitorByTeamID_part (mine : UUID → Bool) (now : Time) {d : DB}
    (hkeyed : (d.monitors.map (·.id)).Nodup) :
    (exec now (.getMonitorByTeamID m team) (d.part team mine)).1 =
      (exec now (.getMonitorByTeamID m team) d).1 := by
  have hfilter := List.filter_find?_eq_find?_filter hkeyed (·.teamID = team) m
  have hfind : ((d.part team mine).monitor? m).filter (·.teamID = team) =
      (d.monitor? m).filter (·.teamID = team) := by
    unfold monitor? part
    rw [hfilter, List.filter_find?_eq_find?_filter (hkeyed.sublist (List.filter_sublist.map _)),
      List.filter_filter]
    simp only [Bool.and_self]
  simp only [exec, hfind]
  cases (d.monitor? m).filter (·.teamID = team) with
  | none => rfl
  | some row => rfl

end DB

/-! ## One call -/

/-- One call, with a context that may have been cancelled by then. -/
def World.serve (e : Bool × Env) : World → (c : Cmd) → c.Resp × World := World.exec e.1 e.2

/-- Two states that look the same to a team. -/
structure SameView (team : UUID) (mine : UUID → Bool) (w w' : World) : Prop where
  db : w.db.part team mine = w'.db.part team mine
  cached : ∀ k, (w.redis.monitor k).filter (·.teamID = team) =
    (w'.redis.monitor k).filter (·.teamID = team)

/-- What does not belong to the team is as it was.  Only cached monitors may be gone, of those
whose time is up. -/
structure Untouched (team : UUID) (mine : UUID → Bool) (gone : UUID → Prop) (w w' : World) :
    Prop where
  monitors : w'.db.monitors.filter (·.teamID ≠ team) = w.db.monitors.filter (·.teamID ≠ team)
  incidents : (w'.db.incidents.filter fun row => !mine row.monitorID) =
    w.db.incidents.filter fun row => !mine row.monitorID
  schedule : ∀ member, (∀ k, mine k → member ≠ .id k) →
    w'.redis.schedule.score member = w.redis.schedule.score member
  incident : ∀ k, mine k = false → w'.redis.incident k = w.redis.incident k
  status : ∀ k, mine k = false → w'.redis.status k = w.redis.status k
  cached : ∀ k, mine k = false → w'.redis.monitor k = w.redis.monitor k ∨
    gone k ∧ w'.redis.monitor k = none

variable {gone : UUID → Prop} {w w' w₀ : World}

/-- Keys run out for both. -/
theorem SameView.expire (h : SameView team mine w w') (ks : List UUID) :
    SameView team mine (w.expire ks) (w'.expire ks) where
  db := h.db
  cached k := by
    show ((w.redis.monitor k).filter _).filter _ = ((w'.redis.monitor k).filter _).filter _
    have hcomm (x : Option Monitor) (p q : Monitor → Bool) :
        (x.filter p).filter q = (x.filter q).filter p := by
      rw [Option.filter_filter, Option.filter_filter]
      simp only [Bool.and_comm]
    rw [hcomm, h.cached, hcomm]

theorem Untouched.refl (w : World) : Untouched team mine gone w w where
  monitors := rfl
  incidents := rfl
  schedule _ _ := rfl
  incident _ _ := rfl
  status _ _ := rfl
  cached _ _ := Or.inl rfl

theorem Untouched.expire (h : Untouched team mine gone w₀ w) {ks : List UUID}
    (hks : ∀ k ∈ ks, gone k) : Untouched team mine gone w₀ (w.expire ks) where
  monitors := h.monitors
  incidents := h.incidents
  schedule := h.schedule
  incident := h.incident
  status := h.status
  cached k hk := by
    have hcached : (w.expire ks).redis.monitor k = (w.redis.monitor k).filter fun _ =>
      !ks.contains k := rfl
    rw [hcached]
    cases hin : ks.contains k with
    | true =>
      have hnone : ((w.redis.monitor k).filter fun _ => !true) = none := by
        cases w.redis.monitor k <;> rfl
      exact Or.inr ⟨hks k (List.contains_iff_mem.mp hin), hnone⟩
    | false =>
      have hsame : ((w.redis.monitor k).filter fun _ => !false) = w.redis.monitor k := by
        cases w.redis.monitor k <;> rfl
      rw [hsame]
      exact h.cached k hk

/-- A command about a monitor of the team does the same in both states. -/
theorem SameView.redis {c : RedisCmd} (hc : TeamCmd team m (.redis c))
    (h : SameView team mine w w') :
    (w.redis.exec c).1 = (w'.redis.exec c).1 ∧
      SameView team mine { w with redis := (w.redis.exec c).2 }
        { w' with redis := (w'.redis.exec c).2 } := by
  have hupdate (k : UUID) (x : Option Monitor) (k' : UUID) :
      (Function.update w.redis.monitor k x k').filter (·.teamID = team) =
        (Function.update w'.redis.monitor k x k').filter (·.teamID = team) := by
    by_cases hk : k' = k
    · rw [hk, Function.update_self, Function.update_self]
    · rw [Function.update_of_ne hk, Function.update_of_ne hk]
      exact h.cached k'
  cases hc with
  | @setMonitor x hid hteam => exact ⟨rfl, h.db, hupdate x.id (some x)⟩
  | delMonitor => exact ⟨rfl, h.db, hupdate m none⟩
  | zAdd score => exact ⟨rfl, h.db, h.cached⟩
  | zRem => exact ⟨rfl, h.db, h.cached⟩
  | delIncident => exact ⟨rfl, h.db, h.cached⟩
  | hDelStatus => exact ⟨rfl, h.db, h.cached⟩

/-- It leaves alone what is kept about other monitors. -/
theorem Untouched.redis {c : RedisCmd} (hc : TeamCmd team m (.redis c)) (hm : mine m)
    (h : Untouched team mine gone w₀ w) :
    Untouched team mine gone w₀ { w with redis := (w.redis.exec c).2 } := by
  have hne {k : UUID} (hk : mine k = false) : k ≠ m := by
    rintro rfl
    exact Bool.false_ne_true (hk.symm.trans hm)
  cases hc with
  | @setMonitor x hid hteam =>
    refine ⟨h.monitors, h.incidents, h.schedule, h.incident, h.status, fun k hk => ?_⟩
    have hother : ((w.redis.exec (.setMonitor x)).2).monitor k = w.redis.monitor k :=
      Function.update_of_ne (hid.symm ▸ hne hk) _ _
    rw [hother]
    exact h.cached k hk
  | delMonitor =>
    refine ⟨h.monitors, h.incidents, h.schedule, h.incident, h.status, fun k hk => ?_⟩
    have hother : ((w.redis.exec (.delMonitor m)).2).monitor k = w.redis.monitor k :=
      Function.update_of_ne (hne hk) _ _
    rw [hother]
    exact h.cached k hk
  | zAdd score =>
    refine ⟨h.monitors, h.incidents, fun member hmember => ?_, h.incident, h.status, h.cached⟩
    rw [← h.schedule member hmember]
    refine SortedSet.score_add_of_not_mem ?_ _
    rw [List.map_singleton, List.mem_singleton]
    exact hmember m hm
  | zRem =>
    refine ⟨h.monitors, h.incidents, fun member hmember => ?_, h.incident, h.status, h.cached⟩
    rw [← h.schedule member hmember]
    exact SortedSet.score_remove_of_ne (hmember m hm) _
  | delIncident =>
    refine ⟨h.monitors, h.incidents, h.schedule, fun k hk => ?_, h.status, h.cached⟩
    rw [← h.incident k hk]
    exact Function.update_of_ne (hne hk) _ _
  | hDelStatus => exact h

/-- A query about a monitor of the team does the same to both databases. -/
theorem SameView.sql {q : Query} (hq : TeamQuery team m q) (hm : mine m) (now : Time)
    (h : SameView team mine w w') :
    (w.db.exec now q).1 = (w'.db.exec now q).1 ∧
      SameView team mine { w with db := (w.db.exec now q).2 }
        { w' with db := (w'.db.exec now q).2 } := by
  have hexec := DB.exec_part hq hm now w.db
  rw [h.db, DB.exec_part hq hm now w'.db] at hexec
  obtain ⟨hanswer, hpart⟩ := Prod.mk.inj hexec
  exact ⟨hanswer.symm, hpart.symm, h.cached⟩

/-- It changes no row of another team and of no monitor of another team. -/
theorem Untouched.sql {q : Query} (hq : TeamQuery team m q) (hm : mine m) (now : Time)
    (h : Untouched team mine gone w₀ w) :
    Untouched team mine gone w₀ { w with db := (w.db.exec now q).2 } := by
  have hne {row : IncidentRow} (hrow : (!mine row.monitorID) = true) : row.monitorID ≠ m := by
    intro heq
    rw [heq, hm] at hrow
    exact Bool.false_ne_true hrow
  suffices hrows : ((w.db.exec now q).2.monitors.filter (·.teamID ≠ team) =
      w.db.monitors.filter (·.teamID ≠ team)) ∧
      ((w.db.exec now q).2.incidents.filter fun row => !mine row.monitorID) =
        w.db.incidents.filter fun row => !mine row.monitorID from
    ⟨hrows.1.trans h.monitors, hrows.2.trans h.incidents, h.schedule, h.incident, h.status,
      h.cached⟩
  cases hq with
  | updateMonitorStatus enabled =>
    refine ⟨List.filter_map_eq_filter (fun row => ?_) (fun row hrow => ?_) _, rfl⟩
    · split
      · rfl
      · rfl
    · have hteam : row.teamID ≠ team := of_decide_eq_true hrow
      rw [if_neg (by simp [hteam])]
  | closeMonitorIncident t =>
    simp only [DB.exec]
    cases w.db.openIncidents m with
    | nil => exact ⟨rfl, rfl⟩
    | cons row rows =>
      dsimp only
      split
      · refine ⟨rfl, List.filter_map_eq_filter (fun row => ?_) (fun row hrow => ?_) _⟩
        · rw [IncidentRow.close_monitorID]
        · have hopen : row.openFor m = false := by simp [IncidentRow.openFor, hne hrow]
          rw [IncidentRow.close, if_neg (by rw [hopen]; exact Bool.false_ne_true)]
      · exact ⟨rfl, rfl⟩
  | deleteMonitor =>
    refine ⟨List.filter_filter_eq_filter (fun row hrow => ?_) _,
      List.filter_filter_eq_filter (fun row hrow => ?_) _⟩
    · have hteam : row.teamID ≠ team := of_decide_eq_true hrow
      simp [hteam]
    · simp [hne hrow]
  | decrementMonitorCount user => exact ⟨rfl, rfl⟩

/-- **One call** about a monitor of the team is answered alike in two states that look the
same to the team, and they go on looking the same; what is not the team's is left alone. -/
theorem TeamCmd.step {c : Cmd} (hc : TeamCmd team m c) (hm : mine m) {e : Bool × Env}
    (he : ∀ k ∈ e.2.expired, gone k)
    (h : SameView team mine w w' ∧ Untouched team mine gone w₀ w) :
    (World.serve e w c).1 = (World.serve e w' c).1 ∧
      SameView team mine (World.serve e w c).2 (World.serve e w' c).2 ∧
        Untouched team mine gone w₀ (World.serve e w c).2 := by
  have hview := h.1.expire e.2.expired
  have hother := h.2.expire he
  obtain ⟨canceled, env⟩ := e
  cases c with
  | timeNow => exact ⟨rfl, hview, hother⟩
  | ctxDone => exact ⟨rfl, hview, hother⟩
  | redis c =>
    simp only [World.serve, World.exec]
    split
    · exact ⟨rfl, hview, hother⟩
    · split
      · exact ⟨rfl, hview, hother⟩
      · obtain ⟨hanswer, hnext⟩ := hview.redis hc
        exact ⟨hanswer, hnext, hother.redis hc hm⟩
  | sql q =>
    cases hc with
    | sql hq =>
      simp only [World.serve, World.exec]
      split
      · exact ⟨rfl, hview, hother⟩
      · split
        · exact ⟨rfl, hview, hother⟩
        · obtain ⟨hanswer, hnext⟩ := hview.sql hq hm env.now
          exact ⟨hanswer, hnext, hother.sql hq hm env.now⟩
  | send ev => cases hc
  | offer job => cases hc

/-! ## The operations -/

/-- Two states that agree on the users and on everything that belongs to a team. -/
structure World.Agree (team : UUID) (w w' : World) : Prop where
  users : w.db.users = w'.db.users
  monitors : w.db.monitors.filter (·.teamID = team) = w'.db.monitors.filter (·.teamID = team)
  incidents : (w.db.incidents.filter fun row => w.db.ofTeam team row.monitorID) =
    w'.db.incidents.filter fun row => w'.db.ofTeam team row.monitorID
  cached : ∀ k, (w.redis.monitor k).filter (·.teamID = team) =
    (w'.redis.monitor k).filter (·.teamID = team)

/-- They agree on which monitors are the team's. -/
theorem World.Agree.ofTeam (h : World.Agree team w w') : w.db.ofTeam team = w'.db.ofTeam team := by
  funext m
  have hpart := DB.ofTeam_part team (fun _ => true) w.db m
  have hpart' := DB.ofTeam_part team (fun _ => true) w'.db m
  rw [← hpart, ← hpart']
  exact congrArg (List.any · _) h.monitors

theorem World.Agree.sameView (h : World.Agree team w w') :
    SameView team (w.db.ofTeam team) w w' where
  db := by
    have hincidents := h.incidents
    rw [← h.ofTeam] at hincidents
    unfold DB.part
    rw [h.users, h.monitors, hincidents]
  cached := h.cached

/-- What the first query finds is a monitor of the team. -/
theorem DB.ofTeam_of_exec {now : Time} {d : DB} {row : MonitorRow}
    (h : (d.exec now (.getMonitorByTeamID m team)).1 = .ok row) :
    row.id = m ∧ row.teamID = team ∧ d.ofTeam team m := by
  obtain ⟨hfind, hteam⟩ := monitor?_of_getMonitorByTeamID h
  have hid : row.id = m := id_of_monitor? hfind
  refine ⟨hid, hteam, List.any_eq_true.mpr ⟨row, mem_of_monitor? hfind, ?_⟩⟩
  exact Bool.and_eq_true_iff.mpr ⟨decide_eq_true hid, decide_eq_true hteam⟩

/-- What is known in the course of two runs. -/
def InStep (team : UUID) (mine : UUID → Bool) (gone : UUID → Prop) (w₀ w w' : World) : Prop :=
  SameView team mine w w' ∧ Untouched team mine gone w₀ w

/-- The choices that let no other key run out. -/
def Expiring (gone : UUID → Prop) (e : Bool × Env) : Prop := ∀ k ∈ e.2.expired, gone k

/-- **The look-up** comes out the same, and a monitor that it finds is the team's. -/
theorem lockstep_get (hkeyed : (w.db.monitors.map (·.id)).Nodup)
    (hkeyed' : (w'.db.monitors.map (·.id)).Nodup) (hmine : mine = w.db.ofTeam team)
    (h : InStep team mine gone w₀ w w') :
    Lockstep World.serve (Expiring gone) (fun a v b v' => a = b ∧
        (∀ x, a = .ok x → x.id = m ∧ x.teamID = team ∧ mine m) ∧ InStep team mine gone w₀ v v')
      (MonitorRepository.get team m) (MonitorRepository.get team m) w w' := by
  refine Lockstep.call fun e he => ?_
  have hview := h.1.expire e.2.expired
  have hother := h.2.expire he
  obtain ⟨canceled, env⟩ := e
  simp only [World.serve, World.exec]
  split
  · exact ⟨rfl, (fun _ hx => by cases hx), hview, hother⟩
  · split
    · exact ⟨rfl, (fun _ hx => by cases hx), hview, hother⟩
    · have hanswer : (w.db.exec env.now (.getMonitorByTeamID m team)).1 =
          (w'.db.exec env.now (.getMonitorByTeamID m team)).1 := by
        rw [← DB.exec_getMonitorByTeamID_part mine env.now hkeyed,
          ← DB.exec_getMonitorByTeamID_part mine env.now hkeyed', h.1.db]
      simp only [World.expire_db, DB.exec_getMonitorByTeamID_snd, ← hanswer]
      cases hfound : (w.db.exec env.now (.getMonitorByTeamID m team)).1 with
      | error err => exact ⟨rfl, (fun _ hx => by cases hx), hview, hother⟩
      | ok row =>
        obtain ⟨hid, hteam, hm⟩ := DB.ofTeam_of_exec hfound
        refine ⟨rfl, fun x hx => ?_, hview, hother⟩
        obtain rfl := Except.ok.inj hx
        exact ⟨hid, hteam, hmine ▸ hm⟩

/-- A program about a monitor of the team returns the same in both runs. -/
theorem lockstep_of_only {α : Type} {p : Prog α} (hp : p.Only (TeamCmd team m)) (hm : mine m)
    (h : InStep team mine gone w₀ w w') :
    Lockstep World.serve (Expiring gone)
      (fun a v b v' => a = b ∧ InStep team mine gone w₀ v v') p p w w' :=
  hp.lockstep (fun _ hc _ he _ _ hI => hc.step hm he hI) h

theorem only_scheduleMonitor_teamCmd (i : ℤ) :
    (MonitorService.scheduleMonitor m i).Only (TeamCmd team m) :=
  MonitorService.only_scheduleMonitor _ .timeNow .ctxDone .zAdd i

theorem only_disableMonitor_teamCmd : (MonitorService.disableMonitor m).Only (TeamCmd team m) :=
  MonitorService.only_disableMonitor _ .ctxDone .delMonitor .zRem .delIncident .hDelStatus

/-- Reading the cache, a team sees its own monitors in it. -/
theorem lockstep_getMonitor_cache (h : InStep team mine gone w₀ w w') :
    Lockstep World.serve (Expiring gone)
      (fun a v b v' => a.filter (·.teamID = team) = b.filter (·.teamID = team) ∧
        v.db = w.db ∧ v'.db = w'.db ∧ InStep team mine gone w₀ v v')
      (RedisClient.getMonitor m) (RedisClient.getMonitor m) w w' := by
  refine Lockstep.call fun e he => ?_
  have hview := h.1.expire e.2.expired
  have hother := h.2.expire he
  obtain ⟨canceled, env⟩ := e
  simp only [World.serve, World.exec]
  split
  · exact ⟨rfl, rfl, rfl, hview, hother⟩
  · split
    · exact ⟨rfl, rfl, rfl, hview, hother⟩
    · exact ⟨hview.cached m, rfl, rfl, hview, hother⟩

/-- **`GetMonitor`** returns the same in both runs: from the cache if the team has the monitor
there, and from the table otherwise. -/
theorem lockstep_getMonitor (hkeyed : (w.db.monitors.map (·.id)).Nodup)
    (hkeyed' : (w'.db.monitors.map (·.id)).Nodup) (hmine : mine = w.db.ofTeam team)
    (h : InStep team mine gone w₀ w w') :
    Lockstep World.serve (Expiring gone) (fun a v b v' => a = b ∧ InStep team mine gone w₀ v v')
      (MonitorService.getMonitor team m) (MonitorService.getMonitor team m) w w' := by
  refine (lockstep_getMonitor_cache h).bind ?_
  rintro a v b v' ⟨hcached, hdb, hdb', hv⟩
  rw [hcached]
  cases b.filter (·.teamID = team) with
  | some x => exact ⟨rfl, hv⟩
  | none =>
    have hget := lockstep_get (m := m) (hdb ▸ hkeyed) (hdb' ▸ hkeyed') (hdb ▸ hmine) hv
    refine hget.bind ?_
    rintro x u y u' ⟨rfl, hfound, hu⟩
    cases x with
    | error err => exact ⟨rfl, hu⟩
    | ok x =>
      obtain ⟨hid, hteam, hm⟩ := hfound x rfl
      refine lockstep_of_only ?_ hm hu
      exact (only_call (.setMonitor hid hteam)).bind fun _ => trivial

/-- **`UpdateMonitorStatus`** finds the monitor in both worlds or in neither, and what it issues
after that is about this monitor only. -/
theorem lockstep_updateMonitorStatus (enable : Bool) (hkeyed : (w.db.monitors.map (·.id)).Nodup)
    (hkeyed' : (w'.db.monitors.map (·.id)).Nodup) (hmine : mine = w.db.ofTeam team)
    (h : InStep team mine gone w₀ w w') :
    Lockstep World.serve (Expiring gone) (fun a v b v' => a = b ∧ InStep team mine gone w₀ v v')
      (MonitorService.updateMonitorStatus team m enable)
      (MonitorService.updateMonitorStatus team m enable) w w' := by
  refine (lockstep_get hkeyed hkeyed' hmine h).bind ?_
  rintro a v b v' ⟨rfl, hfound, hv⟩
  cases a with
  | error err => exact ⟨rfl, hv⟩
  | ok x =>
    obtain ⟨rfl, -, hm⟩ := hfound x rfl
    refine lockstep_of_only ?_ hm hv
    show Program.Only _ (if x.enabled = enable then _ else _)
    split
    · trivial
    · refine ⟨.sql (.updateMonitorStatus enable), fun y => ?_⟩
      rcases y with err | rows
      · trivial
      · show Program.Only _ ((if rows = 0 then .ret _ else .ret _ : Prog _) >>= _)
        split
        · trivial
        · show Program.Only _ (if enable then _ else _)
          split
          · exact (only_scheduleMonitor_teamCmd _).bind fun _ => trivial
          · refine (MonitorService.only_closeOpenIncident _ .timeNow fun t =>
              .sql (.closeMonitorIncident t)).bind fun _ => ?_
            exact only_disableMonitor_teamCmd.bind fun _ => trivial

/-- **`DeleteMonitor`** finds the monitor in both worlds or in neither, and what it removes has the
id of the monitor that was found. -/
theorem lockstep_deleteMonitor (hkeyed : (w.db.monitors.map (·.id)).Nodup)
    (hkeyed' : (w'.db.monitors.map (·.id)).Nodup) (hmine : mine = w.db.ofTeam team)
    (h : InStep team mine gone w₀ w w') :
    Lockstep World.serve (Expiring gone) (fun a v b v' => a = b ∧ InStep team mine gone w₀ v v')
      (MonitorService.deleteMonitor team m) (MonitorService.deleteMonitor team m) w w' := by
  refine (lockstep_get hkeyed hkeyed' hmine h).bind ?_
  rintro a v b v' ⟨rfl, hfound, hv⟩
  cases a with
  | error err => exact ⟨rfl, hv⟩
  | ok x =>
    obtain ⟨-, -, hm⟩ := hfound x rfl
    refine lockstep_of_only ?_ hm hv
    refine only_disableMonitor_teamCmd.bind fun _ => ?_
    refine Program.Only.bind ⟨.sql .deleteMonitor, fun y => ?_⟩ fun z => ?_
    · rcases y with err | rows
      · trivial
      · show Program.Only _ (if rows = 0 then _ else _)
        split
        · trivial
        · trivial
    · rcases z with err | u
      · trivial
      · refine Program.Only.bind ⟨.sql (.decrementMonitorCount _), fun y => ?_⟩ fun _ => trivial
        rcases y with err | u
        · trivial
        · trivial

end Sofon
