import Sofon.Foundations.Lockstep
import Sofon.Foundations.Tables
import Sofon.Incident.Service

/-!
# A team and the lists of the others

The list of monitors, the list of incidents and the single incident: a query for a team
returns what it would return if the tables held nothing but what belongs to the team
(`Listing.exec_part`).  The tables are only read (`Listing.run_snd`).
-/

namespace Sofon

open Interleaving Program

namespace Listing

/-- Is this a monitor of the team? -/
def ofTeam (l : Listing) (team m : UUID) : Bool :=
  l.monitors.any fun row => row.id = m && row.teamID = team

/-- The incidents of the monitors of a team. -/
def incidentsOf (l : Listing) (team : UUID) : List IncidentRecord :=
  l.incidents.filter fun mi => l.ofTeam team mi.monitorID

/-- The alerts about these incidents. -/
def alertsOf (l : Listing) (team : UUID) : List AlertRecord :=
  l.alerts.filter fun a => (l.incidentsOf team).any (·.id = a.incidentID)

/-- The part of the tables that belongs to a team. -/
def part (l : Listing) (team : UUID) : Listing where
  monitors := l.monitors.filter (·.teamID = team)
  incidents := l.incidentsOf team
  alerts := l.alertsOf team

end Listing

/-- The queries for a team. -/
inductive TeamListingQuery (team : UUID) : ListingQuery → Prop
  | listMonitors (cursorTS : Option ℤ) (cursorID : Option UUID) (limit : ℕ) :
      TeamListingQuery team (.listMonitorsByTeamCursor team cursorTS cursorID limit)
  | listIncidents (filters : IncidentFilters) (cursorStart : Option ℤ) (cursorID : Option UUID)
      (limit : ℕ) :
      TeamListingQuery team (.listIncidentsByTeamCursor team filters cursorStart cursorID limit)
  | getIncident (id : UUID) : TeamListingQuery team (.getIncidentByIDAndTeamID id team)

namespace Listing

variable {team : UUID} {l l' : Listing}

/-- Whether a monitor of the team is down is a matter of its incidents. -/
theorem monitorRow_part {row : MonitorRow} (hrow : row ∈ l.monitors) (hteam : row.teamID = team) :
    (l.part team).monitorRow row = l.monitorRow row := by
  unfold monitorRow part incidentsOf
  rw [List.any_filter]
  congr 2
  funext mi
  by_cases hid : mi.monitorID = row.id
  · have hmine : l.ofTeam team mi.monitorID :=
      List.any_eq_true.mpr ⟨row, hrow, by simp [hid, hteam]⟩
    rw [hmine, Bool.true_and]
  · simp [hid]

/-- The alert about an incident of the team is one of its alerts. -/
theorem latestAlert_part {mi : IncidentRecord} (hmi : mi ∈ l.incidentsOf team) :
    (l.part team).latestAlert mi.id = l.latestAlert mi.id := by
  unfold latestAlert part alertsOf
  rw [List.filter_filter_eq_filter]
  intro a ha
  have hid : a.incidentID = mi.id := of_decide_eq_true ha
  exact List.any_eq_true.mpr ⟨mi, hmi, decide_eq_true hid.symm⟩

theorem incidentRow_part {mi : IncidentRecord} (hmi : mi ∈ l.incidentsOf team) (now : Time)
    (m : MonitorRow) : (l.part team).incidentRow now mi m = l.incidentRow now mi m := by
  unfold incidentRow
  rw [latestAlert_part hmi]

/-- The incidents of a team are found in the part that belongs to it. -/
theorem teamIncidents_part (l : Listing) (now : Time) (p : IncidentRecord → MonitorRow → Bool) :
    (l.part team).teamIncidents now team p = l.teamIncidents now team p := by
  have hnone : ∀ mi ∈ l.incidents, l.ofTeam team mi.monitorID = false →
      ((l.monitors.filter fun m => m.id = mi.monitorID && m.teamID = team && p mi m).map fun m =>
        l.incidentRow now mi m) = [] := by
    intro mi _ hmi
    rw [List.map_eq_nil_iff, List.filter_eq_nil_iff]
    intro m hm hmatch
    simp only [Bool.and_eq_true] at hmatch
    have hany : l.ofTeam team mi.monitorID :=
      List.any_eq_true.mpr ⟨m, hm, Bool.and_eq_true_iff.mpr hmatch.1⟩
    exact Bool.false_ne_true (hmi.symm.trans hany)
  unfold teamIncidents
  rw [← List.flatMap_filter_eq hnone]
  refine List.flatMap_congr fun mi hmi => ?_
  show ((l.monitors.filter (·.teamID = team)).filter _).map _ = _
  rw [List.filter_filter_eq_filter]
  · exact List.map_congr_left fun m _ => incidentRow_part hmi now m
  · intro m hmatch
    simp only [Bool.and_eq_true] at hmatch
    exact hmatch.1.2

/-- **A query for a team** returns what it would return if there were nothing else. -/
theorem exec_part {q : ListingQuery} (hq : TeamListingQuery team q)
    (ilike : String → String → Bool) (now : Time) (l : Listing) :
    (l.part team).exec ilike now q = l.exec ilike now q := by
  cases hq with
  | listMonitors cursorTS cursorID limit =>
    have hfilter : (l.part team).monitors.filter (fun row =>
        row.teamID = team && beforeCursor cursorTS cursorID row.createdAt row.id) =
        l.monitors.filter fun row =>
          row.teamID = team && beforeCursor cursorTS cursorID row.createdAt row.id := by
      refine List.filter_filter_eq_filter (fun row hrow => ?_) _
      exact (Bool.and_eq_true_iff.mp hrow).1
    simp only [exec, hfilter]
    refine congrArg Except.ok (List.map_congr_left fun row hrow => ?_)
    have hmem := List.mem_mergeSort.mp (List.mem_of_mem_take hrow)
    obtain ⟨hrow, hmatch⟩ := List.mem_filter.mp hmem
    exact monitorRow_part hrow (of_decide_eq_true (Bool.and_eq_true_iff.mp hmatch).1)
  | listIncidents filters cursorStart cursorID limit => simp only [exec, teamIncidents_part]
  | getIncident id => simp only [exec, teamIncidents_part]

/-- One query, in two states that look the same to the team. -/
theorem serve_eq {q : ListingQuery} (hq : TeamListingQuery team q)
    (ilike : String → String → Bool) (e : ListingEnv) (h : l.part team = l'.part team) :
    (serve ilike e l q).1 = (serve ilike e l' q).1 := by
  unfold serve
  split
  · rfl
  · exact (exec_part hq ilike e.now l).symm.trans (h ▸ exec_part hq ilike e.now l')

/-- **A program that makes queries for a team** returns the same in both states. -/
theorem run_eq {α : Type} {p : ListingProg α} (hp : p.Only (TeamListingQuery team))
    (ilike : String → String → Bool) (es : List ListingEnv) (h : l.part team = l'.part team) :
    (p.run (serve ilike) es l).2.1 = (p.run (serve ilike) es l').2.1 := by
  have hstep : ∀ q, TeamListingQuery team q → ∀ e : ListingEnv, True → ∀ s s' : Listing,
      s.part team = s'.part team → (serve ilike e s q).1 = (serve ilike e s' q).1 ∧
        (serve ilike e s q).2.part team = (serve ilike e s' q).2.part team :=
    fun q hq e _ s s' hs => ⟨serve_eq hq ilike e hs, hs⟩
  exact ((hp.lockstep hstep h).run es (fun _ _ => trivial) trivial).1

theorem run_snd {α : Type} (p : ListingProg α) (ilike : String → String → Bool)
    (es : List ListingEnv) (l : Listing) : (p.run (serve ilike) es l).2.2 = l := by
  induction p generalizing es with
  | ret a => rfl
  | call q k ih => exact ih _ es.tail

end Listing

/-! ## The operations -/

variable {team : UUID}

theorem only_getAllMonitors (uuids : UUIDText) (opts : ListMonitorsOptions) :
    (MonitorService.getAllMonitors uuids team opts).Only (TeamListingQuery team) := by
  refine Program.Only.bind ⟨.listMonitors .., fun rows => ?_⟩ fun x => ?_
  · rcases rows with err | rows
    · trivial
    · trivial
  · rcases x with err | ⟨monitors, hasMore⟩
    · trivial
    · trivial

theorem only_listByTeamID (uuids : UUIDText) (opts : ListIncidentsOptions) :
    (IncidentService.listByTeamID uuids team opts).Only (TeamListingQuery team) := by
  refine Program.Only.bind ?_ fun x => ?_
  · unfold IncidentRepository.listByTeamID
    extract_lets op limit list
    have hlist (cursorStart : Option ℤ) (cursorID : Option UUID) :
        (list cursorStart cursorID).Only (TeamListingQuery team) := by
      refine ⟨.listIncidents .., fun rows => ?_⟩
      rcases rows with err | rows
      · trivial
      · trivial
    split
    · exact hlist none none
    · split
      · trivial
      · exact hlist _ _
  · rcases x with err | ⟨incidents, hasMore⟩
    · trivial
    · trivial

theorem only_getByIDAndTeamID (incident : UUID) :
    (IncidentService.getByIDAndTeamID incident team).Only (TeamListingQuery team) := by
  refine ⟨.getIncident .., fun r => ?_⟩
  rcases r with err | row
  · cases err with
    | _ => trivial
  · trivial

end Sofon
