import Sofon.Foundations.Lockstep
import Sofon.Foundations.Tables
import Sofon.Plugin.Service
import Sofon.Team.Service

/-!
# A team and the members, invitations and plugins of the others

Every statement on these tables names the team.  So it works on the part that belongs to the
team (`Directory.exec_part`, `PluginStore.exec_part`) and leaves the rest alone.
-/

namespace Sofon

open Interleaving Program

variable {team : UUID}

/-! ## Members and invitations -/

/-- The part of the directory that belongs to a team, and the accounts. -/
def Directory.part (d : Directory) (team : UUID) : Directory where
  users := d.users
  registrationsEnabled := false
  members := d.members.filter (·.teamID = team)
  invitations := d.invitations.filter (·.teamID = team)
  nextID := UUID.nil
  teams := []

/-- Nothing has changed but what belongs to the team. -/
structure Directory.Untouched (team : UUID) (d d' : Directory) : Prop where
  users : d'.users = d.users
  members : d'.members.filter (·.teamID ≠ team) = d.members.filter (·.teamID ≠ team)
  invitations : d'.invitations.filter (·.teamID ≠ team) = d.invitations.filter (·.teamID ≠ team)

/-- The calls for a team. -/
inductive TeamDirectoryCmd (team : UUID) : DirectoryCmd → Prop
  | listTeamMembers : TeamDirectoryCmd team (.sql (.listTeamMembers team))
  | setTeamMemberActive (user : UUID) (active : Bool) :
      TeamDirectoryCmd team (.sql (.setTeamMemberActive team user active))
  | listInvitations : TeamDirectoryCmd team (.sql (.listInvitations team))
  | deleteInvitation (id : UUID) : TeamDirectoryCmd team (.sql (.deleteInvitation id team))

namespace Directory

variable {d d' d₀ : Directory}

/-- **A statement for a team** does to its part what it does to the whole. -/
theorem exec_part {q : DirectoryQuery} (hq : TeamDirectoryCmd team (.sql q)) (now : Time)
    (d : Directory) :
    (d.part team).exec now q = ((d.exec now q).1, (d.exec now q).2.part team) := by
  cases hq with
  | listTeamMembers =>
    have hmembers : (d.part team).teamMembers team = d.teamMembers team := by
      unfold teamMembers part
      rw [List.filter_filter_eq_filter fun _ hrow => hrow]
    simp only [exec, hmembers]
  | setTeamMemberActive user active =>
    refine Prod.ext rfl ?_
    simp only [exec, part, List.filter_map]
    congr 2
    refine List.filter_congr fun row _ => ?_
    show _ = decide ((if _ then _ else _ : MemberRow).teamID = team)
    split
    · rfl
    · rfl
  | listInvitations =>
    have hfilter : (d.part team).invitations.filter (fun row =>
        row.teamID = team && row.acceptedAt.isNone && row.expiresAt > now.micros) =
        d.invitations.filter fun row =>
          row.teamID = team && row.acceptedAt.isNone && row.expiresAt > now.micros := by
      refine List.filter_filter_eq_filter (fun row hrow => ?_) _
      simp only [Bool.and_eq_true] at hrow
      exact hrow.1.1
    simp only [exec, hfilter]
  | deleteInvitation id =>
    refine Prod.ext rfl ?_
    simp only [exec, part, List.filter_filter, Bool.and_comm]

theorem Untouched.exec {q : DirectoryQuery} (hq : TeamDirectoryCmd team (.sql q)) (now : Time)
    (h : Untouched team d₀ d) : Untouched team d₀ (d.exec now q).2 := by
  cases hq with
  | listTeamMembers => exact h
  | setTeamMemberActive user active =>
    refine ⟨h.users, Eq.trans ?_ h.members, h.invitations⟩
    refine List.filter_map_eq_filter (fun row => ?_) (fun row hrow => ?_) _
    · split
      · rfl
      · rfl
    · have hteam : row.teamID ≠ team := of_decide_eq_true hrow
      rw [if_neg (by simp [hteam])]
  | listInvitations => exact h
  | deleteInvitation id =>
    refine ⟨h.users, h.members, Eq.trans ?_ h.invitations⟩
    refine List.filter_filter_eq_filter (fun row hrow => ?_) _
    have hteam : row.teamID ≠ team := of_decide_eq_true hrow
    simp [hteam]

/-- **A program that makes calls for a team** returns the same in two states that look the same
to the team, and leaves the rest alone. -/
theorem run_eq {α : Type} {p : DirectoryProg α} (hp : p.Only (TeamDirectoryCmd team))
    (es : List DirectoryEnv) (h : d.part team = d'.part team) :
    (p.run serve es d).2.1 = (p.run serve es d').2.1 ∧
      Untouched team d (p.run serve es d).2.2 := by
  have hstep : ∀ c, TeamDirectoryCmd team c → ∀ e : DirectoryEnv, True → ∀ s s' : Directory,
      s.part team = s'.part team ∧ Untouched team d s → (serve e s c).1 = (serve e s' c).1 ∧
        (serve e s c).2.part team = (serve e s' c).2.part team ∧
          Untouched team d (serve e s c).2 := by
    rintro c hc e - s s' ⟨hpart, hother⟩
    cases c with
    | timeNow | hashPassword password | randRead n => cases hc
    | sql q =>
      have hexec := exec_part hc e.now s
      rw [hpart, exec_part hc e.now s'] at hexec
      obtain ⟨hanswer, hnext⟩ := Prod.mk.inj hexec
      simp only [serve]
      split
      · exact ⟨rfl, hpart, hother⟩
      · rw [← hanswer]
        exact ⟨rfl, hnext.symm, hother.exec hc e.now⟩
  have hrun := (hp.lockstep hstep ⟨h, rfl, rfl, rfl⟩).run es (fun _ _ => trivial) trivial
  exact ⟨hrun.1, hrun.2.2⟩

end Directory

theorem only_listMembers : (TeamService.listMembers team).Only (TeamDirectoryCmd team) := by
  refine ⟨.listTeamMembers, fun r => ?_⟩
  rcases r with err | rows
  · trivial
  · trivial

theorem only_setMemberActive (target caller : UUID) (active : Bool) :
    (TeamService.setMemberActive team target caller active).Only (TeamDirectoryCmd team) := by
  unfold TeamService.setMemberActive
  split
  · trivial
  · refine ⟨.setTeamMemberActive target active, fun r => ?_⟩
    rcases r with err | u
    · trivial
    · trivial

theorem only_listInvitations : (TeamService.listInvitations team).Only (TeamDirectoryCmd team) := by
  refine ⟨.listInvitations, fun r => ?_⟩
  rcases r with err | rows
  · trivial
  · trivial

theorem only_revokeInvitation (inv : UUID) :
    (TeamService.revokeInvitation team inv).Only (TeamDirectoryCmd team) := by
  refine ⟨.deleteInvitation inv, fun r => ?_⟩
  rcases r with err | u
  · trivial
  · trivial

/-! ## Plugins -/

variable {κ : Type}

/-- The part of the plugin store that belongs to a team.  What is kept elsewhere than in the
table of plugins is left out. -/
def PluginStore.part (s : PluginStore κ) (team : UUID) : PluginStore κ where
  plugins := s.plugins.filter (·.teamID = team)
  resendCopies := fun _ => none
  zendutyCopies := fun _ => none
  alerts := []
  clock := s.clock
  nextID := s.nextID

/-- Nothing has changed but what belongs to the team. -/
structure PluginStore.Untouched (team : UUID) (s s' : PluginStore κ) : Prop where
  plugins : s'.plugins.filter (·.teamID ≠ team) = s.plugins.filter (·.teamID ≠ team)
  resendCopies : s'.resendCopies = s.resendCopies
  zendutyCopies : s'.zendutyCopies = s.zendutyCopies
  alerts : s'.alerts = s.alerts

/-- The calls for a team. -/
inductive TeamPluginCmd (team : UUID) : PluginCmd κ → Prop
  | upsertPlugin (pluginType : String) (enabled : Bool) (configEnc : κ) :
      TeamPluginCmd team (.upsertPlugin team pluginType enabled configEnc)
  | getPlugin (pluginType : String) : TeamPluginCmd team (.getPlugin team pluginType)
  | listPlugins : TeamPluginCmd team (.listPlugins team)
  | deletePlugin (pluginType : String) : TeamPluginCmd team (.deletePlugin team pluginType)
  | encrypt (config : ConfigMap) : TeamPluginCmd team (.encrypt config)

namespace PluginStore

variable {s s' s₀ : PluginStore κ}

/-- The plugins of a team are found in the part that belongs to it. -/
theorem plugin?_part (s : PluginStore κ) (pluginType : String) :
    (s.part team).plugin? team pluginType = s.plugin? team pluginType := by
  unfold plugin? part
  rw [List.find?_filter]
  congr 1
  funext row
  by_cases hrow : row.teamID = team
  · simp [hrow]
  · simp [hrow, PluginRow.isFor]

/-- **A call for a team** does to its part what it does to the whole. -/
theorem exec_part {c : PluginCmd κ} (hc : TeamPluginCmd team c) (enc : Encryptor κ)
    (e : PluginEnv) (s : PluginStore κ) :
    (s.part team).exec enc e c = ((s.exec enc e c).1, (s.exec enc e c).2.part team) := by
  cases hc with
  | upsertPlugin pluginType enabled configEnc =>
    simp only [exec, upsert, plugin?_part]
    cases s.plugin? team pluginType with
    | some row =>
      refine Prod.ext rfl ?_
      simp only [part, List.filter_map]
      congr 2
      refine List.filter_congr fun row _ => ?_
      show _ = decide ((if _ then _ else _ : PluginRow κ).teamID = team)
      split
      · rfl
      · rfl
    | none =>
      refine Prod.ext rfl ?_
      simp [part, List.filter_append]
  | getPlugin pluginType =>
    rw [exec_getPlugin, exec_getPlugin, plugin?_part]
  | listPlugins =>
    have hfilter : (s.part team).plugins.filter (·.teamID = team) =
        s.plugins.filter (·.teamID = team) := List.filter_filter_eq_filter (fun _ hrow => hrow) _
    simp only [exec, hfilter]
  | deletePlugin pluginType =>
    refine Prod.ext rfl ?_
    simp only [exec, remove, part, List.filter_filter, Bool.and_comm]
  | encrypt config => rfl

theorem Untouched.exec {c : PluginCmd κ} (hc : TeamPluginCmd team c) (enc : Encryptor κ)
    (e : PluginEnv) (h : Untouched team s₀ s) : Untouched team s₀ (s.exec enc e c).2 := by
  cases hc with
  | upsertPlugin pluginType enabled configEnc =>
    simp only [PluginStore.exec, upsert]
    cases s.plugin? team pluginType with
    | some row =>
      refine ⟨Eq.trans ?_ h.plugins, h.resendCopies, h.zendutyCopies, h.alerts⟩
      refine List.filter_map_eq_filter (fun row => ?_) (fun row hrow => ?_) _
      · split
        · rfl
        · rfl
      · have hteam : row.teamID ≠ team := of_decide_eq_true hrow
        rw [if_neg (by simp [PluginRow.isFor, hteam])]
    | none =>
      refine ⟨Eq.trans ?_ h.plugins, h.resendCopies, h.zendutyCopies, h.alerts⟩
      simp [List.filter_append]
  | getPlugin pluginType =>
    rw [exec_getPlugin]
    exact h
  | listPlugins => exact h
  | deletePlugin pluginType =>
    refine ⟨Eq.trans ?_ h.plugins, h.resendCopies, h.zendutyCopies, h.alerts⟩
    refine List.filter_filter_eq_filter (fun row hrow => ?_) _
    have hteam : row.teamID ≠ team := of_decide_eq_true hrow
    simp [PluginRow.isFor, hteam]
  | encrypt config => exact h

/-- **A program that makes calls for a team** returns the same in two states that look the same
to the team, and leaves the rest alone. -/
theorem run_eq {α : Type} {p : PluginProg κ α} (hp : p.Only (TeamPluginCmd team))
    (enc : Encryptor κ) (es : List PluginEnv) (h : s.part team = s'.part team) :
    (p.run (serve enc) es s).2.1 = (p.run (serve enc) es s').2.1 ∧
      Untouched team s (p.run (serve enc) es s).2.2 := by
  have hstep : ∀ c, TeamPluginCmd team c → ∀ e : PluginEnv, True → ∀ t t' : PluginStore κ,
      t.part team = t'.part team ∧ Untouched team s t →
        (serve enc e t c).1 = (serve enc e t' c).1 ∧
          (serve enc e t c).2.part team = (serve enc e t' c).2.part team ∧
            Untouched team s (serve enc e t c).2 := by
    rintro c hc e - t t' ⟨hpart, hother⟩
    have hpass {u u' : PluginStore κ} (hu : u.part team = u'.part team) :
        (u.pass e.elapsed).part team = (u'.pass e.elapsed).part team :=
      congrArg (PluginStore.pass · e.elapsed) hu
    have hexec := exec_part hc enc e t
    rw [hpart, exec_part hc enc e t'] at hexec
    obtain ⟨hanswer, hnext⟩ := Prod.mk.inj hexec
    have hafter := hother.exec hc enc e
    unfold serve
    split
    · have hlost : c.lost t = c.lost t' := by cases hc <;> rfl
      exact ⟨hlost, hpass hpart, hother.plugins, hother.resendCopies, hother.zendutyCopies,
        hother.alerts⟩
    · exact ⟨hanswer.symm, hpass hnext.symm, hafter.plugins, hafter.resendCopies,
        hafter.zendutyCopies, hafter.alerts⟩
  have hrun := (hp.lockstep hstep ⟨h, rfl, rfl, rfl, rfl⟩).run es (fun _ _ => trivial) trivial
  exact ⟨hrun.1, hrun.2.2⟩

end PluginStore

theorem only_getPlugin (enc : Encryptor κ) (pluginType : String) :
    (PluginService.getPlugin enc team pluginType).Only (TeamPluginCmd team) := by
  unfold PluginService.getPlugin PluginRepository.get
  simp only [ask, Program.perform_bind, Program.only_call_iff]
  refine ⟨.getPlugin pluginType, fun r => ?_⟩
  rcases r with err | row
  · cases err <;> trivial
  · dsimp only
    split
    · trivial
    · trivial

theorem only_listPlugins :
    (PluginService.listPlugins team : PluginProg κ _).Only (TeamPluginCmd team) := by
  refine ⟨.listPlugins, fun r => ?_⟩
  rcases r with err | rows
  · trivial
  · trivial

theorem only_upsertPlugin (isAddress : String → Bool) (pluginType : String) (enabled : Bool)
    (config : ConfigMap) :
    (PluginService.upsertPlugin isAddress team pluginType enabled config : PluginProg κ _).Only
      (TeamPluginCmd team) := by
  unfold PluginService.upsertPlugin
  split
  · trivial
  · refine ⟨.encrypt config, fun r => ?_⟩
    rcases r with err | configEnc
    · trivial
    · refine ⟨.upsertPlugin pluginType enabled configEnc, fun r => ?_⟩
      rcases r with err | row
      · trivial
      · trivial

theorem only_deletePlugin (pluginType : String) :
    (PluginService.deletePlugin team pluginType : PluginProg κ _).Only (TeamPluginCmd team) := by
  refine ⟨.deletePlugin pluginType, fun r => ?_⟩
  rcases r with err | u
  · trivial
  · trivial

end Sofon
