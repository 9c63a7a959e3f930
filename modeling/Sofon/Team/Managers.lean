import Sofon.Team.Service

/-!
# The managers of a team

The members of a team who may change the status of others are its active owners and
admins.  `SetMemberActive` never changes the status of the caller, so a request that runs
alone leaves at least its caller (`managed_of_exec`).  But the standing of the caller is read
by the middleware, and the `UPDATE` comes later: two managers who deactivate each other may
both have been read in time.

A team keeps a manager in the interleavings in which whoever deactivates a manager still is
one (`MemberPool.Authorized`).  The code sees to the other half: a request updates nobody but its
target, and its target is not its caller (`follows_memberRequest`).  So when an `UPDATE` takes a
manager away, the caller is somebody else, is a manager at that moment, and still is one
afterwards, since an `UPDATE` leaves the managers it is not about (`manages_update`).
Activating a member harms no team (`managed_activate`).

`managed_update` has the cases of one statement, `managed_step` is the step of a pool of requests
and `managed_of_reaches` the run.  A request that runs alone meets the condition by itself, as
nothing comes between its look-up and its `UPDATE`.  `not_managed_of_reaches` is the pair of
managers who are each other's undoing.
-/

namespace Sofon

open Interleaving Program

/-- The row is one of an active owner or admin of the team. -/
def MemberRow.manages (team : UUID) (row : MemberRow) : Bool :=
  row.teamID = team && row.isActive && row.role ∈ [roleOwner, roleAdmin]

namespace Directory

/-- The user is an active owner or admin of the team. -/
def Manages (d : Directory) (team user : UUID) : Prop :=
  ∃ row ∈ d.members, row.manages team ∧ row.userID = user

/-- **The team has an active owner or admin.** -/
def Managed (d : Directory) (team : UUID) : Prop := ∃ row ∈ d.members, row.manages team

instance (d : Directory) (team user : UUID) : Decidable (d.Manages team user) :=
  List.decidableBEx _ _

instance (d : Directory) (team : UUID) : Decidable (d.Managed team) := List.decidableBEx _ _

theorem Manages.managed {d : Directory} {team user : UUID} (h : d.Manages team user) :
    d.Managed team := by
  obtain ⟨row, hrow, hmanages, -⟩ := h
  exact ⟨row, hrow, hmanages⟩

/-- An `UPDATE` leaves the managers it is not about. -/
theorem manages_update {now : Time} {d : Directory} {team team' user target : UUID}
    {active : Bool} (h : d.Manages team user) (hne : target ≠ user) :
    (d.exec now (.setTeamMemberActive team' target active)).2.Manages team user := by
  obtain ⟨row, hrow, hmanages, rfl⟩ := h
  refine ⟨row, List.mem_map.mpr ⟨row, hrow, if_neg ?_⟩, hmanages, rfl⟩
  rw [Bool.and_eq_true, decide_eq_true_eq, decide_eq_true_eq]
  rintro ⟨-, huser⟩
  exact hne huser.symm

/-- Nor does it harm a team to activate a member. -/
theorem managed_activate {now : Time} {d : Directory} {team team' target : UUID}
    (h : d.Managed team) :
    (d.exec now (.setTeamMemberActive team' target true)).2.Managed team := by
  obtain ⟨row, hrow, hmanages⟩ := h
  refine ⟨_, List.mem_map.mpr ⟨row, hrow, rfl⟩, ?_⟩
  split
  · unfold MemberRow.manages at hmanages ⊢
    simp only [Bool.and_eq_true, decide_eq_true_eq] at hmanages ⊢
    exact ⟨⟨hmanages.1.1, trivial⟩, hmanages.2⟩
  · exact hmanages

/-- A membership that was found is one of the table. -/
theorem mem_of_getTeamMembership {d d' : Directory} {team user : UUID} {row : MemberRow}
    (h : Serves d (.sql (.getTeamMembership team user)) (.ok row) d') :
    row ∈ d.members ∧ row.teamID = team ∧ row.userID = user := by
  have hfound := found_of_serves (fun now => exec_getTeamMembership now d team user) h
  refine ⟨List.mem_of_find?_eq_some hfound, ?_⟩
  simpa using List.find?_some hfound

end Directory

/-! ## The requests -/

/-- A `PATCH` of a member's status. -/
structure MemberRequest where
  caller : UUID
  target : UUID
  active : Bool

namespace MemberRequest

/-- What the route runs: the membership of the caller, its role, and the handler. -/
def prog (team : UUID) (req : MemberRequest) : DirectoryProg (Except ErrorBody Unit) :=
  teamAccess req.caller team
    (requireTeamRole [roleOwner, roleAdmin] (TeamHandler.setMemberActive req.target req.active))

/-- The statements of a request: its caller is looked up, and another member updated. -/
def Issues (team : UUID) (req : MemberRequest) : DirectoryCmd → Prop
  | .sql (.getTeamMembership team' user) => team' = team ∧ user = req.caller
  | .sql (.setTeamMemberActive team' user active) =>
    team' = team ∧ user = req.target ∧ active = req.active ∧ req.target ≠ req.caller
  | _ => False

end MemberRequest

/-- A lookup answers with a row of what was looked up. -/
def Looked : Event DirectoryCmd DirectoryCmd.Resp → Prop
  | ⟨.sql (.getTeamMembership team user), .ok row⟩ => row.teamID = team ∧ row.userID = user
  | _ => True

/-- The request with number `i` issues its own statements. -/
def memberProtocols (team : UUID) (reqs : List MemberRequest) (i : ℕ) :
    Protocol DirectoryCmd DirectoryCmd.Resp Unit :=
  Protocol.stateless (fun c => ∃ req ∈ reqs[i]?, req.Issues team c) Looked

/-- A pool of such requests. -/
abbrev MemberPool := Pool DirectoryCmd DirectoryCmd.Resp (Except ErrorBody Unit) Directory

/-- **The steps that keep a manager.**  When a manager is deactivated, the caller still is
one. -/
def MemberPool.Authorized (team : UUID) (reqs : List MemberRequest) (p : MemberPool) (i : ℕ)
    (e : Event DirectoryCmd DirectoryCmd.Resp) : Prop :=
  match e.cmd with
  | .sql (.setTeamMemberActive _ target active) =>
    active = false → p.shared.Manages team target →
      ∃ req ∈ reqs[i]?, p.shared.Manages team req.caller
  | _ => True

variable {team : UUID} {reqs : List MemberRequest} {req : MemberRequest} {d d' : Directory}
  {p p' : MemberPool} {i : ℕ} {e : Event DirectoryCmd DirectoryCmd.Resp}

theorem looked_of_serves {c : DirectoryCmd} {r : c.Resp} (h : Directory.Serves d c r d') :
    Looked ⟨c, r⟩ := by
  cases c with
  | timeNow | hashPassword password | randRead n => trivial
  | sql q =>
    cases q with
    | getTeamMembership team user =>
      rcases r with err | row
      · trivial
      exact (Directory.mem_of_getTeamMembership h).2
    | _ => trivial

/-- **A request updates nobody but its target**, and never its caller. -/
theorem follows_memberRequest (hreq : req ∈ reqs[i]?) :
    (req.prog team).Follows (memberProtocols team reqs i) (fun _ _ => True) () := by
  refine ⟨⟨req, hreq, rfl, rfl⟩, fun found hlooked => ?_⟩
  rcases found with err | row
  · trivial
  obtain ⟨hteam, huser⟩ := hlooked
  show Follows _ _ (if row.isActive then _ else _) _
  split
  · show Follows _ _ (if row.role ∈ _ then _ else _) _
    split
    · have hset : (TeamService.setMemberActive row.teamID req.target row.userID req.active).Follows
          (memberProtocols team reqs i) (fun _ _ => True) () := by
        unfold TeamService.setMemberActive
        split
        · trivial
        · rename_i hself
          rw [huser] at hself
          refine ⟨⟨req, hreq, hteam, rfl, rfl, hself⟩, fun done _ => ?_⟩
          rcases done with err | u <;> trivial
      refine hset.bind fun done _ _ => ?_
      rcases done with err | u <;> trivial
    · trivial
  · trivial

theorem obeys_memberRequests (d : Directory) (team : UUID) (reqs : List MemberRequest) :
    Pool.Obeys (memberProtocols team reqs)
      (Pool.start d (reqs.map (MemberRequest.prog team))) := by
  refine Pool.obeys_start fun i q hq => ?_
  rw [List.getElem?_map] at hq
  obtain ⟨req, hreq, rfl⟩ := Option.map_eq_some_iff.mp hq
  exact follows_memberRequest hreq

/-! ## A manager stays -/

/-- What one statement of a request does to the managers. -/
theorem managed_update {now : Time} (h : d.Managed team) {target : UUID} {active : Bool}
    (hreq : req.target ≠ req.caller) (htarget : target = req.target)
    (hcaller : active = false → d.Manages team target → d.Manages team req.caller) :
    (d.exec now (.setTeamMemberActive team target active)).2.Managed team := by
  cases active with
  | true => exact Directory.managed_activate h
  | false =>
    by_cases hmanager : d.Manages team target
    · have hne : target ≠ req.caller := htarget ▸ hreq
      exact (Directory.manages_update (hcaller rfl hmanager) hne).managed
    · -- the manager at hand is somebody else
      obtain ⟨row, hrow, hmanages⟩ := h
      have hne : target ≠ row.userID := by
        rintro rfl
        exact hmanager ⟨row, hrow, hmanages, rfl⟩
      have hother : d.Manages team row.userID := ⟨row, hrow, hmanages, rfl⟩
      exact (Directory.manages_update hother hne).managed

/-- **One step.**  A manager can only be lost by being deactivated.  By the condition whoever does
that is a manager then, and it is another one, as nobody can deactivate himself. -/
theorem managed_step (hobeys : Pool.Obeys (memberProtocols team reqs) p)
    (h : p.shared.Managed team) (hs : Pool.Step Directory.Serves p i e p')
    (hauth : p.Authorized team reqs i e) : p'.shared.Managed team := by
  obtain ⟨-, t, t', -, -, ⟨req, hreq, hissues⟩, -⟩ :=
    Pool.obeys_step hs hobeys (looked_of_serves hs.serves)
  have hserve := hs.serves
  obtain ⟨c, r⟩ := e
  cases c with
  | timeNow | hashPassword password | randRead n => exact hissues.elim
  | sql q =>
    obtain ⟨-, hsame⟩ | ⟨now, -, hsame⟩ := Directory.serves_sql hserve
    · rw [hsame]
      exact h
    rw [hsame]
    cases q with
    | getTeamMembership team' user =>
      unfold Directory.Managed
      have hsame := Directory.exec_members now (.getTeamMembership team' user) p.shared
      rw [hsame.resolve_right (fun h => h.elim nofun nofun)]
      exact h
    | setTeamMemberActive team' user active =>
      obtain ⟨rfl, rfl, rfl, hne⟩ := hissues
      refine managed_update h hne rfl fun hoff hmanager => ?_
      obtain ⟨req', hreq', hcaller⟩ := hauth hoff hmanager
      obtain rfl := Option.mem_unique hreq hreq'
      exact hcaller
    | _ => exact hissues.elim

/-- **A team keeps a manager** in every interleaving in which a manager is deactivated only by one
who still is: whoever does it is left, as nobody can deactivate himself. -/
theorem managed_of_reaches (h₀ : d.Managed team)
    (h : Pool.Reaches Directory.Serves (MemberPool.Authorized team reqs)
      (Pool.start d (reqs.map (MemberRequest.prog team))) p) : p.shared.Managed team := by
  have hboth : Pool.Obeys (memberProtocols team reqs) p ∧ p.shared.Managed team := by
    refine Pool.Reaches.induction
      (I := fun p => Pool.Obeys (memberProtocols team reqs) p ∧ p.shared.Managed team) h
      ⟨obeys_memberRequests d team reqs, h₀⟩ ?_
    rintro p i e p' hs hauth ⟨hobeys, hmanaged⟩
    exact ⟨(Pool.obeys_step hs hobeys (looked_of_serves hs.serves)).1,
      managed_step hobeys hmanaged hs hauth⟩
  exact hboth.2

/-- **A request that runs alone leaves its caller**: between the lookup and the `UPDATE`
nothing happens. -/
theorem managed_of_exec {tr : List (Event DirectoryCmd DirectoryCmd.Resp)}
    {x : Except ErrorBody Unit} (h : Exec Directory.Serves (req.prog team) d tr x d')
    (h₀ : d.Managed team) : d'.Managed team := by
  obtain ⟨found, d₁, tr₁, hlookup, rfl, hrest⟩ := exec_call_iff.mp h
  obtain rfl : d₁ = d := (Directory.serves_lookup
    (fun now => Directory.exec_getTeamMembership now d team req.caller) hlookup).1
  rcases found with err | row
  · obtain ⟨-, -, rfl⟩ := exec_ret_iff.mp hrest
    exact h₀
  obtain ⟨hrow, hteam, hcaller⟩ := Directory.mem_of_getTeamMembership hlookup
  change Exec _ (if row.isActive then _ else _) _ _ _ _ at hrest
  split at hrest
  swap
  · obtain ⟨-, -, rfl⟩ := exec_ret_iff.mp hrest
    exact h₀
  rename_i hactive
  change Exec _ (if row.role ∈ _ then _ else _) _ _ _ _ at hrest
  split at hrest
  swap
  · obtain ⟨-, -, rfl⟩ := exec_ret_iff.mp hrest
    exact h₀
  rename_i hrole
  have hmanager : d₁.Manages team req.caller := by
    refine ⟨row, hrow, ?_, hcaller⟩
    unfold MemberRow.manages
    rw [hteam, hactive, decide_eq_true hrole, decide_eq_true rfl]
    rfl
  obtain ⟨tr₂, y, d₂, tr₃, hset, hret, rfl⟩ := exec_bind_iff.mp hrest
  have hend : d' = d₂ := by
    rcases y with err | u
    · exact (exec_ret_iff.mp hret).2.2
    · exact (exec_ret_iff.mp hret).2.2
  rw [hend]
  unfold TeamService.setMemberActive at hset
  split at hset
  · obtain ⟨-, -, rfl⟩ := exec_ret_iff.mp hset
    exact h₀
  · rename_i hself
    change req.target ≠ row.userID at hself
    obtain ⟨done, d₃, tr₄, hupdate, rfl, hdone⟩ := exec_call_iff.mp hset
    have hlast : d₂ = d₃ := by
      rcases done with err | u
      · exact (exec_ret_iff.mp hdone).2.2
      · exact (exec_ret_iff.mp hdone).2.2
    rw [hlast]
    obtain ⟨-, hd⟩ | ⟨now, -, hd⟩ := Directory.serves_sql hupdate
    · rw [hd]
      exact h₀
    · rw [hd]
      exact (Directory.manages_update hmanager (hcaller ▸ hself)).managed

namespace Sample

/-- A team with two owners. -/
def pair : Directory :=
  ⟨[], false, [⟨1, 9, 7, roleOwner, true, 0⟩, ⟨2, 9, 8, roleOwner, true, 0⟩], [], 3, [9]⟩

/-- Each of them deactivates the other. -/
def feud : List MemberRequest := [⟨7, 8, false⟩, ⟨8, 7, false⟩]

end Sample

instance (team : UUID) (reqs : List MemberRequest) (p : MemberPool) (i : ℕ)
    (e : Event DirectoryCmd DirectoryCmd.Resp) : Decidable (p.Authorized team reqs i e) :=
  match e with
  | ⟨.timeNow, _⟩ => isTrue trivial
  | ⟨.hashPassword _, _⟩ => isTrue trivial
  | ⟨.randRead _, _⟩ => isTrue trivial
  | ⟨.sql q, _⟩ =>
    match q with
    | .setTeamMemberActive _ target active =>
      inferInstanceAs (Decidable (active = false → p.shared.Manages team target →
        ∃ req ∈ reqs[i]?, p.shared.Manages team req.caller))
    | .hasUsers => isTrue trivial
    | .createUser .. => isTrue trivial
    | .getUserByEmail _ => isTrue trivial
    | .addTeamMember .. => isTrue trivial
    | .userIsMember .. => isTrue trivial
    | .createInvitation .. => isTrue trivial
    | .getInvitationByToken _ => isTrue trivial
    | .acceptInvitation _ => isTrue trivial
    | .getRegistrationsEnabled => isTrue trivial
    | .setRegistrationsEnabled _ => isTrue trivial
    | .getTeamMembership .. => isTrue trivial
    | .listTeamMembers _ => isTrue trivial
    | .listInvitations _ => isTrue trivial
    | .deleteInvitation .. => isTrue trivial

/-- The first is done before the second is looked up. -/
theorem managed_of_reaches_sample :
    ∃ p : MemberPool, p.shared.members.map MemberRow.isActive = [true, false] ∧
      p.shared.Managed 9 := by
  obtain ⟨p, hreach, hcheck⟩ := Pool.exists_reaches_of_play Directory.serve
    (fun p i e => decide (MemberPool.Authorized 9 Sample.feud p i e))
    [(0, default), (0, default), (1, default)]
    (Pool.start Sample.pair (Sample.feud.map (MemberRequest.prog 9)))
    (fun p => decide (p.shared.members.map MemberRow.isActive = [true, false])) (by decide)
  exact ⟨p, of_decide_eq_true hcheck, managed_of_reaches (by decide)
    (hreach.mono fun _ _ _ h => of_decide_eq_true h)⟩

/-- **Two managers can be each other's undoing**: both are looked up, and then both are
deactivated. -/
theorem not_managed_of_reaches :
    Sample.pair.Managed 9 ∧
      ∃ p : MemberPool, Pool.Reaches Directory.Serves (fun _ _ _ => True)
        (Pool.start Sample.pair (Sample.feud.map (MemberRequest.prog 9))) p ∧
          ¬ p.shared.Managed 9 := by
  obtain ⟨p, hreach, hcheck⟩ := Pool.exists_reaches_of_play Directory.serve
    (fun _ _ _ => true) [(0, default), (1, default), (0, default), (1, default)]
    (Pool.start Sample.pair (Sample.feud.map (MemberRequest.prog 9)))
    (fun p => !decide (p.shared.Managed 9)) (by decide)
  rw [Bool.not_eq_true', decide_eq_false_iff_not] at hcheck
  exact ⟨by decide, p, hreach.mono fun _ _ _ _ => trivial, hcheck⟩

end Sofon
