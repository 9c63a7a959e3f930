import Sofon.Api.Outsiders
import Sofon.Api.Vouched
import Sofon.Foundations.Visible

/-!
# A member who is deactivated is out at once

When `SetMemberActive` has answered that a member is inactive, no request of the member that
begins later gets to the team: the middleware turns it away before it has read or written
anything of the team, whatever other requests do in between (`locked_out_of_reaches`).  Only a
request to activate the member could change that.

A request that began before the answer may have read the membership as it was.

* A request that answers well has had its `UPDATE` answered, for the member of the path and with
  the status of the body (`follows_setMemberActive`).  Nobody is ever taken off the list of
  members, so the `UPDATE` has met the row (`Lists.lockedOut`).
* From then on the member is there, and inactive (`Directory.LockedOut`).  The only statement
  that could change it is an `UPDATE` that activates the member (`LockedOut.exec`), and that is
  issued by a request for it and by no other (`follows_targeted`).
* What a later request reads it reads after that, so it finds no active membership
  (`inactive_of_reaches`).  Without one it only knocks at the door (`Permitted.knocks`), and a
  request that is answered well was let in (`follows_admitted`).
-/

namespace Sofon

open Interleaving Program

variable {κ : Type} {x : Platform κ} {s s' : Server κ} {team user : UUID}

/-! ## The membership -/

namespace Directory

variable {d : Directory}

/-- The user is on the list of members. -/
def Lists (d : Directory) (team user : UUID) : Prop :=
  ∃ row ∈ d.members, row.teamID = team ∧ row.userID = user

/-- The user is on the list, and inactive. -/
structure LockedOut (d : Directory) (team user : UUID) : Prop where
  lists : d.Lists team user
  inactive : ∀ row ∈ d.members, row.teamID = team → row.userID = user → row.isActive = false

/-- Nobody is taken off the list. -/
theorem Lists.exec (h : d.Lists team user) (now : Time) (q : DirectoryQuery) :
    (d.exec now q).2.Lists team user := by
  obtain ⟨row, hrow, rfl, rfl⟩ := h
  obtain ⟨row', hrow', hstanding⟩ :=
    List.mem_map.mp ((d.standings_exec now q).1 _ (List.mem_map_of_mem hrow))
  obtain ⟨hteam, hrest⟩ := Prod.mk.inj hstanding
  exact ⟨row', hrow', hteam, (Prod.mk.inj hrest).1⟩

/-- Whoever is locked out stays so, unless a statement lets him in. -/
theorem LockedOut.exec (h : d.LockedOut team user) (now : Time) {q : DirectoryQuery}
    (hq : q ≠ .setTeamMemberActive team user true) : (d.exec now q).2.LockedOut team user := by
  refine ⟨h.lists.exec now q, fun row hrow hteam huser => ?_⟩
  obtain hsame | ⟨team', user', active, rfl⟩ | ⟨team', user', role, rfl⟩ := d.exec_members now q
  · exact h.inactive row (hsame ▸ hrow) hteam huser
  · obtain ⟨old, hold, rfl⟩ := List.mem_map.mp hrow
    split at hteam
    · rename_i hkey
      rw [if_pos hkey] at huser ⊢
      obtain ⟨rfl, rfl⟩ : old.teamID = team' ∧ old.userID = user' := by simpa using hkey
      obtain rfl : old.teamID = team := hteam
      obtain rfl : old.userID = user := huser
      cases active with
      | false => rfl
      | true => exact absurd rfl hq
    · rename_i hkey
      rw [if_neg hkey] at huser ⊢
      exact h.inactive old hold hteam huser
  · simp only [Directory.exec] at hrow
    split at hrow
    · rename_i hnew
      obtain hold | hlast := List.mem_append.mp hrow
      · exact h.inactive row hold hteam huser
      · -- there is no second row for the same member
        obtain rfl := List.mem_singleton.mp hlast
        obtain ⟨old, hold, holdTeam, holdUser⟩ := h.lists
        exact absurd ⟨holdTeam.trans hteam.symm, holdUser.trans huser.symm⟩ (hnew.2.2 old hold)
    · exact h.inactive row hrow hteam huser

theorem Lists.lockedOut (h : d.Lists team user) (now : Time) :
    (d.exec now (.setTeamMemberActive team user false)).2.LockedOut team user := by
  refine ⟨h.exec now _, fun row hrow hteam huser => ?_⟩
  obtain ⟨old, hold, rfl⟩ := List.mem_map.mp hrow
  by_cases hkey : old.teamID = team && old.userID = user
  · rw [if_pos hkey]
  · rw [if_neg hkey] at hteam huser
    exact absurd (by simpa using ⟨hteam, huser⟩) hkey

end Directory

namespace Server

variable {c : ApiCmd κ} {r : c.Resp}

theorem lists_of_serves (h : s.directory.Lists team user) (hserves : Serves x s c r s') :
    s'.directory.Lists team user := by
  obtain ⟨hmembers, -⟩ | ⟨q, now, -, hd⟩ := serves_cases hserves
  · obtain ⟨row, hrow, hkey⟩ := h
    exact ⟨row, hmembers ▸ hrow, hkey⟩
  · exact hd ▸ h.exec now q

theorem lockedOut_of_serves (h : s.directory.LockedOut team user)
    (hc : c ≠ .query (.setTeamMemberActive team user true)) (hserves : Serves x s c r s') :
    s'.directory.LockedOut team user := by
  obtain ⟨hmembers, -⟩ | ⟨q, now, rfl, hd⟩ := serves_cases hserves
  · refine ⟨lists_of_serves h.lists hserves, fun row hrow => ?_⟩
    exact h.inactive row (hmembers ▸ hrow)
  · rw [hd]
    refine h.exec now ?_
    rintro rfl
    exact hc rfl

theorem lockedOut_of_update (h : s.directory.Lists team user)
    (hserves : Serves x s (.query (.setTeamMemberActive team user false)) (.ok ()) s') :
    s'.directory.LockedOut team user := by
  obtain ⟨hr, -⟩ | ⟨now, -, hd⟩ := Directory.serves_sql (serves_query hserves)
  · cases hr
  · exact hd ▸ h.lockedOut now

end Server

/-! ## The request that locks a member out -/

/-- The request sets the status of a member of a team. -/
def ApiRequest.Switches (x : Platform κ) (req : ApiRequest) (team target : UUID)
    (active : Bool) : Prop :=
  ∃ teamID memberID, req.endpoint = .team teamID (.setMemberActive memberID (some active)) ∧
    x.uuids.parse teamID = some team ∧ x.uuids.parse memberID = some target

/-- If the command sets the status of a member, the request asks for it. -/
def Targeted (x : Platform κ) (req : ApiRequest) (c : ApiCmd κ) : Prop :=
  ∀ team target active, c = .query (.setTeamMemberActive team target active) →
    req.Switches x team target active

/-- The handler sets the status of the member of the path. -/
theorem follows_patchMember {m : TeamMemberCtx} {authorization teamID memberID : String}
    {active : Bool} (hteam : x.uuids.parse teamID = some m.teamID) (tr : List (ApiEvent κ)) :
    ((TeamHandler.patchMember x.uuids memberID (some active) m).embed ofMember).Follows
      (Protocol.history Truthful fun _ c =>
        Targeted x ⟨authorization, .team teamID (.setMemberActive memberID (some active))⟩ c)
      (fun response tr => ∀ reply, response = .ok reply → ∀ target,
        x.uuids.parse memberID = some target →
          Answered tr (.query (.setTeamMemberActive m.teamID target active)) (.ok ())) tr := by
  unfold TeamHandler.patchMember withID
  cases hid : x.uuids.parse memberID with
  | none => exact fun _ h => by cases h
  | some target =>
    have hset : ((TeamHandler.setMemberActive target active m).embed ofMember).Follows
        (Protocol.history Truthful fun _ c =>
          Targeted x ⟨authorization, .team teamID (.setMemberActive memberID (some active))⟩ c)
        (fun done tr => ∀ u, done = .ok u →
          Answered tr (.query (.setTeamMemberActive m.teamID target active)) (.ok ())) tr := by
      unfold TeamHandler.setMemberActive TeamService.setMemberActive
      split
      · exact fun _ h => by cases h
      · refine ⟨?_, fun done _ => ?_⟩
        · rintro team target' active' heq
          cases heq
          exact ⟨teamID, memberID, rfl, hteam, hid⟩
        · rcases done with err | u
          · exact fun _ h => by cases h
          · exact fun _ _ => Answered.here
    unfold withBody reply
    dsimp only
    rw [if_pos rfl, embed_bind]
    refine hset.bind fun done tr' hdone => ?_
    rcases done with err | u
    · exact fun _ h => by cases h
    · rintro _ - target' htarget
      obtain rfl := Option.some.inj htarget
      exact hdone u rfl

/-- **A request to set the status of a member** sets that of no other, and has set it when it
says so. -/
theorem follows_setMemberActive (x : Platform κ) (authorization teamID memberID : String)
    (active : Bool) :
    (serveHTTP x ⟨authorization, .team teamID (.setMemberActive memberID (some active))⟩).Follows
      (Protocol.history Truthful fun _ c =>
        Targeted x ⟨authorization, .team teamID (.setMemberActive memberID (some active))⟩ c)
      (fun response tr => ∀ reply, response = .ok reply → ∀ team target,
        x.uuids.parse teamID = some team → x.uuids.parse memberID = some target →
          Answered tr (.query (.setTeamMemberActive team target active)) (.ok ())) [] := by
  -- until the user is known, it is as on any other route
  refine follows_authenticate ⟨authorization, .getProfile⟩ (fun tr c hc => ?_)
    (fun _ _ _ h => by cases h) fun user tr _ => ?_
  · rintro team target active rfl
    cases hc with
    | anybody hc => cases hc
    | user _ hc => cases hc
    | member _ hep => cases hep
  unfold withTeamAccess
  cases hteam : x.uuids.parse teamID with
  | none => exact fun _ h => by cases h
  | some team =>
    refine ⟨?_, fun found hfound => ?_⟩
    · rintro _ _ _ heq
      cases heq
    rcases found with err | row
    · exact fun _ h => by cases h
    obtain ⟨hrow, -⟩ := hfound
    show Follows _ _ (if row.isActive then _ else _) _
    split
    · show Follows _ _ (if row.role ∈ managerRoles then _ else _) _
      split
      · refine (follows_patchMember (hteam.trans (congrArg some hrow.symm)) _).mono
          fun response tr' hset => ?_
        rintro reply hreply team' target hteam' htarget
        obtain rfl := hrow.trans (Option.some.inj hteam')
        exact hset reply hreply target htarget
      · exact fun _ h => by cases h
    · exact fun _ h => by cases h

/-- **Nobody's status is set but by a request for it.** -/
theorem follows_targeted (req : ApiRequest) : (serveHTTP x req).Follows
    (Protocol.history Truthful fun _ c => Targeted x req c) (fun _ _ => True) [] := by
  obtain ⟨authorization, endpoint⟩ := req
  by_cases hep : ∃ teamID memberID active,
      endpoint = .team teamID (.setMemberActive memberID (some active))
  · obtain ⟨teamID, memberID, active, rfl⟩ := hep
    exact (follows_setMemberActive x authorization teamID memberID active).mono
      fun _ _ _ => trivial
  · refine (follows_serveHTTP ⟨authorization, endpoint⟩).allow fun tr c _ hc => ?_
    rintro team target active rfl
    cases hc with
    | anybody hc => cases hc
    | user _ hc => cases hc
    | member _ hteam _ _ _ _ hc =>
      cases hc with
      | setMemberActive _ => exact absurd ⟨_, _, _, hteam⟩ hep

/-! ## The request that is turned away -/

/-- What a request does before it is let in. -/
def ApiCmd.Knocks (c : ApiCmd κ) : Prop :=
  c = .now ∨ (∃ user, c = .sql (.getUserActiveStatus user)) ∨
    ∃ team user, c = .query (.getTeamMembership team user)

/-- The request has read an active membership of its user in the team. -/
def ApiRequest.Admitted (x : Platform κ) (req : ApiRequest) (team : UUID)
    (tr : List (ApiEvent κ)) : Prop :=
  ∃ user row, req.Bears x tr user ∧
    Answered tr (.query (.getTeamMembership team user)) (.ok row) ∧ row.isActive = true

/-- A request for a team that is not let in only knocks. -/
theorem Permitted.knocks {req : ApiRequest} {teamID : String} {ep : TeamEndpoint}
    {tr : List (ApiEvent κ)} {c : ApiCmd κ} (h : Permitted x req tr c)
    (hep : req.endpoint = .team teamID ep) (hteam : x.uuids.parse teamID = some team)
    (hout : ¬ req.Admitted x team tr) : c.Knocks := by
  obtain ⟨authorization, endpoint⟩ := req
  obtain rfl : endpoint = .team teamID ep := hep
  cases h with
  | anybody hc =>
    cases hc with
    | getRegistrationsEnabled hep => cases hep
    | hasUsers hep => cases hep
  | readToken => exact Or.inl rfl
  | isUserActive => exact Or.inr (Or.inl ⟨_, rfl⟩)
  | user _ hc => cases hc
  | getMembership => exact Or.inr (Or.inr ⟨_, _, rfl⟩)
  | member huser hep' hteam' hrow hactive =>
    cases hep'
    obtain rfl := Option.some.inj (hteam'.symm.trans hteam)
    exact absurd ⟨_, _, huser.1, hrow, hactive⟩ hout

/-- A request for a team that is answered well was let in. -/
theorem follows_admitted (authorization : String) {teamID : String} (ep : TeamEndpoint)
    (hteam : x.uuids.parse teamID = some team) :
    (serveHTTP x ⟨authorization, .team teamID ep⟩).Follows
      (Protocol.history Truthful fun _ _ => True)
      (fun response tr => ∀ reply, response = .ok reply →
        ApiRequest.Admitted x ⟨authorization, .team teamID ep⟩ team tr) [] := by
  refine follows_authenticate ⟨authorization, .team teamID ep⟩ (fun _ _ _ => trivial)
    (fun _ _ _ h => by cases h) fun user tr hsigned => ?_
  unfold withTeamAccess
  rw [hteam]
  refine ⟨trivial, fun found hfound => ?_⟩
  rcases found with err | row
  · exact fun _ h => by cases h
  show Follows _ _ (if row.isActive then _ else _) _
  split
  · rename_i hactive
    refine (follows_grows _ _).mono fun response tr' hpre reply _ => ?_
    exact ⟨user, row, hsigned.1.mono ((List.prefix_append _ _).trans hpre),
      Answered.here.mono hpre, hactive⟩
  · exact fun _ h => by cases h

/-! ## In every interleaving -/

section Runs

variable {reqs : List ApiRequest}
  {guard : Pool (ApiCmd κ) ApiCmd.Resp ApiResponse (Server κ) → ℕ → ApiEvent κ → Prop}
  {p p' : Pool (ApiCmd κ) ApiCmd.Resp ApiResponse (Server κ)} {i j : ℕ}

/-- **Whoever begins later finds no active membership.**  Once the statement that switches the
member off has been answered, the row is inactive, and no command of the requests that are left
makes it active again; so what is read of it afterwards is inactive. -/
theorem inactive_of_reaches {log log' : List (ApiEvent κ)}
    (hlists : s.directory.Lists team user)
    (halone : ∀ req ∈ reqs, ¬ req.Switches x team user true)
    (h : Pool.Reaches (Server.Serves x) guard (Pool.start s (reqs.map (serveHTTP x))) p)
    (h' : Pool.Reaches (Server.Serves x) guard p p')
    (hlog : (p.threads.map Thread.log)[i]? = some log)
    (hset : Answered log (.query (.setTeamMemberActive team user false)) (.ok ()))
    (hlater : (p.threads.map Thread.log)[j]? = some [])
    (hlog' : (p'.threads.map Thread.log)[j]? = some log') {row : MemberRow}
    (hread : Answered log' (.query (.getTeamMembership team user)) (.ok row)) :
    row.isActive = false := by
  by_contra hactive
  refine h.visible (J := fun s _ => s.directory.Lists team user)
    (Φ := fun s => s.directory.LockedOut team user)
    (G := fun i _ c => ∃ req ∈ reqs[i]?, Targeted x req c)
    (W := fun e => e = ⟨.query (.setTeamMemberActive team user false), .ok ()⟩)
    (B := fun e => ∃ row, e = ⟨.query (.getTeamMembership team user), .ok row⟩ ∧
      row.isActive ≠ false)
    h' (fun _ _ _ _ => Server.truthful_of_serves) (fun i q hq => ?_) (fun _ _ => hlists) ?_ ?_ ?_
    ?_ hlog hset rfl hlater hlog' _ hread ⟨row, rfl, hactive⟩
  · rw [List.getElem?_map] at hq
    obtain ⟨req, hreq, rfl⟩ := Option.map_eq_some_iff.mp hq
    exact (follows_targeted req).allow fun _ _ _ hc => ⟨req, hreq, hc⟩
  · exact fun hmember _ _ hserves => Server.lists_of_serves hmember hserves
  · -- nobody lets the member in
    rintro t logs k log c r t' - - ⟨req, hreq, hc⟩ hserves hlocked
    refine Server.lockedOut_of_serves hlocked ?_ hserves
    rintro rfl
    exact halone req (List.mem_of_getElem? hreq) (hc _ _ _ rfl)
  · rintro t logs log c r t' hmember - - hserves heq
    obtain ⟨rfl, hr⟩ := Event.mk.inj heq
    obtain rfl := eq_of_heq hr
    exact Server.lockedOut_of_update hmember hserves
  · rintro t c r t' hserves hlocked ⟨row, heq, hactive⟩
    obtain ⟨rfl, hr⟩ := Event.mk.inj heq
    obtain rfl := eq_of_heq hr
    obtain ⟨hrow, hteam, huser⟩ :=
      Directory.mem_of_getTeamMembership (Server.serves_query hserves)
    exact hactive (hlocked.inactive row hrow hteam huser)

/-- **A member who is deactivated is out at once.**  When a request to deactivate a member has
answered that all went well, a request of the member for the team that comes later does nothing
but knock, and what it is answered is an error. -/
theorem locked_out_of_reaches {log : List (ApiEvent κ)} (hlists : s.directory.Lists team user)
    (halone : ∀ req ∈ reqs, ¬ req.Switches x team user true)
    (h : Pool.Reaches (Server.Serves x) guard (Pool.start s (reqs.map (serveHTTP x))) p)
    {authorization teamID memberID : String}
    (hi : reqs[i]? = some ⟨authorization, .team teamID (.setMemberActive memberID (some false))⟩)
    (hteam : x.uuids.parse teamID = some team) (hmember : x.uuids.parse memberID = some user)
    {reply : ApiReply} (hdone : p.threads[i]? = some ⟨.ret (.ok reply), log⟩)
    (h' : Pool.Reaches (Server.Serves x) guard p p') {authorization' teamID' : String}
    {ep : TeamEndpoint} (hj : reqs[j]? = some ⟨authorization', .team teamID' ep⟩)
    (hteam' : x.uuids.parse teamID' = some team)
    (huser : ∀ now user', ApiRequest.Names x ⟨authorization', .team teamID' ep⟩ now user' →
      user' = user)
    (hlater : (p.threads.map Thread.log)[j]? = some [])
    {t : Thread (ApiCmd κ) ApiCmd.Resp ApiResponse} (ht : p'.threads[j]? = some t) :
    (∀ response, t.todo = .ret response → ∃ body, response = .error body) ∧
      ∀ e ∈ t.log, e.cmd.Knocks := by
  have hset := follows_of_reaches h hi
    (follows_setMemberActive x authorization teamID memberID false) hdone
  -- the later request is not let in
  have hout {tr : List (ApiEvent κ)} (hpre : tr <+: t.log) :
      ¬ ApiRequest.Admitted x ⟨authorization', .team teamID' ep⟩ team tr := by
    rintro ⟨user', row, ⟨now, -, hnames⟩, hread, hactive⟩
    obtain rfl := huser now user' hnames
    have hinactive := inactive_of_reaches hlists halone h h' (Pool.log_of_thread hdone)
      (hset reply rfl team user' hteam hmember) hlater (Pool.log_of_thread ht) (hread.mono hpre)
    exact absurd (hactive.symm.trans hinactive) Bool.noConfusion
  refine ⟨fun response hresponse => ?_, fun e he => ?_⟩
  · have hanswer := follows_of_reaches (h.trans h') hj
      (follows_admitted authorization' ep hteam') ht
    rw [hresponse] at hanswer
    cases response with
    | error body => exact ⟨body, rfl⟩
    | ok reply' => exact absurd (hanswer reply' rfl) (hout (List.prefix_refl _))
  · have hkeeps := requests_guarded (h.trans h') hj ht
    obtain ⟨tr, hpre, hpermitted⟩ := hkeeps.answered he
    exact hpermitted.knocks rfl hteam' (hout hpre)

end Runs

/-- Ada deactivates Bob, who asks for the team. -/
def Sample.lockout : List ApiRequest :=
  [⟨Sample.bearer 7, .team (Sample.uuids.string 9)
      (.setMemberActive (Sample.uuids.string 8) (some false))⟩,
    ⟨Sample.bearer 8, .team (Sample.uuids.string 9) .getTeam⟩]

theorem locked_out_of_reaches_sample :
    ∃ p p' : Pool (ApiCmd (ℕ × ConfigMap)) ApiCmd.Resp ApiResponse (Server (ℕ × ConfigMap)),
      (∃ log, p.threads[0]? = some ⟨.ret (.ok ⟨200, "member status updated", .empty⟩), log⟩) ∧
      ∃ t, p'.threads[1]? = some t ∧
        t.todo = .ret (.error ⟨403, .forbidden, "your membership in this team is inactive"⟩) ∧
          ∀ e ∈ t.log, e.cmd.Knocks := by
  obtain ⟨p, p', log, t, hplay, hdone, hlater, hplay', ht, htodo⟩ : ∃ p p' log t,
      Pool.play (Server.serve Sample.platform) (fun _ _ _ => true)
        ([0, 0, 0, 0].map fun i => (i, default))
        (Pool.start Sample.staffed (Sample.lockout.map (serveHTTP Sample.platform))) = some p ∧
      p.threads[0]? = some ⟨.ret (.ok ⟨200, "member status updated", .empty⟩), log⟩ ∧
      (p.threads.map Thread.log)[1]? = some [] ∧
      Pool.play (Server.serve Sample.platform) (fun _ _ _ => true)
        ([1, 1, 1].map fun i => (i, default)) p = some p' ∧
      p'.threads[1]? = some t ∧
      t.todo = .ret (.error ⟨403, .forbidden, "your membership in this team is inactive"⟩) :=
    ⟨_, _, _, _, rfl, rfl, rfl, rfl, rfl, rfl⟩
  have hlists : Sample.staffed.directory.Lists 9 8 :=
    ⟨_, List.mem_cons_of_mem _ (List.mem_singleton_self _), rfl, rfl⟩
  refine ⟨p, p', ⟨log, hdone⟩, t, ht, htodo, (locked_out_of_reaches (i := 0) (j := 1) hlists
    (fun req hreq hswitches => ?_) (Pool.reaches_of_play hplay) rfl
    (Sample.uuids.parse_string 9) (Sample.uuids.parse_string 8) hdone
    (Pool.reaches_of_play hplay') rfl (Sample.uuids.parse_string 9)
    (fun now user' hnames => Sample.names_bearer rfl hnames) hlater ht).2⟩
  obtain ⟨teamID, memberID, hep, -, -⟩ := hswitches
  simp only [Sample.lockout, List.mem_cons, List.not_mem_nil, or_false] at hreq
  rcases hreq with rfl | rfl <;> cases hep

end Sofon
