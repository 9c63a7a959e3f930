import Sofon.Api.Guarded
import Sofon.Team.Invitations

/-!
# Who has let whom in

Every membership has somebody who vouches for it (`vouched_of_reaches`).  It was there at the
beginning, or it is that of the founder of a team, or it was made by accepting an invitation;
and the invitation was there at the beginning, or a request has issued it for a user who was
signed in and, when it asked, an active owner or admin of the team.  The membership of that
owner or admin is in the table, so somebody vouches for it in turn.

This holds in every interleaving, and when answers are lost: what counts is the step of the run
after which the row was in the table (`BroughtAbout`), not whether the statement was answered.

The argument follows a row back through the run.

1. A membership that is there at the end and not at the beginning has been brought about by
   some request.  Only an `INSERT` adds one (`Directory.standings_exec`), with the team, the
   user and the role of the row, and there are two reasons to issue it: the request has founded
   the team, or it has read a valid invitation (`Permitted`).
2. That invitation was in the table when it was read.  So it was there at the beginning, or it
   has been brought about on the way to that point, again by an `INSERT`
   (`Directory.offers_exec`), and the request that issued it had found a membership of its user
   with the role of a manager.
3. That membership was in the table when it was read, and memberships stay
   (`standings_of_reaches`), so it is there at the end.
-/

namespace Sofon

open Interleaving Program

variable {κ : Type}

/-- What does not change about a membership. -/
def MemberRow.standing (row : MemberRow) : UUID × UUID × String :=
  (row.teamID, row.userID, row.role)

/-- The membership is in the table, active or not. -/
def Server.HasMember (row : MemberRow) (s : Server κ) : Prop :=
  row.standing ∈ s.directory.members.map MemberRow.standing

/-- The invitation is in the table, accepted or not. -/
def Server.HasInvitation (inv : InvitationRow) (s : Server κ) : Prop :=
  inv.offer ∈ s.directory.invitations.map InvitationRow.offer

/-! ## What a statement does -/

/-- **What a statement does to the members**: those that were there keep their standing, and
there is at most one more. -/
theorem Directory.standings_exec (now : Time) (q : DirectoryQuery) (d : Directory) :
    (∀ k ∈ d.members.map MemberRow.standing,
      k ∈ (d.exec now q).2.members.map MemberRow.standing) ∧
    ∀ row ∈ (d.exec now q).2.members, row.standing ∈ d.members.map MemberRow.standing ∨
      q = .addTeamMember row.teamID row.userID row.role := by
  obtain hsame | ⟨team, user, active, rfl⟩ | ⟨team, user, role, rfl⟩ := d.exec_members now q
  · rw [hsame]
    exact ⟨fun _ hk => hk, fun row hrow => Or.inl (List.mem_map_of_mem hrow)⟩
  · have hstanding (row : MemberRow) : (if row.teamID = team && row.userID = user then
        { row with isActive := active } else row).standing = row.standing := by
      split <;> rfl
    have hmap : (d.exec now (.setTeamMemberActive team user active)).2.members.map
        MemberRow.standing = d.members.map MemberRow.standing := by
      simp only [exec, List.map_map]
      exact List.map_congr_left fun row _ => hstanding row
    rw [hmap]
    exact ⟨fun _ hk => hk, fun row hrow => Or.inl (hmap ▸ List.mem_map_of_mem hrow)⟩
  · simp only [exec]
    split
    · refine ⟨fun k hk => ?_, fun row hrow => ?_⟩
      · rw [List.map_append]
        exact List.mem_append_left _ hk
      · obtain hrow | hrow := List.mem_append.mp hrow
        · exact Or.inl (List.mem_map_of_mem hrow)
        · rw [List.mem_singleton.mp hrow]
          exact Or.inr rfl
    · exact ⟨fun _ hk => hk, fun row hrow => Or.inl (List.mem_map_of_mem hrow)⟩

/-- **What a statement does to the invitations**: of those that are left, all but one were
there. -/
theorem Directory.offers_exec (now : Time) (q : DirectoryQuery) (d : Directory) :
    ∀ inv ∈ (d.exec now q).2.invitations, inv.offer ∈ d.invitations.map InvitationRow.offer ∨
      ∃ expiresAt, q = .createInvitation inv.teamID inv.email inv.role inv.token expiresAt
        inv.invitedBy ∧ inv.expiresAt = expiresAt.micros := by
  intro inv hinv
  cases q with
  | createInvitation team email role token expiresAt invitedBy =>
    simp only [exec] at hinv
    split at hinv
    · obtain hinv | hinv := List.mem_append.mp hinv
      · exact Or.inl (List.mem_map_of_mem hinv)
      · rw [List.mem_singleton.mp hinv]
        exact Or.inr ⟨expiresAt, rfl, rfl⟩
    · exact Or.inl (List.mem_map_of_mem hinv)
  | acceptInvitation token =>
    obtain ⟨old, hold, rfl⟩ := List.mem_map.mp hinv
    refine Or.inl (List.mem_map.mpr ⟨old, hold, ?_⟩)
    split <;> rfl
  | deleteInvitation id team => exact Or.inl (List.mem_map_of_mem (List.mem_of_mem_filter hinv))
  | createUser | getUserByEmail | addTeamMember | getTeamMembership | getInvitationByToken =>
    simp only [exec] at hinv
    split at hinv <;> exact Or.inl (List.mem_map_of_mem hinv)
  | hasUsers | getRegistrationsEnabled | setRegistrationsEnabled | setTeamMemberActive
  | listTeamMembers | userIsMember | listInvitations => exact Or.inl (List.mem_map_of_mem hinv)

section Step

variable {x : Platform κ} {s s' : Server κ} {reqs : List ApiRequest} {c : ApiCmd κ} {r : c.Resp}
  {p p' : Pool (ApiCmd κ) ApiCmd.Resp ApiResponse (Server κ)}

theorem Server.standings_of_serves (hserves : s.Serves x c r s') :
    ∀ k ∈ s.directory.members.map MemberRow.standing,
      k ∈ s'.directory.members.map MemberRow.standing := by
  obtain ⟨hmembers, -⟩ | ⟨q, now, -, hd⟩ := Server.serves_cases hserves
  · rw [hmembers]
    exact fun _ hk => hk
  · rw [hd]
    exact (s.directory.standings_exec now q).1

theorem standings_of_reaches {guard : Pool (ApiCmd κ) ApiCmd.Resp ApiResponse (Server κ) → ℕ →
      ApiEvent κ → Prop} (h : Pool.Reaches (Server.Serves x) guard p p') :
    ∀ k ∈ p.shared.directory.members.map MemberRow.standing,
      k ∈ p'.shared.directory.members.map MemberRow.standing := by
  refine h.induction (I := fun q => ∀ k ∈ p.shared.directory.members.map MemberRow.standing,
    k ∈ q.shared.directory.members.map MemberRow.standing) (fun _ hk => hk) ?_
  intro q i e q' hs _ hkept k hk
  exact Server.standings_of_serves hs.serves k (hkept k hk)

/-- A membership is brought about by its `INSERT`. -/
theorem Server.addTeamMember_of_serves {row : MemberRow} (hserves : s.Serves x c r s')
    (hbefore : ¬ s.HasMember row) (hafter : s'.HasMember row) :
    c = .query (.addTeamMember row.teamID row.userID row.role) := by
  obtain ⟨row', hrow', hsame⟩ := List.mem_map.mp hafter
  unfold Server.HasMember at hbefore
  rw [← hsame] at hbefore
  obtain ⟨hteam, hrest⟩ := Prod.mk.inj hsame
  obtain ⟨huser, hrole⟩ := Prod.mk.inj hrest
  obtain ⟨hmembers, -⟩ | ⟨q, now, rfl, hd⟩ := Server.serves_cases hserves
  · exact absurd (List.mem_map_of_mem (hmembers ▸ hrow')) hbefore
  · obtain hold | rfl := (s.directory.standings_exec now q).2 row' (hd ▸ hrow')
    · exact absurd hold hbefore
    · rw [hteam, huser, hrole]

theorem Server.createInvitation_of_serves {inv : InvitationRow} (hserves : s.Serves x c r s')
    (hbefore : ¬ s.HasInvitation inv) (hafter : s'.HasInvitation inv) :
    ∃ expiresAt, c = .query (.createInvitation inv.teamID inv.email inv.role inv.token expiresAt
      inv.invitedBy) ∧ inv.expiresAt = expiresAt.micros := by
  obtain ⟨inv', hinv', hsame⟩ := List.mem_map.mp hafter
  unfold Server.HasInvitation at hbefore
  rw [← hsame] at hbefore
  obtain ⟨-, hteam, hemail, hrole, htoken, hexpires, -, hby, -⟩ := InvitationRow.mk.inj hsame
  obtain ⟨-, hinvitations⟩ | ⟨q, now, rfl, hd⟩ := Server.serves_cases hserves
  · exact absurd (List.mem_map_of_mem (hinvitations ▸ hinv')) hbefore
  · obtain hold | ⟨expiresAt, rfl, hmicros⟩ := s.directory.offers_exec now q inv' (hd ▸ hinv')
    · exact absurd hold hbefore
    · exact ⟨expiresAt, by rw [hteam, hemail, hrole, htoken, hby], hexpires ▸ hmicros⟩

end Step

/-! ## Who vouches -/

/-- **A manager has issued the invitation.**  A request has put it into the table, with the email
and the role of its body, a token made of the bytes it had drawn, and 48 hours to go; by then it
had found that its user was signed in and an active owner or admin of the team.  That membership
is in the table. -/
inductive IssuedByManager (x : Platform κ) (s₀ : Server κ) (reqs : List ApiRequest)
    (p : Pool (ApiCmd κ) ApiCmd.Resp ApiResponse (Server κ)) (inv : InvitationRow) : Prop
  | mk {i : ℕ} {req : ApiRequest} {tr : List (ApiEvent κ)} {teamID : String}
      {body : InviteMemberRequest} {row : MemberRow} {random : List UInt8} {now : Time}
      (hreq : reqs[i]? = some req)
      (hep : req.endpoint = .team teamID (.createInvitation (some body)))
      (hteam : x.uuids.parse teamID = some inv.teamID)
      (hemail : inv.email = body.email) (hrole : inv.role = body.role)
      (hrandom : Answered tr (.account (.directory (.randRead 32))) (.ok random))
      (htoken : inv.token = TeamService.encodeToString random)
      (hnow : Answered tr .now now)
      (hexpires : inv.expiresAt = (Time.addSeconds now (48 * 60 * 60)).micros)
      (huser : req.SignedIn x tr inv.invitedBy)
      (hrow : Answered tr (.query (.getTeamMembership inv.teamID inv.invitedBy)) (.ok row))
      (hactive : row.isActive = true) (hmanager : row.role ∈ managerRoles)
      (hissued : BroughtAbout x s₀ reqs p (Server.HasInvitation inv) i tr
        (.query (.createInvitation inv.teamID inv.email inv.role inv.token
          (Time.addSeconds now (48 * 60 * 60)) inv.invitedBy)))
      (hstays : p.shared.HasMember row)

/-- **Somebody vouches for a membership.** -/
inductive Vouched (x : Platform κ) (s₀ : Server κ) (reqs : List ApiRequest)
    (p : Pool (ApiCmd κ) ApiCmd.Resp ApiResponse (Server κ)) (row : MemberRow) : Prop
  | initial (hrow : s₀.HasMember row)
  | founder {i : ℕ} {req : ApiRequest} {tr : List (ApiEvent κ)} {body : TeamNameRequest}
      {team : Team} (hreq : reqs[i]? = some req) (hep : req.endpoint = .createTeam (some body))
      (huser : req.SignedIn x tr row.userID)
      (hteam : Answered tr (.sql (.createTeam body.name)) (.ok team)) (hid : team.id = row.teamID)
      (hrole : row.role = roleOwner)
      (hadded : BroughtAbout x s₀ reqs p (Server.HasMember row) i tr
        (.query (.addTeamMember row.teamID row.userID row.role)))
  | invited {i : ℕ} {req : ApiRequest} {tr : List (ApiEvent κ)} {body : AcceptInvitationRequest}
      {inv : InvitationRow} (hreq : reqs[i]? = some req)
      (hep : req.endpoint = .acceptInvitation (some body))
      (hinv : FoundValid tr body.token inv) (huser : FoundAccount tr inv.email row.userID)
      (hteam : inv.teamID = row.teamID) (hrole : inv.role = row.role)
      (hadded : BroughtAbout x s₀ reqs p (Server.HasMember row) i tr
        (.query (.addTeamMember row.teamID row.userID row.role)))
      (hoffer : s₀.HasInvitation inv ∨ IssuedByManager x s₀ reqs p inv)

section Vouch

variable {x : Platform κ} {s : Server κ} {reqs : List ApiRequest}
  {p p' : Pool (ApiCmd κ) ApiCmd.Resp ApiResponse (Server κ)}

/-- **Behind an invitation of the run there is a manager.** -/
theorem issuedByManager_of_reaches {inv : InvitationRow}
    (h : Pool.Reaches (Server.Serves x) (fun _ _ _ => True)
      (Pool.start s (reqs.map (serveHTTP x))) p)
    (h' : Pool.Reaches (Server.Serves x) (fun _ _ _ => True) p p')
    (hinv : p.shared.HasInvitation inv) (hnew : ¬ s.HasInvitation inv) :
    IssuedByManager x s reqs p' inv := by
  obtain ⟨i, tr, c, hbrings⟩ := h.bringsAbout (T := Server.HasInvitation inv) hnew hinv
  have hissued : BroughtAbout x s reqs p' (Server.HasInvitation inv) i tr c := hbrings.trans h'
  obtain ⟨⟨req, hreq, hpermitted⟩, s₁, r, s₂, hserves, hbefore, hafter⟩ := hissued.permitted
  obtain ⟨expiresAt, rfl, hexpires⟩ := Server.createInvitation_of_serves hserves hbefore hafter
  obtain ⟨id, team, email, role, token, expires, accepted, invitedBy, created⟩ := inv
  obtain ⟨authorization, endpoint⟩ := req
  cases hpermitted with
  | anybody hc => cases hc
  | user _ hc => cases hc
  | member huser hep hteam hrow hactive hrole hc =>
    cases hc with
    | createInvitation _ hrandom hnow =>
      -- the membership was read in the course of the run, and it stays
      obtain ⟨q₁, q₂, -, hread, hq₂⟩ := hissued.exists_server hrow
      have hmem := (Directory.mem_of_getTeamMembership (Server.serves_query hread)).1
      exact .mk hreq hep hteam rfl rfl hrandom rfl hnow hexpires huser hrow hactive (hrole rfl)
        hissued (standings_of_reaches hq₂ _ (List.mem_map_of_mem hmem))

/-- **Nobody is in a team without somebody who vouches for it**, in every interleaving of requests.
One only has to follow the row back to the step that brought it about, and the invitation it was
made for likewise. -/
theorem vouched_of_reaches
    {guard : Pool (ApiCmd κ) ApiCmd.Resp ApiResponse (Server κ) → ℕ → ApiEvent κ → Prop}
    (hguarded : Pool.Reaches (Server.Serves x) guard (Pool.start s (reqs.map (serveHTTP x))) p)
    {row : MemberRow} (hrow : row ∈ p.shared.directory.members) : Vouched x s reqs p row := by
  have h := hguarded.unguarded
  by_cases hinitial : s.HasMember row
  · exact .initial hinitial
  obtain ⟨i, tr, c, hbrings⟩ := h.bringsAbout (T := Server.HasMember row) hinitial
    (List.mem_map_of_mem hrow)
  have hadded : BroughtAbout x s reqs p (Server.HasMember row) i tr c := hbrings
  obtain ⟨⟨req, hreq, hpermitted⟩, s₁, r, s₂, hserves, hbefore, hafter⟩ := hadded.permitted
  obtain rfl := Server.addTeamMember_of_serves hserves hbefore hafter
  obtain ⟨id, team, user, role, active, joinedAt⟩ := row
  obtain ⟨authorization, endpoint⟩ := req
  cases hpermitted with
  | anybody hc =>
    cases hc with
    | @acceptAdd body inv user hinv huser =>
      refine .invited hreq rfl hinv huser rfl rfl hadded (or_iff_not_imp_left.mpr fun hnew => ?_)
      -- the invitation was in the table when it was read
      obtain ⟨q₁, q₂, hq₁, hread, hq₂⟩ := hadded.exists_server hinv.1
      have hfound := Directory.found_of_serves
        (fun now => Directory.exec_getInvitationByToken now q₁.shared.directory body.token)
        (Server.serves_query hread)
      exact issuedByManager_of_reaches hq₁ hq₂
        (List.mem_map_of_mem (List.mem_of_find?_eq_some hfound)) hnew
  | user huser hc =>
    cases hc with
    | addOwner hteam => exact .founder hreq rfl huser hteam rfl rfl hadded
  | member _ _ _ _ _ _ hc => cases hc

end Vouch

/-- Ada invites Carol, who accepts. -/
def Sample.welcome : List ApiRequest :=
  [⟨Sample.bearer 7, .team (Sample.uuids.string 9)
      (.createInvitation (some ⟨"carol@example.org", "admin"⟩))⟩,
    ⟨"", .acceptInvitation (some ⟨"beef", "Carol", "hunter22"⟩)⟩]

/-- Other bytes for the token than those of the invitation that is there. -/
def Sample.beef : ApiEnv :=
  { (default : ApiEnv) with
    account := { (default : AccountEnv) with
      call := { (default : DirectoryEnv) with random := .ok [190, 239] } } }

theorem vouched_of_reaches_sample :
    ∃ p : Pool (ApiCmd (ℕ × ConfigMap)) ApiCmd.Resp ApiResponse (Server (ℕ × ConfigMap)),
      ∃ row ∈ p.shared.directory.members, row.userID = 11 ∧ row.role = "admin" ∧
        Vouched Sample.platform Sample.server Sample.welcome p row := by
  obtain ⟨p, hreach, hcheck⟩ := Pool.exists_reaches_of_play (Server.serve Sample.platform)
    (fun _ _ _ => true) ([0, 0, 0, 0, 0, 0, 1, 1, 1, 1, 1, 1, 1].map fun i => (i, Sample.beef))
    (Pool.start Sample.server (Sample.welcome.map (serveHTTP Sample.platform)))
    (fun p => p.shared.directory.members.any fun row => row.userID = 11 && row.role = "admin")
    (by decide)
  obtain ⟨row, hrow, hmatch⟩ := List.any_eq_true.mp hcheck
  simp only [Bool.and_eq_true, decide_eq_true_eq] at hmatch
  exact ⟨p, row, hrow, hmatch.1, hmatch.2, vouched_of_reaches hreach hrow⟩

end Sofon
