import Sofon.Api.Vouched

/-!
# New teams

`CreateTeam` is two statements, and the second may fail.  A team that has come about in a run
has its founder for an owner, or it is deserted: it has neither members nor invitations
(`founded_of_reaches`).  That is so in every state, so a team whose founder has not got in when
`CreateTeam` returns is lost for good, as nobody else ever gets in before the founder.

When `CreateTeam` answers with a team, the user who has asked for it has got in.

The argument.  There are two ways into a team, and one of them needs an invitation.  To issue
an invitation takes a member, and to accept one takes an invitation that is there.  So as long
as the founder is not in, there is nobody to invite anybody, and nobody can accept.  `Settled`
says this for the tables and for what the requests have read of them, and a step keeps it: a
team with a row that names it has an owner who founded it.  What is left is to look at the
answer of `CreateTeam` (`follows_created`): it names a team only after the `INSERT` of the
founder's membership was answered well, and a statement that was answered well had its effect.
-/

namespace Sofon

open Interleaving Program

variable {κ : Type}

/-- **The team has its founder for an owner**: `user`, for whom request `i` was given the team. -/
def LedBy (x : Platform κ) (reqs : List ApiRequest) (s : Server κ)
    (logs : List (List (ApiEvent κ))) (team : UUID) (i : ℕ) (user : UUID) : Prop :=
  ∃ (req : ApiRequest) (log : List (ApiEvent κ)) (body : TeamNameRequest) (row : Team),
    reqs[i]? = some req ∧ logs[i]? = some log ∧ req.endpoint = .createTeam (some body) ∧
      req.SignedIn x log user ∧ Answered log (.sql (.createTeam body.name)) (.ok row) ∧
      row.id = team ∧ (team, user, roleOwner) ∈ s.directory.members.map MemberRow.standing

/-- The team has its founder for an owner, whoever that is. -/
def Led (x : Platform κ) (reqs : List ApiRequest) (s : Server κ) (logs : List (List (ApiEvent κ)))
    (team : UUID) : Prop := ∃ i user, LedBy x reqs s logs team i user

/-- The team has neither members nor invitations. -/
def Directory.Deserted (d : Directory) (team : UUID) : Prop :=
  (∀ row ∈ d.members, row.teamID ≠ team) ∧ ∀ inv ∈ d.invitations, inv.teamID ≠ team

/-- Members and invitations are of teams that there are. -/
structure Directory.Refers (d : Directory) : Prop where
  members : ∀ row ∈ d.members, row.teamID ∈ d.teams
  invitations : ∀ inv ∈ d.invitations, inv.teamID ∈ d.teams

/-- What holds in the course of a run: only teams with an owner are used, and only such have
been seen. -/
structure Settled (x : Platform κ) (s₀ : Server κ) (reqs : List ApiRequest) (s : Server κ)
    (logs : List (List (ApiEvent κ))) : Prop where
  members : ∀ row ∈ s.directory.members,
    row.teamID ∈ s₀.directory.teams ∨ Led x reqs s logs row.teamID
  invitations : ∀ inv ∈ s.directory.invitations,
    inv.teamID ∈ s₀.directory.teams ∨ Led x reqs s logs inv.teamID
  seen : ∀ log ∈ logs, ∀ team user row,
    Answered log (.query (.getTeamMembership team user)) (.ok row) →
      team ∈ s₀.directory.teams ∨ Led x reqs s logs team
  read : ∀ log ∈ logs, ∀ token inv,
    Answered log (.query (.getInvitationByToken token)) (.ok inv) →
      inv.teamID ∈ s₀.directory.teams ∨ Led x reqs s logs inv.teamID
  added : ∀ log ∈ logs, ∀ team user role row,
    Answered log (.query (.addTeamMember team user role)) (.ok row) →
      (team, user, role) ∈ s.directory.members.map MemberRow.standing

section Step

variable {x : Platform κ} {s₀ s s' : Server κ} {reqs : List ApiRequest} {req : ApiRequest}
  {logs logs' : List (List (ApiEvent κ))} {i : ℕ} {log : List (ApiEvent κ)} {c : ApiCmd κ}
  {r : c.Resp} {team : UUID}

/-- An owner stays. -/
theorem Led.mono (h : Led x reqs s logs team)
    (hlogs : ∀ (i : ℕ) log, logs[i]? = some log → ∃ log', logs'[i]? = some log' ∧ log <+: log')
    (hgrows : ∀ k ∈ s.directory.members.map MemberRow.standing,
      k ∈ s'.directory.members.map MemberRow.standing) : Led x reqs s' logs' team := by
  obtain ⟨i, user, req, log, body, row, hreq, hlog, hep, huser, hteam, hid, hstanding⟩ := h
  obtain ⟨log', hlog', hpre⟩ := hlogs i log hlog
  exact ⟨i, user, req, log', body, row, hreq, hlog', hep, huser.mono hpre, hteam.mono hpre, hid,
    hgrows _ hstanding⟩

/-- A member that has been added is there. -/
theorem Server.added_of_serves {user : UUID} {role : String} {row : MemberRow}
    (h : s.Serves x (.query (.addTeamMember team user role)) (.ok row) s') :
    (team, user, role) ∈ s'.directory.members.map MemberRow.standing := by
  obtain ⟨hr, -⟩ | ⟨now, hr | hr, hd⟩ := Directory.serves_sql (serves_query h)
  · cases hr
  · rw [hd]
    simp only [Directory.exec] at hr ⊢
    split at hr
    · rename_i hroom
      rw [if_pos hroom, List.map_append]
      exact List.mem_append_right _ (List.mem_singleton_self _)
    · cases hr
  · cases hr

/-- **A step keeps to teams with an owner.** -/
theorem Settled.step (h : Settled x s₀ reqs s logs) (hlog : logs[i]? = some log)
    (hreq : reqs[i]? = some req) (hc : Permitted x req log c) (hserves : s.Serves x c r s') :
    Settled x s₀ reqs s' (logs.set i (log ++ [⟨c, r⟩])) := by
  have hmem := List.mem_of_getElem? hlog
  have hgrow (j : ℕ) (tr : List (ApiEvent κ)) (hj : logs[j]? = some tr) :
      ∃ tr', (logs.set i (log ++ [⟨c, r⟩]))[j]? = some tr' ∧ tr <+: tr' := prefix_of_set hlog hj
  have hstays := Server.standings_of_serves hserves
  have hold {team : UUID} (hteam : team ∈ s₀.directory.teams ∨ Led x reqs s logs team) :
      team ∈ s₀.directory.teams ∨ Led x reqs s' (logs.set i (log ++ [⟨c, r⟩])) team :=
    hteam.imp_right fun hled => hled.mono hgrow hstays
  constructor
  · rintro ⟨id, team, user, role, active, joinedAt⟩ hrow
    obtain ⟨hmembers, -⟩ | ⟨q, now, rfl, hd⟩ := Server.serves_cases hserves
    · exact hold (h.members _ (hmembers ▸ hrow))
    obtain hbefore | rfl := (s.directory.standings_exec now q).2 _ (hd ▸ hrow)
    · obtain ⟨old, hmember, hsame⟩ := List.mem_map.mp hbefore
      obtain rfl : old.teamID = team := congrArg Prod.fst hsame
      exact hold (h.members old hmember)
    -- somebody joins: on an invitation that was read, or as the founder
    have hstanding := List.mem_map_of_mem (f := MemberRow.standing) hrow
    obtain ⟨authorization, endpoint⟩ := req
    cases hc with
    | anybody hpublic =>
      cases hpublic with
      | acceptAdd hinv _ => exact hold (h.read log hmem _ _ hinv.1)
    | user huser hpersonal =>
      cases hpersonal with
      | addOwner hteam =>
        obtain ⟨log', hlog', hpre⟩ := hgrow i log hlog
        exact Or.inr ⟨i, user, _, log', _, _, hreq, hlog', rfl, huser.mono hpre,
          hteam.mono hpre, rfl, hstanding⟩
    | member _ _ _ _ _ _ hmember => cases hmember
  · rintro ⟨id, team, email, role, token, expires, accepted, invitedBy, createdAt⟩ hinv
    obtain ⟨-, hinvitations⟩ | ⟨q, now, rfl, hd⟩ := Server.serves_cases hserves
    · exact hold (h.invitations _ (hinvitations ▸ hinv))
    obtain hbefore | ⟨expiresAt, rfl, -⟩ := s.directory.offers_exec now q _ (hd ▸ hinv)
    · obtain ⟨old, hoffer, hsame⟩ := List.mem_map.mp hbefore
      obtain ⟨-, hteam, -⟩ := InvitationRow.mk.inj hsame
      obtain rfl : old.teamID = team := hteam
      exact hold (h.invitations old hoffer)
    -- somebody invites, who has been seen to be a member
    obtain ⟨authorization, endpoint⟩ := req
    cases hc with
    | anybody hpublic => cases hpublic
    | user _ hpersonal => cases hpersonal
    | member _ _ _ hrow _ _ hmember =>
      cases hmember with
      | createInvitation _ => exact hold (h.seen log hmem _ _ _ hrow)
  · intro tr htr team user row hseen
    obtain htr | rfl := List.mem_or_eq_of_mem_set htr
    · exact hold (h.seen tr htr team user row hseen)
    obtain hbefore | hnew := List.mem_append.mp hseen
    · exact hold (h.seen log hmem team user row hbefore)
    · obtain ⟨rfl, hr⟩ := Event.mk.inj (List.mem_singleton.mp hnew)
      obtain rfl := eq_of_heq hr
      obtain ⟨hrow, hteam, -⟩ := Directory.mem_of_getTeamMembership (Server.serves_query hserves)
      have hled := hold (h.members row hrow)
      rwa [hteam] at hled
  · intro tr htr token inv hread
    obtain htr | rfl := List.mem_or_eq_of_mem_set htr
    · exact hold (h.read tr htr token inv hread)
    obtain hbefore | hnew := List.mem_append.mp hread
    · exact hold (h.read log hmem token inv hbefore)
    · obtain ⟨rfl, hr⟩ := Event.mk.inj (List.mem_singleton.mp hnew)
      obtain rfl := eq_of_heq hr
      have hfound := Directory.found_of_serves
        (fun now => Directory.exec_getInvitationByToken now s.directory token)
        (Server.serves_query hserves)
      exact hold (h.invitations inv (List.mem_of_find?_eq_some hfound))
  · intro tr htr team user role row hadded
    obtain htr | rfl := List.mem_or_eq_of_mem_set htr
    · exact hstays _ (h.added tr htr team user role row hadded)
    obtain hbefore | hnew := List.mem_append.mp hadded
    · exact hstays _ (h.added log hmem team user role row hbefore)
    · obtain ⟨rfl, hr⟩ := Event.mk.inj (List.mem_singleton.mp hnew)
      obtain rfl := eq_of_heq hr
      exact Server.added_of_serves hserves

end Step

/-- What `CreateTeam` answers with a team has put the founder into it. -/
theorem follows_created (x : Platform κ) (authorization : String) (body : TeamNameRequest) :
    (serveHTTP x ⟨authorization, .createTeam (some body)⟩).Follows
      (Protocol.history Truthful fun _ _ => True)
      (fun response tr => ∀ status message team, response = .ok ⟨status, message, .team team⟩ →
        ∃ user row added, ApiRequest.SignedIn x ⟨authorization, .createTeam (some body)⟩ tr user ∧
          Answered tr (.sql (.createTeam body.name)) (.ok row) ∧ row.id = team.id ∧
          Answered tr (.query (.addTeamMember team.id user roleOwner)) (.ok added)) [] := by
  refine follows_authenticate ⟨authorization, .createTeam (some body)⟩ (fun _ _ _ => trivial)
    (fun _ _ _ _ _ h => by cases h) fun user tr hsigned => ?_
  unfold TeamHandler.createTeam withBody respond
  dsimp only
  split
  · refine ⟨trivial, fun (created : Except DBError Team) _ => ?_⟩
    rcases created with err | row
    · exact fun _ _ _ h => by cases h
    refine ⟨trivial, fun (added : Except DBError MemberRow) _ => ?_⟩
    rcases added with err | added
    · exact fun _ _ _ h => by cases h
    intro status message team h
    cases h
    exact ⟨user, row, added, (hsigned.mono (List.prefix_append _ _)).mono (List.prefix_append _ _),
      Answered.here.later, rfl, Answered.here⟩
  · exact fun _ _ _ h => by cases h

section Runs

variable {x : Platform κ} {s : Server κ} {reqs : List ApiRequest}
  {guard : Pool (ApiCmd κ) ApiCmd.Resp ApiResponse (Server κ) → ℕ → ApiEvent κ → Prop}
  {p : Pool (ApiCmd κ) ApiCmd.Resp ApiResponse (Server κ)}

theorem settled_requests (hrefers : s.directory.Refers)
    (h : Pool.Reaches (Server.Serves x) guard (Pool.start s (reqs.map (serveHTTP x))) p) :
    Settled x s reqs p.shared (p.threads.map Thread.log) := by
  have hstart (logs : List (List (ApiEvent κ))) (hlogs : ∀ log ∈ logs, log = []) :
      Settled x s reqs s logs := by
    refine ⟨fun row hrow => Or.inl (hrefers.members row hrow),
      fun inv hinv => Or.inl (hrefers.invitations inv hinv),
      fun log hlog team user row hseen => ?_, fun log hlog token inv hread => ?_,
      fun log hlog team user role row hadded => ?_⟩
    · rw [hlogs log hlog] at hseen
      cases hseen
    · rw [hlogs log hlog] at hread
      cases hread
    · rw [hlogs log hlog] at hadded
      cases hadded
  exact invariant_requests h hstart
    fun hsettled hlog hreq hc hserves => hsettled.step hlog hreq hc hserves

/-- **A new team is its founder's or nobody's**, in every interleaving of requests; and if
`CreateTeam` has answered with it, it is that of the user of this request. -/
theorem founded_of_reaches (hrefers : s.directory.Refers)
    (h : Pool.Reaches (Server.Serves x) guard (Pool.start s (reqs.map (serveHTTP x))) p) :
    (∀ team ∈ p.shared.directory.teams, team ∈ s.directory.teams ∨
      Led x reqs p.shared (p.threads.map Thread.log) team ∨ p.shared.directory.Deserted team) ∧
    ∀ (i : ℕ) authorization body status message team log,
      reqs[i]? = some ⟨authorization, .createTeam (some body)⟩ →
      p.threads[i]? = some ⟨.ret (.ok ⟨status, message, .team team⟩), log⟩ →
      ∃ user, LedBy x reqs p.shared (p.threads.map Thread.log) team.id i user := by
  have hsettled := settled_requests hrefers h
  constructor
  · intro team _
    by_cases hled : team ∈ s.directory.teams ∨ Led x reqs p.shared (p.threads.map Thread.log) team
    · exact hled.imp_right Or.inl
    · refine Or.inr (Or.inr ⟨?_, ?_⟩)
      · rintro row hrow rfl
        exact hled (hsettled.members row hrow)
      · rintro inv hinv rfl
        exact hled (hsettled.invitations inv hinv)
  · intro i authorization body status message team log hreq hdone
    have hcreated := follows_of_reaches h hreq (follows_created x authorization body) hdone
    obtain ⟨user, row, added, huser, hrow, hid, hadded⟩ := hcreated status message team rfl
    have hlog := Pool.log_of_thread hdone
    exact ⟨user, _, log, body, row, hreq, hlog, rfl, huser, hrow, hid,
      hsettled.added log (List.mem_of_getElem? hlog) _ _ _ _ hadded⟩

end Runs

/-- Bob founds a team, and Ada as well. -/
def Sample.founders : List ApiRequest :=
  [⟨Sample.bearer 8, .createTeam (some ⟨"Bob's"⟩)⟩, ⟨Sample.bearer 7, .createTeam (some ⟨"Ada's"⟩)⟩]

/-- The second statement of Ada's request does not get through. -/
def Sample.outage : ApiEnv :=
  { (default : ApiEnv) with
    account := { (default : AccountEnv) with
      call := { (default : DirectoryEnv) with fails := true } } }

theorem founded_of_reaches_sample :
    ∃ p : Pool (ApiCmd (ℕ × ConfigMap)) ApiCmd.Resp ApiResponse (Server (ℕ × ConfigMap)),
      p.shared.directory.teams = [9, 10, 11] ∧
        p.shared.directory.members.map MemberRow.teamID = [9, 10] ∧
        (∀ team ∈ p.shared.directory.teams, team ∈ [9] ∨
          Led Sample.platform Sample.founders p.shared (p.threads.map Thread.log) team ∨
            p.shared.directory.Deserted team) ∧
        ∃ user, LedBy Sample.platform Sample.founders p.shared (p.threads.map Thread.log) 10 0
          user := by
  obtain ⟨p, status, message, team, log, hplay, hteams, hmembers, hdone, hid⟩ :
      ∃ p status message team log, Pool.play (Server.serve Sample.platform) (fun _ _ _ => true)
        (([0, 1, 0, 1, 0, 1, 0].map fun i => (i, default)) ++ [(1, Sample.outage)])
        (Pool.start Sample.server (Sample.founders.map (serveHTTP Sample.platform))) = some p ∧
      p.shared.directory.teams = [9, 10, 11] ∧
      p.shared.directory.members.map MemberRow.teamID = [9, 10] ∧
      p.threads[0]? = some ⟨.ret (.ok ⟨status, message, .team team⟩), log⟩ ∧ team.id = 10 :=
    ⟨_, _, _, _, _, rfl, rfl, rfl, rfl, rfl⟩
  obtain ⟨hall, hanswered⟩ :=
    founded_of_reaches ⟨by decide, by decide⟩ (Pool.reaches_of_play hplay)
  exact ⟨p, hteams, hmembers, hall, hid ▸ hanswered 0 _ _ _ _ _ _ rfl hdone⟩

end Sofon
