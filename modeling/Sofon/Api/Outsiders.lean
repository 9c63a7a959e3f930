import Sofon.Api.Guarded
import Sofon.Monitor.Requests

/-!
# Outsiders

Whoever is no active owner or admin of a team, and holds none of its invitations, does not
change who is in it (`roster_of_unprivileged`).  Whoever is no active member of it at all
changes nothing that belongs to it: no monitor with what is known of it, no incident, no
plugin (`intact_of_outsiders`).  This holds for any number of requests in any interleaving.

Two of the keys about a monitor have a time to live, the cached copy and the retry counter, so
they can go without anybody's doing.  The second theorem is about runs in which time is up for
the monitors of a set `gone` only (`Server.ServesExpiring`), and all but the keys of these
stays.  For the empty set nothing goes at all, and in no run does an outsider issue a command
that takes such a key away (`Evicts`): a key that is missed afterwards has run out.

The argument.  What a request may do depends on what it has been answered (`Permitted`), and
what it is answered depends on what the others have done.  So the proofs carry two things
through a run: what belongs to the team is as it was (`Warded`, `Shielded`), and what the
requests have been answered about it is what was there at the beginning (`RosterInnocent`,
`Innocent`).

1. From the second it follows that the next command leaves the team alone (`harmless`).  The
   way into a team leads through a row of its members, which is one of the beginning, and there
   the user of the token is not found; or through one of its invitations, which the request
   does not hold.  A monitor that was found among those of another team is not the team's, as
   ids are keys, and a new one gets an id that is not in use.
2. Such a command keeps the first (`warded_of_serves`, `shielded_of_serves`): a statement names
   its team or its monitor, and rows of others pass its condition as they are.
3. The first makes the next answer innocent (`rosterInnocent_of_serves`, `innocent_of_serves`).

`holds_of_reaches` puts the steps together, over the service at hand.
-/

namespace Sofon

open Interleaving KeyValue Program

variable {κ : Type} {team : UUID}

/-! ## Who is in a team -/

/-- The name of a team, its members and its invitations are as they were. -/
structure Server.SameRoster (team : UUID) (s₀ s : Server κ) : Prop where
  name : s.teamRows.filter (·.id = team) = s₀.teamRows.filter (·.id = team)
  members : s.directory.members.filter (·.teamID = team) =
    s₀.directory.members.filter (·.teamID = team)
  invitations : s.directory.invitations.filter (·.teamID = team) =
    s₀.directory.invitations.filter (·.teamID = team)

/-- A request without privileges: its token names no active owner or admin, and it accepts no
invitation of the team. -/
structure Unprivileged (x : Platform κ) (s₀ : Server κ) (team : UUID) (req : ApiRequest) :
    Prop where
  token : ∀ now user, req.Names x now user → ∀ row ∈ s₀.directory.members,
    row.teamID = team → row.userID = user → row.isActive = true → row.role ∉ managerRoles
  invitation : ∀ body, req.endpoint = .acceptInvitation (some body) →
    ∀ inv ∈ s₀.directory.invitations, inv.teamID = team → inv.token ≠ body.token

/-- The statements on the directory that are not about the team. -/
def HarmlessQuery (team : UUID) (d₀ : Directory) : DirectoryQuery → Prop
  | .addTeamMember team' _ _ => team' ≠ team
  | .setTeamMemberActive team' _ _ => team' ≠ team
  | .createInvitation team' _ _ _ _ _ => team' ≠ team
  | .acceptInvitation token => ∀ inv ∈ d₀.invitations, inv.teamID = team → inv.token ≠ token
  | .deleteInvitation _ team' => team' ≠ team
  | _ => True

/-- **The commands that do not change who is in the team.** -/
def RosterHarmless (team : UUID) (s₀ : Server κ) : ApiCmd κ → Prop
  | .account (.directory (.sql q)) => HarmlessQuery team s₀.directory q
  | .account (.sql (.updateTeamName team' _)) => team' ≠ team
  | _ => True

/-- What is answered about who is in the team is what there was at the beginning, and a new
team is another one. -/
def RosterInnocent (team : UUID) (s₀ : Server κ) : ApiEvent κ → Prop
  | ⟨.account (.directory (.sql (.getTeamMembership team' user))), .ok row⟩ =>
    team' = team → row ∈ s₀.directory.members ∧ row.teamID = team ∧ row.userID = user
  | ⟨.account (.directory (.sql (.getInvitationByToken token))), .ok inv⟩ =>
    inv.teamID = team → inv ∈ s₀.directory.invitations ∧ inv.token = token
  | ⟨.account (.sql (.createTeam _)), .ok row⟩ => row.id ≠ team
  | _ => True

section Roster

variable {x : Platform κ} {s₀ : Server κ} {req : ApiRequest} {tr : List (ApiEvent κ)}
  {c : ApiCmd κ}

/-- Without privileges one is the owner or admin of other teams only. -/
theorem Unprivileged.admitted (hout : Unprivileged x s₀ team req)
    (htr : ∀ e ∈ tr, RosterInnocent team s₀ e) {user team' : UUID} {row : MemberRow}
    (huser : req.SignedIn x tr user)
    (hrow : Answered tr (.query (.getTeamMembership team' user)) (.ok row))
    (hactive : row.isActive = true) (hrole : row.role ∈ managerRoles) : team' ≠ team := by
  rintro rfl
  obtain ⟨⟨now, -, hnames⟩, -⟩ := huser
  obtain ⟨hmem, hteam, hid⟩ := htr _ hrow rfl
  exact hout.token now user hnames row hmem hteam hid hactive hrole

/-- **Without privileges one does not change who is in the team.** -/
theorem Unprivileged.harmless (hout : Unprivileged x s₀ team req)
    (htr : ∀ e ∈ tr, RosterInnocent team s₀ e) (hc : Permitted x req tr c) :
    RosterHarmless team s₀ c := by
  obtain ⟨authorization, endpoint⟩ := req
  cases hc with
  | readToken _ => trivial
  | isUserActive _ => trivial
  | getMembership _ _ _ => trivial
  | anybody hc =>
    cases hc with
    | acceptAdd hinv _ =>
      intro hteam
      obtain ⟨hmem, htoken⟩ := htr _ hinv.1 hteam
      exact hout.invitation _ rfl _ hmem hteam htoken
    | acceptMark _ _ _ => exact hout.invitation _ rfl
    | _ => trivial
  | user _ hc =>
    cases hc with
    | addOwner hteam => exact htr _ hteam
    | _ => trivial
  | member huser hep hteam hrow hactive hrole hc =>
    cases hc with
    | updateTeam => exact hout.admitted htr huser hrow hactive (hrole rfl)
    | setMemberActive _ => exact hout.admitted htr huser hrow hactive (hrole rfl)
    | createInvitation _ => exact hout.admitted htr huser hrow hactive (hrole rfl)
    | revokeInvitation => exact hout.admitted htr huser hrow hactive (hrole rfl)
    | _ => trivial

end Roster

/-- A statement about other teams leaves the members and invitations of the team, and ids are
given out in order. -/
theorem Directory.parts_of_harmless {d₀ d : Directory} {q : DirectoryQuery} (now : Time)
    (hq : HarmlessQuery team d₀ q)
    (hinvitations : d.invitations.filter (·.teamID = team) =
      d₀.invitations.filter (·.teamID = team)) :
    (d.exec now q).2.members.filter (·.teamID = team) = d.members.filter (·.teamID = team) ∧
      (d.exec now q).2.invitations.filter (·.teamID = team) =
        d.invitations.filter (·.teamID = team) ∧
      d.nextID ≤ (d.exec now q).2.nextID := by
  cases q with
  | createUser =>
    simp only [exec]
    split
    · exact ⟨rfl, rfl, le_refl _⟩
    · exact ⟨rfl, rfl, Nat.le_succ _⟩
  | getUserByEmail | getTeamMembership | getInvitationByToken =>
    simp only [exec]
    split <;> exact ⟨rfl, rfl, le_refl _⟩
  | addTeamMember team' user role =>
    have hother : team' ≠ team := hq
    simp only [exec]
    split
    · refine ⟨?_, rfl, Nat.le_succ _⟩
      rw [List.filter_append, List.filter_cons_of_neg (by simpa using hother), List.filter_nil,
        List.append_nil]
    · exact ⟨rfl, rfl, le_refl _⟩
  | setTeamMemberActive team' user active =>
    have hother : team' ≠ team := hq
    refine ⟨List.filter_map_eq_filter (fun row => ?_) (fun row hrow => ?_) _, rfl, le_refl _⟩
    · split <;> rfl
    · have hrow : row.teamID = team := of_decide_eq_true hrow
      exact if_neg (by simp [hrow, hother.symm])
  | createInvitation team' =>
    have hother : team' ≠ team := hq
    simp only [exec]
    split
    · refine ⟨rfl, ?_, Nat.le_succ _⟩
      rw [List.filter_append, List.filter_cons_of_neg (by simpa using hother), List.filter_nil,
        List.append_nil]
    · exact ⟨rfl, rfl, le_refl _⟩
  | acceptInvitation token =>
    refine ⟨rfl, ?_, le_refl _⟩
    simp only [exec, List.filter_map]
    have hcomp : ((fun row : InvitationRow => decide (row.teamID = team)) ∘ fun row =>
        if row.token = token then { row with acceptedAt := some now.micros } else row) =
          fun row => decide (row.teamID = team) := by
      funext row
      rw [Function.comp_apply]
      split <;> rfl
    rw [hcomp]
    refine (List.map_congr_left fun row hrow => ?_).trans (List.map_id _)
    have hmem : row ∈ d₀.invitations.filter (·.teamID = team) := hinvitations ▸ hrow
    obtain ⟨hinv, hteam⟩ := List.mem_filter.mp hmem
    exact if_neg (hq row hinv (of_decide_eq_true hteam))
  | deleteInvitation id team' =>
    have hother : team' ≠ team := hq
    refine ⟨rfl, List.filter_filter_eq_filter (fun row hrow => ?_) _, le_refl _⟩
    have hrow : row.teamID = team := of_decide_eq_true hrow
    simp [hrow, hother.symm]
  | hasUsers | getRegistrationsEnabled | setRegistrationsEnabled | listTeamMembers
  | userIsMember | listInvitations => exact ⟨rfl, rfl, le_refl _⟩

/-- A statement about other teams leaves the row of the team; a new team is another one. -/
theorem Registry.parts_of_harmless {r : Registry} (counts : UUID → Option ℤ) (now : Time)
    {q : AccountQuery} (hq : ∀ team' name, q = .updateTeamName team' name → team' ≠ team)
    (hfresh : team < r.nextID) :
    (r.exec counts now q).2.teamRows.filter (·.id = team) = r.teamRows.filter (·.id = team) ∧
      (r.exec counts now q).2.members.filter (·.teamID = team) =
        r.members.filter (·.teamID = team) ∧
      (r.exec counts now q).2.invitations.filter (·.teamID = team) =
        r.invitations.filter (·.teamID = team) ∧
      r.nextID ≤ (r.exec counts now q).2.nextID := by
  cases q with
  | getUserByID | getUserActiveStatus | getUserPasswordHash | getTeamByID =>
    simp only [exec]
    split <;> exact ⟨rfl, rfl, rfl, le_refl _⟩
  | createTeam name =>
    refine ⟨?_, rfl, rfl, Nat.le_succ _⟩
    have hnew : (r.newTeam now name).id ≠ team := hfresh.ne'
    show (r.teamRows ++ [r.newTeam now name]).filter _ = _
    rw [List.filter_append, List.filter_cons_of_neg (by simpa using hnew), List.filter_nil,
      List.append_nil]
  | updateTeamName team' name =>
    have hother : team' ≠ team := hq team' name rfl
    refine ⟨List.filter_map_eq_filter (fun row => ?_) (fun row hrow => ?_) _, rfl, rfl, le_refl _⟩
    · split <;> rfl
    · have hrow : row.id = team := of_decide_eq_true hrow
      exact if_neg (hrow ▸ hother.symm)
  | setUserActive | updateUserName | updateUserPassword | listTeamsByUserID =>
    exact ⟨rfl, rfl, rfl, le_refl _⟩

namespace Server

variable {x : Platform κ} {s₀ s s' : Server κ} {c : ApiCmd κ} {r : c.Resp}

/-- What holds in the course of a run: who is in the team, and no id that is given out is that
of the team. -/
structure Warded (team : UUID) (s₀ s : Server κ) : Prop where
  roster : SameRoster team s₀ s
  fresh : team < s.directory.nextID

/-- **Such a command does not change who is in the team.** -/
theorem warded_of_serves (h : Warded team s₀ s) (hc : RosterHarmless team s₀ c)
    (hserves : Serves x s c r s') : Warded team s₀ s' := by
  have hr := h.roster
  suffices hregistry : s'.teamRows.filter (·.id = team) = s.teamRows.filter (·.id = team) ∧
      s'.directory.members.filter (·.teamID = team) =
        s.directory.members.filter (·.teamID = team) ∧
      s'.directory.invitations.filter (·.teamID = team) =
        s.directory.invitations.filter (·.teamID = team) ∧
      s.directory.nextID ≤ s'.directory.nextID by
    obtain ⟨hname, hmembers, hinvitations, hnext⟩ := hregistry
    exact ⟨⟨hname.trans hr.name, hmembers.trans hr.members, hinvitations.trans hr.invitations⟩,
      h.fresh.trans_le hnext⟩
  have hsame (hregistry : s'.registry = s.registry) :
      s'.teamRows = s.teamRows ∧ s'.directory = s.directory :=
    ⟨congrArg Registry.teamRows hregistry, congrArg Registry.toDirectory hregistry⟩
  cases c with
  | account c =>
    cases c with
    | directory c =>
      have hrows := teamRows_of_serves hserves
      by_cases hsql : ∃ q, c = .sql q
      · obtain ⟨q, rfl⟩ := hsql
        obtain ⟨-, hd⟩ | ⟨now, -, hd⟩ := Directory.serves_sql (serves_query hserves)
        · rw [hrows, hd]
          exact ⟨rfl, rfl, rfl, le_refl _⟩
        · rw [hrows, hd]
          exact ⟨rfl, Directory.parts_of_harmless now hc hr.invitations⟩
      · rw [hrows, directory_of_serves (not_exists.mp hsql) hserves]
        exact ⟨rfl, rfl, rfl, le_refl _⟩
    | sql q =>
      obtain ⟨-, hs⟩ | ⟨now, -, hs⟩ := serves_accountSQL hserves
      · obtain ⟨hrows, hd⟩ := hsame hs
        rw [hrows, hd]
        exact ⟨rfl, rfl, rfl, le_refl _⟩
      · have hparts := Registry.parts_of_harmless (r := s.registry) s.counts now (q := q)
          (fun team' name hq => by
            subst hq
            exact hc) h.fresh
        rw [← hs] at hparts
        exact hparts
  | monitor c | listing q | plugin c =>
    obtain ⟨hrows, hd⟩ := hsame (registry_of_serves (fun c' hc' => by cases hc') hserves)
    rw [hrows, hd]
    exact ⟨rfl, rfl, rfl, le_refl _⟩

/-- **What is answered about who is in the team is innocent.** -/
theorem rosterInnocent_of_serves (h : Warded team s₀ s) (hserves : Serves x s c r s') :
    RosterInnocent team s₀ ⟨c, r⟩ := by
  have hr := h.roster
  unfold RosterInnocent
  split
  · rename_i team' user row heq
    obtain ⟨rfl, hanswer⟩ := Event.mk.inj heq
    obtain rfl := eq_of_heq hanswer
    rintro rfl
    obtain ⟨hmem, hteam, huser⟩ := Directory.mem_of_getTeamMembership (serves_query hserves)
    have hrow : row ∈ s₀.directory.members.filter (·.teamID = team') :=
      hr.members ▸ List.mem_filter.mpr ⟨hmem, decide_eq_true hteam⟩
    exact ⟨List.mem_of_mem_filter hrow, hteam, huser⟩
  · rename_i token inv heq
    obtain ⟨rfl, hanswer⟩ := Event.mk.inj heq
    obtain rfl := eq_of_heq hanswer
    intro hteam
    have hfound : s.directory.invitations.find? (·.token = token) = some inv :=
      Directory.found_of_serves
        (fun now => Directory.exec_getInvitationByToken now s.directory token)
        (serves_query hserves)
    have hinv : inv ∈ s₀.directory.invitations.filter (·.teamID = team) :=
      hr.invitations ▸ List.mem_filter.mpr
        ⟨List.mem_of_find?_eq_some hfound, decide_eq_true hteam⟩
    have htoken := List.find?_some hfound
    exact ⟨List.mem_of_mem_filter hinv, of_decide_eq_true htoken⟩
  · rename_i name row heq
    obtain ⟨rfl, hanswer⟩ := Event.mk.inj heq
    obtain rfl := eq_of_heq hanswer
    obtain ⟨hanswer, -⟩ | ⟨now, hanswer | hanswer, -⟩ := serves_accountSQL hserves
    · cases hanswer
    · obtain rfl := Except.ok.inj hanswer
      exact h.fresh.ne'
    · cases hanswer
  · trivial

end Server

section Runs

variable {x : Platform κ} {s : Server κ} {reqs : List ApiRequest}
  {guard : Pool (ApiCmd κ) ApiCmd.Resp ApiResponse (Server κ) → ℕ → ApiEvent κ → Prop}
  {p : Pool (ApiCmd κ) ApiCmd.Resp ApiResponse (Server κ)}

/-- A property of the server, and one of every command with its answer, in every interleaving
of requests. -/
theorem holds_of_reaches {service : Server κ → (c : ApiCmd κ) → c.Resp → Server κ → Prop}
    {J : Server κ → Prop} {A : ApiEvent κ → Prop}
    (hservice : ∀ {s c r s'}, service s c r s' → Server.Serves x s c r s')
    (h : Pool.Reaches service guard (Pool.start s (reqs.map (serveHTTP x))) p) (hs : J s)
    (hstep : ∀ req ∈ reqs, ∀ s tr c r s', J s → (∀ e ∈ tr, A e) → Permitted x req tr c →
      service s c r s' → J s' ∧ A ⟨c, r⟩) : J p.shared ∧ ∀ t ∈ p.threads, ∀ e ∈ t.log, A e := by
  have hinvariant := invariant_of_serves (J := fun t logs => J t ∧ ∀ log ∈ logs, ∀ e ∈ log, A e)
    hservice h (fun logs hlogs => ⟨hs, fun log hlog e he => ?_⟩) ?_
  · exact ⟨hinvariant.1, fun t ht => hinvariant.2 _ (List.mem_map_of_mem ht)⟩
  · rw [hlogs log hlog] at he
    cases he
  · rintro t logs i log c r t' req ⟨hJ, hlogs⟩ hlog hreq hpermitted hserves
    have hlog' := hlogs log (List.mem_of_getElem? hlog)
    obtain ⟨hJ', he⟩ := hstep req (List.mem_of_getElem? hreq) t log c r t' hJ hlog'
      hpermitted hserves
    refine ⟨hJ', fun log' hmem e' he' => ?_⟩
    obtain hmem | rfl := List.mem_or_eq_of_mem_set hmem
    · exact hlogs log' hmem e' he'
    · obtain he' | he' := List.mem_append.mp he'
      · exact hlog' e' he'
      · rw [List.mem_singleton.mp he']
        exact he

/-- **Without an owner or admin of the team nobody changes who is in it**, in every interleaving:
its name, its members and its invitations are row by row what they were. -/
theorem roster_of_unprivileged (hteam : team < s.directory.nextID)
    (hreqs : ∀ req ∈ reqs, Unprivileged x s team req)
    (h : Pool.Reaches (Server.Serves x) guard (Pool.start s (reqs.map (serveHTTP x))) p) :
    Server.SameRoster team s p.shared := by
  refine (holds_of_reaches (J := Server.Warded team s) (A := RosterInnocent team s)
    (fun hserves => hserves) h ⟨⟨rfl, rfl, rfl⟩, hteam⟩ ?_).1.roster
  intro req hreq t tr c r t' ht htr hc hserves
  exact ⟨Server.warded_of_serves ht ((hreqs req hreq).harmless htr hc) hserves,
    Server.rosterInnocent_of_serves ht hserves⟩

end Runs

/-- Bob's token names Bob. -/
theorem Sample.names_bearer {req : ApiRequest} {now : Time} {user : UUID}
    (hreq : req.authorization = bearer 8) (h : req.Names platform now user) : user = 8 := by
  obtain ⟨t, c, htoken, hclaims, huser⟩ := h
  rw [hreq] at htoken
  obtain rfl : token 8 1800 = t := Except.ok.inj htoken
  have hc : (if now < Time.ofUnix 1800 then some (claims 8 1800) else none) = some c := hclaims
  split at hc
  · obtain rfl := Option.some.inj hc
    exact Option.some.inj (huser.symm.trans (uuids.parse_string 8))
  · cases hc

/-- Bob, who is a member, wants to be rid of Ada, and adds a monitor. -/
def Sample.mutiny : List ApiRequest :=
  [⟨Sample.bearer 8, .team (Sample.uuids.string 9)
      (.setMemberActive (Sample.uuids.string 7) (some false))⟩,
    ⟨Sample.bearer 8, .team (Sample.uuids.string 9)
      (.createMonitor (some ⟨"https://example.org", 60, 120, none, none, []⟩))⟩]

theorem roster_of_unprivileged_sample :
    ∃ p : Pool (ApiCmd (ℕ × ConfigMap)) ApiCmd.Resp ApiResponse (Server (ℕ × ConfigMap)),
      p.shared.world.db.monitors.length = 2 ∧
        Server.SameRoster 9 Sample.staffed p.shared := by
  obtain ⟨p, hreach, hcheck⟩ := Pool.exists_reaches_of_play (Server.serve Sample.platform)
    (fun _ _ _ => true) ([0, 1, 0, 1, 0, 1, 1, 1, 1, 1].map fun i => (i, default))
    (Pool.start Sample.staffed (Sample.mutiny.map (serveHTTP Sample.platform)))
    (fun p => decide (p.shared.world.db.monitors.length = 2)) (by decide)
  refine ⟨p, of_decide_eq_true hcheck, roster_of_unprivileged (by decide) ?_ hreach⟩
  intro req hreq
  have hbob : req.authorization = Sample.bearer 8 := by
    simp only [Sample.mutiny, List.mem_cons, List.not_mem_nil, or_false] at hreq
    rcases hreq with rfl | rfl <;> rfl
  refine ⟨fun now user hnames row hrow _ huser _ => ?_, fun body hbody => ?_⟩
  · obtain rfl := Sample.names_bearer hbob hnames
    simp only [Sample.staffed, List.mem_cons, List.not_mem_nil, or_false] at hrow
    rcases hrow with rfl | rfl
    · exact absurd huser (by decide)
    · decide
  · simp only [Sample.mutiny, List.mem_cons, List.not_mem_nil, or_false] at hreq
    rcases hreq with rfl | rfl <;> cases hbody

/-! ## What belongs to a team -/

/-- The monitors of a team, and what is known of them, are as they were.  Two keys expire, the
cached monitor and the retry counter: of the monitors in `gone` they may have. -/
structure World.Intact (team : UUID) (gone : UUID → Prop) (w₀ w : World) : Prop where
  monitors : w.db.monitors.filter (·.teamID = team) = w₀.db.monitors.filter (·.teamID = team)
  incidents : (w.db.incidents.filter fun row => w₀.db.ofTeam team row.monitorID) =
    w₀.db.incidents.filter fun row => w₀.db.ofTeam team row.monitorID
  schedule : ∀ m, w₀.db.ofTeam team m = true →
    w.redis.schedule.score (.id m) = w₀.redis.schedule.score (.id m)
  incident : ∀ m, w₀.db.ofTeam team m = true → w.redis.incident m = w₀.redis.incident m
  status : ∀ m, w₀.db.ofTeam team m = true → w.redis.status m = w₀.redis.status m
  cached : ∀ m, w₀.db.ofTeam team m = true →
    w.redis.monitor m = w₀.redis.monitor m ∨ gone m ∧ w.redis.monitor m = none
  retry : ∀ m, w₀.db.ofTeam team m = true → w.redis.retry m = w₀.redis.retry m ∨
    gone m ∧ w.redis.retry m = none ∧ ∃ k, w₀.redis.retry m = some k ∧ k.expires = true

/-- **What belongs to a team is as it was**, except for keys of `gone` whose time is up. -/
structure Server.Intact (team : UUID) (gone : UUID → Prop) (s₀ s : Server κ) : Prop where
  roster : Server.SameRoster team s₀ s
  world : World.Intact team gone s₀.world s.world
  plugins : s.plugins.plugins.filter (·.teamID = team) =
    s₀.plugins.plugins.filter (·.teamID = team)

/-- A request of an outsider: its token names no active member, and it accepts no invitation
of the team. -/
structure Outside (x : Platform κ) (s₀ : Server κ) (team : UUID) (req : ApiRequest) : Prop where
  token : ∀ now user, req.Names x now user → ∀ row ∈ s₀.directory.members,
    row.teamID = team → row.userID = user → row.isActive = false
  invitation : ∀ body, req.endpoint = .acceptInvitation (some body) →
    ∀ inv ∈ s₀.directory.invitations, inv.teamID = team → inv.token ≠ body.token

/-- The commands on monitors that are not the team's. -/
inductive ForeignCmd (team : UUID) (w₀ : World) : Cmd → Prop
  | timeNow : ForeignCmd team w₀ .timeNow
  | ctxDone : ForeignCmd team w₀ .ctxDone
  | getCached {m : UUID} : ForeignCmd team w₀ (.redis (.getMonitor m))
  | getMonitor {m team' : UUID} : ForeignCmd team w₀ (.sql (.getMonitorByTeamID m team'))
  | incrementMonitorCount {user : UUID} : ForeignCmd team w₀ (.sql (.incrementMonitorCount user))
  | createMonitor {data : CreateMonitor} {channels : String} (hteam : data.teamID ≠ team) :
      ForeignCmd team w₀ (.sql (.createMonitor data channels))
  | schedule {m : UUID} {score : ℤ} (hm : w₀.db.ofTeam team m = false) :
      ForeignCmd team w₀ (.redis (.zAdd [⟨score, .id m⟩]))
  | found {team' m : UUID} {c : Cmd} (hteam : team' ≠ team) (hm : w₀.db.ofTeam team m = false)
      (hc : TeamCmd team' m c) : ForeignCmd team w₀ c

/-- **The commands that leave alone what the team has.** -/
def Harmless (team : UUID) (s₀ : Server κ) : ApiCmd κ → Prop
  | .monitor c => ForeignCmd team s₀.world c
  | .plugin c => ∃ team', team' ≠ team ∧ TeamPluginCmd team' c
  | _ => True

/-- The commands that take away a key of `m` before its time is up. -/
inductive Evicts (m : UUID) : ApiCmd κ → Prop
  | copy : Evicts m (.monitor (.redis (.delMonitor m)))
  | counter : Evicts m (.monitor (.redis (.delRetry m)))

/-- A harmless command takes away no key of the team's monitors. -/
theorem Harmless.not_evicts {s₀ : Server κ} {c : ApiCmd κ} {m : UUID} (hc : Harmless team s₀ c)
    (hm : s₀.world.db.ofTeam team m = true) : ¬ Evicts m c := by
  intro hevicts
  cases hevicts with
  | copy =>
    cases hc with
    | found _ hforeign hc =>
      cases hc
      exact Bool.false_ne_true (hforeign.symm.trans hm)
  | counter =>
    cases hc with
    | found _ _ hc => cases hc

/-- What is answered about the team is what there was at the beginning, and new things are not
the team's. -/
def Innocent (team : UUID) (s₀ : Server κ) (e : ApiEvent κ) : Prop :=
  RosterInnocent team s₀ e ∧ match e with
    | ⟨.monitor (.sql (.getMonitorByTeamID m team')), .ok _⟩ =>
      team' ≠ team → s₀.world.db.ofTeam team m = false
    | ⟨.monitor (.sql (.createMonitor _ _)), .ok m⟩ => s₀.world.db.ofTeam team m = false
    | _ => True

namespace Outside

variable {x : Platform κ} {s₀ : Server κ} {req : ApiRequest} {tr : List (ApiEvent κ)}
  {c : ApiCmd κ}

/-- An outsider has no privileges. -/
theorem unprivileged (hout : Outside x s₀ team req) : Unprivileged x s₀ team req where
  token now user hnames row hrow hteam huser hactive := by
    have hinactive := hout.token now user hnames row hrow hteam huser
    exact absurd (hinactive.symm.trans hactive) Bool.false_ne_true
  invitation := hout.invitation

/-- An outsider is admitted to other teams only. -/
theorem admitted (hout : Outside x s₀ team req) (htr : ∀ e ∈ tr, Innocent team s₀ e)
    {user team' : UUID} {row : MemberRow} (huser : req.SignedIn x tr user)
    (hrow : Answered tr (.query (.getTeamMembership team' user)) (.ok row))
    (hactive : row.isActive = true) : team' ≠ team := by
  rintro rfl
  obtain ⟨⟨now, -, hnames⟩, -⟩ := huser
  obtain ⟨hmem, hteam, hid⟩ := (htr _ hrow).1 rfl
  have hinactive := hout.token now user hnames row hmem hteam hid
  exact Bool.false_ne_true (hinactive.symm.trans hactive)

/-- **What an outsider may issue leaves alone what the team has.** -/
theorem harmless (hout : Outside x s₀ team req) (htr : ∀ e ∈ tr, Innocent team s₀ e)
    (hc : Permitted x req tr c) : Harmless team s₀ c := by
  obtain ⟨authorization, endpoint⟩ := req
  cases hc with
  | readToken _ => trivial
  | isUserActive _ => trivial
  | getMembership _ _ _ => trivial
  | anybody hc => cases hc <;> trivial
  | user _ hc => cases hc <;> trivial
  | member huser hep hteam hrow hactive _ hc =>
    have hne := hout.admitted htr huser hrow hactive
    cases hc with
    | plugin hc _ => exact ⟨_, hne, hc⟩
    | timeNow => exact .timeNow
    | ctxDone => exact .ctxDone
    | incrementMonitorCount => exact .incrementMonitorCount
    | createMonitor _ _ _ => exact .createMonitor hne
    | schedule hcreated => exact .schedule (htr _ hcreated).2
    | getCached => exact .getCached
    | getMonitor => exact .getMonitor
    | found hfound hc _ => exact .found hne ((htr _ hfound).2 hne) hc
    | _ => trivial

end Outside

/-- A command about a found monitor leaves the retry counters, save that their time runs on. -/
theorem TeamCmd.retry_exec {team' m : UUID} {c : Cmd} (hc : TeamCmd team' m c) (canceled : Bool)
    (e : Env) (w : World) :
    (w.exec canceled e c).2.redis.retry = (w.expire e.expired).redis.retry := by
  cases c with
  | sql q =>
    obtain ⟨err, hexec⟩ | hexec := w.exec_sql_cases canceled e q <;> rw [hexec]
  | redis c =>
    obtain ⟨err, hexec⟩ | hexec := w.exec_redis_cases canceled e c <;> rw [hexec]
    cases hc <;> rfl
  | timeNow | ctxDone | send ev | offer job => rfl

namespace World.Intact

variable {gone : UUID → Prop} {w₀ w w' : World}

theorem refl (w : World) : World.Intact team gone w w where
  monitors := rfl
  incidents := rfl
  schedule _ _ := rfl
  incident _ _ := rfl
  status _ _ := rfl
  cached _ _ := Or.inl rfl
  retry _ _ := Or.inl rfl

theorem expire (h : World.Intact team gone w₀ w) {ks : List UUID} (hks : ∀ k ∈ ks, gone k) :
    World.Intact team gone w₀ (w.expire ks) where
  monitors := h.monitors
  incidents := h.incidents
  schedule := h.schedule
  incident := h.incident
  status := h.status
  cached m hm := by
    have hcached : (w.expire ks).redis.monitor m = (w.redis.monitor m).filter fun _ =>
      !ks.contains m := rfl
    rw [hcached]
    cases hin : ks.contains m with
    | true =>
      exact Or.inr ⟨hks m (List.contains_iff_mem.mp hin), by cases w.redis.monitor m <;> rfl⟩
    | false =>
      have hsame : ((w.redis.monitor m).filter fun _ => !false) = w.redis.monitor m := by
        cases w.redis.monitor m <;> rfl
      rw [hsame]
      exact h.cached m hm
  retry m hm := by
    have hretry : (w.expire ks).redis.retry m = (w.redis.retry m).filter fun k =>
      !(k.expires && ks.contains m) := rfl
    rw [hretry]
    obtain hsame | ⟨hgone, hnone, hbefore⟩ := h.retry m hm
    · rw [hsame]
      cases hkey : w₀.redis.retry m with
      | none => exact Or.inl rfl
      | some k =>
        cases hout : k.expires && ks.contains m with
        | true =>
          obtain ⟨hexpires, hin⟩ := Bool.and_eq_true_iff.mp hout
          refine Or.inr ⟨hks m (List.contains_iff_mem.mp hin), ?_, k, rfl, hexpires⟩
          rw [Option.filter_some, hout]
          rfl
        | false =>
          rw [Option.filter_some, hout]
          exact Or.inl rfl
    · rw [hnone]
      exact Or.inr ⟨hgone, rfl, hbefore⟩

/-- A monitor of the team is still there. -/
theorem exists_row (h : World.Intact team gone w₀ w) {m : UUID} (hm : w₀.db.ofTeam team m = true) :
    ∃ row ∈ w.db.monitors, row.id = m ∧ row.teamID = team := by
  obtain ⟨row, hrow, hmatch⟩ := List.any_eq_true.mp hm
  simp only [Bool.and_eq_true, decide_eq_true_eq] at hmatch
  have hmem : row ∈ w.db.monitors.filter (·.teamID = team) :=
    h.monitors.symm ▸ List.mem_filter.mpr ⟨hrow, decide_eq_true hmatch.2⟩
  exact ⟨row, List.mem_of_mem_filter hmem, hmatch⟩

/-- What leaves alone all that is not of another team and another monitor, and changes a retry
counter in no other way than `w` did, leaves the team alone. -/
theorem of_untouched {team' m : UUID} (h : World.Intact team gone w₀ w)
    (hteam : team' ≠ team) (hm : w₀.db.ofTeam team m = false)
    (hw : Untouched team' (fun k => k = m) gone w w') {v : World}
    (hv : World.Intact team gone w₀ v) (hretry : w'.redis.retry = v.redis.retry) :
    World.Intact team gone w₀ w' := by
  have hne {k : UUID} (hk : w₀.db.ofTeam team k = true) : k ≠ m := by
    rintro rfl
    exact Bool.false_ne_true (hm.symm.trans hk)
  constructor
  · have hfilter (l : List MonitorRow) :
        (l.filter (·.teamID ≠ team')).filter (·.teamID = team) = l.filter (·.teamID = team) :=
      List.filter_filter_eq_filter (fun row hrow => by
        have hrow : row.teamID = team := of_decide_eq_true hrow
        exact decide_eq_true (hrow ▸ hteam.symm)) l
    rw [← hfilter, hw.monitors, hfilter]
    exact h.monitors
  · have hfilter (l : List IncidentRow) :
        (l.filter fun row => !decide (row.monitorID = m)).filter
          (fun row => w₀.db.ofTeam team row.monitorID) =
            l.filter fun row => w₀.db.ofTeam team row.monitorID :=
      List.filter_filter_eq_filter (fun row hrow => by simpa using hne hrow) l
    rw [← hfilter, hw.incidents, hfilter]
    exact h.incidents
  · intro k hk
    refine (hw.schedule (.id k) fun k' hk' heq => ?_).trans (h.schedule k hk)
    obtain rfl := Member.id.inj heq
    exact hne hk (of_decide_eq_true hk')
  · exact fun k hk => (hw.incident k (decide_eq_false (hne hk))).trans (h.incident k hk)
  · exact fun k hk => (hw.status k (decide_eq_false (hne hk))).trans (h.status k hk)
  · intro k hk
    obtain hsame | hout := hw.cached k (decide_eq_false (hne hk))
    · rw [hsame]
      exact h.cached k hk
    · exact Or.inr hout
  · intro k hk
    rw [hretry]
    exact hv.retry k hk

/-- **A command on other monitors leaves those of the team alone.** -/
theorem exec {c : Cmd} (hc : ForeignCmd team w₀ c) (h : World.Intact team gone w₀ w)
    (canceled : Bool) {e : Env} (he : ∀ k ∈ e.expired, gone k) :
    World.Intact team gone w₀ (w.exec canceled e c).2 := by
  have hw := h.expire he
  cases hc with
  | timeNow => exact hw
  | ctxDone => exact hw
  | getCached =>
    obtain ⟨err, hexec⟩ | hexec := w.exec_redis_cases canceled e _ <;> rw [hexec]
    · exact hw
    · exact hw
  | getMonitor =>
    obtain ⟨err, hexec⟩ | hexec := w.exec_sql_cases canceled e _ <;> rw [hexec]
    · exact hw
    · rw [DB.exec_getMonitorByTeamID_snd]
      exact hw
  | incrementMonitorCount =>
    obtain ⟨err, hexec⟩ | hexec := w.exec_sql_cases canceled e _ <;> rw [hexec]
    · exact hw
    · exact ⟨hw.monitors, hw.incidents, hw.schedule, hw.incident, hw.status, hw.cached, hw.retry⟩
  | @createMonitor data channels hteam =>
    obtain ⟨err, hexec⟩ | hexec := w.exec_sql_cases canceled e _ <;> rw [hexec]
    · exact hw
    · simp only [DB.exec]
      split
      · refine ⟨?_, hw.incidents, hw.schedule, hw.incident, hw.status, hw.cached, hw.retry⟩
        rw [List.filter_append, List.filter_cons_of_neg (by simpa using hteam), List.filter_nil,
          List.append_nil]
        exact h.monitors
      · exact hw
  | @schedule m score hm =>
    obtain ⟨err, hexec⟩ | hexec := w.exec_redis_cases canceled e _ <;> rw [hexec]
    · exact hw
    · refine ⟨hw.monitors, hw.incidents, fun k hk => ?_, hw.incident, hw.status, hw.cached,
        hw.retry⟩
      rw [← h.schedule k hk]
      refine SortedSet.score_add_of_not_mem ?_ _
      rw [List.map_singleton, List.mem_singleton]
      intro heq
      obtain rfl := Member.id.inj heq
      exact Bool.false_ne_true (hm.symm.trans hk)
  | @found team' m c hteam hm hc =>
    -- the run beside itself
    have hstart : SameView team' (fun k => k = m) w w ∧
        Untouched team' (fun k => k = m) gone w w :=
      ⟨⟨rfl, fun _ => rfl⟩, Untouched.refl w⟩
    have hstep := hc.step (decide_eq_true rfl) (e := (canceled, e)) he hstart
    exact h.of_untouched hteam hm hstep.2.2 hw (hc.retry_exec canceled e w)

end World.Intact

namespace Server

variable {x : Platform κ} {gone : UUID → Prop} {s₀ s s' : Server κ} {c : ApiCmd κ} {r : c.Resp}

/-- What the environment decides when keys run out of time only of monitors in `gone`. -/
abbrev ExpiringEnv (gone : UUID → Prop) := { e : ApiEnv // ∀ m ∈ e.world.expired, gone m }

/-- The service in such an environment. -/
def ServesExpiring (x : Platform κ) (gone : UUID → Prop) :
    Server κ → (c : ApiCmd κ) → c.Resp → Server κ → Prop :=
  Program.Interpreter fun e : ExpiringEnv gone => serve x e.1

theorem ServesExpiring.serves (h : ServesExpiring x gone s c r s') : Serves x s c r s' := by
  obtain ⟨e, he⟩ := h
  exact ⟨e.1, he⟩

/-- What a command of the monitor service leaves of the world. -/
theorem ServesExpiring.world {c : Cmd} {r : c.Resp}
    (h : ServesExpiring x gone s (.monitor c) r s') :
    ∃ canceled e, (∀ m ∈ e.expired, gone m) ∧ (s.world.exec canceled e c).2 = s'.world := by
  obtain ⟨⟨e, hgone⟩, he⟩ := h
  exact ⟨e.canceled, e.world, hgone, congrArg (fun s => s.world) (Prod.mk.inj he).2⟩

/-- What holds in the course of a run: the team has all that it had, and ids are keys. -/
structure Shielded (team : UUID) (gone : UUID → Prop) (s₀ s : Server κ) : Prop
    extends Warded team s₀ s where
  world : World.Intact team gone s₀.world s.world
  plugins : s.plugins.plugins.filter (·.teamID = team) =
    s₀.plugins.plugins.filter (·.teamID = team)
  keyed : s.world.db.Keyed

theorem Shielded.intact (h : Shielded team gone s₀ s) : Intact team gone s₀ s :=
  ⟨h.roster, h.world, h.plugins⟩

/-- A command on other plugins leaves those of the team. -/
theorem plugins_of_foreign {team' : UUID} {c : PluginCmd κ} {r : c.Resp} (hother : team' ≠ team)
    (hc : TeamPluginCmd team' c) (hserves : Serves x s (.plugin c) r s') :
    s'.plugins.plugins.filter (·.teamID = team) = s.plugins.plugins.filter (·.teamID = team) := by
  obtain ⟨e, he⟩ := serves_plugin hserves
  have hfilter (l : List (PluginRow κ)) :
      (l.filter (·.teamID ≠ team')).filter (·.teamID = team) = l.filter (·.teamID = team) :=
    List.filter_filter_eq_filter (fun row hrow => by
      have hrow : row.teamID = team := of_decide_eq_true hrow
      exact decide_eq_true (hrow ▸ hother.symm)) l
  have huntouched : PluginStore.Untouched team' s.plugins s'.plugins := by
    have hstart : PluginStore.Untouched team' s.plugins s.plugins := ⟨rfl, rfl, rfl, rfl⟩
    have hs' : (PluginStore.serve x.enc e s.plugins c).2 = s'.plugins := congrArg Prod.snd he
    rw [← hs']
    unfold PluginStore.serve
    split
    · exact ⟨rfl, rfl, rfl, rfl⟩
    · have hexec := hstart.exec hc x.enc e
      exact ⟨hexec.plugins, hexec.resendCopies, hexec.zendutyCopies, hexec.alerts⟩
  rw [← hfilter, huntouched.plugins, hfilter]

/-- **Such a command leaves the team alone.**  Statements on accounts and members do so by
`warded_of_serves`, and those on monitors and plugins name another team or another monitor. -/
theorem shielded_of_serves (h : Shielded team gone s₀ s) (hroster : RosterHarmless team s₀ c)
    (hc : Harmless team s₀ c) (hexpiring : ServesExpiring x gone s c r s') :
    Shielded team gone s₀ s' := by
  have hserves := hexpiring.serves
  have hwarded := warded_of_serves h.toWarded hroster hserves
  cases c with
  | account c =>
    obtain ⟨users, hworld⟩ := world_of_serves_account hserves
    have hplugins := plugins_of_serves (fun c' hc' => by cases hc') hserves
    refine ⟨hwarded, ?_, hplugins ▸ h.plugins, ?_⟩
    · rw [hworld]
      exact ⟨h.world.monitors, h.world.incidents, h.world.schedule, h.world.incident,
        h.world.status, h.world.cached, h.world.retry⟩
    · rw [hworld]
      exact h.keyed
  | monitor c =>
    have hplugins := plugins_of_serves (fun c' hc' => by cases hc') hserves
    obtain ⟨canceled, e, hgone, hw⟩ := hexpiring.world
    refine ⟨hwarded, hw ▸ h.world.exec hc canceled hgone, hplugins ▸ h.plugins, ?_⟩
    rw [← hw]
    cases c with
    | sql q =>
      obtain ⟨err, hexec⟩ | hexec := s.world.exec_sql_cases canceled e q <;> rw [hexec]
      · exact h.keyed
      · exact DB.keyed_exec e.now q h.keyed
    | redis c =>
      obtain ⟨err, hexec⟩ | hexec := s.world.exec_redis_cases canceled e c <;> rw [hexec] <;>
        exact h.keyed
    | timeNow | ctxDone | send ev | offer job => exact h.keyed
  | listing q =>
    obtain ⟨e, he⟩ := hserves
    obtain rfl : s = s' := (Prod.mk.inj he).2
    exact h
  | plugin c =>
    obtain ⟨team', hother, hc⟩ := hc
    have hw := world_of_serves (fun c' hc' => by cases hc') (fun c' hc' => by cases hc') hserves
    exact ⟨hwarded, hw ▸ h.world, (plugins_of_foreign hother hc hserves).trans h.plugins,
      hw ▸ h.keyed⟩

/-- **What is answered is innocent.**  A monitor that is found for another team cannot have the id
of one of this team, as ids are keys, and a new monitor has an id that none has. -/
theorem innocent_of_serves (h : Shielded team gone s₀ s) (hserves : Serves x s c r s') :
    Innocent team s₀ ⟨c, r⟩ := by
  refine ⟨rosterInnocent_of_serves h.toWarded hserves, ?_⟩
  split
  · rename_i m team' row heq
    obtain ⟨rfl, hanswer⟩ := Event.mk.inj heq
    obtain rfl := eq_of_heq hanswer
    intro hother
    obtain ⟨canceled, e, he⟩ := serves_monitor hserves
    obtain ⟨err, hexec⟩ | hexec := s.world.exec_sql_cases canceled e (.getMonitorByTeamID m team')
    · rw [hexec] at he
      cases he
    rw [hexec] at he
    obtain ⟨hfind, hteam⟩ := DB.monitor?_of_getMonitorByTeamID (Prod.mk.inj he).1
    rw [← Bool.not_eq_true]
    intro hm
    -- the row of the team has the same id
    obtain ⟨mine, hmine, hid, hmineTeam⟩ := h.world.exists_row hm
    have hsame := List.inj_on_of_nodup_map h.keyed.1 hmine (DB.mem_of_monitor? hfind)
      (hid.trans (DB.id_of_monitor? hfind).symm)
    exact hother (hteam.symm.trans (hsame ▸ hmineTeam))
  · rename_i data channels m heq
    obtain ⟨rfl, hanswer⟩ := Event.mk.inj heq
    obtain rfl := eq_of_heq hanswer
    obtain ⟨canceled, e, he⟩ := serves_monitor hserves
    obtain ⟨err, hexec⟩ | hexec := s.world.exec_sql_cases canceled e (.createMonitor data channels)
    · rw [hexec] at he
      cases he
    rw [hexec] at he
    have hm : m = s.world.db.nextID := by
      have hcreated := (Prod.mk.inj he).1
      simp only [DB.exec] at hcreated
      split at hcreated
      · exact (Except.ok.inj hcreated).symm
      · cases hcreated
    rw [← Bool.not_eq_true]
    intro hmine
    obtain ⟨row, hrow, hid, -⟩ := h.world.exists_row hmine
    exact absurd (hm ▸ hid ▸ h.keyed.2 row hrow) (lt_irrefl _)
  · trivial

end Server

/-! ## In every interleaving -/

section Outsiders

variable {x : Platform κ} {gone : UUID → Prop} {s : Server κ} {reqs : List ApiRequest}
  {guard : Pool (ApiCmd κ) ApiCmd.Resp ApiResponse (Server κ) → ℕ → ApiEvent κ → Prop}
  {p : Pool (ApiCmd κ) ApiCmd.Resp ApiResponse (Server κ)}

theorem shielded_of_reaches (hkeyed : s.world.db.Keyed) (hteam : team < s.directory.nextID)
    (hreqs : ∀ req ∈ reqs, Outside x s team req)
    (h : Pool.Reaches (Server.ServesExpiring x gone) guard
      (Pool.start s (reqs.map (serveHTTP x))) p) : Server.Shielded team gone s p.shared ∧
      ∀ t ∈ p.threads, ∀ e ∈ t.log, Innocent team s e ∧ Harmless team s e.cmd := by
  refine holds_of_reaches (J := Server.Shielded team gone s)
    (A := fun e => Innocent team s e ∧ Harmless team s e.cmd) Server.ServesExpiring.serves h
    ⟨⟨⟨rfl, rfl, rfl⟩, hteam⟩, World.Intact.refl s.world, rfl, hkeyed⟩ ?_
  intro req hreq t tr c r t' ht htr hc hserves
  have hout := hreqs req hreq
  have hinnocent : ∀ e ∈ tr, Innocent team s e := fun e he => (htr e he).1
  have hharmless := hout.harmless hinnocent hc
  have hroster := hout.unprivileged.harmless (fun e he => (hinnocent e he).1) hc
  exact ⟨Server.shielded_of_serves ht hroster hharmless hserves,
    Server.innocent_of_serves ht hserves.serves, hharmless⟩

/-- **Outsiders change nothing**: in every interleaving of requests of outsiders, all that
belongs to the team is as it was, except for the keys that run out of time in the run; and none
of their commands takes one of these away. -/
theorem intact_of_outsiders (hkeyed : s.world.db.Keyed) (hteam : team < s.directory.nextID)
    (hreqs : ∀ req ∈ reqs, Outside x s team req)
    (h : Pool.Reaches (Server.ServesExpiring x gone) guard
      (Pool.start s (reqs.map (serveHTTP x))) p) : Server.Intact team gone s p.shared ∧
      ∀ t ∈ p.threads, ∀ e ∈ t.log, ∀ m, s.world.db.ofTeam team m = true → ¬ Evicts m e.cmd := by
  obtain ⟨hshielded, hlogs⟩ := shielded_of_reaches hkeyed hteam hreqs h
  exact ⟨hshielded.intact, fun t ht e he m hm => (hlogs t ht e he).2.not_evicts hm⟩

end Outsiders

/-- Bob wants to delete Ada's monitor and to take her team over, while he founds his own and
adds a monitor there. -/
def Sample.intruder : List ApiRequest :=
  [⟨Sample.bearer 8, .team (Sample.uuids.string 9) (.deleteMonitor (Sample.uuids.string 1))⟩,
    ⟨Sample.bearer 8, .team (Sample.uuids.string 9) (.updateTeam (some ⟨"Mine"⟩))⟩,
    ⟨Sample.bearer 8, .createTeam (some ⟨"Operations"⟩)⟩,
    ⟨Sample.bearer 8, .team (Sample.uuids.string 10)
      (.createMonitor (some ⟨"https://example.org", 60, 120, none, none, []⟩))⟩]

/-- The keys of Ada's monitor run out in the meantime. -/
def Sample.cooling : Server.ExpiringEnv fun m => m = 1 :=
  ⟨{ (default : ApiEnv) with world := { (default : Env) with expired := [1] } }, by decide⟩

theorem intact_of_outsiders_sample :
    ∃ p : Pool (ApiCmd (ℕ × ConfigMap)) ApiCmd.Resp ApiResponse (Server (ℕ × ConfigMap)),
      p.threads.map (fun t => t.log.length) = [3, 3, 4, 7] ∧ p.shared.teamRows.length = 2 ∧
        p.shared.world.redis.retry 1 = none ∧
        Server.Intact 9 (fun m => m = 1) Sample.warm p.shared ∧
        ∀ t ∈ p.threads, ∀ e ∈ t.log, ¬ Evicts 1 e.cmd := by
  obtain ⟨p, hreach, hcheck⟩ := Pool.exists_reaches_of_play
    (fun e : Server.ExpiringEnv fun m => m = 1 => Server.serve Sample.platform e.1)
    (fun _ _ _ => true)
    ([0, 1, 2, 0, 1, 2, 0, 1, 2, 2, 3, 3, 3, 3, 3, 3, 3].map fun i => (i, Sample.cooling))
    (Pool.start Sample.warm (Sample.intruder.map (serveHTTP Sample.platform)))
    (fun p => decide (p.threads.map (fun t => t.log.length) = [3, 3, 4, 7] ∧
      p.shared.teamRows.length = 2 ∧ p.shared.world.redis.retry 1 = none)) (by decide)
  obtain ⟨hlogs, hteams, hretry⟩ := of_decide_eq_true hcheck
  have hout : ∀ req ∈ Sample.intruder, Outside Sample.platform Sample.warm 9 req := by
    intro req hreq
    have hbob : req.authorization = Sample.bearer 8 := by
      simp only [Sample.intruder, List.mem_cons, List.not_mem_nil, or_false] at hreq
      rcases hreq with rfl | rfl | rfl | rfl <;> rfl
    refine ⟨fun now user hnames row hrow _ huser => ?_, fun body hbody => ?_⟩
    · obtain rfl := Sample.names_bearer hbob hnames
      obtain rfl := List.mem_singleton.mp hrow
      exact absurd huser (by decide)
    · simp only [Sample.intruder, List.mem_cons, List.not_mem_nil, or_false] at hreq
      rcases hreq with rfl | rfl | rfl | rfl <;> cases hbody
  obtain ⟨hintact, hevicts⟩ :=
    intact_of_outsiders ⟨by decide, by decide⟩ (by decide) hout hreach
  exact ⟨p, hlogs, hteams, hretry, hintact, fun t ht e he => hevicts t ht e he 1 (by decide)⟩

end Sofon
