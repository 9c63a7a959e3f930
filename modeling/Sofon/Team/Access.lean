import Sofon.Team.Service

/-!
# What an accepted invitation gives

`AcceptInvitation` ends without an error in four ways: the account was there or is made now,
and the membership is inserted now or was there before.  The last is an error of the `INSERT`
that is forgiven if `IsMember` finds the membership.

`IsMember` does not look at `is_active`, and `TeamAccessMiddleware` does.  So whoever has been
deactivated can accept an invitation, is told that it worked, and stays outside.

The service is followed from its end to its beginning, with what is to be shown at each point as
its postcondition.

* The last statement changes neither accounts nor members (`wp_mark`).
* Joining the team leaves a membership where there was none, and it is active, or leaves the one
  that was there as it was (`wp_joinTeam`); that is `Joined`.
* Before that the account is found by its email, or made under the next id
  (`wp_getUserByEmail`, `wp_createUser`).  A new account has no membership yet.
* The invitation is the one with the token (`wp_getInvitationByToken`).

`wp_acceptInvitation` is the whole call, with any statement failing or losing its answer, and
`gives_access_iff` says for every call without an error when the invited is admitted: unless the
account had an inactive membership before the call.
-/

namespace Sofon

open Interleaving Program

namespace Directory

/-- The membership that is looked up. -/
def membership? (d : Directory) (team user : UUID) : Option MemberRow :=
  d.members.find? fun row => row.teamID = team && row.userID = user

/-- **`TeamAccessMiddleware` admits the user**: a request that passes it gets to its handler,
if the lookup does not fail. -/
def Admits (d : Directory) (team user : UUID) : Prop :=
  (Program.run serve [] (teamAccess user team fun _ => pure (.ok ())) d).2.1 = .ok ()

/-- The user whom an invitation to the email is for: the account with the email, or the next
one that is made. -/
def invitee (d : Directory) (email : String) : UUID :=
  ((d.users.find? (·.email = email)).map AccountRow.id).getD d.nextID

/-- **The invitation gives access**: an account with its email is admitted to its team. -/
def GivesAccess (d : Directory) (inv : InvitationRow) : Prop :=
  ∃ u, d.users.find? (·.email = inv.email) = some u ∧ d.Admits inv.teamID u.id

variable {d d' : Directory} {team user : UUID}

/-- Active members are admitted, and nobody else. -/
theorem admits_iff : d.Admits team user ↔ ∃ m, d.membership? team user = some m ∧ m.isActive := by
  have hserve : serve default d (.sql (.getTeamMembership team user)) =
      ((d.membership? team user).elim (.error .noRows) .ok, d) :=
    exec_getTeamMembership 0 d team user
  unfold Admits teamAccess TeamService.getMembership TeamRepository.getMembership query
  simp only [perform_bind, call_bind, Program.run, List.headI_nil, hserve]
  cases d.membership? team user with
  | none =>
    refine iff_of_false (fun h => by cases h) ?_
    rintro ⟨m, hm, -⟩
    cases hm
  | some m =>
    show (Program.run serve _ (if m.isActive then _ else _) d).2.1 = _ ↔ _
    cases hactive : m.isActive <;> simp [hactive, Program.run]

theorem membership?_eq_none_iff :
    d.membership? team user = none ↔ ∀ x ∈ d.members, ¬ (x.teamID = team ∧ x.userID = user) := by
  simp [membership?, List.find?_eq_none]

theorem membership?_append {m : MemberRow} (hnone : d.membership? team user = none)
    (hmembers : d'.members = d.members ++ [m]) (hm : m.teamID = team ∧ m.userID = user) :
    d'.membership? team user = some m := by
  rw [membership?, hmembers, List.find?_append, ← membership?, hnone]
  simp [hm]

/-- Whether a user is admitted depends on the members only. -/
theorem admits_congr (h : d'.members = d.members) : d'.Admits team user ↔ d.Admits team user := by
  rw [admits_iff, admits_iff, membership?, membership?, h]

/-- Whoever has a membership is admitted, unless it is inactive. -/
theorem admits_of_member {m : MemberRow} (h : d.membership? team user = some m) :
    d.Admits team user ↔ ∀ m ∈ d.membership? team user, m.isActive := by
  rw [admits_iff, h]
  simp

/-! ## The statements -/

theorem serves_read {q : DirectoryQuery} {r : Except DBError q.Result}
    (hread : ∀ now, (d.exec now q).2 = d) (h : Serves d (.sql q) r d') :
    d' = d ∧ (r = .error .unavailable ∨ ∃ now, r = (d.exec now q).1) := by
  obtain ⟨rfl, rfl⟩ | ⟨now, hr, rfl⟩ := serves_sql h
  · exact ⟨rfl, Or.inl rfl⟩
  · exact ⟨hread now, hr.elim (fun hr => Or.inr ⟨now, hr⟩) Or.inl⟩

/-- A membership is added if there is none, and then it is active. -/
structure Adds (d : Directory) (team user : UUID) (d' : Directory) : Prop where
  users : d'.users = d.users
  new : d.membership? team user = none
  active : ∃ m, m.isActive ∧ d'.membership? team user = some m

/-- **`AddTeamMember`** adds a membership, or fails and changes nothing. -/
theorem serves_addTeamMember {role : String} {r : Except DBError MemberRow}
    (h : Serves d (.sql (.addTeamMember team user role)) r d') :
    d.Adds team user d' ∨ (∃ err, r = .error err) ∧ d' = d := by
  obtain ⟨rfl, rfl⟩ | ⟨now, hr, rfl⟩ := serves_sql h
  · exact Or.inr ⟨⟨_, rfl⟩, rfl⟩
  simp only [exec] at hr ⊢
  split at hr
  · rename_i hnew
    rw [if_pos hnew]
    have hnone := membership?_eq_none_iff.mpr hnew.2.2
    exact Or.inl ⟨rfl, hnone, _, rfl, membership?_append hnone rfl ⟨rfl, rfl⟩⟩
  · rename_i hold
    rw [if_neg hold]
    exact Or.inr ⟨hr.elim (fun hr => ⟨_, hr⟩) fun hr => ⟨_, hr⟩, rfl⟩

/-- Marking an invitation changes neither accounts nor members. -/
theorem serves_acceptInvitation {token : String} {r : Except DBError Unit}
    (h : Serves d (.sql (.acceptInvitation token)) r d') :
    d'.users = d.users ∧ d'.members = d.members := by
  obtain ⟨-, rfl⟩ | ⟨now, -, rfl⟩ := serves_sql h <;> exact ⟨rfl, rfl⟩

/-- `IsMember` finds out about a membership, active or not. -/
theorem serves_userIsMember {r : Except DBError Bool}
    (h : Serves d (.sql (.userIsMember team user)) r d') :
    d' = d ∧ (r = .ok true → ∃ m, d.membership? team user = some m) := by
  obtain ⟨hd, hr⟩ := serves_read (fun _ => rfl) h
  refine ⟨hd, fun htrue => ?_⟩
  rcases hr with hr | ⟨now, hr⟩
  · rw [htrue] at hr
    cases hr
  · have his := Except.ok.inj (htrue.symm.trans hr)
    have hisSome : (d.membership? team user).isSome := by
      rw [membership?, List.find?_isSome]
      exact List.any_eq_true.mp his.symm
    exact Option.isSome_iff_exists.mp hisSome

/-! ## The service -/

/-- No demand on the commands. -/
abbrev Whatever : Directory → DirectoryCmd → Prop := fun _ _ => True

variable {cmd : AcceptInvitationCmd}

/-- What a call that returns no error has achieved for a user: whoever was an inactive member
is one, and everybody else is admitted. -/
def Joined (d d' : Directory) (team user : UUID) : Prop :=
  d'.users = d.users ∧
    (d'.Admits team user ↔ ∀ m ∈ d.membership? team user, m.isActive)

/-- The last statement keeps it. -/
theorem wp_mark {token : String} {d₀ : Directory} (h : d₀.Joined d team user) :
    (TeamRepository.acceptInvitation token).wp Serves Whatever
      (fun r d' => r = .ok () → d₀.Joined d' team user) d := by
  refine ⟨trivial, fun r d' hs => ?_⟩
  obtain ⟨husers, hmembers⟩ := serves_acceptInvitation hs
  have hkept : d₀.Joined d' team user :=
    ⟨husers.trans h.1, (admits_congr hmembers).trans h.2⟩
  rcases r with err | u <;> exact fun _ => hkept

theorem Adds.joined (h : d.Adds team user d') : d.Joined d' team user := by
  obtain ⟨m, hactive, hm⟩ := h.active
  refine ⟨h.users, iff_of_true (admits_iff.mpr ⟨m, hm, hactive⟩) ?_⟩
  rw [h.new]
  nofun

/-- **Joining the team**: the membership is added, or it was there. -/
theorem wp_joinTeam (d : Directory) (cmd : AcceptInvitationCmd) (inv : Invitation) (user : UUID) :
    (TeamService.joinTeam cmd inv user).wp Serves Whatever
      (fun r d' => r = .ok () → d.Joined d' inv.teamID user) d := by
  refine ⟨trivial, fun added d₁ hadd => ?_⟩
  have hadd := serves_addTeamMember hadd
  rcases added with err | row
  · refine ⟨trivial, fun is d₂ his => ?_⟩
    obtain ⟨rfl, his⟩ := serves_userIsMember his
    rcases is with err' | _ | _
    · exact nofun
    · exact nofun
    · -- the `INSERT` came through after all, or there was nothing to insert
      obtain ⟨m, hm⟩ := his rfl
      refine wp_mark ?_
      rcases hadd with hadd | ⟨-, rfl⟩
      · exact hadd.joined
      · exact ⟨rfl, admits_of_member hm⟩
  · rcases hadd with hadd | ⟨⟨err, herr⟩, -⟩
    · exact wp_mark hadd.joined
    · cases herr

/-- Only the invitation with the token is accepted. -/
theorem wp_getInvitationByToken (d : Directory) (token : String) :
    (TeamService.getInvitationByToken token).wp Serves Whatever
      (fun r d' => d' = d ∧ ∀ inv, r = .ok inv →
        ∃ row, d.invitations.find? (·.token = token) = some row ∧
          inv = TeamRepository.ofRow row) d := by
  refine ⟨trivial, fun found d₁ hserves => ?_⟩
  have hlookup (now : Time) := exec_getInvitationByToken now d token
  obtain rfl := (serves_lookup hlookup hserves).1
  rcases found with err | row
  · exact ⟨rfl, fun _ h => by cases h⟩
  have hrow := found_of_serves hlookup hserves
  show Program.wp _ _ (if row.acceptedAt.isSome then _ else _ : DirectoryProg _) _ _
  split
  · exact ⟨rfl, fun _ h => (by cases h)⟩
  · refine ⟨trivial, fun now d₂ hnow => ?_⟩
    obtain rfl := serves_aside (fun _ hq => by cases hq) hnow
    show Program.wp _ _ (if Time.ofMicros row.expiresAt < now then _ else _ : DirectoryProg _) _ _
    split
    · exact ⟨rfl, fun _ h => (by cases h)⟩
    · refine ⟨rfl, fun inv hinv => ⟨row, hrow, ?_⟩⟩
      exact (Except.ok.inj hinv).symm

/-- **`GetUserByEmail`** finds the first account with the email, or says that there is none. -/
theorem wp_getUserByEmail (d : Directory) (email : String) :
    (TeamRepository.getUserByEmail email).wp Serves Whatever
      (fun r d' => d' = d ∧ ∀ user, (r = .ok (user, true) →
          ∃ u, d.users.find? (·.email = email) = some u ∧ u.id = user) ∧
        (r = .ok (user, false) → d.users.find? (·.email = email) = none)) d := by
  refine ⟨trivial, fun found d₁ hserves => ?_⟩
  have hlookup (now : Time) := exec_getUserByEmail now d email
  obtain rfl := (serves_lookup hlookup hserves).1
  rcases found with err | row
  · cases err with
    | noRows =>
      exact ⟨rfl, fun user => ⟨fun h => (by cases h), fun _ => none_of_serves hlookup hserves⟩⟩
    | constraint | unavailable | canceled =>
      exact ⟨rfl, fun user => ⟨fun h => (by cases h), fun h => by cases h⟩⟩
  · refine ⟨rfl, fun user => ⟨fun h => ?_, fun h => by cases h⟩⟩
    exact ⟨row, found_of_serves hlookup hserves, (Prod.mk.inj (Except.ok.inj h)).1⟩

/-- **`CreateUser`** adds an account under the next id. -/
theorem wp_createUser (d : Directory) (email name hash role : String)
    (hnew : d.users.find? (·.email = email) = none) :
    (TeamRepository.createUser email name hash role).wp Serves Whatever
      (fun r d' => ∀ user, r = .ok user → user = d.nextID ∧ d'.members = d.members ∧
        ∃ u, d'.users.find? (·.email = email) = some u ∧ u.id = d.nextID) d := by
  refine ⟨trivial, fun created d₁ hcreated => ?_⟩
  rcases created with err | id
  · exact nofun
  obtain ⟨hr, -⟩ | ⟨now, hr, rfl⟩ := serves_sql hcreated
  · cases hr
  have hr := hr.resolve_right nofun
  simp only [exec] at hr ⊢
  split at hr
  · cases hr
  · rename_i hany
    rw [if_neg hany]
    rintro user huser
    obtain rfl := Except.ok.inj huser
    refine ⟨Except.ok.inj hr, rfl, ⟨d.nextID, name, email, hash, role, true, now.micros⟩, ?_, rfl⟩
    rw [List.find?_append, hnew]
    simp

/-- Access is for the account with the email. -/
theorem givesAccess_iff {inv : InvitationRow} {u : AccountRow}
    (h : d.users.find? (·.email = inv.email) = some u) :
    d.GivesAccess inv ↔ d.Admits inv.teamID u.id := by
  simp [GivesAccess, h]

/-- **Accepting an invitation** with any failures of the statements. -/
theorem wp_acceptInvitation (d : Directory) (cmd : AcceptInvitationCmd) :
    (TeamService.acceptInvitation cmd).wp Serves Whatever
      (fun r d' => r = .ok () → ∃ inv, d.invitations.find? (·.token = cmd.token) = some inv ∧
        (d'.GivesAccess inv ↔
          ∀ m ∈ d.membership? inv.teamID (d.invitee inv.email), m.isActive)) d := by
  refine wp_bind.mpr ((wp_getInvitationByToken d cmd.token).mono ?_)
  rintro (err | inv) d₁ ⟨rfl, hinv⟩
  · exact nofun
  obtain ⟨row, hrow, rfl⟩ := hinv inv rfl
  refine wp_bind.mpr ((wp_getUserByEmail d₁ row.email).mono ?_)
  rintro (err | ⟨user, existing⟩) d₂ ⟨rfl, hfound⟩
  · exact nofun
  cases existing with
  | true =>
    obtain ⟨u, hu, rfl⟩ := (hfound user).1 rfl
    refine (wp_joinTeam d₂ cmd (TeamRepository.ofRow row) u.id).mono fun r d' hjoined hr => ?_
    obtain ⟨husers, hadmits⟩ := hjoined hr
    refine ⟨row, hrow, ?_⟩
    have hinvitee : d₂.invitee row.email = u.id := by rw [invitee, hu]; rfl
    rw [givesAccess_iff (husers ▸ hu), hinvitee]
    exact hadmits
  | false =>
    have hnew := (hfound user).2 rfl
    refine ⟨trivial, fun hashed d₃ hserves => ?_⟩
    obtain rfl := serves_aside (fun _ hq => by cases hq) hserves
    rcases hashed with err | hash
    · exact nofun
    show Program.wp _ _ (TeamRepository.createUser row.email cmd.name hash row.role >>= _) _ _
    refine wp_bind.mpr ((wp_createUser d₃ row.email cmd.name hash row.role hnew).mono ?_)
    rintro (err | id) d₄ hcreated
    · exact nofun
    obtain ⟨rfl, hmembers, u, hu, hid⟩ := hcreated id rfl
    refine (wp_joinTeam d₄ cmd (TeamRepository.ofRow row) d₃.nextID).mono fun r d' hjoined hr => ?_
    obtain ⟨husers, hadmits⟩ := hjoined hr
    refine ⟨row, hrow, ?_⟩
    have hinvitee : d₃.invitee row.email = d₃.nextID := by rw [invitee, hnew]; rfl
    rw [givesAccess_iff (husers ▸ hu), hid, hinvitee]
    rw [membership?, hmembers] at hadmits
    exact hadmits

end Directory

/-- **An accepted invitation gives access, unless the invited was deactivated before**: after
a call that returns no error, the account with the email is admitted to the team if and only
if it was no inactive member when the call began. -/
theorem gives_access_iff {d d' : Directory} {cmd : AcceptInvitationCmd}
    {tr : List (Event DirectoryCmd DirectoryCmd.Resp)}
    (h : Exec Directory.Serves (TeamService.acceptInvitation cmd) d tr (.ok ()) d') :
    ∃ inv, d.invitations.find? (·.token = cmd.token) = some inv ∧
      (d'.GivesAccess inv ↔
        ∀ m ∈ d.membership? inv.teamID (d.invitee inv.email), m.isActive) :=
  (h.wp (Directory.wp_acceptInvitation d cmd)).2 rfl

namespace Sample

/-- Bob is invited to Ada's team, in which these are the members. -/
def reception (bob : List AccountRow) (members : List MemberRow) : Directory :=
  ⟨⟨7, "Ada", "ada@example.org", "$argon2id$", "owner", true, 0⟩ :: bob, false,
    ⟨1, 9, 7, roleOwner, true, 0⟩ :: members,
    [⟨2, 9, "bob@example.org", "member", "c0ffee", 172800000000, none, 7, 0⟩], 10, [9]⟩

/-- Bob accepts. -/
def bobAccepts : AcceptInvitationCmd := ⟨"c0ffee", "Bob", "battery staple"⟩

/-- Bob's account. -/
def bobAccount : AccountRow := ⟨8, "Bob", "bob@example.org", "$argon2id$", "member", true, 0⟩

/-- Bob's membership, deactivated. -/
def bobInactive : MemberRow := ⟨3, 9, 8, "member", false, 0⟩

end Sample

theorem gives_access_sample : ∃ tr d', Exec Directory.Serves
    (TeamService.acceptInvitation Sample.bobAccepts) (Sample.reception [] []) tr (.ok ()) d' ∧
      ∃ inv, (Sample.reception [] []).invitations.find?
          (·.token = Sample.bobAccepts.token) = some inv ∧
        d'.GivesAccess inv := by
  have hexec := exec_run Directory.serve [] (TeamService.acceptInvitation Sample.bobAccepts)
    (Sample.reception [] [])
  obtain ⟨inv, hinv, hiff⟩ := gives_access_iff hexec
  refine ⟨_, _, hexec, inv, hinv, hiff.mpr fun m hm => ?_⟩
  cases Option.some.inj hinv
  cases hm

/-- **Bob was deactivated**: he accepts the invitation without an error, and has no access. -/
theorem accepted_without_access : ∃ tr d' inv, Exec Directory.Serves
    (TeamService.acceptInvitation Sample.bobAccepts)
      (Sample.reception [Sample.bobAccount] [Sample.bobInactive]) tr (.ok ()) d' ∧
    (Sample.reception [Sample.bobAccount] [Sample.bobInactive]).invitations.find?
      (·.token = Sample.bobAccepts.token) = some inv ∧ ¬ d'.GivesAccess inv := by
  refine ⟨_, _, _, exec_run Directory.serve [] (TeamService.acceptInvitation Sample.bobAccepts)
    (Sample.reception [Sample.bobAccount] [Sample.bobInactive]), rfl, ?_⟩
  rintro ⟨u, hu, hadmits⟩
  obtain rfl := Option.some.inj hu
  obtain ⟨m, hm, hactive⟩ := Directory.admits_iff.mp hadmits
  obtain rfl := Option.some.inj hm
  cases hactive

end Sofon
