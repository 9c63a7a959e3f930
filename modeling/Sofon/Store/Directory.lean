import Sofon.Foundations.Pool
import Sofon.Store.Postgres

/-!
# The directory

Who may use the instance: the accounts, the flag that opens registration, the members of
the teams and the invitations, with the queries of `sqlc/queries` on them.  The monitoring
pipeline sees nothing of this, so the directory is a database of its own, and its commands
are a set of their own.

The environment decides about each statement whether it gets through, whether its answer
does, and when it runs; and it decides what `argon2id.CreateHash` makes of a password and
what `rand.Read` finds for a token.

The roles are strings, as the columns are `VARCHAR(20)` with no check on what is in them.  The
length never matters: a role is one that the code names itself, or one of the three that the
validator of an invitation lets through.
-/

namespace Sofon

open Interleaving

/-- A row of `users`. -/
structure AccountRow where
  id : UUID
  name : String
  email : String
  passwordHash : String
  role : String
  isActive : Bool
  createdAt : ℤ
  deriving DecidableEq

/-- A row of `team_members`. -/
structure MemberRow where
  id : UUID
  teamID : UUID
  userID : UUID
  role : String
  isActive : Bool
  joinedAt : ℤ
  deriving DecidableEq

/-- A row of `invitations`. -/
structure InvitationRow where
  id : UUID
  teamID : UUID
  email : String
  role : String
  token : String
  expiresAt : ℤ
  acceptedAt : Option ℤ
  invitedBy : UUID
  createdAt : ℤ

/-- The tables.  `registrationsEnabled` is the one row of `instance_settings`, and of `teams`
there are the ids that other rows refer to. -/
structure Directory where
  users : List AccountRow
  registrationsEnabled : Bool
  members : List MemberRow
  invitations : List InvitationRow
  nextID : UUID
  teams : List UUID

/-- `db.ListTeamMembersRow`, which is also `team.Member`. -/
structure TeamMember where
  id : UUID
  name : String
  email : String
  role : String
  isActive : Bool
  createdAt : ℤ

/-- The queries. -/
inductive DirectoryQuery where
  /-- `CreateUser :one` -/
  | createUser (name email passwordHash role : String)
  /-- `GetUserByEmail :one` -/
  | getUserByEmail (email : String)
  /-- `HasUsers :one` -/
  | hasUsers
  /-- `GetRegistrationsEnabled :one` -/
  | getRegistrationsEnabled
  /-- `SetRegistrationsEnabled :exec` -/
  | setRegistrationsEnabled (enabled : Bool)
  /-- `AddTeamMember :one` -/
  | addTeamMember (team user : UUID) (role : String)
  /-- `GetTeamMembership :one` -/
  | getTeamMembership (team user : UUID)
  /-- `ListTeamMembers :many` -/
  | listTeamMembers (team : UUID)
  /-- `SetTeamMemberActive :exec` -/
  | setTeamMemberActive (team user : UUID) (active : Bool)
  /-- `UserIsMember :one` -/
  | userIsMember (team user : UUID)
  /-- `CreateInvitation :one` -/
  | createInvitation (team : UUID) (email role token : String) (expiresAt : Time)
      (invitedBy : UUID)
  /-- `GetInvitationByToken :one` -/
  | getInvitationByToken (token : String)
  /-- `ListInvitations :many` -/
  | listInvitations (team : UUID)
  /-- `AcceptInvitation :exec` -/
  | acceptInvitation (token : String)
  /-- `DeleteInvitation :exec` -/
  | deleteInvitation (id team : UUID)

/-- What a query returns when it succeeds. -/
@[reducible] def DirectoryQuery.Result : DirectoryQuery → Type
  | createUser .. => UUID
  | getUserByEmail .. => AccountRow
  | hasUsers => Bool
  | getRegistrationsEnabled => Bool
  | setRegistrationsEnabled .. => Unit
  | addTeamMember .. => MemberRow
  | getTeamMembership .. => MemberRow
  | listTeamMembers .. => List TeamMember
  | setTeamMemberActive .. => Unit
  | userIsMember .. => Bool
  | createInvitation .. => InvitationRow
  | getInvitationByToken .. => InvitationRow
  | listInvitations .. => List InvitationRow
  | acceptInvitation .. => Unit
  | deleteInvitation .. => Unit

namespace Directory

/-- `FROM team_members tm JOIN users u ON u.id = tm.user_id WHERE tm.team_id = $1` -/
def teamMembers (d : Directory) (team : UUID) : List TeamMember :=
  (d.members.filter (·.teamID = team)).flatMap fun tm =>
    (d.users.filter (·.id = tm.userID)).map fun u =>
      ⟨u.id, u.name, u.email, tm.role, tm.isActive, u.createdAt⟩

/-- What a query that gets through does, at the time `now`. -/
def exec (now : Time) : (q : DirectoryQuery) → Directory → Except DBError q.Result × Directory
  | .createUser name email passwordHash role, d =>
    -- email is UNIQUE
    if d.users.any (·.email = email) then (.error .constraint, d)
    else (.ok d.nextID,
      { d with
        users := d.users ++ [⟨d.nextID, name, email, passwordHash, role, true, now.micros⟩]
        nextID := d.nextID + 1 })
  | .getUserByEmail email, d =>
    match d.users.find? (·.email = email) with
    | some row => (.ok row, d)
    | none => (.error .noRows, d)
  | .hasUsers, d => (.ok !d.users.isEmpty, d)
  | .getRegistrationsEnabled, d => (.ok d.registrationsEnabled, d)
  | .setRegistrationsEnabled enabled, d => (.ok (), { d with registrationsEnabled := enabled })
  | .addTeamMember team user role, d =>
    -- both ids refer to rows, and (team_id, user_id) is UNIQUE
    let row : MemberRow := ⟨d.nextID, team, user, role, true, now.micros⟩
    if team ∈ d.teams ∧ (∃ u ∈ d.users, u.id = user) ∧
        ∀ x ∈ d.members, ¬ (x.teamID = team ∧ x.userID = user) then
      (.ok row, { d with members := d.members ++ [row], nextID := d.nextID + 1 })
    else (.error .constraint, d)
  | .getTeamMembership team user, d =>
    match d.members.find? fun row => row.teamID = team && row.userID = user with
    | some row => (.ok row, d)
    | none => (.error .noRows, d)
  | .listTeamMembers team, d =>
    (.ok ((d.teamMembers team).mergeSort fun x y => x.createdAt ≤ y.createdAt), d)
  | .setTeamMemberActive team user active, d =>
    (.ok (), { d with members := d.members.map fun row =>
      if row.teamID = team && row.userID = user then { row with isActive := active } else row })
  | .userIsMember team user, d =>
    (.ok (d.members.any fun row => row.teamID = team && row.userID = user), d)
  | .createInvitation team email role token expiresAt invitedBy, d =>
    -- both ids refer to rows, and token is UNIQUE
    let row : InvitationRow :=
      ⟨d.nextID, team, email, role, token, expiresAt.micros, none, invitedBy, now.micros⟩
    if team ∈ d.teams ∧ (∃ u ∈ d.users, u.id = invitedBy) ∧
        ∀ x ∈ d.invitations, x.token ≠ token then
      (.ok row, { d with invitations := d.invitations ++ [row], nextID := d.nextID + 1 })
    else (.error .constraint, d)
  | .getInvitationByToken token, d =>
    match d.invitations.find? (·.token = token) with
    | some row => (.ok row, d)
    | none => (.error .noRows, d)
  | .listInvitations team, d =>
    (.ok ((d.invitations.filter fun row =>
      row.teamID = team && row.acceptedAt.isNone && row.expiresAt > now.micros).mergeSort
        fun x y => x.createdAt ≥ y.createdAt), d)
  | .acceptInvitation token, d =>
    (.ok (), { d with invitations := d.invitations.map fun row =>
      if row.token = token then { row with acceptedAt := some now.micros } else row })
  | .deleteInvitation id team, d =>
    (.ok (), { d with invitations := d.invitations.filter fun row =>
      !(row.id = id && row.teamID = team) })

/-- Only an `INSERT` changes the accounts, and it adds at most one. -/
theorem exec_users (now : Time) (q : DirectoryQuery) (d : Directory) :
    (d.exec now q).2.users = d.users ∨
      (∃ name email hash role, q = .createUser name email hash role) ∧
        ∃ row, (d.exec now q).2.users = d.users ++ [row] := by
  cases q with
  | createUser name email hash role =>
    simp only [exec]
    split
    · exact Or.inl rfl
    · exact Or.inr ⟨⟨_, _, _, _, rfl⟩, _, rfl⟩
  | getUserByEmail | addTeamMember | getTeamMembership | createInvitation
  | getInvitationByToken =>
    simp only [exec]
    split <;> exact Or.inl rfl
  | _ => exact Or.inl rfl

theorem exec_members (now : Time) (q : DirectoryQuery) (d : Directory) :
    (d.exec now q).2.members = d.members ∨
      (∃ team user active, q = .setTeamMemberActive team user active) ∨
        ∃ team user role, q = .addTeamMember team user role := by
  cases q with
  | createUser | getUserByEmail | getTeamMembership | createInvitation
  | getInvitationByToken =>
    simp only [exec]
    split <;> exact Or.inl rfl
  | setTeamMemberActive team user active => exact Or.inr (Or.inl ⟨_, _, _, rfl⟩)
  | addTeamMember team user role => exact Or.inr (Or.inr ⟨_, _, _, rfl⟩)
  | _ => exact Or.inl rfl

end Directory

/-! ## Calls -/

/-- The calls of the services that work on the directory. -/
inductive DirectoryCmd where
  | sql (q : DirectoryQuery)
  /-- `time.Now()` -/
  | timeNow
  /-- `security.HashPassword` -/
  | hashPassword (password : String)
  /-- `rand.Read` of `crypto/rand`, into a slice of this length -/
  | randRead (length : ℕ)

/-- What a call returns. -/
@[reducible] def DirectoryCmd.Resp : DirectoryCmd → Type
  | sql q => Except DBError q.Result
  | timeNow => Time
  | hashPassword _ => Except Unit String
  | randRead _ => Except Unit (List UInt8)

/-- The code of a service. -/
abbrev DirectoryProg := Program DirectoryCmd DirectoryCmd.Resp

/-- Run one statement. -/
def query (q : DirectoryQuery) : DirectoryProg (Except DBError q.Result) :=
  Program.perform (DirectoryCmd.sql q)

/-- `security.HashPassword` -/
def hashPassword (password : String) : DirectoryProg (Except Unit String) :=
  Program.perform (DirectoryCmd.hashPassword password)

/-- What the environment decides about one call. -/
structure DirectoryEnv where
  fails : Bool
  lost : Bool
  now : Time
  hash : Except Unit String
  random : Except Unit (List UInt8)

/-- Nothing fails, at the epoch. -/
instance : Inhabited DirectoryEnv := ⟨⟨false, false, 0, .ok "$argon2id$", .ok [192, 255, 238]⟩⟩

namespace Directory

/-- One call: a statement fails before it takes effect, or its answer is lost, or neither. -/
def serve (e : DirectoryEnv) (d : Directory) : (c : DirectoryCmd) → c.Resp × Directory
  | .sql q =>
    if e.fails then (.error .unavailable, d)
    else (if e.lost then .error .unavailable else (d.exec e.now q).1, (d.exec e.now q).2)
  | .timeNow => (e.now, d)
  | .hashPassword _ => (e.hash, d)
  | .randRead _ => (e.random, d)

/-- The service the code sees. -/
def Serves : Directory → (c : DirectoryCmd) → c.Resp → Directory → Prop :=
  Program.Interpreter serve

variable {d d' : Directory}

/-- **What a statement can do**: nothing, or what the database does; and its answer says
which of the two, or that it failed. -/
theorem serves_sql {q : DirectoryQuery} {r : Except DBError q.Result}
    (h : Serves d (.sql q) r d') :
    (r = .error .unavailable ∧ d' = d) ∨
      ∃ now, (r = (d.exec now q).1 ∨ r = .error .unavailable) ∧ d' = (d.exec now q).2 := by
  obtain ⟨e, he⟩ := h
  unfold serve at he
  cases hfails : e.fails with
  | true =>
    rw [hfails] at he
    obtain ⟨hr, hd⟩ := Prod.mk.inj he
    exact Or.inl ⟨hr.symm, hd.symm⟩
  | false =>
    rw [hfails] at he
    obtain ⟨hr, hd⟩ := Prod.mk.inj he
    refine Or.inr ⟨e.now, ?_, hd.symm⟩
    cases hlost : e.lost with
    | true =>
      rw [hlost] at hr
      exact Or.inr hr.symm
    | false =>
      rw [hlost] at hr
      exact Or.inl hr.symm

/-! ## Lookups -/

theorem exec_getUserByEmail (now : Time) (d : Directory) (email : String) :
    d.exec now (.getUserByEmail email) =
      ((d.users.find? (·.email = email)).elim (.error .noRows) .ok, d) := by
  simp only [exec]
  cases d.users.find? (·.email = email) <;> rfl

theorem exec_getTeamMembership (now : Time) (d : Directory) (team user : UUID) :
    d.exec now (.getTeamMembership team user) =
      ((d.members.find? fun row => row.teamID = team && row.userID = user).elim
        (.error .noRows) .ok, d) := by
  simp only [exec]
  cases d.members.find? fun row => row.teamID = team && row.userID = user <;> rfl

theorem exec_getInvitationByToken (now : Time) (d : Directory) (token : String) :
    d.exec now (.getInvitationByToken token) =
      ((d.invitations.find? (·.token = token)).elim (.error .noRows) .ok, d) := by
  simp only [exec]
  cases d.invitations.find? (·.token = token) <;> rfl

section Lookup

variable {q : DirectoryQuery} {o : Option q.Result} {r : Except DBError q.Result}

/-- **A lookup** changes nothing, and fails or answers what it finds. -/
theorem serves_lookup (hq : ∀ now, d.exec now q = (o.elim (.error .noRows) .ok, d))
    (h : Serves d (.sql q) r d') :
    d' = d ∧ (r = .error .unavailable ∨ r = o.elim (.error .noRows) .ok) := by
  obtain ⟨rfl, rfl⟩ | ⟨now, hr, rfl⟩ := serves_sql h
  · exact ⟨rfl, Or.inl rfl⟩
  · rw [hq] at hr
    exact ⟨congrArg Prod.snd (hq now), hr.symm⟩

theorem found_of_serves {row : q.Result}
    (hq : ∀ now, d.exec now q = (o.elim (.error .noRows) .ok, d))
    (h : Serves d (.sql q) (.ok row) d') : o = some row := by
  obtain ⟨-, hr | hr⟩ := serves_lookup hq h
  · cases hr
  · cases o with
    | none => cases hr
    | some row' => exact congrArg some (Except.ok.inj hr).symm

/-- An empty answer means that there is nothing to be found. -/
theorem none_of_serves (hq : ∀ now, d.exec now q = (o.elim (.error .noRows) .ok, d))
    (h : Serves d (.sql q) (.error .noRows) d') : o = none := by
  obtain ⟨-, hr | hr⟩ := serves_lookup hq h
  · cases hr
  · cases o with
    | none => rfl
    | some row => cases hr

end Lookup

theorem serves_aside {c : DirectoryCmd} {r : c.Resp} (hc : ∀ q, c ≠ .sql q)
    (h : Serves d c r d') : d' = d := by
  obtain ⟨e, he⟩ := h
  cases c with
  | sql q => exact absurd rfl (hc q)
  | timeNow | hashPassword password | randRead n => exact (Prod.mk.inj he).2.symm

end Directory

end Sofon
