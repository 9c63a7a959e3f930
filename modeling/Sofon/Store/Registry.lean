import Sofon.Foundations.Embedding
import Sofon.Store.Directory

/-!
# The registry

The directory together with the rows of `teams`, and the queries on accounts and teams that
the directory does not cover: those of a signed-in user about its own account, and those
about teams as such.

The column `monitors_count` is kept with the monitors, whose quota it is; a query that reads
it is given the counts.

The environment decides about a statement of either kind what it decides about one of the
directory; of a password it decides the salt, if there is one to be had.
-/

namespace Sofon

open Interleaving

/-- A row of `teams`, which is also `team.Team`. -/
structure Team where
  id : UUID
  name : String
  createdAt : ℤ
  updatedAt : ℤ

/-- The tables.  The ids that other rows refer to are those of the rows of `teams`. -/
structure Registry extends Directory where
  teamRows : List Team
  ids : teams = teamRows.map Team.id

/-- `db.GetUserByIDRow` -/
structure ProfileRow where
  id : UUID
  name : String
  email : String
  passwordHash : String
  monitorsCount : Option ℤ

/-- The queries. -/
inductive AccountQuery where
  /-- `GetUserByID :one` -/
  | getUserByID (user : UUID)
  /-- `GetUserActiveStatus :one` -/
  | getUserActiveStatus (user : UUID)
  /-- `SetUserActive :exec` -/
  | setUserActive (user : UUID) (active : Bool)
  /-- `UpdateUserName :exec` -/
  | updateUserName (user : UUID) (name : String)
  /-- `GetUserPasswordHash :one` -/
  | getUserPasswordHash (user : UUID)
  /-- `UpdateUserPassword :exec` -/
  | updateUserPassword (user : UUID) (passwordHash : String)
  /-- `CreateTeam :one` -/
  | createTeam (name : String)
  /-- `GetTeamByID :one` -/
  | getTeamByID (team : UUID)
  /-- `ListTeamsByUserID :many` -/
  | listTeamsByUserID (user : UUID)
  /-- `UpdateTeamName :exec` -/
  | updateTeamName (team : UUID) (name : String)

/-- What a query returns when it succeeds. -/
@[reducible] def AccountQuery.Result : AccountQuery → Type
  | getUserByID _ => ProfileRow
  | getUserActiveStatus _ => Bool
  | setUserActive .. => Unit
  | updateUserName .. => Unit
  | getUserPasswordHash _ => String
  | updateUserPassword .. => Unit
  | createTeam _ => Team
  | getTeamByID _ => Team
  | listTeamsByUserID _ => List Team
  | updateTeamName .. => Unit

namespace Directory

/-- No statement of the directory changes which teams there are. -/
theorem exec_teams (now : Time) (q : DirectoryQuery) (d : Directory) :
    (d.exec now q).2.teams = d.teams := by
  cases q with
  | createUser | getUserByEmail | addTeamMember | getTeamMembership | createInvitation
  | getInvitationByToken =>
    simp only [exec]
    split <;> rfl
  | _ => rfl

theorem serve_teams (e : DirectoryEnv) (d : Directory) (c : DirectoryCmd) :
    (d.serve e c).2.teams = d.teams := by
  cases c with
  | sql q =>
    unfold serve
    split
    · rfl
    · exact exec_teams e.now q d
  | timeNow | hashPassword password | randRead n => rfl

end Directory

namespace Registry

/-- The account with an id. -/
def account? (r : Registry) (user : UUID) : Option AccountRow := r.users.find? (·.id = user)

/-- Change the account with an id. -/
def updateUser (r : Registry) (user : UUID) (f : AccountRow → AccountRow) : Registry :=
  { r with users := r.users.map fun row => if row.id = user then f row else row }

/-- `FROM teams t JOIN team_members tm ON tm.team_id = t.id WHERE tm.user_id = $1` -/
def teamsOf (r : Registry) (user : UUID) : List Team :=
  r.teamRows.flatMap fun t =>
    (r.members.filter fun tm => tm.teamID = t.id && tm.userID = user).map fun _ => t

/-- The row of a new team. -/
def newTeam (r : Registry) (now : Time) (name : String) : Team :=
  ⟨r.nextID, name, now.micros, now.micros⟩

/-- `INSERT INTO teams` -/
def insertTeam (r : Registry) (row : Team) : Registry :=
  { r with
    teams := r.teams ++ [row.id]
    nextID := r.nextID + 1
    teamRows := r.teamRows ++ [row]
    ids := by rw [r.ids, List.map_append]; rfl }

/-- `UPDATE teams SET name = $2, updated_at = now() WHERE id = $1` -/
def renameTeam (r : Registry) (now : Time) (team : UUID) (name : String) : Registry :=
  { r with
    teamRows := r.teamRows.map fun row =>
      if row.id = team then { row with name := name, updatedAt := now.micros } else row
    ids := by
      rw [r.ids, List.map_map]
      refine List.map_congr_left fun row _ => ?_
      rw [Function.comp_apply]
      split <;> rfl }

/-- What a query that gets through does, at the time `now`, when users have these counts of
monitors. -/
def exec (counts : UUID → Option ℤ) (now : Time) :
    (q : AccountQuery) → Registry → Except DBError q.Result × Registry
  | .getUserByID user, r =>
    match r.account? user with
    | some row => (.ok ⟨row.id, row.name, row.email, row.passwordHash, counts row.id⟩, r)
    | none => (.error .noRows, r)
  | .getUserActiveStatus user, r =>
    match r.account? user with
    | some row => (.ok row.isActive, r)
    | none => (.error .noRows, r)
  | .setUserActive user active, r =>
    (.ok (), r.updateUser user fun row => { row with isActive := active })
  | .updateUserName user name, r =>
    (.ok (), r.updateUser user fun row => { row with name := name })
  | .getUserPasswordHash user, r =>
    match r.account? user with
    | some row => (.ok row.passwordHash, r)
    | none => (.error .noRows, r)
  | .updateUserPassword user passwordHash, r =>
    (.ok (), r.updateUser user fun row => { row with passwordHash := passwordHash })
  | .createTeam name, r => (.ok (r.newTeam now name), r.insertTeam (r.newTeam now name))
  | .getTeamByID team, r =>
    match r.teamRows.find? (·.id = team) with
    | some row => (.ok row, r)
    | none => (.error .noRows, r)
  | .listTeamsByUserID user, r =>
    (.ok ((r.teamsOf user).mergeSort fun x y => x.createdAt ≤ y.createdAt), r)
  | .updateTeamName team name, r => (.ok (), r.renameTeam now team name)

/-- A call of the directory. -/
def onDirectory (r : Registry) (e : DirectoryEnv) (c : DirectoryCmd) : Registry :=
  { r with
    toDirectory := (r.serve e c).2
    ids := (Directory.serve_teams e r.toDirectory c).trans r.ids }

end Registry

/-! ## Calls -/

/-- `argon2id`, with the parameters of the instance: a password is hashed with a salt, and
compared with a hash. -/
structure Argon2id where
  createHash : ℕ → String → String
  comparePasswordAndHash : String → String → Except Unit Bool

/-- **What the code relies on**: a hash matches the password it was made of, and no other. -/
def Argon2id.Matches (argon : Argon2id) : Prop :=
  ∀ salt password password', argon.comparePasswordAndHash password' (argon.createHash salt password) =
    .ok (password' = password)

/-- The calls of the services that work on the registry. -/
inductive AccountCmd where
  | directory (c : DirectoryCmd)
  | sql (q : AccountQuery)

/-- What a call returns. -/
@[reducible] def AccountCmd.Resp : AccountCmd → Type
  | directory c => c.Resp
  | sql q => Except DBError q.Result

/-- The code of a service. -/
abbrev AccountProg := Program AccountCmd AccountCmd.Resp

/-- The calls on the directory are calls on the registry. -/
def ofDirectory : Embedding DirectoryCmd DirectoryCmd.Resp AccountCmd AccountCmd.Resp where
  cmd := .directory
  resp _ := Equiv.refl _

/-- What the environment decides about one call. -/
structure AccountEnv where
  call : DirectoryEnv
  salt : Option ℕ

instance : Inhabited AccountEnv := ⟨⟨default, some 0⟩⟩

namespace Registry

/-- One call. -/
def serve (argon : Argon2id) (counts : UUID → Option ℤ) (e : AccountEnv) (r : Registry) :
    (c : AccountCmd) → c.Resp × Registry
  | .directory (.hashPassword password) =>
    (e.salt.elim (.error ()) fun salt => .ok (argon.createHash salt password), r)
  | .directory c => ((r.toDirectory.serve e.call c).1, r.onDirectory e.call c)
  | .sql q =>
    if e.call.fails then (.error .unavailable, r)
    else (if e.call.lost then .error .unavailable else (r.exec counts e.call.now q).1,
      (r.exec counts e.call.now q).2)

end Registry

end Sofon
