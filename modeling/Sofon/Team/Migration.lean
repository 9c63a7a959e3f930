import Sofon.Store.Directory
import Sofon.Foundations.Tables

/-!
# The migration of the team data

Migration `20260422000005` moves the one row of `team` to `teams`, makes every user a member
and gives every monitor and invitation to the new team.  Its `Down` moves the row back.

A migration is a list of statements on data and schema: a table may be missing, a column may
be `NOT NULL` and may refer to `teams`.  It runs in one transaction, so it ends with the data
or with the error of a statement.  Of a monitor and of an invitation there is its team, and
everything else is one parameter.

`Down` also drops `teams`, which is not the business of this migration: the table is created
by `20260422000001`.  So there is nothing that `Up` could insert into any more.

The proof runs the three migrations one after the other.  `Succeeds` says that a list of
statements ends with data of some kind, and `Succeeds.cons` takes off the first of them, so each
migration is a chain of lemmas about single statements (`moveData_ok`, `upsertTeam_ok` and their
neighbours).

* `up_ok`: `Up` succeeds if `team` has its row and `teams` is there.  The column can be made
  `NOT NULL` because every row has been given a team, and the references hold because it is the
  team that was inserted.
* `down_ok`: `Down` succeeds if `teams` is there, and takes it away.
* `up_error`: `Up` fails without it.

`AtVersion4.redo` puts them together for whatever data there is at the version before, and
`TeamData.not_redoable` says that the migration can never be redone.
-/

namespace Sofon

/-- Why a statement fails. -/
inductive MigrationError where
  /-- `relation … does not exist` -/
  | undefinedTable (table : String)
  /-- `violates foreign key constraint` -/
  | foreignKey (table : String)
  /-- `contains null values`, `violates not-null constraint` -/
  | notNull (table column : String)
  deriving DecidableEq

/-- A row of `team`. -/
structure SingleTeamRow where
  id : ℤ
  name : String
  createdAt : ℤ

/-- A row of `teams`. -/
structure TeamRow where
  id : UUID
  name : String
  createdAt : ℤ
  updatedAt : ℤ

/-- A row with a `team_id`, which may be null. -/
structure Owned (ρ : Type) where
  teamID : Option UUID
  rest : ρ

/-- A table of such rows: `notNull` says that the column is `NOT NULL`, and `references` that
it `REFERENCES teams(id)`. -/
structure OwnedTable (ρ : Type) where
  name : String
  rows : List (Owned ρ)
  notNull : Bool
  references : Bool

/-- What the migration works on.  `team` and `teams` may be missing, and `references` says
that `team_members.team_id` refers to `teams`. -/
structure TeamData (μ ι : Type) where
  users : List AccountRow
  team : Option (List SingleTeamRow)
  teams : Option (List TeamRow)
  members : List MemberRow
  references : Bool
  monitors : OwnedTable μ
  invitations : OwnedTable ι
  nextID : UUID

/-- All of a membership but its generated id. -/
def MemberRow.unnamed (m : MemberRow) : MemberRow := { m with id := UUID.nil }

/-- The row has a team: the one it had, or this one. -/
def Owned.assign {ρ : Type} (team : UUID) (x : Owned ρ) : Owned ρ :=
  { x with teamID := some (x.teamID.getD team) }

/-- A statement. -/
abbrev Statement (μ ι : Type) := TeamData μ ι → Except MigrationError (TeamData μ ι)

/-- The statements of a migration, in one transaction. -/
def migrate {μ ι : Type} (statements : List (Statement μ ι)) (d : TeamData μ ι) :
    Except MigrationError (TeamData μ ι) :=
  statements.foldlM (fun d statement => statement d) d

/-! ## Statements -/

namespace OwnedTable

variable {ρ : Type}

/-- `UPDATE … SET team_id = $1 WHERE team_id IS NULL` -/
def assign (teams : List TeamRow) (team : UUID) (t : OwnedTable ρ) :
    Except MigrationError (OwnedTable ρ) :=
  if t.references && t.rows.any (·.teamID.isNone) && !teams.any (·.id = team) then
    .error (.foreignKey t.name)
  else .ok { t with rows := t.rows.map (Owned.assign team) }

/-- `UPDATE … SET team_id = NULL` -/
def unassign (t : OwnedTable ρ) : Except MigrationError (OwnedTable ρ) :=
  if t.notNull && !t.rows.isEmpty then .error (.notNull t.name "team_id")
  else .ok { t with rows := t.rows.map fun x => { x with teamID := none } }

/-- `ALTER COLUMN team_id SET NOT NULL` -/
def setNotNull (t : OwnedTable ρ) : Except MigrationError (OwnedTable ρ) :=
  if t.rows.any (·.teamID.isNone) then .error (.notNull t.name "team_id")
  else .ok { t with notNull := true }

/-- `ALTER COLUMN team_id DROP NOT NULL` -/
def dropNotNull (t : OwnedTable ρ) : OwnedTable ρ := { t with notNull := false }

end OwnedTable

namespace TeamData

variable {μ ι : Type}

/-- `FROM teams`, `INTO teams` -/
def readTeams (d : TeamData μ ι) : Except MigrationError (List TeamRow) :=
  match d.teams with
  | some rows => .ok rows
  | none => .error (.undefinedTable "teams")

/-- `FROM team`, `INTO team` -/
def readTeam (d : TeamData μ ι) : Except MigrationError (List SingleTeamRow) :=
  match d.team with
  | some rows => .ok rows
  | none => .error (.undefinedTable "team")

/-- `INSERT INTO teams (name, created_at, updated_at) … RETURNING id` -/
def insertTeam (name : String) (createdAt now : ℤ) (d : TeamData μ ι) :
    Except MigrationError (UUID × TeamData μ ι) := do
  let teams ← d.readTeams
  pure (d.nextID,
    { d with teams := some (teams ++ [⟨d.nextID, name, createdAt, now⟩]), nextID := d.nextID + 1 })

/-- `INSERT INTO teams … SELECT name, created_at, now() FROM team LIMIT 1 RETURNING id` -/
def insertFromTeam (now : ℤ) (d : TeamData μ ι) :
    Except MigrationError (Option UUID × TeamData μ ι) := do
  let _ ← d.readTeams
  match ← d.readTeam with
  | [] => pure (none, d)
  | row :: _ =>
    let (id, d) ← d.insertTeam row.name row.createdAt now
    pure (some id, d)

/-- The membership of a user, under this id. -/
def memberOf (team id : UUID) (u : AccountRow) : MemberRow :=
  ⟨id, team, u.id, u.role, u.isActive, u.createdAt⟩

/-- `INSERT INTO team_members … SELECT new_team_id, … FROM users
ON CONFLICT (team_id, user_id) DO NOTHING` -/
def insertMembers (team : UUID) : Statement μ ι := fun d =>
  if d.references && !d.users.isEmpty && !(d.teams.getD []).any (·.id = team) then
    .error (.foreignKey "team_members")
  else .ok { d with
    members := (d.users.mapIdx fun i u => memberOf team (d.nextID + i) u).foldl
      (List.insertNew fun m => (m.teamID, m.userID)) d.members
    nextID := d.nextID + d.users.length }

/-- `UPDATE monitors SET team_id = …` and `ALTER TABLE monitors …` -/
def onMonitors (f : OwnedTable μ → Except MigrationError (OwnedTable μ)) : Statement μ ι :=
  fun d => do pure { d with monitors := ← f d.monitors }

/-- `UPDATE invitations SET team_id = …` and `ALTER TABLE invitations …` -/
def onInvitations (f : OwnedTable ι → Except MigrationError (OwnedTable ι)) : Statement μ ι :=
  fun d => do pure { d with invitations := ← f d.invitations }

/-- The `DO` block. -/
def moveData (now : ℤ) : Statement μ ι := fun d => do
  let (newTeamID, d) ← d.insertFromTeam now
  let (newTeamID, d) ← match newTeamID with
    | some id => pure (id, d)
    | none => d.insertTeam "My Team" now now
  let d ← insertMembers newTeamID d
  let d ← onMonitors (OwnedTable.assign (d.teams.getD []) newTeamID) d
  onInvitations (OwnedTable.assign (d.teams.getD []) newTeamID) d

/-- `DROP TABLE IF EXISTS team` -/
def dropTeam : Statement μ ι := fun d => .ok { d with team := none }

/-- `CREATE TABLE IF NOT EXISTS team` -/
def createTeam : Statement μ ι := fun d => .ok { d with team := some (d.team.getD []) }

/-- `SELECT … FROM teams ORDER BY id LIMIT 1` -/
def firstTeam (teams : List TeamRow) : Option TeamRow :=
  (teams.mergeSort fun x y => x.id ≤ y.id).head?

/-- `INSERT INTO team (id, name, created_at) VALUES (1, …)
ON CONFLICT (id) DO UPDATE SET name = EXCLUDED.name, created_at = EXCLUDED.created_at` -/
def upsertRow (rows : List SingleTeamRow) (t : TeamRow) : List SingleTeamRow :=
  if rows.any (·.id = 1) then
    rows.map fun row =>
      if row.id = 1 then { row with name := t.name, createdAt := t.createdAt } else row
  else rows ++ [⟨1, t.name, t.createdAt⟩]

/-- `INSERT INTO team … SELECT 1, name, created_at FROM teams ORDER BY id LIMIT 1
ON CONFLICT (id) DO UPDATE …` -/
def upsertTeam : Statement μ ι := fun d => do
  let rows ← d.readTeam
  let teams ← d.readTeams
  pure { d with team := some ((firstTeam teams).elim rows (upsertRow rows)) }

/-- `INSERT INTO team (id, name) VALUES (1, 'My Team') ON CONFLICT (id) DO NOTHING` -/
def insertDefaultTeam (now : ℤ) : Statement μ ι := fun d => do
  let rows ← d.readTeam
  pure { d with team := some (List.insertNew SingleTeamRow.id rows ⟨1, "My Team", now⟩) }

/-- `DELETE FROM team_members` -/
def deleteMembers : Statement μ ι := fun d => .ok { d with members := [] }

/-- `DROP TABLE IF EXISTS teams CASCADE`: the constraints that refer to the table go with it. -/
def dropTeams : Statement μ ι := fun d =>
  if d.teams.isNone then .ok d
  else .ok { d with
    teams := none
    references := false
    monitors := { d.monitors with references := false }
    invitations := { d.invitations with references := false } }

/-- `-- +goose Up`, at the time `now` -/
def up (now : ℤ) : List (Statement μ ι) :=
  [moveData now, onMonitors OwnedTable.setNotNull, onInvitations OwnedTable.setNotNull, dropTeam]

/-- `-- +goose Down`, at the time `now` -/
def down (now : ℤ) : List (Statement μ ι) :=
  [createTeam, upsertTeam, insertDefaultTeam now,
    onMonitors fun t => .ok t.dropNotNull, onMonitors OwnedTable.unassign,
    onInvitations fun t => .ok t.dropNotNull, onInvitations OwnedTable.unassign,
    deleteMembers, dropTeams]

end TeamData

/-! ## What the statements do -/

namespace OwnedTable

variable {ρ : Type} {t : OwnedTable ρ}

theorem assign_ok {teams : List TeamRow} {team : UUID} (h : teams.any (·.id = team)) :
    t.assign teams team = .ok { t with rows := t.rows.map (Owned.assign team) } := by
  simp [assign, h]

theorem unassign_ok (h : t.notNull = false) :
    t.unassign = .ok { t with rows := t.rows.map fun x => { x with teamID := none } } := by
  simp [unassign, h]

/-- The column can be made `NOT NULL` when every row has a team. -/
theorem setNotNull_ok {rows : List (Owned ρ)} {team : UUID}
    (h : t.rows = rows.map (Owned.assign team)) :
    t.setNotNull = .ok { t with notNull := true } := by
  have hsome : t.rows.any (·.teamID.isNone) = false := by
    rw [h, List.any_eq_false]
    intro x hx
    obtain ⟨y, -, rfl⟩ := List.mem_map.mp hx
    simp [Owned.assign]
  simp [setNotNull, hsome]

end OwnedTable

namespace TeamData

variable {μ ι : Type} {d : TeamData μ ι} {ts : List TeamRow} {old : SingleTeamRow}

/-- The migration succeeds with data of this kind. -/
def Succeeds (statements : List (Statement μ ι)) (d : TeamData μ ι)
    (P : TeamData μ ι → Prop) : Prop := ∃ d', migrate statements d = .ok d' ∧ P d'

theorem bind_of_ok {ε α β : Type} {x : Except ε α} {a : α} (h : x = .ok a)
    (f : α → Except ε β) : x >>= f = f a := by
  rw [h]
  rfl

/-- **The rule of the next statement.** -/
theorem Succeeds.cons {s : Statement μ ι} {ss : List (Statement μ ι)} {d₁ : TeamData μ ι}
    {P : TeamData μ ι → Prop} (h : s d = .ok d₁) (hss : Succeeds ss d₁ P) :
    Succeeds (s :: ss) d P := by
  obtain ⟨d', hd', hP⟩ := hss
  refine ⟨d', ?_, hP⟩
  rw [migrate, List.foldlM_cons, bind_of_ok h]
  exact hd'

theorem succeeds_nil {P : TeamData μ ι → Prop} (h : P d) : Succeeds [] d P := ⟨d, rfl, h⟩

theorem onMonitors_ok {f : OwnedTable μ → Except MigrationError (OwnedTable μ)} {t : OwnedTable μ}
    (h : f d.monitors = .ok t) : onMonitors f d = .ok { d with monitors := t } := by
  rw [onMonitors, h]
  rfl

theorem onInvitations_ok {f : OwnedTable ι → Except MigrationError (OwnedTable ι)}
    {t : OwnedTable ι} (h : f d.invitations = .ok t) :
    onInvitations f d = .ok { d with invitations := t } := by
  rw [onInvitations, h]
  rfl

theorem insertMembers_ok {team : UUID} (hteams : d.teams = some ts) (h : ts.any (·.id = team)) :
    insertMembers team d = .ok { d with
      members := (d.users.mapIdx fun i u => memberOf team (d.nextID + i) u).foldl
        (List.insertNew fun m => (m.teamID, m.userID)) d.members
      nextID := d.nextID + d.users.length } := by
  simp [insertMembers, hteams, h]

/-- What the `DO` block makes of the data, with a team that it inserts. -/
def withTeam (t : TeamRow) (d : TeamData μ ι) : TeamData μ ι :=
  { d with
    teams := some (d.teams.getD [] ++ [t])
    members := (d.users.mapIdx fun i u => memberOf t.id (d.nextID + 1 + i) u).foldl
      (List.insertNew fun m => (m.teamID, m.userID)) d.members
    nextID := d.nextID + 1 + d.users.length
    monitors := { d.monitors with rows := d.monitors.rows.map (Owned.assign t.id) }
    invitations := { d.invitations with rows := d.invitations.rows.map (Owned.assign t.id) } }

/-- **The `DO` block** succeeds if `team` has a row and `teams` is there. -/
theorem moveData_ok (now : ℤ) (hteam : d.team = some [old]) (hteams : d.teams = some ts) :
    moveData now d = .ok (d.withTeam ⟨d.nextID, old.name, old.createdAt, now⟩) := by
  obtain ⟨users, team, teams, members, references, monitors, invitations, nextID⟩ := d
  obtain rfl : team = some [old] := hteam
  obtain rfl : teams = some ts := hteams
  have hany : (ts ++ [(⟨nextID, old.name, old.createdAt, now⟩ : TeamRow)]).any
      (·.id = nextID) := by simp
  have hmembers := insertMembers_ok (μ := μ) (ι := ι) (d := ⟨users, some [old],
    some (ts ++ [⟨nextID, old.name, old.createdAt, now⟩]), members, references, monitors,
    invitations, nextID + 1⟩) rfl hany
  unfold moveData
  refine (bind_of_ok hmembers _).trans ?_
  refine (bind_of_ok (onMonitors_ok (OwnedTable.assign_ok hany)) _).trans ?_
  exact onInvitations_ok (OwnedTable.assign_ok hany)

/-- **`Up` succeeds** if `team` has a row and `teams` is there. -/
theorem up_ok (now : ℤ) (hteam : d.team = some [old]) (hteams : d.teams = some ts) :
    Succeeds (up now) d fun d' =>
      d' = { d.withTeam ⟨d.nextID, old.name, old.createdAt, now⟩ with
        team := none
        monitors := d'.monitors
        invitations := d'.invitations } ∧
      d'.monitors.rows = d.monitors.rows.map (Owned.assign d.nextID) ∧
      d'.invitations.rows = d.invitations.rows.map (Owned.assign d.nextID) := by
  refine Succeeds.cons (moveData_ok now hteam hteams) ?_
  refine Succeeds.cons (onMonitors_ok (OwnedTable.setNotNull_ok rfl)) ?_
  refine Succeeds.cons (onInvitations_ok (OwnedTable.setNotNull_ok rfl)) ?_
  refine Succeeds.cons rfl ?_
  exact succeeds_nil ⟨rfl, rfl, rfl⟩

theorem upsertTeam_ok {rows : List SingleTeamRow} (hteam : d.team = some rows)
    (hteams : d.teams = some ts) : upsertTeam d =
      .ok { d with team := some ((firstTeam ts).elim rows (upsertRow rows)) } := by
  simp only [upsertTeam, readTeam, readTeams, hteam, hteams]
  rfl

theorem insertDefaultTeam_ok {rows : List SingleTeamRow} (now : ℤ) (hteam : d.team = some rows) :
    insertDefaultTeam now d =
      .ok { d with team := some (List.insertNew SingleTeamRow.id rows ⟨1, "My Team", now⟩) } := by
  simp only [insertDefaultTeam, readTeam, hteam]
  rfl

theorem dropTeams_ok (hteams : d.teams = some ts) :
    dropTeams d = .ok { d with
      teams := none
      references := false
      monitors := { d.monitors with references := false }
      invitations := { d.invitations with references := false } } := by
  simp [dropTeams, hteams]

/-- **`Down` succeeds** if `teams` is there, and then it is not there any more. -/
theorem down_ok (now : ℤ) (hteams : d.teams = some ts) :
    Succeeds (down now) d fun d' => d'.teams = none := by
  refine Succeeds.cons (Eq.refl (Except.ok _)) ?_
  refine Succeeds.cons (upsertTeam_ok rfl hteams) ?_
  refine Succeeds.cons (insertDefaultTeam_ok now rfl) ?_
  refine Succeeds.cons (onMonitors_ok rfl) ?_
  refine Succeeds.cons (onMonitors_ok (OwnedTable.unassign_ok rfl)) ?_
  refine Succeeds.cons (onInvitations_ok rfl) ?_
  refine Succeeds.cons (onInvitations_ok (OwnedTable.unassign_ok rfl)) ?_
  refine Succeeds.cons (Eq.refl (Except.ok _)) ?_
  exact Succeeds.cons (dropTeams_ok hteams) (succeeds_nil rfl)

/-- `Up` fails if there is no `teams`. -/
theorem up_error (now : ℤ) (hteams : d.teams = none) :
    migrate (up now) d = .error (.undefinedTable "teams") := by
  have hinsert : d.insertFromTeam now = .error (.undefinedTable "teams") := by
    simp only [insertFromTeam, readTeams, hteams]
    rfl
  rw [up, migrate, List.foldlM_cons, moveData, hinsert]
  rfl

/-! ## Up, down and up again -/

/-- The database at version `20260422000004`, with this row in `team`: whatever the users,
monitors and invitations are, and whatever the new tables already contain. -/
structure AtVersion4 (old : SingleTeamRow) (d : TeamData μ ι) : Prop where
  team : d.team = some [old]
  teams : d.teams.isSome
  users : (d.users.map AccountRow.id).Nodup
  members : (d.members.map fun m => (m.teamID, m.userID)).Nodup
  fresh : ∀ m ∈ d.members, m.teamID < d.nextID

/-- **The data has been moved**: there is a new team with the name and the creation time of
the old one, every user is a member of it, once, with the role, the active flag and the join
time that it had, and every monitor and invitation without a team is assigned to it. -/
def Moved (old : SingleTeamRow) (d d' : TeamData μ ι) : Prop :=
  d'.team = none ∧ d'.users = d.users ∧ ∃ t : TeamRow,
    t.name = old.name ∧ t.createdAt = old.createdAt ∧
    d'.teams = some (d.teams.getD [] ++ [t]) ∧
    d'.members.map MemberRow.unnamed =
      d.members.map MemberRow.unnamed ++ d.users.map (memberOf t.id UUID.nil) ∧
    d'.monitors.rows = d.monitors.rows.map (Owned.assign t.id) ∧
    d'.invitations.rows = d.invitations.rows.map (Owned.assign t.id)

/-- **The migration can be redone**: `Up`, `Down` and `Up` succeed at every statement and end
with the data that one `Up` ends with. -/
def Redoable (old : SingleTeamRow) (now₁ now₂ now₃ : ℤ) (d : TeamData μ ι) : Prop :=
  Succeeds (up now₁) d fun d₁ => Moved old d d₁ ∧
    Succeeds (down now₂) d₁ fun d₂ => Succeeds (up now₃) d₂ (Moved old d)

/-- The new memberships are all inserted. -/
theorem AtVersion4.members_withTeam (h : d.AtVersion4 old) {t : TeamRow} (ht : t.id = d.nextID) :
    (d.withTeam t).members.map MemberRow.unnamed =
      d.members.map MemberRow.unnamed ++ d.users.map (memberOf t.id UUID.nil) := by
  have hkeys : (d.users.mapIdx fun i u => memberOf t.id (d.nextID + 1 + i) u).map
      (fun m => (m.teamID, m.userID)) = (d.users.map AccountRow.id).map (Prod.mk t.id) :=
    List.ext_getElem (by simp) fun i _ _ => by simp [memberOf]
  have hids : (d.users.mapIdx fun i u => memberOf t.id (d.nextID + 1 + i) u).map
      MemberRow.unnamed = d.users.map (memberOf t.id UUID.nil) :=
    List.ext_getElem (by simp) fun i _ _ => by simp [memberOf, MemberRow.unnamed]
  rw [withTeam, List.foldl_insertNew, List.map_append, hids]
  rw [List.map_append, List.nodup_append]
  refine ⟨h.members, ?_, ?_⟩
  · rw [hkeys]
    exact h.users.map fun _ _ hk => (Prod.mk.inj hk).2
  · -- the new team is nobody's team yet
    rintro k hk k' hk' rfl
    obtain ⟨m, hm, rfl⟩ := List.mem_map.mp hk
    rw [hkeys] at hk'
    obtain ⟨u, -, hu⟩ := List.mem_map.mp hk'
    have hlt := h.fresh m hm
    rw [← (Prod.mk.inj hu).1, ht] at hlt
    exact lt_irrefl _ hlt

/-- **`Up` and `Down` succeed, and `Up` again fails.** -/
theorem AtVersion4.redo (h : d.AtVersion4 old) (now₁ now₂ now₃ : ℤ) :
    Succeeds (up now₁) d fun d₁ => Moved old d d₁ ∧
      Succeeds (down now₂) d₁ fun d₂ =>
        migrate (up now₃) d₂ = .error (.undefinedTable "teams") := by
  obtain ⟨ts, hts⟩ := Option.isSome_iff_exists.mp h.teams
  obtain ⟨d₁, hup, heq, hmonitors, hinvitations⟩ := up_ok now₁ h.team hts
  have hteams : d₁.teams = some (ts ++ [⟨d.nextID, old.name, old.createdAt, now₁⟩]) := by
    rw [heq, withTeam, hts]
    rfl
  refine ⟨d₁, hup, ⟨by rw [heq], by rw [heq]; rfl,
    ⟨d.nextID, old.name, old.createdAt, now₁⟩, rfl, rfl, ?_, ?_, hmonitors, hinvitations⟩, ?_⟩
  · rw [hteams, hts]
    rfl
  · rw [heq]
    exact h.members_withTeam rfl
  · obtain ⟨d₂, hdown, hnone⟩ := down_ok now₂ hteams
    exact ⟨d₂, hdown, up_error now₃ hnone⟩

/-- If the second `Up` fails, then the migration cannot be redone. -/
theorem not_redoable_of_error {now₁ now₂ now₃ : ℤ} {err : MigrationError}
    (h : Succeeds (up now₁) d fun d₁ => Succeeds (down now₂) d₁ fun d₂ =>
      migrate (up now₃) d₂ = .error err) : ¬ d.Redoable old now₁ now₂ now₃ := by
  obtain ⟨d₁, hup, d₂, hdown, hagain⟩ := h
  rintro ⟨d₁', hup', -, d₂', hdown', d₃, hagain', -⟩
  obtain rfl := Except.ok.inj (hup.symm.trans hup')
  obtain rfl := Except.ok.inj (hdown.symm.trans hdown')
  rw [hagain] at hagain'
  cases hagain'

/-- **The migration can never be redone**: whatever the data, `Up` moves it and `Down`
succeeds, and then `Up` has no `teams` to insert into. -/
theorem not_redoable (h : d.AtVersion4 old) (now₁ now₂ now₃ : ℤ) :
    ¬ d.Redoable old now₁ now₂ now₃ ∧
      Succeeds (up now₁) d fun d₁ => Moved old d d₁ ∧
        Succeeds (down now₂) d₁ fun d₂ =>
          migrate (up now₃) d₂ = .error (.undefinedTable "teams") := by
  obtain ⟨d₁, hup, hmoved, hdown⟩ := h.redo now₁ now₂ now₃
  exact ⟨not_redoable_of_error ⟨d₁, hup, hdown⟩, d₁, hup, hmoved, hdown⟩

end TeamData

namespace Sample

/-- A user, a monitor and an invitation, as they are before there are teams. -/
def beforeTeams : TeamData String String where
  users := [⟨7, "Ada", "ada@example.org", "$argon2id$", "owner", true, 0⟩]
  team := some [⟨1, "My Team", 0⟩]
  teams := some []
  members := []
  references := true
  monitors := ⟨"monitors", [⟨none, "https://example.org"⟩], false, true⟩
  invitations := ⟨"invitations", [⟨none, "bob@example.org"⟩], false, true⟩
  nextID := 8

theorem beforeTeams_atVersion4 : beforeTeams.AtVersion4 ⟨1, "My Team", 0⟩ where
  team := rfl
  teams := rfl
  users := by decide
  members := by decide
  fresh := by decide

end Sample

namespace TeamData

theorem not_redoable_sample : ¬ Sample.beforeTeams.Redoable ⟨1, "My Team", 0⟩ 1 2 3 ∧
    Succeeds (up 1) Sample.beforeTeams fun d₁ => Moved ⟨1, "My Team", 0⟩ Sample.beforeTeams d₁ ∧
      Succeeds (down 2) d₁ fun d₂ => migrate (up 3) d₂ = .error (.undefinedTable "teams") :=
  not_redoable Sample.beforeTeams_atVersion4 1 2 3

/-- One user, one monitor and one invitation. -/
theorem one_user_not_redoable : ¬ Sample.beforeTeams.Redoable ⟨1, "My Team", 0⟩ 1 2 3 := by
  obtain ⟨d₁, hup, -, hdown⟩ := Sample.beforeTeams_atVersion4.redo 1 2 3
  exact not_redoable_of_error ⟨d₁, hup, hdown⟩

end TeamData

end Sofon
