import Sofon.Team.Service
import Sofon.User.Account

/-!
# Teams as such

The part of `team.Service` that is about teams and not about who is in them: `CreateTeam`,
which makes its caller the owner, in two statements; the list of a user's teams; the name.
-/

namespace Sofon

open Interleaving Program

/-- `team.CreateTeamCmd` -/
structure CreateTeamCmd where
  name : String
  creatorUserID : UUID

namespace TeamRepository

/-- `repository.CreateTeam` -/
def createTeam (name : String) : AccountProg (Except AppError Team) :=
  wrapped "repo.team.create_team" (.createTeam name) fun row => row

/-- `repository.GetTeamByID` -/
def getTeamByID (team : UUID) : AccountProg (Except AppError Team) :=
  wrapped "repo.team.get_team_by_id" (.getTeamByID team) fun row => row

/-- `repository.ListTeamsByUserID` -/
def listTeamsByUserID (user : UUID) : AccountProg (Except AppError (List Team)) :=
  wrapped "repo.team.list_teams_by_user_id" (.listTeamsByUserID user) fun rows => rows

/-- `repository.UpdateTeamName` -/
def updateTeamName (team : UUID) (name : String) : AccountProg (Except AppError Unit) :=
  wrapped "repo.team.update_team_name" (.updateTeamName team name) fun _ => ()

end TeamRepository

namespace TeamService

/-- `Service.CreateTeam`: the creator becomes the team owner. -/
def createTeam (cmd : CreateTeamCmd) : AccountProg (Except AppError Team) := do
  match ← TeamRepository.createTeam cmd.name with
  | .error err => pure (.error err)
  | .ok team =>
    match ← (TeamRepository.addMember team.id cmd.creatorUserID roleOwner).embed ofDirectory with
    | .error err => pure (.error err)
    | .ok _ => pure (.ok team)

/-- `Service.ListUserTeams` -/
def listUserTeams (user : UUID) : AccountProg (Except AppError (List Team)) :=
  TeamRepository.listTeamsByUserID user

/-- `Service.GetTeam` -/
def getTeam (team : UUID) : AccountProg (Except AppError Team) := TeamRepository.getTeamByID team

/-- `Service.UpdateTeamName` -/
def updateTeamName (team : UUID) (name : String) : AccountProg (Except AppError Unit) :=
  TeamRepository.updateTeamName team name

/-- `Service.InviteLink` -/
def inviteLink (appURL token : String) : String := appURL ++ "/invite/" ++ token

end TeamService

end Sofon
