import Sofon.AppError
import Sofon.Foundations.Json
import Sofon.Store.Directory

/-!
# The team service

`team.Service` on members and invitations with its repository, and what a request passes
before it reaches the service: `TeamAccessMiddleware`, which reads the membership of the
caller, `RequireTeamRole`, and the handler.

A request arrives with its ids parsed and its caller authenticated.  It is answered with a
value or with an error body.
-/

namespace Sofon

open Interleaving Program

/-- `middleware.TeamMemberCtx` -/
structure TeamMemberCtx where
  memberID : UUID
  teamID : UUID
  userID : UUID
  role : String
  isActive : Bool

/-- `team.Invitation` -/
structure Invitation where
  id : UUID
  teamID : UUID
  email : String
  role : String
  token : String
  expiresAt : ℤ
  acceptedAt : Option ℤ
  invitedBy : UUID
  createdAt : ℤ

/-- `team.CreateInvitationCmd` -/
structure CreateInvitationCmd where
  teamID : UUID
  email : String
  role : String
  invitedBy : UUID

/-- `team.AcceptInvitationCmd` -/
structure AcceptInvitationCmd where
  token : String
  name : String
  password : String

/-- `team.RoleOwner` -/
def roleOwner : String := "owner"

/-- `team.RoleAdmin` -/
def roleAdmin : String := "admin"

namespace TeamRepository

/-- The invitation that the repository makes of a row. -/
def ofRow (row : InvitationRow) : Invitation :=
  ⟨row.id, row.teamID, row.email, row.role, row.token, row.expiresAt, row.acceptedAt,
    row.invitedBy, row.createdAt⟩

/-- `repository.GetMembership` -/
def getMembership (user team : UUID) : DirectoryProg (Except AppError TeamMemberCtx) := do
  match ← query (.getTeamMembership team user) with
  | .ok row => pure (.ok ⟨row.id, row.teamID, row.userID, row.role, row.isActive⟩)
  | .error err => pure (.error (wrapRepoError "repo.team.get_membership" err))

/-- `repository.ListMembers` -/
def listMembers (team : UUID) : DirectoryProg (Except AppError (List TeamMember)) := do
  match ← query (.listTeamMembers team) with
  | .ok rows => pure (.ok rows)
  | .error err => pure (.error (wrapRepoError "repo.team.list_members" err))

/-- `repository.SetMemberActive` -/
def setMemberActive (team user : UUID) (active : Bool) : DirectoryProg (Except AppError Unit) := do
  match ← query (.setTeamMemberActive team user active) with
  | .ok _ => pure (.ok ())
  | .error err => pure (.error (wrapRepoError "repo.team.set_member_active" err))

/-- `repository.AddMember` -/
def addMember (team user : UUID) (role : String) : DirectoryProg (Except AppError Unit) := do
  match ← query (.addTeamMember team user role) with
  | .ok _ => pure (.ok ())
  | .error err => pure (.error (wrapRepoError "repo.team.add_member" err))

/-- `repository.IsMember` -/
def isMember (team user : UUID) : DirectoryProg (Except AppError Bool) := do
  match ← query (.userIsMember team user) with
  | .ok is => pure (.ok is)
  | .error err => pure (.error (wrapRepoError "repo.team.is_member" err))

/-- `repository.GetUserByEmail`: no such user is no error. -/
def getUserByEmail (email : String) : DirectoryProg (Except AppError (UUID × Bool)) := do
  match ← query (.getUserByEmail email) with
  | .ok row => pure (.ok (row.id, true))
  | .error .noRows => pure (.ok (UUID.nil, false))
  | .error err => pure (.error (wrapRepoError "repo.team.get_user_by_email" err))

/-- `repository.CreateUser` -/
def createUser (email name passwordHash role : String) : DirectoryProg (Except AppError UUID) := do
  match ← query (.createUser name email passwordHash role) with
  | .ok id => pure (.ok id)
  | .error err => pure (.error (wrapRepoError "repo.team.create_user_from_invite" err))

/-- `repository.CreateInvitation` -/
def createInvitation (cmd : CreateInvitationCmd) (token : String) (expiresAt : Time) :
    DirectoryProg (Except AppError Invitation) := do
  match ← query (.createInvitation cmd.teamID cmd.email cmd.role token expiresAt cmd.invitedBy) with
  | .ok row => pure (.ok (ofRow row))
  | .error err => pure (.error (wrapRepoError "repo.team.create_invitation" err))

/-- `repository.GetInvitationByToken` -/
def getInvitationByToken (token : String) : DirectoryProg (Except AppError Invitation) := do
  match ← query (.getInvitationByToken token) with
  | .ok row => pure (.ok (ofRow row))
  | .error err => pure (.error (wrapRepoError "repo.team.get_invitation_by_token" err))

/-- `repository.AcceptInvitation` -/
def acceptInvitation (token : String) : DirectoryProg (Except AppError Unit) := do
  match ← query (.acceptInvitation token) with
  | .ok _ => pure (.ok ())
  | .error err => pure (.error (wrapRepoError "repo.team.accept_invitation" err))

/-- `repository.ListInvitations` -/
def listInvitations (team : UUID) : DirectoryProg (Except AppError (List Invitation)) := do
  match ← query (.listInvitations team) with
  | .ok rows => pure (.ok (rows.map ofRow))
  | .error err => pure (.error (wrapRepoError "repo.team.list_invitations" err))

/-- `repository.DeleteInvitation` -/
def deleteInvitation (team inv : UUID) : DirectoryProg (Except AppError Unit) := do
  match ← query (.deleteInvitation inv team) with
  | .ok _ => pure (.ok ())
  | .error err => pure (.error (wrapRepoError "repo.team.delete_invitation" err))

end TeamRepository

namespace TeamService

/-- `Service.GetMembership` -/
def getMembership (user team : UUID) : DirectoryProg (Except AppError TeamMemberCtx) :=
  TeamRepository.getMembership user team

/-- `Service.ListMembers` -/
def listMembers (team : UUID) : DirectoryProg (Except AppError (List TeamMember)) :=
  TeamRepository.listMembers team

/-- `Service.SetMemberActive` -/
def setMemberActive (team target caller : UUID) (active : Bool) :
    DirectoryProg (Except AppError Unit) :=
  if target = caller then
    pure (.error ⟨.forbidden, "service.team.set_member_active",
      "you cannot change your own status"⟩)
  else TeamRepository.setMemberActive team target active

/-- `hex.EncodeToString` -/
def encodeToString (bytes : List UInt8) : String :=
  String.ofList (bytes.flatMap fun b => [Json.hex (b.toNat / 16), Json.hex (b.toNat % 16)])

def generateToken : DirectoryProg (Except Unit String) := do
  match ← Program.perform (DirectoryCmd.randRead 32) with
  | .error err => pure (.error err)
  | .ok b => pure (.ok (encodeToString b))

/-- `Service.CreateInvitation` -/
def createInvitation (cmd : CreateInvitationCmd) : DirectoryProg (Except AppError Invitation) := do
  match ← generateToken with
  | .error _ =>
    pure (.error ⟨.internal, "service.team.create_invitation",
      "failed to generate invitation token"⟩)
  | .ok token =>
    let now ← Program.perform DirectoryCmd.timeNow
    let expiresAt := Time.addSeconds now (48 * 60 * 60)
    TeamRepository.createInvitation cmd token expiresAt

/-- `Service.GetInvitationByToken` -/
def getInvitationByToken (token : String) : DirectoryProg (Except AppError Invitation) := do
  let op := "service.team.get_invitation_by_token"
  match ← TeamRepository.getInvitationByToken token with
  | .error err => pure (.error err)
  | .ok inv =>
    if inv.acceptedAt.isSome then
      pure (.error ⟨.conflict, op, "invitation has already been accepted"⟩)
    else do
      let now ← Program.perform DirectoryCmd.timeNow
      -- the column holds microseconds
      if Time.ofMicros inv.expiresAt < now then
        pure (.error ⟨.forbidden, op, "invitation has expired"⟩)
      else pure (.ok inv)

/-- The rest of `Service.AcceptInvitation`, once the user is known: a failed `INSERT` is no
error if the user turns out to be a member. -/
def joinTeam (cmd : AcceptInvitationCmd) (inv : Invitation) (userID : UUID) :
    DirectoryProg (Except AppError Unit) := do
  match ← TeamRepository.addMember inv.teamID userID inv.role with
  | .ok _ => TeamRepository.acceptInvitation cmd.token
  | .error err =>
    match ← TeamRepository.isMember inv.teamID userID with
    | .ok true => TeamRepository.acceptInvitation cmd.token
    | .ok false => pure (.error err)
    | .error _ => pure (.error err)

/-- `Service.AcceptInvitation` -/
def acceptInvitation (cmd : AcceptInvitationCmd) : DirectoryProg (Except AppError Unit) := do
  match ← getInvitationByToken cmd.token with
  | .error err => pure (.error err)
  | .ok inv =>
    match ← TeamRepository.getUserByEmail inv.email with
    | .error err => pure (.error err)
    | .ok (existingUserID, true) => joinTeam cmd inv existingUserID
    | .ok (_, false) =>
      match ← hashPassword cmd.password with
      | .error _ =>
        pure (.error ⟨.internal, "service.team.accept_invitation", "internal error"⟩)
      | .ok hashedPw =>
        match ← TeamRepository.createUser inv.email cmd.name hashedPw inv.role with
        | .error err => pure (.error err)
        | .ok userID => joinTeam cmd inv userID

/-- `Service.ListInvitations` -/
def listInvitations (team : UUID) : DirectoryProg (Except AppError (List Invitation)) :=
  TeamRepository.listInvitations team

/-- `Service.RevokeInvitation` -/
def revokeInvitation (team inv : UUID) : DirectoryProg (Except AppError Unit) :=
  TeamRepository.deleteInvitation team inv

end TeamService

/-! ## On the way to the service -/

/-- `TeamAccessMiddleware.Handle`: the rest of the chain runs with the membership of an
active member. -/
def teamAccess {α : Type} (user team : UUID)
    (next : TeamMemberCtx → DirectoryProg (Except ErrorBody α)) :
    DirectoryProg (Except ErrorBody α) := do
  match ← TeamService.getMembership user team with
  | .error _ => pure (.error ⟨403, .forbidden, "you are not a member of this team"⟩)
  | .ok member =>
    if member.isActive then next member
    else pure (.error ⟨403, .forbidden, "your membership in this team is inactive"⟩)

def requireTeamRole {α : Type} (allowed : List String)
    (next : TeamMemberCtx → DirectoryProg (Except ErrorBody α)) (member : TeamMemberCtx) :
    DirectoryProg (Except ErrorBody α) :=
  if member.role ∈ allowed then next member
  else pure (.error ⟨403, .forbidden, "insufficient permissions"⟩)

namespace TeamHandler

/-- `Handler.SetMemberActive`, after the request has been parsed -/
def setMemberActive (target : UUID) (active : Bool) (m : TeamMemberCtx) :
    DirectoryProg (Except ErrorBody Unit) := do
  match ← TeamService.setMemberActive m.teamID target m.userID active with
  | .ok _ => pure (.ok ())
  | .error err => pure (.error err.body)

end TeamHandler

end Sofon
