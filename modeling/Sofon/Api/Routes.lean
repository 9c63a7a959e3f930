import Sofon.Api.Handlers

/-!
# The routes

The middleware, and which middleware stands before which handler: `app.NewRouter` with the
`Routes` of the modules.  What the router does with a path is taken for granted; a request
arrives with its endpoint, the parameters of its path and query, its body and its
`Authorization` header.

Everything under `/{teamID}` passes `AuthMiddleware`, `TeamAccessMiddleware` and, where the
route says so, `RequireTeamRole`.
-/

namespace Sofon

open Interleaving Program

variable {κ : Type}

/-- The routes under `/teams/{teamID}`. -/
inductive TeamEndpoint where
  | getTeam
  | updateTeam (body : Option TeamNameRequest)
  | listMembers
  | setMemberActive (memberID : String) (body : Option Bool)
  | createInvitation (body : Option InviteMemberRequest)
  | listInvitations
  | revokeInvitation (invitationID : String)
  | createMonitor (body : Option CreateMonitorRequest)
  | getAllMonitors (limit : Option ℤ) (cursor : String)
  | getMonitor (monitorID : String)
  | updateMonitorStatus (monitorID : String) (body : Option (Option Bool))
  | deleteMonitor (monitorID : String)
  | listIncidents (limit : Option ℤ) (filters : ListFilters) (cursor : String)
  | getIncident (incidentID : String)
  | listPlugins
  | getPlugin (pluginType : String)
  | upsertPlugin (pluginType : String) (body : Option UpsertPluginRequest)
  | deletePlugin (pluginType : String)

/-- The routes. -/
inductive Endpoint where
  | setupStatus
  | register (body : Option RegisterRequest)
  | logIn (body : Option LogInRequest)
  | getProfile
  | updateProfile (body : Option UpdateProfileRequest)
  | changePassword (body : Option ChangePasswordRequest)
  | getInvitationByToken (token : String)
  | acceptInvitation (body : Option AcceptInvitationRequest)
  | listMyTeams
  | createTeam (body : Option TeamNameRequest)
  | team (teamID : String) (ep : TeamEndpoint)

/-- A request. -/
structure ApiRequest where
  authorization : String
  endpoint : Endpoint

/-! ## Middleware -/

/-- `http.StatusUnauthorized` with `apperror.Unauthorised` -/
def unauthorized (message : String) : ErrorBody := ⟨401, .unauthorised, message⟩

/-- `http.StatusForbidden` with `apperror.Forbidden` -/
def forbidden (message : String) : ErrorBody := ⟨403, .forbidden, message⟩

/-- `AuthMiddleware.extractBearerToken` -/
def extractBearerToken (authHeader : String) : Except String String :=
  if authHeader = "" then .error "missing Authorization header"
  else
    match Text.split ' ' authHeader.toList with
    | [scheme, token] =>
      if String.ofList scheme = "Bearer" then .ok (String.ofList token)
      else .error "invalid Authorization header"
    | _ => .error "invalid Authorization header"

/-- `AuthMiddleware.Handle`: the rest of the chain runs for a user who is still active. -/
def authenticate (x : Platform κ) (authorization : String) (next : UUID → ApiProg κ ApiResponse) :
    ApiProg κ ApiResponse :=
  match extractBearerToken authorization with
  | .error message => pure (.error (unauthorized message))
  | .ok token => do
    match ← (TokenService.validateAccessToken x.jwt token).embed ofAccount with
    | none => pure (.error (unauthorized "invalid or expired token"))
    | some claims =>
      if claims.userID = "" || claims.email = "" then
        pure (.error (unauthorized "user is unauthorised"))
      else
        match x.uuids.parse claims.userID with
        | none => pure (.error (unauthorized "user is unauthorised"))
        | some user =>
          match ← (UserService.isUserActive user).embed ofAccount with
          | .ok true => next user
          | _ => pure (.error (unauthorized "your account has been deactivated"))

/-- `TeamAccessMiddleware.Handle`, for the team in the path -/
def withTeamAccess (uuids : UUIDText) (user : UUID) (teamID : String)
    (next : TeamMemberCtx → ApiProg κ ApiResponse) : ApiProg κ ApiResponse :=
  match uuids.parse teamID with
  | none => pure (.error (badRequest "invalid team id"))
  | some team => do
    match ← (TeamService.getMembership user team).embed ofMember with
    | .error _ => pure (.error (forbidden "you are not a member of this team"))
    | .ok member =>
      if member.isActive then next member
      else pure (.error (forbidden "your membership in this team is inactive"))

/-- `RequireTeamRole`, for the rest of the chain -/
def withTeamRole (allowed : List String) (next : TeamMemberCtx → ApiProg κ ApiResponse)
    (member : TeamMemberCtx) : ApiProg κ ApiResponse :=
  if member.role ∈ allowed then next member
  else pure (.error (forbidden "insufficient permissions"))

/-- The middleware of the directory, seen from the API: the same chain over fewer commands. -/
theorem embed_teamAccess (uuids : UUIDText) (user team : UUID)
    (next : TeamMemberCtx → DirectoryProg ApiResponse) :
    (teamAccess user team next).embed (ofMember (κ := κ)) =
      withTeamAccess uuids user (uuids.string team) fun m => (next m).embed ofMember := by
  unfold teamAccess withTeamAccess
  rw [uuids.parse_string, embed_bind]
  congr 1
  funext found
  cases found with
  | error err => rfl
  | ok member =>
    show Program.embed _ (if member.isActive then _ else _) = if member.isActive then _ else _
    split <;> rfl

/-! ## The chains -/

/-- The roles that manage a team. -/
def managerRoles : List String := [roleOwner, roleAdmin]

/-- Does the route require a manager? -/
def TeamEndpoint.managed : TeamEndpoint → Bool
  | updateTeam _ => true
  | setMemberActive .. => true
  | createInvitation _ => true
  | listInvitations => true
  | revokeInvitation _ => true
  | _ => false

/-- The handler of a route of a team. -/
def TeamEndpoint.handler (x : Platform κ) (user : UUID) (m : TeamMemberCtx) :
    TeamEndpoint → ApiProg κ ApiResponse
  | getTeam => (TeamHandler.getTeam m).embed ofAccount
  | updateTeam body => (TeamHandler.updateTeam body m).embed ofAccount
  | listMembers => (TeamHandler.listMembers m).embed ofMember
  | setMemberActive memberID body => (TeamHandler.patchMember x.uuids memberID body m).embed ofMember
  | createInvitation body => (TeamHandler.createInvitation x body m).embed ofMember
  | listInvitations => (TeamHandler.listInvitations x.appURL m).embed ofMember
  | revokeInvitation invitationID =>
    (TeamHandler.revokeInvitation x.uuids invitationID m).embed ofMember
  | createMonitor body => (MonitorHandler.createMonitor x.isURL user body m).embed ofMonitor
  | getAllMonitors limit cursor =>
    (MonitorHandler.listMonitors x.uuids limit cursor m).embed ofListing
  | getMonitor monitorID => (MonitorHandler.getMonitor x.uuids monitorID m).embed ofMonitor
  | updateMonitorStatus monitorID body =>
    (MonitorHandler.updateMonitorStatus x.uuids monitorID body m).embed ofMonitor
  | deleteMonitor monitorID => (MonitorHandler.deleteMonitor x.uuids monitorID m).embed ofMonitor
  | listIncidents limit filters cursor =>
    (reply "incidents retrieved" .incidents
      (IncidentHandler.listIncidents x.uuids m.teamID limit filters cursor)).embed ofListing
  | getIncident incidentID => (IncidentHandler.getIncident x.uuids incidentID m).embed ofListing
  | listPlugins => (PluginHandler.listPlugins m).embed ofPlugin
  | getPlugin pluginType =>
    (reply "plugin retrieved" .plugin
      (PluginHandler.getPlugin x.enc m.teamID pluginType)).embed ofPlugin
  | upsertPlugin pluginType body =>
    (PluginHandler.putPlugin x.isAddress pluginType body m).embed ofPlugin
  | deletePlugin pluginType => (PluginHandler.deletePlugin pluginType m).embed ofPlugin

/-- **What a request runs.** -/
def serveHTTP (x : Platform κ) (req : ApiRequest) : ApiProg κ ApiResponse :=
  match req.endpoint with
  | .setupStatus => UserHandler.setupStatus.embed ofMember
  | .register body => (UserHandler.register x body).embed ofMember
  | .logIn body => (UserHandler.logIn x body).embed ofAccount
  | .getProfile => authenticate x req.authorization fun user =>
    (UserHandler.getProfile user).embed ofAccount
  | .updateProfile body => authenticate x req.authorization fun user =>
    (UserHandler.updateProfile user body).embed ofAccount
  | .changePassword body => authenticate x req.authorization fun user =>
    (UserHandler.changePassword x.argon user body).embed ofAccount
  | .getInvitationByToken token => (TeamHandler.getInvitationByToken token).embed ofAccount
  | .acceptInvitation body => (TeamHandler.acceptInvitation body).embed ofMember
  | .listMyTeams => authenticate x req.authorization fun user =>
    (TeamHandler.listMyTeams user).embed ofAccount
  | .createTeam body => authenticate x req.authorization fun user =>
    (TeamHandler.createTeam user body).embed ofAccount
  | .team teamID ep => authenticate x req.authorization fun user =>
    withTeamAccess x.uuids user teamID
      (if ep.managed then withTeamRole managerRoles fun m => ep.handler x user m
      else fun m => ep.handler x user m)

end Sofon
