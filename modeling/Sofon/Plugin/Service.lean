import Sofon.Plugin.Store

/-!
# The plugin service and the alert service

`plugin.Service` with its repository, which saves, reads and removes configurations, and
`alert.AlertService`, which sends an alert through the plugins of the team it concerns.  The
alert service asks Redis for a copy of the configuration first; it reads the table when
there is none, and leaves a copy for five minutes.

`Client.DelCachedResendConfig` and `Client.DelCachedZendutyConfig` are not modelled, as
nothing calls them.  The log lines are left out.
-/

namespace Sofon

open Interleaving Program

/-- `plugin.Plugin` -/
structure Plugin where
  id : UUID
  teamID : UUID
  type : String
  enabled : Bool
  createdAt : ℤ
  updatedAt : ℤ

variable {κ : Type}

namespace PluginRepository

def rowToPlugin (row : PluginRow κ) : Plugin :=
  ⟨row.id, row.teamID, row.pluginType, row.enabled, row.createdAt, row.updatedAt⟩

/-- `Repository.decrypt` -/
def decrypt (enc : Encryptor κ) (configEnc : κ) (op : String) : Except AppError ConfigMap :=
  match enc.decrypt configEnc with
  | .ok m => .ok m
  | .error .decrypt => .error ⟨.internal, op, "failed to decrypt config"⟩
  | .error .decode => .error ⟨.internal, op, "failed to decode config"⟩

/-- `Repository.Upsert` -/
def upsert (team : UUID) (pluginType : String) (enabled : Bool) (config : ConfigMap) :
    PluginProg κ (Except AppError Plugin) := do
  let op := "repo.plugin.upsert"
  match ← ask (.encrypt config) with
  | .error _ => pure (.error ⟨.internal, op, "failed to encrypt config"⟩)
  | .ok configEnc =>
    match ← ask (.upsertPlugin team pluginType enabled configEnc) with
    | .ok row => pure (.ok (rowToPlugin row))
    | .error err => pure (.error (wrapRepoError op err))

/-- `Repository.Get` -/
def get (enc : Encryptor κ) (team : UUID) (pluginType : String) :
    PluginProg κ (Except AppError (Plugin × ConfigMap)) := do
  let op := "repo.plugin.get"
  match ← ask (.getPlugin team pluginType) with
  | .ok row =>
    match decrypt enc row.configEnc op with
    | .ok configMap => pure (.ok (rowToPlugin row, configMap))
    | .error err => pure (.error err)
  | .error .noRows => pure (.error ⟨.notFound, op, "plugin not configured"⟩)
  | .error err => pure (.error (wrapRepoError op err))

/-- `Repository.GetResendConfig` and `Repository.GetZendutyConfig`: the configuration of a
plugin that is there and enabled, as `ofMap` reads it. -/
def getConfig {α : Type} (enc : Encryptor κ) (op pluginType : String) (ofMap : ConfigMap → α)
    (team : UUID) : PluginProg κ (Except AppError (Option α)) := do
  match ← ask (.getPlugin team pluginType) with
  | .ok row =>
    if row.enabled then
      match decrypt enc row.configEnc op with
      | .ok configMap => pure (.ok (some (ofMap configMap)))
      | .error err => pure (.error err)
    else pure (.ok none)
  | .error .noRows => pure (.ok none)
  | .error err => pure (.error (wrapRepoError op err))

/-- `Repository.GetResendConfig` -/
def getResendConfig (enc : Encryptor κ) :
    UUID → PluginProg κ (Except AppError (Option ResendEmailConfig)) :=
  getConfig enc "repo.plugin.get_resend_config" pluginTypeResend ResendEmailConfig.ofMap

/-- `Repository.GetZendutyConfig` -/
def getZendutyConfig (enc : Encryptor κ) :
    UUID → PluginProg κ (Except AppError (Option ZendutyConfig)) :=
  getConfig enc "repo.plugin.get_zenduty_config" pluginTypeZenduty ZendutyConfig.ofMap

/-- `Repository.List` -/
def list (team : UUID) : PluginProg κ (Except AppError (List Plugin)) := do
  match ← ask (.listPlugins team) with
  | .ok rows => pure (.ok (rows.map rowToPlugin))
  | .error err => pure (.error (wrapRepoError "repo.plugin.list" err))

/-- `Repository.Delete` -/
def delete (team : UUID) (pluginType : String) : PluginProg κ (Except AppError Unit) := do
  match ← ask (.deletePlugin team pluginType) with
  | .ok _ => pure (.ok ())
  | .error err => pure (.error (wrapRepoError "repo.plugin.delete" err))

end PluginRepository

namespace PluginService

/-- `Service.UpsertPlugin` -/
def upsertPlugin (isAddress : String → Bool) (team : UUID) (pluginType : String) (enabled : Bool)
    (config : ConfigMap) : PluginProg κ (Except AppError Plugin) :=
  match validateConfig isAddress pluginType config with
  | .error err => pure (.error err)
  | .ok _ => PluginRepository.upsert team pluginType enabled config

/-- `Service.GetPlugin` -/
def getPlugin (enc : Encryptor κ) (team : UUID) (pluginType : String) :
    PluginProg κ (Except AppError (Plugin × ConfigMap)) :=
  PluginRepository.get enc team pluginType

/-- `Service.ListPlugins` -/
def listPlugins (team : UUID) : PluginProg κ (Except AppError (List Plugin)) :=
  PluginRepository.list team

/-- `Service.DeletePlugin` -/
def deletePlugin (team : UUID) (pluginType : String) : PluginProg κ (Except AppError Unit) :=
  PluginRepository.delete team pluginType

end PluginService

/-! ## Alerts -/

namespace AlertService

def channelEnabled (channels : List String) (plugin : String) : Bool :=
  channels.isEmpty || channels.contains plugin

/-- `persistAlert`, whose error every caller drops -/
def persistAlert (incidentID : UUID) (alertEmail status : String) (sentAt : Option Time) :
    PluginProg κ Unit := do
  let _ ← ask (.insertAlert ⟨incidentID, alertEmail, status, sentAt⟩)
  pure ()

/-- The second half of `handleResend`, with the configuration at hand. -/
def sendResend (cfg : ResendEmailConfig) (event : AlertEvent) : PluginProg κ Unit := do
  if cfg.addressees = [] then persistAlert event.incidentID "" "failed" none
  else
    let sentAt ← ask .timeNow
    match ← ask (.sendEmail cfg.apiKey ⟨cfg.senderEmail, cfg.addressees, event⟩) with
    | .ok _ =>
      persistAlert event.incidentID (",".intercalate cfg.addressees) "sent" (some sentAt)
    | .error _ => persistAlert event.incidentID (",".intercalate cfg.addressees) "failed" none

def handleResend (enc : Encryptor κ) (event : AlertEvent) : PluginProg κ Unit := do
  match ← ask (.getCachedResendConfig event.teamID) with
  | some cfg => sendResend cfg event
  | none =>
    match ← PluginRepository.getResendConfig enc event.teamID with
    | .error _ => persistAlert event.incidentID "" "failed" none
    | .ok none => persistAlert event.incidentID "" "skipped_no_plugin" none
    | .ok (some cfg) =>
      let _ ← ask (.setCachedResendConfig event.teamID cfg 300)
      sendResend cfg event

/-- The second half of `handleZenduty`. -/
def sendZenduty (cfg : ZendutyConfig) (event : AlertEvent) : PluginProg κ Unit := do
  let _ ← ask (.sendEvent cfg.integrationURL ⟨event⟩)
  pure ()

def handleZenduty (enc : Encryptor κ) (event : AlertEvent) : PluginProg κ Unit := do
  match ← ask (.getCachedZendutyConfig event.teamID) with
  | some cfg => sendZenduty cfg event
  | none =>
    match ← PluginRepository.getZendutyConfig enc event.teamID with
    | .error _ => pure ()
    | .ok none => pure ()
    | .ok (some cfg) =>
      let _ ← ask (.setCachedZendutyConfig event.teamID cfg 300)
      sendZenduty cfg event

def processAlert (enc : Encryptor κ) (event : AlertEvent) : PluginProg κ Unit := do
  if channelEnabled event.notificationChannels "resend" then handleResend enc event
  if channelEnabled event.notificationChannels "zenduty" then handleZenduty enc event

end AlertService

end Sofon
