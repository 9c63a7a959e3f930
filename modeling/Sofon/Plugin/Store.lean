import Sofon.Foundations.Program
import Sofon.Domain
import Sofon.Plugin.Config

/-!
# Where the plugins live

The `plugins` table, the copies of configurations that the alert service keeps in Redis, the
`alerts` table, and the calls on them.  A copy is gone when its time is up.

A call takes effect at the reading of the clock; then the clock moves on, by as much as the
environment says.  So a step between two calls is as long as one likes, and whether a copy is
still there when a call is made is a matter of the state before the call.
-/

namespace Sofon

open Interleaving

/-- `db.Plugin`: a row of `plugins`. -/
structure PluginRow (κ : Type) where
  id : UUID
  teamID : UUID
  pluginType : String
  enabled : Bool
  configEnc : κ
  createdAt : ℤ
  updatedAt : ℤ

/-- A value under a key that expires. -/
structure Copy (α : Type) where
  value : α
  expiresAt : Time

/-- What `sendAlertEmail` hands to Resend.  The subject and the bodies are made from the
event alone. -/
structure SendEmailRequest where
  sender : String
  recipients : List String
  event : AlertEvent

/-- What `handleZenduty` hands to Zenduty, which is made from the event alone. -/
structure EventRequest where
  event : AlertEvent

/-- A row of `alerts`. -/
structure AlertRow where
  incidentID : UUID
  alertEmail : String
  status : String
  sentAt : Option Time

/-- What the calls act on. -/
structure PluginStore (κ : Type) where
  plugins : List (PluginRow κ)
  resendCopies : UUID → Option (Copy ResendEmailConfig)
  zendutyCopies : UUID → Option (Copy ZendutyConfig)
  alerts : List AlertRow
  clock : Time
  nextID : UUID

/-- The calls. -/
inductive PluginCmd (κ : Type) where
  /-- `UpsertPlugin :one` -/
  | upsertPlugin (team : UUID) (pluginType : String) (enabled : Bool) (configEnc : κ)
  /-- `GetPlugin :one` -/
  | getPlugin (team : UUID) (pluginType : String)
  /-- `ListPlugins :many` -/
  | listPlugins (team : UUID)
  /-- `DeletePlugin :exec` -/
  | deletePlugin (team : UUID) (pluginType : String)
  /-- `json.Marshal` and `Encryptor.Encrypt` -/
  | encrypt (config : ConfigMap)
  /-- `Client.GetCachedResendConfig` -/
  | getCachedResendConfig (team : UUID)
  /-- `Client.SetCachedResendConfig`, with the lifetime in seconds -/
  | setCachedResendConfig (team : UUID) (cfg : ResendEmailConfig) (ttl : ℤ)
  /-- `Client.GetCachedZendutyConfig` -/
  | getCachedZendutyConfig (team : UUID)
  /-- `Client.SetCachedZendutyConfig`, with the lifetime in seconds -/
  | setCachedZendutyConfig (team : UUID) (cfg : ZendutyConfig) (ttl : ℤ)
  /-- `time.Now()` -/
  | timeNow
  /-- `SendEmail` of a client made with the key -/
  | sendEmail (apiKey : String) (req : SendEmailRequest)
  /-- `SendEvent` of a client made with the URL -/
  | sendEvent (integrationURL : String) (req : EventRequest)
  /-- the `INSERT` of `persistAlert` -/
  | insertAlert (row : AlertRow)

/-- What a call returns.  The getters of copies return nothing when Redis fails. -/
@[reducible] def PluginCmd.Resp {κ : Type} : PluginCmd κ → Type
  | upsertPlugin .. => Except DBError (PluginRow κ)
  | getPlugin .. => Except DBError (PluginRow κ)
  | listPlugins _ => Except DBError (List (PluginRow κ))
  | deletePlugin .. => Except DBError Unit
  | encrypt _ => Except Unit κ
  | getCachedResendConfig _ => Option ResendEmailConfig
  | setCachedResendConfig .. => Except Unit Unit
  | getCachedZendutyConfig _ => Option ZendutyConfig
  | setCachedZendutyConfig .. => Except Unit Unit
  | timeNow => Time
  | sendEmail .. => Except Unit String
  | sendEvent .. => Except Unit String
  | insertAlert _ => Except DBError Unit

/-- The code of the plugin module and of the alert service. -/
abbrev PluginProg (κ : Type) := Program (PluginCmd κ) PluginCmd.Resp

/-- Make one call. -/
def ask {κ : Type} (c : PluginCmd κ) : PluginProg κ c.Resp := Program.perform c

/-- What the environment decides about one call: whether it fails, how much time passes
after it in nanoseconds, the nonce, and the name that a provider gives to a message. -/
structure PluginEnv where
  fails : Bool
  elapsed : ℕ
  nonce : ℕ
  name : String

/-- Nothing fails and no time passes. -/
instance : Inhabited PluginEnv := ⟨⟨false, 0, 0, ""⟩⟩

/-- The value, while it has time left. -/
def Copy.live {α : Type} (now : Time) (c : Copy α) : Option α :=
  if now < c.expiresAt then some c.value else none

namespace PluginRow

variable {κ : Type}

/-- `WHERE team_id = $1 AND plugin_type = $2` -/
def isFor (team : UUID) (pluginType : String) (row : PluginRow κ) : Bool :=
  row.teamID = team && row.pluginType = pluginType

/-- `DO UPDATE SET enabled = …, config_enc = …, updated_at = now()` -/
def set (enabled : Bool) (configEnc : κ) (now : Time) (row : PluginRow κ) : PluginRow κ :=
  { row with enabled := enabled, configEnc := configEnc, updatedAt := now.micros }

@[simp] theorem isFor_set (team : UUID) (pluginType : String) (enabled : Bool) (configEnc : κ)
    (now : Time) (row : PluginRow κ) :
    (row.set enabled configEnc now).isFor team pluginType = row.isFor team pluginType := rfl

end PluginRow

namespace PluginStore

variable {κ : Type}

/-- The row of a plugin. -/
def plugin? (s : PluginStore κ) (team : UUID) (pluginType : String) : Option (PluginRow κ) :=
  s.plugins.find? (·.isFor team pluginType)

/-- The configuration for Resend that Redis has for the team. -/
def resendCopy (s : PluginStore κ) (team : UUID) : Option ResendEmailConfig :=
  (s.resendCopies team).bind (·.live s.clock)

/-- The configuration for Zenduty that Redis has for the team. -/
def zendutyCopy (s : PluginStore κ) (team : UUID) : Option ZendutyConfig :=
  (s.zendutyCopies team).bind (·.live s.clock)

/-- `INSERT … ON CONFLICT (team_id, plugin_type) DO UPDATE … RETURNING *` -/
def upsert (s : PluginStore κ) (team : UUID) (pluginType : String) (enabled : Bool)
    (configEnc : κ) : PluginRow κ × PluginStore κ :=
  match s.plugin? team pluginType with
  | some row =>
    (row.set enabled configEnc s.clock,
      { s with
        plugins := s.plugins.map fun row =>
          if row.isFor team pluginType then row.set enabled configEnc s.clock else row })
  | none =>
    let row : PluginRow κ :=
      ⟨s.nextID, team, pluginType, enabled, configEnc, s.clock.micros, s.clock.micros⟩
    (row, { s with plugins := s.plugins ++ [row], nextID := s.nextID + 1 })

/-- `DELETE FROM plugins WHERE team_id = $1 AND plugin_type = $2` -/
def remove (s : PluginStore κ) (team : UUID) (pluginType : String) : PluginStore κ :=
  { s with plugins := s.plugins.filter fun row => !row.isFor team pluginType }

/-- What a call that gets through does, before the clock moves on. -/
def exec (enc : Encryptor κ) (e : PluginEnv) (s : PluginStore κ) :
    (c : PluginCmd κ) → c.Resp × PluginStore κ
  | .upsertPlugin team pluginType enabled configEnc =>
    (.ok (s.upsert team pluginType enabled configEnc).1,
      (s.upsert team pluginType enabled configEnc).2)
  | .getPlugin team pluginType =>
    match s.plugin? team pluginType with
    | some row => (.ok row, s)
    | none => (.error .noRows, s)
  | .listPlugins team =>
    (.ok ((s.plugins.filter (·.teamID = team)).mergeSort fun x y => x.pluginType ≤ y.pluginType), s)
  | .deletePlugin team pluginType => (.ok (), s.remove team pluginType)
  | .encrypt config => (.ok (enc.encrypt e.nonce config), s)
  | .getCachedResendConfig team => (s.resendCopy team, s)
  | .setCachedResendConfig team cfg ttl =>
    (.ok (), { s with resendCopies := fun team' =>
      if team' = team then some ⟨cfg, s.clock.addSeconds ttl⟩ else s.resendCopies team' })
  | .getCachedZendutyConfig team => (s.zendutyCopy team, s)
  | .setCachedZendutyConfig team cfg ttl =>
    (.ok (), { s with zendutyCopies := fun team' =>
      if team' = team then some ⟨cfg, s.clock.addSeconds ttl⟩ else s.zendutyCopies team' })
  | .timeNow => (s.clock, s)
  | .sendEmail _ _ => (.ok e.name, s)
  | .sendEvent _ _ => (.ok e.name, s)
  | .insertAlert row => (.ok (), { s with alerts := s.alerts ++ [row] })

end PluginStore

/-- What a call returns that does not get through. -/
def PluginCmd.lost {κ : Type} (s : PluginStore κ) : (c : PluginCmd κ) → c.Resp
  | upsertPlugin .. => .error .unavailable
  | getPlugin .. => .error .unavailable
  | listPlugins _ => .error .unavailable
  | deletePlugin .. => .error .unavailable
  | encrypt _ => .error ()
  | getCachedResendConfig _ => none
  | setCachedResendConfig .. => .error ()
  | getCachedZendutyConfig _ => none
  | setCachedZendutyConfig .. => .error ()
  | timeNow => s.clock
  | sendEmail .. => .error ()
  | sendEvent .. => .error ()
  | insertAlert _ => .error .unavailable

namespace PluginStore

variable {κ : Type}

/-- Time passes. -/
def pass (s : PluginStore κ) (elapsed : ℕ) : PluginStore κ := { s with clock := s.clock + elapsed }

/-- One call that gets through. -/
def work (enc : Encryptor κ) (e : PluginEnv) (s : PluginStore κ) (c : PluginCmd κ) :
    c.Resp × PluginStore κ := ((s.exec enc e c).1, (s.exec enc e c).2.pass e.elapsed)

/-- One call. -/
def serve (enc : Encryptor κ) (e : PluginEnv) (s : PluginStore κ) (c : PluginCmd κ) :
    c.Resp × PluginStore κ :=
  if e.fails then (c.lost s, s.pass e.elapsed) else s.work enc e c

/-- The service in which every call gets through. -/
def Works (enc : Encryptor κ) : PluginStore κ → (c : PluginCmd κ) → c.Resp → PluginStore κ → Prop :=
  Program.Interpreter (work enc)

variable {enc : Encryptor κ} {s s' : PluginStore κ}

theorem works_iff {c : PluginCmd κ} {r : c.Resp} : Works enc s c r s' ↔
    ∃ e : PluginEnv, r = (s.exec enc e c).1 ∧ s' = (s.exec enc e c).2.pass e.elapsed := by
  constructor
  · rintro ⟨e, he⟩
    obtain ⟨hr, hs⟩ := Prod.mk.inj he
    exact ⟨e, hr.symm, hs.symm⟩
  · rintro ⟨e, rfl, rfl⟩
    exact ⟨e, rfl⟩

/-- A lookup changes nothing, and answers what it finds. -/
theorem exec_getPlugin (enc : Encryptor κ) (e : PluginEnv) (s : PluginStore κ) (team : UUID)
    (pluginType : String) : s.exec enc e (.getPlugin team pluginType) =
      ((s.plugin? team pluginType).elim (.error .noRows) .ok, s) := by
  simp only [exec]
  cases s.plugin? team pluginType <;> rfl

theorem plugin?_of_works {team : UUID} {pluginType : String} {row : PluginRow κ}
    (h : Works enc s (.getPlugin team pluginType) (.ok row) s') :
    s.plugin? team pluginType = some row := by
  obtain ⟨e, hr, -⟩ := works_iff.mp h
  rw [exec_getPlugin] at hr
  cases hrow : s.plugin? team pluginType with
  | none =>
    rw [hrow] at hr
    cases hr
  | some row' =>
    rw [hrow] at hr
    exact congrArg some (Except.ok.inj hr).symm

/-! ## Rows -/

theorem isFor_iff {team : UUID} {pluginType : String} {row : PluginRow κ} :
    row.isFor team pluginType ↔ row.teamID = team ∧ row.pluginType = pluginType := by
  simp [PluginRow.isFor]

theorem plugin?_upsert_self (s : PluginStore κ) (team : UUID) (pluginType : String)
    (enabled : Bool) (configEnc : κ) :
    ∃ row, (s.upsert team pluginType enabled configEnc).2.plugin? team pluginType = some row ∧
      row.enabled = enabled ∧ row.configEnc = configEnc := by
  unfold upsert
  split
  · rename_i row hrow
    refine ⟨row.set enabled configEnc s.clock, ?_, rfl, rfl⟩
    have hfor : row.isFor team pluginType := List.find?_some hrow
    unfold plugin? at hrow ⊢
    rw [List.find?_map, Function.comp_def]
    have hpred : (fun row : PluginRow κ => PluginRow.isFor team pluginType
        (if row.isFor team pluginType then row.set enabled configEnc s.clock else row)) =
          fun row => row.isFor team pluginType := by
      funext row
      split <;> simp
    rw [hpred, hrow, Option.map_some, if_pos hfor]
  · rename_i hnone
    refine ⟨⟨s.nextID, team, pluginType, enabled, configEnc, s.clock.micros, s.clock.micros⟩,
      ?_, rfl, rfl⟩
    unfold plugin? at hnone ⊢
    rw [List.find?_append, hnone, Option.none_or, List.find?_singleton, if_pos]
    exact isFor_iff.mpr ⟨rfl, rfl⟩

theorem plugin?_upsert_other (s : PluginStore κ) {team team' : UUID} {pluginType type' : String}
    (enabled : Bool) (configEnc : κ) (hne : ¬ (team' = team ∧ type' = pluginType)) :
    (s.upsert team pluginType enabled configEnc).2.plugin? team' type' =
      s.plugin? team' type' := by
  have hother : ∀ row : PluginRow κ, row.isFor team' type' → row.isFor team pluginType = false := by
    intro row hrow
    obtain ⟨rfl, rfl⟩ := isFor_iff.mp hrow
    exact Bool.eq_false_iff.mpr fun h => hne (isFor_iff.mp h)
  unfold upsert
  split
  · unfold plugin?
    induction s.plugins with
    | nil => rfl
    | cons row rows ih =>
      rw [List.map_cons, List.find?_cons, List.find?_cons]
      by_cases hrow : row.isFor team' type'
      · rw [if_neg (by rw [hother row hrow]; exact Bool.false_ne_true), hrow]
      · rw [Bool.not_eq_true] at hrow
        have hchanged : PluginRow.isFor team' type' (if row.isFor team pluginType then
            row.set enabled configEnc s.clock else row) = false := by
          split
          · exact hrow
          · exact hrow
        rw [hchanged, hrow, ih]
  · unfold plugin?
    rw [List.find?_append, List.find?_singleton]
    have hnew : PluginRow.isFor team' type' (⟨s.nextID, team, pluginType, enabled, configEnc,
        s.clock.micros, s.clock.micros⟩ : PluginRow κ) = false := by
      refine Bool.eq_false_iff.mpr fun h => ?_
      obtain ⟨hteam, htype⟩ := isFor_iff.mp h
      exact hne ⟨hteam.symm, htype.symm⟩
    rw [if_neg (by rw [hnew]; exact Bool.false_ne_true), Option.or_none]

theorem plugin?_remove_other (s : PluginStore κ) {team team' : UUID} {pluginType type' : String}
    (hne : ¬ (team' = team ∧ type' = pluginType)) :
    (s.remove team pluginType).plugin? team' type' = s.plugin? team' type' := by
  unfold plugin? remove
  rw [List.find?_filter]
  congr 1
  funext row
  by_cases hrow : row.isFor team' type'
  · obtain ⟨rfl, rfl⟩ := isFor_iff.mp hrow
    have hkept : row.isFor team pluginType = false :=
      Bool.eq_false_iff.mpr fun h => hne (isFor_iff.mp h)
    rw [hkept, hrow]
    rfl
  · rw [Bool.not_eq_true] at hrow
    simp [hrow]

end PluginStore

end Sofon
