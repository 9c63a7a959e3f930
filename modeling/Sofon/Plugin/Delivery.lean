import Sofon.Foundations.Run
import Sofon.Plugin.Service

/-!
# Deliveries and the configuration stored

The alert service sends with a copy of a configuration that may be five minutes old, and
whoever saves or removes the configuration leaves the copy alone.  So a delivery may use what
is no longer stored.

It never does as long as no copy is left behind: a configuration is
removed while there is no copy of it, and saved while there is none or so that the copy is
right again (`Careful`).  What carries the proof is that every copy that is still there agrees
with the table (`Fresh`).

* *Calls.*  A copy runs out as time passes (`Agree.later`), and a new one is made of what is
  stored (`Agree.put`).  A save or a removal changes what is stored for one team, and a careful
  one to what its copy says, if it has one (`Agree.upsert`, `Agree.delete`).  So a call keeps the
  copies right (`fresh_step`).
* *Programs.*  The getters find what is stored, in the copy or in the table
  (`wp_getConfig`), and what they find is still stored when the email goes out, as the program
  makes no call in between that changes a row (`delivers_sendResend`).  So a delivery uses what is
  stored and makes copies of nothing else (`delivers_processAlert`).
* *Runs.*  Calls one after another keep the copies right (`fresh_call`), so whatever comes next
  delivers with what is stored at that moment (`uses_of_careful`).

Time may pass after every command, so a copy may also run out halfway.
-/

namespace Sofon

open Interleaving Program Transition

variable {κ : Type}

namespace PluginStore

/-- The configuration stored for a team, if the plugin is there and enabled. -/
def config? {α : Type} (enc : Encryptor κ) (pluginType : String) (ofMap : ConfigMap → α)
    (s : PluginStore κ) (team : UUID) : Option α :=
  match s.plugin? team pluginType with
  | some row => if row.enabled then (enc.decrypt row.configEnc).toOption.map ofMap else none
  | none => none

/-- The configuration of Resend stored for a team. -/
def resendConfig (enc : Encryptor κ) (s : PluginStore κ) : UUID → Option ResendEmailConfig :=
  s.config? enc pluginTypeResend ResendEmailConfig.ofMap

/-- The configuration of Zenduty stored for a team. -/
def zendutyConfig (enc : Encryptor κ) (s : PluginStore κ) : UUID → Option ZendutyConfig :=
  s.config? enc pluginTypeZenduty ZendutyConfig.ofMap

/-- **A delivery uses what is stored**: the plugin of the team is there and enabled, and the
message goes out with its key, its sender and its recipients, or to its URL. -/
def Uses (enc : Encryptor κ) (s : PluginStore κ) : PluginCmd κ → Prop
  | .sendEmail apiKey req => ∃ cfg, s.resendConfig enc req.event.teamID = some cfg ∧
      apiKey = cfg.apiKey ∧ req.sender = cfg.senderEmail ∧ req.recipients = cfg.addressees
  | .sendEvent integrationURL req => ∃ cfg,
      s.zendutyConfig enc req.event.teamID = some cfg ∧ integrationURL = cfg.integrationURL
  | _ => True

/-- **A save or a removal that leaves no copy behind**: there is no copy, or what is saved is
enabled and is what the copy says. -/
def Careful (enc : Encryptor κ) (s : PluginStore κ) : PluginCmd κ → Prop
  | .upsertPlugin team pluginType enabled configEnc =>
    (pluginType = pluginTypeResend → ∀ cfg ∈ s.resendCopy team, enabled ∧
      (enc.decrypt configEnc).toOption.map ResendEmailConfig.ofMap = some cfg) ∧
    (pluginType = pluginTypeZenduty → ∀ cfg ∈ s.zendutyCopy team, enabled ∧
      (enc.decrypt configEnc).toOption.map ZendutyConfig.ofMap = some cfg)
  | .deletePlugin team pluginType =>
    (pluginType = pluginTypeResend → s.resendCopy team = none) ∧
    (pluginType = pluginTypeZenduty → s.zendutyCopy team = none)
  | _ => True

/-- The copies that are still there at `now` agree with what is stored. -/
def Agree {α : Type} (copies : UUID → Option (Copy α)) (now : Time) (stored : UUID → Option α) :
    Prop := ∀ team, ∀ cfg ∈ (copies team).bind (·.live now), stored team = some cfg

/-- Every copy agrees with the table. -/
structure Fresh (enc : Encryptor κ) (s : PluginStore κ) : Prop where
  resend : Agree s.resendCopies s.clock (s.resendConfig enc)
  zenduty : Agree s.zendutyCopies s.clock (s.zendutyConfig enc)

variable {enc : Encryptor κ} {s s' : PluginStore κ} {α : Type} {ofMap : ConfigMap → α}

/-! ## What the calls do to the stored configurations -/

/-- What is stored for a plugin depends on its row alone. -/
theorem config?_congr {pluginType : String} {team : UUID}
    (h : s'.plugin? team pluginType = s.plugin? team pluginType) :
    s'.config? enc pluginType ofMap team = s.config? enc pluginType ofMap team := by
  unfold config?
  rw [h]

theorem config?_upsert_self (s : PluginStore κ) (team : UUID) (pluginType : String)
    (enabled : Bool) (configEnc : κ) :
    (s.upsert team pluginType enabled configEnc).2.config? enc pluginType ofMap team =
      if enabled then (enc.decrypt configEnc).toOption.map ofMap else none := by
  obtain ⟨row, hrow, rfl, rfl⟩ := plugin?_upsert_self s team pluginType enabled configEnc
  unfold config?
  rw [hrow]

theorem config?_remove_other {team team' : UUID} {pluginType type' : String}
    (hne : ¬ (team' = team ∧ type' = pluginType)) :
    (s.remove team pluginType).config? enc type' ofMap team' = s.config? enc type' ofMap team' :=
  config?_congr (plugin?_remove_other s hne)

/-! ## Copies -/

theorem Agree.later {copies : UUID → Option (Copy α)} {now now' : Time} {stored : UUID → Option α}
    (h : Agree copies now stored) (hle : now ≤ now') : Agree copies now' stored := by
  intro team cfg hcfg
  obtain ⟨c, hc, hlive⟩ := Option.bind_eq_some_iff.mp hcfg
  refine h team cfg (Option.bind_eq_some_iff.mpr ⟨c, hc, ?_⟩)
  unfold Copy.live at hlive ⊢
  split at hlive
  · rename_i hlater
    rw [if_pos (Int.lt_of_le_of_lt hle hlater)]
    exact hlive
  · cases hlive

theorem Agree.put {copies : UUID → Option (Copy α)} {now expiresAt : Time}
    {stored : UUID → Option α} {team : UUID} {cfg : α} (h : Agree copies now stored)
    (hcfg : stored team = some cfg) :
    Agree (fun team' => if team' = team then some ⟨cfg, expiresAt⟩ else copies team') now
      stored := by
  intro team' cfg' hcfg'
  simp only at hcfg'
  split at hcfg'
  · rename_i heq
    rw [Option.bind_some, Copy.live] at hcfg'
    split at hcfg'
    · obtain rfl := Option.some.inj hcfg'
      rw [heq]
      exact hcfg
    · cases hcfg'
  · exact h team' cfg' hcfg'

/-- What is stored changes only for a team without a copy, or to what the copy says. -/
theorem Agree.change {copies : UUID → Option (Copy α)} {now : Time}
    {stored stored' : UUID → Option α} (h : Agree copies now stored) (team : UUID)
    (hother : ∀ team', team' ≠ team → stored' team' = stored team')
    (hteam : ∀ cfg ∈ (copies team).bind (·.live now), stored' team = some cfg) :
    Agree copies now stored' := by
  intro team' cfg hcfg
  by_cases hsame : team' = team
  · subst hsame
    exact hteam cfg hcfg
  · rw [hother team' hsame]
    exact h team' cfg hcfg

theorem Agree.upsert {copies : UUID → Option (Copy α)} {now : Time} {type' pluginType : String}
    {team : UUID} {enabled : Bool} {configEnc : κ}
    (h : Agree copies now (s.config? enc type' ofMap))
    (hsaved : pluginType = type' → ∀ cfg ∈ (copies team).bind (·.live now), enabled ∧
      (enc.decrypt configEnc).toOption.map ofMap = some cfg) :
    Agree copies now
      ((s.upsert team pluginType enabled configEnc).2.config? enc type' ofMap) := by
  refine h.change team (fun team' hne => ?_) fun cfg hcfg => ?_
  · exact config?_congr (plugin?_upsert_other s enabled configEnc fun hsame => hne hsame.1)
  · by_cases htype : pluginType = type'
    · subst htype
      obtain ⟨rfl, hstored⟩ := hsaved rfl cfg hcfg
      rw [config?_upsert_self]
      exact hstored
    · rw [config?_congr (plugin?_upsert_other s enabled configEnc fun hsame => htype hsame.2.symm)]
      exact h team cfg hcfg

theorem Agree.delete {copies : UUID → Option (Copy α)} {now : Time} {type' pluginType : String}
    {team : UUID} (h : Agree copies now (s.config? enc type' ofMap))
    (hgone : pluginType = type' → (copies team).bind (·.live now) = none) :
    Agree copies now ((s.remove team pluginType).config? enc type' ofMap) := by
  refine h.change team (fun team' hne => ?_) fun cfg hcfg => ?_
  · exact config?_remove_other fun hsame => hne hsame.1
  · by_cases htype : pluginType = type'
    · rw [hgone htype] at hcfg
      cases hcfg
    · rw [config?_remove_other fun hsame => htype hsame.2.symm]
      exact h team cfg hcfg

/-! ## Calls keep the copies right -/

end PluginStore

/-- The call changes no row of `plugins`. -/
def PluginCmd.reads : PluginCmd κ → Bool
  | upsertPlugin .. => false
  | deletePlugin .. => false
  | _ => true

namespace PluginStore

variable {enc : Encryptor κ} {s s' : PluginStore κ}

theorem plugins_of_works {c : PluginCmd κ} {r : c.Resp} (h : Works enc s c r s')
    (hc : c.reads) : s'.plugins = s.plugins := by
  obtain ⟨e, -, rfl⟩ := works_iff.mp h
  cases c with
  | upsertPlugin team pluginType enabled configEnc => cases hc
  | deletePlugin team pluginType => cases hc
  | getPlugin team pluginType =>
    rw [exec_getPlugin]
    rfl
  | _ => rfl

/-- A call that changes no row leaves what is stored. -/
theorem configs_of_works {c : PluginCmd κ} {r : c.Resp} (h : Works enc s c r s') (hc : c.reads) :
    s'.resendConfig enc = s.resendConfig enc ∧ s'.zendutyConfig enc = s.zendutyConfig enc := by
  have hplugins := plugins_of_works h hc
  constructor
  · funext team
    refine config?_congr ?_
    unfold plugin?
    rw [hplugins]
  · funext team
    refine config?_congr ?_
    unfold plugin?
    rw [hplugins]

/-- What is put into a copy is what is stored. -/
def Copies (enc : Encryptor κ) (s : PluginStore κ) : PluginCmd κ → Prop
  | .setCachedResendConfig team cfg _ => s.resendConfig enc team = some cfg
  | .setCachedZendutyConfig team cfg _ => s.zendutyConfig enc team = some cfg
  | _ => True

/-- **A call keeps the copies right.** -/
theorem fresh_step {c : PluginCmd κ} {r : c.Resp} (h : s.Fresh enc) (hw : Works enc s c r s')
    (hcareful : s.Careful enc c) (hcopies : s.Copies enc c) : s'.Fresh enc := by
  have hlater (e : PluginEnv) : s.clock ≤ s.clock + e.elapsed := Int.le.intro e.elapsed rfl
  by_cases hc : c.reads
  · obtain ⟨hresend, hzenduty⟩ := configs_of_works hw hc
    obtain ⟨e, -, rfl⟩ := works_iff.mp hw
    constructor
    · rw [hresend]
      cases c with
      | setCachedResendConfig team cfg ttl => exact (h.resend.put hcopies).later (hlater e)
      | getPlugin team pluginType =>
        rw [exec_getPlugin]
        exact h.resend.later (hlater e)
      | upsertPlugin | deletePlugin => cases hc
      | _ => exact h.resend.later (hlater e)
    · rw [hzenduty]
      cases c with
      | setCachedZendutyConfig team cfg ttl => exact (h.zenduty.put hcopies).later (hlater e)
      | getPlugin team pluginType =>
        rw [exec_getPlugin]
        exact h.zenduty.later (hlater e)
      | upsertPlugin | deletePlugin => cases hc
      | _ => exact h.zenduty.later (hlater e)
  · obtain ⟨e, -, rfl⟩ := works_iff.mp hw
    cases c with
    | upsertPlugin team pluginType enabled configEnc =>
      have hsame : (s.upsert team pluginType enabled configEnc).2.resendCopies = s.resendCopies ∧
          (s.upsert team pluginType enabled configEnc).2.zendutyCopies = s.zendutyCopies ∧
          (s.upsert team pluginType enabled configEnc).2.clock = s.clock := by
        unfold upsert
        split <;> exact ⟨rfl, rfl, rfl⟩
      obtain ⟨hcopies₁, hcopies₂, hclock⟩ := hsame
      constructor
      · show Agree (s.upsert ..).2.resendCopies ((s.upsert ..).2.clock + e.elapsed) _
        rw [hcopies₁, hclock]
        refine Agree.later (h.resend.upsert ?_) (hlater e)
        exact fun htype cfg hcfg => hcareful.1 htype cfg hcfg
      · show Agree (s.upsert ..).2.zendutyCopies ((s.upsert ..).2.clock + e.elapsed) _
        rw [hcopies₂, hclock]
        refine Agree.later (h.zenduty.upsert ?_) (hlater e)
        exact fun htype cfg hcfg => hcareful.2 htype cfg hcfg
    | deletePlugin team pluginType =>
      constructor
      · exact (h.resend.delete fun htype => hcareful.1 htype).later (hlater e)
      · exact (h.zenduty.delete fun htype => hcareful.2 htype).later (hlater e)
    | _ => exact absurd rfl hc

/-- The service in which every call gets through, and no save or removal leaves a copy
behind. -/
def Steady (enc : Encryptor κ) (s : PluginStore κ) (c : PluginCmd κ) (r : c.Resp)
    (s' : PluginStore κ) : Prop := Works enc s c r s' ∧ s.Careful enc c

/-- Every delivery of the program uses what is stored, and the copies stay right. -/
def Delivers {α : Type} (enc : Encryptor κ) (p : PluginProg κ α) (s : PluginStore κ) : Prop :=
  p.wp (Works enc) (Uses enc) (fun _ s' => s'.Fresh enc) s

end PluginStore

open PluginStore

variable {enc : Encryptor κ} {s s' : PluginStore κ}

/-! ## Programs -/

theorem delivers_persistAlert (h : s.Fresh enc) (incidentID : UUID) (alertEmail status : String)
    (sentAt : Option Time) :
    Delivers enc (AlertService.persistAlert incidentID alertEmail status sentAt) s := by
  refine ⟨trivial, fun r s' hs => ?_⟩
  exact fresh_step h hs trivial trivial

/-- Sending with the configuration that is stored. -/
theorem delivers_sendResend {cfg : ResendEmailConfig} {event : AlertEvent} (h : s.Fresh enc)
    (hcfg : s.resendConfig enc event.teamID = some cfg) :
    Delivers enc (AlertService.sendResend cfg event) s := by
  unfold AlertService.sendResend
  split
  · exact delivers_persistAlert h _ _ _ _
  · refine ⟨trivial, fun sentAt s₁ hs₁ => ?_⟩
    have hfresh₁ : s₁.Fresh enc := fresh_step h hs₁ trivial trivial
    have hcfg₁ : s₁.resendConfig enc event.teamID = some cfg := by
      rw [(configs_of_works hs₁ rfl).1]
      exact hcfg
    refine ⟨⟨cfg, hcfg₁, rfl, rfl, rfl⟩, fun sent s₂ hs₂ => ?_⟩
    have hfresh₂ : s₂.Fresh enc := fresh_step hfresh₁ hs₂ trivial trivial
    rcases sent with err | name
    · exact delivers_persistAlert hfresh₂ _ _ _ _
    · exact delivers_persistAlert hfresh₂ _ _ _ _

theorem delivers_sendZenduty {cfg : ZendutyConfig} {event : AlertEvent} (h : s.Fresh enc)
    (hcfg : s.zendutyConfig enc event.teamID = some cfg) :
    Delivers enc (AlertService.sendZenduty cfg event) s := by
  refine ⟨⟨cfg, hcfg, rfl⟩, fun sent s₁ hs₁ => ?_⟩
  exact fresh_step h hs₁ trivial trivial

/-- **What the getters find is what is stored.** -/
theorem wp_getConfig {α : Type} {op pluginType : String} {ofMap : ConfigMap → α} {team : UUID}
    (h : s.Fresh enc) :
    (PluginRepository.getConfig enc op pluginType ofMap team).wp (Works enc) (Uses enc)
      (fun x s' => s'.Fresh enc ∧ ∀ cfg, x = .ok (some cfg) →
        s'.config? enc pluginType ofMap team = some cfg) s := by
  refine ⟨trivial, fun found s₁ hs₁ => ?_⟩
  have hfresh : s₁.Fresh enc := fresh_step h hs₁ trivial trivial
  rcases found with err | row
  · cases err <;> exact ⟨hfresh, nofun⟩
  have hrow : s₁.plugin? team pluginType = some row := by
    unfold plugin?
    rw [plugins_of_works hs₁ rfl]
    exact plugin?_of_works hs₁
  show (if row.enabled then _ else _ : PluginProg κ _).wp _ _ _ s₁
  split
  · rename_i hon
    cases hdec : enc.decrypt row.configEnc with
    | ok m =>
      unfold PluginRepository.decrypt
      rw [hdec]
      refine ⟨hfresh, fun cfg hcfg => ?_⟩
      obtain rfl := Option.some.inj (Except.ok.inj hcfg)
      unfold config?
      rw [hrow]
      simp only
      rw [if_pos hon, hdec]
      rfl
    | error err =>
      unfold PluginRepository.decrypt
      rw [hdec]
      cases err <;> exact ⟨hfresh, nofun⟩
  · exact ⟨hfresh, nofun⟩

theorem delivers_handleResend (event : AlertEvent) (h : s.Fresh enc) :
    Delivers enc (AlertService.handleResend enc event) s := by
  refine ⟨trivial, fun copy s₁ hs₁ => ?_⟩
  have hfresh₁ : s₁.Fresh enc := fresh_step h hs₁ trivial trivial
  rcases copy with - | cfg
  · -- no copy: the table is read
    refine (wp_bind (p := PluginRepository.getResendConfig enc event.teamID)).mpr
      ((wp_getConfig hfresh₁).mono fun x s₂ hx => ?_)
    obtain ⟨hfresh₂, hstored⟩ := hx
    rcases x with err | - | cfg
    · exact delivers_persistAlert hfresh₂ _ _ _ _
    · exact delivers_persistAlert hfresh₂ _ _ _ _
    · have hcfg := hstored cfg rfl
      refine ⟨trivial, fun _ s₃ hs₃ => delivers_sendResend ?_ ?_⟩
      · exact fresh_step hfresh₂ hs₃ trivial hcfg
      · rw [(configs_of_works hs₃ rfl).1]
        exact hcfg
  · -- the copy agrees with the table
    refine delivers_sendResend hfresh₁ ?_
    rw [(configs_of_works hs₁ rfl).1]
    obtain ⟨e, hcopy, -⟩ := works_iff.mp hs₁
    exact h.resend event.teamID cfg hcopy.symm

theorem delivers_handleZenduty (event : AlertEvent) (h : s.Fresh enc) :
    Delivers enc (AlertService.handleZenduty enc event) s := by
  refine ⟨trivial, fun copy s₁ hs₁ => ?_⟩
  have hfresh₁ : s₁.Fresh enc := fresh_step h hs₁ trivial trivial
  rcases copy with - | cfg
  · refine (wp_bind (p := PluginRepository.getZendutyConfig enc event.teamID)).mpr
      ((wp_getConfig hfresh₁).mono fun x s₂ hx => ?_)
    obtain ⟨hfresh₂, hstored⟩ := hx
    rcases x with err | - | cfg
    · exact hfresh₂
    · exact hfresh₂
    · have hcfg := hstored cfg rfl
      refine ⟨trivial, fun _ s₃ hs₃ => delivers_sendZenduty ?_ ?_⟩
      · exact fresh_step hfresh₂ hs₃ trivial hcfg
      · rw [(configs_of_works hs₃ rfl).2]
        exact hcfg
  · refine delivers_sendZenduty hfresh₁ ?_
    rw [(configs_of_works hs₁ rfl).2]
    obtain ⟨e, hcopy, -⟩ := works_iff.mp hs₁
    exact h.zenduty event.teamID cfg hcopy.symm

/-- An alert is delivered through what is stored, on both channels. -/
theorem delivers_processAlert (event : AlertEvent) (h : s.Fresh enc) :
    Delivers enc (AlertService.processAlert enc event) s := by
  have hboth (t : PluginStore κ) (ht : t.Fresh enc) : Delivers enc
      (if AlertService.channelEnabled event.notificationChannels "zenduty" then
        AlertService.handleZenduty enc event else pure ()) t := by
    split
    · exact delivers_handleZenduty event ht
    · exact ht
  unfold AlertService.processAlert
  extract_lets
  split
  · exact wp_bind.mpr (wp.mono (delivers_handleResend event h) fun _ t ht => hboth t ht)
  · exact hboth s h

/-! ## Runs -/

/-- The calls that follow one another. -/
inductive PluginCall where
  | upsertPlugin (team : UUID) (pluginType : String) (enabled : Bool) (config : ConfigMap)
  | deletePlugin (team : UUID) (pluginType : String)
  | processAlert (event : AlertEvent)

/-- What a call runs. -/
def PluginCall.prog (enc : Encryptor κ) (isAddress : String → Bool) : PluginCall → PluginProg κ Unit
  | upsertPlugin team pluginType enabled config => do
    let _ ← PluginService.upsertPlugin isAddress team pluginType enabled config
    pure ()
  | deletePlugin team pluginType => do
    let _ ← PluginService.deletePlugin team pluginType
    pure ()
  | processAlert event => AlertService.processAlert enc event

/-- One call from start to end, with every command answered by the service. -/
def Calls (enc : Encryptor κ) (isAddress : String → Bool)
    (service : PluginStore κ → (c : PluginCmd κ) → c.Resp → PluginStore κ → Prop)
    (s : PluginStore κ) (call : PluginCall) (s' : PluginStore κ) : Prop :=
  ∃ tr, Exec service (call.prog enc isAddress) s tr () s'

/-- A run that saves and removes nothing leaves no copy behind. -/
theorem exec_steady_of_reads {α : Type} {p : PluginProg κ α} {a : α}
    {tr : List (Event (PluginCmd κ) PluginCmd.Resp)} (h : Exec (Works enc) p s tr a s')
    (hreads : ∀ e ∈ tr, e.cmd.reads) :
    Exec (Steady enc) p s tr a s' := by
  induction h with
  | ret a s => exact Exec.ret a s
  | @call c k s t s'' r tr a hc _ ih =>
    refine Exec.call ⟨hc, ?_⟩ (ih fun e he => hreads e (List.mem_cons_of_mem _ he))
    have hread : c.reads := hreads _ List.mem_cons_self
    cases c with
    | upsertPlugin | deletePlugin => cases hread
    | _ => trivial

/-- A call of whatever kind keeps the copies right, if it leaves none behind. -/
theorem fresh_call (isAddress : String → Bool) (call : PluginCall) (h : s.Fresh enc) :
    (call.prog enc isAddress).wp (Steady enc) (fun _ _ => True) (fun _ s' => s'.Fresh enc) s := by
  cases call with
  | upsertPlugin team pluginType enabled config =>
    refine wp_bind.mpr ?_
    unfold PluginService.upsertPlugin
    cases validateConfig isAddress pluginType config with
    | error err => exact h
    | ok u =>
      refine ⟨trivial, fun sealed s₁ hs₁ => ?_⟩
      have hfresh₁ : s₁.Fresh enc := fresh_step h hs₁.1 hs₁.2 trivial
      rcases sealed with err | configEnc
      · exact hfresh₁
      · refine ⟨trivial, fun row s₂ hs₂ => ?_⟩
        have hfresh₂ : s₂.Fresh enc := fresh_step hfresh₁ hs₂.1 hs₂.2 trivial
        rcases row with err | row <;> exact hfresh₂
  | deletePlugin team pluginType =>
    refine ⟨trivial, fun gone s₁ hs₁ => ?_⟩
    have hfresh₁ : s₁.Fresh enc := fresh_step h hs₁.1 hs₁.2 trivial
    rcases gone with err | u <;> exact hfresh₁
  | processAlert event =>
    have hsteady : (AlertService.processAlert enc event).wp (Steady enc) (Uses enc)
        (fun _ s' => s'.Fresh enc) s :=
      wp.restrict (delivers_processAlert event h) fun _ _ _ _ hs => hs.1
    exact hsteady.weaken fun _ _ _ => trivial

/-- With right copies, a call of whatever kind delivers with what is stored. -/
theorem uses_call (isAddress : String → Bool) (call : PluginCall) (h : s.Fresh enc) :
    (call.prog enc isAddress).wp (Works enc) (Uses enc) (fun _ _ => True) s := by
  cases call with
  | upsertPlugin team pluginType enabled config =>
    refine wp_bind.mpr ?_
    unfold PluginService.upsertPlugin
    cases validateConfig isAddress pluginType config with
    | error err => trivial
    | ok u =>
      refine ⟨trivial, fun sealed _ _ => ?_⟩
      rcases sealed with err | configEnc
      · trivial
      · refine ⟨trivial, fun row _ _ => ?_⟩
        rcases row with err | row <;> trivial
  | deletePlugin team pluginType =>
    refine ⟨trivial, fun gone _ _ => ?_⟩
    rcases gone with err | u <;> trivial
  | processAlert event => exact wp.mono (delivers_processAlert event h) fun _ _ _ => trivial

/-- **Deliveries use what is stored**, in every sequence of saves, removals and alerts that
leaves no copy behind: after any such sequence, whatever call comes next delivers with the
configuration stored at that moment, and with nothing if there is none. -/
theorem uses_of_careful {isAddress : String → Bool} {calls : List PluginCall} (h₀ : s.Fresh enc)
    (h : Runs (Calls enc isAddress (Steady enc)) s calls s') (next : PluginCall) :
    (next.prog enc isAddress).wp (Works enc) (Uses enc) (fun _ _ => True) s' := by
  have hfresh : s'.Fresh enc := by
    refine h.invariant h₀ fun call _ t u hstep ht => ?_
    obtain ⟨tr, hrun⟩ := hstep
    exact (hrun.wp (fresh_call isAddress call ht)).2
  exact uses_call isAddress next hfresh

namespace Sample

/-- Keeps the map as it is, beside the nonce. -/
def encryptor : Encryptor (ℕ × ConfigMap) where
  encrypt nonce m := (nonce, m)
  decrypt x := .ok x.2
  decrypt_encrypt _ m := ⟨m, rfl, fun _ => rfl⟩

/-- There is an at sign in it. -/
def isAddress (s : String) : Bool := s.toList.contains '@'

/-- Nothing has been saved yet. -/
def noPlugins : PluginStore (ℕ × ConfigMap) := ⟨[], fun _ => none, fun _ => none, [], 0, 1⟩

/-- A configuration with the given key. -/
def configMap (apiKey : String) : ConfigMap :=
  [("api_key", apiKey), ("sender_email", "sofon@example.org"),
    ("recipient_emails", "ops@example.org")]

/-- The team saves a configuration with the given key. -/
def save (apiKey : String) : PluginCall := .upsertPlugin 9 "resend" true (configMap apiKey)

/-- A monitor of the team is down. -/
def alert : PluginCall :=
  .processAlert ⟨1, .down, 1, 9, "https://example.org", [], .timeout, 0, 0, 0⟩

/-- A call, with every command taking a second. -/
def follow (call : PluginCall) (s : PluginStore (ℕ × ConfigMap)) : PluginStore (ℕ × ConfigMap) :=
  (Program.run (PluginStore.work encryptor) (List.replicate 20 ⟨false, 1000000000, 0, "name"⟩)
    (call.prog encryptor isAddress) s).2.2

theorem calls_follow (call : PluginCall) (s : PluginStore (ℕ × ConfigMap)) :
    Calls encryptor isAddress (Works encryptor) s call (follow call s) :=
  ⟨_, exec_run (PluginStore.work encryptor) _ _ s⟩

/-- An email goes out with another key than the one that is stored. -/
def misdirected (x : PluginStore (ℕ × ConfigMap) × PluginCmd (ℕ × ConfigMap)) : Bool :=
  match x.2 with
  | .sendEmail apiKey req =>
    (x.1.resendConfig encryptor req.event.teamID).map ResendEmailConfig.apiKey ≠ some apiKey
  | _ => false

theorem not_uses_of_misdirected
    {x : PluginStore (ℕ × ConfigMap) × PluginCmd (ℕ × ConfigMap)} (h : misdirected x) :
    ¬ Uses encryptor x.1 x.2 := by
  obtain ⟨t, c⟩ := x
  intro huses
  cases c with
  | sendEmail apiKey req =>
    obtain ⟨cfg, hcfg, rfl, -⟩ := huses
    refine of_decide_eq_true h ?_
    show (t.resendConfig encryptor req.event.teamID).map _ = _
    rw [hcfg]
    rfl
  | _ => cases h

end Sample

/-- A first save leaves no copy behind. -/
theorem careful_save : ((Sample.save "re_old").prog Sample.encryptor Sample.isAddress).wp
    (Works Sample.encryptor) (Careful Sample.encryptor) (fun _ _ => True) Sample.noPlugins := by
  have hvalid : validateConfig Sample.isAddress "resend" (Sample.configMap "re_old") = .ok () := by
    rfl
  refine wp_bind.mpr ?_
  unfold PluginService.upsertPlugin
  rw [hvalid]
  refine ⟨trivial, fun sealed s₁ hs₁ => ?_⟩
  obtain ⟨e, -, rfl⟩ := works_iff.mp hs₁
  rcases sealed with err | configEnc
  · trivial
  · refine ⟨⟨fun _ => nofun, fun _ => nofun⟩, fun row s₂ _ => ?_⟩
    rcases row with err | row <;> trivial

/-- After a first save and an alert there is a copy, and the next alert, which takes the
configuration from it, uses what was saved. -/
theorem uses_of_careful_sample :
    ∃ s' : PluginStore (ℕ × ConfigMap),
      Runs (Calls Sample.encryptor Sample.isAddress (Steady Sample.encryptor)) Sample.noPlugins
        [Sample.save "re_old", Sample.alert] s' ∧
      s'.resendConfig Sample.encryptor 9 =
        some ⟨"re_old", "sofon@example.org", ["ops@example.org"]⟩ ∧
      s'.resendCopy 9 = some ⟨"re_old", "sofon@example.org", ["ops@example.org"]⟩ ∧
      (Sample.alert.prog Sample.encryptor Sample.isAddress).wp (Works Sample.encryptor)
        (Uses Sample.encryptor) (fun _ _ => True) s' := by
  have hfresh : Sample.noPlugins.Fresh Sample.encryptor := ⟨nofun, nofun⟩
  obtain ⟨tr, hsave⟩ := Sample.calls_follow (Sample.save "re_old") Sample.noPlugins
  -- the alert finds no copy and puts one there
  have halert : Exec (Steady Sample.encryptor)
      (Sample.alert.prog Sample.encryptor Sample.isAddress)
      (Sample.follow (Sample.save "re_old") Sample.noPlugins) _ ()
      (Sample.follow Sample.alert (Sample.follow (Sample.save "re_old") Sample.noPlugins)) :=
    exec_steady_of_reads (exec_run (PluginStore.work Sample.encryptor) _ _ _) (by decide)
  have hruns : Runs (Calls Sample.encryptor Sample.isAddress (Steady Sample.encryptor))
      Sample.noPlugins [Sample.save "re_old", Sample.alert]
      (Sample.follow Sample.alert (Sample.follow (Sample.save "re_old") Sample.noPlugins)) :=
    (Runs.nil.snoc ⟨tr, (hsave.wp careful_save).1⟩).snoc ⟨_, halert⟩
  exact ⟨_, hruns, by decide, by decide,
    uses_of_careful hfresh hruns Sample.alert⟩

/-- The state after a save, an alert and another call. -/
def Sample.stale (second : PluginCall) : PluginStore (ℕ × ConfigMap) :=
  follow second (follow alert (follow (save "re_old") noPlugins))

theorem runs_stale (second : PluginCall) :
    Runs (Calls Sample.encryptor Sample.isAddress (Works Sample.encryptor)) Sample.noPlugins
      [Sample.save "re_old", Sample.alert, second] (Sample.stale second) :=
  Runs.snoc (Runs.snoc (Runs.snoc Runs.nil (Sample.calls_follow _ _)) (Sample.calls_follow _ _))
    (Sample.calls_follow _ _)

theorem not_uses_of_visits {s : PluginStore (ℕ × ConfigMap)}
    (h : ((Sample.alert.prog Sample.encryptor Sample.isAddress).visits
      (PluginStore.work Sample.encryptor) [] s).any Sample.misdirected) :
    ¬ (Sample.alert.prog Sample.encryptor Sample.isAddress).wp (Works Sample.encryptor)
      (Uses Sample.encryptor) (fun _ _ => True) s := by
  intro hwp
  obtain ⟨x, hx, hmis⟩ := List.any_eq_true.mp h
  exact Sample.not_uses_of_misdirected hmis (hwp.visits [] x hx)

/-- **A copy outlives what it is a copy of.**  After an alert, the team saves a new key, or
removes the plugin, and the next alert still goes out with the old key. -/
theorem not_uses_of_runs :
    (∃ s', Runs (Calls Sample.encryptor Sample.isAddress (Works Sample.encryptor))
      Sample.noPlugins [Sample.save "re_old", Sample.alert, Sample.save "re_new"] s' ∧
      ¬ (Sample.alert.prog Sample.encryptor Sample.isAddress).wp (Works Sample.encryptor)
        (Uses Sample.encryptor) (fun _ _ => True) s') ∧
    ∃ s', Runs (Calls Sample.encryptor Sample.isAddress (Works Sample.encryptor))
      Sample.noPlugins [Sample.save "re_old", Sample.alert, .deletePlugin 9 "resend"] s' ∧
      ¬ (Sample.alert.prog Sample.encryptor Sample.isAddress).wp (Works Sample.encryptor)
        (Uses Sample.encryptor) (fun _ _ => True) s' := by
  refine ⟨⟨_, runs_stale _, not_uses_of_visits ?_⟩, _, runs_stale _, not_uses_of_visits ?_⟩
  · decide
  · decide

end Sofon
