import Sofon.Api.Assets
import Sofon.Foundations.Visible

/-!
# What is saved is what is shown

When `UpsertPlugin` has answered that all went well, every `GetPlugin` that begins later and is
answered well shows the switch and the entries that were saved, with the key masked, whatever
other requests do in between (`saved_of_reaches`).  Only another request to save the plugin
could change that; if it is deleted, there is nothing to show.

What is shown are the entries: the text that is encrypted does not keep their order.

* A request that says so has had its `INSERT` or `UPDATE` answered, with the switch and an
  encryption of the map of its body (`follows_putPlugin`).
* A row *carries* a switch and a configuration when it has the one and an encryption of the other
  (`PluginRow.Carries`).  The row of the plugin does so after the save
  (`carries_of_upsert`) and goes on doing so, if there is one, unless something else is saved
  (`Carries.serves`).  Whatever is saved of the plugin in the run is what a request to save it
  says (`Recorded.saved`), and there is only the one.
* So it is what every request reads that begins later (`carries_of_reaches`), and what `GetPlugin`
  shows is made of the row that it has read (`follows_getPlugin`).
-/

namespace Sofon

open Interleaving Program

variable {κ : Type} {x : Platform κ} {s s' : Server κ} {team : UUID} {pluginType : String}
  {enabled : Bool} {config : ConfigMap}

/-! ## The row -/

/-- The row has been made of the switch and the configuration. -/
def PluginRow.Carries (x : Platform κ) (enabled : Bool) (config : ConfigMap)
    (row : PluginRow κ) : Prop :=
  row.enabled = enabled ∧ ∃ nonce, row.configEnc = x.enc.encrypt nonce config

/-- So has the row of the plugin, if there is one. -/
def Server.Carries (x : Platform κ) (s : Server κ) (team : UUID) (pluginType : String)
    (enabled : Bool) (config : ConfigMap) : Prop :=
  ∀ row ∈ s.plugins.plugins, row.isFor team pluginType = true → row.Carries x enabled config

namespace Server

variable {c : ApiCmd κ} {r : c.Resp}

/-- It stays so, unless something else is saved. -/
theorem Carries.serves (h : s.Carries x team pluginType enabled config)
    (hupsert : ∀ enabled' configEnc,
      c = .plugin (.upsertPlugin team pluginType enabled' configEnc) →
        enabled' = enabled ∧ ∃ nonce, configEnc = x.enc.encrypt nonce config)
    (hserves : Serves x s c r s') : s'.Carries x team pluginType enabled config := by
  intro row hrow hfor
  obtain hsame | ⟨c', e, rfl, hexec⟩ := plugins_cases hserves
  · exact h row (hsame ▸ hrow) hfor
  · obtain hold | rfl := s.plugins.plugins_exec x.enc e c' row (hexec ▸ hrow)
    · exact h row hold hfor
    · obtain ⟨rfl, rfl⟩ := PluginStore.isFor_iff.mp hfor
      exact hupsert _ _ rfl

theorem carries_of_upsert {configEnc : κ} {saved : PluginRow κ}
    (hencrypted : ∃ nonce, configEnc = x.enc.encrypt nonce config)
    (hserves : Serves x s (.plugin (.upsertPlugin team pluginType enabled configEnc)) (.ok saved)
      s') : s'.Carries x team pluginType enabled config := by
  obtain ⟨e, he⟩ := serves_plugin hserves
  unfold PluginStore.serve at he
  split at he
  · cases (Prod.mk.inj he).1
  · have hplugins : s'.plugins.plugins =
        (s.plugins.upsert team pluginType enabled configEnc).2.plugins :=
      (congrArg PluginStore.plugins (Prod.mk.inj he).2).symm
    intro row hrow hfor
    rw [hplugins] at hrow
    unfold PluginStore.upsert at hrow
    split at hrow
    · obtain ⟨old, hold, rfl⟩ := List.mem_map.mp hrow
      by_cases hmine : old.isFor team pluginType
      · rw [if_pos hmine]
        exact ⟨rfl, hencrypted⟩
      · rw [if_neg hmine] at hfor
        exact absurd hfor hmine
    · rename_i hnone
      obtain hold | hnew := List.mem_append.mp hrow
      · exact absurd hfor (List.find?_eq_none.mp hnone row hold)
      · rw [List.mem_singleton.mp hnew]
        exact ⟨rfl, hencrypted⟩

theorem Carries.found {row : PluginRow κ} (h : s.Carries x team pluginType enabled config)
    (hserves : Serves x s (.plugin (.getPlugin team pluginType)) (.ok row) s') :
    row.Carries x enabled config := by
  obtain ⟨e, he⟩ := serves_plugin hserves
  unfold PluginStore.serve at he
  split at he
  · cases (Prod.mk.inj he).1
  · have hr : (s.plugins.exec x.enc e (.getPlugin team pluginType)).1 = .ok row :=
      (Prod.mk.inj he).1
    simp only [PluginStore.exec] at hr
    split at hr
    · rename_i found hfound
      obtain rfl := Except.ok.inj hr
      have hfor := List.find?_some hfound
      exact h found (List.mem_of_find?_eq_some hfound) hfor
    · cases hr

end Server

/-! ## The requests -/

/-- The request saves the plugin. -/
def ApiRequest.Saves (x : Platform κ) (req : ApiRequest) (team : UUID) (pluginType : String) :
    Prop :=
  ∃ teamID body, req.endpoint = .team teamID (.upsertPlugin pluginType body) ∧
    x.uuids.parse teamID = some team

/-- A plugin may be saved by a request to save it, with what it has been given. -/
theorem Permitted.saves {req : ApiRequest} {log : List (ApiEvent κ)} {configEnc : κ}
    (h : Permitted x req log (.plugin (.upsertPlugin team pluginType enabled configEnc))) :
    ∃ teamID config,
      req.endpoint = .team teamID (.upsertPlugin pluginType (some ⟨enabled, some config⟩)) ∧
      x.uuids.parse teamID = some team ∧
      Answered log (.plugin (.encrypt config)) (.ok configEnc) := by
  obtain ⟨authorization, endpoint⟩ := req
  cases h with
  | anybody hc => cases hc
  | user _ hc => cases hc
  | member _ hep hteam _ _ _ hc =>
    cases hc with
    | plugin hc hconfigures =>
      cases hc with
      | upsertPlugin =>
        obtain ⟨config, rfl, -, hencrypted⟩ := TeamEndpoint.saves_of_configures hconfigures
        exact ⟨_, config, hep, hteam, hencrypted⟩

/-- On a route that is open to every member, it is the handler that answers well. -/
theorem follows_member {authorization teamID : String} {ep : TeamEndpoint}
    {fin : ApiResponse → List (ApiEvent κ) → Prop} (hep : ep.managed = false)
    (hrefuse : ∀ body tr, fin (.error body) tr)
    (h : ∀ (user : UUID) (m : TeamMemberCtx) tr, x.uuids.parse teamID = some m.teamID →
      (ep.handler x user m).Follows (Protocol.history Truthful fun _ _ => True) fin tr) :
    (serveHTTP x ⟨authorization, .team teamID ep⟩).Follows
      (Protocol.history Truthful fun _ _ => True) fin [] := by
  refine follows_authenticate ⟨authorization, .team teamID ep⟩ (fun _ _ _ => trivial) hrefuse
    fun user tr _ => ?_
  rw [hep]
  unfold withTeamAccess
  cases hteam : x.uuids.parse teamID with
  | none => exact hrefuse _ _
  | some team =>
    refine ⟨trivial, fun found hfound => ?_⟩
    rcases found with err | row
    · exact hrefuse _ _
    obtain ⟨hrow, -⟩ := hfound
    show Follows _ _ (if row.isActive then _ else _) _
    split
    · exact h user _ _ (hteam.trans (congrArg some hrow.symm))
    · exact hrefuse _ _

/-- **A request to save a plugin** has saved it when it says so. -/
theorem follows_putPlugin (x : Platform κ) (authorization teamID pluginType : String)
    (enabled : Bool) (config : ConfigMap) :
    (serveHTTP x ⟨authorization, .team teamID
        (.upsertPlugin pluginType (some ⟨enabled, some config⟩))⟩).Follows
      (Protocol.history Truthful fun _ _ => True)
      (fun response tr => ∀ reply, response = .ok reply → ∀ team,
        x.uuids.parse teamID = some team → ∃ configEnc row, Answered tr
          (.plugin (.upsertPlugin team pluginType enabled configEnc)) (.ok row)) [] := by
  refine follows_member rfl (fun _ _ _ h => by cases h) fun user m tr hteam => ?_
  show Follows _ _ ((PluginHandler.putPlugin x.isAddress pluginType _ m).embed ofPlugin) tr
  unfold PluginHandler.putPlugin
  split
  · rename_i htype
    unfold withBody reply
    dsimp only
    rw [if_pos rfl]
    unfold PluginHandler.upsertPlugin PluginService.upsertPlugin
    rw [if_pos htype]
    dsimp only
    split
    · exact fun _ h => by cases h
    · refine ⟨trivial, fun (encrypted : Except Unit κ) _ => ?_⟩
      rcases encrypted with err | configEnc
      · exact fun _ h => by cases h
      refine ⟨trivial, fun saved _ => ?_⟩
      rcases saved with err | row
      · exact fun _ h => by cases h
      · rintro _ - team hteam'
        obtain rfl := Option.some.inj (hteam.symm.trans hteam')
        exact ⟨configEnc, row, Answered.here⟩
  · exact fun _ h => by cases h

theorem follows_pluginRow (x : Platform κ) (team : UUID) (pluginType : String)
    (tr : List (ApiEvent κ)) :
    ((PluginRepository.get x.enc team pluginType).embed ofPlugin).Follows
      (Protocol.history Truthful fun _ _ => True)
      (fun found tr => ∀ p config', found = .ok (p, config') → ∃ row,
        Answered tr (.plugin (.getPlugin team pluginType)) (.ok row) ∧
          x.enc.decrypt row.configEnc = .ok config' ∧ p = PluginRepository.rowToPlugin row) tr := by
  have hask : ((ask (.getPlugin team pluginType) : PluginProg κ _).embed ofPlugin).Follows
      (Protocol.history Truthful fun _ _ => True)
      (fun found tr => ∀ row, found = .ok row →
        Answered tr (.plugin (.getPlugin team pluginType)) (.ok row)) tr := by
    refine ⟨trivial, fun found _ => ?_⟩
    rintro row rfl
    exact Answered.here
  unfold PluginRepository.get
  dsimp only
  rw [embed_bind]
  refine hask.bind fun found tr' hfound => ?_
  rcases found with err | row
  · cases err <;> exact fun _ _ h => by cases h
  dsimp only
  unfold PluginRepository.decrypt
  cases hdecrypt : x.enc.decrypt row.configEnc with
  | error unreadable => cases unreadable <;> exact fun _ _ h => by cases h
  | ok config' =>
    rintro p config' hp
    obtain ⟨rfl, rfl⟩ := Prod.mk.inj (Except.ok.inj hp)
    exact ⟨row, hfound row rfl, hdecrypt, rfl⟩

/-- **A request for a plugin** shows the row that it has read. -/
theorem follows_getPlugin (x : Platform κ) (authorization teamID pluginType : String) :
    (serveHTTP x ⟨authorization, .team teamID (.getPlugin pluginType)⟩).Follows
      (Protocol.history Truthful fun _ _ => True)
      (fun response tr => ∀ reply, response = .ok reply → ∀ team,
        x.uuids.parse teamID = some team → ∃ row config',
          Answered tr (.plugin (.getPlugin team pluginType)) (.ok row) ∧
          x.enc.decrypt row.configEnc = .ok config' ∧ reply.data =
            .plugin (toResponse (PluginRepository.rowToPlugin row) (maskConfig config'))) [] := by
  refine follows_member rfl (fun _ _ _ h => by cases h) fun user m tr hteam => ?_
  show Follows _ _ ((reply "plugin retrieved" .plugin
    (PluginHandler.getPlugin x.enc m.teamID pluginType)).embed ofPlugin) tr
  unfold reply PluginHandler.getPlugin
  split
  · rw [embed_bind, embed_bind]
    -- the handler, and what is written of it
    refine follows_bind_iff.mpr (follows_bind_iff.mpr
      ((follows_pluginRow x m.teamID pluginType tr).mono fun found tr' hfound => ?_))
    rcases found with err | ⟨p, config'⟩
    · exact fun _ h => by cases h
    · rintro reply hreply team hteam'
      obtain rfl := Option.some.inj (hteam.symm.trans hteam')
      obtain ⟨row, hrow, hdecrypt, rfl⟩ := hfound p config' rfl
      obtain rfl := Except.ok.inj hreply
      exact ⟨row, config', hrow, hdecrypt, rfl⟩
  · exact fun _ h => by cases h

/-! ## In every interleaving -/

section Runs

variable {reqs : List ApiRequest} {logs : List (List (ApiEvent κ))} {s₀ : Server κ} {i j k : ℕ}
  {authorization teamID : String} {log : List (ApiEvent κ)}
  {guard : Pool (ApiCmd κ) ApiCmd.Resp ApiResponse (Server κ) → ℕ → ApiEvent κ → Prop}
  {p p' : Pool (ApiCmd κ) ApiCmd.Resp ApiResponse (Server κ)}

/-- Whatever is saved of the plugin is what the request says. -/
theorem Recorded.saved {req : ApiRequest} {enabled' : Bool} {configEnc : κ}
    (h : Recorded x s₀ s logs)
    (halone : ∀ (j : ℕ) (req : ApiRequest), j ≠ i → reqs[j]? = some req →
      ¬ req.Saves x team pluginType)
    (hi : reqs[i]? = some ⟨authorization, .team teamID
      (.upsertPlugin pluginType (some ⟨enabled, some config⟩))⟩)
    (hk : logs[k]? = some log) (hreq : reqs[k]? = some req)
    (hc : Permitted x req log (.plugin (.upsertPlugin team pluginType enabled' configEnc))) :
    enabled' = enabled ∧ ∃ nonce, configEnc = x.enc.encrypt nonce config := by
  obtain ⟨teamID', config', hep, hteam, hencrypted⟩ := hc.saves
  by_cases hki : k = i
  · subst hki
    obtain rfl := Option.some.inj (hreq.symm.trans hi)
    cases hep
    exact ⟨rfl, h.encrypted log (List.mem_of_getElem? hk) _ _ hencrypted⟩
  · exact absurd ⟨teamID', _, hep, hteam⟩ (halone k req hki hreq)

/-- **Whoever begins later reads what has been saved.** -/
theorem carries_of_reaches {configEnc : κ} {saved row : PluginRow κ} {log' : List (ApiEvent κ)}
    (halone : ∀ (j : ℕ) (req : ApiRequest), j ≠ i → reqs[j]? = some req →
      ¬ req.Saves x team pluginType)
    (h : Pool.Reaches (Server.Serves x) guard (Pool.start s (reqs.map (serveHTTP x))) p)
    (h' : Pool.Reaches (Server.Serves x) guard p p')
    (hi : reqs[i]? = some ⟨authorization, .team teamID
      (.upsertPlugin pluginType (some ⟨enabled, some config⟩))⟩)
    (hlog : (p.threads.map Thread.log)[i]? = some log)
    (hset : Answered log (.plugin (.upsertPlugin team pluginType enabled configEnc)) (.ok saved))
    (hlater : (p.threads.map Thread.log)[j]? = some [])
    (hlog' : (p'.threads.map Thread.log)[j]? = some log')
    (hread : Answered log' (.plugin (.getPlugin team pluginType)) (.ok row)) :
    row.Carries x enabled config := by
  by_contra hother
  refine h.visible (J := Recorded x s) (Φ := fun s => s.Carries x team pluginType enabled config)
    (W := fun e => ∃ configEnc saved,
      e = ⟨.plugin (.upsertPlugin team pluginType enabled configEnc), .ok saved⟩)
    (B := fun e => ∃ row, e = ⟨.plugin (.getPlugin team pluginType), .ok row⟩ ∧
      ¬ row.Carries x enabled config)
    h' (fun _ _ _ _ => Server.truthful_of_serves) follows_requests
    (fun _ hlogs => Recorded.start hlogs) ?_ ?_ ?_ ?_ hlog hset ⟨configEnc, saved, rfl⟩ hlater
    hlog' _ hread ⟨row, rfl, hother⟩
  · exact fun hrecorded hk _ hserves => hrecorded.step hk hserves
  · rintro t logs k log c r t' hrecorded hk ⟨req, hreq, hc⟩ hserves hcarries
    refine hcarries.serves ?_ hserves
    rintro enabled' configEnc' rfl
    exact hrecorded.saved halone hi hk hreq hc
  · rintro t logs log c r t' hrecorded hk ⟨req, hreq, hc⟩ hserves ⟨configEnc', saved', heq⟩
    obtain ⟨rfl, hr⟩ := Event.mk.inj heq
    obtain rfl := eq_of_heq hr
    exact Server.carries_of_upsert (hrecorded.saved halone hi hk hreq hc).2 hserves
  · rintro t c r t' hserves hcarries ⟨row', heq, hother'⟩
    obtain ⟨rfl, hr⟩ := Event.mk.inj heq
    obtain rfl := eq_of_heq hr
    exact hother' (hcarries.found hserves)

/-- **What is saved is what is shown.**  When a request to save a plugin has answered that all
went well, and nobody else saves it, a request for the plugin that comes later and is answered
well shows the switch and the entries that were saved, with the key masked. -/
theorem saved_of_reaches
    (halone : ∀ (j : ℕ) (req : ApiRequest), j ≠ i → reqs[j]? = some req →
      ¬ req.Saves x team pluginType)
    (h : Pool.Reaches (Server.Serves x) guard (Pool.start s (reqs.map (serveHTTP x))) p)
    (hi : reqs[i]? = some ⟨authorization, .team teamID
      (.upsertPlugin pluginType (some ⟨enabled, some config⟩))⟩)
    (hteam : x.uuids.parse teamID = some team) {reply : ApiReply}
    (hdone : p.threads[i]? = some ⟨.ret (.ok reply), log⟩)
    (h' : Pool.Reaches (Server.Serves x) guard p p') {authorization' teamID' : String}
    (hj : reqs[j]? = some ⟨authorization', .team teamID' (.getPlugin pluginType)⟩)
    (hteam' : x.uuids.parse teamID' = some team)
    (hlater : (p.threads.map Thread.log)[j]? = some []) {reply' : ApiReply}
    {log' : List (ApiEvent κ)} (hanswer : p'.threads[j]? = some ⟨.ret (.ok reply'), log'⟩) :
    ∃ view, reply'.data = .plugin view ∧ view.enabled = enabled ∧
      ∀ key, view.config.lookup key = (maskConfig config).lookup key := by
  have hset := follows_of_reaches h hi
    (follows_putPlugin x authorization teamID pluginType enabled config) hdone
  obtain ⟨configEnc, saved, hsaved⟩ := hset reply rfl team hteam
  have hshown := follows_of_reaches (h.trans h') hj
    (follows_getPlugin x authorization' teamID' pluginType) hanswer
  obtain ⟨row, config', hrow, hdecrypt, hdata⟩ := hshown reply' rfl team hteam'
  obtain ⟨henabled, nonce, hencrypted⟩ := carries_of_reaches halone h h' hi
    (Pool.log_of_thread hdone) hsaved hlater (Pool.log_of_thread hanswer) hrow
  refine ⟨_, hdata, henabled, fun key => ?_⟩
  -- what is decrypted has the entries that were encrypted
  obtain ⟨config₀, hconfig₀, hentries⟩ := x.enc.decrypt_encrypt nonce config
  rw [hencrypted, hconfig₀] at hdecrypt
  obtain rfl := Except.ok.inj hdecrypt
  show (maskConfig config₀).lookup key = (maskConfig config).lookup key
  rw [lookup_maskConfig, lookup_maskConfig, hentries]

end Runs

/-- Ada sets Resend up, and looks at it. -/
def Sample.settings : List ApiRequest :=
  [⟨Sample.bearer 7, .team (Sample.uuids.string 9) (.upsertPlugin "resend"
      (some ⟨true, some (Sample.configMap "re_12345678")⟩))⟩,
    ⟨Sample.bearer 7, .team (Sample.uuids.string 9) (.getPlugin "resend")⟩]

theorem saved_of_reaches_sample :
    ∃ (p' : Pool (ApiCmd (ℕ × ConfigMap)) ApiCmd.Resp ApiResponse (Server (ℕ × ConfigMap)))
      (log : List (ApiEvent (ℕ × ConfigMap))) (reply : ApiReply),
      p'.threads[1]? = some ⟨.ret (.ok reply), log⟩ ∧
      ∃ view, reply.data = .plugin view ∧ view.enabled = true ∧
        ∀ key, view.config.lookup key =
          (maskConfig (Sample.configMap "re_12345678")).lookup key := by
  obtain ⟨p, p', log, log', reply, reply', hplay, hdone, hlater, hplay', hanswer⟩ :
      ∃ p p' log log' reply reply',
      Pool.play (Server.serve Sample.platform) (fun _ _ _ => true)
        ([0, 0, 0, 0, 0].map fun i => (i, default))
        (Pool.start Sample.server (Sample.settings.map (serveHTTP Sample.platform))) = some p ∧
      p.threads[0]? = some ⟨.ret (.ok reply), log⟩ ∧
      (p.threads.map Thread.log)[1]? = some [] ∧
      Pool.play (Server.serve Sample.platform) (fun _ _ _ => true)
        ([1, 1, 1, 1].map fun i => (i, default)) p = some p' ∧
      p'.threads[1]? = some ⟨.ret (.ok reply'), log'⟩ :=
    ⟨_, _, _, _, _, _, rfl, rfl, rfl, rfl, rfl⟩
  refine ⟨p', log', reply', hanswer, saved_of_reaches (i := 0) (j := 1)
    (fun j req hj hreq hsaves => ?_) (Pool.reaches_of_play hplay) rfl
    (Sample.uuids.parse_string 9) hdone (Pool.reaches_of_play hplay') rfl
    (Sample.uuids.parse_string 9) hlater hanswer⟩
  obtain ⟨teamID, body, hep, -⟩ := hsaves
  obtain _ | _ | j := j
  · exact absurd rfl hj
  · obtain rfl := Option.some.inj hreq
    cases hep
  · cases hreq

end Sofon
