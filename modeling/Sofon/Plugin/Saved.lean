import Sofon.Plugin.Crypto
import Sofon.Plugin.Delivery
import Sofon.Plugin.Handler

/-!
# What the alert service sees of a saved plugin

The alert service dispatches to two types of plugins, and its getters read the configuration
of each out of the table.  What is written there goes through the `PUT` of the handler, which
checks the type, and through the service, which checks it again.

For Resend what is saved is what is read: the map comes back from JSON, AES-GCM and base 64
as it was, and the row of another team is not touched.  But the two checks know no other
type, so a plugin for Zenduty cannot be saved.

What a getter returns depends on the row alone (`answers_getConfig_iff`), so the question is what
the request leaves in the row.

* A configuration that has what Resend requires passes both checks and is stored sealed in the
  row of its team (`exec_upsertPlugin_resend`), and the getter opens it again
  (`findsSaved_resend`).  The other rows are as they were, and with them what the getters return
  for other teams (`sameAnswers_of_plugin?`).
* A plugin of any other type is refused before anything is stored (`upsertPlugin_refused`), so
  the getter of Zenduty does not find what was to be saved (`not_seen`).

`seen_iff` is the two together.
-/

namespace Sofon

open Interleaving Program PluginStore

variable {κ : Type}

/-- The parts between the commas, trimmed and in order, without the empty ones. -/
def commaParts (raw : String) : List String := ((raw.splitOn ",").map trimSpace).filter (· ≠ "")

/-- The configuration has what its type requires. -/
def HasRequired (isAddress : String → Bool) (pluginType : String) (m : ConfigMap) : Prop :=
  (pluginType = pluginTypeResend →
    trimSpace (m.value "api_key") ≠ "" ∧ isAddress (m.value "sender_email")) ∧
  (pluginType = pluginTypeZenduty → m.value "integration_url" ≠ "")

/-- If every call gets through, the program may answer `r`. -/
def Answers {α : Type} (enc : Encryptor κ) (p : PluginProg κ α) (s : PluginStore κ) (r : α) :
    Prop := ∃ tr s', Exec (Works enc) p s tr r s'

/-- The getter of the type finds the team's configuration, and it is this one. -/
def FindsSaved (enc : Encryptor κ) (team : UUID) (pluginType : String) (m : ConfigMap)
    (s : PluginStore κ) : Prop :=
  (pluginType = pluginTypeResend →
    ∀ r, Answers enc (PluginRepository.getResendConfig enc team) s r →
      r = .ok (some ⟨m.value "api_key", m.value "sender_email",
        commaParts (m.value "recipient_emails")⟩)) ∧
  (pluginType = pluginTypeZenduty →
    ∀ r, Answers enc (PluginRepository.getZendutyConfig enc team) s r →
      r = .ok (some ⟨m.value "integration_url"⟩))

/-- The getters return for the team what they returned before. -/
def SameAnswers (enc : Encryptor κ) (team : UUID) (s s' : PluginStore κ) : Prop :=
  (∀ r, Answers enc (PluginRepository.getResendConfig enc team) s' r ↔
    Answers enc (PluginRepository.getResendConfig enc team) s r) ∧
  (∀ r, Answers enc (PluginRepository.getZendutyConfig enc team) s' r ↔
    Answers enc (PluginRepository.getZendutyConfig enc team) s r)

/-- **The saved plugin is the plugin that the alert service sees**: the `PUT` that enables it
is accepted, the getter finds it, and the other teams have theirs. -/
def Seen (enc : Encryptor κ) (isAddress : String → Bool) (s : PluginStore κ) (team : UUID)
    (pluginType : String) (m : ConfigMap) : Prop :=
  ∀ tr r s', Exec (Works enc)
    (PluginHandler.upsertPlugin isAddress team pluginType ⟨true, some m⟩) s tr r s' →
      r.isOk ∧ FindsSaved enc team pluginType m s' ∧ ∀ other ≠ team, SameAnswers enc other s s'

/-! ## The getters -/

theorem recipients_eq_commaParts (raw : String) :
    ResendEmailConfig.recipients raw = commaParts raw := by
  have hpieces : raw.splitOn "," = (Text.split ',' raw.toList).map String.ofList :=
    String.splitOn_singleton raw ','
  have htrim : trimSpace ∘ String.ofList = String.ofList ∘ Text.trim goSpace := by
    funext s
    rw [Function.comp_apply, trimSpace, String.toList_ofList, Function.comp_apply]
  have hempty : ((fun s => decide (s ≠ "")) ∘ String.ofList) = fun s => decide (s ≠ []) := by
    funext s
    simp [Function.comp_apply]
  rw [recipients_eq, commaParts, hpieces, List.map_map, htrim, ← List.map_map, List.filter_map,
    hempty]
  rfl

variable {enc : Encryptor κ} {isAddress : String → Bool} {s s' : PluginStore κ}
  {team : UUID} {pluginType : String} {m : ConfigMap}

/-- What a getter makes of the row. -/
def found {α : Type} (enc : Encryptor κ) (op : String) (ofMap : ConfigMap → α) :
    Option (PluginRow κ) → Except AppError (Option α)
  | some row =>
    if row.enabled then (PluginRepository.decrypt enc row.configEnc op).map fun m => some (ofMap m)
    else .ok none
  | none => .ok none

/-- Every program answers something. -/
theorem exists_answers {α : Type} (enc : Encryptor κ) (p : PluginProg κ α) (s : PluginStore κ) :
    ∃ r, Answers enc p s r := ⟨_, _, _, exec_run (work enc) [] p s⟩

theorem eq_found_of_answers {α : Type} {op : String} {ofMap : ConfigMap → α}
    {r : Except AppError (Option α)}
    (h : Answers enc (PluginRepository.getConfig enc op pluginType ofMap team) s r) :
    r = found enc op ofMap (s.plugin? team pluginType) := by
  obtain ⟨tr, s', h⟩ := h
  unfold PluginRepository.getConfig at h
  obtain ⟨x, s₁, tr', hx, -, h⟩ := exec_call_iff.mp h
  obtain ⟨e, hx, -⟩ := works_iff.mp hx
  rw [exec_getPlugin] at hx
  cases hrow : s.plugin? team pluginType with
  | none =>
    rw [hrow] at hx
    subst hx
    exact (exec_ret_iff.mp h).2.1
  | some row =>
    rw [hrow] at hx
    subst hx
    change Exec _ (if row.enabled then _ else _) _ _ _ _ at h
    show r = if row.enabled then _ else _
    split at h
    · rename_i hon
      rw [if_pos hon]
      cases hdec : PluginRepository.decrypt enc row.configEnc op with
      | ok m =>
        rw [hdec] at h
        exact (exec_ret_iff.mp h).2.1
      | error err =>
        rw [hdec] at h
        exact (exec_ret_iff.mp h).2.1
    · rename_i hoff
      rw [if_neg hoff]
      exact (exec_ret_iff.mp h).2.1

/-- **What a getter returns depends on the row alone.** -/
theorem answers_getConfig_iff {α : Type} {op : String} {ofMap : ConfigMap → α}
    {r : Except AppError (Option α)} :
    Answers enc (PluginRepository.getConfig enc op pluginType ofMap team) s r ↔
      r = found enc op ofMap (s.plugin? team pluginType) := by
  refine ⟨eq_found_of_answers, ?_⟩
  rintro rfl
  obtain ⟨r, hr⟩ := exists_answers enc
    (PluginRepository.getConfig enc op pluginType ofMap team) s
  rw [← eq_found_of_answers hr]
  exact hr

/-- The other rows are as they were, so the other teams' configurations are. -/
theorem sameAnswers_of_plugin? (h : ∀ type', s'.plugin? team type' = s.plugin? team type') :
    SameAnswers enc team s s' := by
  refine ⟨fun r => ?_, fun r => ?_⟩
  · exact answers_getConfig_iff.trans (by rw [h]; exact answers_getConfig_iff.symm)
  · exact answers_getConfig_iff.trans (by rw [h]; exact answers_getConfig_iff.symm)

/-! ## The request -/

/-- **A configuration for Resend is stored** in the row of the team, sealed, and no other row
changes. -/
theorem exec_upsertPlugin_resend {tr : List (Event (PluginCmd κ) PluginCmd.Resp)}
    {r : Except ErrorBody PluginResponse} (hm : HasRequired isAddress pluginTypeResend m)
    (h : Exec (Works enc)
      (PluginHandler.upsertPlugin isAddress team pluginTypeResend ⟨true, some m⟩) s tr r s') :
    r.isOk ∧
      (∃ row nonce, s'.plugin? team pluginTypeResend = some row ∧ row.enabled = true ∧
        row.configEnc = enc.encrypt nonce m) ∧
      ∀ other ≠ team, ∀ type', s'.plugin? other type' = s.plugin? other type' := by
  obtain ⟨hkey, haddress⟩ := hm.1 rfl
  have hvalid : validateConfig isAddress pluginTypeResend m = .ok () := by
    unfold validateConfig
    rw [if_pos rfl, if_neg hkey, if_pos haddress]
  unfold PluginHandler.upsertPlugin PluginService.upsertPlugin at h
  rw [if_pos (by decide)] at h
  simp only [hvalid] at h
  unfold PluginRepository.upsert at h
  obtain ⟨x, s₁, tr₁, hx, -, h⟩ := exec_call_iff.mp h
  obtain ⟨e, rfl, rfl⟩ := works_iff.mp hx
  obtain ⟨y, s₂, tr₂, hy, -, h⟩ := exec_call_iff.mp h
  obtain ⟨e', rfl, rfl⟩ := works_iff.mp hy
  obtain ⟨-, rfl, rfl⟩ := exec_ret_iff.mp h
  refine ⟨rfl, ?_, fun other hother type' => ?_⟩
  · obtain ⟨row, hrow, hon, henc⟩ := plugin?_upsert_self (s.pass e.elapsed) team
      pluginTypeResend true (enc.encrypt e.nonce m)
    exact ⟨row, e.nonce, hrow, hon, henc⟩
  · exact plugin?_upsert_other (s.pass e.elapsed) true (enc.encrypt e.nonce m)
      fun h => hother h.1

theorem findsSaved_resend {row : PluginRow κ} {nonce : ℕ}
    (hrow : s.plugin? team pluginTypeResend = some row) (hon : row.enabled = true)
    (hconfig : row.configEnc = enc.encrypt nonce m) :
    FindsSaved enc team pluginTypeResend m s := by
  refine ⟨fun _ r hr => ?_, fun h => absurd h (by decide)⟩
  obtain ⟨m', hm', hlookup⟩ := enc.decrypt_encrypt nonce m
  have hvalue := ConfigMap.value_congr hlookup
  rw [answers_getConfig_iff.mp hr, hrow, found, if_pos hon, PluginRepository.decrypt, hconfig, hm']
  simp only [Except.map, ResendEmailConfig.ofMap, hvalue, recipients_eq_commaParts]

/-- **What is saved for Resend is seen.**  Encryption and the text of JSON are undone when the alert
service reads the row, and the fields that it wants are the ones that the request had to have. -/
theorem seen_resend (s : PluginStore κ) (team : UUID)
    (hm : HasRequired isAddress pluginTypeResend m) :
    Seen enc isAddress s team pluginTypeResend m := by
  intro tr r s' h
  obtain ⟨hok, ⟨row, nonce, hrow, hon, hconfig⟩, hothers⟩ := exec_upsertPlugin_resend hm h
  exact ⟨hok, findsSaved_resend hrow hon hconfig,
    fun other hother => sameAnswers_of_plugin? (hothers other hother)⟩

/-- **A plugin of any other type is refused.** -/
theorem upsertPlugin_refused (hne : pluginType ≠ pluginTypeResend) (req : UpsertPluginRequest) :
    (PluginHandler.upsertPlugin isAddress team pluginType req : PluginProg κ _) =
      pure (.error ⟨400, .invalidInput, "unsupported plugin type"⟩) := by
  unfold PluginHandler.upsertPlugin isValidType
  rw [if_neg (by simpa using hne)]

theorem not_seen (hne : pluginType ≠ pluginTypeResend) :
    ¬ Seen enc isAddress s team pluginType m := by
  intro h
  have hrefused : Exec (Works enc)
      (PluginHandler.upsertPlugin isAddress team pluginType ⟨true, some m⟩) s []
      (.error ⟨400, .invalidInput, "unsupported plugin type"⟩) s := by
    rw [upsertPlugin_refused hne]
    exact Exec.ret _ _
  exact Bool.false_ne_true (h _ _ _ hrefused).1

/-- **Which saved plugins the alert service sees**: those for Resend, and not those for
Zenduty. -/
theorem seen_iff (gcm : GCM) (s : PluginStore String) (team : UUID)
    (htype : pluginType = pluginTypeResend ∨ pluginType = pluginTypeZenduty)
    (hm : HasRequired isAddress pluginType m) :
    Seen (encryptor gcm) isAddress s team pluginType m ↔ pluginType = pluginTypeResend := by
  rcases htype with rfl | rfl
  · exact iff_of_true (seen_resend s team hm) rfl
  · exact iff_of_false (not_seen (by decide)) (by decide)

namespace Sample

/-- Sixteen bytes stand behind the plaintext, and are looked for when it is opened. -/
def gcm : GCM where
  sealBytes _ plaintext := plaintext ++ List.replicate 16 0
  openBytes _ ciphertext :=
    if ciphertext.drop (ciphertext.length - 16) = List.replicate 16 0 then
      some (ciphertext.take (ciphertext.length - 16))
    else none
  open_seal _ plaintext _ := by simp

/-- Nothing has been saved yet. -/
def nothingSaved : PluginStore String := ⟨[], fun _ => none, fun _ => none, [], 0, 1⟩

/-- A configuration for Zenduty. -/
def integration : ConfigMap := [("integration_url", "https://events.example.org/hook")]

end Sample

theorem seen_iff_sample : Seen (encryptor Sample.gcm) Sample.isAddress Sample.nothingSaved 9
    "resend" (Sample.configMap "re_new") :=
  (seen_iff Sample.gcm Sample.nothingSaved 9 (Or.inl rfl)
    ⟨fun _ => by decide, fun h => absurd h (by decide)⟩).mpr rfl

/-- **The URL of Zenduty cannot be saved**: the configuration has it, and the request is
refused. -/
theorem zenduty_not_seen :
    HasRequired Sample.isAddress "zenduty" Sample.integration ∧
      ¬ Seen (encryptor Sample.gcm) Sample.isAddress Sample.nothingSaved 9 "zenduty"
        Sample.integration :=
  ⟨⟨fun h => absurd h (by decide), fun _ => by decide⟩, not_seen (by decide)⟩

end Sofon
