import Sofon.Plugin.Delivery
import Sofon.Plugin.Handler

/-!
# The settings page of a plugin

The page asks for the stored configuration, fills a form with the answer, and on Save sends
the whole form back, which replaces what was stored.  So a field that nobody touched is
written back as the page has it.

The page has the key masked, and the mask is what it writes back.  A session keeps what the
user left alone exactly if its save is refused or lost, or nothing goes wrong in it
(`kept_iff`): the user enters the key again, or it is its own mask; the recipients are none
that the two languages trim differently; and the page was not left with an empty form because
its own request had failed.

## A session, written out

For Resend both requests come down to equations.  `form_resend` is the form that the user is done
with, whatever the page was given; `plugin?_save` is the row that the session leaves: the old one
unless the save goes through (`GoesThrough`), and otherwise one with the map that was sent.  No
other plugin is ever saved (`save_of_ne`).

## Field by field

What the alert service reads out of a field of that map is compared with what it read before
(`forall_resend_iff`).  A key that was not entered is the mask of the old key, or empty if the
page has none (`entered_key`); a sender is as it was shown (`entered_sender`).  Recipients go
from a text to a list, to a text and to a list again, trimmed by the page on the way, so they
are the same exactly if the two languages trim them alike (`recipients_values`).  The switch is
the one the page shows (`switch_iff`).
-/

namespace Sofon

open Interleaving Program

/-- What `trim` takes for white space in the language of the page. -/
def jsSpace (c : Char) : Bool :=
  (9 ≤ c.toNat && c.toNat ≤ 13) || c.toNat = 0x20 || c.toNat = 0xA0 || c.toNat = 0x1680 ||
    (0x2000 ≤ c.toNat && c.toNat ≤ 0x200A) || c.toNat = 0x2028 || c.toNat = 0x2029 ||
    c.toNat = 0x202F || c.toNat = 0x205F || c.toNat = 0x3000 || c.toNat = 0xFEFF

/-- `s.trim()` -/
def jsTrim (s : String) : String := String.ofList (Text.trim jsSpace s.toList)

/-- `FieldDef`, without what is only displayed. -/
structure FieldDef where
  key : String
  multiValue : Bool

def pluginFields (pluginType : String) : List FieldDef :=
  if pluginType = pluginTypeResend then
    [⟨"api_key", false⟩, ⟨"sender_email", false⟩, ⟨"recipient_emails", true⟩]
  else if pluginType = pluginTypeZenduty then [⟨"integration_url", false⟩]
  else []

/-- What the user puts into the fields, and into the switch. -/
structure Edits where
  single : String → Option String
  multi : String → Option (List String)
  enabled : Option Bool

/-- The state of the page. -/
structure Form where
  singleFields : ConfigMap
  multiFields : List (String × List String)
  enabled : Bool

namespace Form

/-- `raw ? raw.split(",").map((s) => s.trim()).filter(Boolean) : []` -/
def values (raw : String) : List String :=
  if raw = "" then [] else (Text.fields jsSpace ',' raw.toList).map String.ofList

/-- What the page shows once `fetchPlugin` has answered. -/
def load (pluginType : String) : Option PluginResponse → Form
  | some plugin =>
    { singleFields := ((pluginFields pluginType).filter (!·.multiValue)).map fun f =>
        (f.key, plugin.config.value f.key)
      multiFields := ((pluginFields pluginType).filter (·.multiValue)).map fun f =>
        (f.key, values (plugin.config.value f.key))
      enabled := plugin.enabled }
  | none =>
    { singleFields := ((pluginFields pluginType).filter (!·.multiValue)).map fun f => (f.key, "")
      multiFields := ((pluginFields pluginType).filter (·.multiValue)).map fun f => (f.key, [])
      enabled := false }

/-- The form after the edits. -/
def edit (edits : Edits) (form : Form) : Form where
  singleFields := form.singleFields.map fun (key, v) => (key, (edits.single key).getD v)
  multiFields := form.multiFields.map fun (key, vals) => (key, (edits.multi key).getD vals)
  enabled := edits.enabled.getD form.enabled

/-- `singlesFilled`, without which Save is disabled -/
def singlesFilled (pluginType : String) (form : Form) : Bool :=
  ((pluginFields pluginType).filter (!·.multiValue)).all fun f =>
    jsTrim (form.singleFields.value f.key) ≠ ""

/-- The `config` of `handleSave`; a list is assigned after the single values. -/
def config (form : Form) : ConfigMap :=
  (form.multiFields.map fun (key, vals) => (key, ",".intercalate vals)) ++ form.singleFields

end Form

/-- What is decided in a session: the edits, and the fate of the calls that its two requests
make. -/
structure Session where
  get : PluginEnv
  edits : Edits
  encrypt : PluginEnv
  upsert : PluginEnv

variable {κ : Type}

def fetchPlugin (enc : Encryptor κ) (team : UUID) (pluginType : String) (e : PluginEnv)
    (s : PluginStore κ) : Option PluginResponse :=
  (Program.run (PluginStore.serve enc) [e] (PluginHandler.getPlugin enc team pluginType)
    s).2.1.toOption

namespace Session

/-- The form that the user is done with. -/
def form (x : Session) (enc : Encryptor κ) (team : UUID) (pluginType : String)
    (s : PluginStore κ) : Form :=
  (Form.load pluginType (fetchPlugin enc team pluginType x.get s)).edit x.edits

/-- `handleSave`, if the button is not disabled -/
def handleSave (x : Session) (enc : Encryptor κ) (isAddress : String → Bool) (team : UUID)
    (pluginType : String) (form : Form) (s : PluginStore κ) : PluginStore κ :=
  if form.singlesFilled pluginType then
    (Program.run (PluginStore.serve enc) [x.encrypt, x.upsert]
      (PluginHandler.upsertPlugin isAddress team pluginType ⟨form.enabled, some form.config⟩)
      s).2.2
  else s

/-- **A session**: the page is loaded in the state `s`, and saved in the state `t`. -/
def save (x : Session) (enc : Encryptor κ) (isAddress : String → Bool) (team : UUID)
    (pluginType : String) (s t : PluginStore κ) : PluginStore κ :=
  x.handleSave enc isAddress team pluginType (x.form enc team pluginType s) t

end Session

/-! ## What a session keeps -/

/-- What the alert service reads out of a field. -/
def FieldDef.effective (f : FieldDef) (m : ConfigMap) : List String :=
  if f.multiValue then ResendEmailConfig.recipients (m.value f.key) else [m.value f.key]

/-- The user did not change the field. -/
def Edits.Leaves (edits : Edits) (f : FieldDef) : Prop :=
  if f.multiValue then edits.multi f.key = none else edits.single f.key = none

/-- **What the user did not change is as it was**: the effective value of every field, and
the switch. -/
def Kept (enc : Encryptor κ) (team : UUID) (pluginType : String) (edits : Edits) (enabled : Bool)
    (m : ConfigMap) (s' : PluginStore κ) : Prop :=
  ∃ row m', s'.plugin? team pluginType = some row ∧ enc.decrypt row.configEnc = .ok m' ∧
    (edits.enabled = none → row.enabled = enabled) ∧
    ∀ f ∈ pluginFields pluginType, edits.Leaves f → f.effective m' = f.effective m

namespace Session

/-- The configuration that the page is given, which is none if its request fails. -/
def shown (x : Session) (m : ConfigMap) : ConfigMap := if x.get.fails then [] else maskConfig m

/-- What stands in a field when the form is saved. -/
def entered (x : Session) (m : ConfigMap) (key : String) : String :=
  (x.edits.single key).getD ((x.shown m).value key)

/-- The map that is sent for Resend. -/
def sent (x : Session) (m : ConfigMap) : ConfigMap :=
  [("recipient_emails", ",".intercalate ((x.edits.multi "recipient_emails").getD
      (Form.values ((x.shown m).value "recipient_emails")))),
    ("api_key", x.entered m "api_key"), ("sender_email", x.entered m "sender_email")]

/-- **The save goes through**: the plugin is Resend, neither the page nor the service finds
fault with the key and the sender, and no call is lost. -/
structure GoesThrough (x : Session) (isAddress : String → Bool) (pluginType : String)
    (m : ConfigMap) : Prop where
  resend : pluginType = pluginTypeResend
  key : jsTrim (x.entered m "api_key") ≠ ""
  sender : jsTrim (x.entered m "sender_email") ≠ ""
  apiKey : trimSpace (x.entered m "api_key") ≠ ""
  address : isAddress (x.entered m "sender_email")
  encrypted : x.encrypt.fails = false
  stored : x.upsert.fails = false

/-- **A save does no harm**: a key that was not entered is its own mask; recipients that were
not entered are trimmed by the page to what the service trims them to, or there are none if
the page was not given any; and so with the switch. -/
structure Harmless (x : Session) (enabled : Bool) (m : ConfigMap) : Prop where
  key : x.edits.single "api_key" = none →
    maskKey (bytes (m.value "api_key")) = bytes (m.value "api_key")
  recipients : x.edits.multi "recipient_emails" = none →
    if x.get.fails then ResendEmailConfig.recipients (m.value "recipient_emails") = []
    else ∀ p ∈ Text.split ',' (m.value "recipient_emails").toList,
      Text.trim goSpace (Text.trim jsSpace p) = Text.trim goSpace p
  enabled : x.edits.enabled = none → x.get.fails → enabled = false

end Session

variable {enc : Encryptor κ} {isAddress : String → Bool} {team : UUID} {pluginType : String}
  {s t : PluginStore κ} {row : PluginRow κ} {m : ConfigMap} {x : Session}

/-! ## Recipients, to and fro -/

theorem values_eq (raw : String) :
    Form.values raw = (Text.fields jsSpace ',' raw.toList).map String.ofList := by
  unfold Form.values
  split
  · rename_i hraw
    rw [hraw]
    rfl
  · rfl

/-- The recipients that the page writes back are those it was given exactly if the two
languages trim them alike. -/
theorem recipients_values (raw : String) :
    ResendEmailConfig.recipients (",".intercalate (Form.values raw)) =
        ResendEmailConfig.recipients raw ↔
      ∀ p ∈ Text.split ',' raw.toList,
        Text.trim goSpace (Text.trim jsSpace p) = Text.trim goSpace p := by
  have hjoin : (",".intercalate (Form.values raw)).toList =
      Text.join ',' (Text.fields jsSpace ',' raw.toList) := by
    have hid : String.toList ∘ String.ofList = id := funext fun _ => String.toList_ofList
    rw [String.toList_intercalate, values_eq, List.map_map, hid, List.map_id]
    rfl
  have hinj : Function.Injective (List.map String.ofList) :=
    List.map_injective_iff.mpr fun _ _ => String.ofList_inj.mp
  rw [recipients_eq, recipients_eq, hjoin, hinj.eq_iff]
  exact Text.fields_join_fields goSpace jsSpace ',' raw.toList

/-! ## The two requests -/

/-- What the page is given, if its request gets through. -/
theorem fetchPlugin_resend {e : PluginEnv} (hrow : s.plugin? team pluginTypeResend = some row)
    (hm : enc.decrypt row.configEnc = .ok m) :
    fetchPlugin enc team pluginTypeResend e s =
      if e.fails then none
      else some (toResponse (PluginRepository.rowToPlugin row) (maskConfig m)) := by
  unfold fetchPlugin PluginHandler.getPlugin PluginService.getPlugin PluginRepository.get
  rw [if_pos (by decide)]
  cases hfails : e.fails with
  | true =>
    have hlost : (PluginStore.serve enc e s (.getPlugin team pluginTypeResend)).1 =
        .error .unavailable := by
      unfold PluginStore.serve
      rw [if_pos hfails]
      rfl
    simp only [ask, perform_bind, Program.call_bind, Program.run, List.headI_cons, hlost]
    rfl
  | false =>
    have hfound : (PluginStore.serve enc e s (.getPlugin team pluginTypeResend)).1 = .ok row := by
      simp only [PluginStore.serve, PluginStore.work, PluginStore.exec, hfails, hrow]
      rfl
    simp only [ask, perform_bind, Program.call_bind, Program.run, List.headI_cons, hfound,
      PluginRepository.decrypt, hm]
    rfl

/-- **The form of Resend**, whatever the page was given. -/
theorem form_resend (hrow : s.plugin? team pluginTypeResend = some row)
    (hm : enc.decrypt row.configEnc = .ok m) :
    x.form enc team pluginTypeResend s =
      { singleFields :=
          [("api_key", x.entered m "api_key"), ("sender_email", x.entered m "sender_email")]
        multiFields := [("recipient_emails", (x.edits.multi "recipient_emails").getD
          (Form.values ((x.shown m).value "recipient_emails")))]
        enabled := x.edits.enabled.getD (if x.get.fails then false else row.enabled) } := by
  unfold Session.form Session.entered Session.shown
  rw [fetchPlugin_resend hrow hm]
  split <;> rfl

theorem run_upsertPlugin (e e' : PluginEnv) (enabled : Bool) (config : ConfigMap) :
    (Program.run (PluginStore.serve enc) [e, e']
      (PluginHandler.upsertPlugin isAddress team pluginTypeResend ⟨enabled, some config⟩)
      s).2.2 =
      if (validateConfig isAddress pluginTypeResend config).isOk then
        if e.fails then s.pass e.elapsed
        else if e'.fails then (s.pass e.elapsed).pass e'.elapsed
        else ((s.pass e.elapsed).upsert team pluginTypeResend enabled
          (enc.encrypt e.nonce config)).2.pass e'.elapsed
      else s := by
  unfold PluginHandler.upsertPlugin PluginService.upsertPlugin PluginRepository.upsert
  rw [if_pos (by decide)]
  simp only
  cases validateConfig isAddress pluginTypeResend config with
  | error err => rfl
  | ok u =>
    cases hfails : e.fails with
    | true =>
      have hlost : PluginStore.serve enc e s (.encrypt config) =
          (.error (), s.pass e.elapsed) := if_pos hfails
      simp only [ask, perform_bind, Program.call_bind, Program.run, List.headI_cons, hlost]
      rfl
    | false =>
      have hsealed : PluginStore.serve enc e s (.encrypt config) =
          (.ok (enc.encrypt e.nonce config), s.pass e.elapsed) :=
        if_neg (by rw [hfails]; exact Bool.false_ne_true)
      simp only [ask, perform_bind, Program.call_bind, Program.run, List.headI_cons, List.tail_cons,
        hsealed]
      cases hfails' : e'.fails with
      | true =>
        have hlost : PluginStore.serve enc e' (s.pass e.elapsed)
            (.upsertPlugin team pluginTypeResend enabled (enc.encrypt e.nonce config)) =
              (.error .unavailable, (s.pass e.elapsed).pass e'.elapsed) := if_pos hfails'
        simp only [hlost]
        rfl
      | false =>
        have hstored : PluginStore.serve enc e' (s.pass e.elapsed)
            (.upsertPlugin team pluginTypeResend enabled (enc.encrypt e.nonce config)) =
              PluginStore.work enc e' (s.pass e.elapsed) _ :=
          if_neg (by rw [hfails']; exact Bool.false_ne_true)
        simp only [hstored]
        rfl

theorem value_sent_key : (x.sent m).value "api_key" = x.entered m "api_key" := by
  simp [ConfigMap.value, Session.sent, List.lookup_cons]

theorem value_sent_sender : (x.sent m).value "sender_email" = x.entered m "sender_email" := by
  simp [ConfigMap.value, Session.sent, List.lookup_cons]

theorem value_sent_recipients : (x.sent m).value "recipient_emails" =
    ",".intercalate ((x.edits.multi "recipient_emails").getD
      (Form.values ((x.shown m).value "recipient_emails"))) := by
  simp [ConfigMap.value, Session.sent]

/-- What the service asks of the map that is sent. -/
theorem validateConfig_sent : (validateConfig isAddress pluginTypeResend (x.sent m)).isOk ↔
    trimSpace (x.entered m "api_key") ≠ "" ∧ isAddress (x.entered m "sender_email") := by
  unfold validateConfig
  extract_lets
  rw [if_pos rfl, value_sent_key, value_sent_sender]
  split
  · rename_i hblank
    exact iff_of_false Bool.false_ne_true fun h => h.1 hblank
  · rename_i hkey
    split
    · rename_i haddress
      exact iff_of_true rfl ⟨hkey, haddress⟩
    · rename_i haddress
      exact iff_of_false Bool.false_ne_true fun h => haddress h.2

/-- **What a session makes of the row**: the switch and the entries of the form are saved if the
server takes them, and otherwise the row is as it was. -/
theorem plugin?_save (hrow : s.plugin? team pluginTypeResend = some row)
    (hm : enc.decrypt row.configEnc = .ok m) (x : Session) (t : PluginStore κ) :
    let s' := x.save enc isAddress team pluginTypeResend s t
    (x.GoesThrough isAddress pluginTypeResend m → ∃ row',
      s'.plugin? team pluginTypeResend = some row' ∧
      row'.enabled = x.edits.enabled.getD (if x.get.fails then false else row.enabled) ∧
      row'.configEnc = enc.encrypt x.encrypt.nonce (x.sent m)) ∧
    (¬ x.GoesThrough isAddress pluginTypeResend m →
      s'.plugin? team pluginTypeResend = t.plugin? team pluginTypeResend) := by
  intro s'
  have hfilled : (x.form enc team pluginTypeResend s).singlesFilled pluginTypeResend ↔
      jsTrim (x.entered m "api_key") ≠ "" ∧ jsTrim (x.entered m "sender_email") ≠ "" := by
    rw [form_resend hrow hm]
    simp [Form.singlesFilled, pluginFields, ConfigMap.value, List.lookup_cons]
  have hsent : (x.form enc team pluginTypeResend s).config = x.sent m := by
    rw [form_resend hrow hm]
    rfl
  have hsave : s' = if (x.form enc team pluginTypeResend s).singlesFilled pluginTypeResend then
      if (validateConfig isAddress pluginTypeResend (x.sent m)).isOk then
        if x.encrypt.fails then t.pass x.encrypt.elapsed
        else if x.upsert.fails then (t.pass x.encrypt.elapsed).pass x.upsert.elapsed
        else ((t.pass x.encrypt.elapsed).upsert team pluginTypeResend
          (x.edits.enabled.getD (if x.get.fails then false else row.enabled))
          (enc.encrypt x.encrypt.nonce (x.sent m))).2.pass x.upsert.elapsed
      else t
      else t := by
    show x.save enc isAddress team pluginTypeResend s t = _
    unfold Session.save Session.handleSave
    rw [run_upsertPlugin, hsent]
    rw [form_resend hrow hm]
  constructor
  · intro h
    rw [hsave, if_pos (hfilled.mpr ⟨h.key, h.sender⟩),
      if_pos (validateConfig_sent.mpr ⟨h.apiKey, h.address⟩),
      if_neg (by rw [h.encrypted]; exact Bool.false_ne_true),
      if_neg (by rw [h.stored]; exact Bool.false_ne_true)]
    exact PluginStore.plugin?_upsert_self _ _ _ _ _
  · intro h
    rw [hsave]
    split
    · rename_i hform
      obtain ⟨hkey, hsender⟩ := hfilled.mp hform
      split
      · rename_i hvalid
        obtain ⟨hapi, haddress⟩ := validateConfig_sent.mp hvalid
        split
        · rfl
        · rename_i hencrypted
          split
          · rfl
          · rename_i hstored
            exact absurd ⟨rfl, hkey, hsender, hapi, haddress, Bool.eq_false_iff.mpr hencrypted,
              Bool.eq_false_iff.mpr hstored⟩ h
      · rfl
    · rfl

/-- No other plugin is ever saved. -/
theorem save_of_ne (h : pluginType ≠ pluginTypeResend) (x : Session) (s t : PluginStore κ) :
    x.save enc isAddress team pluginType s t = t := by
  have hinvalid : ¬ isValidType pluginType := fun hvalid => h (of_decide_eq_true hvalid)
  unfold Session.save Session.handleSave PluginHandler.upsertPlugin
  rw [if_neg hinvalid]
  split <;> rfl

/-! ## The fields -/

theorem entered_key (hedit : x.edits.single "api_key" = none)
    (hkey : jsTrim (x.entered m "api_key") ≠ "") :
    x.entered m "api_key" = m.value "api_key" ↔
      maskKey (bytes (m.value "api_key")) = bytes (m.value "api_key") := by
  have hshown : x.entered m "api_key" = (x.shown m).value "api_key" := by
    unfold Session.entered
    rw [hedit, Option.getD_none]
  rw [hshown] at hkey ⊢
  unfold Session.shown at hkey ⊢
  split at hkey
  · exact absurd rfl hkey
  · rename_i hloaded
    rw [if_neg hloaded]
    unfold ConfigMap.value at hkey ⊢
    rw [lookup_maskConfig] at hkey ⊢
    cases hv : m.lookup "api_key" with
    | none =>
      rw [hv] at hkey
      exact absurd rfl hkey
    | some v => exact jsonText_maskKey v

theorem entered_sender (hedit : x.edits.single "sender_email" = none)
    (hsender : jsTrim (x.entered m "sender_email") ≠ "") :
    x.entered m "sender_email" = m.value "sender_email" := by
  have hshown : x.entered m "sender_email" = (x.shown m).value "sender_email" := by
    unfold Session.entered
    rw [hedit, Option.getD_none]
  rw [hshown] at hsender ⊢
  unfold Session.shown at hsender ⊢
  split at hsender
  · exact absurd rfl hsender
  · rename_i hloaded
    rw [if_neg hloaded, value_maskConfig_other m (by decide)]

/-- Recipients that were not entered. -/
theorem sent_recipients (hedit : x.edits.multi "recipient_emails" = none) :
    ResendEmailConfig.recipients ((x.sent m).value "recipient_emails") =
        ResendEmailConfig.recipients (m.value "recipient_emails") ↔
      if x.get.fails then ResendEmailConfig.recipients (m.value "recipient_emails") = []
      else ∀ p ∈ Text.split ',' (m.value "recipient_emails").toList,
        Text.trim goSpace (Text.trim jsSpace p) = Text.trim goSpace p := by
  rw [value_sent_recipients, hedit, Option.getD_none]
  unfold Session.shown
  split
  · exact eq_comm
  · rw [value_maskConfig_other m (by decide)]
    exact recipients_values _

theorem forall_resend_iff {edits : Edits} {m' : ConfigMap} :
    (∀ f ∈ pluginFields pluginTypeResend, edits.Leaves f → f.effective m' = f.effective m) ↔
      (edits.single "api_key" = none → m'.value "api_key" = m.value "api_key") ∧
      (edits.single "sender_email" = none → m'.value "sender_email" = m.value "sender_email") ∧
      (edits.multi "recipient_emails" = none →
        ResendEmailConfig.recipients (m'.value "recipient_emails") =
          ResendEmailConfig.recipients (m.value "recipient_emails")) := by
  simp [pluginFields, Edits.Leaves, FieldDef.effective]

theorem switch_iff {edited : Option Bool} {fails enabled : Bool} :
    (edited = none → edited.getD (if fails then false else enabled) = enabled) ↔
      (edited = none → fails → enabled = false) := by
  refine imp_congr_right ?_
  rintro rfl
  cases fails <;> cases enabled <;> decide

/-- If nothing was edited, the alert service goes on using what it used. -/
theorem resendConfig_of_kept {edits : Edits} {s' : PluginStore κ}
    (h : Kept enc team pluginTypeResend edits true m s') (henabled : edits.enabled = none)
    (hsingle : ∀ key, edits.single key = none) (hmulti : ∀ key, edits.multi key = none) :
    s'.resendConfig enc team = some (ResendEmailConfig.ofMap m) := by
  obtain ⟨row, m', hrow, hm', hswitch, hfields⟩ := h
  obtain ⟨hkey, hsender, hrecipients⟩ := forall_resend_iff.mp hfields
  have hofMap : ResendEmailConfig.ofMap m' = ResendEmailConfig.ofMap m := by
    unfold ResendEmailConfig.ofMap
    rw [hkey (hsingle _), hsender (hsingle _), hrecipients (hmulti _)]
  unfold PluginStore.resendConfig PluginStore.config?
  rw [hrow]
  simp only
  rw [if_pos (hswitch henabled), hm', ← hofMap]
  rfl

/-! ## The law -/

/-- **Saving a plugin without editing a field keeps that field exactly if** the save does not
go through or does no harm.  Between loading and saving, nothing changes the row. -/
theorem kept_iff (hrow : s.plugin? team pluginType = some row)
    (hm : enc.decrypt row.configEnc = .ok m) (ht : t.plugin? team pluginType = some row)
    (x : Session) :
    Kept enc team pluginType x.edits row.enabled m (x.save enc isAddress team pluginType s t) ↔
      (x.GoesThrough isAddress pluginType m → x.Harmless row.enabled m) := by
  by_cases hthrough : x.GoesThrough isAddress pluginType m
  · obtain rfl := hthrough.resend
    obtain ⟨row', hrow', henabled, hconfig⟩ := (plugin?_save hrow hm x t).1 hthrough
    obtain ⟨m', hm', hlookup⟩ := enc.decrypt_encrypt x.encrypt.nonce (x.sent m)
    have hvalue := ConfigMap.value_congr hlookup
    rw [← hconfig] at hm'
    constructor
    · rintro ⟨row'', m'', hrow'', hm'', hswitch, hfields⟩ -
      obtain rfl := Option.some.inj (hrow'.symm.trans hrow'')
      obtain rfl := Except.ok.inj (hm'.symm.trans hm'')
      obtain ⟨hkey, -, hrecipients⟩ := forall_resend_iff.mp hfields
      rw [henabled] at hswitch
      rw [hvalue, value_sent_key] at hkey
      rw [hvalue] at hrecipients
      exact
        { key := fun hedit => (entered_key hedit hthrough.key).mp (hkey hedit)
          recipients := fun hedit => (sent_recipients hedit).mp (hrecipients hedit)
          enabled := switch_iff.mp hswitch }
    · intro h
      have hharmless := h hthrough
      refine ⟨row', m', hrow', hm', ?_, forall_resend_iff.mpr ⟨fun hedit => ?_, fun hedit => ?_,
        fun hedit => ?_⟩⟩
      · rw [henabled]
        exact switch_iff.mpr hharmless.enabled
      · rw [hvalue, value_sent_key]
        exact (entered_key hedit hthrough.key).mpr (hharmless.key hedit)
      · rw [hvalue, value_sent_sender]
        exact entered_sender hedit hthrough.sender
      · rw [hvalue]
        exact (sent_recipients hedit).mpr (hharmless.recipients hedit)
  · refine iff_of_true ⟨row, m, ?_, hm, fun _ => rfl, fun f _ _ => rfl⟩ fun h => absurd h hthrough
    by_cases htype : pluginType = pluginTypeResend
    · subst htype
      exact ((plugin?_save hrow hm x t).2 hthrough).trans ht
    · rw [save_of_ne htype]
      exact ht

namespace Sample

/-- The team has saved a configuration with the given key. -/
def configured (apiKey : String) : PluginStore (ℕ × ConfigMap) :=
  { noPlugins with plugins := [⟨1, 9, "resend", true, (0, configMap apiKey), 0, 0⟩], nextID := 2 }

/-- Nothing fails, and nothing is edited but the key, which may be entered anew. -/
def visit (apiKey : Option String) : Session :=
  ⟨default, ⟨fun key => if key = "api_key" then apiKey else none, fun _ => none, none⟩, default,
    default⟩

end Sample

/-- The user enters a new key; the sender, the recipients and the switch stay as they are. -/
theorem kept_iff_sample :
    Kept Sample.encryptor 9 "resend" (Sample.visit (some "re_new")).edits true
      (Sample.configMap "re_0123456789")
      ((Sample.visit (some "re_new")).save Sample.encryptor Sample.isAddress 9 "resend"
        (Sample.configured "re_0123456789") (Sample.configured "re_0123456789")) := by
  have hrow : (Sample.configured "re_0123456789").plugin? 9 "resend" =
      some ⟨1, 9, "resend", true, (0, Sample.configMap "re_0123456789"), 0, 0⟩ := rfl
  refine (kept_iff hrow rfl hrow _).mpr fun _ => ⟨nofun, fun _ => ?_, nofun⟩
  decide

/-- **The mask is saved as the key.**  Somebody opens the page and presses Save, and from then
on the emails go out with a key that is half stars. -/
theorem not_kept :
    ((Sample.visit none).save Sample.encryptor Sample.isAddress 9 "resend"
      (Sample.configured "re_0123456789") (Sample.configured "re_0123456789")).resendConfig
        Sample.encryptor 9 = some ⟨"re_0*****6789", "sofon@example.org", ["ops@example.org"]⟩ ∧
    ¬ Kept Sample.encryptor 9 "resend" (Sample.visit none).edits true
      (Sample.configMap "re_0123456789")
      ((Sample.visit none).save Sample.encryptor Sample.isAddress 9 "resend"
        (Sample.configured "re_0123456789") (Sample.configured "re_0123456789")) := by
  have hsaved : ((Sample.visit none).save Sample.encryptor Sample.isAddress 9 "resend"
      (Sample.configured "re_0123456789") (Sample.configured "re_0123456789")).resendConfig
        Sample.encryptor 9 =
      some ⟨"re_0*****6789", "sofon@example.org", ["ops@example.org"]⟩ := by decide
  refine ⟨hsaved, fun hkept => ?_⟩
  have hsame := resendConfig_of_kept hkept rfl (fun _ => ite_self _) fun _ => rfl
  rw [hsaved] at hsame
  revert hsame
  decide

end Sofon
