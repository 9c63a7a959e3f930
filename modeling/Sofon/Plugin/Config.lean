import Sofon.AppError
import Sofon.Foundations.Text

/-!
# Plugin configurations

What a team configures for a plugin is a map from names to texts.  `validateConfig` decides
what may be saved; the alert service reads a typed configuration out of the map, with the
recipients taken from a text with commas.

A configuration is stored encoded as JSON and encrypted.  Nothing but the
`Encryptor` looks at what is stored, so its type is a parameter, and all that is known of it
is that decrypting what was encrypted gives the map back.
-/

namespace Sofon

/-- A `map[string]string`, as its entries; the first one under a key counts. -/
abbrev ConfigMap := List (String × String)

/-- `m[key]`, which is empty where there is no entry. -/
def ConfigMap.value (m : ConfigMap) (key : String) : String := (m.lookup key).getD ""

/-- `plugin.PluginTypeResend` -/
def pluginTypeResend : String := "resend"

/-- `plugin.PluginTypeZenduty` -/
def pluginTypeZenduty : String := "zenduty"

/-- `unicode.IsSpace` -/
def goSpace (c : Char) : Bool :=
  (9 ≤ c.toNat && c.toNat ≤ 13) || c.toNat = 0x20 || c.toNat = 0x85 || c.toNat = 0xA0 ||
    c.toNat = 0x1680 || (0x2000 ≤ c.toNat && c.toNat ≤ 0x200A) || c.toNat = 0x2028 ||
    c.toNat = 0x2029 || c.toNat = 0x202F || c.toNat = 0x205F || c.toNat = 0x3000

/-- `strings.TrimSpace` -/
def trimSpace (s : String) : String := String.ofList (Text.trim goSpace s.toList)

/-- `alert.ResendEmailConfig` -/
structure ResendEmailConfig where
  apiKey : String
  senderEmail : String
  recipientEmails : List String
  deriving DecidableEq

/-- `alert.ZendutyConfig` -/
structure ZendutyConfig where
  integrationURL : String
  deriving DecidableEq

namespace ResendEmailConfig

/-- The trimmed pieces between the commas that are not empty. -/
def recipients (raw : String) : List String :=
  if raw = "" then [] else (Text.fields goSpace ',' raw.toList).map String.ofList

/-- What `GetResendConfig` reads out of the map. -/
def ofMap (m : ConfigMap) : ResendEmailConfig :=
  ⟨m.value "api_key", m.value "sender_email", recipients (m.value "recipient_emails")⟩

/-- The recipients of an email: those configured, or else the sender. -/
def addressees (cfg : ResendEmailConfig) : List String :=
  if cfg.recipientEmails = [] && cfg.senderEmail ≠ "" then [cfg.senderEmail]
  else cfg.recipientEmails

end ResendEmailConfig

/-- What `GetZendutyConfig` reads out of the map. -/
def ZendutyConfig.ofMap (m : ConfigMap) : ZendutyConfig := ⟨m.value "integration_url"⟩

/-- `validateConfig`, given which texts `mail.ParseAddress` accepts. -/
def validateConfig (isAddress : String → Bool) (pluginType : String) (config : ConfigMap) :
    Except AppError Unit :=
  let op := "service.plugin.validate"
  if pluginType = pluginTypeResend then
    if trimSpace (config.value "api_key") = "" then
      .error ⟨.invalidInput, op, "resend api_key is required"⟩
    else if isAddress (config.value "sender_email") then .ok ()
    else .error ⟨.invalidInput, op, "sender_email must be a valid email address"⟩
  else .error ⟨.invalidInput, op, "unsupported plugin type"⟩

/-- Why a stored configuration cannot be read. -/
inductive Unreadable where
  | decrypt
  | decode

/-- `crypto.Encryptor`, together with the JSON encoding of the maps it is given; each
encryption draws a nonce. -/
structure Encryptor (κ : Type) where
  encrypt : ℕ → ConfigMap → κ
  decrypt : κ → Except Unreadable ConfigMap
  decrypt_encrypt : ∀ nonce m, ∃ m', decrypt (encrypt nonce m) = .ok m' ∧
    ∀ key, m'.lookup key = m.lookup key

/-- No text has no pieces, so it needs no case of its own. -/
theorem recipients_eq (raw : String) :
    ResendEmailConfig.recipients raw =
      (Text.fields goSpace ',' raw.toList).map String.ofList := by
  unfold ResendEmailConfig.recipients
  split
  · rename_i hraw
    rw [hraw]
    rfl
  · rfl

/-- Maps with the same entries have the same values. -/
theorem ConfigMap.value_congr {m m' : ConfigMap} (h : ∀ key, m'.lookup key = m.lookup key)
    (key : String) : m'.value key = m.value key := by
  unfold value
  rw [h]

end Sofon
