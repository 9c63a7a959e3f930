import Sofon.Foundations.Utf8
import Sofon.Plugin.Service

/-!
# The plugin handler

`plugin.Handler`, as far as the page of one plugin calls it.  A request arrives here after
`TeamAccessMiddleware` has settled the team and the body has been decoded.

The key of a configuration is masked before it is sent.  The mask is cut out of the bytes of
the key, so it may cut a character in two; what encodes the response then puts replacement
characters in.
-/

namespace Sofon

open Interleaving

/-- `plugin.UpsertPluginRequest` -/
structure UpsertPluginRequest where
  enabled : Bool
  config : Option ConfigMap

/-- `plugin.PluginResponse`, as it is read at the other end; the id and the time are left as
they are. -/
structure PluginResponse where
  id : UUID
  type : String
  enabled : Bool
  config : ConfigMap
  updatedAt : ℤ

def isValidType (t : String) : Bool := t = pluginTypeResend

def toResponse (p : Plugin) (config : ConfigMap) : PluginResponse :=
  ⟨p.id, p.type, p.enabled, config, p.updatedAt⟩

/-- The bytes of a text. -/
def bytes (s : String) : List UInt8 := Utf8.encode s.toList

/-- The text that is read from a response into which these bytes have been written. -/
def jsonText (b : List UInt8) : String := String.ofList (Utf8.lossy b)

def maskKey (key : List UInt8) : List UInt8 :=
  if key.length ≤ 8 then bytes "****"
  else key.take 4 ++ List.replicate (key.length - 8) '*'.toUInt8 ++ key.drop (key.length - 4)

/-- `maskConfig`, as it is read at the other end. -/
def maskConfig (m : ConfigMap) : ConfigMap :=
  m.map fun (k, v) => (k, if k = "api_key" then jsonText (maskKey (bytes v)) else v)

namespace PluginHandler

variable {κ : Type}

/-- `Handler.GetPlugin` -/
def getPlugin (enc : Encryptor κ) (team : UUID) (pluginType : String) :
    PluginProg κ (Except ErrorBody PluginResponse) :=
  if isValidType pluginType then do
    match ← PluginService.getPlugin enc team pluginType with
    | .ok (p, configMap) => pure (.ok (toResponse p (maskConfig configMap)))
    | .error err => pure (.error err.body)
  else pure (.error ⟨400, .invalidInput, "unsupported plugin type"⟩)

/-- `Handler.UpsertPlugin` -/
def upsertPlugin (isAddress : String → Bool) (team : UUID) (pluginType : String)
    (req : UpsertPluginRequest) : PluginProg κ (Except ErrorBody PluginResponse) :=
  if isValidType pluginType then
    match req.config with
    | none => pure (.error ⟨400, .invalidInput, "config is required"⟩)
    | some config => do
      match ← PluginService.upsertPlugin isAddress team pluginType req.enabled config with
      | .ok p => pure (.ok (toResponse p []))
      | .error err => pure (.error err.body)
  else pure (.error ⟨400, .invalidInput, "unsupported plugin type"⟩)

end PluginHandler

/-! ## The mask -/

theorem bytes_injective {s t : String} (h : bytes s = bytes t) : s = t :=
  String.toList_inj.mp (Utf8.encode_injective h)

/-- A mask of more than eight bytes is as long as the key. -/
theorem length_maskKey {key : List UInt8} (h : 8 < key.length) :
    (maskKey key).length = key.length := by
  unfold maskKey
  rw [if_neg (by omega), List.length_append, List.length_append, List.length_take,
    List.length_replicate, List.length_drop]
  omega

/-- **A key is shown as it is exactly if it is its own mask**: what is lost between the mask
and the page never makes up for it. -/
theorem jsonText_maskKey (key : String) :
    jsonText (maskKey (bytes key)) = key ↔ maskKey (bytes key) = bytes key := by
  have hread (b : List UInt8) (hlen : b.length = (bytes key).length) :
      jsonText b = key ↔ b = bytes key := by
    unfold bytes at hlen ⊢
    rw [← Utf8.lossy_eq_iff hlen, ← String.toList_inj, jsonText, String.toList_ofList]
  by_cases hlong : 8 < (bytes key).length
  · exact hread _ (length_maskKey hlong)
  · have hmask : maskKey (bytes key) = bytes "****" := if_pos (Nat.le_of_not_lt hlong)
    have hstars : jsonText (bytes "****") = "****" := by
      rw [jsonText, bytes, Utf8.lossy_encode, String.ofList_toList]
    rw [hmask, hstars]
    exact ⟨congrArg bytes, bytes_injective⟩

theorem lookup_maskConfig (m : ConfigMap) (key : String) :
    (maskConfig m).lookup key = (m.lookup key).map fun v =>
      if key = "api_key" then jsonText (maskKey (bytes v)) else v := by
  unfold maskConfig
  induction m with
  | nil => rfl
  | cons entry m ih =>
    obtain ⟨k, v⟩ := entry
    rw [List.map_cons, List.lookup_cons, List.lookup_cons]
    by_cases hk : key = k
    · subst hk
      rw [beq_self_eq_true]
      rfl
    · rw [beq_eq_false_iff_ne.mpr hk]
      exact ih

theorem value_maskConfig_other (m : ConfigMap) {key : String} (h : key ≠ "api_key") :
    (maskConfig m).value key = m.value key := by
  unfold ConfigMap.value
  rw [lookup_maskConfig]
  cases m.lookup key with
  | none => rfl
  | some v => exact if_neg h

end Sofon
