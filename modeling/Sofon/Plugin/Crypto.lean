import Sofon.Foundations.Base64
import Sofon.Foundations.Json
import Sofon.Foundations.Utf8
import Sofon.Plugin.Config
import Mathlib.Data.List.Dedup

/-!
# How a configuration is stored

`pkg/crypto` and the JSON around it: a configuration is written as JSON, sealed with AES-GCM
under the key of the instance, and stored in base 64 behind its nonce.

Of AES-GCM there is what the code relies on: what was sealed under a nonce is opened under
it.  That makes an `Encryptor` (`encryptor`), and the round trip has three parts.

* The bytes behind the first twelve are the sealed text, and the nonce is those twelve
  (`decrypt_encrypt`).
* A map is written with each key once and its keys in order, whatever order it had, and is read
  as it was written (`unmarshal_marshal`).
* So looking up a key in what is read gives what it gave before, which is all that the alert
  service does with a configuration.
-/

namespace Sofon

/-- `cipher.AEAD`, as `cipher.NewGCM` makes it with the key. -/
structure GCM where
  sealBytes : List UInt8 → List UInt8 → List UInt8
  openBytes : List UInt8 → List UInt8 → Option (List UInt8)
  open_seal : ∀ nonce plaintext, nonce.length = 12 →
    openBytes nonce (sealBytes nonce plaintext) = some plaintext

namespace Crypto

/-- The twelve bytes that are read from `rand.Reader`. -/
def nonceBytes (nonce : ℕ) : List UInt8 :=
  (List.range 12).map fun i => UInt8.ofNat (nonce / 256 ^ i)

/-- `Encryptor.Encrypt` -/
def encrypt (gcm : GCM) (nonce : ℕ) (plaintext : String) : String :=
  let sealed := nonceBytes nonce ++
    gcm.sealBytes (nonceBytes nonce) (Utf8.encode plaintext.toList)
  String.ofList (Base64.encode sealed)

/-- `Encryptor.Decrypt` -/
def decrypt (gcm : GCM) (ciphertext : String) : Option String := do
  let raw ← Base64.decode ciphertext.toList
  if raw.length < 12 then none
  else
    let plaintext ← gcm.openBytes (raw.take 12) (raw.drop 12)
    return String.ofList (Utf8.lossy plaintext)

theorem length_nonceBytes (nonce : ℕ) : (nonceBytes nonce).length = 12 := by
  rw [nonceBytes, List.length_map, List.length_range]

/-- **What has been encrypted is decrypted.** -/
theorem decrypt_encrypt (gcm : GCM) (nonce : ℕ) (plaintext : String) :
    decrypt gcm (encrypt gcm nonce plaintext) = some plaintext := by
  have hnonce := length_nonceBytes nonce
  unfold decrypt encrypt
  rw [String.toList_ofList, Base64.decode_encode]
  simp only [Option.bind_eq_bind, Option.bind_some]
  rw [if_neg (by rw [List.length_append, hnonce]; omega), List.take_left' hnonce,
    List.drop_left' hnonce, gcm.open_seal _ _ hnonce, Option.bind_some, Utf8.lossy_encode,
    String.ofList_toList]
  rfl

end Crypto

namespace ConfigMap

/-- The entries of the map, each key once and in order. -/
def entries (m : ConfigMap) : ConfigMap :=
  ((m.map Prod.fst).dedup.mergeSort fun a b => a ≤ b).map fun key => (key, m.value key)

/-- `json.Marshal(configMap)` -/
def marshal (m : ConfigMap) : String :=
  String.ofList (Json.object (m.entries.map fun (key, v) => (key.toList, v.toList)))

/-- One member of the object that a map is read from: `null` is no text. -/
def entry : List Char × Json → Option (String × String)
  | (key, .str v) => some (String.ofList key, String.ofList v)
  | (key, .null) => some (String.ofList key, "")
  | _ => none

/-- `json.Unmarshal([]byte(plain), &m)`: of members with one key the last one counts. -/
def unmarshal (plain : String) : Option ConfigMap := do
  match ← Json.parse plain.toList with
  | .null => some []
  | .obj ms => (ms.mapM entry).map List.reverse
  | _ => none

/-- A list of keys with their values, looked up. -/
theorem lookup_map_prodMk (f : String → String) (keys : List String) (key : String) :
    (keys.map fun k => (k, f k)).lookup key = if key ∈ keys then some (f key) else none := by
  induction keys with
  | nil => rfl
  | cons k keys ih =>
    rw [List.map_cons, List.lookup_cons]
    by_cases hk : key = k
    · subst hk
      simp
    · rw [beq_eq_false_iff_ne.mpr hk, ih]
      simp [hk]

/-- A key has a value exactly if it is among the keys. -/
theorem lookup_eq_ite (m : ConfigMap) (key : String) :
    m.lookup key = if key ∈ m.map Prod.fst then some (m.value key) else none := by
  unfold value
  cases hm : m.lookup key with
  | none =>
    rw [List.lookup_eq_none_iff] at hm
    refine (if_neg fun hmem => ?_).symm
    obtain ⟨x, hx, rfl⟩ := List.mem_map.mp hmem
    exact absurd (hm x hx) (by simp)
  | some v =>
    obtain ⟨l₁, l₂, rfl, -⟩ := List.lookup_eq_some_iff.mp hm
    exact (if_pos (by simp)).symm

/-- **A map is read as it was written.** -/
theorem unmarshal_marshal (m : ConfigMap) :
    ∃ m', unmarshal m.marshal = some m' ∧ ∀ key, m'.lookup key = m.lookup key := by
  have hmembers : ∀ l : ConfigMap, (l.map fun x => (x.1.toList, Json.str x.2.toList)).mapM entry =
      some l := by
    intro l
    induction l with
    | nil => rfl
    | cons x l ih =>
      rw [List.map_cons, List.mapM_cons, ih, entry, String.ofList_toList, String.ofList_toList]
      rfl
  have hparse : Json.parse m.marshal.toList =
      some (.obj (m.entries.map fun x => (x.1.toList, Json.str x.2.toList))) := by
    rw [marshal, String.toList_ofList]
    cases hentries : m.entries with
    | nil => rfl
    | cons x l =>
      rw [Json.parse_object (by simp), List.map_map]
      rfl
  refine ⟨m.entries.reverse, ?_, fun key => ?_⟩
  · unfold unmarshal
    rw [hparse]
    show ((m.entries.map _).mapM entry).map List.reverse = _
    rw [hmembers, Option.map_some]
  · rw [entries, ← List.map_reverse, lookup_map_prodMk, lookup_eq_ite]
    refine if_congr ?_ rfl rfl
    rw [List.mem_reverse, List.mem_mergeSort, List.mem_dedup]

end ConfigMap

/-- `crypto.Encryptor` with the JSON that `Repository.Upsert` and `Repository.decrypt` make
and read. -/
def encryptor (gcm : GCM) : Encryptor String where
  encrypt nonce m := Crypto.encrypt gcm nonce m.marshal
  decrypt configEnc :=
    match Crypto.decrypt gcm configEnc with
    | none => .error .decrypt
    | some plain =>
      match ConfigMap.unmarshal plain with
      | none => .error .decode
      | some m => .ok m
  decrypt_encrypt nonce m := by
    obtain ⟨m', hm', hlookup⟩ := m.unmarshal_marshal
    refine ⟨m', ?_, hlookup⟩
    rw [Crypto.decrypt_encrypt]
    simp only
    rw [hm']

end Sofon
