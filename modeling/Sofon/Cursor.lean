import Sofon.Domain
import Sofon.Foundations.Base64
import Sofon.Foundations.Json
import Sofon.Foundations.Rfc3339
import Sofon.Foundations.Utf8

/-!
# Cursors

`monitor/cursor.go` and `incident/cursor.go`, which differ in the names of two fields: a
cursor is a time and an id, as JSON and then in base 64.

The round trip is that of its parts, each in a module of its own.  Base 64 is undone byte by
byte, the bytes are those of a text, the text is an object with two strings, and the first of
them is a time in RFC 3339 (`decodeCursor_encodeCursor`).  All of them hold for every cursor but
the last: a year has four digits, and of any other year nothing is read back
(`decodeCursor_encodeCursor_eq_none`).

* The alphabet is that of base 64, whatever the cursor (`alphabet_of_mem_encodeCursor`).
* A cursor of the other list has its fields under other names.  `json.Unmarshal` goes by names
  that agree up to letter case, and none of them does, so both texts are empty and no time is
  read (`decodeCursor_eq_none_of_names`).
-/

namespace Sofon

/-- `uuid.UUID.String` and `uuid.Parse`, as far as the code relies on them. -/
structure UUIDText where
  string : UUID → String
  parse : String → Option UUID
  parse_string : ∀ id, parse (string id) = some id
  string_ne_empty : ∀ id, string id ≠ ""

/-- The digits of the number at the end, and zeros before them. -/
def Sample.uuids : UUIDText where
  string id := String.ofList ("00000000-0000-0000-0000-00000000000".toList ++
    Rfc3339.pad (if id < 10 then 1 else id) id)
  parse s := some (Rfc3339.value (s.toList.drop 35))
  parse_string id := by
    have hwidth : id < 10 ^ (if id < 10 then 1 else id) := by
      split
      · assumption
      · exact Nat.lt_pow_self (by decide)
    have hlength : "00000000-0000-0000-0000-00000000000".toList.length = 35 := by decide
    rw [String.toList_ofList, List.drop_left' hlength, Rfc3339.value_pad _ _ hwidth]
  string_ne_empty id := by
    rw [Ne, ← String.toList_eq_nil_iff, String.toList_ofList]
    exact List.append_ne_nil_of_left_ne_nil (by decide) _

/-- `monitor.Cursor` and `incident.Cursor` -/
structure Cursor where
  time : Time
  id : String
  deriving DecidableEq

/-! ## `json.Unmarshal` into two fields -/

/-- `foldRune`: letters that differ in case alone are one letter, as are the two that have an
ASCII letter for a variant. -/
def foldRune (c : Char) : Char :=
  if c.toNat = 0x17F then 's' else if c.toNat = 0x212A then 'k' else c.toLower

/-- Is this the field that a key is for? -/
def isField (name key : List Char) : Bool := key.map foldRune = name.map foldRune

/-- The text of a field after a value for it. -/
def assign (old : List Char) : Json → Option (List Char)
  | .str s => some s
  | .null => some old
  | _ => none

/-- The texts of two fields of a struct after `json.Unmarshal`. -/
def unmarshal (name name' : List Char) : Json → Option (List Char × List Char)
  | .null => some ([], [])
  | .obj ms => ms.foldlM (fun fields m =>
      if isField name m.1 then (assign fields.1 m.2).map fun s => (s, fields.2)
      else if isField name' m.1 then (assign fields.2 m.2).map fun s => (fields.1, s)
      else some fields) ([], [])
  | _ => none

/-! ## The two packages -/

/-- `EncodeCursor`, with the names of the two fields of its `cursorPayload` -/
def encodeCursor (timeName idName : List Char) (c : Cursor) : String :=
  let raw := Json.object [(timeName, Rfc3339.format c.time), (idName, c.id.toList)]
  String.ofList (Base64.encode (Utf8.encode raw))

/-- `DecodeCursor`, with the names of the two fields of its `cursorPayload` -/
def decodeCursor (timeName idName : List Char) (v : String) : Option Cursor := do
  let raw ← Base64.decode v.toList
  let j ← Json.parse (Utf8.lossy raw)
  let (time, id) ← unmarshal timeName idName j
  if time = [] ∨ id = [] then none
  else
    let t ← Rfc3339.parse time
    return ⟨t, String.ofList id⟩

namespace MonitorCursor

/-- `monitor.EncodeCursor` -/
def encode : Cursor → String := encodeCursor ['c'] ['m']

/-- `monitor.DecodeCursor` -/
def decode : String → Option Cursor := decodeCursor ['c'] ['m']

end MonitorCursor

namespace IncidentCursor

/-- `incident.EncodeCursor` -/
def encode : Cursor → String := encodeCursor ['s'] ['i']

/-- `incident.DecodeCursor` -/
def decode : String → Option Cursor := decodeCursor ['s'] ['i']

end IncidentCursor

/-- What is decoded is what the time is read as, with the id. -/
theorem decodeCursor_encodeCursor_eq {timeName idName : List Char} {c : Cursor}
    (hnames : isField timeName idName = false) (hid : c.id ≠ "") :
    decodeCursor timeName idName (encodeCursor timeName idName c) =
      (Rfc3339.parse (Rfc3339.format c.time)).map fun t => ⟨t, c.id⟩ := by
  have htime : Rfc3339.format c.time ≠ [] := by
    unfold Rfc3339.format
    exact List.append_ne_nil_of_right_ne_nil _ (List.cons_ne_nil _ _)
  have hid' : c.id.toList ≠ [] := fun h => hid (String.toList_eq_nil_iff.mp h)
  have hself (name : List Char) : isField name name := decide_eq_true rfl
  have hfields : unmarshal timeName idName
      (.obj [(timeName, .str (Rfc3339.format c.time)), (idName, .str c.id.toList)]) =
        some (Rfc3339.format c.time, c.id.toList) := by
    simp [unmarshal, hself, hnames, assign]
  unfold decodeCursor encodeCursor
  simp only [String.toList_ofList, Option.bind_eq_bind, Base64.decode_encode, Option.bind_some,
    Utf8.lossy_encode, Json.parse_object (List.cons_ne_nil _ _), List.map_cons, List.map_nil,
    hfields]
  rw [if_neg (not_or.mpr ⟨htime, hid'⟩), String.ofList_toList, Option.map_eq_bind]
  rfl

/-- **A cursor is decoded to what was encoded**, if the year of its time has four digits. -/
theorem decodeCursor_encodeCursor {timeName idName : List Char} {c : Cursor}
    (hnames : isField timeName idName = false) (hid : c.id ≠ "")
    (h₀ : 0 ≤ Rfc3339.year c.time) (h₁ : Rfc3339.year c.time ≤ 9999) :
    decodeCursor timeName idName (encodeCursor timeName idName c) = some c := by
  rw [decodeCursor_encodeCursor_eq hnames hid, Rfc3339.parse_format h₀ h₁, Option.map_some]

/-- **No other cursor is decoded.**  A year that has not four digits is written with more of them or
with a sign, and that is no text of RFC 3339. -/
theorem decodeCursor_encodeCursor_eq_none {timeName idName : List Char} {c : Cursor}
    (hnames : isField timeName idName = false) (hid : c.id ≠ "")
    (h : ¬(0 ≤ Rfc3339.year c.time ∧ Rfc3339.year c.time ≤ 9999)) :
    decodeCursor timeName idName (encodeCursor timeName idName c) = none := by
  rw [decodeCursor_encodeCursor_eq hnames hid, Rfc3339.parse_format_eq_none h, Option.map_none]

/-- The text of a cursor is not empty. -/
theorem encodeCursor_ne_empty (timeName idName : List Char) (c : Cursor) :
    encodeCursor timeName idName c ≠ "" := by
  rw [Ne, ← String.toList_eq_nil_iff, encodeCursor, String.toList_ofList]
  exact Base64.encode_ne_nil (Utf8.encode_ne_nil (List.cons_ne_nil _ _))

/-- A cursor is written in the alphabet of base 64. -/
theorem exists_char_of_mem_encodeCursor {timeName idName : List Char} {c : Cursor} {x : Char}
    (hx : x ∈ (encodeCursor timeName idName c).toList) : ∃ d < 64, Base64.char d = x := by
  rw [encodeCursor, String.toList_ofList] at hx
  exact Base64.exists_char_of_mem_encode hx

/-- A cursor is written in characters that are safe in a URL. -/
theorem alphabet_of_mem_encodeCursor {timeName idName : List Char} {c : Cursor} {x : Char}
    (hx : x ∈ (encodeCursor timeName idName c).toList) : x.isAlphanum ∨ x = '-' ∨ x = '_' := by
  obtain ⟨d, hd, rfl⟩ := exists_char_of_mem_encodeCursor hx
  exact Base64.char_alphabet d hd

/-- **A cursor whose fields have other names is rejected**: both texts stay empty. -/
theorem decodeCursor_eq_none_of_names {timeName idName timeName' idName' : List Char}
    (htime : isField timeName timeName' = false ∧ isField idName timeName' = false)
    (hid : isField timeName idName' = false ∧ isField idName idName' = false) (c : Cursor) :
    decodeCursor timeName idName (encodeCursor timeName' idName' c) = none := by
  unfold decodeCursor encodeCursor
  simp only [String.toList_ofList, Option.bind_eq_bind, Base64.decode_encode, Option.bind_some,
    Utf8.lossy_encode, Json.parse_object (List.cons_ne_nil _ _)]
  simp only [List.map_cons, List.map_nil, unmarshal, List.foldlM_cons, List.foldlM_nil, htime.1,
    htime.2, hid.1, hid.2, Bool.false_eq_true, if_false]
  rfl

/-- **Cursors decode to what was encoded**, in both packages, for an id that is not empty and
a year of four digits; their texts are safe in a URL; and neither package takes a text of the
other. -/
theorem cursors_decode (c : Cursor) (hid : c.id ≠ "") (h₀ : 0 ≤ Rfc3339.year c.time)
    (h₁ : Rfc3339.year c.time ≤ 9999) :
    (MonitorCursor.decode (MonitorCursor.encode c) = some c ∧
      IncidentCursor.decode (IncidentCursor.encode c) = some c) ∧
    (∀ x ∈ (MonitorCursor.encode c).toList ++ (IncidentCursor.encode c).toList,
      x.isAlphanum ∨ x = '-' ∨ x = '_') ∧
    ∀ c' : Cursor, MonitorCursor.decode (IncidentCursor.encode c') = none ∧
      IncidentCursor.decode (MonitorCursor.encode c') = none := by
  refine ⟨⟨?_, ?_⟩, fun x hx => ?_, fun c' => ⟨?_, ?_⟩⟩
  · exact decodeCursor_encodeCursor (by decide) hid h₀ h₁
  · exact decodeCursor_encodeCursor (by decide) hid h₀ h₁
  · rcases List.mem_append.mp hx with hx | hx
    · exact alphabet_of_mem_encodeCursor hx
    · exact alphabet_of_mem_encodeCursor hx
  · exact decodeCursor_eq_none_of_names ⟨by decide, by decide⟩ ⟨by decide, by decide⟩ c'
  · exact decodeCursor_eq_none_of_names ⟨by decide, by decide⟩ ⟨by decide, by decide⟩ c'

/-- The epoch, and an id with a quote in it. -/
theorem cursors_decode_sample :
    MonitorCursor.decode (MonitorCursor.encode ⟨0, "a\"b"⟩) = some ⟨0, "a\"b"⟩ :=
  (cursors_decode ⟨0, "a\"b"⟩ (by decide) (by decide) (by decide)).1.1

end Sofon
