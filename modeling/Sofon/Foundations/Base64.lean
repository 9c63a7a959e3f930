import Mathlib.Data.List.Basic

/-!
# Base64

Bytes as text, in the alphabet that is safe in a URL and without padding.  Three bytes make
four digits; one or two bytes that are left over make two or three.

Decoding skips line ends, and does not look at the bits of the last digit that belong to no
byte.  It takes back what encoding has made (`decode_encode`).

Bytes and digits are numbers, and characters stand for digits.  The two layers are undone one
after the other: that digits and characters correspond is a table of 64 entries
(`digit?_char`), and that bytes come back from their digits is arithmetic, by induction in steps
of three bytes (`bytes_digits`).  No digit is written as a line end, so decoding skips nothing of
what was encoded.
-/

namespace Base64

/-- The character of a digit. -/
def char (d : ℕ) : Char :=
  if d < 26 then Char.ofNat (65 + d)
  else if d < 52 then Char.ofNat (71 + d)
  else if d < 62 then Char.ofNat (d - 4)
  else if d = 62 then '-'
  else '_'

/-- The digit of a character. -/
def digit? (c : Char) : Option ℕ :=
  if 65 ≤ c.toNat ∧ c.toNat ≤ 90 then some (c.toNat - 65)
  else if 97 ≤ c.toNat ∧ c.toNat ≤ 122 then some (c.toNat - 71)
  else if 48 ≤ c.toNat ∧ c.toNat ≤ 57 then some (c.toNat + 4)
  else if c = '-' then some 62
  else if c = '_' then some 63
  else none

/-- The digits of some bytes. -/
def digits : List UInt8 → List ℕ
  | a :: b :: c :: rest =>
    a.toNat / 4 :: (a.toNat % 4 * 16 + b.toNat / 16) :: (b.toNat % 16 * 4 + c.toNat / 64) ::
      c.toNat % 64 :: digits rest
  | [a, b] => [a.toNat / 4, a.toNat % 4 * 16 + b.toNat / 16, b.toNat % 16 * 4]
  | [a] => [a.toNat / 4, a.toNat % 4 * 16]
  | [] => []

/-- The bytes of some digits. -/
def bytes : List ℕ → Option (List UInt8)
  | p :: q :: r :: s :: rest =>
    (bytes rest).map fun bs => UInt8.ofNat (p * 4 + q / 16) ::
      UInt8.ofNat (q % 16 * 16 + r / 4) :: UInt8.ofNat (r % 4 * 64 + s) :: bs
  | [p, q, r] => some [UInt8.ofNat (p * 4 + q / 16), UInt8.ofNat (q % 16 * 16 + r / 4)]
  | [p, q] => some [UInt8.ofNat (p * 4 + q / 16)]
  | [_] => none
  | [] => some []

/-- The text of some bytes. -/
def encode (bs : List UInt8) : List Char := (digits bs).map char

/-- Is it a line end? -/
def lineEnd (c : Char) : Bool := c = '\n' || c = '\r'

/-- The bytes of a text. -/
def decode (s : List Char) : Option (List UInt8) :=
  ((s.filter (!lineEnd ·)).mapM digit?).bind bytes

theorem digit?_char : ∀ d < 64, digit? (char d) = some d := by decide

theorem lineEnd_char : ∀ d < 64, lineEnd (char d) = false := by decide

/-- The alphabet: letters and digits of ASCII, and two characters that are safe in a URL. -/
theorem char_alphabet : ∀ d < 64, (char d).isAlphanum ∨ char d = '-' ∨ char d = '_' := by decide

theorem lt_of_mem_digits {bs : List UInt8} : ∀ d ∈ digits bs, d < 64 := by
  induction bs using digits.induct with
  | case1 a b c rest ih =>
    have ha := a.toNat_lt
    have hb := b.toNat_lt
    have hc := c.toNat_lt
    intro d hd
    simp only [digits, List.mem_cons] at hd
    rcases hd with rfl | rfl | rfl | rfl | hd
    · omega
    · omega
    · omega
    · omega
    · exact ih d hd
  | case2 a b =>
    have ha := a.toNat_lt
    have hb := b.toNat_lt
    intro d hd
    simp only [digits, List.mem_cons, List.not_mem_nil, or_false] at hd
    omega
  | case3 a =>
    have ha := a.toNat_lt
    intro d hd
    simp only [digits, List.mem_cons, List.not_mem_nil, or_false] at hd
    omega
  | case4 => simp [digits]

theorem encode_ne_nil {bs : List UInt8} (h : bs ≠ []) : encode bs ≠ [] := by
  rw [encode, Ne, List.map_eq_nil_iff]
  match bs, h with
  | [_], _ => exact List.cons_ne_nil _ _
  | [_, _], _ => exact List.cons_ne_nil _ _
  | _ :: _ :: _ :: _, _ => exact List.cons_ne_nil _ _

/-- The text of some bytes is in the alphabet. -/
theorem exists_char_of_mem_encode {bs : List UInt8} {c : Char} (hc : c ∈ encode bs) :
    ∃ d < 64, char d = c := by
  obtain ⟨d, hd, rfl⟩ := List.mem_map.mp hc
  exact ⟨d, lt_of_mem_digits d hd, rfl⟩

/-- The digits of bytes are digits of these bytes. -/
theorem bytes_digits (bs : List UInt8) : bytes (digits bs) = some bs := by
  have hsame (a : UInt8) {n : ℕ} (h : n = a.toNat) : UInt8.ofNat n = a := by
    rw [h, UInt8.ofNat_toNat]
  induction bs using digits.induct with
  | case1 a b c rest ih =>
    have hb := b.toNat_lt
    have hc := c.toNat_lt
    rw [digits, bytes, ih, Option.map_some, hsame a (by omega), hsame b (by omega),
      hsame c (by omega)]
  | case2 a b =>
    have hb := b.toNat_lt
    rw [digits, bytes, hsame a (by omega), hsame b (by omega)]
  | case3 a => rw [digits, bytes, hsame a (by omega)]
  | case4 => rfl

/-- **What has been encoded is decoded.**  By three bytes at a time, which make four characters; one
or two bytes at the end make two or three. -/
theorem decode_encode (bs : List UInt8) : decode (encode bs) = some bs := by
  have hkeep : (encode bs).filter (!lineEnd ·) = encode bs := by
    rw [List.filter_eq_self]
    intro c hc
    obtain ⟨d, hd, rfl⟩ := exists_char_of_mem_encode hc
    rw [lineEnd_char d hd]
    rfl
  have hdigits : ∀ ds : List ℕ, (∀ d ∈ ds, d < 64) → (ds.map char).mapM digit? = some ds := by
    intro ds hds
    induction ds with
    | nil => rfl
    | cons d ds ih =>
      rw [List.map_cons, List.mapM_cons, digit?_char d (hds d List.mem_cons_self),
        ih fun e he => hds e (List.mem_cons_of_mem _ he)]
      rfl
  unfold decode
  rw [hkeep, encode, hdigits _ lt_of_mem_digits]
  exact bytes_digits bs

end Base64
