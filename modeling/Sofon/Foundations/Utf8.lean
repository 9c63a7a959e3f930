import Mathlib.Data.List.Basic

/-!
# Reading bytes as text

A text is written in UTF-8, and any bytes can be read back if one is ready to lose
something: where no character begins, one byte is given up and a replacement character
stands in for it.  What has been written is read back as it was (`lossy_encode`); and bytes
that lose something come back longer, since the replacement takes three bytes, so a text of
the right length has lost nothing (`encode_lossy`).
-/

namespace Utf8

/-- The bytes of a text. -/
def encode (s : List Char) : List UInt8 := s.flatMap String.utf8EncodeChar

@[simp] theorem encode_nil : encode [] = [] := rfl

@[simp] theorem encode_cons (c : Char) (s : List Char) :
    encode (c :: s) = String.utf8EncodeChar c ++ encode s := List.flatMap_cons

/-- The character that begins the bytes. -/
def first? (b : List UInt8) : Option Char := b.toByteArray.utf8DecodeChar? 0

theorem encode_ne_nil {s : List Char} (h : s ≠ []) : encode s ≠ [] := by
  obtain ⟨c, s, rfl⟩ := List.exists_cons_of_ne_nil h
  rw [encode_cons]
  exact List.append_ne_nil_of_left_ne_nil String.utf8EncodeChar_ne_nil _

theorem first?_append (c : Char) (b : List UInt8) :
    first? (String.utf8EncodeChar c ++ b) = some c := by
  rw [first?, List.toByteArray_append]
  exact ByteArray.utf8DecodeChar?_utf8EncodeChar_append

theorem eq_append_of_first? {b : List UInt8} {c : Char} (h : first? b = some c) :
    ∃ b', b = String.utf8EncodeChar c ++ b' := by
  obtain ⟨l, hl⟩ := ByteArray.exists_of_utf8DecodeChar?_eq_some h
  have hlist : l = l.data.toList.toByteArray := by
    ext1
    rw [List.data_toByteArray, Array.toArray_toList]
  rw [hlist, ← List.toByteArray_append, List.toByteArray_inj] at hl
  exact ⟨_, hl⟩

/-- What stands in for a byte at which no character begins. -/
def replacement : Char := Char.ofNat 0xFFFD

/-- Read at most `fuel` characters. -/
def decode : ℕ → List UInt8 → List Char
  | 0, _ => []
  | _, [] => []
  | fuel + 1, b :: bs =>
    match first? (b :: bs) with
    | some c => c :: decode fuel ((b :: bs).drop c.utf8Size)
    | none => replacement :: decode fuel bs

/-- Read the bytes. -/
def lossy (b : List UInt8) : List Char := decode b.length b

theorem length_utf8EncodeChar_pos (c : Char) : 0 < (String.utf8EncodeChar c).length := by
  rw [String.length_utf8EncodeChar]
  exact c.utf8Size_pos

/-- One character is read. -/
theorem decode_append (fuel : ℕ) (c : Char) (b : List UInt8) :
    decode (fuel + 1) (String.utf8EncodeChar c ++ b) = c :: decode fuel b := by
  have hfirst := first?_append c b
  have hdrop : (String.utf8EncodeChar c ++ b).drop c.utf8Size = b := by
    rw [← String.length_utf8EncodeChar, List.drop_left]
  have hpos := length_utf8EncodeChar_pos c
  cases hb : String.utf8EncodeChar c ++ b with
  | nil =>
    rw [(List.append_eq_nil_iff.mp hb).1] at hpos
    cases hpos
  | cons x xs =>
    rw [hb] at hfirst hdrop
    rw [decode, hfirst]
    simp only
    rw [hdrop]

theorem decode_encode (s : List Char) : ∀ fuel, (encode s).length ≤ fuel →
    decode fuel (encode s) = s := by
  induction s with
  | nil =>
    intro fuel _
    cases fuel <;> rfl
  | cons c s ih =>
    intro fuel hfuel
    rw [encode_cons, List.length_append] at hfuel
    have hpos := length_utf8EncodeChar_pos c
    obtain ⟨n, rfl⟩ : ∃ n, fuel = n + 1 := ⟨fuel - 1, by omega⟩
    rw [encode_cons, decode_append, ih n (by omega)]

/-- **What has been written is read back.**  Each character is read from just the bytes that it was
written as, and none of them has to be replaced. -/
theorem lossy_encode (s : List Char) : lossy (encode s) = s := decode_encode s _ (Nat.le_refl _)

theorem encode_injective : Function.Injective encode := by
  intro s t h
  rw [← lossy_encode s, h, lossy_encode]

/-- A text is no shorter than the bytes it was read from, and of the same length only if it
is what the bytes say. -/
theorem encode_decode (fuel : ℕ) : ∀ b : List UInt8, b.length ≤ fuel →
    b.length ≤ (encode (decode fuel b)).length ∧
      ((encode (decode fuel b)).length = b.length → encode (decode fuel b) = b) := by
  induction fuel with
  | zero =>
    intro b hb
    obtain rfl := List.eq_nil_of_length_eq_zero (Nat.le_zero.mp hb)
    exact ⟨Nat.le_refl _, fun _ => rfl⟩
  | succ fuel ih =>
    intro b hb
    cases hfirst : first? b with
    | some c =>
      obtain ⟨b', rfl⟩ := eq_append_of_first? hfirst
      have hpos := length_utf8EncodeChar_pos c
      rw [List.length_append] at hb
      obtain ⟨hle, heq⟩ := ih b' (by omega)
      rw [decode_append, encode_cons, List.length_append, List.length_append]
      refine ⟨by omega, fun hlen => ?_⟩
      rw [heq (by omega)]
    | none =>
      cases b with
      | nil => exact ⟨Nat.zero_le _, fun _ => rfl⟩
      | cons x xs =>
        rw [List.length_cons] at hb
        obtain ⟨hle, -⟩ := ih xs (by omega)
        have hthree : (String.utf8EncodeChar replacement).length = 3 := by decide
        rw [decode, hfirst]
        simp only [encode_cons, List.length_append, List.length_cons]
        refine ⟨by omega, fun hlen => ?_⟩
        omega

/-- **A text of the right length has lost nothing.** -/
theorem encode_lossy {b : List UInt8} (h : (encode (lossy b)).length = b.length) :
    encode (lossy b) = b := (encode_decode b.length b (Nat.le_refl _)).2 h

/-- Bytes of the length of a text are read as that text only if they are its bytes. -/
theorem lossy_eq_iff {b : List UInt8} {s : List Char} (h : b.length = (encode s).length) :
    lossy b = s ↔ b = encode s := by
  constructor
  · rintro rfl
    exact (encode_lossy h.symm).symm
  · rintro rfl
    exact lossy_encode s

end Utf8
