import Sofon.Foundations.Calendar
import Mathlib.Data.List.DropRight
import Mathlib.Data.List.TakeWhile

/-!
# Instants as text

An instant is a number of nanoseconds since the beginning of 1970.  It is written as a date
and a time of day in universal time, with as many digits of the second as it takes.  What is
read may be less strict: an hour of one digit, a comma in the second, and an offset.

Reading undoes writing part by part.

* Numbers of a fixed width are read back by their digits (`value_pad`, `number_pad`).
* The fraction is written without the zeros at its end, and is read with as many zeros as are
  missing (`strip_append`, `fraction_formatFraction`).
* The date is that of the day, and the day of its date is the day; that is the calendar's.

The year is written with four digits or more and read as four digits.  So an instant comes back
from its text if its year has no more (`parse_format`).  For any other year the text has a sign
or a digit where the dash is to be, and it is not read at all (`parse_format_eq_none`).
-/

namespace Rfc3339

open Calendar

/-- A digit. -/
def digit (d : ℕ) : Char := Char.ofNat (48 + d)

/-- Is it a digit? -/
def isDigit (c : Char) : Bool := 48 ≤ c.toNat && c.toNat ≤ 57

/-- The last `w` digits of a number. -/
def pad : ℕ → ℕ → List Char
  | 0, _ => []
  | w + 1, n => pad w (n / 10) ++ [digit (n % 10)]

/-- The number that digits are read as. -/
def value (ds : List Char) : ℕ := ds.foldl (fun n c => 10 * n + (c.toNat - 48)) 0

/-- Text without zeros at the end. -/
def strip (ds : List Char) : List Char := ds.rdropWhile (· = '0')

/-! ## Writing -/

/-- A year, with four digits or more. -/
def formatYear (y : ℤ) : List Char :=
  let wide (n : ℕ) := if n < 10000 then pad 4 n else Nat.toDigits 10 n
  if y < 0 then '-' :: wide (-y).toNat else wide y.toNat

/-- A fraction of a second, in nanoseconds. -/
def formatFraction (ns : ℕ) : List Char := if ns = 0 then [] else '.' :: strip (pad 9 ns)

/-- The text of an instant. -/
def format (t : ℤ) : List Char :=
  let date := ofDays (t / 1000000000 / 86400)
  let second := (t / 1000000000 % 86400).toNat
  formatYear date.year ++ '-' :: pad 2 date.month.toNat ++ '-' :: pad 2 date.day.toNat ++
    'T' :: pad 2 (second / 3600) ++ ':' :: pad 2 (second / 60 % 60) ++
    ':' :: pad 2 (second % 60) ++ formatFraction (t % 1000000000).toNat ++ ['Z']

/-! ## Reading -/

/-- Read `w` digits. -/
def number (w : ℕ) (s : List Char) : Option (ℕ × List Char) :=
  if w ≤ s.length ∧ (s.take w).all isDigit then some (value (s.take w), s.drop w) else none

/-- Read one character. -/
def lit (c : Char) : List Char → Option (List Char)
  | d :: s => if d = c then some s else none
  | [] => none

/-- Read an hour, of two digits or of one. -/
def hour (s : List Char) : Option (ℕ × List Char) := (number 2 s).or (number 1 s)

/-- Read a fraction of a second, if there is one.  Digits after the ninth are dropped. -/
def fraction (s : List Char) : ℕ × List Char :=
  match s with
  | c :: rest =>
    let ds := rest.takeWhile isDigit
    if (c = '.' ∨ c = ',') ∧ ds ≠ [] then
      (value (ds.take 9) * 10 ^ (9 - ds.length), rest.dropWhile isDigit)
    else (0, s)
  | [] => (0, s)

/-- Read an offset, in seconds. -/
def offset : List Char → Option (ℤ × List Char)
  | 'Z' :: s => some (0, s)
  | c :: s => do
    let (h, s) ← number 2 s
    let s ← lit ':' s
    let (m, s) ← number 2 s
    if h ≤ 24 ∧ m ≤ 60 then
      if c = '+' then some (((h * 60 + m) * 60 : ℕ), s)
      else if c = '-' then some (-((h * 60 + m) * 60 : ℕ), s)
      else none
    else none
  | [] => none

/-- Read an instant. -/
def parse (s : List Char) : Option ℤ := do
  let (year, s) ← number 4 s
  let s ← lit '-' s
  let (month, s) ← number 2 s
  let s ← lit '-' s
  let (day, s) ← number 2 s
  let s ← lit 'T' s
  let (hour, s) ← hour s
  let s ← lit ':' s
  let (minute, s) ← number 2 s
  let s ← lit ':' s
  let (second, s) ← number 2 s
  let (ns, s) := fraction s
  let (offset, s) ← offset s
  if s = [] ∧ 1 ≤ month ∧ month ≤ 12 ∧ 1 ≤ day ∧ day ≤ daysIn year month ∧ hour < 24 ∧
      minute < 60 ∧ second < 60 then
    let seconds := Date.toDays ⟨year, month, day⟩ * 86400 + hour * 3600 + minute * 60 + second
    some ((seconds - offset) * 1000000000 + ns)
  else none

/-! ## Digits -/

theorem toNat_digit : ∀ d < 10, (digit d).toNat = 48 + d := by decide

theorem isDigit_digit : ∀ d < 10, isDigit (digit d) := by decide

@[simp] theorem length_pad (w n : ℕ) : (pad w n).length = w := by
  induction w generalizing n with
  | zero => rfl
  | succ w ih => rw [pad, List.length_append, ih, List.length_singleton]

theorem isDigit_of_mem_pad {w n : ℕ} : ∀ c ∈ pad w n, isDigit c := by
  induction w generalizing n with
  | zero => exact fun c hc => absurd hc List.not_mem_nil
  | succ w ih =>
    intro c hc
    rw [pad] at hc
    rcases List.mem_append.mp hc with hc | hc
    · exact ih c hc
    · rw [List.mem_singleton.mp hc]
      exact isDigit_digit _ (Nat.mod_lt _ (by decide))

theorem value_append_singleton (ds : List Char) (c : Char) :
    value (ds ++ [c]) = 10 * value ds + (c.toNat - 48) := by
  rw [value, List.foldl_append]
  rfl

/-- The digits of a number are read as the number. -/
theorem value_pad (w : ℕ) : ∀ n, n < 10 ^ w → value (pad w n) = n := by
  induction w with
  | zero =>
    intro n hn
    obtain rfl : n = 0 := Nat.lt_one_iff.mp hn
    rfl
  | succ w ih =>
    intro n hn
    rw [Nat.pow_succ] at hn
    have hdigit := toNat_digit (n % 10) (Nat.mod_lt _ (by decide))
    rw [pad, value_append_singleton, ih (n / 10) (by omega), hdigit]
    omega

theorem number_pad {w n : ℕ} (h : n < 10 ^ w) (s : List Char) :
    number w (pad w n ++ s) = some (n, s) := by
  have htake : (pad w n ++ s).take w = pad w n := List.take_left' (length_pad w n)
  have hdrop : (pad w n ++ s).drop w = s := List.drop_left' (length_pad w n)
  unfold number
  rw [htake, hdrop, value_pad w n h, if_pos]
  refine ⟨?_, List.all_eq_true.mpr isDigit_of_mem_pad⟩
  rw [List.length_append, length_pad]
  exact Nat.le_add_right _ _

@[simp] theorem lit_cons (c : Char) (s : List Char) : lit c (c :: s) = some s := if_pos rfl

theorem hour_pad {n : ℕ} (h : n < 100) (s : List Char) : hour (pad 2 n ++ s) = some (n, s) := by
  unfold hour
  rw [number_pad h]
  rfl

/-! ## Fractions -/

theorem value_append_zeros (ds : List Char) (k : ℕ) :
    value (ds ++ List.replicate k '0') = value ds * 10 ^ k := by
  induction k with
  | zero => simp
  | succ k ih =>
    rw [List.replicate_succ', ← List.append_assoc, value_append_singleton, ih, Nat.pow_succ]
    have hzero : '0'.toNat - 48 = 0 := by decide
    rw [hzero, Nat.add_zero, Nat.mul_comm, Nat.mul_assoc]

theorem strip_append (ds : List Char) : ∃ k, ds = strip ds ++ List.replicate k '0' := by
  induction ds using List.reverseRecOn with
  | nil => exact ⟨0, rfl⟩
  | append_singleton ds c ih =>
    unfold strip at ih ⊢
    by_cases hc : c = '0'
    · obtain ⟨k, hk⟩ := ih
      rw [List.rdropWhile_concat_pos _ _ _ (by simpa using hc), hc]
      refine ⟨k + 1, ?_⟩
      rw [List.replicate_succ', ← List.append_assoc, ← hk]
    · rw [List.rdropWhile_concat_neg _ _ _ (by simpa using hc)]
      exact ⟨0, by simp⟩

/-- A fraction is read as it was written. -/
theorem fraction_formatFraction {ns : ℕ} (h : ns < 1000000000) (s : List Char)
    (hs : ∀ c ∈ s.head?, isDigit c = false) (hdot : s.head? ≠ some '.' ∧ s.head? ≠ some ',') :
    fraction (formatFraction ns ++ s) = (ns, s) := by
  unfold formatFraction
  split
  · rename_i hzero
    subst hzero
    rw [List.nil_append]
    unfold fraction
    cases s with
    | nil => rfl
    | cons c s =>
      simp only
      rw [if_neg]
      rintro ⟨rfl | rfl, -⟩
      · exact hdot.1 rfl
      · exact hdot.2 rfl
  · rename_i hns
    obtain ⟨k, hk⟩ := strip_append (pad 9 ns)
    have hvalue : value (strip (pad 9 ns)) * 10 ^ k = ns := by
      rw [← value_append_zeros, ← hk, value_pad 9 ns h]
    have hlen : (strip (pad 9 ns)).length + k = 9 := by
      have := congrArg List.length hk
      rw [length_pad, List.length_append, List.length_replicate] at this
      exact this.symm
    have hdigits : ∀ c ∈ strip (pad 9 ns), isDigit c := by
      intro c hc
      have hmem : c ∈ pad 9 ns := by
        rw [hk]
        exact List.mem_append_left _ hc
      exact isDigit_of_mem_pad c hmem
    have hne : strip (pad 9 ns) ≠ [] := by
      intro hnil
      rw [hnil] at hvalue
      exact hns (by rw [← hvalue]; exact Nat.zero_mul _)
    have htake : (strip (pad 9 ns) ++ s).takeWhile isDigit = strip (pad 9 ns) := by
      rw [List.takeWhile_append_of_pos hdigits]
      cases s with
      | nil => simp
      | cons c s => rw [List.takeWhile_cons_of_neg (by simp [hs c rfl]), List.append_nil]
    have hdrop : (strip (pad 9 ns) ++ s).dropWhile isDigit = s := by
      rw [List.dropWhile_append_of_pos hdigits]
      cases s with
      | nil => rfl
      | cons c s => rw [List.dropWhile_cons_of_neg (by simp [hs c rfl])]
    unfold fraction
    rw [List.cons_append]
    simp only [htake, hdrop]
    rw [if_pos ⟨Or.inl trivial, hne⟩, List.take_of_length_le (by omega)]
    have hpow : 9 - (strip (pad 9 ns)).length = k := by omega
    rw [hpow, hvalue]

/-! ## Instants -/

/-- The year of an instant. -/
def year (t : ℤ) : ℤ := (ofDays (t / 1000000000 / 86400)).year

/-- **An instant is read as it was written**, if its year has four digits. -/
theorem parse_format {t : ℤ} (h₀ : 0 ≤ year t) (h₁ : year t ≤ 9999) :
    parse (format t) = some t := by
  unfold year at h₀ h₁
  obtain ⟨hm₁, hm₂, hd₁, hd₂⟩ := ofDays_valid (t / 1000000000 / 86400)
  have hdays := toDays_ofDays (t / 1000000000 / 86400)
  have hd₃ : (ofDays (t / 1000000000 / 86400)).day ≤ 31 := by
    refine hd₂.trans ?_
    unfold daysIn
    split
    · split <;> omega
    · split <;> omega
  generalize hdate : ofDays (t / 1000000000 / 86400) = date at *
  obtain ⟨y, m, d⟩ := date
  simp only at h₀ h₁ hm₁ hm₂ hd₁ hd₂ hd₃
  have hsecond : (t / 1000000000 % 86400).toNat < 86400 := by omega
  have hns : (t % 1000000000).toNat < 1000000000 := by omega
  have hyear : formatYear y = pad 4 y.toNat := by
    unfold formatYear
    simp only
    rw [if_neg (by omega), if_pos (by omega)]
  have hend : ∀ c ∈ ['Z'].head?, isDigit c = false := by
    intro c hc
    obtain rfl := Option.some.inj hc
    rfl
  have hfraction := fraction_formatFraction hns ['Z'] hend ⟨by decide, by decide⟩
  unfold format
  simp only [hdate, hyear]
  generalize hs : (t / 1000000000 % 86400).toNat = second at *
  generalize hn : (t % 1000000000).toNat = ns at *
  simp only [List.append_assoc, List.cons_append]
  unfold parse
  dsimp only [Option.bind_eq_bind]
  -- the text is read from the front, one piece at a time
  rw [number_pad (show y.toNat < 10 ^ 4 by omega), Option.bind_some, lit_cons, Option.bind_some,
    number_pad (show m.toNat < 10 ^ 2 by omega), Option.bind_some, lit_cons, Option.bind_some,
    number_pad (show d.toNat < 10 ^ 2 by omega), Option.bind_some, lit_cons, Option.bind_some,
    hour_pad (show second / 3600 < 100 by omega), Option.bind_some, lit_cons, Option.bind_some,
    number_pad (show second / 60 % 60 < 10 ^ 2 by omega), Option.bind_some, lit_cons,
    Option.bind_some, number_pad (show second % 60 < 10 ^ 2 by omega), Option.bind_some]
  simp only [hfraction, offset, Option.bind_some]
  have hy : (y.toNat : ℤ) = y := Int.toNat_of_nonneg h₀
  have hm : (m.toNat : ℤ) = m := Int.toNat_of_nonneg (by omega)
  have hd : (d.toNat : ℤ) = d := Int.toNat_of_nonneg (by omega)
  rw [hy, hm, hd, hdays, if_pos ⟨trivial, by omega, by omega, by omega, hd₂, by omega, by omega,
    by omega⟩]
  congr 1
  omega

/-- Where the year is to be, there must be four digits and then a dash. -/
theorem parse_eq_none {s : List Char}
    (h : (s.take 4).all isDigit = false ∨ lit '-' (s.drop 4) = none) : parse s = none := by
  unfold parse number
  by_cases hdigits : 4 ≤ s.length ∧ (s.take 4).all isDigit = true
  · rw [if_pos hdigits]
    rcases h with h | h
    · exact absurd (hdigits.2.symm.trans h) Bool.noConfusion
    · show (lit '-' (s.drop 4)).bind _ = none
      rw [h]
      rfl
  · rw [if_neg hdigits]
    rfl

/-- **No other instant is read as it was written**: it is not read at all. -/
theorem parse_format_eq_none {t : ℤ} (h : ¬(0 ≤ year t ∧ year t ≤ 9999)) :
    parse (format t) = none := by
  unfold year at h
  unfold format
  generalize ofDays (t / 1000000000 / 86400) = date at *
  simp only [List.append_assoc, List.cons_append]
  generalize '-' :: (pad 2 date.month.toNat ++ _) = rest
  refine parse_eq_none ?_
  unfold formatYear
  simp only
  split
  · -- the first character is the sign
    exact Or.inl rfl
  · rw [if_neg (by omega)]
    -- the fifth character is another digit
    have hlong : ¬(Nat.toDigits 10 date.year.toNat).length ≤ 4 := by
      rw [Nat.length_toDigits_le_iff (by decide) (by decide)]
      omega
    have hdigits : ∀ c ∈ Nat.toDigits 10 date.year.toNat, c.isDigit := fun c hc =>
      Nat.isDigit_of_mem_toDigits (by decide) (by decide) hc
    refine Or.inr ?_
    rw [List.drop_append_of_le_length (by omega),
      List.drop_eq_getElem_cons (Nat.lt_of_not_le hlong), List.cons_append]
    refine if_neg fun heq => ?_
    have hdigit := hdigits _ (List.getElem_mem (Nat.lt_of_not_le hlong))
    rw [heq] at hdigit
    exact absurd hdigit (by decide)

end Rfc3339
