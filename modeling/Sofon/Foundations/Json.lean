import Mathlib.Data.List.Basic

/-!
# JSON

Values, a parser that accepts what the grammar does and nothing else, and the text of a
string.  The parser has fuel, of which every level of a value takes two units and a level
takes a character at least, so twice the length of the text and two is enough for it; apart
from that it gives up where values are nested too deeply.

A string is written so that it can stand in HTML: quotation marks and backslashes get a
backslash, some control characters have a letter of their own, and the others are written by
number, as are angle brackets and the ampersand.

What is read is what has been written.  For one character that is a table of the ways in which
characters are written (`body_escape`), for a string an induction on its characters
(`body_quote`), and for an object whose members are strings an induction on its members
(`members_object`).  Each of these takes some fuel and says how much, and the length of the text
bounds it, as every character is written with one character at least
(`length_flatMap_escape`).
-/

/-- A value.  A number is left as it is written. -/
inductive Json where
  | null
  | bool (b : Bool)
  | num (text : List Char)
  | str (s : List Char)
  | arr (elems : List Json)
  | obj (members : List (List Char × Json))

namespace Json

/-- White space between tokens. -/
def space (c : Char) : Bool := c = ' ' || c = '\t' || c = '\n' || c = '\r'

/-- The text from its next token on. -/
def skip (s : List Char) : List Char := s.dropWhile space

/-! ## Strings -/

/-- A hexadecimal digit. -/
def hex (d : ℕ) : Char := if d < 10 then Char.ofNat (48 + d) else Char.ofNat (87 + d)

/-- Four of them. -/
def hex4 (n : ℕ) : List Char :=
  [hex (n / 4096 % 16), hex (n / 256 % 16), hex (n / 16 % 16), hex (n % 16)]

/-- The value of a hexadecimal digit. -/
def unhex? (c : Char) : Option ℕ :=
  if 48 ≤ c.toNat ∧ c.toNat ≤ 57 then some (c.toNat - 48)
  else if 97 ≤ c.toNat ∧ c.toNat ≤ 102 then some (c.toNat - 87)
  else if 65 ≤ c.toNat ∧ c.toNat ≤ 70 then some (c.toNat - 55)
  else none

/-- Read four hexadecimal digits. -/
def unhex4? : List Char → Option (ℕ × List Char)
  | a :: b :: c :: d :: rest => do
    let a ← unhex? a
    let b ← unhex? b
    let c ← unhex? c
    let d ← unhex? d
    return (a * 4096 + b * 256 + c * 16 + d, rest)
  | _ => none

/-- The character of a code unit that is followed by `rest`: two surrogates make one
character, and a surrogate alone makes a replacement character. -/
def unit (n : ℕ) (rest : List Char) : Char × List Char :=
  if n < 0xD800 ∨ 0xE000 ≤ n then (Char.ofNat n, rest)
  else
    match rest with
    | '\\' :: 'u' :: rest' =>
      match unhex4? rest' with
      | some (m, rest'') =>
        if n < 0xDC00 ∧ 0xDC00 ≤ m ∧ m < 0xE000 then
          (Char.ofNat ((n - 0xD800) * 0x400 + (m - 0xDC00) + 0x10000), rest'')
        else (Char.ofNat 0xFFFD, rest)
      | none => (Char.ofNat 0xFFFD, rest)
    | _ => (Char.ofNat 0xFFFD, rest)

/-- The character after a backslash, with what follows it. -/
def unescape : List Char → Option (Char × List Char)
  | '"' :: rest => some ('"', rest)
  | '\\' :: rest => some ('\\', rest)
  | '/' :: rest => some ('/', rest)
  | 'b' :: rest => some (Char.ofNat 8, rest)
  | 'f' :: rest => some (Char.ofNat 12, rest)
  | 'n' :: rest => some ('\n', rest)
  | 'r' :: rest => some ('\r', rest)
  | 't' :: rest => some ('\t', rest)
  | 'u' :: rest => (unhex4? rest).map fun (n, rest) => unit n rest
  | _ => none

/-- Read a string, after the quotation mark that opens it. -/
def body : ℕ → List Char → Option (List Char × List Char)
  | 0, _ => none
  | _, [] => none
  | fuel + 1, c :: rest =>
    if c = '"' then some ([], rest)
    else if c = '\\' then do
      let (d, rest) ← unescape rest
      let (s, rest) ← body fuel rest
      return (d :: s, rest)
    else if c.toNat < 0x20 then none
    else do
      let (s, rest) ← body fuel rest
      return (c :: s, rest)

/-- How a character is written in a string. -/
def escape (c : Char) : List Char :=
  if c = '"' ∨ c = '\\' then ['\\', c]
  else if c.toNat = 8 then ['\\', 'b']
  else if c.toNat = 12 then ['\\', 'f']
  else if c = '\n' then ['\\', 'n']
  else if c = '\r' then ['\\', 'r']
  else if c = '\t' then ['\\', 't']
  else if c.toNat < 0x20 ∨ c = '<' ∨ c = '>' ∨ c = '&' ∨ c.toNat = 0x2028 ∨ c.toNat = 0x2029 then
    '\\' :: 'u' :: hex4 c.toNat
  else [c]

/-- The text of a string, with its quotation marks. -/
def quote (s : List Char) : List Char := '"' :: (s.flatMap escape ++ ['"'])

/-! ## Values -/

/-- A digit. -/
def digit (c : Char) : Bool := 48 ≤ c.toNat && c.toNat ≤ 57

/-- Read one digit or more. -/
def digits (s : List Char) : Option (List Char) :=
  match s with
  | c :: rest => if digit c then some (rest.dropWhile digit) else none
  | [] => none

/-- Read the integer part of a number. -/
def integer : List Char → Option (List Char)
  | '0' :: rest => some rest
  | s => digits s

/-- Read a fraction, if there is one. -/
def fraction : List Char → Option (List Char)
  | '.' :: rest => digits rest
  | s => some s

/-- Read an exponent, if there is one. -/
def exponent : List Char → Option (List Char)
  | c :: rest =>
    if c = 'e' ∨ c = 'E' then
      match rest with
      | '+' :: rest => digits rest
      | '-' :: rest => digits rest
      | rest => digits rest
    else some (c :: rest)
  | [] => some []

/-- Read a number. -/
def number (s : List Char) : Option (Json × List Char) := do
  let rest ← integer (if s.head? = some '-' then s.tail else s)
  let rest ← fraction rest
  let rest ← exponent rest
  return (.num (s.take (s.length - rest.length)), rest)

/-- Read a word. -/
def word (w : List Char) (j : Json) (s : List Char) : Option (Json × List Char) :=
  if w.isPrefixOf s then some (j, s.drop w.length) else none

mutual

/-- Read a value, inside which `depth` levels more are allowed. -/
def value : ℕ → ℕ → List Char → Option (Json × List Char)
  | 0, _, _ => none
  | fuel + 1, depth, s =>
    match skip s with
    | [] => none
    | c :: rest =>
      if c = '"' then (body (rest.length + 1) rest).map fun (t, rest) => (.str t, rest)
      else if c = '[' then
        if depth = 0 then none
        else if (skip rest).head? = some ']' then some (.arr [], (skip rest).tail)
        else (elements fuel (depth - 1) rest).map fun (js, rest) => (.arr js, rest)
      else if c = '{' then
        if depth = 0 then none
        else if (skip rest).head? = some '}' then some (.obj [], (skip rest).tail)
        else (members fuel (depth - 1) rest).map fun (ms, rest) => (.obj ms, rest)
      else if c = 'n' then word ['n', 'u', 'l', 'l'] .null (c :: rest)
      else if c = 't' then word ['t', 'r', 'u', 'e'] (.bool true) (c :: rest)
      else if c = 'f' then word ['f', 'a', 'l', 's', 'e'] (.bool false) (c :: rest)
      else number (c :: rest)

/-- Read the elements of an array. -/
def elements : ℕ → ℕ → List Char → Option (List Json × List Char)
  | 0, _, _ => none
  | fuel + 1, depth, s => do
    let (j, rest) ← value fuel depth s
    match skip rest with
    | ',' :: rest =>
      let (js, rest) ← elements fuel depth rest
      return (j :: js, rest)
    | ']' :: rest => return ([j], rest)
    | _ => none

/-- Read the members of an object. -/
def members : ℕ → ℕ → List Char → Option (List (List Char × Json) × List Char)
  | 0, _, _ => none
  | fuel + 1, depth, s =>
    match skip s with
    | '"' :: rest => do
      let (key, rest) ← body (rest.length + 1) rest
      match skip rest with
      | ':' :: rest =>
        let (j, rest) ← value fuel depth rest
        match skip rest with
        | ',' :: rest =>
          let (ms, rest) ← members fuel depth rest
          return ((key, j) :: ms, rest)
        | '}' :: rest => return ([(key, j)], rest)
        | _ => none
      | _ => none
    | _ => none

end

/-- How deeply values may be nested. -/
def maxDepth : ℕ := 10000

/-- Read a text that is one value. -/
def parse (s : List Char) : Option Json := do
  let (j, rest) ← value (2 * s.length + 2) maxDepth s
  if skip rest = [] then some j else none

/-- The text of a member that is a string. -/
def member (m : List Char × List Char) : List Char := quote m.1 ++ ':' :: quote m.2

/-- The text of an object whose members are strings. -/
def object (ms : List (List Char × List Char)) : List Char :=
  '{' :: ([','].intercalate (ms.map member) ++ ['}'])

/-! ## Reading what has been written -/

theorem unhex?_hex : ∀ d < 16, unhex? (hex d) = some d := by decide

theorem unhex4?_hex4 {n : ℕ} (h : n < 0x10000) (rest : List Char) :
    unhex4? (hex4 n ++ rest) = some (n, rest) := by
  have h₁ := unhex?_hex (n / 4096 % 16) (Nat.mod_lt _ (by decide))
  have h₂ := unhex?_hex (n / 256 % 16) (Nat.mod_lt _ (by decide))
  have h₃ := unhex?_hex (n / 16 % 16) (Nat.mod_lt _ (by decide))
  have h₄ := unhex?_hex (n % 16) (Nat.mod_lt _ (by decide))
  have hsum : n / 4096 % 16 * 4096 + n / 256 % 16 * 256 + n / 16 % 16 * 16 + n % 16 = n := by
    omega
  simp only [hex4, List.cons_append, List.nil_append, unhex4?, h₁, h₂, h₃, h₄]
  simp [hsum]

/-- A character is read as it was written. -/
theorem body_escape {fuel : ℕ} {rest rest' s : List Char} (c : Char)
    (h : body fuel rest = some (s, rest')) :
    body (fuel + 1) (escape c ++ rest) = some (c :: s, rest') := by
  have hcontrol {t : List Char} (hread : unescape (t ++ rest) = some (c, rest)) :
      body (fuel + 1) ('\\' :: t ++ rest) = some (c :: s, rest') := by
    rw [List.cons_append, body, if_neg (by decide), if_pos rfl]
    simp [hread, h]
  have hcode {n : ℕ} (hn : c.toNat = n) : Char.ofNat n = c := by
    rw [← hn, Char.ofNat_toNat]
  unfold escape
  split
  · rename_i hc
    rcases hc with rfl | rfl
    · exact hcontrol rfl
    · exact hcontrol rfl
  rename_i hquote
  split
  · rename_i hc
    exact hcontrol (t := ['b']) (by rw [← hcode hc]; rfl)
  split
  · rename_i hc
    exact hcontrol (t := ['f']) (by rw [← hcode hc]; rfl)
  split
  · rename_i hc
    subst hc
    exact hcontrol rfl
  split
  · rename_i hc
    subst hc
    exact hcontrol rfl
  split
  · rename_i hc
    subst hc
    exact hcontrol rfl
  split
  · -- four digits; none of these characters is a surrogate
    rename_i hc
    have hlow : c.toNat < 0xD800 := by
      rcases hc with hc | rfl | rfl | rfl | hc | hc
      · omega
      · decide
      · decide
      · decide
      · omega
      · omega
    have hunit : unit c.toNat rest = (c, rest) := by
      rw [unit.eq_def, if_pos (Or.inl hlow), Char.ofNat_toNat]
    refine hcontrol (t := 'u' :: hex4 c.toNat) ?_
    rw [List.cons_append, unescape, unhex4?_hex4 (by omega), Option.map_some]
    exact congrArg some hunit
  · rename_i hc
    have hplain : ¬ c.toNat < 0x20 := fun hlt => hc (Or.inl hlt)
    rw [not_or] at hquote
    rw [List.cons_append, List.nil_append, body, if_neg hquote.1, if_neg hquote.2, if_neg hplain]
    simp [h]

/-- **A string is read as it was written.** -/
theorem body_quote (s rest : List Char) : ∀ fuel, s.length < fuel →
    body fuel (s.flatMap escape ++ '"' :: rest) = some (s, rest) := by
  induction s with
  | nil =>
    intro fuel hfuel
    obtain ⟨fuel, rfl⟩ := Nat.exists_eq_succ_of_ne_zero (Nat.ne_of_gt hfuel)
    rw [List.flatMap_nil, List.nil_append, body, if_pos rfl]
  | cons c s ih =>
    intro fuel hfuel
    rw [List.length_cons] at hfuel
    obtain ⟨fuel, rfl⟩ := Nat.exists_eq_succ_of_ne_zero (Nat.ne_of_gt (Nat.zero_lt_of_lt hfuel))
    rw [List.flatMap_cons, List.append_assoc]
    exact body_escape c (ih fuel (by omega))

theorem length_flatMap_escape (s : List Char) : s.length ≤ (s.flatMap escape).length := by
  induction s with
  | nil => exact Nat.le_refl _
  | cons c s ih =>
    have hpos : 0 < (escape c).length := by
      unfold escape
      repeat' split
      all_goals simp
    rw [List.flatMap_cons, List.length_append, List.length_cons]
    omega

/-- The fuel that the parser uses is enough. -/
theorem body_quote_length (s rest : List Char) :
    body ((s.flatMap escape ++ '"' :: rest).length + 1) (s.flatMap escape ++ '"' :: rest) =
      some (s, rest) := by
  have hlen := length_flatMap_escape s
  refine body_quote s rest _ ?_
  rw [List.length_append]
  omega

theorem value_quote (fuel depth : ℕ) (s rest : List Char) :
    value (fuel + 1) depth (quote s ++ rest) = some (.str s, rest) := by
  have hquote : quote s ++ rest = '"' :: (s.flatMap escape ++ '"' :: rest) := by
    simp [quote]
  have hskip : skip ('"' :: (s.flatMap escape ++ '"' :: rest)) =
      '"' :: (s.flatMap escape ++ '"' :: rest) := rfl
  rw [hquote, value, hskip]
  simp only
  rw [if_pos trivial, body_quote_length, Option.map_some]

/-- The members of an object are read as they were written. -/
theorem members_object (depth : ℕ) (rest : List Char) (ms : List (List Char × List Char)) :
    ∀ fuel, ms ≠ [] → ms.length < fuel →
    members fuel depth ([','].intercalate (ms.map member) ++ '}' :: rest) =
      some (ms.map fun m => (m.1, .str m.2), rest) := by
  induction ms with
  | nil => simp
  | cons m ms ih =>
    intro fuel _ hfuel
    rw [List.length_cons] at hfuel
    obtain ⟨fuel, rfl⟩ : ∃ f, fuel = f + 2 := ⟨fuel - 2, by omega⟩
    have hmember (t : List Char) : member m ++ t =
        '"' :: (m.1.flatMap escape ++ '"' :: ':' :: (quote m.2 ++ t)) := by
      simp [member, quote]
    have hquote (t : List Char) : skip ('"' :: t) = '"' :: t := rfl
    have hcolon (t : List Char) : skip (':' :: t) = ':' :: t := rfl
    have hcomma (t : List Char) : skip (',' :: t) = ',' :: t := rfl
    have hclose (t : List Char) : skip ('}' :: t) = '}' :: t := rfl
    cases ms with
    | nil =>
      rw [List.map_singleton, List.intercalate_singleton, hmember, members, hquote]
      simp only [Option.bind_eq_bind, body_quote_length, Option.bind_some, hcolon, value_quote,
        hclose]
      rfl
    | cons m' ms =>
      have hmore := ih (fuel + 1) (List.cons_ne_nil _ _) (by omega)
      rw [List.map_cons, List.intercalate_cons_of_ne_nil (by simp), List.append_assoc,
        List.append_assoc, hmember, members, hquote]
      simp only [Option.bind_eq_bind, body_quote_length, Option.bind_some, hcolon, value_quote,
        List.singleton_append, hcomma]
      rw [hmore]
      rfl

/-- A member starts with the quotation mark of its key. -/
theorem member_eq_cons (m : List Char × List Char) :
    ∃ t, member m = '"' :: t ∧ 1 ≤ t.length := by
  refine ⟨m.1.flatMap escape ++ '"' :: ':' :: quote m.2, by simp [member, quote], ?_⟩
  rw [List.length_append, List.length_cons]
  omega

theorem members_eq_cons {ms : List (List Char × List Char)} (h : ms ≠ []) :
    ∃ t, [','].intercalate (ms.map member) = '"' :: t ∧ ms.length ≤ t.length := by
  induction ms with
  | nil => exact absurd rfl h
  | cons m ms ih =>
    obtain ⟨t, ht, hlen⟩ := member_eq_cons m
    cases ms with
    | nil =>
      rw [List.map_singleton, List.intercalate_singleton]
      exact ⟨t, ht, hlen⟩
    | cons m' ms =>
      obtain ⟨t', ht', hlen'⟩ := ih (List.cons_ne_nil _ _)
      rw [List.map_cons, List.intercalate_cons_of_ne_nil (by simp), ht, ht']
      refine ⟨t ++ ([','] ++ '"' :: t'), by simp, ?_⟩
      simp only [List.length_append, List.length_cons] at hlen' ⊢
      omega

/-- **An object of strings is read as it was written.** -/
theorem parse_object {ms : List (List Char × List Char)} (h : ms ≠ []) :
    parse (object ms) = some (.obj (ms.map fun m => (m.1, .str m.2))) := by
  obtain ⟨t, ht, hlen⟩ := members_eq_cons h
  have htext : object ms = '{' :: '"' :: (t ++ ['}']) := by
    rw [object, ht, List.cons_append]
  have hopen : skip ('{' :: '"' :: (t ++ ['}'])) = '{' :: '"' :: (t ++ ['}']) := rfl
  have hfirst : skip ('"' :: (t ++ ['}'])) = '"' :: (t ++ ['}']) := rfl
  have hfuel : 2 * (object ms).length + 2 = (2 * t.length + 7) + 1 := by
    simp only [htext, List.length_cons, List.length_append, List.length_nil]
    omega
  have hmembers : members (2 * t.length + 7) (maxDepth - 1) ('"' :: (t ++ ['}'])) =
      some (ms.map fun m => (m.1, .str m.2), []) := by
    rw [← List.cons_append, ← ht]
    exact members_object _ [] ms _ h (by omega)
  have hvalue : value (2 * (object ms).length + 2) maxDepth (object ms) =
      some (.obj (ms.map fun m => (m.1, .str m.2)), []) := by
    rw [hfuel, htext, value, hopen]
    simp only [hfirst, hmembers]
    rfl
  unfold parse
  rw [hvalue]
  rfl

end Json
