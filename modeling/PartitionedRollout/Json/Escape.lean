/-
# PartitionedRollout.Json.Escape -- the inside of JSON strings

`escape` writes a text between the quotes of a JSON string: quotes, backslashes and the ASCII
controls are escaped, five of the controls by a letter, and everything else stands for itself.
`pieces?` reads up to the closing quote, and `join` puts the pieces together. An escape by
number is a UTF-16 unit: two of them may form one character, and half of such a pair is no
character.
-/

namespace PartitionedRollout.Json

/-- The lower-case hexadecimal digit of a number below sixteen. -/
def hexDigit (n : Nat) : Char :=
  Nat.digitChar n

/-- One character as it stands inside a string. -/
def escapeChar (c : Char) : List Char :=
  if c = '\x22' then ['\\', '\x22']
  else if c = '\\' then ['\\', '\\']
  else if c = '\x08' then ['\\', 'b']
  else if c = '\x0c' then ['\\', 'f']
  else if c = '\n' then ['\\', 'n']
  else if c = '\r' then ['\\', 'r']
  else if c = '\t' then ['\\', 't']
  else if c.toNat < 0x20 then
    ['\\', 'u', '0', '0', hexDigit (c.toNat / 16), hexDigit (c.toNat % 16)]
  else [c]

/-- A text as it stands inside a string. -/
def escape (s : List Char) : List Char :=
  s.flatMap escapeChar

/-- The value of a hexadecimal digit of either case. -/
def hexValue? (c : Char) : Option Nat :=
  if '0' ≤ c ∧ c ≤ '9' then some (c.toNat - '0'.toNat)
  else if 'a' ≤ c ∧ c ≤ 'f' then some (c.toNat - 'a'.toNat + 10)
  else if 'A' ≤ c ∧ c ≤ 'F' then some (c.toNat - 'A'.toNat + 10)
  else none

/-- A part of a string: a character, or an escape by number. -/
inductive Piece where
  /-- A character that stands for itself or is escaped by a letter. -/
  | plain (c : Char)
  /-- A UTF-16 unit. -/
  | unit (u : Nat)
  deriving DecidableEq, Repr

/-- The character of a letter that follows a backslash. -/
def letter? : Char → Option Char
  | '\x22' => some '\x22'
  | '\\' => some '\\'
  | '/' => some '/'
  | 'b' => some '\x08'
  | 'f' => some '\x0c'
  | 'n' => some '\n'
  | 'r' => some '\r'
  | 't' => some '\t'
  | _ => none

/-- The unit of four hexadecimal digits. -/
def unit? (a b c d : Char) : Option Nat :=
  match hexValue? a, hexValue? b, hexValue? c, hexValue? d with
  | some a, some b, some c, some d => some (4096 * a + 256 * b + 16 * c + d)
  | _, _, _, _ => none

/-- The pieces up to the closing quote, and what follows it. A control character has to be
escaped. -/
def pieces? : List Char → Option (List Piece × List Char)
  | [] => none
  | '\x22' :: rest => some ([], rest)
  | '\\' :: 'u' :: a :: b :: c :: d :: rest =>
    match unit? a b c d with
    | none => none
    | some u => (pieces? rest).map fun (ps, r) => (.unit u :: ps, r)
  | '\\' :: c :: rest =>
    match letter? c with
    | none => none
    | some c => (pieces? rest).map fun (ps, r) => (.plain c :: ps, r)
  | c :: rest =>
    if c.toNat < 0x20 ∨ c = '\\' then none
    else (pieces? rest).map fun (ps, r) => (.plain c :: ps, r)

/-- The units that come first in a pair. -/
def isHighUnit (u : Nat) : Bool :=
  0xD800 ≤ u && u < 0xDC00

/-- The units that come second in a pair. -/
def isLowUnit (u : Nat) : Bool :=
  0xDC00 ≤ u && u < 0xE000

/-- The text of a list of pieces, if no piece is half of a pair. -/
def join : List Piece → Option (List Char)
  | [] => some []
  | .plain c :: rest => (join rest).map (c :: ·)
  | .unit u :: .unit v :: rest =>
    if isHighUnit u then
      if isLowUnit v then
        (join rest).map (Char.ofNat (0x10000 + (u - 0xD800) * 1024 + (v - 0xDC00)) :: ·)
      else none
    else if isLowUnit u then none
    else (join (.unit v :: rest)).map (Char.ofNat u :: ·)
  | .unit u :: rest =>
    if isHighUnit u || isLowUnit u then none else (join rest).map (Char.ofNat u :: ·)

theorem length_of_pieces? {s : List Char} {p : List Piece × List Char} (h : pieces? s = some p) :
    p.2.length < s.length := by
  fun_induction pieces? s generalizing p with
  | case1 => cases h
  | case2 rest => cases h; simp
  | case3 => cases h
  | case4 a b c d rest u hu ih =>
    obtain ⟨q, hq, rfl⟩ := Option.map_eq_some_iff.1 h
    have := ih hq
    simp only [List.length_cons]
    omega
  | case5 => cases h
  | case6 c rest _ c' hc ih =>
    obtain ⟨q, hq, rfl⟩ := Option.map_eq_some_iff.1 h
    have := ih hq
    simp only [List.length_cons]
    omega
  | case7 => cases h
  | case8 c rest _ _ _ hc ih =>
    obtain ⟨q, hq, rfl⟩ := Option.map_eq_some_iff.1 h
    have := ih hq
    simp only [List.length_cons]
    omega

end PartitionedRollout.Json
