/-
# PartitionedRollout.Json.Token -- the tokens of a JSON text

Between tokens a JSON text may hold space, tab, line feed and carriage return and nothing
else. A token takes as many characters as it can: a number goes on as long as its grammar
allows, and what follows has to be a token of its own, which the reader of values then refuses
where no separator stands between the two.
-/

import PartitionedRollout.Json.Escape
import PartitionedRollout.Text.Decimal

namespace PartitionedRollout.Json

open Text

/-- A token. -/
inductive Token where
  /-- An opening brace. -/
  | leftBrace
  /-- A closing brace. -/
  | rightBrace
  /-- An opening bracket. -/
  | leftBracket
  /-- A closing bracket. -/
  | rightBracket
  /-- A comma. -/
  | comma
  /-- A colon. -/
  | colon
  /-- The word `null`. -/
  | null
  /-- The word `true` or `false`. -/
  | bool (b : Bool)
  /-- A number written with digits only. -/
  | natural (n : Nat)
  /-- Any other number. -/
  | number (literal : String)
  /-- A string; without a text if an escape in it is half of a surrogate pair. -/
  | string (text : Option String)
  deriving DecidableEq, Repr

/-- The white space of JSON. -/
def isSpace (c : Char) : Bool :=
  c == ' ' || c == '\t' || c == '\n' || c == '\r'

/-- A run of at least one digit, and what follows it. -/
def digits1? (s : List Char) : Option (List Char × List Char) :=
  let ds := s.takeWhile Decimal.isDigit
  if ds.isEmpty then none else some (ds, s.dropWhile Decimal.isDigit)

/-- The digits before the point of a number: one zero, or a run that starts with no zero. -/
def integer? (s : List Char) : Option (List Char × List Char) :=
  match digits1? s with
  | some ('0' :: _ :: _, _) => none
  | r => r

/-- The fraction of a number, if it has one. -/
def fraction? : List Char → Option (List Char × List Char)
  | '.' :: rest => (digits1? rest).map fun (ds, r) => ('.' :: ds, r)
  | rest => some ([], rest)

/-- The exponent of a number, if it has one. -/
def exponent? : List Char → Option (List Char × List Char)
  | e :: rest =>
    if e = 'e' ∨ e = 'E' then
      match rest with
      | sign :: rest' =>
        if sign = '+' ∨ sign = '-' then (digits1? rest').map fun (ds, r) => (e :: sign :: ds, r)
        else (digits1? rest).map fun (ds, r) => (e :: ds, r)
      | [] => none
    else some ([], e :: rest)
  | [] => some ([], [])

/-- A number without a sign in front. -/
def unsigned? (s : List Char) : Option (Token × List Char) :=
  match integer? s with
  | none => none
  | some (whole, s1) =>
    match fraction? s1 with
    | none => none
    | some (fraction, s2) =>
      match exponent? s2 with
      | none => none
      | some (exponent, s3) =>
        if fraction.isEmpty && exponent.isEmpty then
          some (.natural (Nat.ofDigitChars 10 whole 0), s3)
        else some (.number (String.ofList (whole ++ fraction ++ exponent)), s3)

/-- The number that is the negative of an unsigned one. -/
def Token.negate : Token → Token
  | .natural n => .number (String.ofList ('-' :: Decimal.digits n))
  | .number s => .number (String.ofList ('-' :: s.toList))
  | t => t

/-- The token that a text starts with, and what follows it. -/
def token? : List Char → Option (Token × List Char)
  | '\x7b' :: rest => some (.leftBrace, rest)
  | '\x7d' :: rest => some (.rightBrace, rest)
  | '[' :: rest => some (.leftBracket, rest)
  | ']' :: rest => some (.rightBracket, rest)
  | ',' :: rest => some (.comma, rest)
  | ':' :: rest => some (.colon, rest)
  | 'n' :: 'u' :: 'l' :: 'l' :: rest => some (.null, rest)
  | 't' :: 'r' :: 'u' :: 'e' :: rest => some (.bool true, rest)
  | 'f' :: 'a' :: 'l' :: 's' :: 'e' :: rest => some (.bool false, rest)
  | '\x22' :: rest => (pieces? rest).map fun (ps, r) => (.string ((join ps).map String.ofList), r)
  | '-' :: rest => (unsigned? rest).map fun (t, r) => (t.negate, r)
  | rest => unsigned? rest

/-! ## Every token takes something -/

theorem length_dropWhile_le (p : Char → Bool) (s : List Char) :
    (s.dropWhile p).length ≤ s.length :=
  (List.dropWhile_sublist p).length_le

theorem length_of_digits1? {s : List Char} {p : List Char × List Char} (h : digits1? s = some p) :
    p.2.length < s.length := by
  unfold digits1? at h
  simp only at h
  split at h
  · cases h
  next hne =>
    cases h
    cases s with
    | nil => simp at hne
    | cons c r =>
      by_cases hc : Decimal.isDigit c = true
      · have := length_dropWhile_le Decimal.isDigit r
        simp only [List.dropWhile_cons, hc, if_true, List.length_cons]
        omega
      · simp [hc] at hne

theorem length_of_integer? {s : List Char} {p : List Char × List Char} (h : integer? s = some p) :
    p.2.length < s.length := by
  unfold integer? at h
  split at h
  · cases h
  · exact length_of_digits1? h

theorem length_of_fraction? {s : List Char} {p : List Char × List Char}
    (h : fraction? s = some p) : p.2.length ≤ s.length := by
  unfold fraction? at h
  split at h
  · obtain ⟨q, hq, rfl⟩ := Option.map_eq_some_iff.1 h
    have := length_of_digits1? hq
    simp only [List.length_cons]
    omega
  · cases h; exact Nat.le_refl _

theorem length_of_exponent? {s : List Char} {p : List Char × List Char}
    (h : exponent? s = some p) : p.2.length ≤ s.length := by
  unfold exponent? at h
  split at h
  · split at h
    · split at h
      · split at h
        all_goals
          obtain ⟨q, hq, rfl⟩ := Option.map_eq_some_iff.1 h
          have := length_of_digits1? hq
          simp only [List.length_cons] at this ⊢
          omega
      · cases h
    · cases h; exact Nat.le_refl _
  · cases h; exact Nat.le_refl _

theorem length_of_unsigned? {s : List Char} {p : Token × List Char} (h : unsigned? s = some p) :
    p.2.length < s.length := by
  unfold unsigned? at h
  split at h
  · cases h
  next hw =>
    split at h
    · cases h
    next hf =>
      split at h
      · cases h
      next he =>
        have h1 := length_of_integer? hw
        have h2 := length_of_fraction? hf
        have h3 := length_of_exponent? he
        simp only at h1 h2 h3
        split at h <;> cases h <;> simp only <;> omega

theorem length_of_token? {s : List Char} {p : Token × List Char} (h : token? s = some p) :
    p.2.length < s.length := by
  unfold token? at h
  split at h
  case h_10 =>
    obtain ⟨q, hq, rfl⟩ := Option.map_eq_some_iff.1 h
    have := length_of_pieces? hq
    simp only [List.length_cons]
    omega
  case h_11 =>
    obtain ⟨q, hq, rfl⟩ := Option.map_eq_some_iff.1 h
    have := length_of_unsigned? hq
    simp only [List.length_cons]
    omega
  case h_12 => exact length_of_unsigned? h
  all_goals cases h; simp only [List.length_cons]; omega

/-- The tokens of a text, if it is made of tokens and white space. -/
def tokens? : List Char → Option (List Token)
  | [] => some []
  | c :: rest =>
    if isSpace c then tokens? rest
    else
      match h : token? (c :: rest) with
      | none => none
      | some (t, after) =>
        have : after.length < (c :: rest).length := length_of_token? h
        (tokens? after).map (t :: ·)
termination_by s => s.length
decreasing_by
  · exact Nat.lt_succ_self _
  · exact this

end PartitionedRollout.Json
