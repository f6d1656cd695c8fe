/-
# PartitionedRollout.Proofs.Json.Layout -- the spellings of a row of tokens

A row of tokens can be written in many ways: each token has its own spellings, and white space may
stand anywhere between tokens. `Lexeme` says how a single token may be written and `Spells` how a
row of them may be. A text scans as the tokens that it spells. The one thing to take care of is that
a number ends where its text does, so that every number in the row has to be the last token or to
stand in front of one that ends an item or a member: such a row is `Separated`.
-/

import PartitionedRollout.Json.Token
import PartitionedRollout.Proofs.Json.Strings

namespace PartitionedRollout.Json

open Text

/-! ## Spellings -/

/-- A run of at least one digit. -/
structure DigitRun (ds : List Char) : Prop where
  nonempty : ds ≠ []
  digits : ∀ c ∈ ds, Decimal.isDigit c = true

/-- The fraction of a number, or nothing. -/
inductive Fraction : List Char → Prop where
  | absent : Fraction []
  | present {ds : List Char} (h : DigitRun ds) : Fraction ('.' :: ds)

/-- The exponent of a number, or nothing. -/
inductive Exponent : List Char → Prop where
  | absent : Exponent []
  | unsigned {e : Char} {ds : List Char} (he : e = 'e' ∨ e = 'E') (h : DigitRun ds) :
      Exponent (e :: ds)
  | signed {e sign : Char} {ds : List Char} (he : e = 'e' ∨ e = 'E')
      (hsign : sign = '+' ∨ sign = '-') (h : DigitRun ds) : Exponent (e :: sign :: ds)

/-- How a token may be written. -/
inductive Lexeme : Token → List Char → Prop where
  | leftBrace : Lexeme .leftBrace ['\x7b']
  | rightBrace : Lexeme .rightBrace ['\x7d']
  | leftBracket : Lexeme .leftBracket ['[']
  | rightBracket : Lexeme .rightBracket [']']
  | comma : Lexeme .comma [',']
  | colon : Lexeme .colon [':']
  | nullWord : Lexeme .null ['n', 'u', 'l', 'l']
  | trueWord : Lexeme (.bool true) ['t', 'r', 'u', 'e']
  | falseWord : Lexeme (.bool false) ['f', 'a', 'l', 's', 'e']
  | natural (n : Nat) : Lexeme (.natural n) (Decimal.digits n)
  | decimal {n : Nat} {f e : List Char} (hf : Fraction f) (he : Exponent e) (h : f ≠ [] ∨ e ≠ []) :
      Lexeme (.number (String.ofList (Decimal.digits n ++ f ++ e))) (Decimal.digits n ++ f ++ e)
  | negative {n : Nat} {f e : List Char} (hf : Fraction f) (he : Exponent e) :
      Lexeme (.number (String.ofList ('-' :: (Decimal.digits n ++ f ++ e))))
        ('-' :: (Decimal.digits n ++ f ++ e))
  | string {s : List Char} {ps : List Piece} (h : Body s ps) :
      Lexeme (.string ((join ps).map String.ofList)) ('\x22' :: s ++ ['\x22'])

/-- How a row of tokens may be written: one after the other, with white space anywhere between. -/
inductive Spells : List Token → List Char → Prop where
  | nil : Spells [] []
  | space {c : Char} {ts : List Token} {s : List Char} (hc : isSpace c = true)
      (rest : Spells ts s) : Spells ts (c :: s)
  | token {t : Token} {ts : List Token} {s s' : List Char} (head : Lexeme t s)
      (rest : Spells ts s') : Spells (t :: ts) (s ++ s')

theorem Spells.append {ts ts' : List Token} {s s' : List Char} (h : Spells ts s)
    (h' : Spells ts' s') : Spells (ts ++ ts') (s ++ s') := by
  induction h with
  | nil => exact h'
  | space hc _ ih => exact .space hc ih
  | token head _ ih =>
    rw [List.append_assoc]
    exact .token head ih

theorem Spells.white {ts : List Token} {w s : List Char} (hw : ∀ c ∈ w, isSpace c = true)
    (h : Spells ts s) : Spells ts (w ++ s) := by
  induction w with
  | nil => exact h
  | cons c w ih =>
    exact .space (hw c List.mem_cons_self) (ih fun d hd => hw d (List.mem_cons_of_mem _ hd))

/-- What is written for a string is one of its spellings. -/
theorem lexeme_stringChars (text : Option String) : Lexeme (.string text) (stringChars text) := by
  cases text with
  | none => exact .string (.unit (u := 0xD800) rfl .nil)
  | some text =>
    obtain ⟨ps, hps, hjoin⟩ := body_escape text.toList
    have h := Lexeme.string hps
    rw [hjoin, Option.map_some, String.ofList_toList] at h
    exact h

/-! ## Scanning numbers -/

/-- A text in front of which a number ends. -/
def Bounded (s : List Char) : Prop :=
  ∀ c rest, s = c :: rest → Decimal.isDigit c = false ∧ c ≠ '.' ∧ c ≠ 'e' ∧ c ≠ 'E'

@[simp]
theorem bounded_nil : Bounded [] := by
  rintro c rest ⟨⟩

theorem bounded_cons {c : Char} {s : List Char} (hdigit : Decimal.isDigit c = false)
    (hc : c ≠ '.' ∧ c ≠ 'e' ∧ c ≠ 'E') : Bounded (c :: s) := by
  rintro _ _ ⟨⟩
  exact ⟨hdigit, hc⟩

/-- The numeral of a positive number does not start with a zero. -/
theorem digits_head_ne_zero {n : Nat} (h : 0 < n) (r : List Char) :
    Decimal.digits n ≠ '0' :: r := by
  induction n using Nat.strongRecOn generalizing r with
  | ind n ih =>
    rw [Decimal.digits, Nat.toDigits_eq_if (by decide)]
    split
    next hn =>
      have hall : ∀ m < 10, 0 < m → Nat.digitChar m ≠ '0' := by decide
      intro heq
      exact hall n hn h (List.cons.inj heq).1
    next hn =>
      -- With two digits or more, the first one is that of the tenth part.
      intro heq
      cases hd : Nat.toDigits 10 (n / 10) with
      | nil => exact Decimal.digits_ne_nil (n / 10) hd
      | cons d ds =>
        rw [hd] at heq
        obtain rfl := (List.cons.inj heq).1
        exact ih (n / 10) (by omega) (by omega) ds hd

/-- The text does not go on with a digit. -/
def EndsDigits (s : List Char) : Prop :=
  ∀ c ∈ s.head?, Decimal.isDigit c = false

theorem Bounded.endsDigits {rest : List Char} (h : Bounded rest) : EndsDigits rest := by
  intro c hc
  obtain ⟨s, rfl⟩ := List.head?_eq_some_iff.1 hc
  exact (h c s rfl).1

/-- A run of digits is taken as a whole. -/
theorem digits1?_run {ds rest : List Char} (hne : ds ≠ [])
    (hdigits : ∀ c ∈ ds, Decimal.isDigit c = true) (hrest : EndsDigits rest) :
    digits1? (ds ++ rest) = some (ds, rest) := by
  have htake : rest.takeWhile Decimal.isDigit = [] := by
    cases rest with
    | nil => rfl
    | cons c r => simp [hrest c rfl]
  have hdrop : rest.dropWhile Decimal.isDigit = rest := by
    cases rest with
    | nil => rfl
    | cons c r => simp [hrest c rfl]
  simp [digits1?, List.takeWhile_append_of_pos hdigits, List.dropWhile_append_of_pos hdigits,
    htake, hdrop, hne]

theorem integer?_digits (n : Nat) {rest : List Char} (hrest : EndsDigits rest) :
    integer? (Decimal.digits n ++ rest) = some (Decimal.digits n, rest) := by
  rw [integer?, digits1?_run (Decimal.digits_ne_nil n)
    (fun _ hc => Decimal.isDigit_of_mem_digits hc) hrest]
  split
  next heq =>
    obtain ⟨hd, -⟩ := Prod.mk.inj (Option.some.inj heq)
    rcases Nat.eq_zero_or_pos n with rfl | hn
    · simp [Decimal.digits, Nat.toDigits_zero] at hd
    · exact absurd hd (digits_head_ne_zero hn _)
  next => rfl

section

variable {ds f e rest : List Char} {n : Nat}

theorem DigitRun.digits1? (h : DigitRun ds) (hrest : EndsDigits rest) :
    digits1? (ds ++ rest) = some (ds, rest) :=
  digits1?_run h.nonempty h.digits hrest

theorem Exponent.endsDigits (he : Exponent e) (hrest : Bounded rest) : EndsDigits (e ++ rest) := by
  cases he with
  | absent => exact hrest.endsDigits
  | unsigned he | signed he =>
    rintro _ ⟨⟩
    rcases he with rfl | rfl <;> rfl

theorem Fraction.endsDigits (hf : Fraction f) (hrest : EndsDigits rest) :
    EndsDigits (f ++ rest) := by
  cases hf with
  | absent => exact hrest
  | present h =>
    rintro _ ⟨⟩
    rfl

theorem Exponent.ne_point (he : Exponent e) (hrest : Bounded rest) (s : List Char) :
    e ++ rest ≠ '.' :: s := by
  intro heq
  cases he with
  | absent => exact (hrest '.' s heq).2.1 rfl
  | unsigned he | signed he =>
    obtain rfl := (List.cons.inj heq).1
    revert he
    decide

theorem Fraction.fraction? (hf : Fraction f) (hrest : EndsDigits rest)
    (hpoint : ∀ s, rest ≠ '.' :: s) : fraction? (f ++ rest) = some (f, rest) := by
  cases hf with
  | absent =>
    rw [List.nil_append, Json.fraction?]
    exact hpoint
  | present h =>
    rw [List.cons_append, Json.fraction?, h.digits1? hrest]
    rfl

theorem Exponent.exponent? (he : Exponent e) (hrest : Bounded rest) :
    exponent? (e ++ rest) = some (e, rest) := by
  cases he with
  | absent =>
    cases rest with
    | nil => rfl
    | cons c s =>
      obtain ⟨-, -, hlower, hupper⟩ := hrest c s rfl
      simp [Json.exponent?, hlower, hupper]
  | @unsigned c ds he h =>
    cases ds with
    | nil => exact absurd rfl h.nonempty
    | cons d ds =>
      have hd := h.digits d List.mem_cons_self
      have hsign : ¬ (d = '+' ∨ d = '-') := by
        rintro (rfl | rfl) <;> cases hd
      have hdigits := h.digits1? hrest.endsDigits
      rw [List.cons_append] at hdigits
      simp [Json.exponent?, he, hsign, hdigits]
  | signed he hsign h =>
    simp [Json.exponent?, he, hsign, h.digits1? hrest.endsDigits]

/-- A numeral with a fraction and an exponent is scanned to its end. -/
theorem unsigned?_parts (hf : Fraction f) (he : Exponent e) (hrest : Bounded rest) :
    unsigned? (Decimal.digits n ++ f ++ e ++ rest) =
      some (if f.isEmpty && e.isEmpty then .natural n
        else .number (String.ofList (Decimal.digits n ++ f ++ e)), rest) := by
  have hends := he.endsDigits hrest
  have hvalue : Nat.ofDigitChars 10 (Decimal.digits n) 0 = n :=
    Nat.ofDigitChars_toDigits (by decide) (by decide)
  have hscan : unsigned? (Decimal.digits n ++ (f ++ (e ++ rest))) =
      if f.isEmpty && e.isEmpty then some (.natural n, rest)
      else some (.number (String.ofList (Decimal.digits n ++ f ++ e)), rest) := by
    simp only [unsigned?, integer?_digits n (hf.endsDigits hends),
      hf.fraction? hends (he.ne_point hrest), he.exponent? hrest, hvalue]
  rw [List.append_assoc, List.append_assoc, hscan]
  split <;> rfl

end

/-! ## Scanning tokens -/

theorem isSpace_iff {c : Char} :
    isSpace c = true ↔ c = ' ' ∨ c = '\t' ∨ c = '\n' ∨ c = '\r' := by
  simp [isSpace, or_assoc]

/-- No token starts with white space. -/
theorem isSpace_of_token? {c : Char} {s : List Char} {p : Token × List Char}
    (h : token? (c :: s) = some p) : isSpace c = false := by
  rw [Bool.eq_false_iff]
  intro hc
  rcases isSpace_iff.1 hc with rfl | rfl | rfl | rfl <;>
    simp [token?, unsigned?, integer?, digits1?, Decimal.isDigit] at h

/-- A text that starts with a token scans as this token and the tokens of what follows it. -/
theorem tokens?_of_token? {s after : List Char} {t : Token} (h : token? s = some (t, after)) :
    tokens? s = (tokens? after).map (t :: ·) := by
  cases s with
  | nil => simp [token?, unsigned?, integer?, digits1?] at h
  | cons c s =>
    rw [tokens?]
    simp only [isSpace_of_token? h, Bool.false_eq_true, if_false]
    split
    next h' => simp [h] at h'
    next t' after' h' =>
      obtain ⟨rfl, rfl⟩ : t = t' ∧ after = after' := by simpa [h] using h'
      rfl

/-- No other token starts with a digit. -/
theorem token?_of_isDigit {c : Char} (h : Decimal.isDigit c = true) (s : List Char) :
    token? (c :: s) = unsigned? (c :: s) := by
  rw [token?]
  -- Each of the other branches asks for a first character that is no digit.
  all_goals
    intro r heq
    obtain rfl := (List.cons.inj heq).1
    exact absurd h (by decide)

theorem token?_digits (n : Nat) (s : List Char) :
    token? (Decimal.digits n ++ s) = unsigned? (Decimal.digits n ++ s) := by
  cases hd : Decimal.digits n with
  | nil => exact absurd hd (Decimal.digits_ne_nil n)
  | cons d ds => exact token?_of_isDigit (Decimal.isDigit_of_mem_digits (hd ▸ List.mem_cons_self)) _

/-- The token is a number. -/
def Token.IsNumber : Token → Prop
  | .natural _ | .number _ => True
  | _ => False

/-- The token ends an item or a member. -/
def Token.Closes (t : Token) : Prop :=
  t = .comma ∨ t = .rightBracket ∨ t = .rightBrace

/-- A written token is scanned to its end; behind a number the text must not go on as one. -/
theorem Lexeme.token? {t : Token} {s rest : List Char} (h : Lexeme t s)
    (hrest : t.IsNumber → Bounded rest) : token? (s ++ rest) = some (t, rest) := by
  cases h with
  | leftBrace | rightBrace | leftBracket | rightBracket | comma | colon => rfl
  | nullWord | trueWord | falseWord => rfl
  | natural n =>
    have hscan := unsigned?_parts (n := n) .absent .absent (hrest trivial)
    rw [token?_digits]
    simpa using hscan
  | @decimal n f e hf he hne =>
    have hscan := unsigned?_parts (n := n) hf he (hrest trivial)
    rw [List.append_assoc, List.append_assoc] at hscan
    rw [if_neg (by simpa [Decidable.imp_iff_not_or] using hne)] at hscan
    rw [List.append_assoc, List.append_assoc, token?_digits, hscan]
  | @negative n f e hf he =>
    rw [List.cons_append, Json.token?, unsigned?_parts hf he (hrest trivial), Option.map_some]
    by_cases hempty : (f.isEmpty && e.isEmpty) = true
    · obtain ⟨rfl, rfl⟩ : f = [] ∧ e = [] := by simpa using hempty
      simp [Token.negate]
    · simp [hempty, Token.negate]
  | @string s ps h =>
    simp [Json.token?, h.pieces? rest]

/-! ## Scanning texts -/

/-- In a row of tokens every number is followed by the end of an item or a member, or is the
last token. -/
inductive Separated : List Token → Prop where
  | nil : Separated []
  | cons {t : Token} {ts : List Token} (head : t.IsNumber → ∀ u ∈ ts.head?, u.Closes)
      (rest : Separated ts) : Separated (t :: ts)

/-- In front of the end of an item or a member every number ends. -/
theorem Spells.bounded {ts : List Token} {s : List Char} (h : Spells ts s)
    (hts : ∀ u ∈ ts.head?, u.Closes) : Bounded s := by
  cases h with
  | nil => exact bounded_nil
  | space hc =>
    rcases isSpace_iff.1 hc with rfl | rfl | rfl | rfl <;> exact bounded_cons rfl (by decide)
  | @token t _ _ _ head =>
    rcases hts t rfl with rfl | rfl | rfl <;> cases head <;> exact bounded_cons rfl (by decide)

/-- A text scans as the tokens that it spells. -/
theorem Spells.tokens? {ts : List Token} {s : List Char} (h : Spells ts s) (hts : Separated ts) :
    tokens? s = some ts := by
  induction h with
  | nil => rw [Json.tokens?]
  | space hc _ ih =>
    rw [Json.tokens?, if_pos hc]
    exact ih hts
  | @token t ts s s' head rest ih =>
    obtain _ | ⟨hhead, hts⟩ := hts
    rw [tokens?_of_token? (head.token? fun hnumber => rest.bounded (hhead hnumber)), ih hts]
    rfl

end PartitionedRollout.Json
