/-
# PartitionedRollout.Toml.Scalar -- TOML values that are one word

Numbers, truth values, dates and times are written as one word without blanks; only between a
date and a time a space may stand. A word is read as a whole: what starts like a number and
goes on as something else is no value.
-/

import PartitionedRollout.Binary64
import PartitionedRollout.Json.Escape
import PartitionedRollout.Text.Decimal
import PartitionedRollout.Toml.Text
import PartitionedRollout.Toml.Value

namespace PartitionedRollout.Toml

open Text

/-- The characters that end a word. -/
def endsWord (c : Char) : Bool :=
  isSpace c || c == '\n' || c == '\r' || c == '#' || c == ',' || c == ']' || c == '\x7d'

/-! ## Integers -/

/-- The digits of a run in which single underscores may stand between two digits. -/
def digitRun? (isDigit : Char → Bool) : List Char → Option (List Char)
  | [] => none
  | [c] => if isDigit c then some [c] else none
  | c :: '_' :: rest => if isDigit c then (digitRun? isDigit rest).map (c :: ·) else none
  | c :: rest => if isDigit c then (digitRun? isDigit rest).map (c :: ·) else none

/-- A word without its sign, and whether that is a minus sign. -/
def splitSign : List Char → Bool × List Char
  | '+' :: rest => (false, rest)
  | '-' :: rest => (true, rest)
  | rest => (false, rest)

/-- The digits of a decimal number without a sign; a leading zero stands alone. -/
def wholeDigits? (s : List Char) : Option (List Char) :=
  match s with
  | '0' :: _ :: _ => none
  | _ => digitRun? Decimal.isDigit s

/-- An integer that fits in 64 bits with a sign. -/
def integerOf? (negative : Bool) (n : Nat) : Option Value :=
  if negative then if n ≤ UInt64.size / 2 then some (.integer (-Int.ofNat n)) else none
  else if n < UInt64.size / 2 then some (.integer (Int.ofNat n)) else none

/-- A number in base two, eight or sixteen, behind the mark of its base. -/
def basedInteger? (base : Nat) (s : List Char) : Option Value :=
  let value? := fun c => (Json.hexValue? c).filter (· < base)
  (digitRun? (fun c => (value? c).isSome) s).bind fun ds =>
    integerOf? false (ds.foldl (fun n c => base * n + (value? c).getD 0) 0)

/-- A decimal integer. -/
def decimalInteger? (s : List Char) : Option Value :=
  let (negative, r) := splitSign s
  (wholeDigits? r).bind fun ds => integerOf? negative (Nat.ofDigitChars 10 ds 0)

/-! ## Floating-point numbers -/

/-- The number `digits` times ten to the power `exponent` is nearer to infinity than to any finite
number of 64 bits. Numbers that are far beyond or below that bound are told by their length. -/
def exceedsRange (digits : Nat) (exponent : Int) : Bool :=
  let length : Int := (Decimal.digits digits).length
  if digits = 0 ∨ length + exponent < 300 then false
  else if 320 < length + exponent then true
  else decide (Binary64.overflowBound ≤
    digits * Nat.pow 10 exponent.toNat / Nat.pow 10 (-exponent).toNat)

/-- The digits of a fraction and the exponent that follow the digits before the point. At least
one of the two has to be there. -/
def fractionAndExponent? (s : List Char) : Option (List Char × Int) :=
  let exponent? := fun (e : List Char) =>
    let (negative, r) := splitSign (e.drop 1)
    (digitRun? Decimal.isDigit r).map fun ds =>
      let n := Nat.ofDigitChars 10 ds 0
      if negative then -Int.ofNat n else Int.ofNat n
  let isMark := fun c => c == 'e' || c == 'E'
  match s with
  | '.' :: rest =>
    let e := rest.dropWhile fun c => !isMark c
    (digitRun? Decimal.isDigit (rest.takeWhile fun c => !isMark c)).bind fun ds =>
      if e.isEmpty then some (ds, 0) else (exponent? e).map fun n => (ds, n)
  | mark :: _ => if isMark mark then (exponent? s).map fun n => ([], n) else none
  | [] => none

/-- A floating-point number with digits. A positive one has to be nearest to a finite number. -/
def decimalFloat? (s : List Char) : Option Value :=
  let (negative, r) := splitSign s
  let isWhole := fun c => Decimal.isDigit c || c == '_'
  (wholeDigits? (r.takeWhile isWhole)).bind fun whole =>
    (fractionAndExponent? (r.dropWhile isWhole)).bind fun (fraction, exponent) =>
      let digits := Nat.ofDigitChars 10 (whole ++ fraction) 0
      if !negative && exceedsRange digits (exponent - fraction.length) then none
      else some (.float (String.ofList s))

/-- Infinity and what is not a number. -/
def specialFloat? (s : List Char) : Option Value :=
  let (_, r) := splitSign s
  if r = ['i', 'n', 'f'] ∨ r = ['n', 'a', 'n'] then some (.float (String.ofList s)) else none

/-! ## Dates and times -/

/-- The number of exactly two digits between two bounds. -/
def twoDigits? (low high : Nat) (a b : Char) : Option Nat :=
  (Decimal.value? [a, b]).filter fun n => low ≤ n && n ≤ high

/-- The number of days in a month. -/
def daysInMonth (year month : Nat) : Nat :=
  if month = 2 then
    if year % 4 = 0 ∧ (year % 100 ≠ 0 ∨ year % 400 = 0) then 29 else 28
  else if month = 4 ∨ month = 6 ∨ month = 9 ∨ month = 11 then 30
  else 31

/-- What follows a date, if the word starts with one. -/
def afterDate? : List Char → Option (List Char)
  | y1 :: y2 :: y3 :: y4 :: '-' :: m1 :: m2 :: '-' :: d1 :: d2 :: rest =>
    match Decimal.value? [y1, y2, y3, y4], twoDigits? 1 12 m1 m2, twoDigits? 1 31 d1 d2 with
    | some year, some month, some day => if day ≤ daysInMonth year month then some rest else none
    | _, _, _ => none
  | _ => none

/-- What follows a time of day, if the word starts with one. -/
def afterTime? : List Char → Option (List Char)
  | h1 :: h2 :: ':' :: m1 :: m2 :: ':' :: s1 :: s2 :: rest =>
    match twoDigits? 0 23 h1 h2, twoDigits? 0 59 m1 m2, twoDigits? 0 60 s1 s2 with
    | some _, some _, some _ =>
      match rest with
      | '.' :: fraction =>
        if (fraction.takeWhile Decimal.isDigit).isEmpty then none
        else some (fraction.dropWhile Decimal.isDigit)
      | _ => some rest
    | _, _, _ => none
  | _ => none

/-- The word is a difference to universal time, or there is none. -/
def isOffset : List Char → Bool
  | [] => true
  | [c] => c == 'Z' || c == 'z'
  | [sign, h1, h2, ':', m1, m2] =>
    (sign == '+' || sign == '-') && (twoDigits? 0 23 h1 h2).isSome && (twoDigits? 0 59 m1 m2).isSome
  | _ => false

/-- The word is a time of day, perhaps with a difference to universal time. -/
def isTimeWithOffset (s : List Char) : Bool :=
  (afterTime? s).any isOffset

/-- The word is a date, perhaps with a time. -/
def isDate (s : List Char) : Bool :=
  match afterDate? s with
  | some [] => true
  | some (c :: rest) => (c == 'T' || c == 't') && isTimeWithOffset rest
  | none => false

/-- The word is a time of day. -/
def isTime (s : List Char) : Bool :=
  afterTime? s == some []

/-! ## Words -/

/-- The value of a word. -/
def wordValue? (s : List Char) : Option Value :=
  match s with
  | ['t', 'r', 'u', 'e'] => some (.bool true)
  | ['f', 'a', 'l', 's', 'e'] => some (.bool false)
  | '0' :: 'x' :: rest => basedInteger? 16 rest
  | '0' :: 'o' :: rest => basedInteger? 8 rest
  | '0' :: 'b' :: rest => basedInteger? 2 rest
  | _ =>
    if isDate s || isTime s then some (.moment (String.ofList s))
    else
      match decimalInteger? s with
      | some v => some v
      | none =>
        match decimalFloat? s with
        | some v => some v
        | none => specialFloat? s

/-- The value of the word that a text starts with, and what follows it. A date takes a time behind a
single space with it. -/
def word? (s : List Char) : Option (Value × List Char) :=
  let first := s.takeWhile fun c => !endsWord c
  let rest := s.dropWhile fun c => !endsWord c
  match rest with
  | ' ' :: more =>
    let second := more.takeWhile fun c => !endsWord c
    if afterDate? first == some [] && isTimeWithOffset second then
      some (.moment (String.ofList (first ++ ' ' :: second)), more.dropWhile fun c => !endsWord c)
    else (wordValue? first).map fun v => (v, rest)
  | _ => (wordValue? first).map fun v => (v, rest)

end PartitionedRollout.Toml
