/-
# PartitionedRollout.Text.Decimal -- decimal numerals

`digits n` is the numeral of `n` without leading zeros, and `value? s` reads a nonempty run of
ASCII digits, leading zeros included. `count?` is the reader for a bounded count: it also takes
one plus sign, and it refuses values that do not stay below the bound.
-/

namespace PartitionedRollout.Text.Decimal

/-- The ten ASCII digits, and no other Unicode digit. -/
def isDigit (c : Char) : Bool :=
  c.isDigit

/-- The numeral of a number, without leading zeros. -/
def digits (n : Nat) : List Char :=
  Nat.toDigits 10 n

/-- The number that a nonempty run of digits stands for. -/
def value? (s : List Char) : Option Nat :=
  if !s.isEmpty && s.all isDigit then some (Nat.ofDigitChars 10 s 0) else none

/-- A number below `bound`, with at most one plus sign in front of its digits. -/
def count? (bound : Nat) (s : List Char) : Option Nat :=
  let numeral := match s with
    | '+' :: r => r
    | r => r
  (value? numeral).filter (· < bound)

theorem isDigit_of_mem_digits {n : Nat} {c : Char} (h : c ∈ digits n) : isDigit c = true :=
  Nat.isDigit_of_mem_toDigits (by decide) (by decide) h

theorem digits_ne_nil (n : Nat) : digits n ≠ [] :=
  Nat.toDigits_ne_nil

end PartitionedRollout.Text.Decimal
