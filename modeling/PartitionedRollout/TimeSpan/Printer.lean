/-
# PartitionedRollout.TimeSpan.Printer -- time spans in messages

A message shows a time span in the largest of the units seconds, milliseconds, microseconds and
nanoseconds of which it holds at least one, with the rest as a decimal fraction that ends in no
zero: `16.088s`, `20ms`, `1.5µs`, `0ns`.
-/

import PartitionedRollout.Text.Decimal
import PartitionedRollout.TimeSpan.Basic

namespace PartitionedRollout.TimeSpan

open Text

/-- The digits of `n` below a decimal point: `places` of them, less the zeros at the end. -/
def fractionDigits (places n : Nat) : List Char :=
  let ds := Decimal.digits n
  ((List.replicate (places - ds.length) '0' ++ ds).reverse.dropWhile (· = '0')).reverse

/-- A whole number of units and a rest below one unit, of which 10 ^ `places` make a unit. -/
def quantity (whole places rest : Nat) (unit : List Char) : List Char :=
  let fraction := if rest = 0 then [] else '.' :: fractionDigits places rest
  Decimal.digits whole ++ fraction ++ unit

/-- The characters that show a span. -/
def toChars (d : TimeSpan) : List Char :=
  let n := d.nanos
  if nanosPerSecond ≤ n then quantity (n / nanosPerSecond) 9 (n % nanosPerSecond) ['s']
  else if nanosPerMilli ≤ n then quantity (n / nanosPerMilli) 6 (n % nanosPerMilli) ['m', 's']
  else if 1000 ≤ n then quantity (n / 1000) 3 (n % 1000) ['µ', 's']
  else quantity n 0 0 ['n', 's']

/-- A span as messages show it. -/
def display (d : TimeSpan) : String :=
  String.ofList d.toChars

instance : ToString TimeSpan :=
  ⟨display⟩

end PartitionedRollout.TimeSpan
