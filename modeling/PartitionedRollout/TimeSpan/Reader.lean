/-
# PartitionedRollout.TimeSpan.Reader -- time spans written by hand

A written time span is a count and a unit: `500ms`, `5s`, `2m`, `1h`. Blanks may stand around
the whole and between count and unit, and a count without a unit is in seconds. A count is a
plain decimal number below 2^64 with at most one plus sign; minutes and hours must also fit in
64 bits of seconds.
-/

import PartitionedRollout.Text.Blank
import PartitionedRollout.Text.Decimal
import PartitionedRollout.TimeSpan.Basic

namespace PartitionedRollout.TimeSpan

open Text

/-- A count of some unit: below 2^64, with blanks around it ignored. -/
def count? (s : List Char) : Option Nat :=
  Decimal.count? UInt64.size (trim s)

/-- A count of units of so many seconds each, if the seconds fit in 64 bits. -/
def ofUnits? (unit : Nat) (s : List Char) : Option TimeSpan :=
  (count? s).bind fun n =>
    if n * unit < UInt64.size then ofNanos? (n * unit * nanosPerSecond) else none

/-- The span that a list of characters stands for. The unit is looked for from the end, so that the
two-letter unit is seen before the one-letter unit it ends in. -/
def ofChars? (s : List Char) : Option TimeSpan :=
  match (trim s).reverse with
  | 's' :: 'm' :: r => (count? r.reverse).bind fun n => ofNanos? (n * nanosPerMilli)
  | 's' :: r => ofUnits? 1 r.reverse
  | 'm' :: r => ofUnits? 60 r.reverse
  | 'h' :: r => ofUnits? 3600 r.reverse
  | r => ofUnits? 1 r.reverse

/-- Read a written time span. -/
def read? (s : String) : Option TimeSpan :=
  ofChars? s.toList

end PartitionedRollout.TimeSpan
