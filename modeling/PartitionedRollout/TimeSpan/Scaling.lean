/-
# PartitionedRollout.TimeSpan.Scaling -- multiples of a time span by a floating-point number

A span is first written as a floating-point number of seconds: whole seconds and the fraction
are rounded on their own and their sum once more. The multiple is rounded again, and the
result is the nearest whole number of nanoseconds, a tie going to the even neighbour. All of
it is computed on exact fractions, so the last nanosecond is right.
-/

import PartitionedRollout.Binary64
import PartitionedRollout.TimeSpan.Basic

namespace PartitionedRollout.TimeSpan

/-- The span as a floating-point number of seconds. -/
def toSeconds (d : TimeSpan) : Fraction :=
  Fraction.add (Fraction.nearest ⟨d.secs, 1⟩) (Fraction.nearest ⟨d.subsecNanos, nanosPerSecond⟩)

/-- The span nearest to a number of seconds, if it is not too long. -/
def ofSeconds? (x : Fraction) : Option TimeSpan :=
  ofNanos? (Fraction.roundHalfEven (x.num * nanosPerSecond) x.den)

/-- The span times a factor. -/
def scale? (factor : Fraction) (d : TimeSpan) : Option TimeSpan :=
  ofSeconds? (Fraction.mul factor d.toSeconds)

end PartitionedRollout.TimeSpan
