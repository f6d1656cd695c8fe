/-
# PartitionedRollout.TimeSpan.Basic -- lengths of time

A time span is a whole number of nanoseconds below 2^64 seconds. Operations that could leave
this range are partial: a sum, a double or a multiple that does not fit is `none`, never a
wrapped or clamped value. The difference of two spans stops at zero.
-/

namespace PartitionedRollout

/-- Nanoseconds in a second. -/
def nanosPerSecond : Nat := 1000000000

/-- Nanoseconds in a millisecond. -/
def nanosPerMilli : Nat := 1000000

/-- A length of time that fits in 64 bits of seconds and a fraction of whole nanoseconds. -/
structure TimeSpan where
  /-- The whole length in nanoseconds. -/
  nanos : Nat
  /-- The seconds fit in 64 bits. -/
  bounded : nanos < UInt64.size * nanosPerSecond
  deriving DecidableEq, Repr

namespace TimeSpan

/-- The span of no time at all. -/
def zero : TimeSpan :=
  ⟨0, by decide⟩

instance : Inhabited TimeSpan :=
  ⟨zero⟩

/-- The span of a number of nanoseconds, if it is not too long. -/
def ofNanos? (n : Nat) : Option TimeSpan :=
  if h : n < UInt64.size * nanosPerSecond then some ⟨n, h⟩ else none

/-- The span of a number of seconds. -/
def ofSecs (n : UInt64) : TimeSpan :=
  ⟨n.toNat * nanosPerSecond, Nat.mul_lt_mul_of_pos_right n.toNat_lt_size (by decide)⟩

/-- The span of a number of milliseconds. -/
def ofMillis (n : UInt64) : TimeSpan :=
  ⟨n.toNat * nanosPerMilli, by
    have := n.toNat_lt_size
    simp only [nanosPerMilli, nanosPerSecond, UInt64.size] at *
    omega⟩

/-- The whole seconds of a span. -/
def secs (d : TimeSpan) : Nat :=
  d.nanos / nanosPerSecond

/-- The nanoseconds of a span beyond its whole seconds. -/
def subsecNanos (d : TimeSpan) : Nat :=
  d.nanos % nanosPerSecond

/-- The milliseconds of a span, a started one counted as a whole one. -/
def ceilMillis (d : TimeSpan) : Nat :=
  (d.nanos + (nanosPerMilli - 1)) / nanosPerMilli

instance : LE TimeSpan :=
  ⟨fun a b => a.nanos ≤ b.nanos⟩

instance : LT TimeSpan :=
  ⟨fun a b => a.nanos < b.nanos⟩

instance (a b : TimeSpan) : Decidable (a ≤ b) :=
  inferInstanceAs (Decidable (a.nanos ≤ b.nanos))

instance (a b : TimeSpan) : Decidable (a < b) :=
  inferInstanceAs (Decidable (a.nanos < b.nanos))

instance : Min TimeSpan :=
  minOfLe

/-- No time at all. -/
def isZero (d : TimeSpan) : Bool :=
  d.nanos == 0

/-- The sum of two spans, if it is not too long. -/
def add? (a b : TimeSpan) : Option TimeSpan :=
  ofNanos? (a.nanos + b.nanos)

/-- Twice a span, if that is not too long. -/
def double? (a : TimeSpan) : Option TimeSpan :=
  ofNanos? (2 * a.nanos)

/-- The difference of two spans, and no time where the second one is longer. -/
def sub (a b : TimeSpan) : TimeSpan :=
  ⟨a.nanos - b.nanos, Nat.lt_of_le_of_lt (Nat.sub_le ..) a.bounded⟩

instance : Sub TimeSpan :=
  ⟨sub⟩

/-! ## Laws -/

@[ext]
theorem ext {a b : TimeSpan} (h : a.nanos = b.nanos) : a = b := by
  cases a; cases b; simp_all

theorem le_def {a b : TimeSpan} : a ≤ b ↔ a.nanos ≤ b.nanos :=
  Iff.rfl

theorem lt_def {a b : TimeSpan} : a < b ↔ a.nanos < b.nanos :=
  Iff.rfl

@[simp]
theorem nanos_zero : zero.nanos = 0 :=
  rfl

@[simp]
theorem nanos_ofSecs (n : UInt64) : (ofSecs n).nanos = n.toNat * nanosPerSecond :=
  rfl

@[simp]
theorem nanos_ofMillis (n : UInt64) : (ofMillis n).nanos = n.toNat * nanosPerMilli :=
  rfl

@[simp]
theorem nanos_sub (a b : TimeSpan) : (a - b).nanos = a.nanos - b.nanos :=
  rfl

theorem nanos_min (a b : TimeSpan) : (min a b).nanos = min a.nanos b.nanos := by
  show (if a ≤ b then a else b).nanos = _
  by_cases h : a ≤ b
  · rw [if_pos h, Nat.min_eq_left (le_def.1 h)]
  · rw [if_neg h, Nat.min_eq_right (Nat.le_of_not_le h)]

theorem ofNanos?_eq_some_iff {n : Nat} {d : TimeSpan} : ofNanos? n = some d ↔ d.nanos = n := by
  unfold ofNanos?
  split
  next h =>
    constructor
    · intro e; cases e; rfl
    · rintro rfl; rfl
  next h =>
    constructor
    · intro e; cases e
    · rintro rfl; exact absurd d.bounded h

theorem ofNanos?_eq_none_iff {n : Nat} :
    ofNanos? n = none ↔ UInt64.size * nanosPerSecond ≤ n := by
  unfold ofNanos?
  split
  next h => exact ⟨fun e => (nomatch e), fun e => absurd h (Nat.not_lt.2 e)⟩
  next h => exact ⟨fun _ => Nat.not_lt.1 h, fun _ => rfl⟩

end TimeSpan

end PartitionedRollout
