/-
# PartitionedRollout.Proofs.TimeSpan.Scaling -- how exact a multiple of a time span is

A multiple is computed with several roundings to 53 bits and one to whole nanoseconds. `Close` says
that a number differs from another one by at most so many roundings of 53 bits; it adds up along a
computation, so the error of the whole is read off its steps. For a factor of one and a half that is
little enough to tell what matters of a growing interval: it does not shrink and at most doubles.
-/

import Mathlib.Algebra.Order.Field.Rat
import Mathlib.Tactic.FieldSimp
import Mathlib.Tactic.GCongr
import Mathlib.Tactic.Linarith
import Mathlib.Tactic.NormNum
import Mathlib.Tactic.Positivity
import Mathlib.Tactic.Ring
import PartitionedRollout.TimeSpan.Scaling

namespace PartitionedRollout

namespace Fraction

/-! ## Rounding to whole numbers -/

/-- Twice a rounded quotient is at most one away from twice the quotient. -/
theorem roundHalfEven_near {a b : Nat} (hb : 0 < b) :
    2 * (roundHalfEven a b * b) ≤ 2 * a + b ∧ 2 * a ≤ 2 * (roundHalfEven a b * b) + b := by
  have hdivision := Nat.div_add_mod a b
  have hrest := Nat.mod_lt a hb
  unfold roundHalfEven
  simp only [Bool.or_eq_true, Bool.and_eq_true, decide_eq_true_eq, beq_iff_eq]
  generalize a / b = q at hdivision
  generalize a % b = r at hdivision hrest
  rw [Nat.mul_comm] at hdivision
  split
  · rw [Nat.add_mul, Nat.one_mul]
    omega
  · omega

/-! ## Rounding to 53 bits -/

/-- The number that a fraction stands for. -/
def value (x : Fraction) : ℚ :=
  x.num / x.den

/-- The power of two by which `nearest` shifts the numerator, or, if it is negative, the
denominator. -/
def shift (x : Fraction) : Int :=
  let guess : Int := Int.ofNat (fractionBits + x.den.log2) - Int.ofNat x.num.log2
  if (x.num * powerOfTwo guess.toNat) / (x.den * powerOfTwo (-guess).toNat) <
    powerOfTwo fractionBits then guess + 1 else guess

theorem powerOfTwo_eq (n : Nat) : powerOfTwo n = 2 ^ n :=
  Nat.one_shiftLeft n

theorem nearest_eq {x : Fraction} (hx : x.num ≠ 0) :
    nearest x = ⟨roundHalfEven (x.num * 2 ^ x.shift.toNat) (x.den * 2 ^ (-x.shift).toNat) *
      2 ^ (-x.shift).toNat, 2 ^ x.shift.toNat⟩ := by
  unfold nearest
  rw [if_neg hx]
  simp only [← powerOfTwo_eq]
  rfl

/-- After the shift, the quotient has 53 bits before the point. -/
theorem le_shifted {x : Fraction} (hnum : x.num ≠ 0) (hden : 0 < x.den) :
    2 ^ 52 * (x.den * 2 ^ (-x.shift).toNat) ≤ x.num * 2 ^ x.shift.toNat := by
  unfold shift
  simp only [powerOfTwo_eq]
  set guess : Int := Int.ofNat (fractionBits + x.den.log2) - Int.ofNat x.num.log2 with hguess
  split
  next hsmall =>
    -- By the lengths, one more than the guess is enough.
    have hlength : 52 + (x.den.log2 + 1) + (-(guess + 1)).toNat =
        x.num.log2 + (guess + 1).toNat := by
      simp only [fractionBits, Int.ofNat_eq_natCast] at hguess
      omega
    calc 2 ^ 52 * (x.den * 2 ^ (-(guess + 1)).toNat)
        ≤ 2 ^ 52 * (2 ^ (x.den.log2 + 1) * 2 ^ (-(guess + 1)).toNat) := by
          gcongr
          exact Nat.le_of_lt Nat.lt_log2_self
      _ = 2 ^ x.num.log2 * 2 ^ (guess + 1).toNat := by
          rw [← Nat.mul_assoc, ← Nat.pow_add, ← Nat.pow_add, ← Nat.pow_add, hlength]
      _ ≤ x.num * 2 ^ (guess + 1).toNat := by
          gcongr
          exact Nat.log2_self_le hnum
  next hlarge =>
    rw [Nat.not_lt, Nat.le_div_iff_mul_le (by positivity)] at hlarge
    exact hlarge

theorem nearest_den_pos {x : Fraction} : 0 < x.nearest.den := by
  by_cases hx : x.num = 0
  · rw [nearest, if_pos hx]
    exact Nat.one_pos
  · rw [nearest_eq hx]
    exact Nat.two_pow_pos _

/-- A number differs from another one by at most so many roundings to 53 bits. -/
def Close (k : Nat) (x y : ℚ) : Prop :=
  (2 ^ 53 - 1) ^ k * y ≤ (2 ^ 53) ^ k * x ∧ (2 ^ 53) ^ k * x ≤ (2 ^ 53 + 1) ^ k * y

namespace Close

variable {j k : Nat} {x x' y y' z : ℚ}

theorem trans (h : Close j x y) (h' : Close k y z) : Close (j + k) x z := by
  obtain ⟨hlow, hhigh⟩ := h
  obtain ⟨hlow', hhigh'⟩ := h'
  unfold Close
  simp only [pow_add]
  constructor
  · calc (2 ^ 53 - 1) ^ j * (2 ^ 53 - 1) ^ k * z
        = (2 ^ 53 - 1) ^ j * ((2 ^ 53 - 1) ^ k * z) := by ring
      _ ≤ (2 ^ 53 - 1) ^ j * ((2 ^ 53) ^ k * y) := by gcongr
      _ = (2 ^ 53) ^ k * ((2 ^ 53 - 1) ^ j * y) := by ring
      _ ≤ (2 ^ 53) ^ k * ((2 ^ 53) ^ j * x) := by gcongr
      _ = (2 ^ 53) ^ j * (2 ^ 53) ^ k * x := by ring
  · calc (2 ^ 53) ^ j * (2 ^ 53) ^ k * x
        = (2 ^ 53) ^ k * ((2 ^ 53) ^ j * x) := by ring
      _ ≤ (2 ^ 53) ^ k * ((2 ^ 53 + 1) ^ j * y) := by gcongr
      _ = (2 ^ 53 + 1) ^ j * ((2 ^ 53) ^ k * y) := by ring
      _ ≤ (2 ^ 53 + 1) ^ j * ((2 ^ 53 + 1) ^ k * z) := by gcongr
      _ = (2 ^ 53 + 1) ^ j * (2 ^ 53 + 1) ^ k * z := by ring

theorem add (h : Close k x y) (h' : Close k x' y') : Close k (x + x') (y + y') := by
  unfold Close
  rw [mul_add, mul_add, mul_add]
  exact ⟨add_le_add h.1 h'.1, add_le_add h.2 h'.2⟩

theorem mul_left {c : ℚ} (hc : 0 ≤ c) (h : Close k x y) : Close k (c * x) (c * y) := by
  unfold Close
  rw [mul_left_comm, mul_left_comm _ c x, mul_left_comm _ c y]
  exact ⟨mul_le_mul_of_nonneg_left h.1 hc, mul_le_mul_of_nonneg_left h.2 hc⟩

end Close

/-- One rounding. -/
theorem close_nearest {x : Fraction} (hden : 0 < x.den) : Close 1 x.nearest.value x.value := by
  by_cases hx : x.num = 0
  · simp [Close, nearest, value, hx]
  · have hshifted := le_shifted hx hden
    rw [nearest_eq hx]
    set up := 2 ^ x.shift.toNat with hup
    set down := 2 ^ (-x.shift).toNat with hdown
    have hup' : 0 < up := Nat.two_pow_pos _
    have hdown' : 0 < down := Nat.two_pow_pos _
    obtain ⟨hhigh, hlow⟩ := roundHalfEven_near (a := x.num * up) (Nat.mul_pos hden hdown')
    generalize roundHalfEven (x.num * up) (x.den * down) = r at hhigh hlow ⊢
    -- Half a unit is little beside a quotient of 53 bits.
    have hlow' : (2 ^ 53 - 1) * (x.num * up) ≤ 2 ^ 53 * (r * (x.den * down)) := by omega
    have hhigh' : 2 ^ 53 * (r * (x.den * down)) ≤ (2 ^ 53 + 1) * (x.num * up) := by omega
    have hdenQ : (0 : ℚ) < x.den := Nat.cast_pos.2 hden
    have hupQ : (0 : ℚ) < up := Nat.cast_pos.2 hup'
    unfold Close value
    rw [pow_one, pow_one, pow_one, mul_div_assoc', mul_div_assoc', mul_div_assoc',
      div_le_div_iff₀ hdenQ hupQ, div_le_div_iff₀ hupQ hdenQ]
    have hlowQ : ((2 ^ 53 - 1 : ℕ) : ℚ) * (x.num * up) ≤ 2 ^ 53 * (r * (x.den * down)) := by
      exact_mod_cast hlow'
    have hhighQ : (2 : ℚ) ^ 53 * (r * (x.den * down)) ≤ (2 ^ 53 + 1) * (x.num * up) := by
      exact_mod_cast hhigh'
    push_cast at hlowQ ⊢
    constructor <;> linarith

/-- A sum that is rounded. -/
theorem close_add {x y : Fraction} (hx : 0 < x.den) (hy : 0 < y.den) :
    Close 1 (add x y).value (x.value + y.value) := by
  have hsum : (⟨x.num * y.den + y.num * x.den, x.den * y.den⟩ : Fraction).value =
      x.value + y.value := by
    have hxQ : (x.den : ℚ) ≠ 0 := Nat.cast_ne_zero.2 (Nat.pos_iff_ne_zero.1 hx)
    have hyQ : (y.den : ℚ) ≠ 0 := Nat.cast_ne_zero.2 (Nat.pos_iff_ne_zero.1 hy)
    unfold value
    push_cast
    field_simp
  rw [← hsum]
  exact close_nearest (Nat.mul_pos hx hy)

/-- A product that is rounded. -/
theorem close_mul {x y : Fraction} (hx : 0 < x.den) (hy : 0 < y.den) :
    Close 1 (mul x y).value (x.value * y.value) := by
  have hproduct : (⟨x.num * y.num, x.den * y.den⟩ : Fraction).value = x.value * y.value := by
    unfold value
    push_cast
    rw [div_mul_div_comm]
  rw [← hproduct]
  exact close_nearest (Nat.mul_pos hx hy)

/-- A multiple of a fraction is half a unit away when it is rounded to a whole number. -/
theorem roundHalfEven_value {x : Fraction} (hden : 0 < x.den) (c : Nat) :
    2 * (roundHalfEven (x.num * c) x.den : ℚ) ≤ 2 * (c * x.value) + 1 ∧
      2 * (c * x.value) ≤ 2 * (roundHalfEven (x.num * c) x.den : ℚ) + 1 := by
  obtain ⟨hhigh, hlow⟩ := roundHalfEven_near (a := x.num * c) hden
  generalize roundHalfEven (x.num * c) x.den = r at hhigh hlow
  have hdenQ : (0 : ℚ) < x.den := Nat.cast_pos.2 hden
  have hnum : (x.num : ℚ) = x.value * x.den := (div_mul_cancel₀ _ hdenQ.ne').symm
  have hhighQ : 2 * ((r : ℚ) * x.den) ≤ 2 * (x.num * c) + x.den := by exact_mod_cast hhigh
  have hlowQ : 2 * ((x.num : ℚ) * c) ≤ 2 * (r * x.den) + x.den := by exact_mod_cast hlow
  rw [hnum] at hhighQ hlowQ
  constructor
  · refine le_of_mul_le_mul_right ?_ hdenQ
    linarith
  · refine le_of_mul_le_mul_right ?_ hdenQ
    linarith

/-- Three roundings are less than a hundredth. -/
theorem Close.near {x y : ℚ} (h : Close 3 x y) (hy : 0 ≤ y) :
    99 * y ≤ 100 * x ∧ 100 * x ≤ 101 * y := by
  obtain ⟨hlow, hhigh⟩ := h
  norm_num at hlow hhigh
  constructor <;> linarith

end Fraction

/-! ## Multiples -/

namespace TimeSpan

open Fraction

variable {d : TimeSpan}

/-- A span in seconds is two roundings away from its nanoseconds. -/
theorem close_toSeconds (d : TimeSpan) : Close 2 d.toSeconds.value (d.nanos / nanosPerSecond) := by
  have hparts : (d.nanos : ℚ) / nanosPerSecond =
      (⟨d.secs, 1⟩ : Fraction).value + (⟨d.subsecNanos, nanosPerSecond⟩ : Fraction).value := by
    have hdivision : (d.nanos : ℚ) = nanosPerSecond * d.secs + d.subsecNanos := by
      exact_mod_cast (Nat.div_add_mod d.nanos nanosPerSecond).symm
    unfold value
    rw [hdivision]
    have hpos : (nanosPerSecond : ℚ) ≠ 0 := by norm_num [nanosPerSecond]
    push_cast
    field_simp
  have hsecs := close_nearest (x := ⟨d.secs, 1⟩) Nat.one_pos
  have hrest := close_nearest (x := ⟨d.subsecNanos, nanosPerSecond⟩)
    (show 0 < nanosPerSecond by decide)
  have hsum := close_add (x := nearest ⟨d.secs, 1⟩)
    (y := nearest ⟨d.subsecNanos, nanosPerSecond⟩) nearest_den_pos nearest_den_pos
  rw [hparts, toSeconds]
  show Close (1 + 1) _ _
  exact hsum.trans (hsecs.add hrest)

/-- A multiple in seconds is one rounding further away. -/
theorem close_scaled {f : Fraction} (hf : 0 < f.den) :
    Close 3 (mul f d.toSeconds).value (f.value * (d.nanos / nanosPerSecond)) := by
  have hvalue : 0 ≤ f.value := by
    unfold value
    positivity
  have hproduct := close_mul (y := d.toSeconds) hf nearest_den_pos
  show Close (1 + 2) _ _
  exact hproduct.trans ((close_toSeconds d).mul_left hvalue)

/-- One and a half times a span is a span again, unless it may be out of range. It is not shorter
than the span and not longer than twice the span. -/
theorem scale?_oneAndAHalf {f : Fraction} (hf : 0 < f.den) (hvalue : f.value = 3 / 2)
    (hpos : 0 < d.nanos) (hfits : 2 * d.nanos < UInt64.size * nanosPerSecond) :
    ∃ e, d.scale? f = some e ∧ d.nanos ≤ e.nanos ∧ e.nanos ≤ 2 * d.nanos := by
  let x := mul f d.toSeconds
  obtain ⟨hlow, hhigh⟩ := (close_scaled (d := d) hf).near (by rw [hvalue]; positivity)
  obtain ⟨hover, hunder⟩ := roundHalfEven_value (x := x) nearest_den_pos nanosPerSecond
  generalize hr : roundHalfEven (x.num * nanosPerSecond) x.den = r at hover hunder
  have hbounds : d.nanos ≤ r ∧ r ≤ 2 * d.nanos := by
    have hone : (1 : ℚ) ≤ d.nanos := by exact_mod_cast hpos
    rw [hvalue] at hlow hhigh
    norm_num [nanosPerSecond] at hlow hhigh hover hunder
    constructor
    · by_contra hlt
      have hltQ : (r : ℚ) + 1 ≤ d.nanos := by exact_mod_cast Nat.lt_of_not_le hlt
      linarith
    · by_contra hlt
      have hltQ : 2 * (d.nanos : ℚ) + 1 ≤ r := by exact_mod_cast Nat.lt_of_not_le hlt
      linarith
  refine ⟨⟨r, Nat.lt_of_le_of_lt hbounds.2 hfits⟩, ?_, hbounds⟩
  show ofNanos? (roundHalfEven (x.num * nanosPerSecond) x.den) = _
  rw [hr]
  exact ofNanos?_eq_some_iff.2 rfl

end TimeSpan

end PartitionedRollout
