import Mathlib

/-! # Binary64 numbers by their bit patterns

  A binary64 number is a pattern of 64 bits, a sign and a magnitude.  It is
  compared by its sign and its magnitude, and a NaN compares with nothing.  Up
  to infinity the numbers without a sign are ordered like their patterns, so
  that the next pattern is the next number.
-/

namespace Sorotte.Framework

structure Binary64 where
  bits : UInt64
  deriving DecidableEq, Repr

namespace Binary64

/-- The pattern of positive infinity.  A larger magnitude is a NaN. -/
def infinityBits : Nat := 0x7FF0000000000000

def ofBits (pattern : Nat) : Binary64 := ⟨UInt64.ofNat pattern⟩

def pattern (x : Binary64) : Nat := x.bits.toNat

/-- Positive zero. -/
def zero : Binary64 := ofBits 0

def negative (x : Binary64) : Bool := 2 ^ 63 ≤ x.pattern

def magnitude (x : Binary64) : Nat := x.pattern % 2 ^ 63

def isNaN (x : Binary64) : Bool := infinityBits < x.magnitude

def isFinite (x : Binary64) : Bool := x.magnitude < infinityBits

/-- Where a number stands among the others.  Both zeros stand at zero. -/
def position (x : Binary64) : Int :=
  if x.negative then -(x.magnitude : Int) else x.magnitude

def lt (x y : Binary64) : Bool := !x.isNaN && !y.isNaN && x.position < y.position

def le (x y : Binary64) : Bool := !x.isNaN && !y.isNaN && x.position ≤ y.position

/-- The smaller of two numbers, neither of which is a NaN. -/
def least (x y : Binary64) : Binary64 := if y.lt x then y else x

/-- The number with the next pattern.  The last pattern is its own next. -/
def nextUp (x : Binary64) : Binary64 := ofBits (min (x.pattern + 1) (2 ^ 64 - 1))

/-! ### Patterns up to infinity -/

theorem pattern_ofBits {n : Nat} (h : n < 2 ^ 64) : (ofBits n).pattern = n :=
  UInt64.toNat_ofNat_of_lt' h

/-- The next pattern, up to the first NaN. -/
theorem pattern_nextUp {x : Binary64} (h : x.pattern ≤ infinityBits) :
    x.nextUp.pattern = x.pattern + 1 := by
  unfold infinityBits at h
  unfold nextUp
  rw [min_eq_left (by omega), pattern_ofBits (by omega)]

variable {x y : Binary64}

theorem magnitude_of_le (h : x.pattern ≤ infinityBits) : x.magnitude = x.pattern := by
  unfold infinityBits at h
  exact Nat.mod_eq_of_lt (by omega)

theorem position_of_le (h : x.pattern ≤ infinityBits) : x.position = x.pattern := by
  have hsign : ¬x.negative = true := by
    unfold infinityBits at h
    unfold negative
    rw [decide_eq_true_eq]
    omega
  unfold position
  rw [if_neg hsign, magnitude_of_le h]

theorem not_isNaN_of_le (h : x.pattern ≤ infinityBits) : x.isNaN = false := by
  unfold isNaN
  rw [decide_eq_false_iff_not, magnitude_of_le h]
  omega

/-- Up to infinity, numbers are ordered like their patterns. -/
theorem lt_iff (hx : x.pattern ≤ infinityBits) (hy : y.pattern ≤ infinityBits) :
    x.lt y = true ↔ x.pattern < y.pattern := by
  unfold lt
  rw [not_isNaN_of_le hx, not_isNaN_of_le hy, position_of_le hx, position_of_le hy]
  simp

theorem le_iff (hx : x.pattern ≤ infinityBits) (hy : y.pattern ≤ infinityBits) :
    x.le y = true ↔ x.pattern ≤ y.pattern := by
  unfold le
  rw [not_isNaN_of_le hx, not_isNaN_of_le hy, position_of_le hx, position_of_le hy]
  simp

theorem pattern_least (hx : x.pattern ≤ infinityBits) (hy : y.pattern ≤ infinityBits) :
    (x.least y).pattern = min x.pattern y.pattern := by
  unfold least
  by_cases hless : y.lt x = true
  · have hpattern := (lt_iff hy hx).mp hless
    rw [if_pos hless]
    omega
  · have hpattern := mt (lt_iff hy hx).mpr hless
    rw [if_neg hless]
    omega

/-- A positive finite number is a pattern below infinity. -/
theorem pattern_of_positive (hfinite : x.isFinite = true) (hpositive : zero.lt x = true) :
    0 < x.pattern ∧ x.pattern < infinityBits := by
  have hbits : x.pattern < 2 ^ 64 := UInt64.toNat_lt x.bits
  have hzero : zero.position = 0 := by decide
  unfold lt at hpositive
  rw [hzero] at hpositive
  simp only [Bool.and_eq_true, decide_eq_true_eq] at hpositive
  unfold isFinite at hfinite
  rw [decide_eq_true_eq] at hfinite
  unfold position at hpositive
  by_cases hsign : x.negative = true
  · rw [if_pos hsign] at hpositive
    omega
  · unfold negative at hsign
    rw [decide_eq_true_eq] at hsign
    unfold magnitude at hfinite hpositive
    rw [Nat.mod_eq_of_lt (by omega)] at hfinite
    have hmagnitude := hpositive.2
    split at hmagnitude
    · omega
    · omega

/-- A NaN is below nothing. -/
theorem le_of_isNaN (h : y.isNaN = true) : x.le y = false := by
  unfold le
  rw [h]
  simp

end Binary64

end Sorotte.Framework
