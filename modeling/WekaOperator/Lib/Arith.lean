import Mathlib

/-! Integer arithmetic as the source language computes it: division truncates towards zero (`Int.tdiv`), a ceiling
    division that is zero on non-positive operands, the conversions of a fraction to an integer, and its rendering
    with two decimals.

    Throughout the development Go's `int` is `Int`: sums and products are taken to stay below 2^63, which byte counts,
    port numbers and chunk sizes of real hardware do. Where a claim rests on numbers a user may choose freely, the
    function takes the arithmetic as its last argument, exact unless `int64` is given. -/

namespace WekaOperator.Lib

/-- What Go's `int` makes of a number: its value modulo 2^64, between -2^63 and 2^63. -/
def int64 (n : Int) : Int := (n + 9223372036854775808) % 18446744073709551616 - 9223372036854775808

theorem int64_of_bounds {n : Int} (low : -9223372036854775808 ≤ n) (high : n < 9223372036854775808) : int64 n = n := by
  unfold int64
  omega

/-- `CeilDiv`. -/
def ceilDiv (a b : Int) : Int :=
  if a ≤ 0 ∨ b ≤ 0 then 0 else (a + b - 1).tdiv b

/-- `roundDiv`: to the nearest integer. -/
def roundDiv (a b : Int) : Int :=
  if a ≤ 0 ∨ b ≤ 0 then 0 else (a + b.tdiv 2).tdiv b

/-- The conversion `int(f)` of a floating-point number. -/
def truncate (q : ℚ) : Int := q.num.tdiv q.den

/-- The verb `%.2f`. -/
def fixed2 (q : ℚ) : String :=
  let scaled := |q| * 100
  let low := scaled.floor
  let rest := scaled - low
  let cents := if rest < 1 / 2 then low else if 1 / 2 < rest then low + 1 else if low % 2 = 0 then low else low + 1
  let whole := cents / 100
  let frac := cents % 100
  let sign := if q < 0 ∧ 0 < cents then "-" else ""
  let tens := frac / 10
  let ones := frac % 10
  s!"{sign}{whole}.{tens}{ones}"

/-! ### Ceiling division -/

theorem ceilDiv_of_nonpos {a b : Int} (h : a ≤ 0) : ceilDiv a b = 0 := by
  simp [ceilDiv, h]

theorem ceilDiv_of_pos {a b : Int} (ha : 0 < a) (hb : 0 < b) : ceilDiv a b = (a + b - 1) / b := by
  have h : ¬(a ≤ 0 ∨ b ≤ 0) := by omega
  rw [ceilDiv, if_neg h, Int.tdiv_eq_ediv_of_nonneg (by omega)]

theorem ceilDiv_nonneg (a b : Int) : 0 ≤ ceilDiv a b := by
  unfold ceilDiv
  split
  · exact le_refl 0
  · rename_i h
    exact Int.tdiv_nonneg (by omega) (by omega)

theorem le_ceilDiv_mul (a : Int) {b : Int} (hb : 0 < b) : a ≤ ceilDiv a b * b := by
  rcases le_or_gt a 0 with ha | ha
  · rw [ceilDiv_of_nonpos ha]
    omega
  · rw [ceilDiv_of_pos ha hb]
    have h := Int.lt_ediv_add_one_mul_self (a + b - 1) hb
    rw [Int.add_mul] at h
    omega

theorem ceilDiv_le {a b k : Int} (hk : 0 ≤ k) (hb : 0 < b) (h : a ≤ k * b) : ceilDiv a b ≤ k := by
  rcases le_or_gt a 0 with ha | ha
  · rw [ceilDiv_of_nonpos ha]
    exact hk
  · rw [ceilDiv_of_pos ha hb]
    apply Int.le_of_lt_add_one
    rw [Int.ediv_lt_iff_lt_mul hb, Int.add_mul]
    omega

theorem ceilDiv_pos {a b : Int} (ha : 0 < a) (hb : 0 < b) : 0 < ceilDiv a b := by
  have h := le_ceilDiv_mul a hb
  by_contra hn
  have hz : ceilDiv a b = 0 := le_antisymm (by omega) (ceilDiv_nonneg a b)
  rw [hz] at h
  omega

end WekaOperator.Lib
