import HashReplay.Binary64.Basic
import Mathlib.Algebra.Order.Field.Basic
import Mathlib.Algebra.Order.Field.Power
import Mathlib.Algebra.Order.Field.Rat
import Mathlib.Data.Rat.Floor
import Mathlib.Tactic.FieldSimp
import Mathlib.Tactic.Linarith
import Mathlib.Tactic.Positivity
import Mathlib.Tactic.Ring

/-!
# Rounding to binary floating point

Rounding moves a magnitude by at most half a unit, and a unit is small beside the magnitude unless the
magnitude is near the lower limit.

## Main results

* `zpow_log2_le`, `lt_zpow_log2` — the binary exponent of a magnitude.
* `abs_roundEven_sub_le` — rounding to whole numbers moves by at most one half.
* `abs_round_sub_le` — rounding moves by at most half a unit.
* `round_nonneg`, `round_le` — a rounded magnitude is one again, and at most about twice as large.
-/

namespace HashReplay.Binary64

variable {x y z : Rat}

/-! ### Binary exponents -/

/-- A positive rational lies between a power of two and four times that power, by the digits of its
numerator and its denominator. -/
theorem zpow_sub_le (hx : 0 < x) :
    (2 : Rat) ^ ((Nat.log2 x.num.toNat : Int) - Nat.log2 x.den - 1) ≤ x ∧
      x < (2 : Rat) ^ ((Nat.log2 x.num.toNat : Int) - Nat.log2 x.den + 1) := by
  have hnum : 0 < x.num := Rat.num_pos.mpr hx
  have hden : (0 : Rat) < x.den := by exact_mod_cast x.den_pos
  set a := Nat.log2 x.num.toNat with ha
  set b := Nat.log2 x.den with hb
  have hvalue : x = (x.num.toNat : Rat) / x.den := by
    have hcast : (x.num.toNat : Rat) = (x.num : Rat) := by exact_mod_cast Int.toNat_of_nonneg hnum.le
    rw [hcast, Rat.num_div_den]
  have hnumLow : (2 : Rat) ^ a ≤ x.num.toNat := by exact_mod_cast Nat.log2_self_le (by omega)
  have hnumHigh : (x.num.toNat : Rat) < 2 ^ (a + 1) := by exact_mod_cast Nat.lt_log2_self
  have hdenLow : (2 : Rat) ^ b ≤ x.den := by exact_mod_cast Nat.log2_self_le x.den_pos.ne'
  have hdenHigh : (x.den : Rat) < 2 ^ (b + 1) := by exact_mod_cast Nat.lt_log2_self
  constructor
  · have hpow : (2 : Rat) ^ ((a : Int) - b - 1) = 2 ^ a / 2 ^ (b + 1) := by
      rw [show (a : Int) - b - 1 = (a : Int) - ((b + 1 : Nat) : Int) by push_cast; ring,
        zpow_sub₀ two_ne_zero, zpow_natCast, zpow_natCast]
    rw [hpow]
    calc (2 : Rat) ^ a / 2 ^ (b + 1) ≤ x.num.toNat / x.den := by gcongr
      _ = x := hvalue.symm
  · have hpow : (2 : Rat) ^ ((a : Int) - b + 1) = 2 ^ (a + 1) / 2 ^ b := by
      rw [show (a : Int) - b + 1 = ((a + 1 : Nat) : Int) - b by push_cast; ring,
        zpow_sub₀ two_ne_zero, zpow_natCast, zpow_natCast]
    rw [hpow]
    calc x = x.num.toNat / x.den := hvalue
      _ < 2 ^ (a + 1) / x.den := by gcongr
      _ ≤ 2 ^ (a + 1) / 2 ^ b := by gcongr

/-- The binary exponent of a magnitude is one that the magnitude reaches. -/
theorem zpow_log2_le (hx : 0 < x) : (2 : Rat) ^ log2 x ≤ x := by
  dsimp only [log2]
  split
  · assumption
  · exact (zpow_sub_le hx).1

/-- The next exponent is one that the magnitude does not reach. -/
theorem lt_zpow_log2 (hx : 0 < x) : x < (2 : Rat) ^ (log2 x + 1) := by
  dsimp only [log2]
  split
  · exact (zpow_sub_le hx).2
  · rename_i hlt
    rw [sub_add_cancel]
    exact not_le.mp hlt

/-! ### Whole numbers -/

/-- **Rounding to whole numbers moves by at most one half.** -/
theorem abs_roundEven_sub_le (hz : 0 ≤ z) : |(roundEven z : Rat) - z| ≤ 1 / 2 := by
  have hfloor : (z.floor.toNat : Rat) = z.floor := by
    exact_mod_cast Int.toNat_of_nonneg (Rat.le_floor_iff.mpr (by exact_mod_cast hz))
  have hlow : (z.floor.toNat : Rat) ≤ z := hfloor ▸ Rat.floor_le z
  have hhigh : z < z.floor.toNat + 1 := by
    rw [hfloor]
    exact_mod_cast Rat.lt_floor_add_one z
  unfold roundEven
  simp only
  rw [abs_le]
  split_ifs <;> push_cast <;> constructor <;> linarith

/-! ### Magnitudes -/

/-- A unit is positive. -/
theorem unit_pos (x : Rat) : 0 < (2 : Rat) ^ unitExponent x := by positivity

/-- **Rounding moves a magnitude by at most half a unit.** -/
theorem abs_round_sub_le (hx : 0 ≤ x) :
    |round x - x| ≤ (2 : Rat) ^ unitExponent x / 2 := by
  have hunit := unit_pos x
  have hcount : 0 ≤ x / (2 : Rat) ^ unitExponent x := by positivity
  have hround : round x - x =
      ((units x : Rat) - x / (2 : Rat) ^ unitExponent x) * (2 : Rat) ^ unitExponent x := by
    rw [round, sub_mul, div_mul_cancel₀ x hunit.ne']
  rw [hround, abs_mul, abs_of_pos hunit]
  calc |(units x : Rat) - x / (2 : Rat) ^ unitExponent x| * (2 : Rat) ^ unitExponent x
      ≤ 1 / 2 * (2 : Rat) ^ unitExponent x := by
        gcongr
        exact abs_roundEven_sub_le hcount
    _ = (2 : Rat) ^ unitExponent x / 2 := by ring

/-- A rounded magnitude is a magnitude. -/
theorem round_nonneg (x : Rat) : 0 ≤ round x := by
  unfold round
  positivity

/-- A unit is no greater than the magnitude, or than the least positive magnitude. -/
theorem unit_le (hx : 0 ≤ x) : (2 : Rat) ^ unitExponent x ≤ x + 1 := by
  have hleast : (2 : Rat) ^ minExponent ≤ 1 := zpow_le_one_of_nonpos₀ (by norm_num) (by decide)
  unfold unitExponent
  split
  · linarith
  · rename_i hne
    have hpos : 0 < x := lt_of_le_of_ne hx (Ne.symm hne)
    rcases max_choice minExponent (log2 x - 52) with h | h
    · rw [h]
      linarith
    · rw [h]
      calc (2 : Rat) ^ (log2 x - 52) ≤ 2 ^ log2 x := zpow_le_zpow_right₀ (by norm_num) (by omega)
        _ ≤ x := zpow_log2_le hpos
        _ ≤ x + 1 := by linarith

/-- Rounding at most doubles a magnitude, but for a rest below one. -/
theorem round_le (hx : 0 ≤ x) : round x ≤ 2 * x + 1 := by
  have hmove := (abs_le.mp (abs_round_sub_le hx)).2
  have hunit := unit_le hx
  linarith

end HashReplay.Binary64
