import Mathlib.Algebra.Order.Floor.Ring
import Mathlib.Algebra.Order.Round
import Mathlib.Data.Rat.Floor
import Mathlib.Tactic.FieldSimp
import Mathlib.Tactic.Linarith
import Mathlib.Tactic.Positivity

/-!
# Decimal text

A value printed with a number of decimals denotes the nearest decimal of that
length. Which neighbour a tie goes to is left open.
-/

namespace EzoProvider.Devices

/-- A way to round to a number of decimals. -/
structure Rounding where
  round : Nat → ℚ → ℚ
  near : ∀ decimals value, |round decimals value - value| ≤ 1 / (2 * 10 ^ decimals)
  decimal : ∀ decimals value, ∃ units : ℤ, round decimals value = units / 10 ^ decimals
  exact : ∀ decimals (units : ℤ), round decimals (units / 10 ^ decimals) = units / 10 ^ decimals

/-- The two texts a compensation value passes through: the one the driver sends
and the one the probe replies with. -/
class DecimalText where
  sent : Rounding
  reported : Rounding

/-- Ties go up. -/
def Rounding.halfUp : Rounding where
  round decimals value := ⌊value * 10 ^ decimals + 1 / 2⌋ / 10 ^ decimals
  near decimals value := by
    have scale : (0 : ℚ) < 10 ^ decimals := by positivity
    have below := Int.floor_le (value * 10 ^ decimals + 1 / 2)
    have above := Int.lt_floor_add_one (value * 10 ^ decimals + 1 / 2)
    have scaled : (⌊value * 10 ^ decimals + 1 / 2⌋ : ℚ) / 10 ^ decimals - value =
        (⌊value * 10 ^ decimals + 1 / 2⌋ - value * 10 ^ decimals) / 10 ^ decimals := by
      field_simp
    have half : (1 : ℚ) / (2 * 10 ^ decimals) = 1 / 2 / 10 ^ decimals := by field_simp
    rw [scaled, half, abs_div, abs_of_pos scale]
    gcongr
    rw [abs_le]
    constructor <;> linarith
  decimal decimals value := ⟨_, rfl⟩
  exact decimals units := by
    have scale : (10 : ℚ) ^ decimals ≠ 0 := by positivity
    have nearest : ⌊(units : ℚ) + 1 / 2⌋ = units := by
      rw [Int.floor_eq_iff]
      constructor <;> linarith
    rw [div_mul_cancel₀ _ scale, nearest]

namespace Rounding

variable (rounding : Rounding)

/-- A decimal stays as it is when it is rounded to at least as many decimals. -/
theorem exact_of_decimal {fewer decimals : Nat} (enough : fewer ≤ decimals) (units : ℤ) :
    rounding.round decimals (units / 10 ^ fewer) = units / 10 ^ fewer := by
  have finer : (units : ℚ) / 10 ^ fewer =
      ((units * 10 ^ (decimals - fewer) : ℤ) : ℚ) / 10 ^ decimals := by
    have split : (10 : ℚ) ^ decimals = 10 ^ fewer * 10 ^ (decimals - fewer) := by
      rw [← pow_add, Nat.add_sub_cancel' enough]
    rw [split]
    push_cast
    field_simp
  rw [finer, rounding.exact]

theorem round_zero (decimals : Nat) : rounding.round decimals 0 = 0 := by
  simpa using rounding.exact decimals 0

end Rounding
end EzoProvider.Devices
