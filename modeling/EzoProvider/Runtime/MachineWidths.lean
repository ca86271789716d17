import EzoProvider.Runtime.Config
import Mathlib.Algebra.GroupWithZero.Basic
import Mathlib.Algebra.Field.Rat

/-!
# The intervals at the width of `int`

`ProviderConfig` with its `int` fields 32 bits wide, and the intervals computed
from them as the code does: each operation at its own width, wrapping where the
result does not fit. They refine the integer intervals of `Config`.
-/

namespace EzoProvider.Runtime

/-- `ProviderConfig` at the width of its fields. -/
structure MachineConfig where
  busPath : String := ""
  queryDelayUs : Int32 := 300000
  sampleIntervalMs : Int32 := 2500
  timeoutMs : Int32 := 300
  devices : List DeviceSpec := []

/-- The configuration over the integers. -/
def MachineConfig.toProviderConfig (config : MachineConfig) : ProviderConfig where
  busPath := config.busPath
  queryDelayUs := config.queryDelayUs.toInt
  sampleIntervalMs := config.sampleIntervalMs.toInt
  timeoutMs := config.timeoutMs.toInt
  devices := config.devices

namespace Machine

def kMinSampleIntervalMs : Int32 := 50
def kMinStaleAfterMs : Int32 := 500

/-- `sample_interval_ms`. -/
def sampleIntervalMs (config : MachineConfig) : Int32 :=
  max config.sampleIntervalMs kMinSampleIntervalMs

/-- The product of `stale_after_ms`, widened before the multiply. -/
def threeIntervals (config : MachineConfig) : Int64 :=
  (sampleIntervalMs config).toInt64 * 3

/-- The `bound` of `stale_after_ms`, before it is cast back. -/
def staleBound (config : MachineConfig) : Int64 :=
  min (max (threeIntervals config) kMinStaleAfterMs.toInt64) Int32.maxValue.toInt64

/-- `stale_after_ms`. -/
def staleAfterMs (config : MachineConfig) : Int32 :=
  (staleBound config).toInt32

/-- `SignalSpec.stale_after_ms`, as `build_capabilities` sets it. -/
def specStaleAfterMs (config : MachineConfig) : UInt32 :=
  (staleAfterMs config).toUInt32

/-- `SignalSpec.poll_hint_hz`, as `build_capabilities` sets it. The quotient is exact here. -/
def specPollHintHz (config : MachineConfig) : ℚ :=
  1000 / ((sampleIntervalMs config).toInt : ℚ)

section Orders

theorem toInt_max32 (left right : Int32) : (max left right).toInt = max left.toInt right.toInt := by
  change (if left ≤ right then right else left).toInt = _
  simp only [Int32.le_iff_toInt_le]
  split <;> omega

theorem toInt_max64 (left right : Int64) : (max left right).toInt = max left.toInt right.toInt := by
  change (if left ≤ right then right else left).toInt = _
  simp only [Int64.le_iff_toInt_le]
  split <;> omega

theorem toInt_min64 (left right : Int64) : (min left right).toInt = min left.toInt right.toInt := by
  change (if left ≤ right then left else right).toInt = _
  simp only [Int64.le_iff_toInt_le]
  split <;> omega

end Orders

section Widths

variable (config : MachineConfig)

theorem toInt_sampleIntervalMs :
    (sampleIntervalMs config).toInt = Runtime.sampleIntervalMs config.toProviderConfig :=
  toInt_max32 _ _

theorem sampleIntervalMs_bounds :
    50 ≤ (sampleIntervalMs config).toInt ∧ (sampleIntervalMs config).toInt ≤ 2 ^ 31 - 1 := by
  have floored := toInt_max32 config.sampleIntervalMs kMinSampleIntervalMs
  have floor : kMinSampleIntervalMs.toInt = 50 := by decide
  have below := (sampleIntervalMs config).toInt_lt
  constructor
  · rw [sampleIntervalMs, floored]
    omega
  · omega

/-- The multiply does not overflow its 64 bits. -/
theorem toInt_threeIntervals :
    (threeIntervals config).toInt = (sampleIntervalMs config).toInt * 3 := by
  obtain ⟨least, most⟩ := sampleIntervalMs_bounds config
  have three : (3 : Int64).toInt = 3 := by decide
  rw [threeIntervals, Int64.toInt_mul, Int32.toInt_toInt64, three]
  apply Int.bmod_eq_of_le
  · omega
  · omega

theorem toInt_staleBound :
    (staleBound config).toInt =
      min (max ((sampleIntervalMs config).toInt * 3) 500) (2 ^ 31 - 1) := by
  have floor : kMinStaleAfterMs.toInt64.toInt = 500 := by decide
  have top : Int32.maxValue.toInt64.toInt = 2 ^ 31 - 1 := by decide
  rw [staleBound, toInt_min64, toInt_max64, toInt_threeIntervals, floor, top]

/-- The cast back to `int` loses nothing. -/
theorem toInt_staleAfterMs : (staleAfterMs config).toInt = (staleBound config).toInt := by
  have bound := toInt_staleBound config
  rw [staleAfterMs, Int64.toInt_toInt32]
  apply Int.bmod_eq_of_le
  · omega
  · omega

/-- The bound at width is the bound over the integers. -/
theorem toInt_staleAfterMs_eq :
    (staleAfterMs config).toInt = Runtime.staleAfterMs config.toProviderConfig := by
  rw [toInt_staleAfterMs, toInt_staleBound, toInt_sampleIntervalMs]
  rfl

theorem toNat_specStaleAfterMs :
    ((specStaleAfterMs config).toNat : Int) = (staleAfterMs config).toInt := by
  have value := toInt_staleAfterMs config
  have bound := toInt_staleBound config
  have nonnegative : (0 : Int32) ≤ staleAfterMs config := by
    rw [Int32.le_iff_toInt_le]
    have zero : (0 : Int32).toInt = 0 := by decide
    omega
  rw [specStaleAfterMs, Int32.toNat_toUInt32_of_le nonnegative]
  exact Int.toNat_of_nonneg (by omega)

end Widths

/-- At the real widths nothing overflows: the product and the cast are exact. The bound is
three times the floored interval, clamped to 500 and `INT_MAX`; it is monotone in the interval,
the same for every query delay and exact in `SignalSpec`. Below `INT_MAX` it exceeds the
interval, which is the period of the advertised poll hint. -/
theorem stale_bound_at_width (config : MachineConfig) :
    (threeIntervals config).toInt = (sampleIntervalMs config).toInt * 3 ∧
      (staleAfterMs config).toInt = (staleBound config).toInt ∧
      500 ≤ staleAfterMs config ∧ staleAfterMs config ≤ Int32.maxValue ∧
      (staleAfterMs config).toInt =
        min (max (max config.sampleIntervalMs.toInt 50 * 3) 500) Int32.maxValue.toInt ∧
      (∀ other : MachineConfig, config.sampleIntervalMs ≤ other.sampleIntervalMs →
        staleAfterMs config ≤ staleAfterMs other) ∧
      (∀ delay, staleAfterMs { config with queryDelayUs := delay } = staleAfterMs config) ∧
      ((specStaleAfterMs config).toNat : Int) = (staleAfterMs config).toInt ∧
      (config.sampleIntervalMs < Int32.maxValue →
        sampleIntervalMs config < staleAfterMs config ∧
          1000 / specPollHintHz config = ((sampleIntervalMs config).toInt : ℚ)) := by
  have value := toInt_staleAfterMs config
  have bound := toInt_staleBound config
  obtain ⟨least, most⟩ := sampleIntervalMs_bounds config
  have top : Int32.maxValue.toInt = 2 ^ 31 - 1 := by decide
  have interval : (sampleIntervalMs config).toInt = max config.sampleIntervalMs.toInt 50 :=
    toInt_max32 _ _
  refine ⟨toInt_threeIntervals config, value, ?_, Int32.le_maxValue _, ?_, ?_, fun _ => rfl,
    toNat_specStaleAfterMs config, ?_⟩
  · rw [Int32.le_iff_toInt_le]
    have floor : (500 : Int32).toInt = 500 := by decide
    omega
  · rw [value, bound, interval, top]
  · intro other below
    rw [Int32.le_iff_toInt_le] at below ⊢
    have otherInterval : (sampleIntervalMs other).toInt = max other.sampleIntervalMs.toInt 50 :=
      toInt_max32 _ _
    have otherBound := toInt_staleBound other
    rw [value, bound, toInt_staleAfterMs other, otherBound]
    omega
  · intro below
    rw [Int32.lt_iff_toInt_lt] at below
    constructor
    · rw [Int32.lt_iff_toInt_lt]
      omega
    · apply div_div_cancel₀
      decide

/-- One above a third of `INT_MAX`, where a 32-bit product would wrap. -/
theorem stale_bound_at_width_third :
    let config : MachineConfig := { sampleIntervalMs := 715827883 }
    let other : MachineConfig := { sampleIntervalMs := 715827884 }
    staleAfterMs config ≤ staleAfterMs other ∧ sampleIntervalMs config < staleAfterMs config := by
  intro config other
  obtain ⟨_, _, _, _, _, monotone, _, _, exceeds⟩ := stale_bound_at_width config
  exact ⟨monotone other (by decide), (exceeds (by decide)).1⟩

end Machine
end EzoProvider.Runtime
