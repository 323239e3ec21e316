import AmpFc.Firmware.Control

/-! The corrections of the two control loops: their order, and what they are directed against. -/

namespace AmpFc.Firmware

section Clamp

variable {value other lo hi : Int}

/-- Clamping keeps the order. -/
theorem clampI32_mono (range : lo ≤ hi) (ordered : value ≤ other) :
    clampI32 value lo hi ≤ clampI32 other lo hi := by
  unfold clampI32
  split_ifs <;> omega

/-- Clamping to a range around zero keeps the sign. -/
theorem clampI32_sign (range : lo < 0 ∧ 0 < hi) :
    (0 < clampI32 value lo hi ↔ 0 < value) ∧ (clampI32 value lo hi < 0 ↔ value < 0) := by
  unfold clampI32
  split_ifs <;> omega

end Clamp

/-- Truncating division by a divider keeps the order. -/
theorem tdiv_mono {value other : Int} (divider : Nat) (ordered : value ≤ other) :
    value.tdiv divider ≤ other.tdiv divider := by
  -- Division by zero is zero on both sides.
  rcases Nat.eq_zero_or_pos divider with zero | positive
  · simp [zero]
  · exact Int.tdiv_le_tdiv (by omega) ordered

/-- A larger rate never gives a larger rate correction. -/
theorem rateCorrection_antitone (setpoint : Int) {rate other : Int} (divider : Nat)
    (ordered : rate ≤ other) :
    rateCorrection setpoint other divider ≤ rateCorrection setpoint rate divider := by
  -- The rate enters with a minus sign.
  apply clampI32_mono (by decide)
  apply tdiv_mono
  omega

/-- Under a positive sign, a larger angle never gives a larger angle correction. -/
theorem angleCorrection_antitone (setpoint : Int) {angle other : Int} (divider : Nat)
    (ordered : angle ≤ other) :
    angleCorrection setpoint 1 other divider ≤ angleCorrection setpoint 1 angle divider := by
  unfold angleCorrection
  split
  -- With the stick centred both angles are assisted.
  · apply clampI32_mono (by decide)
    apply tdiv_mono
    omega
  -- With the stick deflected neither is.
  · exact le_rfl

/-- A level axis needs no angle correction. -/
theorem angleCorrection_zero (setpoint : Int) (divider : Nat) :
    angleCorrection setpoint 1 0 divider = 0 := by
  unfold angleCorrection
  split
  · rw [mul_zero, Int.zero_tdiv]
    rfl
  · rfl

/-- The assist is against the angle it corrects, if there is any. -/
theorem angleCorrection_against (angle : Int) (divider : Nat) :
    (0 < angleCorrection 0 1 angle divider → angle < 0) ∧
      (angleCorrection 0 1 angle divider < 0 → 0 < angle) := by
  have assist : -angleAssistMaxCorrUs < 0 ∧ 0 < angleAssistMaxCorrUs := by decide
  rw [angleCorrection, if_pos rfl, (clampI32_sign assist).1, (clampI32_sign assist).2]
  -- The quotient of the negated angle is zero, or has the sign opposite to the angle.
  have quotient := Int.neg_tdiv angle divider
  rw [neg_one_mul, quotient]
  constructor
  · intro positive
    by_contra level
    have := Int.tdiv_nonneg (not_lt.mp level) (Int.natCast_nonneg divider)
    omega
  · intro negative
    by_contra level
    have := tdiv_mono divider (not_lt.mp level)
    rw [Int.zero_tdiv] at this
    omega

end AmpFc.Firmware
