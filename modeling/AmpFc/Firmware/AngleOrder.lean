import AmpFc.Firmware.SensorBounds

/-! The arctangent of the sensor pipeline orders angles, on the words the code computes with. -/

namespace AmpFc.Firmware

section Quadrant

/-- The angle in the first quadrant that belongs to two magnitudes, not both of them zero. -/
def quadrantArc (ax ay : Nat) : Int :=
  if ax ≥ ay then if ax = 0 then 9000 else ((ay * 4500 / ax : Nat) : Int)
  else 9000 - ((ax * 4500 / ay : Nat) : Int)

/-- In the flat octant the arc is at most half a right angle, which it is on the diagonal. -/
theorem flatArc_le {part whole : Nat} (order : part ≤ whole) : part * 4500 / whole ≤ 4500 :=
  Nat.div_le_of_le_mul (Nat.mul_le_mul_right 4500 order)

/-- The flatter half of a quadrant stays below 45 degrees. -/
theorem flatArc_lt {part whole : Nat} (order : part < whole) : part * 4500 / whole < 4500 := by
  -- The whole is positive, having a part below it.
  rw [Nat.div_lt_iff_lt_mul (by omega)]
  omega

/-- An arc is within its quadrant. -/
theorem quadrantArc_range (ax ay : Nat) : 0 ≤ quadrantArc ax ay ∧ quadrantArc ax ay ≤ 9000 := by
  unfold quadrantArc
  by_cases flat : ax ≥ ay
  · have small := flatArc_le flat
    have positive := Int.natCast_nonneg (ay * 4500 / ax)
    rw [if_pos flat]
    split <;> omega
  -- The steep octant takes its arc away from the right angle.
  · have small := flatArc_le (Nat.le_of_not_ge flat)
    have positive := Int.natCast_nonneg (ax * 4500 / ay)
    rw [if_neg flat]
    omega

/-- The arc grows with the second magnitude. -/
theorem quadrantArc_mono (ax : Nat) {ay more : Nat} (order : ay ≤ more) :
    quadrantArc ax ay ≤ quadrantArc ax more := by
  unfold quadrantArc
  by_cases flat : ax ≥ more
  · -- Both lie in the flat octant.
    rw [if_pos flat, if_pos (order.trans flat)]
    split
    · rfl
    · exact_mod_cast Nat.div_le_div_right (Nat.mul_le_mul_right 4500 order)
  · rw [if_neg flat]
    by_cases lower : ax ≥ ay
    · -- From the flat octant to the steep one the diagonal lies in between.
      have left := flatArc_le lower
      have right := flatArc_le (Nat.le_of_not_ge flat)
      rw [if_pos lower]
      split
      · rename_i none
        rw [none]
        simp
      · omega
    -- In the steep octant a larger divisor leaves a smaller arc to take away.
    · have shrinks : ax * 4500 / more ≤ ax * 4500 / ay := Nat.div_le_div_left order (by omega)
      rw [if_neg lower]
      omega

/-- Half a right angle is the arc of the diagonal alone. -/
theorem quadrantArc_eq_half {ax ay : Nat} (direction : ax ≠ 0 ∨ ay ≠ 0) :
    quadrantArc ax ay = 4500 ↔ ax = ay := by
  unfold quadrantArc
  rcases Nat.lt_trichotomy ax ay with steep | diagonal | flat
  -- Off the diagonal the arc is on one side of the half, in either octant.
  · have below := flatArc_lt steep
    rw [if_neg (by omega)]
    omega
  -- On the diagonal the quotient is the factor.
  · have whole : ay * 4500 / ax = 4500 := by
      rw [diagonal]
      exact Nat.mul_div_cancel_left 4500 (by omega)
    rw [if_pos (by omega), if_neg (by omega), whole]
    exact iff_of_true rfl diagonal
  · have below := flatArc_lt flat
    rw [if_pos (by omega), if_neg (by omega)]
    omega

end Quadrant

section Order

variable {y other x : Int}

/-- The approximated angle is the arc of its quadrant. -/
theorem ampAtan2CdApprox_eq (direction : x ≠ 0 ∨ y ≠ 0) :
    ampAtan2CdApprox y x =
      if x ≥ 0 then if y ≥ 0 then quadrantArc x.natAbs y.natAbs else -quadrantArc x.natAbs y.natAbs
      else if y ≥ 0 then 18000 - quadrantArc x.natAbs y.natAbs
        else quadrantArc x.natAbs y.natAbs - 18000 := by
  have somewhere : ¬ (x.natAbs = 0 ∧ y.natAbs = 0) := by omega
  exact if_neg somewhere

/-- Without a direction the angle is zero. -/
theorem ampAtan2CdApprox_zero : ampAtan2CdApprox 0 0 = 0 := rfl

/-- In the fourth quadrant the arc counts downwards. -/
theorem ampAtan2CdApprox_below (across : 0 ≤ x) (below : y < 0) :
    ampAtan2CdApprox y x = -quadrantArc x.natAbs y.natAbs := by
  rw [ampAtan2CdApprox_eq (Or.inr (by omega)), if_pos across, if_neg (by omega)]

/-- In the second quadrant the arc counts back from half a turn. -/
theorem ampAtan2CdApprox_behind (behind : x < 0) (above : 0 ≤ y) :
    ampAtan2CdApprox y x = 18000 - quadrantArc x.natAbs y.natAbs := by
  rw [ampAtan2CdApprox_eq (Or.inl (by omega)), if_neg (by omega), if_pos above]

/-- In the third quadrant the arc counts up from half a turn the other way. -/
theorem ampAtan2CdApprox_behind_below (behind : x < 0) (below : y < 0) :
    ampAtan2CdApprox y x = quadrantArc x.natAbs y.natAbs - 18000 := by
  rw [ampAtan2CdApprox_eq (Or.inl (by omega)), if_neg (by omega), if_neg (by omega)]

/-- In the first quadrant the angle is the arc, or zero where there is no direction. -/
theorem ampAtan2CdApprox_above (across : 0 ≤ x) (above : 0 ≤ y) :
    ampAtan2CdApprox y x = if x = 0 ∧ y = 0 then 0 else quadrantArc x.natAbs y.natAbs := by
  by_cases nowhere : x = 0 ∧ y = 0
  · rw [if_pos nowhere, nowhere.1, nowhere.2, ampAtan2CdApprox_zero]
  · rw [if_neg nowhere, ampAtan2CdApprox_eq (by omega), if_pos across, if_pos above]

/-- Where the first argument is not negative, the angle grows with the second. -/
theorem ampAtan2CdApprox_mono (across : 0 ≤ x) (order : y ≤ other) :
    ampAtan2CdApprox y x ≤ ampAtan2CdApprox other x := by
  have first := quadrantArc_range x.natAbs y.natAbs
  have second := quadrantArc_range x.natAbs other.natAbs
  rcases Int.lt_or_le other 0 with negative | positive
  · -- Below the first axis the magnitudes are ordered the other way.
    have shorter : other.natAbs ≤ y.natAbs := by omega
    have arcs := quadrantArc_mono x.natAbs shorter
    rw [ampAtan2CdApprox_below across (by omega), ampAtan2CdApprox_below across negative]
    omega
  · rw [ampAtan2CdApprox_above across positive]
    -- An angle below the axis is not above any angle over it.
    rcases Int.lt_or_le y 0 with below | above
    · rw [ampAtan2CdApprox_below across below]
      split <;> omega
    -- Both over the axis, the magnitudes are ordered as the arguments are.
    · have longer : y.natAbs ≤ other.natAbs := by omega
      have arcs := quadrantArc_mono x.natAbs longer
      rw [ampAtan2CdApprox_above across above]
      split <;> split <;> omega

/-- Behind the first axis the angle falls with the second argument, on either side of the seam. -/
theorem ampAtan2CdApprox_anti (behind : x < 0) (order : y ≤ other) (side : 0 ≤ y ∨ other < 0) :
    ampAtan2CdApprox other x ≤ ampAtan2CdApprox y x := by
  rcases side with above | below
  -- Over the seam a longer arc is taken away from half a turn.
  · have longer : y.natAbs ≤ other.natAbs := by omega
    have arcs := quadrantArc_mono x.natAbs longer
    rw [ampAtan2CdApprox_behind behind above, ampAtan2CdApprox_behind behind (by omega)]
    omega
  -- Under the seam half a turn is taken away from a shorter arc.
  · have shorter : other.natAbs ≤ y.natAbs := by omega
    have arcs := quadrantArc_mono x.natAbs shorter
    rw [ampAtan2CdApprox_behind_below behind below,
      ampAtan2CdApprox_behind_below behind (by omega)]
    omega

/-- The angle is odd in a second argument other than zero. -/
theorem ampAtan2CdApprox_neg (nonzero : y ≠ 0) :
    ampAtan2CdApprox (-y) x = -ampAtan2CdApprox y x := by
  have flipped : -y ≠ 0 := by omega
  rw [ampAtan2CdApprox_eq (Or.inr nonzero), ampAtan2CdApprox_eq (Or.inr flipped), Int.natAbs_neg]
  -- A nonzero argument changes sides, and its magnitude stays.
  split <;> split <;> split <;> omega

/-- Reflecting the first argument reflects the angle at the second axis. -/
theorem ampAtan2CdApprox_reflect (ahead : 0 < x) (above : 0 ≤ y) :
    ampAtan2CdApprox y (-x) = 18000 - ampAtan2CdApprox y x := by
  have direction : x ≠ 0 := by omega
  have flipped : -x ≠ 0 := by omega
  rw [ampAtan2CdApprox_eq (Or.inl direction), ampAtan2CdApprox_eq (Or.inl flipped),
    Int.natAbs_neg, if_neg (by omega), if_pos above, if_pos (le_of_lt ahead), if_pos above]

/-- The angle is an odd multiple of half a right angle on the diagonals alone. -/
theorem ampAtan2CdApprox_diagonal : (∃ k, ampAtan2CdApprox y x = 4500 * (2 * k + 1)) ↔
    |x| = |y| ∧ 0 < |x| := by
  by_cases direction : x ≠ 0 ∨ y ≠ 0
  · have range := quadrantArc_range x.natAbs y.natAbs
    have half := @quadrantArc_eq_half x.natAbs y.natAbs (by omega)
    rw [ampAtan2CdApprox_eq direction]
    generalize quadrantArc x.natAbs y.natAbs = arc at range half ⊢
    have magnitudes : (|x| = |y| ∧ 0 < |x|) ↔ x.natAbs = y.natAbs := by
      rw [Int.abs_eq_natAbs, Int.abs_eq_natAbs]
      omega
    -- An arc in range is an odd multiple only at its half, in every quadrant.
    rw [magnitudes, ← half]
    constructor
    · rintro ⟨k, same⟩
      split at same <;> split at same <;> omega
    · intro diagonal
      rw [diagonal]
      split <;> split
      · exact ⟨0, rfl⟩
      · exact ⟨-1, rfl⟩
      · exact ⟨1, rfl⟩
      · exact ⟨-2, rfl⟩
  · obtain ⟨rfl, rfl⟩ : x = 0 ∧ y = 0 := by omega
    constructor
    -- Zero is an even multiple, and no diagonal.
    · rintro ⟨k, same⟩
      rw [ampAtan2CdApprox_zero] at same
      omega
    · rintro ⟨-, positive⟩
      exact absurd positive (by decide)

end Order

section Words

/-- `amp_abs32_to_u32`, on the words of the code. -/
def ampAbs32Word (v : Int32) : UInt32 :=
  -- The negation is done in 64 bits, where the smallest value has one too.
  if v < 0 then (-v.toInt64).toUInt64.toUInt32 else v.toUInt32

/-- `(int32_t)(((uint64_t)part * 4500U) / whole)`. -/
def arcWord (part whole : UInt32) : Int32 :=
  (part.toUInt64 * 4500 / whole.toUInt64).toUInt32.toInt32

/-- `amp_atan2_cd_approx`, on the words of the code. -/
def ampAtan2CdWord (y x : Int32) : Int32 :=
  let ax := ampAbs32Word x
  let ay := ampAbs32Word y
  if ax = 0 ∧ ay = 0 then 0
  else
    let base : Int32 :=
      if ax ≥ ay then if ax = 0 then 9000 else arcWord ay ax else 9000 - arcWord ax ay
    if x ≥ 0 then if y ≥ 0 then base else -base
    else if y ≥ 0 then 18000 - base else base - 18000

/-- The magnitude of every 32-bit value fits, that of the smallest one included. -/
theorem ampAbs32Word_toNat (v : Int32) : (ampAbs32Word v).toNat = v.toInt.natAbs := by
  have low := v.le_toInt
  have high := v.toInt_lt
  unfold ampAbs32Word
  by_cases negative : v < 0
  · have below : v.toInt < 0 := Int32.lt_iff_toInt_lt.mp negative
    have opposite : (-v.toInt64).toInt = -v.toInt := by
      rw [Int64.toInt_neg, Int32.toInt_toInt64]
      exact Int.bmod_eq_of_le (by omega) (by omega)
    -- So the 64-bit negation is a magnitude, and both casts keep it.
    have positive : 0 ≤ -v.toInt64 := by
      rw [Int64.le_iff_toInt_le, opposite]
      show (0 : Int) ≤ _
      omega
    rw [if_pos negative, UInt64.toNat_toUInt32, Int64.toNat_toUInt64_of_le positive]
    unfold Int64.toNatClampNeg
    rw [opposite]
    omega
  · have above : 0 ≤ v := Int32.not_lt.mp negative
    have inside : 0 ≤ v.toInt := Int32.le_iff_toInt_le.mp above
    rw [if_neg negative, Int32.toNat_toUInt32_of_le above]
    unfold Int32.toNatClampNeg
    omega

/-- The quotient of an octant is small enough for every word that it goes through. -/
theorem arcWord_toInt {part whole : UInt32} (order : part.toNat ≤ whole.toNat) :
    (arcWord part whole).toInt = ((part.toNat * 4500 / whole.toNat : Nat) : Int) := by
  have small := flatArc_le order
  have fitting := part.toNat_lt
  -- 32 bits times 4500 fit in 64 bits.
  have product : (part.toUInt64 * 4500).toNat = part.toNat * 4500 := by
    rw [UInt64.toNat_mul, UInt32.toNat_toUInt64]
    exact Nat.mod_eq_of_lt (by show part.toNat * 4500 < 2 ^ 64; omega)
  -- The quotient is at most half a right angle, so 32 bits hold it.
  have quotient : (part.toUInt64 * 4500 / whole.toUInt64).toUInt32.toNat =
      part.toNat * 4500 / whole.toNat := by
    rw [UInt64.toNat_toUInt32, UInt64.toNat_div, product, UInt32.toNat_toUInt64]
    exact Nat.mod_eq_of_lt (by omega)
  -- Its sign bit is clear, which makes the last cast exact.
  have signless : 2 * (part.toUInt64 * 4500 / whole.toUInt64).toUInt32.toNat < 2 ^ 32 := by omega
  rw [← quotient]
  exact BitVec.toInt_eq_toNat_of_lt signless

/-- A difference of angles that fits is the difference. -/
theorem sub_toInt {left right : Int32} (low : -36000 ≤ left.toInt - right.toInt)
    (high : left.toInt - right.toInt ≤ 36000) :
    (left - right).toInt = left.toInt - right.toInt := by
  rw [Int32.toInt_sub]
  exact Int.bmod_eq_of_le (by omega) (by omega)

/-- The base of the angle, before the quadrant is looked at. -/
theorem quadrantWord_toInt (ax ay : UInt32) :
    (if ax ≥ ay then if ax = 0 then 9000 else arcWord ay ax
      else 9000 - arcWord ax ay : Int32).toInt = quadrantArc ax.toNat ay.toNat := by
  have right : (9000 : Int32).toInt = 9000 := by decide
  unfold quadrantArc
  by_cases flat : ax ≥ ay
  · have order : ax.toNat ≥ ay.toNat := UInt32.le_iff_toNat_le.mp flat
    rw [if_pos flat, if_pos order]
    -- The words test for zero where the magnitudes do.
    by_cases none : ax = 0
    · rw [if_pos none, if_pos (by rw [none]; rfl), right]
    · have some : ax.toNat ≠ 0 := fun zero => none (UInt32.toNat_inj.mp zero)
      rw [if_neg none, if_neg some, arcWord_toInt order]
  · have steep : ax < ay := UInt32.not_le.mp flat
    have order : ax.toNat < ay.toNat := UInt32.lt_iff_toNat_lt.mp steep
    have arc := arcWord_toInt (Nat.le_of_lt order)
    have small := flatArc_le (Nat.le_of_lt order)
    have positive := Int.natCast_nonneg (ax.toNat * 4500 / ay.toNat)
    rw [if_neg flat, if_neg (by omega), sub_toInt (by rw [right, arc]; omega)
      (by rw [right, arc]; omega), right, arc]

/-- The words compute the angle. -/
theorem ampAtan2CdWord_toInt (y x : Int32) :
    (ampAtan2CdWord y x).toInt = ampAtan2CdApprox y.toInt x.toInt := by
  have ahead : x ≥ 0 ↔ x.toInt ≥ 0 := Int32.le_iff_toInt_le
  have above : y ≥ 0 ↔ y.toInt ≥ 0 := Int32.le_iff_toInt_le
  -- Both magnitudes are zero where both values are.
  have none : ∀ v : Int32, ampAbs32Word v = 0 ↔ v.toInt = 0 := by
    intro v
    rw [← UInt32.toNat_inj, ampAbs32Word_toNat]
    exact Int.natAbs_eq_zero
  have base := quadrantWord_toInt (ampAbs32Word x) (ampAbs32Word y)
  rw [ampAbs32Word_toNat, ampAbs32Word_toNat] at base
  have range := quadrantArc_range x.toInt.natAbs y.toInt.natAbs
  have half : (18000 : Int32).toInt = 18000 := by decide
  unfold ampAtan2CdWord
  dsimp only
  generalize (if ampAbs32Word x ≥ ampAbs32Word y then
    if ampAbs32Word x = 0 then 9000 else arcWord (ampAbs32Word y) (ampAbs32Word x)
    else 9000 - arcWord (ampAbs32Word x) (ampAbs32Word y) : Int32) = word at base ⊢
  simp only [none, ahead, above]
  by_cases nowhere : x.toInt = 0 ∧ y.toInt = 0
  · rw [if_pos nowhere, nowhere.1, nowhere.2]
    rfl
  · rw [if_neg nowhere, ampAtan2CdApprox_eq (by omega), ← base]
    rw [← base] at range
    -- In each quadrant one operation is applied to the base, and its result fits.
    split
    · split
      · rfl
      · rw [Int32.toInt_neg]
        exact Int.bmod_eq_of_le (by omega) (by omega)
    · split
      · rw [sub_toInt (by omega) (by omega), half]
      · rw [sub_toInt (by omega) (by omega), half]

/-- Every value but the smallest one has a negation in 32 bits. -/
theorem neg_toInt {v : Int32} (other : v ≠ Int32.minValue) : (-v).toInt = -v.toInt := by
  have low := v.le_toInt
  have high := v.toInt_lt
  have above : v.toInt ≠ -2147483648 := fun same => other (Int32.toInt_inj.mp same)
  rw [Int32.toInt_neg]
  exact Int.bmod_eq_of_le (by omega) (by omega)

/-- A yaw that is stored lies within one turn. -/
theorem attitudeUpdateDebugOnce_yaw {sensing : Sensing}
    (stored : (attitudeUpdateDebugOnce sensing).attitude.attOk = true) :
    0 ≤ (attitudeUpdateDebugOnce sensing).attitude.attYawCd ∧
      (attitudeUpdateDebugOnce sensing).attitude.attYawCd < 36000 := by
  have half := (ampAtan2Cd_spec sensing.sensors.hmc.y sensing.sensors.hmc.x).2
  unfold Within at half
  unfold attitudeUpdateDebugOnce at stored ⊢
  dsimp only at stored ⊢
  split at stored
  · cases stored
  · rename_i ready
    rw [if_neg ready]
    split at stored
    · cases stored
    · rename_i read
      rw [if_neg read]
      -- A negative angle is turned around once.
      dsimp only
      split <;> omega

/--
`amp_atan2_cd_approx` orders the angles of all pairs of 32-bit values.

No step of it overflows, and the result is at most half a turn.
It grows with the second argument ahead of the axis, falls with it behind the axis on either side of
the seam, is odd in it, mirrors at the other axis, and meets the odd multiples of 45 degrees on the
diagonals alone.
-/
theorem ampAtan2_angleOrder :
    (∀ y x, ampAtan2CdChecked y.toInt x.toInt = some (ampAtan2CdWord y x).toInt) ∧
    (∀ y x, -18000 ≤ (ampAtan2CdWord y x).toInt ∧ (ampAtan2CdWord y x).toInt ≤ 18000) ∧
    (∀ x y other, 0 ≤ x → y ≤ other →
      (ampAtan2CdWord y x).toInt ≤ (ampAtan2CdWord other x).toInt) ∧
    (∀ x y other, x < 0 → y ≤ other → 0 ≤ y ∨ other < 0 →
      (ampAtan2CdWord other x).toInt ≤ (ampAtan2CdWord y x).toInt) ∧
    (∀ y x, y ≠ 0 → y ≠ Int32.minValue →
      (ampAtan2CdWord (-y) x).toInt = -(ampAtan2CdWord y x).toInt) ∧
    (∀ y x, 0 < x → 0 ≤ y →
      (ampAtan2CdWord y (-x)).toInt = 18000 - (ampAtan2CdWord y x).toInt) ∧
    (∀ y x, (∃ k, (ampAtan2CdWord y x).toInt = 4500 * (2 * k + 1)) ↔
      |x.toInt| = |y.toInt| ∧ 0 < |x.toInt|) ∧
    (∀ sensing, (attitudeUpdateDebugOnce sensing).attitude.attOk = true →
      0 ≤ (attitudeUpdateDebugOnce sensing).attitude.attYawCd ∧
        (attitudeUpdateDebugOnce sensing).attitude.attYawCd < 36000) := by
  have same := ampAtan2CdWord_toInt
  refine ⟨?_, ?_, ?_, ?_, ?_, ?_, ?_, fun _ => attitudeUpdateDebugOnce_yaw⟩
  · intro y x
    rw [same]
    exact (ampAtan2Cd_spec _ _).1
  · intro y x
    have half := (ampAtan2Cd_spec y.toInt x.toInt).2
    unfold Within at half
    rw [same]
    omega
  · intro x y other across order
    rw [same, same]
    exact ampAtan2CdApprox_mono (Int32.le_iff_toInt_le.mp across) (Int32.le_iff_toInt_le.mp order)
  · intro x y other behind order side
    rw [same, same]
    refine ampAtan2CdApprox_anti (Int32.lt_iff_toInt_lt.mp behind)
      (Int32.le_iff_toInt_le.mp order) ?_
    exact side.imp Int32.le_iff_toInt_le.mp Int32.lt_iff_toInt_lt.mp
  · intro y x nonzero other
    rw [same, same, neg_toInt other]
    exact ampAtan2CdApprox_neg (fun zero => nonzero (Int32.toInt_inj.mp zero))
  · intro y x ahead above
    -- A positive value is not the smallest, so its negation fits.
    have positive : 0 < x.toInt := Int32.lt_iff_toInt_lt.mp ahead
    have other : x ≠ Int32.minValue := by
      intro smallest
      rw [smallest] at positive
      exact absurd positive (by decide)
    rw [same, same, neg_toInt other]
    exact ampAtan2CdApprox_reflect positive (Int32.le_iff_toInt_le.mp above)
  · intro y x
    rw [same]
    exact ampAtan2CdApprox_diagonal

/-- Next to the seam the angle falls as the second argument grows, as it does elsewhere. -/
theorem ampAtan2_angleOrder_seam :
    (ampAtan2CdWord (-1) Int32.minValue).toInt ≤ (ampAtan2CdWord (-2) Int32.minValue).toInt :=
  ampAtan2_angleOrder.2.2.2.1 Int32.minValue (-2) (-1) (by decide) (by decide) (Or.inr (by decide))

end Words

end AmpFc.Firmware
