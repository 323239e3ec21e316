import AmpFc.Firmware.IntegerRoot
import AmpFc.Firmware.ProbeSteps
import AmpFc.Lib.CheckedInt

/-! The sensor pipeline with every signed operation checked, and the bounds that pass the checks. -/

namespace AmpFc.Firmware

/-- Every axis is bounded in magnitude. -/
structure Axes.Bounded (bound : Nat) (axes : Axes) : Prop where
  x : Within bound axes.x
  y : Within bound axes.y
  z : Within bound axes.z

namespace Axes

/-- Apply a checked operation axis by axis. -/
def zipChecked (operation : Int → Int → Option Int) (left right : Axes) : Option Axes := do
  let x ← operation left.x right.x
  let y ← operation left.y right.y
  let z ← operation left.z right.z
  return { x := x, y := y, z := z }

/-- The quotient of a 64-bit sum and a count, cast to 32 bits, for each axis. -/
def divChecked (axes : Axes) (count : Nat) : Option Axes :=
  let quotient := fun sum => (checkedDiv 64 sum count).bind (checked 32)
  do
    let x ← quotient axes.x
    let y ← quotient axes.y
    let z ← quotient axes.z
    return { x := x, y := y, z := z }

variable {a b bits : Nat} {left right axes : Axes}

/-- A wider bound holds as well. -/
theorem Bounded.mono (bounded : axes.Bounded a) (wider : a ≤ b) : axes.Bounded b :=
  ⟨bounded.x.mono wider, bounded.y.mono wider, bounded.z.mono wider⟩

/-- The bounds of a sum add up. -/
theorem Bounded.add (first : left.Bounded a) (second : right.Bounded b) :
    (left.add right).Bounded (a + b) :=
  ⟨first.x.add second.x, first.y.add second.y, first.z.add second.z⟩

/-- So do those of a difference. -/
theorem Bounded.sub (first : left.Bounded a) (second : right.Bounded b) :
    (left.sub right).Bounded (a + b) :=
  ⟨first.x.sub second.x, first.y.sub second.y, first.z.sub second.z⟩

/-- A mean is bounded as its samples are. -/
theorem Bounded.div {count : Nat} (bounded : axes.Bounded (a * count)) :
    (axes.div count).Bounded a :=
  ⟨bounded.x.tdiv_count, bounded.y.tdiv_count, bounded.z.tdiv_count⟩

/-- A sum of axes within small bounds does not overflow. -/
theorem zipChecked_add (first : left.Bounded a) (second : right.Bounded b)
    (small : a + b < 2 ^ (bits - 1)) :
    left.zipChecked (checkedAdd bits) right = some (left.add right) := by
  unfold zipChecked
  rw [checkedAdd_eq bits first.x second.x small, checkedAdd_eq bits first.y second.y small,
    checkedAdd_eq bits first.z second.z small]
  rfl

/-- Nor does a difference. -/
theorem zipChecked_sub (first : left.Bounded a) (second : right.Bounded b)
    (small : a + b < 2 ^ (bits - 1)) :
    left.zipChecked (checkedSub bits) right = some (left.sub right) := by
  unfold zipChecked
  rw [checkedSub_eq bits first.x second.x small, checkedSub_eq bits first.y second.y small,
    checkedSub_eq bits first.z second.z small]
  rfl

/-- Nor does the mean of a sum. -/
theorem divChecked_eq {count : Nat} (bounded : axes.Bounded (a * count)) (positive : 0 < count)
    (total : a * count < 2 ^ 63) (small : a < 2 ^ 31) :
    axes.divChecked count = some (axes.div count) := by
  have nonzero : (count : Int) ≠ 0 := by omega
  -- The quotient of each sum is one reading's size again.
  have quotient : ∀ {sum : Int}, Within (a * count) sum →
      (checkedDiv 64 sum count).bind (checked 32) = some (sum.tdiv count) := by
    intro sum within
    rw [checkedDiv_eq 64 within nonzero total]
    exact checked_eq 32 within.tdiv_count small
  unfold divChecked
  dsimp only
  rw [quotient bounded.x, quotient bounded.y, quotient bounded.z]
  rfl

end Axes

/-- `mpu6050_cal_update_once`, with sums of 64 bits and biases of 32. -/
def mpu6050CalUpdateChecked (s : Sensors) : Option Sensors :=
  if !s.mpuDataOk then some s
  else if s.mpuCalDone then some s
  else do
    let accSum ← s.mpuAccSum.zipChecked (checkedAdd 64) s.mpuAcc
    let gyroSum ← s.mpuGyroSum.zipChecked (checkedAdd 64) s.mpuGyro
    let s := { s with
      mpuAccSum := accSum, mpuGyroSum := gyroSum, mpuCalCount := s.mpuCalCount + 1 }
    if s.mpuCalCount ≥ mpuCalTargetCount then
      let accBias ← s.mpuAccSum.divChecked s.mpuCalCount
      let gyroBias ← s.mpuGyroSum.divChecked s.mpuCalCount
      return { s with mpuAccBias := accBias, mpuGyroBias := gyroBias, mpuCalDone := true }
    else return s

/-- `sensor_update_corrected_once`. -/
def sensorUpdateCorrectedChecked (sensing : Sensing) : Option Sensing :=
  let attitude := { sensing.attitude with attOk := false }
  let s := { sensing.sensors with sensorReady := false, sensorStateError := sensorStateOk }
  if !s.hmcOk || !s.hmcDataOk then
    some ⟨{ s with sensorStateError := s.sensorStateError ||| sensorStateHmcBad }, attitude⟩
  else if !s.mpuOk || !s.mpuDataOk then
    some ⟨{ s with sensorStateError := s.sensorStateError ||| sensorStateMpuBad }, attitude⟩
  else if !s.mpuCalDone then
    some ⟨{ s with sensorStateError := s.sensorStateError ||| sensorStateMpuCal }, attitude⟩
  else do
    let gyroCorr ← s.mpuGyro.zipChecked (checkedSub 32) s.mpuGyroBias
    return ⟨{ s with mpuAccCorr := s.mpuAcc, mpuGyroCorr := gyroCorr, sensorReady := true },
      attitude⟩

/-- The arc of `amp_atan2_cd_approx` within an octant, whose quotient is cast to 32 bits. -/
def atan2ArcChecked (part whole : Nat) : Option Int :=
  if whole = 0 then none else checked 32 ((part * 4500 / whole : Nat) : Int)

/-- `amp_atan2_cd_approx`. -/
def ampAtan2CdChecked (y x : Int) : Option Int :=
  let ax := ampAbs32ToU32 x
  let ay := ampAbs32ToU32 y
  if ax = 0 ∧ ay = 0 then some 0
  else do
    let base ←
      (if ax ≥ ay then if ax = 0 then some 9000 else atan2ArcChecked ay ax
      else (atan2ArcChecked ax ay).bind (checkedSub 32 9000))
    if x ≥ 0 then (if y ≥ 0 then some base else checkedNeg 32 base)
    else if y ≥ 0 then checkedSub 32 18000 base else checkedSub 32 base 18000

/-- `attitude_update_debug_once`. -/
def attitudeUpdateDebugChecked (sensing : Sensing) : Option Sensing :=
  let s := sensing.sensors
  let attitude := { sensing.attitude with attOk := false }
  if !s.sensorReady then some { sensing with attitude := attitude }
  else if !s.hmcDataOk || !s.mpuDataOk then some { sensing with attitude := attitude }
  else do
    let ay := UInt64.ofNat (ampAbs32ToU32 s.mpuAccCorr.y)
    let az := UInt64.ofNat (ampAbs32ToU32 s.mpuAccCorr.z)
    -- The root is unsigned and is cast before it is used.
    let horiz ← checked 32 (ampIsqrt64 (ay * ay + az * az)).toNat
    let roll ← ampAtan2CdChecked s.mpuAccCorr.y s.mpuAccCorr.z
    let negated ← checkedNeg 32 s.mpuAccCorr.x
    let pitch ← ampAtan2CdChecked negated horiz
    let yaw ← ampAtan2CdChecked s.hmc.y s.hmc.x
    let turned ← (if yaw < 0 then checkedAdd 32 yaw 36000 else some yaw)
    return { sensing with
      attitude := { attitude with
        rateRollRaw := s.mpuGyroCorr.x
        ratePitchRaw := s.mpuGyroCorr.y
        rateYawRaw := s.mpuGyroCorr.z
        attRollCd := roll
        attPitchCd := pitch
        attYawCd := turned
        attOk := true } }

/-- `body_axis_update_once`. -/
def bodyAxisUpdateChecked (sensing : Sensing) : Option Sensing :=
  let a := sensing.attitude
  if !a.attOk || !sensing.sensors.sensorReady then some sensing
  else do
    let a := if !a.levelTrimDone then
      { a with levelRollCd := a.attRollCd, levelPitchCd := a.attPitchCd, levelTrimDone := true }
    else a
    let roll ← checkedSub 32 a.attRollCd a.levelRollCd
    let bodyRoll ← checkedMul 32 bodyRollSign roll
    let pitch ← checkedSub 32 a.attPitchCd a.levelPitchCd
    let bodyPitch ← checkedMul 32 bodyPitchSign pitch
    let bodyYaw ← checkedMul 32 bodyYawSign a.attYawCd
    let rateRoll ← checkedMul 32 bodyRollSign a.rateRollRaw
    let ratePitch ← checkedMul 32 bodyPitchSign a.ratePitchRaw
    let rateYaw ← checkedMul 32 bodyYawSign a.rateYawRaw
    return { sensing with
      attitude := { a with
        bodyRollCd := bodyRoll
        bodyPitchCd := bodyPitch
        bodyYawCd := bodyYaw
        bodyRateRollRaw := rateRoll
        bodyRatePitchRaw := ratePitch
        bodyRateYawRaw := rateYaw } }

/-- What the registers, the calibration, and the corrected readings can hold. -/
structure Sensors.Bounded (s : Sensors) : Prop where
  hmc : s.hmc.Bounded 32768
  acc : s.mpuAcc.Bounded 32768
  gyro : s.mpuGyro.Bounded 32768
  count : s.mpuCalCount ≤ mpuCalTargetCount
  counting : s.mpuCalDone = false → s.mpuCalCount < mpuCalTargetCount
  accSum : s.mpuAccSum.Bounded (32768 * s.mpuCalCount)
  gyroSum : s.mpuGyroSum.Bounded (32768 * s.mpuCalCount)
  gyroBias : s.mpuGyroBias.Bounded 32768
  accCorr : s.mpuAccCorr.Bounded 32768
  gyroCorr : s.mpuGyroCorr.Bounded 65536

/-- What attitude, level trim and body axes can hold. -/
structure Attitude.Bounded (a : Attitude) : Prop where
  roll : Within 18000 a.attRollCd
  pitch : Within 18000 a.attPitchCd
  yaw : Within 36000 a.attYawCd
  rateRoll : Within 65536 a.rateRollRaw
  ratePitch : Within 65536 a.ratePitchRaw
  rateYaw : Within 65536 a.rateYawRaw
  levelRoll : Within 18000 a.levelRollCd
  levelPitch : Within 18000 a.levelPitchCd
  bodyRoll : Within 36000 a.bodyRollCd
  bodyPitch : Within 36000 a.bodyPitchCd
  bodyRateRoll : Within 65536 a.bodyRateRollRaw
  bodyRatePitch : Within 65536 a.bodyRatePitchRaw
  bodyRateYaw : Within 65536 a.bodyRateYawRaw

/-- What the sensor pipeline can hold. -/
structure Sensing.Bounded (sensing : Sensing) : Prop where
  sensors : sensing.sensors.Bounded
  attitude : sensing.attitude.Bounded

/-- Axes of zero are within every bound. -/
theorem Axes.bounded_initial (bound : Nat) : Axes.Bounded bound {} :=
  ⟨Within.zero, Within.zero, Within.zero⟩

/-- Before the first probe everything is zero. -/
theorem sensing_initial : Sensing.Bounded {} where
  sensors :=
    { hmc := Axes.bounded_initial _
      acc := Axes.bounded_initial _
      gyro := Axes.bounded_initial _
      count := Nat.zero_le _
      counting := fun _ => by decide
      accSum := Axes.bounded_initial _
      gyroSum := Axes.bounded_initial _
      gyroBias := Axes.bounded_initial _
      accCorr := Axes.bounded_initial _
      gyroCorr := Axes.bounded_initial _ }
  attitude := by
    constructor <;> exact Within.zero

/-- A register pair holds a sixteen-bit value. -/
theorem signedHalf_bounded (buf : List UInt8) (position : Nat) :
    Within 32768 (signedHalf buf position) := by
  unfold signedHalf Within
  generalize ((buf.getD position 0).toUInt16 <<< 8 |||
    (buf.getD (position + 1) 0).toUInt16).toInt16 = half
  have low := half.le_toInt
  have high := half.toInt_lt
  omega

/-- The calibration adds at most fifty bounded readings, and divides by their number. -/
theorem mpu6050CalUpdate_spec {s : Sensors} (bounded : s.Bounded) :
    mpu6050CalUpdateChecked s = some (mpu6050CalUpdateOnce s) ∧
      (mpu6050CalUpdateOnce s).Bounded := by
  unfold mpu6050CalUpdateChecked mpu6050CalUpdateOnce
  -- Without data, or once it is done, the calibration changes nothing.
  cases read : s.mpuDataOk with
  | false => exact ⟨rfl, bounded⟩
  | true =>
    cases done : s.mpuCalDone with
    | true => exact ⟨rfl, bounded⟩
    | false =>
      have count := bounded.counting done
      unfold mpuCalTargetCount at count
      -- The bound of a sum grows with the count, which is still below the target.
      have accSum := bounded.accSum.add bounded.acc
      have gyroSum := bounded.gyroSum.add bounded.gyro
      have next : 32768 * s.mpuCalCount + 32768 = 32768 * (s.mpuCalCount + 1) := by ring
      rw [next] at accSum gyroSum
      have addAcc : s.mpuAccSum.zipChecked (checkedAdd 64) s.mpuAcc =
          some (s.mpuAccSum.add s.mpuAcc) :=
        Axes.zipChecked_add bounded.accSum bounded.acc (by omega)
      have addGyro : s.mpuGyroSum.zipChecked (checkedAdd 64) s.mpuGyro =
          some (s.mpuGyroSum.add s.mpuGyro) :=
        Axes.zipChecked_add bounded.gyroSum bounded.gyro (by omega)
      simp only [Bool.not_true, Bool.false_eq_true, if_false, addAcc, addGyro,
        Option.bind_eq_bind, Option.bind_some]
      split
      · -- The target is reached: the sums are divided by a count that is not zero.
        rw [Axes.divChecked_eq accSum (by omega) (by omega) (by decide),
          Axes.divChecked_eq gyroSum (by omega) (by omega) (by decide)]
        refine ⟨rfl, ?_⟩
        exact {
          hmc := bounded.hmc, acc := bounded.acc, gyro := bounded.gyro
          count := bounded.counting done
          counting := fun undone => by cases undone
          accSum := accSum, gyroSum := gyroSum, gyroBias := gyroSum.div
          accCorr := bounded.accCorr, gyroCorr := bounded.gyroCorr }
      · -- The target is not reached, and the sums go on.
        rename_i short
        refine ⟨rfl, ?_⟩
        exact {
          hmc := bounded.hmc, acc := bounded.acc, gyro := bounded.gyro
          count := Nat.le_of_lt (Nat.not_le.mp short)
          counting := fun _ => Nat.not_le.mp short
          accSum := accSum, gyroSum := gyroSum, gyroBias := bounded.gyroBias
          accCorr := bounded.accCorr, gyroCorr := bounded.gyroCorr }

/-- Whatever is corrected, is corrected within the type. -/
theorem sensorUpdateCorrected_spec {sensing : Sensing} (bounded : sensing.Bounded) :
    sensorUpdateCorrectedChecked sensing = some (sensorUpdateCorrectedOnce sensing) ∧
      (sensorUpdateCorrectedOnce sensing).Bounded := by
  have sensors := bounded.sensors
  have attitude : ({ sensing.attitude with attOk := false } : Attitude).Bounded :=
    { bounded.attitude with }
  unfold sensorUpdateCorrectedChecked sensorUpdateCorrectedOnce
  dsimp only
  split
  · exact ⟨rfl, { sensors with }, attitude⟩
  · split
    · exact ⟨rfl, { sensors with }, attitude⟩
    · split
      · exact ⟨rfl, { sensors with }, attitude⟩
      · -- The bias is an average of readings, so the difference spans two of them.
        rw [Axes.zipChecked_sub sensors.gyro sensors.gyroBias (by decide)]
        refine ⟨rfl, ?_, attitude⟩
        exact { sensors with
          accCorr := sensors.acc
          gyroCorr := sensors.gyro.sub sensors.gyroBias }

/-- An arc within an octant is at most half a right angle. -/
theorem atan2ArcChecked_eq {part whole : Nat} (positive : 0 < whole) (order : part ≤ whole) :
    part * 4500 / whole ≤ 4500 ∧
      atan2ArcChecked part whole = some ((part * 4500 / whole : Nat) : Int) := by
  -- The smaller part gives at most 45 degrees.
  have small : part * 4500 / whole ≤ 4500 := by
    apply Nat.div_le_of_le_mul
    exact Nat.mul_le_mul_right 4500 order
  refine ⟨small, ?_⟩
  unfold atan2ArcChecked
  rw [if_neg (Nat.ne_of_gt positive)]
  exact checked_eq 32 (show Within 4500 _ from small) (by decide)

/-- The base of the approximation lies in the first quadrant, whatever the arguments. -/
theorem atan2Base_spec {ax ay : Nat} (direction : ¬ (ax = 0 ∧ ay = 0)) :
    ∃ base : Int, 0 ≤ base ∧ base ≤ 9000 ∧
      (if ax ≥ ay then (if ax = 0 then some 9000 else atan2ArcChecked ay ax)
        else (atan2ArcChecked ax ay).bind (checkedSub 32 9000)) = some base ∧
      (if ax ≥ ay then if ax = 0 then 9000 else ((ay * 4500 / ax : Nat) : Int)
        else 9000 - ((ax * 4500 / ay : Nat) : Int)) = base := by
  -- In the flat octant the arc is the base, and in the steep one it is taken off a right angle.
  by_cases flat : ax ≥ ay
  · have positive : 0 < ax := by omega
    obtain ⟨small, arc⟩ := atan2ArcChecked_eq positive flat
    rw [if_pos flat, if_pos flat, if_neg (Nat.ne_of_gt positive), if_neg (Nat.ne_of_gt positive)]
    refine ⟨((ay * 4500 / ax : Nat) : Int), Int.natCast_nonneg _, ?_, arc, rfl⟩
    exact_mod_cast Nat.le_trans small (by decide)
  · obtain ⟨small, arc⟩ := atan2ArcChecked_eq (show 0 < ay by omega) (show ax ≤ ay by omega)
    rw [if_neg flat, if_neg flat, arc]
    generalize ax * 4500 / ay = arc at small
    refine ⟨9000 - (arc : Int), by omega, by omega, ?_, rfl⟩
    exact checkedSub_eq 32 (show Within 9000 9000 by decide) (show Within 4500 _ from small)
      (by decide)

/-- The approximated angle is at most half a turn, and no step toward it overflows. -/
theorem ampAtan2Cd_spec (y x : Int) :
    ampAtan2CdChecked y x = some (ampAtan2CdApprox y x) ∧
      Within 18000 (ampAtan2CdApprox y x) := by
  unfold ampAtan2CdChecked ampAtan2CdApprox
  dsimp only
  by_cases direction : ampAbs32ToU32 x = 0 ∧ ampAbs32ToU32 y = 0
  · rw [if_pos direction, if_pos direction]
    exact ⟨rfl, by decide⟩
  · rw [if_neg direction, if_neg direction]
    obtain ⟨base, low, high, found, same⟩ := atan2Base_spec direction
    have within : Within 9000 base := by
      unfold Within
      omega
    have half : Within 18000 (18000 : Int) := by decide
    rw [found, same]
    simp only [Option.bind_eq_bind, Option.bind_some]
    -- The four quadrants differ in the operation that is applied to the base.
    split
    · split
      · exact ⟨rfl, within.mono (by decide)⟩
      · exact ⟨checkedNeg_eq 32 within (by decide), within.neg.mono (by decide)⟩
    · split
      · refine ⟨checkedSub_eq 32 half within (by decide), ?_⟩
        unfold Within
        omega
      · refine ⟨checkedSub_eq 32 within half (by decide), ?_⟩
        unfold Within
        omega

/-- The square of a bounded reading, as the 64-bit product computes it. -/
theorem square_toNat {value : Int} (within : Within 32768 value) :
    (UInt64.ofNat (ampAbs32ToU32 value) * UInt64.ofNat (ampAbs32ToU32 value)).toNat =
      value.natAbs * value.natAbs ∧ value.natAbs * value.natAbs ≤ 2 ^ 30 := by
  have small : value.natAbs * value.natAbs ≤ 32768 * 32768 := Nat.mul_le_mul within within
  have kept : (UInt64.ofNat (ampAbs32ToU32 value)).toNat = value.natAbs := by
    have bound : value.natAbs ≤ 32768 := within
    rw [UInt64.toNat_ofNat', ampAbs32ToU32]
    exact Nat.mod_eq_of_lt (by omega)
  -- The product of two such magnitudes does not wrap either.
  refine ⟨?_, by omega⟩
  rw [UInt64.toNat_mul, kept]
  exact Nat.mod_eq_of_lt (by omega)

/-- The horizontal part of a bounded acceleration is bounded, and the cast keeps its root. -/
theorem horizontal_spec {y z : Int} (first : Within 32768 y) (second : Within 32768 z) :
    checked 32 (ampIsqrt64 (UInt64.ofNat (ampAbs32ToU32 y) * UInt64.ofNat (ampAbs32ToU32 y) +
      UInt64.ofNat (ampAbs32ToU32 z) * UInt64.ofNat (ampAbs32ToU32 z))).toNat =
    some (ampIsqrt64 (UInt64.ofNat (ampAbs32ToU32 y) * UInt64.ofNat (ampAbs32ToU32 y) +
      UInt64.ofNat (ampAbs32ToU32 z) * UInt64.ofNat (ampAbs32ToU32 z))).toInt32.toInt := by
  obtain ⟨squareY, smallY⟩ := square_toNat first
  obtain ⟨squareZ, smallZ⟩ := square_toNat second
  generalize UInt64.ofNat (ampAbs32ToU32 y) * UInt64.ofNat (ampAbs32ToU32 y) = yy at *
  generalize UInt64.ofNat (ampAbs32ToU32 z) * UInt64.ofNat (ampAbs32ToU32 z) = zz at *
  have total : (yy + zz).toNat ≤ 2 ^ 31 := by
    rw [UInt64.toNat_add, squareY, squareZ]
    exact Nat.le_trans (Nat.mod_le _ _) (by omega)
  obtain ⟨square, -⟩ := ampIsqrt64_bounds (yy + zz)
  generalize ampIsqrt64 (yy + zz) = root at square ⊢
  -- A longer root would have a square above the sum of the two.
  have small : root.toNat ≤ 65535 := by
    by_contra large
    have huge := Nat.mul_le_mul (Nat.not_le.mp large) (Nat.not_le.mp large)
    omega
  -- Below the sign bit the unsigned root and its cast are the same number.
  have kept : root.toInt32.toInt = root.toNat :=
    BitVec.toInt_eq_toNat_of_lt (show 2 * root.toNat < 2 ^ 32 by omega)
  rw [kept]
  exact checked_eq 32 (show Within 65535 _ from small) (by decide)

/-- The attitude is computed without an overflow, and stays within half a turn. -/
theorem attitudeUpdateDebug_spec {sensing : Sensing} (bounded : sensing.Bounded) :
    attitudeUpdateDebugChecked sensing = some (attitudeUpdateDebugOnce sensing) ∧
      (attitudeUpdateDebugOnce sensing).Bounded := by
  have sensors := bounded.sensors
  unfold attitudeUpdateDebugChecked attitudeUpdateDebugOnce
  dsimp only
  split
  · exact ⟨rfl, sensors, { bounded.attitude with }⟩
  · split
    · exact ⟨rfl, sensors, { bounded.attitude with }⟩
    · -- With both sensors read, every angle is one of the approximation.
      have negated : checkedNeg 32 sensing.sensors.mpuAccCorr.x =
          some (-sensing.sensors.mpuAccCorr.x) := checkedNeg_eq 32 sensors.accCorr.x (by decide)
      rw [horizontal_spec sensors.accCorr.y sensors.accCorr.z, negated]
      simp only [Option.bind_eq_bind, Option.bind_some, (ampAtan2Cd_spec _ _).1]
      -- A negative heading is turned once around, which keeps it within a full turn.
      have yaw := (ampAtan2Cd_spec sensing.sensors.hmc.y sensing.sensors.hmc.x).2
      generalize ampAtan2CdApprox sensing.sensors.hmc.y sensing.sensors.hmc.x = angle at yaw ⊢
      have turned : (if angle < 0 then checkedAdd 32 angle 36000 else some angle) =
          some (if angle < 0 then angle + 36000 else angle) := by
        split
        · exact checkedAdd_eq 32 yaw (show Within 36000 36000 by decide) (by decide)
        · rfl
      rw [turned]
      refine ⟨rfl, sensors, ?_⟩
      exact { bounded.attitude with
        roll := (ampAtan2Cd_spec _ _).2
        pitch := (ampAtan2Cd_spec _ _).2
        yaw := by
          unfold Within at yaw ⊢
          dsimp only
          split <;> omega
        rateRoll := sensors.gyroCorr.x
        ratePitch := sensors.gyroCorr.y
        rateYaw := sensors.gyroCorr.z }

/-- Multiplying by a sign keeps a bound and does not overflow. -/
theorem signed_spec {bound : Nat} {sign value : Int} (unit : Within 1 sign)
    (within : Within bound value) (small : bound < 2 ^ 31) :
    checkedMul 32 sign value = some (sign * value) ∧ Within bound (sign * value) := by
  have product := unit.mul within
  rw [Nat.one_mul] at product
  exact ⟨checked_eq 32 product small, product⟩

/-- The body axes are computed without an overflow: level trims are attitudes themselves. -/
theorem bodyAxisUpdate_spec {sensing : Sensing} (bounded : sensing.Bounded) :
    bodyAxisUpdateChecked sensing = some (bodyAxisUpdateOnce sensing) ∧
      (bodyAxisUpdateOnce sensing).Bounded := by
  unfold bodyAxisUpdateChecked bodyAxisUpdateOnce
  dsimp only
  split
  · exact ⟨rfl, bounded⟩
  · -- The first valid attitude becomes the level one, and is bounded as such.
    have attitude := bounded.attitude
    have level : (if !sensing.attitude.levelTrimDone then
        { sensing.attitude with
          levelRollCd := sensing.attitude.attRollCd
          levelPitchCd := sensing.attitude.attPitchCd
          levelTrimDone := true }
        else sensing.attitude).Bounded := by
      split
      · exact { attitude with levelRoll := attitude.roll, levelPitch := attitude.pitch }
      · exact attitude
    generalize (if !sensing.attitude.levelTrimDone then
        { sensing.attitude with
          levelRollCd := sensing.attitude.attRollCd
          levelPitchCd := sensing.attitude.attPitchCd
          levelTrimDone := true }
        else sensing.attitude) = a at level ⊢
    -- Errors and rates are turned to the body by signs, which cost no range.
    have positive : Within 1 bodyRollSign := by decide
    have negative : Within 1 bodyPitchSign := by decide
    have upright : Within 1 bodyYawSign := by decide
    have rollError : checkedSub 32 a.attRollCd a.levelRollCd =
        some (a.attRollCd - a.levelRollCd) :=
      checkedSub_eq 32 level.roll level.levelRoll (by decide)
    have pitchError : checkedSub 32 a.attPitchCd a.levelPitchCd =
        some (a.attPitchCd - a.levelPitchCd) :=
      checkedSub_eq 32 level.pitch level.levelPitch (by decide)
    obtain ⟨bodyRoll, rollWithin⟩ :=
      signed_spec positive (level.roll.sub level.levelRoll) (by decide)
    obtain ⟨bodyPitch, pitchWithin⟩ :=
      signed_spec negative (level.pitch.sub level.levelPitch) (by decide)
    obtain ⟨bodyYaw, -⟩ := signed_spec upright level.yaw (by decide)
    obtain ⟨rateRoll, rateRollWithin⟩ := signed_spec positive level.rateRoll (by decide)
    obtain ⟨ratePitch, ratePitchWithin⟩ := signed_spec negative level.ratePitch (by decide)
    obtain ⟨rateYaw, rateYawWithin⟩ := signed_spec upright level.rateYaw (by decide)
    simp only [rollError, pitchError, bodyRoll, bodyPitch, bodyYaw, rateRoll, ratePitch, rateYaw,
      Option.bind_eq_bind, Option.bind_some]
    refine ⟨rfl, bounded.sensors, ?_⟩
    exact { level with
      bodyRoll := rollWithin
      bodyPitch := pitchWithin
      bodyRateRoll := rateRollWithin
      bodyRatePitch := ratePitchWithin
      bodyRateYaw := rateYawWithin }

section Probe

/-- The four updates that follow a successful read of the inertial sensor. -/
def afterMpuReadChecked (sensing : Sensing) : Option Sensing := do
  let sensors ← mpu6050CalUpdateChecked sensing.sensors
  let sensing ← sensorUpdateCorrectedChecked { sensing with sensors := sensors }
  let sensing ← attitudeUpdateDebugChecked sensing
  bodyAxisUpdateChecked sensing

/-- The probe of the inertial sensor at an address where it answered. -/
def mpuProbeAtChecked (sensing : Sensing) (bus : I2cBus) (addr who : UInt8) :
    Option (Bool × Sensing × I2cBus) :=
  let s := { sensing.sensors with mpuWhoami := who, mpuOk := true, mpuAddrFound := addr }
  match mpu6050ReadRawOnce s bus addr with
  | (ret, s, bus) =>
    if ret ≠ 0 then
      let s := { s with i2cLastErr := 0xBB060000 ||| (ret &&& 0xffff) }
      some (false, { sensing with sensors := s }, bus)
    else
      (afterMpuReadChecked { sensing with sensors := s }).map fun sensing => (true, sensing, bus)

/-- The end of a probe, after the inertial sensor was read or not. -/
def mpuFinishChecked : Bool × Sensing × I2cBus → Option (Sensing × I2cBus)
  | (true, sensing, bus) => some (sensing, bus)
  | (false, sensing, bus) =>
    let s := { sensing.sensors with mpuDataOk := false }
    (sensorUpdateCorrectedChecked { sensing with sensors := s }).map fun sensing => (sensing, bus)

/-- The second half of the probe. -/
def mpuProbeChecked (sensing : Sensing) (bus : I2cBus) : Option (Sensing × I2cBus) :=
  match bbI2cReadReg bus mpu6050Addr0 mpu6050WhoamiReg with
  | (ret, who, bus) =>
    if ret = 0 ∧ who = 0x68 then
      (mpuProbeAtChecked sensing bus mpu6050Addr0 who).bind mpuFinishChecked
    else
      match bbI2cReadReg bus mpu6050Addr1 mpu6050WhoamiReg with
      | (ret, who, bus) =>
        if ret = 0 ∧ who = 0x68 then
          (mpuProbeAtChecked sensing bus mpu6050Addr1 who).bind mpuFinishChecked
        else mpuFinishChecked (false, sensing, bus)

/-- `amp_i2c_probe_once`. -/
def ampI2cProbeChecked (sensing : Sensing) (bus : I2cBus) : Option (Sensing × I2cBus) :=
  let sensing := probeReset sensing
  let giveUp (base ret : UInt32) (bus : I2cBus) : Option (Sensing × I2cBus) :=
    let s := { sensing.sensors with i2cLastErr := base ||| (ret &&& 0xff) }
    (sensorUpdateCorrectedChecked { sensing with sensors := s }).map fun sensing => (sensing, bus)
  match bbI2cReadReg bus hmc5883lAddr 0x0A with
  | (ret, a, bus) =>
    if ret ≠ 0 then giveUp 0xBB010000 ret bus
    else
      match bbI2cReadReg bus hmc5883lAddr 0x0B with
      | (ret, b, bus) =>
        if ret ≠ 0 then giveUp 0xBB020000 ret bus
        else
          match bbI2cReadReg bus hmc5883lAddr 0x0C with
          | (ret, c, bus) =>
            if ret ≠ 0 then giveUp 0xBB030000 ret bus
            else
              match hmcProbe sensing bus a b c with
              | (sensing, bus) => mpuProbeChecked sensing bus

/-- What follows a read neither overflows nor leaves the bounds. -/
theorem afterMpuRead_spec {sensing : Sensing} (bounded : sensing.Bounded) :
    afterMpuReadChecked sensing = some (afterMpuRead sensing) ∧ (afterMpuRead sensing).Bounded := by
  unfold afterMpuReadChecked afterMpuRead
  -- Each of the four stages hands its bounds to the next one.
  obtain ⟨calibrated, sensors⟩ := mpu6050CalUpdate_spec bounded.sensors
  have first : Sensing.Bounded
      { sensing with sensors := mpu6050CalUpdateOnce sensing.sensors } :=
    ⟨sensors, bounded.attitude⟩
  obtain ⟨corrected, second⟩ := sensorUpdateCorrected_spec first
  obtain ⟨attitude, third⟩ := attitudeUpdateDebug_spec second
  obtain ⟨axes, last⟩ := bodyAxisUpdate_spec third
  simp only [calibrated, corrected, attitude, axes, Option.bind_eq_bind, Option.bind_some]
  exact ⟨trivial, last⟩

/-- Configuring the inertial sensor reads nothing. -/
theorem mpu6050ConfigOnce_bounded {s : Sensors} (bounded : s.Bounded) (bus : I2cBus)
    (addr : UInt8) : (mpu6050ConfigOnce s bus addr).2.1.Bounded := by
  unfold mpu6050ConfigOnce
  -- Only flags change, on each of the exits.
  split
  · exact bounded
  · dsimp only
    split
    · exact bounded
    · exact { bounded with }

/-- The registers of the inertial sensor are read as sixteen-bit values. -/
theorem mpu6050ReadRawOnce_bounded {s : Sensors} (bounded : s.Bounded) (bus : I2cBus)
    (addr : UInt8) : (mpu6050ReadRawOnce s bus addr).2.1.Bounded := by
  -- The configuration comes first, and a failure anywhere leaves the readings as they were.
  have configured := mpu6050ConfigOnce_bounded bounded bus addr
  unfold mpu6050ReadRawOnce
  generalize mpu6050ConfigOnce s bus addr = result at configured ⊢
  obtain ⟨ret, s, bus⟩ := result
  dsimp only at configured ⊢
  split
  · exact { configured with }
  · split
    · exact { configured with }
    · exact { configured with
        acc := ⟨signedHalf_bounded _ _, signedHalf_bounded _ _, signedHalf_bounded _ _⟩
        gyro := ⟨signedHalf_bounded _ _, signedHalf_bounded _ _, signedHalf_bounded _ _⟩ }

/-- So are the registers of the magnetometer. -/
theorem hmc5883lReadRawOnce_bounded {s : Sensors} (bounded : s.Bounded) (bus : I2cBus) :
    (hmc5883lReadRawOnce s bus).2.1.Bounded := by
  have configured : (hmc5883lConfigOnce s bus).2.1.Bounded := by
    unfold hmc5883lConfigOnce
    split
    · exact bounded
    · dsimp only
      split
      · exact bounded
      · exact { bounded with }
  unfold hmc5883lReadRawOnce
  generalize hmc5883lConfigOnce s bus = result at configured ⊢
  obtain ⟨ret, s, bus⟩ := result
  dsimp only at configured ⊢
  split
  · exact { configured with }
  · split
    · exact { configured with }
    · -- Whether an axis overflowed or not, the three readings are stored.
      split
      · exact { configured with
          hmc := ⟨signedHalf_bounded _ _, signedHalf_bounded _ _, signedHalf_bounded _ _⟩ }
      · exact { configured with
          hmc := ⟨signedHalf_bounded _ _, signedHalf_bounded _ _, signedHalf_bounded _ _⟩ }

/-- The probe of the magnetometer stays within them. -/
theorem hmcProbe_bounded {sensing : Sensing} (bounded : sensing.Bounded) (bus : I2cBus)
    (a b c : UInt8) : (hmcProbe sensing bus a b c).1.Bounded := by
  have sensors := bounded.sensors
  unfold hmcProbe
  dsimp only
  split
  -- With the identity right, the data is read next.
  · have read := hmc5883lReadRawOnce_bounded (s := { sensing.sensors with
      hmcIdA := a, hmcIdB := b, hmcIdC := c, hmcBus := 100, hmcScanMask := 0x80000000
      hmcOk := true, i2cLastErr := 0 }) { sensors with } bus
    generalize hmc5883lReadRawOnce _ bus = result at read ⊢
    obtain ⟨ret, s, bus⟩ := result
    refine ⟨?_, bounded.attitude⟩
    dsimp only at read ⊢
    split
    · exact { read with }
    · exact read
  · exact ⟨{ sensors with }, bounded.attitude⟩

/-- So does the probe of the inertial sensor at one address, -/
theorem mpuProbeAt_spec {sensing : Sensing} (bounded : sensing.Bounded) (bus : I2cBus)
    (addr who : UInt8) :
    mpuProbeAtChecked sensing bus addr who = some (mpuProbeAt sensing bus addr who) ∧
      (mpuProbeAt sensing bus addr who).2.1.Bounded := by
  have read := mpu6050ReadRawOnce_bounded (s := { sensing.sensors with
    mpuWhoami := who, mpuOk := true, mpuAddrFound := addr }) { bounded.sensors with } bus addr
  unfold mpuProbeAtChecked mpuProbeAt
  dsimp only
  generalize mpu6050ReadRawOnce _ bus addr = result at read ⊢
  obtain ⟨ret, s, bus⟩ := result
  dsimp only at read ⊢
  split
  · exact ⟨rfl, { read with }, bounded.attitude⟩
  -- A reading is followed by the correction.
  · have next : Sensing.Bounded { sensing with sensors := s } := ⟨read, bounded.attitude⟩
    obtain ⟨computed, after⟩ := afterMpuRead_spec next
    rw [computed]
    exact ⟨rfl, after⟩

/-- Where the sensors cannot be read, the correction withdraws their state. -/
theorem probeFailed_spec {sensing : Sensing} (bounded : sensing.Bounded) (bus : I2cBus) :
    ((sensorUpdateCorrectedChecked sensing).map fun sensing => (sensing, bus)) =
        some (sensorUpdateCorrectedOnce sensing, bus) ∧
      (sensorUpdateCorrectedOnce sensing).Bounded := by
  obtain ⟨corrected, after⟩ := sensorUpdateCorrected_spec bounded
  rw [corrected]
  exact ⟨rfl, after⟩

/-- its end, -/
theorem mpuFinish_spec {result : Bool × Sensing × I2cBus} (bounded : result.2.1.Bounded) :
    mpuFinishChecked result = some (mpuFinish result) ∧ (mpuFinish result).1.Bounded := by
  obtain ⟨answered, sensing, bus⟩ := result
  -- Without a reading the probe fails as a whole.
  cases answered with
  | true => exact ⟨rfl, bounded⟩
  | false =>
    have lost : Sensing.Bounded
        { sensing with sensors := { sensing.sensors with mpuDataOk := false } } :=
      ⟨{ bounded.sensors with }, bounded.attitude⟩
    exact probeFailed_spec lost bus

/-- and the whole of it. -/
theorem mpuProbe_spec {sensing : Sensing} (bounded : sensing.Bounded) (bus : I2cBus) :
    mpuProbeChecked sensing bus = some (mpuProbe sensing bus) ∧
      (mpuProbe sensing bus).1.Bounded := by
  -- Reading and finishing are the same at both addresses.
  have probed : ∀ (bus : I2cBus) (addr who : UInt8),
      (mpuProbeAtChecked sensing bus addr who).bind mpuFinishChecked =
          some (mpuFinish (mpuProbeAt sensing bus addr who)) ∧
        (mpuFinish (mpuProbeAt sensing bus addr who)).1.Bounded := by
    intro bus addr who
    obtain ⟨computed, after⟩ := mpuProbeAt_spec bounded bus addr who
    rw [computed]
    exact mpuFinish_spec after
  unfold mpuProbeChecked mpuProbe
  dsimp only
  -- The sensor answers at its first address, at its second, or not at all.
  split
  · exact probed _ _ _
  · split
    · exact probed _ _ _
    · exact mpuFinish_spec bounded

/-- A probe is computed without an overflow, whatever the devices answer. -/
theorem ampI2cProbe_spec {sensing : Sensing} (bounded : sensing.Bounded) (bus : I2cBus) :
    ampI2cProbeChecked sensing bus = some (ampI2cProbeOnce sensing bus) ∧
      (ampI2cProbeOnce sensing bus).1.Bounded := by
  have sensors : (probeReset sensing).sensors.Bounded := { bounded.sensors with }
  have attitude : (probeReset sensing).attitude.Bounded := { bounded.attitude with }
  -- An error code is all that an early exit adds.
  have failed : ∀ code : UInt32, Sensing.Bounded { probeReset sensing with
      sensors := { (probeReset sensing).sensors with i2cLastErr := code } } :=
    fun code => ⟨{ sensors with }, attitude⟩
  unfold ampI2cProbeChecked ampI2cProbeOnce
  dsimp only
  -- Three early exits withdraw the sensors, and only then the devices are probed.
  split
  · exact probeFailed_spec (failed _) _
  · split
    · exact probeFailed_spec (failed _) _
    · split
      · exact probeFailed_spec (failed _) _
      · exact mpuProbe_spec (hmcProbe_bounded ⟨sensors, attitude⟩ _ _ _ _) _

end Probe

end AmpFc.Firmware
