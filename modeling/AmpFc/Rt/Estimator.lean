import AmpFc.Lib.Covariance
import AmpFc.Lib.Execution
import AmpFc.Lib.Loop
import AmpFc.Rt.Controller

/-! The attitude estimator: one Kalman filter an axis, and the yaw pulled toward the compass. -/

namespace AmpFc

open FloatArith (ofRat)

/-- The functions of `<cmath>` that the estimator calls. -/
structure CMath (F : Type) where
  sin : F → F
  cos : F → F
  atan2 : F → F → F
  sqrt : F → F

/-- `RawImuSample`, without its time stamp, which the estimator does not read. -/
structure RawImuSample (F : Type) where
  accX : F
  accY : F
  accZ : F
  gyroXDps : F
  gyroYDps : F
  gyroZDps : F

/-- `RawMagSample`, without its time stamp, which the estimator does not read. -/
structure RawMagSample (F : Type) where
  magX : F
  magY : F
  magZ : F

/-- `AxisKalman`. -/
structure AxisKalman (F : Type) where
  angleDeg : F
  biasDps : F
  p00 : F
  p01 : F
  p10 : F
  p11 : F
  qAngle : F
  qBias : F
  rMeasure : F

namespace AxisKalman

variable {F : Type} [FloatArith F]

/-- The constructor `AxisKalman::AxisKalman`. -/
def initial : AxisKalman F where
  -- The identity covariance, and the noises of the header.
  angleDeg := ofRat 0
  biasDps := ofRat 0
  p00 := ofRat 1
  p01 := ofRat 0
  p10 := ofRat 0
  p11 := ofRat 1
  qAngle := ofRat (1 / 1000)
  qBias := ofRat (3 / 1000)
  rMeasure := ofRat (3 / 100)

/-- The first half of `AxisKalman::update`, up to the innovation. -/
def predict (axis : AxisKalman F) (measuredRateDps dtS : F) : AxisKalman F :=
  let rate := measuredRateDps - axis.biasDps
  -- Each entry is written before the ones it reads.
  { axis with
    angleDeg := axis.angleDeg + dtS * rate
    p00 := axis.p00 + dtS * (dtS * axis.p11 - axis.p01 - axis.p10 + axis.qAngle)
    p01 := axis.p01 - dtS * axis.p11
    p10 := axis.p10 - dtS * axis.p11
    p11 := axis.p11 + axis.qBias * dtS }

/-- `innovation_cov`. -/
def innovationCov (axis : AxisKalman F) : F := axis.p00 + axis.rMeasure

/-- `k0`. -/
def k0 (axis : AxisKalman F) : F := axis.p00 / axis.innovationCov

/-- `k1`. -/
def k1 (axis : AxisKalman F) : F := axis.p10 / axis.innovationCov

/-- The second half of `AxisKalman::update`, from the innovation on. -/
def correct (axis : AxisKalman F) (measuredAngleDeg : F) : AxisKalman F :=
  let innovation := measuredAngleDeg - axis.angleDeg
  -- The upper row was saved before it is written, for the lower row to read.
  let p00Temp := axis.p00
  let p01Temp := axis.p01
  { axis with
    angleDeg := axis.angleDeg + axis.k0 * innovation
    biasDps := axis.biasDps + axis.k1 * innovation
    p00 := axis.p00 - axis.k0 * p00Temp
    p01 := axis.p01 - axis.k0 * p01Temp
    p10 := axis.p10 - axis.k1 * p00Temp
    p11 := axis.p11 - axis.k1 * p01Temp }

/-- `AxisKalman::update`: the angle it returns, and the filter it leaves. -/
def update (axis : AxisKalman F) (measuredAngleDeg measuredRateDps dtS : F) : F × AxisKalman F :=
  let updated := (axis.predict measuredRateDps dtS).correct measuredAngleDeg
  (updated.angleDeg, updated)

end AxisKalman

/-- `Estimator`. -/
structure Estimator (F : Type) where
  gyroBias : F × F × F
  rollFilter : AxisKalman F
  pitchFilter : AxisKalman F
  lastState : AttitudeState F

namespace Estimator

variable {F : Type} [FloatArith F]

/-- `kRadToDeg`. -/
def kRadToDeg : F := ofRat (572957795 / 10000000)

/-- `kDegToRad`. -/
def kDegToRad : F := ofRat (174532925 / 10000000000)

/-- The estimator as its members are initialised. -/
def initial : Estimator F where
  gyroBias := (ofRat 0, ofRat 0, ofRat 0)
  rollFilter := .initial
  pitchFilter := .initial
  lastState := ⟨ofRat 0, ofRat 0, ofRat 0, ofRat 0, ofRat 0, ofRat 0⟩

/-- `Estimator::setGyroBias`. -/
def setGyroBias (e : Estimator F) (biasDps : F × F × F) : Estimator F :=
  { e with gyroBias := biasDps }

/-- `Estimator::update`: the state it returns, and the estimator it leaves. -/
def update (math : CMath F) (e : Estimator F) (sample : RawImuSample F) (dtS : F) :
    AttitudeState F × Estimator F :=
  let rollAccDeg := math.atan2 sample.accY sample.accZ * kRadToDeg
  let pitchAccDeg := math.atan2 (-sample.accX)
    (math.sqrt (sample.accY * sample.accY + sample.accZ * sample.accZ)) * kRadToDeg
  let rollRate := sample.gyroXDps - e.gyroBias.1
  let pitchRate := sample.gyroYDps - e.gyroBias.2.1
  let yawRate := sample.gyroZDps - e.gyroBias.2.2
  let roll := e.rollFilter.update rollAccDeg rollRate dtS
  let pitch := e.pitchFilter.update pitchAccDeg pitchRate dtS
  -- Yaw is only integrated here.
  let state : AttitudeState F :=
    { rollDeg := roll.1
      pitchDeg := pitch.1
      yawDeg := e.lastState.yawDeg + yawRate * dtS
      rollRateDps := rollRate
      pitchRateDps := pitchRate
      yawRateDps := yawRate }
  (state, { e with rollFilter := roll.2, pitchFilter := pitch.2, lastState := state })

/-- `Estimator::wrapAngleDeg`, with fuel for each of its two loops. -/
def wrapAngleDeg (fuel : Nat) (angleDeg : F) : Option F := do
  -- The loop from above runs first, and the one from below starts where it ended.
  let lowered ← runWhile (fun angle => FloatArith.lt (ofRat 180) angle)
    (fun angle => angle - ofRat 360) fuel angleDeg
  runWhile (fun angle => FloatArith.lt angle (ofRat (-180)))
    (fun angle => angle + ofRat 360) fuel lowered

/-- `heading_deg` of `Estimator::correctYawFromMag`: the sample turned level, as an angle. -/
def headingDeg (math : CMath F) (fuel : Nat) (state : AttitudeState F) (sample : RawMagSample F) :
    Option F :=
  let rollRad := state.rollDeg * kDegToRad
  let pitchRad := state.pitchDeg * kDegToRad
  let cosRoll := math.cos rollRad
  let sinRoll := math.sin rollRad
  let cosPitch := math.cos pitchRad
  let sinPitch := math.sin pitchRad
  let xh := sample.magX * cosPitch + sample.magZ * sinPitch
  let yh := sample.magX * sinRoll * sinPitch + sample.magY * cosRoll -
    sample.magZ * sinRoll * cosPitch
  wrapAngleDeg fuel (math.atan2 (-yh) xh * kRadToDeg)

/-- `correction_alpha` of `Estimator::correctYawFromMag`. -/
def correctionAlpha (dtS : F) : F :=
  FloatArith.clamp (dtS * ofRat (3 / 2)) (ofRat (1 / 1000)) (ofRat (3 / 100))

/-- `Estimator::correctYawFromMag`: the state it returns, and the estimator it leaves. -/
def correctYawFromMag (math : CMath F) (fuel : Nat) (e : Estimator F) (sample : RawMagSample F)
    (dtS : F) : Option (AttitudeState F × Estimator F) :=
  -- A time step that is not positive leaves the estimator as it was.
  if FloatArith.le dtS (ofRat 0) then some (e.lastState, e)
  else do
    let heading ← headingDeg math fuel e.lastState sample
    -- The error is taken the short way round.
    let error ← wrapAngleDeg fuel (heading - e.lastState.yawDeg)
    let yaw ← wrapAngleDeg fuel (e.lastState.yawDeg + error * correctionAlpha dtS)
    let state := { e.lastState with yawDeg := yaw }
    return (state, { e with lastState := state })

/-- Once its three wraps have come out, the correction writes the yaw and nothing else. -/
theorem correctYawFromMag_eq {math : CMath F} {fuel : Nat} {e : Estimator F}
    {sample : RawMagSample F} {dtS heading error yaw : F}
    (elapsed : FloatArith.le dtS (ofRat 0) = false)
    (headed : headingDeg math fuel e.lastState sample = some heading)
    (errs : wrapAngleDeg fuel (heading - e.lastState.yawDeg) = some error)
    (yaws : wrapAngleDeg fuel (e.lastState.yawDeg + error * correctionAlpha dtS) = some yaw) :
    correctYawFromMag math fuel e sample dtS =
      some ({ e.lastState with yawDeg := yaw },
        { e with lastState := { e.lastState with yawDeg := yaw } }) := by
  -- Every wrap of the call is one of the three in the hypotheses.
  simp only [correctYawFromMag, elapsed, Bool.false_eq_true, if_false, headed, errs, yaws,
    Option.bind_eq_bind, Option.bind_some]
  rfl

end Estimator

section Filter

/-- What one update of a filter is given. -/
structure KalmanInput (F : Type) where
  measuredAngleDeg : F
  measuredRateDps : F
  dtS : F

/-- A filter after a number of updates since its construction. -/
def kalmanAt {F : Type} [FloatArith F] (inputs : Nat → KalmanInput F) : Nat → AxisKalman F :=
  stateAt (fun axis input =>
    (axis.update input.measuredAngleDeg input.measuredRateDps input.dtS).2) .initial inputs

namespace AxisKalman

/-- The covariance of a filter. -/
def covariance (axis : AxisKalman ℚ) : Covariance ℚ := ⟨axis.p00, axis.p01, axis.p10, axis.p11⟩

/-- The covariance is well posed, and the noises are of the right sign. -/
structure WellPosed (axis : AxisKalman ℚ) : Prop where
  covariance : axis.covariance.WellPosed
  qAngle : 0 ≤ axis.qAngle
  qBias : 0 ≤ axis.qBias
  rMeasure : 0 < axis.rMeasure

variable {axis : AxisKalman ℚ}

/-- The initial covariance is the identity. -/
theorem initial_wellPosed : (initial : AxisKalman ℚ).WellPosed where
  covariance := .of_det rfl (show (0 : ℚ) < 1 by norm_num)
    (show (0 : ℚ) < 1 * 1 - 0 * 0 by norm_num)
  qAngle := show (0 : ℚ) ≤ 1 / 1000 by norm_num
  qBias := show (0 : ℚ) ≤ 3 / 1000 by norm_num
  rMeasure := show (0 : ℚ) < 3 / 100 by norm_num

/-- Predicting shears the covariance and adds noise in proportion to the time. -/
theorem predict_covariance (axis : AxisKalman ℚ) (measuredRateDps dtS : ℚ) :
    (axis.predict measuredRateDps dtS).covariance =
      (axis.covariance.shear dtS).addNoise (dtS * axis.qAngle) (axis.qBias * dtS) := by
  -- The source adds the noise inside the product with the time step.
  have corner : axis.p00 + dtS * (dtS * axis.p11 - axis.p01 - axis.p10 + axis.qAngle) =
      axis.p00 + dtS * (dtS * axis.p11 - axis.p01 - axis.p10) + dtS * axis.qAngle := by ring
  show Covariance.mk (axis.p00 + dtS * (dtS * axis.p11 - axis.p01 - axis.p10 + axis.qAngle))
    (axis.p01 - dtS * axis.p11) (axis.p10 - dtS * axis.p11) (axis.p11 + axis.qBias * dtS) = _
  rw [corner]
  rfl

/-- Correcting conditions the covariance on the measurement. -/
theorem correct_covariance (axis : AxisKalman ℚ) (measuredAngleDeg : ℚ) :
    (axis.correct measuredAngleDeg).covariance = axis.covariance.condition axis.rMeasure := rfl

/-- Predicting over a time that is not negative keeps a filter well posed. -/
theorem WellPosed.predict (posed : axis.WellPosed) (measuredRateDps : ℚ) {dtS : ℚ}
    (forward : 0 ≤ dtS) : (axis.predict measuredRateDps dtS).WellPosed where
  covariance := by
    -- A shear keeps the determinant, and the noise only adds to the diagonal.
    rw [predict_covariance]
    exact (posed.covariance.shear dtS).addNoise (mul_nonneg forward posed.qAngle)
      (mul_nonneg posed.qBias forward)
  qAngle := posed.qAngle
  qBias := posed.qBias
  rMeasure := posed.rMeasure

/-- Correcting keeps a filter well posed. -/
theorem WellPosed.correct (posed : axis.WellPosed) (measuredAngleDeg : ℚ) :
    (axis.correct measuredAngleDeg).WellPosed where
  covariance := by
    rw [correct_covariance]
    exact posed.covariance.condition posed.rMeasure
  qAngle := posed.qAngle
  qBias := posed.qBias
  rMeasure := posed.rMeasure

/-- The gain of a well-posed filter lies strictly between zero and one. -/
theorem WellPosed.k0_between (posed : axis.WellPosed) : 0 < axis.k0 ∧ axis.k0 < 1 :=
  gain_between posed.covariance.p00_pos posed.rMeasure

/-- The corrected angle lies between the predicted and the measured one. -/
theorem WellPosed.correct_angle (posed : axis.WellPosed) (measuredAngleDeg : ℚ) :
    (axis.correct measuredAngleDeg).angleDeg ∈ Set.uIcc axis.angleDeg measuredAngleDeg :=
  add_share_mem_uIcc posed.k0_between.1.le posed.k0_between.2.le

end AxisKalman

/-- Updates over times that are not negative keep the filter well posed. -/
theorem kalmanAt_wellPosed {inputs : Nat → KalmanInput ℚ} (forward : ∀ n, 0 ≤ (inputs n).dtS)
    (n : Nat) : (kalmanAt inputs n).WellPosed := by
  -- The invariant survives the two halves of an update one after the other.
  refine stateAt_invariant AxisKalman.initial_wellPosed ?_ n
  intro axis n posed
  exact (posed.predict _ (forward n)).correct _

/--
The Kalman filter of an axis stays well posed.

After every update its covariance is symmetric and positive definite.
Nothing was divided by zero, the gain was between zero and one, and the angle ended between the
predicted and the measured one.
-/
theorem kalman_well_posed (inputs : Nat → KalmanInput ℚ) (forward : ∀ n, 0 ≤ (inputs n).dtS)
    (n : Nat) :
    let predicted := (kalmanAt inputs n).predict (inputs n).measuredRateDps (inputs n).dtS
    let updated := kalmanAt inputs (n + 1)
    updated.p01 = updated.p10 ∧ 0 < updated.p00 ∧ 0 < updated.p11 ∧
      0 < updated.p00 * updated.p11 - updated.p01 * updated.p10 ∧
      predicted.rMeasure ≤ predicted.innovationCov ∧ predicted.innovationCov ≠ 0 ∧
      0 < predicted.k0 ∧ predicted.k0 < 1 ∧
      updated.angleDeg ∈ Set.uIcc predicted.angleDeg (inputs n).measuredAngleDeg := by
  intro predicted updated
  -- What is divided by belongs to the state between the two halves.
  have before : predicted.WellPosed := (kalmanAt_wellPosed forward n).predict _ (forward n)
  have after := (kalmanAt_wellPosed forward (n + 1)).covariance
  have variance : 0 < predicted.p00 := before.covariance.p00_pos
  have innovation : predicted.innovationCov = predicted.p00 + predicted.rMeasure := rfl
  have noise := before.rMeasure
  refine ⟨after.symmetric, after.p00_pos, after.p11_pos, after.det_pos, ?_, ?_,
    before.k0_between.1, before.k0_between.2, before.correct_angle _⟩
  · rw [innovation]
    linarith
  · rw [innovation]
    linarith

/-- Ten milliseconds at a time, the filter stays well posed. -/
theorem kalman_well_posed_tenMs :
    let inputs : Nat → KalmanInput ℚ := fun _ => ⟨5, 1, 1 / 100⟩
    0 < (kalmanAt inputs 1).p00 :=
  (kalman_well_posed (fun _ => ⟨5, 1, 1 / 100⟩) (fun _ => by norm_num) 0).2.1

end Filter

section Yaw

open Estimator

/-- An angle in the interval that differs from another one by full turns. -/
structure Wraps (angle result : ℚ) : Prop where
  low : -180 ≤ result
  high : result ≤ 180
  turns : ∃ turns : ℤ, result = angle + 360 * turns

/-- Enough turns bring any angle down to the upper end of the interval. -/
theorem exists_lowered (angle : ℚ) :
    ∃ turns : Nat, (fun each : ℚ => each - 360)^[turns] angle ≤ 180 := by
  -- As many turns as the angle has degrees are more than enough.
  obtain ⟨turns, enough⟩ := exists_nat_gt angle
  have count : (0 : ℚ) ≤ turns := Nat.cast_nonneg turns
  have adds : (fun each : ℚ => each - 360) = fun each => each + (-360) := by
    funext each
    exact sub_eq_add_neg each 360
  refine ⟨turns, ?_⟩
  rw [adds, add_right_iterate, nsmul_eq_mul]
  linarith

/-- Enough turns bring any angle up to the lower end of the interval. -/
theorem exists_raised (angle : ℚ) :
    ∃ turns : Nat, -180 ≤ (fun each : ℚ => each + 360)^[turns] angle := by
  -- Here the degrees below zero are counted.
  obtain ⟨turns, enough⟩ := exists_nat_gt (-angle)
  have count : (0 : ℚ) ≤ turns := Nat.cast_nonneg turns
  refine ⟨turns, ?_⟩
  rw [add_right_iterate, nsmul_eq_mul]
  linarith

/-- Both loops end, and leave the angle in the interval, full turns away from where it was. -/
theorem wrapAngleDeg_ends (angle : ℚ) :
    ∃ (result : ℚ) (enough : Nat), Wraps angle result ∧
      ∀ fuel, enough < fuel → wrapAngleDeg fuel angle = some result := by
  -- Both loops keep the angle up to full turns.
  obtain ⟨down, reached⟩ := exists_lowered angle
  obtain ⟨lowered, lowers, below, moved⟩ := runWhile_ends
    (fun each : ℚ => FloatArith.lt (ofRat 180) each) (fun each : ℚ => each - ofRat 360)
    (fun each => ∃ turns : ℤ, each = angle + 360 * turns) (by
      rintro each ⟨turns, rfl⟩ _
      refine ⟨turns - 1, ?_⟩
      show angle + 360 * turns - 360 = _
      push_cast
      ring) down ⟨0, by push_cast; ring⟩ (decide_eq_false (not_lt.mpr reached))
  obtain ⟨up, reached'⟩ := exists_raised lowered
  -- Adding a turn below the interval does not leave it at the other end.
  obtain ⟨result, raises, above, high, turns⟩ := runWhile_ends
    (fun each : ℚ => FloatArith.lt each (ofRat (-180))) (fun each : ℚ => each + ofRat 360)
    (fun each => each ≤ 180 ∧ ∃ turns : ℤ, each = angle + 360 * turns) (by
      rintro each ⟨_, turns, moved⟩ low
      have low : each < -180 := of_decide_eq_true low
      refine ⟨?_, turns + 1, ?_⟩
      · show each + 360 ≤ 180
        linarith
      · show each + 360 = _
        rw [moved]
        push_cast
        ring) up ⟨not_lt.mp (of_decide_eq_false below), moved⟩
    (decide_eq_false (not_lt.mpr reached'))
  refine ⟨result, max down up, ⟨not_lt.mp (of_decide_eq_false above), high, turns⟩, ?_⟩
  intro fuel enough
  unfold wrapAngleDeg
  rw [lowers fuel (lt_of_le_of_lt (le_max_left _ _) enough)]
  exact raises fuel (lt_of_le_of_lt (le_max_right _ _) enough)

/-- The heading is the wrapped angle of the sample, whatever the functions of `<cmath>` say. -/
theorem headingDeg_ends (math : CMath ℚ) (state : AttitudeState ℚ) (sample : RawMagSample ℚ) :
    ∃ (heading : ℚ) (enough : Nat), (-180 ≤ heading ∧ heading ≤ 180) ∧
      ∀ fuel, enough < fuel → headingDeg math fuel state sample = some heading := by
  unfold headingDeg
  obtain ⟨heading, enough, wraps, ends⟩ := wrapAngleDeg_ends _
  exact ⟨heading, enough, ⟨wraps.low, wraps.high⟩, ends⟩

/-- Functions under which every sample lies at one angle. -/
def constantAngle : CMath ℚ := ⟨fun _ => 0, fun _ => 1, fun _ _ => 1, fun value => value⟩

end Yaw

end AmpFc
