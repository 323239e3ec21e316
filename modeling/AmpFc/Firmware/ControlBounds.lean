import AmpFc.Firmware.Poll
import AmpFc.Firmware.SensorBounds

/-! The control path and the whole poll with every signed operation checked, over every run. -/

namespace AmpFc.Firmware

/-- The ranges that the tuning stays in. -/
structure Config.InRange (config : Config) : Prop where
  deadzone : ampConfigDeadzoneMinUs ≤ config.deadzoneUs ∧
    config.deadzoneUs ≤ ampConfigDeadzoneMaxUs
  rateRoll : ampConfigRateDivMin ≤ config.rateRollDiv ∧ config.rateRollDiv ≤ ampConfigRateDivMax
  ratePitch : ampConfigRateDivMin ≤ config.ratePitchDiv ∧
    config.ratePitchDiv ≤ ampConfigRateDivMax
  rateYaw : ampConfigRateDivMin ≤ config.rateYawDiv ∧ config.rateYawDiv ≤ ampConfigRateDivMax
  angle : ampConfigAngleDivMin ≤ config.angleDiv ∧ config.angleDiv ≤ ampConfigAngleDivMax

/-- The channels come from sixteen-bit fields of a frame. -/
structure Rc.Bounded (rc : Rc) : Prop where
  ch0 : Within 65535 rc.ch0Us
  ch1 : Within 65535 rc.ch1Us
  ch3 : Within 65535 rc.ch3Us

section Stages

/-- `rc_norm_deadband`. -/
def rcNormDeadbandChecked (config : Config) (us : Int) : Option Int := do
  let d ← checkedSub 32 us rcMidUs
  let deadzone ← checked 32 config.deadzoneUs
  let negated ← checkedNeg 32 deadzone
  return if d > negated ∧ d < deadzone then 0 else clampI32 d (-500) 500

/-- One stick of `control_update_setpoint_once`, from its channel on. -/
def stickChecked (sign : Int) (config : Config) (us : Nat) : Option Int := do
  let us ← checked 32 us
  let stick ← rcNormDeadbandChecked config us
  checkedMul 32 sign stick

/-- One setpoint of `control_update_setpoint_once`, from its stick on. -/
def setpointChecked (stick full : Int) : Option Int := do
  let product ← checkedMul 32 stick full
  checkedDiv 32 product 500

/-- `control_update_setpoint_once`. -/
def controlUpdateSetpointChecked (rc : Rc) (config : Config) (control : Control) :
    Option Control :=
  if !rc.valid then
    some { control with
      spRollCd := 0
      spPitchCd := 0
      spRollRateRaw := 0
      spPitchRateRaw := 0
      spYawRateRaw := 0
      spThrottleUs := 1000 }
  else do
    let rollIn ← stickChecked rcRollSign config rc.ch0Us
    let pitchIn ← stickChecked rcPitchSign config rc.ch1Us
    let yawIn ← stickChecked rcYawSign config rc.ch3Us
    let rollCd ← setpointChecked rollIn attSetMaxCd
    let pitchCd ← setpointChecked pitchIn attSetMaxCd
    let rollRate ← setpointChecked rollIn rateRollSetMaxRaw
    let pitchRate ← setpointChecked pitchIn ratePitchSetMaxRaw
    let yawRate ← setpointChecked yawIn rateYawSetMaxRaw
    return { control with
      spRollCd := rollCd
      spPitchCd := pitchCd
      spRollRateRaw := rollRate
      spPitchRateRaw := pitchRate
      spYawRateRaw := yawRate
      spThrottleUs := rc.throttleUs }

/-- The rate correction of one axis in `control_update_pid_once`. -/
def rateCorrectionChecked (setpoint rate : Int) (divider : Nat) : Option Int := do
  let error ← checkedSub 32 setpoint rate
  let divider ← checked 32 divider
  let quotient ← checkedDiv 32 error divider
  return clampI32 quotient (-ratePidMaxCorrUs) ratePidMaxCorrUs

/-- The angle correction of one axis in `control_update_pid_once`. -/
def angleCorrectionChecked (setpoint sign angle : Int) (divider : Nat) : Option Int :=
  if setpoint = 0 then do
    let negated ← checkedNeg 32 sign
    let product ← checkedMul 32 negated angle
    let divider ← checked 32 divider
    let quotient ← checkedDiv 32 product divider
    return clampI32 quotient (-angleAssistMaxCorrUs) angleAssistMaxCorrUs
  else some 0

/-- `control_update_pid_once`. -/
def controlUpdatePidChecked (fw : Firmware) : Option Control :=
  let cleared := { fw.control with
    pidRoll := 0
    pidPitch := 0
    pidYaw := 0
    angleCorrRoll := 0
    angleCorrPitch := 0
    rateCorrRoll := 0
    rateCorrPitch := 0
    rateCorrYaw := 0 }
  let a := fw.sensing.attitude
  if !fw.sensing.sensors.sensorReady || !a.attOk || !fw.rc.valid then some cleared
  else do
    let c ← controlUpdateSetpointChecked fw.rc fw.config cleared
    let rateRoll ← rateCorrectionChecked c.spRollRateRaw a.bodyRateRollRaw fw.config.rateRollDiv
    let ratePitch ←
      rateCorrectionChecked c.spPitchRateRaw a.bodyRatePitchRaw fw.config.ratePitchDiv
    let rateYaw ← rateCorrectionChecked c.spYawRateRaw a.bodyRateYawRaw fw.config.rateYawDiv
    let angleRoll ←
      angleCorrectionChecked c.spRollRateRaw angleAssistRollSign a.bodyRollCd fw.config.angleDiv
    let anglePitch ←
      angleCorrectionChecked c.spPitchRateRaw angleAssistPitchSign a.bodyPitchCd fw.config.angleDiv
    let roll ← checkedAdd 32 rateRoll angleRoll
    let pitch ← checkedAdd 32 ratePitch anglePitch
    return { c with
      rateCorrRoll := rateRoll
      rateCorrPitch := ratePitch
      rateCorrYaw := rateYaw
      angleCorrRoll := angleRoll
      angleCorrPitch := anglePitch
      pidRoll := clampI32 roll (-ratePidMaxCorrUs) ratePidMaxCorrUs
      pidPitch := clampI32 pitch (-ratePidMaxCorrUs) ratePidMaxCorrUs
      pidYaw := clampI32 rateYaw (-ratePidMaxCorrUs) ratePidMaxCorrUs }

/-- The three operations that make up the mix of one motor. -/
def mixChecked (first second third : Int → Int → Option Int) (t pitch roll yaw : Int) :
    Option Int := do
  let withPitch ← first t pitch
  let withRoll ← second withPitch roll
  let mix ← third withRoll yaw
  return clampI32 mix motorPwmMinUs motorTestMaxUs

/-- `control_update_mixer_once`. -/
def controlUpdateMixerChecked (c : Control) : Option Control := do
  let throttle ← checked 32 c.spThrottleUs
  let t := clampI32 throttle motorPwmMinUs motorTestMaxUs
  let m0 ← mixChecked (checkedAdd 32) (checkedAdd 32) (checkedSub 32) t c.pidPitch c.pidRoll c.pidYaw
  let m1 ← mixChecked (checkedAdd 32) (checkedSub 32) (checkedAdd 32) t c.pidPitch c.pidRoll c.pidYaw
  let m2 ← mixChecked (checkedSub 32) (checkedSub 32) (checkedSub 32) t c.pidPitch c.pidRoll c.pidYaw
  let m3 ← mixChecked (checkedSub 32) (checkedAdd 32) (checkedAdd 32) t c.pidPitch c.pidRoll c.pidYaw
  return { c with mixM0 := m0, mixM1 := m1, mixM2 := m2, mixM3 := m3 }

/-- `motor_apply_trim_i32`. -/
def motorApplyTrimChecked (spThrottleUs idx : Nat) (us : Int) : Option Int := do
  let trim := match motorTrimUs[idx]? with
    | some trim => clampI32 trim motorTrimMinUs motorTrimMaxUs
    | none => 0
  let minSpin := match motorMinSpinUs[idx]? with
    | some spin => clampI32 spin motorPwmMinUs motorTestMaxUs
    | none => motorPwmMinUs
  let us ← checkedAdd 32 us trim
  let us := if spThrottleUs ≥ motorMinSpinApplyUs ∧ us < minSpin then minSpin else us
  return clampI32 us motorPwmMinUs motorTestMaxUs

/-- `motor_update_control_outputs`. -/
def motorUpdateControlOutputsChecked (fw : Firmware) : Option Firmware :=
  if !fw.motor.armed || !fw.motor.outputEnabled then
    some { fw with motor := motorSetAll fw.motor motorPwmIdleUs }
  else if !fw.rc.valid || !fw.sensing.sensors.sensorReady then
    some { fw with motor := motorSetAll fw.motor motorPwmIdleUs }
  else do
    let corrected ← controlUpdatePidChecked fw
    let c ← controlUpdateMixerChecked (controlApplyActiveThrottleFloorOnce corrected)
    let pulse0 ← motorApplyTrimChecked c.spThrottleUs 0 c.mixM0
    let pulse1 ← motorApplyTrimChecked c.spThrottleUs 1 c.mixM1
    let pulse2 ← motorApplyTrimChecked c.spThrottleUs 2 c.mixM2
    let pulse3 ← motorApplyTrimChecked c.spThrottleUs 3 c.mixM3
    return { fw with
      control := c
      motor := { fw.motor with
        pwmUs := #v[pulse0.toNat, pulse1.toNat, pulse2.toNat, pulse3.toNat] } }

/-- Clamping to a symmetric range bounds the magnitude. -/
theorem clampI32_within (value : Int) (bound : Nat) :
    Within bound (clampI32 value (-(bound : Int)) bound) := by
  have range : -(bound : Int) ≤ clampI32 value (-(bound : Int)) bound ∧
      clampI32 value (-(bound : Int)) bound ≤ bound := clampI32_bounds (by omega)
  unfold Within
  omega

/-- The dead band neither overflows nor leaves five hundred. -/
theorem rcNormDeadband_spec {config : Config} (inRange : config.InRange) {us : Int}
    (within : Within 65535 us) :
    rcNormDeadbandChecked config us = some (rcNormDeadband config us) ∧
      Within 500 (rcNormDeadband config us) := by
  -- The deadzone is small, so it can be negated.
  have deadzone : Within 80 (config.deadzoneUs : Int) := by
    unfold Within
    exact inRange.deadzone.2
  have middle : Within 1500 rcMidUs := by decide
  unfold rcNormDeadbandChecked rcNormDeadband
  rw [checkedSub_eq 32 within middle (by decide), checked_eq 32 deadzone (by decide)]
  simp only [Option.bind_eq_bind, Option.bind_some, checkedNeg_eq 32 deadzone (by decide)]
  refine ⟨rfl, ?_⟩
  exact Within.ite (show Within 500 0 by decide) (clampI32_within _ 500)

/-- Nor does a stick with its sign. -/
theorem stick_spec {config : Config} (inRange : config.InRange) {sign : Int}
    (unit : Within 1 sign) {us : Nat} (within : Within 65535 us) :
    stickChecked sign config us = some (sign * rcNormDeadband config us) ∧
      Within 500 (sign * rcNormDeadband config us) := by
  -- The deadband leaves at most 500, and the sign keeps it.
  obtain ⟨normed, bounded⟩ := rcNormDeadband_spec inRange within
  obtain ⟨signed, kept⟩ := signed_spec unit bounded (by decide)
  unfold stickChecked
  rw [checked_eq 32 within (by decide)]
  simp only [Option.bind_eq_bind, Option.bind_some, normed]
  exact ⟨signed, kept⟩

/-- A setpoint stays within the full deflection of its axis. -/
theorem setpoint_spec {stick full : Int} {bound : Nat} (first : Within 500 stick)
    (second : Within bound full) (small : bound ≤ 2000) :
    setpointChecked stick full = some ((stick * full).tdiv 500) ∧
      Within bound ((stick * full).tdiv 500) := by
  -- The product stays below the sign bit, and the quotient is back within the full deflection.
  have product := first.mul second
  have fits : 500 * bound < 2 ^ (32 - 1) := by omega
  unfold setpointChecked
  rw [checkedMul_eq 32 first second fits]
  have quotient : checkedDiv 32 (stick * full) 500 = some ((stick * full).tdiv 500) :=
    checkedDiv_eq 32 product (by decide) fits
  refine ⟨quotient, ?_⟩
  have commuted : Within (bound * 500) (stick * full) := by
    rw [Nat.mul_comm]
    exact product
  exact commuted.tdiv_count

/-- What the setpoints can hold once they were computed. -/
structure Control.SetpointsBounded (control : Control) : Prop where
  rollRate : Within 600 control.spRollRateRaw
  pitchRate : Within 600 control.spPitchRateRaw
  yawRate : Within 500 control.spYawRateRaw

/-- The four setpoints neither overflow nor leave their bounds. -/
theorem controlUpdateSetpoint_spec {rc : Rc} {config : Config} (inRange : config.InRange)
    (bounded : rc.Bounded) (control : Control) :
    controlUpdateSetpointChecked rc config control =
        some (controlUpdateSetpointOnce rc config control) ∧
      (controlUpdateSetpointOnce rc config control).SetpointsBounded := by
  unfold controlUpdateSetpointChecked controlUpdateSetpointOnce
  split
  · exact ⟨rfl, Within.zero, Within.zero, Within.zero⟩
  · -- Each stick is normalised once, and scaled to an angle and to a rate.
    have rollUnit : Within 1 rcRollSign := by decide
    have pitchUnit : Within 1 rcPitchSign := by decide
    have yawUnit : Within 1 rcYawSign := by decide
    obtain ⟨roll, rollWithin⟩ := stick_spec inRange rollUnit bounded.ch0
    obtain ⟨pitch, pitchWithin⟩ := stick_spec inRange pitchUnit bounded.ch1
    obtain ⟨yaw, yawWithin⟩ := stick_spec inRange yawUnit bounded.ch3
    have angles : Within 2000 attSetMaxCd := by decide
    have rolls : Within 600 rateRollSetMaxRaw := by decide
    have pitches : Within 600 ratePitchSetMaxRaw := by decide
    have yaws : Within 500 rateYawSetMaxRaw := by decide
    obtain ⟨rollCd, -⟩ := setpoint_spec rollWithin angles le_rfl
    obtain ⟨pitchCd, -⟩ := setpoint_spec pitchWithin angles le_rfl
    obtain ⟨rollRate, first⟩ := setpoint_spec rollWithin rolls (by decide)
    obtain ⟨pitchRate, second⟩ := setpoint_spec pitchWithin pitches (by decide)
    obtain ⟨yawRate, third⟩ := setpoint_spec yawWithin yaws (by decide)
    simp only [roll, pitch, yaw, rollCd, pitchCd, rollRate, pitchRate, yawRate,
      Option.bind_eq_bind, Option.bind_some]
    exact ⟨rfl, first, second, third⟩

/-- A rate correction is at most forty microseconds. -/
theorem rateCorrection_spec {setpoint rate : Int} {divider : Nat} (first : Within 600 setpoint)
    (second : Within 65536 rate)
    (range : ampConfigRateDivMin ≤ divider ∧ divider ≤ ampConfigRateDivMax) :
    rateCorrectionChecked setpoint rate divider = some (rateCorrection setpoint rate divider) ∧
      Within 40 (rateCorrection setpoint rate divider) := by
  unfold ampConfigRateDivMin ampConfigRateDivMax at range
  have nonzero : (divider : Int) ≠ 0 := by omega
  have small : Within 80 (divider : Int) := by
    unfold Within
    omega
  -- The divider comes from its range, so it is not zero and the quotient fits.
  have error := first.sub second
  unfold rateCorrectionChecked rateCorrection
  rw [checkedSub_eq 32 first second (by decide), checked_eq 32 small (by decide)]
  simp only [Option.bind_eq_bind, Option.bind_some, checkedDiv_eq 32 error nonzero (by decide)]
  exact ⟨rfl, clampI32_within _ 40⟩

/-- An angle correction is at most twenty-five. -/
theorem angleCorrection_spec (setpoint : Int) {sign angle : Int} {divider : Nat}
    (unit : Within 1 sign) (within : Within 36000 angle)
    (range : ampConfigAngleDivMin ≤ divider ∧ divider ≤ ampConfigAngleDivMax) :
    angleCorrectionChecked setpoint sign angle divider =
        some (angleCorrection setpoint sign angle divider) ∧
      Within 25 (angleCorrection setpoint sign angle divider) := by
  unfold ampConfigAngleDivMin ampConfigAngleDivMax at range
  have nonzero : (divider : Int) ≠ 0 := by omega
  have small : Within 1200 (divider : Int) := by
    unfold Within
    omega
  obtain ⟨product, bounded⟩ := signed_spec unit.neg within (by decide)
  unfold angleCorrectionChecked angleCorrection
  -- The angle is assisted only while the stick of the rate is centred.
  split
  · rw [checkedNeg_eq 32 unit (by decide)]
    simp only [Option.bind_eq_bind, Option.bind_some, product, checked_eq 32 small (by decide),
      checkedDiv_eq 32 bounded nonzero (by decide)]
    exact ⟨rfl, clampI32_within _ 25⟩
  · exact ⟨rfl, by decide⟩

/-- What the corrections can hold. -/
structure Control.CorrectionsBounded (control : Control) : Prop where
  roll : Within 40 control.pidRoll
  pitch : Within 40 control.pidPitch
  yaw : Within 40 control.pidYaw

/-- The state that the control path reads is bounded. -/
structure InRange (fw : Firmware) : Prop where
  config : fw.config.InRange
  sensing : fw.sensing.Bounded

/-- The corrections neither overflow nor leave their bounds. -/
theorem controlUpdatePid_spec {fw : Firmware} (inRange : fw.InRange) (sticks : fw.rc.Bounded) :
    controlUpdatePidChecked fw = some (controlUpdatePidOnce fw) ∧
      (controlUpdatePidOnce fw).CorrectionsBounded := by
  have config := inRange.config
  have attitude := inRange.sensing.attitude
  unfold controlUpdatePidChecked controlUpdatePidOnce
  dsimp only
  split
  · exact ⟨rfl, Within.zero, Within.zero, Within.zero⟩
  · generalize ({ fw.control with
      pidRoll := 0, pidPitch := 0, pidYaw := 0, angleCorrRoll := 0, angleCorrPitch := 0
      rateCorrRoll := 0, rateCorrPitch := 0, rateCorrYaw := 0 } : Control) = cleared
    obtain ⟨setpoints, bounded⟩ := controlUpdateSetpoint_spec config sticks cleared
    generalize controlUpdateSetpointOnce fw.rc fw.config cleared = c at setpoints bounded ⊢
    -- Three rate corrections, two angle corrections, and two sums of one each.
    obtain ⟨rateRoll, first⟩ :=
      rateCorrection_spec bounded.rollRate attitude.bodyRateRoll config.rateRoll
    obtain ⟨ratePitch, second⟩ :=
      rateCorrection_spec bounded.pitchRate attitude.bodyRatePitch config.ratePitch
    obtain ⟨rateYaw, third⟩ :=
      rateCorrection_spec (bounded.yawRate.mono (by decide)) attitude.bodyRateYaw config.rateYaw
    have rollUnit : Within 1 angleAssistRollSign := by decide
    have pitchUnit : Within 1 angleAssistPitchSign := by decide
    obtain ⟨angleRoll, fourth⟩ :=
      angleCorrection_spec c.spRollRateRaw rollUnit attitude.bodyRoll config.angle
    obtain ⟨anglePitch, fifth⟩ :=
      angleCorrection_spec c.spPitchRateRaw pitchUnit attitude.bodyPitch config.angle
    simp only [setpoints, rateRoll, ratePitch, rateYaw, angleRoll, anglePitch,
      checkedAdd_eq 32 first fourth (by decide), checkedAdd_eq 32 second fifth (by decide),
      Option.bind_eq_bind, Option.bind_some]
    exact ⟨rfl, clampI32_within _ 40, clampI32_within _ 40, clampI32_within _ 40⟩

/-- A mix comes out once its three operations do. -/
theorem mixChecked_eq {first second third : Int → Int → Option Int}
    {t pitch roll yaw withPitch withRoll mix : Int} (one : first t pitch = some withPitch)
    (two : second withPitch roll = some withRoll) (three : third withRoll yaw = some mix) :
    mixChecked first second third t pitch roll yaw =
      some (clampI32 mix motorPwmMinUs motorTestMaxUs) := by
  unfold mixChecked
  rw [one]
  simp only [Option.bind_eq_bind, Option.bind_some, two, three]
  rfl

/-- A value limited to the legal pulses is bounded. -/
theorem limited_within (mix : Int) :
    Within 1500 (clampI32 mix (motorPwmMinUs : Int) (motorTestMaxUs : Int)) := by
  -- Both limits lie within the bound.
  have range : (motorPwmMinUs : Int) ≤ clampI32 mix motorPwmMinUs motorTestMaxUs ∧
      clampI32 mix motorPwmMinUs motorTestMaxUs ≤ (motorTestMaxUs : Int) :=
    clampI32_bounds (by decide)
  unfold motorPwmMinUs motorTestMaxUs at range ⊢
  unfold Within
  omega

/-- Mixing and limiting never overflow, whatever throttle the floor has left. -/
theorem controlUpdateMixer_spec {control : Control} (bounded : control.CorrectionsBounded)
    (limited : control.spThrottleUs ≤ motorTestMaxUs) :
    controlUpdateMixerChecked control = some (controlUpdateMixerOnce control) := by
  have throttle : Within 1500 (control.spThrottleUs : Int) := limited
  have base := limited_within control.spThrottleUs
  unfold controlUpdateMixerChecked controlUpdateMixerOnce
  rw [checked_eq 32 throttle (by decide)]
  simp only [Option.bind_eq_bind, Option.bind_some]
  generalize clampI32 control.spThrottleUs (motorPwmMinUs : Int) (motorTestMaxUs : Int) = t
    at base ⊢
  -- Every mix starts from the throttle and pitch, and takes roll and yaw in one step each.
  have plus := base.add bounded.pitch
  have minus := base.sub bounded.pitch
  have m0 := mixChecked_eq (checkedAdd_eq 32 base bounded.pitch (by decide))
    (checkedAdd_eq 32 plus bounded.roll (by decide))
    (checkedSub_eq 32 (plus.add bounded.roll) bounded.yaw (by decide))
  have m1 := mixChecked_eq (checkedAdd_eq 32 base bounded.pitch (by decide))
    (checkedSub_eq 32 plus bounded.roll (by decide))
    (checkedAdd_eq 32 (plus.sub bounded.roll) bounded.yaw (by decide))
  have m2 := mixChecked_eq (checkedSub_eq 32 base bounded.pitch (by decide))
    (checkedSub_eq 32 minus bounded.roll (by decide))
    (checkedSub_eq 32 (minus.sub bounded.roll) bounded.yaw (by decide))
  have m3 := mixChecked_eq (checkedSub_eq 32 base bounded.pitch (by decide))
    (checkedAdd_eq 32 minus bounded.roll (by decide))
    (checkedAdd_eq 32 (minus.add bounded.roll) bounded.yaw (by decide))
  simp only [m0, m1, m2, m3, Option.bind_some]
  rfl

/-- Every mix is a legal pulse. -/
theorem controlUpdateMixerOnce_within (control : Control) :
    Within 1500 (controlUpdateMixerOnce control).mixM0 ∧
      Within 1500 (controlUpdateMixerOnce control).mixM1 ∧
      Within 1500 (controlUpdateMixerOnce control).mixM2 ∧
      Within 1500 (controlUpdateMixerOnce control).mixM3 := by
  unfold controlUpdateMixerOnce
  dsimp only
  exact ⟨limited_within _, limited_within _, limited_within _, limited_within _⟩

/-- Trimming a legal pulse does not overflow, for any motor. -/
theorem motorApplyTrim_spec (spThrottleUs idx : Nat) {us : Int} (within : Within 1500 us) :
    motorApplyTrimChecked spThrottleUs idx us = some (motorApplyTrimI32 spThrottleUs idx us) := by
  -- A motor that is not in the table has no trim.
  have trim : Within 50 (match motorTrimUs[idx]? with
      | some trim => clampI32 trim motorTrimMinUs motorTrimMaxUs
      | none => 0) := by
    split
    · exact clampI32_within _ 50
    · exact Within.zero
  unfold motorApplyTrimChecked motorApplyTrimI32
  dsimp only
  rw [checkedAdd_eq 32 within trim (by decide)]
  rfl

/-- The throttle floor leaves the corrections alone. -/
theorem floored_corrections {control : Control} (bounded : control.CorrectionsBounded) :
    (controlApplyActiveThrottleFloorOnce control).CorrectionsBounded :=
  { bounded with }

/-- The throttle floor ends with the limit of the test range. -/
theorem floored_throttle (control : Control) :
    (controlApplyActiveThrottleFloorOnce control).spThrottleUs ≤ motorTestMaxUs := by
  unfold controlApplyActiveThrottleFloorOnce
  dsimp only
  split_ifs <;> omega

/-- Within these bounds the motor outputs do not overflow. -/
theorem motorUpdateControlOutputs_spec {fw : Firmware} (inRange : fw.InRange)
    (sticks : fw.rc.Bounded) :
    motorUpdateControlOutputsChecked fw = some (motorUpdateControlOutputs fw) := by
  unfold motorUpdateControlOutputsChecked motorUpdateControlOutputs
  -- A gate that is shut or a missing input idles the motors without any arithmetic.
  split
  · rfl
  · split
    · rfl
    · obtain ⟨corrected, bounded⟩ := controlUpdatePid_spec inRange sticks
      have mixed := controlUpdateMixer_spec (floored_corrections bounded) (floored_throttle _)
      -- Limited pulses leave room for the trim, so the four trims do not overflow.
      obtain ⟨m0, m1, m2, m3⟩ := controlUpdateMixerOnce_within
        (controlApplyActiveThrottleFloorOnce (controlUpdatePidOnce fw))
      refine Option.bind_eq_some_iff.mpr ⟨_, corrected, ?_⟩
      refine Option.bind_eq_some_iff.mpr ⟨_, mixed, ?_⟩
      refine Option.bind_eq_some_iff.mpr ⟨_, motorApplyTrim_spec _ _ m0, ?_⟩
      refine Option.bind_eq_some_iff.mpr ⟨_, motorApplyTrim_spec _ _ m1, ?_⟩
      refine Option.bind_eq_some_iff.mpr ⟨_, motorApplyTrim_spec _ _ m2, ?_⟩
      refine Option.bind_eq_some_iff.mpr ⟨_, motorApplyTrim_spec _ _ m3, ?_⟩
      rfl

end Stages

section Tuning

variable {F : Type} [FloatArith F]

/-- A divider from the shared region lies in its range, whatever the float was. -/
theorem ampConfigFloatToDiv_range {v : F} {fallback lo hi : Nat} (ordered : lo ≤ hi)
    (range : lo ≤ fallback ∧ fallback ≤ hi) :
    lo ≤ ampConfigFloatToDiv v fallback lo hi ∧ ampConfigFloatToDiv v fallback lo hi ≤ hi := by
  unfold ampConfigFloatToDiv
  -- A refused float leaves the fallback, and any other one is clamped.
  split
  · exact range
  · exact clampU32_bounds ordered

/-- No content of the configuration's slot takes the tuning out of its ranges. -/
theorem pollConfig_inRange {fw : Firmware} (inRange : fw.config.InRange)
    (slot : SharedSlot (FlightConfig F)) : (pollConfig fw slot).config.InRange := by
  unfold pollConfig
  dsimp only
  split
  · -- The roll divider is in its range, and so are all three that it is the fallback for.
    have rate := ampConfigFloatToDiv_range (v := slot.payload.rateP) (by decide) inRange.rateRoll
    have angle := ampConfigFloatToDiv_range (v := slot.payload.angleP) (by decide) inRange.angle
    refine ⟨?_, rate, rate, rate, angle⟩
    dsimp only
    split
    · exact clampU32_bounds (by decide)
    · exact inRange.deadzone
  · exact inRange

/-- A poll of the region takes no configuration beyond the bounds. -/
theorem ampSharedRegionPollOnce_inRange {fw : Firmware} (inRange : fw.config.InRange)
    (memory : Memory F) : (ampSharedRegionPollOnce fw memory).config.InRange := by
  unfold ampSharedRegionPollOnce
  cases ampSharedRegionGet fw.shm memory with
  | none => exact inRange
  | some r =>
    dsimp only
    split
    · exact inRange
    · -- Neither the emergency branch nor a forced safe state writes the tuning.
      apply pollConfig_inRange
      split
      · exact inRange
      · exact inRange

end Tuning

section Poll

variable {F : Type} [FloatArith F] (rtos : RtosConfig) (fw : Firmware) (input : PollInput F)

omit [FloatArith F] in
/-- The poll up to the failsafe test. -/
def gatherInputsChecked : Option Firmware :=
  let fw := { fw with reception := receiveBytes input.now fw.reception input.rx }
  let probed :=
    if slowWorkDue rtos input.now fw.statics.lastI2cTick then
      (ampI2cProbeChecked fw.sensing ⟨input.i2c, []⟩).map fun probed =>
        { fw with
          sensing := probed.1
          statics := { fw.statics with lastI2cTick := input.now } }
    else some fw
  probed.map fun fw =>
    if slowWorkDue rtos input.now fw.statics.lastStage3Tick then
      { fw with
        stage3 := stage3FlightNodeStepLegacyFallback fw.stage3
        statics := { fw.statics with lastStage3Tick := input.now } }
    else fw

/-- The poll from the failsafe test up to the gate. -/
def prepareGateChecked : Option Firmware :=
  let failsafe := pollFailsafe rtos input.now fw.reception
  let fw := { fw with rc := readSticks failsafe fw.reception fw.rc }
  let fw := ampSharedRegionPollOnce fw input.memory
  (controlUpdateSetpointChecked fw.rc fw.config fw.control).map fun control =>
    { fw with control := control }

/-- The branches that follow the gate. -/
def dispatchOutputsChecked (failsafe : Bool) (fw : Firmware) : Option Firmware :=
  if fw.shm.emergencyStopLatched then some (motorForceSafe fw motorSafeFailsafe)
  else if failsafe then some (motorForceSafe fw motorSafeFailsafe)
  else if !fw.sensing.sensors.sensorReady then some (motorForceSafe fw motorSafeSensorNotRdy)
  else if !fw.motor.armed then some (motorForceSafe fw motorSafeNotArmed)
  else
    motorUpdateControlOutputsChecked
      { fw with motor := { fw.motor with outputEnabled := true, safetyReason := motorSafeOk } }

/-- `ibus_probe_poll_once`. -/
def ibusProbePollChecked : Option (Firmware × PollOutput F) := do
  let gathered ← gatherInputsChecked rtos fw input
  let prepared ← prepareGateChecked rtos gathered input
  let gated := motorUpdateArmGate rtos input.freshnessTick prepared
  let dispatched ← dispatchOutputsChecked (pollFailsafe rtos input.now gated.reception) gated
  match motorApplyOutputs rtos input.escTick dispatched with
  | (fw, programmed) =>
    match ampSharedRegionWriteRtReportOnce rtos input.reportTick fw input.memory with
    | (fw, report) => some (fw, ⟨programmed, report⟩)

variable {fw}

omit [FloatArith F] in
/-- Gathering the inputs keeps everything within its bounds. -/
theorem gatherInputs_spec (inRange : fw.InRange) :
    gatherInputsChecked rtos fw input = some (gatherInputs rtos fw input) ∧
      (gatherInputs rtos fw input).InRange := by
  obtain ⟨probed, bounded⟩ := ampI2cProbe_spec inRange.sensing ⟨input.i2c, []⟩
  unfold gatherInputsChecked gatherInputs
  dsimp only
  rw [probed]
  -- The probe and the stage-3 hook are due independently of one another.
  split
  · refine ⟨rfl, ?_⟩
    split
    · exact ⟨inRange.config, bounded⟩
    · exact ⟨inRange.config, bounded⟩
  · refine ⟨rfl, ?_⟩
    split
    · exact ⟨inRange.config, inRange.sensing⟩
    · exact ⟨inRange.config, inRange.sensing⟩

/-- Channels are read from sixteen-bit fields, or set to the middle. -/
theorem readSticks_bounded (failsafe : Bool) (reception : Reception) (rc : Rc) :
    (readSticks failsafe reception rc).Bounded := by
  have channel : ∀ us : UInt16, Within 65535 (us.toNat : Int) := by
    intro us
    exact Nat.le_of_lt_succ us.toNat_lt
  have middle : Within 65535 ((1500 : Nat) : Int) := by decide
  unfold readSticks
  -- In failsafe the sticks stand in the middle.
  split
  · exact ⟨channel _, channel _, channel _⟩
  · exact ⟨middle, middle, middle⟩

/-- So does what comes before the gate. -/
theorem prepareGate_spec (inRange : fw.InRange) :
    prepareGateChecked rtos fw input = some (prepareGate rtos fw input) ∧
      (prepareGate rtos fw input).InRange ∧ (prepareGate rtos fw input).rc.Bounded := by
  unfold prepareGateChecked prepareGate
  dsimp only
  have sticks := readSticks_bounded (pollFailsafe rtos input.now fw.reception) fw.reception fw.rc
  generalize readSticks (pollFailsafe rtos input.now fw.reception) fw.reception fw.rc = rc
    at sticks ⊢
  -- The shared region may retune the controller, but only within the ranges.
  have start : ({ fw with rc := rc } : Firmware).config.InRange := inRange.config
  have config := ampSharedRegionPollOnce_inRange start input.memory
  obtain ⟨motor, control, tuning, shm, polled, -⟩ :=
    ampSharedRegionPollOnce_frame { fw with rc := rc } input.memory
  rw [polled] at config ⊢
  obtain ⟨setpoint, -⟩ := controlUpdateSetpoint_spec config sticks control
  rw [setpoint]
  exact ⟨rfl, ⟨config, inRange.sensing⟩, sticks⟩

/-- The freshness check leaves the three stick channels alone. -/
theorem gateInput_sticks (now : Nat) (sticks : fw.rc.Bounded) :
    (gateInput rtos now fw).rc.Bounded := by
  unfold gateInput rcUpdateFreshnessOnce
  -- The freshness check leaves the sticks alone.
  split
  · exact { sticks with }
  · dsimp only
    split
    · exact { sticks with }
    · exact { sticks with }

/-- The gate touches nothing that has bounds. -/
theorem motorUpdateArmGate_inRange (now : Nat) (inRange : fw.InRange) (sticks : fw.rc.Bounded) :
    (motorUpdateArmGate rtos now fw).InRange ∧
      (motorUpdateArmGate rtos now fw).rc.Bounded := by
  -- The gate writes its own variables, behind the freshness check.
  have fresh := gateInput_sticks rtos now sticks
  obtain ⟨rc, armed, checked⟩ := gateInput_frame rtos now fw
  rw [motorUpdateArmGate_eq]
  rw [checked] at fresh ⊢
  exact ⟨⟨inRange.config, inRange.sensing⟩, { fresh with }⟩

/-- The outputs are computed without overflow. -/
theorem dispatchOutputs_spec (failsafe : Bool) (inRange : fw.InRange) (sticks : fw.rc.Bounded) :
    dispatchOutputsChecked failsafe fw = some (dispatchOutputs failsafe fw) ∧
      (dispatchOutputs failsafe fw).InRange := by
  constructor
  · have enabled : ({ fw with motor := { fw.motor with
        outputEnabled := true, safetyReason := motorSafeOk } } : Firmware).InRange :=
      ⟨inRange.config, inRange.sensing⟩
    unfold dispatchOutputsChecked dispatchOutputs
    -- Only the last branch computes anything.
    rw [motorUpdateControlOutputs_spec enabled sticks]
    split_ifs
    · rfl
    · rfl
    · rfl
    · rfl
    · rfl
  · obtain ⟨motor, control, branched⟩ := dispatchOutputs_frame failsafe fw
    rw [branched]
    exact ⟨inRange.config, inRange.sensing⟩

/-- A poll is computed without an overflow, and leaves a state that is in range again. -/
theorem ibusProbePoll_spec (inRange : fw.InRange) :
    ibusProbePollChecked rtos fw input = some (ibusProbePollOnce rtos fw input) ∧
      (afterPoll rtos fw input).InRange := by
  -- Sensors, setpoint, gate and outputs follow one another, each in range for the next.
  obtain ⟨gathered, first⟩ := gatherInputs_spec rtos input inRange
  obtain ⟨prepared, second, sticks⟩ := prepareGate_spec rtos input first
  obtain ⟨third, gatedSticks⟩ :=
    motorUpdateArmGate_inRange rtos input.freshnessTick second sticks
  obtain ⟨dispatched, last⟩ := dispatchOutputs_spec
    (pollFailsafe rtos input.now (afterGate rtos fw input).reception) third gatedSticks
  constructor
  · refine Option.bind_eq_some_iff.mpr ⟨_, gathered, ?_⟩
    refine Option.bind_eq_some_iff.mpr ⟨_, prepared, ?_⟩
    refine Option.bind_eq_some_iff.mpr ⟨_, dispatched, ?_⟩
    rfl
  · obtain ⟨pwm, shm, ended, -⟩ := afterPoll_frame rtos fw input
    rw [ended]
    exact ⟨last.config, last.sensing⟩

end Poll

section Run

variable {F : Type} [FloatArith F] (rtos : RtosConfig) (input : Nat → TaskInput F)

/-- The initialisers are in range. -/
theorem boot_inRange : boot.InRange where
  config := by
    refine ⟨?_, ?_, ?_, ?_, ?_⟩ <;> decide
  sensing := sensing_initial

/-- Before every poll of a run the firmware is within its bounds. -/
theorem beforePoll_inRange (n : Nat) : (beforePoll rtos input n).InRange := by
  -- The induction is on the number of polls, through the invariant rule for runs.
  refine stateAt_invariant boot_inRange ?_ n
  intro fw k inRange
  obtain ⟨-, after⟩ := ibusProbePoll_spec rtos (input k).toPollInput inRange
  obtain ⟨phys, ready, turned⟩ := cmdQuRunTask_frame rtos fw (input k)
  rw [turned]
  exact ⟨after.config, after.sensing⟩

/--
The integer pipeline never overflows and never divides by zero.

In every run the tuning stays in its ranges, and every poll has a result with all signed
operations checked, namely the one it has without the checks.
-/
theorem pipeline_checked (n : Nat) : (beforePoll rtos input n).config.InRange ∧
    ibusProbePollChecked rtos (beforePoll rtos input n) (input n).toPollInput =
      some (ibusProbePollOnce rtos (beforePoll rtos input n) (input n).toPollInput) :=
  ⟨(beforePoll_inRange rtos input n).config,
    (ibusProbePoll_spec rtos (input n).toPollInput (beforePoll_inRange rtos input n)).1⟩

end Run

end AmpFc.Firmware
