import AmpFc.Firmware.SharedRegion

/-! The control path: stick setpoints, rate control with angle assist, mixer, and motor trim. -/

namespace AmpFc.Firmware

/-- `RC_MID_US`. -/
def rcMidUs : Int := 1500

/-- `RC_ROLL_SIGN`. -/
def rcRollSign : Int := 1

/-- `RC_PITCH_SIGN`. -/
def rcPitchSign : Int := -1

/-- `RC_YAW_SIGN`. -/
def rcYawSign : Int := 1

/-- `ATT_SET_MAX_CD`. -/
def attSetMaxCd : Int := 2000

/-- `RATE_ROLL_SET_MAX_RAW`. -/
def rateRollSetMaxRaw : Int := 600

/-- `RATE_PITCH_SET_MAX_RAW`. -/
def ratePitchSetMaxRaw : Int := 600

/-- `RATE_YAW_SET_MAX_RAW`. -/
def rateYawSetMaxRaw : Int := 500

/-- `RATE_PID_MAX_CORR_US`. -/
def ratePidMaxCorrUs : Int := 40

/-- `ANGLE_ASSIST_MAX_CORR_US`. -/
def angleAssistMaxCorrUs : Int := 25

/-- `ANGLE_ASSIST_ROLL_SIGN`. -/
def angleAssistRollSign : Int := 1

/-- `ANGLE_ASSIST_PITCH_SIGN`. -/
def angleAssistPitchSign : Int := 1

/-- `CONTROL_MIN_ACTIVE_THROTTLE_US`. -/
def controlMinActiveThrottleUs : Nat := 1250

/-- `MOTOR_MIN_SPIN_APPLY_US`. -/
def motorMinSpinApplyUs : Nat := 1010

/-- `MOTOR_TRIM_MIN_US`. -/
def motorTrimMinUs : Int := -50

/-- `MOTOR_TRIM_MAX_US`. -/
def motorTrimMaxUs : Int := 50

/-- `g_motor_trim_us`, which nothing writes. -/
def motorTrimUs : List Int := [10, 0, 0, 10]

/-- `g_motor_min_spin_us`, which nothing writes. -/
def motorMinSpinUs : List Int := [1220, 1235, 1220, 1220]

/-- `rc_norm_deadband`. -/
def rcNormDeadband (config : Config) (us : Int) : Int :=
  let d := us - rcMidUs
  let deadzone : Int := config.deadzoneUs
  if d > -deadzone ∧ d < deadzone then 0 else clampI32 d (-500) 500

/-- `control_update_setpoint_once`. -/
def controlUpdateSetpointOnce (rc : Rc) (config : Config) (control : Control) : Control :=
  -- Without a valid receiver every setpoint is neutral and the throttle is low.
  if !rc.valid then
    { control with
      spRollCd := 0
      spPitchCd := 0
      spRollRateRaw := 0
      spPitchRateRaw := 0
      spYawRateRaw := 0
      spThrottleUs := 1000 }
  else
    let rollIn := rcRollSign * rcNormDeadband config rc.ch0Us
    let pitchIn := rcPitchSign * rcNormDeadband config rc.ch1Us
    let yawIn := rcYawSign * rcNormDeadband config rc.ch3Us
    { control with
      spRollCd := (rollIn * attSetMaxCd).tdiv 500
      spPitchCd := (pitchIn * attSetMaxCd).tdiv 500
      spRollRateRaw := (rollIn * rateRollSetMaxRaw).tdiv 500
      spPitchRateRaw := (pitchIn * ratePitchSetMaxRaw).tdiv 500
      spYawRateRaw := (yawIn * rateYawSetMaxRaw).tdiv 500
      spThrottleUs := rc.throttleUs }

/-- The clamped rate correction of one axis. -/
def rateCorrection (setpoint rate : Int) (divider : Nat) : Int :=
  clampI32 ((setpoint - rate).tdiv divider) (-ratePidMaxCorrUs) ratePidMaxCorrUs

/-- The clamped angle correction of one axis, absent while its stick is deflected. -/
def angleCorrection (setpoint sign angle : Int) (divider : Nat) : Int :=
  if setpoint = 0 then
    clampI32 ((-sign * angle).tdiv divider) (-angleAssistMaxCorrUs) angleAssistMaxCorrUs
  else 0

/-- `control_update_pid_once`. -/
def controlUpdatePidOnce (fw : Firmware) : Control :=
  let cleared := { fw.control with
    pidRoll := 0
    pidPitch := 0
    pidYaw := 0
    angleCorrRoll := 0
    angleCorrPitch := 0
    rateCorrRoll := 0
    rateCorrPitch := 0
    rateCorrYaw := 0 }
  let a := fw.sensing.attitude
  if !fw.sensing.sensors.sensorReady || !a.attOk || !fw.rc.valid then cleared
  else
    let c := controlUpdateSetpointOnce fw.rc fw.config cleared
    let rateRoll := rateCorrection c.spRollRateRaw a.bodyRateRollRaw fw.config.rateRollDiv
    let ratePitch := rateCorrection c.spPitchRateRaw a.bodyRatePitchRaw fw.config.ratePitchDiv
    let rateYaw := rateCorrection c.spYawRateRaw a.bodyRateYawRaw fw.config.rateYawDiv
    let angleRoll :=
      angleCorrection c.spRollRateRaw angleAssistRollSign a.bodyRollCd fw.config.angleDiv
    let anglePitch :=
      angleCorrection c.spPitchRateRaw angleAssistPitchSign a.bodyPitchCd fw.config.angleDiv
    -- The sum of both corrections is bounded once more by the rate bound.
    { c with
      rateCorrRoll := rateRoll
      rateCorrPitch := ratePitch
      rateCorrYaw := rateYaw
      angleCorrRoll := angleRoll
      angleCorrPitch := anglePitch
      pidRoll := clampI32 (rateRoll + angleRoll) (-ratePidMaxCorrUs) ratePidMaxCorrUs
      pidPitch := clampI32 (ratePitch + anglePitch) (-ratePidMaxCorrUs) ratePidMaxCorrUs
      pidYaw := clampI32 rateYaw (-ratePidMaxCorrUs) ratePidMaxCorrUs }

/-- `control_apply_active_throttle_floor_once`. -/
def controlApplyActiveThrottleFloorOnce (control : Control) : Control :=
  let raised :=
    if control.spThrottleUs > motorPwmIdleUs ∧ control.spThrottleUs < controlMinActiveThrottleUs
    then controlMinActiveThrottleUs else control.spThrottleUs
  { control with
    spThrottleUs := if raised > motorTestMaxUs then motorTestMaxUs else raised }

/-- `control_update_mixer_once`, for motors left front, right front, right rear, left back. -/
def controlUpdateMixerOnce (c : Control) : Control :=
  -- The throttle is limited before the corrections, and each motor after them.
  let t := clampI32 c.spThrottleUs motorPwmMinUs motorTestMaxUs
  let limit := fun mix => clampI32 mix motorPwmMinUs motorTestMaxUs
  { c with
    mixM0 := limit (t + c.pidPitch + c.pidRoll - c.pidYaw)
    mixM1 := limit (t + c.pidPitch - c.pidRoll + c.pidYaw)
    mixM2 := limit (t - c.pidPitch - c.pidRoll - c.pidYaw)
    mixM3 := limit (t - c.pidPitch + c.pidRoll + c.pidYaw) }

/-- `motor_apply_trim_i32`. -/
def motorApplyTrimI32 (spThrottleUs idx : Nat) (us : Int) : Int :=
  -- An index past the last motor is neither trimmed nor lifted.
  let trim := match motorTrimUs[idx]? with
    | some trim => clampI32 trim motorTrimMinUs motorTrimMaxUs
    | none => 0
  let minSpin := match motorMinSpinUs[idx]? with
    | some spin => clampI32 spin motorPwmMinUs motorTestMaxUs
    | none => motorPwmMinUs
  let us := us + trim
  let us := if spThrottleUs ≥ motorMinSpinApplyUs ∧ us < minSpin then minSpin else us
  clampI32 us motorPwmMinUs motorTestMaxUs

/-- `motor_update_control_outputs`. -/
def motorUpdateControlOutputs (fw : Firmware) : Firmware :=
  -- Anything less than a fully enabled state idles the motors again.
  if !fw.motor.armed || !fw.motor.outputEnabled then
    { fw with motor := motorSetAll fw.motor motorPwmIdleUs }
  else if !fw.rc.valid || !fw.sensing.sensors.sensorReady then
    { fw with motor := motorSetAll fw.motor motorPwmIdleUs }
  else
    let c := controlUpdateMixerOnce
      (controlApplyActiveThrottleFloorOnce (controlUpdatePidOnce fw))
    let pulse := fun idx mix => (motorApplyTrimI32 c.spThrottleUs idx mix).toNat
    { fw with
      control := c
      motor := { fw.motor with
        pwmUs := #v[pulse 0 c.mixM0, pulse 1 c.mixM1, pulse 2 c.mixM2, pulse 3 c.mixM3] } }

/-- The control path reads the whole state and writes only pulses and control variables. -/
theorem motorUpdateControlOutputs_frame (fw : Firmware) :
    ∃ pwmUs control, motorUpdateControlOutputs fw =
      { fw with motor := { fw.motor with pwmUs := pwmUs }, control := control } := by
  -- Each of the three exits is already written in this form.
  unfold motorUpdateControlOutputs motorSetAll
  split
  · exact ⟨_, fw.control, rfl⟩
  · split
    · exact ⟨_, fw.control, rfl⟩
    · exact ⟨_, _, rfl⟩

end AmpFc.Firmware
