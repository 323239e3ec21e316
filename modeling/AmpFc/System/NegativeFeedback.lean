import AmpFc.Firmware.ControlBounds
import AmpFc.Firmware.Corrections
import AmpFc.System.Stage3Agreement

/-! The firmware controller as negative feedback: its order against rates, angles, and motors. -/

namespace AmpFc.Firmware

/-- A body axis. -/
inductive Axis where
  | roll
  | pitch
  | yaw
  deriving DecidableEq, Repr

/-- The body rate of an axis. -/
def Attitude.bodyRate (attitude : Attitude) : Axis → Int
  | .roll => attitude.bodyRateRollRaw
  | .pitch => attitude.bodyRatePitchRaw
  | .yaw => attitude.bodyRateYawRaw

/-- The body angle of an axis, as far as the controller reads one. -/
def Attitude.bodyAngle (attitude : Attitude) : Axis → Int
  | .roll => attitude.bodyRollCd
  | .pitch => attitude.bodyPitchCd
  -- There is no heading hold.
  | .yaw => 0

/-- The correction of an axis. -/
def Control.pid (control : Control) : Axis → Int
  | .roll => control.pidRoll
  | .pitch => control.pidPitch
  | .yaw => control.pidYaw

/-- Whether the correction of an axis is added to the mix of a motor, or subtracted from it. -/
def mixAdds : Axis → Fin 4 → Bool
  -- The signs of the four sums of the mixer.
  | .roll, 0 => true
  | .roll, 1 => false
  | .roll, 2 => false
  | .roll, 3 => true
  | .pitch, 0 => true
  | .pitch, 1 => true
  | .pitch, 2 => false
  | .pitch, 3 => false
  | .yaw, 0 => false
  | .yaw, 1 => true
  | .yaw, 2 => false
  | .yaw, 3 => true

/-- The checks of `control_update_pid_once` all pass. -/
structure ControlValid (fw : Firmware) : Prop where
  sensorReady : fw.sensing.sensors.sensorReady = true
  attOk : fw.sensing.attitude.attOk = true
  rcValid : fw.rc.valid = true

/-- The mix that `motor_update_control_outputs` computes. -/
def mixed (fw : Firmware) : Control :=
  -- The throttle floor lies between the two.
  controlUpdateMixerOnce (controlApplyActiveThrottleFloorOnce (controlUpdatePidOnce fw))

/-- The rate setpoint of an axis. -/
def Control.rateSetpoint (control : Control) : Axis → Int
  | .roll => control.spRollRateRaw
  | .pitch => control.spPitchRateRaw
  | .yaw => control.spYawRateRaw

/-- The channel of the stick of an axis. -/
def Rc.stickUs (rc : Rc) : Axis → Nat
  | .roll => rc.ch0Us
  | .pitch => rc.ch1Us
  | .yaw => rc.ch3Us

/-- The divider of the rate correction of an axis. -/
def Config.rateDiv (config : Config) : Axis → Nat
  | .roll => config.rateRollDiv
  | .pitch => config.ratePitchDiv
  | .yaw => config.rateYawDiv

/-- What corrects one axis, from its setpoint, its rate and its angle. -/
def axisCorrection (config : Config) (axis : Axis) (setpoint rate angle : Int) : Int :=
  -- The sum of both loops is clamped once more.
  clampI32 (rateCorrection setpoint rate (config.rateDiv axis) +
    angleCorrection setpoint 1 angle config.angleDiv) (-ratePidMaxCorrUs) ratePidMaxCorrUs

/-- The three axes are corrected alike, each from its own setpoint, rate and angle. -/
theorem controlUpdatePidOnce_pid {fw : Firmware} (valid : ControlValid fw) (axis : Axis) :
    (controlUpdatePidOnce fw).pid axis = axisCorrection fw.config axis
      ((controlUpdateSetpointOnce fw.rc fw.config fw.control).rateSetpoint axis)
      (fw.sensing.attitude.bodyRate axis) (fw.sensing.attitude.bodyAngle axis) := by
  have sensorReady := valid.sensorReady
  have attOk := valid.attOk
  have rcValid := valid.rcValid
  cases axis with
  | roll =>
    simp [controlUpdatePidOnce, controlUpdateSetpointOnce, sensorReady, attOk, rcValid,
      Control.pid, Control.rateSetpoint, axisCorrection, Attitude.bodyRate, Attitude.bodyAngle,
      Config.rateDiv, angleAssistRollSign]
  | pitch =>
    simp [controlUpdatePidOnce, controlUpdateSetpointOnce, sensorReady, attOk, rcValid,
      Control.pid, Control.rateSetpoint, axisCorrection, Attitude.bodyRate, Attitude.bodyAngle,
      Config.rateDiv, angleAssistPitchSign]
  | yaw =>
    -- No angle enters the correction of the yaw axis.
    simp [controlUpdatePidOnce, controlUpdateSetpointOnce, sensorReady, attOk, rcValid,
      Control.pid, Control.rateSetpoint, axisCorrection, Attitude.bodyRate, Attitude.bodyAngle,
      Config.rateDiv, angleCorrection_zero]

/-- The setpoints come from the receiver and the tuning alone. -/
theorem rateSetpoint_eq (rc : Rc) (config : Config) (control other : Control) (axis : Axis) :
    (controlUpdateSetpointOnce rc config control).rateSetpoint axis =
      (controlUpdateSetpointOnce rc config other).rateSetpoint axis := by
  unfold controlUpdateSetpointOnce
  split <;> cases axis <;> rfl

/-- A centred stick asks for no rate. -/
theorem rateSetpoint_of_centred {rc : Rc} {config : Config} (control : Control) {axis : Axis}
    (centred : rcNormDeadband config (rc.stickUs axis) = 0) :
    (controlUpdateSetpointOnce rc config control).rateSetpoint axis = 0 := by
  unfold controlUpdateSetpointOnce
  split
  · cases axis <;> rfl
  · cases axis <;> simp_all [Control.rateSetpoint, Rc.stickUs]

/-- A larger rate and a larger angle never give a larger correction. -/
theorem axisCorrection_antitone (config : Config) (axis : Axis) (setpoint : Int)
    {rate other angle tilted : Int} (rates : rate ≤ other) (angles : angle ≤ tilted) :
    axisCorrection config axis setpoint other tilted ≤
      axisCorrection config axis setpoint rate angle := by
  apply clampI32_mono (by decide)
  -- Both parts fall, and so does the clamp of their sum.
  have byRate := rateCorrection_antitone setpoint (config.rateDiv axis) rates
  have byAngle := angleCorrection_antitone setpoint config.angleDiv angles
  omega

/-- At rest and with its stick centred, an axis is pushed toward level or not at all. -/
theorem axisCorrection_at_rest (config : Config) (axis : Axis) (angle : Int) :
    (0 < axisCorrection config axis 0 0 angle → angle < 0) ∧
      (axisCorrection config axis 0 0 angle < 0 → 0 < angle) := by
  have noRate : rateCorrection 0 0 (config.rateDiv axis) = 0 := by
    rw [rateCorrection, sub_zero, Int.zero_tdiv]
    rfl
  have range : -ratePidMaxCorrUs < 0 ∧ 0 < ratePidMaxCorrUs := by decide
  -- Without a rate only the assist is left, and the clamp keeps its sign.
  unfold axisCorrection
  rw [noRate, zero_add, (clampI32_sign range).1, (clampI32_sign range).2]
  exact angleCorrection_against angle config.angleDiv

/-- The mix of a motor is the throttle with what the axes add and subtract. -/
theorem motorCorrection_eq (control : Control) (motor : Fin 4) :
    motorCorrection control motor =
      (if mixAdds .roll motor then control.pid .roll else -control.pid .roll) +
      (if mixAdds .pitch motor then control.pid .pitch else -control.pid .pitch) +
      (if mixAdds .yaw motor then control.pid .yaw else -control.pid .yaw) := by
  -- The mixer has one sum for each motor.
  match motor with
  | 0 => simp [motorCorrection, mixAdds, Control.pid]; omega
  | 1 => simp [motorCorrection, mixAdds, Control.pid]; omega
  | 2 => simp [motorCorrection, mixAdds, Control.pid]; omega
  | 3 => simp [motorCorrection, mixAdds, Control.pid]; omega

section Checked

/-- A rate correction that is computed is the one without overflow, -/
theorem rateCorrectionChecked_sound {setpoint rate result : Int} {divider : Nat}
    (done : rateCorrectionChecked setpoint rate divider = some result) :
    result = rateCorrection setpoint rate divider := by
  simp only [rateCorrectionChecked, checkedSub, Option.bind_eq_bind, Option.bind_eq_some_iff,
    checked_eq_some, checkedDiv_eq_some, Option.pure_def, Option.some.injEq] at done
  obtain ⟨_, ⟨_, rfl⟩, _, ⟨_, rfl⟩, _, ⟨_, _, rfl⟩, rfl⟩ := done
  rfl

/-- an angle correction too, -/
theorem angleCorrectionChecked_sound {setpoint sign angle result : Int} {divider : Nat}
    (done : angleCorrectionChecked setpoint sign angle divider = some result) :
    result = angleCorrection setpoint sign angle divider := by
  unfold angleCorrectionChecked at done
  unfold angleCorrection
  -- The assist is computed only while the stick is centred.
  split_ifs at done ⊢
  · simp only [checkedNeg, checkedMul, Option.bind_eq_bind, Option.bind_eq_some_iff,
      checked_eq_some, checkedDiv_eq_some, Option.pure_def, Option.some.injEq] at done
    obtain ⟨_, ⟨_, rfl⟩, _, ⟨_, rfl⟩, _, ⟨_, rfl⟩, _, ⟨_, _, rfl⟩, rfl⟩ := done
    rfl
  · simpa using done.symm

/-- the dead band, -/
theorem rcNormDeadbandChecked_sound {config : Config} {us result : Int}
    (done : rcNormDeadbandChecked config us = some result) :
    result = rcNormDeadband config us := by
  simp only [rcNormDeadbandChecked, checkedSub, checkedNeg, Option.bind_eq_bind,
    Option.bind_eq_some_iff, checked_eq_some, Option.pure_def, Option.some.injEq] at done
  obtain ⟨_, ⟨_, rfl⟩, _, ⟨_, rfl⟩, _, ⟨_, rfl⟩, rfl⟩ := done
  rfl

/-- a stick, -/
theorem stickChecked_sound {sign : Int} {config : Config} {us : Nat} {result : Int}
    (done : stickChecked sign config us = some result) :
    result = sign * rcNormDeadband config us := by
  simp only [stickChecked, checkedMul, Option.bind_eq_bind, Option.bind_eq_some_iff,
    checked_eq_some] at done
  obtain ⟨_, ⟨_, rfl⟩, stick, normed, _, rfl⟩ := done
  rw [rcNormDeadbandChecked_sound normed]

/-- a setpoint, -/
theorem setpointChecked_sound {stick full result : Int}
    (done : setpointChecked stick full = some result) : result = (stick * full).tdiv 500 := by
  simp only [setpointChecked, checkedMul, Option.bind_eq_bind, Option.bind_eq_some_iff,
    checked_eq_some, checkedDiv_eq_some] at done
  obtain ⟨_, ⟨_, rfl⟩, _, _, rfl⟩ := done
  rfl

/-- all setpoints, -/
theorem controlUpdateSetpointChecked_sound {rc : Rc} {config : Config} {control result : Control}
    (done : controlUpdateSetpointChecked rc config control = some result) :
    result = controlUpdateSetpointOnce rc config control := by
  unfold controlUpdateSetpointChecked at done
  unfold controlUpdateSetpointOnce
  split_ifs at done ⊢
  · exact (Option.some.inj done).symm
  · simp only [Option.bind_eq_bind, Option.bind_eq_some_iff, Option.pure_def,
      Option.some.injEq] at done
    obtain ⟨_, roll, _, pitch, _, yaw, _, rollCd, _, pitchCd, _, rollRate, _, pitchRate, _, yawRate,
      rfl⟩ := done
    -- Each checked value is the plain one.
    rw [setpointChecked_sound rollCd, setpointChecked_sound pitchCd,
      setpointChecked_sound rollRate, setpointChecked_sound pitchRate,
      setpointChecked_sound yawRate, stickChecked_sound roll, stickChecked_sound pitch,
      stickChecked_sound yaw]

/-- and all corrections. -/
theorem controlUpdatePidChecked_sound {fw : Firmware} {result : Control}
    (done : controlUpdatePidChecked fw = some result) : result = controlUpdatePidOnce fw := by
  unfold controlUpdatePidChecked at done
  unfold controlUpdatePidOnce
  dsimp only at done ⊢
  -- A failing check zeroes the corrections in both.
  split_ifs at done ⊢
  · exact (Option.some.inj done).symm
  · simp only [checkedAdd, Option.bind_eq_bind, Option.bind_eq_some_iff, checked_eq_some,
      Option.pure_def, Option.some.injEq] at done
    obtain ⟨_, setpoints, _, rateRoll, _, ratePitch, _, rateYaw, _, angleRoll, _, anglePitch,
      _, ⟨_, rfl⟩, _, ⟨_, rfl⟩, rfl⟩ := done
    rw [rateCorrectionChecked_sound rateRoll, rateCorrectionChecked_sound ratePitch,
      rateCorrectionChecked_sound rateYaw, angleCorrectionChecked_sound angleRoll,
      angleCorrectionChecked_sound anglePitch, controlUpdateSetpointChecked_sound setpoints]

end Checked

/-- Whatever state the corrections come from, they are bounded. -/
theorem controlUpdatePidOnce_bounded (fw : Firmware) :
    (controlUpdatePidOnce fw).CorrectionsBounded := by
  unfold controlUpdatePidOnce
  dsimp only
  -- Without the checks nothing is corrected, and otherwise the clamps bound it.
  split
  · exact ⟨Within.zero, Within.zero, Within.zero⟩
  · exact ⟨clampI32_within _ 40, clampI32_within _ 40, clampI32_within _ 40⟩

/-- A valid receiver sets the throttle by itself. -/
theorem throttle_of_valid {fw : Firmware} (valid : ControlValid fw) :
    (controlUpdatePidOnce fw).spThrottleUs = fw.rc.throttleUs := by
  simp [controlUpdatePidOnce, controlUpdateSetpointOnce, valid.sensorReady, valid.attOk,
    valid.rcValid]

section Order

variable {fw other : Firmware}

/-- Under the same sticks and dividers, a larger rate and angle never give a larger correction. -/
theorem pid_antitone (sticks : other.rc = fw.rc) (tuning : other.config = fw.config)
    (valid : ControlValid fw) (validToo : ControlValid other) (axis : Axis)
    (rates : fw.sensing.attitude.bodyRate axis ≤ other.sensing.attitude.bodyRate axis)
    (angles : fw.sensing.attitude.bodyAngle axis ≤ other.sensing.attitude.bodyAngle axis) :
    (controlUpdatePidOnce other).pid axis ≤ (controlUpdatePidOnce fw).pid axis := by
  -- The setpoint depends on the sticks alone, which both states share.
  rw [controlUpdatePidOnce_pid valid, controlUpdatePidOnce_pid validToo, sticks, tuning,
    rateSetpoint_eq fw.rc fw.config other.control fw.control]
  exact axisCorrection_antitone _ _ _ rates angles

/-- The mixer adds the corrections of a motor to a throttle that the sticks alone decide. -/
theorem mixOf_mixed (valid : ControlValid fw) (motor : Fin 4) :
    mixOf (mixed fw) motor = clampI32
      (clampI32 (controlApplyActiveThrottleFloorOnce
          { spThrottleUs := fw.rc.throttleUs }).spThrottleUs motorPwmMinUs motorTestMaxUs +
        motorCorrection (controlUpdatePidOnce fw) motor) motorPwmMinUs motorTestMaxUs := by
  -- The throttle of a valid receiver does not pass through the loops.
  have throttle : (controlApplyActiveThrottleFloorOnce (controlUpdatePidOnce fw)).spThrottleUs =
      (controlApplyActiveThrottleFloorOnce { spThrottleUs := fw.rc.throttleUs }).spThrottleUs := by
    simp only [controlApplyActiveThrottleFloorOnce, throttle_of_valid valid]
  rw [mixed, mixOf_controlUpdateMixerOnce, motorCorrection_floored, throttle]

/-- A motor's mix follows its correction. -/
theorem mixOf_mono (sticks : other.rc = fw.rc) (valid : ControlValid fw)
    (validToo : ControlValid other) {motor : Fin 4}
    (ordered : motorCorrection (controlUpdatePidOnce other) motor ≤
      motorCorrection (controlUpdatePidOnce fw) motor) :
    mixOf (mixed other) motor ≤ mixOf (mixed fw) motor := by
  rw [mixOf_mixed valid, mixOf_mixed validToo, sticks]
  apply clampI32_mono (by decide)
  omega

/-- Two states whose rates and angles agree on every axis but one. -/
def AgreeBeside (axis : Axis) (fw other : Firmware) : Prop :=
  ∀ rest, rest ≠ axis →
    fw.sensing.attitude.bodyRate rest = other.sensing.attitude.bodyRate rest ∧
    fw.sensing.attitude.bodyAngle rest = other.sensing.attitude.bodyAngle rest

/-- Agreement beside an axis goes both ways. -/
theorem AgreeBeside.symm {axis : Axis} (agree : AgreeBeside axis fw other) :
    AgreeBeside axis other fw := fun rest beside =>
  ⟨(agree rest beside).1.symm, (agree rest beside).2.symm⟩

/-- On the axes that agree, the corrections agree. -/
theorem AgreeBeside.pid_eq {axis : Axis} (agree : AgreeBeside axis fw other)
    (sticks : other.rc = fw.rc) (tuning : other.config = fw.config) (valid : ControlValid fw)
    (validToo : ControlValid other) {rest : Axis} (beside : rest ≠ axis) :
    (controlUpdatePidOnce other).pid rest = (controlUpdatePidOnce fw).pid rest := by
  obtain ⟨rates, angles⟩ := agree rest beside
  -- Equal rates and angles are ordered both ways.
  apply le_antisymm
  · exact pid_antitone sticks tuning valid validToo rest rates.le angles.le
  · exact pid_antitone sticks.symm tuning.symm validToo valid rest rates.ge angles.ge

/-- With one correction lowered, the motors that add it are lowered, and the others raised. -/
theorem motorCorrection_lowered {low high : Control} {axis : Axis}
    (lower : low.pid axis ≤ high.pid axis)
    (same : ∀ rest, rest ≠ axis → low.pid rest = high.pid rest) (motor : Fin 4) :
    (mixAdds axis motor = true → motorCorrection low motor ≤ motorCorrection high motor) ∧
      (mixAdds axis motor = false → motorCorrection high motor ≤ motorCorrection low motor) := by
  rw [motorCorrection_eq, motorCorrection_eq]
  -- The two other axes add or subtract the same on both sides.
  cases axis with
  | roll =>
    rw [same .pitch (by decide), same .yaw (by decide)]
    cases mixAdds .roll motor <;> simp <;> omega
  | pitch =>
    rw [same .roll (by decide), same .yaw (by decide)]
    cases mixAdds .pitch motor <;> simp <;> omega
  | yaw =>
    rw [same .roll (by decide), same .pitch (by decide)]
    cases mixAdds .yaw motor <;> simp <;> omega

/--
The firmware controller is monotone negative feedback.

A larger rate and angle of an axis never raise its correction, nor a motor that adds it, nor lower
a motor that subtracts it.
At rest with a centred stick, the correction is zero or against the angle.
The last part says that nothing of this is lost where the code works on thirty-two bits.
-/
theorem control_negative_feedback (sticks : other.rc = fw.rc) (tuning : other.config = fw.config)
    (valid : ControlValid fw) (validToo : ControlValid other) :
    (∀ axis, fw.sensing.attitude.bodyRate axis ≤ other.sensing.attitude.bodyRate axis →
      fw.sensing.attitude.bodyAngle axis ≤ other.sensing.attitude.bodyAngle axis →
      (controlUpdatePidOnce other).pid axis ≤ (controlUpdatePidOnce fw).pid axis ∧
      (AgreeBeside axis fw other → ∀ motor,
        (mixAdds axis motor = true → mixOf (mixed other) motor ≤ mixOf (mixed fw) motor) ∧
        (mixAdds axis motor = false → mixOf (mixed fw) motor ≤ mixOf (mixed other) motor))) ∧
    (∀ axis, rcNormDeadband fw.config (fw.rc.stickUs axis) = 0 →
      fw.sensing.attitude.bodyRate axis = 0 →
      (controlUpdatePidOnce fw).pid axis = 0 ∨
      (0 < (controlUpdatePidOnce fw).pid axis ∧ fw.sensing.attitude.bodyAngle axis < 0) ∨
      ((controlUpdatePidOnce fw).pid axis < 0 ∧ 0 < fw.sensing.attitude.bodyAngle axis)) ∧
    (∀ control, controlUpdatePidChecked fw = some control →
      control = controlUpdatePidOnce fw ∧
      controlUpdateMixerChecked (controlApplyActiveThrottleFloorOnce control) =
        some (mixed fw)) := by
  refine ⟨?_, ?_, ?_⟩
  · intro axis rates angles
    have lower := pid_antitone sticks tuning valid validToo axis rates angles
    refine ⟨lower, ?_⟩
    intro agree motor
    -- The other two corrections are the same, so the motor follows this one.
    have moved := motorCorrection_lowered lower
      (fun _ beside => agree.pid_eq sticks tuning valid validToo beside) motor
    exact ⟨fun adds => mixOf_mono sticks valid validToo (moved.1 adds),
      fun subtracts => mixOf_mono sticks.symm validToo valid (moved.2 subtracts)⟩
  · intro axis centred still
    rw [controlUpdatePidOnce_pid valid, rateSetpoint_of_centred _ centred, still]
    have against := axisCorrection_at_rest fw.config axis (fw.sensing.attitude.bodyAngle axis)
    rcases lt_trichotomy (axisCorrection fw.config axis 0 0
      (fw.sensing.attitude.bodyAngle axis)) 0 with negative | zero | positive
    · exact Or.inr (Or.inr ⟨negative, against.2 negative⟩)
    · exact Or.inl zero
    · exact Or.inr (Or.inl ⟨positive, against.1 positive⟩)
  · intro control done
    obtain rfl := controlUpdatePidChecked_sound done
    refine ⟨rfl, ?_⟩
    exact controlUpdateMixer_spec (floored_corrections (controlUpdatePidOnce_bounded fw))
      (floored_throttle _)

end Order

/-- A receiver and sensors that pass the checks, level and at rest. -/
def levelAtRest : Firmware :=
  { boot with
    rc := { valid := true, throttleUs := 1300 }
    sensing := { sensors := { sensorReady := true }, attitude := { attOk := true } } }

/-- The same state, rolled to the right and still rolling. -/
def rollingRight : Firmware :=
  { levelAtRest with
    sensing := { sensors := { sensorReady := true }
                 attitude := { attOk := true, bodyRateRollRaw := 240, bodyRollCd := 900 } } }

/-- Against the roll the left motors are lowered and the right ones raised. -/
theorem control_negative_feedback_rollingRight :
    (controlUpdatePidOnce rollingRight).pid .roll ≤ (controlUpdatePidOnce levelAtRest).pid .roll ∧
    mixOf (mixed rollingRight) 0 ≤ mixOf (mixed levelAtRest) 0 ∧
    mixOf (mixed levelAtRest) 1 ≤ mixOf (mixed rollingRight) 1 := by
  have level : ControlValid levelAtRest := ⟨rfl, rfl, rfl⟩
  have rolling : ControlValid rollingRight := ⟨rfl, rfl, rfl⟩
  have sticks : rollingRight.rc = levelAtRest.rc := rfl
  have tuning : rollingRight.config = levelAtRest.config := rfl
  have both := (control_negative_feedback sticks tuning level rolling).1 .roll
    (by decide) (by decide)
  -- The two controls differ in the roll only.
  have beside : AgreeBeside .roll levelAtRest rollingRight := by
    intro rest other
    cases rest with
    | roll => exact absurd rfl other
    | pitch => exact ⟨rfl, rfl⟩
    | yaw => exact ⟨rfl, rfl⟩
  exact ⟨both.1, (both.2 beside 0).1 rfl, (both.2 beside 1).2 rfl⟩

end AmpFc.Firmware
