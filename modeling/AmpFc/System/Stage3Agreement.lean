import AmpFc.Firmware.MotorSafety
import AmpFc.Rt.Stage3

/-! The stage-3 node against the motor path it was carved out of: where their pulses agree. -/

namespace AmpFc.Firmware

section Motors

/-- The mixer output of one motor. -/
def mixOf (control : Control) : Fin 4 → Int
  | 0 => control.mixM0
  | 1 => control.mixM1
  | 2 => control.mixM2
  | 3 => control.mixM3

/-- The mixer outputs, as they are handed to the stage-3 node. -/
def mixRequest (control : Control) : MotorPwm :=
  Vector.ofFn fun i => UInt16.ofInt (mixOf control i)

/-- What the three corrections add to the throttle of one motor. -/
def motorCorrection (control : Control) : Fin 4 → Int
  | 0 => control.pidPitch + control.pidRoll - control.pidYaw
  | 1 => control.pidPitch - control.pidRoll + control.pidYaw
  | 2 => -control.pidPitch - control.pidRoll - control.pidYaw
  | 3 => -control.pidPitch + control.pidRoll + control.pidYaw

/-- A request is a mixer output, cut to sixteen bits. -/
theorem mixRequest_get (control : Control) (i : Fin 4) :
    (mixRequest control).get i = UInt16.ofInt (mixOf control i) :=
  Vector.getElem_ofFn i.isLt

/-- Every motor is mixed by its own correction. -/
theorem mixOf_controlUpdateMixerOnce (control : Control) (i : Fin 4) :
    mixOf (controlUpdateMixerOnce control) i =
      clampI32 (clampI32 control.spThrottleUs motorPwmMinUs motorTestMaxUs +
        motorCorrection control i) motorPwmMinUs motorTestMaxUs := by
  unfold controlUpdateMixerOnce
  generalize (motorPwmMinUs : Int) = lo
  generalize (motorTestMaxUs : Int) = hi
  generalize clampI32 control.spThrottleUs lo hi = t
  -- The mixer adds the corrections one by one.
  match i with
  | 0 => simp only [mixOf, motorCorrection, add_assoc, sub_eq_add_neg]
  | 1 => simp only [mixOf, motorCorrection, add_assoc, sub_eq_add_neg]
  | 2 => simp only [mixOf, motorCorrection, add_assoc, sub_eq_add_neg]
  | 3 => simp only [mixOf, motorCorrection, add_assoc, sub_eq_add_neg]

/-- The pulse of one motor, once it is decided whether the motor has to spin. -/
def trimmedPulse (spins : Bool) (i : Fin 4) (mix : Int) : Int :=
  let us := mix + ActuatorDuoPwm.trimUs.get i
  let spin : Int := (ActuatorDuoPwm.minSpinUs.get i).toNat
  clampI32 (if spins && us < spin then spin else us) 1000 1500

/-- The firmware lifts a motor by the throttle of all. -/
theorem motorApplyTrimI32_eq (spThrottleUs : Nat) (i : Fin 4) (mix : Int) :
    motorApplyTrimI32 spThrottleUs i mix = trimmedPulse (spThrottleUs ≥ 1010) i mix := by
  unfold motorApplyTrimI32 trimmedPulse motorMinSpinApplyUs
  simp only [Bool.and_eq_true, decide_eq_true_eq]
  -- Every motor has its own entry in the table.
  match i with
  | 0 => rfl
  | 1 => rfl
  | 2 => rfl
  | 3 => rfl

/-- The stage-3 node lifts a motor by its own mix. -/
theorem applyTrimAndMinSpin_eq (i : Fin 4) {mix : Int} (low : 1000 ≤ mix) (high : mix ≤ 1500) :
    ((ActuatorDuoPwm.applyTrimAndMinSpin i (UInt16.ofInt mix)).toNat : Int) =
      trimmedPulse (mix > 1000) i mix := by
  -- Within the range of a pulse the request keeps the mix.
  have cut : ((UInt16.ofInt mix).toNat : Int) = mix := by
    simp only [UInt16.ofInt, UInt16.toNat_ofNat']
    omega
  have spins : UInt16.ofInt mix > ActuatorDuoPwm.pwmSafeUs ↔ mix > 1000 := by
    have safe : ActuatorDuoPwm.pwmSafeUs.toNat = 1000 := rfl
    rw [gt_iff_lt, UInt16.lt_iff_toNat_lt, safe]
    omega
  unfold ActuatorDuoPwm.applyTrimAndMinSpin trimmedPulse
  dsimp only
  rw [ActuatorDuoPwm.clampPwm_toNat, cut]
  simp only [spins, Bool.and_eq_true, decide_eq_true_eq]
  rfl

/-- The trim is small against the minimum spin, which is within the range of a pulse. -/
theorem motorTables_bounds (i : Fin 4) : ActuatorDuoPwm.trimUs.get i ≤ 10 ∧
    (1220 : Int) ≤ (ActuatorDuoPwm.minSpinUs.get i).toNat ∧
    ((ActuatorDuoPwm.minSpinUs.get i).toNat : Int) ≤ 1500 := by
  fin_cases i <;> decide

/-- A motor that is lifted on one side only gets another pulse there. -/
theorem trimmedPulse_lifted (i : Fin 4) {mix : Int} (low : 1000 ≤ mix) (high : mix ≤ 1120) :
    trimmedPulse false i mix < trimmedPulse true i mix := by
  obtain ⟨trim, spin, spin'⟩ := motorTables_bounds i
  unfold trimmedPulse clampI32
  simp only [Bool.false_and, Bool.true_and, Bool.false_eq_true, if_false, decide_eq_true_eq]
  split_ifs <;> omega

/-- The three corrections together move a motor by a hundred and twenty microseconds at most. -/
theorem motorCorrection_bounds (fw : Firmware) (i : Fin 4) :
    -120 ≤ motorCorrection (controlUpdatePidOnce fw) i ∧
      motorCorrection (controlUpdatePidOnce fw) i ≤ 120 := by
  -- Each correction is clamped, and every motor adds or subtracts the three.
  have bounded : ∀ value : Int, -40 ≤ clampI32 value (-ratePidMaxCorrUs) ratePidMaxCorrUs ∧
      clampI32 value (-ratePidMaxCorrUs) ratePidMaxCorrUs ≤ 40 :=
    fun value => clampI32_bounds (by decide)
  have each : (-40 ≤ (controlUpdatePidOnce fw).pidRoll ∧
      (controlUpdatePidOnce fw).pidRoll ≤ 40) ∧
      (-40 ≤ (controlUpdatePidOnce fw).pidPitch ∧ (controlUpdatePidOnce fw).pidPitch ≤ 40) ∧
      (-40 ≤ (controlUpdatePidOnce fw).pidYaw ∧ (controlUpdatePidOnce fw).pidYaw ≤ 40) := by
    unfold controlUpdatePidOnce
    dsimp only
    split
    · have zero : (-40 : Int) ≤ 0 ∧ (0 : Int) ≤ 40 := by decide
      exact ⟨zero, zero, zero⟩
    · exact ⟨bounded _, bounded _, bounded _⟩
  obtain ⟨⟨rollLow, rollHigh⟩, ⟨pitchLow, pitchHigh⟩, ⟨yawLow, yawHigh⟩⟩ := each
  match i with
  | 0 => simp only [motorCorrection]; omega
  | 1 => simp only [motorCorrection]; omega
  | 2 => simp only [motorCorrection]; omega
  | 3 => simp only [motorCorrection]; omega

/-- A throttle above idle is raised to the active floor at least. -/
theorem controlApplyActiveThrottleFloorOnce_raised {control : Control}
    (lifted : control.spThrottleUs > 1000) :
    1250 ≤ (controlApplyActiveThrottleFloorOnce control).spThrottleUs := by
  simp only [controlApplyActiveThrottleFloorOnce, motorPwmIdleUs, controlMinActiveThrottleUs,
    motorTestMaxUs]
  -- Below the floor it is raised to it, and above it only the upper bound can matter.
  by_cases low : control.spThrottleUs < 1250
  · simp [lifted, low]
  · simp only [low, and_false, if_false]
    split_ifs <;> omega

/-- A throttle at idle stays as it is. -/
theorem controlApplyActiveThrottleFloorOnce_kept {control : Control}
    (idle : control.spThrottleUs ≤ 1000) :
    (controlApplyActiveThrottleFloorOnce control).spThrottleUs = control.spThrottleUs := by
  simp only [controlApplyActiveThrottleFloorOnce, motorPwmIdleUs, controlMinActiveThrottleUs,
    motorTestMaxUs]
  have above : ¬ control.spThrottleUs > 1000 := by omega
  have most : ¬ control.spThrottleUs > 1500 := by omega
  simp [above, most]

/-- The throttle floor changes no correction. -/
theorem motorCorrection_floored (c : Control) (i : Fin 4) :
    motorCorrection (controlApplyActiveThrottleFloorOnce c) i = motorCorrection c i := by
  fin_cases i <;> rfl

/-- Throttle above idle spins every motor on both sides, and below it the own correction decides. -/
theorem trimmedPulse_agree_iff (control : Control) (i : Fin 4)
    (bounds : -120 ≤ motorCorrection control i ∧ motorCorrection control i ≤ 120) :
    let c := controlUpdateMixerOnce (controlApplyActiveThrottleFloorOnce control)
    trimmedPulse (mixOf c i > 1000) i (mixOf c i) =
        trimmedPulse (c.spThrottleUs ≥ 1010) i (mixOf c i) ↔
      control.spThrottleUs > 1000 ∨ motorCorrection control i ≤ 0 := by
  dsimp only
  have throttle : (controlUpdateMixerOnce
      (controlApplyActiveThrottleFloorOnce control)).spThrottleUs =
      (controlApplyActiveThrottleFloorOnce control).spThrottleUs := rfl
  rw [throttle, mixOf_controlUpdateMixerOnce, motorCorrection_floored]
  generalize motorCorrection control i = correction at bounds
  obtain ⟨low, high⟩ := bounds
  have idle : (motorPwmMinUs : Int) = 1000 := rfl
  have most : (motorTestMaxUs : Int) = 1500 := rfl
  by_cases lifted : control.spThrottleUs > 1000
  · -- The throttle floor keeps every mix above idle.
    have floor := controlApplyActiveThrottleFloorOnce_raised lifted
    generalize (controlApplyActiveThrottleFloorOnce control).spThrottleUs = t at floor
    have spins : clampI32 (clampI32 t motorPwmMinUs motorTestMaxUs + correction)
        motorPwmMinUs motorTestMaxUs > 1000 := by
      rw [idle, most]
      unfold clampI32
      split_ifs <;> omega
    -- Both sides let the minimum spin apply, so the pulses are the same.
    have applies : t ≥ 1010 := by omega
    simp [spins, applies, lifted]
  · -- Without throttle the firmware lifts no motor, and the node those that are corrected upwards.
    have kept := controlApplyActiveThrottleFloorOnce_kept (Nat.not_lt.mp lifted)
    have applies : ¬ control.spThrottleUs ≥ 1010 := by omega
    have base : clampI32 control.spThrottleUs motorPwmMinUs motorTestMaxUs = 1000 := by
      rw [idle, most]
      unfold clampI32
      split_ifs <;> omega
    rw [kept, base, idle, most]
    by_cases up : correction ≤ 0
    · -- A motor that is corrected downwards rests at idle on both sides.
      have rests : ¬ clampI32 (1000 + correction) 1000 1500 > 1000 := by
        unfold clampI32
        split_ifs <;> omega
      simp [applies, rests, up]
    · -- The mix is not cut, and the minimum spin is above it on the side that lifts.
      have mix : clampI32 (1000 + correction) 1000 1500 = 1000 + correction := by
        unfold clampI32
        split_ifs <;> omega
      have differs : trimmedPulse false i (1000 + correction) <
          trimmedPulse true i (1000 + correction) :=
        trimmedPulse_lifted i (by omega) (by omega)
      have spins : 1000 + correction > 1000 := by omega
      rw [mix]
      simp only [spins, applies, lifted, up, or_self, iff_false, decide_true, decide_false]
      exact differs.ne'

/-- The correction of a receiver that is valid leaves the throttle of its stick. -/
theorem controlUpdatePidOnce_throttle {fw : Firmware} (valid : fw.rc.valid = true)
    (stick : fw.control.spThrottleUs = fw.rc.throttleUs) :
    (controlUpdatePidOnce fw).spThrottleUs = fw.rc.throttleUs := by
  unfold controlUpdatePidOnce controlUpdateSetpointOnce
  dsimp only
  split
  · -- Without sensors or attitude the setpoint is not updated, and stays what the gate left.
    exact stick
  · rw [if_neg (by simp [valid])]

/-- Four pulses written in the order of the motors are read in that order. -/
theorem pulses_get (pulse : Nat → Int → Nat) (c : Control) (i : Fin 4) :
    (#v[pulse 0 c.mixM0, pulse 1 c.mixM1, pulse 2 c.mixM2, pulse 3 c.mixM3]).get i =
      pulse i (mixOf c i) := by
  match i with
  | 0 => rfl
  | 1 => rfl
  | 2 => rfl
  | 3 => rfl

/-- The pulses of the control path come from its mixer. -/
theorem motorUpdateControlOutputs_pulse (fw : Firmware) (armed : fw.motor.armed = true)
    (enabled : fw.motor.outputEnabled = true) (valid : fw.rc.valid = true)
    (ready : fw.sensing.sensors.sensorReady = true) (i : Fin 4) :
    let c := controlUpdateMixerOnce (controlApplyActiveThrottleFloorOnce (controlUpdatePidOnce fw))
    (motorUpdateControlOutputs fw).control = c ∧
      ((motorUpdateControlOutputs fw).motor.pwmUs.get i : Int) =
        trimmedPulse (c.spThrottleUs ≥ 1010) i (mixOf c i) := by
  unfold motorUpdateControlOutputs
  simp only [armed, enabled, valid, ready, Bool.not_true, Bool.or_self, Bool.false_eq_true,
    if_false, true_and]
  generalize controlUpdateMixerOnce
    (controlApplyActiveThrottleFloorOnce (controlUpdatePidOnce fw)) = c
  -- A trimmed pulse is never negative, so nothing is lost on the way to an unsigned number.
  have positive : 0 ≤ motorApplyTrimI32 c.spThrottleUs i (mixOf c i) := by
    rw [motorApplyTrimI32_eq]
    exact le_trans (by decide) (clampI32_bounds (by decide)).1
  have lifted : ((motorApplyTrimI32 c.spThrottleUs i (mixOf c i)).toNat : Int) =
      trimmedPulse (c.spThrottleUs ≥ 1010) i (mixOf c i) :=
    (Int.toNat_of_nonneg positive).trans (motorApplyTrimI32_eq ..)
  have written := pulses_get (fun idx mix => (motorApplyTrimI32 c.spThrottleUs idx mix).toNat) c i
  exact (congrArg Int.ofNat written).trans lifted

end Motors

section Branches

variable {F : Type} [FloatArith F]

/-- A poll takes the branch in which the control path drives the motors. -/
def takesArmedBranch (failsafe : Bool) (fw : Firmware) : Bool :=
  !fw.shm.emergencyStopLatched && !failsafe && fw.sensing.sensors.sensorReady && fw.motor.armed

/-- The armed branch is the control path, with output enabled. -/
theorem dispatchOutputs_armedBranch {failsafe : Bool} {fw : Firmware}
    (armed : takesArmedBranch failsafe fw = true) : dispatchOutputs failsafe fw =
      motorUpdateControlOutputs
        { fw with
          motor := { fw.motor with outputEnabled := true, safetyReason := motorSafeOk } } := by
  simp only [takesArmedBranch, Bool.and_eq_true, Bool.not_eq_true'] at armed
  obtain ⟨⟨⟨clear, linked⟩, ready⟩, gated⟩ := armed
  unfold dispatchOutputs
  simp only [clear, linked, ready, gated, Bool.false_eq_true, Bool.not_true, if_false]

/-- Where the control path drives the motors, throttle or correction decides the agreement. -/
theorem controlPath_agrees_iff (node : FlightRtNodeStage3) {fw after : Firmware}
    (branch : after = motorUpdateControlOutputs
      { fw with motor := { fw.motor with outputEnabled := true, safetyReason := motorSafeOk } })
    (armed : fw.motor.armed = true) (valid : fw.rc.valid = true)
    (ready : fw.sensing.sensors.sensorReady = true)
    (stick : fw.control.spThrottleUs = fw.rc.throttleUs) (i : Fin 4) :
    ((node.step ⟨mixRequest after.control, true, true, true, true, false⟩).lastOutput.motorUs.get
        i).toNat = after.motor.pwmUs.get i ↔
      fw.rc.throttleUs > 1000 ∨ motorCorrection (controlUpdatePidOnce fw) i ≤ 0 := by
  obtain ⟨control, pulse⟩ := motorUpdateControlOutputs_pulse
    { fw with motor := { fw.motor with outputEnabled := true, safetyReason := motorSafeOk } }
    armed rfl valid ready i
  -- The corrections read nothing of the motor state.
  have same : controlUpdatePidOnce { fw with motor :=
      { fw.motor with outputEnabled := true, safetyReason := motorSafeOk } } =
      controlUpdatePidOnce fw := rfl
  rw [← branch, same] at control pulse
  have agree := trimmedPulse_agree_iff (controlUpdatePidOnce fw) i (motorCorrection_bounds fw i)
  rw [controlUpdatePidOnce_throttle valid stick] at agree
  dsimp only at agree
  rw [← agree, ← control]
  rw [← control] at pulse
  have bounds : 1000 ≤ mixOf after.control i ∧ mixOf after.control i ≤ 1500 := by
    rw [control, mixOf_controlUpdateMixerOnce]
    exact clampI32_bounds (by decide)
  rw [FlightRtNodeStage3.step_allowed, mixRequest_get, ← Int.natCast_inj, pulse,
    applyTrimAndMinSpin_eq i bounds.1 bounds.2]

/-- Every other branch forces the motors safe. -/
theorem dispatchOutputs_safeBranch {failsafe : Bool} {fw : Firmware}
    (safe : takesArmedBranch failsafe fw = false) :
    ∃ reason, dispatchOutputs failsafe fw = motorForceSafe fw reason := by
  unfold dispatchOutputs
  -- Four branches are safe, and the last one is the armed branch.
  split_ifs with latched lost unready unarmed
  · exact ⟨_, rfl⟩
  · exact ⟨_, rfl⟩
  · exact ⟨_, rfl⟩
  · exact ⟨_, rfl⟩
  · simp only [Bool.not_eq_true, Bool.not_eq_false'] at latched lost unready unarmed
    simp [takesArmedBranch, latched, lost, unready, unarmed] at safe

/-- Before the gate the setpoint follows the throttle of a valid receiver. -/
theorem beforeGate_throttle {rtos : RtosConfig} {fw : Firmware} {input : PollInput F}
    (valid : (beforeGate rtos fw input).rc.valid = true) :
    (beforeGate rtos fw input).control.spThrottleUs = (beforeGate rtos fw input).rc.throttleUs := by
  unfold beforeGate prepareGate at valid ⊢
  dsimp only at valid ⊢
  -- Whatever the region brought, the setpoint is updated behind it.
  generalize ampSharedRegionPollOnce _ input.memory = polled at valid ⊢
  unfold controlUpdateSetpointOnce
  rw [if_neg (by simp [valid])]

/-- A gate that arms leaves the throttle of the stick as the setpoint. -/
theorem afterGate_throttle {rtos : RtosConfig} {fw : Firmware} {input : PollInput F}
    (armed : (afterGate rtos fw input).motor.armed = true) :
    (afterGate rtos fw input).rc.valid = true ∧
      (afterGate rtos fw input).control.spThrottleUs =
        (afterGate rtos fw input).rc.throttleUs := by
  have valid := motorUpdateArmGate_valid armed
  refine ⟨valid, ?_⟩
  unfold afterGate at valid ⊢
  rw [motorUpdateArmGate_eq] at valid ⊢
  dsimp only at valid ⊢
  -- A receiver that the gate finds valid was not lost, so the gate reads it as it came.
  have fresh : freshnessLost rtos input.freshnessTick (beforeGate rtos fw input) = false := by
    by_contra lost
    rw [Bool.not_eq_false] at lost
    rw [(gateInput_lost lost).1] at valid
    cases valid
  rw [gateInput_fresh fresh] at valid ⊢
  exact beforeGate_throttle valid

variable (rtos : RtosConfig) (input : Nat → TaskInput F) (n : Nat)

/-- The state in which poll `n` chooses its branch. -/
def branchState : Firmware := afterGate rtos (beforePoll rtos input n) (input n).toPollInput

/-- The state that the branch of poll `n` leaves. -/
def outputState : Firmware := afterDispatch rtos (beforePoll rtos input n) (input n).toPollInput

/-- Poll `n` takes the branch in which the control path drives the motors. -/
def ArmedBranchAt : Prop :=
  takesArmedBranch (pollFailsafe rtos (input n).now (branchState rtos input n).reception)
    (branchState rtos input n) = true

/-- The flags of a state with its mixer outputs, as they are handed to the stage-3 node. -/
def stage3Request (fw : Firmware) : FlightRtNodeStage3Input where
  mixUs := mixRequest fw.control
  rcValid := fw.rc.valid
  sensorReady := fw.sensing.sensors.sensorReady
  armed := fw.motor.armed
  outputEnabled := fw.motor.outputEnabled
  emergencyLatched := fw.shm.emergencyStopLatched

/--
The stage-3 node agrees on a motor exactly where the throttle is up or the motor is not raised.

In every safe branch both sides idle all motors.
-/
theorem stage3_agrees_iff (node : FlightRtNodeStage3) :
    (ArmedBranchAt rtos input n → ∀ i : Fin 4,
      (((node.step ⟨mixRequest (outputState rtos input n).control,
          true, true, true, true, false⟩).lastOutput.motorUs.get i).toNat =
          (outputState rtos input n).motor.pwmUs.get i ↔
        (branchState rtos input n).rc.throttleUs > 1000 ∨
          motorCorrection (controlUpdatePidOnce (branchState rtos input n)) i ≤ 0)) ∧
    (¬ ArmedBranchAt rtos input n →
      (node.step (stage3Request (outputState rtos input n))).lastOutput.motorUs =
          .replicate 4 1000 ∧
        (outputState rtos input n).motor.pwmUs = .replicate 4 1000) := by
  constructor
  · -- In the armed branch the requests are those of the mixer.
    intro armed i
    have branch := dispatchOutputs_armedBranch armed
    simp only [ArmedBranchAt, takesArmedBranch, Bool.and_eq_true] at armed
    obtain ⟨⟨-, ready⟩, gated⟩ := armed
    obtain ⟨valid, stick⟩ := afterGate_throttle gated
    exact controlPath_agrees_iff node branch gated valid ready stick i
  · intro safe
    -- In every other branch the firmware idles the motors, and the flags say that it does.
    obtain ⟨reason, forced⟩ := dispatchOutputs_safeBranch (Bool.eq_false_iff.mpr safe)
    have stopped : outputState rtos input n = motorForceSafe (branchState rtos input n) reason :=
      forced
    rw [stopped]
    refine ⟨FlightRtNodeStage3.step_refused node ?_, rfl⟩
    simp [stage3Request]

end Branches

section Bench

/-- A bench run that arms with the throttle down, while the pilot holds a full roll. -/
def rollBench (n : Nat) : TaskInput ℚ :=
  -- The switch goes high in poll 53, which then runs the control path.
  let channels : Channels := ((Vector.replicate 14 1500).setIfInBounds 0 2000).setIfInBounds 2 1000
  benchPoll (60 * n + 60) (60 * n + 62)
    (if n < 52 then []
      else encodeIbusFrame (channels.setIfInBounds 5 (if n < 53 then 1000 else 2000)))
    (fun _ => .zeroed) none

/-- The poll that sees the switch high is armed. -/
theorem rollBench_armed : ArmedBranchAt benchRtos rollBench 53 := by
  unfold ArmedBranchAt
  decide +kernel

/-- The right front motor, which the roll does not raise, gets the same pulse from both sides. -/
theorem stage3_agrees_iff_rollBench :
    ((({} : FlightRtNodeStage3).step ⟨mixRequest (outputState benchRtos rollBench 53).control,
      true, true, true, true, false⟩).lastOutput.motorUs.get 1).toNat =
      (outputState benchRtos rollBench 53).motor.pwmUs.get 1 := by
  have lowered :
      motorCorrection (controlUpdatePidOnce (branchState benchRtos rollBench 53)) 1 ≤ 0 := by
    decide +kernel
  exact ((stage3_agrees_iff benchRtos rollBench 53 {}).1 rollBench_armed 1).mpr (Or.inr lowered)

/-- The left front motor would be lifted to its minimum spin, and the firmware leaves it idling. -/
theorem not_stage3_agrees_rollBench : ArmedBranchAt benchRtos rollBench 53 ∧
    (({} : FlightRtNodeStage3).step ⟨mixRequest (outputState benchRtos rollBench 53).control,
      true, true, true, true, false⟩).lastOutput.motorUs.get 0 = 1220 ∧
    (outputState benchRtos rollBench 53).motor.pwmUs.get 0 = 1050 := by
  refine ⟨rollBench_armed, ?_, ?_⟩
  · decide +kernel
  · decide +kernel

end Bench

end AmpFc.Firmware
