import AmpFc.System.Stage3Agreement

/-! The ranges of mixer and pulses in flight: no clamp of the mixer bites, and no motor stalls. -/

namespace AmpFc.Firmware

/-- The four mixer outputs are base throttle and corrections, not cut anywhere. -/
structure Unsaturated (c : Control) : Prop where
  m0 : c.mixM0 = c.spThrottleUs + c.pidPitch + c.pidRoll - c.pidYaw
  m1 : c.mixM1 = c.spThrottleUs + c.pidPitch - c.pidRoll + c.pidYaw
  m2 : c.mixM2 = c.spThrottleUs - c.pidPitch - c.pidRoll - c.pidYaw
  m3 : c.mixM3 = c.spThrottleUs - c.pidPitch + c.pidRoll + c.pidYaw

/-- The mixer outputs determine the base throttle and all three corrections. -/
structure Recoverable (c : Control) : Prop where
  throttle : c.mixM0 + c.mixM1 + c.mixM2 + c.mixM3 = 4 * c.spThrottleUs
  roll : c.mixM0 + c.mixM3 - c.mixM1 - c.mixM2 = 4 * c.pidRoll
  pitch : c.mixM0 + c.mixM1 - c.mixM2 - c.mixM3 = 4 * c.pidPitch
  yaw : c.mixM1 + c.mixM3 - c.mixM0 - c.mixM2 = 4 * c.pidYaw

/-- What is not cut can be recovered. -/
theorem Unsaturated.recoverable {c : Control} (whole : Unsaturated c) : Recoverable c := by
  obtain ⟨m0, m1, m2, m3⟩ := whole
  constructor <;> omega

/-- A value that lies in its range is not cut. -/
theorem clampI32_of_mem {value lo hi : Int} (low : lo ≤ value) (high : value ≤ hi) :
    clampI32 value lo hi = value := by
  unfold clampI32
  rw [if_neg (by omega), if_neg (by omega)]

/-- A base throttle with room for the corrections on both sides leaves the mixer unsaturated. -/
theorem unsaturated_of_room {c : Control} (low : 1120 ≤ c.spThrottleUs)
    (high : c.spThrottleUs ≤ 1380)
    (bounds : ∀ i, -120 ≤ motorCorrection c i ∧ motorCorrection c i ≤ 120) :
    Unsaturated (controlUpdateMixerOnce c) := by
  have idle : (motorPwmMinUs : Int) = 1000 := rfl
  have most : (motorTestMaxUs : Int) = 1500 := rfl
  -- Each motor in turn: neither the throttle nor the sum leaves the range.
  have whole : ∀ i, mixOf (controlUpdateMixerOnce c) i = c.spThrottleUs + motorCorrection c i := by
    intro i
    obtain ⟨above, below⟩ := bounds i
    have base : clampI32 c.spThrottleUs 1000 1500 = c.spThrottleUs :=
      clampI32_of_mem (by omega) (by omega)
    have sum : clampI32 (c.spThrottleUs + motorCorrection c i) 1000 1500 =
        c.spThrottleUs + motorCorrection c i := clampI32_of_mem (by omega) (by omega)
    rw [mixOf_controlUpdateMixerOnce, idle, most, base, sum]
  have m0 := whole 0
  have m1 := whole 1
  have m2 := whole 2
  have m3 := whole 3
  simp only [mixOf, motorCorrection] at m0 m1 m2 m3
  -- The mixer keeps the throttle and the corrections it read.
  obtain ⟨throttle, roll, pitch, yaw⟩ : (controlUpdateMixerOnce c).spThrottleUs = c.spThrottleUs ∧
      (controlUpdateMixerOnce c).pidRoll = c.pidRoll ∧
      (controlUpdateMixerOnce c).pidPitch = c.pidPitch ∧
      (controlUpdateMixerOnce c).pidYaw = c.pidYaw := by
    simp only [controlUpdateMixerOnce, and_self]
  constructor <;> omega

/-- Every mixer output of such a throttle lies within the corrections around it. -/
theorem mixOf_of_room {c : Control} (low high : Int) (floor : 1120 ≤ low) (ceiling : high ≤ 1380)
    (above : low ≤ c.spThrottleUs) (below : c.spThrottleUs ≤ high)
    (bounds : ∀ i, -120 ≤ motorCorrection c i ∧ motorCorrection c i ≤ 120) (i : Fin 4) :
    low - 120 ≤ mixOf (controlUpdateMixerOnce c) i ∧
      mixOf (controlUpdateMixerOnce c) i ≤ high + 120 := by
  have idle : (motorPwmMinUs : Int) = 1000 := rfl
  have most : (motorTestMaxUs : Int) = 1500 := rfl
  obtain ⟨least, greatest⟩ := bounds i
  -- Neither clamp moves the sum out of the interval around the throttle.
  rw [mixOf_controlUpdateMixerOnce, idle, most]
  unfold clampI32
  split_ifs <;> omega

/-- `g_motor_min_spin_us`, read for one motor. -/
def minSpinOf (i : Fin 4) : Int :=
  motorMinSpinUs.getD i 0

/-- Both cores have the same minimum spin. -/
theorem minSpinOf_eq (i : Fin 4) : minSpinOf i = (ActuatorDuoPwm.minSpinUs.get i).toNat := by
  fin_cases i <;> rfl

/-- A motor that has to spin gets at least its minimum spin, and trim at most on top of its mix. -/
theorem trimmedPulse_spinning (i : Fin 4) (mix : Int) (high : mix ≤ 1470) :
    minSpinOf i ≤ trimmedPulse true i mix ∧ trimmedPulse true i mix ≤ 1480 := by
  obtain ⟨trim, spin, spin'⟩ := motorTables_bounds i
  -- The highest minimum spin is far below the greatest pulse.
  have lowest : minSpinOf i ≤ 1235 := by fin_cases i <;> decide
  rw [minSpinOf_eq] at lowest ⊢
  unfold trimmedPulse clampI32
  simp only [Bool.true_and, decide_eq_true_eq]
  split_ifs <;> omega

/-- A motor that does not has its mix trimmed, and stays above idle. -/
theorem trimmedPulse_resting (i : Fin 4) (mix : Int) (high : mix ≤ 1120) :
    1000 ≤ trimmedPulse false i mix ∧ trimmedPulse false i mix ≤ 1130 := by
  obtain ⟨trim, -, -⟩ := motorTables_bounds i
  unfold trimmedPulse clampI32
  simp only [Bool.false_and, Bool.false_eq_true, if_false]
  split_ifs <;> omega

/-- A gate that arms has found the throttle below the kill threshold. -/
theorem motorUpdateArmGate_throttle {rtos : RtosConfig} {now : Nat} {fw : Firmware}
    (armed : (motorUpdateArmGate rtos now fw).motor.armed = true) :
    (motorUpdateArmGate rtos now fw).rc.throttleUs ≤ rcThrottleTestKillUs := by
  rw [motorUpdateArmGate_eq] at armed ⊢
  simp only [gateHolds, gateOpen, Bool.and_eq_true, decide_eq_true_eq] at armed ⊢
  exact armed.1.1.2

section Branch

variable {F : Type} [FloatArith F] (rtos : RtosConfig) (input : Nat → TaskInput F) (n : Nat)

/-- The control variables right before the mixer of an armed poll. -/
def mixerInput : Control :=
  controlApplyActiveThrottleFloorOnce (controlUpdatePidOnce (branchState rtos input n))

/-- In the armed branch the outputs are those of the mixer, trimmed. -/
theorem outputState_armed (armed : ArmedBranchAt rtos input n) :
    (outputState rtos input n).control = controlUpdateMixerOnce (mixerInput rtos input n) ∧
      ∀ i : Fin 4, ((outputState rtos input n).motor.pwmUs.get i : Int) =
        trimmedPulse ((mixerInput rtos input n).spThrottleUs ≥ 1010) i
          (mixOf (controlUpdateMixerOnce (mixerInput rtos input n)) i) := by
  -- The branch applies PID, floor and mixer to the state behind the gate, and then trims.
  have branch : outputState rtos input n = _ := dispatchOutputs_armedBranch armed
  simp only [ArmedBranchAt, takesArmedBranch, Bool.and_eq_true] at armed
  obtain ⟨⟨-, ready⟩, gated⟩ := armed
  obtain ⟨valid, -⟩ := afterGate_throttle gated
  rw [branch]
  have outputs := motorUpdateControlOutputs_pulse
    { branchState rtos input n with
      motor := { (branchState rtos input n).motor with
        outputEnabled := true, safetyReason := motorSafeOk } } gated rfl valid ready
  exact ⟨(outputs 0).1, fun i => (outputs i).2⟩

/-- In the armed branch the throttle that enters the mixer is that of the stick, or the floor. -/
theorem mixerInput_throttle (armed : ArmedBranchAt rtos input n) :
    (mixerInput rtos input n).spThrottleUs =
        (if 1000 < (branchState rtos input n).rc.throttleUs then
          max (branchState rtos input n).rc.throttleUs 1250
        else (branchState rtos input n).rc.throttleUs) ∧
      (branchState rtos input n).rc.throttleUs ≤ 1350 := by
  simp only [ArmedBranchAt, takesArmedBranch, Bool.and_eq_true] at armed
  obtain ⟨-, gated⟩ := armed
  obtain ⟨valid, stick⟩ := afterGate_throttle gated
  -- A gate that arms has found the stick at or below the kill threshold.
  have kill : (branchState rtos input n).rc.throttleUs ≤ 1350 := motorUpdateArmGate_throttle gated
  have pid : (controlUpdatePidOnce (branchState rtos input n)).spThrottleUs =
      (branchState rtos input n).rc.throttleUs := controlUpdatePidOnce_throttle valid stick
  refine ⟨?_, kill⟩
  simp only [mixerInput, controlApplyActiveThrottleFloorOnce, pid, motorPwmIdleUs,
    controlMinActiveThrottleUs, motorTestMaxUs]
  -- Between idle and the kill threshold, the floor is all that can change it.
  split_ifs <;> omega

/--
In flight the mixer is never cut, and every motor spins.

With the throttle down every motor stays close to idle.
-/
theorem mixer_range (armed : ArmedBranchAt rtos input n) :
    (1000 < (branchState rtos input n).rc.throttleUs →
      Unsaturated (outputState rtos input n).control ∧
        Recoverable (outputState rtos input n).control ∧
        ∀ i : Fin 4, minSpinOf i ≤ (outputState rtos input n).motor.pwmUs.get i ∧
          (outputState rtos input n).motor.pwmUs.get i ≤ 1480) ∧
      ((branchState rtos input n).rc.throttleUs ≤ 1000 →
        ∀ i : Fin 4, 1000 ≤ (outputState rtos input n).motor.pwmUs.get i ∧
          (outputState rtos input n).motor.pwmUs.get i ≤ 1130) := by
  obtain ⟨control, pulses⟩ := outputState_armed rtos input n armed
  obtain ⟨throttle, kill⟩ := mixerInput_throttle rtos input n armed
  -- The PID outputs are bounded, whatever sensors and sticks say.
  have bounds : ∀ i, -120 ≤ motorCorrection (mixerInput rtos input n) i ∧
      motorCorrection (mixerInput rtos input n) i ≤ 120 := by
    intro i
    rw [mixerInput, motorCorrection_floored]
    exact motorCorrection_bounds (branchState rtos input n) i
  constructor
  · intro lifted
    rw [if_pos lifted] at throttle
    -- The floor lifts the base to 1250 at least, which leaves room below and above.
    have whole := unsaturated_of_room (by omega) (by omega) bounds
    rw [← control] at whole
    refine ⟨whole, whole.recoverable, ?_⟩
    intro i
    have mix := mixOf_of_room 1250 1350 (by omega) (by omega) (by omega) (by omega) bounds i
    have spins : (mixerInput rtos input n).spThrottleUs ≥ 1010 := by omega
    have pulse := pulses i
    rw [decide_eq_true spins] at pulse
    -- The trim adds at most ten, and the minimum spin is the lower bound.
    have range := trimmedPulse_spinning i
      (mixOf (controlUpdateMixerOnce (mixerInput rtos input n)) i) (by omega)
    omega
  · intro idle
    rw [if_neg (by omega)] at throttle
    intro i
    -- Without lift no minimum spin applies.
    have rests : ¬ (mixerInput rtos input n).spThrottleUs ≥ 1010 := by omega
    have pulse := pulses i
    rw [decide_eq_false rests] at pulse
    -- The base is the lowest pulse, so only corrections lift a motor above it.
    have mix : mixOf (controlUpdateMixerOnce (mixerInput rtos input n)) i ≤ 1120 := by
      obtain ⟨-, greatest⟩ := bounds i
      have lowest : (motorPwmMinUs : Int) = 1000 := rfl
      have most : (motorTestMaxUs : Int) = 1500 := rfl
      rw [mixOf_controlUpdateMixerOnce, lowest, most]
      unfold clampI32
      split_ifs <;> omega
    have range := trimmedPulse_resting i
      (mixOf (controlUpdateMixerOnce (mixerInput rtos input n)) i) mix
    omega

end Branch

/-- A bench run that arms with the throttle down in poll 53, and raises it in poll 54. -/
def liftBench (n : Nat) : TaskInput ℚ :=
  benchPoll (60 * n + 60) (60 * n + 62)
    (if n < 52 then []
      else benchFrame (if n < 54 then 1000 else 1300) (if n < 53 then 1000 else 2000))
    (fun _ => .zeroed) none

/-- The bench in lift is neither saturated nor out of its range. -/
theorem mixer_range_liftBench :
    Unsaturated (outputState benchRtos liftBench 54).control ∧
      Recoverable (outputState benchRtos liftBench 54).control ∧
      ∀ i : Fin 4, minSpinOf i ≤ (outputState benchRtos liftBench 54).motor.pwmUs.get i ∧
        (outputState benchRtos liftBench 54).motor.pwmUs.get i ≤ 1480 := by
  have armed : ArmedBranchAt benchRtos liftBench 54 := by
    unfold ArmedBranchAt
    decide +kernel
  exact (mixer_range benchRtos liftBench 54 armed).1 (by decide +kernel)

end AmpFc.Firmware
