import AmpFc.Firmware.State

/-! The PWM backend: speed-controller delay, pulse limits, and what reaches the hardware. -/

namespace AmpFc.Firmware

/-- `g_duo_pwm_id_map`. -/
def duoPwmIdMap : List Nat := [1, 1, 1, 1]

/-- `g_duo_pwm_channel_map`. -/
def duoPwmChannelMap : List Nat := [3, 1, 0, 2]

/-- `PWM_BACKEND_ERR_BAD_CHANNEL`. -/
def pwmBackendErrBadChannel : UInt32 := 2

/-- `stage3_actuator_map_check`. -/
def stage3ActuatorMapCheck : Bool :=
  duoPwmIdMap == [1, 1, 1, 1] && duoPwmChannelMap == [3, 1, 0, 2]

/-- `stage3_flight_node_step_legacy_fallback`. -/
def stage3FlightNodeStepLegacyFallback (stage3 : Stage3) : Stage3 :=
  { stepCount := stage3.stepCount + 1
    actuatorMapOk := stage3ActuatorMapCheck
    externalEnabled := false }

/-- `pwm_backend_set_cfg_us`; pulses are active high, so the high time is the active time. -/
def pwmBackendSetCfgUs (pwm : Pwm) (ch activeUs : Nat) : Pwm :=
  -- Period and pulse are programmed in nanoseconds.
  if bound : ch < 4 then
    { pwm with
      cfg := pwm.cfg.set ch { pwm.cfg[ch] with
        period := motorPwmPeriodUs * pwmNsPerUs
        pulse := activeUs * pwmNsPerUs }
      periodUsDbg := motorPwmPeriodUs
      activeHighDbg := 1
      dutyUsDbg := pwm.dutyUsDbg.set ch activeUs }
  else pwm

/-- One turn of the loop in `pwm_backend_init_once`: map the channel and program a safe pulse. -/
def pwmBackendInitChannel (pwm : Pwm) (i : Fin 4) : Pwm :=
  let mapped := { pwm with
    cfg := pwm.cfg.set i { pwm.cfg[i] with
      pwmId := duoPwmIdMap.getD i 0, channel := duoPwmChannelMap.getD i 0 } }
  pwmBackendSetCfgUs mapped i motorPwmSafeUs

/-- `pwm_backend_init_once`. -/
def pwmBackendInitOnce (pwm : Pwm) : Pwm :=
  if pwm.backendReady then pwm
  else
    { (List.finRange 4).foldl pwmBackendInitChannel pwm with
      backendReady := true, backendErr := 0, realEnabled := true }

/-- `esc_update_arm_delay_once`, reading the tick counter as `now`. -/
def escUpdateArmDelayOnce (rtos : RtosConfig) (now : Nat) (esc : Esc) : Esc :=
  -- A start tick of zero stands for a delay that has not begun.
  if esc.armStartTick = 0 then { armStartTick := now, armDelayDone := false, armDelayMs := 0 }
  else
    let elapsed := elapsedMs rtos now esc.armStartTick
    { esc with
      armDelayMs := elapsed
      armDelayDone := if elapsed ≥ escArmDelayMs then true else esc.armDelayDone }

/-- The pulse `pwm_backend_write_us` settles on. -/
def limitedPulseUs (motor : Motor) (esc : Esc) (pulseUs : Nat) : Nat :=
  -- Each later condition overrides the earlier ones.
  let us := clampU32 pulseUs motorPwmMinUs motorPwmMaxUs
  let us := if !motor.armed then motorPwmSafeUs else us
  let us := if !motor.outputEnabled then motorPwmSafeUs else us
  let us := if !esc.armDelayDone then motorPwmIdleUs else us
  if us > motorTestMaxUs then motorTestMaxUs else us

/-- `pwm_backend_write_us`: the backend afterwards, and the configuration it programmed. -/
def pwmBackendWriteUs (motor : Motor) (esc : Esc) (pwm : Pwm) (ch pulseUs : Nat) :
    Pwm × Option PwmConfiguration :=
  -- An unknown channel is recorded as an error, and a backend that is not ready refuses.
  if bound : ch < 4 then
    if !pwm.backendReady then ({ pwm with realEnabled := false }, none)
    else
      let pwm := pwmBackendSetCfgUs pwm ch (limitedPulseUs motor esc pulseUs)
      (pwm, some pwm.cfg[ch])
  else ({ pwm with backendErr := pwmBackendErrBadChannel }, none)

/-- One turn of the write loop, collecting what was programmed. -/
def applyOutput (motor : Motor) (esc : Esc) (acc : Pwm × List PwmConfiguration) (i : Fin 4) :
    Pwm × List PwmConfiguration :=
  match pwmBackendWriteUs motor esc acc.1 i motor.pwmUs[i] with
  | (pwm, written) => (pwm, acc.2 ++ written.toList)

/-- `motor_apply_outputs`, with the configurations the write loop programmed. -/
def motorApplyOutputs (rtos : RtosConfig) (now : Nat) (fw : Firmware) :
    Firmware × List PwmConfiguration :=
  let esc := escUpdateArmDelayOnce rtos now fw.esc
  match (List.finRange 4).foldl (applyOutput fw.motor esc) (pwmBackendInitOnce fw.pwm, []) with
  | (pwm, programmed) => ({ fw with esc := esc, pwm := pwm }, programmed)

/-- A limited pulse is at least the minimum and at most the test maximum. -/
theorem limitedPulseUs_bounds (motor : Motor) (esc : Esc) (pulseUs : Nat) :
    motorPwmMinUs ≤ limitedPulseUs motor esc pulseUs ∧
      limitedPulseUs motor esc pulseUs ≤ motorTestMaxUs := by
  -- The overrides only choose between the minimum and a clamped value.
  have clamped : motorPwmMinUs ≤ clampU32 pulseUs motorPwmMinUs motorPwmMaxUs := by
    unfold clampU32 motorPwmMinUs motorPwmMaxUs
    split_ifs <;> omega
  unfold limitedPulseUs
  generalize clampU32 pulseUs motorPwmMinUs motorPwmMaxUs = us at clamped
  simp only [motorPwmMinUs, motorPwmSafeUs, motorPwmIdleUs, motorTestMaxUs] at clamped ⊢
  cases motor.armed <;> cases motor.outputEnabled <;> cases esc.armDelayDone <;> simp
  -- With all three conditions met, the clamped pulse is only cut at the test maximum.
  split_ifs <;> omega

/-- Only an armed motor with enabled output gets more than idle, and only after the delay. -/
theorem limitedPulseUs_active {motor : Motor} {esc : Esc} {pulseUs : Nat}
    (active : motorPwmIdleUs < limitedPulseUs motor esc pulseUs) :
    motor.armed = true ∧ motor.outputEnabled = true ∧ esc.armDelayDone = true := by
  -- Each missing condition would have replaced the pulse by the idle pulse.
  simp only [limitedPulseUs, motorPwmIdleUs, motorPwmSafeUs, motorTestMaxUs] at active
  cases armed : motor.armed <;> cases enabled : motor.outputEnabled <;>
    cases done : esc.armDelayDone <;> simp [armed, enabled, done] at active ⊢

/-- Whatever a write programs is the limited pulse of its channel. -/
theorem pwmBackendWriteUs_pulse {motor : Motor} {esc : Esc} {pwm : Pwm} {ch pulseUs : Nat}
    {cfg : PwmConfiguration}
    (written : (pwmBackendWriteUs motor esc pwm ch pulseUs).2 = some cfg) :
    cfg.pulse = limitedPulseUs motor esc pulseUs * pwmNsPerUs := by
  -- Only the branch with a known channel and a ready backend programs anything.
  unfold pwmBackendWriteUs at written
  split at written
  · rename_i bound
    split at written
    · cases written
    · simp only [pwmBackendSetCfgUs, bound, dite_true, Vector.getElem_set_self,
        Option.some.injEq] at written
      rw [← written]
  · cases written

/-- Everything the write loop collects was there before or is a limited pulse of some motor. -/
theorem applyOutput_foldl_pulse (motor : Motor) (esc : Esc) (motors : List (Fin 4)) :
    ∀ (acc : Pwm × List PwmConfiguration), ∀ cfg ∈ (motors.foldl (applyOutput motor esc) acc).2,
      cfg ∈ acc.2 ∨
        ∃ i : Fin 4, cfg.pulse = limitedPulseUs motor esc motor.pwmUs[i] * pwmNsPerUs := by
  -- The induction is on the motors that are still to be written.
  induction motors with
  | nil => exact fun acc cfg member => .inl member
  | cons i rest ih =>
    intro acc cfg member
    rcases ih (applyOutput motor esc acc i) cfg member with collected | later
    · -- The turn for motor `i` appended at most its own configuration.
      simp only [applyOutput, List.mem_append, Option.mem_toList] at collected
      rcases collected with earlier | own
      · exact .inl earlier
      · exact .inr ⟨i, pwmBackendWriteUs_pulse own⟩
    · exact .inr later

/-- The pulses of a poll are the limited pulses of the four motors. -/
theorem motorApplyOutputs_pulse {rtos : RtosConfig} {now : Nat} {fw : Firmware}
    {cfg : PwmConfiguration} (member : cfg ∈ (motorApplyOutputs rtos now fw).2) :
    ∃ i : Fin 4, cfg.pulse = limitedPulseUs fw.motor (escUpdateArmDelayOnce rtos now fw.esc)
      fw.motor.pwmUs[i] * pwmNsPerUs := by
  -- The loop starts with an empty collection.
  have collected := applyOutput_foldl_pulse fw.motor (escUpdateArmDelayOnce rtos now fw.esc)
    (List.finRange 4) (pwmBackendInitOnce fw.pwm, []) cfg member
  rcases collected with earlier | own
  · cases earlier
  · exact own

/-- Applying the outputs writes only the speed-controller delay and the backend. -/
theorem motorApplyOutputs_frame (rtos : RtosConfig) (now : Nat) (fw : Firmware) :
    ∃ pwm, (motorApplyOutputs rtos now fw).1 =
      { fw with esc := escUpdateArmDelayOnce rtos now fw.esc, pwm := pwm } :=
  ⟨_, rfl⟩

end AmpFc.Firmware
