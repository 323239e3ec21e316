import AmpFc.Firmware.SharedRegion

/-! The arming gate: receiver freshness, the refusals in order, and the arm latch. -/

namespace AmpFc.Firmware

/-- The part of `rc_update_freshness_once` that clears arming in either of its two branches. -/
def Rc.forgetArming (rc : Rc) : Rc :=
  { rc with valid := false, armAllowed := false, seenArmLow := false, armLatched := false }

/-- `rc_update_freshness_once`, reading the tick counter as `now`. -/
def rcUpdateFreshnessOnce (rtos : RtosConfig) (now : Nat) (fw : Firmware) : Firmware :=
  -- A stamp of zero stands for no frame at all.
  if fw.reception.rcLastFrameTick = 0 then
    { fw with
      rc := { fw.rc.forgetArming with frameAgeMs := 0xffffffff }
      motor := { fw.motor with armed := false } }
  else
    let ageMs := elapsedMs rtos now fw.reception.rcLastFrameTick
    -- Only an old frame also resets throttle and switch.
    if ageMs > rcLostTimeoutMs then
      { fw with
        rc := { fw.rc.forgetArming with
          frameAgeMs := ageMs, throttleUs := 1000, armSwitch := false }
        motor := { fw.motor with armed := false } }
    else { fw with rc := { fw.rc with frameAgeMs := ageMs } }

/-- A refusal of the gate that also drops the arm latch. -/
def refuseArming (fw : Firmware) : Firmware :=
  { fw with
    rc := { fw.rc with armLatched := false, prevArmSwitch := fw.rc.armSwitch }
    motor := { fw.motor with armed := false } }

/-- `motor_update_arm_gate`. -/
def motorUpdateArmGate (rtos : RtosConfig) (now : Nat) (fw : Firmware) : Firmware :=
  let fw := rcUpdateFreshnessOnce rtos now { fw with rc := { fw.rc with armAllowed := false } }
  if !fw.rc.valid then fw.refuseArming
  else if !fw.sensing.sensors.sensorReady then fw.refuseArming
  else if fw.rc.throttleUs > rcThrottleTestKillUs then fw.refuseArming
  -- The switch must be seen low after boot and after the receiver was lost.
  else if !fw.rc.armSwitch then
    let fw := fw.refuseArming
    { fw with rc := { fw.rc with seenArmLow := true } }
  -- Once latched, the throttle may rise up to the kill threshold.
  else if fw.rc.armLatched then
    { fw with
      rc := { fw.rc with prevArmSwitch := fw.rc.armSwitch, armAllowed := true }
      motor := { fw.motor with armed := true } }
  else if fw.rc.throttleUs > rcThrottleLowUs then
    { fw with
      rc := { fw.rc with prevArmSwitch := fw.rc.armSwitch }
      motor := { fw.motor with armed := false } }
  else
    let latched := fw.rc.seenArmLow && !fw.rc.prevArmSwitch && fw.rc.armSwitch
    let rc := { fw.rc with
      armLatched := fw.rc.armLatched || latched, prevArmSwitch := fw.rc.armSwitch }
    if !rc.armLatched then
      { fw with rc := rc, motor := { fw.motor with armed := false } }
    else
      { fw with
        rc := { rc with armAllowed := true }
        motor := { fw.motor with armed := true } }

/-- The two branches of `rc_update_freshness_once` that clear arming. -/
def freshnessLost (rtos : RtosConfig) (now : Nat) (fw : Firmware) : Bool :=
  fw.reception.rcLastFrameTick == 0 ||
    elapsedMs rtos now fw.reception.rcLastFrameTick > rcLostTimeoutMs

/-- The state in which the gate takes its decisions, after the freshness check. -/
def gateInput (rtos : RtosConfig) (now : Nat) (fw : Firmware) : Firmware :=
  rcUpdateFreshnessOnce rtos now { fw with rc := { fw.rc with armAllowed := false } }

/-- None of the refusals before the arm switch applies. -/
def gateOpen (fw : Firmware) : Bool :=
  fw.rc.valid && fw.sensing.sensors.sensorReady && fw.rc.throttleUs ≤ rcThrottleTestKillUs

/-- The gate lets a latched state stay latched. -/
def gateHolds (fw : Firmware) : Bool :=
  gateOpen fw && fw.rc.armSwitch

/-- A low throttle and a rising switch, once the switch was seen low. -/
def gateRequests (fw : Firmware) : Bool :=
  fw.rc.throttleUs ≤ rcThrottleLowUs && (fw.rc.seenArmLow && !fw.rc.prevArmSwitch)

/-- A lost receiver is invalid, has forgotten the low switch, and is not armed. -/
theorem gateInput_lost {rtos : RtosConfig} {now : Nat} {fw : Firmware}
    (lost : freshnessLost rtos now fw = true) :
    (gateInput rtos now fw).rc.valid = false ∧ (gateInput rtos now fw).rc.seenArmLow = false ∧
      (gateInput rtos now fw).rc.armLatched = false ∧
      (gateInput rtos now fw).motor.armed = false := by
  -- Both branches that count as a loss clear the same four variables.
  unfold gateInput rcUpdateFreshnessOnce
  by_cases silent : fw.reception.rcLastFrameTick = 0
  · simp [silent, Rc.forgetArming]
  · have stale : elapsedMs rtos now fw.reception.rcLastFrameTick > rcLostTimeoutMs := by
      simpa [freshnessLost, silent] using lost
    simp [silent, stale, Rc.forgetArming]

/-- A fresh receiver enters the gate unchanged but for its age and the cleared permission. -/
theorem gateInput_fresh {rtos : RtosConfig} {now : Nat} {fw : Firmware}
    (fresh : freshnessLost rtos now fw = false) :
    gateInput rtos now fw = { fw with
      rc := { fw.rc with
        armAllowed := false
        frameAgeMs := elapsedMs rtos now fw.reception.rcLastFrameTick } } := by
  -- Neither branch that counts as a loss is taken.
  simp only [freshnessLost, Bool.or_eq_false_iff, beq_eq_false_iff_ne, decide_eq_false_iff_not]
    at fresh
  obtain ⟨heard, recent⟩ := fresh
  unfold gateInput rcUpdateFreshnessOnce
  simp [heard, recent]

/-- The freshness check writes only receiver variables and the armed flag. -/
theorem gateInput_frame (rtos : RtosConfig) (now : Nat) (fw : Firmware) :
    ∃ rc armed, gateInput rtos now fw =
      { fw with rc := rc, motor := { fw.motor with armed := armed } } := by
  -- A loss clears the flag, and a fresh receiver leaves it alone.
  unfold gateInput rcUpdateFreshnessOnce
  split
  · exact ⟨_, false, rfl⟩
  · simp only
    split
    · exact ⟨_, false, rfl⟩
    · exact ⟨_, fw.motor.armed, rfl⟩

/--
The gate as one equation: seven exits, one rule.

The latch, the permission and the armed flag always leave the gate with the same value.
-/
theorem motorUpdateArmGate_eq (rtos : RtosConfig) (now : Nat) (fw : Firmware) :
    motorUpdateArmGate rtos now fw =
      let f := gateInput rtos now fw
      let latched := gateHolds f && (f.rc.armLatched || gateRequests f)
      { f with
        rc := { f.rc with
          armAllowed := latched
          armLatched := latched
          seenArmLow := f.rc.seenArmLow || (gateOpen f && !f.rc.armSwitch)
          prevArmSwitch := f.rc.armSwitch }
        motor := { f.motor with armed := latched } } := by
  have cleared : (gateInput rtos now fw).rc.armAllowed = false := by
    unfold gateInput rcUpdateFreshnessOnce
    split
    · rfl
    · simp only
      split <;> rfl
  unfold motorUpdateArmGate
  rw [← gateInput]
  generalize gateInput rtos now fw = f at cleared
  -- Only the variables the gate reads decide which exit is taken.
  obtain ⟨reception, statics, rc, motor, control, config, sensing, shm, stage3, pwm, esc⟩ := f
  obtain ⟨ch0, ch1, ch3, valid, throttle, switch, allowed, age, seen, latched, prev⟩ := rc
  simp only at cleared
  subst cleared
  simp only [refuseArming, gateHolds, gateOpen, gateRequests]
  cases valid with
  | false => simp
  | true =>
    cases ready : sensing.sensors.sensorReady with
    | false => simp
    | true =>
      by_cases kill : throttle > rcThrottleTestKillUs
      · have above : ¬ throttle ≤ rcThrottleTestKillUs := by omega
        simp [kill, above]
      · have below : throttle ≤ rcThrottleTestKillUs := by omega
        cases switch with
        | false => simp [kill, below]
        | true =>
          cases latched with
          | true => simp [kill, below]
          | false =>
            by_cases high : throttle > rcThrottleLowUs
            · have above : ¬ throttle ≤ rcThrottleLowUs := by omega
              simp [kill, below, high, above]
            · have low : throttle ≤ rcThrottleLowUs := by omega
              cases seen <;> cases prev <;> simp [kill, below, high, low]

/-- Motors leave the gate armed exactly when the arm latch is set. -/
theorem motorUpdateArmGate_armed (rtos : RtosConfig) (now : Nat) (fw : Firmware) :
    (motorUpdateArmGate rtos now fw).motor.armed =
      (motorUpdateArmGate rtos now fw).rc.armLatched := by
  rw [motorUpdateArmGate_eq]

/-- A gate that arms has found the receiver valid. -/
theorem motorUpdateArmGate_valid {rtos : RtosConfig} {now : Nat} {fw : Firmware}
    (armed : (motorUpdateArmGate rtos now fw).motor.armed = true) :
    (motorUpdateArmGate rtos now fw).rc.valid = true := by
  rw [motorUpdateArmGate_eq] at armed ⊢
  simp only [gateHolds, gateOpen, Bool.and_eq_true] at armed ⊢
  exact armed.1.1.1.1

end AmpFc.Firmware
