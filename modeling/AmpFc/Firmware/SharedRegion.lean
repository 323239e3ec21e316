import AmpFc.Firmware.State

/-! The shared region as the firmware uses it: emergency, configuration, and the report. -/

namespace AmpFc.Firmware

variable {F : Type} [FloatArith F]

/-- The memory the firmware reads: the region that lies at each physical address. -/
abbrev Memory (F : Type) := UInt32 → SharedCommandRegion F

/-- `motor_set_all`. -/
def motorSetAll (motor : Motor) (us : Nat) : Motor :=
  { motor with pwmUs := .replicate 4 (clampU32 us motorPwmMinUs motorPwmMaxUs) }

/-- `motor_force_safe`: clear corrections and mixer, and idle every motor. -/
def motorForceSafe (fw : Firmware) (reason : UInt32) : Firmware :=
  -- The arm latch of the receiver group is not among the variables written here.
  { fw with
    motor := motorSetAll
      { fw.motor with armed := false, outputEnabled := false, safetyReason := reason }
      motorPwmIdleUs
    control := { fw.control with
      pidRoll := 0
      pidPitch := 0
      pidYaw := 0
      angleCorrRoll := 0
      angleCorrPitch := 0
      rateCorrRoll := 0
      rateCorrPitch := 0
      rateCorrYaw := 0
      mixM0 := motorPwmIdleUs
      mixM1 := motorPwmIdleUs
      mixM2 := motorPwmIdleUs
      mixM3 := motorPwmIdleUs } }

/-- `amp_config_float_to_div`: a value outside the range keeps the fallback. -/
def ampConfigFloatToDiv (v : F) (fallback lo hi : Nat) : Nat :=
  -- An unordered value fails both comparisons and is converted all the same.
  if FloatArith.lt v (FloatArith.ofRat lo) || FloatArith.lt (FloatArith.ofRat hi) v then fallback
  else clampU32 (FloatArith.toUInt32 v).toNat lo hi

/-- `AMP_CONFIG_DEADZONE_MIN_US`. -/
def ampConfigDeadzoneMinUs : Nat := 5

/-- `AMP_CONFIG_DEADZONE_MAX_US`. -/
def ampConfigDeadzoneMaxUs : Nat := 80

/-- `AMP_CONFIG_RATE_DIV_MIN`. -/
def ampConfigRateDivMin : Nat := 8

/-- `AMP_CONFIG_RATE_DIV_MAX`. -/
def ampConfigRateDivMax : Nat := 80

/-- `AMP_CONFIG_ANGLE_DIV_MIN`. -/
def ampConfigAngleDivMin : Nat := 100

/-- `AMP_CONFIG_ANGLE_DIV_MAX`. -/
def ampConfigAngleDivMax : Nat := 1200

/-- `amp_shared_region_get`: no region before Linux announced an address. -/
def ampSharedRegionGet (shm : AmpShm) (memory : Memory F) : Option (SharedCommandRegion F) :=
  if !shm.shmReady || shm.shmPhys = 0 then none else some (memory shm.shmPhys)

/-- A bit of the status word. -/
def statusBit (flag : Bool) (bit : UInt32) : UInt32 :=
  if flag then bit else 0

/-- `amp_build_status_flags`. -/
def ampBuildStatusFlags (fw : Firmware) : UInt32 :=
  -- The safety reason is repeated in the top byte.
  statusBit fw.rc.valid 0x01 ||| statusBit fw.sensing.sensors.sensorReady 0x02 |||
    statusBit fw.motor.armed 0x04 ||| statusBit fw.motor.outputEnabled 0x08 |||
    statusBit (fw.motor.safetyReason == motorSafeFailsafe) 0x10 |||
    statusBit fw.shm.emergencyStopLatched 0x20 ||| statusBit fw.sensing.attitude.attOk 0x40 |||
    statusBit fw.rc.armLatched 0x80 ||| ((fw.motor.safetyReason &&& 0xff) <<< 24)

/-- The emergency branch of the poll: any new sequence number is a new command. -/
def pollEmergency (shm : AmpShm) (slot : SharedSlot CommandEmergencyStop) : AmpShm :=
  -- Reason zero is the explicit clear command, and a sequence number of zero is not exempt.
  if slot.seq ≠ shm.lastEmergencySeq then
    { shm with
      lastEmergencySeq := slot.seq
      emergencyStopLatched := slot.payload.reason ≠ 0 }
  else shm

/-- The configuration branch of the poll. -/
def pollConfig (fw : Firmware) (slot : SharedSlot (FlightConfig F)) : Firmware :=
  let seq := slot.seq
  let updateSeq := slot.payload.updateSeq
  if (seq ≠ fw.shm.lastConfigSlotSeq ∨ updateSeq ≠ fw.shm.lastConfigUpdateSeq) ∧
      (seq ≠ 0 ∨ updateSeq ≠ 0) then
    let deadzone := slot.payload.deadzoneUs.toNat
    -- The roll divider is the fallback for all three rate dividers.
    let rateDiv := ampConfigFloatToDiv slot.payload.rateP fw.config.rateRollDiv
      ampConfigRateDivMin ampConfigRateDivMax
    let angleDiv := ampConfigFloatToDiv slot.payload.angleP fw.config.angleDiv
      ampConfigAngleDivMin ampConfigAngleDivMax
    { fw with
      shm := { fw.shm with
        lastConfigSlotSeq := seq
        lastConfigUpdateSeq := updateSeq
        configSeq := seq
        configUpdateCount := fw.shm.configUpdateCount + 1 }
      config :=
        { deadzoneUs :=
            if deadzone ≠ 0 then
              clampU32 deadzone ampConfigDeadzoneMinUs ampConfigDeadzoneMaxUs
            else fw.config.deadzoneUs
          rateRollDiv := rateDiv
          ratePitchDiv := rateDiv
          rateYawDiv := rateDiv
          angleDiv := angleDiv } }
  else fw

/-- `amp_shared_region_poll_once`. -/
def ampSharedRegionPollOnce (fw : Firmware) (memory : Memory F) : Firmware :=
  match ampSharedRegionGet fw.shm memory with
  | none => fw
  | some r =>
    let fw := { fw with shm := { fw.shm with pollCount := fw.shm.pollCount + 1 } }
    if !r.wellMarked then fw
    else
      let fw := { fw with shm := pollEmergency fw.shm r.emergencyStop }
      let fw := if fw.shm.emergencyStopLatched then motorForceSafe fw motorSafeFailsafe else fw
      let fw := pollConfig fw r.config
      -- The arm and setpoint slots are only noted, never obeyed.
      { fw with
        shm := { fw.shm with lastArmSeq := r.arm.seq, lastSetpointSeq := r.setpoint.seq } }

/-- The payload of the report that is due at tick `now` under number `seq`. -/
def rtReportPayload (rtos : RtosConfig) (now : Nat) (seq flags : UInt32) (fw : Firmware) :
    RtReport F :=
  -- Angles travel in degrees, body rates in the sensor's raw unit.
  let a := fw.sensing.attitude
  { monotonicUs := UInt64.ofNat now * UInt64.ofNat (portTickPeriodMs rtos) * 1000
    rollDeg := FloatArith.ofRat a.bodyRollCd / FloatArith.ofRat 100
    pitchDeg := FloatArith.ofRat a.bodyPitchCd / FloatArith.ofRat 100
    yawDeg := FloatArith.ofRat a.bodyYawCd / FloatArith.ofRat 100
    rollRateDps := FloatArith.ofRat a.bodyRateRollRaw
    pitchRateDps := FloatArith.ofRat a.bodyRatePitchRaw
    yawRateDps := FloatArith.ofRat a.bodyRateYawRaw
    motorPwmUs := fw.motor.pwmUs.map UInt16.ofNat
    statusFlags := flags
    seq := seq }

/-- `amp_shared_region_write_rt_report_once`: at most one report every twenty milliseconds. -/
def ampSharedRegionWriteRtReportOnce (rtos : RtosConfig) (now : Nat) (fw : Firmware)
    (memory : Memory F) : Firmware × Option (SharedSlot (RtReport F)) :=
  match ampSharedRegionGet fw.shm memory with
  | none => (fw, none)
  | some r =>
    if !r.wellMarked then (fw, none)
    else if tickSub rtos now fw.shm.lastRtReportTick < pdMsToTicks rtos 20 then (fw, none)
    else
      let seq := fw.shm.rtReportSeq + 1
      let flags := ampBuildStatusFlags fw
      -- The slot is published with a checksum of zero.
      ({ fw with
          shm := { fw.shm with
            lastRtReportTick := now, rtReportSeq := seq, statusFlags := flags } },
        some { seq := seq, payload := rtReportPayload rtos now seq flags fw, payloadCrc := 0 })

section Frame

/-- Forcing the motors safe leaves the receiver alone, -/
@[simp] theorem motorForceSafe_rc (fw : Firmware) (reason : UInt32) :
    (motorForceSafe fw reason).rc = fw.rc := rfl

/-- and what is known of the region, -/
@[simp] theorem motorForceSafe_shm (fw : Firmware) (reason : UInt32) :
    (motorForceSafe fw reason).shm = fw.shm := rfl

/-- and the motors disarmed. -/
@[simp] theorem motorForceSafe_armed (fw : Firmware) (reason : UInt32) :
    (motorForceSafe fw reason).motor.armed = false := rfl

/-- Forcing the motors safe writes only motor and control variables. -/
theorem motorForceSafe_frame (fw : Firmware) (reason : UInt32) :
    ∃ motor control, motorForceSafe fw reason =
      { fw with motor := motor, control := control } :=
  ⟨_, _, rfl⟩

/-- What the shared region can have done to the emergency latch and to the region's address. -/
def SameLink (before after : AmpShm) : Prop :=
  after.emergencyStopLatched = before.emergencyStopLatched ∧
    after.lastEmergencySeq = before.lastEmergencySeq ∧
    after.shmPhys = before.shmPhys ∧ after.shmReady = before.shmReady

/-- A configuration changes only tuning and the bookkeeping about configurations. -/
theorem pollConfig_frame (fw : Firmware) (slot : SharedSlot (FlightConfig F)) :
    ∃ config shm, pollConfig fw slot = { fw with config := config, shm := shm } ∧
      SameLink fw.shm shm := by
  -- Either branch is already written in this form.
  unfold pollConfig
  simp only
  split
  · exact ⟨_, _, rfl, rfl, rfl, rfl, rfl⟩
  · exact ⟨fw.config, fw.shm, rfl, rfl, rfl, rfl, rfl⟩

/-- The emergency command that a poll sees, if it sees a region at all. -/
def seenEmergency (fw : Firmware) (memory : Memory F) : Option (SharedSlot CommandEmergencyStop) :=
  ((ampSharedRegionGet fw.shm memory).filter SharedCommandRegion.wellMarked).map
    SharedCommandRegion.emergencyStop

/-- The bookkeeping after the emergency branch of a poll. -/
def linkAfter (fw : Firmware) (memory : Memory F) : AmpShm :=
  match seenEmergency fw memory with
  | some slot => pollEmergency fw.shm slot
  | none => fw.shm

/-- Polling the region writes motor, control, tuning, and bookkeeping, and nothing else. -/
theorem ampSharedRegionPollOnce_frame (fw : Firmware) (memory : Memory F) :
    ∃ motor control config shm, ampSharedRegionPollOnce fw memory =
        { fw with motor := motor, control := control, config := config, shm := shm } ∧
      SameLink (linkAfter fw memory) shm := by
  unfold ampSharedRegionPollOnce linkAfter seenEmergency
  cases ampSharedRegionGet fw.shm memory with
  | none => exact ⟨fw.motor, fw.control, fw.config, fw.shm, rfl, rfl, rfl, rfl, rfl⟩
  | some r =>
    cases marked : r.wellMarked with
    | false =>
      simp only [marked, Bool.not_false, if_true, Option.filter_some, Bool.false_eq_true,
        if_false, Option.map_none]
      exact ⟨fw.motor, fw.control, fw.config, _, rfl, rfl, rfl, rfl, rfl⟩
    | true =>
      simp only [marked, Bool.not_true, Bool.false_eq_true, if_false, Option.filter_some, if_true,
        Option.map_some]
      -- The latch is decided first, and neither the safety branch nor a configuration touches it.
      have latch : SameLink (pollEmergency fw.shm r.emergencyStop)
          (pollEmergency { fw.shm with pollCount := fw.shm.pollCount + 1 } r.emergencyStop) := by
        unfold pollEmergency
        split <;> exact ⟨rfl, rfl, rfl, rfl⟩
      generalize pollEmergency { fw.shm with pollCount := fw.shm.pollCount + 1 } r.emergencyStop
        = link at latch ⊢
      have safe : ∃ motor control,
          (if link.emergencyStopLatched then
            motorForceSafe { fw with shm := link } motorSafeFailsafe
          else { fw with shm := link }) =
          { fw with motor := motor, control := control, shm := link } := by
        split
        · exact ⟨_, _, rfl⟩
        · exact ⟨fw.motor, fw.control, rfl⟩
      obtain ⟨motor, control, forced⟩ := safe
      rw [forced]
      obtain ⟨config, shm, tuned, same⟩ := pollConfig_frame
        { fw with motor := motor, control := control, shm := link } r.config
      rw [tuned]
      refine ⟨motor, control, config, _, rfl, ?_⟩
      exact ⟨same.1.trans latch.1, same.2.1.trans latch.2.1, same.2.2.1.trans latch.2.2.1,
        same.2.2.2.trans latch.2.2.2⟩

/-- A report changes only its own bookkeeping. -/
theorem ampSharedRegionWriteRtReportOnce_frame (rtos : RtosConfig) (now : Nat) (fw : Firmware)
    (memory : Memory F) :
    ∃ shm, (ampSharedRegionWriteRtReportOnce rtos now fw memory).1 = { fw with shm := shm } ∧
      SameLink fw.shm shm := by
  -- Without a marked region, or before the report is due, nothing changes.
  unfold ampSharedRegionWriteRtReportOnce
  cases ampSharedRegionGet fw.shm memory with
  | none => exact ⟨fw.shm, rfl, rfl, rfl, rfl, rfl⟩
  | some r =>
    simp only
    split_ifs
    · exact ⟨fw.shm, rfl, rfl, rfl, rfl, rfl⟩
    · exact ⟨fw.shm, rfl, rfl, rfl, rfl, rfl⟩
    · exact ⟨_, rfl, rfl, rfl, rfl, rfl⟩

end Frame

end AmpFc.Firmware
