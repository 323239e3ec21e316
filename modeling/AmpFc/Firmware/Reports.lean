import AmpFc.Firmware.MotorSafety

/-! The reports of the firmware, as a reader of the shared protocol would take them. -/

namespace AmpFc.Firmware

section Flags

/-- A test of a status word for one flag. -/
def hasStatus (flags bit : UInt32) : Bool := flags &&& bit != 0

/-- A flag is set in two words together if it is set in one of them. -/
theorem hasStatus_or (left right bit : UInt32) :
    hasStatus (left ||| right) bit = (hasStatus left bit || hasStatus right bit) := by
  -- A bit is in the union where it is in one of the two.
  have distributed : (left ||| right) &&& bit = (left &&& bit) ||| (right &&& bit) := by
    apply UInt32.toBitVec_inj.mp
    exact BitVec.and_or_distrib_right
  rw [Bool.eq_iff_iff]
  simp only [hasStatus, distributed, bne_iff_ne, ne_eq, Bool.or_eq_true, UInt32.or_eq_zero_iff]
  tauto

/-- A word that is there only under a condition shows its flags only under that condition. -/
theorem hasStatus_statusBit (flag : Bool) (word bit : UInt32) :
    hasStatus (statusBit flag word) bit = (flag && hasStatus word bit) := by
  cases flag with
  | false => simp [statusBit, hasStatus]
  | true => rfl

/-- The safety reason in the top byte shows no flag below it. -/
theorem hasStatus_reason (reason : UInt32) {bit : UInt32} (low : bit < 0x1000000) :
    hasStatus ((reason &&& 0xff) <<< 24) bit = false := by
  have cleared : ((reason &&& 0xff) <<< 24) &&& bit = 0 := by
    apply UInt32.toBitVec_inj.mp
    apply BitVec.eq_of_getLsbD_eq
    intro i below
    simp only [UInt32.toBitVec_and, UInt32.toBitVec_shiftLeft, BitVec.getLsbD_and]
    -- The shift leaves the low places empty, and the flag has no other ones.
    by_cases inside : i < 24
    · simp [inside]
    · have outside : bit.toNat.testBit i = false := by
        apply Nat.testBit_lt_two_pow
        calc bit.toNat < 2 ^ 24 := UInt32.lt_iff_toNat_lt.mp low
          _ ≤ 2 ^ i := Nat.pow_le_pow_right (by decide) (by omega)
      have outside' : bit.toBitVec.getLsbD i = false := outside
      simp [outside']
  simp [hasStatus, cleared]

/-- A flag below the top byte is read from the eight conditions of the status word. -/
theorem hasStatus_ampBuildStatusFlags (fw : Firmware) {bit : UInt32} (low : bit < 0x1000000) :
    hasStatus (ampBuildStatusFlags fw) bit = true ↔
      fw.rc.valid = true ∧ hasStatus 0x01 bit = true ∨
      fw.sensing.sensors.sensorReady = true ∧ hasStatus 0x02 bit = true ∨
      fw.motor.armed = true ∧ hasStatus 0x04 bit = true ∨
      fw.motor.outputEnabled = true ∧ hasStatus 0x08 bit = true ∨
      fw.motor.safetyReason = motorSafeFailsafe ∧ hasStatus 0x10 bit = true ∨
      fw.shm.emergencyStopLatched = true ∧ hasStatus 0x20 bit = true ∨
      fw.sensing.attitude.attOk = true ∧ hasStatus 0x40 bit = true ∨
      fw.rc.armLatched = true ∧ hasStatus 0x80 bit = true := by
  unfold ampBuildStatusFlags
  simp only [hasStatus_or, hasStatus_statusBit, hasStatus_reason _ low, Bool.or_false,
    Bool.or_eq_true, Bool.and_eq_true, beq_iff_eq, or_assoc]

/-- `StatusArmed` is where the firmware tells that the receiver is valid. -/
theorem hasStatus_statusArmed (fw : Firmware) :
    hasStatus (ampBuildStatusFlags fw) statusArmed = true ↔ fw.rc.valid = true := by
  rw [hasStatus_ampBuildStatusFlags fw (by decide)]
  simp +decide only [and_true, and_false, or_false]

/-- `StatusFailsafe` is where the firmware tells that the sensors are ready. -/
theorem hasStatus_statusFailsafe (fw : Firmware) :
    hasStatus (ampBuildStatusFlags fw) statusFailsafe = true ↔
      fw.sensing.sensors.sensorReady = true := by
  rw [hasStatus_ampBuildStatusFlags fw (by decide)]
  simp +decide only [and_true, and_false, or_false, false_or]

/-- `StatusImuHealthy` is where the firmware tells that the motors are armed. -/
theorem hasStatus_statusImuHealthy (fw : Firmware) :
    hasStatus (ampBuildStatusFlags fw) statusImuHealthy = true ↔ fw.motor.armed = true := by
  rw [hasStatus_ampBuildStatusFlags fw (by decide)]
  simp +decide only [and_true, and_false, or_false, false_or]

/-- `StatusRcHealthy` is where the firmware tells that output is enabled. -/
theorem hasStatus_statusRcHealthy (fw : Firmware) :
    hasStatus (ampBuildStatusFlags fw) statusRcHealthy = true ↔
      fw.motor.outputEnabled = true := by
  rw [hasStatus_ampBuildStatusFlags fw (by decide)]
  simp +decide only [and_true, and_false, or_false, false_or]

end Flags

section Branches

variable {F : Type} [FloatArith F]

/-- The motors after the branches: running without a reason for safety, or stopped. -/
theorem dispatchOutputs_motor (failsafe : Bool) (fw : Firmware) :
    (dispatchOutputs failsafe fw).motor.outputEnabled =
        (dispatchOutputs failsafe fw).motor.armed ∧
      ((dispatchOutputs failsafe fw).motor.armed = true →
        (dispatchOutputs failsafe fw).motor.safetyReason = motorSafeOk) := by
  unfold dispatchOutputs
  -- The first four branches force the motors safe.
  split_ifs with latched lost unready unarmed
  · exact ⟨rfl, fun armed => by cases armed⟩
  · exact ⟨rfl, fun armed => by cases armed⟩
  · exact ⟨rfl, fun armed => by cases armed⟩
  · exact ⟨rfl, fun armed => by cases armed⟩
  · obtain ⟨pwmUs, control, updated⟩ := motorUpdateControlOutputs_frame
      { fw with motor := { fw.motor with outputEnabled := true, safetyReason := motorSafeOk } }
    rw [updated]
    have armed : fw.motor.armed = true := by simpa using unarmed
    exact ⟨armed.symm, fun _ => rfl⟩

/-- The state in which a poll looks whether a report is due. -/
def beforeReport (rtos : RtosConfig) (fw : Firmware) (input : PollInput F) : Firmware :=
  (motorApplyOutputs rtos input.escTick (afterDispatch rtos fw input)).1

/-- What the branches of a poll leave for the report. -/
theorem beforeReport_motor (rtos : RtosConfig) (fw : Firmware) (input : PollInput F) :
    (beforeReport rtos fw input).motor.outputEnabled = (beforeReport rtos fw input).motor.armed ∧
      ((beforeReport rtos fw input).motor.armed = true →
        (beforeReport rtos fw input).motor.safetyReason = motorSafeOk ∧
        (beforeReport rtos fw input).sensing.sensors.sensorReady = true ∧
        (beforeReport rtos fw input).rc.valid = true) := by
  obtain ⟨pwm, applied⟩ :=
    motorApplyOutputs_frame rtos input.escTick (afterDispatch rtos fw input)
  unfold beforeReport
  rw [applied]
  simp only [afterDispatch]
  obtain ⟨enabled, ok⟩ := dispatchOutputs_motor
    (pollFailsafe rtos input.now (afterGate rtos fw input).reception) (afterGate rtos fw input)
  refine ⟨enabled, fun armed => ?_⟩
  have reason := ok armed
  -- The branches write neither sensors nor receiver, and armed motors were armed by the gate.
  rw [dispatchOutputs_armed] at armed
  simp only [Bool.and_eq_true] at armed
  obtain ⟨⟨-, ready⟩, gated⟩ := armed
  obtain ⟨motor, control, branched⟩ := dispatchOutputs_frame
    (pollFailsafe rtos input.now (afterGate rtos fw input).reception) (afterGate rtos fw input)
  refine ⟨reason, ?_, ?_⟩
  · rw [branched]
    exact ready
  · rw [branched]
    exact motorUpdateArmGate_valid gated

end Branches

section Numbers

variable {F : Type} [FloatArith F]

/-- Polling the region does not number reports. -/
theorem ampSharedRegionPollOnce_rtReportSeq (fw : Firmware) (memory : Memory F) :
    (ampSharedRegionPollOnce fw memory).shm.rtReportSeq = fw.shm.rtReportSeq := by
  have emergency : ∀ (shm : AmpShm) (slot : SharedSlot CommandEmergencyStop),
      (pollEmergency shm slot).rtReportSeq = shm.rtReportSeq := by
    intro shm slot
    unfold pollEmergency
    split <;> rfl
  have config : ∀ (fw : Firmware) (slot : SharedSlot (FlightConfig F)),
      (pollConfig fw slot).shm.rtReportSeq = fw.shm.rtReportSeq := by
    intro fw slot
    unfold pollConfig
    dsimp only
    split <;> rfl
  unfold ampSharedRegionPollOnce
  cases ampSharedRegionGet fw.shm memory with
  | none => rfl
  | some r =>
    cases marked : r.wellMarked with
    | false => simp [marked]
    | true =>
      simp only [marked, Bool.not_true, Bool.false_eq_true, if_false]
      rw [config]
      -- The safety branch in between leaves the bookkeeping alone.
      split
      · rw [motorForceSafe_shm]
        exact emergency _ _
      · exact emergency _ _

/-- Until the report is looked at, a poll does not number reports. -/
theorem beforeReport_rtReportSeq (rtos : RtosConfig) (fw : Firmware) (input : PollInput F) :
    (beforeReport rtos fw input).shm.rtReportSeq = fw.shm.rtReportSeq := by
  -- Every stage but the poll of the shared region leaves its variables alone.
  obtain ⟨pwm, applied⟩ :=
    motorApplyOutputs_frame rtos input.escTick (afterDispatch rtos fw input)
  obtain ⟨motor, control, branched⟩ := dispatchOutputs_frame
    (pollFailsafe rtos input.now (afterGate rtos fw input).reception) (afterGate rtos fw input)
  obtain ⟨rc, armed, gated⟩ := afterGate_frame rtos fw input
  obtain ⟨statics, sensing, stage3, gathered⟩ := gatherInputs_frame rtos fw input
  unfold beforeReport
  rw [applied]
  simp only [afterDispatch]
  rw [branched, gated]
  unfold beforeGate prepareGate
  rw [gathered]
  exact ampSharedRegionPollOnce_rtReportSeq _ _

/-- A report that is written bears the next number, and its flags tell of the state at that time. -/
theorem ampSharedRegionWriteRtReportOnce_spec (rtos : RtosConfig) (now : Nat) (fw : Firmware)
    (memory : Memory F) :
    match (ampSharedRegionWriteRtReportOnce rtos now fw memory).2 with
    | none => (ampSharedRegionWriteRtReportOnce rtos now fw memory).1 = fw
    | some slot =>
      (ampSharedRegionWriteRtReportOnce rtos now fw memory).1.shm.rtReportSeq =
          fw.shm.rtReportSeq + 1 ∧
        slot = ⟨fw.shm.rtReportSeq + 1,
          rtReportPayload rtos now (fw.shm.rtReportSeq + 1) (ampBuildStatusFlags fw) fw, 0⟩ := by
  unfold ampSharedRegionWriteRtReportOnce
  -- No region, no marks, and too early are the three reasons not to write.
  cases ampSharedRegionGet fw.shm memory with
  | none => rfl
  | some r =>
    dsimp only
    by_cases marked : (!r.wellMarked) = true
    · simp only [if_pos marked]
    · by_cases early : tickSub rtos now fw.shm.lastRtReportTick < pdMsToTicks rtos 20
      · simp only [if_neg marked, if_pos early]
      · simp only [if_neg marked, if_neg early, and_self]

variable (rtos : RtosConfig) (input : Nat → TaskInput F)

/-- The report that poll `n` writes, if it writes one. -/
def reportAt (n : Nat) : Option (SharedSlot (RtReport F)) :=
  (ibusProbePollOnce rtos (beforePoll rtos input n) (input n).toPollInput).2.report

/-- The number of reports that were written before poll `n`. -/
def reportsBefore : Nat → Nat
  | 0 => 0
  | n + 1 => reportsBefore n + if (reportAt rtos input n).isSome then 1 else 0

/-- The state in which poll `n` looks whether a report is due. -/
def reportState (n : Nat) : Firmware :=
  beforeReport rtos (beforePoll rtos input n) (input n).toPollInput

/-- A poll ends with the report, and with what the report leaves. -/
theorem ibusProbePollOnce_report (fw : Firmware) (input : PollInput F) :
    (afterPoll rtos fw input, (ibusProbePollOnce rtos fw input).2.report) =
      ampSharedRegionWriteRtReportOnce rtos input.reportTick (beforeReport rtos fw input)
        input.memory := by
  unfold afterPoll ibusProbePollOnce beforeReport
  generalize motorApplyOutputs rtos input.escTick (afterDispatch rtos fw input) = applied
  obtain ⟨fw, programmed⟩ := applied
  dsimp only

/-- The report of a poll is decided in the state after its outputs. -/
theorem reportAt_eq (n : Nat) : reportAt rtos input n =
    (ampSharedRegionWriteRtReportOnce rtos (input n).reportTick (reportState rtos input n)
      (input n).memory).2 :=
  congrArg Prod.snd (ibusProbePollOnce_report rtos (beforePoll rtos input n)
    (input n).toPollInput)

/-- A turn of the task keeps the number that the report left. -/
theorem beforePoll_succ_rtReportSeq (n : Nat) :
    (beforePoll rtos input (n + 1)).shm.rtReportSeq =
      (ampSharedRegionWriteRtReportOnce rtos (input n).reportTick (reportState rtos input n)
        (input n).memory).1.shm.rtReportSeq := by
  obtain ⟨phys, ready, turned⟩ := cmdQuRunTask_frame rtos (beforePoll rtos input n) (input n)
  have next : beforePoll rtos input (n + 1) =
      cmdQuRunTask rtos (beforePoll rtos input n) (input n) := stateAt_succ _ _ _ n
  have left : afterPoll rtos (beforePoll rtos input n) (input n).toPollInput =
      (ampSharedRegionWriteRtReportOnce rtos (input n).reportTick (reportState rtos input n)
        (input n).memory).1 :=
    congrArg Prod.fst (ibusProbePollOnce_report rtos (beforePoll rtos input n)
      (input n).toPollInput)
  -- What the task does after the poll does not report.
  rw [next, turned]
  dsimp only
  rw [left]

/-- The counter of the firmware is the number of its reports, up to wrapping. -/
theorem beforePoll_rtReportSeq (n : Nat) :
    (beforePoll rtos input n).shm.rtReportSeq = UInt32.ofNat (reportsBefore rtos input n) := by
  -- The induction is on the polls, each of which counts its own report.
  induction n with
  | zero => rfl
  | succ n ih =>
    have counter := beforeReport_rtReportSeq rtos (beforePoll rtos input n) (input n).toPollInput
    have written := ampSharedRegionWriteRtReportOnce_spec rtos (input n).reportTick
      (reportState rtos input n) (input n).memory
    rw [← reportAt_eq] at written
    rw [beforePoll_succ_rtReportSeq, reportsBefore]
    cases due : reportAt rtos input n with
    | none =>
      simp only [due] at written
      rw [written]
      exact counter.trans ih
    | some slot =>
      simp only [due] at written
      rw [written.1]
      calc (reportState rtos input n).shm.rtReportSeq + 1
          = UInt32.ofNat (reportsBefore rtos input n) + 1 := by
            rw [← ih]
            exact congrArg (· + 1) counter
        _ = UInt32.ofNat (reportsBefore rtos input n + 1) := by
            rw [UInt32.ofNat_add]
            rfl

end Numbers

section Rule

variable {F : Type} [FloatArith F]

/-- A slot that the shared protocol accepts, with flags that tell of the firmware's state. -/
structure ObeysProtocol (fw : Firmware) (slot : SharedSlot (RtReport F)) : Prop where
  verified : verifySlot slot = true
  armed : hasStatus slot.payload.statusFlags statusArmed = true ↔ fw.motor.armed = true
  failsafe : hasStatus slot.payload.statusFlags statusFailsafe = true ↔
    fw.motor.safetyReason = motorSafeFailsafe
  imuHealthy : hasStatus slot.payload.statusFlags statusImuHealthy = true ↔
    fw.sensing.sensors.sensorReady = true
  rcHealthy : hasStatus slot.payload.statusFlags statusRcHealthy = true ↔ fw.rc.valid = true

/--
Nothing to tell under the four flags, and a payload whose checksum is zero by accident.

The number is the one that the report is written under.
-/
structure NothingToReport (rtos : RtosConfig) (tick number : Nat) (fw : Firmware)
    (F : Type) [FloatArith F] : Prop where
  numbered : number % 2 ^ 32 ≠ 0
  checksum : payloadCrc (rtReportPayload rtos tick (UInt32.ofNat number)
    (ampBuildStatusFlags fw) fw : RtReport F) = 0
  rcInvalid : fw.rc.valid = false
  sensorsUnready : fw.sensing.sensors.sensorReady = false
  noFailsafe : fw.motor.safetyReason ≠ motorSafeFailsafe

/-- The number of a report is nonzero unless the counter wraps. -/
theorem ofNat_ne_zero_iff (number : Nat) : UInt32.ofNat number ≠ 0 ↔ number % 2 ^ 32 ≠ 0 := by
  rw [ne_eq, ne_eq, ← UInt32.toNat_inj, UInt32.toNat_ofNat']
  rfl

/-- A reader accepts a report by its number and by a checksum that is zero. -/
theorem verifySlot_report (rtos : RtosConfig) (tick number : Nat) (fw : Firmware) :
    verifySlot (⟨UInt32.ofNat number, rtReportPayload rtos tick (UInt32.ofNat number)
      (ampBuildStatusFlags fw) fw, 0⟩ : SharedSlot (RtReport F)) = true ↔
      number % 2 ^ 32 ≠ 0 ∧ payloadCrc (rtReportPayload rtos tick (UInt32.ofNat number)
        (ampBuildStatusFlags fw) fw : RtReport F) = 0 := by
  rw [← ofNat_ne_zero_iff]
  unfold verifySlot
  -- Number 0 stands for an empty slot.
  by_cases zero : UInt32.ofNat number = 0
  · simp [zero]
  · rw [if_neg zero, beq_iff_eq]
    exact ⟨fun checksum => ⟨zero, checksum.symm⟩, fun accepted => accepted.2.symm⟩

/-- Every report is numbered by its place, and a reader takes it rightly in that one case only. -/
theorem report_obeys_iff (rtos : RtosConfig) (input : Nat → TaskInput F) (n : Nat)
    {slot : SharedSlot (RtReport F)} (written : reportAt rtos input n = some slot) :
    (reportsBefore rtos input n + 1 < 2 ^ 32 → slot.seq ≠ 0) ∧
      (ObeysProtocol (reportState rtos input n) slot ↔
        NothingToReport rtos (input n).reportTick (reportsBefore rtos input n + 1)
          (reportState rtos input n) F) := by
  have number : (reportState rtos input n).shm.rtReportSeq + 1 =
      UInt32.ofNat (reportsBefore rtos input n + 1) := by
    have counter := beforeReport_rtReportSeq rtos (beforePoll rtos input n) (input n).toPollInput
    rw [beforePoll_rtReportSeq] at counter
    rw [reportState, counter, UInt32.ofNat_add]
    rfl
  have spec := ampSharedRegionWriteRtReportOnce_spec rtos (input n).reportTick
    (reportState rtos input n) (input n).memory
  rw [← reportAt_eq, written, number] at spec
  obtain ⟨-, rfl⟩ := spec
  obtain ⟨enabled, running⟩ :=
    beforeReport_motor rtos (beforePoll rtos input n) (input n).toPollInput
  rw [← reportState] at enabled running
  have verified := verifySlot_report rtos (input n).reportTick
    (reportsBefore rtos input n + 1) (reportState rtos input n) (F := F)
  constructor
  · intro early
    exact (ofNat_ne_zero_iff _).mpr (by omega)
  · constructor
    · intro obeys
      obtain ⟨numbered, checksum⟩ := verified.mp obeys.verified
      have armed := (hasStatus_statusArmed _).symm.trans obeys.armed
      have failsafe := (hasStatus_statusFailsafe _).symm.trans obeys.failsafe
      have healthy := (hasStatus_statusImuHealthy _).symm.trans obeys.imuHealthy
      -- Armed motors would have the failsafe flag set without that reason.
      have stopped : (reportState rtos input n).motor.armed = false := by
        by_contra runs
        rw [Bool.not_eq_false] at runs
        have reason := failsafe.mp (healthy.mp runs)
        rw [(running runs).1] at reason
        exact absurd reason (by decide)
      rw [stopped] at armed healthy
      have unready : (reportState rtos input n).sensing.sensors.sensorReady = false := by
        simpa using healthy
      refine ⟨numbered, checksum, by simpa using armed, unready, ?_⟩
      simpa [unready] using failsafe
    · intro silent
      have stopped : (reportState rtos input n).motor.armed = false := by
        by_contra runs
        rw [Bool.not_eq_false] at runs
        have ready := (running runs).2.1
        rw [silent.sensorsUnready] at ready
        cases ready
      rw [stopped] at enabled
      refine ⟨verified.mpr ⟨silent.numbered, silent.checksum⟩, ?_, ?_, ?_, ?_⟩
      · simp [hasStatus_statusArmed, rtReportPayload, silent.rcInvalid, stopped]
      · simp [hasStatus_statusFailsafe, rtReportPayload, silent.sensorsUnready, silent.noFailsafe]
      · simp [hasStatus_statusImuHealthy, rtReportPayload, silent.sensorsUnready, stopped]
      · simp [hasStatus_statusRcHealthy, rtReportPayload, silent.rcInvalid, enabled]

end Rule

section Bench

/-- A bench run whose region is announced in the first poll and reported to in the second. -/
def reportBench (n : Nat) : TaskInput ℚ :=
  benchPoll (60 * n + 60) (60 * n + 62) []
    (fun _ => { SharedCommandRegion.zeroed with
      magic := sharedRegionMagic, version := sharedRegionVersion })
    (if n = 0 then some ⟨0x20, 0x83F00000⟩ else none)

/-- The first report on the bench is numbered, and nothing to report is what would save it. -/
theorem report_obeys_iff_reportBench : ∃ slot, reportAt benchRtos reportBench 1 = some slot ∧
    slot.seq ≠ 0 ∧ (ObeysProtocol (reportState benchRtos reportBench 1) slot ↔
      NothingToReport benchRtos 122 1 (reportState benchRtos reportBench 1) ℚ) := by
  have written : (reportAt benchRtos reportBench 1).isSome = true := by decide +kernel
  obtain ⟨slot, found⟩ := Option.isSome_iff_exists.mp written
  -- It is the first report of the run.
  have first : reportsBefore benchRtos reportBench 1 = 0 := by decide +kernel
  have rule := report_obeys_iff benchRtos reportBench 1 found
  rw [first] at rule
  exact ⟨slot, found, rule.1 (by decide), rule.2⟩

/-- A reader refuses the first report, and would not see that the firmware is in failsafe. -/
theorem not_obeysProtocol_reportBench : ∃ slot, reportAt benchRtos reportBench 1 = some slot ∧
    (reportState benchRtos reportBench 1).motor.safetyReason = motorSafeFailsafe ∧
    ¬ ObeysProtocol (reportState benchRtos reportBench 1) slot := by
  have written : (reportAt benchRtos reportBench 1).isSome = true := by decide +kernel
  obtain ⟨slot, found⟩ := Option.isSome_iff_exists.mp written
  refine ⟨slot, found, by decide +kernel, fun obeys => ?_⟩
  -- The slot's checksum is 0, which the payload does not have.
  have refused : (reportAt benchRtos reportBench 1).any verifySlot = false := by decide +kernel
  rw [found, Option.any_some, obeys.verified] at refused
  cases refused

end Bench

end AmpFc.Firmware
