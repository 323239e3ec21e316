import AmpFc.Firmware.ArmGate
import AmpFc.Firmware.Control
import AmpFc.Firmware.Ibus
import AmpFc.Firmware.Pwm
import AmpFc.Firmware.Sensors
import AmpFc.Lib.Execution

/-! One poll of the firmware, the command task around it, and the runs the task produces. -/

namespace AmpFc.Firmware

variable {F : Type}

/-- Everything one poll learns from outside: ticks, bytes, bus replies, and memory. -/
structure PollInput (F : Type) where
  /-- The tick read when the poll starts. -/
  now : Nat
  /-- The bytes waiting, each with the tick that is read if it completes a frame. -/
  rx : List RxByte
  /-- The sensors on the bus. -/
  i2c : I2cDevices
  /-- The shared memory as the poll finds it. -/
  memory : Memory F
  /-- The tick read by `rc_update_freshness_once`. -/
  freshnessTick : Nat
  /-- The tick read by `esc_update_arm_delay_once`. -/
  escTick : Nat
  /-- The tick read before a report. -/
  reportTick : Nat

/-- What one poll does to the outside: programmed pulses, and a report if one is due. -/
structure PollOutput (F : Type) where
  programmed : List PwmConfiguration
  report : Option (SharedSlot (RtReport F))

/-- Work of the poll that is due every twenty milliseconds. -/
def slowWorkDue (rtos : RtosConfig) (now last : Nat) : Bool :=
  tickSub rtos now last ≥ pdMsToTicks rtos 20

/-- The local `failsafe` of the poll. -/
def pollFailsafe (rtos : RtosConfig) (now : Nat) (reception : Reception) : Bool :=
  -- A frame counts from the start of the poll in which it was accepted.
  reception.goodFrames == 0 || tickSub rtos now reception.lastFrameTick > pdMsToTicks rtos 300

/-- The receiver variables as the poll sets them from the last frame, or neutral. -/
def readSticks (failsafe : Bool) (reception : Reception) (rc : Rc) : Rc :=
  -- Stale channels are never shown: without a live link every stick is neutral.
  if !failsafe && reception.goodFrames > 0 then
    { rc with
      valid := true
      ch0Us := (reception.ch.us 0).toNat
      ch1Us := (reception.ch.us 1).toNat
      throttleUs := (reception.ch.us 2).toNat
      ch3Us := (reception.ch.us 3).toNat
      armSwitch := (reception.ch.us 5).toNat > rcArmSwitchThresholdUs }
  else
    { rc with
      valid := false
      ch0Us := 1500
      ch1Us := 1500
      throttleUs := 1000
      ch3Us := 1500
      armSwitch := false }

/-- The poll up to the failsafe test: reception, the sensor probe, and the stage-3 hook. -/
def gatherInputs (rtos : RtosConfig) (fw : Firmware) (input : PollInput F) : Firmware :=
  let fw := { fw with reception := receiveBytes input.now fw.reception input.rx }
  let fw :=
    -- The probe and the hook are paced by the tick of their last run.
    if slowWorkDue rtos input.now fw.statics.lastI2cTick then
      { fw with
        sensing := (ampI2cProbeOnce fw.sensing ⟨input.i2c, []⟩).1
        statics := { fw.statics with lastI2cTick := input.now } }
    else fw
  if slowWorkDue rtos input.now fw.statics.lastStage3Tick then
    { fw with
      stage3 := stage3FlightNodeStepLegacyFallback fw.stage3
      statics := { fw.statics with lastStage3Tick := input.now } }
  else fw

/-- Before the failsafe test a poll writes only reception, sensing, and its own pacing. -/
theorem gatherInputs_frame (rtos : RtosConfig) (fw : Firmware) (input : PollInput F) :
    ∃ statics sensing stage3, gatherInputs rtos fw input =
      { fw with
        reception := receiveBytes input.now fw.reception input.rx
        statics := statics, sensing := sensing, stage3 := stage3 } := by
  -- Each of the two pieces of slow work runs or is left out.
  unfold gatherInputs
  simp only
  split_ifs
  · exact ⟨_, _, _, rfl⟩
  · exact ⟨_, _, fw.stage3, rfl⟩
  · exact ⟨_, fw.sensing, _, rfl⟩
  · exact ⟨fw.statics, fw.sensing, fw.stage3, rfl⟩

/-- The bytes of a poll are received before anything else. -/
@[simp] theorem gatherInputs_reception (rtos : RtosConfig) (fw : Firmware) (input : PollInput F) :
    (gatherInputs rtos fw input).reception = receiveBytes input.now fw.reception input.rx := by
  obtain ⟨statics, sensing, stage3, gathered⟩ := gatherInputs_frame rtos fw input
  rw [gathered]

variable [FloatArith F]

/-- The poll from the failsafe test up to the gate: sticks, shared region, and setpoint. -/
def prepareGate (rtos : RtosConfig) (fw : Firmware) (input : PollInput F) : Firmware :=
  let failsafe := pollFailsafe rtos input.now fw.reception
  let fw := { fw with rc := readSticks failsafe fw.reception fw.rc }
  let fw := ampSharedRegionPollOnce fw input.memory
  { fw with control := controlUpdateSetpointOnce fw.rc fw.config fw.control }

/-- The state in which a poll enters `motor_update_arm_gate`. -/
def beforeGate (rtos : RtosConfig) (fw : Firmware) (input : PollInput F) : Firmware :=
  prepareGate rtos (gatherInputs rtos fw input) input

/-- The state in which `motor_update_arm_gate` returns. -/
def afterGate (rtos : RtosConfig) (fw : Firmware) (input : PollInput F) : Firmware :=
  motorUpdateArmGate rtos input.freshnessTick (beforeGate rtos fw input)

/-- The branches that follow the gate: the first reason for safety wins. -/
def dispatchOutputs (failsafe : Bool) (fw : Firmware) : Firmware :=
  -- The order decides which safety reason is reported.
  if fw.shm.emergencyStopLatched then motorForceSafe fw motorSafeFailsafe
  else if failsafe then motorForceSafe fw motorSafeFailsafe
  else if !fw.sensing.sensors.sensorReady then motorForceSafe fw motorSafeSensorNotRdy
  else if !fw.motor.armed then motorForceSafe fw motorSafeNotArmed
  else
    motorUpdateControlOutputs
      { fw with motor := { fw.motor with outputEnabled := true, safetyReason := motorSafeOk } }

/-- The state after the branches that follow the gate. -/
def afterDispatch (rtos : RtosConfig) (fw : Firmware) (input : PollInput F) : Firmware :=
  let fw := afterGate rtos fw input
  dispatchOutputs (pollFailsafe rtos input.now fw.reception) fw

/-- `ibus_probe_poll_once`. -/
def ibusProbePollOnce (rtos : RtosConfig) (fw : Firmware) (input : PollInput F) :
    Firmware × PollOutput F :=
  -- The debug copy at the end of the poll is written and never read.
  match motorApplyOutputs rtos input.escTick (afterDispatch rtos fw input) with
  | (fw, programmed) =>
    match ampSharedRegionWriteRtReportOnce rtos input.reportTick fw input.memory with
    | (fw, report) => (fw, ⟨programmed, report⟩)

/-- A message of the mailbox queue, as far as the task looks at it. -/
structure CmdquMessage where
  cmdId : UInt8
  paramPtr : UInt32
  deriving DecidableEq, Repr

/-- What a message changes in the firmware's own state. -/
def handleMessage (fw : Firmware) (message : CmdquMessage) : Firmware :=
  -- Every other identifier is at most acknowledged.
  if message.cmdId = FlightCmdId.initSharedMemory.toByte then
    { fw with shm := { fw.shm with shmPhys := message.paramPtr, shmReady := true } }
  else fw

/-- One turn of the command task: a poll, preceded by a message or by a receive timeout. -/
structure TaskInput (F : Type) extends PollInput F where
  message : Option CmdquMessage

/-- The state after a poll. -/
def afterPoll (rtos : RtosConfig) (fw : Firmware) (input : PollInput F) : Firmware :=
  (ibusProbePollOnce rtos fw input).1

/-- The configurations a poll programs. -/
def programmed (rtos : RtosConfig) (fw : Firmware) (input : PollInput F) :
    List PwmConfiguration :=
  (ibusProbePollOnce rtos fw input).2.programmed

/-- One turn of `prvCmdQuRunTask`: the poll comes before the message is looked at. -/
def cmdQuRunTask (rtos : RtosConfig) (fw : Firmware) (input : TaskInput F) : Firmware :=
  match input.message with
  | none => afterPoll rtos fw input.toPollInput
  | some message => handleMessage (afterPoll rtos fw input.toPollInput) message

/-- The state in which poll `n` starts, in the run from boot over these inputs. -/
def beforePoll (rtos : RtosConfig) (input : Nat → TaskInput F) (n : Nat) : Firmware :=
  stateAt (cmdQuRunTask rtos) boot input n

/-- Up to poll `n` the tick counter never goes back, within a poll or across, and does not wrap. -/
structure WellTimed (rtos : RtosConfig) (input : Nat → TaskInput F) (n : Nat) : Prop where
  received : ∀ k ≤ n, ∀ rx ∈ (input k).rx, (input k).now ≤ rx.reading ∧
    rx.reading ≤ (input k).freshnessTick
  started : ∀ k ≤ n, (input k).now ≤ (input k).freshnessTick
  checked : ∀ k ≤ n, (input k).freshnessTick ≤ (input k).escTick
  reported : ∀ k ≤ n, (input k).escTick ≤ (input k).reportTick
  next : ∀ k < n, (input k).reportTick ≤ (input (k + 1)).now
  fits : (input n).reportTick < 2 ^ rtos.tickBits

section Frame

variable (rtos : RtosConfig) (fw : Firmware) (input : PollInput F)

/-- The failsafe test of a poll, on what its bytes brought. -/
def failsafeOf : Bool :=
  pollFailsafe rtos input.now (receiveBytes input.now fw.reception input.rx)

/-- The sticks as the gate finds them. -/
def sticksOf : Rc :=
  readSticks (failsafeOf rtos fw input) (receiveBytes input.now fw.reception input.rx) fw.rc

/-- What a poll has decided by the time it enters the gate. -/
theorem beforeGate_frame : ∃ statics stage3 motor control config shm,
    beforeGate rtos fw input =
      { fw with
        reception := receiveBytes input.now fw.reception input.rx
        sensing := (gatherInputs rtos fw input).sensing
        rc := sticksOf rtos fw input
        statics := statics, stage3 := stage3, motor := motor, control := control
        config := config, shm := shm } ∧
      SameLink (linkAfter fw input.memory) shm := by
  obtain ⟨statics, sensing, stage3, gathered⟩ := gatherInputs_frame rtos fw input
  unfold beforeGate prepareGate
  rw [gathered]
  -- The region is polled in a state that differs from the start only outside its bookkeeping.
  obtain ⟨motor, control, config, shm, polled, link⟩ := ampSharedRegionPollOnce_frame
    { fw with
      reception := receiveBytes input.now fw.reception input.rx
      statics := statics, sensing := sensing, stage3 := stage3
      rc := sticksOf rtos fw input } input.memory
  refine ⟨statics, stage3, motor,
    controlUpdateSetpointOnce (sticksOf rtos fw input) config control, config, shm, ?_, link⟩
  simp only [sticksOf, failsafeOf] at polled ⊢
  rw [polled]

/-- Up to the gate the reception is what these bytes made of it, -/
@[simp] theorem beforeGate_reception :
    (beforeGate rtos fw input).reception = receiveBytes input.now fw.reception input.rx := by
  obtain ⟨_, _, _, _, _, _, entered, _⟩ := beforeGate_frame rtos fw input
  rw [entered]

/-- the sticks are those of the poll, -/
@[simp] theorem beforeGate_rc : (beforeGate rtos fw input).rc = sticksOf rtos fw input := by
  obtain ⟨_, _, _, _, _, _, entered, _⟩ := beforeGate_frame rtos fw input
  rw [entered]

/-- the sensors are as they were gathered, -/
@[simp] theorem beforeGate_sensing :
    (beforeGate rtos fw input).sensing = (gatherInputs rtos fw input).sensing := by
  obtain ⟨_, _, _, _, _, _, entered, _⟩ := beforeGate_frame rtos fw input
  rw [entered]

/-- and the controllers' delay is as it was. -/
@[simp] theorem beforeGate_esc : (beforeGate rtos fw input).esc = fw.esc := by
  obtain ⟨_, _, _, _, _, _, entered, _⟩ := beforeGate_frame rtos fw input
  rw [entered]

/-- The emergency latch has its final value for this poll before the gate. -/
theorem beforeGate_link : SameLink (linkAfter fw input.memory) (beforeGate rtos fw input).shm := by
  obtain ⟨_, _, _, _, _, _, entered, link⟩ := beforeGate_frame rtos fw input
  rw [entered]
  exact link

/-- The gate leaves everything but receiver variables and the armed flag. -/
theorem afterGate_frame : ∃ rc armed, afterGate rtos fw input =
    { beforeGate rtos fw input with
      rc := rc, motor := { (beforeGate rtos fw input).motor with armed := armed } } := by
  -- The gate is its equation over the state left by the freshness check.
  unfold afterGate
  rw [motorUpdateArmGate_eq]
  obtain ⟨rc, armed, checked⟩ :=
    gateInput_frame rtos input.freshnessTick (beforeGate rtos fw input)
  rw [checked]
  exact ⟨_, _, rfl⟩

/-- The branches after the gate write only motor and control variables. -/
theorem dispatchOutputs_frame (failsafe : Bool) (fw : Firmware) :
    ∃ motor control,
      dispatchOutputs failsafe fw = { fw with motor := motor, control := control } := by
  -- Each branch is a forced safe state or the control path.
  unfold dispatchOutputs
  split_ifs
  · exact motorForceSafe_frame fw _
  · exact motorForceSafe_frame fw _
  · exact motorForceSafe_frame fw _
  · exact motorForceSafe_frame fw _
  · obtain ⟨pwmUs, control, updated⟩ := motorUpdateControlOutputs_frame
      { fw with motor := { fw.motor with outputEnabled := true, safetyReason := motorSafeOk } }
    exact ⟨_, _, updated⟩

/-- Motors stay armed after the gate only if no branch for safety was taken. -/
theorem dispatchOutputs_armed (failsafe : Bool) (fw : Firmware) :
    (dispatchOutputs failsafe fw).motor.armed =
      (!fw.shm.emergencyStopLatched && !failsafe && fw.sensing.sensors.sensorReady &&
        fw.motor.armed) := by
  -- The four branches for safety disarm, and the last one does not touch the flag.
  unfold dispatchOutputs
  split_ifs with latched lost unready unarmed
  · simp [latched]
  · simp [latched, lost]
  · have notReady : fw.sensing.sensors.sensorReady = false := by simpa using unready
    simp [notReady]
  · have notArmed : fw.motor.armed = false := by simpa using unarmed
    simp [notArmed]
  · obtain ⟨pwmUs, control, updated⟩ := motorUpdateControlOutputs_frame
      { fw with motor := { fw.motor with outputEnabled := true, safetyReason := motorSafeOk } }
    rw [updated]
    simp only [Bool.not_eq_true, Bool.not_eq_false'] at latched lost unready unarmed
    simp [latched, lost, unready, unarmed]

/-- What a poll still writes after its branches: delay, backend, and report bookkeeping. -/
theorem afterPoll_frame : ∃ pwm shm, afterPoll rtos fw input =
    { afterDispatch rtos fw input with
      esc := escUpdateArmDelayOnce rtos input.escTick fw.esc, pwm := pwm, shm := shm } ∧
      SameLink (linkAfter fw input.memory) shm := by
  unfold afterPoll ibusProbePollOnce
  obtain ⟨pwm, applied⟩ :=
    motorApplyOutputs_frame rtos input.escTick (afterDispatch rtos fw input)
  obtain ⟨shm, reported, same⟩ := ampSharedRegionWriteRtReportOnce_frame rtos input.reportTick
    (motorApplyOutputs rtos input.escTick (afterDispatch rtos fw input)).1 input.memory
  obtain ⟨rc, armed, gated⟩ := afterGate_frame rtos fw input
  obtain ⟨motor, control, branched⟩ := dispatchOutputs_frame
    (pollFailsafe rtos input.now (afterGate rtos fw input).reception) (afterGate rtos fw input)
  -- Neither the gate nor the branches touch the delay or the bookkeeping.
  have kept : (afterDispatch rtos fw input).esc = fw.esc ∧
      (afterDispatch rtos fw input).shm = (beforeGate rtos fw input).shm := by
    simp only [afterDispatch]
    rw [branched, gated]
    exact ⟨beforeGate_esc rtos fw input, rfl⟩
  refine ⟨pwm, shm, ?_, ?_⟩
  · rw [reported, applied, kept.1]
  · rw [applied] at same
    simp only [kept.2] at same
    have link := beforeGate_link rtos fw input
    exact ⟨same.1.trans link.1, same.2.1.trans link.2.1, same.2.2.1.trans link.2.2.1,
      same.2.2.2.trans link.2.2.2⟩

/-- A poll ends with the receiver variables the gate left. -/
theorem afterPoll_rc : (afterPoll rtos fw input).rc = (afterGate rtos fw input).rc := by
  obtain ⟨pwm, shm, ended, _⟩ := afterPoll_frame rtos fw input
  obtain ⟨motor, control, branched⟩ := dispatchOutputs_frame
    (pollFailsafe rtos input.now (afterGate rtos fw input).reception) (afterGate rtos fw input)
  -- Neither the branches nor the outputs write a receiver variable.
  rw [ended]
  simp only [afterDispatch]
  rw [branched]

/-- The gate does not receive anything, -/
@[simp] theorem afterGate_reception :
    (afterGate rtos fw input).reception = receiveBytes input.now fw.reception input.rx := by
  obtain ⟨rc, armed, gated⟩ := afterGate_frame rtos fw input
  rw [gated]
  exact beforeGate_reception rtos fw input

/-- and does not touch the sensors. -/
@[simp] theorem afterGate_sensing :
    (afterGate rtos fw input).sensing = (gatherInputs rtos fw input).sensing := by
  obtain ⟨rc, armed, gated⟩ := afterGate_frame rtos fw input
  rw [gated]
  exact beforeGate_sensing rtos fw input

/-- After the gate the emergency latch is still the one the region decided. -/
theorem afterGate_link : SameLink (linkAfter fw input.memory) (afterGate rtos fw input).shm := by
  obtain ⟨rc, armed, gated⟩ := afterGate_frame rtos fw input
  rw [gated]
  exact beforeGate_link rtos fw input

/-- After the poll the reception is still the same, -/
@[simp] theorem afterPoll_reception :
    (afterPoll rtos fw input).reception = receiveBytes input.now fw.reception input.rx := by
  obtain ⟨pwm, shm, ended, _⟩ := afterPoll_frame rtos fw input
  obtain ⟨motor, control, branched⟩ := dispatchOutputs_frame
    (pollFailsafe rtos input.now (afterGate rtos fw input).reception) (afterGate rtos fw input)
  -- Only the bytes move the reception; the later parts leave it.
  rw [ended]
  simp only [afterDispatch]
  rw [branched]
  exact afterGate_reception rtos fw input

/-- the sensors too, -/
@[simp] theorem afterPoll_sensing :
    (afterPoll rtos fw input).sensing = (gatherInputs rtos fw input).sensing := by
  obtain ⟨pwm, shm, ended, _⟩ := afterPoll_frame rtos fw input
  obtain ⟨motor, control, branched⟩ := dispatchOutputs_frame
    (pollFailsafe rtos input.now (afterGate rtos fw input).reception) (afterGate rtos fw input)
  -- The probe comes before the gate, and nothing after it touches the sensors.
  rw [ended]
  simp only [afterDispatch]
  rw [branched]
  exact afterGate_sensing rtos fw input

/-- and the controllers' delay has gone on by one poll. -/
@[simp] theorem afterPoll_esc :
    (afterPoll rtos fw input).esc = escUpdateArmDelayOnce rtos input.escTick fw.esc := by
  obtain ⟨pwm, shm, ended, _⟩ := afterPoll_frame rtos fw input
  rw [ended]

/-- A poll ends with the emergency latch the region decided. -/
theorem afterPoll_link : SameLink (linkAfter fw input.memory) (afterPoll rtos fw input).shm := by
  obtain ⟨pwm, shm, ended, link⟩ := afterPoll_frame rtos fw input
  rw [ended]
  exact link

/-- Motors end a poll armed exactly if the gate armed them and nothing demanded safety. -/
theorem afterPoll_armed : (afterPoll rtos fw input).motor.armed =
    (!(linkAfter fw input.memory).emergencyStopLatched && !failsafeOf rtos fw input &&
      (gatherInputs rtos fw input).sensing.sensors.sensorReady &&
      (afterGate rtos fw input).motor.armed) := by
  obtain ⟨pwm, shm, ended, _⟩ := afterPoll_frame rtos fw input
  -- What the branches decide is not touched by outputs and report.
  rw [ended]
  simp only [afterDispatch]
  rw [dispatchOutputs_armed, (afterGate_link rtos fw input).1, afterGate_reception,
    afterGate_sensing, failsafeOf]

/-- Every programmed pulse is a limited pulse of some motor, in the state after the branches. -/
theorem programmed_pulse {rtos : RtosConfig} {fw : Firmware} {input : PollInput F}
    {cfg : PwmConfiguration} (member : cfg ∈ programmed rtos fw input) :
    ∃ us, cfg.pulse = limitedPulseUs (afterDispatch rtos fw input).motor
      (escUpdateArmDelayOnce rtos input.escTick fw.esc) us * pwmNsPerUs := by
  obtain ⟨pwm, shm, ended, _⟩ := afterPoll_frame rtos fw input
  -- The delay is updated from what the poll found, as nothing before the outputs writes it.
  have kept : (afterDispatch rtos fw input).esc = fw.esc := by
    obtain ⟨rc, armed, gated⟩ := afterGate_frame rtos fw input
    obtain ⟨motor, control, branched⟩ := dispatchOutputs_frame
      (pollFailsafe rtos input.now (afterGate rtos fw input).reception) (afterGate rtos fw input)
    simp only [afterDispatch]
    rw [branched, gated]
    exact beforeGate_esc rtos fw input
  obtain ⟨i, pulse⟩ := motorApplyOutputs_pulse (member : cfg ∈
    (motorApplyOutputs rtos input.escTick (afterDispatch rtos fw input)).2)
  rw [kept] at pulse
  exact ⟨_, pulse⟩

/-- Whatever the message, a turn of the task ends with the poll's state but for the address. -/
theorem cmdQuRunTask_frame (input : TaskInput F) :
    ∃ phys ready, cmdQuRunTask rtos fw input =
      { afterPoll rtos fw input.toPollInput with
        shm := { (afterPoll rtos fw input.toPollInput).shm with
          shmPhys := phys, shmReady := ready } } := by
  -- Only the message that announces a region changes anything at all.
  unfold cmdQuRunTask
  cases input.message with
  | none => exact ⟨_, _, rfl⟩
  | some message =>
    simp only [handleMessage]
    split
    · exact ⟨_, _, rfl⟩
    · exact ⟨_, _, rfl⟩

end Frame

section Bench

/-- A level vehicle on the bench: both sensors answer, and every axis reads zero. -/
def benchDevices : I2cDevices := fun _ transfer =>
  -- The identification bytes are the ones the probe asks for.
  match transfer with
  | .readReg dev reg =>
    if dev = hmc5883lAddr then
      .ack [if reg = 0x0A then 0x48 else if reg = 0x0B then 0x34 else 0x33]
    else if dev = mpu6050Addr0 then .ack [0x68]
    else .nack .device
  | .writeReg _ _ _ => .ack []
  | .readRegs _ _ len => .ack (List.replicate len 0)

/-- A frame with centred sticks, a throttle, and a position of the arm switch. -/
def benchFrame (throttle switch : UInt16) : List UInt8 :=
  encodeIbusFrame (((Vector.replicate 14 1500).setIfInBounds 2 throttle).setIfInBounds 5 switch)

/-- A poll on the bench that starts at one tick and reads all later ticks at another. -/
def benchPoll (tick sampled : Nat) (rx : List UInt8) (memory : Memory F)
    (message : Option CmdquMessage) : TaskInput F where
  now := tick
  rx := rx.map fun byte => ⟨byte, sampled⟩
  i2c := benchDevices
  memory := memory
  freshnessTick := sampled
  escTick := sampled
  reportTick := sampled
  message := message

omit [FloatArith F] in
/-- Bench polls are well timed when their ticks are in order and fit the counter. -/
theorem benchPoll_timed {rtos : RtosConfig} {tick sampled : Nat → Nat} {rx : Nat → List UInt8}
    {memory : Nat → Memory F} {message : Nat → Option CmdquMessage} {n : Nat}
    (within : ∀ k ≤ n, tick k ≤ sampled k) (across : ∀ k < n, sampled k ≤ tick (k + 1))
    (fits : sampled n < 2 ^ rtos.tickBits) :
    WellTimed rtos (fun k => benchPoll (tick k) (sampled k) (rx k) (memory k) (message k)) n where
  received k below rx member := by
    simp only [benchPoll, List.mem_map] at member
    obtain ⟨byte, -, rfl⟩ := member
    exact ⟨within k below, le_rfl⟩
  started := within
  checked k below := le_rfl
  reported k below := le_rfl
  next := across
  fits := fits

/-- A kernel that ticks once a millisecond. -/
def benchRtos : RtosConfig := ⟨1000, 32, by decide, by decide⟩

end Bench

end AmpFc.Firmware
