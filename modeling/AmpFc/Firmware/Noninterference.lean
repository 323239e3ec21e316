import AmpFc.Firmware.Poll

/-! What the arm, setpoint, and heartbeat slots reach in the firmware: two notes, nothing else. -/

namespace AmpFc.Firmware

/-- The same state with other notes about the arm and the setpoint slot. -/
def noted (fw : Firmware) (arm setpoint : UInt32) : Firmware :=
  { fw with shm := { fw.shm with lastArmSeq := arm, lastSetpointSeq := setpoint } }

/-- Two states that differ at most in what was noted about the arm and the setpoint slot. -/
def SameButNotes (left right : Firmware) : Prop :=
  -- Every other variable of the firmware image is the same in both.
  ∃ arm setpoint, right = left.noted arm setpoint

/-- Two regions that agree on everything but the arm, setpoint, heartbeat, and report slots. -/
structure SameInfluence {F : Type} (left right : SharedCommandRegion F) : Prop where
  magic : left.magic = right.magic
  version : left.version = right.version
  emergencyStop : left.emergencyStop = right.emergencyStop
  config : left.config = right.config

/-- The same turn of the task over another memory. -/
def TaskInput.over {F : Type} (input : TaskInput F) (memory : Memory F) : TaskInput F :=
  { input with memory := memory }

/-- Regions of the same influence carry the marks together or not at all. -/
theorem SameInfluence.wellMarked {F : Type} {left right : SharedCommandRegion F}
    (same : SameInfluence left right) : left.wellMarked = right.wellMarked := by
  simp only [SharedCommandRegion.wellMarked, same.magic, same.version]

section Stages

variable {F : Type} (rtos : RtosConfig) (fw : Firmware) (arm setpoint : UInt32)

/-- Notes about commands are no part of the receiver, -/
@[simp] theorem noted_rc : (fw.noted arm setpoint).rc = fw.rc := rfl

/-- of the motor variables, -/
@[simp] theorem noted_motor : (fw.noted arm setpoint).motor = fw.motor := rfl

/-- of the sensors, -/
@[simp] theorem noted_sensing : (fw.noted arm setpoint).sensing = fw.sensing := rfl

/-- or of the emergency latch. -/
@[simp] theorem noted_latched : (fw.noted arm setpoint).shm.emergencyStopLatched =
    fw.shm.emergencyStopLatched := rfl

/-- Gathering the inputs takes no notice of the notes, -/
theorem gatherInputs_noted (input : PollInput F) :
    gatherInputs rtos (fw.noted arm setpoint) input =
      (gatherInputs rtos fw input).noted arm setpoint := by
  -- What is due is decided by the clock and the pacing variables.
  cases probe : slowWorkDue rtos input.now fw.statics.lastI2cTick with
  | true =>
    cases hook : slowWorkDue rtos input.now fw.statics.lastStage3Tick with
    | true => simp [gatherInputs, noted, probe, hook]
    | false => simp [gatherInputs, noted, probe, hook]
  | false =>
    cases hook : slowWorkDue rtos input.now fw.statics.lastStage3Tick with
    | true => simp [gatherInputs, noted, probe, hook]
    | false => simp [gatherInputs, noted, probe, hook]

/-- nor does forcing the motors safe, -/
theorem motorForceSafe_noted (reason : UInt32) :
    motorForceSafe (fw.noted arm setpoint) reason =
      (motorForceSafe fw reason).noted arm setpoint := rfl

/-- what the gate looks at, -/
theorem gateInput_noted (now : Nat) :
    gateInput rtos now (fw.noted arm setpoint) = (gateInput rtos now fw).noted arm setpoint := by
  by_cases silent : fw.reception.rcLastFrameTick = 0
  · simp [gateInput, rcUpdateFreshnessOnce, noted, silent]
  · by_cases stale : elapsedMs rtos now fw.reception.rcLastFrameTick > rcLostTimeoutMs
    · simp [gateInput, rcUpdateFreshnessOnce, noted, silent, stale]
    · simp [gateInput, rcUpdateFreshnessOnce, noted, silent, stale]

/-- the gate itself, -/
theorem motorUpdateArmGate_noted (now : Nat) :
    motorUpdateArmGate rtos now (fw.noted arm setpoint) =
      (motorUpdateArmGate rtos now fw).noted arm setpoint := by
  rw [motorUpdateArmGate_eq, motorUpdateArmGate_eq, gateInput_noted]
  rfl

/-- the motor outputs, -/
theorem motorUpdateControlOutputs_noted :
    motorUpdateControlOutputs (fw.noted arm setpoint) =
      (motorUpdateControlOutputs fw).noted arm setpoint := by
  cases off : !fw.motor.armed || !fw.motor.outputEnabled with
  | true => simp [motorUpdateControlOutputs, noted, off]
  | false =>
    cases blind : !fw.rc.valid || !fw.sensing.sensors.sensorReady with
    | true => simp [motorUpdateControlOutputs, noted, off, blind]
    | false =>
      -- The control path reads the sticks, the sensing and the tuning.
      simp only [motorUpdateControlOutputs, noted, off, blind, Bool.false_eq_true, if_false]
      rfl

/-- the choice between them and the safe ones, -/
theorem dispatchOutputs_noted (failsafe : Bool) :
    dispatchOutputs failsafe (fw.noted arm setpoint) =
      (dispatchOutputs failsafe fw).noted arm setpoint := by
  -- The branch depends on the latch, the link, the sensors, and the armed flag.
  unfold dispatchOutputs
  simp only [noted_latched, noted_sensing, noted_motor, motorForceSafe_noted]
  rw [apply_ite (noted · arm setpoint), apply_ite (noted · arm setpoint),
    apply_ite (noted · arm setpoint), apply_ite (noted · arm setpoint)]
  rw [← motorUpdateControlOutputs_noted]
  rfl

/-- the pulses that are programmed, -/
theorem motorApplyOutputs_noted (now : Nat) :
    motorApplyOutputs rtos now (fw.noted arm setpoint) =
      ((motorApplyOutputs rtos now fw).1.noted arm setpoint,
        (motorApplyOutputs rtos now fw).2) := by
  -- The write loop reads the motors and the speed controllers, which are the same in both.
  unfold motorApplyOutputs noted
  rfl

end Stages

section Region

variable {F : Type} [FloatArith F] (fw : Firmware) (arm setpoint : UInt32)

omit [FloatArith F] in
/-- the way to the region, -/
theorem ampSharedRegionGet_noted (memory : Memory F) :
    ampSharedRegionGet (fw.noted arm setpoint).shm memory = ampSharedRegionGet fw.shm memory := rfl

omit [FloatArith F] in
/-- Both memories show a region or neither does, and the two regions agree on what is obeyed. -/
theorem ampSharedRegionGet_same {memory memory' : Memory F}
    (same : ∀ address, SameInfluence (memory address) (memory' address)) :
    (ampSharedRegionGet fw.shm memory = none ∧ ampSharedRegionGet fw.shm memory' = none) ∨
      ∃ r r', ampSharedRegionGet fw.shm memory = some r ∧
        ampSharedRegionGet fw.shm memory' = some r' ∧ SameInfluence r r' := by
  unfold ampSharedRegionGet
  split
  · exact .inl ⟨rfl, rfl⟩
  · exact .inr ⟨_, _, rfl, rfl, same fw.shm.shmPhys⟩

/-- the poll of its configuration slot, -/
theorem pollConfig_noted (slot : SharedSlot (FlightConfig F)) :
    pollConfig (fw.noted arm setpoint) slot = (pollConfig fw slot).noted arm setpoint := by
  unfold pollConfig
  rw [apply_ite (noted · arm setpoint)]
  rfl

/-- The emergency branch of a poll, with the safe state that a set latch forces. -/
def obeyEmergency (slot : SharedSlot CommandEmergencyStop) : Firmware :=
  let fw := { fw with shm := pollEmergency fw.shm slot }
  if fw.shm.emergencyStopLatched then motorForceSafe fw motorSafeFailsafe else fw

omit [FloatArith F] in
/-- or the poll of its emergency slot. -/
theorem obeyEmergency_noted (slot : SharedSlot CommandEmergencyStop) :
    obeyEmergency (fw.noted arm setpoint) slot = (obeyEmergency fw slot).noted arm setpoint := by
  -- The latch is decided by numbers that are the same on both sides.
  have heard : { fw.noted arm setpoint with
        shm := pollEmergency (fw.noted arm setpoint).shm slot } =
      ({ fw with shm := pollEmergency fw.shm slot } : Firmware).noted arm setpoint := by
    by_cases seen : slot.seq = fw.shm.lastEmergencySeq
    · simp [pollEmergency, noted, seen]
    · simp [pollEmergency, noted, seen]
  unfold obeyEmergency
  rw [heard, apply_ite (noted · arm setpoint)]
  rfl

/-- In a marked region a poll obeys the emergency slot and the configuration, and notes the rest. -/
theorem ampSharedRegionPollOnce_marked {memory : Memory F} {r : SharedCommandRegion F}
    (found : ampSharedRegionGet fw.shm memory = some r) (marked : r.wellMarked = true) :
    ampSharedRegionPollOnce fw memory =
      (pollConfig (obeyEmergency
        { fw with shm := { fw.shm with pollCount := fw.shm.pollCount + 1 } }
        r.emergencyStop) r.config).noted r.arm.seq r.setpoint.seq := by
  unfold ampSharedRegionPollOnce
  rw [found]
  simp only [marked, Bool.not_true, Bool.false_eq_true, if_false]
  rfl

/-- A poll of the region overwrites the notes, and lets nothing else of those slots through. -/
theorem ampSharedRegionPollOnce_noted {memory memory' : Memory F}
    (same : ∀ address, SameInfluence (memory address) (memory' address)) :
    SameButNotes (ampSharedRegionPollOnce fw memory)
      (ampSharedRegionPollOnce (fw.noted arm setpoint) memory') := by
  rcases ampSharedRegionGet_same fw same with ⟨none, none'⟩ | ⟨r, r', found, found', agree⟩
  · rw [← ampSharedRegionGet_noted fw arm setpoint] at none'
    exact ⟨arm, setpoint, by simp only [ampSharedRegionPollOnce, none, none']⟩
  · rw [← ampSharedRegionGet_noted fw arm setpoint] at found'
    cases marked : r.wellMarked with
    | false =>
      -- A region without marks is counted and not looked at any further.
      have marked' := agree.wellMarked.symm.trans marked
      refine ⟨arm, setpoint, ?_⟩
      simp only [ampSharedRegionPollOnce, found, found', marked, marked', Bool.not_false, if_true]
      rfl
    | true =>
      have marked' := agree.wellMarked.symm.trans marked
      rw [ampSharedRegionPollOnce_marked fw found marked,
        ampSharedRegionPollOnce_marked _ found' marked', ← agree.emergencyStop, ← agree.config]
      refine ⟨r'.arm.seq, r'.setpoint.seq, ?_⟩
      have counted : ({ fw.noted arm setpoint with shm := { (fw.noted arm setpoint).shm with
          pollCount := (fw.noted arm setpoint).shm.pollCount + 1 } } : Firmware) =
        ({ fw with shm := { fw.shm with pollCount := fw.shm.pollCount + 1 } } : Firmware).noted
          arm setpoint := rfl
      rw [counted, obeyEmergency_noted, pollConfig_noted]
      rfl

/-- A report looks neither at the notes nor at any slot. -/
theorem ampSharedRegionWriteRtReportOnce_noted (rtos : RtosConfig) (now : Nat)
    {memory memory' : Memory F}
    (same : ∀ address, SameInfluence (memory address) (memory' address)) :
    ampSharedRegionWriteRtReportOnce rtos now (fw.noted arm setpoint) memory' =
      ((ampSharedRegionWriteRtReportOnce rtos now fw memory).1.noted arm setpoint,
        (ampSharedRegionWriteRtReportOnce rtos now fw memory).2) := by
  unfold ampSharedRegionWriteRtReportOnce
  rw [ampSharedRegionGet_noted]
  rcases ampSharedRegionGet_same fw same with ⟨none, none'⟩ | ⟨r, r', found, found', agree⟩
  · rw [none, none']
  · rw [found, found']
    simp only [agree.wellMarked]
    cases marked : r'.wellMarked with
    | false => rfl
    | true =>
      -- The report is paced by a variable of its own.
      by_cases early : tickSub rtos now fw.shm.lastRtReportTick < pdMsToTicks rtos 20
      · have early' : tickSub rtos now (fw.noted arm setpoint).shm.lastRtReportTick <
            pdMsToTicks rtos 20 := early
        simp only [early, early', Bool.not_true, Bool.false_eq_true, if_false, if_true]
      · have early' : ¬ tickSub rtos now (fw.noted arm setpoint).shm.lastRtReportTick <
            pdMsToTicks rtos 20 := early
        simp only [early, early', Bool.not_true, Bool.false_eq_true, if_false]
        rfl

/-- Before the gate the notes may have changed, and nothing else. -/
theorem beforeGate_noted (rtos : RtosConfig) (input : PollInput F) {memory' : Memory F}
    (same : ∀ address, SameInfluence (input.memory address) (memory' address)) :
    SameButNotes (beforeGate rtos fw input)
      (beforeGate rtos (fw.noted arm setpoint) { input with memory := memory' }) := by
  have gathered : gatherInputs rtos (fw.noted arm setpoint) { input with memory := memory' } =
      (gatherInputs rtos fw input).noted arm setpoint :=
    gatherInputs_noted rtos fw arm setpoint input
  unfold beforeGate prepareGate
  rw [gathered]
  generalize gatherInputs rtos fw input = f
  -- The sticks are read from the reception, which both polls share.
  obtain ⟨arm', setpoint', polled⟩ := ampSharedRegionPollOnce_noted
    { f with rc := readSticks (pollFailsafe rtos input.now f.reception) f.reception f.rc }
    arm setpoint same
  exact ⟨arm', setpoint', congrArg
    (fun g : Firmware => { g with control := controlUpdateSetpointOnce g.rc g.config g.control })
    polled⟩

/-- Over memories that agree on what is obeyed, two polls programme the same and end the same. -/
theorem ibusProbePollOnce_noted (rtos : RtosConfig) (input : PollInput F) {memory' : Memory F}
    (same : ∀ address, SameInfluence (input.memory address) (memory' address)) :
    SameButNotes (ibusProbePollOnce rtos fw input).1
        (ibusProbePollOnce rtos (fw.noted arm setpoint) { input with memory := memory' }).1 ∧
      (ibusProbePollOnce rtos fw input).2 =
        (ibusProbePollOnce rtos (fw.noted arm setpoint) { input with memory := memory' }).2 := by
  obtain ⟨arm', setpoint', entered⟩ := beforeGate_noted fw arm setpoint rtos input same
  -- From the gate on, every stage carries the notes along.
  have branched : afterDispatch rtos (fw.noted arm setpoint) { input with memory := memory' } =
      (afterDispatch rtos fw input).noted arm' setpoint' := by
    unfold afterDispatch afterGate
    rw [entered, motorUpdateArmGate_noted]
    exact dispatchOutputs_noted _ arm' setpoint' _
  unfold ibusProbePollOnce
  simp only [branched, motorApplyOutputs_noted,
    ampSharedRegionWriteRtReportOnce_noted _ arm' setpoint' rtos input.reportTick same]
  exact ⟨⟨arm', setpoint', rfl⟩, trivial⟩

/-- A turn of the task keeps two states the same but for the notes. -/
theorem cmdQuRunTask_same (rtos : RtosConfig) {left right : Firmware} (input : TaskInput F)
    {memory' : Memory F} (same : ∀ address, SameInfluence (input.memory address) (memory' address))
    (related : SameButNotes left right) :
    SameButNotes (cmdQuRunTask rtos left input) (cmdQuRunTask rtos right (input.over memory')) := by
  obtain ⟨arm, setpoint, rfl⟩ := related
  obtain ⟨⟨arm', setpoint', polled⟩, -⟩ :=
    ibusProbePollOnce_noted left arm setpoint rtos input.toPollInput same
  have polled' : afterPoll rtos (left.noted arm setpoint) (input.over memory').toPollInput =
      (afterPoll rtos left input.toPollInput).noted arm' setpoint' := polled
  have told : (input.over memory').message = input.message := rfl
  refine ⟨arm', setpoint', ?_⟩
  unfold cmdQuRunTask
  rw [polled', told]
  -- A message moves the region, and the notes stay.
  cases input.message with
  | none => rfl
  | some message =>
    simp only [handleMessage]
    rw [apply_ite (noted · arm' setpoint')]
    rfl

end Region

section Runs

variable {F : Type} [FloatArith F]

/-- Both runs are always in states that differ in the notes only. -/
theorem beforePoll_same (rtos : RtosConfig) (input : Nat → TaskInput F) {memory' : Nat → Memory F}
    (same : ∀ n address, SameInfluence ((input n).memory address) (memory' n address)) (n : Nat) :
    SameButNotes (beforePoll rtos input n)
      (beforePoll rtos (fun n => (input n).over (memory' n)) n) := by
  refine stateAt_related SameButNotes ?_ (fun left right n related => ?_) n
  · exact ⟨boot.shm.lastArmSeq, boot.shm.lastSetpointSeq, rfl⟩
  · exact cmdQuRunTask_same rtos (input n) (same n) related

/--
What Linux writes into the arm, setpoint, and heartbeat slots never reaches the motors.

Two runs over such memories programme the same pulses and report the same, poll by poll. Their
states differ in the notes about the arm and setpoint slots and in no other variable.
-/
theorem pulses_independent (rtos : RtosConfig) (input : Nat → TaskInput F)
    {memory' : Nat → Memory F}
    (same : ∀ n address, SameInfluence ((input n).memory address) (memory' n address)) (n : Nat) :
    SameButNotes (afterPoll rtos (beforePoll rtos input n) (input n).toPollInput)
        (afterPoll rtos (beforePoll rtos (fun n => (input n).over (memory' n)) n)
          ((input n).over (memory' n)).toPollInput) ∧
      (ibusProbePollOnce rtos (beforePoll rtos input n) (input n).toPollInput).2 =
        (ibusProbePollOnce rtos (beforePoll rtos (fun n => (input n).over (memory' n)) n)
          ((input n).over (memory' n)).toPollInput).2 := by
  obtain ⟨arm, setpoint, related⟩ := beforePoll_same rtos input same n
  rw [related]
  exact ibusProbePollOnce_noted _ arm setpoint rtos (input n).toPollInput (same n)

/-- A marked region to which nothing was published. -/
def quietRegion : SharedCommandRegion ℚ :=
  { SharedCommandRegion.zeroed with magic := sharedRegionMagic, version := sharedRegionVersion }

/-- The same region with an arm command, full throttle, and a heartbeat in it. -/
def urgedRegion : SharedCommandRegion ℚ :=
  { quietRegion with
    arm := ⟨7, ⟨1, 0, 0, 0⟩, 0⟩, setpoint := ⟨9, ⟨1, 30, 0, 0, 9⟩, 0⟩
    heartbeat := ⟨4, ⟨60, 4⟩, 0⟩ }

/-- A bench run in which the firmware is told of the quiet region after its first poll. -/
def quietBench (n : Nat) : TaskInput ℚ :=
  benchPoll (60 * n + 60) (60 * n + 62) (benchFrame 1000 1000) (fun _ => quietRegion)
    (if n = 0 then some ⟨FlightCmdId.initSharedMemory.toByte, 4096⟩ else none)

/-- Urging the quiet bench to arm and climb changes no pulse. -/
theorem pulses_independent_quietBench :
    programmed benchRtos (beforePoll benchRtos quietBench 3) (quietBench 3).toPollInput =
      programmed benchRtos
        (beforePoll benchRtos (fun n => (quietBench n).over fun _ => urgedRegion) 3)
        ((quietBench 3).over fun _ => urgedRegion).toPollInput := by
  have same : ∀ n address, SameInfluence ((quietBench n).memory address) urgedRegion :=
    fun _ _ => ⟨rfl, rfl, rfl, rfl⟩
  have both := pulses_independent benchRtos quietBench same 3
  exact congrArg PollOutput.programmed both.2

end Runs

end AmpFc.Firmware
