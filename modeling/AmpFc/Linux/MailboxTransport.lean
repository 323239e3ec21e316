import AmpFc.Common.Protocol

/-! The Linux side of the shared region: sequence counters, slot publication, and sends. -/

namespace AmpFc

/-- How the mailbox device was opened. -/
inductive MailboxMode where
  | closed
  | fallback
  | live
  deriving DecidableEq, Repr

/-- The transport's own state: the device, and one counter for each slot it writes. -/
structure MailboxTransport where
  mode : MailboxMode := .closed
  setpointSeq : UInt32 := 0
  armSeq : UInt32 := 0
  heartbeatSeq : UInt32 := 0
  emergencySeq : UInt32 := 0
  configSeq : UInt32 := 0
  deriving DecidableEq, Repr

/-- What the environment decides about one send. -/
structure SendOutcome where
  /-- `flushSharedRegion` succeeded. -/
  flushed : Bool
  /-- The `ioctl` that waits for the acknowledgement succeeded. -/
  acknowledged : Bool
  deriving DecidableEq, Repr

/-- A send's result with the transport and the region it leaves behind. -/
abbrev SendResult (F : Type) := Bool × MailboxTransport × SharedCommandRegion F

namespace MailboxTransport

variable {F : Type}

/-- `publishSlot`, whose payload and checksum are in place before the sequence number. -/
def publishSlot {α : Type} [Packed α] (seq : UInt32) (payload : α) : SharedSlot α :=
  { seq := seq, payload := payload, payloadCrc := payloadCrc payload }

/-- A region wiped to zero and marked. -/
def freshRegion [FloatArith F] : SharedCommandRegion F :=
  { SharedCommandRegion.zeroed with magic := sharedRegionMagic, version := sharedRegionVersion }

/-- `initializeSharedRegion`: a region that is already marked keeps its slots. -/
def initializeSharedRegion [FloatArith F] (region : SharedCommandRegion F) :
    SharedCommandRegion F :=
  if !region.wellMarked then freshRegion else region

/-- `sendCommand` with an acknowledgement. -/
def sendCommand (t : MailboxTransport) (outcome : SendOutcome) : Bool :=
  match t.mode with
  | .fallback => true
  | .closed => false
  | .live => outcome.acknowledged

/-- `writeSetpointCache`, the only write that repairs a region that lost its marks. -/
def writeSetpointCache [FloatArith F] (t : MailboxTransport)
    (region : SharedCommandRegion F) (setpoint : CommandSetpoint F) :
    MailboxTransport × SharedCommandRegion F :=
  let region := if !region.wellMarked then freshRegion else region
  let seq := if setpoint.seq = 0 then t.setpointSeq + 1 else setpoint.seq
  ({ t with setpointSeq := seq },
    { region with setpoint := publishSlot seq { setpoint with seq := seq } })

/-- `writeArmCache`; without a result the region was not marked and nothing was written. -/
def writeArmCache (t : MailboxTransport) (region : SharedCommandRegion F) (state : ArmState) :
    Option (MailboxTransport × SharedCommandRegion F) :=
  -- A region without marks is left alone, and its counter too.
  if !region.wellMarked then none
  else
    let seq := t.armSeq + 1
    some ({ t with armSeq := seq },
      { region with arm := publishSlot seq { state := state.toByte } })

/-- `writeHeartbeatCache` at the clock reading `monotonicNowUs`. -/
def writeHeartbeatCache (t : MailboxTransport) (region : SharedCommandRegion F)
    (monotonicNowUs : UInt64) (seq : UInt32) :
    Option (MailboxTransport × SharedCommandRegion F) :=
  if !region.wellMarked then none
  else
    -- A number of zero leaves the numbering to the transport.
    let seq := if seq = 0 then t.heartbeatSeq + 1 else seq
    some ({ t with heartbeatSeq := seq },
      { region with heartbeat := publishSlot seq { monotonicUs := monotonicNowUs, seq := seq } })

/-- `writeEmergencyCache`. -/
def writeEmergencyCache (t : MailboxTransport) (region : SharedCommandRegion F)
    (reason : UInt32) : Option (MailboxTransport × SharedCommandRegion F) :=
  if !region.wellMarked then none
  else
    -- Emergency commands are numbered by the transport alone.
    let seq := t.emergencySeq + 1
    some ({ t with emergencySeq := seq },
      { region with emergencyStop := publishSlot seq { reason := reason } })

/-- `writeConfigCache`. -/
def writeConfigCache [FloatArith F] (t : MailboxTransport) (region : SharedCommandRegion F)
    (config : FlightConfig F) : Option (MailboxTransport × SharedCommandRegion F) :=
  if !region.wellMarked then none
  else
    -- A configuration usually brings its own number.
    let seq := if config.updateSeq = 0 then t.configSeq + 1 else config.updateSeq
    some ({ t with configSeq := seq },
      { region with config := publishSlot seq { config with updateSeq := seq } })

/-- `sendSetpoint`, which rings no doorbell. -/
def sendSetpoint [FloatArith F] (t : MailboxTransport) (region : SharedCommandRegion F)
    (setpoint : CommandSetpoint F) (outcome : SendOutcome) : SendResult F :=
  (outcome.flushed, t.writeSetpointCache region setpoint)

/-- `sendHeartbeat`, which rings no doorbell. -/
def sendHeartbeat (t : MailboxTransport) (region : SharedCommandRegion F)
    (monotonicNowUs : UInt64) (seq : UInt32) (outcome : SendOutcome) : SendResult F :=
  match t.writeHeartbeatCache region monotonicNowUs seq with
  | none => (false, t, region)
  | some written => (outcome.flushed, written)

/-- A write followed by its doorbell, which is rung only once the write was flushed. -/
def thenSendCommand (t : MailboxTransport) (region : SharedCommandRegion F)
    (write : Option (MailboxTransport × SharedCommandRegion F)) (outcome : SendOutcome) :
    SendResult F :=
  match write with
  | none => (false, t, region)
  | some (t, region) => (outcome.flushed && t.sendCommand outcome, t, region)

/-- `sendArm`. -/
def sendArm (t : MailboxTransport) (region : SharedCommandRegion F) (state : ArmState)
    (outcome : SendOutcome) : SendResult F :=
  thenSendCommand t region (t.writeArmCache region state) outcome

/-- `sendEmergencyStop`. -/
def sendEmergencyStop (t : MailboxTransport) (region : SharedCommandRegion F) (reason : UInt32)
    (outcome : SendOutcome) : SendResult F :=
  thenSendCommand t region (t.writeEmergencyCache region reason) outcome

/-- `sendConfig`. -/
def sendConfig [FloatArith F] (t : MailboxTransport) (region : SharedCommandRegion F)
    (config : FlightConfig F) (outcome : SendOutcome) : SendResult F :=
  thenSendCommand t region (t.writeConfigCache region config) outcome

/-- Into a marked region an emergency command is always written, under the next number. -/
theorem sendEmergencyStop_marked (t : MailboxTransport) {region : SharedCommandRegion F}
    (marked : region.wellMarked = true) (reason : UInt32) (outcome : SendOutcome) :
    (t.sendEmergencyStop region reason outcome).2 =
      ({ t with emergencySeq := t.emergencySeq + 1 },
        { region with
          emergencyStop := publishSlot (t.emergencySeq + 1) { reason := reason } }) := by
  simp [sendEmergencyStop, thenSendCommand, writeEmergencyCache, marked]

/-- Without marks nothing is written. -/
theorem sendEmergencyStop_unmarked (t : MailboxTransport) {region : SharedCommandRegion F}
    (unmarked : region.wellMarked = false) (reason : UInt32) (outcome : SendOutcome) :
    t.sendEmergencyStop region reason outcome = (false, t, region) := by
  simp [sendEmergencyStop, thenSendCommand, writeEmergencyCache, unmarked]

section Initialisation

variable [FloatArith F]

/-- A region that Linux has set up carries the marks. -/
@[simp] theorem freshRegion_wellMarked :
    (freshRegion : SharedCommandRegion F).wellMarked = true := by
  simp [freshRegion, SharedCommandRegion.wellMarked]

/-- An initialised region is always marked. -/
@[simp] theorem initializeSharedRegion_wellMarked (region : SharedCommandRegion F) :
    (initializeSharedRegion region).wellMarked = true := by
  unfold initializeSharedRegion
  cases marked : region.wellMarked with
  | false => simp
  | true => simp [marked]

/-- A region that kept its marks keeps its slots. -/
theorem initializeSharedRegion_marked {region : SharedCommandRegion F}
    (marked : region.wellMarked = true) : initializeSharedRegion region = region := by
  simp [initializeSharedRegion, marked]

/-- A region that lost its marks is wiped. -/
theorem initializeSharedRegion_unmarked {region : SharedCommandRegion F}
    (unmarked : region.wellMarked = false) : initializeSharedRegion region = freshRegion := by
  simp [initializeSharedRegion, unmarked]

end Initialisation

end MailboxTransport

end AmpFc
