import AmpFc.Lib.Execution
import AmpFc.Linux.MailboxTransport
import AmpFc.Rt.CmdquTransport

/-! Linux and the realtime node together: publications, restarts, doorbells, and polls. -/

namespace AmpFc

open MailboxTransport

/-- The five slots that Linux writes. -/
inductive SlotKind where
  | setpoint
  | arm
  | heartbeat
  | emergencyStop
  | config
  deriving DecidableEq, Repr

/-- The payload of one of these slots. -/
inductive SlotMessage (F : Type) where
  | setpoint (payload : CommandSetpoint F)
  | arm (payload : CommandArm)
  | heartbeat (payload : Heartbeat)
  | emergencyStop (payload : CommandEmergencyStop)
  | config (payload : FlightConfig F)

/-- The slot a message belongs to. -/
def SlotMessage.kind {F : Type} : SlotMessage F → SlotKind
  | .setpoint _ => .setpoint
  | .arm _ => .arm
  | .heartbeat _ => .heartbeat
  | .emergencyStop _ => .emergencyStop
  | .config _ => .config

/-- The last number accepted from a slot. -/
def LastSeqs.get (last : LastSeqs) : SlotKind → UInt32
  | .setpoint => last.setpoint
  | .arm => last.arm
  | .heartbeat => last.heartbeat
  | .emergencyStop => last.emergency
  | .config => last.config

variable {F : Type} [FloatArith F]

/-- A message is packed as its payload is. -/
instance : Packed (SlotMessage F) where
  bytes
    | .setpoint payload => Packed.bytes payload
    | .arm payload => Packed.bytes payload
    | .heartbeat payload => Packed.bytes payload
    | .emergencyStop payload => Packed.bytes payload
    | .config payload => Packed.bytes payload

/-- A slot, whatever its payload type. -/
def SharedCommandRegion.slot (region : SharedCommandRegion F) :
    SlotKind → SharedSlot (SlotMessage F)
  | .setpoint =>
    ⟨region.setpoint.seq, .setpoint region.setpoint.payload, region.setpoint.payloadCrc⟩
  | .arm => ⟨region.arm.seq, .arm region.arm.payload, region.arm.payloadCrc⟩
  | .heartbeat =>
    ⟨region.heartbeat.seq, .heartbeat region.heartbeat.payload, region.heartbeat.payloadCrc⟩
  | .emergencyStop =>
    ⟨region.emergencyStop.seq, .emergencyStop region.emergencyStop.payload,
      region.emergencyStop.payloadCrc⟩
  | .config => ⟨region.config.seq, .config region.config.payload, region.config.payloadCrc⟩

/-- A poll reports a message; an emergency stop is reported without its reason. -/
def IncomingCommand.Reports (command : IncomingCommand F) : SlotMessage F → Prop
  | .setpoint payload => command.setpoint = some payload
  | .arm payload => command.arm = some payload
  | .heartbeat payload => command.heartbeat = some payload
  | .emergencyStop _ => command.emergencyStop = true
  | .config payload => command.config = some payload

/-- What can happen between Linux, the shared region, and the realtime node. -/
inductive ChannelEvent (F : Type) where
  | sendSetpoint (setpoint : CommandSetpoint F) (outcome : SendOutcome)
  | sendArm (state : ArmState) (outcome : SendOutcome)
  /-- Linux sends the next heartbeat at a reading of its clock. -/
  | sendHeartbeat (monotonicNowUs : UInt64) (outcome : SendOutcome)
  | sendEmergencyStop (reason : UInt32) (outcome : SendOutcome)
  | sendConfig (config : FlightConfig F) (outcome : SendOutcome)
  /-- The Linux process restarts and opens the retained region again. -/
  | restart (mode : MailboxMode)
  /-- A mailbox message reaches the realtime core. -/
  | doorbell (cmdId : UInt8) (seqHint : UInt32)
  /-- The transport is polled, and the node applies what it delivers. -/
  | poll (nowUs : Nat)

/-- Both sides with the region they share. -/
structure CommandChannel (F : Type) where
  linux : MailboxTransport
  /-- `heartbeat_seq_` of the telemetry node. -/
  heartbeatSeq : UInt32
  region : SharedCommandRegion F
  rt : RtosCmdquIsrTransport
  node : FlightRtNode F

namespace CommandChannel

/-- What a send leaves behind on the Linux side. -/
def afterSend (c : CommandChannel F) (result : SendResult F) : CommandChannel F :=
  { c with linux := result.2.1, region := result.2.2 }

/-- One event. -/
def step (c : CommandChannel F) : ChannelEvent F → CommandChannel F
  | .sendSetpoint setpoint outcome =>
    c.afterSend (c.linux.sendSetpoint c.region setpoint outcome)
  | .sendArm state outcome => c.afterSend (c.linux.sendArm c.region state outcome)
  | .sendHeartbeat monotonicNowUs outcome =>
    -- The telemetry node counts its heartbeats itself.
    let seq := c.heartbeatSeq + 1
    { c.afterSend (c.linux.sendHeartbeat c.region monotonicNowUs seq outcome) with
      heartbeatSeq := seq }
  | .sendEmergencyStop reason outcome =>
    c.afterSend (c.linux.sendEmergencyStop c.region reason outcome)
  | .sendConfig config outcome => c.afterSend (c.linux.sendConfig c.region config outcome)
  | .restart mode =>
    -- Every counter of the old process is gone, and the region is as it was.
    { c with
      linux := { mode := mode }
      heartbeatSeq := 0
      region := initializeSharedRegion c.region }
  | .doorbell cmdId seqHint =>
    { c with rt := { c.rt with ring := c.rt.ring.onCmdFromMailbox cmdId seqHint } }
  | .poll nowUs =>
    let polled := c.rt.poll c.region
    { c with rt := polled.2, node := c.node.applyCommand polled.1 nowUs }

/-- The number and the message that an event publishes, if it is a send. -/
def publication (c : CommandChannel F) : ChannelEvent F → Option (UInt32 × SlotMessage F)
  | .sendSetpoint setpoint _ =>
    -- A message that brings its own number keeps it.
    let seq := if setpoint.seq = 0 then c.linux.setpointSeq + 1 else setpoint.seq
    some (seq, .setpoint { setpoint with seq := seq })
  | .sendArm state _ => some (c.linux.armSeq + 1, .arm { state := state.toByte })
  | .sendHeartbeat monotonicNowUs _ =>
    let seq := if c.heartbeatSeq + 1 = 0 then c.linux.heartbeatSeq + 1 else c.heartbeatSeq + 1
    some (seq, .heartbeat { monotonicUs := monotonicNowUs, seq := seq })
  | .sendEmergencyStop reason _ =>
    some (c.linux.emergencySeq + 1, .emergencyStop { reason := reason })
  | .sendConfig config _ =>
    let seq := if config.updateSeq = 0 then c.linux.configSeq + 1 else config.updateSeq
    some (seq, .config { config with updateSeq := seq })
  | .restart _ => none
  | .doorbell _ _ => none
  | .poll _ => none

/-- The command that a poll would deliver now. -/
def command (c : CommandChannel F) : IncomingCommand F := (c.rt.poll c.region).1

/-- No event takes the marks from a region. -/
theorem step_wellMarked {c : CommandChannel F} (marked : c.region.wellMarked = true)
    (event : ChannelEvent F) : (c.step event).region.wellMarked = true := by
  -- In a marked region each write touches the slot it is meant for.
  cases event with
  | sendSetpoint setpoint outcome =>
    simp only [step, afterSend, sendSetpoint, writeSetpointCache, marked, Bool.not_true,
      Bool.false_eq_true, if_false]
    exact marked
  | sendArm state outcome =>
    simp only [step, afterSend, sendArm, writeArmCache, marked, Bool.not_true,
      Bool.false_eq_true, if_false]
    exact marked
  | sendHeartbeat monotonicNowUs outcome =>
    simp only [step, afterSend, sendHeartbeat, writeHeartbeatCache, marked, Bool.not_true,
      Bool.false_eq_true, if_false]
    exact marked
  | sendEmergencyStop reason outcome =>
    simp only [step, afterSend, sendEmergencyStop_marked _ marked]
    exact marked
  | sendConfig config outcome =>
    simp only [step, afterSend, sendConfig, writeConfigCache, marked, Bool.not_true,
      Bool.false_eq_true, if_false]
    exact marked
  | restart mode => exact initializeSharedRegion_wellMarked c.region
  | doorbell cmdId seqHint => exact marked
  | poll nowUs => exact marked

/-- A send fills the slot of its message, and every other slot stays as it is. -/
theorem step_slot {c : CommandChannel F} (marked : c.region.wellMarked = true)
    (event : ChannelEvent F) (kind : SlotKind) :
    (c.step event).region.slot kind =
      match c.publication event with
      | some (seq, message) =>
        if message.kind = kind then publishSlot seq message else c.region.slot kind
      | none => c.region.slot kind := by
  -- Each send writes one slot; a restart finds its marks and writes none.
  cases event with
  | sendSetpoint setpoint outcome =>
    simp only [step, afterSend, sendSetpoint, writeSetpointCache, marked, Bool.not_true,
      Bool.false_eq_true, if_false, publication, SlotMessage.kind]
    cases kind <;> rfl
  | sendArm state outcome =>
    simp only [step, afterSend, sendArm, thenSendCommand, writeArmCache, marked, Bool.not_true,
      Bool.false_eq_true, if_false, publication, SlotMessage.kind]
    cases kind <;> rfl
  | sendHeartbeat monotonicNowUs outcome =>
    simp only [step, afterSend, sendHeartbeat, writeHeartbeatCache, marked, Bool.not_true,
      Bool.false_eq_true, if_false, publication, SlotMessage.kind]
    cases kind <;> rfl
  | sendEmergencyStop reason outcome =>
    simp only [step, afterSend, sendEmergencyStop_marked _ marked, publication, SlotMessage.kind]
    cases kind <;> rfl
  | sendConfig config outcome =>
    simp only [step, afterSend, sendConfig, thenSendCommand, writeConfigCache, marked,
      Bool.not_true, Bool.false_eq_true, if_false, publication, SlotMessage.kind]
    cases kind <;> rfl
  | restart mode =>
    show (initializeSharedRegion c.region).slot kind = c.region.slot kind
    rw [initializeSharedRegion_marked marked]
  | doorbell cmdId seqHint => rfl
  | poll nowUs => rfl

end CommandChannel

end AmpFc
