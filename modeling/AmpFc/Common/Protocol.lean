import AmpFc.Common.Float

/-! The protocol shared by the two cores: packed payloads, numbered slots, and their CRC. -/

namespace AmpFc

/-- `kSharedRegionMagic`, also `AMP_SHARED_REGION_MAGIC` of the firmware. -/
def sharedRegionMagic : UInt32 := 0x4643414D

/-- `kSharedRegionVersion`, also `AMP_SHARED_REGION_VERSION` of the firmware. -/
def sharedRegionVersion : UInt32 := 1

/-- `kPwmMinUs`. -/
def pwmMinUs : UInt16 := 1000

/-- `kPwmMaxUs`. -/
def pwmMaxUs : UInt16 := 2000

/-- `StatusArmed`. -/
def statusArmed : UInt32 := (1 : UInt32) <<< 0

/-- `StatusFailsafe`. -/
def statusFailsafe : UInt32 := (1 : UInt32) <<< 1

/-- `StatusImuHealthy`. -/
def statusImuHealthy : UInt32 := (1 : UInt32) <<< 2

/-- `StatusRcHealthy`. -/
def statusRcHealthy : UInt32 := (1 : UInt32) <<< 3

/-- One pulse width for each motor. -/
abbrev MotorPwm := Vector UInt16 4

/-- The fourteen channels of one iBUS frame. -/
abbrev Channels := Vector UInt16 14

/-- The pulse width of one channel, by its place in the frame. -/
def Channels.us (channels : Channels) (place : Nat) : UInt16 :=
  -- Every place the sources name is one of the fourteen.
  channels[place]?.getD 0

/-- Mailbox command identifiers, used as a doorbell only. -/
inductive FlightCmdId where
  | initSharedMemory
  | setpoint
  | arm
  | heartbeat
  | emergencyStop
  | config
  deriving DecidableEq, Repr

/-- The identifier as it travels in the mailbox word. -/
def FlightCmdId.toByte : FlightCmdId → UInt8
  | .initSharedMemory => 0x20
  | .setpoint => 0x30
  | .arm => 0x31
  | .heartbeat => 0x32
  | .emergencyStop => 0x33
  | .config => 0x34

/-- The enumerator a mailbox byte is cast to, if it names one. -/
def FlightCmdId.ofByte (byte : UInt8) : Option FlightCmdId :=
  -- A byte outside the enumeration reaches the default branch of every switch.
  if byte = 0x20 then some .initSharedMemory
  else if byte = 0x30 then some .setpoint
  else if byte = 0x31 then some .arm
  else if byte = 0x32 then some .heartbeat
  else if byte = 0x33 then some .emergencyStop
  else if byte = 0x34 then some .config
  else none

/--
The arm state, an enumeration over a byte.

A byte that names no enumerator can still be cast into the type, hence the last case.
-/
inductive ArmState where
  | disarmed
  | armed
  | failsafe
  | other (raw : UInt8)
  deriving DecidableEq, Repr

/-- `static_cast<ArmState>` of a received byte. -/
def ArmState.ofByte (byte : UInt8) : ArmState :=
  -- The cast keeps an unnamed value as it is.
  if byte = 0 then .disarmed
  else if byte = 1 then .armed
  else if byte = 2 then .failsafe
  else .other byte

/-- `static_cast<std::uint8_t>` of an arm state. -/
def ArmState.toByte : ArmState → UInt8
  | .disarmed => 0
  | .armed => 1
  | .failsafe => 2
  | .other raw => raw

/-- Collective thrust and attitude targets sent by Linux. -/
structure CommandSetpoint (F : Type) where
  throttle : F
  rollDeg : F
  pitchDeg : F
  yawRateDps : F
  seq : UInt32

/-- An arm command, whose state is a raw byte. -/
structure CommandArm where
  state : UInt8
  reserved0 : UInt8 := 0
  reserved1 : UInt8 := 0
  reserved2 : UInt8 := 0
  deriving DecidableEq, Repr

/-- An emergency stop with its reason. -/
structure CommandEmergencyStop where
  reason : UInt32
  deriving DecidableEq, Repr

/-- A heartbeat with the sender's clock. -/
structure Heartbeat where
  monotonicUs : UInt64
  seq : UInt32
  deriving DecidableEq, Repr

/-- Run-time flight configuration. -/
structure FlightConfig (F : Type) where
  angleP : F
  rateP : F
  rateI : F
  rateD : F
  throttleExpo : F
  deadzoneUs : UInt16
  reserved0 : UInt16
  updateSeq : UInt32

/-- The report the realtime core publishes. -/
structure RtReport (F : Type) where
  monotonicUs : UInt64
  rollDeg : F
  pitchDeg : F
  yawDeg : F
  rollRateDps : F
  pitchRateDps : F
  yawRateDps : F
  motorPwmUs : MotorPwm
  statusFlags : UInt32
  seq : UInt32

/-- A payload between its sequence number and its checksum. -/
structure SharedSlot (α : Type) where
  seq : UInt32
  payload : α
  payloadCrc : UInt32

/-- The region both cores map: one single-entry mailbox for each kind of message. -/
structure SharedCommandRegion (F : Type) where
  magic : UInt32
  version : UInt32
  setpoint : SharedSlot (CommandSetpoint F)
  arm : SharedSlot CommandArm
  heartbeat : SharedSlot Heartbeat
  emergencyStop : SharedSlot CommandEmergencyStop
  config : SharedSlot (FlightConfig F)
  rtReport : SharedSlot (RtReport F)

/-- The two little-endian bytes of a half word. -/
def halfBytes (value : UInt16) : List UInt8 :=
  [value.toUInt8, (value >>> 8).toUInt8]

/-- The four little-endian bytes of a word. -/
def wordBytes (value : UInt32) : List UInt8 :=
  [value.toUInt8, (value >>> 8).toUInt8, (value >>> 16).toUInt8, (value >>> 24).toUInt8]

/-- The eight little-endian bytes of a double word. -/
def doubleBytes (value : UInt64) : List UInt8 :=
  wordBytes value.toUInt32 ++ wordBytes (value >>> 32).toUInt32

/-- A payload type with its packed object representation. -/
class Packed (α : Type) where
  /-- The bytes in memory order, without padding. -/
  bytes : α → List UInt8

section Representations

variable {F : Type} [FloatArith F]

open FloatArith (bits)

/-- The layout of a setpoint in its slot. -/
instance : Packed (CommandSetpoint F) where
  bytes payload := wordBytes (bits payload.throttle) ++ wordBytes (bits payload.rollDeg) ++
    wordBytes (bits payload.pitchDeg) ++ wordBytes (bits payload.yawRateDps) ++
    wordBytes payload.seq

/-- The layout of an arm command. -/
instance : Packed CommandArm where
  bytes payload := [payload.state, payload.reserved0, payload.reserved1, payload.reserved2]

/-- The layout of a heartbeat. -/
instance : Packed Heartbeat where
  bytes payload := doubleBytes payload.monotonicUs ++ wordBytes payload.seq

/-- The layout of an emergency stop. -/
instance : Packed CommandEmergencyStop where
  bytes payload := wordBytes payload.reason

/-- The layout of a configuration. -/
instance : Packed (FlightConfig F) where
  bytes payload := wordBytes (bits payload.angleP) ++ wordBytes (bits payload.rateP) ++
    wordBytes (bits payload.rateI) ++ wordBytes (bits payload.rateD) ++
    wordBytes (bits payload.throttleExpo) ++ halfBytes payload.deadzoneUs ++
    halfBytes payload.reserved0 ++ wordBytes payload.updateSeq

/-- The layout of a report. -/
instance : Packed (RtReport F) where
  bytes payload := doubleBytes payload.monotonicUs ++ wordBytes (bits payload.rollDeg) ++
    wordBytes (bits payload.pitchDeg) ++ wordBytes (bits payload.yawDeg) ++
    wordBytes (bits payload.rollRateDps) ++ wordBytes (bits payload.pitchRateDps) ++
    wordBytes (bits payload.yawRateDps) ++ payload.motorPwmUs.toList.flatMap halfBytes ++
    wordBytes payload.statusFlags ++ wordBytes payload.seq

end Representations

/-- One bit of the reflected CRC-32 with polynomial `0xEDB88320`. -/
def crcBit (crc : UInt32) : UInt32 :=
  -- The mask is all ones exactly when the bit shifted out is one.
  let mask := 0 - (crc &&& 1)
  (crc >>> 1) ^^^ (0xEDB88320 &&& mask)

/-- One byte of the CRC: exclusive-or it in, then eight bit steps. -/
def crcByte (crc : UInt32) (byte : UInt8) : UInt32 :=
  crcBit^[8] (crc ^^^ byte.toUInt32)

/-- `crc32` over the bytes of a payload. -/
def crc32 (data : List UInt8) : UInt32 :=
  -- The register starts with all ones and is complemented at the end.
  ~~~(data.foldl crcByte 0xFFFFFFFF)

/-- `payload_crc`. -/
def payloadCrc {α : Type} [Packed α] (payload : α) : UInt32 :=
  crc32 (Packed.bytes payload)

/-- `verify_slot`: a slot counts once it has a sequence number and its checksum matches. -/
def verifySlot {α : Type} [Packed α] (slot : SharedSlot α) : Bool :=
  -- Sequence number zero means that nothing was ever published.
  if slot.seq = 0 then false else slot.payloadCrc == payloadCrc slot.payload

/-- `default_flight_config`. -/
def defaultFlightConfig {F : Type} [FloatArith F] : FlightConfig F where
  angleP := FloatArith.ofRat 5
  rateP := FloatArith.ofRat (12 / 100)
  rateI := FloatArith.ofRat (2 / 100)
  rateD := FloatArith.ofRat (3 / 1000)
  throttleExpo := FloatArith.ofRat (45 / 100)
  deadzoneUs := 15
  reserved0 := 0
  updateSeq := 1

/-- A slot filled with zero bytes, around the payload those bytes spell. -/
def SharedSlot.zeroed {α : Type} (payload : α) : SharedSlot α :=
  { seq := 0, payload := payload, payloadCrc := 0 }

/-- The region after `memset(region, 0, sizeof(*region))`. -/
def SharedCommandRegion.zeroed {F : Type} [FloatArith F] : SharedCommandRegion F :=
  -- All-zero bytes spell the float zero in every float field.
  let zero : F := FloatArith.ofRat 0
  { magic := 0
    version := 0
    setpoint := .zeroed ⟨zero, zero, zero, zero, 0⟩
    arm := .zeroed ⟨0, 0, 0, 0⟩
    heartbeat := .zeroed ⟨0, 0⟩
    emergencyStop := .zeroed ⟨0⟩
    config := .zeroed ⟨zero, zero, zero, zero, zero, 0, 0, 0⟩
    rtReport := .zeroed ⟨0, zero, zero, zero, zero, zero, zero, .replicate 4 0, 0, 0⟩ }

/-- Both cores accept the region only under the expected magic and version. -/
def SharedCommandRegion.wellMarked {F : Type} (region : SharedCommandRegion F) : Bool :=
  region.magic == sharedRegionMagic && region.version == sharedRegionVersion

/-- A slot whose checksum was computed from its own payload verifies as soon as it is numbered. -/
theorem verifySlot_of_crc {α : Type} [Packed α] {slot : SharedSlot α} (numbered : slot.seq ≠ 0)
    (crc : slot.payloadCrc = payloadCrc slot.payload) : verifySlot slot = true := by
  simp [verifySlot, numbered, crc]

/-- A slot that was never numbered is never accepted. -/
theorem verifySlot_unnumbered {α : Type} [Packed α] {slot : SharedSlot α} (zero : slot.seq = 0) :
    verifySlot slot = false := by
  simp [verifySlot, zero]

end AmpFc
