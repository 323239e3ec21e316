import AmpFc.Firmware.State

/-! The bit-banged sensor bus, one register transaction at a time. -/

namespace AmpFc.Firmware

/-- A register transaction on the bus. -/
inductive I2cTransfer where
  | readReg (dev reg : UInt8)
  | writeReg (dev reg val : UInt8)
  | readRegs (dev reg : UInt8) (len : Nat)
  deriving DecidableEq, Repr

/-- The byte of a transaction that the device did not acknowledge. -/
inductive I2cNack where
  | device
  | register
  | third
  deriving DecidableEq, Repr

/-- The negated return code for a missing acknowledgement. -/
def I2cNack.code : I2cNack → UInt32
  | .device => 1
  | .register => 2
  | .third => 3

/-- How the bus answers a transaction; a read that is acknowledged brings data. -/
inductive I2cReply where
  | ack (data : List UInt8)
  | nack (byte : I2cNack)
  deriving DecidableEq, Repr

/-- The transactions of a probe with their replies, most recent first. -/
abbrev I2cLog := List (I2cTransfer × I2cReply)

/-- What hangs on the bus: any reply to any transaction after any history. -/
abbrev I2cDevices := I2cLog → I2cTransfer → I2cReply

/-- The devices together with the traffic so far. -/
structure I2cBus where
  devices : I2cDevices
  log : I2cLog := []

/-- Perform one transaction. -/
def I2cBus.transfer (bus : I2cBus) (transfer : I2cTransfer) : I2cReply × I2cBus :=
  -- The reply may depend on everything the bus has seen.
  let reply := bus.devices bus.log transfer
  (reply, { bus with log := (transfer, reply) :: bus.log })

/-- `bb_i2c_read_reg`: the code is zero exactly on success, and the value starts out as zero. -/
def bbI2cReadReg (bus : I2cBus) (dev reg : UInt8) : UInt32 × UInt8 × I2cBus :=
  match bus.transfer (.readReg dev reg) with
  | (.ack data, bus) => (0, data.getD 0 0, bus)
  | (.nack byte, bus) => (byte.code, 0, bus)

/-- `bb_i2c_write_reg`. -/
def bbI2cWriteReg (bus : I2cBus) (dev reg val : UInt8) : UInt32 × I2cBus :=
  match bus.transfer (.writeReg dev reg val) with
  | (.ack _, bus) => (0, bus)
  | (.nack byte, bus) => (byte.code, bus)

/-- `bb_i2c_read_regs`, into a buffer that is there and has room. -/
def bbI2cReadRegs (bus : I2cBus) (dev reg : UInt8) (len : Nat) : UInt32 × List UInt8 × I2cBus :=
  -- Nothing is asked for, and the bus stays as it is.
  if len = 0 then (10, [], bus)
  else
    match bus.transfer (.readRegs dev reg len) with
    | (.ack data, bus) => (0, data.take len, bus)
    | (.nack byte, bus) => (byte.code, [], bus)

/-- The signed half word at a position of a big-endian buffer. -/
def signedHalf (buf : List UInt8) (position : Nat) : Int :=
  -- The cast to `int16_t` reads the sixteen bits as two's complement.
  ((((buf.getD position 0).toUInt16 <<< 8) ||| (buf.getD (position + 1) 0).toUInt16).toInt16).toInt

end AmpFc.Firmware
