import AmpFc.Rt.Estimator

/-! The board's I2C port, the two sensor drivers over it, and the sense that reads them. -/

namespace AmpFc

open FloatArith (ofRat)

/-- The two bus functions of the SDK, over the world they reach into. -/
structure I2cSdk (W : Type) where
  /-- Whether `i2c_write` returned zero. -/
  write : W → UInt8 → UInt8 → UInt16 → List UInt8 → Bool × W
  /-- The bytes of an `i2c_read` that returned zero. -/
  read : W → UInt8 → UInt8 → UInt16 → Nat → Option (List UInt8) × W
  whole : ∀ {world bus dev reg length data},
    (read world bus dev reg length).1 = some data → data.length = length

/-- A transfer on the bus, with what came of it. -/
inductive SdkTransfer where
  | write (bus dev : UInt8) (reg : UInt16) (payload : List UInt8) (done : Bool)
  | read (bus dev : UInt8) (reg : UInt16) (length : Nat) (data : Option (List UInt8))
  deriving DecidableEq, Repr

/-- `kMaxI2cBus`. -/
abbrev maxI2cBus : Nat := 4

/-- `kMaxI2cAddr`. -/
def maxI2cAddr : Nat := 128

/-- The port's tables over the world, and the transfers so far, the newest first. -/
structure BoardI2c (W : Type) where
  world : W
  ready : Vector Bool maxI2cBus := .replicate maxI2cBus false
  cursor : UInt8 → UInt8 → Option UInt16 := fun _ _ => none
  log : List SdkTransfer := []

namespace BoardI2c

variable {W : Type} (sdk : I2cSdk W) (board : BoardI2c W)

/-- The bus exists and was initialised. -/
def busReady (bus : UInt8) : Bool := board.ready[bus.toNat]?.getD false

/-- `rememberI2cRegister`. -/
def rememberI2cRegister (bus dev : UInt8) (reg : UInt16) : Bool × BoardI2c W :=
  if bus.toNat ≥ maxI2cBus ∨ dev.toNat ≥ maxI2cAddr then (false, board)
  else (true, { board with
    cursor := Function.update board.cursor bus
      (Function.update (board.cursor bus) dev (some reg)) })

/-- `getI2cRegister`. -/
def getI2cRegister (bus dev : UInt8) : Option UInt16 :=
  if bus.toNat ≥ maxI2cBus ∨ dev.toNat ≥ maxI2cAddr then none else board.cursor bus dev

/-- A write on the bus. -/
def transferWrite (bus dev : UInt8) (reg : UInt16) (payload : List UInt8) : Bool × BoardI2c W :=
  let done := sdk.write board.world bus dev reg payload
  (done.1, { board with
    world := done.2, log := .write bus dev reg payload done.1 :: board.log })

/-- A read from the bus. -/
def transferRead (bus dev : UInt8) (reg : UInt16) (length : Nat) :
    Option (List UInt8) × BoardI2c W :=
  let done := sdk.read board.world bus dev reg length
  (done.1, { board with world := done.2, log := .read bus dev reg length done.1 :: board.log })

/-- `hal_i2c_init`, which initialises a bus once. -/
def halI2cInit (bus : UInt8) : Bool × BoardI2c W :=
  if bound : bus.toNat < maxI2cBus then
    (true, { board with ready := board.ready.set bus.toNat true })
  else (false, board)

/-- `hal_i2c_write`; a single byte is a register to remember, and reaches no device. -/
def halI2cWrite (bus dev : UInt8) : List UInt8 → Bool × BoardI2c W
  | [] => (false, board)
  | reg :: payload =>
    if !board.busReady bus then (false, board)
    else if payload.isEmpty then board.rememberI2cRegister bus dev reg.toUInt16
    else
      let done := board.transferWrite sdk bus dev reg.toUInt16 payload
      -- The cursor follows a write that succeeded.
      (done.1,
        if done.1 then
          (done.2.rememberI2cRegister bus dev
            (reg.toUInt16 + UInt16.ofNat payload.length)).2
        else done.2)

/-- `hal_i2c_read`, from the register that is remembered for the device. -/
def halI2cRead (bus dev : UInt8) (length : Nat) : Option (List UInt8) × BoardI2c W :=
  if !board.busReady bus || length == 0 then (none, board)
  else
    match board.getI2cRegister bus dev with
    | none => (none, board)
    | some reg =>
      let done := board.transferRead sdk bus dev reg length
      (done.1,
        if done.1.isSome then
          (done.2.rememberI2cRegister bus dev (reg + UInt16.ofNat length)).2
        else done.2)

/-- `writeRegister` of both drivers. -/
def writeRegister (bus dev reg value : UInt8) : Bool × BoardI2c W :=
  board.halI2cWrite sdk bus dev [reg, value]

/-- `readRegisters` of both drivers: the register is named first, and then read from. -/
def readRegisters (bus dev startReg : UInt8) (length : Nat) : Option (List UInt8) × BoardI2c W :=
  if length == 0 then (none, board)
  else
    let named := board.halI2cWrite sdk bus dev [startReg]
    if !named.1 then (none, named.2) else named.2.halI2cRead sdk bus dev length

/-- Register writes joined by `&&`: the first that fails is the last. -/
def writeRegisters (bus dev : UInt8) : List (UInt8 × UInt8) → BoardI2c W → Bool × BoardI2c W
  | [], board => (true, board)
  | (reg, value) :: rest, board =>
    let written := board.writeRegister sdk bus dev reg value
    if !written.1 then (false, written.2) else writeRegisters bus dev rest written.2

end BoardI2c

/-- `be16` of both drivers. -/
def be16 (high low : UInt8) : Int := ((high.toUInt16 <<< 8) ||| low.toUInt16).toInt16.toInt

/-- `I2cBusConfig`, without the speed, which the port does not look at. -/
structure I2cBusConfig where
  busId : UInt8 := 0
  mpuAddr : UInt8 := 0x68
  magAddr : UInt8 := 0x1E
  useMagnetometer : Bool := true
  deriving DecidableEq, Repr

/-- `Hmc5883lConfig`, without the speed. -/
structure Hmc5883lConfig where
  busId : UInt8 := 0
  address : UInt8 := 0x1E
  deriving DecidableEq, Repr

/-- The registers that `Mpu6050I2cBackend::init` writes, in its order. -/
def mpuSetup : List (UInt8 × UInt8) :=
  [(0x6B, 0x00), (0x19, 0x01), (0x1A, 0x03), (0x1B, 0x08), (0x1C, 0x08)]

/-- The registers that `Hmc5883lI2cBackend::init` writes, in its order. -/
def hmcSetup : List (UInt8 × UInt8) := [(0x00, 0x78), (0x01, 0x20), (0x02, 0x00)]

/-- The identity that `Mpu6050I2cBackend::init` accepts. -/
def mpuIdentity (id : List UInt8) : Bool := (id.getD 0 0 &&& 0x7E) == 0x68

/-- The identity that `Hmc5883lI2cBackend::init` accepts. -/
def hmcIdentity (id : List UInt8) : Bool :=
  id.getD 0 0 == 0x48 && id.getD 1 0 == 0x34 && id.getD 2 0 == 0x33

section Samples

variable {F : Type} [FloatArith F]

/-- The sample that fourteen bytes of the sensor spell; the temperature between is left out. -/
def imuSample (raw : List UInt8) : RawImuSample F :=
  let acc (place : Nat) : F :=
    ofRat (be16 (raw.getD place 0) (raw.getD (place + 1) 0)) / ofRat 8192 *
      ofRat (980665 / 100000)
  let gyro (place : Nat) : F :=
    ofRat (be16 (raw.getD place 0) (raw.getD (place + 1) 0)) / ofRat (655 / 10)
  { accX := acc 0, accY := acc 2, accZ := acc 4
    gyroXDps := gyro 8, gyroYDps := gyro 10, gyroZDps := gyro 12 }

/-- The sample that six bytes of the compass spell, which has its axes in the order x, z, y. -/
def magSample (raw : List UInt8) : RawMagSample F :=
  let mag (place : Nat) : F :=
    ofRat (be16 (raw.getD place 0) (raw.getD (place + 1) 0)) / ofRat 1090 * ofRat 100
  { magX := mag 0, magY := mag 4, magZ := mag 2 }

end Samples

/-- `Sense` with its two backends, over the port. -/
structure Sense (W F : Type) where
  imu : I2cBusConfig
  mag : Hmc5883lConfig
  requireMag : Bool
  magReady : Bool
  biasDps : F × F × F
  board : BoardI2c W

namespace Sense

variable {W F : Type} [FloatArith F] (sdk : I2cSdk W)

/-- What the two `init` functions of the backends have in common: identify, and then set up. -/
def bringUp (board : BoardI2c W) (bus dev idReg : UInt8) (idLength : Nat)
    (identity : List UInt8 → Bool) (setup : List (UInt8 × UInt8)) : Bool × BoardI2c W :=
  let opened := board.halI2cInit bus
  if !opened.1 then opened
  else
    let identified := opened.2.readRegisters sdk bus dev idReg idLength
    if !identified.1.any identity then (false, identified.2)
    else identified.2.writeRegisters sdk bus dev setup

/-- `Mpu6050I2cBackend::init`. -/
def imuInit (imu : I2cBusConfig) (board : BoardI2c W) : Bool × BoardI2c W :=
  if imu.useMagnetometer && imu.mpuAddr == imu.magAddr then (false, board)
  else bringUp sdk board imu.busId imu.mpuAddr 0x75 1 mpuIdentity mpuSetup

/-- `Hmc5883lI2cBackend::init`. -/
def magInit (mag : Hmc5883lConfig) (board : BoardI2c W) : Bool × BoardI2c W :=
  bringUp sdk board mag.busId mag.address 0x0A 3 hmcIdentity hmcSetup

/-- `Mpu6050I2cBackend::read`. -/
def imuRead (imu : I2cBusConfig) (board : BoardI2c W) : Option (RawImuSample F) × BoardI2c W :=
  let raw := board.readRegisters sdk imu.busId imu.mpuAddr 0x3B 14
  (raw.1.map imuSample, raw.2)

/-- `Hmc5883lI2cBackend::read`. -/
def magRead (mag : Hmc5883lConfig) (board : BoardI2c W) : Option (RawMagSample F) × BoardI2c W :=
  let raw := board.readRegisters sdk mag.busId mag.address 0x03 6
  (raw.1.map magSample, raw.2)

/-- The loop of `Mpu6050I2cBackend::calibrate`: the sums, and how many samples they have. -/
def calibrateFrom (imu : I2cBusConfig) :
    Nat → (F × F × F) × Nat → BoardI2c W → ((F × F × F) × Nat) × BoardI2c W
  | 0, sums, board => (sums, board)
  | turns + 1, sums, board =>
    let read : Option (RawImuSample F) × BoardI2c W := imuRead sdk imu board
    -- A read that fails is left out of the mean.
    let sums := read.1.elim sums fun sample =>
      ((sums.1.1 + sample.gyroXDps, sums.1.2.1 + sample.gyroYDps, sums.1.2.2 + sample.gyroZDps),
        sums.2 + 1)
    calibrateFrom imu turns sums read.2

/-- `Mpu6050I2cBackend::calibrate`: the bias, if a single sample was accepted. -/
def calibrate (imu : I2cBusConfig) (sampleCount : Nat) (board : BoardI2c W) :
    Option (F × F × F) × BoardI2c W :=
  let zero : F := ofRat 0
  let summed := calibrateFrom sdk imu sampleCount ((zero, zero, zero), 0) board
  if summed.1.2 = 0 then (none, summed.2)
  else
    let invCount : F := ofRat 1 / ofRat summed.1.2
    (some (summed.1.1.1 * invCount, summed.1.1.2.1 * invCount, summed.1.1.2.2 * invCount),
      summed.2)

/-- `Sense::init`. -/
def init (s : Sense W F) : Bool × Sense W F :=
  let opened := imuInit sdk s.imu s.board
  if !opened.1 then (false, { s with board := opened.2 })
  else
    let calibrated : Option (F × F × F) × BoardI2c W := calibrate sdk s.imu 400 opened.2
    calibrated.1.elim (false, { s with board := calibrated.2 }) fun biasDps =>
      let compass := magInit sdk s.mag calibrated.2
      -- The node flies without a compass unless one is required.
      (compass.1 || !s.requireMag,
        { s with biasDps := biasDps, magReady := compass.1, board := compass.2 })

/-- `Sense::sample`. -/
def sample (s : Sense W F) : Option (RawImuSample F) × Sense W F :=
  let read := imuRead sdk s.imu s.board
  (read.1, { s with board := read.2 })

/-- `Sense::sampleMag`, which leaves a compass alone that did not come up. -/
def sampleMag (s : Sense W F) : Option (RawMagSample F) × Sense W F :=
  if !s.magReady then (none, s)
  else
    let read := magRead sdk s.mag s.board
    (read.1, { s with board := read.2 })

end Sense

end AmpFc
