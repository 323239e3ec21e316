import AmpFc.Firmware.Bus

/-! The sensor pipeline: probing both sensors, gyro calibration, attitude, and body axes. -/

namespace AmpFc.Firmware

/-- `HMC5883L_ADDR`. -/
def hmc5883lAddr : UInt8 := 0x1E

/-- `MPU6050_ADDR0`. -/
def mpu6050Addr0 : UInt8 := 0x68

/-- `MPU6050_ADDR1`. -/
def mpu6050Addr1 : UInt8 := 0x69

/-- `MPU6050_WHOAMI_REG`. -/
def mpu6050WhoamiReg : UInt8 := 0x75

/-- `MPU6050_ACCEL_XOUT_H`. -/
def mpu6050AccelXoutH : UInt8 := 0x3B

/-- `MPU_CAL_TARGET_COUNT`. -/
def mpuCalTargetCount : Nat := 50

/-- `SENSOR_STATE_OK`. -/
def sensorStateOk : UInt32 := 0

/-- `SENSOR_STATE_HMC_BAD`. -/
def sensorStateHmcBad : UInt32 := 1

/-- `SENSOR_STATE_MPU_BAD`. -/
def sensorStateMpuBad : UInt32 := 2

/-- `SENSOR_STATE_MPU_CAL`. -/
def sensorStateMpuCal : UInt32 := 4

/-- The register writes of `hmc5883l_config_once`, with the code base each failure reports. -/
def hmcConfigWrites : List (UInt8 × UInt8 × UInt32) :=
  [(0x00, 0x70, 0x10), (0x01, 0x60, 0x20), (0x02, 0x00, 0x30)]

/-- The register writes of `mpu6050_config_once`, with the code base each failure reports. -/
def mpuConfigWrites : List (UInt8 × UInt8 × UInt32) :=
  [(0x6B, 0x00, 0x100), (0x19, 0x09, 0x110), (0x1A, 0x03, 0x120), (0x1B, 0x00, 0x130),
    (0x1C, 0x00, 0x140)]

/-- A configuration sequence: one register after another, up to the first failure. -/
def configureRegisters (bus : I2cBus) (dev : UInt8) (codeMask : UInt32) :
    List (UInt8 × UInt8 × UInt32) → UInt32 × I2cBus
  -- A failed write ends the sequence with its own code.
  | [] => (0, bus)
  | (reg, val, base) :: rest =>
    match bbI2cWriteReg bus dev reg val with
    | (ret, bus) =>
      if ret ≠ 0 then (base ||| (ret &&& codeMask), bus)
      else configureRegisters bus dev codeMask rest

/-- `hmc5883l_config_once`. -/
def hmc5883lConfigOnce (s : Sensors) (bus : I2cBus) : UInt32 × Sensors × I2cBus :=
  if s.hmcCfgDone then (0, s, bus)
  else
    match configureRegisters bus hmc5883lAddr 0xf hmcConfigWrites with
    | (ret, bus) => if ret ≠ 0 then (ret, s, bus) else (0, { s with hmcCfgDone := true }, bus)

/-- `hmc5883l_read_raw_once`. -/
def hmc5883lReadRawOnce (s : Sensors) (bus : I2cBus) : UInt32 × Sensors × I2cBus :=
  match hmc5883lConfigOnce s bus with
  | (ret, s, bus) =>
    if ret ≠ 0 then (0x400 ||| (ret &&& 0xff), { s with hmcDataOk := false }, bus)
    else
      match bbI2cReadRegs bus hmc5883lAddr 0x03 6 with
      | (ret, buf, bus) =>
        if ret ≠ 0 then (0x500 ||| (ret &&& 0xff), { s with hmcDataOk := false }, bus)
        else
          -- The device sends x, z, y, and reads -4096 on an axis that overflowed.
          let x := signedHalf buf 0
          let z := signedHalf buf 2
          let y := signedHalf buf 4
          if x = -4096 ∨ y = -4096 ∨ z = -4096 then
            (0x600, { s with hmc := { x := x, y := y, z := z }, hmcDataOk := false }, bus)
          else (0, { s with hmc := { x := x, y := y, z := z }, hmcDataOk := true }, bus)

/-- `mpu6050_config_once`. -/
def mpu6050ConfigOnce (s : Sensors) (bus : I2cBus) (addr : UInt8) : UInt32 × Sensors × I2cBus :=
  -- A sensor found at the other address is configured anew.
  if s.mpuCfgDone ∧ s.mpuAddrFound = addr then (0, s, bus)
  else
    match configureRegisters bus addr 0xff mpuConfigWrites with
    | (ret, bus) =>
      if ret ≠ 0 then (ret, s, bus)
      else (0, { s with mpuCfgDone := true, mpuAddrFound := addr }, bus)

/-- `mpu6050_read_raw_once`. -/
def mpu6050ReadRawOnce (s : Sensors) (bus : I2cBus) (addr : UInt8) : UInt32 × Sensors × I2cBus :=
  match mpu6050ConfigOnce s bus addr with
  | (ret, s, bus) =>
    if ret ≠ 0 then (0x200 ||| (ret &&& 0xff), { s with mpuDataOk := false }, bus)
    else
      match bbI2cReadRegs bus addr mpu6050AccelXoutH 14 with
      | (ret, buf, bus) =>
        if ret ≠ 0 then (0x300 ||| (ret &&& 0xff), { s with mpuDataOk := false }, bus)
        else
          -- Bytes six and seven hold the temperature.
          let acc : Axes := { x := signedHalf buf 0, y := signedHalf buf 2, z := signedHalf buf 4 }
          let gyro : Axes :=
            { x := signedHalf buf 8, y := signedHalf buf 10, z := signedHalf buf 12 }
          (0, { s with mpuAcc := acc, mpuGyro := gyro, mpuDataOk := true }, bus)

/-- Add the readings of each axis. -/
def Axes.add (left right : Axes) : Axes :=
  { x := left.x + right.x, y := left.y + right.y, z := left.z + right.z }

/-- Subtract the readings of each axis. -/
def Axes.sub (left right : Axes) : Axes :=
  { x := left.x - right.x, y := left.y - right.y, z := left.z - right.z }

/-- Divide each axis by a count, truncating as C does. -/
def Axes.div (axes : Axes) (count : Nat) : Axes :=
  { x := axes.x.tdiv count, y := axes.y.tdiv count, z := axes.z.tdiv count }

/-- `mpu6050_cal_update_once`. -/
def mpu6050CalUpdateOnce (s : Sensors) : Sensors :=
  if !s.mpuDataOk then s
  else if s.mpuCalDone then s
  else
    let s := { s with
      mpuAccSum := s.mpuAccSum.add s.mpuAcc
      mpuGyroSum := s.mpuGyroSum.add s.mpuGyro
      mpuCalCount := s.mpuCalCount + 1 }
    -- The biases are fixed once, when the target count is reached.
    if s.mpuCalCount ≥ mpuCalTargetCount then
      { s with
        mpuAccBias := s.mpuAccSum.div s.mpuCalCount
        mpuGyroBias := s.mpuGyroSum.div s.mpuCalCount
        mpuCalDone := true }
    else s

/-- `sensor_update_corrected_once`, which also withdraws the attitude. -/
def sensorUpdateCorrectedOnce (sensing : Sensing) : Sensing :=
  let attitude := { sensing.attitude with attOk := false }
  let s := { sensing.sensors with sensorReady := false, sensorStateError := sensorStateOk }
  -- The first failing check alone is reported.
  if !s.hmcOk || !s.hmcDataOk then
    ⟨{ s with sensorStateError := s.sensorStateError ||| sensorStateHmcBad }, attitude⟩
  else if !s.mpuOk || !s.mpuDataOk then
    ⟨{ s with sensorStateError := s.sensorStateError ||| sensorStateMpuBad }, attitude⟩
  else if !s.mpuCalDone then
    ⟨{ s with sensorStateError := s.sensorStateError ||| sensorStateMpuCal }, attitude⟩
  else
    ⟨{ s with
        mpuAccCorr := s.mpuAcc
        mpuGyroCorr := s.mpuGyro.sub s.mpuGyroBias
        sensorReady := true }, attitude⟩

/-- `amp_abs32_to_u32`. -/
def ampAbs32ToU32 (v : Int) : Nat := v.natAbs

/-- The first loop of `amp_isqrt64`: shift the probe bit down to the value. -/
def ampIsqrtSeek (v : UInt64) : Nat → UInt64 → UInt64
  -- The probe starts at bit 62 and moves by two, so thirty-two turns exhaust it.
  | 0, bit => bit
  | fuel + 1, bit => if bit > v then ampIsqrtSeek v fuel (bit >>> 2) else bit

/-- The second loop of `amp_isqrt64`: one digit of the root for each probe bit. -/
def ampIsqrtDigits : Nat → UInt64 → UInt64 → UInt64 → UInt64
  | 0, _, res, _ => res
  | fuel + 1, v, res, bit =>
    if bit = 0 then res
    else if v ≥ res + bit then
      ampIsqrtDigits fuel (v - (res + bit)) ((res >>> 1) + bit) (bit >>> 2)
    else ampIsqrtDigits fuel v (res >>> 1) (bit >>> 2)

/-- `amp_isqrt64`. -/
def ampIsqrt64 (v : UInt64) : UInt32 :=
  (ampIsqrtDigits 32 v 0 (ampIsqrtSeek v 32 0x4000000000000000)).toUInt32

/-- `amp_atan2_cd_approx`, in hundredths of a degree. -/
def ampAtan2CdApprox (y x : Int) : Int :=
  let ax := ampAbs32ToU32 x
  let ay := ampAbs32ToU32 y
  if ax = 0 ∧ ay = 0 then 0
  else
    -- Within an octant the arc is replaced by its chord.
    let base : Int :=
      if ax ≥ ay then if ax = 0 then 9000 else ((ay * 4500 / ax : Nat) : Int)
      else 9000 - ((ax * 4500 / ay : Nat) : Int)
    if x ≥ 0 then if y ≥ 0 then base else -base
    else if y ≥ 0 then 18000 - base else base - 18000

/-- `attitude_update_debug_once`. -/
def attitudeUpdateDebugOnce (sensing : Sensing) : Sensing :=
  let s := sensing.sensors
  let attitude := { sensing.attitude with attOk := false }
  if !s.sensorReady then { sensing with attitude := attitude }
  else if !s.hmcDataOk || !s.mpuDataOk then { sensing with attitude := attitude }
  else
    -- Roll and pitch come from the accelerometer, yaw from the magnetometer.
    let ay := UInt64.ofNat (ampAbs32ToU32 s.mpuAccCorr.y)
    let az := UInt64.ofNat (ampAbs32ToU32 s.mpuAccCorr.z)
    let horiz := (ampIsqrt64 (ay * ay + az * az)).toInt32.toInt
    let yaw := ampAtan2CdApprox s.hmc.y s.hmc.x
    { sensing with
      attitude := { attitude with
        rateRollRaw := s.mpuGyroCorr.x
        ratePitchRaw := s.mpuGyroCorr.y
        rateYawRaw := s.mpuGyroCorr.z
        attRollCd := ampAtan2CdApprox s.mpuAccCorr.y s.mpuAccCorr.z
        attPitchCd := ampAtan2CdApprox (-s.mpuAccCorr.x) horiz
        attYawCd := if yaw < 0 then yaw + 36000 else yaw
        attOk := true } }

/-- `BODY_ROLL_SIGN`. -/
def bodyRollSign : Int := 1

/-- `BODY_PITCH_SIGN`. -/
def bodyPitchSign : Int := -1

/-- `BODY_YAW_SIGN`. -/
def bodyYawSign : Int := 1

/-- `body_axis_update_once`, whose first valid attitude becomes the level trim. -/
def bodyAxisUpdateOnce (sensing : Sensing) : Sensing :=
  let a := sensing.attitude
  if !a.attOk || !sensing.sensors.sensorReady then sensing
  else
    -- Wherever the vehicle stands at first counts as level.
    let a := if !a.levelTrimDone then
      { a with levelRollCd := a.attRollCd, levelPitchCd := a.attPitchCd, levelTrimDone := true }
    else a
    { sensing with
      attitude := { a with
        bodyRollCd := bodyRollSign * (a.attRollCd - a.levelRollCd)
        bodyPitchCd := bodyPitchSign * (a.attPitchCd - a.levelPitchCd)
        bodyYawCd := bodyYawSign * a.attYawCd
        bodyRateRollRaw := bodyRollSign * a.rateRollRaw
        bodyRatePitchRaw := bodyPitchSign * a.ratePitchRaw
        bodyRateYawRaw := bodyYawSign * a.rateYawRaw } }

/-- The four updates that follow a successful read of the inertial sensor. -/
def afterMpuRead (sensing : Sensing) : Sensing :=
  let sensing := { sensing with sensors := mpu6050CalUpdateOnce sensing.sensors }
  bodyAxisUpdateOnce (attitudeUpdateDebugOnce (sensorUpdateCorrectedOnce sensing))

/-- The probe of the inertial sensor once it answered at an address; true if it was read. -/
def mpuProbeAt (sensing : Sensing) (bus : I2cBus) (addr who : UInt8) : Bool × Sensing × I2cBus :=
  let s := { sensing.sensors with mpuWhoami := who, mpuOk := true, mpuAddrFound := addr }
  match mpu6050ReadRawOnce s bus addr with
  | (ret, s, bus) =>
    if ret ≠ 0 then
      let s := { s with i2cLastErr := 0xBB060000 ||| (ret &&& 0xffff) }
      (false, { sensing with sensors := s }, bus)
    else (true, afterMpuRead { sensing with sensors := s }, bus)

/-- The second half of the probe: the inertial sensor at its first address, else its second. -/
def mpuProbe (sensing : Sensing) (bus : I2cBus) : Sensing × I2cBus :=
  let finish : Bool × Sensing × I2cBus → Sensing × I2cBus := fun
    | (true, sensing, bus) => (sensing, bus)
    | (false, sensing, bus) =>
      let s := { sensing.sensors with mpuDataOk := false }
      (sensorUpdateCorrectedOnce { sensing with sensors := s }, bus)
  -- The second address is asked only if the first one does not identify itself.
  match bbI2cReadReg bus mpu6050Addr0 mpu6050WhoamiReg with
  | (ret, who, bus) =>
    if ret = 0 ∧ who = 0x68 then finish (mpuProbeAt sensing bus mpu6050Addr0 who)
    else
      match bbI2cReadReg bus mpu6050Addr1 mpu6050WhoamiReg with
      | (ret, who, bus) =>
        if ret = 0 ∧ who = 0x68 then finish (mpuProbeAt sensing bus mpu6050Addr1 who)
        else finish (false, sensing, bus)

/-- The magnetometer's part of the probe, given its three identification bytes. -/
def hmcProbe (sensing : Sensing) (bus : I2cBus) (a b c : UInt8) : Sensing × I2cBus :=
  let s := { sensing.sensors with
    hmcIdA := a, hmcIdB := b, hmcIdC := c, hmcBus := 100, hmcScanMask := 0x80000000 }
  -- Only a device whose identification spells H43 is accepted.
  if a = 0x48 ∧ b = 0x34 ∧ c = 0x33 then
    match hmc5883lReadRawOnce { s with hmcOk := true, i2cLastErr := 0 } bus with
    | (ret, s, bus) =>
      let s := if ret ≠ 0 then { s with i2cLastErr := 0xBB050000 ||| (ret &&& 0xffff) } else s
      ({ sensing with sensors := s }, bus)
  else
    ({ sensing with
        sensors := { s with hmcOk := false, hmcDataOk := false, i2cLastErr := 0xBB044400 } }, bus)

/-- The variables that every probe resets before it talks to the bus. -/
def probeReset (sensing : Sensing) : Sensing :=
  { sensors := { sensing.sensors with
      i2cProbeCount := sensing.sensors.i2cProbeCount + 1
      i2cLastErr := 0
      hmcDataOk := false
      hmcOk := false
      hmcBus := 0xff
      hmcScanMask := 0
      hmcIdA := 0
      hmcIdB := 0
      hmcIdC := 0
      mpuWhoami := 0
      mpuOk := false
      mpuDataOk := false
      sensorReady := false
      sensorStateError := sensorStateHmcBad ||| sensorStateMpuBad }
    attitude := { sensing.attitude with attOk := false } }

/-- `amp_i2c_probe_once`. -/
def ampI2cProbeOnce (sensing : Sensing) (bus : I2cBus) : Sensing × I2cBus :=
  let sensing := probeReset sensing
  -- An identification byte that cannot be read ends the probe before the inertial sensor.
  let giveUp (base ret : UInt32) (bus : I2cBus) : Sensing × I2cBus :=
    let s := { sensing.sensors with i2cLastErr := base ||| (ret &&& 0xff) }
    (sensorUpdateCorrectedOnce { sensing with sensors := s }, bus)
  match bbI2cReadReg bus hmc5883lAddr 0x0A with
  | (ret, a, bus) =>
    if ret ≠ 0 then giveUp 0xBB010000 ret bus
    else
      match bbI2cReadReg bus hmc5883lAddr 0x0B with
      | (ret, b, bus) =>
        if ret ≠ 0 then giveUp 0xBB020000 ret bus
        else
          match bbI2cReadReg bus hmc5883lAddr 0x0C with
          | (ret, c, bus) =>
            if ret ≠ 0 then giveUp 0xBB030000 ret bus
            else
              match hmcProbe sensing bus a b c with
              | (sensing, bus) => mpuProbe sensing bus

end AmpFc.Firmware
