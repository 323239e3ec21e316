import AmpFc.Firmware.SensorFlags

/-! The bias of the inertial sensor: the truncated mean of the first readings of the bus. -/

namespace AmpFc.Firmware

/-- A reading of the inertial sensor: the accelerations, and the rates. -/
structure MpuReading where
  acc : Axes
  gyro : Axes

/-- The reading that fourteen bytes of the sensor spell. -/
def MpuReading.ofBytes (buf : List UInt8) : MpuReading where
  acc := { x := signedHalf buf 0, y := signedHalf buf 2, z := signedHalf buf 4 }
  gyro := { x := signedHalf buf 8, y := signedHalf buf 10, z := signedHalf buf 12 }

/-- The reading that a transaction brought, if it was an acknowledged read of all the data. -/
def mpuReading : I2cTransfer × I2cReply → Option MpuReading
  | (.readRegs _ reg len, .ack data) =>
    if reg = mpu6050AccelXoutH ∧ len = 14 then some (.ofBytes (data.take 14)) else none
  | _ => none

/-- The readings of some traffic, the newest first. -/
def I2cLog.readings (log : I2cLog) : List MpuReading := log.filterMap mpuReading

/-- What `mpu6050_cal_update_once` works on. -/
structure Calibration where
  count : Nat
  done : Bool
  accSum : Axes
  gyroSum : Axes
  accBias : Axes
  gyroBias : Axes
  last : MpuReading

/-- The calibration among the sensor variables. -/
def Sensors.calibration (s : Sensors) : Calibration where
  count := s.mpuCalCount
  done := s.mpuCalDone
  accSum := s.mpuAccSum
  gyroSum := s.mpuGyroSum
  accBias := s.mpuAccBias
  gyroBias := s.mpuGyroBias
  last := ⟨s.mpuAcc, s.mpuGyro⟩

/-- A calibration step upon a new reading. -/
def Calibration.take (c : Calibration) (reading : MpuReading) : Calibration :=
  let c := { c with last := reading }
  if c.done then c
  else
    let c := { c with
      accSum := c.accSum.add reading.acc
      gyroSum := c.gyroSum.add reading.gyro
      count := c.count + 1 }
    if c.count ≥ mpuCalTargetCount then
      { c with accBias := c.accSum.div c.count, gyroBias := c.gyroSum.div c.count, done := true }
    else c

section Steps

/-- The traffic goes on without a reading, and the calibration is left alone. -/
structure Undisturbed (s : Sensors) (log : I2cLog) (s' : Sensors) (log' : I2cLog) : Prop where
  readings : log'.readings = log.readings
  calibration : s'.calibration = s.calibration

/-- What two steps leave alone, both together leave alone. -/
theorem Undisturbed.trans {s s' s'' : Sensors} {log log' log'' : I2cLog}
    (first : Undisturbed s log s' log') (second : Undisturbed s' log' s'' log'') :
    Undisturbed s log s'' log'' :=
  ⟨second.readings.trans first.readings, second.calibration.trans first.calibration⟩

/-- Reading one register brings no reading. -/
theorem bbI2cReadReg_readings (bus : I2cBus) (dev reg : UInt8) :
    (bbI2cReadReg bus dev reg).2.2.log.readings = bus.log.readings := by
  unfold bbI2cReadReg I2cBus.transfer
  dsimp only
  -- Whatever the reply, a single register is no reading.
  cases bus.devices bus.log (.readReg dev reg) with
  | ack data => rfl
  | nack byte => rfl

/-- Writing a register brings no reading. -/
theorem bbI2cWriteReg_readings (bus : I2cBus) (dev reg val : UInt8) :
    (bbI2cWriteReg bus dev reg val).2.log.readings = bus.log.readings := by
  unfold bbI2cWriteReg I2cBus.transfer
  dsimp only
  -- Whatever the reply, a write is no reading.
  cases bus.devices bus.log (.writeReg dev reg val) with
  | ack data => rfl
  | nack byte => rfl

/-- A configuration sequence brings no reading. -/
theorem configureRegisters_readings (bus : I2cBus) (dev : UInt8) (codeMask : UInt32)
    (writes : List (UInt8 × UInt8 × UInt32)) :
    (configureRegisters bus dev codeMask writes).2.log.readings = bus.log.readings := by
  -- The induction is on the registers still to be written.
  induction writes generalizing bus with
  | nil => rfl
  | cons write rest ih =>
    obtain ⟨reg, val, base⟩ := write
    have one := bbI2cWriteReg_readings bus dev reg val
    simp only [configureRegisters]
    split
    · exact one
    · exact (ih _).trans one

/-- A block read that fails, or starts at another register, brings no reading; one of all the data
that succeeds brings the reading that its buffer spells. -/
theorem bbI2cReadRegs_readings (bus : I2cBus) (dev reg : UInt8) (len : Nat) :
    (bbI2cReadRegs bus dev reg len).2.2.log.readings =
      if (bbI2cReadRegs bus dev reg len).1 = 0 ∧ reg = mpu6050AccelXoutH ∧ len = 14 then
        .ofBytes (bbI2cReadRegs bus dev reg len).2.1 :: bus.log.readings
      else bus.log.readings := by
  unfold bbI2cReadRegs I2cBus.transfer
  by_cases nothing : len = 0
  · rw [if_pos nothing]
    exact (if_neg fun whole => absurd whole.1 (show (10 : UInt32) ≠ 0 by decide)).symm
  rw [if_neg nothing]
  dsimp only
  -- Only a reply with data to the whole read is a reading.
  cases bus.devices bus.log (.readRegs dev reg len) with
  | ack data =>
    by_cases whole : reg = mpu6050AccelXoutH ∧ len = 14
    · obtain ⟨rfl, rfl⟩ := whole
      rfl
    · simp only [true_and, if_neg whole, I2cLog.readings]
      rw [List.filterMap_cons_none]
      exact if_neg whole
  | nack byte =>
    have refused : byte.code ≠ 0 := by
      cases byte <;> decide
    simp only [refused, false_and, if_false]
    rfl

/-- The magnetometer's part of a probe brings no reading of the inertial sensor. -/
theorem hmc5883lReadRawOnce_undisturbed (s : Sensors) (bus : I2cBus) :
    Undisturbed s bus.log (hmc5883lReadRawOnce s bus).2.1 (hmc5883lReadRawOnce s bus).2.2.log := by
  obtain ⟨done, axes, valid, same, -, -⟩ := hmc5883lReadRawOnce_spec s bus
  refine ⟨?_, by rw [same]; rfl⟩
  -- Neither the configuration nor the read is one of the inertial sensor.
  have configured : (hmc5883lConfigOnce s bus).2.2.log.readings = bus.log.readings := by
    have written := configureRegisters_readings bus hmc5883lAddr 0xf hmcConfigWrites
    unfold hmc5883lConfigOnce
    split
    · rfl
    · dsimp only
      split
      · exact written
      · exact written
  have read := bbI2cReadRegs_readings (hmc5883lConfigOnce s bus).2.2 hmc5883lAddr 0x03 6
  rw [if_neg fun whole => absurd whole.2.2 (by decide), configured] at read
  unfold hmc5883lReadRawOnce
  dsimp only
  split
  · exact configured
  · split
    · exact read
    · split
      · exact read
      · exact read

/-- The probe of the magnetometer leaves the calibration alone. -/
theorem hmcProbe_undisturbed (sensing : Sensing) (bus : I2cBus) (a b c : UInt8) :
    Undisturbed sensing.sensors bus.log (hmcProbe sensing bus a b c).1.sensors
      (hmcProbe sensing bus a b c).2.log := by
  unfold hmcProbe
  dsimp only
  -- Without the right identity nothing more is asked.
  split
  · have read := hmc5883lReadRawOnce_undisturbed { sensing.sensors with
      hmcIdA := a, hmcIdB := b, hmcIdC := c, hmcBus := 100, hmcScanMask := 0x80000000
      hmcOk := true, i2cLastErr := 0 } bus
    refine ⟨read.readings, ?_⟩
    split
    · exact read.calibration
    · exact read.calibration
  · exact ⟨rfl, rfl⟩

/-- Correcting the readings leaves the calibration alone. -/
theorem sensorUpdateCorrectedOnce_calibration (sensing : Sensing) :
    (sensorUpdateCorrectedOnce sensing).sensors.calibration = sensing.sensors.calibration := by
  obtain ⟨_, _, _, _, kept⟩ := (sensorUpdateCorrectedOnce_corrected sensing).kept
  rw [kept]
  rfl

/-- With valid data, a calibration step takes the reading that is held. -/
theorem mpu6050CalUpdateOnce_calibration {s : Sensors} (valid : s.mpuDataOk = true) :
    (mpu6050CalUpdateOnce s).calibration = s.calibration.take s.calibration.last := by
  unfold mpu6050CalUpdateOnce Calibration.take
  simp only [valid, Bool.not_true, Bool.false_eq_true, if_false]
  cases finished : s.mpuCalDone with
  -- The calibration is over: the sample is not taken.
  | true => simp [Sensors.calibration, finished]
  | false =>
    simp only [Sensors.calibration, finished, Bool.false_eq_true, if_false]
    split
    · rfl
    · rfl

/-- Sensors that are ready show the last acceleration as it is, and the last rates less the bias. -/
def Sensors.Honest (s : Sensors) : Prop :=
  s.sensorReady = true → s.mpuCalDone = true ∧ s.mpuAccCorr = s.mpuAcc ∧
    s.mpuGyroCorr = s.mpuGyro.sub s.mpuGyroBias

/-- What the correction shows, it shows of the reading that is held. -/
theorem sensorUpdateCorrectedOnce_honest (sensing : Sensing) :
    (sensorUpdateCorrectedOnce sensing).sensors.Honest := by
  intro ready
  -- What the correction wrote, it wrote from the reading that is held.
  have corrected := sensorUpdateCorrectedOnce_corrected sensing
  have acc := corrected.acc ready
  have gyro := corrected.gyro ready
  have done := (corrected.checks.mp ready).2.2.2.2
  obtain ⟨_, _, _, _, kept⟩ := corrected.kept
  refine ⟨done, acc.trans ?_, gyro.trans ?_⟩
  · rw [kept]
  · rw [kept]

/-- The attitude and the body axes are no part of the sensor variables. -/
theorem afterMpuRead_sensors (sensing : Sensing) :
    (afterMpuRead sensing).sensors = (sensorUpdateCorrectedOnce
      { sensing with sensors := mpu6050CalUpdateOnce sensing.sensors }).sensors := by
  unfold afterMpuRead
  dsimp only
  generalize sensorUpdateCorrectedOnce
    { sensing with sensors := mpu6050CalUpdateOnce sensing.sensors } = middle
  -- Neither of the two updates that follow is one of the sensors.
  have attitude : (attitudeUpdateDebugOnce middle).sensors = middle.sensors := by
    unfold attitudeUpdateDebugOnce
    dsimp only
    split_ifs <;> rfl
  have body : (bodyAxisUpdateOnce (attitudeUpdateDebugOnce middle)).sensors =
      (attitudeUpdateDebugOnce middle).sensors := by
    unfold bodyAxisUpdateOnce
    dsimp only
    split_ifs <;> rfl
  exact body.trans attitude

/-- After a read of the inertial sensor, the calibration has taken it. -/
theorem afterMpuRead_calibration {sensing : Sensing} (valid : sensing.sensors.mpuDataOk = true) :
    (afterMpuRead sensing).sensors.calibration =
      sensing.sensors.calibration.take sensing.sensors.calibration.last := by
  rw [afterMpuRead_sensors, sensorUpdateCorrectedOnce_calibration]
  exact mpu6050CalUpdateOnce_calibration valid

/-- A read of the inertial sensor fails, or brings one reading, which is then held. -/
theorem mpu6050ReadRawOnce_cases (s : Sensors) (bus : I2cBus) (addr : UInt8) :
    let read := mpu6050ReadRawOnce s bus addr
    (read.1 ≠ 0 ∧ Undisturbed s bus.log read.2.1 read.2.2.log) ∨
      ∃ reading, read.1 = 0 ∧ read.2.1.mpuDataOk = true ∧
        read.2.1.calibration = { s.calibration with last := reading } ∧
        read.2.2.log.readings = reading :: bus.log.readings := by
  intro read
  have configured : Undisturbed s bus.log (mpu6050ConfigOnce s bus addr).2.1
      (mpu6050ConfigOnce s bus addr).2.2.log := by
    have written := configureRegisters_readings bus addr 0xff mpuConfigWrites
    unfold mpu6050ConfigOnce
    split
    · exact ⟨rfl, rfl⟩
    · dsimp only
      split
      · exact ⟨written, rfl⟩
      · exact ⟨written, rfl⟩
  have block := bbI2cReadRegs_readings (mpu6050ConfigOnce s bus addr).2.2 addr mpu6050AccelXoutH 14
  rw [configured.readings] at block
  have outcome : read = mpu6050ReadRawOnce s bus addr := rfl
  unfold mpu6050ReadRawOnce at outcome
  dsimp only at outcome
  split at outcome
  · rename_i failed
    rw [outcome]
    refine Or.inl ⟨?_, configured.readings, configured.calibration⟩
    show 0x200 ||| ((mpu6050ConfigOnce s bus addr).1 &&& 0xff) ≠ 0
    intro zero
    exact absurd (UInt32.or_eq_zero_iff.mp zero).1 (by decide)
  · split at outcome
    · -- Neither does a failed block read bring one.
      rename_i failed
      rw [if_neg fun whole => failed whole.1] at block
      rw [outcome]
      refine Or.inl ⟨?_, block, configured.calibration⟩
      show 0x300 ||| ((bbI2cReadRegs _ addr mpu6050AccelXoutH 14).1 &&& 0xff) ≠ 0
      intro zero
      exact absurd (UInt32.or_eq_zero_iff.mp zero).1 (by decide)
    · rename_i success
      rw [if_pos ⟨not_not.mp success, rfl, rfl⟩] at block
      rw [outcome]
      refine Or.inr ⟨_, rfl, rfl, ?_, block⟩
      rw [← configured.calibration]
      rfl

/-- What a probe makes of the calibration: it takes the reading that the probe brought, if any. -/
structure Takes (before : Calibration) (log : I2cLog) (after : Sensors) (log' : I2cLog) : Prop where
  brought : log'.readings = log.readings ∧ after.calibration = before ∨
    ∃ reading, log'.readings = reading :: log.readings ∧ after.calibration = before.take reading
  honest : after.Honest

/-- The probe of the inertial sensor takes what it read. -/
theorem mpuFinish_takes (sensing : Sensing) (bus : I2cBus) (addr who : UInt8) :
    Takes sensing.sensors.calibration bus.log
      (mpuFinish (mpuProbeAt sensing bus addr who)).1.sensors
      (mpuFinish (mpuProbeAt sensing bus addr who)).2.log := by
  have read := mpu6050ReadRawOnce_cases
    { sensing.sensors with mpuWhoami := who, mpuOk := true, mpuAddrFound := addr } bus addr
  unfold mpuProbeAt
  dsimp only at read ⊢
  generalize mpu6050ReadRawOnce _ bus addr = result at read ⊢
  obtain ⟨ret, s, after⟩ := result
  dsimp only at read ⊢
  -- A read that failed takes nothing, and one that succeeded takes its reading.
  obtain ⟨failed, still⟩ | ⟨reading, success, valid, held, brought⟩ := read
  · rw [if_pos failed]
    refine ⟨Or.inl ⟨still.readings, ?_⟩, sensorUpdateCorrectedOnce_honest _⟩
    exact (sensorUpdateCorrectedOnce_calibration _).trans still.calibration
  · rw [if_neg (not_not.mpr success)]
    refine ⟨Or.inr ⟨reading, brought, ?_⟩, ?_⟩
    · show (afterMpuRead { sensing with sensors := s }).sensors.calibration = _
      rw [afterMpuRead_calibration valid]
      show s.calibration.take s.calibration.last = _
      rw [held]
      rfl
    · show (afterMpuRead { sensing with sensors := s }).sensors.Honest
      rw [afterMpuRead_sensors]
      exact sensorUpdateCorrectedOnce_honest _

/-- The probe of the inertial sensor takes the reading that it brought, if any. -/
theorem mpuProbe_takes (sensing : Sensing) (bus : I2cBus) :
    Takes sensing.sensors.calibration bus.log (mpuProbe sensing bus).1.sensors
      (mpuProbe sensing bus).2.log := by
  have first := bbI2cReadReg_readings bus mpu6050Addr0 mpu6050WhoamiReg
  have second := (bbI2cReadReg_readings (bbI2cReadReg bus mpu6050Addr0 mpu6050WhoamiReg).2.2
    mpu6050Addr1 mpu6050WhoamiReg).trans first
  obtain ⟨-, same⟩ | ⟨-, ⟨-, same⟩ | ⟨-, same⟩⟩ := mpuProbe_cases sensing bus
  · rw [same]
    obtain ⟨brought, honest⟩ := mpuFinish_takes sensing
      (bbI2cReadReg bus mpu6050Addr0 mpu6050WhoamiReg).2.2 mpu6050Addr0
      (bbI2cReadReg bus mpu6050Addr0 mpu6050WhoamiReg).2.1
    rw [first] at brought
    exact ⟨brought, honest⟩
  · -- Only the second address answered.
    rw [same]
    obtain ⟨brought, honest⟩ := mpuFinish_takes sensing
      (bbI2cReadReg (bbI2cReadReg bus mpu6050Addr0 mpu6050WhoamiReg).2.2 mpu6050Addr1
        mpu6050WhoamiReg).2.2 mpu6050Addr1
      (bbI2cReadReg (bbI2cReadReg bus mpu6050Addr0 mpu6050WhoamiReg).2.2 mpu6050Addr1
        mpu6050WhoamiReg).2.1
    rw [second] at brought
    exact ⟨brought, honest⟩
  · rw [same]
    exact ⟨Or.inl ⟨second, sensorUpdateCorrectedOnce_calibration _⟩,
      sensorUpdateCorrectedOnce_honest _⟩

/-- A probe takes what it read, and nothing else changes the calibration. -/
theorem ampI2cProbeOnce_takes (sensing : Sensing) (devices : I2cDevices) :
    Takes sensing.sensors.calibration [] (ampI2cProbeOnce sensing ⟨devices, []⟩).1.sensors
      (ampI2cProbeOnce sensing ⟨devices, []⟩).2.log := by
  obtain ⟨after, identification, ends⟩ := ampI2cProbeOnce_cases sensing ⟨devices, []⟩
  -- The identification of the magnetometer brings no reading.
  have quiet : after.log.readings = [] := by
    obtain ⟨entries, logged, only⟩ := identification.logged
    unfold I2cLog.readings
    rw [logged, List.filterMap_append, List.append_eq_nil_iff]
    refine ⟨List.filterMap_eq_nil_iff.mpr fun entry member => ?_, rfl⟩
    obtain ⟨reg, -, asked⟩ := only entry member
    obtain ⟨transfer, reply⟩ := entry
    obtain rfl : transfer = .readReg hmc5883lAddr reg := asked
    rfl
  obtain ⟨code, same⟩ | ⟨a, b, c, same⟩ := ends
  · rw [same]
    exact ⟨Or.inl ⟨quiet, sensorUpdateCorrectedOnce_calibration _⟩,
      sensorUpdateCorrectedOnce_honest _⟩
  · rw [same]
    have magnetic := hmcProbe_undisturbed (probeReset sensing) after a b c
    obtain ⟨brought, honest⟩ := mpuProbe_takes (hmcProbe (probeReset sensing) after a b c).1
      (hmcProbe (probeReset sensing) after a b c).2
    rw [magnetic.readings, magnetic.calibration, quiet] at brought
    exact ⟨brought, honest⟩

end Steps

section History

/-- The sums of some readings, axis by axis. -/
def Axes.total (all : List Axes) : Axes := all.foldl Axes.add {}

/-- A further reading is added to the sums. -/
theorem Axes.total_concat (all : List Axes) (one : Axes) :
    Axes.total (all ++ [one]) = (Axes.total all).add one := by
  unfold Axes.total
  rw [List.foldl_append]
  rfl

/-- What the calibration comes to after some readings, the oldest first. -/
structure Means (readings : List MpuReading) (c : Calibration) : Prop where
  count : c.count = min readings.length mpuCalTargetCount
  done : c.done = true ↔ mpuCalTargetCount ≤ readings.length
  accSum : c.accSum = Axes.total ((readings.take mpuCalTargetCount).map (·.acc))
  gyroSum : c.gyroSum = Axes.total ((readings.take mpuCalTargetCount).map (·.gyro))
  accBias : c.done = true → c.accBias = c.accSum.div mpuCalTargetCount
  gyroBias : c.done = true → c.gyroBias = c.gyroSum.div mpuCalTargetCount
  last : ∀ reading ∈ readings.getLast?, c.last = reading

/-- One more reading is summed up until there are enough, and then changes nothing but the last. -/
theorem Means.take {readings : List MpuReading} {c : Calibration} (means : Means readings c)
    (reading : MpuReading) : Means (readings ++ [reading]) (c.take reading) := by
  have last : ∀ newest ∈ (readings ++ [reading]).getLast?, reading = newest := by simp
  unfold Calibration.take
  dsimp only
  split
  · -- The calibration is done, and keeps its sums and biases.
    rename_i done
    have enough := means.done.mp done
    have first : (readings ++ [reading]).take mpuCalTargetCount = readings.take mpuCalTargetCount :=
      List.take_append_of_le_length enough
    refine ⟨?_, ?_, ?_, ?_, means.accBias, means.gyroBias, last⟩
    · rw [List.length_append, List.length_singleton]
      have count := means.count
      dsimp only
      omega
    · rw [List.length_append, List.length_singleton]
      exact iff_of_true done (by omega)
    · rw [first]
      exact means.accSum
    · rw [first]
      exact means.gyroSum
  · rename_i pending
    have few : readings.length < mpuCalTargetCount := by
      have done := means.done
      by_contra enough
      exact pending (done.mpr (by omega))
    have before : readings.take mpuCalTargetCount = readings := List.take_of_length_le few.le
    have now : (readings ++ [reading]).take mpuCalTargetCount = readings ++ [reading] := by
      apply List.take_of_length_le
      rw [List.length_append, List.length_singleton]
      exact few
    have count : c.count = readings.length := by
      rw [means.count]
      omega
    have acc := means.accSum
    have gyro := means.gyroSum
    rw [before] at acc gyro
    have accSum : c.accSum.add reading.acc = Axes.total ((readings ++ [reading]).map (·.acc)) := by
      rw [acc, List.map_append]
      exact (Axes.total_concat _ _).symm
    have gyroSum : c.gyroSum.add reading.gyro =
        Axes.total ((readings ++ [reading]).map (·.gyro)) := by
      rw [gyro, List.map_append]
      exact (Axes.total_concat _ _).symm
    split
    · -- This reading is the one that completes the calibration.
      rename_i complete
      have exactly : c.count + 1 = mpuCalTargetCount := by omega
      refine ⟨?_, ?_, ?_, ?_, ?_, ?_, last⟩
      · rw [List.length_append, List.length_singleton]
        dsimp only
        omega
      · rw [List.length_append, List.length_singleton]
        exact iff_of_true rfl (by omega)
      · rw [now]
        exact accSum
      · rw [now]
        exact gyroSum
      · intro _
        rw [← exactly]
      · intro _
        rw [← exactly]
    · rename_i short
      refine ⟨?_, ?_, ?_, ?_, fun done => absurd done pending, fun done => absurd done pending,
        last⟩
      · rw [List.length_append, List.length_singleton]
        dsimp only
        omega
      · rw [List.length_append, List.length_singleton]
        exact iff_of_false pending (by omega)
      · rw [now]
        exact accSum
      · rw [now]
        exact gyroSum

/-- The readings that the first `n` probes of a history brought, the oldest first. -/
def readingsBefore (devices : Nat → I2cDevices) (n : Nat) : List MpuReading :=
  (List.range n).flatMap fun i => (probeAt {} devices i).2.log.readings.reverse

/-- Over every history of probes, the calibration counts the readings that the bus has brought, and
is done once there are fifty; the biases are the truncated means of the first fifty, whatever comes
later; and sensors that are ready show the acceleration of the last reading as it is, and its rates
less the bias. -/
theorem bias_of_first_readings (devices : Nat → I2cDevices) (n : Nat) :
    let s := (sensingBefore {} devices n).sensors
    let readings := readingsBefore devices n
    let first := readings.take mpuCalTargetCount
    s.mpuCalCount = min readings.length mpuCalTargetCount ∧
      (s.mpuCalDone = true ↔ mpuCalTargetCount ≤ readings.length) ∧
      (s.mpuCalDone = true →
        s.mpuAccBias = (Axes.total (first.map (·.acc))).div mpuCalTargetCount ∧
          s.mpuGyroBias = (Axes.total (first.map (·.gyro))).div mpuCalTargetCount) ∧
      (s.sensorReady = true → ∃ newest, readings.getLast? = some newest ∧
        mpuCalTargetCount ≤ readings.length ∧ s.mpuAccCorr = newest.acc ∧
        s.mpuGyroCorr = newest.gyro.sub s.mpuGyroBias) := by
  intro s readings first
  have whole : Means readings s.calibration ∧ s.Honest := by
    -- The induction is on the probes, each of which takes what it read.
    unfold s readings
    clear s readings first
    induction n with
    | zero =>
      refine ⟨⟨rfl, ?_, rfl, rfl, nofun, nofun, nofun⟩, nofun⟩
      exact iff_of_false nofun (by simp [readingsBefore, mpuCalTargetCount])
    | succ n ih =>
      have step : sensingBefore {} devices (n + 1) = (probeAt {} devices n).1 := rfl
      obtain ⟨brought, honest⟩ := ampI2cProbeOnce_takes (sensingBefore {} devices n) (devices n)
      have grown : readingsBefore devices (n + 1) =
          readingsBefore devices n ++ (probeAt {} devices n).2.log.readings.reverse := by
        unfold readingsBefore
        rw [List.range_succ, List.flatMap_append, List.flatMap_singleton]
      rw [step, grown]
      refine ⟨?_, honest⟩
      obtain ⟨none, kept⟩ | ⟨reading, one, taken⟩ := brought
      · rw [show (probeAt {} devices n).2.log.readings = [] from none, List.reverse_nil,
          List.append_nil, show (probeAt {} devices n).1.sensors.calibration = _ from kept]
        exact ih.1
      · rw [show (probeAt {} devices n).2.log.readings = [reading] from one,
          List.reverse_singleton,
          show (probeAt {} devices n).1.sensors.calibration = _ from taken]
        exact ih.1.take reading
  obtain ⟨means, honest⟩ := whole
  have enough : s.mpuCalDone = true ↔ mpuCalTargetCount ≤ readings.length := means.done
  refine ⟨means.count, enough, ?_, ?_⟩
  · intro done
    have acc := means.accBias done
    have gyro := means.gyroBias done
    rw [means.accSum] at acc
    rw [means.gyroSum] at gyro
    exact ⟨acc, gyro⟩
  · intro ready
    obtain ⟨done, acc, gyro⟩ := honest ready
    cases newest : readings.getLast? with
    | none =>
      have empty := List.getLast?_eq_none_iff.mp newest
      have long := enough.mp done
      rw [empty] at long
      exact absurd long (by decide)
    | some reading =>
      have held : s.calibration.last = reading := means.last reading newest
      have sameAcc : s.mpuAcc = reading.acc := congrArg (·.acc) held
      have sameGyro : s.mpuGyro = reading.gyro := congrArg (·.gyro) held
      exact ⟨reading, rfl, enough.mp done, acc.trans sameAcc, by rw [gyro, sameGyro]⟩

end History

end AmpFc.Firmware
