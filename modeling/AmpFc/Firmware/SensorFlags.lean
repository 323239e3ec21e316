import AmpFc.Firmware.ProbeSteps
import AmpFc.Lib.Execution

/-! The flags of the sensor pipeline agree after every probe, and what is shown was just read. -/

namespace AmpFc.Firmware

section Decoding

/-- The magnetic field in the six bytes of the magnetometer. -/
def magneticAxes (buf : List UInt8) : Axes :=
  { x := signedHalf buf 0, y := signedHalf buf 4, z := signedHalf buf 2 }

/-- The acceleration in the fourteen bytes of the inertial sensor. -/
def accelerationAxes (buf : List UInt8) : Axes :=
  { x := signedHalf buf 0, y := signedHalf buf 2, z := signedHalf buf 4 }

/-- The angular rates in the same bytes. -/
def gyroAxes (buf : List UInt8) : Axes :=
  { x := signedHalf buf 8, y := signedHalf buf 10, z := signedHalf buf 12 }

/-- The length of the acceleration across the roll axis, as `attitude_update_debug_once` has it. -/
def horizontalLength (acc : Axes) : Int :=
  let ay := UInt64.ofNat (ampAbs32ToU32 acc.y)
  let az := UInt64.ofNat (ampAbs32ToU32 acc.z)
  (ampIsqrt64 (ay * ay + az * az)).toInt32.toInt

/-- The heading of a magnetic field, between zero and a full turn. -/
def headingCd (magnetic : Axes) : Int :=
  let yaw := ampAtan2CdApprox magnetic.y magnetic.x
  if yaw < 0 then yaw + 36000 else yaw

/-- Body angles and body rates come from these readings, the gyro bias, and the level trim. -/
structure BodyFrom (a : Attitude) (acc gyro magnetic bias : Axes) : Prop where
  trimmed : a.levelTrimDone = true
  roll : a.bodyRollCd = bodyRollSign * (ampAtan2CdApprox acc.y acc.z - a.levelRollCd)
  pitch : a.bodyPitchCd =
    bodyPitchSign * (ampAtan2CdApprox (-acc.x) (horizontalLength acc) - a.levelPitchCd)
  yaw : a.bodyYawCd = bodyYawSign * headingCd magnetic
  rateRoll : a.bodyRateRollRaw = bodyRollSign * (gyro.x - bias.x)
  ratePitch : a.bodyRatePitchRaw = bodyPitchSign * (gyro.y - bias.y)
  rateYaw : a.bodyRateYawRaw = bodyYawSign * (gyro.z - bias.z)

end Decoding

section Flags

/-- Every check that `sensor_update_corrected_once` makes. -/
def Sensors.ChecksPass (s : Sensors) : Prop :=
  s.hmcOk = true ∧ s.hmcDataOk = true ∧ s.mpuOk = true ∧ s.mpuDataOk = true ∧ s.mpuCalDone = true

/-- The sensors are ready exactly if all checks pass, no error is set, the attitude is valid. -/
structure FlagsAgree (sensing : Sensing) : Prop where
  checks : sensing.sensors.sensorReady = true ↔ sensing.sensors.ChecksPass
  error : sensing.sensors.sensorReady = true ↔ sensing.sensors.sensorStateError = sensorStateOk
  attitude : sensing.sensors.sensorReady = true ↔ sensing.attitude.attOk = true

/-- What decides about readiness, and what the corrected readings are then made of. -/
structure Corrected (before after : Sensing) : Prop where
  checks : after.sensors.sensorReady = true ↔ after.sensors.ChecksPass
  error : after.sensors.sensorReady = true ↔ after.sensors.sensorStateError = sensorStateOk
  withdrawn : after.attitude = { before.attitude with attOk := false }
  acc : after.sensors.sensorReady = true → after.sensors.mpuAccCorr = before.sensors.mpuAcc
  gyro : after.sensors.sensorReady = true →
    after.sensors.mpuGyroCorr = before.sensors.mpuGyro.sub before.sensors.mpuGyroBias
  kept : ∃ ready error acc gyro, after.sensors = { before.sensors with
    sensorReady := ready, sensorStateError := error, mpuAccCorr := acc, mpuGyroCorr := gyro }

/-- A failing check withdraws readiness and reports an error. -/
theorem Corrected.failed {sensing : Sensing} (fails : ¬ sensing.sensors.ChecksPass)
    {error : UInt32} (reported : error ≠ sensorStateOk) :
    Corrected sensing
      ⟨{ sensing.sensors with sensorReady := false, sensorStateError := error },
        { sensing.attitude with attOk := false }⟩ where
  checks := ⟨nofun, fun pass => absurd pass fails⟩
  error := ⟨nofun, fun none => absurd none reported⟩
  withdrawn := rfl
  acc := nofun
  gyro := nofun
  kept := ⟨_, _, _, _, rfl⟩

/-- The correction does what its name says, and nothing else. -/
theorem sensorUpdateCorrectedOnce_corrected (sensing : Sensing) :
    Corrected sensing (sensorUpdateCorrectedOnce sensing) := by
  unfold sensorUpdateCorrectedOnce
  dsimp only
  -- The first failing check alone is reported, and with none the sensors are ready.
  split
  · rename_i bad
    have reported : sensorStateOk ||| sensorStateHmcBad ≠ sensorStateOk := by decide
    refine Corrected.failed ?_ reported
    intro pass
    simp [pass.1, pass.2.1] at bad
  · rename_i magnetic
    split
    · rename_i bad
      have reported : sensorStateOk ||| sensorStateMpuBad ≠ sensorStateOk := by decide
      refine Corrected.failed ?_ reported
      intro pass
      simp [pass.2.2.1, pass.2.2.2.1] at bad
    · rename_i inertial
      split
      · rename_i uncalibrated
        have reported : sensorStateOk ||| sensorStateMpuCal ≠ sensorStateOk := by decide
        refine Corrected.failed ?_ reported
        intro pass
        simp [pass.2.2.2.2] at uncalibrated
      · -- All checks pass, and the corrected readings are made.
        rename_i calibrated
        refine ⟨?_, by simp, rfl, fun _ => rfl, fun _ => rfl, ⟨_, _, _, _, rfl⟩⟩
        simp only [Bool.or_eq_true, Bool.not_eq_true', not_or, Bool.not_eq_false] at magnetic
        simp only [Bool.or_eq_true, Bool.not_eq_true', not_or, Bool.not_eq_false] at inertial
        simp only [Bool.not_eq_true', Bool.not_eq_false] at calibrated
        simp [Sensors.ChecksPass, magnetic, inertial, calibrated]

/-- With a failing check all flags agree on not being ready. -/
theorem Corrected.flagsAgree {before after : Sensing} (corrected : Corrected before after)
    (unready : after.sensors.sensorReady = false) : FlagsAgree after where
  checks := corrected.checks
  error := corrected.error
  attitude := by
    -- The attitude was withdrawn with the readiness.
    rw [corrected.withdrawn, unready]

end Flags

section Stages

/-- Calibration and level trim, which are set once and never again. -/
structure Frozen (before after : Sensing) : Prop where
  calibrated : before.sensors.mpuCalDone = true → after.sensors.mpuCalDone = true ∧
    after.sensors.mpuGyroBias = before.sensors.mpuGyroBias
  trimmed : before.attitude.levelTrimDone = true → after.attitude.levelTrimDone = true ∧
    after.attitude.levelRollCd = before.attitude.levelRollCd ∧
    after.attitude.levelPitchCd = before.attitude.levelPitchCd

/-- What stays the same is frozen. -/
theorem Frozen.refl (sensing : Sensing) : Frozen sensing sensing :=
  ⟨fun done => ⟨done, rfl⟩, fun done => ⟨done, rfl, rfl⟩⟩

/-- What two steps freeze, both together freeze. -/
theorem Frozen.trans {first second third : Sensing} (before : Frozen first second)
    (after : Frozen second third) : Frozen first third where
  calibrated done := by
    -- What was done before is done in between, and stays so.
    obtain ⟨still, bias⟩ := before.calibrated done
    obtain ⟨last, bias'⟩ := after.calibrated still
    exact ⟨last, bias'.trans bias⟩
  trimmed done := by
    obtain ⟨still, roll, pitch⟩ := before.trimmed done
    obtain ⟨last, roll', pitch'⟩ := after.trimmed still
    exact ⟨last, roll'.trans roll, pitch'.trans pitch⟩

/-- The correction leaves everything that is frozen alone. -/
theorem Corrected.frozen {before after : Sensing} (corrected : Corrected before after) :
    Frozen before after := by
  -- The correction writes neither the biases nor the level trim.
  obtain ⟨ready, error, acc, gyro, kept⟩ := corrected.kept
  refine ⟨?_, ?_⟩
  · intro done
    rw [kept]
    exact ⟨done, rfl⟩
  · intro done
    rw [corrected.withdrawn]
    exact ⟨done, rfl, rfl⟩

/-- A calibration step writes the calibration only, and nothing once it is done. -/
theorem mpu6050CalUpdateOnce_kept (s : Sensors) :
    ∃ count done accSum gyroSum accBias gyroBias,
      mpu6050CalUpdateOnce s = { s with
        mpuCalCount := count, mpuCalDone := done, mpuAccSum := accSum, mpuGyroSum := gyroSum
        mpuAccBias := accBias, mpuGyroBias := gyroBias } ∧
      (s.mpuCalDone = true → done = true ∧ gyroBias = s.mpuGyroBias) := by
  unfold mpu6050CalUpdateOnce
  -- Without valid data it waits, and once done it returns at once.
  split
  · exact ⟨_, _, _, _, _, _, rfl, fun done => ⟨done, rfl⟩⟩
  · split
    · exact ⟨_, _, _, _, _, _, rfl, fun done => ⟨done, rfl⟩⟩
    · -- A further reading is summed up, and the last one completes the calibration.
      rename_i pending
      dsimp only
      split
      · exact ⟨_, _, _, _, _, _, rfl, fun done => absurd done pending⟩
      · exact ⟨_, _, _, _, _, _, rfl, fun done => absurd done pending⟩

/-- With the sensors ready, the attitude is that of the corrected readings. -/
theorem attitudeUpdateDebugOnce_ready {sensing : Sensing}
    (ready : sensing.sensors.sensorReady = true) (pass : sensing.sensors.ChecksPass) :
    attitudeUpdateDebugOnce sensing = { sensing with
      attitude := { sensing.attitude with
        rateRollRaw := sensing.sensors.mpuGyroCorr.x
        ratePitchRaw := sensing.sensors.mpuGyroCorr.y
        rateYawRaw := sensing.sensors.mpuGyroCorr.z
        attRollCd := ampAtan2CdApprox sensing.sensors.mpuAccCorr.y sensing.sensors.mpuAccCorr.z
        attPitchCd := ampAtan2CdApprox (-sensing.sensors.mpuAccCorr.x)
          (horizontalLength sensing.sensors.mpuAccCorr)
        attYawCd := headingCd sensing.sensors.hmc
        attOk := true } } := by
  unfold attitudeUpdateDebugOnce
  simp only [ready, pass.2.1, pass.2.2.2.1, Bool.not_true, Bool.or_self, Bool.false_eq_true,
    if_false]
  rfl

/-- Without them it stays withdrawn, and the body axes are not updated. -/
theorem bodyAxis_unready {sensing : Sensing} (unready : sensing.sensors.sensorReady = false)
    (withdrawn : sensing.attitude.attOk = false) :
    bodyAxisUpdateOnce (attitudeUpdateDebugOnce sensing) = sensing := by
  -- The attitude is withdrawn already, so withdrawing it again changes nothing.
  have same : attitudeUpdateDebugOnce sensing = sensing := by
    unfold attitudeUpdateDebugOnce
    simp only [unready, Bool.not_false, if_true]
    rw [← withdrawn]
  rw [same]
  unfold bodyAxisUpdateOnce
  simp [unready]

/-- A valid attitude is mapped to the body, and the first one ever becomes the level trim. -/
theorem bodyAxisUpdateOnce_ready {sensing : Sensing}
    (ready : sensing.sensors.sensorReady = true) (valid : sensing.attitude.attOk = true) :
    let after := (bodyAxisUpdateOnce sensing).attitude
    (bodyAxisUpdateOnce sensing).sensors = sensing.sensors ∧ after.attOk = true ∧
      after.levelTrimDone = true ∧
      (sensing.attitude.levelTrimDone = true →
        after.levelRollCd = sensing.attitude.levelRollCd ∧
          after.levelPitchCd = sensing.attitude.levelPitchCd) ∧
      after.bodyRollCd = bodyRollSign * (sensing.attitude.attRollCd - after.levelRollCd) ∧
      after.bodyPitchCd = bodyPitchSign * (sensing.attitude.attPitchCd - after.levelPitchCd) ∧
      after.bodyYawCd = bodyYawSign * sensing.attitude.attYawCd ∧
      after.bodyRateRollRaw = bodyRollSign * sensing.attitude.rateRollRaw ∧
      after.bodyRatePitchRaw = bodyPitchSign * sensing.attitude.ratePitchRaw ∧
      after.bodyRateYawRaw = bodyYawSign * sensing.attitude.rateYawRaw := by
  unfold bodyAxisUpdateOnce
  cases done : sensing.attitude.levelTrimDone with
  -- The trim is there already, and is kept.
  | true => simp [ready, valid, done]
  -- The current attitude becomes the trim.
  | false => simp [ready, valid, done]

/-- With the sensors ready, attitude and body axes are made of the corrected readings. -/
theorem shown_agrees {middle : Sensing} {acc gyro magnetic : Axes}
    (checks : middle.sensors.sensorReady = true ↔ middle.sensors.ChecksPass)
    (error : middle.sensors.sensorReady = true ↔ middle.sensors.sensorStateError = sensorStateOk)
    (ready : middle.sensors.sensorReady = true) (sameAcc : middle.sensors.mpuAccCorr = acc)
    (sameGyro : middle.sensors.mpuGyroCorr = gyro.sub middle.sensors.mpuGyroBias)
    (field : middle.sensors.hmc = magnetic) :
    let after := bodyAxisUpdateOnce (attitudeUpdateDebugOnce middle)
    FlagsAgree after ∧ Frozen middle after ∧
      BodyFrom after.attitude acc gyro magnetic after.sensors.mpuGyroBias := by
  -- The attitude stage reads the corrected values, and the body stage reads the attitude.
  have updated := attitudeUpdateDebugOnce_ready ready (checks.mp ready)
  generalize attitudeUpdateDebugOnce middle = shown at updated ⊢
  intro after
  have sensors : shown.sensors = middle.sensors := by rw [updated]
  have shownOk : shown.attitude.attOk = true := by rw [updated]
  obtain ⟨same, attOk, trimmed, level, roll, pitch, yaw, rateRoll, ratePitch, rateYaw⟩ :=
    bodyAxisUpdateOnce_ready (by rw [sensors]; exact ready) shownOk
  have kept : after.sensors = middle.sensors := same.trans sensors
  refine ⟨⟨?_, ?_, ?_⟩, ⟨?_, ?_⟩, ⟨trimmed, ?_, ?_, ?_, ?_, ?_, ?_⟩⟩
  · rw [kept]
    exact checks
  · rw [kept]
    exact error
  · rw [kept, ready, attOk]
  · intro still
    rw [kept]
    exact ⟨still, rfl⟩
  · intro earlier
    have before : shown.attitude.levelTrimDone = true ∧
        shown.attitude.levelRollCd = middle.attitude.levelRollCd ∧
        shown.attitude.levelPitchCd = middle.attitude.levelPitchCd := by
      rw [updated]
      exact ⟨earlier, rfl, rfl⟩
    obtain ⟨sameRoll, samePitch⟩ := level before.1
    exact ⟨trimmed, sameRoll.trans before.2.1, samePitch.trans before.2.2⟩
  · have angle : shown.attitude.attRollCd = ampAtan2CdApprox acc.y acc.z := by
      rw [updated, ← sameAcc]
    rw [roll, angle]
  · have angle : shown.attitude.attPitchCd =
        ampAtan2CdApprox (-acc.x) (horizontalLength acc) := by
      rw [updated, ← sameAcc]
    rw [pitch, angle]
  · have angle : shown.attitude.attYawCd = headingCd magnetic := by
      rw [updated, ← field]
    rw [yaw, angle]
  · have rate : shown.attitude.rateRollRaw = gyro.x - middle.sensors.mpuGyroBias.x := by
      simp only [updated, sameGyro, Axes.sub]
    rw [rateRoll, rate, kept]
  · have rate : shown.attitude.ratePitchRaw = gyro.y - middle.sensors.mpuGyroBias.y := by
      simp only [updated, sameGyro, Axes.sub]
    rw [ratePitch, rate, kept]
  · have rate : shown.attitude.rateYawRaw = gyro.z - middle.sensors.mpuGyroBias.z := by
      simp only [updated, sameGyro, Axes.sub]
    rw [rateYaw, rate, kept]

/-- After a read of the inertial sensor flags agree, and body axes come from what was read. -/
theorem afterMpuRead_agrees (sensing : Sensing) :
    FlagsAgree (afterMpuRead sensing) ∧ Frozen sensing (afterMpuRead sensing) ∧
      ((afterMpuRead sensing).sensors.sensorReady = true → sensing.sensors.hmcDataOk = true ∧
        BodyFrom (afterMpuRead sensing).attitude sensing.sensors.mpuAcc sensing.sensors.mpuGyro
          sensing.sensors.hmc (afterMpuRead sensing).sensors.mpuGyroBias) := by
  unfold afterMpuRead
  dsimp only
  -- The calibration step touches nothing that was read.
  obtain ⟨count, done, accSum, gyroSum, accBias, gyroBias, calibrated, fixed⟩ :=
    mpu6050CalUpdateOnce_kept sensing.sensors
  have calibration : Frozen sensing
      { sensing with sensors := mpu6050CalUpdateOnce sensing.sensors } := by
    rw [calibrated]
    exact ⟨fixed, fun trimmed => ⟨trimmed, rfl, rfl⟩⟩
  have corrected := sensorUpdateCorrectedOnce_corrected
    { sensing with sensors := mpu6050CalUpdateOnce sensing.sensors }
  generalize sensorUpdateCorrectedOnce
    { sensing with sensors := mpu6050CalUpdateOnce sensing.sensors } = middle at corrected ⊢
  have frozen := calibration.trans corrected.frozen
  have withdrawn : middle.attitude.attOk = false := by rw [corrected.withdrawn]
  cases ready : middle.sensors.sensorReady with
  | false =>
    rw [bodyAxis_unready ready withdrawn]
    refine ⟨corrected.flagsAgree ready, frozen, ?_⟩
    intro impossible
    rw [ready] at impossible
    cases impossible
  | true =>
    have acc := corrected.acc ready
    have gyro := corrected.gyro ready
    obtain ⟨_, _, _, _, kept⟩ := corrected.kept
    rw [calibrated] at acc gyro kept
    -- Neither calibration nor correction touched the magnetic field or its flag.
    have magnetic : middle.sensors.hmc = sensing.sensors.hmc := by rw [kept]
    have bias : middle.sensors.mpuGyroBias = gyroBias := by rw [kept]
    have valid : sensing.sensors.hmcDataOk = true := by
      have pass := (corrected.checks.mp ready).2.1
      rw [kept] at pass
      exact pass
    rw [← bias] at gyro
    obtain ⟨flags, later, body⟩ :=
      shown_agrees corrected.checks corrected.error ready acc gyro magnetic
    exact ⟨flags, frozen.trans later, fun _ => ⟨valid, body⟩⟩

end Stages

section Traffic

/-- What an acknowledged block read of this traffic brought. -/
def WasRead (log : I2cLog) (dev reg : UInt8) (len : Nat) (buf : List UInt8) : Prop :=
  ∃ data, (.readRegs dev reg len, .ack data) ∈ log ∧ buf = data.take len

/-- What was read remains in the log. -/
theorem WasRead.later {before after : I2cLog} {dev reg : UInt8} {len : Nat} {buf : List UInt8}
    (read : WasRead before dev reg len buf) (later : before <:+ after) :
    WasRead after dev reg len buf := by
  obtain ⟨data, logged, same⟩ := read
  exact ⟨data, later.subset logged, same⟩

/-- A transaction is put on top of the log. -/
theorem transfer_later (bus : I2cBus) (transfer : I2cTransfer) :
    bus.log <:+ (bus.transfer transfer).2.log :=
  List.suffix_cons _ _

/-- A read of a register only adds to the log, -/
theorem bbI2cReadReg_later (bus : I2cBus) (dev reg : UInt8) :
    bus.log <:+ (bbI2cReadReg bus dev reg).2.2.log := by
  have later := transfer_later bus (.readReg dev reg)
  unfold bbI2cReadReg
  generalize bus.transfer (.readReg dev reg) = replied at later ⊢
  obtain ⟨reply, after⟩ := replied
  -- The log is the same for both replies.
  cases reply <;> exact later

/-- a write too, -/
theorem bbI2cWriteReg_later (bus : I2cBus) (dev reg val : UInt8) :
    bus.log <:+ (bbI2cWriteReg bus dev reg val).2.log := by
  have later := transfer_later bus (.writeReg dev reg val)
  unfold bbI2cWriteReg
  generalize bus.transfer (.writeReg dev reg val) = replied at later ⊢
  obtain ⟨reply, after⟩ := replied
  -- The log is the same for both replies.
  cases reply <;> exact later

/-- A block read that succeeds has brought what is in the buffer. -/
theorem bbI2cReadRegs_spec (bus : I2cBus) (dev reg : UInt8) (len : Nat) :
    bus.log <:+ (bbI2cReadRegs bus dev reg len).2.2.log ∧
      ((bbI2cReadRegs bus dev reg len).1 = 0 → WasRead (bbI2cReadRegs bus dev reg len).2.2.log
        dev reg len (bbI2cReadRegs bus dev reg len).2.1) := by
  have later := transfer_later bus (.readRegs dev reg len)
  unfold bbI2cReadRegs
  split
  -- A read of nothing is refused.
  · exact ⟨List.suffix_rfl, fun succeeded => absurd succeeded (show (10 : UInt32) ≠ 0 by decide)⟩
  cases replied : bus.devices bus.log (.readRegs dev reg len) with
  -- The reply and its data go into the log together.
  | ack data =>
    have transferred : bus.transfer (.readRegs dev reg len) =
        (.ack data, { bus with log := (.readRegs dev reg len, .ack data) :: bus.log }) := by
      unfold I2cBus.transfer
      rw [replied]
    rw [transferred] at later ⊢
    exact ⟨later, fun _ => ⟨data, List.mem_cons_self, rfl⟩⟩
  -- Each failure has a code of its own, and none of them is zero.
  | nack byte =>
    have transferred : bus.transfer (.readRegs dev reg len) =
        (.nack byte, { bus with log := (.readRegs dev reg len, .nack byte) :: bus.log }) := by
      unfold I2cBus.transfer
      rw [replied]
    rw [transferred] at later ⊢
    refine ⟨later, ?_⟩
    intro none
    cases byte <;> cases none

/-- and so does a list of writes. -/
theorem configureRegisters_later (bus : I2cBus) (dev : UInt8) (codeMask : UInt32)
    (writes : List (UInt8 × UInt8 × UInt32)) :
    bus.log <:+ (configureRegisters bus dev codeMask writes).2.log := by
  -- The induction is on the registers still to be written.
  induction writes generalizing bus with
  | nil => exact List.suffix_refl _
  | cons write rest ih =>
    obtain ⟨reg, val, base⟩ := write
    have later := bbI2cWriteReg_later bus dev reg val
    simp only [configureRegisters]
    generalize bbI2cWriteReg bus dev reg val = written at later ⊢
    obtain ⟨ret, after⟩ := written
    dsimp only at later ⊢
    split
    · exact later
    · -- The write was acknowledged, and the next register follows.
      exact later.trans (ih after)

/-- The readings of the magnetometer, if they are valid, are those of this traffic. -/
def MagneticRead (s : Sensors) (log : I2cLog) : Prop :=
  s.hmcDataOk = true → ∃ buf, WasRead log hmc5883lAddr 0x03 6 buf ∧ s.hmc = magneticAxes buf

/-- A reading of the magnetometer remains in the log. -/
theorem MagneticRead.later {s : Sensors} {before after : I2cLog} (magnetic : MagneticRead s before)
    (later : before <:+ after) : MagneticRead s after := by
  intro valid
  obtain ⟨buf, read, same⟩ := magnetic valid
  exact ⟨buf, read.later later, same⟩

/-- Reading the magnetometer writes its own variables, and marks only new readings valid. -/
theorem hmc5883lReadRawOnce_spec (s : Sensors) (bus : I2cBus) :
    ∃ done axes valid, (hmc5883lReadRawOnce s bus).2.1 =
        { s with hmcCfgDone := done, hmc := axes, hmcDataOk := valid } ∧
      bus.log <:+ (hmc5883lReadRawOnce s bus).2.2.log ∧
      MagneticRead (hmc5883lReadRawOnce s bus).2.1 (hmc5883lReadRawOnce s bus).2.2.log := by
  obtain ⟨done, configured, configLater⟩ : ∃ done,
      (hmc5883lConfigOnce s bus).2.1 = { s with hmcCfgDone := done } ∧
        bus.log <:+ (hmc5883lConfigOnce s bus).2.2.log := by
    have later := configureRegisters_later bus hmc5883lAddr 0xf hmcConfigWrites
    unfold hmc5883lConfigOnce
    split
    · exact ⟨s.hmcCfgDone, rfl, List.suffix_refl _⟩
    · generalize configureRegisters bus hmc5883lAddr 0xf hmcConfigWrites = written at later ⊢
      obtain ⟨ret, after⟩ := written
      dsimp only at later ⊢
      split
      · exact ⟨s.hmcCfgDone, rfl, later⟩
      · exact ⟨true, rfl, later⟩
  unfold hmc5883lReadRawOnce
  generalize hmc5883lConfigOnce s bus = config at configured configLater ⊢
  obtain ⟨ret, middle, after⟩ := config
  dsimp only at configured configLater ⊢
  subst configured
  split
  · -- The configuration failed, and the readings are marked invalid.
    exact ⟨_, _, _, rfl, configLater, nofun⟩
  · obtain ⟨readLater, read⟩ := bbI2cReadRegs_spec after hmc5883lAddr 0x03 6
    generalize bbI2cReadRegs after hmc5883lAddr 0x03 6 = block at readLater read ⊢
    obtain ⟨ret, buf, last⟩ := block
    dsimp only at readLater read ⊢
    split
    · exact ⟨_, _, _, rfl, configLater.trans readLater, nofun⟩
    · rename_i success
      split
      · exact ⟨_, _, _, rfl, configLater.trans readLater, nofun⟩
      · -- Only here are the readings marked valid.
        refine ⟨_, _, _, rfl, configLater.trans readLater, ?_⟩
        intro _
        exact ⟨buf, read (not_not.mp success), rfl⟩

/-- Reading the inertial sensor writes its own variables, and code zero means new readings. -/
theorem mpu6050ReadRawOnce_spec (s : Sensors) (bus : I2cBus) (addr : UInt8) :
    ∃ done found acc gyro valid, (mpu6050ReadRawOnce s bus addr).2.1 =
        { s with
          mpuCfgDone := done, mpuAddrFound := found
          mpuAcc := acc, mpuGyro := gyro, mpuDataOk := valid } ∧
      bus.log <:+ (mpu6050ReadRawOnce s bus addr).2.2.log ∧
      ((mpu6050ReadRawOnce s bus addr).1 = 0 → ∃ buf,
        WasRead (mpu6050ReadRawOnce s bus addr).2.2.log addr mpu6050AccelXoutH 14 buf ∧
        acc = accelerationAxes buf ∧ gyro = gyroAxes buf) := by
  obtain ⟨done, found, configured, configLater⟩ : ∃ done found,
      (mpu6050ConfigOnce s bus addr).2.1 = { s with mpuCfgDone := done, mpuAddrFound := found } ∧
        bus.log <:+ (mpu6050ConfigOnce s bus addr).2.2.log := by
    have later := configureRegisters_later bus addr 0xff mpuConfigWrites
    unfold mpu6050ConfigOnce
    split
    · exact ⟨s.mpuCfgDone, s.mpuAddrFound, rfl, List.suffix_refl _⟩
    · generalize configureRegisters bus addr 0xff mpuConfigWrites = written at later ⊢
      obtain ⟨ret, after⟩ := written
      dsimp only at later ⊢
      split
      · exact ⟨s.mpuCfgDone, s.mpuAddrFound, rfl, later⟩
      · exact ⟨true, addr, rfl, later⟩
  unfold mpu6050ReadRawOnce
  generalize mpu6050ConfigOnce s bus addr = config at configured configLater ⊢
  obtain ⟨ret, middle, after⟩ := config
  dsimp only at configured configLater ⊢
  subst configured
  split
  · refine ⟨_, _, _, _, _, rfl, configLater, ?_⟩
    -- The code of a failure has the bit of its stage set.
    intro none
    exact absurd (UInt32.or_eq_zero_iff.mp none).1 (by decide)
  · obtain ⟨readLater, read⟩ := bbI2cReadRegs_spec after addr mpu6050AccelXoutH 14
    generalize bbI2cReadRegs after addr mpu6050AccelXoutH 14 = block at readLater read ⊢
    obtain ⟨ret, buf, last⟩ := block
    dsimp only at readLater read ⊢
    split
    · refine ⟨_, _, _, _, _, rfl, configLater.trans readLater, ?_⟩
      intro none
      exact absurd (UInt32.or_eq_zero_iff.mp none).1 (by decide)
    · rename_i success
      refine ⟨_, _, _, _, _, rfl, configLater.trans readLater, ?_⟩
      intro _
      exact ⟨buf, read (not_not.mp success), rfl, rfl⟩

end Traffic

section Probe

/-- What a probe leaves: flags that agree, and body axes made of what it has just read. -/
structure Consistent (sensing : Sensing) (log : I2cLog) : Prop where
  flags : FlagsAgree sensing
  computed : sensing.sensors.sensorReady = true → ∃ magnetic inertial addr,
    WasRead log hmc5883lAddr 0x03 6 magnetic ∧
      (addr = mpu6050Addr0 ∨ addr = mpu6050Addr1) ∧
      WasRead log addr mpu6050AccelXoutH 14 inertial ∧
      BodyFrom sensing.attitude (accelerationAxes inertial) (gyroAxes inertial)
        (magneticAxes magnetic) sensing.sensors.mpuGyroBias

/-- Changing what neither calibration nor trim depends on leaves both frozen. -/
theorem Frozen.of_sensors {sensing : Sensing} {s : Sensors}
    (done : s.mpuCalDone = sensing.sensors.mpuCalDone)
    (bias : s.mpuGyroBias = sensing.sensors.mpuGyroBias) :
    Frozen sensing { sensing with sensors := s } :=
  ⟨fun calibrated => ⟨done.trans calibrated, bias⟩, fun trimmed => ⟨trimmed, rfl, rfl⟩⟩

/-- A probe that ends with a failed check leaves nothing to compute. -/
theorem sensorUpdateCorrectedOnce_consistent {sensing : Sensing}
    (fails : ¬ sensing.sensors.ChecksPass) (log : I2cLog) :
    Consistent (sensorUpdateCorrectedOnce sensing) log ∧
      Frozen sensing (sensorUpdateCorrectedOnce sensing) := by
  have corrected := sensorUpdateCorrectedOnce_corrected sensing
  have unready : (sensorUpdateCorrectedOnce sensing).sensors.sensorReady = false := by
    -- Readiness would mean that every check passed, on sensors whose checks are unchanged.
    by_contra ready
    rw [Bool.not_eq_false] at ready
    have pass := corrected.checks.mp ready
    obtain ⟨_, _, _, _, kept⟩ := corrected.kept
    rw [kept] at pass
    exact fails pass
  refine ⟨⟨corrected.flagsAgree unready, ?_⟩, corrected.frozen⟩
  intro impossible
  rw [unready] at impossible
  cases impossible

/-- A probe may end so whatever it changed before, as long as calibration and trim are kept. -/
theorem refused_consistent {sensing other : Sensing} (frozen : Frozen sensing other) {s : Sensors}
    (done : s.mpuCalDone = other.sensors.mpuCalDone)
    (bias : s.mpuGyroBias = other.sensors.mpuGyroBias) (fails : ¬ s.ChecksPass) (log : I2cLog) :
    Consistent (sensorUpdateCorrectedOnce { other with sensors := s }) log ∧
      Frozen sensing (sensorUpdateCorrectedOnce { other with sensors := s }) := by
  -- Marking the failure moves nothing that is frozen.
  have marked : Frozen other { other with sensors := s } := Frozen.of_sensors done bias
  have fails' : ¬ ({ other with sensors := s } : Sensing).sensors.ChecksPass := fails
  obtain ⟨consistent, later⟩ := sensorUpdateCorrectedOnce_consistent fails' log
  exact ⟨consistent, frozen.trans (marked.trans later)⟩

/-- The magnetometer's part of the probe keeps what it read, and nothing frozen is touched. -/
theorem hmcProbe_spec (sensing : Sensing) (bus : I2cBus) (a b c : UInt8) :
    MagneticRead (hmcProbe sensing bus a b c).1.sensors (hmcProbe sensing bus a b c).2.log ∧
      Frozen sensing (hmcProbe sensing bus a b c).1 := by
  unfold hmcProbe
  dsimp only
  split
  · obtain ⟨done, axes, valid, written, -, read⟩ := hmc5883lReadRawOnce_spec
      { sensing.sensors with
        hmcIdA := a, hmcIdB := b, hmcIdC := c, hmcBus := 100, hmcScanMask := 0x80000000
        hmcOk := true, i2cLastErr := 0 } bus
    generalize hmc5883lReadRawOnce _ bus = result at written read ⊢
    obtain ⟨ret, s, after⟩ := result
    dsimp only at written read ⊢
    -- A failure only changes the error code that is shown.
    split
    · refine ⟨read, Frozen.of_sensors ?_ ?_⟩
      · rw [written]
      · rw [written]
    · refine ⟨read, Frozen.of_sensors ?_ ?_⟩
      · rw [written]
      · rw [written]
  · -- No magnetometer, and no valid readings of one.
    exact ⟨nofun, Frozen.of_sensors rfl rfl⟩

/-- Once the inertial sensor was read, the probe is consistent; otherwise nothing is frozen anew. -/
theorem mpuProbeAt_consistent {sensing : Sensing} {bus : I2cBus}
    (magnetic : MagneticRead sensing.sensors bus.log) {addr : UInt8}
    (known : addr = mpu6050Addr0 ∨ addr = mpu6050Addr1) (who : UInt8) :
    Frozen sensing (mpuProbeAt sensing bus addr who).2.1 ∧
      ((mpuProbeAt sensing bus addr who).1 = true →
        Consistent (mpuProbeAt sensing bus addr who).2.1
          (mpuProbeAt sensing bus addr who).2.2.log) := by
  obtain ⟨done, found, acc, gyro, valid, written, later, read⟩ := mpu6050ReadRawOnce_spec
    { sensing.sensors with mpuWhoami := who, mpuOk := true, mpuAddrFound := addr } bus addr
  unfold mpuProbeAt
  dsimp only
  generalize mpu6050ReadRawOnce _ bus addr = result at written later read ⊢
  obtain ⟨ret, s, after⟩ := result
  dsimp only at written later read ⊢
  split
  · refine ⟨Frozen.of_sensors ?_ ?_, nofun⟩
    · rw [written]
    · rw [written]
  · rename_i success
    obtain ⟨buf, inertial, sameAcc, sameGyro⟩ := read (not_not.mp success)
    obtain ⟨flags, frozen, computed⟩ := afterMpuRead_agrees { sensing with sensors := s }
    have unchanged : Frozen sensing { sensing with sensors := s } := by
      apply Frozen.of_sensors
      · rw [written]
      · rw [written]
    refine ⟨unchanged.trans frozen, fun _ => ⟨flags, ?_⟩⟩
    intro ready
    -- The magnetometer's readings are still those this probe took before.
    obtain ⟨valid, body⟩ := computed ready
    dsimp only at valid body
    have sameValid : s.hmcDataOk = sensing.sensors.hmcDataOk := by rw [written]
    obtain ⟨field, magneticRead, sameField⟩ := magnetic (sameValid.symm.trans valid)
    have accRead : s.mpuAcc = accelerationAxes buf := by rw [written, sameAcc]
    have gyroRead : s.mpuGyro = gyroAxes buf := by rw [written, sameGyro]
    have fieldRead : s.hmc = magneticAxes field := by rw [written, sameField]
    rw [accRead, gyroRead, fieldRead] at body
    exact ⟨field, buf, addr, magneticRead.later later, known, inertial, body⟩

/-- The inertial sensor's part of the probe ends consistently, whether or not it was read. -/
theorem mpuProbe_consistent {sensing : Sensing} {bus : I2cBus}
    (magnetic : MagneticRead sensing.sensors bus.log) :
    Consistent (mpuProbe sensing bus).1 (mpuProbe sensing bus).2.log ∧
      Frozen sensing (mpuProbe sensing bus).1 := by
  -- Without a read the sensor's data is marked bad, and a check fails.
  have refused : ∀ (other : Sensing) (after : I2cBus), Frozen sensing other →
      Consistent (mpuFinish (false, other, after)).1 after.log ∧
        Frozen sensing (mpuFinish (false, other, after)).1 := by
    intro other after frozen
    apply refused_consistent frozen
    · rfl
    · rfl
    · intro pass
      cases pass.2.2.2.1
  have probed : ∀ {after : I2cBus} {addr : UInt8} (who : UInt8), bus.log <:+ after.log →
      addr = mpu6050Addr0 ∨ addr = mpu6050Addr1 →
      Consistent (mpuFinish (mpuProbeAt sensing after addr who)).1
          (mpuFinish (mpuProbeAt sensing after addr who)).2.log ∧
        Frozen sensing (mpuFinish (mpuProbeAt sensing after addr who)).1 := by
    intro after addr who later known
    obtain ⟨frozen, consistent⟩ := mpuProbeAt_consistent (magnetic.later later) known who
    generalize mpuProbeAt sensing after addr who = result at frozen consistent ⊢
    obtain ⟨read, other, last⟩ := result
    cases read with
    | true => exact ⟨consistent rfl, frozen⟩
    | false => exact refused other last frozen
  have first := bbI2cReadReg_later bus mpu6050Addr0 mpu6050WhoamiReg
  have second := first.trans (bbI2cReadReg_later _ mpu6050Addr1 mpu6050WhoamiReg)
  rcases mpuProbe_cases sensing bus with ⟨-, same⟩ | ⟨-, ⟨-, same⟩ | ⟨-, same⟩⟩
  · -- The first address identified itself, and the read there decides.
    rw [same]
    exact probed _ first (.inl rfl)
  · -- Only the second address did.
    rw [same]
    exact probed _ second (.inr rfl)
  · -- Neither address answers as an inertial sensor.
    rw [same]
    exact refused sensing _ (Frozen.refl sensing)

/-- Every probe ends consistently, and keeps calibration and trim once they are fixed. -/
theorem ampI2cProbeOnce_consistent (sensing : Sensing) (bus : I2cBus) :
    Consistent (ampI2cProbeOnce sensing bus).1 (ampI2cProbeOnce sensing bus).2.log ∧
      Frozen sensing (ampI2cProbeOnce sensing bus).1 := by
  have reset : Frozen sensing (probeReset sensing) :=
    ⟨fun done => ⟨done, rfl⟩, fun done => ⟨done, rfl, rfl⟩⟩
  obtain ⟨after, -, ⟨code, same⟩ | ⟨a, b, c, same⟩⟩ := ampI2cProbeOnce_cases sensing bus
  · -- A probe that gives up early has found no magnetometer.
    rw [same]
    unfold gaveUp
    apply @refused_consistent _ _ reset
      { (probeReset sensing).sensors with i2cLastErr := code }
    · rfl
    · rfl
    · intro pass
      cases pass.1
  · -- With the identification read, both halves of the probe run.
    rw [same]
    obtain ⟨magnetic, frozen⟩ := hmcProbe_spec (probeReset sensing) after a b c
    obtain ⟨consistent, later⟩ := mpuProbe_consistent magnetic
    exact ⟨consistent, reset.trans (frozen.trans later)⟩

end Probe

section History

variable (start : Sensing) (devices : Nat → I2cDevices)

/-- The sensing variables before probe `n` of a history, each probe meeting its own devices. -/
def sensingBefore (n : Nat) : Sensing :=
  stateAt (fun sensing on => (ampI2cProbeOnce sensing ⟨on, []⟩).1) start devices n

/-- What probe `n` leaves, with its traffic. -/
def probeAt (n : Nat) : Sensing × I2cBus :=
  ampI2cProbeOnce (sensingBefore start devices n) ⟨devices n, []⟩

/-- Between two probes calibration and trim stay frozen. -/
theorem probeAt_frozen {n m : Nat} (later : n ≤ m) :
    Frozen (probeAt start devices n).1 (probeAt start devices m).1 := by
  -- The induction is on the probes in between.
  induction m, later using Nat.le_induction with
  | base => exact Frozen.refl _
  | succ m _ ih =>
    have next : sensingBefore start devices (m + 1) = (probeAt start devices m).1 := rfl
    have step := (ampI2cProbeOnce_consistent (sensingBefore start devices (m + 1))
      ⟨devices (m + 1), []⟩).2
    rw [next] at step
    exact ih.trans step

/--
Whatever the bus answered, the flags agree after every probe.

When the sensors are ready, the body axes were computed from what this probe has read, and no later
probe changes the calibration and the trim used for it.
-/
theorem probeAt_consistent (n : Nat) :
    Consistent (probeAt start devices n).1 (probeAt start devices n).2.log ∧
      ((probeAt start devices n).1.sensors.sensorReady = true → ∀ m, n ≤ m →
        (probeAt start devices m).1.sensors.mpuGyroBias =
            (probeAt start devices n).1.sensors.mpuGyroBias ∧
          (probeAt start devices m).1.attitude.levelRollCd =
            (probeAt start devices n).1.attitude.levelRollCd ∧
          (probeAt start devices m).1.attitude.levelPitchCd =
            (probeAt start devices n).1.attitude.levelPitchCd) := by
  have consistent := (ampI2cProbeOnce_consistent (sensingBefore start devices n)
    ⟨devices n, []⟩).1
  refine ⟨consistent, ?_⟩
  intro ready m later
  -- From here on the biases and the trim are frozen.
  have frozen := probeAt_frozen start devices later
  have calibrated := (consistent.flags.checks.mp ready).2.2.2.2
  obtain ⟨_, _, _, _, _, _, body⟩ := consistent.computed ready
  exact ⟨(frozen.calibrated calibrated).2, (frozen.trimmed body.trimmed).2⟩

end History

end AmpFc.Firmware
