import AmpFc.Firmware.Corrections
import AmpFc.Firmware.SensorBounds
import AmpFc.Firmware.SensorFlags

/-! Body angles against the level trim: when they are the short way round. -/

namespace AmpFc.Firmware

section ShortWay

/-- An angle that is a displacement by the shorter way round, in hundredths of a degree. -/
structure ShortWay (displacement angle : Int) : Prop where
  low : -18000 ≤ angle
  high : angle ≤ 18000
  congruent : angle ≡ displacement [ZMOD 36000]

/-- A correction that is zero, or turns a displacement back by a shorter way round. -/
def TurnsBack (displacement correction : Int) : Prop :=
  -- A correction has the sign opposite to the angle that is to be undone.
  correction = 0 ∨ ∃ angle, ShortWay displacement angle ∧
    ((0 < correction ∧ angle < 0) ∨ (correction < 0 ∧ 0 < angle))

/-- What the body is turned about the roll axis since it was level. -/
def Attitude.rollDisplacement (a : Attitude) : Int := bodyRollSign * (a.attRollCd - a.levelRollCd)

/-- What the body is turned about the pitch axis since it was level. -/
def Attitude.pitchDisplacement (a : Attitude) : Int :=
  bodyPitchSign * (a.attPitchCd - a.levelPitchCd)

/-- Both body angles are the short way round, and so is what assists a centred stick. -/
structure ShortBodyAngles (a : Attitude) : Prop where
  roll : ShortWay a.rollDisplacement a.bodyRollCd
  pitch : ShortWay a.pitchDisplacement a.bodyPitchCd
  assistRoll : ∀ divider, TurnsBack a.rollDisplacement
    (angleCorrection 0 angleAssistRollSign a.bodyRollCd divider)
  assistPitch : ∀ divider, TurnsBack a.pitchDisplacement
    (angleCorrection 0 angleAssistPitchSign a.bodyPitchCd divider)

/-- A small displacement is its own short way round. -/
theorem shortWay_self {displacement : Int} (small : Within 18000 displacement) :
    ShortWay displacement displacement := by
  unfold Within at small
  exact ⟨by omega, by omega, rfl⟩

/-- An angle that is the short way round is assisted back along it. -/
theorem ShortWay.turnsBack {displacement angle : Int} (short : ShortWay displacement angle)
    (divider : Nat) : TurnsBack displacement (angleCorrection 0 1 angle divider) := by
  obtain ⟨raised, lowered⟩ := angleCorrection_against angle divider
  rcases lt_trichotomy (angleCorrection 0 1 angle divider) 0 with negative | none | positive
  · exact Or.inr ⟨angle, short, Or.inr ⟨negative, lowered negative⟩⟩
  · exact Or.inl none
  · exact Or.inr ⟨angle, short, Or.inl ⟨positive, raised positive⟩⟩

end ShortWay

section Trim

/-- An angle whose second argument is not negative is at most a right one. -/
theorem ampAtan2Cd_upright (y : Int) {x : Int} (across : 0 ≤ x) :
    Within 9000 (ampAtan2CdApprox y x) := by
  unfold ampAtan2CdApprox
  dsimp only
  -- Without a direction the angle is zero.
  by_cases direction : ampAbs32ToU32 x = 0 ∧ ampAbs32ToU32 y = 0
  · rw [if_pos direction]
    decide
  · rw [if_neg direction]
    obtain ⟨base, low, high, _, same⟩ := atan2Base_spec direction
    rw [same, if_pos across]
    unfold Within
    split <;> omega

/-- The acceleration across the roll axis has a length that is not negative. -/
theorem horizontalLength_nonneg {acc : Axes} (bounded : acc.Bounded 32768) :
    0 ≤ horizontalLength acc := by
  -- The square root fits the signed word it is converted to.
  have kept := horizontal_spec bounded.y bounded.z
  obtain ⟨_, same⟩ := checked_eq_some.mp kept
  unfold horizontalLength
  dsimp only
  rw [← same]
  exact Int.natCast_nonneg _

/-- The level trim that acceleration readings leave. -/
structure LegalTrim (a : Attitude) : Prop where
  roll : Within 18000 a.levelRollCd
  pitch : Within 9000 a.levelPitchCd

/-- Two attitudes with the same level trim. -/
structure SameTrim (before after : Attitude) : Prop where
  roll : after.levelRollCd = before.levelRollCd
  pitch : after.levelPitchCd = before.levelPitchCd

/-- A trim that stays the same stays legal. -/
theorem SameTrim.legal {before after : Attitude} (same : SameTrim before after)
    (legal : LegalTrim before) : LegalTrim after :=
  ⟨same.roll ▸ legal.roll, same.pitch ▸ legal.pitch⟩

/-- The body update keeps a trim, or takes the attitude it was given for one. -/
theorem bodyAxisUpdateOnce_trim (sensing : Sensing) :
    SameTrim sensing.attitude (bodyAxisUpdateOnce sensing).attitude ∨
      ((bodyAxisUpdateOnce sensing).attitude.levelRollCd = sensing.attitude.attRollCd ∧
        (bodyAxisUpdateOnce sensing).attitude.levelPitchCd = sensing.attitude.attPitchCd) := by
  unfold bodyAxisUpdateOnce
  dsimp only
  -- Without an attitude nothing is written, and the trim only the first time.
  split
  · exact Or.inl ⟨rfl, rfl⟩
  · split
    · exact Or.inr ⟨rfl, rfl⟩
    · exact Or.inl ⟨rfl, rfl⟩

/-- A read of the inertial sensor leaves a legal trim. -/
theorem afterMpuRead_legal {sensing : Sensing} (legal : LegalTrim sensing.attitude)
    (bounded : sensing.sensors.mpuAcc.Bounded 32768) :
    LegalTrim (afterMpuRead sensing).attitude := by
  unfold afterMpuRead
  dsimp only
  obtain ⟨count, done, accSum, gyroSum, accBias, gyroBias, calibrated, -⟩ :=
    mpu6050CalUpdateOnce_kept sensing.sensors
  have corrected := sensorUpdateCorrectedOnce_corrected
    { sensing with sensors := mpu6050CalUpdateOnce sensing.sensors }
  generalize sensorUpdateCorrectedOnce
    { sensing with sensors := mpu6050CalUpdateOnce sensing.sensors } = middle at corrected ⊢
  have withdrawn := corrected.withdrawn
  have kept : LegalTrim middle.attitude := by
    rw [withdrawn]
    exact ⟨legal.roll, legal.pitch⟩
  cases ready : middle.sensors.sensorReady with
  | false =>
    rw [bodyAxis_unready ready (by rw [withdrawn])]
    exact kept
  | true =>
    have acc : middle.sensors.mpuAccCorr = sensing.sensors.mpuAcc := by
      rw [corrected.acc ready]
      simp only [calibrated]
    have updated := attitudeUpdateDebugOnce_ready ready (corrected.checks.mp ready)
    rw [acc] at updated
    generalize attitudeUpdateDebugOnce middle = shown at updated ⊢
    -- Either the trim was there, or it is made of the angles of this reading.
    rcases bodyAxisUpdateOnce_trim shown with same | ⟨roll, pitch⟩
    · apply same.legal
      rw [updated]
      exact ⟨kept.roll, kept.pitch⟩
    · constructor
      · rw [roll, updated]
        exact (ampAtan2Cd_spec _ _).2
      · rw [pitch, updated]
        exact ampAtan2Cd_upright _ (horizontalLength_nonneg bounded)

/-- Wherever the inertial sensor answers, its part of the probe leaves a legal trim. -/
theorem mpuProbeAt_legal {sensing : Sensing} (legal : LegalTrim sensing.attitude) (bus : I2cBus)
    (addr who : UInt8) : LegalTrim (mpuProbeAt sensing bus addr who).2.1.attitude := by
  obtain ⟨done, found, acc, gyro, valid, written, -, read⟩ := mpu6050ReadRawOnce_spec
    { sensing.sensors with mpuWhoami := who, mpuOk := true, mpuAddrFound := addr } bus addr
  unfold mpuProbeAt
  dsimp only
  generalize mpu6050ReadRawOnce _ bus addr = result at written read ⊢
  obtain ⟨ret, s, after⟩ := result
  dsimp only at written read ⊢
  -- A failed read leaves the attitude alone.
  split
  · exact legal
  · rename_i success
    obtain ⟨buf, -, sameAcc, -⟩ := read (not_not.mp success)
    have before : LegalTrim (Sensing.mk s sensing.attitude).attitude := legal
    apply afterMpuRead_legal before
    show s.mpuAcc.Bounded 32768
    rw [written, sameAcc]
    exact ⟨signedHalf_bounded _ _, signedHalf_bounded _ _, signedHalf_bounded _ _⟩

/-- Withdrawing the attitude keeps the trim. -/
theorem sensorUpdateCorrectedOnce_legal {sensing : Sensing} (legal : LegalTrim sensing.attitude) :
    LegalTrim (sensorUpdateCorrectedOnce sensing).attitude := by
  rw [(sensorUpdateCorrectedOnce_corrected sensing).withdrawn]
  exact ⟨legal.roll, legal.pitch⟩

/-- So does finishing a probe. -/
theorem mpuFinish_legal {result : Bool × Sensing × I2cBus} (legal : LegalTrim result.2.1.attitude) :
    LegalTrim (mpuFinish result).1.attitude := by
  obtain ⟨read, sensing, bus⟩ := result
  cases read with
  | true => exact legal
  | false =>
    have before : LegalTrim (Sensing.mk { sensing.sensors with mpuDataOk := false }
        sensing.attitude).attitude := legal
    exact sensorUpdateCorrectedOnce_legal before

/-- So does the inertial sensor's part of the probe. -/
theorem mpuProbe_legal {sensing : Sensing} (legal : LegalTrim sensing.attitude) (bus : I2cBus) :
    LegalTrim (mpuProbe sensing bus).1.attitude := by
  rcases mpuProbe_cases sensing bus with ⟨-, same⟩ | ⟨-, ⟨-, same⟩ | ⟨-, same⟩⟩
  · rw [same]
    exact mpuFinish_legal (mpuProbeAt_legal legal _ _ _)
  · rw [same]
    exact mpuFinish_legal (mpuProbeAt_legal legal _ _ _)
  · -- Without an answer the trim is not touched at all.
    rw [same]
    exact mpuFinish_legal legal

/-- The magnetometer's part does not touch the attitude. -/
theorem hmcProbe_attitude (sensing : Sensing) (bus : I2cBus) (a b c : UInt8) :
    (hmcProbe sensing bus a b c).1.attitude = sensing.attitude := by
  unfold hmcProbe
  dsimp only
  -- Both branches write sensor variables only.
  split <;> rfl

/-- Every probe leaves a legal trim. -/
theorem ampI2cProbeOnce_legal {sensing : Sensing} (legal : LegalTrim sensing.attitude)
    (bus : I2cBus) : LegalTrim (ampI2cProbeOnce sensing bus).1.attitude := by
  have reset : LegalTrim (probeReset sensing).attitude := ⟨legal.roll, legal.pitch⟩
  obtain ⟨after, -, ⟨code, same⟩ | ⟨a, b, c, same⟩⟩ := ampI2cProbeOnce_cases sensing bus
  · rw [same]
    have before : LegalTrim (Sensing.mk { (probeReset sensing).sensors with i2cLastErr := code }
        (probeReset sensing).attitude).attitude := reset
    exact sensorUpdateCorrectedOnce_legal before
  · -- With the identification read, both halves of the probe run.
    rw [same]
    apply mpuProbe_legal
    rw [hmcProbe_attitude]
    exact reset

/-- Every history of probes since the start leaves a legal trim. -/
theorem sensingBefore_legal (devices : Nat → I2cDevices) (n : Nat) :
    LegalTrim (sensingBefore {} devices n).attitude := by
  -- The induction is on the probes, from the trim of zero.
  induction n with
  | zero => exact ⟨Within.zero, Within.zero⟩
  | succ n ih => exact ampI2cProbeOnce_legal ih _

end Trim

section Update

/-- The attitude shows these two angles. -/
def Attitude.withAngles (a : Attitude) (rollCd pitchCd : Int) : Attitude :=
  { a with attOk := true, attRollCd := rollCd, attPitchCd := pitchCd }

/-- The angles the attitude shows are within half a turn of the level trim, if there is one. -/
def Attitude.NearLevel (a : Attitude) : Prop :=
  a.levelTrimDone = true →
    Within 18000 (a.attRollCd - a.levelRollCd) ∧ Within 18000 (a.attPitchCd - a.levelPitchCd)

/-- Angles that are the displacement itself are the short way round if they are small. -/
theorem shortBodyAngles_of_displacement {a : Attitude} (roll : a.bodyRollCd = a.rollDisplacement)
    (pitch : a.bodyPitchCd = a.pitchDisplacement) :
    ShortBodyAngles a ↔
      Within 18000 (a.attRollCd - a.levelRollCd) ∧
        Within 18000 (a.attPitchCd - a.levelPitchCd) := by
  have rollUnit : a.rollDisplacement = a.attRollCd - a.levelRollCd := one_mul _
  -- The pitch counts the other way round, which half a turn is symmetric in.
  have pitchUnit : a.pitchDisplacement = -(a.attPitchCd - a.levelPitchCd) := neg_one_mul _
  constructor
  · intro short
    have rollLow := short.roll.low
    have rollHigh := short.roll.high
    have pitchLow := short.pitch.low
    have pitchHigh := short.pitch.high
    unfold Within
    omega
  · rintro ⟨rollNear, pitchNear⟩
    have rollSmall : Within 18000 a.rollDisplacement := by
      unfold Within at rollNear ⊢
      omega
    have pitchSmall : Within 18000 a.pitchDisplacement := by
      unfold Within at pitchNear ⊢
      omega
    have rollShort : ShortWay a.rollDisplacement a.bodyRollCd := by
      rw [roll]
      exact shortWay_self rollSmall
    have pitchShort : ShortWay a.pitchDisplacement a.bodyPitchCd := by
      rw [pitch]
      exact shortWay_self pitchSmall
    -- Either assist turns the body back along the angle just shown to be the short one.
    exact ⟨rollShort, pitchShort, rollShort.turnsBack, pitchShort.turnsBack⟩

/-- An updated body is the short way round exactly near level. -/
theorem bodyAxisUpdateOnce_short {sensing : Sensing} (ready : sensing.sensors.sensorReady = true)
    (shown : sensing.attitude.attOk = true) :
    ShortBodyAngles (bodyAxisUpdateOnce sensing).attitude ↔ sensing.attitude.NearLevel := by
  unfold bodyAxisUpdateOnce Attitude.NearLevel
  dsimp only
  -- With both flags set the update writes the displacement itself.
  rw [ready, shown, if_neg (by decide)]
  rw [shortBodyAngles_of_displacement (by rfl) (by rfl)]
  dsimp only
  cases trimmed : sensing.attitude.levelTrimDone with
  | true => simp only [Bool.not_true, Bool.false_eq_true, ↓reduceIte, true_implies]
  | false =>
    -- The first update takes its own attitude for level.
    simp only [Bool.not_false, ↓reduceIte, sub_self, Bool.false_eq_true, false_implies, iff_true]
    exact ⟨Within.zero, Within.zero⟩

/-- A bus whose sensors identify themselves and whose frame hangs upside down, nearly level. -/
def invertedDevices : I2cDevices := fun _ transfer =>
  match transfer with
  | .readReg _ reg =>
    .ack [if reg = 0x0A then 0x48 else if reg = 0x0B then 0x34 else if reg = 0x0C then 0x33
      else 0x68]
  | .writeReg _ _ _ => .ack []
  | .readRegs _ _ _ => .ack [0, 0, 0, 10, 0xC0, 0, 0, 0, 0, 0, 0, 0, 0, 0]

/-- Fifty probes of it calibrate the sensor and leave a trim of nearly half a turn. -/
theorem inverted_trim :
    (sensingBefore {} (fun _ => invertedDevices) 50).attitude.levelTrimDone = true ∧
      (sensingBefore {} (fun _ => invertedDevices) 50).attitude.levelRollCd = 17998 := by
  decide +kernel

/-- A probed trim is the short way from an attitude exactly if the roll is within half a turn. -/
theorem bodyAngles_short_iff (devices : Nat → I2cDevices) (n : Nat) (sensors : Sensors)
    (ready : sensors.sensorReady = true) (rollY rollX pitchY pitchX : Int) :
    let trim := (sensingBefore {} devices n).attitude
    let roll := ampAtan2CdApprox rollY rollX
    let pitch := ampAtan2CdApprox pitchY pitchX
    ShortBodyAngles (bodyAxisUpdateOnce ⟨sensors, trim.withAngles roll pitch⟩).attitude ↔
      (trim.levelTrimDone = true → Within 18000 (roll - trim.levelRollCd) ∧
        (pitchX < 0 → Within 18000 (pitch - trim.levelPitchCd))) := by
  intro trim roll pitch
  have legal : LegalTrim trim := sensingBefore_legal devices n
  have updated := @bodyAxisUpdateOnce_short ⟨sensors, trim.withAngles roll pitch⟩ ready rfl
  -- The shown angles are the two that the arctangent produced.
  rw [updated]
  show (trim.levelTrimDone = true → Within 18000 (roll - trim.levelRollCd) ∧
    Within 18000 (pitch - trim.levelPitchCd)) ↔ _
  constructor
  · intro near trimmed
    exact ⟨(near trimmed).1, fun _ => (near trimmed).2⟩
  · intro near trimmed
    refine ⟨(near trimmed).1, ?_⟩
    by_cases behind : pitchX < 0
    · exact (near trimmed).2 behind
    · -- Two pitches of at most a right angle are at most half a turn apart.
      have upright : Within 9000 pitch := ampAtan2Cd_upright pitchY (not_lt.mp behind)
      have level := legal.pitch
      unfold Within at upright level ⊢
      omega

/-- Level at 179.98 degrees, a roll of four hundredths the other way turns the long way back. -/
theorem bodyAngles_long_inverted :
    let trim := (sensingBefore {} (fun _ => invertedDevices) 50).attitude
    let roll := ampAtan2CdApprox (-10) (-16384)
    let after := (bodyAxisUpdateOnce
      ⟨(sensingBefore {} (fun _ => invertedDevices) 50).sensors,
        trim.withAngles roll trim.attPitchCd⟩).attitude
    ¬ ShortWay after.rollDisplacement after.bodyRollCd ∧
      ¬ TurnsBack after.rollDisplacement
        (angleCorrection 0 angleAssistRollSign after.bodyRollCd 180) := by
  intro trim roll after
  have displaced : after.rollDisplacement = -35996 ∧ after.bodyRollCd = -35996 := by decide +kernel
  have assist : angleCorrection 0 angleAssistRollSign (-35996) 180 = 25 := by decide
  rw [displaced.1, displaced.2, assist]
  constructor
  · intro short
    have low := short.low
    omega
  · rintro (none | ⟨angle, short, back⟩)
    · omega
    · -- The only short way round is an angle of four, which asks for a negative correction.
      obtain ⟨turns, same⟩ := short.congruent.dvd
      have low := short.low
      omega

/-- Two hundredths from its trim, at half a turn, the same frame is the short way round. -/
theorem bodyAngles_short_inverted :
    ShortBodyAngles (bodyAxisUpdateOnce ⟨{ sensorReady := true },
      (sensingBefore {} (fun _ => invertedDevices) 50).attitude.withAngles
        (ampAtan2CdApprox 0 (-16384)) (ampAtan2CdApprox 0 16384)⟩).attitude := by
  apply (bodyAngles_short_iff (fun _ => invertedDevices) 50 { sensorReady := true } rfl
    0 (-16384) 0 16384).mpr
  intro trimmed
  have level : (sensingBefore {} (fun _ => invertedDevices) 50).attitude.levelRollCd = 17998 :=
    inverted_trim.2
  rw [level]
  exact ⟨by decide, by decide⟩

end Update

end AmpFc.Firmware
