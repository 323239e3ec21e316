import AmpFc.Rt.FlightRtNode
import AmpFc.Rt.SenseBias

/-! The realtime node with its sense and its estimator in the loop. -/

namespace AmpFc

open FloatArith (ofRat)

/-- `FlightRtNode` between iterations, with its sense and its estimator. -/
structure SensedNode (W F : Type) where
  run : RunState F
  sense : Sense W F
  estimator : Estimator F

namespace SensedNode

section Loop

variable {W F : Type} [FloatArith F] (sdk : I2cSdk W) (math : CMath F) (fuel : Nat)

/-- The node as it enters its loop, over a sense that came up. -/
def started (sense : Sense W F) (boot : BootClock) : SensedNode W F where
  run := .initial (FlightRtNode.constructed.initialised boot.initUs) boot.bootUs
  sense := sense
  estimator := Estimator.initial.setGyroBias sense.biasDps

/-- What a control step makes of its sensors: the attitude, if a sample could be taken. The fuel is
that of the loops that wrap the yaw. -/
def senseAttitude (s : SensedNode W F) (dtS : F) :
    Option (Option (AttitudeState F) × SensedNode W F) :=
  let sampled := s.sense.sample sdk
  match sampled.1 with
  | none => some (none, { s with sense := sampled.2 })
  | some sample =>
    let updated := s.estimator.update math sample dtS
    let compass := sampled.2.sampleMag sdk
    match compass.1 with
    | none => some (some updated.1, { s with sense := compass.2, estimator := updated.2 })
    | some mag =>
      -- The compass has the last word on the yaw.
      (updated.2.correctYawFromMag math fuel mag dtS).map fun corrected =>
        (some corrected.1, { s with sense := compass.2, estimator := corrected.2 })

/-- The time step of a control step at this clock reading. -/
def dtS (s : SensedNode W F) (controlUs : Nat) : F :=
  ofRat (clockSub controlUs s.run.lastControlUs) / ofRat 1000000

/-- One iteration of `FlightRtNode::run`, which senses its attitude by itself. -/
def iterate (mix : Mix F) (s : SensedNode W F) (input : IterationInput F) :
    Option (SensedNode W F × Option (RtReport F)) :=
  if input.controlUs < s.run.nextControlDueUs then
    let turned := s.run.iterate mix { input with sensed := none }
    some ({ s with run := turned.1 }, turned.2)
  else
    (s.senseAttitude sdk math fuel (s.dtS input.controlUs)).map fun sensed =>
      let turned := s.run.iterate mix { input with sensed := sensed.1 }
      ({ sensed.2 with run := turned.1 }, turned.2)

end Loop

section Steps

variable {W : Type} {sdk : I2cSdk W} {math : CMath ℚ} {imu : I2cBusConfig} {mag : Hmc5883lConfig}
  {biasDps : ℚ × ℚ × ℚ}

open Estimator

/-- The correction by the compass ends, changes the yaw alone, and leaves it within half a turn
when time has passed. -/
theorem correctYaw_settles (math : CMath ℚ) (e : Estimator ℚ) (sample : RawMagSample ℚ) (dtS : ℚ) :
    ∃ yaw, Settles (fun fuel => correctYawFromMag math fuel e sample dtS)
        ({ e.lastState with yawDeg := yaw },
          { e with lastState := { e.lastState with yawDeg := yaw } }) ∧
      (0 < dtS → |yaw| ≤ 180) := by
  by_cases elapsed : 0 < dtS
  · have moves : FloatArith.le dtS (ofRat 0 : ℚ) = false := decide_eq_false (not_le.mpr elapsed)
    obtain ⟨heading, first, -, headed⟩ := headingDeg_ends math e.lastState sample
    obtain ⟨error, second, -, errs⟩ := wrapAngleDeg_ends (heading - e.lastState.yawDeg)
    obtain ⟨yaw, third, wraps, yaws⟩ :=
      wrapAngleDeg_ends (e.lastState.yawDeg + error * correctionAlpha dtS)
    refine ⟨yaw, ⟨max first (max second third), fun fuel enough => ?_⟩, fun _ => ?_⟩
    · obtain ⟨one, two, three⟩ := (max_lt_iff.trans (and_congr_right fun _ => max_lt_iff)).mp enough
      exact correctYawFromMag_eq moves (headed fuel one) (errs fuel two) (yaws fuel three)
    · exact abs_le.mpr ⟨wraps.low, wraps.high⟩
  · -- Without a time step the estimator is left as it was.
    have still : FloatArith.le dtS (ofRat 0 : ℚ) = true := decide_eq_true (not_lt.mp elapsed)
    refine ⟨e.lastState.yawDeg, ⟨0, fun fuel _ => ?_⟩, fun later => absurd later elapsed⟩
    exact if_pos still

/-- What holds of the sensors and the estimator in every iteration. -/
structure Sound (imu : I2cBusConfig) (mag : Hmc5883lConfig) (biasDps : ℚ × ℚ × ℚ)
    (s : SensedNode W ℚ) : Prop where
  up : Sense.Up imu mag s.sense
  roll : s.estimator.rollFilter.WellPosed
  pitch : s.estimator.pitchFilter.WellPosed
  bias : s.estimator.gyroBias = biasDps

/-- The bus holds a sample of the compass as its newest transfer. -/
def CompassHeard (mag : Hmc5883lConfig) (log : List SdkTransfer) : Prop :=
  ∃ raw, log.head? = some (.read mag.busId mag.address 0x03 6 (some raw))

/-- An attitude that a control step may report: its rates are the ones that the sensor spells, less
the bias, and the yaw is within half a turn when the compass was heard. -/
structure Plausible (mag : Hmc5883lConfig) (biasDps : ℚ × ℚ × ℚ) (dtS : ℚ)
    (log : List SdkTransfer) (attitude : AttitudeState ℚ) : Prop where
  roll : |attitude.rollRateDps + biasDps.1| ≤ gyroRange
  pitch : |attitude.pitchRateDps + biasDps.2.1| ≤ gyroRange
  yaw : |attitude.yawRateDps + biasDps.2.2| ≤ gyroRange
  heading : CompassHeard mag log → 0 < dtS → |attitude.yawDeg| ≤ 180

/-- A sample of the inertial sensor spells rates within its range. -/
theorem sample_range {s : Sense W ℚ} {sample : RawImuSample ℚ}
    (sampled : (s.sample sdk).1 = some sample) :
    |sample.gyroXDps| ≤ gyroRange ∧ |sample.gyroYDps| ≤ gyroRange ∧
      |sample.gyroZDps| ≤ gyroRange := by
  obtain ⟨raw, -, rfl⟩ := Option.map_eq_some_iff.mp sampled
  exact ⟨be16_rate _ _, be16_rate _ _, be16_rate _ _⟩

/-- A sample of the inertial sensor is its answer to the newest transfer. -/
theorem sample_newest {s : Sense W ℚ} (up : Sense.Up imu mag s) {sample : RawImuSample ℚ}
    (sampled : (s.sample sdk).1 = some sample) :
    ∃ raw, sample = imuSample raw ∧ (s.sample sdk).2.board.log =
      .read imu.busId imu.mpuAddr 0x3B 14 (some raw) :: s.board.log := by
  obtain ⟨rfl, rfl, -, ready, -⟩ := up
  obtain ⟨raw, read, rfl⟩ := Option.map_eq_some_iff.mp sampled
  exact ⟨raw, rfl, (Sense.readRegisters_grows sdk ready).2 raw read⟩

/-- Without a sample of the compass, the newest transfer is none of its samples. -/
theorem compass_unheard {s : Sense W ℚ} {raw : List UInt8} {bus dev : UInt8}
    {past : List SdkTransfer}
    (newest : s.board.log = .read bus dev 0x3B 14 (some raw) :: past)
    (absent : (s.sampleMag sdk).1 = none) :
    ¬ CompassHeard s.mag (s.sampleMag sdk).2.board.log := by
  rintro ⟨other, heard⟩
  unfold Sense.sampleMag at absent heard
  split_ifs at absent heard
  · rw [newest] at heard
    simp at heard
  · -- The compass was read, without success.
    have failed : (s.board.readRegisters sdk s.mag.busId s.mag.address 0x03 6).1 = none :=
      Option.map_eq_none_iff.mp absent
    have log : (s.board.readRegisters sdk s.mag.busId s.mag.address 0x03 6).2.log.head? =
      some (.read s.mag.busId s.mag.address 0x03 6 (some other)) := heard
    obtain ⟨-, ⟨-, same⟩ | moved⟩ :=
      BoardI2c.readRegisters_cases sdk s.board s.mag.busId s.mag.address 0x03 6
    · rw [same, newest] at log
      simp at log
    · rw [moved, failed] at log
      simp at log

/-- A control step gets an attitude from sensors that are sound, or none at all; its loops end, and
the sensors stay sound. -/
theorem senseAttitude_settles (sdk : I2cSdk W) (math : CMath ℚ) {s : SensedNode W ℚ}
    (sound : Sound imu mag biasDps s) {dtS : ℚ} (forward : 0 ≤ dtS) :
    ∃ sensed left, Settles (fun fuel => s.senseAttitude sdk math fuel dtS) (sensed, left) ∧
      left.run = s.run ∧ Sound imu mag biasDps left ∧
      ∀ attitude ∈ sensed, Plausible mag biasDps dtS left.sense.board.log attitude := by
  obtain ⟨up, roll, pitch, bias⟩ := sound
  have sampledUp : Sense.Up imu mag (s.sense.sample sdk).2 := up.call .sample
  have compassUp : Sense.Up imu mag ((s.sense.sample sdk).2.sampleMag sdk).2 :=
    sampledUp.call .sampleMag
  cases sampled : (s.sense.sample sdk).1 with
  | none =>
    have outcome (fuel : Nat) : s.senseAttitude sdk math fuel dtS =
        some (none, { s with sense := (s.sense.sample sdk).2 }) := by
      simp only [senseAttitude, sampled]
    refine ⟨none, _, ⟨0, fun fuel _ => outcome fuel⟩, rfl, ⟨sampledUp, roll, pitch, bias⟩, ?_⟩
    intro attitude wrong
    cases wrong
  | some sample =>
    have range := sample_range sampled
    -- The two filters take one update each, over a time that is not negative.
    have rollNext := (roll.predict (sample.gyroXDps - s.estimator.gyroBias.1) forward).correct
      (math.atan2 sample.accY sample.accZ * Estimator.kRadToDeg)
    have pitchNext := (pitch.predict (sample.gyroYDps - s.estimator.gyroBias.2.1) forward).correct
      (math.atan2 (-sample.accX)
        (math.sqrt (sample.accY * sample.accY + sample.accZ * sample.accZ)) * Estimator.kRadToDeg)
    have rates (yaw : ℚ) (heading : CompassHeard mag
        ((s.sense.sample sdk).2.sampleMag sdk).2.board.log → 0 < dtS → |yaw| ≤ 180) :
        Plausible mag biasDps dtS ((s.sense.sample sdk).2.sampleMag sdk).2.board.log
          { (s.estimator.update math sample dtS).1 with yawDeg := yaw } := by
      refine ⟨?_, ?_, ?_, heading⟩
      · show |sample.gyroXDps - s.estimator.gyroBias.1 + biasDps.1| ≤ gyroRange
        rw [bias, sub_add_cancel]
        exact range.1
      · show |sample.gyroYDps - s.estimator.gyroBias.2.1 + biasDps.2.1| ≤ gyroRange
        rw [bias, sub_add_cancel]
        exact range.2.1
      · show |sample.gyroZDps - s.estimator.gyroBias.2.2 + biasDps.2.2| ≤ gyroRange
        rw [bias, sub_add_cancel]
        exact range.2.2
    cases heard : ((s.sense.sample sdk).2.sampleMag sdk).1 with
    | none =>
      obtain ⟨raw, -, newest⟩ := sample_newest up sampled
      have unheard := compass_unheard newest heard
      rw [sampledUp.mag_eq] at unheard
      have outcome (fuel : Nat) : s.senseAttitude sdk math fuel dtS =
          some (some (s.estimator.update math sample dtS).1,
            { s with
              sense := ((s.sense.sample sdk).2.sampleMag sdk).2
              estimator := (s.estimator.update math sample dtS).2 }) := by
        simp only [senseAttitude, sampled, heard]
      refine ⟨_, _, ⟨0, fun fuel _ => outcome fuel⟩, rfl,
        ⟨compassUp, rollNext, pitchNext, bias⟩, ?_⟩
      intro attitude same
      cases same
      exact rates _ fun wrong => absurd wrong unheard
    | some compass =>
      obtain ⟨yaw, settles, half⟩ := correctYaw_settles math (s.estimator.update math sample dtS).2
        compass dtS
      have outcome (fuel : Nat) : s.senseAttitude sdk math fuel dtS =
          (correctYawFromMag math fuel (s.estimator.update math sample dtS).2 compass dtS).map
            fun corrected => (some corrected.1,
              { s with
                sense := ((s.sense.sample sdk).2.sampleMag sdk).2
                estimator := corrected.2 }) := by
        simp only [senseAttitude, sampled, heard]
      simp only [outcome]
      refine ⟨_, _, settles.map _, rfl, ⟨compassUp, rollNext, pitchNext, bias⟩, ?_⟩
      intro attitude same
      cases same
      exact rates yaw fun _ => half

end Steps

end SensedNode

end AmpFc
