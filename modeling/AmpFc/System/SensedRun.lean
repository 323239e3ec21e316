import AmpFc.Rt.MotorOutput
import AmpFc.Rt.SensedNode
import AmpFc.System.ReportSlot

/-! Runs of the realtime node that sense for themselves: no division by zero, no loop without end,
and no attitude that the sensors did not spell. -/

namespace AmpFc

namespace SensedNode

variable {W : Type} {sdk : I2cSdk W} {math : CMath ℚ} {mix : Mix ℚ} {imu : I2cBusConfig}
  {mag : Hmc5883lConfig} {biasDps : ℚ × ℚ × ℚ}

/-- A report repeats the attitude that was sensed. -/
structure Reports (attitude : AttitudeState ℚ) (report : RtReport ℚ) : Prop where
  roll : report.rollDeg = attitude.rollDeg
  pitch : report.pitchDeg = attitude.pitchDeg
  yaw : report.yawDeg = attitude.yawDeg
  rollRate : report.rollRateDps = attitude.rollRateDps
  pitchRate : report.pitchRateDps = attitude.pitchRateDps
  yawRate : report.yawRateDps = attitude.yawRateDps

/-- An iteration reports an attitude only if it was sensed. -/
theorem iterate_reports {s : RunState ℚ} {input : IterationInput ℚ} {report : RtReport ℚ}
    (published : report ∈ (s.iterate mix input).2) :
    ∃ attitude ∈ input.sensed, Reports attitude report := by
  obtain ⟨nothing, -⟩ | ⟨attitude, dtS, sensed, -, reported⟩ := iterate_report mix s input
  · rw [nothing] at published
    cases published
  · rw [reported] at published
    cases published
    exact ⟨attitude, sensed, ⟨rfl, rfl, rfl, rfl, rfl, rfl⟩⟩

/-- What an iteration from sensors that are sound comes to. -/
structure Turned (mix : Mix ℚ) (mag : Hmc5883lConfig) (biasDps : ℚ × ℚ × ℚ) (s : SensedNode W ℚ)
    (input : IterationInput ℚ) (sensed : Option (AttitudeState ℚ)) (left : SensedNode W ℚ)
    (report : Option (RtReport ℚ)) : Prop where
  run : left.run = (s.run.iterate mix { input with sensed := sensed }).1
  report : report = (s.run.iterate mix { input with sensed := sensed }).2
  silent : input.controlUs < s.run.nextControlDueUs → left.sense = s.sense
  spelled : ∀ attitude ∈ sensed,
    Plausible mag biasDps (s.dtS input.controlUs) left.sense.board.log attitude

/-- An iteration from sensors that are sound ends, and leaves them sound. -/
theorem iterate_settles (sdk : I2cSdk W) (math : CMath ℚ) (mix : Mix ℚ) {s : SensedNode W ℚ}
    (sound : Sound imu mag biasDps s) (input : IterationInput ℚ) :
    ∃ sensed left report,
      Settles (fun fuel => s.iterate sdk math fuel mix input) (left, report) ∧
        Sound imu mag biasDps left ∧ Turned mix mag biasDps s input sensed left report := by
  by_cases early : input.controlUs < s.run.nextControlDueUs
  · -- Until the step is due, the sensors are left alone.
    have outcome (fuel : Nat) : s.iterate sdk math fuel mix input =
        some ({ s with run := (s.run.iterate mix { input with sensed := none }).1 },
          (s.run.iterate mix { input with sensed := none }).2) := if_pos early
    refine ⟨none, _, _, ⟨0, fun fuel _ => outcome fuel⟩,
      ⟨sound.up, sound.roll, sound.pitch, sound.bias⟩, rfl, rfl, fun _ => rfl, ?_⟩
    intro attitude wrong
    cases wrong
  · have forward : 0 ≤ s.dtS input.controlUs :=
      div_nonneg (Nat.cast_nonneg _ : (0 : ℚ) ≤ _) (by norm_num : (0 : ℚ) ≤ 1000000)
    obtain ⟨sensed, left, settles, same, still, spelled⟩ :=
      senseAttitude_settles sdk math sound forward
    have outcome (fuel : Nat) : s.iterate sdk math fuel mix input =
        (s.senseAttitude sdk math fuel (s.dtS input.controlUs)).map fun sensed =>
          ({ sensed.2 with run := (s.run.iterate mix { input with sensed := sensed.1 }).1 },
            (s.run.iterate mix { input with sensed := sensed.1 }).2) := if_neg early
    simp only [outcome]
    exact ⟨sensed, _, _, settles.map _, ⟨still.up, still.roll, still.pitch, still.bias⟩, rfl, rfl,
      fun due => absurd due early, spelled⟩

/-- Over a sense that came up, the node enters its loop with sensors that are sound. -/
theorem started_sound (requireMag : Bool) (world : W) (boot : BootClock)
    (ok : ((Sense.fresh imu mag requireMag world : Sense W ℚ).init sdk).1 = true) :
    let sense := ((Sense.fresh imu mag requireMag world : Sense W ℚ).init sdk).2
    Sound imu mag sense.biasDps (started sense boot) :=
  ⟨Sense.init_up requireMag world ok, AxisKalman.initial_wellPosed, AxisKalman.initial_wellPosed,
    rfl⟩

/-- A rate that differs from one in range by a bias in range. -/
theorem rate_range {rate bias : ℚ} (spelled : |rate + bias| ≤ gyroRange)
    (within : |bias| ≤ gyroRange) : |rate| ≤ 2 * gyroRange := by
  calc |rate| = |rate + bias - bias| := by rw [add_sub_cancel_right]
    _ ≤ |rate + bias| + |bias| := abs_sub _ _
    _ ≤ 2 * gyroRange := by linarith

/-- The node over its sensors runs like the node on the attitudes that it senses: every iteration
ends, whatever the bus answers and the functions of `<cmath>` say; the filters stay well posed, so
that nothing is divided by zero; the bus is silent until a control step is due; and what is reported
are rates within twice the range of the sensor, and a yaw within half a turn once the compass was
heard. -/
theorem sensed_run (sdk : I2cSdk W) (math : CMath ℚ) (mix : Mix ℚ) (imu : I2cBusConfig)
    (mag : Hmc5883lConfig) (requireMag : Bool) (world : W) (boot : BootClock)
    (input : Nat → IterationInput ℚ)
    (ok : ((Sense.fresh imu mag requireMag world : Sense W ℚ).init sdk).1 = true) :
    let sense := ((Sense.fresh imu mag requireMag world : Sense W ℚ).init sdk).2
    ∃ (state : Nat → SensedNode W ℚ) (report : Nat → Option (RtReport ℚ))
      (sensed : Nat → Option (AttitudeState ℚ)), state 0 = started sense boot ∧ ∀ n,
        Settles (fun fuel => (state n).iterate sdk math fuel mix (input n))
            (state (n + 1), report n) ∧
          (state n).run = nodeAt mix boot (fun k => { input k with sensed := sensed k }) n ∧
          Sound imu mag sense.biasDps (state n) ∧
          ((input n).controlUs < (state n).run.nextControlDueUs →
            (state (n + 1)).sense = (state n).sense) ∧
          ∀ published ∈ report n, |published.rollRateDps| ≤ 2 * gyroRange ∧
            |published.pitchRateDps| ≤ 2 * gyroRange ∧ |published.yawRateDps| ≤ 2 * gyroRange ∧
            (CompassHeard mag (state (n + 1)).sense.board.log →
              0 < (state n).dtS (input n).controlUs → |published.yawDeg| ≤ 180) := by
  intro sense
  have starts := started_sound requireMag world boot ok
  have range := Sense.init_biasDps_range sdk requireMag world ok
  -- Each iteration is chosen for a node that is sound, so that the choice goes on for ever.
  choose! sensedAt leftAt reportAt settles keeps turned using
    fun (s : SensedNode W ℚ) (n : Nat) (sound : Sound imu mag sense.biasDps s) =>
      iterate_settles sdk math mix sound (input n)
  let state : Nat → SensedNode W ℚ := stateAt (fun s n => leftAt s n) (started sense boot) id
  have step (n : Nat) : state (n + 1) = leftAt (state n) n := stateAt_succ _ _ _ n
  have sound (n : Nat) : Sound imu mag sense.biasDps (state n) :=
    stateAt_invariant starts (fun s n sound => keeps s n sound) n
  refine ⟨state, fun n => reportAt (state n) n, fun n => sensedAt (state n) n, rfl, fun n => ?_⟩
  have now := turned (state n) n (sound n)
  rw [step]
  refine ⟨settles (state n) n (sound n), ?_, sound n, now.silent, ?_⟩
  · -- The induction is on the iterations, which turn both nodes alike.
    induction n with
    | zero => rfl
    | succ n ih =>
      have before := turned (state n) n (sound n)
      rw [step, before.run, ih before]
      rfl
  · intro published among
    have among : published ∈ reportAt (state n) n := among
    rw [now.report] at among
    obtain ⟨attitude, felt, same⟩ := iterate_reports among
    obtain ⟨roll, pitch, yaw, heading⟩ := now.spelled attitude felt
    rw [same.rollRate, same.pitchRate, same.yawRate, same.yaw]
    exact ⟨rate_range roll range.1, rate_range pitch range.2.1, rate_range yaw range.2.2, heading⟩

/-- Over a bus on which the craft turns. -/
theorem sensed_run_turning :
    ∃ (state : Nat → SensedNode Nat ℚ) (report : Nat → Option (RtReport ℚ)),
      Settles (fun fuel => (state 0).iterate Sense.turningBus constantAngle fuel Controller.mix
        (benchIteration 5000 {} [])) (state 1, report 0) := by
  obtain ⟨state, report, _, _, each⟩ := sensed_run Sense.turningBus constantAngle Controller.mix
    {} {} false 0 ⟨0, 0⟩ (fun _ => benchIteration 5000 {} []) Sense.turningBus_up
  exact ⟨state, report, (each 0).1⟩

end SensedNode

end AmpFc
