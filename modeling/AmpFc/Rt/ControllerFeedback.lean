import AmpFc.Rt.ControllerRuns
import AmpFc.Rt.ThrottleCurve

/-! The cascade in exact arithmetic: in range throughout a run, and against every disturbance. -/

namespace AmpFc

section Clamps

variable {value other lo hi : ℚ}

/-- What is clamped lies between the bounds. -/
theorem between_clamp (ordered : lo ≤ hi) :
    lo ≤ FloatArith.clamp value lo hi ∧ FloatArith.clamp value lo hi ≤ hi := by
  simp only [FloatArith.clamp, FloatArith.lt, decide_eq_true_eq]
  -- A value inside is returned as it is, and a bound is inside.
  split_ifs <;> constructor <;> linarith

/-- Between any two bounds clamping keeps the order. -/
theorem clamp_le_clamp (ordered : lo ≤ hi) (below : value ≤ other) :
    FloatArith.clamp value lo hi ≤ FloatArith.clamp other lo hi := by
  -- Each side is its value or one of the bounds, and the cases that clash are no cases.
  simp only [FloatArith.clamp, FloatArith.lt, decide_eq_true_eq]
  split_ifs <;> linarith

/-- A pulse is the clamped value, rounded down. -/
theorem toNat_clampPwm (value : ℚ) :
    (clampPwm value).toNat = ⌊FloatArith.clamp value (1000 : ℚ) 2000⌋.toNat := by
  obtain ⟨low, high⟩ := @between_clamp value 1000 2000 (by norm_num)
  -- A pulse has sixteen bits, and two thousand fits.
  have small : ⌊FloatArith.clamp value (1000 : ℚ) 2000⌋.toNat < 2 ^ 16 := by
    have top : ⌊FloatArith.clamp value (1000 : ℚ) 2000⌋ ≤ 2000 := by
      have floored := Int.floor_le_floor high
      simpa using floored
    omega
  show (UInt16.ofNat (truncRat (FloatArith.clamp value (1000 : ℚ) 2000)).toNat).toNat = _
  rw [truncRat_of_nonneg (by linarith), UInt16.toNat_ofNat', Nat.mod_eq_of_lt small]

/-- A pulse grows with the value it is made of. -/
theorem clampPwm_mono (below : value ≤ other) : clampPwm value ≤ clampPwm other := by
  -- Both clamping and rounding down keep the order.
  rw [UInt16.le_iff_toNat_le, toNat_clampPwm, toNat_clampPwm]
  exact Int.toNat_le_toNat (Int.floor_le_floor (clamp_le_clamp (by norm_num) below))

/-- Whatever it is made of, a pulse is within its range. -/
theorem between_clampPwm (value : ℚ) :
    1000 ≤ (clampPwm value).toNat ∧ (clampPwm value).toNat ≤ 2000 := by
  obtain ⟨low, high⟩ := @between_clamp value 1000 2000 (by norm_num)
  -- Rounding down keeps both limits, which are whole.
  have bottom : (1000 : ℤ) ≤ ⌊FloatArith.clamp value (1000 : ℚ) 2000⌋ := Int.le_floor.mpr (by simpa)
  have top : ⌊FloatArith.clamp value (1000 : ℚ) 2000⌋ ≤ 2000 := by
    have floored := Int.floor_le_floor high
    simpa using floored
  rw [toNat_clampPwm]
  omega

end Clamps

/-- Gains that are not negative, and bounds around zero. -/
structure PidConfig.Sound (config : PidConfig ℚ) : Prop where
  kp : 0 ≤ config.kp
  ki : 0 ≤ config.ki
  kd : 0 ≤ config.kd
  integratorMin : config.integratorMin ≤ 0
  integratorMax : 0 ≤ config.integratorMax
  outputMin : config.outputMin ≤ 0
  outputMax : 0 ≤ config.outputMax

/-- An axis that is sound, and whose integrator is within its bounds. -/
structure PidAxis.InRange (axis : PidAxis ℚ) : Prop where
  sound : axis.config.Sound
  low : axis.config.integratorMin ≤ axis.integrator
  high : axis.integrator ≤ axis.config.integratorMax

namespace PidAxis

variable {axis : PidAxis ℚ}

/-- The two bounds on what an axis puts out. -/
def outputs (axis : PidAxis ℚ) : ℚ × ℚ := (axis.config.outputMin, axis.config.outputMax)

/-- Nothing integrated is within any bounds. -/
theorem InRange.reset (range : axis.InRange) : axis.reset.InRange :=
  ⟨range.sound, range.sound.integratorMin, range.sound.integratorMax⟩

/-- An axis takes gains that are not negative. -/
theorem InRange.setTunings (range : axis.InRange) {kp ki kd : ℚ} (kpSign : 0 ≤ kp)
    (kiSign : 0 ≤ ki) (kdSign : 0 ≤ kd) : (axis.setTunings kp ki kd).InRange :=
  ⟨⟨kpSign, kiSign, kdSign, range.sound.integratorMin, range.sound.integratorMax,
    range.sound.outputMin, range.sound.outputMax⟩, range.low, range.high⟩

/-- What an axis integrates is clamped, whatever it is asked for. -/
theorem InRange.update (range : axis.InRange) (error dtS measuredValue : ℚ) :
    (axis.update error dtS measuredValue).2.InRange := by
  unfold PidAxis.update
  split
  · exact range
  -- The integrator was clamped last, and the configuration is the same.
  · have inside := @between_clamp (axis.integrator + error * dtS * axis.config.ki) _ _
      (range.sound.integratorMin.trans range.sound.integratorMax)
    exact ⟨range.sound, inside.1, inside.2⟩

/-- An update leaves the bounds of the output alone. -/
theorem outputs_update (axis : PidAxis ℚ) (error dtS measuredValue : ℚ) :
    (axis.update error dtS measuredValue).2.outputs = axis.outputs := by
  unfold PidAxis.update
  split <;> rfl

/-- An axis pushes back: it puts out less where more is measured and less is asked for. -/
theorem InRange.update_antitone (range : axis.InRange) {target target' measured measured' dtS : ℚ}
    (asked : target' ≤ target) (more : measured ≤ measured') :
    (axis.update (target' - measured') dtS measured').1 ≤
      (axis.update (target - measured) dtS measured).1 := by
  obtain ⟨sound, -, -⟩ := range
  -- Without time between, the axis puts out nothing at all.
  rcases le_or_gt dtS 0 with stuck | forward
  · have stopped : FloatArith.le dtS (FloatArith.ofRat (0 : ℚ)) = true := decide_eq_true stuck
    have silent : ∀ error measuredValue : ℚ, (axis.update error dtS measuredValue).1 = 0 := by
      intro error measuredValue
      unfold PidAxis.update
      rw [if_pos stopped]
      rfl
    rw [silent, silent]
  have elapsed : FloatArith.le dtS (0 : ℚ) = false := decide_eq_false (not_le.mpr forward)
  have error : target' - measured' ≤ target - measured := by linarith
  have proportional := mul_le_mul_of_nonneg_left error sound.kp
  have integral : FloatArith.clamp
      (axis.integrator + (target' - measured') * dtS * axis.config.ki)
        axis.config.integratorMin axis.config.integratorMax ≤
      FloatArith.clamp (axis.integrator + (target - measured) * dtS * axis.config.ki)
        axis.config.integratorMin axis.config.integratorMax := by
    refine clamp_le_clamp (sound.integratorMin.trans sound.integratorMax) ?_
    have step := mul_le_mul_of_nonneg_right (mul_le_mul_of_nonneg_right error forward.le) sound.ki
    linarith
  -- The derivative acts against the measurement, if there is one to compare with.
  have derivative : axis.config.kd *
      (if axis.first then 0 else (axis.previousMeasurement - measured') / dtS) ≤
      axis.config.kd * (if axis.first then 0 else (axis.previousMeasurement - measured) / dtS) := by
    refine mul_le_mul_of_nonneg_left ?_ sound.kd
    split
    · exact le_rfl
    · exact div_le_div_of_nonneg_right (by linarith) forward.le
  have whole : ∀ error measuredValue : ℚ, (axis.update error dtS measuredValue).1 =
      FloatArith.clamp (axis.config.kp * error +
        FloatArith.clamp (axis.integrator + error * dtS * axis.config.ki)
          axis.config.integratorMin axis.config.integratorMax + axis.config.kd *
        (if axis.first then 0 else (axis.previousMeasurement - measuredValue) / dtS))
        axis.config.outputMin axis.config.outputMax := by
    intro error measuredValue
    unfold PidAxis.update
    rw [if_neg (by rw [show FloatArith.ofRat (0 : ℚ) = (0 : ℚ) from rfl, elapsed]; decide)]
    rfl
  rw [whole, whole]
  refine clamp_le_clamp (sound.outputMin.trans sound.outputMax) ?_
  linarith

end PidAxis

/-- A controller whose axes and setpoint are within the bounds of the sources. -/
structure Controller.InRange (c : Controller ℚ) : Prop where
  rollAngle : c.rollAngle.InRange
  pitchAngle : c.pitchAngle.InRange
  rollRate : c.rollRate.InRange
  pitchRate : c.pitchRate.InRange
  yawRate : c.yawRate.InRange
  angles : c.rollAngle.outputs = (-220, 220) ∧ c.pitchAngle.outputs = (-220, 220)
  rates : c.rollRate.outputs = (-1, 1) ∧ c.pitchRate.outputs = (-1, 1) ∧
    c.yawRate.outputs = (-1, 1)
  throttle : 0 ≤ c.setpoint.throttle ∧ c.setpoint.throttle ≤ 1

namespace Controller

variable {c : Controller ℚ}

/-- Forgetting leaves a controller within its bounds. -/
theorem InRange.resetIntegrators (range : c.InRange) : c.resetIntegrators.InRange :=
  ⟨range.rollAngle.reset, range.pitchAngle.reset, range.rollRate.reset, range.pitchRate.reset,
    range.yawRate.reset, range.angles, range.rates, range.throttle⟩

/-- A configuration is clamped to gains that are not negative. -/
theorem InRange.applyConfig (range : c.InRange) (config : FlightConfig ℚ) :
    (c.applyConfig config).InRange := by
  -- Every lower bound of a gain is zero or more.
  have angleP := (@between_clamp config.angleP (1 / 2) 20 (by norm_num)).1
  have rateP := (@between_clamp config.rateP (1 / 100) 1 (by norm_num)).1
  have rateI := (@between_clamp config.rateI 0 1 (by norm_num)).1
  have rateD := (@between_clamp config.rateD 0 (1 / 10) (by norm_num)).1
  have angle : (0 : ℚ) ≤ FloatArith.clamp config.angleP (1 / 2) 20 := by linarith
  have rate : (0 : ℚ) ≤ FloatArith.clamp config.rateP (1 / 100) 1 := by linarith
  have damping : (0 : ℚ) ≤ 5 / 100 := by norm_num
  exact ⟨(range.rollAngle.setTunings angle le_rfl damping).reset,
    (range.pitchAngle.setTunings angle le_rfl damping).reset,
    (range.rollRate.setTunings rate rateI rateD).reset,
    (range.pitchRate.setTunings rate rateI rateD).reset,
    (range.yawRate.setTunings rate rateI rateD).reset, range.angles, range.rates, range.throttle⟩

/-- A control step keeps every axis within its bounds. -/
theorem InRange.update (range : c.InRange) (state : AttitudeState ℚ) (dtS : ℚ) :
    (Controller.update mix c state dtS).2.InRange := by
  unfold Controller.update
  split
  · exact range
  -- An armed step updates the five axes, and nothing that bounds them.
  · refine ⟨range.rollAngle.update _ _ _, range.pitchAngle.update _ _ _,
      range.rollRate.update _ _ _, range.pitchRate.update _ _ _, range.yawRate.update _ _ _, ?_, ?_, range.throttle⟩
    · simp only [PidAxis.outputs_update]
      exact range.angles
    · simp only [PidAxis.outputs_update]
      exact range.rates

/-- So does every call. -/
theorem InRange.perform (range : c.InRange) (call : ControllerOp ℚ) : (c.perform call).InRange := by
  cases call with
  | setSetpoint setpoint =>
    -- Of the setpoint only the throttle matters, which is clamped.
    exact ⟨range.rollAngle, range.pitchAngle, range.rollRate, range.pitchRate, range.yawRate,
      range.angles, range.rates, between_clamp zero_le_one⟩
  | setArmState state =>
    show (c.setArmState state).InRange
    unfold Controller.setArmState
    split
    · exact range
    -- Another state forgets what was integrated.
    · exact InRange.resetIntegrators ⟨range.rollAngle, range.pitchAngle, range.rollRate,
        range.pitchRate, range.yawRate, range.angles, range.rates, range.throttle⟩
  | applyConfig config => exact range.applyConfig config
  | update state dtS => exact range.update state dtS

/-- The controller is built within its bounds. -/
theorem initial_inRange : (initial : Controller ℚ).InRange := by
  -- The tunings of the constructor, loop by loop.
  have angle : (PidAxis.ofConfig (angleLoop : PidConfig ℚ)).InRange := by
    constructor
    · constructor <;> norm_num [PidAxis.ofConfig, angleLoop, FloatArith.ofRat]
    · norm_num [PidAxis.ofConfig, angleLoop, FloatArith.ofRat]
    · norm_num [PidAxis.ofConfig, angleLoop, FloatArith.ofRat]
  have rate : ∀ bound : ℚ, 0 ≤ bound →
      (PidAxis.ofConfig (rateLoop bound : PidConfig ℚ)).InRange := by
    intro bound sign
    constructor
    · constructor <;> norm_num [PidAxis.ofConfig, rateLoop, FloatArith.ofRat] <;> linarith
    · norm_num [PidAxis.ofConfig, rateLoop, FloatArith.ofRat]
      linarith
    · norm_num [PidAxis.ofConfig, rateLoop, FloatArith.ofRat]
      linarith
  refine InRange.applyConfig ?_ defaultFlightConfig
  exact ⟨angle, angle, rate 120 (by norm_num), rate 120 (by norm_num), rate 100 (by norm_num),
    ⟨rfl, rfl⟩, ⟨rfl, rfl, rfl⟩, le_rfl, zero_le_one⟩

/-- Throughout a run of calls the controller is within its bounds. -/
theorem controllerAt_inRange (calls : Nat → ControllerOp ℚ) (n : Nat) :
    (controllerAt calls n).InRange :=
  stateAt_invariant initial_inRange (fun _ k range => range.perform (calls k)) n

/-- A correction about the roll axis lowers the first two motors and raises the others. -/
def rollSign : Fin 4 → ℚ := ![-1, -1, 1, 1]

/-- A correction about the pitch axis raises the first motor and the last. -/
def pitchSign : Fin 4 → ℚ := ![1, -1, -1, 1]

/-- A correction about the yaw axis raises the second motor and the last. -/
def yawSign : Fin 4 → ℚ := ![-1, 1, -1, 1]

/-- The pulse of a motor, by its signs. -/
theorem mix_get (throttle pitchOut rollOut yawOut : ℚ) (motor : Fin 4) :
    (mix throttle pitchOut rollOut yawOut).get motor =
      clampPwm (1000 + throttle * 1000 + (pitchSign motor * pitchOut + rollSign motor * rollOut +
        yawSign motor * yawOut) * 320) := by
  -- One row of the source's mixer for each motor.
  fin_cases motor
  · show clampPwm (1000 + throttle * 1000 + (pitchOut - rollOut - yawOut) * 320) =
      clampPwm (1000 + throttle * 1000 + (1 * pitchOut + -1 * rollOut + -1 * yawOut) * 320)
    congr 1
    ring
  · show clampPwm (1000 + throttle * 1000 + (-pitchOut - rollOut + yawOut) * 320) =
      clampPwm (1000 + throttle * 1000 + (-1 * pitchOut + -1 * rollOut + 1 * yawOut) * 320)
    congr 1
    ring
  · show clampPwm (1000 + throttle * 1000 + (-pitchOut + rollOut - yawOut) * 320) =
      clampPwm (1000 + throttle * 1000 + (-1 * pitchOut + 1 * rollOut + -1 * yawOut) * 320)
    congr 1
    ring
  · show clampPwm (1000 + throttle * 1000 + (pitchOut + rollOut + yawOut) * 320) =
      clampPwm (1000 + throttle * 1000 + (1 * pitchOut + 1 * rollOut + 1 * yawOut) * 320)
    congr 1
    ring

/-- A motor that raises an axis slows down, and one that lowers it does not. -/
def Opposes (sign : ℚ) (before after : UInt16) : Prop :=
  if 0 < sign then after ≤ before else before ≤ after

/-- Less of a correction slows down the motors that raise its axis. -/
theorem opposes_of_le {sign value other less more : ℚ} (unit : sign = 1 ∨ sign = -1)
    (fewer : less ≤ more) (shift : other = value + sign * (less - more) * 320) :
    Opposes sign (clampPwm value) (clampPwm other) := by
  unfold Opposes
  -- The sign says which way the value moves.
  rcases unit with rfl | rfl
  · rw [if_pos one_pos]
    apply clampPwm_mono
    linarith
  · rw [if_neg (by norm_num)]
    apply clampPwm_mono
    linarith

/-- Each axis raises a motor or lowers it. -/
theorem sign_unit (motor : Fin 4) : (rollSign motor = 1 ∨ rollSign motor = -1) ∧
    (pitchSign motor = 1 ∨ pitchSign motor = -1) ∧ (yawSign motor = 1 ∨ yawSign motor = -1) := by
  fin_cases motor <;> simp [rollSign, pitchSign, yawSign]

/-- A rate loop under its angle loop pushes back against both. -/
theorem cascade_antitone {angle rate : PidAxis ℚ} (outer : angle.InRange) (inner : rate.InRange)
    {asked deg deg' rateDps rateDps' dtS : ℚ} (leans : deg ≤ deg') (turns : rateDps ≤ rateDps') :
    (rate.update ((angle.update (asked - deg') dtS deg').1 - rateDps') dtS rateDps').1 ≤
      (rate.update ((angle.update (asked - deg) dtS deg).1 - rateDps) dtS rateDps).1 :=
  inner.update_antitone (outer.update_antitone le_rfl leans) turns

/-- The second attitude is the first one, leaning and turning further about the roll axis. -/
def Rolled (s s' : AttitudeState ℚ) : Prop :=
  s.rollDeg ≤ s'.rollDeg ∧ s.rollRateDps ≤ s'.rollRateDps ∧ s'.pitchDeg = s.pitchDeg ∧
    s'.pitchRateDps = s.pitchRateDps ∧ s'.yawRateDps = s.yawRateDps

/-- The second attitude is the first one, leaning and turning further about the pitch axis. -/
def Pitched (s s' : AttitudeState ℚ) : Prop :=
  s.pitchDeg ≤ s'.pitchDeg ∧ s.pitchRateDps ≤ s'.pitchRateDps ∧ s'.rollDeg = s.rollDeg ∧
    s'.rollRateDps = s.rollRateDps ∧ s'.yawRateDps = s.yawRateDps

/-- The second attitude is the first one, turning further about the yaw axis. -/
def Yawed (s s' : AttitudeState ℚ) : Prop :=
  s.yawRateDps ≤ s'.yawRateDps ∧ s'.rollDeg = s.rollDeg ∧ s'.rollRateDps = s.rollRateDps ∧
    s'.pitchDeg = s.pitchDeg ∧ s'.pitchRateDps = s.pitchRateDps

/-- The correction about the roll axis that an armed controller asks its mixer for. -/
def rollOut (c : Controller ℚ) (s : AttitudeState ℚ) (dtS : ℚ) : ℚ :=
  (c.rollRate.update ((c.rollAngle.update (c.setpoint.rollDeg - s.rollDeg) dtS s.rollDeg).1 -
    s.rollRateDps) dtS s.rollRateDps).1

/-- The correction about the pitch axis. -/
def pitchOut (c : Controller ℚ) (s : AttitudeState ℚ) (dtS : ℚ) : ℚ :=
  (c.pitchRate.update ((c.pitchAngle.update (c.setpoint.pitchDeg - s.pitchDeg) dtS s.pitchDeg).1 -
    s.pitchRateDps) dtS s.pitchRateDps).1

/-- The correction about the yaw axis, which has no angle loop. -/
def yawOut (c : Controller ℚ) (s : AttitudeState ℚ) (dtS : ℚ) : ℚ :=
  (c.yawRate.update (c.setpoint.yawRateDps - s.yawRateDps) dtS s.yawRateDps).1

/-- The pulse of a motor is made of the three corrections, by its signs. -/
theorem update_get (armed : c.armState = .armed) (s : AttitudeState ℚ) (dtS : ℚ)
    (motor : Fin 4) : (c.update mix s dtS).1.get motor =
      clampPwm (1000 + c.setpoint.throttle * 1000 + (pitchSign motor * c.pitchOut s dtS +
        rollSign motor * c.rollOut s dtS + yawSign motor * c.yawOut s dtS) * 320) := by
  unfold Controller.update
  rw [if_neg (not_not.mpr armed)]
  exact mix_get _ _ _ _ motor

/-- After any calls an armed controller pushes back: whatever it has integrated and measured so far,
of two attitudes that differ about one axis the one that leans and turns further gets no more from
the motors that raise this axis, and no less from the others; and no pulse ever leaves its range. -/
theorem armed_pushes_back (calls : Nat → ControllerOp ℚ) (n : Nat)
    (armed : (controllerAt calls n).armState = .armed) (dtS : ℚ) (s s' : AttitudeState ℚ)
    (motor : Fin 4) :
    let before := ((controllerAt calls n).update mix s dtS).1.get motor
    let after := ((controllerAt calls n).update mix s' dtS).1.get motor
    (Rolled s s' → Opposes (rollSign motor) before after) ∧
      (Pitched s s' → Opposes (pitchSign motor) before after) ∧
      (Yawed s s' → Opposes (yawSign motor) before after) ∧
      1000 ≤ before.toNat ∧ before.toNat ≤ 2000 := by
  have range := controllerAt_inRange calls n
  generalize controllerAt calls n = c at armed range
  obtain ⟨roll, pitch, yaw⟩ := sign_unit motor
  dsimp only
  rw [update_get armed, update_get armed]
  refine ⟨?_, ?_, ?_, between_clampPwm _⟩
  · rintro ⟨leans, turns, pitchDeg, pitchRate, yawRate⟩
    -- The other two corrections are the same, and belong to the base.
    have others : c.pitchOut s' dtS = c.pitchOut s dtS ∧ c.yawOut s' dtS = c.yawOut s dtS := by
      unfold pitchOut yawOut
      rw [pitchDeg, pitchRate, yawRate]
      exact ⟨rfl, rfl⟩
    have fewer : c.rollOut s' dtS ≤ c.rollOut s dtS :=
      cascade_antitone range.rollAngle range.rollRate leans turns
    rw [others.1, others.2]
    exact opposes_of_le roll fewer (by ring)
  · rintro ⟨leans, turns, rollDeg, rollRate, yawRate⟩
    have others : c.rollOut s' dtS = c.rollOut s dtS ∧ c.yawOut s' dtS = c.yawOut s dtS := by
      unfold rollOut yawOut
      rw [rollDeg, rollRate, yawRate]
      exact ⟨rfl, rfl⟩
    have fewer : c.pitchOut s' dtS ≤ c.pitchOut s dtS :=
      cascade_antitone range.pitchAngle range.pitchRate leans turns
    rw [others.1, others.2]
    exact opposes_of_le pitch fewer (by ring)
  · rintro ⟨turns, rollDeg, rollRate, pitchDeg, pitchRate⟩
    have others : c.rollOut s' dtS = c.rollOut s dtS ∧ c.pitchOut s' dtS = c.pitchOut s dtS := by
      unfold rollOut pitchOut
      rw [rollDeg, rollRate, pitchDeg, pitchRate]
      exact ⟨rfl, rfl⟩
    have fewer : c.yawOut s' dtS ≤ c.yawOut s dtS :=
      range.yawRate.update_antitone le_rfl turns
    rw [others.1, others.2]
    exact opposes_of_le yaw fewer (by ring)

/-- A second attitude that leans to the right slows down the motors on the left. -/
theorem armed_pushes_back_armAndStep :
    Opposes (rollSign 2)
      (((controllerAt armAndStep 2).update mix ⟨3, -2, 0, 10, 5, 1⟩ (1 / 100)).1.get 2)
      (((controllerAt armAndStep 2).update mix ⟨4, -2, 0, 12, 5, 1⟩ (1 / 100)).1.get 2) := by
  have leans : Rolled (⟨3, -2, 0, 10, 5, 1⟩ : AttitudeState ℚ) ⟨4, -2, 0, 12, 5, 1⟩ := by
    refine ⟨?_, ?_, rfl, rfl, rfl⟩ <;> norm_num
  exact (armed_pushes_back armAndStep 2 rfl (1 / 100) _ _ 2).1 leans

end Controller

end AmpFc
