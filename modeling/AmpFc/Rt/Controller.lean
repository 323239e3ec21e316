import AmpFc.Common.Protocol

/-! The realtime controller and the actuator behind it: cascaded axes, mixer, last pulses. -/

namespace AmpFc

open FloatArith (ofRat)

/-- `ControlSetpoint`. -/
structure ControlSetpoint (F : Type) where
  throttle : F
  rollDeg : F
  pitchDeg : F
  yawRateDps : F

/-- `AttitudeState`, what the estimator hands to the controller. -/
structure AttitudeState (F : Type) where
  rollDeg : F
  pitchDeg : F
  yawDeg : F
  rollRateDps : F
  pitchRateDps : F
  yawRateDps : F

/-- `PidConfig`. -/
structure PidConfig (F : Type) where
  kp : F
  ki : F
  kd : F
  integratorMin : F
  integratorMax : F
  outputMin : F
  outputMax : F

/-- `PidAxis`. -/
structure PidAxis (F : Type) where
  config : PidConfig F
  integrator : F
  previousMeasurement : F
  first : Bool

/-- The mixer's signature: throttle, then pitch, roll, and yaw correction. -/
abbrev Mix (F : Type) := F → F → F → F → MotorPwm

/-- `Controller`. -/
structure Controller (F : Type) where
  setpoint : ControlSetpoint F
  armState : ArmState
  rollAngle : PidAxis F
  pitchAngle : PidAxis F
  rollRate : PidAxis F
  pitchRate : PidAxis F
  yawRate : PidAxis F
  activeConfig : FlightConfig F

/-- `clamp_pwm`. -/
def clampPwm {F : Type} [FloatArith F] (value : F) : UInt16 :=
  FloatArith.toUInt16 (FloatArith.clamp value (ofRat pwmMinUs.toNat) (ofRat pwmMaxUs.toNat))

/-- All four motors at the lower end of their range. -/
def idlePwm : MotorPwm := .replicate 4 pwmMinUs

namespace PidAxis

variable {F : Type} [FloatArith F]

/-- The constructor `PidAxis::PidAxis`. -/
def ofConfig (config : PidConfig F) : PidAxis F where
  config := config
  integrator := ofRat 0
  previousMeasurement := ofRat 0
  first := true

/-- `PidAxis::update`: the output, and the axis with its memory advanced. -/
def update (axis : PidAxis F) (error dtS measuredValue : F) : F × PidAxis F :=
  -- Without elapsed time the axis keeps its memory and asks for nothing.
  if FloatArith.le dtS (ofRat 0) then (ofRat 0, axis)
  else
    let c := axis.config
    let integrator := FloatArith.clamp (axis.integrator + error * dtS * c.ki)
      c.integratorMin c.integratorMax
    -- The derivative acts on the measurement, and there is none to compare with at first.
    let derivative :=
      if axis.first then ofRat 0 else (axis.previousMeasurement - measuredValue) / dtS
    let output := c.kp * error + integrator + c.kd * derivative
    (FloatArith.clamp output c.outputMin c.outputMax,
      { axis with integrator := integrator, first := false, previousMeasurement := measuredValue })

/-- `PidAxis::reset`. -/
def reset (axis : PidAxis F) : PidAxis F :=
  { axis with integrator := ofRat 0, previousMeasurement := ofRat 0, first := true }

/-- `PidAxis::setTunings`. -/
def setTunings (axis : PidAxis F) (kp ki kd : F) : PidAxis F :=
  { axis with config := { axis.config with kp := kp, ki := ki, kd := kd } }

end PidAxis

namespace Controller

variable {F : Type} [FloatArith F]

/-- `Controller::resetIntegrators`. -/
def resetIntegrators (c : Controller F) : Controller F :=
  { c with
    rollAngle := c.rollAngle.reset
    pitchAngle := c.pitchAngle.reset
    rollRate := c.rollRate.reset
    pitchRate := c.pitchRate.reset
    yawRate := c.yawRate.reset }

/-- `Controller::setSetpoint`. -/
def setSetpoint (c : Controller F) (setpoint : ControlSetpoint F) : Controller F :=
  -- Throttle is a fraction, angles and the yaw rate are in degrees.
  { c with
    setpoint :=
      { throttle := FloatArith.clamp setpoint.throttle (ofRat 0) (ofRat 1)
        rollDeg := FloatArith.clamp setpoint.rollDeg (ofRat (-35)) (ofRat 35)
        pitchDeg := FloatArith.clamp setpoint.pitchDeg (ofRat (-35)) (ofRat 35)
        yawRateDps := FloatArith.clamp setpoint.yawRateDps (ofRat (-180)) (ofRat 180) } }

/-- `Controller::setArmState`. -/
def setArmState (c : Controller F) (state : ArmState) : Controller F :=
  -- Setting the state it already has does not disturb the integrators.
  if state = c.armState then c else { c with armState := state }.resetIntegrators

/-- `Controller::applyConfig`. -/
def applyConfig (c : Controller F) (config : FlightConfig F) : Controller F :=
  let active : FlightConfig F := { config with
    angleP := FloatArith.clamp config.angleP (ofRat (1 / 2)) (ofRat 20)
    rateP := FloatArith.clamp config.rateP (ofRat (1 / 100)) (ofRat 1)
    rateI := FloatArith.clamp config.rateI (ofRat 0) (ofRat 1)
    rateD := FloatArith.clamp config.rateD (ofRat 0) (ofRat (1 / 10)) }
  -- Only the proportional gain of the angle loops is configurable.
  { c with
    activeConfig := active
    rollAngle := c.rollAngle.setTunings active.angleP (ofRat 0) (ofRat (5 / 100))
    pitchAngle := c.pitchAngle.setTunings active.angleP (ofRat 0) (ofRat (5 / 100))
    rollRate := c.rollRate.setTunings active.rateP active.rateI active.rateD
    pitchRate := c.pitchRate.setTunings active.rateP active.rateI active.rateD
    yawRate := c.yawRate.setTunings active.rateP active.rateI active.rateD }.resetIntegrators

/-- The gains and bounds an angle loop is built with. -/
def angleLoop : PidConfig F :=
  ⟨ofRat 4, ofRat 0, ofRat (5 / 100), ofRat (-50), ofRat 50, ofRat (-220), ofRat 220⟩

/-- The gains and bounds a rate loop is built with, around its integrator's bound. -/
def rateLoop (bound : ℚ) : PidConfig F :=
  ⟨ofRat (12 / 100), ofRat (2 / 100), ofRat (3 / 1000), ofRat (-bound), ofRat bound,
    ofRat (-1), ofRat 1⟩

/-- The constructor `Controller::Controller`. -/
def initial : Controller F :=
  -- The constructor ends by applying the default configuration.
  applyConfig
    { setpoint := ⟨ofRat 0, ofRat 0, ofRat 0, ofRat 0⟩
      armState := .disarmed
      rollAngle := .ofConfig angleLoop
      pitchAngle := .ofConfig angleLoop
      rollRate := .ofConfig (rateLoop 120)
      pitchRate := .ofConfig (rateLoop 120)
      yawRate := .ofConfig (rateLoop 100)
      activeConfig := defaultFlightConfig }
    defaultFlightConfig

/-- `Controller::mix`. -/
def mix : Mix F := fun throttle pitchOut rollOut yawOut =>
  let base := ofRat pwmMinUs.toNat + throttle * ofRat 1000
  let mixScaleUs : F := ofRat 320
  -- Each motor adds its own signs of the three corrections to the common base.
  #v[clampPwm (base + (pitchOut - rollOut - yawOut) * mixScaleUs),
    clampPwm (base + (-pitchOut - rollOut + yawOut) * mixScaleUs),
    clampPwm (base + (-pitchOut + rollOut - yawOut) * mixScaleUs),
    clampPwm (base + (pitchOut + rollOut + yawOut) * mixScaleUs)]

/-- `Controller::update` over a mixer: the pulses, and the controller with its axes advanced. -/
def update (mix : Mix F) (c : Controller F) (state : AttitudeState F) (dtS : F) :
    MotorPwm × Controller F :=
  if c.armState ≠ .armed then (idlePwm, c)
  else
    -- The angle loops set the targets of the roll and pitch rate loops.
    let rollTarget := c.rollAngle.update (c.setpoint.rollDeg - state.rollDeg) dtS state.rollDeg
    let pitchTarget :=
      c.pitchAngle.update (c.setpoint.pitchDeg - state.pitchDeg) dtS state.pitchDeg
    let rollOut := c.rollRate.update (rollTarget.1 - state.rollRateDps) dtS state.rollRateDps
    let pitchOut :=
      c.pitchRate.update (pitchTarget.1 - state.pitchRateDps) dtS state.pitchRateDps
    let yawOut :=
      c.yawRate.update (c.setpoint.yawRateDps - state.yawRateDps) dtS state.yawRateDps
    (mix c.setpoint.throttle pitchOut.1 rollOut.1 yawOut.1,
      { c with
        rollAngle := rollTarget.2
        pitchAngle := pitchTarget.2
        rollRate := rollOut.2
        pitchRate := pitchOut.2
        yawRate := yawOut.2 })

/-- The state that is set is the state. -/
@[simp] theorem setArmState_armState (c : Controller F) (state : ArmState) :
    (c.setArmState state).armState = state := by
  -- Either the state is set, or it was this one already.
  unfold setArmState
  split
  · rename_i same
    exact same.symm
  · rfl

/-- A configuration leaves the arm state alone, -/
@[simp] theorem applyConfig_armState (c : Controller F) (config : FlightConfig F) :
    (c.applyConfig config).armState = c.armState := rfl

/-- and so does a setpoint. -/
@[simp] theorem setSetpoint_armState (c : Controller F) (setpoint : ControlSetpoint F) :
    (c.setSetpoint setpoint).armState = c.armState := rfl

/-- A control step never changes the arm state. -/
@[simp] theorem update_armState (mix : Mix F) (c : Controller F) (state : AttitudeState F)
    (dtS : F) : (update mix c state dtS).2.armState = c.armState := by
  unfold update
  split
  · rfl
  · rfl

/-- Unless armed, a control step asks for idle pulses whatever the mixer is. -/
theorem update_idle {mix : Mix F} {c : Controller F} (unarmed : c.armState ≠ .armed)
    (state : AttitudeState F) (dtS : F) : (update mix c state dtS).1 = idlePwm := by
  rw [update, if_pos unarmed]

end Controller

/-- `Actuator`, whose backend takes every pulse it is given. -/
structure Actuator where
  hasBackend : Bool
  lastPwm : MotorPwm := idlePwm

namespace Actuator

/-- `Actuator::output`, which refuses without a backend. -/
def output (a : Actuator) (pwmUs : MotorPwm) : Actuator :=
  if !a.hasBackend then a else { a with lastPwm := pwmUs }

/-- `Actuator::stop`. -/
def stop (a : Actuator) : Actuator := a.output idlePwm

/-- Giving pulses does not take the backend away, -/
@[simp] theorem output_hasBackend (a : Actuator) (pwmUs : MotorPwm) :
    (a.output pwmUs).hasBackend = a.hasBackend := by
  unfold output
  split
  · rfl
  · rfl

/-- nor does stopping. -/
@[simp] theorem stop_hasBackend (a : Actuator) : a.stop.hasBackend = a.hasBackend :=
  output_hasBackend a idlePwm

/-- Stopping again changes nothing. -/
theorem stop_again (a : Actuator) : a.stop.stop = a.stop := by
  unfold stop output
  cases backed : a.hasBackend with
  | false => simp [backed]
  | true => simp

/-- With a backend the pulses written are the pulses kept. -/
theorem output_lastPwm {a : Actuator} (backed : a.hasBackend = true) (pwmUs : MotorPwm) :
    (a.output pwmUs).lastPwm = pwmUs := by
  simp [output, backed]

/-- With a backend, stopping leaves idle pulses. -/
theorem stop_lastPwm {a : Actuator} (backed : a.hasBackend = true) : a.stop.lastPwm = idlePwm :=
  output_lastPwm backed idlePwm

end Actuator

end AmpFc
