import AmpFc.Lib.Execution
import AmpFc.Rt.Controller

/-! Runs of controller operations: what an axis remembers while unarmed, and when arming. -/

namespace AmpFc

open FloatArith (ofRat)

/-- One call of a public operation of `Controller`. -/
inductive ControllerOp (F : Type) where
  | setSetpoint (setpoint : ControlSetpoint F)
  | setArmState (state : ArmState)
  | applyConfig (config : FlightConfig F)
  | update (state : AttitudeState F) (dtS : F)

variable {F : Type} [FloatArith F]

/-- The controller that one call leaves behind. -/
def Controller.perform (c : Controller F) : ControllerOp F → Controller F
  -- Only `update` takes an attitude, and its pulses are not kept.
  | .setSetpoint setpoint => c.setSetpoint setpoint
  | .setArmState state => c.setArmState state
  | .applyConfig config => c.applyConfig config
  | .update state dtS => (update mix c state dtS).2

/-- The controller after a number of calls since its construction. -/
def controllerAt (calls : Nat → ControllerOp F) : Nat → Controller F :=
  stateAt Controller.perform Controller.initial calls

/-- An axis without memory: nothing integrated, nothing measured. -/
structure PidAxis.Clean (axis : PidAxis F) : Prop where
  integrator : axis.integrator = ofRat 0
  previousMeasurement : axis.previousMeasurement = ofRat 0
  first : axis.first = true

/-- All five axes are without memory. -/
structure Controller.Clean (c : Controller F) : Prop where
  rollAngle : c.rollAngle.Clean
  pitchAngle : c.pitchAngle.Clean
  rollRate : c.rollRate.Clean
  pitchRate : c.pitchRate.Clean
  yawRate : c.yawRate.Clean

/-- What one step alone contributes to the integrator of an axis. -/
def PidConfig.contribution (config : PidConfig F) (error dtS : F) : F :=
  -- The integrator it adds to is zero.
  FloatArith.clamp (ofRat 0 + error * dtS * config.ki) config.integratorMin config.integratorMax

/-- An update of an axis that remembers nothing: zero derivative, and one contribution. -/
def PidConfig.firstUpdate (config : PidConfig F) (error dtS measuredValue : F) : F × PidAxis F :=
  -- The derivative of a first measurement is zero by definition.
  (FloatArith.clamp (config.kp * error + config.contribution error dtS + config.kd * ofRat 0)
      config.outputMin config.outputMax,
    { config := config
      integrator := config.contribution error dtS
      previousMeasurement := measuredValue
      first := false })

/-- A control step in which no axis remembers anything. -/
def Controller.firstUpdate (c : Controller F) (state : AttitudeState F) (dtS : F) :
    MotorPwm × Controller F :=
  let rollTarget :=
    c.rollAngle.config.firstUpdate (c.setpoint.rollDeg - state.rollDeg) dtS state.rollDeg
  let pitchTarget :=
    c.pitchAngle.config.firstUpdate (c.setpoint.pitchDeg - state.pitchDeg) dtS state.pitchDeg
  -- The rate loops take what the angle loops ask for as their setpoint.
  let rollOut :=
    c.rollRate.config.firstUpdate (rollTarget.1 - state.rollRateDps) dtS state.rollRateDps
  let pitchOut :=
    c.pitchRate.config.firstUpdate (pitchTarget.1 - state.pitchRateDps) dtS state.pitchRateDps
  let yawOut := c.yawRate.config.firstUpdate (c.setpoint.yawRateDps - state.yawRateDps) dtS
    state.yawRateDps
  (mix c.setpoint.throttle pitchOut.1 rollOut.1 yawOut.1,
    { c with
      rollAngle := rollTarget.2
      pitchAngle := pitchTarget.2
      rollRate := rollOut.2
      pitchRate := pitchOut.2
      yawRate := yawOut.2 })

/-- A call that lets time pass for the axes. -/
def ControllerOp.advances : ControllerOp F → Bool
  -- A time step that is not positive returns before anything is computed.
  | .update _ dtS => !FloatArith.le dtS (ofRat 0)
  | _ => false

section Axis

/-- A reset axis is clean. -/
theorem PidAxis.reset_clean (axis : PidAxis F) : axis.reset.Clean := ⟨rfl, rfl, rfl⟩

/-- Without elapsed time an axis keeps what it had. -/
theorem PidAxis.update_idle (axis : PidAxis F) {error dtS measuredValue : F}
    (idle : FloatArith.le dtS (ofRat 0) = true) :
    (axis.update error dtS measuredValue).2 = axis := by
  -- The guard on the time step comes before every write.
  simp [update, idle]

/-- The first update of a clean axis reads nothing but its gains. -/
theorem PidAxis.Clean.update_eq {axis : PidAxis F} (clean : axis.Clean) {error dtS : F}
    (elapsed : FloatArith.le dtS (ofRat 0) = false) (measuredValue : F) :
    axis.update error dtS measuredValue = axis.config.firstUpdate error dtS measuredValue := by
  -- The flag decides about the derivative, and the integrator starts from zero.
  simp [update, elapsed, clean.integrator, clean.first, PidConfig.firstUpdate,
    PidConfig.contribution]

end Axis

namespace Controller

/-- Resetting the integrators cleans all five axes. -/
theorem resetIntegrators_clean (c : Controller F) : c.resetIntegrators.Clean :=
  ⟨PidAxis.reset_clean _, PidAxis.reset_clean _, PidAxis.reset_clean _, PidAxis.reset_clean _,
    PidAxis.reset_clean _⟩

/-- The constructor leaves all five axes clean. -/
theorem initial_clean : (initial : Controller F).Clean := resetIntegrators_clean _

/-- Setting the arm state cleans the axes, or it changes nothing at all. -/
theorem setArmState_cases (c : Controller F) (state : ArmState) :
    (c.setArmState state).Clean ∨ c.setArmState state = c := by
  -- A state that is set already is left alone.
  unfold setArmState
  split
  · exact Or.inr rfl
  · exact Or.inl (resetIntegrators_clean _)

/-- A control step that is unarmed, or in which no time passes, keeps every axis. -/
theorem update_idle_eq {c : Controller F} {state : AttitudeState F} {dtS : F}
    (idle : c.armState ≠ .armed ∨ FloatArith.le dtS (ofRat 0) = true) :
    (update mix c state dtS).2 = c := by
  -- An unarmed step returns at once, and an armed one leaves it to the axes.
  unfold update
  split
  · rfl
  · rename_i armed
    have still := idle.resolve_left armed
    simp [PidAxis.update_idle _ still]

/-- Clean axes stay clean, except in an armed step that lets time pass. -/
theorem perform_clean {c : Controller F} (clean : c.Clean) (call : ControllerOp F)
    (still : c.armState ≠ .armed ∨ call.advances = false) : (c.perform call).Clean := by
  -- Two of the calls clean the axes anyway, and one does not touch them.
  cases call with
  | setSetpoint setpoint => exact { clean with }
  | setArmState state =>
    show (c.setArmState state).Clean
    rcases setArmState_cases c state with reset | same
    · exact reset
    · rw [same]
      exact clean
  | applyConfig config => exact resetIntegrators_clean _
  | update state dtS =>
    -- The guard makes a control step one of the two idle kinds.
    have kept : (update mix c state dtS).2 = c := by
      apply update_idle_eq
      simpa [ControllerOp.advances] using still
    show (update mix c state dtS).2.Clean
    rw [kept]
    exact clean

/-- A call after which the controller is not armed leaves the axes clean if they were before. -/
theorem perform_unarmed_clean {c : Controller F} (call : ControllerOp F)
    (before : c.armState ≠ .armed → c.Clean) (after : (c.perform call).armState ≠ .armed) :
    (c.perform call).Clean := by
  by_cases armed : c.armState = .armed
  · -- Only a call that sets another state leaves the armed state, and that one cleans.
    cases call with
    | setSetpoint setpoint => exact absurd armed after
    | setArmState state =>
      rcases setArmState_cases c state with reset | same
      · exact reset
      · exact absurd (show (c.setArmState state).armState = .armed by rw [same, armed]) after
    | applyConfig config => exact absurd armed after
    | update state dtS => exact absurd (by rw [← armed]; exact update_armState _ _ _ _) after
  · exact perform_clean (before armed) call (Or.inl armed)

/-- In an armed controller with clean axes, a control step in which time passes is a first one. -/
theorem Clean.update_eq {c : Controller F} (clean : c.Clean) (armed : c.armState = .armed)
    {dtS : F} (elapsed : FloatArith.le dtS (ofRat 0) = false) (state : AttitudeState F) :
    update mix c state dtS = c.firstUpdate state dtS := by
  -- All five axes take their first update.
  rw [update, if_neg (not_not.mpr armed)]
  simp only [clean.rollAngle.update_eq elapsed, clean.pitchAngle.update_eq elapsed,
    clean.rollRate.update_eq elapsed, clean.pitchRate.update_eq elapsed,
    clean.yawRate.update_eq elapsed]
  rfl

end Controller

section Runs

variable (calls : Nat → ControllerOp F)

/-- In every reachable state that is not armed, the axes are clean. -/
theorem controllerAt_unarmed_clean (n : Nat) :
    (controllerAt calls n).armState ≠ .armed → (controllerAt calls n).Clean := by
  -- The invariant speaks about unarmed states only, and arming may leave it.
  refine @stateAt_invariant _ _ Controller.perform _ calls
    (fun c => c.armState ≠ .armed → c.Clean) ?_ ?_ n
  · intro _
    exact Controller.initial_clean
  · intro c n before after
    exact Controller.perform_unarmed_clean (calls n) before after

/-- Until time passes, the axes stay clean after an unarmed state. -/
theorem controllerAt_clean_until {first last : Nat} (order : first ≤ last)
    (unarmed : (controllerAt calls first).armState ≠ .armed)
    (still : ∀ k, first < k → k < last → (calls k).advances = false) :
    (controllerAt calls last).Clean := by
  -- The induction is on the calls since the controller was seen unarmed.
  induction last, order using Nat.le_induction with
  | base => exact controllerAt_unarmed_clean calls first unarmed
  | succ last order ih =>
    have clean := ih fun k after before => still k after (Nat.lt_succ_of_lt before)
    apply Controller.perform_clean clean
    -- The first of these calls is made unarmed, and in the others no time passes.
    rcases Nat.eq_or_lt_of_le order with same | later
    · exact Or.inl (same ▸ unarmed)
    · exact Or.inr (still last later (Nat.lt_succ_self last))

/--
Every arming starts from a clean controller.

While it is not armed, no axis remembers anything.
After a call that arms it, the first control step in which time passes has zero derivatives, and
integrators that hold the contribution of that step alone.
-/
theorem arming_starts_clean :
    (∀ n, (controllerAt calls n).armState ≠ .armed → (controllerAt calls n).Clean) ∧
    (∀ (arming step : Nat) (state : AttitudeState F) (dtS : F), arming < step →
      (controllerAt calls arming).armState ≠ .armed →
      (controllerAt calls (arming + 1)).armState = .armed →
      (∀ k, arming < k → k < step → (calls k).advances = false) →
      (controllerAt calls step).armState = .armed →
      calls step = .update state dtS → FloatArith.le dtS (ofRat 0) = false →
      Controller.update Controller.mix (controllerAt calls step) state dtS =
        (controllerAt calls step).firstUpdate state dtS) := by
  refine ⟨controllerAt_unarmed_clean calls, ?_⟩
  intro arming step state dtS later unarmed _ still armed _ elapsed
  -- Nothing but still calls lies between the arming and the step.
  have clean := controllerAt_clean_until calls (le_of_lt later) unarmed still
  exact clean.update_eq armed elapsed state

end Runs

/-- A controller that is armed, keeps still for one call, and then takes its first step. -/
def armAndStep : Nat → ControllerOp ℚ
  | 0 => .setArmState .armed
  | 1 => .update ⟨3, -2, 0, 10, 5, 1⟩ 0
  | _ => .update ⟨3, -2, 0, 10, 5, 1⟩ (1 / 100)

/-- The step after the still one is a first step. -/
theorem arming_starts_clean_armAndStep :
    Controller.update Controller.mix (controllerAt armAndStep 2) ⟨3, -2, 0, 10, 5, 1⟩ (1 / 100) =
      (controllerAt armAndStep 2).firstUpdate ⟨3, -2, 0, 10, 5, 1⟩ (1 / 100) := by
  apply (arming_starts_clean armAndStep).2 0 2 ⟨3, -2, 0, 10, 5, 1⟩ (1 / 100)
  · decide
  · show ArmState.disarmed ≠ .armed
    decide
  · rfl
  -- Only the arming itself lies between.
  · intro k after before
    have second : k = 1 := by omega
    subst second
    rfl
  · rfl
  · rfl
  · exact decide_eq_false (show ¬ (1 / 100 : ℚ) ≤ 0 by norm_num)

end AmpFc
