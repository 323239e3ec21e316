import AmpFc.Common.Protocol

/-! The stage-3 node: the actuator that was carved out of the bring-up firmware, behind one step. -/

namespace AmpFc

/-- The entries of `DuoPwmMotorMapEntry` that are checked. -/
structure DuoPwmMotorMapEntry where
  pwmId : UInt8
  channel : UInt8
  deriving DecidableEq, Repr

/-- `ActuatorDuoPwmStatus`. -/
structure ActuatorDuoPwmStatus where
  requestedUs : MotorPwm := .replicate 4 1000
  outputUs : MotorPwm := .replicate 4 1000
  safeForced : Bool := true
  mapOk : Bool := false
  deriving DecidableEq

/-- `ActuatorDuoPwm`. -/
structure ActuatorDuoPwm where
  status : ActuatorDuoPwmStatus := {}

namespace ActuatorDuoPwm

/-- `kPwmSafeUs`. -/
def pwmSafeUs : UInt16 := 1000

/-- `kPwmMaxUs`, which is lower than the one of the protocol. -/
def pwmMaxUs : UInt16 := 1500

/-- `kPwmIdMap`. -/
def pwmIdMap : List UInt8 := [1, 1, 1, 1]

/-- `kPwmChannelMap`. -/
def pwmChannelMap : List UInt8 := [3, 1, 0, 2]

/-- `kMinSpinUs`. -/
def minSpinUs : Vector UInt16 4 := #v[1220, 1235, 1220, 1220]

/-- `kTrimUs`. -/
def trimUs : Vector Int 4 := #v[10, 0, 0, 10]

/-- `kMotorMap`. -/
def motorMap : List DuoPwmMotorMapEntry := [⟨1, 3⟩, ⟨1, 1⟩, ⟨1, 0⟩, ⟨1, 2⟩]

/-- `mapMatchesBringup`. -/
def mapMatchesBringup : Bool :=
  motorMap.map DuoPwmMotorMapEntry.pwmId == pwmIdMap &&
    motorMap.map DuoPwmMotorMapEntry.channel == pwmChannelMap &&
    pwmIdMap == [1, 1, 1, 1] && pwmChannelMap == [3, 1, 0, 2]

/-- `clampPwm`. -/
def clampPwm (us : Int) : UInt16 :=
  if us < pwmSafeUs.toNat then pwmSafeUs
  else if us > pwmMaxUs.toNat then pwmMaxUs
  else UInt16.ofInt us

/-- `applyTrimAndMinSpin`, whose index is always one of a motor. -/
def applyTrimAndMinSpin (index : Fin 4) (mixUs : UInt16) : UInt16 :=
  let us : Int := mixUs.toNat + trimUs.get index
  let spin : Int := (minSpinUs.get index).toNat
  -- The motor's own mix decides whether it has to spin.
  let us := if mixUs > pwmSafeUs ∧ us < spin then spin else us
  clampPwm us

/-- `update`, which writes every member of the status it returns. -/
def update (_ : ActuatorDuoPwm) (mixUs : MotorPwm)
    (outputAllowed rcValid sensorReady emergencyLatched : Bool) : ActuatorDuoPwm :=
  let safeForced := !outputAllowed || !rcValid || !sensorReady || emergencyLatched
  { status :=
      { requestedUs := mixUs
        mapOk := mapMatchesBringup
        safeForced := safeForced
        outputUs :=
          if safeForced then .replicate 4 pwmSafeUs
          else Vector.ofFn fun i => applyTrimAndMinSpin i (mixUs.get i) } }

/-- `init`. -/
def init (_ : ActuatorDuoPwm) : Bool × ActuatorDuoPwm :=
  (mapMatchesBringup, ⟨{ mapOk := mapMatchesBringup }⟩)

/-- A clamped pulse as a number. -/
theorem clampPwm_toNat (us : Int) :
    ((clampPwm us).toNat : Int) = if us < 1000 then 1000 else if us > 1500 then 1500 else us := by
  unfold clampPwm pwmSafeUs pwmMaxUs
  have low : ((1000 : UInt16).toNat : Int) = 1000 := rfl
  have high : ((1500 : UInt16).toNat : Int) = 1500 := rfl
  rw [low, high]
  split_ifs with below above
  · rfl
  · rfl
  · -- Between the bounds the conversion does not wrap.
    simp only [UInt16.ofInt, UInt16.toNat_ofNat']
    omega

end ActuatorDuoPwm

/-- `FlightRtNodeStage3Input`. -/
structure FlightRtNodeStage3Input where
  mixUs : MotorPwm := .replicate 4 1000
  rcValid : Bool := false
  sensorReady : Bool := false
  armed : Bool := false
  outputEnabled : Bool := false
  emergencyLatched : Bool := false

/-- `FlightRtNodeStage3Output`. -/
structure FlightRtNodeStage3Output where
  motorUs : MotorPwm := .replicate 4 1000
  safeForced : Bool := true
  actuatorMapOk : Bool := false
  stepCount : UInt32 := 0
  deriving DecidableEq

/-- `FlightRtNodeStage3`. -/
structure FlightRtNodeStage3 where
  actuator : ActuatorDuoPwm := {}
  lastOutput : FlightRtNodeStage3Output := {}
  stepCount : UInt32 := 0

namespace FlightRtNodeStage3

/-- `init`. -/
def init (node : FlightRtNodeStage3) : Bool × FlightRtNodeStage3 :=
  (node.actuator.init.1, { actuator := node.actuator.init.2 })

/-- `step`, whose result is the output it stores. -/
def step (node : FlightRtNodeStage3) (input : FlightRtNodeStage3Input) : FlightRtNodeStage3 :=
  let outputAllowed :=
    input.armed && input.outputEnabled && input.rcValid && input.sensorReady
  let actuator := node.actuator.update input.mixUs outputAllowed input.rcValid input.sensorReady
    input.emergencyLatched
  { actuator := actuator
    stepCount := node.stepCount + 1
    lastOutput :=
      { motorUs := actuator.status.outputUs
        safeForced := actuator.status.safeForced
        actuatorMapOk := actuator.status.mapOk
        stepCount := node.stepCount + 1 } }

/-- What a step refuses forces every motor to the safe pulse. -/
theorem step_refused (node : FlightRtNodeStage3) {input : FlightRtNodeStage3Input}
    (refused : (input.armed && input.outputEnabled && input.rcValid && input.sensorReady &&
      !input.emergencyLatched) = false) :
    (node.step input).lastOutput.motorUs = .replicate 4 1000 := by
  unfold step ActuatorDuoPwm.update
  dsimp only
  rw [if_pos]
  · rfl
  · -- The receiver and the sensors are checked twice, by the node and by the actuator.
    revert refused
    cases input.armed <;> cases input.outputEnabled <;> cases input.rcValid <;>
      cases input.sensorReady <;> cases input.emergencyLatched <;> decide

/-- What a step allows gives each motor its own mix, trimmed and lifted. -/
theorem step_allowed (node : FlightRtNodeStage3) (mixUs : MotorPwm) (i : Fin 4) :
    (node.step ⟨mixUs, true, true, true, true, false⟩).lastOutput.motorUs.get i =
      ActuatorDuoPwm.applyTrimAndMinSpin i (mixUs.get i) := by
  unfold step ActuatorDuoPwm.update
  exact Vector.getElem_ofFn i.isLt

end FlightRtNodeStage3

end AmpFc
