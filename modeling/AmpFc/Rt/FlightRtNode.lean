import AmpFc.Lib.Execution
import AmpFc.Rt.Controller
import AmpFc.Rt.FrameHistory

/-! The realtime node: commands, pilot, and timeouts decide the arm state, in one loop. -/

namespace AmpFc

open FloatArith (ofRat)

/-- `kControlStepUs`. -/
def controlStepUs : Nat := 2500

/-- `kSetpointTimeoutUs`. -/
def setpointTimeoutUs : Nat := 300000

/-- `kHeartbeatTimeoutUs`. -/
def heartbeatTimeoutUs : Nat := 500000

/-- `kReceiverTimeoutUs`. -/
def receiverTimeoutUs : Nat := 120000

/-- `IncomingCommand`, with everything one transport poll delivers. -/
structure IncomingCommand (F : Type) where
  setpoint : Option (CommandSetpoint F) := none
  arm : Option CommandArm := none
  heartbeat : Option Heartbeat := none
  config : Option (FlightConfig F) := none
  emergencyStop : Bool := false

/-- `FlightRtNode`; sensing and estimation are represented by the attitudes they return. -/
structure FlightRtNode (F : Type) where
  receiver : Receiver F
  controller : Controller F
  actuator : Actuator
  lastSetpointUs : Nat
  /-- The clock at the last heartbeat, where zero stands for none. -/
  lastHeartbeatUs : Nat
  reportSeq : UInt32

/-- What the devices answer to `FlightRtNode::init`, and the clock read at its end. -/
structure InitOutcome where
  sense : Bool
  receiver : Bool
  actuator : Bool
  transport : Bool
  clockUs : Nat
  deriving DecidableEq, Repr

/-- What one iteration of the loop meets. -/
structure IterationInput (F : Type) where
  /-- The clock read at the start of the iteration. -/
  nowUs : Nat
  /-- The result of the transport's `poll`, next to the command it filled in. -/
  polled : Bool
  command : IncomingCommand F
  /-- The bytes the receiver's backend holds. -/
  rx : List RxByte
  /-- The clock `Receiver::poll` reads where it supervises the link. -/
  linkUs : Nat
  /-- The clock read for the timeouts. -/
  safetyUs : Nat
  /-- The clock read for the control step. -/
  controlUs : Nat
  /-- The attitude estimated from the sample, or none if sampling failed. -/
  sensed : Option (AttitudeState F)
  /-- The clock read for the report. -/
  reportUs : Nat

/-- The node between iterations, with the loop's own variables. -/
structure RunState (F : Type) where
  node : FlightRtNode F
  lastControlUs : Nat
  nextControlDueUs : Nat

/-- `mapChannelUs`. -/
def mapChannelUs {F : Type} [FloatArith F] (pulseUs : UInt16) (outputMin outputMax : F) : F :=
  let input := FloatArith.clamp (ofRat pulseUs.toNat) (ofRat 1000) (ofRat 2000)
  let ratio := (input - ofRat 1000) / ofRat 1000
  outputMin + ratio * (outputMax - outputMin)

/-- The loop that moves the due time past the clock; it turns at least once. -/
def advanceDue : Nat → Nat → Nat → Nat
  | 0, nextControlDueUs, _ => nextControlDueUs
  | fuel + 1, nextControlDueUs, controlNowUs =>
    let due := (nextControlDueUs + controlStepUs) % 2 ^ 64
    if controlNowUs ≥ due then advanceDue fuel due controlNowUs else due

namespace FlightRtNode

variable {F : Type} [FloatArith F]

/-- The node that `main` builds. -/
def constructed : FlightRtNode F where
  receiver := .initial 1500
  controller := .initial
  actuator := { hasBackend := true }
  lastSetpointUs := 0
  lastHeartbeatUs := 0
  reportSeq := 0

/-- What `FlightRtNode::init` leaves behind once every device is up. -/
def initialised (node : FlightRtNode F) (clockUs : Nat) : FlightRtNode F where
  -- The receiver starts over and keeps the backend it was given.
  receiver := { node.receiver with
    buffer := .empty, lastFrameUs := 0, lastSample := {} }.applyConfig defaultFlightConfig
  controller := (node.controller.setArmState .disarmed).applyConfig defaultFlightConfig
  actuator := node.actuator.stop
  lastSetpointUs := clockUs
  lastHeartbeatUs := 0
  reportSeq := 0

/-- `FlightRtNode::init`, which gives up at the first device that fails. -/
def init (node : FlightRtNode F) (outcome : InitOutcome) : Option (FlightRtNode F) :=
  if outcome.sense && node.receiver.hasBackend && outcome.receiver && node.actuator.hasBackend &&
      outcome.actuator && outcome.transport then
    some (node.initialised outcome.clockUs)
  else none

/-- `enterFailsafe`. -/
def enterFailsafe (node : FlightRtNode F) : FlightRtNode F :=
  { node with
    controller := node.controller.setArmState .failsafe
    actuator := node.actuator.stop }

/-- What `applyCommand` does with a delivered arm state. -/
def applyArm (node : FlightRtNode F) : Option CommandArm → FlightRtNode F
  | none => node
  | some arm =>
    -- The byte is cast without a check, and every state but the armed one stops the motors.
    let state := ArmState.ofByte arm.state
    { node with
      controller := node.controller.setArmState state
      actuator := if state ≠ .armed then node.actuator.stop else node.actuator }

/-- What `applyCommand` does with a delivered setpoint. -/
def applySetpoint (node : FlightRtNode F) (nowUs : Nat) :
    Option (CommandSetpoint F) → FlightRtNode F
  | none => node
  | some setpoint =>
    -- The transport and the pilot write the same setpoint, whoever comes last.
    { node with
      controller := node.controller.setSetpoint
        ⟨setpoint.throttle, setpoint.rollDeg, setpoint.pitchDeg, setpoint.yawRateDps⟩
      lastSetpointUs := nowUs }

/-- What `applyCommand` does with a delivered heartbeat, whose content is not looked at. -/
def applyHeartbeat (node : FlightRtNode F) (nowUs : Nat) : Option Heartbeat → FlightRtNode F
  | none => node
  | some _ => { node with lastHeartbeatUs := nowUs }

/-- What `applyCommand` does with a delivered configuration. -/
def applyConfig (node : FlightRtNode F) : Option (FlightConfig F) → FlightRtNode F
  | none => node
  | some config =>
    { node with
      controller := node.controller.applyConfig config
      receiver := node.receiver.applyConfig config }

/-- `applyCommand`. -/
def applyCommand (node : FlightRtNode F) (command : IncomingCommand F) (nowUs : Nat) :
    FlightRtNode F :=
  -- An emergency stop discards whatever was delivered with it.
  if command.emergencyStop then node.enterFailsafe
  else
    let node := node.applyArm command.arm
    let node := node.applySetpoint nowUs command.setpoint
    let node := node.applyHeartbeat nowUs command.heartbeat
    node.applyConfig command.config

/-- The part of `applyReceiver` that lets the arm switch change the arm state. -/
def applyArmSwitch (node : FlightRtNode F) (sample : ReceiverSample) : FlightRtNode F :=
  let armSwitchHigh : Bool := sample.channels.us 4 > 1500
  let throttleLow : Bool := sample.channels.us 2 ≤ 1100
  -- Only a disarmed node can be armed by the switch.
  let node :=
    if armSwitchHigh && throttleLow && node.controller.armState == .disarmed then
      { node with controller := node.controller.setArmState .armed }
    else node
  if !armSwitchHigh && node.controller.armState == .armed then
    { node with
      controller := node.controller.setArmState .disarmed
      actuator := node.actuator.stop }
  else node

/-- `applyReceiver`. -/
def applyReceiver (node : FlightRtNode F) (sample : ReceiverSample) (nowUs : Nat) :
    FlightRtNode F :=
  -- A lost link arrives here with its failsafe switch raised.
  if sample.failsafeSwitch then node.enterFailsafe
  else if !sample.linkOk then node
  else
    let node := node.applyArmSwitch sample
    { node with
      controller := node.controller.setSetpoint
        { rollDeg := mapChannelUs (sample.channels.us 0) (ofRat (-30)) (ofRat 30)
          pitchDeg := mapChannelUs (sample.channels.us 1) (ofRat (-30)) (ofRat 30)
          throttle := mapChannelUs (sample.channels.us 2) (ofRat 0) (ofRat 1)
          yawRateDps := mapChannelUs (sample.channels.us 3) (ofRat (-150)) (ofRat 150) }
      lastSetpointUs := nowUs }

/-- The transport's turn in an iteration, which a failed poll enters in failsafe. -/
def pollTransport (node : FlightRtNode F) (input : IterationInput F) : FlightRtNode F :=
  let node := if !input.polled then node.enterFailsafe else node
  node.applyCommand input.command input.nowUs

/-- The receiver's turn in an iteration. -/
def pollReceiver (node : FlightRtNode F) (input : IterationInput F) : FlightRtNode F :=
  let polled := node.receiver.poll input.rx input.linkUs
  let node := { node with receiver := polled.1 }
  polled.2.elim node.enterFailsafe (node.applyReceiver · input.nowUs)

/-- The three timeouts, which are looked at while armed only. -/
def checkTimeouts (node : FlightRtNode F) (safetyNowUs : Nat) : FlightRtNode F :=
  if node.controller.armState ≠ .armed then node
  else
    -- Each timeout is looked at whether or not an earlier one has run out.
    let node :=
      if clockSub safetyNowUs node.lastSetpointUs > setpointTimeoutUs then node.enterFailsafe
      else node
    let node :=
      if node.lastHeartbeatUs ≠ 0 ∧
          clockSub safetyNowUs node.lastHeartbeatUs > heartbeatTimeoutUs then
        node.enterFailsafe
      else node
    if !node.receiver.hasLink safetyNowUs receiverTimeoutUs then node.enterFailsafe else node

/-- What an iteration makes of the node before it comes to the control step. -/
def beforeControl (node : FlightRtNode F) (input : IterationInput F) : FlightRtNode F :=
  ((node.pollTransport input).pollReceiver input).checkTimeouts input.safetyUs

/-- The status flags of a report; the link is reported good whenever the node is armed. -/
def statusFlags (node : FlightRtNode F) : UInt32 :=
  let armed := if node.controller.armState = .armed then statusArmed ||| statusRcHealthy else 0
  let failsafe := if node.controller.armState = .failsafe then statusFailsafe else 0
  statusImuHealthy ||| armed ||| failsafe

/-- The control step on an attitude, with the report it publishes. -/
def control (mix : Mix F) (node : FlightRtNode F) (attitude : AttitudeState F) (dtS : F)
    (reportUs : Nat) : FlightRtNode F × RtReport F :=
  -- The pulses are written first, and the report repeats them.
  let updated := Controller.update mix node.controller attitude dtS
  let node := { node with
    controller := updated.2
    actuator := node.actuator.output updated.1
    reportSeq := node.reportSeq + 1 }
  (node,
    { monotonicUs := UInt64.ofNat reportUs
      rollDeg := attitude.rollDeg
      pitchDeg := attitude.pitchDeg
      yawDeg := attitude.yawDeg
      rollRateDps := attitude.rollRateDps
      pitchRateDps := attitude.pitchRateDps
      yawRateDps := attitude.yawRateDps
      motorPwmUs := updated.1
      statusFlags := node.statusFlags
      seq := node.reportSeq })

end FlightRtNode

namespace RunState

variable {F : Type} [FloatArith F]

open FlightRtNode

/-- The loop's variables as `run` enters the loop, at clock reading `bootUs`. -/
def initial (node : FlightRtNode F) (bootUs : Nat) : RunState F where
  node := node
  lastControlUs := bootUs
  nextControlDueUs := (bootUs + controlStepUs) % 2 ^ 64

/-- One iteration of `FlightRtNode::run`, with the report it published. -/
def iterate (mix : Mix F) (s : RunState F) (input : IterationInput F) :
    RunState F × Option (RtReport F) :=
  let node := s.node.beforeControl input
  -- Until the step is due, the motors keep their pulses.
  if input.controlUs < s.nextControlDueUs then ({ s with node := node }, none)
  else
    let elapsedUs := clockSub input.controlUs s.lastControlUs
    let dtS : F := ofRat elapsedUs / ofRat 1000000
    let fuel := input.controlUs / controlStepUs + 1
    let due := advanceDue fuel s.nextControlDueUs input.controlUs
    let node : FlightRtNode F × Option (RtReport F) :=
      input.sensed.elim (node.enterFailsafe, none) fun attitude =>
        let controlled := node.control mix attitude dtS input.reportUs
        (controlled.1, some controlled.2)
    ({ node := node.1, lastControlUs := input.controlUs, nextControlDueUs := due }, node.2)

/-- What `run` leaves behind once its cycles are used up. -/
def finish (s : RunState F) : FlightRtNode F :=
  { s.node with
    controller := s.node.controller.setArmState .disarmed
    actuator := s.node.actuator.stop }

end RunState

/-- The clock readings `run` takes before its loop, at the end of `init` and right after. -/
structure BootClock where
  initUs : Nat
  bootUs : Nat
  deriving DecidableEq, Repr

section Runs

variable {F : Type} [FloatArith F]

/-- The run of the node that `main` builds, after `n` iterations. -/
def nodeAt (mix : Mix F) (boot : BootClock) (input : Nat → IterationInput F) (n : Nat) :
    RunState F :=
  stateAt (fun s i => (s.iterate mix i).1)
    (.initial (FlightRtNode.constructed.initialised boot.initUs) boot.bootUs) input n

/-- The arm state after `n` iterations. -/
def armStateAt (mix : Mix F) (boot : BootClock) (input : Nat → IterationInput F) (n : Nat) :
    ArmState :=
  (nodeAt mix boot input n).node.controller.armState

/-- What the receiver buffered and accepted in `n` iterations. -/
def heardAt (input : Nat → IterationInput F) (n : Nat) : FrameBuffer × List AcceptedFrame :=
  stateAt (fun heard i =>
    let read := acceptFrames heard.1 i.rx
    (read.1, heard.2 ++ read.2)) (.empty, []) input n

/-- The frames accepted in iteration `n`. -/
def acceptedIn (input : Nat → IterationInput F) (n : Nat) : List AcceptedFrame :=
  (acceptFrames (heardAt input n).1 (input n).rx).2

end Runs

end AmpFc
