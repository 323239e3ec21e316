import AmpFc.Rt.NodeSteps

/-! What every iteration of the realtime node keeps: quiet motors, and a receiver that remembers. -/

namespace AmpFc

variable {F : Type}

namespace FlightRtNode

/-- Unless the node is armed, the motors were last told to idle. -/
structure Quiet (node : FlightRtNode F) : Prop where
  backed : node.actuator.hasBackend = true
  idle : node.controller.armState ≠ .armed → node.actuator.lastPwm = idlePwm

namespace Quiet

/-- Once the motors were told to idle, any arm state will do. -/
theorem of_idle {node : FlightRtNode F} (backed : node.actuator.hasBackend = true)
    (idle : node.actuator.lastPwm = idlePwm) : Quiet node :=
  ⟨backed, fun _ => idle⟩

/-- Whatever keeps arm state and actuator keeps the motors quiet. -/
theorem of_same {node other : FlightRtNode F} (quiet : Quiet node)
    (state : other.controller.armState = node.controller.armState)
    (actuator : other.actuator = node.actuator) : Quiet other where
  backed := actuator ▸ quiet.backed
  idle unarmed := by
    rw [actuator]
    exact quiet.idle (state ▸ unarmed)

variable [FloatArith F]

/-- Entering failsafe leaves a node quiet, -/
theorem enterFailsafe {node : FlightRtNode F} (quiet : Quiet node) : Quiet node.enterFailsafe :=
  .of_idle ((Actuator.stop_hasBackend _).trans quiet.backed)
    (Actuator.stop_lastPwm quiet.backed)

/-- Every delivered arm state but the armed one stops the motors. -/
theorem applyArm {node : FlightRtNode F} (arm : Option CommandArm) (quiet : Quiet node) :
    Quiet (node.applyArm arm) := by
  cases arm with
  | none => exact quiet
  | some arm =>
    -- The armed state may keep the pulses, since it makes no promise about them.
    by_cases armed : ArmState.ofByte arm.state = .armed
    · refine ⟨?_, fun unarmed => ?_⟩
      · simp [FlightRtNode.applyArm, armed, quiet.backed]
      · simp [FlightRtNode.applyArm, armed] at unarmed
    · refine .of_idle ?_ ?_
      · simp [FlightRtNode.applyArm, armed, quiet.backed]
      · simp only [FlightRtNode.applyArm, ne_eq, armed, not_false_eq_true, if_true]
        exact Actuator.stop_lastPwm quiet.backed

/-- and so does the poll of the transport, -/
theorem pollTransport {node : FlightRtNode F} (input : IterationInput F) (quiet : Quiet node) :
    Quiet (node.pollTransport input) :=
  -- Only the arm state of a command matters to the motors.
  pollTransport_preserves Quiet (fun _ => enterFailsafe) (fun _ => applyArm)
    (fun _ _ setpoint before =>
      before.of_same (applySetpoint_armState _ _ setpoint) (by cases setpoint <;> rfl))
    (fun _ _ heartbeat before =>
      before.of_same (applyHeartbeat_armState _ _ heartbeat) (by cases heartbeat <;> rfl))
    (fun _ config before =>
      before.of_same (applyConfig_armState _ config) (by cases config <;> rfl))
    input quiet

/-- The arm switch stops the motors as it disarms. -/
theorem applyArmSwitch {node : FlightRtNode F} (sample : ReceiverSample) (quiet : Quiet node) :
    Quiet (node.applyArmSwitch sample) := by
  have stopped := Actuator.stop_lastPwm quiet.backed
  have backed := quiet.backed
  unfold FlightRtNode.applyArmSwitch
  by_cases high : sample.channels.us 4 > 1500
  · -- A high switch arms or changes nothing.
    by_cases gesture : sample.channels.us 2 ≤ 1100 ∧ node.controller.armState = .disarmed
    · refine ⟨by simpa [high, gesture] using backed, fun unarmed => ?_⟩
      simp [high, gesture] at unarmed
    · have unchanged : ¬ (sample.channels.us 2 ≤ 1100 ∧ node.controller.armState = .disarmed) :=
        gesture
      have same : (decide (sample.channels.us 2 ≤ 1100) &&
          node.controller.armState == .disarmed) = false := by
        simpa using unchanged
      simpa [high, same] using quiet
  -- A low switch disarms and stops the motors, or changes nothing.
  · by_cases armed : node.controller.armState = .armed
    · refine .of_idle ?_ ?_
      · simpa [high, armed] using backed
      · simpa [high, armed] using stopped
    · simpa [high, armed] using quiet

/-- a frame of the receiver, -/
theorem applyReceiver {node : FlightRtNode F} (sample : ReceiverSample) (nowUs : Nat)
    (quiet : Quiet node) : Quiet (node.applyReceiver sample nowUs) := by
  unfold FlightRtNode.applyReceiver
  split
  · exact quiet.enterFailsafe
  · split
    · exact quiet
    · -- The setpoint that follows the switch touches neither arm state nor actuator.
      exact (quiet.applyArmSwitch sample).of_same rfl rfl

/-- the poll of the receiver, -/
theorem pollReceiver {node : FlightRtNode F} (input : IterationInput F) (quiet : Quiet node) :
    Quiet (node.pollReceiver input) := by
  have heard : Quiet { node with
      receiver := (node.receiver.poll input.rx input.linkUs).1 } := quiet.of_same rfl rfl
  -- Without a sample the node enters failsafe.
  cases polled : (node.receiver.poll input.rx input.linkUs).2 with
  | none =>
    simp only [FlightRtNode.pollReceiver, polled, Option.elim]
    exact heard.enterFailsafe
  | some sample =>
    simp only [FlightRtNode.pollReceiver, polled, Option.elim]
    exact heard.applyReceiver sample input.nowUs

/-- the check of the timeouts, -/
theorem checkTimeouts {node : FlightRtNode F} (safetyNowUs : Nat) (quiet : Quiet node) :
    Quiet (node.checkTimeouts safetyNowUs) := by
  -- The timeouts either enter failsafe or do nothing.
  by_cases armed : node.controller.armState = .armed
  · by_cases expired : node.TimedOut safetyNowUs
    · rw [checkTimeouts_expired armed expired]
      exact quiet.enterFailsafe
    · rw [checkTimeouts_kept armed expired]
      exact quiet
  · rw [checkTimeouts_unarmed armed]
    exact quiet

/-- and all of it together. -/
theorem beforeControl {node : FlightRtNode F} (input : IterationInput F) (quiet : Quiet node) :
    Quiet (node.beforeControl input) :=
  ((quiet.pollTransport input).pollReceiver input).checkTimeouts input.safetyUs

/-- The control step of a node that is not armed writes idle pulses, whatever the mixer. -/
theorem control {node : FlightRtNode F} (mix : Mix F) (attitude : AttitudeState F) (dtS : F)
    (reportUs : Nat) (quiet : Quiet node) :
    Quiet (node.control mix attitude dtS reportUs).1 where
  backed := (Actuator.output_hasBackend _ _).trans quiet.backed
  idle unarmed := by
    -- The pulses written are the idle ones the controller asks for.
    rw [control_armState] at unarmed
    exact (Actuator.output_lastPwm quiet.backed _).trans
      (Controller.update_idle unarmed attitude dtS)

/-- An iteration keeps the motors quiet at whichever of its exits it ends. -/
theorem iterate {s : RunState F} (mix : Mix F) (input : IterationInput F) (quiet : Quiet s.node) :
    Quiet (s.iterate mix input).1.node := by
  -- The three exits: not yet due, a failed sensor read, and a control step.
  rcases RunState.iterate_node_cases mix s input with
    ⟨-, same⟩ | ⟨-, -, failed⟩ | ⟨-, attitude, dtS, -, stepped⟩
  · exact same ▸ quiet.beforeControl input
  · exact failed ▸ (quiet.beforeControl input).enterFailsafe
  · exact stepped ▸ (quiet.beforeControl input).control mix attitude dtS input.reportUs

/-- A node that came up is quiet. -/
theorem initialised {node : FlightRtNode F} (clockUs : Nat)
    (backed : node.actuator.hasBackend = true) : Quiet (node.initialised clockUs) :=
  .of_idle ((Actuator.stop_hasBackend _).trans backed) (Actuator.stop_lastPwm backed)

end Quiet

/-- The node's receiver holds what was heard: the rest of the bytes, and the last frame. -/
structure Listening (node : FlightRtNode F) (heard : FrameBuffer × List AcceptedFrame) : Prop where
  backed : node.receiver.hasBackend = true
  threshold : node.receiver.armSwitchThresholdUs = 1500
  buffer : node.receiver.buffer = heard.1
  tracks : node.receiver.Tracks heard.2.getLast?

namespace Listening

/-- Only the receiver counts. -/
theorem of_same {node other : FlightRtNode F} {heard : FrameBuffer × List AcceptedFrame}
    (listening : Listening node heard) (same : other.receiver = node.receiver) :
    Listening other heard := by
  obtain ⟨backed, threshold, buffer, tracks⟩ := listening
  exact ⟨same ▸ backed, same ▸ threshold, same ▸ buffer, same ▸ tracks⟩

variable [FloatArith F]

/-- After `init` nothing was heard. -/
theorem constructed (clockUs : Nat) :
    Listening ((FlightRtNode.constructed : FlightRtNode F).initialised clockUs) (.empty, []) := by
  have low : ¬ (1500 : UInt16) < Channels.us (.replicate 14 0) 4 := by decide
  exact ⟨rfl, rfl, rfl, rfl, rfl, fun high => absurd high low⟩

/-- A new configuration does not make the receiver forget. -/
theorem pollTransport {node : FlightRtNode F} {heard : FrameBuffer × List AcceptedFrame}
    (input : IterationInput F) (listening : Listening node heard) :
    Listening (node.pollTransport input) heard := by
  rcases pollTransport_receiver node input with same | ⟨config, configured⟩
  · exact listening.of_same same
  · have kept := listening.tracks
    refine ⟨?_, ?_, ?_, ?_⟩
    · exact configured ▸ listening.backed
    · exact configured ▸ listening.threshold
    · exact configured ▸ listening.buffer
    · rw [configured]
      exact ⟨kept.reading, kept.failsafe, kept.arm⟩

/-- The receiver's turn adds what it accepts to what was heard. -/
theorem pollReceiver {node : FlightRtNode F} {heard : FrameBuffer × List AcceptedFrame}
    (input : IterationInput F) (listening : Listening node heard) :
    Listening (node.pollReceiver input)
      ((acceptFrames heard.1 input.rx).1, heard.2 ++ (acceptFrames heard.1 input.rx).2) := by
  obtain ⟨backed, threshold, buffer, tracks⟩ := listening
  obtain ⟨receiver, -⟩ := pollReceiver_frame backed input
  obtain ⟨sample, frameUs, polled⟩ := Receiver.poll_frame backed input.rx input.linkUs
  have tracked := Receiver.poll_tracks backed tracks input.rx input.linkUs
  rw [← receiver] at polled tracked
  refine ⟨?_, ?_, ?_, ?_⟩
  · rw [polled]
    exact backed
  · rw [polled]
    exact threshold
  · rw [polled, ← buffer]
  · rw [List.getLast?_append, ← buffer]
    exact tracked

end Listening

end FlightRtNode

section Runs

open FlightRtNode

variable [FloatArith F] (mix : Mix F) (boot : BootClock) (input : Nat → IterationInput F)

/-- In every run the motors stay quiet unless the node is armed. -/
theorem nodeAt_quiet (n : Nat) : Quiet (nodeAt mix boot input n).node := by
  -- The induction is on the iterations, each of which keeps the motors quiet.
  induction n with
  | zero => exact Quiet.initialised boot.initUs rfl
  | succ n ih => exact ih.iterate mix (input n)

/-- In every run the receiver holds what was heard so far. -/
theorem nodeAt_listening (n : Nat) :
    Listening (nodeAt mix boot input n).node (heardAt input n) := by
  -- The induction is on the iterations, each of which adds what it accepts.
  induction n with
  | zero => exact Listening.constructed boot.initUs
  | succ n ih =>
    have turned := (ih.pollTransport (input n)).pollReceiver (input n)
    exact turned.of_same (RunState.iterate_frame mix _ (input n)).1

end Runs

end AmpFc
