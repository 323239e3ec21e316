import AmpFc.Rt.FlightRtNode

/-! What each part of an iteration does to the node, and when it leaves the node armed. -/

namespace AmpFc

variable {F : Type} [FloatArith F]

namespace FlightRtNode

section Transport

/-- In failsafe the controller knows it. -/
@[simp] theorem enterFailsafe_armState (node : FlightRtNode F) :
    node.enterFailsafe.controller.armState = .failsafe :=
  Controller.setArmState_armState _ _

/-- A setpoint leaves the arm state alone, -/
@[simp] theorem applySetpoint_armState (node : FlightRtNode F) (nowUs : Nat)
    (setpoint : Option (CommandSetpoint F)) :
    (node.applySetpoint nowUs setpoint).controller.armState = node.controller.armState := by
  cases setpoint <;> rfl

omit [FloatArith F] in
/-- a heartbeat too, -/
@[simp] theorem applyHeartbeat_armState (node : FlightRtNode F) (nowUs : Nat)
    (heartbeat : Option Heartbeat) :
    (node.applyHeartbeat nowUs heartbeat).controller.armState = node.controller.armState := by
  cases heartbeat <;> rfl

/-- and a configuration. -/
@[simp] theorem applyConfig_armState (node : FlightRtNode F) (config : Option (FlightConfig F)) :
    (node.applyConfig config).controller.armState = node.controller.armState := by
  cases config <;> rfl

/-- What failsafe and every part of a command preserve, the transport's turn preserves. -/
theorem pollTransport_preserves (Holds : FlightRtNode F → Prop)
    (failsafe : ∀ node, Holds node → Holds node.enterFailsafe)
    (arm : ∀ node arm, Holds node → Holds (node.applyArm arm))
    (setpoint : ∀ node nowUs setpoint, Holds node → Holds (node.applySetpoint nowUs setpoint))
    (heartbeat : ∀ node nowUs heartbeat, Holds node → Holds (node.applyHeartbeat nowUs heartbeat))
    (config : ∀ node config, Holds node → Holds (node.applyConfig config))
    {node : FlightRtNode F} (input : IterationInput F) (holds : Holds node) :
    Holds (node.pollTransport input) := by
  have command : ∀ node, Holds node → Holds (node.applyCommand input.command input.nowUs) := by
    intro node before
    unfold applyCommand
    split
    · exact failsafe node before
    · -- The parts are applied one after the other, each on what the last one left.
      exact config _ _ (heartbeat _ _ _ (setpoint _ _ _ (arm _ _ before)))
  unfold pollTransport
  split
  · exact command _ (failsafe node holds)
  · exact command _ holds

/-- A command decides the arm state by its emergency stop and its arm state alone. -/
theorem applyCommand_armState (node : FlightRtNode F) (command : IncomingCommand F)
    (nowUs : Nat) :
    (node.applyCommand command nowUs).controller.armState =
      if command.emergencyStop then .failsafe
      else command.arm.elim node.controller.armState (fun arm => .ofByte arm.state) := by
  unfold applyCommand
  cases command.emergencyStop with
  | true => simp
  | false =>
    -- Setpoint, heartbeat, and configuration do not matter to it.
    cases command.arm with
    | some arm => simp [applyArm]
    | none => simp [applyArm]

/-- The arm state that a transport command leads to. -/
def commandedArm (node : FlightRtNode F) (polled : Bool) (command : IncomingCommand F) :
    ArmState :=
  if command.emergencyStop then .failsafe
  else command.arm.elim (if polled then node.controller.armState else .failsafe)
    (fun arm => .ofByte arm.state)

/-- A failed poll enters failsafe, and the command is applied all the same. -/
theorem pollTransport_armState (node : FlightRtNode F) (input : IterationInput F) :
    (node.pollTransport input).controller.armState =
      node.commandedArm input.polled input.command := by
  unfold pollTransport commandedArm
  rw [applyCommand_armState]
  cases input.polled with
  | true => rfl
  | false => simp

/-- A command either leaves the receiver alone or configures it. -/
theorem pollTransport_receiver (node : FlightRtNode F) (input : IterationInput F) :
    (node.pollTransport input).receiver = node.receiver ∨
      ∃ config, (node.pollTransport input).receiver = node.receiver.applyConfig config := by
  have untouched : ∀ (node : FlightRtNode F) nowUs,
      (((node.applyArm input.command.arm).applySetpoint nowUs input.command.setpoint).applyHeartbeat
        nowUs input.command.heartbeat).receiver = node.receiver := by
    intro node nowUs
    cases input.command.arm <;> cases input.command.setpoint <;>
      cases input.command.heartbeat <;> rfl
  have entered : (if !input.polled then node.enterFailsafe else node).receiver =
      node.receiver := by
    cases input.polled <;> rfl
  -- Of all the parts of a command, only its configuration reaches the receiver.
  unfold pollTransport applyCommand
  cases input.command.emergencyStop with
  | true => exact .inl entered
  | false =>
    cases input.command.config with
    | none => exact .inl ((untouched _ _).trans entered)
    | some config =>
      refine .inr ⟨config, ?_⟩
      show Receiver.applyConfig _ config = _
      rw [untouched, entered]

end Transport

section Pilot

/-- The arm switch leaves the node armed if it is high, and either armed before or a gesture. -/
theorem applyArmSwitch_armed_iff (node : FlightRtNode F) (sample : ReceiverSample) :
    (node.applyArmSwitch sample).controller.armState = .armed ↔
      sample.channels.us 4 > 1500 ∧ (node.controller.armState = .armed ∨
        node.controller.armState = .disarmed ∧ sample.channels.us 2 ≤ 1100) := by
  unfold applyArmSwitch
  by_cases high : sample.channels.us 4 > 1500
  · by_cases low : sample.channels.us 2 ≤ 1100
    · -- With the gesture, both an armed and a disarmed node end up armed.
      cases before : node.controller.armState <;> simp [high, low, before]
    · simp [high, low]
  · -- With the switch low, an armed node is disarmed.
    cases before : node.controller.armState <;> simp [high, before]

/-- The arm switch works on controller and actuator only. -/
theorem applyArmSwitch_frame (node : FlightRtNode F) (sample : ReceiverSample) :
    ∃ controller actuator, node.applyArmSwitch sample =
      { node with controller := controller, actuator := actuator } := by
  -- Both decisions of the switch write the same two fields.
  simp only [applyArmSwitch]
  split
  · split
    · exact ⟨_, _, rfl⟩
    · exact ⟨_, _, rfl⟩
  · split
    · exact ⟨_, _, rfl⟩
    · exact ⟨_, _, rfl⟩

/-- The samples that leave the node armed. -/
theorem applyReceiver_armed_iff (node : FlightRtNode F) (sample : ReceiverSample) (nowUs : Nat) :
    (node.applyReceiver sample nowUs).controller.armState = .armed ↔
      sample.failsafeSwitch = false ∧
        (sample.linkOk = false ∧ node.controller.armState = .armed ∨
          sample.linkOk = true ∧ (node.applyArmSwitch sample).controller.armState = .armed) := by
  -- A raised failsafe switch comes first, then a missing link, then the arm switch.
  unfold applyReceiver
  cases sample.failsafeSwitch with
  | true => simp
  | false =>
    cases sample.linkOk with
    | false => simp
    | true => simp

/-- A sample changes neither the receiver nor the time of the last heartbeat. -/
theorem applyReceiver_frame (node : FlightRtNode F) (sample : ReceiverSample) (nowUs : Nat) :
    (node.applyReceiver sample nowUs).receiver = node.receiver ∧
      (node.applyReceiver sample nowUs).lastHeartbeatUs = node.lastHeartbeatUs := by
  -- Failsafe, no link, and a setpoint: none of the exits writes the two.
  unfold applyReceiver
  split
  · exact ⟨rfl, rfl⟩
  · split
    · exact ⟨rfl, rfl⟩
    · obtain ⟨controller, actuator, switched⟩ := applyArmSwitch_frame node sample
      rw [switched]
      exact ⟨rfl, rfl⟩

/-- The receiver's turn changes the receiver as its own poll does. -/
theorem pollReceiver_frame {node : FlightRtNode F} (backed : node.receiver.hasBackend = true)
    (input : IterationInput F) :
    (node.pollReceiver input).receiver = (node.receiver.poll input.rx input.linkUs).1 ∧
      (node.pollReceiver input).lastHeartbeatUs = node.lastHeartbeatUs := by
  -- There always is a sample, whose application leaves the receiver alone.
  obtain ⟨sample, polled⟩ := Receiver.poll_isSome backed input.rx input.linkUs
  simp only [pollReceiver, polled, Option.elim]
  exact applyReceiver_frame _ sample input.nowUs

/-- The samples that leave the node armed; the link they come from is alive by itself. -/
theorem pollReceiver_armed_iff {node : FlightRtNode F} (backed : node.receiver.hasBackend = true)
    (input : IterationInput F) :
    (node.pollReceiver input).controller.armState = .armed ↔
      ∃ sample, (node.receiver.poll input.rx input.linkUs).2 = some sample ∧
        sample.failsafeSwitch = false ∧ sample.channels.us 4 > 1500 ∧
        (node.controller.armState = .armed ∨
          node.controller.armState = .disarmed ∧ sample.channels.us 2 ≤ 1100) := by
  obtain ⟨sample, polled⟩ := Receiver.poll_isSome backed input.rx input.linkUs
  simp only [pollReceiver, polled, Option.elim, Option.some.injEq, exists_eq_left']
  rw [applyReceiver_armed_iff, applyArmSwitch_armed_iff]
  -- A low failsafe switch comes with a link, so the case without one drops out.
  cases clear : sample.failsafeSwitch with
  | true => simp
  | false =>
    obtain ⟨linked, -⟩ := Receiver.poll_clear backed polled clear
    simp [linked]

/-- A node that the receiver's turn leaves armed took its setpoint from the sample. -/
theorem pollReceiver_setpoint {node : FlightRtNode F} (backed : node.receiver.hasBackend = true)
    {input : IterationInput F} (armed : (node.pollReceiver input).controller.armState = .armed) :
    (node.pollReceiver input).lastSetpointUs = input.nowUs := by
  -- A sample that leaves the node armed is applied up to its setpoint.
  obtain ⟨sample, polled, clear, -⟩ := (pollReceiver_armed_iff backed input).mp armed
  obtain ⟨linked, -⟩ := Receiver.poll_clear backed polled clear
  simp [pollReceiver, polled, applyReceiver, clear, linked]

end Pilot

section Timeouts

/-- Some timeout has run out. -/
def TimedOut (node : FlightRtNode F) (safetyNowUs : Nat) : Prop :=
  clockSub safetyNowUs node.lastSetpointUs > setpointTimeoutUs ∨
    (node.lastHeartbeatUs ≠ 0 ∧
      clockSub safetyNowUs node.lastHeartbeatUs > heartbeatTimeoutUs) ∨
    node.receiver.hasLink safetyNowUs receiverTimeoutUs = false

/-- Entering failsafe leaves the receiver alone, -/
@[simp] theorem enterFailsafe_receiver (node : FlightRtNode F) :
    node.enterFailsafe.receiver = node.receiver := rfl

/-- and the time of the last heartbeat. -/
@[simp] theorem enterFailsafe_lastHeartbeatUs (node : FlightRtNode F) :
    node.enterFailsafe.lastHeartbeatUs = node.lastHeartbeatUs := rfl

/-- Entering failsafe again finds the state set and the motors stopped. -/
@[simp] theorem enterFailsafe_again (node : FlightRtNode F) :
    node.enterFailsafe.enterFailsafe = node.enterFailsafe := by
  -- The second entry finds the state set, so not even the integrators are reset.
  have state : node.enterFailsafe.controller.setArmState .failsafe =
      node.enterFailsafe.controller := by
    rw [Controller.setArmState, if_pos (enterFailsafe_armState node).symm]
  have stopped : node.actuator.stop.stop = node.actuator.stop := Actuator.stop_again _
  rw [enterFailsafe, state]
  exact congrArg (fun actuator => { node.enterFailsafe with actuator := actuator }) stopped

/-- While not armed no timeout is looked at. -/
theorem checkTimeouts_unarmed {node : FlightRtNode F} (unarmed : node.controller.armState ≠ .armed)
    (safetyNowUs : Nat) : node.checkTimeouts safetyNowUs = node :=
  if_pos unarmed

/-- An armed node none of whose timeouts has run out stays as it is. -/
theorem checkTimeouts_kept {node : FlightRtNode F} (armed : node.controller.armState = .armed)
    {safetyNowUs : Nat} (kept : ¬ node.TimedOut safetyNowUs) :
    node.checkTimeouts safetyNowUs = node := by
  simp only [TimedOut, not_or, Bool.not_eq_false] at kept
  obtain ⟨setpoint, heartbeat, linked⟩ := kept
  simp [checkTimeouts, armed, setpoint, heartbeat, linked]

/-- An armed node enters failsafe however many of its timeouts have run out. -/
theorem checkTimeouts_expired {node : FlightRtNode F} (armed : node.controller.armState = .armed)
    {safetyNowUs : Nat} (expired : node.TimedOut safetyNowUs) :
    node.checkTimeouts safetyNowUs = node.enterFailsafe := by
  have stays : ∀ condition : Prop, ∀ [Decidable condition],
      (if condition then node.enterFailsafe.enterFailsafe else node.enterFailsafe) =
        node.enterFailsafe := by
    intro condition decidable
    rw [enterFailsafe_again, ite_self]
  rw [checkTimeouts, if_neg (not_not.mpr armed)]
  -- From the first timeout that has run out, the later ones make no difference.
  by_cases setpoint : clockSub safetyNowUs node.lastSetpointUs > setpointTimeoutUs
  · simp only [if_pos setpoint, stays]
  · by_cases heartbeat : node.lastHeartbeatUs ≠ 0 ∧
        clockSub safetyNowUs node.lastHeartbeatUs > heartbeatTimeoutUs
    · simp only [if_neg setpoint, if_pos heartbeat, stays]
    · have lost := (expired.resolve_left setpoint).resolve_left heartbeat
      simp only [if_neg setpoint, if_neg heartbeat, lost, Bool.not_false, if_true]

/-- The timeouts leave a node armed exactly if none has run out. -/
theorem checkTimeouts_armed_iff (node : FlightRtNode F) (safetyNowUs : Nat) :
    (node.checkTimeouts safetyNowUs).controller.armState = .armed ↔
      node.controller.armState = .armed ∧ ¬ node.TimedOut safetyNowUs := by
  -- Only an armed node is looked at, and any timeout that has run out ends that.
  by_cases armed : node.controller.armState = .armed
  · by_cases expired : node.TimedOut safetyNowUs
    · simp [checkTimeouts_expired armed expired, expired]
    · simp [checkTimeouts_kept armed expired, armed, expired]
  · simp [checkTimeouts_unarmed armed, armed]

end Timeouts

section Iterations

/-- What the iteration's sample must be for an armed node: failsafe low, arm switch high. -/
def Applied (node : FlightRtNode F) (input : IterationInput F) (sample : ReceiverSample) : Prop :=
  let node := node.pollTransport input
  (node.receiver.poll input.rx input.linkUs).2 = some sample ∧ sample.failsafeSwitch = false ∧
    sample.channels.us 4 > 1500

/-- The timeouts of an armed node, all of them in time. -/
structure InTime (node : FlightRtNode F) (input : IterationInput F) : Prop where
  setpoint : clockSub input.safetyUs input.nowUs ≤ setpointTimeoutUs
  heartbeat : (node.pollTransport input).lastHeartbeatUs = 0 ∨
    clockSub input.safetyUs (node.pollTransport input).lastHeartbeatUs ≤ heartbeatTimeoutUs
  link : ((node.pollTransport input).receiver.poll input.rx input.linkUs).1.hasLink input.safetyUs
    receiverTimeoutUs = true

/-- The poll of the transport leaves the receiver its backend. -/
theorem pollTransport_hasBackend {node : FlightRtNode F}
    (backed : node.receiver.hasBackend = true) (input : IterationInput F) :
    (node.pollTransport input).receiver.hasBackend = true := by
  -- A new configuration does not touch the backend.
  rcases pollTransport_receiver node input with same | ⟨config, configured⟩
  · rw [same, backed]
  · rw [configured]
    exact backed

/-- Before its control step, an iteration leaves the node armed in exactly these cases. -/
theorem beforeControl_armed_iff {node : FlightRtNode F}
    (backed : node.receiver.hasBackend = true) (input : IterationInput F) :
    (node.beforeControl input).controller.armState = .armed ↔
      InTime node input ∧ ∃ sample, Applied node input sample ∧
        (node.commandedArm input.polled input.command = .armed ∨
          node.commandedArm input.polled input.command = .disarmed ∧
            sample.channels.us 2 ≤ 1100) := by
  have present := pollTransport_hasBackend backed input
  obtain ⟨receiver, heartbeat⟩ := pollReceiver_frame present input
  -- An armed node has its setpoint from this very iteration.
  have kept : ((node.pollTransport input).pollReceiver input).controller.armState = .armed →
      (¬ ((node.pollTransport input).pollReceiver input).TimedOut input.safetyUs ↔
        InTime node input) := by
    intro armed
    simp only [TimedOut, not_or, not_and, not_lt, receiver, heartbeat,
      pollReceiver_setpoint present armed, Bool.not_eq_false]
    exact ⟨fun ⟨setpoint, heartbeat, link⟩ => ⟨setpoint, or_iff_not_imp_left.mpr heartbeat, link⟩,
      fun inTime => ⟨inTime.setpoint, or_iff_not_imp_left.mp inTime.heartbeat, inTime.link⟩⟩
  -- The three phases of the iteration, from the last one back to the first.
  rw [beforeControl, checkTimeouts_armed_iff, and_congr_right kept,
    pollReceiver_armed_iff present, pollTransport_armState, and_comm]
  simp only [Applied, and_assoc]

/-- Neither the timeouts touch the receiver, nor do they touch the time of the last heartbeat. -/
theorem checkTimeouts_frame (node : FlightRtNode F) (safetyNowUs : Nat) :
    (node.checkTimeouts safetyNowUs).receiver = node.receiver ∧
      (node.checkTimeouts safetyNowUs).lastHeartbeatUs = node.lastHeartbeatUs := by
  -- Failsafe is all that the timeouts can bring about.
  by_cases armed : node.controller.armState = .armed
  · by_cases expired : node.TimedOut safetyNowUs
    · rw [checkTimeouts_expired armed expired]
      exact ⟨rfl, rfl⟩
    · rw [checkTimeouts_kept armed expired]
      exact ⟨rfl, rfl⟩
  · rw [checkTimeouts_unarmed armed]
    exact ⟨rfl, rfl⟩

/-- A control step keeps the arm state. -/
@[simp] theorem control_armState (mix : Mix F) (node : FlightRtNode F)
    (attitude : AttitudeState F) (dtS : F) (reportUs : Nat) :
    (node.control mix attitude dtS reportUs).1.controller.armState =
      node.controller.armState :=
  Controller.update_armState _ _ _ _

end Iterations

end FlightRtNode

namespace RunState

open FlightRtNode

/-- What an iteration does to the node: nothing more, failsafe, or a control step. -/
theorem iterate_node_cases (mix : Mix F) (s : RunState F) (input : IterationInput F) :
    (input.controlUs < s.nextControlDueUs ∧
        (s.iterate mix input).1.node = s.node.beforeControl input) ∨
      (s.nextControlDueUs ≤ input.controlUs ∧ input.sensed = none ∧
        (s.iterate mix input).1.node = (s.node.beforeControl input).enterFailsafe) ∨
      (s.nextControlDueUs ≤ input.controlUs ∧ ∃ attitude dtS, input.sensed = some attitude ∧
        (s.iterate mix input).1.node =
          ((s.node.beforeControl input).control mix attitude dtS input.reportUs).1) := by
  -- The case split follows the exits of the loop body.
  unfold iterate
  by_cases early : input.controlUs < s.nextControlDueUs
  · exact .inl ⟨early, by simp only [if_pos early]⟩
  · have due : s.nextControlDueUs ≤ input.controlUs := Nat.le_of_not_lt early
    simp only [if_neg early]
    cases input.sensed with
    | none => exact .inr (.inl ⟨due, rfl, rfl⟩)
    | some attitude => exact .inr (.inr ⟨due, attitude, _, rfl, rfl⟩)

/-- After the receiver's turn, an iteration touches neither receiver nor last heartbeat. -/
theorem iterate_frame (mix : Mix F) (s : RunState F) (input : IterationInput F) :
    (s.iterate mix input).1.node.receiver =
        ((s.node.pollTransport input).pollReceiver input).receiver ∧
      (s.iterate mix input).1.node.lastHeartbeatUs =
        ((s.node.pollTransport input).pollReceiver input).lastHeartbeatUs := by
  have checked := checkTimeouts_frame ((s.node.pollTransport input).pollReceiver input)
    input.safetyUs
  -- None of the three exits comes back to the receiver.
  rcases iterate_node_cases mix s input with
    ⟨-, same⟩ | ⟨-, -, failed⟩ | ⟨-, attitude, dtS, -, stepped⟩
  · exact same ▸ checked
  · exact failed ▸ checked
  · exact stepped ▸ checked

/-- An iteration leaves the node armed unless its control step finds no sample. -/
theorem iterate_armed_iff (mix : Mix F) (s : RunState F) (input : IterationInput F) :
    (s.iterate mix input).1.node.controller.armState = .armed ↔
      (s.node.beforeControl input).controller.armState = .armed ∧
        (input.controlUs < s.nextControlDueUs ∨ input.sensed.isSome = true) := by
  -- Failsafe is entered in the exit without a sensor sample only.
  rcases iterate_node_cases mix s input with
    ⟨early, same⟩ | ⟨due, unsensed, failed⟩ | ⟨due, attitude, dtS, sensed, stepped⟩
  · simp [same, early]
  · simp [failed, unsensed, due]
  · simp [stepped, sensed]

end RunState

end AmpFc
