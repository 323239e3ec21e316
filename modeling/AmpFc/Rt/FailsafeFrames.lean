import AmpFc.Rt.MotorOutput

/-! Whether a frame that demands failsafe is obeyed when one read brings several frames. -/

namespace AmpFc

variable {F : Type} [FloatArith F]

/-- The frames that `Receiver::poll` accepts while it consumes one read. -/
def Receiver.acceptedBy (r : Receiver F) (rx : List RxByte) : List AcceptedFrame :=
  -- Without a backend nothing is read.
  if r.hasBackend then (acceptFrames r.buffer rx).2 else []

namespace FlightRtNode

/-- The node is in failsafe, and the pulses last written idle all motors. -/
def InFailsafe (node : FlightRtNode F) : Prop :=
  node.controller.armState = .failsafe ∧ node.actuator.lastPwm = idlePwm

/-- A frame that demands failsafe is obeyed by the end of the receiver's turn. -/
def FailsafeObeyed (node : FlightRtNode F) (input : IterationInput F) : Prop :=
  (∃ frame ∈ node.receiver.acceptedBy input.rx, frame.channels.us 5 > 1500) →
    InFailsafe (node.pollReceiver input)

omit [FloatArith F] in
/-- A failsafe state leaves idle pulses if they can be written, or are there already. -/
theorem stop_lastPwm_iff (node : FlightRtNode F) :
    node.actuator.stop.lastPwm = idlePwm ↔
      node.actuator.hasBackend = true ∨ node.actuator.lastPwm = idlePwm := by
  unfold Actuator.stop Actuator.output
  cases node.actuator.hasBackend with
  | true => simp
  | false => simp

/-- Entering failsafe has the motors idle exactly with a backend, or if they were idle before. -/
theorem enterFailsafe_inFailsafe_iff (node : FlightRtNode F) :
    InFailsafe node.enterFailsafe ↔
      node.actuator.hasBackend = true ∨ node.actuator.lastPwm = idlePwm := by
  rw [← stop_lastPwm_iff]
  unfold InFailsafe
  rw [enterFailsafe_armState]
  simp [enterFailsafe]

/-- The arm switch neither enters failsafe nor leaves it, and in failsafe it writes no pulses. -/
theorem applyArmSwitch_inFailsafe_iff (node : FlightRtNode F) (sample : ReceiverSample) :
    InFailsafe (node.applyArmSwitch sample) ↔ InFailsafe node := by
  unfold applyArmSwitch
  by_cases failsafe : node.controller.armState = .failsafe
  · -- Neither the arming gesture nor the low switch matters in failsafe.
    simp [failsafe]
  · -- Whatever the switch does, it leaves armed, disarmed, or what was there.
    have outside : ∀ {other : FlightRtNode F}, other.controller.armState ≠ .failsafe →
        (InFailsafe other ↔ InFailsafe node) := by
      intro other state
      constructor
      · intro entered
        exact absurd entered.1 state
      · intro entered
        exact absurd entered.1 failsafe
    dsimp only
    split
    · -- A high switch: armed by the gesture, or still disarmed.
      split
      · exact outside (by simp)
      · exact outside (by simp)
    · -- A low switch: disarmed, or left alone.
      split
      · exact outside (by simp)
      · exact Iff.rfl

/-- A live sample with a low failsafe switch leaves the node in failsafe only if it was there. -/
theorem applyReceiver_inFailsafe_iff (node : FlightRtNode F) (sample : ReceiverSample)
    (linked : sample.linkOk = true) (nowUs : Nat) :
    InFailsafe (node.applyReceiver sample nowUs) ↔
      sample.failsafeSwitch = true ∧
          (node.actuator.hasBackend = true ∨ node.actuator.lastPwm = idlePwm) ∨
        sample.failsafeSwitch = false ∧ InFailsafe node := by
  unfold applyReceiver
  cases raised : sample.failsafeSwitch with
  -- A raised failsafe switch is obeyed before anything else is looked at.
  | true => simp [enterFailsafe_inFailsafe_iff]
  | false =>
    simp only [linked, Bool.not_true, Bool.false_eq_true, if_false, false_and, true_and, false_or]
    -- The setpoint that follows touches neither arm state nor pulses.
    exact applyArmSwitch_inFailsafe_iff node sample

/-- Of all frames a read brings, only the last one decides about failsafe. -/
theorem pollReceiver_inFailsafe_iff {node : FlightRtNode F} {input : IterationInput F}
    {last : AcceptedFrame}
    (newest : (node.receiver.acceptedBy input.rx).getLast? = some last) :
    InFailsafe (node.pollReceiver input) ↔
      last.channels.us 5 > node.receiver.armSwitchThresholdUs ∧
          (node.actuator.hasBackend = true ∨ node.actuator.lastPwm = idlePwm) ∨
        ¬ last.channels.us 5 > node.receiver.armSwitchThresholdUs ∧ InFailsafe node := by
  cases backed : node.receiver.hasBackend with
  -- Without a backend no frame is ever accepted.
  | false => simp [Receiver.acceptedBy, backed] at newest
  | true =>
    have accepted : node.receiver.acceptedBy input.rx =
        (acceptFrames node.receiver.buffer input.rx).2 := by
      simp [Receiver.acceptedBy, backed]
    rw [accepted] at newest
    -- The one sample that the poll returns is that of the newest frame.
    have turn : node.pollReceiver input = ({ node with
        receiver := node.receiver.heard (acceptFrames node.receiver.buffer input.rx).1
          (some last) } : FlightRtNode F).applyReceiver (node.receiver.sampleOf last)
            input.nowUs := by
      unfold pollReceiver
      rw [Receiver.poll_eq backed, newest]
      rfl
    have outcome := applyReceiver_inFailsafe_iff ({ node with
        receiver := node.receiver.heard (acceptFrames node.receiver.buffer input.rx).1
          (some last) } : FlightRtNode F) (node.receiver.sampleOf last) rfl input.nowUs
    have switch : (node.receiver.sampleOf last).failsafeSwitch =
        decide (last.channels.us 5 > node.receiver.armSwitchThresholdUs) := rfl
    rw [turn, outcome, switch, decide_eq_true_iff, decide_eq_false_iff_not]
    exact Iff.rfl

/--
The reads in which no demand for failsafe is missed.

Either no frame demands it, or the last one does, or the node is in failsafe already.
-/
def FailsafeSeen (node : FlightRtNode F) (rx : List RxByte) : Prop :=
  (∀ frame ∈ node.receiver.acceptedBy rx, frame.channels.us 5 ≤ 1500) ∨
    (∃ frame, (node.receiver.acceptedBy rx).getLast? = some frame ∧
      frame.channels.us 5 > node.receiver.armSwitchThresholdUs ∧
      (node.actuator.hasBackend = true ∨ node.actuator.lastPwm = idlePwm)) ∨
    (∃ frame, (node.receiver.acceptedBy rx).getLast? = some frame ∧
      frame.channels.us 5 ≤ node.receiver.armSwitchThresholdUs ∧ InFailsafe node)

/-- Demands for failsafe are obeyed exactly in the reads that end with one, or need none. -/
theorem failsafeObeyed_iff (node : FlightRtNode F) (input : IterationInput F) :
    FailsafeObeyed node input ↔ FailsafeSeen node input.rx := by
  unfold FailsafeObeyed FailsafeSeen
  cases newest : (node.receiver.acceptedBy input.rx).getLast? with
  | none =>
    -- No frame, no demand.
    have silent := List.getLast?_eq_none_iff.mp newest
    simp [silent]
  | some last =>
    have member := List.mem_of_getLast? newest
    rw [pollReceiver_inFailsafe_iff newest]
    constructor
    · intro obeyed
      -- A demand must have been obeyed through the last frame, or the node was in failsafe before.
      by_cases demanded : ∃ frame ∈ node.receiver.acceptedBy input.rx, frame.channels.us 5 > 1500
      · rcases obeyed demanded with ⟨high, stops⟩ | ⟨low, before⟩
        · exact .inr (.inl ⟨last, rfl, high, stops⟩)
        · exact .inr (.inr ⟨last, rfl, UInt16.not_lt.mp low, before⟩)
      · refine .inl fun frame found => UInt16.not_lt.mp fun high => ?_
        exact demanded ⟨frame, found, high⟩
    · -- Each of the three conditions settles what the last frame does to a demand.
      intro seen demanded
      rcases seen with none | ⟨frame, same, high, stops⟩ | ⟨frame, same, low, before⟩
      · -- No frame demanded anything.
        obtain ⟨frame, found, high⟩ := demanded
        exact absurd high (UInt16.not_lt.mpr (none frame found))
      · obtain rfl := Option.some.inj same
        exact .inl ⟨high, stops⟩
      · obtain rfl := Option.some.inj same
        exact .inr ⟨UInt16.not_lt.mpr low, before⟩

/-- With the node's own threshold, a read that brings at most one frame misses nothing. -/
theorem failsafeObeyed_of_single {node : FlightRtNode F} {input : IterationInput F}
    (threshold : node.receiver.armSwitchThresholdUs = 1500)
    (backed : node.actuator.hasBackend = true)
    (single : (node.receiver.acceptedBy input.rx).length ≤ 1) : FailsafeObeyed node input := by
  intro demanded
  obtain ⟨frame, member, high⟩ := demanded
  -- The frame that demands failsafe is the only one, and so the last.
  have newest : (node.receiver.acceptedBy input.rx).getLast? = some frame := by
    match accepted : node.receiver.acceptedBy input.rx with
    | [] =>
      rw [accepted] at member
      cases member
    | [only] =>
      rw [accepted, List.mem_singleton] at member
      rw [member]
      rfl
    | _ :: _ :: _ =>
      rw [accepted] at single
      simp only [List.length_cons] at single
      omega
  rw [pollReceiver_inFailsafe_iff newest, threshold]
  exact .inl ⟨high, .inl backed⟩

/-- A frame that demands failsafe, and right behind it one that does not. -/
def overtakenDemand : List UInt8 :=
  encodeIbusFrame ((flightChannels 1300).setIfInBounds 5 2000) ++ flightFrame 1300

/-- The pilot arms in the first iteration, and in the second the demand is overtaken. -/
def overtakenBench (k : Nat) : IterationInput ℚ :=
  benchIteration (1000 * (k + 1)) {} (if k = 0 then flightFrame 1000 else overtakenDemand)

/-- Two frames in one read hide a demand for failsafe from an armed node. -/
theorem not_failsafeObeyed_overtakenBench :
    ¬ ∀ (node : FlightRtNode ℚ) (input : IterationInput ℚ), FailsafeObeyed node input := by
  intro obeyed
  let node := (nodeAt Controller.mix ⟨500, 600⟩ overtakenBench 1).node
  -- Both frames are accepted, and only the first one demands failsafe.
  have accepted : (node.receiver.acceptedBy (overtakenBench 1).rx).map (·.channels.us 5) =
      [2000, 1500] := by decide +kernel
  have armed : node.controller.armState = .armed := by decide +kernel
  have threshold : node.receiver.armSwitchThresholdUs = 1500 := by decide +kernel
  have demand : (2000 : UInt16) ∈
      (node.receiver.acceptedBy (overtakenBench 1).rx).map (·.channels.us 5) := by
    rw [accepted]
    exact List.mem_cons_self
  obtain ⟨frame, member, value⟩ := List.mem_map.mp demand
  have failsafe := obeyed node (overtakenBench 1) ⟨frame, member, by rw [value]; decide⟩
  -- The last frame demands nothing, and the node was armed.
  have lastValue := congrArg List.getLast? accepted
  rw [List.getLast?_map] at lastValue
  obtain ⟨last, newest, value⟩ := Option.map_eq_some_iff.mp lastValue
  rw [pollReceiver_inFailsafe_iff newest, threshold, value] at failsafe
  rcases failsafe with ⟨high, -⟩ | ⟨-, before⟩
  · exact absurd high (by decide)
  · rw [InFailsafe, armed] at before
    cases before.1

end FlightRtNode

end AmpFc
