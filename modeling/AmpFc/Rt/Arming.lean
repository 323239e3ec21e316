import AmpFc.Rt.MotorOutput

/-! Who arms the node: the pilot's gesture, a transport command, and the first silent iteration. -/

namespace AmpFc

open FlightRtNode

variable {F : Type} [FloatArith F]

section Gesture

/-- The pilot's gesture in iteration `n`: link, switch high, throttle low, node disarmed before. -/
def GestureAt (mix : Mix F) (boot : BootClock) (input : Nat → IterationInput F) (n : Nat) : Prop :=
  armStateAt mix boot input n = .disarmed ∧
    ∃ sample, sampleAt mix boot input n = some sample ∧ sample.linkOk = true ∧
      sample.channels.us 4 > 1500 ∧ sample.channels.us 2 ≤ 1100 ∧ sample.channels.us 5 ≤ 1500

/-- Whenever an iteration arms the node, the pilot made the gesture in it. -/
def GestureRule (mix : Mix F) (boot : BootClock) (input : Nat → IterationInput F) : Prop :=
  ∀ n, armStateAt mix boot input n ≠ .armed → armStateAt mix boot input (n + 1) = .armed →
    GestureAt mix boot input n

/--
A transport command arms the node in the pilot's place.

Either it delivers the armed state without the gesture, or it delivers the disarmed state to a node
in failsafe, which a low throttle then arms in the same iteration.
-/
structure CommandArms (s : RunState F) (input : IterationInput F) : Prop where
  unarmed : s.node.controller.armState ≠ .armed
  delivered : input.command.emergencyStop = false
  inTime : InTime s.node input
  sensed : input.controlUs < s.nextControlDueUs ∨ input.sensed.isSome = true
  arms : ∃ sample, Applied s.node input sample ∧ ∃ arm, input.command.arm = some arm ∧
    (ArmState.ofByte arm.state = .armed ∧
        (sample.channels.us 2 > 1100 ∨ s.node.controller.armState ≠ .disarmed) ∨
      ArmState.ofByte arm.state = .disarmed ∧ sample.channels.us 2 ≤ 1100 ∧
        s.node.controller.armState ≠ .disarmed)

omit [FloatArith F] in
/-- A commanded state other than failsafe was delivered, or the node had it and the poll worked. -/
theorem commandedArm_cases {node : FlightRtNode F} {polled : Bool} {command : IncomingCommand F}
    {state : ArmState} (commanded : node.commandedArm polled command = state)
    (flying : state ≠ .failsafe) :
    command.emergencyStop = false ∧
      ((∃ arm, command.arm = some arm ∧ ArmState.ofByte arm.state = state) ∨
        node.controller.armState = state) := by
  unfold commandedArm at commanded
  -- An emergency stop or a failed poll without a command would give failsafe.
  cases stop : command.emergencyStop with
  | true =>
    rw [stop, if_pos rfl] at commanded
    exact absurd commanded.symm flying
  | false =>
    refine ⟨rfl, ?_⟩
    simp only [stop, Bool.false_eq_true, if_false] at commanded
    cases delivered : command.arm with
    | some arm =>
      rw [delivered] at commanded
      exact .inl ⟨arm, rfl, commanded⟩
    | none =>
      rw [delivered] at commanded
      cases polled with
      | true => exact .inr commanded
      | false => exact absurd commanded.symm flying

variable (mix : Mix F) (boot : BootClock) (input : Nat → IterationInput F)

/-- The cases in which an iteration of a run ends armed. -/
theorem armStateAt_succ_iff (n : Nat) :
    armStateAt mix boot input (n + 1) = .armed ↔
      (InTime (nodeAt mix boot input n).node (input n) ∧
        ∃ sample, Applied (nodeAt mix boot input n).node (input n) sample ∧
          ((nodeAt mix boot input n).node.commandedArm (input n).polled (input n).command = .armed ∨
            (nodeAt mix boot input n).node.commandedArm (input n).polled (input n).command =
                .disarmed ∧ sample.channels.us 2 ≤ 1100)) ∧
        ((input n).controlUs < (nodeAt mix boot input n).nextControlDueUs ∨
          (input n).sensed.isSome = true) := by
  -- After the control step, only a failed sensor read can still end the armed state.
  have listening := nodeAt_listening mix boot input n
  rw [← beforeControl_armed_iff listening.backed (input n)]
  exact RunState.iterate_armed_iff mix _ (input n)

/-- In an iteration that arms the node, the gesture was made exactly if no command armed it. -/
theorem gestureAt_iff {n : Nat} (unarmed : armStateAt mix boot input n ≠ .armed)
    (armed : armStateAt mix boot input (n + 1) = .armed) :
    GestureAt mix boot input n ↔ ¬ CommandArms (nodeAt mix boot input n) (input n) := by
  obtain ⟨⟨inTime, sample, applied, state⟩, sensed⟩ :=
    (armStateAt_succ_iff mix boot input n).mp armed
  have listening := (nodeAt_listening mix boot input n).pollTransport (input n)
  have reported : sampleAt mix boot input n = some sample := applied.1
  obtain ⟨linked, failsafe, -⟩ := Receiver.poll_clear listening.backed applied.1 applied.2.1
  rw [listening.threshold] at failsafe
  -- Link and both switches are as they should be, so throttle and earlier state decide.
  have gesture : GestureAt mix boot input n ↔
      armStateAt mix boot input n = .disarmed ∧ sample.channels.us 2 ≤ 1100 := by
    constructor
    · intro made
      obtain ⟨before, other, same, -, -, low, -⟩ := made
      rw [reported] at same
      cases same
      exact ⟨before, low⟩
    · rintro ⟨before, low⟩
      exact ⟨before, sample, reported, linked, applied.2.2, low, failsafe⟩
  rw [gesture]
  constructor
  · rintro ⟨before, low⟩ commands
    obtain ⟨other, ⟨same, -⟩, arm, -, cases⟩ := commands.arms
    have equal : sample = other := Option.some.inj (applied.1.symm.trans same)
    subst equal
    rcases cases with ⟨-, high | other⟩ | ⟨-, -, other⟩
    · exact absurd low (UInt16.not_le.mpr high)
    · exact other before
    · exact other before
  · intro free
    by_contra missing
    apply free
    have otherwise : sample.channels.us 2 ≤ 1100 → armStateAt mix boot input n ≠ .disarmed :=
      fun low before => missing ⟨before, low⟩
    rcases state with commanded | ⟨commanded, low⟩
    · -- The armed state must have been delivered, as the node did not have it.
      obtain ⟨delivered, ⟨arm, some, raw⟩ | before⟩ := commandedArm_cases commanded (by decide)
      · refine ⟨unarmed, delivered, inTime, sensed, sample, applied, arm, some, .inl ⟨raw, ?_⟩⟩
        by_cases low : sample.channels.us 2 ≤ 1100
        · exact .inr (otherwise low)
        · exact .inl (UInt16.not_le.mp low)
      · exact absurd before unarmed
    · -- The disarmed state must have been delivered, or else this was the gesture.
      obtain ⟨delivered, ⟨arm, some, raw⟩ | before⟩ := commandedArm_cases commanded (by decide)
      · exact ⟨unarmed, delivered, inTime, sensed, sample, applied, arm, some,
          .inr ⟨raw, low, otherwise low⟩⟩
      · exact absurd before (otherwise low)

/-- A command that arms in the pilot's place does leave the node armed. -/
theorem armed_of_commandArms {n : Nat}
    (commands : CommandArms (nodeAt mix boot input n) (input n)) :
    armStateAt mix boot input (n + 1) = .armed := by
  obtain ⟨-, delivered, inTime, sensed, sample, applied, arm, some, cases⟩ := commands
  -- The delivered byte decides what the transport leaves behind.
  have state : (nodeAt mix boot input n).node.commandedArm (input n).polled (input n).command =
      .ofByte arm.state := by
    simp [commandedArm, delivered, some]
  refine (armStateAt_succ_iff mix boot input n).mpr ⟨⟨inTime, sample, applied, ?_⟩, sensed⟩
  rw [state]
  rcases cases with ⟨raw, -⟩ | ⟨raw, low, -⟩
  · exact .inl raw
  · exact .inr ⟨raw, low⟩

/-- The pilot's gesture is behind every arming exactly in the runs where no command arms. -/
theorem gestureRule_iff_no_commandArms :
    GestureRule mix boot input ↔ ∀ n, ¬ CommandArms (nodeAt mix boot input n) (input n) := by
  -- Both sides speak of the iterations that arm, and there they exclude each other.
  constructor
  · intro rule n commands
    have armed := armed_of_commandArms mix boot input commands
    have gesture := rule n commands.unarmed armed
    exact (gestureAt_iff mix boot input commands.unarmed armed).mp gesture commands
  · intro free n unarmed armed
    exact (gestureAt_iff mix boot input unarmed armed).mpr (free n)

end Gesture

/-- Linux keeps sending the armed state, and the pilot keeps the throttle in the middle. -/
def commandBench (_ : Nat) : IterationInput ℚ :=
  benchIteration 1000 { arm := some { state := 1 } } (flightFrame 1500)

/-- The first iteration arms the node at half throttle. -/
theorem gestureRule_commandBench : ¬ ∀ (boot : BootClock) (input : Nat → IterationInput ℚ),
    (∀ n, ClockOrdered input n) → GestureRule Controller.mix boot input := by
  intro rule
  have ordered : ∀ n, ClockOrdered commandBench n := by
    intro n
    exact clockOrdered_bench (fun _ _ => le_rfl) (by decide)
  have armed : armStateAt Controller.mix ⟨1000, 1000⟩ commandBench 1 = .armed := by
    decide +kernel
  obtain ⟨-, sample, reported, -, -, low, -⟩ :=
    rule ⟨1000, 1000⟩ commandBench ordered 0 (by decide) armed
  -- Half throttle is left in the middle by the throttle curve.
  have middle : (sampleAt Controller.mix ⟨1000, 1000⟩ commandBench 0).map (·.channels.us 2) =
      some 1500 := by decide +kernel
  rw [reported] at middle
  rw [Option.map_some, Option.some.injEq] at middle
  rw [middle] at low
  exact absurd low (by decide)

section StartUp

/-- The throttle curve that `init` configures. -/
def bootExpo : F :=
  FloatArith.clamp (defaultFlightConfig : FlightConfig F).throttleExpo (FloatArith.ofRat 0)
    (FloatArith.ofRat (95 / 100))

/--
A start-up in which the pilot's first frame completes in iteration `n`.

No command is delivered, sampling works, and the frame asks for arming at low throttle.
-/
structure FirstFrame (boot : BootClock) (input : Nat → IterationInput F) (n : Nat)
    (frame : AcceptedFrame) : Prop where
  ordered : ClockOrdered input n
  positive : 0 < boot.initUs
  booted : boot.initUs ≤ boot.bootUs ∧ boot.bootUs ≤ (input 0).nowUs
  arrived : ∀ rx ∈ (input n).rx, (input n).nowUs ≤ rx.reading
  polled : ∀ k ≤ n, (input k).polled = true
  commanded : ∀ k ≤ n, (input k).command = {}
  sensed : ∀ k ≤ n, (input k).sensed.isSome = true
  silent : ∀ k < n, (input k).rx = []
  completes : acceptedIn input n = [frame]
  arm : frame.channels.us 4 > 1500
  failsafe : frame.channels.us 5 ≤ 1500
  throttle : frame.channels.us 2 = 1000

/-- Without a command the transport's turn does nothing. -/
theorem pollTransport_idle (node : FlightRtNode F) {input : IterationInput F}
    (polled : input.polled = true) (idle : input.command = {}) :
    node.pollTransport input = node := by
  simp [pollTransport, polled, idle, applyCommand, applyArm, applySetpoint, applyHeartbeat,
    applyConfig]

/-- A silent iteration of a node that never heard a frame ends in failsafe. -/
theorem iterate_silent {mix : Mix F} {s : RunState F} {heard : FrameBuffer × List AcceptedFrame}
    (listening : Listening s.node heard) (nothing : heard.2 = []) {input : IterationInput F}
    (polled : input.polled = true) (idle : input.command = {}) (silent : input.rx = []) :
    (s.iterate mix input).1.node.controller.armState = .failsafe := by
  have never : s.node.receiver.lastFrameUs = 0 := by
    have reading := listening.tracks.reading
    rw [nothing] at reading
    exact reading
  -- The link counts as lost, and a lost link raises the failsafe switch.
  have lost : s.node.receiver.hasLink input.linkUs receiverLinkTimeoutUs = false := by
    simp [Receiver.hasLink, never]
  obtain ⟨sample, supervised, raised, -⟩ := Receiver.superviseLink_lost lost
  have reported : (s.node.receiver.poll input.rx input.linkUs).2 = some sample := by
    rw [Receiver.poll_eq listening.backed, silent]
    simp [supervised]
  have piloted : (s.node.pollReceiver input).controller.armState = .failsafe := by
    simp only [pollReceiver, reported, Option.elim, applyReceiver, raised, if_true]
    exact enterFailsafe_armState _
  have before : (s.node.beforeControl input).controller.armState = .failsafe := by
    have unarmed : (s.node.pollReceiver input).controller.armState ≠ .armed := by simp [piloted]
    rw [beforeControl, pollTransport_idle _ polled idle, checkTimeouts_unarmed unarmed, piloted]
  rcases RunState.iterate_node_cases mix s input with
    ⟨-, same⟩ | ⟨-, -, failed⟩ | ⟨-, attitude, dtS, -, stepped⟩
  · rw [same, before]
  · rw [failed, enterFailsafe_armState]
  · rw [stepped, control_armState, before]

variable {boot : BootClock} {input : Nat → IterationInput F} {n : Nat} {frame : AcceptedFrame}

omit [FloatArith F] in
/-- Silent iterations leave nothing heard. -/
theorem FirstFrame.heardAt (start : FirstFrame boot input n frame) {k : Nat} (bound : k ≤ n) :
    heardAt input k = (.empty, []) := by
  -- The induction is on the iterations before the frame.
  induction k with
  | zero => rfl
  | succ k ih =>
    have before := ih (by omega)
    have silent := start.silent k (by omega)
    rw [heardAt_succ, acceptedIn, before, silent]
    rfl

/-- After the first silent iteration the node is in failsafe until the frame comes. -/
theorem FirstFrame.failsafe_of_pos (start : FirstFrame boot input n frame) (late : 0 < n)
    (mix : Mix F) :
    armStateAt mix boot input n = .failsafe := by
  obtain ⟨k, rfl⟩ : ∃ k, n = k + 1 := ⟨n - 1, by omega⟩
  -- The iteration right before the frame was silent, and nothing was heard before it.
  have listening := nodeAt_listening mix boot input k
  rw [start.heardAt (show k ≤ k + 1 by omega)] at listening
  exact iterate_silent listening rfl (start.polled k (by omega)) (start.commanded k (by omega))
    (start.silent k (by omega))

/-- In a first iteration that completes the frame, its sample is applied. -/
theorem FirstFrame.applied (start : FirstFrame boot input 0 frame) (mix : Mix F) :
    ∃ sample, Applied (nodeAt mix boot input 0).node (input 0) sample ∧
      sample.channels.us 2 = applyThrottleExpo 1000 (bootExpo : F) ∧
      ((nodeAt mix boot input 0).node.receiver.poll (input 0).rx (input 0).linkUs).1.lastFrameUs =
        frame.reading := by
  have idle := pollTransport_idle (nodeAt mix boot input 0).node (start.polled 0 le_rfl)
    (start.commanded 0 le_rfl)
  have listening := nodeAt_listening mix boot input 0
  -- The frame is the only one of this first read.
  have newest : (acceptFrames (nodeAt mix boot input 0).node.receiver.buffer
      (input 0).rx).2.getLast? = some frame := by
    rw [listening.buffer]
    show (acceptedIn input 0).getLast? = some frame
    rw [start.completes]
    rfl
  have polled := Receiver.poll_eq listening.backed (input 0).rx (input 0).linkUs
  simp only [newest] at polled
  refine ⟨_, ⟨by rw [idle, polled], ?_, ?_⟩, ?_, by rw [polled]; rfl⟩
  · simp [Receiver.sampleOf, listening.threshold, start.failsafe]
  · simpa [Receiver.sampleOf] using start.arm
  · simp only [Receiver.sampleOf, Receiver.shapeChannels_throttle, start.throttle]
    rfl

/-- The timeouts of a first iteration that completes the frame. -/
theorem FirstFrame.inTime_iff (start : FirstFrame boot input 0 frame) (mix : Mix F) :
    InTime (nodeAt mix boot input 0).node (input 0) ↔
      (input 0).safetyUs - (input 0).nowUs ≤ setpointTimeoutUs ∧
        (input 0).safetyUs - frame.reading ≤ receiverTimeoutUs := by
  have idle := pollTransport_idle (nodeAt mix boot input 0).node (start.polled 0 le_rfl)
    (start.commanded 0 le_rfl)
  obtain ⟨-, -, -, last⟩ := start.applied mix
  have fits := start.ordered.fits
  have started := start.ordered.nowUs_le_safetyUs le_rfl
  -- The frame was read after the start of the iteration, and before the timeouts.
  have accepted : frame ∈ acceptedIn input 0 := by simp [start.completes]
  obtain ⟨rx, member, same⟩ := acceptFrames_reading accepted
  have arrived := start.arrived rx member
  have received := start.ordered.received 0 le_rfl rx member
  have checked := start.ordered.checked 0 le_rfl
  have booted := start.booted
  have positive := start.positive
  have nonzero : frame.reading ≠ 0 := by omega
  have order : frame.reading ≤ (input 0).safetyUs := by omega
  constructor
  · intro inTime
    have setpoint := inTime.setpoint
    have link := inTime.link
    rw [clockSub, wrappingSub_of_le started fits] at setpoint
    simp only [idle, Receiver.hasLink, last, Bool.and_eq_true, decide_eq_true_eq, clockSub,
      wrappingSub_of_le order fits] at link
    exact ⟨setpoint, link.2⟩
  · rintro ⟨setpoint, link⟩
    refine ⟨?_, .inl ?_, ?_⟩
    · rwa [clockSub, wrappingSub_of_le started fits]
    · rw [idle]
      rfl
    · simp only [idle, Receiver.hasLink, last, Bool.and_eq_true, decide_eq_true_eq, clockSub,
        wrappingSub_of_le order fits, ne_eq]
      exact ⟨by simpa using nonzero, link⟩

/--
The pilot arms the node after start-up only with the very first iteration.

That iteration must complete the frame without stalling, and the throttle curve must leave the
lowest throttle low.
-/
theorem armed_iff_first_iteration (start : FirstFrame boot input n frame) (mix : Mix F) :
    armStateAt mix boot input (n + 1) = .armed ↔
      n = 0 ∧ (input n).safetyUs - (input n).nowUs ≤ setpointTimeoutUs ∧
        (input n).safetyUs - frame.reading ≤ receiverTimeoutUs ∧
        applyThrottleExpo 1000 (bootExpo : F) ≤ 1100 := by
  -- Without commands the receiver meets the state the iteration started with.
  have kept : (nodeAt mix boot input n).node.commandedArm (input n).polled (input n).command =
      armStateAt mix boot input n := by
    simp [commandedArm, start.polled n le_rfl, start.commanded n le_rfl, armStateAt]
  rw [armStateAt_succ_iff, kept]
  by_cases late : 0 < n
  · -- Failsafe is left by a command only.
    have stuck := start.failsafe_of_pos late mix
    constructor
    · intro ended
      obtain ⟨⟨-, sample, -, state⟩, -⟩ := ended
      rcases state with armed | ⟨disarmed, -⟩
      · rw [stuck] at armed
        cases armed
      · rw [stuck] at disarmed
        cases disarmed
    · intro early
      exact absurd early.1 (by omega)
  · obtain rfl : n = 0 := by omega
    obtain ⟨sample, applied, curve, -⟩ := start.applied mix
    -- The first iteration starts disarmed, so the low throttle is what arms.
    have disarmed : armStateAt mix boot input 0 = .disarmed :=
      Controller.setArmState_armState _ _
    rw [start.inTime_iff]
    constructor
    · intro ended
      obtain ⟨⟨⟨setpoint, link⟩, other, same, state⟩, -⟩ := ended
      have equal : sample = other := Option.some.inj (applied.1.symm.trans same.1)
      subst equal
      rcases state with armed | ⟨-, low⟩
      · rw [disarmed] at armed
        cases armed
      · exact ⟨rfl, setpoint, link, curve ▸ low⟩
    · intro early
      obtain ⟨-, setpoint, link, low⟩ := early
      exact ⟨⟨⟨setpoint, link⟩, sample, applied, .inr ⟨disarmed, curve ▸ low⟩⟩,
        .inr (start.sensed 0 le_rfl)⟩

/-- Bytes received on the bench, one iteration every millisecond. -/
def startBench (rx : Nat → List UInt8) (k : Nat) : IterationInput ℚ :=
  benchIteration (1000 * (k + 1)) {} (rx k)

/-- On the bench the iteration that completes the frame receives the first one. -/
theorem firstFrame_startBench {rx : Nat → List UInt8} {n : Nat} (early : n < 2 ^ 32)
    (silent : ∀ k < n, rx k = [])
    (completes : acceptedIn (startBench rx) n = [⟨flightChannels 1000, 1000 * (n + 1)⟩]) :
    FirstFrame ⟨500, 600⟩ (startBench rx) n ⟨flightChannels 1000, 1000 * (n + 1)⟩ where
  ordered := clockOrdered_bench (fun k below => by omega) (by omega)
  positive := by decide
  booted := ⟨by decide, show 600 ≤ 1000 by decide⟩
  arrived byte member := by
    obtain ⟨raw, -, same⟩ := List.mem_map.mp member
    exact same ▸ le_rfl
  polled _ _ := rfl
  commanded _ _ := rfl
  sensed _ _ := rfl
  silent k below := by rw [startBench, benchIteration, silent k below, List.map_nil]
  completes := completes
  arm := by simp [flightChannels, Channels.us]
  failsafe := by simp [flightChannels, Channels.us]
  throttle := by simp [flightChannels, Channels.us]

/-- With the frame in the first iteration the bench is armed. -/
theorem armed_iff_first_iteration_startBench :
    armStateAt Controller.mix ⟨500, 600⟩ (startBench fun _ => flightFrame 1000) 1 = .armed := by
  have start := @firstFrame_startBench (fun _ => flightFrame 1000) 0 (by decide)
    (fun k below => absurd below (Nat.not_lt_zero k)) (by decide +kernel)
  exact (armed_iff_first_iteration start Controller.mix).mpr
    ⟨rfl, by decide, by decide, by decide +kernel⟩

/-- After one silent iteration the same frame finds the node in failsafe. -/
theorem firstFrame_not_armed : ¬ ∀ (boot : BootClock) (input : Nat → IterationInput ℚ) (n : Nat)
    (frame : AcceptedFrame), FirstFrame boot input n frame →
      armStateAt Controller.mix boot input (n + 1) = .armed := by
  intro arms
  let rx : Nat → List UInt8 := fun k => if k = 0 then [] else flightFrame 1000
  -- The frame comes with the second iteration, after a silent one.
  have start : FirstFrame ⟨500, 600⟩ (startBench rx) 1 ⟨flightChannels 1000, 2000⟩ :=
    firstFrame_startBench (by decide) (fun k below => by simp [rx, Nat.lt_one_iff.mp below])
      (by decide +kernel)
  have stuck : armStateAt Controller.mix ⟨500, 600⟩ (startBench rx) 2 = .failsafe := by
    decide +kernel
  rw [arms _ _ 1 _ start] at stuck
  cases stuck

end StartUp

end AmpFc
