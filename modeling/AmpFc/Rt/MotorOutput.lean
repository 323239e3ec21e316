import AmpFc.Lib.Counter
import AmpFc.Rt.NodeInvariants

/-! Motor-output safety of the realtime node: what an armed iteration heard, and how recently. -/

namespace AmpFc

open FlightRtNode

variable {F : Type}

/-- The clock never runs backwards up to iteration `n`, and has not wrapped. -/
structure ClockOrdered (input : Nat → IterationInput F) (n : Nat) : Prop where
  received : ∀ k ≤ n, ∀ rx ∈ (input k).rx, rx.reading ≤ (input k).linkUs
  polled : ∀ k ≤ n, (input k).nowUs ≤ (input k).linkUs
  checked : ∀ k ≤ n, (input k).linkUs ≤ (input k).safetyUs
  controlled : ∀ k ≤ n, (input k).safetyUs ≤ (input k).controlUs
  next : ∀ k < n, (input k).controlUs ≤ (input (k + 1)).nowUs
  fits : (input n).safetyUs < 2 ^ 64

namespace ClockOrdered

variable {input : Nat → IterationInput F} {n : Nat}

/-- The receiver supervises its link at ever later readings. -/
theorem linkUs_mono (ordered : ClockOrdered input n) {j : Nat} :
    ∀ {k}, j ≤ k → k ≤ n → (input j).linkUs ≤ (input k).linkUs := by
  -- The induction is on the later iteration.
  intro k order
  induction k, order using Nat.le_induction with
  | base =>
    intro _
    exact le_rfl
  | succ k later ih =>
    intro bound
    have earlier := ih (by omega)
    have checked := ordered.checked k (by omega)
    have controlled := ordered.controlled k (by omega)
    have next := ordered.next k (by omega)
    have polled := ordered.polled (k + 1) bound
    omega

/-- An iteration starts before the timeouts of any later one are looked at. -/
theorem nowUs_le_safetyUs (ordered : ClockOrdered input n) {k : Nat} (bound : k ≤ n) :
    (input k).nowUs ≤ (input n).safetyUs := by
  have polled := ordered.polled k bound
  have later := ordered.linkUs_mono bound le_rfl
  have checked := ordered.checked n le_rfl
  omega

end ClockOrdered

section Histories

variable (input : Nat → IterationInput F)

/-- A heartbeat that a transport poll delivered, at the clock reading of its iteration. -/
def heartbeatReceived (k : Nat) : Option Nat :=
  if (input k).command.heartbeat.isSome then some (input k).nowUs else none

/-- A heartbeat that the node took over; one that comes with an emergency stop is dropped. -/
def heartbeatTaken (k : Nat) : Option Nat :=
  if (input k).command.emergencyStop then none else heartbeatReceived input k

/-- A heartbeat that was taken over carries the clock of its iteration. -/
theorem heartbeatTaken_reading {k reading : Nat} (taken : heartbeatTaken input k = some reading) :
    reading = (input k).nowUs := by
  -- Both guards let through nothing but the clock of the iteration.
  unfold heartbeatTaken heartbeatReceived at taken
  split at taken
  · cases taken
  · split at taken
    · exact (Option.some.inj taken).symm
    · cases taken

/-- The last clock that the receiver's poll reads in iteration `n`. -/
def receiverClock (n : Nat) : Nat :=
  -- The clock is read for each accepted frame, and otherwise to supervise the link.
  (acceptedIn input n).getLast?.elim (input n).linkUs AcceptedFrame.reading

/-- Frames heard were accepted in some iteration. -/
theorem heardAt_source {frame : AcceptedFrame} {n : Nat} (heard : frame ∈ (heardAt input n).2) :
    ∃ k < n, frame ∈ acceptedIn input k := by
  -- The induction is on the iterations, the last of which comes last.
  induction n with
  | zero => cases heard
  | succ n ih =>
    rcases List.mem_append.mp heard with before | now
    · obtain ⟨k, below, accepted⟩ := ih before
      exact ⟨k, by omega, accepted⟩
    · exact ⟨n, by omega, now⟩

/-- What is heard in an iteration is added to what was heard before. -/
theorem heardAt_succ (n : Nat) : heardAt input (n + 1) =
    ((acceptFrames (heardAt input n).1 (input n).rx).1,
      (heardAt input n).2 ++ acceptedIn input n) := rfl

/-- The last frame heard is the newest one accepted, or else the last one heard before. -/
theorem heardAt_succ_getLast? (n : Nat) : (heardAt input (n + 1)).2.getLast? =
    (acceptedIn input n).getLast?.or (heardAt input n).2.getLast? :=
  List.getLast?_append

/-- The last frame heard was read no later than the receiver's poll reads the clock. -/
theorem reading_le_receiverClock {n : Nat} (ordered : ClockOrdered input n) {frame : AcceptedFrame}
    (last : (heardAt input (n + 1)).2.getLast? = some frame) :
    frame.reading ≤ receiverClock input n := by
  rw [heardAt_succ_getLast?] at last
  unfold receiverClock
  cases newest : (acceptedIn input n).getLast? with
  | some accepted =>
    rw [newest] at last
    cases last
    exact le_rfl
  | none =>
    -- The frame is an older one, so its clock was read in an earlier iteration.
    rw [newest, Option.none_or] at last
    obtain ⟨k, below, accepted⟩ := heardAt_source input (List.mem_of_getLast? last)
    obtain ⟨rx, member, same⟩ := acceptFrames_reading accepted
    have read := ordered.received k (by omega) rx member
    have later := ordered.linkUs_mono (show k ≤ n by omega) le_rfl
    show frame.reading ≤ (input n).linkUs
    omega

end Histories

variable [FloatArith F]

/-- The sample that the receiver's poll reports in iteration `k`. -/
def sampleAt (mix : Mix F) (boot : BootClock) (input : Nat → IterationInput F) (k : Nat) :
    Option ReceiverSample :=
  let node := (nodeAt mix boot input k).node.pollTransport (input k)
  (node.receiver.poll (input k).rx (input k).linkUs).2

/-- A setpoint that iteration `k` took over, from the transport or from the pilot. -/
def setpointTaken (mix : Mix F) (boot : BootClock) (input : Nat → IterationInput F) (k : Nat) :
    Option Nat :=
  let command := (input k).command
  -- A setpoint comes with a command without emergency stop, or with a good sample.
  let commanded := !command.emergencyStop && command.setpoint.isSome
  let piloted := (sampleAt mix boot input k).any fun sample =>
    !sample.failsafeSwitch && sample.linkOk
  if commanded || piloted then some (input k).nowUs else none

/-- What justifies an armed node at the end of iteration `n`, given the heartbeat to look at. -/
structure ArmedJustified (mix : Mix F) (boot : BootClock) (input : Nat → IterationInput F)
    (n : Nat) (heartbeat : Option Nat) : Prop where
  frame : ∃ frame, (heardAt input (n + 1)).2.getLast? = some frame ∧
    frame.channels.us 4 > 1500 ∧ frame.channels.us 5 ≤ 1500 ∧
    frame.reading ≤ receiverClock input n ∧
    receiverClock input n - frame.reading ≤ receiverLinkTimeoutUs
  setpoint : ∃ taken, latest (setpointTaken mix boot input) (n + 1) = some taken ∧
    taken ≤ (input n).safetyUs ∧ (input n).safetyUs - taken ≤ setpointTimeoutUs
  heartbeat : ∀ taken, heartbeat = some taken →
    taken ≤ (input n).safetyUs ∧ (input n).safetyUs - taken ≤ heartbeatTimeoutUs

/-- Motors turn only while armed, and the node is armed only with a justification. -/
def MotorSafe (mix : Mix F) (boot : BootClock) (input : Nat → IterationInput F) (n : Nat)
    (heartbeat : Option Nat) : Prop :=
  let node := (nodeAt mix boot input (n + 1)).node
  ((∃ motor : Fin 4, node.actuator.lastPwm.get motor > 1000) → node.controller.armState = .armed) ∧
    (node.controller.armState = .armed → ArmedJustified mix boot input n heartbeat)

variable (mix : Mix F) (boot : BootClock) (input : Nat → IterationInput F)

/-- A command's heartbeat is remembered unless it comes with an emergency stop. -/
theorem pollTransport_lastHeartbeatUs (node : FlightRtNode F) (k : Nat) :
    (node.pollTransport (input k)).lastHeartbeatUs =
      (heartbeatTaken input k).getD node.lastHeartbeatUs := by
  -- No other part of a command writes the time of the heartbeat.
  have configured : ∀ (node : FlightRtNode F) config,
      (node.applyConfig config).lastHeartbeatUs = node.lastHeartbeatUs := by
    intro node config
    cases config <;> rfl
  have before : ∀ (node : FlightRtNode F) arm nowUs setpoint,
      ((node.applyArm arm).applySetpoint nowUs setpoint).lastHeartbeatUs =
        node.lastHeartbeatUs := by
    intro node arm nowUs setpoint
    cases arm <;> cases setpoint <;> rfl
  have entered : (if !(input k).polled then node.enterFailsafe else node).lastHeartbeatUs =
      node.lastHeartbeatUs := by
    cases (input k).polled <;> rfl
  unfold pollTransport applyCommand heartbeatTaken heartbeatReceived
  cases (input k).command.emergencyStop with
  | true => exact entered
  | false =>
    simp only [Bool.false_eq_true, if_false, configured]
    cases (input k).command.heartbeat with
    | none => exact (before _ _ _ _).trans entered
    | some heartbeat => rfl

/-- Only the transport's turn can bring a heartbeat. -/
theorem nodeAt_succ_lastHeartbeatUs (n : Nat) :
    (nodeAt mix boot input (n + 1)).node.lastHeartbeatUs =
      ((nodeAt mix boot input n).node.pollTransport (input n)).lastHeartbeatUs := by
  have present := pollTransport_hasBackend (nodeAt_listening mix boot input n).backed (input n)
  exact (RunState.iterate_frame mix _ (input n)).2.trans (pollReceiver_frame present (input n)).2

/-- The node remembers the last heartbeat it took over, or zero for none. -/
theorem nodeAt_lastHeartbeatUs (n : Nat) : (nodeAt mix boot input n).node.lastHeartbeatUs =
    (latest (heartbeatTaken input) n).getD 0 := by
  -- The induction is on the iterations, each of which may take one over.
  induction n with
  | zero => rfl
  | succ n ih =>
    rw [nodeAt_succ_lastHeartbeatUs, pollTransport_lastHeartbeatUs input, ih]
    cases taken : heartbeatTaken input n with
    | none => rw [latest_succ_none taken, Option.getD_none]
    | some reading => rw [latest_succ_some taken, Option.getD_some, Option.getD_some]

/-- An armed iteration heard a frame with the right switches, and recently. -/
theorem armed_frame {n : Nat} (ordered : ClockOrdered input n) {sample : ReceiverSample}
    (applied : Applied (nodeAt mix boot input n).node (input n) sample) :
    ∃ frame, (heardAt input (n + 1)).2.getLast? = some frame ∧
      frame.channels.us 4 > 1500 ∧ frame.channels.us 5 ≤ 1500 ∧
      frame.reading ≤ receiverClock input n ∧
      receiverClock input n - frame.reading ≤ receiverLinkTimeoutUs := by
  obtain ⟨polled, clear, high⟩ := applied
  have listening := (nodeAt_listening mix boot input n).pollTransport (input n)
  -- A high switch under a low failsafe switch can only come from a frame.
  obtain ⟨frame, last, arm, failsafe, recent⟩ :=
    Receiver.poll_armed listening.backed listening.tracks polled clear high
  rw [listening.buffer] at last recent
  rw [listening.threshold] at failsafe
  have heard : (heardAt input (n + 1)).2.getLast? = some frame :=
    (heardAt_succ_getLast? input n).trans last
  have order := reading_le_receiverClock input ordered heard
  refine ⟨frame, heard, arm, failsafe, order, ?_⟩
  cases newest : (acceptedIn input n).getLast? with
  | some accepted =>
    -- A frame accepted in this iteration is the last clock the poll read.
    have same : accepted = frame := by
      rw [heardAt_succ_getLast?, newest] at heard
      exact Option.some.inj heard
    have now : receiverClock input n = frame.reading := by
      rw [receiverClock, newest, same]
      rfl
    omega
  | none =>
    have supervised : receiverClock input n = (input n).linkUs := by
      rw [receiverClock, newest]
      rfl
    have young := recent.resolve_left (not_not.mpr (List.getLast?_eq_none_iff.mp newest))
    have fits : (input n).linkUs < 2 ^ 64 :=
      lt_of_le_of_lt (ordered.checked n le_rfl) ordered.fits
    rw [supervised] at order ⊢
    rwa [clockSub, wrappingSub_of_le order fits] at young

/-- An armed iteration took its setpoint from the pilot. -/
theorem armed_setpoint {n : Nat} {sample : ReceiverSample}
    (applied : Applied (nodeAt mix boot input n).node (input n) sample) :
    setpointTaken mix boot input n = some (input n).nowUs := by
  obtain ⟨polled, clear, -⟩ := applied
  -- An armed iteration applied a sample from a live link.
  have present := pollTransport_hasBackend (nodeAt_listening mix boot input n).backed (input n)
  obtain ⟨linked, -⟩ := Receiver.poll_clear present polled clear
  have reported : sampleAt mix boot input n = some sample := polled
  simp [setpointTaken, reported, clear, linked]

/--
Motor-output safety.

At the end of every iteration the motors turn only while armed. The node is armed only if the
last frame has its switches set for flight and is recent, the last setpoint is recent, and so is
the last heartbeat, unless it was taken over at clock zero.
-/
theorem motorSafe_of_ordered (n : Nat) (ordered : ClockOrdered input n) :
    MotorSafe mix boot input n ((latest (heartbeatTaken input) (n + 1)).filter (· ≠ 0)) := by
  constructor
  · rintro ⟨motor, turning⟩
    -- A node that is not armed told its motors to idle.
    by_contra unarmed
    have idle := (nodeAt_quiet mix boot input (n + 1)).idle unarmed
    rw [idle] at turning
    have low : idlePwm.get motor = 1000 := Vector.getElem_replicate motor.isLt
    rw [low] at turning
    exact absurd turning (by decide)
  · intro armed
    -- The timeouts were checked in this very iteration, on what it had taken over by then.
    have listening := nodeAt_listening mix boot input n
    have before := ((RunState.iterate_armed_iff mix _ (input n)).mp armed).1
    obtain ⟨inTime, sample, applied, -⟩ :=
      (beforeControl_armed_iff listening.backed (input n)).mp before
    have taken := armed_setpoint mix boot input applied
    have fits := ordered.fits
    have started := ordered.nowUs_le_safetyUs le_rfl
    refine ⟨armed_frame mix boot input ordered applied, ?_, ?_⟩
    · refine ⟨(input n).nowUs, latest_succ_some taken, started, ?_⟩
      have recent := inTime.setpoint
      rwa [clockSub, wrappingSub_of_le started fits] at recent
    · intro reading counted
      obtain ⟨last, positive⟩ := Option.filter_eq_some_iff.mp counted
      -- A heartbeat taken at a positive clock is remembered as it is.
      have remembered := nodeAt_lastHeartbeatUs mix boot input (n + 1)
      rw [nodeAt_succ_lastHeartbeatUs, last, Option.getD_some] at remembered
      have recent := inTime.heartbeat
      rw [remembered] at recent
      obtain ⟨k, below, event⟩ := latest_source last
      have order : reading ≤ (input n).safetyUs := by
        rw [heartbeatTaken_reading input event]
        exact ordered.nowUs_le_safetyUs (by omega)
      have young := recent.resolve_left (by simpa using positive)
      rw [clockSub, wrappingSub_of_le order fits] at young
      exact ⟨order, young⟩

/-- An iteration on the bench, whose clock stands still. -/
def benchIteration (clock : Nat) (command : IncomingCommand ℚ) (rx : List UInt8) :
    IterationInput ℚ where
  nowUs := clock
  polled := true
  command := command
  rx := rx.map fun byte => ⟨byte, clock⟩
  linkUs := clock
  safetyUs := clock
  controlUs := clock
  sensed := some ⟨0, 0, 0, 0, 0, 0⟩
  reportUs := clock

/-- A throttle with centred sticks, the arm switch high, and the failsafe switch low. -/
def flightChannels (throttle : UInt16) : Channels :=
  ((Vector.replicate 14 1500).setIfInBounds 2 throttle).setIfInBounds 4 1700

/-- The frame that carries these channels. -/
def flightFrame (throttle : UInt16) : List UInt8 := encodeIbusFrame (flightChannels throttle)

/-- On the bench the clock is ordered as soon as the iterations are. -/
theorem clockOrdered_bench {clock : Nat → Nat} {command : Nat → IncomingCommand ℚ}
    {rx : Nat → List UInt8} {n : Nat} (next : ∀ k < n, clock k ≤ clock (k + 1))
    (fits : clock n < 2 ^ 64) :
    ClockOrdered (fun k => benchIteration (clock k) (command k) (rx k)) n where
  received k _ byte member := by
    obtain ⟨raw, -, same⟩ := List.mem_map.mp member
    exact same ▸ le_rfl
  polled _ _ := le_rfl
  checked _ _ := le_rfl
  controlled _ _ := le_rfl
  next := next
  fits := fits

/-- A pilot who flies from the first iteration on. -/
def flightBench (k : Nat) : IterationInput ℚ :=
  benchIteration (1000 * (k + 1)) {} (flightFrame 1000)

/-- The bench flies, and its motors are safe. -/
theorem motorSafe_of_ordered_flight :
    armStateAt Controller.mix ⟨500, 600⟩ flightBench 3 = .armed ∧
      MotorSafe Controller.mix ⟨500, 600⟩ flightBench 2
        ((latest (heartbeatTaken flightBench) 3).filter (· ≠ 0)) := by
  refine ⟨by decide +kernel, motorSafe_of_ordered Controller.mix ⟨500, 600⟩ flightBench 2 ?_⟩
  exact clockOrdered_bench (fun k below => by omega) (by decide)

/-- A first command at some clock, and later an arm command next to a flying pilot. -/
def staleBench (clock : Nat) (first : IncomingCommand ℚ) (k : Nat) : IterationInput ℚ :=
  benchIteration (clock + 600000 * k) (if k = 0 then first else { arm := some { state := 1 } })
    (if k = 0 then [] else flightFrame 1000)

/-- A clock that stands still never goes back. -/
theorem clockOrdered_staleBench {clock : Nat} (early : clock < 2 ^ 32)
    (first : IncomingCommand ℚ) : ClockOrdered (staleBench clock first) 1 :=
  clockOrdered_bench (fun k below => by omega) (by omega)

/--
The age of a received heartbeat is not always bounded.

A heartbeat taken over at clock zero passes for none, and one delivered with an emergency stop is
dropped; neither exception covers the other.
-/
theorem motorSafe_staleBench :
    (¬ ∀ (boot : BootClock) (input : Nat → IterationInput ℚ) (n : Nat), ClockOrdered input n →
      MotorSafe Controller.mix boot input n (latest (heartbeatReceived input) (n + 1))) ∧
    (¬ ∀ (boot : BootClock) (input : Nat → IterationInput ℚ) (n : Nat), ClockOrdered input n →
      MotorSafe Controller.mix boot input n (latest (heartbeatTaken input) (n + 1))) ∧
    ¬ ∀ (boot : BootClock) (input : Nat → IterationInput ℚ) (n : Nat), ClockOrdered input n →
      MotorSafe Controller.mix boot input n
        ((latest (heartbeatReceived input) (n + 1)).filter (· ≠ 0)) := by
  let heartbeat : IncomingCommand ℚ := { heartbeat := some ⟨0, 1⟩ }
  let dropped : IncomingCommand ℚ := { heartbeat := some ⟨0, 1⟩, emergencyStop := true }
  have zeroClock : armStateAt Controller.mix ⟨0, 0⟩ (staleBench 0 heartbeat) 2 = .armed := by
    decide +kernel
  have emergency : armStateAt Controller.mix ⟨1, 1⟩ (staleBench 1 dropped) 2 = .armed := by
    decide +kernel
  have early := clockOrdered_staleBench (show 0 < 2 ^ 32 by decide) heartbeat
  have late := clockOrdered_staleBench (show 1 < 2 ^ 32 by decide) dropped
  -- In either run the node is armed again, six hundred milliseconds after the heartbeat.
  refine ⟨?_, ?_, ?_⟩
  · intro safe
    have recent := ((safe ⟨0, 0⟩ (staleBench 0 heartbeat) 1 early).2 zeroClock).heartbeat 0 rfl
    exact absurd recent.2 (by decide)
  · intro safe
    have recent := ((safe ⟨0, 0⟩ (staleBench 0 heartbeat) 1 early).2 zeroClock).heartbeat 0 rfl
    exact absurd recent.2 (by decide)
  · intro safe
    have recent := ((safe ⟨1, 1⟩ (staleBench 1 dropped) 1 late).2 emergency).heartbeat 1 rfl
    exact absurd recent.2 (by decide)

end AmpFc
