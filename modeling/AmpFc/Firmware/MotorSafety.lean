import AmpFc.Firmware.Poll

/-! Motor-output safety: what must hold in a poll that programs more than the idle pulse. -/

namespace AmpFc.Firmware

variable {F : Type} {rtos : RtosConfig} {input : Nat → TaskInput F} {n : Nat}

namespace WellTimed

/-- Polls start in order. -/
theorem now_mono (timed : WellTimed rtos input n) {j : Nat} :
    ∀ {k}, j ≤ k → k ≤ n → (input j).now ≤ (input k).now := by
  -- The induction is on the later poll.
  intro k order
  induction k, order using Nat.le_induction with
  | base =>
    intro _
    exact le_rfl
  | succ k later ih =>
    intro bound
    have earlier := ih (by omega)
    have started := timed.started k (by omega)
    have checked := timed.checked k (by omega)
    have reported := timed.reported k (by omega)
    have next := timed.next k (by omega)
    omega

/-- The speed-controller delay reads its ticks in order. -/
theorem escTick_mono (timed : WellTimed rtos input n) {j k : Nat} (order : j ≤ k)
    (bound : k ≤ n) : (input j).escTick ≤ (input k).escTick := by
  -- Between two different polls lies the start of the later one.
  by_cases same : j = k
  · rw [same]
  · have reported := timed.reported j (by omega)
    have next := timed.next j (by omega)
    have starts := timed.now_mono (j := j + 1) (k := k) (by omega) bound
    have started := timed.started k bound
    have checked := timed.checked k bound
    omega

/-- No reading up to poll `n` reaches the width of the counter. -/
theorem escTick_fits (timed : WellTimed rtos input n) {k : Nat} (bound : k ≤ n) :
    (input k).escTick < 2 ^ rtos.tickBits := by
  -- The last report is read after every other tick.
  have order := timed.escTick_mono bound le_rfl
  have reported := timed.reported n le_rfl
  have fits := timed.fits
  omega

/-- No poll up to poll `n` starts at the width of the counter. -/
theorem now_fits (timed : WellTimed rtos input n) : (input n).now < 2 ^ rtos.tickBits := by
  have started := timed.started n le_rfl
  have checked := timed.checked n le_rfl
  have fits := timed.escTick_fits (k := n) le_rfl
  omega

/-- A shorter run is well timed too. -/
theorem shorten (timed : WellTimed rtos input n) {m : Nat} (bound : m ≤ n) :
    WellTimed rtos input m where
  received k below := timed.received k (by omega)
  started k below := timed.started k (by omega)
  checked k below := timed.checked k (by omega)
  reported k below := timed.reported k (by omega)
  next k below := timed.next k (by omega)
  fits := by
    -- The last report of the shorter run precedes the start of the next poll.
    by_cases same : m = n
    · exact same ▸ timed.fits
    · have next := timed.next m (by omega)
      have starts := timed.now_mono (j := m + 1) (k := n) (by omega) le_rfl
      have fits := timed.now_fits
      omega

end WellTimed

variable [FloatArith F]

/-- A turn of the task keeps the poll's reception. -/
theorem beforePoll_succ_reception : (beforePoll rtos input (n + 1)).reception =
    receiveBytes (input n).now (beforePoll rtos input n).reception (input n).rx := by
  unfold beforePoll
  rw [stateAt_succ]
  -- A message may only change where the region lies.
  obtain ⟨phys, ready, turned⟩ :=
    cmdQuRunTask_frame rtos (stateAt (cmdQuRunTask rtos) boot input n) (input n)
  rw [turned]
  exact afterPoll_reception _ _ _

/-- A turn of the task keeps the poll's delay. -/
theorem beforePoll_succ_esc : (beforePoll rtos input (n + 1)).esc =
    escUpdateArmDelayOnce rtos (input n).escTick (beforePoll rtos input n).esc := by
  unfold beforePoll
  rw [stateAt_succ]
  -- Again the message does not matter.
  obtain ⟨phys, ready, turned⟩ :=
    cmdQuRunTask_frame rtos (stateAt (cmdQuRunTask rtos) boot input n) (input n)
  rw [turned]
  exact afterPoll_esc _ _ _

/-- The last frame that poll `n` accepts, with the number of the poll. -/
def frameEvent (rtos : RtosConfig) (input : Nat → TaskInput F) (n : Nat) :
    Option (Nat × Channels) :=
  -- Only the bytes within the budget are read.
  let before := (beforePoll rtos input n).reception
  (lastFrame before.parser before.ch ((input n).rx.take receiveBudget)).map fun frame =>
    (n, frame.1)

/-- The last frame accepted by the end of poll `n`, with the poll that accepted it. -/
def lastAccepted (rtos : RtosConfig) (input : Nat → TaskInput F) (n : Nat) :
    Option (Nat × Channels) :=
  latest (frameEvent rtos input) (n + 1)

/-- The reception shows a frame and the start tick of the poll that accepted it. -/
def ShowsAccepted (input : Nat → TaskInput F) (reception : Reception) :
    Option (Nat × Channels) → Prop
  -- Before the first frame the counter of good frames is zero.
  | none => reception.goodFrames = 0
  | some (k, ch) => reception.ch = ch ∧ reception.lastFrameTick = (input k).now

/-- The reception always shows the last accepted frame. -/
theorem beforePoll_shows (rtos : RtosConfig) (input : Nat → TaskInput F) (n : Nat) :
    ShowsAccepted input (beforePoll rtos input n).reception (latest (frameEvent rtos input) n) := by
  -- The induction is on the polls: each shows its own last frame, or leaves the picture as it was.
  induction n with
  | zero => rfl
  | succ n ih =>
    rw [beforePoll_succ_reception]
    have received := receiveByte_foldl (input n).now ((input n).rx.take receiveBudget)
      (beforePoll rtos input n).reception
    cases found : lastFrame (beforePoll rtos input n).reception.parser
        (beforePoll rtos input n).reception.ch ((input n).rx.take receiveBudget) with
    | some frame =>
      have event : frameEvent rtos input n = some (n, frame.1) := by
        simp [frameEvent, found]
      rw [latest_succ_some event]
      simp only [found] at received
      exact ⟨received.1, received.2.1⟩
    | none =>
      have event : frameEvent rtos input n = none := by
        simp [frameEvent, found]
      rw [latest_succ_none event]
      simp only [found] at received
      obtain ⟨sameCh, sameTick, _, sameCount⟩ := received
      cases shown : latest (frameEvent rtos input) n with
      | none =>
        simp only [shown, ShowsAccepted] at ih ⊢
        exact sameCount.trans ih
      | some frame =>
        simp only [shown, ShowsAccepted] at ih ⊢
        exact ⟨sameCh.trans ih.1, sameTick.trans ih.2⟩

/-- A poll that does not see failsafe holds a frame from a poll that started recently. -/
theorem recent_of_not_failsafe (timed : WellTimed rtos input n)
    (linked : failsafeOf rtos (beforePoll rtos input n) (input n).toPollInput = false) :
    ∃ k ch, lastAccepted rtos input n = some (k, ch) ∧ k ≤ n ∧
      ((input n).now - (input k).now) * 1000 ≤ 300 * rtos.tickRateHz ∧
      (receiveBytes (input n).now (beforePoll rtos input n).reception (input n).rx).ch = ch := by
  -- The state before the next poll shows what this poll received.
  have shows := beforePoll_shows rtos input (n + 1)
  rw [beforePoll_succ_reception] at shows
  simp only [failsafeOf, pollFailsafe, Bool.or_eq_false_iff, beq_eq_false_iff_ne,
    decide_eq_false_iff_not, Nat.not_lt] at linked
  obtain ⟨counted, recent⟩ := linked
  unfold lastAccepted
  cases accepted : latest (frameEvent rtos input) (n + 1) with
  | none =>
    rw [accepted] at shows
    exact absurd shows counted
  | some frame =>
    obtain ⟨k, ch⟩ := frame
    rw [accepted] at shows
    obtain ⟨m, below, source⟩ := latest_source accepted
    have number : m = k := by
      simp only [frameEvent, Option.map_eq_some_iff, Prod.mk.injEq] at source
      obtain ⟨_, _, number, _⟩ := source
      exact number
    refine ⟨k, ch, rfl, by omega, ?_, shows.1⟩
    -- The failsafe test subtracts ticks that did not wrap.
    rw [shows.2, tickSub, wrappingSub_of_le (timed.now_mono (by omega) le_rfl) timed.now_fits,
      le_pdMsToTicks] at recent
    exact recent

/-- The delay runs from a tick after `first`, and is done only if its time has passed by `tick`. -/
structure DelayHistory (rtos : RtosConfig) (first tick : Nat) (esc : Esc) : Prop where
  begun : esc.armStartTick ≠ 0 → first ≤ esc.armStartTick ∧ esc.armStartTick ≤ tick
  done : esc.armDelayDone = true → 3000 * rtos.tickRateHz ≤ (tick - first) * 1000

/-- One update of the delay extends its history. -/
theorem escUpdateArmDelayOnce_history {first tick now : Nat} {esc : Esc}
    (history : DelayHistory rtos first tick esc) (later : tick ≤ now) (after : first ≤ now)
    (fits : now < 2 ^ rtos.tickBits) :
    DelayHistory rtos first now (escUpdateArmDelayOnce rtos now esc) := by
  -- The update either begins the delay, or measures it from its start tick.
  unfold escUpdateArmDelayOnce
  by_cases idle : esc.armStartTick = 0
  · -- The delay begins with this tick.
    simp only [idle, if_true]
    exact ⟨fun _ => ⟨after, le_rfl⟩, fun impossible => by cases impossible⟩
  · obtain ⟨early, late⟩ := history.begun idle
    simp only [idle, if_false]
    refine ⟨fun _ => ⟨early, late.trans later⟩, fun finished => ?_⟩
    by_cases enough : elapsedMs rtos now esc.armStartTick ≥ escArmDelayMs
    · -- The time since the start tick is part of the time since `first`.
      have real := elapsedMs_real (late.trans later) fits enough
      simp only [escArmDelayMs] at real
      have longer : (now - esc.armStartTick) * 1000 ≤ (now - first) * 1000 :=
        Nat.mul_le_mul_right _ (by omega)
      exact real.trans longer
    · simp only [enough, if_false] at finished
      have longer : (tick - first) * 1000 ≤ (now - first) * 1000 :=
        Nat.mul_le_mul_right _ (by omega)
      exact (history.done finished).trans longer

/-- At the end of every poll the delay has its history since the first poll. -/
theorem delay_history (timed : WellTimed rtos input n) :
    DelayHistory rtos (input 0).escTick (input n).escTick
      (escUpdateArmDelayOnce rtos (input n).escTick (beforePoll rtos input n).esc) := by
  -- The induction is on the polls, each reading a later tick.
  induction n with
  | zero =>
    have boot : DelayHistory rtos (input 0).escTick (input 0).escTick
        (beforePoll rtos input 0).esc :=
      ⟨fun started => absurd rfl started, fun finished => by cases finished⟩
    exact escUpdateArmDelayOnce_history boot le_rfl le_rfl (timed.escTick_fits le_rfl)
  | succ n ih =>
    rw [beforePoll_succ_esc]
    exact escUpdateArmDelayOnce_history (ih (timed.shorten (by omega)))
      (timed.escTick_mono (by omega) le_rfl) (timed.escTick_mono (by omega) le_rfl)
      (timed.escTick_fits le_rfl)

/-- A gate that arms saw a low enough throttle and a high switch. -/
theorem afterGate_armed {fw : Firmware} {input : PollInput F}
    (armed : (afterGate rtos fw input).motor.armed = true) :
    (sticksOf rtos fw input).throttleUs ≤ 1350 ∧ (sticksOf rtos fw input).armSwitch = true := by
  unfold afterGate at armed
  rw [motorUpdateArmGate_eq] at armed
  simp only [gateHolds, gateOpen, Bool.and_eq_true, decide_eq_true_eq] at armed
  obtain ⟨⟨⟨⟨valid, -⟩, throttle⟩, switch⟩, -⟩ := armed
  -- A lost receiver would have entered the gate invalid.
  have fresh : freshnessLost rtos input.freshnessTick (beforeGate rtos fw input) = false := by
    by_contra lost
    rw [Bool.not_eq_false] at lost
    rw [(gateInput_lost lost).1] at valid
    cases valid
  rw [gateInput_fresh fresh] at throttle switch
  simp only [beforeGate_rc] at throttle switch
  exact ⟨throttle, switch⟩

/-- Everything that has to hold in poll `n` before a motor may get more than the idle pulse. -/
structure OutputJustified (rtos : RtosConfig) (input : Nat → TaskInput F) (n : Nat) : Prop where
  /-- The emergency latch is clear. -/
  emergencyClear : (afterPoll rtos (beforePoll rtos input n)
    (input n).toPollInput).shm.emergencyStopLatched = false
  /-- The last accepted frame is recent, with the arm switch high and the throttle low enough. -/
  frameRecent : ∃ k ch, lastAccepted rtos input n = some (k, ch) ∧ k ≤ n ∧
    ((input n).now - (input k).now) * 1000 ≤ 300 * rtos.tickRateHz ∧
    (ch.us 5).toNat > 1500 ∧ (ch.us 2).toNat ≤ 1350
  /-- The sensors are ready. -/
  sensorReady : (afterPoll rtos (beforePoll rtos input n)
    (input n).toPollInput).sensing.sensors.sensorReady = true
  /-- The arm latch is set. -/
  armLatched : (afterPoll rtos (beforePoll rtos input n) (input n).toPollInput).rc.armLatched = true
  /-- Three seconds have passed since the first poll. -/
  delayPassed : 3000 * rtos.tickRateHz ≤ ((input n).escTick - (input 0).escTick) * 1000

/-- Every programmed pulse is within the test range, and above idle only when it is justified. -/
theorem programmed_pulse_justified (timed : WellTimed rtos input n) {cfg : PwmConfiguration}
    (written : cfg ∈ programmed rtos (beforePoll rtos input n) (input n).toPollInput) :
    1000 * pwmNsPerUs ≤ cfg.pulse ∧ cfg.pulse ≤ 1500 * pwmNsPerUs ∧
      (1000 * pwmNsPerUs < cfg.pulse → OutputJustified rtos input n) := by
  -- The pulse is a limited one, so its bounds are those of the limiter.
  obtain ⟨us, pulse⟩ := programmed_pulse written
  obtain ⟨low, high⟩ := limitedPulseUs_bounds
    (afterDispatch rtos (beforePoll rtos input n) (input n).toPollInput).motor
    (escUpdateArmDelayOnce rtos (input n).escTick (beforePoll rtos input n).esc) us
  rw [pulse]
  refine ⟨Nat.mul_le_mul_right _ low, Nat.mul_le_mul_right _ high, fun above => ?_⟩
  obtain ⟨armed, -, done⟩ := limitedPulseUs_active (Nat.lt_of_mul_lt_mul_right above)
  -- Armed after the branches means armed by the gate, with no demand for safety.
  simp only [afterDispatch] at armed
  rw [dispatchOutputs_armed] at armed
  simp only [Bool.and_eq_true, Bool.not_eq_true', afterGate_sensing, afterGate_reception] at armed
  obtain ⟨⟨⟨clear, linked⟩, ready⟩, gated⟩ := armed
  obtain ⟨throttle, switch⟩ := afterGate_armed gated
  obtain ⟨k, ch, accepted, order, recent, shown⟩ := recent_of_not_failsafe timed linked
  -- Without failsafe the sticks are those of the frame that is shown.
  have counted : (receiveBytes (input n).now (beforePoll rtos input n).reception
      (input n).rx).goodFrames > 0 := by
    simp only [pollFailsafe, Bool.or_eq_false_iff, beq_eq_false_iff_ne] at linked
    exact UInt32.pos_iff_ne_zero.mpr linked.1
  simp only [sticksOf, failsafeOf, readSticks, linked, counted, shown, Bool.not_false,
    decide_true, Bool.and_self, if_true, decide_eq_true_eq, rcArmSwitchThresholdUs]
    at throttle switch
  exact {
    emergencyClear := by
      rw [(afterPoll_link _ _ _).1, ← (afterGate_link _ _ _).1]
      exact clear
    frameRecent := ⟨k, ch, accepted, order, recent, switch, throttle⟩
    sensorReady := by rw [afterPoll_sensing]; exact ready
    armLatched := by
      rw [afterPoll_rc]
      exact (motorUpdateArmGate_armed _ _ _).symm.trans gated
    delayPassed := (delay_history timed).done done }

/-- A bench run: calibration, then the switch low, then high, with the throttle down. -/
def armingBench (n : Nat) : TaskInput ℚ :=
  -- Polls start sixty ticks apart, and frames arrive only once calibration is over.
  benchPoll (60 * n + 60) (60 * n + 62)
    (if n < 52 then [] else benchFrame 1000 (if n < 53 then 1000 else 2000))
    (fun _ => .zeroed) none

/-- On the bench the motors do get more than the idle pulse, and that is justified. -/
theorem programmed_pulse_justified_bench :
    ⟨1, 3, 20000000, 1010000⟩ ∈ programmed benchRtos (beforePoll benchRtos armingBench 53)
        (armingBench 53).toPollInput ∧ OutputJustified benchRtos armingBench 53 := by
  -- Poll 53 is the first one after calibration that sees the switch high.
  have written : ⟨1, 3, 20000000, 1010000⟩ ∈ programmed benchRtos
      (beforePoll benchRtos armingBench 53) (armingBench 53).toPollInput := by decide +kernel
  have timed : WellTimed benchRtos armingBench 53 :=
    benchPoll_timed (fun k below => by omega) (fun k below => by omega) (by decide)
  exact ⟨written, (programmed_pulse_justified timed written).2.2 (by decide)⟩

end AmpFc.Firmware
