import AmpFc.Firmware.MotorSafety

/-! The arm latch over whole runs: its exact history, and what a lost receiver demands. -/

namespace AmpFc.Firmware

variable {F : Type} [FloatArith F]

section History

variable (rtos : RtosConfig) (input : Nat → TaskInput F)

/-- The state in which the gate of poll `n` returns. -/
def gateAt (n : Nat) : Firmware :=
  afterGate rtos (beforePoll rtos input n) (input n).toPollInput

/-- The state in which the gate of poll `n` decides, after the freshness check. -/
def gateEntry (n : Nat) : Firmware :=
  gateInput rtos (input n).freshnessTick
    (beforeGate rtos (beforePoll rtos input n) (input n).toPollInput)

/-- The freshness check of poll `n` finds the receiver lost. -/
def LostAt (n : Nat) : Prop :=
  freshnessLost rtos (input n).freshnessTick
    (beforeGate rtos (beforePoll rtos input n) (input n).toPollInput) = true

/-- Poll `n` reads the arm switch low with receiver, sensors, and throttle in order. -/
def LowSeenAt (n : Nat) : Prop :=
  gateOpen (gateEntry rtos input n) = true ∧ (gateEntry rtos input n).rc.armSwitch = false

/-- Poll `n` reads the arm switch high with receiver, sensors, and throttle in order. -/
def HoldsAt (n : Nat) : Prop :=
  gateHolds (gateEntry rtos input n) = true

/-- The gate of poll `n` as one equation. -/
theorem gateAt_eq (n : Nat) : gateAt rtos input n =
    let f := gateEntry rtos input n
    let latched := gateHolds f && (f.rc.armLatched || gateRequests f)
    { f with
      rc := { f.rc with
        armAllowed := latched
        armLatched := latched
        seenArmLow := f.rc.seenArmLow || (gateOpen f && !f.rc.armSwitch)
        prevArmSwitch := f.rc.armSwitch }
      motor := { f.motor with armed := latched } } :=
  motorUpdateArmGate_eq rtos (input n).freshnessTick _

/-- The gate leaves the link as it found it, -/
@[simp] theorem gateAt_valid (n : Nat) :
    (gateAt rtos input n).rc.valid = (gateEntry rtos input n).rc.valid := by
  rw [gateAt_eq]

/-- the switch as well, -/
@[simp] theorem gateAt_armSwitch (n : Nat) :
    (gateAt rtos input n).rc.armSwitch = (gateEntry rtos input n).rc.armSwitch := by
  rw [gateAt_eq]

/-- and the throttle. -/
@[simp] theorem gateAt_throttleUs (n : Nat) :
    (gateAt rtos input n).rc.throttleUs = (gateEntry rtos input n).rc.throttleUs := by
  rw [gateAt_eq]

/-- What the gate remembers is still there when the next poll starts. -/
theorem beforePoll_succ_rc (n : Nat) :
    (beforePoll rtos input (n + 1)).rc = (gateAt rtos input n).rc := by
  unfold beforePoll
  rw [stateAt_succ]
  obtain ⟨phys, ready, turned⟩ :=
    cmdQuRunTask_frame rtos (stateAt (cmdQuRunTask rtos) boot input n) (input n)
  -- Neither the rest of the poll nor a message touches the receiver variables.
  rw [turned]
  exact afterPoll_rc _ _ _

/-- Reading the sticks leaves the memory of the gate alone. -/
theorem readSticks_memory (failsafe : Bool) (reception : Reception) (rc : Rc) :
    (readSticks failsafe reception rc).seenArmLow = rc.seenArmLow ∧
      (readSticks failsafe reception rc).armLatched = rc.armLatched ∧
      (readSticks failsafe reception rc).prevArmSwitch = rc.prevArmSwitch := by
  unfold readSticks
  split <;> exact ⟨rfl, rfl, rfl⟩

/-- The gate decides with the memory the poll started with, unless the receiver was lost. -/
theorem gateEntry_memory {n : Nat} (fresh : ¬ LostAt rtos input n) :
    (gateEntry rtos input n).rc.seenArmLow = (beforePoll rtos input n).rc.seenArmLow ∧
      (gateEntry rtos input n).rc.armLatched = (beforePoll rtos input n).rc.armLatched ∧
      (gateEntry rtos input n).rc.prevArmSwitch = (beforePoll rtos input n).rc.prevArmSwitch := by
  -- A fresh receiver passes the freshness check with its memory intact.
  have entered := gateInput_fresh (Bool.not_eq_true _ ▸ fresh)
  unfold gateEntry
  rw [entered]
  simp only [beforeGate_rc]
  exact readSticks_memory _ _ _

/-- The previous switch position survives even a loss. -/
theorem gateEntry_prev (n : Nat) :
    (gateEntry rtos input n).rc.prevArmSwitch = (beforePoll rtos input n).rc.prevArmSwitch := by
  -- The freshness check writes it in none of its branches.
  have checked : ∀ fw : Firmware, (gateInput rtos (input n).freshnessTick fw).rc.prevArmSwitch =
      fw.rc.prevArmSwitch := by
    intro fw
    unfold gateInput rcUpdateFreshnessOnce
    split
    · rfl
    · simp only
      split <;> rfl
  unfold gateEntry
  rw [checked, beforeGate_rc]
  exact (readSticks_memory _ _ _).2.2

/-- A poll whose gate is open did not find the receiver lost. -/
theorem fresh_of_open {n : Nat} (opened : gateOpen (gateEntry rtos input n) = true) :
    ¬ LostAt rtos input n := by
  -- A loss invalidates the receiver, and the gate is closed to an invalid one.
  intro lost
  have invalid := (gateInput_lost lost).1
  simp only [gateOpen, gateEntry, invalid, Bool.false_and, Bool.false_eq_true] at opened

/-- A lost poll forgets the low switch before it decides. -/
theorem seenArmLow_of_lost {n : Nat} (lost : LostAt rtos input n) :
    (gateEntry rtos input n).rc.seenArmLow = false :=
  (gateInput_lost lost).2.1

/-- Whether the low switch is remembered after poll `n`. -/
theorem seenArmLow_iff (n : Nat) : (gateAt rtos input n).rc.seenArmLow = true ↔
    (gateEntry rtos input n).rc.seenArmLow = true ∨ LowSeenAt rtos input n := by
  rw [gateAt_eq]
  simp [LowSeenAt]

/-- The low switch is remembered exactly since it was last seen, as long as nothing was lost. -/
theorem seenArmLow_iff_since (n : Nat) : (gateAt rtos input n).rc.seenArmLow = true ↔
    Since (LowSeenAt rtos input) (fun k => ¬ LostAt rtos input k) n := by
  -- The flag is a latch: a low switch sets it, and a loss is all that clears it.
  refine latch_iff_since (fun n => (gateAt rtos input n).rc.seenArmLow = true) _ _ ?_ ?_ n
  · -- After boot nothing is remembered, whether or not the first poll finds a loss.
    have forgotten : (gateEntry rtos input 0).rc.seenArmLow = false := by
      by_cases lost : LostAt rtos input 0
      · exact seenArmLow_of_lost rtos input lost
      · exact (gateEntry_memory rtos input lost).1
    simp [seenArmLow_iff, forgotten]
  · intro n
    rw [seenArmLow_iff]
    -- Without a loss the next gate starts from what this one remembered.
    by_cases lost : LostAt rtos input (n + 1)
    · simp [seenArmLow_of_lost rtos input lost, lost]
    · rw [(gateEntry_memory rtos input lost).1, beforePoll_succ_rc]
      simp [lost, or_comm]

/-- The gate of poll `m` is asked to latch: low throttle, rising switch, low switch remembered. -/
theorem requests_iff (m : Nat) :
    (HoldsAt rtos input m ∧ gateRequests (gateEntry rtos input m) = true) ↔
      HoldsAt rtos input m ∧ (gateEntry rtos input m).rc.throttleUs ≤ 1100 ∧
        (∀ j, m = j + 1 → (gateAt rtos input j).rc.armSwitch = false) ∧
        ∃ k < m, LowSeenAt rtos input k ∧ ∀ i, k < i → i ≤ m → ¬ LostAt rtos input i := by
  -- An open gate is a fresh one, so it decides with the memory the poll started with.
  refine and_congr_right fun holds => ?_
  have opened : gateOpen (gateEntry rtos input m) = true := by
    simp only [HoldsAt, gateHolds, Bool.and_eq_true] at holds
    exact holds.1
  have fresh := fresh_of_open rtos input opened
  simp only [gateRequests, Bool.and_eq_true, decide_eq_true_eq, Bool.not_eq_true']
  rw [(gateEntry_memory rtos input fresh).1, gateEntry_prev]
  refine and_congr_right fun _ => ?_
  cases m with
  | zero =>
    -- In the first poll nothing has been remembered yet.
    have boot : (beforePoll rtos input 0).rc.seenArmLow = false := rfl
    simp [boot]
  | succ m =>
    -- That memory was left by the gate of the poll before.
    rw [beforePoll_succ_rc, seenArmLow_iff_since]
    have remembered : (gateAt rtos input m).rc.prevArmSwitch =
        (gateAt rtos input m).rc.armSwitch := by
      rw [gateAt_eq]
    rw [remembered, and_comm]
    constructor
    · rintro ⟨low, k, bound, seen, kept⟩
      refine ⟨fun j same => ?_, k, by omega, seen, fun i after below => ?_⟩
      · obtain rfl : m = j := by omega
        exact low
      · by_cases now : i = m + 1
        · exact now ▸ fresh
        · exact kept i after (by omega)
    · rintro ⟨low, k, bound, seen, kept⟩
      exact ⟨low m rfl, k, by omega, seen, fun i after below => kept i after (by omega)⟩

/-- The latch after poll `n`, from the latch before it. -/
theorem armLatched_step (n : Nat) : (gateAt rtos input n).rc.armLatched = true ↔
    (HoldsAt rtos input n ∧ gateRequests (gateEntry rtos input n) = true) ∨
      (HoldsAt rtos input n ∧ (beforePoll rtos input n).rc.armLatched = true) := by
  rw [gateAt_eq]
  simp only [Bool.and_eq_true, Bool.or_eq_true, ← and_or_left, or_comm, HoldsAt]
  refine and_congr_right fun holds => ?_
  -- A gate that holds is open, so it has not lost the latch it started with.
  have opened : gateOpen (gateEntry rtos input n) = true := by
    simp only [gateHolds, Bool.and_eq_true] at holds
    exact holds.1
  rw [(gateEntry_memory rtos input (fresh_of_open rtos input opened)).2.1]

/--
The exact history of the arm latch.

It is set after poll `n` exactly when some poll `m` saw the switch rise with the throttle low,
after a low switch that no loss has erased, and every poll since then kept the gate's conditions.
-/
theorem armLatched_iff_history (n : Nat) : (gateAt rtos input n).rc.armLatched = true ↔
    ∃ m ≤ n,
      ((gateEntry rtos input m).rc.throttleUs ≤ 1100 ∧
        (gateEntry rtos input m).rc.armSwitch = true) ∧
      (∀ j, m = j + 1 → (gateAt rtos input j).rc.armSwitch = false) ∧
      (∃ k < m, LowSeenAt rtos input k ∧ ∀ i, k < i → i ≤ m → ¬ LostAt rtos input i) ∧
      ∀ i, m ≤ i → i ≤ n → HoldsAt rtos input i := by
  -- The latch starts where the gate is asked to latch and is kept where its conditions hold.
  have history := latch_iff_since
    (fun n => (gateAt rtos input n).rc.armLatched = true)
    (fun m => HoldsAt rtos input m ∧ gateRequests (gateEntry rtos input m) = true)
    (HoldsAt rtos input)
    (by
      have boot : (beforePoll rtos input 0).rc.armLatched = false := rfl
      simp [armLatched_step, boot])
    (fun n => by rw [armLatched_step, beforePoll_succ_rc])
    n
  -- What remains is to spell out the request in terms of sticks and earlier polls.
  refine history.trans ?_
  constructor
  · rintro ⟨m, bound, started, kept⟩
    obtain ⟨holds, low, rising, seen⟩ := (requests_iff rtos input m).mp started
    have switch : (gateEntry rtos input m).rc.armSwitch = true := by
      simp only [HoldsAt, gateHolds, Bool.and_eq_true] at holds
      exact holds.2
    refine ⟨m, bound, ⟨low, switch⟩, rising, seen, fun i after below => ?_⟩
    by_cases now : i = m
    · exact now ▸ holds
    · exact kept i (by omega) below
  · rintro ⟨m, bound, ⟨low, _⟩, rising, seen, kept⟩
    exact ⟨m, bound, (requests_iff rtos input m).mpr ⟨kept m le_rfl bound, low, rising, seen⟩,
      fun i after below => kept i (by omega) below⟩

end History

section Reconnect

variable (rtos : RtosConfig) (input : Nat → TaskInput F)

/-- Poll `n` reads the arm switch low while the receiver is valid. -/
def ReadsLow (n : Nat) : Prop :=
  (gateAt rtos input n).rc.valid = true ∧ (gateAt rtos input n).rc.armSwitch = false

/-- After a poll that leaves the receiver invalid, no poll ends armed before a low switch. -/
def ReconnectRule : Prop :=
  ∀ p q, p < q → (gateAt rtos input p).rc.valid = false →
    (∀ i, p < i → i < q → ¬ ReadsLow rtos input i) →
    (afterPoll rtos (beforePoll rtos input q) (input q).toPollInput).motor.armed = false

/--
A poll between the two tests for a lost receiver.

The poll's own test fails the link, the freshness check still finds the frame recent, and the
low switch is remembered from before.
-/
def BoundaryPoll (n : Nat) : Prop :=
  failsafeOf rtos (beforePoll rtos input n) (input n).toPollInput = true ∧
    ¬ LostAt rtos input n ∧ (beforePoll rtos input n).rc.seenArmLow = true

/-- Nothing of an earlier arming is left after poll `n`. -/
def Forgotten (n : Nat) : Prop :=
  (gateAt rtos input n).rc.seenArmLow = false ∧ (gateAt rtos input n).rc.armLatched = false

variable {rtos input}

/-- A gate that decides without memory of a low switch or of a latch does not arm. -/
theorem gateAt_unarmed {n : Nat} (unseen : (gateEntry rtos input n).rc.seenArmLow = false)
    (unlatched : (gateEntry rtos input n).rc.armLatched = false) :
    (gateAt rtos input n).rc.armLatched = false ∧ (gateAt rtos input n).motor.armed = false := by
  -- Neither the latch nor a new request can contribute.
  rw [gateAt_eq]
  simp [gateRequests, unseen, unlatched]

/-- Memory that is gone before a poll is gone when its gate decides. -/
theorem gateEntry_forgotten {n : Nat} (unseen : (beforePoll rtos input n).rc.seenArmLow = false)
    (unlatched : (beforePoll rtos input n).rc.armLatched = false) :
    (gateEntry rtos input n).rc.seenArmLow = false ∧
      (gateEntry rtos input n).rc.armLatched = false := by
  -- A loss clears both anyway, and otherwise both are as the poll found them.
  by_cases lost : LostAt rtos input n
  · exact ⟨(gateInput_lost lost).2.1, (gateInput_lost lost).2.2.1⟩
  · obtain ⟨seen, latched, -⟩ := gateEntry_memory rtos input lost
    exact ⟨seen.trans unseen, latched.trans unlatched⟩

/-- A receiver that is invalid without being lost failed the poll's own test. -/
theorem failsafe_of_invalid {n : Nat} (fresh : ¬ LostAt rtos input n)
    (invalid : (gateAt rtos input n).rc.valid = false) :
    failsafeOf rtos (beforePoll rtos input n) (input n).toPollInput = true := by
  have entered := gateInput_fresh (Bool.not_eq_true _ ▸ fresh)
  simp only [gateAt_valid, gateEntry, entered, beforeGate_rc, sticksOf, readSticks] at invalid
  -- Without failsafe some frame was counted, and the sticks would be valid.
  by_contra linked
  rw [Bool.not_eq_true] at linked
  have counted : (receiveBytes (input n).now (beforePoll rtos input n).reception
      (input n).rx).goodFrames > 0 := by
    simp only [failsafeOf, pollFailsafe, Bool.or_eq_false_iff, beq_eq_false_iff_ne] at linked
    exact UInt32.pos_iff_ne_zero.mpr linked.1
  simp [linked, counted] at invalid

/-- A poll that leaves the receiver invalid forgets, unless it is a boundary poll. -/
theorem forgotten_of_invalid {p : Nat} (inside : ¬ BoundaryPoll rtos input p)
    (invalid : (gateAt rtos input p).rc.valid = false) : Forgotten rtos input p := by
  have closed : gateOpen (gateEntry rtos input p) = false := by
    rw [gateAt_valid] at invalid
    simp [gateOpen, invalid]
  -- An invalid receiver never holds a latch, so only the remembered low switch is in question.
  have unseen : (gateEntry rtos input p).rc.seenArmLow = false := by
    by_cases lost : LostAt rtos input p
    · exact (gateInput_lost lost).2.1
    · rw [(gateEntry_memory rtos input lost).1]
      by_contra seen
      exact inside ⟨failsafe_of_invalid lost invalid, lost, by simpa using seen⟩
  rw [Forgotten, gateAt_eq]
  simp [gateHolds, closed, unseen]

/-- What is forgotten stays forgotten until a low switch is read. -/
theorem forgotten_step {n : Nat} (forgotten : Forgotten rtos input n)
    (high : ¬ ReadsLow rtos input (n + 1)) : Forgotten rtos input (n + 1) := by
  obtain ⟨unseen, unlatched⟩ := forgotten
  rw [← beforePoll_succ_rc] at unseen unlatched
  obtain ⟨unseen, unlatched⟩ := gateEntry_forgotten unseen unlatched
  refine ⟨?_, (gateAt_unarmed unseen unlatched).1⟩
  -- Only an open gate with a low switch would remember, and that is a low switch read.
  by_contra remembers
  rw [Bool.not_eq_false, seenArmLow_iff, unseen] at remembers
  rcases remembers with impossible | ⟨opened, low⟩
  · cases impossible
  · simp only [gateOpen, Bool.and_eq_true] at opened
    refine high ⟨?_, ?_⟩
    · rw [gateAt_valid]
      exact opened.1.1
    · rw [gateAt_armSwitch]
      exact low

/-- A poll that starts with nothing remembered ends unarmed. -/
theorem afterPoll_unarmed {n : Nat} (forgotten : Forgotten rtos input n) :
    (afterPoll rtos (beforePoll rtos input (n + 1))
      (input (n + 1)).toPollInput).motor.armed = false := by
  -- The gate does not arm, and nothing after it does.
  obtain ⟨unseen, unlatched⟩ := forgotten
  rw [← beforePoll_succ_rc] at unseen unlatched
  obtain ⟨unseen, unlatched⟩ := gateEntry_forgotten unseen unlatched
  have unarmed := (gateAt_unarmed unseen unlatched).2
  rw [afterPoll_armed]
  simp only [gateAt] at unarmed
  simp [unarmed]

/-- Runs without boundary polls follow the reconnect rule. -/
theorem reconnectRule_of_no_boundary (rtos : RtosConfig) (input : Nat → TaskInput F)
    (inside : ∀ n, ¬ BoundaryPoll rtos input n) : ReconnectRule rtos input := by
  intro p q order invalid high
  -- From the loss on, the induction carries that nothing is remembered.
  have forgotten : ∀ k, p + k < q → Forgotten rtos input (p + k) := by
    intro k
    induction k with
    | zero => exact fun _ => forgotten_of_invalid (inside p) invalid
    | succ k ih =>
      intro bound
      exact forgotten_step (ih (by omega)) (high (p + (k + 1)) (by omega) bound)
  obtain ⟨k, rfl⟩ : ∃ k, q = p + k + 1 := ⟨q - p - 1, by omega⟩
  exact afterPoll_unarmed (forgotten k (by omega))

/-- What has been received before a poll depends on ticks and bytes alone. -/
theorem beforePoll_reception (rtos : RtosConfig) (input : Nat → TaskInput F) (n : Nat) :
    (beforePoll rtos input n).reception =
      stateAt (fun reception poll => receiveBytes poll.now reception poll.rx) {} input n := by
  -- The induction is on the polls.
  induction n with
  | zero => rfl
  | succ n ih => rw [beforePoll_succ_reception, ih, stateAt_succ]

/-- The poll's own test fails a link that the freshness check still finds recent. -/
def testsDisagree (rtos : RtosConfig) (poll : PollInput F) (reception : Reception) : Bool :=
  pollFailsafe rtos poll.now reception &&
    !(reception.rcLastFrameTick == 0 ||
      elapsedMs rtos poll.freshnessTick reception.rcLastFrameTick > rcLostTimeoutMs)

/-- In a boundary poll the two tests disagree about what has been received. -/
theorem BoundaryPoll.disagree {n : Nat} (boundary : BoundaryPoll rtos input n) :
    testsDisagree rtos (input n).toPollInput (receiveBytes (input n).now
      (beforePoll rtos input n).reception (input n).rx) = true := by
  obtain ⟨failed, found, -⟩ := boundary
  unfold LostAt freshnessLost at found
  rw [beforeGate_reception, Bool.not_eq_true] at found
  unfold testsDisagree
  rw [found, Bool.not_false, Bool.and_true]
  exact failed

/-- A bench run: armed, then without frames for more than 300 ms, then low and high once more. -/
def lossBench (n : Nat) : TaskInput ℚ :=
  -- The last frame is in poll 61, and time stands still once that frame is old.
  benchPoll (60 * min n 70 + 60) (60 * min n 70 + 62)
    (if n = 52 ∨ n = 60 then benchFrame 1000 1000
    else if n = 53 ∨ n = 61 then benchFrame 1000 2000 else [])
    (fun _ => .zeroed) none

/-- From the time it stands still on, every poll of the bench is the same. -/
theorem lossBench_still {n : Nat} (late : 70 ≤ n) : lossBench n = lossBench 70 := by
  have stopped : min n 70 = 70 := Nat.min_eq_right late
  have silent : ¬ (n = 52 ∨ n = 60) ∧ ¬ (n = 53 ∨ n = 61) := by omega
  unfold lossBench
  rw [stopped, if_neg silent.1, if_neg silent.2]
  rfl

/-- What the bench has received before a poll. -/
def lossReception (n : Nat) : Reception :=
  stateAt (fun reception (poll : TaskInput ℚ) => receiveBytes poll.now reception poll.rx) {}
    lossBench n

/-- Nothing is received any more once time stands still. -/
theorem lossReception_still {n : Nat} (late : 70 ≤ n) : lossReception n = lossReception 70 := by
  -- The induction is on the polls in which no byte arrives.
  induction n, late using Nat.le_induction with
  | base => rfl
  | succ n late ih =>
    have next : lossReception (n + 1) =
        receiveBytes (lossBench n).now (lossReception n) (lossBench n).rx := stateAt_succ _ _ _ n
    rw [next, ih, lossBench_still late]
    generalize lossReception 70 = reception
    rfl

/-- On this bench both tests find the same polls lost. -/
theorem lossBench_inside (n : Nat) : ¬ BoundaryPoll benchRtos lossBench n := by
  intro boundary
  have disagree := boundary.disagree
  rw [beforePoll_reception, ← lossReception] at disagree
  have agree : ∀ k ≤ 70, testsDisagree benchRtos (lossBench k).toPollInput
      (receiveBytes (lossBench k).now (lossReception k) (lossBench k).rx) = false := by
    decide +kernel
  -- All later polls are like poll 70.
  rcases Nat.le_total n 70 with before | after
  · rw [agree n before] at disagree
    cases disagree
  · rw [lossBench_still after, lossReception_still after, agree 70 le_rfl] at disagree
    cases disagree

/-- On the bench the rule holds of an armed vehicle that loses its link with the switch high: the
loss disarms it in poll 59, and it is armed again in poll 61, after poll 60 has read the switch
low. -/
theorem reconnectRule_of_no_boundary_loss : ReconnectRule benchRtos lossBench ∧
    (gateAt benchRtos lossBench 53).motor.armed = true ∧
    (gateAt benchRtos lossBench 59).rc.valid = false ∧
    (gateAt benchRtos lossBench 59).motor.armed = false ∧ ReadsLow benchRtos lossBench 60 ∧
    (gateAt benchRtos lossBench 61).motor.armed = true := by
  refine ⟨reconnectRule_of_no_boundary _ _ lossBench_inside, ?_, ?_, ?_, ⟨?_, ?_⟩, ?_⟩
  · decide +kernel
  · decide +kernel
  · decide +kernel
  · decide +kernel
  · decide +kernel
  · decide +kernel

/-- Ticks of a bench run whose last frame ages between the two tests. -/
def boundaryBenchTicks (n : Nat) : Nat × Nat :=
  -- The poll after the frame starts 301 ticks later and samples 300 ticks after the frame did.
  if n < 53 then (60 * n + 60, 60 * n + 62)
  else if n = 53 then (3481, 3482)
  else (60 * n + 260, 60 * n + 262)

/-- A bench run: calibration, one frame with a low switch, a boundary poll, then a high switch. -/
def boundaryBench (n : Nat) : TaskInput ℚ :=
  benchPoll (boundaryBenchTicks n).1 (boundaryBenchTicks n).2
    (if n < 52 ∨ n = 53 then [] else benchFrame 1000 (if n = 52 then 1000 else 2000))
    (fun _ => .zeroed) none

/-- A boundary poll breaks the reconnect rule: the next high switch arms at once. -/
theorem reconnectRule_boundary : WellTimed benchRtos boundaryBench 54 ∧
    ¬ ReconnectRule benchRtos boundaryBench := by
  constructor
  · refine benchPoll_timed (fun k below => ?_) (fun k below => ?_) (by decide)
    · unfold boundaryBenchTicks
      split_ifs <;> simp only <;> omega
    · unfold boundaryBenchTicks
      split_ifs <;> simp only <;> omega
  · intro rule
    -- Poll 53 is the boundary poll, and poll 54 arms right after it.
    have invalid : (gateAt benchRtos boundaryBench 53).rc.valid = false := by decide +kernel
    have armed : (afterPoll benchRtos (beforePoll benchRtos boundaryBench 54)
        (boundaryBench 54).toPollInput).motor.armed = true := by decide +kernel
    have unarmed := rule 53 54 (by omega) invalid (fun i after before => by omega)
    rw [armed] at unarmed
    cases unarmed

end Reconnect

end AmpFc.Firmware
