import AmpFc.Firmware.ArmHistory

/-! What an emergency stop leaves behind: the latch over a run, and whether arming is revoked. -/

namespace AmpFc.Firmware

variable {F : Type} [FloatArith F]

section Rule

variable (rtos : RtosConfig) (input : Nat → TaskInput F)

/-- The emergency latch at the end of poll `n`. -/
def EmergencyAt (n : Nat) : Prop :=
  (afterPoll rtos (beforePoll rtos input n) (input n).toPollInput).shm.emergencyStopLatched = true

/-- In poll `m` the arm switch has gone from low to high with the throttle down. -/
def RisesAt (m : Nat) : Prop :=
  (∃ j, m = j + 1 ∧ (gateAt rtos input j).rc.armSwitch = false) ∧
    (gateAt rtos input m).rc.armSwitch = true ∧ (gateAt rtos input m).rc.throttleUs ≤ 1100

/--
An emergency stop revokes arming.

Every pulse stays idle after an emergency until the switch was read low and then rose.
-/
def EmergencyRevokes : Prop :=
  ∀ e r, e < r → EmergencyAt rtos input e →
    ∀ cfg ∈ programmed rtos (beforePoll rtos input r) (input r).toPollInput,
      cfg.pulse ≠ 1000 * pwmNsPerUs →
      ∃ k m, e ≤ k ∧ k < m ∧ m ≤ r ∧ ReadsLow rtos input k ∧ RisesAt rtos input m

/-- Poll `n` takes a clear command while the arm latch is set and the gate would keep it. -/
def ClearsWhileArmed (n : Nat) : Prop :=
  (beforePoll rtos input n).shm.emergencyStopLatched = true ∧
    (linkAfter (beforePoll rtos input n) (input n).memory).emergencyStopLatched = false ∧
    (beforePoll rtos input n).rc.armLatched = true ∧ HoldsAt rtos input n

/--
The condition under which an emergency stop does revoke arming.

No clear command is taken while armed, and no boundary poll follows an emergency before the
switch was read low.
-/
structure ClearsSafely : Prop where
  clear : ∀ n, ¬ ClearsWhileArmed rtos input n
  boundary : ∀ e p, e ≤ p → EmergencyAt rtos input e → BoundaryPoll rtos input p →
    ∃ k, e ≤ k ∧ k ≤ p ∧ ReadsLow rtos input k

variable {rtos input}

/-- The next poll starts with the emergency latch this poll ended with. -/
theorem beforePoll_succ_emergency (n : Nat) :
    (beforePoll rtos input (n + 1)).shm.emergencyStopLatched = true ↔
      EmergencyAt rtos input n := by
  -- A message may only move the address of the region.
  unfold EmergencyAt beforePoll
  rw [stateAt_succ]
  obtain ⟨phys, ready, turned⟩ :=
    cmdQuRunTask_frame rtos (stateAt (cmdQuRunTask rtos) boot input n) (input n)
  rw [turned]

/-- The latch a poll ends with is the one the shared region decided. -/
theorem emergencyAt_iff (n : Nat) : EmergencyAt rtos input n ↔
    (linkAfter (beforePoll rtos input n) (input n).memory).emergencyStopLatched = true := by
  unfold EmergencyAt
  rw [(afterPoll_link _ _ _).1]

/-- A poll that programs more than idle ends without emergency and with the arm latch set. -/
theorem active_pulse {n : Nat} {cfg : PwmConfiguration}
    (written : cfg ∈ programmed rtos (beforePoll rtos input n) (input n).toPollInput)
    (active : cfg.pulse ≠ 1000 * pwmNsPerUs) :
    ¬ EmergencyAt rtos input n ∧ (gateAt rtos input n).rc.armLatched = true := by
  obtain ⟨us, pulse⟩ := programmed_pulse written
  have low := (limitedPulseUs_bounds
    (afterDispatch rtos (beforePoll rtos input n) (input n).toPollInput).motor
    (escUpdateArmDelayOnce rtos (input n).escTick (beforePoll rtos input n).esc) us).1
  -- A limited pulse that is not idle is above idle, so the motors were armed.
  have above : motorPwmIdleUs < limitedPulseUs
      (afterDispatch rtos (beforePoll rtos input n) (input n).toPollInput).motor
      (escUpdateArmDelayOnce rtos (input n).escTick (beforePoll rtos input n).esc) us := by
    simp only [motorPwmMinUs, motorPwmIdleUs] at low ⊢
    rcases Nat.lt_or_eq_of_le low with more | idle
    · exact more
    · rw [pulse, ← idle] at active
      exact absurd rfl active
  have armed := (limitedPulseUs_active above).1
  simp only [afterDispatch] at armed
  rw [dispatchOutputs_armed] at armed
  simp only [Bool.and_eq_true, Bool.not_eq_true'] at armed
  obtain ⟨⟨⟨clear, -⟩, -⟩, gated⟩ := armed
  constructor
  · rw [emergencyAt_iff, ← (afterGate_link rtos _ _).1]
    simpa using clear
  · exact (motorUpdateArmGate_armed _ _ _).symm.trans gated

/-- An arm latch that was raised before an emergency and outlives it meets a clear while armed. -/
theorem clearsWhileArmed_of_kept {e m r : Nat} (order : e < r)
    (emergency : EmergencyAt rtos input e)
    (cleared : ¬ EmergencyAt rtos input r) (before : m ≤ e)
    (latched : ∀ i, m ≤ i → i ≤ r → (gateAt rtos input i).rc.armLatched = true)
    (holds : ∀ i, m ≤ i → i ≤ r → HoldsAt rtos input i) :
    ∃ c, ClearsWhileArmed rtos input c := by
  -- Somewhere between the two polls the emergency latch falls.
  obtain ⟨c, after, below, set, fallen⟩ := exists_fall order.le emergency cleared
  -- The poll after the fall is the one that takes the clear.
  refine ⟨c + 1, (beforePoll_succ_emergency c).mpr set, ?_, ?_, holds (c + 1) (by omega) (by omega)⟩
  · rw [emergencyAt_iff] at fallen
    simpa using fallen
  · rw [beforePoll_succ_rc]
    exact latched c (by omega) (by omega)

/-- With a remembered low switch, a poll whose receiver is invalid, not lost, is at the boundary. -/
theorem boundaryPoll_of_invalid {k j : Nat} (before : k < j) (seen : LowSeenAt rtos input k)
    (kept : ∀ i, k < i → i ≤ j → ¬ LostAt rtos input i)
    (invalid : (gateAt rtos input j).rc.valid = false) : BoundaryPoll rtos input j := by
  have fresh := kept j before le_rfl
  obtain ⟨i, rfl⟩ : ∃ i, j = i + 1 := ⟨j - 1, by omega⟩
  refine ⟨failsafe_of_invalid fresh invalid, fresh, ?_⟩
  -- No loss since poll `k` means that the low switch is still remembered.
  rw [beforePoll_succ_rc, seenArmLow_iff_since]
  exact ⟨k, by omega, seen, fun i after below => kept i after (by omega)⟩

/-- Runs that clear safely revoke arming on every emergency stop. -/
theorem emergencyRevokes_of_clearsSafely (rtos : RtosConfig) (input : Nat → TaskInput F)
    (safely : ClearsSafely rtos input) : EmergencyRevokes rtos input := by
  intro e r order emergency cfg written active
  obtain ⟨cleared, latched⟩ := active_pulse written active
  -- The latch that lets the pulse through was raised at some poll `m`, before or after.
  obtain ⟨m, bound, ⟨low, switch⟩, rising, ⟨k, seenBefore, seen, kept⟩, holds⟩ :=
    (armLatched_iff_history rtos input r).mp latched
  rcases Nat.lt_or_ge e m with later | earlier
  · -- The latch was raised after the emergency, so poll `j` before it left the switch low.
    obtain ⟨j, rfl⟩ : ∃ j, m = j + 1 := ⟨m - 1, by omega⟩
    have rises : RisesAt rtos input (j + 1) := by
      refine ⟨⟨j, rfl, rising j rfl⟩, ?_, ?_⟩
      · rw [gateAt_armSwitch]
        exact switch
      · rw [gateAt_throttleUs]
        exact low
    cases valid : (gateAt rtos input j).rc.valid with
    | true => exact ⟨j, j + 1, by omega, by omega, bound, ⟨valid, rising j rfl⟩, rises⟩
    | false =>
      -- The switch was only low because the receiver was invalid.
      have different : k ≠ j := by
        intro same
        have opened := seen.1
        rw [gateAt_valid, ← same] at valid
        simp [gateOpen, valid] at opened
      have edge := boundaryPoll_of_invalid (by omega) seen
        (fun i after below => kept i after (by omega)) valid
      obtain ⟨i, after, below, reads⟩ := safely.boundary e j (by omega) emergency edge
      exact ⟨i, j + 1, after, by omega, bound, reads, rises⟩
  · -- The latch was raised before the emergency and has been kept through the clear.
    have outlives := clearsWhileArmed_of_kept order emergency cleared earlier
      (fun i after below => (armLatched_iff_history rtos input i).mpr
        ⟨m, after, ⟨low, switch⟩, rising, ⟨k, seenBefore, seen, kept⟩,
          fun j start stop => holds j start (by omega)⟩)
      holds
    obtain ⟨c, violation⟩ := outlives
    exact absurd violation (safely.clear c)

end Rule

/-- A region on the bench that carries one emergency command. -/
def benchRegion (seq reason : UInt32) : SharedCommandRegion ℚ :=
  { SharedCommandRegion.zeroed with
    magic := sharedRegionMagic
    version := sharedRegionVersion
    emergencyStop := ⟨seq, ⟨reason⟩, payloadCrc (⟨reason⟩ : CommandEmergencyStop)⟩ }

section Rearming

omit [FloatArith F] in
/-- A poll that sees no new command keeps what it knows of the region. -/
theorem linkAfter_kept {fw : Firmware} {memory : Memory F}
    (same : ∀ address, (memory address).emergencyStop.seq = fw.shm.lastEmergencySeq) :
    linkAfter fw memory = fw.shm := by
  unfold linkAfter
  cases seen : seenEmergency fw memory with
  | none => rfl
  | some slot =>
    -- The slot that was seen lies in the region at some address.
    unfold seenEmergency ampSharedRegionGet at seen
    have number : slot.seq = fw.shm.lastEmergencySeq := by
      split at seen
      · cases seen
      · rw [Option.map_eq_some_iff] at seen
        obtain ⟨region, found, rfl⟩ := seen
        obtain rfl := Option.some.inj (Option.mem_filter_iff.mp found).1
        exact same _
    unfold pollEmergency
    simp [number]

/-- The next poll starts with what this one knows of the region. -/
theorem beforePoll_succ_link (rtos : RtosConfig) (input : Nat → TaskInput F) (n : Nat) :
    (beforePoll rtos input (n + 1)).shm.emergencyStopLatched =
        (linkAfter (beforePoll rtos input n) (input n).memory).emergencyStopLatched ∧
      (beforePoll rtos input (n + 1)).shm.lastEmergencySeq =
        (linkAfter (beforePoll rtos input n) (input n).memory).lastEmergencySeq := by
  -- A message may only move the address of the region.
  have link := afterPoll_link rtos (beforePoll rtos input n) (input n).toPollInput
  unfold beforePoll at link ⊢
  rw [stateAt_succ]
  obtain ⟨phys, ready, turned⟩ :=
    cmdQuRunTask_frame rtos (stateAt (cmdQuRunTask rtos) boot input n) (input n)
  rw [turned]
  exact ⟨link.1, link.2.1⟩

/-- As long as the slot keeps its number, so does the latch keep its value. -/
theorem emergency_kept {rtos : RtosConfig} {input : Nat → TaskInput F} {m n : Nat} {seq : UInt32}
    {latched : Bool} (order : m ≤ n)
    (number : (beforePoll rtos input m).shm.lastEmergencySeq = seq)
    (flag : (beforePoll rtos input m).shm.emergencyStopLatched = latched)
    (same : ∀ i, m ≤ i → i < n → ∀ address, ((input i).memory address).emergencyStop.seq = seq) :
    (beforePoll rtos input n).shm.lastEmergencySeq = seq ∧
      (beforePoll rtos input n).shm.emergencyStopLatched = latched := by
  -- The induction is on the later poll.
  induction n, order using Nat.le_induction with
  | base => exact ⟨number, flag⟩
  | succ n order ih =>
    obtain ⟨number, flag⟩ := ih fun i from_ below => same i from_ (by omega)
    have kept : linkAfter (beforePoll rtos input n) (input n).memory =
        (beforePoll rtos input n).shm := by
      apply linkAfter_kept
      intro address
      rw [number]
      exact same n order (Nat.lt_succ_self n) address
    obtain ⟨nextFlag, nextNumber⟩ := beforePoll_succ_link rtos input n
    rw [nextFlag, nextNumber, kept]
    exact ⟨number, flag⟩

/-- A bench run that is armed, stopped, cleared with the switch low, and armed again. -/
def rearmBench (n : Nat) : TaskInput ℚ :=
  -- The stop is read in poll 54, the clear in poll 56, and frames stop after poll 58.
  benchPoll (60 * n + 60) (60 * n + 62)
    (if n < 52 ∨ 58 < n then []
    else benchFrame (if n = 58 then 1300 else 1000)
      (if n = 52 ∨ n = 55 ∨ n = 56 then 1000 else 2000))
    (fun _ =>
      if n < 54 then benchRegion 0 0 else if n < 56 then benchRegion 1 1 else benchRegion 2 0)
    (if n = 0 then some ⟨0x20, 0x83F00000⟩ else none)

/-- The slot holds one number before the stop, one up to the clear, and one from then on. -/
theorem rearmBench_seq (n : Nat) (address : UInt32) :
    ((rearmBench n).memory address).emergencyStop.seq =
      if n < 54 then 0 else if n < 56 then 1 else 2 := by
  show (if n < 54 then benchRegion 0 0 else if n < 56 then benchRegion 1 1
    else benchRegion 2 0).emergencyStop.seq = _
  split_ifs
  · rfl
  · rfl
  · rfl

/-- The emergency latch is set in the two polls between the stop and the clear. -/
theorem rearmBench_latched (n : Nat) :
    (beforePoll benchRtos rearmBench n).shm.emergencyStopLatched = true ↔ n = 55 ∨ n = 56 := by
  rcases Nat.lt_or_ge n 55 with before | after
  · -- Up to the stop the slot is as it was at boot.
    have number : (beforePoll benchRtos rearmBench 0).shm.lastEmergencySeq = 0 := rfl
    have flag : (beforePoll benchRtos rearmBench 0).shm.emergencyStopLatched = false := rfl
    have kept := emergency_kept (Nat.zero_le n) number flag
      fun i _ below address => by rw [rearmBench_seq, if_pos (by omega)]
    rw [kept.2]
    exact iff_of_false Bool.false_ne_true (by omega)
  · rcases Nat.lt_or_ge n 57 with between | late
    · have set : (beforePoll benchRtos rearmBench 55).shm.emergencyStopLatched = true ∧
          (beforePoll benchRtos rearmBench 56).shm.emergencyStopLatched = true := by
        decide +kernel
      obtain rfl | rfl : n = 55 ∨ n = 56 := by omega
      · exact iff_of_true set.1 (Or.inl rfl)
      · exact iff_of_true set.2 (Or.inr rfl)
    · have cleared : (beforePoll benchRtos rearmBench 57).shm.lastEmergencySeq = 2 ∧
          (beforePoll benchRtos rearmBench 57).shm.emergencyStopLatched = false := by
        decide +kernel
      have kept := emergency_kept late cleared.1 cleared.2
        fun i from_ _ address => by rw [rearmBench_seq, if_neg (by omega), if_neg (by omega)]
      rw [kept.2]
      exact iff_of_false Bool.false_ne_true (by omega)

/-- The clear finds the switch low, and the low switch is read before any poll at the boundary. -/
theorem rearmBench_clearsSafely : ClearsSafely benchRtos rearmBench := by
  refine ⟨?_, ?_⟩
  · rintro n ⟨set, cleared, latched, -⟩
    obtain rfl | rfl := (rearmBench_latched n).mp set
    · -- Poll 55 sees the stop once more, and no clear.
      have kept : (linkAfter (beforePoll benchRtos rearmBench 55)
          (rearmBench 55).memory).emergencyStopLatched = true := by decide +kernel
      rw [kept] at cleared
      cases cleared
    · -- Poll 55 has read the switch low, which dropped the arm latch.
      have dropped : (beforePoll benchRtos rearmBench 56).rc.armLatched = false := by
        decide +kernel
      rw [dropped] at latched
      cases latched
  · intro e p order emergency boundary
    have stopped := (rearmBench_latched (e + 1)).mp ((beforePoll_succ_emergency e).mpr emergency)
    rcases Nat.lt_or_ge p 55 with early | late
    · -- The poll that reads the stop has a frame of its own.
      obtain rfl : p = 54 := by omega
      have linked : failsafeOf benchRtos (beforePoll benchRtos rearmBench 54)
          (rearmBench 54).toPollInput = false := by decide +kernel
      rw [boundary.1] at linked
      cases linked
    · refine ⟨55, by omega, late, ?_, ?_⟩
      · decide +kernel
      · decide +kernel

/-- On the bench the rule holds of a vehicle that flies, is stopped, and flies again: after the stop
of poll 54 the switch is read low, the stop is cleared, and the switch rises in poll 57. -/
theorem emergencyRevokes_of_clearsSafely_rearm : EmergencyRevokes benchRtos rearmBench ∧
    (∃ cfg ∈ programmed benchRtos (beforePoll benchRtos rearmBench 53)
      (rearmBench 53).toPollInput, cfg.pulse ≠ 1000 * pwmNsPerUs) ∧
    EmergencyAt benchRtos rearmBench 54 ∧ ReadsLow benchRtos rearmBench 55 ∧
    RisesAt benchRtos rearmBench 57 ∧
    (∃ cfg ∈ programmed benchRtos (beforePoll benchRtos rearmBench 58)
      (rearmBench 58).toPollInput, cfg.pulse = 1310000) := by
  refine ⟨emergencyRevokes_of_clearsSafely _ _ rearmBench_clearsSafely, ?_, ?_, ⟨?_, ?_⟩,
    ⟨⟨56, rfl, ?_⟩, ?_, ?_⟩, ?_⟩
  · decide +kernel
  · unfold EmergencyAt
    decide +kernel
  · decide +kernel
  · decide +kernel
  · decide +kernel
  · decide +kernel
  · decide +kernel
  · decide +kernel

end Rearming

/-- A bench run that is armed, stopped for one poll, and cleared with the switch still high. -/
def clearBench (n : Nat) : TaskInput ℚ :=
  -- The region is announced after the first poll, and the throttle is raised before the clear.
  benchPoll (60 * n + 60) (60 * n + 62)
    (if n < 52 then [] else benchFrame (if n < 54 then 1000 else 1300) (if n < 53 then 1000 else 2000))
    (fun _ => if n < 54 then benchRegion 0 0 else if n = 54 then benchRegion 1 1 else benchRegion 2 0)
    (if n = 0 then some ⟨0x20, 0x83F00000⟩ else none)

/-- The motors run again right after the clear, although the switch never went low. -/
theorem emergencyRevokes_clearBench : WellTimed benchRtos clearBench 55 ∧
    ¬ EmergencyRevokes benchRtos clearBench := by
  constructor
  · exact benchPoll_timed (fun k below => by omega) (fun k below => by omega) (by decide)
  · intro rule
    have stopped : EmergencyAt benchRtos clearBench 54 := by
      unfold EmergencyAt
      decide +kernel
    have running : ∃ cfg ∈ programmed benchRtos (beforePoll benchRtos clearBench 55)
        (clearBench 55).toPollInput, cfg.pulse = 1310000 := by decide +kernel
    obtain ⟨cfg, written, pulse⟩ := running
    obtain ⟨k, m, after, before, bound, low, -⟩ :=
      rule 54 55 (by omega) stopped cfg written (by rw [pulse]; decide)
    -- The only poll in question reads the switch high.
    obtain rfl : k = 54 := by omega
    have high : (gateAt benchRtos clearBench 54).rc.armSwitch = true := by decide +kernel
    rw [low.2] at high
    cases high

end AmpFc.Firmware
