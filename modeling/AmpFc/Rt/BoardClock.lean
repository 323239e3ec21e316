import AmpFc.Rt.ControlSchedule

/-! The microsecond clock of the board: how long it measures real time, and what depends on it. -/

namespace AmpFc

/-- `kCoreTimerHz`. -/
def coreTimerHz : UInt64 := 25000000

/-- `hal_board_micros`, for a reading of the core timer. The product is taken in 64 bits. -/
def halBoardMicros (ticks : UInt64) : UInt64 := (ticks * 1000000) / coreTimerHz

/-- `hal_micros`. -/
def halMicros (ticks : UInt64) : UInt64 := halBoardMicros ticks

/-- How often the product of `hal_board_micros` has wrapped at a reading of the core timer. -/
def timerWraps (ticks : UInt64) : Nat := productWraps 64 1000000 ticks.toNat

/-- Between two readings of the core timer the clock runs forward, as fast as the timer. -/
structure MeasuresRealTime (earlier later : UInt64) : Prop where
  forward : halBoardMicros earlier ≤ halBoardMicros later
  exact : |((halBoardMicros later).toNat : ℚ) - (halBoardMicros earlier).toNat -
    ((later.toNat : ℚ) - earlier.toNat) / 25| ≤ 1

section Clock

/-- The words of the conversion are those of a scaled reading. -/
theorem halBoardMicros_toNat (ticks : UInt64) :
    (halBoardMicros ticks).toNat = scaledReading 64 1000000 25000000 ticks.toNat := by
  unfold halBoardMicros coreTimerHz
  -- The multiplication wraps, and the division does not.
  rw [UInt64.toNat_div, UInt64.toNat_mul]
  rfl

/-- A later count has wrapped at least as often. -/
theorem timerWraps_mono {earlier later : UInt64} (order : earlier ≤ later) :
    timerWraps earlier ≤ timerWraps later :=
  productWraps_mono 64 1000000 (UInt64.le_iff_toNat_le.mp order)

/-- In microseconds the deviation is that of the scaled readings. -/
theorem deviation_le_one (units units' ticks ticks' : Nat) :
    |(units' : ℚ) - units - ((ticks' : ℚ) - ticks) / 25| ≤ 1 ↔
      |((25000000 : Nat) : Int) * units' - (25000000 : Nat) * units -
        ((ticks' * 1000000 : Nat) - (ticks * 1000000 : Nat))| ≤ (25000000 : Nat) := by
  rw [abs_le, abs_le]
  push_cast
  constructor
  · rintro ⟨low, high⟩
    constructor
    -- Multiplied by the rate, all of it is integer.
    · have scaled : (-25000000 : ℚ) ≤ 25000000 * units' - 25000000 * units -
          (ticks' * 1000000 - ticks * 1000000) := by linarith
      exact_mod_cast scaled
    · have scaled : (25000000 : ℚ) * units' - 25000000 * units -
          (ticks' * 1000000 - ticks * 1000000) ≤ 25000000 := by linarith
      exact_mod_cast scaled
  · rintro ⟨low, high⟩
    -- And back again, to the rationals.
    have low' : (-25000000 : ℚ) ≤ 25000000 * units' - 25000000 * units -
        (ticks' * 1000000 - ticks * 1000000) := by exact_mod_cast low
    have high' : (25000000 : ℚ) * units' - 25000000 * units -
        (ticks' * 1000000 - ticks * 1000000) ≤ 25000000 := by exact_mod_cast high
    constructor <;> linarith

/-- The clock measures real time exactly between readings that have wrapped equally often. -/
theorem measuresRealTime_iff {earlier later : UInt64} (order : earlier ≤ later) :
    MeasuresRealTime earlier later ↔ timerWraps earlier = timerWraps later := by
  have within := @scaledReading_within_iff 64 1000000 25000000 earlier.toNat later.toNat
    (by decide) (by decide)
  constructor
  · intro measures
    have exact := measures.exact
    -- The bound alone excludes a wrap, the order is not needed for it.
    rw [halBoardMicros_toNat, halBoardMicros_toNat, deviation_le_one] at exact
    exact within.mp exact
  · intro same
    refine ⟨?_, ?_⟩
    -- Without a wrap the division keeps the order.
    · apply UInt64.le_iff_toNat_le.mpr
      rw [halBoardMicros_toNat, halBoardMicros_toNat]
      exact scaledReading_mono (UInt64.le_iff_toNat_le.mp order) same
    · rw [halBoardMicros_toNat, halBoardMicros_toNat, deviation_le_one]
      exact within.mpr same

end Clock

/-- A run whose control clock is the one of the board, over a timer that never runs backwards. -/
structure BoardRun (F : Type) where
  initUs : Nat
  /-- The timer as it is read before the loop, and then for the control step of each iteration. -/
  ticks : Nat → UInt64
  forward : ∀ n, ticks n ≤ ticks (n + 1)
  input : Nat → IterationInput F
  timed : ∀ n, (input n).controlUs = (halMicros (ticks (n + 1))).toNat

namespace BoardRun

section Readings

variable {F : Type}

/-- The clock readings before the loop. -/
def boot (run : BoardRun F) : BootClock := ⟨run.initUs, (halMicros (run.ticks 0)).toNat⟩

/-- The boot time is the first reading of the clock, -/
@[simp] theorem boot_bootUs (run : BoardRun F) :
    run.boot.bootUs = (halMicros (run.ticks 0)).toNat := rfl

/-- and the control clock is each later reading. -/
theorem controlClock_eq (run : BoardRun F) (n : Nat) :
    controlClock run.boot run.input n = (halMicros (run.ticks n)).toNat := by
  cases n with
  | zero => rw [controlClock_zero, boot_bootUs]
  | succ n => rw [controlClock_succ, run.timed]

/-- The timer never counts back. -/
theorem ticks_mono (run : BoardRun F) {i j : Nat} (order : i ≤ j) : run.ticks i ≤ run.ticks j := by
  induction j, order using Nat.le_induction with
  | base => exact UInt64.le_refl _
  | succ j later ih => exact UInt64.le_trans ih (run.forward j)

variable {run : BoardRun F}

/-- Without a wrap in the run, none lies between any two of its readings. -/
theorem timerWraps_eq {n : Nat} (same : timerWraps (run.ticks 0) = timerWraps (run.ticks n))
    {earlier later : UInt64} (begun : run.ticks 0 ≤ earlier) (order : earlier ≤ later)
    (ended : later ≤ run.ticks n) : timerWraps earlier = timerWraps later := by
  have first := timerWraps_mono begun
  have middle := timerWraps_mono order
  have last := timerWraps_mono ended
  -- The wraps grow from the first reading to the last, and both have equally many.
  omega

/-- Without a wrap the control clock is as the schedule needs it. -/
theorem controlClock_of_same {n : Nat}
    (same : timerWraps (run.ticks 0) = timerWraps (run.ticks n)) :
    ControlClock run.boot run.input n where
  forward k below := by
    rw [controlClock_eq, controlClock_eq]
    -- Two readings in a row lie between the first and the last of the run.
    have wraps := timerWraps_eq same (run.ticks_mono (Nat.zero_le k)) (run.forward k)
      (run.ticks_mono below)
    exact UInt64.le_iff_toNat_le.mp ((measuresRealTime_iff (run.forward k)).mpr wraps).forward
  fits k _ := by
    -- The quotient is far below the end of 64 bits.
    rw [controlClock_eq]
    unfold halMicros
    rw [halBoardMicros_toNat]
    exact scaledReading_lt (by decide) (by decide) _

end Readings

section Steps

variable {F : Type} [FloatArith F]

/-- The timer at the last control step before iteration `n`, or else before the loop. -/
def lastControlTicks (mix : Mix F) (run : BoardRun F) : Nat → UInt64
  | 0 => run.ticks 0
  | n + 1 =>
    if ControlStepAt mix run.boot run.input n then run.ticks (n + 1) else run.lastControlTicks mix n

/-- The timer has counted 2500 microseconds since the last control step. -/
def DueInRealTime (mix : Mix F) (run : BoardRun F) (n : Nat) : Prop :=
  (run.lastControlTicks mix n).toNat + 2500 * 25 ≤ (run.ticks (n + 1)).toNat

/-- Up to iteration `n` the clock measures real time, and no control step that is due is missed. -/
structure KeepsRealTime (mix : Mix F) (run : BoardRun F) (n : Nat) : Prop where
  measures : ∀ i j, i ≤ j → j ≤ n → MeasuresRealTime (run.ticks i) (run.ticks j)
  steps : ∀ k < n, run.DueInRealTime mix k → ControlStepAt mix run.boot run.input k

variable {mix : Mix F} {run : BoardRun F}

/-- The node remembers the clock of the last control step. -/
theorem lastControlUs_eq (mix : Mix F) (run : BoardRun F) (n : Nat) :
    (nodeAt mix run.boot run.input n).lastControlUs =
      (halMicros (run.lastControlTicks mix n)).toNat := by
  induction n with
  | zero => rw [nodeAt_zero_lastControlUs, boot_bootUs, lastControlTicks]
  | succ n ih =>
    unfold lastControlTicks
    by_cases step : ControlStepAt mix run.boot run.input n
    -- The iteration read the timer for its control step, and remembers that.
    · rw [if_pos step, step.lastControlUs]
      exact run.timed n
    · rw [if_neg step, (nodeAt_succ_schedule step).1]
      exact ih

/-- The last control step lies between the start of the run and now. -/
theorem lastControlTicks_between (mix : Mix F) (run : BoardRun F) (n : Nat) :
    run.ticks 0 ≤ run.lastControlTicks mix n ∧ run.lastControlTicks mix n ≤ run.ticks n := by
  induction n with
  | zero => exact ⟨UInt64.le_refl _, UInt64.le_refl _⟩
  | succ n ih =>
    unfold lastControlTicks
    -- An iteration either moves the last control step to its own reading or leaves it.
    split
    · exact ⟨run.ticks_mono (Nat.zero_le _), UInt64.le_refl _⟩
    · exact ⟨ih.1, UInt64.le_trans ih.2 (run.forward n)⟩

/-- Without a wrap an iteration that is due in real time comes to its control step. -/
theorem controlStep_of_due {n : Nat}
    (same : timerWraps (run.ticks 0) = timerWraps (run.ticks (n + 1)))
    (due : run.DueInRealTime mix n) : ControlStepAt mix run.boot run.input n := by
  have between := lastControlTicks_between mix run n
  -- The last control step, this iteration and the whole run lie in one wrap.
  have order := UInt64.le_trans between.2 (run.forward n)
  have wraps := timerWraps_eq same between.1 order (UInt64.le_refl _)
  have earlier := timerWraps_eq same (UInt64.le_refl _) (run.ticks_mono (Nat.zero_le n))
    (run.forward n)
  -- The due time is no further than a period behind the last control step.
  have near := (nodeAt_scheduled mix (controlClock_of_same earlier)).next.near
  rw [lastControlUs_eq] at near
  unfold ControlStepAt
  refine near.trans ?_
  rw [run.timed]
  show (halBoardMicros _).toNat + controlStepUs ≤ (halBoardMicros _).toNat
  rw [halBoardMicros_toNat, halBoardMicros_toNat]
  unfold DueInRealTime at due
  -- 2500 microseconds of the timer are 2500 of the clock.
  exact scaledReading_add_le (by decide) wraps (by unfold controlStepUs; omega)

/-- A run keeps real time exactly as long as the product of its readings does not wrap. -/
theorem keepsRealTime_iff (mix : Mix F) (run : BoardRun F) (n : Nat) :
    run.KeepsRealTime mix n ↔ timerWraps (run.ticks 0) = timerWraps (run.ticks n) := by
  constructor
  · intro keeps
    -- The first and the last reading are two of those compared.
    exact (measuresRealTime_iff (run.ticks_mono (Nat.zero_le n))).mp
      (keeps.measures 0 n (Nat.zero_le n) le_rfl)
  · intro same
    refine ⟨?_, ?_⟩
    · intro i j order bound
      apply (measuresRealTime_iff (run.ticks_mono order)).mpr
      exact timerWraps_eq same (run.ticks_mono (Nat.zero_le i))
        (run.ticks_mono order) (run.ticks_mono bound)
    · intro k below due
      -- For each iteration the run up to it is enough.
      have upTo := timerWraps_eq same (UInt64.le_refl _) (run.ticks_mono (Nat.zero_le (k + 1)))
        (run.ticks_mono below)
      exact controlStep_of_due upTo due

/--
The clock of the board measures real time exactly between readings of equally many wraps.

A run keeps real time, and misses no control step that is due by it, exactly as long as its last
reading has wrapped as often as its first one.
-/
theorem boardClock_iff (mix : Mix F) :
    (∀ earlier later : UInt64, earlier ≤ later →
      (MeasuresRealTime earlier later ↔ timerWraps earlier = timerWraps later)) ∧
    (∀ (run : BoardRun F) (n : Nat),
      run.KeepsRealTime mix n ↔ timerWraps (run.ticks 0) = timerWraps (run.ticks n)) :=
  ⟨fun _ _ => measuresRealTime_iff, keepsRealTime_iff mix⟩

end Steps

/-- A run that reads the timer twice, before the loop and ever after. -/
def twoReadings (first later : UInt64) (order : first ≤ later) : BoardRun ℚ where
  initUs := (halMicros first).toNat
  ticks n := if n = 0 then first else later
  forward n := by
    cases n with
    | zero => exact order
    | succ n => exact UInt64.le_refl later
  input _ :=
    { nowUs := (halMicros later).toNat
      polled := true
      command := {}
      rx := []
      linkUs := (halMicros later).toNat
      safetyUs := (halMicros later).toNat
      controlUs := (halMicros later).toNat
      sensed := some ⟨0, 0, 0, 0, 0, 0⟩
      reportUs := (halMicros later).toNat }
  timed _ := rfl

/-- Five milliseconds after the timer started, the first control step is taken. -/
theorem boardClock_iff_fiveMs :
    ControlStepAt Controller.mix (twoReadings 0 125000 (by decide)).boot
      (twoReadings 0 125000 (by decide)).input 0 := by
  -- Neither reading has wrapped, and the due time is half way between them.
  have keeps := ((boardClock_iff Controller.mix).2 (twoReadings 0 125000 (by decide)) 1).mpr
    (by decide)
  exact keeps.steps 0 (by decide) (show 0 + 2500 * 25 ≤ 125000 by decide)

/-- Eight days and a half after the timer started, its product wraps between two readings. -/
theorem not_boardClock_wrapped :
    (¬ ∀ earlier later : UInt64, earlier ≤ later → MeasuresRealTime earlier later) ∧
      ¬ ∀ (run : BoardRun ℚ) (n : Nat), run.DueInRealTime Controller.mix n →
        ControlStepAt Controller.mix run.boot run.input n := by
  constructor
  · intro always
    -- The later reading is the smaller one in microseconds.
    have forward := (always 18446744000000 18446744125000 (by decide)).forward
    exact absurd forward (by decide)
  · intro always
    -- Five milliseconds have passed, and the control step is not taken.
    have step := always (twoReadings 18446744000000 18446744125000 (by decide)) 0
      (show 18446744000000 + 2500 * 25 ≤ 18446744125000 by decide)
    exact absurd step (by decide)

end BoardRun

end AmpFc
