import AmpFc.Lib.Counter
import AmpFc.Lib.Grid
import AmpFc.Rt.NodeSteps

/-! The control steps of the realtime loop: they keep to their grid, and no time gets lost. -/

namespace AmpFc

variable {F : Type}

section Clock

/-- The readings that schedule the control steps, the one before the loop being the first. -/
def controlClock (boot : BootClock) (input : Nat → IterationInput F) : Nat → Nat
  | 0 => boot.bootUs
  | n + 1 => (input n).controlUs

/-- The control clock begins with the boot time, -/
@[simp] theorem controlClock_zero (boot : BootClock) (input : Nat → IterationInput F) :
    controlClock boot input 0 = boot.bootUs := rfl

/-- and goes on with what each iteration reads. -/
@[simp] theorem controlClock_succ (boot : BootClock) (input : Nat → IterationInput F) (n : Nat) :
    controlClock boot input (n + 1) = (input n).controlUs := rfl

/-- The clock has not run backwards up to reading `n`, and is far from its end. -/
structure ControlClock (boot : BootClock) (input : Nat → IterationInput F) (n : Nat) : Prop where
  forward : ∀ k < n, controlClock boot input k ≤ controlClock boot input (k + 1)
  fits : ∀ k ≤ n, controlClock boot input k < 2 ^ 63

variable {boot : BootClock} {input : Nat → IterationInput F} {n : Nat}

/-- A clock that is sound up to an iteration is sound up to each before it. -/
theorem ControlClock.earlier (clock : ControlClock boot input n) {k : Nat} (order : k ≤ n) :
    ControlClock boot input k where
  forward j below := clock.forward j (by omega)
  fits j upTo := clock.fits j (by omega)

/-- Readings are ordered as they were taken. -/
theorem ControlClock.mono (clock : ControlClock boot input n) {j k : Nat} (order : j ≤ k)
    (bound : k ≤ n) : controlClock boot input j ≤ controlClock boot input k := by
  -- The induction is on the later reading.
  induction k, order using Nat.le_induction with
  -- A reading is not behind itself.
  | base => exact le_rfl
  -- The last step between the two runs forward as well.
  | succ k later ih => exact (ih (by omega)).trans (clock.forward k (by omega))

/-- `next_control_due_us += kControlStepUs`. -/
def advanceDueOnce (nextControlDueUs : Nat) : Nat := (nextControlDueUs + controlStepUs) % 2 ^ 64

/-- The loop body is followed by its test, so `advanceDue` is the loop after one advance. -/
theorem advanceDue_of_runWhile {due now next fuel more : Nat}
    (ends : runWhile (hasReached now) advanceDueOnce fuel (advanceDueOnce due) = some next)
    (enough : fuel ≤ more) : advanceDue more due now = next := by
  -- The induction is on the tests that the loop was allowed.
  induction fuel generalizing due more with
  | zero => cases ends
  | succ fuel ih =>
    -- The loop tested once at least, so there is fuel for one advance.
    obtain ⟨more, rfl⟩ := Nat.exists_eq_add_one.mpr (Nat.zero_lt_of_lt enough)
    unfold runWhile at ends
    show (if now ≥ advanceDueOnce due then advanceDue more (advanceDueOnce due) now
      else advanceDueOnce due) = next
    by_cases again : now ≥ advanceDueOnce due
    · have reached : hasReached now (advanceDueOnce due) = true := decide_eq_true again
      rw [if_pos reached] at ends
      rw [if_pos again]
      exact ih ends (by omega)
    -- The test fails, and both leave the due time that was advanced.
    · have passed : hasReached now (advanceDueOnce due) = false := decide_eq_false again
      rw [passed] at ends
      rw [if_neg again]
      exact Option.some.inj ends

end Clock

namespace RunState

variable [FloatArith F]

/-- The schedule that an iteration leaves: the one it found, or the one of a control step. -/
theorem iterate_schedule (mix : Mix F) (s : RunState F) (input : IterationInput F) :
    (input.controlUs < s.nextControlDueUs ∧
        (s.iterate mix input).1.lastControlUs = s.lastControlUs ∧
        (s.iterate mix input).1.nextControlDueUs = s.nextControlDueUs) ∨
      (s.nextControlDueUs ≤ input.controlUs ∧
        (s.iterate mix input).1.lastControlUs = input.controlUs ∧
        (s.iterate mix input).1.nextControlDueUs =
          advanceDue (input.controlUs / controlStepUs + 1) s.nextControlDueUs input.controlUs) := by
  by_cases early : input.controlUs < s.nextControlDueUs
  -- Too early, the iteration touches neither variable.
  · left
    unfold iterate
    dsimp only
    rw [if_pos early]
    exact ⟨early, rfl, rfl⟩
  · -- A control step whose sample fails moves the schedule as any other does.
    right
    unfold iterate
    dsimp only
    rw [if_neg early]
    dsimp only
    exact ⟨Nat.le_of_not_lt early, rfl, rfl⟩

end RunState

section Due

variable {boot : BootClock} {input : Nat → IterationInput F} {n : Nat}

/-- What the schedule of the loop satisfies after `n` iterations. -/
structure Scheduled (boot : BootClock) (input : Nat → IterationInput F) (n : Nat)
    (s : RunState F) : Prop where
  begun : boot.bootUs ≤ s.lastControlUs
  past : s.lastControlUs ≤ controlClock boot input n
  next : NextOnGrid boot.bootUs controlStepUs s.lastControlUs s.nextControlDueUs

/-- The loop that moves the due time ends, at the next point of the grid behind the clock. -/
theorem dueLoop_ends {s : RunState F} (scheduled : Scheduled boot input n s)
    (clock : ControlClock boot input (n + 1)) (due : s.nextControlDueUs ≤ (input n).controlUs) :
    ∃ next, (∀ fuel, (input n).controlUs / controlStepUs < fuel →
        runWhile (hasReached (input n).controlUs) advanceDueOnce fuel
          (advanceDueOnce s.nextControlDueUs) = some next) ∧
      NextOnGrid boot.bootUs controlStepUs (input n).controlUs next := by
  have fits : (input n).controlUs < 2 ^ 63 := clock.fits (n + 1) le_rfl
  -- Up to the clock the sum is far from 64 bits.
  have exact : ∀ due ≤ (input n).controlUs, advanceDueOnce due = due + controlStepUs := by
    intro due reached
    have small : due + controlStepUs < 2 ^ 64 := by
      unfold controlStepUs
      omega
    exact Nat.mod_eq_of_lt small
  -- The first advance leaves the grid point behind the one that was due.
  obtain ⟨k, point⟩ := scheduled.next.aligned
  have aligned : s.nextControlDueUs + controlStepUs = boot.bootUs + (k + 1) * controlStepUs := by
    rw [point, Nat.succ_mul, Nat.add_assoc]
  rw [exact _ due]
  -- As many turns suffice as periods fit below the clock.
  refine catchUp_ends exact ((input n).controlUs / controlStepUs) ⟨k + 1, aligned⟩ (by omega) ?_
  have covered := Nat.lt_div_mul_add (show 0 < controlStepUs by decide) (a := (input n).controlUs)
  omega

end Due

section Schedule

variable [FloatArith F] (mix : Mix F) (boot : BootClock) (input : Nat → IterationInput F)

/-- Iteration `n` comes to its control step. -/
def ControlStepAt (n : Nat) : Prop :=
  (nodeAt mix boot input n).nextControlDueUs ≤ (input n).controlUs

/-- Whether an iteration steps is seen from its report. -/
instance (n : Nat) : Decidable (ControlStepAt mix boot input n) :=
  inferInstanceAs (Decidable (_ ≤ _))

/-- `control_elapsed_us` of iteration `n`, if it comes to its control step. -/
def controlElapsedUs (n : Nat) : Nat :=
  clockSub (input n).controlUs (nodeAt mix boot input n).lastControlUs

variable {mix boot input} {n : Nat}

/-- One iteration keeps the schedule. -/
theorem Scheduled.iterate {s : RunState F} (scheduled : Scheduled boot input n s)
    (clock : ControlClock boot input (n + 1)) (mix : Mix F) :
    Scheduled boot input (n + 1) (s.iterate mix (input n)).1 := by
  have forward : controlClock boot input n ≤ (input n).controlUs :=
    clock.forward n (Nat.lt_succ_self n)
  have past := scheduled.past
  rcases s.iterate_schedule mix (input n) with ⟨-, last, next⟩ | ⟨due, last, next⟩
  -- Without a control step only the clock has moved.
  · refine ⟨?_, ?_, ?_⟩
    · rw [last]
      exact scheduled.begun
    · rw [last]
      exact past.trans forward
    · rw [last, next]
      exact scheduled.next
  · -- After a control step the loop has found the next due time.
    obtain ⟨found, ends, onGrid⟩ := dueLoop_ends scheduled clock due
    have advanced := advanceDue_of_runWhile (ends _ (Nat.lt_succ_self _)) le_rfl
    refine ⟨?_, ?_, ?_⟩
    · rw [last]
      exact (scheduled.begun.trans past).trans forward
    · rw [last]
      exact le_rfl
    · rw [last, next, advanced]
      exact onGrid

/-- The loop is entered with the clock at boot. -/
theorem nodeAt_zero_lastControlUs (mix : Mix F) (boot : BootClock)
    (input : Nat → IterationInput F) : (nodeAt mix boot input 0).lastControlUs = boot.bootUs := rfl

/-- Throughout a run the schedule is kept. -/
theorem nodeAt_scheduled (mix : Mix F) (clock : ControlClock boot input n) :
    Scheduled boot input n (nodeAt mix boot input n) := by
  -- The induction is on the iterations.
  induction n with
  | zero =>
    have fits : boot.bootUs < 2 ^ 63 := clock.fits 0 le_rfl
    -- The first due time, one period after boot, is far from 64 bits.
    have first : (boot.bootUs + controlStepUs) % 2 ^ 64 = boot.bootUs + controlStepUs := by
      apply Nat.mod_eq_of_lt
      unfold controlStepUs
      omega
    refine ⟨le_rfl, le_rfl, ?_⟩
    show NextOnGrid boot.bootUs controlStepUs boot.bootUs ((boot.bootUs + controlStepUs) % 2 ^ 64)
    rw [first]
    exact nextOnGrid_origin (by decide)
  | succ n ih => exact (ih (clock.earlier (Nat.le_succ n))).iterate clock mix

/-- A control step leaves the clock it read. -/
theorem ControlStepAt.lastControlUs (step : ControlStepAt mix boot input n) :
    (nodeAt mix boot input (n + 1)).lastControlUs = (input n).controlUs := by
  rcases (nodeAt mix boot input n).iterate_schedule mix (input n) with
    ⟨early, -, -⟩ | ⟨-, last, -⟩
  · exact absurd step (Nat.not_le.mpr early)
  · exact last

/-- Behind that clock a control step leaves the next due time of its grid. -/
theorem ControlStepAt.leaves (step : ControlStepAt mix boot input n)
    (clock : ControlClock boot input (n + 1)) :
    NextOnGrid boot.bootUs controlStepUs (input n).controlUs
      (nodeAt mix boot input (n + 1)).nextControlDueUs := by
  have scheduled := nodeAt_scheduled mix clock
  -- After the step the clock it read is the last one remembered.
  rw [← step.lastControlUs]
  exact scheduled.next

/-- The loop of a control step ends with the due time that the step leaves. -/
theorem ControlStepAt.dueLoop (step : ControlStepAt mix boot input n)
    (clock : ControlClock boot input (n + 1)) {fuel : Nat}
    (enough : (input n).controlUs / controlStepUs < fuel) :
    runWhile (hasReached (input n).controlUs) advanceDueOnce fuel
      (advanceDueOnce (nodeAt mix boot input n).nextControlDueUs) =
        some (nodeAt mix boot input (n + 1)).nextControlDueUs := by
  have scheduled := nodeAt_scheduled mix (clock.earlier (Nat.le_succ n))
  obtain ⟨found, ends, -⟩ := dueLoop_ends scheduled clock step
  have advanced := advanceDue_of_runWhile (ends _ (Nat.lt_succ_self _)) le_rfl
  rcases (nodeAt mix boot input n).iterate_schedule mix (input n) with
    ⟨early, -, -⟩ | ⟨-, -, next⟩
  · exact absurd step (Nat.not_le.mpr early)
  -- What the loop found is what the iteration stored.
  · have left : (nodeAt mix boot input (n + 1)).nextControlDueUs = found := next.trans advanced
    rw [left]
    exact ends fuel enough

/-- An iteration without a control step leaves the schedule alone. -/
theorem nodeAt_succ_schedule (early : ¬ ControlStepAt mix boot input n) :
    (nodeAt mix boot input (n + 1)).lastControlUs = (nodeAt mix boot input n).lastControlUs ∧
      (nodeAt mix boot input (n + 1)).nextControlDueUs =
        (nodeAt mix boot input n).nextControlDueUs := by
  rcases (nodeAt mix boot input n).iterate_schedule mix (input n) with ⟨-, same⟩ | ⟨due, -⟩
  · exact same
  · exact absurd due early

/-- Due times only move on. -/
theorem nodeAt_due_mono (mix : Mix F) {j k : Nat} (order : j ≤ k)
    (clock : ControlClock boot input k) :
    (nodeAt mix boot input j).nextControlDueUs ≤ (nodeAt mix boot input k).nextControlDueUs := by
  induction k, order using Nat.le_induction with
  | base => exact le_rfl
  | succ k later ih =>
    have earlier := ih (clock.earlier (Nat.le_succ k))
    by_cases step : ControlStepAt mix boot input k
    · -- A control step was due, and the next due time lies behind its clock.
      have next := (step.leaves clock).later
      exact earlier.trans (Nat.le_trans step next.le)
    · rw [(nodeAt_succ_schedule step).2]
      exact earlier

/-- Two control steps lie in different windows of the grid. -/
theorem ControlStepAt.window_lt {j k : Nat} (first : ControlStepAt mix boot input j)
    (second : ControlStepAt mix boot input k) (order : j < k)
    (clock : ControlClock boot input (k + 1)) :
    gridWindow boot.bootUs controlStepUs (input j).controlUs <
      gridWindow boot.bootUs controlStepUs (input k).controlUs := by
  have left := first.leaves (clock.earlier (by omega))
  have begun : boot.bootUs ≤ (input j).controlUs := clock.mono (Nat.zero_le (j + 1)) (by omega)
  -- The second step waits for a due time that the first one has passed on.
  have due := nodeAt_due_mono mix order (clock.earlier (Nat.le_succ k))
  exact left.window_lt (by decide) begun (due.trans second)

/-- A control step adds to the time that has passed what has passed since the last one. -/
theorem ControlStepAt.elapsed (step : ControlStepAt mix boot input n)
    (clock : ControlClock boot input (n + 1)) :
    (nodeAt mix boot input n).lastControlUs + controlElapsedUs mix boot input n =
      (nodeAt mix boot input (n + 1)).lastControlUs := by
  have past := (nodeAt_scheduled mix (clock.earlier (Nat.le_succ n))).past
  have forward : controlClock boot input n ≤ (input n).controlUs :=
    clock.forward n (Nat.lt_succ_self n)
  have fits : (input n).controlUs < 2 ^ 63 := clock.fits (n + 1) le_rfl
  -- The clock ran forward since the last step, so the difference does not wrap.
  unfold controlElapsedUs clockSub
  rw [wrappingSub_of_le (past.trans forward) (by omega), step.lastControlUs]
  omega

/-- The elapsed times of all control steps so far add up to the time from boot to the last one. -/
theorem sum_controlElapsedUs (clock : ControlClock boot input n) :
    boot.bootUs + ∑ k ∈ Finset.range n,
      (if ControlStepAt mix boot input k then controlElapsedUs mix boot input k else 0) =
      (nodeAt mix boot input n).lastControlUs := by
  -- The induction is on the iterations.
  induction n with
  | zero => rw [Finset.sum_range_zero, nodeAt_zero_lastControlUs, Nat.add_zero]
  | succ n ih =>
    -- The sum up to here reaches the last control step.
    have before := ih (clock.earlier (Nat.le_succ n))
    rw [Finset.sum_range_succ, ← Nat.add_assoc, before]
    by_cases step : ControlStepAt mix boot input n
    · rw [if_pos step]
      exact step.elapsed clock
    -- Nothing is added, and nothing was remembered.
    · rw [if_neg step, (nodeAt_succ_schedule step).1]
      rfl

/--
The control steps keep to a grid of 2500 microseconds, and no time gets lost between them.

After each of them the loop over the due time has ended, at the first point of the grid behind the
clock, so that no window of the grid sees two.
-/
theorem control_schedule
    (forward : ∀ k, controlClock boot input k ≤ controlClock boot input (k + 1))
    (fits : ∀ k, controlClock boot input k < 2 ^ 63) :
    (∀ n, ControlStepAt mix boot input n →
      (∃ turns, ∀ fuel, turns < fuel →
        runWhile (hasReached (input n).controlUs) advanceDueOnce fuel
          (advanceDueOnce (nodeAt mix boot input n).nextControlDueUs) =
            some (nodeAt mix boot input (n + 1)).nextControlDueUs) ∧
      (nodeAt mix boot input (n + 1)).nextControlDueUs ≡ boot.bootUs [MOD controlStepUs] ∧
      (input n).controlUs < (nodeAt mix boot input (n + 1)).nextControlDueUs ∧
      (nodeAt mix boot input (n + 1)).nextControlDueUs ≤ (input n).controlUs + controlStepUs) ∧
    (∀ j k, ControlStepAt mix boot input j → ControlStepAt mix boot input k →
      gridWindow boot.bootUs controlStepUs (input j).controlUs =
        gridWindow boot.bootUs controlStepUs (input k).controlUs → j = k) ∧
    (∀ n, boot.bootUs + ∑ k ∈ Finset.range n,
      (if ControlStepAt mix boot input k then controlElapsedUs mix boot input k else 0) =
        (nodeAt mix boot input n).lastControlUs) := by
  have clock : ∀ n, ControlClock boot input n := fun n => ⟨fun k _ => forward k, fun k _ => fits k⟩
  refine ⟨?_, ?_, fun n => sum_controlElapsedUs (clock n)⟩
  · intro n step
    -- All of these are the next point of the grid, which the step leaves.
    have next := step.leaves (clock (n + 1))
    exact ⟨⟨_, fun fuel enough => step.dueLoop (clock (n + 1)) enough⟩, next.congruent, next.later,
      next.near⟩
  · intro j k first second same
    -- Otherwise one of the two comes first, and its window lies before the other one.
    rcases Nat.lt_trichotomy j k with before | equal | after
    · exact absurd same (first.window_lt second before (clock (k + 1))).ne
    · exact equal
    · exact absurd same (second.window_lt first after (clock (j + 1))).ne'

end Schedule

/-- An idle node whose iterations come late, and whose first sample fails. -/
def lateBench (k : Nat) : IterationInput ℚ where
  nowUs := min (7000 * (k + 1)) 70000
  polled := true
  command := {}
  rx := []
  linkUs := min (7000 * (k + 1)) 70000
  safetyUs := min (7000 * (k + 1)) 70000
  controlUs := min (7000 * (k + 1)) 70000
  sensed := if k = 0 then none else some ⟨0, 0, 0, 0, 0, 0⟩
  reportUs := min (7000 * (k + 1)) 70000

/-- Two periods late, the first control step still leaves a due time on the grid. -/
theorem control_schedule_lateBench :
    (nodeAt Controller.mix ⟨900, 1000⟩ lateBench 1).nextControlDueUs ≡ 1000 [MOD 2500] := by
  have forward : ∀ k, controlClock ⟨900, 1000⟩ lateBench k ≤
      controlClock ⟨900, 1000⟩ lateBench (k + 1) := by
    intro k
    cases k with
    | zero => decide
    | succ k =>
      rw [controlClock_succ, controlClock_succ]
      dsimp only [lateBench]
      omega
  have fits : ∀ k, controlClock ⟨900, 1000⟩ lateBench k < 2 ^ 63 := by
    intro k
    cases k with
    | zero => decide
    | succ k =>
      rw [controlClock_succ]
      dsimp only [lateBench]
      omega
  exact ((control_schedule forward fits).1 0 (by decide)).2.1

end AmpFc
