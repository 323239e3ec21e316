import AmpFc.Lib.Loop

/-! Due times on a grid, and the loop that catches up with a clock along it. -/

namespace AmpFc

/-- A due time is the first point of the grid behind the clock. -/
structure NextOnGrid (origin period now due : Nat) : Prop where
  aligned : ∃ k, due = origin + k * period
  later : now < due
  near : due ≤ now + period

/-- The window of the grid that a clock reading lies in. -/
def gridWindow (origin period reading : Nat) : Nat := (reading - origin) / period

/-- The clock has reached the due time. -/
def hasReached (now due : Nat) : Bool := now ≥ due

section Grid

variable {origin period now due : Nat}

/-- At the origin the next point is one period away. -/
theorem nextOnGrid_origin (positive : 0 < period) :
    NextOnGrid origin period origin (origin + period) :=
  ⟨⟨1, by rw [Nat.one_mul]⟩, by omega, le_rfl⟩

/-- What is next on a grid differs from its origin by whole periods. -/
theorem NextOnGrid.congruent (next : NextOnGrid origin period now due) :
    due ≡ origin [MOD period] := by
  obtain ⟨k, rfl⟩ := next.aligned
  -- Whole periods vanish modulo the period.
  unfold Nat.ModEq
  rw [Nat.add_mul_mod_self_right]

/-- A reading that has reached the due time lies in a later window than the clock then. -/
theorem NextOnGrid.window_lt (next : NextOnGrid origin period now due) (positive : 0 < period)
    (begun : origin ≤ now) {reading : Nat} (reached : due ≤ reading) :
    gridWindow origin period now < gridWindow origin period reading := by
  obtain ⟨k, rfl⟩ := next.aligned
  have later := next.later
  unfold gridWindow
  -- The due time separates the two windows.
  have before : (now - origin) / period < k := by
    rw [Nat.div_lt_iff_lt_mul positive]
    omega
  have behind : k ≤ (reading - origin) / period := by
    rw [Nat.le_div_iff_mul_le positive]
    omega
  omega

variable {advance : Nat → Nat}

/--
A loop that adds the period until it has passed the clock ends at the next point of the grid.

What the loop adds beyond the clock does not matter, since it never turns there.
-/
theorem catchUp_ends (exact : ∀ due ≤ now, advance due = due + period) (turns : Nat) :
    ∀ {due : Nat}, (∃ k, due = origin + k * period) → due ≤ now + period →
      now < due + turns * period → ∃ next,
        (∀ fuel, turns < fuel →
          runWhile (hasReached now) advance fuel due = some next) ∧
        NextOnGrid origin period now next := by
  -- The induction is on the turns that are left, each of which comes one period nearer.
  induction turns with
  | zero =>
    intro due aligned near passed
    -- Without a turn left the due time has passed the clock.
    have passes : hasReached now due = false := decide_eq_false (by omega)
    have ahead : now < due := by omega
    refine ⟨due, ?_, aligned, ahead, near⟩
    intro fuel enough
    obtain ⟨rest, rfl⟩ := Nat.exists_eq_add_one.mpr enough
    exact runWhile_done passes rest
  | succ turns ih =>
    intro due aligned near passed
    by_cases late : now ≥ due
    · obtain ⟨k, point⟩ := aligned
      have moved := exact due late
      -- Late, the due time lies on the grid and moves to the next point of it.
      have further : due + period = origin + (k + 1) * period := by
        rw [point, Nat.succ_mul, Nat.add_assoc]
      rw [Nat.succ_mul] at passed
      obtain ⟨next, ends, found⟩ := ih ⟨k + 1, further⟩ (show due + period ≤ now + period by omega)
        (show now < due + period + turns * period by omega)
      refine ⟨next, ?_, found⟩
      intro fuel enough
      obtain ⟨rest, rfl⟩ := Nat.exists_eq_add_one.mpr (Nat.zero_lt_of_lt enough)
      -- One test is spent on this turn, and the rest on the others.
      have turned : hasReached now due = true := decide_eq_true late
      unfold runWhile
      rw [if_pos turned, moved]
      exact ends rest (by omega)
    · -- The loop is over already.
      have passes : hasReached now due = false := decide_eq_false late
      refine ⟨due, ?_, aligned, Nat.not_le.mp late, near⟩
      intro fuel enough
      obtain ⟨rest, rfl⟩ := Nat.exists_eq_add_one.mpr (Nat.zero_lt_of_lt enough)
      exact runWhile_done passes rest

end Grid

end AmpFc
