import AmpFc.Lib.Loop
import AmpFc.Firmware.IntegerRoot

/-! The two loops of the square root: both end, and no turn of the second one overflows. -/

namespace AmpFc.Firmware

/-- The variables of the second loop of `amp_isqrt64`. -/
structure RootVars where
  v : UInt64
  res : UInt64
  bit : UInt64

/-- The condition of the first loop. -/
def probeAbove (v bit : UInt64) : Bool := bit > v

/-- What both loops do to the probe bit. -/
def probeDown (bit : UInt64) : UInt64 := bit >>> 2

namespace RootVars

/-- The condition of the second loop. -/
def digitsLeft (vars : RootVars) : Bool := vars.bit != 0

/-- The body of the second loop. -/
def turn (vars : RootVars) : RootVars :=
  -- The digit is one where the remainder covers the sum.
  if vars.v ≥ vars.res + vars.bit then
    { v := vars.v - (vars.res + vars.bit)
      res := (vars.res >>> 1) + vars.bit
      bit := probeDown vars.bit }
  else { vars with res := vars.res >>> 1, bit := probeDown vars.bit }

end RootVars

/-- `amp_isqrt64`, each of whose loops may test its condition as often as it has fuel. -/
def ampIsqrt64Loops (fuel : Nat) (v : UInt64) : Option UInt32 :=
  (runWhile (probeAbove v) probeDown fuel 0x4000000000000000).bind fun bit =>
    (runWhile RootVars.digitsLeft RootVars.turn fuel { v := v, res := 0, bit := bit }).map
      fun vars => vars.res.toUInt32

/-- The probe bit loses two places with every turn. -/
theorem probeDown_iterate (bit : UInt64) (k : Nat) :
    (probeDown^[k] bit).toNat = bit.toNat / 4 ^ k := by
  induction k generalizing bit with
  | zero => simp
  | succ k ih =>
    -- The first of the turns divides by four, and the others by what is left of the power.
    have quarter : (probeDown bit).toNat = bit.toNat / 4 := by
      unfold probeDown
      rw [UInt64.toNat_shiftRight, Nat.shiftRight_eq_div_pow]
      rfl
    rw [Function.iterate_succ_apply, ih, quarter, Nat.div_div_eq_div_mul, pow_succ, Nat.mul_comm 4]

/-- After 32 turns nothing is left of the probe bit. -/
theorem probeDown_gone (bit : UInt64) : probeDown^[32] bit = 0 := by
  have fitting := bit.toNat_lt
  apply UInt64.toNat_inj.mp
  rw [probeDown_iterate]
  -- The power is that of the 64 bits of the word.
  exact Nat.div_eq_of_lt fitting

/-- A turn moves the probe bit down, whether or not it takes the digit. -/
theorem RootVars.turn_bit (vars : RootVars) : vars.turn.bit = probeDown vars.bit := by
  unfold turn
  split <;> rfl

/-- The probe goes down by one place in each turn. -/
theorem RootVars.turn_iterate_bit (vars : RootVars) (k : Nat) :
    (turn^[k] vars).bit = probeDown^[k] vars.bit := by
  induction k generalizing vars with
  | zero => rfl
  -- So the bit does not depend on the digits that were taken.
  | succ k ih => rw [Function.iterate_succ_apply, Function.iterate_succ_apply, ih, turn_bit]

/-- The first loop ends where the digits begin. -/
theorem ampIsqrtSeek_of_runWhile {v bit found : UInt64} {fuel more : Nat}
    (ends : runWhile (probeAbove v) probeDown fuel bit = some found) (enough : fuel ≤ more + 1) :
    ampIsqrtSeek v more bit = found := by
  -- The induction is on the turns that the loop was allowed.
  induction fuel generalizing bit more with
  | zero => cases ends
  | succ fuel ih =>
    unfold runWhile at ends
    by_cases above : bit > v
    · have turns : probeAbove v bit = true := decide_eq_true above
      rw [if_pos turns] at ends
      -- A turn that is followed by another test was one of those allowed.
      cases more with
      | zero =>
        rw [show fuel = 0 by omega] at ends
        cases ends
      | succ more =>
        unfold ampIsqrtSeek
        rw [if_pos above]
        exact ih ends (by omega)
    · have done : probeAbove v bit = false := decide_eq_false above
      rw [done] at ends
      have same : bit = found := Option.some.inj ends
      cases more with
      | zero => exact same
      | succ more =>
        unfold ampIsqrtSeek
        rw [if_neg above]
        exact same

/-- The second loop ends with the digits. -/
theorem ampIsqrtDigits_of_runWhile {vars last : RootVars} {fuel more : Nat}
    (ends : runWhile RootVars.digitsLeft RootVars.turn fuel vars = some last)
    (enough : fuel ≤ more + 1) : ampIsqrtDigits more vars.v vars.res vars.bit = last.res := by
  induction fuel generalizing vars more with
  | zero => cases ends
  | succ fuel ih =>
    unfold runWhile at ends
    by_cases gone : vars.bit = 0
    -- Without a probe bit both stop with the root they have.
    · have done : vars.digitsLeft = false := by simp [RootVars.digitsLeft, gone]
      rw [done] at ends
      rw [gone, ampIsqrtDigits_zero]
      exact congrArg RootVars.res (Option.some.inj ends)
    · have left : vars.digitsLeft = true := by simp [RootVars.digitsLeft, gone]
      rw [if_pos left] at ends
      cases more with
      | zero =>
        rw [show fuel = 0 by omega] at ends
        cases ends
      | succ more =>
        have later := ih ends (show fuel ≤ more + 1 by omega)
        unfold ampIsqrtDigits
        rw [if_neg gone]
        -- The turn and the digit loop decide on the same sum.
        unfold RootVars.turn at later
        split at later
        · rename_i fits
          rw [if_pos fits]
          exact later
        · rename_i large
          rw [if_neg large]
          exact later

/-- Where digits are left, the variables stand for a root found so far. -/
def RootVars.Sound (total : Nat) (vars : RootVars) : Prop :=
  vars.bit ≠ 0 → ∃ k root, RootState total (2 ^ k) root vars.v vars.res vars.bit

/-- A turn of the second loop keeps its variables sound. -/
theorem RootVars.Sound.turn {total : Nat} {vars : RootVars} (sound : vars.Sound total) :
    vars.turn.Sound total := by
  intro more
  -- A bit that is left after the turn was there before it.
  have left : vars.bit ≠ 0 := by
    intro none
    rw [turn_bit, none] at more
    exact more rfl
  obtain ⟨k, root, state⟩ := sound left
  cases k with
  | zero =>
    -- The last digit has the place one, and shifts its bit out.
    have last := (lastProbe (show vars.bit.toNat = 1 by simpa using state.bit)).2
    rw [turn_bit] at more
    exact absurd last more
  | succ k =>
    -- The place is even, so the next one is half of it.
    rw [Nat.pow_succ'] at state
    unfold RootVars.turn
    split
    · rename_i fits
      exact ⟨k, _, (state.take fits).next state.bit⟩
    · rename_i large
      exact ⟨k, _, (state.skip large).next state.bit⟩

/-- Neither sum of a sound turn overflows. -/
theorem RootVars.Sound.sums {total : Nat} {vars : RootVars} (sound : vars.Sound total)
    (left : vars.bit ≠ 0) : vars.res.toNat + vars.bit.toNat < 2 ^ 64 ∧
      (vars.res >>> 1).toNat + vars.bit.toNat < 2 ^ 64 := by
  obtain ⟨k, root, state⟩ := sound left
  -- The sum of the two is what the 64-bit addition gives.
  have sum : (vars.res + vars.bit).toNat = vars.res.toNat + vars.bit.toNat := by
    rw [state.sum, state.res, state.bit]
  have fitting := (vars.res + vars.bit).toNat_lt
  -- Shifting the root down makes the second sum no larger than the first.
  have half : (vars.res >>> 1).toNat ≤ vars.res.toNat := by
    rw [UInt64.toNat_shiftRight, Nat.shiftRight_eq_div_pow]
    exact Nat.div_le_self _ _
  omega

/-- The first loop finds a probe bit from which the second one starts soundly. -/
theorem ampIsqrtSeek_sound (v : UInt64) :
    RootVars.Sound v.toNat { v := v, res := 0, bit := ampIsqrtSeek v 32 0x4000000000000000 } := by
  intro left
  rcases ampIsqrtSeek_state v with ⟨-, stopped⟩ | ⟨j, -, state⟩
  -- For zero the first loop runs out of bits, and the second does not turn.
  · exact absurd stopped left
  · exact ⟨j, 0, state⟩

/--
`amp_isqrt64` is the exact integer square root of every 64-bit value.

Neither loop turns more than 32 times, and no turn of the second one computes a sum of more than 64
bits.
-/
theorem ampIsqrt64_exact (v : UInt64) :
    (∀ fuel, 32 < fuel → ampIsqrt64Loops fuel v = some (ampIsqrt64 v)) ∧
    (∀ fuel bit, runWhile (probeAbove v) probeDown fuel 0x4000000000000000 = some bit → ∀ k,
      let vars := RootVars.turn^[k] { v := v, res := 0, bit := bit }
      vars.digitsLeft = true → vars.res.toNat + vars.bit.toNat < 2 ^ 64 ∧
        (vars.res >>> 1).toNat + vars.bit.toNat < 2 ^ 64) ∧
    (ampIsqrt64 v).toNat * (ampIsqrt64 v).toNat ≤ v.toNat ∧
    v.toNat < ((ampIsqrt64 v).toNat + 1) * ((ampIsqrt64 v).toNat + 1) := by
  -- After 32 turns no loop has a probe bit left to go on with.
  have exhausted : probeAbove v (probeDown^[32] 0x4000000000000000) = false := by
    rw [probeDown_gone]
    exact decide_eq_false (UInt64.not_lt.mpr (UInt64.le_iff_toNat_le.mpr (Nat.zero_le _)))
  obtain ⟨bit, seeks, -, -⟩ := runWhile_ends (probeAbove v) probeDown (fun _ => True)
    (fun _ _ _ => trivial) 32 trivial exhausted
  have found : bit = ampIsqrtSeek v 32 0x4000000000000000 :=
    (ampIsqrtSeek_of_runWhile (seeks 33 (by decide)) le_rfl).symm
  refine ⟨?_, ?_, ampIsqrt64_bounds v⟩
  · intro fuel enough
    -- Every turn moves the bit, so after 32 of them none is left.
    have finished :
        RootVars.digitsLeft (RootVars.turn^[32] { v := v, res := 0, bit := bit }) = false := by
      unfold RootVars.digitsLeft
      rw [RootVars.turn_iterate_bit, probeDown_gone]
      rfl
    obtain ⟨last, digits, -, -⟩ := runWhile_ends RootVars.digitsLeft RootVars.turn
      (fun _ => True) (fun _ _ _ => trivial) 32 trivial finished
    have root := ampIsqrtDigits_of_runWhile (digits 33 (by decide)) le_rfl
    unfold ampIsqrt64Loops ampIsqrt64
    rw [seeks fuel enough, Option.bind_some, digits fuel enough, Option.map_some, ← root, ← found]
  · intro fuel other ends k vars left
    have same : other = bit := runWhile_unique (seeks 33 (by decide)) ends
    -- The loop is sound where it starts, and each turn keeps it so.
    have sound : vars.Sound v.toNat := by
      have start : RootVars.Sound v.toNat { v := v, res := 0, bit := other } := by
        rw [same, found]
        exact ampIsqrtSeek_sound v
      exact Function.Iterate.rec (RootVars.Sound v.toNat) start
        (fun _ kept => RootVars.Sound.turn kept) k
    exact sound.sums (by simpa [RootVars.digitsLeft] using left)

/-- The largest value has the largest root that fits in 32 bits. -/
theorem ampIsqrt64_exact_largest :
    ampIsqrt64Loops 33 0xFFFFFFFFFFFFFFFF = some 0xFFFFFFFF := by
  -- What is left is one run of the model.
  rw [(ampIsqrt64_exact 0xFFFFFFFFFFFFFFFF).1 33 (by decide)]
  decide

end AmpFc.Firmware
