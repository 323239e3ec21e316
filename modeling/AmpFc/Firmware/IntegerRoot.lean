import AmpFc.Firmware.Sensors

/-! The digit-by-digit square root of the sensor pipeline is the integer square root. -/

namespace AmpFc.Firmware

/--
Where the digit loop stands: the root found so far, before the digit worth `place` is decided.

The variable `res` holds twice the root times the place, and `v` what the root's square left over.
-/
structure RootState (total place root : Nat) (v res bit : UInt64) : Prop where
  bit : bit.toNat = place * place
  res : res.toNat = 2 * root * place
  rest : v.toNat + root * root = total
  below : total < (root + 2 * place) * (root + 2 * place)
  room : root + 2 * place ≤ 2 ^ 32

/-- What a turn of the loop has made of the root once the digit is decided. -/
structure RootStep (total place root : Nat) (v res : UInt64) : Prop where
  res : res.toNat = root * place
  rest : v.toNat + root * root = total
  below : total < (root + place) * (root + place)
  room : root + place ≤ 2 ^ 32

/-- The probe bit of the last digit is one, and the next shift takes it out. -/
theorem lastProbe {bit : UInt64} (one : bit.toNat = 1) : bit = 1 ∧ bit >>> 2 = 0 := by
  have same : bit = 1 := UInt64.toNat_inj.mp one
  rw [same]
  exact ⟨rfl, rfl⟩

namespace RootState

variable {total place root : Nat} {v res bit : UInt64}

/-- The sum that the loop compares with never overflows. -/
theorem sum (state : RootState total place root v res bit) :
    (res + bit).toNat = 2 * root * place + place * place := by
  have small : 2 * root * place + place * place < 2 ^ 64 := by
    -- The sum is what the square of the root grows by with this digit.
    have square : (root + place) * (root + place) < 2 ^ 32 * 2 ^ 32 ∨ place = 0 := by
      by_cases none : place = 0
      · exact Or.inr none
      · left
        have room := state.room
        exact Nat.mul_lt_mul'' (by omega) (by omega)
    rcases square with below | none
    · nlinarith
    · simp [none]
  rw [UInt64.toNat_add, state.res, state.bit, Nat.mod_eq_of_lt small]

/-- Half of what is kept is the root found so far, in its place. -/
theorem half (state : RootState total place root v res bit) :
    (res >>> 1).toNat = root * place := by
  rw [UInt64.toNat_shiftRight, state.res, Nat.shiftRight_eq_div_pow]
  have twice : 2 * root * place = 2 * (root * place) := Nat.mul_assoc _ _ _
  rw [twice]
  simp

/-- A digit that fits is taken into the root. -/
theorem take (state : RootState total place root v res bit) (fits : v ≥ res + bit) :
    RootStep total place (root + place) (v - (res + bit)) ((res >>> 1) + bit) := by
  have sum := state.sum
  have enough : 2 * root * place + place * place ≤ v.toNat := by
    rw [← sum]
    exact UInt64.le_iff_toNat_le.mp fits
  have rest := state.rest
  have below := state.below
  have room := state.room
  refine ⟨?_, ?_, ?_, by omega⟩
  · -- The new result is the old one halved, plus the digit at its place.
    have small : root * place + place * place < 2 ^ 64 := by
      have fitting := v.toNat_lt
      nlinarith
    rw [UInt64.toNat_add, state.half, state.bit, Nat.mod_eq_of_lt small]
    ring
  · -- The remainder loses what the square gains.
    rw [UInt64.toNat_sub_of_le _ _ fits, sum]
    have square : (root + place) * (root + place) =
        root * root + (2 * root * place + place * place) := by ring
    omega
  · have same : root + place + place = root + 2 * place := by ring
    rw [same]
    exact below

/-- A digit that does not fit leaves the root as it was. -/
theorem skip (state : RootState total place root v res bit) (large : ¬ v ≥ res + bit) :
    RootStep total place root v (res >>> 1) := by
  have short : v.toNat < 2 * root * place + place * place := by
    rw [← state.sum]
    exact UInt64.lt_iff_toNat_lt.mp (UInt64.not_le.mp large)
  have rest := state.rest
  have room := state.room
  refine ⟨state.half, rest, ?_, by omega⟩
  have square : (root + place) * (root + place) =
      root * root + (2 * root * place + place * place) := by ring
  omega

end RootState

/-- A step leaves a state for a place of half the value. -/
theorem RootStep.next {total half root : Nat} {v res bit : UInt64}
    (step : RootStep total (2 * half) root v res) (square : bit.toNat = 2 * half * (2 * half)) :
    RootState total half root v res (bit >>> 2) := by
  refine ⟨?_, ?_, step.rest, step.below, step.room⟩
  · rw [UInt64.toNat_shiftRight, square, Nat.shiftRight_eq_div_pow]
    have fourfold : 2 * half * (2 * half) = 4 * (half * half) := by ring
    rw [fourfold]
    simp
  · rw [step.res]
    ring

/-- Without a probe bit the loop is over. -/
theorem ampIsqrtDigits_zero (fuel : Nat) (v res : UInt64) : ampIsqrtDigits fuel v res 0 = res := by
  cases fuel with
  | zero => rfl
  | succ fuel => rfl

/-- From the place `2 ^ k` on, `k + 1` turns complete the root. -/
theorem ampIsqrtDigits_root {total root k fuel : Nat} {v res bit : UInt64}
    (state : RootState total (2 ^ k) root v res bit) (enough : k < fuel) :
    (ampIsqrtDigits fuel v res bit).toNat * (ampIsqrtDigits fuel v res bit).toNat ≤ total ∧
      total < ((ampIsqrtDigits fuel v res bit).toNat + 1) *
        ((ampIsqrtDigits fuel v res bit).toNat + 1) := by
  -- The induction is on the places left, each of which takes one turn.
  induction k generalizing root fuel v res bit with
  | zero =>
    obtain ⟨fuel, rfl⟩ : ∃ turns, fuel = turns + 1 := ⟨fuel - 1, by omega⟩
    obtain ⟨one, last⟩ := lastProbe (show bit.toNat = 1 by simpa using state.bit)
    have finish : ∀ {root : Nat} {v res : UInt64}, RootStep total 1 root v res →
        res.toNat * res.toNat ≤ total ∧ total < (res.toNat + 1) * (res.toNat + 1) := by
      intro root v res step
      rw [step.res, Nat.mul_one]
      exact ⟨by have rest := step.rest; omega, step.below⟩
    unfold ampIsqrtDigits
    rw [if_neg (by rw [one]; decide), last, ampIsqrtDigits_zero, ampIsqrtDigits_zero]
    split
    · rename_i fits
      exact finish (state.take fits)
    · rename_i large
      exact finish (state.skip large)
  | succ k ih =>
    obtain ⟨fuel, rfl⟩ : ∃ turns, fuel = turns + 1 := ⟨fuel - 1, by omega⟩
    rw [Nat.pow_succ'] at state
    have nonzero : bit ≠ 0 := by
      intro zero
      have square := state.bit
      rw [zero] at square
      have positive : 0 < 2 * 2 ^ k * (2 * 2 ^ k) := by positivity
      exact absurd square.symm (Nat.ne_of_gt positive)
    unfold ampIsqrtDigits
    rw [if_neg nonzero]
    split
    · rename_i fits
      exact ih ((state.take fits).next state.bit) (by omega)
    · rename_i large
      exact ih ((state.skip large).next state.bit) (by omega)

/-- The first loop stops at the largest power of four that the value reaches. -/
theorem ampIsqrtSeek_power {v : UInt64} {k fuel : Nat} {bit : UInt64}
    (power : bit.toNat = 4 ^ k) (below : v.toNat < 4 ^ (k + 1)) (enough : k < fuel) :
    v = 0 ∧ ampIsqrtSeek v fuel bit = 0 ∨
      ∃ j ≤ k, (ampIsqrtSeek v fuel bit).toNat = 4 ^ j ∧
        4 ^ j ≤ v.toNat ∧ v.toNat < 4 ^ (j + 1) := by
  -- The induction is on the exponent, which falls by one with each turn.
  induction k generalizing fuel bit with
  | zero =>
    obtain ⟨fuel, rfl⟩ : ∃ turns, fuel = turns + 1 := ⟨fuel - 1, by omega⟩
    obtain ⟨one, last⟩ := lastProbe (show bit.toNat = 1 by simpa using power)
    unfold ampIsqrtSeek
    split
    · rename_i above
      have none : v = 0 := by
        apply UInt64.toNat_inj.mp
        have small := UInt64.lt_iff_toNat_lt.mp above
        rw [one] at small
        simpa using small
      refine Or.inl ⟨none, ?_⟩
      rw [none, last]
      cases fuel with
      | zero => rfl
      | succ fuel => rfl
    · rename_i reached
      exact Or.inr ⟨0, le_rfl, power, by
        rw [← power]; exact UInt64.le_iff_toNat_le.mp (UInt64.not_lt.mp reached), below⟩
  | succ k ih =>
    obtain ⟨fuel, rfl⟩ : ∃ turns, fuel = turns + 1 := ⟨fuel - 1, by omega⟩
    unfold ampIsqrtSeek
    split
    · rename_i above
      have quarter : (bit >>> 2).toNat = 4 ^ k := by
        rw [UInt64.toNat_shiftRight, power, Nat.shiftRight_eq_div_pow, pow_succ]
        simp
      have small : v.toNat < 4 ^ (k + 1) := by
        rw [← power]
        exact UInt64.lt_iff_toNat_lt.mp above
      have left : k < fuel := by omega
      rcases ih quarter small left with none | ⟨j, order, found⟩
      · exact Or.inl none
      · exact Or.inr ⟨j, by omega, found⟩
    · rename_i reached
      exact Or.inr ⟨k + 1, le_rfl, power, by
        rw [← power]; exact UInt64.le_iff_toNat_le.mp (UInt64.not_lt.mp reached), below⟩

/-- The first loop stops at the place of the first digit, unless the value is zero. -/
theorem ampIsqrtSeek_state (v : UInt64) :
    v = 0 ∧ ampIsqrtSeek v 32 0x4000000000000000 = 0 ∨
      ∃ j ≤ 31, RootState v.toNat (2 ^ j) 0 v 0 (ampIsqrtSeek v 32 0x4000000000000000) := by
  have start : (0x4000000000000000 : UInt64).toNat = 4 ^ 31 := by decide
  rcases ampIsqrtSeek_power start (by have fitting := v.toNat_lt; omega) (by omega : 31 < 32)
    with none | ⟨j, order, found, reached, below⟩
  · exact Or.inl none
  · -- The first place is the square root of the power that was found.
    have square : (4 : Nat) ^ j = 2 ^ j * 2 ^ j := by rw [← Nat.mul_pow]
    refine Or.inr ⟨j, order, by rw [found, square], by simp, by simp, ?_, ?_⟩
    · rw [pow_succ, square] at below
      linarith
    · have room : 2 ^ j ≤ 2 ^ 31 := Nat.pow_le_pow_right (by decide) order
      omega

/-- The digit loop, from where the first loop stopped, finds the integer square root. -/
theorem ampIsqrtDigits_seek (v : UInt64) :
    let root := (ampIsqrtDigits 32 v 0 (ampIsqrtSeek v 32 0x4000000000000000)).toNat
    root * root ≤ v.toNat ∧ v.toNat < (root + 1) * (root + 1) := by
  -- A value of zero has no digits, and every other one starts at the place of its first.
  rcases ampIsqrtSeek_state v with ⟨none, stopped⟩ | ⟨j, order, state⟩
  · rw [stopped, ampIsqrtDigits_zero, none]
    decide
  · exact ampIsqrtDigits_root state (by omega)

/-- `amp_isqrt64` computes the integer square root. -/
theorem ampIsqrt64_bounds (v : UInt64) :
    (ampIsqrt64 v).toNat * (ampIsqrt64 v).toNat ≤ v.toNat ∧
      v.toNat < ((ampIsqrt64 v).toNat + 1) * ((ampIsqrt64 v).toNat + 1) := by
  have found := ampIsqrtDigits_seek v
  -- The root of a 64-bit value fits in the 32 bits it is cast to.
  have kept : (ampIsqrt64 v).toNat =
      (ampIsqrtDigits 32 v 0 (ampIsqrtSeek v 32 0x4000000000000000)).toNat := by
    unfold ampIsqrt64
    rw [UInt64.toNat_toUInt32]
    refine Nat.mod_eq_of_lt ?_
    by_contra large
    have fitting := v.toNat_lt
    have huge := Nat.mul_le_mul (Nat.not_lt.mp large) (Nat.not_lt.mp large)
    have square := found.1
    omega
  rw [kept]
  exact found

end AmpFc.Firmware
