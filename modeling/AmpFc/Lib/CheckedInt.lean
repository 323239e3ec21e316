import Mathlib.Tactic

/-! Signed machine arithmetic in which an overflow or a zero divisor leaves no result. -/

namespace AmpFc

/-- The values that a signed type of this width holds. -/
def Fits (bits : Nat) (value : Int) : Prop :=
  -2 ^ (bits - 1) ≤ value ∧ value < 2 ^ (bits - 1)

/-- Whether a value fits is decided by its two bounds. -/
instance (bits : Nat) (value : Int) : Decidable (Fits bits value) :=
  inferInstanceAs (Decidable (_ ∧ _))

/-- A value as it is stored in a signed type, if the type holds it. -/
def checked (bits : Nat) (value : Int) : Option Int :=
  if Fits bits value then some value else none

/-- Signed addition. -/
def checkedAdd (bits : Nat) (left right : Int) : Option Int := checked bits (left + right)

/-- Signed subtraction. -/
def checkedSub (bits : Nat) (left right : Int) : Option Int := checked bits (left - right)

/-- Signed multiplication. -/
def checkedMul (bits : Nat) (left right : Int) : Option Int := checked bits (left * right)

/-- Signed negation. -/
def checkedNeg (bits : Nat) (value : Int) : Option Int := checked bits (-value)

/-- Signed division, which truncates toward zero. -/
def checkedDiv (bits : Nat) (left right : Int) : Option Int :=
  if right = 0 then none else checked bits (left.tdiv right)

/-- A bound on the magnitude of a value. -/
def Within (bound : Nat) (value : Int) : Prop := value.natAbs ≤ bound

/-- So is whether it lies within a bound. -/
instance (bound : Nat) (value : Int) : Decidable (Within bound value) :=
  inferInstanceAs (Decidable (_ ≤ _))

section Magnitudes

variable {a b : Nat} {left right value : Int}

/-- Zero is within every bound. -/
theorem Within.zero : Within a 0 := Nat.zero_le a

/-- A wider bound holds as well. -/
theorem Within.mono (within : Within a value) (wider : a ≤ b) : Within b value :=
  Nat.le_trans within wider

/-- The bounds of a sum add up. -/
theorem Within.add (first : Within a left) (second : Within b right) :
    Within (a + b) (left + right) := by
  unfold Within at *
  omega

/-- So do those of a difference. -/
theorem Within.sub (first : Within a left) (second : Within b right) :
    Within (a + b) (left - right) := by
  unfold Within at *
  omega

/-- The bound of a negated value is the same. -/
theorem Within.neg (within : Within a value) : Within a (-value) := by
  unfold Within at *
  omega

/-- The bounds of a product multiply. -/
theorem Within.mul (first : Within a left) (second : Within b right) :
    Within (a * b) (left * right) := by
  unfold Within at *
  rw [Int.natAbs_mul]
  exact Nat.mul_le_mul first second

/-- Truncating division never makes a value larger. -/
theorem Within.tdiv (first : Within a left) (right : Int) : Within a (left.tdiv right) := by
  unfold Within at *
  -- Truncating division is division of the magnitudes.
  rw [Int.natAbs_tdiv]
  exact Nat.le_trans (Nat.div_le_self _ _) first

/-- The sum of `n` values divided by `n` is no larger than each of them. -/
theorem Within.tdiv_count {count : Nat} (first : Within (a * count) left) :
    Within a (left.tdiv count) := by
  unfold Within at *
  rw [Int.natAbs_tdiv, Int.natAbs_natCast]
  exact Nat.div_le_of_le_mul (by rw [Nat.mul_comm]; exact first)

/-- Whichever branch is taken, the common bound holds. -/
theorem Within.ite {condition : Prop} [Decidable condition] (first : Within a left)
    (second : Within a right) : Within a (if condition then left else right) := by
  split
  · exact first
  · exact second

end Magnitudes

section Operations

variable {a b : Nat} {left right value : Int}

/-- A magnitude below the bound of the type is held by it. -/
theorem Within.fits {bits : Nat} (within : Within a value) (small : a < 2 ^ (bits - 1)) :
    Fits bits value := by
  -- Both ends of the type's range are that far from zero at least.
  have low : (value.natAbs : Int) < 2 ^ (bits - 1) := by
    exact_mod_cast Nat.lt_of_le_of_lt within small
  constructor
  · omega
  · omega

variable (bits : Nat)

/-- A value within a small bound is representable. -/
theorem checked_eq (within : Within a value) (small : a < 2 ^ (bits - 1)) :
    checked bits value = some value :=
  if_pos (within.fits small)

/-- A sum of values within small bounds does not overflow. -/
theorem checkedAdd_eq (first : Within a left) (second : Within b right)
    (small : a + b < 2 ^ (bits - 1)) : checkedAdd bits left right = some (left + right) :=
  checked_eq bits (first.add second) small

/-- Nor does a difference, -/
theorem checkedSub_eq (first : Within a left) (second : Within b right)
    (small : a + b < 2 ^ (bits - 1)) : checkedSub bits left right = some (left - right) :=
  checked_eq bits (first.sub second) small

/-- nor a product, -/
theorem checkedMul_eq (first : Within a left) (second : Within b right)
    (small : a * b < 2 ^ (bits - 1)) : checkedMul bits left right = some (left * right) :=
  checked_eq bits (first.mul second) small

/-- nor a negated value, -/
theorem checkedNeg_eq (within : Within a value) (small : a < 2 ^ (bits - 1)) :
    checkedNeg bits value = some (-value) :=
  checked_eq bits within.neg small

/-- nor a quotient by anything but zero. -/
theorem checkedDiv_eq (first : Within a left) (nonzero : right ≠ 0)
    (small : a < 2 ^ (bits - 1)) : checkedDiv bits left right = some (left.tdiv right) := by
  -- Truncation never makes a value larger, so the dividend's bound is enough.
  rw [checkedDiv, if_neg nonzero]
  exact checked_eq bits (first.tdiv right) small

end Operations

section Results

variable {bits : Nat} {left right value result : Int}

/-- A checked value is the value, and fits. -/
theorem checked_eq_some :
    checked bits value = some result ↔ Fits bits value ∧ value = result := by
  unfold checked
  split_ifs with fits <;> simp [fits]

/-- A checked quotient is the quotient, of a divisor other than zero. -/
theorem checkedDiv_eq_some :
    checkedDiv bits left right = some result ↔
      right ≠ 0 ∧ Fits bits (left.tdiv right) ∧ left.tdiv right = result := by
  unfold checkedDiv
  split_ifs with zero <;> simp [zero, checked_eq_some]

end Results

end AmpFc
