import Mathlib.Data.Rat.Floor

/-! The single-precision operations the sources perform, with exact rationals as one reading. -/

namespace AmpFc

/--
The float operations that the sources apply, left uninterpreted.

Comparisons are Booleans with no law attached, so that an unordered operand is covered too.
-/
class FloatArith (F : Type) extends Add F, Sub F, Mul F, Div F, Neg F where
  /-- The float nearest to a literal or to a converted integer. -/
  ofRat : ℚ → F
  /-- The C++ operator `<` on floats. -/
  lt : F → F → Bool
  /-- The C++ operator `<=` on floats. -/
  le : F → F → Bool
  /-- `std::lround`. -/
  lround : F → Int
  /-- `static_cast<std::uint16_t>`. -/
  toUInt16 : F → UInt16
  /-- `static_cast<std::uint32_t>`. -/
  toUInt32 : F → UInt32
  /-- The object representation, as it is copied into shared memory. -/
  bits : F → UInt32

namespace FloatArith

variable {F : Type} [FloatArith F]

/-- `std::clamp`, which compares with `<` only. -/
def clamp (value lo hi : F) : F :=
  -- A value that compares with neither bound is returned unchanged.
  if lt value lo then lo else if lt hi value then hi else value

end FloatArith

/-- Truncation toward zero, as a float-to-integer conversion rounds. -/
def truncRat (value : ℚ) : Int :=
  -- The numerator carries the sign, and the denominator is positive.
  value.num.tdiv value.den

/-- Rounding to the nearest integer, halves away from zero. -/
def lroundRat (value : ℚ) : Int :=
  -- Adding a half before truncating moves away from zero on either side.
  if value < 0 then truncRat (value - 1 / 2) else truncRat (value + 1 / 2)

/--
The binary32 pattern of a rational that the format holds exactly.

The exponent is found from the bit lengths of numerator and denominator.
-/
def binary32Bits (value : ℚ) : UInt32 :=
  -- Zero has its own pattern, every other value is normalised to a 24-bit significand.
  if value = 0 then 0
  else
    let magnitude := |value|
    let guess : Int := Nat.log2 magnitude.num.natAbs - Nat.log2 magnitude.den
    let exponent := if magnitude < 2 ^ guess then guess - 1 else guess
    let significand := (truncRat (magnitude * 2 ^ (23 - exponent))).toNat
    let sign : Nat := if value < 0 then 2 ^ 31 else 0
    UInt32.ofNat (sign + ((exponent + 127).toNat * 2 ^ 23 + (significand - 2 ^ 23)))

/-- Exact rational arithmetic is one reading of the float operations. -/
instance : FloatArith ℚ where
  -- Every operation is exact, and conversions truncate as the casts do.
  ofRat value := value
  lt left right := decide (left < right)
  le left right := decide (left ≤ right)
  lround := lroundRat
  toUInt16 value := UInt16.ofNat (truncRat value).toNat
  toUInt32 value := UInt32.ofNat (truncRat value).toNat
  bits := binary32Bits

/-- Rounding a literal to a float never turns the order of two literals around. -/
class OrderedLiterals (F : Type) [FloatArith F] : Prop where
  not_lt : ∀ {left right : ℚ}, right ≤ left →
    FloatArith.lt (FloatArith.ofRat left : F) (FloatArith.ofRat right) = false

/-- The rationals order their literals as they are. -/
instance : OrderedLiterals ℚ where
  not_lt ordered := decide_eq_false (not_lt.mpr ordered)

/-- A value once clamped between two literals in order is not changed by clamping it again. -/
theorem FloatArith.clamp_clamp {F : Type} [FloatArith F] [OrderedLiterals F] {lo hi : ℚ}
    (ordered : lo ≤ hi) (value : F) :
    clamp (clamp value (ofRat lo) (ofRat hi)) (ofRat lo) (ofRat hi) =
      clamp value (ofRat lo) (ofRat hi) := by
  have below : lt (ofRat lo : F) (ofRat lo) = false := OrderedLiterals.not_lt le_rfl
  have across : lt (ofRat hi : F) (ofRat lo) = false := OrderedLiterals.not_lt ordered
  have above : lt (ofRat hi : F) (ofRat hi) = false := OrderedLiterals.not_lt le_rfl
  unfold clamp
  cases low : lt value (ofRat lo) with
  | true => simp [below, across]
  | false =>
    cases high : lt (ofRat hi) value with
    | true => simp [across, above]
    | false => simp [low, high]

end AmpFc
