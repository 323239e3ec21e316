import AmpFc.Common.Float
import Mathlib.Order.WithBot

/-! How floats compare, and binary32 values with their infinities and the unordered value. -/

namespace AmpFc

open FloatArith (clamp le lt ofRat)

/-- Comparison as IEEE 754 has it: unordered values compare with nothing, the others linearly. -/
class FloatOrder (F : Type) [FloatArith F] : Prop where
  lt_eq : ∀ left right : F, lt left right = (le left right && !le right left)
  refl_left : ∀ {left right : F}, le left right = true → le left left = true
  refl_right : ∀ {left right : F}, le left right = true → le right right = true
  total : ∀ {left right : F}, le left left = true → le right right = true →
    le left right = true ∨ le right left = true
  trans : ∀ {left middle right : F}, le left middle = true → le middle right = true →
    le left right = true
  /-- Rounding a literal is monotone. -/
  literals : ∀ {left right : ℚ}, left ≤ right → le (ofRat left : F) (ofRat right) = true

section Comparison

variable {F : Type} [FloatArith F]

/-- `std::isnan`: an unordered value is not even below itself. -/
def isNan (value : F) : Bool :=
  !le value value

/-- A value between two literals; no unordered value is. -/
def Between (value : F) (lo hi : ℚ) : Prop :=
  le (ofRat lo) value = true ∧ le value (ofRat hi) = true

/-- Both bounds are tested, as the sources test them. -/
instance (value : F) (lo hi : ℚ) : Decidable (Between value lo hi) :=
  inferInstanceAs (Decidable (_ ∧ _))

/-- A finite value less itself is zero, however other differences are rounded. -/
class FloatDifference (F : Type) [FloatArith F] : Prop where
  sub_self : ∀ {value : F} {lo hi : ℚ}, -2 ^ 127 ≤ lo → hi ≤ 2 ^ 127 → Between value lo hi →
    value - value = ofRat 0

variable [FloatOrder F]

/-- Literals keep their order, whatever rounding does to them. -/
instance : OrderedLiterals F where
  not_lt ordered := by
    rw [FloatOrder.lt_eq, FloatOrder.literals ordered]
    simp

/-- Among ordered values, one is below the other exactly if it is not reached from it. -/
theorem lt_eq_not_le {left right : F} (leftOrdered : isNan left = false)
    (rightOrdered : isNan right = false) : lt left right = !le right left := by
  simp only [isNan, Bool.not_eq_false'] at leftOrdered rightOrdered
  rw [FloatOrder.lt_eq]
  -- Where the reverse comparison fails, totality decides the forward one.
  cases reverse : le right left with
  | true => simp
  | false =>
    rcases FloatOrder.total leftOrdered rightOrdered with forward | backward
    · simp [forward]
    · rw [backward] at reverse
      cases reverse

/-- No comparison with an unordered value on its left holds. -/
theorem lt_of_isNan_left {left : F} (unordered : isNan left = true) (right : F) :
    lt left right = false := by
  rw [FloatOrder.lt_eq]
  cases forward : le left right with
  | false => rfl
  | true => simp [isNan, FloatOrder.refl_left forward] at unordered

/-- Nor does one with an unordered value on its right. -/
theorem lt_of_isNan_right {right : F} (unordered : isNan right = true) (left : F) :
    lt left right = false := by
  rw [FloatOrder.lt_eq]
  cases forward : le left right with
  | false => rfl
  | true => simp [isNan, FloatOrder.refl_right forward] at unordered

/-- Literals are ordered. -/
@[simp] theorem isNan_ofRat (value : ℚ) : isNan (ofRat value : F) = false := by
  simp [isNan, FloatOrder.literals le_rfl]

/-- What lies between two literals is ordered. -/
theorem Between.ordered {value : F} {lo hi : ℚ} (within : Between value lo hi) :
    isNan value = false := by
  simp [isNan, FloatOrder.refl_left within.2]

/-- An ordered value lies between two literals exactly if it is on the wrong side of neither. -/
theorem between_iff {value : F} (ordered : isNan value = false) (lo hi : ℚ) :
    Between value lo hi ↔ (lt value (ofRat lo) || lt (ofRat hi) value) = false := by
  rw [lt_eq_not_le ordered (isNan_ofRat lo), lt_eq_not_le (isNan_ofRat hi) ordered]
  simp [Between]

/-- A value already between the bounds is not changed by clamping. -/
theorem clamp_of_between {value : F} {lo hi : ℚ} (within : Between value lo hi) :
    clamp value (ofRat lo) (ofRat hi) = value := by
  have inside := (between_iff within.ordered lo hi).mp within
  simp only [Bool.or_eq_false_iff] at inside
  unfold clamp
  rw [inside.1, inside.2]
  simp

/-- An unordered value passes through every clamp. -/
theorem clamp_of_isNan {value : F} (unordered : isNan value = true) (lo hi : F) :
    clamp value lo hi = value := by
  unfold clamp
  rw [lt_of_isNan_left unordered, lt_of_isNan_right unordered]
  simp

/-- Clamping between two literals fails to confine a value exactly if it is unordered. -/
theorem clamp_between_iff {lo hi : ℚ} (bounds : lo ≤ hi) (value : F) :
    Between (clamp value (ofRat lo) (ofRat hi)) lo hi ↔ isNan value = false := by
  constructor
  · intro within
    by_contra unordered
    rw [Bool.not_eq_false] at unordered
    -- The unordered value comes out as it went in, and is between no bounds.
    rw [clamp_of_isNan unordered] at within
    rw [within.ordered] at unordered
    cases unordered
  · intro ordered
    unfold clamp
    cases below : lt value (ofRat lo) with
    | true =>
      simp only [if_true]
      exact ⟨FloatOrder.literals le_rfl, FloatOrder.literals bounds⟩
    | false =>
      cases above : lt (ofRat hi) value with
      | true =>
        simp only [Bool.false_eq_true, if_false, if_true]
        exact ⟨FloatOrder.literals bounds, FloatOrder.literals le_rfl⟩
      | false =>
        simp only [Bool.false_eq_true, if_false]
        exact (between_iff ordered lo hi).mpr (by simp [below, above])

end Comparison

/-- The rationals are ordered as the laws ask. -/
instance : FloatOrder ℚ where
  lt_eq left right := by
    change decide (left < right) = (decide (left ≤ right) && !decide (right ≤ left))
    rw [Bool.eq_iff_iff, Bool.and_eq_true, Bool.not_eq_true', decide_eq_true_iff,
      decide_eq_true_iff, decide_eq_false_iff_not, lt_iff_le_not_ge]
  refl_left _ := decide_eq_true le_rfl
  refl_right _ := decide_eq_true le_rfl
  total _ _ := by
    rename_i left right _ _
    rcases le_total left right with forward | backward
    · exact Or.inl (decide_eq_true forward)
    · exact Or.inr (decide_eq_true backward)
  trans below above := decide_eq_true ((of_decide_eq_true below).trans (of_decide_eq_true above))
  literals ordered := decide_eq_true ordered

/--
A binary32 value up to rounding.

The two zeros are one value, and a finite value may be any rational.
Sums and products are exact, so what depends on their rounding is proved of every float type with
the laws above.
-/
inductive Single
  | nan
  | infinite (negative : Bool)
  | finite (value : ℚ)
  deriving DecidableEq, Repr

namespace Single

/-- Addition; infinities of opposite signs have no sum. -/
def add : Single → Single → Single
  | finite left, finite right => finite (left + right)
  | infinite left, infinite right => if left = right then infinite left else nan
  | infinite left, finite _ => infinite left
  | finite _, infinite right => infinite right
  | _, _ => nan

/-- Negation. -/
def neg : Single → Single
  | nan => nan
  | infinite negative => infinite (!negative)
  | finite value => finite (-value)

/-- Multiplication; an infinity times zero is unordered. -/
def mul : Single → Single → Single
  | finite left, finite right => finite (left * right)
  | infinite left, infinite right => infinite (left != right)
  | infinite left, finite right =>
    if right = 0 then nan else infinite (left != decide (right < 0))
  | finite left, infinite right =>
    if left = 0 then nan else infinite (right != decide (left < 0))
  | _, _ => nan

/-- Division, with a divisor of zero taken as the positive zero. -/
def div : Single → Single → Single
  | finite left, finite right =>
    if right ≠ 0 then finite (left / right)
    else if left = 0 then nan else infinite (decide (left < 0))
  | infinite left, finite right => infinite (left != decide (right < 0))
  | finite _, infinite _ => finite 0
  | _, _ => nan

/-- The comparison `<=`: false as soon as one side is unordered. -/
def le : Single → Single → Bool
  | finite left, finite right => decide (left ≤ right)
  | infinite left, infinite right => left || !right
  | infinite left, finite _ => left
  | finite _, infinite right => !right
  | _, _ => false

/-- The comparison `<`. -/
def lt : Single → Single → Bool
  | finite left, finite right => decide (left < right)
  | infinite left, infinite right => left && !right
  | infinite left, finite _ => left
  | finite _, infinite right => !right
  | _, _ => false

/-- A conversion to an unsigned integer below `bound`, which saturates as the hardware does. -/
def toUnsigned (bound : Nat) : Single → Nat
  | nan => bound - 1
  | infinite negative => if negative then 0 else bound - 1
  | finite value => min (truncRat value).toNat (bound - 1)

/-- `std::lround`, which saturates at the range of `long`. -/
def lround : Single → Int
  | nan => 2 ^ 63 - 1
  | infinite negative => if negative then -2 ^ 63 else 2 ^ 63 - 1
  | finite value => max (-2 ^ 63) (min (lroundRat value) (2 ^ 63 - 1))

/-- The object representation, with the canonical pattern for the unordered value. -/
def bits : Single → UInt32
  | nan => 0x7FC00000
  | infinite negative => if negative then 0xFF800000 else 0x7F800000
  | finite value => binary32Bits value

/-- The operations on single-precision values, with infinities and a value that is no number. -/
instance : FloatArith Single where
  add := add
  sub left right := left.add right.neg
  mul := mul
  div := div
  neg := neg
  ofRat := finite
  lt := lt
  le := le
  lround := lround
  toUInt16 value := UInt16.ofNat (value.toUnsigned (2 ^ 32))
  toUInt32 value := UInt32.ofNat (value.toUnsigned (2 ^ 32))
  bits := bits

/-- Only the unordered value is not below itself. -/
@[simp] theorem isNan_iff (value : Single) : isNan value = true ↔ value = nan := by
  cases value with
  | nan => simp [isNan, FloatArith.le, le]
  | infinite negative => cases negative <;> simp [isNan, FloatArith.le, le]
  | finite value => simp [isNan, FloatArith.le, le]

/-- Where an ordered value lies among the rationals and their two ends. -/
def position : Single → Option (WithBot (WithTop ℚ))
  | nan => none
  | infinite negative => some (if negative then ⊥ else ((⊤ : WithTop ℚ) : WithBot (WithTop ℚ)))
  | finite value => some ((value : WithTop ℚ) : WithBot (WithTop ℚ))

/-- The comparison is the order of positions. -/
theorem le_iff (left right : Single) :
    left.le right = true ↔ ∃ x ∈ left.position, ∃ y ∈ right.position, x ≤ y := by
  -- Nothing compares with a NaN, and the infinities lie at the ends.
  cases left with
  | nan => simp [le, position]
  | infinite left =>
    cases right with
    | nan => simp [le, position]
    | infinite right => cases left <;> cases right <;> simp [le, position]
    | finite right => cases left <;> simp [le, position]
  | finite left =>
    cases right with
    | nan => simp [le, position]
    | infinite right => cases right <;> simp [le, position]
    | finite right => simp [le, position]

/-- So is the strict comparison. -/
theorem lt_iff (left right : Single) :
    left.lt right = true ↔ ∃ x ∈ left.position, ∃ y ∈ right.position, x < y := by
  -- Nothing compares with a NaN, and the infinities lie at the ends.
  cases left with
  | nan => simp [lt, position]
  | infinite left =>
    cases right with
    | nan => simp [lt, position]
    | infinite right => cases left <;> cases right <;> simp [lt, position]
    | finite right => cases left <;> simp [lt, position]
  | finite left =>
    cases right with
    | nan => simp [lt, position]
    | infinite right =>
      cases right with
      | true => simp [lt, position]
      | false =>
        have finiteBelow : ((left : WithTop ℚ) : WithBot (WithTop ℚ)) < (⊤ : WithTop ℚ) :=
          WithBot.coe_lt_coe.mpr (WithTop.coe_lt_top left)
        exact ⟨fun _ => ⟨_, rfl, _, rfl, finiteBelow⟩, fun _ => rfl⟩
    | finite right => simp [lt, position]

/-- Its comparisons obey the laws. -/
instance : FloatOrder Single where
  lt_eq left right := by
    change left.lt right = (left.le right && !right.le left)
    -- Without a position both sides are false, with two the order of positions decides.
    rw [Bool.eq_iff_iff, Bool.and_eq_true, Bool.not_eq_true', ← Bool.not_eq_true, lt_iff, le_iff,
      le_iff]
    constructor
    · intro below
      obtain ⟨x, atLeft, y, atRight, below⟩ := below
      refine ⟨⟨x, atLeft, y, atRight, below.le⟩, ?_⟩
      intro reverse
      obtain ⟨y', atRight', x', atLeft', reverse⟩ := reverse
      obtain rfl := Option.mem_unique atLeft atLeft'
      obtain rfl := Option.mem_unique atRight atRight'
      exact below.not_ge reverse
    · intro ordered
      obtain ⟨⟨x, atLeft, y, atRight, -⟩, reverse⟩ := ordered
      refine ⟨x, atLeft, y, atRight, lt_of_not_ge ?_⟩
      intro above
      exact reverse ⟨y, atRight, x, atLeft, above⟩
  refl_left {left right} below := by
    obtain ⟨x, atLeft, -⟩ := (le_iff left right).mp below
    exact (le_iff left left).mpr ⟨x, atLeft, x, atLeft, le_rfl⟩
  refl_right {left right} below := by
    obtain ⟨-, -, y, atRight, -⟩ := (le_iff left right).mp below
    exact (le_iff right right).mpr ⟨y, atRight, y, atRight, le_rfl⟩
  total {left right} leftOrdered rightOrdered := by
    obtain ⟨x, atLeft, -⟩ := (le_iff left left).mp leftOrdered
    obtain ⟨y, atRight, -⟩ := (le_iff right right).mp rightOrdered
    rcases le_total x y with forward | backward
    · exact Or.inl ((le_iff left right).mpr ⟨x, atLeft, y, atRight, forward⟩)
    · exact Or.inr ((le_iff right left).mpr ⟨y, atRight, x, atLeft, backward⟩)
  trans {left middle right} below above := by
    obtain ⟨x, atLeft, y, atMiddle, below⟩ := (le_iff left middle).mp below
    obtain ⟨y', atMiddle', z, atRight, above⟩ := (le_iff middle right).mp above
    obtain rfl := Option.mem_unique atMiddle atMiddle'
    exact (le_iff left right).mpr ⟨x, atLeft, z, atRight, below.trans above⟩
  literals {left right} ordered := by
    change decide (left ≤ right) = true
    exact decide_eq_true ordered

/-- A value between two literals is finite. -/
theorem finite_of_between {value : Single} {lo hi : ℚ} (within : Between value lo hi) :
    ∃ rational, value = .finite rational := by
  cases value with
  | nan => cases within.1
  | infinite negative =>
    -- Neither infinity has literals on both sides.
    cases negative with
    | false => cases within.2
    | true => cases within.1
  | finite rational => exact ⟨rational, rfl⟩

/-- A finite value less itself is zero. -/
instance : FloatDifference Single where
  sub_self _ _ within := by
    obtain ⟨rational, rfl⟩ := finite_of_between within
    change Single.finite (rational + -rational) = Single.finite 0
    rw [add_neg_cancel]

end Single

end AmpFc
