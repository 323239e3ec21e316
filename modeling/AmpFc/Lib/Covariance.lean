import Mathlib.Tactic

/-! Two-by-two covariances over an ordered field: what time and a measurement do to them. -/

namespace AmpFc

/-- The four entries of a two-by-two matrix. -/
structure Covariance (K : Type*) where
  p00 : K
  p01 : K
  p10 : K
  p11 : K

namespace Covariance

section Algebra

variable {K : Type*} [Field K]

/-- The determinant. -/
def det (p : Covariance K) : K := p.p00 * p.p11 - p.p01 * p.p10

/-- The first coordinate loses `t` times the second: a matrix between a shear and its transpose. -/
def shear (t : K) (p : Covariance K) : Covariance K where
  p00 := p.p00 + t * (t * p.p11 - p.p01 - p.p10)
  p01 := p.p01 - t * p.p11
  p10 := p.p10 - t * p.p11
  p11 := p.p11

/-- Independent noise on the two coordinates. -/
def addNoise (first second : K) (p : Covariance K) : Covariance K :=
  { p with p00 := p.p00 + first, p11 := p.p11 + second }

/-- The first coordinate is measured with noise `r`. -/
def condition (r : K) (p : Covariance K) : Covariance K where
  p00 := p.p00 - p.p00 / (p.p00 + r) * p.p00
  p01 := p.p01 - p.p00 / (p.p00 + r) * p.p01
  p10 := p.p10 - p.p10 / (p.p00 + r) * p.p00
  p11 := p.p11 - p.p10 / (p.p00 + r) * p.p01

/-- A shear keeps the determinant. -/
theorem shear_det (t : K) (p : Covariance K) : (p.shear t).det = p.det := by
  simp only [det, shear]
  ring

/-- A measurement takes the same share of the determinant as of the measured variance. -/
theorem condition_det {p : Covariance K} {r : K} (innovation : p.p00 + r ≠ 0) :
    (p.condition r).det = r / (p.p00 + r) * p.det := by
  simp only [det, condition]
  field_simp
  ring

end Algebra

section Order

variable {K : Type*} [Field K] [LinearOrder K] [IsStrictOrderedRing K]

/-- Symmetric and positive definite. -/
structure WellPosed (p : Covariance K) : Prop where
  symmetric : p.p01 = p.p10
  p00_pos : 0 < p.p00
  p11_pos : 0 < p.p11
  det_pos : 0 < p.det

variable {p : Covariance K}

/-- A symmetric matrix is positive definite as soon as a corner and the determinant are positive. -/
theorem WellPosed.of_det (symmetric : p.p01 = p.p10) (corner : 0 < p.p00) (det : 0 < p.det) :
    p.WellPosed where
  symmetric := symmetric
  p00_pos := corner
  p11_pos := by
    -- The product of the diagonal exceeds a square.
    have square : 0 ≤ p.p01 * p.p10 := symmetric ▸ mul_self_nonneg p.p01
    have product : 0 < p.p00 * p.p11 := by
      rw [Covariance.det] at det
      linarith
    exact (mul_pos_iff_of_pos_left corner).mp product
  det_pos := det

/-- A shear keeps a covariance well posed. -/
theorem WellPosed.shear (posed : p.WellPosed) (t : K) : (p.shear t).WellPosed := by
  have det : 0 < (p.shear t).det := by
    rw [shear_det]
    exact posed.det_pos
  have symmetric : (p.shear t).p01 = (p.shear t).p10 := by
    simp only [Covariance.shear, posed.symmetric]
  -- The second corner is kept, and with the determinant it makes the first one positive.
  have square : 0 ≤ (p.shear t).p01 * (p.shear t).p10 := symmetric ▸ mul_self_nonneg _
  have product : 0 < (p.shear t).p00 * p.p11 := by
    have unfolded : (p.shear t).det =
        (p.shear t).p00 * p.p11 - (p.shear t).p01 * (p.shear t).p10 := rfl
    rw [unfolded] at det
    linarith
  exact .of_det symmetric ((mul_pos_iff_of_pos_right posed.p11_pos).mp product) det

/-- Noise keeps a covariance well posed. -/
theorem WellPosed.addNoise (posed : p.WellPosed) {first second : K} (one : 0 ≤ first)
    (two : 0 ≤ second) : (p.addNoise first second).WellPosed where
  symmetric := posed.symmetric
  p00_pos := add_pos_of_pos_of_nonneg posed.p00_pos one
  p11_pos := add_pos_of_pos_of_nonneg posed.p11_pos two
  det_pos := by
    have old : 0 < p.p00 * p.p11 - p.p01 * p.p10 := posed.det_pos
    -- The product of the diagonal grows, and the other entries stay.
    have grown : p.p00 * p.p11 ≤ (p.p00 + first) * (p.p11 + second) :=
      mul_le_mul (le_add_of_nonneg_right one) (le_add_of_nonneg_right two) posed.p11_pos.le
        (add_nonneg posed.p00_pos.le one)
    show 0 < (p.p00 + first) * (p.p11 + second) - p.p01 * p.p10
    linarith

/-- A measurement keeps a covariance well posed. -/
theorem WellPosed.condition (posed : p.WellPosed) {r : K} (noise : 0 < r) :
    (p.condition r).WellPosed := by
  have innovation : 0 < p.p00 + r := add_pos posed.p00_pos noise
  -- The measurement leaves a share of what was there.
  have share : 0 < r / (p.p00 + r) := div_pos noise innovation
  apply WellPosed.of_det
  · simp only [Covariance.condition, posed.symmetric]
    ring
  · have kept : (p.condition r).p00 = r / (p.p00 + r) * p.p00 := by
      simp only [Covariance.condition]
      field_simp
      ring
    rw [kept]
    exact mul_pos share posed.p00_pos
  · rw [condition_det innovation.ne']
    exact mul_pos share posed.det_pos

end Order

end Covariance

section Gain

variable {K : Type*} [Field K] [LinearOrder K] [IsStrictOrderedRing K]

/-- A gain strictly between zero and one. -/
theorem gain_between {p r : K} (positive : 0 < p) (noise : 0 < r) :
    0 < p / (p + r) ∧ p / (p + r) < 1 := by
  have innovation : 0 < p + r := add_pos positive noise
  refine ⟨div_pos positive innovation, ?_⟩
  rw [div_lt_one innovation]
  exact lt_add_of_pos_right p noise

/-- Moving by a share of the way toward a target ends on the segment to it. -/
theorem add_share_mem_uIcc {start target share : K} (low : 0 ≤ share) (high : share ≤ 1) :
    start + share * (target - start) ∈ Set.uIcc start target := by
  -- The target lies above the start or below it.
  rcases le_total start target with rising | falling
  · rw [Set.uIcc_of_le rising]
    have way := sub_nonneg.mpr rising
    exact ⟨by nlinarith, by nlinarith⟩
  · rw [Set.uIcc_of_ge falling]
    have way := sub_nonneg.mpr falling
    exact ⟨by nlinarith, by nlinarith⟩

end Gain

end AmpFc
