import AmpFc.Rt.FrameHistory

/-! The throttle curve in exact arithmetic: its order, its fixed pulses, the arming threshold. -/

namespace AmpFc

open FloatArith (ofRat)

section Rounding

/-- Truncating what is not negative is rounding down. -/
theorem truncRat_of_nonneg {value : ℚ} (nonneg : 0 ≤ value) : truncRat value = ⌊value⌋ := by
  have sign : 0 ≤ value.num := Rat.num_nonneg.mpr nonneg
  -- Both divide the numerator, and they differ below zero only.
  rw [truncRat, Rat.floor_def', Int.tdiv_eq_ediv_of_nonneg sign]

/-- Rounding what is not negative is adding a half and rounding down. -/
theorem lroundRat_of_nonneg {value : ℚ} (nonneg : 0 ≤ value) :
    lroundRat value = ⌊value + 1 / 2⌋ := by
  have half : (0 : ℚ) ≤ value + 1 / 2 := by linarith
  rw [lroundRat, if_neg (not_lt.mpr nonneg), truncRat_of_nonneg half]

end Rounding

section Curve

variable {expo : ℚ}

/-- The place of a pulse between the two ends of its range, from minus one to one. -/
def centered (valueUs : UInt16) : ℚ :=
  -- The source clamps to the unit interval before it centres.
  (FloatArith.clamp (((valueUs.toNat : ℚ) - 1000) / 1000) 0 1 - 1 / 2) * 2

/-- The cubic that bends the place of a pulse. -/
def bent (expo place : ℚ) : ℚ := (1 - expo) * place + expo * place * place * place

/-- Clamping a rational keeps the order. -/
theorem clamp_rat_mono {value other : ℚ} (ordered : value ≤ other) :
    FloatArith.clamp value (0 : ℚ) 1 ≤ FloatArith.clamp other 0 1 := by
  simp only [FloatArith.clamp, FloatArith.lt, decide_eq_true_eq]
  split_ifs <;> linarith

/-- The place of a pulse lies between the ends. -/
theorem centered_between (valueUs : UInt16) : -1 ≤ centered valueUs ∧ centered valueUs ≤ 1 := by
  have unit : ∀ value : ℚ, 0 ≤ FloatArith.clamp value (0 : ℚ) 1 ∧
      FloatArith.clamp value (0 : ℚ) 1 ≤ 1 := by
    intro value
    simp only [FloatArith.clamp, FloatArith.lt, decide_eq_true_eq]
    split_ifs <;> exact ⟨by linarith, by linarith⟩
  -- The rest is an affine map of the unit interval.
  obtain ⟨low, high⟩ := unit (((valueUs.toNat : ℚ) - 1000) / 1000)
  unfold centered
  exact ⟨by linarith, by linarith⟩

/-- A longer pulse has a higher place. -/
theorem centered_mono {valueUs other : UInt16} (ordered : valueUs ≤ other) :
    centered valueUs ≤ centered other := by
  have count : (valueUs.toNat : ℚ) ≤ other.toNat := by
    exact_mod_cast UInt16.le_iff_toNat_le.mp ordered
  -- The scaling keeps the order, and so does the clamp.
  have inner := clamp_rat_mono (show ((valueUs.toNat : ℚ) - 1000) / 1000 ≤
    ((other.toNat : ℚ) - 1000) / 1000 by linarith)
  unfold centered
  linarith

/-- Within the range nothing is clamped. -/
theorem centered_inside {valueUs : UInt16} (low : 1000 ≤ valueUs.toNat)
    (high : valueUs.toNat ≤ 2000) : centered valueUs = ((valueUs.toNat : ℚ) - 1500) / 500 := by
  have lower : (1000 : ℚ) ≤ valueUs.toNat := by exact_mod_cast low
  have upper : (valueUs.toNat : ℚ) ≤ 2000 := by exact_mod_cast high
  have clamped : FloatArith.clamp (((valueUs.toNat : ℚ) - 1000) / 1000) (0 : ℚ) 1 =
      ((valueUs.toNat : ℚ) - 1000) / 1000 := by
    simp only [FloatArith.clamp, FloatArith.lt, decide_eq_true_eq]
    rw [if_neg (by linarith), if_neg (by linarith)]
  rw [centered, clamped]
  ring

/-- The cubic keeps the order. -/
theorem bent_mono (low : 0 ≤ expo) (high : expo ≤ 95 / 100) {place other : ℚ}
    (ordered : place ≤ other) : bent expo place ≤ bent expo other := by
  -- The difference of two cubes has the sign of the difference.
  have squares : 0 ≤ other * other + other * place + place * place := by
    nlinarith [mul_self_nonneg (other + place), mul_self_nonneg other, mul_self_nonneg place]
  have apart : 0 ≤ other - place := sub_nonneg.mpr ordered
  have factored : bent expo other - bent expo place =
      (other - place) * ((1 - expo) + expo * (other * other + other * place + place * place)) := by
    unfold bent
    ring
  have slope : 0 ≤ (1 - expo) + expo * (other * other + other * place + place * place) :=
    add_nonneg (by linarith) (mul_nonneg low squares)
  have := mul_nonneg apart slope
  linarith

/-- In the lower half the cubic lies above the straight line. -/
theorem le_bent (low : 0 ≤ expo) {place : ℚ} (first : -1 ≤ place) (last : place ≤ 0) :
    place ≤ bent expo place := by
  -- The difference to the straight line is a product of four factors.
  have factored : bent expo place - place = expo * ((-place) * ((1 - place) * (1 + place))) := by
    unfold bent
    ring
  have := mul_nonneg low (mul_nonneg (neg_nonneg.mpr last)
    (mul_nonneg (show 0 ≤ 1 - place by linarith) (show 0 ≤ 1 + place by linarith)))
  linarith

/-- In the upper half it lies below. -/
theorem bent_le (low : 0 ≤ expo) {place : ℚ} (first : 0 ≤ place) (last : place ≤ 1) :
    bent expo place ≤ place := by
  -- The cubic is odd.
  have odd : bent expo (-place) = -bent expo place := by
    unfold bent
    ring
  have := le_bent low (neg_le_neg last) (neg_nonpos.mpr first)
  linarith

/-- The curve stays between the ends, which it fixes. -/
theorem bent_between (low : 0 ≤ expo) (high : expo ≤ 95 / 100) (valueUs : UInt16) :
    -1 ≤ bent expo (centered valueUs) ∧ bent expo (centered valueUs) ≤ 1 := by
  obtain ⟨first, last⟩ := centered_between valueUs
  -- The curve is monotone, so its ends bound it.
  have lower : bent expo (-1) = -1 := by
    unfold bent
    ring
  have upper : bent expo 1 = 1 := by
    unfold bent
    ring
  exact ⟨lower ▸ bent_mono low high first, upper ▸ bent_mono low high last⟩

/-- The curve rounded to whole microseconds stays in the range of the pulses. -/
theorem floor_bent_between (low : 0 ≤ expo) (high : expo ≤ 95 / 100) (valueUs : UInt16) :
    1000 ≤ ⌊1500 + 500 * bent expo (centered valueUs) + 1 / 2⌋ ∧
      ⌊1500 + 500 * bent expo (centered valueUs) + 1 / 2⌋ < 2001 := by
  obtain ⟨lower, upper⟩ := bent_between low high valueUs
  -- The half that rounding adds is not enough for another microsecond.
  constructor
  · apply Int.le_floor.mpr
    push_cast
    linarith
  · apply Int.floor_lt.mpr
    push_cast
    linarith

/-- Shaping a pulse bends its place, scales it back, and rounds. -/
theorem applyThrottleExpo_toNat (low : 0 ≤ expo) (high : expo ≤ 95 / 100) (valueUs : UInt16) :
    ((applyThrottleExpo valueUs expo).toNat : Int) =
      ⌊1500 + 500 * bent expo (centered valueUs) + 1 / 2⌋ := by
  obtain ⟨lower, _⟩ := bent_between low high valueUs
  obtain ⟨least, most⟩ := floor_bent_between low high valueUs
  -- The last clamp and the conversion to sixteen bits change nothing in this range.
  have unfolded : applyThrottleExpo valueUs expo = UInt16.ofNat (max (min (lroundRat
      (1000 + (bent expo (centered valueUs) * (1 / 2) + 1 / 2) * 1000)) 2000) 1000).toNat := rfl
  have scaled : 1000 + (bent expo (centered valueUs) * (1 / 2) + 1 / 2) * 1000 =
      1500 + 500 * bent expo (centered valueUs) := by ring
  rw [unfolded, scaled, lroundRat_of_nonneg (by linarith)]
  generalize ⌊1500 + 500 * bent expo (centered valueUs) + 1 / 2⌋ = rounded at least most
  rw [UInt16.toNat_ofNat']
  omega

/-- A pulse that the range contains, from its place. -/
theorem pulse_eq {valueUs : UInt16} (low : 1000 ≤ valueUs.toNat) (high : valueUs.toNat ≤ 2000) :
    (valueUs.toNat : ℚ) = 1500 + 500 * centered valueUs := by
  rw [centered_inside low high]
  ring

/-- A longer pulse is never shaped into a shorter one. -/
theorem applyThrottleExpo_mono (low : 0 ≤ expo) (high : expo ≤ 95 / 100) {valueUs other : UInt16}
    (ordered : valueUs ≤ other) :
    applyThrottleExpo valueUs expo ≤ applyThrottleExpo other expo := by
  have curve := bent_mono low high (centered_mono ordered)
  -- Rounding down keeps the order of the curve.
  have floors : ((applyThrottleExpo valueUs expo).toNat : Int) ≤
      (applyThrottleExpo other expo).toNat := by
    rw [applyThrottleExpo_toNat low high, applyThrottleExpo_toNat low high]
    apply Int.floor_le_floor
    linarith
  rw [UInt16.le_iff_toNat_le]
  omega

/-- A pulse in the lower half is never lowered. -/
theorem le_applyThrottleExpo (low : 0 ≤ expo) (high : expo ≤ 95 / 100) {valueUs : UInt16}
    (first : 1000 ≤ valueUs) (last : valueUs ≤ 1500) :
    valueUs ≤ applyThrottleExpo valueUs expo := by
  have least : 1000 ≤ valueUs.toNat := UInt16.le_iff_toNat_le.mp first
  have most : valueUs.toNat ≤ 1500 := UInt16.le_iff_toNat_le.mp last
  have place := pulse_eq least (by omega)
  -- Below the centre the place of the pulse is not positive.
  have below : centered valueUs ≤ 0 := by
    have : (valueUs.toNat : ℚ) ≤ 1500 := by exact_mod_cast most
    linarith
  have curve := le_bent low (centered_between valueUs).1 below
  have floors : (valueUs.toNat : Int) ≤ (applyThrottleExpo valueUs expo).toNat := by
    rw [applyThrottleExpo_toNat low high]
    apply Int.le_floor.mpr
    push_cast
    linarith
  rw [UInt16.le_iff_toNat_le]
  omega

/-- A pulse in the upper half is never raised. -/
theorem applyThrottleExpo_le (low : 0 ≤ expo) (high : expo ≤ 95 / 100) {valueUs : UInt16}
    (first : 1500 ≤ valueUs) (last : valueUs ≤ 2000) :
    applyThrottleExpo valueUs expo ≤ valueUs := by
  have least : 1500 ≤ valueUs.toNat := UInt16.le_iff_toNat_le.mp first
  have most : valueUs.toNat ≤ 2000 := UInt16.le_iff_toNat_le.mp last
  have place := pulse_eq (by omega) most
  -- Above it the place is not negative.
  have above : 0 ≤ centered valueUs := by
    have : (1500 : ℚ) ≤ valueUs.toNat := by exact_mod_cast least
    linarith
  have curve := bent_le low above (centered_between valueUs).2
  have floors : ((applyThrottleExpo valueUs expo).toNat : Int) < valueUs.toNat + 1 := by
    rw [applyThrottleExpo_toNat low high]
    apply Int.floor_lt.mpr
    push_cast
    linarith
  rw [UInt16.le_iff_toNat_le]
  omega

/-- A pulse whose place the cubic fixes is shaped into itself. -/
theorem applyThrottleExpo_fixed (low : 0 ≤ expo) (high : expo ≤ 95 / 100) {valueUs : UInt16}
    (inside : 1000 ≤ valueUs.toNat ∧ valueUs.toNat ≤ 2000)
    (fixed : bent expo (centered valueUs) = centered valueUs) :
    applyThrottleExpo valueUs expo = valueUs := by
  -- What is rounded is the pulse itself, plus the half.
  have whole : 1500 + 500 * bent expo (centered valueUs) + 1 / 2 =
      ((valueUs.toNat : Int) : ℚ) + 1 / 2 := by
    rw [fixed, ← pulse_eq inside.1 inside.2]
    push_cast
    rfl
  have floors : ((applyThrottleExpo valueUs expo).toNat : Int) = valueUs.toNat := by
    rw [applyThrottleExpo_toNat low high, whole, Int.floor_intCast_add]
    have half : ⌊(1 / 2 : ℚ)⌋ = 0 := by norm_num
    omega
  apply UInt16.toNat_inj.mp
  omega

/-- Both ends and the centre are kept. -/
theorem applyThrottleExpo_ends (low : 0 ≤ expo) (high : expo ≤ 95 / 100) :
    applyThrottleExpo 1000 expo = 1000 ∧ applyThrottleExpo 1500 expo = 1500 ∧
      applyThrottleExpo 2000 expo = 2000 := by
  -- The cubic fixes the three places minus one, zero and one.
  have lower : centered 1000 = -1 := by
    rw [centered_inside (by decide) (by decide), show UInt16.toNat 1000 = 1000 by rfl]
    norm_num
  have middle : centered 1500 = 0 := by
    rw [centered_inside (by decide) (by decide), show UInt16.toNat 1500 = 1500 by rfl]
    norm_num
  have upper : centered 2000 = 1 := by
    rw [centered_inside (by decide) (by decide), show UInt16.toNat 2000 = 2000 by rfl]
    norm_num
  refine ⟨?_, ?_, ?_⟩
  · apply applyThrottleExpo_fixed low high (by decide)
    rw [lower, bent]
    ring
  · apply applyThrottleExpo_fixed low high (by decide)
    rw [middle, bent]
    ring
  · apply applyThrottleExpo_fixed low high (by decide)
    rw [upper, bent]
    ring

/-- Every shaped pulse lies in the range. -/
theorem applyThrottleExpo_range (low : 0 ≤ expo) (high : expo ≤ 95 / 100) (valueUs : UInt16) :
    1000 ≤ applyThrottleExpo valueUs expo ∧ applyThrottleExpo valueUs expo ≤ 2000 := by
  have rounded := applyThrottleExpo_toNat low high valueUs
  obtain ⟨least, most⟩ := floor_bent_between low high valueUs
  constructor
  · have : 1000 ≤ (applyThrottleExpo valueUs expo).toNat := by omega
    exact UInt16.le_iff_toNat_le.mpr this
  · have : (applyThrottleExpo valueUs expo).toNat ≤ 2000 := by omega
    exact UInt16.le_iff_toNat_le.mpr this

/-- A shaped throttle low enough to arm was that low before it was shaped. -/
theorem raw_throttle_low (low : 0 ≤ expo) (high : expo ≤ 95 / 100) {valueUs : UInt16}
    (shaped : applyThrottleExpo valueUs expo ≤ 1100) : valueUs ≤ 1100 := by
  by_contra above
  have above : 1100 < valueUs := UInt16.not_le.mp above
  rcases UInt16.le_total valueUs 1500 with lower | upper
  -- In the lower half the shaped pulse is at least as long.
  · have start : 1000 ≤ valueUs := UInt16.le_of_lt (UInt16.lt_trans (by decide) above)
    have raised := le_applyThrottleExpo low high start lower
    exact absurd (UInt16.le_trans raised shaped) (UInt16.not_le.mpr above)
  -- In the upper half it is at least the centre.
  · have centre := applyThrottleExpo_mono low high upper
    rw [(applyThrottleExpo_ends low high).2.1] at centre
    exact absurd (UInt16.le_trans centre shaped) (by decide)

end Curve

/--
The throttle curve keeps the order of the pulses, and the arming threshold conservative.

It stays in the range of the pulses, fixes its ends and its centre, never lowers a pulse of the
lower half, and never raises one of the upper half.
A decoded throttle of 1100 or less was received as one.
-/
theorem throttle_curve_conservative {expo : ℚ} (low : 0 ≤ expo) (high : expo ≤ 95 / 100) :
    (∀ valueUs other, valueUs ≤ other →
      applyThrottleExpo valueUs expo ≤ applyThrottleExpo other expo) ∧
    (∀ valueUs, 1000 ≤ applyThrottleExpo valueUs expo ∧ applyThrottleExpo valueUs expo ≤ 2000) ∧
    (applyThrottleExpo 1000 expo = 1000 ∧ applyThrottleExpo 1500 expo = 1500 ∧
      applyThrottleExpo 2000 expo = 2000) ∧
    (∀ valueUs, 1000 ≤ valueUs → valueUs ≤ 1500 → valueUs ≤ applyThrottleExpo valueUs expo) ∧
    (∀ valueUs, 1500 ≤ valueUs → valueUs ≤ 2000 → applyThrottleExpo valueUs expo ≤ valueUs) ∧
    (∀ (r : Receiver ℚ) (frame : List UInt8) (sample : ReceiverSample), r.throttleExpo = expo →
      (r.decodeFrame frame sample).1 = true →
      (r.decodeFrame frame sample).2.channels.us 2 ≤ 1100 →
      (frameChannels frame).us 2 ≤ 1100) := by
  refine ⟨fun _ _ => applyThrottleExpo_mono low high, applyThrottleExpo_range low high,
    applyThrottleExpo_ends low high, fun _ => le_applyThrottleExpo low high,
    fun _ => applyThrottleExpo_le low high, ?_⟩
  intro r frame sample shape valid shaped
  -- A valid frame hands the shaped channels on, and shaping the throttle is the curve.
  have channels :
      (r.decodeFrame frame sample).2.channels = r.shapeChannels (frameChannels frame) := by
    unfold Receiver.decodeFrame at valid ⊢
    split_ifs at valid ⊢
    rfl
  rw [channels, Receiver.shapeChannels_throttle, shape] at shaped
  exact raw_throttle_low low high shaped

/-- With the default expo of 0.45 the ends of the range are fixed. -/
theorem throttle_curve_conservative_default :
    applyThrottleExpo 1000 (45 / 100 : ℚ) = 1000 ∧ applyThrottleExpo 1500 (45 / 100 : ℚ) = 1500 ∧
      applyThrottleExpo 2000 (45 / 100 : ℚ) = 2000 :=
  (throttle_curve_conservative (show (0 : ℚ) ≤ 45 / 100 by norm_num) (by norm_num)).2.2.1

end AmpFc
