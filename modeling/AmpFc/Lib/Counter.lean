import Mathlib.Tactic

/-! Free-running counters of a fixed width, read as natural numbers and subtracted modularly. -/

namespace AmpFc

/-- The difference of two readings of a counter that is `bits` wide. -/
def wrappingSub (bits later earlier : Nat) : Nat :=
  -- Unsigned subtraction wraps instead of going below zero.
  (later + 2 ^ bits - earlier % 2 ^ bits) % 2 ^ bits

/-- Between two ordered readings of a counter that did not wrap, the difference is exact. -/
theorem wrappingSub_of_le {bits later earlier : Nat} (ordered : earlier ≤ later)
    (fits : later < 2 ^ bits) : wrappingSub bits later earlier = later - earlier := by
  -- The earlier reading also fits, so one full turn cancels.
  have small : earlier % 2 ^ bits = earlier := Nat.mod_eq_of_lt (by omega)
  have turn : later + 2 ^ bits - earlier = (later - earlier) + 2 ^ bits := by omega
  rw [wrappingSub, small, turn, Nat.add_mod_right, Nat.mod_eq_of_lt (by omega)]

/-- A reading in other units: multiplied in so many bits, and then divided. -/
def scaledReading (bits factor divisor reading : Nat) : Nat :=
  reading * factor % 2 ^ bits / divisor

/-- How often the product has wrapped that a reading is converted by. -/
def productWraps (bits factor reading : Nat) : Nat := reading * factor / 2 ^ bits

/-- A later reading has wrapped at least as often. -/
theorem productWraps_mono (bits factor : Nat) {earlier later : Nat} (order : earlier ≤ later) :
    productWraps bits factor earlier ≤ productWraps bits factor later :=
  Nat.div_le_div_right (Nat.mul_le_mul_right factor order)

section Scaled

variable {bits factor divisor earlier later : Nat}

/-- The product is its wraps, the reading in its new units, and a remainder of the division. -/
theorem product_eq (bits factor reading : Nat) (positive : 0 < divisor) : ∃ rest < divisor,
    reading * factor = 2 ^ bits * productWraps bits factor reading +
      (divisor * scaledReading bits factor divisor reading + rest) := by
  refine ⟨reading * factor % 2 ^ bits % divisor, Nat.mod_lt _ positive, ?_⟩
  unfold productWraps scaledReading
  -- Twice a quotient and a remainder: by the width, and then by the divisor.
  rw [Nat.div_add_mod, Nat.div_add_mod]

/-- However often the product has wrapped, the new units stay below the end of its width. -/
theorem scaledReading_lt (positive : 0 < divisor) {bound : Nat} (wide : 2 ^ bits ≤ bound * divisor)
    (reading : Nat) : scaledReading bits factor divisor reading < bound := by
  unfold scaledReading
  rw [Nat.div_lt_iff_lt_mul positive]
  -- What is divided is less than the width, whatever was multiplied.
  exact (Nat.mod_lt _ (Nat.two_pow_pos bits)).trans_le wide

/-- Between two products that have wrapped equally often the new units run forward. -/
theorem scaledReading_mono (order : earlier ≤ later)
    (same : productWraps bits factor earlier = productWraps bits factor later) :
    scaledReading bits factor divisor earlier ≤ scaledReading bits factor divisor later := by
  have products := Nat.mul_le_mul_right factor order
  have first := Nat.div_add_mod (earlier * factor) (2 ^ bits)
  have second := Nat.div_add_mod (later * factor) (2 ^ bits)
  have wraps : earlier * factor / 2 ^ bits = later * factor / 2 ^ bits := same
  -- With equal wraps the remainders are ordered as the products are.
  rw [wraps] at first
  exact Nat.div_le_div_right (by omega)

/-- What the product has grown by without a wrap is found again in the new units. -/
theorem scaledReading_add_le (positive : 0 < divisor) {units : Nat}
    (same : productWraps bits factor earlier = productWraps bits factor later)
    (passed : earlier * factor + units * divisor ≤ later * factor) :
    scaledReading bits factor divisor earlier + units ≤
      scaledReading bits factor divisor later := by
  have first := Nat.div_add_mod (earlier * factor) (2 ^ bits)
  have second := Nat.div_add_mod (later * factor) (2 ^ bits)
  have wraps : earlier * factor / 2 ^ bits = later * factor / 2 ^ bits := same
  rw [wraps] at first
  unfold scaledReading
  -- The units are added as whole divisors, before the division.
  rw [← Nat.add_mul_div_right _ _ positive]
  exact Nat.div_le_div_right (by omega)

/-- A number that is smaller is smaller by a whole factor. -/
theorem mul_add_le_of_lt {factor low high : Nat} (below : low < high) :
    (factor : Int) * low + factor ≤ factor * high := by
  have scaled := Nat.mul_le_mul_left factor (Nat.succ_le_of_lt below)
  rw [Nat.mul_succ] at scaled
  -- The inequality is one of natural numbers.
  exact_mod_cast scaled

/-- A difference in the new units is off by less than a unit exactly if no wrap lies in between. -/
theorem scaledReading_within_iff (positive : 0 < divisor) (wide : 2 * divisor < 2 ^ bits) :
    |(divisor : Int) * scaledReading bits factor divisor later -
        divisor * scaledReading bits factor divisor earlier -
        ((later * factor : Nat) - (earlier * factor : Nat))| ≤ divisor ↔
      productWraps bits factor earlier = productWraps bits factor later := by
  obtain ⟨rest, short, first⟩ := product_eq bits factor earlier positive
  obtain ⟨rest', short', second⟩ := product_eq bits factor later positive
  have large : 2 * (divisor : Int) < (2 ^ bits : Nat) := by exact_mod_cast wide
  rw [abs_le, first, second]
  -- The products are sums of naturals, compared as integers.
  rw [Nat.cast_add, Nat.cast_add, Nat.cast_add, Nat.cast_add, Nat.cast_mul, Nat.cast_mul,
    Nat.cast_mul, Nat.cast_mul]
  constructor
  · intro within
    -- One wrap more on either side is further off than two units.
    rcases Nat.lt_trichotomy (productWraps bits factor earlier)
      (productWraps bits factor later) with fewer | same | more
    · have apart := @mul_add_le_of_lt (2 ^ bits) _ _ fewer
      omega
    · exact same
    · have apart := @mul_add_le_of_lt (2 ^ bits) _ _ more
      omega
  · intro same
    -- Equal wraps cancel, and two remainders are less than a divisor apart.
    rw [same]
    omega

end Scaled

end AmpFc
