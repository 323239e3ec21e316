import Mathlib.Tactic

/-! Reflected linear feedback shift registers, and the bursts of input they cannot miss. -/

namespace AmpFc

section ShiftRegister

variable {width symbol : Nat} {poly : BitVec width}

/-- One step of the register: shift down, and feed the polynomial back if a one fell out. -/
def shiftStep (poly register : BitVec width) : BitVec width :=
  if register.getLsbD 0 then (register >>> 1) ^^^ poly else register >>> 1

/-- One symbol read into the register: exclusive-or it in, then one step for each of its bits. -/
def absorb (poly register : BitVec width) (input : BitVec symbol) : BitVec width :=
  (shiftStep poly)^[symbol] (register ^^^ input.setWidth width)

/-- Every bit from a place on is zero. -/
def ClearFrom (place : Nat) (register : BitVec width) : Prop :=
  ∀ bit, place ≤ bit → register.getLsbD bit = false

/-- The step is linear over exclusive or. -/
theorem shiftStep_xor (left right : BitVec width) :
    shiftStep poly (left ^^^ right) = shiftStep poly left ^^^ shiftStep poly right := by
  apply BitVec.eq_of_getLsbD_eq
  intro place _
  -- Whether each of the two feeds the polynomial back depends on its own lowest bit.
  cases lowLeft : left.getLsbD 0 <;> cases lowRight : right.getLsbD 0 <;>
    simp [shiftStep, lowLeft, lowRight]
  -- What is left is a law of exclusive or at one bit.
  · cases right.getLsbD (1 + place) <;> cases poly.getLsbD place <;> rfl
  · cases right.getLsbD (1 + place) <;> cases poly.getLsbD place <;> rfl

/-- Any number of steps is linear over exclusive or. -/
theorem iterate_shiftStep_xor (count : Nat) (left right : BitVec width) :
    (shiftStep poly)^[count] (left ^^^ right) =
      (shiftStep poly)^[count] left ^^^ (shiftStep poly)^[count] right := by
  induction count generalizing left right with
  | zero => rfl
  | succ count ih =>
    simp only [Function.iterate_succ_apply, shiftStep_xor]
    exact ih _ _

/-- Only the zero register steps to zero, as long as the polynomial has its top bit. -/
theorem eq_zero_of_shiftStep (top : poly.msb = true) {register : BitVec width}
    (zero : shiftStep poly register = 0) : register = 0 := by
  by_cases low : register.getLsbD 0 = true
  -- A fed back polynomial leaves a one in the top bit, which the shift left empty.
  · have fed : (register >>> 1) ^^^ poly = 0 := by
      simpa only [shiftStep, low, if_true] using zero
    have bit := congrArg BitVec.msb fed
    have wide : 0 < width := by
      rcases Nat.eq_zero_or_pos width with empty | wide
      · subst empty
        simp [BitVec.eq_nil register] at low
      · exact wide
    have empty : (register >>> 1).msb = false := by
      rw [BitVec.msb_eq_getLsbD_last, BitVec.getLsbD_ushiftRight]
      exact BitVec.getLsbD_of_ge _ _ (by omega)
    rw [BitVec.msb_xor, empty, top] at bit
    simp at bit
  -- Otherwise every bit moved down one place, and the lowest was zero already.
  · have shifted : register >>> 1 = 0 := by
      simpa only [shiftStep, low, if_false, Bool.false_eq_true] using zero
    apply BitVec.eq_of_getLsbD_eq
    intro place _
    cases place with
    | zero => simpa using low
    | succ place =>
      have bit := congrArg (fun image => BitVec.getLsbD image place) shifted
      simpa [BitVec.getLsbD_ushiftRight, Nat.add_comm] using bit

/-- Two registers that step to the same one are the same. -/
theorem shiftStep_injective (top : poly.msb = true) : Function.Injective (shiftStep poly) := by
  intro left right same
  have zero : shiftStep poly (left ^^^ right) = 0 := by
    rw [shiftStep_xor, same, BitVec.xor_self]
    rfl
  exact BitVec.xor_eq_zero_iff.mp (eq_zero_of_shiftStep top zero)

/-- While zeros fall out, the register only moves down. -/
theorem iterate_shiftStep_of_clear {register : BitVec width} {count : Nat}
    (clear : ∀ bit < count, register.getLsbD bit = false) :
    (shiftStep poly)^[count] register = register >>> count := by
  -- The induction is on the steps, each of which drops a zero.
  induction count with
  | zero => simp
  | succ count ih =>
    have low : (register >>> count).getLsbD 0 = false := by
      simpa using clear count (by omega)
    rw [Function.iterate_succ_apply', ih fun bit below => clear bit (by omega), shiftStep]
    simp only [low, Bool.false_eq_true, if_false, BitVec.shiftRight_add]

/-- A short register is what as many steps make of it moved up. -/
theorem iterate_shiftStep_shiftLeft {register : BitVec width} {count : Nat}
    (small : ClearFrom (width - count) register) :
    (shiftStep poly)^[count] (register <<< count) = register := by
  rw [iterate_shiftStep_of_clear fun bit below => by simp [below]]
  -- The bits moved out at the top were zero, so moving down again restores all of them.
  apply BitVec.eq_of_getLsbD_eq
  intro place within
  rw [BitVec.getLsbD_ushiftRight, BitVec.getLsbD_shiftLeft]
  by_cases stays : count + place < width
  · simp [stays]
  · simp [stays, small place (by omega)]

/-- The only way to a short register in some number of steps is from it moved up. -/
theorem eq_shiftLeft_of_iterate (top : poly.msb = true) {before after : BitVec width}
    {count : Nat} (small : ClearFrom (width - count) after)
    (steps : (shiftStep poly)^[count] before = after) : before = after <<< count := by
  apply (shiftStep_injective top).iterate count
  rw [steps, iterate_shiftStep_shiftLeft small]

/-- The difference of two registers after a symbol each. -/
theorem absorb_xor_absorb (left right : BitVec width) (input other : BitVec symbol) :
    absorb poly left input ^^^ absorb poly right other =
      (shiftStep poly)^[symbol] ((left ^^^ right) ^^^ (input ^^^ other).setWidth width) := by
  rw [absorb, absorb, ← iterate_shiftStep_xor, BitVec.setWidth_xor]
  congr 1
  ac_rfl

/--
Registers that meet after reading differed in few bits before.

Each symbol read takes the difference down by as many places as it has bits.
-/
theorem clearFrom_of_fold_eq (top : poly.msb = true) :
    ∀ (inputs others : List (BitVec symbol)) (left right : BitVec width),
      inputs.length = others.length → symbol * inputs.length ≤ width →
      inputs.foldl (absorb poly) left = others.foldl (absorb poly) right →
      ClearFrom (symbol * inputs.length) (left ^^^ right) := by
  intro inputs
  induction inputs with
  | nil =>
    intro others left right long _ meet
    obtain rfl : others = [] := List.eq_nil_of_length_eq_zero long.symm
    have same : left = right := meet
    intro bit _
    simp [same]
  | cons input inputs ih =>
    intro others left right long fits meet
    obtain ⟨other, others, rfl⟩ : ∃ other rest, others = other :: rest :=
      List.exists_cons_of_length_eq_add_one long.symm
    simp only [List.length_cons, Nat.mul_add, Nat.mul_one] at fits long ⊢
    have small := ih others _ _ (by omega) (by omega) meet
    rw [absorb_xor_absorb] at small
    have inner := eq_shiftLeft_of_iterate top (fun bit above => small bit (by omega)) rfl
    -- The difference is the moved image, with the two symbols in the places it left empty.
    intro bit above
    have image := congrArg (fun register => BitVec.getLsbD register bit) inner
    have clear := small (bit - symbol) (by omega)
    simp only [BitVec.getLsbD_xor, BitVec.getLsbD_shiftLeft, clear, BitVec.getLsbD_setWidth,
      Bool.and_false] at image
    have beyond (symbols : BitVec symbol) : symbols.getLsbD bit = false :=
      BitVec.getLsbD_of_ge _ _ (by omega)
    simpa [beyond] using image

/-- From one register, two equally long inputs no longer than the register lead apart. -/
theorem eq_of_fold_eq (top : poly.msb = true) :
    ∀ (inputs others : List (BitVec symbol)) (register : BitVec width),
      inputs.length = others.length → symbol * inputs.length ≤ width →
      inputs.foldl (absorb poly) register = others.foldl (absorb poly) register →
      inputs = others := by
  intro inputs
  induction inputs with
  | nil =>
    intro others _ long _ _
    exact (List.eq_nil_of_length_eq_zero long.symm).symm
  | cons input inputs ih =>
    intro others register long fits meet
    obtain ⟨other, others, rfl⟩ : ∃ other rest, others = other :: rest :=
      List.exists_cons_of_length_eq_add_one long.symm
    simp only [List.length_cons, Nat.mul_add, Nat.mul_one] at fits long
    have small := clearFrom_of_fold_eq top inputs others _ _ (by omega) (by omega) meet
    rw [absorb_xor_absorb, BitVec.xor_self, BitVec.zero_xor] at small
    have inner := eq_shiftLeft_of_iterate top (fun bit above => small bit (by omega)) rfl
    -- The moved image is zero in the places of the first symbol, so the first symbols agree.
    have first : input = other := by
      apply BitVec.xor_eq_zero_iff.mp
      apply BitVec.eq_of_getLsbD_eq
      intro bit within
      have image := congrArg (fun register => BitVec.getLsbD register bit) inner
      have inside : bit < width := by omega
      simpa [within, inside] using image
    subst first
    rw [ih others (absorb poly register input) (by omega) (by omega) meet]

/-- A symbol that both inputs read does not bring two registers together. -/
theorem absorb_injective (top : poly.msb = true) (input : BitVec symbol) :
    Function.Injective fun register => absorb poly register input := by
  intro left right same
  have inner := (shiftStep_injective top).iterate symbol same
  exact (BitVec.xor_left_inj _).mp inner

/-- Reading one common input does not bring two registers together. -/
theorem fold_injective (top : poly.msb = true) (inputs : List (BitVec symbol)) :
    Function.Injective fun register => inputs.foldl (absorb poly) register := by
  -- The induction is on the inputs, with any register.
  induction inputs with
  | nil =>
    intro left right same
    exact same
  | cons input inputs ih =>
    intro left right same
    exact absorb_injective top input (ih same)

/--
Two inputs that agree but for one burst no longer than the register leave different registers.

The burst leads apart, and the common rest keeps what is apart apart.
-/
theorem fold_ne_of_burst (top : poly.msb = true) (front back : List (BitVec symbol))
    {burst other : List (BitVec symbol)} (long : burst.length = other.length)
    (fits : symbol * burst.length ≤ width) (apart : burst ≠ other) (register : BitVec width) :
    (front ++ burst ++ back).foldl (absorb poly) register ≠
      (front ++ other ++ back).foldl (absorb poly) register := by
  intro meet
  simp only [List.foldl_append] at meet
  exact apart (eq_of_fold_eq top _ _ _ long fits (fold_injective top back meet))

end ShiftRegister

end AmpFc
