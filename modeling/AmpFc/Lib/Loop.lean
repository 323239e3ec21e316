import Mathlib.Tactic

/-! While loops with fuel: what they compute, and that more fuel changes nothing. -/

namespace AmpFc

universe u

variable {State : Type u} {test : State → Bool} {body : State → State}

/-- A while loop that may test its condition as often as it has fuel. -/
def runWhile (test : State → Bool) (body : State → State) : Nat → State → Option State
  -- Out of fuel, the loop is still running.
  | 0, _ => none
  | fuel + 1, state => if test state then runWhile test body fuel (body state) else some state

/-- A loop whose condition does not hold is over at once. -/
theorem runWhile_done {state : State} (done : test state = false) (fuel : Nat) :
    runWhile test body (fuel + 1) state = some state := by
  simp [runWhile, done]

/-- A loop that has ended with its fuel ends in the same way with more. -/
theorem runWhile_mono {state result : State} {fuel more : Nat}
    (ends : runWhile test body fuel state = some result) (order : fuel ≤ more) :
    runWhile test body more state = some result := by
  -- The induction is on the fuel, of which each turn takes one unit.
  induction fuel generalizing state more with
  | zero => cases ends
  | succ fuel ih =>
    obtain ⟨more, rfl⟩ := Nat.exists_eq_add_one.mpr (Nat.zero_lt_of_lt order)
    unfold runWhile at ends ⊢
    split at ends
    · rename_i turns
      rw [if_pos turns]
      exact ih ends (by omega)
    · rename_i done
      rw [if_neg done]
      exact ends

/-- However much fuel it has, a loop that ends has one result. -/
theorem runWhile_unique {state result other : State} {fuel more : Nat}
    (ends : runWhile test body fuel state = some result)
    (also : runWhile test body more state = some other) : other = result := by
  rcases Nat.le_total fuel more with order | order
  · exact Option.some.inj (also.symm.trans (runWhile_mono ends order))
  · exact Option.some.inj ((runWhile_mono also order).symm.trans ends)

/--
A loop that would leave within some number of turns ends, with one result for any fuel beyond.

The result fails the test, and has every property that the turns keep.
-/
theorem runWhile_ends (test : State → Bool) (body : State → State) (Holds : State → Prop)
    (kept : ∀ each, Holds each → test each = true → Holds (body each)) (turns : Nat) :
    ∀ {state : State}, Holds state → test (body^[turns] state) = false →
      ∃ result, (∀ fuel, turns < fuel → runWhile test body fuel state = some result) ∧
        test result = false ∧ Holds result := by
  induction turns with
  | zero =>
    intro state holds done
    refine ⟨state, ?_, done, holds⟩
    intro fuel enough
    obtain ⟨rest, rfl⟩ := Nat.exists_eq_add_one.mpr enough
    exact runWhile_done done rest
  | succ turns ih =>
    intro state holds done
    cases now : test state with
    | false =>
      -- It may leave earlier than that.
      refine ⟨state, ?_, now, holds⟩
      intro fuel enough
      obtain ⟨rest, rfl⟩ := Nat.exists_eq_add_one.mpr (Nat.zero_lt_of_lt enough)
      exact runWhile_done now rest
    | true =>
      obtain ⟨result, ends, leaves, still⟩ := ih (kept state holds now) done
      refine ⟨result, ?_, leaves, still⟩
      intro fuel enough
      obtain ⟨rest, rfl⟩ := Nat.exists_eq_add_one.mpr (Nat.zero_lt_of_lt enough)
      simp only [runWhile, now, if_true]
      exact ends rest (by omega)

section Settling

universe v

variable {Result : Type u} {Other : Type v} {run : Nat → Option Result} {result : Result}

/-- A computation with fuel has one result once the fuel is enough. -/
def Settles (run : Nat → Option Result) (result : Result) : Prop :=
  ∃ enough, ∀ fuel, enough < fuel → run fuel = some result

/-- What is made of a result settles with it. -/
theorem Settles.map (settles : Settles run result) (make : Result → Other) :
    Settles (fun fuel => (run fuel).map make) (make result) := by
  obtain ⟨enough, ends⟩ := settles
  refine ⟨enough, fun fuel more => ?_⟩
  show (run fuel).map make = _
  rw [ends fuel more]
  rfl

end Settling

end AmpFc
