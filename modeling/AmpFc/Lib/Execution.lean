import Mathlib.Tactic

/-! Runs of a deterministic machine fed one input a step, and what history says about them. -/

namespace AmpFc

universe u v

variable {State : Type u} {Input : Type v}

/-- The state after a number of steps, each step consuming the input of its own index. -/
def stateAt (step : State → Input → State) (start : State) (input : Nat → Input) : Nat → State
  -- Step `n` runs in the state that the first `n` steps left behind.
  | 0 => start
  | n + 1 => step (stateAt step start input n) (input n)

/-- A run begins in its start. -/
@[simp] theorem stateAt_zero (step : State → Input → State) (start : State) (input : Nat → Input) :
    stateAt step start input 0 = start := rfl

/-- Each index adds one step, with the input of that index. -/
theorem stateAt_succ (step : State → Input → State) (start : State) (input : Nat → Input)
    (n : Nat) :
    stateAt step start input (n + 1) = step (stateAt step start input n) (input n) := rfl

/-- What holds at the start and survives every step holds throughout the run. -/
theorem stateAt_invariant {step : State → Input → State} {start : State} {input : Nat → Input}
    {Holds : State → Prop} (initial : Holds start)
    (preserved : ∀ state n, Holds state → Holds (step state (input n))) :
    ∀ n, Holds (stateAt step start input n) := by
  -- The induction is on the number of steps taken.
  intro n
  induction n with
  | zero => exact initial
  | succ n ih => exact preserved _ n ih

/-- What relates two machines at the start and survives every joint step relates them throughout. -/
theorem stateAt_related {State' : Type u} {Input' : Type v} {step : State → Input → State}
    {step' : State' → Input' → State'} {start : State} {start' : State'} {input : Nat → Input}
    {input' : Nat → Input'} (Related : State → State' → Prop) (initial : Related start start')
    (preserved : ∀ state state' n, Related state state' →
      Related (step state (input n)) (step' state' (input' n))) :
    ∀ n, Related (stateAt step start input n) (stateAt step' start' input' n) := by
  -- Both machines have taken the same number of steps, and the induction is on that number.
  intro n
  induction n with
  | zero => exact initial
  | succ n ih => exact preserved _ _ n ih

/-- `begin` happened at some index up to `n`, and `keep` has held at every index after it. -/
def Since (begin keep : Nat → Prop) (n : Nat) : Prop :=
  -- The starting index itself need not satisfy `keep`.
  ∃ m ≤ n, begin m ∧ ∀ k, m < k → k ≤ n → keep k

/-- At index zero only a start at index zero counts. -/
theorem since_zero {begin keep : Nat → Prop} : Since begin keep 0 ↔ begin 0 := by
  -- The start can only be index zero itself, and nothing follows it.
  constructor
  · rintro ⟨m, bound, started, _⟩
    have first : m = 0 := by omega
    exact first ▸ started
  · intro started
    exact ⟨0, le_rfl, started, fun k after bound => by omega⟩

/-- One step on, either it starts now or it had started and is kept. -/
theorem since_succ {begin keep : Nat → Prop} {n : Nat} :
    Since begin keep (n + 1) ↔ begin (n + 1) ∨ (keep (n + 1) ∧ Since begin keep n) := by
  -- The start is either the newest index, or it was one already an index earlier.
  constructor
  · rintro ⟨m, bound, started, kept⟩
    by_cases now : m = n + 1
    · exact .inl (now ▸ started)
    · exact .inr ⟨kept (n + 1) (by omega) le_rfl,
        m, by omega, started, fun k after below => kept k after (by omega)⟩
  · rintro (started | ⟨kept, m, bound, started, earlier⟩)
    · exact ⟨n + 1, le_rfl, started, fun k after below => by omega⟩
    · refine ⟨m, by omega, started, fun k after below => ?_⟩
      by_cases now : k = n + 1
      · exact now ▸ kept
      · exact earlier k after (by omega)

/-- A flag that is set by `begin` and survives by `keep` tells exactly its history. -/
theorem latch_iff_since (flag begin keep : Nat → Prop) (first : flag 0 ↔ begin 0)
    (next : ∀ n, flag (n + 1) ↔ begin (n + 1) ∨ (keep (n + 1) ∧ flag n)) :
    ∀ n, flag n ↔ Since begin keep n := by
  -- Flag and history satisfy the same recursion on the index.
  intro n
  induction n with
  | zero => exact first.trans since_zero.symm
  | succ n ih => rw [next n, since_succ, ih]

/-- A flag that is set at one index and clear at a later one falls somewhere in between. -/
theorem exists_fall {flag : Nat → Prop} {first last : Nat} (order : first ≤ last)
    (raised : flag first) (lowered : ¬ flag last) :
    ∃ k, first ≤ k ∧ k < last ∧ flag k ∧ ¬ flag (k + 1) := by
  -- The induction is on the later index: either the last step is the fall, or it came earlier.
  induction last, order using Nat.le_induction with
  | base => exact absurd raised lowered
  | succ last order ih =>
    by_cases still : flag last
    · exact ⟨last, order, Nat.lt_succ_self last, still, lowered⟩
    · obtain ⟨k, after, before, set, fallen⟩ := ih still
      exact ⟨k, after, Nat.lt_succ_of_lt before, set, fallen⟩

/-- The most recent value an index below `n` produced, if any did. -/
def latest {α : Type u} (event : Nat → Option α) : Nat → Option α
  -- The last index that produced a value wins.
  | 0 => none
  | n + 1 => (event n).orElse fun _ => latest event n

/-- Before the first event there is no latest one. -/
@[simp] theorem latest_zero {α : Type u} (event : Nat → Option α) : latest event 0 = none := rfl

/-- An index that produces a value replaces whatever came before. -/
theorem latest_succ_some {α : Type u} {event : Nat → Option α} {n : Nat} {value : α}
    (produced : event n = some value) : latest event (n + 1) = some value := by
  simp [latest, produced]

/-- An index that produces nothing leaves the latest value alone. -/
theorem latest_succ_none {α : Type u} {event : Nat → Option α} {n : Nat}
    (silent : event n = none) : latest event (n + 1) = latest event n := by
  simp [latest, silent]

/-- Indices that produce nothing leave the latest value alone. -/
theorem latest_silent {α : Type u} {event : Nat → Option α} {first last : Nat}
    (order : first ≤ last) (silent : ∀ k, first ≤ k → k < last → event k = none) :
    latest event last = latest event first := by
  -- The induction is on the later index, one silent index at a time.
  induction last, order using Nat.le_induction with
  | base => rfl
  | succ last order ih =>
    rw [latest_succ_none (silent last order (Nat.lt_succ_self last))]
    exact ih (fun k from_ below => silent k from_ (Nat.lt_succ_of_lt below))

/-- The latest value was produced at some index below. -/
theorem latest_source {α : Type u} {event : Nat → Option α} {n : Nat} {value : α}
    (found : latest event n = some value) : ∃ k < n, event k = some value := by
  -- Either the newest index produced it, or an older one did.
  induction n with
  | zero => cases found
  | succ n ih =>
    cases produced : event n with
    | some newest =>
      rw [latest_succ_some produced] at found
      exact ⟨n, by omega, produced.trans found⟩
    | none =>
      rw [latest_succ_none produced] at found
      obtain ⟨k, below, source⟩ := ih found
      exact ⟨k, by omega, source⟩

/-- Once something was produced, the latest value comes from that index or a later one. -/
theorem latest_of_some {α : Type u} {event : Nat → Option α} {j n : Nat} {value : α}
    (produced : event j = some value) (below : j < n) :
    ∃ k, j ≤ k ∧ ∃ newest, event k = some newest ∧ latest event n = some newest := by
  -- The induction is on the number of indices looked at; the newest of them decides.
  induction n with
  | zero => exact absurd below (Nat.not_lt_zero j)
  | succ n ih =>
    cases last : event n with
    | some newest =>
      exact ⟨n, Nat.le_of_lt_succ below, newest, last, latest_succ_some last⟩
    | none =>
      have earlier : j < n := by
        rcases Nat.lt_succ_iff_lt_or_eq.mp below with older | same
        · exact older
        · rw [same, last] at produced
          cases produced
      rw [latest_succ_none last]
      exact ih earlier

end AmpFc
