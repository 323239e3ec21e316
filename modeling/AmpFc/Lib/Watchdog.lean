import AmpFc.Lib.Execution

/-! A watchdog that fires once in every silence, as soon as the silence has lasted. -/

namespace AmpFc

section Silence

/-- Something was heard at `a`, and nothing since, up to and including `k`. -/
structure Silence (heard : Nat → Prop) (a k : Nat) : Prop where
  begun : heard a
  later : a < k
  silent : ∀ j, a < j → j ≤ k → ¬ heard j

variable {heard event : Nat → Prop} {a b k m : Nat}

/-- A silence has lasted since it began. -/
theorem Silence.earlier (silence : Silence heard a k) (after : a < m) (before : m ≤ k) :
    Silence heard a m where
  begun := silence.begun
  later := after
  silent j later upTo := silence.silent j later (upTo.trans before)

/-- There is one silence at a time. -/
theorem Silence.unique (silence : Silence heard a k) (other : Silence heard b k) : b = a := by
  -- What was heard at the later of the two starts would break the earlier one.
  rcases lt_trichotomy a b with before | same | after
  · exact absurd other.begun (silence.silent b before other.later.le)
  · exact same.symm
  · exact absurd silence.begun (other.silent a after silence.later.le)

/-- The first index behind `a` with an event. -/
structure FirstAfter (event : Nat → Prop) (a k : Nat) : Prop where
  later : a < k
  holds : event k
  first : ∀ j, a < j → j < k → ¬ event j

/-- There is only one first event after an index. -/
theorem FirstAfter.unique (first : FirstAfter event a k) (other : FirstAfter event a m) :
    m = k := by
  -- Neither of the two can lie before the other.
  rcases lt_trichotomy k m with before | same | after
  · exact absurd first.holds (other.first k first.later before)
  · exact same.symm
  · exact absurd other.holds (first.first m other.later after)

/-- Events that agree behind `a` have the same first one. -/
theorem FirstAfter.congr {other : Nat → Prop} (same : ∀ j, a < j → (event j ↔ other j)) :
    FirstAfter event a k ↔ FirstAfter other a k := by
  -- Only indices behind the start are compared.
  constructor
  · intro first
    refine ⟨first.later, (same k first.later).mp first.holds, ?_⟩
    intro j after before holds
    exact first.first j after before ((same j after).mpr holds)
  · intro first
    refine ⟨first.later, (same k first.later).mpr first.holds, ?_⟩
    intro j after before holds
    exact first.first j after before ((same j after).mp holds)

/-- With an event behind `a` there is a first one. -/
theorem exists_firstAfter (after : a < k) (holds : event k) :
    ∃ m, m ≤ k ∧ FirstAfter event a m := by
  classical
  have found : ∃ m, a < m ∧ event m := ⟨k, after, holds⟩
  obtain ⟨later, there⟩ := Nat.find_spec found
  -- The least such index is the first one.
  refine ⟨Nat.find found, Nat.find_min' found ⟨after, holds⟩, later, there, ?_⟩
  intro j behind before sooner
  exact Nat.find_min found before ⟨behind, sooner⟩

end Silence

universe u

/-- What a watchdog remembers. -/
structure Watch (Time : Type u) where
  /-- Something was heard at all. -/
  heard : Bool
  /-- When it was heard last. -/
  last : Time
  /-- It has fired in the silence since. -/
  fired : Bool

namespace Watch

variable {Time : Type u} (due : Time → Time → Bool)

/-- It fires in a silence that is due and in which it has not fired yet. -/
def fires (w : Watch Time) (alive : Bool) (now : Time) : Bool :=
  !alive && w.heard && due w.last now && !w.fired

/-- Hearing something starts over, and firing is remembered. -/
def next (w : Watch Time) (alive : Bool) (now : Time) : Watch Time :=
  -- An index at which something is heard can not fire.
  if alive then { heard := true, last := now, fired := false }
  else { w with fired := w.fired || w.fires due alive now }

variable (alive : Nat → Bool) (now : Nat → Time) (start : Watch Time)

/-- The watchdog in front of an index of a run. -/
def before (k : Nat) : Watch Time :=
  stateAt (fun w n => w.next due (alive n) (now n)) start id k

/-- In a silence that began at `a`, this index is due. -/
def Due (a k : Nat) : Prop := due (now a) (now k) = true

/-- What a watchdog knows in front of an index: that nothing was heard, or the silence so far. -/
inductive Knows (k : Nat) (w : Watch Time) : Prop
  | nothing (unheard : w.heard = false) (silent : ∀ j < k, alive j = false)
  | silence (a : Nat) (past : a < k) (begun : alive a = true)
      (silent : ∀ j, a < j → j < k → alive j = false) (known : w.heard = true)
      (since : w.last = now a) (fired : w.fired = true ↔ ∃ j, a < j ∧ j < k ∧ Due due now a j)

variable {due alive now start}

/-- Firing or not, it knows the same about the next index. -/
theorem Knows.next {k : Nat} {w : Watch Time} (knows : Knows due alive now k w) :
    Knows due alive now (k + 1) (w.next due (alive k) (now k)) := by
  -- Either a new silence begins here, or the old one goes on.
  cases heardNow : alive k with
  | true =>
    -- Here a new silence begins.
    refine .silence k (Nat.lt_succ_self k) heardNow ?_ rfl rfl ?_
    · intro j after upTo
      omega
    · constructor
      · intro fired
        cases fired
      · rintro ⟨j, after, upTo, -⟩
        omega
  | false =>
    cases knows with
    | nothing unheard silent =>
      refine .nothing unheard ?_
      intro j upTo
      rcases Nat.lt_succ_iff_lt_or_eq.mp upTo with earlier | rfl
      · exact silent j earlier
      · exact heardNow
    | silence a past begun silent known since fired =>
      refine .silence a (Nat.lt_succ_of_lt past) begun ?_ known since ?_
      · intro j after upTo
        rcases Nat.lt_succ_iff_lt_or_eq.mp upTo with earlier | rfl
        · exact silent j after earlier
        · exact heardNow
      · show (w.fired || (!false && w.heard && due w.last (now k) && !w.fired)) = true ↔ _
        rw [known, since]
        -- Either it had fired before, or it fires if this index is due.
        constructor
        · intro set
          by_cases earlier : w.fired = true
          · obtain ⟨j, after, upTo, dueThen⟩ := fired.mp earlier
            exact ⟨j, after, Nat.lt_succ_of_lt upTo, dueThen⟩
          · rw [Bool.not_eq_true] at earlier
            rw [earlier] at set
            refine ⟨k, past, Nat.lt_succ_self k, ?_⟩
            show due (now a) (now k) = true
            simpa using set
        · rintro ⟨j, after, upTo, dueThen⟩
          rcases Nat.lt_succ_iff_lt_or_eq.mp upTo with earlier | rfl
          · rw [fired.mpr ⟨j, after, earlier, dueThen⟩]
            rfl
          · rw [show due (now a) (now j) = true from dueThen]
            cases w.fired <;> rfl

/-- A watchdog that has heard nothing yet knows its run from the start. -/
theorem before_knows (unheard : start.heard = false) (k : Nat) :
    Knows due alive now k (before due alive now start k) := by
  -- The induction is on the indices passed.
  induction k with
  | zero => exact .nothing unheard fun j none => absurd none (Nat.not_lt_zero j)
  | succ k ih => exact ih.next

/-- A silence that reaches up to a quiet index includes it. -/
theorem silence_of_quiet {a k : Nat} (past : a < k) (begun : alive a = true)
    (silent : ∀ j, a < j → j < k → alive j = false) (quiet : alive k = false) :
    Silence (fun j => alive j = true) a k where
  begun := begun
  later := past
  silent := by
    intro j after upTo heard
    -- Up to the last index nothing was heard, and there it is quiet.
    rcases Nat.lt_or_eq_of_le upTo with earlier | rfl
    · rw [silent j after earlier] at heard
      cases heard
    · rw [quiet] at heard
      cases heard

/-- It fires exactly at the first index of each silence that is due. -/
theorem fires_iff (unheard : start.heard = false) (k : Nat) :
    (before due alive now start k).fires due (alive k) (now k) = true ↔
      ∃ a, Silence (fun j => alive j = true) a k ∧ FirstAfter (Due due now a) a k := by
  have knows := @before_knows _ due alive now _ unheard k
  generalize before due alive now start k = w at knows ⊢
  unfold fires
  -- What the watchdog knows in front of the index settles both directions.
  constructor
  · intro fired
    simp only [Bool.and_eq_true, Bool.not_eq_true'] at fired
    obtain ⟨⟨⟨quiet, known⟩, dueNow⟩, unfired⟩ := fired
    cases knows with
    | nothing unheard =>
      rw [unheard] at known
      cases known
    | silence a past begun silent _ since fired =>
      rw [since] at dueNow
      refine ⟨a, silence_of_quiet past begun silent quiet, past, dueNow, ?_⟩
      -- Had an earlier index been due, it would have fired there.
      intro j after earlier dueThen
      rw [fired.mpr ⟨j, after, earlier, dueThen⟩] at unfired
      cases unfired
  · rintro ⟨a, silence, first⟩
    have quiet : alive k = false := by
      have unheard := silence.silent k silence.later le_rfl
      rw [Bool.not_eq_true] at unheard
      exact unheard
    cases knows with
    | nothing _ silent =>
      have begun : alive a = true := silence.begun
      rw [silent a silence.later] at begun
      cases begun
    | silence b past begun silent known since fired =>
      -- The silence it knows is the one that is due.
      have same : b = a := silence.unique (silence_of_quiet past begun silent quiet)
      subst same
      have unfired : w.fired = false := by
        by_contra set
        rw [Bool.not_eq_false] at set
        obtain ⟨j, after, earlier, dueThen⟩ := fired.mp set
        exact first.first j after earlier dueThen
      have dueNow : due (now b) (now k) = true := first.holds
      rw [quiet, known, since, dueNow, unfired]
      rfl

end Watch

end AmpFc
