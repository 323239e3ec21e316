import AmpFc.Lib.Execution

/-! Mailboxes of one entry each, whose reader empties some of them at a time. -/

namespace AmpFc

universe u v

/-- What happens to a family of mailboxes; a reader takes from several of them at once. -/
inductive MailboxEvent (κ : Type u) (α : Type v) where
  | put (key : κ) (value : α)
  | take
  | pause

/-- The value that waits under each key. -/
abbrev Mailboxes (κ : Type u) (α : Type v) := κ → Option α

namespace Mailboxes

variable {κ : Type u} {α : Type v}

/-- The keys under which something waits. -/
def occupied (boxes : Mailboxes κ α) (key : κ) : Bool := (boxes key).isSome

/-- What a reader gets whose policy decides from the occupied keys which ones it empties. -/
def taken (policy : (κ → Bool) → κ → Bool) (boxes : Mailboxes κ α) (key : κ) : Option α :=
  if policy boxes.occupied key then boxes key else none

variable [DecidableEq κ]

/-- One event: a new value replaces what waits under its key, and a reader leaves nothing behind. -/
def step (policy : (κ → Bool) → κ → Bool) (boxes : Mailboxes κ α) :
    MailboxEvent κ α → Mailboxes κ α
  | .put key value => Function.update boxes key (some value)
  | .take => fun key => if policy boxes.occupied key then none else boxes key
  | .pause => boxes

end Mailboxes

/-- A run of mailboxes that are empty at first. -/
structure MailboxRun (κ : Type u) (α : Type v) where
  policy : (κ → Bool) → κ → Bool
  event : Nat → MailboxEvent κ α

namespace MailboxRun

variable {κ : Type u} {α : Type v} [DecidableEq κ]

/-- The mailboxes after `n` events. -/
def boxes (run : MailboxRun κ α) (n : Nat) : Mailboxes κ α :=
  stateAt (Mailboxes.step run.policy) (fun _ => none) run.event n

/-- Event `n` puts something under the key. -/
def Puts (run : MailboxRun κ α) (key : κ) (n : Nat) : Prop := ∃ value, run.event n = .put key value

/-- Event `n` is a reader that looks under the key. -/
def Looks (run : MailboxRun κ α) (key : κ) (n : Nat) : Prop :=
  run.event n = .take ∧ run.policy (run.boxes n).occupied key = true

/-- What event `j` put under the key still waits before event `n`. -/
structure Waits (run : MailboxRun κ α) (key : κ) (j n : Nat) : Prop where
  earlier : j < n
  put : run.Puts key j
  kept : ∀ i, j < i → i < n → ¬ run.Puts key i
  unread : ∀ i, j < i → i < n → ¬ run.Looks key i

/-- Event `n` is a reader that takes what event `j` put under the key. -/
structure Delivers (run : MailboxRun κ α) (key : κ) (j n : Nat) : Prop where
  looks : run.Looks key n
  waits : run.Waits key j n

variable (run : MailboxRun κ α) {key : κ}

/-- An event finds the mailboxes as the ones before it left them. -/
theorem boxes_succ (n : Nat) :
    run.boxes (n + 1) = Mailboxes.step run.policy (run.boxes n) (run.event n) :=
  stateAt_succ _ _ _ n

/-- A value waits for one event more, unless that event replaces or takes it. -/
theorem waits_succ {j n : Nat} : run.Waits key j (n + 1) ↔
    (j = n ∧ run.Puts key n) ∨ (run.Waits key j n ∧ ¬ run.Puts key n ∧ ¬ run.Looks key n) := by
  constructor
  · -- Either the value was put by this event, or it waited before and was left alone.
    intro waits
    rcases Nat.lt_succ_iff_lt_or_eq.mp waits.earlier with older | same
    · refine Or.inr ⟨⟨older, waits.put, ?_, ?_⟩, ?_, ?_⟩
      · intro i after below
        exact waits.kept i after (by omega)
      · intro i after below
        exact waits.unread i after (by omega)
      · exact waits.kept n older (Nat.lt_succ_self n)
      · exact waits.unread n older (Nat.lt_succ_self n)
    · exact Or.inl ⟨same, same ▸ waits.put⟩
  · rintro (⟨rfl, put⟩ | ⟨waits, kept, unread⟩)
    · -- Nothing lies between an event and the next one.
      refine ⟨Nat.lt_succ_self j, put, ?_, ?_⟩
      · intro i after below
        omega
      · intro i after below
        omega
    · refine ⟨Nat.lt_succ_of_lt waits.earlier, waits.put, ?_, ?_⟩
      · intro i after below
        rcases Nat.lt_succ_iff_lt_or_eq.mp below with older | same
        · exact waits.kept i after older
        · exact same ▸ kept
      · intro i after below
        rcases Nat.lt_succ_iff_lt_or_eq.mp below with older | same
        · exact waits.unread i after older
        · exact same ▸ unread

/-- What waits under a key is what was put there last, as long as no reader looked since. -/
theorem boxes_eq_some_iff (n : Nat) (value : α) : run.boxes n key = some value ↔
    ∃ j, run.event j = .put key value ∧ run.Waits key j n := by
  -- The induction is on the number of events, the newest of which puts, takes, or does neither.
  induction n with
  | zero =>
    constructor
    · intro waiting
      cases waiting
    · rintro ⟨j, -, waits⟩
      exact absurd waits.earlier (Nat.not_lt_zero j)
  | succ n ih =>
    simp only [waits_succ]
    rw [boxes_succ]
    cases happened : run.event n with
    | put other newest =>
      by_cases same : other = key
      · -- The new value is the one that waits, whatever waited before.
        subst same
        have puts : run.Puts other n := ⟨newest, happened⟩
        simp only [Mailboxes.step, Function.update_self, Option.some.injEq]
        constructor
        · rintro rfl
          exact ⟨n, happened, Or.inl ⟨rfl, puts⟩⟩
        · rintro ⟨j, put, ⟨rfl, -⟩ | ⟨-, silent, -⟩⟩
          · rw [happened] at put
            cases put
            rfl
          · exact absurd puts silent
      · -- A value under another key changes nothing here.
        have silent : ¬ run.Puts key n := by
          rintro ⟨value, put⟩
          rw [happened] at put
          cases put
          exact same rfl
        have blind : ¬ run.Looks key n := by
          rintro ⟨take, -⟩
          rw [happened] at take
          cases take
        simp only [Mailboxes.step, Function.update_of_ne (Ne.symm same), ih, silent, blind,
          and_false, not_false_iff, and_true, false_or]
    | take =>
      have silent : ¬ run.Puts key n := by
        rintro ⟨value, put⟩
        rw [happened] at put
        cases put
      by_cases looked : run.policy (run.boxes n).occupied key = true
      · -- A reader that looks leaves nothing behind.
        have looks : run.Looks key n := ⟨happened, looked⟩
        simp only [Mailboxes.step, looked, if_true, silent, looks, and_false, not_true_eq_false,
          or_self, exists_false, reduceCtorEq]
      · have blind : ¬ run.Looks key n := by
          rintro ⟨-, looked'⟩
          exact looked looked'
        simp only [Mailboxes.step, looked, Bool.false_eq_true, if_false, ih, silent, blind,
          and_false, not_false_iff, and_true, false_or]
    | pause =>
      have silent : ¬ run.Puts key n := by
        rintro ⟨value, put⟩
        rw [happened] at put
        cases put
      have blind : ¬ run.Looks key n := by
        rintro ⟨take, -⟩
        rw [happened] at take
        cases take
      simp only [Mailboxes.step, ih, silent, blind, and_false, not_false_iff, and_true, false_or]

/-- A reader gets exactly what is delivered to it. -/
theorem taken_eq_some_iff {n : Nat} (take : run.event n = .take) (value : α) :
    (run.boxes n).taken run.policy key = some value ↔
      ∃ j, run.event j = .put key value ∧ run.Delivers key j n := by
  unfold Mailboxes.taken
  -- A take that does not look finds nothing and delivers nothing.
  by_cases looked : run.policy (run.boxes n).occupied key = true
  · rw [if_pos looked, boxes_eq_some_iff]
    constructor
    · rintro ⟨j, put, waits⟩
      exact ⟨j, put, ⟨take, looked⟩, waits⟩
    · rintro ⟨j, put, -, waits⟩
      exact ⟨j, put, waits⟩
  · rw [if_neg looked]
    constructor
    · intro impossible
      cases impossible
    · rintro ⟨j, -, ⟨-, looked'⟩, -⟩
      exact absurd looked' looked

variable {run}

/-- Of two deliveries under one key, the later one brings what was put later. -/
theorem Delivers.order {j j' n n' : Nat} (first : run.Delivers key j n)
    (second : run.Delivers key j' n') (later : n < n') : j < n ∧ n < j' := by
  refine ⟨first.waits.earlier, ?_⟩
  -- Otherwise the first reader would have taken the second value as well.
  by_contra before
  rcases Nat.lt_or_eq_of_le (Nat.not_lt.mp before) with older | same
  · exact second.waits.unread n older later first.looks
  · obtain ⟨value, put⟩ := second.waits.put
    rw [same, first.looks.1] at put
    cases put

/-- Nothing is delivered twice. -/
theorem Delivers.once {j n n' : Nat} (first : run.Delivers key j n)
    (second : run.Delivers key j n') : n = n' := by
  rcases Nat.lt_trichotomy n n' with later | same | earlier
  · have between := first.order second later
    omega
  · exact same
  · have between := second.order first earlier
    omega

/-- What a reader looks for in vain was delivered before or overwritten. -/
theorem delivered_or_overwritten {j n : Nat} (put : run.Puts key j) (later : j < n)
    (looks : run.Looks key n) : (∃ m ≤ n, run.Delivers key j m) ∨
      ∃ i, j < i ∧ i < n ∧ run.Puts key i := by
  -- The induction is on the events since then, the first look of which decides.
  induction n using Nat.strong_induction_on with
  | _ n ih =>
    by_cases overwritten : ∃ i, j < i ∧ i < n ∧ run.Puts key i
    · exact Or.inr overwritten
    · -- An earlier reader that looked found it, by the induction hypothesis.
      by_cases seen : ∃ i, j < i ∧ i < n ∧ run.Looks key i
      · obtain ⟨i, after, below, looked⟩ := seen
        rcases ih i below after looked with ⟨m, bound, delivers⟩ | ⟨i', after', below', put'⟩
        · exact Or.inl ⟨m, by omega, delivers⟩
        · exact absurd ⟨i', after', by omega, put'⟩ overwritten
      · refine Or.inl ⟨n, le_rfl, looks, later, put, ?_, ?_⟩
        · intro i after below put'
          exact overwritten ⟨i, after, below, put'⟩
        · intro i after below looked
          exact seen ⟨i, after, below, looked⟩

/-- Without a reader since, a reader gets what was put last. -/
theorem delivers_of_unread {k n : Nat} (put : run.Puts key k) (later : k < n)
    (looks : run.Looks key n) (unread : ∀ i, k < i → i < n → ∀ j, ¬ run.Delivers key j i) :
    ∃ j, k ≤ j ∧ run.Delivers key j n := by
  -- The induction is downwards from `n`, over the values that replace one another.
  induction gap : n - k using Nat.strong_induction_on generalizing k with
  | _ distance ih =>
    rcases delivered_or_overwritten put later looks with
      ⟨m, bound, delivers⟩ | ⟨i, after, below, newer⟩
    · rcases Nat.lt_or_eq_of_le bound with before | same
      · exact absurd delivers (unread m delivers.waits.earlier before k)
      · exact ⟨k, le_rfl, same ▸ delivers⟩
    · -- The value was replaced, and its replacement is closer to the reader.
      obtain ⟨j, from_, delivers⟩ := ih (n - i) (by omega) newer below
        (fun i' after' => unread i' (by omega)) rfl
      exact ⟨j, by omega, delivers⟩

end MailboxRun

end AmpFc
