import AmpFc.Lib.Execution

/-! Bounded queues: what was accepted comes out once, in the same order. -/

namespace AmpFc

universe u

/-- What is done to a queue, from either end. -/
inductive QueueCall (α : Type u) where
  | push (entry : α)
  | pop

/-- The call asks for an entry. -/
def QueueCall.isPop {α : Type u} : QueueCall α → Bool
  | .push _ => false
  | .pop => true

/-- A queue that never holds more than its capacity, the oldest entry first. -/
@[ext]
structure BoundedQueue (α : Type u) (capacity : Nat) where
  entries : List α
  bounded : entries.length ≤ capacity

namespace BoundedQueue

variable {α : Type u} {capacity : Nat}

/-- A queue that holds nothing. -/
def empty : BoundedQueue α capacity := ⟨[], Nat.zero_le capacity⟩

/-- An entry that finds the queue full is dropped. -/
def push (queue : BoundedQueue α capacity) (entry : α) : BoundedQueue α capacity :=
  -- Room is tested first, so the bound that the queue carries is kept.
  if room : queue.entries.length < capacity then
    ⟨queue.entries ++ [entry], by rw [List.length_append]; exact room⟩
  else queue

/-- The queue without its oldest entry. -/
def pop (queue : BoundedQueue α capacity) : BoundedQueue α capacity :=
  ⟨queue.entries.tail, by
    rw [List.length_tail]
    exact Nat.le_trans (Nat.sub_le _ 1) queue.bounded⟩

/-- The queue after a call. -/
def step (queue : BoundedQueue α capacity) : QueueCall α → BoundedQueue α capacity
  | .push entry => queue.push entry
  | .pop => queue.pop

/-- The entry that a call gets into the queue. -/
def accepts (queue : BoundedQueue α capacity) : QueueCall α → Option α
  | .push entry => if queue.entries.length < capacity then some entry else none
  | .pop => none

/-- The entry that a call takes out of the queue. -/
def delivers (queue : BoundedQueue α capacity) : QueueCall α → Option α
  | .push _ => none
  | .pop => queue.entries.head?

/-- A call moves one entry at most in, and one entry at most out. -/
theorem step_entries (queue : BoundedQueue α capacity) (call : QueueCall α) :
    queue.entries ++ (queue.accepts call).toList =
      (queue.delivers call).toList ++ (queue.step call).entries := by
  cases call with
  | push entry =>
    -- With room the entry goes to the end, and nothing comes out.
    unfold accepts delivers step push
    by_cases room : queue.entries.length < capacity
    · simp [room]
    · -- A full queue stays as it is.
      simp [room]
  | pop =>
    -- The oldest entry is the one that goes.
    show queue.entries ++ [] = queue.entries.head?.toList ++ queue.entries.tail
    rw [List.append_nil]
    cases queue.entries with
    -- Nothing comes out of an empty queue, and nothing is left in it.
    | nil => rfl
    | cons oldest rest => rfl

end BoundedQueue

section History

variable {α : Type u}

/-- What the events below an index produced, in their order. -/
def producedBy (event : Nat → Option α) : Nat → List α
  | 0 => []
  | n + 1 => producedBy event n ++ (event n).toList

/-- Before the first event nothing was produced. -/
@[simp] theorem producedBy_zero (event : Nat → Option α) : producedBy event 0 = [] := rfl

/-- Each event adds what it produces at the end. -/
theorem producedBy_succ (event : Nat → Option α) (n : Nat) :
    producedBy event (n + 1) = producedBy event n ++ (event n).toList := rfl

/-- Events that agree produce the same. -/
theorem producedBy_congr {event other : Nat → Option α} (same : ∀ n, event n = other n) (n : Nat) :
    producedBy event n = producedBy other n := by
  have equal : event = other := funext same
  rw [equal]

/-- What enters is what has left, and then what is held. -/
theorem producedBy_conserved {enters leaves : Nat → Option α} {held : Nat → List α}
    (empty : held 0 = [])
    (moves : ∀ n, held n ++ (enters n).toList = (leaves n).toList ++ held (n + 1)) (n : Nat) :
    producedBy enters n = producedBy leaves n ++ held n := by
  -- The induction is on the events, each of which moves what `moves` says.
  induction n with
  | zero => rw [empty, producedBy_zero, producedBy_zero, List.append_nil]
  | succ n ih =>
    rw [producedBy_succ, producedBy_succ, ih, List.append_assoc, moves, List.append_assoc]

/-- What stands at a place was produced when the places before it were full. -/
theorem producedBy_source {event : Nat → Option α} {n place : Nat} {value : α}
    (stands : (producedBy event n)[place]? = some value) :
    ∃ k < n, event k = some value ∧ (producedBy event k).length = place := by
  -- The induction is on the events, the last of which fills the last place if any.
  induction n with
  | zero => simp at stands
  | succ n ih =>
    rw [producedBy_succ, List.getElem?_append] at stands
    split at stands
    · obtain ⟨k, below, produced, before⟩ := ih stands
      exact ⟨k, by omega, produced, before⟩
    · rename_i outside
      cases produced : event n with
      | none => simp [produced] at stands
      | some newest =>
        -- One event produces one value, so the place is the next free one.
        rw [produced, Option.toList_some, List.getElem?_singleton] at stands
        split at stands
        · rename_i first
          have same := Option.some.inj stands
          exact ⟨n, by omega, by rw [produced, same], by omega⟩
        · cases stands

/-- What was produced once stays where it is. -/
theorem producedBy_prefix (event : Nat → Option α) {n m : Nat} (order : n ≤ m) :
    producedBy event n <+: producedBy event m := by
  -- The induction is on the later index, which adds at the end only.
  induction m, order using Nat.le_induction with
  | base => exact List.prefix_rfl
  | succ m later ih => exact ih.trans (List.prefix_append _ _)

end History

/-- A run of calls on a queue that is empty at first. -/
structure QueueRun (α : Type u) (capacity : Nat) where
  call : Nat → QueueCall α

namespace QueueRun

variable {α : Type u} {capacity : Nat} (run : QueueRun α capacity)

/-- The queue after `n` calls. -/
def queue (n : Nat) : BoundedQueue α capacity :=
  stateAt BoundedQueue.step .empty run.call n

/-- What the first `n` calls got into the queue. -/
def accepted (n : Nat) : List α := producedBy (fun k => (run.queue k).accepts (run.call k)) n

/-- What the first `n` calls took out of the queue. -/
def delivered (n : Nat) : List α := producedBy (fun k => (run.queue k).delivers (run.call k)) n

/-- How many of the first `n` calls were pops. -/
def pops (n : Nat) : Nat := Nat.count (fun k => (run.call k).isPop = true) n

/-- What has been accepted is what has been delivered, and then what is in the queue. -/
theorem accepted_eq (n : Nat) :
    run.accepted n = run.delivered n ++ (run.queue n).entries := by
  -- The induction is on the calls, each of which moves what `step_entries` says.
  induction n with
  | zero => rfl
  | succ n ih =>
    have moved := (run.queue n).step_entries (run.call n)
    unfold accepted delivered at ih ⊢
    rw [producedBy_succ, producedBy_succ, ih, List.append_assoc, moved, ← List.append_assoc]
    rfl

/-- So entries come out in the order in which they went in, and none comes out twice. -/
theorem delivered_prefix (n : Nat) : run.delivered n <+: run.accepted n :=
  ⟨(run.queue n).entries, (run.accepted_eq n).symm⟩

/-- From some call on, all that was accepted by then comes out, or every pop delivers an entry. -/
theorem delivered_progress {n m : Nat} (order : n ≤ m) :
    run.accepted n <+: run.delivered m ∨
      run.pops m + (run.delivered n).length ≤ run.pops n + (run.delivered m).length := by
  -- The induction is on the later index; a pop that finds nothing has everything delivered.
  induction m, order using Nat.le_induction with
  | base => exact Or.inr le_rfl
  | succ m later ih =>
    -- Either way the deliveries only grow at the end.
    have grows : run.delivered (m + 1) =
        run.delivered m ++ ((run.queue m).delivers (run.call m)).toList := rfl
    rcases ih with done | counted
    -- What had all come out before stays delivered.
    · left
      rw [grows]
      exact done.trans (List.prefix_append _ _)
    · cases called : run.call m with
      | push entry =>
        right
        -- A push is no pop, so neither count moves against the other.
        have same : run.pops (m + 1) = run.pops m := by
          unfold pops
          rw [Nat.count_succ, called]
          rfl
        rw [same, grows, List.length_append]
        omega
      | pop =>
        have one : run.pops (m + 1) = run.pops m + 1 := by
          unfold pops
          rw [Nat.count_succ, called]
          rfl
        have asked : (run.queue m).delivers (run.call m) = (run.queue m).entries.head? := by
          rw [called]
          rfl
        rw [grows, asked]
        cases waiting : (run.queue m).entries with
        | nil =>
          left
          -- Nothing waits, so all that was ever accepted has come out.
          have everything := run.accepted_eq m
          rw [waiting, List.append_nil] at everything
          have earlier : run.accepted n <+: run.accepted m := producedBy_prefix _ later
          rw [everything] at earlier
          exact earlier.trans (List.prefix_append _ _)
        | cons oldest rest =>
          right
          -- One pop more, and one entry more that came out.
          rw [one, List.length_append]
          simp only [List.head?_cons, Option.toList_some, List.length_cons, List.length_nil]
          omega

/-- Once as many pops have followed as entries were waiting, each of these has come out. -/
theorem delivered_of_pops {n m : Nat} (order : n ≤ m)
    (enough : run.pops n + (run.queue n).entries.length ≤ run.pops m) :
    run.accepted n <+: run.delivered m := by
  rcases run.delivered_progress order with done | counted
  · exact done
  · -- Both are beginnings of what was accepted in the end, and the second is the longer one.
    have earlier : run.accepted n <+: run.accepted m := producedBy_prefix _ order
    apply List.prefix_of_prefix_length_le earlier (run.delivered_prefix m)
    rw [run.accepted_eq n, List.length_append]
    omega

end QueueRun

end AmpFc
