import AmpFc.Lib.Fifo

/-! A queue behind its two calls: what they return, and what they mean for its contents. -/

namespace AmpFc

universe u v

/-- The calls of a queue that is implemented elsewhere. -/
structure QueueApi (Q : Type u) (α : Type v) where
  /-- Whether the entry was taken. -/
  send : Q → α → Bool × Q
  /-- The entry that was given out. -/
  receive : Q → Option α × Q

/-- The calls as their documentation has them: first in, first out, and a full queue refuses. -/
structure QueueApi.Lawful {Q : Type u} {α : Type v} (api : QueueApi Q α) (contents : Q → List α)
    (capacity : Nat) : Prop where
  bounded : ∀ queue, (contents queue).length ≤ capacity
  taken : ∀ queue entry, (api.send queue entry).1 = true →
    contents (api.send queue entry).2 = contents queue ++ [entry]
  refused : ∀ queue entry, (api.send queue entry).1 = false →
    contents (api.send queue entry).2 = contents queue ∧ (contents queue).length = capacity
  given : ∀ queue entry, (api.receive queue).1 = some entry →
    contents queue = entry :: contents (api.receive queue).2
  empty : ∀ queue, (api.receive queue).1 = none →
    contents queue = [] ∧ contents (api.receive queue).2 = []

/-- The bounded list as such a queue. -/
def BoundedQueue.api (α : Type u) (capacity : Nat) : QueueApi (BoundedQueue α capacity) α where
  send queue entry := (decide (queue.entries.length < capacity), queue.push entry)
  receive queue := (queue.entries.head?, queue.pop)

/-- The bounded list is first in, first out. -/
theorem BoundedQueue.api_lawful (α : Type u) (capacity : Nat) :
    (BoundedQueue.api α capacity).Lawful BoundedQueue.entries capacity := by
  refine ⟨BoundedQueue.bounded, ?_, ?_, ?_, ?_⟩
  -- A push appends if there is room, and does nothing otherwise.
  · intro queue entry taken
    have room : queue.entries.length < capacity := of_decide_eq_true taken
    show (queue.push entry).entries = _
    unfold BoundedQueue.push
    rw [dif_pos room]
  · intro queue entry refused
    have full : ¬ queue.entries.length < capacity := of_decide_eq_false refused
    refine ⟨?_, Nat.le_antisymm queue.bounded (Nat.not_lt.mp full)⟩
    show (queue.push entry).entries = _
    unfold BoundedQueue.push
    rw [dif_neg full]
  -- What is given out is the head, and the tail stays.
  · intro queue entry given
    show queue.entries = entry :: queue.entries.tail
    exact List.eq_cons_of_mem_head? given
  · intro queue nothing
    have bare : queue.entries = [] := List.head?_eq_none_iff.mp nothing
    refine ⟨bare, ?_⟩
    show queue.entries.tail = []
    rw [bare]
    rfl

section Offers

variable {α : Type v}

/-- The entries that were taken, of those that were offered. -/
def takenOf (offers : List (α × Bool)) : List α := (offers.filter Prod.snd).map Prod.fst

/-- Offers made later are taken later. -/
@[simp] theorem takenOf_append (first second : List (α × Bool)) :
    takenOf (first ++ second) = takenOf first ++ takenOf second := by
  unfold takenOf
  rw [List.filter_append, List.map_append]

/-- What was taken was offered. -/
theorem mem_of_mem_takenOf {offers : List (α × Bool)} {entry : α} (taken : entry ∈ takenOf offers) :
    entry ∈ offers.map Prod.fst := by
  obtain ⟨offer, kept, same⟩ := List.mem_map.mp taken
  exact List.mem_map.mpr ⟨offer, List.mem_of_mem_filter kept, same⟩

/-- What offers, made one after the other, mean for the contents of a queue. -/
structure Offered (capacity : Nat) (offers : List (α × Bool)) (before after : List α) : Prop where
  appended : after = before ++ takenOf offers
  full : ∀ entry, (entry, false) ∈ offers → after.length = capacity

namespace Offered

variable {capacity : Nat} {offers : List (α × Bool)} {before after : List α}

/-- Nothing is offered. -/
theorem nil : Offered capacity [] before before :=
  ⟨(List.append_nil _).symm, fun _ member => absurd member List.not_mem_nil⟩

/-- First some entries are offered, and then some more. -/
theorem append {offers' : List (α × Bool)} {last : List α}
    (first : Offered capacity offers before after) (second : Offered capacity offers' after last)
    (bounded : last.length ≤ capacity) : Offered capacity (offers ++ offers') before last := by
  refine ⟨?_, ?_⟩
  · rw [second.appended, first.appended, takenOf_append, List.append_assoc]
  · intro entry member
    rcases List.mem_append.mp member with early | late
    · -- A queue that was full in between is still full.
      have whole := first.full entry early
      have grown := congrArg List.length second.appended
      rw [List.length_append] at grown
      omega
    · exact second.full entry late

end Offered

variable {Q : Type u} {api : QueueApi Q α} {contents : Q → List α} {capacity : Nat}

/-- One entry is offered to a lawful queue. -/
theorem QueueApi.Lawful.offered_send (lawful : api.Lawful contents capacity) (queue : Q)
    (entry : α) : Offered capacity [(entry, (api.send queue entry).1)] (contents queue)
      (contents (api.send queue entry).2) := by
  cases answer : (api.send queue entry).1 with
  -- The documented behaviour covers both answers.
  | true =>
    refine ⟨lawful.taken queue entry answer, ?_⟩
    intro other member
    cases List.mem_singleton.mp member
  | false =>
    obtain ⟨same, full⟩ := lawful.refused queue entry answer
    refine ⟨?_, ?_⟩
    · rw [same]
      exact (List.append_nil _).symm
    · intro _ _
      rw [same]
      exact full

end Offers

end AmpFc
