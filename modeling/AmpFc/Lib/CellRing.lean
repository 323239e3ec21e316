import AmpFc.Lib.Fifo

/-! Rings of cells that keep one cell free, as bounded queues. -/

namespace AmpFc

universe u

/-- Cells that are filled at the head and emptied at the tail, both of which go round. -/
structure CellRing (α : Type u) (depth : Nat) where
  cells : Vector α depth
  head : Fin depth
  tail : Fin depth

namespace CellRing

variable {α : Type u} {depth : Nat}

/-- The position behind another one, which after the last is the first. -/
def following (position : Fin depth) : Fin depth :=
  ⟨(position.val + 1) % depth, Nat.mod_lt _ position.pos⟩

/-- The number of cells from the tail up to the head. -/
def count (ring : CellRing α depth) : Nat := (ring.head.val + depth - ring.tail.val) % depth

/-- The position so many places behind the tail. -/
def place (ring : CellRing α depth) (offset : Nat) : Fin depth :=
  ⟨(ring.tail.val + offset) % depth, Nat.mod_lt _ ring.tail.pos⟩

/-- What the cells from the tail up to the head hold. -/
def entries (ring : CellRing α depth) : List α :=
  (List.range ring.count).map fun offset => ring.cells.get (ring.place offset)

/-- Filling the cell at the head, unless the head would meet the tail. -/
def push (ring : CellRing α depth) (entry : α) : CellRing α depth :=
  if following ring.head = ring.tail then ring
  else { ring with cells := ring.cells.set ring.head entry, head := following ring.head }

/-- Emptying the cell at the tail, unless the tail has met the head. -/
def pop (ring : CellRing α depth) : Option (α × CellRing α depth) :=
  if ring.tail = ring.head then none
  else some (ring.cells.get ring.tail, { ring with tail := following ring.tail })

/-- A position that is at most once around. -/
theorem once_around {position : Nat} (once : position < 2 * depth) :
    position % depth = if position < depth then position else position - depth := by
  -- Past the last position one turn is taken off, and no second one is needed.
  split
  · rename_i inside
    exact Nat.mod_eq_of_lt inside
  · rename_i outside
    rw [Nat.mod_eq_sub_mod (by omega), Nat.mod_eq_of_lt (by omega)]

/-- From the tail to the head is less than once around. -/
theorem count_eq (ring : CellRing α depth) :
    ring.count = if ring.tail.val ≤ ring.head.val then ring.head.val - ring.tail.val
      else ring.head.val + depth - ring.tail.val := by
  have head := ring.head.isLt
  have tail := ring.tail.isLt
  unfold count
  -- The sum of a position and a depth is less than two turns.
  rw [once_around (by omega)]
  split <;> split <;> omega

/-- The position that follows is the next one, or the first one after the last. -/
theorem following_val (position : Fin depth) :
    (following position).val = if position.val + 1 < depth then position.val + 1 else 0 := by
  have inside := position.isLt
  show (position.val + 1) % depth = _
  rw [once_around (by omega)]
  split <;> omega

/-- A place lies behind the tail, or goes round the end once. -/
theorem place_val (ring : CellRing α depth) {offset : Nat} (inside : offset < depth) :
    (ring.place offset).val = if ring.tail.val + offset < depth then ring.tail.val + offset
      else ring.tail.val + offset - depth := by
  have tail := ring.tail.isLt
  exact once_around (by omega)

/-- One cell stays free. -/
theorem count_lt (ring : CellRing α depth) : ring.count < depth := Nat.mod_lt _ ring.tail.pos

/-- As many entries as the positions say. -/
@[simp] theorem entries_length (ring : CellRing α depth) : ring.entries.length = ring.count := by
  unfold entries
  rw [List.length_map, List.length_range]

/-- The head meets the tail where one cell alone is left. -/
theorem following_head_eq_tail (ring : CellRing α depth) :
    following ring.head = ring.tail ↔ ring.count + 1 = depth := by
  have head := ring.head.isLt
  have tail := ring.tail.isLt
  rw [Fin.ext_iff, following_val, count_eq]
  -- Linear in the positions, whichever of the two comes first.
  split <;> split <;> omega

/-- The tail meets the head where nothing is left. -/
theorem tail_eq_head (ring : CellRing α depth) : ring.tail = ring.head ↔ ring.count = 0 := by
  have head := ring.head.isLt
  have tail := ring.tail.isLt
  rw [Fin.ext_iff, count_eq]
  split <;> omega

/-- Behind all that are counted comes the head. -/
theorem place_count (ring : CellRing α depth) : ring.place ring.count = ring.head := by
  have head := ring.head.isLt
  have tail := ring.tail.isLt
  rw [Fin.ext_iff, place_val ring ring.count_lt, count_eq]
  -- Tail and count add up to the head, after one turn at most.
  split <;> split <;> omega

/-- No cell that is counted is the one at the head. -/
theorem place_ne_head (ring : CellRing α depth) {offset : Nat} (counted : offset < ring.count) :
    ring.head.val ≠ (ring.place offset).val := by
  have head := ring.head.isLt
  have tail := ring.tail.isLt
  have inside := ring.count_lt
  rw [place_val ring (by omega)]
  -- The places counted start at the tail and stop short of the head.
  rw [count_eq] at counted
  split at counted <;> split <;> omega

/-- An entry that is pushed into a ring with room comes behind all the others. -/
theorem push_entries {ring : CellRing α depth} (room : ring.count + 1 < depth) (entry : α) :
    (ring.push entry).entries = ring.entries ++ [entry] := by
  have free : following ring.head ≠ ring.tail := by
    intro meets
    have full := ring.following_head_eq_tail.mp meets
    omega
  have pushed : ring.push entry =
      { ring with cells := ring.cells.set ring.head entry, head := following ring.head } :=
    if_neg free
  -- One more cell is counted, and it is the one that was filled.
  have longer : (ring.push entry).count = ring.count + 1 := by
    have head := ring.head.isLt
    have tail := ring.tail.isLt
    have counted := ring.count_eq
    have next := following_val ring.head
    rw [pushed, count_eq]
    dsimp only
    split_ifs at counted next ⊢ <;> omega
  unfold entries
  rw [longer, List.range_succ, List.map_append, List.map_singleton]
  -- The cell that was filled is none of those counted before.
  have kept : ∀ offset ∈ List.range ring.count,
      (ring.push entry).cells.get ((ring.push entry).place offset) =
        ring.cells.get (ring.place offset) := by
    intro offset counted
    have other := ring.place_ne_head (List.mem_range.mp counted)
    rw [pushed]
    exact Vector.getElem_set_ne ring.head.isLt (ring.place offset).isLt other
  -- The last place counted is where the head stood.
  have filled : (ring.push entry).cells.get ((ring.push entry).place ring.count) = entry := by
    have last : (ring.push entry).place ring.count = ring.head := by
      rw [← ring.place_count, pushed]
      rfl
    rw [last, pushed]
    exact Vector.getElem_set_self ring.head.isLt
  rw [List.map_congr_left kept, filled]

/-- A pop takes the first entry, and fails where there is none. -/
theorem pop_entries (ring : CellRing α depth) :
    (ring.entries = [] ∧ ring.pop = none) ∨ ∃ entry rest,
      ring.entries = entry :: rest.entries ∧ ring.pop = some (entry, rest) := by
  by_cases meets : ring.tail = ring.head
  · left
    refine ⟨?_, if_pos meets⟩
    apply List.eq_nil_of_length_eq_zero
    rw [entries_length]
    exact ring.tail_eq_head.mp meets
  · right
    refine ⟨ring.cells.get ring.tail, { ring with tail := following ring.tail }, ?_,
      if_neg meets⟩
    have head := ring.head.isLt
    have tail := ring.tail.isLt
    have distinct : ring.tail.val ≠ ring.head.val := fun same => meets (Fin.ext same)
    -- One cell less is counted, and each of the others lies one place nearer to the tail.
    have shorter : ring.count =
        ({ ring with tail := following ring.tail } : CellRing α depth).count + 1 := by
      rw [count_eq, count_eq, following_val]
      dsimp only
      split <;> split <;> split <;> omega
    -- The oldest entry lies at the tail.
    have first : ring.place 0 = ring.tail := Fin.ext (Nat.mod_eq_of_lt tail)
    have shifted : ∀ offset,
        ({ ring with tail := following ring.tail } : CellRing α depth).place offset =
          ring.place (offset + 1) := by
      intro offset
      apply Fin.ext
      show ((ring.tail.val + 1) % depth + offset) % depth = (ring.tail.val + (offset + 1)) % depth
      -- Moving the tail by one and the offset by one is the same.
      rw [Nat.mod_add_mod, Nat.add_assoc, Nat.add_comm 1 offset]
    unfold entries
    rw [shorter, List.range_succ_eq_map, List.map_cons, List.map_map, first]
    congr 1
    apply List.map_congr_left
    intro offset _
    show ring.cells.get (ring.place (offset + 1)) = ring.cells.get _
    rw [shifted]

end CellRing

section Queue

variable {α : Type u} {capacity : Nat}

/-- The queue that a ring holds, which has one cell more than the queue has room. -/
def CellRing.queue (ring : CellRing α (capacity + 1)) : BoundedQueue α capacity :=
  ⟨ring.entries, by rw [CellRing.entries_length]; exact Nat.le_of_lt_succ ring.count_lt⟩

/-- Pushing into the ring is pushing into the queue. -/
theorem CellRing.push_queue (ring : CellRing α (capacity + 1)) (entry : α) :
    (ring.push entry).queue = ring.queue.push entry := by
  by_cases room : ring.count < capacity
  · have pushed := ring.push_entries (Nat.succ_lt_succ room) entry
    -- The list is as long as the count, so the queue has room where the ring has.
    have fits : ring.queue.entries.length < capacity := by
      rw [← ring.entries_length] at room
      exact room
    unfold BoundedQueue.push
    rw [dif_pos fits]
    unfold CellRing.queue
    simp only [pushed]
  · -- A full ring drops the entry, and so does a full queue.
    have counted := ring.count_lt
    have full : CellRing.following ring.head = ring.tail :=
      ring.following_head_eq_tail.mpr (by omega)
    have stays : ring.push entry = ring := if_pos full
    have tight : ¬ ring.queue.entries.length < capacity := by
      rw [← ring.entries_length] at room
      exact room
    unfold BoundedQueue.push
    rw [dif_neg tight, stays]

/-- Popping from the ring is popping from the queue. -/
theorem CellRing.pop_queue (ring : CellRing α (capacity + 1)) :
    (ring.queue.entries.head? = none ∧ ring.queue.pop = ring.queue ∧ ring.pop = none) ∨
      ∃ entry rest, ring.queue.entries.head? = some entry ∧ rest.queue = ring.queue.pop ∧
        ring.pop = some (entry, rest) := by
  rcases ring.pop_entries with ⟨nothing, fails⟩ | ⟨entry, rest, first, popped⟩
  · left
    -- Popping an empty queue leaves it as it is.
    have empty : ring.queue.entries = [] := nothing
    refine ⟨by rw [empty]; rfl, ?_, fails⟩
    apply BoundedQueue.ext
    show ring.queue.entries.tail = ring.queue.entries
    rw [empty]
    rfl
  · right
    -- What the ring keeps is the queue without its first entry.
    have order : ring.queue.entries = entry :: rest.entries := first
    refine ⟨entry, rest, by rw [order]; rfl, ?_, popped⟩
    apply BoundedQueue.ext
    show rest.entries = ring.queue.entries.tail
    rw [order]
    rfl

/-- A ring whose head and tail meet holds the empty queue. -/
theorem CellRing.queue_of_meet {ring : CellRing α (capacity + 1)} (meets : ring.tail = ring.head) :
    ring.queue = .empty := by
  apply BoundedQueue.ext
  apply List.eq_nil_of_length_eq_zero
  exact ring.entries_length.trans (ring.tail_eq_head.mp meets)

end Queue

end AmpFc
