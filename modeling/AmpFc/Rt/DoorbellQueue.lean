import AmpFc.Rt.CmdquTransport

/-! The doorbell ring in its static variables: a bounded queue, in whatever order it is called. -/

namespace AmpFc

/-- The static variables of `RtosCmdquIsrTransport`, whose instance is active once it has one. -/
structure DoorbellStatics where
  pendingQueue : Vector PendingCmd queueDepth
  queueHead : UInt32
  queueTail : UInt32
  active : Bool

namespace DoorbellStatics

/-- What `init` leaves of the statics: the memory of the queue stays, but nothing is pending. -/
def init (s : DoorbellStatics) : DoorbellStatics :=
  { s with queueHead := 0, queueTail := 0, active := true }

/-- `(index + 1u) % kQueueDepth`. -/
def next (index : UInt32) : UInt32 := (index + 1) % 32

/-- `onCmdFromMailbox`, which is undefined where it would write outside the queue. -/
def onCmdFromMailbox (s : DoorbellStatics) (cmdId : UInt8) (seqHint : UInt32) :
    Option DoorbellStatics :=
  -- Without an instance the mailbox has nobody to ring.
  if !s.active then some s
  -- The head would meet the tail: the doorbell is dropped.
  else if next s.queueHead = s.queueTail then some s
  else if inside : s.queueHead.toNat < queueDepth then
    some { s with
      pendingQueue := s.pendingQueue.set s.queueHead.toNat ⟨cmdId, seqHint⟩
      queueHead := next s.queueHead }
  else none

/-- `popCommand` and the doorbell it hands out; undefined where it would read outside the queue. -/
def popCommand (s : DoorbellStatics) : Option (Option PendingCmd × DoorbellStatics) :=
  -- Nothing is pending.
  if s.queueTail = s.queueHead then some (none, s)
  else if inside : s.queueTail.toNat < queueDepth then
    some (some s.pendingQueue[s.queueTail.toNat], { s with queueTail := next s.queueTail })
  else none

/-- One call from either side, with the doorbell that it hands out. -/
def answer (s : DoorbellStatics) :
    QueueCall PendingCmd → Option (Option PendingCmd × DoorbellStatics)
  | .push doorbell => (s.onCmdFromMailbox doorbell.cmdId doorbell.seqHint).map fun s => (none, s)
  | .pop => s.popCommand

/-- The doorbells from the tail up to the head, which wrap around the end of the queue. -/
def entries (s : DoorbellStatics) : List PendingCmd :=
  let count := (s.queueHead.toNat + queueDepth - s.queueTail.toNat) % queueDepth
  (List.range count).map fun offset =>
    s.pendingQueue.get ⟨(s.queueTail.toNat + offset) % queueDepth, Nat.mod_lt _ (by decide)⟩

/-- The statics of an active transport hold this ring. -/
structure Holds (s : DoorbellStatics) (ring : DoorbellRing) : Prop where
  active : s.active = true
  pending : s.pendingQueue = ring.pending
  head : s.queueHead.toNat = ring.head.val
  tail : s.queueTail.toNat = ring.tail.val

/-- After `init` the statics hold a ring with nothing in it. -/
theorem init_holds (s : DoorbellStatics) :
    s.init.Holds { pending := s.pendingQueue, head := 0, tail := 0 } :=
  ⟨rfl, rfl, rfl, rfl⟩

namespace Holds

variable {s : DoorbellStatics} {ring : DoorbellRing}

/-- The head is inside the queue, -/
theorem headInside (holds : s.Holds ring) : s.queueHead.toNat < queueDepth := by
  rw [holds.head]
  exact ring.head.isLt

/-- and the tail too. -/
theorem tailInside (holds : s.Holds ring) : s.queueTail.toNat < queueDepth := by
  rw [holds.tail]
  exact ring.tail.isLt

/-- The statics list what the ring lists. -/
theorem entries (holds : s.Holds ring) : s.entries = ring.cellRing.entries := by
  unfold DoorbellStatics.entries CellRing.entries CellRing.count CellRing.place
  simp only [holds.head, holds.tail, holds.pending]
  rfl

/-- Positions go round in 32 bits as they do in the ring. -/
theorem next_toNat {index : UInt32} {position : Fin queueDepth}
    (same : index.toNat = position.val) :
    (next index).toNat = (DoorbellRing.next position).val := by
  have inside := position.isLt
  unfold next DoorbellRing.next
  rw [UInt32.toNat_mod, UInt32.toNat_add, same]
  simp only [queueDepth] at inside
  -- The sum is far below 32 bits, so only the queue wraps.
  have small : (position.val + 1) % 2 ^ 32 = position.val + 1 := Nat.mod_eq_of_lt (by omega)
  show (position.val + 1) % 2 ^ 32 % 32 = _
  rw [small]

/-- The head meets the tail in the statics where it does in the ring. -/
theorem full_iff (holds : s.Holds ring) :
    next s.queueHead = s.queueTail ↔ DoorbellRing.next ring.head = ring.tail := by
  -- All four are compared as natural numbers.
  rw [← UInt32.toNat_inj, next_toNat holds.head, holds.tail, Fin.ext_iff]

/-- A doorbell is rung inside the queue, and the ring tells where it goes. -/
theorem onCmdFromMailbox (holds : s.Holds ring) (cmdId : UInt8) (seqHint : UInt32) :
    ∃ after, s.onCmdFromMailbox cmdId seqHint = some after ∧
      after.Holds (ring.onCmdFromMailbox cmdId seqHint) ∧
      (DoorbellRing.next ring.head = ring.tail → after = s) := by
  unfold DoorbellStatics.onCmdFromMailbox DoorbellRing.onCmdFromMailbox
  rw [holds.active]
  simp only [Bool.not_true, Bool.false_eq_true, if_false]
  by_cases full : DoorbellRing.next ring.head = ring.tail
  · rw [if_pos (holds.full_iff.mpr full), if_pos full]
    exact ⟨s, rfl, holds, fun _ => rfl⟩
  · rw [if_neg (fun meets => full (holds.full_iff.mp meets)), if_neg full, dif_pos holds.headInside]
    refine ⟨_, rfl, ⟨rfl, ?_, next_toNat holds.head, holds.tail⟩, fun meets => absurd meets full⟩
    simp only [holds.pending, holds.head]

/-- A doorbell is popped inside the queue, and it is the one the ring pops. -/
theorem popCommand (holds : s.Holds ring) :
    (ring.popCommand = none ∧ s.popCommand = some (none, s)) ∨ ∃ pending rest after,
      ring.popCommand = some (pending, rest) ∧ s.popCommand = some (some pending, after) ∧
        after.Holds rest := by
  have meets : s.queueTail = s.queueHead ↔ ring.tail = ring.head := by
    rw [← UInt32.toNat_inj, holds.head, holds.tail, Fin.ext_iff]
  unfold DoorbellStatics.popCommand DoorbellRing.popCommand
  by_cases empty : ring.tail = ring.head
  · left
    rw [if_pos empty, if_pos (meets.mpr empty)]
    exact ⟨rfl, rfl⟩
  · right
    rw [if_neg empty, if_neg (fun same => empty (meets.mp same)), dif_pos holds.tailInside]
    have inside := holds.tailInside
    have read : s.pendingQueue[s.queueTail.toNat] = ring.pending[ring.tail] := by
      simp only [holds.pending, holds.tail]
      rfl
    refine ⟨_, _, { s with queueTail := next s.queueTail }, rfl, ?_,
      ⟨holds.active, holds.pending, holds.head, next_toNat holds.tail⟩⟩
    rw [read]

end Holds

end DoorbellStatics

/-- Calls from both sides in any order, each of them atomic, after an `init`. -/
structure DoorbellRun where
  start : DoorbellStatics
  call : Nat → QueueCall PendingCmd

namespace DoorbellRun

/-- The statics after `n` calls, unless one of them was undefined. -/
def statics (run : DoorbellRun) (n : Nat) : Option DoorbellStatics :=
  stateAt (fun s call => s.bind fun s => (s.answer call).map Prod.snd) (some run.start.init)
    run.call n

/-- The doorbells that `popCommand` handed out in the first `n` calls. -/
def popped (run : DoorbellRun) (n : Nat) : List PendingCmd :=
  producedBy (fun k => (run.statics k).bind fun s => (s.answer (run.call k)).bind Prod.fst) n

/-- The same calls on a queue of 31 doorbells. -/
def queueRun (run : DoorbellRun) : QueueRun PendingCmd 31 := ⟨run.call⟩

variable (run : DoorbellRun)

/-- Each call is made upon what the one before has left. -/
theorem statics_succ {n : Nat} {s : DoorbellStatics} (defined : run.statics n = some s) :
    run.statics (n + 1) = (s.answer (run.call n)).map Prod.snd := by
  unfold statics at defined ⊢
  rw [stateAt_succ, defined]
  rfl

/-- One call keeps statics and ring together, and does to the ring what it does to a queue. -/
theorem answer_holds {s : DoorbellStatics} {ring : DoorbellRing} (holds : s.Holds ring)
    (call : QueueCall PendingCmd) : ∃ after rest,
      s.answer call = some (ring.cellRing.queue.delivers call, after) ∧ after.Holds rest ∧
        rest.cellRing.queue = ring.cellRing.queue.step call := by
  cases call with
  | push doorbell =>
    -- Ringing is pushing into the cells, and so into the queue.
    obtain ⟨after, rung, still, -⟩ := holds.onCmdFromMailbox doorbell.cmdId doorbell.seqHint
    refine ⟨after, _, ?_, still, ?_⟩
    · show (s.onCmdFromMailbox doorbell.cmdId doorbell.seqHint).map (fun s => (none, s)) = _
      rw [rung]
      rfl
    · rw [DoorbellRing.cellRing_onCmdFromMailbox]
      exact CellRing.push_queue _ _
  | pop =>
    show ∃ after rest, s.popCommand = some (ring.cellRing.queue.entries.head?, after) ∧
      after.Holds rest ∧ rest.cellRing.queue = ring.cellRing.queue.pop
    have same := ring.cellRing_popCommand
    rcases holds.popCommand with ⟨none, fails⟩ | ⟨pending, rest, after, taken, gives, still⟩
    · -- Where the ring of doorbells has nothing to pop, the ring of cells has nothing either.
      rw [none] at same
      rcases ring.cellRing.pop_queue with ⟨nothing, stays, -⟩ | ⟨entry, left, -, -, popped⟩
      · exact ⟨s, ring, by rw [fails, nothing], holds, stays.symm⟩
      · rw [popped] at same
        cases same
    · rw [taken] at same
      rcases ring.cellRing.pop_queue with ⟨-, -, none⟩ | ⟨entry, left, first, shorter, popped⟩
      · rw [none] at same
        cases same
      · -- Both pop the same doorbell and leave the same rest.
        rw [popped] at same
        cases same
        exact ⟨after, rest, by rw [gives, first], still, shorter⟩

/-- Throughout a run the statics are defined, and hold a ring that holds what the queue holds. -/
theorem statics_holds (n : Nat) : ∃ s ring, run.statics n = some s ∧ s.Holds ring ∧
    ring.cellRing.queue = run.queueRun.queue n := by
  -- The induction is on the calls.
  induction n with
  | zero =>
    -- After `init` head and tail are the same, whatever the memory holds.
    refine ⟨run.start.init, _, rfl, run.start.init_holds, ?_⟩
    exact CellRing.queue_of_meet rfl
  | succ n ih =>
    -- The statics after `n` calls answer the next one, and still hold a ring.
    obtain ⟨s, ring, defined, holds, same⟩ := ih
    obtain ⟨after, rest, answered, still, stepped⟩ := answer_holds holds (run.call n)
    refine ⟨after, rest, ?_, still, ?_⟩
    · rw [run.statics_succ defined, answered]
      rfl
    · rw [stepped, same]
      rfl

/-- What `popCommand` hands out is what the queue delivers. -/
theorem popped_eq (n : Nat) : run.popped n = run.queueRun.delivered n := by
  apply producedBy_congr
  -- Call by call: the ring answers what its queue delivers.
  intro k
  obtain ⟨s, ring, defined, holds, same⟩ := run.statics_holds k
  obtain ⟨after, rest, answered, -, -⟩ := answer_holds holds (run.call k)
  rw [defined, Option.bind_some, answered, same]
  rfl

/--
The doorbells are a queue of 31, first in and first out, in whatever order the two sides call.

Head and tail never leave the queue, a doorbell that finds it full changes nothing, and a pop
fails exactly where nothing waits.
Every other doorbell comes out in its turn, and has come out once enough pops have followed.
-/
theorem doorbells_fifo (run : DoorbellRun) :
    (∀ n, ∃ s, run.statics n = some s ∧ s.queueHead < 32 ∧ s.queueTail < 32 ∧
      s.entries = (run.queueRun.queue n).entries ∧
      (s.entries.length = 31 → ∀ cmdId seqHint, s.onCmdFromMailbox cmdId seqHint = some s) ∧
      ∃ out after, s.popCommand = some (out, after) ∧ out = s.entries.head? ∧
        (out = none ↔ s.entries = [])) ∧
    (∀ n, run.queueRun.accepted n = run.popped n ++ (run.queueRun.queue n).entries) ∧
    (∀ n m, n ≤ m →
      run.queueRun.pops n + (run.queueRun.queue n).entries.length ≤ run.queueRun.pops m →
      run.queueRun.accepted n <+: run.popped m) := by
  refine ⟨?_, ?_, ?_⟩
  · intro n
    obtain ⟨s, ring, defined, holds, same⟩ := run.statics_holds n
    have listed : s.entries = ring.cellRing.queue.entries := holds.entries
    refine ⟨s, defined, UInt32.lt_iff_toNat_lt.mpr holds.headInside,
      UInt32.lt_iff_toNat_lt.mpr holds.tailInside, ?_, ?_, ?_⟩
    · rw [listed, same]
    · intro full cmdId seqHint
      obtain ⟨after, rung, -, stays⟩ := holds.onCmdFromMailbox cmdId seqHint
      -- With 31 doorbells the head would meet the tail.
      have counted : ring.cellRing.count + 1 = 32 := by
        rw [← ring.cellRing.entries_length]
        rw [listed] at full
        exact congrArg (· + 1) full
      rw [rung, stays (ring.cellRing.following_head_eq_tail.mpr counted)]
    -- A pop answers what the queue delivers, which is its first entry.
    · obtain ⟨after, -, answered, -, -⟩ := answer_holds holds .pop
      refine ⟨_, after, answered, ?_, ?_⟩
      · rw [listed]
        rfl
      · rw [listed]
        exact List.head?_eq_none_iff
  · intro n
    -- Of the queue this is known.
    rw [popped_eq]
    exact run.queueRun.accepted_eq n
  · intro n m order enough
    -- So is how many pops it takes.
    rw [popped_eq]
    exact run.queueRun.delivered_of_pops order enough

/-- After `init` twenty doorbells are rung and taken, then thirty-five more are rung, which is more
than fit and goes round the end of the queue, and from then on both sides only pop. -/
def overfull : DoorbellRun where
  start :=
    { pendingQueue := .replicate queueDepth {}, queueHead := 7, queueTail := 9, active := false }
  call n :=
    if n < 20 ∨ 40 ≤ n ∧ n < 75 then .push ⟨0x31, UInt32.ofNat n⟩ else .pop

/-- Fifty-one of the doorbells were accepted, and have come out in order after thirty-one pops. -/
theorem doorbells_fifo_overfull : (overfull.queueRun.accepted 75).length = 51 ∧
    overfull.queueRun.accepted 75 <+: overfull.popped 106 :=
  -- Thirty-one entries wait after the last doorbell, and as many pops follow.
  ⟨by decide +kernel, (doorbells_fifo overfull).2.2 75 106 (by decide) (by decide +kernel)⟩

end DoorbellRun

end AmpFc
