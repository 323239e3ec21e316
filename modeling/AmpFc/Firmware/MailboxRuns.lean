import AmpFc.Firmware.MailboxSteps

/-! Runs of the interrupt and the task: what is read from the mailbox is queued, received and
answered in order, and every access belongs to a visit. -/

namespace AmpFc.Firmware

open CommandMailbox

/-- A run of the interrupt and the task, in any order, from the start of the task on. -/
structure MailboxHistory (W Q : Type) where
  port : MailboxPort W
  api : QueueApi Q Cmdqu
  world : W
  queue : Q
  event : Nat → Event

namespace MailboxHistory

variable {W Q : Type} (history : MailboxHistory W Q)

/-- The interrupt's and the task's side after so many events. -/
def mailbox (n : Nat) : CommandMailbox W Q :=
  stateAt (fun m event => (m.step history.port history.api event).1)
    { link := { world := history.world }, queue := history.queue } history.event n

/-- The accesses to the mailbox up to then. -/
def log (n : Nat) : List MailboxAccess := (history.mailbox n).link.log

/-- What passes by in one event. -/
def passing (n : Nat) : CmdquTraffic :=
  ((history.mailbox n).step history.port history.api (history.event n)).2

/-- What has passed by in the first events. -/
def traffic : Nat → CmdquTraffic
  | 0 => {}
  | n + 1 => (traffic n).append (history.passing n)

/-- Each event adds its own visits to the log. -/
theorem log_succ (n : Nat) : ∃ visits,
    history.log (n + 1) = history.log n ++ visits.flatMap MailboxVisit.accesses ∧
      Visited (history.mailbox n) (history.event n) visits
        ((history.mailbox n).step history.port history.api (history.event n)) := by
  obtain ⟨visits, visited⟩ :=
    step_visited history.port history.api (history.mailbox n) (history.event n)
  exact ⟨visits, visited.log, visited⟩

/-- Each event adds its visits to those of the events before. -/
theorem log_visits (n : Nat) :
    ∃ visits : List MailboxVisit, history.log n = visits.flatMap MailboxVisit.accesses := by
  -- The induction is on the events, each of which adds its own visits.
  induction n with
  | zero => exact ⟨[], rfl⟩
  | succ n ih =>
    obtain ⟨before, log⟩ := ih
    obtain ⟨visits, grown, _⟩ := history.log_succ n
    refine ⟨before ++ visits, ?_⟩
    rw [grown, log, List.flatMap_append]

/-- Whatever the mailbox and Linux do between any two accesses, the accesses of this processor are
one visit after the other. The interrupt reads which slots are meant, and then takes out these and
no others, in order: it clears the slot's interrupt, disables it with nothing but this bit changed
in what it has just read, copies the slot, and only then wipes it. The task writes only into the
first slot whose two validity bytes it has just read as zero, both words before it clears, enables
and raises the slot's interrupt for Linux; or it finds a byte that is not zero in every slot. So
every single change, wherever it stands in the log, is justified by what was read before it. -/
theorem mailbox_visited (n : Nat) :
    (∃ visits : List MailboxVisit, history.log n = visits.flatMap MailboxVisit.accesses) ∧
      ∀ before access after, history.log n = before ++ access :: after →
        access.changes = true → Justified before access := by
  obtain ⟨visits, log⟩ := history.log_visits n
  refine ⟨⟨visits, log⟩, ?_⟩
  intro before access after split changes
  rw [log] at split
  exact justified_of_visits split changes

/-- What was read from the mailbox was offered to the queue, in this order. -/
theorem read_offered (n : Nat) : (history.log n).filterMap MailboxAccess.command =
    (history.traffic n).offered.map Prod.fst := by
  -- The induction is on the events, each of which offers what its visits read.
  induction n with
  | zero => rfl
  | succ n ih =>
    obtain ⟨visits, grown, visited⟩ := history.log_succ n
    show _ = ((history.traffic n).offered ++ (history.passing n).offered).map Prod.fst
    rw [grown, List.filterMap_append, ih, visited.commands, List.map_append]
    rfl

/-- What was written to the mailbox are the answers that found a slot, in this order. -/
theorem written_settled (n : Nat) : (history.log n).filter MailboxAccess.fills =
    (history.traffic n).settled.flatMap settledWrites := by
  -- The induction is on the events, each of which writes what it settles.
  induction n with
  | zero => rfl
  | succ n ih =>
    obtain ⟨visits, grown, visited⟩ := history.log_succ n
    show _ = ((history.traffic n).settled ++ (history.passing n).settled).flatMap settledWrites
    rw [grown, List.filter_append, ih, visited.answers, List.flatMap_append]
    rfl

/-- An answer that is owed is settled, or the task is about to send it. -/
theorem owed_settled (n : Nat) : (history.traffic n).received.filterMap answerTo =
    (history.traffic n).settled.map Prod.fst ++ (history.mailbox n).held.toList := by
  -- The induction is on the events, each of which owes what it receives.
  induction n with
  | zero => rfl
  | succ n ih =>
    obtain ⟨visits, _, visited⟩ := history.log_succ n
    have owed := visited.owed
    show ((history.traffic n).received ++ (history.passing n).received).filterMap answerTo =
      ((history.traffic n).settled ++ (history.passing n).settled).map Prod.fst ++ _
    rw [List.filterMap_append, ih, List.append_assoc, List.map_append, List.append_assoc]
    exact congrArg _ owed

/-- What the task knows of the memory follows from what it has received. -/
theorem announced_eq (n : Nat) : (history.mailbox n).announced =
    (history.traffic n).received.foldl note (0, false) := by
  -- The induction is on the events, each of which notes what it receives.
  induction n with
  | zero => rfl
  | succ n ih =>
    refine (step_announced history.port history.api (history.mailbox n) (history.event n)).trans ?_
    rw [ih]
    exact List.foldl_append.symm

section Queue

variable {contents : Q → List Cmdqu} (lawful : history.api.Lawful contents 30)
  (fresh : contents history.queue = [])

include lawful fresh

/-- What the queue took, the task received, or the queue still holds it. -/
theorem taken_received (n : Nat) : takenOf (history.traffic n).offered =
    (history.traffic n).received ++ contents (history.mailbox n).queue := by
  -- The induction is on the events, each of which moves what `step_moved` says.
  induction n with
  | zero => exact fresh.symm
  | succ n ih =>
    have moved := step_moved history.port lawful (history.mailbox n) (history.event n)
    show takenOf ((history.traffic n).offered ++ (history.passing n).offered) =
      (history.traffic n).received ++ (history.passing n).received ++ _
    rw [takenOf_append, ih, List.append_assoc, List.append_assoc]
    exact congrArg _ moved

/-- What the task received, the interrupt read out of a slot. -/
theorem received_read (n : Nat) {cmdq : Cmdqu} (member : cmdq ∈ (history.traffic n).received) :
    ∃ place found, .readSlot place found ∈ history.log n ∧
      (Cmdqu.ofSlot found).linuxValid = 1 ∧ Cmdqu.ofSlot found = cmdq := by
  have taken : cmdq ∈ takenOf (history.traffic n).offered := by
    rw [history.taken_received lawful fresh n]
    exact List.mem_append_left _ member
  have offered := mem_of_mem_takenOf taken
  rw [← history.read_offered n] at offered
  obtain ⟨access, logged, command⟩ := List.mem_filterMap.mp offered
  -- Only the copy of a slot has a command.
  unfold MailboxAccess.command at command
  split at command
  · rename_i place found
    split at command
    · rename_i finished
      exact ⟨place, found, logged, finished, Option.some.inj command⟩
    · cases command
  · cases command

/-- Whatever the mailbox and Linux do between any two accesses, and whenever the interrupt comes:
every finished command read from a slot was offered to the queue, in this order, and refused only
when thirty were waiting; what the queue took, the task received in this order, or the queue holds
it; each command that has an answer has had it settled, in this order, or the task is about to send
it; and the words written to slots are the answers that were settled with a slot, the others having
found the lock refused or every slot in use. So with an empty queue, nothing to send and nothing
refused, the settled answers are those to the commands read. -/
theorem commands_conserved (n : Nat) :
    (history.log n).filterMap MailboxAccess.command = (history.traffic n).offered.map Prod.fst ∧
      takenOf (history.traffic n).offered =
        (history.traffic n).received ++ contents (history.mailbox n).queue ∧
      (history.traffic n).received.filterMap answerTo =
        (history.traffic n).settled.map Prod.fst ++ (history.mailbox n).held.toList ∧
      (history.log n).filter MailboxAccess.fills =
        (history.traffic n).settled.flatMap settledWrites ∧
      (∀ cmdq, (cmdq, false) ∈ (history.passing n).offered →
        (contents (history.mailbox (n + 1)).queue).length = 30) ∧
      (∀ cmdq, (cmdq, none) ∈ (history.passing n).settled → history.event n = .task false ∨
        ∃ busy places, history.log (n + 1) =
          history.log n ++ (MailboxVisit.giveUp busy places).accesses) ∧
      (contents (history.mailbox n).queue = [] → (history.mailbox n).held = none →
        (∀ cmdq, (cmdq, false) ∉ (history.traffic n).offered) →
          (history.traffic n).settled.map Prod.fst =
            ((history.log n).filterMap MailboxAccess.command).filterMap answerTo) := by
  have read := history.read_offered n
  have taken := history.taken_received lawful fresh n
  have owed := history.owed_settled n
  refine ⟨read, taken, owed, history.written_settled n, ?_, ?_, ?_⟩
  · exact step_full history.port lawful (history.mailbox n) (history.event n)
  · intro cmdq lost
    obtain ⟨visits, grown, visited⟩ := history.log_succ n
    rcases visited.unsent cmdq lost with refused | ⟨busy, places, all⟩
    · exact Or.inl refused
    · refine Or.inr ⟨busy, places, ?_⟩
      rw [grown, all, List.flatMap_singleton]
  · intro drained idle unrefused
    -- Without a refusal, everything that was read went through the queue.
    have every : takenOf (history.traffic n).offered =
        (history.traffic n).offered.map Prod.fst := by
      unfold takenOf
      rw [List.filter_eq_self.mpr]
      intro offer member
      cases answer : offer.2 with
      | true => rfl
      | false =>
        refine absurd ?_ (unrefused offer.1)
        rw [← answer]
        exact member
    rw [drained, List.append_nil] at taken
    rw [idle, Option.toList_none, List.append_nil, ← taken, every, ← read] at owed
    exact owed.symm

end Queue

end MailboxHistory

/-- A mailbox that only does what this processor writes. -/
structure QuietMailbox where
  slots : Fin mailboxMaxNum → MailboxSlot
  enabled : MailboxCpu → BitVec 8
  raised : MailboxCpu → BitVec 8

/-- Its accesses: a set bit is raised wherever it is enabled. -/
def quietPort : MailboxPort QuietMailbox where
  readInt w cpu := (w.raised cpu, w)
  clearInt w cpu bits :=
    { w with raised := fun other =>
        if other = cpu then w.raised cpu &&& ~~~bits else w.raised other }
  readEnable w cpu := (w.enabled cpu, w)
  writeEnable w cpu bits :=
    { w with enabled := fun other => if other = cpu then bits else w.enabled other }
  writeSet w bits := { w with raised := fun cpu => w.raised cpu ||| (w.enabled cpu &&& bits) }
  readSlot w place := (w.slots place, w)
  wipeSlot w place := { w with slots := Function.update w.slots place ⟨0, 0⟩ }
  readLinuxValid w place := ((Cmdqu.ofSlot (w.slots place)).linuxValid, w)
  readRtosValid w place := ((Cmdqu.ofSlot (w.slots place)).rtosValid, w)
  writeLow w place word :=
    { w with slots := Function.update w.slots place { w.slots place with low := word } }
  writeParam w place param :=
    { w with slots := Function.update w.slots place { w.slots place with high := param } }

/-- Linux has announced the shared memory in slot 3 and asked for the lamp in slot 5, and an older
answer still lies in slot 0. -/
def announcing : MailboxHistory QuietMailbox (BoundedQueue Cmdqu 30) where
  port := quietPort
  api := BoundedQueue.api Cmdqu 30
  world :=
    { slots := fun place =>
        if place = 0 then Cmdqu.toSlot ⟨0, 0x10, true, 0, 1, 0x12345678⟩
        else if place = 3 then Cmdqu.toSlot ⟨0, 0x20, true, 1, 0, 0x83F00000⟩
        else if place = 5 then Cmdqu.toSlot ⟨0, 0x13, true, 1, 0, 2⟩
        else ⟨0, 0⟩
      enabled := fun cpu => if cpu = receiveCpu then 0x28 else 0x01
      raised := fun cpu => if cpu = receiveCpu then 0x28 else 0x01 }
  queue := .empty
  event
    | 0 => .interrupt
    | _ => .task true

/-- Both commands are answered, in the slots 1 and 2. -/
theorem announcing_answered :
    (announcing.traffic 5).settled.map Prod.snd = [some 1, some 2] ∧
      (announcing.traffic 5).settled.map Prod.fst =
        ((announcing.log 5).filterMap MailboxAccess.command).filterMap answerTo := by
  refine ⟨by decide +kernel, ?_⟩
  refine (announcing.commands_conserved (BoundedQueue.api_lawful Cmdqu 30) rfl 5).2.2.2.2.2.2
    (by decide +kernel) (by decide +kernel) ?_
  -- Neither of the two commands was refused.
  have offered : (announcing.traffic 5).offered.map Prod.snd = [true, true] := by decide +kernel
  intro cmdq member
  have refused : false ∈ (announcing.traffic 5).offered.map Prod.snd :=
    List.mem_map.mpr ⟨_, member, rfl⟩
  rw [offered] at refused
  cases refused with
  | tail _ rest => cases rest with | tail _ rest => cases rest

/-- A command as the poll of the task looks at it. -/
def Cmdqu.message (cmdq : Cmdqu) : CmdquMessage :=
  ⟨.ofBitVec (cmdq.cmdId.setWidth 8), cmdq.paramPtr⟩

/-- The identifier that announces the memory is the one that the firmware's poll looks for. -/
theorem announces_iff (cmdq : Cmdqu) :
    cmdq.message.cmdId = FlightCmdId.initSharedMemory.toByte ↔ cmdq.cmdId = 0x20 := by
  have every : ∀ bits : BitVec 7,
      UInt8.ofBitVec (bits.setWidth 8) = FlightCmdId.initSharedMemory.toByte ↔ bits = 0x20 := by
    decide +kernel
  exact every cmdq.cmdId

/-- The firmware learns from a command what the task notes. -/
theorem handled_note (fw : Firmware) (cmdq : Cmdqu) :
    ((handleMessage fw cmdq.message).shm.shmPhys, (handleMessage fw cmdq.message).shm.shmReady) =
      note (fw.shm.shmPhys, fw.shm.shmReady) cmdq := by
  unfold handleMessage note
  -- Both look at the same identifier.
  by_cases announces : cmdq.cmdId = 0x20
  · rw [if_pos ((announces_iff cmdq).mpr announces), if_pos announces]
    rfl
  · rw [if_neg (fun named => announces ((announces_iff cmdq).mp named)), if_neg announces]

/-- The firmware after handling these commands, as far as they concern it. -/
def handleAll (received : List Cmdqu) (fw : Firmware) : Firmware :=
  received.foldl (fun fw cmdq => handleMessage fw cmdq.message) fw

/-- The firmware that handles the same commands knows the same. -/
theorem handled_announced (received : List Cmdqu) (fw : Firmware) :
    ((handleAll received fw).shm.shmPhys, (handleAll received fw).shm.shmReady) =
      received.foldl note (fw.shm.shmPhys, fw.shm.shmReady) := by
  -- The induction is on the commands, each of which is noted by both.
  induction received generalizing fw with
  | nil => rfl
  | cons cmdq received ih =>
    rw [List.foldl_cons, ← handled_note]
    exact ih _

/-- Once the address is known, one of the commands announced it. -/
theorem note_announced (received : List Cmdqu) {known : UInt32 × Bool}
    (ready : (received.foldl note known).2 = true) :
    (received.foldl note known) = known ∨
      ∃ cmdq ∈ received, cmdq.cmdId = 0x20 ∧ (received.foldl note known).1 = cmdq.paramPtr := by
  -- The induction is on the commands, of which the last announcement counts.
  induction received generalizing known with
  | nil => exact Or.inl rfl
  | cons cmdq received ih =>
    rw [List.foldl_cons] at ready ⊢
    rcases ih ready with same | ⟨later, member, announces, address⟩
    · rw [same]
      unfold note
      by_cases announces : cmdq.cmdId = 0x20
      · right
        refine ⟨cmdq, List.mem_cons_self, announces, ?_⟩
        rw [if_pos announces]
      · left
        rw [if_neg announces]
    · exact Or.inr ⟨later, List.mem_cons_of_mem _ member, announces, address⟩

/-- The firmware of the polls has the address that the last announcement received by the task
brought, and once it takes the region for ready, that address was read by the interrupt out of a
slot that carried the announcement, and that Linux had marked as finished. -/
theorem shared_memory_announced {W Q : Type} (history : MailboxHistory W Q)
    {contents : Q → List Cmdqu} (lawful : history.api.Lawful contents 30)
    (fresh : contents history.queue = []) (n : Nat) :
    (handleAll (history.traffic n).received boot).shm.shmPhys = (history.mailbox n).ampShmPhys ∧
      (handleAll (history.traffic n).received boot).shm.shmReady =
        (history.mailbox n).ampShmReady ∧
      ((history.mailbox n).ampShmReady = true → ∃ place found,
        .readSlot place found ∈ history.log n ∧ (Cmdqu.ofSlot found).linuxValid = 1 ∧
          (Cmdqu.ofSlot found).cmdId = 0x20 ∧
          (history.mailbox n).ampShmPhys = (Cmdqu.ofSlot found).paramPtr) := by
  have known := history.announced_eq n
  have start : (boot.shm.shmPhys, boot.shm.shmReady) = ((0, false) : UInt32 × Bool) := rfl
  have same := handled_announced (history.traffic n).received boot
  rw [start, ← known] at same
  refine ⟨congrArg Prod.fst same, congrArg Prod.snd same, ?_⟩
  intro ready
  have reached : ((history.traffic n).received.foldl note (0, false)).2 = true := by
    rw [← known]
    exact ready
  -- At boot nothing is known, so some command announced the address.
  rcases note_announced (history.traffic n).received reached with
    nothing | ⟨cmdq, member, which, address⟩
  · rw [nothing] at reached
    cases reached
  · obtain ⟨place, found, read, finished, same⟩ := history.received_read lawful fresh n member
    refine ⟨place, found, read, finished, ?_, ?_⟩
    · rw [same]
      exact which
    · rw [same, ← address, ← known]
      rfl

/-- The address is known once the announcement was received. -/
theorem announcing_ready : (announcing.mailbox 2).ampShmPhys = 0x83F00000 ∧
    ∃ place found, .readSlot place found ∈ announcing.log 2 ∧
      (Cmdqu.ofSlot found).linuxValid = 1 ∧ (Cmdqu.ofSlot found).cmdId = 0x20 ∧
        (announcing.mailbox 2).ampShmPhys = (Cmdqu.ofSlot found).paramPtr :=
  ⟨by decide +kernel,
    (shared_memory_announced announcing (BoundedQueue.api_lawful Cmdqu 30) rfl 2).2.2
      (by decide +kernel)⟩

end AmpFc.Firmware
