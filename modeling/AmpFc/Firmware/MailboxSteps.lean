import AmpFc.Firmware.MailboxVisits

/-! What an event of this processor does to the mailbox, to the queue, and to the answers. -/

namespace AmpFc.Firmware

namespace CommandMailbox

variable {W Q : Type} (port : MailboxPort W) (api : QueueApi Q Cmdqu) {m : CommandMailbox W Q}

/-- The visits of an event have the commands that the queue was offered, and the answers that
found a slot; an answer is owed for each command received, until it is settled. -/
structure Visited (before : CommandMailbox W Q) (event : Event) (visits : List MailboxVisit)
    (result : CommandMailbox W Q × CmdquTraffic) : Prop where
  log : result.1.link.log = before.link.log ++ visits.flatMap MailboxVisit.accesses
  commands : (visits.flatMap MailboxVisit.accesses).filterMap MailboxAccess.command =
    result.2.offered.map Prod.fst
  answers : (visits.flatMap MailboxVisit.accesses).filter MailboxAccess.fills =
    result.2.settled.flatMap settledWrites
  owed : before.held.toList ++ result.2.received.filterMap answerTo =
    result.2.settled.map Prod.fst ++ result.1.held.toList
  unsent : ∀ cmdq, (cmdq, none) ∈ result.2.settled →
    event = .task false ∨ ∃ busy places, visits = [.giveUp busy places]

/-- The interrupt reads which slots are meant, and takes these out. -/
theorem prvQueueISR_fetched (m : CommandMailbox W Q) :
    ∃ setVal fetches link, link.log = m.link.log ++ [.readInt receiveCpu setVal] ∧
      fetches.map SlotFetch.place = (List.finRange mailboxMaxNum).filter
        (fun place : Fin mailboxMaxNum => setVal.getLsbD place.val) ∧
      Fetched { m with link := link } fetches (m.prvQueueISR port api) := by
  obtain ⟨fetches, places, fetched⟩ := isrLoop_fetched port api
    (m.link.readInt port receiveCpu).1 { m with link := (m.link.readInt port receiveCpu).2 }
    (List.finRange mailboxMaxNum)
  exact ⟨_, fetches, _, rfl, places, fetched⟩

/-- The interrupt visits the mailbox once. -/
theorem prvQueueISR_visited (m : CommandMailbox W Q) :
    ∃ visits, Visited m .interrupt visits (m.prvQueueISR port api) := by
  obtain ⟨setVal, fetches, link, read, places, fetched⟩ :=
    prvQueueISR_fetched port api m
  obtain ⟨commands, fills⟩ := fetches_accesses fetches
  refine ⟨[.interrupt setVal fetches places], ?_, ?_, ?_, ?_, ?_⟩
  · rw [List.flatMap_singleton, fetched.log]
    show link.log ++ _ = _
    rw [read, List.append_assoc]
    rfl
  · rw [List.flatMap_singleton]
    exact commands.trans fetched.offered.symm
  · rw [List.flatMap_singleton, fetched.settled]
    exact fills
  · -- The answer that is held stays held.
    obtain ⟨_, _, same⟩ := fetched.frame
    rw [fetched.received, fetched.settled, same]
    exact List.append_nil _
  · intro cmdq member
    rw [fetched.settled] at member
    cases member

/-- What the task knows of the shared memory. -/
def announced (m : CommandMailbox W Q) : UInt32 × Bool := (m.ampShmPhys, m.ampShmReady)

/-- What a command adds to this. -/
def note (known : UInt32 × Bool) (cmdq : Cmdqu) : UInt32 × Bool :=
  if cmdq.cmdId = 0x20 then (cmdq.paramPtr, true) else known

/-- Without a command, receiving leaves only what the queue's call left. -/
theorem receive_none (nothing : (api.receive m.queue).1 = none) :
    m.receive api = ({ m with queue := (api.receive m.queue).2 }, {}) := by
  unfold receive
  dsimp only
  rw [nothing]

/-- A command that is received takes its place as the answer, and is noted. -/
theorem receive_some {rtosCmdq : Cmdqu} (given : (api.receive m.queue).1 = some rtosCmdq) :
    (m.receive api).2 = { received := [rtosCmdq] } ∧ (m.receive api).1.link = m.link ∧
      (m.receive api).1.queue = (api.receive m.queue).2 ∧
      (m.receive api).1.held = answerTo rtosCmdq ∧
      (m.receive api).1.announced = note m.announced rtosCmdq := by
  unfold receive
  dsimp only
  rw [given]
  dsimp only
  refine ⟨rfl, ?_⟩
  unfold note
  -- Two of the commands do something, and the one for the lamp announces nothing.
  by_cases lamp : rtosCmdq.cmdId = 0x13
  · rw [if_pos lamp, lamp, if_neg (by decide)]
    exact ⟨rfl, rfl, rfl, rfl⟩
  · rw [if_neg lamp]
    by_cases announces : rtosCmdq.cmdId = 0x20
    · rw [if_pos announces, if_pos announces]
      exact ⟨rfl, rfl, rfl, rfl⟩
    · rw [if_neg announces, if_neg announces]
      exact ⟨rfl, rfl, rfl, rfl⟩

/-- Sending moves the link, and gives the answer up or away. -/
theorem send_frame (m : CommandMailbox W Q) (cmdq : Cmdqu) (locked : Bool) :
    ∃ link place, m.send port cmdq locked =
      ({ m with link := link, held := none }, { settled := [(cmdq, place)] }) := by
  unfold send
  dsimp only
  -- Without the lock, and without a free slot, the answer is given up.
  split
  · exact ⟨m.link, none, rfl⟩
  · split
    · exact ⟨_, none, rfl⟩
    · exact ⟨_, _, rfl⟩

/-- Receiving does not visit the mailbox. -/
theorem receive_visited (idle : m.held = none) (locked : Bool) :
    Visited m (.task locked) [] (m.receive api) := by
  -- With or without a command, the link is not used.
  cases given : (api.receive m.queue).1 with
  | none =>
    rw [receive_none api given]
    refine ⟨(List.append_nil _).symm, rfl, rfl, ?_, ?_⟩
    · exact List.append_nil _
    · intro _ member
      cases member
  | some rtosCmdq =>
    obtain ⟨traffic, link, -, held, -⟩ := receive_some api given
    refine ⟨?_, ?_, ?_, ?_, ?_⟩
    · rw [link]
      exact (List.append_nil _).symm
    · rw [traffic]
      rfl
    · rw [traffic]
      rfl
    · rw [traffic, held, idle]
      cases answered : answerTo rtosCmdq <;> simp [answered]
    · intro _ member
      rw [traffic] at member
      cases member

/-- An answer visits the mailbox once, unless the lock is refused. -/
theorem send_visited {cmdq : Cmdqu} (held : m.held = some cmdq) (locked : Bool) :
    ∃ visits, Visited m (.task locked) visits (m.send port cmdq locked) := by
  -- Without the lock the mailbox is not looked at.
  cases locked with
  | false =>
    refine ⟨[], (List.append_nil _).symm, rfl, rfl, ?_, ?_⟩
    · rw [held]
      rfl
    · intro _ _
      exact Or.inl rfl
  | true =>
    obtain ⟨busy, searched⟩ := m.link.freeSlot_searched port (List.finRange mailboxMaxNum)
    obtain ⟨commands, fills⟩ := looks_accesses busy
    unfold send
    simp only [Bool.not_true, Bool.false_eq_true, if_false]
    unfold MailboxLink.Searched at searched
    cases free : (m.link.freeSlot port (List.finRange mailboxMaxNum)).1 with
    | none =>
      rw [free] at searched
      obtain ⟨places, log⟩ := searched
      refine ⟨[.giveUp busy places], ?_, ?_, ?_, ?_, ?_⟩
      · rw [List.flatMap_singleton]
        exact log
      · rw [List.flatMap_singleton]
        exact commands
      · rw [List.flatMap_singleton]
        exact fills
      · rw [held]
        rfl
      · intro _ _
        exact Or.inr ⟨busy, places, rfl⟩
    | some place =>
      rw [free] at searched
      obtain ⟨places, log⟩ := searched
      obtain ⟨enabled, filled⟩ := MailboxLink.fillSlot_log port
        (m.link.freeSlot port (List.finRange mailboxMaxNum)).2 place cmdq
      refine ⟨[.answer busy place cmdq enabled places], ?_, ?_, ?_, ?_, ?_⟩
      · rw [List.flatMap_singleton]
        refine filled.trans ?_
        rw [log, List.append_assoc]
        rfl
      · rw [List.flatMap_singleton]
        unfold MailboxVisit.accesses
        rw [List.filterMap_append, List.filterMap_append, commands]
        rfl
      · rw [List.flatMap_singleton]
        unfold MailboxVisit.accesses
        rw [List.filter_append, List.filter_append, fills]
        rfl
      · rw [held]
        rfl
      · intro _ member
        cases List.mem_singleton.mp member

/-- Every event visits the mailbox in an orderly way. -/
theorem step_visited (m : CommandMailbox W Q) (event : Event) :
    ∃ visits, Visited m event visits (m.step port api event) := by
  cases event with
  | interrupt => exact prvQueueISR_visited port api m
  | task locked =>
    unfold step
    -- The task sends what it holds, and receives if it holds nothing.
    cases held : m.held with
    | none => exact ⟨[], receive_visited api held locked⟩
    | some cmdq => exact send_visited port held locked

/-- The task offers nothing to the queue. -/
theorem task_offered (m : CommandMailbox W Q) (locked : Bool) :
    (m.step port api (.task locked)).2.offered = [] := by
  unfold step
  -- Neither receiving nor sending offers anything.
  cases held : m.held with
  | none =>
    dsimp only
    cases given : (api.receive m.queue).1 with
    | none => rw [receive_none api given]
    | some rtosCmdq => rw [(receive_some api given).1]
  | some cmdq =>
    obtain ⟨_, _, sent⟩ := send_frame port m cmdq locked
    dsimp only
    rw [sent]

section Queue

variable {api} {contents : Q → List Cmdqu} (lawful : api.Lawful contents 30)

include lawful

/-- A slot's command is offered to the queue. -/
theorem isrSlot_offered (m : CommandMailbox W Q) (place : Fin mailboxMaxNum) :
    Offered 30 (m.isrSlot port api place).2.offered (contents m.queue)
      (contents (m.isrSlot port api place).1.queue) := by
  unfold isrSlot
  dsimp only
  -- A command that is not finished is not offered.
  split
  · exact lawful.offered_send m.queue _
  · exact Offered.nil

/-- The loop offers its commands to the queue, one after the other. -/
theorem isrLoop_offered (setVal : BitVec 8) (m : CommandMailbox W Q)
    (places : List (Fin mailboxMaxNum)) :
    Offered 30 (isrLoop port api setVal places m).2.offered (contents m.queue)
      (contents (isrLoop port api setVal places m).1.queue) := by
  -- The induction is on the slots that are left to look at.
  induction places generalizing m with
  | nil => exact Offered.nil
  | cons place places ih =>
    unfold isrLoop
    split
    · exact (isrSlot_offered port lawful m place).append (ih _) (lawful.bounded _)
    · exact ih m

/-- So does the interrupt. -/
theorem prvQueueISR_offered (m : CommandMailbox W Q) :
    Offered 30 (m.prvQueueISR port api).2.offered (contents m.queue)
      (contents (m.prvQueueISR port api).1.queue) :=
  isrLoop_offered port lawful _ { m with link := (m.link.readInt port receiveCpu).2 } _

/-- The task takes the oldest command out of the queue, if it holds no answer. -/
theorem receive_moved (m : CommandMailbox W Q) :
    contents m.queue = (m.receive api).2.received ++ contents (m.receive api).1.queue := by
  cases given : (api.receive m.queue).1 with
  | none =>
    obtain ⟨before, after⟩ := lawful.empty m.queue given
    rw [receive_none api given]
    show contents m.queue = [] ++ contents (api.receive m.queue).2
    rw [before, after]
    rfl
  | some rtosCmdq =>
    obtain ⟨traffic, -, queue, -, -⟩ := receive_some api given
    rw [lawful.given m.queue rtosCmdq given, traffic, queue]
    rfl

/-- What the queue held and took is what the task received and what the queue holds. -/
theorem step_moved (m : CommandMailbox W Q) (event : Event) :
    contents m.queue ++ takenOf (m.step port api event).2.offered =
      (m.step port api event).2.received ++ contents (m.step port api event).1.queue := by
  cases event with
  | interrupt =>
    obtain ⟨_, _, _, _, _, fetched⟩ := prvQueueISR_fetched port api m
    show _ = (m.prvQueueISR port api).2.received ++ contents (m.prvQueueISR port api).1.queue
    rw [fetched.received, (prvQueueISR_offered port lawful m).appended]
    rfl
  | task locked =>
    rw [task_offered]
    unfold step
    refine (List.append_nil _).trans ?_
    cases held : m.held with
    | none => exact receive_moved lawful m
    | some cmdq =>
      -- Sending does not touch the queue.
      obtain ⟨_, _, sent⟩ := send_frame port m cmdq locked
      dsimp only
      rw [sent]
      rfl

/-- A command is refused only by a queue that is full. -/
theorem step_full (m : CommandMailbox W Q) (event : Event) (cmdq : Cmdqu)
    (refused : (cmdq, false) ∈ (m.step port api event).2.offered) :
    (contents (m.step port api event).1.queue).length = 30 := by
  -- Only the interrupt offers commands.
  cases event with
  | interrupt => exact (prvQueueISR_offered port lawful m).full cmdq refused
  | task locked =>
    rw [task_offered] at refused
    cases refused

end Queue

/-- Only a command that the task receives changes what it knows. -/
theorem step_announced (m : CommandMailbox W Q) (event : Event) :
    (m.step port api event).1.announced =
      (m.step port api event).2.received.foldl note m.announced := by
  cases event with
  | interrupt =>
    obtain ⟨_, _, _, _, _, fetched⟩ := prvQueueISR_fetched port api m
    obtain ⟨_, _, same⟩ := fetched.frame
    show (m.prvQueueISR port api).1.announced = (m.prvQueueISR port api).2.received.foldl _ _
    rw [fetched.received, same]
    rfl
  | task locked =>
    unfold step
    -- The task either sends, or notes what it receives.
    cases held : m.held with
    | some cmdq =>
      obtain ⟨_, _, sent⟩ := send_frame port m cmdq locked
      dsimp only
      rw [sent]
      rfl
    | none =>
      dsimp only
      cases given : (api.receive m.queue).1 with
      | none =>
        rw [receive_none api given]
        rfl
      | some rtosCmdq =>
        obtain ⟨traffic, -, -, -, noted⟩ := receive_some api given
        rw [traffic, noted]
        rfl

end CommandMailbox

end AmpFc.Firmware
