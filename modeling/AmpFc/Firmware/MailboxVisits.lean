import AmpFc.Firmware.CommandMailbox

/-! What the mailbox sees of this processor: visits of three kinds, each in a fixed order. -/

namespace AmpFc.Firmware

/-- A slot that the interrupt took out, with what its accesses found. -/
structure SlotFetch where
  place : Fin mailboxMaxNum
  enabled : BitVec 8
  found : MailboxSlot

namespace SlotFetch

/-- The interrupt of the slot goes before its bytes are read, and the bytes go after. -/
def accesses (fetch : SlotFetch) : List MailboxAccess :=
  [.clearInt receiveCpu (slotBit fetch.place), .readEnable receiveCpu fetch.enabled,
    .writeEnable receiveCpu (fetch.enabled &&& ~~~slotBit fetch.place),
    .readSlot fetch.place fetch.found, .wipeSlot fetch.place]

/-- The command in the slot, if Linux had finished it. -/
def command (fetch : SlotFetch) : Option Cmdqu :=
  if (Cmdqu.ofSlot fetch.found).linuxValid = 1 then some (.ofSlot fetch.found) else none

end SlotFetch

/-- A look at a slot that somebody uses: one of its validity bytes is not zero. -/
inductive BusyLook where
  | linux (place : Fin mailboxMaxNum) (valid : UInt8) (used : valid ≠ 0)
  | rtos (place : Fin mailboxMaxNum) (valid : UInt8) (used : valid ≠ 0)

namespace BusyLook

/-- The slot that was looked at. -/
def place : BusyLook → Fin mailboxMaxNum
  | .linux place _ _ => place
  | .rtos place _ _ => place

/-- The second byte is read if the first is zero. -/
def accesses : BusyLook → List MailboxAccess
  | .linux place valid _ => [.readLinuxValid place valid]
  | .rtos place valid _ => [.readLinuxValid place 0, .readRtosValid place valid]

end BusyLook

/-- What one event does with the mailbox. -/
inductive MailboxVisit where
  /-- The interrupts are read once, and their slots are taken out in order. -/
  | interrupt (setVal : BitVec 8) (fetches : List SlotFetch)
    (places : fetches.map SlotFetch.place = (List.finRange mailboxMaxNum).filter
      fun place : Fin mailboxMaxNum => setVal.getLsbD place.val)
  /-- An answer goes into the first slot that is found free. -/
  | answer (busy : List BusyLook) (place : Fin mailboxMaxNum) (cmdq : Cmdqu) (enabled : BitVec 8)
    (places : busy.map BusyLook.place ++ [place] <+: List.finRange mailboxMaxNum)
  /-- All slots are used. -/
  | giveUp (busy : List BusyLook) (places : busy.map BusyLook.place = List.finRange mailboxMaxNum)

namespace MailboxVisit

/-- A filled slot: the bytes are there before Linux is told. -/
def fillAccesses (place : Fin mailboxMaxNum) (cmdq : Cmdqu) (enabled : BitVec 8) :
    List MailboxAccess :=
  [.writeLow place cmdq.toSlot.low, .writeParam place cmdq.paramPtr,
    .clearInt sendToCpu1 (slotBit place), .readEnable sendToCpu1 enabled,
    .writeEnable sendToCpu1 (enabled ||| slotBit place), .writeSet (slotBit place)]

/-- The accesses of a visit, in their order. -/
def accesses : MailboxVisit → List MailboxAccess
  | .interrupt setVal fetches _ =>
    .readInt receiveCpu setVal :: fetches.flatMap SlotFetch.accesses
  | .answer busy place cmdq enabled _ =>
    busy.flatMap BusyLook.accesses ++ [.readLinuxValid place 0, .readRtosValid place 0] ++
      fillAccesses place cmdq enabled
  | .giveUp busy _ => busy.flatMap BusyLook.accesses

end MailboxVisit

/-- The access changes something that the other processor sees. -/
def MailboxAccess.changes : MailboxAccess → Bool
  | .readInt _ _ => false
  | .readEnable _ _ => false
  | .readSlot _ _ => false
  | .readLinuxValid _ _ => false
  | .readRtosValid _ _ => false
  | _ => true

/-- What stands right before a change: it belongs to taking out a slot whose interrupt the visit has
found set, or to filling a slot whose two validity bytes were both just read as zero. -/
inductive Justified (before : List MailboxAccess) (access : MailboxAccess) : Prop
  | fetch (earlier : List MailboxAccess) (setVal : BitVec 8) (done : List SlotFetch)
      (fetch : SlotFetch) (front back : List MailboxAccess)
      (preceded : before =
        earlier ++ (.readInt receiveCpu setVal :: (done.flatMap SlotFetch.accesses ++ front)))
      (meant : setVal.getLsbD fetch.place.val = true)
      (part : fetch.accesses = front ++ access :: back)
  | fill (earlier : List MailboxAccess) (place : Fin mailboxMaxNum) (cmdq : Cmdqu)
      (enabled : BitVec 8) (front back : List MailboxAccess)
      (preceded : before =
        earlier ++ ([.readLinuxValid place 0, .readRtosValid place 0] ++ front))
      (part : MailboxVisit.fillAccesses place cmdq enabled = front ++ access :: back)

/-- Looking at used slots changes nothing. -/
theorem looks_change_nothing {busy : List BusyLook} {access : MailboxAccess}
    (member : access ∈ busy.flatMap BusyLook.accesses) : access.changes = false := by
  obtain ⟨look, _, among⟩ := List.mem_flatMap.mp member
  -- Either kind of look reads validity bytes only.
  cases look with
  | linux place valid used =>
    rw [List.mem_singleton.mp among]
    rfl
  | rtos place valid used =>
    rcases List.mem_cons.mp among with rfl | second
    · rfl
    · rw [List.mem_singleton.mp second]
      rfl

/-- Every change that a visit makes is justified by the accesses of this visit before it. -/
theorem MailboxVisit.justified {visit : MailboxVisit} {front back : List MailboxAccess}
    {access : MailboxAccess} (part : visit.accesses = front ++ access :: back)
    (changes : access.changes = true) (earlier : List MailboxAccess) :
    Justified (earlier ++ front) access := by
  cases visit with
  | interrupt setVal fetches places =>
    cases front with
    | nil =>
      -- The visit starts with a read.
      rw [← (List.cons.inj part).1] at changes
      cases changes
    | cons head front =>
      obtain ⟨rfl, taken⟩ := List.cons.inj part
      obtain ⟨done, fetch, rest, near, far, split, early, here⟩ := split_flatMap taken
      have listed : fetch.place ∈ fetches.map SlotFetch.place := by
        rw [split]
        exact List.mem_map_of_mem (List.mem_append_right _ List.mem_cons_self)
      rw [places] at listed
      refine .fetch earlier setVal done fetch near far ?_ (List.mem_filter.mp listed).2 here
      rw [early]
  | answer busy place cmdq enabled places =>
    rcases List.append_eq_append_iff.mp part with ⟨near, past, here⟩ | ⟨rest, within, here⟩
    · refine .fill (earlier ++ busy.flatMap BusyLook.accesses) place cmdq enabled near back ?_ here
      rw [past, List.append_assoc, List.append_assoc]
    · cases rest with
      | nil =>
        rw [List.append_nil] at within
        refine .fill (earlier ++ busy.flatMap BusyLook.accesses) place cmdq enabled [] back ?_
          here.symm
        rw [← within, List.append_assoc, List.append_nil]
      | cons first rest =>
        -- What comes before the slot is filled only looks.
        obtain ⟨rfl, -⟩ := List.cons.inj here
        have among : access ∈ busy.flatMap BusyLook.accesses ++
            [.readLinuxValid place 0, .readRtosValid place 0] := by
          rw [within]
          exact List.mem_append_right _ List.mem_cons_self
        rcases List.mem_append.mp among with looked | free
        · rw [looks_change_nothing looked] at changes
          cases changes
        · rcases List.mem_cons.mp free with rfl | second
          · cases changes
          · rw [List.mem_singleton.mp second] at changes
            cases changes
  | giveUp busy places =>
    have among : access ∈ busy.flatMap BusyLook.accesses := by
      rw [show busy.flatMap BusyLook.accesses = front ++ access :: back from part]
      exact List.mem_append_right _ List.mem_cons_self
    rw [looks_change_nothing among] at changes
    cases changes

/-- Where all accesses belong to visits, every change is justified. -/
theorem justified_of_visits {visits : List MailboxVisit} {before after : List MailboxAccess}
    {access : MailboxAccess}
    (log : visits.flatMap MailboxVisit.accesses = before ++ access :: after)
    (changes : access.changes = true) : Justified before access := by
  obtain ⟨first, visit, rest, front, back, -, early, part⟩ := split_flatMap log
  rw [early]
  exact visit.justified part changes _

namespace MailboxLink

variable {W : Type} (port : MailboxPort W)

/-- Taking a slot out is a fetch of it. -/
theorem fetchSlot_log (link : MailboxLink W) (place : Fin mailboxMaxNum) :
    ∃ fetch : SlotFetch, fetch.place = place ∧ (link.fetchSlot port place).1 = fetch.found ∧
      (link.fetchSlot port place).2.log = link.log ++ fetch.accesses := by
  -- The two reads of the body say what was found.
  refine ⟨⟨place, ((link.clearInt port receiveCpu (slotBit place)).readEnable port receiveCpu).1,
    (link.fetchSlot port place).1⟩, rfl, rfl, ?_⟩
  simp [fetchSlot, SlotFetch.accesses, clearInt, readEnable, writeEnable, readSlot, wipeSlot]

/-- Filling a slot leaves its accesses in the log. -/
theorem fillSlot_log (link : MailboxLink W) (place : Fin mailboxMaxNum) (cmdq : Cmdqu) :
    ∃ enabled, (link.fillSlot port place cmdq).log =
      link.log ++ MailboxVisit.fillAccesses place cmdq enabled := by
  -- What was found enabled is what the middle of the six accesses read.
  refine ⟨(((link.writeLow port place cmdq.toSlot.low).writeParam port place
    cmdq.paramPtr).clearInt port sendToCpu1 (slotBit place) |>.readEnable port sendToCpu1).1, ?_⟩
  simp [fillSlot, MailboxVisit.fillAccesses, writeLow, writeParam, clearInt, readEnable,
    writeEnable, writeSet]

/-- A search passed these used slots, and then ended with or without a free one. -/
def Searched (link : MailboxLink W) (places : List (Fin mailboxMaxNum)) (busy : List BusyLook)
    (ended : Option (Fin mailboxMaxNum) × MailboxLink W) : Prop :=
  match ended.1 with
  | none => busy.map BusyLook.place = places ∧
      ended.2.log = link.log ++ busy.flatMap BusyLook.accesses
  | some place => busy.map BusyLook.place ++ [place] <+: places ∧
      ended.2.log = link.log ++ (busy.flatMap BusyLook.accesses ++
        [.readLinuxValid place 0, .readRtosValid place 0])

/-- A used slot is passed, and the search goes on behind it. -/
theorem Searched.pass {link later : MailboxLink W} {places : List (Fin mailboxMaxNum)}
    {busy : List BusyLook} {ended : Option (Fin mailboxMaxNum) × MailboxLink W}
    (rest : Searched later places busy ended) (look : BusyLook)
    (logged : later.log = link.log ++ look.accesses) :
    Searched link (look.place :: places) (look :: busy) ended := by
  obtain ⟨found, after⟩ := ended
  -- Whether or not a slot is found behind it, the look comes first in the log.
  cases found with
  | none =>
    obtain ⟨all, log⟩ := rest
    refine ⟨congrArg (look.place :: ·) all, ?_⟩
    rw [log, logged, List.append_assoc]
    rfl
  | some free =>
    obtain ⟨before, log⟩ := rest
    refine ⟨(List.prefix_cons_inj look.place).mpr before, ?_⟩
    rw [log, logged, List.append_assoc, List.flatMap_cons, List.append_assoc]

/-- The search passes used slots, up to the one that it finds. -/
theorem freeSlot_searched (link : MailboxLink W) (places : List (Fin mailboxMaxNum)) :
    ∃ busy, Searched link places busy (link.freeSlot port places) := by
  -- The induction is on the slots, each of which is used or ends the search.
  induction places generalizing link with
  | nil => exact ⟨[], rfl, (List.append_nil _).symm⟩
  | cons place places ih =>
    let linux := link.readLinuxValid port place
    let rtos := linux.2.readRtosValid port place
    by_cases unposted : linux.1 = 0
    · -- The second byte was read after a zero.
      have both : rtos.2.log =
          link.log ++ [.readLinuxValid place 0, .readRtosValid place rtos.1] := by
        show link.log ++ [.readLinuxValid place linux.1] ++ [.readRtosValid place rtos.1] = _
        rw [unposted, List.append_assoc]
        rfl
      by_cases unanswered : rtos.1 = 0
      · have ends : link.freeSlot port (place :: places) = (some place, rtos.2) := by
          simp only [freeSlot]
          rw [if_pos unposted, if_pos unanswered]
        rw [ends]
        refine ⟨[], ⟨places, rfl⟩, ?_⟩
        show rtos.2.log = _
        rw [both, unanswered]
        rfl
      · have goes : link.freeSlot port (place :: places) = rtos.2.freeSlot port places := by
          simp only [freeSlot]
          rw [if_pos unposted, if_neg unanswered]
        obtain ⟨busy, rest⟩ := ih rtos.2
        rw [goes]
        exact ⟨_, rest.pass (.rtos place rtos.1 unanswered) both⟩
    · have goes : link.freeSlot port (place :: places) = linux.2.freeSlot port places := by
        simp only [freeSlot]
        rw [if_neg unposted]
      obtain ⟨busy, rest⟩ := ih linux.2
      rw [goes]
      exact ⟨_, rest.pass (.linux place linux.1 unposted) rfl⟩

end MailboxLink

/-- The command that an access took out of a slot. -/
def MailboxAccess.command : MailboxAccess → Option Cmdqu
  | .readSlot _ found =>
    if (Cmdqu.ofSlot found).linuxValid = 1 then some (.ofSlot found) else none
  | _ => none

/-- The access puts something into a slot. -/
def MailboxAccess.fills : MailboxAccess → Bool
  | .writeLow _ _ => true
  | .writeParam _ _ => true
  | _ => false

/-- The two words of an answer that found a slot. -/
def settledWrites : Cmdqu × Option (Fin mailboxMaxNum) → List MailboxAccess
  | (cmdq, some place) => [.writeLow place cmdq.toSlot.low, .writeParam place cmdq.paramPtr]
  | (_, none) => []

/-- A fetch reads one slot. -/
theorem SlotFetch.accesses_command (fetch : SlotFetch) :
    fetch.accesses.filterMap MailboxAccess.command = fetch.command.toList := by
  by_cases finished : (Cmdqu.ofSlot fetch.found).linuxValid = 1 <;>
    simp [SlotFetch.accesses, SlotFetch.command, List.filterMap_cons, MailboxAccess.command,
      finished]

/-- The accesses of fetches have the commands that were fetched, and fill no slot. -/
theorem fetches_accesses (fetches : List SlotFetch) :
    (fetches.flatMap SlotFetch.accesses).filterMap MailboxAccess.command =
      fetches.filterMap SlotFetch.command ∧
    (fetches.flatMap SlotFetch.accesses).filter MailboxAccess.fills = [] := by
  -- The induction is on the fetches, of which each reads one slot.
  induction fetches with
  | nil => exact ⟨rfl, rfl⟩
  | cons fetch fetches ih =>
    obtain ⟨commands, fills⟩ := ih
    rw [List.flatMap_cons, List.filterMap_append, commands, List.filter_append, fills,
      fetch.accesses_command]
    refine ⟨?_, rfl⟩
    cases finished : fetch.command <;> simp [finished]

/-- Looking at used slots takes nothing out and puts nothing in. -/
theorem looks_accesses (busy : List BusyLook) :
    (busy.flatMap BusyLook.accesses).filterMap MailboxAccess.command = [] ∧
    (busy.flatMap BusyLook.accesses).filter MailboxAccess.fills = [] := by
  induction busy with
  | nil => exact ⟨rfl, rfl⟩
  | cons look busy ih =>
    obtain ⟨commands, fills⟩ := ih
    rw [List.flatMap_cons, List.filterMap_append, commands, List.filter_append, fills]
    -- Either kind of look reads validity bytes only.
    cases look with
    | linux place valid used => exact ⟨rfl, rfl⟩
    | rtos place valid used => exact ⟨rfl, rfl⟩

namespace CommandMailbox

variable {W Q : Type} (port : MailboxPort W) (api : QueueApi Q Cmdqu)

/-- What taking slots out does: the queue is offered their commands, and nothing else happens. -/
structure Fetched (m : CommandMailbox W Q) (fetches : List SlotFetch)
    (result : CommandMailbox W Q × CmdquTraffic) : Prop where
  log : result.1.link.log = m.link.log ++ fetches.flatMap SlotFetch.accesses
  offered : result.2.offered.map Prod.fst = fetches.filterMap SlotFetch.command
  received : result.2.received = []
  settled : result.2.settled = []
  frame : ∃ link queue, result.1 = { m with link := link, queue := queue }

namespace Fetched

variable {m : CommandMailbox W Q}

/-- No slot is taken out. -/
theorem nil : Fetched m [] (m, {}) := ⟨(List.append_nil _).symm, rfl, rfl, rfl, _, _, rfl⟩

/-- Slots are taken out one after the other. -/
theorem append {fetches fetches' : List SlotFetch}
    {first second : CommandMailbox W Q × CmdquTraffic} (early : Fetched m fetches first)
    (late : Fetched first.1 fetches' second) :
    Fetched m (fetches ++ fetches') (second.1, first.2.append second.2) := by
  refine ⟨?_, ?_, ?_, ?_, ?_⟩
  · rw [late.log, early.log, List.append_assoc, List.flatMap_append]
  · show (first.2.offered ++ second.2.offered).map Prod.fst = _
    rw [List.map_append, early.offered, late.offered, List.filterMap_append]
  · show first.2.received ++ second.2.received = []
    rw [early.received, late.received]
    rfl
  · show first.2.settled ++ second.2.settled = []
    rw [early.settled, late.settled]
    rfl
  -- Only the link and the queue have moved, both times.
  · obtain ⟨_, _, same⟩ := early.frame
    obtain ⟨link, queue, same'⟩ := late.frame
    refine ⟨link, queue, ?_⟩
    rw [same', same]

end Fetched

/-- The body of the interrupt's loop takes out its slot. -/
theorem isrSlot_fetched (m : CommandMailbox W Q) (place : Fin mailboxMaxNum) :
    ∃ fetch : SlotFetch, fetch.place = place ∧ Fetched m [fetch] (m.isrSlot port api place) := by
  obtain ⟨fetch, here, found, log⟩ := m.link.fetchSlot_log port place
  refine ⟨fetch, here, ?_⟩
  have body : m.isrSlot port api place =
      if (Cmdqu.ofSlot fetch.found).linuxValid = 1 then
        ({ m with
            link := (m.link.fetchSlot port place).2
            queue := (api.send m.queue (.ofSlot fetch.found)).2 },
          { offered := [(.ofSlot fetch.found, (api.send m.queue (.ofSlot fetch.found)).1)] })
      else ({ m with link := (m.link.fetchSlot port place).2 }, {}) := by
    rw [← found]
    rfl
  have command : [fetch].filterMap SlotFetch.command = fetch.command.toList := by
    cases held : fetch.command <;> simp [held]
  have logged : (m.link.fetchSlot port place).2.log =
      m.link.log ++ [fetch].flatMap SlotFetch.accesses := by
    rw [log, List.flatMap_singleton]
  rw [body]
  -- Only a finished command is offered to the queue.
  by_cases finished : (Cmdqu.ofSlot fetch.found).linuxValid = 1
  · rw [if_pos finished]
    refine ⟨logged, ?_, rfl, rfl, _, _, rfl⟩
    rw [command, SlotFetch.command, if_pos finished]
    rfl
  · rw [if_neg finished]
    refine ⟨logged, ?_, rfl, rfl, _, m.queue, rfl⟩
    rw [command, SlotFetch.command, if_neg finished]
    rfl

/-- The loop takes out the slots whose interrupts were set, in their order. -/
theorem isrLoop_fetched (setVal : BitVec 8) (m : CommandMailbox W Q)
    (places : List (Fin mailboxMaxNum)) :
    ∃ fetches : List SlotFetch,
      fetches.map SlotFetch.place =
        places.filter (fun place : Fin mailboxMaxNum => setVal.getLsbD place.val) ∧
      Fetched m fetches (isrLoop port api setVal places m) := by
  -- The induction is on the slots that are left to look at.
  induction places generalizing m with
  | nil => exact ⟨[], rfl, Fetched.nil⟩
  | cons place places ih =>
    unfold isrLoop
    rw [List.filter_cons]
    by_cases set : setVal.getLsbD place.val = true
    · rw [if_pos set, if_pos set]
      obtain ⟨fetch, here, first⟩ := isrSlot_fetched port api m place
      obtain ⟨fetches, others, rest⟩ := ih (m.isrSlot port api place).1
      refine ⟨fetch :: fetches, ?_, first.append rest⟩
      rw [List.map_cons, here, others]
    · rw [if_neg set, if_neg set]
      exact ih m

end CommandMailbox

end AmpFc.Firmware
