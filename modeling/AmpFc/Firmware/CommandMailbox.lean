import AmpFc.Lib.History
import AmpFc.Lib.QueueApi
import AmpFc.Firmware.Poll

/-! The command mailbox as this processor works it: an interrupt, a queue, and a task.

The mailbox and the other processor are a world that answers single accesses, so that anything may
happen between two of them; the queue is the operating system's.
-/

namespace AmpFc.Firmware

/-- `cmdqu_t`. -/
@[ext]
structure Cmdqu where
  ipId : UInt8
  cmdId : BitVec 7
  block : Bool
  linuxValid : UInt8
  rtosValid : UInt8
  paramPtr : UInt32
  deriving DecidableEq

/-- The eight bytes of a slot, which are written four at a time. -/
structure MailboxSlot where
  low : BitVec 32
  high : UInt32
  deriving DecidableEq

namespace Cmdqu

/-- The bytes of a command, as the task puts them together. -/
def toSlot (cmdq : Cmdqu) : MailboxSlot where
  low :=
    (cmdq.ipId.toBitVec.setWidth 32 <<< 0) ||| (cmdq.cmdId.setWidth 32 <<< 8) |||
      ((BitVec.ofBool cmdq.block).setWidth 32 <<< 15) |||
      (cmdq.linuxValid.toBitVec.setWidth 32 <<< 16) ||| (cmdq.rtosValid.toBitVec.setWidth 32 <<< 24)
  high := cmdq.paramPtr

/-- The command in eight bytes. -/
def ofSlot (slot : MailboxSlot) : Cmdqu where
  ipId := .ofBitVec (slot.low.extractLsb' 0 8)
  cmdId := slot.low.extractLsb' 8 7
  block := slot.low.getLsbD 15
  linuxValid := .ofBitVec (slot.low.extractLsb' 16 8)
  rtosValid := .ofBitVec (slot.low.extractLsb' 24 8)
  paramPtr := slot.high

/-- Where the bits of the first four bytes come from. -/
theorem getLsbD_low (cmdq : Cmdqu) (place : Nat) : cmdq.toSlot.low.getLsbD place =
    (decide (place < 32) && (cmdq.ipId.toBitVec.getLsbD place ||
      (decide (8 ≤ place) && cmdq.cmdId.getLsbD (place - 8)) ||
      (decide (15 ≤ place) && (BitVec.ofBool cmdq.block).getLsbD (place - 15)) ||
      (decide (16 ≤ place) && cmdq.linuxValid.toBitVec.getLsbD (place - 16)) ||
      (decide (24 ≤ place) && cmdq.rtosValid.toBitVec.getLsbD (place - 24)))) := by
  unfold toSlot
  simp only [BitVec.getLsbD_or, BitVec.getLsbD_shiftLeft, BitVec.getLsbD_setWidth]
  grind

/-- A command survives its slot. -/
@[simp] theorem ofSlot_toSlot (cmdq : Cmdqu) : ofSlot cmdq.toSlot = cmdq := by
  -- Beyond its own width no field sets a bit.
  have beyond : ∀ {width : Nat} (field : BitVec width) (place : Nat), width ≤ place →
      field.getLsbD place = false := fun field place => BitVec.getLsbD_of_ge field place
  have field : ∀ {width : Nat} (first : Nat) (field : BitVec width),
      (∀ place < width, cmdq.toSlot.low.getLsbD (first + place) = field.getLsbD place) →
        cmdq.toSlot.low.extractLsb' first width = field := by
    intro width first field same
    apply BitVec.eq_of_getLsbD_eq
    intro place inside
    rw [BitVec.getLsbD_extractLsb', same place inside]
    simp [inside]
  have ipId := beyond cmdq.ipId.toBitVec
  have cmdId := beyond cmdq.cmdId
  have block := beyond (BitVec.ofBool cmdq.block)
  have linuxValid := beyond cmdq.linuxValid.toBitVec
  have rtosValid := beyond cmdq.rtosValid.toBitVec
  unfold ofSlot
  apply Cmdqu.ext
  case paramPtr => rfl
  case ipId =>
    refine congrArg UInt8.ofBitVec (field 0 _ ?_)
    intro place inside
    rw [getLsbD_low]
    grind
  case cmdId =>
    refine field 8 _ ?_
    intro place inside
    rw [getLsbD_low]
    grind
  case block =>
    rw [getLsbD_low]
    have one : (BitVec.ofBool cmdq.block).getLsbD 0 = cmdq.block := by cases cmdq.block <;> rfl
    grind
  case linuxValid =>
    refine congrArg UInt8.ofBitVec (field 16 _ ?_)
    intro place inside
    rw [getLsbD_low]
    grind
  case rtosValid =>
    refine congrArg UInt8.ofBitVec (field 24 _ ?_)
    intro place inside
    rw [getLsbD_low]
    grind

end Cmdqu

/-- `MAILBOX_MAX_NUM`. -/
abbrev mailboxMaxNum : Nat := 8

/-- The processors that the mailbox can interrupt, of which the last does not exist. -/
inductive MailboxCpu where
  | ca53
  | c906b
  | c906l
  | reserved
  deriving DecidableEq, Repr

/-- `RECEIVE_CPU` of this side, which is `SEND_TO_CPU` of Linux. -/
def receiveCpu : MailboxCpu := .c906l

/-- `SEND_TO_CPU1`, where Linux is interrupted. -/
def sendToCpu1 : MailboxCpu := .c906b

/-- `1 << i`, in the width of the mailbox's registers. -/
def slotBit (place : Fin mailboxMaxNum) : BitVec 8 := 1#8 <<< place.val

/-- `mbox_reg` and `mailbox_context`: each access finds and leaves some state of the world. -/
structure MailboxPort (W : Type) where
  /-- `cpu_mbox_int_int`. -/
  readInt : W → MailboxCpu → BitVec 8 × W
  /-- `cpu_mbox_int_clr`. -/
  clearInt : W → MailboxCpu → BitVec 8 → W
  /-- `cpu_mbox_en`. -/
  readEnable : W → MailboxCpu → BitVec 8 × W
  writeEnable : W → MailboxCpu → BitVec 8 → W
  /-- `mbox_set`. -/
  writeSet : W → BitVec 8 → W
  /-- The eight bytes of a slot at once. -/
  readSlot : W → Fin mailboxMaxNum → MailboxSlot × W
  wipeSlot : W → Fin mailboxMaxNum → W
  readLinuxValid : W → Fin mailboxMaxNum → UInt8 × W
  readRtosValid : W → Fin mailboxMaxNum → UInt8 × W
  /-- The first four bytes of a slot. -/
  writeLow : W → Fin mailboxMaxNum → BitVec 32 → W
  /-- `param_ptr` of a slot. -/
  writeParam : W → Fin mailboxMaxNum → UInt32 → W

/-- One access, with what it found or wrote. -/
inductive MailboxAccess where
  | readInt (cpu : MailboxCpu) (found : BitVec 8)
  | clearInt (cpu : MailboxCpu) (bits : BitVec 8)
  | readEnable (cpu : MailboxCpu) (found : BitVec 8)
  | writeEnable (cpu : MailboxCpu) (bits : BitVec 8)
  | writeSet (bits : BitVec 8)
  | readSlot (place : Fin mailboxMaxNum) (found : MailboxSlot)
  | wipeSlot (place : Fin mailboxMaxNum)
  | readLinuxValid (place : Fin mailboxMaxNum) (found : UInt8)
  | readRtosValid (place : Fin mailboxMaxNum) (found : UInt8)
  | writeLow (place : Fin mailboxMaxNum) (word : BitVec 32)
  | writeParam (place : Fin mailboxMaxNum) (param : UInt32)
  deriving DecidableEq

/-- The world, and the accesses to it so far, the oldest first. -/
structure MailboxLink (W : Type) where
  world : W
  log : List MailboxAccess := []

namespace MailboxLink

variable {W : Type} (port : MailboxPort W) (link : MailboxLink W)

/-- Which interrupts of a processor are set. -/
def readInt (cpu : MailboxCpu) : BitVec 8 × MailboxLink W :=
  let answer := port.readInt link.world cpu
  (answer.1, ⟨answer.2, link.log ++ [.readInt cpu answer.1]⟩)

/-- The interrupts of these slots are cleared for a processor. -/
def clearInt (cpu : MailboxCpu) (bits : BitVec 8) : MailboxLink W :=
  ⟨port.clearInt link.world cpu bits, link.log ++ [.clearInt cpu bits]⟩

/-- Which slots may interrupt a processor. -/
def readEnable (cpu : MailboxCpu) : BitVec 8 × MailboxLink W :=
  let answer := port.readEnable link.world cpu
  (answer.1, ⟨answer.2, link.log ++ [.readEnable cpu answer.1]⟩)

/-- From now on these slots, and no others, may interrupt a processor. -/
def writeEnable (cpu : MailboxCpu) (bits : BitVec 8) : MailboxLink W :=
  ⟨port.writeEnable link.world cpu bits, link.log ++ [.writeEnable cpu bits]⟩

/-- The slots raise their interrupts. -/
def writeSet (bits : BitVec 8) : MailboxLink W :=
  ⟨port.writeSet link.world bits, link.log ++ [.writeSet bits]⟩

/-- A slot is copied. -/
def readSlot (place : Fin mailboxMaxNum) : MailboxSlot × MailboxLink W :=
  let answer := port.readSlot link.world place
  (answer.1, ⟨answer.2, link.log ++ [.readSlot place answer.1]⟩)

/-- A slot is filled with zeros. -/
def wipeSlot (place : Fin mailboxMaxNum) : MailboxLink W :=
  ⟨port.wipeSlot link.world place, link.log ++ [.wipeSlot place]⟩

/-- `linux_valid` of a slot. -/
def readLinuxValid (place : Fin mailboxMaxNum) : UInt8 × MailboxLink W :=
  let answer := port.readLinuxValid link.world place
  (answer.1, ⟨answer.2, link.log ++ [.readLinuxValid place answer.1]⟩)

/-- `rtos_valid` of a slot. -/
def readRtosValid (place : Fin mailboxMaxNum) : UInt8 × MailboxLink W :=
  let answer := port.readRtosValid link.world place
  (answer.1, ⟨answer.2, link.log ++ [.readRtosValid place answer.1]⟩)

/-- The identifiers and the validity go into a slot. -/
def writeLow (place : Fin mailboxMaxNum) (word : BitVec 32) : MailboxLink W :=
  ⟨port.writeLow link.world place word, link.log ++ [.writeLow place word]⟩

/-- The parameter goes into a slot. -/
def writeParam (place : Fin mailboxMaxNum) (param : UInt32) : MailboxLink W :=
  ⟨port.writeParam link.world place param, link.log ++ [.writeParam place param]⟩

/-- The first half of the loop body in `prvQueueISR`: the slot's bytes, which are then wiped. -/
def fetchSlot (place : Fin mailboxMaxNum) : MailboxSlot × MailboxLink W :=
  let link := link.clearInt port receiveCpu (slotBit place)
  let (enabled, link) := link.readEnable port receiveCpu
  let link := link.writeEnable port receiveCpu (enabled &&& ~~~slotBit place)
  let (slot, link) := link.readSlot port place
  (slot, link.wipeSlot port place)

/-- The task looks for a slot whose validity bytes are zero, the second read after the first. -/
def freeSlot (link : MailboxLink W) :
    List (Fin mailboxMaxNum) → Option (Fin mailboxMaxNum) × MailboxLink W
  | [] => (none, link)
  | place :: places =>
    let (linuxValid, link) := link.readLinuxValid port place
    if linuxValid = 0 then
      let (rtosValid, link) := link.readRtosValid port place
      if rtosValid = 0 then (some place, link) else freeSlot link places
    else freeSlot link places

/-- A command goes into a slot, and Linux is told. -/
def fillSlot (place : Fin mailboxMaxNum) (cmdq : Cmdqu) : MailboxLink W :=
  let link := link.writeLow port place cmdq.toSlot.low
  let link := link.writeParam port place cmdq.paramPtr
  let link := link.clearInt port sendToCpu1 (slotBit place)
  let (enabled, link) := link.readEnable port sendToCpu1
  let link := link.writeEnable port sendToCpu1 (enabled ||| slotBit place)
  link.writeSet port (slotBit place)

end MailboxLink

/-- What passes by in a step, each kind in its order. -/
structure CmdquTraffic where
  /-- Offered to the queue, which took it or did not. -/
  offered : List (Cmdqu × Bool) := []
  /-- Taken out of the queue by the task. -/
  received : List Cmdqu := []
  /-- Answers, with the slot that they went into if any. -/
  settled : List (Cmdqu × Option (Fin mailboxMaxNum)) := []

/-- One traffic after the other. -/
def CmdquTraffic.append (first last : CmdquTraffic) : CmdquTraffic where
  offered := first.offered ++ last.offered
  received := first.received ++ last.received
  settled := first.settled ++ last.settled

/-- What the interrupt and the task work on; `Q` is the queue of the operating system. -/
structure CommandMailbox (W Q : Type) where
  link : MailboxLink W
  queue : Q
  /-- The answer that the task is about to send. -/
  held : Option Cmdqu := none
  ampShmPhys : UInt32 := 0
  ampShmReady : Bool := false
  led : Bool := false

/-- The answers of the task: `CMD_TEST_A`, `CMD_TEST_C`, and all that end with `DUO_LED_DONE`. -/
def answerParam (cmdId : BitVec 7) : Option UInt32 :=
  if cmdId = 0x10 then some 0x12345678
  else if cmdId = 0x12 then some 0x55AA
  else if cmdId = 0x13 then some 4
  else if cmdId = 0x20 then some 4
  else if cmdId = 49 ∨ cmdId = 51 ∨ cmdId = 52 then some 4
  else none

/-- The answer to a command, which keeps its identifiers. -/
def answerTo (cmdq : Cmdqu) : Option Cmdqu :=
  (answerParam cmdq.cmdId).map fun param =>
    { cmdq with paramPtr := param, linuxValid := 0, rtosValid := 1 }

namespace CommandMailbox

variable {W Q : Type} (port : MailboxPort W) (api : QueueApi Q Cmdqu) (m : CommandMailbox W Q)

/-- The body of the loop in `prvQueueISR`, for a slot whose interrupt was set. -/
def isrSlot (place : Fin mailboxMaxNum) : CommandMailbox W Q × CmdquTraffic :=
  let (slot, link) := m.link.fetchSlot port place
  let rtosCmdq := Cmdqu.ofSlot slot
  if rtosCmdq.linuxValid = 1 then
    let (sent, queue) := api.send m.queue rtosCmdq
    -- The source does not look at what `xQueueSendFromISR` returns.
    ({ m with link := link, queue := queue }, { offered := [(rtosCmdq, sent)] })
  else ({ m with link := link }, {})

/-- The loop of `prvQueueISR`, over the slots whose interrupts it found set. -/
def isrLoop (setVal : BitVec 8) :
    List (Fin mailboxMaxNum) → CommandMailbox W Q → CommandMailbox W Q × CmdquTraffic
  | [], m => (m, {})
  | place :: places, m =>
    if setVal.getLsbD place then
      let first := m.isrSlot port api place
      let others := isrLoop setVal places first.1
      (others.1, first.2.append others.2)
    else isrLoop setVal places m

/-- `prvQueueISR`, which reads the interrupts once. -/
def prvQueueISR : CommandMailbox W Q × CmdquTraffic :=
  let (setVal, link) := m.link.readInt port receiveCpu
  isrLoop port api setVal (List.finRange mailboxMaxNum) { m with link := link }

/-- `prvCmdQuRunTask` between `xQueueReceive` and `send_label`. -/
def receive : CommandMailbox W Q × CmdquTraffic :=
  let (received, queue) := api.receive m.queue
  match received with
  | none => ({ m with queue := queue }, {})
  | some rtosCmdq =>
    let after := { m with queue := queue, held := answerTo rtosCmdq }
    -- Two of the commands do something before they are answered.
    (if rtosCmdq.cmdId = 0x13 then { after with led := rtosCmdq.paramPtr == 2 }
      else if rtosCmdq.cmdId = 0x20 then
        { after with ampShmPhys := rtosCmdq.paramPtr, ampShmReady := true }
      else after,
      { received := [rtosCmdq] })

/-- `prvCmdQuRunTask` from `send_label` on; `locked` says whether `mailbox_lock` was granted. -/
def send (cmdq : Cmdqu) (locked : Bool) : CommandMailbox W Q × CmdquTraffic :=
  let idle := { m with held := none }
  if !locked then (idle, { settled := [(cmdq, none)] })
  else
    let (free, link) := m.link.freeSlot port (List.finRange mailboxMaxNum)
    match free with
    | none => ({ idle with link := link }, { settled := [(cmdq, none)] })
    | some place =>
      ({ idle with link := link.fillSlot port place cmdq }, { settled := [(cmdq, some place)] })

/-- What runs on this processor: the lock keeps the interrupt out of `send`. -/
inductive Event where
  | interrupt
  | task (locked : Bool)

/-- One event. -/
def step : Event → CommandMailbox W Q × CmdquTraffic
  | .interrupt => m.prvQueueISR port api
  | .task locked =>
    match m.held with
    | none => m.receive api
    | some cmdq => m.send port cmdq locked

end CommandMailbox

end AmpFc.Firmware
