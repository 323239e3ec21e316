import AmpFc.Firmware.Poll
import AmpFc.Linux.MailboxTransport

/-! Linux and the bring-up firmware together: what the emergency latch makes of the commands. -/

namespace AmpFc

open Firmware MailboxTransport

variable {F : Type} [FloatArith F]

/-- What can happen between Linux, the shared region, and the firmware. -/
inductive LatchEvent (F : Type) where
  /-- Linux sends an emergency command. -/
  | publish (reason : UInt32) (outcome : SendOutcome)
  /-- The Linux process restarts over the region it used before. -/
  | restart
  /-- Linux opens a region that is not marked, in a new process or in the old one. -/
  | reinitialise (newProcess : Bool) (address : UInt32) (mapped : address ≠ 0)
      (found : SharedCommandRegion F) (unmarked : found.wellMarked = false)
  /-- The firmware polls. -/
  | poll (input : PollInput F)

/-- Both sides with the memory they share, and the last reason Linux published. -/
structure LatchSystem (F : Type) where
  firmware : Firmware
  linux : MailboxTransport
  /-- Where Linux has its region mapped, zero before it was first opened. -/
  address : UInt32
  memory : Memory F
  commanded : Option UInt32

namespace LatchSystem

/-- Firmware just booted, and no region opened yet. -/
def start : LatchSystem F where
  firmware := boot
  linux := {}
  address := 0
  memory := fun _ => .zeroed
  commanded := none

/-- The region Linux has mapped. -/
def region (s : LatchSystem F) : SharedCommandRegion F := s.memory s.address

/-- `open` up to its end: initialise the region, and have the firmware store the address. -/
def openAt (s : LatchSystem F) (linux : MailboxTransport) (address : UInt32)
    (found : SharedCommandRegion F) : LatchSystem F :=
  -- The acknowledgement is awaited, so the firmware knows the address when `open` returns.
  { s with
    linux := { linux with mode := .live }
    address := address
    memory := Function.update s.memory address (initializeSharedRegion found)
    firmware := handleMessage s.firmware ⟨FlightCmdId.initSharedMemory.toByte, address⟩ }

/-- One event. -/
def step (rtos : RtosConfig) (s : LatchSystem F) : LatchEvent F → LatchSystem F
  -- Reports are left out of the memory, as nothing here reads them back.
  | .publish reason outcome =>
    match (s.linux.sendEmergencyStop s.region reason outcome).2 with
    | (linux, region) =>
      { s with
        linux := linux
        memory := Function.update s.memory s.address region
        commanded := if s.region.wellMarked then some reason else s.commanded }
  | .restart => if s.address = 0 then s else s.openAt {} s.address s.region
  | .reinitialise newProcess address _ found _ =>
    s.openAt (if newProcess then {} else s.linux) address found
  | .poll input => { s with firmware := afterPoll rtos s.firmware { input with memory := s.memory } }

/-- Linux explicitly commanded a stop: the last reason it published is not zero. -/
def stopCommanded (s : LatchSystem F) : Bool := s.commanded.any (· ≠ 0)

/-- The firmware's emergency latch. -/
def latched (s : LatchSystem F) : Bool := s.firmware.shm.emergencyStopLatched

/-- The last sequence number the firmware took from the emergency slot. -/
def lastSeen (s : LatchSystem F) : UInt32 := s.firmware.shm.lastEmergencySeq

/--
An event that cannot separate the latch from the commands.

A publication must not reuse the number the firmware saw last, unless the latch already agrees.
A wiped region must not hide a stop, neither one in force nor one still unread.
-/
def SafeStep (s : LatchSystem F) : LatchEvent F → Prop
  | .publish reason _ => s.linux.emergencySeq + 1 ≠ s.lastSeen ∨ s.latched = decide (reason ≠ 0)
  | .reinitialise .. =>
    if s.lastSeen = 0 then s.latched = s.stopCommanded else s.stopCommanded = false
  | .restart => True
  | .poll _ => True

/-- The two sides look at the same marked region, once there is one. -/
structure Linked (s : LatchSystem F) : Prop where
  opened : s.address ≠ 0 → s.firmware.shm.shmReady = true ∧ s.firmware.shm.shmPhys = s.address ∧
    s.region.wellMarked = true
  unopened : s.address = 0 → s.firmware.shm.shmReady = false ∧ s.region = .zeroed ∧
    s.commanded = none ∧ s.latched = false ∧ s.lastSeen = 0 ∧ s.linux.emergencySeq = 0

/-- The latch that a poll taken now would leave. -/
def verdict (s : LatchSystem F) : Bool :=
  if s.region.emergencyStop.seq = s.lastSeen then s.latched
  else decide (s.region.emergencyStop.payload.reason ≠ 0)

/-- A poll taken now would agree with the commands. -/
def Agrees (s : LatchSystem F) : Prop := s.verdict = s.stopCommanded

/-- Before anything has happened neither side has a region. -/
theorem start_linked : Linked (start : LatchSystem F) where
  opened mapped := absurd rfl mapped
  unopened _ := ⟨rfl, rfl, rfl, rfl, rfl, rfl⟩

/-- Before the region is opened there is nothing to disagree about. -/
theorem agrees_of_unopened {s : LatchSystem F} (linked : Linked s) (closed : s.address = 0) :
    Agrees s := by
  obtain ⟨-, blank, none, clear, unseen, -⟩ := linked.unopened closed
  simp [Agrees, verdict, stopCommanded, blank, none, clear, unseen, SharedCommandRegion.zeroed,
    SharedSlot.zeroed]

/-- A publication into a region without marks changes nothing. -/
theorem step_publish_unmarked {s : LatchSystem F} (rtos : RtosConfig) (reason : UInt32)
    (outcome : SendOutcome) (unmarked : s.region.wellMarked = false) :
    step rtos s (.publish reason outcome) = s := by
  -- The memory is updated with the region it already held.
  simp only [step, sendEmergencyStop_unmarked _ unmarked, unmarked, Bool.false_eq_true, if_false]
  simp only [region, Function.update_eq_self]

/-- A publication into a marked region fills the slot under the next number. -/
theorem step_publish_marked {s : LatchSystem F} (rtos : RtosConfig) (reason : UInt32)
    (outcome : SendOutcome) (marked : s.region.wellMarked = true) :
    step rtos s (.publish reason outcome) =
      { s with
        linux := { s.linux with emergencySeq := s.linux.emergencySeq + 1 }
        memory := Function.update s.memory s.address
          { s.region with
            emergencyStop := publishSlot (s.linux.emergencySeq + 1) { reason := reason } }
        commanded := some reason } := by
  -- The write goes through whether or not its doorbell does.
  simp only [step, sendEmergencyStop_marked _ marked, marked, if_true]

/-- What a poll makes of the bookkeeping, for linked sides. -/
theorem poll_link {s : LatchSystem F} (linked : Linked s) (rtos : RtosConfig)
    (input : PollInput F) :
    (step rtos s (.poll input)).latched = s.verdict ∧
      (s.address ≠ 0 → (step rtos s (.poll input)).lastSeen = s.region.emergencyStop.seq) ∧
      (s.address = 0 → (step rtos s (.poll input)).lastSeen = s.lastSeen) ∧
      (step rtos s (.poll input)).firmware.shm.shmPhys = s.firmware.shm.shmPhys ∧
      (step rtos s (.poll input)).firmware.shm.shmReady = s.firmware.shm.shmReady := by
  -- The poll is summed up by what it does to the bookkeeping.
  obtain ⟨latch, seen, phys, ready⟩ :=
    afterPoll_link rtos s.firmware { input with memory := s.memory }
  simp only [step, latched, lastSeen]
  rw [latch, seen, phys, ready]
  by_cases closed : s.address = 0
  · -- Without a region the bookkeeping stays as it is, and so does the latch.
    obtain ⟨unready, blank, -, clear, unseen, -⟩ := linked.unopened closed
    have blind : linkAfter s.firmware s.memory = s.firmware.shm := by
      simp [linkAfter, seenEmergency, ampSharedRegionGet, unready]
    have kept : s.verdict = s.latched := by
      simp [verdict, blank, unseen, SharedCommandRegion.zeroed, SharedSlot.zeroed]
    rw [blind, kept]
    exact ⟨rfl, fun open_ => absurd closed open_, fun _ => rfl, rfl, rfl⟩
  · -- With a marked region the slot decides, under a number that is new or not.
    obtain ⟨ready, phys, marked⟩ := linked.opened closed
    have sees : linkAfter s.firmware s.memory = pollEmergency s.firmware.shm
        s.region.emergencyStop := by
      simp only [region] at marked
      simp [linkAfter, seenEmergency, ampSharedRegionGet, ready, phys, closed, region, marked,
        Option.filter_some]
    rw [sees]
    unfold pollEmergency verdict lastSeen latched
    by_cases same : s.region.emergencyStop.seq = s.firmware.shm.lastEmergencySeq
    · simp [same, closed]
    · simp [same, closed]

/-- Opening a region links both sides to it. -/
theorem openAt_linked (s : LatchSystem F) (linux : MailboxTransport) {address : UInt32}
    (mapped : address ≠ 0) (found : SharedCommandRegion F) :
    Linked (s.openAt linux address found) where
  opened _ := by
    refine ⟨rfl, rfl, ?_⟩
    simp [openAt, region]
  unopened closed := absurd closed mapped

/-- Every event keeps the two sides linked. -/
theorem step_linked {s : LatchSystem F} (linked : Linked s) (rtos : RtosConfig)
    (event : LatchEvent F) : Linked (step rtos s event) := by
  cases event with
  | publish reason outcome =>
    by_cases closed : s.address = 0
    · -- The write is refused, and the memory is updated with what it held.
      have blank := (linked.unopened closed).2.1
      have unmarked : s.region.wellMarked = false := by
        rw [blank]
        rfl
      rw [step_publish_unmarked rtos reason outcome unmarked]
      exact linked
    · obtain ⟨ready, phys, marked⟩ := linked.opened closed
      rw [step_publish_marked rtos reason outcome marked]
      refine ⟨fun _ => ⟨ready, phys, ?_⟩, fun impossible => absurd impossible closed⟩
      simp only [region, Function.update_self]
      exact marked
  | restart =>
    by_cases closed : s.address = 0
    · simp only [step, closed, if_true]
      exact linked
    · simp only [step, closed, if_false]
      exact openAt_linked s _ closed _
  -- A wiped region is marked again before it is announced.
  | reinitialise newProcess address mapped found unmarked => exact openAt_linked s _ mapped _
  | poll input =>
    obtain ⟨verdict, -, unseen, phys, ready⟩ := poll_link linked rtos input
    refine ⟨fun mapped => ?_, fun closed => ?_⟩
    · obtain ⟨isReady, at_, marked⟩ := linked.opened mapped
      exact ⟨ready.trans isReady, phys.trans at_, marked⟩
    · obtain ⟨unready, blank, none, clear, zero, first⟩ := linked.unopened closed
      have agrees := agrees_of_unopened linked closed
      have still : s.stopCommanded = false := by simp [stopCommanded, none]
      exact ⟨ready.trans unready, blank, none, verdict.trans (agrees.trans still),
        (unseen closed).trans zero, first⟩

/-- For sides that agree, an event keeps the agreement exactly when it is safe. -/
theorem agrees_step {s : LatchSystem F} (linked : Linked s) (agrees : Agrees s)
    (rtos : RtosConfig) (event : LatchEvent F) :
    Agrees (step rtos s event) ↔ SafeStep s event := by
  cases event with
  | publish reason outcome =>
    by_cases closed : s.address = 0
    · -- Nothing is written, and the first number would have been new.
      obtain ⟨-, -, -, -, unseen, first⟩ := linked.unopened closed
      have after : Linked (step rtos s (.publish reason outcome)) := step_linked linked rtos _
      have fresh : s.linux.emergencySeq + 1 ≠ s.lastSeen := by rw [first, unseen]; decide
      exact iff_of_true (agrees_of_unopened after closed) (.inl fresh)
    · obtain ⟨-, -, marked⟩ := linked.opened closed
      rw [step_publish_marked rtos reason outcome marked]
      simp only [Agrees, verdict, stopCommanded, SafeStep, region, Function.update_self,
        publishSlot, latched, lastSeen]
      -- A reused number hides the new reason from the next poll.
      by_cases reused : s.linux.emergencySeq + 1 = s.firmware.shm.lastEmergencySeq
      · simp [reused]
      · simp [reused]
  | restart =>
    by_cases closed : s.address = 0
    · simp only [step, closed, if_true, SafeStep, iff_true]
      exact agrees
    · -- The retained region keeps its slot, and the firmware stores the address it has.
      obtain ⟨-, -, marked⟩ := linked.opened closed
      simp only [step, closed, if_false, SafeStep, iff_true]
      have same : (s.openAt {} s.address s.region).region = s.region := by
        simp only [openAt, region, Function.update_self] at marked ⊢
        exact initializeSharedRegion_marked marked
      simp only [Agrees, verdict, same] at agrees ⊢
      exact agrees
  | reinitialise newProcess address mapped found unmarked =>
    -- The wiped slot reads as reason zero under number zero.
    simp only [Agrees, verdict, stopCommanded, SafeStep, step, openAt, region,
      Function.update_self, initializeSharedRegion_unmarked unmarked, freshRegion,
      SharedCommandRegion.zeroed, SharedSlot.zeroed, latched, lastSeen, handleMessage, if_true]
    by_cases unseen : s.firmware.shm.lastEmergencySeq = 0
    · simp [unseen]
    · have other : ¬ (0 : UInt32) = s.firmware.shm.lastEmergencySeq := fun same => unseen same.symm
      simp only [unseen, other, if_false]
      constructor
      · intro clear
        simpa using clear.symm
      · intro clear
        simpa using clear.symm
  | poll input =>
    obtain ⟨latch, seen, -, -, -⟩ := poll_link linked rtos input
    by_cases closed : s.address = 0
    · have after : Linked (step rtos s (.poll input)) := step_linked linked rtos _
      exact iff_of_true (agrees_of_unopened after closed) trivial
    · -- The firmware has now seen the slot, so the verdict is the latch it just set.
      have same : (step rtos s (.poll input)).verdict = s.verdict := by
        have taken : (step rtos s (.poll input)).region.emergencyStop.seq =
            (step rtos s (.poll input)).lastSeen := (seen closed).symm
        rw [verdict, if_pos taken, latch]
      simp only [Agrees, SafeStep, iff_true]
      exact same.trans agrees

/-- The system after `n` events. -/
def after (rtos : RtosConfig) (event : Nat → LatchEvent F) (n : Nat) : LatchSystem F :=
  stateAt (step rtos) start event n

/--
The latch follows the commands.

Whenever the firmware polls, the latch is then set exactly if the last published reason is a stop.
-/
def LatchFollows (rtos : RtosConfig) (event : Nat → LatchEvent F) : Prop :=
  ∀ n input, (step rtos (after rtos event n) (.poll input)).latched =
    (after rtos event n).stopCommanded

/-- Both sides stay linked throughout a run. -/
theorem after_linked (rtos : RtosConfig) (event : Nat → LatchEvent F) (n : Nat) :
    Linked (after rtos event n) :=
  stateAt_invariant start_linked (fun _ _ linked => step_linked linked rtos _) n

/-- The latch follows the commands exactly in the runs whose events are all safe. -/
theorem latchFollows_iff_safe (rtos : RtosConfig) (event : Nat → LatchEvent F) :
    LatchFollows rtos event ↔ ∀ n, SafeStep (after rtos event n) (event n) := by
  -- Following means agreeing at every point, and agreement survives exactly the safe events.
  have follows : LatchFollows rtos event ↔ ∀ n, Agrees (after rtos event n) := by
    constructor
    · intro follows n
      have input : PollInput F := ⟨0, [], benchDevices, fun _ => .zeroed, 0, 0, 0⟩
      have polled := follows n input
      rw [(poll_link (after_linked rtos event n) rtos input).1] at polled
      exact polled
    · intro agrees n input
      rw [(poll_link (after_linked rtos event n) rtos input).1]
      exact agrees n
  rw [follows]
  constructor
  · intro agrees n
    exact (agrees_step (after_linked rtos event n) (agrees n) rtos (event n)).mp (agrees (n + 1))
  · intro safe n
    induction n with
    | zero => exact agrees_of_unopened start_linked rfl
    | succ n ih => exact (agrees_step (after_linked rtos event n) ih rtos (event n)).mpr (safe n)

/-- A stop is published and taken, then Linux opens a region that lost its marks. -/
def reinitialiseBench : Nat → LatchEvent ℚ
  | 0 => .reinitialise true 0x83F00000 (by decide) .zeroed rfl
  | 1 => .publish 1 ⟨true, true⟩
  | 3 => .reinitialise false 0x83F00000 (by decide) .zeroed rfl
  | n => .poll (benchPoll (60 * n + 60) (60 * n + 62) [] (fun _ => .zeroed) none).toPollInput

/-- The next poll clears the latch, although Linux never published a clear command. -/
theorem latchFollows_reinitialiseBench : ¬ LatchFollows benchRtos reinitialiseBench := by
  intro follows
  -- The last reason published is one, in event 1.
  have commanded : (after benchRtos reinitialiseBench 4).stopCommanded = true := by
    decide +kernel
  have latch : (step benchRtos (after benchRtos reinitialiseBench 4) (.poll
      (benchPoll 300 302 [] (fun _ => .zeroed) none).toPollInput)).latched = false := by
    decide +kernel
  rw [follows 4, commanded] at latch
  cases latch

end LatchSystem

end AmpFc
