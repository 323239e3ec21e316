import AmpFc.Lib.CellRing
import AmpFc.Rt.FlightRtNode

/-! The realtime side of the shared region: doorbell ring, slot acceptance, and one poll. -/

namespace AmpFc

/-- `PendingCmd`. -/
structure PendingCmd where
  cmdId : UInt8 := 0
  seqHint : UInt32 := 0
  deriving DecidableEq, Repr

/-- `kQueueDepth`. -/
abbrev queueDepth : Nat := 32

/-- The doorbell ring, whose positions never leave the queue. -/
structure DoorbellRing where
  pending : Vector PendingCmd queueDepth
  head : Fin queueDepth
  tail : Fin queueDepth

/-- The last sequence number accepted from each slot. -/
structure LastSeqs where
  setpoint : UInt32 := 0
  arm : UInt32 := 0
  heartbeat : UInt32 := 0
  emergency : UInt32 := 0
  config : UInt32 := 0
  deriving DecidableEq, Repr

/-- `RtosCmdquIsrTransport`, next to the region it has mapped. -/
structure RtosCmdquIsrTransport where
  ring : DoorbellRing
  last : LastSeqs
  reportSeq : UInt32

/-- What the parse functions of one poll write: sequence numbers, and the command. -/
structure Delivery (F : Type) where
  last : LastSeqs
  command : IncomingCommand F

namespace DoorbellRing

/-- `(index + 1u) % kQueueDepth`. -/
def next (index : Fin queueDepth) : Fin queueDepth :=
  ⟨(index.val + 1) % queueDepth, Nat.mod_lt _ (by decide)⟩

/-- `onCmdFromMailbox` of an active transport, which drops a doorbell that finds the ring full. -/
def onCmdFromMailbox (ring : DoorbellRing) (cmdId : UInt8) (seqHint : UInt32) : DoorbellRing :=
  if next ring.head = ring.tail then ring
  else
    { ring with
      pending := ring.pending.set ring.head ⟨cmdId, seqHint⟩
      head := next ring.head }

/-- `popCommand`. -/
def popCommand (ring : DoorbellRing) : Option (PendingCmd × DoorbellRing) :=
  if ring.tail = ring.head then none
  else some (ring.pending[ring.tail], { ring with tail := next ring.tail })

/-- The number of doorbells between tail and head. -/
def size (ring : DoorbellRing) : Nat :=
  (ring.head.val + queueDepth - ring.tail.val) % queueDepth

/-- The doorbell ring as a ring of cells. -/
def cellRing (ring : DoorbellRing) : CellRing PendingCmd (31 + 1) where
  cells := ring.pending
  head := ring.head
  tail := ring.tail

/-- Ringing pushes into the ring of cells. -/
theorem cellRing_onCmdFromMailbox (ring : DoorbellRing) (doorbell : PendingCmd) :
    (ring.onCmdFromMailbox doorbell.cmdId doorbell.seqHint).cellRing =
      ring.cellRing.push doorbell := by
  unfold onCmdFromMailbox CellRing.push
  by_cases full : next ring.head = ring.tail
  · have same : CellRing.following ring.cellRing.head = ring.cellRing.tail := full
    rw [if_pos full, if_pos same]
  · have same : ¬ CellRing.following ring.cellRing.head = ring.cellRing.tail := full
    rw [if_neg full, if_neg same]
    rfl

/-- Popping a doorbell pops the ring of cells. -/
theorem cellRing_popCommand (ring : DoorbellRing) :
    ring.popCommand.map (fun popped => (popped.1, popped.2.cellRing)) = ring.cellRing.pop := by
  unfold popCommand CellRing.pop
  by_cases empty : ring.tail = ring.head
  · have same : ring.cellRing.tail = ring.cellRing.head := empty
    rw [if_pos empty, if_pos same]
    rfl
  · have same : ¬ ring.cellRing.tail = ring.cellRing.head := empty
    rw [if_neg empty, if_neg same]
    rfl

/-- The doorbells between tail and head are those that the ring of cells holds. -/
theorem size_eq (ring : DoorbellRing) : ring.size = ring.cellRing.entries.length :=
  ring.cellRing.entries_length.symm

/-- Popping removes exactly one doorbell. -/
theorem size_popCommand {ring rest : DoorbellRing} {pending : PendingCmd}
    (popped : ring.popCommand = some (pending, rest)) : ring.size = rest.size + 1 := by
  have same := ring.cellRing_popCommand
  rw [popped] at same
  -- The ring of cells holds one entry more than what the pop has left of it.
  rcases ring.cellRing.pop_entries with ⟨-, fails⟩ | ⟨entry, left, first, popped'⟩
  · rw [fails] at same
    cases same
  · rw [popped'] at same
    cases same
    rw [size_eq, size_eq, first, List.length_cons]

/-- Where nothing can be popped, no doorbell is left. -/
theorem size_of_popCommand {ring : DoorbellRing} (nothing : ring.popCommand = none) :
    ring.size = 0 := by
  have same := ring.cellRing_popCommand
  rw [nothing] at same
  rcases ring.cellRing.pop_entries with ⟨empty, -⟩ | ⟨entry, left, -, popped⟩
  · rw [size_eq, empty, List.length_nil]
  · rw [popped] at same
    cases same

/-- One cell of the ring stays free. -/
theorem size_lt (ring : DoorbellRing) : ring.size < queueDepth := ring.cellRing.count_lt

end DoorbellRing

section Slots

variable {α : Type} [Packed α]

/-- A slot is taken over once it verifies and its number is above the last one accepted. -/
def accepts (slot : SharedSlot α) (last : UInt32) : Bool :=
  verifySlot slot && !(slot.seq ≤ last)

/-- What a parse function does with its slot, given the last number and what was parsed so far. -/
def takeSlot (slot : SharedSlot α) (held : UInt32 × Option α) : UInt32 × Option α :=
  if !accepts slot held.1 then held else (slot.seq, some slot.payload)

/-- A slot is not accepted a second time. -/
theorem accepts_again (slot : SharedSlot α) : accepts slot slot.seq = false := by
  simp [accepts]

/-- A slot that is accepted replaces what was held. -/
theorem takeSlot_accepted {slot : SharedSlot α} {held : UInt32 × Option α}
    (accepted : accepts slot held.1 = true) :
    takeSlot slot held = (slot.seq, some slot.payload) := by
  simp [takeSlot, accepted]

/-- A slot that is not accepted leaves what was held. -/
theorem takeSlot_refused {slot : SharedSlot α} {held : UInt32 × Option α}
    (refused : accepts slot held.1 = false) : takeSlot slot held = held := by
  simp [takeSlot, refused]

/-- With nothing parsed so far, a payload comes out of a slot that is accepted only. -/
theorem takeSlot_payload (slot : SharedSlot α) (last : UInt32) :
    (takeSlot slot (last, none)).2 = if accepts slot last then some slot.payload else none := by
  cases taken : accepts slot last with
  | true => simp [takeSlot, taken]
  | false => simp [takeSlot, taken]

/-- So the payload comes out exactly if the slot is accepted. -/
theorem takeSlot_reports (slot : SharedSlot α) (last : UInt32) :
    (takeSlot slot (last, none)).2 = some slot.payload ↔ accepts slot last = true := by
  rw [takeSlot_payload]
  simp

/-- The number held is replaced exactly by that of a slot that is accepted. -/
theorem takeSlot_number (slot : SharedSlot α) (last : UInt32) :
    (takeSlot slot (last, none)).1 = if accepts slot last then slot.seq else last := by
  cases taken : accepts slot last with
  | true => simp [takeSlot, taken]
  | false => simp [takeSlot, taken]

/-- Parsing the same slot again changes nothing. -/
@[simp] theorem takeSlot_again (slot : SharedSlot α) (held : UInt32 × Option α) :
    takeSlot slot (takeSlot slot held) = takeSlot slot held := by
  -- Once taken over, the slot is refused by its own number.
  cases taken : accepts slot held.1 with
  | true =>
    rw [takeSlot_accepted taken]
    exact takeSlot_refused (accepts_again slot)
  | false => rw [takeSlot_refused taken, takeSlot_refused taken]

end Slots

namespace RtosCmdquIsrTransport

variable {F : Type} [FloatArith F]

/-- The transport that `main` builds. -/
def constructed : RtosCmdquIsrTransport where
  ring := { pending := .replicate queueDepth {}, head := 0, tail := 0 }
  last := {}
  reportSeq := 0

/-- `init` over the region found at the mapped address. -/
def init (t : RtosCmdquIsrTransport) (region : SharedCommandRegion F) :
    RtosCmdquIsrTransport × SharedCommandRegion F :=
  -- The doorbells stay in memory, but none of them is pending any more.
  ({ ring := { t.ring with head := 0, tail := 0 }, last := {}, reportSeq := 0 },
    if !region.wellMarked then
      { SharedCommandRegion.zeroed with magic := sharedRegionMagic, version := sharedRegionVersion }
    else region)

/-- `parseSetpoint`. -/
def parseSetpoint (region : SharedCommandRegion F) (d : Delivery F) : Delivery F :=
  let taken := takeSlot region.setpoint (d.last.setpoint, d.command.setpoint)
  { last := { d.last with setpoint := taken.1 }
    command := { d.command with setpoint := taken.2 } }

/-- `parseArm`. -/
def parseArm (region : SharedCommandRegion F) (d : Delivery F) : Delivery F :=
  let taken := takeSlot region.arm (d.last.arm, d.command.arm)
  { last := { d.last with arm := taken.1 }, command := { d.command with arm := taken.2 } }

/-- `parseHeartbeat`. -/
def parseHeartbeat (region : SharedCommandRegion F) (d : Delivery F) : Delivery F :=
  let taken := takeSlot region.heartbeat (d.last.heartbeat, d.command.heartbeat)
  { last := { d.last with heartbeat := taken.1 }
    command := { d.command with heartbeat := taken.2 } }

/-- `parseEmergency`, which also tells whether it found one and never looks at the payload. -/
def parseEmergency (region : SharedCommandRegion F) (d : Delivery F) : Bool × Delivery F :=
  if !accepts region.emergencyStop d.last.emergency then (false, d)
  else
    (true,
      { last := { d.last with emergency := region.emergencyStop.seq }
        command := { d.command with emergencyStop := true } })

/-- `parseConfig`. -/
def parseConfig (region : SharedCommandRegion F) (d : Delivery F) : Delivery F :=
  let taken := takeSlot region.config (d.last.config, d.command.config)
  { last := { d.last with config := taken.1 }, command := { d.command with config := taken.2 } }

/-- The switch over a popped doorbell: whether to return at once, and what was parsed. -/
def dispatch (region : SharedCommandRegion F) (pending : PendingCmd) (d : Delivery F) :
    Bool × Delivery F :=
  -- The doorbell only says where to look; its own sequence hint is not used.
  match FlightCmdId.ofByte pending.cmdId with
  | some .emergencyStop => parseEmergency region d
  | some .arm => (false, parseArm region d)
  | some .setpoint => (false, parseSetpoint region d)
  | some .heartbeat => (false, parseHeartbeat region d)
  | some .config => (false, parseConfig region d)
  | some .initSharedMemory => (false, d)
  | none => (false, d)

/-- The loop over the pending doorbells, for a bounded number of turns. -/
def drain (region : SharedCommandRegion F) :
    Nat → DoorbellRing → Delivery F → Bool × DoorbellRing × Delivery F
  -- The ring holds fewer doorbells than it has places, so the turns suffice.
  | 0, ring, d => (false, ring, d)
  | fuel + 1, ring, d =>
    match ring.popCommand with
    | none => (false, ring, d)
    | some (pending, ring) =>
      let dispatched := dispatch region pending d
      if dispatched.1 then (true, ring, dispatched.2) else drain region fuel ring dispatched.2

/-- The parse functions that close a poll, in the order of the slots' priorities. -/
def parseAll (region : SharedCommandRegion F) (d : Delivery F) : Delivery F :=
  parseConfig region (parseHeartbeat region (parseSetpoint region (parseArm region d)))

/-- `poll`, during which the region does not change; it always succeeds. -/
def poll (t : RtosCmdquIsrTransport) (region : SharedCommandRegion F) :
    IncomingCommand F × RtosCmdquIsrTransport :=
  let first := parseEmergency region ⟨t.last, {}⟩
  -- An emergency stop returns at once and leaves doorbells and the other slots for later.
  if first.1 then (first.2.command, { t with last := first.2.last })
  else
    let drained := drain region queueDepth t.ring first.2
    if drained.1 then
      (drained.2.2.command, { t with ring := drained.2.1, last := drained.2.2.last })
    else
      let parsed := parseAll region drained.2.2
      (parsed.command, { t with ring := drained.2.1, last := parsed.last })

/-- `publish`, which numbers a report that carries no number of its own. -/
def publish (t : RtosCmdquIsrTransport) (region : SharedCommandRegion F) (report : RtReport F) :
    RtosCmdquIsrTransport × SharedCommandRegion F :=
  -- The transport counts every report, numbered by itself or not.
  let reportSeq := t.reportSeq + 1
  let payload := { report with seq := if report.seq = 0 then reportSeq else report.seq }
  ({ t with reportSeq := reportSeq },
    { region with
      rtReport := { seq := payload.seq, payload := payload, payloadCrc := payloadCrc payload } })

/-- Without a new emergency stop, what a doorbell parses early changes nothing in the end. -/
theorem dispatch_calm {region : SharedCommandRegion F} {d : Delivery F}
    (calm : accepts region.emergencyStop d.last.emergency = false) (pending : PendingCmd) :
    (dispatch region pending d).1 = false ∧
      (dispatch region pending d).2.last.emergency = d.last.emergency ∧
      parseAll region (dispatch region pending d).2 = parseAll region d := by
  -- The parse functions work on different fields, and each of them only once.
  unfold dispatch
  cases FlightCmdId.ofByte pending.cmdId with
  | none => exact ⟨rfl, rfl, rfl⟩
  | some cmdId =>
    cases cmdId with
    | initSharedMemory => exact ⟨rfl, rfl, rfl⟩
    | emergencyStop => simp [parseEmergency, calm]
    | arm => simp [parseAll, parseConfig, parseHeartbeat, parseSetpoint, parseArm]
    | setpoint => simp [parseAll, parseConfig, parseHeartbeat, parseSetpoint, parseArm]
    | heartbeat => simp [parseAll, parseConfig, parseHeartbeat, parseSetpoint, parseArm]
    | config => simp [parseAll, parseConfig, parseHeartbeat, parseSetpoint, parseArm]

/-- Without a new emergency stop, the doorbells are drained and change nothing in the end. -/
theorem drain_calm (region : SharedCommandRegion F) : ∀ (fuel : Nat) (ring : DoorbellRing)
    (d : Delivery F), accepts region.emergencyStop d.last.emergency = false → ring.size ≤ fuel →
      (drain region fuel ring d).1 = false ∧ (drain region fuel ring d).2.1.size = 0 ∧
        parseAll region (drain region fuel ring d).2.2 = parseAll region d := by
  -- The induction is on the turns left, each of which pops one doorbell.
  intro fuel
  induction fuel with
  | zero =>
    intro ring d _ few
    exact ⟨rfl, Nat.le_zero.mp few, rfl⟩
  | succ fuel ih =>
    intro ring d calm few
    unfold drain
    cases popped : ring.popCommand with
    | none =>
      have empty : ring.size = 0 := DoorbellRing.size_of_popCommand popped
      exact ⟨rfl, empty, rfl⟩
    | some entry =>
      obtain ⟨pending, rest⟩ := entry
      obtain ⟨goesOn, kept, same⟩ := dispatch_calm calm pending
      have fewer := DoorbellRing.size_popCommand popped
      have later := ih rest (dispatch region pending d).2 (by rw [kept]; exact calm) (by omega)
      simp only [goesOn, Bool.false_eq_true, if_false]
      rw [← same]
      exact later

/-- A poll that finds a new emergency stop reports nothing else and touches nothing else. -/
theorem poll_emergency {t : RtosCmdquIsrTransport} {region : SharedCommandRegion F}
    (stop : accepts region.emergencyStop t.last.emergency = true) :
    t.poll region = ({ emergencyStop := true },
      { t with last := { t.last with emergency := region.emergencyStop.seq } }) := by
  simp [poll, parseEmergency, stop]

/-- Any other poll empties the ring and reports what each slot holds by itself. -/
theorem poll_calm {t : RtosCmdquIsrTransport} {region : SharedCommandRegion F}
    (calm : accepts region.emergencyStop t.last.emergency = false) :
    ∃ ring : DoorbellRing, ring.size = 0 ∧
      t.poll region = ((parseAll region ⟨t.last, {}⟩).command,
        { t with ring := ring, last := (parseAll region ⟨t.last, {}⟩).last }) := by
  -- The drain does not return early, so the closing parse functions decide.
  obtain ⟨goesOn, empty, same⟩ := drain_calm region queueDepth t.ring ⟨t.last, {}⟩ calm
    (Nat.le_of_lt t.ring.size_lt)
  refine ⟨(drain region queueDepth t.ring ⟨t.last, {}⟩).2.1, empty, ?_⟩
  simp [poll, parseEmergency, calm, goesOn, same]

end RtosCmdquIsrTransport

end AmpFc
