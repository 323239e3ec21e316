import AmpFc.Lib.Execution
import AmpFc.Rt.CmdquTransport

/-! Doorbells and polls of the realtime transport: the ring decides nothing that is delivered. -/

namespace AmpFc

open RtosCmdquIsrTransport

/-- Two regions hold the same in every slot that a poll looks at. -/
structure SameSlots {F : Type} (left right : SharedCommandRegion F) : Prop where
  setpoint : left.setpoint = right.setpoint
  arm : left.arm = right.arm
  heartbeat : left.heartbeat = right.heartbeat
  emergencyStop : left.emergencyStop = right.emergencyStop
  config : left.config = right.config

/-- A run of the transport: the doorbells that precede each poll, and what the poll finds. -/
structure TransportRun (F : Type) where
  start : RtosCmdquIsrTransport
  doorbells : Nat → List PendingCmd
  region : Nat → SharedCommandRegion F

namespace RtosCmdquIsrTransport

variable {F : Type} [FloatArith F]

/-- The interrupt handler, called for one doorbell after the other. -/
def ringAll (t : RtosCmdquIsrTransport) (doorbells : List PendingCmd) : RtosCmdquIsrTransport :=
  -- A doorbell that finds the ring full is dropped by the handler itself.
  { t with
    ring := doorbells.foldl (fun ring doorbell =>
      ring.onCmdFromMailbox doorbell.cmdId doorbell.seqHint) t.ring }

/-- Doorbells do not touch the last numbers. -/
@[simp] theorem ringAll_last (t : RtosCmdquIsrTransport) (doorbells : List PendingCmd) :
    (t.ringAll doorbells).last = t.last := rfl

/-- The parse functions read nothing of a region but its slots. -/
theorem parseAll_congr {left right : SharedCommandRegion F}
    (same : SameSlots left right) (d : Delivery F) : parseAll left d = parseAll right d := by
  simp only [parseAll, parseConfig, parseHeartbeat, parseSetpoint, parseArm, same.setpoint,
    same.arm, same.heartbeat, same.config]

/-- A poll is decided by the slots and the last numbers alone, whatever the ring holds. -/
theorem poll_congr {left right : SharedCommandRegion F} {t t' : RtosCmdquIsrTransport}
    (same : SameSlots left right) (last : t.last = t'.last) :
    (t.poll left).1 = (t'.poll right).1 ∧ (t.poll left).2.last = (t'.poll right).2.last := by
  cases waiting : accepts left.emergencyStop t.last.emergency with
  | true =>
    -- Both polls find the same new emergency stop before they look at the ring.
    have waiting' : accepts right.emergencyStop t'.last.emergency = true := by
      rw [← same.emergencyStop, ← last, waiting]
    rw [poll_emergency waiting, poll_emergency waiting', last, same.emergencyStop]
    exact ⟨rfl, rfl⟩
  | false =>
    have waiting' : accepts right.emergencyStop t'.last.emergency = false := by
      rw [← same.emergencyStop, ← last, waiting]
    -- Each of them drains its own ring, and ends with what the slots hold by themselves.
    obtain ⟨ring, -, polled⟩ := poll_calm waiting
    obtain ⟨ring', -, polled'⟩ := poll_calm waiting'
    rw [polled, polled', last, parseAll_congr same]
    exact ⟨rfl, rfl⟩

end RtosCmdquIsrTransport

namespace TransportRun

variable {F : Type} [FloatArith F]

/-- One round: the doorbells of its index, and then the poll. -/
def round (run : TransportRun F) (t : RtosCmdquIsrTransport) (n : Nat) :
    IncomingCommand F × RtosCmdquIsrTransport :=
  (t.ringAll (run.doorbells n)).poll (run.region n)

/-- The transport after `n` polls. -/
def after (run : TransportRun F) (n : Nat) : RtosCmdquIsrTransport :=
  stateAt (fun t n => (run.round t n).2) run.start id n

/-- The command that poll `n` fills in. -/
def command (run : TransportRun F) (n : Nat) : IncomingCommand F := (run.round (run.after n) n).1

/-- Under the same slots, two runs always agree on the last numbers. -/
theorem after_last {left right : TransportRun F} (start : left.start.last = right.start.last)
    (same : ∀ n, SameSlots (left.region n) (right.region n)) (n : Nat) :
    (left.after n).last = (right.after n).last := by
  -- The relation is kept by every round, since the doorbells do not touch the numbers.
  refine stateAt_related (fun t t' : RtosCmdquIsrTransport => t.last = t'.last) start ?_ n
  intro t t' n agree
  exact (poll_congr (same n) (by rw [ringAll_last, ringAll_last, agree])).2

/-- Doorbells decide neither what the polls deliver nor which numbers they leave behind. -/
theorem command_independent {left right : TransportRun F}
    (start : left.start.last = right.start.last)
    (same : ∀ n, SameSlots (left.region n) (right.region n)) (n : Nat) :
    left.command n = right.command n ∧
      (left.after (n + 1)).last = (right.after (n + 1)).last := by
  have agree := after_last start same n
  refine ⟨?_, after_last start same (n + 1)⟩
  exact (poll_congr (same n) (by rw [ringAll_last, ringAll_last, agree])).1

/-- A bench region in which an arm command and an emergency stop are waiting. -/
def waitingBench : SharedCommandRegion ℚ :=
  { SharedCommandRegion.zeroed with
    arm := ⟨1, ⟨1, 0, 0, 0⟩, payloadCrc (⟨1, 0, 0, 0⟩ : CommandArm)⟩
    emergencyStop := ⟨1, ⟨7⟩, payloadCrc (⟨7⟩ : CommandEmergencyStop)⟩ }

/-- A run over the bench region that is rung the same way before every poll. -/
def doorbellBench (doorbells : List PendingCmd) : TransportRun ℚ where
  start := .constructed
  doorbells _ := doorbells
  region _ := waitingBench

/-- Forty doorbells or none, the second poll delivers the same. -/
theorem command_independent_doorbellBench :
    (doorbellBench (.replicate 40 ⟨0x31, 5⟩)).command 1 = (doorbellBench []).command 1 ∧
      ((doorbellBench (.replicate 40 ⟨0x31, 5⟩)).after 2).last =
        ((doorbellBench []).after 2).last := by
  -- Forty doorbells are more than the ring can hold.
  have start : (doorbellBench (.replicate 40 ⟨0x31, 5⟩)).start.last =
      (doorbellBench []).start.last := rfl
  have same : ∀ n, SameSlots ((doorbellBench (.replicate 40 ⟨0x31, 5⟩)).region n)
      ((doorbellBench []).region n) := fun _ => ⟨rfl, rfl, rfl, rfl, rfl⟩
  exact command_independent start same 1

end TransportRun

end AmpFc
