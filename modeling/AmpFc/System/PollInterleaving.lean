import AmpFc.System.Session

/-! A poll taken apart: every parse and every pop is a step that Linux and doorbells may precede. -/

namespace AmpFc

open RtosCmdquIsrTransport

variable {F : Type} [FloatArith F]

/-- Where the loop of the node stands between two atomic steps, with the command under way. -/
inductive PollPhase (F : Type) where
  /-- The next step begins a poll, with its first `parseEmergency`. -/
  | idle
  /-- The next step is `popCommand`. -/
  | popping (command : IncomingCommand F)
  /-- The next step is the parse function for a popped doorbell, if it has one. -/
  | dispatching (pending : PendingCmd) (command : IncomingCommand F)
  /-- The next steps are the parse functions that close the poll. -/
  | parsingArm (command : IncomingCommand F)
  | parsingSetpoint (command : IncomingCommand F)
  | parsingHeartbeat (command : IncomingCommand F)
  | parsingConfig (command : IncomingCommand F)
  /-- The poll is over, and the next step is `applyCommand`. -/
  | returned (command : IncomingCommand F)

/-- The shared region, the transport, the node, and where the loop stands. -/
structure PollState (F : Type) where
  region : SharedCommandRegion F
  rt : RtosCmdquIsrTransport
  node : FlightRtNode F
  phase : PollPhase F

/-- One atomic step of either core. -/
inductive PollEvent (F : Type) where
  | publish (seq : UInt32) (message : SlotMessage F)
  | doorbell (cmdId : UInt8) (seqHint : UInt32)
  /-- The loop of the node takes its next step. -/
  | advance (nowUs : Nat)

namespace PollPhase

/-- The command under way, from the first step of a poll until it is applied. -/
def command? : PollPhase F → Option (IncomingCommand F)
  | .idle => none
  | .popping command => some command
  | .dispatching _ command => some command
  | .parsingArm command => some command
  | .parsingSetpoint command => some command
  | .parsingHeartbeat command => some command
  | .parsingConfig command => some command
  | .returned command => some command

end PollPhase

namespace PollState

/-- What a parse function leaves, and the phase that goes on with its command. -/
def parsed (s : PollState F) (d : Delivery F) (phase : IncomingCommand F → PollPhase F) :
    PollState F :=
  { s with rt := { s.rt with last := d.last }, phase := phase d.command }

/-- The next step of the loop, through `poll` and then `applyCommand`. -/
def advance (s : PollState F) (nowUs : Nat) : PollState F :=
  match s.phase with
  | .idle =>
    let first := parseEmergency s.region ⟨s.rt.last, {}⟩
    s.parsed first.2 (if first.1 then .returned else .popping)
  | .popping command =>
    match s.rt.ring.popCommand with
    | none => { s with phase := .parsingArm command }
    | some (pending, ring) =>
      { s with rt := { s.rt with ring := ring }, phase := .dispatching pending command }
  | .dispatching pending command =>
    let dispatched := dispatch s.region pending ⟨s.rt.last, command⟩
    s.parsed dispatched.2 (if dispatched.1 then .returned else .popping)
  | .parsingArm command => s.parsed (parseArm s.region ⟨s.rt.last, command⟩) .parsingSetpoint
  | .parsingSetpoint command =>
    s.parsed (parseSetpoint s.region ⟨s.rt.last, command⟩) .parsingHeartbeat
  | .parsingHeartbeat command =>
    s.parsed (parseHeartbeat s.region ⟨s.rt.last, command⟩) .parsingConfig
  | .parsingConfig command => s.parsed (parseConfig s.region ⟨s.rt.last, command⟩) .returned
  | .returned command => { s with node := s.node.applyCommand command nowUs, phase := .idle }

/-- One atomic step. -/
def step (s : PollState F) : PollEvent F → PollState F
  | .publish seq message => { s with region := s.region.publish seq message }
  | .doorbell cmdId seqHint =>
    { s with rt := { s.rt with ring := s.rt.ring.onCmdFromMailbox cmdId seqHint } }
  | .advance nowUs => s.advance nowUs

/-- The command under way if the next step of the loop calls `parseConfig`. -/
def parsesConfig (s : PollState F) : Option (IncomingCommand F) :=
  match s.phase with
  | .dispatching pending command =>
    if FlightCmdId.ofByte pending.cmdId = some .config then some command else none
  | .parsingConfig command => some command
  | _ => none

/-- The next step of the loop calls `parseEmergency`. -/
def parsesEmergency (s : PollState F) : Bool :=
  match s.phase with
  | .idle => true
  | .dispatching pending _ => FlightCmdId.ofByte pending.cmdId = some .emergencyStop
  | _ => false

/-- The command under way, which is empty before a poll begins. -/
def inHand (s : PollState F) : IncomingCommand F := s.phase.command?.getD {}

/-- The next step of the loop stores the number of the configuration in its slot. -/
def storesConfig (s : PollState F) : Bool :=
  s.parsesConfig.isSome && accepts s.region.config s.rt.last.config

/-- The next step of the loop leaves the poll with an emergency stop. -/
def stops (s : PollState F) : Bool :=
  s.parsesEmergency && accepts s.region.emergencyStop s.rt.last.emergency

/-- A configuration in hand is lost at the next step: an emergency stop, or another one. -/
def LosesConfig (s : PollState F) : Prop :=
  ∃ held, s.inHand.config = some held ∧
    (s.stops = true ∨ s.storesConfig = true ∧ s.region.config.payload ≠ held)

/-- Steps of the loop with none of the other core in between. -/
def Reaches (nowUs : Nat) : PollState F → PollState F → Prop :=
  Relation.ReflTransGen fun s t => s.advance nowUs = t

/-- The loop over the doorbells, taken in one go. -/
theorem drain_reaches (nowUs : Nat) (region : SharedCommandRegion F) (node : FlightRtNode F)
    (reportSeq : UInt32) : ∀ (fuel : Nat) (ring : DoorbellRing) (d : Delivery F),
      ring.size < fuel →
      Reaches nowUs ⟨region, ⟨ring, d.last, reportSeq⟩, node, .popping d.command⟩
        ⟨region, ⟨(drain region fuel ring d).2.1, (drain region fuel ring d).2.2.last, reportSeq⟩,
          node,
          if (drain region fuel ring d).1 then .returned (drain region fuel ring d).2.2.command
          else .parsingArm (drain region fuel ring d).2.2.command⟩ := by
  -- The induction is on the turns left, each of which is a pop and a dispatch.
  intro fuel
  induction fuel with
  | zero =>
    intro ring d few
    exact absurd few (Nat.not_lt_zero _)
  | succ fuel ih =>
    intro ring d few
    unfold drain
    cases popped : ring.popCommand with
    | none =>
      refine Relation.ReflTransGen.single ?_
      simp [advance, popped]
    | some entry =>
      obtain ⟨pending, rest⟩ := entry
      refine Relation.ReflTransGen.head (b := ⟨region, ⟨rest, d.last, reportSeq⟩, node,
        .dispatching pending d.command⟩) (by simp [advance, popped]) ?_
      have fewer := DoorbellRing.size_popCommand popped
      dsimp only
      by_cases ends : (dispatch region pending d).1 = true
      · simp only [ends, if_true]
        refine Relation.ReflTransGen.single ?_
        simp [advance, parsed, ends]
      · simp only [ends, Bool.false_eq_true, if_false]
        refine Relation.ReflTransGen.head ?_ (ih rest (dispatch region pending d).2 (by omega))
        simp [advance, parsed, ends]

/-- Without interference the steps of the loop are one atomic poll. -/
theorem poll_reaches (nowUs : Nat) (s : PollState F) (idle : s.phase = .idle) :
    Reaches nowUs s { s with
      rt := (s.rt.poll s.region).2, phase := .returned (s.rt.poll s.region).1 } := by
  obtain ⟨region, ⟨ring, last, reportSeq⟩, node, phase⟩ := s
  subst idle
  unfold poll
  dsimp only
  by_cases stop : (parseEmergency region ⟨last, {}⟩).1 = true
  · simp only [stop, if_true]
    refine Relation.ReflTransGen.single ?_
    simp [advance, parsed, stop]
  · simp only [stop, Bool.false_eq_true, if_false]
    refine Relation.ReflTransGen.head (b := ⟨region,
      ⟨ring, (parseEmergency region ⟨last, {}⟩).2.last, reportSeq⟩, node,
      .popping (parseEmergency region ⟨last, {}⟩).2.command⟩) (by simp [advance, parsed, stop]) ?_
    have drained := drain_reaches nowUs region node reportSeq queueDepth ring
      (parseEmergency region ⟨last, {}⟩).2 ring.size_lt
    refine Relation.ReflTransGen.trans drained ?_
    by_cases ends :
        (drain region queueDepth ring (parseEmergency region ⟨last, {}⟩).2).1 = true
    · simp only [ends, if_true]
      exact Relation.ReflTransGen.refl
    · simp only [ends, Bool.false_eq_true, if_false]
      -- The four closing parse functions.
      refine Relation.ReflTransGen.head rfl ?_
      refine Relation.ReflTransGen.head rfl ?_
      refine Relation.ReflTransGen.head rfl ?_
      exact Relation.ReflTransGen.single rfl

end PollState

/-- A run of both cores, one atomic step after the other, from any state between two polls. -/
structure PollRun (F : Type) where
  region : SharedCommandRegion F
  rt : RtosCmdquIsrTransport
  node : FlightRtNode F
  event : Nat → PollEvent F

namespace PollRun

/-- The state in which the run begins. -/
def start (run : PollRun F) : PollState F := ⟨run.region, run.rt, run.node, .idle⟩

/-- The state after `n` steps. -/
def after (run : PollRun F) (n : Nat) : PollState F := stateAt PollState.step run.start run.event n

/-- Step `n` is one of the loop. -/
def Advances (run : PollRun F) (n : Nat) : Prop := ∃ nowUs, run.event n = .advance nowUs

/-- Step `n` loses a configuration. -/
def LosesAt (run : PollRun F) (n : Nat) : Prop := run.Advances n ∧ (run.after n).LosesConfig

variable {run : PollRun F} {n m : Nat}

/-- A step finds the state as the ones before it left it. -/
theorem after_succ (n : Nat) : run.after (n + 1) = (run.after n).step (run.event n) :=
  stateAt_succ _ _ _ n

end PollRun

end AmpFc
