import AmpFc.Lib.Fifo
import AmpFc.Rt.NodeInvariants
import AmpFc.System.Session

/-! Linux and the realtime core over their shared region, one atomic step of either at a time. -/

namespace AmpFc

open MailboxTransport

variable {F : Type} [FloatArith F]

/-- What reaches the shared region from outside: a send, a restart, or a doorbell. -/
abbrev OutsideEvent (F : Type) [FloatArith F] := {event : ChannelEvent F // event.isPoll = false}

/-- The next step of one of the two cores. -/
inductive FlightEvent (F : Type) [FloatArith F] where
  | outside (event : OutsideEvent F)
  /-- The realtime core goes on; only an iteration looks at the input. -/
  | realtime (input : IterationInput F)

/-- Both cores, with the loop's own variables and the report it is about to publish. -/
structure FlightSystem (F : Type) where
  channel : CommandChannel F
  lastControlUs : Nat
  nextControlDueUs : Nat
  pending : Option (RtReport F)

namespace FlightSystem

/-- The realtime node with the variables of its loop. -/
def loop (s : FlightSystem F) : RunState F where
  node := s.channel.node
  lastControlUs := s.lastControlUs
  nextControlDueUs := s.nextControlDueUs

/-- The input of an iteration whose transport is polled over the shared region. -/
def polledInput (s : FlightSystem F) (input : IterationInput F) : IterationInput F :=
  { input with polled := true, command := s.channel.command }

/-- What an iteration makes of the loop, and the report it has for the transport. -/
def iterated (mix : Mix F) (s : FlightSystem F) (input : IterationInput F) :
    RunState F × Option (RtReport F) :=
  s.loop.iterate mix (s.polledInput input)

/-- An iteration, up to the call that publishes its report. -/
def turn (mix : Mix F) (s : FlightSystem F) (input : IterationInput F) : FlightSystem F where
  channel := { s.channel with
    rt := (s.channel.rt.poll s.channel.region).2
    node := (s.iterated mix input).1.node }
  lastControlUs := (s.iterated mix input).1.lastControlUs
  nextControlDueUs := (s.iterated mix input).1.nextControlDueUs
  pending := (s.iterated mix input).2

/-- The call that publishes the report. -/
def publish (s : FlightSystem F) (report : RtReport F) : FlightSystem F :=
  let published := s.channel.rt.publish s.channel.region report
  { s with
    channel := { s.channel with rt := published.1, region := published.2 }
    pending := none }

/-- One event. -/
def step (mix : Mix F) (s : FlightSystem F) : FlightEvent F → FlightSystem F
  | .outside event => { s with channel := s.channel.step event.1 }
  -- The next iteration comes only after the report of this one is out.
  | .realtime input => s.pending.elim (s.turn mix input) s.publish

/-- What a step outside leaves alone: node, numbers, and the report slot of a marked region. -/
theorem step_outside (s : FlightSystem F) (marked : s.channel.region.wellMarked = true)
    (event : OutsideEvent F) :
    (s.channel.step event.1).node = s.channel.node ∧
      (s.channel.step event.1).rt.reportSeq = s.channel.rt.reportSeq ∧
      (s.channel.step event.1).region.rtReport = s.channel.region.rtReport := by
  obtain ⟨event, outside⟩ := event
  cases sent : s.channel.publication event with
  | none =>
    -- What is no send is a restart that finds its marks, or a doorbell.
    cases event with
    | restart mode =>
      refine ⟨rfl, rfl, ?_⟩
      simp [CommandChannel.step, initializeSharedRegion, marked]
    | doorbell cmdId seqHint => exact ⟨rfl, rfl, rfl⟩
    | poll nowUs => cases outside
    | sendSetpoint setpoint outcome => cases sent
    | sendArm state outcome => cases sent
    | sendHeartbeat monotonicNowUs outcome => cases sent
    | sendEmergencyStop reason outcome => cases sent
    | sendConfig config outcome => cases sent
  | some message =>
    have published := CommandChannel.step_region marked sent
    refine ⟨?_, ?_, ?_⟩
    · cases event <;> first | rfl | cases outside
    · cases event <;> first | rfl | cases outside
    · rw [published]
      cases message.2 <;> rfl

/-- No step takes the marks from the region. -/
theorem step_wellMarked (mix : Mix F) {s : FlightSystem F}
    (marked : s.channel.region.wellMarked = true) (event : FlightEvent F) :
    (s.step mix event).channel.region.wellMarked = true := by
  cases event with
  | outside event => exact CommandChannel.step_wellMarked marked event.1
  | realtime input =>
    -- An iteration reads the region only, and a report goes to its own slot.
    cases waiting : s.pending with
    | none =>
      simp only [step, waiting]
      exact marked
    | some report =>
      simp only [step, waiting]
      exact marked

end FlightSystem

/-- A run of both cores, from where the realtime core enters its loop. -/
structure FlightRun (F : Type) [FloatArith F] where
  linux : MailboxTransport
  heartbeatSeq : UInt32
  /-- What the transport's `init` finds at the mapped address. -/
  found : SharedCommandRegion F
  rt : RtosCmdquIsrTransport
  mix : Mix F
  boot : BootClock
  event : Nat → FlightEvent F

namespace FlightRun

/-- Both cores as the realtime core enters its loop. -/
def start (run : FlightRun F) : FlightSystem F where
  channel :=
    { linux := run.linux
      heartbeatSeq := run.heartbeatSeq
      region := (run.rt.init run.found).2
      rt := (run.rt.init run.found).1
      node := FlightRtNode.constructed.initialised run.boot.initUs }
  lastControlUs := run.boot.bootUs
  nextControlDueUs := (run.boot.bootUs + controlStepUs) % 2 ^ 64
  pending := none

/-- Both cores after `n` events. -/
def after (run : FlightRun F) (n : Nat) : FlightSystem F :=
  stateAt (FlightSystem.step run.mix) run.start run.event n

/-- The input of event `n`, if it is an iteration. -/
def turnInput (run : FlightRun F) (n : Nat) : Option (IterationInput F) :=
  match run.event n with
  | .outside _ => none
  | .realtime input => if (run.after n).pending.isSome then none else some input

/-- The report that event `n` has for the transport. -/
def made (run : FlightRun F) (n : Nat) : Option (RtReport F) :=
  (run.turnInput n).bind fun input => ((run.after n).iterated run.mix input).2

/-- The report that event `n` publishes. -/
def published (run : FlightRun F) (n : Nat) : Option (RtReport F) :=
  match run.event n with
  | .outside _ => none
  | .realtime _ => (run.after n).pending

variable (run : FlightRun F)

/-- The region is marked throughout. -/
theorem after_wellMarked (n : Nat) : (run.after n).channel.region.wellMarked = true := by
  induction n with
  | zero =>
    -- A region found without marks is wiped and marked by `init`.
    show (run.rt.init run.found).2.wellMarked = true
    unfold RtosCmdquIsrTransport.init
    cases marked : run.found.wellMarked with
    | true => exact marked
    | false => rfl
  | succ n ih => exact FlightSystem.step_wellMarked run.mix ih (run.event n)

/-- What one event is: a step outside, an iteration, or the publication of a report. -/
inductive Happens (n : Nat) : Prop where
  | outside (event : OutsideEvent F) (is : run.event n = .outside event)
      (turned : run.turnInput n = none) (silent : run.published n = none)
      (next : run.after (n + 1) =
        { run.after n with channel := (run.after n).channel.step event.1 })
  | turn (input : IterationInput F) (is : run.turnInput n = some input)
      (silent : run.published n = none) (idle : (run.after n).pending = none)
      (next : run.after (n + 1) = (run.after n).turn run.mix input)
  | publish (report : RtReport F) (is : run.published n = some report)
      (turned : run.turnInput n = none) (waiting : (run.after n).pending = some report)
      (next : run.after (n + 1) = (run.after n).publish report)

/-- Every event is one of these. -/
theorem happens (n : Nat) : run.Happens n := by
  have next : run.after (n + 1) = (run.after n).step run.mix (run.event n) :=
    stateAt_succ _ _ _ n
  -- An event of the realtime core publishes a report if one waits, and iterates otherwise.
  cases event : run.event n with
  | outside outside =>
    rw [event] at next
    exact .outside outside event (by simp [turnInput, event]) (by simp [published, event]) next
  | realtime input =>
    rw [event] at next
    cases waiting : (run.after n).pending with
    | none =>
      refine .turn input ?_ ?_ waiting ?_
      · simp [turnInput, event, waiting]
      · simp [published, event, waiting]
      · rw [next, FlightSystem.step, waiting]
        rfl
    | some report =>
      refine .publish report ?_ ?_ waiting ?_
      · simp [published, event, waiting]
      · simp [turnInput, event, waiting]
      · rw [next, FlightSystem.step, waiting]
        rfl

end FlightRun

end AmpFc
