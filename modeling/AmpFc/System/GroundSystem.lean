import AmpFc.Linux.RcOutages
import AmpFc.System.StopChain

/-! The telemetry node on Linux and the flight node on the realtime core, over one region. -/

namespace AmpFc

open MailboxTransport TelemetryState

/-- How far the Linux process is: in front of the boot push, or in a cycle of its loop. -/
inductive LinuxPhase where
  /-- The boot configuration is about to be pushed. -/
  | boot (outcome : SendOutcome)
  | readRc
  | offerTyped
  | offerLoaded
  | answerStop
  | answerArm
  | beat
  deriving DecidableEq, Repr

/-- What may happen next on either side. -/
inductive GroundEvent (F : Type) where
  /-- Linux goes on by one step; only the start of a cycle looks at the input. -/
  | linux (input : TelemetryInput F)
  /-- The Linux process is started again. -/
  | restart (mode : MailboxMode) (startUs : UInt64) (bootOutcome : SendOutcome)
  | doorbell (cmdId : UInt8) (seqHint : UInt32)
  /-- The realtime core goes on by one step. -/
  | realtime (input : IterationInput F)

/-- Both programs: the telemetry node in the middle of its loop, and the cores as they were. -/
structure GroundSystem (F : Type) where
  flight : FlightSystem F
  telemetry : TelemetryState F
  phase : LinuxPhase
  /-- What the running cycle finds; the region in it is not looked at. -/
  input : TelemetryInput F

namespace GroundSystem

variable {F : Type} [FloatArith F]

/-- The region as it is now. -/
def region (s : GroundSystem F) : SharedCommandRegion F := s.flight.channel.region

/-- What a step of the telemetry node leaves behind. -/
def afterLinux (s : GroundSystem F) (left : TelemetryState F × SharedCommandRegion F)
    (phase : LinuxPhase) : GroundSystem F :=
  { s with
    flight := { s.flight with
      channel := { s.flight.channel with
        linux := left.1.node.mailbox, heartbeatSeq := left.1.heartbeatSeq, region := left.2 } }
    telemetry := left.1
    phase := phase }

omit [FloatArith F] in
/-- The telemetry node is the one that was left behind. -/
@[simp] theorem afterLinux_telemetry (s : GroundSystem F)
    (left : TelemetryState F × SharedCommandRegion F) (phase : LinuxPhase) :
    (s.afterLinux left phase).telemetry = left.1 := rfl

omit [FloatArith F] in
/-- So is the region. -/
@[simp] theorem afterLinux_region (s : GroundSystem F)
    (left : TelemetryState F × SharedCommandRegion F) (phase : LinuxPhase) :
    (s.afterLinux left phase).region = left.2 := rfl

omit [FloatArith F] in
/-- What the cycle has found stays. -/
@[simp] theorem afterLinux_input (s : GroundSystem F)
    (left : TelemetryState F × SharedCommandRegion F) (phase : LinuxPhase) :
    (s.afterLinux left phase).input = s.input := rfl

omit [FloatArith F] in
/-- Of two steps of Linux the later one shows. -/
@[simp] theorem afterLinux_again (s : GroundSystem F)
    (first second : TelemetryState F × SharedCommandRegion F) (phase next : LinuxPhase) :
    (s.afterLinux first phase).afterLinux second next = s.afterLinux second next := rfl

/-- The outage has gone on for too long, and was not answered yet. -/
def outage (s : GroundSystem F) : Bool :=
  s.telemetry.rcSeen && decide (s.input.nowUs - s.telemetry.lastRcOkUs > rcTimeoutUs) &&
    !s.telemetry.failsafeSent

/-- A step of the telemetry node, each of which sends one message at most. -/
def linuxStep (s : GroundSystem F) (input : TelemetryInput F) : GroundSystem F :=
  match s.phase with
  | .boot outcome =>
    let pushed := s.telemetry.node.pushConfig s.region defaultFlightConfig outcome
    s.afterLinux ({ s.telemetry with node := pushed.2.1 }, pushed.2.2) .readRc
  | .readRc =>
    -- The clock and the snapshot stay with the cycle.
    { s.afterLinux (s.telemetry.tick.readRc { input with region := s.region }) .offerTyped with
      input := input }
  | .offerTyped => s.afterLinux (s.telemetry.offer s.region s.input.typed) .offerLoaded
  | .offerLoaded => s.afterLinux (s.telemetry.offer s.region s.input.loaded) .answerStop
  | .answerStop =>
    if s.outage then
      let stop := s.telemetry.node.mailbox.sendEmergencyStop s.region 1 s.input.stopOutcome
      s.afterLinux
        ({ s.telemetry with node := { s.telemetry.node with mailbox := stop.2.1 } }, stop.2.2)
        .answerArm
    else { s with phase := .beat }
  | .answerArm =>
    let arm := s.telemetry.node.mailbox.sendArm s.region .failsafe s.input.armOutcome
    s.afterLinux
      ({ s.telemetry with
          node := { s.telemetry.node with mailbox := arm.2.1 }, failsafeSent := true }, arm.2.2)
      .beat
  | .beat => s.afterLinux (s.telemetry.beat s.region s.input) .readRc

/-- One event. -/
def step (mix : Mix F) (s : GroundSystem F) : GroundEvent F → GroundSystem F
  | .linux input => s.linuxStep input
  | .restart mode startUs bootOutcome =>
    { s with
      flight := { s.flight with channel := s.flight.channel.step (.restart mode) }
      telemetry := { node := .constructed { mode := mode }, lastRcOkUs := startUs }
      phase := .boot bootOutcome }
  | .doorbell cmdId seqHint =>
    { s with
      flight := { s.flight with channel := s.flight.channel.step (.doorbell cmdId seqHint) } }
  | .realtime input => { s with flight := s.flight.step mix (.realtime input) }

/-- From the outage on, the rest of a cycle with nothing in between. -/
theorem linuxStep_answer (s : GroundSystem F) (asks : s.phase = .answerStop)
    (input : TelemetryInput F) :
    let answered := s.telemetry.answerTimeout s.region s.input
    ∃ steps, (fun s => linuxStep s input)^[steps] s =
      s.afterLinux (answered.2.1.beat answered.2.2 s.input) .readRc := by
  intro answered
  cases due : s.outage with
  | false =>
    -- Without an outage to answer, the heartbeat is next.
    have quiet : s.linuxStep input = { s with phase := .beat } := by
      simp only [linuxStep, asks, due, Bool.false_eq_true, if_false]
    unfold outage at due
    have none : answered = (none, s.telemetry, s.region) :=
      if_neg (by rw [due]; exact Bool.false_ne_true)
    refine ⟨2, ?_⟩
    show (s.linuxStep input).linuxStep input = _
    rw [quiet, none]
    rfl
  | true =>
    have stopped : s.linuxStep input = s.afterLinux
        ({ s.telemetry with node := { s.telemetry.node with
            mailbox := (s.telemetry.node.mailbox.sendEmergencyStop s.region 1
              s.input.stopOutcome).2.1 } },
          (s.telemetry.node.mailbox.sendEmergencyStop s.region 1 s.input.stopOutcome).2.2)
        .answerArm := by
      simp only [linuxStep, asks, due, if_true]
    have both : answered = _ := if_pos due
    refine ⟨3, ?_⟩
    show ((s.linuxStep input).linuxStep input).linuxStep input = _
    rw [stopped, both]
    rfl

/-- A step of a node whose configuration was typed, or loaded, offers it. -/
theorem linuxStep_offer (s : GroundSystem F) (input : TelemetryInput F) :
    (s.phase = .offerTyped → s.linuxStep input =
        s.afterLinux (s.telemetry.offer s.region s.input.typed) .offerLoaded) ∧
      (s.phase = .offerLoaded → s.linuxStep input =
        s.afterLinux (s.telemetry.offer s.region s.input.loaded) .answerStop) := by
  refine ⟨fun is => ?_, fun is => ?_⟩
  · simp only [linuxStep, is]
  · simp only [linuxStep, is]

/-- The rest of a cycle with nothing in between, once the remote control was read. -/
theorem linuxStep_rest (s : GroundSystem F) (rc : TelemetryState F × SharedCommandRegion F)
    (input : TelemetryInput F) :
    let typed := rc.1.offer rc.2 s.input.typed
    let loaded := typed.1.offer typed.2 s.input.loaded
    let answered := loaded.1.answerTimeout loaded.2 s.input
    ∃ steps, (fun s => linuxStep s input)^[steps] (s.afterLinux rc .offerTyped) =
      s.afterLinux (answered.2.1.beat answered.2.2 s.input) .readRc := by
  intro typed loaded answered
  -- The two offers are a step each, and the answer to an outage follows.
  have second : (s.afterLinux rc .offerTyped).linuxStep input =
      s.afterLinux typed .offerLoaded := by
    rw [(linuxStep_offer _ input).1 rfl, afterLinux_again, afterLinux_telemetry, afterLinux_region,
      afterLinux_input]
  have third : (s.afterLinux typed .offerLoaded).linuxStep input =
      s.afterLinux loaded .answerStop := by
    rw [(linuxStep_offer _ input).2 rfl, afterLinux_again, afterLinux_telemetry, afterLinux_region,
      afterLinux_input]
  obtain ⟨steps, rest⟩ := linuxStep_answer (s.afterLinux loaded .answerStop) rfl input
  refine ⟨steps + 1 + 1, ?_⟩
  rw [Function.iterate_succ_apply, Function.iterate_succ_apply, second, third, rest,
    afterLinux_again, afterLinux_telemetry, afterLinux_region, afterLinux_input]

/-- A cycle with nothing in between is a cycle of the telemetry node. -/
theorem linuxStep_cycle (s : GroundSystem F) (starts : s.phase = .readRc)
    (input : TelemetryInput F) :
    ∃ steps, (fun s => linuxStep s input)^[steps] s = ({ s with input := input }).afterLinux
      (runCycle s.telemetry { input with region := s.region }).2 .readRc := by
  -- Reading the receiver is the first step, and the others start from there.
  have first : s.linuxStep input =
      { s.afterLinux (s.telemetry.tick.readRc { input with region := s.region }) .offerTyped with
        input := input } := by
    simp only [linuxStep, starts]
  unfold runCycle
  generalize s.telemetry.tick.readRc { input with region := s.region } = rc at first ⊢
  obtain ⟨steps, rest⟩ := linuxStep_rest { s with input := input } rc input
  refine ⟨steps + 1, ?_⟩
  rw [Function.iterate_succ_apply, first]
  exact rest

/-- What a step of the telemetry node can send: failsafe is the only arm state, and a stop is the
answer to an outage. -/
def Sent (s : GroundSystem F) : ChannelEvent F → Prop
  | .sendSetpoint _ _ => True
  | .sendArm state _ => state = .failsafe
  | .sendHeartbeat _ _ => True
  | .sendEmergencyStop _ _ => s.phase = .answerStop ∧ s.outage = true
  | .sendConfig _ _ => True
  | .restart _ => False
  | .doorbell _ _ => False
  | .poll _ => False

/-- The channel has the mailbox and the counter of the telemetry node. -/
structure Linked (s : GroundSystem F) : Prop where
  mailbox : s.flight.channel.linux = s.telemetry.node.mailbox
  heartbeats : s.flight.channel.heartbeatSeq = s.telemetry.heartbeatSeq

/-- What one step of Linux is to the two cores: nothing at all, or one message. -/
inductive OneMessage (s : GroundSystem F) (flight : FlightSystem F) : Prop where
  | silent (same : flight = s.flight)
  | sends (event : ChannelEvent F) (is : s.Sent event)
      (next : flight = { s.flight with channel := s.flight.channel.step event })

/-- Nothing left behind is new. -/
theorem oneMessage_silent {s : GroundSystem F} (linked : s.Linked)
    {left : TelemetryState F × SharedCommandRegion F} (phase : LinuxPhase)
    (mailbox : left.1.node.mailbox = s.telemetry.node.mailbox)
    (heartbeats : left.1.heartbeatSeq = s.telemetry.heartbeatSeq) (region : left.2 = s.region) :
    OneMessage s (s.afterLinux left phase).flight := by
  -- What Linux knows and the region are the same on both sides.
  apply OneMessage.silent
  unfold afterLinux
  dsimp only
  rw [mailbox, heartbeats, region, ← linked.mailbox, ← linked.heartbeats]
  rfl

/-- What a message leaves behind is a step of the channel. -/
theorem oneMessage_sends {s : GroundSystem F} {left : TelemetryState F × SharedCommandRegion F}
    (phase : LinuxPhase) (event : ChannelEvent F) (is : s.Sent event)
    (next : s.flight.channel.step event =
      { s.flight.channel with
        linux := left.1.node.mailbox, heartbeatSeq := left.1.heartbeatSeq, region := left.2 }) :
    OneMessage s (s.afterLinux left phase).flight := by
  apply OneMessage.sends event is
  unfold afterLinux
  rw [next]

/-- A push of a configuration changes nothing, or sends the configuration. -/
theorem oneMessage_push {s : GroundSystem F} (linked : s.Linked) (config : FlightConfig F)
    (outcome : SendOutcome) (phase : LinuxPhase) :
    let pushed := s.telemetry.node.pushConfig s.region config outcome
    OneMessage s
      (s.afterLinux ({ s.telemetry with node := pushed.2.1 }, pushed.2.2) phase).flight := by
  intro pushed
  have either : (pushed.2.1.mailbox = s.telemetry.node.mailbox ∧ pushed.2.2 = s.region) ∨
      ∃ candidate, (pushed.2.1.mailbox, pushed.2.2) =
        (s.telemetry.node.mailbox.sendConfig s.region candidate outcome).2 := by
    unfold pushed TelemetryNode.pushConfig
    dsimp only
    -- An unchanged configuration is not sent; the other two exits stand behind the send.
    split_ifs
    · exact Or.inl ⟨rfl, rfl⟩
    · exact Or.inr ⟨_, rfl⟩
    · exact Or.inr ⟨_, rfl⟩
  obtain ⟨mailbox, region⟩ | ⟨candidate, sent⟩ := either
  · exact oneMessage_silent linked phase mailbox rfl region
  · refine oneMessage_sends phase (.sendConfig candidate outcome) trivial ?_
    have left := congrArg Prod.fst sent
    have region := congrArg Prod.snd sent
    dsimp only at left region ⊢
    rw [left, region, ← linked.mailbox, ← linked.heartbeats]
    rfl

/-- A configuration that was read is pushed, and nothing happens without one. -/
theorem oneMessage_offer {s : GroundSystem F} (linked : s.Linked)
    (read : Option (FlightConfig F × SendOutcome)) (phase : LinuxPhase) :
    OneMessage s (s.afterLinux (s.telemetry.offer s.region read) phase).flight := by
  cases read with
  -- Without a text that was read, nothing is pushed.
  | none => exact oneMessage_silent linked phase rfl rfl rfl
  | some offered =>
    have pushed := oneMessage_push linked offered.1 offered.2 phase
    unfold offer
    exact pushed

/-- The setpoint of a snapshot with a link is passed on. -/
theorem oneMessage_readRc {s : GroundSystem F} (linked : s.Linked) (input : TelemetryInput F)
    (phase : LinuxPhase) :
    OneMessage s (s.afterLinux
      (s.telemetry.tick.readRc { input with region := s.region }) phase).flight := by
  -- The tick moves neither the mailbox nor the number of heartbeats.
  have node : s.telemetry.tick.node = s.telemetry.node := by simp only [tick]
  have heartbeats : s.telemetry.tick.heartbeatSeq = s.telemetry.heartbeatSeq := by simp only [tick]
  generalize s.telemetry.tick = ticked at node heartbeats ⊢
  unfold readRc
  dsimp only
  split
  · split
    · refine oneMessage_sends phase (.sendSetpoint input.snapshot.setpoint input.setpointOutcome)
        trivial ?_
      dsimp only
      rw [node, heartbeats, ← linked.mailbox, ← linked.heartbeats]
      rfl
    · exact oneMessage_silent linked phase (congrArg _ node) heartbeats rfl
  · exact oneMessage_silent linked phase (congrArg _ node) heartbeats rfl

/-- A heartbeat that is due takes the next number. -/
theorem oneMessage_beat {s : GroundSystem F} (linked : s.Linked) (input : TelemetryInput F)
    (phase : LinuxPhase) :
    OneMessage s (s.afterLinux (s.telemetry.beat s.region input) phase).flight := by
  unfold beat
  -- A heartbeat is sent when it is due.
  split
  · refine oneMessage_sends phase (.sendHeartbeat input.beatUs input.beatOutcome) trivial ?_
    dsimp only
    rw [← linked.mailbox, ← linked.heartbeats]
    rfl
  · exact oneMessage_silent linked phase rfl rfl rfl

/-- Every step of the telemetry node is one message at most. -/
theorem linuxStep_oneMessage {s : GroundSystem F} (linked : s.Linked) (input : TelemetryInput F) :
    OneMessage s (s.linuxStep input).flight := by
  unfold linuxStep
  -- Every phase of the cycle sends one message at most.
  cases phase : s.phase with
  | boot outcome => exact oneMessage_push linked defaultFlightConfig outcome .readRc
  | readRc =>
    cases oneMessage_readRc linked input .offerTyped with
    | silent same => exact .silent same
    | sends event is next => exact .sends event is next
  | offerTyped => exact oneMessage_offer linked s.input.typed .offerLoaded
  | offerLoaded => exact oneMessage_offer linked s.input.loaded .answerStop
  | answerStop =>
    dsimp only
    split
    · rename_i due
      refine oneMessage_sends .answerArm (.sendEmergencyStop 1 s.input.stopOutcome)
        ⟨phase, due⟩ ?_
      dsimp only
      rw [← linked.mailbox, ← linked.heartbeats]
      rfl
    · exact .silent rfl
  | answerArm =>
    refine oneMessage_sends .beat (.sendArm .failsafe s.input.armOutcome) rfl ?_
    dsimp only
    rw [← linked.mailbox, ← linked.heartbeats]
    rfl
  | beat => exact oneMessage_beat linked s.input .readRc

omit [FloatArith F] in
/-- A step that leaves something behind leaves both sides linked. -/
theorem afterLinux_linked (s : GroundSystem F) (left : TelemetryState F × SharedCommandRegion F)
    (phase : LinuxPhase) : (s.afterLinux left phase).Linked := ⟨rfl, rfl⟩

/-- The channel goes on with the mailbox and the counter of the telemetry node. -/
theorem linuxStep_linked {s : GroundSystem F} (linked : s.Linked) (input : TelemetryInput F) :
    (s.linuxStep input).Linked := by
  unfold linuxStep
  -- Each phase leaves the channel with what the telemetry node knows.
  cases s.phase with
  | answerStop =>
    dsimp only
    split
    · exact afterLinux_linked _ _ _
    · exact ⟨linked.mailbox, linked.heartbeats⟩
  | boot outcome => exact afterLinux_linked _ _ _
  | readRc =>
    dsimp only
    generalize s.telemetry.tick.readRc { input with region := s.region } = read
    exact ⟨rfl, rfl⟩
  | offerTyped => exact afterLinux_linked _ _ _
  | offerLoaded => exact afterLinux_linked _ _ _
  | answerArm => exact afterLinux_linked _ _ _
  | beat => exact afterLinux_linked _ _ _

end GroundSystem

/-- What stands in the arm slot would not release a node. -/
def SharedCommandRegion.Harmless {F : Type} (region : SharedCommandRegion F) : Prop :=
  region.arm.seq = 0 ∨ (ArmState.ofByte region.arm.payload.state ≠ .armed ∧
    ArmState.ofByte region.arm.payload.state ≠ .disarmed)

namespace SharedCommandRegion.Harmless

/-- What is in the slot decides. -/
theorem of_slot {F : Type} {before after : SharedCommandRegion F} (harmless : before.Harmless)
    (same : after.slot .arm = before.slot .arm) : after.Harmless := by
  -- Number and payload of the slot say everything.
  have number := congrArg SharedSlot.seq same
  have payload := SlotMessage.arm.inj (congrArg SharedSlot.payload same)
  unfold Harmless
  rw [show after.arm.seq = before.arm.seq from number, payload]
  exact harmless

variable {F : Type} [FloatArith F] {c : CommandChannel F}

/-- No event but an arm command writes the slot, and failsafe releases nothing. -/
theorem step (harmless : c.region.Harmless) (marked : c.region.wellMarked = true)
    {event : ChannelEvent F}
    (mild : ∀ state outcome, event = .sendArm state outcome → state = .failsafe) :
    (c.step event).region.Harmless := by
  -- Only an arm command changes the slot, and the ones that are sent enter failsafe.
  have slot := CommandChannel.step_slot marked event .arm
  cases event with
  | sendArm state outcome =>
    obtain rfl := mild state outcome rfl
    have payload := SlotMessage.arm.inj (congrArg SharedSlot.payload slot)
    right
    rw [payload]
    decide
  | sendSetpoint setpoint outcome => exact harmless.of_slot slot
  | sendHeartbeat monotonicNowUs outcome => exact harmless.of_slot slot
  | sendEmergencyStop reason outcome => exact harmless.of_slot slot
  | sendConfig config outcome => exact harmless.of_slot slot
  | restart mode => exact harmless.of_slot slot
  | doorbell cmdId seqHint => exact harmless.of_slot slot
  | poll nowUs => exact harmless.of_slot slot

/-- A poll of a slot that is harmless delivers no command that releases. -/
theorem not_releases (harmless : c.region.Harmless) : ¬ c.command.Releases := by
  rintro ⟨arm, delivered, releases⟩
  obtain ⟨unread, rfl⟩ := CommandChannel.arm_held delivered
  rcases harmless with zero | ⟨unarmed, undisarmed⟩
  · -- A slot that was never numbered is not delivered.
    have refused : verifySlot (c.region.slot .arm) = false := verifySlot_unnumbered zero
    unfold CommandChannel.unread accepts at unread
    rw [refused] at unread
    cases unread
  · exact releases.elim unarmed undisarmed

end SharedCommandRegion.Harmless

/-- A run of both programs, from where the realtime core enters its loop. -/
structure GroundRun (F : Type) [FloatArith F] where
  telemetry : TelemetryState F
  phase : LinuxPhase
  input : TelemetryInput F
  /-- What the transport's `init` finds at the mapped address. -/
  found : SharedCommandRegion F
  rt : RtosCmdquIsrTransport
  mix : Mix F
  boot : BootClock
  event : Nat → GroundEvent F
  /-- The telemetry node that used the region before has not armed either. -/
  harmless : found.wellMarked = true → found.Harmless

namespace GroundRun

variable {F : Type} [FloatArith F]

/-- Both programs as the realtime core enters its loop. -/
def start (run : GroundRun F) : GroundSystem F where
  flight :=
    { channel :=
        { linux := run.telemetry.node.mailbox
          heartbeatSeq := run.telemetry.heartbeatSeq
          region := (run.rt.init run.found).2
          rt := (run.rt.init run.found).1
          node := FlightRtNode.constructed.initialised run.boot.initUs }
      lastControlUs := run.boot.bootUs
      nextControlDueUs := (run.boot.bootUs + controlStepUs) % 2 ^ 64
      pending := none }
  telemetry := run.telemetry
  phase := run.phase
  input := run.input

/-- Both programs after `n` events. -/
def after (run : GroundRun F) (n : Nat) : GroundSystem F :=
  stateAt (GroundSystem.step run.mix) run.start run.event n

/-- The realtime node after `n` events. -/
def node (run : GroundRun F) (n : Nat) : FlightRtNode F := (run.after n).flight.channel.node

/-- Event `n` is an iteration of the realtime node. -/
def Turns (run : GroundRun F) (n : Nat) : Prop :=
  (∃ input, run.event n = .realtime input) ∧ (run.after n).flight.pending = none

/-- Event `n` is the emergency stop with which the telemetry node answers an outage. -/
def Stops (run : GroundRun F) (n : Nat) : Prop :=
  (∃ input, run.event n = .linux input) ∧ (run.after n).phase = .answerStop ∧
    (run.after n).outage = true

/-- Event `k` is the first iteration after event `j`, and no other stop is sent in between. -/
structure NextTurn (run : GroundRun F) (j k : Nat) : Prop where
  later : j < k
  turns : run.Turns k
  first : ∀ i, j < i → i < k → ¬ run.Turns i
  kept : ∀ i, j < i → i < k → ¬ run.Stops i

variable (run : GroundRun F)

/-- Each event is a step. -/
theorem after_succ (n : Nat) :
    run.after (n + 1) = (run.after n).step run.mix (run.event n) := stateAt_succ _ _ _ n

/-- The channel has the mailbox and the counter of the telemetry node throughout. -/
theorem after_linked (n : Nat) : (run.after n).Linked := by
  -- The induction is on the events; only those of Linux change either side.
  induction n with
  | zero => exact ⟨rfl, rfl⟩
  | succ n ih =>
    rw [run.after_succ n]
    cases run.event n with
    | linux input => exact GroundSystem.linuxStep_linked ih input
    | restart mode startUs bootOutcome => exact ⟨rfl, rfl⟩
    | doorbell cmdId seqHint => exact ⟨ih.mailbox, ih.heartbeats⟩
    | realtime input =>
      simp only [GroundSystem.step, FlightSystem.step]
      cases (run.after n).flight.pending with
      | none => exact ⟨ih.mailbox, ih.heartbeats⟩
      | some report => exact ⟨ih.mailbox, ih.heartbeats⟩

/-- What an event of the run is to the two cores. -/
inductive Happens (n : Nat) : Prop where
  | silent (idle : ¬ run.Turns n) (next : (run.after (n + 1)).flight = (run.after n).flight)
  | outside (event : OutsideEvent F) (idle : ¬ run.Turns n)
      (mild : ∀ state outcome, event.1 = .sendArm state outcome → state = .failsafe)
      (stop : (run.after n).flight.channel.publishes event.1 .emergencyStop = true → run.Stops n)
      (next : (run.after (n + 1)).flight = (run.after n).flight.step run.mix (.outside event))
  | realtime (input : IterationInput F) (is : run.event n = .realtime input)
      (next : (run.after (n + 1)).flight = (run.after n).flight.step run.mix (.realtime input))

/-- Every event is one of these. -/
theorem happens (n : Nat) : run.Happens n := by
  have next := congrArg GroundSystem.flight (run.after_succ n)
  cases event : run.event n with
  | linux input =>
    rw [event] at next
    have idle : ¬ run.Turns n := by
      rintro ⟨⟨other, is⟩, -⟩
      rw [event] at is
      cases is
    cases GroundSystem.linuxStep_oneMessage (run.after_linked n) input with
    | silent same => exact .silent idle (next.trans same)
    | sends sent is left =>
      have outside : sent.isPoll = false := by
        cases sent <;> first | rfl | cases is
      refine .outside ⟨sent, outside⟩ idle ?_ ?_ (next.trans left)
      · rintro state outcome rfl
        exact is
      · -- Only an emergency stop goes to that slot.
        intro publishes
        cases sent with
        | sendEmergencyStop reason outcome => exact ⟨⟨input, event⟩, is⟩
        | sendSetpoint setpoint outcome => cases publishes
        | sendArm state outcome => cases publishes
        | sendHeartbeat monotonicNowUs outcome => cases publishes
        | sendConfig config outcome => cases publishes
        | restart mode => cases publishes
        | doorbell cmdId seqHint => cases publishes
        | poll nowUs => cases publishes
  | restart mode startUs bootOutcome =>
    rw [event] at next
    refine .outside ⟨.restart mode, rfl⟩ ?_ nofun nofun next
    rintro ⟨⟨other, is⟩, -⟩
    rw [event] at is
    cases is
  | doorbell cmdId seqHint =>
    rw [event] at next
    refine .outside ⟨.doorbell cmdId seqHint, rfl⟩ ?_ nofun nofun next
    rintro ⟨⟨other, is⟩, -⟩
    rw [event] at is
    cases is
  | realtime input =>
    rw [event] at next
    exact .realtime input event next

/-- The region is marked throughout, and nothing in its arm slot would release a node. -/
theorem after_region (n : Nat) : (run.after n).flight.channel.region.wellMarked = true ∧
    (run.after n).flight.channel.region.Harmless := by
  induction n with
  | zero =>
    show (run.rt.init run.found).2.wellMarked = true ∧ (run.rt.init run.found).2.Harmless
    unfold RtosCmdquIsrTransport.init
    -- A region without marks is wiped, and an empty slot is harmless.
    cases marked : run.found.wellMarked with
    | true => exact ⟨marked, run.harmless marked⟩
    | false => exact ⟨rfl, Or.inl rfl⟩
  | succ n ih =>
    obtain ⟨marked, harmless⟩ := ih
    cases run.happens n with
    | silent idle next =>
      rw [next]
      exact ⟨marked, harmless⟩
    | outside event idle mild stop next =>
      rw [next]
      exact ⟨CommandChannel.step_wellMarked marked event.1, harmless.step marked mild⟩
    | realtime input is next =>
      rw [next]
      refine ⟨FlightSystem.step_wellMarked run.mix marked (.realtime input), ?_⟩
      -- The realtime core writes the report slot only.
      unfold FlightSystem.step
      cases (run.after n).flight.pending with
      | none => exact harmless
      | some report => exact harmless

/-- No poll of the run delivers a command that releases. -/
theorem never_releases (n : Nat) : ¬ (run.after n).flight.channel.command.Releases :=
  (run.after_region n).2.not_releases

/-- What every event of the two cores preserves, the run preserves. -/
theorem node_invariant {Inv : FlightRtNode F → Prop} {m n : Nat} (order : m ≤ n)
    (step : ∀ k event, Inv (run.node k) →
      Inv ((run.after k).flight.step run.mix event).channel.node)
    (first : Inv (run.node m)) : Inv (run.node n) := by
  -- The induction is on the later index; Linux alone does not touch the node.
  induction n, order using Nat.le_induction with
  | base => exact first
  | succ n order ih =>
    have steps := step n
    unfold node at ih steps ⊢
    cases run.happens n with
    | silent idle next =>
      rw [next]
      exact ih
    | outside event idle mild stop next =>
      rw [next]
      exact steps (.outside event) ih
    | realtime input is next =>
      rw [next]
      exact steps (.realtime input) ih

/-- The motors stay quiet unless the node is armed. -/
theorem node_quiet (n : Nat) : FlightRtNode.Quiet (run.node n) :=
  run.node_invariant (Nat.zero_le n)
    (fun k event quiet => FlightSystem.step_quiet run.mix (run.after_region k).1 quiet event)
    (FlightRtNode.Quiet.initialised run.boot.initUs rfl)

/-- A locked node stays locked. -/
theorem node_locked {m n : Nat} (order : m ≤ n) (locked : Locked (run.node m)) :
    Locked (run.node n) :=
  run.node_invariant order
    (fun k event locked => FlightSystem.step_locked run.mix (run.after_region k).1 locked
      (run.never_releases k) event)
    locked

/-- The stop that answers an outage waits to be read, if it is numbered above the last one. -/
theorem unread_of_stops {j : Nat} (stops : run.Stops j)
    (above : (run.after j).flight.channel.rt.last.emergency <
      (run.after j).telemetry.node.mailbox.emergencySeq + 1) :
    (run.after (j + 1)).flight.channel.unread .emergencyStop = true := by
  -- The step publishes the stop, numbered one above the last.
  obtain ⟨⟨input, event⟩, asks, due⟩ := stops
  have next := run.after_succ j
  rw [event, GroundSystem.step] at next
  unfold GroundSystem.linuxStep at next
  rw [asks] at next
  dsimp only at next
  rw [if_pos due] at next
  have linked := run.after_linked j
  have sent : (run.after (j + 1)).flight.channel = (run.after j).flight.channel.step
      (.sendEmergencyStop 1 (run.after j).input.stopOutcome) := by
    rw [next]
    unfold GroundSystem.afterLinux
    dsimp only
    rw [← linked.mailbox, ← linked.heartbeats]
    rfl
  have published : (run.after j).flight.channel.publication
      (.sendEmergencyStop 1 (run.after j).input.stopOutcome) =
        some ((run.after j).flight.channel.linux.emergencySeq + 1,
          .emergencyStop { reason := 1 }) := rfl
  rw [sent]
  refine (CommandChannel.step_unread_published (run.after_region j).1 published).mpr ?_
  rw [linked.mailbox]
  exact above

/-- It keeps waiting up to the next iteration. -/
theorem unread_until {j k : Nat} (turn : run.NextTurn j k)
    (waiting : (run.after (j + 1)).flight.channel.unread .emergencyStop = true) :
    ∀ i, j < i → i ≤ k → (run.after i).flight.channel.unread .emergencyStop = true := by
  intro i after below
  -- The induction is on the index; neither another stop nor an iteration comes before `k`.
  induction i, after using Nat.le_induction with
  | base => exact waiting
  | succ i after ih =>
    have before := ih (by omega)
    cases run.happens i with
    | silent idle next =>
      rw [next]
      exact before
    | outside event idle mild stop next =>
      have quiet : (run.after i).flight.channel.publishes event.1 .emergencyStop = false := by
        cases publishes : (run.after i).flight.channel.publishes event.1 .emergencyStop with
        | false => rfl
        | true => exact absurd (stop publishes) (turn.kept i after (by omega))
      rw [next]
      show ((run.after i).flight.channel.step event.1).unread .emergencyStop = true
      rw [CommandChannel.step_unread (run.after_region i).1 quiet, before, event.2]
      rfl
    | realtime input is next =>
      rw [next]
      cases waits : (run.after i).flight.pending with
      | none => exact absurd ⟨⟨input, is⟩, waits⟩ (turn.first i after (by omega))
      | some report =>
        unfold FlightSystem.step
        rw [waits]
        exact before

/-- What the telemetry node and the realtime node make of an outage between them. -/
structure FailsafeHolds : Prop where
  /-- No poll delivers a command that could release the motors again. -/
  unreleased : ∀ n, ¬ (run.after n).flight.channel.command.Releases
  /-- A node that is in failsafe, for whatever reason, keeps its motors idle from then on. -/
  terminal : ∀ m n, m ≤ n → Locked (run.node m) →
    Locked (run.node n) ∧ (run.node n).actuator.lastPwm = idlePwm
  /-- From the iteration that finds the answer to an outage on the motors are idle. -/
  answered : ∀ j k, run.Stops j → (run.after j).flight.channel.rt.last.emergency <
      (run.after j).telemetry.node.mailbox.emergencySeq + 1 → run.NextTurn j k →
    ∀ n, k < n → Locked (run.node n) ∧ (run.node n).actuator.lastPwm = idlePwm

/-- With the telemetry node as the only program on Linux failsafe is final: over any interleaving of
both programs, with any restarts and doorbells, a node that is in failsafe idles its motors for the
rest of the run, and an answered outage brings it there. -/
theorem failsafe_holds : run.FailsafeHolds := by
  have idles : ∀ n, Locked (run.node n) → (run.node n).actuator.lastPwm = idlePwm :=
    fun n locked => (run.node_quiet n).idle locked.1
  refine ⟨run.never_releases, ?_, ?_⟩
  · intro m n order locked
    have still := run.node_locked order locked
    exact ⟨still, idles n still⟩
  · intro j k stops above turn n later
    -- The stop waits until the next iteration, which polls it and locks the node.
    have waiting := run.unread_until turn (run.unread_of_stops stops above) k turn.later le_rfl
    have locked : Locked (run.node (k + 1)) := by
      obtain ⟨⟨input, is⟩, idle⟩ := turn.turns
      unfold node
      rw [run.after_succ k, is, GroundSystem.step, FlightSystem.step, idle]
      exact FlightSystem.turn_stopped run.mix waiting input
    have still := run.node_locked later locked
    exact ⟨still, idles n still⟩

/-- What a cycle finds on the bench, at some clock and with or without a link. -/
def benchCycle (nowUs : UInt64) (linkOk : Bool) : TelemetryInput ℚ where
  nowUs := nowUs
  snapshot := ⟨linkOk, SharedCommandRegion.zeroed.setpoint.payload⟩
  region := MailboxTransport.freshRegion
  typed := none
  loaded := none
  setpointOutcome := ⟨true, true⟩
  stopOutcome := ⟨true, true⟩
  armOutcome := ⟨true, true⟩
  beatUs := nowUs
  beatOutcome := ⟨true, true⟩

/-- A pilot flies, and the remote control of the telemetry node is lost after its first cycle. -/
def outageBench : GroundRun ℚ where
  telemetry := { node := .constructed { mode := .live }, lastRcOkUs := 0 }
  phase := .boot ⟨true, true⟩
  input := benchCycle 0 true
  found := MailboxTransport.freshRegion
  rt := .constructed
  mix := Controller.mix
  boot := ⟨500, 600⟩
  event n :=
    -- The boot push and a whole cycle, then a cycle that finds no link for 300 ms.
    if n < 6 then .linux (benchCycle 0 true)
    else if 18 ≤ n ∧ n < 22 then .linux (benchCycle 300000 false)
    else
      .realtime (benchIteration (1000 * (n + 1)) {} (flightFrame (if n < 12 then 1000 else 1500)))
  harmless _ := Or.inl rfl

/-- The motors that turn in the outage are idle from the iteration behind its answer on. -/
theorem failsafe_holds_outage : outageBench.Stops 21 ∧
    (∃ motor : Fin 4, (outageBench.node 21).actuator.lastPwm.get motor > 1000) ∧
    ∀ n, 22 < n → Locked (outageBench.node n) ∧
      (outageBench.node n).actuator.lastPwm = idlePwm := by
  -- The link was lost before, and iteration 22 is the next one.
  have stops : outageBench.Stops 21 :=
    ⟨⟨_, rfl⟩, by decide +kernel, by decide +kernel⟩
  have turn : outageBench.NextTurn 21 22 :=
    ⟨by decide, ⟨⟨_, rfl⟩, by decide +kernel⟩, fun i _ _ => by omega, fun i _ _ => by omega⟩
  have above : (outageBench.after 21).flight.channel.rt.last.emergency <
      (outageBench.after 21).telemetry.node.mailbox.emergencySeq + 1 := by decide +kernel
  exact ⟨stops, ⟨0, by decide +kernel⟩,
    outageBench.failsafe_holds.answered 21 22 stops above turn⟩

end GroundRun

end AmpFc
