import AmpFc.Rt.MotorOutput
import AmpFc.System.ReportSlot

/-! An emergency stop from Linux to the motors, and what it takes to move them again. -/

namespace AmpFc

open FlightRtNode

variable {F : Type} [FloatArith F]

/-- A node that neither is armed nor can be armed by the pilot's switch. -/
def Locked (node : FlightRtNode F) : Prop :=
  node.controller.armState ≠ .armed ∧ node.controller.armState ≠ .disarmed

/-- The command sets an arm state from which motors can move, or which arms right away. -/
def IncomingCommand.Releases (command : IncomingCommand F) : Prop :=
  ∃ arm, command.arm = some arm ∧
    (ArmState.ofByte arm.state = .armed ∨ ArmState.ofByte arm.state = .disarmed)

namespace Locked

variable {node : FlightRtNode F}

omit [FloatArith F] in
/-- Failsafe is such a state. -/
theorem of_failsafe (failsafe : node.controller.armState = .failsafe) : Locked node := by
  unfold Locked
  rw [failsafe]
  exact ⟨nofun, nofun⟩

/-- Entering failsafe locks a node. -/
theorem enterFailsafe (node : FlightRtNode F) : Locked node.enterFailsafe :=
  of_failsafe (enterFailsafe_armState node)

omit [FloatArith F] in
/-- Whatever keeps the arm state keeps a node locked. -/
theorem of_same {other : FlightRtNode F} (locked : Locked node)
    (state : other.controller.armState = node.controller.armState) : Locked other := by
  unfold Locked
  rw [state]
  exact locked

/-- A command that stops or does not release leaves the node locked. -/
theorem pollTransport (locked : Locked node) {input : IterationInput F}
    (held : input.command.emergencyStop = true ∨ ¬ input.command.Releases) :
    Locked (node.pollTransport input) := by
  unfold Locked
  rw [pollTransport_armState]
  unfold commandedArm
  cases stop : input.command.emergencyStop with
  | true => exact ⟨nofun, nofun⟩
  | false =>
    cases arm : input.command.arm with
    | none =>
      -- Without an arm command the node stays as it was, or a failed poll enters failsafe.
      cases input.polled with
      | true => exact locked
      | false => exact ⟨nofun, nofun⟩
    | some arm' =>
      have unreleased := held.resolve_left (by simp [stop])
      exact ⟨fun armed => unreleased ⟨arm', arm, Or.inl armed⟩,
        fun disarmed => unreleased ⟨arm', arm, Or.inr disarmed⟩⟩

/-- A command that stops locks any node. -/
theorem of_stop (node : FlightRtNode F) {input : IterationInput F}
    (stop : input.command.emergencyStop = true) : Locked (node.pollTransport input) := by
  apply of_failsafe
  rw [pollTransport_armState]
  unfold commandedArm
  rw [if_pos stop]

/-- The switch arms a disarmed node only, and disarms an armed one only. -/
theorem applyArmSwitch (locked : Locked node) (sample : ReceiverSample) :
    Locked (node.applyArmSwitch sample) := by
  obtain ⟨unarmed, undisarmed⟩ := locked
  -- The switch counts in the armed and the disarmed state only.
  have same : node.applyArmSwitch sample = node := by
    unfold FlightRtNode.applyArmSwitch
    simp [unarmed, undisarmed]
  rw [same]
  exact ⟨unarmed, undisarmed⟩

/-- Nothing that the receiver reports unlocks a node. -/
theorem pollReceiver (locked : Locked node) (input : IterationInput F) :
    Locked (node.pollReceiver input) := by
  have heard : Locked { node with
      receiver := (node.receiver.poll input.rx input.linkUs).1 } := locked.of_same rfl
  cases polled : (node.receiver.poll input.rx input.linkUs).2 with
  | none =>
    simp only [FlightRtNode.pollReceiver, polled, Option.elim]
    exact enterFailsafe _
  | some sample =>
    simp only [FlightRtNode.pollReceiver, polled, Option.elim]
    unfold FlightRtNode.applyReceiver
    -- Failsafe locks, no link changes nothing, and the switch is of no use.
    split
    · exact enterFailsafe _
    · split
      · exact heard
      · exact (heard.applyArmSwitch sample).of_same rfl

/-- An iteration whose command does not release leaves a locked node locked. -/
theorem iterate {s : RunState F} (mix : Mix F) {input : IterationInput F}
    (locked : Locked (s.node.pollTransport input)) : Locked (s.iterate mix input).1.node := by
  have heard := locked.pollReceiver input
  have checked : Locked (s.node.beforeControl input) := by
    -- The timeouts are those of an armed node.
    unfold beforeControl
    rw [checkTimeouts_unarmed heard.1]
    exact heard
  rcases RunState.iterate_node_cases mix s input with
    ⟨-, same⟩ | ⟨-, -, failed⟩ | ⟨-, attitude, dtS, -, stepped⟩
  · exact same ▸ checked
  · exact failed ▸ enterFailsafe _
  · rw [stepped]
    exact checked.of_same (control_armState mix _ attitude dtS input.reportUs)

end Locked

namespace FlightSystem

/-- An iteration whose command does not release leaves a locked node locked. -/
theorem turn_locked (mix : Mix F) {s : FlightSystem F} (locked : Locked s.channel.node)
    (held : ¬ s.channel.command.Releases) (input : IterationInput F) :
    Locked (s.turn mix input).channel.node := by
  have polled : Locked (s.loop.node.pollTransport (s.polledInput input)) :=
    locked.pollTransport (Or.inr held)
  exact polled.iterate mix

/-- An iteration that finds a stop waiting locks the node. -/
theorem turn_stopped (mix : Mix F) {s : FlightSystem F}
    (waiting : s.channel.unread .emergencyStop = true) (input : IterationInput F) :
    Locked (s.turn mix input).channel.node := by
  -- A stop that is unread is delivered by the poll.
  have stop : s.channel.command.emergencyStop = true := by
    rw [CommandChannel.command_emergencyStop]
    exact waiting
  have polled : Locked (s.loop.node.pollTransport (s.polledInput input)) := Locked.of_stop _ stop
  exact polled.iterate mix

/-- Nothing but an iteration whose command releases unlocks a node. -/
theorem step_locked (mix : Mix F) {s : FlightSystem F}
    (marked : s.channel.region.wellMarked = true) (locked : Locked s.channel.node)
    (held : ¬ s.channel.command.Releases) (event : FlightEvent F) :
    Locked (s.step mix event).channel.node := by
  -- Linux does not touch the node, and neither does publishing.
  cases event with
  | outside event =>
    have same := (FlightSystem.step_outside s marked event).1
    exact same ▸ locked
  | realtime input =>
    unfold FlightSystem.step
    cases s.pending with
    | none => exact turn_locked mix locked held input
    | some report => exact locked

end FlightSystem

namespace CommandChannel

/-- An arm command that is delivered stands in the arm slot. -/
theorem arm_held {c : CommandChannel F} {arm : CommandArm}
    (delivered : c.command.arm = some arm) :
    c.unread .arm = true ∧ c.region.arm.payload = arm := by
  have calm : c.command.emergencyStop = false := by
    cases stop : c.command.emergencyStop with
    | false => rfl
    | true =>
      -- With a stop the command holds nothing else.
      rw [command_of_stop stop] at delivered
      cases delivered
  have reported := (@reports_iff_held F _ c (.arm arm) nofun calm).mp delivered
  split at reported
  · rename_i unread
    exact ⟨unread, SlotMessage.arm.inj (Option.some.inj reported)⟩
  · cases reported

end CommandChannel

namespace FlightRun

variable (run : FlightRun F)

/-- Event `n` is an iteration whose command releases the node. -/
def Releases (n : Nat) : Prop :=
  (run.turnInput n).isSome = true ∧ (run.after n).channel.command.Releases

/-- What event `n` sends to the shared region. -/
def sends (n : Nat) : Option (UInt32 × SlotMessage F) :=
  match run.event n with
  | .outside event => (run.after n).channel.publication event.1
  | .realtime _ => none

/-- Event `k` is the first iteration after event `j`, and no other stop is sent in between. -/
structure NextTurn (j k : Nat) : Prop where
  later : j < k
  turns : (run.turnInput k).isSome = true
  first : ∀ i, j < i → i < k → run.turnInput i = none
  kept : ∀ i, j < i → i < k → ∀ seq message, run.sends i = some (seq, message) →
    message.kind ≠ .emergencyStop

/-- A locked node stays locked until an iteration releases it. -/
theorem locked_until {m n : Nat} (order : m ≤ n) (locked : Locked (run.after m).channel.node)
    (unreleased : ∀ i, m ≤ i → i < n → ¬ run.Releases i) : Locked (run.after n).channel.node := by
  -- The induction is on the later index, of whose events only iterations reach the node.
  induction n, order using Nat.le_induction with
  | base => exact locked
  | succ n order ih =>
    have before := ih (fun i from_ below => unreleased i from_ (by omega))
    cases run.happens n with
    | outside event is turned silent next =>
      rw [next]
      have same := (FlightSystem.step_outside _ (run.after_wellMarked n) event).1
      exact same ▸ before
    | turn input is silent idle next =>
      rw [next]
      have held : ¬ (run.after n).channel.command.Releases := fun releases =>
        unreleased n order (Nat.lt_succ_self n) ⟨by rw [is]; rfl, releases⟩
      exact FlightSystem.turn_locked run.mix before held input
    | publish report is turned waiting next =>
      rw [next]
      exact before

/-- A slot holds what was sent to it last, or else what `init` left there. -/
theorem slot_source (n : Nat) (kind : SlotKind) :
    (run.after n).channel.region.slot kind = run.start.channel.region.slot kind ∨
      ∃ j < n, ∃ seq message, run.sends j = some (seq, message) ∧ message.kind = kind ∧
        (run.after n).channel.region.slot kind = MailboxTransport.publishSlot seq message := by
  -- The induction is on the events, of which only Linux's publications fill a slot.
  induction n with
  | zero => exact Or.inl rfl
  | succ n ih =>
    have earlier : (run.after (n + 1)).channel.region.slot kind =
        (run.after n).channel.region.slot kind →
        (run.after (n + 1)).channel.region.slot kind = run.start.channel.region.slot kind ∨
          ∃ j < n + 1, ∃ seq message, run.sends j = some (seq, message) ∧ message.kind = kind ∧
            (run.after (n + 1)).channel.region.slot kind =
              MailboxTransport.publishSlot seq message := by
      intro same
      rw [same]
      rcases ih with first | ⟨j, below, sent⟩
      · exact Or.inl first
      · exact Or.inr ⟨j, by omega, sent⟩
    cases run.happens n with
    | outside event is turned silent next =>
      have same : (run.after (n + 1)).channel.region.slot kind =
          ((run.after n).channel.step event.1).region.slot kind := by rw [next]
      have step := CommandChannel.step_slot (run.after_wellMarked n) event.1 kind
      have sends : run.sends n = (run.after n).channel.publication event.1 := by
        simp [FlightRun.sends, is]
      rw [← same, ← sends] at step
      cases sent : run.sends n with
      | none =>
        rw [sent] at step
        exact earlier step
      | some pair =>
        obtain ⟨seq, message⟩ := pair
        rw [sent] at step
        by_cases own : message.kind = kind
        · exact Or.inr ⟨n, by omega, seq, message, sent, own, step.trans (if_pos own)⟩
        · exact earlier (step.trans (if_neg own))
    | turn input is silent idle next =>
      apply earlier
      rw [next]
      rfl
    | publish report is turned waiting next =>
      apply earlier
      rw [next]
      cases kind <;> rfl

/-- A stop that was just sent waits to be read, if its number is above the last one accepted. -/
theorem unread_of_sends {j : Nat} {seq : UInt32} {message : SlotMessage F}
    (sent : run.sends j = some (seq, message))
    (above : (run.after j).channel.rt.last.get message.kind < seq) :
    (run.after (j + 1)).channel.unread message.kind = true := by
  -- Only an event outside the loop publishes for Linux.
  cases run.happens j with
  | outside event is turned silent next =>
    have published : (run.after j).channel.publication event.1 = some (seq, message) := by
      simpa [sends, is] using sent
    rw [next]
    exact (CommandChannel.step_unread_published (run.after_wellMarked j) published).mpr above
  | turn input is silent idle next =>
    unfold turnInput at is
    unfold sends at sent
    split at is
    · cases is
    · rename_i event
      rw [event] at sent
      cases sent
  | publish report is turned waiting next =>
    unfold published at is
    unfold sends at sent
    split at is
    · cases is
    · rename_i event
      rw [event] at sent
      cases sent

/-- It keeps waiting up to the next iteration. -/
theorem unread_until {j k : Nat} (next : run.NextTurn j k)
    (waiting : (run.after (j + 1)).channel.unread .emergencyStop = true) :
    ∀ i, j < i → i ≤ k → (run.after i).channel.unread .emergencyStop = true := by
  intro i after below
  -- The induction is on the index; neither another stop nor an iteration comes before `k`.
  induction i, after using Nat.le_induction with
  | base => exact waiting
  | succ i after ih =>
    have before := ih (by omega)
    cases run.happens i with
    | outside event is turned silent next' =>
      have quiet : (run.after i).channel.publishes event.1 .emergencyStop = false := by
        unfold CommandChannel.publishes
        cases sent : (run.after i).channel.publication event.1 with
        | none => rfl
        | some pair =>
          have sends : run.sends i = some (pair.1, pair.2) := by simp [FlightRun.sends, is, sent]
          simpa using next.kept i after (by omega) pair.1 pair.2 sends
      rw [next']
      show ((run.after i).channel.step event.1).unread .emergencyStop = true
      rw [CommandChannel.step_unread (run.after_wellMarked i) quiet, before, event.2]
      rfl
    | turn input is silent idle next' =>
      rw [next.first i after (by omega)] at is
      cases is
    | publish report is turned waiting next' =>
      rw [next']
      exact before

/-- What holds between an emergency stop and the motors, in every run of both cores. -/
structure StopChain : Prop where
  /-- A stop that is numbered above the last one accepted is obeyed by the next iteration. -/
  obeyed : ∀ j k seq message, run.sends j = some (seq, message) →
    message.kind = .emergencyStop → (run.after j).channel.rt.last.emergency < seq →
    run.NextTurn j k → Locked (run.after (k + 1)).channel.node
  /-- Failsafe enters such a state for whatever reason, and its motors idle until a release. -/
  held : ∀ m n, m ≤ n → Locked (run.after m).channel.node →
    (∀ i, m ≤ i → i < n → ¬ run.Releases i) →
    Locked (run.after n).channel.node ∧ (run.after n).channel.node.actuator.lastPwm = idlePwm
  /-- What releases is an arm command that Linux sent, or that `init` found in the region. -/
  sent : ∀ i, run.Releases i → ∃ arm, (run.after i).channel.command.arm = some arm ∧
    (run.start.channel.region.arm.payload = arm ∨
      ∃ j < i, ∃ seq, run.sends j = some (seq, .arm arm))

/-- A stop chain from end to end, over any interleaving of Linux and the realtime core. -/
theorem stop_chain : run.StopChain := by
  refine ⟨?_, ?_, ?_⟩
  · intro j k seq message sent kind above next
    have waiting : (run.after (j + 1)).channel.unread .emergencyStop = true := by
      rw [← kind]
      refine run.unread_of_sends sent ?_
      rw [kind]
      exact above
    have unread := run.unread_until next waiting k next.later le_rfl
    cases run.happens k with
    | outside event is turned silent next' =>
      have turns := next.turns
      rw [turned] at turns
      cases turns
    | turn input is silent idle next' =>
      rw [next']
      exact FlightSystem.turn_stopped run.mix unread input
    | publish report is turned waiting next' =>
      have turns := next.turns
      rw [turned] at turns
      cases turns
  · intro m n order locked unreleased
    have still := run.locked_until order locked unreleased
    -- A node that is not armed told its motors to idle.
    exact ⟨still, (run.after_quiet n).idle still.1⟩
  · rintro i ⟨-, arm, delivered, -⟩
    refine ⟨arm, delivered, ?_⟩
    -- What a poll reports of an arm command is what the arm slot holds.
    have held := (CommandChannel.arm_held delivered).2
    rcases run.slot_source i .arm with first | ⟨j, below, seq, message, sent, kind, slot⟩
    · left
      have same := congrArg SharedSlot.payload first
      exact (SlotMessage.arm.inj same).symm.trans held
    · right
      refine ⟨j, below, seq, ?_⟩
      have same := congrArg SharedSlot.payload slot
      have own : message = .arm arm := by
        rw [← held]
        exact same.symm
      rw [sent, own]

/-- A pilot who flies from the first iteration on, while Linux sends one stop. -/
def stopBench : FlightRun ℚ where
  linux := { mode := .live }
  heartbeatSeq := 0
  found := MailboxTransport.freshRegion
  rt := .constructed
  mix := Controller.mix
  boot := ⟨500, 600⟩
  event n :=
    if n = 11 then .outside ⟨.sendEmergencyStop 1 ⟨true, true⟩, rfl⟩
    else if n = 13 then .outside ⟨.doorbell 0x33 1, rfl⟩
    else .realtime (benchIteration (1000 * (n + 1)) {} (flightFrame (if n < 8 then 1000 else 1500)))

/-- The iteration of event 14 is the first one behind the stop, after a report that was waiting. -/
theorem stopBench_nextTurn : stopBench.NextTurn 11 14 := by
  -- Only a report and a heartbeat lie between.
  refine ⟨by decide, by decide +kernel, ?_, ?_⟩
  · intro i after before
    obtain rfl | rfl : i = 12 ∨ i = 13 := by omega
    · decide +kernel
    · rfl
  · intro i after before seq message sent
    obtain rfl | rfl : i = 12 ∨ i = 13 := by omega
    · cases sent
    · cases sent

/-- The motors that turn when the stop is sent are idle behind the next iteration. -/
theorem stop_chain_bench :
    (∃ motor : Fin 4,
      (stopBench.after 11).channel.node.actuator.lastPwm.get motor > 1000) ∧
    Locked (stopBench.after 15).channel.node ∧
    (stopBench.after 15).channel.node.actuator.lastPwm = idlePwm := by
  -- The stop is the first one, and number one is above none.
  have sent : stopBench.sends 11 = some (1, .emergencyStop { reason := 1 }) := by
    show (stopBench.after 11).channel.publication (.sendEmergencyStop 1 ⟨true, true⟩) = _
    have first : (stopBench.after 11).channel.linux.emergencySeq = 0 := by decide +kernel
    unfold CommandChannel.publication
    rw [first]
    rfl
  have unread : (stopBench.after 11).channel.rt.last.emergency < 1 := by decide +kernel
  have locked := stopBench.stop_chain.obeyed 11 14 _ _ sent rfl unread stopBench_nextTurn
  exact ⟨⟨0, by decide +kernel⟩,
    stopBench.stop_chain.held 15 15 le_rfl locked fun i _ _ => by omega⟩

end FlightRun

end AmpFc
