import AmpFc.Rt.NodeSteps
import AmpFc.System.SlotReading

/-! What an emergency stop is worth against the arm commands that Linux sent before it. -/

namespace AmpFc

open RtosCmdquIsrTransport

variable {F : Type} [FloatArith F]

namespace CommandChannel

/-- A poll reports an arm command exactly if it looks at one that is unread. -/
theorem command_arm (c : CommandChannel F) :
    c.command.arm =
      if c.looks .arm && c.unread .arm then some c.region.arm.payload else none := by
  -- A reported stop is all that such a poll reports.
  cases stop : c.command.emergencyStop with
  | true =>
    rw [command_of_stop stop]
    simp [looks, stop]
  | false =>
    rw [(poll_of_no_stop stop).1]
    have looked : c.looks .arm = true := by simp [looks, stop]
    rw [looked]
    exact takeSlot_payload c.region.arm c.rt.last.arm

/-- Only polls change the arm state: a stop comes first, then an unread arm command. -/
theorem step_armState (c : CommandChannel F) (event : ChannelEvent F) :
    (c.step event).node.controller.armState =
      if !event.isPoll then c.node.controller.armState
      else if c.command.emergencyStop then .failsafe
      else if c.unread .arm then .ofByte c.region.arm.payload.state
      else c.node.controller.armState := by
  -- Linux, its restarts, and its doorbells do not reach the node by themselves.
  cases event with
  | poll nowUs =>
    show (c.node.applyCommand c.command nowUs).controller.armState = _
    rw [FlightRtNode.applyCommand_armState, command_arm]
    cases stop : c.command.emergencyStop with
    | true => rfl
    | false =>
      cases waiting : c.unread .arm with
      | true => simp [looks, stop, ChannelEvent.isPoll]
      | false => simp [ChannelEvent.isPoll]
  | sendSetpoint setpoint outcome => rfl
  | sendArm state outcome => rfl
  | sendHeartbeat monotonicNowUs outcome => rfl
  | sendEmergencyStop reason outcome => rfl
  | sendConfig config outcome => rfl
  | restart mode => rfl
  | doorbell cmdId seqHint => rfl

omit [FloatArith F] in
/-- A poll publishes nothing. -/
theorem publishes_of_poll (c : CommandChannel F) {event : ChannelEvent F} (kind : SlotKind)
    (polls : event.isPoll = true) : c.publishes event kind = false := by
  cases event with
  | poll nowUs => rfl
  | _ => cases polls

end CommandChannel

namespace ChannelRun

/-- Poll `p` takes the emergency stop that event `s` published. -/
structure TakesStop (run : ChannelRun F) (s p : Nat) : Prop where
  polls : (run.event p).isPoll = true
  reported : (run.after p).command.emergencyStop = true
  published : run.publishedAt .emergencyStop p = some s

/-- Poll `q` delivers an arm command that was published after event `s`. -/
structure DeliversNewArm (run : ChannelRun F) (s q : Nat) : Prop where
  polls : (run.event q).isPoll = true
  delivered : (run.after q).command.arm.isSome = true
  newer : ∃ k, run.publishedAt .arm q = some k ∧ s < k

/--
An emergency stop holds.

Once taken, it keeps the node in failsafe until an arm command published after it is delivered.
-/
def StopHolds (run : ChannelRun F) : Prop :=
  ∀ s p n, run.TakesStop s p → p < n → (∀ q, p < q → q < n → ¬ run.DeliversNewArm s q) →
    (run.after n).node.controller.armState = .failsafe

/--
A poll takes an emergency stop and leaves an older arm command behind.

The arm command is unread when the stop is taken, it asks for something else than failsafe,
and it is still the newest one when a poll looks at its slot for the first time after the stop.
-/
structure LeavesArm (run : ChannelRun F) (s p q : Nat) : Prop where
  stop : run.TakesStop s p
  unread : run.unread .arm p = true
  older : ∀ k, run.publishedAt .arm p = some k → k ≤ s
  moves : ArmState.ofByte (run.after p).region.arm.payload.state ≠ .failsafe
  next : run.NextLook .arm p q

/-- The arm slot's content, read off the slot of its kind. -/
theorem armPayload_kept (run : ChannelRun F) {p n : Nat} (order : p ≤ n)
    (silent : ∀ j, p ≤ j → j < n → run.publishes .arm j = false) :
    (run.after n).region.arm.payload = (run.after p).region.arm.payload := by
  have same := congrArg SharedSlot.payload (run.slot_kept order silent)
  exact SlotMessage.arm.inj same

/-- A poll that reports a stop does not look at the arm slot. -/
theorem looks_of_stop (run : ChannelRun F) {p : Nat}
    (reported : (run.after p).command.emergencyStop = true) : run.looks .arm p = false := by
  simp [looks, CommandChannel.looks, reported]

/-- An arm command left behind ends the failsafe that the stop commanded. -/
theorem armState_of_leavesArm (run : ChannelRun F) {s p q : Nat} (left : run.LeavesArm s p q) :
    (∀ j, p < j → j < q + 1 → ¬ run.DeliversNewArm s j) ∧
      (run.after (q + 1)).node.controller.armState ≠ .failsafe := by
  -- Poll `p` publishes nothing itself, so the slot is untouched from `p` up to `q`.
  have silent : ∀ j, p ≤ j → j < q → run.publishes .arm j = false := by
    intro j from_ below
    rcases Nat.eq_or_lt_of_le from_ with same | after
    · exact same ▸ CommandChannel.publishes_of_poll _ _ left.stop.polls
    · exact left.next.kept j after below
  have order : p ≤ q := Nat.le_of_lt left.next.later
  constructor
  · -- Up to poll `q` the slot holds what it held when the stop was taken.
    intro j after below new
    obtain ⟨k, held, newer⟩ := new.newer
    have kept := run.publishedAt_kept (Nat.le_of_lt after)
      (fun i from_ under => silent i from_ (by omega))
    rw [kept] at held
    have bound := left.older k held
    omega
  -- Still unread at poll `q`, the old command is delivered there.
  · have waiting : run.unread .arm q = true := by
      rw [run.unread_iff order silent]
      refine ⟨left.unread, fun j from_ below => ?_⟩
      rcases Nat.eq_or_lt_of_le from_ with same | after
      · exact same ▸ run.looks_of_stop left.stop.reported
      · exact left.next.first j after below
    obtain ⟨polls, looked⟩ := Bool.and_eq_true_iff.mp left.next.looks
    have calm := CommandChannel.no_stop_of_looks looked nofun
    have taken : (run.after q).unread .arm = true := waiting
    show ((run.after q).step (run.event q)).node.controller.armState ≠ .failsafe
    rw [CommandChannel.step_armState, polls, calm, taken, run.armPayload_kept order silent]
    exact left.moves

/-- A poll that ends a failsafe without a newer arm command delivers one that was left behind. -/
theorem leavesArm_of_armState (run : ChannelRun F) {s p n : Nat} (stop : run.TakesStop s p)
    (later : p < n) (before : (run.after n).node.controller.armState = .failsafe)
    (old : ¬ run.DeliversNewArm s n)
    (ended : (run.after (n + 1)).node.controller.armState ≠ .failsafe) :
    run.LeavesArm s p n := by
  -- Of all that can happen, only a poll that finds an unread arm command ends the failsafe.
  have step : (run.after (n + 1)).node.controller.armState = _ :=
    CommandChannel.step_armState (run.after n) (run.event n)
  rw [step, before] at ended
  cases polls : (run.event n).isPoll with
  | false => simp [polls] at ended
  | true =>
    cases calm : (run.after n).command.emergencyStop with
    | true => simp [polls, calm] at ended
    | false =>
      cases waiting : (run.after n).unread .arm with
      | false => simp [polls, calm, waiting] at ended
      | true =>
        have moves : ArmState.ofByte (run.after n).region.arm.payload.state ≠ .failsafe := by
          simpa [polls, calm, waiting] using ended
        have looked : (run.after n).looks .arm = true := by simp [CommandChannel.looks, calm]
        have delivered : (run.after n).command.arm.isSome = true := by
          rw [CommandChannel.command_arm, looked, waiting]
          rfl
        -- Nothing was published to the arm slot since the stop, or it would be newer.
        have notNewer : ∀ k, run.publishedAt .arm n = some k → k ≤ s := by
          intro k held
          by_contra newer
          exact old ⟨polls, delivered, k, held, Nat.lt_of_not_le newer⟩
        have first : s < p := run.publishedAt_lt stop.published
        have silent : ∀ j, p ≤ j → j < n → run.publishes .arm j = false := fun j from_ below =>
          run.silent_of_publishedAt notNewer j (Nat.lt_of_lt_of_le first from_) below
        have order : p ≤ n := Nat.le_of_lt later
        obtain ⟨unread, unlooked⟩ := (run.unread_iff order silent).mp waiting
        refine ⟨stop, unread, ?_, ?_, later, ?_, ?_, ?_⟩
        · rw [← run.publishedAt_kept order silent]
          exact notNewer
        · rw [← run.armPayload_kept order silent]
          exact moves
        · exact Bool.and_eq_true_iff.mpr ⟨polls, looked⟩
        · exact fun j after below => unlooked j (Nat.le_of_lt after) below
        · exact fun j after below => silent j (Nat.le_of_lt after) below

/-- The stop holds in exactly the runs in which no poll leaves an older arm command behind. -/
theorem stopHolds_iff_no_leavesArm (run : ChannelRun F) :
    run.StopHolds ↔ ∀ s p q, ¬ run.LeavesArm s p q := by
  constructor
  · intro holds s p q left
    obtain ⟨none, ended⟩ := run.armState_of_leavesArm left
    exact ended (holds s p (q + 1) left.stop (Nat.lt_succ_of_lt left.next.later) none)
  · intro never s p n stop later none
    -- The induction is on the events since the stop was taken.
    induction n, later using Nat.le_induction with
    | base =>
      show ((run.after p).step (run.event p)).node.controller.armState = .failsafe
      rw [CommandChannel.step_armState, stop.polls, stop.reported]
      rfl
    | succ n later ih =>
      have before := ih (fun q after below => none q after (by omega))
      by_contra ended
      have left := run.leavesArm_of_armState stop later before (none n later (by omega)) ended
      exact never s p n left

/-- Linux arms and then commands a stop before the realtime node polls. -/
def armBench : ChannelRun ℚ where
  linux := { mode := .live }
  heartbeatSeq := 0
  found := .zeroed
  rt := .constructed
  node := FlightRtNode.constructed.initialised 0
  event
    | 0 => .sendArm .armed ⟨true, true⟩
    | 1 => .doorbell FlightCmdId.arm.toByte 0
    | 2 => .sendEmergencyStop 1 ⟨true, true⟩
    | 3 => .doorbell FlightCmdId.emergencyStop.toByte 0
    | n => .poll (2500 * n)

/-- The first poll takes the stop, and the second one arms. -/
theorem stopHolds_armBench : ¬ armBench.StopHolds := by
  intro holds
  have stop : armBench.TakesStop 2 4 := ⟨by rfl, by decide +kernel, by decide +kernel⟩
  have arm : armBench.publishedAt .arm 5 = some 0 := by decide +kernel
  have state : (armBench.after 6).node.controller.armState = .armed := by decide +kernel
  have none : ∀ q, 4 < q → q < 6 → ¬ armBench.DeliversNewArm 2 q := by
    intro q after below new
    -- The only poll in between delivers the arm command that came first.
    obtain rfl : q = 5 := by omega
    obtain ⟨k, held, newer⟩ := new.newer
    rw [arm] at held
    cases held
    omega
  rw [holds 2 4 6 stop (by decide) none] at state
  cases state

end ChannelRun

end AmpFc
