import AmpFc.System.SlotReading

/-! What reaches the realtime node when Linux restarts and counts from zero again. -/

namespace AmpFc

open MailboxTransport

variable {F : Type} [FloatArith F]

/-- What an event publishes fills the slot of its kind. -/
theorem CommandChannel.slot_of_publication {c : CommandChannel F}
    (marked : c.region.wellMarked = true) {event : ChannelEvent F} {seq : UInt32}
    {message : SlotMessage F} (published : c.publication event = some (seq, message)) :
    (c.step event).region.slot message.kind = publishSlot seq message := by
  rw [step_slot marked, published]
  exact if_pos rfl

namespace ChannelRun

/--
No message is lost on its way.

Every emergency stop, arm command, heartbeat, and configuration is reported by the next poll
to look at its slot, unless another message to the same slot overwrites it first.
-/
def Unmuted (run : ChannelRun F) : Prop :=
  ∀ k q seq message, run.publication k = some (seq, message) → message.kind ≠ .setpoint →
    run.NextLook message.kind k q → (run.after q).command.Reports message

/-- What event `k` publishes is numbered above the last message accepted from its slot. -/
def NumberedAbove (run : ChannelRun F) (k : Nat) (seq : UInt32) (message : SlotMessage F) : Prop :=
  (run.after k).rt.last.get message.kind < seq

/-- The next poll to look at a message reports it exactly if its number was above the last one. -/
theorem reports_iff_numberedAbove (run : ChannelRun F) {k q : Nat} {seq : UInt32}
    {message : SlotMessage F} (published : run.publication k = some (seq, message))
    (next : run.NextLook message.kind k q) :
    (run.after q).command.Reports message ↔ run.NumberedAbove k seq message := by
  have marked := run.after_wellMarked k
  obtain ⟨polls, looked⟩ := Bool.and_eq_true_iff.mp next.looks
  -- From its publication to the poll, the slot keeps the message, and nothing looks at it.
  have order : k + 1 ≤ q := next.later
  have silent : ∀ j, k + 1 ≤ j → j < q → run.publishes message.kind j = false :=
    fun j from_ below => next.kept j from_ below
  have held : ((run.after q).region.slot message.kind).payload = message := by
    rw [run.slot_kept order silent]
    exact congrArg SharedSlot.payload (CommandChannel.slot_of_publication marked published)
  have waits : run.unread message.kind q = true ↔ run.unread message.kind (k + 1) = true := by
    rw [run.unread_iff order silent]
    exact ⟨fun both => both.1, fun waiting => ⟨waiting, fun j from_ below =>
      next.first j from_ below⟩⟩
  calc (run.after q).command.Reports message
      ↔ run.unread message.kind q = true := CommandChannel.reports_iff_unread looked held
    _ ↔ run.unread message.kind (k + 1) = true := waits
    _ ↔ run.NumberedAbove k seq message := CommandChannel.step_unread_published marked published

/--
Nothing is muted in exactly the runs whose numbers rise.

Only messages that some poll looks at before they are overwritten have to be numbered above.
-/
theorem unmuted_iff_numberedAbove (run : ChannelRun F) :
    run.Unmuted ↔ ∀ k q seq message, run.publication k = some (seq, message) →
      message.kind ≠ .setpoint → run.NextLook message.kind k q →
        run.NumberedAbove k seq message := by
  -- Message by message, the two conditions are the same.
  constructor
  · intro unmuted k q seq message published other next
    exact (run.reports_iff_numberedAbove published next).mp
      (unmuted k q seq message published other next)
  · intro above k q seq message published other next
    exact (run.reports_iff_numberedAbove published next).mpr
      (above k q seq message published other next)

/-- Linux commands a stop that is taken, restarts, and commands another one. -/
def restartBench : ChannelRun ℚ where
  linux := { mode := .live }
  heartbeatSeq := 0
  found := .zeroed
  rt := .constructed
  node := FlightRtNode.constructed.initialised 0
  event
    | 0 => .sendEmergencyStop 1 ⟨true, true⟩
    | 1 => .doorbell FlightCmdId.emergencyStop.toByte 0
    | 3 => .restart .live
    | 4 => .sendEmergencyStop 2 ⟨true, true⟩
    | 5 => .doorbell FlightCmdId.emergencyStop.toByte 0
    | n => .poll (2500 * n)

/-- The poll after the restart does not report the second stop, which is numbered one again. -/
theorem unmuted_restartBench : ¬ restartBench.Unmuted := by
  intro unmuted
  -- The new process starts counting at one again.
  have published : restartBench.publication 4 =
      some (1, .emergencyStop { reason := 2 }) := by rfl
  have next : restartBench.NextLook .emergencyStop 4 6 := by
    refine ⟨by decide, by decide +kernel, ?_, ?_⟩
    · intro j after below
      obtain rfl : j = 5 := by omega
      decide +kernel
    · intro j after below
      obtain rfl : j = 5 := by omega
      decide +kernel
  have reported : (restartBench.after 6).command.emergencyStop = true :=
    unmuted 4 6 1 _ published nofun next
  have silent : (restartBench.after 6).command.emergencyStop = false := by decide +kernel
  rw [silent] at reported
  cases reported

end ChannelRun

end AmpFc
