import AmpFc.System.CommandChannel

/-! What the polls of a run make of each slot: when a message waits, and when it is reported. -/

namespace AmpFc

open MailboxTransport RtosCmdquIsrTransport

variable {F : Type} [FloatArith F]

/-- The event is a poll of the realtime transport. -/
def ChannelEvent.isPoll : ChannelEvent F → Bool
  | .poll _ => true
  | _ => false

/-- A slot just published is taken over exactly if its number is above the last one accepted. -/
theorem accepts_publishSlot {α : Type} [Packed α] (seq last : UInt32) (payload : α) :
    accepts (publishSlot seq payload) last = true ↔ last < seq := by
  unfold accepts publishSlot
  constructor
  · intro accepted
    have above := (Bool.and_eq_true_iff.mp accepted).2
    simpa using above
  · intro above
    -- The number zero is below every other one, so the slot's own check adds nothing.
    have numbered : seq ≠ 0 := by
      intro zero
      have below := UInt32.lt_iff_toNat_lt.mp above
      rw [zero] at below
      exact Nat.not_lt_zero _ below
    rw [verifySlot_of_crc numbered rfl]
    simpa using above

namespace CommandChannel

/-- The slot holds a message that the next look at it would report. -/
def unread (c : CommandChannel F) (kind : SlotKind) : Bool :=
  accepts (c.region.slot kind) (c.rt.last.get kind)

/-- A poll taken now would look at the slot: it stops short at a new emergency stop. -/
def looks (c : CommandChannel F) (kind : SlotKind) : Bool :=
  kind == .emergencyStop || !c.command.emergencyStop

/-- A poll reports an emergency stop exactly if one is waiting. -/
theorem command_emergencyStop (c : CommandChannel F) :
    c.command.emergencyStop = c.unread .emergencyStop := by
  -- The emergency slot is the first one every poll looks at.
  show (c.rt.poll c.region).1.emergencyStop =
    accepts c.region.emergencyStop c.rt.last.emergency
  cases waiting : accepts c.region.emergencyStop c.rt.last.emergency with
  | true => rw [poll_emergency waiting]
  | false =>
    obtain ⟨ring, -, polled⟩ := poll_calm waiting
    rw [polled]
    rfl

/-- A poll that reports an emergency stop reports nothing else. -/
theorem command_of_stop {c : CommandChannel F} (stop : c.command.emergencyStop = true) :
    c.command = { emergencyStop := true } := by
  rw [command_emergencyStop] at stop
  show (c.rt.poll c.region).1 = _
  rw [poll_emergency stop]

/-- A poll that does not stop short reports what each slot holds by itself. -/
theorem poll_of_no_stop {c : CommandChannel F} (calm : c.command.emergencyStop = false) :
    c.command = (parseAll c.region ⟨c.rt.last, {}⟩).command ∧
      (c.rt.poll c.region).2.last = (parseAll c.region ⟨c.rt.last, {}⟩).last := by
  -- Without a waiting stop the doorbells change nothing in the end.
  rw [command_emergencyStop] at calm
  obtain ⟨ring, -, polled⟩ := poll_calm calm
  show (c.rt.poll c.region).1 = _ ∧ _
  rw [polled]
  exact ⟨rfl, rfl⟩

/-- A look at any other slot means that no emergency stop was reported. -/
theorem no_stop_of_looks {c : CommandChannel F} {kind : SlotKind} (looked : c.looks kind = true)
    (other : kind ≠ .emergencyStop) : c.command.emergencyStop = false := by
  simpa [looks, other] using looked

/-- A poll that looks at a slot reports its message exactly if it is unread. -/
theorem reports_iff_unread {c : CommandChannel F} {message : SlotMessage F}
    (looked : c.looks message.kind = true)
    (held : (c.region.slot message.kind).payload = message) :
    c.command.Reports message ↔ c.unread message.kind = true := by
  cases message with
  | emergencyStop payload =>
    -- The reason is not reported, so its payload does not matter.
    show c.command.emergencyStop = true ↔ c.unread .emergencyStop = true
    rw [command_emergencyStop]
  | setpoint payload =>
    obtain ⟨reported, -⟩ := poll_of_no_stop (no_stop_of_looks looked nofun)
    rw [← SlotMessage.setpoint.inj held]
    show c.command.setpoint = _ ↔ accepts c.region.setpoint c.rt.last.setpoint = true
    rw [reported]
    exact takeSlot_reports c.region.setpoint c.rt.last.setpoint
  | arm payload =>
    obtain ⟨reported, -⟩ := poll_of_no_stop (no_stop_of_looks looked nofun)
    rw [← SlotMessage.arm.inj held]
    show c.command.arm = _ ↔ accepts c.region.arm c.rt.last.arm = true
    rw [reported]
    exact takeSlot_reports c.region.arm c.rt.last.arm
  | heartbeat payload =>
    obtain ⟨reported, -⟩ := poll_of_no_stop (no_stop_of_looks looked nofun)
    rw [← SlotMessage.heartbeat.inj held]
    show c.command.heartbeat = _ ↔ accepts c.region.heartbeat c.rt.last.heartbeat = true
    rw [reported]
    exact takeSlot_reports c.region.heartbeat c.rt.last.heartbeat
  | config payload =>
    obtain ⟨reported, -⟩ := poll_of_no_stop (no_stop_of_looks looked nofun)
    rw [← SlotMessage.config.inj held]
    show c.command.config = _ ↔ accepts c.region.config c.rt.last.config = true
    rw [reported]
    exact takeSlot_reports c.region.config c.rt.last.config

/-- A poll takes the number of an unread slot it looks at, and no other number changes. -/
theorem poll_last (c : CommandChannel F) (kind : SlotKind) :
    (c.rt.poll c.region).2.last.get kind =
      if c.looks kind && c.unread kind then (c.region.slot kind).seq else c.rt.last.get kind := by
  cases stop : c.command.emergencyStop with
  | true =>
    -- The poll returns at once, so the emergency slot is the only one looked at.
    have waiting : c.unread .emergencyStop = true := by rw [← command_emergencyStop, stop]
    rw [poll_emergency waiting]
    cases kind with
    | emergencyStop => simp [looks, waiting, LastSeqs.get, SharedCommandRegion.slot]
    | setpoint => simp [looks, stop, LastSeqs.get]
    | arm => simp [looks, stop, LastSeqs.get]
    | heartbeat => simp [looks, stop, LastSeqs.get]
    | config => simp [looks, stop, LastSeqs.get]
  | false =>
    have quiet : c.unread .emergencyStop = false := by rw [← command_emergencyStop, stop]
    rw [(poll_of_no_stop stop).2]
    -- Each parse function changes the number of its own slot only.
    cases kind with
    | emergencyStop =>
      rw [quiet, Bool.and_false]
      rfl
    | setpoint =>
      rw [looks, stop]
      exact takeSlot_number c.region.setpoint c.rt.last.setpoint
    | arm =>
      rw [looks, stop]
      exact takeSlot_number c.region.arm c.rt.last.arm
    | heartbeat =>
      rw [looks, stop]
      exact takeSlot_number c.region.heartbeat c.rt.last.heartbeat
    | config =>
      rw [looks, stop]
      exact takeSlot_number c.region.config c.rt.last.config

/-- Only a poll that looks at an unread slot takes its number. -/
theorem step_last (c : CommandChannel F) (event : ChannelEvent F) (kind : SlotKind) :
    (c.step event).rt.last.get kind =
      if event.isPoll && (c.looks kind && c.unread kind) then (c.region.slot kind).seq
      else c.rt.last.get kind := by
  -- Linux and its doorbells have no access to these numbers.
  cases event with
  | poll nowUs => exact poll_last c kind
  | sendSetpoint setpoint outcome => rfl
  | sendArm state outcome => rfl
  | sendHeartbeat monotonicNowUs outcome => rfl
  | sendEmergencyStop reason outcome => rfl
  | sendConfig config outcome => rfl
  | restart mode => rfl
  | doorbell cmdId seqHint => rfl

/-- The slot is published to by this event. -/
def publishes (c : CommandChannel F) (event : ChannelEvent F) (kind : SlotKind) : Bool :=
  (c.publication event).any (·.2.kind == kind)

/-- Without a publication to it, a slot stays as it is. -/
theorem step_slot_kept {c : CommandChannel F} (marked : c.region.wellMarked = true)
    {event : ChannelEvent F} {kind : SlotKind} (silent : c.publishes event kind = false) :
    (c.step event).region.slot kind = c.region.slot kind := by
  -- The event publishes nothing, or something of another kind.
  rw [step_slot marked]
  unfold publishes at silent
  cases published : c.publication event with
  | none => rfl
  | some sent =>
    rw [published] at silent
    have other : sent.2.kind ≠ kind := by simpa using silent
    exact if_neg other

/-- Without a publication, a slot stays unread exactly until a poll looks at it. -/
theorem step_unread {c : CommandChannel F} (marked : c.region.wellMarked = true)
    {event : ChannelEvent F} {kind : SlotKind} (silent : c.publishes event kind = false) :
    (c.step event).unread kind = (c.unread kind && !(event.isPoll && c.looks kind)) := by
  unfold unread
  rw [step_slot_kept marked silent, step_last]
  cases waiting : accepts (c.region.slot kind) (c.rt.last.get kind) with
  | false =>
    -- A slot once refused is refused until it changes.
    simp [unread, waiting]
  | true =>
    cases looked : event.isPoll && c.looks kind with
    | false =>
      have ignored : (event.isPoll && (c.looks kind && c.unread kind)) = false := by
        rw [← Bool.and_assoc, looked, Bool.false_and]
      rw [ignored]
      exact waiting
    | true =>
      have taken : (event.isPoll && (c.looks kind && c.unread kind)) = true := by
        rw [← Bool.and_assoc, looked, Bool.true_and]
        exact waiting
      rw [taken]
      exact accepts_again (c.region.slot kind)

/-- A message just published is unread exactly if its number is above the last one accepted. -/
theorem step_unread_published {c : CommandChannel F} (marked : c.region.wellMarked = true)
    {event : ChannelEvent F} {seq : UInt32} {message : SlotMessage F}
    (published : c.publication event = some (seq, message)) :
    (c.step event).unread message.kind = true ↔ c.rt.last.get message.kind < seq := by
  -- A send does not poll, so the last number is the one before it.
  have sends : event.isPoll = false := by
    cases event with
    | poll nowUs => cases published
    | _ => rfl
  unfold unread
  rw [step_slot marked, published, step_last, sends]
  simp only [if_true, Bool.false_and, Bool.false_eq_true, if_false]
  exact accepts_publishSlot seq (c.rt.last.get message.kind) message

end CommandChannel

/-- A run of both sides from the realtime transport's `init` on, one event after the other. -/
structure ChannelRun (F : Type) where
  linux : MailboxTransport
  heartbeatSeq : UInt32
  /-- What `init` finds at the mapped address. -/
  found : SharedCommandRegion F
  rt : RtosCmdquIsrTransport
  node : FlightRtNode F
  event : Nat → ChannelEvent F

namespace ChannelRun

/-- Both sides right after `init`. -/
def start (run : ChannelRun F) : CommandChannel F where
  linux := run.linux
  heartbeatSeq := run.heartbeatSeq
  region := (run.rt.init run.found).2
  rt := (run.rt.init run.found).1
  node := run.node

/-- Both sides after `n` events. -/
def after (run : ChannelRun F) (n : Nat) : CommandChannel F :=
  stateAt CommandChannel.step run.start run.event n

/-- What event `n` publishes. -/
def publication (run : ChannelRun F) (n : Nat) : Option (UInt32 × SlotMessage F) :=
  (run.after n).publication (run.event n)

/-- Event `n` publishes to a slot. -/
def publishes (run : ChannelRun F) (kind : SlotKind) (n : Nat) : Bool :=
  (run.after n).publishes (run.event n) kind

/-- Event `n` is a poll that looks at a slot. -/
def looks (run : ChannelRun F) (kind : SlotKind) (n : Nat) : Bool :=
  (run.event n).isPoll && (run.after n).looks kind

/-- The slot holds an unread message before event `n`. -/
def unread (run : ChannelRun F) (kind : SlotKind) (n : Nat) : Bool := (run.after n).unread kind

/-- The event itself, if it publishes to a slot. -/
def publisher (run : ChannelRun F) (kind : SlotKind) (n : Nat) : Option Nat :=
  if run.publishes kind n then some n else none

/-- The event that published what a slot holds before event `n`, if it was one of this run. -/
def publishedAt (run : ChannelRun F) (kind : SlotKind) (n : Nat) : Option Nat :=
  latest (run.publisher kind) n

/-- Poll `q` is the first after event `k` to look at a slot, which nothing is published to first. -/
structure NextLook (run : ChannelRun F) (kind : SlotKind) (k q : Nat) : Prop where
  later : k < q
  looks : run.looks kind q = true
  first : ∀ j, k < j → j < q → run.looks kind j = false
  kept : ∀ j, k < j → j < q → run.publishes kind j = false

/-- The region is marked by `init`, and no event takes the marks away. -/
theorem after_wellMarked (run : ChannelRun F) (n : Nat) :
    (run.after n).region.wellMarked = true := by
  -- A region found without marks is wiped and marked by `init`.
  have initial : run.start.region.wellMarked = true := by
    unfold start init
    cases marked : run.found.wellMarked with
    | true => exact marked
    | false => rfl
  induction n with
  | zero => exact initial
  | succ n ih => exact CommandChannel.step_wellMarked ih (run.event n)

/-- A slot keeps its content as long as nothing is published to it. -/
theorem slot_kept (run : ChannelRun F) {kind : SlotKind} {p n : Nat} (order : p ≤ n)
    (silent : ∀ j, p ≤ j → j < n → run.publishes kind j = false) :
    (run.after n).region.slot kind = (run.after p).region.slot kind := by
  -- The induction is on the later index, one event at a time.
  induction n, order using Nat.le_induction with
  | base => rfl
  | succ n order ih =>
    have earlier := ih (fun j from_ below => silent j from_ (by omega))
    rw [← earlier]
    exact CommandChannel.step_slot_kept (run.after_wellMarked n) (silent n order (by omega))

/-- As long as nothing is published to it, a slot stays unread until a poll looks at it. -/
theorem unread_iff (run : ChannelRun F) {kind : SlotKind} {p n : Nat} (order : p ≤ n)
    (silent : ∀ j, p ≤ j → j < n → run.publishes kind j = false) :
    run.unread kind n = true ↔
      run.unread kind p = true ∧ ∀ j, p ≤ j → j < n → run.looks kind j = false := by
  -- The induction is on the later index, where one more event is looked at.
  induction n, order using Nat.le_induction with
  | base =>
    have nothing : ∀ j, p ≤ j → j < p → run.looks kind j = false := fun j from_ below => by omega
    exact ⟨fun waiting => ⟨waiting, nothing⟩, fun both => both.1⟩
  | succ n order ih =>
    have earlier := ih (fun j from_ below => silent j from_ (by omega))
    have step : run.unread kind (n + 1) = (run.unread kind n && !run.looks kind n) :=
      CommandChannel.step_unread (run.after_wellMarked n) (silent n order (by omega))
    rw [step, Bool.and_eq_true, Bool.not_eq_true', earlier]
    constructor
    · rintro ⟨⟨waiting, before⟩, now⟩
      refine ⟨waiting, fun j from_ below => ?_⟩
      rcases Nat.lt_succ_iff_lt_or_eq.mp below with older | same
      · exact before j from_ older
      · exact same ▸ now
    · rintro ⟨waiting, before⟩
      exact ⟨⟨waiting, fun j from_ below => before j from_ (by omega)⟩,
        before n order (by omega)⟩

/-- A publishing event is its own publisher. -/
theorem publisher_eq (run : ChannelRun F) {kind : SlotKind} {n k : Nat}
    (produced : run.publisher kind n = some k) : k = n := by
  unfold publisher at produced
  split at produced
  · exact (Option.some.inj produced).symm
  · cases produced

/-- What a slot holds was published before. -/
theorem publishedAt_lt (run : ChannelRun F) {kind : SlotKind} {n k : Nat}
    (found : run.publishedAt kind n = some k) : k < n := by
  obtain ⟨source, below, produced⟩ := latest_source found
  rw [run.publisher_eq produced]
  exact below

/-- As long as nothing is published to a slot, what it holds keeps its publisher. -/
theorem publishedAt_kept (run : ChannelRun F) {kind : SlotKind} {p n : Nat} (order : p ≤ n)
    (silent : ∀ j, p ≤ j → j < n → run.publishes kind j = false) :
    run.publishedAt kind n = run.publishedAt kind p := by
  apply latest_silent order
  intro j from_ below
  exact if_neg (by simp [silent j from_ below])

/-- If a slot holds nothing newer than event `s`, nothing was published to it since. -/
theorem silent_of_publishedAt (run : ChannelRun F) {kind : SlotKind} {n s : Nat}
    (old : ∀ k, run.publishedAt kind n = some k → k ≤ s) :
    ∀ j, s < j → j < n → run.publishes kind j = false := by
  intro j after below
  cases newer : run.publishes kind j with
  | false => rfl
  | true =>
    -- The slot would hold this publication, or an even later one.
    have produced : run.publisher kind j = some j := if_pos newer
    obtain ⟨k, from_, value, at_, found⟩ := latest_of_some produced below
    have bound := old value found
    rw [run.publisher_eq at_] at bound
    omega

end ChannelRun

end AmpFc
