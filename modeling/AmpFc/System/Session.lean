import AmpFc.Lib.Mailbox
import AmpFc.System.SlotReading

/-! One session over a fresh region: its polls read the slots as mailboxes, latest value first. -/

namespace AmpFc

open MailboxTransport RtosCmdquIsrTransport

variable {F : Type} [FloatArith F]

/-- What happens in a session: Linux publishes to a slot, a doorbell rings, or a poll runs. -/
inductive SessionEvent (F : Type) where
  | publish (seq : UInt32) (message : SlotMessage F)
  | doorbell (cmdId : UInt8) (seqHint : UInt32)
  | poll

/-- `publishSlot` for the slot of a message. -/
def SharedCommandRegion.publish (region : SharedCommandRegion F) (seq : UInt32) :
    SlotMessage F → SharedCommandRegion F
  | .setpoint payload => { region with setpoint := publishSlot seq payload }
  | .arm payload => { region with arm := publishSlot seq payload }
  | .heartbeat payload => { region with heartbeat := publishSlot seq payload }
  | .emergencyStop payload => { region with emergencyStop := publishSlot seq payload }
  | .config payload => { region with config := publishSlot seq payload }

/-- A publication fills the slot of its message, and every other slot stays as it is. -/
theorem SharedCommandRegion.slot_publish (region : SharedCommandRegion F) (seq : UInt32)
    (message : SlotMessage F) (kind : SlotKind) : (region.publish seq message).slot kind =
      if message.kind = kind then publishSlot seq message else region.slot kind := by
  cases message <;> cases kind <;> rfl

omit [FloatArith F] in
/-- An emergency stop is reported without looking at its reason. -/
theorem IncomingCommand.reports_stop (command : IncomingCommand F) {message : SlotMessage F}
    (stop : message.kind = .emergencyStop) :
    command.Reports message ↔ command.emergencyStop = true := by
  -- Only a stop is reported by the flag alone.
  cases message with
  | emergencyStop payload => exact Iff.rfl
  | setpoint payload => cases stop
  | arm payload => cases stop
  | heartbeat payload => cases stop
  | config payload => cases stop

/-- What is taken from a slot, whatever its payload is wrapped in. -/
theorem takeSlot_held {α β : Type} [Packed α] (slot : SharedSlot α) (last : UInt32) {wrap : α → β}
    (injective : Function.Injective wrap) {payload : α} :
    (takeSlot slot (last, none)).2 = some payload ↔
      (if accepts slot last then some (wrap slot.payload) else none) = some (wrap payload) := by
  -- A slot that is not accepted yields nothing on either side.
  rw [takeSlot_payload]
  cases accepts slot last with
  | true => simp [injective.eq_iff]
  | false => simp

namespace CommandChannel

/-- Every send of Linux over a marked region is the publication of its message. -/
theorem step_region {c : CommandChannel F} (marked : c.region.wellMarked = true)
    {event : ChannelEvent F} {seq : UInt32} {message : SlotMessage F}
    (published : c.publication event = some (seq, message)) :
    (c.step event).region = c.region.publish seq message := by
  -- Each send writes its own slot of a marked region; nothing else publishes.
  cases event with
  | sendSetpoint setpoint outcome =>
    cases published
    simp only [step, afterSend, sendSetpoint, writeSetpointCache, marked, Bool.not_true,
      Bool.false_eq_true, if_false]
    rfl
  | sendArm state outcome =>
    cases published
    simp only [step, afterSend, sendArm, thenSendCommand, writeArmCache, marked, Bool.not_true,
      Bool.false_eq_true, if_false]
    rfl
  | sendHeartbeat monotonicNowUs outcome =>
    cases published
    simp only [step, afterSend, sendHeartbeat, writeHeartbeatCache, marked, Bool.not_true,
      Bool.false_eq_true, if_false]
    rfl
  | sendEmergencyStop reason outcome =>
    cases published
    simp only [step, afterSend, sendEmergencyStop_marked _ marked]
    rfl
  | sendConfig config outcome =>
    cases published
    simp only [step, afterSend, sendConfig, thenSendCommand, writeConfigCache, marked,
      Bool.not_true, Bool.false_eq_true, if_false]
    rfl
  | restart mode => cases published
  | doorbell cmdId seqHint => cases published
  | poll nowUs => cases published

/-- A poll without an emergency stop reports what the unread slots hold, and nothing else. -/
theorem reports_iff_held (c : CommandChannel F) {message : SlotMessage F}
    (other : message.kind ≠ .emergencyStop) (calm : c.command.emergencyStop = false) :
    c.command.Reports message ↔ (if c.unread message.kind then
      some (c.region.slot message.kind).payload else none) = some message := by
  -- Without an emergency stop all slots are parsed, each into its own field.
  obtain ⟨reported, -⟩ := poll_of_no_stop calm
  cases message with
  -- The kinds differ in the field they are reported in, and in nothing else.
  | emergencyStop payload => exact absurd rfl other
  | setpoint payload =>
    show c.command.setpoint = some payload ↔ _
    rw [reported]
    exact takeSlot_held c.region.setpoint c.rt.last.setpoint fun _ _ => SlotMessage.setpoint.inj
  | arm payload =>
    show c.command.arm = some payload ↔ _
    rw [reported]
    exact takeSlot_held c.region.arm c.rt.last.arm fun _ _ => SlotMessage.arm.inj
  | heartbeat payload =>
    show c.command.heartbeat = some payload ↔ _
    rw [reported]
    exact takeSlot_held c.region.heartbeat c.rt.last.heartbeat fun _ _ => SlotMessage.heartbeat.inj
  | config payload =>
    show c.command.config = some payload ↔ _
    rw [reported]
    exact takeSlot_held c.region.config c.rt.last.config fun _ _ => SlotMessage.config.inj

end CommandChannel

/-- The region and the transport that reads it. -/
structure SessionState (F : Type) where
  region : SharedCommandRegion F
  rt : RtosCmdquIsrTransport

namespace SessionState

/-- One event. -/
def step (s : SessionState F) : SessionEvent F → SessionState F
  | .publish seq message => { s with region := s.region.publish seq message }
  | .doorbell cmdId seqHint =>
    { s with rt := { s.rt with ring := s.rt.ring.onCmdFromMailbox cmdId seqHint } }
  | .poll => { s with rt := (s.rt.poll s.region).2 }

/-- The command that a poll would deliver now. -/
def command (s : SessionState F) : IncomingCommand F := (s.rt.poll s.region).1

/-- The state as the middle of a channel, whose two ends do not matter here. -/
def channel (s : SessionState F) : CommandChannel F where
  linux := {}
  heartbeatSeq := 0
  region := s.region
  rt := s.rt
  node := .constructed

end SessionState

/-- A session: the transport before its `init`, and the events after it. -/
structure Session (F : Type) where
  rt : RtosCmdquIsrTransport
  event : Nat → SessionEvent F

namespace Session

/-- The transport right after its `init` over a zeroed region, which is marked by it. -/
def start (run : Session F) : SessionState F where
  region := (run.rt.init .zeroed).2
  rt := (run.rt.init (.zeroed : SharedCommandRegion F)).1

/-- The state after `n` events. -/
def after (run : Session F) (n : Nat) : SessionState F :=
  stateAt SessionState.step run.start run.event n

/-- The command that a poll delivers at event `n`. -/
def command (run : Session F) (n : Nat) : IncomingCommand F := (run.after n).command

/-- Every number is nonzero and above the earlier ones of its slot. -/
structure Increasing (run : Session F) : Prop where
  nonzero : ∀ n seq message, run.event n = .publish seq message → seq ≠ 0
  rising : ∀ j k seq seq' message message', j < k → run.event j = .publish seq message →
    run.event k = .publish seq' message' → message.kind = message'.kind → seq < seq'

/-- Event `n` publishes to a slot. -/
def Publishes (run : Session F) (kind : SlotKind) (n : Nat) : Prop :=
  ∃ seq message, run.event n = .publish seq message ∧ message.kind = kind

/-- Event `n` is a poll whose command carries a message of the kind. -/
def Carries (run : Session F) (kind : SlotKind) (n : Nat) : Prop :=
  run.event n = .poll ∧ ∃ message, message.kind = kind ∧ (run.command n).Reports message

/-- Event `k` is the most recent publication to a slot before event `n`. -/
structure Newest (run : Session F) (kind : SlotKind) (k n : Nat) : Prop where
  earlier : k < n
  publishes : run.Publishes kind k
  last : ∀ j, k < j → j < n → ¬ run.Publishes kind j

/-- Poll `n` delivers what event `k` published. -/
def Delivers (run : Session F) (kind : SlotKind) (k n : Nat) : Prop :=
  run.Newest kind k n ∧ run.Carries kind n

/-- The policy of a poll: a waiting emergency stop is taken alone. -/
def stopFirst (occupied : SlotKind → Bool) (kind : SlotKind) : Bool :=
  kind == .emergencyStop || !occupied .emergencyStop

/-- An event as the mailboxes see it, to whom doorbells mean nothing. -/
def mailboxEvent : SessionEvent F → MailboxEvent SlotKind (SlotMessage F)
  | .publish _ message => .put message.kind message
  | .doorbell _ _ => .pause
  | .poll => .take

/-- The run of mailboxes that a session is about. -/
def mailboxes (run : Session F) : MailboxRun SlotKind (SlotMessage F) where
  policy := stopFirst
  event n := mailboxEvent (run.event n)

/-- After `n` events the unread slots hold what waits in the mailboxes. -/
structure Mirrors (run : Session F) (n : Nat) : Prop where
  waiting : ∀ kind, run.mailboxes.boxes n kind =
    if (run.after n).channel.unread kind then some ((run.after n).region.slot kind).payload
    else none
  last : ∀ kind, (run.after n).rt.last.get kind ≤ ((run.after n).region.slot kind).seq
  source : ∀ kind, ((run.after n).region.slot kind).seq = 0 ∨
    ∃ j < n, ∃ message, message.kind = kind ∧
      run.event j = .publish ((run.after n).region.slot kind).seq message

variable (run : Session F)

/-- An event finds the session as the ones before it left it. -/
theorem after_succ (n : Nat) : run.after (n + 1) = (run.after n).step (run.event n) :=
  stateAt_succ _ _ _ n

omit [FloatArith F] in
/-- The mailboxes see the same event. -/
theorem boxes_succ (n : Nat) : run.mailboxes.boxes (n + 1) =
    Mailboxes.step stopFirst (run.mailboxes.boxes n) (mailboxEvent (run.event n)) :=
  MailboxRun.boxes_succ _ n

/-- Where the slots stay as they are, their numbers keep their source. -/
theorem Mirrors.source_kept {run : Session F} {n : Nat} (mirrors : run.Mirrors n) {kind : SlotKind}
    (kept : (run.after (n + 1)).region.slot kind = (run.after n).region.slot kind) :
    ((run.after (n + 1)).region.slot kind).seq = 0 ∨
      ∃ j < n + 1, ∃ message, message.kind = kind ∧
        run.event j = .publish ((run.after (n + 1)).region.slot kind).seq message := by
  rw [kept]
  -- The publication that numbered the slot is one event further back now.
  rcases mirrors.source kind with blank | ⟨j, below, message, found, published⟩
  · exact Or.inl blank
  · exact Or.inr ⟨j, Nat.lt_succ_of_lt below, message, found, published⟩

/-- The keys that a poll finds occupied are the unread slots. -/
theorem Mirrors.occupied {run : Session F} {n : Nat} (mirrors : run.Mirrors n) (kind : SlotKind) :
    (run.mailboxes.boxes n).occupied kind = (run.after n).channel.unread kind := by
  unfold Mailboxes.occupied
  rw [mirrors.waiting kind]
  -- A box is full just where a slot is unread.
  cases (run.after n).channel.unread kind with
  | true => rfl
  | false => rfl

/-- The policy of a poll is where it looks. -/
theorem Mirrors.policy {run : Session F} {n : Nat} (mirrors : run.Mirrors n) (kind : SlotKind) :
    run.mailboxes.policy (run.mailboxes.boxes n).occupied kind =
      (run.after n).channel.looks kind := by
  show (kind == .emergencyStop || !(run.mailboxes.boxes n).occupied .emergencyStop) = _
  rw [mirrors.occupied, ← CommandChannel.command_emergencyStop]
  rfl

/-- Before the first event no slot was ever numbered. -/
theorem mirrors_zero : run.Mirrors 0 := by
  have blank : ∀ kind, (run.start.region.slot kind).seq = 0 := by
    intro kind
    cases kind <;> rfl
  -- A slot without a number is no message.
  have none' : ∀ kind, run.start.channel.unread kind = false := by
    intro kind
    have refused := verifySlot_unnumbered (blank kind)
    show (verifySlot (run.start.region.slot kind) && _) = false
    rw [refused, Bool.false_and]
  refine ⟨?_, ?_, ?_⟩
  · intro kind
    show none = if run.start.channel.unread kind then _ else none
    rw [none' kind]
    rfl
  · intro kind
    cases kind <;> exact UInt32.le_refl _
  · intro kind
    exact Or.inl (blank kind)

/-- A publication with a new number is mirrored by putting its message. -/
theorem mirrors_publish {run : Session F} {n : Nat} (increasing : run.Increasing)
    (mirrors : run.Mirrors n) {seq : UInt32} {message : SlotMessage F}
    (happened : run.event n = .publish seq message) : run.Mirrors (n + 1) := by
  have next : run.after (n + 1) =
      { run.after n with region := (run.after n).region.publish seq message } := by
    rw [after_succ, happened]
    rfl
  have boxes : run.mailboxes.boxes (n + 1) =
      Function.update (run.mailboxes.boxes n) message.kind (some message) := by
    rw [boxes_succ, happened]
    rfl
  -- The number is above the one in the slot, and so above the last one accepted.
  have above : (run.after n).rt.last.get message.kind < seq := by
    refine UInt32.lt_of_le_of_lt (mirrors.last message.kind) ?_
    rcases mirrors.source message.kind with blank | ⟨j, below, earlier, same, published⟩
    · rw [blank]
      exact UInt32.pos_iff_ne_zero.mpr (increasing.nonzero n seq message happened)
    · exact increasing.rising j n _ seq earlier message below published happened same
  have slots : ∀ kind, ((run.after (n + 1)).region.slot kind) =
      if message.kind = kind then publishSlot seq message else (run.after n).region.slot kind := by
    intro kind
    rw [next]
    exact SharedCommandRegion.slot_publish (run.after n).region seq message kind
  have lasts : (run.after (n + 1)).rt.last = (run.after n).rt.last := by
    rw [next]
  refine ⟨?_, ?_, ?_⟩
  · intro kind
    have unread : (run.after (n + 1)).channel.unread kind =
        accepts ((run.after (n + 1)).region.slot kind) ((run.after (n + 1)).rt.last.get kind) := rfl
    rw [boxes, unread, slots kind, lasts]
    -- The slot written is unread, and every other one is as it was.
    by_cases same : message.kind = kind
    · subst same
      rw [if_pos rfl, (accepts_publishSlot seq _ message).mpr above, Function.update_self]
      rfl
    · rw [if_neg same, Function.update_of_ne (Ne.symm same), mirrors.waiting kind]
      rfl
  · intro kind
    rw [slots kind, lasts]
    by_cases same : message.kind = kind
    · subst same
      rw [if_pos rfl]
      exact UInt32.le_of_lt above
    · rw [if_neg same]
      exact mirrors.last kind
  · intro kind
    by_cases same : message.kind = kind
    · rw [slots kind, if_pos same]
      exact Or.inr ⟨n, Nat.lt_succ_self n, message, same, happened⟩
    · exact mirrors.source_kept (by rw [slots kind, if_neg same])

/-- A doorbell is mirrored by nothing. -/
theorem mirrors_doorbell {run : Session F} {n : Nat} (mirrors : run.Mirrors n) {cmdId : UInt8}
    {seqHint : UInt32} (happened : run.event n = .doorbell cmdId seqHint) :
    run.Mirrors (n + 1) := by
  -- A doorbell moves neither the boxes nor the region nor the last numbers.
  have boxes : run.mailboxes.boxes (n + 1) = run.mailboxes.boxes n := by
    rw [boxes_succ, happened]
    rfl
  have region : (run.after (n + 1)).region = (run.after n).region := by
    rw [after_succ, happened]
    rfl
  have lasts : (run.after (n + 1)).rt.last = (run.after n).rt.last := by
    rw [after_succ, happened]
    rfl
  refine ⟨?_, ?_, ?_⟩
  · intro kind
    have unread : (run.after (n + 1)).channel.unread kind =
        accepts ((run.after (n + 1)).region.slot kind) ((run.after (n + 1)).rt.last.get kind) := rfl
    rw [boxes, unread, region, lasts]
    exact mirrors.waiting kind
  · intro kind
    rw [region, lasts]
    exact mirrors.last kind
  · intro kind
    exact mirrors.source_kept (by rw [region])

/-- A poll is mirrored by a reader. -/
theorem mirrors_poll {run : Session F} {n : Nat} (mirrors : run.Mirrors n)
    (happened : run.event n = .poll) : run.Mirrors (n + 1) := by
  have boxes : ∀ kind, run.mailboxes.boxes (n + 1) kind =
      if (run.after n).channel.looks kind then none else run.mailboxes.boxes n kind := by
    intro kind
    rw [← mirrors.policy kind, boxes_succ, happened]
    rfl
  have region : (run.after (n + 1)).region = (run.after n).region := by
    rw [after_succ, happened]
    rfl
  have lasts : ∀ kind, (run.after (n + 1)).rt.last.get kind =
      if (run.after n).channel.looks kind && (run.after n).channel.unread kind then
        ((run.after n).region.slot kind).seq
      else (run.after n).rt.last.get kind := by
    intro kind
    have polled := CommandChannel.poll_last (run.after n).channel kind
    have next : (run.after (n + 1)).rt = ((run.after n).rt.poll (run.after n).region).2 := by
      rw [after_succ, happened]
      rfl
    rw [next]
    exact polled
  refine ⟨?_, ?_, ?_⟩
  · intro kind
    have unread : (run.after (n + 1)).channel.unread kind =
        accepts ((run.after (n + 1)).region.slot kind) ((run.after (n + 1)).rt.last.get kind) := rfl
    rw [boxes, unread, region, lasts, mirrors.waiting kind]
    cases looked : (run.after n).channel.looks kind with
    | false => rfl
    | true =>
      cases waiting : (run.after n).channel.unread kind with
      | true =>
        -- The number just taken is the slot's own.
        simp only [if_true, Bool.and_self, accepts_again, Bool.false_eq_true, if_false]
      | false =>
        have refused : accepts ((run.after n).region.slot kind)
            ((run.after n).rt.last.get kind) = false := waiting
        simp only [if_true, Bool.and_false, Bool.false_eq_true, if_false, refused]
  · intro kind
    rw [region, lasts]
    split
    · exact UInt32.le_refl _
    · exact mirrors.last kind
  · intro kind
    exact mirrors.source_kept (by rw [region])

/-- The slots mirror the mailboxes throughout a session. -/
theorem mirrors (increasing : run.Increasing) (n : Nat) : run.Mirrors n := by
  -- The induction is on the number of events.
  induction n with
  | zero => exact run.mirrors_zero
  | succ n ih =>
    cases happened : run.event n with
    | publish seq message => exact mirrors_publish increasing ih happened
    | doorbell cmdId seqHint => exact mirrors_doorbell ih happened
    | poll => exact mirrors_poll ih happened

/-- A poll carries a message exactly if the reader of the mailboxes gets it. -/
theorem reports_iff_taken (increasing : run.Increasing) {n : Nat} {message : SlotMessage F}
    (other : message.kind ≠ .emergencyStop) (calm : (run.command n).emergencyStop = false) :
    (run.command n).Reports message ↔
      (run.mailboxes.boxes n).taken stopFirst message.kind = some message := by
  have mirrors := run.mirrors increasing n
  -- Without an emergency stop the poll looks everywhere.
  have looked : (run.after n).channel.looks message.kind = true := by
    show (message.kind == .emergencyStop || !(run.command n).emergencyStop) = true
    rw [calm]
    simp
  have policy : stopFirst (run.mailboxes.boxes n).occupied message.kind = true :=
    (mirrors.policy message.kind).trans looked
  unfold Mailboxes.taken
  rw [if_pos policy, mirrors.waiting message.kind]
  exact CommandChannel.reports_iff_held (run.after n).channel other calm

/-- A poll reports an emergency stop exactly if one waits in the mailboxes. -/
theorem emergencyStop_iff_taken (increasing : run.Increasing) (n : Nat) :
    (run.command n).emergencyStop = true ↔
      ∃ message, (run.mailboxes.boxes n).taken stopFirst .emergencyStop = some message := by
  have mirrors := run.mirrors increasing n
  -- Nothing stands before a stop, so a waiting one is taken.
  have policy : stopFirst (run.mailboxes.boxes n).occupied .emergencyStop = true := rfl
  unfold Mailboxes.taken
  rw [if_pos policy, mirrors.waiting .emergencyStop]
  show (run.after n).channel.command.emergencyStop = true ↔ _
  rw [CommandChannel.command_emergencyStop]
  cases (run.after n).channel.unread .emergencyStop with
  | true => simp
  | false => simp

omit [FloatArith F] in
/-- The events that publish are those that put. -/
theorem puts_iff (kind : SlotKind) (n : Nat) :
    run.mailboxes.Puts kind n ↔ run.Publishes kind n := by
  unfold MailboxRun.Puts Publishes
  show (∃ value, mailboxEvent (run.event n) = .put kind value) ↔ _
  -- Of the events only a publication puts something into a box.
  cases happened : run.event n with
  | publish seq message =>
    constructor
    · rintro ⟨value, put⟩
      cases put
      exact ⟨seq, message, rfl, rfl⟩
    · rintro ⟨seq', message', same, rfl⟩
      cases same
      exact ⟨message, rfl⟩
  | doorbell cmdId seqHint => simp [mailboxEvent]
  | poll => simp [mailboxEvent]

omit [FloatArith F] in
/-- The polls are the readers. -/
theorem take_iff (n : Nat) : run.mailboxes.event n = .take ↔ run.event n = .poll := by
  show mailboxEvent (run.event n) = .take ↔ _
  cases run.event n with
  | publish seq message => simp [mailboxEvent]
  | doorbell cmdId seqHint => simp [mailboxEvent]
  | poll => simp [mailboxEvent]

omit [FloatArith F] in
/-- What is put under a key is a published message of that kind. -/
theorem published_of_put {n : Nat} {kind : SlotKind} {message : SlotMessage F}
    (put : run.mailboxes.event n = .put kind message) :
    message.kind = kind ∧ ∃ seq, run.event n = .publish seq message := by
  have put' : mailboxEvent (run.event n) = .put kind message := put
  -- Only a publication puts something.
  cases happened : run.event n with
  | publish seq message' =>
    rw [happened] at put'
    cases put'
    exact ⟨rfl, seq, rfl⟩
  | doorbell cmdId seqHint =>
    rw [happened] at put'
    cases put'
  | poll =>
    rw [happened] at put'
    cases put'

omit [FloatArith F] in
/-- A published message is put under its kind. -/
theorem put_of_published {n : Nat} {seq : UInt32} {message : SlotMessage F}
    (happened : run.event n = .publish seq message) :
    run.mailboxes.event n = .put message.kind message := by
  show mailboxEvent (run.event n) = _
  rw [happened]
  rfl

/-- A poll carries something exactly if the mailboxes deliver something. -/
theorem carries_iff (increasing : run.Increasing) (kind : SlotKind) (n : Nat) :
    run.Carries kind n ↔ ∃ k, run.mailboxes.Delivers kind k n := by
  constructor
  · rintro ⟨polled, message, rfl, reports⟩
    have take := (run.take_iff n).mpr polled
    -- An emergency stop is reported without its payload, so it is told apart here.
    by_cases stop : message.kind = .emergencyStop
    · have stopped : (run.command n).emergencyStop = true :=
        ((run.command n).reports_stop stop).mp reports
      obtain ⟨value, taken⟩ := (run.emergencyStop_iff_taken increasing n).mp stopped
      obtain ⟨k, -, delivers⟩ := (run.mailboxes.taken_eq_some_iff take value).mp taken
      exact ⟨k, stop ▸ delivers⟩
    · -- A command that reports anything else has no emergency stop in it.
      have calm : (run.command n).emergencyStop = false := by
        by_contra stopped
        rw [Bool.not_eq_false] at stopped
        have alone : run.command n = { emergencyStop := true } :=
          CommandChannel.command_of_stop (c := (run.after n).channel) stopped
        rw [alone] at reports
        cases message with
        | emergencyStop payload => exact stop rfl
        | setpoint payload => cases reports
        | arm payload => cases reports
        | heartbeat payload => cases reports
        | config payload => cases reports
      have taken := (run.reports_iff_taken increasing stop calm).mp reports
      obtain ⟨k, -, delivers⟩ := (run.mailboxes.taken_eq_some_iff take message).mp taken
      exact ⟨k, delivers⟩
  · rintro ⟨k, delivers⟩
    -- What was put is what a publication put, under the key of its own kind.
    obtain ⟨value, put⟩ := delivers.waits.put
    obtain ⟨rfl, seq, -⟩ := run.published_of_put put
    have taken := (run.mailboxes.taken_eq_some_iff delivers.looks.1 value).mpr
      ⟨k, put, delivers⟩
    refine ⟨(run.take_iff n).mp delivers.looks.1, value, rfl, ?_⟩
    by_cases stop : value.kind = .emergencyStop
    · rw [stop] at taken
      have stopped := (run.emergencyStop_iff_taken increasing n).mpr ⟨value, taken⟩
      exact ((run.command n).reports_stop stop).mpr stopped
    · have looked := ((run.mirrors increasing n).policy value.kind).symm.trans delivers.looks.2
      have calm : (run.command n).emergencyStop = false :=
        CommandChannel.no_stop_of_looks (c := (run.after n).channel) looked stop
      exact (run.reports_iff_taken increasing stop calm).mpr taken

/-- What a poll delivers is what the mailboxes deliver. -/
theorem delivers_iff (increasing : run.Increasing) (kind : SlotKind) (k n : Nat) :
    run.Delivers kind k n ↔ run.mailboxes.Delivers kind k n := by
  constructor
  · rintro ⟨newest, carries⟩
    obtain ⟨j, delivers⟩ := (run.carries_iff increasing kind n).mp carries
    -- Both events are the most recent one to publish to the slot.
    have same : j = k := by
      rcases Nat.lt_trichotomy j k with older | same | newer
      · -- An older one would have been overwritten before the poll.
        exact absurd ((run.puts_iff kind k).mpr newest.publishes)
          (delivers.waits.kept k older newest.earlier)
      · exact same
      · -- A newer one would make the other not the newest.
        exact absurd ((run.puts_iff kind j).mp delivers.waits.put)
          (newest.last j newer delivers.waits.earlier)
    exact same ▸ delivers
  · intro delivers
    refine ⟨⟨delivers.waits.earlier, (run.puts_iff kind k).mp delivers.waits.put, ?_⟩,
      (run.carries_iff increasing kind n).mpr ⟨k, delivers⟩⟩
    intro j after below publishes
    exact delivers.waits.kept j after below ((run.puts_iff kind j).mpr publishes)

/-- What one poll of a session delivers, in terms of the publications and polls before it. -/
structure LatestWins (run : Session F) (n : Nat) : Prop where
  /-- An emergency stop is reported if one was published since the last poll that reported one. -/
  stop : (run.command n).emergencyStop = true ↔ ∃ k < n, run.Publishes .emergencyStop k ∧
    ∀ j, k < j → j < n → ¬ run.Carries .emergencyStop j
  /-- Then nothing else is reported. -/
  alone : (run.command n).emergencyStop = true → run.command n = { emergencyStop := true }
  /-- Otherwise each slot's most recent message is reported, unless it was delivered before. -/
  latest : (run.command n).emergencyStop = false → ∀ message, message.kind ≠ .emergencyStop →
    ((run.command n).Reports message ↔ ∃ k seq, run.event k = .publish seq message ∧
      run.Newest message.kind k n ∧ ∀ j, k < j → j < n → ¬ run.Carries message.kind j)

/-- The deliveries of a session: at most once, in order, and none left out but for a newer one. -/
structure AtMostOnce (run : Session F) : Prop where
  once : ∀ kind k n n', run.Delivers kind k n → run.Delivers kind k n' → n = n'
  order : ∀ kind k k' n n', run.Delivers kind k n → run.Delivers kind k' n' → n < n' → k < k'
  skipped : ∀ kind k n, run.Publishes kind k → k < n → run.event n = .poll →
    (kind = .emergencyStop ∨ (run.command n).emergencyStop = false) →
    (∃ m ≤ n, run.Delivers kind k m) ∨ ∃ i, k < i ∧ i < n ∧ run.Publishes kind i

/-- A poll looks at a slot unless an emergency stop keeps it from the others. -/
theorem looks_of_poll (increasing : run.Increasing) {n : Nat} (polled : run.event n = .poll)
    {kind : SlotKind} (free : kind = .emergencyStop ∨ (run.command n).emergencyStop = false) :
    run.mailboxes.Looks kind n := by
  refine ⟨(run.take_iff n).mpr polled, ?_⟩
  rw [(run.mirrors increasing n).policy kind]
  show (kind == .emergencyStop || !(run.command n).emergencyStop) = true
  -- A poll looks at the stop always, and at the others if there is no stop.
  rcases free with stop | calm
  · rw [stop]
    rfl
  · rw [calm]
    simp

/-- Between a delivered publication and its poll nothing of its kind was carried. -/
theorem not_carried (increasing : run.Increasing) {kind : SlotKind} {k n : Nat}
    (delivers : run.mailboxes.Delivers kind k n) :
    ∀ j, k < j → j < n → ¬ run.Carries kind j := by
  intro j after below carries
  obtain ⟨i, earlier⟩ := (run.carries_iff increasing kind j).mp carries
  exact delivers.waits.unread j after below earlier.looks

/-- A publication after which nothing of its kind was carried is delivered, or one after it. -/
theorem delivers_of_not_carried (increasing : run.Increasing) {n : Nat}
    (polled : run.event n = .poll) {kind : SlotKind}
    (free : kind = .emergencyStop ∨ (run.command n).emergencyStop = false) {k : Nat}
    (later : k < n) (publishes : run.Publishes kind k)
    (carried : ∀ j, k < j → j < n → ¬ run.Carries kind j) :
    ∃ j, k ≤ j ∧ run.mailboxes.Delivers kind j n := by
  refine MailboxRun.delivers_of_unread ((run.puts_iff kind k).mpr publishes) later
    (run.looks_of_poll increasing polled free) ?_
  intro i after below j delivers
  exact carried i after below ((run.carries_iff increasing kind i).mpr ⟨j, delivers⟩)

/-- Each poll reads the latest messages. -/
theorem latestWins (increasing : run.Increasing) {n : Nat} (polled : run.event n = .poll) :
    run.LatestWins n := by
  have take := (run.take_iff n).mpr polled
  refine ⟨?_, CommandChannel.command_of_stop (c := (run.after n).channel), ?_⟩
  · -- Of an emergency stop the poll tells that one waits, whichever it is.
    rw [run.emergencyStop_iff_taken increasing]
    constructor
    · rintro ⟨message, taken⟩
      obtain ⟨k, -, delivers⟩ := (run.mailboxes.taken_eq_some_iff take message).mp taken
      exact ⟨k, delivers.waits.earlier, (run.puts_iff _ k).mp delivers.waits.put,
        run.not_carried increasing delivers⟩
    · rintro ⟨k, later, publishes, carried⟩
      obtain ⟨j, -, delivers⟩ := run.delivers_of_not_carried increasing polled (Or.inl rfl) later
        publishes carried
      obtain ⟨message, put⟩ := delivers.waits.put
      exact ⟨message, (run.mailboxes.taken_eq_some_iff take message).mpr ⟨j, put, delivers⟩⟩
  · -- Of every other kind it carries the message itself.
    intro calm message other
    rw [run.reports_iff_taken increasing other calm]
    constructor
    · intro taken
      obtain ⟨k, put, delivers⟩ := (run.mailboxes.taken_eq_some_iff take message).mp taken
      obtain ⟨-, seq, happened⟩ := run.published_of_put put
      exact ⟨k, seq, happened, ((run.delivers_iff increasing _ k n).mpr delivers).1,
        run.not_carried increasing delivers⟩
    · rintro ⟨k, seq, happened, newest, carried⟩
      obtain ⟨j, from_, delivers⟩ := run.delivers_of_not_carried increasing polled (Or.inr calm)
        newest.earlier newest.publishes carried
      -- Nothing newer than the most recent publication can have been delivered.
      have same : j = k := by
        by_contra different
        exact newest.last j (by omega) delivers.waits.earlier
          ((run.puts_iff _ j).mp delivers.waits.put)
      subst same
      exact (run.mailboxes.taken_eq_some_iff take message).mpr
        ⟨j, run.put_of_published happened, delivers⟩

/-- In a session every poll reads the latest messages, each of which is delivered once at most. -/
theorem latest_wins (increasing : run.Increasing) :
    (∀ n, run.event n = .poll → run.LatestWins n) ∧ run.AtMostOnce := by
  refine ⟨fun n polled => run.latestWins increasing polled, ?_, ?_, ?_⟩
  -- The three parts are those of mailboxes: once, in order, and not lost.
  · intro kind k n n' first second
    exact MailboxRun.Delivers.once ((run.delivers_iff increasing kind k n).mp first)
      ((run.delivers_iff increasing kind k n').mp second)
  · intro kind k k' n n' first second later
    have between := MailboxRun.Delivers.order ((run.delivers_iff increasing kind k n).mp first)
      ((run.delivers_iff increasing kind k' n').mp second) later
    omega
  · intro kind k n publishes later polled free
    rcases MailboxRun.delivered_or_overwritten ((run.puts_iff kind k).mpr publishes) later
      (run.looks_of_poll increasing polled free) with
      ⟨m, bound, delivers⟩ | ⟨i, after, below, newer⟩
    · exact Or.inl ⟨m, bound, (run.delivers_iff increasing kind k m).mpr delivers⟩
    · exact Or.inr ⟨i, after, below, (run.puts_iff kind i).mp newer⟩

/-- A bench session: two arm commands, of which the first is overwritten, a doorbell, and polls. -/
def sessionBench : Session ℚ where
  rt := .constructed
  event
    | 0 => .publish 1 (.arm ⟨1, 0, 0, 0⟩)
    | 1 => .publish 2 (.arm ⟨0, 0, 0, 0⟩)
    | 2 => .doorbell 0x31 2
    | _ => .poll

/-- The two numbers of the bench session rise. -/
theorem sessionBench_increasing : sessionBench.Increasing where
  nonzero n seq message happened := by
    -- Only the first two events publish, with the numbers 1 and 2.
    match n with
    | 0 => cases happened; decide
    | 1 => cases happened; decide
    | 2 => cases happened
    | n + 3 => cases happened
  rising j k seq seq' message message' later first second _ := by
    match j, k with
    | 0, 1 => cases first; cases second; decide
    | 0, 2 => cases second
    | 0, k + 3 => cases second
    | 1, 2 => cases second
    | 1, k + 3 => cases second
    | 2, _ => cases first
    | j + 3, _ => cases first

/-- The first poll of the bench session delivers the second arm command. -/
theorem latest_wins_sessionBench : sessionBench.LatestWins 3 ∧ sessionBench.AtMostOnce ∧
    (sessionBench.command 3).arm = some ⟨0, 0, 0, 0⟩ := by
  obtain ⟨polls, once⟩ := sessionBench.latest_wins sessionBench_increasing
  exact ⟨polls 3 rfl, once, by decide +kernel⟩

end Session

end AmpFc
