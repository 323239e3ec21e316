import AmpFc.Rt.Receiver

/-! The frames the realtime receiver accepted, and what it reports of them. -/

namespace AmpFc

/-- A frame the receiver accepted: its channels as received, and the clock read for it. -/
structure AcceptedFrame where
  channels : Channels
  reading : Nat
  deriving DecidableEq

/-- What a byte adds to the frames accepted so far, whatever the configuration. -/
def acceptByte (acc : FrameBuffer × List AcceptedFrame) (rx : RxByte) :
    FrameBuffer × List AcceptedFrame :=
  -- A frame with a wrong checksum leaves no trace.
  match Receiver.pushBuffer acc.1 rx.byte with
  | .inl buffer => (buffer, acc.2)
  | .inr frame =>
    (.empty,
      if receiverChecksum frame ≠ frameHalf frame 30 then acc.2
      else acc.2 ++ [⟨frameChannels frame, rx.reading⟩])

/-- The buffer and the frames that one read of the backend leads to. -/
def acceptFrames (buffer : FrameBuffer) (rx : List RxByte) : FrameBuffer × List AcceptedFrame :=
  (rx.take receiverReadSize).foldl acceptByte (buffer, [])

/-- A read that brings nothing accepts nothing. -/
@[simp] theorem acceptFrames_nil (buffer : FrameBuffer) :
    acceptFrames buffer [] = (buffer, []) := rfl

/-- Every accepted frame carries the reading of one of the bytes received. -/
theorem acceptFrames_reading {buffer : FrameBuffer} {rx : List RxByte} {frame : AcceptedFrame}
    (accepted : frame ∈ (acceptFrames buffer rx).2) :
    ∃ byte ∈ rx, byte.reading = frame.reading := by
  -- The induction is on the bytes read, taken from the end.
  have source : ∀ bytes : List RxByte, frame ∈ (bytes.foldl acceptByte (buffer, [])).2 →
      ∃ byte ∈ bytes, byte.reading = frame.reading := by
    intro bytes
    induction bytes using List.reverseRecOn with
    | nil =>
      intro impossible
      cases impossible
    | append_singleton bytes byte ih =>
      intro found
      rw [List.foldl_append, List.foldl_cons, List.foldl_nil] at found
      have earlier : frame ∈ (bytes.foldl acceptByte (buffer, [])).2 →
          ∃ other ∈ bytes ++ [byte], other.reading = frame.reading := by
        intro before
        obtain ⟨other, member, same⟩ := ih before
        exact ⟨other, List.mem_append_left _ member, same⟩
      unfold acceptByte at found
      split at found
      · exact earlier found
      · -- A completed frame is either refused, or appended behind the earlier ones.
        split at found
        · exact earlier found
        · rcases List.mem_append.mp found with before | now
          · exact earlier before
          · have newest := List.mem_singleton.mp now
            exact ⟨byte, by simp, by rw [newest]⟩
  obtain ⟨byte, member, same⟩ := source _ accepted
  exact ⟨byte, List.mem_of_mem_take member, same⟩

namespace Receiver

variable {F : Type} [FloatArith F]

/-- The arm channel is not shaped. -/
@[simp] theorem shapeChannels_arm (r : Receiver F) (raw : Channels) :
    (r.shapeChannels raw).us 4 = raw.us 4 := by
  simp [shapeChannels, Channels.us]

/-- The failsafe channel is not shaped. -/
@[simp] theorem shapeChannels_failsafe (r : Receiver F) (raw : Channels) :
    (r.shapeChannels raw).us 5 = raw.us 5 := by
  simp [shapeChannels, Channels.us]

/-- The throttle channel is bent, and nothing else is done to it. -/
@[simp] theorem shapeChannels_throttle (r : Receiver F) (raw : Channels) :
    (r.shapeChannels raw).us 2 = applyThrottleExpo (raw.us 2) r.throttleExpo := by
  simp [shapeChannels, Channels.us]

/-- The sample made of an accepted frame. -/
def sampleOf (r : Receiver F) (frame : AcceptedFrame) : ReceiverSample where
  channels := r.shapeChannels frame.channels
  linkOk := true
  failsafeSwitch := frame.channels.us 5 > r.armSwitchThresholdUs
  timestampUs := frame.reading

/-- The receiver after some bytes: their rest in the buffer, and the last frame they held. -/
def heard (r : Receiver F) (buffer : FrameBuffer) : Option AcceptedFrame → Receiver F
  | none => { r with buffer := buffer }
  | some frame =>
    { r with buffer := buffer, lastFrameUs := frame.reading, lastSample := r.sampleOf frame }

/-- `pushByte`, with an accepted frame's sample spelled out. -/
theorem pushByte_eq (r : Receiver F) (rx : RxByte) (sample : ReceiverSample) :
    r.pushByte rx sample =
      match pushBuffer r.buffer rx.byte with
      | .inl buffer => (false, r.heard buffer none, sample)
      | .inr frame =>
        if receiverChecksum frame ≠ frameHalf frame 30 then (false, r.heard .empty none, sample)
        else (true, r.heard .empty (some ⟨frameChannels frame, rx.reading⟩),
          r.sampleOf ⟨frameChannels frame, rx.reading⟩) := by
  -- Only a completed frame needs a look at its checksum.
  unfold pushByte
  cases pushBuffer r.buffer rx.byte with
  | inl buffer => rfl
  | inr frame =>
    by_cases wrong : receiverChecksum frame ≠ frameHalf frame 30
    · have refused : r.decodeFrame frame sample = (false, sample) := if_pos wrong
      simp only [refused, if_pos wrong, Bool.not_false, if_true]
      rfl
    · -- Every field of the sample is written.
      have decoded : r.decodeFrame frame sample =
          (true, { sample with channels := r.shapeChannels (frameChannels frame) }) :=
        if_neg wrong
      simp only [decoded, if_neg wrong, Bool.not_true, Bool.false_eq_true, if_false, heard,
        sampleOf, shapeChannels_failsafe]

/-- One byte of the loop, in terms of the frames accepted. -/
theorem pollByte_heard (r : Receiver F) (acc : FrameBuffer × List AcceptedFrame)
    (sample : ReceiverSample) (rx : RxByte) :
    pollByte (acc.2.getLast?.isSome, r.heard acc.1 acc.2.getLast?,
        acc.2.getLast?.elim sample r.sampleOf) rx =
      ((acceptByte acc rx).2.getLast?.isSome,
        r.heard (acceptByte acc rx).1 (acceptByte acc rx).2.getLast?,
        (acceptByte acc rx).2.getLast?.elim sample r.sampleOf) := by
  obtain ⟨buffer, frames⟩ := acc
  -- The buffer does not depend on whether a frame was heard before.
  have stored : (r.heard buffer frames.getLast?).buffer = buffer := by
    cases frames.getLast? <;> rfl
  simp only [pollByte, pushByte_eq, acceptByte, stored]
  cases pushBuffer buffer rx.byte with
  | inl next => cases frames.getLast? <;> rfl
  | inr frame =>
    by_cases wrong : receiverChecksum frame ≠ frameHalf frame 30
    · simp only [if_pos wrong]
      cases frames.getLast? <;> rfl
    · -- An accepted frame replaces whatever was heard before.
      simp only [if_neg wrong, List.getLast?_concat]
      cases frames.getLast? <;> rfl

/-- The loop over all bytes, in terms of the frames accepted. -/
theorem foldl_pollByte (r : Receiver F) (sample : ReceiverSample) (rx : List RxByte) :
    (rx.take receiverReadSize).foldl pollByte (false, r, sample) =
      ((acceptFrames r.buffer rx).2.getLast?.isSome,
        r.heard (acceptFrames r.buffer rx).1 (acceptFrames r.buffer rx).2.getLast?,
        (acceptFrames r.buffer rx).2.getLast?.elim sample r.sampleOf) := by
  unfold acceptFrames
  -- The induction is on the bytes received, taken from the end.
  induction rx.take receiverReadSize using List.reverseRecOn with
  | nil => rfl
  | append_singleton rx byte ih =>
    simp only [List.foldl_append, List.foldl_cons, List.foldl_nil, ih]
    exact pollByte_heard r _ sample byte

/-- `poll` either reports the last frame it accepted, or supervises the link. -/
theorem poll_eq {r : Receiver F} (backed : r.hasBackend = true) (rx : List RxByte)
    (nowUs : Nat) :
    r.poll rx nowUs =
      match (acceptFrames r.buffer rx).2.getLast? with
      | some frame =>
        (r.heard (acceptFrames r.buffer rx).1 (some frame), some (r.sampleOf frame))
      | none =>
        let supervised := ({ r with buffer := (acceptFrames r.buffer rx).1 }).superviseLink nowUs
        (supervised.1, some supervised.2) := by
  -- The loop over the bytes is the fold, and its last frame decides.
  have present : ¬ ((!r.hasBackend) = true) := by simp [backed]
  rw [poll, if_neg present, foldl_pollByte]
  cases (acceptFrames r.buffer rx).2.getLast? with
  | none => rfl
  | some frame => rfl

omit [FloatArith F] in
/-- While the link is alive the kept sample is reported again, with its switch read anew. -/
theorem superviseLink_alive {r : Receiver F} {nowUs : Nat}
    (alive : r.hasLink nowUs receiverLinkTimeoutUs = true) :
    r.superviseLink nowUs = (r, { r.lastSample with
      linkOk := true
      failsafeSwitch := r.lastSample.channels.us 5 > r.armSwitchThresholdUs }) := by
  simp [superviseLink, alive]

omit [FloatArith F] in
/-- A lost link raises the failsafe switch, in the sample reported and in the one kept. -/
theorem superviseLink_lost {r : Receiver F} {nowUs : Nat}
    (lost : r.hasLink nowUs receiverLinkTimeoutUs = false) :
    ∃ sample, r.superviseLink nowUs = ({ r with lastSample := sample }, sample) ∧
      sample.failsafeSwitch = true ∧ sample.channels.us 4 = channelMinUs ∧
      sample.channels.us 5 = r.lastSample.channels.us 5 := by
  -- The lost sample keeps the failsafe channel and lowers the arm channel.
  refine ⟨lostSample { r.lastSample with
    linkOk := r.hasLink nowUs receiverLinkTimeoutUs
    failsafeSwitch := r.lastSample.channels.us 5 > r.armSwitchThresholdUs }, ?_, rfl, ?_, ?_⟩
  · simp [superviseLink, lost]
  · simp [lostSample, Channels.us]
  · simp [lostSample, Channels.us]

/-- What the receiver keeps of the last frame it ever accepted. -/
structure Tracks (r : Receiver F) (last : Option AcceptedFrame) : Prop where
  reading : r.lastFrameUs = last.elim 0 AcceptedFrame.reading
  failsafe : r.lastSample.channels.us 5 = last.elim (0 : UInt16) (·.channels.us 5)
  /-- A lost link lowers the kept arm switch, so only a high one tells what was received. -/
  arm : (1500 : UInt16) < r.lastSample.channels.us 4 →
    ∃ frame, last = some frame ∧ frame.channels.us 4 = r.lastSample.channels.us 4

/-- The receiver tracks the newest frame of the read, or else the one before. -/
theorem poll_tracks {r : Receiver F} {last : Option AcceptedFrame} (backed : r.hasBackend = true)
    (tracks : Tracks r last) (rx : List RxByte) (nowUs : Nat) :
    Tracks (r.poll rx nowUs).1 ((acceptFrames r.buffer rx).2.getLast?.or last) := by
  rw [poll_eq backed]
  cases (acceptFrames r.buffer rx).2.getLast? with
  | some frame =>
    refine ⟨rfl, shapeChannels_failsafe r _, fun _ => ⟨frame, rfl, ?_⟩⟩
    exact (shapeChannels_arm r _).symm
  | none =>
    -- Without a new frame the sample is kept, or a lost link lowers its arm switch.
    simp only [Option.none_or]
    cases alive : Receiver.hasLink { r with buffer := (acceptFrames r.buffer rx).1 } nowUs
        receiverLinkTimeoutUs with
    | true =>
      rw [superviseLink_alive alive]
      exact ⟨tracks.reading, tracks.failsafe, tracks.arm⟩
    | false =>
      obtain ⟨sample, supervised, -, low, kept⟩ := superviseLink_lost alive
      rw [supervised]
      refine ⟨tracks.reading, kept.trans tracks.failsafe, fun high => ?_⟩
      simp only [low] at high
      exact absurd high (by decide)

/-- `poll` changes neither backend nor configuration, and buffers what it could not use. -/
theorem poll_frame {r : Receiver F} (backed : r.hasBackend = true) (rx : List RxByte)
    (nowUs : Nat) :
    ∃ lastSample lastFrameUs, (r.poll rx nowUs).1 = { r with
      buffer := (acceptFrames r.buffer rx).1
      lastSample := lastSample
      lastFrameUs := lastFrameUs } := by
  -- Hearing a frame and supervising the link write the same fields.
  rw [poll_eq backed]
  cases (acceptFrames r.buffer rx).2.getLast? with
  | some frame => exact ⟨_, _, rfl⟩
  | none =>
    cases alive : Receiver.hasLink { r with buffer := (acceptFrames r.buffer rx).1 } nowUs
        receiverLinkTimeoutUs with
    | true =>
      rw [superviseLink_alive alive]
      exact ⟨_, _, rfl⟩
    | false =>
      obtain ⟨sample, supervised, -⟩ := superviseLink_lost alive
      rw [supervised]
      exact ⟨_, _, rfl⟩

/-- A receiver with a backend always reports a sample. -/
theorem poll_isSome {r : Receiver F} (backed : r.hasBackend = true) (rx : List RxByte)
    (nowUs : Nat) : ∃ sample, (r.poll rx nowUs).2 = some sample := by
  rw [poll_eq backed]
  cases (acceptFrames r.buffer rx).2.getLast? with
  | some frame => exact ⟨_, rfl⟩
  | none => exact ⟨_, rfl⟩

/-- A sample whose failsafe switch is low comes from a link that is alive. -/
theorem poll_clear {r : Receiver F} (backed : r.hasBackend = true) {rx : List RxByte}
    {nowUs : Nat} {sample : ReceiverSample} (polled : (r.poll rx nowUs).2 = some sample)
    (clear : sample.failsafeSwitch = false) :
    sample.linkOk = true ∧ sample.channels.us 5 ≤ r.armSwitchThresholdUs ∧
      ((acceptFrames r.buffer rx).2 ≠ [] ∨ clockSub nowUs r.lastFrameUs ≤ receiverLinkTimeoutUs ∧
        sample.channels = r.lastSample.channels) := by
  -- The sample is new, or kept from a live link, or it would have its switch raised.
  rw [poll_eq backed] at polled
  cases newest : (acceptFrames r.buffer rx).2.getLast? with
  | some frame =>
    rw [newest] at polled
    cases polled
    refine ⟨rfl, ?_, .inl (fun none => by simp [none] at newest)⟩
    simpa [sampleOf] using clear
  | none =>
    rw [newest] at polled
    cases alive : Receiver.hasLink { r with buffer := (acceptFrames r.buffer rx).1 } nowUs
        receiverLinkTimeoutUs with
    | true =>
      simp only [superviseLink_alive alive] at polled
      cases polled
      have young : clockSub nowUs r.lastFrameUs ≤ receiverLinkTimeoutUs := by
        simp only [hasLink, Bool.and_eq_true, decide_eq_true_eq] at alive
        exact alive.2
      exact ⟨rfl, by simpa using clear, .inr ⟨young, rfl⟩⟩
    | false =>
      obtain ⟨lost, supervised, raised, -⟩ := superviseLink_lost alive
      simp only [supervised] at polled
      cases polled
      rw [raised] at clear
      cases clear

/-- A high arm switch under a low failsafe switch was received so, and recently. -/
theorem poll_armed {r : Receiver F} {last : Option AcceptedFrame} (backed : r.hasBackend = true)
    (tracks : Tracks r last) {rx : List RxByte} {nowUs : Nat} {sample : ReceiverSample}
    (polled : (r.poll rx nowUs).2 = some sample) (clear : sample.failsafeSwitch = false)
    (high : (1500 : UInt16) < sample.channels.us 4) :
    ∃ frame, (acceptFrames r.buffer rx).2.getLast?.or last = some frame ∧
      (1500 : UInt16) < frame.channels.us 4 ∧ frame.channels.us 5 ≤ r.armSwitchThresholdUs ∧
      ((acceptFrames r.buffer rx).2 ≠ [] ∨
        clockSub nowUs frame.reading ≤ receiverLinkTimeoutUs) := by
  obtain ⟨-, low, source⟩ := poll_clear backed polled clear
  cases newest : (acceptFrames r.buffer rx).2.getLast? with
  | some frame =>
    -- The sample was made of this frame, and the two switches pass unchanged.
    rw [poll_eq backed, newest] at polled
    cases polled
    simp only [sampleOf, shapeChannels_arm, shapeChannels_failsafe] at high low
    exact ⟨frame, rfl, high, low, .inl (fun none => by simp [none] at newest)⟩
  | none =>
    have silent : (acceptFrames r.buffer rx).2 = [] := List.getLast?_eq_none_iff.mp newest
    rcases source with some | ⟨young, same⟩
    · exact absurd silent some
    · rw [same] at high low
      obtain ⟨frame, heard, arm⟩ := tracks.arm high
      have reading := tracks.reading
      have failsafe := tracks.failsafe
      simp only [heard, Option.elim] at reading failsafe
      refine ⟨frame, by rw [Option.none_or, heard], arm ▸ high, failsafe ▸ low, .inr ?_⟩
      rw [← reading]
      exact young

end Receiver

end AmpFc
