import AmpFc.Common.Ibus
import AmpFc.Lib.Counter

/-! The receiver of the realtime node: frame parser, channel shaping, and link supervision. -/

namespace AmpFc

open FloatArith (ofRat lround)

/-- `kChannelCenterUs`. -/
def channelCenterUs : UInt16 := 1500

/-- `kChannelMinUs`. -/
def channelMinUs : UInt16 := 1000

/-- `kChannelMaxUs`. -/
def channelMaxUs : UInt16 := 2000

/-- The number of bytes `Receiver::poll` asks its backend for. -/
def receiverReadSize : Nat := 96

/-- The age in microseconds up to which `Receiver::poll` counts the link as alive. -/
def receiverLinkTimeoutUs : Nat := 80000

/-- Difference of two readings of the microsecond clock, as an unsigned 64-bit value. -/
def clockSub (later earlier : Nat) : Nat := wrappingSub 64 later earlier

/-- A decoded frame with what the receiver makes of it. -/
structure ReceiverSample where
  channels : Channels := .replicate 14 0
  linkOk : Bool := false
  failsafeSwitch : Bool := false
  timestampUs : Nat := 0
  deriving DecidableEq

/-- The receiver's state; the frame buffer stands for both buffer and index. -/
structure Receiver (F : Type) where
  hasBackend : Bool
  buffer : FrameBuffer
  lastSample : ReceiverSample
  /-- The clock at the last accepted frame, where zero stands for none. -/
  lastFrameUs : Nat
  armSwitchThresholdUs : UInt16
  deadzoneUs : UInt16
  throttleExpo : F

/-- `applyCenterDeadzone`. -/
def applyCenterDeadzone (valueUs deadzoneUs : UInt16) : UInt16 :=
  -- A pulse close enough to the centre becomes the centre itself.
  if ((valueUs.toNat : Int) - channelCenterUs.toNat).natAbs < deadzoneUs.toNat then
    channelCenterUs
  else valueUs

/-- `applyThrottleExpo`. -/
def applyThrottleExpo {F : Type} [FloatArith F] (valueUs : UInt16) (throttleExpo : F) : UInt16 :=
  -- The pulse is scaled to minus one up to one, bent by a cubic, and scaled back.
  let normalized := FloatArith.clamp
    ((ofRat valueUs.toNat - ofRat channelMinUs.toNat) /
      ofRat (channelMaxUs - channelMinUs).toNat) (ofRat 0) (ofRat 1)
  let centered := (normalized - ofRat (1 / 2)) * ofRat 2
  let shaped := ((ofRat 1 - throttleExpo) * centered) +
    (throttleExpo * centered * centered * centered)
  let output := (shaped * ofRat (1 / 2)) + ofRat (1 / 2)
  let pwm := ofRat channelMinUs.toNat + output * ofRat (channelMaxUs - channelMinUs).toNat
  -- Rounding comes before the clamp, which is done on integers.
  UInt16.ofNat (max (min (lround pwm) channelMaxUs.toNat) channelMinUs.toNat).toNat

/-- `Receiver::checksum`: the sum of the first thirty bytes, subtracted from all ones. -/
def receiverChecksum (frame : List UInt8) : UInt16 :=
  0xFFFF - (frame.take 30).foldl (fun sum byte => sum + byte.toUInt16) 0

namespace Receiver

variable {F : Type} [FloatArith F]

/-- A receiver with a backend, after construction and `init`. -/
def initial (armSwitchThresholdUs : UInt16) : Receiver F where
  hasBackend := true
  buffer := .empty
  lastSample := {}
  lastFrameUs := 0
  armSwitchThresholdUs := armSwitchThresholdUs
  deadzoneUs := 15
  throttleExpo := ofRat (45 / 100)

/-- `Receiver::applyConfig`. -/
def applyConfig (r : Receiver F) (config : FlightConfig F) : Receiver F :=
  { r with
    deadzoneUs := if config.deadzoneUs > 100 then 100 else config.deadzoneUs
    throttleExpo := FloatArith.clamp config.throttleExpo (ofRat 0) (ofRat (95 / 100)) }

/-- The channels of a frame after shaping; only sticks and throttle are touched. -/
def shapeChannels (r : Receiver F) (raw : Channels) : Channels :=
  -- The arm and failsafe channels, four and five, pass unchanged.
  (((raw.setIfInBounds 0 (applyCenterDeadzone (raw.us 0) r.deadzoneUs)).setIfInBounds 1
    (applyCenterDeadzone (raw.us 1) r.deadzoneUs)).setIfInBounds 3
    (applyCenterDeadzone (raw.us 3) r.deadzoneUs)).setIfInBounds 2
    (applyThrottleExpo (raw.us 2) r.throttleExpo)

/-- `Receiver::decodeFrame`: whether the checksum matches, and the sample written if so. -/
def decodeFrame (r : Receiver F) (frame : List UInt8) (sample : ReceiverSample) :
    Bool × ReceiverSample :=
  if receiverChecksum frame ≠ frameHalf frame 30 then (false, sample)
  else (true, { sample with channels := r.shapeChannels (frameChannels frame) })

/-- What one byte does to the frame buffer: nothing complete yet, or thirty-two bytes. -/
def pushBuffer (buffer : FrameBuffer) (byte : UInt8) : FrameBuffer ⊕ List UInt8 :=
  -- A wrong first byte is skipped, and a wrong second byte restarts the search behind itself.
  if buffer.bytes.length = 0 ∧ byte ≠ 0x20 then .inl buffer
  else if buffer.bytes.length = 1 ∧ byte ≠ ibusCmd then .inl .empty
  else buffer.push byte

/-- `Receiver::pushByte`, with the clock read if the byte completes a valid frame. -/
def pushByte (r : Receiver F) (rx : RxByte) (sample : ReceiverSample) :
    Bool × Receiver F × ReceiverSample :=
  match pushBuffer r.buffer rx.byte with
  | .inl buffer => (false, { r with buffer := buffer }, sample)
  | .inr frame =>
    -- The index is reset whether or not the frame turns out to be valid.
    let decoded := r.decodeFrame frame sample
    if !decoded.1 then (false, { r with buffer := .empty }, decoded.2)
    else
      let sample := { decoded.2 with
        timestampUs := rx.reading
        linkOk := true
        failsafeSwitch := decoded.2.channels.us 5 > r.armSwitchThresholdUs }
      (true, { r with buffer := .empty, lastFrameUs := rx.reading, lastSample := sample }, sample)

/-- `Receiver::hasLink`. -/
def hasLink (r : Receiver F) (nowUs timeoutUs : Nat) : Bool :=
  -- A frame accepted at clock zero is taken for no frame at all.
  r.lastFrameUs ≠ 0 && clockSub nowUs r.lastFrameUs ≤ timeoutUs

/-- One turn of the loop in `Receiver::poll`: the flag, the receiver, and the sample. -/
def pollByte (acc : Bool × Receiver F × ReceiverSample) (rx : RxByte) :
    Bool × Receiver F × ReceiverSample :=
  let pushed := acc.2.1.pushByte rx acc.2.2
  if pushed.1 then (true, pushed.2.1, pushed.2.1.lastSample)
  else (acc.1, pushed.2.1, pushed.2.2)

/-- The sample that replaces a lost link: neutral sticks, low throttle and switch, failsafe. -/
def lostSample (sample : ReceiverSample) : ReceiverSample :=
  -- Channel five keeps its value, and the failsafe switch is raised all the same.
  { sample with
    channels := ((((sample.channels.setIfInBounds 2 channelMinUs).setIfInBounds 4
      channelMinUs).setIfInBounds 0 channelCenterUs).setIfInBounds 1
      channelCenterUs).setIfInBounds 3 channelCenterUs
    failsafeSwitch := true
    linkOk := false }

/-- The part of `Receiver::poll` that runs without a new frame, at clock reading `nowUs`. -/
def superviseLink (r : Receiver F) (nowUs : Nat) : Receiver F × ReceiverSample :=
  let sample := { r.lastSample with
    linkOk := r.hasLink nowUs receiverLinkTimeoutUs
    failsafeSwitch := r.lastSample.channels.us 5 > r.armSwitchThresholdUs }
  if !sample.linkOk then
    -- A lost link overwrites the sample that is kept, too.
    ({ r with lastSample := lostSample sample }, lostSample sample)
  else (r, sample)

/-- `Receiver::poll`; without a backend there is no sample. -/
def poll (r : Receiver F) (rx : List RxByte) (nowUs : Nat) :
    Receiver F × Option ReceiverSample :=
  if !r.hasBackend then (r, none)
  else
    -- The last frame of the read is reported, and without one the link is supervised.
    match (rx.take receiverReadSize).foldl pollByte (false, r, {}) with
    | (true, r, sample) => (r, some sample)
    | (false, r, _) =>
      match r.superviseLink nowUs with
      | (r, sample) => (r, some sample)

end Receiver

end AmpFc
