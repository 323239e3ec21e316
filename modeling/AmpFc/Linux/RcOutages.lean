import AmpFc.Lib.Watchdog
import AmpFc.Linux.TelemetryNode

/-! The cycles of the telemetry node, and how it answers an outage of the remote control. -/

namespace AmpFc

/-- `RcSnapshot`. -/
structure RcSnapshot (F : Type) where
  linkOk : Bool
  setpoint : CommandSetpoint F

/-- What a cycle of `run` finds. -/
structure TelemetryInput (F : Type) where
  nowUs : UInt64
  snapshot : RcSnapshot F
  /-- The shared region, which the other core can write between two cycles. -/
  region : SharedCommandRegion F
  /-- The configuration that `maybeReadCliConfig` reads, if any, and how its send turns out. -/
  typed : Option (FlightConfig F × SendOutcome)
  /-- The one that `maybeLoadIniConfig` loads. -/
  loaded : Option (FlightConfig F × SendOutcome)
  setpointOutcome : SendOutcome
  stopOutcome : SendOutcome
  armOutcome : SendOutcome
  /-- The clock when the heartbeat is written. -/
  beatUs : UInt64
  beatOutcome : SendOutcome

/-- The node with the local variables of `run`. -/
structure TelemetryState (F : Type) where
  node : TelemetryNode F
  heartbeatSeq : UInt32 := 0
  lastRcOkUs : UInt64
  rcSeen : Bool := false
  failsafeSent : Bool := false
  setpointBudgetUs : UInt64 := 0
  heartbeatBudgetUs : UInt64 := 0

namespace TelemetryState

/-- `kTickUs`. -/
def tickUs : UInt64 := 10000

/-- `kSetpointIntervalUs`. -/
def setpointIntervalUs : UInt64 := 10000

/-- `kHeartbeatIntervalUs`. -/
def heartbeatIntervalUs : UInt64 := 50000

/-- `kRcTimeoutUs`. -/
def rcTimeoutUs : UInt64 := 200000

variable {F : Type}

/-- A tick is added to both budgets. -/
def tick (s : TelemetryState F) : TelemetryState F :=
  -- Both budgets count ticks of the loop, not the clock.
  { s with
    setpointBudgetUs := s.setpointBudgetUs + tickUs
    heartbeatBudgetUs := s.heartbeatBudgetUs + tickUs }

/-- The remote control is read once the setpoint is due, and its setpoint passed on. -/
def readRc [FloatArith F] (s : TelemetryState F) (input : TelemetryInput F) :
    TelemetryState F × SharedCommandRegion F :=
  if s.setpointBudgetUs ≥ setpointIntervalUs then
    let s := { s with setpointBudgetUs := 0 }
    -- Without a link the snapshot is dropped, setpoint and all.
    if input.snapshot.linkOk then
      let sent := s.node.mailbox.sendSetpoint input.region input.snapshot.setpoint
        input.setpointOutcome
      ({ s with
          rcSeen := true, lastRcOkUs := input.nowUs, failsafeSent := false
          node := { s.node with mailbox := sent.2.1 } }, sent.2.2)
    else (s, input.region)
  else (s, input.region)

/-- A configuration that was read is pushed. -/
def offer [FloatArith F] (s : TelemetryState F) (region : SharedCommandRegion F)
    (read : Option (FlightConfig F × SendOutcome)) : TelemetryState F × SharedCommandRegion F :=
  match read with
  | none => (s, region)
  | some (config, outcome) =>
    let pushed := s.node.pushConfig region config outcome
    ({ s with node := pushed.2.1 }, pushed.2.2)

/-- The answer to a timeout; the first component is what `sendEmergencyStop` returned, if called. -/
def answerTimeout (s : TelemetryState F) (region : SharedCommandRegion F)
    (input : TelemetryInput F) :
    Option Bool × TelemetryState F × SharedCommandRegion F :=
  if s.rcSeen && decide (input.nowUs - s.lastRcOkUs > rcTimeoutUs) && !s.failsafeSent then
    let stop := s.node.mailbox.sendEmergencyStop region 1 input.stopOutcome
    let arm := stop.2.1.sendArm stop.2.2 .failsafe input.armOutcome
    -- Whatever the two sends returned, the flag is set.
    (some stop.1, { s with node := { s.node with mailbox := arm.2.1 }, failsafeSent := true },
      arm.2.2)
  else (none, s, region)

/-- The heartbeat, once it is due. -/
def beat (s : TelemetryState F) (region : SharedCommandRegion F) (input : TelemetryInput F) :
    TelemetryState F × SharedCommandRegion F :=
  if s.heartbeatBudgetUs ≥ heartbeatIntervalUs then
    let seq := s.heartbeatSeq + 1
    let sent := s.node.mailbox.sendHeartbeat region input.beatUs seq input.beatOutcome
    ({ s with
        heartbeatBudgetUs := 0, heartbeatSeq := seq
        node := { s.node with mailbox := sent.2.1 } }, sent.2.2)
  else (s, region)

/-- One cycle of `run`. -/
def runCycle [FloatArith F] (s : TelemetryState F) (input : TelemetryInput F) :
    Option Bool × TelemetryState F × SharedCommandRegion F :=
  let (s, region) := s.tick.readRc input
  -- What was typed is pushed before what was loaded.
  let (s, region) := s.offer region input.typed
  let (s, region) := s.offer region input.loaded
  let (stop, s, region) := s.answerTimeout region input
  (stop, s.beat region input)

section Cycle

/-- What the run remembers about the remote control, as a watchdog. -/
def watch (s : TelemetryState F) : Watch UInt64 where
  heard := s.rcSeen
  last := s.lastRcOkUs
  fired := s.failsafeSent

/-- The timeout, in the arithmetic of the clock. -/
def overdue (last now : UInt64) : Bool := decide (now - last > rcTimeoutUs)

/-- Two states that differ in the node's configurations and counters only. -/
structure SameWatch (before after : TelemetryState F) : Prop where
  watch : after.watch = before.watch
  budget : after.setpointBudgetUs = before.setpointBudgetUs
  mode : after.node.mailbox.mode = before.node.mailbox.mode

/-- What two parts of a cycle leave alone, both together leave alone. -/
theorem SameWatch.trans {first second third : TelemetryState F} (before : SameWatch first second)
    (after : SameWatch second third) : SameWatch first third where
  watch := after.watch.trans before.watch
  budget := after.budget.trans before.budget
  mode := after.mode.trans before.mode

/-- Whether an emergency stop is sent depends on the device, the marks and the environment. -/
theorem sendEmergencyStop_result {left right : MailboxTransport}
    {region other : SharedCommandRegion F} (mode : left.mode = right.mode)
    (marked : region.wellMarked = other.wellMarked) (reason : UInt32) (outcome : SendOutcome) :
    (left.sendEmergencyStop region reason outcome).1 =
      (right.sendEmergencyStop other reason outcome).1 := by
  unfold MailboxTransport.sendEmergencyStop MailboxTransport.writeEmergencyCache
  rw [marked]
  -- Without marks the write fails before the doorbell is rung.
  cases other.wellMarked with
  | false => rfl
  | true =>
    show (outcome.flushed && MailboxTransport.sendCommand _ outcome) = _
    unfold MailboxTransport.sendCommand
    dsimp only
    rw [mode]
    rfl

/-- A send never changes how the device was opened. -/
theorem sendEmergencyStop_mode (t : MailboxTransport) (region : SharedCommandRegion F)
    (reason : UInt32) (outcome : SendOutcome) :
    (t.sendEmergencyStop region reason outcome).2.1.mode = t.mode := by
  unfold MailboxTransport.sendEmergencyStop MailboxTransport.writeEmergencyCache
  cases region.wellMarked <;> rfl

/-- Sending an arm command does not change the way of sending. -/
theorem sendArm_mode (t : MailboxTransport) (region : SharedCommandRegion F) (state : ArmState)
    (outcome : SendOutcome) : (t.sendArm region state outcome).2.1.mode = t.mode := by
  unfold MailboxTransport.sendArm MailboxTransport.writeArmCache
  cases region.wellMarked <;> rfl

/-- Nor does sending a configuration, which leaves the marks of the region alone. -/
theorem sendConfig_mode [FloatArith F] (t : MailboxTransport) (region : SharedCommandRegion F)
    (config : FlightConfig F) (outcome : SendOutcome) :
    (t.sendConfig region config outcome).2.1.mode = t.mode ∧
      (t.sendConfig region config outcome).2.2.wellMarked = region.wellMarked := by
  unfold MailboxTransport.sendConfig MailboxTransport.writeConfigCache
  cases marked : region.wellMarked with
  | false => exact ⟨rfl, marked⟩
  | true => exact ⟨rfl, marked⟩

/-- Nor does pushing one. -/
theorem pushConfig_mode [FloatArith F] (node : TelemetryNode F) (region : SharedCommandRegion F)
    (config : FlightConfig F) (outcome : SendOutcome) :
    (node.pushConfig region config outcome).2.1.mailbox.mode = node.mailbox.mode ∧
      (node.pushConfig region config outcome).2.2.wellMarked = region.wellMarked := by
  have sent := sendConfig_mode node.mailbox region (node.candidate config) outcome
  unfold TelemetryNode.pushConfig
  split
  · exact ⟨rfl, rfl⟩
  · -- Both exits behind the send keep the mailbox it leaves.
    dsimp only
    split
    · exact sent
    · exact sent

/-- Offering a configuration leaves the watch on the receiver alone. -/
theorem offer_same [FloatArith F] (s : TelemetryState F) (region : SharedCommandRegion F)
    (read : Option (FlightConfig F × SendOutcome)) :
    SameWatch s (s.offer region read).1 ∧
      (s.offer region read).2.wellMarked = region.wellMarked := by
  -- A push can only change the configurations and the counters.
  cases read with
  | none => exact ⟨⟨rfl, rfl, rfl⟩, rfl⟩
  | some offered =>
    obtain ⟨config, outcome⟩ := offered
    obtain ⟨mode, marked⟩ := pushConfig_mode s.node region config outcome
    exact ⟨⟨rfl, rfl, mode⟩, marked⟩

/-- So does a heartbeat. -/
theorem beat_same (s : TelemetryState F) (region : SharedCommandRegion F)
    (input : TelemetryInput F) :
    SameWatch s (s.beat region input).1 := by
  unfold beat
  split
  · refine ⟨rfl, rfl, ?_⟩
    -- An unmarked region is left alone, and the mailbox with it.
    unfold MailboxTransport.sendHeartbeat MailboxTransport.writeHeartbeatCache
    cases region.wellMarked <;> rfl
  · exact ⟨rfl, rfl, rfl⟩

/-- The remote control is read in every cycle, and only a link is remembered. -/
theorem readRc_tick [FloatArith F] {s : TelemetryState F} (input : TelemetryInput F)
    (budget : s.setpointBudgetUs = 0) :
    (s.tick.readRc input).1.setpointBudgetUs = 0 ∧
      (s.tick.readRc input).1.node.mailbox.mode = s.node.mailbox.mode ∧
      (input.snapshot.linkOk = true →
        (s.tick.readRc input).1.watch = ⟨true, input.nowUs, false⟩) ∧
      (input.snapshot.linkOk = false → (s.tick.readRc input).1.watch = s.watch ∧
        (s.tick.readRc input).2 = input.region) := by
  have due : s.tick.setpointBudgetUs ≥ setpointIntervalUs := by
    show s.setpointBudgetUs + tickUs ≥ setpointIntervalUs
    rw [budget]
    decide
  unfold readRc
  rw [if_pos due]
  -- The budgets are put aside, so that no comparison of states runs into their sums.
  generalize ticked : s.tick = t
  have node : t.node = s.node := by
    simp only [← ticked, tick]
  have watched : t.watch = s.watch := by
    simp only [← ticked, watch, tick]
  cases linked : input.snapshot.linkOk with
  | true => exact ⟨rfl, congrArg (fun node => node.mailbox.mode) node, fun _ => rfl, nofun⟩
  | false => exact ⟨rfl, congrArg (fun node => node.mailbox.mode) node, nofun,
      fun _ => ⟨watched, rfl⟩⟩

/-- The answer to a timeout is the watchdog's. -/
theorem answerTimeout_watch (s : TelemetryState F) (region : SharedCommandRegion F)
    (input : TelemetryInput F) :
    (s.answerTimeout region input).1 =
        (if s.watch.fires overdue false input.nowUs then
          some (s.node.mailbox.sendEmergencyStop region 1 input.stopOutcome).1 else none) ∧
      (s.answerTimeout region input).2.1.watch = s.watch.next overdue false input.nowUs ∧
      (s.answerTimeout region input).2.1.setpointBudgetUs = s.setpointBudgetUs ∧
      (s.answerTimeout region input).2.1.node.mailbox.mode = s.node.mailbox.mode := by
  have condition : (s.rcSeen && decide (input.nowUs - s.lastRcOkUs > rcTimeoutUs) &&
      !s.failsafeSent) = s.watch.fires overdue false input.nowUs := by
    rfl
  unfold answerTimeout
  rw [condition]
  cases fires : s.watch.fires overdue false input.nowUs with
  | true =>
    refine ⟨rfl, ?_, rfl, ?_⟩
    · show Watch.mk s.rcSeen s.lastRcOkUs true = _
      simp only [Watch.next, Bool.false_eq_true, if_false, fires, Bool.or_true]
      rfl
    · -- Neither of the two sends changes the device.
      exact (sendArm_mode _ _ _ _).trans (sendEmergencyStop_mode _ _ _ _)
  | false =>
    refine ⟨rfl, ?_, rfl, rfl⟩
    simp only [Watch.next, Bool.false_eq_true, if_false, fires, Bool.or_false]

/-- What a cycle does about the remote control. -/
structure CycleSpec (s : TelemetryState F) (input : TelemetryInput F) (stop : Option Bool)
    (after : TelemetryState F) : Prop where
  watch : after.watch = s.watch.next overdue input.snapshot.linkOk input.nowUs
  budget : after.setpointBudgetUs = 0
  mode : after.node.mailbox.mode = s.node.mailbox.mode
  stop : stop = if s.watch.fires overdue input.snapshot.linkOk input.nowUs then
    some (s.node.mailbox.sendEmergencyStop input.region 1 input.stopOutcome).1 else none

/-- A link that was just seen is not overdue. -/
theorem not_overdue_self (now : UInt64) : overdue now now = false := by
  -- No time at all has passed.
  unfold overdue
  rw [UInt64.sub_self]
  rfl

/-- A cycle is a step of the watchdog, whose firing sends the emergency stop. -/
theorem runCycle_spec [FloatArith F] {s : TelemetryState F} (input : TelemetryInput F)
    (budget : s.setpointBudgetUs = 0) :
    CycleSpec s input (s.runCycle input).1 (s.runCycle input).2.1 := by
  obtain ⟨readBudget, readMode, linked, unlinked⟩ := readRc_tick input budget
  unfold runCycle
  generalize s.tick.readRc input = read at readBudget readMode linked unlinked ⊢
  obtain ⟨first, region⟩ := read
  dsimp only at readBudget readMode linked unlinked ⊢
  obtain ⟨typedSame, typedMarks⟩ := offer_same first region input.typed
  generalize first.offer region input.typed = typed at typedSame typedMarks ⊢
  obtain ⟨second, typedRegion⟩ := typed
  dsimp only at typedSame typedMarks ⊢
  obtain ⟨loadedSame, loadedMarks⟩ := offer_same second typedRegion input.loaded
  generalize second.offer typedRegion input.loaded = loaded at loadedSame loadedMarks ⊢
  obtain ⟨third, loadedRegion⟩ := loaded
  dsimp only at loadedSame loadedMarks ⊢
  -- Reading and pushing configurations leaves the watchdog to the snapshot alone.
  have same := typedSame.trans loadedSame
  obtain ⟨stopped, watched, answerBudget, answerMode⟩ :=
    answerTimeout_watch third loadedRegion input
  generalize third.answerTimeout loadedRegion input = answer
    at stopped watched answerBudget answerMode ⊢
  obtain ⟨stop, fourth, answerRegion⟩ := answer
  dsimp only at stopped watched answerBudget answerMode ⊢
  have beaten := beat_same fourth answerRegion input
  rw [same.watch] at stopped watched
  have mode := same.mode.trans readMode
  refine ⟨?_, ?_, ?_, ?_⟩
  · rw [beaten.watch, watched]
    cases link : input.snapshot.linkOk with
    | true =>
      rw [linked link]
      simp only [Watch.next, Watch.fires, not_overdue_self, Bool.and_false, Bool.false_and,
        Bool.or_false, Bool.false_eq_true, if_false, if_true]
    | false => rw [(unlinked link).1]
  · exact beaten.budget.trans (answerBudget.trans (same.budget.trans readBudget))
  · exact beaten.mode.trans (answerMode.trans mode)
  · rw [stopped]
    cases link : input.snapshot.linkOk with
    | true =>
      rw [linked link]
      simp only [Watch.fires, not_overdue_self, Bool.and_false, Bool.false_and, Bool.not_true,
        Bool.false_eq_true, if_false]
    | false =>
      -- Without a link the region still has the marks it was found with.
      obtain ⟨kept, found⟩ := unlinked link
      have marked : loadedRegion.wellMarked = input.region.wellMarked := by
        rw [loadedMarks, typedMarks, found]
      rw [kept, sendEmergencyStop_result mode marked]

end Cycle

end TelemetryState

/-- A run of cycles behind the boot push, with what each of them finds. -/
structure TelemetryRun (F : Type) where
  /-- The mailbox as it was opened. -/
  mailbox : MailboxTransport
  bootRegion : SharedCommandRegion F
  bootOutcome : SendOutcome
  startUs : UInt64
  input : Nat → TelemetryInput F

namespace TelemetryRun

open TelemetryState (runCycle)

section Run

variable {F : Type} [FloatArith F] (run : TelemetryRun F)

/-- The state in which `run` enters its loop. -/
def start : TelemetryState F where
  node := ((TelemetryNode.constructed run.mailbox).pushConfig run.bootRegion defaultFlightConfig
    run.bootOutcome).2.1
  lastRcOkUs := run.startUs

/-- The state in front of a cycle. -/
def before (k : Nat) : TelemetryState F :=
  stateAt (fun s input => (runCycle s input).2.1) run.start run.input k

/-- Each cycle leads to the state before the next. -/
theorem before_succ (k : Nat) :
    run.before (k + 1) = (runCycle (run.before k) (run.input k)).2.1 := by
  unfold before
  rw [stateAt_succ]

/-- What `sendEmergencyStop` returned in a cycle, if it was called. -/
def stopAt (k : Nat) : Option Bool := (runCycle (run.before k) (run.input k)).1

end Run

section Outages

variable {F : Type} (run : TelemetryRun F)

/-- The snapshot of a cycle has a link. -/
def Link (k : Nat) : Prop := (run.input k).snapshot.linkOk = true

/-- Cycle `k` lies in the outage whose last link was in cycle `a`. -/
def Outage (a k : Nat) : Prop := Silence run.Link a k

/-- More than 200 ms have passed since cycle `a`. -/
def Overdue (a k : Nat) : Prop :=
  (run.input a).nowUs.toNat + 200000 < (run.input k).nowUs.toNat

/-- An emergency stop would be sent in this cycle. -/
def Sends (k : Nat) : Prop :=
  (run.mailbox.sendEmergencyStop (run.input k).region 1 (run.input k).stopOutcome).1 = true

/-- The clock does not run backwards. -/
def Nondecreasing : Prop := ∀ i j, i ≤ j → (run.input i).nowUs ≤ (run.input j).nowUs

/-- The first attempt of an outage is sent, or none could be. -/
def FirstAttemptDecides (n : Nat) : Prop :=
  ∀ a f, FirstAfter (run.Overdue a) a f → ∀ c, f < c → c < n → run.Outage a c →
    run.Sends c → run.Sends f

/-- On a clock that does not run backwards the subtraction does not wrap. -/
theorem due_iff {run : TelemetryRun F} (clock : run.Nondecreasing) {a k : Nat} (after : a ≤ k) :
    Watch.Due TelemetryState.overdue (fun j => (run.input j).nowUs) a k ↔ run.Overdue a k := by
  have forward := clock a k after
  -- A clock that has not gone back makes the difference one of naturals.
  have difference := UInt64.toNat_sub_of_le _ _ forward
  rw [UInt64.le_iff_toNat_le] at forward
  show decide ((run.input k).nowUs - (run.input a).nowUs > TelemetryState.rcTimeoutUs) = true ↔ _
  rw [decide_eq_true_iff, gt_iff_lt, UInt64.lt_iff_toNat_lt, difference]
  show 200000 < _ ↔ _
  unfold Overdue
  omega

variable [FloatArith F]

/-- Each outage of the first `n` cycles is answered by one emergency stop, and nothing else is. -/
structure AnswersOutages (n : Nat) : Prop where
  quiet : ∀ k < n, (∀ j ≤ k, ¬ run.Link j) → run.stopAt k = none
  once : ∀ a c, c < n → run.Outage a c →
    FirstAfter (fun j => run.Overdue a j ∧ run.Sends j) a c →
    (∃! k, (a < k ∧ k ≤ c) ∧ run.stopAt k = some true) ∧
      ∀ k, c < k → k < n → run.Outage a k → run.stopAt k ≠ some true

/-- Throughout the run every cycle reads the remote control, with the mailbox as it was opened. -/
theorem before_kept (k : Nat) :
    (run.before k).setpointBudgetUs = 0 ∧
      (run.before k).node.mailbox.mode = run.mailbox.mode := by
  -- The induction is on the cycles, and the boot push is the start.
  induction k with
  | zero => exact ⟨rfl, (TelemetryState.pushConfig_mode _ _ _ _).1⟩
  | succ k ih =>
    have spec := TelemetryState.runCycle_spec (run.input k) ih.1
    rw [before_succ]
    exact ⟨spec.budget, spec.mode.trans ih.2⟩

/-- The run is a run of the watchdog. -/
theorem before_watch (k : Nat) :
    (run.before k).watch =
      Watch.before TelemetryState.overdue (fun j => (run.input j).snapshot.linkOk)
        (fun j => (run.input j).nowUs) run.start.watch k := by
  -- The induction is on the cycles.
  induction k with
  | zero => rfl
  | succ k ih =>
    have next := (TelemetryState.runCycle_spec (run.input k) (run.before_kept k).1).watch
    rw [ih] at next
    rw [before_succ]
    exact next

variable {run}

/-- An emergency stop is tried exactly once in an outage, in the first cycle that is overdue. -/
theorem stopAt_eq_some_iff (clock : run.Nondecreasing) {k : Nat} {sent : Bool} :
    run.stopAt k = some sent ↔
      (run.Sends k ↔ sent = true) ∧ ∃ a, run.Outage a k ∧ FirstAfter (run.Overdue a) a k := by
  have stopped := (TelemetryState.runCycle_spec (run.input k) (run.before_kept k).1).stop
  rw [run.before_watch k,
    TelemetryState.sendEmergencyStop_result (run.before_kept k).2 rfl] at stopped
  -- The watchdog fires at the first index of each silence that is due.
  have fires := @Watch.fires_iff _ TelemetryState.overdue (fun j => (run.input j).snapshot.linkOk)
    (fun j => (run.input j).nowUs) run.start.watch rfl k
  -- Behind the last link a cycle is due for the watchdog exactly when it is overdue.
  have tried : (∃ a, Silence (fun j => (run.input j).snapshot.linkOk = true) a k ∧
      FirstAfter (Watch.Due TelemetryState.overdue (fun j => (run.input j).nowUs) a) a k) ↔
      ∃ a, run.Outage a k ∧ FirstAfter (run.Overdue a) a k := by
    refine exists_congr fun a => and_congr_right fun _ => ?_
    exact FirstAfter.congr fun j after => due_iff clock after.le
  rw [tried] at fires
  show (runCycle (run.before k) (run.input k)).1 = some sent ↔ _
  rw [stopped]
  unfold Sends
  by_cases first : ∃ a, run.Outage a k ∧ FirstAfter (run.Overdue a) a k
  · rw [if_pos (fires.mpr first), Option.some.injEq, and_iff_left first, Bool.eq_iff_iff]
  · rw [if_neg fun fired => first (fires.mp fired)]
    simp only [reduceCtorEq, first, and_false]

/-- Before the first link no emergency stop is tried. -/
theorem stopAt_unheard (clock : run.Nondecreasing) {k : Nat}
    (unheard : ∀ j ≤ k, ¬ run.Link j) : run.stopAt k = none := by
  -- A stop would belong to an outage, and an outage begins with a link.
  cases stopped : run.stopAt k with
  | none => rfl
  | some sent =>
    obtain ⟨-, a, outage, -⟩ := (stopAt_eq_some_iff clock).mp stopped
    exact absurd outage.begun (unheard a outage.later.le)

/-- An emergency stop is sent in an outage only by its first attempt. -/
theorem sent_iff (clock : run.Nondecreasing) {a f k : Nat} (first : FirstAfter (run.Overdue a) a f)
    (outage : run.Outage a k) : run.stopAt k = some true ↔ k = f ∧ run.Sends f := by
  rw [stopAt_eq_some_iff clock]
  -- The outage and its first overdue cycle are both unique.
  constructor
  · rintro ⟨sends, b, other, firstOther⟩
    obtain rfl := outage.unique other
    obtain rfl := first.unique firstOther
    exact ⟨rfl, sends.mpr rfl⟩
  · rintro ⟨rfl, sends⟩
    exact ⟨iff_of_true sends rfl, a, outage, first⟩

/-- Each outage gets its one emergency stop exactly if the first attempt decides. -/
theorem answersOutages_iff (run : TelemetryRun F) (clock : run.Nondecreasing) (n : Nat) :
    run.AnswersOutages n ↔ run.FirstAttemptDecides n := by
  constructor
  · intro answers a f first c later bound outage sends
    by_contra failed
    have overdue : run.Overdue a c := by
      have forward := UInt64.le_iff_toNat_le.mp (clock f c later.le)
      have past := first.holds
      unfold Overdue at past ⊢
      omega
    -- The first cycle that is overdue and sends comes no later than `c`, and not at `f`.
    obtain ⟨m, upTo, firstSend⟩ := @exists_firstAfter (fun j => run.Overdue a j ∧ run.Sends j) _ _
      outage.later ⟨overdue, sends⟩
    have within : run.Outage a m := outage.earlier firstSend.later upTo
    obtain ⟨⟨k, ⟨⟨after, before⟩, sent⟩, -⟩, -⟩ :=
      answers.once a m (upTo.trans_lt bound) within firstSend
    have attempt := (sent_iff clock first (within.earlier after before)).mp sent
    exact failed attempt.2
  · intro decides
    refine ⟨fun k _ unheard => stopAt_unheard clock unheard, ?_⟩
    intro a c bound outage firstSend
    obtain ⟨f, upTo, first⟩ := exists_firstAfter outage.later firstSend.holds.1
    -- Had the first attempt failed, `c` would be a later cycle in which the stop could be sent.
    have same : f = c := by
      rcases Nat.lt_or_eq_of_le upTo with earlier | same
      · have sends := decides a f first c earlier bound outage firstSend.holds.2
        exact absurd ⟨first.holds, sends⟩ (firstSend.first f first.later earlier)
      · exact same
    subst same
    refine ⟨⟨f, ⟨⟨first.later, le_rfl⟩, ?_⟩, ?_⟩, ?_⟩
    · exact (sent_iff clock first outage).mpr ⟨rfl, firstSend.holds.2⟩
    · rintro k ⟨⟨after, before⟩, sent⟩
      exact ((sent_iff clock first (outage.earlier after before)).mp sent).1
    · intro k later _ within sent
      have only := ((sent_iff clock first within).mp sent).1
      omega

end Outages

section Bench

/-- The link is there in the first cycle only; each cycle decides about its emergency stop. -/
def outageRun (acknowledged : Nat → Bool) : TelemetryRun ℚ where
  mailbox := { mode := .live }
  bootRegion := MailboxTransport.freshRegion
  bootOutcome := ⟨true, true⟩
  startUs := 0
  input k := {
    nowUs := UInt64.ofNat (10000 * min k 30)
    snapshot := ⟨decide (k = 0), SharedCommandRegion.zeroed.setpoint.payload⟩
    region := MailboxTransport.freshRegion
    typed := none
    loaded := none
    setpointOutcome := ⟨true, true⟩
    stopOutcome := ⟨true, acknowledged k⟩
    armOutcome := ⟨true, true⟩
    beatUs := UInt64.ofNat (10000 * min k 30)
    beatOutcome := ⟨true, true⟩ }

/-- The clock of the bench gains ten milliseconds in each of thirty cycles. -/
theorem outageRun_nowUs (acknowledged : Nat → Bool) (k : Nat) :
    ((outageRun acknowledged).input k).nowUs.toNat = 10000 * min k 30 := by
  show (UInt64.ofNat (10000 * min k 30)).toNat = _
  have small : 10000 * min k 30 < 2 ^ 64 := by omega
  exact UInt64.toNat_ofNat_of_lt' small

/-- It never goes back. -/
theorem outageRun_nondecreasing (acknowledged : Nat → Bool) :
    (outageRun acknowledged).Nondecreasing := by
  intro i j order
  rw [UInt64.le_iff_toNat_le, outageRun_nowUs, outageRun_nowUs]
  omega

/-- Its messages get through where they are acknowledged. -/
theorem outageRun_sends (acknowledged : Nat → Bool) (k : Nat) :
    (outageRun acknowledged).Sends k ↔ acknowledged k = true := by
  show (true && acknowledged k) = true ↔ _
  rw [Bool.true_and]

/-- The run is one long outage behind its first cycle. -/
theorem outageRun_outage (acknowledged : Nat → Bool) {k : Nat} (later : 0 < k) :
    (outageRun acknowledged).Outage 0 k := by
  -- Cycle zero has the only link.
  have linked : (outageRun acknowledged).Link 0 := by
    show decide (0 = 0) = true
    rfl
  refine ⟨linked, later, ?_⟩
  intro j after _ linked
  have first : j = 0 := of_decide_eq_true linked
  omega

/-- With every stop acknowledged the outage is answered. -/
theorem answersOutages_acknowledged : (outageRun fun _ => true).AnswersOutages 40 := by
  apply (answersOutages_iff _ (outageRun_nondecreasing _) 40).mpr
  intro a f _ c _ _ _ _
  exact (outageRun_sends _ f).mpr rfl

/-- A stop that is not acknowledged is not tried again, though the next one could be sent. -/
theorem not_answersOutages_lost :
    ¬ (outageRun fun k => decide (k ≠ 21)).AnswersOutages 23 := by
  intro answers
  have clock := outageRun_nondecreasing fun k => decide (k ≠ 21)
  have overdue : ∀ k, (outageRun fun k => decide (k ≠ 21)).Overdue 0 k ↔ 20 < k := by
    intro k
    unfold Overdue
    rw [outageRun_nowUs, outageRun_nowUs]
    omega
  have first : FirstAfter ((outageRun fun k => decide (k ≠ 21)).Overdue 0) 0 21 := by
    refine ⟨by omega, (overdue 21).mpr (by omega), ?_⟩
    intro j _ before late
    have after := (overdue j).mp late
    omega
  have refused : ¬ (outageRun fun k => decide (k ≠ 21)).Sends 21 := by
    rw [outageRun_sends]
    decide
  -- The stop of cycle 21 fails, and cycle 22 is the first one that could send it.
  have firstSend : FirstAfter (fun j => (outageRun fun k => decide (k ≠ 21)).Overdue 0 j ∧
      (outageRun fun k => decide (k ≠ 21)).Sends j) 0 22 := by
    refine ⟨by omega, ⟨(overdue 22).mpr (by omega), (outageRun_sends _ 22).mpr (by decide)⟩, ?_⟩
    rintro j _ before ⟨late, sends⟩
    have after := (overdue j).mp late
    obtain rfl : j = 21 := by omega
    exact refused sends
  obtain ⟨⟨k, ⟨⟨after, before⟩, sent⟩, -⟩, -⟩ :=
    answers.once 0 22 (by omega) (outageRun_outage _ (by omega)) firstSend
  exact refused ((sent_iff clock first (outageRun_outage _ after)).mp sent).2

end Bench

end TelemetryRun

end AmpFc
