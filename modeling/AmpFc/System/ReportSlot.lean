import AmpFc.System.FlightSystem

/-! What the report slot tells: every control step once, in order, and the truth about it. -/

namespace AmpFc

open MailboxTransport FlightRtNode

variable {F : Type} [FloatArith F]

section Counting

/-- Nothing before the control step counts a report. -/
theorem beforeControl_reportSeq (node : FlightRtNode F) (input : IterationInput F) :
    (node.beforeControl input).reportSeq = node.reportSeq := by
  have polled : (node.pollTransport input).reportSeq = node.reportSeq := by
    refine pollTransport_preserves (fun other => other.reportSeq = node.reportSeq)
      (fun _ same => same) ?_ ?_ ?_ ?_ input rfl
    · intro node arm same
      cases arm <;> exact same
    · intro node nowUs setpoint same
      cases setpoint <;> exact same
    · intro node nowUs heartbeat same
      cases heartbeat <;> exact same
    · intro node config same
      cases config <;> exact same
  have heard : ∀ node : FlightRtNode F, (node.pollReceiver input).reportSeq = node.reportSeq := by
    intro node
    -- Whatever the sample says, it is arm state, setpoint and actuator that it reaches.
    have switched : ∀ (node : FlightRtNode F) sample,
        (node.applyArmSwitch sample).reportSeq = node.reportSeq := by
      intro node sample
      unfold applyArmSwitch
      dsimp only
      split_ifs <;> rfl
    have applied : ∀ (node : FlightRtNode F) sample,
        (node.applyReceiver sample input.nowUs).reportSeq = node.reportSeq := by
      intro node sample
      unfold applyReceiver
      split_ifs
      · rfl
      · rfl
      · exact switched node sample
    cases polled : (node.receiver.poll input.rx input.linkUs).2 with
    | none =>
      simp only [pollReceiver, polled, Option.elim]
      rfl
    | some sample =>
      simp only [pollReceiver, polled, Option.elim]
      exact applied _ sample
  have checked : ∀ node : FlightRtNode F,
      (node.checkTimeouts input.safetyUs).reportSeq = node.reportSeq := by
    intro node
    by_cases armed : node.controller.armState = .armed
    · by_cases expired : node.TimedOut input.safetyUs
      · rw [checkTimeouts_expired armed expired]
        rfl
      · rw [checkTimeouts_kept armed expired]
    · rw [checkTimeouts_unarmed armed]
  rw [beforeControl, checked, heard, polled]

/-- An iteration has a report exactly if it comes to its control step, which counts it. -/
theorem iterate_report (mix : Mix F) (s : RunState F) (input : IterationInput F) :
    ((s.iterate mix input).2 = none ∧
        (s.iterate mix input).1.node.reportSeq = s.node.reportSeq) ∨
      ∃ attitude dtS, input.sensed = some attitude ∧
        (s.iterate mix input).1.node =
          ((s.node.beforeControl input).control mix attitude dtS input.reportUs).1 ∧
        (s.iterate mix input).2 =
          some ((s.node.beforeControl input).control mix attitude dtS input.reportUs).2 := by
  unfold RunState.iterate
  by_cases early : input.controlUs < s.nextControlDueUs
  · left
    simp only [if_pos early]
    exact ⟨trivial, beforeControl_reportSeq s.node input⟩
  · simp only [if_neg early]
    cases input.sensed with
    | none =>
      -- Without a sample there is failsafe instead of a report.
      exact Or.inl ⟨rfl, beforeControl_reportSeq s.node input⟩
    | some attitude => exact Or.inr ⟨attitude, _, rfl, rfl, rfl⟩

/-- Polling publishes nothing, and counts nothing. -/
theorem poll_reportSeq (t : RtosCmdquIsrTransport) (region : SharedCommandRegion F) :
    (t.poll region).2.reportSeq = t.reportSeq := by
  unfold RtosCmdquIsrTransport.poll
  dsimp only
  split_ifs <;> rfl

end Counting

/-- The attitude that a report carries. -/
def RtReport.attitude (report : RtReport F) : AttitudeState F where
  rollDeg := report.rollDeg
  pitchDeg := report.pitchDeg
  yawDeg := report.yawDeg
  rollRateDps := report.rollRateDps
  pitchRateDps := report.pitchRateDps
  yawRateDps := report.yawRateDps

/-- A status flag of a report. -/
def RtReport.Shows (report : RtReport F) (flag : UInt32) : Prop := report.statusFlags &&& flag ≠ 0

/-- The report tells the truth about the node that its control step left. -/
structure Truthful (node : FlightRtNode F) (report : RtReport F) : Prop where
  pulses : report.motorPwmUs = node.actuator.lastPwm
  healthy : report.Shows statusImuHealthy
  armed : report.Shows statusArmed ↔ node.controller.armState = .armed
  linked : report.Shows statusRcHealthy ↔ node.controller.armState = .armed
  failsafe : report.Shows statusFailsafe ↔ node.controller.armState = .failsafe
  turning : (∃ motor : Fin 4, report.motorPwmUs.get motor > 1000) → report.Shows statusArmed

/-- The flags are those of the arm state, and a node that is quiet turns no motor unarmed. -/
theorem control_truthful {node : FlightRtNode F} (quiet : Quiet node) (mix : Mix F)
    (attitude : AttitudeState F) (dtS : F) (reportUs : Nat) :
    Truthful (node.control mix attitude dtS reportUs).1
      (node.control mix attitude dtS reportUs).2 := by
  have same := control_armState mix node attitude dtS reportUs
  have flags : (node.control mix attitude dtS reportUs).2.statusFlags =
      (node.control mix attitude dtS reportUs).1.statusFlags := rfl
  have pulses : (node.control mix attitude dtS reportUs).2.motorPwmUs =
      (node.control mix attitude dtS reportUs).1.actuator.lastPwm :=
    (Actuator.output_lastPwm quiet.backed _).symm
  have armed : (node.control mix attitude dtS reportUs).2.Shows statusArmed ↔
      (node.control mix attitude dtS reportUs).1.controller.armState = .armed := by
    unfold RtReport.Shows
    rw [flags, statusFlags]
    cases (node.control mix attitude dtS reportUs).1.controller.armState <;> simp <;> decide
  refine ⟨pulses, ?_, armed, ?_, ?_, ?_⟩
  · unfold RtReport.Shows
    rw [flags, statusFlags]
    cases (node.control mix attitude dtS reportUs).1.controller.armState <;> simp <;> decide
  · unfold RtReport.Shows
    rw [flags, statusFlags]
    cases (node.control mix attitude dtS reportUs).1.controller.armState <;> simp <;> decide
  · unfold RtReport.Shows
    rw [flags, statusFlags]
    cases (node.control mix attitude dtS reportUs).1.controller.armState <;> simp <;> decide
  · rintro ⟨motor, turning⟩
    rw [armed]
    by_contra unarmed
    -- A control step that is not armed writes idle pulses.
    have idle := (quiet.control mix attitude dtS reportUs).idle unarmed
    rw [pulses, idle] at turning
    have low : idlePwm.get motor = 1000 := Vector.getElem_replicate motor.isLt
    rw [low] at turning
    exact absurd turning (by decide)

/-- No event lets the motors of a node turn that is not armed. -/
theorem FlightSystem.step_quiet (mix : Mix F) {s : FlightSystem F}
    (marked : s.channel.region.wellMarked = true) (quiet : Quiet s.channel.node)
    (event : FlightEvent F) : Quiet (s.step mix event).channel.node := by
  cases event with
  | outside event =>
    have same := (FlightSystem.step_outside s marked event).1
    exact same ▸ quiet
  | realtime input =>
    -- Of the two steps of the realtime core only an iteration reaches the node.
    unfold FlightSystem.step
    cases s.pending with
    | none => exact Quiet.iterate mix (s.polledInput input) quiet
    | some report => exact quiet

namespace FlightRun

variable (run : FlightRun F)

/-- In every run of both cores the motors stay quiet unless the node is armed. -/
theorem after_quiet (n : Nat) : Quiet (run.after n).channel.node := by
  -- The induction is on the events, none of which wakes a quiet node.
  induction n with
  | zero => exact Quiet.initialised run.boot.initUs rfl
  | succ n ih =>
    have next : run.after (n + 1) = (run.after n).step run.mix (run.event n) :=
      stateAt_succ _ _ _ n
    rw [next]
    exact FlightSystem.step_quiet run.mix (run.after_wellMarked n) ih (run.event n)

/-- No report is lost, repeated, or overtaken: what was made is published, or comes next. -/
theorem made_conserved (n : Nat) : producedBy run.made n =
    producedBy run.published n ++ (run.after n).pending.toList := by
  refine @producedBy_conserved _ run.made run.published (fun n => (run.after n).pending.toList)
    rfl ?_ n
  intro n
  -- An iteration makes the report that waits, and its publication takes it away.
  cases run.happens n with
  | outside event is turned silent next =>
    rw [next, silent]
    simp [made, turned]
  | turn input is silent idle next =>
    rw [next, idle, silent]
    simp [made, is, FlightSystem.turn]
  | publish report is turned waiting next =>
    rw [next, waiting, is]
    simp [made, turned, FlightSystem.publish]

/-- Both counters count what they should: the node its reports, the transport what is out. -/
theorem after_counts (n : Nat) :
    (run.after n).channel.node.reportSeq = UInt32.ofNat (producedBy run.made n).length ∧
      (run.after n).channel.rt.reportSeq = UInt32.ofNat (producedBy run.published n).length := by
  have one : ∀ count : Nat, UInt32.ofNat count + 1 = UInt32.ofNat (count + 1) := fun count => by
    rw [UInt32.ofNat_add]
    rfl
  -- The induction is on the events, each of which adds one report at most.
  induction n with
  | zero => exact ⟨rfl, rfl⟩
  | succ n ih =>
    obtain ⟨counted, numbered⟩ := ih
    rw [producedBy_succ, producedBy_succ]
    cases run.happens n with
    | outside event is turned silent next =>
      obtain ⟨node, count, -⟩ :=
        FlightSystem.step_outside _ (run.after_wellMarked n) event
      have unmade : run.made n = none := by simp [made, turned]
      rw [next, silent, unmade]
      simp only [Option.toList_none, List.append_nil]
      exact ⟨node ▸ counted, count.trans numbered⟩
    | turn input is silent idle next =>
      have made : run.made n = ((run.after n).iterated run.mix input).2 := by
        simp [FlightRun.made, is]
      rw [next, silent, made]
      simp only [Option.toList_none, List.append_nil]
      refine ⟨?_, ?_⟩
      · rcases iterate_report run.mix (run.after n).loop ((run.after n).polledInput input) with
          ⟨unreported, same⟩ | ⟨attitude, dtS, -, node, report⟩
        · have nothing : ((run.after n).iterated run.mix input).2 = none := unreported
          rw [nothing, Option.toList_none, List.append_nil]
          exact same.trans counted
        · have something : ((run.after n).iterated run.mix input).2 = some _ := report
          rw [something, Option.toList_some, List.length_append, List.length_singleton]
          -- The control step counts up from what the node had counted before.
          show ((run.after n).loop.iterate run.mix ((run.after n).polledInput input)).1.node.reportSeq
            = _
          rw [node]
          show (((run.after n).loop.node).beforeControl _).reportSeq + 1 = _
          rw [beforeControl_reportSeq]
          show (run.after n).channel.node.reportSeq + 1 = _
          rw [counted, one]
      · show ((run.after n).channel.rt.poll (run.after n).channel.region).2.reportSeq = _
        rw [poll_reportSeq, numbered]
    | publish report is turned waiting next =>
      have unmade : run.made n = none := by simp [made, turned]
      rw [next, is, unmade]
      simp only [Option.toList_none, List.append_nil, Option.toList_some, List.length_append,
        List.length_singleton]
      refine ⟨counted, ?_⟩
      show (run.after n).channel.rt.reportSeq + 1 = _
      rw [numbered, one]

/-- A report that is made carries the number of its place, and the truth about its control step. -/
theorem made_spec {k : Nat} {report : RtReport F} (made : run.made k = some report) :
    report.seq = UInt32.ofNat ((producedBy run.made k).length + 1) ∧
      ∃ input attitude, run.turnInput k = some input ∧ input.sensed = some attitude ∧
        report.attitude = attitude ∧ report.monotonicUs = UInt64.ofNat input.reportUs ∧
        Truthful (run.after (k + 1)).channel.node report := by
  obtain ⟨input, turned, iterated⟩ := Option.bind_eq_some_iff.mp made
  -- Only an iteration makes a report.
  have next : run.after (k + 1) = (run.after k).turn run.mix input := by
    cases run.happens k with
    | outside event is silent none next =>
      rw [silent] at turned
      cases turned
    | turn input' is silent idle next =>
      rw [is] at turned
      cases turned
      exact next
    | publish report is silent waiting next =>
      rw [silent] at turned
      cases turned
  rcases iterate_report run.mix (run.after k).loop ((run.after k).polledInput input) with
    ⟨unreported, -⟩ | ⟨attitude, dtS, sensed, node, reported⟩
  · have nothing : ((run.after k).iterated run.mix input).2 = none := unreported
    rw [nothing] at iterated
    cases iterated
  -- The number comes from the node before the iteration, the rest from the node after it.
  · have same : ((run.after k).iterated run.mix input).2 = some _ := reported
    rw [same] at iterated
    cases iterated
    have left := congrArg (fun s => s.channel.node) next
    refine ⟨?_, input, attitude, turned, sensed, rfl, rfl, ?_⟩
    · show ((run.after k).loop.node.beforeControl _).reportSeq + 1 = _
      rw [beforeControl_reportSeq, UInt32.ofNat_add]
      show (run.after k).channel.node.reportSeq + 1 = _
      rw [(run.after_counts k).1]
      rfl
    · rw [left]
      show Truthful ((run.after k).loop.iterate run.mix
        ((run.after k).polledInput input)).1.node _
      rw [node]
      exact control_truthful ((run.after_quiet k).beforeControl _) run.mix attitude dtS _

/-- The slot holds what was published last, or else what `init` left there. -/
theorem after_rtReport (n : Nat) : (run.after n).channel.region.rtReport =
    (producedBy run.published n).getLast?.elim run.start.channel.region.rtReport
      fun report => publishSlot report.seq report := by
  -- The induction is on the events, of which only a publication reaches the slot.
  induction n with
  | zero => rfl
  | succ n ih =>
    rw [producedBy_succ]
    cases run.happens n with
    | outside event is turned silent next =>
      rw [next, silent, Option.toList_none, List.append_nil]
      exact (FlightSystem.step_outside _ (run.after_wellMarked n) event).2.2.trans ih
    | turn input is silent idle next =>
      rw [next, silent, Option.toList_none, List.append_nil]
      exact ih
    | publish report is turned waiting next =>
      rw [next, is, Option.toList_some, List.getLast?_concat]
      -- The transport has counted as many reports as the node by now.
      have held : (producedBy run.made n)[(producedBy run.published n).length]? = some report := by
        rw [run.made_conserved n, waiting, Option.toList_some,
          List.getElem?_append_right le_rfl, Nat.sub_self]
        rfl
      obtain ⟨k, -, made, place⟩ := producedBy_source held
      have number := (run.made_spec made).1
      rw [place] at number
      have counted : (run.after n).channel.rt.reportSeq + 1 = report.seq := by
        rw [(run.after_counts n).2, number, UInt32.ofNat_add]
        rfl
      show (((run.after n).channel.rt.publish (run.after n).channel.region report).2).rtReport = _
      unfold RtosCmdquIsrTransport.publish
      dsimp only
      rw [counted, ite_self]
      rfl

/-- What the report slot tells after `n` events, next to the slots that Linux writes. -/
structure ReportChannel (n : Nat) : Prop where
  counted : (run.after n).channel.node.reportSeq = UInt32.ofNat (producedBy run.made n).length ∧
    (run.after n).channel.rt.reportSeq = UInt32.ofNat (producedBy run.published n).length
  conserved : producedBy run.made n =
    producedBy run.published n ++ (run.after n).pending.toList
  told : ∀ place report, (producedBy run.made n)[place]? = some report →
    report.seq = UInt32.ofNat (place + 1) ∧ ∃ k < n, ∃ input attitude,
      run.turnInput k = some input ∧ input.sensed = some attitude ∧ report.attitude = attitude ∧
        report.monotonicUs = UInt64.ofNat input.reportUs ∧
        Truthful (run.after (k + 1)).channel.node report
  slot : (run.after n).channel.region.rtReport =
    (producedBy run.published n).getLast?.elim run.start.channel.region.rtReport
      fun report => publishSlot report.seq report
  verified : producedBy run.published n ≠ [] →
    (verifySlot (run.after n).channel.region.rtReport = true ↔
      (producedBy run.published n).length % 2 ^ 32 ≠ 0)
  untouched : ∀ k < n, ∀ input, run.event k = .realtime input → ∀ kind,
    (run.after (k + 1)).channel.region.slot kind = (run.after k).channel.region.slot kind

/-- In every run the slot holds the report about the latest control step that is out, whole and with
its number; each control step is reported once and in order; a report tells the truth about the node
it comes from; the slot verifies unless the count of reports has come round to zero; and the slots
of Linux are not written by the realtime core. -/
theorem report_channel (n : Nat) : run.ReportChannel n := by
  refine ⟨run.after_counts n, run.made_conserved n, ?_, run.after_rtReport n, ?_, ?_⟩
  · intro place report stands
    obtain ⟨k, below, made, before⟩ := producedBy_source stands
    obtain ⟨number, input, attitude, truth⟩ := run.made_spec made
    exact ⟨before ▸ number, k, below, input, attitude, truth⟩
  · intro some
    obtain ⟨report, last⟩ := Option.ne_none_iff_exists'.mp (mt List.getLast?_eq_none_iff.mp some)
    rw [run.after_rtReport n, last]
    -- The last report published stands at the last place, and carries its number.
    have stands : (producedBy run.made n)[(producedBy run.published n).length - 1]? =
        Option.some report := by
      have positive := List.length_pos_of_ne_nil some
      rw [run.made_conserved n, List.getElem?_append_left (by omega), ← last,
        List.getLast?_eq_getElem?]
    obtain ⟨k, -, made, place⟩ := producedBy_source stands
    have number := (run.made_spec made).1
    have positive := List.length_pos_of_ne_nil some
    rw [place, Nat.sub_add_cancel positive] at number
    have zero : report.seq = 0 ↔ (producedBy run.published n).length % 2 ^ 32 = 0 := by
      rw [number, ← UInt32.toNat_inj, UInt32.toNat_ofNat']
      rfl
    show verifySlot (publishSlot report.seq report) = true ↔ _
    rw [ne_eq, ← zero]
    constructor
    · intro verified unnumbered
      have refused : verifySlot (publishSlot report.seq report) = false :=
        verifySlot_unnumbered unnumbered
      rw [refused] at verified
      cases verified
    · intro numbered
      exact verifySlot_of_crc numbered rfl
  · intro k below input event kind
    cases run.happens k with
    | outside other is turned silent next =>
      rw [event] at is
      cases is
    | turn input is silent idle next =>
      rw [next]
      rfl
    | publish report is turned waiting next =>
      rw [next]
      cases kind <;> rfl

end FlightRun

end AmpFc
