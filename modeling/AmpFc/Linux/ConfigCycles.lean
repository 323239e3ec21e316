import AmpFc.Lib.Execution
import AmpFc.Linux.ConfigLoad

/-! Cycles of the telemetry node: what becomes of an edit of the text file. -/

namespace AmpFc

open FloatArith (ofRat)

open TelemetryNode (AcceptedFor LineAssigns almostEqual limited parseConfigLine parseLines)

/-- What a cycle finds, its other sends being done. -/
structure CycleInput (F : Type) where
  /-- The text of the watched file, if it can be opened. -/
  file : Option (List Char)
  mailbox : MailboxTransport
  region : SharedCommandRegion F
  outcome : SendOutcome

namespace IniTelemetryNode

section Cycle

variable {F : Type} [FloatArith F] [FloatText F]

/-- The end of a cycle of `run` in which nothing is typed. -/
def cycle (node : IniTelemetryNode F) (input : CycleInput F) : IniTelemetryNode F :=
  let node := { node with mailbox := input.mailbox }
  let loaded := node.maybeLoadIniConfig input.file node.activeConfig
  let node := loaded.2.2
  if loaded.1 then
    { node with
      toTelemetryNode :=
        (node.toTelemetryNode.pushConfig input.region loaded.2.1 input.outcome).2.1 }
  else node

/-- The node behind the push of its own configuration with which `run` begins. -/
def booted (path : List Char) (input : CycleInput F) : IniTelemetryNode F :=
  let node := constructed input.mailbox path
  { node with
    toTelemetryNode :=
      (node.toTelemetryNode.pushConfig input.region node.activeConfig input.outcome).2.1 }

end Cycle

end IniTelemetryNode

section Agreement

/-- The sends of a cycle succeed. -/
def CycleInput.SendsSucceed {F : Type} [FloatArith F] (input : CycleInput F) : Prop :=
  ∀ config, (input.mailbox.sendConfig input.region config input.outcome).1 = true

variable {F : Type} [FloatArith F]

/-- Whether a value is sent as it was assigned, up to the tolerance for floats. -/
def AgreesValue : (field : ConfigField) → field.Value F → field.Value F → Prop
  | .angleP, assigned, active => almostEqual assigned active = true
  | .rateP, assigned, active => almostEqual assigned active = true
  | .rateI, assigned, active => almostEqual assigned active = true
  | .rateD, assigned, active => almostEqual assigned active = true
  | .throttleExpo, assigned, active => almostEqual assigned active = true
  | .deadzoneUs, assigned, active => assigned = active

/-- The ranges that `pushConfig` leaves unchanged. -/
def PushRange : (field : ConfigField) → field.Value F → Prop
  | .angleP, assigned => Between assigned (1 / 2) 20
  | .rateP, assigned => Between assigned (1 / 100) 1
  | .rateI, assigned => Between assigned 0 1
  | .rateD, assigned => Between assigned 0 (1 / 10)
  | .throttleExpo, assigned => Between assigned 0 (95 / 100)
  | .deadzoneUs, assigned => assigned ≤ 100

/-- Values in range are not changed by limiting them. -/
theorem value_limited [FloatOrder F] {config : FlightConfig F} {field : ConfigField}
    (ranged : PushRange field (config.value field)) :
    (limited config).value field = config.value field := by
  cases field with
  | deadzoneUs =>
    -- A deadzone within its bound takes the branch that keeps it.
    have small : ¬ config.deadzoneUs > 100 := UInt16.not_lt.mpr ranged
    exact if_neg small
  | _ => exact clamp_of_between ranged

/-- A push that is skipped as unchanged found every field in agreement. -/
theorem agreesValue_of_unchanged {node : TelemetryNode F} {config : FlightConfig F}
    (same : node.unchanged config = true) (field : ConfigField) :
    AgreesValue field (config.value field) (node.activeConfig.value field) := by
  -- The comparison is one conjunct for each field.
  simp only [TelemetryNode.unchanged, Bool.and_eq_true, beq_iff_eq] at same
  obtain ⟨⟨⟨⟨⟨angleP, rateP⟩, rateI⟩, rateD⟩, throttleExpo⟩, deadzoneUs⟩ := same
  cases field with
  | angleP => exact angleP
  | rateP => exact rateP
  | rateI => exact rateI
  | rateD => exact rateD
  | throttleExpo => exact throttleExpo
  | deadzoneUs => exact deadzoneUs

/-- Whether a configuration can be sent does not depend on the configuration. -/
theorem sendConfig_congr (mailbox : MailboxTransport) (region : SharedCommandRegion F)
    (config config' : FlightConfig F) (outcome : SendOutcome) :
    (mailbox.sendConfig region config outcome).1 =
      (mailbox.sendConfig region config' outcome).1 := by
  unfold MailboxTransport.sendConfig MailboxTransport.writeConfigCache
  cases region.wellMarked <;> rfl

/-- The three exits of a push, by what they leave active. -/
theorem pushConfig_active (node : TelemetryNode F) (region : SharedCommandRegion F)
    (config : FlightConfig F) (outcome : SendOutcome) :
    ((node.pushConfig region config outcome).2.1.activeConfig = node.activeConfig ∧
        (node.unchanged (limited config) = true ∨
          (node.mailbox.sendConfig region (node.candidate config) outcome).1 = false)) ∨
      (node.pushConfig region config outcome).2.1.activeConfig = node.candidate config := by
  unfold TelemetryNode.pushConfig
  split
  · -- Skipped as unchanged, so nothing becomes active.
    rename_i same
    rw [Bool.and_eq_true] at same
    exact Or.inl ⟨rfl, Or.inl same.1⟩
  · dsimp only
    split
    · -- The send failed, and the old configuration stays.
      rename_i unsent
      rw [Bool.not_eq_true'] at unsent
      exact Or.inl ⟨rfl, Or.inr unsent⟩
    · -- Sent, and the candidate becomes active whole.
      exact Or.inr rfl

/-- A push that cannot be sent leaves the active configuration as it was. -/
theorem pushConfig_unsent {node : TelemetryNode F} {region : SharedCommandRegion F}
    {config : FlightConfig F} {outcome : SendOutcome}
    (unsent : (node.mailbox.sendConfig region (node.candidate config) outcome).1 = false) :
    (node.pushConfig region config outcome).2.1.activeConfig = node.activeConfig := by
  unfold TelemetryNode.pushConfig
  -- Without a change nothing is sent, and what failed is not taken over.
  split
  · rfl
  · dsimp only
    rw [unsent]
    rfl

/-- What is sent of a configuration in range is what it says. -/
theorem value_candidate [FloatOrder F] (node : TelemetryNode F) {config : FlightConfig F}
    {field : ConfigField} (ranged : PushRange field (config.value field)) :
    (node.candidate config).value field = config.value field := by
  rw [← value_limited ranged]
  cases field <;> rfl

variable [FloatText F]

/-- The active configuration agrees with every assignment of a text, the last one of each key. -/
def Agrees (active : FlightConfig F) (text : List Char) : Prop :=
  ∀ field line, ∀ assigned : field.Value F,
    LastWith (AcceptedFor F field) (splitLines '\n' text) line → LineAssigns line field assigned →
      AgreesValue field assigned (active.value field)

/-- Whatever a line of the text assigns is finite and in range. -/
def TextInRange (F : Type) [FloatArith F] [FloatText F] (text : List Char) : Prop :=
  ∀ line ∈ splitLines '\n' text, ∀ field, ∀ assigned : field.Value F,
    LineAssigns line field assigned → PushRange field assigned

/-- A text in which no line is accepted agrees with every configuration. -/
theorem agrees_of_rejected {text : List Char} (config : FlightConfig F)
    (rejected : (parseLines (splitLines '\n' text) config).1 = false) (active : FlightConfig F) :
    Agrees active text := by
  intro field line assigned last assigns
  -- An assignment is an accepted line, and the loop would have reported it.
  have updated := (TelemetryNode.parseLines_updated (splitLines '\n' text) config).mpr
    ⟨line, last.mem.1, by rw [assigns.parse]⟩
  rw [rejected] at updated
  cases updated

end Agreement

section Tolerance

variable {F : Type} [FloatArith F] [FloatOrder F] [FloatDifference F]

/-- A finite value is almost equal to itself. -/
theorem almostEqual_self {value : F} {lo hi : ℚ} (low : -2 ^ 127 ≤ lo) (high : hi ≤ 2 ^ 127)
    (within : Between value lo hi) : almostEqual value value = true := by
  unfold almostEqual TelemetryNode.fabs
  -- The difference is zero, and zero is not negative.
  rw [FloatDifference.sub_self low high within, OrderedLiterals.not_lt le_rfl]
  exact FloatOrder.literals (by norm_num)

/-- A value in range agrees with itself. -/
theorem agreesValue_self {field : ConfigField} {assigned : field.Value F}
    (ranged : PushRange field assigned) : AgreesValue field assigned assigned := by
  cases field with
  | deadzoneUs => exact rfl
  | _ => exact almostEqual_self (by norm_num) (by norm_num) ranged

end Tolerance

namespace IniTelemetryNode

variable {F : Type} [FloatArith F] [FloatText F] {node : IniTelemetryNode F} {input : CycleInput F}
  {text : List Char}

/-- Without a path, without a text or with the text it has loaded, a cycle only uses its mailbox. -/
theorem cycle_idle
    (idle : node.iniPath = [] ∨ input.file = none ∨ input.file = some node.iniCache) :
    node.cycle input = { node with mailbox := input.mailbox } := by
  unfold cycle maybeLoadIniConfig
  rcases idle with unwatched | unopened | loaded
  · simp [unwatched]
  · simp [unopened]
  · simp [loaded]

omit [FloatArith F] in
/-- Loading leaves the path alone. -/
theorem maybeLoadIniConfig_iniPath (node : IniTelemetryNode F) (file : Option (List Char))
    (config : FlightConfig F) :
    (node.maybeLoadIniConfig file config).2.2.iniPath = node.iniPath := by
  unfold maybeLoadIniConfig
  -- None of the exits writes the path.
  split_ifs
  · rfl
  · cases file with
    | none => rfl
    | some text =>
      dsimp only
      split_ifs <;> rfl

/-- So does a whole cycle. -/
theorem cycle_iniPath (node : IniTelemetryNode F) (input : CycleInput F) :
    (node.cycle input).iniPath = node.iniPath := by
  unfold cycle
  dsimp only
  split_ifs
  · exact maybeLoadIniConfig_iniPath _ _ _
  · exact maybeLoadIniConfig_iniPath _ _ _

/-- With a new text a cycle loads it, and pushes the result if a line was accepted. -/
theorem cycle_load (watching : node.iniPath ≠ []) (opened : input.file = some text)
    (new : text ≠ node.iniCache) :
    (node.cycle input).iniPath = node.iniPath ∧ (node.cycle input).iniCache = text ∧
      (((parseLines (splitLines '\n' text) node.activeConfig).1 = false ∧
          (node.cycle input).activeConfig = node.activeConfig) ∨
        (node.cycle input).activeConfig =
          (TelemetryNode.pushConfig { node.toTelemetryNode with mailbox := input.mailbox }
            input.region (parseLines (splitLines '\n' text) node.activeConfig).2
            input.outcome).2.1.activeConfig) := by
  unfold cycle maybeLoadIniConfig
  simp only [watching, if_false, opened, new]
  -- Only lines that change something make the node push.
  cases updated : (parseLines (splitLines '\n' text) node.activeConfig).1 with
  | false => simp
  | true => simp

/-- A loaded text is agreed with, if its push is sent or if it was agreed with before. -/
theorem agrees_of_cycle_load [FloatOrder F] [FloatDifference F] (watching : node.iniPath ≠ [])
    (opened : input.file = some text)
    (new : text ≠ node.iniCache) (ranged : TextInRange F text)
    (kept : input.SendsSucceed ∨ Agrees node.activeConfig text) :
    Agrees (node.cycle input).activeConfig text := by
  obtain ⟨-, -, ends⟩ := cycle_load watching opened new
  rcases ends with ⟨rejected, -⟩ | pushed
  · -- No line was accepted, so there is nothing to agree with.
    exact agrees_of_rejected _ rejected _
  · rw [pushed]
    intro field line assigned last assigns
    have loaded := TelemetryNode.parseLines_last _ node.activeConfig field last assigns
    -- Being in range, the loaded value passes the limits of the push unchanged.
    have inRange : PushRange field
        ((parseLines (splitLines '\n' text) node.activeConfig).2.value field) := by
      rw [loaded]
      exact ranged line last.mem.1 field assigned assigns
    rcases pushConfig_active { node.toTelemetryNode with mailbox := input.mailbox } input.region
      (parseLines (splitLines '\n' text) node.activeConfig).2 input.outcome with
      ⟨active, same | unsent⟩ | active
    · -- Nothing was sent, because nothing differs by more than the tolerance.
      have agreed := agreesValue_of_unchanged same field
      rw [value_limited inRange, loaded] at agreed
      rw [active]
      exact agreed
    · -- The send failed, which leaves only the agreement from before.
      rcases kept with sent | agreed
      · rw [sent] at unsent
        cases unsent
      · rw [active]
        exact agreed field line assigned last assigns
    · -- The candidate was sent, and it carries the assigned value itself.
      rw [active, value_candidate _ inRange]
      rw [loaded] at inRange ⊢
      exact agreesValue_self inRange

/-- A loaded text whose push cannot be sent leaves the active configuration as it was. -/
theorem cycle_unsent (watching : node.iniPath ≠ []) (opened : input.file = some text)
    (new : text ≠ node.iniCache) (unsent : ¬ input.SendsSucceed) :
    (node.cycle input).activeConfig = node.activeConfig := by
  obtain ⟨-, -, ends⟩ := cycle_load watching opened new
  rcases ends with ⟨-, active⟩ | pushed
  · -- Nothing was accepted, and nothing was pushed.
    exact active
  · rw [pushed]
    -- Whether a push is sent is decided by the mailbox and the region alone.
    have refused : ∀ config,
        (input.mailbox.sendConfig input.region config input.outcome).1 = false := by
      intro config
      by_contra sent
      rw [Bool.not_eq_false] at sent
      exact unsent fun config' => (sendConfig_congr _ _ config' config _).trans sent
    exact pushConfig_unsent (refused _)

end IniTelemetryNode

/-- A run of cycles behind the boot push, in which the file, the sends and the region may change. -/
structure IniRun (F : Type) where
  path : List Char
  boot : CycleInput F
  input : Nat → CycleInput F

namespace IniRun

section Run

variable {F : Type} [FloatArith F] [FloatText F] (run : IniRun F)

/-- The node in front of a cycle. -/
def before (n : Nat) : IniTelemetryNode F :=
  stateAt IniTelemetryNode.cycle (IniTelemetryNode.booted run.path run.boot) run.input n

/-- The text that a cycle finds. -/
def textAt (n : Nat) : Option (List Char) :=
  if run.path = [] then none else (run.input n).file

/-- Every text of the file is finite and in range. -/
def InRange : Prop := ∀ n, ∀ text ∈ run.textAt n, TextInRange F text

/-- After every cycle in which sends succeed, the active configuration agrees with the text. -/
def EditsSurvive : Prop :=
  ∀ n, ∀ text ∈ run.textAt n, (run.input n).SendsSucceed →
    Agrees (run.before (n + 1)).activeConfig text

/-- A cycle loads a new text that is not agreed with, and cannot send it. -/
def LosesAt (n : Nat) (text : List Char) : Prop :=
  run.textAt n = some text ∧ text ≠ (run.before n).iniCache ∧ ¬ (run.input n).SendsSucceed ∧
    ¬ Agrees (run.before n).activeConfig text

/-- Between two cycles the file was edited again. -/
def EditedBetween (n m : Nat) (text : List Char) : Prop :=
  ∃ k, n < k ∧ k < m ∧ ∃ other ∈ run.textAt k, other ≠ text

/-- A cycle takes the node to the front of the next one. -/
theorem before_succ (n : Nat) : run.before (n + 1) = (run.before n).cycle (run.input n) := rfl

omit [FloatArith F] [FloatText F] in
/-- A text is found only where a path is watched and the file opens. -/
theorem textAt_eq_some {n : Nat} {text : List Char} (current : run.textAt n = some text) :
    run.path ≠ [] ∧ (run.input n).file = some text := by
  unfold textAt at current
  split_ifs at current with unwatched
  exact ⟨unwatched, current⟩

/-- The path never changes. -/
theorem before_path (n : Nat) : (run.before n).iniPath = run.path := by
  induction n with
  | zero => rfl
  | succ n ih => exact (IniTelemetryNode.cycle_iniPath _ _).trans ih

/-- A cycle without a new text changes neither the active configuration nor the loaded text. -/
theorem before_succ_idle {n : Nat} (idle : ∀ text ∈ run.textAt n, text = (run.before n).iniCache) :
    (run.before (n + 1)).activeConfig = (run.before n).activeConfig ∧
      (run.before (n + 1)).iniCache = (run.before n).iniCache := by
  have unchanged : (run.before n).cycle (run.input n) =
      { run.before n with mailbox := (run.input n).mailbox } := by
    apply IniTelemetryNode.cycle_idle
    rw [run.before_path n]
    by_cases unwatched : run.path = []
    · -- There is no path to watch.
      exact Or.inl unwatched
    · right
      cases opened : (run.input n).file with
      | none => exact Or.inl rfl
      | some text =>
        have current : run.textAt n = some text := by
          rw [textAt, if_neg unwatched, opened]
        exact Or.inr (congrArg some (idle text current))
  rw [run.before_succ, unchanged]
  exact ⟨rfl, rfl⟩

/-- Until the file is edited, a lost edit stays loaded and the active configuration as it was. -/
theorem lost_until_edited {n m : Nat} {text : List Char} (loses : run.LosesAt n text)
    (later : n < m) (unedited : ¬ run.EditedBetween n m text) :
    (run.before m).activeConfig = (run.before n).activeConfig ∧
      (run.before m).iniCache = text := by
  obtain ⟨current, new, unsent, -⟩ := loses
  obtain ⟨watching, opened⟩ := run.textAt_eq_some current
  -- The induction is on the cycles behind the one that lost the edit.
  induction m, later using Nat.le_induction with
  | base =>
    rw [← run.before_path n] at watching
    exact ⟨IniTelemetryNode.cycle_unsent watching opened new unsent,
      (IniTelemetryNode.cycle_load watching opened new).2.1⟩
  | succ m later ih =>
    -- Not edited up to the next cycle, it was not edited up to this one either.
    obtain ⟨active, loaded⟩ := ih fun edited => by
      obtain ⟨k, after, before, edit⟩ := edited
      exact unedited ⟨k, after, Nat.lt_succ_of_lt before, edit⟩
    -- This cycle finds the text that is loaded already, and any other would be an edit.
    have idle := run.before_succ_idle (n := m) fun text' current' => by
      by_contra different
      rw [loaded] at different
      exact unedited ⟨m, later, Nat.lt_succ_self m, text', current', different⟩
    exact ⟨idle.1.trans active, idle.2.trans loaded⟩

variable [FloatOrder F] [FloatDifference F]

/-- The loaded text is agreed with, or its edit was lost and not edited since. -/
theorem agrees_or_lost (ranged : run.InRange) (m : Nat) :
    Agrees (run.before m).activeConfig (run.before m).iniCache ∨
      ∃ n < m, run.LosesAt n (run.before m).iniCache ∧
        ¬ run.EditedBetween n m (run.before m).iniCache := by
  induction m with
  -- Nothing is loaded before the first cycle, and the empty text assigns nothing.
  | zero => exact Or.inl (agrees_of_rejected defaultFlightConfig rfl _)
  | succ m ih =>
    by_cases idle : ∀ text ∈ run.textAt m, text = (run.before m).iniCache
    · -- Nothing new is found, so an agreement and a loss both persist.
      obtain ⟨active, loaded⟩ := run.before_succ_idle idle
      rw [active, loaded]
      rcases ih with agreed | lost
      · exact Or.inl agreed
      · obtain ⟨n, earlier, loses, unedited⟩ := lost
        -- An edit in between is one from before, or it happens in this very cycle.
        refine Or.inr ⟨n, Nat.lt_succ_of_lt earlier, loses, ?_⟩
        intro edited
        obtain ⟨k, after, before, text, current, different⟩ := edited
        rcases Nat.lt_succ_iff_lt_or_eq.mp before with before | rfl
        · exact unedited ⟨k, after, before, text, current, different⟩
        · exact different (idle text current)
    · -- A new text is found, and it replaces the loaded one whatever becomes of its push.
      simp only [not_forall] at idle
      obtain ⟨text, current, new⟩ := idle
      obtain ⟨watching, opened⟩ := run.textAt_eq_some current
      rw [← run.before_path m] at watching
      have loaded : (run.before (m + 1)).iniCache = text :=
        (IniTelemetryNode.cycle_load watching opened new).2.1
      rw [loaded]
      by_cases kept : (run.input m).SendsSucceed ∨ Agrees (run.before m).activeConfig text
      · exact Or.inl (IniTelemetryNode.agrees_of_cycle_load watching opened new
          (ranged m text current) kept)
      · -- It could not be sent and was not agreed with: this is a loss.
        rw [not_or] at kept
        refine Or.inr ⟨m, Nat.lt_succ_self m, ⟨current, new, kept.1, kept.2⟩, ?_⟩
        intro edited
        obtain ⟨k, after, before, -⟩ := edited
        omega

/-- Edits survive exactly if each one lost is edited again before sends succeed. -/
theorem editsSurvive_iff (ranged : run.InRange) :
    run.EditsSurvive ↔ ∀ n text, run.LosesAt n text → ∀ m, n < m → run.textAt m = some text →
      (run.input m).SendsSucceed → run.EditedBetween n m text := by
  constructor
  · intro survive n text loses m later current succeed
    -- Unedited, the lost text is found again, and nothing is pushed for it.
    by_contra unedited
    obtain ⟨active, loaded⟩ := run.lost_until_edited loses later unedited
    have idle := run.before_succ_idle (n := m) fun text' current' => by
      rw [loaded]
      exact Option.some.inj (current'.symm.trans current)
    have agreed := survive m text current succeed
    rw [idle.1, active] at agreed
    exact loses.2.2.2 agreed
  · intro edited n text current succeed
    -- Behind the cycle the text it found is the loaded one, new or not.
    have loaded : (run.before (n + 1)).iniCache = text := by
      by_cases new : text = (run.before n).iniCache
      · have idle := run.before_succ_idle (n := n) fun text' current' => by
          rw [← new]
          exact Option.some.inj (current'.symm.trans current)
        rw [idle.2, new]
      · obtain ⟨watching, opened⟩ := run.textAt_eq_some current
        rw [← run.before_path n] at watching
        exact (IniTelemetryNode.cycle_load watching opened new).2.1
    rcases run.agrees_or_lost ranged (n + 1) with agreed | lost
    · rw [loaded] at agreed
      exact agreed
    · rw [loaded] at lost
      obtain ⟨k, earlier, loses, unedited⟩ := lost
      -- The loss was earlier, and then the file was edited since, or it was in this cycle.
      rcases Nat.lt_succ_iff_lt_or_eq.mp earlier with earlier | rfl
      · obtain ⟨j, after, before, edit⟩ := edited k text loses n earlier current succeed
        exact absurd ⟨j, after, Nat.lt_succ_of_lt before, edit⟩ unedited
      · -- A cycle whose sends succeed loses nothing.
        exact absurd succeed loses.2.2.1

end Run

/-- A file that asks for an angle gain of six; `acknowledged` tells whether the sends succeed. -/
def editInput (acknowledged : Bool) : CycleInput Single where
  file := some "angle_p = 6".toList
  mailbox := { mode := .live }
  region := MailboxTransport.freshRegion
  outcome := ⟨true, acknowledged⟩

/-- The edit meets a failed send in the first cycle, and all later sends succeed. -/
def lostEdit : IniRun Single where
  path := "flight.ini".toList
  boot := editInput true
  input n := editInput (decide (n ≠ 0))

/-- The line assigns the gain. -/
theorem editLine_assigns :
    LineAssigns "angle_p = 6".toList .angleP (Single.finite 6) :=
  ⟨"angle_p".toList, "6".toList, [], TelemetryNode.lineReads_of_splitLine (by decide +kernel),
    by decide, by decide +kernel⟩

/-- Every cycle finds the same text. -/
theorem lostEdit_textAt (n : Nat) : lostEdit.textAt n = some "angle_p = 6".toList := rfl

/-- The gain is in range. -/
theorem lostEdit_inRange : lostEdit.InRange := by
  intro n text current line member field assigned assigns
  obtain rfl := Option.some.inj ((lostEdit_textAt n).symm.trans current)
  have only : splitLines '\n' "angle_p = 6".toList = ["angle_p = 6".toList] := by
    decide
  rw [only, List.mem_singleton] at member
  subst member
  obtain rfl := editLine_assigns.unique assigns.acceptedFor
  -- The line assigns one value only.
  have parsed := (assigns.parse defaultFlightConfig).symm.trans
    (editLine_assigns.parse defaultFlightConfig)
  have same : assigned = Single.finite 6 :=
    congrArg (fun parsed => parsed.2.angleP) parsed
  rw [same]
  exact (by decide +kernel : Between (Single.finite 6) (1 / 2) 20)

/-- The condition on a run whose first send fails. -/
theorem editsSurvive_iff_lostEdit :
    lostEdit.EditsSurvive ↔ ∀ n text, lostEdit.LosesAt n text → ∀ m, n < m →
      lostEdit.textAt m = some text → (lostEdit.input m).SendsSucceed →
        lostEdit.EditedBetween n m text :=
  lostEdit.editsSurvive_iff lostEdit_inRange

/-- The lost edit is not sent when the sends succeed again. -/
theorem not_editsSurvive_lostEdit : lostEdit.InRange ∧ ¬ lostEdit.EditsSurvive := by
  refine ⟨lostEdit_inRange, ?_⟩
  intro survive
  have last : LastWith (AcceptedFor Single .angleP) (splitLines '\n' "angle_p = 6".toList)
      "angle_p = 6".toList :=
    ⟨[], [], by decide, editLine_assigns.acceptedFor, by simp⟩
  -- The second cycle finds the same text, and its sends succeed.
  have agreed := survive 1 _ (lostEdit_textAt 1) (fun _ => rfl) .angleP _ _ last editLine_assigns
  -- Still the gain of the boot push is active.
  have active : (lostEdit.before 2).activeConfig.angleP = Single.finite 5 := by
    decide +kernel
  have differs : almostEqual (Single.finite 6) (Single.finite 5) = false := by
    decide +kernel
  change almostEqual (Single.finite 6) (lostEdit.before 2).activeConfig.angleP = true at agreed
  rw [active, differs] at agreed
  cases agreed

end IniRun

end AmpFc
