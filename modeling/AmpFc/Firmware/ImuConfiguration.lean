import AmpFc.Firmware.SensorFlags

/-! Which inertial sensor is configured, which one is read, and when the two are the same. -/

namespace AmpFc.Firmware

section Traffic

/-- The register a transaction is about. -/
def I2cTransfer.register : I2cTransfer → UInt8
  | .readReg _ reg => reg
  | .writeReg _ reg _ => reg
  | .readRegs _ reg _ => reg

/-- An inertial sensor answered at the address in this traffic. -/
def Identified (log : I2cLog) (addr : UInt8) : Prop :=
  -- A read that failed leaves the value at zero and identifies nobody.
  ∃ reply, (.readReg addr mpu6050WhoamiReg, reply) ∈ log ∧ reply.Identifies

/-- The configuration writes to an address. -/
def configWrites (addr : UInt8) (writes : List (UInt8 × UInt8 × UInt32)) : List I2cTransfer :=
  -- The third component is the code a failure would report.
  writes.map fun write => .writeReg addr write.1 write.2.1

/-- Every one of these transactions was acknowledged in this traffic. -/
def Acknowledged (transfers : List I2cTransfer) (log : I2cLog) : Prop :=
  ∀ transfer ∈ transfers, ∃ data, (transfer, .ack data) ∈ log

/-- All five configuration registers of the sensor at the address were written. -/
def ConfiguredIn (log : I2cLog) (addr : UInt8) : Prop :=
  Acknowledged (configWrites addr mpuConfigWrites) log

/-- The data read of fourteen bytes was issued at the address after this earlier traffic. -/
def DataReadAfter (log : I2cLog) (addr : UInt8) (before : I2cLog) : Prop :=
  -- The log has its most recent transaction first, so a suffix is the past.
  ∃ reply, (.readRegs addr mpu6050AccelXoutH 14, reply) :: before <:+ log

/-- What was acknowledged in a part was acknowledged in the whole. -/
theorem Acknowledged.mono {transfers : List I2cTransfer} {part whole : I2cLog}
    (acked : Acknowledged transfers part) (contained : part ⊆ whole) :
    Acknowledged transfers whole := by
  intro transfer member
  obtain ⟨data, logged⟩ := acked transfer member
  exact ⟨data, contained logged⟩

/-- The search for a sensor: the magnetometer's registers and identifications, nothing else. -/
structure Search (found : Option UInt8) (log : I2cLog) : Prop where
  only : ∀ entry ∈ log, entry.1.register ≤ 0x0C ∨ entry.1.register = mpu6050WhoamiReg
  identified : ∀ addr, Identified log addr ↔ found = some addr

/-- A configuration sequence to one address: nothing but its writes, acknowledged or not. -/
def ConfigSequence (addr : UInt8) (log : I2cLog) : Prop :=
  ∀ entry ∈ log, entry.1 ∈ configWrites addr mpuConfigWrites

/-- What a probe puts on the bus, and what it makes of the configuration flag. -/
inductive ImuTraffic : Bool → I2cLog → Bool → Prop
  | absent {done : Bool} {log : I2cLog} (search : Search none log) : ImuTraffic done log done
  | known {addr : UInt8} {reply : I2cReply} {log : I2cLog} (search : Search (some addr) log) :
      ImuTraffic true ((.readRegs addr mpu6050AccelXoutH 14, reply) :: log) true
  | fresh {addr : UInt8} {reply : I2cReply} {writes log : I2cLog}
      (search : Search (some addr) log) (sequence : ConfigSequence addr writes)
      (acked : ConfiguredIn writes addr) :
      ImuTraffic false ((.readRegs addr mpu6050AccelXoutH 14, reply) :: (writes ++ log)) true
  | failed {addr : UInt8} {writes log : I2cLog}
      (search : Search (some addr) log) (sequence : ConfigSequence addr writes)
      (refused : ¬ ConfiguredIn writes addr) : ImuTraffic false (writes ++ log) false

/-- No transaction of the log is about the register. -/
def Without (reg : UInt8) (log : I2cLog) : Prop :=
  ∀ entry ∈ log, entry.1.register ≠ reg

/-- Two logs without a register are one without it. -/
theorem Without.append {reg : UInt8} {later before : I2cLog} (left : Without reg later)
    (right : Without reg before) : Without reg (later ++ before) := by
  intro entry member
  rcases List.mem_append.mp member with newer | older
  · exact left entry newer
  · exact right entry older

/-- The configuration registers are none that a search asks for, nor the data. -/
theorem configWrites_register {addr : UInt8} {transfer : I2cTransfer}
    (member : transfer ∈ configWrites addr mpuConfigWrites) :
    ¬ transfer.register ≤ 0x0C ∧ transfer.register ≠ mpu6050WhoamiReg ∧
      transfer.register ≠ mpu6050AccelXoutH := by
  -- Five registers are checked one by one.
  have registers : ∀ write ∈ mpuConfigWrites, ¬ write.1 ≤ 0x0C ∧
      write.1 ≠ mpu6050WhoamiReg ∧ write.1 ≠ mpu6050AccelXoutH := by
    simp [mpuConfigWrites, mpu6050WhoamiReg, mpu6050AccelXoutH]
  obtain ⟨write, listed, rfl⟩ := List.mem_map.mp member
  exact registers write listed

/-- A search reads no data, -/
theorem Search.without_data {found : Option UInt8} {log : I2cLog} (search : Search found log) :
    Without mpu6050AccelXoutH log := by
  intro entry member
  -- Neither kind of transaction is about the data register.
  rcases search.only entry member with magnetic | whoami
  · intro data
    rw [data] at magnetic
    exact absurd magnetic (by decide)
  · rw [whoami]
    decide

/-- nor does a configuration, -/
theorem ConfigSequence.without_data {addr : UInt8} {log : I2cLog}
    (sequence : ConfigSequence addr log) : Without mpu6050AccelXoutH log :=
  fun entry member => (configWrites_register (sequence entry member)).2.2

/-- which asks no sensor for its identity either. -/
theorem ConfigSequence.without_whoami {addr : UInt8} {log : I2cLog}
    (sequence : ConfigSequence addr log) : Without mpu6050WhoamiReg log :=
  fun entry member => (configWrites_register (sequence entry member)).2.1

/-- Only identifications decide who identified itself. -/
theorem identified_append {later before : I2cLog} {addr : UInt8}
    (without : Without mpu6050WhoamiReg later) :
    Identified (later ++ before) addr ↔ Identified before addr := by
  -- What lies in the newer part is about another register.
  constructor
  · rintro ⟨reply, logged, identifies⟩
    rcases List.mem_append.mp logged with newer | older
    · exact absurd rfl (without _ newer)
    · exact ⟨reply, older, identifies⟩
  · rintro ⟨reply, logged, identifies⟩
    exact ⟨reply, List.mem_append_right later logged, identifies⟩

/-- Without the data register there is no data read. -/
theorem not_dataReadAfter {log before : I2cLog} {addr : UInt8}
    (without : Without mpu6050AccelXoutH log) : ¬ DataReadAfter log addr before := by
  rintro ⟨reply, suffix⟩
  exact without _ (suffix.subset List.mem_cons_self) rfl

/-- The only data read of a log that has one is the last transaction. -/
theorem dataReadAfter_cons {log before : I2cLog} {addr other : UInt8} {reply : I2cReply}
    (without : Without mpu6050AccelXoutH log) :
    DataReadAfter ((.readRegs addr mpu6050AccelXoutH 14, reply) :: log) other before ↔
      other = addr ∧ before = log := by
  -- A suffix that starts with a data read is the whole log or lies deeper.
  constructor
  · rintro ⟨brought, suffix⟩
    rcases List.suffix_cons_iff.mp suffix with same | earlier
    · simp only [List.cons.injEq, Prod.mk.injEq, I2cTransfer.readRegs.injEq] at same
      exact ⟨same.1.1.1, same.2⟩
    · exact absurd ⟨brought, earlier⟩ (not_dataReadAfter without)
  · rintro ⟨rfl, rfl⟩
    exact ⟨reply, List.suffix_refl _⟩

/-- A search writes no configuration register. -/
theorem Search.not_logged {found : Option UInt8} {log : I2cLog} (search : Search found log)
    {addr : UInt8} {transfer : I2cTransfer} {reply : I2cReply}
    (member : transfer ∈ configWrites addr mpuConfigWrites) : (transfer, reply) ∉ log := by
  -- A configuration register is of neither of the two kinds.
  intro logged
  obtain ⟨magnetic, whoami, -⟩ := configWrites_register member
  rcases search.only _ logged with asked | asked
  · exact magnetic asked
  · exact whoami asked

/-- There is a configuration write to every address. -/
theorem wakeUp_mem (addr : UInt8) :
    I2cTransfer.writeReg addr 0x6B 0x00 ∈ configWrites addr mpuConfigWrites :=
  List.mem_cons_self

/-- Nobody is configured by a search. -/
theorem Search.not_configured {found : Option UInt8} {log : I2cLog} (search : Search found log)
    (addr : UInt8) : ¬ ConfiguredIn log addr := by
  -- The wake-up write alone would be missing.
  intro configured
  obtain ⟨data, logged⟩ := configured _ (wakeUp_mem addr)
  exact search.not_logged (wakeUp_mem addr) logged

/-- After a search, whatever is configured is configured by the sequence, at its address. -/
theorem ConfigSequence.configured {addr other : UInt8} {found : Option UInt8}
    {writes log : I2cLog} (sequence : ConfigSequence addr writes) (search : Search found log)
    (configured : ConfiguredIn (writes ++ log) other) :
    other = addr ∧ ConfiguredIn writes other := by
  -- An acknowledged configuration write cannot stem from the search.
  have acked : ConfiguredIn writes other := by
    intro transfer member
    obtain ⟨data, logged⟩ := configured transfer member
    rcases List.mem_append.mp logged with written | searched
    · exact ⟨data, written⟩
    · exact absurd searched (search.not_logged member)
  refine ⟨?_, acked⟩
  -- The wake-up write among them names the address.
  obtain ⟨data, logged⟩ := acked _ (wakeUp_mem other)
  obtain ⟨write, -, same⟩ := List.mem_map.mp (sequence _ logged)
  exact (I2cTransfer.writeReg.inj same).1.symm

/-- A data read neither identifies nor configures a sensor. -/
theorem identified_dataRead {log : I2cLog} {addr other : UInt8} {reply : I2cReply} :
    Identified ((.readRegs addr mpu6050AccelXoutH 14, reply) :: log) other ↔
      Identified log other := by
  apply @identified_append [(.readRegs addr mpu6050AccelXoutH 14, reply)]
  -- The data does not start at the identity register.
  intro entry member
  rw [List.mem_singleton.mp member]
  show mpu6050AccelXoutH ≠ mpu6050WhoamiReg
  decide

/-- A read of data configures nobody. -/
theorem configuredIn_dataRead {log : I2cLog} {addr other : UInt8} {reply : I2cReply}
    (configured : ConfiguredIn ((.readRegs addr mpu6050AccelXoutH 14, reply) :: log) other) :
    ConfiguredIn log other := by
  intro transfer member
  obtain ⟨data, logged⟩ := configured transfer member
  rcases List.mem_cons.mp logged with same | older
  · -- A write is no read.
    obtain ⟨write, -, written⟩ := List.mem_map.mp member
    rw [← written] at same
    cases same
  · exact ⟨data, older⟩

/-- At most one address identifies itself in a probe. -/
theorem ImuTraffic.identified {done after : Bool} {log : I2cLog}
    (traffic : ImuTraffic done log after) :
    ∃ found, ∀ addr, Identified log addr ↔ found = some addr := by
  -- Behind the search nothing identifies itself any more.
  cases traffic with
  | absent search => exact ⟨none, search.identified⟩
  | known search => exact ⟨_, fun _ => identified_dataRead.trans (search.identified _)⟩
  | @fresh addr _ _ _ search sequence =>
    refine ⟨some addr, fun other => ?_⟩
    rw [identified_dataRead, identified_append sequence.without_whoami]
    exact search.identified other
  | @failed addr _ _ search sequence =>
    refine ⟨some addr, fun other => ?_⟩
    rw [identified_append sequence.without_whoami]
    exact search.identified other

/-- In one probe at most one address identifies itself. -/
theorem ImuTraffic.identified_unique {done after : Bool} {log : I2cLog}
    (traffic : ImuTraffic done log after) {addr other : UInt8} (first : Identified log addr)
    (second : Identified log other) : other = addr := by
  obtain ⟨found, only⟩ := traffic.identified
  have same := ((only other).mp second).symm.trans ((only addr).mp first)
  exact Option.some.inj same

/-- The data is read where the sensor identified itself, configured just before if it never was. -/
theorem ImuTraffic.dataRead {done after : Bool} {log before : I2cLog} {addr : UInt8}
    (traffic : ImuTraffic done log after) (read : DataReadAfter log addr before) :
    Identified log addr ∧ (done = false → ConfiguredIn before addr) := by
  -- Two of the four kinds read no data at all.
  cases traffic with
  | absent search => exact absurd read (not_dataReadAfter search.without_data)
  | known search =>
    obtain ⟨rfl, rfl⟩ := (dataReadAfter_cons search.without_data).mp read
    exact ⟨identified_dataRead.mpr ((search.identified addr).mpr rfl), nofun⟩
  | fresh search sequence acked =>
    have without := sequence.without_data.append search.without_data
    obtain ⟨rfl, rfl⟩ := (dataReadAfter_cons without).mp read
    refine ⟨?_, fun _ => acked.mono (List.subset_append_left _ _)⟩
    rw [identified_dataRead, identified_append sequence.without_whoami]
    exact (search.identified addr).mpr rfl
  | failed search sequence =>
    have without := sequence.without_data.append search.without_data
    exact absurd read (not_dataReadAfter without)

/-- A sensor that was configured before is read wherever it identifies itself. -/
theorem ImuTraffic.reads {after : Bool} {log : I2cLog} {addr : UInt8}
    (traffic : ImuTraffic true log after) (identified : Identified log addr) :
    ∃ before, DataReadAfter log addr before := by
  -- A sensor that was not found is not identified either.
  cases traffic with
  | absent search => cases (search.identified addr).mp identified
  | known search =>
    cases (search.identified addr).mp (identified_dataRead.mp identified)
    exact ⟨_, (dataReadAfter_cons search.without_data).mpr ⟨rfl, rfl⟩⟩

/-- The configuration succeeds at most once, where the sensor identified itself. -/
theorem ImuTraffic.configured {done after : Bool} {log : I2cLog} {addr : UInt8}
    (traffic : ImuTraffic done log after) (configured : ConfiguredIn log addr) :
    done = false ∧ Identified log addr := by
  -- Only a fresh sequence that was acknowledged whole configures a sensor.
  cases traffic with
  | absent search => exact absurd configured (search.not_configured addr)
  | known search => exact absurd (configuredIn_dataRead configured) (search.not_configured addr)
  | fresh search sequence acked =>
    obtain ⟨rfl, -⟩ := sequence.configured search (configuredIn_dataRead configured)
    refine ⟨rfl, ?_⟩
    rw [identified_dataRead, identified_append sequence.without_whoami]
    exact (search.identified addr).mpr rfl
  | failed search sequence refused =>
    obtain ⟨rfl, acked⟩ := sequence.configured search configured
    exact absurd acked refused

/-- The flag says whether the configuration has ever succeeded. -/
theorem ImuTraffic.flag {done after : Bool} {log : I2cLog} (traffic : ImuTraffic done log after) :
    after = true ↔ done = true ∨ ∃ addr, ConfiguredIn log addr := by
  -- The flag is set by the fresh kind and kept by the others.
  constructor
  · intro set
    cases traffic with
    | absent search => exact Or.inl set
    | known search => exact Or.inl rfl
    | fresh search sequence acked =>
      exact Or.inr ⟨_, acked.mono (List.subset_cons_of_subset _ (List.subset_append_left _ _))⟩
    | failed search sequence refused => cases set
  · rintro (set | ⟨addr, configured⟩)
    · cases traffic with
      | absent search => exact set
      | known search => rfl
      | fresh search sequence acked => rfl
      | failed search sequence refused => cases set
    · cases traffic with
      | absent search => exact absurd configured (search.not_configured addr)
      | known search => rfl
      | fresh search sequence acked => rfl
      | failed search sequence refused =>
        obtain ⟨rfl, acked⟩ := sequence.configured search configured
        exact absurd acked refused

end Traffic

section Transactions

/-- A register write is logged with the reply that decides about it. -/
theorem bbI2cWriteReg_logged (bus : I2cBus) (dev reg val : UInt8) :
    ∃ reply, (bbI2cWriteReg bus dev reg val).2.log = (.writeReg dev reg val, reply) :: bus.log ∧
      ((bbI2cWriteReg bus dev reg val).1 = 0 ↔ ∃ data, reply = .ack data) := by
  unfold bbI2cWriteReg I2cBus.transfer
  dsimp only
  -- Only an acknowledgement gives the code zero.
  cases bus.devices bus.log (.writeReg dev reg val) with
  | ack data => exact ⟨.ack data, rfl, fun _ => ⟨data, rfl⟩, fun _ => rfl⟩
  | nack byte =>
    refine ⟨.nack byte, rfl, ?_, nofun⟩
    intro none
    cases byte <;> cases none

/-- A block read is logged whatever the reply. -/
theorem bbI2cReadRegs_logged (bus : I2cBus) (dev reg : UInt8) {len : Nat} (asks : len ≠ 0) :
    ∃ reply, (bbI2cReadRegs bus dev reg len).2.2.log =
      (.readRegs dev reg len, reply) :: bus.log := by
  unfold bbI2cReadRegs I2cBus.transfer
  rw [if_neg asks]
  dsimp only
  -- Refused or not, the transfer is in the log.
  cases bus.devices bus.log (.readRegs dev reg len) with
  | ack data => exact ⟨_, rfl⟩
  | nack byte => exact ⟨_, rfl⟩

/-- What is acknowledged first and not asked again leaves the rest to be acknowledged. -/
theorem acknowledged_cons {transfer : I2cTransfer} {rest : List I2cTransfer} {sequence : I2cLog}
    {data : List UInt8} (fresh : transfer ∉ rest) :
    Acknowledged (transfer :: rest) (sequence ++ [(transfer, .ack data)]) ↔
      Acknowledged rest sequence := by
  constructor
  -- The oldest entry is of the first transfer, which no later one repeats.
  · intro whole other member
    obtain ⟨brought, logged⟩ := whole other (List.mem_cons_of_mem _ member)
    rcases List.mem_append.mp logged with newer | first
    · exact ⟨brought, newer⟩
    · have same := (Prod.mk.inj (List.mem_singleton.mp first)).1
      exact absurd (same ▸ member) fresh
  · intro tail other member
    rcases List.mem_cons.mp member with rfl | later
    · exact ⟨data, List.mem_append_right _ List.mem_cons_self⟩
    · obtain ⟨brought, logged⟩ := tail other later
      exact ⟨brought, List.mem_append_left _ logged⟩

/-- A register that is written once is not written by the rest. -/
theorem configWrite_fresh {dev reg val : UInt8} {rest : List (UInt8 × UInt8 × UInt32)}
    (fresh : reg ∉ rest.map Prod.fst) :
    I2cTransfer.writeReg dev reg val ∉ configWrites dev rest := by
  intro member
  obtain ⟨other, listed, written⟩ := List.mem_map.mp member
  -- The same write would name the same register a second time.
  have again : other.1 ∈ rest.map Prod.fst := List.mem_map_of_mem listed
  rw [(I2cTransfer.writeReg.inj written).2.1] at again
  exact fresh again

/-- A sequence to distinct registers succeeds exactly if every write was acknowledged. -/
theorem configureRegisters_logged (bus : I2cBus) (dev : UInt8) (codeMask : UInt32)
    {writes : List (UInt8 × UInt8 × UInt32)} (distinct : (writes.map Prod.fst).Nodup)
    (coded : ∀ write ∈ writes, write.2.2 ≠ 0) :
    ∃ sequence, (configureRegisters bus dev codeMask writes).2.log = sequence ++ bus.log ∧
      (∀ entry ∈ sequence, entry.1 ∈ configWrites dev writes) ∧
      ((configureRegisters bus dev codeMask writes).1 = 0 ↔
        Acknowledged (configWrites dev writes) sequence) := by
  -- The induction is on the registers still to be written.
  induction writes generalizing bus with
  | nil => exact ⟨[], rfl, nofun, fun _ => nofun, fun _ => rfl⟩
  | cons write rest ih =>
    obtain ⟨reg, val, base⟩ := write
    obtain ⟨fresh, distinct⟩ := List.nodup_cons.mp distinct
    obtain ⟨reply, logged, acked⟩ := bbI2cWriteReg_logged bus dev reg val
    simp only [configureRegisters]
    generalize bbI2cWriteReg bus dev reg val = written at logged acked ⊢
    obtain ⟨ret, after⟩ := written
    dsimp only at logged acked ⊢
    split
    · -- The first write that is not acknowledged ends the sequence.
      rename_i refused
      refine ⟨[(.writeReg dev reg val, reply)], logged, ?_, ?_⟩
      · intro entry member
        rw [List.mem_singleton.mp member]
        exact List.mem_cons_self
      · constructor
        · intro none
          exact absurd (UInt32.or_eq_zero_iff.mp none).1 (coded _ List.mem_cons_self)
        · intro all
          obtain ⟨data, member⟩ := all _ List.mem_cons_self
          have same := (Prod.mk.inj (List.mem_singleton.mp member)).2
          exact absurd (acked.mpr ⟨data, same.symm⟩) refused
    · rename_i success
      obtain ⟨data, rfl⟩ := acked.mp (not_not.mp success)
      have codedRest : ∀ write ∈ rest, write.2.2 ≠ 0 :=
        fun write member => coded write (List.mem_cons_of_mem _ member)
      obtain ⟨sequence, later, only, all⟩ := ih after distinct codedRest
      refine ⟨sequence ++ [(.writeReg dev reg val, .ack data)], ?_, ?_, all.trans ?_⟩
      · rw [later, logged, List.append_assoc, List.singleton_append]
      · intro entry member
        rcases List.mem_append.mp member with newer | first
        · exact List.mem_cons_of_mem _ (only entry newer)
        · rw [List.mem_singleton.mp first]
          exact List.mem_cons_self
      · exact (acknowledged_cons (configWrite_fresh fresh)).symm

end Transactions

section Probe

/-- A magnetometer transaction does not disturb the search. -/
theorem Search.magnetic {found : Option UInt8} {log : I2cLog} (search : Search found log)
    {transfer : I2cTransfer} (magnetic : transfer.register ≤ 0x0C) (reply : I2cReply) :
    Search found ((transfer, reply) :: log) where
  only := by
    intro entry member
    rcases List.mem_cons.mp member with rfl | older
    · exact Or.inl magnetic
    · exact search.only entry older
  identified := by
    intro addr
    -- The compass's registers end below the identity register.
    have without : Without mpu6050WhoamiReg [(transfer, reply)] := by
      intro entry member
      rw [List.mem_singleton.mp member]
      intro asked
      rw [show transfer.register = mpu6050WhoamiReg from asked] at magnetic
      exact absurd magnetic (by decide)
    exact (identified_append without).trans (search.identified addr)

/-- Asking an address ends the search there if it identifies itself. -/
theorem Search.asked {log : I2cLog} (search : Search none log) (addr : UInt8) (reply : I2cReply) :
    (reply.Identifies → Search (some addr) ((.readReg addr mpu6050WhoamiReg, reply) :: log)) ∧
      (¬ reply.Identifies → Search none ((.readReg addr mpu6050WhoamiReg, reply) :: log)) := by
  -- The new transaction is about the identification register.
  have only : ∀ entry ∈ (I2cTransfer.readReg addr mpu6050WhoamiReg, reply) :: log,
      entry.1.register ≤ 0x0C ∨ entry.1.register = mpu6050WhoamiReg := by
    intro entry member
    rcases List.mem_cons.mp member with rfl | older
    · exact Or.inr rfl
    · exact search.only entry older
  -- Nobody has identified itself before.
  have identified : ∀ other,
      Identified ((.readReg addr mpu6050WhoamiReg, reply) :: log) other ↔
        other = addr ∧ reply.Identifies := by
    intro other
    constructor
    · rintro ⟨brought, logged, identifies⟩
      rcases List.mem_cons.mp logged with same | older
      · obtain ⟨transfer, rfl⟩ := Prod.mk.inj same
        exact ⟨(I2cTransfer.readReg.inj transfer).1, identifies⟩
      · cases (search.identified other).mp ⟨brought, older, identifies⟩
    · rintro ⟨rfl, identifies⟩
      exact ⟨reply, List.mem_cons_self, identifies⟩
  constructor
  · intro identifies
    refine ⟨only, fun other => (identified other).trans ?_⟩
    simp only [identifies, and_true, Option.some.injEq, eq_comm]
  · intro silent
    refine ⟨only, fun other => (identified other).trans ?_⟩
    simp only [silent, and_false, reduceCtorEq]

/-- Any number of magnetometer transactions leaves the search as it was. -/
theorem Search.magnetics {found : Option UInt8} {log entries : I2cLog} (search : Search found log)
    (magnetic : ∀ entry ∈ entries, entry.1.register ≤ 0x0C) : Search found (entries ++ log) := by
  -- The induction puts them on the search one by one.
  induction entries with
  | nil => exact search
  | cons entry rest ih =>
    have tail := ih fun other member => magnetic other (List.mem_cons_of_mem _ member)
    exact tail.magnetic (magnetic entry List.mem_cons_self) entry.2

/-- Configuring the magnetometer touches its own registers. -/
theorem hmcConfigure_search {bus : I2cBus} (search : Search none bus.log) :
    Search none (configureRegisters bus hmc5883lAddr 0xf hmcConfigWrites).2.log := by
  obtain ⟨sequence, logged, only, -⟩ := configureRegisters_logged bus hmc5883lAddr 0xf
    (show (hmcConfigWrites.map Prod.fst).Nodup by decide) (by simp [hmcConfigWrites])
  rw [logged]
  apply search.magnetics
  intro entry member
  -- All set-up writes go to registers of the compass.
  have magnetic : ∀ write ∈ hmcConfigWrites, write.1 ≤ 0x0C := by simp [hmcConfigWrites]
  obtain ⟨write, listed, written⟩ := List.mem_map.mp (only entry member)
  rw [← written]
  exact magnetic write listed

/-- Reading it neither finds an inertial sensor nor touches the flag of one. -/
theorem hmc5883lReadRawOnce_search {s : Sensors} {bus : I2cBus} (search : Search none bus.log) :
    Search none (hmc5883lReadRawOnce s bus).2.2.log := by
  -- Its configuration and its data registers are all small.
  have configured : Search none (hmc5883lConfigOnce s bus).2.2.log := by
    have written := hmcConfigure_search search
    unfold hmc5883lConfigOnce
    split
    · exact search
    · generalize configureRegisters bus hmc5883lAddr 0xf hmcConfigWrites = result at written ⊢
      obtain ⟨ret, after⟩ := result
      dsimp only at written ⊢
      split
      · exact written
      · exact written
  unfold hmc5883lReadRawOnce
  generalize hmc5883lConfigOnce s bus = config at configured ⊢
  obtain ⟨ret, middle, after⟩ := config
  dsimp only at configured ⊢
  split
  · exact configured
  · obtain ⟨reply, logged⟩ := bbI2cReadRegs_logged after hmc5883lAddr 0x03 (Nat.succ_ne_zero 5)
    have read : Search none (bbI2cReadRegs after hmc5883lAddr 0x03 6).2.2.log := by
      rw [logged]
      exact configured.magnetic (by decide) reply
    generalize bbI2cReadRegs after hmc5883lAddr 0x03 6 = block at read ⊢
    obtain ⟨ret, buf, last⟩ := block
    dsimp only at read ⊢
    split
    · exact read
    · split
      · exact read
      · exact read

/-- The magnetometer's part of the probe leaves the search open and the flag as it was. -/
theorem hmcProbe_search {sensing : Sensing} {bus : I2cBus} (search : Search none bus.log)
    (a b c : UInt8) :
    Search none (hmcProbe sensing bus a b c).2.log ∧
      (hmcProbe sensing bus a b c).1.sensors.mpuCfgDone = sensing.sensors.mpuCfgDone := by
  unfold hmcProbe
  dsimp only
  split
  · have read := @hmc5883lReadRawOnce_search
      { sensing.sensors with
        hmcIdA := a, hmcIdB := b, hmcIdC := c, hmcBus := 100, hmcScanMask := 0x80000000
        hmcOk := true, i2cLastErr := 0 } bus search
    obtain ⟨done, axes, valid, written, -, -⟩ := hmc5883lReadRawOnce_spec
      { sensing.sensors with
        hmcIdA := a, hmcIdB := b, hmcIdC := c, hmcBus := 100, hmcScanMask := 0x80000000
        hmcOk := true, i2cLastErr := 0 } bus
    -- With the identity right, the data is read next.
    generalize hmc5883lReadRawOnce _ bus = result at read written ⊢
    obtain ⟨ret, s, after⟩ := result
    dsimp only at read written ⊢
    refine ⟨read, ?_⟩
    split
    · rw [written]
    · rw [written]
  · exact ⟨search, rfl⟩

/-- Neither calibration, correction, attitude nor body axes touch the configuration flag. -/
theorem sensorUpdateCorrectedOnce_cfgDone (sensing : Sensing) :
    (sensorUpdateCorrectedOnce sensing).sensors.mpuCfgDone = sensing.sensors.mpuCfgDone := by
  obtain ⟨_, _, _, _, kept⟩ := (sensorUpdateCorrectedOnce_corrected sensing).kept
  rw [kept]

/-- The attitude is no part of the sensor variables, -/
theorem attitudeUpdateDebugOnce_sensors (sensing : Sensing) :
    (attitudeUpdateDebugOnce sensing).sensors = sensing.sensors := by
  unfold attitudeUpdateDebugOnce
  dsimp only
  -- Each of the three exits touches the attitude alone.
  split
  · rfl
  · split
    · rfl
    · rfl

/-- and the body axes are not either. -/
theorem bodyAxisUpdateOnce_sensors (sensing : Sensing) :
    (bodyAxisUpdateOnce sensing).sensors = sensing.sensors := by
  unfold bodyAxisUpdateOnce
  dsimp only
  split
  · rfl
  · rfl

/-- What follows a read leaves the configuration flag alone. -/
theorem afterMpuRead_cfgDone (sensing : Sensing) :
    (afterMpuRead sensing).sensors.mpuCfgDone = sensing.sensors.mpuCfgDone := by
  unfold afterMpuRead
  dsimp only
  -- Each of the four updates writes other variables.
  have corrected := sensorUpdateCorrectedOnce_cfgDone
    { sensing with sensors := mpu6050CalUpdateOnce sensing.sensors }
  obtain ⟨_, _, _, _, _, _, calibrated, -⟩ := mpu6050CalUpdateOnce_kept sensing.sensors
  have same : (mpu6050CalUpdateOnce sensing.sensors).mpuCfgDone = sensing.sensors.mpuCfgDone := by
    rw [calibrated]
  rw [bodyAxisUpdateOnce_sensors, attitudeUpdateDebugOnce_sensors, corrected, same]

/-- Configuring at the address just stored is skipped once any sensor was configured. -/
theorem mpu6050ConfigOnce_cases {s : Sensors} {addr : UInt8} (stored : s.mpuAddrFound = addr)
    (bus : I2cBus) :
    s.mpuCfgDone = true ∧ mpu6050ConfigOnce s bus addr = (0, s, bus) ∨
      s.mpuCfgDone = false ∧ ∃ ret after sequence,
        ConfigSequence addr sequence ∧ after.log = sequence ++ bus.log ∧
        (ret = 0 ↔ ConfiguredIn sequence addr) ∧
        mpu6050ConfigOnce s bus addr = (ret, { s with mpuCfgDone := ret = 0 }, after) := by
  unfold mpu6050ConfigOnce
  cases done : s.mpuCfgDone with
  | true =>
    -- The address in the global is this one already, whoever was configured.
    rw [if_pos ⟨rfl, stored⟩]
    exact Or.inl ⟨rfl, rfl⟩
  | false =>
    rw [if_neg (fun both => nomatch both.1)]
    obtain ⟨sequence, logged, only, acked⟩ := configureRegisters_logged bus addr 0xff
      (show (mpuConfigWrites.map Prod.fst).Nodup by decide) (by simp [mpuConfigWrites])
    generalize configureRegisters bus addr 0xff mpuConfigWrites = config at logged acked ⊢
    obtain ⟨ret, after⟩ := config
    dsimp only at logged acked ⊢
    refine Or.inr ⟨rfl, ret, after, sequence, only, logged, acked, ?_⟩
    -- A failed sequence leaves the flag, and a successful one stores the address it had.
    by_cases success : ret = 0
    · simp only [success, ne_eq, not_true_eq_false, if_false, decide_true, ← stored]
    · simp only [success, ne_eq, not_false_eq_true, if_true, decide_false, ← done]

/-- The data read and its outcome do not touch the configuration flag. -/
theorem dataRead_traffic {s s' : Sensors} {bus bus' : I2cBus} {addr : UInt8} {done : Bool}
    (traffic : ∀ reply, ImuTraffic done
      ((.readRegs addr mpu6050AccelXoutH 14, reply) :: bus.log) s.mpuCfgDone)
    (config : mpu6050ConfigOnce s' bus' addr = (0, s, bus)) :
    ImuTraffic done (mpu6050ReadRawOnce s' bus' addr).2.2.log
      (mpu6050ReadRawOnce s' bus' addr).2.1.mpuCfgDone := by
  obtain ⟨reply, logged⟩ := bbI2cReadRegs_logged bus addr mpu6050AccelXoutH (Nat.succ_ne_zero 13)
  unfold mpu6050ReadRawOnce
  rw [config]
  dsimp only
  rw [if_neg (not_not.mpr rfl)]
  generalize bbI2cReadRegs bus addr mpu6050AccelXoutH 14 = block at logged ⊢
  obtain ⟨ret, buf, last⟩ := block
  dsimp only at logged ⊢
  -- The reply decides the rest, but not what was asked.
  have issued := traffic reply
  rw [← logged] at issued
  split
  · exact issued
  · exact issued

/-- Reading at the address the probe has just stored configures only if nothing ever was. -/
theorem mpu6050ReadRawOnce_traffic {s : Sensors} {bus : I2cBus} {addr : UInt8}
    (search : Search (some addr) bus.log) (stored : s.mpuAddrFound = addr) :
    ImuTraffic s.mpuCfgDone (mpu6050ReadRawOnce s bus addr).2.2.log
      (mpu6050ReadRawOnce s bus addr).2.1.mpuCfgDone := by
  rcases mpu6050ConfigOnce_cases stored bus with
    ⟨done, config⟩ | ⟨done, ret, after, sequence, only, logged, acked, config⟩
  · refine dataRead_traffic (fun reply => ?_) config
    rw [done]
    exact .known search
  · rw [done]
    by_cases success : ret = 0
    · subst success
      refine dataRead_traffic (fun reply => ?_) config
      rw [logged]
      exact .fresh search only (acked.mp rfl)
    · -- A failed sequence leaves the flag, and no data is read.
      unfold mpu6050ReadRawOnce
      rw [config]
      dsimp only
      rw [if_pos success, logged]
      simp only [success, decide_false]
      exact .failed search only fun all => success (acked.mpr all)

/-- Where a sensor identified itself it is configured if none ever was, and read if that works. -/
theorem mpuProbeAt_traffic {sensing : Sensing} {bus : I2cBus} {addr : UInt8}
    (search : Search (some addr) bus.log) (who : UInt8) :
    ImuTraffic sensing.sensors.mpuCfgDone (mpuProbeAt sensing bus addr who).2.2.log
      (mpuProbeAt sensing bus addr who).2.1.sensors.mpuCfgDone := by
  -- The probe stores the address before it reads there.
  have read := @mpu6050ReadRawOnce_traffic
    { sensing.sensors with mpuWhoami := who, mpuOk := true, mpuAddrFound := addr }
    bus addr search rfl
  unfold mpuProbeAt
  dsimp only
  generalize mpu6050ReadRawOnce _ bus addr = result at read ⊢
  obtain ⟨ret, s, after⟩ := result
  dsimp only at read ⊢
  split
  · exact read
  · rw [afterMpuRead_cfgDone]
    exact read

/-- The end of a probe adds nothing to its traffic. -/
theorem mpuFinish_traffic {done : Bool} {result : Bool × Sensing × I2cBus}
    (traffic : ImuTraffic done result.2.2.log result.2.1.sensors.mpuCfgDone) :
    ImuTraffic done (mpuFinish result).2.log (mpuFinish result).1.sensors.mpuCfgDone := by
  obtain ⟨read, sensing, bus⟩ := result
  -- Without a reading only the corrected values are refused.
  cases read with
  | true => exact traffic
  | false =>
    show ImuTraffic done bus.log (sensorUpdateCorrectedOnce _).sensors.mpuCfgDone
    rw [sensorUpdateCorrectedOnce_cfgDone]
    exact traffic

/-- Every probe of the inertial sensor is of one of the four kinds. -/
theorem mpuProbe_traffic {sensing : Sensing} {bus : I2cBus} (search : Search none bus.log) :
    ImuTraffic sensing.sensors.mpuCfgDone (mpuProbe sensing bus).2.log
      (mpuProbe sensing bus).1.sensors.mpuCfgDone := by
  obtain ⟨reply, logged, decides⟩ := bbI2cReadReg_logged bus mpu6050Addr0 mpu6050WhoamiReg
  obtain ⟨reply', logged', decides'⟩ := bbI2cReadReg_logged
    (bbI2cReadReg bus mpu6050Addr0 mpu6050WhoamiReg).2.2 mpu6050Addr1 mpu6050WhoamiReg
  have asked := search.asked mpu6050Addr0 reply
  rw [← logged] at asked
  rcases mpuProbe_cases sensing bus with ⟨identifies, same⟩ | ⟨silent, ends⟩
  · -- The first address identified itself.
    rw [same]
    exact mpuFinish_traffic (mpuProbeAt_traffic (asked.1 (decides.mp identifies)) _)
  · have open0 := asked.2 fun identifies => silent (decides.mpr identifies)
    have asked' := open0.asked mpu6050Addr1 reply'
    rw [← logged'] at asked'
    rcases ends with ⟨identifies, same⟩ | ⟨silent', same⟩
    · -- Only the second address did.
      rw [same]
      exact mpuFinish_traffic (mpuProbeAt_traffic (asked'.1 (decides'.mp identifies)) _)
    · -- Neither did, and the flag stays as it was.
      rw [same]
      apply mpuFinish_traffic
      exact .absent (asked'.2 fun identifies => silent' (decides'.mpr identifies))

/-- All traffic of a probe with the inertial sensor is in its order. -/
theorem ampI2cProbeOnce_traffic (sensing : Sensing) (devices : I2cDevices) :
    ImuTraffic sensing.sensors.mpuCfgDone (ampI2cProbeOnce sensing ⟨devices, []⟩).2.log
      (ampI2cProbeOnce sensing ⟨devices, []⟩).1.sensors.mpuCfgDone := by
  have start : Search none [] :=
    ⟨nofun, fun addr => ⟨fun ⟨_, logged, _⟩ => (List.not_mem_nil logged).elim, nofun⟩⟩
  obtain ⟨after, identification, ends⟩ := ampI2cProbeOnce_cases sensing ⟨devices, []⟩
  -- Whatever follows, the identification of the magnetometer leaves the search open.
  have search : Search none after.log := by
    obtain ⟨entries, logged, only⟩ := identification.logged
    rw [logged]
    apply start.magnetics
    intro entry member
    obtain ⟨reg, identifying, asked⟩ := only entry member
    rw [asked]
    exact identifying
  rcases ends with ⟨code, same⟩ | ⟨a, b, c, same⟩
  · rw [same]
    show ImuTraffic _ after.log (gaveUp sensing code).sensors.mpuCfgDone
    rw [gaveUp, sensorUpdateCorrectedOnce_cfgDone]
    exact .absent search
  · -- With the identification read, both halves of the probe run.
    rw [same]
    obtain ⟨opened, kept⟩ := @hmcProbe_search (probeReset sensing) _ search a b c
    have traffic := @mpuProbe_traffic (hmcProbe (probeReset sensing) after a b c).1 _ opened
    rw [kept] at traffic
    exact traffic

end Probe

section History

variable (devices : Nat → I2cDevices)

/-- What probe `i` of a history since the start put on the bus. -/
def probeLog (i : Nat) : I2cLog := (probeAt {} devices i).2.log

/-- The data is only read from a sensor whose registers this or an earlier probe has written. -/
def OnlyConfiguredRead (n : Nat) : Prop :=
  ∀ i < n, ∀ addr before, DataReadAfter (probeLog devices i) addr before →
    ConfiguredIn before addr ∨ ∃ j < i, ConfiguredIn (probeLog devices j) addr

/-- Once a sensor was configured, no sensor identifies itself at another address. -/
def StaysWhereConfigured (n : Nat) : Prop :=
  ∀ i < n, ∀ j < i, ∀ configured identified, ConfiguredIn (probeLog devices j) configured →
    Identified (probeLog devices i) identified → identified = configured

/-- So is that of every probe of a history. -/
theorem probeLog_traffic (i : Nat) :
    ImuTraffic (sensingBefore {} devices i).sensors.mpuCfgDone (probeLog devices i)
      (sensingBefore {} devices (i + 1)).sensors.mpuCfgDone :=
  ampI2cProbeOnce_traffic _ _

/-- Before any probe the flag says whether an earlier one has configured a sensor. -/
theorem cfgDone_iff (i : Nat) :
    (sensingBefore {} devices i).sensors.mpuCfgDone = true ↔
      ∃ j < i, ∃ addr, ConfiguredIn (probeLog devices j) addr := by
  -- The induction is on the probes, and each one adds what it has configured itself.
  induction i with
  | zero =>
    constructor
    · intro set
      cases set
    · rintro ⟨j, none, -⟩
      exact absurd none (Nat.not_lt_zero j)
  | succ i ih =>
    rw [(probeLog_traffic devices i).flag, ih]
    constructor
    · rintro (⟨j, earlier, addr, configured⟩ | ⟨addr, configured⟩)
      · exact ⟨j, Nat.lt_succ_of_lt earlier, addr, configured⟩
      · exact ⟨i, Nat.lt_succ_self i, addr, configured⟩
    · rintro ⟨j, earlier, addr, configured⟩
      rcases Nat.lt_succ_iff_lt_or_eq.mp earlier with before | rfl
      · exact Or.inl ⟨j, before, addr, configured⟩
      · exact Or.inr ⟨addr, configured⟩

/-- After a successful configuration none follows. -/
theorem configured_once {i j : Nat} {addr other : UInt8}
    (first : ConfiguredIn (probeLog devices i) addr)
    (second : ConfiguredIn (probeLog devices j) other) : ¬ i < j := by
  -- The earlier sequence has set the flag, and a set flag forbids another one.
  intro earlier
  have done := (cfgDone_iff devices j).mpr ⟨i, earlier, addr, first⟩
  have fresh := ((probeLog_traffic devices j).configured second).1
  rw [done] at fresh
  cases fresh

/-- Only configured sensors are read exactly as long as none shows up elsewhere afterwards. -/
theorem onlyConfiguredRead_iff (n : Nat) :
    OnlyConfiguredRead devices n ↔ StaysWhereConfigured devices n := by
  constructor
  · intro only i before j earlier configured identified sequence answered
    -- The flag is set, so the sensor that answers is read without being configured.
    have done := (cfgDone_iff devices i).mpr ⟨j, earlier, configured, sequence⟩
    have traffic := probeLog_traffic devices i
    rw [done] at traffic
    obtain ⟨past, read⟩ := traffic.reads answered
    rcases only i before identified past read with here | ⟨k, older, there⟩
    · obtain ⟨reply, suffix⟩ := read
      have contained : past ⊆ probeLog devices i :=
        fun entry member => suffix.subset (List.mem_cons_of_mem _ member)
      exact absurd (traffic.configured (here.mono contained)).1 Bool.noConfusion
    · -- There is one successful configuration, and it went to one address.
      have same : k = j := by
        have notBefore := configured_once devices there sequence
        have notAfter := configured_once devices sequence there
        omega
      subst same
      have origin := probeLog_traffic devices k
      exact origin.identified_unique (origin.configured sequence).2 (origin.configured there).2
  · intro stays i before addr past read
    have traffic := probeLog_traffic devices i
    obtain ⟨answered, fresh⟩ := traffic.dataRead read
    cases done : (sensingBefore {} devices i).sensors.mpuCfgDone with
    | false => exact Or.inl (fresh done)
    | true =>
      obtain ⟨j, earlier, configured, sequence⟩ := (cfgDone_iff devices i).mp done
      cases stays i before j earlier configured addr sequence answered
      exact Or.inr ⟨j, earlier, sequence⟩

/-- A bus with a magnetometer and one inertial sensor, which answers at the address. -/
def answeringAt (addr : UInt8) : I2cDevices := fun _ transfer =>
  match transfer with
  | .readReg dev reg =>
    if dev = hmc5883lAddr then
      .ack [if reg = 0x0A then 0x48 else if reg = 0x0B then 0x34 else 0x33]
    else if dev = addr then .ack [0x68]
    else .nack .device
  | .writeReg dev _ _ => if dev = hmc5883lAddr ∨ dev = addr then .ack [] else .nack .device
  | .readRegs dev _ len =>
    if dev = hmc5883lAddr ∨ dev = addr then .ack (List.replicate len 0) else .nack .device

/-- The sensor answers at its second address first, and at its first one from then on. -/
def movingSensor (i : Nat) : I2cDevices :=
  if i = 0 then answeringAt mpu6050Addr1 else answeringAt mpu6050Addr0

/-- A sensor that moves is read at its new address without being configured there. -/
theorem not_onlyConfiguredRead_moving : ¬ OnlyConfiguredRead movingSensor 2 := by
  intro only
  have read : DataReadAfter (probeLog movingSensor 1) mpu6050Addr0
      (probeLog movingSensor 1).tail := by
    refine ⟨.ack (List.replicate 14 0), ?_⟩
    have last : probeLog movingSensor 1 =
        (.readRegs mpu6050Addr0 mpu6050AccelXoutH 14, .ack (List.replicate 14 0)) ::
          (probeLog movingSensor 1).tail := by decide +kernel
    rw [← last]
  -- Neither probe wakes up the sensor at its first address.
  have asleep : ∀ i < 2, ∀ entry ∈ probeLog movingSensor i,
      entry.1 ≠ .writeReg mpu6050Addr0 0x6B 0x00 := by decide +kernel
  rcases only 1 (by decide) mpu6050Addr0 _ read with here | ⟨j, earlier, there⟩
  · obtain ⟨data, logged⟩ := here _ (wakeUp_mem mpu6050Addr0)
    exact asleep 1 (by decide) _ (List.mem_of_mem_tail logged) rfl
  · obtain ⟨data, logged⟩ := there _ (wakeUp_mem mpu6050Addr0)
    exact asleep j (by omega) _ logged rfl

end History

end AmpFc.Firmware
