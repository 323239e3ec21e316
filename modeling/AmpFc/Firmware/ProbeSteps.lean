import AmpFc.Firmware.Sensors

/-! The ways a probe of the sensor bus can go, for the proofs about all of them. -/

namespace AmpFc.Firmware

section Transactions

/-- The inertial sensor identified itself. -/
def I2cReply.Identifies : I2cReply → Prop
  | .ack data => data.getD 0 0 = 0x68
  | .nack _ => False

/-- A register read is logged with the reply that decides about it. -/
theorem bbI2cReadReg_logged (bus : I2cBus) (dev reg : UInt8) :
    ∃ reply, (bbI2cReadReg bus dev reg).2.2.log = (.readReg dev reg, reply) :: bus.log ∧
      ((bbI2cReadReg bus dev reg).1 = 0 ∧ (bbI2cReadReg bus dev reg).2.1 = 0x68 ↔
        reply.Identifies) := by
  unfold bbI2cReadReg I2cBus.transfer
  dsimp only
  -- A missing acknowledgement has a code that is not zero.
  cases bus.devices bus.log (.readReg dev reg) with
  | ack data => exact ⟨.ack data, rfl, and_iff_right rfl⟩
  | nack byte =>
    refine ⟨.nack byte, rfl, ?_⟩
    constructor
    · rintro ⟨none, -⟩
      cases byte <;> cases none
    · exact False.elim

/-- Traffic that reads identification registers of the magnetometer. -/
structure IdentificationRead (before after : I2cBus) : Prop where
  logged : ∃ entries, after.log = entries ++ before.log ∧
    ∀ entry ∈ entries, ∃ reg ≤ 0x0C, entry.1 = .readReg hmc5883lAddr reg

/-- Asking nothing asks for no more than the identity. -/
theorem IdentificationRead.refl (bus : I2cBus) : IdentificationRead bus bus :=
  ⟨[], rfl, nofun⟩

/-- One more identification register may be asked for. -/
theorem IdentificationRead.read {before after : I2cBus} (asked : IdentificationRead before after)
    {reg : UInt8} (identification : reg ≤ 0x0C) :
    IdentificationRead before (bbI2cReadReg after hmc5883lAddr reg).2.2 := by
  obtain ⟨entries, earlier, only⟩ := asked.logged
  obtain ⟨reply, logged, -⟩ := bbI2cReadReg_logged after hmc5883lAddr reg
  -- The new read goes on top of the earlier ones.
  refine ⟨(.readReg hmc5883lAddr reg, reply) :: entries, ?_, ?_⟩
  · rw [logged, earlier, List.cons_append]
  · intro entry member
    rcases List.mem_cons.mp member with rfl | older
    · exact ⟨reg, identification, rfl⟩
    · exact only entry older

end Transactions

section Ends

/-- The end of a probe as `mpuProbe` has it. -/
def mpuFinish : Bool × Sensing × I2cBus → Sensing × I2cBus
  | (true, sensing, bus) => (sensing, bus)
  | (false, sensing, bus) =>
    (sensorUpdateCorrectedOnce
      { sensing with sensors := { sensing.sensors with mpuDataOk := false } }, bus)

/-- The inertial sensor answers at its first address, at its second, or not at all. -/
theorem mpuProbe_cases (sensing : Sensing) (bus : I2cBus) :
    let first := bbI2cReadReg bus mpu6050Addr0 mpu6050WhoamiReg
    let second := bbI2cReadReg first.2.2 mpu6050Addr1 mpu6050WhoamiReg
    ((first.1 = 0 ∧ first.2.1 = 0x68) ∧
        mpuProbe sensing bus =
          mpuFinish (mpuProbeAt sensing first.2.2 mpu6050Addr0 first.2.1)) ∨
      ¬ (first.1 = 0 ∧ first.2.1 = 0x68) ∧
        ((second.1 = 0 ∧ second.2.1 = 0x68) ∧
            mpuProbe sensing bus =
              mpuFinish (mpuProbeAt sensing second.2.2 mpu6050Addr1 second.2.1) ∨
          ¬ (second.1 = 0 ∧ second.2.1 = 0x68) ∧
            mpuProbe sensing bus = mpuFinish (false, sensing, second.2.2)) := by
  intro first second
  -- The second address is asked only if the first one stays silent.
  unfold mpuProbe
  dsimp only
  split
  · rename_i identified
    exact Or.inl ⟨identified, rfl⟩
  · rename_i silent
    split
    · rename_i identified
      exact Or.inr ⟨silent, Or.inl ⟨identified, rfl⟩⟩
    · rename_i silent'
      exact Or.inr ⟨silent, Or.inr ⟨silent', rfl⟩⟩

/-- What a probe leaves that could not read the magnetometer's identification. -/
def gaveUp (sensing : Sensing) (code : UInt32) : Sensing :=
  sensorUpdateCorrectedOnce { probeReset sensing with
    sensors := { (probeReset sensing).sensors with i2cLastErr := code } }

/-- Behind the identification a probe gives up, or goes through both of its halves. -/
theorem ampI2cProbeOnce_cases (sensing : Sensing) (bus : I2cBus) :
    ∃ after, IdentificationRead bus after ∧
      ((∃ code, ampI2cProbeOnce sensing bus = (gaveUp sensing code, after)) ∨
        ∃ a b c, ampI2cProbeOnce sensing bus =
          mpuProbe (hmcProbe (probeReset sensing) after a b c).1
            (hmcProbe (probeReset sensing) after a b c).2) := by
  have first := (IdentificationRead.refl bus).read (show (0x0A : UInt8) ≤ 0x0C by decide)
  have second := first.read (show (0x0B : UInt8) ≤ 0x0C by decide)
  have third := second.read (show (0x0C : UInt8) ≤ 0x0C by decide)
  unfold ampI2cProbeOnce
  dsimp only
  -- Each of the three bytes can be the one that cannot be read.
  split
  · exact ⟨_, first, Or.inl ⟨_, rfl⟩⟩
  · split
    · exact ⟨_, second, Or.inl ⟨_, rfl⟩⟩
    · split
      · exact ⟨_, third, Or.inl ⟨_, rfl⟩⟩
      · exact ⟨_, third, Or.inr ⟨_, _, _, rfl⟩⟩

end Ends

end AmpFc.Firmware
