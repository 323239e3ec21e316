import Mathlib.Data.UInt
import AmpFc.Linux.MailboxTransport

/-! How Linux opens the shared region: backends tried in turn, and the address that is announced. -/

namespace AmpFc

/-- `SharedRegionBackend`. -/
inductive SharedRegionBackend where
  | fallback
  | ion
  | devMem
  | shm
  deriving DecidableEq, Repr

/-- The memory that a pointer leads into. -/
inductive RegionMemory where
  | null
  /-- `fallback_region_`, which no other process sees. -/
  | processLocal
  | physical (address : UInt64)
  | sharedFile (path : String)
  deriving DecidableEq, Repr

/-- What the board hook `amp_fc_allocate_ion_region` returns and fills in. -/
structure IonAllocation where
  allocated : Bool
  virtNull : Bool
  /-- The physical address of the memory that the virtual one maps. -/
  phys : UInt64
  fd : Int

/-- The environment variables that are read, and what the system calls answer. -/
structure HostEnvironment where
  ampDevmemPath : Option String
  ampCmdRegionShm : Option String
  ampDisableIon : Option String
  /-- The number that `strtoull` reads from `AMP_CMD_REGION_PHYS`, if the variable is set. -/
  ampCmdRegionPhys : Option UInt64
  ion : IonAllocation
  ionFlushed : Bool
  openDevmem : String → Int
  /-- `sysconf(_SC_PAGESIZE)`. -/
  pageSize : UInt64
  /-- Mapping the memory device from an offset on, for a number of bytes, succeeds. -/
  mmapDevmem : UInt64 → UInt64 → Bool
  openShm : String → Int
  ftruncated : Bool
  mmapShm : Bool
  openDevice : String → Int
  /-- The `ioctl` that announces an address is acknowledged. -/
  acknowledged : UInt32 → Bool

/-- The members of `MailboxTransport` that `open` works on. -/
structure RegionLink where
  devicePath : String := "/dev/cvi-rtos-cmdqu"
  devmemPath : String := "/dev/mem"
  sharedRegionPath : String := "/dev/shm/amp_fc_cmd_region.bin"
  fd : Int := -1
  ionFd : Int := -1
  devmemFd : Int := -1
  sharedFd : Int := -1
  sharedRegion : RegionMemory := .null
  sharedMapBase : RegionMemory := .null
  sharedMapSize : UInt64 := 0
  fallbackMode : Bool := false
  sharedBackend : SharedRegionBackend := .fallback
  sharedPhysAddr : UInt64 := 0

/-- What `open` returns, the members it leaves, and the address it announced, if any. -/
structure OpenResult where
  opened : Bool
  link : RegionLink
  announced : Option UInt32

/-- `sizeof(proto::SharedCommandRegion)`, all packed. -/
def sharedRegionSize : UInt64 := 172

namespace RegionLink

/-- `close`, down to the end of `closeSharedRegion`. -/
def close (l : RegionLink) : RegionLink :=
  -- Descriptors that were never opened are left as they are.
  { l with
    fd := if l.fd ≥ 0 then -1 else l.fd
    fallbackMode := false
    sharedMapBase := .null
    sharedMapSize := 0
    ionFd := if l.ionFd ≥ 0 then -1 else l.ionFd
    devmemFd := if l.devmemFd ≥ 0 then -1 else l.devmemFd
    sharedFd := if l.sharedFd ≥ 0 then -1 else l.sharedFd
    sharedRegion := .null
    sharedPhysAddr := 0
    sharedBackend := .fallback }

/-- `allocateIonSharedRegion`. -/
def allocateIonSharedRegion (l : RegionLink) (host : HostEnvironment) : Bool × RegionLink :=
  if !host.ion.allocated || host.ion.virtNull || host.ion.phys = 0 then (false, l)
  else
    (true, { l with
      sharedRegion := .physical host.ion.phys
      sharedMapBase := .physical host.ion.phys
      sharedMapSize := sharedRegionSize
      sharedPhysAddr := host.ion.phys
      ionFd := host.ion.fd
      sharedBackend := .ion })

/-- `allocateDevmemSharedRegion`. -/
def allocateDevmemSharedRegion (l : RegionLink) (host : HostEnvironment) : Bool × RegionLink :=
  match host.ampCmdRegionPhys with
  | none => (false, l)
  | some parsed =>
    if parsed = 0 then (false, l)
    else
      -- The address is stored before the device is opened.
      let l := { l with sharedPhysAddr := parsed, devmemFd := host.openDevmem l.devmemPath }
      if l.devmemFd < 0 then (false, l)
      else
        let pageMask := host.pageSize - 1
        let pageBase := l.sharedPhysAddr &&& ~~~pageMask
        let pageOffset := l.sharedPhysAddr - pageBase
        let mapSize := pageOffset + sharedRegionSize
        if !host.mmapDevmem pageBase mapSize then
          (false, { l with devmemFd := -1, sharedPhysAddr := 0 })
        else
          (true, { l with
            sharedMapBase := .physical pageBase
            sharedMapSize := mapSize
            sharedRegion := .physical (pageBase + pageOffset)
            sharedBackend := .devMem })

/-- `allocateShmSharedRegion`, which also succeeds where it maps nothing. -/
def allocateShmSharedRegion (l : RegionLink) (host : HostEnvironment) : Bool × RegionLink :=
  let l := { l with sharedFd := host.openShm l.sharedRegionPath }
  if l.sharedFd < 0 then (true, l)
  else if !host.ftruncated then (true, { l with sharedFd := -1 })
  else if !host.mmapShm then (true, { l with sharedFd := -1 })
  else
    (true, { l with
      sharedRegion := .sharedFile l.sharedRegionPath
      sharedMapBase := .sharedFile l.sharedRegionPath
      sharedMapSize := sharedRegionSize
      sharedBackend := .shm
      sharedPhysAddr := 0 })

/-- A path from the environment replaces the stored one unless it is empty. -/
def pathFrom (value : Option String) (stored : String) : String :=
  match value with
  | some path => if path.length > 0 then path else stored
  | none => stored

/-- The paths that `allocateSharedRegion` settles on first. -/
def withPaths (l : RegionLink) (host : HostEnvironment) : RegionLink :=
  { l with
    devmemPath := pathFrom host.ampDevmemPath l.devmemPath
    sharedRegionPath := pathFrom host.ampCmdRegionShm l.sharedRegionPath }

/-- The local `ion_disabled`. -/
def ionDisabled (host : HostEnvironment) : Bool := host.ampDisableIon == some "1"

/-- `allocateSharedRegion`. -/
def allocateSharedRegion (l : RegionLink) (host : HostEnvironment) : Bool × RegionLink :=
  let l := l.withPaths host
  -- What a failed attempt changed is seen by the next one.
  let ion := if !ionDisabled host then l.allocateIonSharedRegion host else (false, l)
  if ion.1 then (true, ion.2)
  else
    let devmem :=
      if host.ampCmdRegionPhys.isSome then ion.2.allocateDevmemSharedRegion host
      else (false, ion.2)
    if devmem.1 then (true, devmem.2) else devmem.2.allocateShmSharedRegion host

/-- `flushSharedRegion`. -/
def flushSharedRegion (l : RegionLink) (host : HostEnvironment) : Bool :=
  if l.sharedBackend = .ion then host.ionFlushed else true

/-- The result of `initializeSharedRegion`; its writes to the region are modelled with the slots. -/
def initializeSharedRegion (l : RegionLink) (host : HostEnvironment) : Bool :=
  if l.sharedRegion = .null then false else l.flushSharedRegion host

/-- The members that `openSharedRegion` starts from, with the region of the process itself. -/
def withLocalRegion (l : RegionLink) : RegionLink :=
  { l with
    sharedRegion := .processLocal
    sharedBackend := .fallback
    sharedPhysAddr := 0
    sharedMapBase := .null
    sharedMapSize := 0
    ionFd := -1 }

/-- `openSharedRegion`. -/
def openSharedRegion (l : RegionLink) (host : HostEnvironment) : Bool × RegionLink :=
  let allocated := l.withLocalRegion.allocateSharedRegion host
  if !allocated.1 then (false, allocated.2)
  else (allocated.2.initializeSharedRegion host, allocated.2)

/-- `notifySharedRegion`: whether it succeeds, and the address that was sent, if one was. -/
def notifySharedRegion (l : RegionLink) (host : HostEnvironment) : Bool × Option UInt32 :=
  if l.sharedPhysAddr = 0 then (false, none)
  else if l.sharedPhysAddr > 0xFFFFFFFF then (false, none)
  else
    let phys32 := l.sharedPhysAddr.toUInt32
    -- `sendCommand` reports success in fallback mode, and failure without a device.
    if l.fallbackMode then (true, none)
    else if l.fd < 0 then (false, none)
    else (host.acknowledged phys32, some phys32)

/-- `MailboxTransport::open`. -/
def openTransport (l : RegionLink) (host : HostEnvironment) : OpenResult :=
  let shared := l.close.openSharedRegion host
  if !shared.1 then ⟨false, shared.2, none⟩
  else
    let l : RegionLink := { shared.2 with fd := host.openDevice shared.2.devicePath }
    if l.fd < 0 then ⟨true, { l with fallbackMode := true }, none⟩
    else
      let l : RegionLink := { l with fallbackMode := false }
      let notified := l.notifySharedRegion host
      if !notified.1 then ⟨false, l.close, notified.2⟩ else ⟨true, l, notified.2⟩

/-- `isLive`. -/
def isLive (l : RegionLink) : Bool := l.fd ≥ 0 && !l.fallbackMode

end RegionLink

/-- A live transport announced the physical address of the memory that it writes to. -/
def OpenResult.AnnouncesRegion (r : OpenResult) : Prop :=
  r.opened = true → r.link.isLive = true →
    ∃ address : UInt32, r.announced = some address ∧
      r.link.sharedRegion = .physical address.toUInt64 ∧
      r.link.sharedPhysAddr = address.toUInt64 ∧
      (r.link.sharedBackend = .ion ∨ r.link.sharedBackend = .devMem)

namespace RegionLink

/-- ION is disabled, or its hook does not bring a mapping. -/
def ionMissing (host : HostEnvironment) : Bool :=
  ionDisabled host || (!host.ion.allocated || host.ion.virtNull || host.ion.phys = 0)

/-- The shared file cannot be opened, resized, or mapped. -/
def shmMissing (l : RegionLink) (host : HostEnvironment) : Bool :=
  host.openShm (l.withPaths host).sharedRegionPath < 0 || !host.ftruncated || !host.mmapShm

/-- An address from the environment is stored for a device that cannot be opened, and stays. -/
structure AddressStays (l : RegionLink) (host : HostEnvironment) (address : UInt64) : Prop where
  ion : ionMissing host = true
  set : host.ampCmdRegionPhys = some address
  nonzero : address ≠ 0
  devmem : host.openDevmem (l.withPaths host).devmemPath < 0
  shm : l.shmMissing host = true

/-- The part of this that the attempt with the memory device has to do with. -/
def KeptByDevmem (l : RegionLink) (host : HostEnvironment) (address : UInt64) : Prop :=
  host.ampCmdRegionPhys = some address ∧ address ≠ 0 ∧ host.openDevmem l.devmemPath < 0

/-- The pointer leads into the memory whose address is stored, by one of the two real backends. -/
def Backed (l : RegionLink) : Prop :=
  l.sharedRegion = .physical l.sharedPhysAddr ∧
    (l.sharedBackend = .ion ∨ l.sharedBackend = .devMem)

/-- The pointer leads only into the process, under an address that was stored all the same. -/
def Stray (l : RegionLink) (address : UInt64) : Prop :=
  l.sharedRegion = .processLocal ∧ l.sharedBackend = .fallback ∧ l.sharedPhysAddr = address

/-- The members that an allocation does not touch. -/
def SameDevice (before after : RegionLink) : Prop :=
  after.devicePath = before.devicePath ∧ after.fallbackMode = before.fallbackMode

/-- Allocation by the shared file drops the address, unless it maps nothing. -/
theorem allocateShmSharedRegion_spec (l : RegionLink) (host : HostEnvironment) :
    (l.allocateShmSharedRegion host).1 = true ∧
      SameDevice l (l.allocateShmSharedRegion host).2 ∧
      if host.openShm l.sharedRegionPath < 0 || !host.ftruncated || !host.mmapShm then
        (l.allocateShmSharedRegion host).2.sharedRegion = l.sharedRegion ∧
          (l.allocateShmSharedRegion host).2.sharedBackend = l.sharedBackend ∧
          (l.allocateShmSharedRegion host).2.sharedPhysAddr = l.sharedPhysAddr
      else (l.allocateShmSharedRegion host).2.sharedPhysAddr = 0 := by
  unfold allocateShmSharedRegion SameDevice
  -- The file is opened, resized, and mapped, and each of these can fail.
  by_cases refused : host.openShm l.sharedRegionPath < 0
  · simp [refused]
  · cases resized : host.ftruncated with
    | false => simp [refused]
    | true =>
      cases mapped : host.mmapShm with
      | false => simp [refused]
      | true => simp [refused]

/-- ION brings a backed region, or changes nothing. -/
theorem ionAttempt_spec (l : RegionLink) (host : HostEnvironment) :
    if ionMissing host then
      (if !ionDisabled host then l.allocateIonSharedRegion host else (false, l)) = (false, l)
    else
      (if !ionDisabled host then l.allocateIonSharedRegion host else (false, l)).1 = true ∧
        SameDevice l (l.allocateIonSharedRegion host).2 ∧
        (l.allocateIonSharedRegion host).2.Backed := by
  unfold ionMissing allocateIonSharedRegion
  cases disabled : ionDisabled host with
  | true => simp
  | false =>
    cases refused : !host.ion.allocated || host.ion.virtNull || decide (host.ion.phys = 0) with
    | true => simp
    | false => simp [SameDevice, Backed]

/-- The memory device brings a backed region, drops the address, or leaves it behind. -/
theorem devmemAttempt_spec {l : RegionLink} (host : HostEnvironment) (blank : l.Stray 0) :
    let attempt := if host.ampCmdRegionPhys.isSome then l.allocateDevmemSharedRegion host
      else (false, l)
    SameDevice l attempt.2 ∧ attempt.2.sharedRegionPath = l.sharedRegionPath ∧
      if attempt.1 then attempt.2.Backed ∧ ¬ host.openDevmem l.devmemPath < 0
      else (∃ address, l.KeptByDevmem host address ∧ attempt.2.Stray address) ∨
        (¬ ∃ address, l.KeptByDevmem host address) ∧ attempt.2.Stray 0 := by
  obtain ⟨region, backend, cleared⟩ := blank
  unfold allocateDevmemSharedRegion SameDevice Stray Backed KeptByDevmem
  cases set : host.ampCmdRegionPhys with
  | none => simp [region, backend, cleared]
  | some parsed =>
    by_cases zero : parsed = 0
    · simp [zero, region, backend, cleared]
    · by_cases refused : host.openDevmem l.devmemPath < 0
      · simp [zero, refused, region, backend]
      · cases mapped : host.mmapDevmem (parsed &&& ~~~(host.pageSize - 1))
            (parsed - (parsed &&& ~~~(host.pageSize - 1)) + sharedRegionSize) with
        | false => simp [zero, refused, mapped, region, backend]
        | true =>
          -- The start of the page and the offset within it add up to the address.
          simp [zero, refused, mapped]

/-- The last attempt drops what the memory device left behind, unless it maps nothing itself. -/
theorem shmAttempt_spec {l attempt : RegionLink} {host : HostEnvironment}
    (missing : ionMissing host = true)
    (path : attempt.sharedRegionPath = (l.withPaths host).sharedRegionPath)
    (outcome : (∃ address, (l.withPaths host).KeptByDevmem host address ∧
        attempt.Stray address) ∨
      (¬ ∃ address, (l.withPaths host).KeptByDevmem host address) ∧ attempt.Stray 0) :
    (∃ address, l.AddressStays host address ∧
        (attempt.allocateShmSharedRegion host).2.Stray address) ∨
      (¬ ∃ address, l.AddressStays host address) ∧
        (attempt.allocateShmSharedRegion host).2.sharedPhysAddr = 0 := by
  obtain ⟨-, -, shm⟩ := allocateShmSharedRegion_spec attempt host
  rw [path] at shm
  cases none : l.shmMissing host with
  | false =>
    -- The file is mapped, and the address is cleared whatever it was.
    rw [if_neg (by simpa [shmMissing] using none)] at shm
    refine Or.inr ⟨?_, shm⟩
    rintro ⟨address, left⟩
    exact absurd left.shm (by simp [none])
  | true =>
    -- A failed attempt touches none of the three members.
    rw [if_pos (by simpa [shmMissing] using none)] at shm
    obtain ⟨region', backend', stored'⟩ := shm
    rcases outcome with
      ⟨address, ⟨set, nonzero, refused⟩, region, backend, stored⟩ | ⟨kept, blank⟩
    · refine Or.inl ⟨address, ⟨missing, set, nonzero, refused, none⟩, ?_⟩
      exact ⟨region'.trans region, backend'.trans backend, stored'.trans stored⟩
    · refine Or.inr ⟨?_, stored'.trans blank.2.2⟩
      rintro ⟨address, left⟩
      exact kept ⟨address, left.set, left.nonzero, left.devmem⟩

/-- An allocation leaves a stray address, brings a backed region, or carries no address. -/
theorem allocateSharedRegion_spec {l : RegionLink} (host : HostEnvironment)
    (blank : l.Stray 0) :
    (l.allocateSharedRegion host).1 = true ∧ SameDevice l (l.allocateSharedRegion host).2 ∧
      ((∃ address, l.AddressStays host address ∧ (l.allocateSharedRegion host).2.Stray address) ∨
        (¬ ∃ address, l.AddressStays host address) ∧
          ((l.allocateSharedRegion host).2.Backed ∨
            (l.allocateSharedRegion host).2.sharedPhysAddr = 0)) := by
  have ion := ionAttempt_spec (l.withPaths host) host
  unfold allocateSharedRegion
  dsimp only
  -- The attempts are made in turn, and each is only reached when the ones before it failed.
  cases missing : ionMissing host with
  | false =>
    simp only [missing, Bool.false_eq_true, if_false] at ion
    obtain ⟨allocated, device, backed⟩ := ion
    have enabled : ionDisabled host = false := by
      unfold ionMissing at missing
      exact (Bool.or_eq_false_iff.mp missing).1
    have stays : ¬ ∃ address, l.AddressStays host address := by
      rintro ⟨address, left⟩
      exact absurd left.ion (by simp [missing])
    simp only [enabled, Bool.not_false, if_true] at allocated ⊢
    rw [if_pos allocated]
    exact ⟨rfl, device, Or.inr ⟨stays, Or.inl backed⟩⟩
  | true =>
    simp only [missing, if_true] at ion
    rw [ion]
    -- The paths are settled, which leaves the pointer and the address as they were.
    have settled : (l.withPaths host).Stray 0 := blank
    have devmem := devmemAttempt_spec host settled
    dsimp only at devmem
    simp only [Bool.false_eq_true, if_false]
    revert devmem
    generalize (if host.ampCmdRegionPhys.isSome = true then
      (l.withPaths host).allocateDevmemSharedRegion host else (false, l.withPaths host)) = attempt
    rintro ⟨device, path, outcome⟩
    cases mapped : attempt.1 with
    | true =>
      simp only [mapped, if_true] at outcome ⊢
      have stays : ¬ ∃ address, l.AddressStays host address := by
        rintro ⟨address, left⟩
        exact outcome.2 left.devmem
      exact ⟨trivial, device, Or.inr ⟨stays, Or.inl outcome.1⟩⟩
    | false =>
      simp only [mapped, Bool.false_eq_true, if_false] at outcome ⊢
      obtain ⟨done, same, -⟩ := allocateShmSharedRegion_spec attempt.2 host
      refine ⟨done, ⟨same.1.trans device.1, same.2.trans device.2⟩, ?_⟩
      rcases shmAttempt_spec missing path outcome with left | ⟨stays, cleared⟩
      · exact Or.inl left
      · exact Or.inr ⟨stays, Or.inr cleared⟩

/-- The members once a region is allocated for a transport that is opened. -/
def allocatedFor (l : RegionLink) (host : HostEnvironment) : RegionLink :=
  (l.close.openSharedRegion host).2

/-- A transport is open and live after the initialised region was announced and acknowledged. -/
def Announced (l : RegionLink) (host : HostEnvironment) : Prop :=
  (l.close.openSharedRegion host).1 = true ∧ 0 ≤ host.openDevice l.devicePath ∧
    (l.allocatedFor host).sharedPhysAddr ≠ 0 ∧
    (l.allocatedFor host).sharedPhysAddr ≤ 0xFFFFFFFF ∧
    host.acknowledged (l.allocatedFor host).sharedPhysAddr.toUInt32 = true

/-- An address stays or does not by the paths alone, which opening leaves as they are. -/
theorem addressStays_opening (l : RegionLink) (host : HostEnvironment) (address : UInt64) :
    l.close.withLocalRegion.AddressStays host address ↔ l.AddressStays host address :=
  ⟨fun left => ⟨left.ion, left.set, left.nonzero, left.devmem, left.shm⟩,
    fun left => ⟨left.ion, left.set, left.nonzero, left.devmem, left.shm⟩⟩

/-- What is allocated for a transport that is opened. -/
theorem allocatedFor_spec (l : RegionLink) (host : HostEnvironment) :
    (l.allocatedFor host).devicePath = l.devicePath ∧
      ((∃ address, l.AddressStays host address ∧ (l.allocatedFor host).Stray address) ∨
        (¬ ∃ address, l.AddressStays host address) ∧
          ((l.allocatedFor host).Backed ∨ (l.allocatedFor host).sharedPhysAddr = 0)) := by
  have blank : l.close.withLocalRegion.Stray 0 := ⟨rfl, rfl, rfl⟩
  obtain ⟨done, device, outcome⟩ := allocateSharedRegion_spec host blank
  have same : l.allocatedFor host = (l.close.withLocalRegion.allocateSharedRegion host).2 := by
    unfold allocatedFor openSharedRegion
    simp only [done, Bool.not_true, Bool.false_eq_true, if_false]
  rw [same]
  simp only [addressStays_opening] at outcome
  exact ⟨device.1, outcome⟩

/-- The result of opening, wherever the transport is live. -/
theorem openTransport_live (l : RegionLink) (host : HostEnvironment) :
    ((l.openTransport host).opened = true ∧ (l.openTransport host).link.isLive = true ↔
        l.Announced host) ∧
      (l.Announced host →
        (l.openTransport host).announced = some (l.allocatedFor host).sharedPhysAddr.toUInt32 ∧
        (l.openTransport host).link.sharedRegion = (l.allocatedFor host).sharedRegion ∧
        (l.openTransport host).link.sharedBackend = (l.allocatedFor host).sharedBackend ∧
        (l.openTransport host).link.sharedPhysAddr = (l.allocatedFor host).sharedPhysAddr) := by
  have path : (l.close.openSharedRegion host).2.devicePath = l.devicePath :=
    (allocatedFor_spec l host).1
  unfold openTransport Announced allocatedFor notifySharedRegion isLive
  dsimp only
  simp only [path]
  -- Every condition of an announcement is one exit of the source, in this order.
  cases ready : (l.close.openSharedRegion host).1 with
  | false => simp
  | true =>
    by_cases device : host.openDevice l.devicePath < 0
    · simp [device]
    · by_cases zero : (l.close.openSharedRegion host).2.sharedPhysAddr = 0
      · simp [device, zero]
      · by_cases wide : (l.close.openSharedRegion host).2.sharedPhysAddr > 0xFFFFFFFF
        · simp [device, zero, wide]
        · have narrow := UInt64.not_lt.mp wide
          cases acked : host.acknowledged
              (l.close.openSharedRegion host).2.sharedPhysAddr.toUInt32 with
          | false => simp [device, zero, wide]
          | true => simp [device, zero, wide, narrow]

/-- An address that fits is sent as it is. -/
theorem toUInt64_toUInt32_of_le {address : UInt64} (fits : address ≤ 0xFFFFFFFF) :
    address.toUInt32.toUInt64 = address := by
  have bound : address.toNat ≤ 0xFFFFFFFF := UInt64.le_iff_toNat_le.mp fits
  apply UInt64.toNat_inj.mp
  simp only [UInt32.toNat_toUInt64, UInt64.toNat_toUInt32]
  omega

/-- A region that is initialised before an address stays behind is the one of the process. -/
theorem openSharedRegion_of_stray {l : RegionLink} {host : HostEnvironment} {address : UInt64}
    (stray : (l.allocatedFor host).Stray address) :
    (l.close.openSharedRegion host).1 = true := by
  obtain ⟨region, backend, -⟩ := stray
  have done := (allocateSharedRegion_spec host
    (⟨rfl, rfl, rfl⟩ : l.close.withLocalRegion.Stray 0)).1
  unfold allocatedFor openSharedRegion at region backend
  unfold openSharedRegion
  simp only [done, Bool.not_true, Bool.false_eq_true, if_false] at region backend ⊢
  simp [initializeSharedRegion, flushSharedRegion, region, backend]

/-- A live transport announced its own region, exactly where no address stays behind unused. -/
theorem openTransport_announces_iff (l : RegionLink) (host : HostEnvironment) :
    (l.openTransport host).AnnouncesRegion ↔
      ¬ ∃ address, l.AddressStays host address ∧ address ≤ 0xFFFFFFFF ∧
        0 ≤ host.openDevice l.devicePath ∧ host.acknowledged address.toUInt32 = true := by
  obtain ⟨live, result⟩ := openTransport_live l host
  rcases (allocatedFor_spec l host).2 with ⟨address, left, stray⟩ | ⟨none, allocated⟩
  · -- An address stays behind, which is the one that would be announced.
    have stored : (l.allocatedFor host).sharedPhysAddr = address := stray.2.2
    have unique : ∀ other, l.AddressStays host other → other = address := by
      intro other left'
      exact Option.some_inj.mp (left'.set.symm.trans left.set)
    constructor
    · rintro announces ⟨other, left', fits, device, acked⟩
      obtain rfl := unique other left'
      have announced : l.Announced host := by
        refine ⟨openSharedRegion_of_stray stray, device, ?_⟩
        rw [stored]
        exact ⟨left.nonzero, fits, acked⟩
      obtain ⟨opened, isLive⟩ := live.mpr announced
      obtain ⟨-, region, -, -⟩ := result announced
      obtain ⟨address, -, physical, -⟩ := announces opened isLive
      -- The pointer would have to lead both into the process and out of it.
      rw [region, stray.1] at physical
      cases physical
    · intro absent opened isLive
      obtain ⟨-, device, -, fits, acked⟩ := live.mp ⟨opened, isLive⟩
      rw [stored] at fits acked
      exact absurd ⟨address, left, fits, device, acked⟩ absent
  · -- No address stays, so both sides hold.
    constructor
    · rintro - ⟨address, left, -⟩
      exact none ⟨address, left⟩
    · rintro - opened isLive
      have announced := live.mp ⟨opened, isLive⟩
      obtain ⟨sent, region, backend, stored⟩ := result announced
      obtain ⟨-, -, nonzero, fits, -⟩ := announced
      rcases allocated with backed | zero
      · refine ⟨_, sent, ?_⟩
        rw [toUInt64_toUInt32_of_le fits, region, backend, stored]
        exact ⟨backed.1, rfl, backed.2⟩
      · exact absurd zero nonzero

/-- ION and both files are missing, the mailbox device is there, and an address is configured. -/
def bareHost : HostEnvironment where
  ampDevmemPath := none
  ampCmdRegionShm := none
  ampDisableIon := none
  ampCmdRegionPhys := some 0x8fe00000
  ion := ⟨false, true, 0, -1⟩
  ionFlushed := false
  openDevmem := fun _ => -1
  pageSize := 4096
  mmapDevmem := fun _ _ => false
  openShm := fun _ => -1
  ftruncated := false
  mmapShm := false
  openDevice := fun _ => 3
  acknowledged := fun _ => true

/-- A live transport writes into its own process under the configured address. -/
theorem not_announcesRegion_bareHost :
    ¬ (({} : RegionLink).openTransport bareHost).AnnouncesRegion := by
  intro announces
  obtain ⟨address, -, region, -⟩ := announces (by decide) (by decide)
  have local' : (({} : RegionLink).openTransport bareHost).link.sharedRegion = .processLocal := by
    decide
  rw [local'] at region
  cases region

end RegionLink

end AmpFc
