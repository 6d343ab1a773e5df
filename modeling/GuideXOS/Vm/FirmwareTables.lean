import GuideXOS.Vm.Firmware

/-!
# `FirmwareTables` — the firmware tables are what their validators take

A validator accepts the table that was built for it and reports what was put in (`validateSalSystemTable`,
`validateAcpiTables`). Every table sums to zero, and each validator asks for that over a length that can only be the
whole table; so a change of any one byte is refused.
-/

namespace GuideXOS.Vm
open Core Lib Lib.Words Lib.Patches Lib.Checksums

namespace Acpi

/-! ## The root pointer -/

section Rsdp
variable (rsdtAddress xsdtAddress : UInt64)

@[simp] theorem length_buildRsdp : (buildRsdp rsdtAddress xsdtAddress).length = kRsdpSizeAcpi2 := by
  rw [buildRsdp, length_balance, List.length_set, length_laidOut (ascending_rsdpFields _ _)]

theorem byteSum_buildRsdp : byteSum (buildRsdp rsdtAddress xsdtAddress) = 0 := by
  apply byteSum_balance
  rw [List.getElem?_set_ne (by omega)]
  apply getElem?_laidOut (ascending_rsdpFields _ _)
  simp [rsdpFields]

/-- The extended checksum lies behind the first twenty bytes, and leaves their sum alone. -/
theorem byteSum_take_buildRsdp : byteSum ((buildRsdp rsdtAddress xsdtAddress).take 20) = 0 := by
  rw [buildRsdp, balance, List.take_set_of_le (by omega), List.take_set]
  apply byteSum_balance
  rw [List.getElem?_take_of_lt (by omega)]
  apply getElem?_laidOut (ascending_rsdpFields _ _)
  simp [rsdpFields]

variable {rsdtAddress xsdtAddress}

theorem part_buildRsdp {offset : Nat} {data : List UInt8} (hp : ⟨offset, data⟩ ∈ rsdpFields rsdtAddress xsdtAddress)
    (haside : 8 < offset ∨ offset + data.length ≤ 8) (hlow : offset + data.length ≤ 32) :
    part (buildRsdp rsdtAddress xsdtAddress) offset data.length = data := by
  rw [buildRsdp, balance, part_set_aside _ _ (.inr hlow), part_set_aside _ _ haside]
  exact part_laidOut (ascending_rsdpFields _ _) hp

end Rsdp

section
variable (rsdtAddress xsdtAddress : UInt64)

theorem wordAt_rsdt : (wordAt (buildRsdp rsdtAddress xsdtAddress) 16 4).toUInt32 = rsdtAddress.toUInt32 := by
  have hpart := @part_buildRsdp rsdtAddress xsdtAddress 16 (putU32 rsdtAddress.toUInt32) (by simp [rsdpFields])
    (.inl (by simp)) (by simp)
  rw [length_putU32] at hpart
  rw [wordAt, ← part, hpart]
  exact wordOfBytes_bytesOfWord_four _

theorem wordAt_xsdt : wordAt (buildRsdp rsdtAddress xsdtAddress) 24 8 = xsdtAddress := by
  have hpart := @part_buildRsdp rsdtAddress xsdtAddress 24 (putU64 xsdtAddress) (by simp [rsdpFields])
    (.inl (by simp)) (by simp)
  rw [length_putU64] at hpart
  rw [wordAt, ← part, hpart]
  exact wordOfBytes_bytesOfWord _

theorem validateRsdp_build (parsed : AcpiValidation) :
    ∃ parsed', validateRsdp parsed (buildRsdp rsdtAddress xsdtAddress) = .ok parsed' := by
  have hsignature : part (buildRsdp rsdtAddress xsdtAddress) 0 8 = text "RSD PTR " := by
    have hlength : (text "RSD PTR ").length = 8 := rfl
    rw [← hlength]
    exact part_buildRsdp (by simp [rsdpFields]) (.inr (by simp [hlength])) (by simp [hlength])
  have hsize : (wordAt (buildRsdp rsdtAddress xsdtAddress) 20 4).toUInt32.toNat = kRsdpSizeAcpi2 := by
    have hpart := @part_buildRsdp rsdtAddress xsdtAddress 20 (putU32 (UInt32.ofNat kRsdpSizeAcpi2))
      (by simp [rsdpFields]) (.inl (by simp)) (by simp)
    rw [length_putU32] at hpart
    rw [wordAt, ← part, hpart]
    rfl
  have hall : (buildRsdp rsdtAddress xsdtAddress).take kRsdpSizeAcpi2 = buildRsdp rsdtAddress xsdtAddress :=
    List.take_of_length_le (le_of_eq (length_buildRsdp _ _))
  unfold validateRsdp
  rw [if_neg (by rw [length_buildRsdp, hsignature]; simp)]
  dsimp only
  rw [hsize, hall, byteSum_take_buildRsdp, byteSum_buildRsdp]
  exact ⟨_, rfl⟩

end

variable {bytes : List UInt8}

theorem of_validateRsdp {parsed parsed' : AcpiValidation} (h : validateRsdp parsed bytes = .ok parsed') :
    byteSum (bytes.take kRsdpSizeAcpi2) = 0 := by
  unfold validateRsdp at h
  dsimp only at h
  split_ifs at h with _ hsize _ hsum
  rwa [not_not.mp hsize, not_not] at hsum

/-! ## The root tables -/

variable (madtAddress : UInt64)

@[simp] theorem length_buildRsdt : (buildRsdt madtAddress).length = kRsdtSize :=
  length_balanced (ascending_rsdtFields madtAddress)

theorem byteSum_buildRsdt : byteSum (buildRsdt madtAddress) = 0 := by
  apply byteSum_balanced (ascending_rsdtFields madtAddress)
  simp [rsdtFields, headerFields]

theorem byteSum_buildXsdt : byteSum (buildXsdt madtAddress) = 0 := by
  apply byteSum_balanced (ascending_xsdtFields madtAddress)
  simp [xsdtFields, headerFields]

theorem wordAt_rsdt_madt : (wordAt (buildRsdt madtAddress) kRsdtHeaderSize 4).toUInt32 = madtAddress.toUInt32 := by
  rw [← length_putU32 madtAddress.toUInt32, buildRsdt,
    wordAt_balanced (ascending_rsdtFields madtAddress) (by simp [rsdtFields]) (.inl (by simp [kRsdtHeaderSize]))]
  exact wordOfBytes_bytesOfWord_four _

theorem wordAt_xsdt_madt : wordAt (buildXsdt madtAddress) kXsdtHeaderSize 8 = madtAddress := by
  rw [← length_putU64 madtAddress, buildXsdt,
    wordAt_balanced (ascending_xsdtFields madtAddress) (by simp [xsdtFields]) (.inl (by simp [kXsdtHeaderSize]))]
  exact wordOfBytes_bytesOfWord _

/-- The signature of a header, and the length it gives. -/
theorem header_balanced {signature : String} (hsignature : (text signature).length = 4) {size : Nat}
    {fields : List (Patch UInt8)} (h : Ascending size (headerFields signature size ++ fields)) (hsize : size < 2 ^ 32) :
    part (balanced size (headerFields signature size ++ fields) 9) 0 4 = text signature ∧
      (wordAt (balanced size (headerFields signature size ++ fields) 9) 4 4).toUInt32.toNat = size := by
  constructor
  · rw [← hsignature]
    exact part_balanced h (by simp [headerFields]) (.inr (by simp [hsignature]))
  · rw [← length_putU32 (UInt32.ofNat size), wordAt_balanced h (by simp [headerFields]) (.inr (by simp)), putU32,
      wordOfBytes_bytesOfWord_four]
    exact UInt32.toNat_ofNat_of_lt' hsize

theorem validateRsdt_build (parsed : AcpiValidation) :
    ∃ parsed', validateRsdt parsed (buildRsdt madtAddress) = .ok parsed' := by
  have hsignature : (text "RSDT").length = 4 := rfl
  obtain ⟨hname, hsize⟩ := header_balanced hsignature (ascending_rsdtFields madtAddress) (by decide)
  have hall : (buildRsdt madtAddress).take kRsdtSize = buildRsdt madtAddress :=
    List.take_of_length_le (le_of_eq (length_buildRsdt _))
  change part (buildRsdt madtAddress) 0 4 = _ at hname
  change (wordAt (buildRsdt madtAddress) 4 4).toUInt32.toNat = _ at hsize
  unfold validateRsdt
  rw [if_neg (by rw [length_buildRsdt, hname]; simp [kRsdtSize])]
  dsimp only
  rw [hsize, length_buildRsdt, hall, byteSum_buildRsdt, if_neg (by simp [kRsdtSize]), if_neg (by simp)]
  exact ⟨_, rfl⟩

theorem of_validateRsdt {parsed parsed' : AcpiValidation} (h : validateRsdt parsed bytes = .ok parsed') :
    ∃ size, size ≤ bytes.length ∧ kRsdtSize ≤ size ∧ byteSum (bytes.take size) = 0 := by
  unfold validateRsdt at h
  dsimp only at h
  split_ifs at h with _ hsize hsum
  rw [not_or, not_lt, not_lt] at hsize
  exact ⟨_, hsize.2, hsize.1, not_not.mp hsum⟩

/-! ## The processor's table -/

section Madt
variable (acpiProcessorId sapicId sapicEid : UInt8) (flags uid : UInt32)

@[simp] theorem length_buildMadt : (buildMadt acpiProcessorId sapicId sapicEid flags uid).length = kMadtSize :=
  length_balanced (ascending_madtFields ..)

theorem byteSum_buildMadt : byteSum (buildMadt acpiProcessorId sapicId sapicEid flags uid) = 0 := by
  apply byteSum_balanced (ascending_madtFields ..)
  simp [madtFields, headerFields]

/-- **The processor** that the table describes is the one that is reported. -/
theorem validateMadt_build (parsed : AcpiValidation) :
    ∃ parsed', validateMadt parsed (buildMadt acpiProcessorId sapicId sapicEid flags uid) = .ok parsed' ∧
      parsed'.sapicId = sapicId ∧ parsed'.sapicEid = sapicEid ∧
      (parsed'.valid = true ↔ flags &&& kMadtFlagEnabled ≠ 0) := by
  have hfields := ascending_madtFields acpiProcessorId sapicId sapicEid flags uid
  have hsignature : (text "APIC").length = 4 := rfl
  obtain ⟨hname, hsize⟩ := header_balanced hsignature hfields (by decide)
  change part (buildMadt acpiProcessorId sapicId sapicEid flags uid) 0 4 = _ at hname
  change (wordAt (buildMadt acpiProcessorId sapicId sapicEid flags uid) 4 4).toUInt32.toNat = _ at hsize
  have hall : (buildMadt acpiProcessorId sapicId sapicEid flags uid).take kMadtSize =
      buildMadt acpiProcessorId sapicId sapicEid flags uid := List.take_of_length_le (le_of_eq (length_buildMadt ..))
  have hbyte : ∀ offset byte, ⟨offset, [byte]⟩ ∈ madtFields acpiProcessorId sapicId sapicEid flags uid → 9 < offset →
      (buildMadt acpiProcessorId sapicId sapicEid flags uid).getD offset 0 = byte := by
    intro offset byte hp hoffset
    exact getD_balanced hfields hp (.inl hoffset)
  have htype := hbyte kMadtHeaderSize kMadtTypeProcessorLocalSapic (by simp [madtFields]) (by decide)
  have hlength := hbyte (kMadtHeaderSize + 1) (UInt8.ofNat kProcessorLocalSapicSize) (by simp [madtFields]) (by decide)
  have hid := hbyte (kMadtHeaderSize + 3) sapicId (by simp [madtFields]) (by decide)
  have heid := hbyte (kMadtHeaderSize + 4) sapicEid (by simp [madtFields]) (by decide)
  have hflags : (wordAt (buildMadt acpiProcessorId sapicId sapicEid flags uid) (kMadtHeaderSize + 8) 4).toUInt32 =
      flags := by
    rw [← length_putU32 flags, buildMadt,
      wordAt_balanced hfields (by simp [madtFields]) (.inl (by simp [kMadtHeaderSize])), putU32,
      wordOfBytes_bytesOfWord_four]
  unfold validateMadt
  rw [if_neg (by rw [length_buildMadt, hname]; simp [kMadtSize])]
  dsimp only
  rw [hsize, length_buildMadt, hall, byteSum_buildMadt, htype, hlength, hid, heid, hflags,
    if_neg (by simp [kMadtSize]), if_neg (by simp), if_neg (by simp)]
  exact ⟨_, rfl, rfl, rfl, decide_eq_true_iff⟩

end Madt

theorem of_validateMadt {parsed parsed' : AcpiValidation} (h : validateMadt parsed bytes = .ok parsed') :
    ∃ size, size ≤ bytes.length ∧ kMadtSize ≤ size ∧ byteSum (bytes.take size) = 0 := by
  unfold validateMadt at h
  dsimp only at h
  split_ifs at h with _ hsize hsum
  rw [not_or, not_lt, not_lt] at hsize
  exact ⟨_, hsize.2, hsize.1, not_not.mp hsum⟩

/-! ## All three -/

theorem of_validateAcpiTables {rsdpBytes rsdtBytes madtBytes : List UInt8}
    (h : (validateAcpiTables rsdpBytes rsdtBytes madtBytes).1 = true) :
    ∃ rsdp rsdt madt, validateRsdp {} rsdpBytes = .ok rsdp ∧ validateRsdt rsdp rsdtBytes = .ok rsdt ∧
      validateMadt rsdt madtBytes = .ok madt := by
  unfold validateAcpiTables at h
  cases hrsdp : validateRsdp {} rsdpBytes with
  | error parsed => rw [hrsdp] at h; cases h
  | ok rsdp =>
      cases hrsdt : validateRsdt rsdp rsdtBytes with
      | error parsed =>
          rw [hrsdp] at h
          simp only [bind, Except.bind, hrsdt] at h
          cases h
      | ok rsdt =>
          cases hmadt : validateMadt rsdt madtBytes with
          | error parsed =>
              rw [hrsdp] at h
              simp only [bind, Except.bind, hrsdt, hmadt] at h
              cases h
          | ok madt => exact ⟨rsdp, rsdt, madt, rfl, hrsdt, hmadt⟩

/-- The validator takes a whole table only. -/
theorem byteSum_of_take {size total : Nat} (hlength : bytes.length = total) (hle : size ≤ bytes.length)
    (hge : total ≤ size) (hsum : byteSum (bytes.take size) = 0) : byteSum bytes = 0 := by
  rwa [List.take_of_length_le (by omega)] at hsum

section Changes

theorem detectsChanges_rsdp (rsdtAddress xsdtAddress : UInt64) (rsdtBytes madtBytes : List UInt8) :
    DetectsChanges (fun bytes => (validateAcpiTables bytes rsdtBytes madtBytes).1)
      (buildRsdp rsdtAddress xsdtAddress) := by
  apply detectsChanges_of_sum (byteSum_buildRsdp ..)
  intro bytes hlength h
  obtain ⟨_, _, _, hrsdp, -, -⟩ := of_validateAcpiTables h
  rw [length_buildRsdp] at hlength
  exact byteSum_of_take hlength hlength.ge le_rfl (of_validateRsdp hrsdp)

theorem detectsChanges_rsdt (rsdpBytes madtBytes : List UInt8) (madtAddress : UInt64) :
    DetectsChanges (fun bytes => (validateAcpiTables rsdpBytes bytes madtBytes).1) (buildRsdt madtAddress) := by
  apply detectsChanges_of_sum (byteSum_buildRsdt _)
  intro bytes hlength h
  obtain ⟨_, _, _, -, hrsdt, -⟩ := of_validateAcpiTables h
  obtain ⟨size, hle, hge, hsum⟩ := of_validateRsdt hrsdt
  rw [length_buildRsdt] at hlength
  exact byteSum_of_take hlength hle hge hsum

theorem detectsChanges_madt (rsdpBytes rsdtBytes : List UInt8) (acpiProcessorId sapicId sapicEid : UInt8)
    (flags uid : UInt32) :
    DetectsChanges (fun bytes => (validateAcpiTables rsdpBytes rsdtBytes bytes).1)
      (buildMadt acpiProcessorId sapicId sapicEid flags uid) := by
  apply detectsChanges_of_sum (byteSum_buildMadt ..)
  intro bytes hlength h
  obtain ⟨_, _, _, -, -, hmadt⟩ := of_validateAcpiTables h
  obtain ⟨size, hle, hge, hsum⟩ := of_validateMadt hmadt
  rw [length_buildMadt] at hlength
  exact byteSum_of_take hlength hle hge hsum

end Changes

theorem validateAcpiTables_build (rsdtAddress xsdtAddress madtAddress : UInt64)
    (acpiProcessorId sapicId sapicEid : UInt8) (flags uid : UInt32) :
    let result := validateAcpiTables (buildRsdp rsdtAddress xsdtAddress) (buildRsdt madtAddress)
      (buildMadt acpiProcessorId sapicId sapicEid flags uid)
    (result.1 = true ↔ flags &&& kMadtFlagEnabled ≠ 0) ∧ result.2.sapicId = sapicId ∧ result.2.sapicEid = sapicEid := by
  obtain ⟨rsdp, hrsdp⟩ := validateRsdp_build rsdtAddress xsdtAddress {}
  obtain ⟨rsdt, hrsdt⟩ := validateRsdt_build madtAddress rsdp
  obtain ⟨madt, hmadt, hid, heid, hvalid⟩ := validateMadt_build acpiProcessorId sapicId sapicEid flags uid rsdt
  dsimp only
  rw [validateAcpiTables, hrsdp]
  simp only [bind, Except.bind, hrsdt, hmadt]
  exact ⟨hvalid, hid, heid⟩

end Acpi

/-! ## The tables as a whole -/

/-- What the SAL table and its validator make of an entry point. -/
structure SalTableExact (entryPoint : Sal.SalEntryPoint) : Prop where
  reported : Sal.Callable entryPoint →
    (Sal.validateSalSystemTable (Sal.buildSalSystemTable entryPoint)).1 = true ∧
      (Sal.validateSalSystemTable (Sal.buildSalSystemTable entryPoint)).2.entryPoint = entryPoint
  balanced : byteSum (Sal.buildSalSystemTable entryPoint) = 0
  guarded : DetectsChanges (fun bytes => (Sal.validateSalSystemTable bytes).1) (Sal.buildSalSystemTable entryPoint)

open Acpi

/-- What the ACPI tables and their validator make of the addresses and of the processor. -/
structure AcpiTablesExact (rsdtAddress xsdtAddress madtAddress : UInt64) (acpiProcessorId sapicId sapicEid : UInt8)
    (flags uid : UInt32) : Prop where
  validated :
    let result := validateAcpiTables (buildRsdp rsdtAddress xsdtAddress) (buildRsdt madtAddress)
      (buildMadt acpiProcessorId sapicId sapicEid flags uid)
    (result.1 = true ↔ flags &&& kMadtFlagEnabled ≠ 0) ∧ result.2.sapicId = sapicId ∧ result.2.sapicEid = sapicEid
  rsdtPointer : rsdtAddress.toNat < 2 ^ 32 →
    (wordAt (buildRsdp rsdtAddress xsdtAddress) 16 4).toUInt32.toUInt64 = rsdtAddress
  madtPointer : madtAddress.toNat < 2 ^ 32 →
    (wordAt (buildRsdt madtAddress) kRsdtHeaderSize 4).toUInt32.toUInt64 = madtAddress
  xsdtPointer : wordAt (buildRsdp rsdtAddress xsdtAddress) 24 8 = xsdtAddress
  madtPointer64 : wordAt (buildXsdt madtAddress) kXsdtHeaderSize 8 = madtAddress
  balanced : byteSum (buildRsdp rsdtAddress xsdtAddress) = 0 ∧ byteSum (buildRsdt madtAddress) = 0 ∧
    byteSum (buildXsdt madtAddress) = 0 ∧ byteSum (buildMadt acpiProcessorId sapicId sapicEid flags uid) = 0
  guardedRsdp : ∀ rsdtBytes madtBytes, DetectsChanges (fun bytes => (validateAcpiTables bytes rsdtBytes madtBytes).1)
    (buildRsdp rsdtAddress xsdtAddress)
  guardedRsdt : ∀ rsdpBytes madtBytes, DetectsChanges (fun bytes => (validateAcpiTables rsdpBytes bytes madtBytes).1)
    (buildRsdt madtAddress)
  guardedMadt : ∀ rsdpBytes rsdtBytes, DetectsChanges (fun bytes => (validateAcpiTables rsdpBytes rsdtBytes bytes).1)
    (buildMadt acpiProcessorId sapicId sapicEid flags uid)

variable (entryPoint : Sal.SalEntryPoint)

theorem salTable_exact : SalTableExact entryPoint := by
  obtain ⟨hentry, hvalid⟩ := Sal.validate_build entryPoint
  constructor
  · intro hcallable
    exact ⟨hvalid.mpr hcallable, hentry⟩
  · exact Sal.byteSum_build entryPoint
  · exact Sal.detectsChanges_build entryPoint

/-- An address below 4 GiB survives the 32-bit pointer. -/
theorem toUInt32_toUInt64 {address : UInt64} (h : address.toNat < 2 ^ 32) : address.toUInt32.toUInt64 = address := by
  apply UInt64.toNat_inj.mp
  rw [UInt32.toNat_toUInt64, UInt64.toNat_toUInt32]
  exact Nat.mod_eq_of_lt h

theorem acpiTables_exact (rsdtAddress xsdtAddress madtAddress : UInt64) (acpiProcessorId sapicId sapicEid : UInt8)
    (flags uid : UInt32) :
    AcpiTablesExact rsdtAddress xsdtAddress madtAddress acpiProcessorId sapicId sapicEid flags uid where
  validated := validateAcpiTables_build ..
  rsdtPointer := by
    intro h
    rw [wordAt_rsdt, toUInt32_toUInt64 h]
  madtPointer := by
    intro h
    rw [wordAt_rsdt_madt, toUInt32_toUInt64 h]
  xsdtPointer := wordAt_xsdt ..
  madtPointer64 := wordAt_xsdt_madt _
  balanced := ⟨byteSum_buildRsdp .., byteSum_buildRsdt _, byteSum_buildXsdt _, byteSum_buildMadt ..⟩
  guardedRsdp := detectsChanges_rsdp _ _
  guardedRsdt := fun rsdpBytes madtBytes => detectsChanges_rsdt rsdpBytes madtBytes _
  guardedMadt := fun rsdpBytes rsdtBytes => detectsChanges_madt rsdpBytes rsdtBytes _ _ _ _ _

/-- **Firmware tables.** Whatever the entry point, the addresses and the processor are, the tables are understood by
    their validators, sum to zero, and bear no change of a byte. -/
theorem firmwareTables_exact (rsdtAddress xsdtAddress madtAddress : UInt64)
    (acpiProcessorId sapicId sapicEid : UInt8) (flags uid : UInt32) :
    SalTableExact entryPoint ∧
      AcpiTablesExact rsdtAddress xsdtAddress madtAddress acpiProcessorId sapicId sapicEid flags uid :=
  ⟨salTable_exact entryPoint, acpiTables_exact _ _ _ _ _ _ _ _⟩

end GuideXOS.Vm
