import GuideXOS.Core.Text
import GuideXOS.Lib.ByteCodec
import GuideXOS.Lib.Checksums

/-!
# `Firmware` — the tables that the firmware hands to the guest

A SAL system table and the ACPI tables, each written field by field over a zeroed buffer, and the validators that a guest
would run over them.
-/

/-!
## The SAL system table

The table is a header of 96 bytes and one entry-point descriptor, written field by field over zeros; the byte at 12
makes all bytes sum to zero. The validator reads the same layout by offsets of its own, and sums as many bytes as the
table itself says it has.
-/

namespace GuideXOS.Vm
open Core Lib Lib.Words Lib.Patches Lib.Checksums

namespace Sal

def kSalSystemTableHeaderSize : Nat := 96
def kSalEntryPointDescriptorSize : Nat := 48
def kSalSystemTableSize : Nat := kSalSystemTableHeaderSize + kSalEntryPointDescriptorSize
def kSalDescEntryPoint : UInt8 := 0

structure SalEntryPoint where
  palProcedure : UInt64 := 0
  salProcedure : UInt64 := 0
  globalPointer : UInt64 := 0
  deriving DecidableEq

structure SalValidation where
  valid : Bool := false
  size : UInt32 := 0
  entryCount : UInt16 := 0
  checksum : UInt8 := 0
  salRevision : UInt16 := 0
  salARevision : UInt16 := 0
  salBRevision : UInt16 := 0
  oemId : Text := []
  productId : Text := []
  entryPoint : SalEntryPoint := {}
  deriving DecidableEq

/-! ## The builder -/

/-- The writes of `buildSalSystemTable`, but for the checksum. -/
def fields (entryPoint : SalEntryPoint) : List (Patch UInt8) :=
  [⟨0, text "SST_"⟩,
   ⟨4, putU32 (UInt32.ofNat kSalSystemTableSize)⟩,
   ⟨8, [1]⟩,
   ⟨9, [0]⟩,
   ⟨10, bytesOfWord 2 1⟩,
   ⟨12, [0]⟩,
   ⟨20, [0]⟩,
   ⟨21, [0]⟩,
   ⟨22, [0]⟩,
   ⟨23, [0]⟩,
   ⟨24, text "guideXOS"⟩,
   ⟨56, text "guideXOS IA-64 Virtual Platform"⟩,
   ⟨kSalSystemTableHeaderSize, [kSalDescEntryPoint]⟩,
   ⟨kSalSystemTableHeaderSize + 8, putU64 entryPoint.palProcedure⟩,
   ⟨kSalSystemTableHeaderSize + 16, putU64 entryPoint.salProcedure⟩,
   ⟨kSalSystemTableHeaderSize + 24, putU64 entryPoint.globalPointer⟩]

def buildSalSystemTable (entryPoint : SalEntryPoint) : List UInt8 :=
  balanced kSalSystemTableSize (fields entryPoint) 12

/-! ## The validator -/

/-- **`fixedString`**: up to the first zero. -/
def fixedString (bytes : List UInt8) (offset length : Nat) : Text := (part bytes offset length).takeWhile (· ≠ 0)

def validateSalSystemTable (bytes : List UInt8) : Bool × SalValidation :=
  if bytes.length < kSalSystemTableHeaderSize ∨ part bytes 0 4 ≠ text "SST_" then (false, {})
  else
    let parsed : SalValidation :=
      { size := (wordAt bytes 4 4).toUInt32
        entryCount := (wordAt bytes 10 2).toUInt16
        checksum := bytes.getD 12 0
        salRevision := (wordAt bytes 8 2).toUInt16
        salARevision := (wordAt bytes 20 2).toUInt16
        salBRevision := (wordAt bytes 22 2).toUInt16
        oemId := fixedString bytes 24 32
        productId := fixedString bytes 56 32 }
    if parsed.size.toNat < kSalSystemTableHeaderSize ∨ bytes.length < parsed.size.toNat ∨ parsed.entryCount = 0 ∨
        parsed.size.toNat < kSalSystemTableHeaderSize + kSalEntryPointDescriptorSize then (false, parsed)
    else
      let descriptor := kSalSystemTableHeaderSize
      if parsed.entryCount ≠ 1 ∨ bytes.getD descriptor 0 ≠ kSalDescEntryPoint ∨
          parsed.size.toNat < descriptor + kSalEntryPointDescriptorSize ∨
          byteSum (bytes.take parsed.size.toNat) ≠ 0 then (false, parsed)
      else
        let entryPoint : SalEntryPoint :=
          ⟨wordAt bytes (descriptor + 8) 8, wordAt bytes (descriptor + 16) 8, wordAt bytes (descriptor + 24) 8⟩
        let valid := entryPoint.palProcedure ≠ 0 ∧ entryPoint.salProcedure ≠ 0 ∧ entryPoint.globalPointer ≠ 0
        (valid, { parsed with entryPoint := entryPoint, valid := valid })

/-! ## What the table holds -/

variable (entryPoint : SalEntryPoint)

theorem ascending_fields : Ascending kSalSystemTableSize (fields entryPoint) := by
  have hsignature : (text "SST_").length = 4 := rfl
  have hoem : (text "guideXOS").length = 8 := rfl
  have hproduct : (text "guideXOS IA-64 Virtual Platform").length = 31 := rfl
  simp [Ascending, fields, Patch.stop, kSalSystemTableSize, kSalSystemTableHeaderSize, kSalEntryPointDescriptorSize,
    hsignature, hoem, hproduct]

@[simp] theorem length_build :
    (buildSalSystemTable entryPoint).length = kSalSystemTableSize := length_balanced (ascending_fields entryPoint)

/-- **The bytes sum to zero.** -/
theorem byteSum_build : byteSum (buildSalSystemTable entryPoint) = 0 := by
  apply byteSum_balanced (ascending_fields entryPoint)
  simp [fields]

/-! ## The validator on the table -/

/-- What the validator asks for. -/
theorem of_validate {bytes : List UInt8} (h : (validateSalSystemTable bytes).1 = true) :
    ∃ size, size ≤ bytes.length ∧ kSalSystemTableSize ≤ size ∧ byteSum (bytes.take size) = 0 := by
  unfold validateSalSystemTable at h
  split at h
  · cases h
  · dsimp only at h
    split at h
    · cases h
    · rename_i hsize
      split at h
      · cases h
      · rename_i hsum
        simp only [not_or, Nat.not_lt, ne_eq, Decidable.not_not] at hsize hsum
        exact ⟨_, hsize.2.1, hsize.2.2.2, hsum.2.2.2⟩

/-- The entry point as the descriptor gives it. -/
def descriptorEntry (bytes : List UInt8) : SalEntryPoint where
  palProcedure := wordAt bytes (kSalSystemTableHeaderSize + 8) 8
  salProcedure := wordAt bytes (kSalSystemTableHeaderSize + 16) 8
  globalPointer := wordAt bytes (kSalSystemTableHeaderSize + 24) 8

def Callable (entryPoint : SalEntryPoint) : Prop :=
  entryPoint.palProcedure ≠ 0 ∧ entryPoint.salProcedure ≠ 0 ∧ entryPoint.globalPointer ≠ 0

/-- A table that is all of the bytes and sums to zero is accepted for its entry point. -/
theorem validate_of {bytes : List UInt8} (hlength : bytes.length = kSalSystemTableSize)
    (hsignature : part bytes 0 4 = text "SST_") (hsize : (wordAt bytes 4 4).toUInt32.toNat = kSalSystemTableSize)
    (hcount : (wordAt bytes 10 2).toUInt16 = 1) (hdescriptor : bytes.getD kSalSystemTableHeaderSize 0 = kSalDescEntryPoint)
    (hsum : byteSum bytes = 0) :
    (validateSalSystemTable bytes).2.entryPoint = descriptorEntry bytes ∧
      ((validateSalSystemTable bytes).1 = true ↔ Callable (descriptorEntry bytes)) := by
  have hheader : kSalSystemTableHeaderSize ≤ kSalSystemTableSize := by decide
  have hdescribed : kSalSystemTableHeaderSize + kSalEntryPointDescriptorSize ≤ kSalSystemTableSize := le_rfl
  have hall : bytes.take kSalSystemTableSize = bytes := List.take_of_length_le (le_of_eq hlength)
  unfold validateSalSystemTable
  rw [if_neg (by rw [hlength]; exact not_or.mpr ⟨not_lt.mpr hheader, not_not.mpr hsignature⟩)]
  dsimp only
  rw [hsize, hcount, if_neg, if_neg]
  · exact ⟨rfl, decide_eq_true_iff⟩
  · rw [hall, hdescriptor, hsum]
    simp [hdescribed]
  · rw [hlength]
    simp [hheader, hdescribed]

/-- **The table is understood**: its entry point is reported, and is what decides. -/
theorem validate_build :
    (validateSalSystemTable (buildSalSystemTable entryPoint)).2.entryPoint = entryPoint ∧
      ((validateSalSystemTable (buildSalSystemTable entryPoint)).1 = true ↔ Callable entryPoint) := by
  have hfields := ascending_fields entryPoint
  have hsignature : part (buildSalSystemTable entryPoint) 0 4 = text "SST_" := by
    have hlength : (text "SST_").length = 4 := rfl
    rw [← hlength]
    exact part_balanced hfields (by simp [fields]) (.inr (by simp [hlength]))
  have hsize : wordAt (buildSalSystemTable entryPoint) 4 4 = 144 := by
    rw [← length_putU32 (UInt32.ofNat kSalSystemTableSize)]
    exact wordAt_balanced hfields (by simp [fields]) (.inr (by simp))
  have hcount : wordAt (buildSalSystemTable entryPoint) 10 2 = 1 := by
    rw [← length_bytesOfWord 2 1]
    exact wordAt_balanced hfields (by simp [fields]) (.inr (by simp))
  have hdescriptor : (buildSalSystemTable entryPoint).getD kSalSystemTableHeaderSize 0 = kSalDescEntryPoint :=
    getD_balanced hfields (by simp [fields]) (.inl (by simp [kSalSystemTableHeaderSize]))
  have hword : ∀ offset value, ⟨offset, putU64 value⟩ ∈ fields entryPoint → 12 < offset →
      wordAt (buildSalSystemTable entryPoint) offset 8 = value := by
    intro offset value hp hoffset
    rw [← length_putU64 value, buildSalSystemTable, wordAt_balanced hfields hp (.inl hoffset)]
    exact wordOfBytes_bytesOfWord value
  have hentry : descriptorEntry (buildSalSystemTable entryPoint) = entryPoint := by
    unfold descriptorEntry
    rw [hword _ entryPoint.palProcedure, hword _ entryPoint.salProcedure, hword _ entryPoint.globalPointer]
    all_goals simp [fields, kSalSystemTableHeaderSize]
  have hvalidate := validate_of (length_build entryPoint) hsignature (by rw [hsize]; rfl) (by rw [hcount]; rfl)
    hdescriptor (byteSum_build entryPoint)
  rwa [hentry] at hvalidate

/-- **Corruption** of a single byte is noticed. -/
theorem detectsChanges_build :
    DetectsChanges (fun bytes => (validateSalSystemTable bytes).1) (buildSalSystemTable entryPoint) := by
  apply detectsChanges_of_sum (byteSum_build entryPoint)
  intro bytes hlength h
  obtain ⟨size, hle, hge, hsum⟩ := of_validate h
  rw [length_build] at hlength
  -- The table says that it is all of itself, since it could not be less.
  rwa [List.take_of_length_le (by omega)] at hsum

end Sal

end GuideXOS.Vm

/-!
## The ACPI tables

The root pointer (RSDP) leads to the root tables (RSDT with 32-bit pointers, XSDT with 64-bit ones), and these to the
MADT, which describes the one processor. Each table carries a byte that makes its bytes sum to zero; the RSDP has two of
them, one for the first twenty bytes and one for all. The validator reads the RSDP, the RSDT and the MADT one after the
other and stops at the first that is not as it should be.
-/

namespace GuideXOS.Vm
open Core Lib Lib.Words Lib.Patches Lib.Checksums

namespace Acpi

def kRsdpSizeAcpi2 : Nat := 36
def kRsdtHeaderSize : Nat := 36
def kXsdtHeaderSize : Nat := 36
def kXsdtSize : Nat := kXsdtHeaderSize + 8
def kMadtHeaderSize : Nat := 44
def kProcessorLocalSapicSize : Nat := 16
def kMadtTypeProcessorLocalSapic : UInt8 := 7
def kMadtFlagEnabled : UInt32 := 1

def kRsdtSize : Nat := kRsdtHeaderSize + 4
def kMadtSize : Nat := kMadtHeaderSize + kProcessorLocalSapicSize

structure AcpiValidation where
  valid : Bool := false
  rsdpLength : UInt32 := 0
  rsdpChecksum : UInt8 := 0
  rsdtLength : UInt32 := 0
  rsdtChecksum : UInt8 := 0
  madtLength : UInt32 := 0
  madtChecksum : UInt8 := 0
  madtRevision : UInt8 := 0
  processorCount : UInt8 := 0
  sapicId : UInt8 := 0
  sapicEid : UInt8 := 0
  enabled : Bool := false
  deriving DecidableEq

/-! ## The builders -/

def rsdpFields (rsdtAddress xsdtAddress : UInt64) : List (Patch UInt8) :=
  [⟨0, text "RSD PTR "⟩,
   ⟨8, [0]⟩,
   ⟨9, text "guideX"⟩,
   ⟨15, [2]⟩,
   ⟨16, putU32 rsdtAddress.toUInt32⟩,
   ⟨20, putU32 (UInt32.ofNat kRsdpSizeAcpi2)⟩,
   ⟨24, putU64 xsdtAddress⟩,
   ⟨32, [0]⟩,
   ⟨33, [0]⟩,
   ⟨34, [0]⟩,
   ⟨35, [0]⟩]

/-- **`buildRsdp`.** The checksum of the first twenty bytes comes first, and is part of the extended one. -/
def buildRsdp (rsdtAddress xsdtAddress : UInt64) : List UInt8 :=
  let bytes := laidOut kRsdpSizeAcpi2 (rsdpFields rsdtAddress xsdtAddress)
  balance (bytes.set 8 (0 - byteSum (bytes.take 20))) 32

/-- **`writeTableHeader`**, with the OEM that every table names. -/
def headerFields (signature : String) (length : Nat) : List (Patch UInt8) :=
  [⟨0, text signature⟩,
   ⟨4, putU32 (UInt32.ofNat length)⟩,
   ⟨8, [1]⟩,
   ⟨9, [0]⟩,
   ⟨10, text "guideX"⟩,
   ⟨16, text "GUIDE   "⟩,
   ⟨24, putU32 1⟩,
   ⟨28, text "INTL"⟩,
   ⟨32, putU32 0x20140604⟩]

def rsdtFields (madtAddress : UInt64) : List (Patch UInt8) :=
  headerFields "RSDT" kRsdtSize ++ [⟨kRsdtHeaderSize, putU32 madtAddress.toUInt32⟩]

def buildRsdt (madtAddress : UInt64) : List UInt8 := balanced kRsdtSize (rsdtFields madtAddress) 9

def xsdtFields (madtAddress : UInt64) : List (Patch UInt8) :=
  headerFields "XSDT" kXsdtSize ++ [⟨kXsdtHeaderSize, putU64 madtAddress⟩]

def buildXsdt (madtAddress : UInt64) : List UInt8 := balanced kXsdtSize (xsdtFields madtAddress) 9

def madtFields (acpiProcessorId sapicId sapicEid : UInt8) (flags uid : UInt32) : List (Patch UInt8) :=
  headerFields "APIC" kMadtSize ++
  [⟨36, putU32 0xFEE00000⟩,
   ⟨40, putU32 1⟩,
   ⟨kMadtHeaderSize, [kMadtTypeProcessorLocalSapic]⟩,
   ⟨kMadtHeaderSize + 1, [UInt8.ofNat kProcessorLocalSapicSize]⟩,
   ⟨kMadtHeaderSize + 2, [acpiProcessorId]⟩,
   ⟨kMadtHeaderSize + 3, [sapicId]⟩,
   ⟨kMadtHeaderSize + 4, [sapicEid]⟩,
   ⟨kMadtHeaderSize + 5, [0]⟩,
   ⟨kMadtHeaderSize + 6, [0]⟩,
   ⟨kMadtHeaderSize + 7, [0]⟩,
   ⟨kMadtHeaderSize + 8, putU32 flags⟩,
   ⟨kMadtHeaderSize + 12, putU32 uid⟩]

def buildMadt (acpiProcessorId sapicId sapicEid : UInt8) (flags uid : UInt32) : List UInt8 :=
  balanced kMadtSize (madtFields acpiProcessorId sapicId sapicEid flags uid) 9

/-! ## The validator

A step goes on with what was parsed, or refuses with it. -/

def validateRsdp (parsed : AcpiValidation) (rsdpBytes : List UInt8) : Except AcpiValidation AcpiValidation :=
  if rsdpBytes.length < kRsdpSizeAcpi2 ∨ part rsdpBytes 0 8 ≠ text "RSD PTR " then .error parsed
  else
    let parsed := { parsed with
      rsdpLength := (wordAt rsdpBytes 20 4).toUInt32
      rsdpChecksum := rsdpBytes.getD 8 0 }
    if parsed.rsdpLength.toNat ≠ kRsdpSizeAcpi2 then .error parsed
    else if byteSum (rsdpBytes.take 20) ≠ 0 then .error parsed
    else if byteSum (rsdpBytes.take parsed.rsdpLength.toNat) ≠ 0 then .error parsed
    else .ok parsed

def validateRsdt (parsed : AcpiValidation) (rsdtBytes : List UInt8) : Except AcpiValidation AcpiValidation :=
  if rsdtBytes.length < kRsdtHeaderSize ∨ part rsdtBytes 0 4 ≠ text "RSDT" then .error parsed
  else
    let parsed := { parsed with
      rsdtLength := (wordAt rsdtBytes 4 4).toUInt32
      rsdtChecksum := rsdtBytes.getD 9 0 }
    if parsed.rsdtLength.toNat < kRsdtHeaderSize + 4 ∨ rsdtBytes.length < parsed.rsdtLength.toNat then .error parsed
    else if byteSum (rsdtBytes.take parsed.rsdtLength.toNat) ≠ 0 then .error parsed
    else .ok parsed

def validateMadt (parsed : AcpiValidation) (madtBytes : List UInt8) : Except AcpiValidation AcpiValidation :=
  if madtBytes.length < kMadtHeaderSize + kProcessorLocalSapicSize ∨ part madtBytes 0 4 ≠ text "APIC" then
    .error parsed
  else
    let parsed := { parsed with
      madtLength := (wordAt madtBytes 4 4).toUInt32
      madtChecksum := madtBytes.getD 9 0
      madtRevision := madtBytes.getD 8 0 }
    if parsed.madtLength.toNat < kMadtHeaderSize + kProcessorLocalSapicSize ∨
        madtBytes.length < parsed.madtLength.toNat then .error parsed
    else if byteSum (madtBytes.take parsed.madtLength.toNat) ≠ 0 then .error parsed
    else
      let entry := kMadtHeaderSize
      if madtBytes.getD entry 0 ≠ kMadtTypeProcessorLocalSapic ∨
          madtBytes.getD (entry + 1) 0 ≠ UInt8.ofNat kProcessorLocalSapicSize then .error parsed
      else
        let enabled := (wordAt madtBytes (entry + 8) 4).toUInt32 &&& kMadtFlagEnabled ≠ 0
        .ok { parsed with
          processorCount := 1
          sapicId := madtBytes.getD (entry + 3) 0
          sapicEid := madtBytes.getD (entry + 4) 0
          enabled := enabled
          valid := enabled }

def validateAcpiTables (rsdpBytes rsdtBytes madtBytes : List UInt8) : Bool × AcpiValidation :=
  match (do validateMadt (← validateRsdt (← validateRsdp {} rsdpBytes) rsdtBytes) madtBytes) with
  | .error parsed => (false, parsed)
  | .ok parsed => (parsed.valid, parsed)

/-! ## What the tables hold -/

theorem ascending_rsdpFields (rsdtAddress xsdtAddress : UInt64) :
    Ascending kRsdpSizeAcpi2 (rsdpFields rsdtAddress xsdtAddress) := by
  have hsignature : (text "RSD PTR ").length = 8 := rfl
  have hoem : (text "guideX").length = 6 := rfl
  simp [Ascending, rsdpFields, Patch.stop, kRsdpSizeAcpi2, hsignature, hoem]

/-- A header, and fields behind it. -/
theorem ascending_headerFields {signature : String} (hsignature : (text signature).length = 4) {size : Nat}
    {fields : List (Patch UInt8)} (hsize : 36 ≤ size) (hstart : ∀ p ∈ fields, 36 ≤ p.start)
    (hfields : Ascending size fields) : Ascending size (headerFields signature size ++ fields) := by
  have hoem : (text "guideX").length = 6 := rfl
  have htable : (text "GUIDE   ").length = 8 := rfl
  have hcreator : (text "INTL").length = 4 := rfl
  have hstop : ∀ p ∈ headerFields signature size, p.stop ≤ 36 := by
    simp [headerFields, Patch.stop, hsignature, hoem, htable, hcreator]
  refine ⟨List.pairwise_append.mpr ⟨?_, hfields.1, ?_⟩, ?_⟩
  · simp [headerFields, Patch.stop, hsignature, hoem, htable, hcreator]
  · intro p hp q hq
    exact (hstop p hp).trans (hstart q hq)
  · intro p hp
    rcases List.mem_append.mp hp with hp | hp
    · exact (hstop p hp).trans hsize
    · exact hfields.2 p hp

theorem ascending_rsdtFields (madtAddress : UInt64) : Ascending kRsdtSize (rsdtFields madtAddress) := by
  have hsignature : (text "RSDT").length = 4 := rfl
  apply ascending_headerFields hsignature <;> simp [Ascending, Patch.stop, kRsdtSize, kRsdtHeaderSize]

theorem ascending_xsdtFields (madtAddress : UInt64) : Ascending kXsdtSize (xsdtFields madtAddress) := by
  have hsignature : (text "XSDT").length = 4 := rfl
  apply ascending_headerFields hsignature <;> simp [Ascending, Patch.stop, kXsdtSize, kXsdtHeaderSize]

theorem ascending_madtFields (acpiProcessorId sapicId sapicEid : UInt8) (flags uid : UInt32) :
    Ascending kMadtSize (madtFields acpiProcessorId sapicId sapicEid flags uid) := by
  have hsignature : (text "APIC").length = 4 := rfl
  apply ascending_headerFields hsignature <;>
    simp [Ascending, Patch.stop, kMadtSize, kMadtHeaderSize, kProcessorLocalSapicSize]

end Acpi

end GuideXOS.Vm
