import GuideXOS.Isa.Plugin

/-!
# `Handoff` — where the firmware hands over

The EFI handoff region holds every table, protocol and stub the firmware shows its guest. All its addresses
are offsets from one base, `EFI_HANDOFF_REGION_BASE`, and the source keeps that base (and every address
derived from it) in variables of the *process*, not of the plugin. The model keeps it as a value of its
own, `EfiHandoffGlobals`, which construction, reset and layout take and return beside the plugin.
-/

namespace GuideXOS.Isa
open Lib Lib.Words GuideXOS.Core

/-! ## Layout -/

def kEfiPageSize : UInt64 := 0x1000
def kEfiStackSize : UInt64 := 0x40000
def kEfiStackGuard : UInt64 := 0x10000
def kEfiHandoffRegionSpan : UInt64 := 0x200000
def kEfiLowMemoryFloor : UInt64 := 0x100000
def EFI_DEFAULT_HANDOFF_REGION_BASE : UInt64 := 0x1FE00000

def efiAlignDown (value alignment : UInt64) : UInt64 :=
  if alignment = 0 then value else value &&& ~~~(alignment - 1)

/-- **`tryComputeEfiHandoffLayout`.** The base of the region: below the stack, which ends below the guard
    at the top of guest memory. `none` when guest memory is too small for it. -/
def tryComputeEfiHandoffLayout (guestMemorySize : UInt64) : Option UInt64 :=
  if guestMemorySize = 0 then none
  else if guestMemorySize ≤ kEfiLowMemoryFloor + kEfiStackSize + kEfiStackGuard + kEfiHandoffRegionSpan then
    none
  else
    let stackTop := efiAlignDown (guestMemorySize - kEfiStackGuard) 16
    if stackTop ≤ kEfiStackSize then none
    else
      let stackBase := stackTop - kEfiStackSize
      if stackBase ≤ kEfiHandoffRegionSpan then none
      else
        let base := efiAlignDown (stackBase - kEfiHandoffRegionSpan) kEfiPageSize
        if base < kEfiLowMemoryFloor then none
        else if base + kEfiHandoffRegionSpan > stackBase then none
        else some base

/-- The process-wide handoff addresses: each is the base plus a fixed offset. -/
structure EfiHandoffGlobals where
  EFI_HANDOFF_REGION_BASE : UInt64
  deriving DecidableEq

namespace EfiHandoffGlobals

variable (g : EfiHandoffGlobals)

def EFI_HANDOFF_REGION_END : UInt64 := g.EFI_HANDOFF_REGION_BASE + kEfiHandoffRegionSpan
def EFI_LOADED_IMAGE_PROTOCOL_ADDR : UInt64 := g.EFI_HANDOFF_REGION_BASE + 0xD00
def EFI_SIMPLE_FILE_SYSTEM_PROTOCOL_ADDR : UInt64 :=
  g.EFI_HANDOFF_REGION_BASE + 0x1000
def EFI_SIMPLE_TEXT_INPUT_PROTOCOL_ADDR : UInt64 :=
  g.EFI_HANDOFF_REGION_BASE + 0x1A80
def EFI_SIMPLE_TEXT_INPUT_EX_PROTOCOL_ADDR : UInt64 :=
  g.EFI_HANDOFF_REGION_BASE + 0x1AA0

end EfiHandoffGlobals

/-- **`applyEfiHandoffLayoutBase`.** -/
def applyEfiHandoffLayoutBase (base : UInt64) : EfiHandoffGlobals := ⟨base⟩

/-- **`resetEfiHandoffLayoutGlobals`.** Also their value when the process starts. -/
def resetEfiHandoffLayoutGlobals : EfiHandoffGlobals :=
  applyEfiHandoffLayoutBase EFI_DEFAULT_HANDOFF_REGION_BASE

/-! ## Protocol attachments -/

def EFI_IMAGE_HANDLE : UInt64 := 0x1
def EFI_IMAGE_DEVICE_HANDLE : UInt64 := 0x40
def EFI_CONSOLE_INPUT_HANDLE : UInt64 := 0x41

def EFI_LOADED_IMAGE_PROTOCOL_GUID : Vector UInt8 16 :=
  #v[0xA1, 0x31, 0x1B, 0x5B, 0x62, 0x95, 0xD2, 0x11, 0x8E, 0x3F, 0x00, 0xA0, 0xC9, 0x69, 0x72, 0x3B]
def EFI_SIMPLE_FILE_SYSTEM_PROTOCOL_GUID : Vector UInt8 16 :=
  #v[0x22, 0x5B, 0x4E, 0x96, 0x59, 0x64, 0xD2, 0x11, 0x8E, 0x39, 0x00, 0xA0, 0xC9, 0x69, 0x72, 0x3B]
def EFI_SIMPLE_TEXT_INPUT_PROTOCOL_GUID : Vector UInt8 16 :=
  #v[0xC1, 0x77, 0x74, 0x38, 0xC7, 0x69, 0xD2, 0x11, 0x8E, 0x39, 0x00, 0xA0, 0xC9, 0x69, 0x72, 0x3B]
def EFI_SIMPLE_TEXT_INPUT_EX_PROTOCOL_GUID : Vector UInt8 16 :=
  #v[0x34, 0x75, 0x9E, 0xDD, 0x62, 0x77, 0x98, 0x46, 0x8C, 0x14, 0xF5, 0x85, 0x17, 0xA6, 0x25, 0xAA]

namespace EfiServices

/-- **`resetEfiProtocolAttachments`** hands out the addresses the process-wide variables hold now. -/
def resetEfiProtocolAttachments (g : EfiHandoffGlobals) (s : EfiServices) : EfiServices :=
  { s with
    efiLoadedImages := .empty
    efiProtocolAttachments := [
      ⟨EFI_IMAGE_HANDLE, EFI_LOADED_IMAGE_PROTOCOL_GUID, g.EFI_LOADED_IMAGE_PROTOCOL_ADDR⟩,
      ⟨EFI_IMAGE_DEVICE_HANDLE, EFI_SIMPLE_FILE_SYSTEM_PROTOCOL_GUID, g.EFI_SIMPLE_FILE_SYSTEM_PROTOCOL_ADDR⟩,
      ⟨EFI_CONSOLE_INPUT_HANDLE, EFI_SIMPLE_TEXT_INPUT_PROTOCOL_GUID, g.EFI_SIMPLE_TEXT_INPUT_PROTOCOL_ADDR⟩,
      ⟨EFI_CONSOLE_INPUT_HANDLE, EFI_SIMPLE_TEXT_INPUT_EX_PROTOCOL_GUID,
        g.EFI_SIMPLE_TEXT_INPUT_EX_PROTOCOL_ADDR⟩]
    efiNextSyntheticHandle := 0x42 }

end EfiServices

/-! ## Construction, reset, layout -/

namespace IA64ISAPlugin
variable {I : Type _}

/-- The constructor, in a process whose handoff variables are `g`. -/
def construct (g : EfiHandoffGlobals) : IA64ISAPlugin I where
  state := .initial
  cachedInstruction := none
  frames := {}
  interrupts := {}
  memoryMap := {}
  handoff := {}
  services := EfiServices.resetEfiProtocolAttachments g {}
  counters := {}
  trace := {}

/-- **`reset`** restores the default layout process-wide, and the plugin to a newly built one over it. -/
def reset : EfiHandoffGlobals × IA64ISAPlugin I :=
  (resetEfiHandoffLayoutGlobals, construct resetEfiHandoffLayoutGlobals)

/-- What both fallbacks of `ensureEfiHandoffLayout` do: the default layout, and no pool allocations. -/
def fallBackToDefaultLayout (memorySize : UInt64) (p : IA64ISAPlugin I) :
    EfiHandoffGlobals × IA64ISAPlugin I :=
  (resetEfiHandoffLayoutGlobals,
    { p with
      services := p.services.resetEfiProtocolAttachments resetEfiHandoffLayoutGlobals
      handoff := { p.handoff with
        efiHandoffLayoutMemorySize := memorySize, efiHandoffLayoutInitialized := true }
      memoryMap := { p.memoryMap with efiMemoryMapInitialized := false, efiPoolAllocations := [] } })

/-- **`ensureEfiHandoffLayout`**, for a guest memory of `memorySize` bytes. -/
def ensureEfiHandoffLayout (memorySize : UInt64) (g : EfiHandoffGlobals) (p : IA64ISAPlugin I) :
    EfiHandoffGlobals × IA64ISAPlugin I :=
  if p.handoff.efiHandoffLayoutInitialized ∧ memorySize = p.handoff.efiHandoffLayoutMemorySize then (g, p)
  else if memorySize = 0 then fallBackToDefaultLayout 0 p
  else
    match tryComputeEfiHandoffLayout memorySize with
    | none => fallBackToDefaultLayout memorySize p
    | some base =>
        let g' := applyEfiHandoffLayoutBase base
        (g', { p with
          services := p.services.resetEfiProtocolAttachments g'
          handoff := { p.handoff with
            efiHandoffLayoutMemorySize := memorySize, efiHandoffLayoutInitialized := true }
          memoryMap := { p.memoryMap with efiMemoryMapInitialized := false } })

/-- A first layout that fits is the computed one. -/
theorem globals_ensureEfiHandoffLayout {memorySize base : UInt64} {p : IA64ISAPlugin I}
    (hfirst : p.handoff.efiHandoffLayoutInitialized = false)
    (hfits : tryComputeEfiHandoffLayout memorySize = some base) (g : EfiHandoffGlobals) :
    (p.ensureEfiHandoffLayout memorySize g).1 = applyEfiHandoffLayoutBase base := by
  have hsize : memorySize ≠ 0 := by
    rintro rfl
    cases hfits
  unfold ensureEfiHandoffLayout
  rw [if_neg (by simp [hfirst]), if_neg hsize, hfits]

end IA64ISAPlugin

end GuideXOS.Isa
