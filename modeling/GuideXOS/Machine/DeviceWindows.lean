import GuideXOS.Isa.EfiMapReturn

/-!
# `DeviceWindows` — the devices of a machine and the memory its firmware advertises

The constructor of a machine gives four devices windows in the guest's address space: the console and the timer at
the end of memory, the framebuffer and the processor interrupt block at fixed addresses. The firmware's memory map is
built elsewhere, by marking ranges of an all-conventional memory. The two agree for the first two devices, whose
windows lie in the last range that is marked. Nothing is marked for the other two.

What the allocators hand out was free when the map was built (`Held`), so a run shadows a device exactly when
the first map does: `unshadowed_iff`.
-/

namespace GuideXOS.Machine
open Lib Lib.Words Lib.Runs Lib.Segments GuideXOS.Core GuideXOS.Isa
open EfiMemoryDescriptor

/-! ## The windows -/

structure DeviceWindow where
  baseAddress : UInt64
  size : UInt64

namespace DeviceWindow

def Contains (w : DeviceWindow) (x : Nat) : Prop :=
  w.baseAddress.toNat ≤ x ∧ x < w.baseAddress.toNat + w.size.toNat

/-- **`HandlesRange`.** -/
def handlesRange (w : DeviceWindow) (address size : UInt64) : Bool :=
  if size = 0 then false
  else address ≥ w.baseAddress && address + size ≥ address && address + size ≤ w.baseAddress + w.size

end DeviceWindow

def consoleDevice (baseAddress : UInt64) : DeviceWindow := ⟨baseAddress, 8⟩
def timerDevice (baseAddress : UInt64) : DeviceWindow := ⟨baseAddress, 24⟩
def framebufferDevice : DeviceWindow := ⟨0xB8000000, 640 * 480 * 4⟩
def processorInterruptBlock : DeviceWindow := ⟨0xFEE00000, 0x100000⟩

/-- **`RegisterDevice`**, for a device that is not registered yet. -/
def registerDevice (devices : List DeviceWindow) (device : DeviceWindow) : Except String (List DeviceWindow) :=
  if devices.any fun existing => device.baseAddress < existing.baseAddress + existing.size &&
      existing.baseAddress < device.baseAddress + device.size then
    .error "Memory-mapped device range overlaps an existing device"
  else .ok (devices ++ [device])

/-- The longest vector of bytes, which guest memory is. -/
def maxMemorySize : UInt64 := 0x7FFFFFFFFFFFFFFF

/-- What the constructor of a machine makes of a memory size: guest memory, then the devices in its order. -/
def constructDevices (memorySize : UInt64) : Except String (List DeviceWindow) :=
  if memorySize > maxMemorySize then .error "cannot create std::vector larger than max_size()"
  else if memorySize = 0 then .error "Memory size cannot be zero"
  else
    let ioBase := if memorySize ≥ 0x200 then memorySize - 0x200 else 0
    [consoleDevice ioBase, timerDevice (ioBase + 0x100), framebufferDevice, processorInterruptBlock].foldlM
      registerDevice []

variable {devices : List DeviceWindow} {memorySize : UInt64}

theorem registerDevice_ok {devices' : List DeviceWindow} {device : DeviceWindow}
    (h : registerDevice devices device = .ok devices') : devices' = devices ++ [device] := by
  unfold registerDevice at h
  split at h
  · cases h
  · exact (Except.ok.inj h).symm

theorem foldlM_registerDevice_ok {acc devices' : List DeviceWindow}
    (h : devices.foldlM registerDevice acc = .ok devices') : devices' = acc ++ devices := by
  induction devices generalizing acc with
  | nil =>
      rw [List.append_nil]
      exact (Except.ok.inj h).symm
  | cons device devices ih =>
      rw [List.foldlM_cons] at h
      cases hone : registerDevice acc device with
      | error e =>
          rw [hone] at h
          cases h
      | ok acc' =>
          rw [hone] at h
          rw [ih h, registerDevice_ok hone, List.append_assoc]
          rfl

/-- An accepted memory size, and its four windows. -/
theorem constructDevices_ok (h : constructDevices memorySize = .ok devices) :
    memorySize.toNat < 2 ^ 63 ∧
      devices = [consoleDevice (if memorySize ≥ 0x200 then memorySize - 0x200 else 0),
        timerDevice ((if memorySize ≥ 0x200 then memorySize - 0x200 else 0) + 0x100), framebufferDevice,
        processorInterruptBlock] := by
  unfold constructDevices at h
  split at h
  · cases h
  next hmax =>
  split at h
  · cases h
  · refine ⟨?_, foldlM_registerDevice_ok h⟩
    have hle := UInt64.le_iff_toNat_le.mp (not_lt.mp hmax)
    have hvalue : maxMemorySize.toNat = 2 ^ 63 - 1 := rfl
    omega

/-! ## What a run can hand out -/

/-- The address lies in conventional memory or in a live allocation. -/
def Held (m : EfiMemoryState) (x : Nat) : Prop := Free m.efiMemoryMap x ∨ ∃ a ∈ m.liveAllocations, a.Contains x

/-- **No change frees or hands out anything that was not held.** -/
theorem held_of_effect {m m' : EfiMemoryState} (h : EfiMapEffect m m') {x : Nat} (hx : Held m' x) : Held m x := by
  cases h with
  | handedOut a hout htype hlive =>
      rcases hx with hfree | ⟨b, hb, hx⟩
      · exact Or.inl (hout.free_of_free htype hfree)
      · rcases List.mem_cons.mp (hlive.mem_iff.mpr hb) with rfl | hb
        · exact Or.inl (hout.free_of_range hx.1 hx.2)
        · exact Or.inr ⟨b, hb, hx⟩
  | returned a hlive hretyped =>
      rcases hx with ⟨l, hl, hconv⟩ | ⟨b, hb, hx⟩
      · obtain ⟨l₀, hl₀, heq⟩ := (hretyped x l).mp hl
        by_cases hin : a.toRange.start ≤ x ∧ x < a.toRange.stop
        · exact Or.inr ⟨a, hlive.mem_iff.mpr List.mem_cons_self, hin⟩
        · rw [if_neg hin] at heq
          exact Or.inl ⟨l, heq ▸ hl₀, hconv⟩
      · exact Or.inr ⟨b, hlive.mem_iff.mpr (List.mem_cons_of_mem a hb), hx⟩

section Services
variable {I M : Type _} [IMemory M] {p : IA64ISAPlugin I}

/-- What is kept since `m₀`: the invariant, and that nothing new is held at `x`. -/
def HeldSince (memorySize : UInt64) (m₀ : EfiMemoryState) (x : Nat) (m : EfiMemoryState) : Prop :=
  EfiMapInvariant memorySize m ∧ (Held m x → Held m₀ x)

theorem HeldSince.change {m₀ m m' : EfiMemoryState} {x : Nat} (h : HeldSince memorySize m₀ x m)
    (hchange : EfiMapChange m m') : HeldSince memorySize m₀ x m' :=
  ⟨h.1.change hchange, fun hx => h.2 (held_of_effect (hchange.effect h.1).2 hx)⟩

/-- **Step lemma.** A call of a service holds nothing new. -/
theorem heldSince_step [LawfulIMemory M] {m₀ : EfiMemoryState} {call : EfiMapCall M} {x : Nat}
    (h : HeldSince memorySize m₀ x p.memoryMap) (hsize : getTotalSize call.memory = memorySize) :
    HeldSince memorySize m₀ x (EfiMapCall.step p call).memoryMap := by
  have hbuilt : p.memoryMap.BuiltFor (getTotalSize call.memory) := hsize ▸ h.1.builtFor
  exact (changes_step hbuilt).invariant (fun _ _ hs hchange => hs.change hchange) h

/-- **Run lemma.** What is held after a run was held before it. -/
theorem held_run [LawfulIMemory M] {calls : List (EfiMapCall M)} (h : EfiMapInvariant memorySize p.memoryMap)
    (hcalls : ∀ call ∈ calls, getTotalSize call.memory = memorySize) {x : Nat}
    (hx : Held (run EfiMapCall.step p calls).memoryMap x) : Held p.memoryMap x := by
  have hkept : HeldSince memorySize p.memoryMap x (run EfiMapCall.step p calls).memoryMap :=
    run_invariant (fun q : IA64ISAPlugin I => HeldSince memorySize p.memoryMap x q.memoryMap)
      (fun _ _ hs hsize => heldSince_step hs hsize) ⟨h, id⟩ (everyStep_of_forall hcalls)
  exact hkept.2 hx

/-- **The first map**, address by address: what no mark covers is conventional. -/
theorem held_ensure (g : EfiHandoffGlobals) {memory : M} (hp : p.memoryMap.efiMemoryMapInitialized = false)
    (x : Nat) :
    Held (ensureEfiMemoryMap g p memory).2.memoryMap x ↔
      x < (physicalEndOf (getTotalSize memory)).toNat ∧
        markedType (physicalEndOf (getTotalSize memory)) x EFI_MEMORY_CONVENTIONAL
          (firmwareMarks g p memory (physicalEndOf (getTotalSize memory))) = EFI_MEMORY_CONVENTIONAL := by
  unfold ensureEfiMemoryMap
  rw [if_neg (by rw [hp]; exact fun h' => Bool.false_ne_true h'.1)]
  dsimp only
  split
  · next hsmall =>
      have hempty : (physicalEndOf (getTotalSize memory)).toNat = 0 := by
        rw [physicalEndOf, and_not_page_toNat]
        have hlt : (getTotalSize memory).toNat < 4096 := UInt64.lt_iff_toNat_lt.mp hsmall
        omega
      rw [hempty]
      constructor
      · rintro (⟨_, ⟨s, hs, _⟩, _⟩ | ⟨a, ha, _⟩)
        · exact absurd hs List.not_mem_nil
        · exact absurd ha List.not_mem_nil
      · exact fun h => absurd h.1 (Nat.not_lt_zero x)
  · have hend := dvd_physicalEndOf (getTotalSize memory)
    obtain ⟨hsound, hlabels⟩ := mapSound_conventional hend
    have hmarked := (mapSound_firmwareMarks hend
      (firmwareMarks g p memory (physicalEndOf (getTotalSize memory))) hsound).2
    constructor
    · rintro (⟨l, hl, hconv⟩ | ⟨a, ha, _⟩)
      · obtain ⟨l₀, hl₀, rfl⟩ := (hmarked x l).mp hl
        obtain ⟨hx, rfl⟩ := (hlabels x l₀).mp hl₀
        exact ⟨hx, hconv⟩
      · exact absurd ha List.not_mem_nil
    · rintro ⟨hx, htype⟩
      exact Or.inl ⟨_, (hmarked x _).mpr ⟨_, (hlabels x _).mpr ⟨hx, rfl⟩, rfl⟩, htype⟩

/-! ## The end of memory -/

theorem markedType_append (physicalEnd : UInt64) (x : Nat) (type : UInt32) (marks : List EfiMark) (mark : EfiMark) :
    markedType physicalEnd x type (marks ++ [mark]) =
      if mark.Covers physicalEnd x then mark.type else markedType physicalEnd x type marks := by
  rw [markedType, List.foldl_append]
  rfl

theorem efiAlignDown_le (value alignment : UInt64) : (efiAlignDown value alignment).toNat ≤ value.toNat := by
  unfold efiAlignDown
  split
  · exact le_rfl
  · rw [UInt64.toNat_and]
    exact Nat.and_le_left

/-- Rounding up reaches every whole page. -/
theorem physicalEndOf_le_alignUp (hmax : memorySize.toNat < 2 ^ 63) :
    (physicalEndOf memorySize).toNat ≤ (efiAlignUp memorySize EFI_PAGE_SIZE).toNat := by
  have hsum : (memorySize + EFI_PAGE_SIZE - 1).toNat = memorySize.toNat + 4095 := by
    have hvalue : (4095 : UInt64).toNat = 4095 := rfl
    have hadd : memorySize + EFI_PAGE_SIZE - 1 = memorySize + 4095 := by
      unfold EFI_PAGE_SIZE
      grind
    rw [hadd, UInt64.toNat_add, hvalue, Nat.mod_eq_of_lt (by omega)]
  rw [physicalEndOf, and_not_page_toNat, efiAlignUp, if_neg (by decide), efiAlignDown, if_neg (by decide),
    and_not_page_toNat, hsum]
  omega

/-- **The last mark** reserves the end of memory from the guard above the stack on. -/
theorem markedType_end (g : EfiHandoffGlobals) (p : IA64ISAPlugin I) {memory : M} {x : Nat} (type : UInt32)
    (hmax : (getTotalSize memory).toNat < 2 ^ 63) (hx : x < (physicalEndOf (getTotalSize memory)).toNat)
    (hguard : (getTotalSize memory).toNat ≤ x + 0x10000) :
    markedType (physicalEndOf (getTotalSize memory)) x type
      (firmwareMarks g p memory (physicalEndOf (getTotalSize memory))) = EFI_MEMORY_RESERVED := by
  unfold firmwareMarks
  dsimp only
  generalize getTotalSize memory = memorySize at *
  generalize hstack : efiAlignDown (if memorySize > kEfiStackGuard then memorySize - kEfiStackGuard else 0) 16 = stackTop
  have hle : stackTop.toNat ≤ x := by
    rw [← hstack]
    refine (efiAlignDown_le _ _).trans ?_
    split
    · next hgt =>
        have hvalue : kEfiStackGuard.toNat = 0x10000 := rfl
        rw [UInt64.toNat_sub_of_le _ _ (le_of_lt hgt), hvalue]
        omega
    · exact Nat.zero_le x
  rw [List.append_cons, List.append_cons, markedType_append, if_pos]
  refine ⟨?_, ?_⟩
  · rw [toNat_min]
    exact (Nat.min_le_left _ _).trans ((efiAlignDown_le _ _).trans hle)
  · rw [toNat_min]
    exact lt_of_lt_of_le hx (le_min (physicalEndOf_le_alignUp hmax) le_rfl)

end Services

/-! ## Shadowed memory -/

/-- **No device shadows memory.** No window meets memory that is advertised as conventional or allocated, and so no
    access to an allocation is taken by a device. -/
structure Unshadowed (devices : List DeviceWindow) (m : EfiMemoryState) : Prop where
  advertised : ∀ w ∈ devices, ∀ d ∈ m.efiMemoryMap, d.type = EFI_MEMORY_CONVENTIONAL → ∀ x, d.Contains x → ¬ w.Contains x
  allocated : ∀ w ∈ devices, ∀ a ∈ m.liveAllocations, ∀ x, a.Contains x → ¬ w.Contains x
  reachesRam : ∀ w ∈ devices, ∀ a ∈ m.liveAllocations, ∀ address size : UInt64,
    (∀ x, address.toNat ≤ x → x < address.toNat + size.toNat → a.Contains x) → w.handlesRange address size = false

theorem free_iff {map : List EfiMemoryDescriptor} {x : Nat} :
    Free map x ↔ ∃ d ∈ map, d.type = EFI_MEMORY_CONVENTIONAL ∧ d.Contains x := by
  constructor
  · rintro ⟨_, ⟨s, hs, hcontains, rfl⟩, hconv⟩
    obtain ⟨d, hd, rfl⟩ := List.mem_map.mp hs
    exact ⟨d, hd, hconv, hcontains⟩
  · rintro ⟨d, hd, hconv, hcontains⟩
    exact ⟨_, ⟨d.toSegment, List.mem_map_of_mem hd, hcontains, rfl⟩, hconv⟩

/-- A device only handles ranges that start in its window. -/
theorem DeviceWindow.contains_of_handlesRange {w : DeviceWindow} {address size : UInt64}
    (h : w.handlesRange address size = true) : 0 < size.toNat ∧ w.Contains address.toNat := by
  unfold handlesRange at h
  split at h
  · exact absurd h Bool.false_ne_true
  next hsize =>
  rw [Bool.and_eq_true, Bool.and_eq_true, decide_eq_true_iff, decide_eq_true_iff, decide_eq_true_iff, ge_iff_le,
    ge_iff_le, UInt64.le_iff_toNat_le, UInt64.le_iff_toNat_le, UInt64.le_iff_toNat_le, UInt64.toNat_add,
    UInt64.toNat_add] at h
  obtain ⟨⟨hbase, hwrap⟩, hend⟩ := h
  have hpos : 0 < size.toNat := toNat_pos_of_ne_zero hsize
  have haddress := address.toNat_lt
  have hsizeLt := size.toNat_lt
  have hmod := Nat.mod_le (w.baseAddress.toNat + w.size.toNat) (2 ^ 64)
  exact ⟨hpos, hbase, by omega⟩

theorem unshadowed_iff {m : EfiMemoryState} : Unshadowed devices m ↔ ∀ w ∈ devices, ∀ x, w.Contains x → ¬ Held m x := by
  constructor
  · rintro h w hw x hx (hfree | ⟨a, ha, hin⟩)
    · obtain ⟨d, hd, hconv, hin⟩ := free_iff.mp hfree
      exact h.advertised w hw d hd hconv x hin hx
    · exact h.allocated w hw a ha x hin hx
  · intro h
    have hallocated : ∀ w ∈ devices, ∀ a ∈ m.liveAllocations, ∀ x, a.Contains x → ¬ w.Contains x :=
      fun w hw a ha x hin hx => h w hw x hx (Or.inr ⟨a, ha, hin⟩)
    refine ⟨fun w hw d hd hconv x hin hx => h w hw x hx (Or.inl (free_iff.mpr ⟨d, hd, hconv, hin⟩)), hallocated, ?_⟩
    intro w hw a ha address size hin
    rw [Bool.eq_false_iff]
    intro hhandles
    obtain ⟨hpos, hcontains⟩ := DeviceWindow.contains_of_handlesRange hhandles
    exact hallocated w hw a ha _ (hin _ le_rfl (Nat.lt_add_of_pos_right hpos)) hcontains

/-- The base of the console; the timer follows it. -/
theorem ioBase_bounds (hmax : memorySize.toNat < 2 ^ 63) :
    memorySize.toNat ≤ (if memorySize ≥ 0x200 then memorySize - 0x200 else 0).toNat + 0x200 ∧
      (if memorySize ≥ 0x200 then memorySize - 0x200 else 0).toNat ≤
        ((if memorySize ≥ 0x200 then memorySize - 0x200 else 0) + 0x100).toNat := by
  have hvalue : (0x200 : UInt64).toNat = 0x200 := rfl
  have hhalf : (0x100 : UInt64).toNat = 0x100 := rfl
  rw [UInt64.toNat_add, hhalf]
  split
  · next hge =>
      rw [UInt64.toNat_sub_of_le _ _ hge, hvalue]
      omega
  · next hlt =>
      rw [ge_iff_le, not_le, UInt64.lt_iff_toNat_lt, hvalue] at hlt
      exact ⟨hlt.le.trans (Nat.le_add_left _ _), Nat.zero_le _⟩

/-- **When the firmware advertises no device.** For every accepted memory size, and whatever the firmware marks: in every
    run of the services no device shadows memory, exactly when every byte of the framebuffer and of the interrupt
    block that memory reaches was last marked with a type that is not conventional. -/
theorem unshadowed_runs_iff {I M : Type _} [IMemory M] [LawfulIMemory M] : ∀ (g : EfiHandoffGlobals)
    (p : IA64ISAPlugin I) (memory : M) (devices : List DeviceWindow),
    p.memoryMap.efiMemoryMapInitialized = false → constructDevices (getTotalSize memory) = .ok devices →
    ((∀ calls : List (EfiMapCall M), (∀ call ∈ calls, getTotalSize call.memory = getTotalSize memory) →
        Unshadowed devices (run EfiMapCall.step (ensureEfiMemoryMap g p memory).2 calls).memoryMap) ↔
      ∀ x, framebufferDevice.Contains x ∨ processorInterruptBlock.Contains x →
        x < (physicalEndOf (getTotalSize memory)).toNat →
        markedType (physicalEndOf (getTotalSize memory)) x EFI_MEMORY_CONVENTIONAL
          (firmwareMarks g p memory (physicalEndOf (getTotalSize memory))) ≠ EFI_MEMORY_CONVENTIONAL) := by
  intro g p memory devices hp hvm
  obtain ⟨hmax, rfl⟩ := constructDevices_ok hvm
  constructor
  · -- the run without calls
    intro hruns x hx hlt htype
    have hheld := (held_ensure g hp x).mpr ⟨hlt, htype⟩
    have hfirst := unshadowed_iff.mp (hruns [] (List.forall_mem_nil _))
    rcases hx with hx | hx
    · exact hfirst framebufferDevice (by simp) x hx hheld
    · exact hfirst processorInterruptBlock (by simp) x hx hheld
  · intro hmarks calls hcalls
    refine unshadowed_iff.mpr fun w hw x hx hheld => ?_
    have hbefore := held_run (efiMapInvariant_ensure g hp) hcalls hheld
    obtain ⟨hlt, htype⟩ := (held_ensure g hp x).mp hbefore
    obtain ⟨hconsole, htimer⟩ := ioBase_bounds hmax
    -- the first two windows lie above the guard, which is marked last
    have hend : (if getTotalSize memory ≥ 0x200 then getTotalSize memory - 0x200 else 0).toNat ≤ x → False := by
      intro hlow
      have hreserved := markedType_end g p EFI_MEMORY_CONVENTIONAL hmax hlt (by omega)
      exact absurd (hreserved.symm.trans htype) (by decide)
    simp only [List.mem_cons, List.not_mem_nil, or_false] at hw
    rcases hw with rfl | rfl | rfl | rfl
    · exact hend hx.1
    · exact hend (htimer.trans hx.1)
    · exact hmarks x (Or.inl hx) hlt htype
    · exact hmarks x (Or.inr hx) hlt htype

/-- Memory that ends below the framebuffer is never shadowed. -/
theorem unmarked_below (hsize : memorySize.toNat ≤ 0xB8000000) {x : Nat}
    (hx : framebufferDevice.Contains x ∨ processorInterruptBlock.Contains x) :
    ¬ x < (physicalEndOf memorySize).toNat := by
  have hframebuffer : framebufferDevice.baseAddress.toNat = 0xB8000000 := rfl
  have hblock : processorInterruptBlock.baseAddress.toNat = 0xFEE00000 := rfl
  rw [physicalEndOf, and_not_page_toNat]
  rcases hx with hx | hx
  · have hlow := hx.1
    omega
  · have hlow := hx.1
    omega

/-- Half a gibibyte of zeroed memory. -/
def halfGibibyte : SparseMemory := ⟨0x20000000, fun _ => 0⟩

/-- An image is loaded into it. -/
theorem unshadowed_runs_iff_halfGibibyte :
    Unshadowed [consoleDevice 0x1FFFFE00, timerDevice 0x1FFFFF00, framebufferDevice, processorInterruptBlock]
      (run EfiMapCall.step
        (ensureEfiMemoryMap resetEfiHandoffLayoutGlobals (IA64ISAPlugin.reset (I := Unit)).2 halfGibibyte).2
        [⟨resetEfiHandoffLayoutGlobals, .reset, halfGibibyte,
          .allocateImagePages 2 EFI_MEMORY_LOADER_CODE⟩]).memoryMap := by
  refine (unshadowed_runs_iff resetEfiHandoffLayoutGlobals (IA64ISAPlugin.reset (I := Unit)).2 halfGibibyte _ rfl
    (by rfl)).mpr (fun x hx hlt => absurd hlt (unmarked_below (by decide) hx)) _ fun call hcall => ?_
  rw [List.mem_singleton.mp hcall]

/-- Three gibibytes reach over the framebuffer, and its first byte is advertised as conventional memory. -/
theorem framebuffer_shadows :
    ∃ devices, constructDevices (getTotalSize (⟨0xC0000000, fun _ => 0⟩ : SparseMemory)) = .ok devices ∧
      ¬ Unshadowed devices (ensureEfiMemoryMap ⟨(tryComputeEfiHandoffLayout 0xC0000000).getD 0⟩
        (IA64ISAPlugin.reset (I := Unit)).2 (⟨0xC0000000, fun _ => 0⟩ : SparseMemory)).2.memoryMap := by
  refine ⟨[consoleDevice 0xBFFFFE00, timerDevice 0xBFFFFF00, framebufferDevice, processorInterruptBlock], by rfl, ?_⟩
  intro h
  refine unshadowed_iff.mp h framebufferDevice (by simp) 0xB8000000 ⟨by decide, by decide⟩ ?_
  exact (held_ensure _ rfl _).mpr ⟨by decide, by decide +kernel⟩

end GuideXOS.Machine
