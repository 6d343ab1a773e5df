import GuideXOS.Abi.LinuxABI
import GuideXOS.Lib.Extents
import GuideXOS.Lib.Runs

/-!
# `Mappings` — what is mapped while the guest calls

The Linux layer does not record mappings, so the address space keeps them beside it: a mapping becomes live when
`SysMmap` returns it, and `SysMunmap` cuts its pages out of whatever is live. Mappings stay apart as long as
nothing live, and no byte of the program break area, lies at or above the hint for the next mapping (`Sound`).
A call keeps that exactly if it is `Careful`.
-/

namespace GuideXOS.Abi
open Lib.Extents Lib.Extents.Extent Lib.Runs LinuxABI

/-- Where the program break area begins. -/
def brkBase : UInt64 := initial.brkAddress

/-- The program break area for a break at `addr`. -/
def breakArea (addr : UInt64) : Extent := ⟨brkBase.toNat, addr.toNat⟩

/-- The addresses an accepted request maps. -/
def mapping (abi : LinuxABI) (request : MmapRequest) : Extent :=
  ⟨(abi.mappedAddr request).toNat, (abi.mappedAddr request).toNat + (pageUp request.length).toNat⟩

/-- The pages an unmapping gives back. -/
def unmapped (addr length : UInt64) : Extent := ⟨addr.toNat, addr.toNat + (length.toNat + 16383) / 16384 * 16384⟩

structure AddressSpace where
  abi : LinuxABI
  live : List Extent

namespace AddressSpace

def initial : AddressSpace := ⟨LinuxABI.initial, []⟩

def breakArea (s : AddressSpace) : Extent := Abi.breakArea s.abi.brkAddress

end AddressSpace

inductive MemoryCall
  | mmap (request : MmapRequest)
  | munmap (addr length : UInt64)
  | brk (addr : UInt64)

namespace MemoryCall

/-- The calls the layer places by itself. -/
def NotFixed : MemoryCall → Prop
  | mmap request => request.flags &&& MAP_FIXED = 0
  | _ => True

def step (s : AddressSpace) : MemoryCall → AddressSpace
  | mmap request =>
      let result := s.abi.sysMmap request
      ⟨result.2, if result.1.success then mapping s.abi request :: s.live else s.live⟩
  | munmap addr length =>
      let result := s.abi.sysMunmap addr length
      ⟨result.2, if result.1.success then without s.live (unmapped addr length) else s.live⟩
  | brk addr => ⟨(s.abi.sysBrk addr).2, s.live⟩

/-- **A mapping as the guest may use it.** Page aligned, long enough, not past the last address, and apart from
    everything live. -/
def Placed (s : AddressSpace) : MemoryCall → Prop
  | mmap request => (s.abi.sysMmap request).1.success = true →
      (s.abi.sysMmap request).1.returnValue = (s.abi.mappedAddr request).toInt64 ∧
      (mapping s.abi request).start % pageSize.toNat = 0 ∧
      (mapping s.abi request).start + request.length.toNat ≤ (mapping s.abi request).stop ∧
      (mapping s.abi request).stop ≤ 2 ^ 64 ∧
      ∀ e ∈ s.breakArea :: s.live, Apart (mapping s.abi request) e
  | _ => True

/-- **What a call must not ask for.** A length that rounds past the last address, or a mapping that ends there; an
    address below something live; a break inside something live or above the hint for the next mapping. -/
def Careful (s : AddressSpace) : MemoryCall → Prop
  | mmap request => (s.abi.sysMmap request).1.success = true →
      request.length.toNat + (pageSize.toNat - 1) < 2 ^ 64 ∧
      (s.abi.mappedAddr request).toNat + (pageUp request.length).toNat < 2 ^ 64 ∧
      (request.addr ≠ 0 → ∀ e ∈ s.breakArea :: s.live, e.Vacant ∨ e.stop ≤ (pageUp request.addr).toNat)
  | munmap _ _ => True
  | brk addr => addr ≠ 0 →
      (∀ e ∈ s.live, Apart (Abi.breakArea addr) e) ∧ (addr ≤ brkBase ∨ addr ≤ s.abi.mmapHint)

instance (s : AddressSpace) (call : MemoryCall) : Decidable (Careful s call) :=
  match call with
  | mmap _ => inferInstanceAs (Decidable (_ → _ ∧ _ ∧ (_ → ∀ e ∈ _, _ ∨ _)))
  | munmap _ _ => .isTrue trivial
  | brk _ => inferInstanceAs (Decidable (_ → (∀ e ∈ _, _) ∧ _))

instance (call : MemoryCall) : Decidable call.NotFixed :=
  match call with
  | mmap _ => inferInstanceAs (Decidable (_ = _))
  | munmap _ _ | brk _ => .isTrue trivial

end MemoryCall

open MemoryCall

/-! ## The invariant -/

/-- **Mappings do not overlap.** -/
def NoOverlap (s : AddressSpace) : Prop := (s.breakArea :: s.live).Pairwise Apart

/-- Mappings do not overlap, and the next one is placed above all of them and above the break. -/
structure Sound (s : AddressSpace) : Prop where
  hint_aligned : s.abi.mmapHint.toNat % 16384 = 0
  mem_live : ∀ e ∈ s.live, e.start % 16384 = 0 ∧ ¬ e.Vacant
  disjoint : NoOverlap s
  below : ∀ e ∈ s.breakArea :: s.live, e.Vacant ∨ e.stop ≤ s.abi.mmapHint.toNat

theorem sound_initial : Sound AddressSpace.initial := by
  refine ⟨by decide, List.forall_mem_nil _, List.pairwise_singleton _ _, ?_⟩
  exact List.forall_mem_singleton.mpr (.inl (Nat.le_refl _))

section Mmap
variable {s : AddressSpace} {request : MmapRequest}

theorem mapping_start_aligned (abi : LinuxABI) (hfixed : request.flags &&& MAP_FIXED = 0) :
    (mapping abi request).start % 16384 = 0 := by
  show (abi.mappedAddr request).toNat % 16384 = 0
  rw [mappedAddr_of_not_fixed abi hfixed]
  exact pageUp_aligned _

/-- An accepted request of a careful guest starts above everything live. -/
theorem Sound.le_mapping_start (hs : Sound s) (hfixed : request.flags &&& MAP_FIXED = 0)
    (hhint : request.addr ≠ 0 → ∀ e ∈ s.breakArea :: s.live, e.Vacant ∨ e.stop ≤ (pageUp request.addr).toNat) :
    ∀ e ∈ s.breakArea :: s.live, e.Vacant ∨ e.stop ≤ (mapping s.abi request).start := by
  show ∀ e ∈ s.breakArea :: s.live, e.Vacant ∨ e.stop ≤ (s.abi.mappedAddr request).toNat
  rw [mappedAddr_of_not_fixed s.abi hfixed]
  by_cases haddr : request.addr = 0
  · rw [if_pos haddr, pageUp_of_aligned hs.hint_aligned]
    exact hs.below
  · rw [if_neg haddr]
    exact hhint haddr

/-- What an accepted request leaves. -/
theorem step_mmap_accepted (hresult : s.abi.sysMmap request = (.of (s.abi.mappedAddr request).toInt64,
      { s.abi with mmapHint := s.abi.mappedAddr request + pageUp request.length })) :
    step s (mmap request) = ⟨{ s.abi with mmapHint := s.abi.mappedAddr request + pageUp request.length },
      mapping s.abi request :: s.live⟩ := by
  rw [step, hresult]
  rfl

theorem step_mmap_rejected (hfail : (s.abi.sysMmap request).1.success = false)
    (habi : (s.abi.sysMmap request).2 = s.abi) :
    step s (mmap request) = s := by
  rw [step, habi, hfail]
  rfl

/-- **Mapping.** The mapping is placed well and leaves a sound address space exactly if the call is careful. -/
theorem mmap_iff (hs : Sound s) (hfixed : request.flags &&& MAP_FIXED = 0) :
    (Placed s (mmap request) ∧ Sound (step s (mmap request))) ↔ Careful s (mmap request) := by
  rcases sysMmap_cases s.abi hfixed with ⟨hfail, habi⟩ | ⟨hlength, hresult⟩
  · rw [step_mmap_rejected hfail habi]
    have hnot : ¬ (s.abi.sysMmap request).1.success = true := by
      rw [hfail]
      exact Bool.false_ne_true
    exact ⟨fun _ h => absurd h hnot, fun _ => ⟨fun h => absurd h hnot, hs⟩⟩
  · have hsuccess : (s.abi.sysMmap request).1.success = true := by rw [hresult]; rfl
    have halignedLength := pageUp_aligned request.length
    have hstart := mapping_start_aligned s.abi hfixed
    have hround := le_pageUp_iff hlength
    have hpos : 0 < request.length.toNat := Nat.pos_of_ne_zero fun h => hlength (UInt64.toNat_inj.mp h)
    have hhint : (s.abi.mappedAddr request + pageUp request.length).toNat =
        ((s.abi.mappedAddr request).toNat + (pageUp request.length).toNat) % 2 ^ 64 := UInt64.toNat_add _ _
    have hpage : pageSize.toNat = 16384 := rfl
    rw [step_mmap_accepted hresult]
    constructor
    · rintro ⟨hplaced, hsound⟩ -
      obtain ⟨-, -, hlong, hstop, hapart⟩ := hplaced hsuccess
      have hbelow := hsound.below (mapping s.abi request) (List.mem_cons_of_mem _ List.mem_cons_self)
      simp only [mapping, Vacant] at hlong hstop hbelow hstart
      rw [hhint] at hbelow
      refine ⟨by omega, by omega, fun haddr e he => ?_⟩
      -- what is live ends below the new hint and shares nothing with the mapping that ends there
      have hend : e.Vacant ∨ e.stop ≤ ((s.abi.mappedAddr request).toNat + (pageUp request.length).toNat) % 2 ^ 64 := by
        rw [← hhint]
        rcases List.mem_cons.mp he with rfl | hlive
        · exact hsound.below _ List.mem_cons_self
        · exact hsound.below e (List.mem_cons_of_mem _ (List.mem_cons_of_mem _ hlive))
      have hoff := apart_iff.mp (hapart e he)
      have hmapped : s.abi.mappedAddr request = pageUp request.addr := by
        rw [mappedAddr_of_not_fixed s.abi hfixed, if_neg haddr]
      rw [← hmapped]
      simp only [mapping, Vacant] at hoff hend ⊢
      omega
    · intro hcareful
      obtain ⟨hfits, hend, haddr⟩ := hcareful hsuccess
      have hle := hs.le_mapping_start hfixed haddr
      have hapart : ∀ e ∈ s.breakArea :: s.live, Apart (mapping s.abi request) e := forall_apart_of_le hle
      refine ⟨fun _ => ⟨by rw [hresult]; rfl, hstart, ?_, ?_, hapart⟩, ?_, ?_, ?_, ?_⟩
      · exact Nat.add_le_add_left (hround.mpr (by omega)) _
      · exact Nat.le_of_lt hend
      · simp only [mapping] at hstart
        rw [hhint]
        omega
      · refine List.forall_mem_cons.mpr ⟨⟨hstart, ?_⟩, hs.mem_live⟩
        simp only [mapping, Vacant]
        omega
      · obtain ⟨hbreak, hlive⟩ := List.pairwise_cons.mp hs.disjoint
        obtain ⟨hfirst, hrest⟩ := List.forall_mem_cons.mp hapart
        exact List.pairwise_cons.mpr ⟨List.forall_mem_cons.mpr ⟨hfirst.symm, hbreak⟩,
          List.pairwise_cons.mpr ⟨hrest, hlive⟩⟩
      · dsimp only
        rw [hhint, Nat.mod_eq_of_lt hend]
        obtain ⟨hfirst, hrest⟩ := List.forall_mem_cons.mp hle
        have hmono : ∀ {e : Extent}, e.Vacant ∨ e.stop ≤ (mapping s.abi request).start →
            e.Vacant ∨ e.stop ≤ (mapping s.abi request).stop :=
          fun h => h.imp_right fun h => Nat.le_trans h (Nat.le_add_right _ _)
        exact List.forall_mem_cons.mpr ⟨hmono hfirst,
          List.forall_mem_cons.mpr ⟨.inr (Nat.le_refl _), fun e he => hmono (hrest e he)⟩⟩

end Mmap

/-- **Unmapping** keeps a sound address space sound. -/
theorem Sound.munmap {s : AddressSpace} (hs : Sound s) (addr length : UInt64) :
    Sound (step s (.munmap addr length)) := by
  rw [step, sysMunmap_abi]
  cases hsuccess : (s.abi.sysMunmap addr length).1.success with
  | false => exact hs
  | true =>
      obtain ⟨hlength, haligned⟩ := sysMunmap_success hsuccess
      have hpos : 0 < length.toNat := Nat.pos_of_ne_zero fun h => hlength (UInt64.toNat_inj.mp h)
      have haddr := and_pageMask_eq_zero haligned
      have hunmapped : ¬ (unmapped addr length).Vacant := by
        simp only [unmapped, Vacant]
        omega
      have hpage : (unmapped addr length).stop % 16384 = 0 := by
        simp only [unmapped]
        omega
      obtain ⟨hbreak, hlive⟩ := List.pairwise_cons.mp hs.disjoint
      obtain ⟨hbelow, hbelow'⟩ := List.forall_mem_cons.mp hs.below
      refine ⟨hs.hint_aligned, fun p hp => ?_, List.pairwise_cons.mpr ⟨fun p hp => ?_, ?_⟩,
        List.forall_mem_cons.mpr ⟨hbelow, fun p hp => ?_⟩⟩
      · obtain ⟨e, he, hp⟩ := mem_without.mp hp
        obtain ⟨hstart | hstart, -, hne⟩ := start_of_mem_cut hp
        · exact ⟨hstart ▸ (hs.mem_live e he).1, hne⟩
        · exact ⟨hstart ▸ hpage, hne⟩
      · obtain ⟨e, he, hp⟩ := mem_without.mp hp
        exact ((hbreak e he).symm.of_mem_cut hunmapped hp).symm
      · exact pairwise_without hunmapped hlive
      · obtain ⟨e, he, hp⟩ := mem_without.mp hp
        have hstop := (start_of_mem_cut hp).2.1
        exact .inr (hstop.trans ((hbelow' e he).resolve_left (hs.mem_live e he).2))

/-- **The break.** Moving it leaves a sound address space exactly if the call is careful. -/
theorem brk_iff {s : AddressSpace} (hs : Sound s) (addr : UInt64) :
    Sound (step s (.brk addr)) ↔ Careful s (.brk addr) := by
  by_cases haddr : addr = 0
  · have hstep : step s (.brk addr) = s := by rw [step, sysBrk_eq, if_pos haddr]
    rw [hstep]
    exact ⟨fun _ h => absurd haddr h, fun _ => hs⟩
  · have hstep : step s (.brk addr) = ⟨{ s.abi with brkAddress := addr }, s.live⟩ := by
      rw [step, sysBrk_eq, if_neg haddr]
    obtain ⟨hbreak, hlive⟩ := List.pairwise_cons.mp hs.disjoint
    obtain ⟨-, hbelow⟩ := List.forall_mem_cons.mp hs.below
    rw [hstep]
    constructor
    · intro hsound _
      refine ⟨(List.pairwise_cons.mp hsound.disjoint).1, ?_⟩
      exact (hsound.below _ List.mem_cons_self).imp UInt64.le_iff_toNat_le.mpr UInt64.le_iff_toNat_le.mpr
    · intro hcareful
      obtain ⟨hapart, hle⟩ := hcareful haddr
      refine ⟨hs.hint_aligned, hs.mem_live, List.pairwise_cons.mpr ⟨hapart, hlive⟩, ?_⟩
      exact List.forall_mem_cons.mpr ⟨hle.imp UInt64.le_iff_toNat_le.mp UInt64.le_iff_toNat_le.mp, hbelow⟩

/-- **One call.** From a sound address space, what is mapped is placed well and the address space stays sound
    exactly if the call is careful. -/
theorem call_iff {s : AddressSpace} (hs : Sound s) {call : MemoryCall} (hfixed : call.NotFixed) :
    (Placed s call ∧ Sound (step s call)) ↔ Careful s call := by
  cases call with
  | mmap request => exact mmap_iff hs hfixed
  | munmap addr length => exact ⟨fun _ => trivial, fun _ => ⟨trivial, hs.munmap addr length⟩⟩
  | brk addr => exact ⟨fun h => (brk_iff hs addr).mp h.2, fun h => ⟨trivial, (brk_iff hs addr).mpr h⟩⟩

/-! ## Runs -/

/-- **Guest mappings.** While the guest asks for nothing it must not ask for, every mapping is page aligned, as
    long as requested, inside the address space and apart from what is live and from the break area, and so they
    stay. -/
theorem mappings_run (calls : List MemoryCall) (hfixed : ∀ call ∈ calls, call.NotFixed)
    (hcareful : EveryStep step Careful AddressSpace.initial calls) :
    EveryStep step Placed AddressSpace.initial calls ∧ NoOverlap (run step AddressSpace.initial calls) := by
  have hsteps := everyStep_and (everyStep_of_forall hfixed) hcareful
  have hkeep : ∀ s call, Sound s → call.NotFixed ∧ Careful s call → Sound (step s call) :=
    fun s call hs hcall => ((call_iff hs hcall.1).mpr hcall.2).2
  have hplaced : ∀ s call, Sound s → call.NotFixed ∧ Careful s call → Placed s call :=
    fun s call hs hcall => ((call_iff hs hcall.1).mpr hcall.2).1
  exact ⟨everyStep_of_invariant Sound hkeep hplaced sound_initial hsteps,
    (run_invariant Sound hkeep sound_initial hsteps).disjoint⟩

/-- An anonymous private mapping. -/
def anonymous (addr length : UInt64) : MemoryCall := .mmap ⟨addr, length, 0x3, MAP_PRIVATE ||| MAP_ANONYMOUS, 0, 0⟩

/-- Two mappings, the second by a hint; the first is given back in part, the break moves, a third is placed. -/
def someCalls : List MemoryCall :=
  [anonymous 0 0x9000, anonymous 0x70000001 1, .munmap 0x60004000 0x1000, .brk 0x48000000, anonymous 0 0x4000]

theorem mappings_run_someCalls :
    EveryStep step Placed AddressSpace.initial someCalls ∧ NoOverlap (run step AddressSpace.initial someCalls) :=
  mappings_run someCalls (by decide +kernel) (by
    refine ⟨?_, ?_, ?_, ?_, ?_, trivial⟩ <;> decide +kernel)

/-- **The hint is not checked.** A guest that names the address of a live mapping is given it again. -/
theorem mappings_overlap :
    ¬ ∀ calls, (∀ call ∈ calls, MemoryCall.NotFixed call) →
      EveryStep step Placed AddressSpace.initial calls ∧ NoOverlap (run step AddressSpace.initial calls) := by
  intro h
  have hoverlap := (h [anonymous 0 0x4000, anonymous 0x60000000 0x4000] (by decide +kernel)).2
  exact absurd hoverlap (by unfold NoOverlap; decide +kernel)

end GuideXOS.Abi
