import GuideXOS.Loader.ElfLoader
import GuideXOS.Loader.HeaderBounds

/-!
# `LoadExactness` — what `LoadBuffer` leaves behind

A load that returns has applied the segments as patches, in their order, and started the processor at the entry point. A
load that throws has left memory and processor alone, unless a segment without bytes in the file lies behind its end: the
validation passes it over, and the loop that loads throws at it, behind the segments it has written
(`loadBuffer_exact_iff`).
-/

namespace GuideXOS.Loader
open Lib Lib.Bounds Lib.Patches GuideXOS.Core

namespace ElfBuffer
variable (b : ElfBuffer)

/-- The program headers of the file. -/
def phdrs : List Phdr := if b.ehdr.e_phoff > 0 then (List.range b.ehdr.e_phnum.toNat).map b.phdr else []

/-- The bytes of a segment in the file. -/
def segmentData (phdr : Phdr) : List UInt8 := b.peek phdr.p_offset phdr.p_filesz.toNat

/-- A segment in memory: its bytes in the file, then zeroes. -/
def segmentPatch (phdr : Phdr) : Patch UInt8 :=
  ⟨phdr.p_vaddr.toNat, b.segmentData phdr ++ List.replicate (phdr.p_memsz.toNat - phdr.p_filesz.toNat) 0⟩

/-- The segments of program headers, in their order. -/
def segmentPatches (phdrs : List Phdr) : List (Patch UInt8) :=
  (phdrs.filter fun phdr => phdr.p_type = PT_LOAD).map b.segmentPatch

/-- A segment without bytes in the file, at an offset behind its end. -/
def PastEnd (phdr : Phdr) : Prop := phdr.p_type = PT_LOAD ∧ phdr.p_filesz = 0 ∧ phdr.p_offset > b.size

instance (phdr : Phdr) : Decidable (b.PastEnd phdr) := inferInstanceAs (Decidable (_ ∧ _))

end ElfBuffer

namespace ELFLoader
variable {D : Type} {b : ElfBuffer} {memory memory' : Memory D} {phdr : Phdr} {phdrs : List Phdr} {loader : ELFLoader}
  {memorySize : UInt64} {loader' : ELFLoader} {enabled : Bool}

/-! ## A valid segment -/

/-- What the checks of a segment say: its part of the file is there, and so is its part of memory. -/
structure SegmentFits (b : ElfBuffer) (memorySize : Nat) (phdr : Phdr) : Prop where
  size : phdr.p_filesz.toNat ≤ phdr.p_memsz.toNat
  file : 0 < phdr.p_filesz.toNat → phdr.p_offset.toNat + phdr.p_filesz.toNat ≤ b.bytes.length
  memory : 0 < phdr.p_memsz.toNat → phdr.p_vaddr.toNat + phdr.p_memsz.toNat ≤ memorySize

/-- A sum that is neither below a summand nor above a limit is in the limit. -/
theorem add_le_of_not {x y limit : UInt64} (h : ¬ (x + y < x ∨ x + y > limit)) : x.toNat + y.toNat ≤ limit.toNat := by
  have hx := x.toNat_lt
  have hy := y.toNat_lt
  rw [not_or, not_lt, not_lt, UInt64.le_iff_toNat_le, UInt64.le_iff_toNat_le, UInt64.toNat_add] at h
  omega

theorem segmentFits_of_valid {memorySize : Nat} (hsize : memorySize < 2 ^ 64) (hload : phdr.p_type = PT_LOAD)
    (halign : validateSegmentAlignment phdr = true)
    (hsafe : validateMemorySafety phdr b.size (UInt64.ofNat memorySize) = true) : SegmentFits b memorySize phdr := by
  unfold validateSegmentAlignment at halign
  unfold validateMemorySafety at hsafe
  rw [if_neg (not_not.mpr hload)] at halign hsafe
  have hfilesz : phdr.p_filesz ≤ phdr.p_memsz := by
    split_ifs at halign
    exact of_decide_eq_true halign
  have hfile : ¬ (phdr.p_filesz > 0 ∧
      (phdr.p_offset + phdr.p_filesz < phdr.p_offset ∨ phdr.p_offset + phdr.p_filesz > b.size)) := by
    intro h
    rw [if_pos h] at hsafe
    cases hsafe
  rw [if_neg hfile] at hsafe
  have hmem : ¬ (phdr.p_memsz > 0 ∧ (phdr.p_vaddr + phdr.p_memsz < phdr.p_vaddr ∨
      phdr.p_vaddr + phdr.p_memsz > UInt64.ofNat memorySize)) := by
    intro h
    rw [if_pos h] at hsafe
    cases hsafe
  refine ⟨UInt64.le_iff_toNat_le.mp hfilesz, fun hpos => ?_, fun hpos => ?_⟩
  · have hle := add_le_of_not fun h => hfile ⟨UInt64.lt_iff_toNat_lt.mpr hpos, h⟩
    rwa [b.size_toNat] at hle
  · have hle := add_le_of_not fun h => hmem ⟨UInt64.lt_iff_toNat_lt.mpr hpos, h⟩
    rwa [UInt64.toNat_ofNat_of_lt' hsize] at hle

/-- **The last check** of a valid segment refuses it only if it is past the end of the file. -/
theorem refused_iff {memorySize : Nat} (hload : phdr.p_type = PT_LOAD) (h : SegmentFits b memorySize phdr) :
    phdr.p_offset + phdr.p_filesz > b.size ↔ b.PastEnd phdr := by
  have hsize := b.size_toNat
  have hoffset := phdr.p_offset.toNat_lt
  have hsmall := b.small
  unfold ElfBuffer.PastEnd
  by_cases hzero : phdr.p_filesz = 0
  · rw [hzero, UInt64.add_zero]
    exact ⟨fun h => ⟨hload, rfl, h⟩, fun h => h.2.2⟩
  · have hpos : 0 < phdr.p_filesz.toNat := Nat.pos_of_ne_zero fun h => hzero (UInt64.toNat_inj.mp h)
    have hfile := h.file hpos
    refine iff_of_false ?_ fun h => hzero h.2.1
    rw [gt_iff_lt, UInt64.lt_iff_toNat_lt, UInt64.toNat_add, hsize]
    omega

theorem segmentData_eq {memorySize : Nat} (h : SegmentFits b memorySize phdr) :
    (b.record phdr.p_offset phdr.p_filesz.toNat : Checked ElfError _) = .ok (b.segmentData phdr) ∧
      (b.segmentData phdr).length = phdr.p_filesz.toNat := by
  have hfile := h.file
  constructor
  · refine if_pos ?_
    omega
  · rw [ElfBuffer.segmentData, ElfBuffer.peek, List.length_take, List.length_drop]
    omega

/-- The stores of a valid segment lie in memory, and are one patch. -/
theorem segmentWrites_fit {l : List UInt8} (hl : l.length < 2 ^ 64) (h : SegmentFits b l.length phdr) :
    (∀ w ∈ segmentWrites phdr.p_vaddr phdr (b.segmentData phdr), w.patch.Fits l.length) ∧
      applyAll l ((segmentWrites phdr.p_vaddr phdr (b.segmentData phdr)).map RawWrite.patch) =
        (b.segmentPatch phdr).apply l := by
  obtain ⟨-, hlength⟩ := segmentData_eq h
  have hsize := h.size
  by_cases hmemsz : phdr.p_memsz.toNat = 0
  · -- nothing is stored
    have hnil : b.segmentData phdr = [] := List.eq_nil_of_length_eq_zero (by omega)
    have hzeros : List.replicate (phdr.p_memsz.toNat - phdr.p_filesz.toNat) (0 : UInt8) = [] := by
      rw [hmemsz, Nat.zero_sub, List.replicate_zero]
    rw [ElfBuffer.segmentPatch, segmentWrites, hzeros, hnil]
    refine ⟨fun w hw => .inl ?_, ?_⟩
    · rcases List.mem_pair.mp hw with rfl | rfl <;> rfl
    · rw [List.map_cons, List.map_cons, List.map_nil, applyAll_cons, applyAll_cons, applyAll_nil, Patch.apply_nil rfl,
        Patch.apply_nil rfl, Patch.apply_nil rfl]
  · have hmem := h.memory (Nat.pos_of_ne_zero hmemsz)
    have hsum : (phdr.p_vaddr + phdr.p_filesz).toNat = phdr.p_vaddr.toNat + (b.segmentData phdr).length := by
      rw [UInt64.toNat_add, hlength]
      exact Nat.mod_eq_of_lt (by omega)
    constructor
    · intro w hw
      right
      rcases List.mem_pair.mp hw with rfl | rfl
      · simp only [Patch.stop, RawWrite.start_patch, RawWrite.data_patch]
        omega
      · simp only [Patch.stop, RawWrite.start_patch, RawWrite.data_patch, List.length_replicate, hsum]
        omega
    · rw [segmentWrites, List.map_cons, List.map_cons, List.map_nil, applyAll_cons, applyAll_cons, applyAll_nil,
        ElfBuffer.segmentPatch, ← Patch.apply_append (by omega), ← hsum]
      rfl

/-- **A valid segment** that is not past the end of the file is applied as a patch. -/
theorem loadSegment_ok (hload : phdr.p_type = PT_LOAD) (h : SegmentFits b memory.ram.data.length phdr)
    (hpast : ¬ b.PastEnd phdr) :
    ∃ segment, (loadSegment b 0 phdr memory).1 = .ok segment ∧
      (loadSegment b 0 phdr memory).2.ram.data = (b.segmentPatch phdr).apply memory.ram.data := by
  obtain ⟨hdata, -⟩ := segmentData_eq h
  obtain ⟨hfits, hpatch⟩ := segmentWrites_fit memory.fits h
  have hwritten := Memory.writeAll_ok_iff.mpr hfits
  have hload : loadSegment b 0 phdr memory =
      (.ok ⟨phdr.p_vaddr, phdr.p_vaddr, phdr.p_offset, phdr.p_filesz, phdr.p_memsz, phdr.p_flags, phdr.p_type⟩,
        (memory.writeAll (segmentWrites phdr.p_vaddr phdr (b.segmentData phdr))).2) := by
    simp only [loadSegment, UInt64.zero_add]
    rw [if_neg (mt (refused_iff hload h).mp hpast), hdata]
    simp only [hwritten]
  rw [hload]
  exact ⟨_, rfl, (Memory.data_writeAll hfits).trans hpatch⟩

/-- A segment past the end of the file is refused. -/
theorem loadSegment_pastEnd (h : b.PastEnd phdr) :
    loadSegment b 0 phdr memory = (.error (.threw (.runtimeError "Segment extends beyond file size")), memory) := by
  refine if_pos ?_
  rw [h.2.1, UInt64.add_zero]
  exact h.2.2

theorem loadSegment_frame :
    (loadSegment b 0 phdr memory).2.mmu = memory.mmu ∧ (loadSegment b 0 phdr memory).2.devices = memory.devices := by
  unfold loadSegment
  split
  · exact ⟨rfl, rfl⟩
  · split
    · exact ⟨rfl, rfl⟩
    · dsimp only
      split <;> exact Memory.writeAll_frame

/-! ## All segments -/

/-- The segments of program headers are valid. -/
def SegmentsFit (b : ElfBuffer) (memorySize : Nat) (phdrs : List Phdr) : Prop :=
  ∀ phdr ∈ phdrs, phdr.p_type = PT_LOAD → SegmentFits b memorySize phdr

theorem loadAll_frame : (loadAll b 0 phdrs memory).2.mmu = memory.mmu ∧
    (loadAll b 0 phdrs memory).2.devices = memory.devices := by
  induction phdrs generalizing memory with
  | nil => exact ⟨rfl, rfl⟩
  | cons phdr phdrs ih =>
      rw [loadAll]
      split
      · exact ih
      · have hfirst := @loadSegment_frame D b memory phdr
        dsimp only
        split
        · exact hfirst
        · exact ⟨ih.1.trans hfirst.1, ih.2.trans hfirst.2⟩

theorem length_segment {l : List UInt8} (hl : l.length < 2 ^ 64) (h : SegmentFits b l.length phdr) :
    ((b.segmentPatch phdr).apply l).length = l.length := by
  obtain ⟨hfits, hpatch⟩ := segmentWrites_fit hl h
  rw [← hpatch]
  refine length_applyAll fun p hp => ?_
  obtain ⟨w, hw, rfl⟩ := List.mem_map.mp hp
  exact hfits w hw

theorem segmentPatches_cons_load (hload : phdr.p_type = PT_LOAD) :
    b.segmentPatches (phdr :: phdrs) = b.segmentPatch phdr :: b.segmentPatches phdrs := by
  rw [ElfBuffer.segmentPatches, List.filter_cons_of_pos (by simpa using hload), List.map_cons]
  rfl

theorem segmentPatches_cons_other (hload : phdr.p_type ≠ PT_LOAD) :
    b.segmentPatches (phdr :: phdrs) = b.segmentPatches phdrs := by
  rw [ElfBuffer.segmentPatches, List.filter_cons_of_neg (by simpa using hload)]
  rfl

/-- **Valid segments** none of which is past the end of the file are applied as patches, in front of whatever is left. -/
theorem loadAll_append (rest : List Phdr) (hfit : SegmentsFit b memory.ram.data.length phdrs)
    (hpast : ∀ phdr ∈ phdrs, ¬ b.PastEnd phdr) :
    ∃ segments memory', memory'.ram.data = applyAll memory.ram.data (b.segmentPatches phdrs) ∧
      (segments = [] ↔ ∀ phdr ∈ phdrs, phdr.p_type ≠ PT_LOAD) ∧
      loadAll b 0 (phdrs ++ rest) memory =
        ((loadAll b 0 rest memory').1.map (segments ++ ·), (loadAll b 0 rest memory').2) := by
  induction phdrs generalizing memory with
  | nil =>
      refine ⟨[], memory, rfl, iff_of_true rfl (List.forall_mem_nil _), ?_⟩
      rw [List.nil_append]
      cases (loadAll b 0 rest memory) with
      | mk result left => cases result <;> rfl
  | cons phdr phdrs ih =>
      obtain ⟨hfirst, hfit⟩ := List.forall_mem_cons.mp hfit
      obtain ⟨hpastFirst, hpast⟩ := List.forall_mem_cons.mp hpast
      rw [List.cons_append, loadAll]
      by_cases hload : phdr.p_type = PT_LOAD
      · obtain ⟨segment, hsegment, hdata⟩ := loadSegment_ok hload (hfirst hload) hpastFirst
        have hlength : (loadSegment b 0 phdr memory).2.ram.data.length = memory.ram.data.length := by
          rw [hdata, length_segment memory.fits (hfirst hload)]
        obtain ⟨segments, memory', hram, -, hrest⟩ := @ih (loadSegment b 0 phdr memory).2 (by rwa [hlength]) hpast
        refine ⟨segment :: segments, memory', ?_, ?_, ?_⟩
        · rw [hram, segmentPatches_cons_load hload, applyAll_cons, hdata]
        · exact iff_of_false (List.cons_ne_nil _ _) fun h => h phdr List.mem_cons_self hload
        · rw [if_neg (not_not.mpr hload)]
          dsimp only
          rw [hsegment]
          dsimp only
          rw [hrest]
          cases (loadAll b 0 rest memory').1 <;> rfl
      · obtain ⟨segments, memory', hram, hempty, hrest⟩ := ih hfit hpast
        refine ⟨segments, memory', ?_, ?_, ?_⟩
        · rw [hram, segmentPatches_cons_other hload]
        · rw [hempty, List.forall_mem_cons]
          exact (and_iff_right hload).symm
        · rw [if_pos hload, hrest]

/-- **All segments are loaded** if none is past the end of the file. -/
theorem loadAll_ok (hfit : SegmentsFit b memory.ram.data.length phdrs) (hpast : ∀ phdr ∈ phdrs, ¬ b.PastEnd phdr) :
    ∃ segments, (loadAll b 0 phdrs memory).1 = .ok segments ∧
      (segments = [] ↔ ∀ phdr ∈ phdrs, phdr.p_type ≠ PT_LOAD) ∧
      (loadAll b 0 phdrs memory).2.ram.data = applyAll memory.ram.data (b.segmentPatches phdrs) := by
  obtain ⟨segments, memory', hram, hempty, hrun⟩ := loadAll_append [] hfit hpast
  rw [List.append_nil] at hrun
  refine ⟨segments, ?_, hempty, ?_⟩
  · rw [hrun]
    show (Except.ok (segments ++ []) : Checked ElfError _) = _
    rw [List.append_nil]
  · rw [hrun]
    exact hram

/-- **The load stops** at the first segment past the end of the file, behind the segments in front of it. -/
theorem loadAll_pastEnd {post : List Phdr} (hfit : SegmentsFit b memory.ram.data.length phdrs)
    (hpast : ∀ phdr ∈ phdrs, ¬ b.PastEnd phdr) (h : b.PastEnd phdr) :
    (∃ e, (loadAll b 0 (phdrs ++ phdr :: post) memory).1 = .error (.threw e)) ∧
      (loadAll b 0 (phdrs ++ phdr :: post) memory).2.ram.data = applyAll memory.ram.data (b.segmentPatches phdrs) := by
  obtain ⟨segments, memory', hram, -, hrun⟩ := loadAll_append (phdr :: post) hfit hpast
  have hstop : loadAll b 0 (phdr :: post) memory' =
      (.error (.threw (.runtimeError "Segment extends beyond file size")), memory') := by
    rw [loadAll, if_neg (not_not.mpr h.1), loadSegment_pastEnd h]
  rw [hrun, hstop]
  exact ⟨⟨_, rfl⟩, hram⟩

/-! ## The checks -/

/-- The loader has copied the header and the first `i` program headers. -/
structure Copied (b : ElfBuffer) (i : Nat) (enabled : Bool) (loader : ELFLoader) : Prop where
  header : loader.header = b.ehdr
  type : loader.elfType = b.ehdr.e_type
  base : loader.baseAddress = 0
  enabled : loader.kernelValidationEnabled = enabled
  phdrs : loader.programHeaders = (List.range i).map b.phdr

theorem Copied.note {i : Nat} (h : Copied b i enabled loader) : Copied b (i + 1) enabled (loader.note (b.phdr i)) := by
  have hphdrs : loader.programHeaders ++ [b.phdr i] = (List.range (i + 1)).map b.phdr := by
    rw [h.phdrs, List.range_succ, List.map_append, List.map_singleton]
  unfold ELFLoader.note
  dsimp only
  split <;> exact ⟨h.header, h.type, h.base, h.enabled, hphdrs⟩

/-- A turn that goes on has copied one more program header. -/
theorem Copied.turn {i : Nat} (h : Copied b i enabled loader)
    (hturn : headerTurn b b.ehdr i loader = .ok (.next loader')) : Copied b (i + 1) enabled loader' := by
  by_cases hpasses : EntryPasses b i
  · rw [headerTurn_eq hpasses] at hturn
    obtain ⟨record, hrecord, hturn⟩ := Fallible.bind_eq_ok.mp hturn
    obtain rfl := ElfBuffer.eq_peek_of_record hrecord
    have hnote := h.note
    change (ite (b.HasPath (b.phdr i)) _ _ : Checked StringError _) = _ at hturn
    split at hturn
    · obtain ⟨path, -, hnext⟩ := Fallible.map_eq_ok.mp hturn
      obtain rfl := Turn.next.inj hnext
      exact ⟨hnote.header, hnote.type, hnote.base, hnote.enabled, hnote.phdrs⟩
    · split at hturn
      · obtain rfl := Turn.next.inj (Except.ok.inj hturn)
        exact ⟨hnote.header, hnote.type, hnote.base, hnote.enabled, hnote.phdrs⟩
      · obtain rfl := Turn.next.inj (Except.ok.inj hturn)
        exact hnote
  · rw [headerTurn, if_pos (not_le.mp hpasses)] at hturn
    cases hturn

/-- The loop is left only at an entry that does not pass. -/
theorem headerTurn_leave {i : Nat} {r : Bool × ELFLoader} (h : headerTurn b b.ehdr i loader = .ok (.leave r)) :
    r.1 = false := by
  by_cases hpasses : EntryPasses b i
  · rw [headerTurn_eq hpasses] at h
    obtain ⟨record, -, h⟩ := Fallible.bind_eq_ok.mp h
    generalize Phdr.ofBytes record = phdr at h
    dsimp only at h
    split at h
    · obtain ⟨path, -, hnext⟩ := Fallible.map_eq_ok.mp h
      cases hnext
    · split at h <;> cases h
  · rw [headerTurn, if_pos (not_le.mp hpasses)] at h
    cases h
    rfl

/-- The loader behind the header. -/
def withHeader (loader : ELFLoader) (header : Ehdr) : ELFLoader :=
  { loader with header := header, entryPoint := header.e_entry, elfType := header.e_type, baseAddress := 0 }

theorem parseHeader_eq (hlong : ehdrSize ≤ b.bytes.length) :
    parseHeader b loader =
      if b.ehdr.e_phoff > 0 ∧ b.ehdr.e_phnum > 0 then
        loop (headerTurn b b.ehdr) (fun loader => (true, loader)) b.ehdr.e_phnum.toNat 0 (loader.withHeader b.ehdr)
      else .ok (true, loader.withHeader b.ehdr) := by
  rw [parseHeader, if_neg (ElfBuffer.size_lt_ehdr.not.mpr (not_not.mpr hlong)), ElfBuffer.record_eq_peek (by simpa using hlong)]
  rfl

/-- Every program header of the file passes its checks. -/
def EntriesGo (b : ElfBuffer) : Prop := b.ehdr.e_phoff > 0 → ∀ i < b.ehdr.e_phnum.toNat, EntryGoes b i

theorem copied_withHeader (loader : ELFLoader) :
    Copied b 0 loader.kernelValidationEnabled (loader.cleared.withHeader b.ehdr) := ⟨rfl, rfl, rfl, rfl, rfl⟩

/-- **`ParseHeader` accepts** the files whose program headers all pass, and copies them. -/
theorem parseHeader_ok (hlong : ehdrSize ≤ b.bytes.length) (hfits : TableFits b)
    (h : parseHeader b loader.cleared = .ok (true, loader')) :
    EntriesGo b ∧ ∃ i, Copied b i loader.kernelValidationEnabled loader' ∧ loader'.programHeaders = b.phdrs := by
  rw [parseHeader_eq hlong] at h
  split at h
  · rename_i htable
    rcases loop_ends (fun _ _ => headerTurn_goes) (hfits hlong htable.1) h with ⟨k, -, -, s, hturn⟩ | ⟨-, hgo⟩
    · cases headerTurn_leave hturn
    · refine ⟨fun _ => hgo, b.ehdr.e_phnum.toNat, ?_⟩
      rcases loop_invariant (fun i s s' (hs : Copied b i loader.kernelValidationEnabled s) hturn => hs.turn hturn)
        (copied_withHeader loader) h with ⟨k, s, hturn⟩ | ⟨s, hs, hcopied⟩
      · cases headerTurn_leave hturn
      · obtain rfl := (Prod.mk.inj hs).2
        rw [Nat.zero_add] at hcopied
        refine ⟨hcopied, ?_⟩
        rw [hcopied.phdrs, ElfBuffer.phdrs, if_pos htable.1]
  · rename_i htable
    obtain rfl := (Prod.mk.inj (Except.ok.inj h)).2
    have hnone : b.ehdr.e_phoff > 0 → b.ehdr.e_phnum.toNat = 0 := by
      intro hphoff
      by_contra hphnum
      exact htable ⟨hphoff, UInt16.lt_iff_toNat_lt.mpr (Nat.pos_of_ne_zero hphnum)⟩
    refine ⟨fun hphoff i hi => ?_, 0, copied_withHeader loader, ?_⟩
    · rw [hnone hphoff] at hi
      exact absurd hi (Nat.not_lt_zero i)
    · rw [ElfBuffer.phdrs]
      split
      · rename_i hphoff
        rw [hnone hphoff]
        rfl
      · rfl

theorem parseHeader_of_go (hlong : ehdrSize ≤ b.bytes.length) (hfits : TableFits b) (hgo : EntriesGo b) :
    ∃ loader', parseHeader b loader = .ok (true, loader') := by
  rw [parseHeader_eq hlong]
  split
  · rename_i htable
    refine loop_eq_last fun k hk s => ?_
    rw [Nat.zero_add]
    have hbefore := hgo htable.1
    exact (headerTurn_goes (hfits hlong htable.1 k hk fun j hj => hbefore j (by omega))).mpr (hbefore k hk)
  · exact ⟨_, rfl⟩

/-! ## Accepted files -/

theorem validateSegments_ok_iff {fileSize : UInt64} : validateSegments fileSize memorySize phdrs = .ok () ↔
    ∀ phdr ∈ phdrs, validateSegmentAlignment phdr = true ∧ validateMemorySafety phdr fileSize memorySize = true := by
  induction phdrs with
  | nil => exact iff_of_true rfl (List.forall_mem_nil _)
  | cons phdr phdrs ih =>
      rw [validateSegments, List.forall_mem_cons, ← ih]
      cases validateSegmentAlignment phdr <;> cases validateMemorySafety phdr fileSize memorySize <;> simp

theorem inBounds_validateSegments {fileSize : UInt64} : InBounds (validateSegments fileSize memorySize phdrs) := by
  induction phdrs with
  | nil => exact inBounds_ok _
  | cons phdr phdrs ih =>
      rw [validateSegments]
      split
      · exact inBounds_threw _
      · split
        · exact inBounds_threw _
        · exact ih

theorem validateKernel_ok_iff : validateKernel b enabled = .ok () ↔
    (enabled = true → ∃ requirements, KernelValidator.validateKernelBuffer b .kernel = .ok requirements ∧
      requirements.canBootKernel = true) := by
  cases enabled with
  | false => exact iff_of_true rfl fun h => by cases h
  | true =>
      rw [validateKernel, if_pos rfl, Fallible.bind_eq_ok]
      simp only [true_imp_iff, rethrow_eq_ok]
      refine exists_congr fun requirements => and_congr_right fun _ => ?_
      split
      · exact iff_of_true rfl ‹_›
      · rename_i hboot
        refine iff_of_false ?_ hboot
        intro h
        cases h

theorem inBounds_validateKernel (h : InBounds (KernelValidator.validateKernelBuffer b .kernel)) :
    InBounds (validateKernel b enabled) := by
  unfold validateKernel
  split
  · refine inBounds_bind.mpr ⟨inBounds_rethrow.mpr h, fun requirements _ => ?_⟩
    split
    · exact inBounds_ok _
    · exact inBounds_threw _
  · exact inBounds_ok _

/-- The checks of `LoadBuffer` accept the file. -/
structure Accepted (b : ElfBuffer) (memorySize : UInt64) (enabled : Bool) : Prop where
  described : describeElfValidationFailure b = none
  entries : EntriesGo b
  executable : b.ehdr.e_type = ET_EXEC
  architecture : validateArchitecture b.ehdr = true
  entryPoint : validateEntryPoint b.ehdr b.phdrs = true
  kernel : enabled = true → ∃ requirements, KernelValidator.validateKernelBuffer b .kernel = .ok requirements ∧
    requirements.canBootKernel = true
  segments : ∀ phdr ∈ b.phdrs, validateSegmentAlignment phdr = true ∧ validateMemorySafety phdr b.size memorySize = true

theorem checkImage_ok_iff : checkImage b memorySize loader = .ok () ↔
    loader.header.e_type = ET_EXEC ∧ validateArchitecture loader.header = true ∧
      validateEntryPoint loader.header loader.programHeaders = true ∧
      validateKernel b loader.kernelValidationEnabled = .ok () ∧
      validateSegments b.size memorySize loader.programHeaders = .ok () := by
  unfold checkImage
  by_cases htype : loader.header.e_type = ET_EXEC
  · simp only [htype, ne_eq, not_true_eq_false, if_false, true_and]
    cases validateArchitecture loader.header
    · simp
    · cases validateEntryPoint loader.header loader.programHeaders
      · simp
      · simp only [Bool.not_true, Bool.false_eq_true, if_false, true_and, Fallible.bind_eq_ok]
        exact ⟨fun ⟨_, hkernel, hsegments⟩ => ⟨hkernel, hsegments⟩, fun ⟨hkernel, hsegments⟩ => ⟨(), hkernel, hsegments⟩⟩
  · simp [htype]

theorem long_of_described (h : describeElfValidationFailure b = none) : ehdrSize ≤ b.bytes.length := by
  by_contra hshort
  rw [describeElfValidationFailure, if_pos (ElfBuffer.size_lt_ehdr.mpr hshort)] at h
  cases h

/-- The kernel validator reads the entries that `ParseHeader` has read. -/
theorem inBounds_kernel_of_go {mode : ValidationMode} (hlong : ehdrSize ≤ b.bytes.length) (hfits : TableFits b)
    (hgo : EntriesGo b) : InBounds (KernelValidator.validateKernelBuffer b mode) := by
  refine KernelValidator.inBounds_validateKernelBuffer.mpr fun _ _ hphoff hphnum hpasses => ?_
  refine (KernelValidator.entries_inside_iff (UInt16.lt_iff_toNat_lt.mp hphnum) hpasses).mp fun i hi => ?_
  have hall := hgo hphoff
  have hentry := hfits hlong hphoff i hi fun j hj => hall j (by omega)
  exact (inside_entry (hall i hi).1).mpr (hentry (hall i hi).1).1

theorem prepare_eq (h : describeElfValidationFailure b = none) :
    loader.prepare b memorySize = (rethrow .string (loader.cleared.parseHeader b) >>= fun parsed =>
      if !parsed.1 then .error (.threw (.runtimeError "failed to parse ELF header/program headers"))
      else (parsed.2.checkImage b memorySize).map fun _ => parsed.2) := by
  rw [prepare, h]
  rfl

theorem inBounds_checkImage (h : InBounds (KernelValidator.validateKernelBuffer b .kernel)) :
    InBounds (checkImage b memorySize loader) := by
  unfold checkImage
  dsimp only
  split
  · exact inBounds_threw _
  · split
    · exact inBounds_threw _
    · split
      · exact inBounds_threw _
      · exact inBounds_bind.mpr ⟨inBounds_validateKernel h, fun _ _ => inBounds_validateSegments⟩

/-- **The checks read inside the file** if `ParseHeader` does. -/
theorem inBounds_prepare :
    InBounds (loader.prepare b memorySize) ↔ (describeElfValidationFailure b = none → TableFits b) := by
  cases hdescribed : describeElfValidationFailure b with
  | some failure =>
      rw [prepare, hdescribed]
      exact iff_of_true (inBounds_threw _) fun h => by cases h
  | none =>
      have hlong := long_of_described hdescribed
      rw [prepare_eq hdescribed, inBounds_bind, inBounds_rethrow, inBounds_parseHeader]
      refine ⟨fun h _ => h.1, fun hfits => ⟨hfits rfl, fun parsed hparsed => ?_⟩⟩
      obtain ⟨accepted, loader'⟩ := parsed
      cases accepted with
      | false => exact inBounds_threw _
      | true =>
          have hgo := (parseHeader_ok hlong (hfits rfl) (rethrow_eq_ok.mp hparsed)).1
          show InBounds (Except.map _ (loader'.checkImage b memorySize))
          exact inBounds_map.mpr (inBounds_checkImage (inBounds_kernel_of_go hlong (hfits rfl) hgo))

/-- **What passes the checks** is accepted, and the loader has the headers of the file. -/
theorem prepare_ok (hfits : describeElfValidationFailure b = none → TableFits b)
    (h : loader.prepare b memorySize = .ok loader') :
    Accepted b memorySize loader.kernelValidationEnabled ∧ (∃ i, Copied b i loader.kernelValidationEnabled loader') ∧
      loader'.programHeaders = b.phdrs := by
  cases hdescribed : describeElfValidationFailure b with
  | some failure =>
      rw [prepare, hdescribed] at h
      cases h
  | none =>
      rw [prepare_eq hdescribed] at h
      obtain ⟨⟨accepted, loader''⟩, hparsed, h⟩ := Fallible.bind_eq_ok.mp h
      cases accepted with
      | false => cases h
      | true =>
          obtain ⟨done, hchecked, rfl⟩ := Fallible.map_eq_ok.mp h
          obtain ⟨hgo, i, hcopied, hphdrs⟩ :=
            parseHeader_ok (long_of_described hdescribed) (hfits hdescribed) (rethrow_eq_ok.mp hparsed)
          obtain ⟨htype, harch, hentry, hkernel, hsegments⟩ := checkImage_ok_iff.mp hchecked
          rw [hcopied.header] at htype harch hentry
          rw [hphdrs] at hentry hsegments
          rw [hcopied.enabled] at hkernel
          exact ⟨⟨hdescribed, hgo, htype, harch, hentry, validateKernel_ok_iff.mp hkernel,
            validateSegments_ok_iff.mp hsegments⟩, ⟨i, hcopied⟩, hphdrs⟩

/-- **What is accepted** passes the checks. -/
theorem prepare_of_accepted (hfits : TableFits b) (h : Accepted b memorySize loader.kernelValidationEnabled) :
    ∃ loader', loader.prepare b memorySize = .ok loader' := by
  have hlong := long_of_described h.described
  obtain ⟨loader', hparsed⟩ := @parseHeader_of_go b loader.cleared hlong hfits h.entries
  obtain ⟨-, i, hcopied, hphdrs⟩ := parseHeader_ok hlong hfits hparsed
  have hchecked : loader'.checkImage b memorySize = .ok () := by
    rw [checkImage_ok_iff, hcopied.header, hcopied.enabled, hphdrs]
    exact ⟨h.executable, h.architecture, h.entryPoint, validateKernel_ok_iff.mpr h.kernel,
      validateSegments_ok_iff.mpr h.segments⟩
  refine ⟨loader', ?_⟩
  rw [prepare_eq h.described, rethrow_eq_ok.mpr hparsed]
  show Except.map _ (loader'.checkImage b memorySize) = _
  rw [hchecked]
  rfl

/-! ## The entry point -/

/-- The entry point lies in a segment that is executable. -/
def EntryExecutable (b : ElfBuffer) : Prop :=
  ∃ phdr ∈ b.phdrs, phdr.p_type = PT_LOAD ∧ phdr.p_flags &&& PF_X ≠ 0 ∧
    phdr.p_vaddr.toNat ≤ b.ehdr.e_entry.toNat ∧
    b.ehdr.e_entry.toNat < phdr.p_vaddr.toNat + phdr.p_memsz.toNat

theorem mem_of_executableEntry {entryPoint : UInt64} (h : executableEntry entryPoint phdrs = true) :
    ∃ phdr ∈ phdrs, phdr.p_type = PT_LOAD ∧ phdr.p_flags &&& PF_X ≠ 0 ∧ phdr.p_vaddr ≤ entryPoint ∧
      entryPoint < phdr.p_vaddr + phdr.p_memsz := by
  induction phdrs with
  | nil => cases h
  | cons phdr phdrs ih =>
      rw [executableEntry] at h
      split at h
      · rename_i hin
        exact ⟨phdr, List.mem_cons_self, hin.1, of_decide_eq_true h, hin.2⟩
      · obtain ⟨phdr', hmem, hspec⟩ := ih h
        exact ⟨phdr', List.mem_cons_of_mem _ hmem, hspec⟩

/-- The entry point of what is accepted. -/
theorem entryExecutable_of_accepted {memorySize : Nat} (hsize : memorySize < 2 ^ 64)
    (h : Accepted b (UInt64.ofNat memorySize) enabled) : EntryExecutable b ∧ SegmentsFit b memorySize b.phdrs := by
  have hfit : SegmentsFit b memorySize b.phdrs := fun phdr hphdr hload =>
    segmentFits_of_valid hsize hload (h.segments phdr hphdr).1 (h.segments phdr hphdr).2
  have hentry := h.entryPoint
  unfold validateEntryPoint at hentry
  split at hentry
  · have htype := of_decide_eq_true hentry
    rw [h.executable] at htype
    exact absurd htype (by decide)
  · split at hentry
    · cases hentry
    · obtain ⟨phdr, hmem, hload, hflags, hlow, hhigh⟩ := mem_of_executableEntry hentry
      refine ⟨⟨phdr, hmem, hload, hflags, UInt64.le_iff_toNat_le.mp hlow, ?_⟩, hfit⟩
      have hmemory := (hfit phdr hmem hload).memory
      rw [UInt64.le_iff_toNat_le] at hlow
      rw [UInt64.lt_iff_toNat_lt, UInt64.toNat_add] at hhigh
      omega

/-! ## The load -/

/-- A load that returns has applied the segments and set the processor to the entry point. -/
structure Loaded (b : ElfBuffer) (memory memory' : Memory D) (cpu : CPUState) : Prop where
  ram : memory'.ram.data = applyAll memory.ram.data (b.segmentPatches b.phdrs)
  mmu : memory'.mmu = memory.mmu
  devices : memory'.devices = memory.devices
  ip : cpu.ip = b.ehdr.e_entry
  entry : EntryExecutable b

/-- A load that returns is exact; one that throws leaves memory and processor alone; none reads outside the file. -/
def ExactAndAtomic (b : ElfBuffer) (memory : Memory D) (cpu : CPUState)
    (r : Checked ElfError (UInt64 × ELFLoader) × Memory D × CPUState) : Prop :=
  match r.1 with
  | .ok loaded => loaded.1 = b.ehdr.e_entry ∧ Loaded b memory r.2.1 r.2.2
  | .error .outside => False
  | .error (.threw _) => r.2 = (memory, cpu)

/-- `ParseHeader` reads inside the file; and if a segment of an accepted file is past its end, then the segments in front
    of the first such one write what memory holds. -/
structure LoadsCleanly (b : ElfBuffer) (enabled : Bool) (memory : Memory D) : Prop where
  table : describeElfValidationFailure b = none → TableFits b
  late : Accepted b (UInt64.ofNat memory.ram.data.length) enabled → ∀ before phdr after,
    b.phdrs = before ++ phdr :: after → (∀ earlier ∈ before, ¬ b.PastEnd earlier) → b.PastEnd phdr →
      applyAll memory.ram.data (b.segmentPatches before) = memory.ram.data

/-- `LoadSegments` of a file that is accepted. -/
theorem loadSegments_eq {i : Nat} (hcopied : Copied b i enabled loader) (hphdrs : loader.programHeaders = b.phdrs)
    (htype : b.ehdr.e_type = ET_EXEC) :
    loader.loadSegments b memory = ((loadAll b 0 b.phdrs memory).1.map fun segments =>
      (!segments.isEmpty, { loader with baseAddress := 0, segments := segments, entryPoint := b.ehdr.e_entry }),
      (loadAll b 0 b.phdrs memory).2) := by
  have hexec : loader.elfType ≠ ET_DYN := by
    rw [hcopied.type, htype]
    decide
  simp only [loadSegments, hexec, false_and, if_false, hcopied.base, hphdrs, hcopied.header]

/-- `LoadBuffer` of a file that passes the checks. -/
theorem loadBuffer_eq {cpu : CPUState} (hfits : describeElfValidationFailure b = none → TableFits b)
    (h : loader.prepare b (UInt64.ofNat memory.ram.data.length) = .ok loader') :
    loader.loadBuffer b memory cpu =
      match (loadAll b 0 b.phdrs memory).1 with
      | .error e => (.error e, (loadAll b 0 b.phdrs memory).2, cpu)
      | .ok [] =>
          (.error (.threw (.runtimeError "failed to load ELF segments")), (loadAll b 0 b.phdrs memory).2, cpu)
      | .ok (segment :: segments) =>
          (.ok (b.ehdr.e_entry, { loader' with
            baseAddress := 0
            segments := segment :: segments
            entryPoint := b.ehdr.e_entry
            isLoaded := true }),
          (loadAll b 0 b.phdrs memory).2, (initializeKernelBootstrapState { entryPoint := b.ehdr.e_entry }).1) := by
  obtain ⟨haccepted, ⟨i, hcopied⟩, hphdrs⟩ := prepare_ok hfits h
  rw [loadBuffer, h]
  dsimp only
  rw [loadSegments_eq hcopied hphdrs haccepted.executable]
  cases (loadAll b 0 b.phdrs memory).1 with
  | error e => rfl
  | ok segments => cases segments <;> rfl

/-- A load that stops at a segment past the end of the file leaves memory alone if and only if the segments in front of
    it do. -/
theorem exact_of_pastEnd {cpu : CPUState} {before after : List Phdr}
    (hfits : describeElfValidationFailure b = none → TableFits b)
    (h : loader.prepare b (UInt64.ofNat memory.ram.data.length) = .ok loader')
    (hsplit : b.phdrs = before ++ phdr :: after) (hbefore : ∀ earlier ∈ before, ¬ b.PastEnd earlier)
    (hpast : b.PastEnd phdr) :
    ExactAndAtomic b memory cpu (loader.loadBuffer b memory cpu) ↔
      applyAll memory.ram.data (b.segmentPatches before) = memory.ram.data := by
  have hfit := (entryExecutable_of_accepted memory.fits (prepare_ok hfits h).1).2
  have hfitBefore : SegmentsFit b memory.ram.data.length before := fun phdr hphdr =>
    hfit phdr (by rw [hsplit]; exact List.mem_append_left _ hphdr)
  obtain ⟨⟨e, hthrew⟩, hdata⟩ := @loadAll_pastEnd D b memory phdr before after hfitBefore hbefore hpast
  have hframe := @loadAll_frame D b memory b.phdrs
  rw [← hsplit] at hthrew hdata
  rw [loadBuffer_eq hfits h, hthrew]
  show ((loadAll b 0 b.phdrs memory).2, cpu) = (memory, cpu) ↔ _
  rw [← hdata]
  constructor
  · intro heq
    rw [(Prod.mk.inj heq).1]
  · intro heq
    rw [Memory.eq_of_ram heq hframe.1 hframe.2]

/-- **A load is exact and atomic** if and only if it reads inside the file and no segment that is past its end comes behind
    one that changes memory. -/
theorem loadBuffer_exact_iff (b : ElfBuffer) (loader : ELFLoader) (memory : Memory D) (cpu : CPUState) :
    ExactAndAtomic b memory cpu (loader.loadBuffer b memory cpu) ↔
      LoadsCleanly b loader.kernelValidationEnabled memory := by
  have hbounds := @inBounds_prepare b loader (UInt64.ofNat memory.ram.data.length)
  cases hprepare : loader.prepare b (UInt64.ofNat memory.ram.data.length) with
  | error fault =>
      have hrun : loader.loadBuffer b memory cpu = (.error fault, memory, cpu) := by rw [loadBuffer, hprepare]
      rw [hrun]
      rw [hprepare] at hbounds
      cases fault with
      | outside => exact iff_of_false id fun h => hbounds.mpr h.table rfl
      | threw e =>
          have hfits := hbounds.mp (inBounds_threw e)
          refine iff_of_true rfl ⟨hfits, fun haccepted => ?_⟩
          obtain ⟨loader', hok⟩ := prepare_of_accepted (hfits haccepted.described) haccepted
          rw [hprepare] at hok
          cases hok
  | ok loader' =>
      rw [hprepare] at hbounds
      have hfits := hbounds.mp (inBounds_ok loader')
      obtain ⟨haccepted, -, -⟩ := prepare_ok hfits hprepare
      constructor
      · intro hexact
        refine ⟨hfits, fun _ before phdr after hsplit hbefore hpast => ?_⟩
        exact (exact_of_pastEnd hfits hprepare hsplit hbefore hpast).mp hexact
      · intro hclean
        cases hfind : b.phdrs.find? fun phdr => decide (b.PastEnd phdr) with
        | some phdr =>
            obtain ⟨hpast, before, after, hsplit, hbefore⟩ := List.find?_eq_some_iff_append.mp hfind
            have hbefore : ∀ earlier ∈ before, ¬ b.PastEnd earlier := by simpa using hbefore
            have hpast := of_decide_eq_true hpast
            exact (exact_of_pastEnd hfits hprepare hsplit hbefore hpast).mpr
              (hclean.late haccepted before phdr after hsplit hbefore hpast)
        | none =>
            have hpast : ∀ phdr ∈ b.phdrs, ¬ b.PastEnd phdr := by simpa using List.find?_eq_none.mp hfind
            obtain ⟨hentry, hfit⟩ := entryExecutable_of_accepted memory.fits haccepted
            obtain ⟨segments, hok, hempty, hdata⟩ := loadAll_ok hfit hpast
            have hframe := @loadAll_frame D b memory b.phdrs
            rw [loadBuffer_eq hfits hprepare, hok]
            cases segments with
            | nil =>
                obtain ⟨phdr, hmem, hload, -⟩ := hentry
                exact absurd hload (hempty.mp rfl phdr hmem)
            | cons segment segments => exact ⟨rfl, hdata, hframe.1, hframe.2, rfl, hentry⟩

/-- An executable whose second segment has no bytes in the file and an offset behind its end. -/
@[irreducible] def lateRefusal : ElfBuffer where
  base := wrappedPath.base
  bytes := ELFMAG ++ [ELFCLASS64, ELFDATA2LSB, EV_CURRENT] ++ List.replicate 9 0 ++
    Words.bytesOfWord 2 2 ++ Words.bytesOfWord 2 50 ++ Words.bytesOfWord 4 1 ++ Words.bytesOfWord 8 16 ++
    Words.bytesOfWord 8 64 ++ List.replicate 12 0 ++
    Words.bytesOfWord 2 64 ++ Words.bytesOfWord 2 56 ++ Words.bytesOfWord 2 2 ++ List.replicate 6 0 ++
    Words.bytesOfWord 4 1 ++ Words.bytesOfWord 4 5 ++ Words.bytesOfWord 8 0 ++ Words.bytesOfWord 8 16 ++
    Words.bytesOfWord 8 0 ++ Words.bytesOfWord 8 16 ++ Words.bytesOfWord 8 16 ++ Words.bytesOfWord 8 1 ++
    Words.bytesOfWord 4 1 ++ Words.bytesOfWord 4 4 ++ Words.bytesOfWord 8 0x1000 ++ List.replicate 32 0 ++
    Words.bytesOfWord 8 1
  maxSize := wrappedPath.maxSize
  base_pos := wrappedPath.base_pos
  fits := by decide +kernel
  small := by decide +kernel
  maxSize_lt := wrappedPath.maxSize_lt

/-- 64 bytes without translation and devices. -/
def clearMemory : Memory Empty where
  ram := ⟨List.replicate 64 0⟩
  mmu := Memory.plainMmu
  devices := []
  fits := by
    rw [List.length_replicate]
    decide

def newLoader : ELFLoader := ⟨.ofBytes [], [], [], 0, 0, 0, 0, false, 0, false, [], false⟩

/-- **A load that throws** behind its first segment: the memory at the entry point has changed. -/
theorem loadBuffer_notAtomic : ¬ ∀ (b : ElfBuffer) (loader : ELFLoader) (memory : Memory Empty) (cpu : CPUState),
    ExactAndAtomic b memory cpu (loader.loadBuffer b memory cpu) := by
  intro h
  have hload := h lateRefusal newLoader clearMemory CPUState.reset
  have hthrew : isThrown (newLoader.loadBuffer lateRefusal clearMemory .reset).1 = true := by decide +kernel
  have hbyte : (newLoader.loadBuffer lateRefusal clearMemory .reset).2.1.ram.data[16]? = some 0x7F := by decide +kernel
  generalize newLoader.loadBuffer lateRefusal clearMemory .reset = r at hload hthrew hbyte
  obtain ⟨result, memory, cpu⟩ := r
  unfold isThrown at hthrew
  split at hthrew
  · next e herror =>
      subst herror
      have hsame : (memory, cpu) = (clearMemory, .reset) := hload
      obtain ⟨rfl, -⟩ := Prod.mk.inj hsame
      have hclear : clearMemory.ram.data[16]? ≠ some 0x7F := by decide +kernel
      exact hclear hbyte
  · cases hthrew

end ELFLoader

end GuideXOS.Loader
