import GuideXOS.Core.PagedMemory
import GuideXOS.Lib.Patches

/-!
# `RawWrites` — stores past the MMU

The loaders write guest RAM directly: `write<T>` and `loadBuffer` check the bounds of the byte array and copy. A loader
that writes without looking at what it writes over is a list of such stores, of which the first that is out of bounds
ends it (`writeAll`). A store is a patch of the array (`writeAll_ok_iff`, `data_writeAll`).
-/

namespace GuideXOS.Core
open Lib.Patches Lib.Words

/-- A store of `write<T>` or `loadBuffer`. -/
structure RawWrite where
  address : UInt64
  bytes : List UInt8

namespace RawWrite

/-- `write<uint64_t>`. -/
def word (address value : UInt64) : RawWrite := ⟨address, bytesOfWord 8 value⟩

variable (w : RawWrite)

def patch : Patch UInt8 := ⟨w.address.toNat, w.bytes⟩

@[simp] theorem start_patch : w.patch.start = w.address.toNat := rfl

@[simp] theorem data_patch : w.patch.data = w.bytes := rfl

@[simp] theorem length_word (address value : UInt64) : (word address value).bytes.length = 8 :=
  length_bytesOfWord 8 value

end RawWrite

namespace Memory
variable {D : Type _}

/-- **`loadBuffer`**, and `write<T>` of the bytes of a value. -/
def loadBuffer (m : Memory D) (w : RawWrite) : Except MemoryError (Memory D) :=
  if w.bytes.length = 0 then .ok m
  else (m.checkBounds w.address w.bytes.length).map fun _ => m.withRam (m.copyTo w.address w.bytes) (m.length_copyTo _ _)

/-- Stores one after the other: what the first that fails throws, and the memory they leave. -/
def writeAll (m : Memory D) : List RawWrite → Except MemoryError Unit × Memory D
  | [] => (.ok (), m)
  | w :: ws =>
      match m.loadBuffer w with
      | .error e => (.error e, m)
      | .ok m' => m'.writeAll ws

variable {m m' : Memory D} {w : RawWrite} {ws : List RawWrite}

theorem loadBuffer_ok (h : w.patch.Fits m.ram.data.length) :
    ∃ m', m.loadBuffer w = .ok m' ∧ m'.ram.data = w.patch.apply m.ram.data := by
  unfold loadBuffer
  by_cases hempty : w.bytes.length = 0
  · rw [if_pos hempty]
    exact ⟨m, rfl, (Patch.apply_nil (List.length_eq_zero_iff.mp hempty)).symm⟩
  · have hstop := h.resolve_left fun hnil => hempty (by rw [← w.data_patch, hnil]; rfl)
    rw [if_neg hempty, (checkBounds_eq_ok (Nat.pos_of_ne_zero hempty)).mpr hstop]
    refine ⟨_, rfl, ?_⟩
    show m.copyTo w.address w.bytes = _
    have hlength := Patch.length_apply h
    rw [copyTo, show m.ram.data.take w.address.toNat ++ w.bytes ++ m.ram.data.drop (w.address.toNat + w.bytes.length) =
      w.patch.apply m.ram.data from rfl, ← hlength, List.take_length]

theorem fits_of_loadBuffer (h : m.loadBuffer w = .ok m') : w.patch.Fits m.ram.data.length := by
  unfold loadBuffer at h
  by_cases hempty : w.bytes.length = 0
  · exact .inl (List.length_eq_zero_iff.mp hempty)
  · rw [if_neg hempty] at h
    cases hbounds : m.checkBounds w.address w.bytes.length with
    | error e =>
        rw [hbounds] at h
        cases h
    | ok done => exact .inr ((checkBounds_eq_ok (Nat.pos_of_ne_zero hempty)).mp hbounds)

/-- The stores succeed if and only if all of them lie in RAM. -/
theorem writeAll_ok_iff :
    (m.writeAll ws).1 = .ok () ↔ ∀ w ∈ ws, w.patch.Fits m.ram.data.length := by
  induction ws generalizing m with
  | nil => exact ⟨fun _ => List.forall_mem_nil _, fun _ => rfl⟩
  | cons w ws ih =>
      rw [List.forall_mem_cons, writeAll]
      constructor
      · intro h
        cases hload : m.loadBuffer w with
        | error e =>
            rw [hload] at h
            cases h
        | ok m' =>
            rw [hload] at h
            have hfits := fits_of_loadBuffer hload
            obtain ⟨m'', hload', hdata⟩ := loadBuffer_ok hfits
            obtain rfl := Except.ok.inj (hload.symm.trans hload')
            refine ⟨hfits, ?_⟩
            have hrest := ih.mp h
            rwa [hdata, Patch.length_apply hfits] at hrest
      · rintro ⟨hfits, hrest⟩
        obtain ⟨m', hload, hdata⟩ := loadBuffer_ok hfits
        rw [hload]
        exact ih.mpr (by rwa [hdata, Patch.length_apply hfits])

/-- Stores change nothing but RAM. -/
theorem writeAll_frame : (m.writeAll ws).2.mmu = m.mmu ∧ (m.writeAll ws).2.devices = m.devices := by
  induction ws generalizing m with
  | nil => exact ⟨rfl, rfl⟩
  | cons w ws ih =>
      rw [writeAll]
      cases hload : m.loadBuffer w with
      | error e => exact ⟨rfl, rfl⟩
      | ok m' =>
          have hsame : m'.mmu = m.mmu ∧ m'.devices = m.devices := by
            unfold loadBuffer at hload
            split at hload
            · cases hload
              exact ⟨rfl, rfl⟩
            · obtain ⟨-, -, rfl⟩ := Lib.Fallible.map_eq_ok.mp hload
              exact ⟨rfl, rfl⟩
          exact ⟨ih.1.trans hsame.1, ih.2.trans hsame.2⟩

/-- Memories with the same RAM, page table and devices. -/
theorem eq_of_ram (hram : m'.ram.data = m.ram.data) (hmmu : m'.mmu = m.mmu) (hdevices : m'.devices = m.devices) :
    m' = m := by
  obtain ⟨⟨data⟩, mmu, devices, fits⟩ := m
  obtain ⟨⟨data'⟩, mmu', devices', fits'⟩ := m'
  subst hram hmmu hdevices
  rfl

/-- **Stores that succeed** are patches of RAM. -/
theorem data_writeAll (h : ∀ w ∈ ws, w.patch.Fits m.ram.data.length) :
    (m.writeAll ws).2.ram.data = applyAll m.ram.data (ws.map RawWrite.patch) := by
  induction ws generalizing m with
  | nil => rfl
  | cons w ws ih =>
      obtain ⟨hfits, hrest⟩ := List.forall_mem_cons.mp h
      obtain ⟨m', hload, hdata⟩ := loadBuffer_ok hfits
      rw [writeAll, hload, List.map_cons, applyAll_cons, ← hdata]
      exact ih (by rwa [hdata, Patch.length_apply hfits])

end Memory

end GuideXOS.Core
