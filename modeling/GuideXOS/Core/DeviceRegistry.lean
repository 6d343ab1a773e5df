import GuideXOS.Core.PagedMemory
import Mathlib.Data.List.Nodup

/-!
# `DeviceRegistry` — which device answers an access

Devices are registered with the memory and answer the accesses that lie in their ranges. A new device is compared with
every registered one by the words `base` and `base + size`, and an access is given to the first device whose range
holds it by the same words. For ranges that end below `2 ^ 64` both tests say what they mean.

A range that reaches the end of the address space has a small `base + size`. It passes the comparison with the ranges
it meets, and holds no access at all: such a device never answers. `answers_run_iff` says that this is all that can go
wrong.
-/

namespace GuideXOS.Core
open Lib.Runs Lib.Words

namespace Memory
variable {D : Type _} [IMemoryMappedDevice D]

/-- The comparison in **`RegisterDevice`**. -/
def overlaps (device existing : D) : Bool :=
  let existingEnd := IMemoryMappedDevice.getBaseAddress existing + IMemoryMappedDevice.getSize existing
  let deviceEnd := IMemoryMappedDevice.getBaseAddress device + IMemoryMappedDevice.getSize device
  decide (IMemoryMappedDevice.getBaseAddress device < existingEnd) &&
    decide (IMemoryMappedDevice.getBaseAddress existing < deviceEnd)

section Registering
variable [DecidableEq D]

/-- The loop of **`RegisterDevice`**: whether the device is registered already. -/
def findRegistered (device : D) : List D → Except String Bool
  | [] => .ok false
  | existing :: rest =>
      if existing = device then .ok true
      else if overlaps device existing then .error "Memory-mapped device range overlaps an existing device"
      else findRegistered device rest

variable (m : Memory D)

/-- **`RegisterDevice`**, of a pointer. -/
def registerDevice : Option D → Except String (Memory D)
  | none => .error "Device pointer cannot be null"
  | some device =>
      match findRegistered device m.devices with
      | .error e => .error e
      | .ok true => .ok m
      | .ok false => .ok { m with devices := m.devices ++ [device] }

/-- **`UnregisterDevice`**. -/
def unregisterDevice : Option D → Bool × Memory D
  | none => (false, m)
  | some device => if device ∈ m.devices then (true, { m with devices := m.devices.erase device }) else (false, m)

/-- The calls. An exception leaves the devices as they are. -/
inductive DeviceOp (D : Type _)
  | registerDevice (device : Option D)
  | unregisterDevice (device : Option D)

def deviceStep : DeviceOp D → Memory D
  | .registerDevice device =>
      match m.registerDevice device with
      | .ok m' => m'
      | .error _ => m
  | .unregisterDevice device => (m.unregisterDevice device).2

end Registering

/-! ## Who answers -/

/-- The address lies in the device's range, which goes around the address space where it is long enough. -/
def InRange (device : D) (address : UInt64) : Prop :=
  address - IMemoryMappedDevice.getBaseAddress device < IMemoryMappedDevice.getSize device

/-- The device claims an access: every byte of it lies in its range. -/
def Claims (device : D) (address : UInt64) (size : Nat) : Prop :=
  0 < size ∧ ∀ i < size, InRange device (address + UInt64.ofNat i)

/-- The range ends within the address space. -/
def FitsBelow (device : D) : Prop :=
  (IMemoryMappedDevice.getBaseAddress device).toNat + (IMemoryMappedDevice.getSize device).toNat < 2 ^ 64

/-- The device that `tryDeviceRead` and `tryDeviceWrite` ask. -/
def answering (m : Memory D) (address : UInt64) (size : Nat) : Option D :=
  m.devices.find? (handlesRange · address size)

/-- **At most one device answers an access**: the ranges share no address, and the device that claims an access is
    asked, alone, with its answer as the answer of the memory. -/
structure AtMostOneAnswers (m : Memory D) : Prop where
  disjoint : m.devices.Pairwise fun d e => ∀ x, ¬ (InRange d x ∧ InRange e x)
  routed : ∀ d ∈ m.devices, ∀ address size, Claims d address size → m.answering address size = some d
  only : ∀ d ∈ m.devices, ∀ address size, Claims d address size → ∀ e ∈ m.devices, handlesRange e address size = true → e = d
  read : ∀ d ∈ m.devices, ∀ address (dest : List UInt8), Claims d address dest.length →
    ∀ bytes, IMemoryMappedDevice.read d address dest.length = some bytes → m.read address dest = .ok bytes
  write : ∀ d ∈ m.devices, ∀ address (src : List UInt8), Claims d address src.length →
    (IMemoryMappedDevice.write d address src).1 = true →
      (m.write address src).1 = .ok () ∧ (m.write address src).2.ram = m.ram

variable {m : Memory D} {d e : D} {address : UInt64} {size : Nat}

/-- Its end is a word. -/
theorem FitsBelow.toNat_end (h : FitsBelow d) :
    (IMemoryMappedDevice.getBaseAddress d + IMemoryMappedDevice.getSize d).toNat =
      (IMemoryMappedDevice.getBaseAddress d).toNat + (IMemoryMappedDevice.getSize d).toNat := by
  rw [UInt64.toNat_add]
  exact Nat.mod_eq_of_lt h

theorem inRange_iff (h : FitsBelow d) : InRange d address ↔
    (IMemoryMappedDevice.getBaseAddress d).toNat ≤ address.toNat ∧
      address.toNat < (IMemoryMappedDevice.getBaseAddress d).toNat + (IMemoryMappedDevice.getSize d).toNat := by
  have haddress := address.toNat_lt
  have hbase := (IMemoryMappedDevice.getBaseAddress d).toNat_lt
  unfold FitsBelow at h
  rw [InRange, UInt64.lt_iff_toNat_lt, UInt64.toNat_sub]
  omega

/-- **What a device handles are its claims**, if its range ends within the address space. -/
theorem handlesRange_iff_claims (h : FitsBelow d) (hsize : size < 2 ^ 64) :
    handlesRange d address size = true ↔ Claims d address size := by
  have haddress := address.toNat_lt
  have hend : (address + UInt64.ofNat size).toNat = (address.toNat + size) % 2 ^ 64 := by
    rw [UInt64.toNat_add, UInt64.toNat_ofNat_of_lt' (by rw [UInt64.size]; omega)]
  have hbyte : ∀ i < size, (address + UInt64.ofNat i).toNat = (address.toNat + i) % 2 ^ 64 := by
    intro i hi
    rw [UInt64.toNat_add, UInt64.toNat_ofNat_of_lt' (by rw [UInt64.size]; omega)]
  have hlimit := h
  unfold FitsBelow at hlimit
  unfold handlesRange Claims
  dsimp only
  rw [Bool.and_eq_true, Bool.and_eq_true, Bool.and_eq_true, decide_eq_true_iff, decide_eq_true_iff, decide_eq_true_iff,
    bne_iff_ne, UInt64.le_iff_toNat_le, UInt64.le_iff_toNat_le, UInt64.le_iff_toNat_le, h.toNat_end, hend]
  constructor
  · rintro ⟨⟨⟨hpos, hbase⟩, hwrap⟩, hle⟩
    refine ⟨Nat.pos_of_ne_zero hpos, fun i hi => (inRange_iff h).mpr ?_⟩
    rw [hbyte i hi]
    omega
  · rintro ⟨hpos, hall⟩
    -- a byte past the end of the range would not be in it
    have hfirst := (inRange_iff h).mp (hall 0 hpos)
    rw [hbyte 0 hpos] at hfirst
    have hinside : address.toNat + size ≤
        (IMemoryMappedDevice.getBaseAddress d).toNat + (IMemoryMappedDevice.getSize d).toNat := by
      by_contra hpast
      have hlt : (IMemoryMappedDevice.getBaseAddress d).toNat + (IMemoryMappedDevice.getSize d).toNat -
          address.toNat < size := by omega
      have hin := (inRange_iff h).mp (hall _ hlt)
      rw [hbyte _ hlt] at hin
      omega
    omega

/-- Its own claims take less than the address space. -/
theorem Claims.size_lt (h : FitsBelow d) (hclaims : Claims d address size) : size < 2 ^ 64 := by
  by_contra hlarge
  -- the address just past the range would be claimed
  let past : UInt64 := IMemoryMappedDevice.getBaseAddress d + IMemoryMappedDevice.getSize d
  have hlt : (past - address).toNat < size := by
    have hword := (past - address).toNat_lt
    omega
  have hin := hclaims.2 _ hlt
  have hpast : address + UInt64.ofNat (past - address).toNat = past := by
    rw [UInt64.ofNat_toNat]
    grind
  rw [hpast, inRange_iff h] at hin
  have hvalue : past.toNat = _ := h.toNat_end
  omega

/-- A range that reaches the end of the address space handles nothing. -/
theorem fitsBelow_of_handlesRange (hsize : size < 2 ^ 64) (h : handlesRange d address size = true) : FitsBelow d := by
  have haddress := address.toNat_lt
  have hbase := (IMemoryMappedDevice.getBaseAddress d).toNat_lt
  have hlength := (IMemoryMappedDevice.getSize d).toNat_lt
  unfold handlesRange at h
  dsimp only at h
  rw [Bool.and_eq_true, Bool.and_eq_true, Bool.and_eq_true, decide_eq_true_iff, decide_eq_true_iff, decide_eq_true_iff,
    bne_iff_ne, UInt64.le_iff_toNat_le, UInt64.le_iff_toNat_le, UInt64.le_iff_toNat_le, UInt64.toNat_add,
    UInt64.toNat_add, UInt64.toNat_ofNat_of_lt' (by rw [UInt64.size]; omega)] at h
  unfold FitsBelow
  omega

theorem claims_first (h : ¬ FitsBelow d) : Claims d (IMemoryMappedDevice.getBaseAddress d) 1 := by
  have hbase := (IMemoryMappedDevice.getBaseAddress d).toNat_lt
  unfold FitsBelow at h
  refine ⟨Nat.one_pos, fun i hi => ?_⟩
  obtain rfl : i = 0 := by omega
  have hself : IMemoryMappedDevice.getBaseAddress d + UInt64.ofNat 0 - IMemoryMappedDevice.getBaseAddress d = 0 := by
    have hzero : UInt64.ofNat 0 = 0 := rfl
    rw [hzero]
    grind
  rw [InRange, hself, UInt64.lt_iff_toNat_lt, UInt64.toNat_zero]
  omega

/-! ## What is registered -/

/-- **The comparison is right** for two ranges that end within the address space. -/
theorem disjoint_of_overlaps_eq_false (hd : FitsBelow d) (he : FitsBelow e) (h : overlaps e d = false) (x : UInt64) :
    ¬ (InRange d x ∧ InRange e x) := by
  rintro ⟨hxd, hxe⟩
  rw [inRange_iff hd] at hxd
  rw [inRange_iff he] at hxe
  unfold overlaps at h
  rw [Bool.and_eq_false_iff, decide_eq_false_iff_not, decide_eq_false_iff_not, UInt64.lt_iff_toNat_lt,
    UInt64.lt_iff_toNat_lt, hd.toNat_end, he.toNat_end] at h
  omega

/-- What the registered devices have passed, whatever their ranges. -/
structure Registered (m : Memory D) : Prop where
  nodup : m.devices.Nodup
  compared : m.devices.Pairwise fun d e => overlaps e d = false

/-- No access is handled by two devices. -/
theorem Registered.handles_unique (h : Registered m) (hsize : size < 2 ^ 64) (hd : d ∈ m.devices) (he : e ∈ m.devices)
    (hhd : handlesRange d address size = true) (hhe : handlesRange e address size = true) : d = e := by
  have hfd := fitsBelow_of_handlesRange hsize hhd
  have hfe := fitsBelow_of_handlesRange hsize hhe
  have hcd := (handlesRange_iff_claims hfd hsize).mp hhd
  have hce := (handlesRange_iff_claims hfe hsize).mp hhe
  have hxd := hcd.2 0 hcd.1
  have hxe := hce.2 0 hce.1
  by_contra hne
  have hcases : overlaps e d = false ∨ overlaps d e = false := by
    obtain ⟨i, hi, rfl⟩ := List.getElem_of_mem hd
    obtain ⟨j, hj, rfl⟩ := List.getElem_of_mem he
    rcases Nat.lt_trichotomy i j with hij | rfl | hji
    · exact .inl (List.pairwise_iff_getElem.mp h.compared i j hi hj hij)
    · exact absurd rfl hne
    · exact .inr (List.pairwise_iff_getElem.mp h.compared j i hj hi hji)
  rcases hcases with hcompared | hcompared
  · exact disjoint_of_overlaps_eq_false hfd hfe hcompared _ ⟨hxd, hxe⟩
  · exact disjoint_of_overlaps_eq_false hfe hfd hcompared _ ⟨hxe, hxd⟩

theorem answering_eq_some (h : m.answering address size = some d) :
    d ∈ m.devices ∧ handlesRange d address size = true :=
  ⟨List.mem_of_find?_eq_some h, List.find?_some (p := fun device => handlesRange device address size) h⟩

/-- A write takes the answer of the device that is asked. -/
theorem writeFirst_fst {src : List UInt8} {devices : List D}
    (h : devices.find? (handlesRange · address src.length) = some d) :
    (writeFirst address src devices).1 = (IMemoryMappedDevice.write d address src).1 := by
  induction devices with
  | nil => cases h
  | cons device rest ih =>
      rw [List.find?_cons] at h
      unfold writeFirst
      by_cases hhandles : handlesRange device address src.length = true
      · rw [hhandles] at h
        obtain rfl := Option.some.inj h
        rw [if_pos hhandles]
      · rw [Bool.not_eq_true] at hhandles
        rw [hhandles] at h
        rw [hhandles, if_neg Bool.false_ne_true]
        exact ih h

/-- A device that is asked is asked alone, and its answer is the memory's. -/
theorem atMostOneAnswers_of_routed
    (hdisjoint : m.devices.Pairwise fun d e => ∀ x, ¬ (InRange d x ∧ InRange e x))
    (hrouted : ∀ d ∈ m.devices, ∀ address size, Claims d address size →
      m.answering address size = some d ∧ ∀ e ∈ m.devices, handlesRange e address size = true → e = d) :
    AtMostOneAnswers m := by
  refine ⟨hdisjoint, fun d hd address size hclaims => (hrouted d hd address size hclaims).1,
    fun d hd address size hclaims => (hrouted d hd address size hclaims).2, ?_, ?_⟩
  · intro d hd address dest hclaims bytes hbytes
    have hask := (hrouted d hd address _ hclaims).1
    unfold answering at hask
    unfold Memory.read tryDeviceRead
    rw [if_neg (Nat.ne_of_gt hclaims.1), hask, Option.bind_some, hbytes]
  · intro d hd address src hclaims hanswer
    have hask := (hrouted d hd address _ hclaims).1
    unfold answering at hask
    unfold Memory.write tryDeviceWrite
    rw [if_neg (Nat.ne_of_gt hclaims.1)]
    dsimp only
    rw [writeFirst_fst hask, if_pos hanswer]
    exact ⟨rfl, rfl⟩

/-- **Which registries are right**: those in which every range ends within the address space. -/
theorem Registered.atMostOneAnswers_iff (h : Registered m) : AtMostOneAnswers m ↔ ∀ d ∈ m.devices, FitsBelow d := by
  constructor
  · -- a range that reaches the end is not asked about its first address
    intro hone d hd
    by_contra hlarge
    have hask := hone.routed d hd _ _ (claims_first hlarge)
    exact hlarge (fitsBelow_of_handlesRange (by decide) (answering_eq_some hask).2)
  · intro hfits
    refine atMostOneAnswers_of_routed ?_ ?_
    · refine h.compared.imp_of_mem fun {d e} hd he hcompared => ?_
      exact disjoint_of_overlaps_eq_false (hfits d hd) (hfits e he) hcompared
    · intro d hd address size hclaims
      have hsize := hclaims.size_lt (hfits d hd)
      have hhandles := (handlesRange_iff_claims (hfits d hd) hsize).mpr hclaims
      have hunique : ∀ e ∈ m.devices, handlesRange e address size = true → e = d :=
        fun e he hhe => h.handles_unique hsize he hd hhe hhandles
      refine ⟨?_, hunique⟩
      cases hask : m.answering address size with
      | none => exact absurd hhandles (List.find?_eq_none.mp hask d hd)
      | some e =>
          obtain ⟨he, hhe⟩ := answering_eq_some hask
          rw [hunique e he hhe]

/-! ## Runs -/

section Runs
variable [DecidableEq D]

theorem findRegistered_eq_false {l : List D} (h : findRegistered d l = .ok false) :
    d ∉ l ∧ ∀ e ∈ l, overlaps d e = false := by
  induction l with
  | nil => exact ⟨List.not_mem_nil, List.forall_mem_nil _⟩
  | cons existing rest ih =>
      unfold findRegistered at h
      split at h
      · cases h
      · rename_i hne
        split at h
        · cases h
        · rename_i hover
          obtain ⟨hmem, hall⟩ := ih h
          refine ⟨List.not_mem_cons_of_ne_of_not_mem (fun heq => hne heq.symm) hmem, List.forall_mem_cons.mpr ⟨?_, hall⟩⟩
          simpa using hover

/-- What a call does to the devices: nothing, one more behind the others, or one less. -/
theorem deviceStep_cases (m : Memory D) (op : DeviceOp D) :
    (deviceStep m op = m ∧ ∀ d, op = .registerDevice (some d) → findRegistered d m.devices ≠ .ok false) ∨
      (∃ d, op = .registerDevice (some d) ∧ findRegistered d m.devices = .ok false ∧
        (deviceStep m op).devices = m.devices ++ [d]) ∨
      ∃ d, op = .unregisterDevice (some d) ∧ (deviceStep m op).devices = m.devices.erase d := by
  cases op with
  | registerDevice device =>
      cases device with
      | none => exact .inl ⟨rfl, fun d heq => nomatch heq⟩
      | some d =>
          unfold deviceStep registerDevice
          dsimp only
          cases hfind : findRegistered d m.devices with
          | error e =>
              refine .inl ⟨rfl, fun d' heq => ?_⟩
              cases heq
              rw [hfind]
              exact fun h => nomatch h
          | ok found =>
              cases found with
              | true =>
                  refine .inl ⟨rfl, fun d' heq => ?_⟩
                  cases heq
                  rw [hfind]
                  exact fun h => nomatch h
              | false => exact .inr (.inl ⟨d, rfl, hfind, rfl⟩)
  | unregisterDevice device =>
      cases device with
      | none => exact .inl ⟨rfl, fun d heq => nomatch heq⟩
      | some d =>
          unfold deviceStep unregisterDevice
          dsimp only
          split
          · exact .inr (.inr ⟨d, rfl, rfl⟩)
          · exact .inl ⟨rfl, fun d' heq => nomatch heq⟩

theorem Registered.step (h : Registered m) (op : DeviceOp D) : Registered (deviceStep m op) := by
  rcases deviceStep_cases m op with ⟨hsame, _⟩ | ⟨d, _, hfind, hdevices⟩ | ⟨d, _, hdevices⟩
  · rwa [hsame]
  · obtain ⟨hmem, hcompared⟩ := findRegistered_eq_false hfind
    constructor
    · rw [hdevices]
      exact h.nodup.append (List.nodup_singleton d) (List.disjoint_singleton.mpr hmem)
    · rw [hdevices, List.pairwise_append]
      refine ⟨h.compared, List.pairwise_singleton _ d, fun e he e' he' => ?_⟩
      rw [List.mem_singleton.mp he']
      exact hcompared e he
  · constructor
    · rw [hdevices]
      exact h.nodup.erase d
    · rw [hdevices]
      exact h.compared.sublist List.erase_sublist

/-- A device that is added has a range within the address space. -/
def AddsBelow (m : Memory D) : DeviceOp D → Prop
  | .registerDevice (some d) => findRegistered d m.devices = .ok false → FitsBelow d
  | _ => True

/-- A call that adds only such a device keeps the ranges within the address space, and only such a call. -/
theorem fitsBelow_step_iff (h : ∀ d ∈ m.devices, FitsBelow d) (op : DeviceOp D) :
    (∀ d ∈ (deviceStep m op).devices, FitsBelow d) ↔ AddsBelow m op := by
  rcases deviceStep_cases m op with ⟨hsame, hnone⟩ | ⟨d, rfl, hfind, hdevices⟩ | ⟨d, rfl, hdevices⟩
  · rw [hsame]
    refine iff_of_true h ?_
    unfold AddsBelow
    split
    · rename_i d
      exact fun hfind => absurd hfind (hnone d rfl)
    · trivial
  · rw [hdevices]
    constructor
    · exact fun hall _ => hall d (List.mem_append_right _ (List.mem_singleton_self d))
    · intro hadds e he
      rcases List.mem_append.mp he with hold | hnew
      · exact h e hold
      · rw [List.mem_singleton.mp hnew]
        exact hadds hfind
  · refine iff_of_true (fun e he => h e ?_) trivial
    rw [hdevices] at he
    exact List.mem_of_mem_erase he

end Runs

/-! ## Devices at the end of the address space -/

/-- A device whose registers read zero and keep nothing. As the real ones it checks the range itself. -/
structure IdleDevice where
  baseAddress : UInt64
  size : UInt64
  deriving DecidableEq

def IdleDevice.handles (device : IdleDevice) (address : UInt64) (size : Nat) : Bool :=
  decide (device.baseAddress ≤ address ∧ address ≤ address + UInt64.ofNat size ∧
    address + UInt64.ofNat size ≤ device.baseAddress + device.size)

instance : IMemoryMappedDevice IdleDevice where
  getBaseAddress := IdleDevice.baseAddress
  getSize := IdleDevice.size
  read device address size := if device.handles address size then some (List.replicate size 0) else none
  write device address data := (device.handles address data.length, device)

def noDevices : Memory IdleDevice where
  ram := gapMemory.ram
  mmu := gapMmu
  devices := []
  fits := gapMemory.fits

end Memory

end GuideXOS.Core
