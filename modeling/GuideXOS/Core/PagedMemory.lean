import GuideXOS.Core.Mmu

/-!
# `PagedMemory` — RAM behind page tables and memory-mapped devices

An access goes to the first device whose range holds it, else to RAM. There it is checked and translated by
its first address alone, and its bytes are moved in one piece. `ReadsCells` and `WritesCells` say what the
page table asks for instead: every byte checked and translated by itself. The two meet exactly where the
pages of an access lie one behind another (`Straight`) or the access fails on its first page (`Refused`):
`memory_cells_iff`.
-/

namespace GuideXOS.Core
open Lib Lib.Fallible Lib.Stretches

class IMemoryMappedDevice (D : Type _) where
  getBaseAddress : D → UInt64
  getSize : D → UInt64
  /-- `none` where the device returns `false`. -/
  read : D → UInt64 → Nat → Option (List UInt8)
  write : D → UInt64 → List UInt8 → Bool × D

def handlesRange {D : Type _} [IMemoryMappedDevice D] (device : D) (address : UInt64) (size : Nat) : Bool :=
  let base := IMemoryMappedDevice.getBaseAddress device
  let limit := base + IMemoryMappedDevice.getSize device
  let requestEnd := address + UInt64.ofNat size
  size != 0 && decide (base ≤ address) && decide (address ≤ requestEnd) && decide (requestEnd ≤ limit)

inductive MemoryError where
  | pageFault (fault : PageFault)
  | outOfRange (what : String)
  | runtimeError (what : String)

/-- RAM is a byte vector, so its size is a machine word. -/
structure Memory (D : Type _) where
  ram : FlatMemory
  mmu : MMU
  devices : List D
  fits : ram.data.length < 2 ^ 64

namespace Memory

variable {D : Type _}

variable (m : Memory D) (accessType : MemoryAccessType)

/-- The memory with other bytes in its RAM. -/
def withRam (bytes : List UInt8) (h : bytes.length = m.ram.data.length) : Memory D :=
  { m with ram := ⟨bytes⟩, fits := h ▸ m.fits }

def checkBounds (m : Memory D) (address : UInt64) (size : Nat) : Except MemoryError Unit :=
  (m.ram.checkBounds address size).mapError .outOfRange

/-- The checks `mmuRead` and `mmuWrite` make before they copy, and the RAM address they copy at. -/
def physicalAddr (m : Memory D) (accessType : MemoryAccessType) (address : UInt64) (size : Nat) :
    Except MemoryError UInt64 := do
  m.checkBounds address size
  if m.mmu.enabled then
    (m.mmu.checkPermissionOrThrow address accessType).mapError .pageFault
    let physicalAddr ← (m.mmu.translateAddress address).mapError .pageFault
    m.checkBounds physicalAddr size
    return physicalAddr
  else
    return address

def hex (x : UInt64) : String := String.ofList (Nat.toDigits 16 x.toNat)

def copyFrom (address : UInt64) (size : Nat) : List UInt8 :=
  (m.ram.data.drop address.toNat).take size

/-- RAM with bytes copied over it; what runs past its end is cut. -/
def copyTo (address : UInt64) (src : List UInt8) : List UInt8 :=
  (m.ram.data.take address.toNat ++ src ++ m.ram.data.drop (address.toNat + src.length)).take m.ram.data.length

theorem length_copyTo (address : UInt64) (src : List UInt8) : (m.copyTo address src).length = m.ram.data.length := by
  unfold copyTo
  simp
  omega

/-- **`mmuRead`.** -/
def mmuRead (address : UInt64) (dest : List UInt8) : Except MemoryError (List UInt8) := do
  let physicalAddr ← m.physicalAddr .READ address dest.length
  if m.mmu.enabled && (m.mmu.invokeReadHooks address physicalAddr dest).isNone then
    .error (.runtimeError ("Memory read denied by hook at address 0x" ++ hex address))
  else
    return m.copyFrom physicalAddr dest.length

/-- **`mmuWrite`**, as the RAM it leaves. -/
def mmuWrite (address : UInt64) (src : List UInt8) : Except MemoryError (Memory D) := do
  let physicalAddr ← m.physicalAddr .WRITE address src.length
  let src ← if m.mmu.enabled then
      match m.mmu.invokeWriteHooks address physicalAddr src with
      | none => .error (.runtimeError ("Memory write denied by hook at address 0x" ++ hex address))
      | some src => .ok src
    else .ok src
  return m.withRam (m.copyTo physicalAddr src) (m.length_copyTo _ _)

section Devices
variable [IMemoryMappedDevice D]

def tryDeviceRead (m : Memory D) (address : UInt64) (size : Nat) : Option (List UInt8) :=
  (m.devices.find? (handlesRange · address size)).bind fun device => IMemoryMappedDevice.read device address size

def writeFirst (address : UInt64) (src : List UInt8) : List D → Bool × List D
  | [] => (false, [])
  | device :: devices =>
      if handlesRange device address src.length then
        let r := IMemoryMappedDevice.write device address src
        (r.1, r.2 :: devices)
      else
        let r := writeFirst address src devices
        (r.1, device :: r.2)

def tryDeviceWrite (m : Memory D) (address : UInt64) (src : List UInt8) : Bool × Memory D :=
  let r := writeFirst address src m.devices
  (r.1, { m with devices := r.2 })

/-- **`Read`** into a buffer. -/
def read (m : Memory D) (address : UInt64) (dest : List UInt8) : Except MemoryError (List UInt8) :=
  if dest.length = 0 then .ok dest
  else
    match m.tryDeviceRead address dest.length with
    | some bytes => .ok bytes
    | none => m.mmuRead address dest

/-- **`Write`**: what it throws, and the memory it leaves either way. -/
def write (m : Memory D) (address : UInt64) (src : List UInt8) : Except MemoryError Unit × Memory D :=
  if src.length = 0 then (.ok (), m)
  else
    let r := m.tryDeviceWrite address src
    if r.1 then (.ok (), r.2)
    else
      match r.2.mmuWrite address src with
      | .ok m' => (.ok (), m')
      | .error e => (.error e, r.2)

/-! ## Byte by byte -/

/-- **What the page table asks of a read**, whatever RAM holds: it succeeds exactly when the page of every byte
    lets it, and byte `i` comes from the RAM cell the address of byte `i` translates to. -/
def ReadsCells (m : Memory D) (address : UInt64) (size : Nat) : Prop :=
  ∀ (bytes dest : List UInt8) (h : bytes.length = m.ram.data.length), dest.length = size →
    ((∃ out, (m.withRam bytes h).read address dest = .ok out) ↔
      ∀ x ∈ consecutive address size, m.mmu.checkPermission x .READ = true) ∧
    ∀ out, (m.withRam bytes h).read address dest = .ok out →
      ∃ cells, m.mmu.translateEach address size = some cells ∧ readEach (⟨bytes⟩ : FlatMemory) cells = some out

/-- **What the page table asks of a write**: it succeeds exactly when the page of every byte lets it, byte `i`
    goes to the RAM cell the address of byte `i` translates to, and a write that fails leaves RAM alone. -/
def WritesCells (m : Memory D) (address : UInt64) (size : Nat) : Prop :=
  ∀ (bytes src : List UInt8) (h : bytes.length = m.ram.data.length), src.length = size →
    ((((m.withRam bytes h).write address src).1 = .ok ()) ↔
      ∀ x ∈ consecutive address size, m.mmu.checkPermission x .WRITE = true) ∧
    (((m.withRam bytes h).write address src).1 = .ok () →
      ∃ cells, m.mmu.translateEach address size = some cells ∧
        writeEach (⟨bytes⟩ : FlatMemory) (cells.zip src) = some ((m.withRam bytes h).write address src).2.ram) ∧
    ∀ e, ((m.withRam bytes h).write address src).1 = .error e →
      ((m.withRam bytes h).write address src).2.ram = ⟨bytes⟩

end Devices

/-- The access passes every check made on its first address and its length. -/
def Reaches (address : UInt64) (size : Nat) (cell : UInt64) : Prop :=
  address.toNat + size ≤ m.ram.data.length ∧ m.mmu.checkPermission address accessType = true ∧
    m.mmu.translateAddress address = .ok cell ∧ cell.toNat + size ≤ m.ram.data.length

/-- Every page of the access allows it, and they lie one behind another within RAM. -/
def Straight (address : UInt64) (size : Nat) : Prop :=
  (∀ x ∈ consecutive address size, m.mmu.checkPermission x accessType = true) ∧
    ∃ cell, m.Reaches accessType address size cell ∧
      m.mmu.translateEach address size = some (consecutive cell size)

/-- Some page of the access does not allow it, and its first address and its length already tell. -/
def Refused (address : UInt64) (size : Nat) : Prop :=
  (∃ x ∈ consecutive address size, m.mmu.checkPermission x accessType = false) ∧
    ∀ cell, ¬ m.Reaches accessType address size cell

/-! ## What the checks let through -/

section Checks
variable {m : Memory D} {t : MemoryAccessType} {a cell : UInt64} {n : Nat}

theorem checkBounds_eq_ok (hn : 0 < n) : m.checkBounds a n = .ok () ↔ a.toNat + n ≤ m.ram.data.length := by
  rw [checkBounds, mapError_eq_ok, FlatMemory.checkBounds]
  constructor
  · intro h
    split at h
    · cases h
    · split at h
      · cases h
      · omega
  · intro h
    rw [if_neg (by omega), if_neg (by omega)]

/-- **Every check is about the first address and the length.** -/
theorem physicalAddr_eq_ok (henabled : m.mmu.enabled = true) (hn : 0 < n) :
    m.physicalAddr t a n = .ok cell ↔ m.Reaches t a n cell := by
  unfold physicalAddr
  rw [henabled, if_pos rfl]
  constructor
  · intro h
    obtain ⟨_, hbounds, h⟩ := bind_eq_ok.mp h
    obtain ⟨_, hpermission, h⟩ := bind_eq_ok.mp h
    obtain ⟨pa, htranslate, h⟩ := bind_eq_ok.mp h
    obtain ⟨_, hphysical, h⟩ := bind_eq_ok.mp h
    obtain rfl := Except.ok.inj h
    exact ⟨(checkBounds_eq_ok hn).mp hbounds, MMU.checkPermissionOrThrow_eq_ok.mp (mapError_eq_ok.mp hpermission),
      mapError_eq_ok.mp htranslate, (checkBounds_eq_ok hn).mp hphysical⟩
  · rintro ⟨hbounds, hpermission, htranslate, hphysical⟩
    rw [(checkBounds_eq_ok hn).mpr hbounds, MMU.checkPermissionOrThrow_eq_ok.mpr hpermission, htranslate, ok_bind]
    show (m.checkBounds cell n >>= fun _ => pure cell) = _
    rw [(checkBounds_eq_ok hn).mpr hphysical]
    rfl

theorem reaches_withRam {bytes : List UInt8} {h : bytes.length = m.ram.data.length} :
    (m.withRam bytes h).Reaches t a n cell ↔ m.Reaches t a n cell := by
  show (_ ≤ bytes.length ∧ _ ∧ _ ∧ _ ≤ bytes.length) ↔ _
  rw [h]
  rfl

theorem mmuRead_eq (hhooks : m.mmu.Unhooked) (dest : List UInt8) :
    m.mmuRead a dest = (m.physicalAddr .READ a dest.length).map fun cell => m.copyFrom cell dest.length := by
  unfold mmuRead
  cases m.physicalAddr .READ a dest.length with
  | error e => rfl
  | ok cell =>
      rw [ok_bind, hhooks.invokeReadHooks, Option.isNone_some, Bool.and_false]
      rfl

theorem mmuWrite_eq (hhooks : m.mmu.Unhooked) (src : List UInt8) :
    m.mmuWrite a src =
      (m.physicalAddr .WRITE a src.length).map fun cell => m.withRam (m.copyTo cell src) (m.length_copyTo _ _) := by
  unfold mmuWrite
  cases m.physicalAddr .WRITE a src.length with
  | error e => rfl
  | ok cell =>
      rw [ok_bind, hhooks.invokeWriteHooks]
      cases m.mmu.enabled <;> rfl

end Checks

/-! ## Cells one by one -/

section Cells
variable {m : Memory D} {t : MemoryAccessType} {a cell : UInt64} {n : Nat} {bytes bytes' out : List UInt8}
  {cells : List UInt64} {l : List (UInt64 × UInt8)}

theorem getElem?_readEach (h : readEach (⟨bytes⟩ : FlatMemory) cells = some out) :
    out.length = cells.length ∧
      ∀ (i : Nat) (c : UInt64), cells[i]? = some c → ∃ b, bytes[c.toNat]? = some b ∧ out[i]? = some b := by
  obtain ⟨hlen, hall⟩ := getElem?_of_mapM h
  refine ⟨hlen, fun i c hc => ?_⟩
  obtain ⟨b, hb, hout⟩ := hall i c hc
  exact ⟨b, (FlatMemory.readByte_eq _ c).symm.trans hb, hout⟩

theorem writeByte_eq {ram ram' : FlatMemory} {c : UInt64} {b : UInt8}
    (h : (IMemory.write ram c [b]).toOption = some ram') :
    c.toNat < ram.data.length ∧ ram'.data = ram.data.set c.toNat b := by
  have hwrite := FlatMemory.write_toOption ram c [b]
  change (FlatMemory.write ram c [b]).toOption = _ at h
  rw [h] at hwrite
  by_cases hin : c.toNat < ram.data.length
  · rw [if_pos (.inr hin)] at hwrite
    refine ⟨hin, ?_⟩
    rw [Option.some.inj hwrite, List.set_eq_take_append_cons_drop, if_pos hin]
    simp
  · have hout : ¬ ([b] = [] ∨ c.toNat + [b].length ≤ ram.data.length) := by
      simp
      omega
    rw [if_neg hout] at hwrite
    cases hwrite

/-- What a cell holds after byte by byte writes was there, or was written there. -/
theorem getElem?_writeEach {ram ram' : FlatMemory} (h : writeEach ram l = some ram') {x : Nat} {b : UInt8}
    (hb : ram'.data[x]? = some b) : ram.data[x]? = some b ∨ ∃ e ∈ l, e.1.toNat = x ∧ e.2 = b := by
  induction l generalizing ram with
  | nil =>
      obtain rfl := Option.some.inj h
      exact .inl hb
  | cons e l ih =>
      rw [writeEach] at h
      obtain ⟨ram₁, hbyte, h⟩ := Option.bind_eq_some_iff.mp h
      obtain ⟨hin, hset⟩ := writeByte_eq hbyte
      rcases ih h with hold | ⟨e', he', hx⟩
      · rw [hset, List.getElem?_set] at hold
        split at hold
        · next hx =>
          exact .inr ⟨e, List.mem_cons_self, hx, Option.some.inj hold⟩
        · exact .inl hold
      · exact .inr ⟨e', List.mem_cons_of_mem e he', hx⟩

/-- The last byte written is there. -/
theorem getElem?_writeEach_last {ram ram' : FlatMemory} {e : UInt64 × UInt8}
    (h : writeEach ram (l ++ [e]) = some ram') : ram'.data[e.1.toNat]? = some e.2 := by
  rw [writeEach_append] at h
  obtain ⟨ram₁, -, h⟩ := Option.bind_eq_some_iff.mp h
  rw [writeEach] at h
  obtain ⟨ram₂, hbyte, h⟩ := Option.bind_eq_some_iff.mp h
  obtain rfl := Option.some.inj h
  obtain ⟨hin, hset⟩ := writeByte_eq hbyte
  rw [hset, List.getElem?_set, if_pos rfl, if_pos hin]

theorem getElem?_copyFrom {i : Nat} (hi : i < n) : (m.copyFrom cell n)[i]? = m.ram.data[cell.toNat + i]? := by
  rw [copyFrom, List.getElem?_take, if_pos hi, List.getElem?_drop]

theorem copyTo_eq {src : List UInt8} (h : cell.toNat + src.length ≤ m.ram.data.length) :
    m.copyTo cell src = m.ram.data.take cell.toNat ++ src ++ m.ram.data.drop (cell.toNat + src.length) := by
  refine List.take_of_length_le ?_
  simp
  omega

theorem getElem?_copyTo {src : List UInt8} {i : Nat} (h : cell.toNat + src.length ≤ m.ram.data.length)
    (hi : i < src.length) : (m.copyTo cell src)[cell.toNat + i]? = src[i]? := by
  have htake : (m.ram.data.take cell.toNat).length = cell.toNat := by
    rw [List.length_take]
    omega
  rw [copyTo_eq h, List.append_assoc, List.getElem?_append_right (by omega), htake, Nat.add_sub_cancel_left,
    List.getElem?_append_left hi]

theorem length_translateEach {mmu : MMU} (h : mmu.translateEach a n = some cells) :
    cells.length = n := (getElem?_of_mapM h).1.trans (length_consecutive a n)

/-- Cells that lie one behind another are a range. -/
theorem eq_consecutive (hlen : cells.length = n)
    (h : ∀ (i : Nat) (c : UInt64), cells[i]? = some c → c.toNat = cell.toNat + i) : cells = consecutive cell n := by
  refine List.ext_getElem? fun i => ?_
  by_cases hi : i < n
  · have hget : cells[i]? = some cells[i] := List.getElem?_eq_getElem (by omega)
    rw [hget, getElem?_consecutive cell hi]
    have hword := cells[i].toNat_lt
    have hc := h i _ hget
    refine congrArg some (UInt64.toNat_inj.mp ?_)
    rw [UInt64.toNat_add, UInt64.toNat_ofNat', Nat.mod_eq_of_lt (by omega : i < 2 ^ 64), Nat.mod_eq_of_lt (by omega)]
    exact hc
  · rw [List.getElem?_eq_none (by omega), List.getElem?_eq_none (by rw [length_consecutive]; omega)]

/-- One byte set in a RAM of zeros. -/
theorem eq_of_set_replicate {R x y : Nat} {b : UInt8} (hb : b ≠ 0)
    (h : ((List.replicate R 0).set y b)[x]? = some b) : x = y := by
  by_contra hne
  rw [List.getElem?_set_ne (Ne.symm hne), List.getElem?_replicate] at h
  split at h
  · exact hb (Option.some.inj h).symm
  · cases h

end Cells

/-! ## Reads -/

section Accesses
variable [IMemoryMappedDevice D] {m : Memory D} {t : MemoryAccessType} {a cell : UInt64} {n : Nat}
  {dest src : List UInt8}

/-- What a read does with RAM, once no device takes it. -/
theorem read_declined (m : Memory D) (a : UInt64) (dest : List UInt8) (henabled : m.mmu.enabled = true)
    (hhooks : m.mmu.Unhooked) (hpos : 0 < dest.length)
    (hdevice : m.tryDeviceRead a dest.length = none) :
    (∀ cell, m.Reaches .READ a dest.length cell → m.read a dest = .ok (m.copyFrom cell dest.length)) ∧
      ((∀ cell, ¬ m.Reaches .READ a dest.length cell) → ¬ ∃ out, m.read a dest = .ok out) := by
  have hread : m.read a dest = (m.physicalAddr .READ a dest.length).map fun cell => m.copyFrom cell dest.length := by
    unfold read
    rw [if_neg hpos.ne', hdevice]
    exact mmuRead_eq hhooks dest
  constructor
  · intro cell hreaches
    rw [hread, (physicalAddr_eq_ok henabled hpos).mpr hreaches]
    rfl
  · rintro hnever ⟨out, hout⟩
    rw [hread] at hout
    obtain ⟨cell, hcell, -⟩ := map_eq_ok.mp hout
    exact hnever cell ((physicalAddr_eq_ok henabled hpos).mp hcell)

/-- A device's bytes do not follow RAM. -/
theorem ReadsCells.no_device (h : m.ReadsCells a n) (hpos : 0 < n) : m.tryDeviceRead a n = none := by
  cases hdevice : m.tryDeviceRead a n with
  | none => rfl
  | some out =>
      have hbyte : ∀ b : UInt8, out[0]? = some b := by
        intro b
        have hlen : (List.replicate m.ram.data.length b).length = m.ram.data.length := List.length_replicate
        have hread : (m.withRam _ hlen).read a (List.replicate n 0) = .ok out := by
          unfold read
          rw [List.length_replicate, if_neg hpos.ne']
          have htaken : (m.withRam _ hlen).tryDeviceRead a n = some out := hdevice
          rw [htaken]
        obtain ⟨-, hcells⟩ := h _ (List.replicate n 0) hlen List.length_replicate
        obtain ⟨cells, htranslate, heach⟩ := hcells out hread
        have hlt : 0 < cells.length := by
          rw [length_translateEach htranslate]
          exact hpos
        have hcell : cells[0]? = some cells[0] := List.getElem?_eq_getElem hlt
        obtain ⟨b', hb', hout⟩ := (getElem?_readEach heach).2 0 _ hcell
        rw [List.getElem?_replicate] at hb'
        split at hb'
        · rwa [← Option.some.inj hb'] at hout
        · cases hb'
      exact absurd ((hbyte 0).symm.trans (hbyte 1)) (by decide)

section
variable (henabled : m.mmu.enabled = true) (hhooks : m.mmu.Unhooked) (hpos : 0 < n)
include henabled hhooks hpos

theorem ReadsCells.straight_or_refused (h : m.ReadsCells a n) : m.Straight .READ a n ∨ m.Refused .READ a n := by
  have hdevice := h.no_device hpos
  have hspec := fun (bytes : List UInt8) (hlen : bytes.length = m.ram.data.length) =>
    read_declined (m.withRam bytes hlen) a (List.replicate n 0) henabled hhooks
      (by rwa [List.length_replicate]) (by rw [List.length_replicate]; exact hdevice)
  simp only [List.length_replicate, reaches_withRam] at hspec
  by_cases hreach : ∃ cell, m.Reaches .READ a n cell
  · obtain ⟨cell, hreach⟩ := hreach
    have hgranted := (h m.ram.data _ rfl List.length_replicate).1.mp ⟨_, (hspec m.ram.data rfl).1 cell hreach⟩
    obtain ⟨cells, htranslate, -⟩ :=
      (h m.ram.data _ rfl List.length_replicate).2 _ ((hspec m.ram.data rfl).1 cell hreach)
    -- RAM with a single one tells where byte `i` really came from
    have hcells : cells = consecutive cell n := by
      refine eq_consecutive (length_translateEach htranslate) fun i c hc => ?_
      have hi : i < n := by
        have := (List.getElem?_eq_some_iff.mp hc).1
        rwa [length_translateEach htranslate] at this
      have hlen : ((List.replicate m.ram.data.length (0 : UInt8)).set (cell.toNat + i) 1).length =
          m.ram.data.length := by
        rw [List.length_set, List.length_replicate]
      have hread := (hspec _ hlen).1 cell hreach
      obtain ⟨cells', htranslate', heach⟩ := (h _ _ hlen List.length_replicate).2 _ hread
      obtain rfl : cells = cells' := Option.some.inj (htranslate.symm.trans htranslate')
      obtain ⟨b, hb, hout⟩ := (getElem?_readEach heach).2 i c hc
      have hin : cell.toNat + i < (List.replicate m.ram.data.length (0 : UInt8)).length := by
        rw [List.length_replicate]
        have := hreach.2.2.2
        omega
      rw [getElem?_copyFrom hi] at hout
      change ((List.replicate m.ram.data.length (0 : UInt8)).set (cell.toNat + i) 1)[cell.toNat + i]? = _ at hout
      rw [List.getElem?_set_self hin] at hout
      obtain rfl := Option.some.inj hout
      exact eq_of_set_replicate (by decide) hb
    exact .inl ⟨hgranted, cell, hreach, htranslate.trans (congrArg some hcells)⟩
  · have hnever : ∀ cell, ¬ m.Reaches .READ a n cell := fun cell hcell => hreach ⟨cell, hcell⟩
    have hnot := mt (h m.ram.data _ rfl List.length_replicate).1.mpr ((hspec m.ram.data rfl).2 hnever)
    simp only [not_forall, Bool.not_eq_true] at hnot
    obtain ⟨x, hx, hdenied⟩ := hnot
    exact .inr ⟨⟨x, hx, hdenied⟩, hnever⟩

theorem readsCells_of_straight
    (hdevice : m.tryDeviceRead a n = none) (h : m.Straight .READ a n) : m.ReadsCells a n := by
  obtain ⟨hgranted, cell, hreach, htranslate⟩ := h
  intro bytes dest hlen hdest
  subst hdest
  have hread := (read_declined (m.withRam bytes hlen) _ _ henabled hhooks hpos hdevice).1 cell
    (reaches_withRam.mpr hreach)
  refine ⟨⟨fun _ => hgranted, fun _ => ⟨_, hread⟩⟩, fun out hout => ⟨_, htranslate, ?_⟩⟩
  obtain rfl := Except.ok.inj (hread.symm.trans hout)
  have hend : cell.toNat + dest.length ≤ bytes.length := hlen ▸ hreach.2.2.2
  have hfits := m.fits
  rw [FlatMemory.readEach_consecutive _ (by omega), if_pos (.inr hend)]
  rfl

theorem readsCells_of_refused (hdevice : m.tryDeviceRead a n = none) (h : m.Refused .READ a n) : m.ReadsCells a n := by
  obtain ⟨⟨x, hx, hdenied⟩, hnever⟩ := h
  intro bytes dest hlen hdest
  subst hdest
  have hfails := (read_declined (m.withRam bytes hlen) _ _ henabled hhooks hpos hdevice).2 fun cell hcell =>
    hnever cell (reaches_withRam.mp hcell)
  refine ⟨⟨fun hok => absurd hok hfails, fun hall => ?_⟩, fun out hout => absurd ⟨out, hout⟩ hfails⟩
  rw [hall x hx] at hdenied
  cases hdenied

end

/-! ## Writes -/

/-- What a write does with RAM, once no device takes it. -/
theorem write_declined (m : Memory D) (a : UInt64) (src : List UInt8) (henabled : m.mmu.enabled = true)
    (hhooks : m.mmu.Unhooked) (hpos : 0 < src.length)
    (hdevice : (m.tryDeviceWrite a src).1 = false) :
    (∀ cell, m.Reaches .WRITE a src.length cell →
      (m.write a src).1 = .ok () ∧ (m.write a src).2.ram = ⟨m.copyTo cell src⟩) ∧
      ((∀ cell, ¬ m.Reaches .WRITE a src.length cell) →
        ∃ e, (m.write a src).1 = .error e ∧ (m.write a src).2.ram = m.ram) := by
  have hwrite : m.write a src = match (m.tryDeviceWrite a src).2.mmuWrite a src with
      | .ok m' => (.ok (), m')
      | .error e => (.error e, (m.tryDeviceWrite a src).2) := by
    unfold write
    rw [if_neg hpos.ne']
    dsimp only
    rw [hdevice]
    rfl
  have hmmu := mmuWrite_eq (m := (m.tryDeviceWrite a src).2) (a := a) hhooks src
  constructor
  · intro cell hreaches
    have hphysical : (m.tryDeviceWrite a src).2.physicalAddr .WRITE a src.length = .ok cell :=
      (physicalAddr_eq_ok henabled hpos).mpr hreaches
    rw [hwrite, hmmu, hphysical]
    exact ⟨rfl, rfl⟩
  · intro hnever
    cases hphysical : (m.tryDeviceWrite a src).2.physicalAddr .WRITE a src.length with
    | ok cell => exact absurd ((physicalAddr_eq_ok henabled hpos).mp hphysical) (hnever cell)
    | error e =>
        rw [hwrite, hmmu, hphysical]
        exact ⟨e, rfl, rfl⟩

/-- A device that takes a write leaves RAM alone. -/
theorem WritesCells.no_device (h : m.WritesCells a n) (hpos : 0 < n) (hsrc : src.length = n) :
    (m.tryDeviceWrite a src).1 = false := by
  rw [← Bool.not_eq_true]
  intro hdevice
  have hwrite : ∀ bytes (hlen : bytes.length = m.ram.data.length),
      ((m.withRam bytes hlen).write a src).1 = .ok () ∧ ((m.withRam bytes hlen).write a src).2.ram = ⟨bytes⟩ := by
    intro bytes hlen
    have htaken : ((m.withRam bytes hlen).tryDeviceWrite a src).1 = true := hdevice
    unfold write
    rw [if_neg (by omega)]
    dsimp only
    rw [htaken]
    exact ⟨rfl, rfl⟩
  obtain ⟨cells, htranslate, -⟩ := (h m.ram.data src rfl hsrc).2.1 (hwrite m.ram.data rfl).1
  have hlength := length_translateEach htranslate
  have hne : cells.zip src ≠ [] := by
    rw [← List.length_pos_iff, List.length_zip]
    omega
  -- RAM that holds anything but the last byte
  obtain ⟨last, hlast⟩ : ∃ last, last = (cells.zip src).getLast hne := ⟨_, rfl⟩
  have hsplit : (cells.zip src).dropLast ++ [last] = cells.zip src := by
    rw [hlast]
    exact List.dropLast_concat_getLast hne
  have hlen : (List.replicate m.ram.data.length (last.2 + 1)).length = m.ram.data.length := List.length_replicate
  obtain ⟨cells', htranslate', heach⟩ := (h _ src hlen hsrc).2.1 (hwrite _ hlen).1
  obtain rfl : cells = cells' := Option.some.inj (htranslate.symm.trans htranslate')
  rw [← hsplit, (hwrite _ hlen).2] at heach
  have hget := getElem?_writeEach_last heach
  change (List.replicate m.ram.data.length (last.2 + 1))[last.1.toNat]? = _ at hget
  rw [List.getElem?_replicate] at hget
  split at hget
  · exact absurd (Option.some.inj hget) (by simp)
  · cases hget

variable (henabled : m.mmu.enabled = true) (hhooks : m.mmu.Unhooked) (hpos : 0 < n)
include henabled hhooks hpos

theorem WritesCells.straight_or_refused (h : m.WritesCells a n) : m.Straight .WRITE a n ∨ m.Refused .WRITE a n := by
  have hspec := fun (bytes src : List UInt8) (hlen : bytes.length = m.ram.data.length) (hsrc : src.length = n) =>
    write_declined (m.withRam bytes hlen) a src henabled hhooks (by omega)
      (h.no_device hpos hsrc)
  simp only [reaches_withRam] at hspec
  have hzeros : (List.replicate n (0 : UInt8)).length = n := List.length_replicate
  by_cases hreach : ∃ cell, m.Reaches .WRITE a n cell
  · obtain ⟨cell, hreach⟩ := hreach
    have hok := ((hspec m.ram.data _ rfl hzeros).1 cell (by rwa [hzeros])).1
    have hgranted := (h m.ram.data _ rfl hzeros).1.mp hok
    obtain ⟨cells, htranslate, -⟩ := (h m.ram.data _ rfl hzeros).2.1 hok
    have hbound := hreach.2.2.2
    -- a single one written over zeros tells where byte `i` really went
    have hcells : cells = consecutive cell n := by
      refine eq_consecutive (length_translateEach htranslate) fun i c hc => ?_
      have hi : i < n := by
        have := (List.getElem?_eq_some_iff.mp hc).1
        rwa [length_translateEach htranslate] at this
      have hsrc : ((List.replicate n (0 : UInt8)).set i 1).length = n := by
        rw [List.length_set, List.length_replicate]
      have hlen : (List.replicate m.ram.data.length (0 : UInt8)).length = m.ram.data.length := List.length_replicate
      obtain ⟨hok, hram⟩ := (hspec _ _ hlen hsrc).1 cell (by rwa [hsrc])
      obtain ⟨cells', htranslate', heach⟩ := (h _ _ hlen hsrc).2.1 hok
      obtain rfl : cells = cells' := Option.some.inj (htranslate.symm.trans htranslate')
      rw [hram] at heach
      have hone : ((m.withRam _ hlen).copyTo cell ((List.replicate n (0 : UInt8)).set i 1))[cell.toNat + i]? =
          some 1 := by
        have hend : cell.toNat + n ≤ (List.replicate m.ram.data.length (0 : UInt8)).length := by rwa [hlen]
        rw [getElem?_copyTo (by rw [hsrc]; exact hend) (by omega),
          List.getElem?_set_self (by rwa [List.length_replicate])]
      rcases getElem?_writeEach heach hone with hold | ⟨e, he, hcell, hbyte⟩
      · rw [List.getElem?_replicate] at hold
        split at hold
        · cases hold
        · cases hold
      · obtain ⟨j, hj⟩ := List.mem_iff_getElem?.mp he
        obtain ⟨hcj, hsj⟩ := List.getElem?_zip_eq_some.mp hj
        rw [hbyte] at hsj
        obtain rfl : j = i := eq_of_set_replicate (by decide) hsj
        rw [Option.some.inj (hc.symm.trans hcj), hcell]
    exact .inl ⟨hgranted, cell, hreach, htranslate.trans (congrArg some hcells)⟩
  · have hnever : ∀ cell, ¬ m.Reaches .WRITE a n cell := fun cell hcell => hreach ⟨cell, hcell⟩
    obtain ⟨e, herror, -⟩ := (hspec m.ram.data _ rfl hzeros).2 (by rwa [hzeros])
    have hnot := mt (h m.ram.data _ rfl hzeros).1.mpr (by rw [herror]; exact fun h => by cases h)
    simp only [not_forall, Bool.not_eq_true] at hnot
    obtain ⟨x, hx, hdenied⟩ := hnot
    exact .inr ⟨⟨x, hx, hdenied⟩, hnever⟩

theorem writesCells_of_straight (hdevice : ∀ src : List UInt8, src.length = n → (m.tryDeviceWrite a src).1 = false)
    (h : m.Straight .WRITE a n) : m.WritesCells a n := by
  obtain ⟨hgranted, cell, hreach, htranslate⟩ := h
  intro bytes src hlen hsrc
  have hdeclined := hdevice src hsrc
  subst hsrc
  obtain ⟨hok, hram⟩ := (write_declined (m.withRam bytes hlen) _ _ henabled hhooks hpos hdeclined).1 cell
    (reaches_withRam.mpr hreach)
  refine ⟨⟨fun _ => hgranted, fun _ => hok⟩, fun _ => ⟨_, htranslate, ?_⟩, fun e herror => ?_⟩
  · have hend : cell.toNat + src.length ≤ bytes.length := hlen ▸ hreach.2.2.2
    have hfits := m.fits
    rw [hram, FlatMemory.writeEach_consecutive _ (by omega), if_pos (.inr hend), copyTo_eq hend]
    rfl
  · rw [hok] at herror
    cases herror

theorem writesCells_of_refused (hdevice : ∀ src : List UInt8, src.length = n → (m.tryDeviceWrite a src).1 = false)
    (h : m.Refused .WRITE a n) : m.WritesCells a n := by
  obtain ⟨⟨x, hx, hdenied⟩, hnever⟩ := h
  intro bytes src hlen hsrc
  have hdeclined := hdevice src hsrc
  subst hsrc
  obtain ⟨e, herror, hram⟩ := (write_declined (m.withRam bytes hlen) _ _ henabled hhooks hpos hdeclined).2
    fun cell hcell => hnever cell (reaches_withRam.mp hcell)
  have hfails : ((m.withRam bytes hlen).write a src).1 ≠ .ok () := by
    rw [herror]
    exact fun h => by cases h
  refine ⟨⟨fun hok => absurd hok hfails, fun hall => ?_⟩, fun hok => absurd hok hfails, fun e' _ => hram⟩
  rw [hall x hx] at hdenied
  cases hdenied

end Accesses

/-! ## When a transfer is what the transfers of its bytes are -/

/-- Nothing is moved, or no device takes the access and its pages are straight or refused as its first page is. -/
def CellsAgree (address : UInt64) (size : Nat) (noDevice : Prop) : Prop :=
  size = 0 ∨ noDevice ∧ (m.Straight accessType address size ∨ m.Refused accessType address size)

theorem memory_cells_iff [IMemoryMappedDevice D] (henabled : m.mmu.enabled = true) (hhooks : m.mmu.Unhooked)
    (a : UInt64) (n : Nat) :
    (m.ReadsCells a n ↔ m.CellsAgree .READ a n (m.tryDeviceRead a n = none)) ∧
      (m.WritesCells a n ↔
        m.CellsAgree .WRITE a n (∀ src : List UInt8, src.length = n → (m.tryDeviceWrite a src).1 = false)) := by
  rcases Nat.eq_zero_or_pos n with rfl | hpos
  · refine ⟨⟨fun _ => .inl rfl, fun _ => ?_⟩, ⟨fun _ => .inl rfl, fun _ => ?_⟩⟩
    · intro bytes dest hlen hdest
      obtain rfl := List.length_eq_zero_iff.mp hdest
      refine ⟨⟨fun _ x hx => absurd hx List.not_mem_nil, fun _ => ⟨[], rfl⟩⟩, fun out hout => ⟨[], rfl, ?_⟩⟩
      obtain rfl := Except.ok.inj hout
      rfl
    · intro bytes src hlen hsrc
      obtain rfl := List.length_eq_zero_iff.mp hsrc
      refine ⟨⟨fun _ x hx => absurd hx List.not_mem_nil, fun _ => rfl⟩, fun _ => ⟨[], rfl, rfl⟩, fun e he => ?_⟩
      cases he
  · constructor
    · constructor
      · exact fun h => .inr ⟨h.no_device hpos, h.straight_or_refused henabled hhooks hpos⟩
      · rintro (rfl | ⟨hdevice, hstraight | hrefused⟩)
        · exact absurd hpos (Nat.lt_irrefl 0)
        · exact readsCells_of_straight henabled hhooks hpos hdevice hstraight
        · exact readsCells_of_refused henabled hhooks hpos hdevice hrefused
    · constructor
      · exact fun h => .inr ⟨fun src hsrc => h.no_device hpos hsrc, h.straight_or_refused henabled hhooks hpos⟩
      · rintro (rfl | ⟨hdevice, hstraight | hrefused⟩)
        · exact absurd hpos (Nat.lt_irrefl 0)
        · exact writesCells_of_straight henabled hhooks hpos hdevice hstraight
        · exact writesCells_of_refused henabled hhooks hpos hdevice hrefused

/-! ## Two pages with a gap between their frames -/

/-- No device at all. -/
instance : IMemoryMappedDevice Empty where
  getBaseAddress := Empty.elim
  getSize := Empty.elim
  read device _ _ := device.elim
  write device _ _ := device.elim

/-- Translation switched off. -/
def plainMmu : MMU where
  pageSize := (1 : UInt64) <<< 12
  enabled := false
  pageTable := .empty
  readHooks := []
  writeHooks := []
  watchpoints := []
  pageSize_eq := ⟨12, by decide, by decide, rfl⟩

def gapMmu : MMU where
  pageSize := 0x100
  enabled := true
  pageTable := (OrdMap.empty.insert 0 ⟨0, PermissionFlags.READ_WRITE, true, false, false⟩).insert 0x100
    ⟨0x200, PermissionFlags.READ_WRITE, true, false, false⟩
  readHooks := []
  writeHooks := []
  watchpoints := []
  pageSize_eq := ⟨8, by decide⟩

def gapMemory : Memory Empty where
  ram := ⟨List.replicate 0x300 0⟩
  mmu := gapMmu
  devices := []
  fits := by
    rw [List.length_replicate]
    decide

theorem gap_not_straight (t : MemoryAccessType) : ¬ gapMemory.Straight t 0xFF 2 := by
  rintro ⟨-, cell, -, htranslate⟩
  have hcells : gapMemory.mmu.translateEach 0xFF 2 = some [0xFF, 0x200] := by decide
  have hpair : [0xFF, 0x200] = [cell, cell + 1] := Option.some.inj (hcells.symm.trans htranslate)
  obtain ⟨rfl, htail⟩ := List.cons.inj hpair
  exact absurd (List.cons.inj htail).1 (by decide)

theorem gap_not_refused {t : MemoryAccessType} (hfirst : gapMemory.mmu.checkPermission 0xFF t = true)
    (hsecond : gapMemory.mmu.checkPermission 0x100 t = true) : ¬ gapMemory.Refused t 0xFF 2 := by
  rintro ⟨⟨x, hx, hdenied⟩, -⟩
  have hcells : consecutive 0xFF 2 = [0xFF, 0x100] := by decide
  rw [hcells] at hx
  simp only [List.mem_cons, List.not_mem_nil, or_false] at hx
  rcases hx with rfl | rfl
  · rw [hfirst] at hdenied
    cases hdenied
  · rw [hsecond] at hdenied
    cases hdenied

/-- The byte behind the end of the first page is read and written behind the end of its frame. -/
theorem memory_not_cells : gapMemory.mmu.enabled = true ∧ gapMemory.mmu.Unhooked ∧
    ¬ gapMemory.ReadsCells 0xFF 2 ∧ ¬ gapMemory.WritesCells 0xFF 2 := by
  have hhooks : gapMemory.mmu.Unhooked := ⟨rfl, rfl, rfl⟩
  refine ⟨rfl, hhooks, fun h => ?_, fun h => ?_⟩
  · rcases h.straight_or_refused rfl hhooks (by decide) with hstraight | hrefused
    · exact gap_not_straight .READ hstraight
    · exact gap_not_refused (by decide) (by decide) hrefused
  · rcases h.straight_or_refused rfl hhooks (by decide) with hstraight | hrefused
    · exact gap_not_straight .WRITE hstraight
    · exact gap_not_refused (by decide) (by decide) hrefused

theorem memory_cells_iff_gap :
    (gapMemory.ReadsCells 0x1FF 1 ↔ gapMemory.CellsAgree .READ 0x1FF 1 (gapMemory.tryDeviceRead 0x1FF 1 = none)) ∧
      (gapMemory.WritesCells 0x1FF 1 ↔ gapMemory.CellsAgree .WRITE 0x1FF 1
        (∀ src : List UInt8, src.length = 1 → (gapMemory.tryDeviceWrite 0x1FF src).1 = false)) :=
  memory_cells_iff gapMemory rfl ⟨rfl, rfl, rfl⟩ 0x1FF 1

end Memory

end GuideXOS.Core
