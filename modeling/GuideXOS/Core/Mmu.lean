import GuideXOS.Core.AddressTranslation
import GuideXOS.Lib.OrdMap
import GuideXOS.Lib.Runs

/-!
# `Mmu` — the single-level page table

A page table maps page addresses to frames with permissions. `translateAddress` and `checkPermission` look
up the page of one address; with the MMU disabled every address stands for itself and is allowed. What the
calls that change the table leave for a page is `pageTable_run`.
-/

namespace GuideXOS.Core
open Lib Lib.Words Lib.Stretches

namespace PermissionFlags

def NONE : UInt8 := 0x00
def READ : UInt8 := 0x01
def WRITE : UInt8 := 0x02
def EXECUTE : UInt8 := 0x04
def READ_WRITE : UInt8 := READ ||| WRITE

def hasPermission (flags required : UInt8) : Bool := flags &&& required == required

end PermissionFlags

structure PageEntry where
  physicalAddress : UInt64
  permissions : UInt8
  present : Bool
  accessed : Bool := false
  dirty : Bool := false
  deriving DecidableEq

inductive PageFaultType where
  | NOT_MAPPED | NOT_PRESENT | PERMISSION_READ | PERMISSION_WRITE | PERMISSION_EXEC
  deriving DecidableEq

structure PageFault where
  type : PageFaultType
  address : UInt64
  accessType : MemoryAccessType
  pageSize : UInt64
  entry : Option PageEntry

structure HookContext where
  address : UInt64
  physicalAddress : UInt64
  size : Nat
  accessType : MemoryAccessType

/-- A registered callback: it may deny the access, and it may change the bytes, not their number. -/
structure MemoryHook where
  callback : HookContext → List UInt8 → Bool × List UInt8
  length_callback : ∀ context data, (callback context data).2.length = data.length

structure MMU where
  pageSize : UInt64
  enabled : Bool
  pageTable : OrdMap UInt64 PageEntry
  readHooks : List MemoryHook
  writeHooks : List MemoryHook
  /-- A watchpoint, its condition and its callback, as what they do to an access. -/
  watchpoints : List MemoryHook
  pageSize_eq : ∃ shift : UInt64, 8 ≤ shift.toNat ∧ shift.toNat ≤ 28 ∧ pageSize = 1 <<< shift

namespace MMU

variable (mmu : MMU)

def alignToPage (addr : UInt64) : UInt64 := addr &&& ~~~(mmu.pageSize - 1)

def getPageOffset (addr : UInt64) : UInt64 := addr &&& (mmu.pageSize - 1)

def getPageEntry (virtualAddr : UInt64) : Option PageEntry :=
  mmu.pageTable.find? (mmu.alignToPage virtualAddr)

/-- **`TranslateAddress`.** -/
def translateAddress (virtualAddr : UInt64) : Except PageFault UInt64 :=
  if mmu.enabled then
    match mmu.getPageEntry virtualAddr with
    | none => .error ⟨.NOT_MAPPED, virtualAddr, .READ, mmu.pageSize, none⟩
    | some entry =>
        if entry.present then .ok (entry.physicalAddress + mmu.getPageOffset virtualAddr)
        else .error ⟨.NOT_PRESENT, virtualAddr, .READ, mmu.pageSize, some entry⟩
  else .ok virtualAddr

def entryGrants (entry : PageEntry) : MemoryAccessType → Bool
  | .READ => PermissionFlags.hasPermission entry.permissions PermissionFlags.READ
  | .WRITE => PermissionFlags.hasPermission entry.permissions PermissionFlags.WRITE
  | .EXECUTE => PermissionFlags.hasPermission entry.permissions PermissionFlags.EXECUTE
  | .NON_ACCESS => true

/-- **`CheckPermission`.** -/
def checkPermission (virtualAddr : UInt64) (accessType : MemoryAccessType) : Bool :=
  if mmu.enabled then
    match mmu.getPageEntry virtualAddr with
    | none => false
    | some entry => entry.present && entryGrants entry accessType
  else true

def deniedFault : MemoryAccessType → PageFaultType
  | .WRITE => .PERMISSION_WRITE
  | .EXECUTE => .PERMISSION_EXEC
  | .READ | .NON_ACCESS => .PERMISSION_READ

/-- **`CheckPermissionOrThrow`.** -/
def checkPermissionOrThrow (virtualAddr : UInt64) (accessType : MemoryAccessType) : Except PageFault Unit :=
  if mmu.enabled then
    match mmu.getPageEntry virtualAddr with
    | none => .error ⟨.NOT_MAPPED, virtualAddr, accessType, mmu.pageSize, none⟩
    | some entry =>
        if !entry.present then .error ⟨.NOT_PRESENT, virtualAddr, accessType, mmu.pageSize, some entry⟩
        else if entryGrants entry accessType then .ok ()
        else .error ⟨deniedFault accessType, virtualAddr, accessType, mmu.pageSize, some entry⟩
  else .ok ()

/-- The hooks in registration order; each gets the bytes as the one before it left them. -/
def invokeHooks : List MemoryHook → HookContext → List UInt8 → Option (List UInt8)
  | [], _, data => some data
  | hook :: hooks, context, data =>
      if (hook.callback context data).1 then invokeHooks hooks context (hook.callback context data).2 else none

def invokeReadHooks (virtualAddr physicalAddr : UInt64) (data : List UInt8) : Option (List UInt8) :=
  invokeHooks (mmu.readHooks ++ mmu.watchpoints) ⟨virtualAddr, physicalAddr, data.length, .READ⟩ data

def invokeWriteHooks (virtualAddr physicalAddr : UInt64) (data : List UInt8) : Option (List UInt8) :=
  invokeHooks (mmu.writeHooks ++ mmu.watchpoints) ⟨virtualAddr, physicalAddr, data.length, .WRITE⟩ data

/-- Where the bytes of an access lie, each translated by itself. -/
def translateEach (virtualAddr : UInt64) (size : Nat) : Option (List UInt64) :=
  (consecutive virtualAddr size).mapM fun x => (mmu.translateAddress x).toOption

/-- Nothing watches the accesses. -/
structure Unhooked (mmu : MMU) : Prop where
  readHooks : mmu.readHooks = []
  writeHooks : mmu.writeHooks = []
  watchpoints : mmu.watchpoints = []

variable {mmu : MMU} {a : UInt64} {t : MemoryAccessType} {n : Nat}

theorem Unhooked.invokeReadHooks (h : mmu.Unhooked) (va pa : UInt64) (data : List UInt8) :
    mmu.invokeReadHooks va pa data = some data := by
  rw [MMU.invokeReadHooks, h.readHooks, h.watchpoints]
  rfl

theorem Unhooked.invokeWriteHooks (h : mmu.Unhooked) (va pa : UInt64) (data : List UInt8) :
    mmu.invokeWriteHooks va pa data = some data := by
  rw [MMU.invokeWriteHooks, h.writeHooks, h.watchpoints]
  rfl

/-! ## What the look-ups say about one address -/

theorem checkPermissionOrThrow_eq_ok : mmu.checkPermissionOrThrow a t = .ok () ↔ mmu.checkPermission a t = true := by
  unfold checkPermissionOrThrow checkPermission
  split
  · cases mmu.getPageEntry a with
    | none => simp
    | some entry => cases hp : entry.present <;> simp [hp]
  · simp

/-! ## The page table under calls -/

variable (mmu)

/-- **`MapPage`.** -/
def mapPage (virtualAddr physicalAddr : UInt64) (permissions : UInt8) : MMU :=
  { mmu with pageTable :=
      mmu.pageTable.insert (mmu.alignToPage virtualAddr) ⟨mmu.alignToPage physicalAddr, permissions, true, false, false⟩ }

/-- **`UnmapPage`.** -/
def unmapPage (virtualAddr : UInt64) : MMU :=
  { mmu with pageTable := mmu.pageTable.erase (mmu.alignToPage virtualAddr) }

/-- **`SetPagePermissions`**, or the exception. -/
def setPagePermissions (virtualAddr : UInt64) (permissions : UInt8) : Option MMU :=
  (mmu.getPageEntry virtualAddr).map fun entry =>
    { mmu with pageTable := mmu.pageTable.insert (mmu.alignToPage virtualAddr) { entry with permissions } }

/-- The loop of **`MapIdentityRange`**, for at most `fuel` rounds. -/
def mapIdentityPages (permissions : UInt8) (pageEnd : UInt64) : Nat → UInt64 → MMU → Option MMU
  | 0, _, _ => none
  | fuel + 1, addr, mmu =>
      if addr < pageEnd then
        mapIdentityPages permissions pageEnd fuel (addr + mmu.pageSize) (mmu.mapPage addr addr permissions)
      else some mmu

/-- **`MapIdentityRange`.** -/
def mapIdentityRange (startAddr size : UInt64) (permissions : UInt8) : Option MMU :=
  let endAddr := startAddr + size
  let pageEnd := mmu.alignToPage endAddr
  mapIdentityPages permissions (if mmu.getPageOffset endAddr != 0 then pageEnd + mmu.pageSize else pageEnd) (2 ^ 64)
    (mmu.alignToPage startAddr) mmu

inductive PageCall
  | mapPage (virtualAddr physicalAddr : UInt64) (permissions : UInt8)
  | unmapPage (virtualAddr : UInt64)
  | setPagePermissions (virtualAddr : UInt64) (permissions : UInt8)
  | mapIdentityRange (startAddr size : UInt64) (permissions : UInt8)
  | clearPageTable
  | restorePageTable (pageTable : OrdMap UInt64 PageEntry)

/-- A call; one that throws changes nothing. -/
def call : PageCall → MMU
  | .mapPage va pa permissions => mmu.mapPage va pa permissions
  | .unmapPage va => mmu.unmapPage va
  | .setPagePermissions va permissions => (mmu.setPagePermissions va permissions).getD mmu
  | .mapIdentityRange start size permissions => (mmu.mapIdentityRange start size permissions).getD mmu
  | .clearPageTable => { mmu with pageTable := .empty }
  | .restorePageTable pageTable => { mmu with pageTable }

/-- What a call is for the page of one address. A range that ends inside the last page has none. -/
def onPage (a : UInt64) (entry : Option PageEntry) : PageCall → Option PageEntry
  | .mapPage va pa permissions =>
      if mmu.alignToPage va = mmu.alignToPage a then some ⟨mmu.alignToPage pa, permissions, true, false, false⟩ else entry
  | .unmapPage va => if mmu.alignToPage va = mmu.alignToPage a then none else entry
  | .setPagePermissions va permissions =>
      if mmu.alignToPage va = mmu.alignToPage a then entry.map ({ · with permissions }) else entry
  | .mapIdentityRange start size permissions =>
      if mmu.alignToPage start ≤ mmu.alignToPage a ∧ (mmu.alignToPage a).toNat < (start + size).toNat ∧
          (start + size).toNat + mmu.pageSize.toNat ≤ 2 ^ 64 then
        some ⟨mmu.alignToPage a, permissions, true, false, false⟩
      else entry
  | .clearPageTable => none
  | .restorePageTable pageTable => pageTable.find? (mmu.alignToPage a)

variable {mmu}

theorem getPageEntry_mapPage (va pa : UInt64) (permissions : UInt8) :
    (mmu.mapPage va pa permissions).getPageEntry a = mmu.onPage a (mmu.getPageEntry a) (.mapPage va pa permissions) :=
  OrdMap.find?_insert ..

theorem pageSize_toNat (mmu : MMU) : ∃ k : UInt64, k.toNat < 64 ∧ mmu.pageSize.toNat = 2 ^ k.toNat ∧
    ∀ a, (mmu.alignToPage a).toNat = a.toNat / 2 ^ k.toNat * 2 ^ k.toNat ∧
      (mmu.getPageOffset a).toNat = a.toNat % 2 ^ k.toNat := by
  obtain ⟨k, -, hk, hsize⟩ := mmu.pageSize_eq
  have hlt : k.toNat < 64 := by omega
  refine ⟨k, hlt, by rw [hsize, one_shiftLeft_toNat hlt], fun a => ?_⟩
  rw [alignToPage, getPageOffset, hsize]
  exact ⟨and_not_lowMask_toNat hlt a, and_lowMask_toNat hlt a⟩

/-- From a page on, the loop maps the pages before the end. -/
theorem mapIdentityPages_eq (mmu : MMU) (permissions : UInt8) {pageEnd : UInt64} (hend : mmu.alignToPage pageEnd = pageEnd) {fuel : Nat}
    {addr : UInt64} (haddr : mmu.alignToPage addr = addr) (hfuel : pageEnd.toNat - addr.toNat < fuel) :
    ∃ m, mapIdentityPages permissions pageEnd fuel addr mmu = some m ∧ m.pageSize = mmu.pageSize ∧
      ∀ a, m.getPageEntry a = if addr ≤ mmu.alignToPage a ∧ mmu.alignToPage a < pageEnd then
        some ⟨mmu.alignToPage a, permissions, true, false, false⟩ else mmu.getPageEntry a := by
  induction fuel generalizing addr mmu with
  | zero => omega
  | succ fuel ih =>
      unfold mapIdentityPages
      by_cases hlt : addr < pageEnd
      · obtain ⟨k, -, hsize, hpages⟩ := pageSize_toNat mmu
        have hpos := Nat.two_pow_pos k.toNat
        have hroom : addr.toNat + 2 ^ k.toNat ≤ pageEnd.toNat := by
          rw [UInt64.lt_iff_toNat_lt] at hlt
          rw [← haddr, ← hend, (hpages _).1, (hpages _).1] at hlt ⊢
          rw [← Nat.succ_mul]
          exact Nat.mul_le_mul_right _ (Nat.lt_of_mul_lt_mul_right hlt)
        have hnext : (addr + mmu.pageSize).toNat = addr.toNat + 2 ^ k.toNat := by
          rw [UInt64.toNat_add, hsize]
          exact Nat.mod_eq_of_lt (hroom.trans_lt pageEnd.toNat_lt)
        have haligned : mmu.alignToPage (addr + mmu.pageSize) = addr + mmu.pageSize := by
          rw [← UInt64.toNat_inj, (hpages _).1, hnext, Nat.add_div_right _ hpos, Nat.succ_mul, ← (hpages _).1, haddr]
        obtain ⟨m, hm, hkeeps, hentry⟩ := ih (mmu.mapPage addr addr permissions) hend haligned (by omega)
        refine ⟨m, by rw [if_pos hlt]; exact hm, hkeeps, fun a => ?_⟩
        rw [hentry, getPageEntry_mapPage, onPage, haddr]
        have hbehind : addr + mmu.pageSize ≤ mmu.alignToPage a ↔ addr ≤ mmu.alignToPage a ∧ addr ≠ mmu.alignToPage a := by
          rw [← haddr] at hnext ⊢
          rw [UInt64.le_iff_toNat_le, UInt64.le_iff_toNat_le, ne_eq, ← UInt64.toNat_inj, ← Nat.lt_iff_le_and_ne, hnext]
          rw [(hpages _).1, (hpages _).1, ← Nat.succ_mul]
          rw [Nat.mul_le_mul_right_iff hpos, Nat.mul_lt_mul_right hpos]
          exact Nat.succ_le_iff
        -- a page is this one, or one of the others
        show (if addr + mmu.pageSize ≤ mmu.alignToPage a ∧ mmu.alignToPage a < pageEnd then _ else _) = _
        by_cases hthis : addr = mmu.alignToPage a
        · rw [if_neg fun h => (hbehind.mp h.1).2 hthis, if_pos hthis, if_pos ⟨UInt64.le_of_eq hthis, hthis ▸ hlt⟩, hthis]
        · simp only [hbehind, ne_eq, hthis, not_false_eq_true, and_true]
          rfl
      · refine ⟨mmu, if_neg hlt, rfl, fun a => (if_neg fun h => hlt ?_).symm⟩
        exact UInt64.lt_of_le_of_lt h.1 h.2

/-- The end of a range, rounded up: the whole page where the range ends, unless it is the last one. -/
theorem mul_lt_roundedUp_iff {x q r n size : Nat} (hr : r < size) (hq : q < n) :
    x * size < (if r = 0 then q * size else (q * size + size) % (n * size)) ↔
      x * size < q * size + r ∧ q * size + r + size ≤ n * size := by
  have hle : q * size + size ≤ n * size := (Nat.succ_mul q size).symm.trans_le (Nat.mul_le_mul_right _ hq)
  by_cases hzero : r = 0
  · rw [if_pos hzero]
    omega
  · rw [if_neg hzero]
    rcases Nat.eq_or_lt_of_le hle with hlast | hlt
    · rw [hlast, Nat.mod_self]
      omega
    · rw [Nat.mod_eq_of_lt hlt]
      have hnext : q * size + size + size ≤ n * size := by
        rw [← Nat.succ_mul] at hlt ⊢
        exact (Nat.succ_mul _ size).symm.trans_le (Nat.mul_le_mul_right _ (Nat.lt_of_mul_lt_mul_right hlt))
      have hpage : x * size < q * size + size ↔ x * size ≤ q * size := by
        rw [← Nat.succ_mul, Nat.mul_lt_mul_right (by omega), Nat.mul_le_mul_right_iff (by omega), Nat.lt_succ_iff]
      omega

/-- A range of pages is mapped in finitely many rounds. -/
theorem mapIdentityRange_eq (mmu : MMU) (start size : UInt64) (permissions : UInt8) :
    ∃ m, mmu.mapIdentityRange start size permissions = some m ∧ m.pageSize = mmu.pageSize ∧
      ∀ a, m.getPageEntry a = mmu.onPage a (mmu.getPageEntry a) (.mapIdentityRange start size permissions) := by
  obtain ⟨k, hk, hsize, hpages⟩ := pageSize_toNat mmu
  have hpos := Nat.two_pow_pos k.toNat
  have hidem : ∀ a, mmu.alignToPage (mmu.alignToPage a) = mmu.alignToPage a := by
    intro a
    rw [alignToPage, alignToPage, UInt64.and_assoc, UInt64.and_self]
  have hall : (2 : Nat) ^ 64 = 2 ^ (64 - k.toNat) * 2 ^ k.toNat := by
    rw [← Nat.pow_add, Nat.sub_add_cancel (by omega)]
  let pageEnd := if mmu.getPageOffset (start + size) != 0 then mmu.alignToPage (start + size) + mmu.pageSize
    else mmu.alignToPage (start + size)
  have hvalue : pageEnd.toNat = if (start + size).toNat % 2 ^ k.toNat = 0 then (start + size).toNat / 2 ^ k.toNat * 2 ^ k.toNat
      else ((start + size).toNat / 2 ^ k.toNat * 2 ^ k.toNat + 2 ^ k.toNat) % (2 ^ (64 - k.toNat) * 2 ^ k.toNat) := by
    rw [← (hpages _).1, ← (hpages _).2, ← hall, ← hsize, ← UInt64.toNat_add]
    by_cases hzero : mmu.getPageOffset (start + size) = 0
    · simp [pageEnd, hzero]
    · have hne : (mmu.getPageOffset (start + size)).toNat ≠ 0 := fun h => hzero (UInt64.toNat_inj.mp h)
      simp [pageEnd, hzero, hne]
  have hend : mmu.alignToPage pageEnd = pageEnd := by
    rw [← UInt64.toNat_inj, (hpages _).1]
    apply Nat.div_mul_cancel
    rw [hvalue]
    split
    · exact Nat.dvd_mul_left ..
    · exact (Nat.dvd_mod_iff (Nat.dvd_mul_left ..)).mpr (Nat.dvd_add (Nat.dvd_mul_left ..) (Nat.dvd_refl _))
  have hrounds : pageEnd.toNat - (mmu.alignToPage start).toNat < 2 ^ 64 := (Nat.sub_le ..).trans_lt pageEnd.toNat_lt
  obtain ⟨m, hm, hkeeps, hentry⟩ := mapIdentityPages_eq mmu permissions hend (hidem start) hrounds
  refine ⟨m, hm, hkeeps, fun a => ?_⟩
  rw [hentry, onPage]
  have hbefore : mmu.alignToPage a < pageEnd ↔ (mmu.alignToPage a).toNat < (start + size).toNat ∧
      (start + size).toNat + mmu.pageSize.toNat ≤ 2 ^ 64 := by
    rw [UInt64.lt_iff_toNat_lt, hvalue, (hpages a).1, hsize, hall, mul_lt_roundedUp_iff (Nat.mod_lt _ hpos), Nat.div_add_mod']
    have := (start + size).toNat_lt
    rw [hall] at this
    exact Nat.div_lt_of_lt_mul (Nat.mul_comm .. ▸ this)
  simp only [hbefore]

/-- **A call** is for each page what it says, whatever it does to the others. -/
theorem call_spec (mmu : MMU) (c : PageCall) : (mmu.call c).pageSize = mmu.pageSize ∧
    ∀ a, (mmu.call c).getPageEntry a = mmu.onPage a (mmu.getPageEntry a) c := by
  cases c with
  | mapPage va pa permissions => exact ⟨rfl, fun a => getPageEntry_mapPage va pa permissions⟩
  | unmapPage va => exact ⟨rfl, fun a => OrdMap.find?_erase ..⟩
  | setPagePermissions va permissions =>
      rw [call, setPagePermissions]
      cases hentry : mmu.getPageEntry va with
      | none =>
          refine ⟨rfl, fun a => ?_⟩
          rw [onPage]
          split
          · next hsame =>
            rw [getPageEntry, hsame] at hentry
            rw [Option.map_none, Option.getD_none, getPageEntry, hentry]
            rfl
          · rfl
      | some entry =>
          refine ⟨rfl, fun a => ?_⟩
          show (mmu.pageTable.insert (mmu.alignToPage va) { entry with permissions }).find? (mmu.alignToPage a) = _
          rw [OrdMap.find?_insert, onPage]
          split
          · next hsame =>
            rw [getPageEntry, hsame] at hentry
            rw [getPageEntry, hentry]
            rfl
          · rfl
  | mapIdentityRange start size permissions =>
      obtain ⟨m, hm, hsize, hentry⟩ := mapIdentityRange_eq mmu start size permissions
      rw [call, hm, Option.getD_some]
      exact ⟨hsize, hentry⟩
  | clearPageTable => exact ⟨rfl, fun _ => rfl⟩
  | restorePageTable pageTable => exact ⟨rfl, fun _ => rfl⟩

theorem onPage_congr {m : MMU} (h : m.pageSize = mmu.pageSize) : m.onPage = mmu.onPage := by
  cases m
  cases h
  rfl

/-- **A run of calls.** -/
theorem pageTable_run (mmu : MMU) (calls : List PageCall) (a : UInt64) :
    (Runs.run call mmu calls).getPageEntry a = calls.foldl (mmu.onPage a) (mmu.getPageEntry a) := by
  induction calls generalizing mmu with
  | nil => rfl
  | cons c calls ih =>
      obtain ⟨hsize, hentry⟩ := call_spec mmu c
      rw [Runs.run_cons, ih, List.foldl_cons, hentry, onPage_congr hsize]


end MMU

end GuideXOS.Core
