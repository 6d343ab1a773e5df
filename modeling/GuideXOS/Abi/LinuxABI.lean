import GuideXOS.Lib.Words

/-!
# `LinuxABI` — the system calls that hand out guest addresses

The Linux layer keeps two words of address-space state: the program break, which `SysBrk` moves, and a hint for
the next mapping, which `SysMmap` moves. Mappings themselves are not recorded anywhere, and `SysMunmap` only
checks its arguments.
-/

namespace GuideXOS.Abi
open Lib.Words

inductive Errno
  | EBADF
  | EINVAL
  deriving DecidableEq

/-- **`ErrnoToInt`.** -/
def Errno.toInt : Errno → Int
  | EBADF => 9
  | EINVAL => 22

structure SyscallResult where
  returnValue : Int64
  success : Bool
  errorCode : Int
  deriving DecidableEq

namespace SyscallResult

def of (ret : Int64) : SyscallResult := ⟨ret, true, 0⟩

/-- **`SyscallResult::Error`.** -/
def error (err : Errno) : SyscallResult := ⟨-1, false, err.toInt⟩

end SyscallResult

def MAP_SHARED : UInt64 := 0x01
def MAP_PRIVATE : UInt64 := 0x02
def MAP_FIXED : UInt64 := 0x10
def MAP_ANONYMOUS : UInt64 := 0x20

/-- The arguments of `SysMmap`. -/
structure MmapRequest where
  addr : UInt64
  length : UInt64
  prot : UInt64
  flags : UInt64
  fd : UInt64
  offset : UInt64
  deriving DecidableEq

structure LinuxABI where
  brkAddress : UInt64
  mmapHint : UInt64
  deriving DecidableEq

namespace LinuxABI

def initial : LinuxABI := ⟨0x40000000, 0x60000000⟩

/-- **`IsValidFd`.** -/
def isValidFd (fd : Int64) : Bool := 0 ≤ fd && fd < 1024

variable (abi : LinuxABI) {x : UInt64}

/-- **`SysBrk`.** -/
def sysBrk (addr : UInt64) : SyscallResult × LinuxABI :=
  if addr = 0 then (.of abi.brkAddress.toInt64, abi)
  else (.of addr.toInt64, { abi with brkAddress := addr })

def pageSize : UInt64 := 16 * 1024

/-- The rounding `SysMmap` applies to addresses and lengths alike. -/
def pageUp (x : UInt64) : UInt64 := (x + pageSize - 1) &&& ~~~(pageSize - 1)

/-- What a request maps when it is accepted: the address, and the length rounded up. -/
def mappedAddr (request : MmapRequest) : UInt64 :=
  if request.addr ≠ 0 ∧ request.flags &&& MAP_FIXED ≠ 0 then request.addr
  else if request.addr ≠ 0 then pageUp request.addr
  else pageUp abi.mmapHint

/-- **`SysMmap`.** -/
def sysMmap (request : MmapRequest) : SyscallResult × LinuxABI :=
  if request.length = 0 then (.error .EINVAL, abi)
  else
    let isShared : Bool := request.flags &&& MAP_SHARED ≠ 0
    let isPrivate : Bool := request.flags &&& MAP_PRIVATE ≠ 0
    if (isShared && isPrivate) || (!isShared && !isPrivate) then (.error .EINVAL, abi)
    else
      let isAnonymous : Bool := request.flags &&& MAP_ANONYMOUS ≠ 0
      if !isAnonymous && !isValidFd request.fd.toInt64 then (.error .EBADF, abi)
      else if request.addr ≠ 0 ∧ request.flags &&& MAP_FIXED ≠ 0 ∧ request.addr &&& (pageSize - 1) ≠ 0 then
        (.error .EINVAL, abi)
      else
        let mapped := abi.mappedAddr request
        let alignedLength := pageUp request.length
        -- an address the guest gave as a hint moves the hint for the next mapping too
        if request.addr = 0 ∨ request.flags &&& MAP_FIXED = 0 then
          (.of mapped.toInt64, { abi with mmapHint := mapped + alignedLength })
        else (.of mapped.toInt64, abi)

/-- **`SysMunmap`.** -/
def sysMunmap (addr length : UInt64) : SyscallResult × LinuxABI :=
  if length = 0 then (.error .EINVAL, abi)
  else if addr &&& (pageSize - 1) ≠ 0 then (.error .EINVAL, abi)
  else (.of 0, abi)

/-! ## What each call does -/

theorem sysBrk_eq (addr : UInt64) :
    (abi.sysBrk addr).2 = if addr = 0 then abi else { abi with brkAddress := addr } := by
  unfold sysBrk
  split <;> rfl

theorem sysMunmap_abi (addr length : UInt64) : (abi.sysMunmap addr length).2 = abi := by
  unfold sysMunmap
  split
  · rfl
  · split <;> rfl

theorem sysMunmap_success {abi : LinuxABI} {addr length : UInt64} (h : (abi.sysMunmap addr length).1.success = true) :
    length ≠ 0 ∧ addr &&& (pageSize - 1) = 0 := by
  unfold sysMunmap at h
  split at h
  · cases h
  · split at h
    · cases h
    · exact ⟨‹_›, not_not.mp ‹_›⟩

/-- **A call without `MAP_FIXED`.** It is rejected and changes nothing, or maps and moves the hint behind the
    mapping. -/
theorem sysMmap_cases {request : MmapRequest} (hfixed : request.flags &&& MAP_FIXED = 0) :
    ((abi.sysMmap request).1.success = false ∧ (abi.sysMmap request).2 = abi) ∨
      (request.length ≠ 0 ∧ abi.sysMmap request = (.of (abi.mappedAddr request).toInt64,
        { abi with mmapHint := abi.mappedAddr request + pageUp request.length })) := by
  unfold sysMmap
  by_cases hlength : request.length = 0
  · rw [if_pos hlength]
    exact .inl ⟨rfl, rfl⟩
  · rw [if_neg hlength]
    dsimp only
    split
    · exact .inl ⟨rfl, rfl⟩
    · split
      · exact .inl ⟨rfl, rfl⟩
      · rw [if_neg (fun h => h.2.1 hfixed), if_pos (.inr hfixed)]
        exact .inr ⟨hlength, rfl⟩

theorem mappedAddr_of_not_fixed {request : MmapRequest} (hfixed : request.flags &&& MAP_FIXED = 0) :
    abi.mappedAddr request = pageUp (if request.addr = 0 then abi.mmapHint else request.addr) := by
  unfold mappedAddr
  rw [if_neg (fun h => h.2 hfixed)]
  by_cases haddr : request.addr = 0
  · rw [if_neg (not_not.mpr haddr), if_pos haddr]
  · rw [if_pos haddr, if_neg haddr]

/-! ## Rounding up -/

/-- **Rounding, wrap-around included.** -/
theorem pageUp_toNat (x : UInt64) : (pageUp x).toNat = (x.toNat + 16383) % 2 ^ 64 / 16384 * 16384 := by
  have hmask : pageSize - 1 = lowMask 14 := by decide
  have hsum : x + pageSize - 1 = x + 16383 := by
    rw [UInt64.sub_eq_add_neg, UInt64.add_assoc]
    rfl
  rw [pageUp, hsum, hmask, and_not_lowMask_toNat (by decide), UInt64.toNat_add]
  rfl

theorem pageUp_aligned (x : UInt64) : (pageUp x).toNat % 16384 = 0 := by
  rw [pageUp_toNat]
  omega

theorem pageUp_of_aligned (h : x.toNat % 16384 = 0) : pageUp x = x := by
  have hlt := x.toNat_lt
  refine UInt64.toNat_inj.mp ?_
  rw [pageUp_toNat]
  omega

/-- A length is rounded up exactly where the rounding does not wrap around. -/
theorem le_pageUp_iff (hx : x ≠ 0) : x.toNat ≤ (pageUp x).toNat ↔ x.toNat + 16383 < 2 ^ 64 := by
  have hlt := x.toNat_lt
  have hpos : 0 < x.toNat := Nat.pos_of_ne_zero fun h => hx (UInt64.toNat_inj.mp h)
  rw [pageUp_toNat]
  omega

theorem and_pageMask_eq_zero (h : x &&& (pageSize - 1) = 0) : x.toNat % 16384 = 0 := by
  have hmask : pageSize - 1 = lowMask 14 := by decide
  rw [hmask] at h
  have := and_lowMask_toNat (k := 14) (by decide) x
  rw [h] at this
  exact this.symm

end LinuxABI

end GuideXOS.Abi
