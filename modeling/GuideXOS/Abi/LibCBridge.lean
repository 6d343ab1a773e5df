import GuideXOS.Abi.LinuxABI
import GuideXOS.Core.PlainMemory
import GuideXOS.Lib.Merging
import Mathlib.Data.List.Sort

/-!
# `LibCBridge` — the guest heap

`Malloc`, `Calloc`, `Realloc` and `Free` as the bridge computes them. The heap is one table of blocks: a request
takes the first free block that is large enough, as a whole, and else moves the heap pointer, which `SysBrk`
extends. Freed neighbours are merged. Memory is touched only to clear and to copy, byte by byte, so that an access
that faults leaves what was written before it.
-/

namespace GuideXOS.Abi
open Core Lib.Words Lib.Merging

structure LibCAllocBlock where
  address : UInt64
  size : UInt64
  inUse : Bool
  deriving DecidableEq

structure LibCBridge where
  abi : Option LinuxABI
  heapStart : UInt64
  heapCurrent : UInt64
  heapEnd : UInt64
  allocations : List LibCAllocBlock

def LIBC_MALLOC_ALIGNMENT : UInt64 := 16
def LIBC_HEAP_START : UInt64 := 0x40000000
def LIBC_HEAP_SIZE : UInt64 := 0x10000000

/-! ## Bytes -/

section Bytes
variable {M : Type _} [IMemory M]

/-- **`Memset`.** -/
def memset (m : M) (destAddr : UInt64) (byteVal : UInt8) : Nat → Except String Unit × M
  | 0 => (.ok (), m)
  | n + 1 =>
      match IMemory.write m destAddr [byteVal] with
      | .error e => (.error e, m)
      | .ok m' => memset m' (destAddr + 1) byteVal n

/-- **`Memcpy`.** -/
def memcpy (m : M) (destAddr srcAddr : UInt64) : Nat → Except String Unit × M
  | 0 => (.ok (), m)
  | n + 1 =>
      match IMemory.read m srcAddr 1 with
      | .error e => (.error e, m)
      | .ok byte =>
          match IMemory.write m destAddr byte with
          | .error e => (.error e, m)
          | .ok m' => memcpy m' (destAddr + 1) (srcAddr + 1) n

end Bytes

namespace LibCBridge

/-- The bridge of a Linux layer, before its first call. -/
def initialized (abi : Option LinuxABI) : LibCBridge :=
  ⟨abi, LIBC_HEAP_START, LIBC_HEAP_START, LIBC_HEAP_START + LIBC_HEAP_SIZE, []⟩

def alignedSize (size : UInt64) : UInt64 := (size + LIBC_MALLOC_ALIGNMENT - 1) &&& ~~~(LIBC_MALLOC_ALIGNMENT - 1)

variable (bridge : LibCBridge)

/-- **`ExtendHeap`.** -/
def extendHeap (additionalSize : UInt64) : Bool × LibCBridge :=
  match bridge.abi with
  | none => (false, bridge)
  | some abi =>
      let newBrk := bridge.heapCurrent + additionalSize
      let (result, abi') := abi.sysBrk newBrk
      let bridge' := { bridge with abi := some abi' }
      if result.success && newBrk ≤ result.returnValue.toUInt64 then
        (true, { bridge' with heapEnd := result.returnValue.toUInt64 })
      else (false, bridge')

/-- What **`FindFreeBlock`** looks for. -/
def fits (size : UInt64) (block : LibCAllocBlock) : Bool := !block.inUse && size ≤ block.size

/-- The block a pointer stands for. -/
def owns (ptr : UInt64) (block : LibCAllocBlock) : Bool := block.address = ptr && block.inUse

/-- **`Malloc`.** -/
def malloc (size : UInt64) : UInt64 × LibCBridge :=
  if size = 0 then (0, bridge)
  else
    let alignedSize := alignedSize size
    match bridge.allocations.find? (fits alignedSize) with
    | some block =>
        (block.address,
          { bridge with
            allocations := updateFirst (fits alignedSize) (fun block => { block with inUse := true }) bridge.allocations })
    | none =>
        let (extended, bridge') :=
          if bridge.heapEnd < bridge.heapCurrent + alignedSize then bridge.extendHeap alignedSize else (true, bridge)
        if !extended then (0, bridge')
        else
          (bridge'.heapCurrent,
            { bridge' with
              heapCurrent := bridge'.heapCurrent + alignedSize
              allocations := bridge'.allocations ++ [⟨bridge'.heapCurrent, alignedSize, true⟩] })

/-- Neighbours that `CoalesceFreeBlocks` makes one block. -/
def adjacentFree (a b : LibCAllocBlock) : Bool := !a.inUse && !b.inUse && a.address + a.size = b.address

def absorb (a b : LibCAllocBlock) : LibCAllocBlock := { a with size := a.size + b.size }

/-- **`CoalesceFreeBlocks`.** Blocks of one address keep the order they had. -/
def coalesceFreeBlocks (allocations : List LibCAllocBlock) : List LibCAllocBlock :=
  match allocations.insertionSort fun a b => a.address ≤ b.address with
  | [] => []
  | block :: blocks => mergeFrom adjacentFree absorb block blocks

/-- **`Free`.** -/
def free (ptr : UInt64) : LibCBridge :=
  if ptr = 0 then bridge
  else
    match bridge.allocations.find? (owns ptr) with
    | none => bridge
    | some _ =>
        { bridge with
          allocations := coalesceFreeBlocks
            (updateFirst (owns ptr) (fun block => { block with inUse := false }) bridge.allocations) }

/-- What a call returns, and the heap and memory it leaves. -/
structure Outcome (M : Type _) where
  returned : Except String UInt64
  bridge : LibCBridge
  memory : M

section Calls
variable {M : Type _} [IMemory M]

/-- **`Calloc`.** -/
def calloc (bridge : LibCBridge) (memory : M) (nmemb size : UInt64) : Outcome M :=
  let totalSize := nmemb * size
  if totalSize = 0 then ⟨.ok 0, bridge, memory⟩
  else
    let (addr, bridge') := bridge.malloc totalSize
    if addr ≠ 0 then
      let (done, memory') := memset memory addr 0 totalSize.toNat
      ⟨done.map fun _ => addr, bridge', memory'⟩
    else ⟨.ok addr, bridge', memory⟩

/-- **`Realloc`.** -/
def realloc (bridge : LibCBridge) (memory : M) (ptr size : UInt64) : Outcome M :=
  if ptr = 0 then
    let (addr, bridge') := bridge.malloc size
    ⟨.ok addr, bridge', memory⟩
  else if size = 0 then ⟨.ok 0, bridge.free ptr, memory⟩
  else
    match bridge.allocations.find? (owns ptr) with
    | none => ⟨.ok 0, bridge, memory⟩
    | some block =>
        let oldSize := block.size
        let alignedSize := alignedSize size
        if alignedSize ≤ oldSize then
          let shrunk := updateFirst (owns ptr) (fun block => { block with size := alignedSize }) bridge.allocations
          ⟨.ok ptr, { bridge with allocations := shrunk }, memory⟩
        else
          let (newAddr, bridge') := bridge.malloc size
          if newAddr = 0 then ⟨.ok 0, bridge', memory⟩
          else
            match memcpy memory newAddr ptr oldSize.toNat with
            | (.error e, memory') => ⟨.error e, bridge', memory'⟩
            | (.ok _, memory') => ⟨.ok newAddr, bridge'.free ptr, memory'⟩

end Calls

end LibCBridge

end GuideXOS.Abi
