import GuideXOS.Core.RawWrites

/-!
# `Bootstrap` — the initial stack of a process

`SetupInitialStack` sizes the strings and the pointer area, rounds the size up and the start down, and fills the area
from four cursors: the argument pointers, the environment pointers, the auxiliary vector, and the strings behind them.
`decodeStack` is what a process finds there.

* Of the configuration only what the stack is made of is modelled.
* A string is its bytes without the terminator.
-/

namespace GuideXOS.Loader
open Lib Lib.Words GuideXOS.Core

structure AuxVec where
  type : UInt64
  value : UInt64
  deriving DecidableEq

def AT_NULL : UInt64 := 0

/-- The bytes of strings with their terminators. -/
def stringBytes (strings : List (List UInt8)) : Nat := (strings.map fun s => s.length + 1).sum

/-- The bytes of the pointer area. -/
def pointerBytes (argc envc auxc : Nat) : Nat := 8 + (argc + 1) * 8 + (envc + 1) * 8 + (auxc + 1) * 16

/-- The vectors and their strings lie in the host's memory, so that their sizes are machine words. -/
structure BootstrapConfig where
  stackTop : UInt64
  stackSize : UInt64
  argv : List (List UInt8)
  envp : List (List UInt8)
  auxv : List AuxVec
  fits : pointerBytes argv.length envp.length auxv.length + (stringBytes argv + stringBytes envp) + 15 < 2 ^ 64

/-- The loop over the strings that have to be stored. -/
def addStringSizes (size : UInt64) (strings : List (List UInt8)) : UInt64 :=
  strings.foldl (fun size s => size + (UInt64.ofNat s.length + 1)) size

/-- The loop that stores strings: a pointer, then the string it points to; the last pointer is null. It returns where the
    next string goes. -/
def stringWrites (pointer address : UInt64) : List (List UInt8) → List RawWrite × UInt64
  | [] => ([.word pointer 0], address)
  | s :: strings =>
      let rest := stringWrites (pointer + 8) (address + (UInt64.ofNat s.length + 1)) strings
      (.word pointer address :: ⟨address, s ++ [0]⟩ :: rest.1, rest.2)

/-- The loop that stores the auxiliary vector, and its end. -/
def auxvWrites (auxvAddr : UInt64) : List AuxVec → List RawWrite
  | [] => [.word auxvAddr AT_NULL, .word (auxvAddr + 8) 0]
  | aux :: auxv => .word auxvAddr aux.type :: .word (auxvAddr + 8) aux.value :: auxvWrites (auxvAddr + 16) auxv

namespace BootstrapConfig

variable (config : BootstrapConfig)

def argc : UInt64 := UInt64.ofNat config.argv.length
def envc : UInt64 := UInt64.ofNat config.envp.length
def auxc : UInt64 := UInt64.ofNat config.auxv.length

def totalStackUsage : UInt64 :=
  let stringDataSize := addStringSizes (addStringSizes 0 config.argv) config.envp
  let pointerSpace := 8 + (config.argc + 1) * 8 + (config.envc + 1) * 8 + (config.auxc + 1) * 16
  (pointerSpace + stringDataSize + 15) &&& ~~~15

def stackStart : UInt64 := (config.stackTop - config.totalStackUsage) &&& ~~~15

def argvPtrBase : UInt64 := config.stackStart + 8
def envpPtrBase : UInt64 := config.argvPtrBase + (config.argc + 1) * 8
def auxvBase : UInt64 := config.envpPtrBase + (config.envc + 1) * 8
def stringDataAddr : UInt64 := config.auxvBase + (config.auxc + 1) * 16

/-- The stores, in their order. -/
def stackWrites : List RawWrite :=
  let argv := stringWrites config.argvPtrBase config.stringDataAddr config.argv
  let envp := stringWrites config.envpPtrBase argv.2 config.envp
  .word config.stackStart config.argc :: (argv.1 ++ envp.1 ++ auxvWrites config.auxvBase config.auxv)

end BootstrapConfig

/-- **`SetupInitialStack`.** -/
def setupInitialStack {D : Type} (memory : Memory D) (config : BootstrapConfig) :
    Except MemoryError UInt64 × Memory D :=
  if config.totalStackUsage > config.stackSize then
    (.error (.runtimeError "Stack usage exceeds configured stack size"), memory)
  else
    let written := memory.writeAll config.stackWrites
    (written.1.map fun _ => config.stackStart, written.2)

/-! ## What the process finds -/

section Decode
variable (m : FlatMemory)

def readPointers (address : UInt64) : Nat → Option (List UInt64)
  | 0 => some []
  | n + 1 =>
      (readGuestU64 m address).bind fun pointer =>
        (readPointers (address + 8) n).map fun pointers => pointer :: pointers

/-- Pointers up to the null pointer, and the address behind it. -/
def readUntilNull : Nat → UInt64 → Option (List UInt64 × UInt64)
  | 0, _ => none
  | fuel + 1, address =>
      (readGuestU64 m address).bind fun pointer =>
        if pointer = 0 then some ([], address + 8)
        else (readUntilNull fuel (address + 8)).map fun rest => (pointer :: rest.1, rest.2)

/-- Pairs up to `AT_NULL`, and the address behind it. -/
def readAuxv : Nat → UInt64 → Option (List AuxVec × UInt64)
  | 0, _ => none
  | fuel + 1, address =>
      (readGuestU64 m address).bind fun type =>
        (readGuestU64 m (address + 8)).bind fun value =>
          if type = AT_NULL then some ([], address + 16)
          else (readAuxv fuel (address + 16)).map fun rest => (⟨type, value⟩ :: rest.1, rest.2)

/-- The bytes up to the terminator. -/
def readCString : Nat → UInt64 → Option (List UInt8)
  | 0, _ => none
  | fuel + 1, address =>
      (readByte m address).bind fun b =>
        if b = 0 then some [] else (readCString fuel (address + 1)).map fun rest => b :: rest

/-- The stack as a process reads it. -/
structure InitialStack where
  argvPointers : List UInt64
  envpPointers : List UInt64
  auxv : List AuxVec
  pointerEnd : UInt64
  argv : List (List UInt8)
  envp : List (List UInt8)
  deriving DecidableEq

/-- **From the stack pointer**: the count, as many pointers, a null pointer, pointers up to a null pointer, pairs up to
    `AT_NULL`; and the strings the pointers lead to. -/
def decodeStack (sp : UInt64) : Option InitialStack := do
  let fuel := m.data.length + 1
  let argc ← readGuestU64 m sp
  let argvPointers ← readPointers m (sp + 8) argc.toNat
  let null ← readGuestU64 m (sp + 8 + argc * 8)
  if null ≠ 0 then none
  else do
    let envp ← readUntilNull m fuel (sp + 8 + argc * 8 + 8)
    let auxv ← readAuxv m fuel envp.2
    let argvStrings ← argvPointers.mapM (readCString m fuel)
    let envpStrings ← envp.1.mapM (readCString m fuel)
    return ⟨argvPointers, envp.1, auxv.1, auxv.2, argvStrings, envpStrings⟩

end Decode

end GuideXOS.Loader
