import GuideXOS.Vm.Snapshot

/-!
# `Devices` — guest memory and the devices of a virtual machine

What a machine shares between its processors: RAM with its page table and watchpoints, and the console, the timer, the
interrupt controller and the framebuffer. Each device has its construction, its `Reset`, and the two halves of its
snapshot.

* What the console has flushed to the host is gone from the machine and not part of its state.
* The interrupt controller hands every request on at once; who gets it is the machine's business.
-/

namespace GuideXOS.Machine
open Lib GuideXOS.Core GuideXOS.Vm

/-! ## Guest memory -/

inductive DebugConditionTarget
  | NONE | GENERAL_REGISTER | PREDICATE_REGISTER | INSTRUCTION_POINTER
  deriving DecidableEq

inductive DebugConditionOperator
  | ANY | EQUAL | NOT_EQUAL | GREATER | GREATER_OR_EQUAL | LESS | LESS_OR_EQUAL | IS_TRUE | IS_FALSE
  deriving DecidableEq

structure DebugCondition where
  target : DebugConditionTarget := .NONE
  op : DebugConditionOperator := .ANY
  index : Nat := 0
  value : UInt64 := 0
  deriving DecidableEq

inductive WatchpointType
  | READ | WRITE | ACCESS
  deriving DecidableEq

structure MemoryBreakpoint where
  id : UInt64
  addressStart : UInt64
  addressEnd : UInt64
  type : WatchpointType
  condition : DebugCondition := {}
  enabled : Bool := true
  deriving DecidableEq

/-- RAM, the page table, and the watchpoints with the numbers the MMU gave them. -/
structure GuestMemory where
  data : List UInt8
  pageTable : OrdMap UInt64 PageEntry := .empty
  mmuEnabled : Bool := false
  pageSize : UInt64 := 4096
  watchpoints : List (UInt64 × MemoryBreakpoint) := []

namespace GuestMemory

variable (m : GuestMemory)

/-- **`CreateSnapshot`.** -/
def createSnapshot : MemorySnapshot := ⟨m.data, m.pageTable, m.mmuEnabled⟩

/-- **`RestoreSnapshot`**; another size is an exception. -/
def restoreSnapshot (snapshot : MemorySnapshot) : Option GuestMemory :=
  if snapshot.data.length ≠ m.data.length then none
  else some { m with
    data := snapshot.data
    pageTable := snapshot.pageTable
    mmuEnabled := snapshot.mmuEnabled }

/-- **`UnregisterWatchpoint`**, the first one with this number. -/
def unregisterWatchpoint (watchpointId : UInt64) : GuestMemory :=
  { m with watchpoints := m.watchpoints.eraseP fun entry => entry.1 == watchpointId }

end GuestMemory

/-! ## The console -/

/-- **`ConsoleOutputBuffer`.** No more complete lines than `maxLines`, unless that is zero. -/
structure ConsoleOutputBuffer where
  lines : List String := []
  currentLine : String := ""
  maxLines : UInt64 := 10000
  totalBytesWritten : UInt64 := 0

namespace ConsoleOutputBuffer

variable (b : ConsoleOutputBuffer)

/-- **`enforceMaxLines`.** The oldest lines go. -/
def enforceMaxLines : ConsoleOutputBuffer :=
  if b.maxLines = 0 then b else { b with lines := b.lines.drop (b.lines.length - b.maxLines.toNat) }

/-- **`appendChar`**, with `completeLine`. -/
def appendChar (c : Char) : ConsoleOutputBuffer :=
  let b := { b with totalBytesWritten := b.totalBytesWritten + 1 }
  if c = '\n' then ({ b with lines := b.lines ++ [b.currentLine], currentLine := "" }).enforceMaxLines
  else { b with currentLine := b.currentLine.push c }

/-- **`getAllLines`.** -/
def getAllLines : List String :=
  if b.currentLine = "" then b.lines else b.lines ++ [b.currentLine]

/-- **`clear`.** -/
def clear : ConsoleOutputBuffer :=
  { b with lines := [], currentLine := "", totalBytesWritten := 0 }

/-- **`restoreExactState`.** -/
def restoreExactState (completeLines : List String) (currentLine : String) (maxLines totalBytesWritten : UInt64) :
    ConsoleOutputBuffer := enforceMaxLines ⟨completeLines, currentLine, maxLines, totalBytesWritten⟩

end ConsoleOutputBuffer

structure VirtualConsole where
  baseAddress : UInt64
  buffer : String := ""
  outputBuffer : ConsoleOutputBuffer := {}

namespace VirtualConsole

variable (c : VirtualConsole)

/-- **`createSnapshot`.** -/
def createSnapshot : ConsoleDeviceState where
  baseAddress := c.baseAddress
  currentBuffer := c.buffer
  outputLines := c.outputBuffer.getAllLines
  totalBytesWritten := c.outputBuffer.totalBytesWritten
  completeLines := c.outputBuffer.lines
  currentLine := c.outputBuffer.currentLine
  maxLines := c.outputBuffer.maxLines

/-- The lines of an old snapshot, written again. -/
def replayLines (b : ConsoleOutputBuffer) (outputLines : List String) : ConsoleOutputBuffer :=
  outputLines.foldl (fun b line => (line.toList.foldl ConsoleOutputBuffer.appendChar b).appendChar '\n') b.clear

/-- **`restoreSnapshot`.** A snapshot without the exact members has its lines written again. -/
def restoreSnapshot (snapshot : ConsoleDeviceState) : VirtualConsole where
  baseAddress := snapshot.baseAddress
  buffer := snapshot.currentBuffer
  outputBuffer :=
    if snapshot.completeLines ≠ [] ∨ snapshot.currentLine ≠ "" ∨ snapshot.maxLines ≠ 10000 ∨
        snapshot.totalBytesWritten = 0 then
      .restoreExactState snapshot.completeLines snapshot.currentLine snapshot.maxLines snapshot.totalBytesWritten
    else replayLines c.outputBuffer snapshot.outputLines

/-- **`Reset`.** -/
def reset : VirtualConsole := { c with buffer := "", outputBuffer := c.outputBuffer.clear }

/-- What the buffer of a console always is: within its limit, and empty only with nothing counted. -/
def Exact : Prop :=
  (c.outputBuffer.maxLines = 0 ∨ c.outputBuffer.lines.length ≤ c.outputBuffer.maxLines.toNat) ∧
    (c.outputBuffer.lines = [] → c.outputBuffer.currentLine = "" → c.outputBuffer.totalBytesWritten = 0)

end VirtualConsole

/-! ## The timer -/

structure VirtualTimer where
  baseAddress : UInt64
  intervalCycles : UInt64 := 0
  elapsedCycles : UInt64 := 0
  interruptVector : UInt8 := 0x20
  enabled : Bool := false
  periodic : Bool := true
  interruptPending : Bool := false
  deriving DecidableEq

namespace VirtualTimer

variable (t : VirtualTimer)

/-- **`createSnapshot`.** -/
def createSnapshot : TimerDeviceState where
  baseAddress := t.baseAddress
  intervalCycles := t.intervalCycles
  elapsedCycles := t.elapsedCycles
  interruptVector := t.interruptVector
  enabled := t.enabled
  periodic := t.periodic
  interruptPending := t.interruptPending

/-- **`restoreSnapshot`** assigns every member. -/
def restoreSnapshot (snapshot : TimerDeviceState) : VirtualTimer where
  baseAddress := snapshot.baseAddress
  intervalCycles := snapshot.intervalCycles
  elapsedCycles := snapshot.elapsedCycles
  interruptVector := snapshot.interruptVector
  enabled := snapshot.enabled
  periodic := snapshot.periodic
  interruptPending := snapshot.interruptPending

/-- **`Reset`.** -/
def reset : VirtualTimer := { baseAddress := t.baseAddress }

/-- **`Tick`**, with the vectors it raises: a periodic timer once for each interval that has passed, another timer
    once. -/
def tick (cycles : UInt64) : VirtualTimer × List UInt8 :=
  if t.enabled = false ∨ t.intervalCycles = 0 ∨ cycles = 0 then (t, [])
  else
    let elapsed := t.elapsedCycles + cycles
    if elapsed < t.intervalCycles then ({ t with elapsedCycles := elapsed }, [])
    else if t.periodic then
      ({ t with elapsedCycles := elapsed % t.intervalCycles, interruptPending := true },
        List.replicate (elapsed / t.intervalCycles).toNat t.interruptVector)
    else ({ t with elapsedCycles := 0, enabled := false, interruptPending := true }, [t.interruptVector])

end VirtualTimer

/-! ## The interrupt controller -/

structure BasicInterruptController where
  pendingVectors : List UInt8 := []
  sources : List InterruptSource := []
  nextSourceId : UInt64 := 1

namespace BasicInterruptController

variable (c : BasicInterruptController)

/-- **`RaiseInterrupt`** of a vector, with what is delivered: everything that waits, in order. -/
def raiseInterrupt (vector : UInt8) : BasicInterruptController × List UInt8 :=
  ({ c with pendingVectors := [] }, c.pendingVectors ++ [vector])

/-- **`Reset`** keeps the sources. -/
def reset : BasicInterruptController := { c with pendingVectors := [] }

/-- **`createSnapshot`.** One flag for each vector. -/
def createSnapshot : InterruptControllerState where
  pendingInterrupts := (List.range 256).map fun v => c.pendingVectors.contains (UInt8.ofNat v)
  maskedInterrupts := (List.range 256).map fun v =>
    c.sources.any fun source => !source.enabled && source.vector == UInt8.ofNat v
  vectorBase := 0
  enabled := true
  sources := c.sources
  nextSourceId := c.nextSourceId

/-- A source with the mask of its vector. -/
def unmask (masked : List Bool) (source : InterruptSource) : InterruptSource :=
  match masked[source.vector.toNat]? with
  | some flag => { source with enabled := !flag }
  | none => source

/-- **`restoreSnapshot`.** -/
def restoreSnapshot (snapshot : InterruptControllerState) : BasicInterruptController :=
  let c := { c with
    pendingVectors := (List.range snapshot.pendingInterrupts.length).filterMap fun v =>
      if snapshot.pendingInterrupts[v]? = some true then some (UInt8.ofNat v) else none
    sources := c.sources.map (unmask snapshot.maskedInterrupts) }
  if snapshot.sources ≠ [] then { c with sources := snapshot.sources, nextSourceId := snapshot.nextSourceId } else c

end BasicInterruptController

/-! ## The framebuffer -/

structure FramebufferDevice where
  baseAddress : UInt64
  width : Nat
  height : Nat
  framebuffer : List UInt8

/-- Pixels of one colour. -/
def clearedPixels (width height : Nat) (color : UInt32) : List UInt8 :=
  (List.replicate (width * height) (Words.bytesOfWord 4 color.toUInt64)).flatten

/-- The constructor: a black screen. -/
def FramebufferDevice.construct (baseAddress : UInt64) (width height : Nat) : FramebufferDevice :=
  ⟨baseAddress, width, height, clearedPixels width height 0xFF000000⟩

end GuideXOS.Machine
