import GuideXOS.Isa.Checkpoint

/-!
# `CheckpointRestore` — a refused checkpoint changes nothing

`deserializeCheckpointState` assigns to the plugin and to the process-wide handoff addresses. `restoreTransaction` is
the function with its assignments where the source has them, so that a `return false` behind one of them would leave
it standing; `deserializeCheckpointState` of `Checkpoint` says only what the function answers.

All of the reading comes first and assigns nothing, and nothing after the first assignment refuses. Reading goes
through `CheckpointBlobReader` alone, which looks at what is left before it takes a byte.
-/

namespace GuideXOS.Isa
open Lib Lib.Transaction GuideXOS.Core

/-- What the function assigns to: the plugin, and the handoff addresses the whole process shares. -/
structure CheckpointTarget (I : Type) where
  globals : EfiHandoffGlobals
  plugin : IA64ISAPlugin I

namespace CheckpointTarget
variable {I : Type}

def onPlugin (f : IA64ISAPlugin I → IA64ISAPlugin I) (t : CheckpointTarget I) : CheckpointTarget I :=
  { t with plugin := f t.plugin }

/-- `applyEfiHandoffLayoutBase` or `resetEfiHandoffLayoutGlobals`, by the layout the plugin has by now. -/
def rebuildGlobals (t : CheckpointTarget I) : CheckpointTarget I :=
  { t with globals := IA64ISAPlugin.restoreHandoffGlobals t.plugin.handoff t.globals }

end CheckpointTarget

open CheckpointTarget

section
variable {I : Type}

/-- The assignments at the end of **`deserializeCheckpointState`**, in their order. Where the source assigns a field
    twice this is the second value. -/
def commitCheckpoint (r : RestoredCheckpoint) : Transaction (CheckpointTarget I) Unit := do
  assign (onPlugin fun q => q.setCpu r.cpu)
  assign (onPlugin fun q => { q with state := { q.state with
    currentBundle := {}
    currentSlot := 0
    bundleValid := false
    predicateGroupSnapshot := r.execution.predicateGroupSnapshot
    interruptVectorBase := r.execution.interruptVectorBase
    pendingInterrupts := r.execution.pendingInterrupts } })
  assign (onPlugin fun q => { q with frames := { q.frames with
    pendingCallInputs := r.frames.pendingCallInputs
    callFrameStack := r.frames.callFrameStack
    completedCallFrames := r.frames.completedCallFrames } })
  assign (onPlugin fun q => { q with services := { q.services with
    efiCurrentTpl := r.efiCurrentTpl
    efiInputQueue := r.efiInputQueue } })
  assign (onPlugin fun q => { q with cachedInstruction := none })
  assign (onPlugin fun q => { q with services := { q.services with
    lastEfiDescriptorFieldAddress := r.lastEfiDescriptorFieldAddress
    efiNextSyntheticHandle := r.efiNextSyntheticHandle } })
  assign (onPlugin fun q => { q with counters := r.counters, trace := r.trace })
  assign (onPlugin fun q => { q with
    services := { q.services with
      efiProtocolAttachments := r.efiProtocolAttachments
      efiFileHandles := r.efiFileHandles
      efiLoadedImages := r.efiLoadedImages
      boot := ⟨r.handoff.efiBootImage, r.handoff.efiBootImageFromVmManager, none⟩ }
    memoryMap := r.memoryMap })
  assign (onPlugin fun q => { q with handoff := { q.handoff with
    efiHandoffLayoutMemorySize := r.handoff.handoff.efiHandoffLayoutMemorySize
    efiHandoffLayoutInitialized := r.handoff.handoff.efiHandoffLayoutInitialized } })
  assign rebuildGlobals
  assign (onPlugin fun q => { q with trace := { q.trace with
    pendingRegisterConfigEntryTarget := r.handoff.pendingRegisterConfigEntryTarget
    pendingRegisterConfigEntryCallsite := r.handoff.pendingRegisterConfigEntryCallsite
    pendingRegisterConfigEntryArmed := r.handoff.pendingRegisterConfigEntryArmed } })
  assign (onPlugin fun q => { q with handoff := { q.handoff with
    efiHandoffBoundaryPending := r.handoff.handoff.efiHandoffBoundaryPending
    efiHandoffBoundary := r.handoff.handoff.efiHandoffBoundary
    efiHandoffCheckpointConsumed := r.handoff.handoff.efiHandoffCheckpointConsumed } })
  assign (onPlugin fun q => { q with interrupts := { r.interrupts with
    intervalTimerConfigured := r.interrupts.intervalTimerConfigured || r.cpu.getCR IA64_CR_ITM != 0 } })

/-- **`deserializeCheckpointState`**, with its assignments. -/
def restoreTransaction (data : List UInt8) : Transaction (CheckpointTarget I) Unit := do
  read (Reader.require (data.length ≤ kMaxCheckpointBlobBytes))
  let r ← read readCheckpoint.exactly
  commitCheckpoint r

/-- How a call ends: `true` after so many bytes, `false`, or beyond the end of the vector. -/
inductive RestoreEnd
  | accepted (consumed : Nat)
  | refused
  | readPastTheEnd
  deriving DecidableEq

/-- **`deserializeCheckpointState`**: how it ends, and what it leaves. -/
def runRestore (t : CheckpointTarget I) (data : List UInt8) : RestoreEnd × CheckpointTarget I :=
  match (restoreTransaction data).run (Input.start data) t with
  | (.ok ((), s), t') => (.accepted s.offset, t')
  | (.error .refused, t') => (.refused, t')
  | (.error .outOfBounds, t') => (.readPastTheEnd, t')

/-! ## The assignments -/

/-- Together the assignments make the plugin of `restoreCheckpoint`. -/
theorem run_commitCheckpoint (r : RestoredCheckpoint) (s : Input) (t : CheckpointTarget I) :
    (commitCheckpoint r).run s t =
      (.ok ((), s), ⟨IA64ISAPlugin.restoreHandoffGlobals r.handoff.handoff t.globals, t.plugin.restoreCheckpoint r⟩) := rfl

theorem certain_commitCheckpoint (r : RestoredCheckpoint) : (commitCheckpoint (I := I) r).Certain := by
  intro s t
  rw [run_commitCheckpoint]
  exact ⟨_, rfl⟩

theorem atomic_restoreTransaction (data : List UInt8) : (restoreTransaction (I := I) data).Atomic := by
  refine (quiet_read _).bind_atomic fun _ => ?_
  refine (quiet_read _).bind_atomic fun r => ?_
  exact (certain_commitCheckpoint r).atomic

/-! ## The call -/

/-- An accepted vector is not too long, was read from its first byte to its last, and only then the assignments
    ran. -/
theorem restoreTransaction_ok {data : List UInt8} {t t' : CheckpointTarget I} {s : Input}
    (h : (restoreTransaction data).run (Input.start data) t = (.ok ((), s), t')) :
    s.offset = data.length ∧ data.length ≤ kMaxCheckpointBlobBytes ∧ ∃ r, readCheckpoint.parse data = some r ∧
      t' = ⟨IA64ISAPlugin.restoreHandoffGlobals r.handoff.handoff t.globals, t.plugin.restoreCheckpoint r⟩ := by
  obtain ⟨_, s₁, t₁, hfirst, hrest⟩ := run_bind_ok h
  obtain ⟨hsize, rfl⟩ := read_ok hfirst
  have hstart : data.length ≤ kMaxCheckpointBlobBytes ∧ s₁ = Input.start data := by
    unfold Reader.require at hsize
    split at hsize
    · next hle => exact ⟨hle, (Prod.mk.inj (Except.ok.inj hsize)).2.symm⟩
    · cases hsize
  obtain ⟨hle, rfl⟩ := hstart
  obtain ⟨r, s₂, t₂, hsecond, hcommit⟩ := run_bind_ok hrest
  obtain ⟨hread, rfl⟩ := read_ok hsecond
  rw [run_commitCheckpoint] at hcommit
  obtain ⟨hsame, rfl⟩ := Prod.mk.inj hcommit
  obtain rfl : s₂ = s := (Prod.mk.inj (Except.ok.inj hsame)).2
  obtain ⟨-, -, hend⟩ := Reader.exactly_ok hread
  have hdata : s₂.data = data := by
    have hsound := readCheckpoint.exactly.sound (Input.start data)
    rw [hread] at hsound
    exact hsound.1
  refine ⟨hdata ▸ hend, hle, r, ?_, rfl⟩
  unfold Reader.parse
  rw [hread]

end

/-- **Restoring is total and atomic.** For every byte vector the call ends in one of two ways: it has consumed the
    whole vector and answers `true`, or it answers `false` and has changed nothing. It never leaves the vector. -/
theorem checkpointRestore_atomic {I : Type} :
    ∀ (data : List UInt8) (t : CheckpointTarget I),
      (∃ t', runRestore t data = (.accepted data.length, t')) ∨ runRestore t data = (.refused, t) := by
  intro data t
  have hsound := (restoreTransaction (I := I) data).sound (Input.start data) t
  have hatomic := atomic_restoreTransaction (I := I) data (Input.start data) t
  cases hrun : (restoreTransaction data).run (Input.start data) t with
  | mk result t' =>
      rw [hrun] at hsound hatomic
      unfold runRestore
      rw [hrun]
      cases result with
      | ok p =>
          obtain ⟨⟨⟩, s⟩ := p
          have hconsumed := (restoreTransaction_ok hrun).1
          exact .inl ⟨t', by rw [← hconsumed]⟩
      | error e =>
          -- a stop is a refusal, since every byte is asked for before it is taken
          obtain rfl : e = .refused := hsound
          exact .inr (Prod.ext rfl (hatomic _ rfl))

end GuideXOS.Isa
