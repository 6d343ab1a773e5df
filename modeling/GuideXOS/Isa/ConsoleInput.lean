import GuideXOS.Isa.EfiMemoryMap

/-!
# `ConsoleInput` — the key queue and the two services that read it

Keys are queued by the host and taken out by `ReadKeyStroke` and `ReadKeyStrokeEx`. A call takes the first key out of
the queue and then stores it field by field; a store that guest memory refuses is answered with an error, and the key is
gone (`lossless_iff`). Where the records can be stored, the keys that the calls deliver and the keys that still wait are
the keys that were queued, in their order
(`delivered_run`).
-/

namespace GuideXOS.Isa
open Lib Lib.Words Lib.Runs GuideXOS.Core

/-! ## The services -/

namespace EfiCounters

variable (c : EfiCounters)

def countReadKeyStroke (extended : Bool) : EfiCounters :=
  if extended then { c with efiReadKeyStrokeExCalls := c.efiReadKeyStrokeExCalls + 1 }
  else { c with efiReadKeyStrokeCalls := c.efiReadKeyStrokeCalls + 1 }

def countReadKeyStrokeNotReady (extended : Bool) : EfiCounters :=
  if extended then { c with efiReadKeyStrokeExNotReadyCalls := c.efiReadKeyStrokeExNotReadyCalls + 1 }
  else { c with efiReadKeyStrokeNotReadyCalls := c.efiReadKeyStrokeNotReadyCalls + 1 }

def countReadKeyStrokeSuccess (extended : Bool) : EfiCounters :=
  if extended then { c with efiReadKeyStrokeExSuccessCalls := c.efiReadKeyStrokeExSuccessCalls + 1 }
  else { c with efiReadKeyStrokeSuccessCalls := c.efiReadKeyStrokeSuccessCalls + 1 }

end EfiCounters

/-- The fields of a key, as `(width, address, value)`. The extended record has three bytes of padding. -/
def keyFields (keyDataOut : UInt64) (key : EfiInputKey) (extended : Bool) : List (Nat × UInt64 × UInt64) :=
  [(2, keyDataOut + 0, key.scanCode.toUInt64), (2, keyDataOut + 2, key.unicodeChar.toUInt64)] ++
    if extended then
      [(4, keyDataOut + 4, key.shiftState.toUInt64), (1, keyDataOut + 8, key.toggleState.toUInt64),
        (3, keyDataOut + 9, 0)]
    else []

section Services
variable {I M : Type _} [IMemory M]

def IA64ISAPlugin.setInputQueue (p : IA64ISAPlugin I) (queue : List EfiInputKey) : IA64ISAPlugin I :=
  { p with services := { p.services with efiInputQueue := queue } }

/-- **`enqueueEfiInputKey`.** -/
def IA64ISAPlugin.enqueueEfiInputKey (p : IA64ISAPlugin I) (key : EfiInputKey) : IA64ISAPlugin I :=
  p.setInputQueue (p.services.efiInputQueue ++ [key])

/-- **`handleEfiReadKeyStroke`.** The status, the plugin and the guest memory after the call. The key leaves the queue
    before it is stored. -/
def handleEfiReadKeyStroke (p : IA64ISAPlugin I) (memory : M) (extended : Bool) : UInt64 × IA64ISAPlugin I × M :=
  let p := p.setCounters (p.counters.countReadKeyStroke extended)
  let keyDataOut := readCallerOutputRegister p.cpu 1
  if keyDataOut = 0 then (EFI_STATUS_INVALID_PARAMETER, p, memory)
  else
    match p.services.efiInputQueue with
    | [] => (EFI_STATUS_NOT_READY, p.setCounters (p.counters.countReadKeyStrokeNotReady extended), memory)
    | key :: queue =>
        let p := p.setInputQueue queue
        match writeGuestFields memory (keyFields keyDataOut key extended) with
        | (false, memory) => (EFI_STATUS_INVALID_PARAMETER, p, memory)
        | (true, memory) =>
            (EFI_STATUS_SUCCESS, p.setCounters (p.counters.countReadKeyStrokeSuccess extended), memory)

/-! ## One call -/

/-- A call, with the processor and the guest memory it finds. -/
structure KeyStrokeCall (M : Type _) where
  cpu : CPUState
  memory : M
  extended : Bool

namespace KeyStrokeCall

variable (p : IA64ISAPlugin I) (call : KeyStrokeCall M)

def result : UInt64 × IA64ISAPlugin I × M :=
  handleEfiReadKeyStroke (p.setCpu call.cpu) call.memory call.extended

/-- Where the caller wants the key. -/
def keyDataOut : UInt64 := readCallerOutputRegister call.cpu 1

/-- The call stores the key, all of it, and takes it out of the queue. -/
def Delivers (key : EfiInputKey) : Prop :=
  writeGuestFields call.memory (keyFields call.keyDataOut key call.extended) = (true, (call.result p).2.2) ∧
    p.services.efiInputQueue = key :: (call.result p).2.1.services.efiInputQueue

/-- **Nothing is lost**: a successful call delivers a key, and every other call leaves the queue as it was. -/
def Lossless : Prop :=
  ((call.result p).1 = EFI_STATUS_SUCCESS → ∃ key, call.Delivers p key) ∧
    ((call.result p).1 ≠ EFI_STATUS_SUCCESS →
      (call.result p).2.1.services.efiInputQueue = p.services.efiInputQueue)

/-- The first key can be stored where the caller wants it. -/
def Storable : Prop :=
  call.keyDataOut ≠ 0 → ∀ key ∈ p.services.efiInputQueue.head?,
    (writeGuestFields call.memory (keyFields call.keyDataOut key call.extended)).1 = true

end KeyStrokeCall

variable {p : IA64ISAPlugin I} {call : KeyStrokeCall M}

/-- **What a call can do.** -/
inductive KeyStrokeCall.Outcome (p : IA64ISAPlugin I) (call : KeyStrokeCall M) : Prop where
  | null (hout : call.keyDataOut = 0) (hstatus : (call.result p).1 = EFI_STATUS_INVALID_PARAMETER)
      (hqueue : (call.result p).2.1.services.efiInputQueue = p.services.efiInputQueue)
  | notReady (hempty : p.services.efiInputQueue = []) (hstatus : (call.result p).1 = EFI_STATUS_NOT_READY)
      (hqueue : (call.result p).2.1.services.efiInputQueue = p.services.efiInputQueue)
  | refused (key : EfiInputKey) (hout : call.keyDataOut ≠ 0)
      (hqueue : p.services.efiInputQueue = key :: (call.result p).2.1.services.efiInputQueue)
      (hwrite : (writeGuestFields call.memory (keyFields call.keyDataOut key call.extended)).1 = false)
      (hstatus : (call.result p).1 = EFI_STATUS_INVALID_PARAMETER)
  | stored (key : EfiInputKey)
      (hqueue : p.services.efiInputQueue = key :: (call.result p).2.1.services.efiInputQueue)
      (hwrite : writeGuestFields call.memory (keyFields call.keyDataOut key call.extended) =
        (true, (call.result p).2.2))
      (hstatus : (call.result p).1 = EFI_STATUS_SUCCESS)

theorem outcome (p : IA64ISAPlugin I) (call : KeyStrokeCall M) : call.Outcome p := by
  have hout : readCallerOutputRegister call.cpu 1 = call.keyDataOut := rfl
  have hresult : call.result p = handleEfiReadKeyStroke (p.setCpu call.cpu) call.memory call.extended := rfl
  have hkept : (p.setCpu call.cpu).services.efiInputQueue = p.services.efiInputQueue := rfl
  unfold handleEfiReadKeyStroke at hresult
  dsimp only at hresult
  by_cases hnull : call.keyDataOut = 0
  · have hnull' : readCallerOutputRegister ((p.setCpu call.cpu).setCounters
        ((p.setCpu call.cpu).counters.countReadKeyStroke call.extended)).cpu 1 = 0 := hnull
    rw [if_pos hnull'] at hresult
    refine .null hnull ?_ ?_
    · rw [hresult]
    · rw [hresult]
      rfl
  · have hnull' : ¬ readCallerOutputRegister ((p.setCpu call.cpu).setCounters
        ((p.setCpu call.cpu).counters.countReadKeyStroke call.extended)).cpu 1 = 0 := hnull
    rw [if_neg hnull'] at hresult
    cases hqueue : p.services.efiInputQueue with
    | nil =>
        have hqueue' : ((p.setCpu call.cpu).setCounters
            ((p.setCpu call.cpu).counters.countReadKeyStroke call.extended)).services.efiInputQueue = [] := hqueue
        simp only [hqueue'] at hresult
        refine .notReady hqueue ?_ ?_
        · rw [hresult]
        · rw [hresult, hqueue]
          exact hqueue
    | cons key queue =>
        have hqueue' : ((p.setCpu call.cpu).setCounters ((p.setCpu call.cpu).counters.countReadKeyStroke
            call.extended)).services.efiInputQueue = key :: queue := hqueue
        simp only [hqueue'] at hresult
        cases hwrite : writeGuestFields call.memory (keyFields call.keyDataOut key call.extended) with
        | mk written memory =>
            have hwrite' : writeGuestFields call.memory (keyFields (readCallerOutputRegister ((p.setCpu
                call.cpu).setCounters ((p.setCpu call.cpu).counters.countReadKeyStroke call.extended)).cpu 1) key
                call.extended) = (written, memory) := hwrite
            rw [hwrite'] at hresult
            cases written with
            | false =>
                refine .refused key hnull ?_ ?_ ?_
                · rw [hresult, hqueue]
                  rfl
                · rw [hwrite]
                · rw [hresult]
            | true =>
                refine .stored key ?_ ?_ ?_
                · rw [hresult, hqueue]
                  rfl
                · rw [hresult, hwrite]
                · rw [hresult]

open KeyStrokeCall in
/-- **A call loses nothing exactly when the first key can be stored.** -/
theorem lossless_iff : call.Lossless p ↔ call.Storable p := by
  rcases outcome p call with ⟨hout, hstatus, hqueue⟩ | ⟨hempty, hstatus, hqueue⟩ |
    ⟨key, hout, hqueue, hwrite, hstatus⟩ | ⟨key, hqueue, hwrite, hstatus⟩
  · rw [Lossless, hstatus]
    constructor
    · exact fun _ hpos => absurd hout hpos
    · exact fun _ => ⟨fun h => absurd h (by decide), fun _ => hqueue⟩
  · rw [Lossless, hstatus]
    constructor
    · intro _ _ key hkey
      rw [hempty] at hkey
      cases hkey
    · exact fun _ => ⟨fun h => absurd h (by decide), fun _ => hqueue⟩
  · constructor
    · -- the key has left the queue although the call failed
      intro hlossless
      have hsame := hlossless.2 (by rw [hstatus]; decide)
      rw [hqueue] at hsame
      exact absurd hsame.symm (List.cons_ne_self _ _)
    · intro hstorable
      have htrue := hstorable hout key (by rw [hqueue]; rfl)
      rw [hwrite] at htrue
      exact absurd htrue Bool.false_ne_true
  · constructor
    · intro _ _ key' hkey
      rw [hqueue] at hkey
      cases hkey
      rw [hwrite]
    · exact fun _ => ⟨fun _ => ⟨key, hwrite, hqueue⟩, fun h => absurd hstatus h⟩

/-! ## Runs -/

/-- Keys pressed, and calls of the services. -/
inductive KeyEvent (M : Type _) where
  | pressed (key : EfiInputKey)
  | readKeyStroke (call : KeyStrokeCall M)

namespace KeyEvent

def step (p : IA64ISAPlugin I) : KeyEvent M → IA64ISAPlugin I
  | pressed key => p.enqueueEfiInputKey key
  | readKeyStroke call => (call.result p).2.1

def pressedKey : KeyEvent M → Option EfiInputKey
  | pressed key => some key
  | readKeyStroke _ => none

/-- The key that a call delivers: the first one, if the call is successful. -/
def delivered (p : IA64ISAPlugin I) : KeyEvent M → Option EfiInputKey
  | pressed _ => none
  | readKeyStroke call => if (call.result p).1 = EFI_STATUS_SUCCESS then p.services.efiInputQueue.head? else none

def Lossless (p : IA64ISAPlugin I) : KeyEvent M → Prop
  | pressed _ => True
  | readKeyStroke call => call.Lossless p

def Storable (p : IA64ISAPlugin I) : KeyEvent M → Prop
  | pressed _ => True
  | readKeyStroke call => call.Storable p

end KeyEvent

open KeyEvent

/-- What a successful call stores is the key it is said to deliver. -/
theorem delivers_delivered {key : EfiInputKey} (h : (readKeyStroke call).delivered p = some key) :
    call.Delivers p key := by
  rw [delivered] at h
  split at h
  case isFalse => cases h
  case isTrue hsuccess =>
    rcases outcome p call with ⟨_, hstatus, _⟩ | ⟨_, hstatus, _⟩ | ⟨_, _, _, _, hstatus⟩ | ⟨first, hqueue, hwrite, _⟩
    · exact absurd (hstatus.symm.trans hsuccess) (by decide)
    · exact absurd (hstatus.symm.trans hsuccess) (by decide)
    · exact absurd (hstatus.symm.trans hsuccess) (by decide)
    · rw [hqueue] at h
      cases h
      exact ⟨hwrite, hqueue⟩

/-- **Step lemma.** What an event delivers, and what waits after it, is what waited before it and what it adds. -/
theorem delivered_step {event : KeyEvent M} (h : event.Lossless p) :
    (event.delivered p).toList ++ (event.step p).services.efiInputQueue =
      p.services.efiInputQueue ++ event.pressedKey.toList := by
  cases event with
  | pressed key => rfl
  | readKeyStroke call =>
      have hadded : (readKeyStroke call : KeyEvent M).pressedKey = none := rfl
      rw [hadded, Option.toList_none, List.append_nil]
      by_cases hsuccess : (call.result p).1 = EFI_STATUS_SUCCESS
      · obtain ⟨key, -, hqueue⟩ := h.1 hsuccess
        rw [delivered, if_pos hsuccess, hqueue]
        rfl
      · rw [delivered, if_neg hsuccess, step, h.2 hsuccess]
        rfl

/-- **Run lemma.** -/
theorem delivered_run {events : List (KeyEvent M)} :
    ∀ {p : IA64ISAPlugin I}, EveryStep step Lossless p events →
      given step delivered p events ++ (run step p events).services.efiInputQueue =
        p.services.efiInputQueue ++ events.filterMap pressedKey := by
  induction events with
  | nil =>
      intro p _
      exact (List.append_nil _).symm
  | cons event events ih =>
      intro p h
      obtain ⟨hevent, hrest⟩ := h
      have hstep := delivered_step hevent
      have hpressed : (event :: events).filterMap pressedKey =
          event.pressedKey.toList ++ events.filterMap pressedKey := by
        rw [List.filterMap_cons]
        cases event.pressedKey <;> rfl
      rw [given, run_cons, List.append_assoc, ih hrest, ← List.append_assoc, hstep, hpressed, List.append_assoc]

/-- **Keystrokes are never lost** exactly where every record can be stored: then the keys that the calls deliver,
    followed by the keys that wait, are the keys that waited and were pressed. -/
theorem keystrokes_lossless (p : IA64ISAPlugin I) (events : List (KeyEvent M)) :
    (EveryStep step Lossless p events ↔ EveryStep step Storable p events) ∧
      (EveryStep step Storable p events →
        given step delivered p events ++ (run step p events).services.efiInputQueue =
          p.services.efiInputQueue ++ events.filterMap pressedKey) ∧
      ∀ (pre : List (KeyEvent M)) (call : KeyStrokeCall M) (key : EfiInputKey),
        (readKeyStroke call).delivered (run step p pre) = some key → call.Delivers (run step p pre) key := by
  have hiff : EveryStep step Lossless p events ↔ EveryStep step Storable p events := by
    refine everyStep_congr (fun _ => True) ?_ (fun _ _ _ _ => trivial) trivial
    intro q event _
    cases event with
    | pressed key => exact Iff.rfl
    | readKeyStroke call => exact lossless_iff
  exact ⟨hiff, fun h => delivered_run (hiff.mpr h), fun _ _ _ h => delivers_delivered h⟩

end Services

/-- A processor whose second output register is 16. -/
def keyDataCpu : CPUState := CPUState.reset.setGR 33 16

/-- A key that is pressed, read into memory that is not there, and gone. -/
theorem keystroke_lost : ¬ EveryStep KeyEvent.step KeyEvent.Lossless (IA64ISAPlugin.reset (I := Unit)).2
    [.pressed ⟨0, 0x41, 0, 0⟩, .readKeyStroke ⟨keyDataCpu, (⟨[]⟩ : FlatMemory), false⟩] := by
  rintro ⟨-, ⟨-, hkept⟩, -⟩
  have hgone := hkept (by decide +kernel)
  revert hgone
  decide +kernel

end GuideXOS.Isa
