import GuideXOS.Core.Watchpoints
import GuideXOS.Lib.Registry
import GuideXOS.Machine.Boot
import GuideXOS.Machine.Debugger

/-!
# `MemoryBreakpoints` — memory breakpoints and their watchpoints

A memory breakpoint has a number of the machine, which counts from 1 and again from 1 after a reset. Its watchpoint has a
number of the MMU, which counts from 0 and counts the watchpoints of others too. The machine drops the number that
`RegisterWatchpoint` gives it, and takes a watchpoint away under the number of its breakpoint.

* The watchpoints of others have callbacks that are numbers here; what they do to an access comes with the access.
* A condition that cannot be evaluated throws: the access goes no further.
-/

namespace GuideXOS.Machine
open Lib Lib.Runs Lib.Registry GuideXOS.Core GuideXOS.Vm

/-- The callback of a watchpoint: that of a memory breakpoint, with the breakpoint it has captured, or that of someone
    else. -/
inductive HookCallback where
  | memoryBreakpoint (breakpoint : MemoryBreakpoint)
  | independent (callback : Nat)
  deriving DecidableEq

abbrev Hook := Core.Watchpoint HookCallback

/-- The part of a machine that memory breakpoints go through, and the watchpoints of its MMU. -/
structure WatchedMachine where
  debuggerAttached : Bool := false
  memoryBreakpoints : OrdMap UInt64 MemoryBreakpoint := .empty
  nextMemoryBreakpointId : UInt64 := 1
  state : VMState := .STOPPED
  lastBreakReason : String := ""
  watchpoints : List Hook := []
  nextWatchpointId : UInt64 := 0
  /-- The numbers that `RegisterWatchpoint` gave for the breakpoints, which the machine drops. -/
  registered : OrdMap UInt64 UInt64 := .empty

/-- An access, the processor that is active at it, and what the callbacks of others do to it. -/
structure HookedAccess where
  address : UInt64
  data : List UInt8
  isWrite : Bool
  cpu : Option CPUState
  independent : Nat → WatchpointContext → ControlFlags := fun _ _ => {}

namespace HookedAccess

/-- What a callback does to the access. -/
def invoke (access : HookedAccess) : HookCallback → WatchpointContext → ControlFlags
  | .memoryBreakpoint breakpoint, _ =>
      match access.cpu with
      | none => {}
      | some cpu =>
          match VirtualMachine.evaluateCondition breakpoint.condition cpu with
          | .ok _ => {}
          | .error _ => { continueExecution := false }
  | .independent callback, context => access.independent callback context

def watched (access : HookedAccess) : WatchedAccess HookCallback where
  address := access.address
  data := access.data
  isWrite := access.isWrite
  cpuState := access.cpu
  invoke := access.invoke

/-- The callback pauses the machine. -/
def pausing (access : HookedAccess) : Option HookCallback → Bool
  | some (.memoryBreakpoint breakpoint) =>
      match access.cpu with
      | none => false
      | some cpu => decide (VirtualMachine.evaluateCondition breakpoint.condition cpu = .ok true)
  | _ => false

/-- A watchpoint that the access comes to triggers, and its callback pauses the machine. -/
def pauses (access : HookedAccess) : List Hook → Bool
  | [] => false
  | w :: rest =>
      let v := visit access.watched w
      (v.matched.any (·.fired.isSome) && access.pausing w.callback) || (!v.refused && access.pauses rest)

end HookedAccess

def WatchpointType.hookType : WatchpointType → Core.WatchpointType
  | .READ => .READ
  | .WRITE => .WRITE
  | .ACCESS => .ACCESS

namespace WatchedMachine
variable (s : WatchedMachine)

/-- **`RegisterWatchpoint`**, with the number it gives. -/
def registerWatchpoint (watchpoint : Hook) : UInt64 × WatchedMachine :=
  (s.nextWatchpointId, { s with
    watchpoints := s.watchpoints ++ [{ watchpoint with id := s.nextWatchpointId }]
    nextWatchpointId := s.nextWatchpointId + 1 })

/-- **`UnregisterWatchpoint`**, the first one with this number. -/
def unregisterWatchpoint (watchpointId : UInt64) : WatchedMachine :=
  { s with watchpoints := s.watchpoints.eraseP fun w => w.id == watchpointId }

/-- **`attach_debugger`.** -/
def attach_debugger : WatchedMachine := if s.debuggerAttached then s else { s with debuggerAttached := true }

/-- The loop that takes all watchpoints of memory breakpoints away, and the breakpoints. -/
def clearMemoryBreakpoints : WatchedMachine :=
  { s.memoryBreakpoints.entries.foldl (fun s entry => s.unregisterWatchpoint entry.1) s with
    memoryBreakpoints := .empty
    registered := .empty }

/-- **`detach_debugger`.** -/
def detach_debugger : WatchedMachine :=
  if !s.debuggerAttached then s
  else { s.clearMemoryBreakpoints with debuggerAttached := false, lastBreakReason := "" }

/-- **`reset`**, which succeeds. -/
def reset : WatchedMachine :=
  { s.clearMemoryBreakpoints with nextMemoryBreakpointId := 1, lastBreakReason := "", state := .STOPPED }

/-- The watchpoint of **`registerMemoryBreakpointHook`**. -/
def memoryBreakpointHook (breakpoint : MemoryBreakpoint) : Hook where
  id := 0
  addressStart := breakpoint.addressStart
  addressEnd := breakpoint.addressEnd
  type := breakpoint.type.hookType
  callback := some (.memoryBreakpoint breakpoint)
  enabled := breakpoint.enabled

/-- **`setMemoryBreakpoint`**, with the number it gives. -/
def setMemoryBreakpoint (addressStart addressEnd : UInt64) (type : WatchpointType) (condition : DebugCondition) :
    UInt64 × WatchedMachine :=
  if !s.debuggerAttached then (0, s)
  else if addressEnd ≤ addressStart then (0, s)
  else
    let breakpoint : MemoryBreakpoint := ⟨s.nextMemoryBreakpointId, addressStart, addressEnd, type, condition, true⟩
    let r := ({ s with
      nextMemoryBreakpointId := s.nextMemoryBreakpointId + 1
      memoryBreakpoints := s.memoryBreakpoints.insert breakpoint.id breakpoint }).registerWatchpoint
        (memoryBreakpointHook breakpoint)
    (breakpoint.id, { r.2 with registered := s.registered.insert breakpoint.id r.1 })

/-- **`clearMemoryBreakpoint`.** -/
def clearMemoryBreakpoint (breakpointId : UInt64) : Bool × WatchedMachine :=
  if (s.memoryBreakpoints.find? breakpointId).isNone then (false, s)
  else (true, { s.unregisterWatchpoint breakpointId with
    memoryBreakpoints := s.memoryBreakpoints.erase breakpointId
    registered := s.registered.erase breakpointId })

/-- An access, with what the callbacks do to the machine. -/
def access (a : HookedAccess) : WatchedMachine :=
  let s' := { s with watchpoints := watchStep s.watchpoints a.watched }
  if a.pauses s.watchpoints then { s' with state := .PAUSED, lastBreakReason := "memory breakpoint" } else s'

/-- What is done to a machine. -/
inductive Op where
  | setMemoryBreakpoint (addressStart addressEnd : UInt64) (type : WatchpointType) (condition : DebugCondition)
  | clearMemoryBreakpoint (breakpointId : UInt64)
  | attach_debugger
  | detach_debugger
  | reset
  /-- Someone else registers a watchpoint. -/
  | registerWatchpoint (watchpoint : Hook) (callback : Nat)
  | unregisterWatchpoint (watchpointId : UInt64)
  | access (a : HookedAccess)

def step (s : WatchedMachine) : Op → WatchedMachine
  | .setMemoryBreakpoint addressStart addressEnd type condition =>
      (s.setMemoryBreakpoint addressStart addressEnd type condition).2
  | .clearMemoryBreakpoint breakpointId => (s.clearMemoryBreakpoint breakpointId).2
  | .attach_debugger => s.attach_debugger
  | .detach_debugger => s.detach_debugger
  | .reset => s.reset
  | .registerWatchpoint watchpoint callback =>
      (s.registerWatchpoint { watchpoint with callback := some (.independent callback) }).2
  | .unregisterWatchpoint watchpointId => s.unregisterWatchpoint watchpointId
  | .access a => s.access a

end WatchedMachine

/-! ## What is promised -/

/-- An access that a breakpoint is for: it touches the range, is of the type, and the condition holds. -/
structure MemoryBreakpoint.Matches (b : MemoryBreakpoint) (a : HookedAccess) : Prop where
  overlap : a.address.toNat < b.addressEnd.toNat ∧ b.addressStart.toNat < a.address.toNat + a.data.length
  type : (b.type = .READ → a.isWrite = false) ∧ (b.type = .WRITE → a.isWrite = true)
  condition : ∃ cpu, a.cpu = some cpu ∧ VirtualMachine.evaluateCondition b.condition cpu = .ok true

/-- The access ends inside the address space. -/
def HookedAccess.Ends (a : HookedAccess) : Prop := a.address.toNat + a.data.length < 2 ^ 64

/-- A watchpoint of a memory breakpoint. -/
def Hook.ofBreakpoint (w : Hook) : Bool :=
  match w.callback with
  | some (.memoryBreakpoint _) => true
  | _ => false

namespace WatchedMachine

/-- **The machine pauses where it should**: at an access that takes place and that a breakpoint is for, and at no access
    that none of the breakpoints is for. -/
structure Accurate (s : WatchedMachine) : Prop where
  pauses : ∀ a b id, a.Ends → (checkWatchpoints a.watched s.watchpoints).1 = true →
    s.memoryBreakpoints.find? id = some b → b.Matches a → (s.access a).state = .PAUSED
  quiet : ∀ a, a.Ends → (∀ b id, s.memoryBreakpoints.find? id = some b → ¬ b.Matches a) → (s.access a).state = s.state

/-- **Clearing takes away what was registered, and nothing else.** -/
def ClearsItsOwn (s : WatchedMachine) : Op → Prop
  | .clearMemoryBreakpoint id => ∀ b, s.memoryBreakpoints.find? id = some b →
      ∃ before w after, s.watchpoints = before ++ w :: after ∧ s.registered.find? id = some w.id ∧
        w.callback = some (.memoryBreakpoint b) ∧ (s.clearMemoryBreakpoint id).2.watchpoints = before ++ after
  | .detach_debugger => s.debuggerAttached = true →
      s.detach_debugger.watchpoints = s.watchpoints.filter fun w => !w.ofBreakpoint
  | .reset => s.reset.watchpoints = s.watchpoints.filter fun w => !w.ofBreakpoint
  | _ => True

/-- **The numbers agree** where they are used: what is cleared has one number on both sides. No number that is given is in
    use still, and nobody else takes the watchpoint of a breakpoint away. -/
def NumbersAgree (s : WatchedMachine) : Op → Prop
  | .setMemoryBreakpoint addressStart addressEnd _ _ => s.debuggerAttached = true → addressStart < addressEnd →
      s.memoryBreakpoints.find? s.nextMemoryBreakpointId = none ∧ ∀ w ∈ s.watchpoints, w.id ≠ s.nextWatchpointId
  | .clearMemoryBreakpoint id => ∀ number, s.registered.find? id = some number → number = id
  | .detach_debugger => s.debuggerAttached = true → ∀ id number, s.registered.find? id = some number → number = id
  | .reset => ∀ id number, s.registered.find? id = some number → number = id
  | .registerWatchpoint _ _ => ∀ w ∈ s.watchpoints, w.id ≠ s.nextWatchpointId
  | .unregisterWatchpoint number => ∀ w ∈ s.watchpoints, w.id = number → w.ofBreakpoint = false
  | .attach_debugger => True
  | .access _ => True

end WatchedMachine

/-! ## The pairs -/

/-- A watchpoint as it was registered for a breakpoint, however often it has triggered since. -/
structure Watches (b : MemoryBreakpoint) (w : Hook) : Prop where
  callback : w.callback = some (.memoryBreakpoint b)
  addressStart : w.addressStart = b.addressStart
  addressEnd : w.addressEnd = b.addressEnd
  type : w.type = b.type.hookType
  condition : w.condition = .ALWAYS
  enabled : w.enabled = true
  maxTriggers : w.maxTriggers = 0

/-- **The pairs**: every breakpoint that is set has its watchpoint under the number that was given for it, and every
    watchpoint of a breakpoint is that of one that is set. -/
structure Paired (watchpoints : List Hook) (breakpoints : OrdMap UInt64 MemoryBreakpoint) (registered : OrdMap UInt64 UInt64) :
    Prop where
  numbers : UniqueKeys (fun w : Hook => w.id) watchpoints
  watched : ∀ id b, breakpoints.find? id = some b →
    b.id = id ∧ ∃ w ∈ watchpoints, registered.find? id = some w.id ∧ Watches b w
  owned : ∀ w ∈ watchpoints, ∀ b, w.callback = some (.memoryBreakpoint b) →
    Watches b w ∧ breakpoints.find? b.id = some b ∧ registered.find? b.id = some w.id
  registered : ∀ id, breakpoints.find? id = none → registered.find? id = none

section Pairs
variable {watchpoints : List Hook} {breakpoints : OrdMap UInt64 MemoryBreakpoint} {registered : OrdMap UInt64 UInt64}
  {b : MemoryBreakpoint} {w : Hook} {id number : UInt64}

/-- The watchpoint with the number that was given for a breakpoint is the one of that breakpoint. -/
theorem Paired.watches (h : Paired watchpoints breakpoints registered) (hb : breakpoints.find? id = some b)
    (hw : w ∈ watchpoints) (hnumber : registered.find? id = some w.id) : Watches b w := by
  obtain ⟨-, w', hw', hnumber', hwatches⟩ := h.watched id b hb
  have hid : w.id = w'.id := Option.some.inj (hnumber.symm.trans hnumber')
  rwa [h.numbers.eq_of_key hw hw' hid]

/-- Taking the first watchpoint with a number away takes the only one away. -/
theorem eraseP_eq_filter (h : UniqueKeys (fun w : Hook => w.id) watchpoints) (number : UInt64) :
    watchpoints.eraseP (fun w => w.id == number) = watchpoints.filter fun w => w.id != number := by
  induction watchpoints with
  | nil => rfl
  | cons w rest ih =>
      obtain ⟨hnew, hrest⟩ := List.nodup_cons.mp h
      by_cases hid : w.id = number
      · have hfilter : rest.filter (fun w => w.id != number) = rest := by
          refine List.filter_eq_self.mpr fun v hv => ?_
          have hne : v.id ≠ number := fun hv' => hnew (List.mem_map.mpr ⟨v, hv, hv'.trans hid.symm⟩)
          simpa using hne
        rw [List.eraseP_cons_of_pos (by simpa using hid), List.filter_cons_of_neg (by simpa using hid), hfilter]
      · rw [List.eraseP_cons_of_neg (by simpa using hid), List.filter_cons_of_pos (by simpa using hid), ih hrest]

section
variable (h : Paired watchpoints breakpoints registered)
include h

/-- **Some watchpoints go, and the breakpoints of them.** -/
theorem Paired.filter {p : Hook → Bool}
    {breakpoints' : OrdMap UInt64 MemoryBreakpoint} {registered' : OrdMap UInt64 UInt64}
    (hkept : ∀ w ∈ watchpoints, ∀ b, w.callback = some (.memoryBreakpoint b) → p w = true →
      breakpoints'.find? b.id = some b ∧ registered'.find? b.id = some w.id)
    (hset : ∀ id b, breakpoints'.find? id = some b → breakpoints.find? id = some b ∧
      registered'.find? id = registered.find? id ∧ ∀ w ∈ watchpoints, registered.find? id = some w.id → p w = true)
    (hregistered : ∀ id, breakpoints'.find? id = none → registered'.find? id = none) :
    Paired (watchpoints.filter p) breakpoints' registered' := by
  refine ⟨?_, fun id b hb => ?_, fun w hw b hcallback => ?_, hregistered⟩
  · exact List.Sublist.nodup (List.filter_sublist.map _) h.numbers
  · obtain ⟨hold, hsame, hkeep⟩ := hset id b hb
    obtain ⟨hid, w, hw, hnumber, hwatches⟩ := h.watched id b hold
    exact ⟨hid, w, List.mem_filter.mpr ⟨hw, hkeep w hw hnumber⟩, hsame.trans hnumber, hwatches⟩
  · obtain ⟨hmem, hp⟩ := List.mem_filter.mp hw
    exact ⟨(h.owned w hmem b hcallback).1, hkept w hmem b hcallback hp⟩

/-- A watchpoint more, of someone else. -/
theorem Paired.append_independent (hnew : ∀ v ∈ watchpoints, v.id ≠ w.id)
    {callback : Nat} (hcallback : w.callback = some (.independent callback)) :
    Paired (watchpoints ++ [w]) breakpoints registered := by
  refine ⟨uniqueKeys_append h.numbers hnew, fun id b hb => ?_, fun v hv b hv' => ?_, h.registered⟩
  · obtain ⟨hid, v, hv, hrest⟩ := h.watched id b hb
    exact ⟨hid, v, List.mem_append_left _ hv, hrest⟩
  · rcases List.mem_append.mp hv with hv | hv
    · exact h.owned v hv b hv'
    · obtain rfl := List.mem_singleton.mp hv
      rw [hcallback] at hv'
      cases hv'

/-- A breakpoint more, with its watchpoint. -/
theorem Paired.append_breakpoint (hnew : ∀ v ∈ watchpoints, v.id ≠ w.id)
    (hfree : breakpoints.find? b.id = none) (hwatches : Watches b w) :
    Paired (watchpoints ++ [w]) (breakpoints.insert b.id b) (registered.insert b.id w.id) := by
  refine ⟨uniqueKeys_append h.numbers hnew, fun id b' hb' => ?_, fun v hv b' hv' => ?_, fun id hnone => ?_⟩
  · by_cases hid : b.id = id
    · subst hid
      rw [OrdMap.find?_insert_self] at hb'
      obtain rfl := Option.some.inj hb'
      exact ⟨rfl, w, by simp, OrdMap.find?_insert_self .., hwatches⟩
    · rw [OrdMap.find?_insert_ne (Ne.symm hid)] at hb'
      obtain ⟨hid', v, hv, hnumber, hrest⟩ := h.watched id b' hb'
      refine ⟨hid', v, List.mem_append_left _ hv, ?_, hrest⟩
      rwa [OrdMap.find?_insert_ne (Ne.symm hid)]
  · rcases List.mem_append.mp hv with hv | hv
    · obtain ⟨hw', hb', hnumber⟩ := h.owned v hv b' hv'
      have hid : b'.id ≠ b.id := fun hid => by
        rw [hid, hfree] at hb'
        cases hb'
      rw [OrdMap.find?_insert_ne hid, OrdMap.find?_insert_ne hid]
      exact ⟨hw', hb', hnumber⟩
    · obtain rfl := List.mem_singleton.mp hv
      rw [hwatches.callback] at hv'
      obtain rfl := HookCallback.memoryBreakpoint.inj (Option.some.inj hv')
      exact ⟨hwatches, OrdMap.find?_insert_self .., OrdMap.find?_insert_self ..⟩
  · have hid : id ≠ b.id := fun hid => by
      rw [hid, OrdMap.find?_insert_self] at hnone
      cases hnone
    rw [OrdMap.find?_insert_ne hid] at hnone ⊢
    exact h.registered id hnone

/-- **A breakpoint less**, if it has one number on both sides. -/
theorem Paired.clear (hb : breakpoints.find? id = some b)
    (hagree : ∀ number, registered.find? id = some number → number = id) :
    Paired (watchpoints.filter fun w => w.id != id) (breakpoints.erase id) (registered.erase id) := by
  refine h.filter (fun w hw b' hcallback hp => ?_) (fun id' b' hb' => ?_) (fun id' hnone => ?_)
  · obtain ⟨-, hb', hnumber⟩ := h.owned w hw b' hcallback
    have hid : id ≠ b'.id := fun hid => by
      rw [← hid] at hnumber
      exact absurd (hagree _ hnumber) (by simpa using hp)
    rw [OrdMap.find?_erase, OrdMap.find?_erase, if_neg hid, if_neg hid]
    exact ⟨hb', hnumber⟩
  · rw [OrdMap.find?_erase] at hb' ⊢
    by_cases hid : id = id'
    · rw [if_pos hid] at hb'
      cases hb'
    · rw [if_neg hid] at hb' ⊢
      refine ⟨hb', rfl, fun w hw hnumber => ?_⟩
      -- a second watchpoint with the number would be the first one, and that of the other breakpoint
      have hne : w.id ≠ id := fun hwid => by
        obtain ⟨hbid, v, hv, hvnumber, hvwatches⟩ := h.watched id b hb
        have hvid : v.id = w.id := (hagree _ hvnumber).trans hwid.symm
        obtain rfl := h.numbers.eq_of_key hv hw hvid
        have hsame := hvwatches.callback.symm.trans (h.watches hb' hw hnumber).callback
        obtain rfl := HookCallback.memoryBreakpoint.inj (Option.some.inj hsame)
        exact hid (hbid.symm.trans (h.watched id' b hb').1)
      simpa using hne
  · rw [OrdMap.find?_erase] at hnone ⊢
    split
    · rfl
    · rename_i hid
      rw [if_neg hid] at hnone
      exact h.registered id' hnone

/-- **All breakpoints less.** -/
theorem Paired.clearAll : Paired (watchpoints.filter fun w => !w.ofBreakpoint) .empty .empty := by
  refine h.filter (fun w _ b hcallback hp => ?_) (fun id b hb => nomatch hb) (fun _ _ => rfl)
  unfold Hook.ofBreakpoint at hp
  rw [hcallback] at hp
  cases hp

/-- Someone else takes a watchpoint away that is not that of a breakpoint. -/
theorem Paired.unregister (hother : ∀ w ∈ watchpoints, w.id = number → w.ofBreakpoint = false) :
    Paired (watchpoints.filter fun w => w.id != number) breakpoints registered := by
  refine h.filter (fun w hw b hcallback _ => (h.owned w hw b hcallback).2) (fun id b hb => ⟨hb, rfl, fun w hw hnumber => ?_⟩)
    h.registered
  have hwatches := h.watches hb hw hnumber
  have hne : w.id ≠ number := fun hid => by
    have hfalse := hother w hw hid
    rw [Hook.ofBreakpoint, hwatches.callback] at hfalse
    cases hfalse
  simpa using hne

/-- The watchpoints whose number is a breakpoint's are those of the breakpoints, if the numbers agree. -/
theorem Paired.ofBreakpoint_iff
    (hagree : ∀ id number, registered.find? id = some number → number = id) (hw : w ∈ watchpoints) :
    w.ofBreakpoint = true ↔ ∃ b, breakpoints.find? w.id = some b := by
  constructor
  · intro hof
    unfold Hook.ofBreakpoint at hof
    split at hof
    · rename_i b hcallback
      obtain ⟨-, hb, hnumber⟩ := h.owned w hw b hcallback
      exact ⟨b, (hagree _ _ hnumber).symm ▸ hb⟩
    · cases hof
  · rintro ⟨b, hb⟩
    obtain ⟨-, v, hv, hnumber, hwatches⟩ := h.watched w.id b hb
    obtain rfl := h.numbers.eq_of_key hv hw (hagree _ _ hnumber)
    rw [Hook.ofBreakpoint, hwatches.callback]

end

/-- The loop over the breakpoints takes the watchpoints with their numbers away. -/
theorem foldl_unregister (s : WatchedMachine) (hnumbers : UniqueKeys (fun w : Hook => w.id) s.watchpoints)
    (entries : List (UInt64 × MemoryBreakpoint)) :
    (entries.foldl (fun s entry => s.unregisterWatchpoint entry.1) s).watchpoints =
      s.watchpoints.filter fun w => !entries.any fun entry => w.id == entry.1 := by
  induction entries generalizing s with
  | nil => simp
  | cons entry entries ih =>
      have hfirst : (s.unregisterWatchpoint entry.1).watchpoints = s.watchpoints.filter fun w => w.id != entry.1 :=
        eraseP_eq_filter hnumbers entry.1
      have hnumbers' : UniqueKeys (fun w : Hook => w.id) (s.unregisterWatchpoint entry.1).watchpoints := by
        rw [hfirst]
        exact List.Sublist.nodup (List.filter_sublist.map _) hnumbers
      rw [List.foldl_cons, ih _ hnumbers', hfirst, List.filter_filter]
      refine List.filter_congr fun w _ => ?_
      rw [List.any_cons, Bool.not_or, Bool.and_comm]
      rfl

end Pairs

namespace WatchedMachine
variable {s : WatchedMachine} {a : HookedAccess}

/-- The pairs of a machine. -/
def HasPairs (s : WatchedMachine) : Prop := Paired s.watchpoints s.memoryBreakpoints s.registered

theorem watchpoints_clearMemoryBreakpoints (h : s.HasPairs)
    (hagree : ∀ id number, s.registered.find? id = some number → number = id) :
    s.clearMemoryBreakpoints.watchpoints = s.watchpoints.filter fun w => !w.ofBreakpoint := by
  refine (foldl_unregister s h.numbers s.memoryBreakpoints.entries).trans (List.filter_congr fun w hw => ?_)
  have hof := h.ofBreakpoint_iff hagree hw
  have hany : (s.memoryBreakpoints.entries.any fun entry => w.id == entry.1) = true ↔
      ∃ b, s.memoryBreakpoints.find? w.id = some b := by
    rw [← Option.isSome_iff_exists, ← Option.ne_none_iff_isSome, Ne, OrdMap.find?_eq_none_iff, List.any_eq_true]
    push_neg
    refine exists_congr fun entry => and_congr_right fun _ => ?_
    rw [beq_iff_eq]
    exact eq_comm
  rw [Bool.eq_iff_iff.mpr (hany.trans hof.symm)]

/-! ## An access -/

/-- What an access leaves of a watchpoint, so far as the pairs are concerned. -/
structure SameHook (w w' : Hook) : Prop where
  id : w'.id = w.id
  callback : w'.callback = w.callback
  watches : ∀ b, Watches b w → Watches b w'

theorem SameHook.refl (w : Hook) : SameHook w w := ⟨rfl, rfl, fun _ h => h⟩

/-- A check leaves everything but the last value. -/
theorem checkCondition_frame (w : Hook) (value : UInt64) :
    ∃ lastValue hasLastValue, (w.checkCondition value).2 = { w with lastValue, hasLastValue } := by
  unfold Watchpoint.checkCondition
  split
  all_goals first | exact ⟨_, _, rfl⟩ | (split <;> exact ⟨_, _, rfl⟩)

theorem sameHook_visit (a : WatchedAccess HookCallback) (w : Hook) : SameHook w (visit a w).watchpoint := by
  obtain ⟨lastValue, hasLastValue, hchecked⟩ := checkCondition_frame w a.extractValue
  unfold visit
  dsimp only
  split
  · exact .refl w
  · rw [hchecked]
    split
    · exact ⟨rfl, rfl, fun b h => ⟨h.1, h.2, h.3, h.4, h.5, h.6, h.7⟩⟩
    · dsimp only
      split
      · -- the last trigger of a maximum, which the watchpoint of a breakpoint does not have
        rename_i hlast
        refine ⟨rfl, rfl, fun b h => ?_⟩
        rw [h.maxTriggers] at hlast
        exact absurd hlast.1 (by decide)
      · exact ⟨rfl, rfl, fun b h => ⟨h.1, h.2, h.3, h.4, h.5, h.6, h.7⟩⟩

/-- An access changes the watchpoints one by one. -/
theorem watchStep_sameHook (a : WatchedAccess HookCallback) (ws : List Hook) :
    List.Forall₂ SameHook ws (watchStep ws a) := by
  unfold watchStep
  induction ws with
  | nil => exact .nil
  | cons w rest ih =>
      unfold checkWatchpoints
      dsimp only
      split
      · refine .cons (sameHook_visit a w) ?_
        exact List.forall₂_same.mpr fun v _ => .refl v
      · exact .cons (sameHook_visit a w) ih

theorem exists_of_forall₂ {α β : Type} {r : α → β → Prop} {l : List α} {l' : List β} (h : List.Forall₂ r l l') {a : α}
    (ha : a ∈ l) : ∃ b ∈ l', r a b := by
  induction h with
  | nil => cases ha
  | cons hfirst _ ih =>
      rcases List.mem_cons.mp ha with rfl | ha
      · exact ⟨_, List.mem_cons_self, hfirst⟩
      · obtain ⟨b, hb, hr⟩ := ih ha
        exact ⟨b, List.mem_cons_of_mem _ hb, hr⟩

/-- **Pairs stay** when watchpoints trigger. -/
theorem Paired.sameHooks {watchpoints watchpoints' : List Hook} {breakpoints : OrdMap UInt64 MemoryBreakpoint}
    {registered : OrdMap UInt64 UInt64} (h : Paired watchpoints breakpoints registered)
    (hsame : List.Forall₂ SameHook watchpoints watchpoints') : Paired watchpoints' breakpoints registered := by
  have hids : watchpoints'.map (fun w : Hook => w.id) = watchpoints.map fun w => w.id := by
    clear h
    induction hsame with
    | nil => rfl
    | cons hw _ ih => rw [List.map_cons, List.map_cons, ih, hw.id]
  refine ⟨?_, fun id b hb => ?_, fun w' hw' b hcallback => ?_, h.registered⟩
  · unfold UniqueKeys
    rw [hids]
    exact h.numbers
  · obtain ⟨hid, w, hw, hnumber, hwatches⟩ := h.watched id b hb
    obtain ⟨w', hw', hsame'⟩ := exists_of_forall₂ hsame hw
    exact ⟨hid, w', hw', hsame'.id ▸ hnumber, hsame'.watches b hwatches⟩
  · obtain ⟨w, hw, hsame'⟩ := exists_of_forall₂ hsame.flip hw'
    replace hsame' : SameHook w w' := hsame'
    obtain ⟨hwatches, hb, hnumber⟩ := h.owned w hw b (hsame'.callback.symm.trans hcallback)
    exact ⟨hsame'.watches b hwatches, hb, hsame'.id ▸ hnumber⟩

/-! ## Steps -/

theorem hasPairs_initial : ({} : WatchedMachine).HasPairs :=
  ⟨List.nodup_nil, (fun _ _ hb => nomatch hb), (fun _ hw => nomatch hw), fun _ _ => rfl⟩

theorem hasPairs_setMemoryBreakpoint (h : s.HasPairs) {addressStart addressEnd : UInt64} {type : WatchpointType}
    {condition : DebugCondition}
    (hmeets : s.NumbersAgree (.setMemoryBreakpoint addressStart addressEnd type condition)) :
    (s.setMemoryBreakpoint addressStart addressEnd type condition).2.HasPairs := by
  unfold setMemoryBreakpoint
  split
  · exact h
  · rename_i hattached
    split
    · exact h
    · rename_i hrange
      obtain ⟨hfree, hnew⟩ := hmeets (by simpa using hattached) (not_le.mp hrange)
      exact Paired.append_breakpoint h hnew hfree ⟨rfl, rfl, rfl, rfl, rfl, rfl, rfl⟩

/-- **One step keeps the pairs**, if the numbers agree. -/
theorem hasPairs_step (op : Op) (h : s.HasPairs) (hmeets : s.NumbersAgree op) : (s.step op).HasPairs := by
  cases op with
  | setMemoryBreakpoint addressStart addressEnd type condition => exact hasPairs_setMemoryBreakpoint h hmeets
  | clearMemoryBreakpoint id =>
      show (s.clearMemoryBreakpoint id).2.HasPairs
      unfold clearMemoryBreakpoint
      split
      · exact h
      · rename_i hset
        obtain ⟨b, hb⟩ := Option.ne_none_iff_exists'.mp (show s.memoryBreakpoints.find? id ≠ none by simpa using hset)
        have hclear := Paired.clear h hb hmeets
        rw [← eraseP_eq_filter h.numbers] at hclear
        exact hclear
  | attach_debugger =>
      show s.attach_debugger.HasPairs
      unfold attach_debugger
      split <;> exact h
  | detach_debugger =>
      show s.detach_debugger.HasPairs
      unfold detach_debugger
      split
      · exact h
      · rename_i hattached
        have hclear := Paired.clearAll h
        rw [← watchpoints_clearMemoryBreakpoints h (hmeets (by simpa using hattached))] at hclear
        exact hclear
  | reset =>
      have hclear := Paired.clearAll h
      rw [← watchpoints_clearMemoryBreakpoints h hmeets] at hclear
      exact hclear
  | registerWatchpoint watchpoint callback => exact Paired.append_independent h hmeets rfl
  | unregisterWatchpoint number =>
      have hrest := Paired.unregister h hmeets
      rw [← eraseP_eq_filter h.numbers] at hrest
      exact hrest
  | access a =>
      have hrest := Paired.sameHooks h (watchStep_sameHook a.watched s.watchpoints)
      show (s.access a).HasPairs
      unfold access
      dsimp only
      split <;> exact hrest

/-- **What a step takes away**, if the numbers agree. -/
theorem clearsItsOwn_step (op : Op) (h : s.HasPairs) (hmeets : s.NumbersAgree op) : s.ClearsItsOwn op := by
  cases op with
  | clearMemoryBreakpoint id =>
      intro b hb
      obtain ⟨hid, w, hw, hnumber, hwatches⟩ := h.watched id b hb
      have hwid : w.id = id := hmeets _ hnumber
      obtain ⟨v, before, after, hbefore, hv, happend, herase⟩ :=
        List.exists_of_eraseP (p := fun v : Hook => v.id == id) hw (by simpa using hwid)
      have hmem : v ∈ s.watchpoints := by rw [happend]; simp
      obtain rfl := h.numbers.eq_of_key hmem hw ((by simpa using hv : v.id = id).trans hwid.symm)
      refine ⟨before, v, after, happend, hnumber, hwatches.callback, ?_⟩
      unfold clearMemoryBreakpoint
      rw [hb]
      exact herase
  | detach_debugger =>
      intro hattached
      unfold detach_debugger
      rw [hattached]
      exact watchpoints_clearMemoryBreakpoints h (hmeets hattached)
  | reset => exact watchpoints_clearMemoryBreakpoints h hmeets
  | setMemoryBreakpoint addressStart addressEnd type condition => trivial
  | attach_debugger => trivial
  | registerWatchpoint watchpoint callback => trivial
  | unregisterWatchpoint number => trivial
  | access a => trivial

/-! ## Pausing -/

/-- The watchpoint of a breakpoint triggers at the accesses of its range and type. -/
theorem shouldTrigger_iff {b : MemoryBreakpoint} {w : Hook} (h : Watches b w) (hends : a.Ends) :
    w.shouldTrigger a.watched = true ↔
      (a.address.toNat < b.addressEnd.toNat ∧ b.addressStart.toNat < a.address.toNat + a.data.length) ∧
        ((b.type = .READ → a.isWrite = false) ∧ (b.type = .WRITE → a.isWrite = true)) := by
  have hend : (a.address + UInt64.ofNat a.data.length).toNat = a.address.toNat + a.data.length := by
    unfold HookedAccess.Ends at hends
    have hlength : a.data.length < 2 ^ 64 := by omega
    rw [UInt64.toNat_add, UInt64.toNat_ofNat_of_lt' hlength]
    exact Nat.mod_eq_of_lt hends
  have hoverlap : (¬ (a.address + UInt64.ofNat a.data.length ≤ b.addressStart ∨ a.address ≥ b.addressEnd)) ↔
      a.address.toNat < b.addressEnd.toNat ∧ b.addressStart.toNat < a.address.toNat + a.data.length := by
    rw [UInt64.le_iff_toNat_le, hend, ge_iff_le, UInt64.le_iff_toNat_le]
    omega
  rw [← hoverlap]
  unfold Watchpoint.shouldTrigger
  rw [h.enabled, h.addressStart, h.addressEnd, h.type, h.maxTriggers]
  show (if a.address + UInt64.ofNat a.data.length ≤ b.addressStart ∨ a.address ≥ b.addressEnd then false
    else if b.type.hookType = .READ ∧ a.isWrite then false
    else if b.type.hookType = .WRITE ∧ !a.isWrite then false else _) = true ↔ _
  split
  · rename_i hout
    exact iff_of_false Bool.false_ne_true fun hin => hin.1 hout
  · rename_i hin
    rw [and_iff_right hin]
    cases b.type <;> cases a.isWrite <;> simp [WatchpointType.hookType]

/-- **The watchpoint of a breakpoint** triggers and pauses the machine at the accesses that the breakpoint is for. -/
theorem visit_watches {b : MemoryBreakpoint} {w : Hook} (h : Watches b w) (hends : a.Ends) :
    ((visit a.watched w).matched.any (·.fired.isSome) && a.pausing w.callback) = true ↔ b.Matches a := by
  have hfired : (visit a.watched w).matched.any (·.fired.isSome) = w.shouldTrigger a.watched := by
    unfold visit Watchpoint.checkCondition
    dsimp only
    rw [h.condition]
    cases w.shouldTrigger a.watched <;> rfl
  have hpausing : a.pausing w.callback = true ↔
      ∃ cpu, a.cpu = some cpu ∧ VirtualMachine.evaluateCondition b.condition cpu = .ok true := by
    rw [h.callback]
    unfold HookedAccess.pausing
    cases a.cpu with
    | none => simp
    | some cpu => simp
  rw [Bool.and_eq_true, hfired, shouldTrigger_iff h hends, hpausing]
  constructor
  · rintro ⟨⟨hoverlap, htype⟩, hcondition⟩
    exact ⟨hoverlap, htype, hcondition⟩
  · intro hmatches
    exact ⟨⟨hmatches.overlap, hmatches.type⟩, hmatches.condition⟩

/-- An access that takes place comes to every watchpoint. -/
theorem pauses_of_mem {ws : List Hook} (htakes : (checkWatchpoints a.watched ws).1 = true) {w : Hook} (hw : w ∈ ws)
    (hpauses : ((visit a.watched w).matched.any (·.fired.isSome) && a.pausing w.callback) = true) :
    a.pauses ws = true := by
  induction ws with
  | nil => cases hw
  | cons v rest ih =>
      unfold checkWatchpoints at htakes
      unfold HookedAccess.pauses
      dsimp only at htakes ⊢
      split at htakes
      · cases htakes
      · rename_i hrefused
        rcases List.mem_cons.mp hw with rfl | hw
        · rw [hpauses, Bool.true_or]
        · have hgoes : (visit a.watched v).refused = false := by simpa using hrefused
          rw [ih htakes hw, hgoes]
          simp

theorem mem_of_pauses {ws : List Hook} (h : a.pauses ws = true) :
    ∃ w ∈ ws, ((visit a.watched w).matched.any (·.fired.isSome) && a.pausing w.callback) = true := by
  induction ws with
  | nil => cases h
  | cons v rest ih =>
      unfold HookedAccess.pauses at h
      rcases (Bool.or_eq_true _ _).mp h with hfirst | hrest
      · exact ⟨v, List.mem_cons_self, hfirst⟩
      · obtain ⟨w, hw, hpauses⟩ := ih ((Bool.and_eq_true _ _).mp hrest).2
        exact ⟨w, List.mem_cons_of_mem _ hw, hpauses⟩

theorem accurate_of_hasPairs (h : s.HasPairs) : s.Accurate := by
  constructor
  · intro a b id hends htakes hb hmatches
    obtain ⟨-, w, hw, -, hwatches⟩ := h.watched id b hb
    have hpauses := pauses_of_mem htakes hw ((visit_watches hwatches hends).mpr hmatches)
    unfold access
    dsimp only
    rw [if_pos hpauses]
  · intro a hends hnone
    have hquiet : a.pauses s.watchpoints ≠ true := fun hpauses => by
      obtain ⟨w, hw, hfires⟩ := mem_of_pauses hpauses
      cases hcallback : w.callback with
      | none =>
          rw [hcallback] at hfires
          simp [HookedAccess.pausing] at hfires
      | some callback =>
          cases callback with
          | independent n =>
              rw [hcallback] at hfires
              simp [HookedAccess.pausing] at hfires
          | memoryBreakpoint b =>
              obtain ⟨hwatches, hb, -⟩ := h.owned w hw b hcallback
              exact hnone b b.id hb ((visit_watches hwatches hends).mp hfires)
    unfold access
    dsimp only
    rw [if_neg hquiet]

/-- **Memory breakpoints keep their watchpoints** in every run whose numbers agree: the machine pauses where it should in
    every state, and whatever is cleared takes its own watchpoint away. -/
theorem breakpoints_paired (ops : List Op) (hops : EveryStep step NumbersAgree {} ops) :
    (run step {} ops).Accurate ∧ EveryStep step ClearsItsOwn {} ops := by
  have hkeeps : ∀ s op, HasPairs s → NumbersAgree s op → HasPairs (step s op) := fun s op h hmeets =>
    hasPairs_step op h hmeets
  refine ⟨accurate_of_hasPairs (run_invariant HasPairs hkeeps hasPairs_initial hops), ?_⟩
  exact everyStep_of_invariant HasPairs hkeeps (fun s op h hmeets => clearsItsOwn_step op h hmeets) hasPairs_initial hops

/-- Behind one watchpoint of someone else, the first breakpoint has the number 1 on both sides. -/
theorem breakpoints_paired_behind :
    (run step {} [.registerWatchpoint { id := 0, addressStart := 0, addressEnd := 8 } 7, .attach_debugger,
        .setMemoryBreakpoint 0x1000 0x1008 .ACCESS {}, .clearMemoryBreakpoint 1]).Accurate ∧
      EveryStep step ClearsItsOwn {} [.registerWatchpoint { id := 0, addressStart := 0, addressEnd := 8 } 7,
        .attach_debugger, .setMemoryBreakpoint 0x1000 0x1008 .ACCESS {}, .clearMemoryBreakpoint 1] := by
  refine breakpoints_paired _ ⟨(fun w hw => nomatch hw), trivial, fun _ _ => ⟨rfl, ?_⟩, fun number hnumber => ?_, trivial⟩
  · decide +kernel
  · have hone : number = 1 := (Option.some.inj hnumber).symm
    exact hone

/-- The first breakpoint of a machine, set and cleared. -/
def setAndCleared : List Op :=
  [.attach_debugger, .setMemoryBreakpoint 0x1000 0x1008 .ACCESS {}, .clearMemoryBreakpoint 1]

def byteWrite : HookedAccess where
  address := 0x1000
  data := [0]
  isWrite := true
  cpu := some .reset

/-- **A cleared breakpoint pauses the machine**: it has the number 1, and its watchpoint the number 0. -/
theorem clearedPauses : ¬ ∀ ops, (run step {} ops).Accurate ∧ EveryStep step ClearsItsOwn {} ops := by
  intro h
  have hempty : (run step {} setAndCleared).memoryBreakpoints.entries = [] := by decide +kernel
  have hquiet := (h setAndCleared).1.quiet byteWrite (by unfold HookedAccess.Ends; decide) fun b id hb => by
    rw [OrdMap.find?, hempty] at hb
    cases hb
  have hpaused : ((run step {} setAndCleared).access byteWrite).state = .PAUSED := by decide +kernel
  have hstopped : (run step {} setAndCleared).state = .STOPPED := by decide +kernel
  rw [hpaused, hstopped] at hquiet
  cases hquiet

end WatchedMachine

end GuideXOS.Machine
