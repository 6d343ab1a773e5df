import GuideXOS.Core.CpuState
import GuideXOS.Lib.Runs

/-!
# `Watchpoints` — which accesses a watchpoint reports

Every access is shown to the watchpoints in order. One that is enabled and matches the access by its range and type
(`shouldTrigger`) has its condition checked, and triggers: its callback gets a context, may refuse the access, and the
watchpoints behind it then do not see it. One with a maximum of triggers disables itself at the last.

The condition `VALUE_CHANGED` compares the value with that of the last access that matched, and then stores the new
one. The context is built after that: its old value is the new one. What is reported otherwise, and how often, is right
(`watchpoints_exact_iff`).
-/

namespace GuideXOS.Core
open Lib Lib.Words Lib.Runs

inductive WatchpointType
  | READ | WRITE | ACCESS
  deriving DecidableEq

inductive WatchpointCondition
  | ALWAYS | VALUE_EQUALS | VALUE_NOT_EQUALS | VALUE_CHANGED | VALUE_GREATER | VALUE_LESS
  deriving DecidableEq

structure InstructionTrace where
  instructionPointer : UInt64
  bundleAddress : UInt64
  disassembly : List UInt8
  timestamp : UInt64

/-- What a callback is shown. Its two control flags are its result. -/
structure WatchpointContext where
  address : UInt64
  watchpointStart : UInt64
  watchpointEnd : UInt64
  accessSize : UInt64
  triggerType : WatchpointType
  data : List UInt8
  oldValue : UInt64
  newValue : UInt64
  isWrite : Bool
  cpuState : Option CPUState
  instructionTrace : List InstructionTrace

/-- What a callback leaves in the control flags. -/
structure ControlFlags where
  continueExecution : Bool := true
  skipAccess : Bool := false

/-- A watchpoint, with the callbacks of type `κ`. -/
structure Watchpoint (κ : Type) where
  id : UInt64
  addressStart : UInt64
  addressEnd : UInt64
  type : WatchpointType := .ACCESS
  condition : WatchpointCondition := .ALWAYS
  conditionValue : UInt64 := 0
  callback : Option κ := none
  enabled : Bool := true
  captureInstructions : Bool := false
  instructionTraceDepth : UInt64 := 0
  triggerCount : UInt64 := 0
  maxTriggers : UInt64 := 0
  lastValue : UInt64 := 0
  hasLastValue : Bool := false

/-- A memory access as it comes to the watchpoints, and what there is around it: the processor and the instructions that
    a context shows, and how the callbacks behave this time. -/
structure WatchedAccess (κ : Type) where
  address : UInt64
  data : List UInt8
  isWrite : Bool
  cpuState : Option CPUState := none
  instructionTraceBuffer : List InstructionTrace := []
  invoke : κ → WatchpointContext → ControlFlags := fun _ _ => {}

variable {κ : Type}

variable (access : WatchedAccess κ)

def WatchedAccess.size : UInt64 := UInt64.ofNat access.data.length

/-- **`ExtractValue`** of the bytes accessed. -/
def WatchedAccess.extractValue : UInt64 := wordOfBytes (access.data.take 8)

namespace Watchpoint

variable (w : Watchpoint κ)

/-- **`ShouldTrigger`.** -/
def shouldTrigger (access : WatchedAccess κ) : Bool :=
  if !w.enabled then false
  else
    let accessEnd := access.address + access.size
    if accessEnd ≤ w.addressStart ∨ access.address ≥ w.addressEnd then false
    else if w.type = .READ ∧ access.isWrite then false
    else if w.type = .WRITE ∧ !access.isWrite then false
    else !(w.maxTriggers > 0 ∧ w.triggerCount ≥ w.maxTriggers)

/-- **`CheckCondition`**, and what it leaves of the watchpoint. -/
def checkCondition (value : UInt64) : Bool × Watchpoint κ :=
  match w.condition with
  | .ALWAYS => (true, w)
  | .VALUE_EQUALS => (value == w.conditionValue, w)
  | .VALUE_NOT_EQUALS => (value != w.conditionValue, w)
  | .VALUE_CHANGED =>
      if !w.hasLastValue then (false, { w with lastValue := value, hasLastValue := true })
      else (value != w.lastValue, { w with lastValue := value })
  | .VALUE_GREATER => (decide (value > w.conditionValue), w)
  | .VALUE_LESS => (decide (value < w.conditionValue), w)

/-- The context of a trigger. -/
def context (access : WatchedAccess κ) (value : UInt64) : WatchpointContext where
  address := access.address
  watchpointStart := w.addressStart
  watchpointEnd := w.addressEnd
  accessSize := access.size
  triggerType := w.type
  data := access.data
  oldValue := w.lastValue
  newValue := value
  isWrite := access.isWrite
  cpuState := access.cpuState
  instructionTrace :=
    if w.captureInstructions && w.instructionTraceDepth > 0 then
      access.instructionTraceBuffer.drop (access.instructionTraceBuffer.length -
        min w.instructionTraceDepth.toNat access.instructionTraceBuffer.length)
    else []

end Watchpoint

/-- What an access that matched shows of a watchpoint: the value it had, and the context if it fired. -/
structure Match where
  value : UInt64
  fired : Option WatchpointContext

/-- What comes of showing an access to a watchpoint. -/
structure Visit (κ : Type) where
  watchpoint : Watchpoint κ
  matched : Option Match
  refused : Bool

/-- The body of the loop of **`CheckWatchpoints`**. -/
def visit (w : Watchpoint κ) : Visit κ :=
  if !w.shouldTrigger access then ⟨w, none, false⟩
  else
    let value := access.extractValue
    let checked := w.checkCondition value
    let w := checked.2
    if !checked.1 then ⟨w, some ⟨value, none⟩, false⟩
    else
      let context := w.context access value
      let w := { w with triggerCount := w.triggerCount + 1 }
      let flags := match w.callback with
        | some callback => access.invoke callback context
        | none => {}
      let w := if w.maxTriggers > 0 ∧ w.triggerCount ≥ w.maxTriggers then { w with enabled := false } else w
      ⟨w, some ⟨value, some context⟩, !flags.continueExecution || flags.skipAccess⟩

/-- **`CheckWatchpoints`.** Whether the access goes on, and the watchpoints after it. -/
def checkWatchpoints (access : WatchedAccess κ) : List (Watchpoint κ) → Bool × List (Watchpoint κ)
  | [] => (true, [])
  | w :: rest =>
      let v := visit access w
      if v.refused then (false, v.watchpoint :: rest)
      else
        let r := checkWatchpoints access rest
        (r.1, v.watchpoint :: r.2)

def watchStep (ws : List (Watchpoint κ)) (access : WatchedAccess κ) : List (Watchpoint κ) :=
  (checkWatchpoints access ws).2

/-! ## What one watchpoint sees -/

/-- The access comes to the watchpoint at this position. -/
def reaches (access : WatchedAccess κ) : List (Watchpoint κ) → Nat → Bool
  | [], _ => false
  | _ :: _, 0 => true
  | w :: rest, i + 1 => !(visit access w).refused && reaches access rest i

/-- What an access shows of the watchpoint at a position, if it comes to it and matches. -/
def matchAt (i : Nat) (ws : List (Watchpoint κ)) (access : WatchedAccess κ) : Option Match :=
  ws[i]?.bind fun w => if reaches access ws i then (visit access w).matched else none

/-- The accesses that the watchpoint at a position matches along a run. -/
def seenBy (i : Nat) (ws : List (Watchpoint κ)) (accesses : List (WatchedAccess κ)) : List Match :=
  given watchStep (matchAt i) ws accesses

variable {w : Watchpoint κ} {ws : List (Watchpoint κ)} {access : WatchedAccess κ} {i : Nat}
  (accesses : List (WatchedAccess κ))

/-- An access leaves a watchpoint that it does not come to as it is. -/
theorem getElem?_watchStep (access : WatchedAccess κ) (ws : List (Watchpoint κ)) (i : Nat) :
    (watchStep ws access)[i]? =
      ws[i]?.map fun w => if reaches access ws i then (visit access w).watchpoint else w := by
  unfold watchStep
  induction ws generalizing i with
  | nil => rfl
  | cons w rest ih =>
      unfold checkWatchpoints
      dsimp only
      cases hrefused : (visit access w).refused with
      | true =>
          rw [if_pos rfl]
          cases i with
          | zero => rfl
          | succ i =>
              -- the loop has returned, and no later watchpoint sees the access
              have hreaches : reaches access (w :: rest) (i + 1) = false := by rw [reaches, hrefused]; rfl
              rw [hreaches]
              simp
      | false =>
          rw [if_neg Bool.false_ne_true]
          cases i with
          | zero => rfl
          | succ i =>
              have hreaches : reaches access (w :: rest) (i + 1) = reaches access rest i := by
                rw [reaches, hrefused]
                rfl
              rw [hreaches]
              exact ih i

/-! ## The accesses of `VALUE_CHANGED` -/

namespace Watchpoint

/-- The value of the last access that matched. -/
def previous (w : Watchpoint κ) : Option UInt64 := if w.hasLastValue then some w.lastValue else none

end Watchpoint

/-- **The reports are exact**: an access is reported if its value differs from the previous one, with both values. -/
def Exact : Option UInt64 → List Match → Prop
  | _, [] => True
  | previous, m :: ms =>
      (m.fired.isSome = true ↔ ∃ p, previous = some p ∧ m.value ≠ p) ∧
        (∀ c p, m.fired = some c → previous = some p → c.oldValue = p ∧ c.newValue = m.value) ∧
        Exact (some m.value) ms

/-- **What is right in any case**: which accesses are reported, and the new value. -/
def FiresOnChange : Option UInt64 → List Match → Prop
  | _, [] => True
  | previous, m :: ms =>
      (m.fired.isSome = true ↔ ∃ p, previous = some p ∧ m.value ≠ p) ∧
        (∀ c, m.fired = some c → c.oldValue = m.value ∧ c.newValue = m.value) ∧ FiresOnChange (some m.value) ms

/-- No access that matches has another value than the previous one. -/
def NeverChanges : Option UInt64 → List Match → Prop
  | _, [] => True
  | previous, m :: ms => (∀ p, previous = some p → m.value = p) ∧ NeverChanges (some m.value) ms

/-- A report with the new value twice is right only of a value that did not change. -/
theorem FiresOnChange.exact_iff {previous : Option UInt64} {ms : List Match} (h : FiresOnChange previous ms) :
    Exact previous ms ↔ NeverChanges previous ms := by
  induction ms generalizing previous with
  | nil => exact Iff.rfl
  | cons m ms ih =>
      obtain ⟨hfires, hvalues, hrest⟩ := h
      constructor
      · rintro ⟨_, hreports, hexact⟩
        refine ⟨fun p hp => ?_, (ih hrest).mp hexact⟩
        by_contra hne
        obtain ⟨c, hc⟩ := Option.isSome_iff_exists.mp (hfires.mpr ⟨p, hp, hne⟩)
        exact hne ((hvalues c hc).1.symm.trans (hreports c p hc hp).1)
      · rintro ⟨hsame, hnever⟩
        refine ⟨hfires, fun c p hc hp => ?_, (ih hrest).mpr hnever⟩
        exact ⟨(hvalues c hc).1.trans (hsame p hp), (hvalues c hc).2⟩

/-- The condition is checked without touching the settings or the count. -/
theorem checkCondition_settings (w : Watchpoint κ) (value : UInt64) :
    (w.checkCondition value).2.condition = w.condition ∧ (w.checkCondition value).2.maxTriggers = w.maxTriggers ∧
      (w.checkCondition value).2.triggerCount = w.triggerCount := by
  unfold Watchpoint.checkCondition
  split
  all_goals first | exact ⟨rfl, rfl, rfl⟩ | (split <;> exact ⟨rfl, rfl, rfl⟩)

/-- **What one access does** to a watchpoint: nothing, if it does not match; else the condition is checked, and if it
    holds, the watchpoint fires. -/
theorem visit_cases (access : WatchedAccess κ) (w : Watchpoint κ) :
    (w.shouldTrigger access = false ∧ (visit access w).matched = none ∧ (visit access w).watchpoint = w) ∨
    (w.shouldTrigger access = true ∧ (w.checkCondition access.extractValue).1 = false ∧
      (visit access w).matched = some ⟨access.extractValue, none⟩ ∧
      (visit access w).watchpoint = (w.checkCondition access.extractValue).2) ∨
    (w.shouldTrigger access = true ∧ (w.checkCondition access.extractValue).1 = true ∧
      (visit access w).matched = some ⟨access.extractValue,
        some ((w.checkCondition access.extractValue).2.context access access.extractValue)⟩ ∧
      ∃ enabled, (visit access w).watchpoint =
        { (w.checkCondition access.extractValue).2 with
          triggerCount := (w.checkCondition access.extractValue).2.triggerCount + 1, enabled }) := by
  unfold visit
  dsimp only
  cases htrigger : w.shouldTrigger access with
  | false => exact .inl ⟨rfl, rfl, rfl⟩
  | true =>
      rw [Bool.not_true, if_neg Bool.false_ne_true]
      cases hcondition : (w.checkCondition access.extractValue).1 with
      | false => exact .inr (.inl ⟨rfl, rfl, rfl, rfl⟩)
      | true =>
          rw [Bool.not_true, if_neg Bool.false_ne_true]
          -- the maximum only decides whether it stays enabled
          refine .inr (.inr ⟨rfl, rfl, rfl, ?_⟩)
          dsimp only
          split
          · exact ⟨false, rfl⟩
          · exact ⟨_, rfl⟩

/-- What an access leaves of the settings of a watchpoint. -/
theorem visit_settings (access : WatchedAccess κ) (w : Watchpoint κ) :
    (visit access w).watchpoint.condition = w.condition ∧ (visit access w).watchpoint.maxTriggers = w.maxTriggers := by
  obtain ⟨hcondition, hmax, _⟩ := checkCondition_settings w access.extractValue
  rcases visit_cases access w with ⟨_, _, hw⟩ | ⟨_, _, _, hw⟩ | ⟨_, _, _, enabled, hw⟩
  · rw [hw]
    exact ⟨rfl, rfl⟩
  · rw [hw]
    exact ⟨hcondition, hmax⟩
  · rw [hw]
    exact ⟨hcondition, hmax⟩

/-- **One access that does not match** changes nothing. -/
theorem visit_of_not_matched (h : (visit access w).matched = none) : (visit access w).watchpoint = w := by
  rcases visit_cases access w with ⟨_, _, hw⟩ | ⟨_, _, hmatched, _⟩ | ⟨_, _, hmatched, _⟩
  · exact hw
  · rw [h] at hmatched
    cases hmatched
  · rw [h] at hmatched
    cases hmatched

/-- The check for a change stores the value. -/
theorem checkCondition_valueChanged (hcondition : w.condition = .VALUE_CHANGED) (value : UInt64) :
    (w.checkCondition value).2.previous = some value ∧ (w.checkCondition value).2.lastValue = value ∧
      ((w.checkCondition value).1 = true ↔ ∃ p, w.previous = some p ∧ value ≠ p) := by
  unfold Watchpoint.checkCondition Watchpoint.previous
  rw [hcondition]
  dsimp only
  cases hlast : w.hasLastValue with
  | false =>
      refine ⟨rfl, rfl, ?_⟩
      simp
  | true =>
      refine ⟨?_, rfl, ?_⟩
      · rfl
      · simp

/-- **One access that matches**, of a watchpoint for changes. -/
theorem visit_valueChanged (hcondition : w.condition = .VALUE_CHANGED) {m : Match}
    (h : (visit access w).matched = some m) :
    (visit access w).watchpoint.previous = some m.value ∧
      (m.fired.isSome = true ↔ ∃ p, w.previous = some p ∧ m.value ≠ p) ∧
      ∀ c, m.fired = some c → c.oldValue = m.value ∧ c.newValue = m.value := by
  obtain ⟨hprevious, hlast, hchecked⟩ := checkCondition_valueChanged hcondition access.extractValue
  rcases visit_cases access w with ⟨_, hmatched, _⟩ | ⟨_, hfalse, hmatched, hw⟩ | ⟨_, htrue, hmatched, enabled, hw⟩
  · rw [hmatched] at h
    cases h
  · obtain rfl := Option.some.inj (hmatched.symm.trans h)
    rw [hw]
    refine ⟨hprevious, ?_, fun c hc => nomatch hc⟩
    rw [← hchecked, hfalse]
    exact Iff.rfl
  · obtain rfl := Option.some.inj (hmatched.symm.trans h)
    rw [hw]
    refine ⟨hprevious, ?_, fun c hc => ?_⟩
    · rw [← hchecked, htrue]
      exact Iff.rfl
    · obtain rfl := Option.some.inj hc
      exact ⟨hlast, rfl⟩

/-! ## Runs -/

/-- An access and the watchpoint at a position: it is not matched and stays, or it is matched. -/
theorem watchStep_cases (access : WatchedAccess κ) (h : ws[i]? = some w) :
    (matchAt i ws access = none ∧ (watchStep ws access)[i]? = some w) ∨
      ∃ m, matchAt i ws access = some m ∧ (visit access w).matched = some m ∧
        (watchStep ws access)[i]? = some (visit access w).watchpoint := by
  rw [getElem?_watchStep, h]
  unfold matchAt
  rw [h, Option.bind_some, Option.map_some]
  cases reaches access ws i with
  | false => exact .inl ⟨rfl, rfl⟩
  | true =>
      rw [if_pos rfl, if_pos rfl]
      cases hmatched : (visit access w).matched with
      | none => exact .inl ⟨rfl, by rw [visit_of_not_matched hmatched]⟩
      | some m => exact .inr ⟨m, rfl, rfl, rfl⟩

theorem seenBy_cons (i : Nat) (ws : List (Watchpoint κ)) (access : WatchedAccess κ)
    (accesses : List (WatchedAccess κ)) :
    seenBy i ws (access :: accesses) = (matchAt i ws access).toList ++ seenBy i (watchStep ws access) accesses := rfl

/-- **A watchpoint for changes fires on changes**, and tells the new value. -/
theorem firesOnChange_seenBy (h : ws[i]? = some w) (hcondition : w.condition = .VALUE_CHANGED) :
    FiresOnChange w.previous (seenBy i ws accesses) := by
  induction accesses generalizing ws w with
  | nil => exact trivial
  | cons access accesses ih =>
      rw [seenBy_cons]
      rcases watchStep_cases access h with ⟨hnone, hnext⟩ | ⟨m, hmatch, hmatched, hnext⟩
      · rw [hnone]
        exact ih hnext hcondition
      · obtain ⟨hprevious, hfires, hvalues⟩ := visit_valueChanged hcondition hmatched
        rw [hmatch]
        refine ⟨hfires, hvalues, ?_⟩
        rw [← hprevious]
        exact ih hnext ((visit_settings access w).1.trans hcondition)

/-- How often a watchpoint fires. -/
def fires (ms : List Match) : Nat := ms.countP fun m => m.fired.isSome

/-- **One access and the count**: a watchpoint that fires is below its maximum, and is counted. -/
theorem visit_count (hmax : 0 < w.maxTriggers) {m : Match} (h : (visit access w).matched = some m) :
    (m.fired.isSome = false ∧ (visit access w).watchpoint.triggerCount = w.triggerCount) ∨
      (m.fired.isSome = true ∧ w.triggerCount < w.maxTriggers ∧
        (visit access w).watchpoint.triggerCount = w.triggerCount + 1) := by
  obtain ⟨_, _, hcount⟩ := checkCondition_settings w access.extractValue
  rcases visit_cases access w with ⟨_, hmatched, _⟩ | ⟨_, _, hmatched, hw⟩ | ⟨htrigger, _, hmatched, enabled, hw⟩
  · rw [hmatched] at h
    cases h
  · obtain rfl := Option.some.inj (hmatched.symm.trans h)
    exact .inl ⟨rfl, by rw [hw, hcount]⟩
  · obtain rfl := Option.some.inj (hmatched.symm.trans h)
    refine .inr ⟨rfl, ?_, by rw [hw, hcount]⟩
    unfold Watchpoint.shouldTrigger at htrigger
    by_contra hnot
    have hfull : w.maxTriggers > 0 ∧ w.triggerCount ≥ w.maxTriggers := ⟨hmax, not_lt.mp hnot⟩
    simp [hfull] at htrigger

/-- **A watchpoint with a maximum fires no more often.** -/
theorem fires_seenBy_le (h : ws[i]? = some w) (hmax : 0 < w.maxTriggers) :
    w.triggerCount.toNat + fires (seenBy i ws accesses) ≤ max w.triggerCount.toNat w.maxTriggers.toNat := by
  induction accesses generalizing ws w with
  | nil => exact Nat.le_max_left _ _
  | cons access accesses ih =>
      rw [seenBy_cons]
      rcases watchStep_cases access h with ⟨hnone, hnext⟩ | ⟨m, hmatch, hmatched, hnext⟩
      · rw [hnone]
        exact ih hnext hmax
      · have hsettings := (visit_settings access w).2
        -- below the maximum the count has room for one more, so it does not wrap around
        have hrest := ih hnext (by rw [hsettings]; exact hmax)
        rw [hsettings] at hrest
        rw [hmatch, fires, Option.toList_some, List.countP_append, List.countP_singleton]
        rcases visit_count hmax hmatched with ⟨hquiet, hcount⟩ | ⟨hfired, hbelow, hcount⟩
        · rw [hcount] at hrest
          rw [hquiet, if_neg Bool.false_ne_true, Nat.zero_add]
          exact hrest
        · have hlt : w.triggerCount.toNat < w.maxTriggers.toNat := hbelow
          have hword := w.maxTriggers.toNat_lt
          have hsucc : (w.triggerCount + 1).toNat = w.triggerCount.toNat + 1 := by
            rw [UInt64.toNat_add, UInt64.toNat_one]
            exact Nat.mod_eq_of_lt (by omega)
          rw [hcount, hsucc] at hrest
          rw [hfired, if_pos rfl]
          unfold fires at hrest
          omega

/-- **Watchpoint reporting**: a watchpoint for changes fires exactly when the value differs from the one it matched
    before, with the new value in its context, and no watchpoint fires more often than its maximum. Its reports are
    exact if no value that it matches ever changes, and only then. -/
theorem watchpoints_exact_iff : ∀ (ws : List (Watchpoint κ)) (accesses : List (WatchedAccess κ)) (i : Nat)
    (w : Watchpoint κ), ws[i]? = some w →
    (w.condition = .VALUE_CHANGED → FiresOnChange w.previous (seenBy i ws accesses) ∧
      (Exact w.previous (seenBy i ws accesses) ↔ NeverChanges w.previous (seenBy i ws accesses))) ∧
    (0 < w.maxTriggers → fires (seenBy i ws accesses) ≤ w.maxTriggers.toNat) := by
  intro ws accesses i w h
  refine ⟨fun hcondition => ?_, fun hmax => ?_⟩
  · have hfires := firesOnChange_seenBy accesses h hcondition
    exact ⟨hfires, hfires.exact_iff⟩
  · have hle := fires_seenBy_le accesses h hmax
    omega

/-- A write of 5 to a byte that is watched for changes. -/
def writeOf (value : UInt8) : WatchedAccess Unit where
  address := 0x1000
  data := [value]
  isWrite := true

def changeWatch : Watchpoint Unit where
  id := 1
  addressStart := 0x1000
  addressEnd := 0x1001
  condition := .VALUE_CHANGED
  maxTriggers := 1

/-- Two writes of one value, and no report. -/
theorem watchpoints_exact_iff_same : Exact none (seenBy 0 [changeWatch] [writeOf 5, writeOf 5]) ∧
    fires (seenBy 0 [changeWatch] [writeOf 5, writeOf 5]) ≤ 1 := by
  obtain ⟨hchanges, hmax⟩ := watchpoints_exact_iff [changeWatch] [writeOf 5, writeOf 5] 0 changeWatch rfl
  refine ⟨(hchanges rfl).2.mpr ?_, hmax (by decide)⟩
  have hseen : seenBy 0 [changeWatch] [writeOf 5, writeOf 5] = [⟨5, none⟩, ⟨5, none⟩] := rfl
  rw [hseen]
  exact ⟨(fun p hp => nomatch hp), (fun p hp => Option.some.inj hp), trivial⟩

/-- **The old value is lost**: 5 is written, then 6, and the report says that 6 became 6. -/
theorem oldValue_lost :
    ((seenBy 0 [changeWatch] [writeOf 5, writeOf 6]).map fun m =>
      (m.value, m.fired.map fun c => (c.oldValue, c.newValue))) = [(5, none), (6, some (6, 6))] ∧
      ¬ Exact changeWatch.previous (seenBy 0 [changeWatch] [writeOf 5, writeOf 6]) := by
  refine ⟨by decide +kernel, fun h => ?_⟩
  have hfires : FiresOnChange changeWatch.previous (seenBy 0 [changeWatch] [writeOf 5, writeOf 6]) :=
    firesOnChange_seenBy _ rfl rfl
  have hnever := hfires.exact_iff.mp h
  exact absurd (hnever.2.1 5 rfl) (by decide)

end GuideXOS.Core
