import GuideXOS.Machine.FullSnapshot

/-!
# `DeviceSnapshots` — what comes out of the snapshots of the devices

The interrupt controller keeps a queue of vectors, and its snapshot one flag for each vector: what comes out is in
ascending order and has no vector twice. The console keeps lines, and its snapshot the same lines. In a virtual machine
every request is handed on at once; a controller without a delivery callback keeps them.
-/

namespace GuideXOS.Machine
open Lib GuideXOS.Vm

/-! ## The interrupt controller -/

/-- A controller, and whether there is a callback that its requests are delivered to. -/
structure AttachedController where
  controller : BasicInterruptController := {}
  deliveryCallback : Bool := false

namespace AttachedController

/-- What a call returns. -/
inductive Result
  | nothing
  | flag (value : Bool)
  | source (id : UInt64)
  | vector (value : Option UInt8)

inductive Op
  | registerDeliveryCallback (callback : Bool)
  | registerSource (name : String) (vector : UInt8)
  | setSourceEnabled (sourceId : UInt64) (enabled : Bool)
  | raiseInterrupt (vector : UInt8)
  | raiseSource (sourceId : UInt64)
  | hasPendingInterrupt
  | getNextPendingInterrupt
  | deliverPendingInterrupts
  | reset

/-- **`DeliverPendingInterrupts`**, with what is delivered. -/
def deliverPendingInterrupts (c : AttachedController) : AttachedController × List UInt8 :=
  if c.deliveryCallback then
    ({ c with controller := { c.controller with pendingVectors := [] } }, c.controller.pendingVectors)
  else (c, [])

/-- **`RaiseInterrupt`** of a vector. -/
def raiseInterrupt (c : AttachedController) (vector : UInt8) : AttachedController × List UInt8 :=
  deliverPendingInterrupts
    { c with controller := { c.controller with pendingVectors := c.controller.pendingVectors ++ [vector] } }

/-- **`RegisterSource`.** -/
def registerSource (c : BasicInterruptController) (name : String) (vector : UInt8) : BasicInterruptController :=
  { c with
    sources := c.sources ++ [{ id := c.nextSourceId, name := name, vector := vector, enabled := true }]
    nextSourceId := c.nextSourceId + 1 }

/-- **`SetSourceEnabled`**: the first source of the number. -/
def setEnabled (sourceId : UInt64) (enabled : Bool) : List InterruptSource → List InterruptSource
  | [] => []
  | source :: sources =>
      if source.id = sourceId then { source with enabled := enabled } :: sources
      else source :: setEnabled sourceId enabled sources

/-- One call, with what it returns and what is delivered in it. -/
def step (c : AttachedController) : Op → AttachedController × Result × List UInt8
  | .registerDeliveryCallback callback =>
      let (c, delivered) := deliverPendingInterrupts { c with deliveryCallback := callback }
      (c, .nothing, delivered)
  | .registerSource name vector =>
      ({ c with controller := registerSource c.controller name vector }, .source c.controller.nextSourceId, [])
  | .setSourceEnabled sourceId enabled =>
      ({ c with controller := { c.controller with sources := setEnabled sourceId enabled c.controller.sources } },
        .flag (c.controller.sources.any (·.id == sourceId)), [])
  | .raiseInterrupt vector =>
      let (c, delivered) := c.raiseInterrupt vector
      (c, .flag true, delivered)
  | .raiseSource sourceId =>
      match c.controller.sources.find? (·.id == sourceId) with
      | none => (c, .flag false, [])
      | some source =>
          if source.enabled then
            let (c, delivered) := c.raiseInterrupt source.vector
            (c, .flag true, delivered)
          else (c, .flag false, [])
  | .hasPendingInterrupt => (c, .flag !c.controller.pendingVectors.isEmpty, [])
  | .getNextPendingInterrupt =>
      ({ c with controller := { c.controller with pendingVectors := c.controller.pendingVectors.tail } },
        .vector c.controller.pendingVectors.head?, [])
  | .deliverPendingInterrupts =>
      let (c, delivered) := c.deliverPendingInterrupts
      (c, .nothing, delivered)
  | .reset => ({ c with controller := c.controller.reset }, .nothing, [])

/-- A snapshot of `c` restored into `d`; the callback is not part of it. -/
def restored (d c : AttachedController) : AttachedController :=
  { d with controller := d.controller.restoreSnapshot c.controller.createSnapshot }

/-- The states of a controller: it is used, and snapshots are restored into it. -/
inductive Reachable : AttachedController → Prop
  | construct : Reachable {}
  | step {c : AttachedController} (op : Op) : Reachable c → Reachable (c.step op).1
  | restored {c d : AttachedController} : Reachable c → Reachable d → Reachable (d.restored c)

/-- What is seen of a controller in a sequence of calls, and the sources at the end of it. -/
def future (c : AttachedController) : List Op → List (Result × List UInt8) × List InterruptSource
  | [] => ([], c.controller.sources)
  | op :: ops =>
      let (seen, sources) := (c.step op).1.future ops
      ((c.step op).2 :: seen, sources)

/-! ### What is restored -/

/-- The vectors whose flags are set, in ascending order. -/
def flagged (pending : List UInt8) : List UInt8 :=
  (List.range 256).filterMap fun v => if UInt8.ofNat v ∈ pending then some (UInt8.ofNat v) else none

theorem flagged_sorted (pending : List UInt8) : (flagged pending).Pairwise (· < ·) := by
  unfold flagged
  rw [List.pairwise_filterMap]
  refine List.Pairwise.imp_of_mem ?_ List.pairwise_lt_range
  intro v w hv hw hlt x hx y hy
  have hx' := Option.mem_def.mp hx
  have hy' := Option.mem_def.mp hy
  split at hx'
  · split at hy'
    · cases hx'
      cases hy'
      rw [UInt8.lt_iff_toNat_lt, UInt8.toNat_ofNat_of_lt' (List.mem_range.mp hv),
        UInt8.toNat_ofNat_of_lt' (List.mem_range.mp hw)]
      exact hlt
    · cases hy'
  · cases hx'

theorem mem_flagged {pending : List UInt8} {x : UInt8} : x ∈ flagged pending ↔ x ∈ pending := by
  unfold flagged
  rw [List.mem_filterMap]
  constructor
  · rintro ⟨v, -, hv⟩
    split at hv
    · next hmem =>
      cases hv
      exact hmem
    · cases hv
  · intro hmem
    refine ⟨x.toNat, List.mem_range.mpr x.toNat_lt, ?_⟩
    rw [UInt8.ofNat_toNat, if_pos hmem]

/-- The queue comes out as it was if it is in ascending order, without a vector twice. -/
theorem flagged_eq_iff (pending : List UInt8) : flagged pending = pending ↔ pending.Pairwise (· < ·) := by
  constructor
  · intro heq
    rw [← heq]
    exact flagged_sorted pending
  · intro hsorted
    have hnodup : ∀ {l : List UInt8}, l.Pairwise (· < ·) → l.Nodup :=
      fun h => h.imp fun hlt heq => absurd (heq ▸ hlt) (UInt8.lt_irrefl _)
    have hperm : (flagged pending).Perm pending :=
      (List.perm_ext_iff_of_nodup (hnodup (flagged_sorted pending)) (hnodup hsorted)).mpr fun x => mem_flagged
    exact hperm.eq_of_pairwise (fun a b _ _ hab hba => absurd (UInt8.lt_trans hab hba) (UInt8.lt_irrefl _))
      (flagged_sorted pending) hsorted

theorem pendingVectors_restored (d c : BasicInterruptController) :
    (d.restoreSnapshot c.createSnapshot).pendingVectors = flagged c.pendingVectors := by
  have hflag : ∀ v ∈ List.range 256, (if c.createSnapshot.pendingInterrupts[v]? = some true then
      some (UInt8.ofNat v) else none) = if UInt8.ofNat v ∈ c.pendingVectors then some (UInt8.ofNat v) else none := by
    intro v hv
    have hget : c.createSnapshot.pendingInterrupts[v]? = some (c.pendingVectors.contains (UInt8.ofNat v)) := by
      show ((List.range 256).map fun v => c.pendingVectors.contains (UInt8.ofNat v))[v]? = _
      rw [List.getElem?_map, List.getElem?_range (List.mem_range.mp hv)]
      rfl
    rw [hget]
    simp only [Option.some.injEq, List.contains_iff_mem]
  have hlength : c.createSnapshot.pendingInterrupts.length = 256 := by
    show ((List.range 256).map _).length = 256
    rw [List.length_map, List.length_range]
  have hvectors : (List.range c.createSnapshot.pendingInterrupts.length).filterMap (fun v =>
      if c.createSnapshot.pendingInterrupts[v]? = some true then some (UInt8.ofNat v) else none) =
        flagged c.pendingVectors := by
    rw [hlength]
    exact List.filterMap_congr hflag
  unfold BasicInterruptController.restoreSnapshot
  dsimp only
  split
  · exact hvectors
  · exact hvectors

/-- The sources come out as they were, but none of them leave those there are. -/
theorem sources_restored (d c : BasicInterruptController) :
    (c.sources ≠ [] → (d.restoreSnapshot c.createSnapshot).sources = c.sources ∧
      (d.restoreSnapshot c.createSnapshot).nextSourceId = c.nextSourceId) ∧
    (c.sources = [] → ((d.restoreSnapshot c.createSnapshot).sources = [] ↔ d.sources = []) ∧
      (d.restoreSnapshot c.createSnapshot).nextSourceId = d.nextSourceId) := by
  have hsources : c.createSnapshot.sources = c.sources := rfl
  unfold BasicInterruptController.restoreSnapshot
  rw [hsources]
  refine ⟨fun hne => ?_, fun hnil => ?_⟩
  · dsimp only
    rw [if_pos hne]
    exact ⟨rfl, rfl⟩
  · dsimp only
    rw [if_neg (not_not.mpr hnil)]
    exact ⟨List.map_eq_nil_iff, rfl⟩

/-- No number has been given out while there are no sources. -/
theorem setEnabled_eq_nil_iff {sourceId : UInt64} {enabled : Bool} {sources : List InterruptSource} :
    setEnabled sourceId enabled sources = [] ↔ sources = [] := by
  cases sources with
  | nil => exact Iff.rfl
  | cons source sources =>
      rw [setEnabled]
      split <;> exact iff_of_false (List.cons_ne_nil _ _) (List.cons_ne_nil _ _)

theorem deliver_sources (c : AttachedController) :
    c.deliverPendingInterrupts.1.controller.sources = c.controller.sources ∧
      c.deliverPendingInterrupts.1.controller.nextSourceId = c.controller.nextSourceId := by
  unfold deliverPendingInterrupts
  split <;> exact ⟨rfl, rfl⟩

theorem Reachable.nextSourceId {c : AttachedController} (h : Reachable c) :
    c.controller.sources = [] → c.controller.nextSourceId = 1 := by
  induction h with
  | construct => exact fun _ => rfl
  | @step c op _ ih =>
      cases op with
      | registerDeliveryCallback callback =>
          obtain ⟨hsources, hnext⟩ := deliver_sources { c with deliveryCallback := callback }
          intro hnil
          exact hnext.trans (ih (hsources.symm.trans hnil))
      | registerSource name vector =>
          intro hnil
          exact absurd hnil (List.append_ne_nil_of_right_ne_nil _ (List.cons_ne_nil _ _))
      | setSourceEnabled sourceId enabled => exact fun hnil => ih (setEnabled_eq_nil_iff.mp hnil)
      | raiseInterrupt vector =>
          obtain ⟨hsources, hnext⟩ := deliver_sources
            { c with controller := { c.controller with pendingVectors := c.controller.pendingVectors ++ [vector] } }
          intro hnil
          exact hnext.trans (ih (hsources.symm.trans hnil))
      | raiseSource sourceId =>
          unfold AttachedController.step
          dsimp only
          split
          · exact ih
          · next source _ =>
            split
            · obtain ⟨hsources, hnext⟩ := deliver_sources
                { c with controller :=
                  { c.controller with pendingVectors := c.controller.pendingVectors ++ [source.vector] } }
              intro hnil
              exact hnext.trans (ih (hsources.symm.trans hnil))
            · exact ih
      | hasPendingInterrupt => exact ih
      | getNextPendingInterrupt => exact ih
      | deliverPendingInterrupts =>
          obtain ⟨hsources, hnext⟩ := deliver_sources c
          intro hnil
          exact hnext.trans (ih (hsources.symm.trans hnil))
      | reset => exact ih
  | @restored c d _ _ ihc ihd =>
      obtain ⟨hsome, hnone⟩ := sources_restored d.controller c.controller
      intro hnil
      by_cases hsources : c.controller.sources = []
      · obtain ⟨hiff, hnext⟩ := hnone hsources
        exact hnext.trans (ihd (hiff.mp hnil))
      · exact absurd ((hsome hsources).1.symm.trans hnil) hsources

/-- **The controller comes out as it was** if its queue is in ascending order, and if there are sources in it or none
    in the other one. -/
theorem restored_future_iff {c d : AttachedController} (hc : Reachable c) (hd : Reachable d)
    (hcallback : d.deliveryCallback = c.deliveryCallback) :
    (∀ ops, (d.restored c).future ops = c.future ops) ↔
      c.controller.pendingVectors.Pairwise (· < ·) ∧ (c.controller.sources = [] → d.controller.sources = []) := by
  obtain ⟨hsome, hnone⟩ := sources_restored d.controller c.controller
  have hpending := pendingVectors_restored d.controller c.controller
  constructor
  · intro hsame
    constructor
    · -- a callback sees the whole queue
      have hdelivered := congrArg Prod.fst (hsame [.registerDeliveryCallback true])
      have hqueue : (d.restored c).controller.pendingVectors = c.controller.pendingVectors := by
        have hhead := (List.cons.inj hdelivered).1
        exact congrArg Prod.snd hhead
      rw [← flagged_eq_iff]
      exact hpending.symm.trans hqueue
    · intro hnil
      have hsources : (d.restored c).controller.sources = c.controller.sources := congrArg Prod.snd (hsame [])
      exact (hnone hnil).1.mp (hsources.trans hnil)
  · rintro ⟨hsorted, hsources⟩ ops
    have hqueue : (d.controller.restoreSnapshot c.controller.createSnapshot).pendingVectors =
        c.controller.pendingVectors := hpending.trans ((flagged_eq_iff _).mpr hsorted)
    have hrest : (d.controller.restoreSnapshot c.controller.createSnapshot).sources = c.controller.sources ∧
        (d.controller.restoreSnapshot c.controller.createSnapshot).nextSourceId = c.controller.nextSourceId := by
      by_cases hnil : c.controller.sources = []
      · obtain ⟨hiff, hnext⟩ := hnone hnil
        refine ⟨(hiff.mpr (hsources hnil)).trans hnil.symm, ?_⟩
        rw [hnext, hd.nextSourceId (hsources hnil), hc.nextSourceId hnil]
      · exact hsome hnil
    have heq : d.restored c = c := by
      obtain ⟨c, callback⟩ := c
      obtain ⟨pending, sources, next⟩ := c
      unfold restored
      rw [hcallback]
      generalize d.controller.restoreSnapshot _ = r at *
      obtain ⟨rpending, rsources, rnext⟩ := r
      obtain ⟨rfl, rfl⟩ := hrest
      cases hqueue
      rfl
    rw [heq]

end AttachedController

/-! ## The console -/

namespace VirtualConsole

/-- **`Flush`.** -/
def flush (c : VirtualConsole) : VirtualConsole := { c with buffer := "" }

/-- **`WriteChar`.** -/
def writeChar (c : VirtualConsole) (value : Char) : VirtualConsole :=
  let c := { c with buffer := c.buffer.push value, outputBuffer := c.outputBuffer.appendChar value }
  if value = '\n' then c.flush else c

/-- **`Write`** of one byte, at its offset: the data register, or the one that flushes. -/
def writeByte (c : VirtualConsole) (offset : UInt64) (value : UInt8) : VirtualConsole :=
  if offset = 0 then c.writeChar (Char.ofNat value.toNat)
  else if offset = 5 ∧ value ≠ 0 then c.flush
  else c

inductive Op
  | write (offset : UInt64) (data : List UInt8)
  | writeChar (value : Char)
  | flush
  | clearOutput
  | reset

def step (c : VirtualConsole) : Op → VirtualConsole
  | .write offset data =>
      data.zipIdx.foldl (fun c (value, index) => c.writeByte (offset + UInt64.ofNat index) value) c
  | .writeChar value => c.writeChar value
  | .flush => c.flush
  | .clearOutput => { c with outputBuffer := c.outputBuffer.clear }
  | .reset => c.reset

/-- The states of a console. -/
inductive Reachable : VirtualConsole → Prop
  | construct (baseAddress scrollbackLines : UInt64) :
      Reachable { baseAddress := baseAddress, outputBuffer := { maxLines := scrollbackLines } }
  | step {c : VirtualConsole} (op : Op) : Reachable c → Reachable (c.step op)
  | restored {c d : VirtualConsole} : Reachable c → Reachable d → Reachable (d.restoreSnapshot c.createSnapshot)

variable {c : VirtualConsole}

theorem Exact.writeChar (h : c.Exact) (value : Char) : (c.writeChar value).Exact := by
  have hbuffer : (c.writeChar value).outputBuffer = c.outputBuffer.appendChar value := by
    unfold VirtualConsole.writeChar
    dsimp only
    split <;> rfl
  unfold Exact
  rw [hbuffer]
  unfold ConsoleOutputBuffer.appendChar
  dsimp only
  by_cases hnewline : value = '\n'
  · rw [if_pos hnewline]
    unfold ConsoleOutputBuffer.enforceMaxLines
    dsimp only
    split
    · next hzero =>
      exact ⟨.inl hzero, fun hnil => absurd hnil (List.append_ne_nil_of_right_ne_nil _ (List.cons_ne_nil _ _))⟩
    · next hzero =>
      -- one line is left at least
      have hpos : 0 < c.outputBuffer.maxLines.toNat :=
        Nat.pos_of_ne_zero fun hnone => hzero (UInt64.toNat_inj.mp hnone)
      refine ⟨.inr ?_, fun hnil => ?_⟩
      · show (List.drop _ _).length ≤ c.outputBuffer.maxLines.toNat
        rw [List.length_drop]
        omega
      have hlength := congrArg List.length hnil
      rw [List.length_drop, List.length_append, List.length_singleton, List.length_nil] at hlength
      omega
  · rw [if_neg hnewline]
    exact ⟨h.1, fun _ hempty => absurd hempty String.push_ne_empty⟩

theorem Exact.writeByte (h : c.Exact) (offset : UInt64) (value : UInt8) : (c.writeByte offset value).Exact := by
  unfold VirtualConsole.writeByte
  split
  · exact h.writeChar _
  · split <;> exact h

theorem Exact.writeBytes (h : c.Exact) (offset : UInt64) (bytes : List (UInt8 × ℕ)) :
    (bytes.foldl (fun c (value, index) => c.writeByte (offset + UInt64.ofNat index) value) c).Exact := by
  induction bytes generalizing c with
  | nil => exact h
  | cons byte bytes ih => exact ih (h.writeByte _ _)

theorem Exact.cleared (buffer : String) : Exact { c with buffer := buffer, outputBuffer := c.outputBuffer.clear } :=
  ⟨.inr (Nat.zero_le _), fun _ _ => rfl⟩

/-- **Every reachable console** is within its limit, and empty only with nothing counted. -/
theorem Reachable.exact (h : Reachable c) : c.Exact := by
  induction h with
  | construct baseAddress scrollbackLines => exact ⟨.inr (Nat.zero_le _), fun _ _ => rfl⟩
  | @step c op _ ih =>
      cases op with
      | write offset data =>
          exact ih.writeBytes offset data.zipIdx
      | writeChar value => exact ih.writeChar value
      | flush => exact ih
      | clearOutput => exact .cleared c.buffer
      | reset => exact .cleared ""
  | @restored c d _ _ ihc _ =>
      rw [VirtualMachine.restoreSnapshot_createSnapshot_console ihc]
      exact ihc

end VirtualConsole

/-! ## Both -/

/-- **The snapshots of the devices round trip**: the console always, and the interrupt controller if its queue is in
ascending order without a vector twice, and if there are sources in the snapshot or none in the controller it is
restored into. -/
theorem deviceSnapshots_iff : ∀ (c d : AttachedController) (console target : VirtualConsole), c.Reachable → d.Reachable →
    console.Reachable → d.deliveryCallback = c.deliveryCallback →
    ((∀ ops, (d.restored c).future ops = c.future ops) ∧ target.restoreSnapshot console.createSnapshot = console ↔
      c.controller.pendingVectors.Pairwise (· < ·) ∧ (c.controller.sources = [] → d.controller.sources = [])) := by
  intro c d console target hc hd hconsole hcallback
  have hkept : target.restoreSnapshot console.createSnapshot = console :=
    VirtualMachine.restoreSnapshot_createSnapshot_console hconsole.exact target
  rw [and_iff_left hkept]
  exact AttachedController.restored_future_iff hc hd hcallback

/-- One request is in order. -/
theorem deviceSnapshots_one :
    let c := (({} : AttachedController).step (.raiseInterrupt 5)).1
    let console := ({ baseAddress := 0 } : VirtualConsole).step (.writeChar 'a')
    (∀ ops, (AttachedController.restored {} c).future ops = c.future ops) ∧
      VirtualConsole.restoreSnapshot { baseAddress := 0 } console.createSnapshot = console := by
  intro c console
  have hreachable : c.Reachable := .step (.raiseInterrupt 5) .construct
  have hconsole : console.Reachable := .step (.writeChar 'a') (.construct 0 10000)
  refine (deviceSnapshots_iff c {} console _ hreachable .construct hconsole rfl).mpr ⟨?_, fun _ => rfl⟩
  exact List.pairwise_singleton _ _

/-- **A queue that is reordered**: `5`, `3` and again `5` come out as `3` and `5`. -/
theorem pendingVectors_reordered :
    let c := (((({} : AttachedController).step (.raiseInterrupt 5)).1.step (.raiseInterrupt 3)).1.step
      (.raiseInterrupt 5)).1
    c.Reachable ∧ (c.step (.registerDeliveryCallback true)).2.2 = [5, 3, 5] ∧
      ((c.restored c).step (.registerDeliveryCallback true)).2.2 = [3, 5] ∧
      ¬ ∀ ops, (c.restored c).future ops = c.future ops := by
  intro c
  have hqueue : (c.step (.registerDeliveryCallback true)).2.2 = [5, 3, 5] := rfl
  have hrestored : ((c.restored c).step (.registerDeliveryCallback true)).2.2 = [3, 5] := by decide +kernel
  refine ⟨.step _ (.step _ (.step _ .construct)), hqueue, hrestored, fun hsame => ?_⟩
  have hfirst := (List.cons.inj (congrArg Prod.fst (hsame [.registerDeliveryCallback true]))).1
  have hdelivered := congrArg Prod.snd hfirst
  have hwrong : ([3, 5] : List UInt8) = [5, 3, 5] := hrestored.symm.trans (hdelivered.trans hqueue)
  exact absurd hwrong (by decide)

end GuideXOS.Machine
