import GuideXOS.Machine.Nops
import GuideXOS.Manager.VMManager

/-!
# `Lifecycle` — recorded states along a history

What one operation does to the recorded states is said per instance first (`Moves`) and carried to the manager by
`onInstance`. Along a history the identifiers in use were made from numbers that the counter has passed (`Numbered`), so a
new machine never takes the place of another one; and a machine that is recorded stopped, running or paused has not failed
(`Sound`). It need not be in the state that is recorded: a start does not run it, and a pause does not reach it.
-/

namespace GuideXOS.Manager
open Lib Lib.Runs GuideXOS.Machine

/-! ## One instance -/

namespace VMInstance
variable {I : Type} {engine : Engine I} {host : Host I} {inst : VMInstance I}

/-- What an operation does to the recorded state: only where it may, and a failure leaves it or records an error, but for
    what the boot loader gives up. -/
structure Moves (loads : Prop) (permitted : Bool) (inst : VMInstance I) (ok : Bool) (inst' : VMInstance I) : Prop where
  guarded : inst'.metadata.currentState ≠ inst.metadata.currentState → permitted = true
  failure : loads → ok = false → inst'.metadata.currentState = inst.metadata.currentState ∨ inst'.metadata.Failed

section Moves
variable {loads : Prop}

variable {inst' : VMInstance I}

theorem Moves.same {permitted ok : Bool} (h : inst'.metadata.currentState = inst.metadata.currentState) :
    Moves loads permitted inst ok inst' :=
  ⟨fun hne => absurd h hne, fun _ _ => .inl h⟩

theorem Moves.done : Moves loads true inst true inst' := ⟨fun _ => rfl, fun _ h => nomatch h⟩

theorem Moves.failed {ok : Bool} (h : inst'.metadata.Failed) : Moves loads true inst ok inst' :=
  ⟨fun _ => rfl, fun _ _ => .inr h⟩

theorem LoadError.message_ne (error : LoadError) : error.message ≠ "" := by
  cases error <;> decide

theorem append_ne_empty {s : String} (h : s ≠ "") (t : String) : s ++ t ≠ "" := by
  intro happend
  exact h (String.append_eq_empty_iff.mp happend).1

/-- A start is permitted by its guard, and fails with an error unless it is abandoned. -/
theorem moves_start (hload : loads → ∀ vm, (host.load inst.metadata.configuration vm).outcome ≠ .abandoned) :
    Moves loads inst.metadata.canStart inst (inst.start host).1 (inst.start host).2 := by
  -- from a state other than that of the instance, which the guard permits to leave
  have hboot : ∀ starting : VMInstance I, starting.metadata.configuration = inst.metadata.configuration →
      Moves loads true inst (starting.boot host).1 (starting.boot host).2 := by
    intro starting hconfiguration
    have hnot : loads → (host.load starting.metadata.configuration starting.vm).outcome ≠ .abandoned := by
      rw [hconfiguration]
      exact fun h => hload h starting.vm
    unfold boot
    dsimp only
    cases houtcome : (host.load starting.metadata.configuration starting.vm).outcome with
    | loaded => exact .done
    | failed error => exact .failed (VMMetadata.failed_setError _ (LoadError.message_ne error))
    | threw what =>
        exact .failed (VMMetadata.failed_setError _ (append_ne_empty (by decide) what))
    | abandoned => exact ⟨fun _ => rfl, fun h => absurd houtcome (hnot h)⟩
  unfold start
  cases hguard : inst.metadata.canStart with
  | false => exact .same rfl
  | true =>
      rw [if_neg (by simp)]
      dsimp only
      split
      · generalize (inst.setState .STARTING "Starting VM").vm.reset = r
        obtain ⟨ok, vm⟩ := r
        cases ok with
        | false => exact .failed (VMMetadata.failed_setError _ (by decide))
        | true => exact hboot _ rfl
      · exact hboot _ rfl

theorem moves_stop : Moves loads inst.metadata.canStop inst inst.stop.1 inst.stop.2 := by
  unfold stop
  cases hguard : inst.metadata.canStop with
  | false => exact .same rfl
  | true => exact .done

theorem moves_pause : Moves loads inst.metadata.canPause inst inst.pause.1 inst.pause.2 := by
  unfold pause
  cases hguard : inst.metadata.canPause with
  | false => exact .same rfl
  | true => exact .done

theorem moves_resume : Moves loads inst.metadata.canResume inst inst.resume.1 inst.resume.2 := by
  unfold resume
  cases hguard : inst.metadata.canResume with
  | false => exact .same rfl
  | true => exact .done

/-- A reset is permitted everywhere. -/
theorem moves_reset : Moves loads true inst inst.reset.1 inst.reset.2 := by
  unfold reset
  generalize inst.vm.reset = r
  obtain ⟨ok, vm⟩ := r
  cases ok with
  | false => exact .failed (VMMetadata.failed_setError _ (by decide))
  | true => exact .done

theorem moves_terminate : Moves loads true inst inst.terminate.1 inst.terminate.2 := .done

theorem moves_restore (snapshot : VMSnapshot) :
    Moves loads true inst (inst.restore snapshot).1 (inst.restore snapshot).2 := by
  unfold restore
  dsimp only
  generalize inst.vm.reset = r
  obtain ⟨ok, vm⟩ := r
  cases ok with
  | false => exact .failed (VMMetadata.failed_setError _ (by decide))
  | true => exact .done

/-- A run leaves the state, or records that the machine failed. -/
theorem moves_run (fuel : Nat) (maxCycles : UInt64) (ok : UInt64 → Bool) :
    Moves loads (inst.metadata.currentState == .RUNNING) inst (ok (inst.run engine host fuel maxCycles).1)
      (inst.run engine host fuel maxCycles).2 := by
  unfold run
  by_cases hrunning : inst.metadata.currentState ≠ .RUNNING
  · rw [if_pos hrunning]
    exact .same rfl
  · rw [if_neg hrunning, not_not.mp hrunning]
    cases inst.vm.run engine fuel maxCycles with
    | none => exact .same rfl
    | some r =>
        obtain ⟨cycles, vm⟩ := r
        unfold afterRun
        dsimp only
        by_cases herror : vm.state = .ERROR
        · rw [if_pos herror]
          have hfailed : (inst.metadata.setError "VM execution stopped; see native log for [SKIP] warnings").Failed :=
            VMMetadata.failed_setError _ (by decide)
          exact .failed ⟨hfailed.1, hfailed.2, hfailed.3⟩
        · rw [if_neg herror]
          exact .same rfl

theorem moves_step : Moves loads false inst (inst.step engine).1 (inst.step engine).2 := by
  unfold step
  split
  · exact .same rfl
  · exact .same rfl

theorem moves_updateConfiguration (config : VMConfiguration) :
    Moves loads false inst (inst.updateConfiguration config).1 (inst.updateConfiguration config).2 := by
  unfold updateConfiguration
  split
  · exact .same rfl
  · cases config.validate with
    | error _ => exact .same rfl
    | ok _ => exact .same rfl

end Moves

/-! ## The state of the machine -/

/-- A machine that could run, for all that is recorded, has not failed. -/
def Sound (inst : VMInstance I) : Prop :=
  inst.metadata.currentState = .CREATED ∨ inst.metadata.currentState = .STOPPED ∨
    inst.metadata.currentState = .RUNNING ∨ inst.metadata.currentState = .PAUSED → inst.vm.state ≠ .ERROR

theorem sound_of_state (h : inst.vm.state ≠ .ERROR) : inst.Sound := fun _ => h

/-- Whatever is recorded otherwise is sound. -/
theorem sound_of_recorded (state : VMState) (h : inst.metadata.currentState = state)
    (hstate : state ≠ .CREATED ∧ state ≠ .STOPPED ∧ state ≠ .RUNNING ∧ state ≠ .PAUSED) : inst.Sound := by
  obtain ⟨hcreated, hstopped, hrunning, hpaused⟩ := hstate
  intro hrecorded
  rw [h] at hrecorded
  rcases hrecorded with h' | h' | h' | h'
  · exact absurd h' hcreated
  · exact absurd h' hstopped
  · exact absurd h' hrunning
  · exact absurd h' hpaused

theorem state_halt (vm : VirtualMachine I) (h : vm.state ≠ .ERROR) : vm.halt.state ≠ .ERROR := by
  unfold VirtualMachine.halt
  split
  · exact fun h => nomatch h
  · exact h

/-- A reset that succeeds stops the machine. -/
theorem state_reset {vm vm' : VirtualMachine I} (h : vm.reset = (true, vm')) : vm'.state = .STOPPED := by
  unfold VirtualMachine.reset at h
  generalize vm.bootStateMachine.reset.powerOn = r at h
  obtain ⟨on, machine⟩ := r
  dsimp only at h
  obtain ⟨rfl, rfl⟩ := Prod.mk.inj h
  rfl

theorem Sound.stop (h : inst.Sound) : inst.stop.2.Sound := by
  unfold VMInstance.stop
  cases hguard : inst.metadata.canStop with
  | false => exact h
  | true =>
      refine sound_of_state (state_halt _ (h ?_))
      simp only [VMMetadata.canStop, Bool.or_eq_true, beq_iff_eq] at hguard
      exact .inr (.inr hguard)

theorem Sound.pause (h : inst.Sound) : inst.pause.2.Sound := by
  unfold VMInstance.pause
  cases hguard : inst.metadata.canPause with
  | false => exact h
  | true => exact sound_of_state (h (.inr (.inr (.inl (beq_iff_eq.mp hguard)))))

theorem Sound.resume (h : inst.Sound) : inst.resume.2.Sound := by
  unfold VMInstance.resume
  cases hguard : inst.metadata.canResume with
  | false => exact h
  | true => exact sound_of_state (h (.inr (.inr (.inr (beq_iff_eq.mp hguard)))))

theorem sound_reset (inst : VMInstance I) : inst.reset.2.Sound := by
  unfold reset
  cases hreset : inst.vm.reset with
  | mk ok vm =>
      cases ok with
      | false => exact sound_of_recorded .ERROR rfl (by decide)
      | true =>
          have hstopped : vm.state ≠ .ERROR := by simp [state_reset hreset]
          dsimp only
          split <;> exact sound_of_state hstopped

theorem sound_terminate (inst : VMInstance I) : inst.terminate.2.Sound := sound_of_recorded .TERMINATED rfl (by decide)

theorem sound_restore (snapshot : VMSnapshot) (inst : VMInstance I) : (inst.restore snapshot).2.Sound := by
  unfold restore
  cases hreset : inst.vm.reset with
  | mk ok vm =>
      cases ok with
      | false => exact sound_of_recorded .ERROR rfl (by decide)
      | true => exact sound_of_state (by simp [state_reset hreset])

theorem sound_boot (h : inst.vm.state ≠ .ERROR) : (inst.boot host).2.Sound := by
  unfold boot
  dsimp only
  cases (host.load inst.metadata.configuration inst.vm).outcome <;> exact sound_of_state h

theorem Sound.start (h : inst.Sound) : (inst.start host).2.Sound := by
  unfold VMInstance.start
  cases hguard : inst.metadata.canStart with
  | false => exact h
  | true =>
      rw [if_neg (by simp)]
      dsimp only
      by_cases hterminated : (inst.setState .STARTING "Starting VM").metadata.previousState = .TERMINATED
      · rw [if_pos hterminated]
        cases hreset : (inst.setState .STARTING "Starting VM").vm.reset with
        | mk ok vm =>
            cases ok with
            | false => exact sound_of_recorded .ERROR rfl (by decide)
            | true => exact sound_boot (by simp [state_reset hreset])
      · rw [if_neg hterminated]
        refine sound_boot (h ?_)
        simp only [VMMetadata.canStart, Bool.or_eq_true, beq_iff_eq] at hguard
        rcases hguard with (hstopped | hcreated) | hterminated'
        · exact .inr (.inl hstopped)
        · exact .inl hcreated
        · exact absurd hterminated' hterminated

/-- After a run the machine is looked at. -/
theorem Sound.run (h : inst.Sound) (fuel : Nat) (maxCycles : UInt64) :
    (inst.run engine host fuel maxCycles).2.Sound := by
  unfold VMInstance.run
  split
  · exact h
  · cases inst.vm.run engine fuel maxCycles with
    | none => exact h
    | some r =>
        obtain ⟨cycles, vm⟩ := r
        by_cases herror : vm.state = .ERROR
        · refine sound_of_recorded .ERROR ?_ (by decide)
          unfold afterRun
          dsimp only
          rw [if_pos herror]
          rfl
        · exact sound_of_state herror

theorem Sound.updateConfiguration (h : inst.Sound) (config : VMConfiguration) :
    (inst.updateConfiguration config).2.Sound := by
  unfold VMInstance.updateConfiguration
  split
  · exact h
  · cases config.validate with
    | error _ => exact h
    | ok _ => exact h

end VMInstance

/-! ## The manager -/

/-- Where an operation may change a recorded state. -/
def ManagerOp.permits (op : ManagerOp) (m : VMMetadata) : Bool :=
  match op with
  | .startVM _ => m.canStart
  | .stopVM _ => m.canStop
  | .pauseVM _ => m.canPause
  | .resumeVM _ => m.canResume
  | .runVM .. => m.currentState == .RUNNING
  | .resetVM _ | .terminateVM _ | .restoreSnapshot .. => true
  | _ => false

namespace VMManager
variable {I α : Type} {engine : Engine I} {host : Host I} {m : VMManager I} {op : ManagerOp} (vmId : String)

/-- The machine an operation is about. -/
def target (m : VMManager I) (op : ManagerOp) : String :=
  match op with
  | .createVM config => m.generateVMId config.name
  | .deleteVM vmId | .updateVMConfiguration vmId _ | .startVM vmId | .stopVM vmId | .pauseVM vmId | .resumeVM vmId
  | .resetVM vmId | .terminateVM vmId | .runVM vmId _ _ | .stepVM vmId | .snapshotVM vmId _ _
  | .restoreSnapshot vmId _ | .deleteSnapshot vmId _ => vmId

/-- The boot loader does not give up on the image of the boot device. -/
def Loads (host : Host I) (m : VMManager I) (op : ManagerOp) : Prop :=
  ∀ vmId inst, op = .startVM vmId → m.vms.find? vmId = some inst →
    ∀ vm, (host.load inst.metadata.configuration vm).outcome ≠ .abandoned

/-- What an operation does to the recorded states. -/
structure KeepsLifecycle (engine : Engine I) (host : Host I) (m : VMManager I) (op : ManagerOp) : Prop where
  /-- Nothing happens to another machine. -/
  others : ∀ vmId, vmId ≠ m.target op → (m.after engine host op).vms.find? vmId = m.vms.find? vmId
  /-- A recorded state changes only where the guard of the operation permits it. -/
  guarded : ∀ inst inst', m.vms.find? (m.target op) = some inst →
    (m.after engine host op).vms.find? (m.target op) = some inst' →
    inst'.metadata.currentState ≠ inst.metadata.currentState → op.permits inst.metadata = true
  /-- A failure leaves the recorded state, or records an error. -/
  failure : (m.perform engine host op).1 = false → m.Loads host op → ∀ inst, m.vms.find? (m.target op) = some inst →
    ∃ inst', (m.after engine host op).vms.find? (m.target op) = some inst' ∧
      (inst'.metadata.currentState = inst.metadata.currentState ∨ inst'.metadata.Failed)

/-! ### What an operation makes of the instances -/

theorem find?_onInstance (m : VMManager I) (vmId : String) (refused : α) (f : VMInstance I → α × VMInstance I)
    (vmId' : String) :
    (m.onInstance vmId refused f).2.vms.find? vmId' =
      if vmId = vmId' then (m.vms.find? vmId').map fun inst => (f inst).2 else m.vms.find? vmId' := by
  unfold onInstance
  cases hfind : m.vms.find? vmId with
  | none =>
      by_cases hid : vmId = vmId'
      · rw [if_pos hid, ← hid, hfind]
        rfl
      · rw [if_neg hid]
  | some inst =>
      dsimp only
      rw [OrdMap.find?_insert]
      by_cases hid : vmId = vmId'
      · rw [if_pos hid, if_pos hid, ← hid, hfind]
        rfl
      · rw [if_neg hid, if_neg hid]

theorem onInstance_of_find? {vmId : String} {inst : VMInstance I} (h : m.vms.find? vmId = some inst) (refused : α)
    (f : VMInstance I → α × VMInstance I) : (m.onInstance vmId refused f).1 = (f inst).1 := by
  unfold onInstance
  rw [h]

/-- What an operation other than a creation does to the instances: a change to one of them, which may delete it. -/
structure Changes (engine : Engine I) (host : Host I) (m : VMManager I) (op : ManagerOp)
    (change : VMInstance I → Option (VMInstance I)) : Prop where
  find? : ∀ vmId, (m.after engine host op).vms.find? vmId =
    if m.target op = vmId then (m.vms.find? vmId).bind change else m.vms.find? vmId
  deletes : ∀ inst, m.vms.find? (m.target op) = some inst → change inst = none →
    op = .deleteVM (m.target op) ∧ (m.perform engine host op).1 = true
  moves : ∀ inst inst', m.vms.find? (m.target op) = some inst → change inst = some inst' →
    VMInstance.Moves (m.Loads host op) (op.permits inst.metadata) inst (m.perform engine host op).1 inst'
  sound : (∀ vmId, op ≠ .stepVM vmId) → ∀ inst inst', m.vms.find? (m.target op) = some inst → change inst = some inst' →
    inst.Sound → inst'.Sound

/-- An operation on one instance. -/
theorem changes_onInstance {vmId : String} {f : VMInstance I → α × VMInstance I} (ok : α → Bool) (refused : α)
    (htarget : m.target op = vmId)
    (hperform : m.perform engine host op = (ok (m.onInstance vmId refused f).1, (m.onInstance vmId refused f).2))
    (hmoves : ∀ inst, m.vms.find? vmId = some inst →
      VMInstance.Moves (m.Loads host op) (op.permits inst.metadata) inst (ok (f inst).1) (f inst).2)
    (hsound : (∀ vmId, op ≠ .stepVM vmId) → ∀ inst : VMInstance I, inst.Sound → (f inst).2.Sound) :
    Changes engine host m op fun inst => some (f inst).2 where
  find? vmId' := by
    rw [after, hperform, htarget, find?_onInstance, Option.map_eq_bind]
    rfl
  deletes _ _ h := nomatch h
  moves inst inst' hfind hchange := by
    cases hchange
    rw [htarget] at hfind
    rw [hperform, onInstance_of_find? hfind]
    exact hmoves inst hfind
  sound hop inst inst' _ hchange hinst := by
    cases hchange
    exact hsound hop inst hinst

/-- What changes no instance. -/
theorem changes_of_vms_eq (h : (m.after engine host op).vms = m.vms) :
    Changes engine host m op some where
  find? vmId := by simp [h]
  deletes _ _ h := nomatch h
  moves inst inst' _ hchange := by
    cases hchange
    exact .same rfl
  sound _ inst inst' _ hchange hinst := by
    cases hchange
    exact hinst

/-- What puts another instance in the place of the one it is about. -/
theorem changes_of_insert {inst : VMInstance I} (inst' : VMInstance I)
    (hfind : m.vms.find? (m.target op) = some inst)
    (hvms : (m.after engine host op).vms = m.vms.insert (m.target op) inst')
    (hmoves : VMInstance.Moves (m.Loads host op) (op.permits inst.metadata) inst (m.perform engine host op).1 inst')
    (hsound : inst.Sound → inst'.Sound) : Changes engine host m op fun _ => some inst' where
  find? vmId := by
    rw [hvms, OrdMap.find?_insert]
    by_cases hid : m.target op = vmId
    · rw [if_pos hid, if_pos hid, ← hid, hfind]
      rfl
    · rw [if_neg hid, if_neg hid]
  deletes _ _ h := nomatch h
  moves inst₁ inst₁' hfind₁ hchange := by
    cases hchange
    cases hfind.symm.trans hfind₁
    exact hmoves
  sound _ inst₁ inst₁' hfind₁ hchange := by
    cases hchange
    cases hfind.symm.trans hfind₁
    exact hsound

theorem exists_changes_deleteVM : ∃ change, Changes engine host m (.deleteVM vmId) change := by
  cases hfind : m.vms.find? vmId with
  | none =>
      refine ⟨some, changes_of_vms_eq ?_⟩
      show (m.deleteVM vmId).2.vms = m.vms
      rw [deleteVM, hfind]
  | some inst =>
      by_cases hruns : inst.metadata.currentState = .RUNNING ∨ inst.metadata.currentState = .PAUSED
      · refine ⟨some, changes_of_vms_eq ?_⟩
        show (m.deleteVM vmId).2.vms = m.vms
        rw [deleteVM, hfind]
        dsimp only
        rw [if_pos hruns]
      · have hdeleted : m.deleteVM vmId = (true, { m with snapshots := m.snapshots.erase vmId, vms := m.vms.erase vmId }) := by
          rw [deleteVM, hfind]
          dsimp only
          rw [if_neg hruns]
        refine ⟨fun _ => none, ?_, ?_, fun _ _ _ h => (nomatch h), fun _ _ _ _ h => (nomatch h)⟩
        · intro vmId'
          show (m.deleteVM vmId).2.vms.find? vmId' = _
          rw [hdeleted, OrdMap.find?_erase, Option.bind_fun_none]
          rfl
        · intro _ _ _
          refine ⟨rfl, ?_⟩
          show (m.deleteVM vmId).1 = true
          rw [hdeleted]

theorem exists_changes_snapshotVM (snapshotName description : String) :
    ∃ change, Changes engine host m (.snapshotVM vmId snapshotName description) change := by
  cases hfind : m.vms.find? vmId with
  | none =>
      refine ⟨some, changes_of_vms_eq ?_⟩
      show (m.snapshotVM vmId snapshotName description).2.vms = m.vms
      rw [snapshotVM, hfind]
  | some inst =>
      cases hguard : inst.metadata.canSnapshot with
      | false =>
          refine ⟨some, changes_of_vms_eq ?_⟩
          show (m.snapshotVM vmId snapshotName description).2.vms = m.vms
          rw [snapshotVM, hfind]
          dsimp only
          rw [hguard]
          rfl
      | true =>
          let metadata := { inst.metadata.setState .SNAPSHOTTING "Creating snapshot" with
            snapshotCount := (m.snapshotsOf vmId).length + 1 }
          refine ⟨_, changes_of_insert { inst with
            metadata := metadata.setState inst.metadata.currentState "Snapshot created" } hfind ?_ ?_ ?_⟩
          · show (m.snapshotVM vmId snapshotName description).2.vms = _
            rw [snapshotVM, hfind]
            dsimp only
            rw [hguard, if_neg (by simp)]
            simp only [List.length_append, List.length_singleton]
            rfl
          · exact .same rfl
          · exact id

theorem exists_changes_restoreSnapshot (snapshotId : String) :
    ∃ change, Changes engine host m (.restoreSnapshot vmId snapshotId) change := by
  cases hfind : m.vms.find? vmId with
  | none =>
      refine ⟨some, changes_of_vms_eq ?_⟩
      show (m.restoreSnapshot vmId snapshotId).2.vms = m.vms
      rw [restoreSnapshot, hfind]
  | some inst =>
      cases hsnapshot : m.findSnapshot vmId snapshotId with
      | none =>
          refine ⟨some, changes_of_vms_eq ?_⟩
          show (m.restoreSnapshot vmId snapshotId).2.vms = m.vms
          rw [restoreSnapshot, hfind, hsnapshot]
      | some snapshot =>
          refine ⟨_, changes_onInstance id false rfl ?_ (fun _ _ => VMInstance.moves_restore snapshot)
            fun _ inst _ => VMInstance.sound_restore snapshot inst⟩
          show m.restoreSnapshot vmId snapshotId = _
          rw [restoreSnapshot, hfind, hsnapshot]
          rfl

theorem exists_changes_deleteSnapshot (snapshotId : String) :
    ∃ change, Changes engine host m (.deleteSnapshot vmId snapshotId) change := by
  cases hsnapshot : m.findSnapshot vmId snapshotId with
  | none =>
      refine ⟨some, changes_of_vms_eq ?_⟩
      show (m.deleteSnapshot vmId snapshotId).2.vms = m.vms
      rw [deleteSnapshot, hsnapshot]
  | some snapshot =>
      cases hfind : m.vms.find? vmId with
      | none =>
          refine ⟨some, changes_of_vms_eq ?_⟩
          show (m.deleteSnapshot vmId snapshotId).2.vms = m.vms
          rw [deleteSnapshot, hsnapshot]
          dsimp only
          rw [onInstance, hfind]
      | some inst =>
          let left := (m.snapshotsOf vmId).eraseP fun s => s.snapshotId == snapshotId
          refine ⟨_, changes_of_insert (inst.countSnapshots left.length).2 hfind ?_ ?_ ?_⟩
          · show (m.deleteSnapshot vmId snapshotId).2.vms = _
            rw [deleteSnapshot, hsnapshot]
            dsimp only
            rw [onInstance, hfind]
            rfl
          · exact .same rfl
          · exact id

/-- **Every operation but a creation** changes one instance, as its guard permits. -/
theorem exists_changes (m : VMManager I) (hop : ∀ config, op ≠ .createVM config) :
    ∃ change, Changes engine host m op change := by
  cases op with
  | createVM config => exact absurd rfl (hop config)
  | deleteVM vmId => exact exists_changes_deleteVM vmId
  | updateVMConfiguration vmId config =>
      exact ⟨_, changes_onInstance id false rfl rfl (fun _ _ => VMInstance.moves_updateConfiguration config)
        fun _ _ h => h.updateConfiguration config⟩
  | startVM vmId =>
      exact ⟨_, changes_onInstance id false rfl rfl (fun inst hfind => VMInstance.moves_start fun hloads =>
        hloads vmId inst rfl hfind) fun _ _ h => h.start⟩
  | stopVM vmId => exact ⟨_, changes_onInstance id false rfl rfl (fun _ _ => VMInstance.moves_stop) fun _ _ h => h.stop⟩
  | pauseVM vmId => exact ⟨_, changes_onInstance id false rfl rfl (fun _ _ => VMInstance.moves_pause) fun _ _ h => h.pause⟩
  | resumeVM vmId => exact ⟨_, changes_onInstance id false rfl rfl (fun _ _ => VMInstance.moves_resume) fun _ _ h => h.resume⟩
  | resetVM vmId =>
      exact ⟨_, changes_onInstance id false rfl rfl (fun _ _ => VMInstance.moves_reset) fun _ inst _ => inst.sound_reset⟩
  | terminateVM vmId =>
      exact ⟨_, changes_onInstance id false rfl rfl (fun _ _ => VMInstance.moves_terminate) fun _ inst _ => inst.sound_terminate⟩
  | runVM vmId maxCycles fuel =>
      exact ⟨_, changes_onInstance (· != 0) 0 rfl rfl (fun _ _ => VMInstance.moves_run fuel maxCycles (· != 0))
        fun _ _ h => h.run fuel maxCycles⟩
  | stepVM vmId =>
      exact ⟨_, changes_onInstance id false rfl rfl (fun _ _ => VMInstance.moves_step) fun hstep _ _ => absurd rfl (hstep vmId)⟩
  | snapshotVM vmId snapshotName description => exact exists_changes_snapshotVM vmId snapshotName description
  | restoreSnapshot vmId snapshotId => exact exists_changes_restoreSnapshot vmId snapshotId
  | deleteSnapshot vmId snapshotId => exact exists_changes_deleteSnapshot vmId snapshotId

theorem Changes.keepsLifecycle {change : VMInstance I → Option (VMInstance I)} (h : Changes engine host m op change) :
    KeepsLifecycle engine host m op := by
  have hself : ∀ inst, m.vms.find? (m.target op) = some inst →
      (m.after engine host op).vms.find? (m.target op) = change inst := by
    intro inst hfind
    rw [h.find?, if_pos rfl, hfind]
    rfl
  refine ⟨?_, ?_, ?_⟩
  · intro vmId hne
    rw [h.find?, if_neg (Ne.symm hne)]
  · intro inst inst' hfind hafter hmoved
    rw [hself inst hfind] at hafter
    exact (h.moves inst inst' hfind hafter).guarded hmoved
  · intro hfails hloads inst hfind
    cases hchange : change inst with
    | none =>
        rw [(h.deletes inst hfind hchange).2] at hfails
        cases hfails
    | some inst' =>
        exact ⟨inst', (hself inst hfind).trans hchange, (h.moves inst inst' hfind hchange).failure hloads hfails⟩

/-! ### Creations -/

/-- The identifiers in use were made from numbers that the counter has passed. -/
def Numbered (m : VMManager I) : Prop :=
  ∀ vmId inst, m.vms.find? vmId = some inst → ∃ name k, k < m.vmCounter.toNat ∧ vmId = numbered name 6 k

/-- The next identifier is a new one. -/
theorem Numbered.fresh (h : m.Numbered) (vmName : String) : m.vms.find? (m.generateVMId vmName) = none := by
  cases hfind : m.vms.find? (m.generateVMId vmName) with
  | none => rfl
  | some inst =>
      obtain ⟨name, k, hk, hid⟩ := h _ inst hfind
      exact absurd (numbered_inj hid).symm hk.ne

/-- An initialised machine is stopped. -/
theorem state_init {vm vm' : VirtualMachine I} (h : vm.init = (true, vm')) : vm'.state = .STOPPED := by
  unfold VirtualMachine.init at h
  generalize vm.bootStateMachine.powerOn = r at h
  obtain ⟨on, machine⟩ := r
  cases on with
  | false => cases h
  | true =>
      cases h
      rfl

/-- A creation takes a number, or none, and may put a machine under it. -/
theorem createVM_cases (host : Host I) (m : VMManager I) (config : VMConfiguration) :
    (∃ vmCounter, (m.createVM host config).2 = { m with vmCounter } ∧
        (vmCounter = m.vmCounter ∨ vmCounter = m.vmCounter + 1)) ∨
      ∃ inst : VMInstance I, inst.Sound ∧ (m.createVM host config).2 =
        { m with vmCounter := m.vmCounter + 1, vms := m.vms.insert (m.generateVMId config.name) inst } := by
  unfold createVM
  cases config.validate with
  | error _ => exact .inl ⟨_, rfl, .inl rfl⟩
  | ok _ =>
      dsimp only
      cases newMachine host config with
      | none => exact .inl ⟨_, rfl, .inr rfl⟩
      | some vm =>
          dsimp only
          cases host.createStorageDevices config.storageDevices with
          | false => exact .inl ⟨_, rfl, .inr rfl⟩
          | true =>
              cases hinit : vm.init with
              | mk ok vm' =>
                  cases ok with
                  | false => exact .inl ⟨_, rfl, .inr rfl⟩
                  | true => exact .inr ⟨_, VMInstance.sound_of_state (by simp [state_init hinit]), rfl⟩

theorem Numbered.keepsLifecycle_createVM (h : m.Numbered) (config : VMConfiguration) :
    KeepsLifecycle engine host m (.createVM config) := by
  have hfresh : m.vms.find? (m.target (.createVM config)) = none := h.fresh config.name
  refine ⟨?_, ?_, ?_⟩
  · intro vmId hne
    show (m.createVM host config).2.vms.find? vmId = _
    rcases createVM_cases host m config with ⟨counter, hcreate, -⟩ | ⟨inst, -, hcreate⟩
    · rw [hcreate]
    · rw [hcreate]
      exact OrdMap.find?_insert_ne hne m.vms inst
  · intro inst _ hfind
    rw [hfresh] at hfind
    cases hfind
  · intro _ _ inst hfind
    rw [hfresh] at hfind
    cases hfind

theorem vmCounter_onInstance (refused : α) (f : VMInstance I → α × VMInstance I) :
    (m.onInstance vmId refused f).2.vmCounter = m.vmCounter := by
  unfold onInstance
  split <;> rfl

/-- Only a creation takes a number. -/
theorem vmCounter_after (hop : ∀ config, op ≠ .createVM config) : (m.after engine host op).vmCounter = m.vmCounter := by
  cases op with
  | createVM config => exact absurd rfl (hop config)
  | deleteVM vmId =>
      show (m.deleteVM vmId).2.vmCounter = _
      unfold deleteVM
      split
      · rfl
      · split <;> rfl
  | snapshotVM vmId snapshotName description =>
      show (m.snapshotVM vmId snapshotName description).2.vmCounter = _
      unfold snapshotVM
      split
      · rfl
      · split <;> rfl
  | restoreSnapshot vmId snapshotId =>
      show (m.restoreSnapshot vmId snapshotId).2.vmCounter = _
      unfold restoreSnapshot
      split
      · exact vmCounter_onInstance ..
      · rfl
  | deleteSnapshot vmId snapshotId =>
      show (m.deleteSnapshot vmId snapshotId).2.vmCounter = _
      unfold deleteSnapshot
      split
      · rfl
      · exact vmCounter_onInstance ..
  | _ => exact vmCounter_onInstance ..

theorem Numbered.next (engine : Engine I) (host : Host I) (h : m.Numbered) (hroom : m.vmCounter.toNat + 1 < 2 ^ 64)
    (op : ManagerOp) :
    (m.after engine host op).Numbered ∧ (m.after engine host op).vmCounter.toNat ≤ m.vmCounter.toNat + 1 := by
  have hnext : (m.vmCounter + 1).toNat = m.vmCounter.toNat + 1 := by
    rw [UInt64.toNat_add]
    exact Nat.mod_eq_of_lt hroom
  by_cases hop : ∃ config, op = .createVM config
  · obtain ⟨config, rfl⟩ := hop
    show (m.createVM host config).2.Numbered ∧ (m.createVM host config).2.vmCounter.toNat ≤ _
    rcases createVM_cases host m config with ⟨counter, hcreate, hcounter⟩ | ⟨new, -, hcreate⟩
    · have hgrows : m.vmCounter.toNat ≤ counter.toNat ∧ counter.toNat ≤ m.vmCounter.toNat + 1 := by
        rcases hcounter with rfl | rfl
        · exact ⟨le_rfl, Nat.le_succ _⟩
        · rw [hnext]
          exact ⟨Nat.le_succ _, le_rfl⟩
      rw [hcreate]
      refine ⟨fun vmId inst hfind => ?_, hgrows.2⟩
      obtain ⟨name, k, hk, hid⟩ := h vmId inst hfind
      exact ⟨name, k, hk.trans_le hgrows.1, hid⟩
    · rw [hcreate]
      refine ⟨fun vmId inst hfind => ?_, hnext.le⟩
      dsimp only at hfind ⊢
      rw [hnext]
      rw [OrdMap.find?_insert] at hfind
      by_cases hid : m.generateVMId config.name = vmId
      · exact ⟨config.name, m.vmCounter.toNat, Nat.lt_succ_self _, hid.symm⟩
      · rw [if_neg hid] at hfind
        obtain ⟨name, k, hk, hid⟩ := h vmId inst hfind
        exact ⟨name, k, hk.trans (Nat.lt_succ_self _), hid⟩
  · have hother : ∀ config, op ≠ .createVM config := fun config hop' => hop ⟨config, hop'⟩
    obtain ⟨change, hchange⟩ : ∃ change, Changes engine host m op change := m.exists_changes hother
    rw [Numbered, vmCounter_after hother]
    refine ⟨fun vmId inst hfind => ?_, Nat.le_succ _⟩
    rw [hchange.find?] at hfind
    split at hfind
    · obtain ⟨old, hold, -⟩ := Option.bind_eq_some_iff.mp hfind
      exact h vmId old hold
    · exact h vmId inst hfind

theorem sound_after (h : ∀ vmId inst, m.vms.find? vmId = some inst → inst.Sound) (hstep : ∀ vmId, op ≠ .stepVM vmId) :
    ∀ vmId inst, (m.after engine host op).vms.find? vmId = some inst → inst.Sound := by
  intro vmId inst hfind
  by_cases hop : ∃ config, op = .createVM config
  · obtain ⟨config, rfl⟩ := hop
    rw [show m.after engine host (.createVM config) = (m.createVM host config).2 from rfl] at hfind
    rcases createVM_cases host m config with ⟨counter, hcreate, -⟩ | ⟨new, hnew, hcreate⟩
    · rw [hcreate] at hfind
      exact h vmId inst hfind
    · rw [hcreate] at hfind
      dsimp only at hfind
      rw [OrdMap.find?_insert] at hfind
      split at hfind
      · cases hfind
        exact hnew
      · exact h vmId inst hfind
  · obtain ⟨change, hchange⟩ : ∃ change, Changes engine host m op change :=
      m.exists_changes fun config hop' => hop ⟨config, hop'⟩
    rw [hchange.find?] at hfind
    split at hfind
    next hid =>
      obtain ⟨old, hold, hinst⟩ := Option.bind_eq_some_iff.mp hfind
      exact hchange.sound hstep old inst (hid ▸ hold) hinst (h vmId old hold)
    next => exact h vmId inst hfind

/-! ### Histories -/

theorem Numbered.keepsLifecycle (h : m.Numbered) {ops : List ManagerOp}
    (hroom : m.vmCounter.toNat + ops.length < 2 ^ 64) :
    EveryStep (after engine host) (KeepsLifecycle engine host) m ops := by
  induction ops generalizing m with
  | nil => trivial
  | cons op ops ih =>
      rw [List.length_cons] at hroom
      have hop : KeepsLifecycle engine host m op := by
        by_cases hcreates : ∃ config, op = .createVM config
        · obtain ⟨config, rfl⟩ := hcreates
          exact h.keepsLifecycle_createVM config
        · obtain ⟨change, hchange⟩ : ∃ change, Changes engine host m op change :=
            m.exists_changes fun config hop' => hcreates ⟨config, hop'⟩
          exact hchange.keepsLifecycle
      obtain ⟨hnumbered, hcounter⟩ := h.next engine host (by omega) op
      exact ⟨hop, ih hnumbered (by omega)⟩

/-- **Lifecycles.** In every history of a new manager each operation keeps to its guard, fails without a trace or with an
    error, and leaves the other machines alone; and as long as no single step is taken, a machine that is recorded stopped,
    running or paused has not failed. -/
theorem lifecycle (engine : Engine I) (host : Host I) {ops : List ManagerOp} (hlength : ops.length < 2 ^ 64) :
    EveryStep (after engine host) (KeepsLifecycle engine host) {} ops ∧
      ((∀ op ∈ ops, ∀ vmId, op ≠ .stepVM vmId) →
        ∀ vmId inst, (run (after engine host) {} ops).vms.find? vmId = some inst →
          inst.metadata.currentState = .STOPPED ∨ inst.metadata.currentState = .RUNNING ∨
            inst.metadata.currentState = .PAUSED → inst.vm.state ≠ .ERROR) := by
  have hempty : ∀ vmId inst, ({} : VMManager I).vms.find? vmId ≠ some inst := fun _ _ h => nomatch h
  constructor
  · refine Numbered.keepsLifecycle (fun vmId inst h => absurd h (hempty vmId inst)) ?_
    show 0 + ops.length < 2 ^ 64
    omega
  · intro hops vmId inst hfind hrecorded
    have hsound : ∀ vmId inst, (run (after engine host) {} ops).vms.find? vmId = some inst → inst.Sound :=
      run_invariant (fun m : VMManager I => ∀ vmId inst, m.vms.find? vmId = some inst → inst.Sound)
        (fun _ _ h hop => sound_after h hop) (fun vmId inst h => absurd h (hempty vmId inst)) (everyStep_of_forall hops)
    exact hsound vmId inst hfind (.inr hrecorded)

/-! ### A machine that is recorded running -/

/-- A host without files, whose boot loader finds nothing to load. -/
def bareHost : Host Unit where
  isRegistered _ := false
  conditions _ _ := true
  createStorageDevices _ := true
  load _ vm := ⟨.loaded, vm.world, vm.cpus, vm.bootStateMachine⟩
  drawBootStatus _ _ _ framebuffer := framebuffer

/-- The recorded state, and that of the machine. -/
def states (m : VMManager I) (vmId : String) : Option (VMState × VMState) :=
  (m.vms.find? vmId).map fun inst => (inst.metadata.currentState, inst.vm.state)

def started : VMManager Unit := run (after nopEngine bareHost) {} [.createVM {}, .startVM "vm-000000"]

theorem lifecycle_nops :
    EveryStep (after nopEngine bareHost) (KeepsLifecycle nopEngine bareHost) {}
      [.createVM {}, .startVM "vm-000000", .runVM "vm-000000" 3 5] :=
  (lifecycle nopEngine bareHost (by decide)).1

/-- **Recorded and real states differ**: after a start the machine is stopped, and a pause does not pause it; and a
    termination leaves a running machine's state, which no guard permits. -/
theorem started_is_stopped :
    started.states "vm-000000" = some (.RUNNING, .STOPPED) ∧
      (started.after nopEngine bareHost (.pauseVM "vm-000000")).states "vm-000000" = some (.PAUSED, .STOPPED) ∧
      canTransition .RUNNING .TERMINATING = false ∧
      (started.after nopEngine bareHost (.terminateVM "vm-000000")).states "vm-000000" = some (.TERMINATED, .STOPPED) := by
  refine ⟨by decide +kernel, by decide +kernel, by decide, by decide +kernel⟩

end VMManager

end GuideXOS.Manager
