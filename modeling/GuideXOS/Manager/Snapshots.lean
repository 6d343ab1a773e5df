import GuideXOS.Machine.ResetInit
import GuideXOS.Manager.Lifecycle

/-!
# `Snapshots` — what a restore brings back

A snapshot of the manager is found again under its identifier until it is deleted (`Keeps`, `Holds`): later snapshots are
put behind it, and get other numbers. A restore puts its metadata back and resets the machine: the memory stays as it is,
and the processors start anew.
-/

namespace GuideXOS.Manager
open Lib Lib.Runs GuideXOS.Machine

namespace VMManager
variable {I : Type} {engine : Engine I} {host : Host I} {m : VMManager I} {vmId : String} {snapshot : VMSnapshot}

/-! ## Snapshots and their numbers -/

/-- The snapshots were given numbers that the counter has passed. -/
def SnapshotsNumbered (m : VMManager I) : Prop :=
  ∀ vmId, ∀ snapshot ∈ m.snapshotsOf vmId, ∃ name k, k < m.snapshotCounter.toNat ∧ snapshot.snapshotId = numbered name 6 k

/-- The next snapshot is not found under its identifier yet. -/
theorem SnapshotsNumbered.fresh (h : m.SnapshotsNumbered) (vmId snapshotName : String) :
    m.findSnapshot vmId (m.generateSnapshotId snapshotName) = none := by
  refine List.find?_eq_none.mpr fun snapshot hmem hid => ?_
  obtain ⟨name, k, hk, hnumber⟩ := h vmId snapshot hmem
  rw [beq_iff_eq, hnumber] at hid
  exact absurd (numbered_inj hid) hk.ne

/-- The snapshot that is taken of an instance. -/
def newSnapshot (m : VMManager I) (inst : VMInstance I) (snapshotName description : String) : VMSnapshot where
  snapshotId := m.generateSnapshotId snapshotName
  name := snapshotName
  description := description
  vmState := inst.metadata.currentState
  memorySize := inst.metadata.configuration.memorySize
  vmMetadata := inst.metadata.setState .SNAPSHOTTING "Creating snapshot"

/-- A snapshot is refused, or put behind the others. -/
theorem snapshotVM_cases (m : VMManager I) (vmId snapshotName description : String) :
    m.snapshotVM vmId snapshotName description = ("", m) ∨
      ∃ inst inst' : VMInstance I, m.vms.find? vmId = some inst ∧
        m.snapshotVM vmId snapshotName description = (m.generateSnapshotId snapshotName,
          { m with
            snapshotCounter := m.snapshotCounter + 1
            snapshots := m.snapshots.insert vmId (m.snapshotsOf vmId ++ [m.newSnapshot inst snapshotName description])
            vms := m.vms.insert vmId inst' }) := by
  unfold snapshotVM
  cases hfind : m.vms.find? vmId with
  | none => exact .inl rfl
  | some inst =>
      cases hguard : inst.metadata.canSnapshot with
      | false =>
          dsimp only
          rw [hguard]
          exact .inl rfl
      | true =>
          dsimp only
          rw [hguard]
          exact .inr ⟨inst, _, rfl, rfl⟩

/-- The snapshots after an operation: as they were, one more, one less, or none of the machine. -/
inductive SnapshotsAfter (engine : Engine I) (host : Host I) (m : VMManager I) (op : ManagerOp) : Prop
  | same (snapshots : (m.after engine host op).snapshots = m.snapshots)
      (counter : (m.after engine host op).snapshotCounter = m.snapshotCounter)
  | added (vmId snapshotName description : String) (inst : VMInstance I)
      (hop : op = .snapshotVM vmId snapshotName description)
      (snapshots : (m.after engine host op).snapshots =
        m.snapshots.insert vmId (m.snapshotsOf vmId ++ [m.newSnapshot inst snapshotName description]))
      (counter : (m.after engine host op).snapshotCounter = m.snapshotCounter + 1)
  | deleted (vmId snapshotId : String) (hop : op = .deleteSnapshot vmId snapshotId)
      (snapshots : (m.after engine host op).snapshots =
        m.snapshots.insert vmId ((m.snapshotsOf vmId).eraseP fun snapshot => snapshot.snapshotId == snapshotId))
      (counter : (m.after engine host op).snapshotCounter = m.snapshotCounter)
  | dropped (vmId : String) (hop : op = .deleteVM vmId) (hok : (m.perform engine host op).1 = true)
      (snapshots : (m.after engine host op).snapshots = m.snapshots.erase vmId)
      (counter : (m.after engine host op).snapshotCounter = m.snapshotCounter)

theorem snapshots_onInstance {α : Type} (vmId : String) (refused : α) (f : VMInstance I → α × VMInstance I) :
    (m.onInstance vmId refused f).2.snapshots = m.snapshots ∧
      (m.onInstance vmId refused f).2.snapshotCounter = m.snapshotCounter := by
  unfold onInstance
  split <;> exact ⟨rfl, rfl⟩

/-- **What an operation does to the snapshots.** -/
theorem snapshotsAfter (engine : Engine I) (host : Host I) (m : VMManager I) (op : ManagerOp) :
    SnapshotsAfter engine host m op := by
  cases op with
  | createVM config =>
      have hcreate : (m.createVM host config).2.snapshots = m.snapshots ∧
          (m.createVM host config).2.snapshotCounter = m.snapshotCounter := by
        rcases createVM_cases host m config with ⟨counter, hcreate, -⟩ | ⟨inst, -, hcreate⟩
        · rw [hcreate]
          exact ⟨rfl, rfl⟩
        · rw [hcreate]
          exact ⟨rfl, rfl⟩
      exact .same hcreate.1 hcreate.2
  | deleteVM vmId =>
      have hdelete : m.deleteVM vmId = (false, m) ∨
          m.deleteVM vmId = (true, { m with snapshots := m.snapshots.erase vmId, vms := m.vms.erase vmId }) := by
        unfold deleteVM
        split
        · exact .inl rfl
        · split
          · exact .inl rfl
          · exact .inr rfl
      have hafter : m.after engine host (.deleteVM vmId) = (m.deleteVM vmId).2 := rfl
      rcases hdelete with hrefused | hdone
      · exact .same (by rw [hafter, hrefused]) (by rw [hafter, hrefused])
      · refine .dropped vmId rfl ?_ (by rw [hafter, hdone]) (by rw [hafter, hdone])
        show (m.deleteVM vmId).1 = true
        rw [hdone]
  | snapshotVM vmId snapshotName description =>
      have hafter : m.after engine host (.snapshotVM vmId snapshotName description) =
          (m.snapshotVM vmId snapshotName description).2 := rfl
      rcases snapshotVM_cases m vmId snapshotName description with hrefused | ⟨inst, inst', -, htaken⟩
      · exact .same (by rw [hafter, hrefused]) (by rw [hafter, hrefused])
      · exact .added vmId snapshotName description inst rfl (by rw [hafter, htaken]) (by rw [hafter, htaken])
  | restoreSnapshot vmId snapshotId =>
      have hrestore : (m.restoreSnapshot vmId snapshotId).2.snapshots = m.snapshots ∧
          (m.restoreSnapshot vmId snapshotId).2.snapshotCounter = m.snapshotCounter := by
        unfold restoreSnapshot
        split
        · exact snapshots_onInstance ..
        · exact ⟨rfl, rfl⟩
      exact .same hrestore.1 hrestore.2
  | deleteSnapshot vmId snapshotId =>
      have hafter : m.after engine host (.deleteSnapshot vmId snapshotId) = (m.deleteSnapshot vmId snapshotId).2 := rfl
      cases hfind : m.findSnapshot vmId snapshotId with
      | none =>
          have hrefused : m.deleteSnapshot vmId snapshotId = (false, m) := by rw [deleteSnapshot, hfind]
          exact .same (by rw [hafter, hrefused]) (by rw [hafter, hrefused])
      | some snapshot =>
          refine .deleted vmId snapshotId rfl ?_ ?_
          · rw [hafter, deleteSnapshot, hfind]
            dsimp only
            rw [(snapshots_onInstance ..).1]
          · rw [hafter, deleteSnapshot, hfind]
            exact (snapshots_onInstance ..).2
  | _ => exact .same (snapshots_onInstance ..).1 (snapshots_onInstance ..).2

theorem SnapshotsNumbered.next (h : m.SnapshotsNumbered) (hroom : m.snapshotCounter.toNat + 1 < 2 ^ 64)
    (op : ManagerOp) :
    (m.after engine host op).SnapshotsNumbered ∧
      (m.after engine host op).snapshotCounter.toNat ≤ m.snapshotCounter.toNat + 1 := by
  have hnext : (m.snapshotCounter + 1).toNat = m.snapshotCounter.toNat + 1 := by
    rw [UInt64.toNat_add]
    exact Nat.mod_eq_of_lt hroom
  -- what is left of the old snapshots keeps its numbers
  have hfewer : (m.after engine host op).snapshotCounter = m.snapshotCounter →
      (∀ vmId, ∀ snapshot ∈ (m.after engine host op).snapshotsOf vmId, snapshot ∈ m.snapshotsOf vmId) →
        (m.after engine host op).SnapshotsNumbered ∧
          (m.after engine host op).snapshotCounter.toNat ≤ m.snapshotCounter.toNat + 1 := by
    intro hcounter hsub
    rw [hcounter]
    refine ⟨fun vmId snapshot hmem => ?_, Nat.le_succ _⟩
    rw [hcounter]
    exact h vmId snapshot (hsub vmId snapshot hmem)
  rcases snapshotsAfter engine host m op with ⟨hsnapshots, hcounter⟩ |
    ⟨vmId, snapshotName, description, inst, -, hsnapshots, hcounter⟩ | ⟨vmId, snapshotId, -, hsnapshots, hcounter⟩ |
    ⟨vmId, -, -, hsnapshots, hcounter⟩
  · refine hfewer hcounter fun vmId snapshot hmem => ?_
    rwa [snapshotsOf, hsnapshots] at hmem
  · rw [hcounter, hnext]
    refine ⟨fun vmId' snapshot hmem => ?_, le_rfl⟩
    rw [hcounter, hnext]
    rw [snapshotsOf, hsnapshots, OrdMap.find?_insert] at hmem
    by_cases hid : vmId = vmId'
    · rw [if_pos hid, Option.getD_some, List.mem_append, List.mem_singleton] at hmem
      rcases hmem with hold | rfl
      · obtain ⟨name, k, hk, hnumber⟩ := h vmId snapshot hold
        exact ⟨name, k, hk.trans (Nat.lt_succ_self _), hnumber⟩
      · exact ⟨snapshotName, m.snapshotCounter.toNat, Nat.lt_succ_self _, rfl⟩
    · rw [if_neg hid] at hmem
      obtain ⟨name, k, hk, hnumber⟩ := h vmId' snapshot hmem
      exact ⟨name, k, hk.trans (Nat.lt_succ_self _), hnumber⟩
  · refine hfewer hcounter fun vmId' snapshot hmem => ?_
    rw [snapshotsOf, hsnapshots, OrdMap.find?_insert] at hmem
    by_cases hid : vmId = vmId'
    · rw [if_pos hid, Option.getD_some] at hmem
      exact hid ▸ List.mem_of_mem_eraseP hmem
    · rwa [if_neg hid] at hmem
  · refine hfewer hcounter fun vmId' snapshot hmem => ?_
    rw [snapshotsOf, hsnapshots, OrdMap.find?_erase] at hmem
    split at hmem
    · cases hmem
    · exact hmem

/-! ## Until it is deleted -/

/-- An operation deletes neither the snapshot nor the machine it belongs to. -/
def Keeps (engine : Engine I) (host : Host I) (vmId snapshotId : String) (m : VMManager I) (op : ManagerOp) : Prop :=
  op ≠ .deleteSnapshot vmId snapshotId ∧ (op = .deleteVM vmId → (m.perform engine host op).1 = false)

/-- The machine is there, and the snapshot is found. -/
structure Holds (vmId : String) (snapshot : VMSnapshot) (m : VMManager I) : Prop where
  inst : ∃ inst, m.vms.find? vmId = some inst
  found : m.findSnapshot vmId snapshot.snapshotId = some snapshot

/-- Dropping a snapshot of another identifier does not change which one is found. -/
theorem find?_eraseP {snapshotId snapshotId' : String} (hne : snapshotId' ≠ snapshotId) (list : List VMSnapshot) :
    (list.eraseP fun s => s.snapshotId == snapshotId').find? (fun s => s.snapshotId == snapshotId) =
      list.find? fun s => s.snapshotId == snapshotId := by
  induction list with
  | nil => rfl
  | cons s list ih =>
      by_cases hs : s.snapshotId = snapshotId'
      · rw [List.eraseP_cons_of_pos (by simpa using hs), List.find?_cons_of_neg (by simpa [hs] using hne)]
      · rw [List.eraseP_cons_of_neg (by simpa using hs), List.find?_cons, List.find?_cons, ih]

theorem Holds.next (h : Holds vmId snapshot m) {op : ManagerOp}
    (hop : Keeps engine host vmId snapshot.snapshotId m op) :
    Holds vmId snapshot (m.after engine host op) := by
  obtain ⟨⟨inst, hinst⟩, hfound⟩ := h
  constructor
  · by_cases hcreates : ∃ config, op = .createVM config
    · obtain ⟨config, rfl⟩ := hcreates
      rw [show m.after engine host (.createVM config) = (m.createVM host config).2 from rfl]
      rcases createVM_cases host m config with ⟨counter, hcreate, -⟩ | ⟨new, -, hcreate⟩
      · rw [hcreate]
        exact ⟨inst, hinst⟩
      · rw [hcreate]
        dsimp only
        rw [OrdMap.find?_insert]
        split
        · exact ⟨new, rfl⟩
        · exact ⟨inst, hinst⟩
    · obtain ⟨change, hchange⟩ : ∃ change, Changes engine host m op change :=
        m.exists_changes fun config hop' => hcreates ⟨config, hop'⟩
      rw [hchange.find?]
      by_cases htarget : m.target op = vmId
      · rw [if_pos htarget, hinst, Option.bind_some]
        cases hleft : change inst with
        | some inst' => exact ⟨inst', rfl⟩
        | none =>
            rw [← htarget] at hinst
            obtain ⟨hdeletes, hok⟩ := hchange.deletes inst hinst hleft
            rw [hop.2 (htarget ▸ hdeletes)] at hok
            cases hok
      · rw [if_neg htarget]
        exact ⟨inst, hinst⟩
  · unfold findSnapshot at hfound ⊢
    rcases snapshotsAfter engine host m op with ⟨hsnapshots, -⟩ |
      ⟨vmId', snapshotName, description, inst', -, hsnapshots, -⟩ | ⟨vmId', snapshotId, rfl, hsnapshots, -⟩ |
      ⟨vmId', rfl, hok, hsnapshots, -⟩
    · rw [snapshotsOf, hsnapshots]
      exact hfound
    · rw [snapshotsOf, hsnapshots, OrdMap.find?_insert]
      by_cases hid : vmId' = vmId
      · rw [if_pos hid, Option.getD_some, List.find?_append, hid, hfound]
        rfl
      · rw [if_neg hid]
        exact hfound
    · rw [snapshotsOf, hsnapshots, OrdMap.find?_insert]
      by_cases hid : vmId' = vmId
      · have hne : snapshotId ≠ snapshot.snapshotId := by
          rintro rfl
          exact hop.1 (by rw [hid])
        rw [if_pos hid, Option.getD_some, find?_eraseP hne, hid]
        exact hfound
      · rw [if_neg hid]
        exact hfound
    · have hid : vmId' ≠ vmId := by
        rintro rfl
        have hrefused := hop.2 rfl
        rw [hok] at hrefused
        cases hrefused
      rw [snapshotsOf, hsnapshots, OrdMap.find?_erase, if_neg hid]
      exact hfound

/-! ## Restoring -/

theorem SnapshotsNumbered.run (engine : Engine I) (host : Host I) (h : m.SnapshotsNumbered) {ops : List ManagerOp}
    (hroom : m.snapshotCounter.toNat + ops.length < 2 ^ 64) :
    (Runs.run (VMManager.after engine host) m ops).SnapshotsNumbered := by
  induction ops generalizing m with
  | nil => exact h
  | cons op ops ih =>
      rw [List.length_cons] at hroom
      obtain ⟨hnext, hcounter⟩ : (m.after engine host op).SnapshotsNumbered ∧ _ := h.next (by omega) op
      exact ih hnext (by omega)

/-- A snapshot that was just taken is found. -/
theorem SnapshotsNumbered.holds (h : m.SnapshotsNumbered) {snapshotName description snapshotId : String}
    {m' : VMManager I}
    (htaken : m.snapshotVM vmId snapshotName description = (snapshotId, m')) (hid : snapshotId ≠ "") :
    ∃ inst, m.vms.find? vmId = some inst ∧ snapshotId = m.generateSnapshotId snapshotName ∧
      Holds vmId (m.newSnapshot inst snapshotName description) m' := by
  rcases snapshotVM_cases m vmId snapshotName description with hrefused | ⟨inst, inst', hfind, hadded⟩
  · rw [htaken] at hrefused
    exact absurd (Prod.mk.inj hrefused).1 hid
  · obtain ⟨rfl, rfl⟩ := Prod.mk.inj (htaken.symm.trans hadded)
    refine ⟨inst, hfind, rfl, ⟨inst', OrdMap.find?_insert_self ..⟩, ?_⟩
    have hfresh : m.findSnapshot vmId (m.newSnapshot inst snapshotName description).snapshotId = none :=
      h.fresh vmId snapshotName
    unfold findSnapshot at hfresh ⊢
    rw [snapshotsOf, OrdMap.find?_insert_self, Option.getD_some, List.find?_append, hfresh]
    simp

/-- What a reset leaves of the memory and of the processors. -/
theorem reset_machine (vm : VirtualMachine I) :
    vm.reset.2.world.memory.data = vm.world.memory.data ∧
      ∀ ctx ∈ vm.reset.2.cpus, ∃ old ∈ vm.cpus, ctx.cpu = old.cpu.reset := by
  have hstart : ∀ ctx ∈ { vm with cpus := vm.cpus.map VirtualMachine.resetContext }.startFirstCPU.cpus,
      ∃ old ∈ vm.cpus, ctx.cpu = old.cpu.reset := by
    intro ctx hctx
    have hplace : ∃ reset ∈ vm.cpus.map VirtualMachine.resetContext, ctx.cpu = reset.cpu := by
      unfold VirtualMachine.startFirstCPU at hctx
      split at hctx
      · exact ⟨ctx, hctx, rfl⟩
      · obtain ⟨i, hi⟩ := List.mem_iff_getElem?.mp hctx
        simp only [VirtualMachine.modifyCPU, List.getElem?_modify] at hi
        obtain ⟨reset, hreset, rfl⟩ := Option.map_eq_some_iff.mp hi
        refine ⟨reset, List.mem_of_getElem? hreset, ?_⟩
        split <;> rfl
    obtain ⟨reset, hreset, hcpu⟩ := hplace
    obtain ⟨old, hold, rfl⟩ := List.mem_map.mp hreset
    exact ⟨old, hold, hcpu⟩
  unfold VirtualMachine.reset
  generalize vm.bootStateMachine.reset.powerOn = r
  obtain ⟨on, machine⟩ := r
  exact ⟨VirtualMachine.data_clearMemoryWatchpoints vm, hstart⟩

/-- A restored instance: the metadata of `before`, and the machine of `now`, reset. -/
structure RestoredFrom (before now restored : VMInstance I) (snapshotId : String) : Prop where
  metadata : restored.metadata = { before.metadata with
    currentState := .STOPPED
    previousState := .SNAPSHOTTING
    stateMessage := "Snapshot restored"
    activeSnapshot := snapshotId }
  state : restored.vm.state = .STOPPED
  memory : restored.vm.world.memory.data = now.vm.world.memory.data
  cpus : ∀ ctx ∈ restored.vm.cpus, ∃ old ∈ now.vm.cpus, ctx.cpu = old.cpu.reset

theorem restoredFrom_restore (before now : VMInstance I) (snapshotName description : String)
    (h : now.vm.reset.1 = true) :
    RestoredFrom before now (now.restore (m.newSnapshot before snapshotName description)).2
      (m.generateSnapshotId snapshotName) := by
  obtain ⟨hmemory, hcpus⟩ := reset_machine now.vm
  unfold VMInstance.restore
  cases hreset : now.vm.reset with
  | mk ok vm =>
      rw [hreset] at h hmemory hcpus
      cases (show ok = true from h)
      exact ⟨rfl, VMInstance.state_reset hreset, hmemory, hcpus⟩

theorem fst_restore (snapshot : VMSnapshot) (inst : VMInstance I) : (inst.restore snapshot).1 = inst.vm.reset.1 := by
  unfold VMInstance.restore
  generalize inst.vm.reset = r
  obtain ⟨ok, vm⟩ := r
  cases ok <;> rfl

/-- A host whose boot loader puts a kernel of one byte at its entry point. -/
def kernelHost : Host Unit where
  isRegistered _ := false
  conditions _ _ := true
  createStorageDevices _ := true
  load config vm :=
    let memory := vm.world.memory
    ⟨.loaded, { vm.world with memory := { memory with data := memory.data.set config.boot.entryPoint.toNat 1 } },
      vm.cpus.map fun ctx => { ctx with cpu := ctx.cpu.setIP config.boot.entryPoint }, vm.bootStateMachine⟩
  drawBootStatus _ _ _ framebuffer := framebuffer

/-- A machine that boots a kernel at address 16. -/
def direct : VMConfiguration := { boot := { kernelPath := "kernel.bin", entryPoint := 16, directBoot := true } }

/-- The recorded state, the byte at address 16, and the instruction pointer. -/
def guest (m : VMManager I) (vmId : String) : Option (VMState × Option UInt8 × UInt64) :=
  (m.vms.find? vmId).map fun inst => (inst.metadata.currentState, inst.vm.world.memory.data[16]?, inst.vm.getIP)

def created : VMManager Unit := run (after nopEngine kernelHost) {} [.createVM direct]

def running : VMManager Unit := run (after nopEngine kernelHost) {} [.createVM direct, .startVM "vm-000000"]

end VMManager

end GuideXOS.Manager
