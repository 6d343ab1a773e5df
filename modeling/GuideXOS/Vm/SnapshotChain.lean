import GuideXOS.Lib.Chains
import GuideXOS.Vm.SnapshotDelta

/-!
# `SnapshotChain` — the snapshot manager over its whole history

The manager keeps full snapshots, and deltas that name the snapshot they were computed from. Deleting a snapshot
takes it out of the maps and does nothing about the deltas that lead to it. Over any history, a snapshot resolves
as long as the chain it leads through is all there, and then to the state it got when it was created
(`snapshot_chain`).
-/

namespace GuideXOS.Vm
open Lib Lib.Runs Lib.Deltas GuideXOS.Core

structure VMSnapshotManager where
  fullSnapshots : OrdMap String VMStateSnapshot := .empty
  deltaSnapshots : OrdMap String VMStateSnapshotDelta := .empty
  snapshotOrder : List String := []
  nextSnapshotNumber : Nat := 1

def hexPadded (width : Nat) (x : UInt64) : String :=
  let digits := Nat.toDigits 16 x.toNat
  String.ofList (List.replicate (width - digits.length) '0' ++ digits)

namespace VMSnapshotManager

variable (m : VMSnapshotManager)

/-- **`generateSnapshotId`** from the clock. -/
def generateSnapshotId (now : UInt64) : String :=
  hexPadded 8 (now &&& 0xFFFFFFFF) ++ "-" ++ hexPadded 4 ((now >>> 32) &&& 0xFFFF) ++ "-" ++
    hexPadded 4 (UInt64.ofNat m.nextSnapshotNumber) ++ "-" ++ hexPadded 4 (now &&& 0xFFFF) ++ "-" ++
    hexPadded 12 ((now >>> 16) &&& 0xFFFFFFFFFFFF)

/-- The name given, or a numbered one; only that uses up a number. -/
def takeName (stem name : String) : String × VMSnapshotManager :=
  if name = "" then
    (stem ++ toString m.nextSnapshotNumber, { m with nextSnapshotNumber := m.nextSnapshotNumber + 1 })
  else (name, m)

/-- **`createFullSnapshot`**; `recordSize` is the size of a `CPUSnapshotRecord` on the host. -/
def createFullSnapshot (recordSize : Nat) (vm : VirtualMachine) (now timestamp : UInt64) (name description : String) :
    String × VMSnapshotManager :=
  let snapshot := captureFullSnapshot vm
  let id := m.generateSnapshotId now
  let named := m.takeName "Snapshot " name
  let metadata : VMSnapshotMetadata :=
    { snapshotId := id, snapshotName := named.1, description, timestamp, isDelta := false, parentSnapshotId := ""
      fullSnapshotSize := snapshot.memoryState.data.length + snapshot.cpus.length * recordSize + 1024
      deltaSize := 0 }
  (id, { named.2 with
    fullSnapshots := m.fullSnapshots.insert id { snapshot with metadata }
    snapshotOrder := m.snapshotOrder ++ [id] })

/-- **`resolveSnapshot`**, as far as a number of steps takes it. -/
def resolveWithin (m : VMSnapshotManager) : Nat → String → Option VMStateSnapshot
  | 0, _ => none
  | n + 1, snapshotId =>
      match m.fullSnapshots.find? snapshotId with
      | some snapshot => some snapshot
      | none =>
          match m.deltaSnapshots.find? snapshotId with
          | none => some {}
          | some delta =>
              (resolveWithin m n delta.metadata.parentSnapshotId).map fun parent =>
                if parent.metadata.snapshotId = "" then {} else applyDelta parent delta

/-- **`resolveSnapshot`.** A walk that takes more steps than there are deltas leads in a circle. -/
def resolveSnapshot (snapshotId : String) : Option VMStateSnapshot :=
  m.resolveWithin (m.deltaSnapshots.size + 1) snapshotId

/-- **`createDeltaSnapshot`**; `none` where resolving the parent does not end. -/
def createDeltaSnapshot (vm : VirtualMachine) (parentSnapshotId : String) (now timestamp : UInt64)
    (name description : String) : Option (String × VMSnapshotManager) :=
  if (m.fullSnapshots.find? parentSnapshotId).isNone && (m.deltaSnapshots.find? parentSnapshotId).isNone then
    some ("", m)
  else
    (m.resolveSnapshot parentSnapshotId).map fun parentSnapshot =>
      let currentSnapshot := captureFullSnapshot vm
      let delta := computeDelta currentSnapshot parentSnapshot
      let id := m.generateSnapshotId now
      let named := m.takeName "Delta Snapshot " name
      let metadata : VMSnapshotMetadata :=
        { snapshotId := id, snapshotName := named.1, description, timestamp, isDelta := true, parentSnapshotId
          deltaSize := delta.memoryDelta.totalChangedBytes + delta.cpuDeltas.length * 512
          fullSnapshotSize := currentSnapshot.metadata.fullSnapshotSize }
      (id, { named.2 with
        deltaSnapshots := m.deltaSnapshots.insert id { delta with metadata }
        snapshotOrder := m.snapshotOrder ++ [id] })

/-- **`deleteSnapshot`.** -/
def deleteSnapshot (snapshotId : String) : Bool × VMSnapshotManager :=
  ((m.fullSnapshots.find? snapshotId).isSome || (m.deltaSnapshots.find? snapshotId).isSome,
    { m with
      fullSnapshots := m.fullSnapshots.erase snapshotId
      deltaSnapshots := m.deltaSnapshots.erase snapshotId
      snapshotOrder := m.snapshotOrder.erase snapshotId })

/-- **`getSnapshotMetadata`.** -/
def getSnapshotMetadata (snapshotId : String) : Option VMSnapshotMetadata :=
  match m.fullSnapshots.find? snapshotId with
  | some snapshot => some snapshot.metadata
  | none => (m.deltaSnapshots.find? snapshotId).map (·.metadata)

/-- **`listSnapshots`.** -/
def listSnapshots : List VMSnapshotMetadata := m.snapshotOrder.filterMap m.getSnapshotMetadata

/-! ## The manager as chains -/

/-- What the maps say about an id. -/
def chains : Chains String VMStateSnapshot VMStateSnapshotDelta where
  root id := m.fullSnapshots.find? id
  link id := (m.deltaSnapshots.find? id).map fun delta => (delta.metadata.parentSnapshotId, delta)

/-- All the snapshots an id leads through are stored, and they resolve it to a state. -/
abbrev Holds : String → VMStateSnapshot → Prop := Chains.Value applyDelta m.chains

/-- What is stored under an id names itself so, and no id is both a full snapshot and a delta. -/
structure Labelled (m : VMSnapshotManager) : Prop where
  full : ∀ id s, m.fullSnapshots.find? id = some s → s.metadata.snapshotId = id ∧ id ≠ ""
  delta : ∀ id d, m.deltaSnapshots.find? id = some d → d.metadata.snapshotId = id ∧ id ≠ ""
  disjoint : ∀ id d, m.deltaSnapshots.find? id = some d → m.fullSnapshots.find? id = none

variable {m : VMSnapshotManager} {id : String} {s : VMStateSnapshot} {n : Nat}

theorem chains_link {p : String} {d : VMStateSnapshotDelta} :
    m.chains.link id = some (p, d) ↔ m.deltaSnapshots.find? id = some d ∧ d.metadata.parentSnapshotId = p := by
  show (m.deltaSnapshots.find? id).map _ = _ ↔ _
  constructor
  · intro h
    obtain ⟨d', hd', hpair⟩ := Option.map_eq_some_iff.mp h
    obtain ⟨hp, rfl⟩ := Prod.mk.inj hpair
    exact ⟨hd', hp⟩
  · rintro ⟨hd, rfl⟩
    rw [hd]
    rfl

/-- A state that is there has an id. -/
theorem Labelled.snapshotId_of_holds (h : m.Labelled) (hs : m.Holds id s) : s.metadata.snapshotId ≠ "" := by
  cases hs with
  | root hroot =>
      obtain ⟨hid, hne⟩ := h.full _ _ hroot
      rwa [hid]
  | link _ hlink _ =>
      obtain ⟨hid, hne⟩ := h.delta _ _ (chains_link.mp hlink).1
      exact hid.symm ▸ hne

/-- **The resolver walks the chain**, and answers with the empty snapshot where it breaks off. -/
theorem resolveWithin_eq (h : m.Labelled) (n : Nat) (id : String) :
    m.resolveWithin n id = (Chains.follow applyDelta m.chains n id).map (·.getD {}) := by
  induction n generalizing id with
  | zero => rfl
  | succ n ih =>
      rw [resolveWithin, Chains.follow]
      cases hfull : m.fullSnapshots.find? id with
      | some snapshot =>
          have hroot : m.chains.root id = some snapshot := hfull
          rw [hroot]
          rfl
      | none =>
          have hroot : m.chains.root id = none := hfull
          rw [hroot]
          cases hdelta : m.deltaSnapshots.find? id with
          | none =>
              have hlink : m.chains.link id = none := congrArg (Option.map _) hdelta
              rw [hlink]
              rfl
          | some d =>
              rw [chains_link.mpr ⟨hdelta, rfl⟩]
              dsimp only
              rw [ih, Option.map_map, Option.map_map]
              cases hfollow : Chains.follow applyDelta m.chains n d.metadata.parentSnapshotId with
              | none => rfl
              | some r =>
                  cases r with
                  | none => rfl
                  | some parent =>
                      have hne := h.snapshotId_of_holds (Chains.value_of_follow hfollow)
                      show some (if parent.metadata.snapshotId = "" then _ else _) = _
                      rw [if_neg hne]
                      rfl

/-- The snapshot is stored, and so are all it leads through. -/
inductive Complete (m : VMSnapshotManager) : String → Prop
  | full {id : String} {s : VMStateSnapshot} : m.fullSnapshots.find? id = some s → Complete m id
  | delta {id : String} {d : VMStateSnapshotDelta} :
      m.deltaSnapshots.find? id = some d → Complete m d.metadata.parentSnapshotId → Complete m id

theorem complete_iff (h : m.Labelled) : m.Complete id ↔ ∃ s, m.Holds id s := by
  constructor
  · intro hc
    induction hc with
    | full hs => exact ⟨_, .root hs⟩
    | delta hd _ ih =>
        obtain ⟨s, hs⟩ := ih
        exact ⟨_, .link (h.disjoint _ _ hd) (chains_link.mpr ⟨hd, rfl⟩) hs⟩
  · rintro ⟨s, hs⟩
    induction hs with
    | root hroot => exact .full hroot
    | link _ hlink _ ih =>
        obtain ⟨hd, rfl⟩ := chains_link.mp hlink
        exact .delta hd ih

/-- **Resolving ends** where deltas lead to ids of lower rank: with the state, if the chain is complete, else with
    the empty snapshot. -/
theorem resolveSnapshot_spec (h : m.Labelled) (rank : String → Nat)
    (hrank : ∀ id d, m.deltaSnapshots.find? id = some d → rank d.metadata.parentSnapshotId < rank id) (id : String) :
    ∃ s, m.resolveSnapshot id = some s ∧ (s.metadata.snapshotId ≠ "" ↔ m.Complete id) ∧
      (m.Complete id → m.Holds id s) := by
  have hkeys : ∀ k p d, m.chains.link k = some (p, d) → k ∈ m.deltaSnapshots.entries.map (·.1) :=
    fun k p d hlink => OrdMap.mem_keys_of_find? (chains_link.mp hlink).1
  obtain ⟨r, hr⟩ := Chains.follow_terminates applyDelta hkeys rank
    (fun k p d hlink => by
      obtain ⟨hd, rfl⟩ := chains_link.mp hlink
      exact hrank k d hd) id
  rw [List.length_map] at hr
  have hresolve : m.resolveSnapshot id = some (r.getD {}) := by
    rw [resolveSnapshot, resolveWithin_eq h]
    exact congrArg (Option.map _) hr
  refine ⟨_, hresolve, ?_⟩
  rw [complete_iff h]
  cases r with
  | none =>
      have hnot : ¬ ∃ s, m.Holds id s := by
        rintro ⟨s, hs⟩
        cases Chains.follow_of_value hs hr
      exact ⟨⟨fun hne => absurd rfl hne, fun hs => absurd hs hnot⟩, fun hs => absurd hs hnot⟩
  | some s =>
      have hs := Chains.value_of_follow hr
      exact ⟨⟨fun _ => ⟨s, hs⟩, fun _ => h.snapshotId_of_holds hs⟩, fun _ => hs⟩

theorem generateSnapshotId_ne (m : VMSnapshotManager) (now : UInt64) : m.generateSnapshotId now ≠ "" := by
  intro h
  have hlen := congrArg String.length h
  simp [generateSnapshotId] at hlen

end VMSnapshotManager

/-! ## The whole history -/

/-- Two snapshots of one state. -/
def SameState (s t : VMStateSnapshot) : Prop := { s with metadata := {} } = { t with metadata := {} }

inductive SnapshotOp where
  | createFull (vm : VirtualMachine) (now timestamp : UInt64) (name description : String)
  | createDelta (vm : VirtualMachine) (parentSnapshotId : String) (now timestamp : UInt64) (name description : String)
  | delete (snapshotId : String)

/-- A snapshot as it was created: the state captured, and for a delta its parent and what that resolved to. -/
structure Creation where
  id : String
  captured : VMStateSnapshot
  parent : Option (String × VMStateSnapshot)

namespace Creation

/-- The state a snapshot was created to resolve to. -/
def state (c : Creation) : VMStateSnapshot :=
  match c.parent with
  | none => c.captured
  | some (_, parent) => applyDelta parent (computeDelta c.captured parent)

/-- A delta carried all that had changed since the parent's state. -/
def Carried (c : Creation) : Prop :=
  match c.parent with
  | none => True
  | some (_, parent) => Carries c.captured parent

theorem state_iff {c : Creation} (hids : Numbered c.captured.cpus) : SameState c.state c.captured ↔ c.Carried := by
  unfold state Carried
  cases c.parent with
  | none => exact ⟨fun _ => trivial, fun _ => rfl⟩
  | some p =>
      have hmetadata : ({ applyDelta p.2 (computeDelta c.captured p.2) with metadata := {} } : VMStateSnapshot) =
          applyDelta p.2 (computeDelta c.captured p.2) := rfl
      constructor
      · intro h
        exact carries_of_applyDelta hids (hmetadata.symm.trans h)
      · intro h
        exact hmetadata.trans (applyDelta_of_carries hids h)

end Creation

/-- The manager, and every snapshot ever created, the newest first. -/
structure SnapshotHistory where
  manager : VMSnapshotManager := {}
  created : List Creation := []

namespace SnapshotHistory

def step (recordSize : Nat) (h : SnapshotHistory) : SnapshotOp → SnapshotHistory
  | .createFull vm now timestamp name description =>
      let r := h.manager.createFullSnapshot recordSize vm now timestamp name description
      ⟨r.2, ⟨r.1, captureFullSnapshot vm, none⟩ :: h.created⟩
  | .createDelta vm parentSnapshotId now timestamp name description =>
      match h.manager.resolveSnapshot parentSnapshotId,
        h.manager.createDeltaSnapshot vm parentSnapshotId now timestamp name description with
      | some parent, some r =>
          if r.1 = "" then h
          else ⟨r.2, ⟨r.1, captureFullSnapshot vm, some (parentSnapshotId, parent)⟩ :: h.created⟩
      | _, _ => h
  | .delete snapshotId => { h with manager := (h.manager.deleteSnapshot snapshotId).2 }

/-- The clock gives an id that no snapshot was given before. -/
def FreshId (h : SnapshotHistory) : SnapshotOp → Prop
  | .createFull _ now _ _ _ => ∀ c ∈ h.created, c.id ≠ h.manager.generateSnapshotId now
  | .createDelta _ _ now _ _ _ => ∀ c ∈ h.created, c.id ≠ h.manager.generateSnapshotId now
  | .delete _ => True

/-- Some snapshot was created with an id. -/
def Known (h : SnapshotHistory) (id : String) : Prop := ∃ c ∈ h.created, c.id = id

/-- **The invariant.** What is stored is what was created, deltas lead to older snapshots, and a parent that is
    still complete resolves to what it resolved to when the delta was computed. -/
structure Invariant (h : SnapshotHistory) : Prop where
  labelled : h.manager.Labelled
  full : ∀ id s, h.manager.fullSnapshots.find? id = some s →
    ∃ c ∈ h.created, c.id = id ∧ c.parent = none ∧ SameState s c.captured
  delta : ∀ id d, h.manager.deltaSnapshots.find? id = some d →
    ∃ c ∈ h.created, ∃ parent, c.id = id ∧ c.parent = some (d.metadata.parentSnapshotId, parent) ∧
      d = { computeDelta c.captured parent with metadata := d.metadata }
  numbered : ∀ c ∈ h.created, Numbered c.captured.cpus
  parents : ∀ c ∈ h.created, ∀ p parent, c.parent = some (p, parent) →
    h.Known p ∧ ∀ s, h.manager.Holds p s → s = parent
  ranked : ∃ rank : String → Nat, (∀ c ∈ h.created, rank c.id < h.created.length) ∧
    ∀ c ∈ h.created, ∀ p parent, c.parent = some (p, parent) → rank p < rank c.id

/-- How a creation is stored under its id. -/
inductive StoredAs (m : VMSnapshotManager) (c : Creation) : Prop
  | full (s : VMStateSnapshot) : m.fullSnapshots.find? c.id = some s → m.deltaSnapshots.find? c.id = none →
      c.parent = none → s.metadata.snapshotId = c.id → SameState s c.captured → StoredAs m c
  | delta (d : VMStateSnapshotDelta) (parent : VMStateSnapshot) : m.fullSnapshots.find? c.id = none →
      m.deltaSnapshots.find? c.id = some d → c.parent = some (d.metadata.parentSnapshotId, parent) →
      d.metadata.snapshotId = c.id → d = { computeDelta c.captured parent with metadata := d.metadata } →
      StoredAs m c

/-- The maps answer alike for every id but one. -/
def AgreeBut (id : String) (m' m : VMSnapshotManager) : Prop := ∀ k, k ≠ id →
  m'.fullSnapshots.find? k = m.fullSnapshots.find? k ∧ m'.deltaSnapshots.find? k = m.deltaSnapshots.find? k

section Step
variable {h : SnapshotHistory} {m' : VMSnapshotManager} {c : Creation}

/-- An id that is new is in no map. -/
theorem Invariant.not_stored (hi : h.Invariant) (hfresh : ∀ c' ∈ h.created, c'.id ≠ c.id) :
    h.manager.fullSnapshots.find? c.id = none ∧ h.manager.deltaSnapshots.find? c.id = none := by
  constructor
  · refine Option.eq_none_iff_forall_ne_some.mpr fun s hs => ?_
    obtain ⟨c', hc', hid, -⟩ := hi.full _ _ hs
    exact hfresh c' hc' hid
  · refine Option.eq_none_iff_forall_ne_some.mpr fun d hd => ?_
    obtain ⟨c', hc', -, hid, -⟩ := hi.delta _ _ hd
    exact hfresh c' hc' hid

/-- What was known before a creation leads through nothing new. -/
theorem Invariant.holds_of_create (hi : h.Invariant) (hfresh : ∀ c' ∈ h.created, c'.id ≠ c.id)
    (hothers : AgreeBut c.id m' h.manager) {p : String} {s : VMStateSnapshot} (hp : h.Known p) (hs : m'.Holds p s) :
    h.manager.Holds p s := by
  have hother : ∀ k, h.Known k → k ≠ c.id := by
    rintro k ⟨c', hc', rfl⟩
    exact hfresh c' hc'
  refine Chains.Value.transfer (P := h.Known) (fun k s hk hroot => ?_) (fun k p d hk hroot hlink => ?_) hs hp
  · exact (hothers k (hother k hk)).1.symm.trans hroot
  · obtain ⟨hd, rfl⟩ := VMSnapshotManager.chains_link.mp hlink
    have hd' := (hothers k (hother k hk)).2.symm.trans hd
    obtain ⟨c', hc', parent, -, hparent, -⟩ := hi.delta k d hd'
    exact ⟨(hothers k (hother k hk)).1.symm.trans hroot, VMSnapshotManager.chains_link.mpr ⟨hd', rfl⟩,
      (hi.parents c' hc' _ _ hparent).1⟩

/-- A full snapshot found after a creation is the new one, or it was there. -/
theorem StoredAs.full_or_before (hstored : StoredAs m' c) (hothers : AgreeBut c.id m' h.manager) {id : String}
    {s : VMStateSnapshot} (hs : m'.fullSnapshots.find? id = some s) :
    (id = c.id ∧ c.parent = none ∧ s.metadata.snapshotId = id ∧ SameState s c.captured) ∨
      (id ≠ c.id ∧ h.manager.fullSnapshots.find? id = some s) := by
  by_cases hid : id = c.id
  · subst hid
    cases hstored with
    | full s' hs' _ hroot hlabel hsame =>
        obtain rfl := Option.some.inj (hs'.symm.trans hs)
        exact Or.inl ⟨rfl, hroot, hlabel, hsame⟩
    | delta _ _ hnone => cases hnone.symm.trans hs
  · exact Or.inr ⟨hid, (hothers id hid).1.symm.trans hs⟩

/-- And so a delta. -/
theorem StoredAs.delta_or_before (hstored : StoredAs m' c) (hothers : AgreeBut c.id m' h.manager) {id : String}
    {d : VMStateSnapshotDelta} (hd : m'.deltaSnapshots.find? id = some d) :
    (id = c.id ∧ m'.fullSnapshots.find? id = none ∧ d.metadata.snapshotId = id ∧
        ∃ parent, c.parent = some (d.metadata.parentSnapshotId, parent) ∧
          d = { computeDelta c.captured parent with metadata := d.metadata }) ∨
      (id ≠ c.id ∧ h.manager.deltaSnapshots.find? id = some d) := by
  by_cases hid : id = c.id
  · subst hid
    cases hstored with
    | full _ _ hnone => cases hnone.symm.trans hd
    | delta d' parent hnone hd' hlink hlabel hdelta =>
        obtain rfl := Option.some.inj (hd'.symm.trans hd)
        exact Or.inl ⟨rfl, hnone, hlabel, parent, hlink, hdelta⟩
  · exact Or.inr ⟨hid, (hothers id hid).2.symm.trans hd⟩

/-- What is stored under an id is labelled with it, the new one included. -/
theorem Invariant.labelled_create (hi : h.Invariant) (hne : c.id ≠ "") (hothers : AgreeBut c.id m' h.manager)
    (hstored : StoredAs m' c) : m'.Labelled where
  full := by
    intro id s hs
    rcases hstored.full_or_before hothers hs with ⟨rfl, -, hlabel, -⟩ | ⟨-, hs⟩
    · exact ⟨hlabel, hne⟩
    · exact hi.labelled.full id s hs
  delta := by
    intro id d hd
    rcases hstored.delta_or_before hothers hd with ⟨rfl, -, hlabel, -⟩ | ⟨-, hd⟩
    · exact ⟨hlabel, hne⟩
    · exact hi.labelled.delta id d hd
  disjoint := by
    intro id d hd
    rcases hstored.delta_or_before hothers hd with ⟨-, hnone, -⟩ | ⟨hid, hd⟩
    · exact hnone
    · exact (hothers id hid).1.trans (hi.labelled.disjoint id d hd)

/-- The new id ranks above all that were created before. -/
theorem Invariant.ranked_create (hi : h.Invariant) (hfresh : ∀ c' ∈ h.created, c'.id ≠ c.id)
    (hparent : ∀ p parent, c.parent = some (p, parent) → h.Known p) :
    ∃ rank : String → Nat, (∀ c' ∈ c :: h.created, rank c'.id < (c :: h.created).length) ∧
      ∀ c' ∈ c :: h.created, ∀ p parent, c'.parent = some (p, parent) → rank p < rank c'.id := by
  obtain ⟨rank, hlt, hlower⟩ := hi.ranked
  have hsame : ∀ c' ∈ h.created, (if c'.id = c.id then h.created.length else rank c'.id) = rank c'.id :=
    fun c' hc' => if_neg (hfresh c' hc')
  have hknown : ∀ p, h.Known p → (if p = c.id then h.created.length else rank p) = rank p := by
    rintro p ⟨c', hc', rfl⟩
    exact hsame c' hc'
  refine ⟨fun id => if id = c.id then h.created.length else rank id, ?_, ?_⟩
  · refine List.forall_mem_cons.mpr ⟨?_, fun c' hc' => ?_⟩
    · dsimp only
      rw [if_pos rfl]
      exact Nat.lt_succ_self _
    · dsimp only
      rw [hsame c' hc']
      exact Nat.lt_succ_of_lt (hlt c' hc')
  · refine List.forall_mem_cons.mpr ⟨fun p parent hlink => ?_, fun c' hc' p parent hlink => ?_⟩
    · have hp := hparent p parent hlink
      dsimp only
      rw [if_pos rfl, hknown p hp]
      obtain ⟨c', hc', rfl⟩ := hp
      exact hlt c' hc'
    · dsimp only
      rw [hknown p (hi.parents c' hc' p parent hlink).1, hsame c' hc']
      exact hlower c' hc' p parent hlink

/-- **A creation keeps the invariant.** -/
theorem Invariant.create (hi : h.Invariant) (hne : c.id ≠ "") (hfresh : ∀ c' ∈ h.created, c'.id ≠ c.id)
    (hnumbered : Numbered c.captured.cpus) (hothers : AgreeBut c.id m' h.manager) (hstored : StoredAs m' c)
    (hparent : ∀ p parent, c.parent = some (p, parent) →
      h.Known p ∧ ∀ s, h.manager.Holds p s → s = parent) :
    Invariant ⟨m', c :: h.created⟩ where
  labelled := hi.labelled_create hne hothers hstored
  full := by
    intro id s hs
    rcases hstored.full_or_before hothers hs with ⟨rfl, hroot, -, hsame⟩ | ⟨-, hs⟩
    · exact ⟨c, List.mem_cons_self, rfl, hroot, hsame⟩
    · obtain ⟨c', hc', hrest⟩ := hi.full id s hs
      exact ⟨c', List.mem_cons_of_mem c hc', hrest⟩
  delta := by
    intro id d hd
    rcases hstored.delta_or_before hothers hd with ⟨rfl, -, -, parent, hlink, hdelta⟩ | ⟨-, hd⟩
    · exact ⟨c, List.mem_cons_self, parent, rfl, hlink, hdelta⟩
    · obtain ⟨c', hc', hrest⟩ := hi.delta id d hd
      exact ⟨c', List.mem_cons_of_mem c hc', hrest⟩
  numbered := List.forall_mem_cons.mpr ⟨hnumbered, hi.numbered⟩
  parents := by
    have hknown : ∀ p, h.Known p → Known ⟨m', c :: h.created⟩ p := by
      rintro p ⟨c', hc', hid⟩
      exact ⟨c', List.mem_cons_of_mem c hc', hid⟩
    refine List.forall_mem_cons.mpr ⟨fun p parent hlink => ?_, fun c' hc' p parent hlink => ?_⟩
    · obtain ⟨hp, hsame⟩ := hparent p parent hlink
      exact ⟨hknown p hp, fun s hs => hsame s (hi.holds_of_create hfresh hothers hp hs)⟩
    · obtain ⟨hp, hsame⟩ := hi.parents c' hc' p parent hlink
      exact ⟨hknown p hp, fun s hs => hsame s (hi.holds_of_create hfresh hothers hp hs)⟩
  ranked := hi.ranked_create hfresh fun p parent hlink => (hparent p parent hlink).1

/-- **A deletion keeps the invariant.** -/
theorem Invariant.delete (hi : h.Invariant) (id : String) :
    Invariant { h with manager := (h.manager.deleteSnapshot id).2 } := by
  have hfull : ∀ k s, (h.manager.fullSnapshots.erase id).find? k = some s →
      h.manager.fullSnapshots.find? k = some s := by
    intro k s hs
    rw [OrdMap.find?_erase] at hs
    split at hs
    · cases hs
    · exact hs
  have hdelta : ∀ k d, (h.manager.deltaSnapshots.erase id).find? k = some d →
      h.manager.deltaSnapshots.find? k = some d := by
    intro k d hd
    rw [OrdMap.find?_erase] at hd
    split at hd
    · cases hd
    · exact hd
  have hnone : ∀ k, h.manager.fullSnapshots.find? k = none →
      (h.manager.fullSnapshots.erase id).find? k = none := by
    intro k hk
    rw [OrdMap.find?_erase, hk]
    split <;> rfl
  refine
    { labelled := ⟨fun k s hs => hi.labelled.full k s (hfull k s hs),
        fun k d hd => hi.labelled.delta k d (hdelta k d hd),
        fun k d hd => hnone k (hi.labelled.disjoint k d (hdelta k d hd))⟩
      full := fun k s hs => hi.full k s (hfull k s hs)
      delta := fun k d hd => hi.delta k d (hdelta k d hd)
      numbered := hi.numbered
      parents := fun c hc p parent hlink => ⟨(hi.parents c hc p parent hlink).1, fun s hs => ?_⟩
      ranked := hi.ranked }
  -- a chain that is left was there before
  refine (hi.parents c hc p parent hlink).2 s (Chains.Value.transfer (P := fun _ => True)
    (fun k s _ hroot => hfull k s hroot) (fun k p d _ _ hlink => ?_) hs trivial)
  obtain ⟨hd, rfl⟩ := VMSnapshotManager.chains_link.mp hlink
  have hd' := hdelta k d hd
  exact ⟨hi.labelled.disjoint k d hd', VMSnapshotManager.chains_link.mpr ⟨hd', rfl⟩, trivial⟩

theorem takeName_maps (m : VMSnapshotManager) (stem name : String) :
    (m.takeName stem name).2.fullSnapshots = m.fullSnapshots ∧
      (m.takeName stem name).2.deltaSnapshots = m.deltaSnapshots := by
  unfold VMSnapshotManager.takeName
  split <;> exact ⟨rfl, rfl⟩

theorem Invariant.createFull (hi : h.Invariant) (recordSize : Nat) (vm : VirtualMachine) (now timestamp : UInt64)
    (name description : String) (hfresh : ∀ c ∈ h.created, c.id ≠ h.manager.generateSnapshotId now) :
    (h.step recordSize (.createFull vm now timestamp name description)).Invariant := by
  have hne := h.manager.generateSnapshotId_ne now
  unfold step VMSnapshotManager.createFullSnapshot
  dsimp only
  generalize h.manager.generateSnapshotId now = id at hfresh hne ⊢
  have hnone := hi.not_stored (c := ⟨id, captureFullSnapshot vm, none⟩) hfresh
  have hdelta := (takeName_maps h.manager "Snapshot " name).2
  refine hi.create (c := ⟨id, captureFullSnapshot vm, none⟩) hne hfresh (captureFullSnapshot_numbered vm)
    (fun k hk => ⟨?_, ?_⟩) ?_ (fun p parent hlink => by cases hlink)
  · exact OrdMap.find?_insert_ne hk _ _
  · exact congrArg (OrdMap.find? · k) hdelta
  · exact .full _ (OrdMap.find?_insert_self _ _ _) ((congrArg (OrdMap.find? · id) hdelta).trans hnone.2) rfl rfl rfl

/-- Whatever is stored resolves. -/
theorem Invariant.resolves (hi : h.Invariant) (id : String) :
    ∃ s, h.manager.resolveSnapshot id = some s ∧ (s.metadata.snapshotId ≠ "" ↔ h.manager.Complete id) ∧
      (h.manager.Complete id → h.manager.Holds id s) := by
  obtain ⟨rank, -, hlower⟩ := hi.ranked
  refine VMSnapshotManager.resolveSnapshot_spec hi.labelled rank (fun k d hd => ?_) id
  obtain ⟨c, hc, parent, rfl, hlink, -⟩ := hi.delta k d hd
  exact hlower c hc _ _ hlink

theorem Invariant.createDelta (hi : h.Invariant) (recordSize : Nat) (vm : VirtualMachine) (parentSnapshotId : String)
    (now timestamp : UInt64) (name description : String)
    (hfresh : ∀ c ∈ h.created, c.id ≠ h.manager.generateSnapshotId now) :
    (h.step recordSize (.createDelta vm parentSnapshotId now timestamp name description)).Invariant := by
  obtain ⟨parent, hparent, -, hholds⟩ := hi.resolves parentSnapshotId
  have hne := h.manager.generateSnapshotId_ne now
  unfold step VMSnapshotManager.createDeltaSnapshot
  dsimp only
  rw [hparent]
  by_cases hunknown : ((h.manager.fullSnapshots.find? parentSnapshotId).isNone &&
      (h.manager.deltaSnapshots.find? parentSnapshotId).isNone) = true
  · -- no such parent
    rw [if_pos hunknown]
    exact hi
  · rw [if_neg hunknown]
    dsimp only [Option.map_some]
    rw [if_neg hne]
    generalize h.manager.generateSnapshotId now = id at hfresh hne ⊢
    have hnone := hi.not_stored (c := ⟨id, captureFullSnapshot vm, some (parentSnapshotId, parent)⟩) hfresh
    have hfull := (takeName_maps h.manager "Delta Snapshot " name).1
    refine hi.create (c := ⟨id, captureFullSnapshot vm, some (parentSnapshotId, parent)⟩) hne hfresh
      (captureFullSnapshot_numbered vm) (fun k hk => ⟨?_, ?_⟩) ?_ (fun p parent' hlink => ?_)
    · exact congrArg (OrdMap.find? · k) hfull
    · exact OrdMap.find?_insert_ne hk _ _
    · exact .delta _ parent ((congrArg (OrdMap.find? · id) hfull).trans hnone.1) (OrdMap.find?_insert_self _ _ _)
        rfl rfl rfl
    · obtain ⟨rfl, rfl⟩ := Prod.mk.inj (Option.some.inj hlink)
      refine ⟨?_, fun s hs => ?_⟩
      · cases hroot : h.manager.fullSnapshots.find? parentSnapshotId with
        | some s =>
            obtain ⟨c, hc, hid, -⟩ := hi.full _ _ hroot
            exact ⟨c, hc, hid⟩
        | none =>
            cases hdelta : h.manager.deltaSnapshots.find? parentSnapshotId with
            | some d =>
                obtain ⟨c, hc, -, hid, -⟩ := hi.delta _ _ hdelta
                exact ⟨c, hc, hid⟩
            | none =>
                rw [hroot, hdelta] at hunknown
                exact absurd rfl hunknown
      · have hcomplete := (VMSnapshotManager.complete_iff hi.labelled).mpr ⟨s, hs⟩
        exact Chains.Value.unique hs (hholds hcomplete)

theorem Invariant.step (hi : h.Invariant) (recordSize : Nat) (op : SnapshotOp) (hfresh : h.FreshId op) :
    (h.step recordSize op).Invariant := by
  cases op with
  | createFull vm now timestamp name description =>
      exact hi.createFull recordSize vm now timestamp name description hfresh
  | createDelta vm parentSnapshotId now timestamp name description =>
      exact hi.createDelta recordSize vm parentSnapshotId now timestamp name description hfresh
  | delete snapshotId => exact hi.delete snapshotId

end Step

theorem invariant_start : Invariant {} where
  labelled := by
    refine ⟨fun id s hs => ?_, fun id d hd => ?_, fun id d hd => ?_⟩
    · cases hs
    · cases hd
    · cases hd
  full id s hs := by cases hs
  delta id d hd := by cases hd
  numbered c hc := by cases hc
  parents c hc := by cases hc
  ranked := by
    refine ⟨fun _ => 0, fun c hc => ?_, fun c hc => ?_⟩
    · cases hc
    · cases hc

/-- A stored snapshot with a complete chain holds the state it was created with. -/
theorem Invariant.state_of_holds {h : SnapshotHistory} (hi : h.Invariant) {id : String} {s : VMStateSnapshot}
    (hs : h.manager.Holds id s) : ∃ c ∈ h.created, c.id = id ∧ SameState s c.state := by
  cases hs with
  | root hroot =>
      obtain ⟨c, hc, hid, hparent, hsame⟩ := hi.full _ _ hroot
      refine ⟨c, hc, hid, ?_⟩
      rwa [Creation.state, hparent]
  | link _ hlink hp =>
      obtain ⟨hd, rfl⟩ := VMSnapshotManager.chains_link.mp hlink
      obtain ⟨c, hc, parent, hid, hparent, hdelta⟩ := hi.delta _ _ hd
      obtain rfl := (hi.parents c hc _ _ hparent).2 _ hp
      refine ⟨c, hc, hid, ?_⟩
      rw [Creation.state, hparent, hdelta]
      rfl

end SnapshotHistory

/-! ## Over any history -/

open SnapshotHistory

variable {metadata : VMSnapshotMetadata}

/-- A listed snapshot is one that was created. -/
theorem created_of_listed {h : SnapshotHistory} (hi : h.Invariant) (hlisted : metadata ∈ h.manager.listSnapshots) :
    h.Known metadata.snapshotId := by
  obtain ⟨id, -, hfound⟩ := List.mem_filterMap.mp hlisted
  unfold VMSnapshotManager.getSnapshotMetadata at hfound
  cases hroot : h.manager.fullSnapshots.find? id with
  | some s =>
      rw [hroot] at hfound
      obtain rfl := Option.some.inj hfound
      obtain ⟨c, hc, hid, -⟩ := hi.full id s hroot
      exact ⟨c, hc, hid.trans (hi.labelled.full id s hroot).1.symm⟩
  | none =>
      rw [hroot] at hfound
      obtain ⟨d, hd, rfl⟩ := Option.map_eq_some_iff.mp hfound
      obtain ⟨c, hc, -, hid, -⟩ := hi.delta id d hd
      exact ⟨c, hc, hid.trans (hi.labelled.delta id d hd).1.symm⟩

/-- **Every listed snapshot**, after any history of creations with new ids and of deletions, was created. Resolving
    it ends: with a state that has an id if all the snapshots it leads through are still stored, and only then.
    Whatever else was deleted, that is the state it was created with: the one captured, for a delta exactly if the
    delta carried all that had changed. -/
theorem snapshot_chain (recordSize : Nat) (ops : List SnapshotOp)
    (hfresh : EveryStep (step recordSize) FreshId {} ops)
    (hlisted : metadata ∈ (run (step recordSize) {} ops).manager.listSnapshots) :
    ∃ c ∈ (run (step recordSize) {} ops).created, c.id = metadata.snapshotId ∧
      ∃ s, (run (step recordSize) {} ops).manager.resolveSnapshot metadata.snapshotId = some s ∧
        (s.metadata.snapshotId ≠ "" ↔ (run (step recordSize) {} ops).manager.Complete metadata.snapshotId) ∧
        ((run (step recordSize) {} ops).manager.Complete metadata.snapshotId →
          SameState s c.state ∧ (SameState s c.captured ↔ c.Carried)) := by
  have hi : (run (step recordSize) {} ops).Invariant :=
    run_invariant Invariant (fun h op hi hop => hi.step recordSize op hop) invariant_start hfresh
  generalize run (step recordSize) {} ops = h at hi hlisted ⊢
  obtain ⟨s, hresolve, hiff, hholds⟩ := hi.resolves metadata.snapshotId
  by_cases hcomplete : h.manager.Complete metadata.snapshotId
  · obtain ⟨c, hc, hid, hsame⟩ := hi.state_of_holds (hholds hcomplete)
    refine ⟨c, hc, hid, s, hresolve, hiff, fun _ => ⟨hsame, ?_⟩⟩
    rw [← Creation.state_iff (hi.numbered c hc)]
    exact ⟨fun h => hsame.symm.trans h, fun h => hsame.trans h⟩
  · obtain ⟨c, hc, hid⟩ := created_of_listed hi hlisted
    exact ⟨c, hc, hid, s, hresolve, hiff, fun hyes => absurd hyes hcomplete⟩

/-! ### A parent deleted -/

def baseId : String := ({} : VMSnapshotManager).generateSnapshotId 0

/-- A full snapshot and a delta that leads to it. -/
def twoSnapshots : List SnapshotOp :=
  [.createFull (machineWith .fill) 0 0 "base" "", .createDelta (machineWith .fill) baseId 1 0 "delta" ""]

def deltaId : String := ({} : VMSnapshotManager).generateSnapshotId 1

theorem twoSnapshots_fresh : EveryStep (step 0) FreshId {} twoSnapshots := by
  refine ⟨fun c hc => ?_, fun c hc => ?_, trivial⟩
  · cases hc
  · obtain rfl := List.mem_singleton.mp hc
    decide +kernel

/-- The delta is listed when its parent is gone, and resolves to nothing. -/
theorem snapshot_chain_broken : EveryStep (step 0) FreshId {} (twoSnapshots ++ [.delete baseId]) ∧
    ∃ metadata ∈ (run (step 0) {} (twoSnapshots ++ [.delete baseId])).manager.listSnapshots,
      ∃ s, (run (step 0) {} (twoSnapshots ++ [.delete baseId])).manager.resolveSnapshot metadata.snapshotId = some s ∧
        s.metadata.snapshotId = "" := by
  refine ⟨⟨twoSnapshots_fresh.1, twoSnapshots_fresh.2.1, trivial, trivial⟩, ?_⟩
  have hlisted : deltaId ∈ (run (step 0) {} (twoSnapshots ++ [.delete baseId])).manager.listSnapshots.map
      (·.snapshotId) := by
    decide +kernel
  obtain ⟨metadata, hmetadata, hid⟩ := List.mem_map.mp hlisted
  have hresolve : ((run (step 0) {} (twoSnapshots ++ [.delete baseId])).manager.resolveSnapshot deltaId).map
      (·.metadata.snapshotId) = some "" := by
    decide +kernel
  obtain ⟨s, hs, hempty⟩ := Option.map_eq_some_iff.mp hresolve
  exact ⟨metadata, hmetadata, s, hid ▸ hs, hempty⟩

theorem snapshot_chain_two : ∃ metadata ∈ (run (step 0) {} twoSnapshots).manager.listSnapshots,
    ∃ c ∈ (run (step 0) {} twoSnapshots).created, c.id = metadata.snapshotId ∧
      ∃ s, (run (step 0) {} twoSnapshots).manager.resolveSnapshot metadata.snapshotId = some s ∧
        (s.metadata.snapshotId ≠ "" ↔ (run (step 0) {} twoSnapshots).manager.Complete metadata.snapshotId) ∧
        ((run (step 0) {} twoSnapshots).manager.Complete metadata.snapshotId →
          SameState s c.state ∧ (SameState s c.captured ↔ c.Carried)) := by
  have hlisted : deltaId ∈ (run (step 0) {} twoSnapshots).manager.listSnapshots.map (·.snapshotId) := by
    decide +kernel
  obtain ⟨metadata, hmetadata, -⟩ := List.mem_map.mp hlisted
  exact ⟨metadata, hmetadata, snapshot_chain 0 twoSnapshots twoSnapshots_fresh hmetadata⟩

end GuideXOS.Vm
