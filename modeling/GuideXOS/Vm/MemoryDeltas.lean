import GuideXOS.Vm.SnapshotDelta

/-!
# `MemoryDeltas` — the loop that collects the changed stretches of a memory

`computeMemoryDelta` walks both memories with an open region and a running total. What it collects is what `scan`
finds (`computeMemoryDeltaLoop_eq`), so a delta reproduces the memory it was computed from, records no byte that
did not change and counts what it records (`memoryDelta_exact`). Only the bytes a memory has grown by can lie
directly behind another change: they are a change of their own.
-/

namespace GuideXOS.Vm
open Lib Lib.Deltas

/-! ## The loop -/

/-- The variables of the loop of `computeMemoryDelta`. -/
structure DeltaScan where
  changes : List (Change UInt8) := []
  totalChangedBytes : Nat := 0
  changeStart : Nat := 0
  inChange : Bool := false

namespace DeltaScan

/-- The open region ends before position `i`. -/
def endChange (current : List UInt8) (s : DeltaScan) (i : Nat) : DeltaScan :=
  { s with
    changes := s.changes ++ [⟨s.changeStart, slice current s.changeStart i⟩]
    totalChangedBytes := s.totalChangedBytes + (i - s.changeStart)
    inChange := false }

def step (current parent : List UInt8) (s : DeltaScan) (i : Nat) : DeltaScan :=
  if current[i]? ≠ parent[i]? then
    if !s.inChange then { s with changeStart := i, inChange := true } else s
  else
    if s.inChange then s.endChange current i else s

/-- The region that is still open behind the loop. -/
def finish (current : List UInt8) (s : DeltaScan) (minSize : Nat) : DeltaScan :=
  if s.inChange then s.endChange current minSize else s

/-- The start of the open region. -/
def start (s : DeltaScan) : Option Nat := if s.inChange then some s.changeStart else none

end DeltaScan

/-- **`computeMemoryDelta`**, with the variables of its loop. -/
def computeMemoryDeltaLoop (current parent : MemorySnapshot) : MemoryDelta :=
  let minSize := min current.data.length parent.data.length
  let s := (List.range minSize).foldl (DeltaScan.step current.data parent.data) {}
  let s := s.finish current.data minSize
  if parent.data.length < current.data.length then
    let additionalData := current.data.drop parent.data.length
    ⟨s.changes ++ [⟨parent.data.length, additionalData⟩], s.totalChangedBytes + additionalData.length⟩
  else ⟨s.changes, s.totalChangedBytes⟩

/-! ## The loop is the scan -/

section Loop
variable {current parent : List UInt8} {i : Nat} {rest : List (UInt8 × UInt8)}

theorem DeltaScan.step_differs {s : DeltaScan} (hne : current[i]? ≠ parent[i]?) :
    (s.step current parent i).changes = s.changes ∧
      (s.step current parent i).totalChangedBytes = s.totalChangedBytes ∧
      (s.step current parent i).start = some (s.start.getD i) := by
  unfold DeltaScan.step DeltaScan.start
  rw [if_pos hne]
  obtain ⟨changes, total, changeStart, inChange⟩ := s
  cases inChange <;> exact ⟨rfl, rfl, rfl⟩

theorem DeltaScan.step_same {s : DeltaScan} (heq : current[i]? = parent[i]?) :
    s.step current parent i = s.finish current i := by
  unfold DeltaScan.step
  rw [if_neg (not_not_intro heq)]
  rfl

theorem DeltaScan.finish_start (s : DeltaScan) (i : Nat) : (s.finish current i).start = none := by
  unfold DeltaScan.finish DeltaScan.start
  cases h : s.inChange
  · rw [if_neg Bool.false_ne_true, h]
    rfl
  · rfl

/-- What closing the open region records. -/
theorem DeltaScan.finish_records (s : DeltaScan) (hi : i ≤ current.length) :
    (s.finish current i).changes = s.changes ++ scan current [] i s.start ∧
      (s.finish current i).totalChangedBytes = s.totalChangedBytes + recorded (scan current [] i s.start) := by
  unfold DeltaScan.finish DeltaScan.start
  cases s.inChange
  · exact ⟨(List.append_nil _).symm, rfl⟩
  · refine ⟨rfl, ?_⟩
    show s.totalChangedBytes + (i - s.changeStart) = _ + recorded [⟨s.changeStart, slice current s.changeStart i⟩]
    rw [recorded_cons, length_slice current hi]
    rfl

theorem scan_same {p : UInt8 × UInt8} (start : Option Nat) (heq : p.1 = p.2) :
    scan current (p :: rest) i start = scan current [] i start ++ scan current rest (i + 1) none := by
  rw [scan.eq_def]
  dsimp only
  rw [if_neg (not_not_intro heq)]
  cases start <;> rfl

/-- From position `i` on, the loop collects what `scan` finds there. -/
theorem foldl_step (current parent : List UInt8) (s : DeltaScan) (hrest : rest = (current.zip parent).drop i)
    (hi : i ≤ (current.zip parent).length) :
    let last := ((List.range' i rest.length).foldl (DeltaScan.step current parent) s).finish current
      (current.zip parent).length
    last.changes = s.changes ++ scan current rest i s.start ∧
      last.totalChangedBytes = s.totalChangedBytes + recorded (scan current rest i s.start) := by
  have hlen : (current.zip parent).length = min current.length parent.length := List.length_zip
  induction rest generalizing i s with
  | nil =>
      have hend := end_of_pairs hrest hi
      rw [← hend]
      exact s.finish_records (by omega)
  | cons p rest ih =>
      obtain ⟨hlt, hnew, hold, hrest⟩ := pair_at hrest
      obtain ⟨hchanges, htotal⟩ := ih (s.step current parent i) hrest hlt
      dsimp only
      rw [List.length_cons, List.range'_succ, List.foldl_cons, hchanges, htotal]
      by_cases hne : current[i]? ≠ parent[i]?
      · -- nothing is collected, and the region is open from here on
        obtain ⟨hc, ht, hstart⟩ := DeltaScan.step_differs (s := s) hne
        have hp : p.1 ≠ p.2 := by
          intro heq
          rw [hnew, hold, heq] at hne
          exact hne rfl
        have hscan : scan current (p :: rest) i s.start = scan current rest (i + 1) (some (s.start.getD i)) := by
          rw [scan.eq_def]
          exact if_pos hp
        rw [hc, ht, hstart, hscan]
        exact ⟨rfl, rfl⟩
      · -- an open region is collected, and the rest is scanned with none open
        have heq := Decidable.not_not.mp hne
        have hp : p.1 = p.2 := by
          rw [hnew, hold] at heq
          exact Option.some.inj heq
        have hle : i ≤ current.length := by omega
        obtain ⟨hc, ht⟩ := s.finish_records hle
        rw [DeltaScan.step_same heq, DeltaScan.finish_start, hc, ht, scan_same s.start hp, recorded_append]
        exact ⟨List.append_assoc _ _ _, Nat.add_assoc _ _ _⟩

end Loop

/-- **The loop collects what the scan finds**, and its running total is the size of what it collected. -/
theorem computeMemoryDeltaLoop_eq (current parent : MemorySnapshot) :
    computeMemoryDeltaLoop current parent = computeMemoryDelta current parent := by
  obtain ⟨hchanges, htotal⟩ := foldl_step current.data parent.data {} rfl (Nat.zero_le _)
  rw [List.drop_zero, ← List.range_eq_range', List.length_zip] at hchanges htotal
  have hstart : DeltaScan.start {} = none := rfl
  rw [hstart] at hchanges htotal
  unfold computeMemoryDeltaLoop computeMemoryDelta
  dsimp only
  rw [hchanges, htotal]
  split
  · next hlonger =>
    rw [List.nil_append, Nat.zero_add]
    congr 1
    have hsum := recorded_append (scan current.data (current.data.zip parent.data) 0 none)
      [⟨parent.data.length, current.data.drop parent.data.length⟩]
    exact hsum.symm
  · rw [List.nil_append, Nat.zero_add]
    rfl

/-! ## Exact and minimal -/

/-- What the bytes a memory has grown by are recorded as. -/
def growth (current parent : MemorySnapshot) : Change UInt8 :=
  ⟨parent.data.length, current.data.drop parent.data.length⟩

/-- The first change lies before the second one, and behind it there are bytes that did not change, unless the second
    one is the growth. -/
def Apart (current parent : MemorySnapshot) (a b : Change UInt8) : Prop :=
  a.address + a.data.length ≤ b.address ∧
    (a.address + a.data.length = b.address → b = growth current parent)

/-- **Memory deltas are exact and minimal.** -/
theorem memoryDelta_exact : ∀ current parent : MemorySnapshot, parent.data.length ≤ current.data.length →
    (applyMemoryDelta parent (computeMemoryDeltaLoop current parent)).data = current.data ∧
      (∀ c ∈ (computeMemoryDeltaLoop current parent).changes, OnlyDiffering current.data parent.data c) ∧
      (computeMemoryDeltaLoop current parent).changes.Pairwise (Apart current parent) ∧
      (computeMemoryDeltaLoop current parent).totalChangedBytes =
        differences (current.data.zip parent.data) + (current.data.length - parent.data.length) := by
  intro current parent hsize
  have hdata := applyMemoryDelta_data current parent
  rw [if_pos hsize] at hdata
  rw [computeMemoryDeltaLoop_eq]
  obtain ⟨hall, hpairs, hsum⟩ := scan_records current.data parent.data none rfl
    (Nat.zero_le _) (fun s hs => nomatch hs)
  rw [List.drop_zero] at hall hpairs hsum
  rw [Option.getD_none, Nat.sub_self, Nat.zero_add] at hsum
  have hapart : (scan current.data (current.data.zip parent.data) 0 none).Pairwise (Apart current parent) :=
    hpairs.imp fun hlt => ⟨hlt.le, fun heq => absurd heq hlt.ne⟩
  refine ⟨hdata, ?_⟩
  unfold computeMemoryDelta
  dsimp only
  split
  · next hlonger =>
    refine ⟨?_, ?_, ?_⟩
    · intro c hc
      rcases List.mem_append.mp hc with hc | hc
      · exact (hall c hc).1
      · obtain rfl := List.mem_singleton.mp hc
        exact onlyDiffering_rest hlonger
    · -- the pairs end where the growth begins
      refine List.pairwise_append.mpr ⟨hapart, List.pairwise_singleton _ _, fun a ha b hb => ?_⟩
      obtain rfl := List.mem_singleton.mp hb
      obtain ⟨-, -, hend⟩ := hall a ha
      rw [List.length_zip, Nat.min_eq_right hsize] at hend
      exact ⟨hend, fun _ => rfl⟩
    · show recorded _ = _
      rw [recorded_append, hsum, recorded_cons]
      show _ + ((current.data.drop parent.data.length).length + 0) = _
      rw [List.length_drop, Nat.add_zero]
  · next hsame =>
    refine ⟨fun c hc => (hall c hc).1, hapart, ?_⟩
    rw [Nat.sub_eq_zero_of_le (Nat.le_of_not_lt hsame)]
    exact hsum

/-- A memory without pages. -/
def ofBytes (data : List UInt8) : MemorySnapshot := ⟨data, OrdMap.empty, false⟩

/-- A byte that changed and one that was added. -/
theorem memoryDelta_exact_grown :
    (ofBytes [0]).data.length ≤ (ofBytes [1, 2]).data.length ∧
      (computeMemoryDeltaLoop (ofBytes [1, 2]) (ofBytes [0])).totalChangedBytes = 2 :=
  ⟨by decide, (memoryDelta_exact (ofBytes [1, 2]) (ofBytes [0]) (by decide)).2.2.2⟩

/-- There the byte that changed and the one that was added are two changes that touch. -/
theorem changes_touch :
    ¬ ∀ current parent : MemorySnapshot, parent.data.length ≤ current.data.length →
      (computeMemoryDeltaLoop current parent).changes.Pairwise
        (fun a b => a.address + a.data.length < b.address) := by
  intro h
  have hpairs := h (ofBytes [1, 2]) (ofBytes [0]) (by decide)
  have hchanges : (computeMemoryDeltaLoop (ofBytes [1, 2]) (ofBytes [0])).changes = [⟨0, [1]⟩, ⟨1, [2]⟩] := by
    decide
  rw [hchanges] at hpairs
  exact absurd hpairs (by decide)

end GuideXOS.Vm
