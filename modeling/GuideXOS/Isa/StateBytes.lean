import GuideXOS.Isa.Checkpoint

/-!
# `StateBytes` — `serialize_state` and `deserialize_state`

The execution state is written as a fixed layout, `StateFields`, with the pending interrupts behind it.
`deserialize_state` reads the layout through a bare pointer: the one check in front compares the size of the data with
what the plugin's own state would take now.

* A reader that is no longer valid stands for a pointer that has left the data.
* An exception is thrown behind the assignments, by the `resize` of the pending interrupts, and turned into `false`.
* The check refuses the bytes of a state with fewer pending interrupts than the plugin has; it does not look at the
  count in the data. `deserializeState_iff` is the exact condition for each half.
-/

namespace GuideXOS.Isa
open Lib Lib.Words Lib.Reader GuideXOS.Core

/-- The fixed part of the layout, as words and flags. -/
structure StateFields where
  gr : Vector UInt64 144
  pr : Vector Bool 64
  br : Vector UInt64 8
  ar : Vector UInt64 128
  ip : UInt64
  cfm : UInt64
  psr : UInt64
  currentSlot : UInt64
  bundleValid : Bool
  predicateGroupSnapshot : Vector Bool 64
  interruptVectorBase : UInt64
  numInterrupts : UInt64

def readStateFields : Reader StateFields := do
  let gr ← array u64 144
  let pr ← array u8Bool 64
  let br ← array u64 8
  let ar ← array u64 128
  let ip ← u64
  let cfm ← u64
  let psr ← u64
  let currentSlot ← u64
  let bundleValid ← u8Bool
  let predicateGroupSnapshot ← array u8Bool 64
  let interruptVectorBase ← u64
  let numInterrupts ← u64
  return { gr, pr, br, ar, ip, cfm, psr, currentSlot, bundleValid, predicateGroupSnapshot, interruptVectorBase,
           numInterrupts }

def putStateFields (f : StateFields) : List UInt8 :=
  [putArray putU64 f.gr, putArray putBool f.pr, putArray putU64 f.br, putArray putU64 f.ar, putU64 f.ip, putU64 f.cfm,
    putU64 f.psr, putU64 f.currentSlot, putBool f.bundleValid, putArray putBool f.predicateGroupSnapshot,
    putU64 f.interruptVectorBase, putU64 f.numInterrupts].flatten

/-- What the fixed part takes. -/
def fixedStateSize : Nat :=
  144 * 8 + (64 + (8 * 8 + (128 * 8 + (8 + (8 + (8 + (8 + (1 + (64 + (8 + 8))))))))))

/-- The most bytes a `std::vector` holds. -/
def maxVectorSize : Nat := 2 ^ 63 - 1

namespace IA64ISAState
variable {I : Type _}

variable (s : IA64ISAState I)

/-- **`getStateSize`.** -/
def getStateSize : Nat := fixedStateSize + s.pendingInterrupts.length

def fields : StateFields where
  gr := Vector.ofFn fun i : Fin 144 => s.cpu.gr.get i
  pr := prCells s.cpu.pr
  br := Vector.ofFn s.cpu.getBR
  ar := Vector.ofFn s.cpu.getAR
  ip := s.cpu.ip
  cfm := s.cpu.cfm
  psr := s.cpu.psr
  currentSlot := UInt64.ofNat s.currentSlot
  bundleValid := s.bundleValid
  predicateGroupSnapshot := s.predicateGroupSnapshot
  interruptVectorBase := s.interruptVectorBase
  numInterrupts := UInt64.ofNat s.pendingInterrupts.length

/-- **`serialize`.** -/
def serialize : List UInt8 := putStateFields s.fields ++ s.pendingInterrupts

def setGRs (g : GRFile) (v : Vector UInt64 144) : GRFile :=
  (List.finRange 144).foldl (fun g (i : Fin 144) => g.set i v[i]) g

def setPRs (g : PRFile) (v : Vector Bool 64) : PRFile :=
  (List.finRange 64).foldl (fun g (i : Fin 64) => g.setPhysical i (getElem v i (fin_lt_64 i))) g

def setBRs (cpu : CPUState) (v : Vector UInt64 8) : CPUState :=
  (List.finRange 8).foldl (fun cpu (i : Fin 8) => cpu.setBR i (getElem v i (fin_lt_8 i))) cpu

def setARs (cpu : CPUState) (v : Vector UInt64 128) : CPUState :=
  (List.finRange 128).foldl (fun cpu (i : Fin 128) => cpu.setAR i (getElem v i (fin_lt_128 i))) cpu

/-- The register accessors called in the order of the source. -/
def assignRegisters (cpu : CPUState) (f : StateFields) : CPUState :=
  let cpu := { cpu with gr := setGRs cpu.gr f.gr }
  let cpu := { cpu with pr := setPRs cpu.pr f.pr }
  let cpu := setARs (setBRs cpu f.br) f.ar
  ((cpu.setIP f.ip).setCFM f.cfm).setPSR f.psr

/-- The state when the fixed part is assigned and the pending interrupts are cleared. -/
def assignFields (f : StateFields) : IA64ISAState I :=
  { s with
    cpu := assignRegisters s.cpu f
    currentSlot := f.currentSlot.toNat
    bundleValid := f.bundleValid
    predicateGroupSnapshot := f.predicateGroupSnapshot
    interruptVectorBase := f.interruptVectorBase
    pendingInterrupts := [] }

/-- How **`deserialize`** ends. -/
inductive Deserialized (I : Type _)
  | readPastTheEnd
  | threw (s : IA64ISAState I)
  | done (s : IA64ISAState I)

/-- **`deserialize`.** -/
def deserialize (t : IA64ISAState I) (data : List UInt8) : Deserialized I :=
  match readStateFields.run (Input.start data) with
  | .error _ => .readPastTheEnd
  | .ok (f, s) =>
      if s.valid = false then .readPastTheEnd
      else if f.numInterrupts = 0 then .done (t.assignFields f)
      else if f.numInterrupts.toNat > maxVectorSize then .threw (t.assignFields f)
      else if f.numInterrupts.toNat > s.remaining then .readPastTheEnd
      else .done { t.assignFields f with
        pendingInterrupts := (data.drop s.offset).take f.numInterrupts.toNat }

end IA64ISAState

namespace IA64ISAPlugin
variable {I : Type _}

/-- **`serialize_state`.** -/
def serializeState (p : IA64ISAPlugin I) : List UInt8 := p.state.serialize

/-- **`deserialize_state`**; `none` when it reads past the end of the data. -/
def deserializeState (p : IA64ISAPlugin I) (data : List UInt8) : Option (Bool × IA64ISAPlugin I) :=
  if data.length < p.state.getStateSize then some (false, p)
  else
    match p.state.deserialize data with
    | .readPastTheEnd => none
    | .threw s => some (false, { p with state := s })
    | .done s => some (true, { p with state := s, cachedInstruction := none })

end IA64ISAPlugin

/-! ## The layout -/

theorem takes_stateFields : Takes readStateFields fixedStateSize :=
  (Takes.u64.array 144).bind fun _ => (Takes.u8Bool.array 64).bind fun _ => (Takes.u64.array 8).bind fun _ =>
    (Takes.u64.array 128).bind fun _ => Takes.u64.bind fun _ => Takes.u64.bind fun _ => Takes.u64.bind fun _ =>
      Takes.u64.bind fun _ => Takes.u8Bool.bind fun _ => (Takes.u8Bool.array 64).bind fun _ => Takes.u64.bind fun _ =>
        Takes.u64.map

variable (f : StateFields)

theorem decodes_stateFields : Decodes readStateFields (putStateFields f) True f :=
  (decodes_array Decodes.u64 _).then <| (decodes_array Decodes.u8Bool _).then <| (decodes_array Decodes.u64 _).then <|
    (decodes_array Decodes.u64 _).then <| (Decodes.u64 _).then <| (Decodes.u64 _).then <| (Decodes.u64 _).then <|
      (Decodes.u64 _).then <| (Decodes.u8Bool _).then <| (decodes_array Decodes.u8Bool _).then <|
        (Decodes.u64 _).then <| (Decodes.u64 _).last

@[simp] theorem length_putStateFields : (putStateFields f).length = fixedStateSize := by
  simp [putStateFields, fixedStateSize, length_putArray length_putU64, length_putArray length_putBool]

@[simp] theorem length_serialize {I : Type _} (s : IA64ISAState I) : s.serialize.length = s.getStateSize := by
  simp [IA64ISAState.serialize, IA64ISAState.getStateSize]

/-! ## What the assignments write is what is serialised -/

section Assign
variable {I : Type _} (cpu : CPUState) (f : StateFields) (v : Vector UInt64 128)

theorem getBR_setBR_self (i : Fin 8) (v : UInt64) : (cpu.setBR i v).getBR i = v := by
  rw [CPUState.getBR, CPUState.setBR, Fin.getElem_fin, Vector.getElem_set_self]

theorem getBR_setBR_ne {i j : Fin 8} (h : i ≠ j) (v : UInt64) : (cpu.setBR i v).getBR j = cpu.getBR j := by
  rw [CPUState.getBR, CPUState.setBR, Fin.getElem_fin, Vector.getElem_set_ne i.isLt j.isLt fun hij => h (Fin.ext hij)]
  rfl

/-- A fold of register writes leaves what none of them touches. -/
theorem foldl_frame {σ ι β : Type} (g : σ → β) (put : σ → ι → σ) (h : ∀ s i, g (put s i) = g s) (is : List ι) (s : σ) :
    g (is.foldl put s) = g s := by
  induction is generalizing s with
  | nil => rfl
  | cons i is ih => rw [List.foldl_cons, ih, h]

@[simp] theorem gr_setBRs (v : Vector UInt64 8) : (IA64ISAState.setBRs cpu v).gr = cpu.gr :=
  foldl_frame CPUState.gr (fun cpu (i : Fin 8) => cpu.setBR i v[i]) (fun _ _ => rfl) _ cpu

@[simp] theorem pr_setBRs (v : Vector UInt64 8) : (IA64ISAState.setBRs cpu v).pr = cpu.pr :=
  foldl_frame CPUState.pr (fun cpu (i : Fin 8) => cpu.setBR i v[i]) (fun _ _ => rfl) _ cpu

@[simp] theorem gr_setARs : (IA64ISAState.setARs cpu v).gr = cpu.gr :=
  foldl_frame CPUState.gr (fun cpu (i : Fin 128) => cpu.setAR i v[i]) (fun _ _ => rfl) _ cpu

@[simp] theorem pr_setARs : (IA64ISAState.setARs cpu v).pr = cpu.pr :=
  foldl_frame CPUState.pr (fun cpu (i : Fin 128) => cpu.setAR i v[i]) (fun _ _ => rfl) _ cpu

@[simp] theorem br_setARs : (IA64ISAState.setARs cpu v).br = cpu.br :=
  foldl_frame CPUState.br (fun cpu (i : Fin 128) => cpu.setAR i v[i]) (fun _ _ => rfl) _ cpu

theorem getBR_setBRs (v : Vector UInt64 8) (i : Fin 8) :
    (IA64ISAState.setBRs cpu v).getBR i = getElem v i (fin_lt_8 i) := by
  refine get_fill (g := CPUState.getBR) (v := fun i : Fin 8 => v[i]) ?_ ?_ (List.mem_finRange i) _
  · intro c j
    exact getBR_setBR_self c j _
  · intro c j k hjk
    exact getBR_setBR_ne c hjk _

theorem getAR_setARs (i : Fin 128) :
    (IA64ISAState.setARs cpu v).getAR i = getElem v i (fin_lt_128 i) := by
  refine get_fill (g := CPUState.getAR) (v := fun i : Fin 128 => v[i]) ?_ ?_ (List.mem_finRange i) _
  · intro c j
    exact CPUState.getAR_setAR_self c j _
  · intro c j k hjk
    exact CPUState.getAR_setAR_ne hjk c _

/-- GR0 is fixed in both files. -/
theorem get_setGRs (g h : GRFile) (i : Fin 144) :
    (IA64ISAState.setGRs g (Vector.ofFn fun i : Fin 144 => h.get i)).get i = h.get i := by
  refine get_fill (g := fun (g : GRFile) (i : Fin 144) => g.get i) (v := fun i : Fin 144 => h.get i) ?_ ?_
    (List.mem_finRange i) _
  · intro g j
    by_cases h0 : j.val = 0
    · simp [h0]
    · simp [GRFile.get_set_self h0 j.isLt]
  · intro g j k hjk
    exact GRFile.get_set_ne (fun h => hjk (Fin.ext h)) _

/-- So is PR0. -/
theorem setPRs_prCells (g h : PRFile) : IA64ISAState.setPRs g (prCells h) = h := by
  refine PRFile.ext fun i => ?_
  refine get_fill (g := PRFile.getPhysical) ?_ ?_ (List.mem_finRange i) _
  · intro g j
    have hcell : (prCells h)[j] = h.getPhysical j := by simp [prCells]
    rw [hcell]
    exact PRFile.getPhysical_setPhysical_self g h j
  · intro g j k hjk
    exact PRFile.getPhysical_setPhysical_ne hjk g _

/-- The special registers come last, and touch no file. -/
theorem assignRegisters_eq :
    ∃ c, IA64ISAState.assignRegisters cpu f = ((c.setIP f.ip).setCFM f.cfm).setPSR f.psr ∧
      c = IA64ISAState.setARs (IA64ISAState.setBRs { cpu with
        gr := IA64ISAState.setGRs cpu.gr f.gr
        pr := IA64ISAState.setPRs cpu.pr f.pr } f.br) f.ar := ⟨_, rfl, rfl⟩

/-- **The fields of a state, assigned to any other, are read back.** -/
theorem fields_assignFields (s t : IA64ISAState I) :
    { (t.assignFields s.fields).fields with numInterrupts := s.fields.numInterrupts } = s.fields := by
  obtain ⟨c, hcpu, hc⟩ := assignRegisters_eq t.cpu s.fields
  have hgr : ∀ i : Fin 144, c.gr.get i = s.cpu.gr.get i := by
    intro i
    have hfile : s.fields.gr = Vector.ofFn fun i : Fin 144 => s.cpu.gr.get i := rfl
    rw [hc, gr_setARs, gr_setBRs, hfile, get_setGRs]
  have hpr : c.pr = s.cpu.pr := by
    have hfile : s.fields.pr = prCells s.cpu.pr := rfl
    rw [hc, pr_setARs, pr_setBRs, hfile, setPRs_prCells]
  have hbr : ∀ i, c.getBR i = s.cpu.getBR i := by
    intro i
    have hfile : s.fields.br[i] = s.cpu.getBR i := by simp [IA64ISAState.fields]
    rw [CPUState.getBR, hc, br_setARs, ← CPUState.getBR, getBR_setBRs, hfile]
  have har : ∀ i, c.getAR i = s.cpu.getAR i := by
    intro i
    have hfile : s.fields.ar[i] = s.cpu.getAR i := by
      rw [IA64ISAState.fields, Fin.getElem_fin, Vector.getElem_ofFn]
    rw [hc, getAR_setARs, hfile]
  have hslot : UInt64.ofNat (UInt64.ofNat s.currentSlot).toNat = UInt64.ofNat s.currentSlot := UInt64.ofNat_toNat
  clear hc
  unfold IA64ISAState.assignFields
  rw [hcpu]
  simp only [IA64ISAState.fields, StateFields.mk.injEq, hslot, and_true]
  exact ⟨congrArg Vector.ofFn (funext hgr), congrArg prCells hpr, congrArg Vector.ofFn (funext hbr),
    congrArg Vector.ofFn (funext har), rfl, rfl, rfl⟩

end Assign

-- from here on the loops over the files are not to be evaluated
attribute [irreducible] IA64ISAState.assignRegisters

/-! ## What a byte string holds -/

/-- The fixed part is there, and these are its fields. -/
def HoldsFields (data : List UInt8) (f : StateFields) : Prop :=
  ∃ s, readStateFields.run (Input.start data) = .ok (f, s) ∧ s.valid = true

theorem holdsFields_of_length {data : List UInt8} (h : fixedStateSize ≤ data.length) : ∃ f, HoldsFields data f := by
  obtain ⟨f, s, hrun, -, hvalid, -⟩ := takes_stateFields.start data
  exact ⟨f, s, hrun, hvalid.mpr h⟩

theorem holdsFields_put (rest : List UInt8) : HoldsFields (putStateFields f ++ rest) f := by
  have hat : (Input.start (putStateFields f ++ rest)).At (putStateFields f) := ⟨rfl, List.prefix_append _ _⟩
  have hlen : (putStateFields f).length < 2 ^ 64 := by
    rw [length_putStateFields]
    decide
  exact ⟨_, ((decodes_stateFields f) hlen).1 trivial _ hat, rfl⟩

theorem holdsFields_serialize {I : Type _} (s : IA64ISAState I) : HoldsFields s.serialize s.fields :=
  holdsFields_put s.fields s.pendingInterrupts

section Deserialize
variable {I : Type _} {data : List UInt8} {f : StateFields}

/-- **`deserialize`** of data with a whole fixed part: the count decides. -/
theorem deserialize_of_holdsFields (t : IA64ISAState I) (h : HoldsFields data f) :
    t.deserialize data =
      if f.numInterrupts = 0 then .done (t.assignFields f)
      else if f.numInterrupts.toNat > maxVectorSize then .threw (t.assignFields f)
      else if f.numInterrupts.toNat > data.length - fixedStateSize then .readPastTheEnd
      else .done { t.assignFields f with
        pendingInterrupts := (data.drop fixedStateSize).take f.numInterrupts.toNat } := by
  obtain ⟨s, hrun, hvalid⟩ := h
  obtain ⟨f', s', hrun', hdata, -, hoffset⟩ := takes_stateFields.start data
  obtain ⟨rfl, rfl⟩ := Prod.mk.inj (Except.ok.inj (hrun.symm.trans hrun'))
  unfold IA64ISAState.deserialize
  rw [hrun]
  dsimp only
  rw [if_neg (by simp [hvalid]), hoffset hvalid, Input.remaining, if_pos hvalid, hdata, hoffset hvalid]

/-- **The round trip.** The bytes of a state are accepted exactly by a plugin that has no more interrupts pending, and
    then written again. -/
theorem deserializeState_serializeState_iff (s t : IA64ISAPlugin I)
    (hs : s.state.pendingInterrupts.length ≤ maxVectorSize) :
    (∃ t', t.deserializeState s.serializeState = some (true, t') ∧ t'.serializeState = s.serializeState) ↔
      t.state.pendingInterrupts.length ≤ s.state.pendingInterrupts.length := by
  have hsize : s.serializeState.length < t.state.getStateSize ↔
      s.state.pendingInterrupts.length < t.state.pendingInterrupts.length := by
    simp [IA64ISAPlugin.serializeState, IA64ISAState.getStateSize]
  constructor
  · rintro ⟨t', ht', -⟩
    by_contra hgt
    rw [IA64ISAPlugin.deserializeState, if_pos (hsize.mpr (Nat.not_le.mp hgt))] at ht'
    cases ht'
  · intro hle
    have hcount : s.state.fields.numInterrupts.toNat = s.state.pendingInterrupts.length :=
      UInt64.toNat_ofNat_of_lt' (lt_of_le_of_lt hs (by decide))
    have hdrop : s.state.serialize.drop fixedStateSize = s.state.pendingInterrupts := by
      rw [← length_putStateFields s.state.fields, IA64ISAState.serialize, List.drop_left]
    have hpending : ∀ u : IA64ISAState I, u = { t.state.assignFields s.state.fields with
        pendingInterrupts := s.state.pendingInterrupts } → u.serialize = s.state.serialize := by
      rintro u rfl
      exact congrArg (fun f => putStateFields f ++ s.state.pendingInterrupts) (fields_assignFields s.state t.state)
    have hdone : t.state.deserialize s.state.serialize = .done { t.state.assignFields s.state.fields with
        pendingInterrupts := s.state.pendingInterrupts } := by
      rw [deserialize_of_holdsFields t.state (holdsFields_serialize s.state)]
      split
      · next hzero =>
        have hnil : s.state.pendingInterrupts = [] := by
          rw [← List.length_eq_zero_iff, ← hcount, hzero]
          rfl
        rw [hnil]
        rfl
      · rw [if_neg (by omega), hcount, if_neg (by simp [IA64ISAState.getStateSize]), hdrop, List.take_length]
    refine ⟨{ t with
      state := { t.state.assignFields s.state.fields with pendingInterrupts := s.state.pendingInterrupts }
      cachedInstruction := none }, ?_, hpending _ rfl⟩
    rw [IA64ISAPlugin.deserializeState, if_neg (by rw [hsize]; omega), IA64ISAPlugin.serializeState, hdone]

/-- The data is never read past its end, and a plugin that answers `false` is as it was. -/
def DeserializesSafely (t : IA64ISAPlugin I) (data : List UInt8) : Prop :=
  ∃ ok t', t.deserializeState data = some (ok, t') ∧ (ok = false → t' = t)

/-- **Safety.** Data is safe exactly when it is refused for its size, or its own count is covered by what follows; or
    when the count is too large for any vector and everything assigned before was so already. -/
theorem deserializesSafely_iff (t : IA64ISAPlugin I) (data : List UInt8) :
    DeserializesSafely t data ↔
      data.length < t.state.getStateSize ∨
        ∃ f, HoldsFields data f ∧
          ((f.numInterrupts.toNat ≤ data.length - fixedStateSize ∧ f.numInterrupts.toNat ≤ maxVectorSize) ∨
            (f.numInterrupts.toNat > maxVectorSize ∧ t.state.assignFields f = t.state)) := by
  by_cases hshort : data.length < t.state.getStateSize
  · refine iff_of_true ⟨false, t, ?_, fun _ => rfl⟩ (.inl hshort)
    rw [IA64ISAPlugin.deserializeState, if_pos hshort]
  · have hlength : fixedStateSize ≤ data.length := by
      unfold IA64ISAState.getStateSize at hshort
      omega
    obtain ⟨f, hf⟩ := holdsFields_of_length hlength
    have hunique : ∀ f', HoldsFields data f' → f' = f := by
      rintro f' ⟨s', hrun', -⟩
      obtain ⟨s, hrun, -⟩ := hf
      exact (Prod.mk.inj (Except.ok.inj (hrun'.symm.trans hrun))).1
    have hcondition : (data.length < t.state.getStateSize ∨ ∃ f', HoldsFields data f' ∧
        ((f'.numInterrupts.toNat ≤ data.length - fixedStateSize ∧ f'.numInterrupts.toNat ≤ maxVectorSize) ∨
          (f'.numInterrupts.toNat > maxVectorSize ∧ t.state.assignFields f' = t.state))) ↔
        ((f.numInterrupts.toNat ≤ data.length - fixedStateSize ∧ f.numInterrupts.toNat ≤ maxVectorSize) ∨
          (f.numInterrupts.toNat > maxVectorSize ∧ t.state.assignFields f = t.state)) := by
      constructor
      · rintro (h | ⟨f', hf', h⟩)
        · exact absurd h hshort
        · rwa [hunique f' hf'] at h
      · intro h
        exact .inr ⟨f, hf, h⟩
    rw [hcondition, DeserializesSafely, IA64ISAPlugin.deserializeState, if_neg hshort, deserialize_of_holdsFields _ hf]
    by_cases hzero : f.numInterrupts = 0
    · rw [if_pos hzero]
      refine iff_of_true ⟨true, _, rfl, by simp⟩ (.inl ?_)
      simp [hzero]
    · rw [if_neg hzero]
      by_cases hmax : f.numInterrupts.toNat > maxVectorSize
      · rw [if_pos hmax]
        constructor
        · rintro ⟨ok, t', hsome, hkept⟩
          obtain ⟨rfl, rfl⟩ := Prod.mk.inj (Option.some.inj hsome)
          exact .inr ⟨hmax, congrArg IA64ISAPlugin.state (hkept rfl)⟩
        · rintro (⟨-, hle⟩ | ⟨-, hsame⟩)
          · exact absurd hmax (Nat.not_lt.mpr hle)
          · refine ⟨false, _, rfl, ?_⟩
            intro _
            rw [hsame]
      · rw [if_neg hmax]
        by_cases hpast : f.numInterrupts.toNat > data.length - fixedStateSize
        · rw [if_pos hpast]
          refine iff_of_false ?_ ?_
          · rintro ⟨ok, t', hsome, -⟩
            cases hsome
          · rintro (⟨hle, -⟩ | ⟨hgt, -⟩)
            · exact absurd hpast (Nat.not_lt.mpr hle)
            · exact absurd hgt hmax
        · rw [if_neg hpast]
          exact iff_of_true ⟨true, _, rfl, by simp⟩ (.inl ⟨Nat.not_lt.mp hpast, Nat.not_lt.mp hmax⟩)

/-- **State serialisation.** What the plugin accepts of its own bytes, and which bytes it handles safely. -/
theorem deserializeState_iff (s t : IA64ISAPlugin I) (hs : s.state.pendingInterrupts.length ≤ maxVectorSize) :
    ((∃ t', t.deserializeState s.serializeState = some (true, t') ∧ t'.serializeState = s.serializeState) ↔
        t.state.pendingInterrupts.length ≤ s.state.pendingInterrupts.length) ∧
      ∀ data, DeserializesSafely t data ↔
        data.length < t.state.getStateSize ∨
          ∃ f, HoldsFields data f ∧
            ((f.numInterrupts.toNat ≤ data.length - fixedStateSize ∧ f.numInterrupts.toNat ≤ maxVectorSize) ∨
              (f.numInterrupts.toNat > maxVectorSize ∧ t.state.assignFields f = t.state)) :=
  ⟨deserializeState_serializeState_iff s t hs, deserializesSafely_iff t⟩

end Deserialize

/-- A plugin just constructed, and one with an interrupt pending. -/
def idlePlugin : IA64ISAPlugin Unit := .construct resetEfiHandoffLayoutGlobals
def interruptedPlugin : IA64ISAPlugin Unit := idlePlugin.setPending [0x20]

theorem deserializeState_idle_interrupted :
    ∃ t', idlePlugin.deserializeState interruptedPlugin.serializeState = some (true, t') ∧
      t'.serializeState = interruptedPlugin.serializeState :=
  (deserializeState_iff interruptedPlugin idlePlugin (by decide)).1.mpr (by decide)

/-- The bytes of an idle plugin are refused while an interrupt is pending, and a count without its bytes is followed past
    the end of the data. -/
theorem deserializeState_not_roundTrip :
    (¬ ∀ s t : IA64ISAPlugin Unit, s.state.pendingInterrupts.length ≤ maxVectorSize →
        ∃ t', t.deserializeState s.serializeState = some (true, t') ∧ t'.serializeState = s.serializeState) ∧
      ¬ ∀ (t : IA64ISAPlugin Unit) (data : List UInt8), DeserializesSafely t data := by
  refine ⟨?_, ?_⟩
  · intro h
    have hle := (deserializeState_serializeState_iff idlePlugin interruptedPlugin (by decide)).mp
      (h idlePlugin interruptedPlugin (by decide))
    exact absurd hle (by decide)
  · intro h
    let f : StateFields := { idlePlugin.state.fields with numInterrupts := 1 }
    have hlen : (putStateFields f).length = fixedStateSize := length_putStateFields f
    have hholds : HoldsFields (putStateFields f) f := by
      have hput := holdsFields_put f []
      rwa [List.append_nil] at hput
    rcases (deserializesSafely_iff idlePlugin (putStateFields f)).mp (h _ _) with hshort | ⟨f', ⟨s', hrun', -⟩, hcount⟩
    · have hsize : idlePlugin.state.getStateSize = fixedStateSize := rfl
      rw [hlen, hsize] at hshort
      exact absurd hshort (Nat.lt_irrefl _)
    · obtain ⟨s, hrun, -⟩ := hholds
      obtain rfl : f' = f := (Prod.mk.inj (Except.ok.inj (hrun'.symm.trans hrun))).1
      have hone : f.numInterrupts.toNat = 1 := rfl
      rw [hlen, Nat.sub_self, hone] at hcount
      rcases hcount with ⟨hle, -⟩ | ⟨hgt, -⟩
      · exact absurd hle (by decide)
      · exact absurd hgt (by decide)

end GuideXOS.Isa
