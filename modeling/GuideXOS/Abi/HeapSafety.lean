import GuideXOS.Abi.HeapBlocks
import GuideXOS.Lib.Runs

/-!
# `HeapSafety` — what the guest holds

A guest that uses the heap holds pointers, each for a number of bytes it asked for. `HeapSafe` is what it may rely
on in a state, `Answered` what it may rely on of one call; both hold along every run in which no request wraps
around (`heap_run`). The guest may store to memory between its calls.
-/

namespace GuideXOS.Abi
open Core Lib.Words Lib.Merging Lib.Extents Lib.Extents.Extent Lib.Runs LibCBridge

/-! ## Clearing and copying -/

section Bytes
variable {M : Type _} [IMemory M] [PlainMemory M] {n : Nat}

/-- Different offsets from an address are different addresses. -/
theorem add_ofNat_inj {a : UInt64} {i j : Nat} (hi : i < 2 ^ 64) (hj : j < 2 ^ 64)
    (h : a + UInt64.ofNat i = a + UInt64.ofNat j) : i = j := by
  have := congrArg UInt64.toNat ((UInt64.add_right_inj a).mp h)
  rwa [UInt64.toNat_ofNat_of_lt' hi, UInt64.toNat_ofNat_of_lt' hj] at this

/-- An address outside a range is not its first and lies outside the rest. -/
theorem ne_range {dest x : UInt64} (hx : ∀ i < n + 1, x ≠ dest + UInt64.ofNat i) :
    x ≠ dest ∧ ∀ i < n, x ≠ dest + 1 + UInt64.ofNat i := by
  refine ⟨by simpa using hx 0 (Nat.succ_pos n), fun i hi => ?_⟩
  rw [Lib.Stretches.add_one_add]
  exact hx (i + 1) (Nat.succ_lt_succ hi)

/-- The first address of a range is not in the rest. -/
theorem first_ne_rest (hn : n + 1 ≤ 2 ^ 64) (dest : UInt64) :
    ∀ j < n, dest + UInt64.ofNat 0 ≠ dest + 1 + UInt64.ofNat j := by
  intro j hj hsame
  rw [Lib.Stretches.add_one_add] at hsame
  exact absurd (add_ofNat_inj (by decide) (by omega) hsame) (Nat.succ_ne_zero j).symm

theorem memset_other {m : M} {dest x : UInt64} {b : UInt8} (hx : ∀ i < n, x ≠ dest + UInt64.ofNat i) :
    readByte (memset m dest b n).2 x = readByte m x := by
  induction n generalizing m dest with
  | zero => rfl
  | succ n ih =>
      rw [memset]
      cases hwrite : IMemory.write m dest [b] with
      | error e => rfl
      | ok m' =>
          exact (ih (ne_range hx).2).trans (PlainMemory.readByte_other hwrite (ne_range hx).1)

/-- **Clearing** sets every byte of the range. -/
theorem memset_filled (hn : n ≤ 2 ^ 64) {m : M} {dest : UInt64} {b : UInt8} (hok : (memset m dest b n).1 = .ok ()) :
    ∀ i < n, readByte (memset m dest b n).2 (dest + UInt64.ofNat i) = some b := by
  induction n generalizing m dest with
  | zero => exact fun i hi => absurd hi (Nat.not_lt_zero i)
  | succ n ih =>
      rw [memset] at hok ⊢
      cases hwrite : IMemory.write m dest [b] with
      | error e =>
          rw [hwrite] at hok
          cases hok
      | ok m' =>
          rw [hwrite] at hok
          intro i hi
          cases i with
          | zero =>
              refine (memset_other (first_ne_rest hn dest)).trans ?_
              rw [PlainMemory.readByte_write hwrite]
              exact if_pos (UInt64.add_zero dest)
          | succ i =>
              rw [← Lib.Stretches.add_one_add]
              exact ih (by omega) hok i (Nat.lt_of_succ_lt_succ hi)

theorem memcpy_other {m : M} {dest src x : UInt64} (hx : ∀ i < n, x ≠ dest + UInt64.ofNat i) :
    readByte (memcpy m dest src n).2 x = readByte m x := by
  induction n generalizing m dest src with
  | zero => rfl
  | succ n ih =>
      rw [memcpy]
      cases hread : IMemory.read m src 1 with
      | error e => rfl
      | ok bytes =>
          obtain ⟨b, rfl⟩ := PlainMemory.read_byte hread
          dsimp only
          cases hwrite : IMemory.write m dest [b] with
          | error e => rfl
          | ok m' =>
              exact (ih (ne_range hx).2).trans (PlainMemory.readByte_other hwrite (ne_range hx).1)

/-- **Copying** between ranges that share no address. -/
theorem memcpy_copied (hn : n ≤ 2 ^ 64) {m : M} {dest src : UInt64}
    (hapart : ∀ i < n, ∀ j < n, src + UInt64.ofNat i ≠ dest + UInt64.ofNat j)
    (hok : (memcpy m dest src n).1 = .ok ()) :
    ∀ i < n, readByte (memcpy m dest src n).2 (dest + UInt64.ofNat i) = readByte m (src + UInt64.ofNat i) := by
  induction n generalizing m dest src with
  | zero => exact fun i hi => absurd hi (Nat.not_lt_zero i)
  | succ n ih =>
      rw [memcpy] at hok ⊢
      cases hread : IMemory.read m src 1 with
      | error e =>
          rw [hread] at hok
          cases hok
      | ok bytes =>
          obtain ⟨b, rfl⟩ := PlainMemory.read_byte hread
          rw [hread] at hok
          dsimp only at hok ⊢
          cases hwrite : IMemory.write m dest [b] with
          | error e =>
              rw [hwrite] at hok
              cases hok
          | ok m' =>
              rw [hwrite] at hok
              intro i hi
              cases i with
              | zero =>
                  have hsrc : readByte m (src + UInt64.ofNat 0) = some b := by
                    rw [show src + UInt64.ofNat 0 = src from UInt64.add_zero src]
                    exact PlainMemory.readByte_of_read hread
                  refine (memcpy_other (first_ne_rest hn dest)).trans ?_
                  rw [hsrc, PlainMemory.readByte_write hwrite]
                  exact if_pos (UInt64.add_zero dest)
              | succ i =>
                  have hapart' : ∀ i < n, ∀ j < n, src + 1 + UInt64.ofNat i ≠ dest + 1 + UInt64.ofNat j := by
                    intro i hi j hj
                    rw [Lib.Stretches.add_one_add, Lib.Stretches.add_one_add]
                    exact hapart (i + 1) (Nat.succ_lt_succ hi) (j + 1) (Nat.succ_lt_succ hj)
                  have hkept : src + UInt64.ofNat (i + 1) ≠ dest := by
                    have := hapart (i + 1) hi 0 (Nat.succ_pos n)
                    rwa [show dest + UInt64.ofNat 0 = dest from UInt64.add_zero dest] at this
                  rw [← Lib.Stretches.add_one_add dest]
                  refine (ih (by omega) hapart' hok i (Nat.lt_of_succ_lt_succ hi)).trans ?_
                  rw [Lib.Stretches.add_one_add]
                  exact PlainMemory.readByte_other hwrite hkept

end Bytes

/-! ## The guest -/

/-- A pointer the guest holds, and what it asked for. -/
structure Allocation where
  address : UInt64
  requested : Nat
  deriving DecidableEq

structure Guest (M : Type _) where
  bridge : LibCBridge
  memory : M
  live : List Allocation

inductive HeapCall
  | malloc (size : UInt64)
  | calloc (nmemb size : UInt64)
  | realloc (ptr size : UInt64)
  | free (ptr : UInt64)
  /-- not a call: a store of the guest itself -/
  | store (address : UInt64) (byte : UInt8)
  deriving DecidableEq

namespace HeapCall

/-- The bytes a call asks for, as a number. -/
def requested : HeapCall → Nat
  | malloc size => size.toNat
  | calloc nmemb size => nmemb.toNat * size.toNat
  | realloc _ size => size.toNat
  | free _ | store _ _ => 0

/-- Whether a call that returned `p` leaves the guest a pointer it held. -/
def keeps (p : UInt64) (a : Allocation) : HeapCall → Bool
  | realloc ptr size => ¬ (a.address = ptr ∧ (size = 0 ∨ p ≠ 0))
  | free ptr => a.address ≠ ptr
  | malloc _ | calloc _ _ | store _ _ => true

section Perform
variable {M : Type _} [IMemory M]

def perform (g : Guest M) : HeapCall → Outcome M
  | malloc size => ⟨.ok (g.bridge.malloc size).1, (g.bridge.malloc size).2, g.memory⟩
  | calloc nmemb size => g.bridge.calloc g.memory nmemb size
  | realloc ptr size => g.bridge.realloc g.memory ptr size
  | free ptr => ⟨.ok 0, g.bridge.free ptr, g.memory⟩
  | store address byte =>
      match IMemory.write g.memory address [byte] with
      | .error e => ⟨.error e, g.bridge, g.memory⟩
      | .ok memory => ⟨.ok 0, g.bridge, memory⟩

/-- What the guest holds after a call that returned. -/
def held (live : List Allocation) (call : HeapCall) : Except String UInt64 → List Allocation
  | .error _ => live
  | .ok p => (if p = 0 then [] else [⟨p, call.requested⟩]) ++ live.filter fun a => call.keeps p a

def step (g : Guest M) (call : HeapCall) : Guest M :=
  let outcome := perform g call
  ⟨outcome.bridge, outcome.memory, held g.live call outcome.returned⟩

/-- **What a call may be asked.** No size that wraps around when it is rounded or multiplied, and none that takes the
    heap pointer past the last address. -/
def Careful (g : Guest M) : HeapCall → Prop
  | malloc size => size = 0 ∨ Fits g.bridge size
  | calloc nmemb size => nmemb * size = 0 ∨ (nmemb.toNat * size.toNat < 2 ^ 64 ∧ Fits g.bridge (nmemb * size))
  | realloc ptr size => size = 0 ∨
      if ptr = 0 then Fits g.bridge size
      else ∀ b ∈ g.bridge.allocations.find? (owns ptr),
        size.toNat + 15 < 2 ^ 64 ∧ (alignedSize size ≤ b.size ∨ Fits g.bridge size)
  | free _ | store _ _ => True

instance (g : Guest M) (call : HeapCall) : Decidable (Careful g call) :=
  match call with
  | malloc _ => inferInstanceAs (Decidable (_ ∨ _))
  | calloc _ _ => inferInstanceAs (Decidable (_ ∨ (_ ∧ _)))
  | realloc ptr size => inferInstanceAs (Decidable (size = 0 ∨ if ptr = 0 then Fits g.bridge size else
      ∀ b ∈ g.bridge.allocations.find? (owns ptr),
        size.toNat + 15 < 2 ^ 64 ∧ (alignedSize size ≤ b.size ∨ Fits g.bridge size)))
  | free _ | store _ _ => .isTrue trivial

/-- **What the guest may rely on of one call.** Blocks in use keep their bytes, `Calloc` clears, `Realloc` copies. -/
structure Answered (g : Guest M) (call : HeapCall) : Prop where
  others : (∀ address byte, call ≠ store address byte) → ∀ b, InUse g.bridge b → ∀ i < b.size.toNat,
    readByte (perform g call).memory (b.address + UInt64.ofNat i) = readByte g.memory (b.address + UInt64.ofNat i)
  cleared : ∀ nmemb size p, call = calloc nmemb size → (perform g call).returned = .ok p → p ≠ 0 →
    ∀ i < nmemb.toNat * size.toNat, readByte (perform g call).memory (p + UInt64.ofNat i) = some 0
  copied : ∀ ptr size p, call = realloc ptr size → (perform g call).returned = .ok p → p ≠ 0 →
    ∀ a ∈ g.live, a.address = ptr → ∀ i < min a.requested size.toNat,
      readByte (perform g call).memory (p + UInt64.ofNat i) = readByte g.memory (ptr + UInt64.ofNat i)

end Perform

end HeapCall

open HeapCall

/-- **Heap safety.** Every pointer the guest holds stands for a block in use, at least as large as requested; these
    blocks are aligned, inside the heap and pairwise disjoint, and no two pointers stand for the same one. -/
structure HeapSafe {M : Type _} (g : Guest M) : Prop where
  block : ∀ a ∈ g.live, ∃ b, InUse g.bridge b ∧ b.address = a.address ∧ a.requested ≤ b.size.toNat
  aligned : ∀ b, InUse g.bridge b → b.address.toNat % LIBC_MALLOC_ALIGNMENT.toNat = 0
  inside : ∀ b, InUse g.bridge b →
    g.bridge.heapStart.toNat ≤ (extentOf b).start ∧ (extentOf b).stop ≤ g.bridge.heapEnd.toNat
  disjoint : ∀ b c, InUse g.bridge b → InUse g.bridge c → b ≠ c → Apart (extentOf b) (extentOf c)
  distinct : (g.live.map Allocation.address).Nodup

/-- What every call keeps. -/
structure HeapSound {M : Type _} (g : Guest M) : Prop where
  table : TableSound g.bridge
  block : ∀ a ∈ g.live, ∃ b, InUse g.bridge b ∧ b.address = a.address ∧ a.requested ≤ b.size.toNat
  distinct : (g.live.map Allocation.address).Nodup

theorem HeapSound.safe {M : Type _} {g : Guest M} (h : HeapSound g) : HeapSafe g where
  block := h.block
  aligned b hb := (h.table.mem b hb.1).aligned
  inside b hb := ⟨(h.table.mem b hb.1).start, Nat.le_trans (h.table.mem b hb.1).stop h.table.le_end⟩
  disjoint _ _ hb hc := h.table.apart hb.1 hc.1
  distinct := h.distinct

/-! ## What a call does to what the guest holds -/

section Held
variable {M : Type _} {g : Guest M} {bridge' : LibCBridge} {live : List Allocation} {size : UInt64}
  {taken : LibCAllocBlock}

/-- A block that is taken starts where no block in use does. -/
theorem LibCBridge.Taken.address_ne {bridge : LibCBridge} {b : LibCAllocBlock}
    (ht : Taken bridge bridge' size taken) (hb : InUse bridge b) : b.address ≠ taken.address := by
  intro hsame
  have htaken := (ht.inUse taken).mpr (.inr rfl)
  have hkept := (ht.inUse b).mpr (.inl hb)
  have heq := ht.sound.eq_of_address hkept.1 htaken.1 hsame
  subst heq
  refine ht.apart b hb b.address.toNat ⟨⟨Nat.le_refl _, ?_⟩, ⟨Nat.le_refl _, ?_⟩⟩
  all_goals exact Nat.lt_add_of_pos_right (ht.sound.mem b hkept.1).pos

theorem LibCBridge.Taken.address_pos {bridge : LibCBridge} (ht : Taken bridge bridge' size taken) :
    taken.address ≠ 0 := by
  intro hzero
  have hstart := (ht.sound.mem taken ((ht.inUse taken).mpr (.inr rfl)).1).start
  have hpos := ht.sound.start_pos
  simp only [extentOf, hzero, UInt64.toNat_zero] at hstart
  omega

theorem HeapSound.gain (h : HeapSound g) (ht : Taken g.bridge bridge' size taken) {requested : Nat}
    (hle : requested ≤ taken.size.toNat) (memory : M) :
    HeapSound (⟨bridge', memory, ⟨taken.address, requested⟩ :: g.live⟩ : Guest M) := by
  refine ⟨ht.sound, List.forall_mem_cons.mpr ⟨⟨taken, (ht.inUse taken).mpr (.inr rfl), rfl, hle⟩, ?_⟩, ?_⟩
  · intro a ha
    obtain ⟨b, hb, haddress, hsize⟩ := h.block a ha
    exact ⟨b, (ht.inUse b).mpr (.inl hb), haddress, hsize⟩
  · refine List.nodup_cons.mpr ⟨fun hmem => ?_, h.distinct⟩
    obtain ⟨a, ha, haddress⟩ := List.mem_map.mp hmem
    obtain ⟨b, hb, hb', -⟩ := h.block a ha
    exact ht.address_ne hb (hb'.trans haddress)

theorem HeapSound.lose (h : HeapSound g) {ptr : UInt64} (hr : Released g.bridge bridge' ptr) (memory : M) :
    HeapSound (⟨bridge', memory, g.live.filter fun a => a.address ≠ ptr⟩ : Guest M) := by
  refine ⟨hr.sound, fun a ha => ?_, h.distinct.sublist (List.filter_sublist.map _)⟩
  obtain ⟨ha, hne⟩ := List.mem_filter.mp ha
  obtain ⟨b, hb, haddress, hsize⟩ := h.block a ha
  exact ⟨b, (hr.inUse b).mpr ⟨hb, fun hptr => of_decide_eq_true hne (haddress.symm.trans hptr)⟩, haddress, hsize⟩

/-- The null pointer is not held. -/
theorem HeapSound.address_ne_zero (h : HeapSound g) {a : Allocation} (ha : a ∈ g.live) : a.address ≠ 0 := by
  intro hzero
  obtain ⟨b, hb, haddress, -⟩ := h.block a ha
  have hstart := (h.table.mem b hb.1).start
  have hpos := h.table.start_pos
  simp only [extentOf, haddress, hzero, UInt64.toNat_zero] at hstart
  omega

/-- A call that fails, or only moves memory. -/
theorem HeapSound.same (h : HeapSound g) (memory : M) : HeapSound (⟨g.bridge, memory, g.live⟩ : Guest M) :=
  ⟨h.table, h.block, h.distinct⟩

theorem held_zero {call : HeapCall} (hkeeps : ∀ a ∈ live, call.keeps 0 a = true) : held live call (.ok 0) = live := by
  rw [held, if_pos rfl, List.nil_append]
  exact List.filter_eq_self.mpr hkeeps

theorem held_of_ne {call : HeapCall} {p : UInt64} (hp : p ≠ 0) :
    held live call (.ok p) = ⟨p, call.requested⟩ :: live.filter fun a => call.keeps p a := by
  rw [held, if_neg hp]
  rfl

/-- A pointer is gained and none is lost. -/
theorem held_gain {call : HeapCall} {p : UInt64} (hp : p ≠ 0) (hkeeps : ∀ a ∈ live, call.keeps p a = true) :
    held live call (.ok p) = ⟨p, call.requested⟩ :: live := by
  rw [held_of_ne hp, List.filter_eq_self.mpr hkeeps]

/-- What a pointer stands for, as the table finds it. -/
theorem HeapSound.find (h : HeapSound g) {ptr : UInt64} {b : LibCAllocBlock}
    (hfind : g.bridge.allocations.find? (owns ptr) = some b) {a : Allocation} (ha : a ∈ g.live)
    (haddress : a.address = ptr) : a.requested ≤ b.size.toNat := by
  obtain ⟨c, hc, hc', hsize⟩ := h.block a ha
  have hb := owns_iff.mp (List.find?_some hfind)
  have hcb : c = b := h.table.eq_of_address hc.1 (List.mem_of_find?_eq_some hfind) (by rw [hc', haddress, hb.1])
  exact hcb ▸ hsize

/-- **`Malloc`**, also as the other calls use it. -/
theorem HeapSound.malloc (h : HeapSound g) (hcareful : size = 0 ∨ Fits g.bridge size) :
    g.bridge.malloc size = (0, g.bridge) ∨ ∃ taken, (g.bridge.malloc size).1 = taken.address ∧
      Taken g.bridge (g.bridge.malloc size).2 (alignedSize size) taken ∧ size.toNat ≤ taken.size.toNat := by
  by_cases hsize : size = 0
  · exact .inl (by rw [LibCBridge.malloc, if_pos hsize])
  · have hfits := hcareful.resolve_left hsize
    refine (h.table.malloc hsize hfits).imp_right ?_
    rintro ⟨taken, haddress, ht⟩
    exact ⟨taken, haddress, ht, Nat.le_trans (alignedSize_bounds hsize hfits.1).1 (UInt64.le_iff_toNat_le.mp ht.fits)⟩

end Held

section Calls
variable {M : Type _} [IMemory M] {g : Guest M} {size ptr : UInt64}

/-- Nothing is asked of a call of another kind. -/
theorem answered_of_memory {call : HeapCall}
    (hothers : ∀ b, InUse g.bridge b → ∀ i < b.size.toNat,
      readByte (perform g call).memory (b.address + UInt64.ofNat i) = readByte g.memory (b.address + UInt64.ofNat i))
    (hcalloc : ∀ nmemb size, call ≠ calloc nmemb size) (hrealloc : ∀ ptr size, call ≠ realloc ptr size) :
    Answered g call :=
  ⟨fun _ => hothers, fun nmemb size _ hcall => absurd hcall (hcalloc nmemb size),
    fun ptr size _ hcall => absurd hcall (hrealloc ptr size)⟩

theorem call_malloc (h : HeapSound g) (hcareful : Careful g (.malloc size)) :
    Answered g (.malloc size) ∧ HeapSound (step g (.malloc size)) := by
  refine ⟨answered_of_memory (fun _ _ _ _ => rfl) (fun _ _ h => nomatch h) (fun _ _ h => nomatch h), ?_⟩
  rw [step, perform]
  rcases h.malloc hcareful with hfail | ⟨taken, haddress, ht, hle⟩
  · rw [hfail]
    dsimp only
    rw [held_zero (fun _ _ => rfl)]
    exact h.same _
  · dsimp only
    rw [haddress, held_gain ht.address_pos (fun _ _ => rfl)]
    exact h.gain ht hle _

theorem call_free (h : HeapSound g) (ptr : UInt64) :
    Answered g (.free ptr) ∧ HeapSound (step g (.free ptr)) := by
  refine ⟨answered_of_memory (fun _ _ _ _ => rfl) (fun _ _ h => nomatch h) (fun _ _ h => nomatch h), ?_⟩
  rw [step, perform]
  dsimp only
  rw [held, if_pos rfl, List.nil_append]
  by_cases hptr : ptr = 0
  · have hnone : ∀ a ∈ g.live, a.address ≠ ptr := fun a ha => hptr ▸ h.address_ne_zero ha
    have hfilter : (g.live.filter fun a => HeapCall.keeps 0 a (.free ptr)) = g.live :=
      List.filter_eq_self.mpr fun a ha => decide_eq_true (hnone a ha)
    rw [hfilter, LibCBridge.free, if_pos hptr]
    exact h.same _
  · exact h.lose (h.table.free hptr) _

theorem call_store [PlainMemory M] (h : HeapSound g) (address : UInt64) (byte : UInt8) :
    Answered g (.store address byte) ∧ HeapSound (step g (.store address byte)) := by
  refine ⟨⟨fun hstore => absurd rfl (hstore address byte), fun _ _ _ h => (nomatch h), fun _ _ _ h => (nomatch h)⟩, ?_⟩
  rw [step, perform]
  cases IMemory.write g.memory address [byte] with
  | error e => exact h.same _
  | ok memory =>
      dsimp only
      rw [held_zero (fun _ _ => rfl)]
      exact h.same _

/-- A `Calloc` that gives nothing leaves everything. -/
theorem call_calloc_null (h : HeapSound g) {nmemb : UInt64}
    (hperform : perform g (.calloc nmemb size) = ⟨.ok 0, g.bridge, g.memory⟩) :
    Answered g (.calloc nmemb size) ∧ HeapSound (step g (.calloc nmemb size)) := by
  rw [step, hperform]
  dsimp only
  rw [held_zero (fun _ _ => rfl)]
  refine ⟨⟨fun _ _ _ _ _ => by rw [hperform], fun _ _ p _ hp hne => ?_, fun _ _ _ h => (nomatch h)⟩, h.same _⟩
  rw [hperform] at hp
  exact absurd (Except.ok.inj hp).symm hne

theorem call_calloc [PlainMemory M] (h : HeapSound g) {nmemb : UInt64} (hcareful : Careful g (.calloc nmemb size)) :
    Answered g (.calloc nmemb size) ∧ HeapSound (step g (.calloc nmemb size)) := by
  by_cases hzero : nmemb * size = 0
  · refine call_calloc_null h ?_
    rw [perform, LibCBridge.calloc, if_pos hzero]
  · obtain ⟨hproduct, hfits⟩ := hcareful.resolve_left hzero
    have htotal : (nmemb * size).toNat = nmemb.toNat * size.toNat := by
      rw [UInt64.toNat_mul, Nat.mod_eq_of_lt hproduct]
    rcases h.malloc (.inr hfits) with hfail | ⟨taken, haddress, ht, hle⟩
    · refine call_calloc_null h ?_
      rw [perform, LibCBridge.calloc, if_neg hzero]
      dsimp only
      rw [hfail, if_neg (not_not.mpr rfl)]
    · have hperform : perform g (.calloc nmemb size) =
          ⟨(memset g.memory taken.address 0 (nmemb * size).toNat).1.map fun _ => taken.address,
            (g.bridge.malloc (nmemb * size)).2, (memset g.memory taken.address 0 (nmemb * size).toNat).2⟩ := by
        rw [perform, LibCBridge.calloc, if_neg hzero]
        dsimp only
        rw [haddress, if_pos ht.address_pos]
      have htaken := ht.sound.mem taken ((ht.inUse taken).mpr (.inr rfl)).1
      refine ⟨⟨fun _ b hb i hi => ?_, fun nmemb' size' p hcall hp hne i hi => ?_, fun _ _ _ h => (nomatch h)⟩, ?_⟩
      · -- zeroing stays within the block that was taken
        rw [hperform]
        refine memset_other fun j hj => ?_
        have hbsound := ht.sound.mem b ((ht.inUse b).mpr (.inl hb)).1
        exact hbsound.address_ne htaken (UInt64.toNat_lt _) (ht.apart b hb).symm hi (Nat.lt_of_lt_of_le hj hle)
      · obtain ⟨rfl, rfl⟩ := HeapCall.calloc.inj hcall
        rw [hperform] at hp ⊢
        dsimp only at hp ⊢
        cases hdone : (memset g.memory taken.address 0 (nmemb * size).toNat).1 with
        | error e =>
            rw [hdone] at hp
            cases hp
        | ok done =>
            rw [hdone] at hp
            obtain rfl := Except.ok.inj hp
            exact memset_filled (UInt64.toNat_lt _).le hdone i (by rw [htotal]; exact hi)
      · rw [step, hperform]
        dsimp only
        cases (memset g.memory taken.address 0 (nmemb * size).toNat).1 with
        | error e =>
            -- the block is taken, but the guest never learns of it
            obtain ⟨hsound, hblock, hdistinct⟩ := h.gain ht hle (memset g.memory taken.address 0 (nmemb * size).toNat).2
            exact ⟨hsound, (List.forall_mem_cons.mp hblock).2, (List.nodup_cons.mp hdistinct).2⟩
        | ok done =>
            rw [Except.map, held_gain ht.address_pos (fun _ _ => rfl)]
            exact h.gain ht (Nat.le_trans htotal.ge hle) _

/-- What the guest may rely on of a `Realloc` call, from what it returns and leaves in memory. -/
theorem answered_realloc {outcome : Outcome M} (hperform : perform g (.realloc ptr size) = outcome)
    (hothers : ∀ b, InUse g.bridge b → ∀ i < b.size.toNat,
      readByte outcome.memory (b.address + UInt64.ofNat i) = readByte g.memory (b.address + UInt64.ofNat i))
    (hcopied : ∀ p, outcome.returned = .ok p → p ≠ 0 → ∀ a ∈ g.live, a.address = ptr → ∀ i < min a.requested size.toNat,
      readByte outcome.memory (p + UInt64.ofNat i) = readByte g.memory (ptr + UInt64.ofNat i)) :
    Answered g (.realloc ptr size) := by
  refine ⟨fun _ => hperform ▸ hothers, fun _ _ _ h => (nomatch h), fun ptr' size' p hcall => ?_⟩
  obtain ⟨rfl, rfl⟩ := HeapCall.realloc.inj hcall
  exact hperform ▸ hcopied p

/-- A `Realloc` that returns null and loses nothing. -/
theorem call_realloc_null (h : HeapSound g) (hperform : perform g (.realloc ptr size) = ⟨.ok 0, g.bridge, g.memory⟩)
    (hkeeps : ∀ a ∈ g.live, HeapCall.keeps 0 a (.realloc ptr size) = true) :
    Answered g (.realloc ptr size) ∧ HeapSound (step g (.realloc ptr size)) := by
  refine ⟨answered_realloc hperform (fun _ _ _ _ => rfl) fun p hp hne => absurd (Except.ok.inj hp).symm hne, ?_⟩
  rw [step, hperform]
  dsimp only
  rw [held_zero hkeeps]
  exact h.same _

/-- **Shrinking in place.** -/
theorem call_realloc_shrink (h : HeapSound g) {b : LibCAllocBlock} (hptr : ptr ≠ 0) (hsize : size ≠ 0)
    (hfind : g.bridge.allocations.find? (owns ptr) = some b) (hround : size.toNat + 15 < 2 ^ 64)
    (hle : alignedSize size ≤ b.size) : Answered g (.realloc ptr size) ∧ HeapSound (step g (.realloc ptr size)) := by
  have hperform : perform g (.realloc ptr size) = ⟨.ok ptr, { g.bridge with
      allocations := updateFirst (owns ptr) (fun b => { b with size := alignedSize size }) g.bridge.allocations },
      g.memory⟩ := by
    rw [perform, LibCBridge.realloc, if_neg hptr, if_neg hsize, hfind]
    dsimp only
    rw [if_pos hle]
  refine ⟨answered_realloc hperform (fun _ _ _ _ => rfl) ?_, ?_⟩
  · intro p hp _ _ _ _ _ _
    rw [← Except.ok.inj hp]
  · obtain ⟨hsound, hinUse⟩ := h.table.shrink hfind hsize hround hle
    have haddress := (owns_iff.mp (List.find?_some hfind)).1
    rw [step, hperform]
    dsimp only
    rw [held_of_ne hptr]
    refine ⟨hsound, List.forall_mem_cons.mpr ⟨⟨_, (hinUse _).mpr (.inr rfl), haddress, ?_⟩, ?_⟩, ?_⟩
    · exact (alignedSize_bounds hsize hround).1
    · intro a ha
      obtain ⟨ha, hkeeps⟩ := List.mem_filter.mp ha
      have hne : a.address ≠ ptr := fun heq => of_decide_eq_true hkeeps ⟨heq, .inr hptr⟩
      obtain ⟨c, hc, hc', hrequested⟩ := h.block a ha
      exact ⟨c, (hinUse c).mpr (.inl ⟨hc, hc' ▸ hne⟩), hc', hrequested⟩
    · refine List.nodup_cons.mpr ⟨fun hmem => ?_, h.distinct.sublist (List.filter_sublist.map _)⟩
      obtain ⟨a, ha, heq⟩ := List.mem_map.mp hmem
      exact of_decide_eq_true (List.mem_filter.mp ha).2 ⟨heq, .inr hptr⟩

/-- What a growing block leaves, once the bytes are copied. -/
def afterCopy (bridge : LibCBridge) (address ptr : UInt64) : Except String Unit × M → LibCBridge.Outcome M
  | (.error e, memory') => ⟨.error e, bridge, memory'⟩
  | (.ok _, memory') => ⟨.ok address, bridge.free ptr, memory'⟩

/-- **Growing.** The block moves, its bytes are copied, and the old block is given back. -/
theorem call_realloc_grow [PlainMemory M] (h : HeapSound g) {b : LibCAllocBlock} (hptr : ptr ≠ 0) (hsize : size ≠ 0)
    (hfind : g.bridge.allocations.find? (owns ptr) = some b) (hlt : b.size < alignedSize size)
    (hfits : Fits g.bridge size) : Answered g (.realloc ptr size) ∧ HeapSound (step g (.realloc ptr size)) := by
  have hb : InUse g.bridge b := ⟨List.mem_of_find?_eq_some hfind, (owns_iff.mp (List.find?_some hfind)).2⟩
  have hbptr : b.address = ptr := (owns_iff.mp (List.find?_some hfind)).1
  rcases h.malloc (.inr hfits) with hfail | ⟨taken, haddress, ht, hle⟩
  · refine call_realloc_null h ?_ fun a _ => decide_eq_true fun hlost => ?_
    · rw [perform, LibCBridge.realloc, if_neg hptr, if_neg hsize, hfind]
      dsimp only
      rw [if_neg (not_le.mpr hlt), hfail, if_pos rfl]
    · exact hlost.2.elim hsize fun hne => hne rfl
  · have hold : ∀ {j : Nat}, j < b.size.toNat → j < taken.size.toNat := by
      intro j hj
      have := UInt64.lt_iff_toNat_lt.mp hlt
      have := UInt64.le_iff_toNat_le.mp ht.fits
      omega
    have htaken := ht.sound.mem taken ((ht.inUse taken).mpr (.inr rfl)).1
    have hkept : ∀ c, InUse g.bridge c → ∀ i < c.size.toNat, ∀ j < b.size.toNat,
        c.address + UInt64.ofNat i ≠ taken.address + UInt64.ofNat j := by
      intro c hc i hi j hj
      have hcsound := ht.sound.mem c ((ht.inUse c).mpr (.inl hc)).1
      exact hcsound.address_ne htaken (UInt64.toNat_lt _) (ht.apart c hc).symm hi (hold hj)
    have hothers : ∀ c, InUse g.bridge c → ∀ i < c.size.toNat,
        readByte (memcpy g.memory taken.address ptr b.size.toNat).2 (c.address + UInt64.ofNat i) =
          readByte g.memory (c.address + UInt64.ofNat i) :=
      fun c hc i hi => memcpy_other (hkept c hc i hi)
    have hperform : perform g (.realloc ptr size) =
        afterCopy (g.bridge.malloc size).2 taken.address ptr (memcpy g.memory taken.address ptr b.size.toNat) := by
      rw [perform, LibCBridge.realloc, if_neg hptr, if_neg hsize, hfind]
      dsimp only
      rw [if_neg (not_le.mpr hlt), haddress]
      refine (if_neg ht.address_pos).trans ?_
      rcases memcpy g.memory taken.address ptr b.size.toNat with ⟨_ | _, _⟩ <;> rfl
    cases hcopy : memcpy g.memory taken.address ptr b.size.toNat with
    | mk done memory' =>
        rw [hcopy] at hothers hperform
        have hgain := h.gain ht hle memory'
        cases done with
        | error e =>
            -- the copy faulted: the guest still holds the old block and never learns of the new one
            refine ⟨answered_realloc hperform hothers (fun p hp => nomatch hp), ?_⟩
            rw [step, hperform]
            exact ⟨hgain.table, (List.forall_mem_cons.mp hgain.block).2, (List.nodup_cons.mp hgain.distinct).2⟩
        | ok done =>
            -- the new block is held before the old one is given back
            refine ⟨answered_realloc hperform hothers fun p hp _ a ha haptr i hi => ?_, ?_⟩
            · obtain rfl := Except.ok.inj hp
              have hin : i < b.size.toNat := by
                have := h.find hfind ha haptr
                omega
              have hapart : ∀ i < b.size.toNat, ∀ j < b.size.toNat,
                  ptr + UInt64.ofNat i ≠ taken.address + UInt64.ofNat j := hbptr ▸ hkept b hb
              have hcopied := memcpy_copied b.size.toNat_lt.le hapart (by rw [hcopy]) i hin
              rwa [hcopy] at hcopied
            · have hlose := hgain.lose (hgain.table.free hptr) memory'
              have hne : taken.address ≠ ptr := fun heq => ht.address_ne hb (hbptr.trans heq.symm)
              rw [step, hperform]
              dsimp only [afterCopy]
              rw [held_of_ne ht.address_pos]
              have hfilter : (g.live.filter fun a => HeapCall.keeps taken.address a (.realloc ptr size)) =
                  g.live.filter fun a => a.address ≠ ptr := by
                refine List.filter_congr fun a _ => decide_eq_decide.mpr ?_
                exact ⟨fun hnot heq => hnot ⟨heq, .inr ht.address_pos⟩, fun hnot heq => hnot heq.1⟩
              rw [hfilter]
              rwa [List.filter_cons_of_pos (by simpa using hne)] at hlose

theorem call_realloc [PlainMemory M] (h : HeapSound g) (hcareful : Careful g (.realloc ptr size)) :
    Answered g (.realloc ptr size) ∧ HeapSound (step g (.realloc ptr size)) := by
  by_cases hptr : ptr = 0
  · -- as `Malloc`
    have hcareful' : size = 0 ∨ Fits g.bridge size := hcareful.imp_right fun hfits => by rwa [if_pos hptr] at hfits
    have hperform : perform g (.realloc ptr size) =
        ⟨.ok (g.bridge.malloc size).1, (g.bridge.malloc size).2, g.memory⟩ := by
      rw [perform, LibCBridge.realloc, if_pos hptr]
    have hkeeps : ∀ p, ∀ a ∈ g.live, HeapCall.keeps p a (.realloc ptr size) = true :=
      fun p a ha => decide_eq_true fun hlost => h.address_ne_zero ha (hlost.1.trans hptr)
    refine ⟨answered_realloc hperform (fun _ _ _ _ => rfl) fun p _ _ a ha haptr => ?_, ?_⟩
    · exact absurd (haptr.trans hptr) (h.address_ne_zero ha)
    · rw [step, hperform]
      dsimp only
      rcases h.malloc hcareful' with hfail | ⟨taken, haddress, ht, hle⟩
      · rw [hfail, held_zero (hkeeps 0)]
        exact h.same _
      · rw [haddress, held_gain ht.address_pos (hkeeps _)]
        exact h.gain ht hle _
  · by_cases hsize : size = 0
    · -- as `Free`
      have hperform : perform g (.realloc ptr size) = ⟨.ok 0, g.bridge.free ptr, g.memory⟩ := by
        rw [perform, LibCBridge.realloc, if_neg hptr, if_pos hsize]
      refine ⟨answered_realloc hperform (fun _ _ _ _ => rfl) fun p hp hne => absurd (Except.ok.inj hp).symm hne, ?_⟩
      rw [step, hperform]
      dsimp only
      have hfilter : (g.live.filter fun a => HeapCall.keeps 0 a (.realloc ptr size)) =
          g.live.filter fun a => a.address ≠ ptr := by
        refine List.filter_congr fun a _ => decide_eq_decide.mpr ?_
        exact ⟨fun hnot heq => hnot ⟨heq, .inl hsize⟩, fun hnot heq => hnot heq.1⟩
      rw [held, if_pos rfl, List.nil_append, hfilter]
      exact h.lose (h.table.free hptr) _
    · have hfound := hcareful.resolve_left hsize
      rw [if_neg hptr] at hfound
      cases hfind : g.bridge.allocations.find? (owns ptr) with
      | none =>
          refine call_realloc_null h ?_ fun a _ => decide_eq_true fun hlost => ?_
          · rw [perform, LibCBridge.realloc, if_neg hptr, if_neg hsize, hfind]
          · exact hlost.2.elim hsize fun hne => hne rfl
      | some b =>
          obtain ⟨hround, hroom⟩ := hfound b hfind
          by_cases hle : alignedSize size ≤ b.size
          · exact call_realloc_shrink h hptr hsize hfind hround hle
          · exact call_realloc_grow h hptr hsize hfind (not_le.mp hle) (hroom.resolve_left hle)

/-- **One call.** -/
theorem HeapSound.call [PlainMemory M] (h : HeapSound g) {call : HeapCall} (hcareful : Careful g call) :
    Answered g call ∧ HeapSound (step g call) := by
  cases call with
  | malloc size => exact call_malloc h hcareful
  | calloc nmemb size => exact call_calloc h hcareful
  | realloc ptr size => exact call_realloc h hcareful
  | free ptr => exact call_free h ptr
  | store address byte => exact call_store h address byte

end Calls

/-! ## Runs -/

/-- The guest before its first call. -/
def Guest.initial {M : Type _} (abi : Option LinuxABI) (memory : M) : Guest M := ⟨initialized abi, memory, []⟩

/-- **Guest heap safety.** As long as no request wraps around, the guest holds aligned, disjoint blocks inside the
    heap, each as large as requested, and every call answers as it should. -/
theorem heap_run {M : Type _} [IMemory M] [PlainMemory M] (abi : Option LinuxABI) (memory : M) (calls : List HeapCall)
    (hcareful : EveryStep step Careful (Guest.initial abi memory) calls) :
    EveryStep step Answered (Guest.initial abi memory) calls ∧ HeapSafe (run step (Guest.initial abi memory) calls) := by
  have hinitial : HeapSound (Guest.initial abi memory) :=
    ⟨tableSound_initialized abi, List.forall_mem_nil _, List.nodup_nil⟩
  have hkeep : ∀ (g : Guest M) call, HeapSound g → Careful g call → HeapSound (step g call) :=
    fun _ _ h hcall => (h.call hcall).2
  have hanswered : ∀ (g : Guest M) call, HeapSound g → Careful g call → Answered g call :=
    fun _ _ h hcall => (h.call hcall).1
  exact ⟨everyStep_of_invariant HeapSound hkeep hanswered hinitial hcareful,
    (run_invariant HeapSound hkeep hinitial hcareful).safe⟩

/-- Two gigabytes of zeros. -/
def zeros : SparseMemory := ⟨0x80000000, fun _ => 0⟩

/-- A block is cleared, written, grown and shrunk; the space it leaves is reused. -/
def someHeapCalls : List HeapCall :=
  [.calloc 2 20, .malloc 5, .store 0x40000003 7, .realloc 0x40000000 50, .malloc 33, .realloc 0x40000040 10,
    .free 0x40000030]

theorem heap_run_someHeapCalls :
    EveryStep step Answered (Guest.initial (some LinuxABI.initial) zeros) someHeapCalls ∧
      HeapSafe (run step (Guest.initial (some LinuxABI.initial) zeros) someHeapCalls) :=
  heap_run (some LinuxABI.initial) zeros someHeapCalls (by
    refine ⟨?_, ?_, ?_, ?_, ?_, ?_, ?_, trivial⟩ <;> decide +kernel)

/-- **A size that wraps around when it is rounded.** The guest asks for all but one of the addresses there are and
    gets a block of no bytes. -/
theorem heap_unsafe :
    ¬ ∀ calls, EveryStep step Answered (Guest.initial (some LinuxABI.initial) zeros) calls ∧
      HeapSafe (run step (Guest.initial (some LinuxABI.initial) zeros) calls) := by
  intro h
  have hsafe := (h [.malloc 0xFFFFFFFFFFFFFFFF]).2
  have hlive : (⟨0x40000000, 0xFFFFFFFFFFFFFFFF⟩ : Allocation) ∈
      (run step (Guest.initial (some LinuxABI.initial) zeros) [.malloc 0xFFFFFFFFFFFFFFFF]).live := by decide +kernel
  obtain ⟨b, ⟨hb, -⟩, -, hsize⟩ := hsafe.block _ hlive
  have hblocks : (run step (Guest.initial (some LinuxABI.initial) zeros) [.malloc 0xFFFFFFFFFFFFFFFF]).bridge.allocations =
      [⟨0x40000000, 0, true⟩] := by decide +kernel
  rw [hblocks] at hb
  obtain rfl := List.mem_singleton.mp hb
  exact absurd hsize (by decide)

end GuideXOS.Abi
