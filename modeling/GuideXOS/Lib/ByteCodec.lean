import GuideXOS.Lib.ByteReader
import GuideXOS.Lib.OrdMap

/-!
# `ByteCodec` — a reader against the writer it is meant for

A writer lists the byte strings it emits; a reader takes them back. `Decodes r b P a` says what the reader `r`
makes of the bytes `b`, wherever they stand in the data: exactly when `P` holds it returns `a` and consumes
them, and otherwise it refuses them or ends up invalid. So `P` is what the reader demands beyond what the
writer wrote: its own limits on lengths and counts.

The rules follow the shape of the two programs: one rule for a read that makes no demands (`Decodes.then`), one for a
read that makes some (`Decodes.cons`), one for each check between the reads, and one for each loop. The last
reader of a program also demands that nothing is left.

* Lengths are written as 64-bit words, so a byte string of `2 ^ 64` bytes or more is not what it seems;
  `Decodes` speaks of shorter ones.
-/

namespace Lib
open Words

/-! ## Writing -/

def putU8 (value : UInt8) : List UInt8 := [value]

def putU32 (value : UInt32) : List UInt8 := bytesOfWord 4 value.toUInt64

def putU64 (value : UInt64) : List UInt8 := bytesOfWord 8 value

/-- `value ? 1 : 0`. -/
def putBool (value : Bool) : List UInt8 := putU8 (if value then 1 else 0)

/-- A host size, as a 64-bit word. -/
def putSize (size : Nat) : List UInt8 := putU64 (UInt64.ofNat size)

/-- A byte string with its length in front. -/
def putBytes (value : List UInt8) : List UInt8 := putSize value.length ++ value

/-- A list with its length in front. -/
def putList {α : Type _} (put : α → List UInt8) (xs : List α) : List UInt8 :=
  putSize xs.length ++ xs.flatMap put

@[simp] theorem length_putU8 (v : UInt8) : (putU8 v).length = 1 := rfl
@[simp] theorem length_putU32 (v : UInt32) : (putU32 v).length = 4 := length_bytesOfWord 4 _
@[simp] theorem length_putU64 (v : UInt64) : (putU64 v).length = 8 := length_bytesOfWord 8 v
@[simp] theorem length_putBool (v : Bool) : (putBool v).length = 1 := rfl
@[simp] theorem length_putSize (n : Nat) : (putSize n).length = 8 := length_putU64 _
@[simp] theorem length_putBytes (v : List UInt8) : (putBytes v).length = 8 + v.length := by simp [putBytes]

/-- How long a written list is. -/
theorem length_putList {α : Type _} (put : α → List UInt8) (xs : List α) :
    (putList put xs).length = 8 + (xs.map fun x => (put x).length).sum := by
  simp [putList, List.length_flatMap]

/-! ## Where bytes stand -/

namespace Input

/-- The bytes that come next. -/
def At (s : Input) (bytes : List UInt8) : Prop := s.valid = true ∧ bytes <+: s.data.drop s.offset

variable {s : Input}

theorem At.fits {bytes : List UInt8} (h : s.At bytes) : s.offset + bytes.length ≤ s.data.length := by
  have hlen := h.2.length_le
  have hinside := s.inside
  rw [List.length_drop] at hlen
  omega

theorem At.le_remaining {bytes : List UInt8} (h : s.At bytes) : bytes.length ≤ s.remaining := by
  have hfits := h.fits
  unfold remaining
  rw [if_pos h.1]
  omega

theorem At.left {b b' : List UInt8} (h : s.At (b ++ b')) : s.At b :=
  ⟨h.1, (List.prefix_append b b').trans h.2⟩

theorem At.right {b b' : List UInt8} (h : s.At (b ++ b')) : (s.advance b.length h.left.fits).At b' := by
  refine ⟨h.1, ?_⟩
  show b' <+: s.data.drop (s.offset + b.length)
  obtain ⟨rest, hrest⟩ := h.2
  rw [← List.drop_drop, ← hrest, List.append_assoc, List.drop_left]
  exact List.prefix_append b' rest

theorem At.start (b : List UInt8) : (start b).At b := ⟨rfl, List.prefix_refl b⟩

theorem At.fetch {b : List UInt8} (h : s.At b) : s.fetch b.length = .ok (b, s.advance b.length h.fits) := by
  unfold Input.fetch
  obtain ⟨rest, hrest⟩ := h.2
  rw [dif_pos h.fits, ← hrest, List.take_left]

end Input

open Input Reader

variable {α β : Type} {r : Reader α} {f : α → Reader β} {a : α} {c : β} {b b' : List UInt8} {P Q : Prop}

/-- The reader takes the bytes and returns the value. -/
def Reads (r : Reader α) (b : List UInt8) (a : α) : Prop :=
  ∀ s (h : s.At b), r.run s = .ok (a, s.advance b.length h.fits)

/-- The reader refuses the bytes, now or when it is next asked. -/
def Fails (r : Reader α) (b : List UInt8) : Prop :=
  ∀ s, s.At b → ∀ a s', r.run s = .ok (a, s') → s'.valid = false

/-- **What a reader makes of bytes**: the value if `P`, failure if not. -/
def Decodes (r : Reader α) (b : List UInt8) (P : Prop) (a : α) : Prop :=
  b.length < 2 ^ 64 → (P → Reads r b a) ∧ (¬ P → Fails r b)

theorem Reads.bind (hr : Reads r b a) (hf : Reads (f a) b' c) : Reads (r >>= f) (b ++ b') c := by
  intro s h
  rw [run_bind (hr s h.left), hf _ h.right]
  refine congrArg (fun s' => Except.ok (c, s')) (Input.ext rfl ?_ rfl)
  show s.offset + b.length + b'.length = s.offset + (b ++ b').length
  rw [List.length_append, Nat.add_assoc]

/-- A failure is not undone by what follows. -/
theorem Fails.bind (hr : Fails r b) : Fails (r >>= f) (b ++ b') := by
  intro s h c s' hrun
  obtain ⟨a, t, hra, hft⟩ := run_bind_ok hrun
  have hsound := (f a).sound t
  rw [hft] at hsound
  exact hsound.2.2 (hr s h.left a t hra)

theorem Reads.bind_fails (hr : Reads r b a) (hf : Fails (f a) b') : Fails (r >>= f) (b ++ b') := by
  intro s h c s' hrun
  rw [run_bind (hr s h.left)] at hrun
  exact hf _ h.right c s' hrun

theorem Fails.refuse : Fails (refuse : Reader α) b := by
  intro s _ a s' hrun
  cases hrun

namespace Decodes

theorem of_reads (h : Reads r b a) : Decodes r b True a := fun _ => ⟨fun _ => h, fun hn => (hn trivial).elim⟩

theorem congr (h : Decodes r b P a) (hpq : P ↔ Q) : Decodes r b Q a := by
  intro hlen
  rw [← hpq]
  exact h hlen

/-- Only strings short enough for their lengths to be written matter. -/
theorem of_short (h : b.length < 2 ^ 64 → Decodes r b P a) : Decodes r b P a := fun hlen => h hlen hlen

theorem bind (hr : Decodes r b P a) (hf : Decodes (f a) b' Q c) : Decodes (r >>= f) (b ++ b') (P ∧ Q) c := by
  intro hlen
  rw [List.length_append] at hlen
  obtain ⟨hreads, hfails⟩ := hr (by omega)
  obtain ⟨hreads', hfails'⟩ := hf (by omega)
  constructor
  · rintro ⟨hp, hq⟩
    exact (hreads hp).bind (hreads' hq)
  · intro hn
    by_cases hp : P
    · exact (hreads hp).bind_fails (hfails' fun hq => hn ⟨hp, hq⟩)
    · exact (hfails hp).bind

/-! ### One piece after another -/

variable {bs : List (List UInt8)}

/-- A read that may be refused. -/
theorem cons (hr : Decodes r b P a) (hf : Decodes (f a) bs.flatten Q c) :
    Decodes (r >>= f) (b :: bs).flatten (P ∧ Q) c := hr.bind hf

/-- A read that always succeeds. -/
theorem «then» (hr : Decodes r b True a) (hf : Decodes (f a) bs.flatten Q c) :
    Decodes (r >>= f) (b :: bs).flatten Q c := (hr.bind hf).congr (by rw [true_and])

theorem pure : Decodes (pure a) [].flatten True a := by
  refine of_reads ?_
  intro s h
  rfl

/-- The last read, and what is made of it. -/
theorem last {g : α → β} (hr : Decodes r b P a) : Decodes (r >>= fun x => Pure.pure (g x)) [b].flatten P (g a) :=
  (hr.bind (f := fun x => Pure.pure (g x)) pure).congr (by rw [and_true])

/-! ### Checks between the reads -/

theorem requireValid {f : Unit → Reader β} (hf : Decodes (f ()) b Q c) : Decodes (Reader.requireValid >>= f) b Q c := by
  have hrun : ∀ s, s.At b → (Reader.requireValid >>= f).run s = (f ()).run s := by
    intro s h
    exact run_bind (if_pos h.1) f
  intro hlen
  obtain ⟨hreads, hfails⟩ := hf hlen
  constructor
  · intro hq s h
    rw [hrun s h]
    exact hreads hq s h
  · intro hq s h c s'
    rw [hrun s h]
    exact hfails hq s h c s'

/-- A demand on what was read so far. -/
theorem require {d : Prop} [Decidable d] {f : Unit → Reader β} (hf : d → Decodes (f ()) b Q c) :
    Decodes (Reader.require d >>= f) b (d ∧ Q) c := by
  by_cases hd : d
  · have heq : (Reader.require d >>= f) = f () := by
      unfold Reader.require
      rw [if_pos hd]
      rfl
    rw [heq]
    exact (hf hd).congr (by simp [hd])
  · have heq : (Reader.require d >>= f) = refuse := by
      unfold Reader.require
      rw [if_neg hd]
      rfl
    rw [heq]
    intro _
    refine ⟨fun h => absurd h.1 hd, fun _ => Fails.refuse⟩

/-- A demand that is met. -/
theorem require_of {d : Prop} [Decidable d] {f : Unit → Reader β} (hd : d) (hf : Decodes (f ()) b Q c) :
    Decodes (Reader.require d >>= f) b Q c := (require fun _ => hf).congr (by simp [hd])

/-- While bytes are left, their number is not zero. -/
theorem remaining {f : Nat → Reader β} (hf : ∀ left, b.length ≤ left → Decodes (f left) b Q c) :
    Decodes (Reader.remaining >>= f) b Q c := by
  intro hlen
  constructor
  · intro hq s h
    exact (hf s.remaining h.le_remaining hlen).1 hq s h
  · intro hq s h
    exact (hf s.remaining h.le_remaining hlen).2 hq s h

/-! ### Words and byte strings -/

theorem word {n : Nat} {bytes : List UInt8} (hlen : bytes.length = n) :
    Decodes (Reader.word n) bytes True (wordOfBytes bytes) := by
  subst hlen
  refine of_reads ?_
  intro s h
  show (if s.remaining < bytes.length then _ else _) = _
  rw [if_neg (Nat.not_lt.mpr h.le_remaining), h.fetch]
  rfl

theorem u64 (v : UInt64) : Decodes Reader.u64 (putU64 v) True v := by
  have h := word (length_putU64 v)
  rw [putU64, wordOfBytes_bytesOfWord] at h
  exact h

theorem u32 (v : UInt32) : Decodes Reader.u32 (putU32 v) True v := by
  have h := (word (length_putU32 v)).last (g := UInt64.toUInt32)
  rw [putU32, wordOfBytes_bytesOfWord_four, List.flatten_singleton] at h
  exact h

theorem u8 (v : UInt8) : Decodes Reader.u8 (putU8 v) True v := by
  have hword : (wordOfBytes [v]).toUInt8 = v := by simp [wordOfBytes]
  have h := (word (length_putU8 v)).last (g := UInt64.toUInt8)
  rw [putU8, hword, List.flatten_singleton] at h
  exact h

theorem u8Bool (v : Bool) : Decodes Reader.u8Bool (putBool v) True v := by
  have h := (u8 (if v then 1 else 0)).last (g := fun raw => raw != 0)
  rw [List.flatten_singleton] at h
  cases v <;> exact h

theorem upTo (maximum : Nat) (v : List UInt8) :
    Decodes (Reader.upTo maximum v.length) v (v.length ≤ maximum) v := by
  intro _
  constructor
  · intro hmax s h
    show (if _ then _ else _) = _
    rw [if_neg, h.fetch]
    rintro (hinvalid | hlong | hshort)
    · rw [h.1] at hinvalid
      cases hinvalid
    · omega
    · exact absurd h.le_remaining (Nat.not_le.mpr hshort)
  · intro hmax s h a s' hrun
    change (if _ then _ else _) = _ at hrun
    rw [if_pos (.inr (.inl (Nat.not_le.mp hmax)))] at hrun
    cases hrun
    rfl

/-- A count in front of at least as many bytes is the count that is read. -/
theorem toNat_size {n : Nat} (hn : n ≤ b.length) (hlen : (putSize n ++ b).length < 2 ^ 64) :
    (UInt64.ofNat n).toNat = n := by
  rw [List.length_append, length_putSize] at hlen
  exact UInt64.toNat_ofNat_of_lt' (by show n < 2 ^ 64; omega)

theorem size {n : Nat} {f : Nat → Reader β} (hn : n ≤ b.length) (hf : Decodes (f n) b Q c) :
    Decodes (Reader.u64 >>= fun count => f count.toNat) (putSize n ++ b) Q c := by
  refine of_short fun hlen => ?_
  refine congr ((u64 (UInt64.ofNat n)).bind ?_) (by rw [true_and])
  rw [toNat_size hn hlen]
  exact hf

theorem bytes (maximum : Nat) (v : List UInt8) :
    Decodes (Reader.bytes maximum) (putBytes v) (v.length ≤ maximum) v := size le_rfl (upTo maximum v)

/-! ### Loops -/

theorem times {put : α → List UInt8} {demand : α → Prop} (h : ∀ x, Decodes r (put x) (demand x) x)
    (xs : List α) : Decodes (Reader.times r xs.length) (xs.flatMap put) (∀ x ∈ xs, demand x) xs := by
  induction xs with
  | nil => exact pure.congr (by simp)
  | cons x xs ih =>
      have hlist := (h x).bind (f := fun x => do
        let xs ← Reader.times r xs.length
        return x :: xs) (ih.last (g := fun xs => x :: xs))
      rw [List.flatten_singleton] at hlist
      exact hlist.congr (by rw [List.forall_mem_cons])

theorem array {put : α → List UInt8} (h : ∀ x, Decodes r (put x) True x) {n : Nat} (v : Vector α n) :
    Decodes (Reader.array r n) (v.toList.flatMap put) True v := by
  induction n with
  | zero =>
      obtain rfl : v = #v[] := Vector.eq_empty
      exact pure
  | succ n ih =>
      have hv : v = v.pop.push v.back := (Vector.push_pop_back v).symm
      have hlist := (ih v.pop).bind (f := fun xs => do
        let x ← r
        return xs.push x) ((h v.back).last (g := fun x => v.pop.push x))
      rw [hv, Vector.toList_push, List.flatMap_append, List.flatMap_singleton]
      rw [List.flatten_singleton] at hlist
      exact hlist.congr (by simp)

/-- Elements put one after another into a container that takes them all. -/
theorem timesInto {σ : Type} {put : α → List UInt8} {demand : α → Prop} {into : σ → α → Option σ}
    (h : ∀ x, Decodes r (put x) (demand x) x) {xs : List α} {s t : σ} (hinto : xs.foldlM into s = some t) :
    Decodes (Reader.timesInto r into xs.length s) (xs.flatMap put) (∀ x ∈ xs, demand x) t := by
  induction xs generalizing s with
  | nil =>
      obtain rfl : s = t := Option.some.inj hinto
      exact pure.congr (by simp)
  | cons x xs ih =>
      rw [List.foldlM_cons] at hinto
      obtain ⟨s', hx, hxs⟩ := Option.bind_eq_some_iff.mp hinto
      refine Decodes.congr ((h x).bind ?_) (by rw [List.forall_mem_cons])
      rw [hx]
      exact ih hxs

end Decodes

/-! ## Whole inputs -/

/-- Nothing may be left. -/
def Reader.exactly (r : Reader α) : Reader α := do
  let a ← r
  requireValid
  let left ← Reader.remaining
  require (left = 0)
  return a

/-- A reader that has to read exactly ends where the data ends. -/
theorem Reader.exactly_ok {s s' : Input} (h : r.exactly.run s = .ok (a, s')) :
    r.run s = .ok (a, s') ∧ s'.valid = true ∧ s'.offset = s'.data.length := by
  obtain ⟨a', t, hrun, hrest⟩ := run_bind_ok h
  obtain ⟨_, t', hvalid, hrest⟩ := run_bind_ok hrest
  change (if t.valid then _ else _) = _ at hvalid
  split at hvalid
  · next htrue =>
    obtain ⟨-, rfl⟩ := Prod.mk.inj (Except.ok.inj hvalid)
    obtain ⟨left, u, hleft, hrest⟩ := run_bind_ok hrest
    obtain ⟨rfl, rfl⟩ := Prod.mk.inj (Except.ok.inj hleft)
    obtain ⟨_, v, hrequire, hend⟩ := run_bind_ok hrest
    unfold Reader.require at hrequire
    split at hrequire
    · next hzero =>
      obtain ⟨-, rfl⟩ := Prod.mk.inj (Except.ok.inj hrequire)
      obtain ⟨rfl, rfl⟩ := Prod.mk.inj (Except.ok.inj hend)
      have hinside := t.inside
      rw [Input.remaining, if_pos htrue] at hzero
      exact ⟨hrun, htrue, by omega⟩
    · cases hrequire
  · cases hvalid

/-- The value of a whole byte string. -/
def Reader.parse (r : Reader α) (data : List UInt8) : Option α :=
  match r.exactly.run (start data) with
  | .ok (a, _) => some a
  | .error _ => none

/-- **What is written is read.** A byte string is parsed exactly when it meets the reader's demands. -/
theorem Decodes.parse (h : Decodes r b P a) (hlen : b.length < 2 ^ 64) :
    (P → r.parse b = some a) ∧ (¬ P → r.parse b = none) := by
  obtain ⟨hreads, hfails⟩ := h hlen
  have hstart := At.start b
  constructor
  · intro hp
    have hend : (start b).advance b.length hstart.fits = ⟨b, b.length, true, le_rfl⟩ :=
      Input.ext rfl (Nat.zero_add _) rfl
    have hrun : r.exactly.run (start b) = .ok (a, ⟨b, b.length, true, le_rfl⟩) := by
      have hvalid : Reader.requireValid.run ⟨b, b.length, true, le_rfl⟩ = .ok ((), ⟨b, b.length, true, le_rfl⟩) :=
        rfl
      unfold Reader.exactly
      rw [run_bind (hreads hp _ hstart), hend, run_bind hvalid]
      show (Reader.require (b.length - b.length = 0) >>= fun _ => Pure.pure a).run _ = _
      rw [Nat.sub_self]
      rfl
    unfold Reader.parse
    rw [hrun]
  · intro hp
    cases hrun : r.exactly.run (start b) with
    | error e =>
        unfold Reader.parse
        rw [hrun]
    | ok result =>
        -- a failed reader is invalid, and so does not pass the check
        obtain ⟨a', t, hr, hrest⟩ := run_bind_ok hrun
        obtain ⟨_, t', hvalid, _⟩ := run_bind_ok hrest
        change (if t.valid then _ else _) = _ at hvalid
        rw [hfails hp _ hstart a' t hr] at hvalid
        cases hvalid

end Lib
