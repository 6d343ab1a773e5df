import Mathlib.Data.Vector.Basic
import GuideXOS.Lib.Words

/-!
# `ByteReader` — reading a byte string that nobody vouches for

A reader works over a byte string with an offset and a validity flag. A read that would pass the end takes
nothing, clears the flag and answers zero; the flag never comes back, and the program asks it when it wants
to know. A program may also refuse the input and stop.

* Touching a byte outside the data is an outcome of its own, `Stop.outOfBounds`. `Reader` carries the proof
  that it never happens (`sound`), for every input: combining readers combines the proofs, so each reader
  written in `do` notation is memory safe by construction.
* `Sound` also says that the data never changes, that the offset only moves forward, and that an invalid
  reader stays invalid.
-/

namespace Lib
open Words

/-- Why a reader stopped: its program refused the input, or it touched a byte that is not there. -/
inductive Stop
  | refused
  | outOfBounds
  deriving DecidableEq

/-- The data, how much of it is consumed, and whether every read so far was within it. -/
@[ext] structure Input where
  data : List UInt8
  offset : Nat
  valid : Bool
  inside : offset ≤ data.length

namespace Input

def start (data : List UInt8) : Input := ⟨data, 0, true, Nat.zero_le _⟩

variable (s : Input)

/-- What an invalid reader has left is nothing. -/
def remaining : Nat := if s.valid then s.data.length - s.offset else 0

def invalidate : Input := { s with valid := false }

def advance (n : Nat) (h : s.offset + n ≤ s.data.length) : Input :=
  { s with
    offset := s.offset + n
    inside := h }

/-- The next `n` bytes, whether or not they are there. -/
def fetch (n : Nat) : Except Stop (List UInt8 × Input) :=
  if h : s.offset + n ≤ s.data.length then .ok ((s.data.drop s.offset).take n, s.advance n h)
  else .error .outOfBounds

theorem fits_of_le_remaining {s : Input} {n : Nat} (h : n ≤ s.remaining) : s.offset + n ≤ s.data.length := by
  have hinside := s.inside
  unfold remaining at h
  split at h <;> omega

end Input

/-- What one read may do to the reader. -/
def Sound {α : Type} (s : Input) : Except Stop (α × Input) → Prop
  | .ok (_, s') => s'.data = s.data ∧ s.offset ≤ s'.offset ∧ (s.valid = false → s'.valid = false)
  | .error e => e = .refused

section Sound
variable {α β : Type} {s : Input}

theorem sound_pure (a : α) : Sound s (.ok (a, s)) := ⟨rfl, le_rfl, id⟩

theorem sound_invalidate (a : α) : Sound s (.ok (a, s.invalidate)) := ⟨rfl, le_rfl, fun _ => rfl⟩

/-- A fetch of what is left is sound. -/
theorem sound_fetch {n : Nat} (h : n ≤ s.remaining) : Sound s (s.fetch n) := by
  unfold Input.fetch
  rw [dif_pos (Input.fits_of_le_remaining h)]
  exact ⟨rfl, Nat.le_add_right _ _, id⟩

/-- One reader after another. -/
theorem Sound.bind {x : Except Stop (α × Input)} {f : α → Input → Except Stop (β × Input)} (hx : Sound s x)
    (hf : ∀ a s', Sound s' (f a s')) : Sound s (x.bind fun p => f p.1 p.2) := by
  cases x with
  | error e => exact hx
  | ok p =>
      obtain ⟨hdata, hoffset, hinvalid⟩ := hx
      have hnext := hf p.1 p.2
      show Sound s (f p.1 p.2)
      cases hrun : f p.1 p.2 with
      | error e =>
          rw [hrun] at hnext
          exact hnext
      | ok p' =>
          rw [hrun] at hnext
          obtain ⟨hdata', hoffset', hinvalid'⟩ := hnext
          exact ⟨hdata'.trans hdata, hoffset.trans hoffset', fun h => hinvalid' (hinvalid h)⟩

end Sound

/-- A program that reads, with the proof that it only ever touches the data. -/
structure Reader (α : Type) where
  run : Input → Except Stop (α × Input)
  sound : ∀ s, Sound s (run s)

namespace Reader
variable {α β : Type}

instance : Monad Reader where
  pure a := ⟨fun s => .ok (a, s), fun _ => sound_pure a⟩
  bind r f := ⟨fun s => (r.run s).bind fun p => (f p.1).run p.2,
    fun s => (r.sound s).bind (f := fun a => (f a).run) fun a => (f a).sound⟩

theorem run_bind {r : Reader α} {s s' : Input} {a : α} (h : r.run s = .ok (a, s')) (f : α → Reader β) :
    (r >>= f).run s = (f a).run s' := by
  show (r.run s).bind _ = _
  rw [h]
  rfl

theorem run_bind_ok {r : Reader α} {f : α → Reader β} {s s' : Input} {b : β}
    (h : (r >>= f).run s = .ok (b, s')) : ∃ a t, r.run s = .ok (a, t) ∧ (f a).run t = .ok (b, s') := by
  change (r.run s).bind _ = _ at h
  cases hr : r.run s with
  | error e =>
      rw [hr] at h
      cases h
  | ok p =>
      rw [hr] at h
      exact ⟨p.1, p.2, rfl, h⟩

/-! ## Stopping -/

/-- `return false`. -/
def refuse : Reader α := ⟨fun _ => .error .refused, fun _ => rfl⟩

/-- Go on only if `c`. -/
def require (c : Prop) [Decidable c] : Reader Unit := if c then pure () else refuse

/-- `if (!reader.valid()) return false`. -/
def requireValid : Reader Unit where
  run s := if s.valid then .ok ((), s) else .error .refused
  sound s := by
    split
    · exact sound_pure _
    · rfl

/-- How many bytes are left. -/
def remaining : Reader Nat := ⟨fun s => .ok (s.remaining, s), fun _ => sound_pure _⟩

/-! ## Reading -/

/-- The next `n` bytes if they are there and `n` is at most `maximum`. -/
def upTo (maximum n : Nat) : Reader (List UInt8) where
  run s := if s.valid = false ∨ n > maximum ∨ n > s.remaining then .ok ([], s.invalidate) else s.fetch n
  sound s := by
    split
    · exact sound_invalidate _
    · next h =>
      simp only [not_or, not_lt] at h
      exact sound_fetch h.2.2

/-- A little-endian word of `n` bytes; zero when they are not there. -/
def word (n : Nat) : Reader UInt64 where
  run s := if s.remaining < n then .ok (0, s.invalidate) else (s.fetch n).map fun p => (wordOfBytes p.1, p.2)
  sound s := by
    split
    · exact sound_invalidate _
    · next h =>
      have hfetch := sound_fetch (not_lt.mp h)
      cases hrun : s.fetch n with
      | error e =>
          rw [hrun] at hfetch
          exact hfetch
      | ok p =>
          rw [hrun] at hfetch
          exact hfetch

def u8 : Reader UInt8 := do
  let value ← word 1
  return value.toUInt8

def u32 : Reader UInt32 := do
  let value ← word 4
  return value.toUInt32

def u64 : Reader UInt64 := word 8

/-- `reader.u8() != 0`. -/
def u8Bool : Reader Bool := do
  let raw ← u8
  return raw != 0

/-- A byte string with its length in front. -/
def bytes (maximum : Nat) : Reader (List UInt8) := do
  let count ← u64
  upTo maximum count.toNat

/-! ## Repeating -/

/-- `n` elements, in order. -/
def times (r : Reader α) : Nat → Reader (List α)
  | 0 => return []
  | n + 1 => do
      let x ← r
      let xs ← times r n
      return x :: xs

/-- A fixed-size array, filled from the front. -/
def array (r : Reader α) : (n : Nat) → Reader (Vector α n)
  | 0 => return #v[]
  | n + 1 => do
      let xs ← array r n
      let x ← r
      return xs.push x

/-- `n` elements, each put into a container that may refuse it. -/
def timesInto {σ : Type} (r : Reader α) (put : σ → α → Option σ) : Nat → σ → Reader σ
  | 0, container => return container
  | n + 1, container => do
      let x ← r
      match put container x with
      | none => refuse
      | some container => timesInto r put n container

end Reader

end Lib

/-!
## Readers of a fixed number of bytes

A reader of a fixed layout takes the same number of bytes whatever it reads, refuses nothing, and is valid afterwards
exactly when the bytes were there. For a program that reads the same layout through a bare pointer, an invalid reader
is one that read past the end of its data.
-/

namespace Lib

open Input Reader

variable {α β : Type} {r : Reader α} {m n : Nat}

/-- **The reader takes `n` bytes**, or runs out of them. -/
def Takes (r : Reader α) (n : Nat) : Prop :=
  ∀ s, ∃ a s', r.run s = .ok (a, s') ∧ (s'.valid = true ↔ s.valid = true ∧ n ≤ s.remaining) ∧
    (s'.valid = true → s'.offset = s.offset + n)

namespace Takes

theorem pure (a : α) : Takes (Pure.pure a : Reader α) 0 := by
  intro s
  exact ⟨a, s, rfl, by simp, fun _ => rfl⟩

theorem bind {f : α → Reader β} (hr : Takes r m) (hf : ∀ a, Takes (f a) n) : Takes (r >>= f) (m + n) := by
  intro s
  obtain ⟨a, t, hrun, hvalid, hoffset⟩ := hr s
  obtain ⟨b, t', hrun', hvalid', hoffset'⟩ := hf a t
  have hsound := r.sound s
  rw [hrun] at hsound
  obtain ⟨hdata, -, -⟩ := hsound
  refine ⟨b, t', by rw [run_bind hrun, hrun'], ?_, ?_⟩
  · rw [hvalid']
    constructor
    · rintro ⟨ht, hn⟩
      obtain ⟨hs, hm⟩ := hvalid.mp ht
      have htoff := hoffset ht
      refine ⟨hs, ?_⟩
      simp only [Input.remaining, ht, hs, if_true, hdata, htoff] at hn hm ⊢
      omega
    · rintro ⟨hs, hmn⟩
      have ht : t.valid = true := hvalid.mpr ⟨hs, by omega⟩
      have htoff := hoffset ht
      refine ⟨ht, ?_⟩
      simp only [Input.remaining, ht, hs, if_true, hdata, htoff] at hmn ⊢
      omega
  · intro ht'
    rw [hoffset' ht', hoffset (hvalid'.mp ht').1, Nat.add_assoc]

theorem map {g : α → β} (hr : Takes r n) : Takes (r >>= fun a => Pure.pure (g a)) n := hr.bind fun a => pure (g a)

theorem word (n : Nat) : Takes (Reader.word n) n := by
  intro s
  by_cases hshort : s.remaining < n
  · refine ⟨0, s.invalidate, ?_, ?_, ?_⟩
    · exact if_pos hshort
    · simp only [Input.invalidate, Bool.false_eq_true, false_iff, not_and, Nat.not_le]
      intro _
      exact hshort
    · intro h
      cases h
  · have hle : n ≤ s.remaining := Nat.not_lt.mp hshort
    have hfits := fits_of_le_remaining hle
    refine ⟨Words.wordOfBytes ((s.data.drop s.offset).take n), s.advance n hfits, ?_, ?_, fun _ => rfl⟩
    · show (if s.remaining < n then _ else _) = _
      rw [if_neg hshort, Input.fetch, dif_pos hfits]
      rfl
    · show s.valid = true ↔ s.valid = true ∧ n ≤ s.remaining
      simp [hle]

theorem u64 : Takes Reader.u64 8 := word 8

theorem u8Bool : Takes Reader.u8Bool 1 := ((word 1).map (g := UInt64.toUInt8)).map

theorem array (hr : Takes r m) (n : Nat) : Takes (Reader.array r n) (n * m) := by
  induction n with
  | zero =>
      rw [Nat.zero_mul]
      exact pure _
  | succ n ih =>
      rw [Nat.succ_mul]
      exact ih.bind fun xs => hr.map

/-- **A whole byte string.** The reader stops behind its layout, or the data ends in the middle of it. -/
theorem start (hr : Takes r n) (data : List UInt8) :
    ∃ a s, r.run (Input.start data) = .ok (a, s) ∧ s.data = data ∧ (s.valid = true ↔ n ≤ data.length) ∧
      (s.valid = true → s.offset = n) := by
  obtain ⟨a, s, hrun, hvalid, hoffset⟩ := hr (Input.start data)
  have hsound := r.sound (Input.start data)
  rw [hrun] at hsound
  refine ⟨a, s, hrun, hsound.1, ?_, ?_⟩
  · rw [hvalid]
    simp [Input.start, Input.remaining]
  · intro h
    rw [hoffset h]
    exact Nat.zero_add n

end Takes

end Lib

/-!
## A program that reads a byte string and assigns to a state

An assignment is not undone when the program stops later: the state a transaction leaves is the state at the point
where it stopped. `Atomic` is therefore a property of how the program is ordered.

* `Quiet`: it never assigns. `Certain`: it never stops.
* Quiet programs in front of an atomic one, and certain programs behind it, keep it atomic: validate, then commit.
* Reading through a `Reader` is memory safe, and so is every transaction built from readers (`sound`).
-/

namespace Lib

structure Transaction (σ α : Type) where
  run : Input → σ → Except Stop (α × Input) × σ
  sound : ∀ s st, Sound s (run s st).1

namespace Transaction
variable {σ α β : Type} {x : Transaction σ α} {f : α → Transaction σ β}

/-- The second program runs in the state the first one left; if the first one stopped, that state stays. -/
def andThen (x : Except Stop (α × Input) × σ) (f : α → Input → σ → Except Stop (β × Input) × σ) :
    Except Stop (β × Input) × σ :=
  match x with
  | (.ok (a, s), st) => f a s st
  | (.error e, st) => (.error e, st)

theorem sound_andThen {s : Input} {x : Except Stop (α × Input) × σ}
    {f : α → Input → σ → Except Stop (β × Input) × σ} (hx : Sound s x.1) (hf : ∀ a s' st, Sound s' (f a s' st).1) :
    Sound s (andThen x f).1 := by
  obtain ⟨result, st⟩ := x
  cases result with
  | error e => exact hx
  | ok p =>
      -- the reader of the second program started where the first one ended
      have h := hx.bind (f := fun a s' => (f a s' st).1) fun a s' => hf a s' st
      exact h

instance : Monad (Transaction σ) where
  pure a := ⟨fun s st => (.ok (a, s), st), fun _ _ => sound_pure a⟩
  bind x f := ⟨fun s st => andThen (x.run s st) fun a => (f a).run,
    fun s st => sound_andThen (x.sound s st) fun a => (f a).sound⟩

def read (r : Reader α) : Transaction σ α := ⟨fun s st => (r.run s, st), fun s _ => r.sound s⟩

def assign (f : σ → σ) : Transaction σ Unit := ⟨fun s st => (.ok ((), s), f st), fun _ _ => sound_pure ()⟩

theorem run_bind {s s' : Input} {st st' : σ} {a : α} (h : x.run s st = (.ok (a, s'), st')) (f : α → Transaction σ β) :
    (x >>= f).run s st = (f a).run s' st' := by
  show andThen (x.run s st) _ = _
  rw [h]
  rfl

theorem run_bind_error {s : Input} {st st' : σ} {e : Stop} (h : x.run s st = (.error e, st'))
    (f : α → Transaction σ β) : (x >>= f).run s st = (.error e, st') := by
  show andThen (x.run s st) _ = _
  rw [h]
  rfl

theorem run_bind_ok {s s' : Input} {st st' : σ} {b : β} (h : (x >>= f).run s st = (.ok (b, s'), st')) :
    ∃ a t u, x.run s st = (.ok (a, t), u) ∧ (f a).run t u = (.ok (b, s'), st') := by
  change andThen (x.run s st) _ = _ at h
  cases hx : x.run s st with
  | mk result u =>
      rw [hx] at h
      cases result with
      | error e => cases h
      | ok p => exact ⟨p.1, p.2, u, rfl, h⟩

theorem read_ok {r : Reader α} {s s' : Input} {st st' : σ} {a : α} (h : (read r).run s st = (.ok (a, s'), st')) :
    r.run s = .ok (a, s') ∧ st' = st := by
  obtain ⟨hread, hstate⟩ := Prod.mk.inj h
  exact ⟨hread, hstate.symm⟩

/-! ## What keeps a transaction atomic -/

/-- It never assigns. -/
def Quiet (x : Transaction σ α) : Prop := ∀ s st, (x.run s st).2 = st

/-- It never stops. -/
def Certain (x : Transaction σ α) : Prop := ∀ s st, ∃ p, (x.run s st).1 = .ok p

/-- When it stops, the state is as it was. -/
def Atomic (x : Transaction σ α) : Prop := ∀ s st e, (x.run s st).1 = .error e → (x.run s st).2 = st

theorem quiet_read (r : Reader α) : (read (σ := σ) r).Quiet := fun _ _ => rfl

theorem Certain.atomic (hx : x.Certain) : x.Atomic := by
  intro s st e herror
  obtain ⟨p, hresult⟩ := hx s st
  rw [hresult] at herror
  cases herror

theorem Quiet.bind_atomic (hx : x.Quiet) (hf : ∀ a, (f a).Atomic) : (x >>= f).Atomic := by
  intro s st e herror
  have hstate := hx s st
  cases hresult : (x.run s st).1 with
  | error stop => rw [run_bind_error (Prod.ext hresult hstate) f]
  | ok p =>
      rw [run_bind (Prod.ext hresult hstate) f] at herror ⊢
      exact hf p.1 p.2 st e herror

end Transaction

end Lib
