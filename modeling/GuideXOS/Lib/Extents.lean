import Mathlib.Data.List.Pairwise

/-!
# `Extents` — address ranges that share no address

An extent is a half-open range of addresses. What is live in an address space is a list of extents of which no
two share an address; a range that is given back is cut out of each of them. `apart_iff` turns disjointness into
arithmetic, and `pairwise_without` says that cutting keeps it. Extents that lie one behind the other tile the range from
the first to the last (`Tiles`); a tile cannot change alone (`Tiles.replace`).
-/

namespace Lib.Extents

/-- The addresses from `start` up to, not including, `stop`. -/
structure Extent where
  start : Nat
  stop : Nat
  deriving DecidableEq

namespace Extent

def Contains (e : Extent) (x : Nat) : Prop := e.start ≤ x ∧ x < e.stop

def Vacant (e : Extent) : Prop := e.stop ≤ e.start

instance (e : Extent) : Decidable e.Vacant := inferInstanceAs (Decidable (_ ≤ _))

/-- No address lies in both. -/
def Apart (e f : Extent) : Prop := ∀ x, ¬ (e.Contains x ∧ f.Contains x)

theorem apart_iff {e f : Extent} :
    Apart e f ↔ e.stop ≤ f.start ∨ f.stop ≤ e.start ∨ e.Vacant ∨ f.Vacant := by
  unfold Apart Contains Vacant
  constructor
  · intro h
    have hmax := h (max e.start f.start)
    omega
  · rintro h x ⟨he, hf⟩
    omega

instance (e f : Extent) : Decidable (Apart e f) := decidable_of_iff _ apart_iff.symm

theorem Apart.symm {e f : Extent} (h : Apart e f) : Apart f e := fun x hx => h x hx.symm

/-- The part of `e` outside `f`, in at most two pieces. -/
def cut (e f : Extent) : List Extent :=
  [⟨e.start, min e.stop f.start⟩, ⟨max e.start f.stop, e.stop⟩].filter fun p => ¬ p.Vacant

theorem mem_cut {e f p : Extent} :
    p ∈ cut e f ↔ ¬ p.Vacant ∧ (p = ⟨e.start, min e.stop f.start⟩ ∨ p = ⟨max e.start f.stop, e.stop⟩) := by
  simp only [cut, List.mem_filter, List.mem_cons, List.not_mem_nil, or_false, decide_eq_true_eq]
  exact And.comm

/-- **What is left.** The pieces cover the addresses of `e` that are not in `f`. -/
theorem contains_cut {e f : Extent} (hf : ¬ f.Vacant) (x : Nat) :
    (∃ p ∈ cut e f, p.Contains x) ↔ e.Contains x ∧ ¬ f.Contains x := by
  unfold Vacant at hf
  constructor
  · rintro ⟨p, hp, hx⟩
    obtain ⟨-, rfl | rfl⟩ := mem_cut.mp hp
    all_goals
      simp only [Contains] at hx ⊢
      omega
  · rintro ⟨he, hx⟩
    rcases Nat.lt_or_ge x f.start with hlow | hlow
    · refine ⟨⟨e.start, min e.stop f.start⟩, mem_cut.mpr ⟨?_, .inl rfl⟩, ?_⟩
      all_goals
        simp only [Contains, Vacant] at he ⊢
        omega
    · refine ⟨⟨max e.start f.stop, e.stop⟩, mem_cut.mpr ⟨?_, .inr rfl⟩, ?_⟩
      all_goals
        simp only [Contains, Vacant] at he hx ⊢
        omega

theorem Apart.of_mem_cut {e f g p : Extent} (hf : ¬ f.Vacant) (h : Apart e g) (hp : p ∈ cut e f) : Apart p g :=
  fun x hx => h x ⟨((contains_cut hf x).mp ⟨p, hp, hx.1⟩).1, hx.2⟩

theorem pairwise_cut {e f : Extent} (hf : ¬ f.Vacant) : (cut e f).Pairwise Apart := by
  refine List.Pairwise.filter _ (List.pairwise_pair.mpr (apart_iff.mpr ?_))
  unfold Vacant at *
  dsimp only
  omega

/-- A piece starts where `e` starts or where `f` stops, and does not reach past `e`. -/
theorem start_of_mem_cut {e f p : Extent} (hp : p ∈ cut e f) :
    (p.start = e.start ∨ p.start = f.stop) ∧ p.stop ≤ e.stop ∧ ¬ p.Vacant := by
  obtain ⟨hne, rfl | rfl⟩ := mem_cut.mp hp
  · exact ⟨.inl rfl, Nat.min_le_left _ _, hne⟩
  · have hstart : max e.start f.stop = e.start ∨ max e.start f.stop = f.stop := by omega
    exact ⟨hstart, Nat.le_refl _, hne⟩

end Extent

open Extent

/-! ## Lists of extents -/

/-- What is left of the extents after `f` is given back. -/
def without (es : List Extent) (f : Extent) : List Extent := es.flatMap fun e => cut e f

variable {es : List Extent}

theorem mem_without {f p : Extent} : p ∈ without es f ↔ ∃ e ∈ es, p ∈ cut e f :=
  List.mem_flatMap

/-- **Cutting keeps extents disjoint.** -/
theorem pairwise_without {f : Extent} (hf : ¬ f.Vacant) (h : es.Pairwise Apart) : (without es f).Pairwise Apart := by
  refine List.pairwise_flatMap.mpr ⟨fun e _ => pairwise_cut hf, h.imp fun {e e'} happ p hp q hq => ?_⟩
  exact ((happ.of_mem_cut hf hp).symm.of_mem_cut hf hq).symm

/-- An extent that starts at or above the end of all others shares no address with them. -/
theorem forall_apart_of_le {e : Extent} (h : ∀ f ∈ es, f.Vacant ∨ f.stop ≤ e.start) : ∀ f ∈ es, Apart e f := by
  intro f hf
  rcases h f hf with hempty | hle
  · exact apart_iff.mpr (.inr (.inr (.inr hempty)))
  · exact apart_iff.mpr (.inr (.inl hle))

/-! ## Tilings -/

/-- The extents lie one behind the other, none of them vacant, from `lo` to `hi`. -/
def Tiles : Nat → List Extent → Nat → Prop
  | lo, [], hi => lo = hi
  | lo, e :: es, hi => e.start = lo ∧ e.start < e.stop ∧ Tiles e.stop es hi

theorem tiles_append {lo hi : Nat} {fs : List Extent} :
    Tiles lo (es ++ fs) hi ↔ ∃ mid, Tiles lo es mid ∧ Tiles mid fs hi := by
  induction es generalizing lo with
  | nil => exact ⟨fun h => ⟨lo, rfl, h⟩, fun ⟨_, hmid, h⟩ => hmid ▸ h⟩
  | cons e es ih =>
      constructor
      · rintro ⟨hstart, hlt, h⟩
        obtain ⟨mid, hes, hfs⟩ := ih.mp h
        exact ⟨mid, ⟨hstart, hlt, hes⟩, hfs⟩
      · rintro ⟨mid, ⟨hstart, hlt, hes⟩, hfs⟩
        exact ⟨hstart, hlt, ih.mpr ⟨mid, hes, hfs⟩⟩

theorem Tiles.le {lo hi : Nat} (h : Tiles lo es hi) : lo ≤ hi := by
  induction es generalizing lo with
  | nil => exact Nat.le_of_eq h
  | cons e es ih =>
      obtain ⟨rfl, hlt, h⟩ := h
      exact Nat.le_trans (Nat.le_of_lt hlt) (ih h)

/-- A tile is not vacant and lies between the ends. -/
theorem Tiles.mem {lo hi : Nat} {e : Extent} (h : Tiles lo es hi) (he : e ∈ es) :
    lo ≤ e.start ∧ e.start < e.stop ∧ e.stop ≤ hi := by
  induction es generalizing lo with
  | nil => cases he
  | cons f es ih =>
      obtain ⟨rfl, hlt, h⟩ := h
      rcases List.mem_cons.mp he with rfl | he
      · exact ⟨Nat.le_refl _, hlt, h.le⟩
      · obtain ⟨hstart, hpos, hstop⟩ := ih h he
        exact ⟨Nat.le_trans (Nat.le_of_lt hlt) hstart, hpos, hstop⟩

/-- Where tiles start says where they end. -/
theorem Tiles.unique_stop {lo mid mid' : Nat} (h : Tiles lo es mid) (h' : Tiles lo es mid') : mid = mid' := by
  induction es generalizing lo with
  | nil => exact h.symm.trans h'
  | cons e es ih => exact ih h.2.2 h'.2.2

/-- Where tiles end says where they start. -/
theorem Tiles.unique_start {mid mid' hi : Nat} (h : Tiles mid es hi) (h' : Tiles mid' es hi) : mid = mid' := by
  cases es with
  | nil => exact h.trans h'.symm
  | cons e es => exact h.1.symm.trans h'.1

/-- **Changing one tile** leaves a tiling only if the tile keeps its ends. -/
theorem Tiles.replace {lo hi : Nat} {fs : List Extent} {e e' : Extent} (h : Tiles lo (es ++ e :: fs) hi)
    (h' : Tiles lo (es ++ e' :: fs) hi) : e' = e := by
  obtain ⟨mid, hes, hstart, -, hfs⟩ := tiles_append.mp h
  obtain ⟨mid', hes', hstart', -, hfs'⟩ := tiles_append.mp h'
  have hmid := hes.unique_stop hes'
  have hstop := hfs.unique_start hfs'
  cases e
  cases e'
  simp_all

end Lib.Extents
