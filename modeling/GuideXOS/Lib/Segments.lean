import Mathlib.Data.List.Chain
import Mathlib.Data.List.Perm.Basic

/-!
# `Segments` — labelled segments that tile an interval

A segment carries a label over `[start, stop)`. A list of segments that tiles `[a, b)` labels each of its
points exactly once. Three operations change such a list: `cut` splits one segment at the ends of a range
and relabels the middle, `overlay` does so to a whole list, and `push` appends a segment, merging it with
the last one where the two have the same label. All keep the tiling; what they do to the labels is said
point by point. `coalesce` pushes a whole list and leaves no two neighbours alike.

The last section is about ranges handed out of the interval: `Reserved` says they are disjoint and carry
no free label, and is kept when a range is handed out or taken back.
-/

namespace Lib.Segments

structure Segment (L : Type _) where
  label : L
  start : Nat
  length : Nat
  deriving DecidableEq

variable {L : Type _}

namespace Segment

def stop (s : Segment L) : Nat := s.start + s.length

def Contains (s : Segment L) (x : Nat) : Prop := s.start ≤ x ∧ x < s.stop

end Segment

open Segment

/-! ## Tilings -/

/-- The segments follow each other without gaps from `a` to `b`, and none is empty. -/
def Tiling (a b : Nat) : List (Segment L) → Prop
  | [] => a = b
  | s :: ss => s.start = a ∧ 0 < s.length ∧ Tiling s.stop b ss

/-- Some segment labels the point `x` with `l`. -/
def Labels (ss : List (Segment L)) (x : Nat) (l : L) : Prop := ∃ s ∈ ss, s.Contains x ∧ s.label = l

variable {ss : List (Segment L)} {x : Nat}

variable {l : L}

theorem labels_append {ts : List (Segment L)} : Labels (ss ++ ts) x l ↔ Labels ss x l ∨ Labels ts x l := by
  simp only [Labels, List.mem_append, or_and_right, exists_or]

variable {s : Segment L}

theorem labels_singleton : Labels [s] x l ↔ s.Contains x ∧ s.label = l := by
  simp only [Labels, List.mem_singleton, exists_eq_left]

theorem labels_cons : Labels (s :: ss) x l ↔ (s.Contains x ∧ s.label = l) ∨ Labels ss x l := by
  rw [← List.singleton_append, labels_append, labels_singleton]

theorem tiling_append {a c : Nat} {ts : List (Segment L)} :
    Tiling a c (ss ++ ts) ↔ ∃ b, Tiling a b ss ∧ Tiling b c ts := by
  induction ss generalizing a with
  | nil => exact ⟨fun h => ⟨a, rfl, h⟩, fun ⟨b, hab, h⟩ => hab ▸ h⟩
  | cons s ss ih =>
      constructor
      · rintro ⟨hs, hpos, h⟩
        obtain ⟨b, hss, hts⟩ := ih.mp h
        exact ⟨b, ⟨hs, hpos, hss⟩, hts⟩
      · rintro ⟨b, ⟨hs, hpos, hss⟩, hts⟩
        exact ⟨hs, hpos, ih.mpr ⟨b, hss, hts⟩⟩

theorem tiling_nil (a : Nat) : Tiling a a ([] : List (Segment L)) := rfl

namespace Tiling
variable {a b : Nat} {ss : List (Segment L)}
variable (h : Tiling a b ss)
include h

theorem le : a ≤ b := by
  induction ss generalizing a with
  | nil => exact Nat.le_of_eq h
  | cons s ss ih =>
      obtain ⟨hs, hpos, hrest⟩ := h
      have := ih hrest
      unfold Segment.stop at this
      omega

/-- A segment of a tiling lies in the tiled interval and is not empty. -/
theorem mem (hs : s ∈ ss) : a ≤ s.start ∧ s.stop ≤ b ∧ 0 < s.length := by
  obtain ⟨pre, post, rfl⟩ := List.append_of_mem hs
  obtain ⟨c, hpre, hstart, hpos, hpost⟩ := tiling_append.mp h
  have := hpre.le
  exact ⟨by omega, hpost.le, hpos⟩

/-- **Coverage.** Exactly the points of the interval are labelled. -/
theorem exists_labels_iff (x : Nat) : (∃ l, Labels ss x l) ↔ a ≤ x ∧ x < b := by
  induction ss generalizing a with
  | nil =>
      obtain rfl : a = b := h
      constructor
      · rintro ⟨l, s, hs, _⟩
        cases hs
      · omega
  | cons s ss ih =>
      obtain ⟨hs, hpos, hrest⟩ := h
      have hle := hrest.le
      simp only [labels_cons, exists_or, ih hrest, exists_and_left, exists_eq', and_true, Segment.Contains]
      unfold Segment.stop at *
      omega

/-- **Order.** Each segment ends before all that follow it. -/
theorem pairwise : ss.Pairwise fun s t => s.stop ≤ t.start := by
  induction ss generalizing a with
  | nil => exact List.Pairwise.nil
  | cons s ss ih => exact List.Pairwise.cons (fun t ht => (h.2.2.mem ht).1) (ih h.2.2)

/-- **No gaps.** Each segment starts where the one before it ends. -/
theorem contiguous : ss.IsChain fun s t => s.stop = t.start := by
  induction ss generalizing a with
  | nil => exact List.IsChain.nil
  | cons s ss ih =>
      obtain ⟨_, _, hrest⟩ := h
      refine List.isChain_cons.mpr ⟨fun t ht => ?_, ih hrest⟩
      obtain ⟨ts, rfl⟩ := List.head?_eq_some_iff.mp ht
      exact hrest.1.symm

/-- **Disjointness.** No point has two labels. -/
theorem label_unique {l' : L} (hl : Labels ss x l) (hl' : Labels ss x l') : l = l' := by
  induction ss generalizing a with
  | nil =>
      obtain ⟨s, hs, _⟩ := hl
      cases hs
  | cons s ss ih =>
      obtain ⟨_, _, hrest⟩ := h
      have hout : ∀ {l}, Labels ss x l → s.stop ≤ x := fun hl => ((hrest.exists_labels_iff x).mp ⟨_, hl⟩).1
      rcases labels_cons.mp hl with hx | hx
      · rcases labels_cons.mp hl' with hx' | hx'
        · exact hx.2.symm.trans hx'.2
        · exact absurd hx.1.2 (not_lt.mpr (hout hx'))
      · rcases labels_cons.mp hl' with hx' | hx'
        · exact absurd hx'.1.2 (not_lt.mpr (hout hx))
        · exact ih hrest hx hx'

end Tiling

/-- Non-empty segments that follow each other without gaps tile an interval. -/
theorem exists_tiling (hpos : ∀ s ∈ ss, 0 < s.length) (h : ss.IsChain fun s t => s.stop = t.start) :
    ∃ a b, Tiling a b ss := by
  induction ss with
  | nil => exact ⟨0, 0, rfl⟩
  | cons s ss ih =>
      obtain ⟨hs, hrest⟩ := List.forall_mem_cons.mp hpos
      obtain ⟨hnext, htail⟩ := List.isChain_cons.mp h
      cases ss with
      | nil => exact ⟨s.start, s.stop, rfl, hs, rfl⟩
      | cons t ts =>
          obtain ⟨a, b, hta, htiling⟩ := ih hrest htail
          exact ⟨s.start, b, rfl, hs, (hnext t rfl).symm, htiling⟩

/-! ## Relabelling a range -/

/-- A segment split at the ends of `[lo, hi)`, with the part inside relabelled. -/
def cut (lo hi : Nat) (f : L → L) (s : Segment L) : List (Segment L) :=
  if s.stop ≤ lo ∨ hi ≤ s.start then [s]
  else
    (if s.start < lo then [⟨s.label, s.start, lo - s.start⟩] else []) ++
      [⟨f s.label, max s.start lo, min s.stop hi - max s.start lo⟩] ++
      (if min s.stop hi < s.stop then [⟨s.label, min s.stop hi, s.stop - min s.stop hi⟩] else [])

variable {f : L → L}

theorem cut_of_disjoint {lo hi : Nat} (h : s.stop ≤ lo ∨ hi ≤ s.start) :
    cut lo hi f s = [s] := if_pos h

theorem tiling_cut {lo hi : Nat} (hlt : lo < hi) (f : L → L) (hpos : 0 < s.length) :
    Tiling s.start s.stop (cut lo hi f s) := by
  unfold cut
  split
  · exact ⟨rfl, hpos, rfl⟩
  · next hmeet =>
      -- the three pieces meet at the ends of the range clipped to the segment
      refine tiling_append.mpr ⟨min s.stop hi, tiling_append.mpr ⟨max s.start lo, ?_, rfl, ?_, ?_⟩, ?_⟩
      · split
        · exact ⟨rfl, by dsimp only; omega, show s.start + (lo - s.start) = max s.start lo by omega⟩
        · exact (max_eq_left (by omega)).symm
      · dsimp only
        unfold Segment.stop at *
        omega
      · show max s.start lo + (min s.stop hi - max s.start lo) = min s.stop hi
        unfold Segment.stop at *
        omega
      · split
        · exact ⟨rfl, by dsimp only; omega,
            show min s.stop hi + (s.stop - min s.stop hi) = s.stop by omega⟩
        · exact le_antisymm (min_le_left _ _) (by omega)

/-- **Labels after a cut.** -/
theorem labels_cut {lo hi : Nat} :
    Labels (cut lo hi f s) x l ↔ s.Contains x ∧ (if lo ≤ x ∧ x < hi then f s.label else s.label) = l := by
  unfold cut
  split
  · rw [labels_singleton]
    refine and_congr_right fun hx => ?_
    rw [if_neg (by unfold Segment.Contains at hx; omega)]
  · next hmeet =>
      have hmid : Labels [⟨f s.label, max s.start lo, min s.stop hi - max s.start lo⟩] x l ↔
          (s.Contains x ∧ lo ≤ x ∧ x < hi) ∧ f s.label = l := by
        rw [labels_singleton]
        refine and_congr_left fun _ => ?_
        simp only [Segment.Contains, Segment.stop]
        omega
      have hleft : Labels (if s.start < lo then [⟨s.label, s.start, lo - s.start⟩] else []) x l ↔
          (s.Contains x ∧ x < lo) ∧ s.label = l := by
        split
        · rw [labels_singleton]
          refine and_congr_left fun _ => ?_
          simp only [Segment.Contains, Segment.stop] at hmeet ⊢
          omega
        · simp only [Labels, List.not_mem_nil, false_and, exists_false, false_iff, Segment.Contains]
          omega
      have hright : Labels (if min s.stop hi < s.stop then [⟨s.label, min s.stop hi, s.stop - min s.stop hi⟩]
          else []) x l ↔ (s.Contains x ∧ hi ≤ x) ∧ s.label = l := by
        split
        · rw [labels_singleton]
          refine and_congr_left fun _ => ?_
          simp only [Segment.Contains, Segment.stop] at hmeet ⊢
          omega
        · simp only [Labels, List.not_mem_nil, false_and, exists_false, false_iff, Segment.Contains]
          omega
      rw [labels_append, labels_append, hleft, hmid, hright]
      by_cases hx : lo ≤ x ∧ x < hi
      · rw [if_pos hx]
        have h1 : ¬ x < lo := by omega
        have h2 : ¬ hi ≤ x := by omega
        simp only [h1, h2, hx, and_false, false_and, and_true, false_or, or_false]
      · rw [if_neg hx]
        by_cases hlow : x < lo
        · have h2 : ¬ lo ≤ x := by omega
          have h3 : ¬ hi ≤ x ∨ hi ≤ x := Decidable.em _ |>.symm
          simp only [hlow, h2, false_and, and_false, and_true, or_false]
          exact ⟨fun h => h.elim id fun h => ⟨h.1.1, h.2⟩, Or.inl⟩
        · have hhi : hi ≤ x := by omega
          have h2 : ¬ x < hi := by omega
          simp only [hlow, hhi, h2, and_false, false_and, and_true, false_or]

def overlay (lo hi : Nat) (f : L → L) (ss : List (Segment L)) : List (Segment L) := ss.flatMap (cut lo hi f)

theorem Tiling.overlay {lo hi : Nat} (hlt : lo < hi) (f : L → L) {a b : Nat} (h : Tiling a b ss) :
    Tiling a b (overlay lo hi f ss) := by
  induction ss generalizing a with
  | nil => exact h
  | cons s ss ih =>
      obtain ⟨rfl, hpos, hrest⟩ := h
      exact tiling_append.mpr ⟨s.stop, tiling_cut hlt f hpos, ih hrest⟩

/-- **Labels after an overlay**: those of the range are mapped, the others stay. -/
theorem labels_overlay {lo hi : Nat} :
    Labels (overlay lo hi f ss) x l ↔
      ∃ l', Labels ss x l' ∧ (if lo ≤ x ∧ x < hi then f l' else l') = l := by
  induction ss with
  | nil =>
      constructor
      · rintro ⟨s, hs, _⟩
        cases hs
      · rintro ⟨_, ⟨s, hs, _⟩, _⟩
        cases hs
  | cons s ss ih =>
      rw [overlay, List.flatMap_cons, labels_append, labels_cut]
      rw [← overlay, ih]
      constructor
      · rintro (⟨hx, hl⟩ | ⟨l', hl', hl⟩)
        · exact ⟨s.label, labels_cons.mpr (.inl ⟨hx, rfl⟩), hl⟩
        · exact ⟨l', labels_cons.mpr (.inr hl'), hl⟩
      · rintro ⟨l', hl', hl⟩
        rcases labels_cons.mp hl' with ⟨hx, rfl⟩ | hl'
        · exact .inl ⟨hx, hl⟩
        · exact .inr ⟨l', hl', hl⟩

/-- An overlay that one segment contains cuts this segment and no other. -/
theorem overlay_inside {lo hi a b : Nat} {pre post : List (Segment L)} (h : Tiling a b (pre ++ s :: post))
    (hlo : s.start ≤ lo) (hhi : hi ≤ s.stop) : overlay lo hi f (pre ++ s :: post) = pre ++ cut lo hi f s ++ post := by
  have hall : ∀ ts : List (Segment L), (∀ t ∈ ts, t.stop ≤ lo ∨ hi ≤ t.start) → overlay lo hi f ts = ts := by
    intro ts hts
    induction ts with
    | nil => rfl
    | cons t ts ih =>
        rw [overlay, List.flatMap_cons, cut_of_disjoint (hts t List.mem_cons_self)]
        exact congrArg (t :: ·) (ih fun t ht => hts t (List.mem_cons_of_mem _ ht))
  obtain ⟨c, hpre, hstart, _, hpost⟩ := tiling_append.mp h
  have hp := hall pre fun t ht => .inl (by have := (hpre.mem ht).2.1; omega)
  have hq := hall post fun t ht => .inr (by have := (hpost.mem ht).1; omega)
  unfold overlay at *
  rw [List.flatMap_append, List.flatMap_cons, hp, hq, List.append_assoc]

/-! ## Appending and merging -/

section Merge
variable [DecidableEq L]

/-- Appends a segment. A last segment with the same label that it continues is extended instead. -/
def push (acc : List (Segment L)) (s : Segment L) : List (Segment L) :=
  match acc.getLast? with
  | none => [s]
  | some p =>
      if p.label = s.label ∧ p.stop = s.start then acc.dropLast ++ [{ p with length := p.length + s.length }]
      else acc ++ [s]

theorem push_nil (s : Segment L) : push [] s = [s] := rfl

theorem push_concat (init : List (Segment L)) (p s : Segment L) :
    push (init ++ [p]) s =
      if p.label = s.label ∧ p.stop = s.start then init ++ [{ p with length := p.length + s.length }]
      else init ++ [p] ++ [s] := by
  rw [push, List.getLast?_concat]
  simp only [List.dropLast_concat]

variable {acc : List (Segment L)}

theorem tiling_push {a : Nat} (h : Tiling a s.start acc) (hpos : 0 < s.length) : Tiling a s.stop (push acc s) := by
  rcases List.eq_nil_or_concat' acc with rfl | ⟨init, p, rfl⟩
  · exact ⟨h.symm, hpos, rfl⟩
  · rw [push_concat]
    obtain ⟨c, hinit, hp, hppos, hstop⟩ := tiling_append.mp h
    have hstop : p.stop = s.start := hstop
    split
    · refine tiling_append.mpr ⟨c, hinit, hp, by dsimp only; omega, ?_⟩
      show p.start + (p.length + s.length) = s.stop
      unfold Segment.stop at *
      omega
    · exact tiling_append.mpr ⟨s.start, h, rfl, hpos, rfl⟩

theorem labels_push : Labels (push acc s) x l ↔ Labels acc x l ∨ (s.Contains x ∧ s.label = l) := by
  rcases List.eq_nil_or_concat' acc with rfl | ⟨init, p, rfl⟩
  · rw [push_nil, labels_singleton]
    exact ⟨Or.inr, fun h => h.elim (fun ⟨_, hs, _⟩ => absurd hs List.not_mem_nil) id⟩
  · rw [push_concat]
    split
    · next hmerge =>
        rw [labels_append, labels_append, labels_singleton, labels_singleton, or_assoc, ← hmerge.1,
          ← or_and_right]
        refine or_congr_right (and_congr_left fun _ => ?_)
        have hstop := hmerge.2
        simp only [Segment.Contains, Segment.stop] at hstop ⊢
        omega
    · rw [labels_append, labels_append, labels_singleton, labels_singleton]

/-- No two neighbours have the same label. -/
def Merged (ss : List (Segment L)) : Prop := ss.IsChain fun s t => s.label ≠ t.label

theorem merged_push {a : Nat} (h : Tiling a s.start acc) (hm : Merged acc) : Merged (push acc s) := by
  rcases List.eq_nil_or_concat' acc with rfl | ⟨init, p, rfl⟩
  · exact List.IsChain.singleton s
  · rw [push_concat]
    obtain ⟨c, _, _, _, hstop⟩ := tiling_append.mp h
    have hstop : p.stop = s.start := hstop
    split
    · rw [Merged, List.isChain_append] at hm ⊢
      refine ⟨hm.1, List.IsChain.singleton _, fun p' hp' s' hs' => ?_⟩
      rw [List.head?_cons, Option.mem_some_iff] at hs'
      subst hs'
      exact hm.2.2 p' hp' p rfl
    · next hno =>
        rw [Merged, List.isChain_append]
        refine ⟨hm, List.IsChain.singleton s, fun p' hp' s' hs' => ?_⟩
        rw [List.getLast?_concat, Option.mem_some_iff] at hp'
        rw [List.head?_cons, Option.mem_some_iff] at hs'
        subst hp' hs'
        exact fun hlabel => hno ⟨hlabel, hstop⟩

variable {ss : List (Segment L)}

omit [DecidableEq L] in
/-- The first segment of a merged tiling ends where its label does: a segment that starts where it does, has its
    label, and is not longer cannot be followed by another one. -/
theorem Merged.stop_le {a b : Nat} {t : Segment L} {ts : List (Segment L)} (hm : Merged (s :: ss))
    (hs : Tiling a b (s :: ss)) (ht : Tiling a b (t :: ts)) (hlabel : s.label = t.label)
    (hsame : ∀ x l, Labels (t :: ts) x l → Labels (s :: ss) x l) : t.stop ≤ s.stop := by
  obtain ⟨rfl, hpos, hss⟩ := hs
  obtain ⟨hstart, _, hts⟩ := ht
  by_contra hlt
  have hlt := not_le.mp hlt
  -- the point behind `s` still has the label of `t`
  have hstop := hts.le
  have hin : t.Contains s.stop := ⟨by unfold Segment.stop; omega, hlt⟩
  have hlabelled := hsame _ _ (labels_cons.mpr (.inl ⟨hin, rfl⟩))
  cases ss with
  | nil =>
      have hend : s.stop = b := hss
      omega
  | cons next rest =>
      have hnext : next.start = s.stop := hss.1
      have hnextPos : 0 < next.length := hss.2.1
      have hnextIn : next.Contains s.stop := ⟨hnext.le, by unfold Segment.stop at *; omega⟩
      have hne := (List.isChain_cons_cons.mp hm).1
      rcases labels_cons.mp hlabelled with hself | htail
      · exact absurd hself.1.2 (lt_irrefl _)
      · exact hne (hlabel.trans (Tiling.label_unique hss htail (labels_cons.mpr (.inl ⟨hnextIn, rfl⟩))))

omit [DecidableEq L] in
/-- **Canonical form.** Two merged tilings with the same labels are the same list. -/
theorem Merged.eq_of_labels {a b : Nat} {ts : List (Segment L)} (hss : Tiling a b ss) (hm : Merged ss)
    (hts : Tiling a b ts) (hm' : Merged ts) (hsame : ∀ x l, Labels ss x l ↔ Labels ts x l) : ss = ts := by
  induction ss generalizing a ts with
  | nil =>
      obtain rfl : a = b := hss
      cases ts with
      | nil => rfl
      | cons t ts =>
          obtain ⟨rfl, hpos, hrest⟩ := hts
          have hle := hrest.le
          unfold Segment.stop at hle
          omega
  | cons s ss ih =>
      cases ts with
      | nil =>
          obtain rfl : a = b := hts
          obtain ⟨rfl, hpos, hrest⟩ := hss
          have hle := hrest.le
          unfold Segment.stop at hle
          omega
      | cons t ts =>
          have hs := hss
          have ht := hts
          obtain ⟨rfl, hpos, hrest⟩ := hs
          obtain ⟨hstart, hpos', hrest'⟩ := ht
          have hfirst : s.Contains s.start := ⟨le_rfl, Nat.lt_add_of_pos_right hpos⟩
          have hfirst' : t.Contains s.start := ⟨hstart.le, hstart ▸ Nat.lt_add_of_pos_right hpos'⟩
          have hlabel : s.label = t.label :=
            hts.label_unique ((hsame _ _).mp (labels_cons.mpr (.inl ⟨hfirst, rfl⟩)))
              (labels_cons.mpr (.inl ⟨hfirst', rfl⟩))
          have hstop : s.stop = t.stop :=
            le_antisymm (hm'.stop_le hts hss hlabel.symm fun x l => (hsame x l).mp)
              (hm.stop_le hss hts hlabel fun x l => (hsame x l).mpr)
          have hlength : s.length = t.length := by
            unfold Segment.stop at hstop
            omega
          have hst : s = t := by
            cases s
            cases t
            simp_all
          subst hst
          refine congrArg (s :: ·) (ih hrest hm.tail hrest' hm'.tail fun x l => ?_)
          -- what the rest labels lies behind `s`
          have hbehind : ∀ {us : List (Segment L)}, Tiling s.stop b us → Labels us x l → ¬ s.Contains x :=
            fun hus hl hx => absurd ((hus.exists_labels_iff x).mp ⟨l, hl⟩).1 (not_le.mpr hx.2)
          constructor
          · intro hl
            exact (labels_cons.mp ((hsame x l).mp (labels_cons.mpr (.inr hl)))).resolve_left
              fun h => hbehind hrest hl h.1
          · intro hl
            exact (labels_cons.mp ((hsame x l).mpr (labels_cons.mpr (.inr hl)))).resolve_left
              fun h => hbehind hrest' hl h.1

omit [DecidableEq L] in
/-- **A range with one label** lies in one segment of a merged tiling. -/
theorem Merged.exists_segment {a b lo hi : Nat} (hm : Merged ss) (ht : Tiling a b ss) (hlt : lo < hi)
    (hall : ∀ x, lo ≤ x → x < hi → Labels ss x l) : ∃ s ∈ ss, s.label = l ∧ s.start ≤ lo ∧ hi ≤ s.stop := by
  obtain ⟨s, hs, hx, hlabel⟩ := hall lo le_rfl hlt
  refine ⟨s, hs, hlabel, hx.1, ?_⟩
  by_contra hshort
  -- the segment behind `s` would have its label
  have hbehind := hall s.stop hx.2.le (not_le.mp hshort)
  have hlt' := ((ht.exists_labels_iff s.stop).mp ⟨l, hbehind⟩).2
  obtain ⟨pre, post, rfl⟩ := List.append_of_mem hs
  obtain ⟨_, _, _, _, hpost⟩ := tiling_append.mp ht
  cases post with
  | nil =>
      have hend : s.stop = b := hpost
      omega
  | cons t post =>
      have hstart : t.start = s.stop := hpost.1
      have hpos : 0 < t.length := hpost.2.1
      have ht' : Labels (pre ++ s :: t :: post) s.stop t.label :=
        ⟨t, by simp, ⟨hstart.le, by unfold Segment.stop at *; omega⟩, rfl⟩
      have hne := (List.isChain_cons_cons.mp (List.isChain_append.mp hm).2.1).1
      exact hne (hlabel.trans (ht.label_unique hbehind ht'))

/-- Pushing a whole list. -/
def coalesce (ss : List (Segment L)) : List (Segment L) := ss.foldl push []

theorem foldl_push {a b c : Nat} (hacc : Tiling a b acc) (hm : Merged acc) (hss : Tiling b c ss) :
    Tiling a c (ss.foldl push acc) ∧ Merged (ss.foldl push acc) ∧
      ∀ x l, Labels (ss.foldl push acc) x l ↔ Labels acc x l ∨ Labels ss x l := by
  induction ss generalizing acc b with
  | nil =>
      obtain rfl : b = c := hss
      exact ⟨hacc, hm, fun x l => ⟨Or.inl, fun h => h.elim id fun ⟨_, hs, _⟩ => absurd hs List.not_mem_nil⟩⟩
  | cons s ss ih =>
      obtain ⟨rfl, hpos, hrest⟩ := hss
      obtain ⟨htile, hmerged, hlabels⟩ := ih (tiling_push hacc hpos) (merged_push hacc hm) hrest
      refine ⟨htile, hmerged, fun x l => ?_⟩
      rw [List.foldl_cons, hlabels, labels_push, labels_cons, or_assoc]

/-- **What coalescing keeps**, and what it achieves. -/
theorem tiling_coalesce {a b : Nat} (h : Tiling a b ss) : Tiling a b (coalesce ss) :=
  (foldl_push (tiling_nil a) List.IsChain.nil h).1

theorem merged_coalesce {a b : Nat} (h : Tiling a b ss) : Merged (coalesce ss) :=
  (foldl_push (tiling_nil a) List.IsChain.nil h).2.1

theorem labels_coalesce {a b : Nat} (h : Tiling a b ss) : Labels (coalesce ss) x l ↔ Labels ss x l := by
  have hall := (foldl_push (tiling_nil a) List.IsChain.nil h).2.2 x l
  rw [coalesce, hall]
  exact ⟨fun hl => hl.elim (fun ⟨_, hs, _⟩ => absurd hs List.not_mem_nil) id, Or.inr⟩

end Merge

/-! ## Ranges handed out -/

/-- A range of points. -/
structure Range where
  start : Nat
  length : Nat

namespace Range

def stop (r : Range) : Nat := r.start + r.length

def Disjoint (r r' : Range) : Prop := r.stop ≤ r'.start ∨ r'.stop ≤ r.start

theorem Disjoint.symm {r r' : Range} (h : r.Disjoint r') : r'.Disjoint r := h.elim Or.inr Or.inl

end Range

/-- **The ranges handed out** are disjoint, and no free label is left in them. -/
structure Reserved (free : L → Prop) (ss : List (Segment L)) (live : List Range) : Prop where
  nonempty : ∀ r ∈ live, 0 < r.length
  disjoint : live.Pairwise Range.Disjoint
  taken : ∀ r ∈ live, ∀ x, r.start ≤ x → x < r.stop → ∃ l, Labels ss x l ∧ ¬ free l

namespace Reserved
variable {free : L → Prop} {ss ss' : List (Segment L)} {live live' : List Range}

theorem nil : Reserved free ss [] :=
  ⟨fun _ hr => absurd hr List.not_mem_nil, List.Pairwise.nil, fun _ hr => absurd hr List.not_mem_nil⟩

theorem perm (h : Reserved free ss live) (hp : live.Perm live') : Reserved free ss live' where
  nonempty r hr := h.nonempty r (hp.mem_iff.mpr hr)
  disjoint := (hp.pairwise_iff fun {_ _} => Range.Disjoint.symm).mp h.disjoint
  taken r hr := h.taken r (hp.mem_iff.mpr hr)

/-- **Handing out** a range whose points were all free. -/
theorem reserve {a b : Nat} (h : Reserved free ss live) (htile : Tiling a b ss) {r : Range} (hpos : 0 < r.length)
    (hwas : ∀ x, r.start ≤ x → x < r.stop → ∃ l, Labels ss x l ∧ free l)
    (hnow : ∀ x, r.start ≤ x → x < r.stop → ∃ l, Labels ss' x l ∧ ¬ free l)
    (hout : ∀ x l, ¬ (r.start ≤ x ∧ x < r.stop) → Labels ss x l → Labels ss' x l) :
    Reserved free ss' (r :: live) := by
  have hdisj : ∀ r' ∈ live, r.Disjoint r' := by
    intro r' hr'
    -- a common point would be free and not free
    by_contra hmeet
    have hpos' := h.nonempty r' hr'
    unfold Range.Disjoint Range.stop at hmeet
    obtain ⟨l, hl, hfree⟩ := hwas (max r.start r'.start) (le_max_left _ _) (by unfold Range.stop; omega)
    obtain ⟨l', hl', hnot⟩ := h.taken r' hr' (max r.start r'.start) (le_max_right _ _)
      (by unfold Range.stop; omega)
    exact hnot (htile.label_unique hl hl' ▸ hfree)
  refine ⟨fun r' hr' => ?_, List.Pairwise.cons hdisj h.disjoint, fun r' hr' x hlo hhi => ?_⟩
  · rcases List.mem_cons.mp hr' with rfl | hmem
    · exact hpos
    · exact h.nonempty r' hmem
  rcases List.mem_cons.mp hr' with rfl | hmem
  · exact hnow x hlo hhi
  · obtain ⟨l, hl, hfree⟩ := h.taken r' hmem x hlo hhi
    refine ⟨l, hout x l (fun hin => ?_) hl, hfree⟩
    obtain ⟨l', hl', hfree'⟩ := hwas x hin.1 hin.2
    exact hfree (htile.label_unique hl hl' ▸ hfree')

/-- **Taking back** one range: the others keep their labels. -/
theorem release {r : Range} (h : Reserved free ss (r :: live))
    (hout : ∀ x l, ¬ (r.start ≤ x ∧ x < r.stop) → Labels ss x l → Labels ss' x l) :
    Reserved free ss' live where
  nonempty r' hr' := h.nonempty r' (List.mem_cons_of_mem _ hr')
  disjoint := (List.pairwise_cons.mp h.disjoint).2
  taken r' hr' x hlo hhi := by
    obtain ⟨l, hl, hfree⟩ := h.taken r' (List.mem_cons_of_mem _ hr') x hlo hhi
    refine ⟨l, hout x l (fun hin => ?_) hl, hfree⟩
    rcases (List.pairwise_cons.mp h.disjoint).1 r' hr' with hd | hd
    · exact absurd hlo (not_le.mpr (lt_of_lt_of_le hin.2 hd))
    · exact absurd hhi (not_lt.mpr (le_trans hd hin.1))

end Reserved

end Lib.Segments
