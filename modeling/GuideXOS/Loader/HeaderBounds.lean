import GuideXOS.Loader.HeaderParsing

/-!
# `HeaderBounds` — the header parsers against the end of the file

Every loop runs at most as often as a field of the header says, so that the parsers end. What they read lies in the file
if and only if the sums of their checks do not wrap (`readsInside_iff_sumsFit`): the check of an entry passes a wrapped end,
the check of an interpreter path passes a path that starts in front of the file, and the check of a kernel's table passes a
table whose last entry is shorter than a program header.
-/

namespace GuideXOS.Loader
open Lib Lib.Bounds

namespace ElfBuffer
variable {ε α : Type _} (b : ElfBuffer)

def ehdr : Ehdr := Ehdr.ofBytes (b.peek 0 ehdrSize)

/-- The offset of the `i`-th program header. -/
def offsetAt (i : Nat) : UInt64 := entryOffset b.ehdr.e_phoff b.ehdr.e_phentsize i

/-- The `i`-th program header. -/
def phdr (i : Nat) : Phdr := Phdr.ofBytes (b.peek (b.offsetAt i) phdrSize)

/-! ## Records -/

variable {b} {offset : UInt64} {n : Nat} {f : List UInt8 → Checked ε α}

theorem field_header (offset n : Nat) (h : offset + n ≤ ehdrSize) :
    Words.wordAt (b.peek 0 ehdrSize) offset n = Words.wordOfBytes (b.peek (UInt64.ofNat offset) n) := by
  have hoffset : offset < 2 ^ 64 := lt_of_le_of_lt (Nat.le_of_add_right_le h) (by decide)
  rw [Words.wordAt, peek, peek, UInt64.toNat_ofNat_of_lt' hoffset, UInt64.toNat_zero, List.drop_zero, List.drop_take,
    List.take_take, Nat.min_eq_left (Nat.le_sub_of_add_le' h)]

theorem ehdr_phoff : b.ehdr.e_phoff = Words.wordOfBytes (b.peek 32 8) := field_header 32 8 (by decide)

theorem ehdr_phnum : b.ehdr.e_phnum = (Words.wordOfBytes (b.peek 56 2)).toUInt16 :=
  congrArg UInt64.toUInt16 (field_header 56 2 (by decide))

theorem ehdr_phentsize : b.ehdr.e_phentsize = (Words.wordOfBytes (b.peek 54 2)).toUInt16 :=
  congrArg UInt64.toUInt16 (field_header 54 2 (by decide))

theorem record_eq_peek (h : offset.toNat + n ≤ b.bytes.length) :
    (b.record offset n : Checked ε _) = .ok (b.peek offset n) := fetch_ok h

theorem eq_peek_of_record {bytes : List UInt8} (h : (b.record offset n : Checked ε _) = .ok bytes) :
    bytes = b.peek offset n := by
  unfold record fetch at h
  split at h
  · exact (Except.ok.inj h).symm
  · cases h

theorem inBounds_record_bind (hn : n ≠ 0) :
    InBounds (b.record offset n >>= f) ↔ offset.toNat + n ≤ b.bytes.length ∧ InBounds (f (b.peek offset n)) := by
  rw [inBounds_bind, record, inBounds_fetch]
  constructor
  · rintro ⟨hbounds, hrest⟩
    have hinside := hbounds.resolve_left hn
    exact ⟨hinside, hrest _ (fetch_ok hinside)⟩
  · rintro ⟨hinside, hrest⟩
    refine ⟨.inr hinside, fun bytes hbytes => ?_⟩
    rw [fetch_ok hinside] at hbytes
    exact Except.ok.inj hbytes ▸ hrest

theorem size_lt_ehdr : b.size < UInt64.ofNat ehdrSize ↔ ¬ ehdrSize ≤ b.bytes.length := by
  rw [UInt64.lt_iff_toNat_lt, b.size_toNat, not_le]
  rfl

theorem inBounds_header_bind (h : ehdrSize ≤ b.bytes.length) :
    InBounds (b.record 0 ehdrSize >>= f) ↔ InBounds (f (b.peek 0 ehdrSize)) := by
  rw [inBounds_record_bind (by decide)]
  exact and_iff_right (by rwa [UInt64.toNat_zero, Nat.zero_add])

/-- **A check against the end of the file** is right if its sum does not wrap. -/
theorem inside_iff {start : UInt64} (hn : n < 2 ^ 64) (hstart : start.toNat + b.bytes.length < 2 ^ 64)
    (hpasses : start + offset + UInt64.ofNat n ≤ start + b.size) :
    offset.toNat + n ≤ b.bytes.length ↔ start.toNat + offset.toNat + n < 2 ^ 64 := by
  have hsize := b.size_toNat
  rw [UInt64.le_iff_toNat_le, UInt64.toNat_add, UInt64.toNat_add, UInt64.toNat_add, hsize,
    UInt64.toNat_ofNat_of_lt' hn] at hpasses
  omega

theorem inside_file_iff (hn : n < 2 ^ 64) (hpasses : offset + UInt64.ofNat n ≤ b.size) :
    offset.toNat + n ≤ b.bytes.length ↔ offset.toNat + n < 2 ^ 64 := by
  have hsmall := b.small
  have hstart : (0 : UInt64).toNat + b.bytes.length < 2 ^ 64 := by
    rw [UInt64.toNat_zero]
    omega
  have hsum : 0 + offset + UInt64.ofNat n ≤ 0 + b.size := by rwa [UInt64.zero_add, UInt64.zero_add]
  have hinside := inside_iff hn hstart hsum
  rwa [UInt64.toNat_zero, Nat.zero_add] at hinside

/-- The string of a path whose end is checked. -/
theorem inBounds_stringAt {e : ε} {n : UInt64} (hpasses : offset + n ≤ b.size) :
    InBounds (b.stringAt e offset (n - 1)) ↔
      (1 < n → n - 1 ≤ b.maxSize → offset.toNat + n.toNat < 2 ^ 64) := by
  have hsize := b.size_toNat
  have hfits := b.fits
  have hpos := b.base_pos
  have hmax := b.maxSize_lt
  have hn := n.toNat_lt
  have hone : (n - 1).toNat = (2 ^ 64 - 1 + n.toNat) % 2 ^ 64 := UInt64.toNat_sub n 1
  rw [UInt64.le_iff_toNat_le, UInt64.toNat_add, hsize] at hpasses
  unfold stringAt
  split
  · rename_i hlong
    exact iff_of_true (inBounds_threw _) fun _ hshort => absurd hshort (not_le.mpr hlong)
  · rename_i hshort
    rw [not_lt] at hshort
    have hle := UInt64.le_iff_toNat_le.mp hshort
    rw [inBounds_fetch, UInt64.lt_iff_toNat_lt, UInt64.toNat_one]
    constructor
    · rintro hin hlt -
      omega
    · intro h
      by_cases hlt : 1 < n.toNat
      · have := h hlt hshort
        omega
      · left
        omega

/-- A string that is read inside is built, unless it is too long. -/
theorem stringAt_ok_iff {e : ε} {n : UInt64} (h : InBounds (b.stringAt e offset n)) :
    (∃ path, b.stringAt e offset n = .ok path) ↔ n ≤ b.maxSize := by
  unfold stringAt at h ⊢
  split at h
  · rename_i hlong
    constructor
    · rintro ⟨path, hpath⟩
      rw [if_pos hlong] at hpath
      cases hpath
    · exact fun hshort => absurd hshort (not_le.mpr hlong)
  · rename_i hshort
    rw [if_neg hshort]
    refine iff_of_true ?_ (not_lt.mp hshort)
    rw [inBounds_fetch] at h
    exact ⟨_, if_pos h⟩

/-! ## Interpreter paths -/

variable (b)

/-- The segment is the one of an interpreter, and its end passes the check. -/
def HasPath (phdr : Phdr) : Prop := phdr.p_type = PT_INTERP ∧ phdr.p_offset + phdr.p_filesz ≤ b.size

/-- The end of a path that is read does not wrap. -/
def PathFits (phdr : Phdr) : Prop :=
  b.HasPath phdr → 1 < phdr.p_filesz → phdr.p_filesz - 1 ≤ b.maxSize → phdr.p_offset.toNat + phdr.p_filesz.toNat < 2 ^ 64

instance (phdr : Phdr) : Decidable (b.HasPath phdr) := inferInstanceAs (Decidable (_ ∧ _))

variable {b}

theorem inBounds_path {e : ε} {phdr : Phdr} (h : b.HasPath phdr) :
    InBounds (b.stringAt e phdr.p_offset (phdr.p_filesz - 1)) ↔ b.PathFits phdr := by
  rw [inBounds_stringAt h.2]
  exact ⟨fun hfits _ => hfits, fun hfits => hfits h⟩

end ElfBuffer

/-! ## `ParseHeader` -/

namespace ELFLoader
variable (b : ElfBuffer)

/-- The `i`-th entry passes the check of its end. -/
def EntryPasses (i : Nat) : Prop := entryEnd b b.ehdr i ≤ b.base + b.size

/-- The turn of the `i`-th entry goes on: a path that is too long throws. -/
def EntryGoes (i : Nat) : Prop := EntryPasses b i ∧ (b.HasPath (b.phdr i) → (b.phdr i).p_filesz - 1 ≤ b.maxSize)

/-- The sums of the checks of the `i`-th entry do not wrap. -/
def EntryFits (i : Nat) : Prop :=
  EntryPasses b i → b.base.toNat + (b.offsetAt i).toNat + phdrSize < 2 ^ 64 ∧ b.PathFits (b.phdr i)

variable {b} {i : Nat} {loader : ELFLoader}

theorem headerTurn_eq (h : EntryPasses b i) :
    headerTurn b b.ehdr i loader = (b.record (b.offsetAt i) phdrSize >>= fun record =>
      let phdr := Phdr.ofBytes record
      if b.HasPath phdr then
        (b.stringAt .lengthError phdr.p_offset (phdr.p_filesz - 1)).map fun path =>
          .next { loader.note phdr with hasInterpreter := true, interpreterPath := path }
      else if phdr.p_type = PT_INTERP then .ok (.next { loader.note phdr with hasInterpreter := true })
      else .ok (.next (loader.note phdr))) := by
  rw [headerTurn, if_neg (not_lt.mpr h)]
  refine congrArg _ (funext fun record => ?_)
  by_cases htype : (Phdr.ofBytes record).p_type = PT_INTERP
  · by_cases hend : (Phdr.ofBytes record).p_offset + (Phdr.ofBytes record).p_filesz ≤ b.size
    · simp only [ElfBuffer.HasPath, htype, hend, if_true, and_self]
      rfl
    · simp only [ElfBuffer.HasPath, htype, hend, if_true, if_false, and_false]
      rfl
  · simp only [ElfBuffer.HasPath, htype, if_false, false_and]
    rfl

theorem inside_entry (h : EntryPasses b i) :
    (b.offsetAt i).toNat + phdrSize ≤ b.bytes.length ↔ b.base.toNat + (b.offsetAt i).toNat + phdrSize < 2 ^ 64 :=
  ElfBuffer.inside_iff (by decide) b.fits h

theorem inBounds_headerTurn : InBounds (headerTurn b b.ehdr i loader) ↔ EntryFits b i := by
  by_cases hpasses : EntryPasses b i
  · have hfits : EntryFits b i ↔
        b.base.toNat + (b.offsetAt i).toNat + phdrSize < 2 ^ 64 ∧ b.PathFits (b.phdr i) :=
      ⟨fun h => h hpasses, fun h _ => h⟩
    rw [headerTurn_eq hpasses, ElfBuffer.inBounds_record_bind (by decide), inside_entry hpasses, hfits]
    refine and_congr_right fun _ => ?_
    show InBounds (ite (b.HasPath (b.phdr i)) _ _) ↔ _
    by_cases hpath : b.HasPath (b.phdr i)
    · rw [if_pos hpath, inBounds_map]
      exact ElfBuffer.inBounds_path hpath
    · rw [if_neg hpath]
      refine iff_of_true ?_ fun h => absurd h hpath
      split <;> exact inBounds_ok _
  · rw [headerTurn, if_pos (not_le.mp hpasses)]
    exact iff_of_true (inBounds_ok _) fun h => absurd h hpasses

/-- A turn goes on unless the entry does not pass or its path throws. -/
theorem headerTurn_goes (h : EntryFits b i) :
    (∃ loader', headerTurn b b.ehdr i loader = .ok (.next loader')) ↔ EntryGoes b i := by
  by_cases hpasses : EntryPasses b i
  · obtain ⟨hend, hpathFits⟩ := h hpasses
    have hgoes : EntryGoes b i ↔ (b.HasPath (b.phdr i) → (b.phdr i).p_filesz - 1 ≤ b.maxSize) :=
      ⟨fun h => h.2, fun h => ⟨hpasses, h⟩⟩
    rw [headerTurn_eq hpasses, ElfBuffer.record_eq_peek ((inside_entry hpasses).mpr hend), hgoes]
    show (∃ loader', ite (b.HasPath (b.phdr i)) _ _ = _) ↔ _
    by_cases hpath : b.HasPath (b.phdr i)
    · have hstring := ElfBuffer.stringAt_ok_iff ((ElfBuffer.inBounds_path (e := StringError.lengthError) hpath).mpr hpathFits)
      rw [if_pos hpath]
      constructor
      · rintro ⟨loader', hloader⟩ -
        obtain ⟨path, hread, -⟩ := Fallible.map_eq_ok.mp hloader
        exact hstring.mp ⟨path, hread⟩
      · intro hshort
        obtain ⟨path, hread⟩ := hstring.mpr (hshort hpath)
        exact ⟨_, Fallible.map_eq_ok.mpr ⟨path, hread, rfl⟩⟩
    · rw [if_neg hpath]
      refine iff_of_true ?_ fun h => absurd h hpath
      split <;> exact ⟨_, rfl⟩
  · rw [headerTurn, if_pos (not_le.mp hpasses)]
    refine iff_of_false ?_ fun h => hpasses h.1
    rintro ⟨loader', hloader⟩
    cases hloader

theorem inBounds_headerLoop {last : ELFLoader → Bool × ELFLoader} {n : Nat} :
    InBounds (loop (headerTurn b b.ehdr) last n 0 loader) ↔
      ∀ i < n, (∀ j < i, EntryGoes b j) → EntryFits b i :=
  inBounds_loop_zero (fun _ _ => inBounds_headerTurn) (fun _ _ => headerTurn_goes)

/-- The sums of the checks of every entry that `ParseHeader` reaches do not wrap. -/
def TableFits (b : ElfBuffer) : Prop :=
  ehdrSize ≤ b.bytes.length → b.ehdr.e_phoff > 0 →
    ∀ i < b.ehdr.e_phnum.toNat, (∀ j < i, EntryGoes b j) → EntryFits b i

theorem inBounds_parseHeader : InBounds (parseHeader b loader) ↔ TableFits b := by
  unfold parseHeader TableFits
  by_cases hlong : ehdrSize ≤ b.bytes.length
  · rw [if_neg (ElfBuffer.size_lt_ehdr.not.mpr (not_not.mpr hlong)), ElfBuffer.inBounds_header_bind hlong]
    show InBounds (ite (b.ehdr.e_phoff > 0 ∧ b.ehdr.e_phnum > 0) _ _) ↔ _
    split
    · rename_i htable
      refine inBounds_headerLoop.trans ⟨fun h _ _ => h, fun h => h hlong htable.1⟩
    · rename_i htable
      refine iff_of_true (inBounds_ok _) fun _ hphoff i hi => absurd ⟨hphoff, ?_⟩ htable
      exact UInt16.lt_iff_toNat_lt.mpr (Nat.zero_lt_of_lt hi)
  · rw [if_pos (ElfBuffer.size_lt_ehdr.mpr hlong)]
    exact iff_of_true (inBounds_ok _) fun h => absurd h hlong

end ELFLoader

/-! ## `GetInterpreterPath` -/

namespace DynamicLinker
variable (b : ElfBuffer)

/-- The `i`-th entry passes the check of its end. -/
def EntryPasses (i : Nat) : Prop := b.offsetAt i + UInt64.ofNat phdrSize ≤ b.size

/-- The end of the `i`-th entry does not wrap. -/
def EntryFits (i : Nat) : Prop := EntryPasses b i → (b.offsetAt i).toNat + phdrSize < 2 ^ 64

/-- The search for the path goes on behind the `i`-th entry. -/
def PathGoes (i : Nat) : Prop := EntryPasses b i ∧ ¬ b.HasPath (b.phdr i)

/-- The sums of the checks of every entry that `GetInterpreterPath` reaches do not wrap. -/
def PathTableFits : Prop :=
  ehdrSize ≤ b.bytes.length →
    ∀ i < b.ehdr.e_phnum.toNat, (∀ j < i, PathGoes b j) →
      EntryFits b i ∧ (EntryPasses b i → b.PathFits (b.phdr i))

variable {b} {i : Nat}

theorem inside_entry (h : EntryPasses b i) :
    (b.offsetAt i).toNat + phdrSize ≤ b.bytes.length ↔ (b.offsetAt i).toNat + phdrSize < 2 ^ 64 :=
  ElfBuffer.inside_file_iff (by decide) h

/-- The record of an entry that passes the check. -/
theorem inBounds_entry_bind {ε α : Type _} (h : EntryPasses b i) {f : List UInt8 → Checked ε α} :
    InBounds (b.record (b.offsetAt i) phdrSize >>= f) ↔
      EntryFits b i ∧ InBounds (f (b.peek (b.offsetAt i) phdrSize)) := by
  rw [ElfBuffer.inBounds_record_bind (by decide), inside_entry h]
  exact and_congr_left fun _ => ⟨fun hend _ => hend, fun hfits => hfits h⟩

theorem interpreterTurn_stops (h : ¬ EntryPasses b i) :
    interpreterTurn b b.ehdr.e_phoff b.ehdr.e_phentsize i () = .ok (.leave []) := if_pos (not_le.mp h)

theorem interpreterTurn_eq (h : EntryPasses b i) :
    interpreterTurn b b.ehdr.e_phoff b.ehdr.e_phentsize i () =
      (b.record (b.offsetAt i) phdrSize >>= fun record =>
        let phdr := Phdr.ofBytes record
        if b.HasPath phdr then (b.stringAt .lengthError phdr.p_offset (phdr.p_filesz - 1)).map .leave
        else .ok (.next ())) := by
  refine (if_neg (not_lt.mpr h)).trans (congrArg _ (funext fun record => ?_))
  by_cases htype : (Phdr.ofBytes record).p_type = PT_INTERP
  · by_cases hend : (Phdr.ofBytes record).p_offset + (Phdr.ofBytes record).p_filesz ≤ b.size
    · simp only [ElfBuffer.HasPath, htype, hend, if_true, and_self]
      rfl
    · simp only [ElfBuffer.HasPath, htype, hend, if_true, if_false, and_false]
      rfl
  · simp only [ElfBuffer.HasPath, htype, if_false, false_and]
    rfl

theorem inBounds_interpreterTurn :
    InBounds (interpreterTurn b b.ehdr.e_phoff b.ehdr.e_phentsize i ()) ↔
      EntryFits b i ∧ (EntryPasses b i → b.PathFits (b.phdr i)) := by
  by_cases hpasses : EntryPasses b i
  · rw [interpreterTurn_eq hpasses, inBounds_entry_bind hpasses]
    refine and_congr_right fun _ => ?_
    show InBounds (ite (b.HasPath (b.phdr i)) _ _) ↔ _
    by_cases hpath : b.HasPath (b.phdr i)
    · rw [if_pos hpath, inBounds_map]
      exact (ElfBuffer.inBounds_path hpath).trans ⟨fun h _ => h, fun h => h hpasses⟩
    · rw [if_neg hpath]
      exact iff_of_true (inBounds_ok _) fun _ h => absurd h hpath
  · rw [interpreterTurn_stops hpasses]
    exact iff_of_true (inBounds_ok _) ⟨fun h => absurd h hpasses, fun h => absurd h hpasses⟩

theorem interpreterTurn_goes (h : EntryFits b i ∧ (EntryPasses b i → b.PathFits (b.phdr i))) :
    (∃ s, interpreterTurn b b.ehdr.e_phoff b.ehdr.e_phentsize i () = .ok (.next s)) ↔ PathGoes b i := by
  by_cases hpasses : EntryPasses b i
  · rw [interpreterTurn_eq hpasses, ElfBuffer.record_eq_peek ((inside_entry hpasses).mpr (h.1 hpasses))]
    show (∃ s, ite (b.HasPath (b.phdr i)) _ _ = _) ↔ _
    by_cases hpath : b.HasPath (b.phdr i)
    · rw [if_pos hpath]
      refine iff_of_false ?_ fun h => h.2 hpath
      rintro ⟨s, hs⟩
      obtain ⟨path, -, hleave⟩ := Fallible.map_eq_ok.mp hs
      cases hleave
    · rw [if_neg hpath]
      exact iff_of_true ⟨(), rfl⟩ ⟨hpasses, hpath⟩
  · rw [interpreterTurn_stops hpasses]
    refine iff_of_false ?_ fun h => hpasses h.1
    rintro ⟨s, hs⟩
    cases hs

theorem inBounds_interpreterLoop {n : Nat} :
    InBounds (loop (interpreterTurn b b.ehdr.e_phoff b.ehdr.e_phentsize) (fun _ => []) n 0 ()) ↔
      ∀ i < n, (∀ j < i, PathGoes b j) → EntryFits b i ∧ (EntryPasses b i → b.PathFits (b.phdr i)) :=
  inBounds_loop_zero (fun _ _ => inBounds_interpreterTurn) (fun _ _ => interpreterTurn_goes)

theorem inBounds_getInterpreterPath : InBounds (getInterpreterPath b) ↔ PathTableFits b := by
  unfold getInterpreterPath PathTableFits
  by_cases hlong : ehdrSize ≤ b.bytes.length
  · rw [if_neg (ElfBuffer.size_lt_ehdr.not.mpr (not_not.mpr hlong)), ElfBuffer.inBounds_header_bind hlong]
    exact inBounds_interpreterLoop.trans ⟨fun h _ => h, fun h => h hlong⟩
  · rw [if_pos (ElfBuffer.size_lt_ehdr.mpr hlong)]
    exact iff_of_true (inBounds_ok _) fun h => absurd h hlong

/-! ## `GetDynamicTag` -/

variable (b)

/-- The search for the dynamic segment goes on behind the `i`-th entry. -/
def SegmentGoes (i : Nat) : Prop := EntryPasses b i ∧ (b.phdr i).p_type ≠ PT_DYNAMIC

/-- The `i`-th entry is the dynamic segment that the search finds. -/
def IsDynamic (i : Nat) : Prop :=
  i < b.ehdr.e_phnum.toNat ∧ (∀ j < i, SegmentGoes b j) ∧ EntryPasses b i ∧ (b.phdr i).p_type = PT_DYNAMIC

/-- The `i`-th entry of a dynamic table passes the check of its end. -/
def DynPasses (table : UInt64) (i : Nat) : Prop := dynOffset table i + UInt64.ofNat dynSize ≤ b.size

/-- The `i`-th entry of a dynamic table. -/
def dyn (table : UInt64) (i : Nat) : Dyn := Dyn.ofBytes (b.peek (dynOffset table i) dynSize)

/-- The search for a tag goes on behind the `i`-th entry of a dynamic table. -/
def TagGoes (table tag : UInt64) (i : Nat) : Prop :=
  DynPasses b table i ∧ (dyn b table i).d_tag ≠ DT_NULL ∧ (dyn b table i).d_tag ≠ tag

/-- The end of the `i`-th entry of a dynamic table does not wrap. -/
def DynFits (table : UInt64) (i : Nat) : Prop := DynPasses b table i → (dynOffset table i).toNat + dynSize < 2 ^ 64

/-- The file has the three fields that `GetDynamicTag` reads, and the sums of the checks of every entry that it reaches do
    not wrap, in the program header table and in the dynamic table. -/
def TagTableFits (tag : UInt64) : Prop :=
  58 ≤ b.bytes.length ∧
  (∀ i < b.ehdr.e_phnum.toNat, (∀ j < i, SegmentGoes b j) → EntryFits b i) ∧
  ∀ k, IsDynamic b k → (b.phdr k).p_offset ≠ 0 →
    ∀ i < ((b.phdr k).p_filesz / UInt64.ofNat dynSize).toNat,
      (∀ j < i, TagGoes b (b.phdr k).p_offset tag j) → DynFits b (b.phdr k).p_offset i

variable {b}

theorem dynamicSegmentTurn_stops (h : ¬ EntryPasses b i) :
    dynamicSegmentTurn b b.ehdr.e_phoff b.ehdr.e_phentsize i () = .ok (.leave (0, 0)) := if_pos (not_le.mp h)

theorem dynamicSegmentTurn_eq (h : EntryPasses b i) :
    dynamicSegmentTurn b b.ehdr.e_phoff b.ehdr.e_phentsize i () =
      (b.record (b.offsetAt i) phdrSize >>= fun record =>
        .ok (let phdr := Phdr.ofBytes record
          if phdr.p_type = PT_DYNAMIC then .leave (phdr.p_offset, phdr.p_filesz) else .next ())) := by
  refine (if_neg (not_lt.mpr h)).trans (congrArg _ (funext fun record => ?_))
  exact (apply_ite Except.ok _ _ _).symm

theorem inBounds_dynamicSegmentTurn :
    InBounds (dynamicSegmentTurn b b.ehdr.e_phoff b.ehdr.e_phentsize i ()) ↔ EntryFits b i := by
  by_cases hpasses : EntryPasses b i
  · rw [dynamicSegmentTurn_eq hpasses, inBounds_entry_bind hpasses]
    exact and_iff_left (inBounds_ok _)
  · rw [dynamicSegmentTurn_stops hpasses]
    exact iff_of_true (inBounds_ok _) fun h => absurd h hpasses

theorem dynamicSegmentTurn_next_iff (h : EntryFits b i) :
    (∃ s, dynamicSegmentTurn b b.ehdr.e_phoff b.ehdr.e_phentsize i () = .ok (.next s)) ↔ SegmentGoes b i := by
  by_cases hpasses : EntryPasses b i
  · rw [dynamicSegmentTurn_eq hpasses, ElfBuffer.record_eq_peek ((inside_entry hpasses).mpr (h hpasses))]
    show (∃ s, Except.ok (ite ((b.phdr i).p_type = PT_DYNAMIC) _ _) = _) ↔ _
    split
    · rename_i htype
      refine iff_of_false ?_ fun h => h.2 htype
      rintro ⟨s, hs⟩
      cases hs
    · rename_i htype
      exact iff_of_true ⟨(), rfl⟩ ⟨hpasses, htype⟩
  · rw [dynamicSegmentTurn_stops hpasses]
    refine iff_of_false ?_ fun h => hpasses h.1
    rintro ⟨s, hs⟩
    cases hs

/-- The search ends at an entry that does not pass or at the dynamic segment. -/
theorem dynamicSegmentTurn_leave (h : EntryFits b i) {r : UInt64 × UInt64}
    (hr : dynamicSegmentTurn b b.ehdr.e_phoff b.ehdr.e_phentsize i () = .ok (.leave r)) :
    ¬ EntryPasses b i ∧ r = (0, 0) ∨
      EntryPasses b i ∧ (b.phdr i).p_type = PT_DYNAMIC ∧ r = ((b.phdr i).p_offset, (b.phdr i).p_filesz) := by
  by_cases hpasses : EntryPasses b i
  · rw [dynamicSegmentTurn_eq hpasses, ElfBuffer.record_eq_peek ((inside_entry hpasses).mpr (h hpasses))] at hr
    replace hr : Except.ok (ite ((b.phdr i).p_type = PT_DYNAMIC) _ _) = Except.ok (Turn.leave r) := hr
    split at hr
    · rename_i htype
      cases hr
      exact .inr ⟨hpasses, htype, rfl⟩
    · cases hr
  · rw [dynamicSegmentTurn_stops hpasses] at hr
    cases hr
    exact .inl ⟨hpasses, rfl⟩

theorem inBounds_segmentLoop {n : Nat} :
    InBounds (loop (dynamicSegmentTurn b b.ehdr.e_phoff b.ehdr.e_phentsize) (fun _ => (0, 0)) n 0 ()) ↔
      ∀ i < n, (∀ j < i, SegmentGoes b j) → EntryFits b i :=
  inBounds_loop_zero (fun _ _ => inBounds_dynamicSegmentTurn) (fun _ _ => dynamicSegmentTurn_next_iff)

/-- **The search for the dynamic segment** finds the entry that is one, or nothing. -/
theorem segmentLoop_ok_iff
    (hfits : ∀ i < b.ehdr.e_phnum.toNat, (∀ j < i, SegmentGoes b j) → EntryFits b i) {r : UInt64 × UInt64} (hr : r.1 ≠ 0) :
    loop (dynamicSegmentTurn b b.ehdr.e_phoff b.ehdr.e_phentsize) (fun _ => (0, 0)) b.ehdr.e_phnum.toNat 0 () = .ok r ↔
      ∃ k, IsDynamic b k ∧ r = ((b.phdr k).p_offset, (b.phdr k).p_filesz) := by
  constructor
  · intro h
    rcases loop_ends (fun _ _ => dynamicSegmentTurn_next_iff) hfits h with
      ⟨k, hk, hreached, s', hleave⟩ | ⟨⟨s', rfl⟩, -⟩
    · rcases dynamicSegmentTurn_leave (hfits k hk hreached) hleave with ⟨-, rfl⟩ | ⟨hpasses, htype, rfl⟩
      · exact absurd rfl hr
      · exact ⟨k, ⟨hk, hreached, hpasses, htype⟩, rfl⟩
    · exact absurd rfl hr
  · rintro ⟨k, ⟨hk, hreached, hpasses, htype⟩, rfl⟩
    refine loop_eq_leave hk (fun j hj s => ?_) (fun s => ?_)
    · rw [Nat.zero_add]
      have hfitsj := hfits j (by omega) fun j' hj' => hreached j' (by omega)
      exact (dynamicSegmentTurn_next_iff hfitsj).mpr (hreached j hj)
    · rw [Nat.zero_add]
      have hinside := (inside_entry hpasses).mpr (hfits k hk hreached hpasses)
      exact ((dynamicSegmentTurn_eq hpasses).trans (by rw [ElfBuffer.record_eq_peek hinside]; rfl)).trans
        (congrArg _ (if_pos htype))

/-! ### The dynamic table -/

section Table
variable {table tag : UInt64}

theorem inside_dyn (h : DynPasses b table i) :
    (dynOffset table i).toNat + dynSize ≤ b.bytes.length ↔ (dynOffset table i).toNat + dynSize < 2 ^ 64 :=
  ElfBuffer.inside_file_iff (by decide) h

theorem dynamicTagTurn_stops (h : ¬ DynPasses b table i) : dynamicTagTurn b table tag i () = .ok (.leave none) :=
  if_pos (not_le.mp h)

theorem dynamicTagTurn_eq (h : DynPasses b table i) :
    dynamicTagTurn b table tag i () = (b.record (dynOffset table i) dynSize >>= fun record =>
      .ok (let dyn := Dyn.ofBytes record
        if dyn.d_tag = DT_NULL then .leave none
        else if dyn.d_tag = tag then .leave (some dyn.d_val) else .next ())) := by
  refine (if_neg (not_lt.mpr h)).trans (congrArg _ (funext fun record => ?_))
  simp only [apply_ite (f := Except.ok)]
  rfl

theorem inBounds_dynamicTagTurn : InBounds (dynamicTagTurn b table tag i ()) ↔ DynFits b table i := by
  by_cases hpasses : DynPasses b table i
  · rw [dynamicTagTurn_eq hpasses, ElfBuffer.inBounds_record_bind (by decide), inside_dyn hpasses,
      and_iff_left (inBounds_ok _)]
    exact ⟨fun h _ => h, fun h => h hpasses⟩
  · rw [dynamicTagTurn_stops hpasses]
    exact iff_of_true (inBounds_ok _) fun h => absurd h hpasses

theorem dynamicTagTurn_goes (h : DynFits b table i) :
    (∃ s, dynamicTagTurn b table tag i () = .ok (.next s)) ↔ TagGoes b table tag i := by
  by_cases hpasses : DynPasses b table i
  · rw [dynamicTagTurn_eq hpasses, ElfBuffer.record_eq_peek ((inside_dyn hpasses).mpr (h hpasses))]
    show (∃ s, Except.ok (ite ((dyn b table i).d_tag = DT_NULL) _ (ite ((dyn b table i).d_tag = tag) _ _)) = _) ↔ _
    split
    · rename_i hnull
      refine iff_of_false ?_ fun h => h.2.1 hnull
      rintro ⟨s, hs⟩
      cases hs
    · rename_i hnull
      split
      · rename_i htag
        refine iff_of_false ?_ fun h => h.2.2 htag
        rintro ⟨s, hs⟩
        cases hs
      · rename_i htag
        exact iff_of_true ⟨(), rfl⟩ ⟨hpasses, hnull, htag⟩
  · rw [dynamicTagTurn_stops hpasses]
    refine iff_of_false ?_ fun h => hpasses h.1
    rintro ⟨s, hs⟩
    cases hs

theorem inBounds_tagLoop {n : Nat} :
    InBounds (loop (dynamicTagTurn b table tag) (fun _ => none) n 0 ()) ↔
      ∀ i < n, (∀ j < i, TagGoes b table tag j) → DynFits b table i :=
  inBounds_loop_zero (fun _ _ => inBounds_dynamicTagTurn) (fun _ _ => dynamicTagTurn_goes)

end Table

theorem inBounds_lookUpTag {tag : UInt64} (segment : UInt64 × UInt64) :
    InBounds (lookUpTag b tag segment) ↔
      (segment.1 ≠ 0 → ∀ i < (segment.2 / UInt64.ofNat dynSize).toNat,
        (∀ j < i, TagGoes b segment.1 tag j) → DynFits b segment.1 i) := by
  unfold lookUpTag
  split
  · rename_i hzero
    exact iff_of_true (inBounds_ok _) fun h => absurd hzero h
  · rename_i hne
    rw [inBounds_tagLoop]
    exact ⟨fun h _ => h, fun h => h hne⟩

theorem inBounds_getDynamicTag {tag : UInt64} : InBounds (getDynamicTag b tag) ↔ TagTableFits b tag := by
  unfold getDynamicTag TagTableFits
  rw [ElfBuffer.inBounds_record_bind (by decide), ElfBuffer.inBounds_record_bind (by decide),
    ElfBuffer.inBounds_record_bind (by decide), ← ElfBuffer.ehdr_phoff, ← ElfBuffer.ehdr_phnum,
    ← ElfBuffer.ehdr_phentsize, inBounds_bind, inBounds_segmentLoop]
  constructor
  · rintro ⟨-, hlong, -, hentries, htable⟩
    refine ⟨hlong, hentries, fun k hk hoffset => ?_⟩
    have hsegment := (segmentLoop_ok_iff hentries hoffset).mpr ⟨k, hk, rfl⟩
    have hlookUp := (inBounds_lookUpTag _).mp (htable _ hsegment)
    exact hlookUp hoffset
  · rintro ⟨hlong, hentries, htable⟩
    refine ⟨?_, hlong, ?_, hentries, fun segment hsegment => (inBounds_lookUpTag _).mpr fun hoffset => ?_⟩
    · exact le_trans (by decide) hlong
    · exact le_trans (by decide) hlong
    · obtain ⟨k, hk, rfl⟩ := (segmentLoop_ok_iff hentries hoffset).mp hsegment
      exact htable k hk hoffset

end DynamicLinker

/-! ## `ValidateKernelBuffer` -/

namespace KernelValidator

variable {i : Nat}

/-- The product of an entry, as C++ computes it. -/
theorem entryProduct_toNat (hi : i < 2 ^ 16) (entsize : UInt16) :
    (entryProduct i entsize).toNat =
      if i * entsize.toNat < 2 ^ 31 then i * entsize.toNat else 2 ^ 64 - 2 ^ 32 + i * entsize.toNat := by
  have hsize := entsize.toNat_lt
  have hproduct : i * entsize.toNat < 2 ^ 32 :=
    lt_of_le_of_lt (Nat.mul_le_mul (Nat.le_of_lt_succ hi) (Nat.le_of_lt_succ hsize)) (by decide)
  have hword : (UInt32.ofNat i * entsize.toUInt32).toNat = i * entsize.toNat := by
    rw [UInt32.toNat_mul, UInt16.toNat_toUInt32, UInt32.toNat_ofNat_of_lt' (lt_trans hi (by decide)),
      Nat.mod_eq_of_lt hproduct]
  show ((UInt32.ofNat i * entsize.toUInt32).toBitVec.signExtend 64).toNat = _
  have hsign : (UInt32.ofNat i * entsize.toUInt32).toBitVec.msb = decide (2 ^ 31 ≤ i * entsize.toNat) := by
    rw [BitVec.msb_eq_decide, UInt32.toNat_toBitVec, hword]
  rw [BitVec.toNat_signExtend, BitVec.toNat_setWidth, UInt32.toNat_toBitVec, hword, hsign,
    Nat.mod_eq_of_lt (lt_trans hproduct (by decide))]
  by_cases hlow : i * entsize.toNat < 2 ^ 31
  · rw [if_pos hlow, if_neg (by simpa using hlow), Nat.add_zero]
  · rw [if_neg hlow, if_pos (by simpa using hlow), Nat.add_comm]

variable (b : ElfBuffer)

/-- The header is one of a file that the validator looks at further. -/
def Recognised : Prop :=
  (validateArchitecture b.ehdr {}).isIA64 = true ∧ (validateArchitecture b.ehdr {}).isELF64 = true

/-- The end of the table does not wrap, its last entry is a whole program header, and no offset of an entry that is
    negative in 32 bits wraps. -/
def TableInside : Prop :=
  let phoff := b.ehdr.e_phoff.toNat
  let phnum := b.ehdr.e_phnum.toNat
  let phentsize := b.ehdr.e_phentsize.toNat
  phoff + phnum * phentsize < 2 ^ 64 ∧
  (phdrSize ≤ phentsize ∨ phoff + (phnum - 1) * phentsize + phdrSize ≤ b.bytes.length) ∧
  ∀ i < phnum, i * phentsize < 2 ^ 31 ∨ 2 ^ 32 ≤ phoff + i * phentsize

/-- The table of a header whose check passes is inside. -/
def KernelTableFits : Prop :=
  ehdrSize ≤ b.bytes.length → Recognised b → b.ehdr.e_phoff > 0 → b.ehdr.e_phnum > 0 → phdrEnd b.ehdr ≤ b.size →
    TableInside b

variable {b} {phdrs : List Phdr}

/-- **The entries lie in the file** if and only if the table does. -/
theorem entries_inside_iff (hphnum : 0 < b.ehdr.e_phnum.toNat) (hpasses : phdrEnd b.ehdr ≤ b.size) :
    (∀ i < b.ehdr.e_phnum.toNat, (b.offsetAt i).toNat + phdrSize ≤ b.bytes.length) ↔ TableInside b := by
  have hsmall := b.small
  have hcount := b.ehdr.e_phnum.toNat_lt
  have hsize := b.ehdr.e_phentsize.toNat_lt
  have hproduct : b.ehdr.e_phnum.toNat * b.ehdr.e_phentsize.toNat < 2 ^ 32 :=
    lt_of_le_of_lt (Nat.mul_le_mul (Nat.le_of_lt_succ hcount) (Nat.le_of_lt_succ hsize)) (by decide)
  have hend : (b.ehdr.e_phoff.toNat + b.ehdr.e_phnum.toNat * b.ehdr.e_phentsize.toNat) % 2 ^ 64 ≤ b.bytes.length := by
    have hle := UInt64.le_iff_toNat_le.mp hpasses
    rw [b.size_toNat, phdrEnd, UInt64.toNat_add, UInt64.toNat_mul, UInt16.toNat_toUInt64, UInt16.toNat_toUInt64,
      Nat.mod_eq_of_lt (lt_trans hproduct (by decide))] at hle
    exact hle
  have hoffset : ∀ i < b.ehdr.e_phnum.toNat, (b.offsetAt i).toNat = (b.ehdr.e_phoff.toNat +
      if i * b.ehdr.e_phentsize.toNat < 2 ^ 31 then i * b.ehdr.e_phentsize.toNat
      else 2 ^ 64 - 2 ^ 32 + i * b.ehdr.e_phentsize.toNat) % 2 ^ 64 := by
    intro i hi
    rw [ElfBuffer.offsetAt, entryOffset, UInt64.toNat_add, entryProduct_toNat (by omega)]
  have hmul : ∀ i < b.ehdr.e_phnum.toNat, i * b.ehdr.e_phentsize.toNat ≤
      (b.ehdr.e_phnum.toNat - 1) * b.ehdr.e_phentsize.toNat := by
    intro i hi
    exact Nat.mul_le_mul_right _ (by omega)
  have hlast : (b.ehdr.e_phnum.toNat - 1) * b.ehdr.e_phentsize.toNat + b.ehdr.e_phentsize.toNat =
      b.ehdr.e_phnum.toNat * b.ehdr.e_phentsize.toNat := by
    rw [← Nat.succ_mul, Nat.succ_eq_add_one, Nat.sub_add_cancel hphnum]
  have hphoff := b.ehdr.e_phoff.toNat_lt
  unfold TableInside
  simp only [phdrSize]
  constructor
  · intro h
    have hfirst := h 0 hphnum
    rw [hoffset 0 hphnum, Nat.zero_mul, if_pos (by decide)] at hfirst
    refine ⟨by omega, ?_, fun i hi => ?_⟩
    · by_cases hwhole : 56 ≤ b.ehdr.e_phentsize.toNat
      · exact .inl hwhole
      · have hlow : (b.ehdr.e_phnum.toNat - 1) * b.ehdr.e_phentsize.toNat ≤ 65535 * 56 :=
          Nat.mul_le_mul (by omega) (by omega)
        have hin := h (b.ehdr.e_phnum.toNat - 1) (by omega)
        rw [hoffset _ (by omega), if_pos (by omega)] at hin
        right
        omega
    · have hin := h i hi
      rw [hoffset i hi] at hin
      have hle := hmul i hi
      split at hin <;> omega
  · rintro ⟨hsum, hwhole, hnegative⟩ i hi
    have hle := hmul i hi
    have hi' := hnegative i hi
    rw [hoffset i hi]
    split
    · omega
    · -- a product of 31 bits or more has a factor of more than 56
      have hfactor : 56 ≤ b.ehdr.e_phentsize.toNat := by
        by_contra hsmall
        have hlow : i * b.ehdr.e_phentsize.toNat ≤ 65535 * 56 := Nat.mul_le_mul (by omega) (by omega)
        omega
      omega

theorem inBounds_phdrTurn : InBounds (phdrTurn b b.ehdr i phdrs) ↔ (b.offsetAt i).toNat + phdrSize ≤ b.bytes.length :=
  (ElfBuffer.inBounds_record_bind (by decide)).trans (and_iff_left (inBounds_ok _))

theorem phdrTurn_eq (h : (b.offsetAt i).toNat + phdrSize ≤ b.bytes.length) :
    phdrTurn b b.ehdr i phdrs = .ok (.next (phdrs ++ [b.phdr i])) := by
  show (b.record (b.offsetAt i) phdrSize >>= fun record => .ok (Turn.next (phdrs ++ [Phdr.ofBytes record]))) = _
  rw [ElfBuffer.record_eq_peek h]
  rfl

theorem phdrTurn_goes (h : (b.offsetAt i).toNat + phdrSize ≤ b.bytes.length) :
    (∃ phdrs', phdrTurn b b.ehdr i phdrs = .ok (.next phdrs')) ↔ True :=
  iff_of_true ⟨_, phdrTurn_eq h⟩ trivial

theorem inBounds_phdrLoop {n : Nat} {last : List Phdr → List Phdr} :
    InBounds (loop (phdrTurn b b.ehdr) last n 0 []) ↔
      ∀ i < n, (b.offsetAt i).toNat + phdrSize ≤ b.bytes.length := by
  have hloop : InBounds (loop (phdrTurn b b.ehdr) last n 0 []) ↔
      ∀ i < n, (∀ j < i, True) → (b.offsetAt i).toNat + phdrSize ≤ b.bytes.length :=
    inBounds_loop_zero (fun _ _ => inBounds_phdrTurn) (fun _ _ => phdrTurn_goes)
  rw [hloop]
  exact ⟨fun h i hi => h i hi fun _ _ => trivial, fun h i hi _ => h i hi⟩

theorem inBounds_validateKernelBuffer {mode : ValidationMode} :
    InBounds (validateKernelBuffer b mode) ↔ KernelTableFits b := by
  unfold validateKernelBuffer KernelTableFits
  by_cases hlong : ehdrSize ≤ b.bytes.length
  · rw [if_neg (ElfBuffer.size_lt_ehdr.not.mpr (not_not.mpr hlong)), ElfBuffer.inBounds_header_bind hlong]
    show InBounds (ite ((!(validateArchitecture b.ehdr {}).isIA64 || !(validateArchitecture b.ehdr {}).isELF64) = true)
      _ _) ↔ _
    by_cases hknown : Recognised b
    · rw [if_neg (by simp [hknown.1, hknown.2]), show Ehdr.ofBytes (b.peek 0 ehdrSize) = b.ehdr from rfl]
      by_cases htable : b.ehdr.e_phoff > 0 ∧ b.ehdr.e_phnum > 0
      · rw [if_pos htable]
        by_cases hpasses : phdrEnd b.ehdr ≤ b.size
        · have hphnum := UInt16.lt_iff_toNat_lt.mp htable.2
          rw [if_neg (not_lt.mpr hpasses), inBounds_bind, inBounds_phdrLoop, entries_inside_iff hphnum hpasses]
          constructor
          · rintro ⟨hinside, -⟩ - - - - -
            exact hinside
          · intro h
            exact ⟨h hlong hknown htable.1 htable.2 hpasses, fun phdrs _ => inBounds_ok _⟩
        · rw [if_pos (not_le.mp hpasses)]
          exact iff_of_true (inBounds_ok _) fun _ _ _ _ h => absurd h hpasses
      · rw [if_neg htable]
        exact iff_of_true (inBounds_ok _) fun _ _ hphoff hphnum => absurd ⟨hphoff, hphnum⟩ htable
    · have hreject : (!(validateArchitecture b.ehdr {}).isIA64 || !(validateArchitecture b.ehdr {}).isELF64) = true := by
        rw [← Bool.not_and, Bool.not_eq_true', Bool.eq_false_iff]
        exact fun h => hknown ((Bool.and_eq_true _ _).mp h)
      rw [if_pos hreject]
      exact iff_of_true (inBounds_ok _) fun _ h => absurd h hknown
  · rw [if_pos (ElfBuffer.size_lt_ehdr.mpr hlong)]
    exact iff_of_true (inBounds_ok _) fun h => absurd h hlong

end KernelValidator

/-! ## All four -/

/-- The four parsers read inside the file. -/
structure ReadsInside (b : ElfBuffer) (loader : ELFLoader) (mode : ValidationMode) (tag : UInt64) : Prop where
  parseHeader : InBounds (loader.parseHeader b)
  validateKernelBuffer : InBounds (KernelValidator.validateKernelBuffer b mode)
  getInterpreterPath : InBounds (DynamicLinker.getInterpreterPath b)
  getDynamicTag : InBounds (DynamicLinker.getDynamicTag b tag)

/-- The sums of the four checks do not wrap. -/
structure SumsFit (b : ElfBuffer) (tag : UInt64) : Prop where
  parseHeader : ELFLoader.TableFits b
  validateKernelBuffer : KernelValidator.KernelTableFits b
  getInterpreterPath : DynamicLinker.PathTableFits b
  getDynamicTag : DynamicLinker.TagTableFits b tag

/-- **The parsers read inside the file** if and only if the sums of their checks do not wrap. -/
theorem readsInside_iff_sumsFit (b : ElfBuffer) (loader : ELFLoader) (mode : ValidationMode) (tag : UInt64) :
    ReadsInside b loader mode tag ↔ SumsFit b tag := by
  constructor
  · intro h
    exact ⟨ELFLoader.inBounds_parseHeader.mp h.parseHeader,
      KernelValidator.inBounds_validateKernelBuffer.mp h.validateKernelBuffer,
      DynamicLinker.inBounds_getInterpreterPath.mp h.getInterpreterPath,
      DynamicLinker.inBounds_getDynamicTag.mp h.getDynamicTag⟩
  · intro h
    exact ⟨ELFLoader.inBounds_parseHeader.mpr h.parseHeader,
      KernelValidator.inBounds_validateKernelBuffer.mpr h.validateKernelBuffer,
      DynamicLinker.inBounds_getInterpreterPath.mpr h.getInterpreterPath,
      DynamicLinker.inBounds_getDynamicTag.mpr h.getDynamicTag⟩

/-- A program header alone behind the header of an executable: the path of an interpreter that starts 16 bytes in front
    of the file and ends in it. -/
def wrappedPath : ElfBuffer where
  base := 0x10000
  bytes := ELFMAG ++ [ELFCLASS64, ELFDATA2LSB, EV_CURRENT] ++ List.replicate 9 0 ++
    Words.bytesOfWord 2 2 ++ Words.bytesOfWord 2 50 ++ Words.bytesOfWord 4 1 ++ Words.bytesOfWord 8 0 ++
    Words.bytesOfWord 8 64 ++ List.replicate 12 0 ++
    Words.bytesOfWord 2 64 ++ Words.bytesOfWord 2 56 ++ Words.bytesOfWord 2 1 ++ List.replicate 6 0 ++
    Words.bytesOfWord 4 3 ++ Words.bytesOfWord 4 4 ++ Words.bytesOfWord 8 0xFFFFFFFFFFFFFFF0 ++
    List.replicate 16 0 ++ Words.bytesOfWord 8 32 ++ Words.bytesOfWord 8 32 ++ Words.bytesOfWord 8 1
  maxSize := 0x7FFFFFFFFFFFFFFE
  base_pos := by decide
  fits := by decide
  small := by decide
  maxSize_lt := by decide

/-- **The path in front of the file** is read. -/
theorem readsOutside :
    ¬ ∀ (b : ElfBuffer) (loader : ELFLoader) (mode : ValidationMode) (tag : UInt64), ReadsInside b loader mode tag := by
  intro h
  have houtside : DynamicLinker.getInterpreterPath wrappedPath = .error .outside := by decide +kernel
  exact (h wrappedPath ⟨.ofBytes [], [], [], 0, 0, 0, 0, false, 0, false, [], false⟩ .kernel 0).getInterpreterPath houtside

end GuideXOS.Loader
