import GuideXOS.Storage.PEBounds

/-!
# `RelocationTable` — the entries of `.reloc`, and the run over them

A table is read from the mapped image, before anything is relocated: its entries in order, whether every block is whole,
and where the reading stops. The loops of `applyPEBaseRelocations` add the delta to the words that the entries name, if no
word that they change is in a part of the table that they have yet to read (`runs_relocateBlocks`).
-/

namespace GuideXOS.Storage.PE
open Lib Lib.Words Lib.Bounds Lib.Increments

/-! ## The table -/

/-- An entry, where it is in the image, and the page of its block. -/
structure TableEntry where
  offset : Nat
  page : UInt32
  word : UInt16
  deriving DecidableEq

namespace TableEntry

variable (e : TableEntry)

def type : UInt16 := e.word >>> 12

/-- The address that the entry names. -/
def target : Nat := e.page.toNat + (e.word &&& 0x0FFF).toNat

def IsPadding : Prop := e.type = IMAGE_REL_BASED_ABSOLUTE

/-- The entry names a word of an image of `size` bytes. -/
def Applies (size : Nat) (e : TableEntry) : Prop := e.type = IMAGE_REL_BASED_DIR64 ∧ e.target + 8 ≤ size

/-- The address that the loader computes for it. -/
def loaderTarget : Nat := entryTarget e.page e.word

def LoaderApplies (size : Nat) (e : TableEntry) : Prop := e.type = IMAGE_REL_BASED_DIR64 ∧ e.loaderTarget + 8 ≤ size

instance (e : TableEntry) : Decidable e.IsPadding := inferInstanceAs (Decidable (_ = _))
instance (size : Nat) (e : TableEntry) : Decidable (e.Applies size) := inferInstanceAs (Decidable (_ ∧ _))
instance (size : Nat) (e : TableEntry) : Decidable (e.LoaderApplies size) := inferInstanceAs (Decidable (_ ∧ _))

end TableEntry

structure Table where
  entries : List TableEntry
  /-- No block has a size that its table or the image does not have. -/
  whole : Bool
  /-- Where the reading stops. -/
  stop : Nat

/-- The entries of a block. -/
def blockEntries (image : List UInt8) (page : UInt32) : Nat → Nat → List TableEntry
  | 0, _ => []
  | n + 1, offset => ⟨offset, page, (wordAt image offset 2).toUInt16⟩ :: blockEntries image page n (offset + 2)

/-- The blocks from an offset on. -/
def tableFrom (image : List UInt8) (endOffset : Nat) : Nat → Nat → Table
  | 0, offset => ⟨[], true, offset⟩
  | left + 1, offset =>
      if offset < endOffset ∧ offset + blockHeaderSize ≤ image.length then
        let sizeOfBlock := (wordAt image (offset + 4) 4).toNat
        if sizeOfBlock = 0 then ⟨[], true, offset + blockHeaderSize⟩
        else if sizeOfBlock < blockHeaderSize ∨ sizeOfBlock > endOffset - offset ∨ sizeOfBlock > image.length - offset then
          ⟨[], false, offset + blockHeaderSize⟩
        else
          let rest := tableFrom image endOffset left (offset + sizeOfBlock)
          ⟨blockEntries image (wordAt image offset 4).toUInt32 ((sizeOfBlock - blockHeaderSize) / 2)
            (offset + blockHeaderSize) ++ rest.entries, rest.whole, rest.stop⟩
      else ⟨[], true, offset⟩

/-- **The table of a section.** -/
def relocationTable (image : List UInt8) (relocSection : PESectionInfo) : Table :=
  tableFrom image (relocSection.virtualAddress.toNat + relocSection.virtualSize.toNat) relocSection.virtualSize.toNat
    relocSection.virtualAddress.toNat

/-- The words that the loader changes for some entries. -/
def loaderTargets (size : Nat) (entries : List TableEntry) : List Nat :=
  (entries.filter fun e => decide (e.LoaderApplies size)).map TableEntry.loaderTarget

/-- No entry changes a part of the table behind itself, up to where the reading stops. -/
def Undisturbed (size stop : Nat) (entries : List TableEntry) : Prop :=
  ∀ e ∈ entries, e.LoaderApplies size → e.loaderTarget + 8 ≤ e.offset + 2 ∨ stop ≤ e.loaderTarget

/-! ## What a run over some entries does -/

/-- Two images agree from an offset on up to another one. -/
def Agree (image image' : List UInt8) (start stop : Nat) : Prop :=
  ∀ offset n, start ≤ offset → offset + n ≤ stop → Patches.part image' offset n = Patches.part image offset n

/-- **A run over some entries** adds the delta to the words they name, counts them, and counts an error for every other
    entry that is no padding. -/
structure Runs (size : Nat) (delta : UInt64) (entries : List TableEntry) (errors : Nat) (st st' : Relocating) : Prop where
  imageBuffer : st'.imageBuffer = addWords delta (loaderTargets size entries) st.imageBuffer
  relocationCount : st'.relocationCount = st.relocationCount + entries.countP fun e => decide (e.LoaderApplies size)
  relocationErrors : st'.relocationErrors =
    st.relocationErrors + entries.countP (fun e => decide (¬ e.IsPadding ∧ ¬ e.LoaderApplies size)) + errors

section Runs
variable {size errors errors' : Nat} {delta : UInt64} {entries entries' : List TableEntry} {st st' st'' : Relocating}

theorem loaderTargets_append :
    loaderTargets size (entries ++ entries') = loaderTargets size entries ++ loaderTargets size entries' := by
  unfold loaderTargets
  rw [List.filter_append, List.map_append]

theorem Runs.nil : Runs size delta [] 0 st st := ⟨rfl, rfl, rfl⟩

theorem Runs.append (h : Runs size delta entries errors st st') (h' : Runs size delta entries' errors' st' st'') :
    Runs size delta (entries ++ entries') (errors + errors') st st'' := by
  refine ⟨?_, ?_, ?_⟩
  · rw [h'.imageBuffer, h.imageBuffer, loaderTargets_append, addWords_append]
  · rw [h'.relocationCount, h.relocationCount, List.countP_append, Nat.add_assoc]
  · rw [h'.relocationErrors, h.relocationErrors, List.countP_append]
    omega

end Runs

/-! ## One entry -/

section Entry
variable {image imageBuffer : List UInt8} {size start start' stop : Nat} {delta : UInt64} {st : Relocating}

theorem loaderTarget_inside {entries : List TableEntry} : ∀ target ∈ loaderTargets size entries, target + 8 ≤ size := by
  intro target htarget
  obtain ⟨e, he, rfl⟩ := List.mem_map.mp htarget
  exact (of_decide_eq_true (List.mem_filter.mp he).2).2

theorem Agree.wordAt_eq (h : Agree image imageBuffer start stop) {offset n : Nat} (hstart : start ≤ offset)
    (hstop : offset + n ≤ stop) : wordAt imageBuffer offset n = wordAt image offset n :=
  congrArg wordOfBytes (h offset n hstart hstop)

theorem Agree.mono (h : Agree image imageBuffer start stop) (hstart : start ≤ start') :
    Agree image imageBuffer start' stop :=
  fun offset n hfrom => h offset n (Nat.le_trans hstart hfrom)

/-- What is still to be read stays if no word in it is changed. -/
theorem Agree.addWords {targets : List Nat} (h : Agree image imageBuffer start stop) (hstart : start ≤ start')
    (hinside : ∀ target ∈ targets, target + 8 ≤ imageBuffer.length)
    (haside : ∀ target ∈ targets, target + 8 ≤ start' ∨ stop ≤ target) :
    Agree image (addWords delta targets imageBuffer) start' stop := by
  intro offset n hfrom hto
  rw [part_addWords_aside hinside fun target htarget => ?_]
  · exact h offset n (Nat.le_trans hstart hfrom) hto
  · have := haside target htarget
    omega

theorem runs_of_not_applies {e : TableEntry} {st' : Relocating} (hskip : ¬ e.LoaderApplies size)
    (hbuffer : st'.imageBuffer = st.imageBuffer) (hcount : st'.relocationCount = st.relocationCount)
    (herrors : st'.relocationErrors = st.relocationErrors + if ¬ e.IsPadding then 1 else 0) :
    Runs size delta [e] 0 st st' := by
  refine ⟨?_, ?_, ?_⟩
  · simpa [loaderTargets, hskip] using hbuffer
  · simpa [hskip] using hcount
  · rw [herrors]
    by_cases hpadding : e.IsPadding <;> simp [hpadding, hskip]

/-- What the loader does with an entry whose type it has noted. -/
def entryBody (e : TableEntry) (delta : UInt64) (st : Relocating) : Parser Relocating :=
  if e.IsPadding then .ok st
  else if e.loaderTarget + 8 > st.imageBuffer.length then .ok st.error
  else if e.type = IMAGE_REL_BASED_DIR64 then do
    let originalValue := wordOfBytes (← fetch st.imageBuffer e.loaderTarget 8)
    return st.applied (← store st.imageBuffer e.loaderTarget (bytesOfWord 8 (originalValue + delta)))
  else .ok st.error

/-- **One entry**: the padding is skipped, a word in the image that a `DIR64` entry names is changed, and anything else is an
    error. -/
theorem runs_relocateEntry (delta : UInt64) (e : TableEntry) (hsize : st.imageBuffer.length = size) :
    ∃ st', relocateEntry e.page delta e.word st = .ok st' ∧ Runs size delta [e] 0 st st' := by
  have hbuffer := Relocating.imageBuffer_encounter st e.type.toUInt32
  have hcount := Relocating.relocationCount_encounter st e.type.toUInt32
  have herrors := Relocating.relocationErrors_encounter st e.type.toUInt32
  have hbody : relocateEntry e.page delta e.word st = entryBody e delta (st.encounter e.type.toUInt32) := rfl
  rw [hbody]
  generalize st.encounter e.type.toUInt32 = met at hbuffer hcount herrors ⊢
  rw [← hbuffer] at hsize
  unfold entryBody
  by_cases hpadding : e.IsPadding
  · rw [if_pos hpadding]
    have hskip : ¬ e.LoaderApplies size := fun h => absurd (h.1.symm.trans hpadding) (by decide)
    exact ⟨_, rfl, runs_of_not_applies hskip hbuffer hcount (by rw [herrors, if_neg (fun h => h hpadding), Nat.add_zero])⟩
  · rw [if_neg hpadding]
    have herror : met.error.relocationErrors = st.relocationErrors + if ¬ e.IsPadding then 1 else 0 := by
      rw [if_pos hpadding]
      exact congrArg (· + 1) herrors
    by_cases hout : e.loaderTarget + 8 > met.imageBuffer.length
    · rw [if_pos hout]
      have hskip : ¬ e.LoaderApplies size := fun h => by
        have hin := h.2
        omega
      exact ⟨_, rfl, runs_of_not_applies hskip hbuffer hcount herror⟩
    · rw [if_neg hout]
      by_cases htype : e.type = IMAGE_REL_BASED_DIR64
      · rw [if_pos htype, fetch_bind (by omega)]
        dsimp only
        rw [store_ok (by rw [length_bytesOfWord]; omega)]
        have happlies : e.LoaderApplies size := ⟨htype, by omega⟩
        refine ⟨_, rfl, ?_, ?_, ?_⟩
        · rw [← hbuffer]
          simp [loaderTargets, happlies, addWord, wordAt]
        · simp [happlies, ← hcount, Relocating.applied]
        · simp [happlies, ← herrors, Relocating.applied]
      · rw [if_neg htype]
        exact ⟨_, rfl, runs_of_not_applies (fun h => htype h.1) hbuffer hcount herror⟩

end Entry

/-! ## A block, and all of them -/

section Blocks
variable {image : List UInt8} {page : UInt32} {delta : UInt64} {n offset stop : Nat} {st : Relocating}

/-- The words that a run changes are in the image, and those of an undisturbed table aside of what is still to be read. -/
theorem Runs.agree {entries : List TableEntry} {errors : Nat} {st' : Relocating}
    (h : Runs image.length delta entries errors st st') (start : Nat) (hsize : st.imageBuffer.length = image.length)
    (hundisturbed : Undisturbed image.length stop entries) (hbehind : ∀ e ∈ entries, e.offset + 2 ≤ start)
    (hstart : offset ≤ start) (hagree : Agree image st.imageBuffer offset stop) :
    st'.imageBuffer.length = image.length ∧ Agree image st'.imageBuffer start stop := by
  have hinside : ∀ target ∈ loaderTargets image.length entries, target + 8 ≤ st.imageBuffer.length := by
    rw [hsize]
    exact loaderTarget_inside
  rw [h.imageBuffer]
  refine ⟨(length_addWords hinside).trans hsize, hagree.addWords hstart hinside fun target htarget => ?_⟩
  obtain ⟨e, he, rfl⟩ := List.mem_map.mp htarget
  obtain ⟨hmem, happlies⟩ := List.mem_filter.mp he
  have hbehind := hbehind e hmem
  have haside := hundisturbed e hmem (of_decide_eq_true happlies)
  omega

theorem undisturbed_append {entries entries' : List TableEntry} {size : Nat}
    (h : Undisturbed size stop (entries ++ entries')) :
    Undisturbed size stop entries ∧ Undisturbed size stop entries' :=
  ⟨fun e he => h e (List.mem_append_left _ he), fun e he => h e (List.mem_append_right _ he)⟩

/-- **The entries of a block.** -/
theorem runs_relocateEntries (delta : UInt64) (st : Relocating) (hsize : st.imageBuffer.length = image.length) (hin : offset + 2 * n ≤ image.length)
    (hread : offset + 2 * n ≤ stop) (hagree : Agree image st.imageBuffer offset stop)
    (hundisturbed : Undisturbed image.length stop (blockEntries image page n offset)) :
    ∃ st', relocateEntries page delta n offset st = .ok st' ∧
      Runs image.length delta (blockEntries image page n offset) 0 st st' ∧
      st'.imageBuffer.length = image.length ∧ Agree image st'.imageBuffer (offset + 2 * n) stop := by
  induction n generalizing offset st with
  | zero => exact ⟨st, rfl, .nil, hsize, hagree⟩
  | succ n ih =>
      obtain ⟨hfirst, hrest⟩ := undisturbed_append (show Undisturbed image.length stop
        ([⟨offset, page, (wordAt image offset 2).toUInt16⟩] ++ blockEntries image page n (offset + 2)) from hundisturbed)
      have hword : wordOfBytes ((st.imageBuffer.drop offset).take 2) = wordAt image offset 2 :=
        hagree.wordAt_eq (Nat.le_refl _) (by omega)
      obtain ⟨st', hentry, hruns⟩ :=
        runs_relocateEntry delta ⟨offset, page, (wordAt image offset 2).toUInt16⟩ hsize
      obtain ⟨hsize', hagree'⟩ := hruns.agree (offset + 2) hsize hfirst (by simp) (by omega) hagree
      obtain ⟨st'', hentries, hruns', hsize'', hagree''⟩ := ih st' hsize' (by omega) (by omega) hagree' hrest
      refine ⟨st'', ?_, hruns.append hruns', hsize'', ?_⟩
      · rw [relocateEntries, if_neg (by omega), fetch_bind (by omega), hword]
        show relocateEntry page delta _ st >>= _ = _
        rw [show relocateEntry page delta _ st = .ok st' from hentry]
        exact hentries
      · rwa [show offset + 2 * (n + 1) = offset + 2 + 2 * n by omega]

theorem le_stop_tableFrom (image : List UInt8) (endOffset left offset : Nat) :
    offset ≤ (tableFrom image endOffset left offset).stop := by
  induction left generalizing offset with
  | zero => exact Nat.le_refl _
  | succ left ih =>
      rw [tableFrom]
      split
      · dsimp only
        split
        · exact Nat.le_add_right _ _
        · split
          · exact Nat.le_add_right _ _
          · exact Nat.le_trans (Nat.le_add_right _ _) (ih _)
      · exact Nat.le_refl _

/-- **The blocks** up to where the reading stops, with an error if it stops at one that is not whole. -/
theorem runs_relocateBlocks (delta : UInt64) (st : Relocating) {endOffset left : Nat} (hsize : st.imageBuffer.length = image.length)
    (hagree : Agree image st.imageBuffer offset (tableFrom image endOffset left offset).stop)
    (hundisturbed : Undisturbed image.length (tableFrom image endOffset left offset).stop
      (tableFrom image endOffset left offset).entries) :
    ∃ st', relocateBlocks delta endOffset left offset st = .ok st' ∧
      Runs image.length delta (tableFrom image endOffset left offset).entries
        (if (tableFrom image endOffset left offset).whole then 0 else 1) st st' := by
  induction left generalizing offset st with
  | zero => exact ⟨st, rfl, .nil⟩
  | succ left ih =>
      generalize htable : tableFrom image endOffset (left + 1) offset = table at hagree hundisturbed ⊢
      rw [tableFrom] at htable
      rw [relocateBlocks, hsize]
      split at htable
      · rename_i hin
        rw [if_pos hin, fetch_bind (by omega)]
        have hheader : ∀ k, k ≤ 4 → offset + blockHeaderSize ≤ table.stop →
            wordAt ((st.imageBuffer.drop offset).take blockHeaderSize) k 4 = wordAt image (offset + k) 4 := by
          intro k hk hstop
          unfold blockHeaderSize at hstop
          refine (wordAt_part (by unfold blockHeaderSize; omega)).trans ?_
          exact hagree.wordAt_eq (by omega) (by omega)
        dsimp only at htable ⊢
        split at htable
        · rename_i hzero
          subst htable
          rw [hheader 4 (by omega) (Nat.le_refl _), if_pos hzero]
          exact ⟨st, rfl, .nil⟩
        · rename_i hsizeOfBlock
          split at htable
          · rename_i hbad
            subst htable
            rw [hheader 4 (by omega) (Nat.le_refl _), if_neg hsizeOfBlock, if_pos hbad]
            exact ⟨st.error, rfl, rfl, rfl, rfl⟩
          · rename_i hgood
            subst htable
            dsimp only at hagree hundisturbed hheader ⊢
            obtain ⟨hfirst, hrest⟩ := undisturbed_append hundisturbed
            have hnext := le_stop_tableFrom image endOffset left (offset + (wordAt image (offset + 4) 4).toNat)
            have hbounds := hgood
            unfold blockHeaderSize at hbounds
            obtain ⟨st', hentries, hruns, hsize', hagree'⟩ := runs_relocateEntries delta
              { st with relocationBlocksProcessed := st.relocationBlocksProcessed + 1 } hsize
              (by unfold blockHeaderSize; omega) (by unfold blockHeaderSize; omega)
              (hagree.mono (Nat.le_add_right _ _)) hfirst
            obtain ⟨st'', hblocks, hruns'⟩ := ih st' hsize' (hagree'.mono (by unfold blockHeaderSize; omega)) hrest
            refine ⟨st'', ?_, ?_⟩
            · rw [hheader 4 (by omega) (by unfold blockHeaderSize; omega), if_neg hsizeOfBlock, if_neg hgood,
                show wordAt _ 0 4 = _ from hheader 0 (by omega) (by unfold blockHeaderSize; omega), Nat.add_zero]
              show relocateEntries _ _ _ _ _ >>= _ = _
              rw [hentries]
              exact hblocks
            · have hall := hruns.append hruns'
              rw [Nat.zero_add] at hall
              exact ⟨hall.imageBuffer, hall.relocationCount, hall.relocationErrors⟩
      · rename_i hend
        subst htable
        rw [if_neg hend]
        exact ⟨st, rfl, .nil⟩

end Blocks

end GuideXOS.Storage.PE
