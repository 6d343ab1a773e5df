import GuideXOS.Decoder.Rows
import Mathlib.Tactic.IntervalCases

/-!
# `Agreement` — the integer decoders against their rows

A decoder is followed test by test against its rows. Where a test succeeds on both sides the type has to be one of the
family. Where none is left, what remains is the tag the word came with.
-/

namespace GuideXOS.Decoder

/-! ## Fields as numbers -/

variable (raw : UInt64)

theorem toNat_field {length : Nat} (start : Nat) (hs : start < 64) (hl : length ≤ 8) :
    (field raw start length).toNat = raw.toNat / 2 ^ start % 2 ^ length := by
  have hmask : ((1 : UInt64) <<< UInt64.ofNat length - 1).toNat = 2 ^ length - 1 := by
    interval_cases length <;> rfl
  have hstart : (UInt64.ofNat start).toNat % 64 = start := by
    rw [UInt64.toNat_ofNat_of_lt' (by simp [UInt64.size]; omega)]
    omega
  have hlt : raw.toNat / 2 ^ start % 2 ^ length < 256 :=
    Nat.lt_of_lt_of_le (Nat.mod_lt _ (Nat.two_pow_pos _)) (Nat.pow_le_pow_right (by decide) hl)
  simp only [field, extractBits, UInt64.toNat_toUInt8, UInt64.toNat_and, UInt64.toNat_shiftRight, hmask, hstart,
    Nat.shiftRight_eq_div_pow, Nat.and_two_pow_sub_one_eq_mod]
  omega

theorem field_lt {length : Nat} (start : Nat) (hs : start < 64) (hl : length ≤ 8) :
    (field raw start length).toNat < 2 ^ length := by
  rw [toNat_field raw start hs hl]
  exact Nat.mod_lt _ (Nat.two_pow_pos _)

/-- A field takes only the values of its length. -/
theorem exists_field (start length : Nat) (hs : start < 64) (hl : length ≤ 8) :
    ∃ n < 2 ^ length, field raw start length = UInt8.ofNat n :=
  ⟨_, field_lt raw start hs hl, by simp⟩

/-! ## Types against rows -/

/-- The type of an attempt to decode. -/
def typeOf (result : Option InstructionEx) : InstructionType := (result.map (·.type)).getD .UNKNOWN

@[simp] theorem typeOf_none : typeOf none = .UNKNOWN := rfl

@[simp] theorem typeOf_some (instr : InstructionEx) : typeOf (some instr) = instr.type := rfl

namespace InstructionEx

variable (i : InstructionEx) (v : UInt64)

@[simp] theorem type_setOperands (a b c : UInt8) : (i.setOperands a b c).type = i.type := rfl

@[simp] theorem type_setOperands4 (a b c d : UInt8) : (i.setOperands4 a b c d).type = i.type := rfl

@[simp] theorem type_setPredicate (p : UInt8) : (i.setPredicate p).type = i.type := rfl

@[simp] theorem type_setImmediate : (i.setImmediate v).type = i.type := rfl

@[simp] theorem type_setBranchTarget : (i.setBranchTarget v).type = i.type := rfl

@[simp] theorem type_setRawBits : (i.setRawBits v).type = i.type := rfl

end InstructionEx

/-- A recognised word is of its row's family, and any other is `UNKNOWN`. -/
def Reads (family : Family) (type : InstructionType) : Prop :=
  match family with
  | some types => type ∈ types
  | none => type = .UNKNOWN

/-- A recognised word is of its row's family, and any other is `UNKNOWN` unless it falls through. -/
structure Agrees (type : InstructionType) (family : Family) (falls : Prop) : Prop where
  row : ∀ types, family = some types → type ∈ types
  none : family = none → (type = .UNKNOWN ↔ ¬ falls)

namespace Agrees

variable {type : InstructionType} {falls : Prop}

theorem of_mem {types : List InstructionType} (h : type ∈ types) : Agrees type (some types) falls :=
  ⟨fun _ e => Option.some.inj e ▸ h, nofun⟩

theorem of_iff (h : type = .UNKNOWN ↔ ¬ falls) : Agrees type Option.none falls := ⟨nofun, fun _ => h⟩

instance {family : Family} [Decidable falls] : Decidable (Agrees type family falls) :=
  match family with
  | some types => decidable_of_iff (type ∈ types) ⟨of_mem, fun h => h.row types rfl⟩
  | Option.none => decidable_of_iff (type = .UNKNOWN ↔ ¬ falls) ⟨of_iff, fun h => h.none rfl⟩

/-- The two sides make the same test. -/
theorem ite {α : Type} (f : α → InstructionType) {c : Prop} [Decidable c] {a b : α} {r s : Family}
    (yes : c → Agrees (f a) r falls) (no : ¬ c → Agrees (f b) s falls) :
    Agrees (f (if c then a else b)) (if c then r else s) falls := by
  split
  · next h => exact yes h
  · next h => exact no h

/-- The words of a test that holds are those of a row. -/
theorem ite_row {α : Type} {f : α → InstructionType} {c : Prop} [Decidable c] {a b : α} {types : List InstructionType}
    {s : Family} (yes : f a ∈ types) (no : ¬ c → Agrees (f b) s falls) :
    Agrees (f (if c then a else b)) (if c then some types else s) falls :=
  ite f (fun _ => of_mem yes) no

section Formats
variable {α : Type} {f : α → Option InstructionEx} {c : Prop} [Decidable c] {r s : Family}

/-- The two sides make the same test of a format. -/
theorem ite_of {a b : α} (yes : c → Agrees (typeOf (f a)) r falls) (no : ¬ c → Agrees (typeOf (f b)) s falls) :
    Agrees (typeOf (f (if c then a else b))) (if c then r else s) falls := ite (fun fmt => typeOf (f fmt)) yes no

theorem ite_bind {a b : Option α} (yes : c → Agrees (typeOf (a.bind f)) r falls)
    (no : ¬ c → Agrees (typeOf (b.bind f)) s falls) :
    Agrees (typeOf (Option.bind (if c then a else b) f)) (if c then r else s) falls :=
  ite (fun fmt => typeOf (Option.bind fmt f)) yes no

theorem ite_map {f : α → InstructionEx} {a b : Option α} (yes : c → Agrees (typeOf (a.map f)) r falls)
    (no : ¬ c → Agrees (typeOf (b.map f)) s falls) :
    Agrees (typeOf (Option.map f (if c then a else b))) (if c then r else s) falls :=
  ite (fun fmt => typeOf (Option.map f fmt)) yes no

end Formats

theorem congr {family : Family} {falls' : Prop} (h : Agrees type family falls) (e : falls ↔ falls') :
    Agrees type family falls' :=
  ⟨h.row, fun hnone => (h.none hnone).trans (not_congr e)⟩

theorem reads_iff {family : Family} (h : Agrees type family falls) :
    Reads family type ↔ ¬ (family = Option.none ∧ falls) := by
  rcases family with _ | types
  · simpa [Reads] using h.none rfl
  · simpa [Reads] using h.row types rfl

end Agrees

/-! ## The A-type -/

namespace ATypeDecoder

variable (fmt : AFormat) {result : AFormat}

/-- Outside the compares the type depends on the tag and three flags. -/
theorem typeOf_integerALU :
    typeOf (integerALU fmt) =
      typeOf (integerALU { opcode := fmt.opcode, hasImm := fmt.hasImm, addOne := fmt.addOne, subOne := fmt.subOne }) := by
  simp only [integerALU, logical]
  generalize fmt.opcode &&& 0x0F = tag
  split <;> (try split) <;> rfl

theorem typeOf_toInstruction (h : fmt.opcode &&& 0xF0 = 0x80) :
    typeOf (toInstruction fmt) =
      typeOf (integerALU { opcode := fmt.opcode, hasImm := fmt.hasImm, addOne := fmt.addOne, subOne := fmt.subOne }) := by
  have hne : fmt.opcode ≠ 0xA0 := by
    intro h'
    rw [h'] at h
    exact absurd h (by decide)
  rw [toInstruction, if_neg hne, if_pos h, typeOf_integerALU]

/-- With a known tag, the type is that of the tag with the flags of the format. -/
theorem agrees_tag {fmt : AFormat} {types : List InstructionType} {falls : Prop} (tag : UInt8)
    (htag : fmt.opcode = tag) (hhigh : tag &&& 0xF0 = 0x80)
    (h : typeOf (integerALU { opcode := tag, hasImm := fmt.hasImm, addOne := fmt.addOne, subOne := fmt.subOne }) ∈ types) :
    Agrees (typeOf (toInstruction fmt)) (some types) falls := by
  subst htag
  rw [typeOf_toInstruction fmt hhigh]
  exact Agrees.of_mem h

theorem type_compareKind_mem : (compareKind fmt).1 ∈ compareTypes := by
  simp only [compareKind, mapZeroCompareType, mapEqCompareType, mapNormalCompareType]
  repeat' split
  all_goals exact of_decide_eq_true rfl

theorem typeOf_toInstruction_compare (h : fmt.opcode = 0xC0 ∨ fmt.opcode = 0xD0 ∨ fmt.opcode = 0xE0) :
    typeOf (toInstruction fmt) ∈ compareTypes := by
  have hcompare : toInstruction fmt = some (compareInstruction fmt) := by
    rcases h with h | h | h <;> simp only [toInstruction, h] <;> rfl
  have htype : (compareInstruction fmt).type = (compareKind fmt).1 := by
    simp only [compareInstruction]
    split <;> rfl
  rw [hcompare, typeOf_some, htype]
  exact type_compareKind_mem fmt

/-- The format `decode` starts from: a tag, and no flag yet. -/
structure Fresh (fmt : AFormat) (tag : UInt8) : Prop where
  opcode : fmt.opcode = tag
  hasImm : fmt.hasImm = false
  addOne : fmt.addOne = false
  subOne : fmt.subOne = false

/-- An A-type word of major opcode 8 that keeps its tag: the tag is an operation's for `x4` up to 6, and for 9 when an
immediate was cut out. -/
def FallsThrough (x2a x4 : UInt8) : Prop := x4 ≤ 6 ∨ (x4 = 9 ∧ 2 ≤ x2a)

/-- The tags of major opcode 8 as they come, without and with an immediate. -/
theorem typeOf_kept (n : Nat) (hn : n < 16) :
    (typeOf (integerALU { opcode := ((0x8 : UInt8) <<< 4) ||| UInt8.ofNat n }) = .UNKNOWN ↔ ¬ UInt8.ofNat n ≤ 6) ∧
      (typeOf (integerALU { opcode := ((0x8 : UInt8) <<< 4) ||| UInt8.ofNat n, hasImm := true }) = .UNKNOWN ↔
        ¬ (UInt8.ofNat n ≤ 6 ∨ UInt8.ofNat n = 9)) := by
  revert n
  decide

/-- Only the tag of a fresh format counts, and whether an immediate was cut out. -/
theorem Fresh.typeOf_kept {n : Nat} (hn : n < 16) (h : Fresh result (((0x8 : UInt8) <<< 4) ||| UInt8.ofNat n))
    (hasImm : Bool) (imm : UInt64) :
    typeOf (toInstruction { result with hasImm := hasImm, imm := imm }) =
      typeOf (integerALU { opcode := ((0x8 : UInt8) <<< 4) ||| UInt8.ofNat n, hasImm := hasImm }) := by
  have hhigh : (((0x8 : UInt8) <<< 4) ||| UInt8.ofNat n) &&& 0xF0 = 0x80 := by
    clear h
    revert n
    decide
  rw [typeOf_toInstruction _ (by rw [← hhigh, ← h.opcode])]
  simp only [h.opcode, h.addOne, h.subOne]

theorem agrees_kept (raw : UInt64) {x2a x2b ve : UInt8} {n : Nat} (hn : n < 16) (hx2a : x2a.toNat < 4)
    (h : Fresh result (((0x8 : UInt8) <<< 4) ||| UInt8.ofNat n)) :
    Agrees
      (typeOf (toInstruction
        (if x2a = 2 then { result with hasImm := true, imm := imm8 raw }
        else if x2a = 3 then { result with hasImm := true, imm := imm14 raw }
        else result)))
      (if x2a = 0 ∧ ve = 0 ∧ UInt8.ofNat n = 0x2 ∧ x2b = 0 then some [.ADDP4] else none)
      (FallsThrough x2a (UInt8.ofNat n)) := by
  obtain ⟨plain, withImm⟩ := typeOf_kept n hn
  have hresult : typeOf (toInstruction result) =
      typeOf (integerALU { opcode := ((0x8 : UInt8) <<< 4) ||| UInt8.ofNat n }) :=
    (h.typeOf_kept hn result.hasImm result.imm).trans (by rw [h.hasImm])
  by_cases h2 : x2a = 2
  · subst h2
    simpa [h.typeOf_kept hn, FallsThrough] using Agrees.of_iff withImm
  by_cases h3 : x2a = 3
  · subst h3
    simpa [h.typeOf_kept hn, FallsThrough] using Agrees.of_iff withImm
  -- no immediate: the field is 0 or 1
  have hlow : ¬ 2 ≤ x2a := by
    have h2' : x2a.toNat ≠ 2 := fun e => h2 (UInt8.toNat_inj.mp e)
    have h3' : x2a.toNat ≠ 3 := fun e => h3 (UInt8.toNat_inj.mp e)
    rw [UInt8.le_iff_toNat_le]
    show ¬ 2 ≤ x2a.toNat
    omega
  rw [if_neg h2, if_neg h3, hresult]
  split
  · next hrow =>
    rw [hrow.2.2.1]
    exact Agrees.of_mem (by decide)
  · exact Agrees.of_iff (by simpa [FallsThrough, hlow] using plain)

theorem agrees_integerALU (raw : UInt64) {x2a x2b x4 ve : UInt8} (hx4 : x4.toNat < 16) (hx2a : x2a.toNat < 4)
    (h : Fresh result (((0x8 : UInt8) <<< 4) ||| x4)) :
    Agrees (typeOf (toInstruction (decodeIntegerALU raw x2a x2b x4 ve result))) (integerALURow x2a x2b x4 ve)
      (FallsThrough x2a x4) := by
  obtain ⟨n, hn, rfl⟩ : ∃ n < 16, x4 = UInt8.ofNat n := ⟨x4.toNat, hx4, by simp⟩
  have hlogical : ∀ tag : UInt8, logicalTag tag &&& 0xF0 = 0x80 := by
    intro tag
    unfold logicalTag
    split <;> rfl
  -- the flags of a row are known but for one, so the type is found by evaluation
  refine Agrees.ite_of ?add fun _ => ?_
  case add =>
    intro _
    refine agrees_tag 0x80 rfl (by decide) ?_
    simp only [h.hasImm, h.subOne]
    generalize (x2b == 1) = one
    cases one <;> decide
  refine Agrees.ite_of ?sub fun _ => ?_
  case sub =>
    intro _
    refine agrees_tag 0x81 rfl (by decide) ?_
    simp only [h.hasImm, h.addOne]
    generalize (x2b == 0) = one
    cases one <;> decide
  refine Agrees.ite_of ?subImm fun _ => ?_
  case subImm =>
    intro _
    refine agrees_tag 0x89 rfl (by decide) ?_
    simp only [h.addOne, h.subOne]
    decide
  refine Agrees.ite_of ?logical fun _ => ?_
  case logical =>
    intro _
    refine agrees_tag (logicalTag x2b) rfl (hlogical x2b) ?_
    simp only [h.hasImm, h.addOne, h.subOne, logicalTag]
    split <;> decide
  refine Agrees.ite_of ?shladd fun _ => ?_
  case shladd =>
    intro _
    exact Agrees.of_mem (by simp [toInstruction, instruction])
  refine Agrees.ite_of ?logicalImm fun _ => ?_
  case logicalImm =>
    intro _
    refine agrees_tag (logicalTag x2b) rfl (hlogical x2b) ?_
    simp only [h.addOne, h.subOne, logicalTag]
    split <;> decide
  refine Agrees.ite_of ?adds fun _ => ?_
  case adds =>
    intro _
    refine agrees_tag 0x80 rfl (by decide) ?_
    simp only [h.addOne, h.subOne]
    decide
  refine Agrees.ite_of ?addp4 fun _ => ?_
  case addp4 =>
    intro _
    refine agrees_tag 0x82 rfl (by decide) ?_
    simp only [h.addOne, h.subOne]
    decide
  exact agrees_kept raw hn hx2a h

theorem addl_tag (n : Nat) (hn : n < 16) :
    ((0x9 : UInt8) <<< 4) ||| UInt8.ofNat n ≠ 0xA0 ∧
      (((0x9 : UInt8) <<< 4) ||| UInt8.ofNat n) &&& 0xF0 = 0x90 := by
  revert n
  decide

theorem shladd_tag (n : Nat) (hn : n < 16) :
    (((0xA : UInt8) <<< 4) ||| UInt8.ofNat n = 0xA0 ↔ UInt8.ofNat n = 0) ∧
      (((0xA : UInt8) <<< 4) ||| UInt8.ofNat n) &&& 0xF0 = 0xA0 := by
  revert n
  decide

theorem agrees (raw : UInt64) :
    Agrees (typeOf ((decode raw).bind toInstruction)) (row raw)
      (majorOpcode raw = 8 ∧ FallsThrough (field raw 34 2) (field raw 29 4)) := by
  refine Agrees.ite_bind ?alu fun h8 => ?_
  case alu =>
    intro h8
    have hstart : Fresh
        { qp := qualifyingPredicate raw, r1 := field raw 6 7, r2 := field raw 13 7, r3 := field raw 20 7,
          opcode := (majorOpcode raw <<< 4) ||| field raw 29 4 } (((0x8 : UInt8) <<< 4) ||| field raw 29 4) :=
      ⟨by rw [h8], rfl, rfl, rfl⟩
    exact (agrees_integerALU raw (field_lt raw 29 (by decide) (by decide)) (field_lt raw 34 (by decide) (by decide))
      hstart).congr (by simp [h8])
  obtain ⟨n, hn, hx4⟩ := exists_field raw 29 4 (by decide) (by decide)
  refine Agrees.ite_bind ?addl fun _ => ?_
  case addl =>
    intro h9
    obtain ⟨hne, hhigh⟩ := addl_tag n hn
    refine Agrees.of_mem ?_
    simp [toInstruction, decodeAddlImm22, h9, hx4, hne, hhigh, instruction]
  refine Agrees.ite_bind ?shladd fun _ => ?_
  case shladd =>
    intro hA
    obtain ⟨htag, hhigh⟩ := shladd_tag n hn
    split
    · next h0 =>
      have hA0 := htag.mpr (hx4 ▸ h0)
      refine Agrees.of_mem ?_
      simp [toInstruction, decodeShiftAdd, hA, hx4, hA0, instruction]
    · next h0 =>
      refine Agrees.of_iff ?_
      rw [hx4] at h0
      simp [toInstruction, decodeShiftAdd, hA, hx4, htag, h0, hhigh]
  refine Agrees.ite_bind (fun hcompare => ?_)
    fun _ => Agrees.of_iff (by simp [h8])
  refine Agrees.of_mem (typeOf_toInstruction_compare _ ?_)
  have hopcode : ∀ x2a result, (decodeCompare raw (majorOpcode raw) x2a result).opcode = majorOpcode raw <<< 4 := by
    intro x2a result
    simp only [decodeCompare]
    split <;> rfl
  rw [hopcode]
  rcases hcompare with h | h | h <;> rw [h] <;> decide

end ATypeDecoder

/-! ## The I-type -/

namespace ITypeDecoder

/-- The type depends on the tag only. -/
theorem typeOf_toInstruction (fmt : IFormat) :
    typeOf (toInstruction fmt) = typeOf (toInstruction { opcode := fmt.opcode }) := by
  simp only [toInstruction, shiftInstruction, depositInstruction, extensionInstruction, shift, deposit]
  generalize fmt.opcode = tag
  split
  · generalize tag &&& 0x0F = low
    split <;> (try split) <;> rfl
  split
  · generalize tag &&& 0x0F = low
    split <;> (try split) <;> rfl
  · split <;> rfl

theorem agrees_tag {fmt : IFormat} {types : List InstructionType} {falls : Prop} (tag : UInt8)
    (htag : fmt.opcode = tag) (h : typeOf (toInstruction { opcode := tag }) ∈ types) :
    Agrees (typeOf (toInstruction fmt)) (some types) falls := by
  subst htag
  rw [typeOf_toInstruction]
  exact Agrees.of_mem h

/-- The words that keep the tag they came with, and whose tag is an operation's. -/
def FallsThrough (major x2 x6 : UInt8) : Prop :=
  (major = 0 ∧ x6 &&& 0xF = 0xC) ∨ (major = 5 ∧ (x2 = 0 ∨ (x2 = 2 ∧ ¬ (9 ≤ x6 &&& 0xF ∧ x6 &&& 0xF ≤ 0xC)))) ∨
    (major = 7 ∧ x6 &&& 0xF ≤ 4)

/-- The tags of the three major opcodes as they come. -/
theorem typeOf_kept (n : Nat) (hn : n < 64) :
    (typeOf (toInstruction { opcode := ((0 : UInt8) <<< 4) ||| (UInt8.ofNat n &&& 0xF) }) = .UNKNOWN ↔
        ¬ UInt8.ofNat n &&& 0xF = 0xC) ∧
      (typeOf (toInstruction { opcode := ((5 : UInt8) <<< 4) ||| (UInt8.ofNat n &&& 0xF) }) = .UNKNOWN ↔
        9 ≤ UInt8.ofNat n &&& 0xF ∧ UInt8.ofNat n &&& 0xF ≤ 0xC) ∧
      (typeOf (toInstruction { opcode := ((7 : UInt8) <<< 4) ||| (UInt8.ofNat n &&& 0xF) }) = .UNKNOWN ↔
        ¬ UInt8.ofNat n &&& 0xF ≤ 4) := by
  revert n
  decide

variable (raw : UInt64) (result : IFormat)

theorem opcode_decodeMixedI (x3 x6 : UInt8) (result : IFormat) :
    (decodeMixedI raw x3 x6 result).opcode =
      if x3 = 0 ∧ (0x10 ≤ x6 ∧ x6 ≤ 0x16 ∨ x6 = 0x1C) then x6 else result.opcode := by
  simp only [decodeMixedI]
  split
  · next h => simp [h]
  split
  · next h => simp [h]
  split
  · next h => simp [h]
  split
  · next h => simp [h]
  split <;> grind

/-- The words of major opcode 0, by their two extensions. -/
theorem agrees_mixedI_values (n : Nat) (hn : n < 64) (x3 : Nat) (hx3 : x3 < 8) :
    Agrees
      (typeOf (toInstruction
        { opcode :=
            if UInt8.ofNat x3 = 0 ∧ (0x10 ≤ UInt8.ofNat n ∧ UInt8.ofNat n ≤ 0x16 ∨ UInt8.ofNat n = 0x1C) then UInt8.ofNat n
            else ((0 : UInt8) <<< 4) ||| (UInt8.ofNat n &&& 0xF) }))
      (mixedIRow (UInt8.ofNat x3) (UInt8.ofNat n)) (UInt8.ofNat n &&& 0xF = 0xC) := by
  revert n x3
  decide +kernel

theorem agrees_test_values (n : Nat) (hn : n < 256) :
    Agrees (typeOf (toInstruction { opcode := testTag (UInt8.ofNat n) })) (testRow (UInt8.ofNat n)) True := by
  revert n
  decide +kernel

theorem agrees_test (tableIndex : UInt8) :
    Agrees (typeOf (toInstruction { opcode := testTag tableIndex })) (testRow tableIndex) True := by
  simpa using agrees_test_values tableIndex.toNat tableIndex.toNat_lt

theorem agrees_mixedI (h : result.opcode = ((0 : UInt8) <<< 4) ||| (field raw 27 6 &&& 0xF)) :
    Agrees (typeOf (toInstruction (decodeMixedI raw (field raw 33 3) (field raw 27 6) result)))
      (mixedIRow (field raw 33 3) (field raw 27 6)) (field raw 27 6 &&& 0xF = 0xC) := by
  rw [typeOf_toInstruction, opcode_decodeMixedI, h]
  obtain ⟨n, hn, hx6⟩ := exists_field raw 27 6 (by decide) (by decide)
  obtain ⟨m, hm, hx3⟩ := exists_field raw 33 3 (by decide) (by decide)
  rw [hx6, hx3]
  exact agrees_mixedI_values n hn m hm

/-- The field that tells deposits from extracts has four values, and the one above it two. -/
theorem major5_fields (h0 : field raw 34 2 ≠ 0) (h1 : field raw 34 2 ≠ 1)
    (h3 : ¬ (field raw 34 2 = 3 ∧ field raw 33 1 = 0)) (h3' : ¬ (field raw 34 2 = 3 ∧ field raw 33 1 = 1)) :
    field raw 34 2 = 2 := by
  obtain ⟨n, hn, hx2⟩ := exists_field raw 34 2 (by decide) (by decide)
  obtain ⟨m, hm, hx⟩ := exists_field raw 33 1 (by decide) (by decide)
  rw [hx2] at h0 h1 h3 h3' ⊢
  rw [hx] at h3 h3'
  interval_cases n
  · exact absurd rfl h0
  · exact absurd rfl h1
  · rfl
  · interval_cases m
    · exact absurd ⟨rfl, rfl⟩ h3
    · exact absurd ⟨rfl, rfl⟩ h3'

theorem agrees_depositExtract (h : result.opcode = ((5 : UInt8) <<< 4) ||| (field raw 27 6 &&& 0xF))
    (h0 : field raw 34 2 ≠ 0) :
    Agrees (typeOf (toInstruction (decodeDepositExtract raw (field raw 33 1) (field raw 34 2) result)))
      (if field raw 34 2 = 0x3 ∧ field raw 33 1 = 0x0 then some [.SHRP]
      else if field raw 34 2 = 0x1 then some [.EXTR]
      else if field raw 34 2 = 0x3 ∧ field raw 33 1 = 0x1 then some [.DEP]
      else none)
      (field raw 34 2 = 2 ∧ ¬ (9 ≤ field raw 27 6 &&& 0xF ∧ field raw 27 6 &&& 0xF ≤ 0xC)) := by
  refine Agrees.ite_of (fun _ => agrees_tag 0x56 rfl (by decide)) fun h3 => ?_
  refine Agrees.ite_of (fun _ => agrees_tag 0x51 rfl (by decide)) fun h1 => ?_
  refine Agrees.ite_of (fun _ => agrees_tag 0x5F rfl (by decide)) fun h3' => ?_
  have h2 := major5_fields raw h0 h1 h3 h3'
  obtain ⟨n, hn, hx6⟩ := exists_field raw 27 6 (by decide) (by decide)
  rw [typeOf_toInstruction, hx6]
  refine Agrees.of_iff ?_
  rw [and_iff_right h2, not_not, ← (typeOf_kept n hn).2.1, ← hx6, ← h]

theorem agrees_major5 (h : result.opcode = ((5 : UInt8) <<< 4) ||| (field raw 27 6 &&& 0xF)) :
    Agrees (typeOf (toInstruction (decodeMajor5 raw result))) (major5Row raw)
      (field raw 34 2 = 0 ∨ (field raw 34 2 = 2 ∧ ¬ (9 ≤ field raw 27 6 &&& 0xF ∧ field raw 27 6 &&& 0xF ≤ 0xC))) := by
  simp only [decodeMajor5, major5Row]
  by_cases hz : field raw 33 1 = 1 ∧ field raw 34 2 = 1 ∧ field raw 26 1 = 0
  · obtain ⟨hx, hx2, h26⟩ := hz
    by_cases hlen : field raw 27 6 = field raw 20 6
    · simp only [hx, hx2, h26, hlen, and_self, if_true]
      exact agrees_tag 0x70 rfl (by decide)
    · simp only [hx, hx2, h26, hlen, and_self, and_false, if_true, if_false, ne_eq, not_false_eq_true]
      exact agrees_tag 0x5E rfl (by decide)
  rw [if_neg (fun hc => hz ⟨hc.1, hc.2.1, hc.2.2.1⟩), if_neg (fun hc => hz ⟨hc.1, hc.2.1, hc.2.2.1⟩), if_neg hz]
  by_cases h0 : field raw 34 2 = 0
  · simp only [decodeTest, h0, ne_eq, not_true_eq_false, if_false, if_true, Option.getD_some]
    rw [typeOf_toInstruction]
    exact (agrees_test (tableIndex raw)).congr (by simp)
  · have htest : decodeTest raw result = none := by simp [decodeTest, h0]
    rw [htest, Option.getD_none, if_neg h0]
    exact (agrees_depositExtract raw result h h0).congr (by simp [h0])

theorem agrees_shift (h : result.opcode = ((7 : UInt8) <<< 4) ||| (field raw 27 6 &&& 0xF)) :
    Agrees (typeOf (toInstruction (decodeShift raw (field raw 28 2) (field raw 27 6) result))) (shiftRow raw)
      (field raw 27 6 &&& 0xF ≤ 4) := by
  refine Agrees.ite_of (fun _ => agrees_tag 0x74 rfl (by decide)) fun _ => ?_
  refine Agrees.ite_of (fun _ => agrees_tag 0x70 rfl (by decide)) fun _ => ?_
  refine Agrees.ite_of (fun _ => agrees_tag 0x73 rfl (by decide)) fun _ => ?_
  refine Agrees.ite_of (fun _ => agrees_tag 0x70 rfl (by decide)) fun _ => ?_
  refine Agrees.ite_of (fun _ => agrees_tag 0x71 rfl (by decide)) fun _ => ?_
  -- with or without a count, the tag is the one the word came with
  have hopcode : (if field raw 28 2 = 0x3 then { result with hasImm := true, count := field raw 20 6 }
      else result).opcode = result.opcode := by
    split <;> rfl
  obtain ⟨n, hn, hx6⟩ := exists_field raw 27 6 (by decide) (by decide)
  rw [typeOf_toInstruction, hopcode, h, hx6]
  exact Agrees.of_iff (typeOf_kept n hn).2.2

theorem agrees :
    Agrees (typeOf ((decode raw).bind toInstruction)) (row raw)
      (FallsThrough (majorOpcode raw) (field raw 34 2) (field raw 27 6)) := by
  refine Agrees.ite_bind (fun h0 => ?_) fun h0 => ?_
  · exact (agrees_mixedI raw _ (by rw [h0])).congr (by simp [FallsThrough, h0])
  refine Agrees.ite_bind (fun _ => ?_) fun _ => ?_
  · exact agrees_tag 0x50 rfl (by decide)
  refine Agrees.ite_bind (fun h5 => ?_) fun h5 => ?_
  · exact (agrees_major5 raw _ (by rw [h5])).congr (by simp [FallsThrough, h5])
  refine Agrees.ite_bind (fun h7 => ?_) fun h7 => ?_
  · exact (agrees_shift raw _ (by rw [h7])).congr (by simp [FallsThrough, h7])
  exact Agrees.of_iff (by simp [FallsThrough, h0, h5, h7])

end ITypeDecoder

end GuideXOS.Decoder
