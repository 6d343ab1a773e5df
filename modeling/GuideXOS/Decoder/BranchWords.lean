import GuideXOS.Decoder.Recognition

/-!
# `BranchWords` — which words of the B unit are branches

The branches of the architecture by their major opcodes, with their branch registers and targets, against the B unit of
`DecodeSlot`. What a word is depends on three fields only, so the two are compared over the values of these. They differ
at words that are read as another branch, or as a branch when they are none (`misreadBranch`).
-/

namespace GuideXOS.Decoder

/-! ## Branches -/

inductive BranchKind
  | cond | wexit | wtop | cloop | cexit | ctop | call | condIndirect | ia | ret | callIndirect | rfi
  deriving DecidableEq

/-- A control transfer, with its branch registers and its target. -/
inductive Branch
  | cond (target : UInt64)
  | wexit (target : UInt64)
  | wtop (target : UInt64)
  | cloop (target : UInt64)
  | cexit (target : UInt64)
  | ctop (target : UInt64)
  | call (b1 : Nat) (target : UInt64)
  | condIndirect (b2 : Nat)
  | ia (b2 : Nat)
  | ret (b2 : Nat)
  | callIndirect (b1 b2 : Nat)
  | rfi
  deriving DecidableEq

def BranchKind.branch (b1 b2 : Nat) (target : UInt64) : BranchKind → Branch
  | .cond => .cond target
  | .wexit => .wexit target
  | .wtop => .wtop target
  | .cloop => .cloop target
  | .cexit => .cexit target
  | .ctop => .ctop target
  | .call => .call b1 target
  | .condIndirect => .condIndirect b2
  | .ia => .ia b2
  | .ret => .ret b2
  | .callIndirect => .callIndirect b1 b2
  | .rfi => .rfi

def Branch.kind : Branch → BranchKind
  | .cond _ => .cond
  | .wexit _ => .wexit
  | .wtop _ => .wtop
  | .cloop _ => .cloop
  | .cexit _ => .cexit
  | .ctop _ => .ctop
  | .call _ _ => .call
  | .condIndirect _ => .condIndirect
  | .ia _ => .ia
  | .ret _ => .ret
  | .callIndirect _ _ => .callIndirect
  | .rfi => .rfi

/-- Branches with a target in the word. -/
def BranchKind.relative : BranchKind → Bool
  | .cond | .wexit | .wtop | .cloop | .cexit | .ctop | .call => true
  | .condIndirect | .ia | .ret | .callIndirect | .rfi => false

@[simp] theorem kind_branch (b1 b2 : Nat) (target : UInt64) (k : BranchKind) : (k.branch b1 b2 target).kind = k := by
  cases k <;> rfl

/-! ## The architecture -/

namespace BWord
variable (raw : UInt64)

def major : BitVec 4 := raw.toBitVec.extractLsb' 37 4
def btype : BitVec 3 := raw.toBitVec.extractLsb' 6 3
def b1 : BitVec 3 := raw.toBitVec.extractLsb' 6 3
def b2 : BitVec 3 := raw.toBitVec.extractLsb' 13 3
def x6 : BitVec 6 := raw.toBitVec.extractLsb' 27 6

/-- The displacement in bundles: a sign and 20 bits. -/
def displacement : BitVec 21 := raw.toBitVec.extractLsb' 36 1 ++ raw.toBitVec.extractLsb' 13 20

def relativeTarget (ip : UInt64) : UInt64 := ip + ⟨BitVec.ofInt 64 (16 * (displacement raw).toInt)⟩

end BWord

/-- **The branches of the architecture**, by major opcode and the two fields that extend it. -/
def architectedKind (major : BitVec 4) (btype : BitVec 3) (x6 : BitVec 6) : Option BranchKind :=
  if major = 4 then
    if btype = 0 then some .cond
    else if btype = 2 then some .wexit
    else if btype = 3 then some .wtop
    else if btype = 5 then some .cloop
    else if btype = 6 then some .cexit
    else if btype = 7 then some .ctop
    else none
  else if major = 5 then some .call
  else if major = 0 then
    if x6 = 0x20 ∧ btype = 0 then some .condIndirect
    else if x6 = 0x20 ∧ btype = 1 then some .ia
    else if x6 = 0x21 ∧ btype = 4 then some .ret
    else if x6 = 0x08 then some .rfi
    else none
  else if major = 1 then some .callIndirect
  else none

/-- The branch that a word encodes at an address. -/
def architectedBranch (raw ip : UInt64) : Option Branch :=
  (architectedKind (BWord.major raw) (BWord.btype raw) (BWord.x6 raw)).map
    (BranchKind.branch (BWord.b1 raw).toNat (BWord.b2 raw).toNat (BWord.relativeTarget raw ip))

/-! ## The decoder -/

/-- The branch that an instruction is executed as. -/
def InstructionEx.branch (i : InstructionEx) : Option Branch :=
  match i.type with
  | .BR_COND => some (if i.hasBranchTarget then .cond i.branchTarget else .condIndirect i.src1.toNat)
  | .BR_CALL =>
      some (if i.hasBranchTarget then .call i.dst.toNat i.branchTarget else .callIndirect i.dst.toNat i.src1.toNat)
  | .BR_RET => some (.ret i.src1.toNat)
  | .BR_IA => some (.ia i.src1.toNat)
  | .BR_CLOOP => some (.cloop i.branchTarget)
  | .BR_CTOP => some (.ctop i.branchTarget)
  | .BR_CEXIT => some (.cexit i.branchTarget)
  | .BR_WTOP => some (.wtop i.branchTarget)
  | .BR_WEXIT => some (.wexit i.branchTarget)
  | .RFI => some .rfi
  | _ => none

namespace BTypeDecoder

/-- What the decoder's format says a word is. -/
def kindOf (type : BranchType) (indirect : Bool) : Option BranchKind :=
  match type with
  | .COND => some (if indirect then .condIndirect else .cond)
  | .CALL => some (if indirect then .callIndirect else .call)
  | .RET => some .ret
  | .IA => some .ia
  | .CLOOP => some .cloop
  | .CTOP => some .ctop
  | .CEXIT => some .cexit
  | .WTOP => some .wtop
  | .WEXIT => some .wexit
  | .RFI => some .rfi
  | _ => none

/-- A format has a target if its branch needs one. -/
def Sound (fmt : BFormat) : Prop := ∀ k, kindOf fmt.type fmt.indirect = some k → fmt.hasTarget = k.relative

/-- The branch of a format. The return into the other instruction set is given no register. -/
theorem branch_toInstruction {fmt : BFormat} (h : Sound fmt) :
    (toInstruction fmt).branch = (kindOf fmt.type fmt.indirect).map
      fun k => k.branch fmt.b1.toNat (if k = .ia then 0 else fmt.b2.toNat) fmt.targetOffset := by
  obtain ⟨qp, b1, b2, opcode, type, targetOffset, hasTarget, wh, dh, ph, indirect⟩ := fmt
  cases type with
  | BSW0 | BSW1 | COVER | CLRRB | CLRRB_PR | EPC | VMSW0 | VMSW1 | BREAK_B | NOP_B | HINT_B =>
      cases hasTarget <;> rfl
  | COND | CALL =>
      cases indirect with
      | true =>
          have hsame : hasTarget = false := h _ rfl
          subst hsame
          rfl
      | false =>
          have hsame : hasTarget = true := h _ rfl
          subst hsame
          rfl
  | RET | IA | RFI =>
      have hsame : hasTarget = false := h _ rfl
      subst hsame
      rfl
  | CLOOP | CTOP | CEXIT | WTOP | WEXIT =>
      have hsame : hasTarget = true := h _ rfl
      subst hsame
      rfl

/-- A format that was made from the fields as another was made from their values. -/
structure Follows (fmt values result : BFormat) (target : UInt64) : Prop where
  type : fmt.type = values.type
  indirect : fmt.indirect = values.indirect
  hasTarget : fmt.hasTarget = values.hasTarget
  b1 : fmt.b1 = result.b1
  b2 : fmt.b2 = result.b2
  target : values.hasTarget = true → fmt.targetOffset = target

section
variable (raw ip : UInt64) (btype x6 : UInt8) {result : BFormat} (h : result.type = .COND)
include h

theorem follows_decodeMajor0 :
    Follows (decodeMajor0 raw btype x6 ip result) (decodeMajor0 0 btype x6 0 {}) result (ipRelativeTarget raw ip) := by
  simp only [decodeMajor0, decodeIndirect, decodeIPRelative]
  repeat' split
  all_goals exact ⟨by simp only [h], rfl, rfl, rfl, rfl, by simp⟩

theorem follows_decodeMajor4 :
    Follows (decodeMajor4 raw btype x6 ip result) (decodeMajor4 0 btype x6 0 {}) result (ipRelativeTarget raw ip) := by
  simp only [decodeMajor4, decodeIndirect, decodeIPRelative]
  repeat' split
  all_goals exact ⟨by simp only [h], rfl, rfl, rfl, rfl, by simp⟩

end

theorem Follows.branch {fmt values result : BFormat} {target : UInt64} (h : Follows fmt values result target)
    (hsound : Sound values) : (toInstruction fmt).branch = (kindOf values.type values.indirect).map
      fun k => k.branch result.b1.toNat (if k = .ia then 0 else result.b2.toNat) target := by
  have hfmt : Sound fmt := by
    intro k hk
    rw [h.type, h.indirect] at hk
    rw [h.hasTarget]
    exact hsound k hk
  rw [branch_toInstruction hfmt, h.type, h.indirect, h.b1, h.b2]
  cases hkind : kindOf values.type values.indirect with
  | none => rfl
  | some k =>
      have htarget := hsound k hkind
      simp only [Option.map_some]
      cases k with
      | cond | wexit | wtop | cloop | cexit | ctop | call =>
          rw [h.target htarget]
      | condIndirect | ia | ret | callIndirect | rfi => rfl

/-! ## What the decoder makes of the three fields -/

/-- The branch that the decoder finds. -/
def decodedKind (major : BitVec 4) (btype : BitVec 3) (x6 : BitVec 6) : Option BranchKind :=
  let b := UInt8.ofNat btype.toNat
  let n := UInt8.ofNat x6.toNat
  if major = 0 then
    match specialType n with
    | some type => kindOf type false
    | none => kindOf (decodeMajor0 0 b n 0 {}).type (decodeMajor0 0 b n 0 {}).indirect
  else if major = 4 then kindOf (decodeMajor4 0 b n 0 {}).type (decodeMajor4 0 b n 0 {}).indirect
  else if major = 5 then some (if btype = 5 then .cloop else .call)
  else if major = 1 then kindOf (indirectType n) true
  else none

/-- The fields of what is misread: most of major opcode 0, a call and a return in major opcode 4, a call through `b5` and
an indirect call with something in the bits that are an extension elsewhere. -/
def MisreadKind (major : BitVec 4) (btype : BitVec 3) (x6 : BitVec 6) : Prop :=
  (major = 0 ∧ x6 ∉ [0x00#6, 0x02#6, 0x04#6, 0x05#6, 0x08#6, 0x0C#6, 0x0D#6, 0x10#6, 0x18#6, 0x19#6] ∧
      ¬ (x6 = 0x20 ∧ btype = 0) ∧ ¬ (x6 = 0x21 ∧ btype = 4)) ∨
    (major = 4 ∧ (btype = 1 ∨ btype = 4)) ∨
    (major = 5 ∧ btype = 5) ∨
    (major = 1 ∧ x6.extractLsb' 0 5 ∉ [0#5, 1#5])

instance (major : BitVec 4) (btype : BitVec 3) (x6 : BitVec 6) : Decidable (MisreadKind major btype x6) := by
  unfold MisreadKind
  infer_instance

theorem sound_iff {fmt : BFormat} :
    Sound fmt ↔ (kindOf fmt.type fmt.indirect).all (fun k => fmt.hasTarget == k.relative) = true := by
  unfold Sound
  cases kindOf fmt.type fmt.indirect with
  | none => exact iff_of_true nofun rfl
  | some k =>
      rw [Option.all_some, beq_iff_eq]
      exact ⟨fun h => h k rfl, fun h k' hk => Option.some.inj hk ▸ h⟩

theorem sound_values : ∀ (btype : BitVec 3) (x6 : BitVec 6),
    Sound (decodeMajor0 0 (UInt8.ofNat btype.toNat) (UInt8.ofNat x6.toNat) 0 {}) ∧
      Sound (decodeMajor4 0 (UInt8.ofNat btype.toNat) (UInt8.ofNat x6.toNat) 0 {}) := by
  simp only [sound_iff]
  decide +kernel

/-- Of the special forms only the return from an interruption is a branch. -/
theorem sound_special {x6 : UInt8} {type : BranchType} (h : specialType x6 = some type) : Sound { type := type } := by
  rw [sound_iff]
  unfold specialType at h
  split at h
  all_goals
    cases h
    try rfl

theorem sound_indirect (x6 : UInt8) : Sound (decodeIndirect x6 {}) := by
  rw [sound_iff]
  show (kindOf (indirectType x6) true).all (fun k => false == k.relative) = true
  unfold indirectType
  split <;> rfl

theorem decodedKind_eq_iff (major : BitVec 4) (btype : BitVec 3) (x6 : BitVec 6) :
    decodedKind major btype x6 = architectedKind major btype x6 ↔ ¬ MisreadKind major btype x6 := by
  by_cases hmajor : major = 0 ∨ major = 1 ∨ major = 4 ∨ major = 5
  · obtain rfl | rfl | rfl | rfl := hmajor <;> revert btype x6 <;> decide +kernel
  · -- no branch on either side
    obtain ⟨h0, h1, h4, h5⟩ := not_or.mp hmajor |>.imp_right fun h => not_or.mp h |>.imp_right not_or.mp
    simp only [decodedKind, architectedKind, MisreadKind, h0, h1, h4, h5, if_false, false_and, or_self,
      not_false_eq_true]

/-- The return into the other instruction set is not found where it is. -/
theorem decodedKind_ne_ia (major : BitVec 4) (btype : BitVec 3) (x6 : BitVec 6)
    (h : decodedKind major btype x6 = architectedKind major btype x6) : decodedKind major btype x6 ≠ some .ia := by
  intro hia
  have hword : major = 0 ∧ x6 = 0x20 ∧ btype = 1 := by
    rw [h] at hia
    unfold architectedKind at hia
    repeat' split at hia
    all_goals simp_all
  obtain ⟨rfl, rfl, rfl⟩ := hword
  exact absurd h (by decide)

section Decode
variable (raw ip : UInt64)

theorem target_eq : ipRelativeTarget raw ip = BWord.relativeTarget raw ip := by
  have hfields : ((extractBits raw 36 1 <<< 20) ||| extractBits raw 13 20).toNat = (BWord.displacement raw).toNat :=
    shiftLeft_or_toNat _ _ (extractBits_toNat raw (by decide) (by decide))
      (extractBits_toNat raw (by decide) (by decide)) (by decide)
  have hextended := signExtend_toBitVec (BWord.displacement raw) hfields (by decide) (by decide)
  have hshift : (signExtend ((extractBits raw 36 1 <<< 20) ||| extractBits raw 13 20) 21 <<< 4).toBitVec =
      BitVec.ofInt 64 (16 * (BWord.displacement raw).toInt) := by
    rw [UInt64.toBitVec_shiftLeft, hextended, BitVec.ofInt_mul]
    show (BitVec.ofInt 64 (BWord.displacement raw).toInt) <<< 4 = _
    rw [BitVec.shiftLeft_eq_mul_twoPow, BitVec.mul_comm]
    rfl
  exact congrArg (ip + ·) (UInt64.toBitVec_inj.mp hshift)

theorem major_eq : majorOpcode raw = UInt8.ofNat (BWord.major raw).toNat := field_eq raw (by simp) (by simp)

variable {raw} in
theorem major_ne {m : BitVec 4} (h : BWord.major raw ≠ m) : majorOpcode raw ≠ UInt8.ofNat m.toNat :=
  mt (field_eq_iff raw (by simp) (by simp) m).mp h

theorem btype_eq : field raw 6 3 = UInt8.ofNat (BWord.btype raw).toNat := field_eq raw (by simp) (by simp)

theorem x6_eq : field raw 27 6 = UInt8.ofNat (BWord.x6 raw).toNat := field_eq raw (by simp) (by simp)

/-- The fields that every format has. -/
def start : BFormat :=
  { qp := qualifyingPredicate raw
    b1 := field raw 6 3
    b2 := field raw 13 3
    opcode := (majorOpcode raw <<< 4) ||| (field raw 27 6 &&& 0xF)
    wh := field raw 33 2
    dh := field raw 35 1
    ph := field raw 12 1 }

variable {raw} in
theorem decode_major0 (h : majorOpcode raw = 0) : decode raw ip = some (match specialType (field raw 27 6) with
    | some type => { start raw with type := type }
    | none => decodeMajor0 raw (field raw 6 3) (field raw 27 6) ip (start raw)) := by
  unfold decode start
  simp only [h]
  cases specialType (field raw 27 6) <;> rfl

variable {raw} in
theorem decode_major4 (h : majorOpcode raw = 4) :
    decode raw ip = some (decodeMajor4 raw (field raw 6 3) (field raw 27 6) ip (start raw)) := by
  unfold decode start
  simp only [h]
  rfl

variable {raw} in
theorem decode_major5 (h : majorOpcode raw = 5) : decode raw ip = some { start raw with
    type := if field raw 6 3 = 0x5 then .CLOOP else .CALL
    targetOffset := ipRelativeTarget raw ip
    hasTarget := true } := by
  unfold decode start
  simp only [h]
  rfl

variable {raw} in
theorem decode_major1 (h : majorOpcode raw = 1) :
    decode raw ip = some (decodeIndirect (field raw 27 6) (start raw)) := by
  unfold decode start
  simp only [h]
  rfl

variable {raw} in
/-- The other opcodes have no branches. -/
theorem decode_other (h0 : majorOpcode raw ≠ 0) (h1 : majorOpcode raw ≠ 1) (h4 : majorOpcode raw ≠ 4)
    (h5 : majorOpcode raw ≠ 5) : (decode raw ip).bind (fun fmt => (toInstruction fmt).branch) = none := by
  unfold decode
  simp only [h0, h1, h4, h5, false_and, if_false]
  split
  · split <;> rfl
  · rfl

/-- The words that the unit tests by itself are no branches, and neither are those its decoder does not get. -/
theorem branch_decodeB : (DecodeSlot.decodeB raw ip).bind InstructionEx.branch =
    (decode raw ip).bind fun fmt => (toInstruction fmt).branch := by
  unfold DecodeSlot.decodeB
  split
  · next h =>
    obtain ⟨⟨hmajor, -, hx6⟩, -⟩ := h
    have hx6 : field raw 27 6 = 0 := hx6
    unfold decode
    simp only [hmajor, hx6]
    rfl
  · split
    · next h =>
      unfold decode
      simp only [h]
      rfl
    · split
      · rw [Option.bind_map]
        rfl
      · next h =>
        unfold decode
        have hne : ∀ m : UInt8, m ≤ 5 → majorOpcode raw ≠ m := fun m hm heq => h (heq ▸ hm)
        simp [hne]

/-- **What the B unit makes of a word.** -/
theorem branch_decodeSlot : (decodeSlot raw .B_UNIT ip).branch =
    (decodedKind (BWord.major raw) (BWord.btype raw) (BWord.x6 raw)).map fun k =>
      k.branch (BWord.b1 raw).toNat (if k = .ia then 0 else (BWord.b2 raw).toNat) (BWord.relativeTarget raw ip) := by
  rw [← target_eq]
  have hb1 : (field raw 6 3).toNat = (BWord.b1 raw).toNat := field_toNat raw (by simp) (by simp)
  have hb2 : (field raw 13 3).toNat = (BWord.b2 raw).toNat := field_toNat raw (by simp) (by simp)
  obtain ⟨hsound0, hsound4⟩ := sound_values (BWord.btype raw) (BWord.x6 raw)
  have hdecode : (decodeSlot raw .B_UNIT ip).branch = (DecodeSlot.decodeB raw ip).bind InstructionEx.branch := by
    unfold decodeSlot DecodeSlot.decodeUnit
    cases DecodeSlot.decodeB raw ip <;> rfl
  rw [hdecode, branch_decodeB]
  unfold decodedKind
  dsimp only
  by_cases h0 : BWord.major raw = 0
  · rw [decode_major0 ip (by rw [major_eq, h0]; rfl), if_pos h0, btype_eq, x6_eq]
    cases hspecial : specialType (UInt8.ofNat (BWord.x6 raw).toNat) with
    | some type =>
        have hfollows : Follows { start raw with type := type } { type := type } (start raw)
            (ipRelativeTarget raw ip) := ⟨rfl, rfl, rfl, rfl, rfl, nofun⟩
        rw [← hb1, ← hb2]
        exact hfollows.branch (sound_special hspecial)
    | none =>
        rw [← hb1, ← hb2]
        exact (follows_decodeMajor0 raw ip _ _ rfl).branch hsound0
  by_cases h4 : BWord.major raw = 4
  · rw [decode_major4 ip (by rw [major_eq, h4]; rfl), if_neg h0, if_pos h4, btype_eq, x6_eq, ← hb1, ← hb2]
    exact (follows_decodeMajor4 raw ip _ _ rfl).branch hsound4
  by_cases h5 : BWord.major raw = 5
  · have hfollows : ∀ type, Follows { start raw with
        type := type, targetOffset := ipRelativeTarget raw ip, hasTarget := true } { type := type, hasTarget := true }
        (start raw) (ipRelativeTarget raw ip) := fun _ => ⟨rfl, rfl, rfl, rfl, rfl, fun _ => rfl⟩
    have hcloop : field raw 6 3 = 0x5 ↔ BWord.btype raw = 5 := by
      rw [btype_eq]
      generalize BWord.btype raw = b
      revert b
      decide
    rw [decode_major5 ip (by rw [major_eq, h5]; rfl), if_neg h0, if_neg h4, if_pos h5, ← hb1, ← hb2]
    by_cases hb : BWord.btype raw = 5
    · rw [if_pos (hcloop.mpr hb), if_pos hb]
      exact (hfollows .CLOOP).branch (sound_iff.mpr rfl)
    · rw [if_neg (mt hcloop.mp hb), if_neg hb]
      exact (hfollows .CALL).branch (sound_iff.mpr rfl)
  by_cases h1 : BWord.major raw = 1
  · have hfollows : ∀ x6, Follows (decodeIndirect x6 (start raw)) (decodeIndirect x6 {}) (start raw)
        (ipRelativeTarget raw ip) := fun _ => ⟨rfl, rfl, rfl, rfl, rfl, nofun⟩
    rw [decode_major1 ip (by rw [major_eq, h1]; rfl), if_neg h0, if_neg h4, if_neg h5, if_pos h1, x6_eq, ← hb1, ← hb2]
    exact (hfollows _).branch (sound_indirect _)
  · rw [if_neg h0, if_neg h4, if_neg h5, if_neg h1]
    exact decode_other ip (major_ne h0) (major_ne h1) (major_ne h4) (major_ne h5)

end Decode

end BTypeDecoder

/-! ## Agreement -/

/-- **What is read as another branch, or as a branch when it is none.** -/
def MisreadBranch (raw : UInt64) : Prop :=
  BTypeDecoder.MisreadKind (BWord.major raw) (BWord.btype raw) (BWord.x6 raw)

/-- **The B unit decodes the branches of the architecture**, except what is misread. -/
theorem branch_decodeSlot_iff : ∀ raw ip : UInt64,
    (decodeSlot raw .B_UNIT ip).branch = architectedBranch raw ip ↔ ¬ MisreadBranch raw := by
  intro raw ip
  rw [MisreadBranch, ← BTypeDecoder.decodedKind_eq_iff, BTypeDecoder.branch_decodeSlot, architectedBranch]
  constructor
  · intro h
    have hkinds := congrArg (Option.map Branch.kind) h
    simpa only [Option.map_map, Function.comp_def, kind_branch, Option.map_id_fun', id] using hkinds
  · intro h
    have hia := BTypeDecoder.decodedKind_ne_ia _ _ _ h
    rw [← h]
    cases hkind : BTypeDecoder.decodedKind (BWord.major raw) (BWord.btype raw) (BWord.x6 raw) with
    | none => rfl
    | some k =>
        have hk : k ≠ .ia := fun heq => hia (by rw [hkind, heq])
        simp only [Option.map_some, if_neg hk]

/-- A call that links through `b5`, a return into the other instruction set, and a word that is not assigned. -/
theorem branch_decodeSlot_misread :
    (decodeSlot 0xA000000140 .B_UNIT 0x1000).branch ≠ architectedBranch 0xA000000140 0x1000 ∧
      (decodeSlot 0x100000040 .B_UNIT 0x1000).branch ≠ architectedBranch 0x100000040 0x1000 ∧
      (decodeSlot 0x18000000 .B_UNIT 0x1000).branch ≠ architectedBranch 0x18000000 0x1000 := by
  decide +kernel

end GuideXOS.Decoder
