import GuideXOS.RiscV.Encoding

/-!
# `DecodeAgreement` — the instructions that `Decode` reads as they are encoded

For each major opcode, what `Decode` does is a record with a choice of mnemonic and an immediate. The choice is that of
the encodings, which is seen by going over the minor opcodes; the immediate is that of the format. In the system
instructions it holds except at what is misread.
-/

namespace GuideXOS.RiscV

/-! ## Agreement -/

/-- **`Decode` agrees with the encodings** at a word: it is legal if it is an instruction, and then it has its mnemonic,
its registers and its immediate. -/
structure Agrees (rawWord : UInt32) : Prop where
  legal : (decode rawWord).illegal = false ↔
    ∃ e ∈ encodings (Word.opcode rawWord.toBitVec), e.pattern.Matches rawWord.toBitVec
  fields : ∀ e ∈ encodings (Word.opcode rawWord.toBitVec), e.pattern.Matches rawWord.toBitVec →
    (decode rawWord).mnemonic = e.mnemonic ∧
      (decode rawWord).rd.toNat = (Word.rd rawWord.toBitVec).toNat ∧
      (decode rawWord).rs1.toNat = (Word.rs1 rawWord.toBitVec).toNat ∧
      (decode rawWord).rs2.toNat = (Word.rs2 rawWord.toBitVec).toNat ∧
      (decode rawWord).immediate.toInt = e.immediate.value rawWord.toBitVec

/-- What is decoded before the end, given what is chosen and the immediate. -/
structure Decided (rawWord : UInt32) (d : DecodedInstruction) (choice : Option Mnemonic) : Prop where
  recognized : d.recognized = choice.isSome
  illegal : d.illegal = !choice.isSome
  mnemonic : ∀ m ∈ choice, d.mnemonic = m
  rd : d.rd = (fieldsOf rawWord).rd
  rs1 : d.rs1 = (fieldsOf rawWord).rs1
  rs2 : d.rs2 = (fieldsOf rawWord).rs2

section Decided
variable {rawWord : UInt32} {insn d : DecodedInstruction} {choice : Option Mnemonic}

/-- A record that differs from the fields in what is not compared, and is not recognised yet. -/
structure Fresh (rawWord : UInt32) (insn : DecodedInstruction) : Prop where
  recognized : insn.recognized = false
  illegal : insn.illegal = true
  rd : insn.rd = (fieldsOf rawWord).rd
  rs1 : insn.rs1 = (fieldsOf rawWord).rs1
  rs2 : insn.rs2 = (fieldsOf rawWord).rs2

theorem Fresh.none (h : Fresh rawWord insn) : Decided rawWord insn none :=
  ⟨h.recognized, h.illegal, fun _ hm => (nomatch hm), h.rd, h.rs1, h.rs2⟩

theorem Fresh.legal (h : Fresh rawWord insn) (m : Mnemonic) : Decided rawWord (insn.legal m) (some m) :=
  ⟨rfl, rfl, fun _ hm => Option.some.inj hm, h.rd, h.rs1, h.rs2⟩

theorem Fresh.accept (h : Fresh rawWord insn) (choice : Option Mnemonic) :
    Decided rawWord (insn.accept choice) choice := by
  cases choice with
  | none => exact h.none
  | some m => exact h.legal m

theorem Fresh.acceptOp (h : Fresh rawWord insn) (choice : Option Mnemonic) :
    Decided rawWord (insn.acceptOp choice) choice := by
  cases choice with
  | none => exact h.none
  | some m =>
      show Decided rawWord ((if insn.funct7 = kFunct7M then { insn with extension := "RV64M" } else insn).legal m) _
      split
      · have hfresh : Fresh rawWord { insn with extension := "RV64M" } :=
          ⟨h.recognized, h.illegal, h.rd, h.rs1, h.rs2⟩
        exact hfresh.legal m
      · exact h.legal m

@[simp] theorem accept_immediate : (insn.accept choice).immediate = insn.immediate := by
  cases choice <;> rfl

@[simp] theorem acceptOp_immediate : (insn.acceptOp choice).immediate = insn.immediate := by
  cases choice with
  | none => rfl
  | some m =>
      unfold DecodedInstruction.acceptOp
      dsimp only
      split <;> rfl

/-- The choice is that of the encodings. -/
structure Chooses (w : Word) (choice : Option Mnemonic) : Prop where
  matched : ∀ e ∈ encodings w.opcode, e.pattern.Matches w → choice = some e.mnemonic
  exists_of_isSome : choice.isSome = true → ∃ e ∈ encodings w.opcode, e.pattern.Matches w

/-- What is legal is what is chosen. -/
theorem legal_of_decided (hdecode : (fieldsOf rawWord).decodeOpcode = d) (hd : Decided rawWord d choice) :
    (decode rawWord).illegal = false ↔ choice.isSome = true := by
  have hdec : decode rawWord = d.finish := congrArg DecodedInstruction.finish hdecode
  rw [hdec, DecodedInstruction.finish, hd.recognized]
  split
  · next h => simp [hd.illegal, h]
  · next h => simp [h]

/-- **Agreement at one opcode**: the choice is that of the encodings, and so is the immediate. -/
theorem agrees_of_decided (hdecode : (fieldsOf rawWord).decodeOpcode = d) (hd : Decided rawWord d choice)
    (hchoice : Chooses rawWord.toBitVec choice)
    (himmediate : ∀ e ∈ encodings (Word.opcode rawWord.toBitVec), e.pattern.Matches rawWord.toBitVec →
      d.immediate.toInt = e.immediate.value rawWord.toBitVec) : Agrees rawWord := by
  have hlegal := legal_of_decided hdecode hd
  constructor
  · rw [hlegal]
    refine ⟨hchoice.exists_of_isSome, ?_⟩
    rintro ⟨e, he, hmatches⟩
    rw [hchoice.matched e he hmatches]
    rfl
  · intro e he hmatches
    have hm := hchoice.matched e he hmatches
    have hsame : decode rawWord = d := by
      have hdec : decode rawWord = d.finish := congrArg DecodedInstruction.finish hdecode
      rw [hdec, DecodedInstruction.finish, hd.recognized, hm]
      rfl
    rw [hsame, hd.rd, hd.rs1, hd.rs2, rd_eq, rs1_eq, rs2_eq]
    refine ⟨hd.mnemonic _ hm, ?_, ?_, ?_, himmediate e he hmatches⟩
    all_goals
      rw [UInt8.toNat_ofNat']
      exact Nat.mod_eq_of_lt ((BitVec.isLt _).trans (by decide))

/-- Instructions with one format. -/
theorem immediate_of_forall {w : Word} {o : BitVec 7} (ho : w.opcode = o) (k : Immediate)
    (hk : ∀ e ∈ encodings o, e.immediate = k) {x : ℤ} (hx : x = k.value w) :
    ∀ e ∈ encodings w.opcode, e.pattern.Matches w → x = e.immediate.value w := by
  intro e he _
  rw [hk e (ho ▸ he), hx]

end Decided

/-! ### Each opcode -/

section Opcodes
variable {rawWord : UInt32} (insn : DecodedInstruction) {o : BitVec 7}

theorem opcode_of (h : Word.opcode rawWord.toBitVec = o) {c : UInt8} (hc : UInt8.ofNat o.toNat = c) :
    (fieldsOf rawWord).opcode = c := by
  rw [opcode_eq, h, hc]

theorem fresh_fields (format : InstructionFormat) (immediate : Int64) :
    Fresh rawWord { fieldsOf rawWord with format := format, immediate := immediate } := ⟨rfl, rfl, rfl, rfl, rfl⟩

section
variable (h : Word.opcode rawWord.toBitVec = o)
include h

/-- **Opcodes with one instruction.** -/
theorem agrees_of_any (c : UInt8) (format : InstructionFormat) (immediate : UInt32 → Int64) (m : Mnemonic)
    (k : Immediate) (hc : UInt8.ofNat o.toNat = c)
    (hdecode : ∀ insn : DecodedInstruction, insn.opcode = c → insn.decodeOpcode =
      { insn with format := format, immediate := immediate insn.rawWord }.legal m)
    (htable : encodings o = [⟨m, .any, k⟩])
    (himmediate : (immediate rawWord).toInt = k.value rawWord.toBitVec) : Agrees rawWord := by
  refine agrees_of_decided (hdecode _ (opcode_of h hc)) ((fresh_fields _ _).legal m) ⟨?_, ?_⟩
    (immediate_of_forall h k (by rw [htable]; simp) himmediate)
  · rw [h, htable]
    simp
  · intro _
    rw [h, htable]
    exact ⟨_, List.mem_singleton_self _, trivial⟩

/-- **Opcodes with `funct3`.** -/
theorem chooses_of_funct3 {choice : UInt8 → Option Mnemonic}
    (hmatched : ∀ e ∈ encodings o, ∃ f3 : BitVec 3, e.pattern = .funct3 f3 ∧
      choice (UInt8.ofNat f3.toNat) = some e.mnemonic)
    (hsome : ∀ f3 : BitVec 3, (choice (UInt8.ofNat f3.toNat)).isSome = true →
      ∃ e ∈ encodings o, e.pattern = .funct3 f3) : Chooses rawWord.toBitVec (choice (fieldsOf rawWord).funct3) := by
  rw [funct3_eq]
  constructor
  · intro e he hmatches
    obtain ⟨f3, hpattern, hchoice⟩ := hmatched e (h ▸ he)
    rw [hpattern] at hmatches
    rw [show Word.funct3 rawWord.toBitVec = f3 from hmatches, hchoice]
  · intro hchosen
    obtain ⟨e, he, hpattern⟩ := hsome _ hchosen
    exact ⟨e, h ▸ he, hpattern ▸ rfl⟩

/-- They agree when their immediates are of one format. -/
theorem agrees_of_funct3 (c : UInt8) (format : InstructionFormat) (immediate : UInt32 → Int64)
    (choice : UInt8 → Option Mnemonic) (k : Immediate) (hc : UInt8.ofNat o.toNat = c)
    (hdecode : ∀ insn : DecodedInstruction, insn.opcode = c → insn.decodeOpcode =
      { insn with format := format, immediate := immediate insn.rawWord }.accept (choice insn.funct3))
    (hmatched : ∀ e ∈ encodings o, ∃ f3 : BitVec 3, e.pattern = .funct3 f3 ∧
      choice (UInt8.ofNat f3.toNat) = some e.mnemonic)
    (hsome : ∀ f3 : BitVec 3, (choice (UInt8.ofNat f3.toNat)).isSome = true →
      ∃ e ∈ encodings o, e.pattern = .funct3 f3) (hk : ∀ e ∈ encodings o, e.immediate = k)
    (himmediate : (immediate rawWord).toInt = k.value rawWord.toBitVec) : Agrees rawWord := by
  refine agrees_of_decided (hdecode _ (opcode_of h hc)) ((fresh_fields _ _).accept _)
    (chooses_of_funct3 h hmatched hsome) (immediate_of_forall h k hk ?_)
  rw [accept_immediate]
  exact himmediate

/-- **Opcodes with `funct3` and `funct7`.** -/
theorem agrees_of_funct7 (c : UInt8) (choice : UInt8 → UInt8 → Option Mnemonic) (hc : UInt8.ofNat o.toNat = c)
    (hdecode : ∀ insn : DecodedInstruction, insn.opcode = c →
      insn.decodeOpcode = { insn with format := .R }.acceptOp (choice insn.funct3 insn.funct7))
    (hmatched : ∀ e ∈ encodings o, (match e.pattern with
      | .funct7 f3 f7 => choice (UInt8.ofNat f3.toNat) (UInt8.ofNat f7.toNat)
      | _ => none) = some e.mnemonic)
    (hsome : ∀ (f3 : BitVec 3) (f7 : BitVec 7), (choice (UInt8.ofNat f3.toNat) (UInt8.ofNat f7.toNat)).isSome = true →
      ∃ e ∈ encodings o, e.pattern = .funct7 f3 f7) (hk : ∀ e ∈ encodings o, e.immediate = .none) : Agrees rawWord := by
  refine agrees_of_decided (hdecode _ (opcode_of h hc)) ((fresh_fields _ _).acceptOp _) ?_
    (immediate_of_forall h .none hk (congrArg Int64.toInt acceptOp_immediate))
  rw [funct3_eq, funct7_eq]
  constructor
  · intro e he hmatches
    have hchoice := hmatched e (h ▸ he)
    cases hpattern : e.pattern with
    | funct7 f3 f7 =>
        rw [hpattern] at hmatches hchoice
        obtain ⟨h3, h7⟩ := hmatches
        rw [h3, h7]
        exact hchoice
    | any | funct3 | shift | atomic | loadReserved | environment =>
        rw [hpattern] at hchoice
        cases hchoice
  · intro hchosen
    obtain ⟨e, he, hpattern⟩ := hsome _ _ hchosen
    exact ⟨e, h ▸ he, hpattern ▸ ⟨rfl, rfl⟩⟩

end

theorem agrees_lui (h : Word.opcode rawWord.toBitVec = 0b0110111#7) : Agrees rawWord := by
  refine agrees_of_any h kOpcodeLui .U decodeUImmediate .LUI .u rfl (fun insn hopcode => ?_) rfl (decodeUImmediate_toInt rawWord)
  rw [DecodedInstruction.decodeOpcode, hopcode]
  rfl

theorem agrees_auipc (h : Word.opcode rawWord.toBitVec = 0b0010111#7) : Agrees rawWord := by
  refine agrees_of_any h kOpcodeAuipc .U decodeUImmediate .AUIPC .u rfl (fun insn hopcode => ?_) rfl (decodeUImmediate_toInt rawWord)
  rw [DecodedInstruction.decodeOpcode, hopcode]
  rfl

theorem agrees_jal (h : Word.opcode rawWord.toBitVec = 0b1101111#7) : Agrees rawWord := by
  refine agrees_of_any h kOpcodeJal .J decodeJImmediate .JAL .j rfl (fun insn hopcode => ?_) rfl (decodeJImmediate_toInt rawWord)
  rw [DecodedInstruction.decodeOpcode, hopcode]
  rfl

theorem agrees_jalr (h : Word.opcode rawWord.toBitVec = 0b1100111#7) : Agrees rawWord := by
  refine agrees_of_funct3 h kOpcodeJalr .I decodeIImmediate (fun funct3 => if funct3 = 0x0 then some .JALR else none)
    .i rfl (fun insn hopcode => ?_) (by decide) (by decide) (by decide) (decodeIImmediate_toInt rawWord)
  cases insn
  cases hopcode
  show DecodedInstruction.decodeJalr _ = _
  unfold DecodedInstruction.decodeJalr
  dsimp only
  split <;> rfl

theorem agrees_branch (h : Word.opcode rawWord.toBitVec = 0b1100011#7) : Agrees rawWord := by
  refine agrees_of_funct3 h kOpcodeBranch .B decodeBImmediate branchMnemonic .b rfl (fun insn hopcode => ?_)
    (by decide) (by decide) (by decide) (decodeBImmediate_toInt rawWord)
  rw [DecodedInstruction.decodeOpcode, hopcode]
  rfl

theorem agrees_load (h : Word.opcode rawWord.toBitVec = 0b0000011#7) : Agrees rawWord := by
  refine agrees_of_funct3 h kOpcodeLoad .I decodeIImmediate loadMnemonic .i rfl (fun insn hopcode => ?_)
    (by decide) (by decide) (by decide) (decodeIImmediate_toInt rawWord)
  rw [DecodedInstruction.decodeOpcode, hopcode]
  rfl

theorem agrees_store (h : Word.opcode rawWord.toBitVec = 0b0100011#7) : Agrees rawWord := by
  refine agrees_of_funct3 h kOpcodeStore .S decodeSImmediate storeMnemonic .s rfl (fun insn hopcode => ?_)
    (by decide) (by decide) (by decide) (decodeSImmediate_toInt rawWord)
  rw [DecodedInstruction.decodeOpcode, hopcode]
  rfl

theorem agrees_op (h : Word.opcode rawWord.toBitVec = 0b0110011#7) : Agrees rawWord := by
  refine agrees_of_funct7 h kOpcodeOp opMnemonic rfl (fun insn hopcode => ?_) (by decide) (by decide +kernel) (by decide)
  rw [DecodedInstruction.decodeOpcode, hopcode]
  rfl

theorem agrees_op32 (h : Word.opcode rawWord.toBitVec = 0b0111011#7) : Agrees rawWord := by
  refine agrees_of_funct7 h kOpcodeOp32 op32Mnemonic rfl (fun insn hopcode => ?_) (by decide) (by decide +kernel) (by decide)
  rw [DecodedInstruction.decodeOpcode, hopcode]
  rfl

def opImmMnemonic (funct3 : UInt8) (funct6 : UInt32) : Option Mnemonic :=
  match funct3 with
  | 0x0 => some .ADDI
  | 0x2 => some .SLTI
  | 0x3 => some .SLTIU
  | 0x4 => some .XORI
  | 0x6 => some .ORI
  | 0x7 => some .ANDI
  | 0x1 => if funct6 = 0x00 then some .SLLI else none
  | 0x5 => if funct6 = 0x00 ∨ funct6 = 0x10 then some (if funct6 = 0x10 then .SRAI else .SRLI) else none
  | _ => none

/-- The immediate of `kOpcodeOpImm`. -/
def opImmImmediate (rawWord : UInt32) (funct3 : UInt8) (funct6 : UInt32) : Int64 :=
  if (funct3 = 0x1 ∧ funct6 = 0x00) ∨ (funct3 = 0x5 ∧ (funct6 = 0x00 ∨ funct6 = 0x10)) then
    unsignedImmediate rawWord 20 0x3F
  else decodeIImmediate rawWord

theorem decodeOpImm_eq :
    insn.decodeOpImm = { insn with
      format := .I
      immediate := opImmImmediate insn.rawWord insn.funct3 ((insn.rawWord >>> 26) &&& 0x3F) }.accept
        (opImmMnemonic insn.funct3 ((insn.rawWord >>> 26) &&& 0x3F)) := by
  cases insn
  unfold DecodedInstruction.decodeOpImm opImmMnemonic opImmImmediate
  dsimp only
  split
  · rfl
  · rfl
  · rfl
  · rfl
  · rfl
  · rfl
  · split <;> simp_all [DecodedInstruction.accept]
  · split <;> simp_all [DecodedInstruction.accept]
  · split <;> simp_all [DecodedInstruction.accept]

def opImm32Mnemonic (funct3 funct7 : UInt8) : Option Mnemonic :=
  match funct3 with
  | 0x0 => some .ADDIW
  | 0x1 => if isShiftImmWLegal funct7 funct3 then some .SLLIW else none
  | 0x5 => if isShiftImmWLegal funct7 funct3 then some (if funct7 = 0x20 then .SRAIW else .SRLIW) else none
  | _ => none

/-- The immediate of `kOpcodeOpImm32`. -/
def opImm32Immediate (rawWord : UInt32) (funct3 funct7 : UInt8) (old : Int64) : Int64 :=
  if funct3 = 0x0 then decodeIImmediate rawWord
  else if isShiftImmWLegal funct7 funct3 then unsignedImmediate rawWord 20 0x1F
  else old

theorem decodeOpImm32_eq :
    insn.decodeOpImm32 = { insn with
      format := .I
      immediate := opImm32Immediate insn.rawWord insn.funct3 insn.funct7 insn.immediate }.accept
        (opImm32Mnemonic insn.funct3 insn.funct7) := by
  cases insn
  unfold DecodedInstruction.decodeOpImm32 opImm32Mnemonic opImm32Immediate
  dsimp only
  split
  · rfl
  · split <;> simp_all [DecodedInstruction.accept]
  · split <;> simp_all [DecodedInstruction.accept]
  · split <;> simp_all [DecodedInstruction.accept, isShiftImmWLegal]

theorem agrees_opImm (h : Word.opcode rawWord.toBitVec = 0b0010011#7) : Agrees rawWord := by
  have hdecode : ∀ {insn : DecodedInstruction}, insn.opcode = kOpcodeOpImm → insn.decodeOpcode = insn.decodeOpImm := by
    intro insn h
    cases insn
    cases h
    rfl
  have hfunct6 : (rawWord >>> 26) &&& 0x3F = UInt32.ofNat (Word.funct6 rawWord.toBitVec).toNat :=
    field_eq rawWord (by decide) rfl (by decide)
  have hshift : (unsignedImmediate rawWord 20 0x3F).toInt = Immediate.shamt6.value rawWord.toBitVec :=
    unsignedImmediate_toInt rawWord (by decide) rfl (by decide)
  refine agrees_of_decided ((hdecode (opcode_of h rfl)).trans (decodeOpImm_eq _)) ((fresh_fields _ _).accept _) ?_ ?_
  · show Chooses _ (opImmMnemonic _ ((rawWord >>> 26) &&& 0x3F))
    rw [hfunct6, funct3_eq]
    constructor
    · rw [h]
      simp only [encodings, Pattern.Matches, BitVec.reduceEq, if_false, if_true, List.forall_mem_cons, List.not_mem_nil,
        false_implies, implies_true, and_true, and_imp]
      refine ⟨?_, ?_, ?_, ?_, ?_, ?_, fun h3 h6 => ?_, fun h3 h6 => ?_, fun h3 h6 => ?_⟩
      iterate 6
        · intro h3
          rw [h3]
          rfl
      all_goals
        rw [h3, h6]
        rfl
    · rw [h]
      simp only [encodings, Pattern.Matches, BitVec.reduceEq, if_false, if_true, List.exists_mem_cons_iff,
        List.not_mem_nil, false_and, exists_false, or_false]
      generalize Word.funct3 rawWord.toBitVec = f3
      generalize Word.funct6 rawWord.toBitVec = f6
      revert f3 f6
      decide +kernel
  · rw [accept_immediate, h]
    show ∀ e ∈ _, _ → (opImmImmediate rawWord _ ((rawWord >>> 26) &&& 0x3F)).toInt = _
    rw [hfunct6, funct3_eq]
    simp only [encodings, Pattern.Matches, BitVec.reduceEq, if_false, if_true, List.forall_mem_cons, List.not_mem_nil,
      false_implies, implies_true, and_true, and_imp]
    refine ⟨?_, ?_, ?_, ?_, ?_, ?_, fun h3 h6 => ?_, fun h3 h6 => ?_, fun h3 h6 => ?_⟩
    iterate 6
      · intro h3
        rw [h3, opImmImmediate, if_neg (by simp)]
        exact decodeIImmediate_toInt rawWord
    all_goals
      rw [h3, h6, opImmImmediate, if_pos (by decide)]
      exact hshift

theorem agrees_opImm32 (h : Word.opcode rawWord.toBitVec = 0b0011011#7) : Agrees rawWord := by
  have hdecode : ∀ {insn : DecodedInstruction}, insn.opcode = kOpcodeOpImm32 →
      insn.decodeOpcode = insn.decodeOpImm32 := by
    intro insn h
    cases insn
    cases h
    rfl
  have hshift : (unsignedImmediate rawWord 20 0x1F).toInt = Immediate.shamt5.value rawWord.toBitVec :=
    unsignedImmediate_toInt rawWord (by decide) rfl (by decide)
  refine agrees_of_decided ((hdecode (opcode_of h rfl)).trans (decodeOpImm32_eq _)) ((fresh_fields _ _).accept _) ?_ ?_
  · rw [funct3_eq, funct7_eq]
    constructor
    · rw [h]
      simp only [encodings, Pattern.Matches, BitVec.reduceEq, if_false, if_true, List.forall_mem_cons, List.not_mem_nil,
        false_implies, implies_true, and_true, and_imp]
      refine ⟨fun h3 => ?_, fun h3 h7 => ?_, fun h3 h7 => ?_, fun h3 h7 => ?_⟩
      · rw [h3]
        rfl
      all_goals
        rw [h3, h7]
        rfl
    · rw [h]
      simp only [encodings, Pattern.Matches, BitVec.reduceEq, if_false, if_true, List.exists_mem_cons_iff,
        List.not_mem_nil, false_and, exists_false, or_false]
      generalize Word.funct3 rawWord.toBitVec = f3
      generalize Word.funct7 rawWord.toBitVec = f7
      revert f3 f7
      decide +kernel
  · rw [accept_immediate, h]
    show ∀ e ∈ _, _ → (opImm32Immediate rawWord (fieldsOf rawWord).funct3 (fieldsOf rawWord).funct7 0).toInt = _
    rw [funct3_eq, funct7_eq]
    simp only [encodings, Pattern.Matches, BitVec.reduceEq, if_false, if_true, List.forall_mem_cons, List.not_mem_nil,
      false_implies, implies_true, and_true, and_imp]
    refine ⟨fun h3 => ?_, fun h3 h7 => ?_, fun h3 h7 => ?_, fun h3 h7 => ?_⟩
    · rw [h3, opImm32Immediate, if_pos (by decide)]
      exact decodeIImmediate_toInt rawWord
    all_goals
      rw [h3, h7, opImm32Immediate, if_neg (by decide), if_pos (by decide)]
      exact hshift

/-- The choice of `decodeAtomic`. -/
def atomicChoice (funct3 funct5 rs2 : UInt8) : Option Mnemonic :=
  if funct3 = 0x2 ∨ funct3 = 0x3 then
    if funct5 = 0x02 ∧ rs2 ≠ 0 then none else atomicMnemonic (funct3 == 0x3) funct5
  else none

theorem decided_decodeAtomic {insn : DecodedInstruction} (hf : Fresh rawWord insn) (isDoubleword : Bool)
    (hwidth : insn.funct3 = if isDoubleword then 0x3 else 0x2) :
    Decided rawWord (insn.decodeAtomic isDoubleword)
      (atomicChoice insn.funct3 ((insn.rawWord >>> 27) &&& 0x1F).toUInt8 insn.rs2) := by
  have hchoice : atomicChoice insn.funct3 ((insn.rawWord >>> 27) &&& 0x1F).toUInt8 insn.rs2 =
      if ((insn.rawWord >>> 27) &&& 0x1F).toUInt8 = 0x02 ∧ insn.rs2 ≠ 0 then none
      else atomicMnemonic isDoubleword ((insn.rawWord >>> 27) &&& 0x1F).toUInt8 := by
    cases isDoubleword <;> rw [atomicChoice, hwidth] <;> rfl
  have hwidthOk : (if isDoubleword then insn.funct3 == 0x3 else insn.funct3 == 0x2) = true := by
    cases isDoubleword <;> simp [hwidth]
  have hfresh : ∀ aq rl extension, Fresh rawWord { insn with
      format := .R, aq := aq, rl := rl, extension := extension } :=
    fun _ _ _ => ⟨hf.recognized, hf.illegal, hf.rd, hf.rs1, hf.rs2⟩
  rw [hchoice, DecodedInstruction.decodeAtomic]
  dsimp only
  rw [hwidthOk, Bool.not_true, Bool.false_or]
  by_cases hreserved : ((insn.rawWord >>> 27) &&& 0x1F).toUInt8 = 0x02 ∧ insn.rs2 ≠ 0
  · rw [if_pos hreserved, if_pos hreserved.1, if_pos (by simp [hreserved.2])]
    exact (hfresh _ _ _).none
  · rw [if_neg hreserved, if_neg]
    · exact (hfresh _ _ _).accept _
    · split
      · next h => simpa using fun hrs2 => hreserved ⟨h, hrs2⟩
      · decide

theorem decodeAtomic_immediate (isDoubleword : Bool) : (insn.decodeAtomic isDoubleword).immediate = insn.immediate := by
  unfold DecodedInstruction.decodeAtomic
  dsimp only
  rw [apply_ite DecodedInstruction.immediate, accept_immediate]
  exact ite_self _

/-- The two widths. -/
theorem decided_atomic {insn : DecodedInstruction} (hf : Fresh rawWord insn) :
    Decided rawWord (if insn.funct3 = 0x2 then insn.decodeAtomic false
      else if insn.funct3 = 0x3 then insn.decodeAtomic true else insn)
      (atomicChoice insn.funct3 ((insn.rawWord >>> 27) &&& 0x1F).toUInt8 insn.rs2) := by
  split
  · next h => exact decided_decodeAtomic hf false h
  · split
    · next h => exact decided_decodeAtomic hf true h
    · next h2 h3 =>
      rw [atomicChoice, if_neg (not_or.mpr ⟨h2, h3⟩)]
      exact hf.none

theorem agrees_atomic (h : Word.opcode rawWord.toBitVec = 0b0101111#7) : Agrees rawWord := by
  have hdecode : ∀ {insn : DecodedInstruction}, insn.opcode = kOpcodeAtomic → insn.decodeOpcode =
      if insn.funct3 = 0x2 then insn.decodeAtomic false
      else if insn.funct3 = 0x3 then insn.decodeAtomic true else insn := by
    intro insn h
    cases insn
    cases h
    rfl
  have hfunct5 : ((rawWord >>> 27) &&& 0x1F).toUInt8 = UInt8.ofNat (Word.funct5 rawWord.toBitVec).toNat :=
    field_toUInt8 rawWord (by decide) rfl (by decide)
  have hsome : ∀ (f3 : BitVec 3) (f5 : BitVec 5) (zero : Bool),
      (atomicChoice (UInt8.ofNat f3.toNat) (UInt8.ofNat f5.toNat) (if zero then 0 else 1)).isSome = true →
      ∃ e ∈ encodings 0b0101111#7, e.pattern = .atomic f3 f5 ∨
        (e.pattern = .loadReserved f3 ∧ f5 = 0b00010#5 ∧ zero = true) := by
    decide +kernel
  have hrs2 : ∀ f3 f5, atomicChoice f3 f5 (fieldsOf rawWord).rs2 =
      atomicChoice f3 f5 (if Word.rs2 rawWord.toBitVec == 0 then 0 else 1) := by
    intro f3 f5
    have hiff : (fieldsOf rawWord).rs2 ≠ 0 ↔ (if Word.rs2 rawWord.toBitVec == 0 then (0 : UInt8) else 1) ≠ 0 := by
      rw [rs2_eq]
      generalize Word.rs2 rawWord.toBitVec = rs2
      revert rs2
      decide
    simp only [atomicChoice, hiff]
  refine agrees_of_decided (hdecode (opcode_of h rfl)) (decided_atomic ⟨rfl, rfl, rfl, rfl, rfl⟩) ⟨?_, ?_⟩
    (immediate_of_forall h .none (by decide) ?_)
  · show ∀ e ∈ _, _ → atomicChoice _ ((rawWord >>> 27) &&& 0x1F).toUInt8 _ = _
    rw [h, hfunct5, funct3_eq, rs2_eq]
    simp only [encodings, atomics, Pattern.Matches, BitVec.reduceEq, if_false, if_true, List.forall_mem_cons,
      List.cons_append, List.nil_append, List.not_mem_nil, false_implies, implies_true, and_true, and_imp]
    and_intros <;> intro h3 h5 <;> rw [h3, h5]
    any_goals rfl
    -- the reserved field of the loads
    all_goals
      intro hrs2
      rw [hrs2]
      rfl
  · show (atomicChoice _ ((rawWord >>> 27) &&& 0x1F).toUInt8 _).isSome = true → _
    rw [h, hfunct5, funct3_eq, hrs2]
    intro hchosen
    obtain ⟨e, he, hpattern | ⟨hpattern, h5, hzero⟩⟩ := hsome _ _ _ hchosen
    · exact ⟨e, he, hpattern ▸ ⟨rfl, rfl⟩⟩
    · exact ⟨e, he, hpattern ▸ ⟨rfl, h5, beq_iff_eq.mp hzero⟩⟩
  · show (ite _ _ _ : DecodedInstruction).immediate.toInt = 0
    split
    · rw [decodeAtomic_immediate]
      rfl
    · split
      · rw [decodeAtomic_immediate]
        rfl
      · rfl

theorem agrees_fence (h : Word.opcode rawWord.toBitVec = 0b0001111#7) : Agrees rawWord := by
  have hdecode : ∀ {insn : DecodedInstruction}, insn.opcode = kOpcodeFence → insn.decodeOpcode =
      { insn with
        format := .System
        immediate := if insn.funct3 = 0x0 ∨ insn.funct3 = 0x1 then unsignedImmediate insn.rawWord 20 0xFFF
          else insn.immediate }.accept
        (if insn.funct3 = 0x0 then some .FENCE else if insn.funct3 = 0x1 then some .FENCE_I else none) := by
    intro insn h
    cases insn
    cases h
    show DecodedInstruction.decodeFence _ = _
    unfold DecodedInstruction.decodeFence
    dsimp only
    split
    · next h0 => simp [h0, DecodedInstruction.accept]
    · next h0 => split <;> simp_all [DecodedInstruction.accept]
  have hfield : (unsignedImmediate rawWord 20 0xFFF).toInt = Immediate.funct12.value rawWord.toBitVec :=
    unsignedImmediate_toInt rawWord (by decide) rfl (by decide)
  refine agrees_of_decided (hdecode (opcode_of h rfl)) ((fresh_fields _ _).accept _)
    (@chooses_of_funct3 _ _ h (fun funct3 => if funct3 = 0x0 then some .FENCE else if funct3 = 0x1 then
      some .FENCE_I else none) (by decide) (by decide)) ?_
  rw [accept_immediate, h, funct3_eq]
  simp only [encodings, Pattern.Matches, BitVec.reduceEq, if_false, if_true, List.forall_mem_cons, List.not_mem_nil,
      false_implies, implies_true, and_true]
  refine ⟨fun h3 => ?_, fun h3 => ?_⟩
  all_goals
    rw [h3, if_pos (by decide)]
    exact hfield

/-- Words of no opcode. -/
theorem agrees_none (h : encodings (Word.opcode rawWord.toBitVec) = []) : Agrees rawWord := by
  have hdecode : ∀ insn : DecodedInstruction, insn.opcode ∉ [kOpcodeLui, kOpcodeAuipc, kOpcodeJal, kOpcodeJalr,
      kOpcodeSystem, kOpcodeBranch, kOpcodeLoad, kOpcodeStore, kOpcodeOpImm, kOpcodeOp, kOpcodeOpImm32, kOpcodeOp32,
      kOpcodeAtomic, kOpcodeFence] → insn.decodeOpcode = insn := by
    intro insn hopcode
    unfold DecodedInstruction.decodeOpcode
    split <;> simp_all
  have hopcodes : ∀ o : BitVec 7, encodings o = [] → UInt8.ofNat o.toNat ∉ [kOpcodeLui, kOpcodeAuipc, kOpcodeJal,
      kOpcodeJalr, kOpcodeSystem, kOpcodeBranch, kOpcodeLoad, kOpcodeStore, kOpcodeOpImm, kOpcodeOp, kOpcodeOpImm32,
      kOpcodeOp32, kOpcodeAtomic, kOpcodeFence] := by
    decide
  refine agrees_of_decided (hdecode (fieldsOf rawWord) ?_)
    (Fresh.none ⟨rfl, rfl, rfl, rfl, rfl⟩) ⟨?_, fun hsome => Bool.noConfusion hsome⟩ ?_
  · rw [opcode_eq]
    exact hopcodes _ h
  · rw [h]
    exact fun e he => (List.not_mem_nil he).elim
  · rw [h]
    exact fun e he => (List.not_mem_nil he).elim

end Opcodes

/-! ### System instructions -/

section System
variable {rawWord : UInt32}

/-- The choice of `kOpcodeSystem`. -/
def systemMnemonic (funct3 : UInt8) (csr zimm : UInt32) : Option Mnemonic :=
  if funct3 = 0x0 then environmentMnemonic csr else csrMnemonic funct3 zimm

theorem decodeSystem_immediate (insn : DecodedInstruction) :
    insn.decodeSystem.immediate = unsignedImmediate insn.rawWord 20 0xFFF := by
  unfold DecodedInstruction.decodeSystem
  dsimp only
  split
  · split <;> rfl
  · rfl
  · rw [apply_ite DecodedInstruction.immediate, accept_immediate]
    exact ite_self _

theorem decided_system {insn : DecodedInstruction} (hf : Fresh rawWord insn) (hraw : insn.rawWord = rawWord) :
    Decided rawWord insn.decodeSystem
      (systemMnemonic insn.funct3 ((rawWord >>> 20) &&& 0xFFF) ((rawWord >>> 15) &&& 0x1F)) := by
  subst hraw
  unfold DecodedInstruction.decodeSystem systemMnemonic
  dsimp only
  split
  · next h =>
    rw [if_pos h]
    cases environmentMnemonic ((insn.rawWord >>> 20) &&& 0xFFF) with
    | none => exact Fresh.none ⟨hf.recognized, hf.illegal, hf.rd, hf.rs1, hf.rs2⟩
    | some m =>
        have hfresh : Fresh insn.rawWord { insn with
            format := .System, immediate := unsignedImmediate insn.rawWord 20 0xFFF, extension := "SYSTEM" } :=
          ⟨hf.recognized, hf.illegal, hf.rd, hf.rs1, hf.rs2⟩
        exact hfresh.legal m
  · next h =>
    rw [h]
    exact Fresh.none ⟨hf.recognized, hf.illegal, hf.rd, hf.rs1, hf.rs2⟩
  · next h0 _ =>
    rw [if_neg h0]
    have hfresh : Fresh insn.rawWord { insn with
        format := .I, extension := "Zicsr", immediate := unsignedImmediate insn.rawWord 20 0xFFF } :=
      ⟨hf.recognized, hf.illegal, hf.rd, hf.rs1, hf.rs2⟩
    have haccept := hfresh.accept (csrMnemonic insn.funct3 ((insn.rawWord >>> 15) &&& 0x1F))
    split
    · exact ⟨haccept.recognized, haccept.illegal, haccept.mnemonic, haccept.rd, rfl, haccept.rs2⟩
    · exact haccept

/-- **What is misread**: a read of a CSR by setting or clearing no bits is not recognised, and the register fields of
the operations without operands are not looked at. -/
def Misread (w : Word) : Prop :=
  w.opcode = 0b1110011#7 ∧
    (((w.funct3 = 0b010#3 ∨ w.funct3 = 0b011#3) ∧ w.rs1 = 0) ∨
      (w.funct3 = 0 ∧ w.funct12 ∈ [0x000#12, 0x001#12, 0x302#12, 0x102#12, 0x105#12] ∧ ¬ (w.rd = 0 ∧ w.rs1 = 0)))

theorem ofNat_inj {k : ℕ} (hk : k ≤ 32) (x y : BitVec k) :
    UInt32.ofNat x.toNat = UInt32.ofNat y.toNat ↔ x = y := by
  have hlt : ∀ z : BitVec k, z.toNat < 2 ^ 32 := fun z => z.isLt.trans_le (Nat.pow_le_pow_right (by decide) hk)
  rw [← UInt32.toNat_inj, UInt32.toNat_ofNat', UInt32.toNat_ofNat', Nat.mod_eq_of_lt (hlt x), Nat.mod_eq_of_lt (hlt y),
    BitVec.toNat_inj]

theorem environmentMnemonic_isSome (f12 : BitVec 12) : (environmentMnemonic (UInt32.ofNat f12.toNat)).isSome = true ↔
    f12 ∈ [0x000#12, 0x001#12, 0x302#12, 0x102#12, 0x105#12] := by
  have hcsr : ∀ c : BitVec 12, UInt32.ofNat f12.toNat = UInt32.ofNat c.toNat ↔ f12 = c := ofNat_inj (by decide) f12
  have h0 : UInt32.ofNat f12.toNat = 0x000 ↔ f12 = 0x000#12 := hcsr 0x000#12
  have h1 : UInt32.ofNat f12.toNat = 0x001 ↔ f12 = 0x001#12 := hcsr 0x001#12
  have h302 : UInt32.ofNat f12.toNat = 0x302 ↔ f12 = 0x302#12 := hcsr 0x302#12
  have h102 : UInt32.ofNat f12.toNat = 0x102 ↔ f12 = 0x102#12 := hcsr 0x102#12
  have h105 : UInt32.ofNat f12.toNat = 0x105 ↔ f12 = 0x105#12 := hcsr 0x105#12
  unfold environmentMnemonic
  simp only [h0, h1, h302, h102, h105, List.mem_cons, List.not_mem_nil, or_false]
  split_ifs <;> simp_all

/-- **System instructions**, except what is misread. -/
theorem chooses_system {w : Word} (h : w.opcode = 0b1110011#7) (hread : ¬ Misread w) :
    Chooses w (systemMnemonic (UInt8.ofNat w.funct3.toNat) (UInt32.ofNat w.funct12.toNat)
      (UInt32.ofNat w.rs1.toNat)) := by
  have hsource : w.funct3 = 0b010#3 ∨ w.funct3 = 0b011#3 → UInt32.ofNat w.rs1.toNat ≠ 0 := by
    intro h3 hzero
    exact hread ⟨h, .inl ⟨h3, (ofNat_inj (by decide) _ 0).mp hzero⟩⟩
  have hoperands : w.funct3 = 0 → w.funct12 ∈ [0x000#12, 0x001#12, 0x302#12, 0x102#12, 0x105#12] →
      w.rd = 0 ∧ w.rs1 = 0 := by
    intro h3 h12
    by_contra hne
    exact hread ⟨h, .inr ⟨h3, h12, hne⟩⟩
  constructor
  · rw [h]
    simp only [encodings, Pattern.Matches, BitVec.reduceEq, if_false, if_true, List.forall_mem_cons, List.not_mem_nil,
      false_implies, implies_true, and_true, and_imp]
    refine ⟨fun h3 => ?_, fun h3 => ?_, fun h3 => ?_, fun h3 => ?_, fun h3 => ?_, fun h3 => ?_, fun h3 h12 _ _ => ?_,
      fun h3 h12 _ _ => ?_, fun h3 h12 _ _ => ?_, fun h3 h12 _ _ => ?_, fun h3 h12 _ _ => ?_⟩
    case refine_2 =>
      rw [h3]
      exact if_pos (hsource (.inl h3))
    case refine_3 =>
      rw [h3]
      exact if_pos (hsource (.inr h3))
    case refine_1 | refine_4 | refine_5 | refine_6 =>
      rw [h3]
      rfl
    all_goals
      rw [h3, h12]
      rfl
  · rw [h]
    simp only [encodings, Pattern.Matches, BitVec.reduceEq, if_false, if_true, List.exists_mem_cons_iff,
      List.not_mem_nil, false_and, exists_false, or_false]
    intro hchosen
    by_cases h3 : w.funct3 = 0
    · rw [h3] at hchosen
      have h12 := (environmentMnemonic_isSome _).mp hchosen
      obtain ⟨hrd, hrs1⟩ := hoperands h3 h12
      simp only [List.mem_cons, List.not_mem_nil, or_false] at h12
      simp only [h3, hrd, hrs1, true_and, and_true]
      exact .inr (.inr (.inr (.inr (.inr (.inr h12)))))
    · have hcsr : ∀ f3 : BitVec 3, f3 ≠ 0 → f3 ≠ 4 → f3 = 1 ∨ f3 = 2 ∨ f3 = 3 ∨ f3 = 5 ∨ f3 = 6 ∨ f3 = 7 := by decide
      have h4 : w.funct3 ≠ 4 := by
        intro h4
        rw [h4] at hchosen
        exact Bool.noConfusion hchosen
      obtain h | h | h | h | h | h := hcsr _ h3 h4 <;> simp [h]

/-- **`Decode` agrees with the encodings except at what is misread.** -/
theorem decode_agrees_iff : ∀ rawWord : UInt32, Agrees rawWord ↔ ¬ Misread rawWord.toBitVec := by
  intro rawWord
  by_cases hsystem : Word.opcode rawWord.toBitVec = 0b1110011#7
  · have hdecode : ∀ {insn : DecodedInstruction}, insn.opcode = kOpcodeSystem →
        insn.decodeOpcode = insn.decodeSystem := by
      intro insn h
      cases insn
      cases h
      rfl
    have hdecided := decided_system (show Fresh rawWord (fieldsOf rawWord) from ⟨rfl, rfl, rfl, rfl, rfl⟩) rfl
    have hcsr : (rawWord >>> 20) &&& 0xFFF = UInt32.ofNat (Word.funct12 rawWord.toBitVec).toNat :=
      field_eq rawWord (by decide) rfl (by decide)
    have hzimm : (rawWord >>> 15) &&& 0x1F = UInt32.ofNat (Word.rs1 rawWord.toBitVec).toNat :=
      field_eq rawWord (by decide) rfl (by decide)
    rw [hcsr, hzimm, funct3_eq] at hdecided
    have hlegal := legal_of_decided (hdecode (opcode_of hsystem rfl)) hdecided
    constructor
    · rintro hagrees ⟨-, ⟨h3, hrs1⟩ | ⟨h3, h12, hne⟩⟩
      · -- a read of a CSR that is an instruction and is not recognised
        have hpattern : ∃ e ∈ encodings (Word.opcode rawWord.toBitVec), e.pattern.Matches rawWord.toBitVec := by
          rw [hsystem]
          obtain h3 | h3 := h3
          · exact ⟨⟨.CSRRS, .funct3 0b010#3, .funct12⟩, by decide, h3⟩
          · exact ⟨⟨.CSRRC, .funct3 0b011#3, .funct12⟩, by decide, h3⟩
        have hchosen := hlegal.mp (hagrees.legal.mpr hpattern)
        rw [hrs1] at hchosen
        obtain h3 | h3 := h3 <;> rw [h3] at hchosen <;> exact Bool.noConfusion hchosen
      · -- an operation that is recognised and has something in its register fields
        have hchosen : (decode rawWord).illegal = false := by
          rw [hlegal, h3]
          exact (environmentMnemonic_isSome _).mpr h12
        obtain ⟨e, he, hmatches⟩ := hagrees.legal.mp hchosen
        rw [hsystem] at he
        have henvironment : ∀ e ∈ encodings 0b1110011#7, e.pattern.Matches rawWord.toBitVec →
            Word.rd rawWord.toBitVec = 0 ∧ Word.rs1 rawWord.toBitVec = 0 := by
          simp only [encodings, Pattern.Matches, BitVec.reduceEq, if_false, if_true, List.forall_mem_cons,
            List.not_mem_nil, false_implies, implies_true, and_true, h3]
          simp
        exact hne (henvironment e he hmatches)
    · intro hread
      refine agrees_of_decided (hdecode (opcode_of hsystem rfl)) hdecided (chooses_system hsystem hread)
        (immediate_of_forall hsystem .funct12 (by decide) ?_)
      rw [decodeSystem_immediate]
      exact unsignedImmediate_toInt rawWord (by decide) rfl (by decide)
  · refine iff_of_true ?_ (fun hmisread => hsystem hmisread.1)
    by_cases hlui : Word.opcode rawWord.toBitVec = 0b0110111#7
    · exact agrees_lui hlui
    by_cases hauipc : Word.opcode rawWord.toBitVec = 0b0010111#7
    · exact agrees_auipc hauipc
    by_cases hjal : Word.opcode rawWord.toBitVec = 0b1101111#7
    · exact agrees_jal hjal
    by_cases hjalr : Word.opcode rawWord.toBitVec = 0b1100111#7
    · exact agrees_jalr hjalr
    by_cases hbranch : Word.opcode rawWord.toBitVec = 0b1100011#7
    · exact agrees_branch hbranch
    by_cases hload : Word.opcode rawWord.toBitVec = 0b0000011#7
    · exact agrees_load hload
    by_cases hstore : Word.opcode rawWord.toBitVec = 0b0100011#7
    · exact agrees_store hstore
    by_cases hopImm : Word.opcode rawWord.toBitVec = 0b0010011#7
    · exact agrees_opImm hopImm
    by_cases hop : Word.opcode rawWord.toBitVec = 0b0110011#7
    · exact agrees_op hop
    by_cases hopImm32 : Word.opcode rawWord.toBitVec = 0b0011011#7
    · exact agrees_opImm32 hopImm32
    by_cases hop32 : Word.opcode rawWord.toBitVec = 0b0111011#7
    · exact agrees_op32 hop32
    by_cases hatomic : Word.opcode rawWord.toBitVec = 0b0101111#7
    · exact agrees_atomic hatomic
    by_cases hfence : Word.opcode rawWord.toBitVec = 0b0001111#7
    · exact agrees_fence hfence
    refine agrees_none ?_
    unfold encodings
    rw [if_neg hlui, if_neg hauipc, if_neg hjal, if_neg hjalr, if_neg hbranch, if_neg hload, if_neg hstore,
      if_neg hopImm, if_neg hop, if_neg hopImm32, if_neg hop32, if_neg hatomic, if_neg hfence, if_neg hsystem]

/-- A read of `mstatus`, and a call with something in its first register field. -/
theorem decode_misread : ¬ Agrees 0x300020F3 ∧ ¬ Agrees 0x000000F3 := by
  constructor
  · intro hagrees
    have hlegal := hagrees.legal.mpr ⟨⟨.CSRRS, .funct3 0b010#3, .funct12⟩, by decide, rfl⟩
    exact absurd hlegal (by decide)
  · intro hagrees
    obtain ⟨e, he, hmatches⟩ := hagrees.legal.mp (by decide)
    have hnone : ∀ e ∈ encodings 0b1110011#7, ¬ e.pattern.Matches (UInt32.toBitVec 0x000000F3) := by
      simp only [encodings, Pattern.Matches, BitVec.reduceEq, if_false, if_true, List.forall_mem_cons, List.not_mem_nil,
        false_implies, implies_true, and_true]
      decide
    exact hnone e he hmatches

end System

end GuideXOS.RiscV
