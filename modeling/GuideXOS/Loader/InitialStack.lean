import GuideXOS.Loader.Bootstrap

/-!
# `InitialStack` — a process finds what was put on its stack

The stores of `SetupInitialStack` lie apart from each other: each cursor stays in its own area (`Between`). So each of
them is read back (`Holds`), and the decoder finds the vectors and the strings again. The one thing that may go wrong is
the lower end: the start is rounded down after the fit check, and a stack top that is not aligned then takes the stack
below its area (`setupInitialStack_iff`).
-/

namespace GuideXOS.Loader
open Lib Lib.Words Lib.Patches GuideXOS.Core

/-! ## Areas -/

/-- A store inside `[lo, hi)`. -/
def Between (lo hi : Nat) (w : RawWrite) : Prop := lo ≤ w.address.toNat ∧ w.address.toNat + w.bytes.length ≤ hi

/-- The second store does not touch what the first one wrote. -/
def Clear (w v : RawWrite) : Prop := v.patch.Aside w.address.toNat w.bytes.length

section Areas
variable {lo hi lo' hi' : Nat} {w v : RawWrite}

theorem Between.mono (h : Between lo hi w) (hlo : lo' ≤ lo) (hhi : hi ≤ hi') : Between lo' hi' w :=
  ⟨hlo.trans h.1, h.2.trans hhi⟩

theorem Between.clear (h : Between lo hi w) (h' : Between lo' hi' v) (hle : hi ≤ lo' ∨ hi' ≤ lo) : Clear w v := by
  rcases hle with hle | hle
  · exact .inl ((h.2.trans hle).trans h'.1)
  · exact .inr ((h'.2.trans hle).trans h.1)

theorem between_word {address value : UInt64} (hlo : lo ≤ address.toNat) (hhi : address.toNat + 8 ≤ hi) :
    Between lo hi (.word address value) := ⟨hlo, by rwa [RawWrite.length_word]⟩

end Areas

/-! ## Cursors -/

theorem add_toNat {a b : UInt64} (h : a.toNat + b.toNat < 2 ^ 64) : (a + b).toNat = a.toNat + b.toNat := by
  rw [UInt64.toNat_add, Nat.mod_eq_of_lt h]

theorem add_eight_toNat {a : UInt64} (h : a.toNat + 8 < 2 ^ 64) : (a + 8).toNat = a.toNat + 8 := add_toNat h

theorem stringBytes_cons (s : List UInt8) (strings : List (List UInt8)) :
    stringBytes (s :: strings) = s.length + 1 + stringBytes strings := rfl

/-- The size of a string with its terminator. -/
theorem length_succ_toNat {n : Nat} (h : n + 1 < 2 ^ 64) : (UInt64.ofNat n + 1).toNat = n + 1 := by
  have hn : n < 2 ^ 64 := Nat.lt_of_succ_lt h
  have hword : (UInt64.ofNat n).toNat = n := UInt64.toNat_ofNat_of_lt' hn
  rw [add_toNat, hword]
  · rfl
  · rwa [hword]

/-- One item further is one item more. -/
theorem add_succ_mul (a c : UInt64) (n : Nat) : a + UInt64.ofNat (n + 1) * c = a + c + UInt64.ofNat n * c := by
  rw [UInt64.ofNat_add, UInt64.add_mul, UInt64.add_comm _ (UInt64.ofNat 1 * c), ← UInt64.add_assoc]
  congr 2
  exact UInt64.one_mul c

theorem null_mem_stringWrites (pointer address : UInt64) (strings : List (List UInt8)) :
    .word (pointer + UInt64.ofNat strings.length * 8) 0 ∈ (stringWrites pointer address strings).1 := by
  induction strings generalizing pointer address with
  | nil => simp [stringWrites]
  | cons s strings ih =>
      rw [List.length_cons, add_succ_mul]
      exact List.mem_cons_of_mem _ (List.mem_cons_of_mem _ (ih _ _))

theorem null_mem_auxvWrites (address : UInt64) (auxv : List AuxVec) :
    .word (address + UInt64.ofNat auxv.length * 16) AT_NULL ∈ auxvWrites address auxv := by
  induction auxv generalizing address with
  | nil => simp [auxvWrites]
  | cons aux auxv ih =>
      rw [List.length_cons, add_succ_mul]
      exact List.mem_cons_of_mem _ (List.mem_cons_of_mem _ (ih _))

theorem bytes_ne_nil_stringWrites {pointer address : UInt64} {strings : List (List UInt8)} :
    ∀ w ∈ (stringWrites pointer address strings).1, w.bytes ≠ [] := by
  induction strings generalizing pointer address with
  | nil => exact List.forall_mem_singleton.mpr (List.cons_ne_nil _ _)
  | cons s strings ih =>
      exact List.forall_mem_cons.mpr ⟨List.cons_ne_nil _ _, List.forall_mem_cons.mpr ⟨by simp, ih⟩⟩

theorem bytes_ne_nil_auxvWrites {address : UInt64} {auxv : List AuxVec} :
    ∀ w ∈ auxvWrites address auxv, w.bytes ≠ [] := by
  induction auxv generalizing address with
  | nil => exact List.forall_mem_cons.mpr ⟨List.cons_ne_nil _ _, List.forall_mem_singleton.mpr (List.cons_ne_nil _ _)⟩
  | cons aux auxv ih =>
      exact List.forall_mem_cons.mpr ⟨List.cons_ne_nil _ _, List.forall_mem_cons.mpr ⟨List.cons_ne_nil _ _, ih⟩⟩

/-- **The loop over strings** keeps its pointers in one area and its strings in another. -/
theorem stringWrites_between (pointer address : UInt64) (strings : List (List UInt8)) {base stop : Nat}
    (hbase : base ≤ pointer.toNat) (hpointer : pointer.toNat + (strings.length + 1) * 8 ≤ address.toNat)
    (hstop : address.toNat + stringBytes strings = stop) (hlt : stop < 2 ^ 64) :
    (stringWrites pointer address strings).2.toNat = stop ∧
      (∀ w ∈ (stringWrites pointer address strings).1,
        Between base (pointer.toNat + (strings.length + 1) * 8) w ∨ Between address.toNat stop w) ∧
      (stringWrites pointer address strings).1.Pairwise Clear := by
  induction strings generalizing pointer address base with
  | nil =>
      refine ⟨hstop, List.forall_mem_singleton.mpr (.inl (between_word hbase ?_)), List.pairwise_singleton _ _⟩
      simp
  | cons s strings ih =>
      rw [stringBytes_cons] at hstop
      rw [List.length_cons] at hpointer
      have hpointer' : (pointer + 8).toNat = pointer.toNat + 8 := add_eight_toNat (by omega)
      have hsize := length_succ_toNat (n := s.length) (by omega)
      have haddress' : (address + (UInt64.ofNat s.length + 1)).toNat = address.toNat + (s.length + 1) := by
        rw [add_toNat (by omega), hsize]
      obtain ⟨hend, hbetween, hclear⟩ := ih (pointer + 8) (address + (UInt64.ofNat s.length + 1))
        hpointer'.ge (by omega) (by omega)
      have hfirst : Between pointer.toNat (pointer.toNat + 8) (.word pointer address) :=
        between_word (Nat.le_refl _) (Nat.le_refl _)
      have hstring : Between address.toNat (address.toNat + (s.length + 1)) ⟨address, s ++ [0]⟩ :=
        ⟨Nat.le_refl _, by simp⟩
      rw [hpointer', haddress'] at hbetween
      refine ⟨hend, ?_, ?_⟩
      · rw [stringWrites, List.length_cons]
        refine List.forall_mem_cons.mpr ⟨.inl (hfirst.mono hbase (by omega)), ?_⟩
        refine List.forall_mem_cons.mpr ⟨.inr (hstring.mono (Nat.le_refl _) (by omega)), fun w hw => ?_⟩
        rcases hbetween w hw with hw | hw
        · exact .inl (hw.mono (by omega) (by omega))
        · exact .inr (hw.mono (by omega) (Nat.le_refl _))
      · refine List.pairwise_cons.mpr ⟨List.forall_mem_cons.mpr ⟨?_, fun w hw => ?_⟩, ?_⟩
        · exact hfirst.clear hstring (.inl (by omega))
        · rcases hbetween w hw with hw | hw
          · exact hfirst.clear hw (.inl (by omega))
          · exact hfirst.clear hw (.inl (by omega))
        · refine List.pairwise_cons.mpr ⟨fun w hw => ?_, hclear⟩
          rcases hbetween w hw with hw | hw
          · exact hstring.clear hw (.inr (by omega))
          · exact hstring.clear hw (.inl (by omega))

/-- **The loop over the auxiliary vector.** -/
theorem auxvWrites_between (address : UInt64) (auxv : List AuxVec) {stop : Nat}
    (hstop : address.toNat + (auxv.length + 1) * 16 = stop) (hlt : stop < 2 ^ 64) :
    (∀ w ∈ auxvWrites address auxv, Between address.toNat stop w) ∧ (auxvWrites address auxv).Pairwise Clear := by
  have hsecond : (address + 8).toNat = address.toNat + 8 := add_eight_toNat (by omega)
  induction auxv generalizing address with
  | nil =>
      have hfirst : Between address.toNat (address.toNat + 8) (.word address AT_NULL) :=
        between_word (Nat.le_refl _) (Nat.le_refl _)
      have hvalue : Between (address.toNat + 8) stop (.word (address + 8) 0) :=
        between_word hsecond.ge (by simp at hstop; omega)
      refine ⟨List.forall_mem_cons.mpr ⟨hfirst.mono (Nat.le_refl _) (by simp at hstop; omega), ?_⟩, ?_⟩
      · exact List.forall_mem_singleton.mpr (hvalue.mono (by omega) (Nat.le_refl _))
      · refine List.pairwise_cons.mpr ⟨List.forall_mem_singleton.mpr ?_, List.pairwise_singleton _ _⟩
        exact hfirst.clear hvalue (.inl (Nat.le_refl _))
  | cons aux auxv ih =>
      rw [List.length_cons] at hstop
      have hnext : (address + 16).toNat = address.toNat + 16 := add_toNat (show address.toNat + 16 < 2 ^ 64 by omega)
      obtain ⟨hbetween, hclear⟩ := ih (address + 16) (by omega) (add_eight_toNat (by omega))
      rw [hnext] at hbetween
      have hfirst : Between address.toNat (address.toNat + 8) (.word address aux.type) :=
        between_word (Nat.le_refl _) (Nat.le_refl _)
      have hvalue : Between (address.toNat + 8) (address.toNat + 16) (.word (address + 8) aux.value) :=
        between_word hsecond.ge (by omega)
      refine ⟨?_, ?_⟩
      · refine List.forall_mem_cons.mpr ⟨hfirst.mono (Nat.le_refl _) (by omega), ?_⟩
        refine List.forall_mem_cons.mpr ⟨hvalue.mono (by omega) (by omega), fun w hw => ?_⟩
        exact (hbetween w hw).mono (by omega) (Nat.le_refl _)
      · refine List.pairwise_cons.mpr ⟨List.forall_mem_cons.mpr ⟨?_, fun w hw => ?_⟩, ?_⟩
        · exact hfirst.clear hvalue (.inl (Nat.le_refl _))
        · exact hfirst.clear (hbetween w hw) (.inl (by omega))
        · exact List.pairwise_cons.mpr ⟨fun w hw => hvalue.clear (hbetween w hw) (.inl (Nat.le_refl _)), hclear⟩

/-! ## Reading back -/

/-- The bytes lie at the address. -/
def Holds (m : FlatMemory) (address : UInt64) (bytes : List UInt8) : Prop :=
  address.toNat + bytes.length ≤ m.data.length ∧ part m.data address.toNat bytes.length = bytes

section Reading
variable {m : FlatMemory} {strings : List (List UInt8)} {address : UInt64}

theorem Holds.readGuestU64 {address value : UInt64} (h : Holds m address (bytesOfWord 8 value)) :
    readGuestU64 m address = some value := by
  obtain ⟨hstop, hpart⟩ := h
  rw [length_bytesOfWord] at hstop hpart
  show (m.read address 8).toOption.map wordOfBytes = some value
  rw [FlatMemory.read_toOption, if_pos (.inr hstop)]
  show some (wordOfBytes (part m.data address.toNat 8)) = some value
  rw [hpart, wordOfBytes_bytesOfWord]

theorem readGuestU64_of_word {value : UInt64}
    (h : Holds m (RawWrite.word address value).address (RawWrite.word address value).bytes) :
    readGuestU64 m address = some value := Holds.readGuestU64 h

/-- A byte, and those behind it. -/
theorem Holds.cons {b : UInt8} {bytes : List UInt8} (hlength : m.data.length < 2 ^ 64)
    (h : Holds m address (b :: bytes)) : readByte m address = some b ∧ Holds m (address + 1) bytes := by
  obtain ⟨hstop, hpart⟩ := h
  rw [List.length_cons] at hstop hpart
  have hnext : (address + 1).toNat = address.toNat + 1 := add_toNat (show address.toNat + 1 < 2 ^ 64 by omega)
  refine ⟨?_, by omega, ?_⟩
  · have hfirst := congrArg (fun l => l[0]?) hpart
    rw [FlatMemory.readByte_eq]
    simpa [getElem?_part] using hfirst
  · rw [hnext]
    apply List.ext_getElem?
    intro i
    have hitem := congrArg (fun l => l[i + 1]?) hpart
    simp only [getElem?_part, List.getElem?_cons_succ, Nat.add_lt_add_iff_right] at hitem
    rw [getElem?_part, Nat.add_assoc, Nat.add_comm 1 i]
    exact hitem

theorem readCString_of_holds (hlength : m.data.length < 2 ^ 64) {s : List UInt8} (hs : 0 ∉ s)
    (h : Holds m address (s ++ [0])) {fuel : Nat} (hfuel : s.length < fuel) : readCString m fuel address = some s := by
  induction s generalizing address fuel with
  | nil =>
      obtain ⟨fuel, rfl⟩ := Nat.exists_eq_succ_of_ne_zero (Nat.ne_of_gt hfuel)
      rw [readCString, (h.cons hlength).1]
      rfl
  | cons b s ih =>
      obtain ⟨fuel, rfl⟩ := Nat.exists_eq_succ_of_ne_zero (Nat.ne_of_gt (Nat.zero_lt_of_lt hfuel))
      obtain ⟨hb, hrest⟩ := Holds.cons hlength h
      obtain ⟨hne, hs⟩ := not_or.mp (mt List.mem_cons.mpr hs)
      rw [readCString, hb, Option.bind_some, if_neg (Ne.symm hne), ih hs hrest (Nat.lt_of_succ_lt_succ hfuel)]
      rfl

/-- The addresses at which the strings are stored. -/
def stringAddresses (address : UInt64) : List (List UInt8) → List UInt64
  | [] => []
  | s :: strings => address :: stringAddresses (address + (UInt64.ofNat s.length + 1)) strings

/-- No string lies before the first. -/
theorem le_of_mem_stringAddresses {p : UInt64} (hlt : address.toNat + stringBytes strings < 2 ^ 64)
    (hp : p ∈ stringAddresses address strings) : address.toNat ≤ p.toNat := by
  induction strings generalizing address with
  | nil => cases hp
  | cons s strings ih =>
      rw [stringBytes_cons] at hlt
      have hsize := length_succ_toNat (n := s.length) (by omega)
      have hnext : (address + (UInt64.ofNat s.length + 1)).toNat = address.toNat + (s.length + 1) := by
        rw [add_toNat (by omega), hsize]
      rcases List.mem_cons.mp hp with rfl | hp
      · exact Nat.le_refl _
      · have := @ih (address + (UInt64.ofNat s.length + 1)) (by omega) hp
        omega

/-- **Pointers** are read back by their number. -/
theorem readPointers_of_holds {pointer : UInt64}
    (h : ∀ w ∈ (stringWrites pointer address strings).1, Holds m w.address w.bytes) :
    readPointers m pointer strings.length = some (stringAddresses address strings) := by
  induction strings generalizing pointer address with
  | nil => rfl
  | cons s strings ih =>
      obtain ⟨hpointer, hrest⟩ := List.forall_mem_cons.mp h
      rw [List.length_cons, readPointers, readGuestU64_of_word hpointer, Option.bind_some,
        ih (List.forall_mem_cons.mp hrest).2]
      rfl

/-- The same up to the null pointer. -/
theorem readUntilNull_of_holds {pointer : UInt64}
    (h : ∀ w ∈ (stringWrites pointer address strings).1, Holds m w.address w.bytes)
    (hne : ∀ p ∈ stringAddresses address strings, p ≠ 0) {fuel : Nat} (hfuel : strings.length < fuel) :
    readUntilNull m fuel pointer =
      some (stringAddresses address strings, pointer + UInt64.ofNat (strings.length + 1) * 8) := by
  induction strings generalizing pointer address fuel with
  | nil =>
      obtain ⟨fuel, rfl⟩ := Nat.exists_eq_succ_of_ne_zero (Nat.ne_of_gt hfuel)
      have hnull : Holds m pointer (bytesOfWord 8 0) := h _ List.mem_cons_self
      rw [readUntilNull, hnull.readGuestU64, Option.bind_some, if_pos rfl]
      rfl
  | cons s strings ih =>
      obtain ⟨fuel, rfl⟩ := Nat.exists_eq_succ_of_ne_zero (Nat.ne_of_gt (Nat.zero_lt_of_lt hfuel))
      obtain ⟨hpointer, hrest⟩ := List.forall_mem_cons.mp h
      obtain ⟨hfirst, hothers⟩ := List.forall_mem_cons.mp hne
      rw [readUntilNull, readGuestU64_of_word hpointer, Option.bind_some, if_neg hfirst,
        ih (List.forall_mem_cons.mp hrest).2 hothers (Nat.lt_of_succ_lt_succ hfuel), Option.map_some]
      rw [← add_succ_mul]
      rfl

theorem readStrings_of_holds (hlength : m.data.length < 2 ^ 64) {pointer : UInt64}
    (h : ∀ w ∈ (stringWrites pointer address strings).1, Holds m w.address w.bytes) (hs : ∀ s ∈ strings, 0 ∉ s) :
    (stringAddresses address strings).mapM (readCString m (m.data.length + 1)) = some strings := by
  induction strings generalizing pointer address with
  | nil => rfl
  | cons s strings ih =>
      obtain ⟨-, hstring, hrest⟩ : _ ∧ _ ∧ _ := by
        obtain ⟨hpointer, hrest⟩ := List.forall_mem_cons.mp h
        exact ⟨hpointer, List.forall_mem_cons.mp hrest⟩
      obtain ⟨hnul, hothers⟩ := List.forall_mem_cons.mp hs
      have hroom : s.length < m.data.length + 1 := by
        have := hstring.1
        rw [List.length_append, List.length_singleton] at this
        omega
      rw [stringAddresses, List.mapM_cons, readCString_of_holds hlength hnul hstring hroom, ih hrest hothers]
      rfl

/-- **The auxiliary vector** is read back. -/
theorem readAuxv_of_holds {auxv : List AuxVec} (h : ∀ w ∈ auxvWrites address auxv, Holds m w.address w.bytes)
    (hne : ∀ aux ∈ auxv, aux.type ≠ AT_NULL) {fuel : Nat} (hfuel : auxv.length < fuel) :
    readAuxv m fuel address = some (auxv, address + UInt64.ofNat (auxv.length + 1) * 16) := by
  induction auxv generalizing address fuel with
  | nil =>
      obtain ⟨fuel, rfl⟩ := Nat.exists_eq_succ_of_ne_zero (Nat.ne_of_gt hfuel)
      obtain ⟨htype, hrest⟩ := List.forall_mem_cons.mp h
      obtain ⟨hvalue, -⟩ := List.forall_mem_cons.mp hrest
      rw [readAuxv, readGuestU64_of_word htype, Option.bind_some, readGuestU64_of_word hvalue, Option.bind_some, if_pos rfl]
      rfl
  | cons aux auxv ih =>
      obtain ⟨fuel, rfl⟩ := Nat.exists_eq_succ_of_ne_zero (Nat.ne_of_gt (Nat.zero_lt_of_lt hfuel))
      obtain ⟨htype, hrest⟩ := List.forall_mem_cons.mp h
      obtain ⟨hvalue, hrest⟩ := List.forall_mem_cons.mp hrest
      obtain ⟨hfirst, hothers⟩ := List.forall_mem_cons.mp hne
      rw [readAuxv, readGuestU64_of_word htype, Option.bind_some, readGuestU64_of_word hvalue, Option.bind_some,
        if_neg hfirst, ih hrest hothers (Nat.lt_of_succ_lt_succ hfuel), Option.map_some]
      rw [← add_succ_mul]
      rfl

end Reading

/-! ## Where everything lies -/

theorem addStringSizes_toNat (size : UInt64) (strings : List (List UInt8))
    (h : size.toNat + stringBytes strings < 2 ^ 64) :
    (addStringSizes size strings).toNat = size.toNat + stringBytes strings := by
  induction strings generalizing size with
  | nil => rfl
  | cons s strings ih =>
      rw [stringBytes_cons] at h ⊢
      have hsize := length_succ_toNat (n := s.length) (by omega)
      have hnext : (size + (UInt64.ofNat s.length + 1)).toNat = size.toNat + (s.length + 1) := by
        rw [add_toNat (by omega), hsize]
      rw [addStringSizes, List.foldl_cons, ← addStringSizes, ih _ (by omega)]
      omega

/-- A number of items of `k` bytes and one more. -/
theorem succ_mul_toNat {n k : Nat} {c : UInt64} (hc : c.toNat = k) (hk : 0 < k) (h : (n + 1) * k < 2 ^ 64) :
    ((UInt64.ofNat n + 1) * c).toNat = (n + 1) * k := by
  have hle : n + 1 ≤ (n + 1) * k := Nat.le_mul_of_pos_right _ hk
  rw [UInt64.toNat_mul, length_succ_toNat (by omega), hc, Nat.mod_eq_of_lt h]

namespace BootstrapConfig
variable {config : BootstrapConfig}

/-- The bytes that are stored. -/
def dataSize (config : BootstrapConfig) : Nat :=
  pointerBytes config.argv.length config.envp.length config.auxv.length +
    (stringBytes config.argv + stringBytes config.envp)

/-- The bytes that are asked for. -/
def roundedSize (config : BootstrapConfig) : Nat := (config.dataSize + 15) / 16 * 16

theorem totalStackUsage_toNat (config : BootstrapConfig) : config.totalStackUsage.toNat = config.roundedSize := by
  have hfits : config.dataSize + 15 < 2 ^ 64 := config.fits
  simp only [dataSize, pointerBytes] at hfits
  have hargv := addStringSizes_toNat 0 config.argv (by rw [UInt64.toNat_zero]; omega)
  rw [UInt64.toNat_zero, Nat.zero_add] at hargv
  have henvp := addStringSizes_toNat (addStringSizes 0 config.argv) config.envp (by omega)
  have hargc : ((config.argc + 1) * 8).toNat = (config.argv.length + 1) * 8 := succ_mul_toNat rfl (by simp) (by omega)
  have henvc : ((config.envc + 1) * 8).toNat = (config.envp.length + 1) * 8 := succ_mul_toNat rfl (by simp) (by omega)
  have hauxc : ((config.auxc + 1) * 16).toNat = (config.auxv.length + 1) * 16 := succ_mul_toNat rfl (by simp) (by omega)
  have hmask : (15 : UInt64) = lowMask 4 := by decide
  unfold totalStackUsage
  dsimp only
  rw [hmask, and_not_lowMask_toNat (by decide), ← hmask]
  have hsum : (8 + (config.argc + 1) * 8 + (config.envc + 1) * 8 + (config.auxc + 1) * 16 +
      addStringSizes (addStringSizes 0 config.argv) config.envp + 15).toNat = config.dataSize + 15 := by
    have h8 : (8 : UInt64).toNat = 8 := rfl
    have h15 : (15 : UInt64).toNat = 15 := rfl
    simp only [UInt64.toNat_add, hargc, henvc, hauxc, henvp, hargv, dataSize, pointerBytes, h8, h15]
    omega
  rw [hsum]
  rfl

/-- **The layout**, once the usage passes the check. -/
structure Layout (config : BootstrapConfig) : Prop where
  start : config.stackStart.toNat + config.roundedSize + config.stackTop.toNat % 16 = config.stackTop.toNat
  argv : config.argvPtrBase.toNat = config.stackStart.toNat + 8
  envp : config.envpPtrBase.toNat = config.argvPtrBase.toNat + (config.argv.length + 1) * 8
  auxv : config.auxvBase.toNat = config.envpPtrBase.toNat + (config.envp.length + 1) * 8
  strings : config.stringDataAddr.toNat = config.auxvBase.toNat + (config.auxv.length + 1) * 16

theorem layout (hfits : config.roundedSize ≤ config.stackSize.toNat)
    (htop : config.stackSize.toNat ≤ config.stackTop.toNat) : Layout config := by
  have hle : config.totalStackUsage ≤ config.stackTop := by
    rw [UInt64.le_iff_toNat_le, totalStackUsage_toNat]
    exact hfits.trans htop
  have hstart : config.stackStart.toNat + config.roundedSize + config.stackTop.toNat % 16 = config.stackTop.toNat := by
    have hmask : (15 : UInt64) = lowMask 4 := by decide
    have hfour : (4 : UInt64).toNat = 4 := rfl
    unfold stackStart
    rw [hmask, and_not_lowMask_toNat (by decide), UInt64.toNat_sub_of_le _ _ hle, totalStackUsage_toNat, hfour]
    simp only [roundedSize] at hfits ⊢
    omega
  have hroom := config.stackTop.toNat_lt
  have hdata : config.dataSize ≤ config.roundedSize := by
    simp only [roundedSize]
    omega
  simp only [dataSize, pointerBytes] at hdata
  have hargv : config.argvPtrBase.toNat = config.stackStart.toNat + 8 := add_eight_toNat (by omega)
  have hargc : ((config.argc + 1) * 8).toNat = (config.argv.length + 1) * 8 := succ_mul_toNat rfl (by simp) (by omega)
  have henvc : ((config.envc + 1) * 8).toNat = (config.envp.length + 1) * 8 := succ_mul_toNat rfl (by simp) (by omega)
  have hauxc : ((config.auxc + 1) * 16).toNat = (config.auxv.length + 1) * 16 := succ_mul_toNat rfl (by simp) (by omega)
  have henvp : config.envpPtrBase.toNat = config.argvPtrBase.toNat + (config.argv.length + 1) * 8 := by
    rw [envpPtrBase, add_toNat (by omega), hargc]
  have hauxv : config.auxvBase.toNat = config.envpPtrBase.toNat + (config.envp.length + 1) * 8 := by
    rw [auxvBase, add_toNat (by omega), henvc]
  refine ⟨hstart, hargv, henvp, hauxv, ?_⟩
  rw [stringDataAddr, add_toNat (by omega), hauxc]

/-- The stores start at the stack pointer, end where the data ends, and lie apart. -/
theorem Layout.writes (h : Layout config) :
    (∀ w ∈ config.stackWrites, Between config.stackStart.toNat (config.stackStart.toNat + config.dataSize) w) ∧
      config.stackWrites.Pairwise Clear := by
  obtain ⟨hstart, hargvPtr, henvpPtr, hauxvPtr, hstrings⟩ := h
  have hroom := config.stackTop.toNat_lt
  have hrounded : config.dataSize ≤ config.roundedSize := by
    simp only [roundedSize]
    omega
  have hdata : config.dataSize = 8 + (config.argv.length + 1) * 8 + (config.envp.length + 1) * 8 +
      (config.auxv.length + 1) * 16 + (stringBytes config.argv + stringBytes config.envp) := rfl
  obtain ⟨hend, hargv, hargvClear⟩ := stringWrites_between config.argvPtrBase
    config.stringDataAddr config.argv (Nat.le_refl _) (by omega) rfl (by omega)
  obtain ⟨-, henvp, henvpClear⟩ := stringWrites_between config.envpPtrBase
    (stringWrites config.argvPtrBase config.stringDataAddr config.argv).2 config.envp
    (Nat.le_refl _) (by omega) rfl (by omega)
  obtain ⟨hauxv, hauxvClear⟩ := auxvWrites_between config.auxvBase config.auxv rfl (by omega)
  have hargc : Between config.stackStart.toNat (config.stackStart.toNat + 8) (.word config.stackStart config.argc) :=
    between_word (Nat.le_refl _) (Nat.le_refl _)
  rw [hend] at henvp
  constructor
  · refine List.forall_mem_cons.mpr ⟨hargc.mono (Nat.le_refl _) (by omega), fun w hw => ?_⟩
    rcases List.mem_append.mp hw with hw | hw
    · rcases List.mem_append.mp hw with hw | hw
      · rcases hargv w hw with hw | hw <;> exact hw.mono (by omega) (by omega)
      · rcases henvp w hw with hw | hw <;> exact hw.mono (by omega) (by omega)
    · exact (hauxv w hw).mono (by omega) (by omega)
  · refine List.pairwise_cons.mpr ⟨fun w hw => ?_, ?_⟩
    · rcases List.mem_append.mp hw with hw | hw
      · rcases List.mem_append.mp hw with hw | hw
        · rcases hargv w hw with hw | hw <;> exact hargc.clear hw (.inl (by omega))
        · rcases henvp w hw with hw | hw <;> exact hargc.clear hw (.inl (by omega))
      · exact hargc.clear (hauxv w hw) (.inl (by omega))
    · refine List.pairwise_append.mpr ⟨List.pairwise_append.mpr ⟨hargvClear, henvpClear, fun w hw v hv => ?_⟩,
        hauxvClear, fun w hw v hv => ?_⟩
      · rcases hargv w hw with hw | hw <;> rcases henvp v hv with hv | hv
        · exact hw.clear hv (.inl (by omega))
        · exact hw.clear hv (.inl (by omega))
        · exact hw.clear hv (.inr (by omega))
        · exact hw.clear hv (.inl (by omega))
      · rcases List.mem_append.mp hw with hw | hw
        · rcases hargv w hw with hw | hw
          · exact hw.clear (hauxv v hv) (.inl (by omega))
          · exact hw.clear (hauxv v hv) (.inr (by omega))
        · rcases henvp w hw with hw | hw
          · exact hw.clear (hauxv v hv) (.inl (by omega))
          · exact hw.clear (hauxv v hv) (.inr (by omega))

end BootstrapConfig

/-! ## The round trip -/

/-- **What a process relies on**, between the memory before and after. -/
structure StackRoundTrips {D : Type} (config : BootstrapConfig) (memory memory' : Memory D) (sp : UInt64) : Prop where
  decoded : ∃ stack, decodeStack memory'.ram sp = some stack ∧ stack.argv = config.argv ∧ stack.envp = config.envp ∧
    stack.auxv = config.auxv ∧ ∀ p ∈ stack.argvPointers ++ stack.envpPointers, stack.pointerEnd ≤ p
  aligned : sp.toNat % 16 = 0
  inside : ∀ w ∈ config.stackWrites,
    Between (config.stackTop.toNat - config.stackSize.toNat) config.stackTop.toNat w
  unchanged : ∀ i, (∀ w ∈ config.stackWrites, w.patch.Aside i 1) → memory'.ram.data[i]? = memory.ram.data[i]?

section RoundTrip
variable {D : Type} {memory memory' : Memory D} {config : BootstrapConfig} {sp : UInt64}

theorem bytes_ne_nil {w : RawWrite} (hw : w ∈ config.stackWrites) : w.bytes ≠ [] := by
  rcases List.mem_cons.mp hw with rfl | hw
  · exact List.cons_ne_nil _ _
  · rcases List.mem_append.mp hw with hw | hw
    · exact (List.mem_append.mp hw).elim (bytes_ne_nil_stringWrites w) (bytes_ne_nil_stringWrites w)
    · exact bytes_ne_nil_auxvWrites w hw

/-- A call that returns stored everything. -/
theorem setupInitialStack_ok (hok : setupInitialStack memory config = (.ok sp, memory')) :
    sp = config.stackStart ∧ config.roundedSize ≤ config.stackSize.toNat ∧
      (∀ w ∈ config.stackWrites, w.patch.Fits memory.ram.data.length) ∧
      memory'.ram.data = applyAll memory.ram.data (config.stackWrites.map RawWrite.patch) := by
  unfold setupInitialStack at hok
  split at hok
  · cases hok
  · rename_i hfits
    have hle : config.roundedSize ≤ config.stackSize.toNat := by
      rw [← config.totalStackUsage_toNat]
      exact UInt64.le_iff_toNat_le.mp (not_lt.mp hfits)
    dsimp only at hok
    cases hwritten : (memory.writeAll config.stackWrites).1 with
    | error e =>
        rw [hwritten] at hok
        cases hok
    | ok done =>
        rw [hwritten] at hok
        obtain ⟨hsp, hmemory⟩ := Prod.mk.inj hok
        have hin := Memory.writeAll_ok_iff.mp hwritten
        exact ⟨(Except.ok.inj hsp).symm, hle, hin, hmemory ▸ Memory.data_writeAll hin⟩

/-- **Every store is read back.** -/
theorem holds_of_ok (htop : config.stackSize ≤ config.stackTop)
    (hok : setupInitialStack memory config = (.ok sp, memory')) :
    memory'.ram.data.length = memory.ram.data.length ∧ ∀ w ∈ config.stackWrites, Holds memory'.ram w.address w.bytes := by
  obtain ⟨-, hle, hin, hdata⟩ := setupInitialStack_ok hok
  obtain ⟨hbetween, hclear⟩ := (BootstrapConfig.layout hle (UInt64.le_iff_toNat_le.mp htop)).writes
  have hfits : ∀ p ∈ config.stackWrites.map RawWrite.patch, p.Fits memory.ram.data.length := by
    intro p hp
    obtain ⟨w, hw, rfl⟩ := List.mem_map.mp hp
    exact hin w hw
  have hlength := length_applyAll hfits
  refine ⟨by rw [hdata, hlength], fun w hw => ⟨?_, ?_⟩⟩
  · rw [hdata, hlength]
    exact (hin w hw).resolve_left (bytes_ne_nil hw)
  · rw [hdata]
    exact part_applyAll_of_mem hfits (List.pairwise_map.mpr hclear) (List.mem_map_of_mem hw)

/-- **The process finds its vectors.** -/
theorem decodeStack_of_ok (hnul : ∀ s ∈ config.argv ++ config.envp, 0 ∉ s) (hnull : ∀ aux ∈ config.auxv, aux.type ≠ AT_NULL)
    (htop : config.stackSize ≤ config.stackTop) (hok : setupInitialStack memory config = (.ok sp, memory')) :
    ∃ stack, decodeStack memory'.ram sp = some stack ∧ stack.argv = config.argv ∧ stack.envp = config.envp ∧
      stack.auxv = config.auxv ∧ ∀ p ∈ stack.argvPointers ++ stack.envpPointers, stack.pointerEnd ≤ p := by
  obtain ⟨rfl, hle, hin, -⟩ := setupInitialStack_ok hok
  obtain ⟨hlength, hholds⟩ := holds_of_ok htop hok
  obtain ⟨hstart, hargvPtr, henvpPtr, hauxvPtr, hstrings⟩ := BootstrapConfig.layout hle (UInt64.le_iff_toNat_le.mp htop)
  have hsmall : memory'.ram.data.length < 2 ^ 64 := memory'.fits
  have hrounded : config.dataSize ≤ config.roundedSize := by
    simp only [BootstrapConfig.roundedSize]
    omega
  have hdata : config.dataSize = 8 + (config.argv.length + 1) * 8 + (config.envp.length + 1) * 8 +
      (config.auxv.length + 1) * 16 + (stringBytes config.argv + stringBytes config.envp) := rfl
  have hroom := config.stackTop.toNat_lt
  -- the four groups of stores
  obtain ⟨hargc, hrest⟩ := List.forall_mem_cons.mp hholds
  obtain ⟨hpointers, hauxv⟩ := List.forall_mem_append.mp hrest
  obtain ⟨hargv, henvp⟩ := List.forall_mem_append.mp hpointers
  obtain ⟨hend, -, -⟩ := stringWrites_between config.argvPtrBase config.stringDataAddr
    config.argv (Nat.le_refl _) (by omega) rfl (by omega)
  obtain ⟨hnulArgv, hnulEnvp⟩ := List.forall_mem_append.mp hnul
  -- no string lies before the end of the pointer area
  have hbehind : ∀ p ∈ stringAddresses config.stringDataAddr config.argv ++
      stringAddresses (stringWrites config.argvPtrBase config.stringDataAddr config.argv).2 config.envp,
      config.stringDataAddr ≤ p := by
    intro p hp
    rw [UInt64.le_iff_toNat_le]
    rcases List.mem_append.mp hp with hp | hp
    · exact le_of_mem_stringAddresses (by omega) hp
    · have := le_of_mem_stringAddresses (by omega) hp
      omega
  have hfuelEnvp : config.envp.length < memory'.ram.data.length + 1 := by
    have hnullEnvp := (henvp _ (null_mem_stringWrites _ _ _)).1
    have hmul : (UInt64.ofNat config.envp.length * 8).toNat = config.envp.length * 8 := by
      have hlt : config.envp.length < 2 ^ 64 := by omega
      rw [UInt64.toNat_mul, UInt64.toNat_ofNat_of_lt' hlt]
      exact Nat.mod_eq_of_lt (show config.envp.length * 8 < 2 ^ 64 by omega)
    simp only [RawWrite.word] at hnullEnvp
    rw [add_toNat (by omega), hmul] at hnullEnvp
    omega
  have hfuelAuxv : config.auxv.length < memory'.ram.data.length + 1 := by
    have hnullAuxv := (hauxv _ (null_mem_auxvWrites _ _)).1
    have hmul : (UInt64.ofNat config.auxv.length * 16).toNat = config.auxv.length * 16 := by
      have hlt : config.auxv.length < 2 ^ 64 := by omega
      rw [UInt64.toNat_mul, UInt64.toNat_ofNat_of_lt' hlt]
      exact Nat.mod_eq_of_lt (show config.auxv.length * 16 < 2 ^ 64 by omega)
    simp only [RawWrite.word] at hnullAuxv
    rw [add_toNat (by omega), hmul] at hnullAuxv
    omega
  have hne : ∀ p ∈ stringAddresses (stringWrites config.argvPtrBase config.stringDataAddr config.argv).2 config.envp,
      p ≠ 0 := by
    rintro p hp rfl
    have := UInt64.le_iff_toNat_le.mp (hbehind 0 (List.mem_append_right _ hp))
    rw [UInt64.toNat_zero] at this
    omega
  have hcount : config.argc.toNat = config.argv.length := UInt64.toNat_ofNat_of_lt' (show config.argv.length < 2 ^ 64 by omega)
  have henvpBase : config.stackStart + 8 + config.argc * 8 + 8 = config.envpPtrBase := by
    rw [BootstrapConfig.envpPtrBase, BootstrapConfig.argvPtrBase, UInt64.add_mul, ← UInt64.add_assoc]
    rfl
  refine ⟨⟨stringAddresses config.stringDataAddr config.argv,
    stringAddresses (stringWrites config.argvPtrBase config.stringDataAddr config.argv).2 config.envp, config.auxv,
    config.stringDataAddr, config.argv, config.envp⟩, ?_, rfl, rfl, rfl, hbehind⟩
  have hread : decodeStack memory'.ram config.stackStart = do
      let auxv ← readAuxv memory'.ram (memory'.ram.data.length + 1) config.auxvBase
      let argvStrings ← (stringAddresses config.stringDataAddr config.argv).mapM
        (readCString memory'.ram (memory'.ram.data.length + 1))
      let envpStrings ← (stringAddresses (stringWrites config.argvPtrBase config.stringDataAddr config.argv).2
        config.envp).mapM (readCString memory'.ram (memory'.ram.data.length + 1))
      return ⟨stringAddresses config.stringDataAddr config.argv,
        stringAddresses (stringWrites config.argvPtrBase config.stringDataAddr config.argv).2 config.envp,
        auxv.1, auxv.2, argvStrings, envpStrings⟩ := by
    have hpointersArgv := readPointers_of_holds hargv
    have hnullArgv := readGuestU64_of_word (hargv _ (null_mem_stringWrites _ _ _))
    have hpointersEnvp := readUntilNull_of_holds henvp hne hfuelEnvp
    have hauxvBase : config.envpPtrBase + UInt64.ofNat (config.envp.length + 1) * 8 = config.auxvBase := by
      rw [BootstrapConfig.auxvBase, BootstrapConfig.envc, UInt64.ofNat_add]
      rfl
    rw [hauxvBase] at hpointersEnvp
    unfold decodeStack
    dsimp only
    rw [readGuestU64_of_word hargc, Option.bind_eq_bind, Option.bind_some, hcount]
    show (readPointers memory'.ram config.argvPtrBase config.argv.length).bind _ = _
    rw [hpointersArgv, Option.bind_some]
    show (readGuestU64 memory'.ram (config.argvPtrBase + UInt64.ofNat config.argv.length * 8)).bind _ = _
    rw [hnullArgv, Option.bind_some, if_neg (by simp), henvpBase, hpointersEnvp]
    rfl
  have hauxvBack : readAuxv memory'.ram (memory'.ram.data.length + 1) config.auxvBase =
      some (config.auxv, config.stringDataAddr) := by
    rw [readAuxv_of_holds hauxv hnull hfuelAuxv, BootstrapConfig.stringDataAddr, BootstrapConfig.auxc, UInt64.ofNat_add]
    rfl
  rw [hread, hauxvBack, readStrings_of_holds hsmall hargv hnulArgv, readStrings_of_holds hsmall henvp hnulEnvp]
  rfl

/-- **The initial stack round trips.** Of every call that returns: the process finds the vectors and strings, the stack
    pointer is aligned, the strings lie behind the pointers, and nothing is stored outside the stack's area — if and
    only if the rounded usage still fits below a stack top that is rounded down. A call whose data does not fit throws
    before it stores anything. -/
theorem setupInitialStack_iff (memory : Memory D) (config : BootstrapConfig)
    (hnul : ∀ s ∈ config.argv ++ config.envp, 0 ∉ s) (hnull : ∀ aux ∈ config.auxv, aux.type ≠ AT_NULL)
    (htop : config.stackSize ≤ config.stackTop) :
    (∀ sp memory', setupInitialStack memory config = (.ok sp, memory') →
      (StackRoundTrips config memory memory' sp ↔
        config.roundedSize + config.stackTop.toNat % 16 ≤ config.stackSize.toNat)) ∧
    (config.stackSize.toNat < config.dataSize → ∃ e, setupInitialStack memory config = (.error e, memory)) := by
  constructor
  · intro sp memory' hok
    obtain ⟨hsp, hle, hin, hdata⟩ := setupInitialStack_ok hok
    have hlayout := BootstrapConfig.layout hle (UInt64.le_iff_toNat_le.mp htop)
    obtain ⟨hbetween, -⟩ := hlayout.writes
    have hstart := hlayout.start
    have htop' := UInt64.le_iff_toNat_le.mp htop
    have hrounded : config.dataSize ≤ config.roundedSize ∧ config.roundedSize % 16 = 0 := by
      simp only [BootstrapConfig.roundedSize]
      omega
    constructor
    · intro h
      have hfirst := (h.inside (.word config.stackStart config.argc) List.mem_cons_self).1
      simp only [RawWrite.word] at hfirst
      omega
    · intro hfits
      refine ⟨decodeStack_of_ok hnul hnull htop hok, ?_, fun w hw => ?_, fun i haside => ?_⟩
      · rw [hsp]
        omega
      · exact (hbetween w hw).mono (by omega) (by omega)
      · rw [hdata]
        refine getElem?_applyAll_aside (fun p hp => ?_) fun p hp => ?_
        all_goals obtain ⟨w, hw, rfl⟩ := List.mem_map.mp hp
        · exact hin w hw
        · exact haside w hw
  · intro hlarge
    have hgt : config.totalStackUsage > config.stackSize := by
      rw [gt_iff_lt, UInt64.lt_iff_toNat_lt, config.totalStackUsage_toNat]
      simp only [BootstrapConfig.roundedSize]
      omega
    exact ⟨_, by rw [setupInitialStack, if_pos hgt]⟩

end RoundTrip

/-- 256 bytes without translation and devices. -/
def stackMemory : Memory Empty where
  ram := ⟨List.replicate 256 0xFF⟩
  mmu := Memory.plainMmu
  devices := []
  fits := by
    rw [List.length_replicate]
    decide

/-- Two arguments, one of them empty, an environment string and one pair, below a top that is not aligned. -/
def unalignedTop : BootstrapConfig where
  stackTop := 0xE7
  stackSize := 0x97
  argv := [[0x61, 0x62], []]
  envp := [[0x63]]
  auxv := [⟨6, 4096⟩]
  fits := by decide

theorem setupInitialStack_iff_unalignedTop :
    (∀ sp memory', setupInitialStack stackMemory unalignedTop = (.ok sp, memory') →
      (StackRoundTrips unalignedTop stackMemory memory' sp ↔
        unalignedTop.roundedSize + unalignedTop.stackTop.toNat % 16 ≤ unalignedTop.stackSize.toNat)) ∧
    (unalignedTop.stackSize.toNat < unalignedTop.dataSize →
      ∃ e, setupInitialStack stackMemory unalignedTop = (.error e, stackMemory)) :=
  setupInitialStack_iff stackMemory unalignedTop (by decide) (by decide) (by decide)

/-- **A top that is not aligned.** The usage of 48 bytes is what the stack has; the start is rounded down by eight, and
    the count is stored below the stack. -/
theorem setupInitialStack_below :
    ∃ sp, (setupInitialStack stackMemory ⟨0x88, 48, [], [], [], by decide⟩).1.toOption = some sp ∧
      ¬ StackRoundTrips ⟨0x88, 48, [], [], [], by decide⟩ stackMemory
        (setupInitialStack stackMemory ⟨0x88, 48, [], [], [], by decide⟩).2 sp := by
  refine ⟨0x50, by decide +kernel, fun h => ?_⟩
  exact absurd (h.inside (.word 0x50 0) List.mem_cons_self).1 (by decide)

end GuideXOS.Loader
