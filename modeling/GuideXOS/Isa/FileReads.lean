import GuideXOS.Lib.Cursor
import GuideXOS.Isa.FileProtocol
import GuideXOS.Isa.ProtocolCalls

/-!
# `FileReads` — reading a file through its handle

A handle that is open on a file is a cursor over the bytes of the file (`OpenFile`), and every call on it moves that
cursor or leaves it alone. A read delivers what the cursor gives, moves it by as much, and reports the count, but for
two slips: a read into a null buffer reports a count and delivers nothing, and the count is stored after the position
has moved, so a size field that cannot be written costs the caller the bytes (`faithful_iff`). Where neither happens,
what the reads deliver and what is left are what was left before (`fileReads_faithful`).
-/

namespace GuideXOS.Isa
open Lib Lib.Words Lib.Runs GuideXOS.Core

section Services
variable {I M : Type} [IMemory M]

/-! ## An open file -/

/-- The handle is open on a file; `c` is the file and the position in it. -/
structure OpenFile (p : IA64ISAPlugin I) (thisProtocol : UInt64) (c : Cursor UInt8) : Prop where
  bounded : c.data.length < 2 ^ 64
  handle : ∃ handle, p.services.efiFileHandles.find? thisProtocol = some handle ∧ handle.isDirectory = false ∧
    handle.data = c.data ∧ handle.position.toNat = c.position

theorem OpenFile.unique {p : IA64ISAPlugin I} {thisProtocol : UInt64} {c c' : Cursor UInt8}
    (h : OpenFile p thisProtocol c) (h' : OpenFile p thisProtocol c') : c = c' := by
  obtain ⟨handle, hfind, -, hdata, hposition⟩ := h.handle
  obtain ⟨handle', hfind', -, hdata', hposition'⟩ := h'.handle
  obtain rfl : handle = handle' := Option.some.inj (hfind.symm.trans hfind')
  exact Cursor.ext_position (hdata.symm.trans hdata') (hposition.symm.trans hposition')

/-- Nothing but the table of handles matters. -/
theorem OpenFile.of_files {p q : IA64ISAPlugin I} {thisProtocol : UInt64} {c : Cursor UInt8}
    (h : OpenFile p thisProtocol c) (hfiles : q.services.efiFileHandles = p.services.efiFileHandles) :
    OpenFile q thisProtocol c := ⟨h.bounded, hfiles ▸ h.handle⟩

/-- Registering the handle at a new position. -/
theorem OpenFile.move {p q : IA64ISAPlugin I} {thisProtocol position : UInt64} {c c' : Cursor UInt8}
    {handle : EfiFileHandle} (h : OpenFile p thisProtocol c) (hdata : c'.data = c.data)
    (hfiles : q.services.efiFileHandles = p.services.efiFileHandles.insert thisProtocol { handle with position })
    (hkind : handle.isDirectory = false) (hhandle : handle.data = c.data) (hposition : position.toNat = c'.position) :
    OpenFile q thisProtocol c' := by
  refine ⟨hdata ▸ h.bounded, { handle with position }, ?_, hkind, hhandle.trans hdata.symm, hposition⟩
  rw [hfiles]
  exact OrdMap.find?_insert_self _ _ _

/-! ## Calls -/

inductive FileService
  | read
  | getPosition
  | setPosition
  deriving DecidableEq

/-- A call, with the processor and the guest memory it finds. -/
structure FileCall (M : Type) where
  cpu : CPUState
  memory : M
  service : FileService

namespace FileCall

variable (p : IA64ISAPlugin I)

def result (call : FileCall M) : IA64ISAPlugin I × Except String (UInt64 × M) :=
  match call.service with
  | .read => handleEfiFileRead (p.setCpu call.cpu) call.memory
  | .getPosition => handleEfiFileGetPosition (p.setCpu call.cpu) call.memory
  | .setPosition => handleEfiFileSetPosition (p.setCpu call.cpu) call.memory

def step (call : FileCall M) : IA64ISAPlugin I := (call.result p).1

variable (call : FileCall M)

def thisProtocol : UInt64 := readCallerOutputRegister call.cpu 0

/-- The second argument: the size field of a read, where the position goes, or the position. -/
def argument : UInt64 := readCallerOutputRegister call.cpu 1

def bufferAddress : UInt64 := readCallerOutputRegister call.cpu 2

/-- How many bytes a read is asked for. -/
def requested : Option Nat := (readGuestU64 call.memory call.argument).map UInt64.toNat

/-- The call stores these bytes in the buffer, if there are any, and then their number in the size field. -/
def Stores (bytes : List UInt8) (memory' : M) : Prop :=
  ∃ memory₁, (bytes = [] ∧ memory₁ = call.memory ∨
      bytes ≠ [] ∧ IMemory.write call.memory call.bufferAddress bytes = .ok memory₁) ∧
    writeGuestU64 memory₁ call.argument (UInt64.ofNat bytes.length) = some memory'

/-- **What a call has to do.** A read that succeeds stores the bytes at the position and their number, and moves
    behind them; one that fails does not move. -/
def Faithful (call : FileCall M) : Prop :=
  ∀ c, OpenFile p call.thisProtocol c →
    match call.service with
    | .read =>
        (∀ memory', (call.result p).2 = .ok (EFI_STATUS_SUCCESS, memory') → ∃ n, call.requested = some n ∧
          call.Stores (c.read n).1 memory' ∧ OpenFile (call.step p) call.thisProtocol (c.read n).2) ∧
        ((∀ memory', (call.result p).2 ≠ .ok (EFI_STATUS_SUCCESS, memory')) →
          OpenFile (call.step p) call.thisProtocol c)
    | .getPosition =>
        OpenFile (call.step p) call.thisProtocol c ∧
          ∀ memory', (call.result p).2 = .ok (EFI_STATUS_SUCCESS, memory') →
            writeGuestU64 call.memory call.argument (UInt64.ofNat c.position) = some memory'
    | .setPosition =>
        (call.result p).2 = .ok (EFI_STATUS_SUCCESS, call.memory) ∧
          OpenFile (call.step p) call.thisProtocol
            (c.seek (if call.argument = 0xFFFFFFFFFFFFFFFF then c.data.length else call.argument.toNat))

/-- The size field takes this number. -/
def Reports (memory : M) (count : Nat) : Prop :=
  ∃ memory', writeGuestU64 memory call.argument (UInt64.ofNat count) = some memory'

/-- **The bytes can be delivered.** A read that has bytes to deliver has a buffer for them, unless it can report
    nothing either; and if the buffer takes the bytes, the size field then takes their number. -/
def Deliverable (call : FileCall M) : Prop :=
  call.service = .read → call.argument ≠ 0 → ∀ c n, OpenFile p call.thisProtocol c → call.requested = some n →
    (c.read n).1 ≠ [] →
      if call.bufferAddress = 0 then ¬ call.Reports call.memory (c.read n).1.length
      else ∀ memory₁, IMemory.write call.memory call.bufferAddress (c.read n).1 = .ok memory₁ →
        call.Reports memory₁ (c.read n).1.length

end FileCall

theorem storeAndReturn_eq_ok {memory memory' : M} {address value status status' : UInt64} :
    storeAndReturn memory address value status = .ok (status', memory') ↔
      status' = status ∧ writeGuestU64 memory address value = some memory' := by
  unfold storeAndReturn writeGuestU64
  cases IMemory.write memory address (bytesOfWord 8 value) with
  | error e => exact ⟨(fun h => nomatch h), (fun h => nomatch h.2)⟩
  | ok m =>
      constructor
      · intro h
        cases h
        exact ⟨rfl, rfl⟩
      · rintro ⟨rfl, h⟩
        cases h
        rfl

/-! ## What a read can do -/

variable {p : IA64ISAPlugin I} {call : FileCall M} {c : Cursor UInt8}

inductive FileCall.ReadOutcome (p : IA64ISAPlugin I) (call : FileCall M) (c : Cursor UInt8) : Prop where
  | null (hargument : call.argument = 0) (hresult : (call.result p).2 = .ok (EFI_STATUS_INVALID_PARAMETER, call.memory))
      (hopen : OpenFile (call.step p) call.thisProtocol c)
  | unreadable (e : String) (hrequested : call.requested = none) (hresult : (call.result p).2 = .error e)
      (hopen : OpenFile (call.step p) call.thisProtocol c)
  | undelivered (n : Nat) (hargument : call.argument ≠ 0) (hrequested : call.requested = some n)
      (hwhy : (c.read n).1 = [] ∨ call.bufferAddress = 0)
      (hresult : (call.result p).2 = storeAndReturn call.memory call.argument (UInt64.ofNat (c.read n).1.length)
        EFI_STATUS_SUCCESS) (hopen : OpenFile (call.step p) call.thisProtocol c)
  | refused (n : Nat) (e : String) (hrequested : call.requested = some n) (hbuffer : call.bufferAddress ≠ 0)
      (hwrite : IMemory.write call.memory call.bufferAddress (c.read n).1 = .error e)
      (hresult : (call.result p).2 = .error e) (hopen : OpenFile (call.step p) call.thisProtocol c)
  | delivered (n : Nat) (memory₁ : M) (hargument : call.argument ≠ 0) (hrequested : call.requested = some n)
      (hbytes : (c.read n).1 ≠ []) (hbuffer : call.bufferAddress ≠ 0)
      (hwrite : IMemory.write call.memory call.bufferAddress (c.read n).1 = .ok memory₁)
      (hresult : (call.result p).2 = storeAndReturn memory₁ call.argument (UInt64.ofNat (c.read n).1.length)
        EFI_STATUS_SUCCESS) (hopen : OpenFile (call.step p) call.thisProtocol (c.read n).2)

/-- How many bytes the code delivers, and which. -/
theorem actual_eq {handle : EfiFileHandle} (hdata : handle.data = c.data)
    (hposition : handle.position.toNat = c.position)
    (hbounded : c.data.length < 2 ^ 64) (requested : UInt64) :
    let size := UInt64.ofNat handle.data.length
    let actual := min requested (if handle.position < size then size - handle.position else 0)
    actual.toNat = (c.read requested.toNat).1.length ∧
      (handle.data.drop handle.position.toNat).take actual.toNat = (c.read requested.toNat).1 := by
  have hle := c.le
  have hsize : (UInt64.ofNat handle.data.length).toNat = c.data.length := by
    rw [hdata]
    exact UInt64.toNat_ofNat_of_lt' hbounded
  have hactual : (min requested (if handle.position < UInt64.ofNat handle.data.length then
      UInt64.ofNat handle.data.length - handle.position else 0)).toNat = (c.read requested.toNat).1.length := by
    rw [toNat_min, Cursor.length_read]
    split
    case isTrue hlt =>
      rw [UInt64.toNat_sub_of_le _ _ hlt.le, hsize, hposition]
    case isFalse hge =>
      have hge' := UInt64.le_iff_toNat_le.mp (not_lt.mp hge)
      rw [hsize, hposition] at hge'
      rw [Nat.sub_eq_zero_of_le hge']
      rfl
  refine ⟨hactual, ?_⟩
  rw [hactual, hdata, hposition, Cursor.length_read]
  refine List.take_eq_take_iff.mpr ?_
  rw [List.length_drop, Nat.min_assoc, Nat.min_self]

section
variable (h : OpenFile p call.thisProtocol c) (hread : call.service = .read)
include h hread

theorem readOutcome : call.ReadOutcome p c := by
  obtain ⟨handle, hfind, hkind, hdata, hposition⟩ := h.handle
  have hresult : call.result p = handleEfiFileRead (p.setCpu call.cpu) call.memory := by
    unfold FileCall.result
    rw [hread]
  have hkept : OpenFile ((p.setCpu call.cpu).setCounters (p.setCpu call.cpu).counters.countFileRead)
      call.thisProtocol c := h.of_files rfl
  unfold handleEfiFileRead at hresult
  dsimp only at hresult
  generalize hq : (p.setCpu call.cpu).setCounters (p.setCpu call.cpu).counters.countFileRead = q at hresult hkept
  have hcpu : q.cpu = call.cpu := by rw [← hq]; rfl
  have hfiles : q.services.efiFileHandles = p.services.efiFileHandles := by rw [← hq]; rfl
  rw [hcpu, hfiles] at hresult
  have hstep : ∀ {result : IA64ISAPlugin I × Except String (UInt64 × M)} {c' : Cursor UInt8}, call.result p = result →
      OpenFile result.1 call.thisProtocol c' → OpenFile (call.step p) call.thisProtocol c' := by
    rintro _ _ rfl hopen
    exact hopen
  -- the checks in their order: the pointer to the count, the count itself, then the buffer
  by_cases hargument : call.argument = 0
  · rw [if_pos (show readCallerOutputRegister call.cpu 1 = 0 from hargument)] at hresult
    exact .null hargument (congrArg Prod.snd hresult) (hstep hresult hkept)
  rw [if_neg (show ¬ readCallerOutputRegister call.cpu 1 = 0 from hargument)] at hresult
  cases hsize : IMemory.read call.memory (readCallerOutputRegister call.cpu 1) 8 with
  | error e =>
      have hrequested : call.requested = none := by
        unfold FileCall.requested readGuestU64 FileCall.argument
        rw [hsize]
        rfl
      rw [hsize] at hresult
      exact .unreadable e hrequested (congrArg Prod.snd hresult) (hstep hresult hkept)
  | ok bytes =>
  have hrequested : call.requested = some (wordOfBytes bytes).toNat := by
    unfold FileCall.requested readGuestU64 FileCall.argument
    rw [hsize]
    rfl
  obtain ⟨hactual, htake⟩ := actual_eq hdata hposition h.bounded (wordOfBytes bytes)
  have hthis : p.services.efiFileHandles.find? (readCallerOutputRegister call.cpu 0) = some handle := hfind
  rw [hsize, hthis] at hresult
  dsimp only at hresult
  rw [if_neg (show ¬ handle.isDirectory = true from hkind ▸ Bool.false_ne_true)] at hresult
  generalize min (wordOfBytes bytes) (if handle.position < UInt64.ofNat handle.data.length then
    UInt64.ofNat handle.data.length - handle.position else 0) = actual at hactual htake hresult
  have hcount : actual = UInt64.ofNat (c.read (wordOfBytes bytes).toNat).1.length := by
    rw [← hactual, UInt64.ofNat_toNat]
  rw [htake] at hresult
  have hempty : actual > 0 ↔ (c.read (wordOfBytes bytes).toNat).1 ≠ [] := by
    rw [gt_iff_lt, UInt64.lt_iff_toNat_lt, hactual]
    exact List.length_pos_iff
  by_cases hdeliver : actual > 0 ∧ readCallerOutputRegister call.cpu 2 ≠ 0
  case neg =>
    rw [if_neg hdeliver, hcount] at hresult
    have hwhy : (c.read (wordOfBytes bytes).toNat).1 = [] ∨ call.bufferAddress = 0 := by
      rw [hempty, not_and_or, not_not, not_not] at hdeliver
      exact hdeliver
    exact .undelivered _ hargument hrequested hwhy (congrArg Prod.snd hresult) (hstep hresult hkept)
  rw [if_pos hdeliver] at hresult
  have hbytes := hempty.mp hdeliver.1
  cases hwrite : IMemory.write call.memory (readCallerOutputRegister call.cpu 2)
      (c.read (wordOfBytes bytes).toNat).1 with
  | error e =>
      rw [hwrite] at hresult
      exact .refused _ e hrequested hdeliver.2 hwrite (congrArg Prod.snd hresult) (hstep hresult hkept)
  | ok memory₁ =>
      rw [hwrite] at hresult
      dsimp only at hresult
      -- the bytes are in the buffer, and the position moves behind them without wrapping around
      have hend := Cursor.le (c.read (wordOfBytes bytes).toNat).2
      have hposition' : (handle.position + actual).toNat = (c.read (wordOfBytes bytes).toNat).2.position := by
        have hbounded := h.bounded
        rw [Cursor.position_read, Cursor.data_read] at hend
        rw [Cursor.position_read, UInt64.toNat_add, hactual, hposition, Nat.mod_eq_of_lt (by omega)]
      have hmoved : (call.step p).services.efiFileHandles = q.services.efiFileHandles.insert call.thisProtocol
          { handle with position := handle.position + actual } := by
        rw [hfiles]
        exact congrArg (fun result => result.1.services.efiFileHandles) hresult
      refine .delivered _ memory₁ hargument hrequested hbytes hdeliver.2 hwrite ?_
        (hkept.move rfl hmoved hkind hdata hposition')
      rw [hresult, hcount]
      rfl

/-- `Deliverable` on the file that is open, with the count that is asked for. -/
theorem deliverable_iff (hargument : call.argument ≠ 0)
    {n : Nat} (hrequested : call.requested = some n) :
    call.Deliverable p ↔ ((c.read n).1 ≠ [] →
      if call.bufferAddress = 0 then ¬ call.Reports call.memory (c.read n).1.length
      else ∀ memory₁, IMemory.write call.memory call.bufferAddress (c.read n).1 = .ok memory₁ →
        call.Reports memory₁ (c.read n).1.length) := by
  constructor
  · exact fun hall => hall hread hargument c n h hrequested
  · intro hone _ _ c' n' h' hrequested'
    obtain rfl := h.unique h'
    obtain rfl : n = n' := Option.some.inj (hrequested.symm.trans hrequested')
    exact hone

/-- **A read is faithful exactly when its bytes can be delivered.** -/
theorem read_faithful_iff : call.Faithful p ↔ call.Deliverable p := by
  have hfaithful : call.Faithful p ↔
      (∀ memory', (call.result p).2 = .ok (EFI_STATUS_SUCCESS, memory') → ∃ n, call.requested = some n ∧
        call.Stores (c.read n).1 memory' ∧ OpenFile (call.step p) call.thisProtocol (c.read n).2) ∧
      ((∀ memory', (call.result p).2 ≠ .ok (EFI_STATUS_SUCCESS, memory')) →
        OpenFile (call.step p) call.thisProtocol c) := by
    unfold FileCall.Faithful
    simp only [hread]
    constructor
    · exact fun hall => hall c h
    · intro hall c' h'
      obtain rfl := h.unique h'
      exact hall
  rw [hfaithful]
  rcases readOutcome h hread with ⟨hargument, hresult, hopen⟩ | ⟨e, hrequested, hresult, hopen⟩ |
    ⟨n, hargument, hrequested, hwhy, hresult, hopen⟩ | ⟨n, e, hrequested, hbuffer, hwrite, hresult, hopen⟩ |
    ⟨n, memory₁, hargument, hrequested, hbytes, hbuffer, hwrite, hresult, hopen⟩
  · -- no pointer to a count
    refine iff_of_true ⟨fun memory' hsuccess => ?_, fun _ => hopen⟩ fun _ hne => absurd hargument hne
    rw [hresult] at hsuccess
    injection hsuccess with hpair
    injection hpair with hstatus
    exact absurd hstatus (by decide)
  · -- the count cannot be read
    refine iff_of_true ⟨fun memory' hsuccess => ?_, fun _ => hopen⟩ fun _ _ c' n _ hsome => ?_
    · rw [hresult] at hsuccess
      cases hsuccess
    · rw [hrequested] at hsome
      cases hsome
  · rw [deliverable_iff h hread hargument hrequested, hresult]
    by_cases hempty : (c.read n).1 = []
    · -- nothing to deliver: the count is 0 and the cursor stays
      refine iff_of_true ⟨fun memory' hsuccess => ?_, fun _ => hopen⟩ fun hne => absurd hempty hne
      refine ⟨n, hrequested, ⟨call.memory, Or.inl ⟨hempty, rfl⟩, (storeAndReturn_eq_ok.mp hsuccess).2⟩, ?_⟩
      rw [Cursor.read_of_nil hempty]
      exact hopen
    · -- no buffer: what is reported was not delivered
      rw [if_pos (hwhy.resolve_left hempty)]
      constructor
      · rintro ⟨hsuccess, -⟩ _ ⟨memory', hreported⟩
        obtain ⟨n', hrequested', _, hmoved⟩ := hsuccess memory' (storeAndReturn_eq_ok.mpr ⟨rfl, hreported⟩)
        obtain rfl : n = n' := Option.some.inj (hrequested.symm.trans hrequested')
        exact Cursor.read_ne hempty (hmoved.unique hopen)
      · intro hsilent
        refine ⟨fun memory' hsuccess => ?_, fun _ => hopen⟩
        exact absurd ⟨memory', (storeAndReturn_eq_ok.mp hsuccess).2⟩ (hsilent hempty)
  · -- the buffer is refused before the cursor moves
    refine iff_of_true ⟨fun memory' hsuccess => ?_, fun _ => hopen⟩ fun _ _ c' n' h' hsome _ => ?_
    · rw [hresult] at hsuccess
      cases hsuccess
    · obtain rfl := h.unique h'
      obtain rfl : n = n' := Option.some.inj (hrequested.symm.trans hsome)
      rw [if_neg hbuffer]
      intro memory₁ hok
      rw [hwrite] at hok
      cases hok
  · rw [deliverable_iff h hread hargument hrequested, hresult, if_neg hbuffer]
    constructor
    · rintro ⟨-, hfailed⟩ _ memory₂ hok
      obtain rfl : memory₁ = memory₂ := Except.ok.inj (hwrite.symm.trans hok)
      by_contra hsilent
      -- the count is refused, but the cursor has moved
      have hkept := hfailed fun memory' hsuccess => hsilent ⟨memory', (storeAndReturn_eq_ok.mp hsuccess).2⟩
      exact Cursor.read_ne hbytes (hopen.unique hkept)
    · intro hdeliverable
      obtain ⟨memory', hreported⟩ := hdeliverable hbytes memory₁ hwrite
      refine ⟨fun memory₂ hsuccess => ?_, fun hfailed => ?_⟩
      · exact ⟨n, hrequested, ⟨memory₁, Or.inr ⟨hbytes, hwrite⟩, (storeAndReturn_eq_ok.mp hsuccess).2⟩, hopen⟩
      · exact absurd (storeAndReturn_eq_ok.mpr ⟨rfl, hreported⟩) (hfailed memory')

end

/-- **The position calls** are always faithful. -/
theorem position_faithful (hread : call.service ≠ .read) : call.Faithful p := by
  intro c h
  obtain ⟨handle, hfind, hkind, hdata, hposition⟩ := h.handle
  have hsize : (UInt64.ofNat handle.data.length).toNat = c.data.length := by
    rw [hdata]
    exact UInt64.toNat_ofNat_of_lt' h.bounded
  have hthis : p.services.efiFileHandles.find? (readCallerOutputRegister call.cpu 0) = some handle := hfind
  cases hservice : call.service with
  | read => exact absurd hservice hread
  | getPosition =>
      have hresult : call.result p = handleEfiFileGetPosition (p.setCpu call.cpu) call.memory := by
        unfold FileCall.result
        rw [hservice]
      unfold handleEfiFileGetPosition at hresult
      dsimp only at hresult
      have hkept : OpenFile ((p.setCpu call.cpu).setCounters (p.setCpu call.cpu).counters.countFileGetPosition)
        call.thisProtocol c := h.of_files rfl
      generalize hq : (p.setCpu call.cpu).setCounters (p.setCpu call.cpu).counters.countFileGetPosition = q
        at hresult hkept
      have hcpu : q.cpu = call.cpu := by rw [← hq]; rfl
      have hfiles : q.services.efiFileHandles = p.services.efiFileHandles := by rw [← hq]; rfl
      rw [hcpu, hfiles, hthis] at hresult
      dsimp only at hresult
      have hplace : UInt64.ofNat c.position = handle.position := by rw [← hposition, UInt64.ofNat_toNat]
      show OpenFile (call.result p).1 _ _ ∧ _
      split at hresult
      · rw [hresult]
        refine ⟨hkept, fun memory' hsuccess => ?_⟩
        injection hsuccess with hpair
        injection hpair with hstatus
        exact absurd hstatus (by decide)
      · rw [hresult, hplace]
        exact ⟨hkept, fun memory' hsuccess => (storeAndReturn_eq_ok.mp hsuccess).2⟩
  | setPosition =>
      have hresult : call.result p = handleEfiFileSetPosition (p.setCpu call.cpu) call.memory := by
        unfold FileCall.result
        rw [hservice]
      unfold handleEfiFileSetPosition at hresult
      dsimp only at hresult
      have hkept : OpenFile ((p.setCpu call.cpu).setCounters (p.setCpu call.cpu).counters.countFileSetPosition)
        call.thisProtocol c := h.of_files rfl
      generalize hq : (p.setCpu call.cpu).setCounters (p.setCpu call.cpu).counters.countFileSetPosition = q
        at hresult hkept
      have hcpu : q.cpu = call.cpu := by rw [← hq]; rfl
      have hfiles : q.services.efiFileHandles = p.services.efiFileHandles := by rw [← hq]; rfl
      rw [hcpu, hfiles, hthis] at hresult
      dsimp only at hresult
      have hmoved := congrArg (fun result => result.1.services.efiFileHandles) hresult
      rw [← hfiles] at hmoved
      refine ⟨congrArg Prod.snd hresult, hkept.move rfl hmoved hkind hdata ?_⟩
      show _ = min _ _
      by_cases hend : call.argument = 0xFFFFFFFFFFFFFFFF
      · rw [if_pos hend, if_pos (show readCallerOutputRegister call.cpu 1 = _ from hend), hsize, Nat.min_self]
      · rw [if_neg hend, if_neg (show ¬ readCallerOutputRegister call.cpu 1 = _ from hend), toNat_min, hsize]
        rfl

theorem faithful_iff (h : OpenFile p call.thisProtocol c) : call.Faithful p ↔ call.Deliverable p := by
  by_cases hread : call.service = .read
  · exact read_faithful_iff h hread
  · exact iff_of_true (position_faithful hread) fun hread' => absurd hread' hread

/-- The handle stays open on its file, whatever the call does. -/
theorem openFile_step (h : OpenFile p call.thisProtocol c) :
    ∃ c', c'.data = c.data ∧ OpenFile (call.step p) call.thisProtocol c' := by
  cases hservice : call.service with
  | read =>
      rcases readOutcome h hservice with ⟨_, _, hopen⟩ | ⟨_, _, _, hopen⟩ | ⟨_, _, _, _, _, hopen⟩ |
        ⟨_, _, _, _, _, _, hopen⟩ | ⟨n, _, _, _, _, _, _, _, hopen⟩
      · exact ⟨c, rfl, hopen⟩
      · exact ⟨c, rfl, hopen⟩
      · exact ⟨c, rfl, hopen⟩
      · exact ⟨c, rfl, hopen⟩
      · exact ⟨(c.read n).2, rfl, hopen⟩
  | getPosition =>
      have hfaithful := position_faithful (p := p) (show call.service ≠ .read by rw [hservice]; decide) c h
      rw [hservice] at hfaithful
      exact ⟨c, rfl, hfaithful.1⟩
  | setPosition =>
      have hfaithful := position_faithful (p := p) (show call.service ≠ .read by rw [hservice]; decide) c h
      rw [hservice] at hfaithful
      exact ⟨_, Cursor.data_seek c _, hfaithful.2⟩

/-! ## Runs -/

/-- The bytes that a successful read is about. -/
def FileCall.delivered (p : IA64ISAPlugin I) (call : FileCall M) : List UInt8 :=
  if call.service = .read ∧ (call.result p).2.toOption.map Prod.fst = some EFI_STATUS_SUCCESS then
    match p.services.efiFileHandles.find? call.thisProtocol with
    | some handle => (handle.data.drop handle.position.toNat).take (call.requested.getD 0)
    | none => []
  else []

theorem delivered_eq (h : OpenFile p call.thisProtocol c) (hread : call.service = .read) {memory' : M}
    (hsuccess : (call.result p).2 = .ok (EFI_STATUS_SUCCESS, memory')) {n : Nat}
    (hrequested : call.requested = some n) :
    call.delivered p = (c.read n).1 := by
  obtain ⟨handle, hfind, -, hdata, hposition⟩ := h.handle
  unfold FileCall.delivered
  rw [if_pos ⟨hread, by rw [hsuccess]; rfl⟩, hfind, hrequested]
  dsimp only
  rw [hdata, hposition]
  rfl

/-- **Step lemma.** What a faithful call delivers, and what is left after it, is what was left before it. -/
theorem delivered_append_rest (h : OpenFile p call.thisProtocol c) (hfaithful : call.Faithful p)
    (hseek : call.service ≠ .setPosition) : ∃ c', c'.data = c.data ∧ OpenFile (call.step p) call.thisProtocol c' ∧
      call.delivered p ++ c'.rest = c.rest := by
  have hcall := hfaithful c h
  cases hservice : call.service with
  | setPosition => exact absurd hservice hseek
  | getPosition =>
      rw [hservice] at hcall
      refine ⟨c, rfl, hcall.1, ?_⟩
      unfold FileCall.delivered
      rw [if_neg fun hread => by rw [hservice] at hread; exact absurd hread.1 (by decide)]
      rfl
  | read =>
      rw [hservice] at hcall
      by_cases hsuccess : ∃ memory', (call.result p).2 = .ok (EFI_STATUS_SUCCESS, memory')
      · obtain ⟨memory', hsuccess⟩ := hsuccess
        obtain ⟨n, hrequested, -, hmoved⟩ := hcall.1 memory' hsuccess
        refine ⟨(c.read n).2, rfl, hmoved, ?_⟩
        rw [delivered_eq h hservice hsuccess hrequested]
        exact c.read_append_rest n
      · refine ⟨c, rfl, hcall.2 (not_exists.mp hsuccess), ?_⟩
        unfold FileCall.delivered
        rw [if_neg]
        · rfl
        · rintro ⟨-, hstatus⟩
          obtain ⟨result, hok, hfst⟩ := Option.map_eq_some_iff.mp hstatus
          cases hresult : (call.result p).2 with
          | error _ =>
              rw [hresult] at hok
              cases hok
          | ok result' =>
              rw [hresult] at hok
              cases hok
              exact hsuccess ⟨result.2, hresult.trans (congrArg Except.ok (Prod.ext hfst rfl))⟩

/-- **File reads deliver the file** exactly where the bytes can be delivered. Every call of a run on a handle is
    faithful exactly where every read of it can deliver its bytes. Then what a successful read is about is what it
    stores, and without a `SetPosition` the reads give the file piece by piece: what they stored and what is left are
    what was left at the start. The position stays in the file in any case. -/
theorem fileReads_faithful : ∀ (p : IA64ISAPlugin I) (thisProtocol : UInt64) (c : Cursor UInt8)
    (calls : List (FileCall M)),
    OpenFile p thisProtocol c → (∀ call ∈ calls, call.thisProtocol = thisProtocol) →
    (∃ c', c'.data = c.data ∧ OpenFile (run FileCall.step p calls) thisProtocol c') ∧
      (EveryStep FileCall.step FileCall.Faithful p calls ↔
        EveryStep FileCall.step FileCall.Deliverable p calls) ∧
      (EveryStep FileCall.step FileCall.Deliverable p calls → ∀ pre call post memory', calls = pre ++ call :: post →
        call.service = .read → (call.result (run FileCall.step p pre)).2 = .ok (EFI_STATUS_SUCCESS, memory') →
        call.Stores (call.delivered (run FileCall.step p pre)) memory') ∧
      (EveryStep FileCall.step FileCall.Deliverable p calls → (∀ call ∈ calls, call.service ≠ .setPosition) →
        ∃ c', c'.data = c.data ∧ OpenFile (run FileCall.step p calls) thisProtocol c' ∧
          (given FileCall.step (fun p call => some (call.delivered p)) p calls).flatten ++ c'.rest = c.rest) := by
  intro p thisProtocol c calls
  induction calls generalizing p c with
  | nil =>
      intro h _
      refine ⟨⟨c, rfl, h⟩, Iff.rfl, fun _ pre call post _ hcalls => ?_, fun _ _ => ⟨c, rfl, h, rfl⟩⟩
      exact absurd hcalls.symm (List.append_ne_nil_of_right_ne_nil pre (List.cons_ne_nil call post))
  | cons call calls ih =>
      intro h hthis
      obtain ⟨hcall, hrest⟩ := List.forall_mem_cons.mp hthis
      subst hcall
      have hiff := faithful_iff h
      obtain ⟨c₁, hdata₁, h₁⟩ := openFile_step h
      obtain ⟨⟨c', hdata', h'⟩, hiff', hstores, -⟩ := ih _ c₁ h₁ hrest
      refine ⟨⟨c', hdata'.trans hdata₁, h'⟩, and_congr hiff hiff', ?_, fun hevery hseek => ?_⟩
      · intro hevery pre call' post memory' hcalls hread hsuccess
        cases pre with
        | nil =>
            obtain ⟨rfl, rfl⟩ := List.cons.inj hcalls
            have hfaithful := hiff.mpr hevery.1 c h
            rw [hread] at hfaithful
            obtain ⟨n, hrequested, hstored, -⟩ := hfaithful.1 memory' hsuccess
            rw [delivered_eq (p := run FileCall.step p []) h hread hsuccess hrequested]
            exact hstored
        | cons first pre =>
            obtain ⟨rfl, rfl⟩ := List.cons.inj hcalls
            exact hstores hevery.2 pre call' post memory' rfl hread hsuccess
      · obtain ⟨hcall, hseek'⟩ := List.forall_mem_cons.mp hseek
        obtain ⟨c₂, hdata₂, h₂, hdelivered⟩ := delivered_append_rest h (hiff.mpr hevery.1) hcall
        obtain ⟨c₃, hdata₃, h₃, hflatten⟩ := (ih _ c₂ h₂ hrest).2.2.2 hevery.2 hseek'
        refine ⟨c₃, hdata₃.trans hdata₂, h₃, ?_⟩
        rw [given, Option.toList_some, List.singleton_append, List.flatten_cons, List.append_assoc, hflatten, hdelivered]

end Services

/-- A file of four bytes. -/
def shortFile : Cursor UInt8 := ⟨[1, 2, 3, 4], 0, Nat.zero_le _⟩

/-- A plugin with the file open at `0x5000`. -/
def fileReader : IA64ISAPlugin Unit :=
  newPlugin.setFiles (OrdMap.empty.insert 0x5000 { protocolAddress := 0x5000, data := [1, 2, 3, 4] })

/-- A read of four bytes; the size field is at `0x10`. -/
def readFour (bufferAddress : UInt64) : FileCall FlatMemory :=
  ⟨((CPUState.reset.setGR 32 0x5000).setGR 33 0x10).setGR 34 bufferAddress,
    ⟨List.replicate 0x10 0 ++ 4 :: List.replicate 0x2F 0⟩, .read⟩

theorem openFile_fileReader : OpenFile fileReader 0x5000 shortFile :=
  ⟨by decide, _, rfl, rfl, rfl, rfl⟩

/-- A read into a buffer that is there. -/
theorem fileReads_faithful_buffer :
    EveryStep FileCall.step FileCall.Faithful fileReader [readFour 0x20] := by
  have hthis : (readFour 0x20).thisProtocol = 0x5000 := by decide +kernel
  have hbuffer : (readFour 0x20).bufferAddress = 0x20 := by decide +kernel
  have hargument : (readFour 0x20).argument = 0x10 := by decide +kernel
  have hfour : (readFour 0x20).requested = some 4 := by decide +kernel
  have hfaithful := fileReads_faithful fileReader 0x5000 shortFile [readFour 0x20] openFile_fileReader
    (List.forall_mem_singleton.mpr hthis)
  refine hfaithful.2.1.mpr ⟨fun _ _ c n hopen hrequested _ => ?_, trivial⟩
  rw [hthis] at hopen
  obtain rfl : shortFile = c := openFile_fileReader.unique hopen
  obtain rfl : 4 = n := Option.some.inj (hfour.symm.trans hrequested)
  rw [hbuffer, if_neg (by decide)]
  intro memory₁ hwrite
  have hlength := FlatMemory.length_write hwrite
  have hroom : (0x10 : UInt64).toNat + (bytesOfWord 8 4).length ≤ memory₁.data.length := by
    rw [hlength]
    decide +kernel
  unfold FileCall.Reports
  rw [hargument]
  exact ⟨_, (FlatMemory.write_toOption memory₁ 0x10 (bytesOfWord 8 4)).trans (if_pos (Or.inr hroom))⟩

/-- A read without a buffer reports four bytes, stores none, and does not move. -/
theorem nullBuffer_unfaithful : ¬ EveryStep FileCall.step FileCall.Faithful fileReader [readFour 0] := by
  have hread : (readFour 0).service = .read := by decide
  have hthis : (readFour 0).thisProtocol = 0x5000 := by decide +kernel
  have hbuffer : (readFour 0).bufferAddress = 0 := by decide +kernel
  have hargument : (readFour 0).argument ≠ 0 := by decide +kernel
  have hfour : (readFour 0).requested = some 4 := by decide +kernel
  have hreported : (writeGuestU64 (readFour 0).memory (readFour 0).argument
      (UInt64.ofNat (shortFile.read 4).1.length)).isSome = true := by decide +kernel
  generalize readFour 0 = call at *
  rintro ⟨hfaithful, -⟩
  have hopen : OpenFile fileReader call.thisProtocol shortFile := hthis ▸ openFile_fileReader
  have hsilent := (read_faithful_iff hopen hread).mp hfaithful hread hargument shortFile 4 hopen hfour
    (List.cons_ne_nil _ _)
  rw [if_pos hbuffer] at hsilent
  exact hsilent (Option.isSome_iff_exists.mp hreported)

end GuideXOS.Isa
