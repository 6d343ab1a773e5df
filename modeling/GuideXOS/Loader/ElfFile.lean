import GuideXOS.Lib.Bounds

/-!
# `ElfFile` — the headers of an ELF file

The headers are packed little-endian records at computed offsets of a buffer. Fields that nothing reads are left out.

* The offset of a program header adds a product of two 16-bit numbers, which C++ computes in 32 bits with a sign.
* A record that is read through a pointer is read whole.
-/

namespace GuideXOS.Loader
open Lib Lib.Words Lib.Bounds

/-- A file in the host's memory. The buffer is not null, it is less than half of the address space, and so is every string
    that the host can build. -/
structure ElfBuffer where
  base : UInt64
  bytes : List UInt8
  maxSize : UInt64
  base_pos : 0 < base.toNat
  fits : base.toNat + bytes.length < 2 ^ 64
  small : bytes.length < 2 ^ 63
  maxSize_lt : maxSize.toNat < 2 ^ 63

def ELFMAG : List UInt8 := [0x7F, 0x45, 0x4C, 0x46]
def EI_CLASS : Nat := 4
def EI_DATA : Nat := 5
def EI_VERSION : Nat := 6
def EI_NIDENT : Nat := 16
def EM_IA_64 : UInt16 := 50
def ELFCLASS64 : UInt8 := 2
def ELFDATA2LSB : UInt8 := 1
def EV_CURRENT : UInt8 := 1

def ET_REL : UInt16 := 1
def ET_EXEC : UInt16 := 2
def ET_DYN : UInt16 := 3
def ET_CORE : UInt16 := 4

def PT_LOAD : UInt32 := 1
def PT_DYNAMIC : UInt32 := 2
def PT_INTERP : UInt32 := 3

def PF_X : UInt32 := 1
def PF_R : UInt32 := 4

def DT_NULL : UInt64 := 0

def ehdrSize : Nat := 64
def phdrSize : Nat := 56
def dynSize : Nat := 16

structure Ehdr where
  e_ident : List UInt8
  e_type : UInt16
  e_machine : UInt16
  e_version : UInt32
  e_entry : UInt64
  e_phoff : UInt64
  e_ehsize : UInt16
  e_phentsize : UInt16
  e_phnum : UInt16

structure Phdr where
  p_type : UInt32
  p_flags : UInt32
  p_offset : UInt64
  p_vaddr : UInt64
  p_paddr : UInt64
  p_filesz : UInt64
  p_memsz : UInt64
  p_align : UInt64
  deriving DecidableEq

structure Dyn where
  d_tag : UInt64
  d_val : UInt64

def Ehdr.ofBytes (record : List UInt8) : Ehdr where
  e_ident := record.take EI_NIDENT
  e_type := (wordAt record 16 2).toUInt16
  e_machine := (wordAt record 18 2).toUInt16
  e_version := (wordAt record 20 4).toUInt32
  e_entry := wordAt record 24 8
  e_phoff := wordAt record 32 8
  e_ehsize := (wordAt record 52 2).toUInt16
  e_phentsize := (wordAt record 54 2).toUInt16
  e_phnum := (wordAt record 56 2).toUInt16

def Phdr.ofBytes (record : List UInt8) : Phdr where
  p_type := (wordAt record 0 4).toUInt32
  p_flags := (wordAt record 4 4).toUInt32
  p_offset := wordAt record 8 8
  p_vaddr := wordAt record 16 8
  p_paddr := wordAt record 24 8
  p_filesz := wordAt record 32 8
  p_memsz := wordAt record 40 8
  p_align := wordAt record 48 8

def Dyn.ofBytes (record : List UInt8) : Dyn where
  d_tag := wordAt record 0 8
  d_val := wordAt record 8 8

/-- `i * entsize` of two `uint16_t`, as a 64-bit summand. -/
def entryProduct (i : Nat) (entsize : UInt16) : UInt64 :=
  (UInt32.ofNat i * entsize.toUInt32).toInt32.toInt64.toUInt64

/-- The `i`-th entry of a program header table. -/
def entryOffset (phoff : UInt64) (entsize : UInt16) (i : Nat) : UInt64 := phoff + entryProduct i entsize

namespace ElfBuffer
variable {ε : Type _} (b : ElfBuffer)

def size : UInt64 := UInt64.ofNat b.bytes.length

/-- A record that is copied, or read through a pointer. -/
def record (offset : UInt64) (n : Nat) : Checked ε (List UInt8) := fetch b.bytes offset.toNat n

/-- The record at an offset, for arguments about what is read there. -/
def peek (offset : UInt64) (n : Nat) : List UInt8 := (b.bytes.drop offset.toNat).take n

/-- `std::string(buffer + offset, n)`. -/
def stringAt (lengthError : ε) (offset n : UInt64) : Checked ε (List UInt8) :=
  if n > b.maxSize then .error (.threw lengthError) else fetch b.bytes offset.toNat n.toNat

theorem size_toNat : b.size.toNat = b.bytes.length := by
  have hsmall := b.small
  have hsize : b.bytes.length < 2 ^ 64 := by omega
  exact UInt64.toNat_ofNat_of_lt' hsize

end ElfBuffer

end GuideXOS.Loader
