import Chihuahua.Machine.Memory

/-
  The ELF headers, as the loader reads them from memory. A
  header holds the fields the loader looks at.

  Main declarations:
    * `Elf64_ElfHeader`, `Elf64_ProgHeader` and
      `Elf64_SectionHeader`
    * `readElfHeader`, `readProgHeader` and
      `readSectionHeader`
-/

------------------------------------------------------------
-- ELF Header
------------------------------------------------------------

namespace Chihuahua

namespace Elf

open ByteMachine

abbrev Elf64_Addr := BitVec 64

def ELF_IDENT_SIZE : Nat := 16

def ELF_MAG0 : Byte := 0x7F

def ELF_MAG1 : Byte := 0x45

def ELF_MAG2 : Byte := 0x4C

def ELF_MAG3 : Byte := 0x46

/- The indices into the identifiers of the ELF header. -/
namespace Elf_IdentIndex

def EI_MAG0 : Fin ELF_IDENT_SIZE := ⟨0, by decide⟩

def EI_MAG1 : Fin ELF_IDENT_SIZE := ⟨1, by decide⟩

def EI_MAG2 : Fin ELF_IDENT_SIZE := ⟨2, by decide⟩

def EI_MAG3 : Fin ELF_IDENT_SIZE := ⟨3, by decide⟩

def EI_CLASS : Fin ELF_IDENT_SIZE := ⟨4, by decide⟩

def EI_VERSION : Fin ELF_IDENT_SIZE := ⟨6, by decide⟩

end Elf_IdentIndex

namespace Elf_Type

def ET_EXEC : BitVec 16 := 2

end Elf_Type

namespace Elf_Machine

def x86_64 : BitVec 16 := 0x3E

end Elf_Machine

structure Elf64_ElfHeader where
  Identifiers : Fin ELF_IDENT_SIZE → Byte
  ElfType : BitVec 16
  Machine : BitVec 16
  Version : BitVec 32
  ProgHeaderOffset : BitVec 64
  SectionHeaderOffset : BitVec 64
  ProgHeaderEntrySize : BitVec 16
  ProgHeaderTableEntriesNum : BitVec 16
  SectionHeaderEntrySize : BitVec 16
  SectionHeaderTableEntriesNum : BitVec 16

/- The value of `sizeof(Elf64_ElfHeader)`. -/
def ELF_HEADER_SIZE : Nat := 64

def readElfHeader
    (m : Memory)
    (a : Addr) : Elf64_ElfHeader where
  Identifiers i := m (a + BitVec.ofNat 64 i)
  ElfType := m.load16 (a + 16)
  Machine := m.load16 (a + 18)
  Version := m.load32 (a + 20)
  ProgHeaderOffset := m.load64 (a + 32)
  SectionHeaderOffset := m.load64 (a + 40)
  ProgHeaderEntrySize := m.load16 (a + 54)
  ProgHeaderTableEntriesNum := m.load16 (a + 56)
  SectionHeaderEntrySize := m.load16 (a + 58)
  SectionHeaderTableEntriesNum := m.load16 (a + 60)

------------------------------------------------------------
-- Program Header
------------------------------------------------------------

namespace Elf_SegmentType

def PT_LOAD : BitVec 32 := 1

end Elf_SegmentType

abbrev Elf_SegmentFlags := BitVec 32

namespace Elf_SegmentFlags

def PF_W : Elf_SegmentFlags := 2

def PF_R : Elf_SegmentFlags := 4

end Elf_SegmentFlags

structure Elf64_ProgHeader where
  SegmentType : BitVec 32
  Flags : Elf_SegmentFlags
  Offset : BitVec 64
  VirtAddress : Elf64_Addr
  SizeInFile : BitVec 64
  SizeInMemory : BitVec 64
deriving DecidableEq, Repr

/- The value of `sizeof(Elf64_ProgHeader)`. -/
def PROG_HEADER_SIZE : Nat := 56

def readProgHeader
    (m : Memory)
    (a : Addr) : Elf64_ProgHeader where
  SegmentType := m.load32 a
  Flags := m.load32 (a + 4)
  Offset := m.load64 (a + 8)
  VirtAddress := m.load64 (a + 16)
  SizeInFile := m.load64 (a + 32)
  SizeInMemory := m.load64 (a + 40)

------------------------------------------------------------
-- Section Header
------------------------------------------------------------

namespace Elf_SectionType

def SHT_NOBITS : BitVec 32 := 8

end Elf_SectionType

namespace Elf_SectionFlags

def SHF_ALLOC : BitVec 64 := 0x02

end Elf_SectionFlags

structure Elf64_SectionHeader where
  SectionHeaderType : BitVec 32
  Flags : BitVec 64
  VirtualAddress : Elf64_Addr
  OffsetInFile : BitVec 64
  SectionSize : BitVec 64
deriving DecidableEq, Repr

/- The value of `sizeof(Elf64_SectionHeader)`. -/
def SECTION_HEADER_SIZE : Nat := 64

def readSectionHeader
    (m : Memory)
    (a : Addr) : Elf64_SectionHeader where
  SectionHeaderType := m.load32 (a + 4)
  Flags := m.load64 (a + 8)
  VirtualAddress := m.load64 (a + 16)
  OffsetInFile := m.load64 (a + 24)
  SectionSize := m.load64 (a + 32)

------------------------------------------------------------
-- Headers in Unchanged Memory
------------------------------------------------------------

/- A load from a part of a range nothing wrote to. -/
private theorem load_part
    {m m' : Memory}
    {a : Addr}
    {size : Nat}
    (hSame : ∀ b, InRange a size b → m' b = m b)
    (offset : Addr)
    (n : Nat)
    (hBound : offset.toNat + n ≤ size := by decide)
    (hSize : size ≤ 2 ^ 64 := by decide) :
    m'.load (a + offset) n = m.load (a + offset) n := by
  apply Memory.load_congr
  intro b hRange
  apply hSame
  have hOffset : offset = BitVec.ofNat 64 offset.toNat := by
    simp
  rw [hOffset] at hRange
  have hPart :=
    (inRange_add_iff a b (by omega)).mp hRange
  unfold InRange
  omega

theorem readElfHeader_congr
    {m m' : Memory}
    {a : Addr}
    (hSame :
      ∀ b, InRange a ELF_HEADER_SIZE b → m' b = m b) :
    readElfHeader m' a = readElfHeader m a := by
  have hIdentifiers :
      ∀ i : Fin ELF_IDENT_SIZE,
        m' (a + BitVec.ofNat 64 i) =
          m (a + BitVec.ofNat 64 i) := by
    intro i
    apply hSame
    apply inRange_add_ofNat
    exact Nat.lt_trans i.isLt (by decide)
  have hType : m'.load16 (a + 16) = m.load16 (a + 16) :=
    load_part hSame 16 2
  have hMachine : m'.load16 (a + 18) = m.load16 (a + 18) :=
    load_part hSame 18 2
  have hVersion : m'.load32 (a + 20) = m.load32 (a + 20) :=
    load_part hSame 20 4
  have hProg : m'.load64 (a + 32) = m.load64 (a + 32) :=
    load_part hSame 32 8
  have hSection : m'.load64 (a + 40) = m.load64 (a + 40) :=
    load_part hSame 40 8
  have hProgSize : m'.load16 (a + 54) = m.load16 (a + 54) :=
    load_part hSame 54 2
  have hProgNum : m'.load16 (a + 56) = m.load16 (a + 56) :=
    load_part hSame 56 2
  have hSectionSize :
      m'.load16 (a + 58) = m.load16 (a + 58) :=
    load_part hSame 58 2
  have hSectionNum :
      m'.load16 (a + 60) = m.load16 (a + 60) :=
    load_part hSame 60 2
  simp only [readElfHeader, hIdentifiers, hType, hMachine,
    hVersion, hProg, hSection, hProgSize, hProgNum,
    hSectionSize, hSectionNum]

theorem readProgHeader_congr
    {m m' : Memory}
    {a : Addr}
    (hSame :
      ∀ b, InRange a PROG_HEADER_SIZE b → m' b = m b) :
    readProgHeader m' a = readProgHeader m a := by
  have hType : m'.load32 a = m.load32 a :=
    Memory.load_congr (n := 4)
      (fun b hRange => hSame b (hRange.mono (by decide)))
  have hFlags : m'.load32 (a + 4) = m.load32 (a + 4) :=
    load_part hSame 4 4
  have hOffset : m'.load64 (a + 8) = m.load64 (a + 8) :=
    load_part hSame 8 8
  have hAddress : m'.load64 (a + 16) = m.load64 (a + 16) :=
    load_part hSame 16 8
  have hInFile : m'.load64 (a + 32) = m.load64 (a + 32) :=
    load_part hSame 32 8
  have hInMemory : m'.load64 (a + 40) = m.load64 (a + 40) :=
    load_part hSame 40 8
  simp only [readProgHeader, hType, hFlags, hOffset,
    hAddress, hInFile, hInMemory]

theorem readSectionHeader_congr
    {m m' : Memory}
    {a : Addr}
    (hSame :
      ∀ b, InRange a SECTION_HEADER_SIZE b → m' b = m b) :
    readSectionHeader m' a = readSectionHeader m a := by
  have hType : m'.load32 (a + 4) = m.load32 (a + 4) :=
    load_part hSame 4 4
  have hFlags : m'.load64 (a + 8) = m.load64 (a + 8) :=
    load_part hSame 8 8
  have hAddress : m'.load64 (a + 16) = m.load64 (a + 16) :=
    load_part hSame 16 8
  have hInFile : m'.load64 (a + 24) = m.load64 (a + 24) :=
    load_part hSame 24 8
  have hSize : m'.load64 (a + 32) = m.load64 (a + 32) :=
    load_part hSame 32 8
  simp only [readSectionHeader, hType, hFlags, hAddress,
    hInFile, hSize]

end Elf

end Chihuahua
