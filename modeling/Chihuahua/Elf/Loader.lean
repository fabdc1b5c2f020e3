import Chihuahua.Essentials.MemEssentials
import Chihuahua.Elf.Definitions

/-
  The ELF loader. It reads headers from memory, asks a
  callback for room, and copies or clears.

  Main declarations:
    * `ElfLoader` and `ElfError`
    * `checkElf`, `getProgramHeaders` and
      `getSectionHeaders`
    * `LoaderFunction` and `LoaderState`
    * `loadExecutableProgram` and `loadNoBitsSection`
-/

------------------------------------------------------------
-- The ELF File
------------------------------------------------------------

namespace Chihuahua

namespace Elf

open ByteMachine Essentials

structure ElfLoader where
  elfFile : Addr
  elfFileSize : BitVec 64

inductive ElfError where
| NoError
| ElfHeaderCorrupted
| ElfTypeNotSupported
| ElfSectionNotLoadable
| ElfSizeExceeded
| ElfGenericError
deriving DecidableEq, Repr

namespace ElfLoader

variable (loader : ElfLoader)

open Elf_IdentIndex in
def checkElf (m : Memory) : ElfError :=
  let header := readElfHeader m loader.elfFile
  if header.Identifiers EI_MAG0 ≠ ELF_MAG0 ∨
      header.Identifiers EI_MAG1 ≠ ELF_MAG1 ∨
      header.Identifiers EI_MAG2 ≠ ELF_MAG2 ∨
      header.Identifiers EI_MAG3 ≠ ELF_MAG3 then
    .ElfHeaderCorrupted
  else if header.Identifiers EI_CLASS ≠ 2 ∨
      header.Identifiers EI_VERSION ≠ 1 ∨
      header.Version ≠ 1 ∨
      header.Machine ≠ Elf_Machine.x86_64 ∨
      header.ElfType ≠ Elf_Type.ET_EXEC then
    .ElfTypeNotSupported
  else
    .NoError

------------------------------------------------------------
-- Header Tables
------------------------------------------------------------

/- What a getter leaves behind: its result and both outputs. -/
structure HeaderTable where
  table : Addr
  count : Int
  error : ElfError
deriving DecidableEq, Repr

/-
  The body the two getters share. The fields of the ELF
  header and the size of an entry differ; `count` is the
  value the caller put into the output.
-/
def getHeaders
    (m : Memory)
    (count : Int)
    (entrySize entriesNum : BitVec 16)
    (offset : BitVec 64)
    (size : Nat) : HeaderTable :=
  let error := loader.checkElf m
  if error ≠ .NoError then
    { table := 0, count := count, error := error }
  else if entrySize.toNat ≠ size then
    { table := 0, count := count, error := .ElfGenericError }
  else
    let count : Int := entriesNum.toNat
    if offset +
          BitVec.ofInt 64 count * BitVec.ofNat 64 size ≥
        loader.elfFileSize then
      { table := 0
        count := count
        error := .ElfSizeExceeded }
    else
      { table := loader.elfFile + offset
        count := count
        error := error }

def getProgramHeaders
    (m : Memory)
    (numProgHeaders : Int) : HeaderTable :=
  let elfHeader := readElfHeader m loader.elfFile
  loader.getHeaders m numProgHeaders
    elfHeader.ProgHeaderEntrySize
    elfHeader.ProgHeaderTableEntriesNum
    elfHeader.ProgHeaderOffset PROG_HEADER_SIZE

def getSectionHeaders
    (m : Memory)
    (numSectionHeaders : Int) : HeaderTable :=
  let elfHeader := readElfHeader m loader.elfFile
  loader.getHeaders m numSectionHeaders
    elfHeader.SectionHeaderEntrySize
    elfHeader.SectionHeaderTableEntriesNum
    elfHeader.SectionHeaderOffset SECTION_HEADER_SIZE

/- The getters read the ELF header and nothing else. -/
theorem getSectionHeaders_congr
    {m m' : Memory}
    (hSame :
      ∀ b, InRange loader.elfFile ELF_HEADER_SIZE b →
        m' b = m b)
    (numSectionHeaders : Int) :
    loader.getSectionHeaders m' numSectionHeaders =
      loader.getSectionHeaders m numSectionHeaders := by
  have hHeader := readElfHeader_congr hSame
  unfold getSectionHeaders getHeaders checkElf
  rw [hHeader]

end ElfLoader

------------------------------------------------------------
-- The Callback
------------------------------------------------------------

/- One call of the callback, and its answer. -/
structure LoaderCall where
  memorySize : Int
  virtAddress : Elf64_Addr
  segmentFlags : Elf_SegmentFlags
  dest : Addr
deriving DecidableEq, Repr

/-
  A `LoaderFunction` answers with the address of a buffer,
  or 0. It may remember its earlier calls, the latest first.
-/
abbrev LoaderFunction :=
  List LoaderCall →
    Int → Elf64_Addr → Elf_SegmentFlags → Addr

/- Memory, and the calls of the callback, the latest first. -/
structure LoaderState where
  machine : Machine
  calls : List LoaderCall

namespace LoaderState

def mem (s : LoaderState) : Memory :=
  s.machine.mem

/- Call the callback. -/
def callback
    (s : LoaderState)
    (loaderCallback : LoaderFunction)
    (memorySize : Int)
    (virtAddress : Elf64_Addr)
    (segmentFlags : Elf_SegmentFlags) :
    Addr × LoaderState :=
  let dest :=
    loaderCallback s.calls memorySize virtAddress
      segmentFlags
  (dest,
    { s with
      calls :=
        { memorySize := memorySize
          virtAddress := virtAddress
          segmentFlags := segmentFlags
          dest := dest } :: s.calls })

end LoaderState

/- The conversion `static_cast<int>` of a 64-bit size. -/
def toInt (size : BitVec 64) : Int :=
  (size.setWidth 32).toInt

------------------------------------------------------------
-- Loading
------------------------------------------------------------

namespace ElfLoader

variable (loader : ElfLoader)

/-
  The copy of a segment, and the zeroing of what its file
  part leaves of it. The header stays in memory while it is
  used, so its sizes are read once more after the copy.
-/
def fillSegment
    (header : Elf64_ProgHeader)
    (progHeader dest : Addr)
    (machine : Machine) : Machine :=
  let machine :=
    (memcpy dest (loader.elfFile + header.Offset)
      header.SizeInFile machine).2
  let header := readProgHeader machine.mem progHeader
  if header.SizeInMemory > header.SizeInFile then
    (memset (dest + header.SizeInFile) 0
      (header.SizeInMemory - header.SizeInFile) machine).2
  else
    machine

def loadExecutableProgram
    (progHeader : Addr)
    (loaderCallback : LoaderFunction)
    (s : LoaderState) : ElfError × LoaderState :=
  let header := readProgHeader s.mem progHeader
  if header.SegmentType ≠ Elf_SegmentType.PT_LOAD then
    (.ElfSectionNotLoadable, s)
  else
    let (dest, s) :=
      s.callback loaderCallback
        (toInt header.SizeInMemory) header.VirtAddress
        header.Flags
    if dest = 0 then
      (.ElfGenericError, s)
    else if header.Offset ≥ loader.elfFileSize ∨
        header.Offset + header.SizeInFile ≥
          loader.elfFileSize ∨
        header.Offset + header.SizeInMemory ≥
          loader.elfFileSize then
      (.ElfSizeExceeded, s)
    else
      (.NoError,
        { s with
          machine :=
            loader.fillSegment header progHeader dest
              s.machine })

def loadNoBitsSection
    (sectionHeader : Addr)
    (loaderCallback : LoaderFunction)
    (s : LoaderState) : ElfError × LoaderState :=
  let header := readSectionHeader s.mem sectionHeader
  if header.SectionHeaderType ≠
        Elf_SectionType.SHT_NOBITS ∨
      header.SectionSize = 0 ∨
      header.Flags.setWidth 32 &&&
          Elf_SectionFlags.SHF_ALLOC.setWidth 32 =
        0 then
    (.ElfSectionNotLoadable, s)
  else if header.OffsetInFile ≥ loader.elfFileSize ∨
      header.OffsetInFile + header.SectionSize ≥
        loader.elfFileSize then
    (.ElfSizeExceeded, s)
  else
    let (dest, s) :=
      s.callback loaderCallback (toInt header.SectionSize)
        header.VirtualAddress
        (Elf_SegmentFlags.PF_R ||| Elf_SegmentFlags.PF_W)
    if dest = 0 then
      (.ElfGenericError, s)
    else
      (.NoError,
        { s with
          machine :=
            (memset dest 0 header.SectionSize
              s.machine).2 })

------------------------------------------------------------
-- What Is Accepted
------------------------------------------------------------

/- The address the callback returns for a segment. -/
def segmentDest
    (progHeader : Addr)
    (loaderCallback : LoaderFunction)
    (s : LoaderState) : Addr :=
  let header := readProgHeader s.mem progHeader
  loaderCallback s.calls (toInt header.SizeInMemory)
    header.VirtAddress header.Flags

/- The call that is made for a segment. -/
def segmentCall
    (progHeader : Addr)
    (loaderCallback : LoaderFunction)
    (s : LoaderState) : LoaderCall :=
  let header := readProgHeader s.mem progHeader
  { memorySize := toInt header.SizeInMemory
    virtAddress := header.VirtAddress
    segmentFlags := header.Flags
    dest := segmentDest progHeader loaderCallback s }

/- The checks a segment has to pass before it is copied. -/
structure AcceptsSegment
    (header : Elf64_ProgHeader)
    (dest : Addr) : Prop where
  hType : header.SegmentType = Elf_SegmentType.PT_LOAD
  hDest : dest ≠ 0
  hOffset : header.Offset < loader.elfFileSize
  hInFile :
    header.Offset + header.SizeInFile < loader.elfFileSize
  hInMemory :
    header.Offset + header.SizeInMemory < loader.elfFileSize

/- The address the callback returns for a section. -/
def sectionDest
    (sectionHeader : Addr)
    (loaderCallback : LoaderFunction)
    (s : LoaderState) : Addr :=
  let header := readSectionHeader s.mem sectionHeader
  loaderCallback s.calls (toInt header.SectionSize)
    header.VirtualAddress
    (Elf_SegmentFlags.PF_R ||| Elf_SegmentFlags.PF_W)

/- The call that is made for a section. -/
def sectionCall
    (sectionHeader : Addr)
    (loaderCallback : LoaderFunction)
    (s : LoaderState) : LoaderCall :=
  let header := readSectionHeader s.mem sectionHeader
  { memorySize := toInt header.SectionSize
    virtAddress := header.VirtualAddress
    segmentFlags :=
      Elf_SegmentFlags.PF_R ||| Elf_SegmentFlags.PF_W
    dest := sectionDest sectionHeader loaderCallback s }

/- The section is one that `loadNoBitsSection` is for. -/
structure IsNoBits (header : Elf64_SectionHeader) : Prop where
  hType :
    header.SectionHeaderType = Elf_SectionType.SHT_NOBITS
  hSize : header.SectionSize ≠ 0
  hAlloc :
    header.Flags.setWidth 32 &&&
        Elf_SectionFlags.SHF_ALLOC.setWidth 32 ≠
      0

/- The checks a section has to pass before it is cleared. -/
structure AcceptsSection
    (header : Elf64_SectionHeader)
    (dest : Addr) : Prop where
  hNoBits : IsNoBits header
  hDest : dest ≠ 0
  hOffset : header.OffsetInFile < loader.elfFileSize
  hEnd :
    header.OffsetInFile + header.SectionSize <
      loader.elfFileSize

/- What `loadExecutableProgram` can do. -/
inductive SegmentOutcome
    (progHeader : Addr)
    (loaderCallback : LoaderFunction)
    (s : LoaderState) : ElfError × LoaderState → Prop where
| skipped
    (hType :
      (readProgHeader s.mem progHeader).SegmentType ≠
        Elf_SegmentType.PT_LOAD) :
    SegmentOutcome progHeader loaderCallback s
      (.ElfSectionNotLoadable, s)
| noBuffer
    (hType :
      (readProgHeader s.mem progHeader).SegmentType =
        Elf_SegmentType.PT_LOAD)
    (hDest : segmentDest progHeader loaderCallback s = 0) :
    SegmentOutcome progHeader loaderCallback s
      (.ElfGenericError,
        { machine := s.machine
          calls :=
            segmentCall progHeader loaderCallback s ::
              s.calls })
| tooLong
    (hType :
      (readProgHeader s.mem progHeader).SegmentType =
        Elf_SegmentType.PT_LOAD)
    (hDest : segmentDest progHeader loaderCallback s ≠ 0)
    (hRefused :
      ¬ loader.AcceptsSegment
        (readProgHeader s.mem progHeader)
        (segmentDest progHeader loaderCallback s)) :
    SegmentOutcome progHeader loaderCallback s
      (.ElfSizeExceeded,
        { machine := s.machine
          calls :=
            segmentCall progHeader loaderCallback s ::
              s.calls })
| loaded
    (hAccepted :
      loader.AcceptsSegment
        (readProgHeader s.mem progHeader)
        (segmentDest progHeader loaderCallback s)) :
    SegmentOutcome progHeader loaderCallback s
      (.NoError,
        { machine :=
            loader.fillSegment
              (readProgHeader s.mem progHeader) progHeader
              (segmentDest progHeader loaderCallback s)
              s.machine
          calls :=
            segmentCall progHeader loaderCallback s ::
              s.calls })

theorem loadExecutableProgram_outcome
    (progHeader : Addr)
    (loaderCallback : LoaderFunction)
    (s : LoaderState) :
    loader.SegmentOutcome progHeader loaderCallback s
      (loader.loadExecutableProgram progHeader
        loaderCallback s) := by
  unfold loadExecutableProgram LoaderState.callback
  dsimp only
  split_ifs with hType hDest hSize
  · exact .skipped hType
  · exact .noBuffer (not_not.mp hType) hDest
  · refine .tooLong (not_not.mp hType) hDest ?_
    intro hAccepts
    rcases hSize with hOffset | hInFile | hInMemory
    · exact BitVec.not_lt.mpr hOffset hAccepts.hOffset
    · exact BitVec.not_lt.mpr hInFile hAccepts.hInFile
    · exact BitVec.not_lt.mpr hInMemory hAccepts.hInMemory
  · rcases not_or.mp hSize with ⟨hOffset, hEnds⟩
    rcases not_or.mp hEnds with ⟨hInFile, hInMemory⟩
    have hAccepted :
        loader.AcceptsSegment
          (readProgHeader s.mem progHeader)
          (segmentDest progHeader loaderCallback s) :=
      ⟨not_not.mp hType, hDest, BitVec.not_le.mp hOffset,
        BitVec.not_le.mp hInFile,
        BitVec.not_le.mp hInMemory⟩
    exact .loaded hAccepted

/- What `loadNoBitsSection` can do. -/
inductive SectionOutcome
    (sectionHeader : Addr)
    (loaderCallback : LoaderFunction)
    (s : LoaderState) : ElfError × LoaderState → Prop where
| skipped
    (hNoBits :
      ¬ IsNoBits (readSectionHeader s.mem sectionHeader)) :
    SectionOutcome sectionHeader loaderCallback s
      (.ElfSectionNotLoadable, s)
| tooLong
    (hNoBits :
      IsNoBits (readSectionHeader s.mem sectionHeader))
    (hRefused :
      ∀ dest : Addr,
        ¬ loader.AcceptsSection
          (readSectionHeader s.mem sectionHeader) dest) :
    SectionOutcome sectionHeader loaderCallback s
      (.ElfSizeExceeded, s)
| noBuffer
    (hNoBits :
      IsNoBits (readSectionHeader s.mem sectionHeader))
    (hDest : sectionDest sectionHeader loaderCallback s = 0) :
    SectionOutcome sectionHeader loaderCallback s
      (.ElfGenericError,
        { machine := s.machine
          calls :=
            sectionCall sectionHeader loaderCallback s ::
              s.calls })
| loaded
    (hAccepted :
      loader.AcceptsSection
        (readSectionHeader s.mem sectionHeader)
        (sectionDest sectionHeader loaderCallback s)) :
    SectionOutcome sectionHeader loaderCallback s
      (.NoError,
        { machine :=
            (memset
              (sectionDest sectionHeader loaderCallback s) 0
              (readSectionHeader s.mem
                sectionHeader).SectionSize
              s.machine).2
          calls :=
            sectionCall sectionHeader loaderCallback s ::
              s.calls })

theorem loadNoBitsSection_outcome
    (sectionHeader : Addr)
    (loaderCallback : LoaderFunction)
    (s : LoaderState) :
    loader.SectionOutcome sectionHeader loaderCallback s
      (loader.loadNoBitsSection sectionHeader
        loaderCallback s) := by
  have hPasses :
      IsNoBits (readSectionHeader s.mem sectionHeader) ↔
        ¬ ((readSectionHeader s.mem
                sectionHeader).SectionHeaderType ≠
              Elf_SectionType.SHT_NOBITS ∨
            (readSectionHeader s.mem
                sectionHeader).SectionSize =
              0 ∨
            (readSectionHeader s.mem
                  sectionHeader).Flags.setWidth 32 &&&
                Elf_SectionFlags.SHF_ALLOC.setWidth 32 =
              0) := by
    rw [not_or, not_or, not_not]
    constructor
    · rintro ⟨hType, hEmpty, hAlloc⟩
      exact ⟨hType, hEmpty, hAlloc⟩
    · rintro ⟨hType, hEmpty, hAlloc⟩
      exact ⟨hType, hEmpty, hAlloc⟩
  unfold loadNoBitsSection LoaderState.callback
  dsimp only
  split_ifs with hNoBits hSize hDest
  · exact
      .skipped (fun hAccepts => hPasses.mp hAccepts hNoBits)
  · refine .tooLong (hPasses.mpr hNoBits) ?_
    intro dest hAccepts
    rcases hSize with hOffset | hEnd
    · exact BitVec.not_lt.mpr hOffset hAccepts.hOffset
    · exact BitVec.not_lt.mpr hEnd hAccepts.hEnd
  · exact .noBuffer (hPasses.mpr hNoBits) hDest
  · rcases not_or.mp hSize with ⟨hOffset, hEnd⟩
    have hAccepted :
        loader.AcceptsSection
          (readSectionHeader s.mem sectionHeader)
          (sectionDest sectionHeader loaderCallback s) :=
      ⟨hPasses.mpr hNoBits, hDest,
        BitVec.not_le.mp hOffset, BitVec.not_le.mp hEnd⟩
    exact .loaded hAccepted

end ElfLoader

end Elf

end Chihuahua
