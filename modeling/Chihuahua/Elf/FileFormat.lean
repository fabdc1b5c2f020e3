import Chihuahua.Machine.Records
import Chihuahua.Elf.Completeness
import Chihuahua.Elf.LoadItem

/-
  Files in the ELF format: the headers as bytes, and a file
  for a kernel, the headers, the tables and the data one
  after the other. The file ends in zeros, one byte more
  than the largest item has in memory: without them the
  loader refuses what ends where the file does.

  Main declarations:
    * `elfHeaderBytes` and `readElfHeader_of_holdsText`
    * `progHeaderCodec` and `sectionHeaderCodec`
    * `Kernel`, `Kernel.file` and `Kernel.items`
    * `Kernel.FileHeld` and what the headers in it ask for
-/

------------------------------------------------------------
-- Headers as Bytes
------------------------------------------------------------

namespace Chihuahua

namespace Elf

open ByteMachine

def identifierBytes
    (identifiers : Fin ELF_IDENT_SIZE → Byte) : List Byte :=
  List.ofFn identifiers

@[simp] theorem length_identifierBytes
    (identifiers : Fin ELF_IDENT_SIZE → Byte) :
    (identifierBytes identifiers).length = 16 :=
  List.length_ofFn

theorem identifiers_of_holdsText
    {m : Memory}
    {a : Addr}
    {identifiers : Fin ELF_IDENT_SIZE → Byte}
    (hText : HoldsText m a (identifierBytes identifiers)) :
    (fun i : Fin ELF_IDENT_SIZE =>
        m (a + BitVec.ofNat 64 i)) =
      identifiers := by
  funext i
  have hLength := length_identifierBytes identifiers
  have hByte := hText i (by rw [hLength]; exact i.isLt)
  exact hByte.trans (List.getElem_ofFn _)

/- The fields that the loader does not read are 0. -/
def elfHeaderBytes
    (header : Elf64_ElfHeader)
    (entryPoint : Elf64_Addr) : List Byte :=
  identifierBytes header.Identifiers ++
    bytes16 header.ElfType ++
    bytes16 header.Machine ++
    bytes32 header.Version ++
    bytes64 entryPoint ++
    bytes64 header.ProgHeaderOffset ++
    bytes64 header.SectionHeaderOffset ++
    bytes32 0 ++
    bytes16 (BitVec.ofNat 16 ELF_HEADER_SIZE) ++
    bytes16 header.ProgHeaderEntrySize ++
    bytes16 header.ProgHeaderTableEntriesNum ++
    bytes16 header.SectionHeaderEntrySize ++
    bytes16 header.SectionHeaderTableEntriesNum ++
    bytes16 0

@[simp] theorem length_elfHeaderBytes
    (header : Elf64_ElfHeader)
    (entryPoint : Elf64_Addr) :
    (elfHeaderBytes header entryPoint).length =
      ELF_HEADER_SIZE := by
  simp [elfHeaderBytes, ELF_HEADER_SIZE]

theorem readElfHeader_of_holdsText
    {m : Memory}
    {a : Addr}
    {header : Elf64_ElfHeader}
    {entryPoint : Elf64_Addr}
    (hText : HoldsText m a (elfHeaderBytes header entryPoint)) :
    readElfHeader m a = header := by
  simp only [elfHeaderBytes, holdsText_append,
    List.length_append, length_identifierBytes,
    length_bytes16, length_bytes32, length_bytes64,
    Nat.reduceAdd] at hText
  obtain
    ⟨⟨⟨⟨⟨⟨⟨⟨⟨⟨⟨⟨⟨hIdentifiers, hType⟩, hMachine⟩, hVersion⟩,
      _⟩, hProgOffset⟩, hSectionOffset⟩, _⟩, _⟩, hProgSize⟩,
      hProgNum⟩, hSectionSize⟩, hSectionNum⟩, _⟩ := hText
  unfold readElfHeader
  rw [identifiers_of_holdsText hIdentifiers,
    show m.load16 (a + 16) = header.ElfType from
      load16_of_holdsText hType,
    show m.load16 (a + 18) = header.Machine from
      load16_of_holdsText hMachine,
    show m.load32 (a + 20) = header.Version from
      load32_of_holdsText hVersion,
    show m.load64 (a + 32) = header.ProgHeaderOffset from
      load64_of_holdsText hProgOffset,
    show m.load64 (a + 40) = header.SectionHeaderOffset from
      load64_of_holdsText hSectionOffset,
    show m.load16 (a + 54) = header.ProgHeaderEntrySize from
      load16_of_holdsText hProgSize,
    show m.load16 (a + 56) =
        header.ProgHeaderTableEntriesNum from
      load16_of_holdsText hProgNum,
    show m.load16 (a + 58) =
        header.SectionHeaderEntrySize from
      load16_of_holdsText hSectionSize,
    show m.load16 (a + 60) =
        header.SectionHeaderTableEntriesNum from
      load16_of_holdsText hSectionNum]

/- The physical address is 0, and pages are aligned. -/
def progHeaderBytes
    (header : Elf64_ProgHeader) : List Byte :=
  bytes32 header.SegmentType ++
    bytes32 header.Flags ++
    bytes64 header.Offset ++
    bytes64 header.VirtAddress ++
    bytes64 0 ++
    bytes64 header.SizeInFile ++
    bytes64 header.SizeInMemory ++
    bytes64 4096

theorem readProgHeader_of_holdsText
    (m : Memory)
    (a : Addr)
    (header : Elf64_ProgHeader)
    (hText : HoldsText m a (progHeaderBytes header)) :
    readProgHeader m a = header := by
  simp only [progHeaderBytes, holdsText_append,
    List.length_append, length_bytes32, length_bytes64,
    Nat.reduceAdd] at hText
  obtain
    ⟨⟨⟨⟨⟨⟨⟨hType, hFlags⟩, hOffset⟩, hAddress⟩, _⟩, hInFile⟩,
      hInMemory⟩, _⟩ := hText
  unfold readProgHeader
  rw [load32_of_holdsText hType,
    show m.load32 (a + 4) = header.Flags from
      load32_of_holdsText hFlags,
    show m.load64 (a + 8) = header.Offset from
      load64_of_holdsText hOffset,
    show m.load64 (a + 16) = header.VirtAddress from
      load64_of_holdsText hAddress,
    show m.load64 (a + 32) = header.SizeInFile from
      load64_of_holdsText hInFile,
    show m.load64 (a + 40) = header.SizeInMemory from
      load64_of_holdsText hInMemory]

def progHeaderCodec : RecordCodec Elf64_ProgHeader where
  size := PROG_HEADER_SIZE
  encode := progHeaderBytes
  decode := readProgHeader
  hSize header := by
    simp [progHeaderBytes, PROG_HEADER_SIZE]
  hDecode := readProgHeader_of_holdsText

/- The name is 0, and so are the fields behind the size. -/
def sectionHeaderBytes
    (header : Elf64_SectionHeader) : List Byte :=
  bytes32 0 ++
    bytes32 header.SectionHeaderType ++
    bytes64 header.Flags ++
    bytes64 header.VirtualAddress ++
    bytes64 header.OffsetInFile ++
    bytes64 header.SectionSize ++
    bytes32 0 ++
    bytes32 0 ++
    bytes64 0 ++
    bytes64 0

theorem readSectionHeader_of_holdsText
    (m : Memory)
    (a : Addr)
    (header : Elf64_SectionHeader)
    (hText : HoldsText m a (sectionHeaderBytes header)) :
    readSectionHeader m a = header := by
  simp only [sectionHeaderBytes, holdsText_append,
    List.length_append, length_bytes32, length_bytes64,
    Nat.reduceAdd] at hText
  obtain
    ⟨⟨⟨⟨⟨⟨⟨⟨⟨_, hType⟩, hFlags⟩, hAddress⟩, hOffset⟩, hSize⟩,
      _⟩, _⟩, _⟩, _⟩ := hText
  unfold readSectionHeader
  rw [show m.load32 (a + 4) = header.SectionHeaderType from
      load32_of_holdsText hType,
    show m.load64 (a + 8) = header.Flags from
      load64_of_holdsText hFlags,
    show m.load64 (a + 16) = header.VirtualAddress from
      load64_of_holdsText hAddress,
    show m.load64 (a + 24) = header.OffsetInFile from
      load64_of_holdsText hOffset,
    show m.load64 (a + 32) = header.SectionSize from
      load64_of_holdsText hSize]

def sectionHeaderCodec :
    RecordCodec Elf64_SectionHeader where
  size := SECTION_HEADER_SIZE
  encode := sectionHeaderBytes
  decode := readSectionHeader
  hSize header := by
    simp [sectionHeaderBytes, SECTION_HEADER_SIZE]
  hDecode := readSectionHeader_of_holdsText

------------------------------------------------------------
-- The Layout of a File
------------------------------------------------------------

/- A segment, with room for its data. -/
structure Segment where
  virtAddress : Elf64_Addr
  flags : Elf_SegmentFlags
  memorySize : Nat
  data : List Byte
  hData : data.length ≤ memorySize

/- A section that has no bytes in the file. -/
structure ZeroSection where
  virtAddress : Elf64_Addr
  size : Nat
  hSize : 0 < size

structure Kernel where
  entryPoint : Elf64_Addr
  segments : List Segment
  zeroSections : List ZeroSection

def Segment.header
    (segment : Segment)
    (offset : Nat) : Elf64_ProgHeader where
  SegmentType := Elf_SegmentType.PT_LOAD
  Flags := segment.flags
  Offset := BitVec.ofNat 64 offset
  VirtAddress := segment.virtAddress
  SizeInFile := BitVec.ofNat 64 segment.data.length
  SizeInMemory := BitVec.ofNat 64 segment.memorySize

/- The headers of segments that lie one behind the other. -/
def segmentHeaders :
    Nat → List Segment → List Elf64_ProgHeader
| _, [] => []
| offset, segment :: segments =>
    segment.header offset ::
      segmentHeaders (offset + segment.data.length) segments

def ZeroSection.header
    (zeroSection : ZeroSection) : Elf64_SectionHeader where
  SectionHeaderType := Elf_SectionType.SHT_NOBITS
  Flags := Elf_SectionFlags.SHF_ALLOC
  VirtualAddress := zeroSection.virtAddress
  OffsetInFile := 0
  SectionSize := BitVec.ofNat 64 zeroSection.size

/- What a segment asks the loader for. -/
def Segment.item (segment : Segment) : LoadItem where
  memorySize := BitVec.ofNat 64 segment.memorySize
  virtAddress := segment.virtAddress
  segmentFlags := segment.flags
  content i := segment.data.getD i 0

def ZeroSection.item (zeroSection : ZeroSection) : LoadItem where
  memorySize := BitVec.ofNat 64 zeroSection.size
  virtAddress := zeroSection.virtAddress
  segmentFlags :=
    Elf_SegmentFlags.PF_R ||| Elf_SegmentFlags.PF_W
  content _ := 0

@[simp] theorem length_segmentHeaders
    (offset : Nat)
    (segments : List Segment) :
    (segmentHeaders offset segments).length =
      segments.length := by
  induction segments generalizing offset with
  | nil => rfl
  | cons segment segments ih =>
      rw [segmentHeaders, List.length_cons, ih,
        List.length_cons]

namespace Kernel

variable (kernel : Kernel)

/- What a kernel is to be in memory. -/
def items : List LoadItem :=
  kernel.segments.map Segment.item ++
    kernel.zeroSections.map ZeroSection.item

def sectionHeaderOffset : Nat :=
  ELF_HEADER_SIZE + PROG_HEADER_SIZE * kernel.segments.length

def dataOffset : Nat :=
  kernel.sectionHeaderOffset +
    SECTION_HEADER_SIZE * kernel.zeroSections.length

def header : Elf64_ElfHeader where
  Identifiers i := [0x7F, 0x45, 0x4C, 0x46, 2, 1, 1].getD i 0
  ElfType := Elf_Type.ET_EXEC
  Machine := Elf_Machine.x86_64
  Version := 1
  ProgHeaderOffset := BitVec.ofNat 64 ELF_HEADER_SIZE
  SectionHeaderOffset :=
    BitVec.ofNat 64 kernel.sectionHeaderOffset
  ProgHeaderEntrySize := BitVec.ofNat 16 PROG_HEADER_SIZE
  ProgHeaderTableEntriesNum :=
    BitVec.ofNat 16 kernel.segments.length
  SectionHeaderEntrySize := BitVec.ofNat 16 SECTION_HEADER_SIZE
  SectionHeaderTableEntriesNum :=
    BitVec.ofNat 16 kernel.zeroSections.length

def data : List Byte :=
  kernel.segments.flatMap Segment.data

/- The most memory that one item asks for. -/
def room : Nat :=
  (kernel.segments.map Segment.memorySize ++
    kernel.zeroSections.map ZeroSection.size).foldr max 0

/-
  Headers, tables and data. The loader refuses an item that
  would not end in the file if it had bytes for all of its
  memory, so there are zeros for the largest one behind.
-/
def file : List Byte :=
  elfHeaderBytes kernel.header kernel.entryPoint ++
    (progHeaderCodec.table
        (segmentHeaders kernel.dataOffset kernel.segments) ++
      (sectionHeaderCodec.table
          (kernel.zeroSections.map ZeroSection.header) ++
        (kernel.data ++
          List.replicate (kernel.room + 1) 0)))

/- The counts and sizes fit into the fields for them. -/
structure Encodable : Prop where
  hSegments : kernel.segments.length < 2 ^ 16
  hSections : kernel.zeroSections.length < 2 ^ 16
  hFile : kernel.file.length < 2 ^ 31

/- The file is where a loader looks for it. -/
structure FileHeld
    (elfLoader : ElfLoader)
    (m : Memory) : Prop where
  hText : HoldsText m elfLoader.elfFile kernel.file
  hSize : elfLoader.elfFileSize.toNat = kernel.file.length

theorem length_file :
    kernel.file.length =
      kernel.dataOffset + kernel.data.length +
        (kernel.room + 1) := by
  have hProg : progHeaderCodec.size = PROG_HEADER_SIZE := rfl
  have hSection :
      sectionHeaderCodec.size = SECTION_HEADER_SIZE := rfl
  unfold file dataOffset sectionHeaderOffset
  simp only [List.length_append, length_elfHeaderBytes,
    RecordCodec.length_table, length_segmentHeaders,
    List.length_map, List.length_replicate, hProg, hSection]
  omega

theorem memorySize_le_room
    {segment : Segment}
    (hMem : segment ∈ kernel.segments) :
    segment.memorySize ≤ kernel.room :=
  List.le_max_of_le
    (List.mem_append_left _ (List.mem_map_of_mem hMem))
    le_rfl

theorem size_le_room
    {zeroSection : ZeroSection}
    (hMem : zeroSection ∈ kernel.zeroSections) :
    zeroSection.size ≤ kernel.room :=
  List.le_max_of_le
    (List.mem_append_right _ (List.mem_map_of_mem hMem))
    le_rfl

end Kernel

------------------------------------------------------------
-- What the Loader Finds
------------------------------------------------------------

/- Every header is that of a segment at some place. -/
theorem mem_segmentHeaders
    {header : Elf64_ProgHeader}
    {offset : Nat}
    {segments : List Segment}
    (hMem : header ∈ segmentHeaders offset segments) :
    ∃ segment ∈ segments,
      ∃ place,
        header = segment.header place ∧
          place + segment.data.length ≤
            offset + (segments.flatMap Segment.data).length := by
  induction segments generalizing offset with
  | nil => cases hMem
  | cons segment segments ih =>
      rw [List.flatMap_cons, List.length_append]
      rcases List.mem_cons.mp hMem with rfl | hLater
      · exact
          ⟨segment, List.mem_cons_self, offset, rfl,
            by omega⟩
      · obtain ⟨other, hOther, place, hHeader, hPlace⟩ :=
          ih hLater
        exact
          ⟨other, List.mem_cons_of_mem _ hOther, place,
            hHeader, by omega⟩

section Requests

variable {elfLoader : ElfLoader} {m : Memory}

theorem segmentRequest_header
    {segment : Segment}
    {offset : Nat}
    (hText :
      HoldsText m (elfLoader.elfFile + BitVec.ofNat 64 offset)
        segment.data)
    (hData : segment.data.length < 2 ^ 64) :
    elfLoader.segmentRequest m (segment.header offset) =
      segment.item := by
  have hContent :
      elfLoader.segmentContent m (segment.header offset) =
        fun i => segment.data.getD i 0 := by
    funext i
    have hLength :
        (segment.header offset).SizeInFile.toNat =
          segment.data.length :=
      BitVec.toNat_ofNat _ _ |>.trans
        (Nat.mod_eq_of_lt hData)
    unfold ElfLoader.segmentContent
    rw [hLength, List.getD_eq_getElem?_getD]
    split_ifs with hInside
    · rw [List.getElem?_eq_getElem hInside, Option.getD_some]
      exact hText i hInside
    · rw [List.getElem?_eq_none (Nat.le_of_not_lt hInside)]
      rfl
  unfold ElfLoader.segmentRequest
  rw [hContent]
  rfl

/- By induction over the segments, each behind the last. -/
theorem map_segmentRequest
    {offset : Nat}
    {segments : List Segment}
    (hText :
      HoldsText m (elfLoader.elfFile + BitVec.ofNat 64 offset)
        (segments.flatMap Segment.data))
    (hData :
      (segments.flatMap Segment.data).length < 2 ^ 64) :
    (segmentHeaders offset segments).map
        (elfLoader.segmentRequest m) =
      segments.map Segment.item := by
  induction segments generalizing offset with
  | nil => rfl
  | cons segment segments ih =>
      rw [List.flatMap_cons] at hText hData
      rw [List.length_append] at hData
      obtain ⟨hHead, hTail⟩ := holdsText_append.mp hText
      rw [add_ofNat_add_ofNat] at hTail
      rw [segmentHeaders, List.map_cons, List.map_cons,
        segmentRequest_header hHead (by omega),
        ih hTail (by omega)]

end Requests

namespace Kernel

variable {kernel : Kernel}
variable {elfLoader : ElfLoader} {m : Memory}

/- The file in four parts, each at its offset. -/
structure FileParts
    (kernel : Kernel)
    (m : Memory)
    (elfFile : Addr) : Prop where
  hHeader :
    HoldsText m elfFile
      (elfHeaderBytes kernel.header kernel.entryPoint)
  hProgHeaders :
    HoldsText m (elfFile + BitVec.ofNat 64 ELF_HEADER_SIZE)
      (progHeaderCodec.table
        (segmentHeaders kernel.dataOffset kernel.segments))
  hSectionHeaders :
    HoldsText m
      (elfFile + BitVec.ofNat 64 kernel.sectionHeaderOffset)
      (sectionHeaderCodec.table
        (kernel.zeroSections.map ZeroSection.header))
  hData :
    HoldsText m
      (elfFile + BitVec.ofNat 64 kernel.dataOffset)
      kernel.data

theorem FileHeld.parts
    (hHeld : kernel.FileHeld elfLoader m) :
    kernel.FileParts m elfLoader.elfFile := by
  have hText := hHeld.hText
  have hProg : progHeaderCodec.size = PROG_HEADER_SIZE := rfl
  have hSection :
      sectionHeaderCodec.size = SECTION_HEADER_SIZE := rfl
  simp only [file, holdsText_append, length_elfHeaderBytes,
    RecordCodec.length_table, length_segmentHeaders,
    List.length_map, add_ofNat_add_ofNat, hProg,
    hSection] at hText
  obtain
    ⟨hHeader, hProgHeaders, hSectionHeaders, hData, _⟩ :=
    hText
  exact ⟨hHeader, hProgHeaders, hSectionHeaders, hData⟩

theorem FileHeld.readElfHeader_eq
    (hHeld : kernel.FileHeld elfLoader m) :
    readElfHeader m elfLoader.elfFile = kernel.header :=
  readElfHeader_of_holdsText hHeld.parts.hHeader

theorem FileHeld.checkElf_eq
    (hHeld : kernel.FileHeld elfLoader m) :
    elfLoader.checkElf m = .NoError := by
  unfold ElfLoader.checkElf
  rw [hHeld.readElfHeader_eq]
  rfl

theorem dataOffset_lt (kernel : Kernel) :
    kernel.dataOffset < kernel.file.length := by
  rw [length_file]
  omega

theorem FileHeld.getProgramHeaders_eq
    (hHeld : kernel.FileHeld elfLoader m)
    (hFits : kernel.Encodable) :
    elfLoader.getProgramHeaders m 0 =
      { table :=
          elfLoader.elfFile + BitVec.ofNat 64 ELF_HEADER_SIZE
        count := kernel.segments.length
        error := .NoError } := by
  have hSegments := hFits.hSegments
  have hEnd := dataOffset_lt kernel
  have hSize := hHeld.hSize
  have hCount :
      (BitVec.ofNat 16 kernel.segments.length).toNat =
        kernel.segments.length :=
    BitVec.toNat_ofNat _ _ |>.trans
      (Nat.mod_eq_of_lt hSegments)
  have hTable :
      ELF_HEADER_SIZE +
          kernel.segments.length * PROG_HEADER_SIZE <
        elfLoader.elfFileSize.toNat := by
    unfold dataOffset sectionHeaderOffset at hEnd
    rw [Nat.mul_comm]
    omega
  unfold ElfLoader.getProgramHeaders
  rw [hHeld.readElfHeader_eq]
  dsimp only [header]
  have hFound :=
    (elfLoader.tableFound_iff m 0
        (BitVec.ofNat 16 PROG_HEADER_SIZE)
        (BitVec.ofNat 16 kernel.segments.length)
        (BitVec.ofNat 64 ELF_HEADER_SIZE)
        (show PROG_HEADER_SIZE ≤ 64 by decide)).mpr
      (fun _ => by rw [hCount]; exact hTable.ne)
      ⟨hHeld.checkElf_eq, rfl, by rw [hCount]; exact hTable.le⟩
  rw [hFound, hCount]

theorem FileHeld.getSectionHeaders_eq
    (hHeld : kernel.FileHeld elfLoader m)
    (hFits : kernel.Encodable) :
    elfLoader.getSectionHeaders m 0 =
      { table :=
          elfLoader.elfFile +
            BitVec.ofNat 64 kernel.sectionHeaderOffset
        count := kernel.zeroSections.length
        error := .NoError } := by
  have hSections := hFits.hSections
  have hFile := hFits.hFile
  have hEnd := dataOffset_lt kernel
  have hSize := hHeld.hSize
  have hCount :
      (BitVec.ofNat 16 kernel.zeroSections.length).toNat =
        kernel.zeroSections.length :=
    BitVec.toNat_ofNat _ _ |>.trans
      (Nat.mod_eq_of_lt hSections)
  have hOffset :
      (BitVec.ofNat 64 kernel.sectionHeaderOffset).toNat =
        kernel.sectionHeaderOffset := by
    unfold dataOffset at hEnd
    rw [BitVec.toNat_ofNat]
    exact Nat.mod_eq_of_lt (by omega)
  have hTable :
      (BitVec.ofNat 64 kernel.sectionHeaderOffset).toNat +
          kernel.zeroSections.length * SECTION_HEADER_SIZE <
        elfLoader.elfFileSize.toNat := by
    rw [hOffset, Nat.mul_comm, hSize]
    exact hEnd
  unfold ElfLoader.getSectionHeaders
  rw [hHeld.readElfHeader_eq]
  dsimp only [header]
  have hFound :=
    (elfLoader.tableFound_iff m 0
        (BitVec.ofNat 16 SECTION_HEADER_SIZE)
        (BitVec.ofNat 16 kernel.zeroSections.length)
        (BitVec.ofNat 64 kernel.sectionHeaderOffset)
        (show SECTION_HEADER_SIZE ≤ 64 by decide)).mpr
      (fun _ => by rw [hCount]; exact hTable.ne)
      ⟨hHeld.checkElf_eq, rfl, by rw [hCount]; exact hTable.le⟩
  rw [hFound, hCount]

end Kernel

end Elf

end Chihuahua
