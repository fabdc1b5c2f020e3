import Chihuahua.Elf.FileBounds

/-
  Which tables, segments and sections of a file are found
  and loaded.

  A table is not found when it ends where the file ends. A
  segment is refused when its end in memory, and a section
  without bytes when its size, does not fit into the file.

  Main declarations:
    * `TablesFound` and `TablesEndEarly`
    * `tablesFound_iff`
    * `HasNoBytes` and `isNoBits_iff`
    * `FittingSegment` and `FittingSection`
    * `loaded_iff_ends_in_file`
-/

------------------------------------------------------------
-- Tables in the File
------------------------------------------------------------

namespace Chihuahua

namespace Elf

open ByteMachine

namespace ElfLoader

variable (loader : ElfLoader)

/-
  The table of a good ELF header, with entries of the right
  size. Its exact end is the end of the file or before it.
-/
structure TableWithin
    (m : Memory)
    (entrySize entriesNum : BitVec 16)
    (offset : BitVec 64)
    (size : Nat) : Prop where
  hElf : loader.checkElf m = .NoError
  hEntry : entrySize.toNat = size
  hEnd :
    offset.toNat + entriesNum.toNat * size ≤
      loader.elfFileSize.toNat

/- A getter finds a table that lies inside the file. -/
def TableFound
    (found : HeaderTable)
    (m : Memory)
    (entrySize entriesNum : BitVec 16)
    (offset : BitVec 64)
    (size : Nat) : Prop :=
  loader.TableWithin m entrySize entriesNum offset size →
    found =
      { table := loader.elfFile + offset
        count := entriesNum.toNat
        error := .NoError }

/- The end of the table is not that of the file. -/
def TableEndsEarly
    (m : Memory)
    (entrySize entriesNum : BitVec 16)
    (offset : BitVec 64)
    (size : Nat) : Prop :=
  loader.TableWithin m entrySize entriesNum offset size →
    offset.toNat + entriesNum.toNat * size ≠
      loader.elfFileSize.toNat

theorem TableWithin.acceptsTable_iff
    {loader : ElfLoader}
    {m : Memory}
    {entrySize entriesNum : BitVec 16}
    {offset : BitVec 64}
    {size : Nat}
    (hWithin :
      loader.TableWithin m entrySize entriesNum offset size)
    (hSize : size ≤ 64) :
    loader.AcceptsTable m entrySize entriesNum offset size ↔
      offset.toNat + entriesNum.toNat * size ≠
        loader.elfFileSize.toNat := by
  have hEnd := hWithin.hEnd
  have hFile := loader.elfFileSize.isLt
  have hSum :
      (offset +
            BitVec.ofInt 64 (entriesNum.toNat : Int) *
              BitVec.ofNat 64 size).toNat =
        offset.toNat + entriesNum.toNat * size := by
    rw [BitVec.toNat_add, tableSize_toNat entriesNum hSize,
      Nat.mod_eq_of_lt (by omega)]
  constructor
  · intro hAccepts hLast
    have hBefore := hAccepts.hEnd
    rw [BitVec.lt_def, hSum] at hBefore
    omega
  · intro hOther
    refine ⟨hWithin.hElf, hWithin.hEntry, ?_⟩
    rw [BitVec.lt_def, hSum]
    omega

/- A table inside the file is found unless it is the last. -/
theorem tableFound_iff
    (m : Memory)
    (count : Int)
    (entrySize entriesNum : BitVec 16)
    (offset : BitVec 64)
    {size : Nat}
    (hSize : size ≤ 64) :
    loader.TableFound
        (loader.getHeaders m count entrySize entriesNum
          offset size)
        m entrySize entriesNum offset size ↔
      loader.TableEndsEarly m entrySize entriesNum offset
        size := by
  unfold TableFound TableEndsEarly
  apply imp_congr_right
  intro hWithin
  rw [← hWithin.acceptsTable_iff hSize]
  have hOutcome :=
    loader.getHeaders_outcome m count entrySize entriesNum
      offset size
  generalize
    loader.getHeaders m count entrySize entriesNum offset
        size =
      found at hOutcome ⊢
  cases hOutcome with
  | badElf hElf => exact absurd hWithin.hElf hElf
  | badEntry _ hEntry => exact absurd hWithin.hEntry hEntry
  | tooLong _ _ hEnd =>
      constructor
      · intro hFound
        exact absurd (congrArg HeaderTable.error hFound) nofun
      · intro hAccepts
        exact absurd hAccepts.hEnd hEnd
  | found hAccepted => exact iff_of_true rfl hAccepted

/- What both getters return, for tables inside the file. -/
structure TablesFound
    (numProgHeaders numSectionHeaders : Int)
    (m : Memory) : Prop where
  hProgHeaders :
    let header := readElfHeader m loader.elfFile
    loader.TableFound
      (loader.getProgramHeaders m numProgHeaders) m
      header.ProgHeaderEntrySize
      header.ProgHeaderTableEntriesNum
      header.ProgHeaderOffset PROG_HEADER_SIZE
  hSectionHeaders :
    let header := readElfHeader m loader.elfFile
    loader.TableFound
      (loader.getSectionHeaders m numSectionHeaders) m
      header.SectionHeaderEntrySize
      header.SectionHeaderTableEntriesNum
      header.SectionHeaderOffset SECTION_HEADER_SIZE

/- Neither table is the last thing in the file. -/
structure TablesEndEarly (m : Memory) : Prop where
  hProgHeaders :
    let header := readElfHeader m loader.elfFile
    loader.TableEndsEarly m header.ProgHeaderEntrySize
      header.ProgHeaderTableEntriesNum
      header.ProgHeaderOffset PROG_HEADER_SIZE
  hSectionHeaders :
    let header := readElfHeader m loader.elfFile
    loader.TableEndsEarly m header.SectionHeaderEntrySize
      header.SectionHeaderTableEntriesNum
      header.SectionHeaderOffset SECTION_HEADER_SIZE

theorem tablesFound_iff
    (numProgHeaders numSectionHeaders : Int)
    (m : Memory) :
    loader.TablesFound numProgHeaders numSectionHeaders m ↔
      loader.TablesEndEarly m := by
  constructor
  · rintro ⟨hProg, hSection⟩
    exact
      ⟨(loader.tableFound_iff _ _ _ _ _ (by decide)).mp
        hProg,
        (loader.tableFound_iff _ _ _ _ _ (by decide)).mp
          hSection⟩
  · rintro ⟨hProg, hSection⟩
    exact
      ⟨(loader.tableFound_iff _ _ _ _ _ (by decide)).mpr
        hProg,
        (loader.tableFound_iff _ _ _ _ _ (by decide)).mpr
          hSection⟩

end ElfLoader

/-
  A file of 128 bytes that are its ELF header and, behind
  it, a table of one section header.
-/
theorem tablesFound_fails :
    ¬ (sampleLoader 128).TablesFound 0 0
        (sampleFile ((sampleElfHeader 64 0).set 60 1)).mem ∧
      (sampleLoader 128).getSectionHeaders
          (sampleFile
            ((sampleElfHeader 64 0).set 60 1)).mem
          0 =
        { table := 0
          count := 1
          error := .ElfSizeExceeded } := by
  have hTooLong :
      (sampleLoader 128).getSectionHeaders
          (sampleFile
            ((sampleElfHeader 64 0).set 60 1)).mem
          0 =
        { table := 0
          count := 1
          error := .ElfSizeExceeded } := by
    decide +kernel
  refine ⟨?_, hTooLong⟩
  intro hFound
  have hSection :=
    hFound.hSectionHeaders
      ⟨by decide +kernel, by decide +kernel,
        by decide +kernel⟩
  rw [hTooLong] at hSection
  exact
    absurd (congrArg ElfLoader.HeaderTable.error hSection)
      nofun

------------------------------------------------------------
-- What a File May Ask For
------------------------------------------------------------

/- An allocated section without bytes in the file. -/
structure HasNoBytes
    (header : Elf64_SectionHeader) : Prop where
  hType :
    header.SectionHeaderType = Elf_SectionType.SHT_NOBITS
  hAlloc : header.Flags &&& Elf_SectionFlags.SHF_ALLOC ≠ 0
  hSize : header.SectionSize ≠ 0

theorem hasNoBytes_iff
    (header : Elf64_SectionHeader) :
    HasNoBytes header ↔
      header.SectionHeaderType =
          Elf_SectionType.SHT_NOBITS ∧
        header.Flags &&& Elf_SectionFlags.SHF_ALLOC ≠ 0 ∧
        header.SectionSize ≠ 0 := by
  constructor
  · rintro ⟨hType, hAlloc, hSize⟩
    exact ⟨hType, hAlloc, hSize⟩
  · rintro ⟨hType, hAlloc, hSize⟩
    exact ⟨hType, hAlloc, hSize⟩

instance
    (header : Elf64_SectionHeader) :
    Decidable (HasNoBytes header) :=
  decidable_of_iff _ (hasNoBytes_iff header).symm

/- The flag is one of those the narrowed test still sees. -/
theorem setWidth_and_alloc_ne_zero_iff
    (flags : BitVec 64) :
    flags.setWidth 32 &&&
          Elf_SectionFlags.SHF_ALLOC.setWidth 32 ≠
        0 ↔
      flags &&& Elf_SectionFlags.SHF_ALLOC ≠ 0 := by
  have hNarrow :
      flags.setWidth 32 &&&
          Elf_SectionFlags.SHF_ALLOC.setWidth 32 =
        (flags &&& Elf_SectionFlags.SHF_ALLOC).setWidth 32 :=
    (BitVec.setWidth_and).symm
  have hSmall :
      (flags &&& Elf_SectionFlags.SHF_ALLOC).toNat ≤ 2 := by
    rw [BitVec.toNat_and]
    exact Nat.and_le_right
  rw [hNarrow, not_iff_not, ← BitVec.toNat_inj,
    ← BitVec.toNat_inj, BitVec.toNat_setWidth,
    Nat.mod_eq_of_lt (by omega)]
  rfl

/- The narrowed test of the flags makes no difference. -/
theorem isNoBits_iff
    (header : Elf64_SectionHeader) :
    ElfLoader.IsNoBits header ↔ HasNoBytes header := by
  have hAlloc :=
    setWidth_and_alloc_ne_zero_iff header.Flags
  constructor
  · rintro ⟨hType, hSize, hNarrow⟩
    exact ⟨hType, hAlloc.mp hNarrow, hSize⟩
  · rintro ⟨hType, hWide, hSize⟩
    exact ⟨hType, hSize, hAlloc.mpr hWide⟩

namespace ElfLoader

variable (loader : ElfLoader)

/- A loadable segment whose bytes are all in the file. -/
structure FittingSegment
    (header : Elf64_ProgHeader) : Prop where
  hType : header.SegmentType = Elf_SegmentType.PT_LOAD
  hFile :
    header.Offset.toNat + header.SizeInFile.toNat ≤
      loader.elfFileSize.toNat
  hOrder :
    header.SizeInFile.toNat ≤ header.SizeInMemory.toNat
  hSize : header.SizeInMemory.toNat < 2 ^ 31

/- An allocated section that has no bytes in the file. -/
structure FittingSection
    (header : Elf64_SectionHeader) : Prop where
  hType :
    header.SectionHeaderType = Elf_SectionType.SHT_NOBITS
  hAlloc : header.Flags &&& Elf_SectionFlags.SHF_ALLOC ≠ 0
  hPos : 0 < header.SectionSize.toNat
  hSize : header.SectionSize.toNat < 2 ^ 31

theorem FittingSection.hasNoBytes
    {header : Elf64_SectionHeader}
    (hFits : FittingSection header) :
    HasNoBytes header where
  hType := hFits.hType
  hAlloc := hFits.hAlloc
  hSize := by
    intro hZero
    have hPos := hFits.hPos
    rw [hZero] at hPos
    exact absurd hPos (by decide)

------------------------------------------------------------
-- What Is Loaded
------------------------------------------------------------

variable {loader}

theorem acceptsSegment_iff
    (hFile : loader.elfFileSize.toNat < 2 ^ 31)
    {header : Elf64_ProgHeader}
    {dest : Addr}
    (hFits : loader.FittingSegment header)
    (hDest : dest ≠ 0) :
    loader.AcceptsSegment header dest ↔
      header.Offset.toNat + header.SizeInMemory.toNat <
        loader.elfFileSize.toNat := by
  have hInFile := hFits.hFile
  have hOrder := hFits.hOrder
  have hSize := hFits.hSize
  constructor
  · intro hAccepts
    have hEnd := hAccepts.hInMemory
    rwa [BitVec.lt_def, BitVec.toNat_add,
      Nat.mod_eq_of_lt (by omega)] at hEnd
  · intro hEnd
    refine ⟨hFits.hType, hDest, ?_, ?_, ?_⟩
    · rw [BitVec.lt_def]
      omega
    · rw [BitVec.lt_def, BitVec.toNat_add,
        Nat.mod_eq_of_lt (by omega)]
      omega
    · rw [BitVec.lt_def, BitVec.toNat_add,
        Nat.mod_eq_of_lt (by omega)]
      exact hEnd

theorem acceptsSection_iff
    (hFile : loader.elfFileSize.toNat < 2 ^ 31)
    {header : Elf64_SectionHeader}
    {dest : Addr}
    (hFits : FittingSection header)
    (hDest : dest ≠ 0) :
    loader.AcceptsSection header dest ↔
      header.OffsetInFile.toNat + header.SectionSize.toNat <
        loader.elfFileSize.toNat := by
  have hSize := hFits.hSize
  constructor
  · intro hAccepts
    have hOffset := hAccepts.hOffset
    have hEnd := hAccepts.hEnd
    rw [BitVec.lt_def] at hOffset
    rwa [BitVec.lt_def, BitVec.toNat_add,
      Nat.mod_eq_of_lt (by omega)] at hEnd
  · intro hEnd
    refine
      ⟨(isNoBits_iff header).mpr hFits.hasNoBytes, hDest, ?_,
        ?_⟩
    · rw [BitVec.lt_def]
      omega
    · rw [BitVec.lt_def, BitVec.toNat_add,
        Nat.mod_eq_of_lt (by omega)]
      exact hEnd

/-
  A segment that fits into the file is loaded exactly when
  its end in memory fits as well, and a section without
  bytes exactly when it would fit if it had some.
-/
theorem loaded_iff_ends_in_file
    (hFile : loader.elfFileSize.toNat < 2 ^ 31) :
    (∀ progHeader loaderCallback s,
      let header := readProgHeader s.mem progHeader
      loader.FittingSegment header →
        segmentDest progHeader loaderCallback s ≠ 0 →
          ((loader.loadExecutableProgram progHeader
              loaderCallback s).1 = .NoError ↔
            header.Offset.toNat +
                header.SizeInMemory.toNat <
              loader.elfFileSize.toNat)) ∧
      ∀ sectionHeader loaderCallback s,
        let header := readSectionHeader s.mem sectionHeader
        FittingSection header →
          sectionDest sectionHeader loaderCallback s ≠ 0 →
            ((loader.loadNoBitsSection sectionHeader
                loaderCallback s).1 = .NoError ↔
              header.OffsetInFile.toNat +
                  header.SectionSize.toNat <
                loader.elfFileSize.toNat) := by
  constructor
  · intro progHeader loaderCallback s header hFits hDest
    rw [loadExecutableProgram_noError_iff]
    exact acceptsSegment_iff hFile hFits hDest
  · intro sectionHeader loaderCallback s header hFits hDest
    rw [loadNoBitsSection_noError_iff]
    exact acceptsSection_iff hFile hFits hDest

end ElfLoader

open ElfLoader

/- A program header followed by a section header. -/
def sampleHeaders
    (sizeInFile sizeInMemory sectionSize : Byte) :
    List Byte :=
  [1, 0, 0, 0, 5, 0, 0, 0,
    0, 0, 0, 0, 0, 0, 0, 0,
    0, 0, 0x10, 0, 0, 0, 0, 0,
    0, 0, 0, 0, 0, 0, 0, 0,
    sizeInFile, 0, 0, 0, 0, 0, 0, 0,
    sizeInMemory, 0, 0, 0, 0, 0, 0, 0,
    0, 0x10, 0, 0, 0, 0, 0, 0] ++
  [0, 0, 0, 0, 8, 0, 0, 0,
    2, 0, 0, 0, 0, 0, 0, 0,
    0, 0, 0x20, 0, 0, 0, 0, 0,
    0, 0, 0, 0, 0, 0, 0, 0,
    sectionSize, 0, 0, 0, 0, 0, 0, 0]

/- A callback whose buffers are at ever higher addresses. -/
def sampleCallback : LoaderFunction :=
  fun calls _ _ _ =>
    0x100000 * BitVec.ofNat 64 (calls.length + 1)

theorem loaded_iff_ends_in_file_sample :
    (((sampleLoader 128).loadExecutableProgram 0x1000
          sampleCallback
          (sampleFile (sampleHeaders 16 32 16))).1 =
        .NoError ↔
      0 + 32 < 128) ∧
      (((sampleLoader 128).loadNoBitsSection 0x1038
            sampleCallback
            (sampleFile (sampleHeaders 16 32 16))).1 =
          .NoError ↔
        0 + 16 < 128) := by
  have hFile :
      (sampleLoader 128).elfFileSize.toNat < 2 ^ 31 := by
    decide
  constructor
  · exact
      (loaded_iff_ends_in_file hFile).1 0x1000
        sampleCallback
        (sampleFile (sampleHeaders 16 32 16))
        ⟨by decide +kernel, by decide +kernel,
          by decide +kernel, by decide +kernel⟩
        (by decide +kernel)
  · exact
      (loaded_iff_ends_in_file hFile).2 0x1038
        sampleCallback
        (sampleFile (sampleHeaders 16 32 16))
        ⟨by decide +kernel, by decide +kernel,
          by decide +kernel, by decide +kernel⟩
        (by decide +kernel)

/-
  In a file of 128 bytes, a segment of 16 bytes that takes
  128 in memory is refused, and so is a section of 128 bytes
  that takes none in the file.
-/
theorem loaded_fails :
    (sampleLoader 128).FittingSegment
        (readProgHeader
          (sampleFile (sampleHeaders 16 128 128)).mem
          0x1000) ∧
      FittingSection
        (readSectionHeader
          (sampleFile (sampleHeaders 16 128 128)).mem
          0x1038) ∧
      segmentDest 0x1000 sampleCallback
          (sampleFile (sampleHeaders 16 128 128)) ≠
        0 ∧
      sectionDest 0x1038 sampleCallback
          (sampleFile (sampleHeaders 16 128 128)) ≠
        0 ∧
      ((sampleLoader 128).loadExecutableProgram 0x1000
          sampleCallback
          (sampleFile (sampleHeaders 16 128 128))).1 =
        .ElfSizeExceeded ∧
      ((sampleLoader 128).loadNoBitsSection 0x1038
          sampleCallback
          (sampleFile (sampleHeaders 16 128 128))).1 =
        .ElfSizeExceeded := by
  refine ⟨⟨?_, ?_, ?_, ?_⟩, ⟨?_, ?_, ?_, ?_⟩, ?_⟩
  all_goals decide +kernel

end Elf

end Chihuahua
