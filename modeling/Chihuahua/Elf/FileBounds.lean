import Chihuahua.Elf.Loader

/-
  The checks of the loader against the size of the file.

  The checks add in 64 bits, so an end beyond 2^64 looks
  small.

  Main declarations:
    * `FileBounds` and `NoOffsetWraps`
    * `fileBounds_iff`
-/

------------------------------------------------------------
-- Header Tables
------------------------------------------------------------

namespace Chihuahua

namespace Elf

open ByteMachine

namespace ElfLoader

variable (loader : ElfLoader)

/- The checks a table of headers has to pass. -/
structure AcceptsTable
    (m : Memory)
    (entrySize entriesNum : BitVec 16)
    (offset : BitVec 64)
    (size : Nat) : Prop where
  hElf : loader.checkElf m = .NoError
  hEntry : entrySize.toNat = size
  hEnd :
    offset +
        BitVec.ofInt 64 (entriesNum.toNat : Int) *
          BitVec.ofNat 64 size <
      loader.elfFileSize

/- What a getter can do. -/
inductive TableOutcome
    (m : Memory)
    (count : Int)
    (entrySize entriesNum : BitVec 16)
    (offset : BitVec 64)
    (size : Nat) : HeaderTable → Prop where
| badElf
    (hElf : loader.checkElf m ≠ .NoError) :
    TableOutcome m count entrySize entriesNum offset size
      { table := 0
        count := count
        error := loader.checkElf m }
| badEntry
    (hElf : loader.checkElf m = .NoError)
    (hEntry : entrySize.toNat ≠ size) :
    TableOutcome m count entrySize entriesNum offset size
      { table := 0
        count := count
        error := .ElfGenericError }
| tooLong
    (hElf : loader.checkElf m = .NoError)
    (hEntry : entrySize.toNat = size)
    (hEnd :
      ¬ offset +
            BitVec.ofInt 64 (entriesNum.toNat : Int) *
              BitVec.ofNat 64 size <
          loader.elfFileSize) :
    TableOutcome m count entrySize entriesNum offset size
      { table := 0
        count := entriesNum.toNat
        error := .ElfSizeExceeded }
| found
    (hAccepted :
      loader.AcceptsTable m entrySize entriesNum offset
        size) :
    TableOutcome m count entrySize entriesNum offset size
      { table := loader.elfFile + offset
        count := entriesNum.toNat
        error := .NoError }

theorem getHeaders_outcome
    (m : Memory)
    (count : Int)
    (entrySize entriesNum : BitVec 16)
    (offset : BitVec 64)
    (size : Nat) :
    loader.TableOutcome m count entrySize entriesNum offset
      size
      (loader.getHeaders m count entrySize entriesNum offset
        size) := by
  unfold getHeaders
  dsimp only
  split_ifs with hElf hEntry hEnd
  · exact .badElf hElf
  · exact .badEntry (not_not.mp hElf) hEntry
  · exact
      .tooLong (not_not.mp hElf) (not_not.mp hEntry)
        (BitVec.not_lt.mpr hEnd)
  · rw [not_not.mp hElf]
    exact
      .found
        ⟨not_not.mp hElf, not_not.mp hEntry,
          BitVec.not_le.mp hEnd⟩

/- Every byte of every entry of a table is in the file. -/
def TableInFile
    (found : HeaderTable)
    (offset : BitVec 64)
    (size : Nat) : Prop :=
  found.table ≠ 0 →
    ∀ i : Nat,
      offset.toNat ≤ i →
        (i : Int) < offset.toNat + found.count * size →
          i < loader.elfFileSize.toNat

theorem tableSize_toNat
    (entriesNum : BitVec 16)
    {size : Nat}
    (hSize : size ≤ 64) :
    (BitVec.ofInt 64 (entriesNum.toNat : Int) *
        BitVec.ofNat 64 size).toNat =
      entriesNum.toNat * size := by
  have hNum := entriesNum.isLt
  have hBound : entriesNum.toNat * size ≤ 65536 * 64 :=
    Nat.mul_le_mul hNum.le hSize
  rw [BitVec.ofInt_natCast, ← BitVec.ofNat_mul,
    BitVec.toNat_ofNat, Nat.mod_eq_of_lt (by omega)]

/- A table is in the file unless its end wraps around. -/
theorem tableInFile_iff
    (m : Memory)
    (count : Int)
    (entrySize entriesNum : BitVec 16)
    (offset : BitVec 64)
    {size : Nat}
    (hSize : size ≤ 64) :
    loader.TableInFile
        (loader.getHeaders m count entrySize entriesNum
          offset size)
        offset size ↔
      (loader.AcceptsTable m entrySize entriesNum offset
          size →
        loader.elfFile + offset ≠ 0 →
          offset.toNat + entriesNum.toNat * size < 2 ^ 64) := by
  have hTable := tableSize_toNat entriesNum hSize
  have hOffset := offset.isLt
  have hFile := loader.elfFileSize.isLt
  have hOutcome :=
    loader.getHeaders_outcome m count entrySize entriesNum
      offset size
  generalize
    loader.getHeaders m count entrySize entriesNum offset
        size =
      found at hOutcome ⊢
  unfold TableInFile
  cases hOutcome with
  | badElf hElf =>
      exact
        iff_of_true (fun hNull => absurd rfl hNull)
          (fun hAccepts => absurd hAccepts.hElf hElf)
  | badEntry _ hEntry =>
      exact
        iff_of_true (fun hNull => absurd rfl hNull)
          (fun hAccepts => absurd hAccepts.hEntry hEntry)
  | tooLong _ _ hEnd =>
      exact
        iff_of_true (fun hNull => absurd rfl hNull)
          (fun hAccepts => absurd hAccepts.hEnd hEnd)
  | found hAccepted =>
      have hEnd := hAccepted.hEnd
      rw [BitVec.lt_def, BitVec.toNat_add, hTable] at hEnd
      constructor
      · intro hInFile _ hPointer
        by_contra hWraps
        -- the last byte before 2^64 is in the table
        have hLast :=
          hInFile hPointer (2 ^ 64 - 1) (by omega) (by
            push_cast
            omega)
        omega
      · intro hFits hPointer i hFirst hLast
        have hSum := hFits hAccepted hPointer
        rw [Nat.mod_eq_of_lt hSum] at hEnd
        dsimp only at hLast
        have hLast' :
            i < offset.toNat + entriesNum.toNat * size := by
          exact_mod_cast hLast
        omega

------------------------------------------------------------
-- Segments
------------------------------------------------------------

/- The bytes a loaded segment is copied from are in the file. -/
def SegmentInFile
    (progHeader : Addr)
    (loaderCallback : LoaderFunction)
    (s : LoaderState) : Prop :=
  let header := readProgHeader s.mem progHeader
  (loader.loadExecutableProgram progHeader loaderCallback
      s).1 = .NoError →
    ∀ i : Nat,
      header.Offset.toNat ≤ i →
        i < header.Offset.toNat + header.SizeInFile.toNat →
          i < loader.elfFileSize.toNat

theorem loadExecutableProgram_noError_iff
    (progHeader : Addr)
    (loaderCallback : LoaderFunction)
    (s : LoaderState) :
    (loader.loadExecutableProgram progHeader loaderCallback
        s).1 = .NoError ↔
      loader.AcceptsSegment
        (readProgHeader s.mem progHeader)
        (segmentDest progHeader loaderCallback s) := by
  have hOutcome :=
    loader.loadExecutableProgram_outcome progHeader
      loaderCallback s
  generalize
    loader.loadExecutableProgram progHeader loaderCallback
        s =
      result at hOutcome ⊢
  cases hOutcome with
  | skipped hType =>
      exact
        iff_of_false nofun
          (fun hAccepts => hType hAccepts.hType)
  | noBuffer _ hDest =>
      exact
        iff_of_false nofun
          (fun hAccepts => hAccepts.hDest hDest)
  | tooLong _ _ hRefused =>
      exact iff_of_false nofun hRefused
  | loaded hAccepted => exact iff_of_true rfl hAccepted

theorem loadNoBitsSection_noError_iff
    (sectionHeader : Addr)
    (loaderCallback : LoaderFunction)
    (s : LoaderState) :
    (loader.loadNoBitsSection sectionHeader loaderCallback
        s).1 = .NoError ↔
      loader.AcceptsSection
        (readSectionHeader s.mem sectionHeader)
        (sectionDest sectionHeader loaderCallback s) := by
  have hOutcome :=
    loader.loadNoBitsSection_outcome sectionHeader
      loaderCallback s
  generalize
    loader.loadNoBitsSection sectionHeader loaderCallback
        s =
      result at hOutcome ⊢
  cases hOutcome with
  | skipped hNoBits =>
      exact
        iff_of_false nofun
          (fun hAccepts => hNoBits hAccepts.hNoBits)
  | tooLong _ hRefused =>
      exact iff_of_false nofun (hRefused _)
  | noBuffer _ hDest =>
      exact
        iff_of_false nofun
          (fun hAccepts => hAccepts.hDest hDest)
  | loaded hAccepted => exact iff_of_true rfl hAccepted

theorem segmentInFile_iff
    (progHeader : Addr)
    (loaderCallback : LoaderFunction)
    (s : LoaderState) :
    loader.SegmentInFile progHeader loaderCallback s ↔
      (loader.AcceptsSegment
          (readProgHeader s.mem progHeader)
          (segmentDest progHeader loaderCallback s) →
        (readProgHeader s.mem progHeader).Offset.toNat +
            (readProgHeader s.mem
              progHeader).SizeInFile.toNat <
          2 ^ 64) := by
  unfold SegmentInFile
  dsimp only
  rw [loadExecutableProgram_noError_iff]
  apply imp_congr_right
  intro hAccepts
  have hOffset :=
    (readProgHeader s.mem progHeader).Offset.isLt
  have hFile := loader.elfFileSize.isLt
  have hEnd := hAccepts.hInFile
  rw [BitVec.lt_def, BitVec.toNat_add] at hEnd
  constructor
  · intro hInFile
    by_contra hWraps
    have hLast :=
      hInFile (2 ^ 64 - 1) (by omega) (by omega)
    omega
  · intro hFits i hFirst hLast
    rw [Nat.mod_eq_of_lt hFits] at hEnd
    omega

------------------------------------------------------------
-- All Reads From the File
------------------------------------------------------------

/- The file-side bounds of the getters and of a segment. -/
structure FileBounds
    (numProgHeaders numSectionHeaders : Int)
    (progHeader : Addr)
    (loaderCallback : LoaderFunction)
    (s : LoaderState) : Prop where
  hProgHeaders :
    loader.TableInFile
      (loader.getProgramHeaders s.mem numProgHeaders)
      (readElfHeader s.mem loader.elfFile).ProgHeaderOffset
      PROG_HEADER_SIZE
  hSectionHeaders :
    loader.TableInFile
      (loader.getSectionHeaders s.mem numSectionHeaders)
      (readElfHeader s.mem
        loader.elfFile).SectionHeaderOffset
      SECTION_HEADER_SIZE
  hSegment :
    loader.SegmentInFile progHeader loaderCallback s

/-
  No end of a table or of a segment that passes the checks
  reaches 2^64. The two tables are those of the ELF header.
-/
structure NoOffsetWraps
    (progHeader : Addr)
    (loaderCallback : LoaderFunction)
    (s : LoaderState) : Prop where
  hProgHeaders :
    let header := readElfHeader s.mem loader.elfFile
    loader.AcceptsTable s.mem header.ProgHeaderEntrySize
        header.ProgHeaderTableEntriesNum
        header.ProgHeaderOffset PROG_HEADER_SIZE →
      loader.elfFile + header.ProgHeaderOffset ≠ 0 →
        header.ProgHeaderOffset.toNat +
            header.ProgHeaderTableEntriesNum.toNat *
              PROG_HEADER_SIZE <
          2 ^ 64
  hSectionHeaders :
    let header := readElfHeader s.mem loader.elfFile
    loader.AcceptsTable s.mem header.SectionHeaderEntrySize
        header.SectionHeaderTableEntriesNum
        header.SectionHeaderOffset SECTION_HEADER_SIZE →
      loader.elfFile + header.SectionHeaderOffset ≠ 0 →
        header.SectionHeaderOffset.toNat +
            header.SectionHeaderTableEntriesNum.toNat *
              SECTION_HEADER_SIZE <
          2 ^ 64
  hSegment :
    let header := readProgHeader s.mem progHeader
    loader.AcceptsSegment header
        (segmentDest progHeader loaderCallback s) →
      header.Offset.toNat + header.SizeInFile.toNat < 2 ^ 64

theorem fileBounds_iff
    (numProgHeaders numSectionHeaders : Int)
    (progHeader : Addr)
    (loaderCallback : LoaderFunction)
    (s : LoaderState) :
    loader.FileBounds numProgHeaders numSectionHeaders
        progHeader loaderCallback s ↔
      loader.NoOffsetWraps progHeader loaderCallback s := by
  constructor
  · rintro ⟨hProg, hSection, hSegment⟩
    exact
      ⟨(loader.tableInFile_iff _ _ _ _ _ (by decide)).mp
        hProg,
        (loader.tableInFile_iff _ _ _ _ _ (by decide)).mp
          hSection,
        (loader.segmentInFile_iff _ _ _).mp hSegment⟩
  · rintro ⟨hProg, hSection, hSegment⟩
    exact
      ⟨(loader.tableInFile_iff _ _ _ _ _ (by decide)).mpr
        hProg,
        (loader.tableInFile_iff _ _ _ _ _ (by decide)).mpr
          hSection,
        (loader.segmentInFile_iff _ _ _).mpr hSegment⟩

end ElfLoader

/- The ELF header of a file without segments or sections. -/
def sampleElfHeader
    (progHeaderOffset : BitVec 64)
    (entriesNum : Byte) : List Byte :=
  [0x7F, 0x45, 0x4C, 0x46, 2, 1, 1, 0,
    0, 0, 0, 0, 0, 0, 0, 0,
    2, 0, 0x3E, 0, 1, 0, 0, 0,
    0, 0, 0, 0, 0, 0, 0, 0] ++
  (List.range 8).map
    (fun i => progHeaderOffset.extractLsb' (8 * i) 8) ++
  [64, 0, 0, 0, 0, 0, 0, 0,
    0, 0, 0, 0, 64, 0, 56, 0,
    entriesNum, 0, 64, 0, 0, 0, 0, 0]

/- A file at address 0x1000, and zeros around it. -/
def sampleFile (bytes : List Byte) : LoaderState where
  machine :=
    { mem := fun a => bytes.getD (a - 0x1000).toNat 0
      stores := [] }
  calls := []

def sampleLoader (size : BitVec 64) : ElfLoader where
  elfFile := 0x1000
  elfFileSize := size

/-
  A table of two program headers that ends 56 bytes past
  2^64 is taken to end in a file of 64 bytes.
-/
theorem fileBounds_fails :
    ¬ (sampleLoader 64).FileBounds 0 0 0x1000
      (fun _ _ _ _ => 0)
      (sampleFile (sampleElfHeader (-56) 2)) := by
  intro hBounds
  have hTable :
      ((sampleLoader 64).getProgramHeaders
        (sampleFile (sampleElfHeader (-56) 2)).mem
        0).table ≠ 0 := by
    decide +kernel
  have hLast :=
    hBounds.hProgHeaders hTable (2 ^ 64 - 1)
      (by decide +kernel) (by decide +kernel)
  revert hLast
  decide

end Elf

end Chihuahua
