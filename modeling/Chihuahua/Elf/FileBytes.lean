import Chihuahua.Elf.FileBounds

/-
  The loader on two memories with the same bytes of a file.
  What lies around the file matters only where the loader
  reads it.

  Main declarations:
    * `InFile` and `LoadersAlike`
    * `loadExecutableProgram_alike` and
      `loadNoBitsSection_alike`
    * `TableEnds` and `entry_inFile`
    * `RefusedByFile` and `checkElf_of_refused`
    * `HeaderKnown` and `HeaderKnown.same`
-/

------------------------------------------------------------
-- Alike Memories
------------------------------------------------------------

namespace Chihuahua

namespace Elf

open ByteMachine Machine Essentials

namespace ElfLoader

variable (loader : ElfLoader)

/- The bytes of the file. -/
def InFile (b : Addr) : Prop :=
  InRange loader.elfFile loader.elfFileSize.toNat b

/- The same calls so far, and the same file. -/
structure LoadersAlike (s s' : LoaderState) : Prop where
  hMachine : Alike loader.InFile s.machine s'.machine
  hCalls : s'.calls = s.calls

variable {loader} {s s' : LoaderState}

theorem LoadersAlike.mem_eq
    (hAlike : loader.LoadersAlike s s')
    {b : Addr}
    (hFile : loader.InFile b) :
    s'.mem b = s.mem b :=
  hAlike.hMachine.hSeen b hFile

/- The callback is asked the same, and answers the same. -/
theorem LoadersAlike.callback
    (hAlike : loader.LoadersAlike s s')
    (fn : LoaderFunction)
    (memorySize : Int)
    (virtAddress : Elf64_Addr)
    (segmentFlags : Elf_SegmentFlags) :
    (s'.callback fn memorySize virtAddress segmentFlags).1 =
        (s.callback fn memorySize virtAddress
          segmentFlags).1 ∧
      loader.LoadersAlike
        (s.callback fn memorySize virtAddress
          segmentFlags).2
        (s'.callback fn memorySize virtAddress
          segmentFlags).2 := by
  unfold LoaderState.callback
  dsimp only
  rw [hAlike.hCalls]
  exact ⟨rfl, hAlike.hMachine, rfl⟩

------------------------------------------------------------
-- Loading
------------------------------------------------------------

/- The bytes a segment is copied from, if its end is one. -/
theorem segmentSource_inFile
    {header : Elf64_ProgHeader}
    {dest : Addr}
    (hAccepts : loader.AcceptsSegment header dest)
    (hEnd :
      header.Offset.toNat + header.SizeInFile.toNat < 2 ^ 64)
    {b : Addr}
    (hSource :
      InRange (loader.elfFile + header.Offset)
        header.SizeInFile.toNat b) :
    loader.InFile b := by
  have hInFile := hAccepts.hInFile
  rw [BitVec.lt_def, BitVec.toNat_add,
    Nat.mod_eq_of_lt hEnd] at hInFile
  have hOffset :
      header.Offset =
        BitVec.ofNat 64 header.Offset.toNat := by
    simp
  rw [hOffset] at hSource
  have hPart :=
    (inRange_add_iff loader.elfFile b (by omega)).mp hSource
  unfold InFile InRange
  omega

theorem fillSegment_alike
    {header : Elf64_ProgHeader}
    {progHeader dest : Addr}
    (hAccepts : loader.AcceptsSegment header dest)
    (hEnd :
      header.Offset.toNat + header.SizeInFile.toNat < 2 ^ 64)
    (hHeader :
      ∀ b,
        InRange progHeader PROG_HEADER_SIZE b →
          loader.InFile b)
    {machine machine' : Machine}
    (hAlike : Alike loader.InFile machine machine') :
    Alike loader.InFile
      (loader.fillSegment header progHeader dest machine)
      (loader.fillSegment header progHeader dest
        machine') := by
  have hCopied :=
    memcpy_alike dest
      (fun _ => segmentSource_inFile hAccepts hEnd) hAlike
  unfold fillSegment
  dsimp only
  generalize
    (memcpy dest (loader.elfFile + header.Offset)
      header.SizeInFile machine).2 =
      copied at hCopied ⊢
  generalize
    (memcpy dest (loader.elfFile + header.Offset)
      header.SizeInFile machine').2 =
      copied' at hCopied ⊢
  have hSame :
      readProgHeader copied'.mem progHeader =
        readProgHeader copied.mem progHeader :=
    readProgHeader_congr
      (fun b hRange => hCopied.hSeen b (hHeader b hRange))
  rw [hSame]
  split_ifs
  · exact memset_alike _ _ _ hCopied
  · exact hCopied

theorem loadExecutableProgram_alike
    {progHeader : Addr}
    {fn : LoaderFunction}
    (hHeader :
      ∀ b,
        InRange progHeader PROG_HEADER_SIZE b →
          loader.InFile b)
    (hEnd :
      let header := readProgHeader s.mem progHeader
      loader.AcceptsSegment header
          (segmentDest progHeader fn s) →
        header.Offset.toNat + header.SizeInFile.toNat <
          2 ^ 64)
    (hAlike : loader.LoadersAlike s s') :
    (loader.loadExecutableProgram progHeader fn s').1 =
        (loader.loadExecutableProgram progHeader fn s).1 ∧
      loader.LoadersAlike
        (loader.loadExecutableProgram progHeader fn s).2
        (loader.loadExecutableProgram progHeader fn
          s').2 := by
  have hSame :
      readProgHeader s'.mem progHeader =
        readProgHeader s.mem progHeader :=
    readProgHeader_congr
      (fun b hRange => hAlike.mem_eq (hHeader b hRange))
  have hCallback :=
    hAlike.callback fn
      (toInt (readProgHeader s.mem progHeader).SizeInMemory)
      (readProgHeader s.mem progHeader).VirtAddress
      (readProgHeader s.mem progHeader).Flags
  unfold loadExecutableProgram
  dsimp only
  rw [hSame, hCallback.1]
  split_ifs with hType hDest hSize
  · exact ⟨rfl, hAlike⟩
  · exact ⟨rfl, hCallback.2⟩
  · exact ⟨rfl, hCallback.2⟩
  · rcases not_or.mp hSize with ⟨hOffset, hEnds⟩
    rcases not_or.mp hEnds with ⟨hInFile, hInMemory⟩
    have hAccepts :
        loader.AcceptsSegment
          (readProgHeader s.mem progHeader)
          (segmentDest progHeader fn s) :=
      ⟨not_not.mp hType, hDest, BitVec.not_le.mp hOffset,
        BitVec.not_le.mp hInFile,
        BitVec.not_le.mp hInMemory⟩
    refine ⟨rfl, ?_, hCallback.2.hCalls⟩
    exact
      fillSegment_alike hAccepts (hEnd hAccepts) hHeader
        hCallback.2.hMachine

/- A section is only cleared, so nothing else is read. -/
theorem loadNoBitsSection_alike
    {sectionHeader : Addr}
    {fn : LoaderFunction}
    (hHeader :
      ∀ b,
        InRange sectionHeader SECTION_HEADER_SIZE b →
          loader.InFile b)
    (hAlike : loader.LoadersAlike s s') :
    (loader.loadNoBitsSection sectionHeader fn s').1 =
        (loader.loadNoBitsSection sectionHeader fn s).1 ∧
      loader.LoadersAlike
        (loader.loadNoBitsSection sectionHeader fn s).2
        (loader.loadNoBitsSection sectionHeader fn s').2 := by
  have hSame :
      readSectionHeader s'.mem sectionHeader =
        readSectionHeader s.mem sectionHeader :=
    readSectionHeader_congr
      (fun b hRange => hAlike.mem_eq (hHeader b hRange))
  have hCallback :=
    hAlike.callback fn
      (toInt
        (readSectionHeader s.mem sectionHeader).SectionSize)
      (readSectionHeader s.mem sectionHeader).VirtualAddress
      (Elf_SegmentFlags.PF_R ||| Elf_SegmentFlags.PF_W)
  unfold loadNoBitsSection
  dsimp only
  rw [hSame, hCallback.1]
  split_ifs
  · exact ⟨rfl, hAlike⟩
  · exact ⟨rfl, hAlike⟩
  · exact ⟨rfl, hCallback.2⟩
  · refine ⟨rfl, ?_, hCallback.2.hCalls⟩
    exact memset_alike _ _ _ hCallback.2.hMachine

------------------------------------------------------------
-- Tables
------------------------------------------------------------

/- A table that passes the checks does not wrap around. -/
def TableEnds
    (loader : ElfLoader)
    (m : Memory)
    (entrySize entriesNum : BitVec 16)
    (offset : BitVec 64)
    (size : Nat) : Prop :=
  loader.AcceptsTable m entrySize entriesNum offset size →
    loader.elfFile + offset ≠ 0 →
      offset.toNat + entriesNum.toNat * size < 2 ^ 64

/- Then each of its entries is in the file. -/
theorem entry_inFile
    {m : Memory}
    {entrySize entriesNum : BitVec 16}
    {offset : BitVec 64}
    {size : Nat}
    (hSize : size ≤ 64)
    (hAccepts :
      loader.AcceptsTable m entrySize entriesNum offset size)
    (hEnd :
      offset.toNat + entriesNum.toNat * size < 2 ^ 64)
    {i : Nat}
    (hIndex : i < entriesNum.toNat)
    {b : Addr}
    (hEntry :
      InRange
        (loader.elfFile + offset +
          BitVec.ofNat 64 (size * i))
        size b) :
    loader.InFile b := by
  have hTable := hAccepts.hEnd
  rw [BitVec.lt_def, BitVec.toNat_add,
    tableSize_toNat entriesNum hSize,
    Nat.mod_eq_of_lt hEnd] at hTable
  have hLast :
      size * i + size ≤ entriesNum.toNat * size := by
    calc
      size * i + size = (i + 1) * size := by ring
      _ ≤ entriesNum.toNat * size :=
        Nat.mul_le_mul_right size hIndex
  have hAddress :
      loader.elfFile + offset + BitVec.ofNat 64 (size * i) =
        loader.elfFile +
          BitVec.ofNat 64 (offset.toNat + size * i) := by
    rw [BitVec.ofNat_add, BitVec.ofNat_toNat,
      BitVec.setWidth_eq, BitVec.add_assoc]
  rw [hAddress] at hEntry
  have hPart :=
    (inRange_add_iff loader.elfFile b (by omega)).mp hEntry
  unfold InFile InRange
  omega

/- The getters read the ELF header and nothing else. -/
theorem getProgramHeaders_congr
    {m m' : Memory}
    (hSame :
      ∀ b, InRange loader.elfFile ELF_HEADER_SIZE b →
        m' b = m b)
    (numProgHeaders : Int) :
    loader.getProgramHeaders m' numProgHeaders =
      loader.getProgramHeaders m numProgHeaders := by
  have hHeader := readElfHeader_congr hSame
  unfold getProgramHeaders getHeaders checkElf
  rw [hHeader]

theorem checkElf_congr
    {m m' : Memory}
    (hSame :
      ∀ b, InRange loader.elfFile ELF_HEADER_SIZE b →
        m' b = m b) :
    loader.checkElf m' = loader.checkElf m := by
  unfold checkElf
  rw [readElfHeader_congr hSame]

------------------------------------------------------------
-- Short Files
------------------------------------------------------------

/- The bytes `checkElf` asks for; the first four are magic. -/
def checkedBytes : List (Nat × Byte) :=
  [(0, ELF_MAG0), (1, ELF_MAG1), (2, ELF_MAG2),
    (3, ELF_MAG3), (4, 2), (6, 1), (16, 2), (17, 0),
    (18, 0x3E), (19, 0), (20, 1), (21, 0), (22, 0), (23, 0)]

def HasByte
    (loader : ElfLoader)
    (m : Memory)
    (byte : Nat × Byte) : Prop :=
  m (loader.elfFile + BitVec.ofNat 64 byte.1) = byte.2

/- Some byte of the file is not the one that is asked for. -/
def RefusedByFile
    (loader : ElfLoader)
    (m : Memory) : Prop :=
  ∃ byte ∈ checkedBytes,
    byte.1 < loader.elfFileSize.toNat ∧
      ¬ loader.HasByte m byte

theorem checkElf_eq_corrupted_iff
    (m : Memory) :
    loader.checkElf m = .ElfHeaderCorrupted ↔
      ¬ ∀ byte ∈ checkedBytes.take 4,
        loader.HasByte m byte := by
  have hMagic :
      (∀ byte ∈ checkedBytes.take 4,
          loader.HasByte m byte) ↔
        loader.HasByte m (0, ELF_MAG0) ∧
          loader.HasByte m (1, ELF_MAG1) ∧
          loader.HasByte m (2, ELF_MAG2) ∧
          loader.HasByte m (3, ELF_MAG3) := by
    simp [checkedBytes]
  rw [hMagic, not_and_or, not_and_or, not_and_or]
  unfold checkElf
  dsimp only
  split_ifs with hWrong hType
  · exact iff_of_true rfl hWrong
  · exact iff_of_false nofun hWrong
  · exact iff_of_false nofun hWrong

theorem checkElf_values
    (loader : ElfLoader)
    (m : Memory) :
    loader.checkElf m = .NoError ∨
      loader.checkElf m = .ElfHeaderCorrupted ∨
      loader.checkElf m = .ElfTypeNotSupported := by
  unfold checkElf
  dsimp only
  split_ifs <;> simp

/- A byte of a field that is what it should be. -/
theorem hasByte_of_load
    {m : Memory}
    {offset : Addr}
    {n : Nat}
    {v : BitVec (8 * n)}
    (hLoad : m.load (loader.elfFile + offset) n = v)
    {i : Nat}
    (hi : i < n) :
    loader.HasByte m
      (offset.toNat + i, v.extractLsb' (8 * i) 8) := by
  have hAddress :
      loader.elfFile + BitVec.ofNat 64 (offset.toNat + i) =
        loader.elfFile + offset + BitVec.ofNat 64 i := by
    rw [BitVec.ofNat_add, BitVec.ofNat_toNat,
      BitVec.setWidth_eq, BitVec.add_assoc]
  unfold HasByte
  dsimp only
  rw [hAddress, ← Memory.extractLsb'_load m _ hi, hLoad]

theorem hasByte_of_noError
    {m : Memory}
    (hElf : loader.checkElf m = .NoError)
    {byte : Nat × Byte}
    (hByte : byte ∈ checkedBytes) :
    loader.HasByte m byte := by
  unfold checkElf at hElf
  dsimp only at hElf
  split_ifs at hElf with hMagic hFields
  rw [not_or, not_or, not_or, not_not, not_not, not_not,
    not_not] at hMagic
  rw [not_or, not_or, not_or, not_or, not_not, not_not,
    not_not, not_not, not_not] at hFields
  rcases hMagic with ⟨hMag0, hMag1, hMag2, hMag3⟩
  rcases hFields with
    ⟨hClass, hIdent, hVersion, hMachine, hType⟩
  have hTypeLoad :
      m.load (loader.elfFile + 16) 2 =
        Elf_Type.ET_EXEC :=
    hType
  have hMachineLoad :
      m.load (loader.elfFile + 18) 2 =
        Elf_Machine.x86_64 :=
    hMachine
  have hVersionLoad :
      m.load (loader.elfFile + 20) 4 = 1 :=
    hVersion
  simp only [checkedBytes, List.mem_cons, List.not_mem_nil,
    or_false] at hByte
  rcases hByte with rfl | rfl | rfl | rfl | rfl | rfl | rfl |
    rfl | rfl | rfl | rfl | rfl | rfl | rfl
  · exact hMag0
  · exact hMag1
  · exact hMag2
  · exact hMag3
  · exact hClass
  · exact hIdent
  · exact hasByte_of_load hTypeLoad (i := 0) (by decide)
  · exact hasByte_of_load hTypeLoad (i := 1) (by decide)
  · exact hasByte_of_load hMachineLoad (i := 0) (by decide)
  · exact hasByte_of_load hMachineLoad (i := 1) (by decide)
  · exact hasByte_of_load hVersionLoad (i := 0) (by decide)
  · exact hasByte_of_load hVersionLoad (i := 1) (by decide)
  · exact hasByte_of_load hVersionLoad (i := 2) (by decide)
  · exact hasByte_of_load hVersionLoad (i := 3) (by decide)

theorem noError_of_hasByte
    {m : Memory}
    (hBytes :
      ∀ byte ∈ checkedBytes, loader.HasByte m byte) :
    loader.checkElf m = .NoError := by
  have hLoad
      (offset : Addr)
      {n : Nat}
      (v : BitVec (8 * n))
      (hField :
        ∀ i, i < n →
          (offset.toNat + i, v.extractLsb' (8 * i) 8) ∈
            checkedBytes) :
      m.load (loader.elfFile + offset) n = v := by
    apply Memory.load_eq_of_bytes
    intro i hi
    have hByte := hBytes _ (hField i hi)
    unfold HasByte at hByte
    dsimp only at hByte
    rw [← hByte, BitVec.ofNat_add, BitVec.ofNat_toNat,
      BitVec.setWidth_eq, BitVec.add_assoc]
  have hType :
      m.load16 (loader.elfFile + 16) = Elf_Type.ET_EXEC :=
    hLoad 16 (n := 2) Elf_Type.ET_EXEC (by decide)
  have hMachine :
      m.load16 (loader.elfFile + 18) = Elf_Machine.x86_64 :=
    hLoad 18 (n := 2) Elf_Machine.x86_64 (by decide)
  have hVersion :
      m.load32 (loader.elfFile + 20) = 1 :=
    hLoad 20 (n := 4) 1 (by decide)
  unfold checkElf
  dsimp only
  rw [if_neg, if_neg]
  · rw [not_or, not_or, not_or, not_or, not_not, not_not,
      not_not, not_not, not_not]
    exact
      ⟨hBytes (4, 2) (by decide), hBytes (6, 1) (by decide),
        hVersion, hMachine, hType⟩
  · rw [not_or, not_or, not_or, not_not, not_not, not_not,
      not_not]
    exact
      ⟨hBytes (0, ELF_MAG0) (by decide),
        hBytes (1, ELF_MAG1) (by decide),
        hBytes (2, ELF_MAG2) (by decide),
        hBytes (3, ELF_MAG3) (by decide)⟩

/- What the file itself refutes, no other memory accepts. -/
theorem checkElf_of_refused
    {m m' : Memory}
    (hRefused : loader.RefusedByFile m)
    (hSame : ∀ b, loader.InFile b → m' b = m b) :
    loader.checkElf m ≠ .NoError ∧
      loader.checkElf m' = loader.checkElf m := by
  rcases hRefused with ⟨byte, hByte, hInside, hWrong⟩
  have hBefore
      {other : Nat × Byte}
      (hOther : other.1 < loader.elfFileSize.toNat) :
      loader.HasByte m' other ↔ loader.HasByte m other := by
    unfold HasByte
    rw [hSame _ (inRange_add_ofNat loader.elfFile hOther)]
  have hFails : loader.checkElf m ≠ .NoError :=
    fun hElf => hWrong (hasByte_of_noError hElf hByte)
  have hFails' : loader.checkElf m' ≠ .NoError :=
    fun hElf =>
      hWrong
        ((hBefore hInside).mp
          (hasByte_of_noError hElf hByte))
  refine ⟨hFails, ?_⟩
  have hMagic :
      (∀ byte ∈ checkedBytes.take 4,
          loader.HasByte m' byte) ↔
        ∀ byte ∈ checkedBytes.take 4,
          loader.HasByte m byte := by
    have hFirst :
        ∀ other ∈ checkedBytes.take 4, other.1 < 4 := by
      decide
    have hTaken :
        ∀ other ∈ checkedBytes,
          other.1 < 4 → other ∈ checkedBytes.take 4 := by
      decide
    by_cases hShort : byte.1 < 4
    · have hMem := hTaken byte hByte hShort
      refine iff_of_false ?_ ?_
      · exact
          fun hAll =>
            hWrong ((hBefore hInside).mp (hAll byte hMem))
      · exact fun hAll => hWrong (hAll byte hMem)
    · refine forall₂_congr ?_
      intro other hOther
      have hOtherFirst := hFirst other hOther
      exact hBefore (by omega)
  have hCorrupted :
      loader.checkElf m' = .ElfHeaderCorrupted ↔
        loader.checkElf m = .ElfHeaderCorrupted := by
    rw [checkElf_eq_corrupted_iff, checkElf_eq_corrupted_iff,
      hMagic]
  rcases loader.checkElf_values m with hOk | hBad | hOther
  · exact absurd hOk hFails
  · rw [hBad, hCorrupted, hBad]
  · rcases loader.checkElf_values m' with
      hOk' | hBad' | hOther'
    · exact absurd hOk' hFails'
    · rw [hBad', ← hCorrupted.mp hBad']
    · rw [hOther, hOther']

/- Without a valid ELF header both getters find no table. -/
theorem getHeaders_of_badElf
    {m : Memory}
    (hElf : loader.checkElf m ≠ .NoError)
    (count : Int)
    (entrySize entriesNum : BitVec 16)
    (offset : BitVec 64)
    (size : Nat) :
    loader.getHeaders m count entrySize entriesNum offset
        size =
      { table := 0
        count := count
        error := loader.checkElf m } := by
  unfold getHeaders
  dsimp only
  rw [if_pos hElf]

/- The header is in the file, or refuted by it. -/
def HeaderKnown
    (loader : ElfLoader)
    (m : Memory) : Prop :=
  ELF_HEADER_SIZE ≤ loader.elfFileSize.toNat ∨
    loader.RefusedByFile m

/- The checks of the header see the file only. -/
theorem HeaderKnown.same
    {m m' : Memory}
    (hKnown : loader.HeaderKnown m)
    (hSame : ∀ b, loader.InFile b → m' b = m b)
    (numHeaders : Int) :
    loader.checkElf m' = loader.checkElf m ∧
      loader.getProgramHeaders m' numHeaders =
        loader.getProgramHeaders m numHeaders ∧
      loader.getSectionHeaders m' numHeaders =
        loader.getSectionHeaders m numHeaders := by
  rcases hKnown with hLong | hRefused
  · have hHeader :
        ∀ b,
          InRange loader.elfFile ELF_HEADER_SIZE b →
            m' b = m b :=
      fun b hRange => hSame b (hRange.mono hLong)
    exact
      ⟨checkElf_congr hHeader,
        getProgramHeaders_congr hHeader numHeaders,
        loader.getSectionHeaders_congr hHeader numHeaders⟩
  · rcases checkElf_of_refused hRefused hSame with
      ⟨hFails, hElf⟩
    have hFails' : loader.checkElf m' ≠ .NoError := by
      rw [hElf]
      exact hFails
    refine ⟨hElf, ?_, ?_⟩
    · unfold getProgramHeaders
      rw [getHeaders_of_badElf hFails',
        getHeaders_of_badElf hFails, hElf]
    · unfold getSectionHeaders
      rw [getHeaders_of_badElf hFails',
        getHeaders_of_badElf hFails, hElf]

------------------------------------------------------------
-- Memories Behind a Short File
------------------------------------------------------------

/- The file, and the bytes that are asked for behind it. -/
def completed (loader : ElfLoader) (m : Memory) : Memory :=
  fun b =>
    if InRange loader.elfFile loader.elfFileSize.toNat b then
      m b
    else
      (checkedBytes.lookup (b - loader.elfFile).toNat).getD 0

/- The same, with the last of these bytes wrong. -/
def spoiled (loader : ElfLoader) (m : Memory) : Memory :=
  fun b =>
    if b = loader.elfFile + 23 then 1
    else loader.completed m b

theorem completed_of_inFile
    (loader : ElfLoader)
    (m : Memory)
    {b : Addr}
    (hFile : loader.InFile b) :
    loader.completed m b = m b :=
  if_pos hFile

theorem spoiled_of_inFile
    (loader : ElfLoader)
    {m : Memory}
    (hShort : loader.elfFileSize.toNat < 24)
    {b : Addr}
    (hFile : loader.InFile b) :
    loader.spoiled m b = m b := by
  have hOther : b ≠ loader.elfFile + 23 := by
    rintro rfl
    unfold InFile InRange at hFile
    have hOffset :
        (loader.elfFile + 23 - loader.elfFile).toNat = 23 := by
      bv_omega
    omega
  unfold spoiled
  rw [if_neg hOther, loader.completed_of_inFile m hFile]

theorem checkElf_completed
    {m : Memory}
    (hAccepted : ¬ loader.RefusedByFile m) :
    loader.checkElf (loader.completed m) = .NoError := by
  apply noError_of_hasByte
  intro byte hByte
  unfold HasByte completed
  have hLookup :
      ∀ other ∈ checkedBytes,
        other.1 < 2 ^ 64 ∧
          (checkedBytes.lookup other.1).getD 0 = other.2 := by
    decide
  have hOffset :
      (loader.elfFile + BitVec.ofNat 64 byte.1 -
            loader.elfFile).toNat =
        byte.1 := by
    have hSmall := (hLookup byte hByte).1
    bv_omega
  split_ifs with hFile
  · by_contra hWrong
    unfold InRange at hFile
    rw [hOffset] at hFile
    exact hAccepted ⟨byte, hByte, hFile, hWrong⟩
  · rw [hOffset]
    exact (hLookup byte hByte).2

theorem checkElf_spoiled
    (loader : ElfLoader)
    (m : Memory) :
    loader.checkElf (loader.spoiled m) ≠ .NoError := by
  intro hElf
  have hByte : loader.HasByte (loader.spoiled m) (23, 0) :=
    hasByte_of_noError hElf (by decide)
  have hSpoiled :
      loader.spoiled m (loader.elfFile + 23) = 1 :=
    if_pos rfl
  have hBoth : (1 : Byte) = 0 := hSpoiled.symm.trans hByte
  exact absurd hBoth (by decide)

end ElfLoader

end Elf

end Chihuahua
