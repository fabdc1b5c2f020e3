import Chihuahua.Elf.BufferBounds

/-
  What a header asks the loader for, and what loading it
  leaves in memory.

  Main declarations:
    * `LoadItem`, `segmentItem` and `sectionItem`
    * `LoadedItem`
    * `fillSegment_mem`
    * `loadExecutableProgram_itemOutcome`
    * `loadNoBitsSection_itemOutcome`
-/

------------------------------------------------------------
-- Items
------------------------------------------------------------

namespace Chihuahua

namespace Elf

open ByteMachine Essentials

/- A request for memory, and what the memory is to hold. -/
structure LoadItem where
  memorySize : BitVec 64
  virtAddress : Elf64_Addr
  segmentFlags : Elf_SegmentFlags
  content : Nat → Byte

/- A call of the callback with the item it was made for. -/
structure LoadedItem where
  call : LoaderCall
  item : LoadItem
  hSize : call.memorySize = item.memorySize.toNat
  hAddress : call.virtAddress = item.virtAddress
  hFlags : call.segmentFlags = item.segmentFlags

namespace LoadedItem

/- The buffer, with the bytes it is to hold. -/
def block (loaded : LoadedItem) : Block where
  base := loaded.call.dest
  size := loaded.item.memorySize.toNat
  content := loaded.item.content

theorem block_covers_iff
    (loaded : LoadedItem)
    (a : Addr) :
    loaded.block.Covers a ↔
      InRange loaded.call.dest loaded.call.memorySize.toNat
        a := by
  rw [loaded.hSize, Int.toNat_natCast]
  rfl

end LoadedItem

namespace ElfLoader

variable (loader : ElfLoader)

/- The bytes of a segment: those of the file, then zeros. -/
def segmentContent
    (m : Memory)
    (header : Elf64_ProgHeader) : Nat → Byte :=
  fun i =>
    if i < header.SizeInFile.toNat then
      m (loader.elfFile + header.Offset + BitVec.ofNat 64 i)
    else
      0

/- What a loadable program header asks for. -/
def segmentRequest
    (m : Memory)
    (header : Elf64_ProgHeader) : LoadItem where
  memorySize := header.SizeInMemory
  virtAddress := header.VirtAddress
  segmentFlags := header.Flags
  content := loader.segmentContent m header

def segmentItem
    (m : Memory)
    (progHeader : Addr) : Option LoadItem :=
  let header := readProgHeader m progHeader
  if header.SegmentType = Elf_SegmentType.PT_LOAD then
    some (loader.segmentRequest m header)
  else
    none

end ElfLoader

/- What a section without bytes asks for. -/
def sectionRequest
    (header : Elf64_SectionHeader) : LoadItem where
  memorySize := header.SectionSize
  virtAddress := header.VirtualAddress
  segmentFlags :=
    Elf_SegmentFlags.PF_R ||| Elf_SegmentFlags.PF_W
  content _ := 0

def sectionItem
    (m : Memory)
    (sectionHeader : Addr) : Option LoadItem :=
  let header := readSectionHeader m sectionHeader
  if HasNoBytes header then
    some (sectionRequest header)
  else
    none

/- What loading a header did, and for which item if any. -/
inductive ItemOutcome
    (s : LoaderState) :
    Option LoadItem → ElfError × LoaderState → Prop where
| skipped :
    ItemOutcome s none (.ElfSectionNotLoadable, s)
| loaded
    (loaded : LoadedItem)
    {machine : Machine}
    (hMem : machine.mem = s.mem.paint loaded.block) :
    ItemOutcome s (some loaded.item)
      (.NoError,
        { machine := machine
          calls := loaded.call :: s.calls })

------------------------------------------------------------
-- Buffers
------------------------------------------------------------

namespace ElfLoader

variable (loader : ElfLoader)

/- A buffer of the callback that is not part of the file. -/
structure GoodBuffer (call : LoaderCall) : Prop where
  hNotNull : call.dest ≠ 0
  hFile :
    RangesDisjoint call.dest call.memorySize.toNat
      loader.elfFile loader.elfFileSize.toNat

/- A header in the file, or out of reach of the buffer. -/
def HeaderApart
    (header : Addr)
    (size : Nat)
    (call : LoaderCall) : Prop :=
  (∀ b,
      InRange header size b →
        InRange loader.elfFile loader.elfFileSize.toNat b) ∨
    RangesDisjoint call.dest call.memorySize.toNat header size

variable {loader}

theorem HeaderApart.disjoint
    {header : Addr}
    {size : Nat}
    {call : LoaderCall}
    (hApart : loader.HeaderApart header size call)
    (hBuffer : loader.GoodBuffer call) :
    RangesDisjoint call.dest call.memorySize.toNat header
      size := by
  rcases hApart with hInFile | hDisjoint
  · intro a hCall hHeader
    exact hBuffer.hFile a hCall (hInFile a hHeader)
  · exact hDisjoint

theorem toInt_of_lt
    {size : BitVec 64}
    (hSmall : size.toNat < 2 ^ 31) :
    toInt size = size.toNat :=
  le_antisymm (toInt_le_toNat size)
    ((toNat_le_toInt_iff size).mpr hSmall)

------------------------------------------------------------
-- Segments
------------------------------------------------------------

/- The sizes of a segment that ends in the file. -/
structure SegmentEndsInFile
    (loader : ElfLoader)
    (header : Elf64_ProgHeader) : Prop where
  hOrder :
    header.SizeInFile.toNat ≤ header.SizeInMemory.toNat
  hEnd :
    header.Offset.toNat + header.SizeInMemory.toNat <
      loader.elfFileSize.toNat

/-
  A byte of the file that is copied is in the file, so the
  buffer does not start among those bytes.
-/
theorem copies_forward
    {header : Elf64_ProgHeader}
    {dest : Addr}
    (hEnds : SegmentEndsInFile loader header)
    (hFile :
      RangesDisjoint dest header.SizeInMemory.toNat
        loader.elfFile loader.elfFileSize.toNat) :
    header.SizeInFile.toNat ≤
      (dest - (loader.elfFile + header.Offset)).toNat := by
  have hOrder := hEnds.hOrder
  have hEnd := hEnds.hEnd
  have hSize := loader.elfFileSize.isLt
  by_contra hInside
  apply hFile dest
  · unfold InRange
    rw [BitVec.sub_self, BitVec.toNat_zero]
    omega
  · have hOffset :
        dest - loader.elfFile =
          header.Offset +
            (dest - (loader.elfFile + header.Offset)) := by
      bv_omega
    unfold InRange
    rw [hOffset, BitVec.toNat_add,
      Nat.mod_eq_of_lt (by omega)]
    omega

theorem fillSegment_mem
    {header : Elf64_ProgHeader}
    {progHeader dest : Addr}
    {machine : Machine}
    (hHeader :
      header = readProgHeader machine.mem progHeader)
    (hEnds : SegmentEndsInFile loader header)
    (hFile :
      RangesDisjoint dest header.SizeInMemory.toNat
        loader.elfFile loader.elfFileSize.toNat)
    (hApart :
      RangesDisjoint dest header.SizeInMemory.toNat
        progHeader PROG_HEADER_SIZE) :
    (loader.fillSegment header progHeader dest machine).mem =
      machine.mem.paint
        { base := dest
          size := header.SizeInMemory.toNat
          content :=
            loader.segmentContent machine.mem header } := by
  have hOrder := hEnds.hOrder
  have hCopy :=
    memcpy_mem
      (Or.inr (copies_forward hEnds hFile)) machine
  have hKept :
      readProgHeader
          (memcpy dest (loader.elfFile + header.Offset)
            header.SizeInFile machine).2.mem
          progHeader =
        header := by
    rw [hHeader]
    apply readProgHeader_congr
    intro b hRange
    rw [← hHeader, hCopy]
    apply Memory.paint_of_not_covers
    intro hCovers
    exact hApart b (hCovers.mono hOrder) hRange
  unfold fillSegment
  dsimp only
  rw [hKept]
  split_ifs with hRest
  · have hBase :
        dest + header.SizeInFile =
          dest + BitVec.ofNat 64 header.SizeInFile.toNat := by
      rw [BitVec.ofNat_toNat, BitVec.setWidth_eq]
    rw [memset_mem, hCopy, hBase,
      BitVec.toNat_sub_of_le (BitVec.le_of_lt hRest),
      Memory.paint_paint_append _ _ hOrder
        header.SizeInMemory.isLt.le]
    rfl
  · have hSame :
        header.SizeInFile.toNat =
          header.SizeInMemory.toNat := by
      have hLe := BitVec.not_lt.mp hRest
      rw [BitVec.le_def] at hLe
      omega
    rw [hCopy, hSame]
    apply Memory.paint_congr
    intro i hi
    unfold segmentContent
    rw [hSame, if_pos hi]

theorem loadExecutableProgram_itemOutcome
    {progHeader : Addr}
    {loaderCallback : LoaderFunction}
    {s : LoaderState}
    (hSize : loader.elfFileSize.toNat < 2 ^ 31)
    (hEnds :
      let header := readProgHeader s.mem progHeader
      header.SegmentType = Elf_SegmentType.PT_LOAD →
        SegmentEndsInFile loader header)
    (hBuffers :
      ∀ call ∈
          (loader.loadExecutableProgram progHeader
            loaderCallback s).2.calls,
        loader.GoodBuffer call ∧
          loader.HeaderApart progHeader PROG_HEADER_SIZE
            call) :
    ItemOutcome s (loader.segmentItem s.mem progHeader)
      (loader.loadExecutableProgram progHeader
        loaderCallback s) := by
  have hOutcome :=
    loader.loadExecutableProgram_outcome progHeader
      loaderCallback s
  generalize
    loader.loadExecutableProgram progHeader loaderCallback
        s =
      result at hOutcome hBuffers ⊢
  unfold segmentItem
  dsimp only at hEnds ⊢
  cases hOutcome with
  | skipped hType =>
      rw [if_neg hType]
      exact .skipped
  | noBuffer _ hDest =>
      have hBuffer := (hBuffers _ List.mem_cons_self).1
      exact absurd hDest hBuffer.hNotNull
  | tooLong hType hDest hRefused =>
      have hOrder := (hEnds hType).hOrder
      have hEnd := (hEnds hType).hEnd
      have hAccepted :=
        (acceptsSegment_iff hSize
          ⟨hType, by omega, hOrder, by omega⟩ hDest).mpr hEnd
      exact absurd hAccepted hRefused
  | loaded hAccepted =>
      have hEnd := (hEnds hAccepted.hType).hEnd
      have hRequested :
          toInt
              (readProgHeader s.mem
                progHeader).SizeInMemory =
            (readProgHeader s.mem
              progHeader).SizeInMemory.toNat :=
        toInt_of_lt (by omega)
      rcases hBuffers _ List.mem_cons_self with
        ⟨hBuffer, hApart⟩
      have hDisjoint := hApart.disjoint hBuffer
      have hFile := hBuffer.hFile
      unfold segmentCall at hDisjoint hFile
      dsimp only at hDisjoint hFile
      rw [hRequested, Int.toNat_natCast] at hDisjoint hFile
      rw [if_pos hAccepted.hType]
      exact
        .loaded
          { call := segmentCall progHeader loaderCallback s
            item :=
              loader.segmentRequest s.mem
                (readProgHeader s.mem progHeader)
            hSize := hRequested
            hAddress := rfl
            hFlags := rfl }
          (fillSegment_mem rfl (hEnds hAccepted.hType) hFile
            hDisjoint)

------------------------------------------------------------
-- Sections Without Bytes
------------------------------------------------------------

/- The end of a section that would fit into the file. -/
def SectionEndsInFile
    (loader : ElfLoader)
    (header : Elf64_SectionHeader) : Prop :=
  header.OffsetInFile.toNat + header.SectionSize.toNat <
    loader.elfFileSize.toNat

theorem loadNoBitsSection_itemOutcome
    {sectionHeader : Addr}
    {loaderCallback : LoaderFunction}
    {s : LoaderState}
    (hSize : loader.elfFileSize.toNat < 2 ^ 31)
    (hEnds :
      let header := readSectionHeader s.mem sectionHeader
      HasNoBytes header → SectionEndsInFile loader header)
    (hBuffers :
      ∀ call ∈
          (loader.loadNoBitsSection sectionHeader
            loaderCallback s).2.calls,
        loader.GoodBuffer call) :
    ItemOutcome s (sectionItem s.mem sectionHeader)
      (loader.loadNoBitsSection sectionHeader
        loaderCallback s) := by
  have hOutcome :=
    loader.loadNoBitsSection_outcome sectionHeader
      loaderCallback s
  generalize
    loader.loadNoBitsSection sectionHeader loaderCallback
        s =
      result at hOutcome hBuffers ⊢
  unfold sectionItem
  dsimp only at hEnds ⊢
  cases hOutcome with
  | skipped hNoBits =>
      rw [isNoBits_iff] at hNoBits
      rw [if_neg hNoBits]
      exact .skipped
  | noBuffer _ hDest =>
      have hBuffer := hBuffers _ List.mem_cons_self
      exact absurd hDest hBuffer.hNotNull
  | tooLong hNoBits hRefused =>
      rw [isNoBits_iff] at hNoBits
      have hEnd := hEnds hNoBits
      unfold SectionEndsInFile at hEnd
      have hPos :
          0 <
            (readSectionHeader s.mem
              sectionHeader).SectionSize.toNat := by
        rw [Nat.pos_iff_ne_zero]
        intro hZero
        exact hNoBits.hSize (BitVec.eq_of_toNat_eq hZero)
      have hAccepted :=
        (acceptsSection_iff hSize
          ⟨hNoBits.hType, hNoBits.hAlloc, hPos, by omega⟩
          (show (1 : Addr) ≠ 0 by decide)).mpr
          hEnd
      exact absurd hAccepted (hRefused 1)
  | loaded hAccepted =>
      have hNoBits :=
        (isNoBits_iff _).mp hAccepted.hNoBits
      have hEnd := hEnds hNoBits
      unfold SectionEndsInFile at hEnd
      rw [if_pos hNoBits]
      exact
        .loaded
          { call := sectionCall sectionHeader loaderCallback s
            item :=
              sectionRequest
                (readSectionHeader s.mem sectionHeader)
            hSize := toInt_of_lt (by omega)
            hAddress := rfl
            hFlags := rfl }
          (memset_mem _ _ _ _)

end ElfLoader

end Elf

end Chihuahua
