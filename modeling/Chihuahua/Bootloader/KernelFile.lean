import Chihuahua.Elf.FileFormat
import Chihuahua.Bootloader.Image

/-
  Loading the file of a kernel, zeros behind it included,
  gives the kernel back: its segments and its zero sections,
  each in a buffer of its own.

  Main declarations:
    * `Kernel.LoadedBy`
    * `imageItems_of_fileHeld` and `imageLoaded_of_fileHeld`
    * `readKernelImage_loadedBy`
-/

------------------------------------------------------------
-- A Kernel in Memory
------------------------------------------------------------

namespace Chihuahua

namespace KernelReader

open ByteMachine Elf

/- A call for an item, whose buffer holds its content. -/
structure HoldsItem
    (m : Memory)
    (item : LoadItem)
    (call : LoaderCall) : Prop where
  hSize : call.memorySize = item.memorySize.toNat
  hAddress : call.virtAddress = item.virtAddress
  hFlags : call.segmentFlags = item.segmentFlags
  hContent :
    ∀ i,
      i < item.memorySize.toNat →
        m (call.dest + BitVec.ofNat 64 i) = item.content i

/- One call for each item of a kernel, in order. -/
def LoadedBy
    (kernel : Kernel)
    (m : Memory)
    (calls : List LoaderCall) : Prop :=
  List.Forall₂ (HoldsItem m) kernel.items calls

theorem HoldsItem.congr
    {m m' : Memory}
    {item : LoadItem}
    {call : LoaderCall}
    (hHolds : HoldsItem m item call)
    (hSame :
      ∀ a,
        InRange call.dest call.memorySize.toNat a →
          m' a = m a) :
    HoldsItem m' item call where
  hSize := hHolds.hSize
  hAddress := hHolds.hAddress
  hFlags := hHolds.hFlags
  hContent i hi := by
    rw [hSame]
    · exact hHolds.hContent i hi
    · apply inRange_add_ofNat
      rw [hHolds.hSize]
      exact hi

/- Memory may change outside of the buffers. -/
theorem LoadedBy.congr
    {kernel : Kernel}
    {m m' : Memory}
    {calls : List LoaderCall}
    (hLoaded : LoadedBy kernel m calls)
    (hSame :
      ∀ call ∈ calls,
        ∀ a,
          InRange call.dest call.memorySize.toNat a →
            m' a = m a) :
    LoadedBy kernel m' calls := by
  unfold LoadedBy at hLoaded ⊢
  generalize kernel.items = items at hLoaded ⊢
  induction hLoaded with
  | nil => exact .nil
  | cons hHolds _ ih =>
      refine .cons (hHolds.congr ?_) (ih ?_)
      · exact hSame _ List.mem_cons_self
      · intro call hCall
        exact hSame call (List.mem_cons_of_mem _ hCall)

------------------------------------------------------------
-- The Headers of the File
------------------------------------------------------------

section Headers

variable {kernel : Kernel}
variable {elfLoader : ElfLoader} {m : Memory}

/- Read one by one, they are the headers laid out. -/
theorem map_readProgHeader
    (hHeld : kernel.FileHeld elfLoader m)
    (hFits : kernel.Encodable) :
    (kernelProgHeaders elfLoader m).map (readProgHeader m) =
      segmentHeaders kernel.dataOffset kernel.segments := by
  have hTable :=
    progHeaderCodec.map_decode_table
      hHeld.parts.hProgHeaders
  rw [length_segmentHeaders] at hTable
  unfold kernelProgHeaders elementAddresses
  rw [hHeld.getProgramHeaders_eq hFits, List.map_map]
  exact hTable

theorem map_readSectionHeader
    (hHeld : kernel.FileHeld elfLoader m)
    (hFits : kernel.Encodable) :
    (kernelSectionHeaders elfLoader m).map
        (readSectionHeader m) =
      kernel.zeroSections.map ZeroSection.header := by
  have hTable :=
    sectionHeaderCodec.map_decode_table
      hHeld.parts.hSectionHeaders
  rw [List.length_map] at hTable
  unfold kernelSectionHeaders elementAddresses
  rw [hHeld.getSectionHeaders_eq hFits, List.map_map]
  exact hTable

/- Sizes in the file are those of the kernel. -/
theorem toNat_ofNat_of_fits
    (hFits : kernel.Encodable)
    (size : Nat)
    (hSize : size ≤ kernel.file.length) :
    (BitVec.ofNat 64 size).toNat = size := by
  have hFile := hFits.hFile
  rw [BitVec.toNat_ofNat]
  exact Nat.mod_eq_of_lt (by omega)

theorem segmentEndsInFile
    (hHeld : kernel.FileHeld elfLoader m)
    (hFits : kernel.Encodable)
    {header : Elf64_ProgHeader}
    (hMem :
      header ∈
        segmentHeaders kernel.dataOffset kernel.segments) :
    ElfLoader.SegmentEndsInFile elfLoader header := by
  obtain ⟨segment, hSegment, place, rfl, hPlace⟩ :=
    mem_segmentHeaders hMem
  have hRoom := kernel.memorySize_le_room hSegment
  have hData := segment.hData
  have hLength := kernel.length_file
  have hEnd :
      place + segment.memorySize < kernel.file.length := by
    unfold Kernel.data at hLength
    omega
  have hOffset :=
    toNat_ofNat_of_fits hFits place (by omega)
  have hInFile :=
    toNat_ofNat_of_fits hFits segment.data.length
      (by omega)
  have hInMemory :=
    toNat_ofNat_of_fits hFits segment.memorySize
      (by omega)
  constructor
  · show (BitVec.ofNat 64 segment.data.length).toNat ≤
      (BitVec.ofNat 64 segment.memorySize).toNat
    rw [hInFile, hInMemory]
    exact hData
  · show
      (BitVec.ofNat 64 place).toNat +
          (BitVec.ofNat 64 segment.memorySize).toNat <
        elfLoader.elfFileSize.toNat
    rw [hOffset, hInMemory, hHeld.hSize]
    exact hEnd

theorem sectionEndsInFile
    (hHeld : kernel.FileHeld elfLoader m)
    (hFits : kernel.Encodable)
    {zeroSection : ZeroSection}
    (hMem : zeroSection ∈ kernel.zeroSections) :
    ElfLoader.SectionEndsInFile elfLoader
      zeroSection.header := by
  have hRoom := kernel.size_le_room hMem
  have hLength := kernel.length_file
  have hSize :=
    toNat_ofNat_of_fits hFits zeroSection.size
      (by omega)
  show
    (0 : BitVec 64).toNat +
        (BitVec.ofNat 64 zeroSection.size).toNat <
      elfLoader.elfFileSize.toNat
  have hZero : (0 : BitVec 64).toNat = 0 := rfl
  rw [hSize, hHeld.hSize, hZero]
  omega

theorem hasNoBytes_header
    (hFits : kernel.Encodable)
    {zeroSection : ZeroSection}
    (hMem : zeroSection ∈ kernel.zeroSections) :
    HasNoBytes zeroSection.header where
  hType := rfl
  hAlloc := by
    show
      Elf_SectionFlags.SHF_ALLOC &&&
          Elf_SectionFlags.SHF_ALLOC ≠
        0
    decide
  hSize := by
    intro hZero
    have hRoom := kernel.size_le_room hMem
    have hLength := kernel.length_file
    have hSize :=
      toNat_ofNat_of_fits hFits zeroSection.size
        (by omega)
    have hNone :
        (BitVec.ofNat 64 zeroSection.size).toNat = 0 :=
      congrArg BitVec.toNat hZero
    have hPos := zeroSection.hSize
    omega

theorem headersFit_of_fileHeld
    (hHeld : kernel.FileHeld elfLoader m)
    (hFits : kernel.Encodable) :
    HeadersFit elfLoader m (kernelProgHeaders elfLoader m)
      (kernelSectionHeaders elfLoader m) where
  hSize := by
    rw [hHeld.hSize]
    exact hFits.hFile
  hSegments progHeader hMem := by
    intro header _
    apply segmentEndsInFile hHeld hFits
    rw [← map_readProgHeader hHeld hFits]
    exact List.mem_map_of_mem hMem
  hSections sectionHeader hMem := by
    intro header _
    have hHeader := List.mem_map_of_mem
      (f := readSectionHeader m) hMem
    rw [map_readSectionHeader hHeld hFits] at hHeader
    obtain ⟨zeroSection, hSection, hEq⟩ :=
      List.mem_map.mp hHeader
    have hEnds := sectionEndsInFile hHeld hFits hSection
    rw [hEq] at hEnds
    exact hEnds

------------------------------------------------------------
-- The Items of the File
------------------------------------------------------------

theorem imageItems_of_fileHeld
    (hHeld : kernel.FileHeld elfLoader m)
    (hFits : kernel.Encodable) :
    imageItems elfLoader m (kernelProgHeaders elfLoader m)
        (kernelSectionHeaders elfLoader m) =
      kernel.items := by
  have hLength := kernel.length_file
  have hFile := hFits.hFile
  have hSegments :
      (kernelProgHeaders elfLoader m).filterMap
          (elfLoader.segmentItem m) =
        kernel.segments.map Segment.item := by
    have hRead :
        (kernelProgHeaders elfLoader m).filterMap
            (elfLoader.segmentItem m) =
          ((kernelProgHeaders elfLoader m).map
              (readProgHeader m)).filterMap
            (fun header =>
              if header.SegmentType =
                  Elf_SegmentType.PT_LOAD then
                some (elfLoader.segmentRequest m header)
              else none) := by
      rw [List.filterMap_map]
      rfl
    rw [hRead, map_readProgHeader hHeld hFits]
    rw [← map_segmentRequest hHeld.parts.hData
      (by unfold Kernel.data at hLength; omega),
      ← List.filterMap_eq_map]
    apply List.filterMap_congr
    intro header hMem
    obtain ⟨segment, _, place, rfl, _⟩ :=
      mem_segmentHeaders hMem
    exact if_pos rfl
  have hSections :
      (kernelSectionHeaders elfLoader m).filterMap
          (sectionItem m) =
        kernel.zeroSections.map ZeroSection.item := by
    have hRead :
        (kernelSectionHeaders elfLoader m).filterMap
            (sectionItem m) =
          ((kernelSectionHeaders elfLoader m).map
              (readSectionHeader m)).filterMap
            (fun header =>
              if HasNoBytes header then
                some (sectionRequest header)
              else none) := by
      rw [List.filterMap_map]
      rfl
    rw [hRead, map_readSectionHeader hHeld hFits,
      List.filterMap_map, ← List.filterMap_eq_map]
    apply List.filterMap_congr
    intro zeroSection hMem
    exact if_pos (hasNoBytes_header hFits hMem)
  unfold imageItems Kernel.items
  rw [hSegments, hSections]

/- Every header is loaded, and none is skipped. -/
theorem segmentItem_ne_none
    (hHeld : kernel.FileHeld elfLoader m)
    (hFits : kernel.Encodable)
    {progHeader : Addr}
    (hMem : progHeader ∈ kernelProgHeaders elfLoader m) :
    itemError (elfLoader.segmentItem m progHeader) =
      .NoError := by
  have hHeader :=
    List.mem_map_of_mem (f := readProgHeader m) hMem
  rw [map_readProgHeader hHeld hFits] at hHeader
  obtain ⟨segment, _, place, hEq, _⟩ :=
    mem_segmentHeaders hHeader
  have hType :
      (readProgHeader m progHeader).SegmentType =
        Elf_SegmentType.PT_LOAD := by
    rw [hEq]
    rfl
  unfold ElfLoader.segmentItem
  dsimp only
  rw [if_pos hType]
  rfl

theorem sectionItem_ne_none
    (hHeld : kernel.FileHeld elfLoader m)
    (hFits : kernel.Encodable)
    {sectionHeader : Addr}
    (hMem :
      sectionHeader ∈ kernelSectionHeaders elfLoader m) :
    itemError (sectionItem m sectionHeader) = .NoError := by
  have hHeader :=
    List.mem_map_of_mem (f := readSectionHeader m) hMem
  rw [map_readSectionHeader hHeld hFits] at hHeader
  obtain ⟨zeroSection, hSection, hEq⟩ :=
    List.mem_map.mp hHeader
  have hNoBytes := hasNoBytes_header hFits hSection
  rw [hEq] at hNoBytes
  unfold sectionItem
  dsimp only
  rw [if_pos hNoBytes]
  rfl

------------------------------------------------------------
-- Loading the File
------------------------------------------------------------

/- The elements of a table that lies in the file. -/
theorem elementAddresses_inFile
    {headers : ElfLoader.HeaderTable}
    {size : Nat}
    (offset : Nat)
    (hTable :
      headers.table =
        elfLoader.elfFile + BitVec.ofNat 64 offset)
    (hEnd :
      offset + size * headers.count.toNat ≤
        elfLoader.elfFileSize.toNat)
    {header : Addr}
    (hMem : header ∈ elementAddresses headers size)
    (b : Addr)
    (hRange : InRange header size b) :
    InRange elfLoader.elfFile elfLoader.elfFileSize.toNat
      b := by
  obtain ⟨i, hi, rfl⟩ := List.mem_map.mp hMem
  have hIndex := List.mem_range.mp hi
  have hSize := elfLoader.elfFileSize.isLt
  have hElement :
      size * i + size ≤ size * headers.count.toNat := by
    rw [← Nat.mul_succ]
    exact Nat.mul_le_mul_left size hIndex
  rw [hTable, add_ofNat_add_ofNat] at hRange
  have hOffset :=
    (inRange_add_iff elfLoader.elfFile b (by omega)).mp
      hRange
  unfold InRange
  omega

theorem progHeader_inFile
    (hHeld : kernel.FileHeld elfLoader m)
    (hFits : kernel.Encodable)
    {progHeader : Addr}
    (hMem : progHeader ∈ kernelProgHeaders elfLoader m)
    (b : Addr)
    (hRange : InRange progHeader PROG_HEADER_SIZE b) :
    InRange elfLoader.elfFile elfLoader.elfFileSize.toNat
      b := by
  have hEnd := Kernel.dataOffset_lt kernel
  have hSize := hHeld.hSize
  refine
    elementAddresses_inFile ELF_HEADER_SIZE ?_ ?_ hMem b
      hRange
  · rw [hHeld.getProgramHeaders_eq hFits]
  · rw [hHeld.getProgramHeaders_eq hFits]
    dsimp only
    rw [Int.toNat_natCast]
    unfold Kernel.dataOffset at hEnd
    unfold Kernel.sectionHeaderOffset at hEnd
    omega

theorem sectionHeader_inFile
    (hHeld : kernel.FileHeld elfLoader m)
    (hFits : kernel.Encodable)
    {sectionHeader : Addr}
    (hMem :
      sectionHeader ∈ kernelSectionHeaders elfLoader m)
    (b : Addr)
    (hRange : InRange sectionHeader SECTION_HEADER_SIZE b) :
    InRange elfLoader.elfFile elfLoader.elfFileSize.toNat
      b := by
  have hEnd := Kernel.dataOffset_lt kernel
  have hSize := hHeld.hSize
  refine
    elementAddresses_inFile kernel.sectionHeaderOffset ?_ ?_
      hMem b hRange
  · rw [hHeld.getSectionHeaders_eq hFits]
  · rw [hHeld.getSectionHeaders_eq hFits]
    dsimp only
    rw [Int.toNat_natCast]
    unfold Kernel.dataOffset at hEnd
    omega

end Headers

/- Buffers that are apart from the file and each other. -/
structure GoodBuffers
    (elfLoader : ElfLoader)
    (calls : List LoaderCall) : Prop where
  hBuffers : ∀ call ∈ calls, elfLoader.GoodBuffer call
  hEachOther :
    calls.Pairwise
      (fun call call' =>
        RangesDisjoint call.dest call.memorySize.toNat
          call'.dest call'.memorySize.toNat)

theorem buffersApart_of_fileHeld
    {kernel : Kernel}
    {elfLoader : ElfLoader}
    {m : Memory}
    {calls : List LoaderCall}
    (hHeld : kernel.FileHeld elfLoader m)
    (hFits : kernel.Encodable)
    (hGood : GoodBuffers elfLoader calls) :
    BuffersApart elfLoader (kernelProgHeaders elfLoader m)
      (kernelSectionHeaders elfLoader m) calls := by
  refine ⟨?_, hGood.hEachOther⟩
  intro call hCall
  refine ⟨hGood.hBuffers call hCall, ?_, ?_⟩
  · intro progHeader hMem
    exact Or.inl (progHeader_inFile hHeld hFits hMem)
  · intro sectionHeader hMem
    exact Or.inl (sectionHeader_inFile hHeld hFits hMem)

theorem imageLoaded_of_fileHeld
    {kernel : Kernel}
    {elfLoader : ElfLoader}
    {fn : LoaderFunction}
    {machine : Machine}
    (hHeld : kernel.FileHeld elfLoader machine.mem)
    (hFits : kernel.Encodable)
    (hGood :
      GoodBuffers elfLoader
        (readKernelImage elfLoader fn
          { machine := machine
            calls := [] }).state.calls) :
    ImageLoaded elfLoader machine.mem
      (kernelProgHeaders elfLoader machine.mem)
      (kernelSectionHeaders elfLoader machine.mem)
      (readKernelImage elfLoader fn
        { machine := machine
          calls := [] }).loaded := by
  have hElf :
      ELF_HEADER_SIZE ≤ elfLoader.elfFileSize.toNat := by
    have hEnd := Kernel.dataOffset_lt kernel
    rw [hHeld.hSize]
    unfold Kernel.dataOffset at hEnd
    unfold Kernel.sectionHeaderOffset at hEnd
    omega
  exact
    readKernelImage_imageLoaded elfLoader fn machine hElf
      (headersFit_of_fileHeld hHeld hFits)
      (buffersApart_of_fileHeld hHeld hFits hGood)

section Loaded

variable {kernel : Kernel}
variable {elfLoader : ElfLoader} {m : Memory}
variable {image : KernelImage}

/- No header of the file fails, and none is skipped. -/
theorem noError_of_imageLoaded
    (hHeld : kernel.FileHeld elfLoader m)
    (hFits : kernel.Encodable)
    (hImage :
      ImageLoaded elfLoader m (kernelProgHeaders elfLoader m)
        (kernelSectionHeaders elfLoader m) image.loaded) :
    ∀ error ∈ image.segmentErrors ++ image.sectionErrors,
      error = .NoError := by
  have hSegmentErrors := hImage.hSegmentErrors
  have hSectionErrors := hImage.hSectionErrors
  unfold KernelImage.loaded at hSegmentErrors hSectionErrors
  dsimp only at hSegmentErrors hSectionErrors
  intro error hMem
  rcases List.mem_append.mp hMem with hSegment | hSection
  · rw [hSegmentErrors] at hSegment
    obtain ⟨header, hHeader, rfl⟩ := List.mem_map.mp hSegment
    exact segmentItem_ne_none hHeld hFits hHeader
  · rw [hSectionErrors] at hSection
    obtain ⟨header, hHeader, rfl⟩ := List.mem_map.mp hSection
    exact sectionItem_ne_none hHeld hFits hHeader

theorem loadedBy_of_imageLoaded
    (hHeld : kernel.FileHeld elfLoader m)
    (hFits : kernel.Encodable)
    (hImage :
      ImageLoaded elfLoader m (kernelProgHeaders elfLoader m)
        (kernelSectionHeaders elfLoader m) image.loaded) :
    LoadedBy kernel image.state.mem
      image.state.calls.reverse := by
  obtain ⟨loaded, hCalls, hItems, hContents⟩ := hImage.hItems
  rw [KernelImage.loaded_state] at hCalls hContents
  unfold LoadedBy
  rw [imageItems_of_fileHeld hHeld hFits] at hItems
  rw [← hItems, ← hCalls, List.forall₂_map_left_iff,
    List.forall₂_map_right_iff, List.forall₂_same]
  intro item hMem
  exact
    ⟨item.hSize, item.hAddress, item.hFlags,
      hContents item hMem⟩

end Loaded

/-
  Loading gives back what was laid out: all of the file's
  headers load, there is one call for each item of the
  kernel, and each buffer holds its item.
-/
theorem readKernelImage_loadedBy
    (kernel : Kernel)
    (elfLoader : ElfLoader)
    (fn : LoaderFunction)
    (machine : Machine)
    (hHeld : kernel.FileHeld elfLoader machine.mem)
    (hFits : kernel.Encodable)
    (hGood :
      GoodBuffers elfLoader
        (readKernelImage elfLoader fn
          { machine := machine
            calls := [] }).state.calls) :
    let image :=
      readKernelImage elfLoader fn
        { machine := machine
          calls := [] }
    (∀ error ∈ image.segmentErrors ++ image.sectionErrors,
        error = .NoError) ∧
      LoadedBy kernel image.state.mem
        image.state.calls.reverse := by
  have hImage := imageLoaded_of_fileHeld hHeld hFits hGood
  exact
    ⟨noError_of_imageLoaded hHeld hFits hImage,
      loadedBy_of_imageLoaded hHeld hFits hImage⟩

/- A segment of four bytes, and three bytes of zeros. -/
def sampleKernel : Kernel where
  entryPoint := 0x300000
  segments :=
    [{ virtAddress := 0x300000
       flags := 5
       memorySize := 4
       data := [0xF4, 0xEB]
       hData := by decide }]
  zeroSections :=
    [{ virtAddress := 0x301000
       size := 3
       hSize := by decide }]

theorem length_sampleKernel_file :
    sampleKernel.file.length = 191 := by
  rw [Kernel.length_file]
  rfl

theorem sampleKernel_encodable : sampleKernel.Encodable where
  hSegments := by decide
  hSections := by decide
  hFile := by
    rw [length_sampleKernel_file]
    decide

theorem sampleKernel_held :
    sampleKernel.FileHeld (sampleLoader 191)
      (sampleFile sampleKernel.file).mem where
  hText := by
    intro i hi
    have hLength := length_sampleKernel_file
    show
      sampleKernel.file.getD
          (0x1000 + BitVec.ofNat 64 i - 0x1000).toNat 0 =
        sampleKernel.file[i]
    rw [add_ofNat_sub_toNat _ (by omega),
      List.getD_eq_getElem?_getD, List.getElem?_eq_getElem hi,
      Option.getD_some]
  hSize := by
    rw [length_sampleKernel_file]
    rfl

theorem readKernelImage_loadedBy_sample :
    LoadedBy sampleKernel
      (readKernelImage (sampleLoader 191) sampleCallback
        (sampleFile sampleKernel.file)).state.mem
      (readKernelImage (sampleLoader 191) sampleCallback
        (sampleFile
          sampleKernel.file)).state.calls.reverse := by
  have hCalls :
      (readKernelImage (sampleLoader 191) sampleCallback
          (sampleFile sampleKernel.file)).state.calls =
        [{ memorySize := 3
           virtAddress := 0x301000
           segmentFlags := 6
           dest := 0x200000 },
          { memorySize := 4
            virtAddress := 0x300000
            segmentFlags := 5
            dest := 0x100000 }] := by
    decide +kernel
  -- the file ends where the buffers have not started yet
  have hBuffer
      (call : LoaderCall)
      (hStart : 0x10BF ≤ call.dest.toNat)
      (hEnd :
        call.dest.toNat + call.memorySize.toNat ≤ 2 ^ 64) :
      (sampleLoader 191).GoodBuffer call := by
    refine ⟨?_, ?_⟩
    · intro hNull
      rw [hNull] at hStart
      revert hStart
      decide
    · exact (rangesDisjoint_of_le hStart hEnd).symm
  refine
    (readKernelImage_loadedBy sampleKernel (sampleLoader 191)
      sampleCallback (sampleFile sampleKernel.file).machine
      sampleKernel_held sampleKernel_encodable ?_).2
  have hGood :
      GoodBuffers (sampleLoader 191)
        (readKernelImage (sampleLoader 191) sampleCallback
          (sampleFile sampleKernel.file)).state.calls := by
    rw [hCalls]
    constructor
    · intro call hCall
      rcases List.mem_pair.mp hCall with rfl | rfl
      · exact hBuffer _ (by decide) (by decide)
      · exact hBuffer _ (by decide) (by decide)
    · rw [List.pairwise_pair]
      exact
        (rangesDisjoint_of_le (by decide) (by decide)).symm
  exact hGood

end KernelReader

end Chihuahua
