import Chihuahua.Bootloader.KernelReader
import Chihuahua.Elf.LoadItem

/-
  The image that loading every header of a file leaves in
  memory.

  The invariant of the loops is that memory is the memory
  before them with one block painted for each item loaded.

  Main declarations:
    * `loadImage` and `imageItems`
    * `ImageOf` and `headerLoop_imageOf`
    * `ImageLoaded` and `loadImage_imageLoaded`
    * `readKernelImage_imageLoaded`
-/

------------------------------------------------------------
-- Loading Every Header
------------------------------------------------------------

namespace Chihuahua

namespace KernelReader

open ByteMachine Elf

/- What the loops return, and where they end. -/
structure LoadedImage where
  segmentErrors : List ElfError
  sectionErrors : List ElfError
  state : LoaderState

/- The two loops of `readKernel`, over any headers. -/
def loadImage
    (elfLoader : ElfLoader)
    (fn : LoaderFunction)
    (progHeaders sectionHeaders : List Addr)
    (machine : Machine) : LoadedImage :=
  let s : LoaderState :=
    { machine := machine
      calls := [] }
  let (segmentErrors, s) :=
    headerLoop
      (fun header =>
        elfLoader.loadExecutableProgram header fn)
      progHeaders s
  let (sectionErrors, s) :=
    headerLoop
      (fun header => elfLoader.loadNoBitsSection header fn)
      sectionHeaders s
  { segmentErrors := segmentErrors
    sectionErrors := sectionErrors
    state := s }

/- What the headers ask for, in the order of the loops. -/
def imageItems
    (elfLoader : ElfLoader)
    (m : Memory)
    (progHeaders sectionHeaders : List Addr) :
    List LoadItem :=
  progHeaders.filterMap (elfLoader.segmentItem m) ++
    sectionHeaders.filterMap (sectionItem m)

/- The error that goes with what a header asks for. -/
def itemError : Option LoadItem → ElfError
| none => .ElfSectionNotLoadable
| some _ => .NoError

theorem not_loadFailed_itemError
    (item : Option LoadItem) :
    ¬ LoadFailed (itemError item) := by
  cases item with
  | none => decide
  | some _ => simp [LoadFailed, itemError]

------------------------------------------------------------
-- Calls of the Loops
------------------------------------------------------------

/- A loader that never forgets a call. -/
def CallsGrow
    (load : Addr → LoaderState → ElfError × LoaderState) :
    Prop :=
  ∀ header s, s.calls <:+ (load header s).2.calls

theorem callsGrow_loadExecutableProgram
    (elfLoader : ElfLoader)
    (fn : LoaderFunction) :
    CallsGrow
      (fun header =>
        elfLoader.loadExecutableProgram header fn) := by
  intro header s
  have hOutcome :=
    elfLoader.loadExecutableProgram_outcome header fn s
  dsimp only
  generalize
    elfLoader.loadExecutableProgram header fn s =
      result at hOutcome ⊢
  cases hOutcome with
  | skipped _ => exact List.suffix_rfl
  | noBuffer _ _ => exact List.suffix_cons _ _
  | tooLong _ _ _ => exact List.suffix_cons _ _
  | loaded _ => exact List.suffix_cons _ _

theorem callsGrow_loadNoBitsSection
    (elfLoader : ElfLoader)
    (fn : LoaderFunction) :
    CallsGrow
      (fun header =>
        elfLoader.loadNoBitsSection header fn) := by
  intro header s
  have hOutcome :=
    elfLoader.loadNoBitsSection_outcome header fn s
  dsimp only
  generalize
    elfLoader.loadNoBitsSection header fn s =
      result at hOutcome ⊢
  cases hOutcome with
  | skipped _ => exact List.suffix_rfl
  | tooLong _ _ => exact List.suffix_rfl
  | noBuffer _ _ => exact List.suffix_cons _ _
  | loaded _ => exact List.suffix_cons _ _

theorem headerLoop_calls_suffix
    {load : Addr → LoaderState → ElfError × LoaderState}
    (hGrow : CallsGrow load)
    (headers : List Addr)
    (s : LoaderState) :
    s.calls <:+ (headerLoop load headers s).2.calls := by
  induction headers generalizing s with
  | nil => exact List.suffix_rfl
  | cons header headers ih =>
      unfold headerLoop
      dsimp only
      split_ifs with hFailed
      · exact hGrow header s
      · exact (hGrow header s).trans (ih _)

------------------------------------------------------------
-- The Invariant
------------------------------------------------------------

/-
  The calls so far are those for the items, and memory is
  `m` with the block of each loaded item painted over it.
-/
structure ImageOf
    (m : Memory)
    (items : List LoadItem)
    (s : LoaderState)
    (loaded : List LoadedItem) : Prop where
  hCalls : loaded.map LoadedItem.call = s.calls.reverse
  hItems : loaded.map LoadedItem.item = items
  hMem : s.mem = m.paintAll (loaded.map LoadedItem.block)

namespace ImageOf

variable {m : Memory} {items : List LoadItem}
variable {s : LoaderState} {loaded : List LoadedItem}

theorem call_mem
    (hImage : ImageOf m items s loaded)
    {loadedItem : LoadedItem}
    (hLoaded : loadedItem ∈ loaded) :
    loadedItem.call ∈ s.calls := by
  have hCall := List.mem_map_of_mem (f := LoadedItem.call)
    hLoaded
  rw [hImage.hCalls] at hCall
  exact List.mem_reverse.mp hCall

/- Bytes outside of every buffer are as they were. -/
theorem mem_of_not_inRange
    (hImage : ImageOf m items s loaded)
    {a : Addr}
    (hOutside :
      ∀ call ∈ s.calls,
        ¬ InRange call.dest call.memorySize.toNat a) :
    s.mem a = m a := by
  rw [hImage.hMem]
  apply Memory.paintAll_of_not_covers
  intro block hBlock hCovers
  rcases List.mem_map.mp hBlock with
    ⟨loadedItem, hLoaded, rfl⟩
  exact
    hOutside loadedItem.call (hImage.call_mem hLoaded)
      ((loadedItem.block_covers_iff a).mp hCovers)

/- Loading one header extends the image by its item. -/
theorem step
    (hImage : ImageOf m items s loaded)
    {item : Option LoadItem}
    {result : ElfError × LoaderState}
    (hOutcome : ItemOutcome s item result) :
    result.1 = itemError item ∧
      ∃ loaded' : List LoadedItem,
        ImageOf m (items ++ item.toList) result.2 loaded' := by
  cases hOutcome with
  | skipped =>
      refine ⟨rfl, loaded, ?_⟩
      rw [Option.toList_none, List.append_nil]
      exact hImage
  | loaded loadedItem hMem =>
      refine ⟨rfl, loaded ++ [loadedItem], ?_, ?_, ?_⟩
      · rw [List.map_append, hImage.hCalls,
          List.reverse_cons]
        rfl
      · rw [List.map_append, hImage.hItems]
        rfl
      · rw [List.map_append, Memory.paintAll_append,
          ← hImage.hMem]
        exact hMem

end ImageOf

/-
  One of the loops extends the image by the items of its
  headers. A step may use that its buffers, like those of
  the steps before it, are good, and that memory is still
  `m` where no good buffer reaches.
-/
theorem headerLoop_imageOf
    {load : Addr → LoaderState → ElfError × LoaderState}
    {item : Addr → Option LoadItem}
    {m : Memory}
    {Good : LoaderCall → Prop}
    {Kept : Addr → Prop}
    {headers : List Addr}
    (hGrow : CallsGrow load)
    (hGood :
      ∀ call,
        Good call →
          ∀ a,
            InRange call.dest call.memorySize.toNat a →
              ¬ Kept a)
    (hStep :
      ∀ header ∈ headers,
        ∀ s,
          (∀ call ∈ (load header s).2.calls, Good call) →
            (∀ a, Kept a → s.mem a = m a) →
              ItemOutcome s (item header) (load header s))
    {items : List LoadItem}
    {s : LoaderState}
    {loaded : List LoadedItem}
    (hImage : ImageOf m items s loaded)
    (hBuffers :
      ∀ call ∈ (headerLoop load headers s).2.calls,
        Good call) :
    (headerLoop load headers s).1 =
        headers.map (fun header => itemError (item header)) ∧
      ∃ loaded' : List LoadedItem,
        ImageOf m (items ++ headers.filterMap item)
          (headerLoop load headers s).2 loaded' := by
  induction headers generalizing items s loaded with
  | nil =>
      refine ⟨rfl, loaded, ?_⟩
      rw [List.filterMap_nil, List.append_nil]
      exact hImage
  | cons header headers ih =>
      have hLater :
          (load header s).2.calls <:+
            (headerLoop load (header :: headers)
              s).2.calls := by
        unfold headerLoop
        dsimp only
        split_ifs with hFailed
        · exact List.suffix_rfl
        · exact headerLoop_calls_suffix hGrow headers _
      have hKept : ∀ a, Kept a → s.mem a = m a := by
        intro a hKeeps
        apply hImage.mem_of_not_inRange
        intro call hCall hRange
        have hLast :=
          ((hGrow header s).trans hLater).subset hCall
        exact hGood call (hBuffers call hLast) a hRange hKeeps
      have hOutcome :=
        hStep header List.mem_cons_self s
          (fun call hCall =>
            hBuffers call (hLater.subset hCall))
          hKept
      rcases hImage.step hOutcome with
        ⟨hError, loaded', hImage'⟩
      have hGoesOn : ¬ LoadFailed (load header s).1 := by
        rw [hError]
        exact not_loadFailed_itemError _
      have hUnfold :
          headerLoop load (header :: headers) s =
            ((load header s).1 ::
                (headerLoop load headers
                  (load header s).2).1,
              (headerLoop load headers
                (load header s).2).2) := by
        conv_lhs => unfold headerLoop
        dsimp only
        rw [if_neg hGoesOn]
      rw [hUnfold] at hBuffers ⊢
      rcases
        ih
          (fun other hOther =>
            hStep other (List.mem_cons_of_mem _ hOther))
          hImage' hBuffers with
        ⟨hErrors, loaded'', hImage''⟩
      refine ⟨?_, loaded'', ?_⟩
      · rw [hErrors, hError]
        rfl
      · have hItems :
            (header :: headers).filterMap item =
              (item header).toList ++
                headers.filterMap item := by
          cases hItem : item header with
          | none => simp [hItem]
          | some _ => simp [hItem]
        rw [hItems, ← List.append_assoc]
        exact hImage''

------------------------------------------------------------
-- Items in Unchanged Memory
------------------------------------------------------------

theorem segmentItem_congr
    {elfLoader : ElfLoader}
    {m m' : Memory}
    {progHeader : Addr}
    (hHeader :
      ∀ b, InRange progHeader PROG_HEADER_SIZE b → m' b = m b)
    (hFile :
      ∀ b,
        InRange elfLoader.elfFile
            elfLoader.elfFileSize.toNat b →
          m' b = m b)
    (hEnds :
      let header := readProgHeader m progHeader
      header.SegmentType = Elf_SegmentType.PT_LOAD →
        ElfLoader.SegmentEndsInFile elfLoader header) :
    elfLoader.segmentItem m' progHeader =
      elfLoader.segmentItem m progHeader := by
  unfold ElfLoader.segmentItem
  rw [readProgHeader_congr hHeader]
  dsimp only at hEnds ⊢
  split_ifs with hType
  · have hOrder := (hEnds hType).hOrder
    have hEnd := (hEnds hType).hEnd
    have hSize := elfLoader.elfFileSize.isLt
    have hContent :
        elfLoader.segmentContent m'
            (readProgHeader m progHeader) =
          elfLoader.segmentContent m
            (readProgHeader m progHeader) := by
      funext i
      unfold ElfLoader.segmentContent
      split_ifs with hInFile
      · apply hFile
        have hByte :
            (readProgHeader m progHeader).Offset.toNat + i <
              elfLoader.elfFileSize.toNat := by
          omega
        have hOffset :
            elfLoader.elfFile +
                (readProgHeader m progHeader).Offset +
                BitVec.ofNat 64 i =
              elfLoader.elfFile +
                BitVec.ofNat 64
                  ((readProgHeader m
                    progHeader).Offset.toNat + i) := by
          rw [BitVec.ofNat_add, BitVec.ofNat_toNat,
            BitVec.setWidth_eq, BitVec.add_assoc]
        rw [hOffset]
        exact inRange_add_ofNat _ hByte
      · rfl
    unfold ElfLoader.segmentRequest
    rw [hContent]
  · rfl

theorem sectionItem_congr
    {m m' : Memory}
    {sectionHeader : Addr}
    (hHeader :
      ∀ b,
        InRange sectionHeader SECTION_HEADER_SIZE b →
          m' b = m b) :
    sectionItem m' sectionHeader =
      sectionItem m sectionHeader := by
  unfold sectionItem
  rw [readSectionHeader_congr hHeader]

------------------------------------------------------------
-- The Loaded Image
------------------------------------------------------------

/- Every segment and section ends in a file below 2 GiB. -/
structure HeadersFit
    (elfLoader : ElfLoader)
    (m : Memory)
    (progHeaders sectionHeaders : List Addr) : Prop where
  hSize : elfLoader.elfFileSize.toNat < 2 ^ 31
  hSegments :
    ∀ progHeader ∈ progHeaders,
      let header := readProgHeader m progHeader
      header.SegmentType = Elf_SegmentType.PT_LOAD →
        ElfLoader.SegmentEndsInFile elfLoader header
  hSections :
    ∀ sectionHeader ∈ sectionHeaders,
      let header := readSectionHeader m sectionHeader
      HasNoBytes header →
        ElfLoader.SectionEndsInFile elfLoader header

/-
  A buffer outside of the file, and outside of the headers
  that are not part of the file.
-/
structure ImageBuffer
    (elfLoader : ElfLoader)
    (progHeaders sectionHeaders : List Addr)
    (call : LoaderCall) : Prop where
  hBuffer : elfLoader.GoodBuffer call
  hProgHeaders :
    ∀ progHeader ∈ progHeaders,
      elfLoader.HeaderApart progHeader PROG_HEADER_SIZE call
  hSectionHeaders :
    ∀ sectionHeader ∈ sectionHeaders,
      elfLoader.HeaderApart sectionHeader SECTION_HEADER_SIZE
        call

/- The buffers of all calls, apart from each other as well. -/
structure BuffersApart
    (elfLoader : ElfLoader)
    (progHeaders sectionHeaders : List Addr)
    (calls : List LoaderCall) : Prop where
  hBuffers :
    ∀ call ∈ calls,
      ImageBuffer elfLoader progHeaders sectionHeaders call
  hEachOther :
    calls.Pairwise
      (fun call call' =>
        RangesDisjoint call.dest call.memorySize.toNat
          call'.dest call'.memorySize.toNat)

/-
  Every header is loaded or not loadable, the callback was
  called once for each item with what the item asks for,
  each buffer holds the content of its item, and the rest of
  memory is `m`.
-/
structure ImageLoaded
    (elfLoader : ElfLoader)
    (m : Memory)
    (progHeaders sectionHeaders : List Addr)
    (image : LoadedImage) : Prop where
  hSegmentErrors :
    image.segmentErrors =
      progHeaders.map
        (fun header =>
          itemError (elfLoader.segmentItem m header))
  hSectionErrors :
    image.sectionErrors =
      sectionHeaders.map
        (fun header => itemError (sectionItem m header))
  hItems :
    ∃ loaded : List LoadedItem,
      loaded.map LoadedItem.call =
          image.state.calls.reverse ∧
        loaded.map LoadedItem.item =
          imageItems elfLoader m progHeaders
            sectionHeaders ∧
        ∀ loadedItem ∈ loaded,
          ∀ i,
            i < loadedItem.item.memorySize.toNat →
              image.state.mem
                  (loadedItem.call.dest +
                    BitVec.ofNat 64 i) =
                loadedItem.item.content i
  hElsewhere :
    ∀ a,
      (∀ call ∈ image.state.calls,
          ¬ InRange call.dest call.memorySize.toNat a) →
        image.state.mem a = m a

/- The bytes the loops read: the file and the headers. -/
def ImageInput
    (elfLoader : ElfLoader)
    (progHeaders sectionHeaders : List Addr)
    (a : Addr) : Prop :=
  InRange elfLoader.elfFile elfLoader.elfFileSize.toNat a ∨
    (∃ progHeader ∈ progHeaders,
      InRange progHeader PROG_HEADER_SIZE a) ∨
    ∃ sectionHeader ∈ sectionHeaders,
      InRange sectionHeader SECTION_HEADER_SIZE a

theorem ImageBuffer.not_imageInput
    {elfLoader : ElfLoader}
    {progHeaders sectionHeaders : List Addr}
    {call : LoaderCall}
    (hCall :
      ImageBuffer elfLoader progHeaders sectionHeaders call)
    (a : Addr)
    (hRange :
      InRange call.dest call.memorySize.toNat a) :
    ¬ ImageInput elfLoader progHeaders sectionHeaders a := by
  rintro (hFile | ⟨header, hMem, hHeader⟩ |
    ⟨header, hMem, hHeader⟩)
  · exact hCall.hBuffer.hFile a hRange hFile
  · exact
      (hCall.hProgHeaders header hMem).disjoint
        hCall.hBuffer a hRange hHeader
  · exact
      (hCall.hSectionHeaders header hMem).disjoint
        hCall.hBuffer a hRange hHeader

/- Blocks of disjoint buffers end up with their contents. -/
theorem ImageOf.mem_of_loaded
    {m : Memory}
    {items : List LoadItem}
    {s : LoaderState}
    {loaded : List LoadedItem}
    (hImage : ImageOf m items s loaded)
    (hEachOther :
      s.calls.Pairwise
        (fun call call' =>
          RangesDisjoint call.dest call.memorySize.toNat
            call'.dest call'.memorySize.toNat))
    {loadedItem : LoadedItem}
    (hLoaded : loadedItem ∈ loaded)
    {i : Nat}
    (hInside : i < loadedItem.item.memorySize.toNat) :
    s.mem (loadedItem.call.dest + BitVec.ofNat 64 i) =
      loadedItem.item.content i := by
  have hCalls :
      (loaded.map LoadedItem.call).Pairwise
        (fun call call' =>
          RangesDisjoint call.dest call.memorySize.toNat
            call'.dest call'.memorySize.toNat) := by
    rw [hImage.hCalls, List.pairwise_reverse]
    exact hEachOther.imp (fun hApart => hApart.symm)
  have hBlocks :
      (loaded.map LoadedItem.block).Pairwise
        Block.Disjoint := by
    rw [List.pairwise_map] at hCalls ⊢
    apply hCalls.imp
    intro first second hApart a hFirst hSecond
    exact
      hApart a ((first.block_covers_iff a).mp hFirst)
        ((second.block_covers_iff a).mp hSecond)
  have hCovers :
      loadedItem.block.Covers
        (loadedItem.call.dest + BitVec.ofNat 64 i) :=
    inRange_add_ofNat _ hInside
  have hSize := loadedItem.item.memorySize.isLt
  rw [hImage.hMem,
    Memory.paintAll_of_covers hBlocks
      (List.mem_map_of_mem hLoaded) hCovers]
  show
    loadedItem.item.content
        (loadedItem.call.dest + BitVec.ofNat 64 i -
          loadedItem.call.dest).toNat =
      loadedItem.item.content i
  rw [add_ofNat_sub_toNat _ (by omega)]

theorem segmentLoop_step
    {elfLoader : ElfLoader}
    {fn : LoaderFunction}
    {m : Memory}
    {progHeaders sectionHeaders : List Addr}
    (hHeaders :
      HeadersFit elfLoader m progHeaders sectionHeaders)
    {header : Addr}
    (hHeader : header ∈ progHeaders)
    {s : LoaderState}
    (hBuffers :
      ∀ call ∈
          (elfLoader.loadExecutableProgram header fn
            s).2.calls,
        ImageBuffer elfLoader progHeaders sectionHeaders
          call)
    (hKept :
      ∀ a,
        ImageInput elfLoader progHeaders sectionHeaders a →
          s.mem a = m a) :
    ItemOutcome s (elfLoader.segmentItem m header)
      (elfLoader.loadExecutableProgram header fn s) := by
  have hEnds := hHeaders.hSegments header hHeader
  have hBytes :
      ∀ b, InRange header PROG_HEADER_SIZE b →
        s.mem b = m b :=
    fun b hRange =>
      hKept b (Or.inr (Or.inl ⟨header, hHeader, hRange⟩))
  have hItem :=
    segmentItem_congr hBytes
      (fun b hRange => hKept b (Or.inl hRange)) hEnds
  rw [← readProgHeader_congr hBytes] at hEnds
  rw [← hItem]
  apply
    ElfLoader.loadExecutableProgram_itemOutcome
      hHeaders.hSize hEnds
  intro call hCall
  have hBuffer := hBuffers call hCall
  exact
    ⟨hBuffer.hBuffer, hBuffer.hProgHeaders header hHeader⟩

theorem sectionLoop_step
    {elfLoader : ElfLoader}
    {fn : LoaderFunction}
    {m : Memory}
    {progHeaders sectionHeaders : List Addr}
    (hHeaders :
      HeadersFit elfLoader m progHeaders sectionHeaders)
    {header : Addr}
    (hHeader : header ∈ sectionHeaders)
    {s : LoaderState}
    (hBuffers :
      ∀ call ∈
          (elfLoader.loadNoBitsSection header fn s).2.calls,
        ImageBuffer elfLoader progHeaders sectionHeaders
          call)
    (hKept :
      ∀ a,
        ImageInput elfLoader progHeaders sectionHeaders a →
          s.mem a = m a) :
    ItemOutcome s (sectionItem m header)
      (elfLoader.loadNoBitsSection header fn s) := by
  have hEnds := hHeaders.hSections header hHeader
  have hBytes :
      ∀ b, InRange header SECTION_HEADER_SIZE b →
        s.mem b = m b :=
    fun b hRange =>
      hKept b (Or.inr (Or.inr ⟨header, hHeader, hRange⟩))
  rw [← readSectionHeader_congr hBytes] at hEnds
  rw [← sectionItem_congr hBytes]
  exact
    ElfLoader.loadNoBitsSection_itemOutcome hHeaders.hSize
      hEnds (fun call hCall => (hBuffers call hCall).hBuffer)

theorem loadImage_imageLoaded
    (elfLoader : ElfLoader)
    (fn : LoaderFunction)
    (progHeaders sectionHeaders : List Addr)
    (machine : Machine)
    (hHeaders :
      HeadersFit elfLoader machine.mem progHeaders
        sectionHeaders)
    (hApart :
      BuffersApart elfLoader progHeaders sectionHeaders
        (loadImage elfLoader fn progHeaders sectionHeaders
          machine).state.calls) :
    ImageLoaded elfLoader machine.mem progHeaders
      sectionHeaders
      (loadImage elfLoader fn progHeaders sectionHeaders
        machine) := by
  unfold loadImage at hApart ⊢
  dsimp only at hApart ⊢
  have hGood
      (call : LoaderCall)
      (hCall :
        ImageBuffer elfLoader progHeaders sectionHeaders
          call) :=
    hCall.not_imageInput
  have hNone :
      ImageOf machine.mem []
        { machine := machine
          calls := [] }
        [] :=
    ⟨rfl, rfl, rfl⟩
  have hLater :=
    headerLoop_calls_suffix
      (callsGrow_loadNoBitsSection elfLoader fn)
      sectionHeaders
      (headerLoop
        (fun header =>
          elfLoader.loadExecutableProgram header fn)
        progHeaders
        { machine := machine
          calls := [] }).2
  rcases
    headerLoop_imageOf
      (callsGrow_loadExecutableProgram elfLoader fn)
      hGood
      (fun header hHeader s hBuffers hKept =>
        segmentLoop_step hHeaders hHeader hBuffers hKept)
      hNone
      (fun call hCall =>
        hApart.hBuffers call (hLater.subset hCall)) with
    ⟨hSegmentErrors, segments, hSegments⟩
  rcases
    headerLoop_imageOf
      (callsGrow_loadNoBitsSection elfLoader fn)
      hGood
      (fun header hHeader s hBuffers hKept =>
        sectionLoop_step hHeaders hHeader hBuffers hKept)
      hSegments hApart.hBuffers with
    ⟨hSectionErrors, loaded, hLoaded⟩
  exact
    { hSegmentErrors := hSegmentErrors
      hSectionErrors := hSectionErrors
      hItems :=
        ⟨loaded, hLoaded.hCalls, hLoaded.hItems,
          fun _ hMem _ hInside =>
            hLoaded.mem_of_loaded hApart.hEachOther hMem
              hInside⟩
      hElsewhere := fun _ hOutside =>
        hLoaded.mem_of_not_inRange hOutside }

/- A segment and a section that get a buffer each. -/
theorem loadImage_imageLoaded_sample :
    ImageLoaded (sampleLoader 128)
      (sampleFile (sampleHeaders 16 32 16)).mem [0x1000]
      [0x1038]
      (loadImage (sampleLoader 128) sampleCallback [0x1000]
        [0x1038]
        (sampleFile (sampleHeaders 16 32 16)).machine) := by
  have hCalls :
      (loadImage (sampleLoader 128) sampleCallback [0x1000]
          [0x1038]
          (sampleFile
            (sampleHeaders 16 32 16)).machine).state.calls =
        [{ memorySize := 16
           virtAddress := 0x200000
           segmentFlags := 6
           dest := 0x200000 },
          { memorySize := 32
            virtAddress := 0x100000
            segmentFlags := 5
            dest := 0x100000 }] := by
    decide +kernel
  have hHeaders :
      HeadersFit (sampleLoader 128)
        (sampleFile (sampleHeaders 16 32 16)).machine.mem
        [0x1000] [0x1038] := by
    refine ⟨by decide, ?_, ?_⟩
    · intro progHeader hHeader
      rw [List.mem_singleton.mp hHeader]
      intro _ _
      refine ⟨?_, ?_⟩ <;> decide +kernel
    · intro sectionHeader hHeader
      rw [List.mem_singleton.mp hHeader]
      intro _ _
      unfold ElfLoader.SectionEndsInFile
      decide +kernel
  -- the file ends where the buffers have not started yet
  have hBuffer
      (call : LoaderCall)
      (hStart : 0x1080 ≤ call.dest.toNat)
      (hEnd :
        call.dest.toNat + call.memorySize.toNat ≤ 2 ^ 64) :
      ImageBuffer (sampleLoader 128) [0x1000] [0x1038]
        call := by
    refine ⟨⟨?_, ?_⟩, ?_, ?_⟩
    · intro hNull
      rw [hNull] at hStart
      revert hStart
      decide
    · exact (rangesDisjoint_of_le hStart hEnd).symm
    · intro progHeader hHeader
      rw [List.mem_singleton.mp hHeader]
      exact Or.inl (fun b hRange => hRange.mono (by decide))
    · intro sectionHeader hHeader
      rw [List.mem_singleton.mp hHeader]
      left
      intro b hRange
      unfold InRange at hRange ⊢
      unfold SECTION_HEADER_SIZE at hRange
      unfold sampleLoader
      bv_omega
  apply loadImage_imageLoaded _ _ _ _ _ hHeaders
  rw [hCalls]
  refine ⟨?_, ?_⟩
  · intro call hCall
    rcases List.mem_pair.mp hCall with rfl | rfl
    · exact hBuffer _ (by decide) (by decide)
    · exact hBuffer _ (by decide) (by decide)
  · rw [List.pairwise_pair]
    exact
      (rangesDisjoint_of_le (by decide) (by decide)).symm

------------------------------------------------------------
-- The Image of a Kernel
------------------------------------------------------------

namespace KernelImage

/- What `readKernel` loaded, without the tables it found. -/
def loaded (image : KernelImage) : LoadedImage where
  segmentErrors := image.segmentErrors
  sectionErrors := image.sectionErrors
  state := image.state

@[simp] theorem loaded_state (image : KernelImage) :
    image.loaded.state = image.state := rfl

end KernelImage

/- The headers of the file, as `readKernel` indexes them. -/
def kernelProgHeaders
    (elfLoader : ElfLoader)
    (m : Memory) : List Addr :=
  elementAddresses (elfLoader.getProgramHeaders m 0)
    PROG_HEADER_SIZE

def kernelSectionHeaders
    (elfLoader : ElfLoader)
    (m : Memory) : List Addr :=
  elementAddresses (elfLoader.getSectionHeaders m 0)
    SECTION_HEADER_SIZE

theorem readKernelImage_calls_suffix
    (elfLoader : ElfLoader)
    (fn : LoaderFunction)
    (s : LoaderState) :
    (segmentLoop elfLoader fn s).2.calls <:+
      (readKernelImage elfLoader fn s).state.calls := by
  unfold readKernelImage
  dsimp only
  split_ifs with hFailed
  · exact List.suffix_rfl
  · generalize (segmentLoop elfLoader fn s).2 = loaded
    unfold sectionLoop
    exact
      headerLoop_calls_suffix
        (callsGrow_loadNoBitsSection elfLoader fn) _ loaded

/- The second loop follows a first one that gets through. -/
theorem loaded_of_segments
    {elfLoader : ElfLoader}
    {fn : LoaderFunction}
    {s : LoaderState}
    (hGoesOn :
      ¬ ∃ error ∈ (segmentLoop elfLoader fn s).1,
        LoadFailed error) :
    (readKernelImage elfLoader fn s).loaded =
      { segmentErrors := (segmentLoop elfLoader fn s).1
        sectionErrors :=
          (sectionLoop elfLoader fn
            (segmentLoop elfLoader fn s).2).1
        state :=
          (sectionLoop elfLoader fn
            (segmentLoop elfLoader fn s).2).2 } := by
  unfold readKernelImage
  dsimp only
  rw [if_neg hGoesOn]
  dsimp only [KernelImage.loaded]

theorem sectionLoop_eq
    {elfLoader : ElfLoader}
    {fn : LoaderFunction}
    {m : Memory}
    {s : LoaderState}
    (hSame :
      elfLoader.getSectionHeaders s.mem 0 =
        elfLoader.getSectionHeaders m 0) :
    sectionLoop elfLoader fn s =
      headerLoop
        (fun header => elfLoader.loadNoBitsSection header fn)
        (kernelSectionHeaders elfLoader m) s := by
  unfold sectionLoop kernelSectionHeaders
  rw [hSame]

/-
  The tables are read before and after the segments are
  loaded, which leaves the file as it is; so `readKernel`
  loads the headers that the file had at the start.
-/
theorem readKernelImage_imageLoaded
    (elfLoader : ElfLoader)
    (fn : LoaderFunction)
    (machine : Machine)
    (hElf : ELF_HEADER_SIZE ≤ elfLoader.elfFileSize.toNat)
    (hHeaders :
      HeadersFit elfLoader machine.mem
        (kernelProgHeaders elfLoader machine.mem)
        (kernelSectionHeaders elfLoader machine.mem))
    (hApart :
      BuffersApart elfLoader
        (kernelProgHeaders elfLoader machine.mem)
        (kernelSectionHeaders elfLoader machine.mem)
        (readKernelImage elfLoader fn
          { machine := machine
            calls := [] }).state.calls) :
    ImageLoaded elfLoader machine.mem
      (kernelProgHeaders elfLoader machine.mem)
      (kernelSectionHeaders elfLoader machine.mem)
      (readKernelImage elfLoader fn
        { machine := machine
          calls := [] }).loaded := by
  let s : LoaderState :=
    { machine := machine
      calls := [] }
  have hNone : ImageOf machine.mem [] s [] :=
    ⟨rfl, rfl, rfl⟩
  have hLater := readKernelImage_calls_suffix elfLoader fn s
  have hFirst
      (call : LoaderCall)
      (hCall :
        call ∈ (segmentLoop elfLoader fn s).2.calls) :=
    hApart.hBuffers call (hLater.subset hCall)
  rcases
    headerLoop_imageOf
      (callsGrow_loadExecutableProgram elfLoader fn)
      (fun _ hCall => hCall.not_imageInput)
      (fun header hHeader s hBuffers hKept =>
        segmentLoop_step hHeaders hHeader hBuffers hKept)
      hNone hFirst with
    ⟨hSegmentErrors, segments, hSegments⟩
  have hGoesOn :
      ¬ ∃ error ∈ (segmentLoop elfLoader fn s).1,
        LoadFailed error := by
    rintro ⟨error, hMem, hFailed⟩
    have hErrors :
        error ∈
          (kernelProgHeaders elfLoader machine.mem).map
            (fun header =>
              itemError
                (elfLoader.segmentItem machine.mem
                  header)) := by
      rw [← hSegmentErrors]
      exact hMem
    rcases List.mem_map.mp hErrors with ⟨_, _, rfl⟩
    exact not_loadFailed_itemError _ hFailed
  have hSame :
      elfLoader.getSectionHeaders
          (segmentLoop elfLoader fn s).2.mem 0 =
        elfLoader.getSectionHeaders machine.mem 0 := by
    apply elfLoader.getSectionHeaders_congr
    intro b hRange
    apply hSegments.mem_of_not_inRange
    intro call hCall hInside
    exact
      (hFirst call hCall).hBuffer.hFile b hInside
        (hRange.mono hElf)
  have hImage := loaded_of_segments hGoesOn
  rw [← KernelImage.loaded_state, hImage,
    sectionLoop_eq hSame] at hApart
  rw [hImage, sectionLoop_eq hSame]
  rcases
    headerLoop_imageOf
      (callsGrow_loadNoBitsSection elfLoader fn)
      (fun _ hCall => hCall.not_imageInput)
      (fun header hHeader s hBuffers hKept =>
        sectionLoop_step hHeaders hHeader hBuffers hKept)
      hSegments hApart.hBuffers with
    ⟨hSectionErrors, loaded, hLoaded⟩
  exact
    { hSegmentErrors := hSegmentErrors
      hSectionErrors := hSectionErrors
      hItems :=
        ⟨loaded, hLoaded.hCalls, hLoaded.hItems,
          fun _ hMem _ hInside =>
            hLoaded.mem_of_loaded hApart.hEachOther hMem
              hInside⟩
      hElsewhere := fun _ hOutside =>
        hLoaded.mem_of_not_inRange hOutside }

end KernelReader

end Chihuahua
