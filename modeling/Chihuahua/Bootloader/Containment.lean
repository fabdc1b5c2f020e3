import Chihuahua.Bootloader.KernelKept

/-
  What the boot loader writes, whatever file it is given.

  The file need not be one of a kernel: nothing is asked of
  it but headers that lie in it, with sizes that agree. Then
  each load stays in the buffer it asked for, so the headers
  stay as they were read, and so does every later load.

  Main declarations:
    * `HeadersAgree` and `headersAgree_of_fileHeld`
    * `Contained` and `readKernelImage_contained`
    * `ReadsAgreeingFile` and `readKernel_contained`
    * `efi_main_contained`
-/

------------------------------------------------------------
-- Headers That Agree
------------------------------------------------------------

namespace Chihuahua

namespace KernelReader

open ByteMachine Elf Essentials Resources

/- The part in the file fits, and the size is an `int`. -/
def SegmentAgrees (header : Elf64_ProgHeader) : Prop :=
  header.SegmentType = Elf_SegmentType.PT_LOAD →
    header.SizeInFile.toNat ≤ header.SizeInMemory.toNat ∧
      header.SizeInMemory.toNat < 2 ^ 31

def SectionAgrees (header : Elf64_SectionHeader) : Prop :=
  ElfLoader.IsNoBits header →
    header.SectionSize.toNat < 2 ^ 31

/- Each header is in the file and agrees with itself. -/
structure HeadersAgree
    (elfLoader : ElfLoader)
    (m : Memory) : Prop where
  hProgInFile :
    ∀ progHeader ∈ kernelProgHeaders elfLoader m,
      ∀ b,
        InRange progHeader PROG_HEADER_SIZE b →
          InRange elfLoader.elfFile
            elfLoader.elfFileSize.toNat b
  hSegments :
    ∀ progHeader ∈ kernelProgHeaders elfLoader m,
      SegmentAgrees (readProgHeader m progHeader)
  hSectionInFile :
    ∀ sectionHeader ∈ kernelSectionHeaders elfLoader m,
      ∀ b,
        InRange sectionHeader SECTION_HEADER_SIZE b →
          InRange elfLoader.elfFile
            elfLoader.elfFileSize.toNat b
  hSections :
    ∀ sectionHeader ∈ kernelSectionHeaders elfLoader m,
      SectionAgrees (readSectionHeader m sectionHeader)

------------------------------------------------------------
-- One Header
------------------------------------------------------------

/-
  A copy that leaves the header alone, and what is zeroed
  behind it, stay in the size the segment has in memory.
-/
theorem fillSegment_mem_of_not_inRange
    {elfLoader : ElfLoader}
    {header : Elf64_ProgHeader}
    {progHeader dest : Addr}
    {machine : Machine}
    (hHeader :
      header = readProgHeader machine.mem progHeader)
    (hOrder :
      header.SizeInFile.toNat ≤ header.SizeInMemory.toNat)
    (hApart :
      RangesDisjoint dest header.SizeInMemory.toNat
        progHeader PROG_HEADER_SIZE)
    {a : Addr}
    (hOutside :
      ¬ InRange dest header.SizeInMemory.toNat a) :
    (elfLoader.fillSegment header progHeader dest
        machine).mem a =
      machine.mem a := by
  have hCopy {b : Addr} :
      ¬ InRange dest header.SizeInMemory.toNat b →
        (memcpy dest (elfLoader.elfFile + header.Offset)
            header.SizeInFile machine).2.mem b =
          machine.mem b := by
    intro hNotMemory
    apply memcpy_mem_of_not_inRange
    exact fun hRange => hNotMemory (hRange.mono hOrder)
  have hKept :
      readProgHeader
          (memcpy dest (elfLoader.elfFile + header.Offset)
            header.SizeInFile machine).2.mem
          progHeader =
        header := by
    rw [hHeader]
    apply readProgHeader_congr
    intro b hRange
    rw [← hHeader]
    exact hCopy (fun hInside => hApart b hInside hRange)
  unfold ElfLoader.fillSegment
  dsimp only
  rw [hKept]
  split_ifs with hRest
  · rw [memset_mem, Memory.paint_apply, if_neg ?_,
      hCopy hOutside]
    rw [inRange_add_sub_iff dest a hRest]
    exact fun hInside => hOutside hInside.2
  · exact hCopy hOutside

/-
  The file has pages of its own, and all others are apart
  from the buffers that the callback can hand out.
-/
structure FileApart
    (elfLoader : ElfLoader)
    (fn : LoaderFunction)
    (filePages : Nat) : Prop where
  hSome : 0 < elfLoader.elfFileSize.toNat
  hPages :
    elfLoader.elfFileSize.toNat ≤ EFI_PAGE_SIZE * filePages
  hApart :
    ∀ calls,
      CallsOf fn calls →
        ∀ a,
          InRange elfLoader.elfFile
              (EFI_PAGE_SIZE * filePages) a →
            ¬ InPages (callRanges calls) a

/- Only the buffers of the calls so far have changed. -/
structure Contained
    (fn : LoaderFunction)
    (m : Memory)
    (s : LoaderState) : Prop where
  hCalls : CallsOf fn s.calls
  hElsewhere :
    ∀ a, ¬ InPages (callRanges s.calls) a → s.mem a = m a

section Loops

variable {elfLoader : ElfLoader} {fn : LoaderFunction}
variable {filePages : Nat} {m : Memory} {s : LoaderState}

theorem Contained.file
    (hFile : FileApart elfLoader fn filePages)
    (hContained : Contained fn m s)
    {a : Addr}
    (hRange :
      InRange elfLoader.elfFile (EFI_PAGE_SIZE * filePages)
        a) :
    s.mem a = m a :=
  hContained.hElsewhere a
    (hFile.hApart s.calls hContained.hCalls a hRange)

theorem FileApart.inFile
    (hFile : FileApart elfLoader fn filePages)
    {a : Addr}
    (hRange :
      InRange elfLoader.elfFile elfLoader.elfFileSize.toNat
        a) :
    InRange elfLoader.elfFile (EFI_PAGE_SIZE * filePages)
      a :=
  hRange.mono hFile.hPages

/- A file of at least one byte has a page for its header. -/
theorem FileApart.elfHeader
    (hFile : FileApart elfLoader fn filePages)
    {a : Addr}
    (hRange : InRange elfLoader.elfFile ELF_HEADER_SIZE a) :
    InRange elfLoader.elfFile (EFI_PAGE_SIZE * filePages)
      a := by
  apply hRange.mono
  have hSome := hFile.hSome
  have hPages := hFile.hPages
  unfold EFI_PAGE_SIZE at hPages ⊢
  unfold ELF_HEADER_SIZE
  omega

/- A call that writes to the buffer it was given, if any. -/
theorem Contained.call
    (hContained : Contained fn m s)
    {call : LoaderCall}
    {machine : Machine}
    (hCalls : CallsOf fn (call :: s.calls))
    (hNoBuffer : call.dest = 0 → machine = s.machine)
    (hBuffer :
      ∀ a,
        ¬ InRange call.dest call.memorySize.toNat a →
          machine.mem a = s.mem a) :
    Contained fn m
      { machine := machine
        calls := call :: s.calls } where
  hCalls := hCalls
  hElsewhere a hOutside := by
    dsimp only at hOutside
    rw [callRanges_cons] at hOutside
    show machine.mem a = m a
    split_ifs at hOutside with hDest
    · rw [hNoBuffer hDest]
      exact hContained.hElsewhere a hOutside
    · rw [hBuffer a ?_]
      · apply hContained.hElsewhere
        rintro ⟨range, hMem, hRange⟩
        exact
          hOutside
            ⟨range, List.mem_cons_of_mem _ hMem, hRange⟩
      · intro hRange
        refine
          hOutside
            ⟨callRange call, List.mem_cons_self,
              hRange.mono ?_⟩
        exact size_le_callRange hCalls List.mem_cons_self

/- The buffer of a call and the file are apart. -/
theorem FileApart.callApart
    (hFile : FileApart elfLoader fn filePages)
    {call : LoaderCall}
    {calls : List LoaderCall}
    (hCalls : CallsOf fn (call :: calls))
    (hDest : call.dest ≠ 0)
    {a : Addr}
    (hRange :
      InRange elfLoader.elfFile elfLoader.elfFileSize.toNat
        a) :
    ¬ InRange call.dest call.memorySize.toNat a := by
  intro hInside
  apply hFile.hApart _ hCalls a (hFile.inFile hRange)
  rw [callRanges_cons, if_neg hDest]
  refine ⟨callRange call, List.mem_cons_self, ?_⟩
  exact
    hInside.mono
      (size_le_callRange hCalls List.mem_cons_self)

theorem Contained.segment
    (hFile : FileApart elfLoader fn filePages)
    (hAgree : HeadersAgree elfLoader m)
    {progHeader : Addr}
    (hMem : progHeader ∈ kernelProgHeaders elfLoader m)
    (hContained : Contained fn m s) :
    Contained fn m
      (elfLoader.loadExecutableProgram progHeader fn s).2 := by
  have hInFile := hAgree.hProgInFile progHeader hMem
  have hHeader :
      readProgHeader s.mem progHeader =
        readProgHeader m progHeader :=
    readProgHeader_congr
      (fun b hRange =>
        hContained.file hFile
          (hFile.inFile (hInFile b hRange)))
  have hSizes := hAgree.hSegments progHeader hMem
  rw [← hHeader] at hSizes
  have hOutcome :=
    elfLoader.loadExecutableProgram_outcome progHeader fn s
  have hCalls :=
    callsOf_loadExecutableProgram elfLoader fn progHeader
      hContained.hCalls
  generalize
    elfLoader.loadExecutableProgram progHeader fn s =
      result at hOutcome hCalls ⊢
  cases hOutcome with
  | skipped _ => exact hContained
  | noBuffer _ _ =>
      exact
        hContained.call hCalls (fun _ => rfl) (fun _ _ => rfl)
  | tooLong _ _ _ =>
      exact
        hContained.call hCalls (fun _ => rfl) (fun _ _ => rfl)
  | loaded hAccepted =>
      rcases hSizes hAccepted.hType with ⟨hOrder, hSmall⟩
      have hRequested :
          (ElfLoader.segmentCall progHeader fn
              s).memorySize.toNat =
            (readProgHeader s.mem
              progHeader).SizeInMemory.toNat := by
        unfold ElfLoader.segmentCall
        dsimp only
        rw [ElfLoader.toInt_of_lt hSmall]
        exact Int.toNat_natCast _
      refine
        hContained.call hCalls
          (fun hNull => absurd hNull hAccepted.hDest) ?_
      intro a hOutside
      rw [hRequested] at hOutside
      have hSame :
          readProgHeader s.mem progHeader =
            readProgHeader s.machine.mem progHeader := rfl
      refine
        fillSegment_mem_of_not_inRange hSame hOrder ?_
          hOutside
      intro b hInside hRange
      rw [← hRequested] at hInside
      exact
        hFile.callApart hCalls hAccepted.hDest
          (hInFile b hRange) hInside

theorem Contained.section
    (hFile : FileApart elfLoader fn filePages)
    (hAgree : HeadersAgree elfLoader m)
    {sectionHeader : Addr}
    (hMem :
      sectionHeader ∈ kernelSectionHeaders elfLoader m)
    (hContained : Contained fn m s) :
    Contained fn m
      (elfLoader.loadNoBitsSection sectionHeader fn s).2 := by
  have hHeader :
      readSectionHeader s.mem sectionHeader =
        readSectionHeader m sectionHeader :=
    readSectionHeader_congr
      (fun b hRange =>
        hContained.file hFile
          (hFile.inFile
            (hAgree.hSectionInFile sectionHeader hMem b
              hRange)))
  have hSize := hAgree.hSections sectionHeader hMem
  rw [← hHeader] at hSize
  have hOutcome :=
    elfLoader.loadNoBitsSection_outcome sectionHeader fn s
  have hCalls :=
    callsOf_loadNoBitsSection elfLoader fn sectionHeader
      hContained.hCalls
  generalize
    elfLoader.loadNoBitsSection sectionHeader fn s =
      result at hOutcome hCalls ⊢
  cases hOutcome with
  | skipped _ => exact hContained
  | tooLong _ _ => exact hContained
  | noBuffer _ _ =>
      exact
        hContained.call hCalls (fun _ => rfl) (fun _ _ => rfl)
  | loaded hAccepted =>
      have hSmall := hSize hAccepted.hNoBits
      refine
        hContained.call hCalls
          (fun hNull => absurd hNull hAccepted.hDest) ?_
      intro a hOutside
      unfold ElfLoader.sectionCall at hOutside
      dsimp only at hOutside
      rw [ElfLoader.toInt_of_lt hSmall, Int.toNat_natCast] at hOutside
      rw [memset_mem, Memory.paint_apply]
      exact if_neg hOutside

------------------------------------------------------------
-- Both Loops
------------------------------------------------------------

/-
  The section headers are found in the file again, which no
  segment was loaded to.
-/
theorem readKernelImage_contained
    (hFile : FileApart elfLoader fn filePages)
    (hAgree : HeadersAgree elfLoader s.mem)
    (hStart : CallsOf fn s.calls) :
    Contained fn s.mem
      (readKernelImage elfLoader fn s).state := by
  have hSegments :
      Contained fn s.mem (segmentLoop elfLoader fn s).2 :=
    headerLoop_invariant (Contained fn s.mem)
      (fun _ hMem _ hContained =>
        hContained.segment hFile hAgree hMem)
      ⟨hStart, fun _ _ => rfl⟩
  unfold readKernelImage
  dsimp only
  split_ifs with hFailed
  · exact hSegments
  · generalize (segmentLoop elfLoader fn s).2 = t at hSegments
    have hTable :
        elfLoader.getSectionHeaders t.mem 0 =
          elfLoader.getSectionHeaders s.mem 0 :=
      elfLoader.getSectionHeaders_congr
        (fun _ hRange =>
          hSegments.file hFile (hFile.elfHeader hRange))
        0
    rw [sectionLoop_eq hTable]
    exact
      headerLoop_invariant (Contained fn s.mem)
        (fun _ hMem _ hContained =>
          hContained.section hFile hAgree hMem)
        hSegments

end Loops

/- The file of a kernel is one that agrees. -/
theorem headersAgree_of_fileHeld
    {kernel : Kernel}
    {elfLoader : ElfLoader}
    {m : Memory}
    (hHeld : kernel.FileHeld elfLoader m)
    (hFits : kernel.Encodable) :
    HeadersAgree elfLoader m where
  hProgInFile _ hMem := progHeader_inFile hHeld hFits hMem
  hSectionInFile _ hMem :=
    sectionHeader_inFile hHeld hFits hMem
  hSegments progHeader hMem := by
    rcases headersFit_of_fileHeld hHeld hFits with
      ⟨hSize, hSegments, _⟩
    intro hType
    have hEnds := hSegments progHeader hMem hType
    have hEnd := hEnds.hEnd
    exact ⟨hEnds.hOrder, by omega⟩
  hSections sectionHeader hMem := by
    rcases headersFit_of_fileHeld hHeld hFits with
      ⟨hSize, _, hSections⟩
    intro hNoBits
    have hEnds :=
      hSections sectionHeader hMem
        ((isNoBits_iff _).mp hNoBits)
    unfold ElfLoader.SectionEndsInFile at hEnds
    omega

------------------------------------------------------------
-- The Whole of readKernel
------------------------------------------------------------

/- The file has been given pages, and its headers agree. -/
structure ReadsAgreeingFile
    (firmware : Firmware)
    (s : BootState) : Prop where
  hAnswered :
    PagesAnswered (fileRead firmware s).2.history
  hAgree :
    (fileRead firmware s).1.BufferSize ≠ 0 →
      HeadersAgree (kernelLoader (fileRead firmware s).1)
        (fileRead firmware s).2.machine.mem

section Kernel

variable {firmware : Firmware}
variable {earlier : List (Action Addr)} {now : Held Addr}
variable {s : BootState}

/- Firmware with the file of a kernel behind it. -/
theorem readsAgreeingFile_of_serves
    {kernel : Kernel}
    {infoSize : BitVec 64}
    (hFits : kernel.Encodable)
    (hSize : kernel.file.length ≤ 2 ^ 28)
    (hServes : ServesFile firmware kernel.file infoSize)
    (hStart : NotReadYet s.history)
    (hAnswered :
      PagesAnswered (fileRead firmware s).2.history) :
    ReadsAgreeingFile firmware s where
  hAnswered := hAnswered
  hAgree _ := by
    have hPos : 0 < kernel.file.length := by
      have hLength := kernel.length_file
      omega
    have hServed :
        FileServed kernel.file (fileOpened firmware s).2
          (fileRead firmware s) := by
      apply fileServed_readFile hServes ⟨hPos, hSize⟩
      exact
        notReadYet_of_quietly (quietly_fileOpened firmware s)
          hStart
    exact
      headersAgree_of_fileHeld
        (fileHeld_of_served hServes.hLength hServed) hFits

/- Once the file is read, its loops are contained. -/
theorem imageRead_contained
    (hFresh : HandsOutFresh firmware earlier)
    {filePages : Held Addr}
    (hFile :
      FilePages firmware earlier now (fileOpened firmware s).2
        (fileRead firmware s) filePages)
    (hReads : ReadsAgreeingFile firmware s)
    (hSome : (fileRead firmware s).1.BufferSize ≠ 0)
    {a : Addr}
    (hOutside :
      ¬ InPages (callRanges (imageRead firmware s).state.calls)
        a) :
    (imageRead firmware s).state.machine.mem a =
      (fileRead firmware s).2.machine.mem a := by
  rcases hFile.hFile hReads.hAnswered hSome with
    ⟨pages, hOne, hSize⟩
  have hChecked :=
    hFile.hKept.quietly (quietly_fileChecked firmware s)
  have hApart :
      FileApart (kernelLoader (fileRead firmware s).1)
        (kernelCallback firmware
          (fileChecked firmware s).history)
        pages :=
    { hSome := by
        have hNonzero := mt BitVec.eq_of_toNat_eq hSome
        exact Nat.pos_of_ne_zero hNonzero
      hPages := hSize
      hApart := by
        intro calls hCalls b hRange
        have hKept :=
          keptApart_callbackHistory hFresh hChecked hCalls
        apply not_inPages_of_apart hKept.hApart
        refine ⟨((fileRead firmware s).1.Buffer, pages), ?_, hRange⟩
        rw [hOne]
        exact List.mem_cons_self }
  have hMem :
      (imageStart (fileChecked firmware s)).mem =
        (fileRead firmware s).2.machine.mem := by
    rw [← fileChecked_machine]
    rfl
  have hImage :=
    readKernelImage_contained hApart
      (s := imageStart (fileChecked firmware s))
      (hMem ▸ hReads.hAgree hSome) .nil
  rw [hMem] at hImage
  unfold imageRead kernelImage at hOutside ⊢
  exact hImage.hElsewhere a hOutside

/-
  However `readKernel` returns, it has changed nothing but
  pages it was granted, all of which are still held, and the
  buffers that were given to `GetInfo`.
-/
theorem readKernel_contained
    (hFresh : HandsOutFresh firmware earlier)
    (hWithin : ReadsWithin firmware)
    (hInfo : InfoWithin firmware)
    (hKept : KeptApart earlier s.history now)
    (hReads :
      Opened firmware s → ReadsAgreeingFile firmware s) :
    ∃ kept,
      KeptApart earlier (readKernel firmware s).2.history
          (kept ++ now) ∧
        WritesOnly (InPages kept) s
          (readKernel firmware s).2 := by
  have hShort : ReadsAtMost firmware :=
    fun history size buffer _ => hWithin history size buffer
  have hMachine := machine_fileOpened firmware s
  rcases quietly_fileOpened firmware s with ⟨opened, hOpen, _⟩
  rcases quietly_volumeFound firmware s with ⟨found, hFound, _⟩
  rcases readKernel_grants hFresh hShort hKept with
    ⟨kept, filePages, hGranted, hFile, hAll⟩
  have hStart :
      WritesOnly (InPages kept) s (fileOpened firmware s).2 :=
    .of_machine opened hOpen hMachine
  refine ⟨kept, hGranted, ?_⟩
  have hRead (hOpened : Opened firmware s) :
      WritesOnly (InPages filePages) (fileOpened firmware s).2
        (fileRead firmware s).2 :=
    hFile.hWrites (hReads hOpened).hAnswered hWithin hInfo
  have hRan
      (hOpened : Opened firmware s)
      (hSome : (fileRead firmware s).1.BufferSize ≠ 0) :
      WritesOnly (InPages kept) s
        (readKernel firmware s).2 := by
    rw [hAll hOpened, if_neg hSome]
    apply readKernel_writes hOpened hSome
    · apply (hRead hOpened).mono
      exact fun a hInside => inPages_append_iff.mpr (.inr hInside)
    · intro a hOutside
      rw [inPages_append_iff, not_or] at hOutside
      exact
        imageRead_contained hFresh hFile (hReads hOpened) hSome
          hOutside.1
  have hOutcome := readKernel_outcome firmware s
  generalize
    readKernel firmware s = result at hOutcome hRan ⊢
  cases hOutcome with
  | noVolume hVolume => exact .of_machine found hFound hMachine
  | notOpened hStatus => exact hStart
  | notRead hOpened hNone =>
      have hPages := hAll hOpened
      rw [if_pos hNone] at hPages
      rw [hPages] at hStart ⊢
      exact hStart.trans (hRead hOpened)
  | notLoaded hOpened hSome _ => exact hRan hOpened hSome
  | loaded hOpened hSome _ => exact hRan hOpened hSome

end Kernel

end KernelReader

------------------------------------------------------------
-- The Whole Boot
------------------------------------------------------------

namespace Main

open ByteMachine Elf KernelReader Resources

/-
  The firmware keeps to the buffers it is given, and hands
  out no page twice. Any of its calls may fail.
-/
structure KeepsToBuffers (systemTable : SystemTable) : Prop
    where
  hApart : KeepsPagesApart systemTable
  hReads :
    ∀ log, ReadsWithin (systemTable.kernelServices log)
  hInfo :
    ∀ log, InfoWithin (systemTable.kernelServices log)
  hMaps :
    ∀ log,
      ReportsFittingMaps (systemTable.mapServices log)

/- The call of `readKernel` would be made in this state. -/
def ReadsAgreeingFileAt
    (systemTable : SystemTable)
    (s : MainState) : Prop :=
  Opened (systemTable.kernelServices s.log)
      (kernelStart s.machine s.error) →
    ReadsAgreeingFile (systemTable.kernelServices s.log)
      (kernelStart s.machine s.error)

section Run

variable {systemTable : SystemTable} {now : Held Addr}
variable {s : MainState}

theorem callReadKernel_contained
    (hKeeps : KeepsToBuffers systemTable)
    (hFile : ReadsAgreeingFileAt systemTable s)
    (hKept : PagesKept s.log now) :
    ∃ kept,
      PagesKept (callReadKernel systemTable s).2.log
          (kept ++ now) ∧
        ChangesOnly (InPages kept) s
          (callReadKernel systemTable s).2 := by
  rcases
      @readKernel_contained (systemTable.kernelServices s.log)
        (bootActions s.log) now (kernelStart s.machine s.error)
        (hKeeps.hApart.hKernel s.log) (hKeeps.hReads s.log)
        (hKeeps.hInfo s.log) ⟨hKept.hHeld, hKept.hApart⟩ hFile with
    ⟨kept, hLater, hWrites⟩
  refine
    ⟨kept, ⟨?_, hLater.hApart⟩, .of_readKernel hWrites⟩
  unfold callReadKernel
  rw [bootActions_kernel]
  exact hLater.hHeld

/-
  Whatever the file of the kernel is, as long as its headers
  agree, and wherever the boot ends, in an error or not: of
  the memory only pages have changed that this run was
  granted, and that it still holds, and the buffers that
  were given to `GetInfo`.
-/
theorem efi_main_contained
    (hKeeps : KeepsToBuffers systemTable)
    (hFile :
      ∀ t : MainState,
        SameMemory s t → ReadsAgreeingFileAt systemTable t)
    (hKept : PagesKept s.log now)
    (rounds : Nat) :
    ∃ pages,
      PagesKept (efi_main systemTable rounds s).2.log
          (pages ++ now) ∧
        ChangesOnly (InPages pages) s
          (efi_main systemTable rounds s).2 := by
  have hOutcome := efi_main_outcome systemTable rounds s
  generalize
    efi_main systemTable rounds s = result at hOutcome ⊢
  cases hOutcome with
  | stopped _ hSame =>
      exact ⟨[], hSame.pagesKept hKept, .of_same hSame⟩
  | @ran t hSame =>
      rcases mainAfterFramebuffer_eq systemTable t with
        ⟨_, u, hEnd, hAfter⟩
      rcases
          callReadKernel_contained hKeeps (hFile t hSame)
            (hSame.pagesKept hKept) with
        ⟨kernelPages, hKernelPages, hOthers⟩
      rcases
          callGetMemoryMap_keepsPages hKeeps.hApart
            hKernelPages with
        ⟨mapPages, hMap, hMapPages, _⟩
      rw [hEnd]
      refine
        ⟨mapPages ++ kernelPages, ?_,
          hSame.bothCalls hOthers
            (callGetMemoryMap_changes (hKeeps.hMaps _) hMap)
            hAfter⟩
      rw [List.append_assoc]
      exact hAfter.pagesKept hMapPages

end Run

theorem sampleTable_keepsToBuffers :
    KeepsToBuffers sampleTable where
  hApart := sampleTable_keepsPagesApart
  hReads := sampleTable_readsWithin
  hInfo log := (sampleTable_servesFile log).infoWithin
  hMaps := sampleTable_servesKernel.hMaps

theorem efi_main_contained_sample :
    ∃ pages,
      PagesKept (efi_main sampleTable 0 emptyMain).2.log
          (pages ++ []) ∧
        ChangesOnly (InPages pages) emptyMain
          (efi_main sampleTable 0 emptyMain).2 := by
  have hFile :
      ∀ t : MainState,
        SameMemory emptyMain t →
          ReadsAgreeingFileAt sampleTable t := by
    intro t hSame _
    refine
      readsAgreeingFile_of_serves sampleKernel_encodable
        (by rw [length_sampleKernel_file]; decide)
        (sampleTable_servesFile t.log)
        (List.forall_mem_nil _) ?_
    show
      PagesAnswered
        (fileRead
          (servingFirmware sampleKernel.file
            (bootActions t.log))
          (kernelStart t.machine t.error)).2.history
    rw [hSame.hActions, hSame.hMachine]
    generalize t.error = error
    cases error <;> decide +kernel
  exact
    @efi_main_contained sampleTable [] emptyMain
      sampleTable_keepsToBuffers hFile
      ⟨rfl, List.Pairwise.nil⟩ 0

end Main

end Chihuahua
