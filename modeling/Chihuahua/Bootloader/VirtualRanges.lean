import Mathlib
import Chihuahua.Bootloader.KernelReader
import Chihuahua.Elf.LoadItem

/-
  The virtual addresses for which the loader asks for
  buffers. The zero tail of a segment is also a section
  without bytes, so the second loop asks for it again.

  Main declarations:
    * `imageRequests` and `BackedOnce`
    * `ImageFormat` and `ReadsFileHeaders`
    * `backedOnce_of_segments`
    * `backedOnce_iff`
-/

------------------------------------------------------------
-- Requests of a Run
------------------------------------------------------------

namespace Chihuahua

namespace KernelReader

open ByteMachine Elf

/- The request behind a load that ends in `NoError`. -/
def loadedCall
    (result : ElfError × LoaderState) : Option LoaderCall :=
  if result.1 = .NoError then
    result.2.calls.head?
  else
    none

/- The requests of the first loop. -/
def segmentRequests
    (elfLoader : ElfLoader)
    (fn : LoaderFunction)
    (s : LoaderState) : List LoaderCall :=
  (segmentSteps elfLoader fn s).filterMap
    (fun step =>
      loadedCall
        (elfLoader.loadExecutableProgram step.1 fn step.2))

/- The steps of the second loop, if it is reached. -/
def sectionStepsReached
    (elfLoader : ElfLoader)
    (fn : LoaderFunction)
    (s : LoaderState) : List (Addr × LoaderState) :=
  if ∃ error ∈ (segmentLoop elfLoader fn s).1,
      LoadFailed error then
    []
  else
    sectionSteps elfLoader fn (segmentLoop elfLoader fn s).2

def sectionRequests
    (elfLoader : ElfLoader)
    (fn : LoaderFunction)
    (s : LoaderState) : List LoaderCall :=
  (sectionStepsReached elfLoader fn s).filterMap
    (fun step =>
      loadedCall
        (elfLoader.loadNoBitsSection step.1 fn step.2))

def imageRequests
    (elfLoader : ElfLoader)
    (fn : LoaderFunction)
    (s : LoaderState) : List LoaderCall :=
  segmentRequests elfLoader fn s ++
    sectionRequests elfLoader fn s

/- The virtual addresses a request is for. -/
def requestRange (call : LoaderCall) : Set Int :=
  Set.Ico (call.virtAddress.toNat : Int)
    (call.virtAddress.toNat + call.memorySize)

/- No virtual address is backed by two buffers. -/
def BackedOnce
    (elfLoader : ElfLoader)
    (fn : LoaderFunction)
    (s : LoaderState) : Prop :=
  (imageRequests elfLoader fn s).Pairwise
    (fun first second =>
      Disjoint (requestRange first) (requestRange second))

------------------------------------------------------------
-- The Format of an Image
------------------------------------------------------------

/- The elements of a table of the file. -/
def fileHeaders
    (elfLoader : ElfLoader)
    (offset : BitVec 64)
    (entriesNum : BitVec 16)
    (size : Nat) : List Addr :=
  (List.range entriesNum.toNat).map
    (fun i =>
      elfLoader.elfFile + offset +
        BitVec.ofNat 64 (size * i))

def fileProgHeaders
    (elfLoader : ElfLoader)
    (m : Memory) : List Addr :=
  let elfHeader := readElfHeader m elfLoader.elfFile
  fileHeaders elfLoader elfHeader.ProgHeaderOffset
    elfHeader.ProgHeaderTableEntriesNum PROG_HEADER_SIZE

def fileSectionHeaders
    (elfLoader : ElfLoader)
    (m : Memory) : List Addr :=
  let elfHeader := readElfHeader m elfLoader.elfFile
  fileHeaders elfLoader elfHeader.SectionHeaderOffset
    elfHeader.SectionHeaderTableEntriesNum
    SECTION_HEADER_SIZE

def segmentRange (header : Elf64_ProgHeader) : Set Int :=
  Set.Ico (header.VirtAddress.toNat : Int)
    (header.VirtAddress.toNat + header.SizeInMemory.toNat)

def sectionRange (header : Elf64_SectionHeader) : Set Int :=
  Set.Ico (header.VirtualAddress.toNat : Int)
    (header.VirtualAddress.toNat + header.SectionSize.toNat)

def IsLoad (header : Elf64_ProgHeader) : Prop :=
  header.SegmentType = Elf_SegmentType.PT_LOAD

/-
  What the format asks of a file: segments are apart, and a
  section without bytes is part of a segment.
-/
structure ImageFormat
    (elfLoader : ElfLoader)
    (m : Memory) : Prop where
  hSegments :
    (fileProgHeaders elfLoader m).Pairwise
      (fun a b =>
        IsLoad (readProgHeader m a) →
          IsLoad (readProgHeader m b) →
            Disjoint (segmentRange (readProgHeader m a))
              (segmentRange (readProgHeader m b)))
  hSections :
    ∀ a ∈ fileSectionHeaders elfLoader m,
      ElfLoader.IsNoBits (readSectionHeader m a) →
        ∃ b ∈ fileProgHeaders elfLoader m,
          IsLoad (readProgHeader m b) ∧
            sectionRange (readSectionHeader m a) ⊆
              segmentRange (readProgHeader m b)

/-
  The loops read headers of the file, as they were when the
  file was read: a table with entries is found by its getter,
  and nothing has been loaded over a header before its turn.
-/
structure ReadsFileHeaders
    (elfLoader : ElfLoader)
    (fn : LoaderFunction)
    (s : LoaderState) : Prop where
  hProgHeaders :
    (elementAddresses (elfLoader.getProgramHeaders s.mem 0)
      PROG_HEADER_SIZE).Sublist
      (fileProgHeaders elfLoader s.mem)
  hSegments :
    ∀ step ∈ segmentSteps elfLoader fn s,
      readProgHeader step.2.mem step.1 =
        readProgHeader s.mem step.1
  hSections :
    ∀ step ∈ sectionStepsReached elfLoader fn s,
      step.1 ∈ fileSectionHeaders elfLoader s.mem ∧
        readSectionHeader step.2.mem step.1 =
          readSectionHeader s.mem step.1

/- No section passes the checks when its turn comes. -/
def NoSectionLoads
    (elfLoader : ElfLoader)
    (fn : LoaderFunction)
    (s : LoaderState) : Prop :=
  ∀ step ∈ sectionStepsReached elfLoader fn s,
    ¬ elfLoader.AcceptsSection
      (readSectionHeader step.2.mem step.1)
      (ElfLoader.sectionDest step.1 fn step.2)

/- The file's segments are all read, and below 2 GiB. -/
structure SegmentsRead
    (elfLoader : ElfLoader)
    (m : Memory) : Prop where
  hTable :
    elementAddresses (elfLoader.getProgramHeaders m 0)
        PROG_HEADER_SIZE =
      fileProgHeaders elfLoader m
  hSizes :
    ∀ a ∈ fileProgHeaders elfLoader m,
      IsLoad (readProgHeader m a) →
        (readProgHeader m a).SizeInMemory.toNat < 2 ^ 31

------------------------------------------------------------
-- Requests for Headers
------------------------------------------------------------

theorem loadedCall_segment_iff
    (elfLoader : ElfLoader)
    (progHeader : Addr)
    (fn : LoaderFunction)
    (s : LoaderState)
    (call : LoaderCall) :
    loadedCall
          (elfLoader.loadExecutableProgram progHeader fn s) =
        some call ↔
      elfLoader.AcceptsSegment
          (readProgHeader s.mem progHeader)
          (ElfLoader.segmentDest progHeader fn s) ∧
        ElfLoader.segmentCall progHeader fn s = call := by
  have hOutcome :=
    elfLoader.loadExecutableProgram_outcome progHeader fn s
  generalize
    elfLoader.loadExecutableProgram progHeader fn s =
      result at hOutcome ⊢
  cases hOutcome with
  | skipped hType =>
      refine iff_of_false (by simp [loadedCall]) ?_
      exact fun hAccepts => hType hAccepts.1.hType
  | noBuffer _ hDest =>
      refine iff_of_false (by simp [loadedCall]) ?_
      exact fun hAccepts => hAccepts.1.hDest hDest
  | tooLong _ _ hRefused =>
      refine iff_of_false (by simp [loadedCall]) ?_
      exact fun hAccepts => hRefused hAccepts.1
  | loaded hAccepted =>
      simp [loadedCall, hAccepted]

theorem loadedCall_section_iff
    (elfLoader : ElfLoader)
    (sectionHeader : Addr)
    (fn : LoaderFunction)
    (s : LoaderState)
    (call : LoaderCall) :
    loadedCall
          (elfLoader.loadNoBitsSection sectionHeader fn s) =
        some call ↔
      elfLoader.AcceptsSection
          (readSectionHeader s.mem sectionHeader)
          (ElfLoader.sectionDest sectionHeader fn s) ∧
        ElfLoader.sectionCall sectionHeader fn s = call := by
  have hOutcome :=
    elfLoader.loadNoBitsSection_outcome sectionHeader fn s
  generalize
    elfLoader.loadNoBitsSection sectionHeader fn s =
      result at hOutcome ⊢
  cases hOutcome with
  | skipped hNoBits =>
      refine iff_of_false (by simp [loadedCall]) ?_
      exact fun hAccepts => hNoBits hAccepts.1.hNoBits
  | tooLong _ hRefused =>
      refine iff_of_false (by simp [loadedCall]) ?_
      exact fun hAccepts => hRefused _ hAccepts.1
  | noBuffer _ hDest =>
      refine iff_of_false (by simp [loadedCall]) ?_
      exact fun hAccepts => hAccepts.1.hDest hDest
  | loaded hAccepted =>
      simp [loadedCall, hAccepted]

/- Narrowing a size only shortens its range. -/
theorem requestRange_segmentCall_subset
    (progHeader : Addr)
    (fn : LoaderFunction)
    (s : LoaderState) :
    requestRange (ElfLoader.segmentCall progHeader fn s) ⊆
      segmentRange (readProgHeader s.mem progHeader) := by
  apply Set.Ico_subset_Ico_right
  have hSize :=
    toInt_le_toNat
      (readProgHeader s.mem progHeader).SizeInMemory
  exact Int.add_le_add_left hSize _

theorem requestRange_segmentCall
    (progHeader : Addr)
    (fn : LoaderFunction)
    (s : LoaderState)
    (hSize :
      (readProgHeader s.mem
          progHeader).SizeInMemory.toNat <
        2 ^ 31) :
    requestRange (ElfLoader.segmentCall progHeader fn s) =
      segmentRange (readProgHeader s.mem progHeader) := by
  unfold requestRange segmentRange
  dsimp only [ElfLoader.segmentCall]
  rw [ElfLoader.toInt_of_lt hSize]

------------------------------------------------------------
-- Steps and Headers
------------------------------------------------------------

theorem visited_of_headerSteps
    (load : Addr → LoaderState → ElfError × LoaderState)
    (headers : List Addr)
    (s : LoaderState) :
    (headerSteps load headers s).map Prod.fst <+:
      headers := by
  induction headers generalizing s with
  | nil => exact List.prefix_rfl
  | cons header headers ih =>
      unfold headerSteps
      dsimp only
      rw [List.map_cons, List.prefix_cons_inj]
      split_ifs
      · exact List.nil_prefix
      · exact ih _

/- A loop that does not fail comes to every header. -/
theorem headerSteps_headers
    {load : Addr → LoaderState → ElfError × LoaderState}
    {headers : List Addr}
    {s : LoaderState}
    (hLoads :
      ∀ error ∈ (headerLoop load headers s).1,
        ¬ LoadFailed error) :
    (headerSteps load headers s).map Prod.fst = headers := by
  induction headers generalizing s with
  | nil => rfl
  | cons header headers ih =>
      unfold headerLoop at hLoads
      unfold headerSteps
      dsimp only at hLoads ⊢
      rw [List.map_cons]
      split_ifs at hLoads ⊢ with hFailed
      · exact absurd hFailed (hLoads _ List.mem_cons_self)
      · rw [ih]
        exact
          fun error hMem =>
            hLoads error (List.mem_cons_of_mem _ hMem)

theorem mem_segmentRequests_iff
    (elfLoader : ElfLoader)
    (fn : LoaderFunction)
    (s : LoaderState)
    (call : LoaderCall) :
    call ∈ segmentRequests elfLoader fn s ↔
      ∃ step ∈ segmentSteps elfLoader fn s,
        elfLoader.AcceptsSegment
            (readProgHeader step.2.mem step.1)
            (ElfLoader.segmentDest step.1 fn step.2) ∧
          ElfLoader.segmentCall step.1 fn step.2 = call := by
  simp only [segmentRequests, List.mem_filterMap,
    loadedCall_segment_iff]

theorem mem_sectionRequests_iff
    (elfLoader : ElfLoader)
    (fn : LoaderFunction)
    (s : LoaderState)
    (call : LoaderCall) :
    call ∈ sectionRequests elfLoader fn s ↔
      ∃ step ∈ sectionStepsReached elfLoader fn s,
        elfLoader.AcceptsSection
            (readSectionHeader step.2.mem step.1)
            (ElfLoader.sectionDest step.1 fn step.2) ∧
          ElfLoader.sectionCall step.1 fn step.2 = call := by
  simp only [sectionRequests, List.mem_filterMap,
    loadedCall_section_iff]

------------------------------------------------------------
-- One Buffer for Each Address
------------------------------------------------------------

/- The first loop alone asks for nothing twice. -/
theorem segmentRequests_pairwise
    {elfLoader : ElfLoader}
    {fn : LoaderFunction}
    {s : LoaderState}
    (hFormat : ImageFormat elfLoader s.mem)
    (hReads : ReadsFileHeaders elfLoader fn s) :
    (segmentRequests elfLoader fn s).Pairwise
      (fun first second =>
        Disjoint (requestRange first)
          (requestRange second)) := by
  have hSteps :
      ((segmentSteps elfLoader fn s).map
        Prod.fst).Sublist
        (fileProgHeaders elfLoader s.mem) :=
    (visited_of_headerSteps _ _ _).sublist.trans
      hReads.hProgHeaders
  have hApart := hFormat.hSegments.sublist hSteps
  rw [List.pairwise_map] at hApart
  unfold segmentRequests
  rw [List.pairwise_filterMap]
  refine hApart.imp_of_mem ?_
  intro first second hFirst hSecond hDisjoint call hCall
    other hOther
  rw [loadedCall_segment_iff] at hCall hOther
  rcases hCall with ⟨hAccepted, rfl⟩
  rcases hOther with ⟨hOtherAccepted, rfl⟩
  have hFirstRange :=
    requestRange_segmentCall_subset first.1 fn first.2
  have hSecondRange :=
    requestRange_segmentCall_subset second.1 fn second.2
  rw [hReads.hSegments first hFirst] at hFirstRange hAccepted
  rw [hReads.hSegments second hSecond]
    at hSecondRange hOtherAccepted
  exact
    (hDisjoint hAccepted.hType hOtherAccepted.hType).mono
      hFirstRange hSecondRange

theorem backedOnce_of_segments
    {elfLoader : ElfLoader}
    {fn : LoaderFunction}
    {s : LoaderState}
    (hFormat : ImageFormat elfLoader s.mem)
    (hReads : ReadsFileHeaders elfLoader fn s)
    (hNone : NoSectionLoads elfLoader fn s) :
    BackedOnce elfLoader fn s := by
  have hSections : sectionRequests elfLoader fn s = [] := by
    refine List.eq_nil_iff_forall_not_mem.mpr ?_
    intro call hCall
    rw [mem_sectionRequests_iff] at hCall
    rcases hCall with ⟨step, hStep, hAccepted, _⟩
    exact hNone step hStep hAccepted
  unfold BackedOnce imageRequests
  rw [hSections, List.append_nil]
  exact segmentRequests_pairwise hFormat hReads

/- A section that is part of a segment starts in it. -/
theorem first_mem_sectionCall
    (sectionHeader : Addr)
    (fn : LoaderFunction)
    (s : LoaderState)
    {segment : Elf64_ProgHeader}
    (hSize :
      (readSectionHeader s.mem sectionHeader).SectionSize ≠ 0)
    (hPart :
      sectionRange (readSectionHeader s.mem sectionHeader) ⊆
        segmentRange segment)
    (hSmall : segment.SizeInMemory.toNat < 2 ^ 31) :
    ((readSectionHeader s.mem
            sectionHeader).VirtualAddress.toNat : Int) ∈
        segmentRange segment ∧
      ((readSectionHeader s.mem
            sectionHeader).VirtualAddress.toNat : Int) ∈
        requestRange
          (ElfLoader.sectionCall sectionHeader fn s) := by
  unfold requestRange
  dsimp only [ElfLoader.sectionCall]
  generalize
    readSectionHeader s.mem sectionHeader =
      header at hSize hPart ⊢
  have hPositive : 0 < header.SectionSize.toNat := by
    rw [Nat.pos_iff_ne_zero]
    exact fun hZero => hSize (BitVec.eq_of_toNat_eq hZero)
  have hFirst :
      (header.VirtualAddress.toNat : Int) ∈
        segmentRange segment := by
    apply hPart
    rw [sectionRange, Set.mem_Ico]
    omega
  have hLast :
      (header.VirtualAddress.toNat : Int) +
          header.SectionSize.toNat - 1 ∈
        segmentRange segment := by
    apply hPart
    rw [sectionRange, Set.mem_Ico]
    omega
  refine ⟨hFirst, ?_⟩
  rw [segmentRange, Set.mem_Ico] at hFirst hLast
  have hInt :
      toInt header.SectionSize =
        header.SectionSize.toNat :=
    ElfLoader.toInt_of_lt (by omega)
  rw [Set.mem_Ico, hInt]
  omega

/- If no segment fails, each has been asked for in full. -/
theorem segment_requested
    {elfLoader : ElfLoader}
    {fn : LoaderFunction}
    {s : LoaderState}
    (hReads : ReadsFileHeaders elfLoader fn s)
    (hRead : SegmentsRead elfLoader s.mem)
    (hReached :
      ∀ error ∈ (segmentLoop elfLoader fn s).1,
        ¬ LoadFailed error)
    {progHeader : Addr}
    (hProg : progHeader ∈ fileProgHeaders elfLoader s.mem)
    (hLoad : IsLoad (readProgHeader s.mem progHeader)) :
    ∃ call ∈ segmentRequests elfLoader fn s,
      requestRange call =
        segmentRange (readProgHeader s.mem progHeader) := by
  have hVisited :
      progHeader ∈
        (segmentSteps elfLoader fn s).map Prod.fst := by
    unfold segmentSteps
    rw [headerSteps_headers hReached, hRead.hTable]
    exact hProg
  rcases List.mem_map.mp hVisited with ⟨step, hStep, rfl⟩
  have hKept := hReads.hSegments step hStep
  have hAccepted :
      elfLoader.AcceptsSegment
        (readProgHeader step.2.mem step.1)
        (ElfLoader.segmentDest step.1 fn step.2) := by
    have hLoads := hReached
    unfold segmentLoop at hLoads
    rw [forall_headerLoop_errors_iff] at hLoads
    have hGoesOn := hLoads step hStep
    rw [loadFailed_segment_iff, hKept] at hGoesOn
    rw [hKept]
    by_contra hRefused
    exact hGoesOn ⟨hLoad, hRefused⟩
  refine
    ⟨ElfLoader.segmentCall step.1 fn step.2,
      (mem_segmentRequests_iff elfLoader fn s _).mpr
        ⟨step, hStep, hAccepted, rfl⟩, ?_⟩
  rw [requestRange_segmentCall, hKept]
  rw [hKept]
  exact hRead.hSizes step.1 hProg hLoad

/- The first address of a section is asked for again. -/
theorem noSectionLoads_of_backedOnce
    {elfLoader : ElfLoader}
    {fn : LoaderFunction}
    {s : LoaderState}
    (hFormat : ImageFormat elfLoader s.mem)
    (hReads : ReadsFileHeaders elfLoader fn s)
    (hRead : SegmentsRead elfLoader s.mem)
    (hBacked : BackedOnce elfLoader fn s) :
    NoSectionLoads elfLoader fn s := by
  intro step hStep hAccepted
  have hReached :
      ∀ error ∈ (segmentLoop elfLoader fn s).1,
        ¬ LoadFailed error := by
    intro error hMem hFailed
    unfold sectionStepsReached at hStep
    rw [if_pos ⟨error, hMem, hFailed⟩] at hStep
    exact List.not_mem_nil hStep
  rcases hReads.hSections step hStep with ⟨hMem, hKept⟩
  have hNoBits := hAccepted.hNoBits
  rw [hKept] at hNoBits
  -- the segment that the section is a part of
  rcases hFormat.hSections step.1 hMem hNoBits with
    ⟨progHeader, hProg, hLoad, hPart⟩
  rw [← hKept] at hPart
  rcases segment_requested hReads hRead hReached hProg hLoad
    with ⟨call, hFirst, hRange⟩
  have hSecond :=
    (mem_sectionRequests_iff elfLoader fn s _).mpr
      ⟨step, hStep, hAccepted, rfl⟩
  have hDisjoint :=
    (List.pairwise_append.mp hBacked).2.2 _ hFirst _ hSecond
  rw [hRange] at hDisjoint
  -- both requests are for the first address of the section
  have hFirstAddress :=
    first_mem_sectionCall step.1 fn step.2
      hAccepted.hNoBits.hSize hPart
      (hRead.hSizes progHeader hProg hLoad)
  exact
    Set.disjoint_left.mp hDisjoint hFirstAddress.1
      hFirstAddress.2

/-
  Where the loops read the headers of the file, no address is
  backed twice if no section is loaded, and only then if the
  segments of the file are read as well.
-/
theorem backedOnce_iff
    (elfLoader : ElfLoader)
    (fn : LoaderFunction)
    (s : LoaderState)
    (hFormat : ImageFormat elfLoader s.mem)
    (hReads : ReadsFileHeaders elfLoader fn s) :
    (NoSectionLoads elfLoader fn s →
        BackedOnce elfLoader fn s) ∧
      (SegmentsRead elfLoader s.mem →
        BackedOnce elfLoader fn s →
          NoSectionLoads elfLoader fn s) :=
  ⟨backedOnce_of_segments hFormat hReads,
    noSectionLoads_of_backedOnce hFormat hReads⟩

/- Two segments of 32 bytes, at 0x100000 and 0x200000. -/
def twoSegmentsFile : List Byte :=
  sampleElfHeader 64 2 ++
    (sampleHeaders 16 32 16).take 56 ++
      ((sampleHeaders 16 32 16).take 56).set 18 0x20

theorem imageFormat_twoSegmentsFile :
    ImageFormat (sampleLoader 256)
      (sampleFile twoSegmentsFile).mem := by
  have hProg :
      fileProgHeaders (sampleLoader 256)
          (sampleFile twoSegmentsFile).mem =
        [0x1040, 0x1078] := by
    decide +kernel
  have hSection :
      fileSectionHeaders (sampleLoader 256)
          (sampleFile twoSegmentsFile).mem =
        [] := by
    decide +kernel
  have hFirst :
      readProgHeader (sampleFile twoSegmentsFile).mem
          0x1040 =
        { SegmentType := 1
          Flags := 5
          Offset := 0
          VirtAddress := 0x100000
          SizeInFile := 16
          SizeInMemory := 32 } := by
    decide +kernel
  have hSecond :
      readProgHeader (sampleFile twoSegmentsFile).mem
          0x1078 =
        { SegmentType := 1
          Flags := 5
          Offset := 0
          VirtAddress := 0x200000
          SizeInFile := 16
          SizeInMemory := 32 } := by
    decide +kernel
  constructor
  · rw [hProg, List.pairwise_pair, hFirst, hSecond]
    intro _ _
    exact Set.Ico_disjoint_Ico.mpr (by decide)
  · rw [hSection]
    exact List.forall_mem_nil _

/- Both segments are loaded, and no section is. -/
theorem backedOnce_iff_sample :
    (imageRequests (sampleLoader 256) sampleCallback
        (sampleFile twoSegmentsFile)).map
          LoaderCall.virtAddress =
      [0x100000, 0x200000] ∧
    NoSectionLoads (sampleLoader 256) sampleCallback
      (sampleFile twoSegmentsFile) ∧
    BackedOnce (sampleLoader 256) sampleCallback
      (sampleFile twoSegmentsFile) := by
  have hNone :
      NoSectionLoads (sampleLoader 256) sampleCallback
        (sampleFile twoSegmentsFile) := by
    have hSteps :
        (sectionStepsReached (sampleLoader 256)
          sampleCallback
          (sampleFile twoSegmentsFile)).length = 0 := by
      decide +kernel
    rw [List.length_eq_zero_iff] at hSteps
    unfold NoSectionLoads
    rw [hSteps]
    exact List.forall_mem_nil _
  refine ⟨by decide +kernel, hNone, ?_⟩
  exact
    (backedOnce_iff (sampleLoader 256) sampleCallback
      (sampleFile twoSegmentsFile)
      imageFormat_twoSegmentsFile
      { hProgHeaders := by decide +kernel
        hSegments := by decide +kernel
        hSections := by decide +kernel }).1 hNone

/- One segment, whose second half is a section of zeros. -/
def zeroTailFile : List Byte :=
  ((sampleElfHeader 64 1).set 40 120).set 60 1 ++
    ((sampleHeaders 16 32 16).set 72 0x10).set 74 0x10

theorem imageFormat_zeroTailFile :
    ImageFormat (sampleLoader 256)
      (sampleFile zeroTailFile).mem := by
  have hProg :
      fileProgHeaders (sampleLoader 256)
          (sampleFile zeroTailFile).mem =
        [0x1040] := by
    decide +kernel
  have hSection :
      fileSectionHeaders (sampleLoader 256)
          (sampleFile zeroTailFile).mem =
        [0x1078] := by
    decide +kernel
  have hSegmentHeader :
      readProgHeader (sampleFile zeroTailFile).mem 0x1040 =
        { SegmentType := 1
          Flags := 5
          Offset := 0
          VirtAddress := 0x100000
          SizeInFile := 16
          SizeInMemory := 32 } := by
    decide +kernel
  have hSectionHeader :
      readSectionHeader (sampleFile zeroTailFile).mem 0x1078 =
        { SectionHeaderType := 8
          Flags := 2
          VirtualAddress := 0x100010
          OffsetInFile := 0
          SectionSize := 16 } := by
    decide +kernel
  constructor
  · rw [hProg]
    exact List.pairwise_singleton _ _
  · rw [hProg, hSection]
    intro a hMem _
    rw [List.mem_singleton] at hMem
    subst hMem
    refine ⟨0x1040, List.mem_singleton.mpr rfl, ?_, ?_⟩
    · rw [hSegmentHeader]
      rfl
    · rw [hSegmentHeader, hSectionHeader]
      exact Set.Ico_subset_Ico (by decide) (by decide)

/- The zeros get a buffer of the segment, and one more. -/
theorem backedOnce_fails :
    ImageFormat (sampleLoader 256)
        (sampleFile zeroTailFile).mem ∧
      ¬ BackedOnce (sampleLoader 256) sampleCallback
        (sampleFile zeroTailFile) := by
  refine ⟨imageFormat_zeroTailFile, ?_⟩
  have hRequests :
      imageRequests (sampleLoader 256) sampleCallback
          (sampleFile zeroTailFile) =
        [{ memorySize := 32
           virtAddress := 0x100000
           segmentFlags := 5
           dest := 0x100000 },
          { memorySize := 16
            virtAddress := 0x100010
            segmentFlags := 6
            dest := 0x200000 }] := by
    decide +kernel
  unfold BackedOnce
  rw [hRequests, List.pairwise_pair, Set.not_disjoint_iff]
  exact
    ⟨0x100010, Set.mem_Ico.mpr (by decide),
      Set.mem_Ico.mpr (by decide)⟩

end KernelReader

end Chihuahua
