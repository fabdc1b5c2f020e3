import Chihuahua.Elf.FileBounds

/-
  The part of `readKernel` that loads the kernel once its
  file is in memory: a loop over the program headers and a
  loop over the section headers.

  Main declarations:
    * `headerLoop` and `headerSteps`
    * `segmentLoop`, `sectionLoop` and `readKernelImage`
    * `HeaderErrorsSafe` and `CountsMatchTables`
    * `headerErrorsSafe_iff`
-/

------------------------------------------------------------
-- The Loops
------------------------------------------------------------

namespace Chihuahua

namespace KernelReader

open ByteMachine Elf

/- The test after each header, on which the loops return. -/
def LoadFailed (elfLoadError : ElfError) : Prop :=
  elfLoadError ≠ .NoError ∧
    elfLoadError ≠ .ElfSectionNotLoadable

instance
    (elfLoadError : ElfError) :
    Decidable (LoadFailed elfLoadError) := by
  unfold LoadFailed
  infer_instance

/-
  Load headers one after the other and stop at the first
  failure. The result has an error for each header loaded.
-/
def headerLoop
    (load : Addr → LoaderState → ElfError × LoaderState) :
    List Addr →
      LoaderState → List ElfError × LoaderState
| [], s => ([], s)
| header :: headers, s =>
    let (elfLoadError, s) := load header s
    if LoadFailed elfLoadError then
      ([elfLoadError], s)
    else
      let (elfLoadErrors, s) := headerLoop load headers s
      (elfLoadError :: elfLoadErrors, s)

/- The addresses `&table[i]` for `i` from 0 to the count. -/
def elementAddresses
    (headers : ElfLoader.HeaderTable)
    (size : Nat) : List Addr :=
  (List.range headers.count.toNat).map
    (fun i => headers.table + BitVec.ofNat 64 (size * i))

/- The first loop, over what `getProgramHeaders` returns. -/
def segmentLoop
    (elfLoader : ElfLoader)
    (fn : LoaderFunction)
    (s : LoaderState) : List ElfError × LoaderState :=
  headerLoop
    (fun header => elfLoader.loadExecutableProgram header fn)
    (elementAddresses (elfLoader.getProgramHeaders s.mem 0)
      PROG_HEADER_SIZE)
    s

/- The second loop, over what `getSectionHeaders` returns. -/
def sectionLoop
    (elfLoader : ElfLoader)
    (fn : LoaderFunction)
    (s : LoaderState) : List ElfError × LoaderState :=
  headerLoop
    (fun header => elfLoader.loadNoBitsSection header fn)
    (elementAddresses (elfLoader.getSectionHeaders s.mem 0)
      SECTION_HEADER_SIZE)
    s

/- What the two loops came upon. -/
structure KernelImage where
  progHeaders : ElfLoader.HeaderTable
  segmentErrors : List ElfError
  sectionHeaders : Option ElfLoader.HeaderTable
  sectionErrors : List ElfError
  state : LoaderState

/- Both counts start at 0, and the getters' errors are lost. -/
def readKernelImage
    (elfLoader : ElfLoader)
    (fn : LoaderFunction)
    (s : LoaderState) : KernelImage :=
  let progHeaders := elfLoader.getProgramHeaders s.mem 0
  let (segmentErrors, s) := segmentLoop elfLoader fn s
  if ∃ error ∈ segmentErrors, LoadFailed error then
    { progHeaders := progHeaders
      segmentErrors := segmentErrors
      sectionHeaders := none
      sectionErrors := []
      state := s }
  else
    let sectionHeaders := elfLoader.getSectionHeaders s.mem 0
    let (sectionErrors, s) := sectionLoop elfLoader fn s
    { progHeaders := progHeaders
      segmentErrors := segmentErrors
      sectionHeaders := some sectionHeaders
      sectionErrors := sectionErrors
      state := s }

/- The state in which `readKernel` gets the section headers. -/
def ReachesSections
    (elfLoader : ElfLoader)
    (fn : LoaderFunction)
    (s t : LoaderState) : Prop :=
  t = (segmentLoop elfLoader fn s).2 ∧
    ∀ error ∈ (segmentLoop elfLoader fn s).1,
      ¬ LoadFailed error

namespace KernelImage

/- The tables of which the loops take an element's address. -/
def tablesIndexed (image : KernelImage) : List Addr :=
  List.replicate image.segmentErrors.length
      image.progHeaders.table ++
    match image.sectionHeaders with
    | none => []
    | some sectionHeaders =>
        List.replicate image.sectionErrors.length
          sectionHeaders.table

end KernelImage

theorem headerLoop_errors_eq_nil_iff
    (load : Addr → LoaderState → ElfError × LoaderState)
    (headers : List Addr)
    (s : LoaderState) :
    (headerLoop load headers s).1 = [] ↔ headers = [] := by
  cases headers with
  | nil => simp [headerLoop]
  | cons header headers =>
      unfold headerLoop
      dsimp only
      split_ifs <;> simp

@[simp] theorem elementAddresses_eq_nil_iff
    (headers : ElfLoader.HeaderTable)
    (size : Nat) :
    elementAddresses headers size = [] ↔
      headers.count ≤ 0 := by
  simp [elementAddresses]

------------------------------------------------------------
-- Steps of a Loop
------------------------------------------------------------

/- The headers a loop loads, each with the state before. -/
def headerSteps
    (load : Addr → LoaderState → ElfError × LoaderState) :
    List Addr → LoaderState → List (Addr × LoaderState)
| [], _ => []
| header :: headers, s =>
    let (elfLoadError, t) := load header s
    (header, s) ::
      if LoadFailed elfLoadError then []
      else headerSteps load headers t

theorem headerLoop_errors
    (load : Addr → LoaderState → ElfError × LoaderState)
    (headers : List Addr)
    (s : LoaderState) :
    (headerLoop load headers s).1 =
      (headerSteps load headers s).map
        (fun step => (load step.1 step.2).1) := by
  induction headers generalizing s with
  | nil => rfl
  | cons header headers ih =>
      unfold headerLoop headerSteps
      dsimp only
      split_ifs with hFailed
      · rfl
      · rw [ih]
        rfl

theorem forall_headerLoop_errors_iff
    (load : Addr → LoaderState → ElfError × LoaderState)
    (headers : List Addr)
    (s : LoaderState)
    (p : ElfError → Prop) :
    (∀ error ∈ (headerLoop load headers s).1, p error) ↔
      ∀ step ∈ headerSteps load headers s,
        p (load step.1 step.2).1 := by
  rw [headerLoop_errors, List.forall_mem_map]

/- The headers the first loop comes to. -/
def segmentSteps
    (elfLoader : ElfLoader)
    (fn : LoaderFunction)
    (s : LoaderState) : List (Addr × LoaderState) :=
  headerSteps
    (fun header => elfLoader.loadExecutableProgram header fn)
    (elementAddresses (elfLoader.getProgramHeaders s.mem 0)
      PROG_HEADER_SIZE)
    s

/- The headers the second loop comes to. -/
def sectionSteps
    (elfLoader : ElfLoader)
    (fn : LoaderFunction)
    (s : LoaderState) : List (Addr × LoaderState) :=
  headerSteps
    (fun header => elfLoader.loadNoBitsSection header fn)
    (elementAddresses (elfLoader.getSectionHeaders s.mem 0)
      SECTION_HEADER_SIZE)
    s

theorem loadFailed_segment_iff
    (elfLoader : ElfLoader)
    (progHeader : Addr)
    (fn : LoaderFunction)
    (s : LoaderState) :
    LoadFailed
        (elfLoader.loadExecutableProgram progHeader fn s).1 ↔
      (readProgHeader s.mem progHeader).SegmentType =
          Elf_SegmentType.PT_LOAD ∧
        ¬ elfLoader.AcceptsSegment
          (readProgHeader s.mem progHeader)
          (ElfLoader.segmentDest progHeader fn s) := by
  have hOutcome :=
    elfLoader.loadExecutableProgram_outcome progHeader fn s
  generalize
    elfLoader.loadExecutableProgram progHeader fn s =
      result at hOutcome ⊢
  cases hOutcome with
  | skipped hType =>
      refine iff_of_false (by simp [LoadFailed]) ?_
      exact fun hFails => hType hFails.1
  | noBuffer hType hDest =>
      refine iff_of_true (by simp [LoadFailed]) ⟨hType, ?_⟩
      exact fun hAccepts => hAccepts.hDest hDest
  | tooLong hType _ hRefused =>
      exact iff_of_true (by simp [LoadFailed]) ⟨hType, hRefused⟩
  | loaded hAccepted =>
      refine iff_of_false (by simp [LoadFailed]) ?_
      exact fun hFails => hFails.2 hAccepted

theorem loadFailed_section_iff
    (elfLoader : ElfLoader)
    (sectionHeader : Addr)
    (fn : LoaderFunction)
    (s : LoaderState) :
    LoadFailed
        (elfLoader.loadNoBitsSection sectionHeader fn s).1 ↔
      ElfLoader.IsNoBits
          (readSectionHeader s.mem sectionHeader) ∧
        ¬ elfLoader.AcceptsSection
          (readSectionHeader s.mem sectionHeader)
          (ElfLoader.sectionDest sectionHeader fn s) := by
  have hOutcome :=
    elfLoader.loadNoBitsSection_outcome sectionHeader fn s
  generalize
    elfLoader.loadNoBitsSection sectionHeader fn s =
      result at hOutcome ⊢
  cases hOutcome with
  | skipped hNoBits =>
      refine iff_of_false (by simp [LoadFailed]) ?_
      exact fun hFails => hNoBits hFails.1
  | tooLong hNoBits hRefused =>
      exact iff_of_true (by simp [LoadFailed]) ⟨hNoBits, hRefused _⟩
  | noBuffer hNoBits hDest =>
      refine iff_of_true (by simp [LoadFailed]) ⟨hNoBits, ?_⟩
      exact fun hAccepts => hAccepts.hDest hDest
  | loaded hAccepted =>
      refine iff_of_false (by simp [LoadFailed]) ?_
      exact fun hFails => hFails.2 hAccepted

------------------------------------------------------------
-- Null Tables
------------------------------------------------------------

/- A getter that finds no table leaves the count alone. -/
def CountKept
    (headers : ElfLoader.HeaderTable)
    (count : Int) : Prop :=
  headers.table = 0 → headers.count = count

/-
  The getters keep the caller's counts when they find no
  table, and no loop indexes a table that was not found.
-/
structure HeaderErrorsSafe
    (elfLoader : ElfLoader)
    (numProgHeaders numSectionHeaders : Int)
    (fn : LoaderFunction)
    (s : LoaderState) : Prop where
  hProgHeaders :
    CountKept
      (elfLoader.getProgramHeaders s.mem numProgHeaders)
      numProgHeaders
  hSectionHeaders :
    CountKept
      (elfLoader.getSectionHeaders s.mem numSectionHeaders)
      numSectionHeaders
  hLoops :
    ∀ table ∈ (readKernelImage elfLoader fn s).tablesIndexed,
      table ≠ 0

/-
  A table that gets past the checks of the file and of the
  entry size, and whose count is not the caller's, also gets
  past the check of its end and does not start at address 0.
-/
def CountMatchesTable
    (elfLoader : ElfLoader)
    (m : Memory)
    (count : Int)
    (entrySize entriesNum : BitVec 16)
    (offset : BitVec 64)
    (size : Nat) : Prop :=
  elfLoader.checkElf m = .NoError →
    entrySize.toNat = size →
      (entriesNum.toNat : Int) ≠ count →
        elfLoader.AcceptsTable m entrySize entriesNum offset
            size ∧
          elfLoader.elfFile + offset ≠ 0

theorem countKept_iff
    (elfLoader : ElfLoader)
    (m : Memory)
    (count : Int)
    (entrySize entriesNum : BitVec 16)
    (offset : BitVec 64)
    (size : Nat) :
    CountKept
        (elfLoader.getHeaders m count entrySize entriesNum
          offset size)
        count ↔
      CountMatchesTable elfLoader m count entrySize
        entriesNum offset size := by
  have hOutcome :=
    elfLoader.getHeaders_outcome m count entrySize entriesNum
      offset size
  generalize
    elfLoader.getHeaders m count entrySize entriesNum offset
        size =
      found at hOutcome ⊢
  unfold CountKept CountMatchesTable
  cases hOutcome with
  | badElf hElf =>
      exact
        iff_of_true (fun _ => rfl)
          (fun hGood => absurd hGood hElf)
  | badEntry _ hEntry =>
      exact
        iff_of_true (fun _ => rfl)
          (fun _ hGood => absurd hGood hEntry)
  | tooLong hElf hEntry hEnd =>
      constructor
      · intro hKept _ _ hOther
        exact absurd (hKept rfl) hOther
      · intro hMatches _
        by_contra hOther
        exact hEnd (hMatches hElf hEntry hOther).1.hEnd
  | found hAccepted =>
      constructor
      · intro hKept _ _ hOther
        exact ⟨hAccepted, fun hNull => hOther (hKept hNull)⟩
      · intro hMatches hNull
        by_contra hOther
        exact
          (hMatches hAccepted.hElf hAccepted.hEntry hOther).2
            hNull

theorem getHeaders_count_nonneg
    (elfLoader : ElfLoader)
    (m : Memory)
    (entrySize entriesNum : BitVec 16)
    (offset : BitVec 64)
    (size : Nat) :
    0 ≤
      (elfLoader.getHeaders m 0 entrySize entriesNum offset
        size).count := by
  have hOutcome :=
    elfLoader.getHeaders_outcome m 0 entrySize entriesNum
      offset size
  generalize
    elfLoader.getHeaders m 0 entrySize entriesNum offset
        size =
      found at hOutcome ⊢
  cases hOutcome <;> simp

/- A loop indexes its table if it has a header to load. -/
theorem forall_replicate_headerLoop_iff
    (load : Addr → LoaderState → ElfError × LoaderState)
    (s : LoaderState)
    (headers : ElfLoader.HeaderTable)
    (size : Nat)
    (hCount : 0 ≤ headers.count) :
    (∀ table ∈
        List.replicate
          (headerLoop load
            (elementAddresses headers size) s).1.length
          headers.table,
        table ≠ 0) ↔
      CountKept headers 0 := by
  have hErrors :=
    headerLoop_errors_eq_nil_iff load
      (elementAddresses headers size) s
  rw [elementAddresses_eq_nil_iff] at hErrors
  unfold CountKept
  constructor
  · intro hIndexed hNull
    by_contra hCounted
    have hSome :
        (headerLoop load (elementAddresses headers size)
          s).1.length ≠ 0 := by
      intro hEmpty
      have hNone :=
        hErrors.mp (List.length_eq_zero_iff.mp hEmpty)
      omega
    exact
      hIndexed headers.table
        (List.mem_replicate.mpr ⟨hSome, rfl⟩) hNull
  · intro hKept table hTable hNull
    rcases List.mem_replicate.mp hTable with ⟨hSome, rfl⟩
    apply hSome
    rw [List.length_eq_zero_iff, hErrors]
    exact (hKept hNull).le

/- A getter's condition on its entries in the ELF header. -/
def ProgCountMatches
    (elfLoader : ElfLoader)
    (m : Memory)
    (count : Int) : Prop :=
  let elfHeader := readElfHeader m elfLoader.elfFile
  CountMatchesTable elfLoader m count
    elfHeader.ProgHeaderEntrySize
    elfHeader.ProgHeaderTableEntriesNum
    elfHeader.ProgHeaderOffset PROG_HEADER_SIZE

def SectionCountMatches
    (elfLoader : ElfLoader)
    (m : Memory)
    (count : Int) : Prop :=
  let elfHeader := readElfHeader m elfLoader.elfFile
  CountMatchesTable elfLoader m count
    elfHeader.SectionHeaderEntrySize
    elfHeader.SectionHeaderTableEntriesNum
    elfHeader.SectionHeaderOffset SECTION_HEADER_SIZE

/-
  The condition before each call of a getter: the two on
  their own, and the two that `readKernel` makes.
-/
structure CountsMatchTables
    (elfLoader : ElfLoader)
    (numProgHeaders numSectionHeaders : Int)
    (fn : LoaderFunction)
    (s : LoaderState) : Prop where
  hProgHeaders :
    ProgCountMatches elfLoader s.mem numProgHeaders
  hSectionHeaders :
    SectionCountMatches elfLoader s.mem numSectionHeaders
  hSegmentLoop : ProgCountMatches elfLoader s.mem 0
  hSectionLoop :
    ∀ t : LoaderState,
      ReachesSections elfLoader fn s t →
        SectionCountMatches elfLoader t.mem 0

theorem forall_tablesIndexed_iff
    (elfLoader : ElfLoader)
    (fn : LoaderFunction)
    (s : LoaderState) :
    (∀ table ∈ (readKernelImage elfLoader fn s).tablesIndexed,
        table ≠ 0) ↔
      CountKept (elfLoader.getProgramHeaders s.mem 0) 0 ∧
        ∀ t : LoaderState,
          ReachesSections elfLoader fn s t →
            CountKept (elfLoader.getSectionHeaders t.mem 0)
              0 := by
  have hSegments :=
    forall_replicate_headerLoop_iff
      (fun header =>
        elfLoader.loadExecutableProgram header fn)
      s (elfLoader.getProgramHeaders s.mem 0)
      PROG_HEADER_SIZE
      (getHeaders_count_nonneg elfLoader _ _ _ _ _)
  have hSections (t : LoaderState) :=
    forall_replicate_headerLoop_iff
      (fun header => elfLoader.loadNoBitsSection header fn)
      t (elfLoader.getSectionHeaders t.mem 0)
      SECTION_HEADER_SIZE
      (getHeaders_count_nonneg elfLoader _ _ _ _ _)
  unfold readKernelImage KernelImage.tablesIndexed
  unfold ReachesSections
  dsimp only
  split_ifs with hFailed
  · have hNotReached :
        ¬ ∀ error ∈ (segmentLoop elfLoader fn s).1,
          ¬ LoadFailed error := by
      intro hReached
      rcases hFailed with ⟨error, hMem, hError⟩
      exact hReached error hMem hError
    simp only [List.append_nil, hNotReached, and_false,
      false_implies, implies_true, and_true]
    exact hSegments
  · have hReached :
        ∀ error ∈ (segmentLoop elfLoader fn s).1,
          ¬ LoadFailed error :=
      fun error hMem hError => hFailed ⟨error, hMem, hError⟩
    simp only [List.mem_append, or_imp, forall_and]
    apply and_congr hSegments
    constructor
    · rintro hIndexed t ⟨rfl, _⟩
      exact (hSections _).mp hIndexed
    · intro hKept
      exact (hSections _).mpr (hKept _ ⟨rfl, hReached⟩)

/-
  The loops index a table that was not found exactly when a
  table of the file with entries ends outside of it, or is
  at address 0.
-/
theorem headerErrorsSafe_iff
    (elfLoader : ElfLoader)
    (numProgHeaders numSectionHeaders : Int)
    (fn : LoaderFunction)
    (s : LoaderState) :
    HeaderErrorsSafe elfLoader numProgHeaders
        numSectionHeaders fn s ↔
      CountsMatchTables elfLoader numProgHeaders
        numSectionHeaders fn s := by
  have hProg (m : Memory) (count : Int) :
      CountKept (elfLoader.getProgramHeaders m count) count ↔
        ProgCountMatches elfLoader m count :=
    countKept_iff elfLoader m count _ _ _ _
  have hSection (m : Memory) (count : Int) :
      CountKept (elfLoader.getSectionHeaders m count) count ↔
        SectionCountMatches elfLoader m count :=
    countKept_iff elfLoader m count _ _ _ _
  constructor
  · rintro ⟨hProgHeaders, hSectionHeaders, hLoops⟩
    rw [forall_tablesIndexed_iff] at hLoops
    exact
      ⟨(hProg _ _).mp hProgHeaders,
        (hSection _ _).mp hSectionHeaders,
        (hProg _ _).mp hLoops.1,
        fun t hReached =>
          (hSection _ _).mp (hLoops.2 t hReached)⟩
  · rintro
      ⟨hProgHeaders, hSectionHeaders, hSegmentLoop,
        hSectionLoop⟩
    refine
      ⟨(hProg _ _).mpr hProgHeaders,
        (hSection _ _).mpr hSectionHeaders, ?_⟩
    rw [forall_tablesIndexed_iff]
    exact
      ⟨(hProg _ _).mpr hSegmentLoop,
        fun t hReached =>
          (hSection _ _).mpr (hSectionLoop t hReached)⟩

/-
  A file of 64 bytes that is its ELF header, with a table of
  one program header behind its end: the table is not found,
  and the first loop takes the address of its element.
-/
theorem headerErrorsSafe_fails :
    ¬ HeaderErrorsSafe (sampleLoader 64) 0 0
        (fun _ _ _ _ => 0)
        (sampleFile (sampleElfHeader 64 1)) ∧
      (readKernelImage (sampleLoader 64) (fun _ _ _ _ => 0)
          (sampleFile
            (sampleElfHeader 64 1))).tablesIndexed =
        [0] := by
  have hIndexed :
      (readKernelImage (sampleLoader 64) (fun _ _ _ _ => 0)
          (sampleFile
            (sampleElfHeader 64 1))).tablesIndexed =
        [0] := by
    decide +kernel
  refine ⟨?_, hIndexed⟩
  intro hSafe
  have hLoops := hSafe.hLoops 0
  rw [hIndexed] at hLoops
  exact hLoops (List.mem_singleton.mpr rfl) rfl

end KernelReader

end Chihuahua
