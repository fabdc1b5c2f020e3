import Chihuahua.Bootloader.KernelReader
import Chihuahua.Elf.Completeness
import Chihuahua.Elf.FileBytes

/-
  A run of the whole loader over a file, in two memories that
  have the bytes of the file in common.

  Main declarations:
    * `loadHeaders`, `loadFile` and `FileRun`
    * `SameRun` and `OnlyFileMatters`
    * `loadHeaders_alike`
    * `ReadsOnlyFile` and `onlyFileMatters_of_reads`
-/

------------------------------------------------------------
-- The Run
------------------------------------------------------------

namespace Chihuahua

namespace KernelReader

open ByteMachine Machine Elf ElfLoader

/- Load headers in turn, up to an error that stops it. -/
def loadHeaders
    (stops : ElfError → Bool)
    (load : Addr → LoaderState → ElfError × LoaderState) :
    List Addr →
      LoaderState → List ElfError × LoaderState
| [], s => ([], s)
| header :: headers, s =>
    let (elfLoadError, s) := load header s
    if stops elfLoadError then
      ([elfLoadError], s)
    else
      let (elfLoadErrors, s) :=
        loadHeaders stops load headers s
      (elfLoadError :: elfLoadErrors, s)

/- The loops of `readKernel` stop at the first failure. -/
theorem headerLoop_eq_loadHeaders
    (load : Addr → LoaderState → ElfError × LoaderState)
    (headers : List Addr)
    (s : LoaderState) :
    headerLoop load headers s =
      loadHeaders (fun error => decide (LoadFailed error))
        load headers s := by
  induction headers generalizing s with
  | nil => rfl
  | cons header headers ih =>
      unfold headerLoop loadHeaders
      dsimp only
      rw [ih]
      simp only [decide_eq_true_eq]

/- The headers that are loaded, each with the state before. -/
def loadSteps
    (stops : ElfError → Bool)
    (load : Addr → LoaderState → ElfError × LoaderState) :
    List Addr → LoaderState → List (Addr × LoaderState)
| [], _ => []
| header :: headers, s =>
    let (elfLoadError, t) := load header s
    (header, s) ::
      if stops elfLoadError then []
      else loadSteps stops load headers t

theorem header_mem_of_mem_loadSteps
    {stops : ElfError → Bool}
    {load : Addr → LoaderState → ElfError × LoaderState}
    {headers : List Addr}
    {s : LoaderState}
    {step : Addr × LoaderState}
    (hStep : step ∈ loadSteps stops load headers s) :
    step.1 ∈ headers := by
  induction headers generalizing s with
  | nil => exact absurd hStep List.not_mem_nil
  | cons header headers ih =>
      unfold loadSteps at hStep
      dsimp only at hStep
      rcases List.mem_cons.mp hStep with rfl | hLater
      · exact List.mem_cons_self
      · split_ifs at hLater
        · exact absurd hLater List.not_mem_nil
        · exact List.mem_cons_of_mem _ (ih hLater)

/- The elements of a table, if one was returned. -/
def tableElements
    (headers : ElfLoader.HeaderTable)
    (size : Nat) : List Addr :=
  if headers.table = 0 then []
  else elementAddresses headers size

/- What a run returns, and where it ends. -/
structure FileRun where
  elf : ElfError
  progHeaders : ElfError
  segmentErrors : List ElfError
  sectionHeaders : Option ElfError
  sectionErrors : List ElfError
  state : LoaderState

def loadSegments
    (stops : ElfError → Bool)
    (elfLoader : ElfLoader)
    (fn : LoaderFunction)
    (s : LoaderState) : List ElfError × LoaderState :=
  loadHeaders stops
    (fun header => elfLoader.loadExecutableProgram header fn)
    (tableElements (elfLoader.getProgramHeaders s.mem 0)
      PROG_HEADER_SIZE)
    s

def loadSections
    (stops : ElfError → Bool)
    (elfLoader : ElfLoader)
    (fn : LoaderFunction)
    (s : LoaderState) : List ElfError × LoaderState :=
  loadHeaders stops
    (fun header => elfLoader.loadNoBitsSection header fn)
    (tableElements (elfLoader.getSectionHeaders s.mem 0)
      SECTION_HEADER_SIZE)
    s

def loadFile
    (stops : ElfError → Bool)
    (elfLoader : ElfLoader)
    (fn : LoaderFunction)
    (s : LoaderState) : FileRun :=
  let elf := elfLoader.checkElf s.mem
  let progHeaders := elfLoader.getProgramHeaders s.mem 0
  let (segmentErrors, t) :=
    loadSegments stops elfLoader fn s
  if segmentErrors.any stops then
    { elf := elf
      progHeaders := progHeaders.error
      segmentErrors := segmentErrors
      sectionHeaders := none
      sectionErrors := []
      state := t }
  else
    let sectionHeaders := elfLoader.getSectionHeaders t.mem 0
    let (sectionErrors, u) :=
      loadSections stops elfLoader fn t
    { elf := elf
      progHeaders := progHeaders.error
      segmentErrors := segmentErrors
      sectionHeaders := some sectionHeaders.error
      sectionErrors := sectionErrors
      state := u }

------------------------------------------------------------
-- Two Runs
------------------------------------------------------------

/- The same errors, requests and bytes written. -/
structure SameRun (run run' : FileRun) : Prop where
  hElf : run'.elf = run.elf
  hProgHeaders : run'.progHeaders = run.progHeaders
  hSegmentErrors : run'.segmentErrors = run.segmentErrors
  hSectionHeaders : run'.sectionHeaders = run.sectionHeaders
  hSectionErrors : run'.sectionErrors = run.sectionErrors
  hCalls : run'.state.calls = run.state.calls
  hStores :
    run'.state.machine.stores = run.state.machine.stores
  hBytes :
    ∀ b,
      run.state.machine.Touched b →
        run'.state.mem b = run.state.mem b

/- The state in which a run starts. -/
def runStart (m : Memory) : LoaderState where
  machine :=
    { mem := m
      stores := [] }
  calls := []

/- Every memory with the bytes of the file runs the same. -/
def OnlyFileMatters
    (stops : ElfError → Bool)
    (elfLoader : ElfLoader)
    (fn : LoaderFunction)
    (m : Memory) : Prop :=
  ∀ m' : Memory,
    (∀ b, elfLoader.InFile b → m' b = m b) →
      SameRun
        (loadFile stops elfLoader fn (runStart m))
        (loadFile stops elfLoader fn (runStart m'))

/- The table of the ELF header does not wrap around. -/
def ProgTableEnds
    (elfLoader : ElfLoader)
    (m : Memory) : Prop :=
  let elfHeader := readElfHeader m elfLoader.elfFile
  elfLoader.TableEnds m elfHeader.ProgHeaderEntrySize
    elfHeader.ProgHeaderTableEntriesNum
    elfHeader.ProgHeaderOffset PROG_HEADER_SIZE

def SectionTableEnds
    (elfLoader : ElfLoader)
    (m : Memory) : Prop :=
  let elfHeader := readElfHeader m elfLoader.elfFile
  elfLoader.TableEnds m elfHeader.SectionHeaderEntrySize
    elfHeader.SectionHeaderTableEntriesNum
    elfHeader.SectionHeaderOffset SECTION_HEADER_SIZE

/-
  What the run reads is in the file: the ELF header, unless
  the file refutes it, and whatever passes the checks has an
  end that does not wrap around.
-/
structure ReadsOnlyFile
    (stops : ElfError → Bool)
    (elfLoader : ElfLoader)
    (fn : LoaderFunction)
    (s : LoaderState) : Prop where
  hHeader : elfLoader.HeaderKnown s.mem
  hProgTable : ProgTableEnds elfLoader s.mem
  hSegments :
    ∀ step ∈
        loadSteps stops
          (fun header =>
            elfLoader.loadExecutableProgram header fn)
          (tableElements
            (elfLoader.getProgramHeaders s.mem 0)
            PROG_HEADER_SIZE)
          s,
      let header := readProgHeader step.2.mem step.1
      elfLoader.AcceptsSegment header
          (segmentDest step.1 fn step.2) →
        header.Offset.toNat + header.SizeInFile.toNat <
          2 ^ 64
  hSectionTable :
    ¬ (loadSegments stops elfLoader fn s).1.any stops →
      SectionTableEnds elfLoader
        (loadSegments stops elfLoader fn s).2.mem

------------------------------------------------------------
-- One Loop Twice
------------------------------------------------------------

/- What the steps of a loop keep alike, the loop does. -/
theorem loadHeaders_alike
    {stops : ElfError → Bool}
    {load : Addr → LoaderState → ElfError × LoaderState}
    {elfLoader : ElfLoader}
    {headers : List Addr}
    {s s' : LoaderState}
    (hAlike : elfLoader.LoadersAlike s s')
    (hLoad :
      ∀ step ∈ loadSteps stops load headers s,
        ∀ t',
          elfLoader.LoadersAlike step.2 t' →
            (load step.1 t').1 = (load step.1 step.2).1 ∧
              elfLoader.LoadersAlike
                (load step.1 step.2).2 (load step.1 t').2) :
    (loadHeaders stops load headers s').1 =
        (loadHeaders stops load headers s).1 ∧
      elfLoader.LoadersAlike
        (loadHeaders stops load headers s).2
        (loadHeaders stops load headers s').2 := by
  induction headers generalizing s s' with
  | nil => exact ⟨rfl, hAlike⟩
  | cons header headers ih =>
      unfold loadSteps at hLoad
      dsimp only at hLoad
      rcases hLoad _ List.mem_cons_self s' hAlike with
        ⟨hError, hNext⟩
      dsimp only at hError hNext
      unfold loadHeaders
      dsimp only
      rw [hError]
      split_ifs at hLoad ⊢ with hStops
      · exact ⟨rfl, hNext⟩
      · have hRest :=
          ih hNext
            (fun step hStep =>
              hLoad step (List.mem_cons_of_mem _ hStep))
        exact ⟨by rw [hRest.1], hRest.2⟩

/- The entries of a table that was found are in the file. -/
theorem tableElement_inFile
    {elfLoader : ElfLoader}
    {m : Memory}
    {entrySize entriesNum : BitVec 16}
    {offset : BitVec 64}
    {size : Nat}
    (hSize : size ≤ 64)
    (hEnds :
      elfLoader.TableEnds m entrySize entriesNum offset size)
    {header : Addr}
    (hMem :
      header ∈
        tableElements
          (elfLoader.getHeaders m 0 entrySize entriesNum
            offset size)
          size)
    {b : Addr}
    (hEntry : InRange header size b) :
    elfLoader.InFile b := by
  have hOutcome :=
    elfLoader.getHeaders_outcome m 0 entrySize entriesNum
      offset size
  generalize
    elfLoader.getHeaders m 0 entrySize entriesNum offset
        size =
      found at hOutcome hMem
  unfold tableElements at hMem
  cases hOutcome with
  | badElf _ => simp at hMem
  | badEntry _ _ => simp at hMem
  | tooLong _ _ _ => simp at hMem
  | found hAccepted =>
      dsimp only at hMem
      split_ifs at hMem with hNull
      · exact absurd hMem List.not_mem_nil
      · rcases List.mem_map.mp hMem with ⟨i, hIndex, rfl⟩
        exact
          entry_inFile hSize hAccepted
            (hEnds hAccepted hNull)
            (List.mem_range.mp hIndex) hEntry

theorem loadSegments_alike
    {stops : ElfError → Bool}
    {elfLoader : ElfLoader}
    {fn : LoaderFunction}
    {s s' : LoaderState}
    (hReads : ReadsOnlyFile stops elfLoader fn s)
    (hAlike : elfLoader.LoadersAlike s s') :
    (loadSegments stops elfLoader fn s').1 =
        (loadSegments stops elfLoader fn s).1 ∧
      elfLoader.LoadersAlike
        (loadSegments stops elfLoader fn s).2
        (loadSegments stops elfLoader fn s').2 := by
  have hTable :=
    (hReads.hHeader.same (fun _ => hAlike.mem_eq) 0).2.1
  unfold loadSegments
  rw [hTable]
  apply loadHeaders_alike hAlike
  intro step hStep t' hStepAlike
  have hMem := header_mem_of_mem_loadSteps hStep
  apply loadExecutableProgram_alike _ _ hStepAlike
  · exact
      fun b hRange =>
        tableElement_inFile (by decide) hReads.hProgTable hMem
          hRange
  · exact hReads.hSegments step hStep

theorem loadSections_alike
    (stops : ElfError → Bool)
    {elfLoader : ElfLoader}
    (fn : LoaderFunction)
    {s s' : LoaderState}
    (hHeader : elfLoader.HeaderKnown s.mem)
    (hEnds : SectionTableEnds elfLoader s.mem)
    (hAlike : elfLoader.LoadersAlike s s') :
    (loadSections stops elfLoader fn s').1 =
        (loadSections stops elfLoader fn s).1 ∧
      elfLoader.LoadersAlike
        (loadSections stops elfLoader fn s).2
        (loadSections stops elfLoader fn s').2 := by
  have hTable :=
    (hHeader.same (fun _ => hAlike.mem_eq) 0).2.2
  unfold loadSections
  rw [hTable]
  apply loadHeaders_alike hAlike
  intro step hStep t' hStepAlike
  have hMem := header_mem_of_mem_loadSteps hStep
  apply loadNoBitsSection_alike _ hStepAlike
  exact
    fun b hRange =>
      tableElement_inFile (by decide) hEnds hMem hRange

/- A refuted header is never looked at twice. -/
theorem headerKnown_loadSegments
    {elfLoader : ElfLoader}
    {s : LoaderState}
    (hHeader : elfLoader.HeaderKnown s.mem)
    (stops : ElfError → Bool)
    (fn : LoaderFunction) :
    elfLoader.HeaderKnown
      (loadSegments stops elfLoader fn s).2.mem := by
  rcases hHeader with hLong | hRefused
  · exact .inl hLong
  · right
    have hFails :=
      (checkElf_of_refused hRefused (fun _ _ => rfl)).1
    have hNone :
        tableElements (elfLoader.getProgramHeaders s.mem 0)
            PROG_HEADER_SIZE =
          [] := by
      unfold ElfLoader.getProgramHeaders
      rw [getHeaders_of_badElf hFails]
      rfl
    unfold loadSegments
    rw [hNone]
    exact hRefused

------------------------------------------------------------
-- The Whole Run Twice
------------------------------------------------------------

/-
  If the run on one memory reads nothing but its file, then
  the file alone decides what the loader does.
-/
theorem onlyFileMatters_of_reads
    (stops : ElfError → Bool)
    (elfLoader : ElfLoader)
    (fn : LoaderFunction)
    (m : Memory)
    (hReads :
      ReadsOnlyFile stops elfLoader fn (runStart m)) :
    OnlyFileMatters stops elfLoader fn m := by
  intro m' hSame
  have hAlike :
      elfLoader.LoadersAlike (runStart m) (runStart m') :=
    ⟨alike_of_seen hSame, rfl⟩
  rcases hReads.hHeader.same hSame 0 with ⟨hElf, hProg, _⟩
  rcases loadSegments_alike hReads hAlike with
    ⟨hErrors, hAfter⟩
  have hKnown :=
    headerKnown_loadSegments hReads.hHeader stops fn
  have hEnds := hReads.hSectionTable
  unfold loadFile
  dsimp only
  generalize
    loadSegments stops elfLoader fn (runStart m) =
      segments at hErrors hAfter hKnown hEnds ⊢
  generalize
    loadSegments stops elfLoader fn (runStart m') =
      segments' at hErrors hAfter ⊢
  rcases segments with ⟨segmentErrors, t⟩
  rcases segments' with ⟨segmentErrors', t'⟩
  dsimp only at hErrors hAfter hKnown hEnds ⊢
  subst hErrors
  rcases hKnown.same (fun _ => hAfter.mem_eq) 0 with
    ⟨_, _, hSection⟩
  split_ifs with hStops
  · exact
      { hElf := hElf
        hProgHeaders := congrArg HeaderTable.error hProg
        hSegmentErrors := rfl
        hSectionHeaders := rfl
        hSectionErrors := rfl
        hCalls := hAfter.hCalls
        hStores := hAfter.hMachine.hStores
        hBytes := hAfter.hMachine.hWritten }
  · rcases
      loadSections_alike stops fn hKnown (hEnds hStops)
        hAfter with
      ⟨hSectionErrors, hLast⟩
    generalize loadSections stops elfLoader fn t =
      sections at hSectionErrors hLast ⊢
    generalize loadSections stops elfLoader fn t' =
      sections' at hSectionErrors hLast ⊢
    exact
      { hElf := hElf
        hProgHeaders := congrArg HeaderTable.error hProg
        hSegmentErrors := rfl
        hSectionHeaders := by
          dsimp only
          rw [hSection]
        hSectionErrors := hSectionErrors
        hCalls := hLast.hCalls
        hStores := hLast.hMachine.hStores
        hBytes := hLast.hMachine.hWritten }

/- A file that refutes its own header is read no further. -/
theorem readsOnlyFile_of_refused
    {elfLoader : ElfLoader}
    {s : LoaderState}
    (hRefused : elfLoader.RefusedByFile s.mem)
    (stops : ElfError → Bool)
    (fn : LoaderFunction) :
    ReadsOnlyFile stops elfLoader fn s := by
  have hFails :=
    (checkElf_of_refused hRefused (fun _ _ => rfl)).1
  have hNone :
      tableElements (elfLoader.getProgramHeaders s.mem 0)
          PROG_HEADER_SIZE =
        [] := by
    unfold ElfLoader.getProgramHeaders
    rw [getHeaders_of_badElf hFails]
    rfl
  refine
    { hHeader := .inr hRefused
      hProgTable := ?_
      hSegments := ?_
      hSectionTable := ?_ }
  · exact fun hAccepts => absurd hAccepts.hElf hFails
  · rw [hNone]
    exact fun step hStep => absurd hStep List.not_mem_nil
  · unfold loadSegments
    rw [hNone]
    exact fun _ hAccepts => absurd hAccepts.hElf hFails

theorem loadFile_elf
    (stops : ElfError → Bool)
    (elfLoader : ElfLoader)
    (fn : LoaderFunction)
    (s : LoaderState) :
    (loadFile stops elfLoader fn s).elf =
      elfLoader.checkElf s.mem := by
  unfold loadFile
  dsimp only
  split_ifs <;> rfl

/-
  Behind a file shorter than what `checkElf` compares, a
  memory can complete the header, or spoil it.
-/
theorem refusedByFile_of_short
    {stops : ElfError → Bool}
    {elfLoader : ElfLoader}
    {fn : LoaderFunction}
    {m : Memory}
    (hShort : elfLoader.elfFileSize.toNat < 24)
    (hMatters : OnlyFileMatters stops elfLoader fn m) :
    elfLoader.RefusedByFile m := by
  by_contra hAccepted
  have hCompleted :=
    hMatters (elfLoader.completed m)
      (fun b hFile => elfLoader.completed_of_inFile m hFile)
  have hSpoiled :=
    hMatters (elfLoader.spoiled m)
      (fun b hFile =>
        elfLoader.spoiled_of_inFile hShort hFile)
  have hSame := hSpoiled.hElf.trans hCompleted.hElf.symm
  rw [loadFile_elf, loadFile_elf] at hSame
  have hGood :
      elfLoader.checkElf (elfLoader.completed m) =
        .NoError :=
    checkElf_completed hAccepted
  exact
    checkElf_spoiled elfLoader m (hSame.trans hGood)

/-
  The file alone decides what the loader does if the run
  reads nothing else, and a file that is shorter than the
  part of the header that is compared decides it only then.
-/
theorem onlyFileMatters_iff
    (stops : ElfError → Bool)
    (elfLoader : ElfLoader)
    (fn : LoaderFunction)
    (m : Memory) :
    (ReadsOnlyFile stops elfLoader fn (runStart m) →
        OnlyFileMatters stops elfLoader fn m) ∧
      (elfLoader.elfFileSize.toNat < 24 →
        OnlyFileMatters stops elfLoader fn m →
          ReadsOnlyFile stops elfLoader fn
            (runStart m)) := by
  refine ⟨onlyFileMatters_of_reads stops elfLoader fn m, ?_⟩
  intro hShort hMatters
  have hRefused :
      elfLoader.RefusedByFile (runStart m).mem :=
    refusedByFile_of_short hShort hMatters
  exact readsOnlyFile_of_refused hRefused stops fn

/- One segment and one section, in a file of 256 bytes. -/
def loadableFile : List Byte :=
  ((sampleElfHeader 64 1).set 40 120).set 60 1 ++
    sampleHeaders 16 32 16

/- Both are loaded, whatever lies around the file. -/
theorem onlyFileMatters_iff_sample :
    (loadFile (fun _ => false) (sampleLoader 256)
          sampleCallback
          (runStart
            (sampleFile loadableFile).mem)).segmentErrors =
        [.NoError] ∧
      (loadFile (fun _ => false) (sampleLoader 256)
          sampleCallback
          (runStart
            (sampleFile loadableFile).mem)).sectionErrors =
        [.NoError] ∧
      OnlyFileMatters (fun _ => false) (sampleLoader 256)
        sampleCallback (sampleFile loadableFile).mem := by
  have hEnds :
      ∀ step ∈
          loadSteps (fun _ => false)
            (fun header =>
              (sampleLoader 256).loadExecutableProgram header
                sampleCallback)
            (tableElements
              ((sampleLoader 256).getProgramHeaders
                (runStart (sampleFile loadableFile).mem).mem
                0)
              PROG_HEADER_SIZE)
            (runStart (sampleFile loadableFile).mem),
        (readProgHeader step.2.mem step.1).Offset.toNat +
            (readProgHeader step.2.mem
              step.1).SizeInFile.toNat <
          2 ^ 64 := by
    decide +kernel
  refine ⟨by decide +kernel, by decide +kernel, ?_⟩
  exact
    (onlyFileMatters_iff (fun _ => false) (sampleLoader 256)
      sampleCallback (sampleFile loadableFile).mem).1
      { hHeader := .inl (by decide)
        hProgTable := fun _ _ => by decide +kernel
        hSegments := fun step hStep _ => hEnds step hStep
        hSectionTable := fun _ _ _ => by decide +kernel }

/-
  A file of 8 bytes, once before zeros and once before the
  rest of an ELF header that an earlier file has left there.
-/
theorem onlyFileMatters_fails :
    ¬ OnlyFileMatters (fun _ => false) (sampleLoader 8)
      (fun _ _ _ _ => 0)
      (sampleFile (sampleElfHeader 64 0)).mem := by
  intro hMatters
  have hSame :
      ∀ b,
        (sampleLoader 8).InFile b →
          (sampleFile ((sampleElfHeader 64 0).take 8)).mem b =
            (sampleFile (sampleElfHeader 64 0)).mem b := by
    intro b hFile
    have hIndex : (b - 0x1000).toNat < 8 := hFile
    show
      ((sampleElfHeader 64 0).take 8).getD (b - 0x1000).toNat
          0 =
        (sampleElfHeader 64 0).getD (b - 0x1000).toNat 0
    rw [List.getD_eq_getElem?_getD, List.getD_eq_getElem?_getD,
      List.getElem?_take_of_lt hIndex]
  have hElf := (hMatters _ hSame).hElf
  rw [loadFile_elf, loadFile_elf] at hElf
  revert hElf
  decide +kernel

end KernelReader

end Chihuahua
