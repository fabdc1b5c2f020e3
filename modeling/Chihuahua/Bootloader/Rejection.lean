import Chihuahua.Bootloader.ReadKernel
import Chihuahua.Elf.Completeness

/-
  Headers that are rejected, and the pages that were
  allocated for them.

  The loader of segments asks for memory before it checks
  the bounds of a segment, the loader of sections after.

  Main declarations:
    * `RejectsEarly` and `rejectsEarly_segment_iff`
    * `Accounts` and `Accounts.headerLoop_iff`
    * `AllocationsMatch` and `WastesNothing`
    * `rejections_iff`
-/

------------------------------------------------------------
-- One Header
------------------------------------------------------------

namespace Chihuahua

namespace KernelReader

open ByteMachine Elf

/- A header that is skipped, or is out of bounds. -/
def Rejected (error : ElfError) : Prop :=
  error = .ElfSizeExceeded ∨ error = .ElfSectionNotLoadable

/-
  If a load ends like that, the callback was not called and
  no memory was written.
-/
def RejectsEarly
    (s : LoaderState)
    (result : ElfError × LoaderState) : Prop :=
  Rejected result.1 →
    result.2.calls = s.calls ∧ result.2.machine = s.machine

/- A segment that gets memory, and is then out of bounds. -/
structure RejectedLate
    (elfLoader : ElfLoader)
    (header : Elf64_ProgHeader)
    (dest : Addr) : Prop where
  hType : header.SegmentType = Elf_SegmentType.PT_LOAD
  hDest : dest ≠ 0
  hRefused : ¬ elfLoader.AcceptsSegment header dest

theorem rejectsEarly_segment_iff
    (elfLoader : ElfLoader)
    (progHeader : Addr)
    (fn : LoaderFunction)
    (s : LoaderState) :
    RejectsEarly s
        (elfLoader.loadExecutableProgram progHeader fn s) ↔
      ¬ RejectedLate elfLoader
        (readProgHeader s.mem progHeader)
        (ElfLoader.segmentDest progHeader fn s) := by
  have hOutcome :=
    elfLoader.loadExecutableProgram_outcome progHeader fn s
  generalize
    elfLoader.loadExecutableProgram progHeader fn s =
      result at hOutcome ⊢
  cases hOutcome with
  | skipped hType =>
      refine iff_of_true (fun _ => ⟨rfl, rfl⟩) ?_
      exact fun hLate => hType hLate.hType
  | noBuffer hType hDest =>
      refine iff_of_true ?_ (fun hLate => hLate.hDest hDest)
      rintro (hError | hError) <;> cases hError
  | tooLong hType hDest hRefused =>
      refine
        iff_of_false ?_
          (not_not.mpr ⟨hType, hDest, hRefused⟩)
      intro hEarly
      have hCalls := (hEarly (.inl rfl)).1
      exact List.cons_ne_self _ _ hCalls
  | loaded hAccepted =>
      refine
        iff_of_true ?_
          (fun hLate => hLate.hRefused hAccepted)
      rintro (hError | hError) <;> cases hError

theorem rejectsEarly_section
    (elfLoader : ElfLoader)
    (sectionHeader : Addr)
    (fn : LoaderFunction)
    (s : LoaderState) :
    RejectsEarly s
      (elfLoader.loadNoBitsSection sectionHeader fn s) := by
  have hOutcome :=
    elfLoader.loadNoBitsSection_outcome sectionHeader fn s
  generalize
    elfLoader.loadNoBitsSection sectionHeader fn s =
      result at hOutcome ⊢
  cases hOutcome with
  | skipped hNoBits => exact fun _ => ⟨rfl, rfl⟩
  | tooLong hNoBits hRefused => exact fun _ => ⟨rfl, rfl⟩
  | noBuffer hNoBits hDest =>
      rintro (hError | hError) <;> cases hError
  | loaded hAccepted =>
      rintro (hError | hError) <;> cases hError

/- A section no address is right for is not asked memory for. -/
theorem loadNoBitsSection_of_refused
    (elfLoader : ElfLoader)
    (sectionHeader : Addr)
    (fn : LoaderFunction)
    {s : LoaderState}
    (hRefused :
      ∀ dest,
        ¬ elfLoader.AcceptsSection
          (readSectionHeader s.mem sectionHeader) dest) :
    (elfLoader.loadNoBitsSection sectionHeader fn s).2 =
      s := by
  have hRejected := hRefused 1
  unfold ElfLoader.loadNoBitsSection
  dsimp only
  split_ifs with hNoBits hSize hDest
  · rfl
  · rfl
  all_goals
    rw [not_or, not_or] at hNoBits
    rw [not_or] at hSize
    refine absurd ?_ hRejected
    exact
      ⟨⟨not_not.mp hNoBits.1, hNoBits.2.1, hNoBits.2.2⟩,
        by decide, BitVec.not_le.mp hSize.1,
        BitVec.not_le.mp hSize.2⟩

------------------------------------------------------------
-- Counting over a Loop
------------------------------------------------------------

/-
  A measure of the state that goes up by one for a header
  that loads, and for one that wastes something, on which
  the loop ends.
-/
structure Accounts
    (load : Addr → LoaderState → ElfError × LoaderState)
    (measure : LoaderState → Nat)
    (Wasted : Addr → LoaderState → Prop) : Prop where
  hWasted :
    ∀ header s, Wasted header s →
      LoadFailed (load header s).1 ∧
        measure (load header s).2 = measure s + 1
  hUsed :
    ∀ header s, ¬ Wasted header s →
      measure (load header s).2 =
        measure s + [(load header s).1].count .NoError

/-
  By induction over the headers: the measure counts those
  that load exactly if no step of the loop wastes anything.
-/
theorem Accounts.headerLoop_iff
    {load : Addr → LoaderState → ElfError × LoaderState}
    {measure : LoaderState → Nat}
    {Wasted : Addr → LoaderState → Prop}
    (hAccounts : Accounts load measure Wasted)
    (headers : List Addr)
    (s : LoaderState) :
    measure (headerLoop load headers s).2 =
        measure s +
          (headerLoop load headers s).1.count .NoError ↔
      ∀ step ∈ headerSteps load headers s,
        ¬ Wasted step.1 step.2 := by
  induction headers generalizing s with
  | nil => exact iff_of_true rfl (List.forall_mem_nil _)
  | cons header headers ih =>
      have hNext := ih (load header s).2
      unfold headerLoop headerSteps
      dsimp only
      rw [List.forall_mem_cons]
      by_cases hWasted : Wasted header s
      · obtain ⟨hFailed, hMeasure⟩ :=
          hAccounts.hWasted header s hWasted
        rw [if_pos hFailed]
        refine iff_of_false ?_ (fun hNone => hNone.1 hWasted)
        dsimp only
        rw [hMeasure, List.count_singleton,
          if_neg (by simpa using hFailed.1)]
        omega
      · have hUsed := hAccounts.hUsed header s hWasted
        split_ifs with hFailed
        · refine iff_of_true hUsed ⟨hWasted, ?_⟩
          exact List.forall_mem_nil _
        · have hCount (errors : List ElfError) :
              ((load header s).1 :: errors).count .NoError =
                [(load header s).1].count .NoError +
                  errors.count .NoError := by
            rw [← List.singleton_append, List.count_append]
          rw [hCount, ← Nat.add_assoc, ← hUsed, hNext]
          exact (and_iff_right hWasted).symm

------------------------------------------------------------
-- Pages of the Callbacks
------------------------------------------------------------

/- A successful call of `AllocatePages`. -/
def grantsPages : FirmwareEvent → Bool
| .allocatePages _ status _ => !EFI_ERROR status
| _ => false

def grantedPages (history : History) : Nat :=
  history.countP grantsPages

/- The firmware has pages for the next call of a callback. -/
def Granted
    (firmware : Firmware)
    (history : History)
    (calls : List LoaderCall)
    (bufferSize : Int) : Prop :=
  EFI_ERROR
      (firmware.allocatePages
        (callbackHistory firmware history calls)
        (callbackPages bufferSize)).status =
    false

/- A segment that gets pages and is not loaded. -/
def WastedSegment
    (elfLoader : ElfLoader)
    (firmware : Firmware)
    (history : History)
    (progHeader : Addr)
    (s : LoaderState) : Prop :=
  let header := readProgHeader s.mem progHeader
  header.SegmentType = Elf_SegmentType.PT_LOAD ∧
    Granted firmware history s.calls
      (toInt header.SizeInMemory) ∧
    ¬ elfLoader.AcceptsSegment header
      (ElfLoader.segmentDest progHeader
        (kernelCallback firmware history) s)

/- A section that gets pages, but at address 0. -/
def WastedSection
    (elfLoader : ElfLoader)
    (firmware : Firmware)
    (history : History)
    (sectionHeader : Addr)
    (s : LoaderState) : Prop :=
  let header := readSectionHeader s.mem sectionHeader
  (∃ dest, elfLoader.AcceptsSection header dest) ∧
    Granted firmware history s.calls
      (toInt header.SectionSize) ∧
    ElfLoader.sectionDest sectionHeader
        (kernelCallback firmware history) s =
      0

section Callback

variable (elfLoader : ElfLoader)
variable (firmware : Firmware) (history : History)

/- The successful calls up to a state of the loops. -/
def grantedAt (s : LoaderState) : Nat :=
  grantedPages (callbackHistory firmware history s.calls)

/- Only pages that were granted have an address. -/
theorem granted_of_ne_zero
    {firmware : Firmware}
    {history : History}
    {calls : List LoaderCall}
    {bufferSize : Int}
    (address : Elf64_Addr)
    (flags : Elf_SegmentFlags)
    (hDest :
      kernelCallback firmware history calls bufferSize address
          flags ≠
        0) :
    Granted firmware history calls bufferSize := by
  unfold kernelCallback at hDest
  dsimp only at hDest
  split_ifs at hDest with hError
  · exact absurd rfl hDest
  · exact Bool.eq_false_of_not_eq_true hError

theorem granted_of_segmentDest
    {progHeader : Addr}
    {s : LoaderState}
    (hDest :
      ElfLoader.segmentDest progHeader
          (kernelCallback firmware history) s ≠
        0) :
    Granted firmware history s.calls
      (toInt (readProgHeader s.mem progHeader).SizeInMemory) :=
  granted_of_ne_zero
    (readProgHeader s.mem progHeader).VirtAddress
    (readProgHeader s.mem progHeader).Flags hDest

theorem granted_of_sectionDest
    {sectionHeader : Addr}
    {s : LoaderState}
    (hDest :
      ElfLoader.sectionDest sectionHeader
          (kernelCallback firmware history) s ≠
        0) :
    Granted firmware history s.calls
      (toInt
        (readSectionHeader s.mem sectionHeader).SectionSize) :=
  granted_of_ne_zero
    (readSectionHeader s.mem sectionHeader).VirtualAddress
    (Elf_SegmentFlags.PF_R ||| Elf_SegmentFlags.PF_W) hDest

theorem grantedAt_call_of_granted
    {call : LoaderCall}
    {calls : List LoaderCall}
    (machine : Machine)
    (hGranted :
      Granted firmware history calls call.memorySize) :
    grantedAt firmware history
        { machine := machine
          calls := call :: calls } =
      grantedPages (callbackHistory firmware history calls) +
        1 := by
  refine List.countP_cons_of_pos ?_
  unfold Granted at hGranted
  rw [grantsPages, hGranted]
  rfl

theorem grantedAt_call_of_not_granted
    {call : LoaderCall}
    {calls : List LoaderCall}
    (machine : Machine)
    (hGranted :
      ¬ Granted firmware history calls call.memorySize) :
    grantedAt firmware history
        { machine := machine
          calls := call :: calls } =
      grantedPages
        (callbackHistory firmware history calls) := by
  refine List.countP_cons_of_neg ?_
  rw [grantsPages, Bool.not_eq_true']
  exact hGranted

theorem accounts_segment :
    Accounts
      (fun header =>
        elfLoader.loadExecutableProgram header
          (kernelCallback firmware history))
      (grantedAt firmware history)
      (WastedSegment elfLoader firmware history) where
  hWasted progHeader s hWasted := by
    obtain ⟨hType, hGranted, hRefused⟩ := hWasted
    have hFailed :=
      (loadFailed_segment_iff elfLoader progHeader
        (kernelCallback firmware history) s).mpr
        ⟨hType, hRefused⟩
    refine ⟨hFailed, ?_⟩
    have hOutcome :=
      elfLoader.loadExecutableProgram_outcome progHeader
        (kernelCallback firmware history) s
    generalize
      elfLoader.loadExecutableProgram progHeader
          (kernelCallback firmware history) s =
        result at hOutcome ⊢
    cases hOutcome with
    | skipped hOther => exact absurd hType hOther
    | noBuffer _ _ =>
        exact
          grantedAt_call_of_granted firmware history _ hGranted
    | tooLong _ _ _ =>
        exact
          grantedAt_call_of_granted firmware history _ hGranted
    | loaded hAccepted => exact absurd hAccepted hRefused
  hUsed progHeader s hUsed := by
    have hOutcome :=
      elfLoader.loadExecutableProgram_outcome progHeader
        (kernelCallback firmware history) s
    generalize
      elfLoader.loadExecutableProgram progHeader
          (kernelCallback firmware history) s =
        result at hOutcome ⊢
    cases hOutcome with
    | skipped hOther => rfl
    | noBuffer hType hDest =>
        refine
          grantedAt_call_of_not_granted firmware history _ ?_
        intro hGranted
        refine hUsed ⟨hType, hGranted, ?_⟩
        exact fun hAccepts => hAccepts.hDest hDest
    | tooLong hType hDest hRefused =>
        exact
          absurd
            ⟨hType,
              granted_of_segmentDest firmware history hDest,
              hRefused⟩
            hUsed
    | loaded hAccepted =>
        exact
          grantedAt_call_of_granted firmware history _
            (granted_of_segmentDest firmware history
              hAccepted.hDest)

theorem accounts_section :
    Accounts
      (fun header =>
        elfLoader.loadNoBitsSection header
          (kernelCallback firmware history))
      (grantedAt firmware history)
      (WastedSection elfLoader firmware history) where
  hWasted sectionHeader s hWasted := by
    obtain ⟨⟨dest, hAccepts⟩, hGranted, hZero⟩ := hWasted
    have hFailed :=
      (loadFailed_section_iff elfLoader sectionHeader
        (kernelCallback firmware history) s).mpr
        ⟨hAccepts.hNoBits,
          fun hAccepted => hAccepted.hDest hZero⟩
    refine ⟨hFailed, ?_⟩
    have hOutcome :=
      elfLoader.loadNoBitsSection_outcome sectionHeader
        (kernelCallback firmware history) s
    generalize
      elfLoader.loadNoBitsSection sectionHeader
          (kernelCallback firmware history) s =
        result at hOutcome ⊢
    cases hOutcome with
    | skipped hOther => exact absurd hAccepts.hNoBits hOther
    | tooLong _ hRefused => exact absurd hAccepts (hRefused _)
    | noBuffer _ _ =>
        exact
          grantedAt_call_of_granted firmware history _ hGranted
    | loaded hAccepted => exact absurd hZero hAccepted.hDest
  hUsed sectionHeader s hUsed := by
    have hOutcome :=
      elfLoader.loadNoBitsSection_outcome sectionHeader
        (kernelCallback firmware history) s
    have hRefused :=
      loadNoBitsSection_of_refused elfLoader sectionHeader
        (kernelCallback firmware history) (s := s)
    generalize
      elfLoader.loadNoBitsSection sectionHeader
          (kernelCallback firmware history) s =
        result at hOutcome hRefused ⊢
    cases hOutcome with
    | skipped hOther => rfl
    | tooLong _ _ => rfl
    | noBuffer hNoBits hDest =>
        refine
          grantedAt_call_of_not_granted firmware history _ ?_
        intro hGranted
        -- the callback was called, so the bounds are right
        refine hUsed ⟨?_, hGranted, hDest⟩
        by_contra hNone
        have hCalls :=
          congrArg LoaderState.calls
            (hRefused (not_exists.mp hNone))
        exact List.cons_ne_self _ _ hCalls
    | loaded hAccepted =>
        exact
          grantedAt_call_of_granted firmware history _
            (granted_of_sectionDest firmware history
              hAccepted.hDest)

end Callback

------------------------------------------------------------
-- Both Loops
------------------------------------------------------------

/-
  No header that the loops come to gets pages and is not
  loaded. The second loop is reached if the first one does
  not fail.
-/
structure WastesNothing
    (elfLoader : ElfLoader)
    (firmware : Firmware)
    (history : History)
    (s : LoaderState) : Prop where
  hSegments :
    ∀ step ∈
        segmentSteps elfLoader
          (kernelCallback firmware history) s,
      ¬ WastedSegment elfLoader firmware history step.1
          step.2
  hSections :
    ∀ t,
      ReachesSections elfLoader
          (kernelCallback firmware history) s t →
        ∀ step ∈
            sectionSteps elfLoader
              (kernelCallback firmware history) t,
          ¬ WastedSection elfLoader firmware history step.1
              step.2

/- The loads that ended without an error. -/
def KernelImage.loadedCount (image : KernelImage) : Nat :=
  (image.segmentErrors ++ image.sectionErrors).count .NoError

theorem segmentLoop_granted_iff
    (elfLoader : ElfLoader)
    (firmware : Firmware)
    (history : History)
    (s : LoaderState) :
    grantedAt firmware history
          (segmentLoop elfLoader
            (kernelCallback firmware history) s).2 =
        grantedAt firmware history s +
          (segmentLoop elfLoader
            (kernelCallback firmware history)
            s).1.count .NoError ↔
      ∀ step ∈
          segmentSteps elfLoader
            (kernelCallback firmware history) s,
        ¬ WastedSegment elfLoader firmware history step.1
            step.2 :=
  (accounts_segment elfLoader firmware
    history).headerLoop_iff _ s

theorem sectionLoop_granted_iff
    (elfLoader : ElfLoader)
    (firmware : Firmware)
    (history : History)
    (s : LoaderState) :
    grantedAt firmware history
          (sectionLoop elfLoader
            (kernelCallback firmware history) s).2 =
        grantedAt firmware history s +
          (sectionLoop elfLoader
            (kernelCallback firmware history)
            s).1.count .NoError ↔
      ∀ step ∈
          sectionSteps elfLoader
            (kernelCallback firmware history) s,
        ¬ WastedSection elfLoader firmware history step.1
            step.2 :=
  (accounts_section elfLoader firmware
    history).headerLoop_iff _ s

/- A first loop that does not fail has wasted nothing. -/
theorem segmentSteps_not_wasted
    {elfLoader : ElfLoader}
    {firmware : Firmware}
    {history : History}
    {s t : LoaderState}
    (hReached :
      ReachesSections elfLoader
        (kernelCallback firmware history) s t) :
    ∀ step ∈
        segmentSteps elfLoader
          (kernelCallback firmware history) s,
      ¬ WastedSegment elfLoader firmware history step.1
          step.2 := by
  intro step hMem hWasted
  have hLoads :=
    (forall_headerLoop_errors_iff _ _ s
      (fun error => ¬ LoadFailed error)).mp hReached.2 step
      hMem
  have hFails :=
    (accounts_segment elfLoader firmware history).hWasted
      step.1 step.2 hWasted
  exact hLoads hFails.1

theorem grantedAt_readKernelImage_iff
    (elfLoader : ElfLoader)
    (firmware : Firmware)
    (history : History)
    (s : LoaderState) :
    grantedAt firmware history
          (readKernelImage elfLoader
            (kernelCallback firmware history) s).state =
        grantedAt firmware history s +
          (readKernelImage elfLoader
            (kernelCallback firmware history)
            s).loadedCount ↔
      WastesNothing elfLoader firmware history s := by
  have hSegments :=
    segmentLoop_granted_iff elfLoader firmware history s
  have hSections :=
    sectionLoop_granted_iff elfLoader firmware history
      (segmentLoop elfLoader
        (kernelCallback firmware history) s).2
  unfold readKernelImage KernelImage.loadedCount
  dsimp only
  split_ifs with hFailed
  · have hNotReached (t : LoaderState) :
        ¬ ReachesSections elfLoader
            (kernelCallback firmware history) s t := by
      rintro ⟨_, hReached⟩
      obtain ⟨error, hMem, hError⟩ := hFailed
      exact hReached error hMem hError
    rw [List.append_nil, hSegments]
    constructor
    · intro hNone
      exact
        ⟨hNone, fun t hReached =>
          absurd hReached (hNotReached t)⟩
    · exact fun hNothing => hNothing.hSegments
  · have hReached :
        ReachesSections elfLoader
          (kernelCallback firmware history) s
          (segmentLoop elfLoader
            (kernelCallback firmware history) s).2 :=
      ⟨rfl,
        fun error hMem hError => hFailed ⟨error, hMem, hError⟩⟩
    have hNone := segmentSteps_not_wasted hReached
    have hFirst := hSegments.mpr hNone
    rw [List.count_append, ← Nat.add_assoc, ← hFirst,
      hSections]
    constructor
    · intro hSecond
      refine ⟨hNone, ?_⟩
      rintro t ⟨rfl, _⟩
      exact hSecond
    · exact fun hNothing => hNothing.hSections _ hReached

------------------------------------------------------------
-- The Whole Run
------------------------------------------------------------

/- The loops are reached. -/
structure ReachesImage
    (firmware : Firmware)
    (s : BootState) : Prop where
  hOpened : Opened firmware s
  hRead : (fileRead firmware s).1.BufferSize ≠ 0

/-
  After the file was read, there are as many successful
  allocations as loads without an error.
-/
def AllocationsMatch
    (firmware : Firmware)
    (s : BootState) : Prop :=
  ReachesImage firmware s →
    grantedPages (readKernel firmware s).2.history =
      grantedPages (fileRead firmware s).2.history +
        (imageRead firmware s).loadedCount

theorem grantedPages_fileChecked
    (firmware : Firmware)
    (s : BootState) :
    grantedPages (fileChecked firmware s).history =
      grantedPages (fileRead firmware s).2.history := by
  obtain ⟨events, hEvents, hPrints⟩ :=
    fileChecked_eq firmware s
  have hNone : events.countP grantsPages = 0 := by
    rw [List.countP_eq_zero]
    intro event hMem
    obtain ⟨str, rfl⟩ := hPrints event hMem
    exact Bool.false_ne_true
  unfold grantedPages
  rw [hEvents, List.countP_append, hNone, Nat.zero_add]

theorem grantedPages_readKernel
    {firmware : Firmware}
    {s : BootState}
    (hReached : ReachesImage firmware s) :
    grantedPages (readKernel firmware s).2.history =
      grantedAt firmware (fileChecked firmware s).history
        (imageRead firmware s).state := by
  have hLoaded :
      grantedPages (kernelLoaded firmware s).history =
        grantedAt firmware (fileChecked firmware s).history
          (imageRead firmware s).state := by
    rw [kernelLoaded_history]
    rfl
  have hOutcome := readKernel_outcome firmware s
  generalize
    readKernel firmware s = result at hOutcome ⊢
  cases hOutcome with
  | noVolume hVolume =>
      have hFound := hReached.hOpened.hVolume
      exact
        absurd (hVolume.symm.trans hFound) Bool.false_ne_true
  | notOpened hOpen =>
      have hFine := hReached.hOpened.hOpen
      exact
        absurd (hFine.symm.trans hOpen) Bool.false_ne_true
  | notRead _ hRead => exact absurd hRead hReached.hRead
  | notLoaded _ _ _ =>
      rw [BootState.print_history, ← hLoaded]
      exact List.countP_cons_of_neg (by simp [grantsPages])
  | loaded _ _ _ =>
      rw [BootState.closeFile_history, ← hLoaded]
      exact List.countP_cons_of_neg (by simp [grantsPages])

theorem allocationsMatch_iff
    (firmware : Firmware)
    (s : BootState) :
    AllocationsMatch firmware s ↔
      (ReachesImage firmware s →
        WastesNothing (kernelLoader (fileRead firmware s).1)
          firmware (fileChecked firmware s).history
          (imageStart (fileChecked firmware s))) := by
  have hImage :=
    grantedAt_readKernelImage_iff
      (kernelLoader (fileRead firmware s).1) firmware
      (fileChecked firmware s).history
      (imageStart (fileChecked firmware s))
  unfold AllocationsMatch
  rw [← grantedPages_fileChecked]
  constructor
  · intro hMatch hReached
    have hCount := hMatch hReached
    rw [grantedPages_readKernel hReached] at hCount
    exact hImage.mp hCount
  · intro hNothing hReached
    rw [grantedPages_readKernel hReached]
    exact hImage.mpr (hNothing hReached)

/-
  A segment that is out of bounds has been given memory, and
  a section has not: what the loaders reject is free of
  charge but for such segments, and the allocations match
  the loads but for them and for pages at address 0.
-/
theorem rejections_iff
    (elfLoader : ElfLoader)
    (header : Addr)
    (fn : LoaderFunction)
    (t : LoaderState)
    (firmware : Firmware)
    (s : BootState) :
    (RejectsEarly t
        (elfLoader.loadExecutableProgram header fn t) ↔
      ¬ RejectedLate elfLoader (readProgHeader t.mem header)
          (ElfLoader.segmentDest header fn t)) ∧
    RejectsEarly t
      (elfLoader.loadNoBitsSection header fn t) ∧
    (AllocationsMatch firmware s ↔
      (ReachesImage firmware s →
        WastesNothing (kernelLoader (fileRead firmware s).1)
          firmware (fileChecked firmware s).history
          (imageStart (fileChecked firmware s)))) :=
  ⟨rejectsEarly_segment_iff elfLoader header fn t,
    rejectsEarly_section elfLoader header fn t,
    allocationsMatch_iff firmware s⟩

/-
  A segment of 200 bytes in a file of 128: it is refused
  after a page was allocated for it, by itself and in a run.
-/
theorem rejections_fail :
    ((sampleLoader 128).loadExecutableProgram 0x1000
        sampleCallback
        (sampleFile (sampleHeaders 16 200 16))).1 =
      .ElfSizeExceeded ∧
    ((sampleLoader 128).loadExecutableProgram 0x1000
        sampleCallback
        (sampleFile
          (sampleHeaders 16 200 16))).2.calls.length =
      1 ∧
    ¬ AllocationsMatch
        (bareFirmware
          (sampleElfHeader 64 1 ++ sampleHeaders 16 200 16))
        emptyStart := by
  refine ⟨by decide +kernel, by decide +kernel, ?_⟩
  intro hMatch
  have hCount :=
    hMatch
      { hOpened := ⟨by decide +kernel, by decide +kernel⟩
        hRead := by decide +kernel }
  revert hCount
  decide +kernel

end KernelReader

end Chihuahua
