import Chihuahua.Bootloader.ReadKernel

/-
  What `readKernel` has released when it returns: the handle
  of the file, and after a failure all pages.

  Main declarations:
    * `opened_fileActions` and `kernelLoaded_fileActions`
    * `EveryHeaderLoads` and `readKernelImage_fails_iff`
    * `ReleasesAll` and `FileLoads`
    * `releasesAll_iff`
-/

------------------------------------------------------------
-- Handles of the File
------------------------------------------------------------

namespace Chihuahua

namespace KernelReader

open ByteMachine Elf Resources

theorem getVolume_fileActions
    (firmware : Firmware)
    (s : BootState) :
    actions fileAction (getVolume firmware s).2.history =
      actions fileAction s.history := by
  unfold getVolume
  dsimp only
  split_ifs <;> rfl

theorem callbackHistory_fileActions
    (firmware : Firmware)
    (history : History)
    (calls : List LoaderCall) :
    actions fileAction
        (callbackHistory firmware history calls) =
      actions fileAction history := by
  induction calls with
  | nil => rfl
  | cons call calls ih => exact ih

/- Between `Open` and `Close` the handle is held. -/
theorem opened_fileActions
    {firmware : Firmware}
    {s : BootState}
    (hStart : actions fileAction s.history = [])
    (hOpened : Opened firmware s) :
    actions fileAction (fileOpened firmware s).2.history =
      [.acquire (fileOpened firmware s).1.address 0] := by
  have hVolume :
      actions fileAction
          (volumeFound firmware s).2.history =
        [] :=
    (getVolume_fileActions firmware _).trans hStart
  have hHistory :
      (fileOpened firmware s).2.history =
        .openFile (fileOpened firmware s).1.status
            (fileOpened firmware s).1.address ::
          (volumeFound firmware s).2.history :=
    rfl
  rw [hHistory, actions_cons, hVolume]
  simp [fileAction, hOpened.hOpen]

theorem fileRead_fileActions
    (firmware : Firmware)
    (s : BootState) :
    actions fileAction (fileRead firmware s).2.history =
      actions fileAction
        (fileOpened firmware s).2.history := by
  unfold fileRead
  exact readFile_fileActions firmware _

theorem fileChecked_fileActions
    (firmware : Firmware)
    (s : BootState) :
    actions fileAction (fileChecked firmware s).history =
      actions fileAction (fileRead firmware s).2.history := by
  obtain ⟨events, hEvents, hPrints⟩ :=
    fileChecked_eq firmware s
  have hNone : actions fileAction events = [] := by
    refine List.flatMap_eq_nil_iff.mpr ?_
    intro event hMem
    obtain ⟨str, rfl⟩ := hPrints event hMem
    rfl
  rw [hEvents, actions_append, hNone, List.nil_append]

theorem kernelLoaded_fileActions
    (firmware : Firmware)
    (s : BootState) :
    actions fileAction (kernelLoaded firmware s).history =
      actions fileAction
        (fileOpened firmware s).2.history := by
  rw [kernelLoaded_history, callbackHistory_fileActions,
    fileChecked_fileActions, fileRead_fileActions]

------------------------------------------------------------
-- Failing Loads
------------------------------------------------------------

/-
  Every header the loops come to is skipped, or passes the
  checks in the state in which its turn comes.
-/
structure EveryHeaderLoads
    (elfLoader : ElfLoader)
    (fn : LoaderFunction)
    (s : LoaderState) : Prop where
  hSegments :
    ∀ step ∈ segmentSteps elfLoader fn s,
      (readProgHeader step.2.mem step.1).SegmentType =
          Elf_SegmentType.PT_LOAD →
        elfLoader.AcceptsSegment
          (readProgHeader step.2.mem step.1)
          (ElfLoader.segmentDest step.1 fn step.2)
  hSections :
    ∀ step ∈
        sectionSteps elfLoader fn
          (segmentLoop elfLoader fn s).2,
      ElfLoader.IsNoBits
          (readSectionHeader step.2.mem step.1) →
        elfLoader.AcceptsSection
          (readSectionHeader step.2.mem step.1)
          (ElfLoader.sectionDest step.1 fn step.2)

/- The second loop is run if the first one succeeds. -/
theorem readKernelImage_fails_iff_loops
    (elfLoader : ElfLoader)
    (fn : LoaderFunction)
    (s : LoaderState) :
    (readKernelImage elfLoader fn s).Fails ↔
      ¬ ((∀ error ∈ (segmentLoop elfLoader fn s).1,
            ¬ LoadFailed error) ∧
          ∀ error ∈
            (sectionLoop elfLoader fn
              (segmentLoop elfLoader fn s).2).1,
            ¬ LoadFailed error) := by
  unfold KernelImage.Fails readKernelImage
  dsimp only
  generalize segmentLoop elfLoader fn s = segments
  rcases segments with ⟨segmentErrors, t⟩
  dsimp only
  generalize sectionLoop elfLoader fn t = sections
  rcases sections with ⟨sectionErrors, u⟩
  dsimp only
  split_ifs with hFailed
  · rcases hFailed with ⟨error, hMem, hError⟩
    refine iff_of_true ⟨error, ?_, hError⟩ ?_
    · exact List.mem_append_left _ hMem
    · exact fun hLoads => hLoads.1 error hMem hError
  · simp only [List.mem_append]
    constructor
    · rintro ⟨error, hMem, hError⟩ hLoads
      rcases hMem with hFirst | hSecond
      · exact hLoads.1 error hFirst hError
      · exact hLoads.2 error hSecond hError
    · intro hFails
      by_contra hNone
      refine hFails ⟨?_, ?_⟩
      · exact
          fun error hMem hError =>
            hNone ⟨error, .inl hMem, hError⟩
      · exact
          fun error hMem hError =>
            hNone ⟨error, .inr hMem, hError⟩

theorem readKernelImage_fails_iff
    (elfLoader : ElfLoader)
    (fn : LoaderFunction)
    (s : LoaderState) :
    (readKernelImage elfLoader fn s).Fails ↔
      ¬ EveryHeaderLoads elfLoader fn s := by
  rw [readKernelImage_fails_iff_loops, not_iff_not]
  unfold segmentLoop sectionLoop
  rw [forall_headerLoop_errors_iff,
    forall_headerLoop_errors_iff]
  simp only [loadFailed_segment_iff, loadFailed_section_iff,
    not_and, not_not]
  constructor
  · rintro ⟨hSegments, hSections⟩
    exact ⟨hSegments, hSections⟩
  · rintro ⟨hSegments, hSections⟩
    exact ⟨hSegments, hSections⟩

------------------------------------------------------------
-- What Is Released
------------------------------------------------------------

/- The returns of `readKernel` after a failure of a part. -/
def FailsAfterOpen
    (firmware : Firmware)
    (s : BootState) : Prop :=
  Opened firmware s ∧
    ((fileRead firmware s).1.BufferSize = 0 ∨
      (imageRead firmware s).Fails)

/-
  An opened file has been closed, once, and after a failure
  all pages have been freed.
-/
structure ReleasesAll
    (firmware : Firmware)
    (s : BootState) : Prop where
  hFile :
    Settled
      (actions fileAction (readKernel firmware s).2.history)
  hPages :
    FailsAfterOpen firmware s →
      Settled
        (actions pageAction (readKernel firmware s).2.history)

/- The file has bytes, and every header of it loads. -/
structure FileLoads
    (firmware : Firmware)
    (s : BootState) : Prop where
  hRead : BytesRead (fileRead firmware s).2.history
  hLoads :
    EveryHeaderLoads (kernelLoader (fileRead firmware s).1)
      (kernelCallback firmware
        (fileChecked firmware s).history)
      (imageStart (fileChecked firmware s))

theorem getVolume_bytesRead_iff
    (firmware : Firmware)
    (s : BootState) :
    BytesRead (getVolume firmware s).2.history ↔
      BytesRead s.history := by
  unfold getVolume
  dsimp only
  split_ifs <;>
    simp [BootState.handleProtocol, BootState.openVolume,
      BootState.record, ReturnsBytes]

theorem fileOpened_bytesRead_iff
    (firmware : Firmware)
    (s : BootState) :
    BytesRead (fileOpened firmware s).2.history ↔
      BytesRead s.history := by
  have hVolume :
      BytesRead (volumeFound firmware s).2.history ↔
        BytesRead s.history :=
    getVolume_bytesRead_iff firmware _
  simp [fileOpened, BootState.openFile, BootState.record,
    ReturnsBytes, hVolume]

theorem fileLoads_iff
    (firmware : Firmware)
    (s : BootState)
    (hStart : ¬ BytesRead s.history) :
    FileLoads firmware s ↔
      (fileRead firmware s).1.BufferSize ≠ 0 ∧
        ¬ (imageRead firmware s).Fails := by
  have hBefore :
      ¬ BytesRead (fileOpened firmware s).2.history :=
    mt (fileOpened_bytesRead_iff firmware s).mp hStart
  have hRead :
      (fileRead firmware s).1.BufferSize ≠ 0 ↔
        BytesRead (fileRead firmware s).2.history := by
    unfold fileRead
    exact readFile_bufferSize_iff firmware _ hBefore
  have hFails :
      (imageRead firmware s).Fails ↔
        ¬ EveryHeaderLoads
          (kernelLoader (fileRead firmware s).1)
          (kernelCallback firmware
            (fileChecked firmware s).history)
          (imageStart (fileChecked firmware s)) := by
    unfold imageRead kernelImage
    exact readKernelImage_fails_iff _ _ _
  rw [hRead, hFails, not_not]
  constructor
  · rintro ⟨hBytes, hLoads⟩
    exact ⟨hBytes, hLoads⟩
  · rintro ⟨hBytes, hLoads⟩
    exact ⟨hBytes, hLoads⟩

/- The last thing that is done with the handle. -/
theorem settled_closeFile
    {s : BootState}
    {file : Addr}
    (hHeld :
      actions fileAction s.history = [.acquire file 0]) :
    Settled (actions fileAction (s.closeFile file).history) := by
  rw [BootState.closeFile_history, actions_cons, hHeld]
  exact held_release (held_acquire held_nil file 0)

/- A handle that is still held at the end. -/
theorem not_settled_of_acquire
    {history : List (Action Addr)}
    {file : Addr}
    (hHistory : history = [.acquire file 0]) :
    ¬ Settled history := by
  subst hHistory
  exact nofun

/- A call that opens no file leaves no trace of one. -/
theorem unopened_fileActions
    {firmware : Firmware}
    {s : BootState}
    (hStart : actions fileAction s.history = [])
    (hClosed : ¬ Opened firmware s) :
    actions fileAction (readKernel firmware s).2.history =
      [] := by
  have hVolumeActions :
      actions fileAction
          (volumeFound firmware s).2.history =
        [] :=
    (getVolume_fileActions firmware _).trans hStart
  have hOutcome := readKernel_outcome firmware s
  generalize
    readKernel firmware s = result at hOutcome ⊢
  cases hOutcome with
  | noVolume hVolume => exact hVolumeActions
  | notOpened hOpen =>
      have hHistory :
          (fileOpened firmware s).2.history =
            .openFile (fileOpened firmware s).1.status
                (fileOpened firmware s).1.address ::
              (volumeFound firmware s).2.history :=
        rfl
      show
        actions fileAction
            (fileOpened firmware s).2.history =
          []
      rw [hHistory, actions_cons, hVolumeActions]
      simp [fileAction, hOpen]
  | notRead hOpened _ => exact absurd hOpened hClosed
  | notLoaded hOpened _ _ => exact absurd hOpened hClosed
  | loaded hOpened _ _ => exact absurd hOpened hClosed

/- An opened file is closed on the last return only. -/
theorem opened_settled_iff
    {firmware : Firmware}
    {s : BootState}
    (hStart : actions fileAction s.history = [])
    (hOpened : Opened firmware s) :
    Settled
        (actions fileAction
          (readKernel firmware s).2.history) ↔
      (fileRead firmware s).1.BufferSize ≠ 0 ∧
        ¬ (imageRead firmware s).Fails := by
  have hHeld := opened_fileActions hStart hOpened
  have hHeldLater :=
    (kernelLoaded_fileActions firmware s).trans hHeld
  have hOutcome := readKernel_outcome firmware s
  generalize
    readKernel firmware s = result at hOutcome ⊢
  cases hOutcome with
  | noVolume hVolume =>
      exact
        absurd (hVolume.symm.trans hOpened.hVolume)
          Bool.false_ne_true
  | notOpened hOpen =>
      exact
        absurd (hOpened.hOpen.symm.trans hOpen)
          Bool.false_ne_true
  | notRead _ hRead =>
      refine iff_of_false ?_ (fun hBoth => hBoth.1 hRead)
      exact
        not_settled_of_acquire
          ((fileRead_fileActions firmware s).trans hHeld)
  | notLoaded _ _ hFails =>
      refine iff_of_false ?_ (fun hBoth => hBoth.2 hFails)
      apply not_settled_of_acquire
      rw [BootState.print_history, actions_cons, hHeldLater]
      rfl
  | loaded _ hRead hLoads =>
      refine iff_of_true ?_ ⟨hRead, hLoads⟩
      exact settled_closeFile hHeldLater

/-
  The file is closed on the last return only, and pages are
  freed nowhere: everything is released exactly when `Open`
  is not reached or fails, or the file and all of its headers
  load.
-/
theorem releasesAll_iff
    (firmware : Firmware)
    (machine : Machine)
    (error : KernelLoadError) :
    ReleasesAll firmware (kernelStart machine error) ↔
      (Opened firmware (kernelStart machine error) →
        FileLoads firmware (kernelStart machine error)) := by
  have hNoBytes :
      ¬ BytesRead (kernelStart machine error).history := by
    simp [kernelStart, BytesRead]
  have hNoFile :
      actions fileAction
          (kernelStart machine error).history =
        [] :=
    rfl
  generalize
    kernelStart machine error = s at hNoBytes hNoFile ⊢
  have hLoadsIff := fileLoads_iff firmware s hNoBytes
  by_cases hOpened : Opened firmware s
  · have hFileIff := opened_settled_iff hNoFile hOpened
    constructor
    · intro hAll _
      exact hLoadsIff.mpr (hFileIff.mp hAll.hFile)
    · intro hLoads
      have hBoth := hLoadsIff.mp (hLoads hOpened)
      refine ⟨hFileIff.mpr hBoth, ?_⟩
      rintro ⟨_, hNotRead | hFails⟩
      · exact absurd hNotRead hBoth.1
      · exact absurd hFails hBoth.2
  · refine iff_of_true ⟨?_, ?_⟩ (absurd · hOpened)
    · rw [unopened_fileActions hNoFile hOpened]
      exact settled_nil
    · exact fun hFails => absurd hFails.1 hOpened

/-
  When the file cannot be read it is not closed, and the
  pages for its contents are not freed.
-/
theorem releasesAll_fails :
    ¬ ReleasesAll unreadableFirmware emptyStart ∧
      held
          (actions fileAction
            (readKernel unreadableFirmware
              emptyStart).2.history) =
        some [(0x1000, 0)] ∧
      held
          (actions pageAction
            (readKernel unreadableFirmware
              emptyStart).2.history) =
        some [(0x3000, 1)] := by
  have hFile :
      held
          (actions fileAction
            (readKernel unreadableFirmware
              emptyStart).2.history) =
        some [(0x1000, 0)] := by
    decide +kernel
  refine ⟨?_, hFile, by decide +kernel⟩
  intro hAll
  have hNone := hFile.symm.trans hAll.hFile
  contradiction

end KernelReader

end Chihuahua
