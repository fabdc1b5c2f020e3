import Chihuahua.Bootloader.PageRanges

/-
  The pages that a read of the file fills. Whether the
  request for them was answered is not looked at, so they
  are pages that are held only where it was.

  Main declarations:
    * `pageUse` and `ReadsAnswered`
    * `UsesHeld`
    * `readFile_usesHeld` and `readKernel_usesHeld`
-/

------------------------------------------------------------
-- Uses of Pages
------------------------------------------------------------

namespace Chihuahua

namespace KernelReader

open ByteMachine Resources

/- As many pages as so many bytes take up. -/
def pagesOf (size : Nat) : Nat :=
  (size + (EFI_PAGE_SIZE - 1)) / EFI_PAGE_SIZE

theorem pagesOf_le
    {size pages : Nat}
    (hSize : size ≤ EFI_PAGE_SIZE * pages) :
    pagesOf size ≤ pages := by
  unfold pagesOf EFI_PAGE_SIZE at *
  omega

theorem pagesOf_le_neededPages
    {size fileSize : BitVec 64}
    (hSize : size ≤ fileSize)
    (hMost : fileSize ≤ MAX_FILE_SIZE) :
    pagesOf size.toNat ≤ (neededPages fileSize).toNat :=
  pagesOf_le
    (Nat.le_trans hSize (neededPages_fits hMost))

/- As `pageAction`, with a read as a use of what it fills. -/
def pageUse : FirmwareEvent → List (Action Addr)
| .readFile buffer _ size =>
    [.access buffer (pagesOf size.toNat)]
| event => pageAction event

/- The request for pages before each read was answered. -/
def ReadsAnswered (history : History) : Prop :=
  ∀ later earlier buffer readStatus size pages status address,
    history =
        later ++
          .readFile buffer readStatus size ::
            .allocatePages pages status address :: earlier →
      EFI_ERROR status = false

theorem ReadsAnswered.of_pagesAnswered
    {history : History}
    (hAnswered : PagesAnswered history) :
    ReadsAnswered history := by
  rintro later earlier buffer readStatus size pages status
    address rfl
  apply hAnswered pages status address
  exact
    List.mem_append_right _
      (List.mem_cons_of_mem _ List.mem_cons_self)

theorem ReadsAnswered.of_append
    {later earlier : History}
    (hReads : ReadsAnswered (later ++ earlier)) :
    ReadsAnswered earlier := by
  intro between first buffer readStatus size pages status
    address hEarlier
  apply hReads (later ++ between) first
  rw [hEarlier, List.append_assoc]

theorem ReadsAnswered.of_cons
    {event : FirmwareEvent}
    {earlier : History}
    (hReads : ReadsAnswered (event :: earlier)) :
    ReadsAnswered earlier :=
  @ReadsAnswered.of_append [event] earlier hReads

theorem ReadsAnswered.of_append_left
    {later earlier : History}
    (hReads : ReadsAnswered (later ++ earlier)) :
    ReadsAnswered later := by
  intro between first buffer readStatus size pages status
    address hLater
  refine
    hReads between (first ++ earlier) buffer readStatus size
      pages status address ?_
  rw [hLater]
  simp only [List.append_assoc, List.cons_append]

/- With the reads as uses, as much is held as without. -/
def UsesHeld
    (uses earlier : List (Action Addr))
    (history : History) : Prop :=
  held (actions pageUse history ++ uses) =
    held (actions pageAction history ++ earlier)

section Uses

variable {uses earlier : List (Action Addr)}
variable {history : History}

/- What is no read is the same use as before. -/
theorem UsesHeld.append
    (hUses : UsesHeld uses earlier history)
    {events : History}
    (hNoRead : ∀ event ∈ events, ¬ IsRead event) :
    UsesHeld uses earlier (events ++ history) := by
  have hSame :
      actions pageUse events = actions pageAction events := by
    unfold actions
    apply List.flatMap_congr
    intro event hMem
    have hOther := hNoRead event hMem
    cases event <;> first | rfl | exact absurd trivial hOther
  unfold UsesHeld
  rw [actions_append, actions_append, hSame,
    List.append_assoc, List.append_assoc]
  exact held_append_congr hUses _

theorem UsesHeld.cons
    (hUses : UsesHeld uses earlier history)
    {event : FirmwareEvent}
    (hNoRead : ¬ IsRead event) :
    UsesHeld uses earlier (event :: history) :=
  @UsesHeld.append uses earlier history hUses [event]
    (List.forall_mem_singleton.mpr hNoRead)

theorem UsesHeld.quietly
    {s t : BootState}
    (hQuiet : Quietly s t)
    (hUses : UsesHeld uses earlier s.history) :
    UsesHeld uses earlier t.history := by
  rcases hQuiet with ⟨events, hEvents, hAll⟩
  rw [hEvents]
  apply hUses.append
  intro event hMem hRead
  have hEvent := hAll event hMem
  cases event <;> first | exact hEvent | exact hRead

/- A read into the pages that were granted last. -/
theorem UsesHeld.read
    (hUses : UsesHeld uses earlier history)
    {buffer : Addr}
    {pages : Nat}
    {rest : Held Addr}
    (hHeld :
      held (actions pageAction history ++ earlier) =
        some ((buffer, pages) :: rest))
    (status : EfiStatus)
    {size : BitVec 64}
    (hSize : pagesOf size.toNat ≤ pages) :
    UsesHeld uses earlier
      (.readFile buffer status size :: history) := by
  have hNow := hUses.trans hHeld
  unfold UsesHeld
  rw [actions_cons, actions_cons]
  exact (held_access hNow hSize).trans hHeld.symm

------------------------------------------------------------
-- The Read of the File
------------------------------------------------------------

variable {firmware : Firmware} {now : Held Addr}
variable {s : BootState}

/- A read is the last but one event of its call, or the last. -/
theorem answerRead_eq
    (firmware : Firmware)
    (infoBuffer : Addr)
    (call : ReadCall) :
    ∃ events status,
      (answerRead firmware infoBuffer call).2.history =
          events ++
            .readFile call.buffer status
                (firmware.readFile call.before.history
                  call.fileSize call.buffer).size ::
              call.before.history ∧
        ∀ event ∈ events, ¬ IsRead event := by
  unfold answerRead
  dsimp only
  split_ifs
  · exact ⟨[_], _, rfl, by simp [IsRead]⟩
  · exact ⟨[], _, rfl, List.forall_mem_nil _⟩

theorem readFile_usesHeld
    (hWithin : ReadsWithin firmware)
    (hKept : KeptApart earlier s.history now)
    (hUses : UsesHeld uses earlier s.history)
    (hReads :
      ReadsAnswered (readFile firmware s).2.history) :
    UsesHeld uses earlier
      (readFile firmware s).2.history := by
  have hOutcome := readFile_outcome firmware s
  generalize
    readFile firmware s = result at hOutcome hReads ⊢
  cases hOutcome with
  | notRead _ hQuiet => exact hUses.quietly hQuiet
  | @read call hCall infoBuffer =>
      rcases readCall_answeredPages hCall with
        ⟨t, hQuiet, hBuffer, hBefore⟩
      rcases answerRead_eq firmware infoBuffer call with
        ⟨events, status, hHistory, hNoRead⟩
      have hEnough :=
        pagesOf_le_neededPages
          (hWithin call.before.history call.fileSize
            call.buffer)
          (readCall_made hCall).hBound
      rw [hHistory] at hReads ⊢
      have hAnswered :=
        hReads _ _ _ _ _ _ _ _ (by rw [hBefore])
      have hAsked : UsesHeld uses earlier call.before.history := by
        rw [hBefore]
        exact (hUses.quietly hQuiet).cons id
      have hHeld :
          held
              (actions pageAction call.before.history ++
                earlier) =
            some
              ((call.buffer,
                (neededPages call.fileSize).toNat) :: now) := by
        rw [hBefore, actions_cons]
        simp only [pageAction, hAnswered, Bool.false_eq_true,
          if_false, List.cons_append, List.nil_append]
        rw [← hBuffer]
        exact held_acquire (hKept.quietly hQuiet).hHeld _ _
      exact (hAsked.read hHeld _ hEnough).append hNoRead

/-
  In a run of `readKernel` whose read was given pages that
  were answered, the read fills pages that are held.
-/
theorem readKernel_usesHeld
    (hWithin : ReadsWithin firmware)
    (hKept : KeptApart earlier s.history now)
    (hUses : UsesHeld uses earlier s.history)
    (hReads :
      ReadsAnswered (readKernel firmware s).2.history) :
    UsesHeld uses earlier
      (readKernel firmware s).2.history := by
  have hQuiet := quietly_fileOpened firmware s
  have hRead :
      ReadsAnswered (fileRead firmware s).2.history →
        UsesHeld uses earlier
          (fileRead firmware s).2.history :=
    readFile_usesHeld hWithin (hKept.quietly hQuiet)
      (hUses.quietly hQuiet)
  have hLoaded :
      ReadsAnswered (kernelLoaded firmware s).history →
        UsesHeld uses earlier
          (kernelLoaded firmware s).history := by
    rcases
        callbackHistory_grown firmware
          (fileChecked firmware s).history
          (imageRead firmware s).state.calls with
      ⟨granted, hGranted, hRequests⟩
    rcases quietly_fileChecked firmware s with
      ⟨checked, hChecked, _⟩
    rw [kernelLoaded_history, hGranted]
    intro hAll
    have hFile := hAll.of_append
    rw [hChecked] at hFile
    apply
      UsesHeld.append
        ((hRead hFile.of_append).quietly
          (quietly_fileChecked firmware s))
    intro event hMem hRead
    rcases hRequests event hMem with
      ⟨pages, status, address, rfl⟩
    exact hRead
  have hOutcome := readKernel_outcome firmware s
  generalize
    readKernel firmware s = result at hOutcome hReads ⊢
  cases hOutcome with
  | noVolume _ =>
      exact hUses.quietly (quietly_volumeFound firmware s)
  | notOpened _ => exact hUses.quietly hQuiet
  | notRead _ _ => exact hRead hReads
  | notLoaded _ _ _ =>
      exact (hLoaded hReads.of_cons).cons id
  | loaded _ _ _ =>
      exact (hLoaded hReads.of_cons).cons id

end Uses

end KernelReader

end Chihuahua
