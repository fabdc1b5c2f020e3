import Chihuahua.Bootloader.ReadKernel

/-
  The memory that `readFile` reads the kernel's file into.

  `Read` is called in one place, with the size from the file
  information and an address from `AllocatePages`, whose
  status is not looked at.

  Main declarations:
    * `ReadCall`, `readCall` and `answerRead`
    * `FileOutcome` and `readFile_outcome`
    * `FileBacked` and `fileBacked_iff`
-/

------------------------------------------------------------
-- The Call of Read
------------------------------------------------------------

namespace Chihuahua

namespace KernelReader

open ByteMachine Resources

/- What is passed to `Read`, and the state before it. -/
structure ReadCall where
  fileSize : BitVec 64
  buffer : Addr
  before : BootState

/- The pages for a file. -/
def neededPages (fileSize : BitVec 64) : BitVec 64 :=
  (fileSize + (BitVec.ofNat 64 EFI_PAGE_SIZE - 1)) /
    BitVec.ofNat 64 EFI_PAGE_SIZE

/- The call that follows when there is information. -/
def foundCall
    (firmware : Firmware)
    (infoBuffer : Addr)
    (fileSize : BitVec 64)
    (s : BootState) : Option ReadCall :=
  let s := s.useInfo infoBuffer
  if fileSize = 0 ∨ fileSize > MAX_FILE_SIZE then none
  else if neededPages fileSize > SIZE_MAX then none
  else
    let (pages, s) :=
      (s.freePool infoBuffer).allocatePages firmware
        (neededPages fileSize)
    some
      { fileSize := fileSize
        buffer := pages.address
        before := s }

/- The call that follows the loop. -/
def callAfterInfo
    (firmware : Firmware) :
    InfoResult × BootState → Option ReadCall
| (.found infoBuffer fileSize, s) =>
    foundCall firmware infoBuffer fileSize s
| (.failed, _) => none
| (.exhausted _, _) => none

/- The call of `Read` that `readFile` makes, if any. -/
def readCall
    (firmware : Firmware)
    (s : BootState) : Option ReadCall :=
  let (pool, s) :=
    (s.setError .FileReadUnknownError).allocatePool firmware
      DEFAULT_BUFFER_SIZE
  if EFI_ERROR pool.status then none
  else
    callAfterInfo firmware
      (infoLoop firmware NUM_RETRIES DEFAULT_BUFFER_SIZE
        pool.address s)

/- The call itself, and what is made of its answer. -/
def answerRead
    (firmware : Firmware)
    (infoBuffer : Addr)
    (call : ReadCall) : ReadFileInfo × BootState :=
  let (file, s) :=
    call.before.readFile firmware call.fileSize call.buffer
  if ¬ EFI_ERROR file.status then
    ({ Buffer := call.buffer
       BufferSize := file.size }, s)
  else
    (INVALID_READ_FILE_INFO,
      (s.setError (fileError file.status)).freePool
        infoBuffer)

/- Neither a read of the file nor a call about pages. -/
def QuietEvent : FirmwareEvent → Prop
| .readFile _ _ _ => False
| .allocatePages _ _ _ => False
| .freePages _ => False
| _ => True

/- From `s` to `t` only such events were added. -/
def Quietly (s t : BootState) : Prop :=
  ∃ events : History,
    t.history = events ++ s.history ∧
      ∀ event ∈ events, QuietEvent event

/- `readFile` ends without a read, or with the one call. -/
inductive FileOutcome
    (firmware : Firmware)
    (s : BootState) :
    ReadFileInfo × BootState → Prop
| notRead
    {t : BootState}
    (hCall : readCall firmware s = none)
    (hQuiet : Quietly s t) :
    FileOutcome firmware s (INVALID_READ_FILE_INFO, t)
| read
    {call : ReadCall}
    (hCall : readCall firmware s = some call)
    (infoBuffer : Addr) :
    FileOutcome firmware s
      (answerRead firmware infoBuffer call)

theorem readFound_eq
    (firmware : Firmware)
    (infoBuffer : Addr)
    (fileSize : BitVec 64)
    (s : BootState) :
    readFound firmware infoBuffer fileSize s =
      (foundCall firmware infoBuffer fileSize s).elim
        (INVALID_READ_FILE_INFO,
          (s.useInfo infoBuffer).freePool infoBuffer)
        (answerRead firmware infoBuffer) := by
  unfold readFound foundCall neededPages
  dsimp only
  by_cases hSize : fileSize = 0 ∨ fileSize > MAX_FILE_SIZE
  · rw [if_pos hSize, if_pos hSize]
    rfl
  by_cases hPages :
      (fileSize + (BitVec.ofNat 64 EFI_PAGE_SIZE - 1)) /
          BitVec.ofNat 64 EFI_PAGE_SIZE >
        SIZE_MAX
  · rw [if_neg hSize, if_neg hSize, if_pos hPages,
      if_pos hPages]
    rfl
  · rw [if_neg hSize, if_neg hSize, if_neg hPages,
      if_neg hPages]
    rfl

namespace Quietly

variable {s t u : BootState}

theorem trans
    (hFirst : Quietly s t)
    (hSecond : Quietly t u) :
    Quietly s u := by
  rcases hFirst with ⟨first, hFirst, hFirstAll⟩
  rcases hSecond with ⟨second, hSecond, hSecondAll⟩
  refine ⟨second ++ first, ?_, ?_⟩
  · rw [hSecond, hFirst, List.append_assoc]
  · rw [List.forall_mem_append]
    exact ⟨hSecondAll, hFirstAll⟩

theorem record
    {event : FirmwareEvent}
    (hEvent : QuietEvent event)
    (s : BootState) :
    Quietly s (s.record event) := by
  refine ⟨[event], rfl, ?_⟩
  intro event' hMem
  rw [List.mem_singleton.mp hMem]
  exact hEvent

theorem freePool
    (s : BootState)
    (buffer : Addr) :
    Quietly s (s.freePool buffer) :=
  @record (.freePool buffer) trivial s

theorem allocatePool
    (firmware : Firmware)
    (size : BitVec 64)
    (s : BootState) :
    Quietly s (s.allocatePool firmware size).2 :=
  @record (.allocatePool _ _ _) trivial s

/- The information is used and its buffer freed. -/
theorem useAndFree
    (s : BootState)
    (infoBuffer : Addr) :
    Quietly s
      ((s.useInfo infoBuffer).freePool infoBuffer) :=
  (@record (.useInfo infoBuffer) trivial s).trans
    (freePool _ infoBuffer)

theorem pageActions
    (hQuiet : Quietly s t) :
    actions pageAction t.history =
      actions pageAction s.history := by
  rcases hQuiet with ⟨events, hEvents, hAll⟩
  have hNone : actions pageAction events = [] := by
    refine List.flatMap_eq_nil_iff.mpr ?_
    intro event hMem
    have hEvent := hAll event hMem
    cases event <;> first | rfl | exact absurd hEvent id
  rw [hEvents, actions_append, hNone, List.nil_append]

theorem of_infoLoop
    (firmware : Firmware)
    (retries : Nat)
    (bufferSize : BitVec 64)
    (infoBuffer : Addr)
    (s : BootState) :
    Quietly s
      (infoLoop firmware retries bufferSize infoBuffer
        s).2 := by
  rcases
    infoLoop_events firmware retries bufferSize infoBuffer
      s with
    ⟨events, hEvents, hKinds⟩
  refine ⟨events, hEvents, ?_⟩
  intro event hMem
  have hKind := hKinds event hMem
  cases event <;> trivial

end Quietly

/- The end of the loop decides whether there is a call. -/
theorem readAfterInfo_outcome
    (firmware : Firmware)
    (result : InfoResult × BootState) :
    (∃ t, callAfterInfo firmware result = none ∧
        readAfterInfo firmware result =
          (INVALID_READ_FILE_INFO, t) ∧
        Quietly result.2 t) ∨
      ∃ call infoBuffer,
        callAfterInfo firmware result = some call ∧
          readAfterInfo firmware result =
            answerRead firmware infoBuffer call := by
  rcases result with ⟨_ | _ | infoBuffer, s⟩
  case found infoBuffer fileSize =>
    unfold readAfterInfo callAfterInfo
    dsimp only
    rw [readFound_eq]
    cases hCall :
        foundCall firmware infoBuffer fileSize s with
    | none =>
        exact
          .inl ⟨_, rfl, rfl, Quietly.useAndFree s infoBuffer⟩
    | some call => exact .inr ⟨call, infoBuffer, rfl, rfl⟩
  case failed => exact .inl ⟨s, rfl, rfl, [], rfl, by simp⟩
  case exhausted =>
    exact .inl ⟨_, rfl, rfl, Quietly.freePool s infoBuffer⟩

theorem readFile_outcome
    (firmware : Firmware)
    (s : BootState) :
    FileOutcome firmware s (readFile firmware s) := by
  have hStart :
      Quietly s
        ((s.setError .FileReadUnknownError).allocatePool
          firmware DEFAULT_BUFFER_SIZE).2 :=
    Quietly.allocatePool firmware DEFAULT_BUFFER_SIZE
      (s.setError .FileReadUnknownError)
  have hCall :
      readCall firmware s =
        if EFI_ERROR
            ((s.setError .FileReadUnknownError).allocatePool
              firmware DEFAULT_BUFFER_SIZE).1.status then
          none
        else
          callAfterInfo firmware
            (infoLoop firmware NUM_RETRIES DEFAULT_BUFFER_SIZE
              ((s.setError .FileReadUnknownError).allocatePool
                firmware DEFAULT_BUFFER_SIZE).1.address
              ((s.setError .FileReadUnknownError).allocatePool
                firmware DEFAULT_BUFFER_SIZE).2) := rfl
  unfold readFile
  dsimp only
  generalize
    (s.setError .FileReadUnknownError).allocatePool firmware
      DEFAULT_BUFFER_SIZE = answer at hStart hCall ⊢
  rcases answer with ⟨pool, t⟩
  dsimp only at hStart hCall ⊢
  split_ifs at hCall ⊢ with hPool
  · exact .notRead hCall (hStart.trans (.freePool t _))
  · have hLoop :=
      hStart.trans
        (Quietly.of_infoLoop firmware NUM_RETRIES
          DEFAULT_BUFFER_SIZE pool.address t)
    rcases
      readAfterInfo_outcome firmware
        (infoLoop firmware NUM_RETRIES DEFAULT_BUFFER_SIZE
          pool.address t) with
      ⟨u, hNone, hResult, hQuiet⟩ |
        ⟨call, infoBuffer, hSome, hResult⟩
    · rw [hResult]
      exact .notRead (hCall.trans hNone) (hLoop.trans hQuiet)
    · rw [hResult]
      exact .read (hCall.trans hSome) infoBuffer

------------------------------------------------------------
-- The Pages of the File
------------------------------------------------------------

/- The file size in the information has pages enough. -/
theorem neededPages_fits
    {fileSize : BitVec 64}
    (hSize : fileSize ≤ MAX_FILE_SIZE) :
    fileSize.toNat ≤ 4096 * (neededPages fileSize).toNat := by
  have hBound : fileSize.toNat ≤ 268435456 := hSize
  have hSum :
      (fileSize + (BitVec.ofNat 64 EFI_PAGE_SIZE - 1)).toNat =
        fileSize.toNat + 4095 := by
    have hOffset :
        BitVec.ofNat 64 EFI_PAGE_SIZE - 1 =
          (4095 : BitVec 64) := rfl
    rw [hOffset]
    bv_omega
  have hPage :
      (BitVec.ofNat 64 EFI_PAGE_SIZE).toNat = 4096 := rfl
  rw [neededPages, BitVec.toNat_udiv, hSum, hPage]
  omega

/- What is known of a call that is made. -/
structure CallMade
    (firmware : Firmware)
    (s : BootState)
    (call : ReadCall) : Prop where
  hNonzero : call.fileSize ≠ 0
  hBound : call.fileSize ≤ MAX_FILE_SIZE
  hBefore :
    ∃ t status,
      Quietly s t ∧
        call.before.history =
          .allocatePages (neededPages call.fileSize) status
              call.buffer ::
            t.history

theorem foundCall_made
    {firmware : Firmware}
    {infoBuffer : Addr}
    {fileSize : BitVec 64}
    {s : BootState}
    {call : ReadCall}
    (hCall :
      foundCall firmware infoBuffer fileSize s = some call) :
    CallMade firmware s call := by
  unfold foundCall at hCall
  dsimp only at hCall
  split_ifs at hCall with hSize hPages
  cases hCall
  rw [not_or] at hSize
  exact
    { hNonzero := hSize.1
      hBound := BitVec.not_lt.mp hSize.2
      hBefore :=
        ⟨(s.useInfo infoBuffer).freePool infoBuffer, _,
          Quietly.useAndFree s infoBuffer, rfl⟩ }

theorem readCall_made
    {firmware : Firmware}
    {s : BootState}
    {call : ReadCall}
    (hCall : readCall firmware s = some call) :
    CallMade firmware s call := by
  have hStart :
      Quietly s
        ((s.setError .FileReadUnknownError).allocatePool
          firmware DEFAULT_BUFFER_SIZE).2 :=
    Quietly.allocatePool firmware DEFAULT_BUFFER_SIZE
      (s.setError .FileReadUnknownError)
  unfold readCall at hCall
  dsimp only at hCall
  split_ifs at hCall with hPool
  have hLoop :=
    hStart.trans
      (Quietly.of_infoLoop firmware NUM_RETRIES
        DEFAULT_BUFFER_SIZE
        ((s.setError .FileReadUnknownError).allocatePool
          firmware DEFAULT_BUFFER_SIZE).1.address _)
  generalize
    infoLoop firmware NUM_RETRIES DEFAULT_BUFFER_SIZE _ _ =
      result at hCall hLoop
  rcases result with ⟨_ | _ | _, t⟩
  · have hMade := foundCall_made hCall
    obtain ⟨u, status, hQuiet, hHistory⟩ := hMade.hBefore
    exact
      { hNonzero := hMade.hNonzero
        hBound := hMade.hBound
        hBefore := ⟨u, status, hLoop.trans hQuiet, hHistory⟩ }
  · cases hCall
  · cases hCall

/- The address is allocated, with pages for that many bytes. -/
def Backed
    (history : History)
    (buffer : Addr)
    (size : BitVec 64) : Prop :=
  ∃ now pages,
    held (actions pageAction history) = some now ∧
      (buffer, pages) ∈ now ∧
      size.toNat ≤ 4096 * pages

/-
  `Read` gets memory for as many bytes as it is asked for,
  and a file that is returned is in that memory.
-/
structure FileBacked
    (firmware : Firmware)
    (s : BootState) : Prop where
  hCall :
    ∀ call, readCall firmware s = some call →
      Backed call.before.history call.buffer call.fileSize
  hResult :
    (readFile firmware s).1.BufferSize ≠ 0 →
      ∃ call,
        readCall firmware s = some call ∧
          (readFile firmware s).1.Buffer = call.buffer ∧
          Backed (readFile firmware s).2.history
            (readFile firmware s).1.Buffer call.fileSize ∧
          0 < (readFile firmware s).1.BufferSize ∧
          (readFile firmware s).1.BufferSize ≤
            call.fileSize ∧
          call.fileSize ≤ MAX_FILE_SIZE

/- Every `AllocatePages` was answered without an error. -/
def PagesAnswered (history : History) : Prop :=
  ∀ pages status address,
    .allocatePages pages status address ∈ history →
      EFI_ERROR status = false

/- A read that succeeds returns no more than was wanted. -/
def ReadsAtMost (firmware : Firmware) : Prop :=
  ∀ history size buffer,
    EFI_ERROR
          (firmware.readFile history size buffer).status =
        false →
      (firmware.readFile history size buffer).size ≤ size

theorem Quietly.pagesAnswered_iff
    {s t : BootState}
    (hQuiet : Quietly s t) :
    PagesAnswered t.history ↔ PagesAnswered s.history := by
  rcases hQuiet with ⟨events, hEvents, hAll⟩
  unfold PagesAnswered
  rw [hEvents]
  constructor
  · intro hLater pages status address hMem
    exact
      hLater pages status address
        (List.mem_append_right events hMem)
  · intro hEarlier pages status address hMem
    rcases List.mem_append.mp hMem with hNew | hOld
    · exact absurd (hAll _ hNew) id
    · exact hEarlier pages status address hOld

@[simp] theorem pagesAnswered_cons
    (event : FirmwareEvent)
    (history : History) :
    PagesAnswered (event :: history) ↔
      (∀ pages status address,
          event = .allocatePages pages status address →
            EFI_ERROR status = false) ∧
        PagesAnswered history := by
  constructor
  · intro hAll
    constructor
    · rintro pages status address rfl
      exact hAll pages status address List.mem_cons_self
    · intro pages status address hMem
      exact
        hAll pages status address
          (List.mem_cons_of_mem event hMem)
  · rintro ⟨hEvent, hAll⟩ pages status address hMem
    rcases List.mem_cons.mp hMem with hHere | hEarlier
    · exact hEvent pages status address hHere.symm
    · exact hAll pages status address hEarlier

theorem pagesAnswered_nil : PagesAnswered [] :=
  fun _ _ _ hMem => by cases hMem

section Call

variable {firmware : Firmware} {s : BootState}
variable {call : ReadCall}

/- The only pages are those of the file. -/
theorem CallMade.backed_iff
    (hMade : CallMade firmware s call)
    (hStart : s.history = []) :
    Backed call.before.history call.buffer call.fileSize ↔
      PagesAnswered call.before.history := by
  obtain ⟨t, status, hQuiet, hHistory⟩ := hMade.hBefore
  have hNothing : actions pageAction t.history = [] := by
    rw [hQuiet.pageActions, hStart]
    rfl
  have hEarlier : PagesAnswered t.history := by
    rw [hQuiet.pagesAnswered_iff, hStart]
    exact pagesAnswered_nil
  rw [hHistory, pagesAnswered_cons]
  unfold Backed
  rw [actions_cons, hNothing]
  cases hStatus : EFI_ERROR status with
  | true =>
      refine iff_of_false ?_ ?_
      · rintro ⟨now, pages, hNow, hMem, _⟩
        simp only [pageAction, hStatus, if_true,
          List.append_nil, held_nil, Option.some.injEq] at hNow
        rw [← hNow] at hMem
        cases hMem
      · intro hAll
        have hFine := hAll.1 _ status _ rfl
        exact Bool.false_ne_true (hFine.symm.trans hStatus)
  | false =>
      refine iff_of_true ?_ ⟨?_, hEarlier⟩
      · refine
          ⟨_, (neededPages call.fileSize).toNat, ?_,
            List.mem_singleton.mpr rfl,
            neededPages_fits hMade.hBound⟩
        simp only [pageAction, hStatus, Bool.false_eq_true,
          if_false, List.append_nil]
        exact held_acquire held_nil _ _
      · rintro pages status' address hHead
        cases hHead
        exact hStatus

/- The call changes nothing about the pages. -/
theorem answerRead_pages
    (firmware : Firmware)
    (infoBuffer : Addr)
    (call : ReadCall) :
    actions pageAction
          (answerRead firmware infoBuffer call).2.history =
        actions pageAction call.before.history ∧
      (PagesAnswered
          (answerRead firmware infoBuffer call).2.history ↔
        PagesAnswered call.before.history) := by
  unfold answerRead
  dsimp only
  split_ifs <;>
    simp [BootState.readFile, BootState.freePool,
      BootState.record, BootState.setError, pageAction]

/- What is returned, if it has any bytes. -/
theorem answerRead_result
    (hShort : ReadsAtMost firmware)
    (infoBuffer : Addr)
    (hSome :
      (answerRead firmware infoBuffer call).1.BufferSize ≠
        0) :
    (answerRead firmware infoBuffer call).1.Buffer =
        call.buffer ∧
      0 < (answerRead firmware infoBuffer call).1.BufferSize ∧
      (answerRead firmware infoBuffer call).1.BufferSize ≤
        call.fileSize := by
  unfold answerRead at hSome ⊢
  dsimp only at hSome ⊢
  split_ifs at hSome ⊢ with hStatus
  · exact absurd rfl hSome
  · refine ⟨rfl, by bv_omega, ?_⟩
    exact
      hShort call.before.history call.fileSize call.buffer
        (Bool.eq_false_of_not_eq_true hStatus)

theorem fileBacked_of_notRead
    (hCall : readCall firmware s = none)
    (hRun : (readFile firmware s).1 = INVALID_READ_FILE_INFO) :
    FileBacked firmware s where
  hCall call hSome := by
    rw [hCall] at hSome
    cases hSome
  hResult hSome := by
    rw [hRun] at hSome
    exact absurd rfl hSome

theorem fileBacked_of_backed
    (hShort : ReadsAtMost firmware)
    (hCall : readCall firmware s = some call)
    {infoBuffer : Addr}
    (hRun :
      readFile firmware s =
        answerRead firmware infoBuffer call)
    (hBacked :
      Backed call.before.history call.buffer call.fileSize) :
    FileBacked firmware s where
  hCall call' hSome := by
    cases hCall.symm.trans hSome
    exact hBacked
  hResult hSome := by
    rw [hRun] at hSome ⊢
    obtain ⟨hBuffer, hPos, hSize⟩ :=
      answerRead_result hShort infoBuffer hSome
    refine
      ⟨call, hCall, hBuffer, ?_, hPos, hSize,
        (readCall_made hCall).hBound⟩
    unfold Backed at hBacked ⊢
    rw [hBuffer,
      (answerRead_pages firmware infoBuffer call).1]
    exact hBacked

end Call

/-
  The file is in memory of its own exactly when no call of
  `AllocatePages` failed: whether it did is not looked at,
  and what is in the address is passed on to `Read`.
-/
theorem fileBacked_iff
    {firmware : Firmware}
    (hShort : ReadsAtMost firmware)
    (machine : Machine)
    (error : KernelLoadError) :
    FileBacked firmware (kernelStart machine error) ↔
      PagesAnswered
        (readFile firmware
          (kernelStart machine error)).2.history := by
  have hStart : (kernelStart machine error).history = [] :=
    rfl
  generalize kernelStart machine error = s at hStart ⊢
  have hOutcome := readFile_outcome firmware s
  generalize hRun :
    readFile firmware s = result at hOutcome ⊢
  cases hOutcome with
  | notRead hNone hQuiet =>
      rw [hQuiet.pagesAnswered_iff, hStart]
      refine iff_of_true ?_ pagesAnswered_nil
      exact fileBacked_of_notRead hNone (by rw [hRun])
  | read hSome infoBuffer =>
      rw [(answerRead_pages firmware infoBuffer _).2,
        ← (readCall_made hSome).backed_iff hStart]
      exact
        ⟨fun hBacked => hBacked.hCall _ hSome,
          fun hBacked =>
            fileBacked_of_backed hShort hSome hRun hBacked⟩

/- Firmware with a file of 80 bytes. -/
def readableFirmware (pages : AddressAnswer) : Firmware where
  handleProtocol _ _ := EFI_SUCCESS
  openVolume _ := EFI_SUCCESS
  openFile _ := ⟨EFI_SUCCESS, 0x1000⟩
  allocatePool _ _ := ⟨EFI_SUCCESS, 0x2000⟩
  getInfo _ _ _ := .ofFileSize 80
  allocatePages _ _ := pages
  readFile _ size _ := ⟨EFI_SUCCESS, size, fun _ => 0⟩

theorem readsAtMost_readableFirmware
    (pages : AddressAnswer) :
    ReadsAtMost (readableFirmware pages) :=
  fun _ _ _ _ => BitVec.le_refl _

theorem fileBacked_readable :
    FileBacked (readableFirmware ⟨EFI_SUCCESS, 0x3000⟩)
      emptyStart := by
  refine
    (fileBacked_iff
      (readsAtMost_readableFirmware ⟨EFI_SUCCESS, 0x3000⟩)
      _ _).mpr ?_
  have hEvents :
      ∀ event ∈
          (readFile
            (readableFirmware ⟨EFI_SUCCESS, 0x3000⟩)
            emptyStart).2.history,
        event ∈
          [.readFile 0x3000 EFI_SUCCESS 80,
            .allocatePages 1 EFI_SUCCESS 0x3000,
            .freePool 0x2000, .useInfo 0x2000,
            .getInfo 256 0x2000 EFI_SUCCESS,
            .allocatePool 256 EFI_SUCCESS 0x2000] := by
    decide +kernel
  intro pages status address hMem
  have hListed := hEvents _ hMem
  simp at hListed
  rw [hListed.2.1]
  rfl

/- Without memory, 80 bytes are read to the address 0. -/
theorem fileBacked_fails :
    ReadsAtMost
        (readableFirmware ⟨EFIERR 9, 0⟩) ∧
      (readFile (readableFirmware ⟨EFIERR 9, 0⟩)
          emptyStart).1 =
        ⟨0, 80⟩ ∧
      ¬ FileBacked (readableFirmware ⟨EFIERR 9, 0⟩)
          emptyStart := by
  have hResult :
      (readFile (readableFirmware ⟨EFIERR 9, 0⟩)
          emptyStart).1 =
        ⟨0, 80⟩ := by
    decide +kernel
  have hPages :
      actions pageAction
          (readFile (readableFirmware ⟨EFIERR 9, 0⟩)
            emptyStart).2.history =
        [] := by
    decide +kernel
  refine
    ⟨readsAtMost_readableFirmware _, hResult, ?_⟩
  intro hBacked
  obtain ⟨call, _, _, hHeld, _⟩ :=
    hBacked.hResult (by rw [hResult]; decide)
  obtain ⟨now, pages, hNow, hMem, _⟩ := hHeld
  rw [hPages] at hNow
  cases hNow
  cases hMem

end KernelReader

end Chihuahua
