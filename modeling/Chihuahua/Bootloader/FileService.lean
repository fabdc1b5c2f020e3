import Chihuahua.Bootloader.KernelFile
import Chihuahua.Bootloader.PageRanges

/-
  Firmware that serves a file as it is specified: `readFile`
  reads that file, and with the file of a kernel in it
  `readKernel` loads the kernel, into memory of its own.

  Main declarations:
    * `ServesFile`
    * `infoLoop_serves`
    * `FileServed` and `readFile_serves`
    * `KernelInMemory` and `readKernel_loadsKernel`
-/

------------------------------------------------------------
-- The Firmware
------------------------------------------------------------

namespace Chihuahua

namespace KernelReader

open ByteMachine Elf Resources

/- The position in the file is still at its start. -/
def NotReadYet (history : History) : Prop :=
  ∀ event ∈ history, ¬ IsRead event

/-
  All protocols and the file are there, the pool is not
  exhausted, the information needs `infoSize` bytes, which
  is at least its size without a name, and the first read
  starts at the first byte.
-/
structure ServesFile
    (firmware : Firmware)
    (file : List Byte)
    (infoSize : BitVec 64) : Prop where
  hLength : file.length < 2 ^ 64
  hInfoSize : 80 ≤ infoSize.toNat
  hProtocol :
    ∀ history protocol,
      EFI_ERROR (firmware.handleProtocol history protocol) =
        false
  hVolume :
    ∀ history,
      EFI_ERROR (firmware.openVolume history) = false
  hOpen :
    ∀ history,
      EFI_ERROR (firmware.openFile history).status = false
  hPool :
    ∀ history size,
      EFI_ERROR (firmware.allocatePool history size).status =
        false
  hTooSmall :
    ∀ history size buffer,
      size < infoSize →
        (firmware.getInfo history size buffer).status =
            EFI_BUFFER_TOO_SMALL ∧
          (firmware.getInfo history size buffer).bufferSize =
            infoSize
  hInfo :
    ∀ history size buffer,
      infoSize ≤ size →
        EFI_ERROR
              (firmware.getInfo history size buffer).status =
            false ∧
          (firmware.getInfo history size buffer).bufferSize =
            infoSize ∧
          ∀ i,
            i < 8 →
              (firmware.getInfo history size
                  buffer).content (8 + i) =
                (BitVec.ofNat 64 file.length).extractLsb'
                  (8 * i) 8
  hAtMost : ReadsAtMost firmware
  hRead :
    ∀ history size buffer,
      NotReadYet history →
        EFI_ERROR
              (firmware.readFile history size buffer).status =
            false ∧
          (firmware.readFile history size
              buffer).size.toNat =
            min size.toNat file.length ∧
          ∀ i (hi : i < file.length),
            i < size.toNat →
              (firmware.readFile history size
                  buffer).content i =
                file[i]

------------------------------------------------------------
-- Information about the File
------------------------------------------------------------

def IsGetInfo : FirmwareEvent → Bool
| .getInfo _ _ _ => true
| _ => false

/- How often the firmware was asked about the file. -/
def infoCalls (history : History) : Nat :=
  history.countP IsGetInfo

theorem notReadYet_of_quietly
    {s t : BootState}
    (hQuiet : Quietly s t)
    (hStart : NotReadYet s.history) :
    NotReadYet t.history := by
  rcases hQuiet with ⟨events, hEvents, hAll⟩
  intro event hMem hRead
  rw [hEvents] at hMem
  rcases List.mem_append.mp hMem with hNew | hOld
  · have hQuietEvent := hAll event hNew
    cases event <;> first
      | exact hRead
      | exact hQuietEvent
  · exact hStart event hOld hRead

theorem notReadYet_allocatePages
    {history : History}
    (hNotYet : NotReadYet history)
    (pages : BitVec 64)
    (status : EfiStatus)
    (address : Addr) :
    NotReadYet
      (.allocatePages pages status address :: history) := by
  intro event hMem hRead
  rcases List.mem_cons.mp hMem with rfl | hEarlier
  · exact hRead
  · exact hNotYet event hEarlier hRead

/- Behind the eight bytes of `Size` there is `FileSize`. -/
theorem EFI_FILE_INFO.content_fileSize
    (size fileSize : BitVec 64)
    {i : Nat}
    (hi : i < 8) :
    EFI_FILE_INFO.content size fileSize (8 + i) =
      fileSize.extractLsb' (8 * i) 8 := by
  apply BitVec.eq_of_getLsbD_eq
  intro j hj
  unfold EFI_FILE_INFO.content
  rw [BitVec.getLsbD_extractLsb', BitVec.getLsbD_extractLsb',
    BitVec.getLsbD_append,
    if_neg (by omega : ¬ 8 * (8 + i) + j < 64)]
  congr 2
  omega

/- Such firmware, with 300 bytes of information. -/
def servingFirmware
    (file : List Byte)
    (earlier : List (Action Addr)) : Firmware where
  handleProtocol _ _ := EFI_SUCCESS
  openVolume _ := EFI_SUCCESS
  openFile _ := ⟨EFI_SUCCESS, 0x1000⟩
  allocatePool _ _ := ⟨EFI_SUCCESS, 0x2000⟩
  getInfo _ size _ :=
    { status :=
        if size < 300 then EFI_BUFFER_TOO_SMALL
        else EFI_SUCCESS
      bufferSize := 300
      content :=
        EFI_FILE_INFO.content 300
          (BitVec.ofNat 64 file.length) }
  allocatePages := nextPages earlier
  readFile _ size _ :=
    { status := EFI_SUCCESS
      size :=
        if size ≤ BitVec.ofNat 64 file.length then size
        else BitVec.ofNat 64 file.length
      content := fun i => file.getD i 0 }

theorem not_error_success : EFI_ERROR EFI_SUCCESS = false := by
  decide

theorem servesFile_servingFirmware
    {file : List Byte}
    (hLength : file.length < 2 ^ 64)
    (earlier : List (Action Addr)) :
    ServesFile (servingFirmware file earlier) file 300 where
  hLength := hLength
  hInfoSize := by decide
  hProtocol _ _ := not_error_success
  hVolume _ := not_error_success
  hOpen _ := not_error_success
  hPool _ _ := not_error_success
  hTooSmall history size buffer hSize := by
    unfold servingFirmware
    dsimp only
    rw [if_pos hSize]
    exact ⟨rfl, rfl⟩
  hInfo history size buffer hSize := by
    unfold servingFirmware
    dsimp only
    rw [if_neg (BitVec.not_lt.mpr hSize)]
    refine ⟨not_error_success, rfl, fun i hi => ?_⟩
    exact EFI_FILE_INFO.content_fileSize _ _ hi
  hAtMost history size buffer _ := by
    unfold servingFirmware
    dsimp only
    split_ifs with hShort
    · exact BitVec.le_refl size
    · exact BitVec.le_of_lt (BitVec.not_le.mp hShort)
  hRead history size buffer _ := by
    have hValue :
        (BitVec.ofNat 64 file.length).toNat = file.length := by
      rw [BitVec.toNat_ofNat]
      exact Nat.mod_eq_of_lt hLength
    refine ⟨not_error_success, ?_, ?_⟩
    · unfold servingFirmware
      dsimp only
      split_ifs with hShort
      · rw [BitVec.le_def, hValue] at hShort
        exact (Nat.min_eq_left hShort).symm
      · rw [BitVec.le_def, hValue] at hShort
        rw [hValue]
        omega
    · intro i hi _
      show file.getD i 0 = file[i]
      rw [List.getD_eq_getElem?_getD,
        List.getElem?_eq_getElem hi, Option.getD_some]

section Service

variable {firmware : Firmware} {file : List Byte}
variable {infoSize : BitVec 64}

/- The information is never larger than its buffer. -/
theorem ServesFile.infoWithin
    (hServes : ServesFile firmware file infoSize) :
    InfoWithin firmware := by
  intro history size buffer hStatus
  by_cases hLarge : infoSize ≤ size
  · rw [(hServes.hInfo history size buffer hLarge).2.1]
    exact hLarge
  · have hSmall :=
      (hServes.hTooSmall history size buffer
        (BitVec.not_le.mp hLarge)).1
    rw [hSmall] at hStatus
    exact absurd hStatus (by decide)

/- What was written is the size of the file. -/
theorem getInfo_fileSize
    (hServes : ServesFile firmware file infoSize)
    {bufferSize : BitVec 64}
    (hLarge : infoSize ≤ bufferSize)
    (infoBuffer : Addr)
    (s : BootState) :
    EFI_FILE_INFO.FileSize
        (s.getInfo firmware bufferSize
          infoBuffer).2.machine.mem
        infoBuffer =
      BitVec.ofNat 64 file.length := by
  rcases
      hServes.hInfo s.history bufferSize infoBuffer hLarge with
    ⟨hStatus, hSize, hContent⟩
  have hRoom := hServes.hInfoSize
  unfold EFI_FILE_INFO.FileSize
  refine Memory.load_eq_of_bytes (n := 8) ?_
  intro i hi
  have hAddress :
      infoBuffer + 8 + BitVec.ofNat 64 i =
        infoBuffer + BitVec.ofNat 64 (8 + i) := by
    rw [BitVec.ofNat_add, BitVec.add_assoc]
    rfl
  dsimp only [BootState.getInfo]
  rw [hStatus, hSize, hAddress, Memory.paint_apply]
  dsimp only
  rw [if_neg Bool.false_ne_true,
    if_pos (inRange_add_ofNat _ (by omega)),
    add_ofNat_sub_toNat _ (by omega)]
  exact hContent i hi

/- A buffer of the size that was asked for is enough. -/
theorem infoLoop_large
    (hServes : ServesFile firmware file infoSize)
    {bufferSize : BitVec 64}
    (hLarge : infoSize ≤ bufferSize)
    (retries : Nat)
    (infoBuffer : Addr)
    (s : BootState) :
    infoLoop firmware (retries + 1) bufferSize infoBuffer s =
      (.found infoBuffer (BitVec.ofNat 64 file.length),
        (s.getInfo firmware bufferSize infoBuffer).2) := by
  have hStatus :
      EFI_ERROR
          (s.getInfo firmware bufferSize infoBuffer).1.status =
        false :=
    (hServes.hInfo s.history bufferSize infoBuffer hLarge).1
  unfold infoLoop
  dsimp only
  rw [getInfo_fileSize hServes hLarge infoBuffer s, hStatus]
  exact if_pos Bool.false_ne_true

/- The second buffer is large enough if the first is not. -/
theorem infoLoop_serves
    (hServes : ServesFile firmware file infoSize)
    (retries : Nat)
    (bufferSize : BitVec 64)
    (infoBuffer : Addr)
    (s : BootState) :
    ∃ infoBuffer' t,
      infoLoop firmware (retries + 2) bufferSize infoBuffer
            s =
          (.found infoBuffer'
            (BitVec.ofNat 64 file.length), t) ∧
        WritesOnly (fun _ => False) s t ∧
        Quietly s t ∧
        infoCalls t.history ≤ infoCalls s.history + 2 := by
  have hQuiet :=
    Quietly.of_infoLoop firmware (retries + 2) bufferSize
      infoBuffer s
  have hWrites :
      WritesOnly (fun _ => False) s
        (infoLoop firmware (retries + 2) bufferSize
          infoBuffer s).2 :=
    infoLoop_writes hServes.infoWithin _ _ _ _
  by_cases hLarge : infoSize ≤ bufferSize
  · have hFound :=
      infoLoop_large hServes hLarge (retries + 1) infoBuffer s
    rw [hFound] at hQuiet hWrites ⊢
    refine ⟨infoBuffer, _, rfl, hWrites, hQuiet, ?_⟩
    simp [infoCalls, BootState.getInfo, List.countP_cons,
      IsGetInfo]
  · rcases
        hServes.hTooSmall s.history bufferSize infoBuffer
          (BitVec.not_le.mp hLarge) with
      ⟨hStatus, hWanted⟩
    have hNext :
        infoLoop firmware (retries + 2) bufferSize infoBuffer
            s =
          infoLoop firmware (retries + 1) infoSize
            (((s.getInfo firmware bufferSize
                infoBuffer).2.freePool
              infoBuffer).allocatePool firmware
                infoSize).1.address
            (((s.getInfo firmware bufferSize
                infoBuffer).2.freePool
              infoBuffer).allocatePool firmware
                infoSize).2 := by
      conv_lhs => unfold infoLoop
      dsimp only [BootState.getInfo]
      rw [hStatus, hWanted, if_neg (by decide),
        if_neg (by decide)]
    rw [hNext,
      infoLoop_large hServes
        (BitVec.le_refl infoSize)] at hQuiet hWrites ⊢
    refine ⟨_, _, rfl, hWrites, hQuiet, ?_⟩
    simp [infoCalls, BootState.getInfo, BootState.freePool,
      BootState.allocatePool, BootState.record,
      List.countP_cons, IsGetInfo]

------------------------------------------------------------
-- Reading the File
------------------------------------------------------------

/- What is returned, and the file in memory. -/
structure FileServed
    (file : List Byte)
    (s : BootState)
    (result : ReadFileInfo × BootState) : Prop where
  hSize :
    result.1.BufferSize = BitVec.ofNat 64 file.length
  hText :
    HoldsText result.2.machine.mem result.1.Buffer file
  hWrites :
    WritesOnly (InRange result.1.Buffer file.length) s
      result.2

/- An address the firmware answered, for pages enough. -/
def PagesRequested
    (s t : BootState)
    (buffer : Addr)
    (size : Nat) : Prop :=
  ∃ events pages status,
    t.history = events ++ s.history ∧
      .allocatePages pages status buffer ∈ events ∧
        size ≤ EFI_PAGE_SIZE * pages.toNat

/- The sizes that `readFile` takes. -/
def SizeAccepted (file : List Byte) : Prop :=
  0 < file.length ∧ file.length ≤ 2 ^ 28

instance (file : List Byte) : Decidable (SizeAccepted file) := by
  unfold SizeAccepted
  infer_instance

theorem sizeRefused_iff
    (hLength : file.length < 2 ^ 64) :
    (BitVec.ofNat 64 file.length = 0 ∨
        BitVec.ofNat 64 file.length > MAX_FILE_SIZE) ↔
      ¬ SizeAccepted file := by
  have hValue :
      (BitVec.ofNat 64 file.length).toNat = file.length := by
    rw [BitVec.toNat_ofNat]
    exact Nat.mod_eq_of_lt hLength
  have hMax : MAX_FILE_SIZE.toNat = 2 ^ 28 := by decide
  have hZero :
      BitVec.ofNat 64 file.length = 0 ↔ file.length = 0 := by
    rw [← BitVec.toNat_inj, hValue]
    rfl
  have hLarge :
      BitVec.ofNat 64 file.length > MAX_FILE_SIZE ↔
        2 ^ 28 < file.length := by
    rw [gt_iff_lt, BitVec.lt_def, hValue, hMax]
  unfold SizeAccepted
  rw [hZero, hLarge]
  omega

/- The first read gets the whole file. -/
theorem answerRead_serves
    (hServes : ServesFile firmware file infoSize)
    (infoBuffer : Addr)
    {call : ReadCall}
    (hCall :
      call.fileSize = BitVec.ofNat 64 file.length)
    (hNotYet : NotReadYet call.before.history) :
    FileServed file call.before
      (answerRead firmware infoBuffer call) := by
  have hValue : call.fileSize.toNat = file.length := by
    rw [hCall, BitVec.toNat_ofNat]
    exact Nat.mod_eq_of_lt hServes.hLength
  rcases
      hServes.hRead call.before.history call.fileSize
        call.buffer hNotYet with
    ⟨hStatus, hSize, hContent⟩
  rw [hValue, Nat.min_self] at hSize
  unfold answerRead
  dsimp only [BootState.readFile]
  rw [hStatus, if_pos Bool.false_ne_true]
  refine ⟨?_, ?_, [_], rfl, ?_⟩
  · apply BitVec.eq_of_toNat_eq
    rw [hSize, ← hCall, hValue]
  · dsimp only
    rw [hSize]
    apply holdsText_paint _ _ hServes.hLength.le
    intro i hi
    exact hContent i hi (by rw [hValue]; exact hi)
  · intro a hOutside _
    dsimp only at hOutside ⊢
    rw [Memory.paint_apply, hSize]
    exact if_neg hOutside

theorem infoCalls_answerRead
    (firmware : Firmware)
    (infoBuffer : Addr)
    (call : ReadCall) :
    infoCalls
        (answerRead firmware infoBuffer call).2.history =
      infoCalls call.before.history := by
  unfold answerRead
  dsimp only
  split_ifs <;> rfl

/- With the information, `readFile` goes on. -/
theorem readFile_found
    (hServes : ServesFile firmware file infoSize)
    (s : BootState) :
    ∃ infoBuffer t,
      readFile firmware s =
          readFound firmware infoBuffer
            (BitVec.ofNat 64 file.length) t ∧
        WritesOnly (fun _ => False) s t ∧
        Quietly s t ∧
        infoCalls t.history ≤ infoCalls s.history + 2 := by
  have hPool :=
    hServes.hPool
      (s.setError .FileReadUnknownError).history
      DEFAULT_BUFFER_SIZE
  have hFirst :
      Quietly s
        ((s.setError .FileReadUnknownError).allocatePool
          firmware DEFAULT_BUFFER_SIZE).2 :=
    Quietly.allocatePool firmware DEFAULT_BUFFER_SIZE
      (s.setError .FileReadUnknownError)
  rcases
      infoLoop_serves hServes 3 DEFAULT_BUFFER_SIZE
        ((s.setError .FileReadUnknownError).allocatePool
          firmware DEFAULT_BUFFER_SIZE).1.address
        ((s.setError .FileReadUnknownError).allocatePool
          firmware DEFAULT_BUFFER_SIZE).2 with
    ⟨infoBuffer, t, hLoop, hWrites, hSecond, hCount⟩
  refine
    ⟨infoBuffer, t, ?_, (firstPool_writes s).trans hWrites,
      hFirst.trans hSecond, hCount⟩
  unfold readFile
  dsimp only
  rw [show NUM_RETRIES = 3 + 2 from rfl, hLoop]
  exact if_neg (Bool.eq_false_iff.mp hPool)

theorem readFound_refused
    (hServes : ServesFile firmware file infoSize)
    (hSize : ¬ SizeAccepted file)
    (infoBuffer : Addr)
    (s : BootState) :
    readFound firmware infoBuffer
        (BitVec.ofNat 64 file.length) s =
      (INVALID_READ_FILE_INFO,
        (s.useInfo infoBuffer).freePool infoBuffer) :=
  if_pos ((sizeRefused_iff hServes.hLength).mpr hSize)

/- The call of `Read`, for pages that are added before. -/
theorem readFound_accepted
    (hServes : ServesFile firmware file infoSize)
    (hSize : SizeAccepted file)
    (infoBuffer : Addr)
    (s : BootState) :
    ∃ call status,
      readFound firmware infoBuffer
            (BitVec.ofNat 64 file.length) s =
          answerRead firmware infoBuffer call ∧
        call.fileSize = BitVec.ofNat 64 file.length ∧
        call.before.machine = s.machine ∧
        call.before.history =
          .allocatePages (neededPages call.fileSize) status
              call.buffer ::
            ((s.useInfo infoBuffer).freePool
              infoBuffer).history := by
  have hAccepted :=
    mt (sizeRefused_iff hServes.hLength).mp (not_not.mpr hSize)
  have hPages :
      ¬ neededPages (BitVec.ofNat 64 file.length) >
        SIZE_MAX := by
    unfold SIZE_MAX
    bv_omega
  rw [readFound_eq]
  unfold foundCall
  dsimp only
  rw [if_neg hAccepted, if_neg hPages, Option.elim_some]
  exact ⟨_, _, rfl, rfl, rfl, rfl⟩

/- What happens before the file is read. -/
theorem FileServed.after
    {s t : BootState}
    {result : ReadFileInfo × BootState}
    (hBefore : WritesOnly (fun _ => False) s t)
    (hServed : FileServed file t result) :
    FileServed file s result where
  hSize := hServed.hSize
  hText := hServed.hText
  hWrites :=
    (hBefore.mono (fun _ hNone => hNone.elim)).trans
      hServed.hWrites

theorem fileServed_readFile
    (hServes : ServesFile firmware file infoSize)
    (hSize : SizeAccepted file)
    {s : BootState}
    (hStart : NotReadYet s.history) :
    FileServed file s (readFile firmware s) := by
  rcases readFile_found hServes s with
    ⟨infoBuffer, t, hRun, hWrites, hQuiet, _⟩
  rcases readFound_accepted hServes hSize infoBuffer t with
    ⟨call, status, hCall, hAsked, hSame, hBefore⟩
  rw [hRun, hCall]
  refine
    FileServed.after
      (hWrites.trans (.of_machine [_, _, _] hBefore hSame)) ?_
  apply answerRead_serves hServes infoBuffer hAsked
  rw [hBefore]
  apply notReadYet_allocatePages
  exact
    notReadYet_of_quietly
      (hQuiet.trans (Quietly.useAndFree t infoBuffer))
      hStart

/- The file gets what was asked for because of its size. -/
theorem pagesRequested_readFile
    (hServes : ServesFile firmware file infoSize)
    (hSize : SizeAccepted file)
    {s : BootState}
    (hStart : NotReadYet s.history) :
    PagesRequested s (readFile firmware s).2
      (readFile firmware s).1.Buffer file.length := by
  rcases readFile_found hServes s with
    ⟨infoBuffer, t, hRun, _, hQuiet, _⟩
  rcases readFound_accepted hServes hSize infoBuffer t with
    ⟨call, status, hCall, hAsked, _, hBefore⟩
  have hServed := fileServed_readFile hServes hSize hStart
  have hSome : (readFile firmware s).1.BufferSize ≠ 0 := by
    rw [hServed.hSize]
    exact
      (not_or.mp
        (mt (sizeRefused_iff hServes.hLength).mp
          (not_not.mpr hSize))).1
  rw [hRun, hCall] at hSome ⊢
  rcases hQuiet with ⟨first, hFirst, _⟩
  rcases answerRead_freesNothing firmware infoBuffer call with
    ⟨later, hLater, _⟩
  rw [(answerRead_result hServes.hAtMost infoBuffer hSome).1]
  refine
    ⟨later ++
        (.allocatePages (neededPages call.fileSize) status
            call.buffer ::
          .freePool infoBuffer ::
            .useInfo infoBuffer :: first),
      neededPages call.fileSize, status, ?_, ?_, ?_⟩
  · rw [hLater, hBefore]
    show
      later ++
          (_ :: .freePool infoBuffer ::
            .useInfo infoBuffer :: t.history) =
        _
    rw [hFirst]
    simp
  · exact List.mem_append_right _ List.mem_cons_self
  · have hMost : call.fileSize ≤ MAX_FILE_SIZE := by
      rw [hAsked]
      exact
        BitVec.not_lt.mp
          (not_or.mp
            (mt (sizeRefused_iff hServes.hLength).mp
              (not_not.mpr hSize))).2
    have hFits := neededPages_fits hMost
    rw [hAsked, BitVec.toNat_ofNat,
      Nat.mod_eq_of_lt hServes.hLength] at hFits
    rw [hAsked]
    exact hFits

/-
  A file of at most 256 MiB that has any bytes is read as a
  whole, to the address that was answered to one request for
  pages enough; any other is refused. Elsewhere memory stays
  as it was but for the buffers that were given to
  `GetInfo`, which is called at most twice.
-/
theorem readFile_serves
    (hServes : ServesFile firmware file infoSize)
    (s : BootState)
    (hStart : NotReadYet s.history) :
    (if SizeAccepted file then
        FileServed file s (readFile firmware s) ∧
          PagesRequested s (readFile firmware s).2
            (readFile firmware s).1.Buffer file.length
      else
        (readFile firmware s).1 = INVALID_READ_FILE_INFO ∧
          WritesOnly (fun _ => False) s
            (readFile firmware s).2) ∧
      infoCalls (readFile firmware s).2.history ≤
        infoCalls s.history + 2 := by
  rcases readFile_found hServes s with
    ⟨infoBuffer, t, hRun, hWrites, _, hCount⟩
  by_cases hSize : SizeAccepted file
  · rw [if_pos hSize]
    refine
      ⟨⟨fileServed_readFile hServes hSize hStart,
          pagesRequested_readFile hServes hSize hStart⟩, ?_⟩
    rcases readFound_accepted hServes hSize infoBuffer t with
      ⟨call, status, hCall, _, _, hBefore⟩
    rw [hRun, hCall, infoCalls_answerRead, hBefore]
    exact hCount
  · rw [if_neg hSize, hRun,
      readFound_refused hServes hSize infoBuffer t]
    refine ⟨⟨rfl, ?_⟩, hCount⟩
    exact hWrites.trans (.of_machine [_, _] rfl rfl)

end Service

theorem readFile_serves_sample :
    FileServed sampleKernel.file emptyStart
        (readFile (servingFirmware sampleKernel.file [])
          emptyStart) ∧
      PagesRequested emptyStart
        (readFile (servingFirmware sampleKernel.file [])
          emptyStart).2
        (readFile (servingFirmware sampleKernel.file [])
          emptyStart).1.Buffer
        sampleKernel.file.length := by
  have hLength := length_sampleKernel_file
  have hBoth :=
    readFile_serves
      (@servesFile_servingFirmware sampleKernel.file
        (by omega) [])
      emptyStart (List.forall_mem_nil _)
  have hSize : SizeAccepted sampleKernel.file := by
    unfold SizeAccepted
    omega
  rw [if_pos hSize] at hBoth
  exact hBoth.1

------------------------------------------------------------
-- Buffers of Fresh Pages
------------------------------------------------------------

/- What lies in pages that are apart is apart. -/
theorem PagesDisjoint.ranges
    {range range' : Addr × Nat}
    (hApart : PagesDisjoint range range')
    {size size' : Nat}
    (hSize : size ≤ EFI_PAGE_SIZE * range.2)
    (hSize' : size' ≤ EFI_PAGE_SIZE * range'.2) :
    RangesDisjoint range.1 size range'.1 size' := by
  intro a hRange hRange'
  exact hApart a (hRange.mono hSize) (hRange'.mono hSize')

/- Where all requests are granted, every call has a buffer. -/
theorem dest_ne_zero_of_pagesAnswered
    {firmware : Firmware}
    {earlier : List (Action Addr)}
    {history : History}
    {now : Held Addr}
    (hFresh : HandsOutFresh firmware earlier)
    (hKept : KeptApart earlier history now)
    {calls : List LoaderCall}
    (hCalls :
      CallsOf (kernelCallback firmware history) calls)
    (hAnswered :
      PagesAnswered
        (callbackHistory firmware history calls)) :
    PagesAnswered history ∧
      ∀ call ∈ calls, call.dest ≠ 0 := by
  induction hCalls with
  | nil => exact ⟨hAnswered, List.forall_mem_nil _⟩
  | @cons call calls _ hDest hCalls ih =>
      unfold callbackHistory at hAnswered
      rcases (pagesAnswered_cons _ _).mp hAnswered with
        ⟨hThis, hOthers⟩
      rcases ih hOthers with ⟨hHistory, hNotNull⟩
      refine ⟨hHistory, List.forall_mem_cons.mpr ⟨?_, hNotNull⟩⟩
      have hStatus := hThis _ _ _ rfl
      have hBefore :=
        keptApart_callbackHistory hFresh hKept hCalls
      rw [hDest]
      unfold kernelCallback
      dsimp only
      rw [if_neg (Bool.eq_false_iff.mp hStatus)]
      exact
        (hFresh _ (callbackPages call.memorySize) _ hStatus
          hBefore.hHeld).hNotNull

theorem callRanges_of_ne_zero
    {calls : List LoaderCall}
    (hNotNull : ∀ call ∈ calls, call.dest ≠ 0) :
    callRanges calls = calls.map callRange := by
  unfold callRanges
  rw [List.filter_eq_self.mpr]
  intro call hCall
  exact decide_eq_true (hNotNull call hCall)

/- The buffers are those a loader of the file can use. -/
theorem goodBuffers_of_keptApart
    {elfLoader : ElfLoader}
    {calls : List LoaderCall}
    {pages : Nat}
    {now : Held Addr}
    (hApart :
      (calls.map callRange ++
        ((elfLoader.elfFile, pages) :: now)).Pairwise
          PagesDisjoint)
    (hNotNull : ∀ call ∈ calls, call.dest ≠ 0)
    (hSizes :
      ∀ call ∈ calls,
        call.memorySize.toNat ≤
          EFI_PAGE_SIZE * (callRange call).2)
    (hFile :
      elfLoader.elfFileSize.toNat ≤ EFI_PAGE_SIZE * pages) :
    GoodBuffers elfLoader calls := by
  rw [List.pairwise_append] at hApart
  rcases hApart with ⟨hCalls, _, hOthers⟩
  rw [List.pairwise_map] at hCalls
  refine ⟨?_, ?_⟩
  · intro call hCall
    refine ⟨hNotNull call hCall, ?_⟩
    have hBoth :=
      hOthers (callRange call) (List.mem_map_of_mem hCall)
        (elfLoader.elfFile, pages) List.mem_cons_self
    exact hBoth.ranges (hSizes call hCall) hFile
  · refine hCalls.imp_of_mem ?_
    intro call call' hCall hCall' hBoth
    exact
      hBoth.ranges (hSizes call hCall) (hSizes call' hCall')

instance (event : FirmwareEvent) :
    Decidable
      (∀ pages status address,
        event = .allocatePages pages status address →
          EFI_ERROR status = false) :=
  match event with
  | .allocatePages _ status _ =>
      decidable_of_iff (EFI_ERROR status = false)
        ⟨fun hStatus _ _ _ hEvent => by
            cases hEvent
            exact hStatus,
          fun hAll => hAll _ _ _ rfl⟩
  | .handleProtocol _ _ | .openVolume _ | .openFile _ _
  | .closeFile _ | .allocatePool _ _ _ | .freePool _
  | .getInfo _ _ _ | .useInfo _ | .freePages _
  | .readFile _ _ _ | .print _ =>
      .isTrue nofun

instance (history : History) :
    Decidable (PagesAnswered history) :=
  decidable_of_iff
    (∀ event ∈ history,
      ∀ pages status address,
        event = .allocatePages pages status address →
          EFI_ERROR status = false)
    ⟨fun hAll _ _ _ hMem => hAll _ hMem _ _ _ rfl,
      fun hAll _ hMem pages status address hEvent =>
        hAll pages status address (hEvent ▸ hMem)⟩

------------------------------------------------------------
-- Loading the Kernel
------------------------------------------------------------

/-
  A kernel in memory that is held, each item in a range of
  pages of its own.
-/
structure KernelInMemory
    (kernel : Kernel)
    (m : Memory)
    (calls : List LoaderCall)
    (now : Held Addr) : Prop where
  hLoaded : LoadedBy kernel m calls.reverse
  hPages :
    ∀ call ∈ calls,
      callRange call ∈ now ∧
        call.memorySize.toNat ≤
          EFI_PAGE_SIZE * (callRange call).2

namespace KernelInMemory

variable {kernel : Kernel} {m : Memory}
variable {calls : List LoaderCall} {now : Held Addr}

/- Memory may change outside of the pages. -/
theorem congr
    (hKernel : KernelInMemory kernel m calls now)
    {m' : Memory}
    (hSame : ∀ a, InPages now a → m' a = m a) :
    KernelInMemory kernel m' calls now where
  hLoaded := by
    apply hKernel.hLoaded.congr
    intro call hCall a hRange
    rcases hKernel.hPages call (List.mem_reverse.mp hCall) with
      ⟨hHeld, hSize⟩
    exact
      hSame a ⟨callRange call, hHeld, hRange.mono hSize⟩
  hPages := hKernel.hPages

theorem mono
    (hKernel : KernelInMemory kernel m calls now)
    {later : Held Addr}
    (hMore : now ⊆ later) :
    KernelInMemory kernel m calls later where
  hLoaded := hKernel.hLoaded
  hPages call hCall :=
    ⟨hMore (hKernel.hPages call hCall).1,
      (hKernel.hPages call hCall).2⟩

end KernelInMemory

theorem machine_fileOpened
    (firmware : Firmware)
    (s : BootState) :
    (fileOpened firmware s).2.machine = s.machine := by
  unfold fileOpened volumeFound getVolume
  dsimp only
  split_ifs <;> rfl

theorem opened_of_serves
    {firmware : Firmware}
    {file : List Byte}
    {infoSize : BitVec 64}
    (hServes : ServesFile firmware file infoSize)
    (s : BootState) :
    Opened firmware s where
  hVolume := by
    unfold volumeFound getVolume
    dsimp only [BootState.handleProtocol,
      BootState.openVolume]
    rw [hServes.hProtocol, hServes.hProtocol,
      hServes.hVolume]
    rfl
  hOpen := hServes.hOpen _

theorem kernelLoaded_machine
    (firmware : Firmware)
    (s : BootState) :
    (kernelLoaded firmware s).machine =
      (imageRead firmware s).state.machine := by
  simp only [kernelLoaded, imageLoaded, imageRead]

/-
  Behind the loops there is a print, or the file is closed,
  and that is all.
-/
theorem readKernel_of_read
    {firmware : Firmware}
    {s : BootState}
    (hOpened : Opened firmware s)
    (hSome : (fileRead firmware s).1.BufferSize ≠ 0) :
    Quietly (kernelLoaded firmware s)
        (readKernel firmware s).2 ∧
      (readKernel firmware s).2.machine =
        (imageRead firmware s).state.machine := by
  have hOutcome := readKernel_outcome firmware s
  rw [← kernelLoaded_machine]
  generalize
    readKernel firmware s = result at hOutcome ⊢
  cases hOutcome with
  | noVolume hVolume =>
      exact
        absurd (hVolume.symm.trans hOpened.hVolume)
          Bool.false_ne_true
  | notOpened hStatus =>
      exact
        absurd (hOpened.hOpen.symm.trans hStatus)
          Bool.false_ne_true
  | notRead _ hNone => exact absurd hNone hSome
  | notLoaded _ _ _ =>
      generalize kernelLoaded firmware s = t
      exact ⟨@Quietly.record (.print _) trivial t, rfl⟩
  | loaded _ _ _ =>
      generalize kernelLoaded firmware s = t
      exact
        ⟨@Quietly.record (.closeFile _) trivial t, rfl⟩

/- A read, and loops that write to the same place. -/
theorem readKernel_writes
    {firmware : Firmware}
    {s : BootState}
    {Written : Addr → Prop}
    (hOpened : Opened firmware s)
    (hSome : (fileRead firmware s).1.BufferSize ≠ 0)
    (hRead :
      WritesOnly Written (fileOpened firmware s).2
        (fileRead firmware s).2)
    (hLoops :
      ∀ a,
        ¬ Written a →
          (imageRead firmware s).state.machine.mem a =
            (fileRead firmware s).2.machine.mem a) :
    WritesOnly Written s (readKernel firmware s).2 := by
  rcases quietly_fileOpened firmware s with ⟨opened, hOpen, _⟩
  rcases quietly_fileChecked firmware s with
    ⟨checked, hCheck, _⟩
  rcases
      callbackHistory_grown firmware
        (fileChecked firmware s).history
        (imageRead firmware s).state.calls with
    ⟨granted, hGranted, _⟩
  rcases readKernel_of_read hOpened hSome with
    ⟨⟨last, hLast, _⟩, hMachine⟩
  have hStart :
      WritesOnly Written s (fileOpened firmware s).2 :=
    .of_machine opened hOpen (machine_fileOpened firmware s)
  refine (hStart.trans hRead).trans (.of_suffix ?_ ?_)
  · rw [hLast, kernelLoaded_history, hGranted, hCheck]
    exact
      ⟨last ++ (granted ++ checked), by
        simp only [List.append_assoc]⟩
  · intro a hOutside
    rw [hMachine]
    exact hLoops a hOutside

theorem fileHeld_of_served
    {kernel : Kernel}
    {s : BootState}
    {result : ReadFileInfo × BootState}
    (hLength : kernel.file.length < 2 ^ 64)
    (hServed : FileServed kernel.file s result) :
    kernel.FileHeld (kernelLoader result.1)
      result.2.machine.mem where
  hText := hServed.hText
  hSize := by
    show result.1.BufferSize.toNat = kernel.file.length
    rw [hServed.hSize, BitVec.toNat_ofNat]
    exact Nat.mod_eq_of_lt hLength

theorem imageLoaded_imageRead
    {kernel : Kernel}
    {firmware : Firmware}
    {s : BootState}
    (hFits : kernel.Encodable)
    (hHeld :
      kernel.FileHeld (kernelLoader (fileRead firmware s).1)
        (fileRead firmware s).2.machine.mem)
    (hGood :
      GoodBuffers (kernelLoader (fileRead firmware s).1)
        (imageRead firmware s).state.calls) :
    ImageLoaded (kernelLoader (fileRead firmware s).1)
      (fileRead firmware s).2.machine.mem
      (kernelProgHeaders
        (kernelLoader (fileRead firmware s).1)
        (fileRead firmware s).2.machine.mem)
      (kernelSectionHeaders
        (kernelLoader (fileRead firmware s).1)
        (fileRead firmware s).2.machine.mem)
      (imageRead firmware s).loaded := by
  unfold imageRead kernelImage imageStart at hGood ⊢
  rw [fileChecked_machine] at hGood ⊢
  exact imageLoaded_of_fileHeld hHeld hFits hGood

/-
  With the file of a kernel behind it, `readKernel` loads
  this kernel: its items are in buffers of their own, in
  pages that are still held, and of the memory only pages it
  was granted have changed.
-/
theorem readKernel_loadsKernel
    {kernel : Kernel}
    {firmware : Firmware}
    {infoSize : BitVec 64}
    {earlier : List (Action Addr)}
    {now : Held Addr}
    {s : BootState}
    (hFits : kernel.Encodable)
    (hSize : kernel.file.length ≤ 2 ^ 28)
    (hServes : ServesFile firmware kernel.file infoSize)
    (hFresh : HandsOutFresh firmware earlier)
    (hKept : KeptApart earlier s.history now)
    (hStart : NotReadYet s.history)
    (hAnswered :
      PagesAnswered (readKernel firmware s).2.history) :
    ∃ kept,
      KeptApart earlier (readKernel firmware s).2.history
          (kept ++ now) ∧
        KernelInMemory kernel
          (readKernel firmware s).2.machine.mem
          (imageRead firmware s).state.calls kept ∧
        WritesOnly (InPages kept) s
          (readKernel firmware s).2 := by
  have hOpened := opened_of_serves hServes s
  have hPos : 0 < kernel.file.length := by
    have hLength := kernel.length_file
    omega
  have hServed :
      FileServed kernel.file (fileOpened firmware s).2
        (fileRead firmware s) := by
    apply fileServed_readFile hServes ⟨hPos, hSize⟩
    exact
      notReadYet_of_quietly (quietly_fileOpened firmware s)
        hStart
  have hHeld := fileHeld_of_served hServes.hLength hServed
  have hSome : (fileRead firmware s).1.BufferSize ≠ 0 := by
    intro hZero
    have hNone : _ = kernel.file.length := hHeld.hSize
    unfold kernelLoader at hNone
    rw [hZero] at hNone
    exact hPos.ne hNone
  rcases readKernel_of_read hOpened hSome with
    ⟨hQuiet, hMachine⟩
  rcases
      kernelLoaded_keptApart hFresh hServes.hAtMost hKept with
    ⟨filePages, hFile, hLoaded⟩
  have hCalls := callsOf_imageRead firmware s
  have hChecked := quietly_fileChecked firmware s
  rcases
      dest_ne_zero_of_pagesAnswered hFresh
        (hFile.hKept.quietly hChecked) hCalls
        (by
          rw [← kernelLoaded_history,
            ← hQuiet.pagesAnswered_iff]
          exact hAnswered) with
    ⟨hFileAnswered, hNotNull⟩
  rw [hChecked.pagesAnswered_iff] at hFileAnswered
  rcases hFile.hFile hFileAnswered hSome with
    ⟨pages, rfl, hPages⟩
  have hSizes :
      ∀ call ∈ (imageRead firmware s).state.calls,
        call.memorySize.toNat ≤
          EFI_PAGE_SIZE * (callRange call).2 :=
    fun _ => size_le_callRange hCalls
  rw [callRanges_of_ne_zero hNotNull] at hLoaded
  have hImage :=
    imageLoaded_imageRead hFits hHeld
      (goodBuffers_of_keptApart hLoaded.hApart hNotNull
        hSizes hPages)
  have hElsewhere := hImage.hElsewhere
  simp only [KernelImage.loaded_state] at hElsewhere
  have hCallPages :
      ∀ call ∈ (imageRead firmware s).state.calls,
        callRange call ∈
          (imageRead firmware s).state.calls.map callRange ++
            [((fileRead firmware s).1.Buffer, pages)] :=
    fun call hCall =>
      List.mem_append_left _ (List.mem_map_of_mem hCall)
  refine
    ⟨(imageRead firmware s).state.calls.map callRange ++
        [((fileRead firmware s).1.Buffer, pages)],
      ?_, ⟨?_, ?_⟩, readKernel_writes hOpened hSome ?_ ?_⟩
  · rw [List.append_assoc]
    exact hLoaded.quietly hQuiet
  · rw [hMachine]
    exact loadedBy_of_imageLoaded hHeld hFits hImage
  · exact fun call hCall =>
      ⟨hCallPages call hCall, hSizes call hCall⟩
  · apply hServed.hWrites.mono
    intro a hRange
    rw [← hHeld.hSize] at hRange
    exact
      ⟨_, List.mem_append_right _ (List.mem_singleton_self _),
        hRange.mono hPages⟩
  · intro a hOutside
    apply hElsewhere
    intro call hCall hRange
    exact
      hOutside
        ⟨callRange call, hCallPages call hCall,
          hRange.mono (hSizes call hCall)⟩

end KernelReader

end Chihuahua
