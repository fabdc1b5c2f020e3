import Chihuahua.Bootloader.Firmware

/-
  Reading the kernel's file into memory, with a buffer of
  the pool for the information about the file.

  The buffer is freed and allocated again until it is large
  enough. Neither this allocation nor the state of the
  buffer at the end is checked.

  Main declarations:
    * `infoLoop` and `readFile`
    * `NothingFails`, `poolHeld` and `PoolKept`
    * `InfoOutcome` and `infoLoop_outcome`
    * `poolKept_readFile_iff`
-/

------------------------------------------------------------
-- The Source
------------------------------------------------------------

namespace Chihuahua

namespace KernelReader

open ByteMachine Resources

structure ReadFileInfo where
  Buffer : Addr
  BufferSize : BitVec 64
deriving DecidableEq, Repr

def INVALID_READ_FILE_INFO : ReadFileInfo where
  Buffer := 0
  BufferSize := 0

def DEFAULT_BUFFER_SIZE : BitVec 64 := 256

def NUM_RETRIES : Nat := 5

def MAX_FILE_SIZE : BitVec 64 := 256 * 1024 * 1024

def SIZE_MAX : BitVec 64 := 0xFFFFFFFFFFFFFFFF

/- The switch over the status of `GetInfo` and of `Read`. -/
def fileError (status : EfiStatus) : KernelLoadError :=
  if status = EFI_VOLUME_CORRUPTED then
    .FileReadVolumeCorrupted
  else if status = EFI_NO_MEDIA then
    .FileReadKernelNotFound
  else
    .FileReadUnknownError

/- The ways out of the loop, with what is in `infoBuffer`. -/
inductive InfoResult where
| found
    (infoBuffer : Addr)
    (fileSize : BitVec 64)
| failed
| exhausted (infoBuffer : Addr)
deriving DecidableEq, Repr

/- The loop that asks for the information, with retries. -/
def infoLoop
    (firmware : Firmware) :
    Nat →
      BitVec 64 → Addr → BootState → InfoResult × BootState
| 0, _, infoBuffer, s => (.exhausted infoBuffer, s)
| retries + 1, bufferSize, infoBuffer, s =>
    let (info, s) := s.getInfo firmware bufferSize infoBuffer
    if ¬ EFI_ERROR info.status then
      (.found infoBuffer
        (EFI_FILE_INFO.FileSize s.machine.mem infoBuffer), s)
    else if info.status ≠ EFI_BUFFER_TOO_SMALL then
      (.failed,
        (s.setError (fileError info.status)).freePool
          infoBuffer)
    else
      -- the status of this allocation is not looked at
      let (pool, s) :=
        (s.freePool infoBuffer).allocatePool firmware
          info.bufferSize
      infoLoop firmware retries info.bufferSize pool.address s

/- The rest of `readFile`, once there is information. -/
def readFound
    (firmware : Firmware)
    (infoBuffer : Addr)
    (fileSize : BitVec 64)
    (s : BootState) : ReadFileInfo × BootState :=
  let s := s.useInfo infoBuffer
  if fileSize = 0 ∨ fileSize > MAX_FILE_SIZE then
    (INVALID_READ_FILE_INFO, s.freePool infoBuffer)
  else
    let neededPages :=
      (fileSize + (BitVec.ofNat 64 EFI_PAGE_SIZE - 1)) /
        BitVec.ofNat 64 EFI_PAGE_SIZE
    if neededPages > SIZE_MAX then
      (INVALID_READ_FILE_INFO, s.freePool infoBuffer)
    else
      let (pages, s) :=
        (s.freePool infoBuffer).allocatePages firmware
          neededPages
      let (file, s) :=
        s.readFile firmware fileSize pages.address
      if ¬ EFI_ERROR file.status then
        ({ Buffer := pages.address
           BufferSize := file.size }, s)
      else
        (INVALID_READ_FILE_INFO,
          (s.setError (fileError file.status)).freePool
            infoBuffer)

/- The rest of `readFile` after the loop. -/
def readAfterInfo
    (firmware : Firmware) :
    InfoResult × BootState → ReadFileInfo × BootState
| (.found infoBuffer fileSize, s) =>
    readFound firmware infoBuffer fileSize s
| (.failed, s) => (INVALID_READ_FILE_INFO, s)
| (.exhausted infoBuffer, s) =>
    (INVALID_READ_FILE_INFO, s.freePool infoBuffer)

def readFile
    (firmware : Firmware)
    (s : BootState) : ReadFileInfo × BootState :=
  let (pool, s) :=
    (s.setError .FileReadUnknownError).allocatePool firmware
      DEFAULT_BUFFER_SIZE
  if EFI_ERROR pool.status then
    (INVALID_READ_FILE_INFO, s.freePool pool.address)
  else
    readAfterInfo firmware
      (infoLoop firmware NUM_RETRIES DEFAULT_BUFFER_SIZE
        pool.address s)

------------------------------------------------------------
-- Events of a Call
------------------------------------------------------------

/- The events of the loop. -/
def InfoEvent : FirmwareEvent → Prop
| .allocatePool _ _ _ => True
| .freePool _ => True
| .getInfo _ _ _ => True
| _ => False

/- Histories only grow, in the loop by its own events. -/
theorem infoLoop_events
    (firmware : Firmware)
    (retries : Nat)
    (bufferSize : BitVec 64)
    (infoBuffer : Addr)
    (s : BootState) :
    ∃ events : History,
      (infoLoop firmware retries bufferSize infoBuffer
            s).2.history =
          events ++ s.history ∧
        ∀ event ∈ events, InfoEvent event := by
  induction retries generalizing bufferSize infoBuffer s with
  | zero => exact ⟨[], rfl, List.forall_mem_nil _⟩
  | succ retries ih =>
      unfold infoLoop
      dsimp only
      split_ifs with hInfo hOther
      · refine ⟨[_, _], rfl, ?_⟩
        simp [InfoEvent]
      · have hStep :
            ∃ events : History,
              (((s.getInfo firmware bufferSize
                    infoBuffer).2.freePool
                  infoBuffer).allocatePool firmware
                    (s.getInfo firmware bufferSize
                      infoBuffer).1.bufferSize).2.history =
                  events ++ s.history ∧
                ∀ event ∈ events, InfoEvent event := by
          refine ⟨[_, _, _], rfl, ?_⟩
          simp [InfoEvent]
        rcases hStep with ⟨first, hFirst, hFirstKinds⟩
        rcases ih _ _ _ with ⟨later, hLater, hLaterKinds⟩
        refine ⟨later ++ first, ?_, ?_⟩
        · rw [hLater, hFirst, List.append_assoc]
        · rw [List.forall_mem_append]
          exact ⟨hLaterKinds, hFirstKinds⟩
      · refine ⟨[_], rfl, ?_⟩
        simp [InfoEvent]

theorem infoLoop_history_suffix
    (firmware : Firmware)
    (retries : Nat)
    (bufferSize : BitVec 64)
    (infoBuffer : Addr)
    (s : BootState) :
    s.history <:+
      (infoLoop firmware retries bufferSize infoBuffer
        s).2.history := by
  rcases
    infoLoop_events firmware retries bufferSize infoBuffer
      s with
    ⟨events, hEvents, _⟩
  exact ⟨events, hEvents.symm⟩

theorem readFound_history_suffix
    (firmware : Firmware)
    (infoBuffer : Addr)
    (fileSize : BitVec 64)
    (s : BootState) :
    s.history <:+
      (readFound firmware infoBuffer fileSize
        s).2.history := by
  unfold readFound
  dsimp only
  split_ifs
  · exact ⟨[_, _], rfl⟩
  · exact ⟨[_, _], rfl⟩
  · exact ⟨[_, _, _, _, _], rfl⟩
  · exact ⟨[_, _, _, _], rfl⟩

theorem readAfterInfo_history_suffix
    (firmware : Firmware)
    (result : InfoResult × BootState) :
    result.2.history <:+
      (readAfterInfo firmware result).2.history := by
  rcases result with ⟨_ | _ | _, s⟩
  · exact readFound_history_suffix _ _ _ _
  · exact List.suffix_rfl
  · exact ⟨[_], rfl⟩

/- The file is opened and closed by the caller only. -/
theorem infoLoop_fileActions
    (firmware : Firmware)
    (retries : Nat)
    (bufferSize : BitVec 64)
    (infoBuffer : Addr)
    (s : BootState) :
    actions fileAction
        (infoLoop firmware retries bufferSize infoBuffer
          s).2.history =
      actions fileAction s.history := by
  rcases
    infoLoop_events firmware retries bufferSize infoBuffer
      s with
    ⟨events, hEvents, hKinds⟩
  have hNone : actions fileAction events = [] := by
    refine List.flatMap_eq_nil_iff.mpr ?_
    intro event hMem
    have hKind := hKinds event hMem
    cases event <;> first | rfl | exact absurd hKind id
  rw [hEvents, actions_append, hNone, List.nil_append]

theorem readFile_fileActions
    (firmware : Firmware)
    (s : BootState) :
    actions fileAction (readFile firmware s).2.history =
      actions fileAction s.history := by
  have hFound
      (infoBuffer : Addr)
      (fileSize : BitVec 64)
      (t : BootState) :
      actions fileAction
          (readFound firmware infoBuffer fileSize
            t).2.history =
        actions fileAction t.history := by
    unfold readFound
    dsimp only
    split_ifs <;> rfl
  have hAfter (result : InfoResult × BootState) :
      actions fileAction
          (readAfterInfo firmware result).2.history =
        actions fileAction result.2.history := by
    rcases result with ⟨_ | _ | _, t⟩
    · exact hFound _ _ t
    · rfl
    · rfl
  unfold readFile
  dsimp only
  split_ifs
  · rfl
  · rw [hAfter, infoLoop_fileActions]
    rfl

------------------------------------------------------------
-- What Is Returned
------------------------------------------------------------

/- A read of the file that returned bytes. -/
def ReturnsBytes : FirmwareEvent → Prop
| .readFile _ status size =>
    EFI_ERROR status = false ∧ size ≠ 0
| _ => False

/- The file was read at some point of a history. -/
def BytesRead (history : History) : Prop :=
  ∃ event ∈ history, ReturnsBytes event

@[simp] theorem bytesRead_cons
    (event : FirmwareEvent)
    (history : History) :
    BytesRead (event :: history) ↔
      ReturnsBytes event ∨ BytesRead history := by
  simp [BytesRead]

theorem infoLoop_bytesRead_iff
    (firmware : Firmware)
    (retries : Nat)
    (bufferSize : BitVec 64)
    (infoBuffer : Addr)
    (s : BootState) :
    BytesRead
        (infoLoop firmware retries bufferSize infoBuffer
          s).2.history ↔
      BytesRead s.history := by
  rcases
    infoLoop_events firmware retries bufferSize infoBuffer
      s with
    ⟨events, hEvents, hKinds⟩
  unfold BytesRead
  rw [hEvents]
  constructor
  · rintro ⟨event, hMem, hReturns⟩
    rcases List.mem_append.mp hMem with hNew | hOld
    · have hKind := hKinds event hNew
      cases event <;> first
        | exact absurd hKind id
        | exact absurd hReturns id
    · exact ⟨event, hOld, hReturns⟩
  · rintro ⟨event, hMem, hReturns⟩
    exact ⟨event, List.mem_append_right _ hMem, hReturns⟩

theorem invalid_bufferSize :
    ¬ INVALID_READ_FILE_INFO.BufferSize ≠ 0 := by
  decide

theorem readFound_bufferSize_iff
    (firmware : Firmware)
    (infoBuffer : Addr)
    (fileSize : BitVec 64)
    (s : BootState)
    (hBefore : ¬ BytesRead s.history) :
    (readFound firmware infoBuffer fileSize
          s).1.BufferSize ≠
        0 ↔
      BytesRead
        (readFound firmware infoBuffer fileSize
          s).2.history := by
  have hFreed :
      ¬ BytesRead
        ((s.useInfo infoBuffer).freePool
          infoBuffer).history := by
    simp [BootState.freePool, BootState.useInfo,
      BootState.record, ReturnsBytes, hBefore]
  unfold readFound
  dsimp only
  generalize
    (s.useInfo infoBuffer).freePool infoBuffer =
      t at hFreed ⊢
  split_ifs with hSize hPages hStatus
  · exact iff_of_false invalid_bufferSize hFreed
  · exact iff_of_false invalid_bufferSize hFreed
  · refine iff_of_false invalid_bufferSize ?_
    intro hRead
    rcases (bytesRead_cons _ _).mp hRead with hNo | hRead
    · exact hNo
    rcases (bytesRead_cons _ _).mp hRead with hGood | hRead
    · exact Bool.false_ne_true (hGood.1.symm.trans hStatus)
    rcases (bytesRead_cons _ _).mp hRead with hNo | hRead
    · exact hNo
    · exact hFreed hRead
  · constructor
    · intro hSome
      refine (bytesRead_cons _ _).mpr (.inl ⟨?_, hSome⟩)
      exact Bool.eq_false_of_not_eq_true hStatus
    · intro hRead
      rcases (bytesRead_cons _ _).mp hRead with hGood | hRead
      · exact hGood.2
      rcases (bytesRead_cons _ _).mp hRead with hNo | hRead
      · exact absurd hNo id
      · exact absurd hRead hFreed

/- A file is returned if some bytes of it were read. -/
theorem readFile_bufferSize_iff
    (firmware : Firmware)
    (s : BootState)
    (hBefore : ¬ BytesRead s.history) :
    (readFile firmware s).1.BufferSize ≠ 0 ↔
      BytesRead (readFile firmware s).2.history := by
  have hAfter
      (result : InfoResult × BootState)
      (hNone : ¬ BytesRead result.2.history) :
      (readAfterInfo firmware result).1.BufferSize ≠ 0 ↔
        BytesRead
          (readAfterInfo firmware result).2.history := by
    rcases result with ⟨_ | _ | _, t⟩
    · exact readFound_bufferSize_iff _ _ _ t hNone
    · exact iff_of_false invalid_bufferSize hNone
    · refine iff_of_false invalid_bufferSize ?_
      intro hRead
      rcases (bytesRead_cons _ _).mp hRead with hNo | hRead
      · exact hNo
      · exact hNone hRead
  unfold readFile
  dsimp only
  split_ifs with hStatus
  · refine iff_of_false invalid_bufferSize ?_
    simpa [BootState.freePool, BootState.allocatePool,
      BootState.record, BootState.setError,
      ReturnsBytes] using hBefore
  · apply hAfter
    rw [infoLoop_bytesRead_iff]
    simpa [BootState.allocatePool, BootState.record,
      BootState.setError, ReturnsBytes] using hBefore

theorem fileError_ne_success (status : EfiStatus) :
    fileError status ≠ .FileReadSuccess := by
  unfold fileError
  split_ifs <;> decide

theorem infoLoop_error_ne_success
    (firmware : Firmware)
    (retries : Nat)
    (bufferSize : BitVec 64)
    (infoBuffer : Addr)
    (s : BootState)
    (hError : s.error ≠ .FileReadSuccess) :
    (infoLoop firmware retries bufferSize infoBuffer
        s).2.error ≠
      .FileReadSuccess := by
  induction retries generalizing bufferSize infoBuffer s with
  | zero => exact hError
  | succ retries ih =>
      unfold infoLoop
      dsimp only
      split_ifs
      · exact fileError_ne_success _
      · exact ih _ _ _ hError
      · exact hError

/- `readFile` leaves no value that stands for success. -/
theorem readFile_error_ne_success
    (firmware : Firmware)
    (s : BootState) :
    (readFile firmware s).2.error ≠ .FileReadSuccess := by
  have hFound
      (infoBuffer : Addr)
      (fileSize : BitVec 64)
      (t : BootState)
      (hError : t.error ≠ .FileReadSuccess) :
      (readFound firmware infoBuffer fileSize t).2.error ≠
        .FileReadSuccess := by
    unfold readFound
    dsimp only
    split_ifs
    · exact hError
    · exact hError
    · exact fileError_ne_success _
    · exact hError
  have hAfter
      (result : InfoResult × BootState)
      (hError : result.2.error ≠ .FileReadSuccess) :
      (readAfterInfo firmware result).2.error ≠
        .FileReadSuccess := by
    rcases result with ⟨_ | _ | _, t⟩
    · exact hFound _ _ t hError
    · exact hError
    · exact hError
  unfold readFile
  dsimp only
  split_ifs
  · exact nofun
  · exact
      hAfter _ (infoLoop_error_ne_success _ _ _ _ _ nofun)

------------------------------------------------------------
-- Buffers of the Pool
------------------------------------------------------------

/- The calls whose failure leaves `infoBuffer` dangling. -/
def Answered : FirmwareEvent → Prop
| .allocatePool _ status _ => EFI_ERROR status = false
| .readFile _ status _ => EFI_ERROR status = false
| _ => True

instance (event : FirmwareEvent) :
    Decidable (Answered event) := by
  unfold Answered
  split <;> infer_instance

/- Every allocation and every read was answered well. -/
def NothingFails (history : History) : Prop :=
  ∀ event ∈ history, Answered event

@[simp] theorem nothingFails_cons
    (event : FirmwareEvent)
    (history : History) :
    NothingFails (event :: history) ↔
      Answered event ∧ NothingFails history :=
  List.forall_mem_cons

theorem NothingFails.of_suffix
    {earlier history : History}
    (hFine : NothingFails history)
    (hGrown : earlier <:+ history) :
    NothingFails earlier :=
  fun event hMem => hFine event (hGrown.mem hMem)

/- The buffers of the pool that are allocated. -/
def poolHeld (history : History) : Option (Held Addr) :=
  held (actions poolAction history)

/-
  No buffer of the pool was freed or used while it was not
  allocated, or given to `GetInfo` as larger than it is, and
  each one has been freed.
-/
def PoolKept (history : History) : Prop :=
  poolHeld history = some []

/- A misuse of a buffer cannot be made good. -/
theorem poolHeld_eq_none_of_suffix
    {earlier history : History}
    (hNone : poolHeld earlier = none)
    (hGrown : earlier <:+ history) :
    poolHeld history = none := by
  rcases hGrown with ⟨later, rfl⟩
  unfold poolHeld at hNone ⊢
  rw [actions_append]
  exact held_append_of_none hNone _

/- An allocation, where no other buffer is allocated. -/
theorem allocatePool_outcome
    (firmware : Firmware)
    (size : BitVec 64)
    {s : BootState}
    (hFine : NothingFails s.history)
    (hHeld : PoolKept s.history) :
    (EFI_ERROR (s.allocatePool firmware size).1.status =
          false ∧
        NothingFails
          (s.allocatePool firmware size).2.history ∧
        poolHeld (s.allocatePool firmware size).2.history =
          some
            [((s.allocatePool firmware size).1.address,
              size.toNat)]) ∨
      (EFI_ERROR (s.allocatePool firmware size).1.status =
          true ∧
        ¬ NothingFails
          (s.allocatePool firmware size).2.history ∧
        PoolKept
          (s.allocatePool firmware size).2.history) := by
  have hGrown :
      (s.allocatePool firmware size).2.history =
        .allocatePool size
            (s.allocatePool firmware size).1.status
            (s.allocatePool firmware size).1.address ::
          s.history :=
    rfl
  generalize
    s.allocatePool firmware size = answer at hGrown ⊢
  rcases answer with ⟨pool, t⟩
  dsimp only at hGrown ⊢
  rw [hGrown, nothingFails_cons]
  unfold PoolKept poolHeld
  rw [actions_cons]
  cases hStatus : EFI_ERROR pool.status with
  | false =>
      refine .inl ⟨rfl, ⟨hStatus, hFine⟩, ?_⟩
      simp only [poolAction, hStatus, Bool.false_eq_true,
        if_false, List.cons_append, List.nil_append]
      exact held_acquire hHeld _ _
  | true =>
      refine .inr ⟨rfl, ?_, ?_⟩
      · simp [Answered, hStatus]
      · simp only [poolAction, hStatus, if_true,
          List.nil_append]
        exact hHeld

/- How things stand when the loop ends. -/
inductive InfoOutcome : InfoResult × BootState → Prop
| found
    {infoBuffer : Addr}
    {size : Nat}
    {s : BootState}
    (hFine : NothingFails s.history)
    (hHeld : poolHeld s.history = some [(infoBuffer, size)])
    (fileSize : BitVec 64) :
    InfoOutcome (.found infoBuffer fileSize, s)
| failed
    {s : BootState}
    (hFine : NothingFails s.history)
    (hHeld : PoolKept s.history) :
    InfoOutcome (.failed, s)
| exhausted
    {infoBuffer : Addr}
    {size : Nat}
    {s : BootState}
    (hFine : NothingFails s.history)
    (hHeld :
      poolHeld s.history = some [(infoBuffer, size)]) :
    InfoOutcome (.exhausted infoBuffer, s)
| dangling
    {s : BootState}
    (hFails : ¬ NothingFails s.history)
    (hHeld : PoolKept s.history)
    (infoBuffer : Addr) :
    InfoOutcome (.exhausted infoBuffer, s)
| misused
    {s : BootState}
    (hFails : ¬ NothingFails s.history)
    (hHeld : poolHeld s.history = none)
    (result : InfoResult) :
    InfoOutcome (result, s)

/- Where nothing is allocated, the next call is a misuse. -/
theorem infoLoop_dangling
    (firmware : Firmware)
    (retries : Nat)
    (bufferSize : BitVec 64)
    (infoBuffer : Addr)
    (s : BootState)
    (hFails : ¬ NothingFails s.history)
    (hHeld : PoolKept s.history) :
    InfoOutcome
      (infoLoop firmware retries bufferSize infoBuffer s) := by
  cases retries with
  | zero => exact .dangling hFails hHeld infoBuffer
  | succ retries =>
      have hAsked :
          poolHeld
              (s.getInfo firmware bufferSize
                infoBuffer).2.history =
            none :=
        held_access_of_settled hHeld infoBuffer
          bufferSize.toNat
      have hGrown :
          (s.getInfo firmware bufferSize
              infoBuffer).2.history <:+
            (infoLoop firmware (retries + 1) bufferSize
              infoBuffer s).2.history := by
        unfold infoLoop
        dsimp only
        split_ifs
        · exact ⟨[_], rfl⟩
        · refine
            List.IsSuffix.trans ?_
              (infoLoop_history_suffix _ _ _ _ _)
          exact ⟨[_, _], rfl⟩
        · exact List.suffix_rfl
      refine
        .misused ?_ (poolHeld_eq_none_of_suffix hAsked hGrown)
          _
      intro hFine
      exact
        hFails
          (hFine.of_suffix
            (infoLoop_history_suffix _ _ _ _ _))

/-
  The invariant of the loop: `infoBuffer` is allocated, with
  at least `bufferSize` bytes, as long as nothing fails.
-/
theorem infoLoop_outcome
    (firmware : Firmware)
    (retries : Nat)
    (bufferSize : BitVec 64)
    (infoBuffer : Addr)
    (s : BootState)
    (hFine : NothingFails s.history)
    (hHeld :
      poolHeld s.history =
        some [(infoBuffer, bufferSize.toNat)]) :
    InfoOutcome
      (infoLoop firmware retries bufferSize infoBuffer s) := by
  induction retries generalizing bufferSize infoBuffer s with
  | zero => exact .exhausted hFine hHeld
  | succ retries ih =>
      have hAsked :
          poolHeld
              (s.getInfo firmware bufferSize
                infoBuffer).2.history =
            some [(infoBuffer, bufferSize.toNat)] :=
        held_access hHeld le_rfl
      have hAskedFine :
          NothingFails
            (s.getInfo firmware bufferSize
              infoBuffer).2.history :=
        (nothingFails_cons _ _).mpr ⟨trivial, hFine⟩
      unfold infoLoop
      dsimp only
      generalize
        s.getInfo firmware bufferSize infoBuffer =
          answer at hAsked hAskedFine ⊢
      rcases answer with ⟨info, t⟩
      dsimp only at hAsked hAskedFine ⊢
      have hFreed :
          PoolKept (t.freePool infoBuffer).history :=
        held_release hAsked
      have hFreedFine :
          NothingFails (t.freePool infoBuffer).history :=
        (nothingFails_cons _ _).mpr ⟨trivial, hAskedFine⟩
      split_ifs with hInfo hOther
      · exact .failed hFreedFine hFreed
      · -- the allocation of a larger buffer may have failed
        rcases
          allocatePool_outcome firmware info.bufferSize
            hFreedFine hFreed with
          ⟨_, hPoolFine, hPool⟩ | ⟨_, hPoolFails, hPool⟩
        · exact ih _ _ _ hPoolFine hPool
        · exact
            infoLoop_dangling _ _ _ _ _ hPoolFails hPool
      · exact .found hAskedFine hAsked _

------------------------------------------------------------
-- After the Loop
------------------------------------------------------------

/- A release where nothing is allocated. -/
theorem not_poolKept_freePool
    {s : BootState}
    (hHeld : PoolKept s.history)
    (infoBuffer : Addr) :
    ¬ PoolKept (s.freePool infoBuffer).history := by
  have hNone :
      poolHeld (s.freePool infoBuffer).history = none :=
    held_release_of_settled hHeld infoBuffer
  unfold PoolKept
  rw [hNone]
  nofun

theorem readFound_poolKept_iff
    (firmware : Firmware)
    {infoBuffer : Addr}
    {size : Nat}
    {s : BootState}
    (hFine : NothingFails s.history)
    (hHeld : poolHeld s.history = some [(infoBuffer, size)])
    (fileSize : BitVec 64) :
    PoolKept
        (readFound firmware infoBuffer fileSize
          s).2.history ↔
      NothingFails
        (readFound firmware infoBuffer fileSize
          s).2.history := by
  have hUsed :
      poolHeld (s.useInfo infoBuffer).history =
        some [(infoBuffer, size)] :=
    held_access hHeld (Nat.zero_le size)
  have hFreed :
      PoolKept
        ((s.useInfo infoBuffer).freePool
          infoBuffer).history :=
    held_release hUsed
  have hFreedFine :
      NothingFails
        ((s.useInfo infoBuffer).freePool
          infoBuffer).history := by
    refine (nothingFails_cons _ _).mpr ⟨trivial, ?_⟩
    exact (nothingFails_cons _ _).mpr ⟨trivial, hFine⟩
  unfold readFound
  dsimp only
  generalize
    (s.useInfo infoBuffer).freePool infoBuffer =
      t at hFreed hFreedFine ⊢
  split_ifs with hSize hPages hStatus
  · exact iff_of_true hFreed hFreedFine
  · exact iff_of_true hFreed hFreedFine
  · -- the buffer was already freed before the read
    refine iff_of_false (not_poolKept_freePool hFreed _) ?_
    intro hAfter
    have hRead := ((nothingFails_cons _ _).mp hAfter).2
    have hGood := ((nothingFails_cons _ _).mp hRead).1
    exact Bool.false_ne_true (hGood.symm.trans hStatus)
  · refine iff_of_true hFreed ?_
    refine (nothingFails_cons _ _).mpr ⟨?_, ?_⟩
    · exact Bool.eq_false_of_not_eq_true hStatus
    · exact (nothingFails_cons _ _).mpr ⟨trivial, hFreedFine⟩

theorem readAfterInfo_poolKept_iff
    (firmware : Firmware)
    {result : InfoResult × BootState}
    (hOutcome : InfoOutcome result) :
    PoolKept (readAfterInfo firmware result).2.history ↔
      NothingFails
        (readAfterInfo firmware result).2.history := by
  have hGrown := readAfterInfo_history_suffix firmware result
  cases hOutcome with
  | found hFine hHeld fileSize =>
      exact
        readFound_poolKept_iff firmware hFine hHeld fileSize
  | failed hFine hHeld => exact iff_of_true hHeld hFine
  | exhausted hFine hHeld =>
      refine iff_of_true (held_release hHeld) ?_
      exact (nothingFails_cons _ _).mpr ⟨trivial, hFine⟩
  | dangling hFails hHeld infoBuffer =>
      refine
        iff_of_false (not_poolKept_freePool hHeld _) ?_
      exact fun hFine => hFails (hFine.of_suffix hGrown)
  | misused hFails hHeld result =>
      refine iff_of_false ?_ ?_
      · unfold PoolKept
        rw [poolHeld_eq_none_of_suffix hHeld hGrown]
        nofun
      · exact fun hFine => hFails (hFine.of_suffix hGrown)

------------------------------------------------------------
-- The Whole Call
------------------------------------------------------------

/- A call of `readFile`, with nothing allocated before it. -/
def readFileHistory
    (firmware : Firmware)
    (machine : Machine)
    (error : KernelLoadError) : History :=
  (readFile firmware
    { machine := machine
      history := []
      error := error }).2.history

/-
  The buffers of the pool are handled properly exactly when
  the firmware answers every `AllocatePool` and the `Read`
  without an error, whatever it answers to `GetInfo` and to
  `AllocatePages`.
-/
theorem poolKept_readFile_iff
    (firmware : Firmware)
    (machine : Machine)
    (error : KernelLoadError) :
    PoolKept (readFileHistory firmware machine error) ↔
      NothingFails
        (readFileHistory firmware machine error) := by
  unfold readFileHistory readFile
  dsimp only
  generalize hStart :
    BootState.setError _ _ = s
  have hFine : NothingFails s.history := by
    subst hStart
    exact List.forall_mem_nil _
  have hHeld : PoolKept s.history := by
    subst hStart
    exact settled_nil
  rcases
    allocatePool_outcome firmware DEFAULT_BUFFER_SIZE hFine
      hHeld with
    ⟨hStatus, hPoolFine, hPool⟩ |
      ⟨hStatus, hPoolFails, hPool⟩
  · rw [if_neg (Bool.eq_false_iff.mp hStatus)]
    apply readAfterInfo_poolKept_iff
    exact infoLoop_outcome _ _ _ _ _ hPoolFine hPool
  · rw [if_pos hStatus]
    refine iff_of_false (not_poolKept_freePool hPool _) ?_
    exact
      fun hAfter =>
        hPoolFails ((nothingFails_cons _ _).mp hAfter).2

/- Firmware whose calls work, until it has to read. -/
def unreadableFirmware : Firmware where
  handleProtocol _ _ := EFI_SUCCESS
  openVolume _ := EFI_SUCCESS
  openFile _ := ⟨EFI_SUCCESS, 0x1000⟩
  allocatePool _ _ := ⟨EFI_SUCCESS, 0x2000⟩
  getInfo _ _ _ := .ofFileSize 4096
  allocatePages _ _ := ⟨EFI_SUCCESS, 0x3000⟩
  readFile _ _ _ :=
    ⟨EFI_VOLUME_CORRUPTED, 0, fun _ => 0⟩

/- The buffer is freed a second time when `Read` fails. -/
theorem poolKept_readFile_fails :
    ¬ ∀ (firmware : Firmware)
        (machine : Machine)
        (error : KernelLoadError),
      PoolKept (readFileHistory firmware machine error) := by
  intro hKept
  have hTwice :
      poolHeld
          (readFileHistory unreadableFirmware
            { mem := fun _ => 0
              stores := [] }
            .FileReadUnknownError) =
        none := by
    decide +kernel
  have hNone := hTwice.symm.trans (hKept _ _ _)
  contradiction

end KernelReader

end Chihuahua
