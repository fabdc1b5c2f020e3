import Chihuahua.Bootloader.FileBacking

/-
  What the firmware writes for `readFile`: the information
  about the file, to the buffers of the pool that were given
  to `GetInfo`, and the file itself.

  Main declarations:
    * `ReadsWithin` and `InfoWithin`
    * `InInfoBuffer` and `WritesOnly`
    * `infoLoop_writes` and `readCall_writes`
    * `readFile_writes`
-/

------------------------------------------------------------
-- Buffers of the Firmware
------------------------------------------------------------

namespace Chihuahua

namespace KernelReader

open ByteMachine

def IsRead : FirmwareEvent → Prop
| .readFile _ _ _ => True
| _ => False

/-
  No read writes more than was asked for, not even one that
  fails.
-/
def ReadsWithin (firmware : Firmware) : Prop :=
  ∀ history size buffer,
    (firmware.readFile history size buffer).size ≤ size

/- The information is not larger than the buffer for it. -/
def InfoWithin (firmware : Firmware) : Prop :=
  ∀ history size buffer,
    EFI_ERROR
          (firmware.getInfo history size buffer).status =
        false →
      (firmware.getInfo history size buffer).bufferSize ≤
        size

/- An address of a buffer that was given to `GetInfo`. -/
def InInfoBuffer
    (history : History)
    (a : Addr) : Prop :=
  ∃ size buffer status,
    .getInfo size buffer status ∈ history ∧
      InRange buffer size.toNat a

theorem inInfoBuffer_append_iff
    {later earlier : History}
    {a : Addr} :
    InInfoBuffer (later ++ earlier) a ↔
      InInfoBuffer later a ∨ InInfoBuffer earlier a := by
  unfold InInfoBuffer
  simp only [List.mem_append, or_and_right, exists_or]

/-
  From `s` to `t`, memory has changed in buffers that were
  given to `GetInfo` meanwhile, and else only where it is
  said.
-/
def WritesOnly
    (Written : Addr → Prop)
    (s t : BootState) : Prop :=
  ∃ events : History,
    t.history = events ++ s.history ∧
      ∀ a,
        ¬ Written a →
          ¬ InInfoBuffer events a →
            t.machine.mem a = s.machine.mem a

namespace WritesOnly

variable {Written : Addr → Prop} {s t u : BootState}

/- Events that are none of the firmware's writes. -/
theorem of_machine
    (events : History)
    (hEvents : t.history = events ++ s.history)
    (hMachine : t.machine = s.machine) :
    WritesOnly Written s t :=
  ⟨events, hEvents, fun a _ _ => by rw [hMachine]⟩

/- Whatever happened meanwhile, it wrote nothing else. -/
theorem of_suffix
    (hGrown : s.history <:+ t.history)
    (hKept :
      ∀ a,
        ¬ Written a → t.machine.mem a = s.machine.mem a) :
    WritesOnly Written s t := by
  rcases hGrown with ⟨events, hEvents⟩
  exact ⟨events, hEvents.symm, fun a hOutside _ => hKept a hOutside⟩

theorem trans
    (hFirst : WritesOnly Written s t)
    (hSecond : WritesOnly Written t u) :
    WritesOnly Written s u := by
  rcases hFirst with ⟨first, hFirst, hFirstKept⟩
  rcases hSecond with ⟨second, hSecond, hSecondKept⟩
  refine ⟨second ++ first, ?_, ?_⟩
  · rw [hSecond, hFirst, List.append_assoc]
  · intro a hOutside hNoInfo
    rw [inInfoBuffer_append_iff, not_or] at hNoInfo
    rw [hSecondKept a hOutside hNoInfo.1,
      hFirstKept a hOutside hNoInfo.2]

theorem mono
    {More : Addr → Prop}
    (hWrites : WritesOnly Written s t)
    (hMore : ∀ a, Written a → More a) :
    WritesOnly More s t := by
  rcases hWrites with ⟨events, hEvents, hKept⟩
  exact
    ⟨events, hEvents, fun a hOutside =>
      hKept a (fun hInside => hOutside (hMore a hInside))⟩

end WritesOnly

------------------------------------------------------------
-- Information about the File
------------------------------------------------------------

section Writes

variable {firmware : Firmware} {Written : Addr → Prop}

theorem getInfo_writes
    (hInfo : InfoWithin firmware)
    (bufferSize : BitVec 64)
    (buffer : Addr)
    (s : BootState) :
    WritesOnly Written s
      (s.getInfo firmware bufferSize buffer).2 := by
  refine ⟨[_], rfl, ?_⟩
  intro a _ hNoInfo
  have hSize := hInfo s.history bufferSize buffer
  unfold BootState.getInfo
  dsimp only
  rw [Memory.paint_apply]
  apply if_neg
  intro hRange
  refine
    hNoInfo
      ⟨bufferSize, buffer, _, List.mem_singleton_self _, ?_⟩
  dsimp only at hRange
  split_ifs at hRange with hStatus
  · exact absurd hRange (not_inRange_zero buffer a)
  · exact
      hRange.mono (hSize (Bool.eq_false_of_not_eq_true hStatus))

theorem infoLoop_writes
    (hInfo : InfoWithin firmware)
    (retries : Nat)
    (bufferSize : BitVec 64)
    (infoBuffer : Addr)
    (s : BootState) :
    WritesOnly Written s
      (infoLoop firmware retries bufferSize infoBuffer
        s).2 := by
  induction retries generalizing bufferSize infoBuffer s with
  | zero => exact .of_machine [] rfl rfl
  | succ retries ih =>
      have hAsked :
          WritesOnly Written s
            (s.getInfo firmware bufferSize infoBuffer).2 :=
        getInfo_writes hInfo bufferSize infoBuffer s
      unfold infoLoop
      dsimp only
      generalize
        s.getInfo firmware bufferSize infoBuffer =
          answer at hAsked ⊢
      rcases answer with ⟨info, t⟩
      dsimp only at hAsked ⊢
      split_ifs
      · exact hAsked.trans (.of_machine [_] rfl rfl)
      · refine hAsked.trans (.trans ?_ (ih _ _ _))
        exact .of_machine [_, _] rfl rfl
      · exact hAsked

------------------------------------------------------------
-- The File
------------------------------------------------------------

theorem readAfterInfo_writes
    {result : InfoResult × BootState}
    (hCall : callAfterInfo firmware result = none) :
    WritesOnly Written result.2
      (readAfterInfo firmware result).2 := by
  rcases result with ⟨_ | _ | infoBuffer, s⟩
  case found infoBuffer fileSize =>
    unfold callAfterInfo at hCall
    unfold readAfterInfo
    dsimp only at hCall ⊢
    rw [readFound_eq, hCall]
    exact .of_machine [_, _] rfl rfl
  case failed => exact .of_machine [] rfl rfl
  case exhausted => exact .of_machine [_] rfl rfl

theorem callAfterInfo_writes
    {result : InfoResult × BootState}
    {call : ReadCall}
    (hCall : callAfterInfo firmware result = some call) :
    WritesOnly Written result.2 call.before := by
  rcases result with ⟨_ | _ | infoBuffer, s⟩
  case found infoBuffer fileSize =>
    unfold callAfterInfo foundCall at hCall
    dsimp only at hCall
    split_ifs at hCall with hSize hPages
    cases hCall
    exact .of_machine [_, _, _] rfl rfl
  case failed => cases hCall
  case exhausted => cases hCall

theorem firstPool_writes (s : BootState) :
    WritesOnly Written s
      ((s.setError .FileReadUnknownError).allocatePool
        firmware DEFAULT_BUFFER_SIZE).2 :=
  .of_machine [_] rfl rfl

/- Up to the call of `Read`, only information is written. -/
theorem readCall_writes
    (hInfo : InfoWithin firmware)
    {s : BootState}
    {call : ReadCall}
    (hCall : readCall firmware s = some call) :
    WritesOnly Written s call.before := by
  have hStart : WritesOnly Written s _ :=
    @firstPool_writes firmware Written s
  unfold readCall at hCall
  dsimp only at hCall
  split_ifs at hCall with hPool
  exact
    (hStart.trans (infoLoop_writes hInfo _ _ _ _)).trans
      (callAfterInfo_writes hCall)

theorem readFile_writes
    (hInfo : InfoWithin firmware)
    {s : BootState}
    (hCall : readCall firmware s = none) :
    WritesOnly Written s (readFile firmware s).2 := by
  have hStart : WritesOnly Written s _ :=
    @firstPool_writes firmware Written s
  unfold readCall at hCall
  unfold readFile
  dsimp only at hCall ⊢
  split_ifs at hCall ⊢ with hPool
  · exact hStart.trans (.of_machine [_] rfl rfl)
  · exact
      (hStart.trans (infoLoop_writes hInfo _ _ _ _)).trans
        (readAfterInfo_writes hCall)

/- The call of `Read` fills part of its buffer. -/
theorem answerRead_writes
    (hWithin : ReadsWithin firmware)
    (infoBuffer : Addr)
    (call : ReadCall) :
    WritesOnly
      (InRange call.buffer call.fileSize.toNat)
      call.before (answerRead firmware infoBuffer call).2 := by
  have hSize :=
    hWithin call.before.history call.fileSize call.buffer
  have hRead :
      WritesOnly
        (InRange call.buffer call.fileSize.toNat)
        call.before
        (call.before.readFile firmware call.fileSize
          call.buffer).2 := by
    refine ⟨[_], rfl, fun a hOutside _ => ?_⟩
    unfold BootState.readFile
    dsimp only
    rw [Memory.paint_apply]
    exact if_neg (fun hRange => hOutside (hRange.mono hSize))
  unfold answerRead
  dsimp only
  split_ifs
  · exact hRead.trans (.of_machine [_] rfl rfl)
  · exact hRead

end Writes

end KernelReader

end Chihuahua
