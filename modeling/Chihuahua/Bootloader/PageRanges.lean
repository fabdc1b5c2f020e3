import Chihuahua.Bootloader.FirmwareWrites

/-
  The memory of the loader under firmware that hands out no
  page twice: the buffers of the callbacks are apart from
  each other and from the file, and all of them are kept.

  Main declarations:
    * `FreshPages` and `HandsOutFresh`
    * `CallsOf` and `readKernelImage_callsOf`
    * `size_le_callbackPages`
    * `KeptApart` and `keptApart_callbackHistory`
    * `rangesGranted` and `FreesNothing`
    * `readKernel_keptApart`
-/

------------------------------------------------------------
-- Fresh Pages
------------------------------------------------------------

namespace Chihuahua

namespace KernelReader

open ByteMachine Elf Resources

/- Two ranges of pages without a common byte. -/
def PagesDisjoint (range range' : Addr × Nat) : Prop :=
  RangesDisjoint range.1 (EFI_PAGE_SIZE * range.2) range'.1
    (EFI_PAGE_SIZE * range'.2)

/- An address in some of the pages. -/
def InPages
    (now : Held Addr)
    (a : Addr) : Prop :=
  ∃ range ∈ now,
    InRange range.1 (EFI_PAGE_SIZE * range.2) a

theorem inPages_append_iff
    {first others : Held Addr}
    {a : Addr} :
    InPages (first ++ others) a ↔
      InPages first a ∨ InPages others a := by
  unfold InPages
  simp only [List.mem_append, or_and_right, exists_or]

/- Pages that are apart from the others have none of them. -/
theorem not_inPages_of_apart
    {first others : Held Addr}
    (hApart : (first ++ others).Pairwise PagesDisjoint)
    {a : Addr}
    (hOther : InPages others a) :
    ¬ InPages first a := by
  rintro ⟨range, hMem, hRange⟩
  rcases hOther with ⟨other, hMem', hRange'⟩
  exact
    (List.pairwise_append.mp hApart).2.2 range hMem other
      hMem' a hRange hRange'

/- Pages that are not at 0, and none of those in use. -/
structure FreshPages
    (now : Held Addr)
    (range : Addr × Nat) : Prop where
  hNotNull : range.1 ≠ 0
  hApart : ∀ other ∈ now, PagesDisjoint range other

/-
  Pages that were handed out before and are still in use,
  by this program or by what ran earlier, are not handed out
  again.
-/
def HandsOutFresh
    (firmware : Firmware)
    (earlier : List (Action Addr)) : Prop :=
  ∀ history pages now,
    EFI_ERROR (firmware.allocatePages history pages).status =
        false →
      held (actions pageAction history ++ earlier) =
          some now →
        FreshPages now
          ((firmware.allocatePages history pages).address,
            pages.toNat)

/-
  A firmware's way to do so: the pages behind all that are
  in use, as long as there are any.
-/
def nextPages
    (earlier : List (Action Addr))
    (history : History)
    (pages : BitVec 64) : AddressAnswer :=
  match held (actions pageAction history ++ earlier) with
  | none => ⟨EFIERR 9, 0⟩
  | some now =>
      let address :=
        0x100000 + EFI_PAGE_SIZE * (now.map Prod.snd).sum
      if address + EFI_PAGE_SIZE * pages.toNat < 2 ^ 64 ∧
          ∀ range ∈ now,
            range.1.toNat + EFI_PAGE_SIZE * range.2 ≤ address
      then
        ⟨EFI_SUCCESS, BitVec.ofNat 64 address⟩
      else
        ⟨EFIERR 9, 0⟩

theorem freshPages_nextPages
    {earlier : List (Action Addr)}
    {history : History}
    {pages : BitVec 64}
    {now : Held Addr}
    (hStatus :
      EFI_ERROR (nextPages earlier history pages).status =
        false)
    (hNow :
      held (actions pageAction history ++ earlier) =
        some now) :
    FreshPages now
      ((nextPages earlier history pages).address,
        pages.toNat) := by
  unfold nextPages at hStatus ⊢
  rw [hNow] at hStatus ⊢
  dsimp only at hStatus ⊢
  split_ifs at hStatus ⊢ with hRoom
  · have hFirst :=
      Nat.le_add_right 0x100000
        (EFI_PAGE_SIZE * (now.map Prod.snd).sum)
    generalize
      0x100000 + EFI_PAGE_SIZE * (now.map Prod.snd).sum =
        address at hFirst hRoom ⊢
    rcases hRoom with ⟨hEnd, hBehind⟩
    have hValue :
        (BitVec.ofNat 64 address).toNat = address := by
      rw [BitVec.toNat_ofNat]
      exact Nat.mod_eq_of_lt (by omega)
    constructor
    · intro hNull
      rw [← BitVec.toNat_inj, hValue] at hNull
      exact absurd (hNull ▸ hFirst) (by decide)
    · intro other hOther
      apply RangesDisjoint.symm
      apply rangesDisjoint_of_le
      · rw [hValue]
        exact hBehind other hOther
      · rw [hValue]
        exact hEnd.le
  · exact absurd hStatus (by decide)

theorem handsOutFresh_nextPages
    {firmware : Firmware}
    {earlier : List (Action Addr)}
    (hPages : firmware.allocatePages = nextPages earlier) :
    HandsOutFresh firmware earlier := by
  intro history pages now hStatus hNow
  rw [hPages] at hStatus ⊢
  exact freshPages_nextPages hStatus hNow

------------------------------------------------------------
-- Calls of a Callback
------------------------------------------------------------

/- A size that was converted to an `int`. -/
structure IntSize (size : Int) : Prop where
  hLow : -2 ^ 31 ≤ size
  hHigh : size < 2 ^ 31

theorem intSize_toInt (size : BitVec 64) :
    IntSize (toInt size) where
  hLow := BitVec.le_toInt (size.setWidth 32)
  hHigh := BitVec.toInt_lt

/- Calls of one callback, each with the answer it gave. -/
inductive CallsOf
    (fn : LoaderFunction) : List LoaderCall → Prop
| nil : CallsOf fn []
| cons
    {call : LoaderCall}
    {calls : List LoaderCall}
    (hSize : IntSize call.memorySize)
    (hDest :
      call.dest =
        fn calls call.memorySize call.virtAddress
          call.segmentFlags)
    (hCalls : CallsOf fn calls) :
    CallsOf fn (call :: calls)

theorem callsOf_loadExecutableProgram
    (elfLoader : ElfLoader)
    (fn : LoaderFunction)
    (progHeader : Addr)
    {s : LoaderState}
    (hCalls : CallsOf fn s.calls) :
    CallsOf fn
      (elfLoader.loadExecutableProgram progHeader fn
        s).2.calls := by
  have hOutcome :=
    elfLoader.loadExecutableProgram_outcome progHeader fn s
  have hNext :
      CallsOf fn
        (ElfLoader.segmentCall progHeader fn s :: s.calls) :=
    .cons (intSize_toInt _) rfl hCalls
  generalize
    elfLoader.loadExecutableProgram progHeader fn s =
      result at hOutcome ⊢
  cases hOutcome with
  | skipped _ => exact hCalls
  | noBuffer _ _ => exact hNext
  | tooLong _ _ _ => exact hNext
  | loaded _ => exact hNext

theorem callsOf_loadNoBitsSection
    (elfLoader : ElfLoader)
    (fn : LoaderFunction)
    (sectionHeader : Addr)
    {s : LoaderState}
    (hCalls : CallsOf fn s.calls) :
    CallsOf fn
      (elfLoader.loadNoBitsSection sectionHeader fn
        s).2.calls := by
  have hOutcome :=
    elfLoader.loadNoBitsSection_outcome sectionHeader fn s
  have hNext :
      CallsOf fn
        (ElfLoader.sectionCall sectionHeader fn s ::
          s.calls) :=
    .cons (intSize_toInt _) rfl hCalls
  generalize
    elfLoader.loadNoBitsSection sectionHeader fn s =
      result at hOutcome ⊢
  cases hOutcome with
  | skipped _ => exact hCalls
  | tooLong _ _ => exact hCalls
  | noBuffer _ _ => exact hNext
  | loaded _ => exact hNext

/- What every load of a header keeps, the loop keeps. -/
theorem headerLoop_invariant
    {load : Addr → LoaderState → ElfError × LoaderState}
    (Invariant : LoaderState → Prop)
    {headers : List Addr}
    (hLoad :
      ∀ header ∈ headers,
        ∀ s, Invariant s → Invariant (load header s).2)
    {s : LoaderState}
    (hStart : Invariant s) :
    Invariant (headerLoop load headers s).2 := by
  induction headers generalizing s with
  | nil => exact hStart
  | cons header headers ih =>
      rcases List.forall_mem_cons.mp hLoad with ⟨hFirst, hLater⟩
      unfold headerLoop
      dsimp only
      split_ifs with hFailed
      · exact hFirst s hStart
      · exact ih hLater (hFirst s hStart)

theorem readKernelImage_callsOf
    (elfLoader : ElfLoader)
    (fn : LoaderFunction)
    {s : LoaderState}
    (hStart : CallsOf fn s.calls) :
    CallsOf fn
      (readKernelImage elfLoader fn s).state.calls := by
  have hSegments :
      CallsOf fn (segmentLoop elfLoader fn s).2.calls :=
    headerLoop_invariant (fun t => CallsOf fn t.calls)
      (fun header _ _ =>
        callsOf_loadExecutableProgram elfLoader fn header)
      hStart
  unfold readKernelImage
  dsimp only
  split_ifs with hFailed
  · exact hSegments
  · generalize (segmentLoop elfLoader fn s).2 = t at hSegments
    exact
      headerLoop_invariant (fun t => CallsOf fn t.calls)
        (fun header _ _ =>
          callsOf_loadNoBitsSection elfLoader fn header)
        hSegments

------------------------------------------------------------
-- Pages of a Buffer
------------------------------------------------------------

theorem int_bmod_bounds (value : Int) :
    -2147483648 ≤ value.bmod (2 ^ 32) ∧
      value.bmod (2 ^ 32) < 2147483648 := by
  constructor
  · exact Int.le_bmod (by decide)
  · exact Int.bmod_lt (by decide)

/- The quotient of C, which is rounded towards 0. -/
theorem tdiv_page_bounds (value : Int) :
    (0 ≤ value →
        4096 * value.tdiv 4096 ≤ value ∧
          value < 4096 * value.tdiv 4096 + 4096) ∧
      (value < 0 →
        value ≤ 4096 * value.tdiv 4096 ∧
          4096 * value.tdiv 4096 - 4096 < value) := by
  constructor
  · intro hNonneg
    rw [Int.tdiv_eq_ediv_of_nonneg hNonneg]
    omega
  · intro hNegative
    rw [← neg_neg value, Int.neg_tdiv,
      Int.tdiv_eq_ediv_of_nonneg (by omega)]
    omega

theorem callbackPages_toInt (size : Int) :
    (callbackPages size).toInt =
      ((size + 4095).bmod (2 ^ 32)).tdiv 4096 := by
  have hPage :
      (BitVec.ofNat 32 EFI_PAGE_SIZE).toInt = 4096 := by
    decide
  have hOffset :
      BitVec.ofInt 32 size + BitVec.ofNat 32 EFI_PAGE_SIZE -
          1 =
        BitVec.ofInt 32 (size + 4095) := by
    rw [BitVec.ofInt_add, BitVec.sub_eq_add_neg,
      BitVec.add_assoc]
    rfl
  unfold callbackPages
  rw [BitVec.toInt_signExtend_of_le (by decide), hOffset,
    BitVec.toInt_sdiv, BitVec.toInt_ofInt, hPage]
  have hBounds := int_bmod_bounds (size + 4095)
  generalize (size + 4095).bmod (2 ^ 32) = sum at hBounds
  have hQuotient := tdiv_page_bounds sum
  apply Int.bmod_eq_of_le
  · norm_num
    omega
  · norm_num
    omega

/-
  The pages are enough, also where the sum overflows: the
  count is negative then, which is a huge number of pages.
-/
theorem size_le_callbackPages
    {size : Int}
    (hSize : IntSize size) :
    size.toNat ≤
      EFI_PAGE_SIZE * (callbackPages size).toNat := by
  rcases hSize with ⟨hLow, hHigh⟩
  have hPages := callbackPages_toInt size
  have hPage : EFI_PAGE_SIZE = 4096 := rfl
  rw [BitVec.toInt_eq_toNat_cond] at hPages
  rw [hPage]
  by_cases hSum : size + 4095 < 2 ^ 31
  · have hExact :
        (size + 4095).bmod (2 ^ 32) = size + 4095 := by
      apply Int.bmod_eq_of_le
      · norm_num
        omega
      · norm_num
        omega
    rw [hExact] at hPages
    have hQuotient := tdiv_page_bounds (size + 4095)
    split_ifs at hPages <;> omega
  · have hWrap :
        (size + 4095).bmod (2 ^ 32) =
          size + 4095 - 2 ^ 32 := by
      rw [← Int.sub_bmod_right (size + 4095) (2 ^ 32)]
      apply Int.bmod_eq_of_le
      · norm_num
        omega
      · norm_num
        omega
    rw [hWrap] at hPages
    have hQuotient := tdiv_page_bounds (size + 4095 - 2 ^ 32)
    split_ifs at hPages <;> omega

------------------------------------------------------------
-- Ranges That Are Kept
------------------------------------------------------------

/- All that is held is apart. -/
structure KeptApart
    (earlier : List (Action Addr))
    (history : History)
    (now : Held Addr) : Prop where
  hHeld :
    held (actions pageAction history ++ earlier) = some now
  hApart : now.Pairwise PagesDisjoint

namespace KeptApart

variable {earlier : List (Action Addr)} {now : Held Addr}

theorem quietly
    {s t : BootState}
    (hQuiet : Quietly s t)
    (hKept : KeptApart earlier s.history now) :
    KeptApart earlier t.history now where
  hHeld := by
    rw [hQuiet.pageActions]
    exact hKept.hHeld
  hApart := hKept.hApart

/- What is asked for is added in front. -/
theorem allocatePages
    {firmware : Firmware}
    {history : History}
    (hFresh : HandsOutFresh firmware earlier)
    (hKept : KeptApart earlier history now)
    (pages : BitVec 64) :
    let answer := firmware.allocatePages history pages
    KeptApart earlier
      (.allocatePages pages answer.status answer.address ::
        history)
      (if EFI_ERROR answer.status then now
      else (answer.address, pages.toNat) :: now) := by
  intro answer
  cases hStatus : EFI_ERROR answer.status with
  | true =>
      refine ⟨?_, hKept.hApart⟩
      rw [actions_cons]
      simp only [pageAction, hStatus, if_true,
        List.nil_append]
      exact hKept.hHeld
  | false =>
      refine ⟨?_, List.pairwise_cons.mpr ⟨?_, hKept.hApart⟩⟩
      · rw [actions_cons]
        simp only [pageAction, hStatus, Bool.false_eq_true,
          if_false, List.cons_append, List.nil_append]
        exact held_acquire hKept.hHeld _ _
      · exact
          (hFresh history pages now hStatus
            hKept.hHeld).hApart

end KeptApart

------------------------------------------------------------
-- Buffers of the Loops
------------------------------------------------------------

/- The pages of the buffer of a call. -/
def callRange (call : LoaderCall) : Addr × Nat :=
  (call.dest, (callbackPages call.memorySize).toNat)

/- Those of the calls that were given a buffer. -/
def callRanges (calls : List LoaderCall) : Held Addr :=
  (calls.filter (fun call => call.dest ≠ 0)).map callRange

theorem callRanges_cons
    (call : LoaderCall)
    (calls : List LoaderCall) :
    callRanges (call :: calls) =
      if call.dest = 0 then callRanges calls
      else callRange call :: callRanges calls := by
  unfold callRanges
  rw [List.filter_cons]
  split_ifs <;> simp_all

/- One page range for each buffer, on top of the others. -/
theorem keptApart_callbackHistory
    {firmware : Firmware}
    {earlier : List (Action Addr)}
    {history : History}
    {now : Held Addr}
    (hFresh : HandsOutFresh firmware earlier)
    (hKept : KeptApart earlier history now)
    {calls : List LoaderCall}
    (hCalls :
      CallsOf (kernelCallback firmware history) calls) :
    KeptApart earlier
      (callbackHistory firmware history calls)
      (callRanges calls ++ now) := by
  induction hCalls with
  | nil => exact hKept
  | @cons call calls _ hDest hCalls hBefore =>
      have hAfter :=
        hBefore.allocatePages hFresh
          (callbackPages call.memorySize)
      unfold callbackHistory
      dsimp only at hAfter ⊢
      unfold kernelCallback at hDest
      dsimp only at hDest
      generalize hAnswer :
        firmware.allocatePages
          (callbackHistory firmware history calls)
          (callbackPages call.memorySize) =
            answer at hDest hAfter ⊢
      rw [callRanges_cons]
      cases hStatus : EFI_ERROR answer.status with
      | true =>
          simp only [hStatus, if_true] at hDest hAfter
          rw [if_pos hDest]
          exact hAfter
      | false =>
          simp only [hStatus, Bool.false_eq_true,
            if_false] at hDest hAfter
          have hNotNull :=
            (hFresh _ (callbackPages call.memorySize) _
              (by rw [hAnswer]; exact hStatus)
              hBefore.hHeld).hNotNull
          rw [hAnswer] at hNotNull
          rw [if_neg (by rw [hDest]; exact hNotNull),
            callRange, hDest]
          exact hAfter

------------------------------------------------------------
-- Pages of the File
------------------------------------------------------------

/- The buffer of a call is the answer to one request. -/
def AnsweredPages
    (firmware : Firmware)
    (s : BootState)
    (call : ReadCall) : Prop :=
  ∃ t,
    Quietly s t ∧
      let answer :=
        firmware.allocatePages t.history
          (neededPages call.fileSize)
      call.buffer = answer.address ∧
        call.before.history =
          .allocatePages (neededPages call.fileSize)
              answer.status answer.address ::
            t.history

theorem readCall_answeredPages
    {firmware : Firmware}
    {s : BootState}
    {call : ReadCall}
    (hCall : readCall firmware s = some call) :
    AnsweredPages firmware s call := by
  have hStart :
      Quietly s
        ((s.setError .FileReadUnknownError).allocatePool
          firmware DEFAULT_BUFFER_SIZE).2 :=
    Quietly.allocatePool firmware DEFAULT_BUFFER_SIZE
      (s.setError .FileReadUnknownError)
  unfold readCall at hCall
  dsimp only at hCall
  split_ifs at hCall with hPool
  have hLoop :=
    hStart.trans
      (Quietly.of_infoLoop firmware NUM_RETRIES
        DEFAULT_BUFFER_SIZE
        ((s.setError .FileReadUnknownError).allocatePool
          firmware DEFAULT_BUFFER_SIZE).1.address _)
  generalize
    infoLoop firmware NUM_RETRIES DEFAULT_BUFFER_SIZE _ _ =
      result at hCall hLoop
  rcases result with ⟨_ | _ | _, t⟩
  · unfold callAfterInfo foundCall at hCall
    dsimp only at hCall
    split_ifs at hCall with hSize hPages
    cases hCall
    exact
      ⟨_, hLoop.trans (Quietly.useAndFree t _), rfl, rfl⟩
  · cases hCall
  · cases hCall

/- The pages that were added for the file. -/
structure FilePages
    (firmware : Firmware)
    (earlier : List (Action Addr))
    (now : Held Addr)
    (s : BootState)
    (result : ReadFileInfo × BootState)
    (filePages : Held Addr) : Prop where
  hKept :
    KeptApart earlier result.2.history (filePages ++ now)
  hOne : filePages.length ≤ 1
  hFile :
    PagesAnswered result.2.history →
      result.1.BufferSize ≠ 0 →
        ∃ pages,
          filePages = [(result.1.Buffer, pages)] ∧
            result.1.BufferSize.toNat ≤
              EFI_PAGE_SIZE * pages
  hWrites :
    PagesAnswered result.2.history →
      ReadsWithin firmware →
        InfoWithin firmware →
          WritesOnly (InPages filePages) s result.2

theorem readFile_filePages
    {firmware : Firmware}
    {earlier : List (Action Addr)}
    {now : Held Addr}
    {s : BootState}
    (hFresh : HandsOutFresh firmware earlier)
    (hShort : ReadsAtMost firmware)
    (hKept : KeptApart earlier s.history now) :
    ∃ filePages,
      FilePages firmware earlier now s (readFile firmware s)
        filePages := by
  have hOutcome := readFile_outcome firmware s
  have hNoCall (hInfo : InfoWithin firmware) :=
    @readFile_writes firmware (InPages []) hInfo s
  generalize readFile firmware s = result at hOutcome hNoCall ⊢
  cases hOutcome with
  | notRead hCall hQuiet =>
      refine ⟨[], hKept.quietly hQuiet, Nat.zero_le 1, ?_, ?_⟩
      · exact fun _ hSome => absurd rfl hSome
      · exact fun _ _ hInfo => hNoCall hInfo hCall
  | @read call hCall infoBuffer =>
      rcases readCall_answeredPages hCall with
        ⟨t, hQuiet, hBuffer, hBefore⟩
      have hPages := answerRead_pages firmware infoBuffer call
      have hEnough :
          call.fileSize.toNat ≤
            EFI_PAGE_SIZE *
              (neededPages call.fileSize).toNat :=
        neededPages_fits (readCall_made hCall).hBound
      have hAfter :=
        (hKept.quietly hQuiet).allocatePages hFresh
          (neededPages call.fileSize)
      dsimp only at hAfter
      rw [← hBefore] at hAfter
      have hStatus
          (hAnswered :
            PagesAnswered
              (answerRead firmware infoBuffer
                call).2.history) :=
        hPages.2.mp hAnswered _ _ _
          (hBefore ▸ List.mem_cons_self)
      refine
        ⟨if EFI_ERROR
              (firmware.allocatePages t.history
                (neededPages call.fileSize)).status then []
          else
            [(call.buffer,
              (neededPages call.fileSize).toNat)],
          ⟨?_, ?_⟩, ?_, ?_, ?_⟩
      · rw [hPages.1, hAfter.hHeld, hBuffer]
        split_ifs <;> rfl
      · rw [hBuffer]
        split_ifs at hAfter ⊢
        · exact hAfter.hApart
        · exact hAfter.hApart
      · split_ifs <;> simp
      · intro hAnswered hSome
        rcases answerRead_result hShort infoBuffer hSome with
          ⟨hResult, _, hSize⟩
        rw [hStatus hAnswered, hResult]
        have hRead : _ ≤ call.fileSize.toNat := hSize
        exact ⟨_, rfl, hRead.trans hEnough⟩
      · intro hAnswered hWithin hInfo
        rw [hStatus hAnswered]
        refine
          (readCall_writes hInfo hCall).trans
            ((answerRead_writes hWithin infoBuffer call).mono
              ?_)
        intro a hRange
        exact
          ⟨_, List.mem_singleton_self _, hRange.mono hEnough⟩

------------------------------------------------------------
-- Pages of the Kernel
------------------------------------------------------------

theorem quietly_volumeFound
    (firmware : Firmware)
    (s : BootState) :
    Quietly s (volumeFound firmware s).2 := by
  have hRecord (event : FirmwareEvent) (s : BootState) :
      QuietEvent event → Quietly s (s.record event) :=
    fun hEvent => Quietly.record hEvent s
  unfold volumeFound getVolume
  dsimp only
  split_ifs
  · exact hRecord _ _ trivial
  · exact
      (hRecord (.handleProtocol _ _) _ trivial).trans
        (hRecord (.handleProtocol _ _) _ trivial)
  · exact
      ((hRecord (.handleProtocol _ _) _ trivial).trans
        (hRecord (.handleProtocol _ _) _ trivial)).trans
        (hRecord (.openVolume _) _ trivial)
  · exact
      ((hRecord (.handleProtocol _ _) _ trivial).trans
        (hRecord (.handleProtocol _ _) _ trivial)).trans
        (hRecord (.openVolume _) _ trivial)

theorem quietly_fileOpened
    (firmware : Firmware)
    (s : BootState) :
    Quietly s (fileOpened firmware s).2 :=
  (quietly_volumeFound firmware s).trans
    (@Quietly.record (.openFile _ _) trivial _)

/- Checking and printing is no business of the pages. -/
theorem quietly_fileChecked
    (firmware : Firmware)
    (s : BootState) :
    Quietly (fileRead firmware s).2
      (fileChecked firmware s) := by
  rcases fileChecked_eq firmware s with
    ⟨events, hEvents, hPrints⟩
  refine ⟨events, by rw [hEvents], ?_⟩
  intro event hMem
  rcases hPrints event hMem with ⟨str, rfl⟩
  exact trivial

theorem callsOf_imageRead
    (firmware : Firmware)
    (s : BootState) :
    CallsOf
      (kernelCallback firmware
        (fileChecked firmware s).history)
      (imageRead firmware s).state.calls := by
  unfold imageRead kernelImage
  exact readKernelImage_callsOf _ _ .nil

theorem size_le_callRange
    {fn : LoaderFunction}
    {calls : List LoaderCall}
    (hCalls : CallsOf fn calls)
    {call : LoaderCall}
    (hMem : call ∈ calls) :
    call.memorySize.toNat ≤
      EFI_PAGE_SIZE * (callRange call).2 := by
  induction hCalls with
  | nil => exact absurd hMem List.not_mem_nil
  | cons hSize _ _ ih =>
      rcases List.mem_cons.mp hMem with rfl | hLater
      · exact size_le_callbackPages hSize
      · exact ih hLater

/- What is held when the loops have ended. -/
theorem kernelLoaded_keptApart
    {firmware : Firmware}
    {earlier : List (Action Addr)}
    {now : Held Addr}
    {s : BootState}
    (hFresh : HandsOutFresh firmware earlier)
    (hShort : ReadsAtMost firmware)
    (hKept : KeptApart earlier s.history now) :
    ∃ filePages,
      FilePages firmware earlier now (fileOpened firmware s).2
          (fileRead firmware s) filePages ∧
        KeptApart earlier (kernelLoaded firmware s).history
          (callRanges (imageRead firmware s).state.calls ++
            (filePages ++ now)) := by
  rcases
      readFile_filePages hFresh hShort
        (hKept.quietly (quietly_fileOpened firmware s)) with
    ⟨filePages, hFile⟩
  refine ⟨filePages, hFile, ?_⟩
  rw [kernelLoaded_history]
  exact
    keptApart_callbackHistory hFresh
      (hFile.hKept.quietly (quietly_fileChecked firmware s))
      (callsOf_imageRead firmware s)

/- What is held when `readKernel` returns. -/
theorem readKernel_grants
    {firmware : Firmware}
    {earlier : List (Action Addr)}
    {now : Held Addr}
    {s : BootState}
    (hFresh : HandsOutFresh firmware earlier)
    (hShort : ReadsAtMost firmware)
    (hKept : KeptApart earlier s.history now) :
    ∃ kept filePages,
      KeptApart earlier (readKernel firmware s).2.history
          (kept ++ now) ∧
        FilePages firmware earlier now (fileOpened firmware s).2
          (fileRead firmware s) filePages ∧
        (Opened firmware s →
          kept =
            if (fileRead firmware s).1.BufferSize = 0 then
              filePages
            else
              callRanges (imageRead firmware s).state.calls ++
                filePages) := by
  have hOpen := hKept.quietly (quietly_fileOpened firmware s)
  rcases kernelLoaded_keptApart hFresh hShort hKept with
    ⟨filePages, hFile, hLoaded⟩
  rw [← List.append_assoc] at hLoaded
  have hOutcome := readKernel_outcome firmware s
  generalize
    readKernel firmware s = result at hOutcome ⊢
  cases hOutcome with
  | noVolume hVolume =>
      refine ⟨[], filePages, ?_, hFile, ?_⟩
      · exact
          hKept.quietly (quietly_volumeFound firmware s)
      · intro hOpened
        exact
          absurd (hVolume.symm.trans hOpened.hVolume)
            Bool.false_ne_true
  | notOpened hStatus =>
      refine ⟨[], filePages, hOpen, hFile, ?_⟩
      intro hOpened
      exact
        absurd (hOpened.hOpen.symm.trans hStatus)
          Bool.false_ne_true
  | notRead _ hNone =>
      refine ⟨filePages, filePages, hFile.hKept, hFile, ?_⟩
      exact fun _ => (if_pos hNone).symm
  | notLoaded _ hSome _ =>
      refine
        ⟨_, filePages, ?_, hFile, fun _ => (if_neg hSome).symm⟩
      exact
        hLoaded.quietly
          (@Quietly.record (.print _) trivial _)
  | loaded _ hSome _ =>
      refine
        ⟨_, filePages, ?_, hFile, fun _ => (if_neg hSome).symm⟩
      exact
        hLoaded.quietly
          (@Quietly.record (.closeFile _) trivial _)

------------------------------------------------------------
-- Ranges That Were Granted
------------------------------------------------------------

/- The range of pages that an event granted, if any. -/
def rangeGranted : FirmwareEvent → Held Addr
| .allocatePages pages status address =>
    if EFI_ERROR status then [] else [(address, pages.toNat)]
| _ => []

/- All that a history was granted, the latest first. -/
def rangesGranted (history : History) : Held Addr :=
  history.flatMap rangeGranted

def IsFree : FirmwareEvent → Prop
| .freePages _ => True
| _ => False

/- Without a call of `FreePages` all that is granted stays. -/
theorem held_rangesGranted
    {events : History}
    (hKeeps : ∀ event ∈ events, ¬ IsFree event)
    {earlier : List (Action Addr)}
    {now : Held Addr}
    (hNow : held earlier = some now) :
    held (actions pageAction events ++ earlier) =
      some (rangesGranted events ++ now) := by
  unfold rangesGranted
  induction events with
  | nil => exact hNow
  | cons event events ih =>
      rcases List.forall_mem_cons.mp hKeeps with
        ⟨hThis, hOthers⟩
      have hEarlier := ih hOthers
      rw [actions_cons, List.flatMap_cons, List.append_assoc,
        List.append_assoc]
      cases event with
      | allocatePages pages status address =>
          dsimp only [pageAction, rangeGranted]
          split_ifs
          · exact hEarlier
          · exact held_acquire hEarlier _ _
      | freePages address => exact absurd trivial hThis
      | _ => exact hEarlier

/- From `s` to `t`, no pages were freed. -/
def FreesNothing (s t : BootState) : Prop :=
  ∃ events : History,
    t.history = events ++ s.history ∧
      ∀ event ∈ events, ¬ IsFree event

namespace FreesNothing

variable {s t u : BootState}

theorem trans
    (hFirst : FreesNothing s t)
    (hSecond : FreesNothing t u) :
    FreesNothing s u := by
  rcases hFirst with ⟨first, hFirst, hFirstAll⟩
  rcases hSecond with ⟨second, hSecond, hSecondAll⟩
  refine ⟨second ++ first, ?_, ?_⟩
  · rw [hSecond, hFirst, List.append_assoc]
  · rw [List.forall_mem_append]
    exact ⟨hSecondAll, hFirstAll⟩

theorem of_quietly (hQuiet : Quietly s t) :
    FreesNothing s t := by
  rcases hQuiet with ⟨events, hEvents, hAll⟩
  refine ⟨events, hEvents, fun event hMem hFree => ?_⟩
  have hEvent := hAll event hMem
  cases event <;> first | exact hEvent | exact hFree

end FreesNothing

theorem answerRead_freesNothing
    (firmware : Firmware)
    (infoBuffer : Addr)
    (call : ReadCall) :
    FreesNothing call.before
      (answerRead firmware infoBuffer call).2 := by
  unfold answerRead
  dsimp only
  split_ifs
  · exact ⟨[_, _], rfl, by simp [IsFree]⟩
  · exact ⟨[_], rfl, by simp [IsFree]⟩

theorem readFile_freesNothing
    (firmware : Firmware)
    (s : BootState) :
    FreesNothing s (readFile firmware s).2 := by
  have hOutcome := readFile_outcome firmware s
  generalize readFile firmware s = result at hOutcome ⊢
  cases hOutcome with
  | notRead _ hQuiet => exact .of_quietly hQuiet
  | @read call hCall infoBuffer =>
      rcases readCall_answeredPages hCall with
        ⟨t, hQuiet, _, hBefore⟩
      have hPages : FreesNothing t call.before :=
        ⟨[_], hBefore, by simp [IsFree]⟩
      exact
        ((FreesNothing.of_quietly hQuiet).trans hPages).trans
          (answerRead_freesNothing firmware infoBuffer call)

/- The callbacks ask for pages, and do nothing else. -/
theorem callbackHistory_grown
    (firmware : Firmware)
    (history : History)
    (calls : List LoaderCall) :
    ∃ events : History,
      callbackHistory firmware history calls =
          events ++ history ∧
        ∀ event ∈ events,
          ∃ pages status address,
            event = .allocatePages pages status address := by
  induction calls with
  | nil => exact ⟨[], rfl, List.forall_mem_nil _⟩
  | cons call calls ih =>
      rcases ih with ⟨events, hEvents, hAll⟩
      refine
        ⟨_ :: events, congrArg (List.cons _) hEvents, ?_⟩
      exact
        List.forall_mem_cons.mpr ⟨⟨_, _, _, rfl⟩, hAll⟩

theorem kernelLoaded_freesNothing
    (firmware : Firmware)
    (s : BootState) :
    FreesNothing s (kernelLoaded firmware s) := by
  have hRead : FreesNothing s (fileChecked firmware s) :=
    ((FreesNothing.of_quietly
      (quietly_fileOpened firmware s)).trans
        (readFile_freesNothing firmware _)).trans
      (.of_quietly (quietly_fileChecked firmware s))
  rcases
      callbackHistory_grown firmware
        (fileChecked firmware s).history
        (imageRead firmware s).state.calls with
    ⟨events, hEvents, hAll⟩
  rw [← kernelLoaded_history] at hEvents
  refine hRead.trans ⟨events, hEvents, ?_⟩
  intro event hMem hFree
  rcases hAll event hMem with ⟨pages, status, address, rfl⟩
  exact hFree

theorem readKernel_freesNothing
    (firmware : Firmware)
    (s : BootState) :
    FreesNothing s (readKernel firmware s).2 := by
  have hOpen :=
    FreesNothing.of_quietly (quietly_fileOpened firmware s)
  have hLoaded := kernelLoaded_freesNothing firmware s
  have hOutcome := readKernel_outcome firmware s
  generalize
    readKernel firmware s = result at hOutcome ⊢
  cases hOutcome with
  | noVolume _ =>
      exact .of_quietly (quietly_volumeFound firmware s)
  | notOpened _ => exact hOpen
  | notRead _ _ =>
      exact hOpen.trans (readFile_freesNothing firmware _)
  | notLoaded _ _ _ =>
      exact
        hLoaded.trans
          (.of_quietly (@Quietly.record (.print _) trivial _))
  | loaded _ _ _ =>
      exact
        hLoaded.trans
          (.of_quietly
            (@Quietly.record (.closeFile _) trivial _))

------------------------------------------------------------
-- All Pages of the Kernel
------------------------------------------------------------

/-
  The ranges of a run in which the file was read: one for
  each buffer of a callback, and behind them that of the
  file.
-/
structure KernelPages
    (firmware : Firmware)
    (s : BootState)
    (granted : Held Addr) : Prop where
  hRanges :
    ∃ filePages,
      granted =
          callRanges (imageRead firmware s).state.calls ++
            filePages ∧
        filePages.length ≤ 1 ∧
        (PagesAnswered (fileRead firmware s).2.history →
          ∃ pages,
            filePages =
                [((fileRead firmware s).1.Buffer, pages)] ∧
              (fileRead firmware s).1.BufferSize.toNat ≤
                EFI_PAGE_SIZE * pages)
  hBuffers :
    ∀ call ∈ (imageRead firmware s).state.calls,
      call.memorySize.toNat ≤
        EFI_PAGE_SIZE * (callRange call).2

/-
  Whatever `readKernel` is given and however it returns, it
  still holds each range of pages that it was granted, and
  no two of them overlap; where the file was read, they are
  that of the file and one for each buffer, and each is
  large enough.
-/
theorem readKernel_keptApart
    {firmware : Firmware}
    {earlier : List (Action Addr)}
    {now : Held Addr}
    {s : BootState}
    (hFresh : HandsOutFresh firmware earlier)
    (hShort : ReadsAtMost firmware)
    (hKept : KeptApart earlier s.history now) :
    ∃ events,
      (readKernel firmware s).2.history =
          events ++ s.history ∧
        KeptApart earlier (readKernel firmware s).2.history
          (rangesGranted events ++ now) ∧
        (Opened firmware s →
          (fileRead firmware s).1.BufferSize ≠ 0 →
            KernelPages firmware s (rangesGranted events)) := by
  rcases readKernel_freesNothing firmware s with
    ⟨events, hEvents, hFrees⟩
  rcases readKernel_grants hFresh hShort hKept with
    ⟨kept, filePages, hGranted, hFile, hRead⟩
  have hAll : kept = rangesGranted events := by
    have hHeld := held_rangesGranted hFrees hKept.hHeld
    rw [← List.append_assoc, ← actions_append, ← hEvents,
      hGranted.hHeld, Option.some.injEq] at hHeld
    exact List.append_cancel_right hHeld
  refine ⟨events, hEvents, hAll ▸ hGranted, ?_⟩
  intro hOpened hSome
  rw [← hAll, hRead hOpened, if_neg hSome]
  refine
    ⟨⟨filePages, rfl, hFile.hOne, ?_⟩, fun _ =>
      size_le_callRange (callsOf_imageRead firmware s)⟩
  exact fun hAnswered => hFile.hFile hAnswered hSome

/- A file is read, and is not the file of a kernel. -/
theorem readKernel_keptApart_readable :
    KeptApart []
      (readKernel
        { readableFirmware ⟨EFI_SUCCESS, 0⟩ with
          allocatePages := nextPages [] }
        emptyStart).2.history
      (rangesGranted
        (readKernel
          { readableFirmware ⟨EFI_SUCCESS, 0⟩ with
            allocatePages := nextPages [] }
          emptyStart).2.history) := by
  have hKept :=
    @readKernel_keptApart
      { readableFirmware ⟨EFI_SUCCESS, 0⟩ with
        allocatePages := nextPages [] }
      [] [] emptyStart (handsOutFresh_nextPages rfl)
      (readsAtMost_readableFirmware ⟨EFI_SUCCESS, 0⟩)
      ⟨rfl, List.Pairwise.nil⟩
  rcases hKept with ⟨events, hEvents, hApart, _⟩
  have hAll : events ++ [] = events := List.append_nil events
  rw [show emptyStart.history = [] from rfl, hAll] at hEvents
  rw [hEvents] at hApart ⊢
  rw [List.append_nil] at hApart
  exact hApart

end KernelReader

end Chihuahua
