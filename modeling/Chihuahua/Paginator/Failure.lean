import Chihuahua.Paginator.RootController

/-
  What a call that fails leaves behind.

  Tables created before the failure stay, and those of the
  lower levels stay in the root. A translation does not see
  them, since it sees no table at all.

  Main declarations:
    * `FailureHarmless`
    * `RetryWords` and `FailsCleanly`
    * `failureHarmless_of_failsCleanly`
-/

------------------------------------------------------------
-- Harmless Failures
------------------------------------------------------------

namespace Chihuahua

namespace Paginator

open ByteMachine

/-
  A call that fails changes no translation and no root entry
  but its own, and after a failed allocation it succeeds as
  soon as the allocator does.
-/
structure FailureHarmless
    (rootPageTable : Addr)
    (taken : MapStep) : Prop where
  hTranslation :
    taken.output ≠ .NoError →
      ∀ v,
        bootTranslate rootPageTable v taken.after =
          bootTranslate rootPageTable v taken.before
  hRoot :
    taken.output ≠ .NoError →
      ∀ idx : Word,
        idx.toNat < 512 →
          idx ≠ l4Idx taken.input.virtAddress →
            taken.after.word
                (entryAddress rootPageTable idx) =
              taken.before.word
                (entryAddress rootPageTable idx)
  hRetry :
    taken.output = .AllocFailed →
      ∀ allocator calls,
        FreshFrames allocator rootPageTable calls →
          (∀ n, allocator n ≠ 0) →
            (bootStep allocator rootPageTable taken.input
              taken.after).1 = .NoError

------------------------------------------------------------
-- Calls That Fail Cleanly
------------------------------------------------------------

/-
  The words the code takes for the tables and the leaf of an
  address: the tables decode to address zero, the leaf is
  free and not the slot of a self-map.
-/
structure RetryWords
    (virtAddress : Addr)
    (s : PagingState) : Prop where
  hIndex : l1Idx virtAddress ≠ RECURSIVE_INDEX
  hL2 :
    getAddrFromEntry
        (s.word (lowSlot (l3Idx virtAddress))) =
      0
  hL1 :
    getAddrFromEntry
        (s.word (lowSlot (l2Idx virtAddress))) =
      0
  hLeaf : s.word (lowSlot (l1Idx virtAddress)) = 0

structure FailsCleanly
    (allocator : Nat → Addr)
    (rootPageTable : Addr)
    (request : MapRequest)
    (s : PagingState) : Prop where
  /- A leaf that is stored does not put a table in the root. -/
  hLeaf :
    (request.walk allocator rootPageTable).Stores s
        request.forceWrite →
      request.physAddress &&& (40 : Word) = 0 ∨
        ¬ InRange rootPageTable 4096
          ((request.walk allocator rootPageTable).slotLeaf
            s)
  /- A call that stops has linked no table in a wrong slot. -/
  hL2 :
    (request.walk allocator rootPageTable).Passes s
        request.forceWrite →
      ¬ (request.walk allocator rootPageTable).Stores s
          request.forceWrite →
        (request.walk allocator rootPageTable).CreatesL2 s →
          l3Idx request.virtAddress =
            l4Idx request.virtAddress
  hL1 :
    (request.walk allocator rootPageTable).Passes s
        request.forceWrite →
      ¬ (request.walk allocator rootPageTable).Stores s
          request.forceWrite →
        (request.walk allocator rootPageTable).CreatesL1 s →
          l2Idx request.virtAddress =
            l4Idx request.virtAddress
  /- A call that runs out of frames can be repeated. -/
  hRetry :
    (request.walk allocator rootPageTable).Passes s
        request.forceWrite →
      ¬ (request.walk allocator rootPageTable).Complete s →
        request.forceWrite = true ∨
          RetryWords request.virtAddress s

------------------------------------------------------------
-- The Retry
------------------------------------------------------------

section Retry

variable {allocator : Nat → Addr} {rootPageTable : Addr}
variable {calls : Nat} {request : MapRequest}
variable {s : PagingState}
variable (hFresh : FreshFrames allocator rootPageTable calls)
variable
  (hRoot : Aligned 4096 rootPageTable)
  (hNonzero : rootPageTable ≠ 0)

include hFresh hRoot hNonzero

theorem keeps_retryWords
    (virtAddress : Addr) :
    Walk.Keeps
      { allocator := allocator
        rootPageTable := rootPageTable
        virtAddress := virtAddress }
      (RetryWords virtAddress) where
  hFail t hWords :=
    ⟨hWords.hIndex, hWords.hL2, hWords.hL1, hWords.hLeaf⟩
  hCreate t level idx hWords hIdx hAlloc := by
    have hLow :
        ∀ i : Word,
          i.toNat < 512 →
            (t.createTable rootPageTable virtAddress level
                idx (allocator t.frames)).word (lowSlot i) =
              if i = RECURSIVE_INDEX then
                tableEntry (allocator t.frames)
              else t.word (lowSlot i) :=
      fun i hI =>
        word_createTable_low hRoot (hFresh.hAligned _)
          hNonzero hAlloc t virtAddress level hIdx hI
    have hDecoded :
        ∀ i : Word,
          i.toNat < 512 →
            getAddrFromEntry (t.word (lowSlot i)) = 0 →
              getAddrFromEntry
                  ((t.createTable rootPageTable virtAddress
                    level idx (allocator t.frames)).word
                    (lowSlot i)) =
                0 := by
      intro i hI hBefore
      rw [hLow i hI]
      split_ifs
      · exact getAddrFromEntry_tableEntry (hFresh.hAligned _)
      · exact hBefore
    refine ⟨hWords.hIndex, ?_, ?_, ?_⟩
    · exact hDecoded _ (l3Idx_lt _) hWords.hL2
    · exact hDecoded _ (l2Idx_lt _) hWords.hL1
    · exact
        ((hLow _ (l1Idx_lt _)).trans
          (if_neg hWords.hIndex)).trans hWords.hLeaf

/- The walk ends in the free leaf. -/
theorem foundLeaf_of_retryWords
    (hClear : RootClear rootPageTable s)
    (hWords : RetryWords request.virtAddress s) :
    (request.walk allocator rootPageTable).foundLeaf s =
      0 := by
  have hKeeps :=
    keeps_retryWords hFresh hRoot hNonzero
      request.virtAddress
  have hFoundL2 :
      getAddrFromEntry
          ((request.walk allocator rootPageTable).foundL2
            s) =
        0 := by
    unfold Walk.foundL2
    rw [slotL2_of_rootClear hFresh hClear]
    exact (Walk.afterL3_preserves hKeeps hWords).hL2
  have hFoundL1 :
      getAddrFromEntry
          ((request.walk allocator rootPageTable).foundL1
            s) =
        0 := by
    unfold Walk.foundL1
    rw [slotL1_of_decoded hFresh hFoundL2]
    exact (Walk.afterL2_preserves hKeeps hWords).hL1
  unfold Walk.foundLeaf
  rw [slotLeaf_of_decoded hFresh hFoundL1]
  exact (Walk.afterL1_preserves hKeeps hWords).hLeaf

end Retry

------------------------------------------------------------
-- One Call
------------------------------------------------------------

section Calls

variable {allocator : Nat → Addr} {rootPageTable : Addr}
variable {calls : Nat} {request : MapRequest}
variable {s : PagingState}
variable (hFresh : FreshFrames allocator rootPageTable calls)
variable
  (hRoot : Aligned 4096 rootPageTable)
  (hNonzero : rootPageTable ≠ 0)

include hFresh hRoot hNonzero

/- A block changes at most the root entry of its index. -/
private theorem word_root_of_blockOutcome
    {level : TableLevel}
    {slot : Addr}
    {idx i : Word}
    {result : Option Word × PagingState}
    (hOutcome :
      (request.walk allocator rootPageTable).BlockOutcome s
        level slot idx result)
    (hIdx : idx.toNat < 512)
    (hI : i.toNat < 512)
    (hOther :
      s.word slot = 0 → allocator s.frames ≠ 0 → i ≠ idx) :
    result.2.word (entryAddress rootPageTable i) =
      s.word (entryAddress rootPageTable i) := by
  cases hOutcome with
  | present _ => rfl
  | failed _ _ => rfl
  | created hFound hAlloc =>
      exact
        (word_createTable_root hRoot (hFresh.hAligned _)
          hNonzero (hFresh.hRoot _) s _ level hIdx hI).trans
          (if_neg (hOther hFound hAlloc))

/- A call that stops keeps the other entries of the root. -/
private theorem word_root_afterL1
    (hCleanly :
      FailsCleanly allocator rootPageTable request s)
    (hPasses :
      (request.walk allocator rootPageTable).Passes s
        request.forceWrite)
    (hStops :
      ¬ (request.walk allocator rootPageTable).Stores s
        request.forceWrite)
    {i : Word}
    (hI : i.toNat < 512)
    (hOther : i ≠ l4Idx request.virtAddress) :
    let w := request.walk allocator rootPageTable
    (w.afterL3 s).2.word (entryAddress rootPageTable i) =
        s.word (entryAddress rootPageTable i) ∧
      ((w.afterL3 s).1 ≠ none →
        (w.afterL2 s).2.word
            (entryAddress rootPageTable i) =
          s.word (entryAddress rootPageTable i)) ∧
      ((w.afterL3 s).1 ≠ none →
        (w.afterL2 s).1 ≠ none →
          (w.afterL1 s).2.word
              (entryAddress rootPageTable i) =
            s.word (entryAddress rootPageTable i)) := by
  intro w
  have hL3 :
      (w.afterL3 s).2.word (entryAddress rootPageTable i) =
        s.word (entryAddress rootPageTable i) :=
    word_root_of_blockOutcome hFresh hRoot hNonzero
      (Walk.afterL3_outcome _ s) (l4Idx_lt _) hI
      (fun _ _ => hOther)
  have hL2 :
      (w.afterL3 s).1 ≠ none →
        (w.afterL2 s).2.word
            (entryAddress rootPageTable i) =
          s.word (entryAddress rootPageTable i) := by
    intro hSome
    refine
      (word_root_of_blockOutcome hFresh hRoot hNonzero
        (Walk.afterL2_outcome _ s) (l3Idx_lt _) hI
        ?_).trans hL3
    rintro hFound hAlloc rfl
    exact
      hOther
        (hCleanly.hL2 hPasses hStops ⟨hSome, hFound, hAlloc⟩)
  refine ⟨hL3, hL2, ?_⟩
  intro hSome hSome'
  refine
    (word_root_of_blockOutcome hFresh hRoot hNonzero
      (Walk.afterL1_outcome _ s) (l2Idx_lt _) hI ?_).trans
      (hL2 hSome)
  rintro hFound hAlloc rfl
  exact
    hOther
      (hCleanly.hL1 hPasses hStops
        ⟨hSome, hSome', hFound, hAlloc⟩)

/- After a failed allocation the call can be repeated. -/
private theorem retry_of_retryWords
    {t : PagingState}
    (hClear : RootClear rootPageTable t)
    (hSign : signExtensionOk request.virtAddress = true)
    (hWords :
      request.forceWrite = true ∨
        RetryWords request.virtAddress t)
    (hSucceeds : ∀ n, allocator n ≠ 0) :
    (bootStep allocator rootPageTable request t).1 =
      .NoError := by
  rw [bootStep_of_rootClear hSucceeds hClear hSign]
  dsimp only
  rw [if_neg]
  rintro ⟨hForce, hLeaf⟩
  rcases hWords with hTrue | hFree
  · simp [hForce] at hTrue
  · exact
      hLeaf
        (foundLeaf_of_retryWords hFresh hRoot hNonzero
          hClear hFree)

/- A call that fails changes no root entry but its own. -/
private theorem root_word_of_failure
    (hCleanly :
      FailsCleanly allocator rootPageTable request s)
    (hFails :
      (bootStep allocator rootPageTable request s).1 ≠
        .NoError)
    {idx : Word}
    (hIdx : idx.toNat < 512)
    (hOther : idx ≠ l4Idx request.virtAddress) :
    (bootStep allocator rootPageTable request s).2.word
        (entryAddress rootPageTable idx) =
      s.word (entryAddress rootPageTable idx) := by
  let w := request.walk allocator rootPageTable
  have hOutcome :=
    bootStep_outcome allocator rootPageTable request s
  generalize bootStep allocator rootPageTable request s =
    result at hOutcome hFails ⊢
  cases hOutcome with
  | invalid _ => rfl
  | mapped _ _ _ => rfl
  | noL3 hPasses hL3 =>
      have hStops : ¬ w.Stores s request.forceWrite :=
        fun hStores => hStores.hComplete.hL3 hL3
      exact
        (word_root_afterL1 hFresh hRoot hNonzero hCleanly
          hPasses hStops hIdx hOther).1
  | noL2 hPasses hL3 hL2 =>
      have hStops : ¬ w.Stores s request.forceWrite :=
        fun hStores => hStores.hComplete.hL2 hL2
      exact
        (word_root_afterL1 hFresh hRoot hNonzero hCleanly
          hPasses hStops hIdx hOther).2.1 hL3
  | noL1 hPasses hL3 hL2 hL1 =>
      have hStops : ¬ w.Stores s request.forceWrite :=
        fun hStores => hStores.hComplete.hL1 hL1
      exact
        (word_root_afterL1 hFresh hRoot hNonzero hCleanly
          hPasses hStops hIdx hOther).2.2 hL3 hL2
  | taken hPasses hComplete hLeaf hForce =>
      have hStops : ¬ w.Stores s request.forceWrite := by
        intro hStores
        rcases hStores.hLeaf with hZero | hTrue
        · exact hLeaf hZero
        · simp [hForce] at hTrue
      exact
        (word_root_afterL1 hFresh hRoot hNonzero hCleanly
          hPasses hStops hIdx hOther).2.2 hComplete.hL3
          hComplete.hL2
  | stored _ _ _ => exact absurd rfl hFails

/- A call that got no frame succeeds when it gets one. -/
private theorem retry_of_failure
    (hCleanly :
      FailsCleanly allocator rootPageTable request s)
    (hAfter :
      RootClear rootPageTable
        (bootStep allocator rootPageTable request s).2)
    (hFails :
      (bootStep allocator rootPageTable request s).1 =
        .AllocFailed)
    {retryAllocator : Nat → Addr}
    {retryCalls : Nat}
    (hRetryFresh :
      FreshFrames retryAllocator rootPageTable retryCalls)
    (hSucceeds : ∀ n, retryAllocator n ≠ 0) :
    (bootStep retryAllocator rootPageTable request
        (bootStep allocator rootPageTable request s).2).1 =
      .NoError := by
  let w := request.walk allocator rootPageTable
  have hKeeps :=
    keeps_retryWords hFresh hRoot hNonzero
      request.virtAddress
  have hRetry :
      ∀ t,
        (RetryWords request.virtAddress s →
            RetryWords request.virtAddress t) →
          w.Passes s request.forceWrite →
            ¬ w.Complete s →
              RootClear rootPageTable t →
                (bootStep retryAllocator rootPageTable
                  request t).1 = .NoError := by
    intro t hKept hPasses hStops hClearT
    exact
      retry_of_retryWords hRetryFresh hRoot hNonzero
        hClearT hPasses.hSign
        ((hCleanly.hRetry hPasses hStops).imp_right hKept)
        hSucceeds
  have hOutcome :=
    bootStep_outcome allocator rootPageTable request s
  generalize bootStep allocator rootPageTable request s =
    result at hOutcome hAfter hFails ⊢
  cases hOutcome with
  | invalid _ => cases hFails
  | mapped _ _ _ => cases hFails
  | noL3 hPasses hL3 =>
      exact
        hRetry _ (Walk.afterL3_preserves hKeeps) hPasses
          (fun hComplete => hComplete.hL3 hL3) hAfter
  | noL2 hPasses hL3 hL2 =>
      exact
        hRetry _ (Walk.afterL2_preserves hKeeps) hPasses
          (fun hComplete => hComplete.hL2 hL2) hAfter
  | noL1 hPasses hL3 hL2 hL1 =>
      exact
        hRetry _ (Walk.afterL1_preserves hKeeps) hPasses
          (fun hComplete => hComplete.hL1 hL1) hAfter
  | taken _ _ _ _ => cases hFails
  | stored _ _ _ => cases hFails

theorem failureHarmless_bootStep
    (hClear : RootClear rootPageTable s)
    (hCleanly :
      FailsCleanly allocator rootPageTable request s) :
    FailureHarmless rootPageTable
      { before := s
        input := request
        output :=
          (bootStep allocator rootPageTable request s).1
        after :=
          (bootStep allocator rootPageTable request
            s).2 } := by
  have hAfter :
      RootClear rootPageTable
        (bootStep allocator rootPageTable request s).2 :=
    rootClear_bootStep hRoot hNonzero hFresh hCleanly.hLeaf
      hClear
  constructor
  · intro _ v
    rw [bootTranslate_of_rootClear hAfter,
      bootTranslate_of_rootClear hClear]
  · intro hFails idx hIdx hOther
    exact
      root_word_of_failure hFresh hRoot hNonzero hCleanly
        hFails hIdx hOther
  · intro hFails _ _ hRetryFresh hSucceeds
    exact
      retry_of_failure hFresh hRoot hNonzero hCleanly hAfter
        hFails hRetryFresh hSucceeds

end Calls

------------------------------------------------------------
-- Runs
------------------------------------------------------------

/-
  Every failure of a run is harmless as long as the calls of
  the run fail cleanly.
-/
theorem failureHarmless_of_failsCleanly
    {allocator : Nat → Addr}
    {rootPageTable : Addr}
    {requests : List MapRequest}
    {s : PagingState}
    (hStart : ZeroedRoot rootPageTable s)
    (hFresh :
      FreshFrames allocator rootPageTable
        (bootFinal allocator rootPageTable requests
          s).frames)
    (hCleanly :
      ∀ taken ∈ bootRun allocator rootPageTable requests s,
        FailsCleanly allocator rootPageTable taken.input
          taken.before) :
    ∀ taken ∈ bootRun allocator rootPageTable requests s,
      FailureHarmless rootPageTable taken := by
  have hClear :
      ∀ taken ∈ bootRun allocator rootPageTable requests s,
        RootClear rootPageTable taken.before ∧
          RootClear rootPageTable taken.after := by
    refine
      Transition.run_invariant (RootClear rootPageTable)
        (hStart.rootWords getAddrFromEntry_zero) ?_
    intro taken hTaken hBefore
    rw [← Transition.after_of_mem_run hTaken]
    exact
      rootClear_bootStep hStart.hAligned hStart.hNonzero
        hFresh (hCleanly taken hTaken).hLeaf hBefore
  intro taken hTaken
  have hHarmless :=
    failureHarmless_bootStep hFresh hStart.hAligned
      hStart.hNonzero (hClear taken hTaken).1
      (hCleanly taken hTaken)
  rw [(Transition.step_of_mem_run hTaken).2] at hHarmless
  exact hHarmless

/- The call whose last allocation fails. -/
private theorem bootStep_of_noL1
    {allocator : Nat → Addr}
    {rootPageTable : Addr}
    {request : MapRequest}
    {s : PagingState}
    (hPasses :
      (request.walk allocator rootPageTable).Passes s
        request.forceWrite)
    (hL3 :
      ((request.walk allocator rootPageTable).afterL3 s).1 ≠
        none)
    (hL2 :
      ((request.walk allocator rootPageTable).afterL2 s).1 ≠
        none)
    (hL1 :
      ((request.walk allocator rootPageTable).afterL1 s).1 =
        none) :
    (bootStep allocator rootPageTable request s).1 =
        .AllocFailed ∧
      (bootStep allocator rootPageTable request s).2 =
        ((request.walk allocator rootPageTable).afterL1
          s).2 := by
  have hOutcome :=
    bootStep_outcome allocator rootPageTable request s
  generalize bootStep allocator rootPageTable request s =
    result at hOutcome ⊢
  cases hOutcome with
  | invalid hSign =>
      exact
        absurd (hPasses.hSign.symm.trans hSign) (by decide)
  | mapped _ hForce hMapped =>
      exact
        absurd
          (hPasses.hMapped.resolve_left (by simp [hForce]))
          hMapped
  | noL3 _ hNone => exact absurd hNone hL3
  | noL2 _ _ hNone => exact absurd hNone hL2
  | noL1 _ _ _ _ => exact ⟨rfl, rfl⟩
  | taken _ hComplete _ _ => exact absurd hL1 hComplete.hL1
  | stored _ hComplete _ => exact absurd hL1 hComplete.hL1

/- The first page, not to be written over another one. -/
def samplePoliteRequest : MapRequest :=
  .mapPage samplePage 0x300000
    (PageFlags.Present ||| PageFlags.WriteBit) false

/- The frames of the sample, of which there are so many. -/
def sampleShortAllocator (available n : Nat) : Addr :=
  if n < available then sampleAllocator n else 0

private theorem sample_shortFrames
    {available calls : Nat}
    (hCalls : calls ≤ 3) :
    FreshFrames (sampleShortAllocator available) sampleRoot
      calls where
  hAligned n := by
    unfold sampleShortAllocator
    split_ifs
    · exact (sample_freshFrames le_rfl).hAligned n
    · exact aligned_zero 4096
  hRoot n := by
    unfold sampleShortAllocator
    split_ifs
    · exact (sample_freshFrames le_rfl).hRoot n
    · decide
  hDistinct i j hI hJ hNonzero hEq := by
    unfold sampleShortAllocator at hNonzero hEq
    split_ifs at hNonzero hEq
    · exact
        (sample_freshFrames hCalls).hDistinct i j hI hJ
          hNonzero hEq
    · exact absurd hEq hNonzero
    · exact absurd rfl hNonzero
    · exact absurd rfl hNonzero

private theorem sample_missingL3
    (request : MapRequest)
    (available : Nat) :
    (((request.walk (sampleShortAllocator available)
          sampleRoot).afterL3 (sampleStart 0)).1 =
        none ↔
      sampleShortAllocator available 0 = 0) ∧
      ((request.walk (sampleShortAllocator available)
          sampleRoot).afterL3 (sampleStart 0)).2.frames =
        1 :=
  (Walk.afterL3_outcome _ (sampleStart 0)).of_missing
    ((sample_zeroedRoot 0).hZero _ (l4Idx_lt _))

/- The first allocation fails, and nothing has happened. -/
theorem failureHarmless_of_failsCleanly_sample :
    (bootStep (sampleShortAllocator 0) sampleRoot
          samplePoliteRequest (sampleStart 0)).1 =
        .AllocFailed ∧
      ∀ taken ∈
        bootRun (sampleShortAllocator 0) sampleRoot
          [samplePoliteRequest] (sampleStart 0),
        FailureHarmless sampleRoot taken := by
  refine
    ⟨by decide +kernel,
      failureHarmless_of_failsCleanly (sample_zeroedRoot 0)
        (sample_shortFrames (frames_le_bootFinal _ _ _ _).2)
        ?_⟩
  intro taken hTaken
  obtain rfl := List.mem_singleton.mp hTaken
  have hNone :
      ((samplePoliteRequest.walk (sampleShortAllocator 0)
        sampleRoot).afterL3 (sampleStart 0)).1 = none :=
    (sample_missingL3 samplePoliteRequest 0).1.mpr rfl
  constructor
  · intro hStores
    exact absurd hNone hStores.hComplete.hL3
  · intro _ _ hCreates
    exact absurd hNone hCreates.hL3
  · intro _ _ hCreates
    exact absurd hNone hCreates.hL3
  · intro _ _
    exact
      Or.inr ⟨by decide, by decide, by decide, by decide⟩

/- Where one call fails, its root entry alone may change. -/
private theorem root_kept_of_harmless
    {allocator : Nat → Addr}
    {rootPageTable : Addr}
    {request : MapRequest}
    {s : PagingState}
    (hHarmless :
      ∀ taken ∈ bootRun allocator rootPageTable [request] s,
        FailureHarmless rootPageTable taken)
    (hFails :
      (bootStep allocator rootPageTable request s).1 ≠
        .NoError)
    {idx : Word}
    (hIdx : idx.toNat < 512)
    (hOther : idx ≠ l4Idx request.virtAddress) :
    (bootStep allocator rootPageTable request s).2.word
        (entryAddress rootPageTable idx) =
      s.word (entryAddress rootPageTable idx) :=
  (hHarmless _
    (head_mem_bootRun allocator rootPageTable request []
      s)).hRoot hFails idx hIdx hOther

/-
  With frames for two tables the first call fails, and it
  leaves its L2 table in a root entry of another region.
-/
theorem failureHarmless_fails :
    ZeroedRoot sampleRoot (sampleStart 0) ∧
      FreshFrames (sampleShortAllocator 2) sampleRoot
        (bootFinal (sampleShortAllocator 2) sampleRoot
          [sampleRequest] (sampleStart 0)).frames ∧
      (bootStep (sampleShortAllocator 2) sampleRoot
        sampleRequest (sampleStart 0)).1 = .AllocFailed ∧
      ¬ ∀ taken ∈
        bootRun (sampleShortAllocator 2) sampleRoot
          [sampleRequest] (sampleStart 0),
        FailureHarmless sampleRoot taken := by
  have hStart := sample_zeroedRoot 0
  have hFresh :
      FreshFrames (sampleShortAllocator 2) sampleRoot
        (bootFinal (sampleShortAllocator 2) sampleRoot
          [sampleRequest] (sampleStart 0)).frames :=
    sample_shortFrames (frames_le_bootFinal _ _ _ _).2
  let w :=
    sampleRequest.walk (sampleShortAllocator 2) sampleRoot
  have hL3 := sample_missingL3 sampleRequest 2
  rcases sample_noTables hFresh with ⟨hFoundL2, hFoundL1⟩
  have hL2 :=
    (w.afterL2_outcome (sampleStart 0)).of_missing hFoundL2
  have hL1 :=
    (w.afterL1_outcome (sampleStart 0)).of_missing hFoundL1
  have hSomeL3 : (w.afterL3 (sampleStart 0)).1 ≠ none := by
    rw [ne_eq, hL3.1]
    decide
  have hSomeL2 : (w.afterL2 (sampleStart 0)).1 ≠ none := by
    rw [ne_eq, hL2.1, hL3.2]
    decide
  have hNoneL1 : (w.afterL1 (sampleStart 0)).1 = none := by
    rw [hL1.1, hL2.2, hL3.2]
    decide
  have hStep :=
    bootStep_of_noL1
      (passes_of_rootClear sample_rootClear (by decide))
      hSomeL3 hSomeL2 hNoneL1
  have hLinked :=
    root_linked_of_createsL2 hFresh hStart.hAligned
      hStart.hNonzero
      (⟨hSomeL3, hFoundL2, by rw [hL3.2]; decide⟩ :
        w.CreatesL2 (sampleStart 0))
  refine ⟨hStart, hFresh, hStep.1, ?_⟩
  intro hHarmless
  have hOther :
      l3Idx sampleRequest.virtAddress ≠
        l4Idx sampleRequest.virtAddress := by
    decide
  have hSame :=
    root_kept_of_harmless hHarmless
      (by rw [hStep.1]; simp) (l3Idx_lt _) hOther
  rw [hStep.2, hStart.hZero _ (l3Idx_lt _)] at hSame
  exact hLinked hSame

end Paginator

end Chihuahua
