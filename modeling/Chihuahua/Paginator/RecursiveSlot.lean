import Chihuahua.Paginator.RootController

/-
  The self-map entries of the tables `mapPage` creates.

  The code stores the self-map of a new table through the
  address it decodes from the table's entry, which is not
  the table. The slot in the table itself stays zero.

  Main declarations:
    * `SelfMapsIntact`, `NoSelfMapWalk` and `NoFalseExists`
    * `RecursiveSlotSafe`
    * `recursiveSlotSafe_iff`
-/

------------------------------------------------------------
-- Recursive-Slot Safety
------------------------------------------------------------

namespace Chihuahua

namespace Paginator

open ByteMachine

namespace TableRecord

/- The slot a table is to map itself in. -/
def selfMapSlot (record : TableRecord) : Addr :=
  entryAddress record.frame RECURSIVE_INDEX

end TableRecord

/- Every table created so far maps itself. -/
def SelfMapsIntact (s : PagingState) : Prop :=
  ∀ record ∈ s.tables,
    s.word record.selfMapSlot = tableEntry record.frame

/-
  An accepted address does not lead through a self-map, be
  it of a table that was there or one the call created.
-/
def NoSelfMapWalk
    (allocator : Nat → Addr)
    (rootPageTable : Addr)
    (taken : MapStep) : Prop :=
  signExtensionOk taken.input.virtAddress = true →
    ∀ record ∈ taken.after.tables,
      let w := taken.input.walk allocator rootPageTable
      w.slotL3 ≠ record.selfMapSlot ∧
        w.slotL2 taken.before ≠ record.selfMapSlot ∧
        w.slotL1 taken.before ≠ record.selfMapSlot ∧
        w.slotLeaf taken.before ≠ record.selfMapSlot

/- Both addresses lie in one page. -/
def SamePage (v v' : Addr) : Prop :=
  v >>> P1_SHIFT = v' >>> P1_SHIFT

/- Only a page that was mapped before can exist already. -/
def NoFalseExists
    (past : List MapStep)
    (taken : MapStep) : Prop :=
  taken.output = .EntryExists →
    ∃ earlier ∈ past,
      earlier.output = .NoError ∧
        SamePage earlier.input.virtAddress
          taken.input.virtAddress

structure RecursiveSlotSafe
    (allocator : Nat → Addr)
    (rootPageTable : Addr)
    (requests : List MapRequest)
    (s : PagingState) : Prop where
  hIntact :
    ∀ t,
      Transition.Reached (bootStep allocator rootPageTable)
          requests s t →
        SelfMapsIntact t
  hWalks :
    ∀ taken ∈ bootRun allocator rootPageTable requests s,
      NoSelfMapWalk allocator rootPageTable taken
  hExists :
    ∀ past taken future,
      bootRun allocator rootPageTable requests s =
          past ++ taken :: future →
        NoFalseExists past taken

------------------------------------------------------------
-- The First Accepted Address
------------------------------------------------------------

section Runs

variable {allocator : Nat → Addr} {rootPageTable : Addr}
variable {calls : Nat} {s : PagingState}

/- A created L3 table does not map itself. -/
private structure Unmapped
    (v frame : Addr)
    (s : PagingState) : Prop where
  hRecord : ⟨.L3, frame, v⟩ ∈ s.tables
  hWord : s.word (entryAddress frame RECURSIVE_INDEX) = 0

variable (hStart : ZeroedRoot rootPageTable s)
variable (hFresh : FreshFrames allocator rootPageTable calls)
variable (hSucceeds : ∀ n, allocator n ≠ 0)

include hFresh hSucceeds in
private theorem keeps_unmapped
    (hRoot : Aligned 4096 rootPageTable)
    (w : Walk)
    (hAllocator : w.allocator = allocator)
    (hTable : w.rootPageTable = rootPageTable)
    (v : Addr)
    (n : Nat) :
    w.Keeps (Unmapped v (allocator n)) where
  hFail t hUnmapped := ⟨hUnmapped.hRecord, hUnmapped.hWord⟩
  hCreate t level idx hUnmapped hIdx _ := by
    refine
      ⟨List.mem_cons_of_mem _ hUnmapped.hRecord, ?_⟩
    rw [hAllocator, hTable,
      word_createTable_table hRoot (hFresh.hAligned _)
        (hFresh.hAligned n) (hSucceeds n) (hFresh.hRoot n)
        t _ level hIdx (by decide)]
    split_ifs
    · rfl
    · exact hUnmapped.hWord

include hStart hFresh hSucceeds

/- After the walk the new L3 table is still unmapped. -/
private theorem unmapped_afterL1
    (request : MapRequest) :
    Unmapped request.virtAddress (allocator s.frames)
      ((request.walk allocator rootPageTable).afterL1
        s).2 := by
  have hKeeps :=
    keeps_unmapped hFresh hSucceeds hStart.hAligned
      (request.walk allocator rootPageTable) rfl rfl
      request.virtAddress s.frames
  have hFound :
      s.word
          (request.walk allocator rootPageTable).slotL3 =
        0 :=
    hStart.hZero _ (l4Idx_lt _)
  have hL3 :
      Unmapped request.virtAddress (allocator s.frames)
        ((request.walk allocator rootPageTable).afterL3
          s).2 := by
    have hOutcome :=
      (request.walk allocator rootPageTable).afterL3_outcome
        s
    rcases hResult :
        (request.walk allocator rootPageTable).afterL3 s with
      ⟨entry, after⟩
    rw [hResult] at hOutcome
    cases hOutcome with
    | present hPresent => exact absurd hFound hPresent
    | failed _ hAlloc => exact absurd hAlloc (hSucceeds _)
    | created _ hAlloc =>
        refine ⟨List.mem_cons_self, ?_⟩
        exact
          (word_createTable_table hStart.hAligned
            (hFresh.hAligned _) (hFresh.hAligned _)
            (hSucceeds _) (hFresh.hRoot _) s _ .L3
            (l4Idx_lt _) (by decide)).trans
            (if_pos rfl)
  exact
    ((Walk.afterL1_outcome _ s).preserves hKeeps
      (l2Idx_lt _))
      (((Walk.afterL2_outcome _ s).preserves hKeeps
        (l3Idx_lt _)) hL3)

/-
  The first accepted call breaks the invariant, unless it
  stores its leaf right into the slot of the self-map.
-/
private theorem not_intact_of_accepted
    {request : MapRequest}
    (hSign : signExtensionOk request.virtAddress = true)
    (hWalk :
      NoSelfMapWalk allocator rootPageTable
        { before := s
          input := request
          output :=
            (bootStep allocator rootPageTable request s).1
          after :=
            (bootStep allocator rootPageTable request
              s).2 }) :
    ¬ SelfMapsIntact
      (bootStep allocator rootPageTable request s).2 := by
  have hUnmapped :=
    unmapped_afterL1 hStart hFresh hSucceeds request
  have hStep :=
    bootStep_of_rootClear (s := s) hSucceeds
      (hStart.rootWords getAddrFromEntry_zero) hSign
  intro hIntact
  dsimp only at hStep
  split_ifs at hStep with hStops
  · rw [hStep] at hIntact
    have hEntry := hIntact _ hUnmapped.hRecord
    exact
      tableEntry_ne_zero _
        (hEntry.symm.trans hUnmapped.hWord)
  · rw [hStep] at hIntact hWalk
    have hEntry := hIntact _ hUnmapped.hRecord
    have hSlot :
        (request.walk allocator rootPageTable).slotLeaf s ≠
          entryAddress (allocator s.frames)
            RECURSIVE_INDEX :=
      (hWalk hSign _ hUnmapped.hRecord).2.2.2
    have hAligned :=
      (request.walk allocator
        rootPageTable).aligned_slotLeaf s
    have hKept :=
      PagingState.word_storeLeaf
        ((request.walk allocator rootPageTable).afterL1 s).2
        (constructTableEntry request.physAddress
          request.flags)
        hAligned
        (aligned_entryAddress
          (aligned_word_of_page (hFresh.hAligned s.frames))
          RECURSIVE_INDEX)
    rw [if_neg hSlot.symm, hUnmapped.hWord] at hKept
    exact tableEntry_ne_zero _ (hEntry.symm.trans hKept)

/- So no run that is safe accepts an address. -/
private theorem rejected_of_safe
    {requests : List MapRequest}
    (hSafe :
      RecursiveSlotSafe allocator rootPageTable requests s) :
    ∀ request ∈ requests,
      signExtensionOk request.virtAddress = false := by
  have hIntact := hSafe.hIntact
  have hWalks := hSafe.hWalks
  clear hSafe
  induction requests with
  | nil => simp
  | cons first requests ih =>
      cases hSign : signExtensionOk first.virtAddress with
      | true =>
          have hMember :=
            head_mem_bootRun allocator rootPageTable first
              requests s
          exact
            absurd
              (hIntact _ (Transition.reached_after hMember))
              (not_intact_of_accepted hStart hFresh
                hSucceeds hSign (hWalks _ hMember))
      | false =>
          have hStep :
              bootStep allocator rootPageTable first s =
                (.InvalidVirtAddress, s) :=
            bootStep_of_rejected hSign
          have hRun :
              bootRun allocator rootPageTable
                  (first :: requests) s =
                ⟨s, first, .InvalidVirtAddress, s⟩ ::
                  bootRun allocator rootPageTable requests
                    s := by
            simp only [bootRun, Transition.run, hStep]
          intro request hRequest
          rcases List.mem_cons.mp hRequest with rfl | hLater
          · exact hSign
          · refine ih ?_ ?_ request hLater
            · intro t hReached
              apply hIntact
              rcases hReached with rfl | ⟨taken, hTaken, hEq⟩
              · exact Or.inl rfl
              · right
                refine ⟨taken, ?_, hEq⟩
                show taken ∈ bootRun _ _ _ _
                rw [hRun]
                exact List.mem_cons_of_mem _ hTaken
            · intro taken hTaken
              apply hWalks
              rw [hRun]
              exact List.mem_cons_of_mem _ hTaken

end Runs

/- A run that accepts no address creates no table. -/
private theorem run_of_rejected
    {allocator : Nat → Addr}
    {rootPageTable : Addr}
    {requests : List MapRequest}
    {s : PagingState}
    (hRejected :
      ∀ request ∈ requests,
        signExtensionOk request.virtAddress = false) :
    ∀ taken ∈ bootRun allocator rootPageTable requests s,
      taken.output = .InvalidVirtAddress ∧
        taken.after = s := by
  have hStep :
      ∀ taken ∈ bootRun allocator rootPageTable requests s,
        taken.output = .InvalidVirtAddress ∧
          taken.after = taken.before := by
    intro taken hTaken
    rcases Transition.step_of_mem_run hTaken with
      ⟨hInput, hStep⟩
    rw [bootStep_of_rejected (hRejected _ hInput),
      Prod.mk.injEq] at hStep
    exact ⟨hStep.1.symm, hStep.2.symm⟩
  intro taken hTaken
  refine ⟨(hStep taken hTaken).1, ?_⟩
  exact
    (Transition.run_invariant (fun t => t = s) rfl
      (fun other hOther hSame =>
        (hStep other hOther).2.trans hSame)
      taken hTaken).2

------------------------------------------------------------
-- Which Runs Are Safe
------------------------------------------------------------

/-
  The recursive slots are safe only as long as no address
  passes the check of its upper bits.
-/
theorem recursiveSlotSafe_iff
    {allocator : Nat → Addr}
    {rootPageTable : Addr}
    {requests : List MapRequest}
    {s : PagingState}
    (hStart : ZeroedRoot rootPageTable s)
    (hFresh :
      FreshFrames allocator rootPageTable
        (bootFinal allocator rootPageTable requests
          s).frames)
    (hSucceeds : ∀ n, allocator n ≠ 0) :
    RecursiveSlotSafe allocator rootPageTable requests s ↔
      ∀ request ∈ requests,
        signExtensionOk request.virtAddress = false := by
  constructor
  · exact rejected_of_safe hStart hFresh hSucceeds
  · intro hRejected
    have hRun :
        ∀ taken ∈
          bootRun allocator rootPageTable requests s,
          taken.output = .InvalidVirtAddress ∧
            taken.after = s :=
      run_of_rejected hRejected
    have hNoTable :
        ∀ t,
          Transition.Reached
              (bootStep allocator rootPageTable) requests s
              t →
            t.tables = [] := by
      rintro t (rfl | ⟨taken, hTaken, rfl⟩)
      · exact hStart.hTables
      · rw [(hRun taken hTaken).2]
        exact hStart.hTables
    constructor
    · intro t hReached record hRecord
      simp [hNoTable t hReached] at hRecord
    · intro taken hTaken _ record hRecord
      simp [hNoTable _ (Transition.reached_after hTaken)]
        at hRecord
    · intro past taken future hSplit hOutput
      have hMember :
          taken ∈
            bootRun allocator rootPageTable requests s := by
        rw [hSplit]
        simp
      rw [(hRun taken hMember).1] at hOutput
      cases hOutput

private theorem sample_oneRequest :
    FreshFrames sampleAllocator sampleRoot
      (bootFinal sampleAllocator sampleRoot [sampleRequest]
        (sampleStart 0)).frames :=
  sample_freshFrames (frames_le_bootFinal _ _ _ _).2

theorem recursiveSlotSafe_iff_sample :
    RecursiveSlotSafe sampleAllocator sampleRoot
        [sampleRequest] (sampleStart 0) ↔
      ∀ request ∈ [sampleRequest],
        signExtensionOk request.virtAddress = false :=
  recursiveSlotSafe_iff (sample_zeroedRoot 0)
    sample_oneRequest sample_succeeds

/- The first page mapped leaves its tables unmapped. -/
theorem recursiveSlotSafe_fails :
    ZeroedRoot sampleRoot (sampleStart 0) ∧
      FreshFrames sampleAllocator sampleRoot
        (bootFinal sampleAllocator sampleRoot
          [sampleRequest] (sampleStart 0)).frames ∧
      (∀ n, sampleAllocator n ≠ 0) ∧
      Canonical sampleRequest.virtAddress ∧
      ¬ RecursiveSlotSafe sampleAllocator sampleRoot
        [sampleRequest] (sampleStart 0) := by
  refine
    ⟨sample_zeroedRoot 0, sample_oneRequest,
      sample_succeeds, by decide, ?_⟩
  intro hSafe
  have hRejected :=
    rejected_of_safe (sample_zeroedRoot 0) sample_oneRequest
      sample_succeeds hSafe sampleRequest (by simp)
  have hAccepted :
      signExtensionOk sampleRequest.virtAddress = true := by
    decide
  exact absurd (hAccepted.symm.trans hRejected) (by decide)

end Paginator

end Chihuahua
