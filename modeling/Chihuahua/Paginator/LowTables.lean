import Chihuahua.Paginator.RootController

/-
  Where the tables of a page are looked for.

  The address of a frame decodes to zero, so the page at
  address zero stands for the L3, L2 and L1 table of every
  page of memory at once. One word of it is the leaf of all
  pages with the same last index.

  Main declarations:
    * `TablesAtZero` and `foundLeaf_of_tablesAtZero`
    * `tablesMissing` and `complete_iff`
    * `StoresLeaf` and `noError_iff_storesLeaf`
    * `word_low_bootStep` and `root_linked_bootStep`
    * `tablesAtZero_of_reached`
    * `lowWord_ne_zero_iff` and `root_ne_zero_of_mapped`
-/

------------------------------------------------------------
-- Frames That Are Asked For
------------------------------------------------------------

namespace Chihuahua

namespace Paginator

open ByteMachine

/-
  The allocator was asked before, and answers each of the
  calls that are wanted now with a frame.
-/
def Answers
    (allocator : Nat → Addr)
    (asked wanted : Nat) : Prop :=
  ∀ n, n < wanted → allocator (asked + n) ≠ 0

theorem answers_add
    (allocator : Nat → Addr)
    (asked first second : Nat) :
    Answers allocator asked (first + second) ↔
      Answers allocator asked first ∧
        Answers allocator (asked + first) second := by
  constructor
  · intro hAnswers
    constructor
    · intro n hN
      exact hAnswers n (by omega)
    · intro n hN
      rw [Nat.add_assoc]
      exact hAnswers (first + n) (by omega)
  · rintro ⟨hFirst, hSecond⟩ n hN
    by_cases hEarly : n < first
    · exact hFirst n hEarly
    · have hLate := hSecond (n - first) (by omega)
      have hSame :
          asked + first + (n - first) = asked + n := by
        omega
      rw [hSame] at hLate
      exact hLate

/- An empty entry stands for one table that is missing. -/
def missing (entry : Word) : Nat :=
  if entry = 0 then 1 else 0

theorem answers_missing
    (allocator : Nat → Addr)
    (asked : Nat)
    (entry : Word) :
    Answers allocator asked (missing entry) ↔
      (entry = 0 → allocator asked ≠ 0) := by
  unfold Answers missing
  split_ifs with hEntry
  · constructor
    · intro hGiven _
      exact hGiven 0 Nat.one_pos
    · intro hGiven n hN
      obtain rfl : n = 0 := by omega
      exact hGiven hEntry
  · exact
      iff_of_true (fun n hN => absurd hN (Nat.not_lt_zero n))
        (fun hEmpty => absurd hEmpty hEntry)

namespace Walk

variable {w : Walk} {s : PagingState}
variable {level : TableLevel} {slot : Addr} {idx : Word}
variable {result : Option Word × PagingState}

theorem BlockOutcome.ne_none_iff
    (hOutcome : w.BlockOutcome s level slot idx result) :
    result.1 ≠ none ↔
      Answers w.allocator s.frames
        (missing (s.word slot)) := by
  rw [answers_missing]
  cases hOutcome with
  | present hFound =>
      exact
        iff_of_true (Option.some_ne_none _) (fun hEmpty =>
          absurd hEmpty hFound)
  | failed hFound hAlloc =>
      exact
        iff_of_false (not_not.mpr rfl) (fun hGiven =>
          hGiven hFound hAlloc)
  | created _ hAlloc =>
      exact
        iff_of_true (Option.some_ne_none _) (fun _ => hAlloc)

theorem BlockOutcome.frames_eq
    (hOutcome : w.BlockOutcome s level slot idx result) :
    result.2.frames = s.frames + missing (s.word slot) := by
  unfold missing
  cases hOutcome with
  | present hFound => rw [if_neg hFound, Nat.add_zero]
  | failed hFound _ => rw [if_pos hFound]; rfl
  | created hFound _ => rw [if_pos hFound]; rfl

end Walk

------------------------------------------------------------
-- One Call
------------------------------------------------------------

theorem aligned_lowSlot (idx : Word) :
    Aligned 8 (lowSlot idx) :=
  aligned_entryAddress (aligned_zero 8) idx

/- A leaf in page zero lies outside the root. -/
theorem word_root_storeLeaf
    {rootPageTable : Addr}
    (hRoot : Aligned 4096 rootPageTable)
    (hNonzero : rootPageTable ≠ 0)
    {s : PagingState}
    {entry idx i : Word}
    (hI : i.toNat < 512)
    (hIdx : idx.toNat < 512) :
    (s.storeLeaf (lowSlot idx) entry).word
        (entryAddress rootPageTable i) =
      s.word (entryAddress rootPageTable i) :=
  PagingState.word_storeLeaf_of_outside s entry hRoot
    (aligned_lowSlot idx)
    (not_inRange_lowSlot hRoot hNonzero hIdx) hI

/- Every table of the page is taken to be at address zero. -/
structure TablesAtZero
    (rootPageTable virtAddress : Addr)
    (s : PagingState) : Prop where
  hRoot : RootClear rootPageTable s
  hL3 :
    getAddrFromEntry
        (s.word (lowSlot (l3Idx virtAddress))) =
      0
  hL2 :
    getAddrFromEntry
        (s.word (lowSlot (l2Idx virtAddress))) =
      0

/- How many tables a walk for the page has to create. -/
def tablesMissing
    (rootPageTable virtAddress : Addr)
    (s : PagingState) : Nat :=
  missing
      (s.word
        (entryAddress rootPageTable (l4Idx virtAddress))) +
    missing (s.word (lowSlot (l3Idx virtAddress))) +
    missing (s.word (lowSlot (l2Idx virtAddress)))

/-
  A call that stores its leaf: each table that is missing
  gets a frame, and the leaf is empty or overwritten.
-/
structure StoresLeaf
    (allocator : Nat → Addr)
    (rootPageTable : Addr)
    (request : MapRequest)
    (s : PagingState) : Prop where
  hAnswers :
    Answers allocator s.frames
      (tablesMissing rootPageTable request.virtAddress s)
  hLeaf :
    s.word (lowSlot (l1Idx request.virtAddress)) = 0 ∨
      request.forceWrite = true

section Call

variable {allocator : Nat → Addr} {rootPageTable : Addr}
variable {calls : Nat} {request : MapRequest}
variable {s : PagingState}
variable (hFresh : FreshFrames allocator rootPageTable calls)
variable (hRoot : Aligned 4096 rootPageTable)
variable (hNonzero : rootPageTable ≠ 0)

include hFresh hRoot hNonzero

/- Creating tables leaves the words of page zero alone. -/
section Low

variable {i : Word}
variable (hI : i.toNat < 512) (hOther : i ≠ RECURSIVE_INDEX)

include hI hOther

theorem word_low_afterL3 :
    ((request.walk allocator rootPageTable).afterL3
        s).2.word (lowSlot i) =
      s.word (lowSlot i) :=
  word_low_of_blockOutcome hFresh hRoot hNonzero
    (Walk.afterL3_outcome _ s) (l4Idx_lt _) hI hOther

theorem word_low_afterL2 :
    ((request.walk allocator rootPageTable).afterL2
        s).2.word (lowSlot i) =
      s.word (lowSlot i) :=
  (word_low_of_blockOutcome hFresh hRoot hNonzero
    (Walk.afterL2_outcome _ s) (l3Idx_lt _) hI
    hOther).trans
    (word_low_afterL3 hFresh hRoot hNonzero hI hOther)

theorem word_low_afterL1 :
    ((request.walk allocator rootPageTable).afterL1
        s).2.word (lowSlot i) =
      s.word (lowSlot i) :=
  (word_low_of_blockOutcome hFresh hRoot hNonzero
    (Walk.afterL1_outcome _ s) (l2Idx_lt _) hI
    hOther).trans
    (word_low_afterL2 hFresh hRoot hNonzero hI hOther)

end Low

/- A link in the root is not taken out again. -/
theorem keeps_root_ne_zero
    {i : Word}
    (hI : i.toNat < 512) :
    (request.walk allocator rootPageTable).Keeps
      (fun t =>
        t.word (entryAddress rootPageTable i) ≠ 0) where
  hFail t hLinked := hLinked
  hCreate t level idx hLinked hIdx _ := by
    refine ne_of_eq_of_ne
      (word_createTable_root hRoot (hFresh.hAligned _)
        hNonzero (hFresh.hRoot _) t _ level hIdx hI) ?_
    split_ifs
    · exact tableEntry_ne_zero _
    · exact hLinked

/- Past a block there is an entry where it looked for one. -/
theorem linked_of_blockOutcome
    {level : TableLevel}
    {idx : Word}
    {result : Option Word × PagingState}
    (hOutcome :
      (request.walk allocator rootPageTable).BlockOutcome s
        level (entryAddress rootPageTable idx) idx result)
    (hIdx : idx.toNat < 512)
    (hComplete : result.1 ≠ none) :
    result.2.word (entryAddress rootPageTable idx) ≠ 0 := by
  cases hOutcome with
  | present hFound => exact hFound
  | failed _ _ => exact absurd rfl hComplete
  | created _ _ =>
      exact
        ne_of_eq_of_ne
          (word_createTable_linked hRoot
            (hFresh.hAligned _) hNonzero (hFresh.hRoot _) s
            _ level hIdx)
          (tableEntry_ne_zero _)

variable
  (hTables :
    TablesAtZero rootPageTable request.virtAddress s)
variable (hIndices : NoRecursiveIndex request.virtAddress)

include hTables hIndices

theorem foundL2_of_tablesAtZero :
    (request.walk allocator rootPageTable).foundL2 s =
      s.word (lowSlot (l3Idx request.virtAddress)) :=
  foundL2_of_rootClear hFresh hRoot hNonzero hTables.hRoot
    hIndices.hL3

theorem foundL1_of_tablesAtZero :
    (request.walk allocator rootPageTable).foundL1 s =
      s.word (lowSlot (l2Idx request.virtAddress)) := by
  refine
    foundL1_of_decoded hFresh hRoot hNonzero ?_ hIndices.hL2
  rw [foundL2_of_tablesAtZero hFresh hRoot hNonzero hTables
    hIndices]
  exact hTables.hL3

theorem slotLeaf_of_tablesAtZero :
    (request.walk allocator rootPageTable).slotLeaf s =
      lowSlot (l1Idx request.virtAddress) := by
  refine slotLeaf_of_decoded hFresh ?_
  rw [foundL1_of_tablesAtZero hFresh hRoot hNonzero hTables
    hIndices]
  exact hTables.hL2

/- The leaf a walk reads was there before the call. -/
theorem foundLeaf_of_tablesAtZero :
    (request.walk allocator rootPageTable).foundLeaf s =
      s.word (lowSlot (l1Idx request.virtAddress)) := by
  unfold Walk.foundLeaf
  rw [slotLeaf_of_tablesAtZero hFresh hRoot hNonzero hTables
    hIndices]
  exact
    word_low_afterL1 hFresh hRoot hNonzero (l1Idx_lt _)
      hIndices.hL1

/- A walk ends if there is a frame for each missing table. -/
theorem complete_iff :
    (request.walk allocator rootPageTable).Complete s ↔
      Answers allocator s.frames
        (tablesMissing rootPageTable request.virtAddress
          s) := by
  let w := request.walk allocator rootPageTable
  have hFoundL2 :
      (w.afterL3 s).2.word (w.slotL2 s) =
        s.word (lowSlot (l3Idx request.virtAddress)) :=
    foundL2_of_tablesAtZero hFresh hRoot hNonzero hTables
      hIndices
  have hFoundL1 :
      (w.afterL2 s).2.word (w.slotL1 s) =
        s.word (lowSlot (l2Idx request.virtAddress)) :=
    foundL1_of_tablesAtZero hFresh hRoot hNonzero hTables
      hIndices
  have hL3 := (w.afterL3_outcome s).ne_none_iff
  have hL2 := (w.afterL2_outcome s).ne_none_iff
  have hL1 := (w.afterL1_outcome s).ne_none_iff
  rw [hFoundL2, (w.afterL3_outcome s).frames_eq] at hL2
  rw [hFoundL1, (w.afterL2_outcome s).frames_eq, hFoundL2,
    (w.afterL3_outcome s).frames_eq] at hL1
  unfold tablesMissing
  rw [answers_add, answers_add, ← Nat.add_assoc]
  constructor
  · rintro ⟨hSomeL3, hSomeL2, hSomeL1⟩
    exact
      ⟨⟨hL3.mp hSomeL3, hL2.mp hSomeL2⟩, hL1.mp hSomeL1⟩
  · rintro ⟨⟨hGivenL3, hGivenL2⟩, hGivenL1⟩
    exact
      ⟨hL3.mpr hGivenL3, hL2.mpr hGivenL2,
        hL1.mpr hGivenL1⟩

theorem noError_iff_storesLeaf
    (hSign : signExtensionOk request.virtAddress = true) :
    (bootStep allocator rootPageTable request s).1 =
        .NoError ↔
      StoresLeaf allocator rootPageTable request s := by
  let w := request.walk allocator rootPageTable
  have hPasses : w.Passes s request.forceWrite :=
    passes_of_rootClear hTables.hRoot hSign
  have hComplete :=
    complete_iff hFresh hRoot hNonzero hTables hIndices
  have hFound :=
    foundLeaf_of_tablesAtZero hFresh hRoot hNonzero hTables
      hIndices
  have hStores :
      StoresLeaf allocator rootPageTable request s ↔
        w.Complete s ∧
          (w.foundLeaf s = 0 ∨
            request.forceWrite = true) := by
    rw [hComplete, hFound]
    exact
      ⟨fun hLeaf => ⟨hLeaf.hAnswers, hLeaf.hLeaf⟩,
        fun hLeaf => ⟨hLeaf.1, hLeaf.2⟩⟩
  rw [hStores]
  have hOutcome :=
    bootStep_outcome allocator rootPageTable request s
  generalize
    bootStep allocator rootPageTable request s = result
      at hOutcome ⊢
  cases hOutcome with
  | invalid hInvalid =>
      exact absurd (hSign.symm.trans hInvalid) (by decide)
  | mapped _ hForce hMapped =>
      exact
        absurd
          (hPasses.hMapped.resolve_left (by simp [hForce]))
          hMapped
  | noL3 _ hL3 =>
      exact
        iff_of_false nofun (fun hLeaf => hLeaf.1.hL3 hL3)
  | noL2 _ _ hL2 =>
      exact
        iff_of_false nofun (fun hLeaf => hLeaf.1.hL2 hL2)
  | noL1 _ _ _ hL1 =>
      exact
        iff_of_false nofun (fun hLeaf => hLeaf.1.hL1 hL1)
  | taken _ _ hLeaf hForce =>
      refine iff_of_false nofun ?_
      rintro ⟨_, hEmpty | hOverwrites⟩
      · exact hLeaf hEmpty
      · simp [hForce] at hOverwrites
  | stored _ hWalk hLeaf =>
      exact iff_of_true rfl ⟨hWalk, hLeaf⟩

/- A call changes no word of page zero but for its leaf. -/
theorem word_low_bootStep
    {i : Word}
    (hI : i.toNat < 512)
    (hOther : i ≠ RECURSIVE_INDEX) :
    (bootStep allocator rootPageTable request s).2.word
        (lowSlot i) =
      if (bootStep allocator rootPageTable request s).1 =
            .NoError ∧
          l1Idx request.virtAddress = i then
        constructTableEntry request.physAddress
          request.flags
      else s.word (lowSlot i) := by
  have hOutcome :=
    bootStep_outcome allocator rootPageTable request s
  generalize
    bootStep allocator rootPageTable request s = result
      at hOutcome ⊢
  cases hOutcome with
  | invalid _ => rfl
  | mapped _ _ _ => rfl
  | noL3 _ _ =>
      exact word_low_afterL3 hFresh hRoot hNonzero hI hOther
  | noL2 _ _ _ =>
      exact word_low_afterL2 hFresh hRoot hNonzero hI hOther
  | noL1 _ _ _ _ =>
      exact word_low_afterL1 hFresh hRoot hNonzero hI hOther
  | taken _ _ _ _ =>
      exact word_low_afterL1 hFresh hRoot hNonzero hI hOther
  | stored _ _ _ =>
      rw [slotLeaf_of_tablesAtZero hFresh hRoot hNonzero
        hTables hIndices]
      dsimp only
      rw [PagingState.word_storeLeaf _ _
        (aligned_lowSlot _) (aligned_lowSlot _),
        word_low_afterL1 hFresh hRoot hNonzero hI hOther]
      by_cases hSame : l1Idx request.virtAddress = i
      · rw [if_pos (by rw [hSame]), if_pos ⟨rfl, hSame⟩]
      · have hSlot :
            lowSlot i ≠
              lowSlot (l1Idx request.virtAddress) := by
          intro hEq
          exact
            hSame
              (entryAddress_inj hI (l1Idx_lt _) hEq).symm
        rw [if_neg hSlot, if_neg (fun hBoth =>
          hSame hBoth.2)]

/- A leaf is no entry of the root, so a link stays there. -/
theorem root_ne_zero_bootStep
    {i : Word}
    (hI : i.toNat < 512)
    (hLinked :
      s.word (entryAddress rootPageTable i) ≠ 0) :
    (bootStep allocator rootPageTable request s).2.word
        (entryAddress rootPageTable i) ≠
      0 := by
  have hKeeps :
      (request.walk allocator rootPageTable).Keeps
        (fun t =>
          t.word (entryAddress rootPageTable i) ≠ 0) :=
    keeps_root_ne_zero hFresh hRoot hNonzero hI
  refine
    (bootStep_outcome allocator rootPageTable request
      s).preserves hKeeps ?_ hLinked
  intro _ t hT
  rw [slotLeaf_of_tablesAtZero hFresh hRoot hNonzero
    hTables hIndices]
  rw [word_root_storeLeaf hRoot hNonzero hI (l1Idx_lt _)]
  exact hT

/- A call that succeeds links its L3 table from the root. -/
theorem root_linked_bootStep
    (hOutput :
      (bootStep allocator rootPageTable request s).1 =
        .NoError) :
    (bootStep allocator rootPageTable request s).2.word
        (entryAddress rootPageTable
          (l4Idx request.virtAddress)) ≠
      0 := by
  let w := request.walk allocator rootPageTable
  have hOutcome :=
    bootStep_outcome allocator rootPageTable request s
  generalize
    bootStep allocator rootPageTable request s = result
      at hOutcome hOutput ⊢
  cases hOutcome with
  | invalid _ => exact absurd hOutput nofun
  | mapped _ _ _ => exact absurd hOutput nofun
  | noL3 _ _ => exact absurd hOutput nofun
  | noL2 _ _ _ => exact absurd hOutput nofun
  | noL1 _ _ _ _ => exact absurd hOutput nofun
  | taken _ _ _ _ => exact absurd hOutput nofun
  | stored _ hComplete _ =>
      have hKeeps :
          w.Keeps (fun t =>
            t.word
                (entryAddress rootPageTable
                  (l4Idx request.virtAddress)) ≠
              0) :=
        keeps_root_ne_zero hFresh hRoot hNonzero (l4Idx_lt _)
      have hL3 :
          (w.afterL3 s).2.word
              (entryAddress rootPageTable
                (l4Idx request.virtAddress)) ≠
            0 :=
        linked_of_blockOutcome hFresh hRoot hNonzero
          (w.afterL3_outcome s) (l4Idx_lt _) hComplete.hL3
      have hL1 :=
        (w.afterL1_outcome s).preserves hKeeps (l2Idx_lt _)
          ((w.afterL2_outcome s).preserves hKeeps
            (l3Idx_lt _) hL3)
      dsimp only
      rw [slotLeaf_of_tablesAtZero hFresh hRoot hNonzero
        hTables hIndices]
      rw [word_root_storeLeaf hRoot hNonzero (l4Idx_lt _)
        (l1Idx_lt _)]
      exact hL1

end Call

------------------------------------------------------------
-- Runs
------------------------------------------------------------

/-
  In the state a run starts in the words the request takes
  for tables decode to zero, as empty ones do, and so does
  the entry of its leaf, as that of any aligned address.
-/
structure DecodesToZero
    (s : PagingState)
    (request : MapRequest) : Prop where
  hL3 :
    getAddrFromEntry
        (s.word (lowSlot (l3Idx request.virtAddress))) =
      0
  hL2 :
    getAddrFromEntry
        (s.word (lowSlot (l2Idx request.virtAddress))) =
      0
  hLeaf : request.physAddress &&& (40 : Word) = 0

/- An earlier call stored the leaf of the given index. -/
def LeafStored
    (past : List MapStep)
    (idx : Word) : Prop :=
  ∃ earlier ∈ past,
    earlier.output = .NoError ∧
      l1Idx earlier.input.virtAddress = idx

theorem leafStored_concat
    (past : List MapStep)
    (taken : MapStep)
    (idx : Word) :
    LeafStored (past ++ [taken]) idx ↔
      LeafStored past idx ∨
        taken.output = .NoError ∧
          l1Idx taken.input.virtAddress = idx := by
  simp [LeafStored, or_and_right, exists_or]

section Runs

variable {allocator : Nat → Addr} {rootPageTable : Addr}
variable {calls : Nat} {requests : List MapRequest}
variable {s : PagingState}
variable (hStart : ZeroedRoot rootPageTable s)
variable (hFresh : FreshFrames allocator rootPageTable calls)
variable
  (hIndices :
    ∀ request ∈ requests,
      NoRecursiveIndex request.virtAddress)
variable
  (hDecoded :
    ∀ request ∈ requests, DecodesToZero s request)

include hStart hFresh hIndices hDecoded

/- The tables of the requests stay at address zero. -/
theorem tablesAtZero_of_reached
    {t : PagingState}
    (hReached :
      Transition.Reached (bootStep allocator rootPageTable)
        requests s t) :
    ∀ request ∈ requests,
      TablesAtZero rootPageTable request.virtAddress t := by
  refine
    Transition.reached_invariant
      (fun u =>
        ∀ request ∈ requests,
          TablesAtZero rootPageTable request.virtAddress u)
      ?_ ?_ hReached
  · intro request hRequest
    have hZero := hDecoded request hRequest
    exact
      ⟨hStart.rootWords getAddrFromEntry_zero, hZero.hL3,
        hZero.hL2⟩
  · intro taken hTaken hBefore request hRequest
    have hInput := (Transition.step_of_mem_run hTaken).1
    have hAfter := Transition.after_of_mem_run hTaken
    have hTables := hBefore taken.input hInput
    have hLeaf := (hDecoded taken.input hInput).hLeaf
    have hLow :
        ∀ i : Word,
          i.toNat < 512 →
            i ≠ RECURSIVE_INDEX →
              getAddrFromEntry
                    (taken.before.word (lowSlot i)) =
                  0 →
                getAddrFromEntry
                    (taken.after.word (lowSlot i)) =
                  0 := by
      intro i hI hOther hWord
      rw [← hAfter,
        word_low_bootStep hFresh hStart.hAligned
          hStart.hNonzero hTables (hIndices _ hInput) hI
          hOther]
      split_ifs
      · rw [getAddrFromEntry_constructTableEntry]
        exact hLeaf
      · exact hWord
    have hOld := hBefore request hRequest
    have hFree := hIndices request hRequest
    refine ⟨?_, ?_, ?_⟩
    · rw [← hAfter]
      exact
        rootClear_bootStep hStart.hAligned hStart.hNonzero
          hFresh (fun _ => Or.inl hLeaf) hTables.hRoot
    · exact hLow _ (l3Idx_lt _) hFree.hL3 hOld.hL3
    · exact hLow _ (l2Idx_lt _) hFree.hL2 hOld.hL2

/- The tables of a call, in the state it starts in. -/
theorem tablesAtZero_of_mem_run
    {taken : MapStep}
    (hTaken :
      taken ∈ bootRun allocator rootPageTable requests s) :
    TablesAtZero rootPageTable taken.input.virtAddress
      taken.before :=
  tablesAtZero_of_reached hStart hFresh hIndices hDecoded
    (Transition.reached_before hTaken) taken.input
    (Transition.step_of_mem_run hTaken).1

/-
  Which pages share a leaf: the word of an index is taken
  from the start, or since any page with that last index
  was mapped.
-/
theorem lowWord_ne_zero_iff
    (hPresent :
      ∀ request ∈ requests,
        request.flags.Has PageFlags.Present)
    {past future : List MapStep}
    {taken : MapStep}
    (hRun :
      bootRun allocator rootPageTable requests s =
        past ++ taken :: future)
    {i : Word}
    (hI : i.toNat < 512)
    (hOther : i ≠ RECURSIVE_INDEX) :
    taken.before.word (lowSlot i) ≠ 0 ↔
      s.word (lowSlot i) ≠ 0 ∨ LeafStored past i := by
  refine
    Transition.history_invariant
      (fun past t =>
        t.word (lowSlot i) ≠ 0 ↔
          s.word (lowSlot i) ≠ 0 ∨ LeafStored past i)
      ?_ ?_ hRun
  · simp [LeafStored]
  · intro past taken hTaken hBefore
    rcases Transition.step_of_mem_run hTaken with
      ⟨hInput, hStep⟩
    have hTables :=
      tablesAtZero_of_mem_run hStart hFresh hIndices
        hDecoded hTaken
    have hWord :=
      word_low_bootStep hFresh hStart.hAligned
        hStart.hNonzero hTables (hIndices _ hInput) hI
        hOther
    rw [hStep] at hWord
    rw [hWord, leafStored_concat]
    split_ifs with hStored
    · exact
        iff_of_true
          (constructTableEntry_ne_zero _
            (hPresent _ hInput))
          (Or.inr (Or.inr hStored))
    · rw [hBefore, or_iff_left hStored]

/- The L3 table of a mapped page stays linked. -/
theorem root_ne_zero_of_mapped
    {past future : List MapStep}
    {taken : MapStep}
    (hRun :
      bootRun allocator rootPageTable requests s =
        past ++ taken :: future) :
    ∀ earlier ∈ past,
      earlier.output = .NoError →
        taken.before.word
            (entryAddress rootPageTable
              (l4Idx earlier.input.virtAddress)) ≠
          0 := by
  refine
    Transition.history_invariant
      (fun past t =>
        ∀ earlier ∈ past,
          earlier.output = .NoError →
            t.word
                (entryAddress rootPageTable
                  (l4Idx earlier.input.virtAddress)) ≠
              0)
      ?_ ?_ hRun
  · intro earlier hEarlier
    exact absurd hEarlier List.not_mem_nil
  · intro past taken hTaken hBefore earlier hEarlier hOutput
    rcases Transition.step_of_mem_run hTaken with
      ⟨hInput, hStep⟩
    have hTables :=
      tablesAtZero_of_mem_run hStart hFresh hIndices
        hDecoded hTaken
    rw [← Transition.after_of_mem_run hTaken]
    rcases List.mem_append.mp hEarlier with hOld | hLast
    · exact
        root_ne_zero_bootStep hFresh hStart.hAligned
          hStart.hNonzero hTables (hIndices _ hInput)
          (l4Idx_lt _) (hBefore earlier hOld hOutput)
    · obtain rfl := List.mem_singleton.mp hLast
      exact
        root_linked_bootStep hFresh hStart.hAligned
          hStart.hNonzero hTables (hIndices _ hInput)
          ((congrArg Prod.fst hStep).trans hOutput)

end Runs

end Paginator

end Chihuahua
