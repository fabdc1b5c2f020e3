import Chihuahua.Paginator.LowTables

/-
  What a sequence of requests promises about translation,
  and what `translateVirtToPhys` makes of it.

  Main declarations:
    * `AddressSpace`
    * `TranslationAgrees`
    * `translationAgrees_iff`
    * `foundLeaf_eq_lowWord` and
      `translationAgrees_iff_lowWords`
-/

------------------------------------------------------------
-- The Promised Address Space
------------------------------------------------------------

namespace Chihuahua

namespace Paginator

open ByteMachine

/- The physical address of each page, 0 for an unmapped one. -/
abbrev AddressSpace := Addr → Addr

namespace AddressSpace

/- A call that succeeds maps its page, others do nothing. -/
def update
    (space : AddressSpace)
    (taken : MapStep) : AddressSpace :=
  if taken.output = .NoError then
    Function.update space taken.input.virtAddress
      taken.input.physAddress
  else
    space

/- The address space the calls of a run promise. -/
def ofSteps (steps : List MapStep) : AddressSpace :=
  steps.foldl update (fun _ => 0)

/- A page once mapped to a nonzero address stays mapped. -/
theorem foldl_update_ne_zero
    {steps : List MapStep}
    (hNonzero : ∀ taken ∈ steps, taken.input.physAddress ≠ 0)
    {space : AddressSpace}
    {v : Addr}
    (hMapped :
      space v ≠ 0 ∨
        ∃ taken ∈ steps,
          taken.output = .NoError ∧
            taken.input.virtAddress = v) :
    steps.foldl update space v ≠ 0 := by
  induction steps generalizing space with
  | nil =>
      rcases hMapped with hSpace | ⟨taken, hTaken, _⟩
      · exact hSpace
      · simp at hTaken
  | cons first steps ih =>
      apply ih
      · intro taken hTaken
        exact hNonzero taken (List.mem_cons_of_mem _ hTaken)
      · by_cases hFirst :
            first.output = .NoError ∧
              first.input.virtAddress = v
        · left
          rcases hFirst with ⟨hOutput, rfl⟩
          simp only [update, hOutput, if_true,
            Function.update_self]
          exact hNonzero first List.mem_cons_self
        · rcases hMapped with hSpace | hStep
          · left
            unfold update
            split_ifs with hOutput
            · have hOther : v ≠ first.input.virtAddress := by
                intro hEq
                exact hFirst ⟨hOutput, hEq.symm⟩
              rw [Function.update_of_ne hOther]
              exact hSpace
            · exact hSpace
          · right
            rcases hStep with ⟨taken, hTaken, hMaps⟩
            rcases List.mem_cons.mp hTaken with rfl | hLater
            · exact absurd hMaps hFirst
            · exact ⟨taken, hLater, hMaps⟩

/- Where no call succeeds nothing is promised. -/
theorem foldl_update_of_no_success
    {steps : List MapStep}
    (hNone : ∀ taken ∈ steps, taken.output ≠ .NoError)
    (space : AddressSpace) :
    steps.foldl update space = space := by
  induction steps generalizing space with
  | nil => rfl
  | cons first steps ih =>
      rw [List.foldl_cons,
        ih (fun taken hTaken =>
          hNone taken (List.mem_cons_of_mem _ hTaken))]
      unfold update
      rw [if_neg (hNone first List.mem_cons_self)]

end AddressSpace

/- The translation of every page after a run is as promised. -/
def TranslationAgrees
    (allocator : Nat → Addr)
    (rootPageTable : Addr)
    (requests : List MapRequest)
    (s : PagingState) : Prop :=
  ∀ v,
    VirtualPage v →
      bootTranslate rootPageTable v
          (bootFinal allocator rootPageTable requests s) =
        AddressSpace.ofSteps
          (bootRun allocator rootPageTable requests s) v

------------------------------------------------------------
-- The Translation After a Run
------------------------------------------------------------

section Runs

variable {allocator : Nat → Addr} {rootPageTable : Addr}
variable {calls : Nat} {requests : List MapRequest}
variable {s : PagingState}
variable (hStart : ZeroedRoot rootPageTable s)
variable (hFresh : FreshFrames allocator rootPageTable calls)
variable
  (hRequests : ∀ request ∈ requests, PageRequest request)

include hStart hFresh hRequests

/- Frames are pages, so their addresses decode to zero. -/
theorem rootClear_of_reached
    {t : PagingState}
    (hReached :
      Transition.Reached (bootStep allocator rootPageTable)
        requests s t) :
    RootClear rootPageTable t := by
  refine
    Transition.reached_invariant (RootClear rootPageTable)
      (hStart.rootWords getAddrFromEntry_zero) ?_ hReached
  intro taken hTaken hClear
  have hInput := (Transition.step_of_mem_run hTaken).1
  rw [← Transition.after_of_mem_run hTaken]
  exact
    rootClear_bootStep hStart.hAligned hStart.hNonzero hFresh
      (fun _ =>
        Or.inl
          (and_forty_of_aligned (hRequests _ hInput).hAligned))
      hClear

/- Nothing is ever translated, so nothing may be promised. -/
theorem translationAgrees_iff_no_success :
    TranslationAgrees allocator rootPageTable requests s ↔
      ∀ taken ∈ bootRun allocator rootPageTable requests s,
        taken.output ≠ .NoError := by
  have hZero :
      ∀ v,
        bootTranslate rootPageTable v
            (bootFinal allocator rootPageTable requests s) =
          0 :=
    bootTranslate_of_rootClear
      (rootClear_of_reached hStart hFresh hRequests
        (Transition.reached_final requests s))
  constructor
  · intro hAgrees taken hTaken hOutput
    have hInput :=
      hRequests taken.input
        (Transition.step_of_mem_run hTaken).1
    have hPromised := hAgrees _ hInput.hVirt
    rw [hZero] at hPromised
    refine
      AddressSpace.foldl_update_ne_zero ?_
        (Or.inr ⟨taken, hTaken, hOutput, rfl⟩)
        hPromised.symm
    intro other hOther
    exact
      (hRequests other.input
        (Transition.step_of_mem_run hOther).1).hNonzero
  · intro hNone v hVirt
    rw [hZero]
    exact
      (congrFun
        (AddressSpace.foldl_update_of_no_success hNone
          (fun _ => 0)) v).symm

/- A call succeeds unless it stops at a present leaf. -/
theorem output_of_mem_bootRun
    (hSucceeds : ∀ n, allocator n ≠ 0)
    {taken : MapStep}
    (hTaken :
      taken ∈ bootRun allocator rootPageTable requests s) :
    taken.output =
      if taken.input.forceWrite = false ∧
          (taken.input.walk allocator
            rootPageTable).foundLeaf taken.before ≠ 0 then
        .EntryExists
      else
        .NoError := by
  rcases Transition.step_of_mem_run hTaken with
    ⟨hInput, hStep⟩
  have hClear :=
    rootClear_of_reached hStart hFresh hRequests
      (Transition.reached_before hTaken)
  have hSign :=
    signExtensionOk_of_canonical
      (hRequests taken.input hInput).hVirt.hCanonical
  rw [bootStep_of_rootClear hSucceeds hClear hSign] at hStep
  dsimp only at hStep
  split_ifs at hStep ⊢
  · exact (congrArg Prod.fst hStep).symm
  · exact (congrArg Prod.fst hStep).symm

theorem output_ne_noError_iff
    (hSucceeds : ∀ n, allocator n ≠ 0)
    {taken : MapStep}
    (hTaken :
      taken ∈ bootRun allocator rootPageTable requests s) :
    taken.output ≠ .NoError ↔
      taken.input.forceWrite = false ∧
        (taken.input.walk allocator
          rootPageTable).foundLeaf taken.before ≠ 0 := by
  rw [output_of_mem_bootRun hStart hFresh hRequests hSucceeds
    hTaken]
  split_ifs with hStops
  · exact iff_of_true (by decide) hStops
  · exact iff_of_false (by simp) hStops

/-
  Translation agrees with the requests of a run exactly when
  none of its calls reaches the store of a leaf.
-/
theorem translationAgrees_iff
    (hSucceeds : ∀ n, allocator n ≠ 0) :
    TranslationAgrees allocator rootPageTable requests s ↔
      ∀ taken ∈ bootRun allocator rootPageTable requests s,
        taken.input.forceWrite = false ∧
          (taken.input.walk allocator
            rootPageTable).foundLeaf taken.before ≠ 0 := by
  rw [translationAgrees_iff_no_success hStart hFresh
    hRequests]
  apply forall₂_congr
  intro taken hTaken
  exact
    output_ne_noError_iff hStart hFresh hRequests hSucceeds
      hTaken

/-
  The leaf of that condition, in the memory before the call.
-/
theorem foundLeaf_eq_lowWord
    (hDecoded :
      ∀ request ∈ requests, DecodesToZero s request)
    {taken : MapStep}
    (hTaken :
      taken ∈ bootRun allocator rootPageTable requests s) :
    (taken.input.walk allocator rootPageTable).foundLeaf
        taken.before =
      taken.before.word
        (lowSlot (l1Idx taken.input.virtAddress)) := by
  have hIndices :
      ∀ request ∈ requests,
        NoRecursiveIndex request.virtAddress :=
    fun request hRequest =>
      (hRequests request hRequest).hVirt.hIndices
  have hInput := (Transition.step_of_mem_run hTaken).1
  exact
    foundLeaf_of_tablesAtZero hFresh hStart.hAligned
      hStart.hNonzero
      (tablesAtZero_of_mem_run hStart hFresh hIndices
        hDecoded hTaken)
      (hIndices _ hInput)

/-
  Where the tables are looked for in page zero, translation
  agrees only if the leaf of each request is taken from the
  start.
-/
theorem translationAgrees_iff_lowWords
    (hSucceeds : ∀ n, allocator n ≠ 0)
    (hDecoded :
      ∀ request ∈ requests, DecodesToZero s request) :
    TranslationAgrees allocator rootPageTable requests s ↔
      ∀ request ∈ requests,
        request.forceWrite = false ∧
          s.word (lowSlot (l1Idx request.virtAddress)) ≠
            0 := by
  have hIndices :
      ∀ request ∈ requests,
        NoRecursiveIndex request.virtAddress :=
    fun request hRequest =>
      (hRequests request hRequest).hVirt.hIndices
  have hPresent :
      ∀ request ∈ requests,
        request.flags.Has PageFlags.Present :=
    fun request hRequest =>
      (hRequests request hRequest).hPresent
  have hWord :
      ∀ past taken future,
        bootRun allocator rootPageTable requests s =
            past ++ taken :: future →
          (taken.before.word
                (lowSlot (l1Idx taken.input.virtAddress)) ≠
              0 ↔
            s.word
                  (lowSlot
                    (l1Idx taken.input.virtAddress)) ≠
                0 ∨
              LeafStored past
                (l1Idx taken.input.virtAddress)) := by
    intro past taken future hRun
    have hInput :=
      (Transition.step_of_mem_run
        (Transition.mem_run_of_split hRun)).1
    exact
      lowWord_ne_zero_iff hStart hFresh hIndices hDecoded
        hPresent hRun (l1Idx_lt _) (hIndices _ hInput).hL1
  have hOutput :
      ∀ taken ∈ bootRun allocator rootPageTable requests s,
        taken.output ≠ .NoError ↔
          taken.input.forceWrite = false ∧
            taken.before.word
                (lowSlot (l1Idx taken.input.virtAddress)) ≠
              0 := by
    intro taken hTaken
    rw [← foundLeaf_eq_lowWord hStart hFresh hRequests
      hDecoded hTaken]
    exact
      output_ne_noError_iff hStart hFresh hRequests
        hSucceeds hTaken
  rw [translationAgrees_iff_no_success hStart hFresh
    hRequests]
  constructor
  · intro hNone request hRequest
    rcases
        @Transition.exists_step _ _ _
          (bootStep allocator rootPageTable) _ s _
          hRequest with
      ⟨taken, hMember, rfl⟩
    have hTaken :
        taken ∈
          bootRun allocator rootPageTable requests s :=
      hMember
    rcases List.append_of_mem hTaken with
      ⟨past, future, hRun⟩
    have hStops :=
      (hOutput taken hTaken).mp (hNone taken hTaken)
    refine ⟨hStops.1, ?_⟩
    rcases (hWord past taken future hRun).mp hStops.2 with
      hEarly | ⟨earlier, hEarlier, hSuccess, _⟩
    · exact hEarly
    · have hBefore :
          earlier ∈
            bootRun allocator rootPageTable requests s := by
        rw [hRun]
        exact List.mem_append_left _ hEarlier
      exact absurd hSuccess (hNone earlier hBefore)
  · intro hTaken taken hMember
    rcases List.append_of_mem hMember with
      ⟨past, future, hRun⟩
    have hStops :=
      hTaken taken.input
        (Transition.step_of_mem_run hMember).1
    refine (hOutput taken hMember).mpr ⟨hStops.1, ?_⟩
    exact
      (hWord past taken future hRun).mpr (Or.inl hStops.2)

end Runs

private theorem sample_requests :
    ∀ request ∈ [sampleRequest], PageRequest request := by
  intro request hMember
  obtain rfl := List.mem_singleton.mp hMember
  exact sample_pageRequest

private theorem sample_frames :
    (bootFinal sampleAllocator sampleRoot [sampleRequest]
      (sampleStart 0)).frames ≤ 3 :=
  (frames_le_bootFinal _ _ _ _).2

theorem translationAgrees_iff_sample :
    TranslationAgrees sampleAllocator sampleRoot
        [sampleRequest] (sampleStart 0) ↔
      ∀ taken ∈
        bootRun sampleAllocator sampleRoot [sampleRequest]
          (sampleStart 0),
        taken.input.forceWrite = false ∧
          (taken.input.walk sampleAllocator
            sampleRoot).foundLeaf taken.before ≠ 0 :=
  translationAgrees_iff (sample_zeroedRoot 0)
    (sample_freshFrames sample_frames) sample_requests
    sample_succeeds

/-
  The first page a boot loader maps: the call succeeds and
  the page is not translated to its frame.
-/
theorem translationAgrees_fails :
    ZeroedRoot sampleRoot (sampleStart 0) ∧
      FreshFrames sampleAllocator sampleRoot
        (bootFinal sampleAllocator sampleRoot
          [sampleRequest] (sampleStart 0)).frames ∧
      (∀ n,
        sampleAllocator n ≠ 0 ∧
          (sampleAllocator n).toNat < 2 ^ 52) ∧
      (∀ request ∈ [sampleRequest], PageRequest request) ∧
      ¬ TranslationAgrees sampleAllocator sampleRoot
        [sampleRequest] (sampleStart 0) := by
  have hFresh := sample_freshFrames sample_frames
  refine
    ⟨sample_zeroedRoot 0, hFresh, ?_, sample_requests, ?_⟩
  · intro n
    refine ⟨sample_succeeds n, ?_⟩
    rw [sampleAllocator_toNat]
    omega
  · rw [translationAgrees_iff_no_success
      (sample_zeroedRoot 0) hFresh sample_requests]
    intro hNone
    have hMember :=
      head_mem_bootRun sampleAllocator sampleRoot
        sampleRequest [] (sampleStart 0)
    apply hNone _ hMember
    rw [output_of_mem_bootRun (sample_zeroedRoot 0) hFresh
      sample_requests sample_succeeds hMember]
    rfl

end Paginator

end Chihuahua
