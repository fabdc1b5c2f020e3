import Chihuahua.Paginator.Addresses

/-
  Translation of all addresses of a mapped range.

  A walk looks at the indices of an address only. It does
  not add the offset inside the page, and it does not stop
  at the entry of a huge page.

  Main declarations:
    * `RangeRequest` and `RangesTranslated`
    * `bootTranslate_of_indicesEqual`
    * `RangesStayTranslated`
    * `rangesStayTranslated_iff`
-/

------------------------------------------------------------
-- Ranges
------------------------------------------------------------

namespace Chihuahua

namespace Paginator

open ByteMachine

/- How many bytes an entry with the flags is for. -/
def rangeSize (flags : PageFlags) : Nat :=
  if flags.Has PageFlags.IsHugePage then 2 ^ 21 else 4096

namespace MapRequest

/- The addresses from the virtual address of a request on. -/
def Covers
    (request : MapRequest)
    (a : Addr) : Prop :=
  InRange request.virtAddress (rangeSize request.flags) a

end MapRequest

/- A request to map a page of either size. -/
structure RangeRequest (request : MapRequest) : Prop where
  hPresent : request.flags.Has PageFlags.Present
  hVirt :
    Aligned (rangeSize request.flags) request.virtAddress
  hPhys :
    Aligned (rangeSize request.flags) request.physAddress

/- No call of the list succeeded for a common address. -/
def UntouchedBy
    (steps : List MapStep)
    (request : MapRequest) : Prop :=
  ∀ later ∈ steps,
    later.output = .NoError →
      ∀ a, request.Covers a → ¬ later.input.Covers a

/-
  After the steps, each range is translated as the last
  successful call for it asked.
-/
def RangesTranslated
    (rootPageTable : Addr)
    (steps : List MapStep)
    (s : PagingState) : Prop :=
  ∀ past taken future,
    steps = past ++ taken :: future →
      RangeRequest taken.input →
        taken.output = .NoError →
          UntouchedBy future taken.input →
            ∀ a, taken.input.Covers a →
              bootTranslate rootPageTable a s =
                taken.input.physAddress +
                  (a - taken.input.virtAddress)

/- The same in every state a run goes through. -/
def RangesStayTranslated
    (allocator : Nat → Addr)
    (rootPageTable : Addr)
    (requests : List MapRequest)
    (s : PagingState) : Prop :=
  ∀ early late,
    requests = early ++ late →
      RangesTranslated rootPageTable
        (bootRun allocator rootPageTable early s)
        (bootFinal allocator rootPageTable early s)

------------------------------------------------------------
-- One Page, One Translation
------------------------------------------------------------

theorem bootTranslate_of_indicesEqual
    {v w : Addr}
    (hIndices : IndicesEqual v w)
    (rootPageTable : Addr)
    (s : PagingState) :
    bootTranslate rootPageTable v s =
      bootTranslate rootPageTable w s := by
  rw [← translateVirtToPhys_eq_bootTranslate (fun _ => 0),
    ← translateVirtToPhys_eq_bootTranslate (fun _ => 0),
    translateVirtToPhys_boot, translateVirtToPhys_boot,
    hIndices.hL4, hIndices.hL3, hIndices.hL2, hIndices.hL1]

/- The byte after the first one of a page is in the page. -/
theorem indicesEqual_succ
    {v : Addr}
    (hAligned : Aligned 4096 v) :
    IndicesEqual (v + 1) v := by
  have hIndex :
      ∀ level,
        Mmu.index level (v + 1) = Mmu.index level v :=
    @Mmu.index_add v hAligned 1 (by norm_num)
  exact ⟨hIndex 3, hIndex 2, hIndex 1, hIndex 0⟩

theorem one_lt_rangeSize
    (flags : PageFlags) :
    1 < rangeSize flags := by
  unfold rangeSize
  split_ifs
  · norm_num
  · norm_num

theorem RangeRequest.hPage
    {request : MapRequest}
    (hRange : RangeRequest request) :
    Aligned 4096 request.virtAddress := by
  have hVirt := hRange.hVirt
  unfold rangeSize at hVirt
  split_ifs at hVirt with hHuge
  · have hMod :
        request.virtAddress.toNat % 2 ^ 21 = 0 :=
      hVirt
    show request.virtAddress.toNat % 4096 = 0
    omega
  · exact hVirt

/-
  The first two bytes of a range have one translation, and
  two are asked for.
-/
theorem RangeRequest.not_translated
    {request : MapRequest}
    (hRange : RangeRequest request)
    (rootPageTable : Addr)
    (s : PagingState) :
    ¬ ∀ a, request.Covers a →
        bootTranslate rootPageTable a s =
          request.physAddress +
            (a - request.virtAddress) := by
  intro hTranslated
  have hSize := one_lt_rangeSize request.flags
  have hFirst := hTranslated request.virtAddress
  have hSecond := hTranslated (request.virtAddress + 1)
  have hSame :=
    bootTranslate_of_indicesEqual
      (indicesEqual_succ hRange.hPage) rootPageTable s
  have hCoversFirst :
      request.Covers request.virtAddress := by
    unfold MapRequest.Covers InRange
    rw [BitVec.sub_self]
    exact Nat.zero_lt_of_lt hSize
  have hCoversSecond :
      request.Covers (request.virtAddress + 1) :=
    inRange_add_ofNat request.virtAddress hSize
  rw [hSecond hCoversSecond, hFirst hCoversFirst] at hSame
  bv_omega

------------------------------------------------------------
-- Runs
------------------------------------------------------------

/- A call succeeds exactly when it stores its leaf. -/
theorem output_eq_noError_iff
    (allocator : Nat → Addr)
    (rootPageTable : Addr)
    (request : MapRequest)
    (s : PagingState) :
    (bootStep allocator rootPageTable request s).1 =
        .NoError ↔
      (request.walk allocator rootPageTable).Stores s
        request.forceWrite := by
  have hOutcome :=
    bootStep_outcome allocator rootPageTable request s
  generalize
    bootStep allocator rootPageTable request s =
      result at hOutcome ⊢
  cases hOutcome with
  | invalid hSign =>
      refine iff_of_false (by simp) ?_
      intro hStores
      have hAccepted := hStores.hPasses.hSign
      exact absurd (hSign.symm.trans hAccepted) (by simp)
  | mapped _ hForce hMapped =>
      refine iff_of_false (by simp) ?_
      intro hStores
      rcases hStores.hPasses.hMapped with hTrue | hZero
      · exact absurd (hForce.symm.trans hTrue) (by simp)
      · exact hMapped hZero
  | noL3 _ hL3 =>
      refine iff_of_false (by simp) ?_
      intro hStores
      exact hStores.hComplete.hL3 hL3
  | noL2 _ _ hL2 =>
      refine iff_of_false (by simp) ?_
      intro hStores
      exact hStores.hComplete.hL2 hL2
  | noL1 _ _ _ hL1 =>
      refine iff_of_false (by simp) ?_
      intro hStores
      exact hStores.hComplete.hL1 hL1
  | taken _ _ hLeaf hForce =>
      refine iff_of_false (by simp) ?_
      intro hStores
      rcases hStores.hLeaf with hZero | hTrue
      · exact hLeaf hZero
      · exact absurd (hForce.symm.trans hTrue) (by simp)
  | stored hPasses hComplete hLeaf =>
      exact iff_of_true rfl ⟨hPasses, hComplete, hLeaf⟩

section Runs

variable {allocator : Nat → Addr} {rootPageTable : Addr}
variable {requests : List MapRequest} {s : PagingState}

/-
  Right after a successful call for a range it is the last
  one for it, and its range is not translated.
-/
theorem not_rangesStayTranslated
    {taken : MapStep}
    (hTaken :
      taken ∈ bootRun allocator rootPageTable requests s)
    (hRange : RangeRequest taken.input)
    (hOutput : taken.output = .NoError) :
    ¬ RangesStayTranslated allocator rootPageTable requests
        s := by
  intro hStay
  rcases Transition.split_of_mem_run hTaken with
    ⟨early, late, hRequests, hBefore⟩
  have hStep := (Transition.step_of_mem_run hTaken).2
  have hSplit :
      requests = (early ++ [taken.input]) ++ late := by
    rw [hRequests, List.append_assoc, List.singleton_append]
  have hRun :
      bootRun allocator rootPageTable
          (early ++ [taken.input]) s =
        bootRun allocator rootPageTable early s ++
          [taken] := by
    unfold bootRun
    rw [Transition.run_append, hBefore, Transition.run,
      Transition.run, hStep]
  have hLast : UntouchedBy [] taken.input := by
    intro later hLater
    exact absurd hLater List.not_mem_nil
  exact
    hRange.not_translated rootPageTable _
      (hStay _ late hSplit _ taken [] hRun hRange hOutput
        hLast)

/-
  In every state of a run each range is translated as its
  last successful call asked exactly when no call for a
  range gets to the store of its leaf.
-/
theorem rangesStayTranslated_iff
    (allocator : Nat → Addr)
    (rootPageTable : Addr)
    (requests : List MapRequest)
    (s : PagingState) :
    RangesStayTranslated allocator rootPageTable requests
        s ↔
      ∀ taken ∈ bootRun allocator rootPageTable requests s,
        RangeRequest taken.input →
          ¬ (taken.input.walk allocator rootPageTable).Stores
              taken.before taken.input.forceWrite := by
  have hSucceeds :
      ∀ taken ∈ bootRun allocator rootPageTable requests s,
        taken.output = .NoError ↔
          (taken.input.walk allocator rootPageTable).Stores
            taken.before taken.input.forceWrite := by
    intro taken hTaken
    have hStep := (Transition.step_of_mem_run hTaken).2
    rw [← output_eq_noError_iff, hStep]
  constructor
  · intro hStay taken hTaken hRange hStores
    exact
      not_rangesStayTranslated hTaken hRange
        ((hSucceeds taken hTaken).mpr hStores) hStay
  · intro hNone early late hRequests past taken future
      hSteps hRange hOutput
    have hTaken :
        taken ∈
          bootRun allocator rootPageTable requests s := by
      unfold bootRun at hSteps ⊢
      rw [hRequests, Transition.run_append, hSteps]
      simp
    exact
      absurd ((hSucceeds taken hTaken).mp hOutput)
        (hNone taken hTaken hRange)

end Runs

------------------------------------------------------------
-- A Page That Is Not Translated
------------------------------------------------------------

theorem sample_rangeRequest :
    RangeRequest sampleRequest where
  hPresent := by decide
  hVirt := by decide
  hPhys := by decide

/- Below a clear root a forced call always succeeds. -/
theorem output_of_forced
    {allocator : Nat → Addr}
    {rootPageTable : Addr}
    {request : MapRequest}
    {s : PagingState}
    (hSucceeds : ∀ n, allocator n ≠ 0)
    (hClear : RootClear rootPageTable s)
    (hSign : signExtensionOk request.virtAddress = true)
    (hForce : request.forceWrite = true) :
    (bootStep allocator rootPageTable request s).1 =
      .NoError := by
  rw [bootStep_of_rootClear hSucceeds hClear hSign]
  dsimp only
  rw [if_neg]
  rintro ⟨hNotForced, _⟩
  exact absurd (hForce.symm.trans hNotForced) (by simp)

private theorem not_rangesStayTranslated_single
    {allocator : Nat → Addr}
    {rootPageTable : Addr}
    {request : MapRequest}
    {s : PagingState}
    (hRange : RangeRequest request)
    (hOutput :
      (bootStep allocator rootPageTable request s).1 =
        .NoError) :
    ¬ RangesStayTranslated allocator rootPageTable [request]
        s :=
  not_rangesStayTranslated
    (head_mem_bootRun allocator rootPageTable request [] s)
    hRange hOutput

/-
  The first page a boot loader maps, where nothing is
  missing: the call succeeds and the bytes of the page are
  not translated.
-/
theorem rangesStayTranslated_fails :
    ZeroedRoot sampleRoot (sampleStart 0) ∧
      FreshFrames sampleAllocator sampleRoot 3 ∧
      (∀ n, sampleAllocator n ≠ 0) ∧
      NoRecursiveIndex sampleRequest.virtAddress ∧
      RangeRequest sampleRequest ∧
      ¬ RangesStayTranslated sampleAllocator sampleRoot
        [sampleRequest] (sampleStart 0) := by
  refine
    ⟨sample_zeroedRoot 0, sample_freshFrames le_rfl,
      sample_succeeds, sample_virtualPage.hIndices,
      sample_rangeRequest, ?_⟩
  exact
    not_rangesStayTranslated_single sample_rangeRequest
      (output_of_forced sample_succeeds sample_rootClear
        (signExtensionOk_of_canonical
          sample_virtualPage.hCanonical)
        rfl)

end Paginator

end Chihuahua
