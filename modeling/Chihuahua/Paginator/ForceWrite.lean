import Chihuahua.Paginator.LowTables
import Chihuahua.Paginator.RecursiveSlot

/-
  Calls that must not overwrite a mapping.

  Whether a page is mapped is tested twice: by a translation
  before the tables are looked up, and by the leaf entry
  that is there afterwards. What the first test sees the
  second one sees as well. The second test looks at one word
  of page zero, which other pages use as their leaf too.

  Main declarations:
    * `PathTaken` and `pathTaken_of_translated`
    * `Outcome.exists_iff` and
      `Outcome.unchanged_iff_pathTaken`
    * `endsAtLeaf_iff` and `pathTaken_iff`
    * `ExistsExactly`, `PageStored` and `LeafTellsPage`
    * `forceWriteExact_iff`
-/

------------------------------------------------------------
-- The Words of a Path
------------------------------------------------------------

namespace Chihuahua

namespace Paginator

open ByteMachine

/-
  The words the code finds on the way to a leaf when it
  creates nothing.
-/
section Path

variable (rootPageTable virtAddress : Addr)
variable (s : PagingState)

def pathL3 : Word :=
  s.word (entryAddress rootPageTable (l4Idx virtAddress))

def pathL2 : Word :=
  s.word
    (entryAddress
      (getAddrFromEntry (pathL3 rootPageTable virtAddress s))
      (l3Idx virtAddress))

def pathL1 : Word :=
  s.word
    (entryAddress
      (getAddrFromEntry (pathL2 rootPageTable virtAddress s))
      (l2Idx virtAddress))

def pathLeaf : Word :=
  s.word
    (entryAddress
      (getAddrFromEntry (pathL1 rootPageTable virtAddress s))
      (l1Idx virtAddress))

/- All three tables are there, and so is the leaf. -/
structure PathTaken : Prop where
  hL3 : pathL3 rootPageTable virtAddress s ≠ 0
  hL2 : pathL2 rootPageTable virtAddress s ≠ 0
  hL1 : pathL1 rootPageTable virtAddress s ≠ 0
  hLeaf : pathLeaf rootPageTable virtAddress s ≠ 0

end Path

theorem ne_zero_of_decoded
    {entry : Word}
    (hDecoded : getAddrFromEntry entry ≠ 0) :
    entry ≠ 0 := by
  rintro rfl
  exact hDecoded getAddrFromEntry_zero

/- A translation goes along a path that is all there. -/
theorem pathTaken_of_translated
    {allocator : Nat → Addr}
    {rootPageTable virtAddress : Addr}
    {s : PagingState}
    (hTranslated :
      (translateVirtToPhys (bootBus allocator) rootPageTable
        virtAddress s).1 ≠ 0) :
    PathTaken rootPageTable virtAddress s := by
  rw [translateVirtToPhys_boot] at hTranslated
  dsimp only at hTranslated
  split_ifs at hTranslated with hL3 hL2 hL1
  · exact absurd rfl hTranslated
  · exact absurd rfl hTranslated
  · exact absurd rfl hTranslated
  · exact
      ⟨ne_zero_of_decoded hL3, ne_zero_of_decoded hL2,
        ne_zero_of_decoded hL1,
        ne_zero_of_decoded hTranslated⟩

namespace Walk

variable {w : Walk} {s : PagingState}

/- A block that takes no frame finds its table. -/
theorem BlockOutcome.of_frames_eq
    {level : TableLevel}
    {slot : Addr}
    {idx : Word}
    {result : Option Word × PagingState}
    (hOutcome : w.BlockOutcome s level slot idx result)
    (hFrames : result.2.frames ≤ s.frames) :
    s.word slot ≠ 0 ∧ result = (some (s.word slot), s) := by
  cases hOutcome with
  | present hFound => exact ⟨hFound, rfl⟩
  | failed _ _ => exact absurd hFrames (Nat.not_succ_le_self _)
  | created _ _ =>
      exact absurd hFrames (Nat.not_succ_le_self _)

theorem BlockOutcome.of_found
    {level : TableLevel}
    {slot : Addr}
    {idx : Word}
    {result : Option Word × PagingState}
    (hOutcome : w.BlockOutcome s level slot idx result)
    (hFound : s.word slot ≠ 0) :
    result = (some (s.word slot), s) := by
  cases hOutcome with
  | present _ => rfl
  | failed hMissing _ => exact absurd hMissing hFound
  | created hMissing _ => exact absurd hMissing hFound

/- A block that goes on from where the path leads. -/
theorem afterL2_outcome_of_path
    (hAfterL3 :
      w.afterL3 s =
        (some (pathL3 w.rootPageTable w.virtAddress s), s)) :
    w.BlockOutcome s .L2
      (entryAddress
        (getAddrFromEntry
          (pathL3 w.rootPageTable w.virtAddress s))
        (l3Idx w.virtAddress))
      (l3Idx w.virtAddress) (w.afterL2 s) := by
  have hOutcome := w.afterL2_outcome s
  unfold slotL2 entryForL3 at hOutcome
  rw [hAfterL3] at hOutcome
  exact hOutcome

theorem afterL1_outcome_of_path
    (hAfterL2 :
      w.afterL2 s =
        (some (pathL2 w.rootPageTable w.virtAddress s), s)) :
    w.BlockOutcome s .L1
      (entryAddress
        (getAddrFromEntry
          (pathL2 w.rootPageTable w.virtAddress s))
        (l2Idx w.virtAddress))
      (l2Idx w.virtAddress) (w.afterL1 s) := by
  have hOutcome := w.afterL1_outcome s
  unfold slotL1 entryForL2 at hOutcome
  rw [hAfterL2] at hOutcome
  exact hOutcome

theorem foundLeaf_of_path
    (hAfterL1 :
      w.afterL1 s =
        (some (pathL1 w.rootPageTable w.virtAddress s), s)) :
    w.foundLeaf s =
      pathLeaf w.rootPageTable w.virtAddress s := by
  unfold foundLeaf slotLeaf entryForL1
  rw [hAfterL1]
  rfl

/- The walk gets to a leaf, and the leaf is taken. -/
structure EndsAtLeaf (w : Walk) (s : PagingState) : Prop where
  hComplete : w.Complete s
  hLeaf : w.foundLeaf s ≠ 0

/- The walk along a path that is all there changes nothing. -/
theorem endsAtLeaf_of_pathTaken
    (hPath : PathTaken w.rootPageTable w.virtAddress s) :
    w.EndsAtLeaf s ∧ (w.afterL1 s).2 = s := by
  have hAfterL3 := (w.afterL3_outcome s).of_found hPath.hL3
  have hAfterL2 :=
    (afterL2_outcome_of_path hAfterL3).of_found hPath.hL2
  have hAfterL1 :=
    (afterL1_outcome_of_path hAfterL2).of_found hPath.hL1
  refine ⟨⟨⟨?_, ?_, ?_⟩, ?_⟩, ?_⟩
  · rw [hAfterL3]
    exact Option.some_ne_none _
  · rw [hAfterL2]
    exact Option.some_ne_none _
  · rw [hAfterL1]
    exact Option.some_ne_none _
  · rw [foundLeaf_of_path hAfterL1]
    exact hPath.hLeaf
  · rw [hAfterL1]

/- A walk that asks for no frame creates no table. -/
theorem pathTaken_of_frames_le
    (hLeaf : w.foundLeaf s ≠ 0)
    (hFrames : (w.afterL1 s).2.frames ≤ s.frames) :
    PathTaken w.rootPageTable w.virtAddress s := by
  have hGrowsL3 := (w.afterL3_outcome s).frames.1
  have hGrowsL2 := (w.afterL2_outcome s).frames.1
  have hGrowsL1 := (w.afterL1_outcome s).frames.1
  rcases (w.afterL3_outcome s).of_frames_eq (by omega) with
    ⟨hL3, hAfterL3⟩
  rcases
      (afterL2_outcome_of_path hAfterL3).of_frames_eq
        (by omega) with
    ⟨hL2, hAfterL2⟩
  rcases
      (afterL1_outcome_of_path hAfterL2).of_frames_eq
        hFrames with
    ⟨hL1, hAfterL1⟩
  rw [foundLeaf_of_path hAfterL1] at hLeaf
  exact ⟨hL3, hL2, hL1, hLeaf⟩

------------------------------------------------------------
-- One Call
------------------------------------------------------------

section Call

variable {physAddress : Addr} {flags : PageFlags}
variable {result : PageMapError × PagingState}
variable
  (hOutcome : w.Outcome s physAddress flags false result)

include hOutcome

/- Both tests together come down to the second one. -/
theorem Outcome.exists_iff
    (hSign : signExtensionOk w.virtAddress = true) :
    result.1 = .EntryExists ↔ w.EndsAtLeaf s := by
  cases hOutcome with
  | invalid hInvalid =>
      exact absurd (hSign.symm.trans hInvalid) (by decide)
  | mapped _ _ hMapped =>
      exact
        iff_of_true rfl
          (endsAtLeaf_of_pathTaken
            (pathTaken_of_translated hMapped)).1
  | noL3 _ hL3 =>
      exact
        iff_of_false nofun (fun hEnds =>
          hEnds.hComplete.hL3 hL3)
  | noL2 _ _ hL2 =>
      exact
        iff_of_false nofun (fun hEnds =>
          hEnds.hComplete.hL2 hL2)
  | noL1 _ _ _ hL1 =>
      exact
        iff_of_false nofun (fun hEnds =>
          hEnds.hComplete.hL1 hL1)
  | taken _ hComplete hLeaf _ =>
      exact iff_of_true rfl ⟨hComplete, hLeaf⟩
  | stored _ _ hLeaf =>
      exact
        iff_of_false nofun (fun hEnds =>
          hEnds.hLeaf (hLeaf.resolve_right (by decide)))

/- It says so without a change where the path was there. -/
theorem Outcome.unchanged_iff_pathTaken
    (hExists : result.1 = .EntryExists) :
    (result.2.machine.mem = s.machine.mem ∧
        result.2.frames = s.frames) ↔
      PathTaken w.rootPageTable w.virtAddress s := by
  cases hOutcome with
  | invalid _ => exact absurd hExists nofun
  | mapped _ _ hMapped =>
      exact
        iff_of_true ⟨rfl, rfl⟩
          (pathTaken_of_translated hMapped)
  | noL3 _ _ => exact absurd hExists nofun
  | noL2 _ _ _ => exact absurd hExists nofun
  | noL1 _ _ _ _ => exact absurd hExists nofun
  | taken _ _ hLeaf _ =>
      constructor
      · rintro ⟨_, hFrames⟩
        exact pathTaken_of_frames_le hLeaf hFrames.le
      · intro hPath
        dsimp only
        rw [(endsAtLeaf_of_pathTaken hPath).2]
        exact ⟨rfl, rfl⟩
  | stored _ _ _ => exact absurd hExists nofun

end Call

end Walk

------------------------------------------------------------
-- The Words Before a Call
------------------------------------------------------------

section Words

variable {allocator : Nat → Addr} {rootPageTable : Addr}
variable {calls : Nat} {request : MapRequest}
variable {s : PagingState}

theorem endsAtLeaf_iff
    (hFresh : FreshFrames allocator rootPageTable calls)
    (hRoot : Aligned 4096 rootPageTable)
    (hNonzero : rootPageTable ≠ 0)
    (hTables :
      TablesAtZero rootPageTable request.virtAddress s)
    (hIndices : NoRecursiveIndex request.virtAddress) :
    (request.walk allocator rootPageTable).EndsAtLeaf s ↔
      Answers allocator s.frames
          (tablesMissing rootPageTable request.virtAddress
            s) ∧
        s.word (lowSlot (l1Idx request.virtAddress)) ≠
          0 := by
  have hComplete :=
    complete_iff hFresh hRoot hNonzero hTables hIndices
  have hLeaf :=
    foundLeaf_of_tablesAtZero hFresh hRoot hNonzero hTables
      hIndices
  rw [← hComplete, ← hLeaf]
  constructor
  · rintro ⟨hWalk, hFound⟩
    exact ⟨hWalk, hFound⟩
  · rintro ⟨hWalk, hFound⟩
    exact ⟨hWalk, hFound⟩

/- A path of four words, three of them in page zero. -/
theorem pathTaken_iff
    {virtAddress : Addr}
    (hTables : TablesAtZero rootPageTable virtAddress s) :
    PathTaken rootPageTable virtAddress s ↔
      s.word
            (entryAddress rootPageTable
              (l4Idx virtAddress)) ≠
          0 ∧
        s.word (lowSlot (l3Idx virtAddress)) ≠ 0 ∧
        s.word (lowSlot (l2Idx virtAddress)) ≠ 0 ∧
        s.word (lowSlot (l1Idx virtAddress)) ≠ 0 := by
  have hL2 :
      pathL2 rootPageTable virtAddress s =
        s.word (lowSlot (l3Idx virtAddress)) := by
    unfold pathL2 pathL3
    rw [hTables.hRoot _ (l4Idx_lt _)]
    rfl
  have hL1 :
      pathL1 rootPageTable virtAddress s =
        s.word (lowSlot (l2Idx virtAddress)) := by
    unfold pathL1
    rw [hL2, hTables.hL3]
    rfl
  have hLeaf :
      pathLeaf rootPageTable virtAddress s =
        s.word (lowSlot (l1Idx virtAddress)) := by
    unfold pathLeaf
    rw [hL1, hTables.hL2]
    rfl
  rw [← hL2, ← hL1, ← hLeaf]
  constructor
  · rintro ⟨hTakenL3, hTakenL2, hTakenL1, hTakenLeaf⟩
    exact ⟨hTakenL3, hTakenL2, hTakenL1, hTakenLeaf⟩
  · rintro ⟨hTakenL3, hTakenL2, hTakenL1, hTakenLeaf⟩
    exact ⟨hTakenL3, hTakenL2, hTakenL1, hTakenLeaf⟩

end Words

theorem SamePage.l4Idx_eq
    {v v' : Addr}
    (hSame : SamePage v v') :
    l4Idx v = l4Idx v' := by
  have hShift :
      ∀ u : Addr, u >>> P4_SHIFT = u >>> P1_SHIFT >>> 27 :=
    fun u => BitVec.shiftRight_add u P1_SHIFT 27
  unfold l4Idx
  rw [hShift v, hShift v', hSame]

theorem SamePage.l1Idx_eq
    {v v' : Addr}
    (hSame : SamePage v v') :
    l1Idx v = l1Idx v' := by
  unfold l1Idx
  rw [hSame]

------------------------------------------------------------
-- Calls of a Run
------------------------------------------------------------

/- An earlier call for the page of an address succeeded. -/
def MappedBefore
    (past : List MapStep)
    (virtAddress : Addr) : Prop :=
  ∃ earlier ∈ past,
    earlier.output = .NoError ∧
      SamePage earlier.input.virtAddress virtAddress

/-
  The call reports an entry exactly for a page that was
  mapped before, and then it has changed nothing.
-/
structure ExistsExactly
    (past : List MapStep)
    (taken : MapStep) : Prop where
  hExists :
    taken.output = .EntryExists ↔
      MappedBefore past taken.input.virtAddress
  hUnchanged :
    taken.output = .EntryExists →
      taken.after.machine.mem = taken.before.machine.mem ∧
        taken.after.frames = taken.before.frames

/- An earlier call for the page stored its leaf. -/
def PageStored
    (allocator : Nat → Addr)
    (rootPageTable : Addr)
    (past : List MapStep)
    (virtAddress : Addr) : Prop :=
  ∃ earlier ∈ past,
    StoresLeaf allocator rootPageTable earlier.input
        earlier.before ∧
      SamePage earlier.input.virtAddress virtAddress

/-
  What the words before the call have to say. If the leaf
  was stored for the page, an L2 and an L1 table are found
  for it. If not, its leaf is empty, or there is no frame
  for a table that is missing.
-/
structure LeafTellsPage
    (allocator : Nat → Addr)
    (rootPageTable : Addr)
    (past : List MapStep)
    (taken : MapStep) : Prop where
  hStored :
    PageStored allocator rootPageTable past
        taken.input.virtAddress →
      taken.before.word
            (lowSlot (l3Idx taken.input.virtAddress)) ≠
          0 ∧
        taken.before.word
            (lowSlot (l2Idx taken.input.virtAddress)) ≠
          0
  hNotStored :
    ¬ PageStored allocator rootPageTable past
        taken.input.virtAddress →
      taken.before.word
            (lowSlot (l1Idx taken.input.virtAddress)) =
          0 ∨
        ¬ Answers allocator taken.before.frames
          (tablesMissing rootPageTable
            taken.input.virtAddress taken.before)

/- Every call of a run that must not overwrite is exact. -/
def ForceWriteExact
    (allocator : Nat → Addr)
    (rootPageTable : Addr)
    (requests : List MapRequest)
    (s : PagingState) : Prop :=
  ∀ past taken future,
    bootRun allocator rootPageTable requests s =
        past ++ taken :: future →
      taken.input.forceWrite = false →
        ExistsExactly past taken

section Runs

variable {allocator : Nat → Addr} {rootPageTable : Addr}
variable {calls : Nat} {requests : List MapRequest}
variable {s : PagingState}
variable (hStart : ZeroedRoot rootPageTable s)
variable (hFresh : FreshFrames allocator rootPageTable calls)
variable
  (hCanonical :
    ∀ request ∈ requests, Canonical request.virtAddress)
variable
  (hIndices :
    ∀ request ∈ requests,
      NoRecursiveIndex request.virtAddress)
variable
  (hPresent :
    ∀ request ∈ requests,
      request.flags.Has PageFlags.Present)
variable
  (hDecoded :
    ∀ request ∈ requests, DecodesToZero s request)

include hStart hFresh hIndices hPresent hDecoded

/- A mapped page has its leaf and its entry in the root. -/
theorem words_of_mappedBefore
    {past future : List MapStep}
    {taken : MapStep}
    (hRun :
      bootRun allocator rootPageTable requests s =
        past ++ taken :: future)
    (hMapped :
      MappedBefore past taken.input.virtAddress) :
    taken.before.word
          (entryAddress rootPageTable
            (l4Idx taken.input.virtAddress)) ≠
        0 ∧
      taken.before.word
          (lowSlot (l1Idx taken.input.virtAddress)) ≠
        0 := by
  have hInput :=
    (Transition.step_of_mem_run
      (Transition.mem_run_of_split hRun)).1
  rcases hMapped with ⟨earlier, hEarlier, hOutput, hSame⟩
  constructor
  · rw [← hSame.l4Idx_eq]
    exact
      root_ne_zero_of_mapped hStart hFresh hIndices hDecoded
        hRun earlier hEarlier hOutput
  · refine
      (lowWord_ne_zero_iff hStart hFresh hIndices hDecoded
        hPresent hRun (l1Idx_lt _)
        (hIndices _ hInput).hL1).mpr (Or.inr ?_)
    exact ⟨earlier, hEarlier, hOutput, hSame.l1Idx_eq⟩

include hCanonical

omit hPresent in
/- The calls that succeed are those that store their leaf. -/
theorem mappedBefore_iff_pageStored
    {past future : List MapStep}
    {taken : MapStep}
    (hRun :
      bootRun allocator rootPageTable requests s =
        past ++ taken :: future)
    (virtAddress : Addr) :
    MappedBefore past virtAddress ↔
      PageStored allocator rootPageTable past
        virtAddress := by
  have hStores :
      ∀ earlier ∈ past,
        earlier.output = .NoError ↔
          StoresLeaf allocator rootPageTable earlier.input
            earlier.before := by
    intro earlier hEarlier
    have hMember :
        earlier ∈
          bootRun allocator rootPageTable requests s := by
      rw [hRun]
      exact List.mem_append_left _ hEarlier
    rcases Transition.step_of_mem_run hMember with
      ⟨hInput, hStep⟩
    have hTables :=
      tablesAtZero_of_mem_run hStart hFresh hIndices
        hDecoded hMember
    rw [← noError_iff_storesLeaf hFresh hStart.hAligned
      hStart.hNonzero hTables (hIndices _ hInput)
      (signExtensionOk_of_canonical (hCanonical _ hInput)),
      hStep]
  constructor
  · rintro ⟨earlier, hEarlier, hOutput, hSame⟩
    exact
      ⟨earlier, hEarlier,
        (hStores earlier hEarlier).mp hOutput, hSame⟩
  · rintro ⟨earlier, hEarlier, hLeaf, hSame⟩
    exact
      ⟨earlier, hEarlier,
        (hStores earlier hEarlier).mpr hLeaf, hSame⟩

theorem existsExactly_iff
    {past future : List MapStep}
    {taken : MapStep}
    (hRun :
      bootRun allocator rootPageTable requests s =
        past ++ taken :: future)
    (hForce : taken.input.forceWrite = false) :
    ExistsExactly past taken ↔
      LeafTellsPage allocator rootPageTable past taken := by
  have hTaken := Transition.mem_run_of_split hRun
  rcases Transition.step_of_mem_run hTaken with
    ⟨hInput, hStep⟩
  have hSign :=
    signExtensionOk_of_canonical (hCanonical _ hInput)
  have hTables :=
    tablesAtZero_of_mem_run hStart hFresh hIndices hDecoded
      hTaken
  have hOutcome :=
    bootStep_outcome allocator rootPageTable taken.input
      taken.before
  rw [hStep, hForce] at hOutcome
  have hExists :
      taken.output = .EntryExists ↔
        Answers allocator taken.before.frames
            (tablesMissing rootPageTable
              taken.input.virtAddress taken.before) ∧
          taken.before.word
              (lowSlot (l1Idx taken.input.virtAddress)) ≠
            0 :=
    (hOutcome.exists_iff hSign).trans
      (endsAtLeaf_iff hFresh hStart.hAligned
        hStart.hNonzero hTables (hIndices _ hInput))
  have hUnchanged :
      taken.output = .EntryExists →
        ((taken.after.machine.mem =
              taken.before.machine.mem ∧
            taken.after.frames = taken.before.frames) ↔
          PathTaken rootPageTable taken.input.virtAddress
            taken.before) :=
    hOutcome.unchanged_iff_pathTaken
  have hPath :=
    pathTaken_iff hTables
  have hWords :=
    words_of_mappedBefore hStart hFresh hIndices hPresent
      hDecoded hRun
  have hPage :=
    mappedBefore_iff_pageStored hStart hFresh hCanonical
      hIndices hDecoded hRun taken.input.virtAddress
  constructor
  · rintro ⟨hExact, hSame⟩
    constructor
    · intro hStored
      have hOutput := hExact.mpr (hPage.mpr hStored)
      have hTaken :=
        hPath.mp ((hUnchanged hOutput).mp (hSame hOutput))
      exact ⟨hTaken.2.1, hTaken.2.2.1⟩
    · intro hNotStored
      by_contra hTold
      rw [not_or, not_not] at hTold
      have hOutput := hExists.mpr ⟨hTold.2, hTold.1⟩
      exact hNotStored (hPage.mp (hExact.mp hOutput))
  · rintro ⟨hStored, hNotStored⟩
    have hTaken :
        MappedBefore past taken.input.virtAddress →
          PathTaken rootPageTable taken.input.virtAddress
            taken.before := by
      intro hBefore
      have hTold := hStored (hPage.mp hBefore)
      exact
        hPath.mpr
          ⟨(hWords hBefore).1, hTold.1, hTold.2,
            (hWords hBefore).2⟩
    have hExact :
        taken.output = .EntryExists ↔
          MappedBefore past taken.input.virtAddress := by
      constructor
      · intro hOutput
        by_contra hNew
        have hFound := hExists.mp hOutput
        rcases hNotStored (mt hPage.mpr hNew) with
          hEmpty | hNoFrame
        · exact hFound.2 hEmpty
        · exact hNoFrame hFound.1
      · intro hBefore
        refine (hOutcome.exists_iff hSign).mpr ?_
        exact
          (Walk.endsAtLeaf_of_pathTaken
            (w := taken.input.walk allocator rootPageTable)
            (hTaken hBefore)).1
    refine ⟨hExact, ?_⟩
    intro hOutput
    exact
      (hUnchanged hOutput).mpr (hTaken (hExact.mp hOutput))

/-
  A run is exact as far as the words before each call tell
  pages apart. They are the words of the start and the
  leaves stored since, one for each last index.
-/
theorem forceWriteExact_iff :
    (ForceWriteExact allocator rootPageTable requests s ↔
        ∀ past taken future,
          bootRun allocator rootPageTable requests s =
              past ++ taken :: future →
            taken.input.forceWrite = false →
              LeafTellsPage allocator rootPageTable past
                taken) ∧
      ∀ past taken future,
        bootRun allocator rootPageTable requests s =
            past ++ taken :: future →
          ∀ i : Word,
            i.toNat < 512 →
              i ≠ RECURSIVE_INDEX →
                (taken.before.word (lowSlot i) ≠ 0 ↔
                  s.word (lowSlot i) ≠ 0 ∨
                    LeafStored past i) := by
  constructor
  · unfold ForceWriteExact
    constructor
    · intro hExact past taken future hRun hForce
      exact
        (existsExactly_iff hStart hFresh hCanonical hIndices
          hPresent hDecoded hRun hForce).mp
          (hExact past taken future hRun hForce)
    · intro hTells past taken future hRun hForce
      exact
        (existsExactly_iff hStart hFresh hCanonical hIndices
          hPresent hDecoded hRun hForce).mpr
          (hTells past taken future hRun hForce)
  · intro past taken future hRun i hI hOther
    exact
      lowWord_ne_zero_iff hStart hFresh hIndices hDecoded
        hPresent hRun hI hOther

end Runs

------------------------------------------------------------
-- One Page Mapped Twice
------------------------------------------------------------

/- The page with the indices 2, 5, 5 and 5. -/
def oneWordPage : Addr :=
  2 <<< 39 ||| 5 <<< 30 ||| 5 <<< 21 ||| 5 <<< 12

def oneWordRequest : MapRequest :=
  .mapPage oneWordPage 0x300000 PageFlags.Present false

private theorem oneWord_noRecursiveIndex :
    NoRecursiveIndex oneWordRequest.virtAddress :=
  ⟨by decide, by decide, by decide, by decide⟩

private theorem oneWord_indices :
    l3Idx oneWordRequest.virtAddress = 5 ∧
      l2Idx oneWordRequest.virtAddress = 5 ∧
      l1Idx oneWordRequest.virtAddress = 5 :=
  ⟨by decide, by decide, by decide⟩

private theorem oneWord_decodesToZero :
    DecodesToZero (sampleStart 0) oneWordRequest :=
  ⟨by decide, by decide, by decide⟩

/- Nothing is mapped yet, so the first call succeeds. -/
private theorem oneWord_firstOutput :
    (bootStep sampleAllocator sampleRoot oneWordRequest
        (sampleStart 0)).1 =
      .NoError := by
  have hStart := sample_zeroedRoot 0
  have hTables :
      TablesAtZero sampleRoot oneWordRequest.virtAddress
        (sampleStart 0) :=
    ⟨sample_rootClear, oneWord_decodesToZero.hL3,
      oneWord_decodesToZero.hL2⟩
  have hLeaf :
      (oneWordRequest.walk sampleAllocator
            sampleRoot).foundLeaf
          (sampleStart 0) =
        0 :=
    (foundLeaf_of_tablesAtZero (sample_freshFrames le_rfl)
      hStart.hAligned hStart.hNonzero hTables
      oneWord_noRecursiveIndex).trans
      (by decide)
  have hSign :
      signExtensionOk oneWordRequest.virtAddress = true := by
    decide
  have hStep :=
    bootStep_of_rootClear sample_succeeds sample_rootClear
      hSign
  dsimp only at hStep
  rw [if_neg (fun hBoth => hBoth.2 hLeaf)] at hStep
  exact congrArg Prod.fst hStep

/-
  All words the code reads of this page but the first one
  are its leaf, so the second call finds what it should.
-/
theorem forceWriteExact_iff_sample :
    ForceWriteExact sampleAllocator sampleRoot
      [oneWordRequest, oneWordRequest] (sampleStart 0) := by
  have hAll :
      ∀ {P : MapRequest → Prop},
        P oneWordRequest →
          ∀ request ∈ [oneWordRequest, oneWordRequest],
            P request := by
    intro P hOne request hRequest
    simp only [List.mem_cons, List.not_mem_nil, or_false,
      or_self] at hRequest
    rw [hRequest]
    exact hOne
  have hExact :=
    forceWriteExact_iff (sample_zeroedRoot 0)
      (sample_freshFrames le_rfl)
      (hAll (P := fun request =>
        Canonical request.virtAddress) (by decide))
      (hAll oneWord_noRecursiveIndex)
      (hAll (P := fun request =>
        request.flags.Has PageFlags.Present) (by decide))
      (hAll oneWord_decodesToZero)
  refine hExact.1.mpr ?_
  intro past taken future hRun _
  have hSteps := hRun
  rw [bootRun_cons, bootRun_cons, bootRun_nil] at hSteps
  rcases past with _ | ⟨first, _ | ⟨second, past⟩⟩
  · rcases List.cons.inj hSteps with ⟨rfl, _⟩
    constructor
    · rintro ⟨earlier, hEarlier, _⟩
      exact absurd hEarlier List.not_mem_nil
    · intro _
      exact Or.inl (by decide)
  · rcases List.cons.inj hSteps with ⟨hFirst, hLater⟩
    have hBefore : first.before = sampleStart 0 :=
      (congrArg Transition.Step.before hFirst).symm
    have hInput : first.input = oneWordRequest :=
      (congrArg Transition.Step.input hFirst).symm
    have hMember :
        first ∈
          bootRun sampleAllocator sampleRoot
            [oneWordRequest, oneWordRequest]
            (sampleStart 0) := by
      rw [hRun]
      exact List.mem_cons_self
    have hOutput : first.output = .NoError := by
      have hStep := (Transition.step_of_mem_run hMember).2
      have hSucceeded := oneWord_firstOutput
      rw [hInput, hBefore] at hStep
      rw [hStep] at hSucceeded
      exact hSucceeded
    have hSecond : taken.input = oneWordRequest :=
      (congrArg Transition.Step.input
        (List.cons.inj hLater).1).symm
    rcases oneWord_indices with ⟨hL3, hL2, hL1⟩
    have hStored : LeafStored [first] 5 :=
      ⟨first, List.mem_cons_self, hOutput, by
        rw [hInput, hL1]⟩
    have hLeaf :=
      (hExact.2 _ _ _ hRun 5 (by decide) (by decide)).mpr
        (Or.inr hStored)
    have hPage :
        PageStored sampleAllocator sampleRoot [first]
          taken.input.virtAddress := by
      refine ⟨first, List.mem_cons_self, ⟨?_, ?_⟩, ?_⟩
      · intro n _
        exact sample_succeeds _
      · left
        rw [hInput, hBefore]
        decide
      · rw [hInput, hSecond]
        rfl
    constructor
    · intro _
      rw [hSecond, hL3, hL2]
      exact ⟨hLeaf, hLeaf⟩
    · intro hNew
      exact absurd hPage hNew
  · simp at hSteps

------------------------------------------------------------
-- Two Pages With One Leaf
------------------------------------------------------------

/- The page with the indices 3, 5, 5 and 5. -/
def otherPage : Addr :=
  3 <<< 39 ||| 5 <<< 30 ||| 5 <<< 21 ||| 5 <<< 12

def otherRequest : MapRequest :=
  .mapPage otherPage 0 PageFlags.Present false

/- Memory once the sample page is mapped. -/
private def sampleMapped : PagingState :=
  ((sampleRequest.walk sampleAllocator sampleRoot).afterL1
        (sampleStart 0)).2.storeLeaf
    (lowSlot 5)
    (constructTableEntry 0x300000
      (PageFlags.Present ||| PageFlags.WriteBit))

private theorem sample_firstStep :
    bootStep sampleAllocator sampleRoot sampleRequest
        (sampleStart 0) =
      (.NoError, sampleMapped) := by
  have hFresh : FreshFrames sampleAllocator sampleRoot 3 :=
    sample_freshFrames le_rfl
  have hSlot :
      (sampleRequest.walk sampleAllocator
            sampleRoot).slotLeaf
          (sampleStart 0) =
        lowSlot 5 :=
    slotLeaf_of_decoded hFresh (by
      rw [(sample_noTables hFresh).2]
      exact getAddrFromEntry_zero)
  unfold sampleMapped
  rw [bootStep_of_rootClear sample_succeeds sample_rootClear
    (by decide), ← hSlot]
  rfl

private theorem sample_firstAfter :
    (bootStep sampleAllocator sampleRoot sampleRequest
        (sampleStart 0)).2 =
      sampleMapped := by
  rw [sample_firstStep]

private theorem sampleMapped_rootClear :
    RootClear sampleRoot sampleMapped := by
  have hFresh : FreshFrames sampleAllocator sampleRoot 3 :=
    sample_freshFrames le_rfl
  have hClear :
      RootClear sampleRoot
        (bootStep sampleAllocator sampleRoot sampleRequest
          (sampleStart 0)).2 :=
    rootClear_bootStep (by decide) (by decide) hFresh
      (fun _ => Or.inl (by decide)) sample_rootClear
  rw [sample_firstAfter] at hClear
  exact hClear

private theorem sampleMapped_leaf :
    sampleMapped.word (lowSlot 5) =
      constructTableEntry 0x300000
        (PageFlags.Present ||| PageFlags.WriteBit) := by
  unfold sampleMapped
  rw [PagingState.word_storeLeaf _ _ (by decide) (by decide),
    if_pos rfl]

/- The L2 table of the sample page is linked at index 3. -/
private theorem sampleMapped_linked :
    sampleMapped.word (entryAddress sampleRoot 3) ≠ 0 := by
  have hFresh : FreshFrames sampleAllocator sampleRoot 3 :=
    sample_freshFrames le_rfl
  have hLinked :
      ((sampleRequest.walk sampleAllocator
              sampleRoot).afterL1
            (sampleStart 0)).2.word
          (entryAddress sampleRoot 3) ≠
        0 :=
    root_linked_of_createsL2 hFresh (by decide) (by decide)
      ⟨(Walk.complete_of_succeeds sample_succeeds _).hL3,
        (sample_noTables hFresh).1, sample_succeeds _⟩
  unfold sampleMapped
  rw [PagingState.word_storeLeaf _ _ (by decide) (by decide),
    if_neg (by decide)]
  exact hLinked

/- Three words of the other path are one and the same. -/
private theorem sampleMapped_pathTaken :
    PathTaken sampleRoot otherPage sampleMapped := by
  have hIndex4 : l4Idx otherPage = 3 := by decide
  have hIndex3 : l3Idx otherPage = 5 := by decide
  have hIndex2 : l2Idx otherPage = 5 := by decide
  have hIndex1 : l1Idx otherPage = 5 := by decide
  have hTaken : sampleMapped.word (lowSlot 5) ≠ 0 := by
    rw [sampleMapped_leaf]
    decide
  have hDecoded :
      getAddrFromEntry (sampleMapped.word (lowSlot 5)) =
        0 := by
    rw [sampleMapped_leaf]
    decide
  have hTables :
      TablesAtZero sampleRoot otherPage sampleMapped := by
    refine ⟨sampleMapped_rootClear, ?_, ?_⟩
    · rw [hIndex3]
      exact hDecoded
    · rw [hIndex2]
      exact hDecoded
  rw [pathTaken_iff hTables, hIndex4, hIndex3, hIndex2,
    hIndex1]
  exact ⟨sampleMapped_linked, hTaken, hTaken, hTaken⟩

/- The call for the other page says that it exists. -/
private theorem other_secondStep :
    ∃ after,
      bootStep sampleAllocator sampleRoot otherRequest
            sampleMapped =
          (.EntryExists, after) ∧
        after.frames = sampleMapped.frames := by
  have hOutcome :
      (otherRequest.walk sampleAllocator sampleRoot).Outcome
        sampleMapped otherRequest.physAddress
        otherRequest.flags false
        (bootStep sampleAllocator sampleRoot otherRequest
          sampleMapped) :=
    bootStep_outcome sampleAllocator sampleRoot otherRequest
      sampleMapped
  have hEnds :=
    (Walk.endsAtLeaf_of_pathTaken
      (w := otherRequest.walk sampleAllocator sampleRoot)
      sampleMapped_pathTaken).1
  rcases hSecond :
      bootStep sampleAllocator sampleRoot otherRequest
        sampleMapped with
    ⟨output, after⟩
  rw [hSecond] at hOutcome
  obtain rfl : output = .EntryExists :=
    (hOutcome.exists_iff (by decide)).mpr hEnds
  refine ⟨after, rfl, ?_⟩
  exact
    ((hOutcome.unchanged_iff_pathTaken rfl).mpr
      sampleMapped_pathTaken).2

private theorem samplePage_ne_otherPage :
    ¬ SamePage sampleRequest.virtAddress
      otherRequest.virtAddress := by
  unfold SamePage
  decide

/-
  A boot loader maps one page. Another one, never mapped, is
  then reported to exist: its path leads through the leaf of
  the first page.
-/
theorem forceWriteExact_fails :
    ZeroedRoot sampleRoot (sampleStart 0) ∧
      FreshFrames sampleAllocator sampleRoot
        (bootFinal sampleAllocator sampleRoot
          [sampleRequest, otherRequest]
          (sampleStart 0)).frames ∧
      (∀ request ∈ [sampleRequest, otherRequest],
        VirtualPage request.virtAddress ∧
          request.flags.Has PageFlags.Present) ∧
      ¬ ForceWriteExact sampleAllocator sampleRoot
        [sampleRequest, otherRequest] (sampleStart 0) := by
  have hOther : VirtualPage otherPage :=
    ⟨by decide, by decide, by decide, by decide, by decide,
      by decide⟩
  rcases other_secondStep with ⟨after, hSecond, hFrames⟩
  have hRun :
      bootRun sampleAllocator sampleRoot
          [sampleRequest, otherRequest] (sampleStart 0) =
        [{ before := sampleStart 0
           input := sampleRequest
           output := .NoError
           after := sampleMapped },
          { before := sampleMapped
            input := otherRequest
            output := .EntryExists
            after := after }] := by
    rw [bootRun_cons, sample_firstStep, bootRun_cons,
      hSecond, bootRun_nil]
  have hFirst :=
    (bootStep_outcome sampleAllocator sampleRoot
      sampleRequest (sampleStart 0)).frames.2
  have hFinal :
      (bootFinal sampleAllocator sampleRoot
          [sampleRequest, otherRequest]
          (sampleStart 0)).frames ≤
        3 := by
    rw [bootFinal_cons, sample_firstAfter, bootFinal_cons,
      hSecond, bootFinal_nil, hFrames]
    rw [sample_firstAfter] at hFirst
    exact hFirst
  refine
    ⟨sample_zeroedRoot 0, sample_freshFrames hFinal, ?_, ?_⟩
  · intro request hRequest
    rcases List.mem_cons.mp hRequest with rfl | hLast
    · exact ⟨sample_virtualPage, by decide⟩
    · obtain rfl := List.mem_singleton.mp hLast
      exact ⟨hOther, by decide⟩
  · intro hExact
    have hLast := hExact [_] _ [] hRun rfl
    rcases hLast.hExists.mp rfl with
      ⟨earlier, hEarlier, _, hSame⟩
    obtain rfl := List.mem_singleton.mp hEarlier
    exact absurd hSame samplePage_ne_otherPage

end Paginator

end Chihuahua
