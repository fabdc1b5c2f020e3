import Chihuahua.Paginator.EntryCodec
import Chihuahua.Paginator.Footprint
import Chihuahua.Paginator.LiveMode

/-
  Activating a root table, and what the processor finds
  through it.

  A table is linked by an entry with its address shifted by
  12 bits, so the processor follows the link to a frame that
  is not the one of the table.

  Main declarations:
    * `activateRootPageTable`
    * `linkedFrame` and `linkedFrame_eq_shift`
    * `RootLinks` and `LinksLeadNowhere`
    * `bootActivation_resolves_nothing`
-/

------------------------------------------------------------
-- The Function
------------------------------------------------------------

namespace Chihuahua

namespace Paginator

open ByteMachine Transition

/- The recursive address of the root table. -/
def recursiveAddr : Addr :=
  SIGN_EXTENSION
    ||| RECURSIVE_INDEX <<< P4_SHIFT
    ||| RECURSIVE_INDEX <<< P3_SHIFT
    ||| RECURSIVE_INDEX <<< P2_SHIFT
    ||| RECURSIVE_INDEX <<< P1_SHIFT

/- The outer state is the register CR3. -/
def activateRootPageTable
    {m : Type → Type}
    [Monad m]
    (bus : Bus m)
    (rootPageTable : Addr)
    (pagingDisabledNow : Bool) : StateT Word m Bool := do
  if pagingDisabledNow then
    set rootPageTable
  else
    let physAddr ←
      StateT.lift
        (bus.load (entryAddress recursiveAddr RECURSIVE_INDEX))
    set physAddr
  return false

namespace PageTableRootController

def activateRootPageTable
    {m : Type → Type}
    [Monad m]
    (controller : PageTableRootController m) :
    StateT Word m Bool :=
  Paginator.activateRootPageTable controller.bus
    controller.rootPageTableAddress
    controller.pagingDisabledNow

end PageTableRootController

/- What is lifted comes first, and with it its fault. -/
theorem lift_bind_of_fault
    {α β : Type}
    {x : LiveM α}
    {s : PagingState}
    (hFault : x s = none)
    (f : α → StateT Word LiveM β)
    (cr3 : Word) :
    (StateT.lift x >>= f) cr3 s = none := by
  have hLift :
      (StateT.lift x >>= f) cr3 s =
        (x s).bind (fun r => f r.1 cr3 r.2) := by
    show
      ((x >>= fun a => pure (a, cr3)) >>=
        fun r => f r.1 r.2) s = _
    rw [live_bind, live_bind]
    cases x s <;> rfl
  rw [hLift, hFault]
  rfl

/- Under paging the function faults before CR3 is loaded. -/
theorem activateRootPageTable_live
    (allocator : Nat → Addr)
    (rootFrame rootPageTable : Addr)
    (cr3 : Word)
    (s : PagingState) :
    activateRootPageTable (liveBus allocator rootFrame)
        rootPageTable false cr3 s =
      none := by
  have hEntry :
      ¬ Mmu.Canonical
        (entryAddress recursiveAddr RECURSIVE_INDEX) := by
    decide
  unfold activateRootPageTable
  rw [if_neg Bool.false_ne_true]
  apply lift_bind_of_fault
  rw [load_live]
  unfold PagingState.resolve
  rw [Mmu.resolve_of_not_canonical _ _ hEntry]
  rfl

------------------------------------------------------------
-- The Frame an Entry Links
------------------------------------------------------------

/- Where the processor looks for a table in the frame. -/
def linkedFrame (frame : Addr) : Addr :=
  Mmu.frame (tableEntry frame)

theorem links_tableEntry
    (frame : Addr) :
    Mmu.Links (tableEntry frame) (linkedFrame frame) := by
  refine ⟨?_, ?_, rfl⟩
  · unfold Mmu.present tableEntry
    rw [getLsbD_constructTableEntry]
    exact Bool.or_eq_true_iff.mpr (Or.inl (by decide))
  · unfold Mmu.pageSize tableEntry
    rw [getLsbD_constructTableEntry]
    exact Bool.or_eq_false_iff.mpr ⟨by decide, rfl⟩

/- The address is shifted once more than it should be. -/
theorem linkedFrame_eq_shift
    {frame : Addr}
    (hWidth : frame.toNat < 2 ^ 40) :
    linkedFrame frame = frame <<< 12 := by
  apply BitVec.eq_of_getLsbD_eq
  intro i hi
  unfold linkedFrame tableEntry
  rw [getLsbD_frame_constructTableEntry,
    BitVec.getLsbD_shiftLeft, decide_eq_true hi,
    Bool.true_and]
  by_cases hLow : i < 12
  · simp [hLow]
  by_cases hHigh : i < 52
  · simp [hLow, hHigh]
    omega
  · have hClear : frame.getLsbD (i - 12) = false :=
      Nat.testBit_lt_two_pow
        (lt_of_lt_of_le hWidth
          (Nat.pow_le_pow_right (by norm_num) (by omega)))
    rw [hClear, Bool.and_false, Bool.and_false]

------------------------------------------------------------
-- The Root of a Run
------------------------------------------------------------

/- An entry of the root is clear or links a frame. -/
abbrev RootLinks
    (allocator : Nat → Addr)
    (rootPageTable : Addr)
    (s : PagingState) : Prop :=
  RootWords rootPageTable
    (fun entry => entry = 0 ∨ LinksCreated allocator entry) s

section Root

variable {allocator : Nat → Addr} {rootPageTable : Addr}
variable {calls : Nat}
variable
  (hRoot : Aligned 4096 rootPageTable)
  (hHigh : 8192 ≤ rootPageTable.toNat)
  (hFresh : FreshFrames allocator rootPageTable calls)

include hRoot hHigh hFresh

/- The slots of leaves are low, those of tables are linked. -/
theorem rootLinks_bootStep
    (request : MapRequest)
    {s : PagingState}
    (hLinks : RootLinks allocator rootPageTable s) :
    RootLinks allocator rootPageTable
      (bootStep allocator rootPageTable request s).2 := by
  have hNonzero : rootPageTable ≠ 0 := by
    rintro rfl
    simp at hHigh
  refine
    (bootStep_outcome allocator rootPageTable request
      s).preserves ⟨fun _ hT => hT, ?_⟩ ?_ hLinks
  · intro t level idx hT hIdx hAlloc i hI
    show
      (fun entry =>
          entry = 0 ∨ LinksCreated allocator entry)
        ((t.createTable rootPageTable request.virtAddress
          level idx (allocator t.frames)).word
            (entryAddress rootPageTable i))
    rw [word_createTable_root hRoot (hFresh.hAligned _)
      hNonzero (hFresh.hRoot _) t _ level hIdx hI]
    split_ifs
    · exact Or.inr ⟨t.frames, hAlloc, rfl⟩
    · exact hT i hI
  · intro _ t hT
    refine
      rootWords_storeLeaf hRoot (Walk.aligned_slotLeaf _ _)
        (Or.inr ?_) hT
    have hTable :=
      (getAddrFromEntry_toNat
        ((request.walk allocator rootPageTable).entryForL1
          s)).2
    have hIdx := l1Idx_lt request.virtAddress
    show
      ¬ InRange rootPageTable 4096
        (entryAddress
          (getAddrFromEntry
            ((request.walk allocator rootPageTable).entryForL1
              s))
          (l1Idx request.virtAddress))
    generalize getAddrFromEntry _ = table at hTable ⊢
    generalize l1Idx _ = idx at hIdx ⊢
    unfold Aligned at hRoot
    unfold InRange entryAddress
    bv_omega

/- What a run keeps, seen from the state it starts in. -/
theorem rootLinks_and_onlyClears
    (requests : List MapRequest)
    {s : PagingState}
    (hLinks : RootLinks allocator rootPageTable s) :
    RootLinks allocator rootPageTable
        (bootFinal allocator rootPageTable requests s) ∧
      OnlyClears rootPageTable s
        (bootFinal allocator rootPageTable requests s) := by
  refine
    final_invariant
      (fun t =>
        RootLinks allocator rootPageTable t ∧
          OnlyClears rootPageTable s t)
      ?_ requests ⟨hLinks, OnlyClears.refl s⟩
  rintro request t ⟨hT, hClears⟩
  exact
    ⟨rootLinks_bootStep hRoot hHigh hFresh request hT,
      hClears.bootStep allocator request⟩

end Root

------------------------------------------------------------
-- The Processor after Activation
------------------------------------------------------------

/-
  The frames that the processor takes for tables are not
  those the paging code writes to, and hold no entries.
-/
structure LinksLeadNowhere
    (allocator : Nat → Addr)
    (rootPageTable : Addr)
    (s : PagingState) : Prop where
  hOutside :
    ∀ n,
      allocator n ≠ 0 →
        ∀ b,
          InRange (linkedFrame (allocator n)) 4096 b →
            ¬ TableByte rootPageTable b
  hEmpty :
    ∀ n idx,
      allocator n ≠ 0 →
        idx.toNat < 512 →
          Mmu.present
              (s.word
                (entryAddress (linkedFrame (allocator n))
                  idx)) =
            false

/- The root is where CR3 says it is. -/
theorem frame_of_physicalFrame
    {a : Addr}
    (hFrame : PhysicalFrame a) :
    Mmu.frame a = a := by
  apply BitVec.eq_of_getLsbD_eq
  intro i hi
  rw [getLsbD_frame]
  by_cases hLow : i < 12
  · rw [hFrame.getLsbD_of_lt hLow, Bool.false_and]
  by_cases hHigh : 52 ≤ i
  · rw [hFrame.getLsbD_of_le hHigh, Bool.false_and]
  · rw [decide_eq_true ⟨by omega, by omega⟩, Bool.and_true]

section Activation

variable {allocator : Nat → Addr} {rootPageTable : Addr}
variable {calls : Nat} {s t : PagingState}

/- Clearing frames adds no entry to the frames linked. -/
theorem not_present_of_onlyClears
    (hNowhere : LinksLeadNowhere allocator rootPageTable s)
    (hClears : OnlyClears rootPageTable s t)
    {n : Nat}
    (hAlloc : allocator n ≠ 0)
    {idx : Word}
    (hIdx : idx.toNat < 512) :
    Mmu.present
        (t.word
          (entryAddress (linkedFrame (allocator n)) idx)) =
      false := by
  obtain ⟨created, _, hBytes⟩ := hClears
  have hEmpty := hNowhere.hEmpty n idx hAlloc hIdx
  have hRange :
      InRange (linkedFrame (allocator n)) 4096
        (entryAddress (linkedFrame (allocator n)) idx) :=
    inRange_entryAddress (Mmu.aligned_frame _) hIdx
  have hOutside := hNowhere.hOutside n hAlloc _ hRange
  unfold PagingState.word at hEmpty ⊢
  rw [Mmu.present_load64] at hEmpty ⊢
  rw [hBytes _ hOutside]
  split_ifs
  · rfl
  · exact hEmpty

/- A walk ends at the root, or in the frame it links. -/
theorem resolve_of_rootLinks
    (hRoots : RootLinks allocator rootPageTable t)
    (hAbsent :
      ∀ n idx,
        allocator n ≠ 0 →
          idx.toNat < 512 →
            Mmu.present
                (t.word
                  (entryAddress (linkedFrame (allocator n))
                    idx)) =
              false)
    (virtAddress : Addr) :
    t.resolve rootPageTable virtAddress = none := by
  unfold PagingState.resolve Mmu.resolve
  split_ifs
  · rcases hRoots _ (l4Idx_lt virtAddress) with
      hClear | ⟨n, hAlloc, hEntry⟩
    · apply Mmu.walk_of_absent
      exact (congrArg Mmu.present hClear).trans rfl
    · have hLinks :
          Mmu.Links
            (t.machine.mem.load64
              (Mmu.slot 3 virtAddress rootPageTable))
            (linkedFrame (allocator n)) := by
        have hLinked := links_tableEntry (allocator n)
        rw [← hEntry] at hLinked
        exact hLinked
      rw [Mmu.walk_of_links hLinks]
      apply Mmu.walk_of_absent
      exact
        hAbsent n (l3Idx virtAddress) hAlloc
          (l3Idx_lt virtAddress)
  · rfl

/-
  Whatever the boot loader has mapped, and whatever it was
  answered: with its root in CR3, no address resolves, and
  the function reports that it failed.
-/
theorem bootActivation_resolves_nothing
    (hStart : ZeroedRoot rootPageTable s)
    (hHigh : 8192 ≤ rootPageTable.toNat)
    (hWidth : rootPageTable.toNat < 2 ^ 52)
    (hFresh : FreshFrames allocator rootPageTable calls)
    (hNowhere : LinksLeadNowhere allocator rootPageTable s)
    (requests : List MapRequest)
    (cr3 : Word) :
    let t := bootFinal allocator rootPageTable requests s
    ∃ active,
      (bootController allocator
            rootPageTable).activateRootPageTable cr3 t =
          ((false, active), t) ∧
        ∀ virtAddress,
          t.resolve (Mmu.frame active) virtAddress = none := by
  intro t
  refine ⟨rootPageTable, rfl, ?_⟩
  intro virtAddress
  rw [frame_of_physicalFrame ⟨hStart.hAligned, hWidth⟩]
  obtain ⟨hRoots, hClears⟩ :=
    rootLinks_and_onlyClears hStart.hAligned hHigh hFresh
      requests (hStart.rootWords (Or.inl rfl))
  refine resolve_of_rootLinks hRoots ?_ virtAddress
  intro n idx hAlloc hIdx
  exact
    not_present_of_onlyClears hNowhere hClears hAlloc hIdx

end Activation

/- Frames of the first mebibytes, linked far above them. -/
theorem sample_linksLeadNowhere :
    LinksLeadNowhere sampleAllocator sampleRoot
      (sampleStart 0) := by
  have hHigh (n : Nat) :
      2 ^ 32 ≤ (linkedFrame (sampleAllocator n)).toNat ∧
        (linkedFrame (sampleAllocator n)).toNat ≤ 2 ^ 34 := by
    have hFrame := sampleAllocator_toNat n
    have hLt : n % 3 < 3 := Nat.mod_lt n (by norm_num)
    rw [linkedFrame_eq_shift (by omega),
      BitVec.toNat_shiftLeft, hFrame, Nat.shiftLeft_eq]
    omega
  refine ⟨?_, ?_⟩
  · intro n _ b hRange hTable
    have hBounds := hHigh n
    generalize linkedFrame (sampleAllocator n) = table
      at hRange hBounds
    unfold TableByte InRange sampleRoot at *
    bv_omega
  · intro n idx _ _
    unfold PagingState.word
    rw [Mmu.present_load64]
    have hByte :
        (sampleStart 0).machine.mem
            (entryAddress (linkedFrame (sampleAllocator n))
              idx) =
          0 :=
      ite_self _
    rw [hByte]
    rfl

theorem bootActivation_resolves_nothing_sample :
    let t :=
      bootFinal sampleAllocator sampleRoot [sampleRequest]
        (sampleStart 0)
    ∃ active,
      (bootController sampleAllocator
            sampleRoot).activateRootPageTable 0 t =
          ((false, active), t) ∧
        ∀ virtAddress,
          t.resolve (Mmu.frame active) virtAddress = none :=
  bootActivation_resolves_nothing (sample_zeroedRoot 0)
    (by decide) (by decide) (sample_freshFrames le_rfl)
    sample_linksLeadNowhere [sampleRequest] 0

end Paginator

end Chihuahua
