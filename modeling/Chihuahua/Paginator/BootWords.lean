import Chihuahua.Paginator.Boot

/-
  What the steps of the paging controller do to the words of
  physical memory.

  An entry decodes to one of four addresses below 64, so the
  code looks for every L3, L2 and L1 table in the first
  words of memory.

  Main declarations:
    * `word_createTable` and `word_storeLeaf`
    * `Walk.Outcome.preserves`
-/

------------------------------------------------------------
-- Slots
------------------------------------------------------------

namespace Chihuahua

namespace Paginator

open ByteMachine Essentials

theorem and_indexMask_lt
    (x : Word) :
    (x &&& INDEX_MASK).toNat < 512 := by
  have hLe : (x &&& INDEX_MASK).toNat ≤ INDEX_MASK.toNat := by
    rw [BitVec.toNat_and]
    exact Nat.and_le_right
  have hMask : INDEX_MASK.toNat = 511 := rfl
  omega

theorem l4Idx_lt (v : Addr) : (l4Idx v).toNat < 512 :=
  and_indexMask_lt _

theorem l3Idx_lt (v : Addr) : (l3Idx v).toNat < 512 :=
  and_indexMask_lt _

theorem l2Idx_lt (v : Addr) : (l2Idx v).toNat < 512 :=
  and_indexMask_lt _

theorem l1Idx_lt (v : Addr) : (l1Idx v).toNat < 512 :=
  and_indexMask_lt _

theorem aligned_entryAddress
    {table : Addr}
    (hTable : Aligned 8 table)
    (idx : Word) :
    Aligned 8 (entryAddress table idx) := by
  unfold Aligned entryAddress at *
  bv_omega

theorem aligned_word_of_page
    {a : Addr}
    (hAligned : Aligned 4096 a) :
    Aligned 8 a :=
  hAligned.of_dvd (by norm_num)

/- A page is a table of 512 entries. -/
theorem entryAddress_toNat
    {table : Addr}
    (hTable : Aligned 4096 table)
    {idx : Word}
    (hIdx : idx.toNat < 512) :
    (entryAddress table idx).toNat =
      table.toNat + 8 * idx.toNat := by
  unfold Aligned at hTable
  have hLt := table.isLt
  unfold entryAddress
  bv_omega

theorem inRange_page_iff
    {page : Addr}
    (hPage : Aligned 4096 page)
    (a : Addr) :
    InRange page 4096 a ↔
      a.toNat / 4096 = page.toNat / 4096 :=
  inRange_iff_div_eq (by norm_num) (by norm_num) hPage a

theorem inRange_entryAddress
    {table : Addr}
    (hTable : Aligned 4096 table)
    {idx : Word}
    (hIdx : idx.toNat < 512) :
    InRange table 4096 (entryAddress table idx) := by
  rw [inRange_page_iff hTable,
    entryAddress_toNat hTable hIdx]
  unfold Aligned at hTable
  omega

theorem entryAddress_inj
    {table : Addr}
    {i j : Word}
    (hI : i.toNat < 512)
    (hJ : j.toNat < 512)
    (hEq : entryAddress table i = entryAddress table j) :
    i = j := by
  unfold entryAddress at hEq
  bv_omega

theorem aligned_decodedSlot
    (entry idx : Word) :
    Aligned 8 (entryAddress (getAddrFromEntry entry) idx) :=
  aligned_entryAddress (getAddrFromEntry_toNat entry).1 idx

theorem Walk.aligned_slotLeaf
    (w : Walk)
    (s : PagingState) :
    Aligned 8 (w.slotLeaf s) :=
  aligned_decodedSlot _ _

/- Slots in different pages differ. -/
theorem ne_of_inRange_page
    {page page' a b : Addr}
    (hPage : Aligned 4096 page)
    (hPage' : Aligned 4096 page')
    (hNe : page ≠ page')
    (hA : InRange page 4096 a)
    (hB : InRange page' 4096 b) :
    a ≠ b := by
  rintro rfl
  exact
    rangesDisjoint_of_aligned (by norm_num) (by norm_num)
      hPage hPage' hNe a hA hB

/- The slot of an index in the table at address zero. -/
def lowSlot (idx : Word) : Addr :=
  entryAddress 0 idx

theorem aligned_zero (granule : Nat) :
    Aligned granule (0 : Addr) :=
  Nat.zero_mod granule

/- The self-map of a created table stays in page zero. -/
theorem entryAddress_ne_selfMap
    {table : Addr}
    (hTable : Aligned 4096 table)
    (hNonzero : table ≠ 0)
    {idx : Word}
    (hIdx : idx.toNat < 512) :
    entryAddress table idx ≠
      lowSlot RECURSIVE_INDEX :=
  ne_of_inRange_page hTable (aligned_zero 4096) hNonzero
    (inRange_entryAddress hTable hIdx)
    (inRange_entryAddress (aligned_zero 4096) (by decide))

theorem not_inRange_lowSlot
    {page : Addr}
    (hPage : Aligned 4096 page)
    (hNonzero : page ≠ 0)
    {idx : Word}
    (hIdx : idx.toNat < 512) :
    ¬ InRange page 4096 (lowSlot idx) := by
  intro hIn
  exact
    ne_of_inRange_page hPage (aligned_zero 4096) hNonzero hIn
      (inRange_entryAddress (aligned_zero 4096) hIdx) rfl

------------------------------------------------------------
-- Words After a Step
------------------------------------------------------------

namespace PagingState

@[simp] theorem word_failAlloc
    (s : PagingState)
    (a : Addr) :
    s.failAlloc.word a = s.word a := rfl

theorem word_storeLeaf
    (s : PagingState)
    {slot a : Addr}
    (entry : Word)
    (hSlot : Aligned 8 slot)
    (hAligned : Aligned 8 a) :
    (s.storeLeaf slot entry).word a =
      if a = slot then entry else s.word a :=
  Memory.load64_store64 s.machine.mem entry hAligned hSlot

/- A leaf outside a table leaves its entries alone. -/
theorem word_storeLeaf_of_outside
    (s : PagingState)
    {table slot : Addr}
    (entry : Word)
    (hTable : Aligned 4096 table)
    (hSlot : Aligned 8 slot)
    (hOutside : ¬ InRange table 4096 slot)
    {idx : Word}
    (hIdx : idx.toNat < 512) :
    (s.storeLeaf slot entry).word (entryAddress table idx) =
      s.word (entryAddress table idx) := by
  rw [word_storeLeaf s entry hSlot
    (aligned_entryAddress (aligned_word_of_page hTable) idx),
    if_neg]
  rintro rfl
  exact hOutside (inRange_entryAddress hTable hIdx)

/-
  A created table is linked from the root and, as the code
  decodes its entry, maps itself in the first word table.
-/
theorem word_createTable
    (s : PagingState)
    {rootPageTable frame a : Addr}
    (virtAddress : Addr)
    (level : TableLevel)
    (idx : Word)
    (hRoot : Aligned 4096 rootPageTable)
    (hFrame : Aligned 4096 frame)
    (hAligned : Aligned 8 a) :
    (s.createTable rootPageTable virtAddress level idx
        frame).word a =
      if a = lowSlot RECURSIVE_INDEX then
        tableEntry frame
      else if a = entryAddress rootPageTable idx then
        tableEntry frame
      else if InRange frame 4096 a then 0
      else s.word a := by
  have hSelf :
      Aligned 8 (lowSlot RECURSIVE_INDEX) := by
    decide
  have hSlot :
      Aligned 8 (entryAddress rootPageTable idx) :=
    aligned_entryAddress (aligned_word_of_page hRoot) idx
  have hCleared :
      (memset frame 0 PAGE_TABLE_SIZE s.machine).2.mem.load64
          a =
        if InRange frame 4096 a then 0 else s.word a := by
    have hPage : (PAGE_TABLE_SIZE : BitVec 64).toNat = 4096 :=
      rfl
    rw [memset_mem, hPage]
    exact
      Memory.load64_paint_zero s.machine.mem (by norm_num)
        (by norm_num) (by norm_num) hFrame hAligned
  unfold word createTable
  rw [getAddrFromEntry_tableEntry hFrame]
  show
    ((((memset frame 0 PAGE_TABLE_SIZE
      s.machine).2.mem).store64
        (entryAddress rootPageTable idx)
        (tableEntry frame)).store64
      (lowSlot RECURSIVE_INDEX)
      (tableEntry frame)).load64 a = _
  rw [Memory.load64_store64 _ _ hAligned hSelf,
    Memory.load64_store64 _ _ hAligned hSlot, hCleared]
  rfl

end PagingState

------------------------------------------------------------
-- What a Call Preserves
------------------------------------------------------------

namespace Walk

variable (w : Walk)

/-
  A property kept by each way of changing the state, at the
  addresses the code uses, is kept by the whole call.
-/
structure Keeps (P : PagingState → Prop) : Prop where
  hFail : ∀ t, P t → P t.failAlloc
  hCreate :
    ∀ t level idx,
      P t →
        idx.toNat < 512 →
          w.allocator t.frames ≠ 0 →
            P
              (t.createTable w.rootPageTable w.virtAddress
                level idx (w.allocator t.frames))

variable {w} {s : PagingState} {P : PagingState → Prop}

theorem BlockOutcome.preserves
    (hKeeps : w.Keeps P)
    {level : TableLevel}
    {slot : Addr}
    {idx : Word}
    {result : Option Word × PagingState}
    (hOutcome : w.BlockOutcome s level slot idx result)
    (hIdx : idx.toNat < 512)
    (hP : P s) :
    P result.2 := by
  cases hOutcome with
  | present hFound => exact hP
  | failed hFound hAlloc => exact hKeeps.hFail s hP
  | created hFound hAlloc =>
      exact hKeeps.hCreate s level idx hP hIdx hAlloc

/- A missing table is created if there is a frame for it. -/
theorem BlockOutcome.of_missing
    {level : TableLevel}
    {slot : Addr}
    {idx : Word}
    {result : Option Word × PagingState}
    (hOutcome : w.BlockOutcome s level slot idx result)
    (hFound : s.word slot = 0) :
    (result.1 = none ↔ w.allocator s.frames = 0) ∧
      result.2.frames = s.frames + 1 := by
  cases hOutcome with
  | present hPresent => exact absurd hFound hPresent
  | failed _ hAlloc => exact ⟨iff_of_true rfl hAlloc, rfl⟩
  | created _ hAlloc =>
      exact ⟨iff_of_false (by simp) hAlloc, rfl⟩

/- A new table lies in the frame handed out for it. -/
theorem BlockOutcome.tables
    {level : TableLevel}
    {slot : Addr}
    {idx : Word}
    {result : Option Word × PagingState}
    (hOutcome : w.BlockOutcome s level slot idx result) :
    ∀ record ∈ result.2.tables,
      record ∈ s.tables ∨
        ∃ n,
          w.allocator n ≠ 0 ∧
            record.frame = w.allocator n := by
  intro record hRecord
  cases hOutcome with
  | present hFound => exact Or.inl hRecord
  | failed hFound hAlloc => exact Or.inl hRecord
  | created hFound hAlloc =>
      rcases List.mem_cons.mp hRecord with rfl | hOld
      · exact Or.inr ⟨s.frames, hAlloc, rfl⟩
      · exact Or.inl hOld

theorem BlockOutcome.frames
    {level : TableLevel}
    {slot : Addr}
    {idx : Word}
    {result : Option Word × PagingState}
    (hOutcome : w.BlockOutcome s level slot idx result) :
    s.frames ≤ result.2.frames ∧
      result.2.frames ≤ s.frames + 1 := by
  cases hOutcome with
  | present hFound => exact ⟨le_rfl, Nat.le_succ _⟩
  | failed hFound hAlloc => exact ⟨Nat.le_succ _, le_rfl⟩
  | created hFound hAlloc => exact ⟨Nat.le_succ _, le_rfl⟩

/- A call asks for at most one frame for each level. -/
theorem Outcome.frames
    {physAddress : Addr}
    {flags : PageFlags}
    {forceWrite : Bool}
    {result : PageMapError × PagingState}
    (hOutcome :
      w.Outcome s physAddress flags forceWrite result) :
    s.frames ≤ result.2.frames ∧
      result.2.frames ≤ s.frames + 3 := by
  have hL3 := (w.afterL3_outcome s).frames
  have hL2 := (w.afterL2_outcome s).frames
  have hL1 := (w.afterL1_outcome s).frames
  cases hOutcome with
  | invalid hSign => dsimp only; omega
  | mapped hSign hForce hMapped => dsimp only; omega
  | noL3 hPasses hNone => dsimp only; omega
  | noL2 hPasses _ hNone => dsimp only; omega
  | noL1 hPasses _ _ hNone => dsimp only; omega
  | taken hPasses hComplete hLeaf hForce =>
      dsimp only
      omega
  | stored hPasses hComplete hLeaf =>
      dsimp only [PagingState.storeLeaf]
      omega

theorem afterL3_preserves
    (hKeeps : w.Keeps P)
    (hP : P s) :
    P (w.afterL3 s).2 :=
  (w.afterL3_outcome s).preserves hKeeps (l4Idx_lt _) hP

theorem afterL2_preserves
    (hKeeps : w.Keeps P)
    (hP : P s) :
    P (w.afterL2 s).2 :=
  (w.afterL2_outcome s).preserves hKeeps (l3Idx_lt _)
    (afterL3_preserves hKeeps hP)

theorem afterL1_preserves
    (hKeeps : w.Keeps P)
    (hP : P s) :
    P (w.afterL1 s).2 :=
  (w.afterL1_outcome s).preserves hKeeps (l2Idx_lt _)
    (afterL2_preserves hKeeps hP)

theorem Outcome.preserves
    (hKeeps : w.Keeps P)
    {physAddress : Addr}
    {flags : PageFlags}
    {forceWrite : Bool}
    {result : PageMapError × PagingState}
    (hOutcome :
      w.Outcome s physAddress flags forceWrite result)
    (hStore :
      w.Stores s forceWrite →
        ∀ t,
          P t →
            P
              (t.storeLeaf (w.slotLeaf s)
                (constructTableEntry physAddress flags)))
    (hP : P s) :
    P result.2 := by
  cases hOutcome with
  | invalid hSign => exact hP
  | mapped hSign hForce hMapped => exact hP
  | noL3 hPasses hL3 => exact afterL3_preserves hKeeps hP
  | noL2 hPasses hL3 hL2 =>
      exact afterL2_preserves hKeeps hP
  | noL1 hPasses hL3 hL2 hL1 =>
      exact afterL1_preserves hKeeps hP
  | taken hPasses hComplete hLeaf hForce =>
      exact afterL1_preserves hKeeps hP
  | stored hPasses hComplete hLeaf =>
      exact
        hStore ⟨hPasses, hComplete, hLeaf⟩ _
          (afterL1_preserves hKeeps hP)

end Walk

end Paginator

end Chihuahua
