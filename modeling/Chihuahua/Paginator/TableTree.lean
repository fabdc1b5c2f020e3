import Chihuahua.Paginator.RootController

/-
  The shape of the tree of tables.

  The code links a new L2 or L1 table from the root. The
  tables form a tree only while no such table is created.

  Main declarations:
    * `ParentSlot`, `Links` and `TreeShape`
    * `TableTreeKept`
    * `UpperTablesPresent`
    * `tableTreeKept_of_present`
-/

------------------------------------------------------------
-- The Tree of Tables
------------------------------------------------------------

namespace Chihuahua

namespace Paginator

open ByteMachine

/- A table whose entries are to stand for tables. -/
def NonLeafTable
    (rootPageTable : Addr)
    (s : PagingState)
    (table : Addr) : Prop :=
  table = rootPageTable ∨
    ∃ record ∈ s.tables,
      record.level ≠ .L1 ∧ record.frame = table

/-
  The entry that is to link a table: it lies in the table
  one level above, on the walk the table was created for.
-/
inductive ParentSlot
    (rootPageTable : Addr)
    (s : PagingState)
    (record : TableRecord) : Addr → Word → Prop where
| root
    (hLevel : record.level = .L3) :
    ParentSlot rootPageTable s record rootPageTable
      (l4Idx record.virtAddress)
| l3Table
    (parent : TableRecord)
    (hParent : parent ∈ s.tables)
    (hLevel : record.level = .L2)
    (hAbove : parent.level = .L3)
    (hL4 :
      l4Idx parent.virtAddress = l4Idx record.virtAddress) :
    ParentSlot rootPageTable s record parent.frame
      (l3Idx record.virtAddress)
| l2Table
    (parent : TableRecord)
    (hParent : parent ∈ s.tables)
    (hLevel : record.level = .L1)
    (hAbove : parent.level = .L2)
    (hL4 :
      l4Idx parent.virtAddress = l4Idx record.virtAddress)
    (hL3 :
      l3Idx parent.virtAddress = l3Idx record.virtAddress) :
    ParentSlot rootPageTable s record parent.frame
      (l2Idx record.virtAddress)

/- An entry, other than its self-map, that links a table. -/
structure Links
    (rootPageTable : Addr)
    (s : PagingState)
    (record : TableRecord)
    (table : Addr)
    (idx : Word) : Prop where
  hTable : NonLeafTable rootPageTable s table
  hIdx : idx.toNat < 512
  hOther :
    ¬ (table = record.frame ∧ idx = RECURSIVE_INDEX)
  hWord :
    s.word (entryAddress table idx) =
      tableEntry record.frame

/- Each table is linked once, and from its parent. -/
def TreeShape
    (rootPageTable : Addr)
    (s : PagingState) : Prop :=
  ∀ record ∈ s.tables,
    ∃ table idx,
      ParentSlot rootPageTable s record table idx ∧
        Links rootPageTable s record table idx ∧
        ∀ table' idx',
          Links rootPageTable s record table' idx' →
            table' = table ∧ idx' = idx

/- Pages that share their L3, L2 and L1 table. -/
structure SameTables (v v' : Addr) : Prop where
  hL4 : l4Idx v = l4Idx v'
  hL3 : l3Idx v = l3Idx v'
  hL2 : l2Idx v = l2Idx v'

structure TableTreeKept
    (allocator : Nat → Addr)
    (rootPageTable : Addr)
    (requests : List MapRequest)
    (s : PagingState) : Prop where
  hShape :
    ∀ t,
      Transition.Reached (bootStep allocator rootPageTable)
          requests s t →
        TreeShape rootPageTable t
  hRoot :
    ∀ taken ∈ bootRun allocator rootPageTable requests s,
      ∀ idx : Word,
        idx.toNat < 512 →
          idx ≠ l4Idx taken.input.virtAddress →
            taken.after.word
                (entryAddress rootPageTable idx) =
              taken.before.word
                (entryAddress rootPageTable idx)
  hReuse :
    ∀ past taken future,
      bootRun allocator rootPageTable requests s =
          past ++ taken :: future →
        (∃ earlier ∈ past,
          earlier.output = .NoError ∧
            SameTables earlier.input.virtAddress
              taken.input.virtAddress) →
          taken.after.frames = taken.before.frames

------------------------------------------------------------
-- Calls That Create No L2 or L1 Table
------------------------------------------------------------

/-
  The call finds the L2 and the L1 table it needs, and its
  leaf does not lie in the root or in a created table.
-/
structure UpperTablesPresent
    (allocator : Nat → Addr)
    (rootPageTable : Addr)
    (request : MapRequest)
    (s : PagingState) : Prop where
  hL2 :
    (request.walk allocator rootPageTable).foundL2 s ≠ 0
  hL1 :
    (request.walk allocator rootPageTable).foundL1 s ≠ 0
  hLeafRoot :
    ¬ InRange rootPageTable 4096
      ((request.walk allocator rootPageTable).slotLeaf s)
  hLeafTable :
    ∀ record ∈
      ((request.walk allocator rootPageTable).afterL3
        s).2.tables,
      ¬ InRange record.frame 4096
        ((request.walk allocator rootPageTable).slotLeaf s)

/- What such a call, or one that is turned away, can do. -/
inductive ReuseOutcome
    (allocator : Nat → Addr)
    (rootPageTable : Addr)
    (request : MapRequest)
    (s : PagingState) :
    PageMapError × PagingState → Prop where
| refused
    {output : PageMapError}
    (hOutput : output ≠ .NoError) :
    ReuseOutcome allocator rootPageTable request s
      (output, s)
| taken :
    ReuseOutcome allocator rootPageTable request s
      (.EntryExists,
        ((request.walk allocator rootPageTable).afterL3
          s).2)
| stored
    (hPresent :
      UpperTablesPresent allocator rootPageTable request s) :
    ReuseOutcome allocator rootPageTable request s
      (.NoError,
        ((request.walk allocator rootPageTable).afterL3
          s).2.storeLeaf
          ((request.walk allocator rootPageTable).slotLeaf s)
          (constructTableEntry request.physAddress
            request.flags))

theorem Walk.BlockOutcome.state_of_found
    {w : Walk}
    {s : PagingState}
    {level : TableLevel}
    {slot : Addr}
    {idx : Word}
    {result : Option Word × PagingState}
    (hOutcome : w.BlockOutcome s level slot idx result)
    (hFound : s.word slot ≠ 0) :
    result.2 = s := by
  cases hOutcome with
  | present _ => rfl
  | failed hZero _ => exact absurd hZero hFound
  | created hZero _ => exact absurd hZero hFound

section Steps

variable {allocator : Nat → Addr} {rootPageTable : Addr}
variable {calls : Nat} {request : MapRequest}
variable {s : PagingState}

theorem reuseOutcome
    (hSucceeds : ∀ n, allocator n ≠ 0)
    (hPresent :
      (request.walk allocator rootPageTable).Passes s
          request.forceWrite →
        UpperTablesPresent allocator rootPageTable request
          s) :
    ReuseOutcome allocator rootPageTable request s
      (bootStep allocator rootPageTable request s) := by
  have hOutcome :=
    bootStep_outcome allocator rootPageTable request s
  have hComplete :
      (request.walk allocator rootPageTable).Complete s :=
    Walk.complete_of_succeeds hSucceeds s
  have hSame :
      UpperTablesPresent allocator rootPageTable request s →
        ((request.walk allocator rootPageTable).afterL1 s).2 =
          ((request.walk allocator rootPageTable).afterL3
            s).2 := by
    intro hTables
    rw [(Walk.afterL1_outcome _ s).state_of_found
        hTables.hL1,
      (Walk.afterL2_outcome _ s).state_of_found hTables.hL2]
  generalize bootStep allocator rootPageTable request s =
    result at hOutcome ⊢
  cases hOutcome with
  | invalid hSign => exact .refused (by decide)
  | mapped hSign hForce hMapped =>
      exact .refused (by decide)
  | noL3 hPasses hL3 => exact absurd hL3 hComplete.hL3
  | noL2 hPasses _ hL2 => exact absurd hL2 hComplete.hL2
  | noL1 hPasses _ _ hL1 => exact absurd hL1 hComplete.hL1
  | taken hPasses _ hLeaf hForce =>
      rw [hSame (hPresent hPasses)]
      exact .taken
  | stored hPasses _ hLeaf =>
      rw [hSame (hPresent hPasses)]
      exact .stored (hPresent hPasses)

end Steps

------------------------------------------------------------
-- The Invariant
------------------------------------------------------------

/-
  Only L3 tables exist, each is linked where it belongs, the
  root holds nothing else, and the tables are empty.
-/
structure L3TablesOnly
    (allocator : Nat → Addr)
    (rootPageTable : Addr)
    (s : PagingState) : Prop where
  hLevel : ∀ record ∈ s.tables, record.level = .L3
  hFrame :
    ∀ record ∈ s.tables,
      ∃ n < s.frames, record.frame = allocator n
  hDistinct :
    ∀ record ∈ s.tables,
      ∀ other ∈ s.tables,
        record.frame = other.frame → record = other
  hLinked :
    ∀ record ∈ s.tables,
      s.word
          (entryAddress rootPageTable
            (l4Idx record.virtAddress)) =
        tableEntry record.frame
  hRootWord :
    ∀ idx : Word,
      idx.toNat < 512 →
        s.word (entryAddress rootPageTable idx) ≠ 0 →
          ∃ record ∈ s.tables,
            l4Idx record.virtAddress = idx
  hEmpty :
    ∀ record ∈ s.tables,
      ∀ idx : Word,
        idx.toNat < 512 →
          s.word (entryAddress record.frame idx) = 0

section Invariant

variable {allocator : Nat → Addr} {rootPageTable : Addr}
variable {calls : Nat} {request : MapRequest}
variable {s : PagingState}

theorem ZeroedRoot.l3TablesOnly
    (hStart : ZeroedRoot rootPageTable s) :
    L3TablesOnly allocator rootPageTable s := by
  have hTables := hStart.hTables
  constructor
  · simp [hTables]
  · simp [hTables]
  · simp [hTables]
  · simp [hTables]
  · intro idx hIdx hNonzero
    exact absurd (hStart.hZero idx hIdx) hNonzero
  · simp [hTables]

/- Entries tell the frames of a run apart. -/
def EntriesDistinct
    (allocator : Nat → Addr)
    (calls : Nat) : Prop :=
  ∀ i j,
    i < calls →
      j < calls →
        tableEntry (allocator i) = tableEntry (allocator j) →
          i = j

theorem treeShape_of_l3TablesOnly
    (hEntries : EntriesDistinct allocator calls)
    (hCalls : s.frames ≤ calls)
    (hTables : L3TablesOnly allocator rootPageTable s) :
    TreeShape rootPageTable s := by
  intro record hRecord
  refine
    ⟨rootPageTable, l4Idx record.virtAddress,
      .root (hTables.hLevel record hRecord), ?_, ?_⟩
  · refine
      ⟨Or.inl rfl, l4Idx_lt _, ?_,
        hTables.hLinked record hRecord⟩
    rintro ⟨hSame, _⟩
    -- the root's own entry would be one of an empty table
    have hEmpty :=
      hTables.hEmpty record hRecord _
        (l4Idx_lt record.virtAddress)
    rw [← hSame, hTables.hLinked record hRecord] at hEmpty
    exact tableEntry_ne_zero _ hEmpty
  · intro table idx hLinks
    rcases hLinks.hTable with rfl | hCreated
    · have hNonzero :
          s.word (entryAddress table idx) ≠ 0 := by
        rw [hLinks.hWord]
        exact tableEntry_ne_zero _
      rcases
          hTables.hRootWord idx hLinks.hIdx hNonzero with
        ⟨other, hOther, rfl⟩
      have hEntry :
          tableEntry other.frame = tableEntry record.frame :=
        (hTables.hLinked other hOther).symm.trans
          hLinks.hWord
      rcases hTables.hFrame other hOther with
        ⟨i, hI, hFrameI⟩
      rcases hTables.hFrame record hRecord with
        ⟨j, hJ, hFrameJ⟩
      rw [hFrameI, hFrameJ] at hEntry
      have hIndex :=
        hEntries i j (by omega) (by omega) hEntry
      have hSame : other = record := by
        apply
          hTables.hDistinct other hOther record hRecord
        rw [hFrameI, hFrameJ, hIndex]
      exact ⟨rfl, by rw [hSame]⟩
    · rcases hCreated with ⟨other, hOther, _, rfl⟩
      have hEmpty :=
        hTables.hEmpty other hOther idx hLinks.hIdx
      rw [hLinks.hWord] at hEmpty
      exact absurd hEmpty (tableEntry_ne_zero _)

/- A new L3 table is linked where the root had no entry. -/
theorem l3TablesOnly_createTable
    (hRoot : Aligned 4096 rootPageTable)
    (hNonzero : rootPageTable ≠ 0)
    (hFresh : FreshFrames allocator rootPageTable calls)
    (hSucceeds : ∀ n, allocator n ≠ 0)
    (hEntries : EntriesDistinct allocator calls)
    (hCalls : s.frames < calls)
    (hTables : L3TablesOnly allocator rootPageTable s)
    (virtAddress : Addr)
    (hFound :
      s.word
          (entryAddress rootPageTable (l4Idx virtAddress)) =
        0) :
    L3TablesOnly allocator rootPageTable
      (s.createTable rootPageTable virtAddress .L3
        (l4Idx virtAddress) (allocator s.frames)) := by
  have hRootWord :
      ∀ i : Word,
        i.toNat < 512 →
          (s.createTable rootPageTable virtAddress .L3
              (l4Idx virtAddress) (allocator s.frames)).word
              (entryAddress rootPageTable i) =
            if i = l4Idx virtAddress then
              tableEntry (allocator s.frames)
            else s.word (entryAddress rootPageTable i) :=
    fun i hI =>
      word_createTable_root hRoot (hFresh.hAligned _)
        hNonzero (hFresh.hRoot _) s virtAddress .L3
        (l4Idx_lt _) hI
  -- a frame handed out earlier is not the new one
  have hOlder :
      ∀ record ∈ s.tables,
        record.frame ≠ allocator s.frames := by
    intro record hRecord hSame
    rcases hTables.hFrame record hRecord with ⟨n, hN, hEq⟩
    have hIndex :=
      hEntries n s.frames (by omega) hCalls
        (by rw [← hEq, hSame])
    omega
  constructor
  · intro record hRecord
    rcases List.mem_cons.mp hRecord with rfl | hOld
    · rfl
    · exact hTables.hLevel record hOld
  · intro record hRecord
    rcases List.mem_cons.mp hRecord with rfl | hOld
    · exact ⟨s.frames, Nat.lt_succ_self _, rfl⟩
    · rcases hTables.hFrame record hOld with ⟨n, hN, hEq⟩
      exact ⟨n, Nat.lt_succ_of_lt hN, hEq⟩
  · intro record hRecord other hOther hSame
    rcases List.mem_cons.mp hRecord with rfl | hOld
    · rcases List.mem_cons.mp hOther with rfl | hOld'
      · rfl
      · exact absurd hSame.symm (hOlder other hOld')
    · rcases List.mem_cons.mp hOther with rfl | hOld'
      · exact absurd hSame (hOlder record hOld)
      · exact
          hTables.hDistinct record hOld other hOld' hSame
  · intro record hRecord
    rw [hRootWord _ (l4Idx_lt _)]
    rcases List.mem_cons.mp hRecord with rfl | hOld
    · rw [if_pos rfl]
    · have hLinked := hTables.hLinked record hOld
      rw [if_neg]
      · exact hLinked
      · intro hSame
        rw [hSame, hFound] at hLinked
        exact tableEntry_ne_zero _ hLinked.symm
  · intro idx hIdx hEntry
    by_cases hSame : idx = l4Idx virtAddress
    · exact ⟨_, List.mem_cons_self, hSame.symm⟩
    · rw [hRootWord idx hIdx, if_neg hSame] at hEntry
      rcases hTables.hRootWord idx hIdx hEntry with
        ⟨record, hRecord, hEq⟩
      exact ⟨record, List.mem_cons_of_mem _ hRecord, hEq⟩
  · intro record hRecord idx hIdx
    rcases List.mem_cons.mp hRecord with rfl | hOld
    · rw [word_createTable_table hRoot (hFresh.hAligned _)
        (hFresh.hAligned _) (hSucceeds _) (hFresh.hRoot _) s
        virtAddress .L3 (l4Idx_lt _) hIdx, if_pos rfl]
    · rcases hTables.hFrame record hOld with ⟨n, hN, hEq⟩
      rw [hEq,
        word_createTable_table hRoot (hFresh.hAligned _)
          (hFresh.hAligned n) (hSucceeds n) (hFresh.hRoot n)
          s virtAddress .L3 (l4Idx_lt _) hIdx, ← hEq,
        if_neg (hOlder record hOld)]
      exact hTables.hEmpty record hOld idx hIdx

/- A leaf outside all tables leaves them as they are. -/
theorem l3TablesOnly_storeLeaf
    (hRoot : Aligned 4096 rootPageTable)
    (hFresh : FreshFrames allocator rootPageTable calls)
    {slot : Addr}
    (entry : Word)
    (hSlot : Aligned 8 slot)
    (hOutsideRoot : ¬ InRange rootPageTable 4096 slot)
    (hOutside :
      ∀ record ∈ s.tables,
        ¬ InRange record.frame 4096 slot)
    (hTables : L3TablesOnly allocator rootPageTable s) :
    L3TablesOnly allocator rootPageTable
      (s.storeLeaf slot entry) := by
  have hKept
      {table : Addr}
      (hTable : Aligned 4096 table)
      (hOut : ¬ InRange table 4096 slot)
      (idx : Word)
      (hIdx : idx.toNat < 512) :=
    PagingState.word_storeLeaf_of_outside s entry hTable
      hSlot hOut hIdx
  have hAligned :
      ∀ record ∈ s.tables, Aligned 4096 record.frame := by
    intro record hRecord
    rcases hTables.hFrame record hRecord with ⟨n, _, hEq⟩
    rw [hEq]
    exact hFresh.hAligned n
  constructor
  · exact hTables.hLevel
  · exact hTables.hFrame
  · exact hTables.hDistinct
  · intro record hRecord
    rw [hKept hRoot hOutsideRoot _ (l4Idx_lt _)]
    exact hTables.hLinked record hRecord
  · intro idx hIdx hEntry
    rw [hKept hRoot hOutsideRoot idx hIdx] at hEntry
    exact hTables.hRootWord idx hIdx hEntry
  · intro record hRecord idx hIdx
    rw [hKept (hAligned record hRecord)
      (hOutside record hRecord) idx hIdx]
    exact hTables.hEmpty record hRecord idx hIdx

end Invariant

------------------------------------------------------------
-- Steps
------------------------------------------------------------

/- What a state keeps of the one before it. -/
structure TablesFollow
    (allocator : Nat → Addr)
    (rootPageTable virtAddress : Addr)
    (s t : PagingState) : Prop where
  hTables : L3TablesOnly allocator rootPageTable t
  hRoot :
    ∀ idx : Word,
      idx.toNat < 512 →
        idx ≠ l4Idx virtAddress →
          t.word (entryAddress rootPageTable idx) =
            s.word (entryAddress rootPageTable idx)
  hSlot :
    s.word (entryAddress rootPageTable (l4Idx virtAddress)) ≠
        0 →
      t.word
            (entryAddress rootPageTable
              (l4Idx virtAddress)) ≠
          0 ∧
        t.frames = s.frames

section Steps

variable {allocator : Nat → Addr} {rootPageTable : Addr}
variable {calls : Nat} {request : MapRequest}
variable {s : PagingState}
variable
  (hRoot : Aligned 4096 rootPageTable)
  (hNonzero : rootPageTable ≠ 0)
  (hFresh : FreshFrames allocator rootPageTable calls)
  (hSucceeds : ∀ n, allocator n ≠ 0)
  (hEntries : EntriesDistinct allocator calls)
  (hTables : L3TablesOnly allocator rootPageTable s)

include hRoot hNonzero hFresh hSucceeds hEntries hTables

theorem tablesFollow_afterL3
    (hCalls :
      ((request.walk allocator rootPageTable).afterL3
        s).2.frames ≤ calls) :
    TablesFollow allocator rootPageTable request.virtAddress
        s
        ((request.walk allocator rootPageTable).afterL3
          s).2 ∧
      ((request.walk allocator rootPageTable).afterL3
          s).2.word
          (entryAddress rootPageTable
            (l4Idx request.virtAddress)) ≠
        0 := by
  have hOutcome :=
    (request.walk allocator rootPageTable).afterL3_outcome s
  generalize
    (request.walk allocator rootPageTable).afterL3 s =
      result at hOutcome hCalls ⊢
  cases hOutcome with
  | present hFound =>
      exact
        ⟨⟨hTables, fun _ _ _ => rfl,
          fun hEntry => ⟨hEntry, rfl⟩⟩, hFound⟩
  | failed hFound hAlloc =>
      exact absurd hAlloc (hSucceeds _)
  | created hFound hAlloc =>
      refine ⟨⟨?_, ?_, ?_⟩, ?_⟩
      · exact
          l3TablesOnly_createTable hRoot hNonzero hFresh
            hSucceeds hEntries hCalls hTables _ hFound
      · intro idx hIdx hOther
        exact
          (word_createTable_root hRoot (hFresh.hAligned _)
            hNonzero (hFresh.hRoot _) s _ .L3 (l4Idx_lt _)
            hIdx).trans
            (if_neg hOther)
      · intro hEntry
        exact absurd hFound hEntry
      · have hNew :=
          word_createTable_linked hRoot
            (hFresh.hAligned s.frames) hNonzero
            (hFresh.hRoot s.frames) s request.virtAddress
            .L3 (l4Idx_lt request.virtAddress)
        intro hZero
        exact
          tableEntry_ne_zero _ (hNew.symm.trans hZero)

theorem tablesFollow_bootStep
    (hCalls :
      (bootStep allocator rootPageTable request s).2.frames ≤
        calls)
    (hPresent :
      (request.walk allocator rootPageTable).Passes s
          request.forceWrite →
        UpperTablesPresent allocator rootPageTable request
          s) :
    TablesFollow allocator rootPageTable request.virtAddress
        s (bootStep allocator rootPageTable request s).2 ∧
      ((bootStep allocator rootPageTable request s).1 =
          .NoError →
        (bootStep allocator rootPageTable request s).2.word
            (entryAddress rootPageTable
              (l4Idx request.virtAddress)) ≠
          0) := by
  have hOutcome :
      ReuseOutcome allocator rootPageTable request s
        (bootStep allocator rootPageTable request s) :=
    reuseOutcome hSucceeds hPresent
  generalize bootStep allocator rootPageTable request s =
    result at hOutcome hCalls ⊢
  cases hOutcome with
  | refused hOutput =>
      exact
        ⟨⟨hTables, fun _ _ _ => rfl,
          fun hEntry => ⟨hEntry, rfl⟩⟩,
          fun hSuccess => absurd hSuccess hOutput⟩
  | taken =>
      have hFollow :=
        tablesFollow_afterL3 hRoot hNonzero hFresh hSucceeds
          hEntries hTables hCalls
      exact ⟨hFollow.1, fun _ => hFollow.2⟩
  | stored hFound =>
      have hSlot :=
        (request.walk allocator
          rootPageTable).aligned_slotLeaf s
      rcases
          tablesFollow_afterL3 hRoot hNonzero hFresh
            hSucceeds hEntries hTables hCalls with
        ⟨hFollow, hLinked⟩
      have hKept
          (idx : Word)
          (hIdx : idx.toNat < 512) :=
        PagingState.word_storeLeaf_of_outside
          ((request.walk allocator rootPageTable).afterL3
            s).2
          (constructTableEntry request.physAddress
            request.flags)
          hRoot hSlot hFound.hLeafRoot hIdx
      refine ⟨⟨?_, ?_, ?_⟩, ?_⟩
      · exact
          l3TablesOnly_storeLeaf hRoot hFresh _ hSlot
            hFound.hLeafRoot hFound.hLeafTable
            hFollow.hTables
      · intro idx hIdx hOther
        rw [hKept idx hIdx]
        exact hFollow.hRoot idx hIdx hOther
      · intro hEntry
        rw [hKept _ (l4Idx_lt _)]
        exact hFollow.hSlot hEntry
      · intro _
        rw [hKept _ (l4Idx_lt _)]
        exact hLinked

end Steps

------------------------------------------------------------
-- Runs
------------------------------------------------------------

section Runs

variable {allocator : Nat → Addr} {rootPageTable : Addr}
variable {requests : List MapRequest} {s : PagingState}
variable
  (hStart : ZeroedRoot rootPageTable s)
  (hFresh :
    FreshFrames allocator rootPageTable
      (bootFinal allocator rootPageTable requests
        s).frames)
  (hSucceeds : ∀ n, allocator n ≠ 0)
  (hEntries :
    EntriesDistinct allocator
      (bootFinal allocator rootPageTable requests
        s).frames)
  (hPresent :
    ∀ taken ∈ bootRun allocator rootPageTable requests s,
      (taken.input.walk allocator rootPageTable).Passes
          taken.before taken.input.forceWrite →
        UpperTablesPresent allocator rootPageTable
          taken.input taken.before)

include hStart hFresh hSucceeds hEntries hPresent

theorem tablesFollow_of_before
    {taken : MapStep}
    (hTaken :
      taken ∈ bootRun allocator rootPageTable requests s)
    (hTables :
      L3TablesOnly allocator rootPageTable taken.before) :
    TablesFollow allocator rootPageTable
        taken.input.virtAddress taken.before taken.after ∧
      (taken.output = .NoError →
        taken.after.word
            (entryAddress rootPageTable
              (l4Idx taken.input.virtAddress)) ≠
          0) := by
  have hStep := (Transition.step_of_mem_run hTaken).2
  have hCalls :
      (bootStep allocator rootPageTable taken.input
          taken.before).2.frames ≤
        (bootFinal allocator rootPageTable requests
          s).frames := by
    rw [hStep]
    exact
      frames_le_of_reached (Transition.reached_after hTaken)
  have hEffect :=
    tablesFollow_bootStep hStart.hAligned hStart.hNonzero
      hFresh hSucceeds hEntries hTables hCalls
      (hPresent taken hTaken)
  rw [hStep] at hEffect
  exact hEffect

theorem l3TablesOnly_of_reached
    {t : PagingState}
    (hReached :
      Transition.Reached (bootStep allocator rootPageTable)
        requests s t) :
    L3TablesOnly allocator rootPageTable t :=
  Transition.reached_invariant
    (L3TablesOnly allocator rootPageTable)
    hStart.l3TablesOnly
    (fun _ hTaken hBefore =>
      (tablesFollow_of_before hStart hFresh hSucceeds hEntries
        hPresent hTaken hBefore).1.hTables)
    hReached

theorem tablesFollow_of_mem_bootRun
    {taken : MapStep}
    (hTaken :
      taken ∈ bootRun allocator rootPageTable requests s) :
    TablesFollow allocator rootPageTable
        taken.input.virtAddress taken.before taken.after ∧
      (taken.output = .NoError →
        taken.after.word
            (entryAddress rootPageTable
              (l4Idx taken.input.virtAddress)) ≠
          0) :=
  tablesFollow_of_before hStart hFresh hSucceeds hEntries
    hPresent hTaken
    (l3TablesOnly_of_reached hStart hFresh hSucceeds hEntries
      hPresent (Transition.reached_before hTaken))

/- The root entry of a mapped page never goes away. -/
theorem root_entry_of_mapped
    {past future : List MapStep}
    {taken : MapStep}
    (hRun :
      bootRun allocator rootPageTable requests s =
        past ++ taken :: future) :
    ∀ earlier ∈ past,
      earlier.output = .NoError →
        taken.before.word
            (entryAddress rootPageTable
              (l4Idx earlier.input.virtAddress)) ≠
          0 := by
  refine
    Transition.history_invariant
      (fun past t =>
        ∀ earlier ∈ past,
          earlier.output = .NoError →
            t.word
                (entryAddress rootPageTable
                  (l4Idx earlier.input.virtAddress)) ≠
              0)
      (by simp) ?_ hRun
  intro past other hOther hPast earlier hEarlier hOutput
  rcases
      tablesFollow_of_mem_bootRun hStart hFresh hSucceeds
        hEntries hPresent hOther with
    ⟨hAfter, hSuccess⟩
  rcases List.mem_append.mp hEarlier with hOld | hNew
  · have hBefore := hPast earlier hOld hOutput
    by_cases hSame :
        l4Idx earlier.input.virtAddress =
          l4Idx other.input.virtAddress
    · rw [hSame] at hBefore ⊢
      exact (hAfter.hSlot hBefore).1
    · rw [hAfter.hRoot _ (l4Idx_lt _) hSame]
      exact hBefore
  · obtain rfl := List.mem_singleton.mp hNew
    exact hSuccess hOutput

end Runs

/-
  The tables form a tree, and are shared, as long as no call
  creates an L2 or L1 table or has its leaf in a table.
-/
theorem tableTreeKept_of_present
    {allocator : Nat → Addr}
    {rootPageTable : Addr}
    {requests : List MapRequest}
    {s : PagingState}
    (hStart : ZeroedRoot rootPageTable s)
    (hFresh :
      FreshFrames allocator rootPageTable
        (bootFinal allocator rootPageTable requests
          s).frames)
    (hSucceeds : ∀ n, allocator n ≠ 0)
    (hEntries :
      EntriesDistinct allocator
        (bootFinal allocator rootPageTable requests
          s).frames)
    (hPresent :
      ∀ taken ∈ bootRun allocator rootPageTable requests s,
        (taken.input.walk allocator rootPageTable).Passes
            taken.before taken.input.forceWrite →
          UpperTablesPresent allocator rootPageTable
            taken.input taken.before) :
    TableTreeKept allocator rootPageTable requests s := by
  constructor
  · intro t hReached
    exact
      treeShape_of_l3TablesOnly hEntries
        (frames_le_of_reached hReached)
        (l3TablesOnly_of_reached hStart hFresh hSucceeds
          hEntries hPresent hReached)
  · intro taken hTaken
    exact
      (tablesFollow_of_mem_bootRun hStart hFresh hSucceeds
        hEntries hPresent hTaken).1.hRoot
  · rintro past taken future hRun
      ⟨earlier, hEarlier, hOutput, hSame⟩
    have hTaken :
        taken ∈
          bootRun allocator rootPageTable requests s := by
      rw [hRun]
      simp
    have hBefore :=
      root_entry_of_mapped hStart hFresh hSucceeds hEntries
        hPresent hRun earlier hEarlier hOutput
    rw [hSame.hL4] at hBefore
    exact
      ((tablesFollow_of_mem_bootRun hStart hFresh hSucceeds
        hEntries hPresent hTaken).1.hSlot hBefore).2

theorem entriesDistinct_of_width
    {allocator : Nat → Addr}
    {rootPageTable : Addr}
    {calls : Nat}
    (hFresh : FreshFrames allocator rootPageTable calls)
    (hSucceeds : ∀ n, allocator n ≠ 0)
    (hWidth : ∀ n, (allocator n).toNat < 2 ^ 51) :
    EntriesDistinct allocator calls := by
  intro i j hI hJ hEntry
  exact
    hFresh.hDistinct i j hI hJ (hSucceeds i)
      (tableEntry_inj (hWidth i) (hWidth j) hEntry)

private theorem sample_frames_le
    (low : Byte) :
    (bootFinal sampleAllocator sampleRoot [sampleRequest]
      (sampleStart low)).frames ≤ 3 :=
  (frames_le_bootFinal _ _ _ _).2

/-
  The tables a call needs are there when the words the code
  takes for them are set and decode to address zero.
-/
theorem upperTablesPresent_of_low
    {allocator : Nat → Addr}
    {rootPageTable : Addr}
    {calls : Nat}
    {request : MapRequest}
    {s : PagingState}
    (hRoot : Aligned 4096 rootPageTable)
    (hNonzero : rootPageTable ≠ 0)
    (hFresh : FreshFrames allocator rootPageTable calls)
    (hClear : RootClear rootPageTable s)
    (hIndices : NoRecursiveIndex request.virtAddress)
    (hL2 :
      s.word (lowSlot (l3Idx request.virtAddress)) ≠ 0 ∧
        getAddrFromEntry
            (s.word
              (lowSlot (l3Idx request.virtAddress))) =
          0)
    (hL1 :
      s.word (lowSlot (l2Idx request.virtAddress)) ≠ 0 ∧
        getAddrFromEntry
            (s.word
              (lowSlot (l2Idx request.virtAddress))) =
          0)
    (hFrames :
      ∀ record ∈
        ((request.walk allocator rootPageTable).afterL3
          s).2.tables,
        Aligned 4096 record.frame ∧ record.frame ≠ 0) :
    UpperTablesPresent allocator rootPageTable request s := by
  have hFoundL2 :
      (request.walk allocator rootPageTable).foundL2 s =
        s.word (lowSlot (l3Idx request.virtAddress)) :=
    foundL2_of_rootClear hFresh hRoot hNonzero hClear
      hIndices.hL3
  have hFoundL1 :
      (request.walk allocator rootPageTable).foundL1 s =
        s.word (lowSlot (l2Idx request.virtAddress)) :=
    foundL1_of_decoded hFresh hRoot hNonzero
      (by rw [hFoundL2]; exact hL2.2) hIndices.hL2
  have hLeaf :
      (request.walk allocator rootPageTable).slotLeaf s =
        lowSlot (l1Idx request.virtAddress) :=
    slotLeaf_of_decoded hFresh
      (by rw [hFoundL1]; exact hL1.2)
  constructor
  · rw [hFoundL2]
    exact hL2.1
  · rw [hFoundL1]
    exact hL1.1
  · rw [hLeaf]
    exact not_inRange_lowSlot hRoot hNonzero (l1Idx_lt _)
  · intro record hRecord
    rw [hLeaf]
    exact
      not_inRange_lowSlot (hFrames record hRecord).1
        (hFrames record hRecord).2 (l1Idx_lt _)

theorem tableTreeKept_of_present_sample :
    TableTreeKept sampleAllocator sampleRoot [sampleRequest]
      (sampleStart 1) := by
  have hStart := sample_zeroedRoot 1
  have hFresh := sample_freshFrames (sample_frames_le 1)
  have hWidth : ∀ n, (sampleAllocator n).toNat < 2 ^ 51 := by
    intro n
    rw [sampleAllocator_toNat]
    omega
  refine
    tableTreeKept_of_present hStart hFresh sample_succeeds
      (entriesDistinct_of_width hFresh sample_succeeds hWidth)
      ?_
  intro taken hTaken _
  obtain rfl := List.mem_singleton.mp hTaken
  refine
    upperTablesPresent_of_low hStart.hAligned
      hStart.hNonzero hFresh
      (hStart.rootWords getAddrFromEntry_zero)
      sample_virtualPage.hIndices ?_ ?_ ?_
  · decide
  · decide
  · intro record hRecord
    rcases
        (Walk.afterL3_outcome _ (sampleStart 1)).tables
          record hRecord with
      hOld | ⟨n, hN, hEq⟩
    · simp [sampleStart] at hOld
    · rw [hEq]
      exact ⟨hFresh.hAligned n, hN⟩

/-
  The first page mapped has index 2 in the root and index 3
  in its L3 table; its L2 table is linked at index 3 of the
  root.
-/
theorem tableTreeKept_fails :
    ZeroedRoot sampleRoot (sampleStart 0) ∧
      FreshFrames sampleAllocator sampleRoot
        (bootFinal sampleAllocator sampleRoot
          [sampleRequest] (sampleStart 0)).frames ∧
      (∀ n, sampleAllocator n ≠ 0) ∧
      NoRecursiveIndex sampleRequest.virtAddress ∧
      ¬ TableTreeKept sampleAllocator sampleRoot
        [sampleRequest] (sampleStart 0) := by
  have hStart := sample_zeroedRoot 0
  have hFresh := sample_freshFrames (sample_frames_le 0)
  refine
    ⟨hStart, hFresh, sample_succeeds,
      sample_virtualPage.hIndices, ?_⟩
  intro hKept
  have hSame :=
    hKept.hRoot _
      (head_mem_bootRun sampleAllocator sampleRoot
        sampleRequest [] (sampleStart 0))
      (l3Idx sampleRequest.virtAddress) (l3Idx_lt _)
      (by decide)
  let w := sampleRequest.walk sampleAllocator sampleRoot
  rcases sample_noTables hFresh with ⟨hFoundL2, hFoundL1⟩
  have hLeaf : w.slotLeaf (sampleStart 0) = lowSlot 5 :=
    slotLeaf_of_decoded hFresh (by rw [hFoundL1]; decide)
  have hComplete : w.Complete (sampleStart 0) :=
    Walk.complete_of_succeeds sample_succeeds _
  have hLinked :=
    root_linked_of_createsL2 hFresh hStart.hAligned
      hStart.hNonzero
      ⟨hComplete.hL3, hFoundL2, sample_succeeds _⟩
  rw [bootStep_of_rootClear sample_succeeds
    sample_rootClear (by decide)] at hSame
  dsimp only at hSame
  rw [if_neg (by decide),
    hStart.hZero _ (l3Idx_lt _)] at hSame
  dsimp only at hSame
  rw [PagingState.word_storeLeaf _ _
      (Walk.aligned_slotLeaf _ _)
      (aligned_entryAddress
        (aligned_word_of_page hStart.hAligned) _),
    if_neg] at hSame
  · exact hLinked hSame
  · rw [hLeaf]
    decide

end Paginator

end Chihuahua
