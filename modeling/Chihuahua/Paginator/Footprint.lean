import Chihuahua.Machine.Relational
import Chihuahua.Paginator.RootController

/-
  The memory the paging controller has to do with while
  paging is disabled.

  Every table but the root is looked for at one of four low
  addresses, so all that is read and all entries that are
  written are in the root and in low memory.

  Main declarations:
    * `TableByte` and `SamePaging`
    * `OnlyTables` and `onlyTables_mapPage`
    * `bootRun_onlyTablesMatter`
    * `OnlyClears` and `bootFinal_onlyClears`
-/

------------------------------------------------------------
-- Bytes of Tables
------------------------------------------------------------

namespace Chihuahua

namespace Paginator

open ByteMachine Machine Essentials Relational Transition

/- A byte of the root, or of the tables entries decode to. -/
def TableByte (rootPageTable b : Addr) : Prop :=
  InRange rootPageTable 4096 b ∨ b.toNat < 4136

/- A word of such bytes. -/
def TableWord (rootPageTable a : Addr) : Prop :=
  ∀ b, InRange a 8 b → TableByte rootPageTable b

theorem tableWord_root
    (rootPageTable : Addr)
    {idx : Word}
    (hIdx : idx.toNat < 512) :
    TableWord rootPageTable
      (entryAddress rootPageTable idx) := by
  intro b hRange
  left
  unfold InRange entryAddress at *
  bv_omega

theorem tableWord_decoded
    (rootPageTable : Addr)
    (entry : Word)
    {idx : Word}
    (hIdx : idx.toNat < 512) :
    TableWord rootPageTable
      (entryAddress (getAddrFromEntry entry) idx) := by
  intro b hRange
  right
  have hTable := (getAddrFromEntry_toNat entry).2
  generalize getAddrFromEntry entry = table at hTable hRange
  unfold InRange entryAddress at hRange
  bv_omega

------------------------------------------------------------
-- Runs on Two Memories
------------------------------------------------------------

/-
  The tables are the same, and the allocator has come as
  far. The rest of memory may differ.
-/
structure SamePaging
    (rootPageTable : Addr)
    (s s' : PagingState) : Prop where
  hBytes :
    ∀ b,
      TableByte rootPageTable b →
        s.machine.mem b = s'.machine.mem b
  hFrames : s.frames = s'.frames

/- Only the tables matter to the computation. -/
abbrev OnlyTables
    (rootPageTable : Addr)
    {α : Type}
    (x : StateM PagingState α) : Prop :=
  SameResult (SamePaging rootPageTable) x x

section OnlyTables

variable {allocator : Nat → Addr} {rootPageTable : Addr}

theorem onlyTables_load
    {a : Addr}
    (hWord : TableWord rootPageTable a) :
    OnlyTables rootPageTable ((bootBus allocator).load a) :=
  fun _ _ hSame =>
    ⟨Memory.load_congr
        (fun b hRange => hSame.hBytes b (hWord b hRange)),
      hSame⟩

theorem onlyTables_store
    (a : Addr)
    (w : Word) :
    OnlyTables rootPageTable
      ((bootBus allocator).store a w) := by
  intro s s' hSame
  refine ⟨rfl, ?_, hSame.hFrames⟩
  intro b hTable
  show
    s.machine.mem.store a 8 w b =
      s'.machine.mem.store a 8 w b
  by_cases hRange : InRange a 8 b
  · rw [Memory.store_of_inRange w hRange,
      Memory.store_of_inRange w hRange]
  · rw [Memory.store_of_not_inRange w hRange,
      Memory.store_of_not_inRange w hRange,
      hSame.hBytes b hTable]

theorem onlyTables_memset
    (dest : Addr)
    (c : BitVec 32)
    (n : BitVec 64) :
    OnlyTables rootPageTable
      ((bootBus allocator).memset dest c n) := by
  intro s s' hSame
  refine ⟨rfl, ?_, hSame.hFrames⟩
  intro b hTable
  show
    (memset dest c n s.machine).2.mem b =
      (memset dest c n s'.machine).2.mem b
  rw [memset_mem, memset_mem, Memory.paint_apply,
    Memory.paint_apply, hSame.hBytes b hTable]

theorem onlyTables_allocator :
    OnlyTables rootPageTable
      (bootBus allocator).allocator := by
  intro s s' hSame
  exact
    ⟨congrArg allocator hSame.hFrames, hSame.hBytes,
      congrArg (· + 1) hSame.hFrames⟩

theorem onlyTables_tableCreated
    (level : TableLevel)
    (frame virtAddress : Addr) :
    OnlyTables rootPageTable
      ((bootBus allocator).tableCreated level frame
        virtAddress) :=
  fun _ _ hSame => ⟨rfl, hSame.hBytes, hSame.hFrames⟩

theorem onlyTables_tableFor
    (virtAddress : Addr)
    (level : TableLevel)
    {parentTable : Addr}
    {idx : Word}
    (hWord :
      TableWord rootPageTable (entryAddress parentTable idx))
    (recursiveAddress : Addr) :
    OnlyTables rootPageTable
      (tableFor (bootBus allocator) rootPageTable true
        virtAddress level parentTable idx recursiveAddress) := by
  unfold tableFor
  refine (onlyTables_load hWord).bind ?_
  intro entry
  refine .ite ?_ (fun _ => sameResult_pure _)
  intro _
  refine onlyTables_allocator.bind ?_
  intro physAddr
  refine .ite (fun _ => sameResult_pure _) ?_
  intro _
  refine (onlyTables_tableCreated _ _ _).bind ?_
  intro _
  refine .ite ?_ (fun hMode => absurd rfl hMode)
  intro _
  refine (onlyTables_memset _ _ _).bind ?_
  intro _
  refine (onlyTables_store _ _).bind ?_
  intro _
  refine (onlyTables_store _ _).bind ?_
  intro _
  exact sameResult_pure _

theorem onlyTables_tablesFor
    (virtAddress : Addr) :
    OnlyTables rootPageTable
      (tablesFor (bootBus allocator) rootPageTable true
        virtAddress) := by
  unfold tablesFor
  refine
    (onlyTables_tableFor virtAddress .L3
      (tableWord_root rootPageTable (l4Idx_lt _)) _).bind ?_
  rintro (_ | entryForL3)
  · exact sameResult_pure none
  refine
    (onlyTables_tableFor virtAddress .L2
      (tableWord_decoded rootPageTable entryForL3
        (l3Idx_lt _)) _).bind ?_
  rintro (_ | entryForL2)
  · exact sameResult_pure none
  refine
    (onlyTables_tableFor virtAddress .L1
      (tableWord_decoded rootPageTable entryForL2
        (l2Idx_lt _)) _).bind ?_
  rintro (_ | entryForL1)
  · exact sameResult_pure none
  · exact sameResult_pure _

theorem onlyTables_translateVirtToPhys
    (virtAddress : Addr) :
    OnlyTables rootPageTable
      (translateVirtToPhys (bootBus allocator) rootPageTable
        virtAddress) := by
  unfold translateVirtToPhys
  refine .ite (fun _ => sameResult_pure _) ?_
  intro _
  refine
    (onlyTables_load
      (tableWord_root rootPageTable (l4Idx_lt _))).bind ?_
  intro entryForL3
  refine .ite (fun _ => sameResult_pure _) ?_
  intro _
  refine
    (onlyTables_load
      (tableWord_decoded rootPageTable entryForL3
        (l3Idx_lt _))).bind ?_
  intro entryForL2
  refine .ite (fun _ => sameResult_pure _) ?_
  intro _
  refine
    (onlyTables_load
      (tableWord_decoded rootPageTable entryForL2
        (l2Idx_lt _))).bind ?_
  intro entryForL1
  refine .ite (fun _ => sameResult_pure _) ?_
  intro _
  refine
    (onlyTables_load
      (tableWord_decoded rootPageTable entryForL1
        (l1Idx_lt _))).bind ?_
  intro entry
  exact sameResult_pure _

theorem onlyTables_writeLeaf
    (entryForL1 : Word)
    (virtAddress physAddress : Addr)
    (flags : PageFlags)
    (forceWrite : Bool) :
    OnlyTables rootPageTable
      (writeLeaf (bootBus allocator)
        (getAddrFromEntry entryForL1) virtAddress physAddress
        flags forceWrite) := by
  unfold writeLeaf
  refine
    (onlyTables_load
      (tableWord_decoded rootPageTable entryForL1
        (l1Idx_lt _))).bind ?_
  intro existingPhysAddress
  refine .ite (fun _ => sameResult_pure _) ?_
  intro _
  refine (onlyTables_store _ _).bind ?_
  intro _
  exact sameResult_pure _

/- What follows the tables, given by its two cases. -/
theorem onlyTables_tablesThenLeaf
    {virtAddress physAddress : Addr}
    {flags : PageFlags}
    {forceWrite : Bool}
    {rest :
      Option TableEntries → StateM PagingState PageMapError}
    (hNone : rest none = pure .AllocFailed)
    (hSome :
      ∀ entries,
        rest (some entries) =
          writeLeaf (bootBus allocator)
            (getAddrFromEntry entries.entryForL1) virtAddress
            physAddress flags forceWrite) :
    OnlyTables rootPageTable
      (tablesFor (bootBus allocator) rootPageTable true
          virtAddress >>=
        rest) := by
  refine (onlyTables_tablesFor virtAddress).bind ?_
  rintro (_ | entries)
  · rw [hNone]
    exact sameResult_pure _
  · rw [hSome]
    exact onlyTables_writeLeaf _ _ _ _ _

theorem onlyTables_mapPage
    (virtAddress physAddress : Addr)
    (flags : PageFlags)
    (forceWrite : Bool) :
    OnlyTables rootPageTable
      (mapPage (bootBus allocator) rootPageTable virtAddress
        physAddress flags forceWrite true) := by
  unfold mapPage
  refine .ite (fun _ => sameResult_pure _) ?_
  intro _
  refine .ite (fun _ => sameResult_pure _) ?_
  intro _
  refine .ite ?_ ?_
  · intro _
    refine
      (onlyTables_translateVirtToPhys virtAddress).bind ?_
    intro existing
    refine .ite (fun _ => sameResult_pure _) ?_
    intro _
    exact onlyTables_tablesThenLeaf rfl (fun _ => rfl)
  · intro _
    exact onlyTables_tablesThenLeaf rfl (fun _ => rfl)

theorem onlyTables_bootStep
    (request : MapRequest) :
    OnlyTables rootPageTable
      (bootStep allocator rootPageTable request) := by
  cases request with
  | mapPage virtAddress physAddress flags forceWrite =>
      exact onlyTables_mapPage _ _ _ _
  | identityMapPage address flags forceWrite =>
      exact onlyTables_mapPage _ _ _ _

/-
  What a run answers, and every translation after it, follow
  from the root and low memory: the same requests on two
  memories that agree there are answered the same, and the
  memories still agree there.
-/
theorem bootRun_onlyTablesMatter
    (requests : List MapRequest)
    {s s' : PagingState}
    (hSame : SamePaging rootPageTable s s') :
    let t := bootFinal allocator rootPageTable requests s
    let t' := bootFinal allocator rootPageTable requests s'
    (bootRun allocator rootPageTable requests s).map
          Step.output =
        (bootRun allocator rootPageTable requests s').map
          Step.output ∧
      SamePaging rootPageTable t t' ∧
      ∀ virtAddress,
        (translateVirtToPhys (bootBus allocator)
            rootPageTable virtAddress t).1 =
          (translateVirtToPhys (bootBus allocator)
            rootPageTable virtAddress t').1 := by
  intro t t'
  obtain ⟨hOutputs, hFinal⟩ :=
    sameResult_run
      (fun request => onlyTables_bootStep request) requests
      hSame
  refine ⟨hOutputs, hFinal, ?_⟩
  intro virtAddress
  exact
    (onlyTables_translateVirtToPhys virtAddress t t'
      hFinal).1

end OnlyTables

/- The sample memory with ones outside of the tables. -/
def sampleOnes : PagingState where
  machine :=
    { mem := fun b =>
        if InRange sampleRoot 4096 b ∨ b.toNat < 4136 then
          (sampleStart 0).machine.mem b
        else 0xFF
      stores := [] }
  frames := (sampleStart 0).frames
  tables := []

theorem bootRun_onlyTablesMatter_sample :
    (bootRun sampleAllocator sampleRoot [sampleRequest]
          sampleOnes).map
        Step.output =
      (bootRun sampleAllocator sampleRoot [sampleRequest]
          (sampleStart 0)).map
        Step.output := by
  have hSame :
      SamePaging sampleRoot sampleOnes (sampleStart 0) :=
    ⟨fun _ hTable => if_pos hTable, rfl⟩
  exact (bootRun_onlyTablesMatter [sampleRequest] hSame).1

------------------------------------------------------------
-- The Rest of Memory
------------------------------------------------------------

/-
  Apart from the root and low memory, what has changed is
  that the frames of new tables are cleared.
-/
def OnlyClears
    (rootPageTable : Addr)
    (s t : PagingState) : Prop :=
  ∃ created : List TableRecord,
    t.tables = created ++ s.tables ∧
      ∀ b,
        ¬ TableByte rootPageTable b →
          t.machine.mem b =
            if ∃ record ∈ created, InRange record.frame 4096 b
            then 0
            else s.machine.mem b

section OnlyClears

variable {rootPageTable : Addr} {s t : PagingState}

theorem OnlyClears.refl (s : PagingState) :
    OnlyClears rootPageTable s s := by
  refine ⟨[], rfl, ?_⟩
  intro b _
  simp

/- A store to a word of a table is not seen elsewhere. -/
theorem mem_write64_of_tableWord
    {machine : Machine}
    {a b : Addr}
    (hWord : TableWord rootPageTable a)
    (hOutside : ¬ TableByte rootPageTable b)
    (w : Word) :
    (machine.write64 a w).mem b = machine.mem b := by
  show machine.mem.store a 8 w b = machine.mem b
  apply Memory.store_of_not_inRange
  exact fun hRange => hOutside (hWord b hRange)

theorem OnlyClears.storeLeaf
    (hClears : OnlyClears rootPageTable s t)
    {slot : Addr}
    (hWord : TableWord rootPageTable slot)
    (entry : Word) :
    OnlyClears rootPageTable s (t.storeLeaf slot entry) := by
  obtain ⟨created, hTables, hBytes⟩ := hClears
  refine ⟨created, hTables, ?_⟩
  intro b hOutside
  rw [← hBytes b hOutside]
  exact mem_write64_of_tableWord hWord hOutside entry

/- The entries of a new table go to the root and below. -/
theorem OnlyClears.createTable
    (hClears : OnlyClears rootPageTable s t)
    (virtAddress : Addr)
    (level : TableLevel)
    {idx : Word}
    (hIdx : idx.toNat < 512)
    (frame : Addr) :
    OnlyClears rootPageTable s
      (t.createTable rootPageTable virtAddress level idx
        frame) := by
  obtain ⟨created, hTables, hBytes⟩ := hClears
  refine
    ⟨⟨level, frame, virtAddress⟩ :: created,
      congrArg (_ :: ·) hTables, ?_⟩
  intro b hOutside
  have hPage : (PAGE_TABLE_SIZE : BitVec 64).toNat = 4096 :=
    rfl
  show
    ((((memset frame 0 PAGE_TABLE_SIZE
      t.machine).2.write64 _ _).write64 _ _).mem b) = _
  rw [
    mem_write64_of_tableWord
      (tableWord_decoded rootPageTable _ (by decide))
      hOutside,
    mem_write64_of_tableWord
      (tableWord_root rootPageTable hIdx) hOutside,
    memset_mem, Memory.paint_apply, hPage,
    hBytes b hOutside]
  by_cases hFrame : InRange frame 4096 b
  · rw [if_pos hFrame,
      if_pos ⟨_, List.mem_cons_self, hFrame⟩]
    rfl
  · have hSame :
        (∃ record ∈
            (⟨level, frame, virtAddress⟩ : TableRecord) ::
              created,
            InRange record.frame 4096 b) ↔
          ∃ record ∈ created,
            InRange record.frame 4096 b := by
      rw [List.exists_mem_cons_iff]
      exact or_iff_right hFrame
    rw [if_neg hFrame]
    simp only [hSame]

theorem OnlyClears.bootStep
    (allocator : Nat → Addr)
    (request : MapRequest)
    (hClears : OnlyClears rootPageTable s t) :
    OnlyClears rootPageTable s
      (bootStep allocator rootPageTable request t).2 := by
  refine
    (bootStep_outcome allocator rootPageTable request
      t).preserves ⟨?_, ?_⟩ ?_ hClears
  · exact fun _ hClears => hClears
  · intro u level idx hClears hIdx _
    exact hClears.createTable _ level hIdx _
  · intro _ u hClears
    apply hClears.storeLeaf
    exact tableWord_decoded rootPageTable _ (l1Idx_lt _)

/-
  Whatever is requested, in every state and with any answers
  of the allocator: apart from the root and low memory, a
  run clears the frames of the tables it creates, and
  changes nothing else.
-/
theorem bootFinal_onlyClears
    (allocator : Nat → Addr)
    (requests : List MapRequest)
    (s : PagingState) :
    OnlyClears rootPageTable s
      (bootFinal allocator rootPageTable requests s) :=
  final_invariant (OnlyClears rootPageTable s)
    (fun request _ hClears =>
      hClears.bootStep allocator request)
    requests (OnlyClears.refl s)

end OnlyClears

end Paginator

end Chihuahua
