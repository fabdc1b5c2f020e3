import Chihuahua.Paginator.ForceWrite
import Chihuahua.Paginator.RecursiveAddress

/-
  The paging controller once paging is enabled: a pointer is
  a virtual address, which the processor resolves through
  the tables as they are at that moment, or faults.

  The recursive addresses always fault. A call for an
  accepted address gets an answer only before it uses one.

  Main declarations:
    * `liveBus` and `liveTranslate`
    * `LiveRoot`
    * `mapPage_live`
    * `ModesAgree` and `modesAgree_iff`
-/

------------------------------------------------------------
-- The Bus
------------------------------------------------------------

namespace Chihuahua

namespace Paginator

open ByteMachine

namespace PagingState

/- The frame of a virtual address, none if it has none. -/
def resolve
    (s : PagingState)
    (rootFrame virtAddress : Addr) : Option Addr :=
  Mmu.resolve s.machine.mem rootFrame virtAddress

/- The store of a byte through the tables. -/
def storeVirtual8
    (rootFrame : Addr)
    (value : Byte)
    (s : PagingState)
    (virtAddress : Addr) : Option PagingState :=
  (s.resolve rootFrame virtAddress).map
    (fun a =>
      { s with machine := s.machine.write8 a value })

end PagingState

/- A state that is lost when the processor faults. -/
abbrev LiveM := StateT PagingState Option

/-
  The bus of the running kernel; its root table lies in the
  frame `rootFrame`. No access of the paging code crosses
  the border of a page.
-/
def liveBus
    (allocator : Nat → Addr)
    (rootFrame : Addr) : Bus LiveM where
  load v := fun s =>
    (s.resolve rootFrame v).map (fun a => (s.word a, s))
  store v w := fun s =>
    (s.resolve rootFrame v).map
      (fun a =>
        ((), { s with machine := s.machine.write64 a w }))
  memset dest c n := fun s =>
    (((List.range n.toNat).map
            (fun i => dest + BitVec.ofNat 64 i)).foldlM
          (PagingState.storeVirtual8 rootFrame
            (c.setWidth 8))
          s).map
      (fun t => ((), t))
  allocator := fun s =>
    some (allocator s.frames, { s with frames := s.frames + 1 })
  tableCreated level frame virtAddress := fun s =>
    some
      ((),
        { s with
          tables := ⟨level, frame, virtAddress⟩ :: s.tables })

theorem live_bind
    {α β : Type}
    (x : LiveM α)
    (f : α → LiveM β)
    (s : PagingState) :
    (x >>= f) s = (x s).bind (fun r => f r.1 r.2) := rfl

theorem live_pure
    {α : Type}
    (a : α)
    (s : PagingState) :
    (pure a : LiveM α) s = some (a, s) := rfl

/- What the translation answers, if it does not fault. -/
def liveTranslate
    (rootFrame rootPageTable virtAddress : Addr)
    (s : PagingState) : Option Word :=
  (translateVirtToPhys (liveBus (fun _ => 0) rootFrame)
      rootPageTable virtAddress s).map
    Prod.fst

section Live

variable (allocator : Nat → Addr)
variable (rootFrame rootPageTable virtAddress : Addr)
variable (s : PagingState)

theorem load_live
    (v : Addr) :
    (liveBus allocator rootFrame).load v s =
      (s.resolve rootFrame v).map (fun a => (s.word a, s)) :=
  rfl

/- The translation asks for no frame and changes nothing. -/
theorem translateVirtToPhys_live :
    translateVirtToPhys (liveBus allocator rootFrame)
        rootPageTable virtAddress s =
      (liveTranslate rootFrame rootPageTable virtAddress
        s).map (fun w => (w, s)) := by
  unfold liveTranslate
  simp only [translateVirtToPhys, indicesTooLarge_eq_false,
    Bool.false_eq_true, if_false, live_bind, load_live]
  cases s.resolve rootFrame
      (entryAddress rootPageTable (l4Idx virtAddress)) with
  | none => rfl
  | some a3 =>
      simp only [Option.map_some, Option.bind_some]
      split_ifs with hL3
      · rfl
      simp only [live_bind, load_live]
      cases s.resolve rootFrame
          (entryAddress (getAddrFromEntry (s.word a3))
            (l3Idx virtAddress)) with
      | none => rfl
      | some a2 =>
          simp only [Option.map_some, Option.bind_some]
          split_ifs with hL2
          · rfl
          simp only [live_bind, load_live]
          cases s.resolve rootFrame
              (entryAddress (getAddrFromEntry (s.word a2))
                (l2Idx virtAddress)) with
          | none => rfl
          | some a1 =>
              simp only [Option.map_some, Option.bind_some]
              split_ifs with hL1
              · rfl
              simp only [live_bind, load_live]
              cases s.resolve rootFrame
                  (entryAddress
                    (getAddrFromEntry (s.word a1))
                    (l1Idx virtAddress)) <;>
                rfl

end Live

------------------------------------------------------------
-- A Call With Paging Enabled
------------------------------------------------------------

/-
  The pointer to the root is resolved to its frame, and the
  root has its own frame at the index for it.
-/
structure LiveRoot
    (rootFrame rootPageTable : Addr)
    (s : PagingState) : Prop where
  hAligned : Aligned 4096 rootPageTable
  hSelf : SelfMapped s.machine.mem rootFrame
  hResolves :
    s.resolve rootFrame rootPageTable = some rootFrame

theorem LiveRoot.aligned_rootFrame
    {rootFrame rootPageTable : Addr}
    {s : PagingState}
    (hRoot : LiveRoot rootFrame rootPageTable s) :
    Aligned 4096 rootFrame := by
  rw [← hRoot.hSelf.hFrame]
  exact Mmu.aligned_frame _

theorem entryAddress_eq_add_ofNat
    (table : Addr)
    (idx : Word) :
    entryAddress table idx =
      table + BitVec.ofNat 64 (8 * idx.toNat) := by
  have hScaled : 8 * idx = BitVec.ofNat 64 (8 * idx.toNat) := by
    bv_omega
  unfold entryAddress
  rw [hScaled]

theorem LiveRoot.resolve_entry
    {rootFrame rootPageTable : Addr}
    {s : PagingState}
    (hRoot : LiveRoot rootFrame rootPageTable s)
    {idx : Word}
    (hIdx : idx.toNat < 512) :
    s.resolve rootFrame (entryAddress rootPageTable idx) =
      some (entryAddress rootFrame idx) := by
  have hOffset : 8 * idx.toNat < 4096 := by omega
  have hResolves := hRoot.hResolves
  unfold PagingState.resolve at hResolves ⊢
  rw [entryAddress_eq_add_ofNat,
    Mmu.resolve_add _ _ hRoot.hAligned hOffset, hResolves,
    entryAddress_eq_add_ofNat]
  rfl

/- No access to a recursive L3 table is ever resolved. -/
theorem resolve_recursiveL3
    (s : PagingState)
    (rootFrame virtAddress : Addr)
    {idx : Word}
    (hIdx : idx.toNat < 512) :
    s.resolve rootFrame
        (entryAddress (recursiveL3 virtAddress) idx) =
      none := by
  have hPage : Aligned 4096 (recursiveL3 virtAddress) :=
    aligned_packedAddress (by decide) (by decide)
      (by decide) (Mmu.index_lt 3 virtAddress)
  apply Mmu.resolve_of_not_canonical
  rw [entryAddress_eq_add_ofNat,
    Mmu.canonical_add_iff hPage (by omega)]
  exact recursiveL3_not_canonical virtAddress

/- A block that looks into the L3 table faults. -/
theorem tableFor_recursiveL3
    (allocator : Nat → Addr)
    (rootFrame rootPageTable virtAddress : Addr)
    (level : TableLevel)
    {idx : Word}
    (hIdx : idx.toNat < 512)
    (recursiveAddress : Addr)
    (s : PagingState) :
    tableFor (liveBus allocator rootFrame) rootPageTable
        false virtAddress level (recursiveL3 virtAddress) idx
        recursiveAddress s =
      none := by
  simp only [tableFor, live_bind, load_live,
    resolve_recursiveL3 s rootFrame virtAddress hIdx,
    Option.map_none, Option.bind_none]

section Calls

variable (allocator : Nat → Addr)
variable {rootFrame rootPageTable : Addr}
variable (virtAddress : Addr)
variable {s : PagingState}
variable (hRoot : LiveRoot rootFrame rootPageTable s)

include hRoot

/- The first block answers when it finds its table. -/
theorem tableFor_live
    (hFound :
      s.word (entryAddress rootFrame (l4Idx virtAddress)) ≠
        0) :
    tableFor (liveBus allocator rootFrame) rootPageTable
        false virtAddress .L3 rootPageTable
        (l4Idx virtAddress) (recursiveL3 virtAddress) s =
      some
        (some
            (s.word
              (entryAddress rootFrame (l4Idx virtAddress))),
          s) := by
  simp only [tableFor, live_bind, live_pure, load_live,
    hRoot.resolve_entry (l4Idx_lt virtAddress),
    Option.map_some, Option.bind_some, hFound, if_false]

theorem tableFor_live_of_noFrame
    (hMissing :
      s.word (entryAddress rootFrame (l4Idx virtAddress)) =
        0)
    (hAlloc : allocator s.frames = 0) :
    tableFor (liveBus allocator rootFrame) rootPageTable
        false virtAddress .L3 rootPageTable
        (l4Idx virtAddress) (recursiveL3 virtAddress) s =
      some (none, s.failAlloc) := by
  simp only [tableFor, liveBus, live_bind, live_pure,
    hRoot.resolve_entry (l4Idx_lt virtAddress),
    Option.map_some, Option.bind_some, hMissing, if_true,
    hAlloc, PagingState.failAlloc]

/- A new table cannot be given its self-map. -/
theorem tableFor_live_of_frame
    (hMissing :
      s.word (entryAddress rootFrame (l4Idx virtAddress)) =
        0)
    (hAlloc : allocator s.frames ≠ 0) :
    tableFor (liveBus allocator rootFrame) rootPageTable
        false virtAddress .L3 rootPageTable
        (l4Idx virtAddress) (recursiveL3 virtAddress) s =
      none := by
  have hSelfMap (t : PagingState) :
      t.resolve rootFrame
          (entryAddress (recursiveL3 virtAddress)
            RECURSIVE_INDEX) =
        none :=
    resolve_recursiveL3 t rootFrame virtAddress (by decide)
  simp only [tableFor, liveBus, live_bind,
    hRoot.resolve_entry (l4Idx_lt virtAddress),
    Option.map_some, Option.bind_some, hMissing, if_true,
    hAlloc, if_false, tablePointer, hSelfMap,
    Bool.false_eq_true, Option.map_none, Option.bind_none,
    Option.bind_eq_none_iff, implies_true]

theorem tablesFor_live :
    tablesFor (liveBus allocator rootFrame) rootPageTable
        false virtAddress s =
      if s.word
              (entryAddress rootFrame (l4Idx virtAddress)) =
            0 ∧
          allocator s.frames = 0 then
        some (none, s.failAlloc)
      else
        none := by
  by_cases hMissing :
      s.word (entryAddress rootFrame (l4Idx virtAddress)) = 0
  · by_cases hAlloc : allocator s.frames = 0
    · rw [if_pos ⟨hMissing, hAlloc⟩]
      simp only [tablesFor, live_bind, live_pure,
        tableFor_live_of_noFrame allocator virtAddress hRoot
          hMissing hAlloc,
        Option.bind_some]
    · rw [if_neg (fun hBoth => hAlloc hBoth.2)]
      simp only [tablesFor, live_bind,
        tableFor_live_of_frame allocator virtAddress hRoot
          hMissing hAlloc,
        Option.bind_none]
  · rw [if_neg (fun hBoth => hMissing hBoth.1)]
    simp only [tablesFor, live_bind,
      tableFor_live allocator virtAddress hRoot hMissing,
      Option.bind_some, tablePointer, Bool.false_eq_true,
      if_false,
      tableFor_recursiveL3 _ _ _ _ _ (l3Idx_lt _) _ _,
      Option.bind_none]

omit hRoot in
theorem mapPage_live_of_rejected
    (physAddress : Addr)
    (flags : PageFlags)
    (forceWrite : Bool)
    (hSign : signExtensionOk virtAddress = false) :
    mapPage (liveBus allocator rootFrame) rootPageTable
        virtAddress physAddress flags forceWrite false s =
      some (.InvalidVirtAddress, s) := by
  simp only [mapPage, indicesTooLarge_eq_false, hSign]
  rfl

/- The answer of a call for an accepted address. -/
theorem mapPage_live
    (physAddress : Addr)
    (flags : PageFlags)
    (forceWrite : Bool)
    (hSign : signExtensionOk virtAddress = true) :
    mapPage (liveBus allocator rootFrame) rootPageTable
        virtAddress physAddress flags forceWrite false s =
      if forceWrite = true ∨
          liveTranslate rootFrame rootPageTable virtAddress
              s =
            some 0 then
        if s.word
                (entryAddress rootFrame
                  (l4Idx virtAddress)) =
              0 ∧
            allocator s.frames = 0 then
          some (.AllocFailed, s.failAlloc)
        else
          none
      else
        (liveTranslate rootFrame rootPageTable virtAddress
          s).map (fun _ => (.EntryExists, s)) := by
  have hTables :=
    tablesFor_live allocator virtAddress hRoot
  have hTranslate :=
    translateVirtToPhys_live allocator rootFrame
      rootPageTable virtAddress s
  cases forceWrite with
  | true =>
      rw [if_pos (Or.inl rfl)]
      simp only [mapPage, indicesTooLarge_eq_false, hSign,
        not_true_eq_false, Bool.false_eq_true, if_false,
        live_bind, hTables]
      split_ifs <;> rfl
  | false =>
      simp only [mapPage, indicesTooLarge_eq_false, hSign,
        not_true_eq_false, Bool.false_eq_true, if_false,
        not_false_eq_true, if_true, live_bind, hTranslate,
        false_or]
      cases
          liveTranslate rootFrame rootPageTable virtAddress
            s with
      | none => rfl
      | some existing =>
          by_cases hExisting : existing = 0
          · simp only [hExisting, Option.map_some,
              Option.bind_some, ne_eq, not_true_eq_false,
              if_false, if_true, live_bind, hTables]
            split_ifs <;> rfl
          · simp only [hExisting, Option.map_some,
              Option.bind_some, ne_eq, not_false_eq_true,
              if_true, Option.some.injEq, if_false]
            rfl

/- Nothing is translated below an empty root entry. -/
theorem liveTranslate_of_missing
    (hMissing :
      s.word (entryAddress rootFrame (l4Idx virtAddress)) =
        0) :
    liveTranslate rootFrame rootPageTable virtAddress s =
      some 0 := by
  simp only [liveTranslate, translateVirtToPhys,
    indicesTooLarge_eq_false, Bool.false_eq_true, if_false,
    live_bind, load_live,
    hRoot.resolve_entry (l4Idx_lt virtAddress),
    Option.map_some, Option.bind_some, hMissing,
    getAddrFromEntry_zero, if_true, live_pure]

end Calls

------------------------------------------------------------
-- Both Modes
------------------------------------------------------------

/-
  The frames of an allocator are pages the paging code has
  not used before: none is the root or linked from it.
-/
structure UnusedFrames
    (allocator : Nat → Addr)
    (rootFrame : Addr)
    (s : PagingState) : Prop where
  hAligned : ∀ n, Aligned 4096 (allocator n)
  hRoot : ∀ n, allocator n ≠ 0 → allocator n ≠ rootFrame
  hUnlinked :
    ∀ n idx,
      allocator n ≠ 0 →
        idx.toNat < 512 →
          s.word (entryAddress rootFrame idx) ≠
            tableEntry (allocator n)

/- The answer and the tables are the same in both modes. -/
def ModesAgree
    (allocator : Nat → Addr)
    (rootFrame rootPageTable virtAddress physAddress : Addr)
    (flags : PageFlags)
    (forceWrite : Bool)
    (s : PagingState) : Prop :=
  let boot :=
    mapPage (bootBus allocator) rootFrame virtAddress
      physAddress flags forceWrite true s
  let live :=
    mapPage (liveBus allocator rootFrame) rootPageTable
      virtAddress physAddress flags forceWrite false s
  ∃ t,
    live = some (boot.1, t) ∧
      Mmu.SameTables rootFrame boot.2.machine.mem
        t.machine.mem

/-
  The call is answered before it uses a table below the
  root: the address is rejected, no frame is to be had for
  the L3 table, or both tests for an existing entry find
  one.
-/
inductive AnsweredEarly
    (allocator : Nat → Addr)
    (rootFrame rootPageTable virtAddress : Addr)
    (forceWrite : Bool)
    (s : PagingState) : Prop where
| rejected
    (hSign : signExtensionOk virtAddress = false)
| noFrame
    (hMissing : pathL3 rootFrame virtAddress s = 0)
    (hAlloc : allocator s.frames = 0)
| found
    {existing : Word}
    (hForce : forceWrite = false)
    (hTranslated :
      liveTranslate rootFrame rootPageTable virtAddress s =
        some existing)
    (hExisting : existing ≠ 0)
    (hPath : PathTaken rootFrame virtAddress s)

section Agreement

variable {allocator : Nat → Addr} {rootFrame : Addr}
variable {s t : PagingState}
variable (hFrame : Aligned 4096 rootFrame)
variable (hUnused : UnusedFrames allocator rootFrame s)

/- A word that links a table created in one of the frames. -/
def LinksCreated
    (allocator : Nat → Addr)
    (word : Word) : Prop :=
  ∃ n, allocator n ≠ 0 ∧ word = tableEntry (allocator n)

include hFrame hUnused

/- A table created keeps what created tables have linked. -/
theorem linksCreated_createTable
    (virtAddress : Addr)
    (level : TableLevel)
    {idx i : Word}
    (hI : i.toNat < 512)
    {n : Nat}
    (hAlloc : allocator n ≠ 0)
    (hLinked :
      i = idx ∨
        LinksCreated allocator
          (t.word (entryAddress rootFrame i))) :
    LinksCreated allocator
      ((t.createTable rootFrame virtAddress level idx
          (allocator n)).word
        (entryAddress rootFrame i)) := by
  have hAligned :
      Aligned 8 (entryAddress rootFrame i) :=
    aligned_entryAddress (aligned_word_of_page hFrame) i
  rw [PagingState.word_createTable t virtAddress level idx
    hFrame (hUnused.hAligned n) hAligned]
  split_ifs with hLow hSlot hPage
  · exact ⟨n, hAlloc, rfl⟩
  · exact ⟨n, hAlloc, rfl⟩
  · exact
      absurd rfl
        (ne_of_inRange_page (hUnused.hAligned n) hFrame
          (hUnused.hRoot n hAlloc) hPage
          (inRange_entryAddress hFrame hI))
  · rcases hLinked with rfl | hCreated
    · exact absurd rfl hSlot
    · exact hCreated

theorem linksCreated_of_blockOutcome
    {v : Addr}
    {level : TableLevel}
    {slot : Addr}
    {idx i : Word}
    {result : Option Word × PagingState}
    (hOutcome :
      Walk.BlockOutcome
        { allocator := allocator
          rootPageTable := rootFrame
          virtAddress := v }
        t level slot idx result)
    (hI : i.toNat < 512)
    (hLinked :
      LinksCreated allocator
        (t.word (entryAddress rootFrame i))) :
    LinksCreated allocator
      (result.2.word (entryAddress rootFrame i)) := by
  cases hOutcome with
  | present _ => exact hLinked
  | failed _ _ => exact hLinked
  | created _ hAlloc =>
      exact
        linksCreated_createTable hFrame hUnused v level hI
          hAlloc (Or.inr hLinked)

/- A block that finds no table links the one it creates. -/
theorem linksCreated_of_missing
    {v : Addr}
    {level : TableLevel}
    {slot : Addr}
    {idx : Word}
    {result : Option Word × PagingState}
    (hOutcome :
      Walk.BlockOutcome
        { allocator := allocator
          rootPageTable := rootFrame
          virtAddress := v }
        t level slot idx result)
    (hIdx : idx.toNat < 512)
    (hMissing : t.word slot = 0)
    (hComplete : result.1 ≠ none) :
    LinksCreated allocator
      (result.2.word (entryAddress rootFrame idx)) := by
  cases hOutcome with
  | present hFound => exact absurd hMissing hFound
  | failed _ _ => exact absurd rfl hComplete
  | created _ hAlloc =>
      exact
        linksCreated_createTable hFrame hUnused v level hIdx
          hAlloc (Or.inl rfl)

/- Whatever is created for a path shows in the root. -/
theorem pathTaken_of_root_kept
    {v : Addr}
    (hL3 : pathL3 rootFrame v s ≠ 0)
    (hEnds :
      Walk.EndsAtLeaf
        { allocator := allocator
          rootPageTable := rootFrame
          virtAddress := v }
        s)
    (hKept :
      ∀ i : Word,
        i.toNat < 512 →
          (Walk.afterL1
              { allocator := allocator
                rootPageTable := rootFrame
                virtAddress := v }
              s).2.word
              (entryAddress rootFrame i) =
            s.word (entryAddress rootFrame i)) :
    PathTaken rootFrame v s := by
  let w : Walk :=
    { allocator := allocator
      rootPageTable := rootFrame
      virtAddress := v }
  have hNotLinked :
      ∀ i : Word,
        i.toNat < 512 →
          ¬ LinksCreated allocator
            ((w.afterL1 s).2.word
              (entryAddress rootFrame i)) := by
    rintro i hI ⟨n, hAlloc, hLinked⟩
    rw [hKept i hI] at hLinked
    exact hUnused.hUnlinked n i hAlloc hI hLinked
  have hAfterL3 := (w.afterL3_outcome s).of_found hL3
  have hOutcomeL2 := Walk.afterL2_outcome_of_path hAfterL3
  by_cases hL2 : pathL2 rootFrame v s = 0
  · have hCreated :
        LinksCreated allocator
          ((w.afterL2 s).2.word
            (entryAddress rootFrame (l3Idx v))) :=
      linksCreated_of_missing hFrame hUnused hOutcomeL2
        (l3Idx_lt v) hL2 hEnds.hComplete.hL2
    exact
      absurd
        (linksCreated_of_blockOutcome hFrame hUnused
          (w.afterL1_outcome s) (l3Idx_lt v) hCreated)
        (hNotLinked _ (l3Idx_lt v))
  · have hAfterL2 := hOutcomeL2.of_found hL2
    have hOutcomeL1 := Walk.afterL1_outcome_of_path hAfterL2
    by_cases hL1 : pathL1 rootFrame v s = 0
    · have hCreated :
          LinksCreated allocator
            ((w.afterL1 s).2.word
              (entryAddress rootFrame (l2Idx v))) :=
        linksCreated_of_missing hFrame hUnused hOutcomeL1
          (l2Idx_lt v) hL1 hEnds.hComplete.hL1
      exact absurd hCreated (hNotLinked _ (l2Idx_lt v))
    · have hAfterL1 := hOutcomeL1.of_found hL1
      have hLeaf := hEnds.hLeaf
      rw [Walk.foundLeaf_of_path hAfterL1] at hLeaf
      exact ⟨hL3, hL2, hL1, hLeaf⟩

end Agreement

/- Without a frame for its L3 table a call gives up. -/
theorem Walk.Outcome.of_noFrame
    {w : Walk}
    {s : PagingState}
    {physAddress : Addr}
    {flags : PageFlags}
    {forceWrite : Bool}
    {result : PageMapError × PagingState}
    (hOutcome :
      w.Outcome s physAddress flags forceWrite result)
    (hSign : signExtensionOk w.virtAddress = true)
    (hMissing :
      pathL3 w.rootPageTable w.virtAddress s = 0)
    (hAlloc : w.allocator s.frames = 0) :
    result = (.AllocFailed, s.failAlloc) := by
  have hAfterL3 : w.afterL3 s = (none, s.failAlloc) := by
    have hBlock := w.afterL3_outcome s
    generalize w.afterL3 s = block at hBlock ⊢
    cases hBlock with
    | present hFound => exact absurd hMissing hFound
    | failed _ _ => rfl
    | created _ hFrame => exact absurd hAlloc hFrame
  have hNone : (w.afterL3 s).1 = none := by
    rw [hAfterL3]
  cases hOutcome with
  | invalid hInvalid =>
      exact absurd (hSign.symm.trans hInvalid) (by decide)
  | mapped _ _ hMapped =>
      exact
        absurd hMissing (pathTaken_of_translated hMapped).hL3
  | noL3 _ _ => rw [hAfterL3]
  | noL2 _ hL3 _ => exact absurd hNone hL3
  | noL1 _ hL3 _ _ => exact absurd hNone hL3
  | taken _ hComplete _ _ => exact absurd hNone hComplete.hL3
  | stored _ hComplete _ => exact absurd hNone hComplete.hL3

section Modes

variable {allocator : Nat → Addr}
variable {rootFrame rootPageTable : Addr}
variable {s : PagingState}
variable (hRoot : LiveRoot rootFrame rootPageTable s)
variable (hUnused : UnusedFrames allocator rootFrame s)
variable (virtAddress physAddress : Addr)
variable (flags : PageFlags)
variable (forceWrite : Bool)

theorem modesAgree_of_rejected
    (hSign : signExtensionOk virtAddress = false) :
    ModesAgree allocator rootFrame rootPageTable virtAddress
      physAddress flags forceWrite s := by
  refine ⟨s, ?_, ?_⟩
  · rw [mapPage_live_of_rejected _ _ _ _ _ hSign,
      mapPage_of_not_signExtensionOk _ _ _ _ _ _ _ hSign]
  · rw [mapPage_of_not_signExtensionOk _ _ _ _ _ _ _ hSign]
    exact Mmu.SameTables.refl _ _

include hRoot in
theorem modesAgree_of_noFrame
    (hSign : signExtensionOk virtAddress = true)
    (hMissing : pathL3 rootFrame virtAddress s = 0)
    (hAlloc : allocator s.frames = 0) :
    ModesAgree allocator rootFrame rootPageTable virtAddress
      physAddress flags forceWrite s := by
  let w : Walk :=
    { allocator := allocator
      rootPageTable := rootFrame
      virtAddress := virtAddress }
  have hTranslated :
      liveTranslate rootFrame rootPageTable virtAddress s =
        some 0 :=
    liveTranslate_of_missing virtAddress hRoot hMissing
  have hLive :=
    mapPage_live allocator virtAddress hRoot physAddress
      flags forceWrite hSign
  rw [if_pos (Or.inr hTranslated),
    if_pos ⟨hMissing, hAlloc⟩] at hLive
  have hBoot :=
    (w.mapPage_outcome s physAddress flags
      forceWrite).of_noFrame hSign hMissing hAlloc
  unfold ModesAgree
  dsimp only
  rw [hLive, hBoot]
  exact ⟨s.failAlloc, rfl, Mmu.SameTables.refl _ _⟩

include hRoot in
theorem modesAgree_of_found
    {existing : Word}
    (hSign : signExtensionOk virtAddress = true)
    (hTranslated :
      liveTranslate rootFrame rootPageTable virtAddress s =
        some existing)
    (hExisting : existing ≠ 0)
    (hPath : PathTaken rootFrame virtAddress s) :
    ModesAgree allocator rootFrame rootPageTable virtAddress
      physAddress flags false s := by
  let w : Walk :=
    { allocator := allocator
      rootPageTable := rootFrame
      virtAddress := virtAddress }
  have hLive :=
    mapPage_live allocator virtAddress hRoot physAddress
      flags false hSign
  have hTested :
      ¬ (false = true ∨
          liveTranslate rootFrame rootPageTable virtAddress
              s =
            some 0) := by
    rw [hTranslated]
    rintro (hForced | hNothing)
    · exact absurd hForced (by decide)
    · exact hExisting (Option.some.inj hNothing)
  rw [if_neg hTested, hTranslated] at hLive
  have hOutcome := w.mapPage_outcome s physAddress flags false
  have hExists :=
    (hOutcome.exists_iff hSign).mpr
      (Walk.endsAtLeaf_of_pathTaken (w := w) hPath).1
  have hKept :=
    ((hOutcome.unchanged_iff_pathTaken hExists).mpr hPath).1
  unfold ModesAgree
  dsimp only
  rw [hLive, hExists, hKept]
  exact ⟨s, rfl, Mmu.SameTables.refl _ _⟩

include hRoot in
theorem modesAgree_of_answeredEarly
    (hEarly :
      AnsweredEarly allocator rootFrame rootPageTable
        virtAddress forceWrite s) :
    ModesAgree allocator rootFrame rootPageTable virtAddress
      physAddress flags forceWrite s := by
  cases hSign : signExtensionOk virtAddress with
  | false =>
      exact
        modesAgree_of_rejected virtAddress physAddress flags
          forceWrite hSign
  | true =>
      cases hEarly with
      | rejected hRejected =>
          exact
            absurd (hSign.symm.trans hRejected) (by decide)
      | noFrame hMissing hAlloc =>
          exact
            modesAgree_of_noFrame hRoot virtAddress
              physAddress flags forceWrite hSign hMissing
              hAlloc
      | found hForce hTranslated hExisting hPath =>
          subst hForce
          exact
            modesAgree_of_found hRoot virtAddress physAddress
              flags hSign hTranslated hExisting hPath

include hRoot hUnused in
theorem answeredEarly_of_modesAgree
    (hAgree :
      ModesAgree allocator rootFrame rootPageTable
        virtAddress physAddress flags forceWrite s) :
    AnsweredEarly allocator rootFrame rootPageTable
      virtAddress forceWrite s := by
  let w : Walk :=
    { allocator := allocator
      rootPageTable := rootFrame
      virtAddress := virtAddress }
  have hOutcome :
      w.Outcome s physAddress flags forceWrite
        (mapPage (bootBus allocator) rootFrame virtAddress
          physAddress flags forceWrite true s) :=
    w.mapPage_outcome s physAddress flags forceWrite
  rcases hAgree with ⟨t, hLive, hSame⟩
  cases hSign : signExtensionOk virtAddress with
  | false => exact .rejected hSign
  | true =>
      rw [mapPage_live allocator virtAddress hRoot
        physAddress flags forceWrite hSign] at hLive
      split_ifs at hLive with hUntested hNoFrame
      · exact .noFrame hNoFrame.1 hNoFrame.2
      · rcases not_or.mp hUntested with ⟨hForced, hNothing⟩
        have hForce : forceWrite = false := by
          simpa using hForced
        subst hForce
        rcases hTranslated :
            liveTranslate rootFrame rootPageTable virtAddress
              s with
          _ | existing
        · rw [hTranslated] at hLive
          exact absurd hLive nofun
        · have hExisting : existing ≠ 0 := by
            rintro rfl
            exact hNothing hTranslated
          have hL3 : pathL3 rootFrame virtAddress s ≠ 0 := by
            intro hMissing
            exact
              hNothing
                (liveTranslate_of_missing virtAddress hRoot
                  hMissing)
          rw [hTranslated] at hLive
          refine .found rfl hTranslated hExisting ?_
          generalize
            mapPage (bootBus allocator) rootFrame virtAddress
                physAddress flags false true s =
              boot at hOutcome hLive hSame
          have hPair := Option.some.inj hLive
          have hExists : boot.1 = .EntryExists :=
            (congrArg Prod.fst hPair).symm
          obtain rfl : s = t := congrArg Prod.snd hPair
          have hEnds := (hOutcome.exists_iff hSign).mp hExists
          cases hOutcome with
          | invalid _ => exact absurd hExists nofun
          | mapped _ _ hMapped =>
              exact pathTaken_of_translated hMapped
          | noL3 _ _ => exact absurd hExists nofun
          | noL2 _ _ _ => exact absurd hExists nofun
          | noL1 _ _ _ _ => exact absurd hExists nofun
          | taken _ _ _ _ =>
              exact
                pathTaken_of_root_kept
                  hRoot.aligned_rootFrame hUnused hL3 hEnds
                  (fun i hI => hSame.root_entry hI)
          | stored _ _ _ => exact absurd hExists nofun

include hRoot hUnused in
/-
  The two modes agree on a call exactly when its answer does
  not depend on any table below the root.
-/
theorem modesAgree_iff :
    ModesAgree allocator rootFrame rootPageTable virtAddress
        physAddress flags forceWrite s ↔
      AnsweredEarly allocator rootFrame rootPageTable
        virtAddress forceWrite s := by
  constructor
  · exact
      answeredEarly_of_modesAgree hRoot hUnused virtAddress
        physAddress flags forceWrite
  · exact
      modesAgree_of_answeredEarly hRoot virtAddress
        physAddress flags forceWrite

end Modes

------------------------------------------------------------
-- A Running Kernel
------------------------------------------------------------

/- Every entry of its tables leads to the root at 0. -/
def sampleLive : PagingState where
  machine := { mem := loopMemory, stores := [] }
  frames := 0
  tables := []

private theorem sampleLive_word
    (idx : Word) :
    sampleLive.word (entryAddress 0 idx) = 1 := by
  apply Memory.load_eq_of_bytes (n := 8)
  intro i hi
  have hOffset :
      (entryAddress 0 idx + BitVec.ofNat 64 i).toNat % 8 =
        i := by
    unfold entryAddress
    bv_omega
  have hByte :
      sampleLive.machine.mem
          (entryAddress 0 idx + BitVec.ofNat 64 i) =
        if i = 0 then 1 else 0 := by
    show (if _ = 0 then (1 : Byte) else 0) = _
    rw [hOffset]
  rw [hByte]
  interval_cases i <;> decide

private theorem one_ne_tableEntry
    (frame : Addr) :
    (1 : Word) ≠ tableEntry frame := by
  have hWrite :
      (PageFlags.Present ||| PageFlags.WriteBit).Has
        PageFlags.WriteBit := by
    decide
  intro hEntry
  have hBit :
      (tableEntry frame).getLsbD 1 = true := by
    simp [tableEntry, getLsbD_constructTableEntry,
      getLsbD_x86_64PageFlags, hWrite]
  rw [← hEntry] at hBit
  exact absurd hBit (by decide)

theorem sampleLive_liveRoot : LiveRoot 0 0 sampleLive where
  hAligned := by decide
  hSelf :=
    ⟨by decide +kernel, by decide +kernel, by decide +kernel⟩
  hResolves := by decide +kernel

theorem sampleLive_unusedFrames :
    UnusedFrames sampleAllocator 0 sampleLive where
  hAligned := (sample_freshFrames le_rfl).hAligned
  hRoot n hNonzero := hNonzero
  hUnlinked n idx _ _ := by
    rw [sampleLive_word]
    exact one_ne_tableEntry _

theorem modesAgree_iff_sample :
    ModesAgree sampleAllocator 0 0 samplePage 0x300000
        PageFlags.Present false sampleLive ↔
      AnsweredEarly sampleAllocator 0 0 samplePage false
        sampleLive :=
  modesAgree_iff sampleLive_liveRoot sampleLive_unusedFrames
    samplePage 0x300000 PageFlags.Present false

/-
  Where every table is there, the running kernel maps a page
  with the default arguments, and faults.
-/
theorem modesAgree_fails :
    LiveRoot 0 0 sampleLive ∧
      UnusedFrames sampleAllocator 0 sampleLive ∧
      ¬ ModesAgree sampleAllocator 0 0 samplePage 0x300000
        PageFlags.Present true sampleLive ∧
      mapPage (liveBus sampleAllocator 0) 0 samplePage
          0x300000 PageFlags.Present true false sampleLive =
        none := by
  have hFaults :
      mapPage (liveBus sampleAllocator 0) 0 samplePage
          0x300000 PageFlags.Present true false sampleLive =
        none := by
    rw [mapPage_live sampleAllocator samplePage
      sampleLive_liveRoot 0x300000 PageFlags.Present true
      (by decide), if_pos (Or.inl rfl), if_neg]
    rw [sampleLive_word]
    exact fun hBoth => absurd hBoth.1 (by decide)
  refine
    ⟨sampleLive_liveRoot, sampleLive_unusedFrames, ?_,
      hFaults⟩
  rintro ⟨t, hLive, _⟩
  rw [hFaults] at hLive
  exact absurd hLive nofun

end Paginator

end Chihuahua
