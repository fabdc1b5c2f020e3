import Chihuahua.Essentials.MemEssentials
import Chihuahua.Paginator.PagingController

/-
  The paging controller while paging is disabled: every
  pointer is a physical address.

  Main declarations:
    * `PagingState` and `bootBus`
    * `tableFor_boot`, `writeLeaf_boot` and
      `translateVirtToPhys_boot`
    * `Walk` and `Walk.mapPage_outcome`
-/

------------------------------------------------------------
-- State and Bus
------------------------------------------------------------

namespace Chihuahua

namespace Paginator

open ByteMachine Essentials

/- A frame the allocator handed out, and what for. -/
structure TableRecord where
  level : TableLevel
  frame : Addr
  virtAddress : Addr
deriving DecidableEq, Repr

/-
  Physical memory, the number of calls the allocator has
  answered, and the tables created, the latest first.
-/
structure PagingState where
  machine : Machine
  frames : Nat
  tables : List TableRecord

namespace PagingState

/- The 64-bit word at a physical address. -/
def word
    (s : PagingState)
    (a : Addr) : Word :=
  s.machine.mem.load64 a

end PagingState

/-
  The bus of the boot loader; `allocator n` is the answer
  to call number `n` of the frame allocator.
-/
def bootBus
    (allocator : Nat → Addr) : Bus (StateM PagingState) where
  load a := fun s => (s.word a, s)
  store a w := fun s =>
    ((), { s with machine := s.machine.write64 a w })
  memset dest c n := fun s =>
    ((), { s with machine := (memset dest c n s.machine).2 })
  allocator := fun s =>
    (allocator s.frames, { s with frames := s.frames + 1 })
  tableCreated level frame virtAddress := fun s =>
    ((),
      { s with
        tables := ⟨level, frame, virtAddress⟩ :: s.tables })

------------------------------------------------------------
-- The Functions at Boot
------------------------------------------------------------

/- A sequence of two actions, run in a state. -/
theorem run_bind
    {α β : Type}
    (x : StateM PagingState α)
    (f : α → StateM PagingState β)
    (s : PagingState) :
    (x >>= f) s = f (x s).1 (x s).2 := rfl

theorem run_pure
    {α : Type}
    (a : α)
    (s : PagingState) :
    (pure a : StateM PagingState α) s = (a, s) := rfl

namespace PagingState

/- An allocator call that was answered with 0. -/
def failAlloc (s : PagingState) : PagingState :=
  { s with frames := s.frames + 1 }

/- One table created by `mapPage` in the given frame. -/
def createTable
    (s : PagingState)
    (rootPageTable virtAddress : Addr)
    (level : TableLevel)
    (idx : Word)
    (frame : Addr) : PagingState where
  machine :=
    (((memset frame 0 PAGE_TABLE_SIZE s.machine).2).write64
      (entryAddress rootPageTable idx)
      (tableEntry frame)).write64
      (entryAddress (getAddrFromEntry (tableEntry frame))
        RECURSIVE_INDEX)
      (tableEntry frame)
  frames := s.frames + 1
  tables := ⟨level, frame, virtAddress⟩ :: s.tables

/- The store of a leaf entry. -/
def storeLeaf
    (s : PagingState)
    (slot : Addr)
    (entry : Word) : PagingState :=
  { s with machine := s.machine.write64 slot entry }

end PagingState

variable (allocator : Nat → Addr)

theorem indicesTooLarge_eq_false
    (virtAddress : Addr) :
    indicesTooLarge virtAddress = false := by
  have hMask :
      ∀ x : Word, ¬ (x &&& INDEX_MASK > INDEX_MASK) := by
    intro x hGt
    have hLe : (x &&& INDEX_MASK).toNat ≤ INDEX_MASK.toNat := by
      rw [BitVec.toNat_and]
      exact Nat.and_le_right
    have hLt : INDEX_MASK.toNat < (x &&& INDEX_MASK).toNat :=
      hGt
    omega
  simp [indicesTooLarge, l4Idx, l3Idx, l2Idx, l1Idx, hMask]

theorem tableFor_boot
    (rootPageTable virtAddress : Addr)
    (level : TableLevel)
    (parentTable : Addr)
    (idx : Word)
    (recursiveAddress : Addr)
    (s : PagingState) :
    tableFor (bootBus allocator) rootPageTable true
        virtAddress level parentTable idx
        recursiveAddress s =
      if s.word (entryAddress parentTable idx) = 0 then
        if allocator s.frames = 0 then
          (none, s.failAlloc)
        else
          (some (tableEntry (allocator s.frames)),
            s.createTable rootPageTable virtAddress level idx
              (allocator s.frames))
      else
        (some (s.word (entryAddress parentTable idx)), s) := by
  by_cases hEntry :
      s.word (entryAddress parentTable idx) = 0
  · by_cases hAlloc : allocator s.frames = 0
    · simp only [tableFor, bootBus, run_bind, run_pure,
        hEntry, hAlloc, if_true, PagingState.failAlloc]
    · simp only [tableFor, bootBus, run_bind, run_pure,
        hEntry, hAlloc, if_true, if_false]
      rfl
  · simp only [tableFor, bootBus, run_bind, run_pure,
      hEntry, if_false]

theorem writeLeaf_boot
    (l1Table virtAddress physAddress : Addr)
    (flags : PageFlags)
    (forceWrite : Bool)
    (s : PagingState) :
    writeLeaf (bootBus allocator) l1Table virtAddress
        physAddress flags forceWrite s =
      if s.word (entryAddress l1Table (l1Idx virtAddress)) ≠
            0 ∧
          forceWrite = false then
        (.EntryExists, s)
      else
        (.NoError,
          s.storeLeaf
            (entryAddress l1Table (l1Idx virtAddress))
            (constructTableEntry physAddress flags)) := by
  cases forceWrite with
  | false =>
      by_cases hExists :
          s.word (entryAddress l1Table (l1Idx virtAddress)) =
            0
      · simp only [writeLeaf, bootBus, run_bind, run_pure,
          hExists, ne_eq, not_true_eq_false, false_and,
          if_false]
        rfl
      · simp only [writeLeaf, bootBus, run_bind, run_pure,
          hExists, ne_eq, not_false_eq_true,
          Bool.false_eq_true, and_self, if_true]
  | true =>
      simp only [writeLeaf, bootBus, run_bind, run_pure,
        ne_eq, not_true_eq_false, and_false, if_false,
        Bool.true_eq_false]
      rfl

/- The translation, and that it only reads. -/
theorem translateVirtToPhys_boot
    (rootPageTable virtAddress : Addr)
    (s : PagingState) :
    translateVirtToPhys (bootBus allocator) rootPageTable
        virtAddress s =
      (let l3PhysAddr :=
          getAddrFromEntry
            (s.word
              (entryAddress rootPageTable
                (l4Idx virtAddress)))
        let l2PhysAddr :=
          getAddrFromEntry
            (s.word
              (entryAddress l3PhysAddr (l3Idx virtAddress)))
        let l1PhysAddr :=
          getAddrFromEntry
            (s.word
              (entryAddress l2PhysAddr (l2Idx virtAddress)))
        if l3PhysAddr = 0 then 0
        else if l2PhysAddr = 0 then 0
        else if l1PhysAddr = 0 then 0
        else
          getAddrFromEntry
            (s.word
              (entryAddress l1PhysAddr (l1Idx virtAddress))),
        s) := by
  dsimp only
  split_ifs with hL3 hL2 hL1 <;>
    simp only [translateVirtToPhys,
      indicesTooLarge_eq_false, bootBus, run_bind,
      run_pure, Bool.false_eq_true, if_false, if_true, *]

theorem mapPage_of_not_signExtensionOk
    (rootPageTable virtAddress physAddress : Addr)
    (flags : PageFlags)
    (forceWrite : Bool)
    (s : PagingState)
    (hSign : signExtensionOk virtAddress = false) :
    mapPage (bootBus allocator) rootPageTable virtAddress
        physAddress flags forceWrite true s =
      (.InvalidVirtAddress, s) := by
  simp only [mapPage, indicesTooLarge_eq_false, hSign]
  rfl

theorem mapPage_of_mapped
    (rootPageTable virtAddress physAddress : Addr)
    (flags : PageFlags)
    (forceWrite : Bool)
    (s : PagingState)
    (hSign : signExtensionOk virtAddress = true)
    (hForce : forceWrite = false)
    (hMapped :
      (translateVirtToPhys (bootBus allocator) rootPageTable
        virtAddress s).1 ≠ 0) :
    mapPage (bootBus allocator) rootPageTable virtAddress
        physAddress flags forceWrite true s =
      (.EntryExists, s) := by
  have hState :=
    congrArg Prod.snd
      (translateVirtToPhys_boot allocator rootPageTable
        virtAddress s)
  rcases hTranslated :
      translateVirtToPhys (bootBus allocator) rootPageTable
        virtAddress s with
    ⟨existing, t⟩
  rw [hTranslated] at hMapped hState
  obtain rfl : t = s := hState
  have hExisting : existing ≠ 0 := hMapped
  simp only [mapPage, indicesTooLarge_eq_false, hSign,
    hForce, not_true_eq_false, Bool.false_eq_true,
    if_false, not_false_eq_true, if_true, run_bind,
    hTranslated, hExisting, ne_eq]
  rfl

theorem mapPage_of_passes
    (rootPageTable virtAddress physAddress : Addr)
    (flags : PageFlags)
    (forceWrite : Bool)
    (s : PagingState)
    (hSign : signExtensionOk virtAddress = true)
    (hMapped :
      forceWrite = true ∨
        (translateVirtToPhys (bootBus allocator)
          rootPageTable virtAddress s).1 = 0) :
    mapPage (bootBus allocator) rootPageTable virtAddress
        physAddress flags forceWrite true s =
      match tablesFor (bootBus allocator) rootPageTable true
        virtAddress s with
      | (none, t) => (.AllocFailed, t)
      | (some entries, t) =>
          writeLeaf (bootBus allocator)
            (getAddrFromEntry entries.entryForL1)
            virtAddress physAddress flags forceWrite t := by
  have hState :=
    congrArg Prod.snd
      (translateVirtToPhys_boot allocator rootPageTable
        virtAddress s)
  rcases hTranslated :
      translateVirtToPhys (bootBus allocator) rootPageTable
        virtAddress s with
    ⟨existing, t⟩
  rw [hTranslated] at hMapped hState
  obtain rfl : t = s := hState
  cases forceWrite with
  | true =>
      simp only [mapPage, indicesTooLarge_eq_false, hSign,
        not_true_eq_false, Bool.false_eq_true, if_false,
        run_bind, tablePointer, if_true]
      rcases
          tablesFor (bootBus allocator) rootPageTable true
            virtAddress t with
        ⟨_ | entries, after⟩ <;>
        rfl
  | false =>
      have hExisting : existing = 0 := by
        simpa using hMapped
      simp only [mapPage, indicesTooLarge_eq_false, hSign,
        not_true_eq_false, Bool.false_eq_true, if_false,
        not_false_eq_true, if_true, run_bind, hTranslated,
        hExisting, ne_eq, tablePointer]
      rcases
          tablesFor (bootBus allocator) rootPageTable true
            virtAddress t with
        ⟨_ | entries, after⟩ <;>
        rfl

------------------------------------------------------------
-- The Walk of One Call
------------------------------------------------------------

/- The walk of a call for one virtual address. -/
structure Walk where
  allocator : Nat → Addr
  rootPageTable : Addr
  virtAddress : Addr

/-
  What the blocks of `mapPage` do one after the other when a
  walk starts in `s`: `afterL3`, `afterL2` and `afterL1` are
  the results of the blocks, `foundL3` to `foundLeaf` the
  words they read before they decide whether something has
  to be created.
-/
namespace Walk

variable (w : Walk) (s : PagingState)

def afterL3 : Option Word × PagingState :=
  tableFor (bootBus w.allocator) w.rootPageTable true
    w.virtAddress .L3 w.rootPageTable (l4Idx w.virtAddress)
    (recursiveL3 w.virtAddress) s

def entryForL3 : Word :=
  (w.afterL3 s).1.getD 0

def afterL2 : Option Word × PagingState :=
  tableFor (bootBus w.allocator) w.rootPageTable true
    w.virtAddress .L2 (getAddrFromEntry (w.entryForL3 s))
    (l3Idx w.virtAddress) (recursiveL2 w.virtAddress)
    (w.afterL3 s).2

def entryForL2 : Word :=
  (w.afterL2 s).1.getD 0

def afterL1 : Option Word × PagingState :=
  tableFor (bootBus w.allocator) w.rootPageTable true
    w.virtAddress .L1 (getAddrFromEntry (w.entryForL2 s))
    (l2Idx w.virtAddress) (recursiveL1 w.virtAddress)
    (w.afterL2 s).2

def entryForL1 : Word :=
  (w.afterL1 s).1.getD 0

def slotL3 : Addr :=
  entryAddress w.rootPageTable (l4Idx w.virtAddress)

def slotL2 : Addr :=
  entryAddress (getAddrFromEntry (w.entryForL3 s))
    (l3Idx w.virtAddress)

def slotL1 : Addr :=
  entryAddress (getAddrFromEntry (w.entryForL2 s))
    (l2Idx w.virtAddress)

def slotLeaf : Addr :=
  entryAddress (getAddrFromEntry (w.entryForL1 s))
    (l1Idx w.virtAddress)

def foundL3 : Word :=
  s.word w.slotL3

def foundL2 : Word :=
  (w.afterL3 s).2.word (w.slotL2 s)

def foundL1 : Word :=
  (w.afterL2 s).2.word (w.slotL1 s)

def foundLeaf : Word :=
  (w.afterL1 s).2.word (w.slotLeaf s)

/- No allocation of the walk failed. -/
structure Complete : Prop where
  hL3 : (w.afterL3 s).1 ≠ none
  hL2 : (w.afterL2 s).1 ≠ none
  hL1 : (w.afterL1 s).1 ≠ none

/- The checks before the walk let the call through. -/
structure Passes (forceWrite : Bool) : Prop where
  hSign : signExtensionOk w.virtAddress = true
  hMapped :
    forceWrite = true ∨
      (translateVirtToPhys (bootBus w.allocator)
        w.rootPageTable w.virtAddress s).1 = 0

/- The walk gets to its L2 table and has to create it. -/
structure CreatesL2 : Prop where
  hL3 : (w.afterL3 s).1 ≠ none
  hFound : w.foundL2 s = 0
  hAlloc : w.allocator (w.afterL3 s).2.frames ≠ 0

/- The walk gets to its L1 table and has to create it. -/
structure CreatesL1 : Prop where
  hL3 : (w.afterL3 s).1 ≠ none
  hL2 : (w.afterL2 s).1 ≠ none
  hFound : w.foundL1 s = 0
  hAlloc : w.allocator (w.afterL2 s).2.frames ≠ 0

/- The call gets to the store of its leaf. -/
structure Stores (forceWrite : Bool) : Prop where
  hPasses : w.Passes s forceWrite
  hComplete : w.Complete s
  hLeaf : w.foundLeaf s = 0 ∨ forceWrite = true

/- What one block can do. -/
inductive BlockOutcome
    (level : TableLevel)
    (slot : Addr)
    (idx : Word) :
    Option Word × PagingState → Prop where
| present
    (hFound : s.word slot ≠ 0) :
    BlockOutcome level slot idx (some (s.word slot), s)
| failed
    (hFound : s.word slot = 0)
    (hAlloc : w.allocator s.frames = 0) :
    BlockOutcome level slot idx (none, s.failAlloc)
| created
    (hFound : s.word slot = 0)
    (hAlloc : w.allocator s.frames ≠ 0) :
    BlockOutcome level slot idx
      (some (tableEntry (w.allocator s.frames)),
        s.createTable w.rootPageTable w.virtAddress level
          idx (w.allocator s.frames))

theorem tableFor_outcome
    (level : TableLevel)
    (parentTable : Addr)
    (idx : Word)
    (recursiveAddress : Addr) :
    BlockOutcome w s level (entryAddress parentTable idx) idx
      (tableFor (bootBus w.allocator) w.rootPageTable true
        w.virtAddress level parentTable idx recursiveAddress
        s) := by
  rw [tableFor_boot]
  split_ifs with hFound hAlloc
  · exact .failed hFound hAlloc
  · exact .created hFound hAlloc
  · exact .present hFound

theorem afterL3_outcome :
    BlockOutcome w s .L3 w.slotL3 (l4Idx w.virtAddress)
      (w.afterL3 s) :=
  tableFor_outcome w s .L3 _ _ _

theorem afterL2_outcome :
    BlockOutcome w (w.afterL3 s).2 .L2 (w.slotL2 s)
      (l3Idx w.virtAddress) (w.afterL2 s) :=
  tableFor_outcome w (w.afterL3 s).2 .L2 _ _ _

theorem afterL1_outcome :
    BlockOutcome w (w.afterL2 s).2 .L1 (w.slotL1 s)
      (l2Idx w.virtAddress) (w.afterL1 s) :=
  tableFor_outcome w (w.afterL2 s).2 .L1 _ _ _

/- What one call of `mapPage` can do. -/
inductive Outcome
    (physAddress : Addr)
    (flags : PageFlags)
    (forceWrite : Bool) :
    PageMapError × PagingState → Prop where
| invalid
    (hSign : signExtensionOk w.virtAddress = false) :
    Outcome physAddress flags forceWrite
      (.InvalidVirtAddress, s)
| mapped
    (hSign : signExtensionOk w.virtAddress = true)
    (hForce : forceWrite = false)
    (hMapped :
      (translateVirtToPhys (bootBus w.allocator)
        w.rootPageTable w.virtAddress s).1 ≠ 0) :
    Outcome physAddress flags forceWrite (.EntryExists, s)
| noL3
    (hPasses : w.Passes s forceWrite)
    (hL3 : (w.afterL3 s).1 = none) :
    Outcome physAddress flags forceWrite
      (.AllocFailed, (w.afterL3 s).2)
| noL2
    (hPasses : w.Passes s forceWrite)
    (hL3 : (w.afterL3 s).1 ≠ none)
    (hL2 : (w.afterL2 s).1 = none) :
    Outcome physAddress flags forceWrite
      (.AllocFailed, (w.afterL2 s).2)
| noL1
    (hPasses : w.Passes s forceWrite)
    (hL3 : (w.afterL3 s).1 ≠ none)
    (hL2 : (w.afterL2 s).1 ≠ none)
    (hL1 : (w.afterL1 s).1 = none) :
    Outcome physAddress flags forceWrite
      (.AllocFailed, (w.afterL1 s).2)
| taken
    (hPasses : w.Passes s forceWrite)
    (hComplete : w.Complete s)
    (hLeaf : w.foundLeaf s ≠ 0)
    (hForce : forceWrite = false) :
    Outcome physAddress flags forceWrite
      (.EntryExists, (w.afterL1 s).2)
| stored
    (hPasses : w.Passes s forceWrite)
    (hComplete : w.Complete s)
    (hLeaf : w.foundLeaf s = 0 ∨ forceWrite = true) :
    Outcome physAddress flags forceWrite
      (.NoError,
        (w.afterL1 s).2.storeLeaf (w.slotLeaf s)
          (constructTableEntry physAddress flags))

theorem tablesFor_noL3
    (hL3 : (w.afterL3 s).1 = none) :
    tablesFor (bootBus w.allocator) w.rootPageTable true
        w.virtAddress s =
      (none, (w.afterL3 s).2) := by
  rcases hAfterL3 : w.afterL3 s with ⟨entry₃, s₃⟩
  rw [hAfterL3] at hL3
  obtain rfl : entry₃ = none := hL3
  unfold afterL3 at hAfterL3
  simp only [tablesFor, run_bind, hAfterL3]
  rfl

theorem tablesFor_noL2
    (hL3 : (w.afterL3 s).1 ≠ none)
    (hL2 : (w.afterL2 s).1 = none) :
    tablesFor (bootBus w.allocator) w.rootPageTable true
        w.virtAddress s =
      (none, (w.afterL2 s).2) := by
  rcases hAfterL3 : w.afterL3 s with ⟨_ | e₃, s₃⟩
  · exact absurd (by rw [hAfterL3]) hL3
  rcases hAfterL2 : w.afterL2 s with ⟨entry₂, s₂⟩
  rw [hAfterL2] at hL2
  obtain rfl : entry₂ = none := hL2
  simp only [afterL2, entryForL3, hAfterL3, Option.getD_some]
    at hAfterL2
  unfold afterL3 at hAfterL3
  simp only [tablesFor, run_bind, hAfterL3, tablePointer,
    if_true, hAfterL2]
  rfl

theorem tablesFor_noL1
    (hL3 : (w.afterL3 s).1 ≠ none)
    (hL2 : (w.afterL2 s).1 ≠ none)
    (hL1 : (w.afterL1 s).1 = none) :
    tablesFor (bootBus w.allocator) w.rootPageTable true
        w.virtAddress s =
      (none, (w.afterL1 s).2) := by
  rcases hAfterL3 : w.afterL3 s with ⟨_ | e₃, s₃⟩
  · exact absurd (by rw [hAfterL3]) hL3
  rcases hAfterL2 : w.afterL2 s with ⟨_ | e₂, s₂⟩
  · exact absurd (by rw [hAfterL2]) hL2
  rcases hAfterL1 : w.afterL1 s with ⟨entry₁, s₁⟩
  rw [hAfterL1] at hL1
  obtain rfl : entry₁ = none := hL1
  simp only [afterL1, entryForL2, hAfterL2, Option.getD_some]
    at hAfterL1
  simp only [afterL2, entryForL3, hAfterL3, Option.getD_some]
    at hAfterL2
  unfold afterL3 at hAfterL3
  simp only [tablesFor, run_bind, hAfterL3, tablePointer,
    if_true, hAfterL2, hAfterL1]
  rfl

/- The blocks in a row, once all of them succeed. -/
theorem tablesFor_complete
    (hComplete : w.Complete s) :
    tablesFor (bootBus w.allocator) w.rootPageTable true
        w.virtAddress s =
      (some
        { entryForL3 := w.entryForL3 s
          entryForL2 := w.entryForL2 s
          entryForL1 := w.entryForL1 s },
        (w.afterL1 s).2) := by
  rcases hAfterL3 : w.afterL3 s with ⟨_ | e₃, s₃⟩
  · exact absurd (by rw [hAfterL3]) hComplete.hL3
  rcases hAfterL2 : w.afterL2 s with ⟨_ | e₂, s₂⟩
  · exact absurd (by rw [hAfterL2]) hComplete.hL2
  rcases hAfterL1 : w.afterL1 s with ⟨_ | e₁, s₁⟩
  · exact absurd (by rw [hAfterL1]) hComplete.hL1
  simp only [entryForL1, hAfterL1, entryForL2, hAfterL2,
    entryForL3, hAfterL3, Option.getD_some]
  simp only [afterL1, entryForL2, hAfterL2, Option.getD_some]
    at hAfterL1
  simp only [afterL2, entryForL3, hAfterL3, Option.getD_some]
    at hAfterL2
  unfold afterL3 at hAfterL3
  simp only [tablesFor, run_bind, hAfterL3, tablePointer,
    if_true, hAfterL2, hAfterL1]
  rfl

theorem mapPage_outcome
    (physAddress : Addr)
    (flags : PageFlags)
    (forceWrite : Bool) :
    Outcome w s physAddress flags forceWrite
      (mapPage (bootBus w.allocator) w.rootPageTable
        w.virtAddress physAddress flags forceWrite true
        s) := by
  cases hSign : signExtensionOk w.virtAddress with
  | false =>
      rw [mapPage_of_not_signExtensionOk _ _ _ _ _ _ _ hSign]
      exact .invalid hSign
  | true =>
      by_cases hMapped :
          forceWrite = true ∨
            (translateVirtToPhys (bootBus w.allocator)
              w.rootPageTable w.virtAddress s).1 = 0
      · rw [mapPage_of_passes _ _ _ _ _ _ _ hSign hMapped]
        have hPasses : w.Passes s forceWrite :=
          ⟨hSign, hMapped⟩
        by_cases hL3 : (w.afterL3 s).1 = none
        · rw [tablesFor_noL3 w s hL3]
          exact .noL3 hPasses hL3
        by_cases hL2 : (w.afterL2 s).1 = none
        · rw [tablesFor_noL2 w s hL3 hL2]
          exact .noL2 hPasses hL3 hL2
        by_cases hL1 : (w.afterL1 s).1 = none
        · rw [tablesFor_noL1 w s hL3 hL2 hL1]
          exact .noL1 hPasses hL3 hL2 hL1
        have hComplete : w.Complete s := ⟨hL3, hL2, hL1⟩
        rw [tablesFor_complete w s hComplete]
        dsimp only
        rw [writeLeaf_boot]
        split_ifs with hTaken
        · exact .taken hPasses hComplete hTaken.1 hTaken.2
        · refine .stored hPasses hComplete ?_
          by_cases hLeaf : w.foundLeaf s = 0
          · exact Or.inl hLeaf
          · right
            by_contra hForce
            exact hTaken ⟨hLeaf, by simpa using hForce⟩
      · rcases not_or.mp hMapped with ⟨hForce, hNonzero⟩
        have hForce' : forceWrite = false := by
          simpa using hForce
        rw [mapPage_of_mapped _ _ _ _ _ _ _ hSign hForce'
          hNonzero]
        exact .mapped hSign hForce' hNonzero

end Walk

end Paginator

end Chihuahua
