import Chihuahua.Paginator.PageTable

/-
  The x86_64 paging controller: `translateVirtToPhys` and
  `mapPage`.

  The functions are written over a `Bus`, the few ways in
  which they act on the machine. While paging is disabled a
  pointer is a physical address; afterwards it is resolved
  by the processor and may fault. The code is the same for
  both, so it is translated once, for any bus.

  Main declarations:
    * `Bus`
    * `l4Idx`, `l3Idx`, `l2Idx` and `l1Idx`
    * `translateVirtToPhys`
    * `tableFor`, `tablesFor`, `writeLeaf` and `mapPage`
-/

------------------------------------------------------------
-- Access to the Machine
------------------------------------------------------------

namespace Chihuahua

namespace Paginator

open ByteMachine

/- The level of a table below the root. -/
inductive TableLevel where
| L3
| L2
| L1
deriving DecidableEq, Repr

/-
  What the paging code does to the machine around it.
  `tableCreated` only tells an observer what a frame was
  handed out for: nothing ever reads it back.
-/
structure Bus (m : Type → Type) where
  load : Addr → m Word
  store : Addr → Word → m Unit
  memset : Addr → BitVec 32 → BitVec 64 → m Unit
  allocator : m Addr
  tableCreated : TableLevel → Addr → Addr → m Unit

------------------------------------------------------------
-- Constants and Addresses
------------------------------------------------------------

def INDEX_MASK : Word := 0x1FF

def PAGE_TABLE_SIZE : BitVec 64 := 4096

def SIGN_EXTENSION : Word := 0xFFFF <<< 48

def RECURSIVE_INDEX : Word := 0x01

def P4_SHIFT : Nat := 39

def P3_SHIFT : Nat := 30

def P2_SHIFT : Nat := 21

def P1_SHIFT : Nat := 12

def l4Idx (virtAddress : Addr) : Word :=
  (virtAddress >>> P4_SHIFT) &&& INDEX_MASK

def l3Idx (virtAddress : Addr) : Word :=
  (virtAddress >>> P3_SHIFT) &&& INDEX_MASK

def l2Idx (virtAddress : Addr) : Word :=
  (virtAddress >>> P2_SHIFT) &&& INDEX_MASK

def l1Idx (virtAddress : Addr) : Word :=
  (virtAddress >>> P1_SHIFT) &&& INDEX_MASK

/- The address of `entries[idx]` of a `PageTable_t`. -/
def entryAddress (table : Addr) (idx : Word) : Addr :=
  table + 8 * idx

/- The recursive address of the L3 table. -/
def recursiveL3 (virtAddress : Addr) : Addr :=
  SIGN_EXTENSION
    ||| RECURSIVE_INDEX <<< P4_SHIFT
    ||| RECURSIVE_INDEX <<< P3_SHIFT
    ||| RECURSIVE_INDEX <<< P2_SHIFT
    ||| l4Idx virtAddress <<< P1_SHIFT

/- The recursive address of the L2 table. -/
def recursiveL2 (virtAddress : Addr) : Addr :=
  SIGN_EXTENSION
    ||| RECURSIVE_INDEX <<< P4_SHIFT
    ||| RECURSIVE_INDEX <<< P3_SHIFT
    ||| l4Idx virtAddress <<< P2_SHIFT
    ||| l3Idx virtAddress <<< P1_SHIFT

/- The recursive address of the L1 table. -/
def recursiveL1 (virtAddress : Addr) : Addr :=
  SIGN_EXTENSION
    ||| RECURSIVE_INDEX <<< P4_SHIFT
    ||| l4Idx virtAddress <<< P3_SHIFT
    ||| l3Idx virtAddress <<< P2_SHIFT
    ||| l2Idx virtAddress <<< P1_SHIFT

/- An index is masked, so this check never fires. -/
def indicesTooLarge (virtAddress : Addr) : Bool :=
  l4Idx virtAddress > INDEX_MASK ||
    l3Idx virtAddress > INDEX_MASK ||
    l2Idx virtAddress > INDEX_MASK ||
    l1Idx virtAddress > INDEX_MASK

/- The check that the upper 16 bits are all 0 or all 1. -/
def signExtensionOk (virtAddress : Addr) : Bool :=
  let signExtension := virtAddress >>> 48
  signExtension == 0 || signExtension == 0xFFFF

------------------------------------------------------------
-- Translation
------------------------------------------------------------

variable {m : Type → Type} [Monad m]

/- The source takes a mode flag here and ignores it. -/
def translateVirtToPhys
    (bus : Bus m)
    (rootPageTable virtAddress : Addr) : m Word := do
  if indicesTooLarge virtAddress then
    return 0
  let l3PhysAddr :=
    getAddrFromEntry
      (← bus.load
        (entryAddress rootPageTable (l4Idx virtAddress)))
  if l3PhysAddr = 0 then
    return 0
  let l2PhysAddr :=
    getAddrFromEntry
      (← bus.load
        (entryAddress l3PhysAddr (l3Idx virtAddress)))
  if l2PhysAddr = 0 then
    return 0
  let l1PhysAddr :=
    getAddrFromEntry
      (← bus.load
        (entryAddress l2PhysAddr (l2Idx virtAddress)))
  if l1PhysAddr = 0 then
    return 0
  let entry ←
    bus.load (entryAddress l1PhysAddr (l1Idx virtAddress))
  return getAddrFromEntry entry

------------------------------------------------------------
-- Mapping
------------------------------------------------------------

/- Where the code finds the table an entry stands for. -/
def tablePointer
    (pagingDisabledNow : Bool)
    (entry : Word)
    (recursiveAddress : Addr) : Addr :=
  if pagingDisabledNow then
    getAddrFromEntry entry
  else
    recursiveAddress

/-
  One of the three blocks of `mapPage` that read the entry
  of a table and create the table where it is missing. Each
  of them stores the new entry into the root table, whatever
  table it was read from. `none` is the failed allocation.
-/
def tableFor
    (bus : Bus m)
    (rootPageTable : Addr)
    (pagingDisabledNow : Bool)
    (virtAddress : Addr)
    (level : TableLevel)
    (parentTable : Addr)
    (idx : Word)
    (recursiveAddress : Addr) : m (Option Word) := do
  let entry ← bus.load (entryAddress parentTable idx)
  if entry = 0 then
    let physAddr ← bus.allocator
    if physAddr = 0 then
      return none
    bus.tableCreated level physAddr virtAddress
    if pagingDisabledNow then
      bus.memset physAddr 0 PAGE_TABLE_SIZE
    let entry :=
      constructTableEntry physAddr
        (PageFlags.Present ||| PageFlags.WriteBit)
    bus.store (entryAddress rootPageTable idx) entry
    bus.store
      (entryAddress
        (tablePointer pagingDisabledNow entry
          recursiveAddress)
        RECURSIVE_INDEX)
      entry
    return some entry
  return some entry

/- The three table entries on the way to a leaf. -/
structure TableEntries where
  entryForL3 : Word
  entryForL2 : Word
  entryForL1 : Word
deriving DecidableEq, Repr

/- The three blocks in a row. -/
def tablesFor
    (bus : Bus m)
    (rootPageTable : Addr)
    (pagingDisabledNow : Bool)
    (virtAddress : Addr) : m (Option TableEntries) := do
  match ←
    tableFor bus rootPageTable pagingDisabledNow virtAddress
      .L3 rootPageTable (l4Idx virtAddress)
      (recursiveL3 virtAddress) with
  | none => return none
  | some entryForL3 =>
      let l3Table :=
        tablePointer pagingDisabledNow entryForL3
          (recursiveL3 virtAddress)
      match ←
        tableFor bus rootPageTable pagingDisabledNow
          virtAddress .L2 l3Table (l3Idx virtAddress)
          (recursiveL2 virtAddress) with
      | none => return none
      | some entryForL2 =>
          let l2Table :=
            tablePointer pagingDisabledNow entryForL2
              (recursiveL2 virtAddress)
          match ←
            tableFor bus rootPageTable pagingDisabledNow
              virtAddress .L1 l2Table (l2Idx virtAddress)
              (recursiveL1 virtAddress) with
          | none => return none
          | some entryForL1 =>
              return some
                { entryForL3 := entryForL3
                  entryForL2 := entryForL2
                  entryForL1 := entryForL1 }

/- The L1 entry itself; `invalidatePage` does nothing. -/
def writeLeaf
    (bus : Bus m)
    (l1Table virtAddress physAddress : Addr)
    (flags : PageFlags)
    (forceWrite : Bool) : m PageMapError := do
  let existingPhysAddress ←
    bus.load (entryAddress l1Table (l1Idx virtAddress))
  if existingPhysAddress ≠ 0 ∧ ¬ forceWrite then
    return .EntryExists
  bus.store (entryAddress l1Table (l1Idx virtAddress))
    (constructTableEntry physAddress flags)
  return .NoError

def mapPage
    (bus : Bus m)
    (rootPageTable virtAddress physAddress : Addr)
    (flags : PageFlags)
    (forceWrite pagingDisabledNow : Bool) :
    m PageMapError := do
  if indicesTooLarge virtAddress then
    return .InvalidVirtAddress
  if ¬ signExtensionOk virtAddress then
    return .InvalidVirtAddress
  if ¬ forceWrite then
    -- an existing mapping must not be overwritten
    let existing ←
      translateVirtToPhys bus rootPageTable virtAddress
    if existing ≠ 0 then
      return .EntryExists
  match ←
    tablesFor bus rootPageTable pagingDisabledNow
      virtAddress with
  | none => return .AllocFailed
  | some entries =>
      writeLeaf bus
        (tablePointer pagingDisabledNow entries.entryForL1
          (recursiveL1 virtAddress))
        virtAddress physAddress flags forceWrite

end Paginator

end Chihuahua
