import Chihuahua.Machine.Runs
import Chihuahua.Paginator.BootWords

/-
  The interface of the paginator, and the sequences of
  requests a boot loader makes through it.

  Main declarations:
    * `PageTableRootController`
    * `MapRequest` and `bootStep`
    * `ZeroedRoot` and `FreshFrames`
    * `rootWords_bootStep`
    * `bootStep_of_rootClear`
-/

------------------------------------------------------------
-- The Interface
------------------------------------------------------------

namespace Chihuahua

namespace Paginator

open ByteMachine Essentials

structure PageTableRootController
    (m : Type → Type) where
  rootPageTableAddress : Addr
  pagingDisabledNow : Bool
  bus : Bus m

namespace PageTableRootController

variable {m : Type → Type} [Monad m]

def mapPage
    (controller : PageTableRootController m)
    (virtAddress physAddress : Addr)
    (flags : PageFlags)
    (forceWrite : Bool) : m PageMapError :=
  Paginator.mapPage controller.bus
    controller.rootPageTableAddress virtAddress physAddress
    flags forceWrite controller.pagingDisabledNow

def identityMapPage
    (controller : PageTableRootController m)
    (address : Addr)
    (flags : PageFlags)
    (forceWrite : Bool) : m PageMapError :=
  Paginator.mapPage controller.bus
    controller.rootPageTableAddress address address flags
    forceWrite controller.pagingDisabledNow

def translateVirtToPhys
    (controller : PageTableRootController m)
    (virtAddress : Addr) : m Word :=
  Paginator.translateVirtToPhys controller.bus
    controller.rootPageTableAddress virtAddress

end PageTableRootController

------------------------------------------------------------
-- Requests
------------------------------------------------------------

/- The two methods that map a page. -/
inductive MapRequest where
| mapPage
    (virtAddress physAddress : Addr)
    (flags : PageFlags)
    (forceWrite : Bool)
| identityMapPage
    (address : Addr)
    (flags : PageFlags)
    (forceWrite : Bool)
deriving DecidableEq, Repr

namespace MapRequest

def virtAddress : MapRequest → Addr
| mapPage virtAddress _ _ _ => virtAddress
| identityMapPage address _ _ => address

def physAddress : MapRequest → Addr
| mapPage _ physAddress _ _ => physAddress
| identityMapPage address _ _ => address

def flags : MapRequest → PageFlags
| mapPage _ _ flags _ => flags
| identityMapPage _ flags _ => flags

def forceWrite : MapRequest → Bool
| mapPage _ _ _ forceWrite => forceWrite
| identityMapPage _ _ forceWrite => forceWrite

def issue
    {m : Type → Type}
    [Monad m]
    (controller : PageTableRootController m) :
    MapRequest → m PageMapError
| mapPage virtAddress physAddress flags forceWrite =>
    controller.mapPage virtAddress physAddress flags
      forceWrite
| identityMapPage address flags forceWrite =>
    controller.identityMapPage address flags forceWrite

/- The walk the request starts. -/
def walk
    (request : MapRequest)
    (allocator : Nat → Addr)
    (rootPageTable : Addr) : Walk where
  allocator := allocator
  rootPageTable := rootPageTable
  virtAddress := request.virtAddress

end MapRequest

/- The controller of the boot loader. -/
def bootController
    (allocator : Nat → Addr)
    (rootPageTable : Addr) :
    PageTableRootController (StateM PagingState) where
  rootPageTableAddress := rootPageTable
  pagingDisabledNow := true
  bus := bootBus allocator

def bootStep
    (allocator : Nat → Addr)
    (rootPageTable : Addr)
    (request : MapRequest)
    (s : PagingState) : PageMapError × PagingState :=
  request.issue (bootController allocator rootPageTable) s

abbrev MapStep :=
  Transition.Step PagingState MapRequest PageMapError

def bootRun
    (allocator : Nat → Addr)
    (rootPageTable : Addr)
    (requests : List MapRequest)
    (s : PagingState) : List MapStep :=
  Transition.run (bootStep allocator rootPageTable) requests s

def bootFinal
    (allocator : Nat → Addr)
    (rootPageTable : Addr)
    (requests : List MapRequest)
    (s : PagingState) : PagingState :=
  Transition.final (bootStep allocator rootPageTable)
    requests s

theorem bootRun_nil
    (allocator : Nat → Addr)
    (rootPageTable : Addr)
    (s : PagingState) :
    bootRun allocator rootPageTable [] s = [] :=
  rfl

theorem bootRun_cons
    (allocator : Nat → Addr)
    (rootPageTable : Addr)
    (request : MapRequest)
    (requests : List MapRequest)
    (s : PagingState) :
    bootRun allocator rootPageTable (request :: requests) s =
      { before := s
        input := request
        output :=
          (bootStep allocator rootPageTable request s).1
        after :=
          (bootStep allocator rootPageTable request s).2 } ::
        bootRun allocator rootPageTable requests
          (bootStep allocator rootPageTable request s).2 :=
  rfl

theorem bootFinal_nil
    (allocator : Nat → Addr)
    (rootPageTable : Addr)
    (s : PagingState) :
    bootFinal allocator rootPageTable [] s = s :=
  rfl

theorem bootFinal_cons
    (allocator : Nat → Addr)
    (rootPageTable : Addr)
    (request : MapRequest)
    (requests : List MapRequest)
    (s : PagingState) :
    bootFinal allocator rootPageTable (request :: requests)
        s =
      bootFinal allocator rootPageTable requests
        (bootStep allocator rootPageTable request s).2 :=
  rfl

theorem head_mem_bootRun
    (allocator : Nat → Addr)
    (rootPageTable : Addr)
    (request : MapRequest)
    (requests : List MapRequest)
    (s : PagingState) :
    { before := s
      input := request
      output :=
        (bootStep allocator rootPageTable request s).1
      after :=
        (bootStep allocator rootPageTable request s).2 } ∈
      bootRun allocator rootPageTable (request :: requests)
        s :=
  List.mem_cons_self

/- The translation in a state, which it does not change. -/
def bootTranslate
    (rootPageTable virtAddress : Addr)
    (s : PagingState) : Word :=
  ((bootController (fun _ => 0) rootPageTable).translateVirtToPhys
    virtAddress s).1

theorem bootStep_outcome
    (allocator : Nat → Addr)
    (rootPageTable : Addr)
    (request : MapRequest)
    (s : PagingState) :
    (request.walk allocator rootPageTable).Outcome s
      request.physAddress request.flags request.forceWrite
      (bootStep allocator rootPageTable request s) := by
  cases request with
  | mapPage virtAddress physAddress flags forceWrite =>
      exact Walk.mapPage_outcome _ s _ _ _
  | identityMapPage address flags forceWrite =>
      exact Walk.mapPage_outcome _ s _ _ _

/- A call for a rejected address changes nothing. -/
theorem bootStep_of_rejected
    {allocator : Nat → Addr}
    {rootPageTable : Addr}
    {request : MapRequest}
    {s : PagingState}
    (hSign : signExtensionOk request.virtAddress = false) :
    bootStep allocator rootPageTable request s =
      (.InvalidVirtAddress, s) := by
  cases request with
  | mapPage virtAddress physAddress flags forceWrite =>
      exact mapPage_of_not_signExtensionOk _ _ _ _ _ _ _ hSign
  | identityMapPage address flags forceWrite =>
      exact mapPage_of_not_signExtensionOk _ _ _ _ _ _ _ hSign

/- The allocator takes no part in a translation. -/
theorem translateVirtToPhys_eq_bootTranslate
    (allocator : Nat → Addr)
    (rootPageTable virtAddress : Addr)
    (s : PagingState) :
    (translateVirtToPhys (bootBus allocator) rootPageTable
      virtAddress s).1 =
      bootTranslate rootPageTable virtAddress s := by
  have hRight :
      bootTranslate rootPageTable virtAddress s =
        (translateVirtToPhys (bootBus (fun _ => 0))
          rootPageTable virtAddress s).1 := rfl
  rw [hRight, translateVirtToPhys_boot,
    translateVirtToPhys_boot]

------------------------------------------------------------
-- Where a Run Starts
------------------------------------------------------------

/- The upper bits are copies of bit 47. -/
def Canonical (virtAddress : Addr) : Prop :=
  virtAddress >>> 47 = 0 ∨ virtAddress >>> 47 = 0x1FFFF

instance
    (virtAddress : Addr) :
    Decidable (Canonical virtAddress) := by
  unfold Canonical
  infer_instance

/- None of the four indices is the one of the self-map. -/
structure NoRecursiveIndex (virtAddress : Addr) : Prop where
  hL4 : l4Idx virtAddress ≠ RECURSIVE_INDEX
  hL3 : l3Idx virtAddress ≠ RECURSIVE_INDEX
  hL2 : l2Idx virtAddress ≠ RECURSIVE_INDEX
  hL1 : l1Idx virtAddress ≠ RECURSIVE_INDEX

/- A root table of its own page, without an entry. -/
structure ZeroedRoot
    (rootPageTable : Addr)
    (s : PagingState) : Prop where
  hAligned : Aligned 4096 rootPageTable
  hNonzero : rootPageTable ≠ 0
  hZero :
    ∀ idx,
      idx.toNat < 512 →
        s.word (entryAddress rootPageTable idx) = 0
  hFrames : s.frames = 0
  hTables : s.tables = []

/-
  The frames of an allocator are pages, none of them is the
  root, and none is handed out twice in the given number of
  calls. The allocator may answer 0, which is no frame.
-/
structure FreshFrames
    (allocator : Nat → Addr)
    (rootPageTable : Addr)
    (calls : Nat) : Prop where
  hAligned : ∀ n, Aligned 4096 (allocator n)
  hRoot : ∀ n, allocator n ≠ rootPageTable
  hDistinct :
    ∀ i j,
      i < calls →
        j < calls →
          allocator i ≠ 0 → allocator i = allocator j → i = j

/- An address of a page that has nothing to do with tables. -/
structure VirtualPage (virtAddress : Addr) : Prop where
  hAligned : Aligned 4096 virtAddress
  hCanonical : Canonical virtAddress
  hIndices : NoRecursiveIndex virtAddress

/- A request to map a page of memory to a frame of its own. -/
structure PageRequest (request : MapRequest) : Prop where
  hVirt : VirtualPage request.virtAddress
  hAligned : Aligned 4096 request.physAddress
  hNonzero : request.physAddress ≠ 0
  hWidth : request.physAddress.toNat < 2 ^ 52
  hPresent : request.flags.Has PageFlags.Present
  hSmall : ¬ request.flags.Has PageFlags.IsHugePage

theorem signExtensionOk_of_canonical
    {virtAddress : Addr}
    (hCanonical : Canonical virtAddress) :
    signExtensionOk virtAddress = true := by
  unfold Canonical at hCanonical
  simp only [signExtensionOk, Bool.or_eq_true, beq_iff_eq]
  bv_omega

------------------------------------------------------------
-- The Words of a Page
------------------------------------------------------------

section Pages

variable {rootPageTable frame : Addr}
variable
  (hRoot : Aligned 4096 rootPageTable)
  (hFrame : Aligned 4096 frame)

include hRoot hFrame

/- The entries of the root after a table was created. -/
theorem word_createTable_root
    (hNonzero : rootPageTable ≠ 0)
    (hOther : frame ≠ rootPageTable)
    (s : PagingState)
    (virtAddress : Addr)
    (level : TableLevel)
    {idx i : Word}
    (hIdx : idx.toNat < 512)
    (hI : i.toNat < 512) :
    (s.createTable rootPageTable virtAddress level idx
        frame).word (entryAddress rootPageTable i) =
      if i = idx then tableEntry frame
      else s.word (entryAddress rootPageTable i) := by
  rw [PagingState.word_createTable s virtAddress level idx
    hRoot hFrame
    (aligned_entryAddress (aligned_word_of_page hRoot) i)]
  rw [if_neg (entryAddress_ne_selfMap hRoot hNonzero hI)]
  by_cases hSame : i = idx
  · rw [if_pos (by rw [hSame]), if_pos hSame]
  · have hSlot :
        entryAddress rootPageTable i ≠
          entryAddress rootPageTable idx := by
      intro hEq
      exact hSame (entryAddress_inj hI hIdx hEq)
    have hPage :
        ¬ InRange frame 4096
          (entryAddress rootPageTable i) := by
      intro hIn
      exact
        ne_of_inRange_page hFrame hRoot hOther hIn
          (inRange_entryAddress hRoot hI) rfl
    rw [if_neg hSlot, if_neg hSame, if_neg hPage]

theorem word_createTable_linked
    (hNonzero : rootPageTable ≠ 0)
    (hOther : frame ≠ rootPageTable)
    (s : PagingState)
    (virtAddress : Addr)
    (level : TableLevel)
    {idx : Word}
    (hIdx : idx.toNat < 512) :
    (s.createTable rootPageTable virtAddress level idx
        frame).word (entryAddress rootPageTable idx) =
      tableEntry frame := by
  rw [word_createTable_root hRoot hFrame hNonzero hOther s
    virtAddress level hIdx hIdx, if_pos rfl]

/- The entries of any other table. -/
theorem word_createTable_table
    {table : Addr}
    (hTable : Aligned 4096 table)
    (hNonzero : table ≠ 0)
    (hOther : table ≠ rootPageTable)
    (s : PagingState)
    (virtAddress : Addr)
    (level : TableLevel)
    {idx i : Word}
    (hIdx : idx.toNat < 512)
    (hI : i.toNat < 512) :
    (s.createTable rootPageTable virtAddress level idx
        frame).word (entryAddress table i) =
      if table = frame then 0
      else s.word (entryAddress table i) := by
  have hSlot :
      entryAddress table i ≠ entryAddress rootPageTable idx :=
    ne_of_inRange_page hTable hRoot hOther
      (inRange_entryAddress hTable hI)
      (inRange_entryAddress hRoot hIdx)
  rw [PagingState.word_createTable s virtAddress level idx
    hRoot hFrame
    (aligned_entryAddress (aligned_word_of_page hTable) i)]
  rw [if_neg (entryAddress_ne_selfMap hTable hNonzero hI),
    if_neg hSlot]
  by_cases hSame : table = frame
  · rw [if_pos hSame, if_pos]
    rw [← hSame]
    exact inRange_entryAddress hTable hI
  · rw [if_neg hSame, if_neg]
    intro hIn
    exact
      ne_of_inRange_page hTable hFrame hSame
        (inRange_entryAddress hTable hI) hIn rfl

/- The first words of memory. -/
theorem word_createTable_low
    (hNonzero : rootPageTable ≠ 0)
    (hFrameNonzero : frame ≠ 0)
    (s : PagingState)
    (virtAddress : Addr)
    (level : TableLevel)
    {idx i : Word}
    (hIdx : idx.toNat < 512)
    (hI : i.toNat < 512) :
    (s.createTable rootPageTable virtAddress level idx
        frame).word (lowSlot i) =
      if i = RECURSIVE_INDEX then tableEntry frame
      else s.word (lowSlot i) := by
  have hAligned : Aligned 8 (lowSlot i) :=
    aligned_entryAddress (aligned_zero 8) i
  have hLow : InRange 0 4096 (lowSlot i) :=
    inRange_entryAddress (aligned_zero 4096) hI
  have hSlot :
      lowSlot i ≠ entryAddress rootPageTable idx :=
    ne_of_inRange_page (aligned_zero 4096) hRoot
      hNonzero.symm hLow (inRange_entryAddress hRoot hIdx)
  have hPage : ¬ InRange frame 4096 (lowSlot i) :=
    not_inRange_lowSlot hFrame hFrameNonzero hI
  rw [PagingState.word_createTable s virtAddress level idx
    hRoot hFrame hAligned]
  rw [if_neg hSlot, if_neg hPage]
  by_cases hSame : i = RECURSIVE_INDEX
  · rw [if_pos (by rw [hSame]), if_pos hSame]
  · rw [if_neg, if_neg hSame]
    intro hEq
    exact hSame (entryAddress_inj hI (by decide) hEq)

end Pages

------------------------------------------------------------
-- The Words of the Root
------------------------------------------------------------

/- Every entry of the root has the property. -/
def RootWords
    (rootPageTable : Addr)
    (P : Word → Prop)
    (s : PagingState) : Prop :=
  ∀ idx : Word,
    idx.toNat < 512 →
      P (s.word (entryAddress rootPageTable idx))

/- A leaf slot lies outside the root, or its entry is fine. -/
theorem rootWords_storeLeaf
    {rootPageTable : Addr}
    (hRoot : Aligned 4096 rootPageTable)
    {P : Word → Prop}
    {s : PagingState}
    {slot : Addr}
    {entry : Word}
    (hSlot : Aligned 8 slot)
    (hEntry :
      P entry ∨ ¬ InRange rootPageTable 4096 slot)
    (hWords : RootWords rootPageTable P s) :
    RootWords rootPageTable P (s.storeLeaf slot entry) := by
  intro idx hIdx
  rcases hEntry with hP | hOutside
  · rw [PagingState.word_storeLeaf s entry hSlot
      (aligned_entryAddress (aligned_word_of_page hRoot)
        idx)]
    split_ifs
    · exact hP
    · exact hWords idx hIdx
  · rw [PagingState.word_storeLeaf_of_outside s entry hRoot
      hSlot hOutside hIdx]
    exact hWords idx hIdx

section RootWords

variable {allocator : Nat → Addr} {rootPageTable : Addr}
variable {calls : Nat} {P : Word → Prop}
variable
  (hRoot : Aligned 4096 rootPageTable)
  (hNonzero : rootPageTable ≠ 0)
  (hFresh : FreshFrames allocator rootPageTable calls)
  (hTableEntry :
    ∀ frame, Aligned 4096 frame → P (tableEntry frame))

include hRoot hNonzero hFresh hTableEntry

theorem keeps_rootWords
    (virtAddress : Addr) :
    Walk.Keeps
      { allocator := allocator
        rootPageTable := rootPageTable
        virtAddress := virtAddress }
      (RootWords rootPageTable P) where
  hFail t hP := hP
  hCreate t level idx hP hIdx hAlloc := by
    intro i hI
    rw [word_createTable_root hRoot (hFresh.hAligned _)
      hNonzero (hFresh.hRoot _) t virtAddress level hIdx hI]
    split_ifs with hSame
    · exact hTableEntry _ (hFresh.hAligned _)
    · exact hP i hI

theorem rootWords_bootStep
    {request : MapRequest}
    {s : PagingState}
    (hEntry :
      (request.walk allocator rootPageTable).Stores s
          request.forceWrite →
        P
            (constructTableEntry request.physAddress
              request.flags) ∨
          ¬ InRange rootPageTable 4096
            ((request.walk allocator rootPageTable).slotLeaf
              s))
    (hWords : RootWords rootPageTable P s) :
    RootWords rootPageTable P
      (bootStep allocator rootPageTable request s).2 := by
  refine
    (bootStep_outcome allocator rootPageTable request
      s).preserves
      (keeps_rootWords hRoot hNonzero hFresh hTableEntry _)
      ?_ hWords
  intro hStores t hT
  exact
    rootWords_storeLeaf hRoot (Walk.aligned_slotLeaf _ _)
      (hEntry hStores) hT

end RootWords

theorem ZeroedRoot.rootWords
    {rootPageTable : Addr}
    {P : Word → Prop}
    {s : PagingState}
    (hStart : ZeroedRoot rootPageTable s)
    (hP : P 0) :
    RootWords rootPageTable P s := by
  intro idx hIdx
  rw [hStart.hZero idx hIdx]
  exact hP

------------------------------------------------------------
-- A Root That Decodes to Nothing
------------------------------------------------------------

/- No entry of the root has an address the code can see. -/
abbrev RootClear
    (rootPageTable : Addr)
    (s : PagingState) : Prop :=
  RootWords rootPageTable
    (fun entry => getAddrFromEntry entry = 0) s

/- The root stays so until a leaf is stored into it. -/
theorem rootClear_bootStep
    {allocator : Nat → Addr}
    {rootPageTable : Addr}
    {calls : Nat}
    {request : MapRequest}
    {s : PagingState}
    (hRoot : Aligned 4096 rootPageTable)
    (hNonzero : rootPageTable ≠ 0)
    (hFresh : FreshFrames allocator rootPageTable calls)
    (hLeaf :
      (request.walk allocator rootPageTable).Stores s
          request.forceWrite →
        request.physAddress &&& (40 : Word) = 0 ∨
          ¬ InRange rootPageTable 4096
            ((request.walk allocator rootPageTable).slotLeaf
              s))
    (hClear : RootClear rootPageTable s) :
    RootClear rootPageTable
      (bootStep allocator rootPageTable request s).2 := by
  refine
    rootWords_bootStep hRoot hNonzero hFresh
      (fun frame hFrame => getAddrFromEntry_tableEntry hFrame)
      ?_ hClear
  rw [getAddrFromEntry_constructTableEntry]
  exact hLeaf

theorem bootTranslate_of_rootClear
    {rootPageTable : Addr}
    {s : PagingState}
    (hClear : RootClear rootPageTable s)
    (virtAddress : Addr) :
    bootTranslate rootPageTable virtAddress s = 0 := by
  rw [← translateVirtToPhys_eq_bootTranslate (fun _ => 0),
    translateVirtToPhys_boot]
  dsimp only
  rw [if_pos (hClear _ (l4Idx_lt _))]

/- Nothing keeps a canonical address from being walked. -/
theorem passes_of_rootClear
    {allocator : Nat → Addr}
    {rootPageTable : Addr}
    {request : MapRequest}
    {s : PagingState}
    (hClear : RootClear rootPageTable s)
    (hSign : signExtensionOk request.virtAddress = true) :
    (request.walk allocator rootPageTable).Passes s
      request.forceWrite := by
  refine ⟨hSign, Or.inr ?_⟩
  rw [translateVirtToPhys_eq_bootTranslate]
  exact bootTranslate_of_rootClear hClear _

theorem Walk.BlockOutcome.ne_none
    {w : Walk}
    {s : PagingState}
    {level : TableLevel}
    {slot : Addr}
    {idx : Word}
    {result : Option Word × PagingState}
    (hSucceeds : ∀ n, w.allocator n ≠ 0)
    (hOutcome : w.BlockOutcome s level slot idx result) :
    result.1 ≠ none := by
  cases hOutcome with
  | present hFound => simp
  | failed hFound hAlloc =>
      exact absurd hAlloc (hSucceeds _)
  | created hFound hAlloc => simp

theorem Walk.complete_of_succeeds
    {w : Walk}
    (hSucceeds : ∀ n, w.allocator n ≠ 0)
    (s : PagingState) :
    w.Complete s where
  hL3 := (w.afterL3_outcome s).ne_none hSucceeds
  hL2 := (w.afterL2_outcome s).ne_none hSucceeds
  hL1 := (w.afterL1_outcome s).ne_none hSucceeds

/-
  With every allocation answered the call comes down to its
  last branch.
-/
theorem bootStep_of_rootClear
    {allocator : Nat → Addr}
    {rootPageTable : Addr}
    {request : MapRequest}
    {s : PagingState}
    (hSucceeds : ∀ n, allocator n ≠ 0)
    (hClear : RootClear rootPageTable s)
    (hSign : signExtensionOk request.virtAddress = true) :
    bootStep allocator rootPageTable request s =
      let w := request.walk allocator rootPageTable
      if request.forceWrite = false ∧ w.foundLeaf s ≠ 0 then
        (.EntryExists, (w.afterL1 s).2)
      else
        (.NoError,
          (w.afterL1 s).2.storeLeaf (w.slotLeaf s)
            (constructTableEntry request.physAddress
              request.flags)) := by
  have hPasses :
      (request.walk allocator rootPageTable).Passes s
        request.forceWrite :=
    passes_of_rootClear hClear hSign
  have hComplete :=
    Walk.complete_of_succeeds
      (w := request.walk allocator rootPageTable)
      hSucceeds s
  have hOutcome :=
    bootStep_outcome allocator rootPageTable request s
  rcases hResult :
      bootStep allocator rootPageTable request s with
    ⟨output, after⟩
  rw [hResult] at hOutcome
  cases hOutcome with
  | invalid hInvalid =>
      exact absurd (hSign.symm.trans hInvalid) (by decide)
  | mapped _ hForce hMapped =>
      exact
        absurd
          (hPasses.hMapped.resolve_left (by simp [hForce]))
          hMapped
  | noL3 _ hL3 => exact absurd hL3 hComplete.hL3
  | noL2 _ _ hL2 => exact absurd hL2 hComplete.hL2
  | noL1 _ _ _ hL1 => exact absurd hL1 hComplete.hL1
  | taken _ _ hLeaf hForce =>
      dsimp only
      rw [if_pos ⟨hForce, hLeaf⟩]
  | stored _ _ hLeaf =>
      dsimp only
      rw [if_neg]
      rintro ⟨hForce, hFound⟩
      rcases hLeaf with hZero | hTrue
      · exact hFound hZero
      · simp [hForce] at hTrue

------------------------------------------------------------
-- The Walk Below Such a Root
------------------------------------------------------------

section Below

variable {allocator : Nat → Addr} {rootPageTable : Addr}
variable {calls : Nat} {request : MapRequest}
variable {s : PagingState}
variable (hFresh : FreshFrames allocator rootPageTable calls)

include hFresh

/- A block never makes a table of an address it can see. -/
theorem decoded_of_blockOutcome
    {level : TableLevel}
    {slot : Addr}
    {idx : Word}
    {result : Option Word × PagingState}
    (hOutcome :
      (request.walk allocator rootPageTable).BlockOutcome s
        level slot idx result)
    (hFound : getAddrFromEntry (s.word slot) = 0) :
    getAddrFromEntry (result.1.getD 0) = 0 := by
  cases hOutcome with
  | present _ => exact hFound
  | failed _ _ => exact getAddrFromEntry_zero
  | created _ _ =>
      exact getAddrFromEntry_tableEntry (hFresh.hAligned _)

/- The L3 table is taken to be at address zero. -/
theorem slotL2_of_rootClear
    (hClear : RootClear rootPageTable s) :
    (request.walk allocator rootPageTable).slotL2 s =
      lowSlot (l3Idx request.virtAddress) := by
  have hEntry :
      getAddrFromEntry
          ((request.walk allocator
            rootPageTable).entryForL3 s) =
        0 :=
    decoded_of_blockOutcome hFresh
      (Walk.afterL3_outcome _ s) (hClear _ (l4Idx_lt _))
  unfold Walk.slotL2
  rw [hEntry]
  rfl

theorem slotL1_of_decoded
    (hFound :
      getAddrFromEntry
          ((request.walk allocator rootPageTable).foundL2
            s) =
        0) :
    (request.walk allocator rootPageTable).slotL1 s =
      lowSlot (l2Idx request.virtAddress) := by
  have hEntry :
      getAddrFromEntry
          ((request.walk allocator
            rootPageTable).entryForL2 s) =
        0 :=
    decoded_of_blockOutcome hFresh
      (Walk.afterL2_outcome _ s) hFound
  unfold Walk.slotL1
  rw [hEntry]
  rfl

theorem slotLeaf_of_decoded
    (hFound :
      getAddrFromEntry
          ((request.walk allocator rootPageTable).foundL1
            s) =
        0) :
    (request.walk allocator rootPageTable).slotLeaf s =
      lowSlot (l1Idx request.virtAddress) := by
  have hEntry :
      getAddrFromEntry
          ((request.walk allocator
            rootPageTable).entryForL1 s) =
        0 :=
    decoded_of_blockOutcome hFresh
      (Walk.afterL1_outcome _ s) hFound
  unfold Walk.slotLeaf
  rw [hEntry]
  rfl

variable
  (hRoot : Aligned 4096 rootPageTable)
  (hNonzero : rootPageTable ≠ 0)

include hRoot hNonzero

/- Tables are created above the first words, but for one. -/
theorem word_low_of_blockOutcome
    {level : TableLevel}
    {slot : Addr}
    {idx i : Word}
    {result : Option Word × PagingState}
    (hOutcome :
      (request.walk allocator rootPageTable).BlockOutcome s
        level slot idx result)
    (hIdx : idx.toNat < 512)
    (hI : i.toNat < 512)
    (hOther : i ≠ RECURSIVE_INDEX) :
    result.2.word (lowSlot i) = s.word (lowSlot i) := by
  cases hOutcome with
  | present _ => rfl
  | failed _ _ => rfl
  | created _ hAlloc =>
      exact
        (word_createTable_low hRoot (hFresh.hAligned _)
          hNonzero hAlloc s _ level hIdx hI).trans
          (if_neg hOther)

/- What a walk finds, in terms of the state before it. -/
theorem foundL2_of_rootClear
    (hClear : RootClear rootPageTable s)
    (hL3 : l3Idx request.virtAddress ≠ RECURSIVE_INDEX) :
    (request.walk allocator rootPageTable).foundL2 s =
      s.word (lowSlot (l3Idx request.virtAddress)) := by
  unfold Walk.foundL2
  rw [slotL2_of_rootClear hFresh hClear]
  exact
    word_low_of_blockOutcome hFresh hRoot hNonzero
      (Walk.afterL3_outcome _ s) (l4Idx_lt _) (l3Idx_lt _)
      hL3

theorem foundL1_of_decoded
    (hFound :
      getAddrFromEntry
          ((request.walk allocator rootPageTable).foundL2
            s) =
        0)
    (hL2 : l2Idx request.virtAddress ≠ RECURSIVE_INDEX) :
    (request.walk allocator rootPageTable).foundL1 s =
      s.word (lowSlot (l2Idx request.virtAddress)) := by
  unfold Walk.foundL1
  rw [slotL1_of_decoded hFresh hFound]
  exact
    (word_low_of_blockOutcome hFresh hRoot hNonzero
      (Walk.afterL2_outcome _ s) (l3Idx_lt _) (l2Idx_lt _)
      hL2).trans
      (word_low_of_blockOutcome hFresh hRoot hNonzero
        (Walk.afterL3_outcome _ s) (l4Idx_lt _) (l2Idx_lt _)
        hL2)

/- A new L2 table is linked from the root, at its index. -/
theorem root_linked_of_createsL2
    (hCreates :
      (request.walk allocator rootPageTable).CreatesL2 s) :
    ((request.walk allocator rootPageTable).afterL1
        s).2.word
        (entryAddress rootPageTable
          (l3Idx request.virtAddress)) ≠
      0 := by
  let t :=
    ((request.walk allocator rootPageTable).afterL3 s).2
  have hLinked :
      (t.createTable rootPageTable request.virtAddress .L2
            (l3Idx request.virtAddress)
            (allocator t.frames)).word
          (entryAddress rootPageTable
            (l3Idx request.virtAddress)) ≠
        0 := by
    rw [word_createTable_linked hRoot (hFresh.hAligned _)
      hNonzero (hFresh.hRoot _) t _ .L2 (l3Idx_lt _)]
    exact tableEntry_ne_zero _
  have hL2 :
      ((request.walk allocator rootPageTable).afterL2
          s).2.word
          (entryAddress rootPageTable
            (l3Idx request.virtAddress)) ≠
        0 := by
    have hOutcome :=
      (request.walk allocator rootPageTable).afterL2_outcome
        s
    generalize
      (request.walk allocator rootPageTable).afterL2 s =
        result at hOutcome ⊢
    cases hOutcome with
    | present hPresent =>
        exact absurd hCreates.hFound hPresent
    | failed _ hAlloc => exact absurd hAlloc hCreates.hAlloc
    | created _ _ => exact hLinked
  have hOutcome :=
    (request.walk allocator rootPageTable).afterL1_outcome s
  generalize
    (request.walk allocator rootPageTable).afterL1 s =
      result at hOutcome ⊢
  cases hOutcome with
  | present _ => exact hL2
  | failed _ _ => exact hL2
  | created _ _ =>
      refine ne_of_eq_of_ne
        (word_createTable_root hRoot (hFresh.hAligned _)
          hNonzero (hFresh.hRoot _) _ _ .L1 (l2Idx_lt _)
          (l3Idx_lt _)) ?_
      split_ifs
      · exact tableEntry_ne_zero _
      · exact hL2

end Below

------------------------------------------------------------
-- The Frames of a Run
------------------------------------------------------------

theorem frames_le_bootFinal
    (allocator : Nat → Addr)
    (rootPageTable : Addr)
    (requests : List MapRequest)
    (s : PagingState) :
    s.frames ≤
        (bootFinal allocator rootPageTable requests
          s).frames ∧
      (bootFinal allocator rootPageTable requests s).frames ≤
        s.frames + 3 * requests.length := by
  induction requests generalizing s with
  | nil => exact ⟨le_rfl, le_rfl⟩
  | cons request requests ih =>
      have hFirst :=
        (bootStep_outcome allocator rootPageTable request
          s).frames
      have hLater :=
        ih (bootStep allocator rootPageTable request s).2
      simp only [bootFinal, Transition.final,
        List.length_cons] at hLater ⊢
      omega

theorem frames_le_of_reached
    {allocator : Nat → Addr}
    {rootPageTable : Addr}
    {requests : List MapRequest}
    {s t : PagingState}
    (hReached :
      Transition.Reached (bootStep allocator rootPageTable)
        requests s t) :
    t.frames ≤
      (bootFinal allocator rootPageTable requests
        s).frames :=
  Transition.measure_le_final PagingState.frames
    (fun request u =>
      (bootStep_outcome allocator rootPageTable request
        u).frames.1)
    hReached

------------------------------------------------------------
-- A Concrete Boot
------------------------------------------------------------

def sampleRoot : Addr := 0x100000

/- Three frames in turn. -/
def sampleAllocator (n : Nat) : Addr :=
  0x200000 + 4096 * BitVec.ofNat 64 (n % 3)

/- The page with the indices 2, 3, 4 and 5. -/
def samplePage : Addr :=
  2 <<< 39 ||| 3 <<< 30 ||| 4 <<< 21 ||| 5 <<< 12

/- A writable page, mapped with the default `forceWrite`. -/
def sampleRequest : MapRequest :=
  .mapPage samplePage 0x300000
    (PageFlags.Present ||| PageFlags.WriteBit) true

/- Two low pages of one byte, and zeros everywhere else. -/
def sampleStart (low : Byte) : PagingState where
  machine :=
    { mem := fun a => if a < 0x2000 then low else 0
      stores := [] }
  frames := 0
  tables := []

theorem sample_zeroedRoot
    (low : Byte) :
    ZeroedRoot sampleRoot (sampleStart low) where
  hAligned := by decide
  hNonzero := by decide
  hZero idx hIdx := by
    apply Memory.load_eq_of_bytes (n := 8)
    intro i hi
    have hHigh :
        ¬ entryAddress sampleRoot idx + BitVec.ofNat 64 i <
          0x2000 := by
      unfold entryAddress sampleRoot
      bv_omega
    have hByte :
        (sampleStart low).machine.mem
            (entryAddress sampleRoot idx +
              BitVec.ofNat 64 i) =
          0 :=
      if_neg hHigh
    rw [hByte]
    simp
  hFrames := rfl
  hTables := rfl

theorem sample_rootClear :
    RootClear sampleRoot (sampleStart 0) :=
  (sample_zeroedRoot 0).rootWords getAddrFromEntry_zero

theorem sample_virtualPage : VirtualPage samplePage where
  hAligned := by decide
  hCanonical := by decide
  hIndices := ⟨by decide, by decide, by decide, by decide⟩

theorem sample_pageRequest : PageRequest sampleRequest where
  hVirt := sample_virtualPage
  hAligned := by decide
  hNonzero := by decide
  hWidth := by decide
  hPresent := by decide
  hSmall := by decide

theorem sampleAllocator_toNat
    (n : Nat) :
    (sampleAllocator n).toNat = 0x200000 + 4096 * (n % 3) := by
  have hLt : n % 3 < 3 := Nat.mod_lt n (by norm_num)
  unfold sampleAllocator
  bv_omega

theorem sample_succeeds
    (n : Nat) :
    sampleAllocator n ≠ 0 := by
  intro hZero
  have hNat := congrArg BitVec.toNat hZero
  rw [sampleAllocator_toNat] at hNat
  simp at hNat

theorem sample_freshFrames
    {calls : Nat}
    (hCalls : calls ≤ 3) :
    FreshFrames sampleAllocator sampleRoot calls where
  hAligned n := by
    unfold Aligned
    rw [sampleAllocator_toNat]
    omega
  hRoot n hEq := by
    have hNat := congrArg BitVec.toNat hEq
    rw [sampleAllocator_toNat] at hNat
    simp [sampleRoot] at hNat
    omega
  hDistinct i j hI hJ _ hEq := by
    have hNat := congrArg BitVec.toNat hEq
    rw [sampleAllocator_toNat, sampleAllocator_toNat] at hNat
    omega

/- The sample call finds neither an L2 nor an L1 table. -/
theorem sample_noTables
    {allocator : Nat → Addr}
    {calls : Nat}
    (hFresh : FreshFrames allocator sampleRoot calls) :
    (sampleRequest.walk allocator sampleRoot).foundL2
          (sampleStart 0) =
        0 ∧
      (sampleRequest.walk allocator sampleRoot).foundL1
          (sampleStart 0) =
        0 := by
  have hStart := sample_zeroedRoot 0
  have hFoundL2 :
      (sampleRequest.walk allocator sampleRoot).foundL2
          (sampleStart 0) =
        0 :=
    (foundL2_of_rootClear hFresh hStart.hAligned
      hStart.hNonzero sample_rootClear (by decide)).trans
      (by decide)
  refine ⟨hFoundL2, ?_⟩
  exact
    (foundL1_of_decoded hFresh hStart.hAligned
      hStart.hNonzero (by rw [hFoundL2]; decide)
      (by decide)).trans
      (by decide)

end Paginator

end Chihuahua
