import Chihuahua.Bootloader.Firmware

/-
  `getMemoryMap` of the boot loader: the memory map is asked
  for with one page of memory, and if that is too small once
  more with as many pages as were wanted.

  The answers of the firmware are arbitrary and may depend
  on all calls that were made before.

  Main declarations:
    * `MapEvent`, `BootServices` and `getMemoryMap`
    * `MapOutcome` and `getMemoryMap_outcome`
    * `KeepsNothing` and `keepsNothing_iff`
    * `ServesMap`, `RetrySucceeds` and `retrySucceeds_iff`
-/

------------------------------------------------------------
-- Boot Services
------------------------------------------------------------

namespace Chihuahua

namespace Main

open ByteMachine KernelReader Resources

def PAGE_SIZE : BitVec 64 := 4096

structure MemoryMap_t where
  mem_map_size : BitVec 64
  entries : Addr
  mem_map_key : BitVec 64
  entry_size : BitVec 64
  entry_version : BitVec 32
deriving DecidableEq, Repr

def INVALID_MEMORY_MAP : MemoryMap_t where
  mem_map_size := 0
  entries := 0
  mem_map_key := 0
  entry_size := 0
  entry_version := 0

/- The calls of boot services, with their answers. -/
inductive MapEvent where
| allocatePages
    (pages : BitVec 64)
    (status : EfiStatus)
    (address : Addr)
| freePages
    (address : Addr)
    (pages : BitVec 64)
    (status : EfiStatus)
| getMemoryMap
    (mapSize : BitVec 64)
    (buffer : Addr)
    (status : EfiStatus)
deriving DecidableEq, Repr

/- The calls so far, the latest first. -/
abbrev MapHistory := List MapEvent

/- A status, and what is in the outputs after the call. -/
structure MapAnswer where
  status : EfiStatus
  mapSize : BitVec 64
  mapKey : BitVec 64
  descriptorSize : BitVec 64
  descriptorVersion : BitVec 32

structure BootServices where
  allocatePages : MapHistory → BitVec 64 → AddressAnswer
  freePages : MapHistory → Addr → BitVec 64 → EfiStatus
  getMemoryMap : MapHistory → BitVec 64 → Addr → MapAnswer

/- The calls so far, and the caller's `*isSuccessful`. -/
structure MapState where
  history : MapHistory
  isSuccessful : Bool

namespace MapState

variable (s : MapState)

def record (event : MapEvent) : MapState :=
  { s with history := event :: s.history }

def setSuccessful (isSuccessful : Bool) : MapState :=
  { s with isSuccessful := isSuccessful }

def allocatePages
    (bs : BootServices)
    (pages : BitVec 64) : AddressAnswer × MapState :=
  let answer := bs.allocatePages s.history pages
  (answer,
    s.record
      (.allocatePages pages answer.status answer.address))

def freePages
    (bs : BootServices)
    (address : Addr)
    (pages : BitVec 64) : EfiStatus × MapState :=
  let status := bs.freePages s.history address pages
  (status, s.record (.freePages address pages status))

def getMemoryMap
    (bs : BootServices)
    (mapSize : BitVec 64)
    (buffer : Addr) : MapAnswer × MapState :=
  let answer := bs.getMemoryMap s.history mapSize buffer
  (answer,
    s.record (.getMemoryMap mapSize buffer answer.status))

end MapState

------------------------------------------------------------
-- The Function
------------------------------------------------------------

/- The map of either call, and the pages it is in. -/
def foundMap
    (map : MapAnswer)
    (memMapPtr : Addr) : MemoryMap_t where
  mem_map_size := map.mapSize
  entries := memMapPtr
  mem_map_key := map.mapKey
  entry_size := map.descriptorSize
  entry_version := map.descriptorVersion

/- The number of pages that hold a map of this size. -/
def pagesFor (mapSize : BitVec 64) : BitVec 64 :=
  (mapSize + PAGE_SIZE - 1) / PAGE_SIZE

/- The second try, after the first one reported a size. -/
def retryMemoryMap
    (bs : BootServices)
    (mapSize : BitVec 64)
    (s : MapState) : MemoryMap_t × MapState :=
  let (pages, s) := s.allocatePages bs (pagesFor mapSize)
  if EFI_ERROR pages.status then (INVALID_MEMORY_MAP, s)
  else
    -- the size is still the one that was reported
    let (map, s) := s.getMemoryMap bs mapSize pages.address
    if EFI_ERROR map.status then (INVALID_MEMORY_MAP, s)
    else
      (foundMap map pages.address, s.setSuccessful true)

def getMemoryMap
    (systemTable : Option BootServices)
    (s : MapState) : MemoryMap_t × MapState :=
  let s := s.setSuccessful false
  match systemTable with
  | none => (INVALID_MEMORY_MAP, s)
  | some bs =>
      let (pages, s) := s.allocatePages bs 1
      if EFI_ERROR pages.status ∨ pages.address = 0 then
        (INVALID_MEMORY_MAP, s)
      else
        let (map, s) :=
          s.getMemoryMap bs PAGE_SIZE pages.address
        if ¬ EFI_ERROR map.status then
          (foundMap map pages.address, s.setSuccessful true)
        else if map.status ≠ EFI_BUFFER_TOO_SMALL then
          (INVALID_MEMORY_MAP, s)
        else
          let (status, s) := s.freePages bs pages.address 1
          if EFI_ERROR status then (INVALID_MEMORY_MAP, s)
          else retryMemoryMap bs map.mapSize s

/- A call, with no calls of boot services before it. -/
def mapRun
    (systemTable : Option BootServices)
    (isSuccessful : Bool) : MemoryMap_t × MapState :=
  getMemoryMap systemTable
    { history := []
      isSuccessful := isSuccessful }

------------------------------------------------------------
-- The Calls of a Run
------------------------------------------------------------

section Calls

variable (bs : BootServices)

def firstPages : AddressAnswer :=
  bs.allocatePages [] 1

def firstHistory : MapHistory :=
  [.allocatePages 1 (firstPages bs).status
    (firstPages bs).address]

def firstMap : MapAnswer :=
  bs.getMemoryMap (firstHistory bs) PAGE_SIZE
    (firstPages bs).address

def askedHistory : MapHistory :=
  .getMemoryMap PAGE_SIZE (firstPages bs).address
      (firstMap bs).status ::
    firstHistory bs

def freeStatus : EfiStatus :=
  bs.freePages (askedHistory bs) (firstPages bs).address 1

def freedHistory : MapHistory :=
  .freePages (firstPages bs).address 1 (freeStatus bs) ::
    askedHistory bs

def retryPages : AddressAnswer :=
  bs.allocatePages (freedHistory bs)
    (pagesFor (firstMap bs).mapSize)

def retryHistory : MapHistory :=
  .allocatePages (pagesFor (firstMap bs).mapSize)
      (retryPages bs).status (retryPages bs).address ::
    freedHistory bs

def retryMap : MapAnswer :=
  bs.getMemoryMap (retryHistory bs) (firstMap bs).mapSize
    (retryPages bs).address

def retriedHistory : MapHistory :=
  .getMemoryMap (firstMap bs).mapSize
      (retryPages bs).address (retryMap bs).status ::
    retryHistory bs

end Calls

/- A return without a map. -/
def failedAt
    (history : MapHistory) : MemoryMap_t × MapState :=
  (INVALID_MEMORY_MAP,
    { history := history
      isSuccessful := false })

/- A return with a map. -/
def foundAt
    (map : MapAnswer)
    (memMapPtr : Addr)
    (history : MapHistory) : MemoryMap_t × MapState :=
  (foundMap map memMapPtr,
    { history := history
      isSuccessful := true })

/- The first page was allocated and has an address. -/
structure HasPage (bs : BootServices) : Prop where
  hPages : EFI_ERROR (firstPages bs).status = false
  hAddress : (firstPages bs).address ≠ 0

/- The page was too small, and has been freed. -/
structure Retries (bs : BootServices) : Prop where
  hPage : HasPage bs
  hTooSmall : (firstMap bs).status = EFI_BUFFER_TOO_SMALL
  hFreed : EFI_ERROR (freeStatus bs) = false

/- The returns of `getMemoryMap`, in the order of the code. -/
inductive MapOutcome
    (bs : BootServices) :
    MemoryMap_t × MapState → Prop
| noPages
    (hNone : ¬ HasPage bs) :
    MapOutcome bs (failedAt (firstHistory bs))
| found
    (hPage : HasPage bs)
    (hMap : EFI_ERROR (firstMap bs).status = false) :
    MapOutcome bs
      (foundAt (firstMap bs) (firstPages bs).address
        (askedHistory bs))
| refused
    (hPage : HasPage bs)
    (hMap : EFI_ERROR (firstMap bs).status = true)
    (hOther :
      (firstMap bs).status ≠ EFI_BUFFER_TOO_SMALL) :
    MapOutcome bs (failedAt (askedHistory bs))
| notFreed
    (hPage : HasPage bs)
    (hTooSmall :
      (firstMap bs).status = EFI_BUFFER_TOO_SMALL)
    (hFree : EFI_ERROR (freeStatus bs) = true) :
    MapOutcome bs (failedAt (freedHistory bs))
| noRetryPages
    (hRetries : Retries bs)
    (hPages : EFI_ERROR (retryPages bs).status = true) :
    MapOutcome bs (failedAt (retryHistory bs))
| retryRefused
    (hRetries : Retries bs)
    (hPages : EFI_ERROR (retryPages bs).status = false)
    (hMap : EFI_ERROR (retryMap bs).status = true) :
    MapOutcome bs (failedAt (retriedHistory bs))
| retryFound
    (hRetries : Retries bs)
    (hPages : EFI_ERROR (retryPages bs).status = false)
    (hMap : EFI_ERROR (retryMap bs).status = false) :
    MapOutcome bs
      (foundAt (retryMap bs) (retryPages bs).address
        (retriedHistory bs))

theorem retryMemoryMap_eq
    (bs : BootServices) :
    retryMemoryMap bs (firstMap bs).mapSize
        { history := freedHistory bs
          isSuccessful := false } =
      if EFI_ERROR (retryPages bs).status then
        failedAt (retryHistory bs)
      else if EFI_ERROR (retryMap bs).status then
        failedAt (retriedHistory bs)
      else
        foundAt (retryMap bs) (retryPages bs).address
          (retriedHistory bs) := rfl

theorem mapRun_eq
    (bs : BootServices)
    (isSuccessful : Bool) :
    mapRun (some bs) isSuccessful =
      if EFI_ERROR (firstPages bs).status ∨
          (firstPages bs).address = 0 then
        failedAt (firstHistory bs)
      else if ¬ EFI_ERROR (firstMap bs).status then
        foundAt (firstMap bs) (firstPages bs).address
          (askedHistory bs)
      else if
          (firstMap bs).status ≠ EFI_BUFFER_TOO_SMALL then
        failedAt (askedHistory bs)
      else if EFI_ERROR (freeStatus bs) then
        failedAt (freedHistory bs)
      else
        retryMemoryMap bs (firstMap bs).mapSize
          { history := freedHistory bs
            isSuccessful := false } := rfl

theorem hasPage_iff
    (bs : BootServices) :
    HasPage bs ↔
      ¬ (EFI_ERROR (firstPages bs).status ∨
        (firstPages bs).address = 0) := by
  rw [not_or, Bool.not_eq_true]
  exact
    ⟨fun hPage => ⟨hPage.hPages, hPage.hAddress⟩,
      fun hBoth => ⟨hBoth.1, hBoth.2⟩⟩

theorem retryMemoryMap_outcome
    {bs : BootServices}
    (hRetries : Retries bs) :
    MapOutcome bs
      (retryMemoryMap bs (firstMap bs).mapSize
        { history := freedHistory bs
          isSuccessful := false }) := by
  rw [retryMemoryMap_eq]
  split_ifs with hPages hMap
  · exact .noRetryPages hRetries hPages
  · exact
      .retryRefused hRetries
        (Bool.eq_false_of_not_eq_true hPages) hMap
  · exact
      .retryFound hRetries
        (Bool.eq_false_of_not_eq_true hPages)
        (Bool.eq_false_of_not_eq_true hMap)

theorem getMemoryMap_outcome
    (bs : BootServices)
    (isSuccessful : Bool) :
    MapOutcome bs (mapRun (some bs) isSuccessful) := by
  rw [mapRun_eq]
  by_cases hPage : HasPage bs
  · rw [if_neg ((hasPage_iff bs).mp hPage)]
    split_ifs with hMap hOther hFree
    · exact .refused hPage hMap hOther
    · exact .notFreed hPage (not_not.mp hOther) hFree
    · exact
        retryMemoryMap_outcome
          ⟨hPage, not_not.mp hOther,
            Bool.eq_false_of_not_eq_true hFree⟩
    · exact .found hPage (Bool.eq_false_of_not_eq_true hMap)
  · rw [if_pos (not_not.mp (mt (hasPage_iff bs).mpr hPage))]
    exact .noPages hPage

------------------------------------------------------------
-- Page Ranges
------------------------------------------------------------

/- What a call does with ranges of pages, the latest first. -/
def mapAction : MapEvent → List (Action Addr)
| .allocatePages pages status address =>
    if EFI_ERROR status then []
    else [.acquire address pages.toNat]
| .freePages address pages status =>
    if EFI_ERROR status then [.access address pages.toNat]
    else [.release address, .access address pages.toNat]
| .getMemoryMap _ buffer _ => [.access buffer 0]

/- The ranges that are allocated, none after a misuse. -/
def mapHeld (history : MapHistory) : Option (Held Addr) :=
  held (history.flatMap mapAction)

/- The call is not a `FreePages` that failed. -/
def FreeSucceeds : MapEvent → Prop
| .freePages _ _ status => EFI_ERROR status = false
| _ => True

/-
  Nothing was freed or used that was not allocated, and
  without a map everything has been freed, unless that is
  what failed.
-/
structure KeepsNothing (s : MapState) : Prop where
  hFreed :
    s.isSuccessful = false →
      (∀ event ∈ s.history, FreeSucceeds event) →
      mapHeld s.history = some []
  hSound : mapHeld s.history ≠ none

section Held

variable {bs : BootServices}

theorem mapHeld_firstHistory
    (hPages : EFI_ERROR (firstPages bs).status = false) :
    mapHeld (firstHistory bs) =
      some [((firstPages bs).address, 1)] := by
  simp only [mapHeld, firstHistory, List.flatMap_cons,
    mapAction, hPages, Bool.false_eq_true, if_false]
  exact held_acquire held_nil _ _

theorem mapHeld_firstHistory_of_error
    (hPages : EFI_ERROR (firstPages bs).status = true) :
    mapHeld (firstHistory bs) = some [] := by
  simp only [mapHeld, firstHistory, List.flatMap_cons,
    mapAction, hPages, if_true]
  exact held_nil

theorem mapHeld_askedHistory
    (hPage : HasPage bs) :
    mapHeld (askedHistory bs) =
      some [((firstPages bs).address, 1)] :=
  held_access (mapHeld_firstHistory hPage.hPages)
    (Nat.zero_le 1)

theorem mapHeld_freedHistory
    (hPage : HasPage bs) :
    mapHeld (freedHistory bs) =
      if EFI_ERROR (freeStatus bs) then
        some [((firstPages bs).address, 1)]
      else some [] := by
  have hHeld :
      held
          (.access (firstPages bs).address 1 ::
            (askedHistory bs).flatMap mapAction) =
        some [((firstPages bs).address, 1)] :=
    held_access (mapHeld_askedHistory hPage) le_rfl
  simp only [mapHeld, freedHistory, List.flatMap_cons,
    mapAction]
  split_ifs with hFree
  · exact hHeld
  · exact held_release hHeld

theorem mapHeld_retryHistory
    (hRetries : Retries bs) :
    mapHeld (retryHistory bs) =
      if EFI_ERROR (retryPages bs).status then some []
      else
        some
          [((retryPages bs).address,
            (pagesFor (firstMap bs).mapSize).toNat)] := by
  have hFreed := mapHeld_freedHistory hRetries.hPage
  rw [if_neg (Bool.eq_false_iff.mp hRetries.hFreed)] at hFreed
  simp only [mapHeld, retryHistory, List.flatMap_cons,
    mapAction]
  split_ifs with hPages
  · exact hFreed
  · exact held_acquire hFreed _ _

theorem mapHeld_retriedHistory
    (hRetries : Retries bs)
    (hPages : EFI_ERROR (retryPages bs).status = false) :
    mapHeld (retriedHistory bs) =
      some
        [((retryPages bs).address,
          (pagesFor (firstMap bs).mapSize).toNat)] := by
  have hHeld := mapHeld_retryHistory hRetries
  rw [if_neg (Bool.eq_false_iff.mp hPages)] at hHeld
  exact held_access hHeld (Nat.zero_le _)

end Held

/-
  The answers after which the function gives up without
  freeing the pages it has: an address of 0, another error
  than a buffer that is too small, and any error on the
  second try.
-/
def LeavesPages (bs : BootServices) : Prop :=
  EFI_ERROR (firstPages bs).status = false ∧
    ((firstPages bs).address = 0 ∨
      EFI_ERROR (firstMap bs).status = true ∧
        (firstMap bs).status ≠ EFI_BUFFER_TOO_SMALL ∨
      (firstMap bs).status = EFI_BUFFER_TOO_SMALL ∧
        EFI_ERROR (freeStatus bs) = false ∧
        EFI_ERROR (retryPages bs).status = false ∧
        EFI_ERROR (retryMap bs).status = true)

theorem efi_error_success :
    EFI_ERROR EFI_SUCCESS = false := rfl

theorem efi_error_bufferTooSmall :
    EFI_ERROR EFI_BUFFER_TOO_SMALL = true := rfl

theorem leavesPages_iff_of_page
    {bs : BootServices}
    (hPage : HasPage bs) :
    LeavesPages bs ↔
      EFI_ERROR (firstMap bs).status = true ∧
          (firstMap bs).status ≠ EFI_BUFFER_TOO_SMALL ∨
        (firstMap bs).status = EFI_BUFFER_TOO_SMALL ∧
          EFI_ERROR (freeStatus bs) = false ∧
          EFI_ERROR (retryPages bs).status = false ∧
          EFI_ERROR (retryMap bs).status = true := by
  unfold LeavesPages
  constructor
  · rintro ⟨_, hZero | hLater⟩
    · exact absurd hZero hPage.hAddress
    · exact hLater
  · intro hLater
    exact ⟨hPage.hPages, .inr hLater⟩

theorem leavesPages_iff_of_retries
    {bs : BootServices}
    (hRetries : Retries bs) :
    LeavesPages bs ↔
      EFI_ERROR (retryPages bs).status = false ∧
        EFI_ERROR (retryMap bs).status = true := by
  rw [leavesPages_iff_of_page hRetries.hPage]
  simp [hRetries.hTooSmall, hRetries.hFreed]

/- Pages that are still there, though nothing failed. -/
theorem not_keepsNothing
    {history : MapHistory}
    {address : Addr}
    {size : Nat}
    (hFree : ∀ event ∈ history, FreeSucceeds event)
    (hHeld : mapHeld history = some [(address, size)]) :
    ¬ KeepsNothing (failedAt history).2 := by
  intro hKeeps
  have hNone := hKeeps.hFreed rfl hFree
  rw [show (failedAt history).2.history = history from rfl,
    hHeld] at hNone
  cases hNone

/- Where nothing is held, nothing is kept. -/
theorem keepsNothing_of_settled
    {s : MapState}
    (hHeld : mapHeld s.history = some []) :
    KeepsNothing s where
  hFreed _ _ := hHeld
  hSound := by
    rw [hHeld]
    nofun

theorem keepsNothing_of_found
    {s : MapState}
    (hFound : s.isSuccessful = true)
    {now : Held Addr}
    (hHeld : mapHeld s.history = some now) :
    KeepsNothing s where
  hFreed hFailed :=
    absurd (hFound.symm.trans hFailed) Bool.false_ne_true.symm
  hSound := by
    rw [hHeld]
    nofun

theorem keepsNothing_iff_of_some
    (bs : BootServices)
    (isSuccessful : Bool) :
    KeepsNothing (mapRun (some bs) isSuccessful).2 ↔
      ¬ LeavesPages bs := by
  have hOutcome := getMemoryMap_outcome bs isSuccessful
  generalize mapRun (some bs) isSuccessful = result at hOutcome ⊢
  cases hOutcome with
  | noPages hNone =>
      cases hPages : EFI_ERROR (firstPages bs).status with
      | true =>
          refine iff_of_true ?_ (fun hLeaves => ?_)
          · exact
              keepsNothing_of_settled
                (mapHeld_firstHistory_of_error hPages)
          · exact
              Bool.false_ne_true
                (hLeaves.1.symm.trans hPages)
      | false =>
          have hZero : (firstPages bs).address = 0 := by
            by_contra hAddress
            exact hNone ⟨hPages, hAddress⟩
          refine
            iff_of_false ?_ (not_not.mpr ⟨hPages, .inl hZero⟩)
          refine
            not_keepsNothing ?_ (mapHeld_firstHistory hPages)
          simp [firstHistory, FreeSucceeds]
  | found hPage hMap =>
      rw [leavesPages_iff_of_page hPage]
      refine iff_of_true ?_ ?_
      · exact
          keepsNothing_of_found rfl
            (mapHeld_askedHistory hPage)
      · rintro (⟨hError, _⟩ | ⟨hTooSmall, _⟩)
        · exact Bool.false_ne_true (hMap.symm.trans hError)
        · rw [hTooSmall, efi_error_bufferTooSmall] at hMap
          cases hMap
  | refused hPage hMap hOther =>
      rw [leavesPages_iff_of_page hPage]
      refine
        iff_of_false ?_ (not_not.mpr (.inl ⟨hMap, hOther⟩))
      refine not_keepsNothing ?_ (mapHeld_askedHistory hPage)
      simp [askedHistory, firstHistory, FreeSucceeds]
  | notFreed hPage hTooSmall hFree =>
      have hHeld := mapHeld_freedHistory hPage
      rw [if_pos hFree] at hHeld
      rw [leavesPages_iff_of_page hPage]
      refine iff_of_true ⟨?_, ?_⟩ (by simp [hTooSmall, hFree])
      · intro _ hAll
        have hFreed : EFI_ERROR (freeStatus bs) = false :=
          hAll _ List.mem_cons_self
        exact
          absurd (hFreed.symm.trans hFree) Bool.false_ne_true
      · exact fun hNone => by cases hHeld.symm.trans hNone
  | noRetryPages hRetries hPages =>
      have hHeld := mapHeld_retryHistory hRetries
      rw [if_pos hPages] at hHeld
      rw [leavesPages_iff_of_retries hRetries]
      exact
        iff_of_true (keepsNothing_of_settled hHeld)
          (by simp [hPages])
  | retryRefused hRetries hPages hMap =>
      rw [leavesPages_iff_of_retries hRetries]
      refine iff_of_false ?_ (not_not.mpr ⟨hPages, hMap⟩)
      refine
        not_keepsNothing ?_
          (mapHeld_retriedHistory hRetries hPages)
      simp [retriedHistory, retryHistory, freedHistory,
        askedHistory, firstHistory, FreeSucceeds,
        hRetries.hFreed]
  | retryFound hRetries hPages hMap =>
      rw [leavesPages_iff_of_retries hRetries]
      refine iff_of_true ?_ (by simp [hMap])
      exact
        keepsNothing_of_found rfl
          (mapHeld_retriedHistory hRetries hPages)

/-
  Pages are kept without a map exactly after the answers
  above; nothing is ever freed twice, or used after that.
-/
theorem keepsNothing_iff
    (systemTable : Option BootServices)
    (isSuccessful : Bool) :
    KeepsNothing (mapRun systemTable isSuccessful).2 ↔
      ∀ bs, systemTable = some bs → ¬ LeavesPages bs := by
  cases systemTable with
  | none =>
      refine iff_of_true ?_ (fun bs hSome => by cases hSome)
      exact keepsNothing_of_settled held_nil
  | some bs =>
      rw [keepsNothing_iff_of_some]
      constructor
      · intro hKeeps bs' hSome
        cases hSome
        exact hKeeps
      · exact fun hKeeps => hKeeps bs rfl

/- Boot services that have pages, and no map. -/
def maplessServices : BootServices where
  allocatePages _ _ := ⟨EFI_SUCCESS, 0x1000⟩
  freePages _ _ _ := EFI_SUCCESS
  getMemoryMap _ mapSize _ := ⟨EFIERR 2, mapSize, 0, 0, 0⟩

/- The first page is kept when the map is refused. -/
theorem keepsNothing_fails :
    (mapRun (some maplessServices) false).2.isSuccessful =
        false ∧
      mapHeld
          (mapRun (some maplessServices) false).2.history =
        some [(0x1000, 1)] ∧
      ¬ KeepsNothing
        (mapRun (some maplessServices) false).2 := by
  have hHeld :
      mapHeld
          (mapRun (some maplessServices) false).2.history =
        some [(0x1000, 1)] := by
    decide +kernel
  have hHistory :
      (mapRun (some maplessServices) false).2.history =
        [.getMemoryMap 4096 0x1000 (EFIERR 2),
          .allocatePages 1 EFI_SUCCESS 0x1000] := by
    decide +kernel
  refine ⟨rfl, hHeld, ?_⟩
  intro hKeeps
  have hFree :
      ∀ event ∈
          (mapRun (some maplessServices) false).2.history,
        FreeSucceeds event := by
    rw [hHistory]
    simp [FreeSucceeds]
  have hNone := hKeeps.hFreed rfl hFree
  rw [hHeld] at hNone
  cases hNone

------------------------------------------------------------
-- The Second Try
------------------------------------------------------------

/-
  Firmware that has memory, and a map whose size depends in
  any way on the calls that were made: a buffer of that size
  or more gets the map, and any other one the size.
-/
structure ServesMap
    (bs : BootServices)
    (required : MapHistory → BitVec 64) : Prop where
  hAllocates :
    ∀ history pages,
      EFI_ERROR (bs.allocatePages history pages).status =
        false
  hFrees :
    ∀ history address pages,
      EFI_ERROR (bs.freePages history address pages) = false
  hTooSmall :
    ∀ history mapSize buffer, mapSize < required history →
      (bs.getMemoryMap history mapSize buffer).status =
        EFI_BUFFER_TOO_SMALL
  hEnough :
    ∀ history mapSize buffer, required history ≤ mapSize →
      EFI_ERROR
          (bs.getMemoryMap history mapSize buffer).status =
        false
  hReports :
    ∀ history mapSize buffer,
      (bs.getMemoryMap history mapSize buffer).mapSize =
        required history

def IsMapCall : MapEvent → Prop
| .getMemoryMap _ _ _ => True
| _ => False

/-
  In a history: the second call for the map, the calls
  before it, and the number of pages just allocated.
-/
def SecondMapCall
    (history before : MapHistory)
    (pages : BitVec 64) : Prop :=
  ∃ mapSize buffer status status' address earlier,
    before = .allocatePages pages status' address :: earlier ∧
      .getMemoryMap mapSize buffer status :: before <:+
        history ∧
      ∃ event ∈ earlier, IsMapCall event

/-
  With pages for the whole map the second call succeeds, and
  a map that is returned is in pages that hold all of it.
-/
structure RetrySucceeds
    (required : MapHistory → BitVec 64)
    (result : MemoryMap_t × MapState) : Prop where
  hRetry :
    ∀ before pages,
      SecondMapCall result.2.history before pages →
        (required before).toNat ≤ 4096 * pages.toNat →
        result.2.isSuccessful = true
  hBacked :
    result.2.isSuccessful = true →
      ∃ now pages,
        mapHeld result.2.history = some now ∧
          (result.1.entries, pages) ∈ now ∧
          result.1.mem_map_size.toNat ≤ 4096 * pages

section Retry

variable {bs : BootServices}
variable {required : MapHistory → BitVec 64}

theorem not_secondMapCall_firstHistory
    {before : MapHistory}
    {pages : BitVec 64} :
    ¬ SecondMapCall (firstHistory bs) before pages := by
  rintro ⟨_, _, _, _, _, earlier, rfl, hSuffix, _⟩
  have hLength := hSuffix.length_le
  simp [firstHistory] at hLength

/- What was allocated before the second call, and when. -/
theorem secondMapCall_retriedHistory_iff
    {before : MapHistory}
    {pages : BitVec 64} :
    SecondMapCall (retriedHistory bs) before pages ↔
      before = retryHistory bs ∧
        pages = pagesFor (firstMap bs).mapSize := by
  constructor
  · rintro
      ⟨_, _, _, _, _, earlier, rfl, hSuffix, event, hMem, hCall⟩
    simp only [retriedHistory, retryHistory, freedHistory,
      askedHistory, firstHistory, List.suffix_cons_iff,
      List.cons.injEq, reduceCtorEq, false_and, and_false,
      List.suffix_nil, or_false, false_or] at hSuffix
    rcases hSuffix with hLast | hFirst
    · simp only [retryHistory, freedHistory, askedHistory,
        firstHistory, List.cons.injEq]
      exact
        ⟨hLast.2, (MapEvent.allocatePages.inj hLast.2.1).1⟩
    · rw [hFirst.2.2] at hMem
      cases hMem
  · rintro ⟨rfl, rfl⟩
    refine
      ⟨_, _, _, _, _, freedHistory bs, rfl, List.suffix_rfl,
        .getMemoryMap PAGE_SIZE (firstPages bs).address
          (firstMap bs).status, ?_, trivial⟩
    exact List.mem_cons_of_mem _ List.mem_cons_self

/- A call that had no second try has nothing to retry. -/
theorem retrySucceeds_of_failed
    {history : MapHistory}
    (hNoCall :
      ∀ before pages, ¬ SecondMapCall history before pages) :
    RetrySucceeds required (failedAt history) where
  hRetry before pages hCall _ :=
    absurd hCall (hNoCall before pages)
  hBacked hFound := absurd hFound Bool.false_ne_true

theorem retrySucceeds_found_iff
    {map : MapAnswer}
    {address : Addr}
    {history : MapHistory}
    {size : Nat}
    (hHeld : mapHeld history = some [(address, size)]) :
    RetrySucceeds required (foundAt map address history) ↔
      map.mapSize.toNat ≤ 4096 * size := by
  constructor
  · intro hSucceeds
    obtain ⟨now, pages, hNow, hMem, hSize⟩ :=
      hSucceeds.hBacked rfl
    have hSame : [(address, size)] = now :=
      Option.some.inj (hHeld.symm.trans hNow)
    subst hSame
    have hPages : pages = size :=
      congrArg Prod.snd (List.mem_singleton.mp hMem)
    subst hPages
    exact hSize
  · intro hSize
    constructor
    · exact fun _ _ _ _ => rfl
    · exact fun _ =>
        ⟨_, size, hHeld, List.mem_singleton.mpr rfl, hSize⟩

theorem retrySucceeds_refused_iff :
    RetrySucceeds required (failedAt (retriedHistory bs)) ↔
      ¬ (required (retryHistory bs)).toNat ≤
          4096 * (pagesFor (firstMap bs).mapSize).toNat := by
  constructor
  · intro hSucceeds hFits
    have hCall :
        SecondMapCall (retriedHistory bs) (retryHistory bs)
          (pagesFor (firstMap bs).mapSize) :=
      secondMapCall_retriedHistory_iff.mpr ⟨rfl, rfl⟩
    have hFound := hSucceeds.hRetry _ _ hCall hFits
    exact Bool.false_ne_true hFound
  · intro hNoRoom
    constructor
    · intro before pages hCall hFits
      obtain ⟨rfl, rfl⟩ :=
        secondMapCall_retriedHistory_iff.mp hCall
      exact absurd hFits hNoRoom
    · exact fun hFound => absurd hFound Bool.false_ne_true

/- An error is an answer to a buffer that is too small. -/
theorem ServesMap.error_iff
    (hServes : ServesMap bs required)
    (history : MapHistory)
    (mapSize : BitVec 64)
    (buffer : Addr) :
    EFI_ERROR
          (bs.getMemoryMap history mapSize buffer).status =
        true ↔
      mapSize < required history := by
  constructor
  · intro hError
    by_contra hEnough
    have hFine :=
      hServes.hEnough history mapSize buffer
        (BitVec.not_lt.mp hEnough)
    exact Bool.false_ne_true (hFine.symm.trans hError)
  · intro hSmall
    rw [hServes.hTooSmall history mapSize buffer hSmall]
    rfl

theorem ServesMap.firstMap_mapSize
    (hServes : ServesMap bs required) :
    (firstMap bs).mapSize = required (firstHistory bs) :=
  hServes.hReports _ _ _

theorem ServesMap.firstMap_error_iff
    (hServes : ServesMap bs required) :
    EFI_ERROR (firstMap bs).status = true ↔
      PAGE_SIZE < required (firstHistory bs) :=
  hServes.error_iff _ _ _

/- The second call passes the size the first one reported. -/
theorem ServesMap.retryMap_error_iff
    (hServes : ServesMap bs required) :
    EFI_ERROR (retryMap bs).status = true ↔
      required (firstHistory bs) <
        required (retryHistory bs) := by
  rw [← hServes.firstMap_mapSize]
  exact hServes.error_iff _ _ _

/- The returns that are left with such firmware. -/
inductive ServedOutcome
    (bs : BootServices)
    (required : MapHistory → BitVec 64) :
    MemoryMap_t × MapState → Prop
| noAddress
    (hZero : (firstPages bs).address = 0) :
    ServedOutcome bs required (failedAt (firstHistory bs))
| found
    (hPage : HasPage bs)
    (hEnough : required (firstHistory bs) ≤ PAGE_SIZE) :
    ServedOutcome bs required
      (foundAt (firstMap bs) (firstPages bs).address
        (askedHistory bs))
| grown
    (hRetries : Retries bs)
    (hSmall : PAGE_SIZE < required (firstHistory bs))
    (hGrown :
      required (firstHistory bs) <
        required (retryHistory bs)) :
    ServedOutcome bs required (failedAt (retriedHistory bs))
| retried
    (hRetries : Retries bs)
    (hPages : EFI_ERROR (retryPages bs).status = false)
    (hSmall : PAGE_SIZE < required (firstHistory bs))
    (hFits :
      required (retryHistory bs) ≤
        required (firstHistory bs)) :
    ServedOutcome bs required
      (foundAt (retryMap bs) (retryPages bs).address
        (retriedHistory bs))

theorem ServesMap.outcome
    (hServes : ServesMap bs required)
    (isSuccessful : Bool) :
    ServedOutcome bs required
      (mapRun (some bs) isSuccessful) := by
  have hFirst := hServes.firstMap_error_iff
  have hRetry := hServes.retryMap_error_iff
  have hSmall
      (hRetries : Retries bs) :
      PAGE_SIZE < required (firstHistory bs) := by
    rw [← hFirst, hRetries.hTooSmall]
    exact efi_error_bufferTooSmall
  have hOutcome := getMemoryMap_outcome bs isSuccessful
  generalize mapRun (some bs) isSuccessful = result at hOutcome ⊢
  cases hOutcome with
  | noPages hNone =>
      refine .noAddress ?_
      by_contra hAddress
      exact hNone ⟨hServes.hAllocates [] 1, hAddress⟩
  | found hPage hMap =>
      refine .found hPage (BitVec.not_lt.mp ?_)
      intro hTooLarge
      exact
        Bool.false_ne_true
          (hMap.symm.trans (hFirst.mpr hTooLarge))
  | refused hPage hMap hOther =>
      exact
        absurd (hServes.hTooSmall _ _ _ (hFirst.mp hMap))
          hOther
  | notFreed hPage hTooSmall hFree =>
      have hFreed :=
        hServes.hFrees (askedHistory bs)
          (firstPages bs).address 1
      exact absurd (hFreed.symm.trans hFree) Bool.false_ne_true
  | noRetryPages hRetries hPages =>
      have hAllocated :=
        hServes.hAllocates (freedHistory bs)
          (pagesFor (firstMap bs).mapSize)
      exact
        absurd (hAllocated.symm.trans hPages)
          Bool.false_ne_true
  | retryRefused hRetries hPages hMap =>
      exact .grown hRetries (hSmall hRetries) (hRetry.mp hMap)
  | retryFound hRetries hPages hMap =>
      refine
        .retried hRetries hPages (hSmall hRetries)
          (BitVec.not_lt.mp ?_)
      intro hGrown
      exact
        Bool.false_ne_true
          (hMap.symm.trans (hRetry.mpr hGrown))

/-
  The second call has pages for the size that was reported
  by the first one, and says that it has just that size. It
  may still fail where the map has grown into the rest of
  the last page.
-/
theorem retrySucceeds_iff
    (hServes : ServesMap bs required)
    (isSuccessful : Bool) :
    RetrySucceeds required (mapRun (some bs) isSuccessful) ↔
      ((firstPages bs).address ≠ 0 →
        PAGE_SIZE < required (firstHistory bs) →
        (required (retryHistory bs) ≤
            required (firstHistory bs) ↔
          (required (retryHistory bs)).toNat ≤
            4096 *
              (pagesFor
                (required (firstHistory bs))).toNat)) := by
  have hReported := hServes.firstMap_mapSize
  have hOutcome := hServes.outcome isSuccessful
  generalize mapRun (some bs) isSuccessful = result at hOutcome ⊢
  cases hOutcome with
  | noAddress hZero =>
      refine iff_of_true ?_ (fun hAddress => absurd hZero hAddress)
      exact
        retrySucceeds_of_failed
          (fun _ _ => not_secondMapCall_firstHistory)
  | found hPage hEnough =>
      rw [retrySucceeds_found_iff (mapHeld_askedHistory hPage),
        hReported]
      refine iff_of_true (BitVec.le_def.mp hEnough) ?_
      exact
        fun _ hSmall => absurd hSmall (BitVec.not_lt.mpr hEnough)
  | grown hRetries hSmall hGrown =>
      rw [retrySucceeds_refused_iff, hReported]
      simp only [BitVec.not_le.mpr hGrown, false_iff]
      constructor
      · exact fun hNoRoom _ _ => hNoRoom
      · exact fun hAll => hAll hRetries.hPage.hAddress hSmall
  | retried hRetries hPages hSmall hFits =>
      have hLast :
          (retryMap bs).mapSize = required (retryHistory bs) :=
        hServes.hReports _ _ _
      rw [
        retrySucceeds_found_iff
          (mapHeld_retriedHistory hRetries hPages),
        hLast, hReported]
      simp only [hFits, true_iff]
      constructor
      · exact fun hRoom _ _ => hRoom
      · exact fun hAll => hAll hRetries.hPage.hAddress hSmall

/-
  Memory whose map needs `before` bytes, and after some calls
  `later` bytes.
-/
def requiredAfter
    (calls : Nat)
    (before later : BitVec 64)
    (history : MapHistory) : BitVec 64 :=
  if history.length < calls then before else later

/- Boot services with a map of that size. -/
def servicesFor
    (required : MapHistory → BitVec 64) : BootServices where
  allocatePages _ _ := ⟨EFI_SUCCESS, 0x1000⟩
  freePages _ _ _ := EFI_SUCCESS
  getMemoryMap history mapSize _ :=
    if mapSize < required history then
      ⟨EFI_BUFFER_TOO_SMALL, required history, 0, 0, 0⟩
    else
      ⟨EFI_SUCCESS, required history, 7, 48, 1⟩

theorem servesMap_servicesFor
    (required : MapHistory → BitVec 64) :
    ServesMap (servicesFor required) required where
  hAllocates _ _ := efi_error_success
  hFrees _ _ _ := efi_error_success
  hTooSmall history mapSize buffer hSmall := by
    simp only [servicesFor, hSmall, if_true]
  hEnough history mapSize buffer hEnough := by
    simp only [servicesFor, BitVec.not_lt.mpr hEnough,
      if_false]
    exact efi_error_success
  hReports history mapSize buffer := by
    simp only [servicesFor]
    split_ifs <;> rfl

/- A map that stays as large as it was reported. -/
theorem retrySucceeds_iff_of_stable :
    RetrySucceeds (requiredAfter 0 0 8160)
      (mapRun (some (servicesFor (requiredAfter 0 0 8160)))
        false) := by
  refine
    (retrySucceeds_iff
      (servesMap_servicesFor (requiredAfter 0 0 8160))
      false).mpr ?_
  intro _ _
  exact iff_of_true (by decide) (by decide)

/-
  A map that grows from 86 to 87 descriptors between the
  calls: there are two pages for its 4176 bytes, and the
  second call says that they have 4128.
-/
theorem retrySucceeds_fails :
    ServesMap
        (servicesFor (requiredAfter 3 4128 4176))
        (requiredAfter 3 4128 4176) ∧
      ¬ RetrySucceeds (requiredAfter 3 4128 4176)
          (mapRun
            (some
              (servicesFor (requiredAfter 3 4128 4176)))
            false) := by
  refine ⟨servesMap_servicesFor _, ?_⟩
  intro hSucceeds
  have hCall :
      SecondMapCall
        (mapRun
            (some
              (servicesFor (requiredAfter 3 4128 4176)))
            false).2.history
        (retryHistory
          (servicesFor (requiredAfter 3 4128 4176)))
        2 :=
    secondMapCall_retriedHistory_iff.mpr
      ⟨rfl, by decide⟩
  have hFound := hSucceeds.hRetry _ _ hCall (by decide)
  exact absurd hFound (by decide)

end Retry

end Main

end Chihuahua
