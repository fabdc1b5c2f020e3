import Chihuahua.Bootloader.FileService
import Chihuahua.Bootloader.Gop
import Chihuahua.Bootloader.MemoryMap
import Chihuahua.Bootloader.PageUses

/-
  The boot loader from `efi_main` on: the graphics mode, the
  kernel and the memory map, one after the other, with the
  firmware's answers depending on all that came before.

  Main declarations:
    * `BootEvent`, `SystemTable` and `efi_main`
    * `KeepsPagesApart`, `PagesKept` and `bootUses`
    * `efi_main_keepsPages`
    * `ReportsFittingMaps` and `MapPages`
-/

------------------------------------------------------------
-- The Source
------------------------------------------------------------

namespace Chihuahua

namespace Main

open ByteMachine Elf KernelReader Resources

def EFI_DEVICE_ERROR : EfiStatus := EFIERR 7

/- The calls of all parts of the boot loader. -/
inductive BootEvent where
| outputString
    (text : String)
    (status : EfiStatus)
| locateProtocol (status : EfiStatus)
| setMode (modeNumber : BitVec 32)
| clearScreen
| setCursorPosition (column row : Nat)
| kernel (event : FirmwareEvent)
| map (event : MapEvent)
| waitForEvent (status : EfiStatus)
deriving DecidableEq, Repr

/- The calls so far, the latest first. -/
abbrev BootLog := List BootEvent

/-
  The firmware, which may be another one after every call:
  `KernelReader` and `getMemoryMap` start with no calls of
  their own. `conOut` is whether there is a console, and
  `mapContent` is what `GetMemoryMap` writes.
-/
structure SystemTable where
  conOut : Bool
  outputString : BootLog → String → EfiStatus
  locateProtocol : BootLog → EfiStatus
  graphicsOutput : BootLog → Gop.EfiGraphicsOutputProtocol
  kernelServices : BootLog → Firmware
  mapServices : BootLog → BootServices
  mapContent : BootLog → Nat → Byte
  waitForEvent : BootLog → EfiStatus

/- Memory, the calls, and the local variables. -/
structure MainState where
  machine : Machine
  log : BootLog
  fbInfo : Gop.FramebufferInfo
  error : KernelLoadError
  isSuccessful : Bool

namespace MainState

def record
    (s : MainState)
    (event : BootEvent) : MainState :=
  { s with log := event :: s.log }

end MainState

/- A status, no end, or a call through a null pointer. -/
inductive MainResult where
| returned (status : EfiStatus)
| panicked
| crashed
deriving DecidableEq, Repr

def print
    (systemTable : SystemTable)
    (str : String)
    (s : MainState) : EfiStatus × MainState :=
  if systemTable.conOut then
    let status := systemTable.outputString s.log str
    (status, s.record (.outputString str status))
  else
    (EFI_DEVICE_ERROR, s)

def waitForKey
    (systemTable : SystemTable)
    (s : MainState) : EfiStatus × MainState :=
  let status := systemTable.waitForEvent s.log
  (status, s.record (.waitForEvent status))

/- So many rounds of the loop without an end. -/
def panicLoop
    (systemTable : SystemTable) :
    Nat → MainState → MainState
| 0, s => s
| rounds + 1, s =>
    panicLoop systemTable rounds (waitForKey systemTable s).2

def panic
    (systemTable : SystemTable)
    (rounds : Nat)
    (s : MainState) : MainState :=
  panicLoop systemTable rounds
    (print systemTable
      "Boot failed. You can turn off the device now.\r\n"
      s).2

def PREFERRED_WIDTH : BitVec 32 := 1920

def PREFERRED_HEIGHT : BitVec 32 := 1080

/- The call of `Gop::setAppropriateFramebuffer`. -/
def callFramebuffer
    (systemTable : SystemTable)
    (s : MainState) : Bool × MainState :=
  let gop := systemTable.graphicsOutput s.log
  let (isSet, t) :=
    Gop.setAppropriateFramebuffer gop PREFERRED_WIDTH
      PREFERRED_HEIGHT (Gop.GopState.start gop s.fbInfo)
  let s := { s with fbInfo := t.fbInfo }
  match t.passedToSetMode with
  | none => (isSet, s)
  | some modeNumber => (isSet, s.record (.setMode modeNumber))

/- The call of `KernelReader::readKernel`. -/
def callReadKernel
    (systemTable : SystemTable)
    (s : MainState) : KernelElfInfo × MainState :=
  let (info, t) :=
    readKernel (systemTable.kernelServices s.log)
      (kernelStart s.machine s.error)
  (info,
    { s with
      machine := t.machine
      error := t.error
      log := t.history.map .kernel ++ s.log })

/- The call of `getMemoryMap`, which the firmware fills. -/
def callGetMemoryMap
    (systemTable : SystemTable)
    (s : MainState) : MemoryMap_t × MainState :=
  let (map, t) :=
    mapRun (some (systemTable.mapServices s.log))
      s.isSuccessful
  let block : Block :=
    { base := map.entries
      size := map.mem_map_size.toNat
      content := systemTable.mapContent s.log }
  (map,
    { s with
      machine :=
        if t.isSuccessful then
          { s.machine with mem := s.machine.mem.paint block }
        else s.machine
      isSuccessful := t.isSuccessful
      log := t.history.map .map ++ s.log })

/- From the call of `readKernel` on. -/
def mainAfterFramebuffer
    (systemTable : SystemTable)
    (s : MainState) : MainResult × MainState :=
  let (_, s) := callReadKernel systemTable s
  let (_, s) := callGetMemoryMap systemTable s
  let (_, s) :=
    if s.isSuccessful then
      print systemTable "Memory map retrieved.\r\n" s
    else
      print systemTable "Memory map failed.\r\n" s
  let (status, s) := waitForKey systemTable s
  if EFI_ERROR status then (.returned status, s)
  else (.returned 0, s)

/- With the graphics output protocol. -/
def mainWithGop
    (systemTable : SystemTable)
    (s : MainState) : MainResult × MainState :=
  let s :=
    { s with fbInfo := Gop.INVALID_FRAMEBUFFER_INFO }
  let (isSet, s) := callFramebuffer systemTable s
  if isSet then
    -- `cout` is not compared with the null pointer here
    if ¬ systemTable.conOut then (.crashed, s)
    else
      let s := s.record .clearScreen
      let s := s.record (.setCursorPosition 0 0)
      let (_, s) :=
        print systemTable
          "Set graphics mode successfully.\r\n" s
      mainAfterFramebuffer systemTable s
  else
    let (_, s) :=
      print systemTable
        "WARN: Failed to set a graphics mode.\r\n" s
    mainAfterFramebuffer systemTable s

/- `rounds` is how often the loop of `panic` has run. -/
def efi_main
    (systemTable : SystemTable)
    (rounds : Nat)
    (s : MainState) : MainResult × MainState :=
  let (_, s) :=
    print systemTable "Start booting ChihuahuaOS.\r\n" s
  let status := systemTable.locateProtocol s.log
  let s := s.record (.locateProtocol status)
  if EFI_ERROR status then
    let (_, s) :=
      print systemTable
        "Failed to locate graphics output protocol.\r\n" s
    (.panicked, panic systemTable rounds s)
  else
    mainWithGop systemTable s

------------------------------------------------------------
-- The Pages of a Run
------------------------------------------------------------

/- What a call does with ranges of pages, the latest first. -/
def bootAction : BootEvent → List (Action Addr)
| .kernel event => pageAction event
| .map event => mapAction event
| _ => []

def bootActions (log : BootLog) : List (Action Addr) :=
  log.flatMap bootAction

@[simp] theorem bootActions_kernel
    (history : History)
    (log : BootLog) :
    bootActions (history.map .kernel ++ log) =
      actions pageAction history ++ bootActions log := by
  unfold bootActions actions
  rw [List.flatMap_append, List.flatMap_map]
  rfl

@[simp] theorem bootActions_map
    (history : MapHistory)
    (log : BootLog) :
    bootActions (history.map .map ++ log) =
      history.flatMap mapAction ++ bootActions log := by
  unfold bootActions
  rw [List.flatMap_append, List.flatMap_map]
  rfl

/- As `bootAction`, with the read of the file as a use. -/
def bootUse : BootEvent → List (Action Addr)
| .kernel event => pageUse event
| event => bootAction event

def bootUses (log : BootLog) : List (Action Addr) :=
  log.flatMap bootUse

@[simp] theorem bootUses_kernel
    (history : History)
    (log : BootLog) :
    bootUses (history.map .kernel ++ log) =
      actions pageUse history ++ bootUses log := by
  unfold bootUses actions
  rw [List.flatMap_append, List.flatMap_map]
  rfl

@[simp] theorem bootUses_map
    (history : MapHistory)
    (log : BootLog) :
    bootUses (history.map .map ++ log) =
      history.flatMap mapAction ++ bootUses log := by
  unfold bootUses
  rw [List.flatMap_append, List.flatMap_map]
  rfl

/- The events of `readKernel`. -/
def kernelHistory (log : BootLog) : History :=
  log.filterMap
    (fun
    | .kernel event => some event
    | _ => none)

theorem kernelHistory_append (later earlier : BootLog) :
    kernelHistory (later ++ earlier) =
      kernelHistory later ++ kernelHistory earlier :=
  List.filterMap_append

@[simp] theorem kernelHistory_kernel (history : History) :
    kernelHistory (history.map .kernel) = history := by
  unfold kernelHistory
  rw [List.filterMap_map]
  exact List.filterMap_some

theorem mem_kernelHistory_iff
    {event : FirmwareEvent}
    {log : BootLog} :
    event ∈ kernelHistory log ↔ .kernel event ∈ log := by
  unfold kernelHistory
  rw [List.mem_filterMap]
  constructor
  · rintro ⟨first, hMem, hEvent⟩
    cases first <;> cases hEvent
    exact hMem
  · intro hMem
    exact ⟨.kernel event, hMem, rfl⟩

/- As `HandsOutFresh`, for the calls of `getMemoryMap`. -/
def MapHandsOutFresh
    (bs : BootServices)
    (earlier : List (Action Addr)) : Prop :=
  ∀ history pages now,
    EFI_ERROR (bs.allocatePages history pages).status =
        false →
      held (history.flatMap mapAction ++ earlier) =
          some now →
        FreshPages now
          ((bs.allocatePages history pages).address,
            pages.toNat)

/- No page is handed out twice in a whole run. -/
structure KeepsPagesApart
    (systemTable : SystemTable) : Prop where
  hKernel :
    ∀ log,
      HandsOutFresh (systemTable.kernelServices log)
        (bootActions log)
  hMap :
    ∀ log,
      MapHandsOutFresh (systemTable.mapServices log)
        (bootActions log)
  hRead :
    ∀ log, ReadsAtMost (systemTable.kernelServices log)

/- All that is held at some point of a run is apart. -/
structure PagesKept
    (log : BootLog)
    (now : Held Addr) : Prop where
  hHeld : held (bootActions log) = some now
  hApart : now.Pairwise PagesDisjoint

------------------------------------------------------------
-- The Pages of the Map
------------------------------------------------------------

/-
  A map that is returned is no larger than the buffer, and
  the size that is wanted can be rounded up to pages.
-/
def ReportsFittingMaps (bs : BootServices) : Prop :=
  ∀ history mapSize buffer,
    let map := bs.getMemoryMap history mapSize buffer
    (EFI_ERROR map.status = false → map.mapSize ≤ mapSize) ∧
      (map.status = EFI_BUFFER_TOO_SMALL →
        map.mapSize.toNat + 4096 ≤ 2 ^ 64)

theorem mapSize_le_pagesFor
    {mapSize : BitVec 64}
    (hSize : mapSize.toNat + 4096 ≤ 2 ^ 64) :
    mapSize.toNat ≤
      EFI_PAGE_SIZE * (pagesFor mapSize).toNat := by
  have hSum :
      (mapSize + PAGE_SIZE - 1).toNat =
        mapSize.toNat + 4095 := by
    unfold PAGE_SIZE
    bv_omega
  have hPage : PAGE_SIZE.toNat = 4096 := rfl
  unfold pagesFor EFI_PAGE_SIZE
  rw [BitVec.toNat_udiv, hSum, hPage]
  omega

/- The range that is held afterwards, if there is one. -/
structure MapPages
    (bs : BootServices)
    (now : Held Addr)
    (result : MemoryMap_t × MapState)
    (mapPages : Held Addr) : Prop where
  hHeld : mapHeld result.2.history = some mapPages
  hOne : mapPages.length ≤ 1
  hFresh :
    ∀ range ∈ mapPages,
      ∀ other ∈ now, PagesDisjoint range other
  hFits :
    ReportsFittingMaps bs →
      result.2.isSuccessful = true →
        ∃ pages,
          mapPages = [(result.1.entries, pages)] ∧
            result.1.mem_map_size.toNat ≤
              EFI_PAGE_SIZE * pages

section Map

variable {bs : BootServices}
variable {earlier : List (Action Addr)} {now : Held Addr}

/- A run that holds nothing, and returns no map. -/
theorem mapPages_nil
    {history : MapHistory}
    (hHeld : mapHeld history = some []) :
    MapPages bs now (failedAt history) [] where
  hHeld := hHeld
  hOne := Nat.zero_le 1
  hFresh _ hMem := absurd hMem List.not_mem_nil
  hFits _ hFound := absurd hFound.symm nofun

/- A run that keeps its pages, and returns no map. -/
theorem mapPages_kept
    {history : MapHistory}
    {range : Addr × Nat}
    (hHeld : mapHeld history = some [range])
    (hFresh : FreshPages now range) :
    MapPages bs now (failedAt history) [range] where
  hHeld := hHeld
  hOne := le_rfl
  hFresh other hMem := by
    rw [List.mem_singleton.mp hMem]
    exact hFresh.hApart
  hFits _ hFound := absurd hFound.symm nofun

/- A run that returns a map, in pages of its own. -/
theorem mapPages_found
    {history : MapHistory}
    {map : MapAnswer}
    {address : Addr}
    {pages : Nat}
    (hHeld : mapHeld history = some [(address, pages)])
    (hFresh : FreshPages now (address, pages))
    (hFits :
      ReportsFittingMaps bs →
        map.mapSize.toNat ≤ EFI_PAGE_SIZE * pages) :
    MapPages bs now (foundAt map address history)
      [(address, pages)] where
  hHeld := hHeld
  hOne := le_rfl
  hFresh other hMem := by
    rw [List.mem_singleton.mp hMem]
    exact hFresh.hApart
  hFits hReports _ := ⟨pages, rfl, hFits hReports⟩

/- The ranges of both allocations are fresh. -/
theorem firstPages_fresh
    (hFresh : MapHandsOutFresh bs earlier)
    (hNow : held earlier = some now)
    (hPages : EFI_ERROR (firstPages bs).status = false) :
    FreshPages now ((firstPages bs).address, 1) :=
  hFresh [] 1 now hPages hNow

theorem retryPages_fresh
    (hFresh : MapHandsOutFresh bs earlier)
    (hNow : held earlier = some now)
    (hRetries : Retries bs)
    (hPages : EFI_ERROR (retryPages bs).status = false) :
    FreshPages now
      ((retryPages bs).address,
        (pagesFor (firstMap bs).mapSize).toNat) := by
  have hFreed := mapHeld_freedHistory hRetries.hPage
  rw [if_neg (Bool.eq_false_iff.mp hRetries.hFreed)] at hFreed
  exact
    hFresh (freedHistory bs) (pagesFor (firstMap bs).mapSize)
      now hPages (held_append hFreed hNow)

theorem mapRun_mapPages
    (hFresh : MapHandsOutFresh bs earlier)
    (hNow : held earlier = some now)
    (isSuccessful : Bool) :
    ∃ mapPages,
      MapPages bs now (mapRun (some bs) isSuccessful)
        mapPages := by
  have hOutcome := getMemoryMap_outcome bs isSuccessful
  have hFirst := firstPages_fresh hFresh hNow
  generalize
    mapRun (some bs) isSuccessful = result at hOutcome ⊢
  cases hOutcome with
  | noPages hNone =>
      cases hPages : EFI_ERROR (firstPages bs).status with
      | true =>
          exact
            ⟨[],
              mapPages_nil
                (mapHeld_firstHistory_of_error hPages)⟩
      | false =>
          -- fresh pages are not at 0
          exact
            absurd ⟨hPages, (hFirst hPages).hNotNull⟩ hNone
  | found hPage hMap =>
      refine
        ⟨_, mapPages_found (mapHeld_askedHistory hPage)
          (hFirst hPage.hPages) ?_⟩
      intro hReports
      exact
        (hReports (firstHistory bs) PAGE_SIZE
          (firstPages bs).address).1 hMap
  | refused hPage _ _ =>
      exact
        ⟨_, mapPages_kept (mapHeld_askedHistory hPage)
          (hFirst hPage.hPages)⟩
  | notFreed hPage _ hFree =>
      have hHeld := mapHeld_freedHistory hPage
      rw [if_pos hFree] at hHeld
      exact ⟨_, mapPages_kept hHeld (hFirst hPage.hPages)⟩
  | noRetryPages hRetries hPages =>
      have hHeld := mapHeld_retryHistory hRetries
      rw [if_pos hPages] at hHeld
      exact ⟨_, mapPages_nil hHeld⟩
  | retryRefused hRetries hPages _ =>
      exact
        ⟨_, mapPages_kept
          (mapHeld_retriedHistory hRetries hPages)
          (retryPages_fresh hFresh hNow hRetries hPages)⟩
  | retryFound hRetries hPages hMap =>
      refine
        ⟨_, mapPages_found
          (mapHeld_retriedHistory hRetries hPages)
          (retryPages_fresh hFresh hNow hRetries hPages) ?_⟩
      intro hReports
      have hSize :
          (retryMap bs).mapSize ≤ (firstMap bs).mapSize :=
        (hReports (retryHistory bs) (firstMap bs).mapSize
          (retryPages bs).address).1 hMap
      have hWanted :=
        (hReports (firstHistory bs) PAGE_SIZE
          (firstPages bs).address).2 hRetries.hTooSmall
      exact
        Nat.le_trans hSize (mapSize_le_pagesFor hWanted)

end Map

------------------------------------------------------------
-- A Run
------------------------------------------------------------

section Run

variable {systemTable : SystemTable} {now : Held Addr}
variable {s : MainState}

/-
  The reads of a run are given pages that were answered, and
  keep to what they are asked for.
-/
structure ReadsIntoPages
    (systemTable : SystemTable)
    (log : BootLog) : Prop where
  hWithin :
    ∀ log, ReadsWithin (systemTable.kernelServices log)
  hAnswered : ReadsAnswered (kernelHistory log)

theorem ReadsIntoPages.of_suffix
    {earlier log : BootLog}
    (hReads : ReadsIntoPages systemTable log)
    (hGrown : earlier <:+ log) :
    ReadsIntoPages systemTable earlier where
  hWithin := hReads.hWithin
  hAnswered := by
    rcases hGrown with ⟨later, rfl⟩
    have hAnswered := hReads.hAnswered
    rw [kernelHistory_append] at hAnswered
    exact hAnswered.of_append

theorem callReadKernel_keepsPages
    (hApart : KeepsPagesApart systemTable)
    (hKept : PagesKept s.log now) :
    ∃ kept,
      PagesKept (callReadKernel systemTable s).2.log
          (kept ++ now) ∧
        (ReadsIntoPages systemTable
            (callReadKernel systemTable s).2.log →
          held (bootUses s.log) = some now →
            held
                (bootUses
                  (callReadKernel systemTable s).2.log) =
              some (kept ++ now)) := by
  rcases
      @readKernel_grants (systemTable.kernelServices s.log)
        (bootActions s.log) now (kernelStart s.machine s.error)
        (hApart.hKernel s.log) (hApart.hRead s.log)
        ⟨hKept.hHeld, hKept.hApart⟩ with
    ⟨kept, _, hLater, _⟩
  refine ⟨kept, ⟨?_, hLater.hApart⟩, ?_⟩
  · unfold callReadKernel
    rw [bootActions_kernel]
    exact hLater.hHeld
  · intro hReads hUses
    have hAnswered := hReads.hAnswered
    unfold callReadKernel at hAnswered ⊢
    rw [kernelHistory_append,
      kernelHistory_kernel] at hAnswered
    rw [bootUses_kernel]
    have hRun :=
      @readKernel_usesHeld (bootUses s.log)
        (bootActions s.log)
        (systemTable.kernelServices s.log) now
        (kernelStart s.machine s.error)
        (hReads.hWithin s.log) ⟨hKept.hHeld, hKept.hApart⟩
        (hUses.trans hKept.hHeld.symm)
        hAnswered.of_append_left
    exact hRun.trans hLater.hHeld

theorem callGetMemoryMap_keepsPages
    (hApart : KeepsPagesApart systemTable)
    (hKept : PagesKept s.log now) :
    ∃ mapPages,
      MapPages (systemTable.mapServices s.log) now
          (mapRun (some (systemTable.mapServices s.log))
            s.isSuccessful)
          mapPages ∧
        PagesKept (callGetMemoryMap systemTable s).2.log
          (mapPages ++ now) ∧
        (held (bootUses s.log) = some now →
          held
              (bootUses
                (callGetMemoryMap systemTable s).2.log) =
            some (mapPages ++ now)) := by
  rcases
      mapRun_mapPages (hApart.hMap s.log) hKept.hHeld
        s.isSuccessful with
    ⟨mapPages, hMap⟩
  refine ⟨mapPages, hMap, ⟨?_, ?_⟩, ?_⟩
  · unfold callGetMemoryMap
    rw [bootActions_map]
    exact held_append hMap.hHeld hKept.hHeld
  · rw [List.pairwise_append]
    refine ⟨?_, hKept.hApart, hMap.hFresh⟩
    have hOne := hMap.hOne
    match mapPages with
    | [] => exact .nil
    | [range] => exact List.pairwise_singleton _ range
  · intro hUses
    unfold callGetMemoryMap
    rw [bootUses_map]
    exact held_append hMap.hHeld hUses

/- A call of neither `readKernel` nor `getMemoryMap`. -/
def IsPlain : BootEvent → Prop
| .kernel _ => False
| .map _ => False
| _ => True

/- Nothing that has to do with pages or the kernel. -/
structure SameMemory (s t : MainState) : Prop where
  hLog :
    ∃ events,
      t.log = events ++ s.log ∧
        ∀ event ∈ events, IsPlain event
  hMachine : t.machine = s.machine

/- A run stops early, or calls `readKernel` at some point. -/
inductive MainOutcome
    (systemTable : SystemTable)
    (s : MainState) : MainResult × MainState → Prop
| stopped
    {result : MainResult}
    {t : MainState}
    (hResult : ∀ status, result ≠ .returned status)
    (hSame : SameMemory s t) :
    MainOutcome systemTable s (result, t)
| ran
    {t : MainState}
    (hSame : SameMemory s t) :
    MainOutcome systemTable s
      (mainAfterFramebuffer systemTable t)

namespace SameMemory

variable {t : MainState}

theorem refl (s : MainState) : SameMemory s s where
  hLog := ⟨[], rfl, List.forall_mem_nil _⟩
  hMachine := rfl

theorem record
    (hSame : SameMemory s t)
    {event : BootEvent}
    (hPlain : IsPlain event) :
    SameMemory s (t.record event) where
  hLog := by
    rcases hSame.hLog with ⟨events, hEvents, hAll⟩
    exact
      ⟨event :: events, congrArg (List.cons event) hEvents,
        List.forall_mem_cons.mpr ⟨hPlain, hAll⟩⟩
  hMachine := hSame.hMachine

/- Plain calls are nothing to any account of the others. -/
theorem flatMap_log
    (hSame : SameMemory s t)
    {action : BootEvent → List (Action Addr)}
    (hNone : ∀ event, IsPlain event → action event = []) :
    t.log.flatMap action = s.log.flatMap action := by
  rcases hSame.hLog with ⟨events, hEvents, hAll⟩
  rw [hEvents, List.flatMap_append,
    List.flatMap_eq_nil_iff.mpr
      (fun event hMem => hNone event (hAll event hMem)),
    List.nil_append]

theorem hActions (hSame : SameMemory s t) :
    bootActions t.log = bootActions s.log := by
  apply hSame.flatMap_log
  intro event hPlain
  cases event <;> first | rfl | exact hPlain.elim

theorem hUses (hSame : SameMemory s t) :
    bootUses t.log = bootUses s.log := by
  apply hSame.flatMap_log
  intro event hPlain
  cases event <;> first | rfl | exact hPlain.elim

theorem print
    (hSame : SameMemory s t)
    (str : String) :
    SameMemory s (Main.print systemTable str t).2 := by
  unfold Main.print
  split_ifs
  · exact hSame.record trivial
  · exact hSame

theorem panicLoop
    (hSame : SameMemory s t)
    (rounds : Nat) :
    SameMemory s (Main.panicLoop systemTable rounds t) := by
  induction rounds generalizing t with
  | zero => exact hSame
  | succ rounds ih => exact ih (hSame.record trivial)

theorem setFbInfo
    (hSame : SameMemory s t)
    (fbInfo : Gop.FramebufferInfo) :
    SameMemory s { t with fbInfo := fbInfo } where
  hLog := hSame.hLog
  hMachine := hSame.hMachine

theorem callFramebuffer
    (hSame : SameMemory s t) :
    SameMemory s (Main.callFramebuffer systemTable t).2 := by
  unfold Main.callFramebuffer
  dsimp only
  split
  · exact hSame.setFbInfo _
  · exact (hSame.setFbInfo _).record trivial

end SameMemory

theorem mainWithGop_outcome
    {t : MainState}
    (hSame : SameMemory s t) :
    MainOutcome systemTable s
      (mainWithGop systemTable t) := by
  unfold mainWithGop
  dsimp only
  have hSet :
      SameMemory s
        (callFramebuffer systemTable
          { t with
            fbInfo := Gop.INVALID_FRAMEBUFFER_INFO }).2 :=
    (hSame.setFbInfo _).callFramebuffer
  generalize
    callFramebuffer systemTable
      { t with fbInfo := Gop.INVALID_FRAMEBUFFER_INFO } =
        result at hSet ⊢
  split_ifs with hIsSet hConsole
  · refine .ran (SameMemory.print ?_ _)
    have hCleared :
        SameMemory s (result.2.record .clearScreen) :=
      hSet.record trivial
    exact hCleared.record trivial
  · exact .stopped (fun _ => nofun) hSet
  · exact .ran (hSet.print _)

theorem efi_main_outcome
    (systemTable : SystemTable)
    (rounds : Nat)
    (s : MainState) :
    MainOutcome systemTable s
      (efi_main systemTable rounds s) := by
  have hStart :
      SameMemory s
        (print systemTable "Start booting ChihuahuaOS.\r\n"
          s).2 :=
    SameMemory.print (.refl _) _
  have hLocated (status : EfiStatus) :
      SameMemory s
        ((print systemTable
            "Start booting ChihuahuaOS.\r\n"
            s).2.record (.locateProtocol status)) :=
    hStart.record trivial
  unfold efi_main
  dsimp only
  split_ifs with hStatus
  · refine .stopped (fun _ => nofun) ?_
    unfold panic
    exact (((hLocated _).print _).print _).panicLoop rounds
  · exact mainWithGop_outcome (hLocated _)

theorem SameMemory.pagesKept
    {t : MainState}
    (hSame : SameMemory s t)
    (hKept : PagesKept s.log now) :
    PagesKept t.log now where
  hHeld := by
    rw [hSame.hActions]
    exact hKept.hHeld
  hApart := hKept.hApart

/- What follows the map changes neither memory nor pages. -/
theorem mainAfterFramebuffer_eq
    (systemTable : SystemTable)
    (s : MainState) :
    ∃ status t,
      mainAfterFramebuffer systemTable s =
          (.returned status, t) ∧
        SameMemory
          (callGetMemoryMap systemTable
            (callReadKernel systemTable s).2).2
          t := by
  unfold mainAfterFramebuffer
  dsimp only
  generalize
    (callGetMemoryMap systemTable
      (callReadKernel systemTable s).2).2 = t
  have hWait (u : MainState) (hSame : SameMemory t u) :
      ∃ status v,
        (if EFI_ERROR (waitForKey systemTable u).1 then
              (MainResult.returned
                (waitForKey systemTable u).1,
                (waitForKey systemTable u).2)
            else
              (.returned 0, (waitForKey systemTable u).2)) =
            (.returned status, v) ∧
          SameMemory t v := by
    have hAfter :
        SameMemory t (waitForKey systemTable u).2 :=
      hSame.record trivial
    split_ifs
    · exact ⟨_, _, rfl, hAfter⟩
    · exact ⟨_, _, rfl, hAfter⟩
  apply hWait
  split_ifs
  · exact SameMemory.print (.refl _) _
  · exact SameMemory.print (.refl _) _

theorem callGetMemoryMap_suffix
    (systemTable : SystemTable)
    (s : MainState) :
    s.log <:+ (callGetMemoryMap systemTable s).2.log :=
  List.suffix_append _ _

theorem SameMemory.suffix
    {t : MainState}
    (hSame : SameMemory s t) :
    s.log <:+ t.log := by
  rcases hSame.hLog with ⟨events, hEvents, _⟩
  exact ⟨events, hEvents.symm⟩

/-
  At the end of every run, and in every round of the loop
  of `panic`: no range of pages was freed or given to
  `GetMemoryMap` that was not held, all that is held is
  apart, and whatever was in use before the run still is.
  The read of the file fills pages that are held, too, if
  the request for them was answered.
-/
theorem efi_main_keepsPages
    (hApart : KeepsPagesApart systemTable)
    (hKept : PagesKept s.log now)
    (rounds : Nat) :
    ∃ later,
      PagesKept (efi_main systemTable rounds s).2.log
          (later ++ now) ∧
        (ReadsIntoPages systemTable
            (efi_main systemTable rounds s).2.log →
          held (bootUses s.log) = some now →
            held
                (bootUses
                  (efi_main systemTable rounds s).2.log) =
              some (later ++ now)) := by
  have hOutcome := efi_main_outcome systemTable rounds s
  generalize
    efi_main systemTable rounds s = result at hOutcome ⊢
  cases hOutcome with
  | stopped _ hSame =>
      refine ⟨[], hSame.pagesKept hKept, fun _ hUses => ?_⟩
      exact (congrArg held hSame.hUses).trans hUses
  | @ran t hSame =>
      rcases mainAfterFramebuffer_eq systemTable t with
        ⟨status, u, hEnd, hAfter⟩
      rcases
          callReadKernel_keepsPages hApart
            (hSame.pagesKept hKept) with
        ⟨kernelPages, hKernel, hKernelUses⟩
      rcases callGetMemoryMap_keepsPages hApart hKernel with
        ⟨mapPages, _, hMap, hMapUses⟩
      rw [hEnd]
      refine ⟨mapPages ++ kernelPages, ?_, ?_⟩
      · rw [List.append_assoc]
        exact hAfter.pagesKept hMap
      · intro hReads hUses
        have hLog :=
          (callGetMemoryMap_suffix systemTable
            (callReadKernel systemTable t).2).trans
              hAfter.suffix
        rw [List.append_assoc]
        refine (congrArg held hAfter.hUses).trans ?_
        apply hMapUses
        apply hKernelUses (hReads.of_suffix hLog)
        exact (congrArg held hSame.hUses).trans hUses

end Run

/- Firmware with the sample, and a map of 5000 bytes. -/
def sampleTable : SystemTable where
  conOut := true
  outputString _ _ := EFI_SUCCESS
  locateProtocol _ := EFI_SUCCESS
  graphicsOutput _ :=
    Gop.tableProtocol (Gop.rgbMode 1024 768)
      [Gop.rgbMode 640 480, Gop.rgbMode 1920 1080]
  kernelServices log :=
    servingFirmware sampleKernel.file (bootActions log)
  mapServices log :=
    { allocatePages := fun history =>
        nextPages
          (history.flatMap mapAction ++ bootActions log) []
      freePages := fun _ _ _ => EFI_SUCCESS
      getMemoryMap := fun _ mapSize _ =>
        if mapSize < 5000 then
          ⟨EFI_BUFFER_TOO_SMALL, 5000, 0, 0, 0⟩
        else ⟨EFI_SUCCESS, 5000, 7, 48, 1⟩ }
  mapContent _ _ := 0xFF
  waitForEvent _ := EFI_SUCCESS

theorem sampleTable_servesFile (log : BootLog) :
    ServesFile (sampleTable.kernelServices log)
      sampleKernel.file 300 :=
  servesFile_servingFirmware
    (by rw [length_sampleKernel_file]; decide)
    (bootActions log)

theorem sampleTable_keepsPagesApart :
    KeepsPagesApart sampleTable where
  hKernel _ := handsOutFresh_nextPages rfl
  hMap _ _ _ _ hStatus hNow :=
    freshPages_nextPages hStatus hNow
  hRead log := (sampleTable_servesFile log).hAtMost

theorem sampleTable_readsWithin (log : BootLog) :
    ReadsWithin (sampleTable.kernelServices log) := by
  intro _ size _
  unfold sampleTable servingFirmware
  dsimp only
  split_ifs with hShort
  · exact BitVec.le_refl size
  · exact BitVec.le_of_lt (BitVec.not_le.mp hShort)

def emptyMain : MainState where
  machine := emptyStart.machine
  log := []
  fbInfo := Gop.INVALID_FRAMEBUFFER_INFO
  error := .FileReadUnknownError
  isSuccessful := false

/- The kernel is read, into pages that are held. -/
theorem efi_main_keepsPages_sample :
    ∃ later,
      PagesKept (efi_main sampleTable 0 emptyMain).2.log
          (later ++ []) ∧
        held
            (bootUses
              (efi_main sampleTable 0 emptyMain).2.log) =
          some (later ++ []) := by
  rcases
      @efi_main_keepsPages sampleTable [] emptyMain
        sampleTable_keepsPagesApart ⟨rfl, List.Pairwise.nil⟩ 0 with
    ⟨later, hKept, hUses⟩
  refine ⟨later, hKept, hUses ?_ rfl⟩
  refine ⟨sampleTable_readsWithin, ?_⟩
  apply ReadsAnswered.of_pagesAnswered
  decide +kernel

end Main

end Chihuahua
