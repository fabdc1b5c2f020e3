import Chihuahua.Machine.Simulation
import Chihuahua.Paginator.Activation

/-
  The running kernel and its root controller: any requests
  in any order, until one of them faults.

  The state of the processor has the root in CR3. Requests
  that are answered leave it and the memory as they were.

  Main declarations:
    * `LiveState`, `LiveRequest` and `liveStep`
    * `StepOutcome` and `liveStep_outcome`
    * `liveRun_maps_nothing`
-/

------------------------------------------------------------
-- Requests of the Kernel
------------------------------------------------------------

namespace Chihuahua

namespace Paginator

open ByteMachine Simulation

structure LiveState where
  cr3 : Word
  paging : PagingState

/- The methods of the controller that are more than stubs. -/
inductive LiveRequest where
| map (request : MapRequest)
| translateVirtToPhys (virtAddress : Addr)
| activateRootPageTable
deriving DecidableEq, Repr

inductive LiveAnswer where
| mapped (error : PageMapError)
| translated (physAddress : Word)
| activated (success : Bool)
deriving DecidableEq, Repr

/- The controller of the kernel, under the root in CR3. -/
def liveController
    (allocator : Nat → Addr)
    (rootPageTable : Addr)
    (cr3 : Word) : PageTableRootController LiveM where
  rootPageTableAddress := rootPageTable
  pagingDisabledNow := false
  bus := liveBus allocator (Mmu.frame cr3)

/- There is no next state where the processor faults. -/
def liveStep
    (allocator : Nat → Addr)
    (rootPageTable : Addr)
    (request : LiveRequest)
    (s : LiveState) : Option (LiveAnswer × LiveState) :=
  let controller :=
    liveController allocator rootPageTable s.cr3
  match request with
  | .map request =>
      (request.issue controller s.paging).map
        (fun result =>
          (.mapped result.1, { s with paging := result.2 }))
  | .translateVirtToPhys virtAddress =>
      (controller.translateVirtToPhys virtAddress
          s.paging).map
        (fun result =>
          (.translated result.1,
            { s with paging := result.2 }))
  | .activateRootPageTable =>
      (controller.activateRootPageTable s.cr3 s.paging).map
        (fun result =>
          (.activated result.1.1,
            { cr3 := result.1.2
              paging := result.2 }))

------------------------------------------------------------
-- One Request
------------------------------------------------------------

/- What a request does that does not fault. -/
inductive StepOutcome
    (allocator : Nat → Addr)
    (s : LiveState) :
    LiveAnswer × LiveState → Prop where
| unchanged
    {answer : LiveAnswer}
    (hNoError : answer ≠ .mapped .NoError)
    (hAlloc : answer ≠ .mapped .AllocFailed) :
    StepOutcome allocator s (answer, s)
| allocFailed
    (hAlloc : allocator s.paging.frames = 0) :
    StepOutcome allocator s
      (.mapped .AllocFailed,
        { s with paging := s.paging.failAlloc })

section Live

variable {allocator : Nat → Addr} {rootPageTable : Addr}

/- `mapPage` answers before it uses a recursive address. -/
theorem mapPage_live_outcome
    {s : LiveState}
    (hRoot :
      LiveRoot (Mmu.frame s.cr3) rootPageTable s.paging)
    {virtAddress physAddress : Addr}
    {flags : PageFlags}
    {forceWrite : Bool}
    {result : PageMapError × PagingState}
    (hCall :
      mapPage (liveBus allocator (Mmu.frame s.cr3))
          rootPageTable virtAddress physAddress flags
          forceWrite false s.paging =
        some result) :
    StepOutcome allocator s
      (.mapped result.1, { s with paging := result.2 }) := by
  cases hSign : signExtensionOk virtAddress with
  | false =>
      rw [mapPage_live_of_rejected allocator virtAddress
        physAddress flags forceWrite hSign] at hCall
      obtain rfl := Option.some.inj hCall
      exact .unchanged (by simp) (by simp)
  | true =>
      rw [mapPage_live allocator virtAddress hRoot
        physAddress flags forceWrite hSign] at hCall
      split_ifs at hCall with hWalks hFails
      · obtain rfl := Option.some.inj hCall
        exact .allocFailed hFails.2
      · obtain ⟨existing, _, rfl⟩ :=
          Option.map_eq_some_iff.mp hCall
        exact .unchanged (by simp) (by simp)

theorem liveStep_outcome
    {s : LiveState}
    (hRoot :
      LiveRoot (Mmu.frame s.cr3) rootPageTable s.paging)
    {request : LiveRequest}
    {taken : LiveAnswer × LiveState}
    (hStep :
      liveStep allocator rootPageTable request s =
        some taken) :
    StepOutcome allocator s taken := by
  cases request with
  | map request =>
      obtain ⟨result, hCall, rfl⟩ :=
        Option.map_eq_some_iff.mp hStep
      cases request with
      | mapPage virtAddress physAddress flags forceWrite =>
          exact mapPage_live_outcome hRoot hCall
      | identityMapPage address flags forceWrite =>
          exact mapPage_live_outcome hRoot hCall
  | translateVirtToPhys virtAddress =>
      obtain ⟨result, hCall, rfl⟩ :=
        Option.map_eq_some_iff.mp hStep
      have hRead :=
        translateVirtToPhys_live allocator
          (Mmu.frame s.cr3) rootPageTable virtAddress
          s.paging
      obtain ⟨physAddress, _, rfl⟩ :=
        Option.map_eq_some_iff.mp (hRead.symm.trans hCall)
      exact .unchanged (by simp) (by simp)
  | activateRootPageTable =>
      have hFault :
          (liveController allocator rootPageTable
                s.cr3).activateRootPageTable s.cr3
              s.paging =
            none :=
        activateRootPageTable_live allocator
          (Mmu.frame s.cr3) rootPageTable s.cr3 s.paging
      unfold liveStep at hStep
      dsimp only at hStep
      rw [hFault] at hStep
      exact absurd hStep (by simp)

------------------------------------------------------------
-- All Requests
------------------------------------------------------------

/-
  Between two states of a run: only frames were asked for,
  in vain, and each request for one is in the answers.
-/
structure MapsNothing
    (allocator : Nat → Addr)
    (s : LiveState)
    (answers : List LiveAnswer)
    (t : LiveState) : Prop where
  hCr3 : t.cr3 = s.cr3
  hMachine : t.paging.machine = s.paging.machine
  hTables : t.paging.tables = s.paging.tables
  hNoError : .mapped .NoError ∉ answers
  hFrames :
    t.paging.frames =
      s.paging.frames + answers.count (.mapped .AllocFailed)
  hDenied :
    ∀ n,
      s.paging.frames ≤ n →
        n < t.paging.frames → allocator n = 0

theorem MapsNothing.refl
    (s : LiveState) :
    MapsNothing allocator s [] s :=
  ⟨rfl, rfl, rfl, List.not_mem_nil, rfl,
    fun _ hLow hHigh => absurd hHigh (not_lt.mpr hLow)⟩

theorem StepOutcome.then
    {s mid t : LiveState}
    {answer : LiveAnswer}
    {answers : List LiveAnswer}
    (hStep : StepOutcome allocator s (answer, mid))
    (hRest : MapsNothing allocator mid answers t) :
    MapsNothing allocator s (answer :: answers) t := by
  cases hStep with
  | unchanged hNoError hAlloc =>
      refine
        ⟨hRest.hCr3, hRest.hMachine, hRest.hTables, ?_, ?_,
          hRest.hDenied⟩
      · rw [List.mem_cons, not_or]
        exact ⟨hNoError.symm, hRest.hNoError⟩
      · rw [List.count_cons_of_ne hAlloc]
        exact hRest.hFrames
  | allocFailed hAlloc =>
      have hFrames :
          t.paging.frames =
            s.paging.frames + 1 +
              answers.count (.mapped .AllocFailed) :=
        hRest.hFrames
      refine
        ⟨hRest.hCr3, hRest.hMachine, hRest.hTables, ?_, ?_,
          ?_⟩
      · rw [List.mem_cons, not_or]
        exact ⟨by decide, hRest.hNoError⟩
      · rw [List.count_cons_self]
        omega
      · intro n hLow hHigh
        rcases hLow.eq_or_lt with rfl | hLater
        · exact hAlloc
        · exact hRest.hDenied n hLater hHigh

/-
  Once paging is enabled, no run of requests maps a page:
  whatever is asked for and answered, CR3, the memory and
  the tables stay, and the allocator has had no frame.
-/
theorem liveRun_maps_nothing
    {requests : List LiveRequest}
    {s t : LiveState}
    {answers : List LiveAnswer}
    (hRoot :
      LiveRoot (Mmu.frame s.cr3) rootPageTable s.paging)
    (hRun :
      runAll (liveStep allocator rootPageTable) requests s =
        some (answers, t)) :
    MapsNothing allocator s answers t := by
  induction requests generalizing s answers with
  | nil =>
      obtain ⟨rfl, rfl⟩ := Prod.mk.inj (Option.some.inj hRun)
      exact .refl s
  | cons request requests ih =>
      obtain ⟨answer, mid, rest, hStep, hLater, rfl⟩ :=
        runAll_cons_eq_some.mp hRun
      have hOutcome := liveStep_outcome hRoot hStep
      refine hOutcome.then (ih ?_ hLater)
      -- the root is as it was, in the same memory
      cases hOutcome with
      | unchanged _ _ => exact hRoot
      | allocFailed _ =>
          exact
            ⟨hRoot.hAligned, hRoot.hSelf, hRoot.hResolves⟩

end Live

/- A translation, and an address with a wrong upper half. -/
theorem liveRun_maps_nothing_sample :
    MapsNothing sampleAllocator
      { cr3 := 0, paging := sampleLive }
      [.translated 0, .mapped .InvalidVirtAddress]
      { cr3 := 0, paging := sampleLive } :=
  @liveRun_maps_nothing sampleAllocator 0
    [.translateVirtToPhys samplePage,
      .map
        (.mapPage 0x0001000000000000 0x300000
          PageFlags.Present true)]
    { cr3 := 0, paging := sampleLive } _ _
    sampleLive_liveRoot (by rfl)

end Paginator

end Chihuahua
