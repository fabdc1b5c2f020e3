import Chihuahua.Bootloader.EfiMain

/-
  The memory of a boot: what may have changed in it at the
  end, and the kernel that was loaded, which is still there.

  Main declarations:
    * `ChangesOnly` and `SameMemory.bothCalls`
    * `ServesKernel` and `callReadKernel_loadsKernel`
    * `efi_main_keepsKernel`
-/

------------------------------------------------------------
-- The Memory of a Run
------------------------------------------------------------

namespace Chihuahua

namespace Main

open ByteMachine Elf KernelReader Resources

section Run

variable {systemTable : SystemTable} {now : Held Addr}
variable {s : MainState}

/-
  As `WritesOnly`: memory has changed in buffers that were
  given to `GetInfo`, and else only where it is said.
-/
def ChangesOnly
    (Written : Addr → Prop)
    (s t : MainState) : Prop :=
  ∃ events : BootLog,
    t.log = events ++ s.log ∧
      ∀ a,
        ¬ Written a →
          ¬ InInfoBuffer (kernelHistory events) a →
            t.machine.mem a = s.machine.mem a

namespace ChangesOnly

variable {Written : Addr → Prop} {t u : MainState}

theorem trans
    (hFirst : ChangesOnly Written s t)
    (hSecond : ChangesOnly Written t u) :
    ChangesOnly Written s u := by
  rcases hFirst with ⟨first, hFirst, hFirstKept⟩
  rcases hSecond with ⟨second, hSecond, hSecondKept⟩
  refine ⟨second ++ first, ?_, ?_⟩
  · rw [hSecond, hFirst, List.append_assoc]
  · intro a hOutside hNoInfo
    rw [kernelHistory_append, inInfoBuffer_append_iff,
      not_or] at hNoInfo
    rw [hSecondKept a hOutside hNoInfo.1,
      hFirstKept a hOutside hNoInfo.2]

theorem mono
    {More : Addr → Prop}
    (hChanges : ChangesOnly Written s t)
    (hMore : ∀ a, Written a → More a) :
    ChangesOnly More s t := by
  rcases hChanges with ⟨events, hEvents, hKept⟩
  exact
    ⟨events, hEvents, fun a hOutside =>
      hKept a (fun hInside => hOutside (hMore a hInside))⟩

theorem of_same (hSame : SameMemory s t) :
    ChangesOnly Written s t := by
  rcases hSame.hLog with ⟨events, hEvents, _⟩
  exact
    ⟨events, hEvents, fun _ _ _ => by rw [hSame.hMachine]⟩

/- The call of `readKernel` starts with no events. -/
theorem of_readKernel
    (hWrites :
      WritesOnly Written (kernelStart s.machine s.error)
        (readKernel (systemTable.kernelServices s.log)
          (kernelStart s.machine s.error)).2) :
    ChangesOnly Written s
      (callReadKernel systemTable s).2 := by
  rcases hWrites with ⟨events, hEvents, hKept⟩
  have hAll :
      (readKernel (systemTable.kernelServices s.log)
          (kernelStart s.machine s.error)).2.history =
        events :=
    hEvents.trans (List.append_nil events)
  refine ⟨events.map .kernel, ?_, ?_⟩
  · rw [← hAll]
    rfl
  · rw [kernelHistory_kernel]
    exact hKept

end ChangesOnly

/- A map is written to its own pages. -/
theorem callGetMemoryMap_mem
    (hReports :
      ReportsFittingMaps (systemTable.mapServices s.log))
    {mapPages : Held Addr}
    (hMap :
      MapPages (systemTable.mapServices s.log) now
        (mapRun (some (systemTable.mapServices s.log))
          s.isSuccessful)
        mapPages)
    {a : Addr}
    (hOutside : ¬ InPages mapPages a) :
    (callGetMemoryMap systemTable s).2.machine.mem a =
      s.machine.mem a := by
  have hFits := hMap.hFits hReports
  unfold callGetMemoryMap
  dsimp only
  generalize
    mapRun (some (systemTable.mapServices s.log))
      s.isSuccessful = result at hFits ⊢
  split_ifs with hFound
  · rcases hFits hFound with ⟨pages, rfl, hSize⟩
    dsimp only
    rw [Memory.paint_apply]
    apply if_neg
    intro hRange
    exact
      hOutside
        ⟨_, List.mem_singleton_self _, hRange.mono hSize⟩
  · rfl

theorem callGetMemoryMap_changes
    (hReports :
      ReportsFittingMaps (systemTable.mapServices s.log))
    {mapPages : Held Addr}
    (hMap :
      MapPages (systemTable.mapServices s.log) now
        (mapRun (some (systemTable.mapServices s.log))
          s.isSuccessful)
        mapPages) :
    ChangesOnly (InPages mapPages) s
      (callGetMemoryMap systemTable s).2 :=
  ⟨_, rfl, fun _ hOutside _ =>
    callGetMemoryMap_mem hReports hMap hOutside⟩

/- The pages of both calls, and what lies around them. -/
theorem SameMemory.bothCalls
    {kernelPages mapPages : Held Addr}
    {t u v w : MainState}
    (hBefore : SameMemory s t)
    (hKernel : ChangesOnly (InPages kernelPages) t u)
    (hMap : ChangesOnly (InPages mapPages) u v)
    (hAfter : SameMemory v w) :
    ChangesOnly (InPages (mapPages ++ kernelPages)) s w := by
  have hFirst :
      ChangesOnly (InPages (mapPages ++ kernelPages)) t u :=
    hKernel.mono
      (fun _ hInside => inPages_append_iff.mpr (.inr hInside))
  have hSecond :
      ChangesOnly (InPages (mapPages ++ kernelPages)) u v :=
    hMap.mono
      (fun _ hInside => inPages_append_iff.mpr (.inl hInside))
  exact
    ((ChangesOnly.of_same hBefore).trans hFirst).trans
      (hSecond.trans (.of_same hAfter))

------------------------------------------------------------
-- The Kernel of a Run
------------------------------------------------------------

/-
  Firmware that serves the file of a kernel, hands out no
  page twice and reports maps that fit their buffers.
-/
structure ServesKernel
    (systemTable : SystemTable)
    (kernel : Kernel) : Prop where
  hApart : KeepsPagesApart systemTable
  hFile :
    ∀ log,
      ∃ infoSize,
        ServesFile (systemTable.kernelServices log)
          kernel.file infoSize
  hMaps :
    ∀ log,
      ReportsFittingMaps (systemTable.mapServices log)

/- `readKernel` loads the kernel, in the state it starts in. -/
theorem callReadKernel_loadsKernel
    {kernel : Kernel}
    (hFits : kernel.Encodable)
    (hSize : kernel.file.length ≤ 2 ^ 28)
    (hServes : ServesKernel systemTable kernel)
    (hKept : PagesKept s.log now)
    (hGranted :
      PagesAnswered
        (kernelHistory (callReadKernel systemTable s).2.log)) :
    ∃ calls kept,
      PagesKept (callReadKernel systemTable s).2.log
          (kept ++ now) ∧
        KernelInMemory kernel
          (callReadKernel systemTable s).2.machine.mem calls
          kept ∧
        ChangesOnly (InPages kept) s
          (callReadKernel systemTable s).2 := by
  rcases hServes.hFile s.log with ⟨infoSize, hFile⟩
  have hAnswered :
      PagesAnswered
        (readKernel (systemTable.kernelServices s.log)
          (kernelStart s.machine s.error)).2.history := by
    intro pages status address hMem
    apply hGranted pages status address
    rw [mem_kernelHistory_iff]
    unfold callReadKernel
    exact List.mem_append_left _ (List.mem_map_of_mem hMem)
  rcases
      @readKernel_loadsKernel kernel
        (systemTable.kernelServices s.log) infoSize
        (bootActions s.log) now (kernelStart s.machine s.error)
        hFits hSize hFile (hServes.hApart.hKernel s.log)
        ⟨hKept.hHeld, hKept.hApart⟩ (List.forall_mem_nil _)
        hAnswered with
    ⟨kept, hLater, hLoaded, hWrites⟩
  refine
    ⟨_, kept, ⟨?_, hLater.hApart⟩, hLoaded,
      .of_readKernel hWrites⟩
  unfold callReadKernel
  rw [bootActions_kernel]
  exact hLater.hHeld

/-
  Where `efi_main` returns, the kernel of the file is still
  in memory: the memory map has not been written over it,
  its pages are still held, and of the memory only pages
  that this run was granted have changed, and the buffers
  that were given to `GetInfo`.
-/
theorem efi_main_keepsKernel
    {kernel : Kernel}
    (hFits : kernel.Encodable)
    (hSize : kernel.file.length ≤ 2 ^ 28)
    (hServes : ServesKernel systemTable kernel)
    (hKept : PagesKept s.log now)
    (rounds : Nat)
    (hGranted :
      PagesAnswered
        (kernelHistory
          (efi_main systemTable rounds s).2.log))
    {status : EfiStatus}
    (hReturned :
      (efi_main systemTable rounds s).1 = .returned status) :
    ∃ calls pages,
      KernelInMemory kernel
          (efi_main systemTable rounds s).2.machine.mem calls
          pages ∧
        PagesKept (efi_main systemTable rounds s).2.log
          (pages ++ now) ∧
        ChangesOnly (InPages pages) s
          (efi_main systemTable rounds s).2 := by
  have hOutcome := efi_main_outcome systemTable rounds s
  generalize
    efi_main systemTable rounds s = result
      at hOutcome hGranted hReturned ⊢
  cases hOutcome with
  | stopped hResult _ =>
      exact absurd hReturned (hResult status)
  | @ran t hSame =>
      rcases mainAfterFramebuffer_eq systemTable t with
        ⟨_, u, hEnd, hAfter⟩
      rw [hEnd] at hGranted ⊢
      dsimp only at hGranted ⊢
      have hLog :=
        (callGetMemoryMap_suffix systemTable
          (callReadKernel systemTable t).2).trans
            hAfter.suffix
      have hAnswered :
          PagesAnswered
            (kernelHistory
              (callReadKernel systemTable t).2.log) := by
        intro pages status' address hMem
        rw [mem_kernelHistory_iff] at hMem
        exact
          hGranted pages status' address
            (mem_kernelHistory_iff.mpr (hLog.subset hMem))
      rcases
          callReadKernel_loadsKernel hFits hSize hServes
            (hSame.pagesKept hKept) hAnswered with
        ⟨calls, kernelPages, hKernelPages, hKernel, hOthers⟩
      rcases
          callGetMemoryMap_keepsPages hServes.hApart
            hKernelPages with
        ⟨mapPages, hMap, hMapPages, _⟩
      have hMapMem (a : Addr) :=
        @callGetMemoryMap_mem systemTable (kernelPages ++ now)
          (callReadKernel systemTable t).2 (hServes.hMaps _)
          mapPages hMap a
      rw [← hAfter.hMachine] at hMapMem
      refine
        ⟨calls, mapPages ++ kernelPages, ?_, ?_,
          hSame.bothCalls hOthers
            (callGetMemoryMap_changes (hServes.hMaps _) hMap)
            hAfter⟩
      · refine
          KernelInMemory.mono (hKernel.congr ?_)
            (List.subset_append_right mapPages kernelPages)
        intro a hInside
        apply hMapMem
        apply not_inPages_of_apart hMapPages.hApart
        exact inPages_append_iff.mpr (Or.inl hInside)
      · rw [List.append_assoc]
        exact hAfter.pagesKept hMapPages

end Run

theorem sampleTable_servesKernel :
    ServesKernel sampleTable sampleKernel where
  hApart := sampleTable_keepsPagesApart
  hFile log := ⟨300, sampleTable_servesFile log⟩
  hMaps log history mapSize buffer := by
    unfold sampleTable
    dsimp only
    split_ifs with hSmall
    · exact ⟨fun hStatus => absurd hStatus (by decide),
        fun _ => by decide⟩
    · exact ⟨fun _ => BitVec.not_lt.mp hSmall,
        fun hStatus => absurd hStatus (by decide)⟩

theorem efi_main_keepsKernel_sample :
    ∃ calls pages,
      KernelInMemory sampleKernel
        (efi_main sampleTable 0 emptyMain).2.machine.mem
        calls pages := by
  have hNothing : PagesKept emptyMain.log [] :=
    ⟨rfl, List.Pairwise.nil⟩
  have hReturned :
      (efi_main sampleTable 0 emptyMain).1 =
        .returned EFI_SUCCESS := by
    decide +kernel
  rcases
      efi_main_keepsKernel sampleKernel_encodable
        (by rw [length_sampleKernel_file]; decide)
        sampleTable_servesKernel hNothing 0 (by decide +kernel)
        hReturned with
    ⟨calls, pages, hKernel, _⟩
  exact ⟨calls, pages, hKernel⟩

end Main

end Chihuahua
