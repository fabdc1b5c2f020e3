import Chihuahua.Bootloader.KernelReader
import Chihuahua.Bootloader.ReadFile

/-
  The whole of `readKernel`: the volume, the file, and the
  image in it. What it returns and what it reports.

  Main declarations:
    * `getVolume`, `kernelCallback` and `readKernel`
    * `KernelOutcome` and `readKernel_outcome`
    * `AllSucceed` and `ReportsOutcome`
    * `reportsOutcome_iff`
-/

------------------------------------------------------------
-- The Source
------------------------------------------------------------

namespace Chihuahua

namespace KernelReader

open ByteMachine Elf

structure KernelElfInfo where
  PhysicalAddress : BitVec 64
  EntryPointVirtualAddress : BitVec 64
deriving DecidableEq, Repr

def INVALID_KERNEL_ELF_INFO : KernelElfInfo where
  PhysicalAddress := 0
  EntryPointVirtualAddress := 0

/- The result is the value of `isSuccessful`. -/
def getVolume
    (firmware : Firmware)
    (s : BootState) : Bool × BootState :=
  let (status, s) := s.handleProtocol firmware .loadedImage
  if EFI_ERROR status then
    (false, s)
  else
    let (status, s) :=
      s.handleProtocol firmware .simpleFileSystem
    if EFI_ERROR status then
      (false, s)
    else
      let (status, s) := s.openVolume firmware
      if EFI_ERROR status then
        (false, s)
      else
        (true, s)

/- The switch over the status of `Open`. -/
def openError (status : EfiStatus) : KernelLoadError :=
  if status = EFI_NO_MEDIA ∨
      status = EFI_MEDIA_CHANGED ∨
      status = EFI_NOT_FOUND then
    .FileReadKernelNotFound
  else if status = EFI_VOLUME_CORRUPTED then
    .FileReadVolumeCorrupted
  else if status = EFI_WRITE_PROTECTED ∨
      status = EFI_ACCESS_DENIED then
    .FileReadAccessDenied
  else
    .FileReadUnknownError

/- The division is one of integers of 32 bits. -/
def callbackPages (bufferSize : Int) : BitVec 64 :=
  ((BitVec.ofInt 32 bufferSize +
      BitVec.ofNat 32 EFI_PAGE_SIZE - 1).sdiv
    (BitVec.ofNat 32 EFI_PAGE_SIZE)).signExtend 64

/- The events of the callback, which follow from its calls. -/
def callbackHistory
    (firmware : Firmware)
    (history : History) : List LoaderCall → History
| [] => history
| call :: calls =>
    let history := callbackHistory firmware history calls
    let pages := callbackPages call.memorySize
    let answer := firmware.allocatePages history pages
    .allocatePages pages answer.status answer.address ::
      history

/- The callback of both loops. -/
def kernelCallback
    (firmware : Firmware)
    (history : History) : LoaderFunction :=
  fun calls bufferSize _ _ =>
    let answer :=
      firmware.allocatePages
        (callbackHistory firmware history calls)
        (callbackPages bufferSize)
    if EFI_ERROR answer.status then 0 else answer.address

def kernelLoader (kernelFileInfo : ReadFileInfo) : ElfLoader
    where
  elfFile := kernelFileInfo.Buffer
  elfFileSize := kernelFileInfo.BufferSize

/- The state in which the loops start. -/
def imageStart (s : BootState) : LoaderState where
  machine := s.machine
  calls := []

/- What `checkElf` finds on its own is only printed. -/
def elfChecked
    (kernelFileInfo : ReadFileInfo)
    (s : BootState) : BootState :=
  if (kernelLoader kernelFileInfo).checkElf s.machine.mem ≠
      .NoError then
    s.print
      "Failed to load kernel: ELF header is corrupt.\r\n"
  else s

/- The loops over the file that was read. -/
def kernelImage
    (firmware : Firmware)
    (kernelFileInfo : ReadFileInfo)
    (s : BootState) : KernelImage :=
  readKernelImage (kernelLoader kernelFileInfo)
    (kernelCallback firmware s.history) (imageStart s)

/- The state in which they end. -/
def imageLoaded
    (firmware : Firmware)
    (kernelFileInfo : ReadFileInfo)
    (s : BootState) : BootState :=
  let image := kernelImage firmware kernelFileInfo s
  { s with
    machine := image.state.machine
    history :=
      callbackHistory firmware s.history image.state.calls }

namespace KernelImage

/- One of the loops has returned early. -/
def Fails (image : KernelImage) : Prop :=
  ∃ error ∈ image.segmentErrors ++ image.sectionErrors,
    LoadFailed error

instance (image : KernelImage) : Decidable image.Fails := by
  unfold Fails
  infer_instance

end KernelImage

/- What both loops print before they return early. -/
def loopFailure : String :=
  "Failed to load program header with index \x7b?\x7d! " ++
    "Boot failed\r\n"

/- The states in which `readKernel` calls its parts. -/
def volumeFound
    (firmware : Firmware)
    (s : BootState) : Bool × BootState :=
  getVolume firmware (s.setError .FileReadUnknownError)

def fileOpened
    (firmware : Firmware)
    (s : BootState) : AddressAnswer × BootState :=
  (volumeFound firmware s).2.openFile firmware

def fileRead
    (firmware : Firmware)
    (s : BootState) : ReadFileInfo × BootState :=
  readFile firmware (fileOpened firmware s).2

def fileChecked
    (firmware : Firmware)
    (s : BootState) : BootState :=
  elfChecked (fileRead firmware s).1 (fileRead firmware s).2

def readKernel
    (firmware : Firmware)
    (s : BootState) : KernelElfInfo × BootState :=
  let (isSuccessful, t) := volumeFound firmware s
  if ¬ isSuccessful then
    (INVALID_KERNEL_ELF_INFO, t)
  else
    let (file, t) := fileOpened firmware s
    if EFI_ERROR file.status then
      (INVALID_KERNEL_ELF_INFO,
        t.setError (openError file.status))
    else
      let (kernelFileInfo, t) := fileRead firmware s
      if kernelFileInfo.BufferSize = 0 then
        (INVALID_KERNEL_ELF_INFO, t)
      else
        let t := fileChecked firmware s
        let loaded := imageLoaded firmware kernelFileInfo t
        if (kernelImage firmware kernelFileInfo t).Fails then
          (INVALID_KERNEL_ELF_INFO, loaded.print loopFailure)
        else
          (INVALID_KERNEL_ELF_INFO,
            loaded.closeFile file.address)

------------------------------------------------------------
-- Ways to Return
------------------------------------------------------------

/- The file has been opened. -/
structure Opened
    (firmware : Firmware)
    (s : BootState) : Prop where
  hVolume : (volumeFound firmware s).1 = true
  hOpen : EFI_ERROR (fileOpened firmware s).1.status = false

/- The image of the file that `readKernel` has read. -/
def imageRead
    (firmware : Firmware)
    (s : BootState) : KernelImage :=
  kernelImage firmware (fileRead firmware s).1
    (fileChecked firmware s)

def kernelLoaded
    (firmware : Firmware)
    (s : BootState) : BootState :=
  imageLoaded firmware (fileRead firmware s).1
    (fileChecked firmware s)

theorem kernelLoaded_history
    (firmware : Firmware)
    (s : BootState) :
    (kernelLoaded firmware s).history =
      callbackHistory firmware (fileChecked firmware s).history
        (imageRead firmware s).state.calls := by
  simp only [kernelLoaded, imageLoaded, imageRead]

/- The check reads the file, and prints at most. -/
theorem fileChecked_eq
    (firmware : Firmware)
    (s : BootState) :
    ∃ events : History,
      fileChecked firmware s =
          { (fileRead firmware s).2 with
            history :=
              events ++ (fileRead firmware s).2.history } ∧
        ∀ event ∈ events, ∃ str, event = .print str := by
  unfold fileChecked elfChecked
  split_ifs
  · exact
      ⟨[.print _], rfl,
        List.forall_mem_singleton.mpr ⟨_, rfl⟩⟩
  · exact ⟨[], rfl, List.forall_mem_nil _⟩

@[simp] theorem fileChecked_machine
    (firmware : Firmware)
    (s : BootState) :
    (fileChecked firmware s).machine =
      (fileRead firmware s).2.machine := by
  obtain ⟨events, hEvents, _⟩ := fileChecked_eq firmware s
  rw [hEvents]

@[simp] theorem fileChecked_error
    (firmware : Firmware)
    (s : BootState) :
    (fileChecked firmware s).error =
      (fileRead firmware s).2.error := by
  obtain ⟨events, hEvents, _⟩ := fileChecked_eq firmware s
  rw [hEvents]

theorem kernelLoaded_error
    (firmware : Firmware)
    (s : BootState) :
    (kernelLoaded firmware s).error =
      (fileRead firmware s).2.error := by
  simp only [kernelLoaded, imageLoaded, fileChecked_error]

/- What `readKernel` can do. -/
inductive KernelOutcome
    (firmware : Firmware)
    (s : BootState) : KernelElfInfo × BootState → Prop where
| noVolume
    (hVolume : (volumeFound firmware s).1 = false) :
    KernelOutcome firmware s
      (INVALID_KERNEL_ELF_INFO, (volumeFound firmware s).2)
| notOpened
    (hOpen :
      EFI_ERROR (fileOpened firmware s).1.status = true) :
    KernelOutcome firmware s
      (INVALID_KERNEL_ELF_INFO,
        (fileOpened firmware s).2.setError
          (openError (fileOpened firmware s).1.status))
| notRead
    (hOpened : Opened firmware s)
    (hRead : (fileRead firmware s).1.BufferSize = 0) :
    KernelOutcome firmware s
      (INVALID_KERNEL_ELF_INFO, (fileRead firmware s).2)
| notLoaded
    (hOpened : Opened firmware s)
    (hRead : (fileRead firmware s).1.BufferSize ≠ 0)
    (hFails : (imageRead firmware s).Fails) :
    KernelOutcome firmware s
      (INVALID_KERNEL_ELF_INFO,
        (kernelLoaded firmware s).print loopFailure)
| loaded
    (hOpened : Opened firmware s)
    (hRead : (fileRead firmware s).1.BufferSize ≠ 0)
    (hLoads : ¬ (imageRead firmware s).Fails) :
    KernelOutcome firmware s
      (INVALID_KERNEL_ELF_INFO,
        (kernelLoaded firmware s).closeFile
          (fileOpened firmware s).1.address)

theorem readKernel_outcome
    (firmware : Firmware)
    (s : BootState) :
    KernelOutcome firmware s (readKernel firmware s) := by
  unfold readKernel
  dsimp only
  split_ifs with hVolume hOpen hRead hFails
  · exact .notOpened hOpen
  · exact
      .notRead
        ⟨hVolume, Bool.eq_false_of_not_eq_true hOpen⟩ hRead
  · exact
      .notLoaded
        ⟨hVolume, Bool.eq_false_of_not_eq_true hOpen⟩ hRead
        hFails
  · exact
      .loaded
        ⟨hVolume, Bool.eq_false_of_not_eq_true hOpen⟩ hRead
        hFails
  · exact .noVolume (Bool.eq_false_of_not_eq_true hVolume)

------------------------------------------------------------
-- What Is Reported
------------------------------------------------------------

/- The field `EntryPoint` of the ELF header at an address. -/
def readEntryPoint (m : Memory) (a : Addr) : Elf64_Addr :=
  m.load64 (a + 24)

/- Every step of `readKernel` is a success. -/
structure AllSucceed
    (firmware : Firmware)
    (s : BootState) : Prop where
  hOpened : Opened firmware s
  hRead : (fileRead firmware s).1.BufferSize ≠ 0
  hElf :
    (kernelLoader (fileRead firmware s).1).checkElf
        (fileRead firmware s).2.machine.mem =
      .NoError
  hProgHeaders :
    (imageRead firmware s).progHeaders.error = .NoError
  hSectionHeaders :
    (imageRead firmware s).sectionHeaders.map
        ElfLoader.HeaderTable.error =
      some .NoError
  hLoads : ¬ (imageRead firmware s).Fails

/-
  The error is `FileReadSuccess`, and the returned info is
  valid and has the entry point of the file, exactly when
  every step is a success.
-/
structure ReportsOutcome
    (firmware : Firmware)
    (s : BootState) : Prop where
  hError :
    (readKernel firmware s).2.error = .FileReadSuccess ↔
      AllSucceed firmware s
  hInfo :
    (readKernel firmware s).1 ≠ INVALID_KERNEL_ELF_INFO ∧
        (readKernel firmware s).1.EntryPointVirtualAddress =
          readEntryPoint (fileRead firmware s).2.machine.mem
            (fileRead firmware s).1.Buffer ↔
      AllSucceed firmware s

theorem readKernel_info
    (firmware : Firmware)
    (s : BootState) :
    (readKernel firmware s).1 = INVALID_KERNEL_ELF_INFO := by
  have hOutcome := readKernel_outcome firmware s
  generalize
    readKernel firmware s = result at hOutcome ⊢
  cases hOutcome <;> rfl

theorem getVolume_error
    (firmware : Firmware)
    (s : BootState) :
    (getVolume firmware s).2.error = s.error := by
  unfold getVolume
  dsimp only
  split_ifs <;> rfl

theorem openError_ne_success (status : EfiStatus) :
    openError status ≠ .FileReadSuccess := by
  unfold openError
  split_ifs <;> exact nofun

/- Nothing in `readKernel` stores `FileReadSuccess`. -/
theorem readKernel_error_ne_success
    (firmware : Firmware)
    (s : BootState) :
    (readKernel firmware s).2.error ≠ .FileReadSuccess := by
  have hOutcome := readKernel_outcome firmware s
  have hRead :
      (fileRead firmware s).2.error ≠ .FileReadSuccess := by
    unfold fileRead
    exact readFile_error_ne_success firmware _
  generalize
    readKernel firmware s = result at hOutcome ⊢
  cases hOutcome with
  | noVolume _ =>
      have hError :
          (volumeFound firmware s).2.error =
            .FileReadUnknownError :=
        getVolume_error firmware _
      rw [hError]
      exact nofun
  | notOpened _ => exact openError_ne_success _
  | notRead _ _ => exact hRead
  | notLoaded _ _ _ =>
      dsimp only
      rw [BootState.print_error, kernelLoaded_error]
      exact hRead
  | loaded _ _ _ =>
      dsimp only
      rw [BootState.closeFile_error, kernelLoaded_error]
      exact hRead

/-
  Every run is reported as a failure, so the report is right
  exactly when some step fails.
-/
theorem reportsOutcome_iff
    (firmware : Firmware)
    (s : BootState) :
    ReportsOutcome firmware s ↔ ¬ AllSucceed firmware s := by
  have hError := readKernel_error_ne_success firmware s
  have hInfo := readKernel_info firmware s
  constructor
  · intro hReports hSucceed
    exact hError (hReports.hError.mpr hSucceed)
  · intro hFails
    refine ⟨iff_of_false hError hFails, ?_⟩
    refine iff_of_false ?_ hFails
    exact fun hValid => hValid.1 hInfo

/- Firmware that returns a file of a header and zeros. -/
def bareFirmware (elfHeader : List Byte) : Firmware where
  handleProtocol _ _ := EFI_SUCCESS
  openVolume _ := EFI_SUCCESS
  openFile _ := ⟨EFI_SUCCESS, 0x1000⟩
  allocatePool _ _ := ⟨EFI_SUCCESS, 0x2000⟩
  getInfo _ _ _ := .ofFileSize 128
  allocatePages _ _ := ⟨EFI_SUCCESS, 0x3000⟩
  readFile _ _ _ :=
    ⟨EFI_SUCCESS, 128, fun i => elfHeader.getD i 0⟩

/- Before `readKernel`, which sets the error first. -/
def kernelStart
    (machine : Machine)
    (error : KernelLoadError) : BootState where
  machine := machine
  history := []
  error := error

def emptyStart : BootState :=
  kernelStart
    { mem := fun _ => 0
      stores := [] }
    .FileReadUnknownError

/- A file with two empty tables is loaded without an error. -/
theorem reportsOutcome_fails :
    ¬ ReportsOutcome (bareFirmware (sampleElfHeader 64 0))
      emptyStart := by
  intro hReports
  have hSucceed :
      AllSucceed (bareFirmware (sampleElfHeader 64 0))
        emptyStart :=
    { hOpened := ⟨by decide +kernel, by decide +kernel⟩
      hRead := by decide +kernel
      hElf := by decide +kernel
      hProgHeaders := by decide +kernel
      hSectionHeaders := by decide +kernel
      hLoads := by decide +kernel }
  have hError :=
    readKernel_error_ne_success
      (bareFirmware (sampleElfHeader 64 0)) emptyStart
  exact hError (hReports.hError.mpr hSucceed)

end KernelReader

end Chihuahua
