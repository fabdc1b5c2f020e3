import Chihuahua.Machine.Resources
import Chihuahua.Machine.Stores

/-
  The firmware as the boot loader sees it: every call is
  answered in any way, which may depend on all that happened
  before.

  Main declarations:
    * `EFI_ERROR` and the status codes
    * `FirmwareEvent` and `Firmware`
    * `BootState` and the calls of the firmware
    * `poolAction`, `fileAction` and `pageAction`
-/

------------------------------------------------------------
-- Status Codes
------------------------------------------------------------

namespace Chihuahua

namespace KernelReader

open ByteMachine

abbrev EfiStatus := BitVec 64

/- A status is an error if it is negative as an integer. -/
def EFI_ERROR (status : EfiStatus) : Bool :=
  status.msb

def EFIERR (a : EfiStatus) : EfiStatus :=
  0x8000000000000000 ||| a

def EFI_SUCCESS : EfiStatus := 0

def EFI_BUFFER_TOO_SMALL : EfiStatus := EFIERR 5

def EFI_WRITE_PROTECTED : EfiStatus := EFIERR 8

def EFI_VOLUME_CORRUPTED : EfiStatus := EFIERR 10

def EFI_NO_MEDIA : EfiStatus := EFIERR 12

def EFI_MEDIA_CHANGED : EfiStatus := EFIERR 13

def EFI_NOT_FOUND : EfiStatus := EFIERR 14

def EFI_ACCESS_DENIED : EfiStatus := EFIERR 15

def EFI_PAGE_SIZE : Nat := 4096

------------------------------------------------------------
-- Calls and Answers
------------------------------------------------------------

/- The protocols `getVolume` asks for. -/
inductive EfiProtocol where
| loadedImage
| simpleFileSystem
deriving DecidableEq, Repr

/-
  What happened between the boot loader and the firmware,
  with the answers. `useInfo` is the boot loader's own look
  at the file information, `print` its call of `Log::print`,
  and no call of `freePages` is made anywhere in the loader.
-/
inductive FirmwareEvent where
| handleProtocol
    (protocol : EfiProtocol)
    (status : EfiStatus)
| openVolume (status : EfiStatus)
| openFile
    (status : EfiStatus)
    (file : Addr)
| closeFile (file : Addr)
| allocatePool
    (size : BitVec 64)
    (status : EfiStatus)
    (buffer : Addr)
| freePool (buffer : Addr)
| getInfo
    (bufferSize : BitVec 64)
    (buffer : Addr)
    (status : EfiStatus)
| useInfo (buffer : Addr)
| allocatePages
    (pages : BitVec 64)
    (status : EfiStatus)
    (address : Addr)
| freePages (address : Addr)
| readFile
    (buffer : Addr)
    (status : EfiStatus)
    (size : BitVec 64)
| print (str : String)
deriving DecidableEq, Repr

/- The events so far, the latest first. -/
abbrev History := List FirmwareEvent

/- A status, and an address that is left in an output. -/
structure AddressAnswer where
  status : EfiStatus
  address : Addr

/- The size that is written or wanted, and the bytes. -/
structure InfoAnswer where
  status : EfiStatus
  bufferSize : BitVec 64
  content : Nat → Byte

/- The member `FileSize` of an `EFI_FILE_INFO` in memory. -/
def EFI_FILE_INFO.FileSize
    (m : Memory)
    (fileInfo : Addr) : BitVec 64 :=
  m.load64 (fileInfo + 8)

/- The members `Size` and `FileSize` of a record, in order. -/
def EFI_FILE_INFO.content
    (size fileSize : BitVec 64) : Nat → Byte :=
  fun i => (fileSize ++ size).extractLsb' (8 * i) 8

/- The information about `kernel.elf`, of 80 bytes and a name. -/
def InfoAnswer.ofFileSize
    (fileSize : BitVec 64) : InfoAnswer where
  status := EFI_SUCCESS
  bufferSize := 102
  content := EFI_FILE_INFO.content 102 fileSize

/- The number of bytes read, and the bytes. -/
structure ReadAnswer where
  status : EfiStatus
  size : BitVec 64
  content : Nat → Byte

/- The answers of the firmware, after any history. -/
structure Firmware where
  handleProtocol : History → EfiProtocol → EfiStatus
  openVolume : History → EfiStatus
  openFile : History → AddressAnswer
  allocatePool : History → BitVec 64 → AddressAnswer
  getInfo : History → BitVec 64 → Addr → InfoAnswer
  allocatePages : History → BitVec 64 → AddressAnswer
  readFile : History → BitVec 64 → Addr → ReadAnswer

/- The values of `KernelLoadError`. -/
inductive KernelLoadError where
| FileReadSuccess
| FileReadVolumeNotFound
| FileReadKernelNotFound
| FileReadAccessDenied
| FileReadVolumeCorrupted
| FileReadUnknownError
deriving DecidableEq, Repr

/- Memory, the events so far, and the caller's `*error`. -/
structure BootState where
  machine : Machine
  history : History
  error : KernelLoadError

namespace BootState

variable (s : BootState)

def setError (error : KernelLoadError) : BootState :=
  { s with error := error }

def record (event : FirmwareEvent) : BootState :=
  { s with history := event :: s.history }

/- `HandleProtocol`, of which only the status matters. -/
def handleProtocol
    (firmware : Firmware)
    (protocol : EfiProtocol) : EfiStatus × BootState :=
  let status := firmware.handleProtocol s.history protocol
  (status, s.record (.handleProtocol protocol status))

def openVolume
    (firmware : Firmware) : EfiStatus × BootState :=
  let status := firmware.openVolume s.history
  (status, s.record (.openVolume status))

def openFile
    (firmware : Firmware) : AddressAnswer × BootState :=
  let answer := firmware.openFile s.history
  (answer, s.record (.openFile answer.status answer.address))

def closeFile (file : Addr) : BootState :=
  s.record (.closeFile file)

@[simp] theorem closeFile_error (file : Addr) :
    (s.closeFile file).error = s.error := rfl

@[simp] theorem closeFile_history (file : Addr) :
    (s.closeFile file).history =
      .closeFile file :: s.history := rfl

def allocatePool
    (firmware : Firmware)
    (size : BitVec 64) : AddressAnswer × BootState :=
  let answer := firmware.allocatePool s.history size
  (answer,
    s.record
      (.allocatePool size answer.status answer.address))

/- The status of `FreePool` is ignored everywhere. -/
def freePool (buffer : Addr) : BootState :=
  s.record (.freePool buffer)

/-
  The firmware itself writes the information, unless it
  answers with an error.
-/
def getInfo
    (firmware : Firmware)
    (bufferSize : BitVec 64)
    (buffer : Addr) : InfoAnswer × BootState :=
  let answer := firmware.getInfo s.history bufferSize buffer
  let block : Block :=
    { base := buffer
      size :=
        if EFI_ERROR answer.status then 0
        else answer.bufferSize.toNat
      content := answer.content }
  (answer,
    { s with
      machine :=
        { s.machine with mem := s.machine.mem.paint block }
      history :=
        .getInfo bufferSize buffer answer.status ::
          s.history })

def useInfo (buffer : Addr) : BootState :=
  s.record (.useInfo buffer)

def allocatePages
    (firmware : Firmware)
    (pages : BitVec 64) : AddressAnswer × BootState :=
  let answer := firmware.allocatePages s.history pages
  (answer,
    s.record
      (.allocatePages pages answer.status answer.address))

/- The firmware itself writes the bytes it has read. -/
def readFile
    (firmware : Firmware)
    (size : BitVec 64)
    (buffer : Addr) : ReadAnswer × BootState :=
  let answer := firmware.readFile s.history size buffer
  let block : Block :=
    { base := buffer
      size := answer.size.toNat
      content := answer.content }
  (answer,
    { s with
      machine :=
        { s.machine with mem := s.machine.mem.paint block }
      history :=
        .readFile buffer answer.status answer.size ::
          s.history })

/- `Log::print`, whose status is ignored here. -/
def print (str : String) : BootState :=
  s.record (.print str)

@[simp] theorem print_error (str : String) :
    (s.print str).error = s.error := rfl

@[simp] theorem print_history (str : String) :
    (s.print str).history = .print str :: s.history := rfl

end BootState

------------------------------------------------------------
-- Resources
------------------------------------------------------------

open Resources

/- What an event does to the buffers of the pool. -/
def poolAction : FirmwareEvent → List (Action Addr)
| .allocatePool size status buffer =>
    if EFI_ERROR status then []
    else [.acquire buffer size.toNat]
| .freePool buffer => [.release buffer]
| .getInfo bufferSize buffer _ =>
    [.access buffer bufferSize.toNat]
| .useInfo buffer => [.access buffer 0]
| _ => []

/- What it does to the files that are open. -/
def fileAction : FirmwareEvent → List (Action Addr)
| .openFile status file =>
    if EFI_ERROR status then [] else [.acquire file 0]
| .closeFile file => [.release file]
| _ => []

/- What it does to the ranges of pages. -/
def pageAction : FirmwareEvent → List (Action Addr)
| .allocatePages pages status address =>
    if EFI_ERROR status then []
    else [.acquire address pages.toNat]
| .freePages address => [.release address]
| _ => []

/- The actions of a history, the latest first. -/
def actions
    (action : FirmwareEvent → List (Action Addr))
    (history : History) : List (Action Addr) :=
  history.flatMap action

@[simp] theorem actions_nil
    (action : FirmwareEvent → List (Action Addr)) :
    actions action [] = [] := rfl

@[simp] theorem actions_cons
    (action : FirmwareEvent → List (Action Addr))
    (event : FirmwareEvent)
    (history : History) :
    actions action (event :: history) =
      action event ++ actions action history := rfl

theorem actions_append
    (action : FirmwareEvent → List (Action Addr))
    (later earlier : History) :
    actions action (later ++ earlier) =
      actions action later ++ actions action earlier :=
  List.flatMap_append

end KernelReader

end Chihuahua
