import Chihuahua.Bootloader.Firmware
import Chihuahua.Machine.Selection

/-
  The choice of a graphics mode.

  The loop over the modes keeps the one it likes best, and
  what it likes is a measure of the modes: it ends with the
  first mode that has the least measure.

  Main declarations:
    * `EfiGraphicsOutputProtocol` and `FramebufferInfo`
    * `considerMode` and `setAppropriateFramebuffer`
    * `candidates` and `settleOn`
    * `setAppropriateFramebuffer_settles`
-/

------------------------------------------------------------
-- The Graphics Protocol
------------------------------------------------------------

namespace Chihuahua

namespace Gop

open ByteMachine KernelReader Selection

inductive EfiGraphicsPixelFormat where
| PixelRedGreenBlueReserved8BitPerColor
| PixelBlueGreenRedReserved8BitPerColor
| PixelBitMask
| PixelBltOnly
| PixelFormatMax
deriving DecidableEq, Repr

open EfiGraphicsPixelFormat

structure EfiGraphicsOutputModeInformation where
  HorizontalResolution : BitVec 32
  VerticalResolution : BitVec 32
  PixelFormat : EfiGraphicsPixelFormat
  PixelsPerScanLine : BitVec 32
deriving DecidableEq, Repr

/- A pointer to mode information, and what is there. -/
structure ModeBuffer where
  address : Addr
  info : EfiGraphicsOutputModeInformation
deriving DecidableEq, Repr

structure EfiGraphicsOutputProtocolMode where
  MaxMode : BitVec 32
  Mode : BitVec 32
  Info : ModeBuffer

structure QueryAnswer where
  status : EfiStatus
  Info : ModeBuffer

/-
  The answers of the firmware, for each mode number.

  `QueryMode` leaves the information in a buffer it has
  allocated, so never in the one of the current mode.
-/
structure EfiGraphicsOutputProtocol where
  QueryMode : BitVec 32 → QueryAnswer
  SetMode : BitVec 32 → EfiStatus
  Mode : EfiGraphicsOutputProtocolMode
  hAllocates :
    ∀ i, EFI_ERROR (QueryMode i).status = false →
      (QueryMode i).Info.address ≠ Mode.Info.address

structure FramebufferInfo where
  Width : BitVec 32
  Height : BitVec 32
  BytesPerRow : BitVec 32
  isRgb : Bool
deriving DecidableEq, Repr

def INVALID_FRAMEBUFFER_INFO : FramebufferInfo where
  Width := 0
  Height := 0
  BytesPerRow := 0
  isRgb := false

/-
  The caller's `*fbInfo`, the mode the screen is in, and the
  mode number that was passed to `SetMode`, if any was.
-/
structure GopState where
  fbInfo : FramebufferInfo
  activeMode : EfiGraphicsOutputModeInformation
  passedToSetMode : Option (BitVec 32)
deriving DecidableEq, Repr

namespace GopState

/- Before the call, with any old content in `*fbInfo`. -/
def start
    (gop : EfiGraphicsOutputProtocol)
    (fbInfo : FramebufferInfo) : GopState where
  fbInfo := fbInfo
  activeMode := gop.Mode.Info.info
  passedToSetMode := none

def setFbInfo
    (s : GopState)
    (fbInfo : FramebufferInfo) : GopState :=
  { s with fbInfo := fbInfo }

/- Without an error, the mode is changed to that mode. -/
def SetMode
    (gop : EfiGraphicsOutputProtocol)
    (modeNumber : BitVec 32)
    (s : GopState) : EfiStatus × GopState :=
  let status := gop.SetMode modeNumber
  (status,
    { s with
      passedToSetMode := some modeNumber
      activeMode :=
        if EFI_ERROR status then s.activeMode
        else (gop.QueryMode modeNumber).Info.info })

end GopState

------------------------------------------------------------
-- The Choice
------------------------------------------------------------

/-
  The preferred sizes minus the sizes of a mode. The
  difference is taken without sign, and read as an `int`.
-/
def deviation
    (preferredWidth preferredHeight : BitVec 32)
    (info : EfiGraphicsOutputModeInformation) :
    BitVec 32 × BitVec 32 :=
  (preferredWidth - info.HorizontalResolution,
    preferredHeight - info.VerticalResolution)

/- `__builtin_abs` of the sum, as an unsigned number. -/
def deviationTotal
    (deviation : BitVec 32 × BitVec 32) : BitVec 32 :=
  (deviation.1 + deviation.2).abs

/- The formats the loop does not skip. -/
def SupportedFormat
    (format : EfiGraphicsPixelFormat) : Prop :=
  format = PixelBlueGreenRedReserved8BitPerColor ∨
    format = PixelRedGreenBlueReserved8BitPerColor

instance : DecidablePred SupportedFormat :=
  fun format =>
    inferInstanceAs
      (Decidable
        (format = PixelBlueGreenRedReserved8BitPerColor ∨
          format = PixelRedGreenBlueReserved8BitPerColor))

/- The variables of the loop. -/
structure BestMode where
  bestModeInfo : ModeBuffer
  bestDeviation : BitVec 32 × BitVec 32
  bestModeIndex : BitVec 32
deriving DecidableEq, Repr

/- The body of the loop. -/
def considerMode
    (gop : EfiGraphicsOutputProtocol)
    (preferredWidth preferredHeight : BitVec 32)
    (best : BestMode)
    (i : BitVec 32) : BestMode :=
  let answer := gop.QueryMode i
  if EFI_ERROR answer.status then
    best
  else if ¬ SupportedFormat answer.Info.info.PixelFormat then
    best
  else
    let thisDeviation :=
      deviation preferredWidth preferredHeight
        answer.Info.info
    if deviationTotal thisDeviation <
        deviationTotal best.bestDeviation then
      { bestModeInfo := answer.Info
        bestDeviation := thisDeviation
        bestModeIndex := i }
    else
      best

/- The format of the current mode is not looked at. -/
def initialMode
    (gop : EfiGraphicsOutputProtocol)
    (preferredWidth preferredHeight : BitVec 32) :
    BestMode where
  bestModeInfo := gop.Mode.Info
  bestDeviation :=
    deviation preferredWidth preferredHeight
      gop.Mode.Info.info
  bestModeIndex := gop.Mode.Mode

def modeNumbers
    (gop : EfiGraphicsOutputProtocol) : List (BitVec 32) :=
  (List.range gop.Mode.MaxMode.toNat).map (BitVec.ofNat 32)

def findBestMode
    (gop : EfiGraphicsOutputProtocol)
    (preferredWidth preferredHeight : BitVec 32) :
    BestMode :=
  (modeNumbers gop).foldl
    (considerMode gop preferredWidth preferredHeight)
    (initialMode gop preferredWidth preferredHeight)

/- `BytesPerRow` gets the number of pixels of a line. -/
def framebufferOf
    (info : EfiGraphicsOutputModeInformation) :
    FramebufferInfo where
  Width := info.HorizontalResolution
  Height := info.VerticalResolution
  BytesPerRow := info.PixelsPerScanLine
  isRgb :=
    info.PixelFormat = PixelRedGreenBlueReserved8BitPerColor

def setAppropriateFramebuffer
    (gop : EfiGraphicsOutputProtocol)
    (preferredWidth preferredHeight : BitVec 32)
    (s : GopState) : Bool × GopState :=
  let s := s.setFbInfo INVALID_FRAMEBUFFER_INFO
  let best := findBestMode gop preferredWidth preferredHeight
  let s := s.setFbInfo (framebufferOf best.bestModeInfo.info)
  if best.bestModeInfo.address = gop.Mode.Info.address then
    (true, s)
  else
    let (status, s) := s.SetMode gop best.bestModeIndex
    (!EFI_ERROR status, s)

------------------------------------------------------------
-- The Candidates
------------------------------------------------------------

/-
  A mode that can be chosen: the current one, which has no
  number here as it is not passed to `SetMode`, or one of
  the modes that were queried.
-/
structure Candidate where
  index : Option (BitVec 32)
  info : EfiGraphicsOutputModeInformation
deriving DecidableEq, Repr

def currentCandidate
    (gop : EfiGraphicsOutputProtocol) : Candidate where
  index := none
  info := gop.Mode.Info.info

def queriedCandidate
    (gop : EfiGraphicsOutputProtocol)
    (i : BitVec 32) : Option Candidate :=
  if EFI_ERROR (gop.QueryMode i).status = false ∧
      SupportedFormat
        (gop.QueryMode i).Info.info.PixelFormat then
    some
      { index := some i
        info := (gop.QueryMode i).Info.info }
  else
    none

/- The current mode, then the others in the order queried. -/
def candidates
    (gop : EfiGraphicsOutputProtocol) : List Candidate :=
  currentCandidate gop ::
    (modeNumbers gop).filterMap (queriedCandidate gop)

/- The measure the loop goes by. -/
def Candidate.total
    (preferredWidth preferredHeight : BitVec 32)
    (c : Candidate) : Nat :=
  (deviationTotal
    (deviation preferredWidth preferredHeight c.info)).toNat

/- The mode a number stands for. -/
def modeOf
    (gop : EfiGraphicsOutputProtocol)
    (index : Option (BitVec 32)) :
    EfiGraphicsOutputModeInformation :=
  match index with
  | none => gop.Mode.Info.info
  | some i => (gop.QueryMode i).Info.info

/- The candidate can be kept, or switched to. -/
def Candidate.TakesEffect
    (gop : EfiGraphicsOutputProtocol)
    (c : Candidate) : Prop :=
  match c.index with
  | none => True
  | some i => EFI_ERROR (gop.SetMode i) = false

/- What is left to do once a candidate is chosen. -/
def settleOn
    (gop : EfiGraphicsOutputProtocol)
    (c : Candidate)
    (s : GopState) : Bool × GopState :=
  let s := s.setFbInfo (framebufferOf c.info)
  match c.index with
  | none => (true, s)
  | some i =>
      let (status, s) := s.SetMode gop i
      (!EFI_ERROR status, s)

theorem queriedCandidate_eq_some
    {gop : EfiGraphicsOutputProtocol}
    {i : BitVec 32}
    {c : Candidate}
    (hQueried : queriedCandidate gop i = some c) :
    EFI_ERROR (gop.QueryMode i).status = false ∧
      c.index = some i ∧
      c.info = (gop.QueryMode i).Info.info ∧
      SupportedFormat c.info.PixelFormat := by
  unfold queriedCandidate at hQueried
  split_ifs at hQueried with hAnswer
  rw [← Option.some.inj hQueried]
  exact ⟨hAnswer.1, rfl, rfl, hAnswer.2⟩

theorem info_eq_modeOf
    {gop : EfiGraphicsOutputProtocol}
    {c : Candidate}
    (hMem : c ∈ candidates gop) :
    c.info = modeOf gop c.index := by
  rcases List.mem_cons.mp hMem with rfl | hQueried
  · rfl
  · obtain ⟨i, _, hSome⟩ := List.mem_filterMap.mp hQueried
    obtain ⟨_, hIndex, hInfo, _⟩ :=
      queriedCandidate_eq_some hSome
    rw [hIndex, hInfo]
    rfl

------------------------------------------------------------
-- The Loop
------------------------------------------------------------

/-
  The variables of the loop hold a candidate. The buffer of
  the current mode is how the code tells it from the others.
-/
structure Holds
    (gop : EfiGraphicsOutputProtocol)
    (preferredWidth preferredHeight : BitVec 32)
    (best : BestMode)
    (c : Candidate) : Prop where
  hInfo : best.bestModeInfo.info = c.info
  hDeviation :
    best.bestDeviation =
      deviation preferredWidth preferredHeight c.info
  hAddress :
    best.bestModeInfo.address = gop.Mode.Info.address ↔
      c.index = none
  hIndex : ∀ i, c.index = some i → best.bestModeIndex = i

variable {gop : EfiGraphicsOutputProtocol}
variable {preferredWidth preferredHeight : BitVec 32}

theorem holds_initialMode :
    Holds gop preferredWidth preferredHeight
      (initialMode gop preferredWidth preferredHeight)
      (currentCandidate gop) where
  hInfo := rfl
  hDeviation := rfl
  hAddress := Iff.intro (fun _ => rfl) (fun _ => rfl)
  hIndex := by
    intro i hIndex
    cases hIndex

/- A mode that is skipped, or whose measure is compared. -/
theorem considerMode_holds
    {best : BestMode}
    {c : Candidate}
    (hHolds : Holds gop preferredWidth preferredHeight best c)
    (i : BitVec 32) :
    Holds gop preferredWidth preferredHeight
      (considerMode gop preferredWidth preferredHeight best i)
      ((queriedCandidate gop i).elim c
        (prefer
          (Candidate.total preferredWidth preferredHeight)
          c)) := by
  unfold considerMode queriedCandidate
  by_cases hError : EFI_ERROR (gop.QueryMode i).status
  · simpa [hError] using hHolds
  by_cases hFormat :
      SupportedFormat (gop.QueryMode i).Info.info.PixelFormat
  · have hStatus :
        EFI_ERROR (gop.QueryMode i).status = false := by
      simpa using hError
    have hMeasure :
        Candidate.total preferredWidth preferredHeight
            { index := some i
              info := (gop.QueryMode i).Info.info } <
            c.total preferredWidth preferredHeight ↔
          deviationTotal
              (deviation preferredWidth preferredHeight
                (gop.QueryMode i).Info.info) <
            deviationTotal best.bestDeviation := by
      rw [hHolds.hDeviation]
      exact Iff.rfl
    simp only [hStatus, hFormat, not_true_eq_false,
      Bool.false_eq_true, if_false, and_self, if_true,
      Option.elim_some, prefer, hMeasure]
    split_ifs with hLess
    · exact
        { hInfo := rfl
          hDeviation := rfl
          hAddress := by
            simp [gop.hAllocates i hStatus]
          hIndex := fun j hIndex => Option.some.inj hIndex }
    · exact hHolds
  · simpa [hError, hFormat] using hHolds

theorem foldl_considerMode_holds
    {best : BestMode}
    {c : Candidate}
    (hHolds : Holds gop preferredWidth preferredHeight best c)
    (numbers : List (BitVec 32)) :
    Holds gop preferredWidth preferredHeight
      (numbers.foldl
        (considerMode gop preferredWidth preferredHeight)
        best)
      ((numbers.filterMap (queriedCandidate gop)).foldl
        (prefer
          (Candidate.total preferredWidth preferredHeight))
        c) := by
  induction numbers generalizing best c with
  | nil => exact hHolds
  | cons i numbers ih =>
      have hNext := ih (considerMode_holds hHolds i)
      cases hQueried : queriedCandidate gop i with
      | none =>
          rw [List.filterMap_cons_none hQueried]
          rw [hQueried] at hNext
          exact hNext
      | some queried =>
          rw [List.filterMap_cons_some hQueried]
          rw [hQueried] at hNext
          exact hNext

/- The loop ends with the first of the least candidates. -/
theorem findBestMode_holds :
    ∃ c,
      FirstLeast
          (Candidate.total preferredWidth preferredHeight)
          (candidates gop) c ∧
        Holds gop preferredWidth preferredHeight
          (findBestMode gop preferredWidth preferredHeight)
          c := by
  have hFirst :
      FirstLeast
        (Candidate.total preferredWidth preferredHeight)
        [currentCandidate gop] (currentCandidate gop) :=
    ⟨[], [], rfl, by simp, by simp⟩
  exact
    ⟨_,
      foldl_prefer_firstLeast _ hFirst
        ((modeNumbers gop).filterMap (queriedCandidate gop)),
      foldl_considerMode_holds holds_initialMode
        (modeNumbers gop)⟩

/-
  The function settles on the first of the least candidates,
  and on no other one.
-/
theorem setAppropriateFramebuffer_settles
    {c : Candidate}
    (hChosen :
      FirstLeast
        (Candidate.total preferredWidth preferredHeight)
        (candidates gop) c)
    (s : GopState) :
    setAppropriateFramebuffer gop preferredWidth
        preferredHeight s =
      settleOn gop c s := by
  obtain ⟨c', hFirst, hHolds⟩ :=
    @findBestMode_holds gop preferredWidth preferredHeight
  rw [hFirst.unique hChosen] at hHolds
  have hAddress := hHolds.hAddress
  unfold setAppropriateFramebuffer settleOn
  simp only [hHolds.hInfo, hAddress]
  cases hIndex : c.index with
  | none => rfl
  | some i =>
      rw [hHolds.hIndex i hIndex]
      rfl

------------------------------------------------------------
-- The Outcome
------------------------------------------------------------

theorem settleOn_passedToSetMode
    (c : Candidate)
    (fbInfo : FramebufferInfo) :
    (settleOn gop c
        (GopState.start gop fbInfo)).2.passedToSetMode =
      c.index := by
  unfold settleOn
  cases c.index with
  | none => rfl
  | some i => rfl

theorem settleOn_fst
    (c : Candidate)
    (s : GopState) :
    (settleOn gop c s).1 = true ↔ c.TakesEffect gop := by
  unfold settleOn Candidate.TakesEffect
  cases c.index with
  | none => simp
  | some i => simp [GopState.SetMode]

/- The framebuffer is reported before the mode is set. -/
theorem settleOn_fbInfo
    (c : Candidate)
    (s : GopState) :
    (settleOn gop c s).2.fbInfo = framebufferOf c.info := by
  unfold settleOn
  cases c.index with
  | none => rfl
  | some i => rfl

theorem settleOn_activeMode
    {c : Candidate}
    (hMem : c ∈ candidates gop)
    (hEffect : c.TakesEffect gop)
    (fbInfo : FramebufferInfo) :
    (settleOn gop c
        (GopState.start gop fbInfo)).2.activeMode =
      c.info := by
  rw [info_eq_modeOf hMem]
  unfold settleOn
  unfold Candidate.TakesEffect at hEffect
  cases hIndex : c.index with
  | none => rfl
  | some i =>
      rw [hIndex] at hEffect
      simp [GopState.SetMode, modeOf, hEffect]

/- A mode whose lines have no padding. -/
def rgbMode
    (width height : BitVec 32) :
    EfiGraphicsOutputModeInformation where
  HorizontalResolution := width
  VerticalResolution := height
  PixelFormat := PixelRedGreenBlueReserved8BitPerColor
  PixelsPerScanLine := width

/- A firmware that answers from a table of modes. -/
def tableProtocol
    (current : EfiGraphicsOutputModeInformation)
    (modes : List EfiGraphicsOutputModeInformation) :
    EfiGraphicsOutputProtocol where
  QueryMode i :=
    { status := EFI_SUCCESS
      Info :=
        { address := 0x2000
          info := modes.getD i.toNat current } }
  SetMode _ := EFI_SUCCESS
  Mode :=
    { MaxMode := BitVec.ofNat 32 modes.length
      Mode := 0
      Info := { address := 0x1000, info := current } }
  hAllocates := by simp

end Gop

end Chihuahua
