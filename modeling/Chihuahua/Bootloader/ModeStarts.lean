import Chihuahua.Bootloader.Gop

/-
  The graphics mode over many starts of the boot loader, on
  a display whose modes stay the same.

  A start that fails leaves the mode alone, so the next one
  chooses among the same modes; one that succeeds leaves the
  chosen mode as the current one, which is then the first of
  the least, and is kept.

  Main declarations:
    * `ModeTable`, `Shows` and `Starts`
    * `Settled` and `starts_of_settled`
    * `SettlesOnce` and `settlesOnce_of_chosen`
    * `starts_settleOnce`
-/

------------------------------------------------------------
-- Starts on One Display
------------------------------------------------------------

namespace Chihuahua

namespace Gop

open KernelReader Selection

/- The modes of a display, where `QueryMode` finds one. -/
structure ModeTable where
  MaxMode : BitVec 32
  mode :
    BitVec 32 → Option EfiGraphicsOutputModeInformation

namespace ModeTable

def candidate
    (table : ModeTable)
    (i : BitVec 32) : Option Candidate :=
  (table.mode i).bind
    (fun info =>
      if SupportedFormat info.PixelFormat then
        some
          { index := some i
            info := info }
      else none)

/- The current mode, then all of the table. -/
def candidates
    (table : ModeTable)
    (current : EfiGraphicsOutputModeInformation) :
    List Candidate :=
  { index := none
    info := current } ::
    ((List.range table.MaxMode.toNat).map
        (BitVec.ofNat 32)).filterMap table.candidate

end ModeTable

/-
  A protocol of the display in its current mode. Buffers are
  anywhere, the mode has any number, and `SetMode` answers
  in any way.
-/
structure Shows
    (table : ModeTable)
    (current : EfiGraphicsOutputModeInformation)
    (gop : EfiGraphicsOutputProtocol) : Prop where
  hMaxMode : gop.Mode.MaxMode = table.MaxMode
  hCurrent : gop.Mode.Info.info = current
  hFound :
    ∀ i info,
      i < table.MaxMode →
        table.mode i = some info →
          EFI_ERROR (gop.QueryMode i).status = false ∧
            (gop.QueryMode i).Info.info = info
  hNone :
    ∀ i,
      i < table.MaxMode →
        table.mode i = none →
          EFI_ERROR (gop.QueryMode i).status = true

/-
  One start after the other, each with its result and in the
  mode that the one before has left.
-/
inductive Starts
    (table : ModeTable)
    (preferredWidth preferredHeight : BitVec 32) :
    EfiGraphicsOutputModeInformation →
      List (Bool × GopState) → Prop
| none
    (current : EfiGraphicsOutputModeInformation) :
    Starts table preferredWidth preferredHeight current []
| next
    {current : EfiGraphicsOutputModeInformation}
    {gop : EfiGraphicsOutputProtocol}
    {fbInfo : FramebufferInfo}
    {result : Bool × GopState}
    {results : List (Bool × GopState)}
    (hShows : Shows table current gop)
    (hResult :
      setAppropriateFramebuffer gop preferredWidth
          preferredHeight (GopState.start gop fbInfo) =
        result)
    (hLater :
      Starts table preferredWidth preferredHeight
        result.2.activeMode results) :
    Starts table preferredWidth preferredHeight current
      (result :: results)

------------------------------------------------------------
-- One Start
------------------------------------------------------------

section Display

variable {table : ModeTable}
variable {preferredWidth preferredHeight : BitVec 32}
variable {current : EfiGraphicsOutputModeInformation}
variable {gop : EfiGraphicsOutputProtocol}
variable {c : Candidate}

theorem Shows.queriedCandidate_eq
    (hShows : Shows table current gop)
    {i : BitVec 32}
    (hNumber : i < table.MaxMode) :
    queriedCandidate gop i = table.candidate i := by
  unfold queriedCandidate ModeTable.candidate
  cases hMode : table.mode i with
  | none =>
      have hError := hShows.hNone i hNumber hMode
      rw [hError]
      rfl
  | some info =>
      obtain ⟨hStatus, hInfo⟩ :=
        hShows.hFound i info hNumber hMode
      rw [hStatus, hInfo, Option.bind_some]
      simp only [true_and]

theorem Shows.candidates_eq
    (hShows : Shows table current gop) :
    candidates gop = table.candidates current := by
  unfold candidates currentCandidate modeNumbers
  rw [hShows.hMaxMode, hShows.hCurrent]
  unfold ModeTable.candidates
  congr 1
  apply List.filterMap_congr
  intro i hMem
  obtain ⟨k, hRange, rfl⟩ := List.mem_map.mp hMem
  apply hShows.queriedCandidate_eq
  have hNumber := List.mem_range.mp hRange
  have hMax := table.MaxMode.isLt
  rw [BitVec.lt_def, BitVec.toNat_ofNat,
    Nat.mod_eq_of_lt (by omega)]
  exact hNumber

/- A mode that is not set is not the active one either. -/
theorem settleOn_activeMode_of_failed
    {fbInfo : FramebufferInfo}
    (hFailed :
      (settleOn gop c (GopState.start gop fbInfo)).1 =
        false) :
    (settleOn gop c
        (GopState.start gop fbInfo)).2.activeMode =
      gop.Mode.Info.info := by
  unfold settleOn at hFailed ⊢
  cases hIndex : c.index with
  | none =>
      rw [hIndex] at hFailed
      exact Bool.noConfusion hFailed
  | some i =>
      rw [hIndex] at hFailed
      simp only [GopState.SetMode, Bool.not_eq_false']
        at hFailed ⊢
      rw [if_pos hFailed]
      rfl

/- What one start does, with the mode it chooses. -/
structure StartResult
    (current : EfiGraphicsOutputModeInformation)
    (c : Candidate)
    (result : Bool × GopState) : Prop where
  hFbInfo : result.2.fbInfo = framebufferOf c.info
  hPassed : result.2.passedToSetMode = c.index
  hKept : c.index = none → result.1 = true
  hActive :
    result.2.activeMode =
      if result.1 then c.info else current

theorem start_result
    (hShows : Shows table current gop)
    (hChosen :
      FirstLeast
        (Candidate.total preferredWidth preferredHeight)
        (table.candidates current) c)
    (fbInfo : FramebufferInfo) :
    StartResult current c
      (setAppropriateFramebuffer gop preferredWidth
        preferredHeight (GopState.start gop fbInfo)) := by
  rw [← hShows.candidates_eq] at hChosen
  rw [setAppropriateFramebuffer_settles hChosen]
  refine
    { hFbInfo := settleOn_fbInfo c _
      hPassed := settleOn_passedToSetMode c fbInfo
      hKept := ?_
      hActive := ?_ }
  · intro hIndex
    rw [settleOn_fst]
    unfold Candidate.TakesEffect
    rw [hIndex]
    trivial
  · cases hSuccess :
        (settleOn gop c (GopState.start gop fbInfo)).1 with
    | true =>
        rw [if_pos rfl]
        exact
          settleOn_activeMode hChosen.mem
            ((settleOn_fst c _).mp hSuccess) fbInfo
    | false =>
        rw [settleOn_activeMode_of_failed hSuccess,
          if_neg Bool.false_ne_true]
        exact hShows.hCurrent

------------------------------------------------------------
-- Starts in the Chosen Mode
------------------------------------------------------------

/- The current mode is the first of the least. -/
def Settled
    (table : ModeTable)
    (preferredWidth preferredHeight : BitVec 32)
    (current : EfiGraphicsOutputModeInformation) : Prop :=
  FirstLeast
    (Candidate.total preferredWidth preferredHeight)
    (table.candidates current)
    { index := none
      info := current }

/- What is chosen once has nothing less behind it. -/
theorem settled_of_firstLeast
    (hChosen :
      FirstLeast
        (Candidate.total preferredWidth preferredHeight)
        (table.candidates current) c) :
    Settled table preferredWidth preferredHeight c.info := by
  refine ⟨[], _, rfl, List.forall_mem_nil _, ?_⟩
  intro item hItem
  exact hChosen.le (List.mem_cons_of_mem _ hItem)

/- A start that has nothing to do. -/
structure KeepsMode
    (current : EfiGraphicsOutputModeInformation)
    (result : Bool × GopState) : Prop where
  hSuccess : result.1 = true
  hPassed : result.2.passedToSetMode = none
  hActive : result.2.activeMode = current
  hFbInfo : result.2.fbInfo = framebufferOf current

theorem starts_of_settled
    (hSettled :
      Settled table preferredWidth preferredHeight current)
    {results : List (Bool × GopState)}
    (hStarts :
      Starts table preferredWidth preferredHeight current
        results) :
    ∀ result ∈ results, KeepsMode current result := by
  induction hStarts with
  | none _ => exact List.forall_mem_nil _
  | @next _ gop fbInfo result _ hShows hResult _ ih =>
      have hStart := start_result hShows hSettled fbInfo
      rw [hResult] at hStart
      have hSuccess := hStart.hKept rfl
      have hActive := hStart.hActive
      rw [if_pos hSuccess] at hActive
      rw [hActive] at ih
      exact
        List.forall_mem_cons.mpr
          ⟨⟨hSuccess, hStart.hPassed, hActive,
              hStart.hFbInfo⟩,
            ih hSettled⟩

------------------------------------------------------------
-- All Starts
------------------------------------------------------------

/-
  All starts choose the same mode and report it, a success
  puts it into effect, and no start behind a success has
  anything left to do.
-/
structure SettlesOnce
    (c : Candidate)
    (results : List (Bool × GopState)) : Prop where
  hFbInfo :
    ∀ result ∈ results,
      result.2.fbInfo = framebufferOf c.info
  hPassed :
    ∀ result ∈ results,
      ∀ i, result.2.passedToSetMode = some i →
        c.index = some i
  hActive :
    ∀ result ∈ results,
      result.1 = true → result.2.activeMode = c.info
  hOnce :
    results.Pairwise
      (fun result later =>
        result.1 = true → KeepsMode c.info later)

theorem StartResult.settlesOnce
    {result : Bool × GopState}
    {results : List (Bool × GopState)}
    (hStart : StartResult current c result)
    (hFirst :
      result.1 = true →
        ∀ later ∈ results, KeepsMode c.info later)
    (hLater : SettlesOnce c results) :
    SettlesOnce c (result :: results) where
  hFbInfo :=
    List.forall_mem_cons.mpr ⟨hStart.hFbInfo, hLater.hFbInfo⟩
  hPassed := by
    refine List.forall_mem_cons.mpr ⟨?_, hLater.hPassed⟩
    intro i hSome
    rw [← hStart.hPassed]
    exact hSome
  hActive := by
    refine List.forall_mem_cons.mpr ⟨?_, hLater.hActive⟩
    intro hSuccess
    rw [hStart.hActive, if_pos hSuccess]
  hOnce :=
    List.pairwise_cons.mpr
      ⟨fun later hMem hSuccess => hFirst hSuccess later hMem,
        hLater.hOnce⟩

/- Starts that keep the mode of the choice settle on it. -/
theorem settlesOnce_of_keepsMode
    {results : List (Bool × GopState)}
    (hKeeps :
      ∀ result ∈ results, KeepsMode c.info result) :
    SettlesOnce c results where
  hFbInfo result hMem := (hKeeps result hMem).hFbInfo
  hPassed result hMem i hSome := by
    rw [(hKeeps result hMem).hPassed] at hSome
    cases hSome
  hActive result hMem _ := (hKeeps result hMem).hActive
  hOnce :=
    List.pairwise_of_forall_mem_list
      (fun _ _ later hMem _ => hKeeps later hMem)

theorem settlesOnce_of_chosen
    {results : List (Bool × GopState)}
    (hStarts :
      Starts table preferredWidth preferredHeight current
        results)
    (hChosen :
      FirstLeast
        (Candidate.total preferredWidth preferredHeight)
        (table.candidates current) c) :
    SettlesOnce c results := by
  induction hStarts with
  | none _ =>
      exact settlesOnce_of_keepsMode (List.forall_mem_nil _)
  | @next current gop fbInfo result results hShows hResult
      hLater ih =>
      have hStart := start_result hShows hChosen fbInfo
      rw [hResult] at hStart
      have hActive := hStart.hActive
      cases hSuccess : result.1 with
      | true =>
          rw [if_pos hSuccess] at hActive
          rw [hActive] at hLater
          have hKeeps :=
            starts_of_settled (settled_of_firstLeast hChosen)
              hLater
          exact
            hStart.settlesOnce (fun _ => hKeeps)
              (settlesOnce_of_keepsMode hKeeps)
      | false =>
          rw [if_neg (Bool.eq_false_iff.mp hSuccess)]
            at hActive
          refine hStart.settlesOnce ?_ (ih ?_)
          · intro hTrue
            exact
              absurd (hSuccess.symm.trans hTrue)
                Bool.false_ne_true
          · rw [hActive]
            exact hChosen

/-
  Whatever is answered to each `SetMode`: all starts choose
  one mode, the first of those closest in sum, and set it at
  most until they succeed.
-/
theorem starts_settleOnce
    {results : List (Bool × GopState)}
    (hStarts :
      Starts table preferredWidth preferredHeight current
        results) :
    ∃ c,
      FirstLeast
          (Candidate.total preferredWidth preferredHeight)
          (table.candidates current) c ∧
        SettlesOnce c results := by
  obtain ⟨c, hChosen⟩ :=
    exists_firstLeast
      (Candidate.total preferredWidth preferredHeight) _ _
  exact ⟨c, hChosen, settlesOnce_of_chosen hStarts hChosen⟩

end Display

/- The display of `tableProtocol`, in any of its modes. -/
def modeTable
    (modes : List EfiGraphicsOutputModeInformation) :
    ModeTable where
  MaxMode := BitVec.ofNat 32 modes.length
  mode i := modes[i.toNat]?

theorem shows_tableProtocol
    {modes : List EfiGraphicsOutputModeInformation}
    (hLength : modes.length < 2 ^ 32)
    (current : EfiGraphicsOutputModeInformation)
    (status : EfiStatus) :
    Shows (modeTable modes) current
      { tableProtocol current modes with
        SetMode := fun _ => status } where
  hMaxMode := rfl
  hCurrent := rfl
  hFound i info _ hMode := by
    refine ⟨(by decide : EFI_ERROR EFI_SUCCESS = false), ?_⟩
    show modes.getD i.toNat current = info
    rw [List.getD_eq_getElem?_getD]
    exact congrArg (Option.getD · current) hMode
  hNone i hNumber hMode := by
    have hShort := List.getElem?_eq_none_iff.mp hMode
    unfold modeTable at hNumber
    rw [BitVec.lt_def, BitVec.toNat_ofNat,
      Nat.mod_eq_of_lt hLength] at hNumber
    omega

/- The mode is set at the second start, and then kept. -/
theorem starts_settleOnce_sample :
    ∃ c,
      FirstLeast (Candidate.total 1920 1080)
          ((modeTable
            [rgbMode 640 480,
              rgbMode 1920 1080]).candidates
            (rgbMode 1024 768))
          c ∧
        SettlesOnce c
          [(false,
              { fbInfo := framebufferOf (rgbMode 1920 1080)
                activeMode := rgbMode 1024 768
                passedToSetMode := some 1 }),
            (true,
              { fbInfo := framebufferOf (rgbMode 1920 1080)
                activeMode := rgbMode 1920 1080
                passedToSetMode := some 1 }),
            (true,
              { fbInfo := framebufferOf (rgbMode 1920 1080)
                activeMode := rgbMode 1920 1080
                passedToSetMode := none })] := by
  have hStart
      {current : EfiGraphicsOutputModeInformation}
      (status : EfiStatus)
      {result : Bool × GopState}
      {results : List (Bool × GopState)} :=
    @Starts.next _ 1920 1080 _ _ INVALID_FRAMEBUFFER_INFO
      result results
      (@shows_tableProtocol
        [rgbMode 640 480, rgbMode 1920 1080] (by decide)
        current status)
  exact
    starts_settleOnce
      (hStart (EFIERR 7) (by decide)
        (hStart EFI_SUCCESS (by decide)
          (hStart EFI_SUCCESS (by decide) (.none _))))

end Gop

end Chihuahua
