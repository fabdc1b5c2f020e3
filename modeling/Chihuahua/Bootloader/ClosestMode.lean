import Chihuahua.Bootloader.Gop

/-
  Whether the chosen mode is the closest one.

  The deviations of the width and of the height are added
  before the absolute value is taken. If they are on
  opposite sides, then they cancel, and the mode looks
  closer than it is.

  Main declarations:
    * `distance` and `summedDeviation`
    * `total_eq_summedDeviation`
    * `ChoosesClosest`
    * `choosesClosest_iff`
-/

------------------------------------------------------------
-- Distances
------------------------------------------------------------

namespace Chihuahua

namespace Gop

open ByteMachine KernelReader Selection
open EfiGraphicsPixelFormat

variable (preferredWidth preferredHeight : BitVec 32)

def widthDeviation
    (info : EfiGraphicsOutputModeInformation) : Int :=
  preferredWidth.toNat - info.HorizontalResolution.toNat

def heightDeviation
    (info : EfiGraphicsOutputModeInformation) : Int :=
  preferredHeight.toNat - info.VerticalResolution.toNat

/- How far a mode is from the preferred size. -/
def distance
    (info : EfiGraphicsOutputModeInformation) : Nat :=
  (widthDeviation preferredWidth info).natAbs +
    (heightDeviation preferredHeight info).natAbs

/- What the loop takes for the distance. -/
def summedDeviation
    (info : EfiGraphicsOutputModeInformation) : Nat :=
  (widthDeviation preferredWidth info +
    heightDeviation preferredHeight info).natAbs

/- Larger one way, and smaller the other way. -/
def OnOppositeSides
    (info : EfiGraphicsOutputModeInformation) : Prop :=
  (widthDeviation preferredWidth info < 0 ∧
      0 < heightDeviation preferredHeight info) ∨
    (0 < widthDeviation preferredWidth info ∧
      heightDeviation preferredHeight info < 0)

def HasPreferredSize
    (info : EfiGraphicsOutputModeInformation) : Prop :=
  info.HorizontalResolution = preferredWidth ∧
    info.VerticalResolution = preferredHeight

/- All resolutions are below 2^30. -/
def SizesFit (gop : EfiGraphicsOutputProtocol) : Prop :=
  ∀ c ∈ candidates gop,
    c.info.HorizontalResolution.toNat < 2 ^ 30 ∧
      c.info.VerticalResolution.toNat < 2 ^ 30

variable {preferredWidth preferredHeight}
variable {info : EfiGraphicsOutputModeInformation}

theorem summedDeviation_le_distance
    (info : EfiGraphicsOutputModeInformation) :
    summedDeviation preferredWidth preferredHeight info ≤
      distance preferredWidth preferredHeight info :=
  Int.natAbs_add_le _ _

/- Deviations that do not cancel add up. -/
theorem summedDeviation_eq_distance
    (hSides :
      ¬ OnOppositeSides preferredWidth preferredHeight
        info) :
    summedDeviation preferredWidth preferredHeight info =
      distance preferredWidth preferredHeight info := by
  unfold OnOppositeSides at hSides
  unfold summedDeviation distance
  omega

theorem distance_eq_zero_iff :
    distance preferredWidth preferredHeight info = 0 ↔
      HasPreferredSize preferredWidth preferredHeight
        info := by
  unfold distance widthDeviation heightDeviation
    HasPreferredSize
  rw [BitVec.toNat_eq, BitVec.toNat_eq]
  omega

/- The differences of the code do not overflow. -/
theorem total_eq_summedDeviation
    {c : Candidate}
    (hWidth : preferredWidth.toNat < 2 ^ 30)
    (hHeight : preferredHeight.toNat < 2 ^ 30)
    (hHorizontal :
      c.info.HorizontalResolution.toNat < 2 ^ 30)
    (hVertical :
      c.info.VerticalResolution.toNat < 2 ^ 30) :
    c.total preferredWidth preferredHeight =
      summedDeviation preferredWidth preferredHeight
        c.info := by
  unfold Candidate.total deviationTotal deviation
    summedDeviation widthDeviation heightDeviation
  rw [BitVec.toNat_abs, BitVec.msb_eq_decide]
  simp only [BitVec.toNat_add, BitVec.toNat_sub,
    decide_eq_true_eq]
  split_ifs with hNegative
  · omega
  · omega

------------------------------------------------------------
-- The Closest Mode
------------------------------------------------------------

/-
  The mode that is kept or passed to `SetMode` is one of the
  candidates, and none of them is closer to the preferred
  size. A mode of exactly that size is chosen if there is
  one.
-/
structure ChoosesClosest
    (preferredWidth preferredHeight : BitVec 32)
    (gop : EfiGraphicsOutputProtocol)
    (s : GopState) : Prop where
  hCandidate :
    ∃ c ∈ candidates gop, c.index = s.passedToSetMode
  hClosest :
    ∀ c ∈ candidates gop,
      distance preferredWidth preferredHeight
          (modeOf gop s.passedToSetMode) ≤
        distance preferredWidth preferredHeight c.info
  hExact :
    (∃ c ∈ candidates gop,
        HasPreferredSize preferredWidth preferredHeight
          c.info) →
      HasPreferredSize preferredWidth preferredHeight
        (modeOf gop s.passedToSetMode)

/- A mode of the exact size is at distance zero. -/
theorem choosesClosest_iff_distance_le
    {gop : EfiGraphicsOutputProtocol}
    {s : GopState}
    {c : Candidate}
    (hMem : c ∈ candidates gop)
    (hIndex : s.passedToSetMode = c.index) :
    ChoosesClosest preferredWidth preferredHeight gop s ↔
      ∀ other ∈ candidates gop,
        distance preferredWidth preferredHeight c.info ≤
          distance preferredWidth preferredHeight
            other.info := by
  have hMode : modeOf gop s.passedToSetMode = c.info := by
    rw [hIndex, info_eq_modeOf hMem]
  constructor
  · intro hChooses other hOther
    rw [← hMode]
    exact hChooses.hClosest other hOther
  · intro hClosest
    refine
      { hCandidate := ⟨c, hMem, hIndex.symm⟩
        hClosest := ?_
        hExact := ?_ }
    · intro other hOther
      rw [hMode]
      exact hClosest other hOther
    · rintro ⟨other, hOther, hSize⟩
      rw [hMode, ← distance_eq_zero_iff]
      have hZero := distance_eq_zero_iff.mpr hSize
      have hLe := hClosest other hOther
      omega

/-
  The closest mode is chosen unless a mode with cancelling
  deviations is the first of those with the least sum, and
  another one is closer.
-/
theorem choosesClosest_iff
    (gop : EfiGraphicsOutputProtocol)
    (fbInfo : FramebufferInfo)
    (hWidth : preferredWidth.toNat < 2 ^ 30)
    (hHeight : preferredHeight.toNat < 2 ^ 30)
    (hSizes : SizesFit gop) :
    ChoosesClosest preferredWidth preferredHeight gop
        (setAppropriateFramebuffer gop preferredWidth
          preferredHeight (GopState.start gop fbInfo)).2 ↔
      ∀ c ∈ candidates gop, ∀ closer ∈ candidates gop,
        OnOppositeSides preferredWidth preferredHeight
            c.info →
          distance preferredWidth preferredHeight
              closer.info <
            distance preferredWidth preferredHeight
              c.info →
          ¬ FirstLeast
              (fun c =>
                summedDeviation preferredWidth
                  preferredHeight c.info)
              (candidates gop) c := by
  have hTotals :
      ∀ c ∈ candidates gop,
        c.total preferredWidth preferredHeight =
          summedDeviation preferredWidth preferredHeight
            c.info :=
    fun c hMem =>
      total_eq_summedDeviation hWidth hHeight
        (hSizes c hMem).1 (hSizes c hMem).2
  obtain ⟨chosen, hTotal, _⟩ :=
    @findBestMode_holds gop preferredWidth preferredHeight
  have hFirst := hTotal.congr hTotals
  rw [setAppropriateFramebuffer_settles hTotal,
    choosesClosest_iff_distance_le hTotal.mem
      (settleOn_passedToSetMode chosen fbInfo)]
  constructor
  · intro hClosest c _ closer hCloser _ hLess hFirst'
    rw [hFirst'.unique hFirst] at hLess
    exact absurd hLess (not_lt.mpr (hClosest closer hCloser))
  · intro hNever other hOther
    by_cases hSides :
        OnOppositeSides preferredWidth preferredHeight
          chosen.info
    · by_contra hFurther
      exact
        hNever chosen hTotal.mem other hOther hSides
          (not_le.mp hFurther) hFirst
    · apply hFirst.cost_le _ _ hOther
      · exact fun c => summedDeviation_le_distance c.info
      · exact summedDeviation_eq_distance hSides

/- A mode of the preferred size is found. -/
theorem choosesClosest_iff_sample :
    ChoosesClosest 1920 1080
      (tableProtocol (rgbMode 1024 768) [rgbMode 1920 1080])
      (setAppropriateFramebuffer
        (tableProtocol (rgbMode 1024 768)
          [rgbMode 1920 1080])
        1920 1080
        (GopState.start
          (tableProtocol (rgbMode 1024 768)
            [rgbMode 1920 1080])
          INVALID_FRAMEBUFFER_INFO)).2 := by
  apply
    (choosesClosest_iff _ INVALID_FRAMEBUFFER_INFO
      (by decide) (by decide)
      (by unfold SizesFit; decide)).mpr
  have hSides :
      ∀ c ∈
          candidates
            (tableProtocol (rgbMode 1024 768)
              [rgbMode 1920 1080]),
        ¬ OnOppositeSides 1920 1080 c.info := by
    unfold OnOppositeSides
    decide
  intro c hMem _ _ hOpposite
  exact absurd hOpposite (hSides c hMem)

/-
  A mode of 1600 by 1200 is kept for a preferred size of
  1920 by 1080, as 320 less and 120 more make 200. A mode of
  1680 by 1050 is only 270 away, and not 440.
-/
theorem choosesClosest_fails :
    ¬ ChoosesClosest 1920 1080
        (tableProtocol (rgbMode 1600 1200)
          [rgbMode 1680 1050])
        (setAppropriateFramebuffer
          (tableProtocol (rgbMode 1600 1200)
            [rgbMode 1680 1050])
          1920 1080
          (GopState.start
            (tableProtocol (rgbMode 1600 1200)
              [rgbMode 1680 1050])
            INVALID_FRAMEBUFFER_INFO)).2 := by
  intro hChooses
  have hKept := hChooses.hClosest
    { index := some 0, info := rgbMode 1680 1050 }
    (by decide)
  revert hKept
  decide

end Gop

end Chihuahua
