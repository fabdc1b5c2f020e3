import Chihuahua.Bootloader.Gop

/-
  Whether the reported framebuffer is the one in effect.

  Three things are missed: a row is given in pixels and not
  in bytes, the current mode is kept in any format, and the
  report stays after the mode could not be set.

  Main declarations:
    * `DescribesMode` and `ReportsEffective`
    * `describesMode_iff`
    * `framebufferOf_eq_invalid_iff`
    * `reportsEffective_iff`
-/

------------------------------------------------------------
-- Reports
------------------------------------------------------------

namespace Chihuahua

namespace Gop

open ByteMachine KernelReader Selection
open EfiGraphicsPixelFormat

/- A pixel of the supported formats takes four bytes. -/
structure DescribesMode
    (fbInfo : FramebufferInfo)
    (info : EfiGraphicsOutputModeInformation) : Prop where
  hWidth : fbInfo.Width = info.HorizontalResolution
  hHeight : fbInfo.Height = info.VerticalResolution
  hBytesPerRow :
    fbInfo.BytesPerRow.toNat =
      info.PixelsPerScanLine.toNat * 4
  hRgb :
    fbInfo.isRgb = true ↔
      info.PixelFormat =
        PixelRedGreenBlueReserved8BitPerColor

/-
  After a success the active mode has a supported format,
  and is the one reported. After a failure nothing is.
-/
structure ReportsEffective
    (result : Bool × GopState) : Prop where
  hSuccess :
    result.1 = true →
      SupportedFormat result.2.activeMode.PixelFormat ∧
        DescribesMode result.2.fbInfo result.2.activeMode
  hFailure :
    result.1 = false →
      result.2.fbInfo = INVALID_FRAMEBUFFER_INFO

variable {info : EfiGraphicsOutputModeInformation}

/- All but the row is right, and the row only if it is 0. -/
theorem describesMode_iff :
    DescribesMode (framebufferOf info) info ↔
      info.PixelsPerScanLine = 0 := by
  constructor
  · intro hDescribes
    have hBytesPerRow :
        info.PixelsPerScanLine.toNat =
          info.PixelsPerScanLine.toNat * 4 :=
      hDescribes.hBytesPerRow
    apply BitVec.eq_of_toNat_eq
    change info.PixelsPerScanLine.toNat = 0
    omega
  · intro hZero
    exact
      { hWidth := rfl
        hHeight := rfl
        hBytesPerRow := by simp [framebufferOf, hZero]
        hRgb := by simp [framebufferOf] }

theorem framebufferOf_eq_invalid_iff :
    framebufferOf info = INVALID_FRAMEBUFFER_INFO ↔
      info.HorizontalResolution = 0 ∧
        info.VerticalResolution = 0 ∧
        info.PixelsPerScanLine = 0 ∧
        info.PixelFormat ≠
          PixelRedGreenBlueReserved8BitPerColor := by
  unfold framebufferOf INVALID_FRAMEBUFFER_INFO
  simp

------------------------------------------------------------
-- The Framebuffer in Effect
------------------------------------------------------------

variable {gop : EfiGraphicsOutputProtocol}

/- A candidate that takes effect becomes the active mode. -/
theorem settleOn_reports_iff
    {c : Candidate}
    (hMem : c ∈ candidates gop)
    (fbInfo : FramebufferInfo) :
    ReportsEffective
        (settleOn gop c (GopState.start gop fbInfo)) ↔
      (c.TakesEffect gop →
          SupportedFormat c.info.PixelFormat ∧
            DescribesMode (framebufferOf c.info) c.info) ∧
        (¬ c.TakesEffect gop →
          framebufferOf c.info =
            INVALID_FRAMEBUFFER_INFO) := by
  have hReturn :=
    @settleOn_fst gop c (GopState.start gop fbInfo)
  constructor
  · rintro ⟨hSuccess, hFailure⟩
    rw [settleOn_fbInfo] at hSuccess hFailure
    constructor
    · intro hEffect
      rw [settleOn_activeMode hMem hEffect] at hSuccess
      exact hSuccess (hReturn.mpr hEffect)
    · intro hEffect
      rw [← hReturn, Bool.not_eq_true] at hEffect
      exact hFailure hEffect
  · rintro ⟨hSuccess, hFailure⟩
    constructor
    · intro hTrue
      have hEffect := hReturn.mp hTrue
      rw [settleOn_fbInfo, settleOn_activeMode hMem hEffect]
      exact hSuccess hEffect
    · intro hFalse
      rw [settleOn_fbInfo]
      apply hFailure
      rw [← hReturn, hFalse]
      decide

/-
  The report is right only for a mode with no pixels in its
  lines, if it takes effect in a supported format or looks
  like no mode at all.
-/
theorem reportsEffective_iff
    (gop : EfiGraphicsOutputProtocol)
    (preferredWidth preferredHeight : BitVec 32)
    (fbInfo : FramebufferInfo) :
    ReportsEffective
        (setAppropriateFramebuffer gop preferredWidth
          preferredHeight (GopState.start gop fbInfo)) ↔
      ∀ c,
        FirstLeast
            (Candidate.total preferredWidth preferredHeight)
            (candidates gop) c →
          c.info.PixelsPerScanLine = 0 ∧
            (c.TakesEffect gop →
              SupportedFormat c.info.PixelFormat) ∧
            (¬ c.TakesEffect gop →
              c.info.HorizontalResolution = 0 ∧
                c.info.VerticalResolution = 0 ∧
                c.info.PixelFormat ≠
                  PixelRedGreenBlueReserved8BitPerColor) := by
  obtain ⟨chosen, hFirst, _⟩ :=
    @findBestMode_holds gop preferredWidth preferredHeight
  rw [setAppropriateFramebuffer_settles hFirst,
    settleOn_reports_iff hFirst.mem, describesMode_iff,
    framebufferOf_eq_invalid_iff]
  constructor
  · rintro ⟨hSuccess, hFailure⟩ c hFirst'
    rw [hFirst'.unique hFirst]
    by_cases hEffect : chosen.TakesEffect gop
    · obtain ⟨hFormat, hZero⟩ := hSuccess hEffect
      exact
        ⟨hZero, fun _ => hFormat,
          fun hNot => absurd hEffect hNot⟩
    · obtain ⟨hWidth, hHeight, hZero, hBgr⟩ :=
        hFailure hEffect
      exact
        ⟨hZero, fun hYes => absurd hYes hEffect,
          fun _ => ⟨hWidth, hHeight, hBgr⟩⟩
  · intro hAll
    obtain ⟨hZero, hFormat, hInvalid⟩ := hAll chosen hFirst
    constructor
    · intro hEffect
      exact ⟨hFormat hEffect, hZero⟩
    · intro hEffect
      obtain ⟨hWidth, hHeight, hBgr⟩ := hInvalid hEffect
      exact ⟨hWidth, hHeight, hZero, hBgr⟩

/-
  A mode of 1920 by 1080 with no other mode around: its rows
  take 7680 bytes, and 1920 is reported.
-/
theorem reportsEffective_fails :
    ¬ ReportsEffective
        (setAppropriateFramebuffer
          (tableProtocol (rgbMode 1920 1080) [])
          1920 1080
          (GopState.start
            (tableProtocol (rgbMode 1920 1080) [])
            INVALID_FRAMEBUFFER_INFO)) := by
  intro hReports
  have hBytesPerRow :=
    (hReports.hSuccess (by decide)).2.hBytesPerRow
  revert hBytesPerRow
  decide

end Gop

end Chihuahua
