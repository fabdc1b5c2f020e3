import Chihuahua.Elf.Completeness

/-
  What the loader writes, and the buffers it asked for.

  The callback is asked for the size a segment has in
  memory, narrowed to an `int`; the copy takes the size the
  segment has in the file, and the zeroing both sizes at
  their full width.

  Main declarations:
    * `WritesInBuffer`
    * `touched_fillSegment`
    * `DestBounds` and `SizesFit`
    * `destBounds_iff`
-/

------------------------------------------------------------
-- Offsets Into a Buffer
------------------------------------------------------------

namespace Chihuahua

namespace Elf

open ByteMachine Essentials

/- The byte is one of the `requested` ones from `dest` on. -/
def InBuffer
    (dest : Addr)
    (requested : Int)
    (b : Addr) : Prop :=
  ((b - dest).toNat : Int) < requested

/- The part of a buffer between two of its offsets. -/
theorem inRange_add_sub_iff
    (dest b : Addr)
    {low high : BitVec 64}
    (hOrder : low < high) :
    InRange (dest + low) (high - low).toNat b ↔
      low.toNat ≤ (b - dest).toNat ∧
        (b - dest).toNat < high.toNat := by
  have hLess : low.toNat < high.toNat := hOrder
  have hHigh := high.isLt
  have hSize : (high - low).toNat = high.toNat - low.toNat :=
    BitVec.toNat_sub_of_le (BitVec.le_of_lt hOrder)
  have hPart :=
    inRange_add_iff dest b
      (show low.toNat + (high - low).toNat ≤ 2 ^ 64 by omega)
  rw [BitVec.ofNat_toNat, BitVec.setWidth_eq] at hPart
  rw [hPart, hSize]
  omega

/- A range of offsets fits if it is empty or ends in time. -/
theorem forall_offsets_iff
    (dest : Addr)
    (requested : Int)
    (low : Nat)
    {high : Nat}
    (hHigh : high ≤ 2 ^ 64) :
    (∀ b : Addr,
        low ≤ (b - dest).toNat →
          (b - dest).toNat < high →
            InBuffer dest requested b) ↔
      high ≤ low ∨ (high : Int) ≤ requested := by
  constructor
  · intro hInside
    by_cases hEmpty : high ≤ low
    · exact Or.inl hEmpty
    · right
      have hLast : high - 1 < 2 ^ 64 := by omega
      have hOffset := add_ofNat_sub_toNat dest hLast
      have hByte :=
        hInside (dest + BitVec.ofNat 64 (high - 1))
          (by omega) (by omega)
      unfold InBuffer at hByte
      omega
  · intro hFits b hLow hByte
    unfold InBuffer
    omega

/- A size survives the conversion if it fits into an `int`. -/
theorem toNat_le_toInt_iff
    (size : BitVec 64) :
    (size.toNat : Int) ≤ toInt size ↔
      size.toNat < 2 ^ 31 := by
  unfold toInt
  rw [BitVec.toInt_eq_toNat_cond, BitVec.toNat_setWidth]
  split_ifs with hSign
  · constructor
    · intro hLe
      omega
    · intro hLt
      omega
  · constructor
    · intro hLe
      omega
    · intro hLt
      omega

theorem toInt_le_toNat
    (size : BitVec 64) :
    toInt size ≤ size.toNat := by
  unfold toInt
  rw [BitVec.toInt_eq_toNat_cond, BitVec.toNat_setWidth]
  split_ifs with hSign
  · omega
  · omega

------------------------------------------------------------
-- Bytes Written
------------------------------------------------------------

namespace LoaderState

/- The same state with an empty log of stores. -/
def unlogged (s : LoaderState) : LoaderState where
  machine :=
    { mem := s.machine.mem
      stores := [] }
  calls := s.calls

end LoaderState

namespace ElfLoader

variable (loader : ElfLoader)

/- The header as it is read once the segment is copied. -/
def headerAfterCopy
    (header : Elf64_ProgHeader)
    (progHeader dest : Addr)
    (machine : Machine) : Elf64_ProgHeader :=
  readProgHeader
    (memcpy dest (loader.elfFile + header.Offset)
      header.SizeInFile machine).2.mem
    progHeader

theorem touched_fillSegment
    (header : Elf64_ProgHeader)
    (progHeader dest : Addr)
    (machine : Machine)
    (b : Addr) :
    let after :=
      loader.headerAfterCopy header progHeader dest machine
    (loader.fillSegment header progHeader dest
        machine).Touched b ↔
      ((b - dest).toNat < header.SizeInFile.toNat ∨
          after.SizeInFile.toNat ≤ (b - dest).toNat ∧
            (b - dest).toNat < after.SizeInMemory.toNat) ∨
        machine.Touched b := by
  intro after
  unfold fillSegment
  dsimp only
  have hCopy :=
    touched_memcpy dest (loader.elfFile + header.Offset)
      header.SizeInFile machine b
  split_ifs with hRest
  · rw [touched_memset, hCopy]
    have hPart := inRange_add_sub_iff dest b hRest
    rw [hPart]
    unfold InRange
    exact or_left_comm.trans (or_assoc).symm
  · rw [hCopy]
    have hNone :
        ¬ (after.SizeInFile.toNat ≤ (b - dest).toNat ∧
          (b - dest).toNat < after.SizeInMemory.toNat) := by
      rintro ⟨hLow, hHigh⟩
      exact hRest (Nat.lt_of_le_of_lt hLow hHigh)
    unfold InRange
    tauto

/-
  Every byte the call wrote lies in the buffer of its own
  call of the callback.
-/
def WritesInBuffer (after : LoaderState) : Prop :=
  ∀ b,
    after.machine.Touched b →
      ∃ call,
        after.calls.head? = some call ∧
          InBuffer call.dest call.memorySize b

theorem writesInBuffer_cons_iff
    (machine : Machine)
    (call : LoaderCall)
    (calls : List LoaderCall) :
    WritesInBuffer
        { machine := machine, calls := call :: calls } ↔
      ∀ b,
        machine.Touched b →
          InBuffer call.dest call.memorySize b := by
  simp [WritesInBuffer]

/- A call that writes nothing. -/
theorem writesInBuffer_of_stores_nil
    {after : LoaderState}
    (hStores : after.machine.stores = []) :
    WritesInBuffer after := by
  intro b hTouched
  exact
    absurd hTouched
      (Machine.not_touched_of_stores_nil hStores b)

/- The sizes that keep a segment inside its buffer. -/
def SegmentSizesFit
    (progHeader : Addr)
    (loaderCallback : LoaderFunction)
    (s : LoaderState) : Prop :=
  let header := readProgHeader s.mem progHeader
  let dest := segmentDest progHeader loaderCallback s
  let after :=
    loader.headerAfterCopy header progHeader dest s.machine
  loader.AcceptsSegment header dest →
    (header.SizeInFile.toNat = 0 ∨
        (header.SizeInFile.toNat : Int) ≤
          toInt header.SizeInMemory) ∧
      (after.SizeInMemory.toNat ≤ after.SizeInFile.toNat ∨
        (after.SizeInMemory.toNat : Int) ≤
          toInt header.SizeInMemory)

theorem segmentWrites_iff
    (progHeader : Addr)
    (loaderCallback : LoaderFunction)
    (s : LoaderState) :
    WritesInBuffer
        (loader.loadExecutableProgram progHeader
          loaderCallback s.unlogged).2 ↔
      loader.SegmentSizesFit progHeader loaderCallback
        s.unlogged := by
  have hOutcome :=
    loader.loadExecutableProgram_outcome progHeader
      loaderCallback s.unlogged
  generalize
    loader.loadExecutableProgram progHeader loaderCallback
        s.unlogged =
      result at hOutcome ⊢
  cases hOutcome with
  | skipped hType =>
      exact
        iff_of_true (writesInBuffer_of_stores_nil rfl)
          (fun hAccepts => absurd hAccepts.hType hType)
  | noBuffer _ hDest =>
      exact
        iff_of_true (writesInBuffer_of_stores_nil rfl)
          (fun hAccepts => absurd hDest hAccepts.hDest)
  | tooLong _ _ hRefused =>
      exact
        iff_of_true (writesInBuffer_of_stores_nil rfl)
          (fun hAccepts => absurd hAccepts hRefused)
  | loaded hAccepted =>
      let header := readProgHeader s.unlogged.mem progHeader
      let dest :=
        segmentDest progHeader loaderCallback s.unlogged
      let after :=
        loader.headerAfterCopy header progHeader dest
          s.unlogged.machine
      have hUntouched :=
        Machine.not_touched_of_stores_nil
          (s := s.unlogged.machine) rfl
      have hTouched :=
        loader.touched_fillSegment header progHeader dest
          s.unlogged.machine
      have hCopied :=
        forall_offsets_iff dest (toInt header.SizeInMemory) 0
          header.SizeInFile.isLt.le
      have hZeroed :=
        forall_offsets_iff dest (toInt header.SizeInMemory)
          after.SizeInFile.toNat after.SizeInMemory.isLt.le
      rw [Nat.le_zero] at hCopied
      dsimp only
      rw [writesInBuffer_cons_iff]
      constructor
      · intro hInside _
        refine ⟨hCopied.mp ?_, hZeroed.mp ?_⟩
        · intro b _ hByte
          exact
            hInside b
              ((hTouched b).mpr (Or.inl (Or.inl hByte)))
        · intro b hLow hHigh
          exact
            hInside b
              ((hTouched b).mpr
                (Or.inl (Or.inr ⟨hLow, hHigh⟩)))
      · intro hFits b hByte
        rcases hFits hAccepted with ⟨hFile, hMemory⟩
        rcases (hTouched b).mp hByte with
          (hCopy | hRest) | hBefore
        · exact hCopied.mpr hFile b (Nat.zero_le _) hCopy
        · exact hZeroed.mpr hMemory b hRest.1 hRest.2
        · exact absurd hBefore (hUntouched b)

/-
  In a header that the copy leaves alone, the size in the
  file is at most the one in memory, and that is an `int`.
-/
theorem segmentSizesFit_iff_of_headerKept
    {progHeader : Addr}
    {loaderCallback : LoaderFunction}
    {s : LoaderState}
    (hKept :
      loader.headerAfterCopy
          (readProgHeader s.mem progHeader) progHeader
          (segmentDest progHeader loaderCallback s)
          s.machine =
        readProgHeader s.mem progHeader) :
    loader.SegmentSizesFit progHeader loaderCallback s ↔
      (loader.AcceptsSegment
          (readProgHeader s.mem progHeader)
          (segmentDest progHeader loaderCallback s) →
        (readProgHeader s.mem progHeader).SizeInFile.toNat ≤
            (readProgHeader s.mem
              progHeader).SizeInMemory.toNat ∧
          (readProgHeader s.mem
              progHeader).SizeInMemory.toNat <
            2 ^ 31) := by
  unfold SegmentSizesFit
  dsimp only
  rw [hKept]
  apply imp_congr_right
  intro _
  have hInt :=
    toNat_le_toInt_iff
      (readProgHeader s.mem progHeader).SizeInMemory
  have hNat :=
    toInt_le_toNat
      (readProgHeader s.mem progHeader).SizeInMemory
  constructor
  · rintro ⟨hFile, hMemory⟩
    by_cases hSmall :
        (readProgHeader s.mem
          progHeader).SizeInMemory.toNat <
          2 ^ 31
    · refine ⟨?_, hSmall⟩
      omega
    · -- too large for an `int`, and so is the size in the file
      have hNarrow := mt hInt.mp hSmall
      omega
  · rintro ⟨hOrder, hSmall⟩
    have hWide := hInt.mpr hSmall
    omega

/- The sizes that keep a section inside its buffer. -/
def SectionSizeFits
    (sectionHeader : Addr)
    (loaderCallback : LoaderFunction)
    (s : LoaderState) : Prop :=
  let header := readSectionHeader s.mem sectionHeader
  loader.AcceptsSection header
      (sectionDest sectionHeader loaderCallback s) →
    header.SectionSize.toNat < 2 ^ 31

theorem sectionWrites_iff
    (sectionHeader : Addr)
    (loaderCallback : LoaderFunction)
    (s : LoaderState) :
    WritesInBuffer
        (loader.loadNoBitsSection sectionHeader
          loaderCallback s.unlogged).2 ↔
      loader.SectionSizeFits sectionHeader loaderCallback
        s.unlogged := by
  have hOutcome :=
    loader.loadNoBitsSection_outcome sectionHeader
      loaderCallback s.unlogged
  generalize
    loader.loadNoBitsSection sectionHeader loaderCallback
        s.unlogged =
      result at hOutcome ⊢
  cases hOutcome with
  | skipped hNoBits =>
      exact
        iff_of_true (writesInBuffer_of_stores_nil rfl)
          (fun hAccepts => absurd hAccepts.hNoBits hNoBits)
  | tooLong _ hRefused =>
      exact
        iff_of_true (writesInBuffer_of_stores_nil rfl)
          (fun hAccepts => absurd hAccepts (hRefused _))
  | noBuffer _ hDest =>
      exact
        iff_of_true (writesInBuffer_of_stores_nil rfl)
          (fun hAccepts => absurd hDest hAccepts.hDest)
  | loaded hAccepted =>
      let header :=
        readSectionHeader s.unlogged.mem sectionHeader
      let dest :=
        sectionDest sectionHeader loaderCallback s.unlogged
      have hUntouched :=
        Machine.not_touched_of_stores_nil
          (s := s.unlogged.machine) rfl
      have hTouched :=
        touched_memset dest 0 header.SectionSize
          s.unlogged.machine
      have hCleared :=
        forall_offsets_iff dest (toInt header.SectionSize) 0
          header.SectionSize.isLt.le
      have hNonempty : ¬ header.SectionSize.toNat ≤ 0 := by
        intro hZero
        exact
          hAccepted.hNoBits.hSize
            (BitVec.eq_of_toNat_eq (Nat.le_zero.mp hZero))
      rw [toNat_le_toInt_iff] at hCleared
      dsimp only
      rw [writesInBuffer_cons_iff]
      constructor
      · intro hInside _
        refine (hCleared.mp ?_).resolve_left hNonempty
        intro b _ hByte
        exact hInside b ((hTouched b).mpr (Or.inl hByte))
      · intro hFits b hByte
        rcases (hTouched b).mp hByte with hClear | hBefore
        · exact
            hCleared.mpr (Or.inr (hFits hAccepted)) b
              (Nat.zero_le _) hClear
        · exact absurd hBefore (hUntouched b)

------------------------------------------------------------
-- Both Loaders
------------------------------------------------------------

/-
  Started with an empty log, both loaders write inside the
  buffer they asked for.
-/
structure DestBounds
    (progHeader sectionHeader : Addr)
    (loaderCallback : LoaderFunction)
    (s : LoaderState) : Prop where
  hSegment :
    WritesInBuffer
      (loader.loadExecutableProgram progHeader
        loaderCallback s.unlogged).2
  hSection :
    WritesInBuffer
      (loader.loadNoBitsSection sectionHeader
        loaderCallback s.unlogged).2

structure SizesFit
    (progHeader sectionHeader : Addr)
    (loaderCallback : LoaderFunction)
    (s : LoaderState) : Prop where
  hSegment :
    loader.SegmentSizesFit progHeader loaderCallback
      s.unlogged
  hSection :
    loader.SectionSizeFits sectionHeader loaderCallback
      s.unlogged

theorem destBounds_iff
    (progHeader sectionHeader : Addr)
    (loaderCallback : LoaderFunction)
    (s : LoaderState) :
    loader.DestBounds progHeader sectionHeader
        loaderCallback s ↔
      loader.SizesFit progHeader sectionHeader
        loaderCallback s := by
  constructor
  · rintro ⟨hSegment, hSection⟩
    exact
      ⟨(loader.segmentWrites_iff _ _ _).mp hSegment,
        (loader.sectionWrites_iff _ _ _).mp hSection⟩
  · rintro ⟨hSegment, hSection⟩
    exact
      ⟨(loader.segmentWrites_iff _ _ _).mpr hSegment,
        (loader.sectionWrites_iff _ _ _).mpr hSection⟩

end ElfLoader

open ElfLoader

/-
  A segment of 32 bytes in the file and 16 in memory is
  copied in full into a buffer of 16 bytes.
-/
theorem destBounds_fails :
    ¬ (sampleLoader 128).DestBounds 0x1000 0x1038
      sampleCallback (sampleFile (sampleHeaders 32 16 16)) := by
  intro hBounds
  have hFits :=
    ((sampleLoader 128).segmentWrites_iff _ _ _).mp
      hBounds.hSegment
  have hAccepted :
      (sampleLoader 128).AcceptsSegment
        (readProgHeader
          (sampleFile (sampleHeaders 32 16 16)).unlogged.mem
          0x1000)
        (segmentDest 0x1000 sampleCallback
          (sampleFile
            (sampleHeaders 32 16 16)).unlogged) := by
    refine ⟨?_, ?_, ?_, ?_, ?_⟩ <;> decide +kernel
  rcases (hFits hAccepted).1 with hEmpty | hSmall
  · revert hEmpty
    decide +kernel
  · revert hSmall
    decide +kernel

end Elf

end Chihuahua
