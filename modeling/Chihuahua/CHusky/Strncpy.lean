import Chihuahua.CHusky.Strcat

/-
  `strncpy` as a bounded copy of a string.

  Its loop does not look at the bound, and the padding is
  written to the start of the destination.

  Main declarations:
    * `BoundedCopy`
    * `strncpyLoop_touched`
    * `copiedThenPadded`
    * `strncpyExact_iff`
-/

------------------------------------------------------------
-- The Copy
------------------------------------------------------------

namespace Chihuahua

namespace CHusky

open ByteMachine Tracked

/-
  Exactly the destination was written: the bytes of a source
  of the given length as far as they fit in, then zeros.
-/
structure BoundedCopy
    (mem : Memory)
    (dest source : Addr)
    (num length : Nat)
    (m : Machine) : Prop where
  hWritten : ∀ b, m.Touched b ↔ InRange dest num b
  hCopied :
    ∀ i, i < min length num →
      m.mem (dest + BitVec.ofNat 64 i) =
        mem (source + BitVec.ofNat 64 i)
  hPadded :
    ∀ i, min length num ≤ i → i < num →
      m.mem (dest + BitVec.ofNat 64 i) = 0
  hKept : ∀ b, ¬ InRange dest num b → m.mem b = mem b

/- The call comes to an end, with such a copy. -/
def StrncpyExact
    (mem : Memory)
    (dest source : Addr)
    (num : BitVec 64)
    (length : Nat) : Prop :=
  ∃ fuel result,
    strncpy fuel dest source num (start mem) =
        some result ∧
      BoundedCopy mem dest source num.toNat length
        result.2.toMachine

------------------------------------------------------------
-- Runs of the Loop
------------------------------------------------------------

/- What has been written stays written. -/
theorem strncpyLoop_keeps_touched
    {fuel : Nat}
    {d source : Addr}
    {num : BitVec 64}
    {t : Tracked}
    {result : BitVec 64 × Tracked}
    (hLoop : strncpyLoop fuel d source num t = some result)
    {b : Addr}
    (hTouched : t.toMachine.Touched b) :
    result.2.toMachine.Touched b := by
  induction fuel generalizing d source num t with
  | zero => simp [strncpyLoop] at hLoop
  | succ fuel ih =>
      rw [strncpyLoop] at hLoop
      split_ifs at hLoop with hByte
      · apply ih hLoop
        exact
          (Machine.touched_write8 t.toMachine d _ b).mpr
            (Or.inr hTouched)
      · rw [← Option.some.inj hLoop]
        exact hTouched

/-
  As long as there are bytes to copy, and copying does not
  change them, the loop goes on to the next one.
-/
theorem strncpyLoop_touched
    {n : Nat}
    (hSize : n + 1 < 2 ^ 64)
    {fuel : Nat}
    {d source : Addr}
    {num : BitVec 64}
    {t : Tracked}
    (hNonzero :
      ∀ i, i ≤ n → t.mem (source + BitVec.ofNat 64 i) ≠ 0)
    (hDisjoint : RangesDisjoint d n source (n + 1))
    {result : BitVec 64 × Tracked}
    (hLoop : strncpyLoop fuel d source num t = some result) :
    result.2.toMachine.Touched (d + BitVec.ofNat 64 n) := by
  induction n generalizing fuel d source num t with
  | zero =>
      have hFirst := hNonzero 0 le_rfl
      rw [add_ofNat_zero] at hFirst ⊢
      cases fuel with
      | zero => simp [strncpyLoop] at hLoop
      | succ fuel =>
          rw [strncpyLoop, if_pos hFirst] at hLoop
          apply strncpyLoop_keeps_touched hLoop
          exact
            (Machine.touched_write8 t.toMachine d _ d).mpr
              (Or.inl rfl)
  | succ n ih =>
      have hFirst := hNonzero 0 (Nat.zero_le _)
      rw [add_ofNat_zero] at hFirst
      cases fuel with
      | zero => simp [strncpyLoop] at hLoop
      | succ fuel =>
          rw [strncpyLoop, if_pos hFirst] at hLoop
          rw [← add_one_add_ofNat]
          refine
            ih (by omega) ?_
              (disjoint_succ (by omega) (by omega) hDisjoint)
              hLoop
          intro i hi
          have hOther :
              source + 1 + BitVec.ofNat 64 i ≠ d := by
            intro hHit
            apply hDisjoint d (first_inRange d n)
            rw [← hHit, add_one_add_ofNat]
            exact inRange_add_ofNat source (by omega)
          show
            (t.toMachine.write8 d (t.mem source)).mem
                (source + 1 + BitVec.ofNat 64 i) ≠
              0
          rw [Machine.write8_mem, if_neg hOther,
            add_one_add_ofNat]
          exact hNonzero (i + 1) (by omega)

------------------------------------------------------------
-- Main Result
------------------------------------------------------------

section Calls

variable {mem : Memory} {dest source : Addr}
variable {num : BitVec 64} {text : List Byte}

theorem strncpy_of_loop
    {fuel : Nat}
    {result : Addr × Tracked}
    (hCall :
      strncpy fuel dest source num (start mem) =
        some result) :
    ∃ looped,
      strncpyLoop fuel dest source num (start mem) =
          some looped ∧
        result.2.toMachine =
          (memset dest 0 looped.1 looped.2.toMachine).2 := by
  simp only [strncpy, Option.bind_eq_bind,
    Option.pure_def] at hCall
  rcases Option.bind_eq_some_iff.mp hCall with
    ⟨looped, hLoop, hResult⟩
  refine ⟨looped, hLoop, ?_⟩
  rw [← Option.some.inj hResult]

/- The text is copied, and zeros are put over its start. -/
def copiedThenPadded
    (mem : Memory)
    (dest source : Addr)
    (num : BitVec 64)
    (length : Nat) : Machine :=
  (memset dest 0 (num - BitVec.ofNat 64 length)
    (Essentials.memcpyLoop length dest source
      (start mem).toMachine)).2

variable (hString : HoldsString mem source text)
variable
  (hDisjoint :
    RangesDisjoint dest num.toNat source
      (text.length + 1))

include hString hDisjoint

theorem strncpyExact_iff_of_fits
    (hFits : text.length ≤ num.toNat) :
    StrncpyExact mem dest source num text.length ↔
      BoundedCopy mem dest source num.toNat text.length
        (copiedThenPadded mem dest source num
          text.length) := by
  have hApart :
      RangesDisjoint dest text.length source
        (text.length + 1) := by
    intro a hRange
    exact hDisjoint a (hRange.mono hFits)
  rcases
    @strncpyLoop_of_string (text.length + 1) dest source num
      (start mem) text hString hApart
      (Nat.lt_succ_self _) with
    ⟨t, hLoop, hMachine⟩
  constructor
  · rintro ⟨fuel, result, hCall, hCopy⟩
    rcases strncpy_of_loop hCall with
      ⟨looped, hLooped, hResult⟩
    have hSame :=
      Fueled.result_unique
        (strncpyLoop · dest source num (start mem))
        (fun hFuel => strncpyLoop_mono hFuel) hLooped hLoop
    rw [hSame, hMachine] at hResult
    rw [hResult] at hCopy
    exact hCopy
  · intro hCopy
    have hCall :
        strncpy (text.length + 1) dest source num
            (start mem) =
          some
            (dest,
              { t with
                toMachine :=
                  copiedThenPadded mem dest source num
                    text.length }) := by
      simp only [strncpy, hLoop, Option.bind_eq_bind,
        Option.bind_some, Option.pure_def, hMachine,
        copiedThenPadded]
    exact ⟨text.length + 1, _, hCall, hCopy⟩

omit hString hDisjoint in
/- An empty string is all padding. -/
theorem boundedCopy_of_empty :
    BoundedCopy mem dest source num.toNat 0
      (copiedThenPadded mem dest source num 0) := by
  have hAll : num - BitVec.ofNat 64 0 = num := by simp
  have hFills :
      Machine.Fills 0 (start mem).toMachine
        (copiedThenPadded mem dest source num 0)
        (InRange dest num.toNat) := by
    unfold copiedThenPadded
    rw [hAll]
    exact Essentials.memset_fills dest 0 num _
  refine
    { hWritten := ?_
      hCopied := ?_
      hPadded := ?_
      hKept := hFills.kept }
  · intro b
    rw [hFills.touched]
    exact
      or_iff_left
        (Machine.not_touched_of_stores_nil rfl b)
  · intro i hi
    rw [Nat.zero_min] at hi
    exact absurd hi (Nat.not_lt_zero i)
  · intro i _ hi
    exact hFills.filled _ (inRange_add_ofNat dest hi)

omit hString in
/- A string that fills the bound leaves nothing to pad. -/
theorem boundedCopy_of_full
    (hFull : text.length = num.toNat) :
    BoundedCopy mem dest source num.toNat num.toNat
      (copiedThenPadded mem dest source num num.toNat) := by
  have hForward : num.toNat ≤ (dest - source).toNat :=
    forward_of_disjoint (by omega) hDisjoint
  have hNone : num - BitVec.ofNat 64 num.toNat = 0 := by
    rw [BitVec.ofNat_toNat, BitVec.setWidth_eq,
      BitVec.sub_self]
    rfl
  have hMachine :
      copiedThenPadded mem dest source num num.toNat =
        Essentials.memcpyLoop num.toNat dest source
          (start mem).toMachine := by
    unfold copiedThenPadded
    rw [hNone]
    rfl
  have hMem :=
    Essentials.memcpyLoop_mem num.isLt.le (Or.inr hForward)
      (start mem).toMachine
  rw [hMachine]
  refine
    { hWritten := ?_
      hCopied := ?_
      hPadded := ?_
      hKept := ?_ }
  · intro b
    rw [Essentials.touched_memcpyLoop num.isLt.le]
    exact
      or_iff_left
        (Machine.not_touched_of_stores_nil rfl b)
  · intro i hi
    rw [Nat.min_self] at hi
    rw [hMem, Memory.paint_apply,
      if_pos (inRange_add_ofNat dest hi)]
    dsimp only
    rw [add_ofNat_sub_toNat dest (hi.trans num.isLt)]
    rfl
  · intro i hLow hHigh
    rw [Nat.min_self] at hLow
    exact absurd hHigh (not_lt.mpr hLow)
  · intro b hOutside
    rw [hMem, Memory.paint_apply, if_neg hOutside]
    rfl

omit hDisjoint in
/- Otherwise the padding begins with the text. -/
theorem not_boundedCopy_of_short
    (hNonempty : 0 < text.length)
    (hShort : text.length < num.toNat) :
    ¬ BoundedCopy mem dest source num.toNat text.length
        (copiedThenPadded mem dest source num
          text.length) := by
  intro hCopy
  have hFirst :=
    hCopy.hCopied 0 (by rw [lt_min_iff]; omega)
  rw [add_ofNat_zero, add_ofNat_zero] at hFirst
  have hByte : mem source ≠ 0 := by
    have hHead := hString.hText 0 hNonempty
    rw [add_ofNat_zero] at hHead
    rw [hHead]
    exact hString.hNonzero _ (List.getElem_mem hNonempty)
  have hStart :
      InRange dest
        (num - BitVec.ofNat 64 text.length).toNat dest := by
    unfold InRange
    rw [BitVec.sub_self]
    bv_omega
  apply hByte
  rw [← hFirst]
  exact
    (Essentials.memset_fills dest 0
      (num - BitVec.ofNat 64 text.length) _).filled dest
      hStart

/- A longer string is copied beyond the bound. -/
theorem not_strncpyExact_of_long
    (hLong : num.toNat < text.length) :
    ¬ StrncpyExact mem dest source num text.length := by
  rintro ⟨fuel, result, hCall, hCopy⟩
  rcases strncpy_of_loop hCall with
    ⟨looped, hLooped, hResult⟩
  have hSize := hString.length_lt
  have hNonzero :
      ∀ i, i ≤ num.toNat →
        (start mem).mem (source + BitVec.ofNat 64 i) ≠
          0 := by
    intro i hi
    have hIndex : i < text.length := by omega
    show mem (source + BitVec.ofNat 64 i) ≠ 0
    rw [hString.hText i hIndex]
    exact hString.hNonzero _ (List.getElem_mem hIndex)
  have hApart :
      RangesDisjoint dest num.toNat source
        (num.toNat + 1) := by
    intro a hDest hSource
    exact hDisjoint a hDest (hSource.mono (by omega))
  have hBeyond :
      result.2.toMachine.Touched
        (dest + BitVec.ofNat 64 num.toNat) := by
    rw [hResult]
    exact
      (Essentials.touched_memset dest 0 _ _ _).mpr
        (Or.inr
          (strncpyLoop_touched (by omega) hNonzero hApart
            hLooped))
  have hInside := (hCopy.hWritten _).mp hBeyond
  unfold InRange at hInside
  rw [add_ofNat_sub_toNat dest num.isLt] at hInside
  exact lt_irrefl _ hInside

/-
  `strncpy` is the bounded copy only of an empty string and
  of a string that is exactly as long as the bound.
-/
theorem strncpyExact_iff :
    StrncpyExact mem dest source num text.length ↔
      text.length = 0 ∨ text.length = num.toNat := by
  by_cases hFits : text.length ≤ num.toNat
  · rw [strncpyExact_iff_of_fits hString hDisjoint hFits]
    constructor
    · intro hCopy
      by_contra hNeither
      rw [not_or] at hNeither
      exact
        not_boundedCopy_of_short hString (by omega)
          (by omega) hCopy
    · rintro (hEmpty | hFull)
      · rw [hEmpty]
        exact boundedCopy_of_empty
      · rw [hFull]
        exact boundedCopy_of_full hDisjoint hFull
  · refine
      iff_of_false
        (not_strncpyExact_of_long hString hDisjoint
          (not_le.mp hFits)) ?_
    omega

end Calls

------------------------------------------------------------
-- A Text That Is Lost
------------------------------------------------------------

theorem strncpyExact_iff_sample :
    StrncpyExact usedMemory 0x1000 0x2000 4 2 ↔
      ([0x68, 0x69] : List Byte).length = 0 ∨
        ([0x68, 0x69] : List Byte).length =
          (4 : BitVec 64).toNat :=
  strncpyExact_iff used_back
    (used_disjoint (by decide) (by decide))

/- Two bytes copied with a bound of four are overwritten. -/
theorem strncpyExact_fails :
    HoldsString usedMemory 0x2000 [0x68, 0x69] ∧
      RangesDisjoint 0x1000 (4 : BitVec 64).toNat 0x2000 3 ∧
      ¬ StrncpyExact usedMemory 0x1000 0x2000 4 2 := by
  have hDisjoint :
      RangesDisjoint 0x1000 (4 : BitVec 64).toNat 0x2000 3 :=
    used_disjoint (by decide) (by decide)
  refine ⟨used_back, hDisjoint, ?_⟩
  intro hExact
  have hCopy :=
    (strncpyExact_iff_of_fits used_back hDisjoint
      (by decide)).mp hExact
  exact
    not_boundedCopy_of_short used_back (by decide)
      (by decide) hCopy

end CHusky

end Chihuahua
