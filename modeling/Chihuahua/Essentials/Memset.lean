import Chihuahua.Essentials.MemEssentials

/-
  `memset` against the plain byte loop that its source keeps
  as a comment, and the stores of its word loop.

  Main declarations:
    * `memsetByteLoop` and `memsetByteLoop_fills`
    * `WordInside` and `memset_wordInside`
    * `MemsetExact` and `memset_exact`
-/

------------------------------------------------------------
-- The Plain Loop
------------------------------------------------------------

namespace Chihuahua

namespace Essentials

open ByteMachine Machine

/- One byte at a time, with `n` bytes left. -/
def memsetByteLoop
    (c : BitVec 32) :
    Nat → Addr → Machine → Machine
| 0, _, m => m
| n + 1, s, m =>
    memsetByteLoop c n (s + 1) (m.write8 s (c.setWidth 8))

theorem memsetByteLoop_fills
    (c : BitVec 32)
    {n : Nat}
    (hSize : n ≤ 2 ^ 64)
    (s : Addr)
    (m : Machine) :
    Fills (c.setWidth 8) m (memsetByteLoop c n s m)
      (InRange s n) := by
  induction n generalizing s m with
  | zero =>
      apply (Fills.refl (c.setWidth 8) m).congr
      intro b
      exact (iff_false_right (not_inRange_zero s b)).mpr id
  | succ n ih =>
      apply
        ((Fills.write8 (c.setWidth 8) m s).trans
          (ih (by omega) (s + 1) _)).congr
      intro b
      have hHead : b = s ↔ (b - s).toNat = 0 := by
        rw [← inRange_one_iff]
        unfold InRange
        omega
      rw [inRange_succ_iff s b (by omega), hHead]
      unfold InRange
      omega

------------------------------------------------------------
-- The Words
------------------------------------------------------------

/- A store of four bytes is aligned and inside the area. -/
def WordInside
    (dest : Addr)
    (n : Nat)
    (st : Store) : Prop :=
  st.size = 4 →
    Aligned 4 st.address ∧
      ∀ b, InRange st.address 4 b → InRange dest n b

theorem adds_write8
    (dest : Addr)
    (n : Nat)
    (m : Machine)
    (a : Addr)
    (v : Byte) :
    Adds (WordInside dest n) m (m.write8 a v) := by
  apply Adds.write
  intro hWord
  simp at hWord

/- The word loop, from an offset that makes it aligned. -/
theorem memsetLoop_wordInside
    (w_c : BitVec 32)
    {dest : Addr}
    {n : Nat}
    (hSize : n ≤ 2 ^ 64)
    {offset words : Nat}
    (hAligned : (dest.toNat + offset) % 4 = 0)
    (hInside : offset + 4 * words ≤ n)
    (m : Machine) :
    Adds (WordInside dest n) m
      (memsetLoop w_c words (dest + BitVec.ofNat 64 offset)
        m) := by
  induction words generalizing offset m with
  | zero => exact Adds.refl _ m
  | succ words ih =>
      have hNext :
          dest + BitVec.ofNat 64 offset + 4 =
            dest + BitVec.ofNat 64 (offset + 4) := by
        rw [BitVec.ofNat_add, ← BitVec.add_assoc]
        rfl
      have hStore :
          WordInside dest n
            ⟨dest + BitVec.ofNat 64 offset, 4⟩ := by
        intro _
        constructor
        · show (dest + BitVec.ofNat 64 offset).toNat % 4 = 0
          rw [BitVec.toNat_add, BitVec.toNat_ofNat]
          omega
        · intro b hWord
          rw [inRange_add_iff dest b (by omega)] at hWord
          unfold InRange
          omega
      rw [memsetLoop, hNext]
      exact
        (Adds.write m w_c hStore).trans
          (@ih (offset + 4) (by omega) (by omega) _)

theorem neg_and_three_toNat
    (a : Addr) :
    (-a &&& (3 : Addr)).toNat = (2 ^ 64 - a.toNat) % 4 := by
  have hThree : (3 : Addr).toNat = 2 ^ 2 - 1 := rfl
  rw [BitVec.toNat_and, hThree,
    Nat.and_two_pow_sub_one_eq_mod, BitVec.toNat_neg]
  omega

theorem memset_wordInside
    (dest : Addr)
    (c : BitVec 32)
    (n : BitVec 64)
    (m : Machine) :
    Adds (WordInside dest n.toNat) m
      (memset dest c n m).2 := by
  have hByte (m : Machine) (a : Addr) :
      Adds (WordInside dest n.toNat) m
        (m.write8 a (c.setWidth 8)) :=
    adds_write8 dest n.toNat m a _
  unfold memset
  dsimp only
  have hTwo :=
    (hByte m (dest + (n - 1))).trans (hByte _ dest)
  have hSix :=
    ((((hTwo.trans (hByte _ (dest + (n - 2)))).trans
      (hByte _ (dest + 1))).trans
      (hByte _ (dest + (n - 3)))).trans
      (hByte _ (dest + 2)))
  have hEight :=
    (hSix.trans (hByte _ (dest + (n - 4)))).trans
      (hByte _ (dest + 3))
  split_ifs with hZero hLeTwo hLeSix hLeEight
  · exact Adds.refl _ m
  · exact hTwo
  · exact hSix
  · exact hEight
  · have hStart :
        dest + (-dest &&& (3 : Addr)) =
          dest +
            BitVec.ofNat 64 (-dest &&& (3 : Addr)).toNat := by
      rw [BitVec.ofNat_toNat, BitVec.setWidth_eq]
    have hLow := neg_and_three_toNat dest
    have hLength :
        (n - (-dest &&& (3 : Addr))).toNat =
          n.toNat - (-dest &&& (3 : Addr)).toNat := by
      apply BitVec.toNat_sub_of_le
      bv_omega
    have hWords := words_toNat (n - (-dest &&& (3 : Addr)))
    rw [hLength] at hWords
    rw [hStart, hWords]
    have hDest := dest.isLt
    exact
      hEight.trans
        (memsetLoop_wordInside _ n.isLt.le (by omega)
          (by bv_omega) _)

------------------------------------------------------------
-- Main Result
------------------------------------------------------------

/-
  The area is filled and nothing else changes, as the plain
  loop does it, and the word loop stays inside the area.
-/
structure MemsetExact
    (dest : Addr)
    (c : BitVec 32)
    (n : BitVec 64)
    (m : Machine) : Prop where
  hFilled :
    ∀ i, i < n.toNat →
      (memset dest c n m).2.mem (dest + BitVec.ofNat 64 i) =
        c.setWidth 8
  hKept :
    ∀ a, ¬ InRange dest n.toNat a →
      (memset dest c n m).2.mem a = m.mem a
  hLoop :
    (memset dest c n m).2.mem =
      (memsetByteLoop c n.toNat dest m).mem
  hWords :
    ∃ new,
      (memset dest c n m).2.stores = new ++ m.stores ∧
        ∀ st ∈ new, WordInside dest n.toNat st

/- No area is excluded, not even one that wraps. -/
theorem memset_exact
    (dest : Addr)
    (c : BitVec 32)
    (n : BitVec 64)
    (m : Machine) :
    MemsetExact dest c n m := by
  have hFills := memset_fills dest c n m
  have hPlain := memsetByteLoop_fills c n.isLt.le dest m
  refine
    { hFilled := ?_
      hKept := hFills.kept
      hLoop := ?_
      hWords := memset_wordInside dest c n m }
  · intro i hi
    exact hFills.filled _ (inRange_add_ofNat dest hi)
  · funext a
    by_cases hRange : InRange dest n.toNat a
    · rw [hFills.filled a hRange, hPlain.filled a hRange]
    · rw [hFills.kept a hRange, hPlain.kept a hRange]

end Essentials

end Chihuahua
