import Chihuahua.Essentials.MemEssentials

/-
  `memmove` of the essentials library, which `c_husky` has
  once more in the same words.

  Main declarations:
    * `memmove` and `memmoveLoop`
    * `memcpyLoop_mem_of_offset`, also where areas overlap
    * `memmoveLoop_mem`
    * `OverlapTest` and `overlapTest_iff`
    * `CopiesForward` and `copiesForward_memcpy`
    * `MovesBytes` and `movesBytes_iff`
-/

------------------------------------------------------------
-- The Function
------------------------------------------------------------

namespace Chihuahua

namespace Essentials

open ByteMachine

/- The backward loop: `d[n] = s[n]` before `n` goes down. -/
def memmoveLoop :
    Nat → Addr → Addr → Machine → Machine
| 0, _, _, m => m
| n + 1, d, s, m =>
    memmoveLoop n d s
      (m.write8 (d + BitVec.ofNat 64 (n + 1))
        (m.mem (s + BitVec.ofNat 64 (n + 1))))

/- The forward loop is the one of `memcpy`. -/
def memmove
    (dest src : Addr)
    (n : BitVec 64)
    (m : Machine) : Addr × Machine :=
  let d := dest
  let s := src
  if d = s then (d, m)
  else if s - d - n ≤ -2 * n then memcpy d s n m
  else if d < s then (dest, memcpyLoop n.toNat d s m)
  else (dest, memmoveLoop n.toNat d s m)

/-
  Each byte of the destination is the old byte of the
  source, and nothing else changes.
-/
structure MovesBytes
    (dest src : Addr)
    (n : BitVec 64)
    (m : Machine) : Prop where
  hMoved :
    ∀ i, i < n.toNat →
      (memmove dest src n m).2.mem
          (dest + BitVec.ofNat 64 i) =
        m.mem (src + BitVec.ofNat 64 i)
  hKept :
    ∀ a, ¬ InRange dest n.toNat a →
      (memmove dest src n m).2.mem a = m.mem a

------------------------------------------------------------
-- The Loops
------------------------------------------------------------

/-
  After a byte has been copied up by the offset, the bytes
  to come are found where they are found without the copy.
-/
theorem mem_write8_repeat
    {offset : Nat}
    (hPos : 0 < offset)
    (hOffset : offset < 2 ^ 64)
    (src : Addr)
    (m : Machine)
    (i : Nat) :
    (m.write8 (src + BitVec.ofNat 64 offset)
          (m.mem src)).mem
        (src + 1 + BitVec.ofNat 64 (i % offset)) =
      m.mem (src + BitVec.ofNat 64 ((i + 1) % offset)) := by
  have hMod : i % offset < offset :=
    Nat.mod_lt i hPos
  have hStep :
      src + 1 + BitVec.ofNat 64 (i % offset) =
        src + BitVec.ofNat 64 (i % offset + 1) := by
    rw [BitVec.ofNat_add, BitVec.add_assoc,
      BitVec.add_comm 1]
    rfl
  rw [hStep, Machine.write8_mem]
  by_cases hWrap : i % offset + 1 = offset
  · have hZero : (i + 1) % offset = 0 := by
      rw [← Nat.mod_add_mod, hWrap, Nat.mod_self]
    rw [if_pos (by rw [hWrap]), hZero]
    simp
  · have hSucc : (i + 1) % offset = i % offset + 1 := by
      rw [← Nat.mod_add_mod]
      exact Nat.mod_eq_of_lt (by omega)
    rw [if_neg (by bv_omega), hSucc]

/-
  The forward loop on areas that may overlap: the bytes
  before the destination are repeated, as a byte that is
  read past them has been written by the loop.
-/
theorem memcpyLoop_mem_of_offset
    {n : Nat}
    (hSize : n ≤ 2 ^ 64)
    {offset : Nat}
    (hPos : 0 < offset)
    (hOffset : offset < 2 ^ 64)
    (src : Addr)
    (m : Machine) :
    (memcpyLoop n (src + BitVec.ofNat 64 offset) src m).mem =
      m.mem.paint
        { base := src + BitVec.ofNat 64 offset
          size := n
          content := fun i =>
            m.mem (src + BitVec.ofNat 64 (i % offset)) } := by
  induction n generalizing src m with
  | zero =>
      funext a
      rw [Memory.paint_apply,
        if_neg (not_inRange_zero _ a)]
      rfl
  | succ n ih =>
      have hNext :
          src + BitVec.ofNat 64 offset + 1 =
            src + 1 + BitVec.ofNat 64 offset := by
        rw [BitVec.add_assoc, BitVec.add_assoc,
          BitVec.add_comm _ 1]
      -- the byte the loop reads at a later step
      have hRead := mem_write8_repeat hPos hOffset src m
      rw [memcpyLoop, hNext, ih (by omega), ← hNext]
      funext a
      have hTail :=
        inRange_succ_iff (src + BitVec.ofNat 64 offset) a
          (Nat.lt_of_succ_le hSize)
      simp only [Memory.paint_apply, hTail, hRead]
      by_cases hHead : a = src + BitVec.ofNat 64 offset
      · subst hHead
        have hZero :
            (src + BitVec.ofNat 64 offset -
                (src + BitVec.ofNat 64 offset)).toNat =
              0 := by
          rw [BitVec.sub_self]
          rfl
        have hCovers :
            InRange (src + BitVec.ofNat 64 offset) (n + 1)
              (src + BitVec.ofNat 64 offset) := by
          unfold InRange
          omega
        rw [if_neg (by omega), if_pos hCovers, hZero,
          Nat.zero_mod, Machine.write8_mem, if_pos rfl]
        simp
      · have hBack :
            (a - (src + BitVec.ofNat 64 offset + 1)).toNat +
                1 =
              (a - (src + BitVec.ofNat 64 offset)).toNat := by
          bv_omega
        have hLater :
            1 ≤ (a - (src + BitVec.ofNat 64 offset)).toNat := by
          bv_omega
        rw [hBack, Machine.write8_mem, if_neg hHead]
        simp only [hLater, true_and]
        rfl

/-
  The backward loop: the bytes it still has to read are
  below those it has written, provided the destination does
  not come around to the source again.
-/
theorem memmoveLoop_mem
    {n : Nat}
    {d s : Addr}
    (hBackward : n + (d - s).toNat ≤ 2 ^ 64)
    (hSize : n < 2 ^ 64)
    (m : Machine) :
    (memmoveLoop n d s m).mem =
      m.mem.paint
        { base := d + 1
          size := n
          content := fun i =>
            m.mem (s + BitVec.ofNat 64 (i + 1)) } := by
  induction n generalizing m with
  | zero =>
      funext a
      rw [Memory.paint_apply,
        if_neg (not_inRange_zero _ a)]
      rfl
  | succ n ih =>
      rw [memmoveLoop, ih (by omega) (by omega)]
      funext a
      have hShort :=
        inRange_succ_iff d a (show n < 2 ^ 64 by omega)
      have hLong :=
        inRange_succ_iff d a (show n + 1 < 2 ^ 64 by omega)
      simp only [Memory.paint_apply, hShort, hLong]
      by_cases hLast : a = d + BitVec.ofNat 64 (n + 1)
      · have hOffset : (a - d).toNat = n + 1 := by
          rw [hLast]
          exact add_ofNat_sub_toNat d (by omega)
        have hBack : (a - (d + 1)).toNat + 1 = n + 1 := by
          bv_omega
        rw [if_neg (by omega), if_pos (by omega), hBack,
          Machine.write8_mem, if_pos hLast]
      · have hOffset : (a - d).toNat ≠ n + 1 := by
          intro hEq
          apply hLast
          rw [← hEq]
          exact eq_add_ofNat_offset d a
        by_cases hRange :
            1 ≤ (a - d).toNat ∧ (a - d).toNat < n + 1
        · have hBack :
              (a - (d + 1)).toNat + 1 = (a - d).toNat := by
            bv_omega
          have hUnwritten :
              s + BitVec.ofNat 64 (a - d).toNat ≠
                d + BitVec.ofNat 64 (n + 1) := by
            intro hHit
            bv_omega
          rw [if_pos hRange, if_pos (by omega), hBack,
            Machine.write8_mem, if_neg hUnwritten]
        · rw [if_neg hRange, if_neg (by omega),
            Machine.write8_mem, if_neg hLast]

------------------------------------------------------------
-- Which Loop Is Taken
------------------------------------------------------------

/- The destination starts strictly inside the source. -/
def StartsInside
    (dest src : Addr)
    (n : BitVec 64) : Prop :=
  src.toNat < dest.toNat ∧
    dest.toNat < src.toNat + n.toNat

theorem neg_two_mul_eq
    (n : BitVec 64) :
    -2 * n = -(n + n) := by
  have hTwo : (2 : BitVec 64) * n = n + n :=
    BitVec.two_mul
  rw [BitVec.neg_mul, hTwo]

/- The one comparison that sends a move to `memcpy`. -/
def OverlapTest
    (d s : Addr)
    (n : BitVec 64) : Prop :=
  s - d - n ≤ -2 * n

instance
    (d s : Addr)
    (n : BitVec 64) :
    Decidable (OverlapTest d s n) := by
  unfold OverlapTest
  infer_instance

theorem memmove_eq
    (dest src : Addr)
    (n : BitVec 64)
    (m : Machine) :
    memmove dest src n m =
      if dest = src then (dest, m)
      else if OverlapTest dest src n then
        memcpy dest src n m
      else if dest < src then
        (dest, memcpyLoop n.toNat dest src m)
      else (dest, memmoveLoop n.toNat dest src m) := rfl

/-
  Two ranges of one length on the circle of addresses are
  apart if each one starts past the other's end.
-/
theorem rangesDisjoint_iff_of_size
    (s d : Addr)
    {n : BitVec 64}
    (hPos : 0 < n.toNat) :
    RangesDisjoint s n.toNat d n.toNat ↔
      n.toNat ≤ (s - d).toNat ∧ n.toNat ≤ (d - s).toNat := by
  unfold RangesDisjoint InRange
  constructor
  · intro hDisjoint
    have hAtS := hDisjoint s
    have hAtD := hDisjoint d
    rw [BitVec.sub_self] at hAtS hAtD
    constructor
    · exact not_lt.mp (hAtS hPos)
    · by_contra hNear
      exact hAtD (not_le.mp hNear) hPos
  · intro hApart a hInS hInD
    bv_omega

/-
  The doubled length does not wrap up to half of the address
  space, and the test then puts the distance of the areas
  between the length and its complement.
-/
theorem overlapTest_iff
    (s d : Addr)
    {n : BitVec 64}
    (hPos : 0 < n.toNat)
    (hSize : n.toNat ≤ 2 ^ 63) :
    OverlapTest d s n ↔
      RangesDisjoint s n.toNat d n.toNat := by
  rw [rangesDisjoint_iff_of_size s d hPos, OverlapTest,
    neg_two_mul_eq]
  bv_omega

/- Half of the address space, and the other half. -/
theorem overlapTest_iff_at_half :
    OverlapTest 0x8000000000000000 0 0x8000000000000000 ↔
      RangesDisjoint
        0 (0x8000000000000000 : BitVec 64).toNat
        0x8000000000000000
        (0x8000000000000000 : BitVec 64).toNat :=
  overlapTest_iff 0 0x8000000000000000 (by decide) (by decide)

------------------------------------------------------------
-- Copying Forward
------------------------------------------------------------

/-
  What a forward copy leaves behind: the bytes are moved
  unless the destination starts inside the source, and there
  the bytes before the destination are repeated.
-/
structure CopiesForward
    (copy :
      Addr → Addr → BitVec 64 → Machine → Addr × Machine)
    (dest src : Addr)
    (n : BitVec 64)
    (m : Machine) : Prop where
  hMoved :
    ¬ StartsInside dest src n →
      ∀ i, i < n.toNat →
        (copy dest src n m).2.mem
            (dest + BitVec.ofNat 64 i) =
          m.mem (src + BitVec.ofNat 64 i)
  hRepeated :
    ∀ offset, 0 < offset → offset < n.toNat →
      dest = src + BitVec.ofNat 64 offset →
      ∀ i, i < n.toNat →
        (copy dest src n m).2.mem
            (dest + BitVec.ofNat 64 i) =
          m.mem (src + BitVec.ofNat 64 (i % offset))
  hKept :
    ∀ a, ¬ InRange dest n.toNat a →
      (copy dest src n m).2.mem a = m.mem a

/- What the loop copies, at a distance of the areas. -/
theorem memcpy_mem_of_ne
    {dest src : Addr}
    (hNe : dest ≠ src)
    (n : BitVec 64)
    (m : Machine) :
    (memcpy dest src n m).2.mem =
      m.mem.paint
        { base := dest
          size := n.toNat
          content := fun i =>
            m.mem
              (src +
                BitVec.ofNat 64
                  (i % (dest - src).toNat)) } := by
  have hLoop :=
    @memcpyLoop_mem_of_offset n.toNat n.isLt.le
      (dest - src).toNat (by bv_omega) (dest - src).isLt src m
  rw [← eq_add_ofNat_offset src dest] at hLoop
  exact hLoop

theorem copiesForward_memcpy
    {dest src : Addr}
    {n : BitVec 64}
    (hDest : dest.toNat + n.toNat ≤ 2 ^ 64)
    (hSrc : src.toNat + n.toNat ≤ 2 ^ 64)
    (m : Machine) :
    CopiesForward memcpy dest src n m where
  hMoved := by
    intro hOutside i hi
    unfold StartsInside at hOutside
    have hForward :
        dest = src ∨ n.toNat ≤ (dest - src).toNat := by
      bv_omega
    have hCopied := memcpyLoop_mem n.isLt.le hForward m
    rw [memcpy, hCopied, Memory.paint_apply,
      if_pos (inRange_add_ofNat dest hi)]
    dsimp only
    rw [add_ofNat_sub_toNat dest (hi.trans n.isLt)]
  hRepeated := by
    intro offset hPos hOffset hEq i hi
    have hLt : offset < 2 ^ 64 := hOffset.trans n.isLt
    have hDistance : (dest - src).toNat = offset := by
      rw [hEq]
      exact add_ofNat_sub_toNat src hLt
    have hNe : dest ≠ src := by
      intro hSame
      rw [hSame, BitVec.sub_self] at hDistance
      exact hPos.ne hDistance
    rw [memcpy_mem_of_ne hNe, Memory.paint_apply,
      if_pos (inRange_add_ofNat dest hi)]
    dsimp only
    rw [add_ofNat_sub_toNat dest (hi.trans n.isLt),
      hDistance]
  hKept := by
    intro a hOutside
    by_cases hSame : dest = src
    · rw [memcpy,
        memcpyLoop_mem n.isLt.le (Or.inl hSame) m,
        Memory.paint_apply, if_neg hOutside]
    · rw [memcpy_mem_of_ne hSame, Memory.paint_apply,
        if_neg hOutside]

section Choice

variable {dest src : Addr} {n : BitVec 64}
variable (hDest : dest.toNat + n.toNat ≤ 2 ^ 64)
variable (hSrc : src.toNat + n.toNat ≤ 2 ^ 64)

include hDest hSrc

/- Copying forward is right, and that is what is done. -/
theorem memmove_of_not_startsInside
    (hOutside : ¬ StartsInside dest src n)
    (m : Machine) :
    (memmove dest src n m).2.mem =
      m.mem.paint
        { base := dest
          size := n.toNat
          content := fun i =>
            m.mem (src + BitVec.ofNat 64 i) } := by
  unfold StartsInside at hOutside
  have hForward :
      dest = src ∨ n.toNat ≤ (dest - src).toNat := by
    bv_omega
  have hCopied := memcpyLoop_mem n.isLt.le hForward m
  unfold memmove
  dsimp only
  split_ifs with hSame hTest hBelow
  · subst hSame
    funext a
    rw [Memory.paint_apply]
    dsimp only
    rw [← eq_add_ofNat_offset dest a, ite_self]
  · exact hCopied
  · exact hCopied
  · -- neither test fires only for n = 0
    have hZero : n = 0 := by
      rw [neg_two_mul_eq] at hTest
      bv_omega
    subst hZero
    funext a
    rw [Memory.paint_apply]
    exact (if_neg (not_inRange_zero _ a)).symm

/- Short areas: the loop goes backward. -/
theorem memmove_of_short
    (hInside : StartsInside dest src n)
    (hShort : n.toNat ≤ 2 ^ 63)
    (m : Machine) :
    (memmove dest src n m).2.mem =
      m.mem.paint
        { base := dest + 1
          size := n.toNat
          content := fun i =>
            m.mem (src + BitVec.ofNat 64 (i + 1)) } := by
  rcases hInside with ⟨hAbove, hBelow⟩
  have hLoop :=
    memmoveLoop_mem (n := n.toNat) (d := dest) (s := src)
      (by bv_omega) n.isLt m
  unfold memmove
  dsimp only
  rw [neg_two_mul_eq, if_neg (by bv_omega),
    if_neg (by bv_omega), if_neg (by bv_omega)]
  exact hLoop

/-
  Areas of more than half of the address space: the doubled
  length in the test wraps, and the copy goes forward.
-/
omit hSrc in
theorem memmove_of_long
    (hInside : StartsInside dest src n)
    (hLong : 2 ^ 63 < n.toNat)
    (m : Machine) :
    (memmove dest src n m).2.mem =
      m.mem.paint
        { base := dest
          size := n.toNat
          content := fun i =>
            m.mem
              (src +
                BitVec.ofNat 64
                  (i % (dest - src).toNat)) } := by
  rcases hInside with ⟨hAbove, hBelow⟩
  have hNe : dest ≠ src := by bv_omega
  have hTest : OverlapTest dest src n := by
    rw [OverlapTest, neg_two_mul_eq]
    bv_omega
  rw [memmove_eq, if_neg hNe, if_pos hTest]
  exact memcpy_mem_of_ne hNe n m

end Choice

------------------------------------------------------------
-- When the Bytes Are Moved
------------------------------------------------------------

/-
  The bytes the backward loop gets wrong, the first of the
  destination and the one behind it, happen to fit.
-/
structure EndsFit
    (dest src : Addr)
    (n : BitVec 64)
    (mem : Memory) : Prop where
  hFirst : mem dest = mem src
  hBehind : mem (dest + n) = mem (src + n)

/- The source repeats at the distance of the two areas. -/
def Repeats
    (dest src : Addr)
    (n : BitVec 64)
    (mem : Memory) : Prop :=
  ∀ i, i + (dest - src).toNat < n.toNat →
    mem (src + BitVec.ofNat 64 (i + (dest - src).toNat)) =
      mem (src + BitVec.ofNat 64 i)

section Exactness

variable {dest src : Addr} {n : BitVec 64}
variable (hDest : dest.toNat + n.toNat ≤ 2 ^ 64)
variable (hSrc : src.toNat + n.toNat ≤ 2 ^ 64)

theorem movesBytes_of_paint
    {m : Machine}
    (hPainted :
      (memmove dest src n m).2.mem =
        m.mem.paint
          { base := dest
            size := n.toNat
            content := fun i =>
              m.mem (src + BitVec.ofNat 64 i) }) :
    MovesBytes dest src n m where
  hMoved i hi := by
    have hOffset := add_ofNat_sub_toNat dest (hi.trans n.isLt)
    rw [hPainted, Memory.paint_apply,
      if_pos (inRange_add_ofNat dest hi)]
    dsimp only
    rw [hOffset]
  hKept a hOutside := by
    rw [hPainted, Memory.paint_apply, if_neg hOutside]

include hDest hSrc

/- The first byte is not copied. -/
theorem memmove_of_short_first
    (hInside : StartsInside dest src n)
    (hShort : n.toNat ≤ 2 ^ 63)
    (m : Machine) :
    (memmove dest src n m).2.mem dest = m.mem dest := by
  rw [memmove_of_short hDest hSrc hInside hShort m,
    Memory.paint_apply, if_neg]
  rw [inRange_succ_iff dest dest n.isLt, BitVec.sub_self]
  simp

/- The byte behind the last one is copied. -/
theorem memmove_of_short_behind
    (hInside : StartsInside dest src n)
    (hShort : n.toNat ≤ 2 ^ 63)
    (m : Machine) :
    (memmove dest src n m).2.mem (dest + n) =
      m.mem (src + n) := by
  rcases hInside with ⟨hAbove, hBelow⟩
  have hOffset : (dest + n - dest).toNat = n.toNat := by
    bv_omega
  have hBack :
      (dest + n - (dest + 1)).toNat + 1 = n.toNat := by
    bv_omega
  have hCovers : InRange (dest + 1) n.toNat (dest + n) := by
    rw [inRange_succ_iff dest (dest + n) n.isLt]
    omega
  rw [memmove_of_short hDest hSrc ⟨hAbove, hBelow⟩ hShort m,
    Memory.paint_apply, if_pos hCovers]
  dsimp only
  rw [hBack, BitVec.ofNat_toNat, BitVec.setWidth_eq]

/- Any other byte is moved or kept as it has to be. -/
theorem memmove_of_short_inner
    (hInside : StartsInside dest src n)
    (hShort : n.toNat ≤ 2 ^ 63)
    (m : Machine)
    {a : Addr}
    (hStart : a ≠ dest)
    (hEnd : a ≠ dest + n) :
    (memmove dest src n m).2.mem a =
      if InRange dest n.toNat a then
        m.mem (src + BitVec.ofNat 64 (a - dest).toNat)
      else m.mem a := by
  have hInner :
      InRange (dest + 1) n.toNat a ↔
        InRange dest n.toNat a := by
    rw [inRange_succ_iff dest a n.isLt]
    unfold InRange
    bv_omega
  have hBack :
      (a - (dest + 1)).toNat + 1 = (a - dest).toNat := by
    bv_omega
  rw [memmove_of_short hDest hSrc hInside hShort m,
    Memory.paint_apply]
  dsimp only
  rw [hBack]
  exact ite_congr (propext hInner) (fun _ => rfl)
    (fun _ => rfl)

theorem movesBytes_iff_of_short
    (hInside : StartsInside dest src n)
    (hShort : n.toNat ≤ 2 ^ 63)
    (m : Machine) :
    MovesBytes dest src n m ↔ EndsFit dest src n m.mem := by
  have hFirst :=
    memmove_of_short_first hDest hSrc hInside hShort m
  have hBehind :=
    memmove_of_short_behind hDest hSrc hInside hShort m
  have hPos : 0 < n.toNat := by
    rcases hInside with ⟨hAbove, hBelow⟩
    omega
  have hOutside : ¬ InRange dest n.toNat (dest + n) := by
    unfold InRange
    bv_omega
  constructor
  · intro hMoves
    constructor
    · have hZero := hMoves.hMoved 0 hPos
      have hSame (a : Addr) : a + BitVec.ofNat 64 0 = a := by
        simp
      rw [hSame, hSame] at hZero
      rw [← hFirst, hZero]
    · rw [← hMoves.hKept _ hOutside, hBehind]
  · intro hEnds
    apply movesBytes_of_paint
    funext a
    rw [Memory.paint_apply]
    dsimp only
    by_cases hStart : a = dest
    · subst hStart
      have hCovers : InRange a n.toNat a := by
        unfold InRange
        rw [BitVec.sub_self]
        exact hPos
      rw [if_pos hCovers, hFirst, hEnds.hFirst]
      simp
    by_cases hEnd : a = dest + n
    · subst hEnd
      rw [if_neg hOutside, hBehind, hEnds.hBehind]
    exact
      memmove_of_short_inner hDest hSrc hInside hShort m
        hStart hEnd

omit hSrc in
theorem movesBytes_iff_of_long
    (hInside : StartsInside dest src n)
    (hLong : 2 ^ 63 < n.toNat)
    (m : Machine) :
    MovesBytes dest src n m ↔ Repeats dest src n m.mem := by
  have hMem := memmove_of_long hDest hInside hLong m
  have hPos : 0 < (dest - src).toNat := by
    rcases hInside with ⟨hAbove, hBelow⟩
    bv_omega
  have hCopied (i : Nat) (hi : i < n.toNat) :
      (memmove dest src n m).2.mem
          (dest + BitVec.ofNat 64 i) =
        m.mem
          (src +
            BitVec.ofNat 64 (i % (dest - src).toNat)) := by
    rw [hMem, Memory.paint_apply,
      if_pos (inRange_add_ofNat dest hi)]
    dsimp only
    rw [add_ofNat_sub_toNat dest (hi.trans n.isLt)]
  constructor
  · intro hMoves i hi
    have hHere := hMoves.hMoved i (by omega)
    have hThere := hMoves.hMoved _ hi
    rw [hCopied _ hi, Nat.add_mod_right] at hThere
    rw [hCopied _ (by omega)] at hHere
    rw [← hThere, hHere]
  · intro hRepeats
    have hPeriod :
        ∀ i, i < n.toNat →
          m.mem
              (src +
                BitVec.ofNat 64 (i % (dest - src).toNat)) =
            m.mem (src + BitVec.ofNat 64 i) := by
      intro i
      induction i using Nat.strong_induction_on with
      | h i ih =>
          intro hi
          by_cases hLow : i < (dest - src).toNat
          · rw [Nat.mod_eq_of_lt hLow]
          · have hStep :=
              hRepeats (i - (dest - src).toNat) (by omega)
            have hEarlier :=
              ih (i - (dest - src).toNat) (by omega)
                (by omega)
            rw [Nat.sub_add_cancel (by omega)] at hStep
            rw [hStep, ← hEarlier,
              Nat.mod_eq_sub_mod (not_lt.mp hLow)]
    apply movesBytes_of_paint
    rw [hMem]
    exact Memory.paint_congr _ _ hPeriod

/-
  `memmove` moves the bytes unless the destination starts
  strictly inside the source. There it does so only where
  the bytes it gets wrong do not tell.
-/
theorem movesBytes_iff
    (m : Machine) :
    MovesBytes dest src n m ↔
      ¬ StartsInside dest src n ∨
        n.toNat ≤ 2 ^ 63 ∧ EndsFit dest src n m.mem ∨
        2 ^ 63 < n.toNat ∧ Repeats dest src n m.mem := by
  by_cases hInside : StartsInside dest src n
  · by_cases hShort : n.toNat ≤ 2 ^ 63
    · rw [movesBytes_iff_of_short hDest hSrc hInside hShort]
      simp only [hInside, hShort, not_true_eq_false,
        true_and, false_or, not_lt.mpr hShort, false_and,
        or_false]
    · have hLong : 2 ^ 63 < n.toNat := not_le.mp hShort
      rw [movesBytes_iff_of_long hDest hInside hLong]
      simp only [hInside, hLong, not_true_eq_false,
        true_and, false_or, hShort, false_and]
  · refine iff_of_true ?_ (Or.inl hInside)
    exact
      movesBytes_of_paint
        (memmove_of_not_startsInside hDest hSrc hInside m)

end Exactness

/- Memory in which each byte is the low byte of its address. -/
def countingMemory : Machine where
  mem a := a.setWidth 8
  stores := []

theorem movesBytes_iff_sample :
    MovesBytes 0x1001 0x1000 2 countingMemory ↔
      ¬ StartsInside 0x1001 0x1000 2 ∨
        (2 : BitVec 64).toNat ≤ 2 ^ 63 ∧
          EndsFit 0x1001 0x1000 2 countingMemory.mem ∨
        2 ^ 63 < (2 : BitVec 64).toNat ∧
          Repeats 0x1001 0x1000 2 countingMemory.mem :=
  movesBytes_iff (by decide) (by decide) countingMemory

/-
  Two bytes moved up by one: the first one keeps its old
  value, and the byte behind the destination is overwritten.
-/
theorem movesBytes_fails :
    (0x1001 : Addr).toNat + (2 : BitVec 64).toNat ≤ 2 ^ 64 ∧
      (0x1000 : Addr).toNat + (2 : BitVec 64).toNat ≤
        2 ^ 64 ∧
      ¬ MovesBytes 0x1001 0x1000 2 countingMemory := by
  refine ⟨by decide, by decide, ?_⟩
  intro hMoves
  have hFirst := hMoves.hMoved 0 (by decide)
  revert hFirst
  decide

end Essentials

end Chihuahua
