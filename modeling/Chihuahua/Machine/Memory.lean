import Mathlib.Tactic

/-
  Byte-addressed memory of a 64-bit little-endian machine.

  A range of addresses is taken modulo the size of the
  address space, so that no statement about a range needs a
  side condition that the range does not wrap.

  Main declarations:
    * `InRange` and `RangesDisjoint`
    * `inRange_iff_div_eq` for aligned ranges
    * `Memory.load`, `Memory.store` and their laws
-/

------------------------------------------------------------
-- Address Ranges
------------------------------------------------------------

namespace ByteMachine

abbrev Addr := BitVec 64

abbrev Byte := BitVec 8

/- The `size` addresses from `base` on. -/
def InRange
    (base : Addr)
    (size : Nat)
    (a : Addr) : Prop :=
  (a - base).toNat < size

instance
    (base : Addr)
    (size : Nat)
    (a : Addr) :
    Decidable (InRange base size a) := by
  unfold InRange
  infer_instance

/- Two ranges without a common address. -/
def RangesDisjoint
    (base : Addr)
    (size : Nat)
    (base' : Addr)
    (size' : Nat) : Prop :=
  ∀ a, InRange base size a → ¬ InRange base' size' a

theorem RangesDisjoint.symm
    {base base' : Addr}
    {size size' : Nat}
    (hDisjoint : RangesDisjoint base size base' size') :
    RangesDisjoint base' size' base size := by
  intro a hRight hLeft
  exact hDisjoint a hLeft hRight

/- One range ends before the other one starts. -/
theorem rangesDisjoint_of_le
    {base base' : Addr}
    {size size' : Nat}
    (hOrder : base.toNat + size ≤ base'.toNat)
    (hEnd : base'.toNat + size' ≤ 2 ^ 64) :
    RangesDisjoint base size base' size' := by
  intro a hRange hRange'
  unfold InRange at hRange hRange'
  bv_omega

theorem InRange.mono
    {base a : Addr}
    {small large : Nat}
    (hSize : small ≤ large)
    (hRange : InRange base small a) :
    InRange base large a :=
  Nat.lt_of_lt_of_le hRange hSize

@[simp] theorem not_inRange_zero
    (base a : Addr) :
    ¬ InRange base 0 a :=
  Nat.not_lt_zero _

/- The address at distance `offset` has that offset. -/
theorem add_ofNat_sub_toNat
    (base : Addr)
    {offset : Nat}
    (hOffset : offset < 2 ^ 64) :
    (base + BitVec.ofNat 64 offset - base).toNat =
      offset := by
  have hCancel :
      base + BitVec.ofNat 64 offset - base =
        BitVec.ofNat 64 offset := by
    rw [BitVec.add_comm, BitVec.add_sub_cancel]
  rw [hCancel, BitVec.toNat_ofNat]
  exact Nat.mod_eq_of_lt hOffset

theorem inRange_add_ofNat
    (base : Addr)
    {size offset : Nat}
    (hOffset : offset < size) :
    InRange base size (base + BitVec.ofNat 64 offset) := by
  have hCancel :
      base + BitVec.ofNat 64 offset - base =
        BitVec.ofNat 64 offset := by
    rw [BitVec.add_comm, BitVec.add_sub_cancel]
  unfold InRange
  rw [hCancel, BitVec.toNat_ofNat]
  exact Nat.lt_of_le_of_lt (Nat.mod_le _ _) hOffset

/- Every address is its base plus its offset. -/
theorem eq_add_ofNat_offset
    (base a : Addr) :
    a = base + BitVec.ofNat 64 (a - base).toNat := by
  rw [BitVec.ofNat_toNat, BitVec.setWidth_eq,
    BitVec.add_comm, BitVec.sub_add_cancel]

/-
  A range inside a range, in terms of the offset from the
  outer base.
-/
theorem inRange_add_iff
    (base a : Addr)
    {offset size : Nat}
    (hBound : offset + size ≤ 2 ^ 64) :
    InRange (base + BitVec.ofNat 64 offset) size a ↔
      offset ≤ (a - base).toNat ∧
        (a - base).toNat < offset + size := by
  by_cases hEmpty : size = 0
  · subst hEmpty
    simp only [not_inRange_zero, false_iff, not_and,
      not_lt]
    omega
  · have hOffset : offset < 2 ^ 64 := by omega
    have hSub :
        a - (base + BitVec.ofNat 64 offset) =
          (a - base) - BitVec.ofNat 64 offset := by
      bv_omega
    have hLt := (a - base).isLt
    unfold InRange
    rw [hSub, BitVec.toNat_sub, BitVec.toNat_ofNat,
      Nat.mod_eq_of_lt hOffset]
    omega

/- The tail of a range without its first address. -/
theorem inRange_succ_iff
    (base a : Addr)
    {size : Nat}
    (hSize : size < 2 ^ 64) :
    InRange (base + 1) size a ↔
      1 ≤ (a - base).toNat ∧ (a - base).toNat < size + 1 := by
  have hBound : 1 + size ≤ 2 ^ 64 := by omega
  have hStep := inRange_add_iff base a hBound
  rw [Nat.add_comm 1 size] at hStep
  exact hStep

------------------------------------------------------------
-- Aligned Ranges
------------------------------------------------------------

def Aligned
    (granule : Nat)
    (a : Addr) : Prop :=
  a.toNat % granule = 0

instance
    (granule : Nat)
    (a : Addr) :
    Decidable (Aligned granule a) := by
  unfold Aligned
  infer_instance

theorem Aligned.of_dvd
    {small large : Nat}
    {a : Addr}
    (hDvd : small ∣ large)
    (hAligned : Aligned large a) :
    Aligned small a :=
  Nat.mod_eq_zero_of_dvd
    (Nat.dvd_trans hDvd (Nat.dvd_of_mod_eq_zero hAligned))

/-
  A granule at an aligned address never wraps: its addresses
  are those with the same quotient.
-/
theorem inRange_iff_div_eq
    {granule : Nat}
    {base : Addr}
    (hPos : 0 < granule)
    (hDvd : granule ∣ 2 ^ 64)
    (hAligned : Aligned granule base)
    (a : Addr) :
    InRange base granule a ↔
      a.toNat / granule = base.toNat / granule := by
  rcases hDvd with ⟨count, hCount⟩
  have hBase :
      granule * (base.toNat / granule) = base.toNat := by
    have hSplit := Nat.div_add_mod base.toNat granule
    rw [hAligned] at hSplit
    omega
  have hBaseLt := base.isLt
  have hLt := a.isLt
  have hSplit := Nat.div_add_mod a.toNat granule
  have hRem := Nat.mod_lt a.toNat hPos
  unfold InRange
  rw [BitVec.toNat_sub]
  constructor
  · intro hOffset
    by_cases hOrder : base.toNat ≤ a.toNat
    · have hDiff :
          (2 ^ 64 - base.toNat + a.toNat) % 2 ^ 64 =
            a.toNat - base.toNat := by
        omega
      rw [hDiff] at hOffset
      rw [Nat.div_eq_iff hPos, Nat.mul_comm, hBase]
      omega
    · -- a wrapped offset would need a whole granule above base
      have hQuot :
          base.toNat / granule + 1 ≤ count := by
        have hMul :
            granule * (base.toNat / granule) <
              granule * count := by
          omega
        have := Nat.lt_of_mul_lt_mul_left hMul
        omega
      have hTop :
          granule * (base.toNat / granule + 1) ≤ 2 ^ 64 := by
        rw [hCount]
        exact Nat.mul_le_mul_left _ hQuot
      rw [Nat.mul_add, hBase] at hTop
      omega
  · intro hQuot
    rw [hQuot, hBase] at hSplit
    omega

/- Aligned granules at different addresses are disjoint. -/
theorem rangesDisjoint_of_aligned
    {granule : Nat}
    {base base' : Addr}
    (hPos : 0 < granule)
    (hDvd : granule ∣ 2 ^ 64)
    (hAligned : Aligned granule base)
    (hAligned' : Aligned granule base')
    (hNe : base ≠ base') :
    RangesDisjoint base granule base' granule := by
  intro a hLeft hRight
  rw [inRange_iff_div_eq hPos hDvd hAligned] at hLeft
  rw [inRange_iff_div_eq hPos hDvd hAligned'] at hRight
  apply hNe
  apply BitVec.eq_of_toNat_eq
  have hBase := Nat.div_add_mod base.toNat granule
  have hBase' := Nat.div_add_mod base'.toNat granule
  rw [hAligned] at hBase
  rw [hAligned'] at hBase'
  rw [← hBase, ← hBase', ← hLeft, ← hRight]

------------------------------------------------------------
-- Loads and Stores
------------------------------------------------------------

abbrev Memory := Addr → Byte

namespace Memory

/- The little-endian value of the `n` bytes at `a`. -/
def load
    (m : Memory)
    (a : Addr) :
    (n : Nat) → BitVec (8 * n)
| 0 => 0
| n + 1 => load m (a + 1) n ++ m a

/- Overwrite the `n` bytes at `a`, least significant first. -/
def store
    (m : Memory)
    (a : Addr)
    (n : Nat)
    (v : BitVec (8 * n)) : Memory :=
  fun b =>
    if InRange a n b then
      v.extractLsb' (8 * (b - a).toNat) 8
    else
      m b

def load16 (m : Memory) (a : Addr) : BitVec 16 :=
  m.load a 2

def load32 (m : Memory) (a : Addr) : BitVec 32 :=
  m.load a 4

def load64 (m : Memory) (a : Addr) : BitVec 64 :=
  m.load a 8

def store64
    (m : Memory)
    (a : Addr)
    (v : BitVec 64) : Memory :=
  m.store a 8 v

theorem load_congr
    {m m' : Memory}
    {a : Addr}
    {n : Nat}
    (hBytes : ∀ b, InRange a n b → m b = m' b) :
    m.load a n = m'.load a n := by
  induction n generalizing a with
  | zero => rfl
  | succ n ih =>
      have hHead : m a = m' a := by
        apply hBytes
        simp [InRange]
      have hTail :
          m.load (a + 1) n = m'.load (a + 1) n := by
        by_cases hSize : n < 2 ^ 64
        · apply ih
          intro b hRange
          apply hBytes
          exact ((inRange_succ_iff a b hSize).mp hRange).2
        · apply ih
          intro b _
          apply hBytes
          show (b - a).toNat < n + 1
          have := (b - a).isLt
          omega
      simp only [load, hHead, hTail]

theorem store_of_inRange
    {m : Memory}
    {a b : Addr}
    {n : Nat}
    (v : BitVec (8 * n))
    (hRange : InRange a n b) :
    m.store a n v b =
      v.extractLsb' (8 * (b - a).toNat) 8 := by
  simp [store, hRange]

theorem store_of_not_inRange
    {m : Memory}
    {a b : Addr}
    {n : Nat}
    (v : BitVec (8 * n))
    (hRange : ¬ InRange a n b) :
    m.store a n v b = m b := by
  simp [store, hRange]

/- A load depends on the bytes of the loaded value only. -/
theorem load_eq_of_bytes
    {m : Memory}
    {a : Addr}
    {n : Nat}
    {v : BitVec (8 * n)}
    (hBytes :
      ∀ i, i < n →
        m (a + BitVec.ofNat 64 i) =
          v.extractLsb' (8 * i) 8) :
    m.load a n = v := by
  induction n generalizing a with
  | zero =>
      apply BitVec.eq_of_getLsbD_eq
      intro i hi
      omega
  | succ n ih =>
      have hHead : m a = v.extractLsb' 0 8 := by
        simpa using hBytes 0 (by omega)
      have hTail :
          m.load (a + 1) n = v.extractLsb' 8 (8 * n) := by
        apply ih
        intro i hi
        have hNext :
            a + 1 + BitVec.ofNat 64 i =
              a + BitVec.ofNat 64 (i + 1) := by
          rw [BitVec.add_assoc, Nat.add_comm i 1,
            BitVec.ofNat_add]
          rfl
        rw [hNext, hBytes (i + 1) (by omega)]
        apply BitVec.eq_of_getLsbD_eq
        intro j hj
        have hInner : 8 * i + j < 8 * n := by omega
        have hIndex :
            8 * (i + 1) + j = 8 + (8 * i + j) := by
          omega
        simp only [BitVec.getLsbD_extractLsb', hj, hInner,
          decide_true, Bool.true_and, hIndex]
      apply BitVec.eq_of_getLsbD_eq
      intro j hj
      simp only [load, hHead, hTail, BitVec.getLsbD_append,
        BitVec.getLsbD_extractLsb']
      by_cases hLow : j < 8
      · simp [hLow]
      · have hHigh : j - 8 < 8 * n := by omega
        have hIndex : 8 + (j - 8) = j := by omega
        simp [hLow, hHigh, hIndex]

/- A byte of a loaded value is a byte of memory. -/
theorem extractLsb'_load
    (m : Memory)
    (a : Addr)
    {n i : Nat}
    (hi : i < n) :
    (m.load a n).extractLsb' (8 * i) 8 =
      m (a + BitVec.ofNat 64 i) := by
  induction n generalizing a i with
  | zero => omega
  | succ n ih =>
      cases i with
      | zero =>
          apply BitVec.eq_of_getLsbD_eq
          intro j hj
          simp [load, BitVec.getLsbD_append, hj]
      | succ i =>
          have hNext :
              a + BitVec.ofNat 64 (i + 1) =
                a + 1 + BitVec.ofNat 64 i := by
            rw [BitVec.add_assoc, Nat.add_comm i 1,
              BitVec.ofNat_add]
            rfl
          rw [hNext, ← ih (a + 1) (by omega)]
          apply BitVec.eq_of_getLsbD_eq
          intro j hj
          have hHigh : ¬ 8 * (i + 1) + j < 8 := by omega
          have hIndex :
              8 * (i + 1) + j - 8 = 8 * i + j := by
            omega
          simp only [load, BitVec.getLsbD_extractLsb',
            BitVec.getLsbD_append, hj, decide_true,
            Bool.true_and, hHigh, if_false, hIndex]

theorem load_store_same
    (m : Memory)
    (a : Addr)
    {n : Nat}
    (hSize : n ≤ 2 ^ 64)
    (v : BitVec (8 * n)) :
    (m.store a n v).load a n = v := by
  apply load_eq_of_bytes
  intro i hi
  rw [store_of_inRange v (inRange_add_ofNat a hi),
    add_ofNat_sub_toNat a (by omega)]

theorem load_store_disjoint
    (m : Memory)
    {a b : Addr}
    {n k : Nat}
    (v : BitVec (8 * k))
    (hDisjoint : RangesDisjoint a n b k) :
    (m.store b k v).load a n = m.load a n := by
  apply load_congr
  intro c hRange
  exact store_of_not_inRange v (hDisjoint c hRange)

/- Aligned words do not overlap. -/
theorem load64_store64
    (m : Memory)
    {a b : Addr}
    (v : BitVec 64)
    (hLoad : Aligned 8 a)
    (hStore : Aligned 8 b) :
    (m.store64 b v).load64 a =
      if a = b then v else m.load64 a := by
  by_cases hEq : a = b
  · subst hEq
    rw [if_pos rfl]
    exact load_store_same (n := 8) m a (by norm_num) v
  · rw [if_neg hEq]
    have hDisjoint : RangesDisjoint a 8 b 8 :=
      rangesDisjoint_of_aligned (by norm_num) (by norm_num)
        hLoad hStore hEq
    exact load_store_disjoint (n := 8) (k := 8) m v hDisjoint

end Memory

end ByteMachine
