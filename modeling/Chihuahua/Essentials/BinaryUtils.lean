import Mathlib.Tactic

/-
  The bit macros of the essentials library on 64-bit words.

  The masks are shifted as values of type `int`, and the
  check compares with the index and not with the mask.

  Main declarations:
    * `essentialsSetBitOn` and `essentialsSetBitOff`
    * `essentialsSetBitsAdditive`
    * `essentialsCheckBit`
    * `getLsbD_bitMask`
    * `bitLaws_iff`
-/

------------------------------------------------------------
-- The Macros
------------------------------------------------------------

namespace Chihuahua

namespace Essentials

/-
  The `int` value `1 << index`. A shift by the width of an
  `int` or by more is undefined.
-/
def shiftOne (index : Nat) : Option (BitVec 32) :=
  if index < 32 then some ((1 : BitVec 32) <<< index)
  else none

/- The macro `ESSENTIALS_SET_BIT_ON`. -/
def essentialsSetBitOn
    (target : BitVec 64)
    (index : Nat) : Option (BitVec 64) := do
  let bit ← shiftOne index
  return target ||| bit.signExtend 64

/- The macro `ESSENTIALS_SET_BIT_OFF`. -/
def essentialsSetBitOff
    (target : BitVec 64)
    (index : Nat) : Option (BitVec 64) := do
  let bit ← shiftOne index
  return target &&& (~~~bit).signExtend 64

/- The macro `ESSENTIALS_SET_BITS_ADDITIVE`. -/
def essentialsSetBitsAdditive
    (target bits : BitVec 64)
    (index : Nat) : BitVec 64 :=
  target ||| (bits <<< index)

/- The macro `ESSENTIALS_CHECK_BIT`. -/
def essentialsCheckBit
    (target : BitVec 64)
    (index : Nat) : Option Bool := do
  let bit ← shiftOne index
  return (target &&& bit.signExtend 64) ==
    BitVec.ofNat 64 index

------------------------------------------------------------
-- The Laws
------------------------------------------------------------

/- The check tells whether the bit is 1. -/
def CheckReads
    (target : BitVec 64)
    (index : Nat) : Prop :=
  essentialsCheckBit target index =
    some (target.getLsbD index)

/- Bit `j` after bit `i` was set: 1, or what it was. -/
def SetsBit
    (target : BitVec 64)
    (i j : Nat) : Prop :=
  ∃ result,
    essentialsSetBitOn target i = some result ∧
      result.getLsbD j =
        if j = i then true else target.getLsbD j

/- Bit `j` after bit `i` was cleared: 0, or what it was. -/
def ClearsBit
    (target : BitVec 64)
    (i j : Nat) : Prop :=
  ∃ result,
    essentialsSetBitOff target i = some result ∧
      result.getLsbD j =
        if j = i then false else target.getLsbD j

/- The check after the bit was set or cleared. -/
def CheckAfterSet
    (target : BitVec 64)
    (index : Nat) : Prop :=
  (essentialsSetBitOn target index).bind
      (essentialsCheckBit · index) =
    some true

def CheckAfterClear
    (target : BitVec 64)
    (index : Nat) : Prop :=
  (essentialsSetBitOff target index).bind
      (essentialsCheckBit · index) =
    some false

/- Setting and clearing two bits, in either order. -/
def OperationsCommute
    (target : BitVec 64)
    (i j : Nat) : Prop :=
  ∀ first ∈ [essentialsSetBitOn, essentialsSetBitOff],
    ∀ second ∈ [essentialsSetBitOn, essentialsSetBitOff],
      ∃ result,
        (first target i).bind (second · j) = some result ∧
          (second target j).bind (first · i) = some result

------------------------------------------------------------
-- Masks
------------------------------------------------------------

/- The widened mask: bit 31 is also the sign of an `int`. -/
def bitMask (index : Nat) : BitVec 64 :=
  ((1 : BitVec 32) <<< index).signExtend 64

theorem getLsbD_bitMask
    {index : Nat}
    (hIndex : index < 32)
    {j : Nat}
    (hj : j < 64) :
    (bitMask index).getLsbD j =
      decide (j = index ∨ index = 31 ∧ 31 < j) := by
  have hOne (k : Nat) :
      ((1 : BitVec 32) <<< index).getLsbD k =
        decide (k = index) := by
    have hPow :
        (1 : BitVec 32) <<< index =
          BitVec.twoPow 32 index :=
      (BitVec.twoPow_eq 32 index).symm
    rw [hPow, BitVec.getLsbD_twoPow]
    grind
  rw [bitMask, BitVec.getLsbD_signExtend,
    BitVec.msb_eq_getLsbD_last, hOne, hOne]
  grind

theorem setBitOn_eq
    (target : BitVec 64)
    {index : Nat}
    (hIndex : index < 32) :
    essentialsSetBitOn target index =
      some (target ||| bitMask index) := by
  unfold essentialsSetBitOn shiftOne
  rw [if_pos hIndex]
  rfl

theorem setBitOff_eq
    (target : BitVec 64)
    {index : Nat}
    (hIndex : index < 32) :
    essentialsSetBitOff target index =
      some (target &&& ~~~bitMask index) := by
  unfold essentialsSetBitOff shiftOne
  rw [if_pos hIndex, bitMask,
    ← BitVec.signExtend_not (by norm_num)]
  rfl

theorem checkBit_eq
    (target : BitVec 64)
    {index : Nat}
    (hIndex : index < 32) :
    essentialsCheckBit target index =
      some
        ((target &&& bitMask index) ==
          BitVec.ofNat 64 index) := by
  unfold essentialsCheckBit shiftOne
  rw [if_pos hIndex]
  rfl

/- Past the width of an `int` no macro has a result. -/
theorem shiftOne_eq_none
    {index : Nat}
    (hIndex : ¬ index < 32) :
    shiftOne index = none :=
  if_neg hIndex

------------------------------------------------------------
-- The Check
------------------------------------------------------------

/-
  The bits the mask selects start at the index, and the
  index has no bit that high, so both sides are 0.
-/
theorem and_bitMask_eq_index_iff
    (target : BitVec 64)
    {index : Nat}
    (hIndex : index < 32) :
    target &&& bitMask index = BitVec.ofNat 64 index ↔
      index = 0 ∧ target.getLsbD 0 = false := by
  have hBits
      {k : Nat}
      (hk : k < 64) :
      (target &&& bitMask index).getLsbD k =
        (target.getLsbD k &&
          decide (k = index ∨ index = 31 ∧ 31 < k)) := by
    rw [BitVec.getLsbD_and, getLsbD_bitMask hIndex hk]
  constructor
  · intro hSame
    have hClear :
        ∀ k, k < 64 → (BitVec.ofNat 64 index).getLsbD k = false := by
      intro k hk
      by_cases hBelow : k < index
      · rw [← hSame, hBits hk]
        grind
      · rw [BitVec.getLsbD_ofNat]
        have hLt : index < 2 ^ k :=
          lt_of_le_of_lt (not_lt.mp hBelow)
            Nat.lt_two_pow_self
        rw [Nat.testBit_lt_two_pow hLt, Bool.and_false]
    have hZero : BitVec.ofNat 64 index = 0 := by
      apply BitVec.eq_of_getLsbD_eq
      intro k hk
      rw [hClear k hk]
      simp
    have hNull : index = 0 := by
      have hNat := congrArg BitVec.toNat hZero
      rw [BitVec.toNat_ofNat,
        Nat.mod_eq_of_lt (by omega)] at hNat
      exact hNat
    subst hNull
    refine ⟨rfl, ?_⟩
    have hFirst := hBits (show 0 < 64 by norm_num)
    rw [hSame] at hFirst
    simpa using hFirst
  · rintro ⟨rfl, hFirst⟩
    apply BitVec.eq_of_getLsbD_eq
    intro k hk
    rw [hBits hk]
    by_cases hk0 : k = 0
    · subst hk0
      rw [hFirst]
      simp
    · simp [hk0]

/- The bit itself is set in no answer but the wrong one. -/
theorem checkReads_iff
    (target : BitVec 64)
    (index : Nat) :
    CheckReads target index ↔
      0 < index ∧ index < 32 ∧
        target.getLsbD index = false := by
  unfold CheckReads
  by_cases hIndex : index < 32
  · rw [checkBit_eq target hIndex, Option.some.injEq]
    have hIff := and_bitMask_eq_index_iff target hIndex
    by_cases hZero : index = 0
    · subst hZero
      refine iff_of_false ?_ (by simp)
      intro hReads
      rw [Bool.eq_iff_iff, beq_iff_eq, hIff] at hReads
      grind
    · have hNot :
          ¬ target &&& bitMask index =
              BitVec.ofNat 64 index := by
        rw [hIff]
        exact fun hBoth => hZero hBoth.1
      rw [beq_eq_false_iff_ne.mpr hNot]
      grind
  · refine iff_of_false ?_ (fun hAll => hIndex hAll.2.1)
    unfold essentialsCheckBit
    rw [shiftOne_eq_none hIndex]
    nofun

------------------------------------------------------------
-- Setting and Clearing
------------------------------------------------------------

/- Setting bit 31 also sets every bit above it. -/
theorem setsBit_iff
    (target : BitVec 64)
    (i : Nat)
    {j : Nat}
    (hj : j < 64) :
    SetsBit target i j ↔
      i < 31 ∨
        i = 31 ∧ (j < 32 ∨ target.getLsbD j = true) := by
  unfold SetsBit
  by_cases hi : i < 32
  · have hBit :
        (target ||| bitMask i).getLsbD j =
          (target.getLsbD j ||
            decide (j = i ∨ i = 31 ∧ 31 < j)) := by
      rw [BitVec.getLsbD_or, getLsbD_bitMask hi hj]
    constructor
    · rintro ⟨result, hSet, hResult⟩
      rw [setBitOn_eq target hi, Option.some.injEq] at hSet
      rw [← hSet, hBit] at hResult
      grind
    · intro hCondition
      refine ⟨_, setBitOn_eq target hi, ?_⟩
      rw [hBit]
      grind
  · refine iff_of_false ?_ (by omega)
    rintro ⟨result, hSet, _⟩
    unfold essentialsSetBitOn at hSet
    rw [shiftOne_eq_none hi] at hSet
    cases hSet

/- Clearing bit 31 also clears every bit above it. -/
theorem clearsBit_iff
    (target : BitVec 64)
    (i : Nat)
    {j : Nat}
    (hj : j < 64) :
    ClearsBit target i j ↔
      i < 31 ∨
        i = 31 ∧ (j < 32 ∨ target.getLsbD j = false) := by
  unfold ClearsBit
  by_cases hi : i < 32
  · have hBit :
        (target &&& ~~~bitMask i).getLsbD j =
          (target.getLsbD j &&
            !decide (j = i ∨ i = 31 ∧ 31 < j)) := by
      rw [BitVec.getLsbD_and, BitVec.getLsbD_not,
        getLsbD_bitMask hi hj]
      simp [hj]
    constructor
    · rintro ⟨result, hClear, hResult⟩
      rw [setBitOff_eq target hi, Option.some.injEq] at hClear
      rw [← hClear, hBit] at hResult
      grind
    · intro hCondition
      refine ⟨_, setBitOff_eq target hi, ?_⟩
      rw [hBit]
      grind
  · refine iff_of_false ?_ (by omega)
    rintro ⟨result, hClear, _⟩
    unfold essentialsSetBitOff at hClear
    rw [shiftOne_eq_none hi] at hClear
    cases hClear

------------------------------------------------------------
-- One Macro after Another
------------------------------------------------------------

/- A bit that was just set is never reported. -/
theorem not_checkAfterSet
    (target : BitVec 64)
    (index : Nat) :
    ¬ CheckAfterSet target index := by
  unfold CheckAfterSet
  by_cases hIndex : index < 32
  · rw [setBitOn_eq target hIndex, Option.bind_some,
      checkBit_eq _ hIndex, Option.some.injEq, beq_iff_eq,
      and_bitMask_eq_index_iff _ hIndex]
    rintro ⟨rfl, hFirst⟩
    rw [BitVec.getLsbD_or,
      getLsbD_bitMask hIndex (by norm_num)] at hFirst
    simp at hFirst
  · unfold essentialsSetBitOn
    rw [shiftOne_eq_none hIndex]
    nofun

theorem checkAfterClear_iff
    (target : BitVec 64)
    (index : Nat) :
    CheckAfterClear target index ↔
      0 < index ∧ index < 32 := by
  unfold CheckAfterClear
  by_cases hIndex : index < 32
  · rw [setBitOff_eq target hIndex, Option.bind_some,
      checkBit_eq _ hIndex, Option.some.injEq,
      beq_eq_false_iff_ne, ne_eq,
      and_bitMask_eq_index_iff _ hIndex]
    have hCleared :
        (target &&& ~~~bitMask index).getLsbD index =
          false := by
      rw [BitVec.getLsbD_and, BitVec.getLsbD_not,
        getLsbD_bitMask hIndex (by omega)]
      simp
    constructor
    · intro hNot
      refine ⟨Nat.pos_of_ne_zero ?_, hIndex⟩
      rintro rfl
      exact hNot ⟨rfl, hCleared⟩
    · rintro ⟨hPositive, _⟩ ⟨hZero, _⟩
      omega
  · refine iff_of_false ?_ (fun hBoth => hIndex hBoth.2)
    unfold essentialsSetBitOff
    rw [shiftOne_eq_none hIndex]
    nofun

/- The masks of two different bits have no bit in common. -/
theorem bitMask_and_bitMask
    {i j : Nat}
    (hi : i < 32)
    (hj : j < 32)
    (hNe : i ≠ j) :
    bitMask i &&& bitMask j = 0 := by
  apply BitVec.eq_of_getLsbD_eq
  intro k hk
  rw [BitVec.getLsbD_and, getLsbD_bitMask hi hk,
    getLsbD_bitMask hj hk]
  simp
  omega

/- Set and clear in either order, where masks are disjoint. -/
theorem or_and_not_comm
    {target first second : BitVec 64}
    (hDisjoint : first &&& second = 0) :
    (target ||| first) &&& ~~~second =
      (target &&& ~~~second) ||| first := by
  apply BitVec.eq_of_getLsbD_eq
  intro k hk
  have hBit := congrArg (·.getLsbD k) hDisjoint
  simp only [BitVec.getLsbD_and] at hBit
  simp only [BitVec.getLsbD_or, BitVec.getLsbD_and,
    BitVec.getLsbD_not]
  have hZero : (0 : BitVec 64).getLsbD k = false := by simp
  grind

theorem operationsCommute_iff
    (target : BitVec 64)
    {i j : Nat}
    (hNe : i ≠ j) :
    OperationsCommute target i j ↔ i < 32 ∧ j < 32 := by
  constructor
  · intro hCommute
    obtain ⟨result, hFirst, hSecond⟩ :=
      hCommute essentialsSetBitOn (by simp)
        essentialsSetBitOn (by simp)
    -- Whichever comes first has a result of its own.
    unfold essentialsSetBitOn at hFirst hSecond
    constructor
    · by_contra hi
      rw [shiftOne_eq_none hi] at hFirst
      cases hFirst
    · by_contra hj
      rw [shiftOne_eq_none hj] at hSecond
      cases hSecond
  · rintro ⟨hi, hj⟩
    have hDisjoint := bitMask_and_bitMask hi hj hNe
    have hDisjoint' := bitMask_and_bitMask hj hi hNe.symm
    intro first hFirst second hSecond
    simp only [List.mem_cons, List.not_mem_nil,
      or_false] at hFirst hSecond
    rcases hFirst with rfl | rfl <;>
      rcases hSecond with rfl | rfl <;>
      simp only [setBitOn_eq _ hi, setBitOn_eq _ hj,
        setBitOff_eq _ hi, setBitOff_eq _ hj,
        Option.bind_some, Option.some.injEq,
        exists_eq_left']
    · rw [BitVec.or_assoc, BitVec.or_comm (bitMask j),
        BitVec.or_assoc]
    · exact (or_and_not_comm hDisjoint).symm
    · exact or_and_not_comm hDisjoint'
    · rw [BitVec.and_assoc, BitVec.and_comm (~~~bitMask j),
        BitVec.and_assoc]

/- Where each of the laws holds, for all bits of a word. -/
theorem bitLaws_iff
    (target : BitVec 64)
    (i : Nat)
    {j : Nat}
    (hj : j < 64) :
    (CheckReads target j ↔
      0 < j ∧ j < 32 ∧ target.getLsbD j = false) ∧
    (SetsBit target i j ↔
      i < 31 ∨
        i = 31 ∧ (j < 32 ∨ target.getLsbD j = true)) ∧
    (ClearsBit target i j ↔
      i < 31 ∨
        i = 31 ∧ (j < 32 ∨ target.getLsbD j = false)) ∧
    (CheckAfterSet target i ↔ False) ∧
    (CheckAfterClear target i ↔ 0 < i ∧ i < 32) ∧
    (i ≠ j →
      (OperationsCommute target i j ↔
        i < 32 ∧ j < 32)) :=
  ⟨checkReads_iff target j,
    setsBit_iff target i hj,
    clearsBit_iff target i hj,
    iff_of_false (not_checkAfterSet target i) id,
    checkAfterClear_iff target i,
    operationsCommute_iff target⟩

/- Bit 40 of the word 0, after bit 31 was set. -/
theorem bitLaws_at_sign : ¬ SetsBit 0 31 40 := by
  intro hSets
  have hAt := (bitLaws_iff 0 31 (j := 40) (by norm_num)).2.1
  exact absurd (hAt.mp hSets) (by simp)

/-
  The check misses bit 0 of the word 1, and setting bit 31
  of the word 0 also sets bit 63.
-/
theorem bitLaws_fail :
    essentialsCheckBit 1 0 = some false ∧
      (1 : BitVec 64).getLsbD 0 = true ∧
      essentialsSetBitOn 0 31 =
        some 0xFFFFFFFF80000000 ∧
      essentialsSetBitOn 0 32 = none := by
  decide

end Essentials

end Chihuahua
