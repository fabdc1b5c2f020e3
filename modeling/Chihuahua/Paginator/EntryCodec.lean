import Chihuahua.Machine.Mmu
import Chihuahua.Paginator.PageTable

/-
  Page entries as a code for physical addresses: what the
  processor and the controller read back of an address that
  was put into an entry.

  Main declarations:
    * `entryFlags` and `EntryRoundTrip`
    * `frame_constructTableEntry_iff`
    * `getAddrFromEntry_constructTableEntry_iff`
    * `entryFlags_constructTableEntry_iff`
    * `entryRoundTrip_iff`
    * `FlagsAgree` and `constructTableEntry_separates`
-/

------------------------------------------------------------
-- The Round Trip
------------------------------------------------------------

namespace Chihuahua

namespace Paginator

open ByteMachine

/- Bits 0 to 8 and bit 63 of an entry. -/
def entryFlags (entry : Word) : Word :=
  entry &&& 0x80000000000001FF

/- The physical addresses an entry has room for. -/
def PhysicalFrame (a : Addr) : Prop :=
  Aligned 4096 a ∧ a.toNat < 2 ^ 52

/-
  The address of an entry is where the processor reads it,
  the controller decodes it, and the flags of the entry do
  not depend on it.
-/
structure EntryRoundTrip
    (physicalAddress : Addr)
    (flags : PageFlags) : Prop where
  hStored :
    Mmu.frame (constructTableEntry physicalAddress flags) =
      physicalAddress
  hDecoded :
    getAddrFromEntry
        (constructTableEntry physicalAddress flags) =
      physicalAddress
  hFlags :
    ∀ physicalAddress', PhysicalFrame physicalAddress' →
      entryFlags (constructTableEntry physicalAddress' flags) =
        entryFlags (constructTableEntry physicalAddress flags)

theorem PhysicalFrame.zero : PhysicalFrame 0 := by
  constructor
  · show (0 : Addr).toNat % 4096 = 0
    rfl
  · decide

theorem PhysicalFrame.getLsbD_of_le
    {a : Addr}
    (hFrame : PhysicalFrame a)
    {i : Nat}
    (hi : 52 ≤ i) :
    a.getLsbD i = false := by
  have hPow : 2 ^ 52 ≤ 2 ^ i :=
    Nat.pow_le_pow_right (by norm_num) hi
  exact Nat.testBit_lt_two_pow
    (Nat.lt_of_lt_of_le hFrame.2 hPow)

theorem PhysicalFrame.getLsbD_of_lt
    {a : Addr}
    (hFrame : PhysicalFrame a)
    {i : Nat}
    (hi : i < 12) :
    a.getLsbD i = false := by
  have hMod : a.toNat % 2 ^ 12 = 0 := hFrame.1
  have hBit : (a.toNat % 2 ^ 12).testBit i = false := by
    rw [hMod, Nat.zero_testBit]
  rw [Nat.testBit_mod_two_pow, decide_eq_true hi,
    Bool.true_and] at hBit
  exact hBit

------------------------------------------------------------
-- What the Processor Reads
------------------------------------------------------------

theorem getLsbD_frame
    (entry : Word)
    (i : Nat) :
    (Mmu.frame entry).getLsbD i =
      (entry.getLsbD i && decide (12 ≤ i ∧ i < 52)) := by
  have hMask :
      (0x000FFFFFFFFFF000 : Word) =
        (BitVec.allOnes 40).setWidth 64 <<< 12 := by
    rfl
  rw [Mmu.frame, hMask, BitVec.getLsbD_and,
    BitVec.getLsbD_shiftLeft, BitVec.getLsbD_setWidth,
    BitVec.getLsbD_allOnes]
  grind

/- The processor reads the address shifted by 12 bits. -/
theorem getLsbD_frame_constructTableEntry
    (physicalAddress : Addr)
    (flags : PageFlags)
    (i : Nat) :
    (Mmu.frame
        (constructTableEntry physicalAddress flags)).getLsbD
        i =
      (decide (12 ≤ i ∧ i < 52) &&
        physicalAddress.getLsbD (i - 12)) := by
  rw [getLsbD_frame, getLsbD_constructTableEntry,
    getLsbD_x86_64PageFlags]
  grind

/-
  Bit by bit, an address that is its own shift has no bit
  set, from the low bits up.
-/
theorem frame_constructTableEntry_iff
    {physicalAddress : Addr}
    (hFrame : PhysicalFrame physicalAddress)
    (flags : PageFlags) :
    Mmu.frame (constructTableEntry physicalAddress flags) =
        physicalAddress ↔
      physicalAddress = 0 := by
  constructor
  · intro hStored
    have hClear :
        ∀ i, physicalAddress.getLsbD i = false := by
      intro i
      induction i using Nat.strong_induction_on with
      | h i ih =>
          by_cases hLow : i < 12
          · exact hFrame.getLsbD_of_lt hLow
          by_cases hHigh : 52 ≤ i
          · exact hFrame.getLsbD_of_le hHigh
          have hBit :=
            getLsbD_frame_constructTableEntry
              physicalAddress flags i
          rw [hStored, ih (i - 12) (by omega),
            Bool.and_false] at hBit
          exact hBit
    apply BitVec.eq_of_getLsbD_eq
    intro i hi
    rw [hClear i]
    simp
  · intro hZero
    subst hZero
    apply BitVec.eq_of_getLsbD_eq
    intro i hi
    rw [getLsbD_frame_constructTableEntry]
    simp

/- Decoding an aligned address always yields the null one. -/
theorem getAddrFromEntry_constructTableEntry_iff
    {physicalAddress : Addr}
    (hFrame : PhysicalFrame physicalAddress)
    (flags : PageFlags) :
    getAddrFromEntry
          (constructTableEntry physicalAddress flags) =
        physicalAddress ↔
      physicalAddress = 0 := by
  rw [getAddrFromEntry_of_aligned flags hFrame.1]
  exact eq_comm

------------------------------------------------------------
-- Flags
------------------------------------------------------------

theorem getLsbD_entryFlags
    (entry : Word)
    {i : Nat}
    (hi : i < 64) :
    (entryFlags entry).getLsbD i =
      (entry.getLsbD i && decide (i < 9 ∨ i = 63)) := by
  have hMask :
      (0x80000000000001FF : Word) =
        (BitVec.allOnes 9).setWidth 64 |||
          (1 : Word) <<< 63 := by
    rfl
  rw [entryFlags, hMask, BitVec.getLsbD_and,
    BitVec.getLsbD_or, BitVec.getLsbD_setWidth,
    BitVec.getLsbD_allOnes,
    getLsbD_one_shiftLeft 63 i (by norm_num)]
  grind

/- Only bit 51 of the address reaches a flag, bit 63. -/
theorem getLsbD_entryFlags_constructTableEntry
    (physicalAddress : Addr)
    (flags : PageFlags)
    {i : Nat}
    (hi : i < 64) :
    (entryFlags
        (constructTableEntry physicalAddress flags)).getLsbD
        i =
      (decide (i < 9 ∨ i = 63) &&
        ((x86_64PageFlags flags).getLsbD i ||
          decide (i = 63) && physicalAddress.getLsbD 51)) := by
  rw [getLsbD_entryFlags _ hi, getLsbD_constructTableEntry]
  by_cases hTop : i = 63
  · subst hTop
    simp
  · by_cases hLow : i < 9
    · have hBelow : i < 12 := by omega
      simp [hTop, hLow, hBelow]
    · simp [hTop, hLow]

/- A mapping that may be executed leaves bit 63 clear. -/
theorem getLsbD_x86_64PageFlags_63
    (flags : PageFlags) :
    (x86_64PageFlags flags).getLsbD 63 =
      !decide (flags.Has PageFlags.ExecuteBit) := by
  rw [getLsbD_x86_64PageFlags]
  simp

theorem entryFlags_constructTableEntry_iff
    (physicalAddress : Addr)
    (flags : PageFlags) :
    (∀ physicalAddress', PhysicalFrame physicalAddress' →
        entryFlags
            (constructTableEntry physicalAddress' flags) =
          entryFlags
            (constructTableEntry physicalAddress flags)) ↔
      ¬ flags.Has PageFlags.ExecuteBit := by
  constructor
  · intro hSame hExecute
    have hTopBit :
        PhysicalFrame ((1 : Addr) <<< 51) := by
      constructor
      · show ((1 : Addr) <<< 51).toNat % 4096 = 0
        rfl
      · show ((1 : Addr) <<< 51).toNat < 2 ^ 52
        decide
    have hClear := hSame 0 PhysicalFrame.zero
    have hSet := hSame ((1 : Addr) <<< 51) hTopBit
    have hBit :=
      congrArg (fun w : Word => w.getLsbD 63)
        (hSet.trans hClear.symm)
    simp only [getLsbD_entryFlags_constructTableEntry _ _
      (show 63 < 64 by norm_num),
      getLsbD_x86_64PageFlags_63, hExecute] at hBit
    simp at hBit
  · intro hNoExecute physicalAddress' hFrame
    apply BitVec.eq_of_getLsbD_eq
    intro i hi
    rw [getLsbD_entryFlags_constructTableEntry _ _ hi,
      getLsbD_entryFlags_constructTableEntry _ _ hi]
    by_cases hTop : i = 63
    · subst hTop
      rw [getLsbD_x86_64PageFlags_63,
        decide_eq_false hNoExecute]
      rfl
    · simp [hTop]

------------------------------------------------------------
-- Main Result
------------------------------------------------------------

/-
  The encoder shifts an address that is already a byte
  address, and the decoder masks with 40 instead of 40 ones:
  only the null address survives, and only without the
  execute flag are the flags the same for all addresses.
-/
theorem entryRoundTrip_iff
    {physicalAddress : Addr}
    (hAligned : Aligned 4096 physicalAddress)
    (hBound : physicalAddress.toNat < 2 ^ 52)
    (flags : PageFlags) :
    EntryRoundTrip physicalAddress flags ↔
      physicalAddress = 0 ∧
        ¬ flags.Has PageFlags.ExecuteBit := by
  have hFrame : PhysicalFrame physicalAddress :=
    ⟨hAligned, hBound⟩
  have hStored :=
    frame_constructTableEntry_iff hFrame flags
  have hDecoded :=
    getAddrFromEntry_constructTableEntry_iff hFrame flags
  have hFlags :=
    entryFlags_constructTableEntry_iff physicalAddress flags
  constructor
  · intro hTrip
    exact
      ⟨hStored.mp hTrip.hStored, hFlags.mp hTrip.hFlags⟩
  · intro hNull
    obtain ⟨hZero, hNoExecute⟩ := hNull
    exact
      { hStored := hStored.mpr hZero
        hDecoded := hDecoded.mpr hZero
        hFlags := hFlags.mpr hNoExecute }

theorem entryRoundTrip_sample :
    EntryRoundTrip 0x1000 PageFlags.Present ↔
      (0x1000 : Addr) = 0 ∧
        ¬ PageFlags.Present.Has PageFlags.ExecuteBit :=
  entryRoundTrip_iff
    (show (0x1000 : Addr).toNat % 4096 = 0 from rfl)
    (by decide) PageFlags.Present

/- The first frame after the null one is already lost. -/
theorem entryRoundTrip_fails :
    Aligned 4096 (0x1000 : Addr) ∧
      (0x1000 : Addr).toNat < 2 ^ 52 ∧
      ¬ EntryRoundTrip 0x1000 PageFlags.Present := by
  have hAligned : Aligned 4096 (0x1000 : Addr) := rfl
  refine ⟨hAligned, by decide, ?_⟩
  intro hTrip
  have hNonzero : (0x1000 : Addr) ≠ 0 := by decide
  have hDecoded := hTrip.hDecoded
  rw [getAddrFromEntry_of_aligned _ hAligned] at hDecoded
  exact hNonzero hDecoded.symm

------------------------------------------------------------
-- Address and Flags
------------------------------------------------------------

/- The same answer for every flag that reaches an entry. -/
def FlagsAgree (flags flags' : PageFlags) : Prop :=
  ∀ flag ∈
      [PageFlags.Present, PageFlags.UserModeAccessible,
        PageFlags.WriteBit, PageFlags.IsHugePage,
        PageFlags.ExecuteBit],
    flags.Has flag ↔ flags'.Has flag

theorem x86_64PageFlags_eq_iff
    (flags flags' : PageFlags) :
    x86_64PageFlags flags = x86_64PageFlags flags' ↔
      FlagsAgree flags flags' := by
  unfold FlagsAgree
  constructor
  · intro hSame
    have hBit (i : Nat) :=
      congrArg (fun w : Word => w.getLsbD i) hSame
    simp only [getLsbD_x86_64PageFlags] at hBit
    -- Each flag is read off its own bit of the entry.
    have hPresent := hBit 0
    have hWrite := hBit 1
    have hUser := hBit 2
    have hHuge := hBit 7
    have hExecute := hBit 63
    simp at hPresent hWrite hUser hHuge hExecute
    simp only [List.forall_mem_cons]
    exact
      ⟨hPresent, hUser, hWrite, hHuge, hExecute,
        nofun⟩
  · intro hAgree
    simp only [List.forall_mem_cons] at hAgree
    obtain ⟨hPresent, hUser, hWrite, hHuge, hExecute, _⟩ :=
      hAgree
    simp only [x86_64PageFlags, hPresent, hUser, hWrite,
      hHuge, hExecute]

/- Between the flags, the entry is the address. -/
theorem getLsbD_constructTableEntry_of_address
    (physicalAddress : Addr)
    (flags : PageFlags)
    {i : Nat}
    (hLow : 12 ≤ i)
    (hHigh : i ≤ 62) :
    (constructTableEntry physicalAddress flags).getLsbD i =
      physicalAddress.getLsbD (i - 12) := by
  rw [getLsbD_constructTableEntry, getLsbD_x86_64PageFlags]
  grind

/- Below 2^51 no bit of the address reaches bit 63. -/
theorem getLsbD_constructTableEntry_of_flags
    {physicalAddress : Addr}
    (hBound : physicalAddress.toNat < 2 ^ 51)
    (flags : PageFlags)
    {i : Nat}
    (hi : i < 12 ∨ i = 63) :
    (constructTableEntry physicalAddress flags).getLsbD i =
      (x86_64PageFlags flags).getLsbD i := by
  have hTop : physicalAddress.getLsbD 51 = false :=
    Nat.testBit_lt_two_pow hBound
  rw [getLsbD_constructTableEntry]
  rcases hi with hLow | rfl
  · simp [hLow]
  · rw [show 63 - 12 = 51 from rfl, hTop, Bool.and_false,
      Bool.or_false]

/- An address below 2^51 is what the entry has of it. -/
theorem address_eq_of_constructTableEntry_eq
    {a b : Addr}
    (ha : a.toNat < 2 ^ 51)
    (hb : b.toNat < 2 ^ 51)
    {flags flags' : PageFlags}
    (hSame :
      constructTableEntry a flags =
        constructTableEntry b flags') :
    a = b := by
  apply BitVec.eq_of_getLsbD_eq
  intro i _
  by_cases hi : i < 51
  · have hBit :=
      congrArg (fun w : Word => w.getLsbD (i + 12)) hSame
    simp only [
      getLsbD_constructTableEntry_of_address _ _
        (show 12 ≤ i + 12 by omega)
        (show i + 12 ≤ 62 by omega),
      Nat.add_sub_cancel] at hBit
    exact hBit
  · have hPow : 2 ^ 51 ≤ 2 ^ i :=
      Nat.pow_le_pow_right (by norm_num) (by omega)
    have hBitA : a.getLsbD i = false :=
      Nat.testBit_lt_two_pow (Nat.lt_of_lt_of_le ha hPow)
    have hBitB : b.getLsbD i = false :=
      Nat.testBit_lt_two_pow (Nat.lt_of_lt_of_le hb hPow)
    rw [hBitA, hBitB]

theorem flags_eq_of_constructTableEntry_eq
    {a b : Addr}
    (ha : a.toNat < 2 ^ 51)
    (hb : b.toNat < 2 ^ 51)
    {flags flags' : PageFlags}
    (hSame :
      constructTableEntry a flags =
        constructTableEntry b flags') :
    x86_64PageFlags flags = x86_64PageFlags flags' := by
  apply BitVec.eq_of_getLsbD_eq
  intro i _
  by_cases hi : i < 12 ∨ i = 63
  · rw [
      ← getLsbD_constructTableEntry_of_flags ha flags hi,
      ← getLsbD_constructTableEntry_of_flags hb flags' hi,
      hSame]
  · rw [getLsbD_x86_64PageFlags, getLsbD_x86_64PageFlags]
    grind

/-
  Equal entries have equal addresses and flags; neither the
  address nor the flags reach the bits of the other.
-/
theorem constructTableEntry_separates
    {a b : Addr}
    (ha : a.toNat < 2 ^ 51)
    (hb : b.toNat < 2 ^ 51)
    (flags flags' : PageFlags) :
    (constructTableEntry a flags =
        constructTableEntry b flags' ↔
      a = b ∧ FlagsAgree flags flags') ∧
    (∀ i, 12 ≤ i → i ≤ 62 →
      (constructTableEntry a flags).getLsbD i =
        (constructTableEntry a flags').getLsbD i) ∧
    (∀ i, i < 12 ∨ i = 63 →
      (constructTableEntry a flags).getLsbD i =
        (constructTableEntry b flags).getLsbD i) := by
  refine ⟨⟨?_, ?_⟩, ?_, ?_⟩
  · intro hSame
    have hFlags :=
      flags_eq_of_constructTableEntry_eq ha hb hSame
    exact
      ⟨address_eq_of_constructTableEntry_eq ha hb hSame,
        (x86_64PageFlags_eq_iff flags flags').mp hFlags⟩
  · rintro ⟨rfl, hAgree⟩
    rw [constructTableEntry, constructTableEntry,
      (x86_64PageFlags_eq_iff flags flags').mpr hAgree]
  · intro i hLow hHigh
    rw [getLsbD_constructTableEntry_of_address _ _ hLow hHigh,
      getLsbD_constructTableEntry_of_address _ _ hLow hHigh]
  · intro i hi
    rw [getLsbD_constructTableEntry_of_flags ha flags hi,
      getLsbD_constructTableEntry_of_flags hb flags hi]

/- The last address below the bound, and one beside it. -/
theorem constructTableEntry_separates_at_bound :
    constructTableEntry 0x7FFFFFFFFFFFF PageFlags.Present ≠
      constructTableEntry 0x7FFFFFFFFFFFE
        PageFlags.ExecuteBit := by
  intro hSame
  have hBoth :=
    (constructTableEntry_separates
      (a := 0x7FFFFFFFFFFFF) (b := 0x7FFFFFFFFFFFE)
      (by decide) (by decide)
      PageFlags.Present PageFlags.ExecuteBit).1.mp hSame
  exact absurd hBoth.1 (by decide)

end Paginator

end Chihuahua
