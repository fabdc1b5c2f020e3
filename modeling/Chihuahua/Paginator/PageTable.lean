import Chihuahua.Machine.Memory
import Chihuahua.Essentials.BinaryUtils

/-
  Page flags and page-table entries of the x86_64 paging
  controller.

  Main declarations:
    * `PageFlags`, `PageMapError` and `X86_64PageFlags`
    * `constructTableEntry` and `getAddrFromEntry`
    * `getAddrFromEntry_constructTableEntry`
    * `tableEntry`, the entry the controller builds for a
      table
-/

------------------------------------------------------------
-- Flags
------------------------------------------------------------

namespace Chihuahua

namespace Paginator

open ByteMachine Essentials

abbrev Word := BitVec 64

/- An `enum class` over `int`: any bits can be or-ed in. -/
abbrev PageFlags := BitVec 32

namespace PageFlags

def Present : PageFlags := 1

def UserModeAccessible : PageFlags := 1 <<< 1

def ExecuteBit : PageFlags := 1 <<< 2

def WriteBit : PageFlags := 1 <<< 3

def IsHugePage : PageFlags := 1 <<< 15

/- The test `(flags & flag) == flag`. -/
def Has
    (flags flag : PageFlags) : Prop :=
  flags &&& flag = flag

instance
    (flags flag : PageFlags) :
    Decidable (flags.Has flag) := by
  unfold Has
  infer_instance

end PageFlags

inductive PageMapError where
| NoError
| EntryExists
| InvalidVirtAddress
| AllocFailed
| UnknownError
deriving DecidableEq, Repr

abbrev X86_64PageFlags := BitVec 64

namespace X86_64PageFlags

def Present : X86_64PageFlags := 1

def WriteEnable : X86_64PageFlags := 1 <<< 1

def UserModeAccessible : X86_64PageFlags := 1 <<< 2

def HugePage : X86_64PageFlags := 1 <<< 7

def ExecuteDisable : X86_64PageFlags := 1 <<< 63

end X86_64PageFlags

------------------------------------------------------------
-- Entries
------------------------------------------------------------

/- The macro `GET_ADDR_FROM_ENTRY`. -/
def getAddrFromEntry (entry : Word) : Addr :=
  (entry >>> 12) &&& (40 : Word)

/- The macro `SET_PHYSICAL_ADDRESS`. -/
def setPhysicalAddress (entry val : Word) : Word :=
  entry ||| (val <<< 12)

/- The processor's flags for the flags of the interface. -/
def x86_64PageFlags (flags : PageFlags) : X86_64PageFlags :=
  let x : X86_64PageFlags := 0
  let x :=
    if flags.Has PageFlags.Present then
      x ||| X86_64PageFlags.Present
    else x
  let x :=
    if flags.Has PageFlags.UserModeAccessible then
      x ||| X86_64PageFlags.UserModeAccessible
    else x
  let x :=
    if flags.Has PageFlags.WriteBit then
      x ||| X86_64PageFlags.WriteEnable
    else x
  let x :=
    if flags.Has PageFlags.IsHugePage then
      x ||| X86_64PageFlags.HugePage
    else x
  if ¬ flags.Has PageFlags.ExecuteBit then
    x ||| X86_64PageFlags.ExecuteDisable
  else x

def constructTableEntry
    (physicalAddress : Addr)
    (flags : PageFlags) : Word :=
  let data : Word := 0
  let data :=
    essentialsSetBitsAdditive data (x86_64PageFlags flags) 0
  setPhysicalAddress data physicalAddress

/- The entry `mapPage` builds for a table of its own. -/
def tableEntry (physAddr : Addr) : Word :=
  constructTableEntry physAddr
    (PageFlags.Present ||| PageFlags.WriteBit)

------------------------------------------------------------
-- Bits of an Entry
------------------------------------------------------------

/- A single flag, shifted into its place. -/
theorem getLsbD_one_shiftLeft
    (k i : Nat)
    (hk : k < 64) :
    ((1 : BitVec 64) <<< k).getLsbD i = decide (i = k) := by
  have hPow : (1 : BitVec 64) <<< k = BitVec.twoPow 64 k :=
    rfl
  rw [hPow, BitVec.getLsbD_twoPow, decide_eq_true hk,
    Bool.true_and]
  exact decide_eq_decide.mpr eq_comm

private theorem getLsbD_ite_or
    (c : Prop)
    [Decidable c]
    (x flag : X86_64PageFlags)
    (i : Nat) :
    (if c then x ||| flag else x).getLsbD i =
      (x.getLsbD i || (decide c && flag.getLsbD i)) := by
  by_cases h : c
  · simp [h]
  · simp [h]

/- Each flag of the interface decides one bit. -/
theorem getLsbD_x86_64PageFlags
    (flags : PageFlags)
    (i : Nat) :
    (x86_64PageFlags flags).getLsbD i =
      (decide (flags.Has PageFlags.Present) &&
            decide (i = 0) ||
          decide (flags.Has PageFlags.UserModeAccessible) &&
            decide (i = 2) ||
          decide (flags.Has PageFlags.WriteBit) &&
            decide (i = 1) ||
          decide (flags.Has PageFlags.IsHugePage) &&
            decide (i = 7) ||
          decide (¬ flags.Has PageFlags.ExecuteBit) &&
            decide (i = 63)) := by
  have hPresent :
      X86_64PageFlags.Present.getLsbD i = decide (i = 0) :=
    getLsbD_one_shiftLeft 0 i (by norm_num)
  have hWrite :
      X86_64PageFlags.WriteEnable.getLsbD i =
        decide (i = 1) :=
    getLsbD_one_shiftLeft 1 i (by norm_num)
  have hUser :
      X86_64PageFlags.UserModeAccessible.getLsbD i =
        decide (i = 2) :=
    getLsbD_one_shiftLeft 2 i (by norm_num)
  have hHuge :
      X86_64PageFlags.HugePage.getLsbD i = decide (i = 7) :=
    getLsbD_one_shiftLeft 7 i (by norm_num)
  have hExecute :
      X86_64PageFlags.ExecuteDisable.getLsbD i =
        decide (i = 63) :=
    getLsbD_one_shiftLeft 63 i (by norm_num)
  have hZero :
      (0 : X86_64PageFlags).getLsbD i = false := by
    simp
  simp only [x86_64PageFlags, getLsbD_ite_or, hPresent,
    hWrite, hUser, hHuge, hExecute, hZero, Bool.false_or]

theorem getLsbD_constructTableEntry
    (physicalAddress : Addr)
    (flags : PageFlags)
    (i : Nat) :
    (constructTableEntry physicalAddress flags).getLsbD i =
      ((x86_64PageFlags flags).getLsbD i ||
        (decide (i < 64) && !decide (i < 12) &&
          physicalAddress.getLsbD (i - 12))) := by
  have hFlags :
      essentialsSetBitsAdditive 0 (x86_64PageFlags flags) 0 =
        x86_64PageFlags flags := by
    simp [essentialsSetBitsAdditive]
  simp only [constructTableEntry, hFlags, setPhysicalAddress,
    BitVec.getLsbD_or, BitVec.getLsbD_shiftLeft]

/- The mask `40` keeps bits 3 and 5 only. -/
private theorem getLsbD_forty
    (i : Nat) :
    (40 : Word).getLsbD i = decide (i = 3 ∨ i = 5) := by
  have hBits :
      (40 : Word) = (1 : Word) <<< 3 ||| (1 : Word) <<< 5 := by
    decide
  rw [hBits, BitVec.getLsbD_or,
    getLsbD_one_shiftLeft 3 i (by norm_num),
    getLsbD_one_shiftLeft 5 i (by norm_num)]
  grind

/-
  Reading an entry back does not return the address that was
  put in, only two of its bits.
-/
theorem getAddrFromEntry_constructTableEntry
    (physicalAddress : Addr)
    (flags : PageFlags) :
    getAddrFromEntry
        (constructTableEntry physicalAddress flags) =
      physicalAddress &&& (40 : Word) := by
  apply BitVec.eq_of_getLsbD_eq
  intro i hi
  simp only [getAddrFromEntry, BitVec.getLsbD_and,
    BitVec.getLsbD_ushiftRight, getLsbD_forty,
    getLsbD_constructTableEntry, getLsbD_x86_64PageFlags]
  grind

/- Bits 3 and 5 of a frame's address are zero. -/
theorem and_forty_of_aligned
    {a : Addr}
    (hAligned : Aligned 4096 a) :
    a &&& (40 : Word) = 0 := by
  apply BitVec.eq_of_getLsbD_eq
  intro i hi
  have hBit : i = 3 ∨ i = 5 → a.getLsbD i = false := by
    intro hIndex
    have hZero : a.toNat % 4096 = 0 := hAligned
    rw [BitVec.getLsbD, Nat.testBit_eq_decide_div_mod_eq]
    rcases hIndex with rfl | rfl
    · simp only [decide_eq_false_iff_not]
      omega
    · simp only [decide_eq_false_iff_not]
      omega
  simp only [BitVec.getLsbD_and, getLsbD_forty]
  grind

theorem getAddrFromEntry_of_aligned
    {physicalAddress : Addr}
    (flags : PageFlags)
    (hAligned : Aligned 4096 physicalAddress) :
    getAddrFromEntry
        (constructTableEntry physicalAddress flags) =
      0 := by
  rw [getAddrFromEntry_constructTableEntry,
    and_forty_of_aligned hAligned]

/- A decoded table address is one of four, all near zero. -/
theorem getAddrFromEntry_toNat
    (entry : Word) :
    Aligned 8 (getAddrFromEntry entry) ∧
      (getAddrFromEntry entry).toNat ≤ 40 := by
  have hMasked :
      getAddrFromEntry entry =
        getAddrFromEntry entry &&& (40 : Word) := by
    rw [getAddrFromEntry, BitVec.and_assoc, BitVec.and_self]
  constructor
  · have hLow :
        getAddrFromEntry entry &&& (7 : Word) = 0 := by
      rw [hMasked, BitVec.and_assoc]
      exact BitVec.and_zero
    have hMod := congrArg BitVec.toNat hLow
    rw [BitVec.toNat_and] at hMod
    have hPow :
        (getAddrFromEntry entry).toNat &&& (2 ^ 3 - 1) = 0 :=
      hMod
    rw [Nat.and_two_pow_sub_one_eq_mod] at hPow
    exact hPow
  · rw [hMasked, BitVec.toNat_and]
    exact Nat.and_le_right

------------------------------------------------------------
-- Table Entries
------------------------------------------------------------

/- An entry that is marked present is not empty. -/
theorem constructTableEntry_ne_zero
    (physicalAddress : Addr)
    {flags : PageFlags}
    (hPresent : flags.Has PageFlags.Present) :
    constructTableEntry physicalAddress flags ≠ 0 := by
  intro hZero
  have hBit :
      (constructTableEntry physicalAddress flags).getLsbD
          0 =
        true := by
    simp [getLsbD_constructTableEntry,
      getLsbD_x86_64PageFlags, hPresent]
  rw [hZero] at hBit
  simp at hBit

theorem tableEntry_ne_zero
    (physAddr : Addr) :
    tableEntry physAddr ≠ 0 :=
  constructTableEntry_ne_zero physAddr (by decide)

theorem getAddrFromEntry_tableEntry
    {physAddr : Addr}
    (hAligned : Aligned 4096 physAddr) :
    getAddrFromEntry (tableEntry physAddr) = 0 :=
  getAddrFromEntry_of_aligned _ hAligned

@[simp] theorem getAddrFromEntry_zero :
    getAddrFromEntry 0 = 0 := by
  decide

/- Entries tell tables below 2^51 apart. -/
theorem tableEntry_inj
    {f g : Addr}
    (hF : f.toNat < 2 ^ 51)
    (hG : g.toNat < 2 ^ 51)
    (hEq : tableEntry f = tableEntry g) :
    f = g := by
  apply BitVec.eq_of_getLsbD_eq
  intro i hi
  by_cases hLow : i < 51
  · have hBit :=
      congrArg (fun w : Word => w.getLsbD (i + 12)) hEq
    simp only [tableEntry, getLsbD_constructTableEntry,
      getLsbD_x86_64PageFlags] at hBit
    grind
  · have hPow : 2 ^ 51 ≤ 2 ^ i :=
      Nat.pow_le_pow_right (by norm_num) (by omega)
    rw [BitVec.getLsbD, BitVec.getLsbD,
      Nat.testBit_lt_two_pow (by omega),
      Nat.testBit_lt_two_pow (by omega)]

end Paginator

end Chihuahua
