import Chihuahua.Machine.Mmu
import Chihuahua.Paginator.PagingController

/-
  The virtual addresses under which `mapPage` looks for
  tables once paging is enabled.

  The walk of such an address passes through the entry of
  the root that leads back to the root, once or more, so
  that it ends in a table. Bit 47 of the index 1 is clear
  below 16 set bits, and the processor never starts it.

  Main declarations:
    * `packedAddress` and `packedAddress_toNat`
    * `SelfMapped` and `PathPresent`
    * `walk_recursiveL3`, `walk_recursiveL2` and
      `walk_recursiveL1`
    * `not_canonical_of_recursive`
    * `recursiveAddressesReach_never`
-/

------------------------------------------------------------
-- Four Indices in One Address
------------------------------------------------------------

namespace Chihuahua

namespace Paginator

open ByteMachine

/- The shape the three recursive addresses share. -/
def packedAddress (i4 i3 i2 i1 : Word) : Addr :=
  SIGN_EXTENSION
    ||| i4 <<< P4_SHIFT
    ||| i3 <<< P3_SHIFT
    ||| i2 <<< P2_SHIFT
    ||| i1 <<< P1_SHIFT

theorem recursiveL3_eq_packedAddress
    (v : Addr) :
    recursiveL3 v =
      packedAddress RECURSIVE_INDEX RECURSIVE_INDEX
        RECURSIVE_INDEX (l4Idx v) := rfl

theorem recursiveL2_eq_packedAddress
    (v : Addr) :
    recursiveL2 v =
      packedAddress RECURSIVE_INDEX RECURSIVE_INDEX (l4Idx v)
        (l3Idx v) := rfl

theorem recursiveL1_eq_packedAddress
    (v : Addr) :
    recursiveL1 v =
      packedAddress RECURSIVE_INDEX (l4Idx v) (l3Idx v)
        (l2Idx v) := rfl

/- The indices of the code are those of the processor. -/
theorem l4Idx_eq_index (v : Addr) : l4Idx v = Mmu.index 3 v :=
  rfl

theorem l3Idx_eq_index (v : Addr) : l3Idx v = Mmu.index 2 v :=
  rfl

theorem l2Idx_eq_index (v : Addr) : l2Idx v = Mmu.index 1 v :=
  rfl

theorem l1Idx_eq_index (v : Addr) : l1Idx v = Mmu.index 0 v :=
  rfl

/- Nine bits of an index below the bits of another field. -/
private theorem or_index
    (high k : Nat)
    {i : Nat}
    (hIndex : i < 512) :
    high * 2 ^ (k + 9) ||| i * 2 ^ k =
      (high * 512 + i) * 2 ^ k := by
  have hSplit : 2 ^ (k + 9) = 2 ^ k * 512 := by
    rw [Nat.pow_add]
  have hLow : i * 2 ^ k < 2 ^ (k + 9) := by
    rw [hSplit, Nat.mul_comm]
    exact
      Nat.mul_lt_mul_of_pos_left hIndex (Nat.two_pow_pos k)
  rw [Nat.mul_comm high,
    ← Nat.two_pow_add_eq_or_of_lt hLow high, hSplit]
  ring

private theorem shiftLeft_index_toNat
    {i : Word}
    (hIndex : i.toNat < 512)
    {k : Nat}
    (hK : k ≤ 39) :
    (i <<< k).toNat = i.toNat * 2 ^ k := by
  have hPow : 2 ^ k ≤ 2 ^ 39 :=
    Nat.pow_le_pow_right (by norm_num) hK
  have hProduct : i.toNat * 2 ^ k ≤ 511 * 2 ^ 39 :=
    Nat.mul_le_mul (by omega) hPow
  rw [BitVec.toNat_shiftLeft, Nat.shiftLeft_eq,
    Nat.mod_eq_of_lt (by omega)]

section Packed

variable {i4 i3 i2 i1 : Word}
variable
  (h4 : i4.toNat < 512)
  (h3 : i3.toNat < 512)
  (h2 : i2.toNat < 512)
  (h1 : i1.toNat < 512)

include h4 h3 h2 h1

/- The fields do not overlap, so each is a digit. -/
theorem packedAddress_toNat :
    (packedAddress i4 i3 i2 i1).toNat =
      ((((0xFFFF * 512 + i4.toNat) * 512 + i3.toNat) * 512 +
              i2.toNat) *
            512 +
          i1.toNat) *
        4096 := by
  have hSign :
      SIGN_EXTENSION.toNat = 0xFFFF * 2 ^ (P4_SHIFT + 9) :=
    rfl
  unfold packedAddress
  rw [BitVec.toNat_or, BitVec.toNat_or, BitVec.toNat_or,
    BitVec.toNat_or, hSign,
    shiftLeft_index_toNat h4 (by decide),
    shiftLeft_index_toNat h3 (by decide),
    shiftLeft_index_toNat h2 (by decide),
    shiftLeft_index_toNat h1 (by decide),
    or_index 0xFFFF P4_SHIFT h4]
  -- the sum so far ends where the next field starts
  rw [show P4_SHIFT = P3_SHIFT + 9 from rfl,
    or_index _ P3_SHIFT h3,
    show P3_SHIFT = P2_SHIFT + 9 from rfl,
    or_index _ P2_SHIFT h2,
    show P2_SHIFT = P1_SHIFT + 9 from rfl,
    or_index _ P1_SHIFT h1]
  rfl

theorem index_packedAddress :
    Mmu.index 3 (packedAddress i4 i3 i2 i1) = i4 ∧
      Mmu.index 2 (packedAddress i4 i3 i2 i1) = i3 ∧
      Mmu.index 1 (packedAddress i4 i3 i2 i1) = i2 ∧
      Mmu.index 0 (packedAddress i4 i3 i2 i1) = i1 := by
  have hSum := packedAddress_toNat h4 h3 h2 h1
  refine ⟨?_, ?_, ?_, ?_⟩
  all_goals
    apply BitVec.eq_of_toNat_eq
    rw [Mmu.index_toNat, hSum, Mmu.shift]
    omega

theorem aligned_packedAddress :
    Aligned 4096 (packedAddress i4 i3 i2 i1) := by
  unfold Aligned
  rw [packedAddress_toNat h4 h3 h2 h1]
  exact Nat.mul_mod_left _ _

theorem pageOffset_packedAddress :
    Mmu.pageOffset 0 (packedAddress i4 i3 i2 i1) = 0#64 := by
  have hAligned :
      (packedAddress i4 i3 i2 i1).toNat % 2 ^ Mmu.shift 0 =
        0 :=
    aligned_packedAddress h4 h3 h2 h1
  unfold Mmu.pageOffset
  rw [hAligned]

end Packed

/- Sixteen set bits above a clear one. -/
theorem not_canonical_of_recursive
    {i3 i2 i1 : Word}
    (h3 : i3.toNat < 512)
    (h2 : i2.toNat < 512)
    (h1 : i1.toNat < 512) :
    ¬ Mmu.Canonical
      (packedAddress RECURSIVE_INDEX i3 i2 i1) := by
  have hIndex : (RECURSIVE_INDEX : Word).toNat = 1 := rfl
  rw [Mmu.canonical_iff,
    packedAddress_toNat (by decide) h3 h2 h1, hIndex]
  omega

------------------------------------------------------------
-- The Walks
------------------------------------------------------------

/- The entry of the root that leads back to the root. -/
def SelfMapped
    (m : Memory)
    (rootPageTable : Addr) : Prop :=
  Mmu.Links
    (m.load64 (entryAddress rootPageTable RECURSIVE_INDEX))
    rootPageTable

/- The frames of the tables on the way to an address. -/
def l3Frame
    (m : Memory)
    (rootPageTable virtAddress : Addr) : Addr :=
  Mmu.frame
    (m.load64
      (entryAddress rootPageTable (l4Idx virtAddress)))

def l2Frame
    (m : Memory)
    (rootPageTable virtAddress : Addr) : Addr :=
  Mmu.frame
    (m.load64
      (entryAddress (l3Frame m rootPageTable virtAddress)
        (l3Idx virtAddress)))

def l1Frame
    (m : Memory)
    (rootPageTable virtAddress : Addr) : Addr :=
  Mmu.frame
    (m.load64
      (entryAddress (l2Frame m rootPageTable virtAddress)
        (l2Idx virtAddress)))

/- All three tables are there. -/
structure PathPresent
    (m : Memory)
    (rootPageTable virtAddress : Addr) : Prop where
  hL3 :
    Mmu.Links
      (m.load64
        (entryAddress rootPageTable (l4Idx virtAddress)))
      (l3Frame m rootPageTable virtAddress)
  hL2 :
    Mmu.Links
      (m.load64
        (entryAddress (l3Frame m rootPageTable virtAddress)
          (l3Idx virtAddress)))
      (l2Frame m rootPageTable virtAddress)
  hL1 :
    Mmu.Links
      (m.load64
        (entryAddress (l2Frame m rootPageTable virtAddress)
          (l2Idx virtAddress)))
      (l1Frame m rootPageTable virtAddress)

/-
  A walk through four entries: three of them lead to tables,
  and the last one to what is taken for a page.
-/
theorem walk_packedAddress
    {m : Memory}
    {t3 t2 t1 t0 page : Addr}
    {i4 i3 i2 i1 : Word}
    (h4 : i4.toNat < 512)
    (h3 : i3.toNat < 512)
    (h2 : i2.toNat < 512)
    (h1 : i1.toNat < 512)
    (hL4 : Mmu.Links (m.load64 (entryAddress t3 i4)) t2)
    (hL3 : Mmu.Links (m.load64 (entryAddress t2 i3)) t1)
    (hL2 : Mmu.Links (m.load64 (entryAddress t1 i2)) t0)
    (hL1 : Mmu.Links (m.load64 (entryAddress t0 i1)) page) :
    Mmu.walk m (packedAddress i4 i3 i2 i1) 3 t3 =
      some page := by
  rcases index_packedAddress h4 h3 h2 h1 with
    ⟨hIndex4, hIndex3, hIndex2, hIndex1⟩
  have hSlot3 :
      Mmu.slot 3 (packedAddress i4 i3 i2 i1) t3 =
        entryAddress t3 i4 := by
    unfold Mmu.slot
    rw [hIndex4]
    rfl
  have hSlot2 :
      Mmu.slot 2 (packedAddress i4 i3 i2 i1) t2 =
        entryAddress t2 i3 := by
    unfold Mmu.slot
    rw [hIndex3]
    rfl
  have hSlot1 :
      Mmu.slot 1 (packedAddress i4 i3 i2 i1) t1 =
        entryAddress t1 i2 := by
    unfold Mmu.slot
    rw [hIndex2]
    rfl
  have hSlot0 :
      Mmu.slot 0 (packedAddress i4 i3 i2 i1) t0 =
        entryAddress t0 i1 := by
    unfold Mmu.slot
    rw [hIndex1]
    rfl
  rw [← hSlot3] at hL4
  rw [← hSlot2] at hL3
  rw [← hSlot1] at hL2
  rw [← hSlot0] at hL1
  rw [Mmu.walk_of_links hL4, Mmu.walk_of_links hL3,
    Mmu.walk_of_links hL2, Mmu.walk_of_present hL1.hPresent,
    pageOffset_packedAddress h4 h3 h2 h1]
  rw [hL1.hFrame, BitVec.add_zero]

section Walks

variable {m : Memory} {rootPageTable virtAddress : Addr}
variable
  (hSelf : SelfMapped m rootPageTable)
  (hPath : PathPresent m rootPageTable virtAddress)

include hSelf hPath

/- Three times through the root, then into its entry. -/
theorem walk_recursiveL3 :
    Mmu.walk m (recursiveL3 virtAddress) 3 rootPageTable =
      some (l3Frame m rootPageTable virtAddress) := by
  rw [recursiveL3_eq_packedAddress]
  exact
    walk_packedAddress (by decide) (by decide) (by decide)
      (Mmu.index_lt 3 virtAddress) hSelf hSelf hSelf hPath.hL3

/- Twice through the root, then down one level. -/
theorem walk_recursiveL2 :
    Mmu.walk m (recursiveL2 virtAddress) 3 rootPageTable =
      some (l2Frame m rootPageTable virtAddress) := by
  rw [recursiveL2_eq_packedAddress]
  exact
    walk_packedAddress (by decide) (by decide)
      (Mmu.index_lt 3 virtAddress) (Mmu.index_lt 2 virtAddress)
      hSelf hSelf hPath.hL3 hPath.hL2

/- Once through the root, then down two levels. -/
theorem walk_recursiveL1 :
    Mmu.walk m (recursiveL1 virtAddress) 3 rootPageTable =
      some (l1Frame m rootPageTable virtAddress) := by
  rw [recursiveL1_eq_packedAddress]
  exact
    walk_packedAddress (by decide)
      (Mmu.index_lt 3 virtAddress) (Mmu.index_lt 2 virtAddress)
      (Mmu.index_lt 1 virtAddress) hSelf hPath.hL3 hPath.hL2
      hPath.hL1

end Walks

------------------------------------------------------------
-- The Processor's Answer
------------------------------------------------------------

theorem recursiveL3_not_canonical
    (virtAddress : Addr) :
    ¬ Mmu.Canonical (recursiveL3 virtAddress) := by
  rw [recursiveL3_eq_packedAddress]
  exact
    not_canonical_of_recursive (by decide) (by decide)
      (Mmu.index_lt 3 virtAddress)

theorem recursiveL2_not_canonical
    (virtAddress : Addr) :
    ¬ Mmu.Canonical (recursiveL2 virtAddress) := by
  rw [recursiveL2_eq_packedAddress]
  exact
    not_canonical_of_recursive (by decide)
      (Mmu.index_lt 3 virtAddress) (Mmu.index_lt 2 virtAddress)

theorem recursiveL1_not_canonical
    (virtAddress : Addr) :
    ¬ Mmu.Canonical (recursiveL1 virtAddress) := by
  rw [recursiveL1_eq_packedAddress]
  exact
    not_canonical_of_recursive (Mmu.index_lt 3 virtAddress)
      (Mmu.index_lt 2 virtAddress) (Mmu.index_lt 1 virtAddress)

/- The address is one of the processor's, of the table. -/
structure ReachesTable
    (m : Memory)
    (rootPageTable v table : Addr) : Prop where
  hCanonical : Mmu.Canonical v
  hWalk : Mmu.resolve m rootPageTable v = some table

/- All three recursive addresses reach their tables. -/
structure RecursiveAddressesReach
    (m : Memory)
    (rootPageTable virtAddress : Addr) : Prop where
  hL3 :
    ReachesTable m rootPageTable (recursiveL3 virtAddress)
      (l3Frame m rootPageTable virtAddress)
  hL2 :
    ReachesTable m rootPageTable (recursiveL2 virtAddress)
      (l2Frame m rootPageTable virtAddress)
  hL1 :
    ReachesTable m rootPageTable (recursiveL1 virtAddress)
      (l1Frame m rootPageTable virtAddress)

/-
  Each walk would end in its table, but the processor starts
  none of them: no hierarchy makes the addresses canonical.
-/
theorem recursiveAddressesReach_never
    (m : Memory)
    (rootPageTable virtAddress : Addr) :
    ¬ RecursiveAddressesReach m rootPageTable virtAddress ∧
      Mmu.resolve m rootPageTable (recursiveL3 virtAddress) =
        none ∧
      Mmu.resolve m rootPageTable (recursiveL2 virtAddress) =
        none ∧
      Mmu.resolve m rootPageTable (recursiveL1 virtAddress) =
        none := by
  have hL3 := recursiveL3_not_canonical virtAddress
  have hL2 := recursiveL2_not_canonical virtAddress
  have hL1 := recursiveL1_not_canonical virtAddress
  refine ⟨?_, ?_, ?_, ?_⟩
  · intro hReach
    exact hL3 hReach.hL3.hCanonical
  · exact Mmu.resolve_of_not_canonical m rootPageTable hL3
  · exact Mmu.resolve_of_not_canonical m rootPageTable hL2
  · exact Mmu.resolve_of_not_canonical m rootPageTable hL1

/- A memory of which every word leads to frame 0. -/
def loopMemory : Memory :=
  fun a => if a.toNat % 8 = 0 then 1 else 0

/- Four tables that are all the same one, at address 0. -/
theorem recursiveAddressesReach_fails :
    SelfMapped loopMemory 0 ∧
      PathPresent loopMemory 0 0x8040604000 ∧
      ¬ RecursiveAddressesReach loopMemory 0 0x8040604000 := by
  refine ⟨?_, ?_, ?_⟩
  · exact
      ⟨by decide +kernel, by decide +kernel,
        by decide +kernel⟩
  · refine ⟨⟨?_, ?_, rfl⟩, ⟨?_, ?_, rfl⟩, ⟨?_, ?_, rfl⟩⟩
    all_goals decide +kernel
  · intro hReach
    exact
      recursiveL3_not_canonical 0x8040604000
        hReach.hL3.hCanonical

end Paginator

end Chihuahua
