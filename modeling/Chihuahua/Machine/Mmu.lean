import Chihuahua.Machine.Memory

/-
  The four-level address translation of an x86_64 processor.

  A table is a frame of 512 entries. The walk starts at the
  root, a table of level 3, and takes nine bits of the
  address at each level.

  Main declarations:
    * `Canonical` and `canonical_iff`
    * `index`, `present`, `pageSize` and `frame`
    * `walk` and `resolve`
    * `Links` and `walk_of_links`
    * `TableAt` and `SameTables`
    * `resolve_add`
-/

------------------------------------------------------------
-- Addresses
------------------------------------------------------------

namespace ByteMachine

namespace Mmu

/- The address is the sign extension of its 48 low bits. -/
def Canonical (v : Addr) : Prop :=
  (v.setWidth 48).signExtend 64 = v

instance
    (v : Addr) :
    Decidable (Canonical v) := by
  unfold Canonical
  infer_instance

/- The position of the index into a table of a level. -/
def shift (level : Nat) : Nat :=
  12 + 9 * level

def index
    (level : Nat)
    (v : Addr) : BitVec 64 :=
  (v >>> shift level) &&& 0x1FF

/- The part of an address below the index of a level. -/
def pageOffset
    (level : Nat)
    (v : Addr) : Addr :=
  BitVec.ofNat 64 (v.toNat % 2 ^ shift level)

theorem canonical_iff
    (v : Addr) :
    Canonical v ↔
      v.toNat / 2 ^ 47 = 0 ∨ v.toNat / 2 ^ 47 = 0x1FFFF := by
  have hLt := v.isLt
  unfold Canonical
  rw [← BitVec.toNat_inj, BitVec.toNat_signExtend,
    BitVec.toNat_setWidth, BitVec.toNat_setWidth,
    BitVec.msb_eq_decide, BitVec.toNat_setWidth]
  split_ifs with hSign
  · simp only [decide_eq_true_eq] at hSign
    omega
  · simp only [decide_eq_true_eq] at hSign
    omega

theorem index_toNat
    (level : Nat)
    (v : Addr) :
    (index level v).toNat =
      v.toNat / 2 ^ shift level % 512 := by
  have hMask : (0x1FF : BitVec 64).toNat = 2 ^ 9 - 1 := rfl
  unfold index
  rw [BitVec.toNat_and, hMask,
    Nat.and_two_pow_sub_one_eq_mod,
    BitVec.toNat_ushiftRight, Nat.shiftRight_eq_div_pow]

theorem index_lt
    (level : Nat)
    (v : Addr) :
    (index level v).toNat < 512 := by
  rw [index_toNat]
  exact Nat.mod_lt _ (by norm_num)

/- Addresses of one page have the same quotients. -/
theorem div_shift_add
    {v : Addr}
    (hPage : Aligned 4096 v)
    {offset : Nat}
    (hOffset : offset < 4096)
    (level : Nat) :
    (v + BitVec.ofNat 64 offset).toNat / 2 ^ shift level =
      v.toNat / 2 ^ shift level := by
  have hLt := v.isLt
  unfold Aligned at hPage
  have hSum :
      (v + BitVec.ofNat 64 offset).toNat =
        v.toNat + offset := by
    rw [BitVec.toNat_add, BitVec.toNat_ofNat]
    omega
  have hQuot :
      (v.toNat + offset) / 4096 = v.toNat / 4096 := by
    omega
  have hSplit : 2 ^ shift level = 4096 * 2 ^ (9 * level) := by
    unfold shift
    rw [Nat.pow_add]
  rw [hSum, hSplit, ← Nat.div_div_eq_div_mul,
    ← Nat.div_div_eq_div_mul, hQuot]

theorem index_add
    {v : Addr}
    (hPage : Aligned 4096 v)
    {offset : Nat}
    (hOffset : offset < 4096)
    (level : Nat) :
    index level (v + BitVec.ofNat 64 offset) =
      index level v := by
  apply BitVec.eq_of_toNat_eq
  rw [index_toNat, index_toNat,
    div_shift_add hPage hOffset]

theorem pageOffset_add
    {v : Addr}
    (hPage : Aligned 4096 v)
    {offset : Nat}
    (hOffset : offset < 4096)
    (level : Nat) :
    pageOffset level (v + BitVec.ofNat 64 offset) =
      pageOffset level v + BitVec.ofNat 64 offset := by
  have hLt := v.isLt
  have hQuot := div_shift_add hPage hOffset level
  have hSum :
      (v + BitVec.ofNat 64 offset).toNat =
        v.toNat + offset := by
    unfold Aligned at hPage
    rw [BitVec.toNat_add, BitVec.toNat_ofNat]
    omega
  have hLeft :=
    Nat.div_add_mod (v + BitVec.ofNat 64 offset).toNat
      (2 ^ shift level)
  have hRight := Nat.div_add_mod v.toNat (2 ^ shift level)
  have hMod :
      (v + BitVec.ofNat 64 offset).toNat % 2 ^ shift level =
        v.toNat % 2 ^ shift level + offset := by
    rw [hQuot, hSum] at hLeft
    rw [hSum]
    omega
  unfold pageOffset
  rw [hMod, BitVec.ofNat_add]

theorem canonical_add_iff
    {v : Addr}
    (hPage : Aligned 4096 v)
    {offset : Nat}
    (hOffset : offset < 4096) :
    Canonical (v + BitVec.ofNat 64 offset) ↔
      Canonical v := by
  have hQuot :
      (v + BitVec.ofNat 64 offset).toNat / 2 ^ 47 =
        v.toNat / 2 ^ 47 := by
    have hLt := v.isLt
    unfold Aligned at hPage
    rw [BitVec.toNat_add, BitVec.toNat_ofNat]
    omega
  rw [canonical_iff, canonical_iff, hQuot]

------------------------------------------------------------
-- Entries
------------------------------------------------------------

def present (entry : BitVec 64) : Bool :=
  entry.getLsbD 0

/- The bit is in the first byte of the entry. -/
theorem present_load64
    (m : Memory)
    (a : Addr) :
    present (m.load64 a) = (m a).getLsbD 0 := by
  have hByte :=
    congrArg (BitVec.getLsbD · 0)
      (Memory.extractLsb'_load m a (n := 8) (i := 0)
        (by norm_num))
  simpa [present, Memory.load64] using hByte

/- Above level 0, the entry maps a page of its own size. -/
def pageSize (entry : BitVec 64) : Bool :=
  entry.getLsbD 7

/- Bits 12 to 51 of the entry. -/
def frame (entry : BitVec 64) : Addr :=
  entry &&& 0x000FFFFFFFFFF000

theorem aligned_frame
    (entry : BitVec 64) :
    Aligned 4096 (frame entry) := by
  have hLow :
      frame entry &&& (0xFFF : BitVec 64) = 0 := by
    unfold frame
    rw [BitVec.and_assoc]
    exact BitVec.and_zero
  have hMod := congrArg BitVec.toNat hLow
  rw [BitVec.toNat_and] at hMod
  have hPow :
      (frame entry).toNat &&& (2 ^ 12 - 1) = 0 := hMod
  rw [Nat.and_two_pow_sub_one_eq_mod] at hPow
  exact hPow

/- The first address of the page an entry of a level maps. -/
def pageBase
    (level : Nat)
    (entry : BitVec 64) : Addr :=
  (frame entry >>> shift level) <<< shift level

/- An entry that leads to a table in the given frame. -/
structure Links
    (entry : BitVec 64)
    (table : Addr) : Prop where
  hPresent : present entry = true
  hTable : pageSize entry = false
  hFrame : frame entry = table

------------------------------------------------------------
-- The Walk
------------------------------------------------------------

/- The address of an entry of a table. -/
def slot
    (level : Nat)
    (v table : Addr) : Addr :=
  table + 8 * index level v

theorem slot_add
    {v : Addr}
    (hPage : Aligned 4096 v)
    {offset : Nat}
    (hOffset : offset < 4096)
    (level : Nat)
    (table : Addr) :
    slot level (v + BitVec.ofNat 64 offset) table =
      slot level v table := by
  unfold slot
  rw [index_add hPage hOffset]

/- The frames of the tables below a root, by their level. -/
inductive TableAt
    (m : Memory)
    (root : Addr) : Nat → Addr → Prop where
| root : TableAt m root 3 root
| linked
    {level : Nat}
    {table next idx : Addr}
    (hTable : TableAt m root (level + 1) table)
    (hIdx : idx.toNat < 512)
    (hLinks : Links (m.load64 (table + 8 * idx)) next) :
    TableAt m root level next

/- All entries of all tables of either memory are the same. -/
def SameTables
    (root : Addr)
    (m m' : Memory) : Prop :=
  ∀ level table,
    TableAt m root level table ∨
        TableAt m' root level table →
      ∀ idx : Addr,
        idx.toNat < 512 →
          m.load64 (table + 8 * idx) =
            m'.load64 (table + 8 * idx)

theorem SameTables.refl
    (root : Addr)
    (m : Memory) :
    SameTables root m m :=
  fun _ _ _ _ _ => rfl

theorem SameTables.root_entry
    {root : Addr}
    {m m' : Memory}
    (hSame : SameTables root m m')
    {idx : Addr}
    (hIdx : idx.toNat < 512) :
    m.load64 (root + 8 * idx) = m'.load64 (root + 8 * idx) :=
  hSame 3 root (Or.inl .root) idx hIdx

/-
  The physical address at the end of a walk, or none where
  the processor faults. There are no pages of level 3.
-/
def walk
    (m : Memory)
    (v : Addr) :
    Nat → Addr → Option Addr
| 0, table =>
    let entry := m.load64 (slot 0 v table)
    if present entry then
      some (frame entry + pageOffset 0 v)
    else
      none
| level + 1, table =>
    let entry := m.load64 (slot (level + 1) v table)
    if present entry then
      if pageSize entry then
        if level + 1 < 3 then
          some
            (pageBase (level + 1) entry +
              pageOffset (level + 1) v)
        else
          none
      else
        walk m v level (frame entry)
    else
      none

/- The processor refuses an address that is not canonical. -/
def resolve
    (m : Memory)
    (root v : Addr) : Option Addr :=
  if Canonical v then walk m v 3 root else none

theorem resolve_of_not_canonical
    (m : Memory)
    (root : Addr)
    {v : Addr}
    (hCanonical : ¬ Canonical v) :
    resolve m root v = none :=
  if_neg hCanonical

theorem walk_of_links
    {m : Memory}
    {v table next : Addr}
    {level : Nat}
    (hLinks :
      Links (m.load64 (slot (level + 1) v table)) next) :
    walk m v (level + 1) table = walk m v level next := by
  rcases hLinks with ⟨hPresent, hTable, rfl⟩
  rw [walk]
  simp only [hPresent, hTable, if_true, Bool.false_eq_true,
    if_false]

theorem walk_of_present
    {m : Memory}
    {v table : Addr}
    (hPresent :
      present (m.load64 (slot 0 v table)) = true) :
    walk m v 0 table =
      some
        (frame (m.load64 (slot 0 v table)) +
          pageOffset 0 v) := by
  rw [walk, if_pos hPresent]

theorem walk_of_absent
    {m : Memory}
    {v table : Addr}
    {level : Nat}
    (hAbsent :
      present (m.load64 (slot level v table)) = false) :
    walk m v level table = none := by
  cases level with
  | zero => rw [walk, hAbsent, if_neg Bool.false_ne_true]
  | succ level =>
      rw [walk, hAbsent, if_neg Bool.false_ne_true]

/- The addresses of a page resolve together. -/
theorem walk_add
    (m : Memory)
    {v : Addr}
    (hPage : Aligned 4096 v)
    {offset : Nat}
    (hOffset : offset < 4096)
    (level : Nat)
    (table : Addr) :
    walk m (v + BitVec.ofNat 64 offset) level table =
      (walk m v level table).map
        (fun a => a + BitVec.ofNat 64 offset) := by
  induction level generalizing table with
  | zero =>
      simp only [walk, slot_add hPage hOffset,
        pageOffset_add hPage hOffset]
      split_ifs
      · rw [Option.map_some, BitVec.add_assoc]
      · rfl
  | succ level ih =>
      simp only [walk, slot_add hPage hOffset,
        pageOffset_add hPage hOffset, ih]
      split_ifs
      · rw [Option.map_some, BitVec.add_assoc]
      · rfl
      · rfl
      · rfl

theorem resolve_add
    (m : Memory)
    (root : Addr)
    {v : Addr}
    (hPage : Aligned 4096 v)
    {offset : Nat}
    (hOffset : offset < 4096) :
    resolve m root (v + BitVec.ofNat 64 offset) =
      (resolve m root v).map
        (fun a => a + BitVec.ofNat 64 offset) := by
  unfold resolve
  rw [walk_add m hPage hOffset]
  by_cases hCanonical : Canonical v
  · rw [if_pos hCanonical,
      if_pos ((canonical_add_iff hPage hOffset).mpr hCanonical)]
  · rw [if_neg hCanonical,
      if_neg
        (fun hSum =>
          hCanonical
            ((canonical_add_iff hPage hOffset).mp hSum))]
    rfl

end Mmu

end ByteMachine
