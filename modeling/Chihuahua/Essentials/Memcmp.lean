import Chihuahua.Machine.Lexicographic
import Chihuahua.Machine.Strings

/-
  `memcmp` of the essentials library, which `c_husky` has
  once more in the same words.

  Main declarations:
    * `memcmpLoop` and `memcmp`
    * `areaBytes` and `NoDifferenceBefore`
    * `memcmpLoop_ordersAs` and `memcmpLoop_readsWithin`
    * `OrdersMemory` and `ordersMemory_memcmp`
-/

------------------------------------------------------------
-- The Function
------------------------------------------------------------

namespace Chihuahua

namespace Essentials

open ByteMachine Tracked Lexicographic

/- Where a comparison stands, with `n` bytes left. -/
structure CmpState where
  n : Nat
  l : Addr
  r : Addr

/- The loop goes on while the two bytes are the same. -/
def memcmpLoop :
    Nat → Addr → Addr → Tracked → CmpState × Tracked
| 0, l, r, t => ({ n := 0, l := l, r := r }, t)
| n + 1, l, r, t =>
    if t.mem l = t.mem r then
      memcmpLoop n (l + 1) (r + 1) ((t.reading l).reading r)
    else
      ({ n := n + 1, l := l, r := r },
        (t.reading l).reading r)

/- The value of `*l-*r`, both promoted to `int`. -/
def byteDifference (l r : Byte) : BitVec 32 :=
  l.setWidth 32 - r.setWidth 32

/- The `return` reads the two bytes once more. -/
def memcmpReturn
    (state : CmpState)
    (t : Tracked) : BitVec 32 × Tracked :=
  if state.n ≠ 0 then
    (byteDifference (t.mem state.l) (t.mem state.r),
      (t.reading state.l).reading state.r)
  else
    (0, t)

def memcmp
    (vl vr : Addr)
    (n : BitVec 64)
    (t : Tracked) : BitVec 32 × Tracked :=
  let stopped := memcmpLoop n.toNat vl vr t
  memcmpReturn stopped.1 stopped.2

------------------------------------------------------------
-- What It Is For
------------------------------------------------------------

/- The bytes of an area, unsigned. -/
def areaBytes
    (mem : Memory) :
    Nat → Addr → List Nat
| 0, _ => []
| n + 1, a => (mem a).toNat :: areaBytes mem n (a + 1)

/- The areas agree on all bytes before this one. -/
def NoDifferenceBefore
    (mem : Memory)
    (a b : Addr)
    (i : Nat) : Prop :=
  ∀ j, j < i →
    mem (a + BitVec.ofNat 64 j) =
      mem (b + BitVec.ofNat 64 j)

/- The addresses up to the first byte that differs. -/
def UpToDifference
    (mem : Memory)
    (a b : Addr)
    (n : Nat)
    (x : Addr) : Prop :=
  ∃ i, i < n ∧ NoDifferenceBefore mem a b i ∧
    (x = a + BitVec.ofNat 64 i ∨ x = b + BitVec.ofNat 64 i)

/-
  A comparison of memory areas by their bytes: the order of
  the bytes, as an order has to be, area by area, and with
  no look behind the first difference.
-/
structure OrdersMemory
    (cmp :
      Addr → Addr → BitVec 64 → Tracked →
        BitVec 32 × Tracked) : Prop where
  hOrders :
    ∀ a b n t,
      OrdersAs (cmp a b n t).1.toInt
        (areaBytes t.mem n.toNat a)
        (areaBytes t.mem n.toNat b)
  hOpposite :
    ∀ a b n t,
      (cmp b a n t).1.toInt.sign =
        -(cmp a b n t).1.toInt.sign
  hTransitive :
    ∀ a b c n t,
      (cmp a b n t).1.toInt ≤ 0 →
      (cmp b c n t).1.toInt ≤ 0 →
      (cmp a c n t).1.toInt ≤ 0
  hParts :
    ∀ a b (n m : BitVec 64) t,
      n.toNat + m.toNat < 2 ^ 64 →
      (cmp a b (n + m) t).1.toInt.sign =
        if (cmp a b n t).1.toInt.sign ≠ 0 then
          (cmp a b n t).1.toInt.sign
        else (cmp (a + n) (b + n) m t).1.toInt.sign
  hReads :
    ∀ a b n t,
      (cmp a b n t).2.toMachine = t.toMachine ∧
        ReadsWithin (UpToDifference t.mem a b n.toNat) t
          (cmp a b n t).2

------------------------------------------------------------
-- Areas
------------------------------------------------------------

theorem areaBytes_length
    (mem : Memory)
    (n : Nat)
    (a : Addr) :
    (areaBytes mem n a).length = n := by
  induction n generalizing a with
  | zero => rfl
  | succ n ih => rw [areaBytes, List.length_cons, ih]

theorem areaBytes_add
    (mem : Memory)
    (n m : Nat)
    (a : Addr) :
    areaBytes mem (n + m) a =
      areaBytes mem n a ++
        areaBytes mem m (a + BitVec.ofNat 64 n) := by
  induction n generalizing a with
  | zero =>
      rw [Nat.zero_add, add_ofNat_zero]
      rfl
  | succ n ih =>
      rw [Nat.succ_add, areaBytes, areaBytes, ih,
        List.cons_append, add_one_add_ofNat]

/- An offset into the rest of the areas, after equal bytes. -/
theorem UpToDifference.succ
    {mem : Memory}
    {a b x : Addr}
    {n : Nat}
    (hEqual : mem a = mem b)
    (hRest : UpToDifference mem (a + 1) (b + 1) n x) :
    UpToDifference mem a b (n + 1) x := by
  rcases hRest with ⟨i, hi, hBefore, hAt⟩
  refine ⟨i + 1, Nat.succ_lt_succ hi, ?_, ?_⟩
  · intro j hj
    cases j with
    | zero =>
        rw [add_ofNat_zero, add_ofNat_zero]
        exact hEqual
    | succ j =>
        rw [← add_one_add_ofNat, ← add_one_add_ofNat]
        exact hBefore j (Nat.lt_of_succ_lt_succ hj)
  · rw [← add_one_add_ofNat, ← add_one_add_ofNat]
    exact hAt

/- The first byte of either area may always be read. -/
theorem readsWithin_first
    (mem : Memory)
    (a b : Addr)
    (n : Nat)
    (t : Tracked) :
    ReadsWithin (UpToDifference mem a b (n + 1)) t
      ((t.reading a).reading b) := by
  have hFirst : NoDifferenceBefore mem a b 0 :=
    fun j hj => absurd hj (Nat.not_lt_zero j)
  refine
    (ReadsWithin.reading t ?_).trans
      (ReadsWithin.reading _ ?_)
  · exact
      ⟨0, Nat.succ_pos n, hFirst,
        Or.inl (add_ofNat_zero a).symm⟩
  · exact
      ⟨0, Nat.succ_pos n, hFirst,
        Or.inr (add_ofNat_zero b).symm⟩

------------------------------------------------------------
-- The Loop
------------------------------------------------------------

theorem byteDifference_toInt
    (l r : Byte) :
    (byteDifference l r).toInt =
      (l.toNat : Int) - r.toNat := by
  rw [byteDifference, BitVec.toInt_eq_toNat_cond]
  bv_omega

/-
  The comparison of the rest of the areas, from any byte of
  them on.
-/
theorem memcmpLoop_ordersAs
    (n : Nat)
    (l r : Addr)
    (t : Tracked) :
    OrdersAs
      (memcmpReturn (memcmpLoop n l r t).1
          (memcmpLoop n l r t).2).1.toInt
      (areaBytes t.mem n l)
      (areaBytes t.mem n r) := by
  induction n generalizing l r t with
  | zero => exact OrdersAs.nil
  | succ n ih =>
      rw [memcmpLoop, areaBytes, areaBytes]
      by_cases hEqual : t.mem l = t.mem r
      · rw [if_pos hEqual, hEqual]
        exact
          (ih (l + 1) (r + 1) ((t.reading l).reading r)).cons
            (t.mem r).toNat
      · rw [if_neg hEqual, memcmpReturn,
          if_pos (Nat.succ_ne_zero n)]
        have hNe : (t.mem l).toNat ≠ (t.mem r).toNat :=
          fun hSame => hEqual (BitVec.eq_of_toNat_eq hSame)
        have hDifference :=
          byteDifference_toInt (t.mem l) (t.mem r)
        refine OrdersAs.of_head hNe ?_ ?_ _ _
        · show (byteDifference (t.mem l) (t.mem r)).toInt ≠ 0
          omega
        · show
            (byteDifference (t.mem l) (t.mem r)).toInt < 0 ↔
              (t.mem l).toNat < (t.mem r).toNat
          omega

theorem memcmpLoop_readsWithin
    (n : Nat)
    (l r : Addr)
    (t : Tracked) :
    (memcmpReturn (memcmpLoop n l r t).1
          (memcmpLoop n l r t).2).2.toMachine =
        t.toMachine ∧
      ReadsWithin (UpToDifference t.mem l r n) t
        (memcmpReturn (memcmpLoop n l r t).1
          (memcmpLoop n l r t).2).2 := by
  induction n generalizing l r t with
  | zero => exact ⟨rfl, ReadsWithin.of_eq rfl⟩
  | succ n ih =>
      have hFirst := readsWithin_first t.mem l r n t
      rw [memcmpLoop]
      by_cases hEqual : t.mem l = t.mem r
      · rw [if_pos hEqual]
        obtain ⟨hMachine, hReads⟩ :=
          ih (l + 1) (r + 1) ((t.reading l).reading r)
        refine ⟨hMachine, hFirst.trans (hReads.mono ?_)⟩
        intro x hRest
        exact hRest.succ hEqual
      · rw [if_neg hEqual, memcmpReturn,
          if_pos (Nat.succ_ne_zero n)]
        exact
          ⟨rfl,
            hFirst.trans (readsWithin_first t.mem l r n _)⟩

------------------------------------------------------------
-- The Order
------------------------------------------------------------

theorem memcmp_ordersAs
    (a b : Addr)
    (n : BitVec 64)
    (t : Tracked) :
    OrdersAs (memcmp a b n t).1.toInt
      (areaBytes t.mem n.toNat a)
      (areaBytes t.mem n.toNat b) :=
  memcmpLoop_ordersAs n.toNat a b t

/- The sign for two parts is that of the first that differs. -/
theorem memcmp_parts
    (a b : Addr)
    {n m : BitVec 64}
    (hFits : n.toNat + m.toNat < 2 ^ 64)
    (t : Tracked) :
    (memcmp a b (n + m) t).1.toInt.sign =
      if (memcmp a b n t).1.toInt.sign ≠ 0 then
        (memcmp a b n t).1.toInt.sign
      else (memcmp (a + n) (b + n) m t).1.toInt.sign := by
  have hLength :
      (areaBytes t.mem n.toNat a).length =
        (areaBytes t.mem n.toNat b).length := by
    rw [areaBytes_length, areaBytes_length]
  have hParts :=
    (memcmp_ordersAs a b n t).append hLength
      (memcmp_ordersAs (a + n) (b + n) m t)
  have hWhole := memcmp_ordersAs a b (n + m) t
  have hSum : (n + m).toNat = n.toNat + m.toNat :=
    BitVec.toNat_add_of_lt hFits
  rw [hSum, areaBytes_add, areaBytes_add,
    BitVec.ofNat_toNat, BitVec.setWidth_eq] at hWhole
  rw [hWhole.sign_unique hParts]
  simp only [ne_eq, Int.sign_eq_zero_iff_zero]
  exact apply_ite Int.sign _ _ _

theorem ordersMemory_memcmp : OrdersMemory memcmp where
  hOrders := memcmp_ordersAs
  hOpposite a b n t :=
    (memcmp_ordersAs a b n t).opposite
      (memcmp_ordersAs b a n t)
  hTransitive a b c n t :=
    (memcmp_ordersAs a b n t).le_trans
      (memcmp_ordersAs b c n t) (memcmp_ordersAs a c n t)
  hParts a b _ _ t hFits := memcmp_parts a b hFits t
  hReads a b n t := memcmpLoop_readsWithin n.toNat a b t

end Essentials

end Chihuahua
