import Chihuahua.CHusky.CString
import Chihuahua.Essentials.Memcmp

/-
  The memory functions that both libraries have, each in its
  own copy: what holds of the one holds of the other.

  Main declarations:
    * `memcmp`
    * `memcmp_ordersMemory`
    * `memcpy_copiesForward`
-/

------------------------------------------------------------
-- The Copies
------------------------------------------------------------

namespace Chihuahua

namespace CHusky

open ByteMachine Essentials

def memcmp
    (vl vr : Addr)
    (n : BitVec 64)
    (t : Tracked) : BitVec 32 × Tracked :=
  Essentials.memcmp vl vr n t

------------------------------------------------------------
-- Comparing
------------------------------------------------------------

theorem memcmp_ordersMemory :
    OrdersMemory Essentials.memcmp ∧
      OrdersMemory CHusky.memcmp :=
  ⟨ordersMemory_memcmp, ordersMemory_memcmp⟩

/- Bytes compare unsigned, here at the last position. -/
example :
    let mem : Memory := fun a =>
      if a = 2 then 0xFF else if a = 12 then 0x7F else 0
    (CHusky.memcmp 0 10 3 (Tracked.start mem)).1 = 0x80 := by
  decide

------------------------------------------------------------
-- Copying
------------------------------------------------------------

theorem memcpy_copiesForward
    {dest src : Addr}
    {n : BitVec 64}
    (hDest : dest.toNat + n.toNat ≤ 2 ^ 64)
    (hSrc : src.toNat + n.toNat ≤ 2 ^ 64)
    (m : Machine) :
    CopiesForward Essentials.memcpy dest src n m ∧
      CopiesForward CHusky.memcpy dest src n m :=
  ⟨copiesForward_memcpy hDest hSrc m,
    copiesForward_memcpy hDest hSrc m⟩

/- Five bytes, of which the first two are repeated. -/
theorem memcpy_copiesForward_by_two :
    CopiesForward Essentials.memcpy
        0x1002 0x1000 5 countingMemory ∧
      CopiesForward CHusky.memcpy
        0x1002 0x1000 5 countingMemory :=
  memcpy_copiesForward (by decide) (by decide) countingMemory

end CHusky

end Chihuahua
