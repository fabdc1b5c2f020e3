import Chihuahua.Machine.Stores

/-
  Two machines that have done the same stores, and that
  differ at most in bytes no one looks at.

  Main declarations:
    * `Machine.Alike`
    * `Alike.write`, `Alike.write8` and `Alike.write32`
-/

------------------------------------------------------------
-- Alike Machines
------------------------------------------------------------

namespace ByteMachine

namespace Machine

/-
  The seen bytes are the same, and so is everything that was
  written. What was there before may differ elsewhere.
-/
structure Alike
    (Seen : Addr → Prop)
    (s s' : Machine) : Prop where
  hStores : s'.stores = s.stores
  hSeen : ∀ b, Seen b → s'.mem b = s.mem b
  hWritten : ∀ b, s.Touched b → s'.mem b = s.mem b

variable {Seen : Addr → Prop} {s s' : Machine}

/- Before the first store only the seen bytes matter. -/
theorem alike_of_seen
    {m m' : Memory}
    (hSeen : ∀ b, Seen b → m' b = m b) :
    Alike Seen
      { mem := m
        stores := [] }
      { mem := m'
        stores := [] } where
  hStores := rfl
  hSeen := hSeen
  hWritten b hTouched :=
    absurd hTouched (not_touched_of_stores_nil rfl b)

namespace Alike

/- The same store is done on both. -/
theorem write
    (hAlike : Alike Seen s s')
    (a : Addr)
    (n : Nat)
    (v : BitVec (8 * n)) :
    Alike Seen (s.write a n v) (s'.write a n v) := by
  have hByte (b : Addr) (hSame : s'.mem b = s.mem b) :
      (s'.write a n v).mem b = (s.write a n v).mem b := by
    show s'.mem.store a n v b = s.mem.store a n v b
    by_cases hRange : InRange a n b
    · rw [Memory.store_of_inRange v hRange,
        Memory.store_of_inRange v hRange]
    · rw [Memory.store_of_not_inRange v hRange,
        Memory.store_of_not_inRange v hRange, hSame]
  constructor
  · show ⟨a, n⟩ :: s'.stores = ⟨a, n⟩ :: s.stores
    rw [hAlike.hStores]
  · exact fun b hSeen => hByte b (hAlike.hSeen b hSeen)
  · intro b hTouched
    rcases (touched_write s a n v b).mp hTouched with
      hRange | hBefore
    · show s'.mem.store a n v b = s.mem.store a n v b
      rw [Memory.store_of_inRange v hRange,
        Memory.store_of_inRange v hRange]
    · exact hByte b (hAlike.hWritten b hBefore)

theorem write8
    (hAlike : Alike Seen s s')
    (a : Addr)
    (v : Byte) :
    Alike Seen (s.write8 a v) (s'.write8 a v) :=
  hAlike.write a 1 v

theorem write32
    (hAlike : Alike Seen s s')
    (a : Addr)
    (v : BitVec 32) :
    Alike Seen (s.write32 a v) (s'.write32 a v) :=
  hAlike.write a 4 v

end Alike

end Machine

end ByteMachine
