import Chihuahua.Machine.Alike

/-
  The memory primitives of the essentials library, on a
  machine that logs every store.

  Main declarations:
    * `memcpy` and `memset`
    * `touched_memcpy` and `memcpy_mem`
    * `memset_fills`, `memset_mem` and `touched_memset`
    * `memcpy_alike` and `memset_alike`
-/

------------------------------------------------------------
-- The Primitives
------------------------------------------------------------

namespace Chihuahua

namespace Essentials

open ByteMachine

/- The byte loop of `memcpy` with `n` bytes left. -/
def memcpyLoop :
    Nat → Addr → Addr → Machine → Machine
| 0, _, _, s => s
| n + 1, d, src, s =>
    memcpyLoop n (d + 1) (src + 1) (s.write8 d (s.mem src))

def memcpy
    (dest src : Addr)
    (n : BitVec 64)
    (s : Machine) : Addr × Machine :=
  (dest, memcpyLoop n.toNat dest src s)

/- The word loop of `memset` with `n` words left. -/
def memsetLoop
    (w_c : BitVec 32) :
    Nat → Addr → Machine → Machine
| 0, _, s => s
| n + 1, w_traverser, s =>
    memsetLoop w_c n (w_traverser + 4)
      (s.write32 w_traverser w_c)

def memset
    (dest : Addr)
    (c : BitVec 32)
    (n : BitVec 64)
    (s : Machine) : Addr × Machine :=
  let b : Byte := c.setWidth 8
  let traverser := dest
  if n = 0 then (dest, s) else
  let s := s.write8 (traverser + (n - 1)) b
  let s := s.write8 traverser b
  if n ≤ 2 then (dest, s) else
  let s := s.write8 (traverser + (n - 2)) b
  let s := s.write8 (traverser + 1) b
  let s := s.write8 (traverser + (n - 3)) b
  let s := s.write8 (traverser + 2) b
  if n ≤ 6 then (dest, s) else
  let s := s.write8 (traverser + (n - 4)) b
  let s := s.write8 (traverser + 3) b
  if n ≤ 8 then (dest, s) else
  let k := -traverser &&& (3 : Addr)
  let traverser := traverser + k
  let n := ((n - k) &&& (-4 : BitVec 64)) / (4 : BitVec 64)
  let w_c := c &&& (0xFF : BitVec 32)
  let w_c := w_c ||| (w_c <<< 8 ||| w_c <<< 16 ||| w_c <<< 24)
  (dest, memsetLoop w_c n.toNat traverser s)

------------------------------------------------------------
-- memcpy
------------------------------------------------------------

theorem touched_memcpyLoop
    {n : Nat}
    (hSize : n ≤ 2 ^ 64)
    (d src : Addr)
    (s : Machine)
    (b : Addr) :
    (memcpyLoop n d src s).Touched b ↔
      InRange d n b ∨ s.Touched b := by
  induction n generalizing d src s with
  | zero => simp [memcpyLoop]
  | succ n ih =>
      have hTail := inRange_succ_iff d b (Nat.lt_of_succ_le hSize)
      have hHead : b = d ↔ (b - d).toNat = 0 := by
        rw [← Machine.inRange_one_iff]
        unfold InRange
        omega
      rw [memcpyLoop, ih (by omega),
        Machine.touched_write8, hTail, hHead, ← or_assoc]
      unfold InRange
      have hSplit :
          ((1 ≤ (b - d).toNat ∧ (b - d).toNat < n + 1) ∨
              (b - d).toNat = 0) ↔
            (b - d).toNat < n + 1 := by
        omega
      rw [hSplit]

/- `memcpy` writes exactly the `n` bytes at `dest`. -/
theorem touched_memcpy
    (dest src : Addr)
    (n : BitVec 64)
    (s : Machine)
    (b : Addr) :
    (memcpy dest src n s).2.Touched b ↔
      InRange dest n.toNat b ∨ s.Touched b :=
  touched_memcpyLoop n.isLt.le dest src s b

/-
  The loop copies forward: the bytes it still has to read
  are not among those it has written, provided the
  destination does not start strictly inside the source.
-/
theorem memcpyLoop_mem
    {n : Nat}
    (hSize : n ≤ 2 ^ 64)
    {d src : Addr}
    (hForward : d = src ∨ n ≤ (d - src).toNat)
    (s : Machine) :
    (memcpyLoop n d src s).mem =
      s.mem.paint
        { base := d
          size := n
          content := fun i =>
            s.mem (src + BitVec.ofNat 64 i) } := by
  induction n generalizing d src s with
  | zero =>
      funext b
      rw [Memory.paint_apply,
        if_neg (not_inRange_zero d b)]
      rfl
  | succ n ih =>
      have hForward' :
          d + 1 = src + 1 ∨
            n ≤ (d + 1 - (src + 1)).toNat := by
        rcases hForward with hSame | hApart
        · exact Or.inl (by rw [hSame])
        · right
          have hDiff : d + 1 - (src + 1) = d - src := by
            bv_omega
          rw [hDiff]
          omega
      rw [memcpyLoop, ih (by omega) hForward']
      funext b
      have hTail :=
        inRange_succ_iff d b (Nat.lt_of_succ_le hSize)
      simp only [Memory.paint_apply, hTail,
        Machine.write8_mem]
      have hCopied :
          src + 1 + BitVec.ofNat 64 (b - (d + 1)).toNat =
            src + BitVec.ofNat 64 (b - d).toNat := by
        rw [BitVec.ofNat_toNat, BitVec.ofNat_toNat,
          BitVec.setWidth_eq, BitVec.setWidth_eq]
        bv_omega
      rw [hCopied]
      by_cases hHead : b = d
      · subst hHead
        have hCovers : InRange b (n + 1) b := by
          simp [InRange]
        rw [if_pos hCovers]
        simp
      · have hPos : 1 ≤ (b - d).toNat := by
          bv_omega
        simp only [hPos, true_and, hHead, if_false]
        by_cases hRange : (b - d).toNat < n + 1
        · have hUnread :
              src + BitVec.ofNat 64 (b - d).toNat ≠ d := by
            intro hHit
            rw [BitVec.ofNat_toNat, BitVec.setWidth_eq]
              at hHit
            have hOffset : d - src = b - d := by
              bv_omega
            rcases hForward with hSame | hApart
            · subst hSame
              bv_omega
            · rw [hOffset] at hApart
              omega
          have hCovers : InRange d (n + 1) b := hRange
          rw [if_pos hRange, if_neg hUnread, if_pos hCovers]
        · have hCovers : ¬ InRange d (n + 1) b := hRange
          rw [if_neg hRange, if_neg hCovers]

theorem memcpy_mem
    {dest src : Addr}
    {n : BitVec 64}
    (hForward :
      dest = src ∨ n.toNat ≤ (dest - src).toNat)
    (s : Machine) :
    (memcpy dest src n s).2.mem =
      s.mem.paint
        { base := dest
          size := n.toNat
          content := fun i =>
            s.mem (src + BitVec.ofNat 64 i) } :=
  memcpyLoop_mem n.isLt.le hForward s

/- Wherever it reads, it writes its destination only. -/
theorem memcpyLoop_mem_of_not_inRange
    {n : Nat}
    (hSize : n ≤ 2 ^ 64)
    (d src : Addr)
    (s : Machine)
    {b : Addr}
    (hOutside : ¬ InRange d n b) :
    (memcpyLoop n d src s).mem b = s.mem b := by
  induction n generalizing d src s with
  | zero => rfl
  | succ n ih =>
      have hTail := inRange_succ_iff d b (Nat.lt_of_succ_le hSize)
      have hHead : b ≠ d := by
        rintro rfl
        apply hOutside
        unfold InRange
        rw [BitVec.sub_self]
        exact Nat.succ_pos n
      have hRest : ¬ InRange (d + 1) n b := by
        rw [hTail]
        exact fun hInside => hOutside hInside.2
      rw [memcpyLoop, ih (by omega) _ _ _ hRest,
        Machine.write8_mem, if_neg hHead]

theorem memcpy_mem_of_not_inRange
    {dest : Addr}
    (src : Addr)
    {n : BitVec 64}
    (s : Machine)
    {b : Addr}
    (hOutside : ¬ InRange dest n.toNat b) :
    (memcpy dest src n s).2.mem b = s.mem b :=
  memcpyLoop_mem_of_not_inRange n.isLt.le dest src s hOutside

------------------------------------------------------------
-- memset
------------------------------------------------------------

open Machine

theorem memsetLoop_fills
    {c : Byte}
    {w_c : BitVec 32}
    (hBytes : ∀ i, i < 4 → w_c.extractLsb' (8 * i) 8 = c)
    (dest : Addr)
    (n : Nat)
    {offset : Nat}
    (hBound : offset + 4 * n ≤ 2 ^ 64)
    (s : Machine) :
    Fills c s
      (memsetLoop w_c n (dest + BitVec.ofNat 64 offset) s)
      (fun b =>
        offset ≤ (b - dest).toNat ∧
          (b - dest).toNat < offset + 4 * n) := by
  induction n generalizing offset s with
  | zero =>
      apply (Fills.refl c s).congr
      intro b
      simp only [false_iff]
      omega
  | succ n ih =>
      have hNext :
          dest + BitVec.ofNat 64 offset + 4 =
            dest + BitVec.ofNat 64 (offset + 4) := by
        rw [BitVec.ofNat_add, ← BitVec.add_assoc]
        rfl
      have hFirst :=
        Fills.write32 s (dest + BitVec.ofNat 64 offset)
          hBytes
      have hRest :=
        @ih (offset + 4) (by omega)
          (s.write32 (dest + BitVec.ofNat 64 offset) w_c)
      rw [memsetLoop, hNext]
      apply (hFirst.trans hRest).congr
      intro b
      rw [inRange_add_iff dest b (by omega)]
      omega

/- The four bytes of the fill word are the fill byte. -/
theorem fillWord_bytes
    (c : BitVec 32)
    {i : Nat}
    (hi : i < 4) :
    (c &&& (0xFF : BitVec 32) |||
        ((c &&& (0xFF : BitVec 32)) <<< 8 |||
          (c &&& (0xFF : BitVec 32)) <<< 16 |||
          (c &&& (0xFF : BitVec 32)) <<< 24)).extractLsb'
        (8 * i) 8 =
      c.setWidth 8 := by
  have hMask :
      ∀ j, (255 : BitVec 32).getLsbD j = decide (j < 8) := by
    intro j
    have hOnes :
        (255 : BitVec 32) =
          (BitVec.allOnes 8).setWidth 32 := by
      decide
    rw [hOnes, BitVec.getLsbD_setWidth,
      BitVec.getLsbD_allOnes]
    grind
  apply BitVec.eq_of_getLsbD_eq
  intro j hj
  interval_cases i <;>
    simp only [BitVec.getLsbD_extractLsb', BitVec.getLsbD_or,
      BitVec.getLsbD_and, BitVec.getLsbD_shiftLeft,
      BitVec.getLsbD_setWidth, hMask] <;>
    grind

/- Clearing the low two bits keeps the number of words. -/
theorem words_toNat
    (n : BitVec 64) :
    ((n &&& (-4 : BitVec 64)) / (4 : BitVec 64)).toNat =
      n.toNat / 4 := by
  have hShift :
      ∀ x : BitVec 64, x / (4 : BitVec 64) = x >>> 2 := by
    intro x
    apply BitVec.eq_of_toNat_eq
    simp [BitVec.toNat_udiv, BitVec.toNat_ushiftRight,
      Nat.shiftRight_eq_div_pow]
  have hMask :
      (-4 : BitVec 64) >>> 2 = BitVec.allOnes 64 >>> 2 := by
    decide
  have hHigh : (n &&& (-4 : BitVec 64)) >>> 2 = n >>> 2 := by
    rw [BitVec.ushiftRight_and_distrib, hMask,
      ← BitVec.ushiftRight_and_distrib, BitVec.and_allOnes]
  rw [hShift, hHigh, BitVec.toNat_ushiftRight,
    Nat.shiftRight_eq_div_pow]

theorem neg_and_three_le
    (a : Addr) :
    (-a &&& (3 : Addr)).toNat ≤ 3 := by
  rw [BitVec.toNat_and]
  exact Nat.and_le_right

theorem eq_add_iff
    (base offset b : Addr) :
    b = base + offset ↔
      (b - base).toNat = offset.toNat := by
  constructor
  · intro hEq
    bv_omega
  · intro hEq
    have hOffset := BitVec.eq_of_toNat_eq hEq
    bv_omega

/- One byte from the head and one counted from the end. -/
theorem fills_ends
    (c : Byte)
    (s : Machine)
    (dest head : Addr)
    {n tail : BitVec 64}
    (hTail : tail ≤ n) :
    Fills c s
      ((s.write8 (dest + (n - tail)) c).write8
        (dest + head) c)
      (fun b =>
        (b - dest).toNat = head.toNat ∨
          (b - dest).toNat = n.toNat - tail.toNat) := by
  apply ((Fills.write8 c s (dest + (n - tail))).trans
    (Fills.write8 c _ (dest + head))).congr
  intro b
  rw [eq_add_iff, eq_add_iff, BitVec.toNat_sub_of_le hTail]

/-
  Whatever the length and the alignment, `memset` writes
  exactly the `n` bytes at `dest`.
-/
theorem memset_fills
    (dest : Addr)
    (c : BitVec 32)
    (n : BitVec 64)
    (s : Machine) :
    Fills (c.setWidth 8) s (memset dest c n s).2
      (InRange dest n.toNat) := by
  unfold memset
  dsimp only
  by_cases hZero : n = 0
  · rw [if_pos hZero]
    apply (Fills.refl _ s).congr
    intro b
    subst hZero
    simp [InRange]
  rw [if_neg hZero]
  have hEnds₁ :=
    fills_ends (c.setWidth 8) s dest 0
      (show (1 : BitVec 64) ≤ n by bv_omega)
  rw [show dest + 0 = dest by simp] at hEnds₁
  by_cases hTwo : n ≤ 2
  · rw [if_pos hTwo]
    apply hEnds₁.congr
    intro b
    unfold InRange
    bv_omega
  rw [if_neg hTwo]
  have hEnds₂ :=
    hEnds₁.trans
      (fills_ends (c.setWidth 8) _ dest 1
        (show (2 : BitVec 64) ≤ n by bv_omega))
  have hEnds₃ :=
    hEnds₂.trans
      (fills_ends (c.setWidth 8) _ dest 2
        (show (3 : BitVec 64) ≤ n by bv_omega))
  by_cases hSix : n ≤ 6
  · rw [if_pos hSix]
    apply hEnds₃.congr
    intro b
    unfold InRange
    bv_omega
  rw [if_neg hSix]
  have hEnds₄ :=
    hEnds₃.trans
      (fills_ends (c.setWidth 8) _ dest 3
        (show (4 : BitVec 64) ≤ n by bv_omega))
  by_cases hEight : n ≤ 8
  · rw [if_pos hEight]
    apply hEnds₄.congr
    intro b
    unfold InRange
    bv_omega
  rw [if_neg hEight]
  -- the word loop starts at offset k, at most 3
  have hAlign := neg_and_three_le dest
  have hStart :
      dest + (-dest &&& (3 : Addr)) =
        dest + BitVec.ofNat 64 (-dest &&& (3 : Addr)).toNat := by
    rw [BitVec.ofNat_toNat, BitVec.setWidth_eq]
  have hLength :
      (n - (-dest &&& (3 : Addr))).toNat =
        n.toNat - (-dest &&& (3 : Addr)).toNat := by
    apply BitVec.toNat_sub_of_le
    bv_omega
  have hWords := words_toNat (n - (-dest &&& (3 : Addr)))
  rw [hLength] at hWords
  rw [hStart]
  have hBound :
      (-dest &&& (3 : Addr)).toNat +
          4 * (((n - (-dest &&& (3 : Addr))) &&&
            (-4 : BitVec 64)) / (4 : BitVec 64)).toNat ≤
        2 ^ 64 := by
    have hLt := n.isLt
    rw [hWords]
    omega
  apply (hEnds₄.trans
    (memsetLoop_fills (fun i hi => fillWord_bytes c hi) dest
      _ hBound _)).congr
  intro b
  rw [hWords]
  have hNine : 8 < n.toNat := by bv_omega
  show
    _ ∨ (_ = 3 ∨ _ = _ - 4) ∨ (_ = 2 ∨ _ = _ - 3) ∨
      (_ = 1 ∨ _ = _ - 2) ∨ (_ = 0 ∨ _ = _ - 1) ↔ _ < _
  omega

theorem memset_mem
    (dest : Addr)
    (c : BitVec 32)
    (n : BitVec 64)
    (s : Machine) :
    (memset dest c n s).2.mem =
      s.mem.paint
        { base := dest
          size := n.toNat
          content := fun _ => c.setWidth 8 } := by
  have hFills := memset_fills dest c n s
  funext b
  rw [Memory.paint_apply]
  by_cases hRange : InRange dest n.toNat b
  · rw [if_pos hRange, hFills.filled b hRange]
  · rw [if_neg hRange, hFills.kept b hRange]

theorem touched_memset
    (dest : Addr)
    (c : BitVec 32)
    (n : BitVec 64)
    (s : Machine)
    (b : Addr) :
    (memset dest c n s).2.Touched b ↔
      InRange dest n.toNat b ∨ s.Touched b :=
  (memset_fills dest c n s).touched b

------------------------------------------------------------
-- The Primitives on Two Machines
------------------------------------------------------------

theorem memcpyLoop_alike
    {Seen : Addr → Prop}
    {n : Nat}
    (hSize : n ≤ 2 ^ 64)
    (d : Addr)
    {src : Addr}
    (hSource : ∀ b, InRange src n b → Seen b)
    {s s' : Machine}
    (hAlike : Alike Seen s s') :
    Alike Seen (memcpyLoop n d src s)
      (memcpyLoop n d src s') := by
  induction n generalizing d src s s' with
  | zero => exact hAlike
  | succ n ih =>
      have hByte : s'.mem src = s.mem src := by
        apply hAlike.hSeen
        apply hSource
        simp [InRange]
      rw [memcpyLoop, memcpyLoop, hByte]
      apply ih (by omega)
      · intro b hRange
        apply hSource
        exact
          ((inRange_succ_iff src b (by omega)).mp hRange).2
      · exact hAlike.write8 d _

/- Bytes that are copied from seen ones are the same. -/
theorem memcpy_alike
    {Seen : Addr → Prop}
    (dest : Addr)
    {src : Addr}
    {n : BitVec 64}
    (hSource : ∀ b, InRange src n.toNat b → Seen b)
    {s s' : Machine}
    (hAlike : Alike Seen s s') :
    Alike Seen (memcpy dest src n s).2
      (memcpy dest src n s').2 :=
  memcpyLoop_alike n.isLt.le dest hSource hAlike

theorem memsetLoop_alike
    {Seen : Addr → Prop}
    (w_c : BitVec 32)
    (n : Nat)
    (w_traverser : Addr)
    {s s' : Machine}
    (hAlike : Alike Seen s s') :
    Alike Seen (memsetLoop w_c n w_traverser s)
      (memsetLoop w_c n w_traverser s') := by
  induction n generalizing w_traverser s s' with
  | zero => exact hAlike
  | succ n ih => exact ih _ (hAlike.write32 w_traverser w_c)

theorem memset_alike
    {Seen : Addr → Prop}
    (dest : Addr)
    (c : BitVec 32)
    (n : BitVec 64)
    {s s' : Machine}
    (hAlike : Alike Seen s s') :
    Alike Seen (memset dest c n s).2
      (memset dest c n s').2 := by
  unfold memset
  dsimp only
  have hTwo :=
    (hAlike.write8 (dest + (n - 1)) (c.setWidth 8)).write8
      dest (c.setWidth 8)
  have hSix :=
    (((hTwo.write8 (dest + (n - 2)) (c.setWidth 8)).write8
      (dest + 1) (c.setWidth 8)).write8 (dest + (n - 3))
      (c.setWidth 8)).write8 (dest + 2) (c.setWidth 8)
  have hEight :=
    (hSix.write8 (dest + (n - 4)) (c.setWidth 8)).write8
      (dest + 3) (c.setWidth 8)
  split_ifs
  · exact hAlike
  · exact hTwo
  · exact hSix
  · exact hEight
  · exact memsetLoop_alike _ _ _ hEight

end Essentials

end Chihuahua
