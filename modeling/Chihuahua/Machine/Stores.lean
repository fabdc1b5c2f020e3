import Chihuahua.Machine.Memory

/-
  A machine: its memory together with the log of the stores
  that produced it.

  The log makes a statement about which bytes a program
  writes different from a statement about which bytes it
  changes.

  Main declarations:
    * `Machine.write` and `Machine.Touched`
    * `Machine.Fills` and its composition rules
    * `Machine.Adds`
    * `Block`, `Memory.paint` and `Memory.paintAll`
-/

------------------------------------------------------------
-- Logged Stores
------------------------------------------------------------

namespace ByteMachine

/- One store instruction: where it writes and how much. -/
structure Store where
  address : Addr
  size : Nat
deriving DecidableEq, Repr

/- The store log lists the latest store first. -/
structure Machine where
  mem : Memory
  stores : List Store

namespace Machine

def write
    (s : Machine)
    (a : Addr)
    (n : Nat)
    (v : BitVec (8 * n)) : Machine where
  mem := s.mem.store a n v
  stores := ⟨a, n⟩ :: s.stores

def write8 (s : Machine) (a : Addr) (v : Byte) : Machine :=
  s.write a 1 v

def write32
    (s : Machine)
    (a : Addr)
    (v : BitVec 32) : Machine :=
  s.write a 4 v

def write64
    (s : Machine)
    (a : Addr)
    (v : BitVec 64) : Machine :=
  s.write a 8 v

/- Some logged store wrote the byte at `b`. -/
def Touched
    (s : Machine)
    (b : Addr) : Prop :=
  ∃ st ∈ s.stores, InRange st.address st.size b

@[simp] theorem touched_write
    (s : Machine)
    (a : Addr)
    (n : Nat)
    (v : BitVec (8 * n))
    (b : Addr) :
    (s.write a n v).Touched b ↔
      InRange a n b ∨ s.Touched b := by
  simp [Touched, write]

/- No store has been logged yet. -/
theorem not_touched_of_stores_nil
    {s : Machine}
    (hStores : s.stores = [])
    (b : Addr) :
    ¬ s.Touched b := by
  simp [Touched, hStores]

theorem inRange_one_iff
    (a b : Addr) :
    InRange a 1 b ↔ b = a := by
  constructor
  · intro hRange
    have hOffset : (b - a).toNat = 0 := by
      have := hRange
      unfold InRange at this
      omega
    rw [eq_add_ofNat_offset a b, hOffset]
    simp
  · rintro rfl
    simp [InRange]

@[simp] theorem write8_mem
    (s : Machine)
    (a : Addr)
    (v : Byte)
    (b : Addr) :
    (s.write8 a v).mem b = if b = a then v else s.mem b := by
  by_cases hEq : b = a
  · subst hEq
    have hRange : InRange b 1 b := by simp [InRange]
    have hByte :=
      Memory.store_of_inRange (n := 1) (m := s.mem) v hRange
    rw [if_pos rfl]
    show s.mem.store b 1 v b = v
    rw [hByte]
    apply BitVec.eq_of_getLsbD_eq
    intro i hi
    simp [hi]
  · rw [if_neg hEq]
    exact Memory.store_of_not_inRange (n := 1) v
      (fun hRange => hEq ((inRange_one_iff a b).mp hRange))

@[simp] theorem touched_write8
    (s : Machine)
    (a : Addr)
    (v : Byte)
    (b : Addr) :
    (s.write8 a v).Touched b ↔ b = a ∨ s.Touched b := by
  show (s.write a 1 v).Touched b ↔ _
  rw [touched_write, inRange_one_iff]

------------------------------------------------------------
-- Filling Sets of Addresses
------------------------------------------------------------

/-
  From `s` to `s'` exactly the addresses in `P` were written,
  and each of them now holds `c`.
-/
structure Fills
    (c : Byte)
    (s s' : Machine)
    (P : Addr → Prop) : Prop where
  filled : ∀ b, P b → s'.mem b = c
  kept : ∀ b, ¬ P b → s'.mem b = s.mem b
  touched : ∀ b, s'.Touched b ↔ P b ∨ s.Touched b

namespace Fills

variable {c : Byte} {s s' s'' : Machine}
variable {P Q : Addr → Prop}

theorem refl
    (c : Byte)
    (s : Machine) :
    Fills c s s (fun _ => False) where
  filled := by simp
  kept := by simp
  touched := by simp

theorem trans
    (hFirst : Fills c s s' P)
    (hSecond : Fills c s' s'' Q) :
    Fills c s s'' (fun b => Q b ∨ P b) where
  filled := by
    intro b hUnion
    by_cases hQ : Q b
    · exact hSecond.filled b hQ
    · rw [hSecond.kept b hQ]
      exact hFirst.filled b (hUnion.resolve_left hQ)
  kept := by
    intro b hNeither
    rw [hSecond.kept b (fun hQ => hNeither (Or.inl hQ)),
      hFirst.kept b (fun hP => hNeither (Or.inr hP))]
  touched := by
    intro b
    rw [hSecond.touched, hFirst.touched, or_assoc]

theorem congr
    (hFills : Fills c s s' P)
    (hSame : ∀ b, P b ↔ Q b) :
    Fills c s s' Q where
  filled := fun b hQ => hFills.filled b ((hSame b).mpr hQ)
  kept := fun b hQ =>
    hFills.kept b (fun hP => hQ ((hSame b).mp hP))
  touched := by
    intro b
    rw [hFills.touched, hSame]

theorem write8
    (c : Byte)
    (s : Machine)
    (a : Addr) :
    Fills c s (s.write8 a c) (fun b => b = a) where
  filled := by
    intro b hEq
    rw [write8_mem, if_pos hEq]
  kept := by
    intro b hNe
    rw [write8_mem, if_neg hNe]
  touched := touched_write8 s a c

/- A word whose four bytes are all `c`. -/
theorem write32
    {c : Byte}
    (s : Machine)
    (a : Addr)
    {v : BitVec 32}
    (hBytes : ∀ i, i < 4 → v.extractLsb' (8 * i) 8 = c) :
    Fills c s (s.write32 a v) (InRange a 4) where
  filled := by
    intro b hRange
    have hByte :=
      Memory.store_of_inRange (n := 4) (m := s.mem) v hRange
    exact hByte.trans (hBytes _ hRange)
  kept := by
    intro b hRange
    exact Memory.store_of_not_inRange (n := 4) v hRange
  touched := touched_write s a 4 v

end Fills

------------------------------------------------------------
-- What Is Added to the Log
------------------------------------------------------------

/- From `s` to `s'` all stores have the property. -/
def Adds
    (P : Store → Prop)
    (s s' : Machine) : Prop :=
  ∃ new, s'.stores = new ++ s.stores ∧ ∀ st ∈ new, P st

namespace Adds

variable {P : Store → Prop} {s s' s'' : Machine}

theorem refl
    (P : Store → Prop)
    (s : Machine) : Adds P s s :=
  ⟨[], rfl, by simp⟩

theorem trans
    (hFirst : Adds P s s')
    (hSecond : Adds P s' s'') :
    Adds P s s'' := by
  rcases hFirst with ⟨first, hFirst, hFirstAll⟩
  rcases hSecond with ⟨second, hSecond, hSecondAll⟩
  refine ⟨second ++ first, ?_, ?_⟩
  · rw [hSecond, hFirst, List.append_assoc]
  · intro st hMember
    rcases List.mem_append.mp hMember with hLater | hEarlier
    · exact hSecondAll st hLater
    · exact hFirstAll st hEarlier

theorem write
    (s : Machine)
    {a : Addr}
    {n : Nat}
    (v : BitVec (8 * n))
    (hStore : P ⟨a, n⟩) :
    Adds P s (s.write a n v) := by
  refine ⟨[⟨a, n⟩], rfl, ?_⟩
  intro st hMember
  rw [List.mem_singleton.mp hMember]
  exact hStore

end Adds

end Machine

------------------------------------------------------------
-- Blocks of Memory
------------------------------------------------------------

/- A range of addresses with the bytes it is to hold. -/
structure Block where
  base : Addr
  size : Nat
  content : Nat → Byte

namespace Block

abbrev Covers
    (block : Block)
    (a : Addr) : Prop :=
  InRange block.base block.size a

/- The byte the block puts at an address it covers. -/
def byteAt
    (block : Block)
    (a : Addr) : Byte :=
  block.content (a - block.base).toNat

def Disjoint
    (block block' : Block) : Prop :=
  ∀ a, block.Covers a → ¬ block'.Covers a

theorem Disjoint.symm
    {block block' : Block}
    (hDisjoint : block.Disjoint block') :
    block'.Disjoint block := by
  intro a hRight hLeft
  exact hDisjoint a hLeft hRight

end Block

namespace Memory

/- Overwrite one block. -/
def paint
    (m : Memory)
    (block : Block) : Memory :=
  fun a => if block.Covers a then block.byteAt a else m a

/- Overwrite a list of blocks, the first one first. -/
def paintAll
    (m : Memory)
    (blocks : List Block) : Memory :=
  blocks.foldl paint m

theorem paint_apply
    (m : Memory)
    (block : Block)
    (a : Addr) :
    m.paint block a =
      if InRange block.base block.size a then
        block.content (a - block.base).toNat
      else
        m a := rfl

theorem paint_of_covers
    {m : Memory}
    {block : Block}
    {a : Addr}
    (hCovers : block.Covers a) :
    m.paint block a = block.byteAt a := by
  simp [paint, hCovers]

theorem paint_of_not_covers
    {m : Memory}
    {block : Block}
    {a : Addr}
    (hCovers : ¬ block.Covers a) :
    m.paint block a = m a := by
  simp [paint, hCovers]

/- Only the content below the size of a block counts. -/
theorem paint_congr
    (m : Memory)
    (base : Addr)
    {size : Nat}
    {content content' : Nat → Byte}
    (hSame : ∀ i, i < size → content i = content' i) :
    m.paint
        { base := base
          size := size
          content := content } =
      m.paint
        { base := base
          size := size
          content := content' } := by
  funext a
  simp only [paint_apply]
  by_cases hRange : InRange base size a
  · rw [if_pos hRange, if_pos hRange, hSame _ hRange]
  · rw [if_neg hRange, if_neg hRange]

/- Two adjacent parts of one block, painted in order. -/
theorem paint_paint_append
    (m : Memory)
    (base : Addr)
    {low high : Nat}
    (hOrder : low ≤ high)
    (hHigh : high ≤ 2 ^ 64)
    (front back : Nat → Byte) :
    (m.paint
          { base := base
            size := low
            content := front }).paint
        { base := base + BitVec.ofNat 64 low
          size := high - low
          content := back } =
      m.paint
        { base := base
          size := high
          content := fun i =>
            if i < low then front i else back (i - low) } := by
  funext a
  have hBound : low + (high - low) ≤ 2 ^ 64 := by omega
  have hInRange (size : Nat) :
      InRange base size a ↔ (a - base).toNat < size :=
    Iff.rfl
  simp only [paint_apply, inRange_add_iff base a hBound,
    Nat.add_sub_cancel' hOrder, hInRange]
  by_cases hFront : (a - base).toNat < low
  · rw [if_neg (by omega), if_pos hFront,
      if_pos (by omega), if_pos hFront]
  · by_cases hBack : (a - base).toNat < high
    · have hOffset :
          (a - (base + BitVec.ofNat 64 low)).toNat =
            (a - base).toNat - low := by
        have hLow : low < 2 ^ 64 := by omega
        have hSplit :
            a - (base + BitVec.ofNat 64 low) =
              a - base - BitVec.ofNat 64 low := by
          bv_omega
        rw [hSplit, BitVec.toNat_sub_of_le]
        · rw [BitVec.toNat_ofNat, Nat.mod_eq_of_lt hLow]
        · rw [BitVec.le_def, BitVec.toNat_ofNat,
            Nat.mod_eq_of_lt hLow]
          omega
      rw [if_pos ⟨by omega, hBack⟩, if_pos hBack,
        if_neg hFront, hOffset]
    · rw [if_neg (by omega), if_neg hFront,
        if_neg hBack]

theorem paintAll_append
    (m : Memory)
    (blocks blocks' : List Block) :
    m.paintAll (blocks ++ blocks') =
      (m.paintAll blocks).paintAll blocks' :=
  List.foldl_append

/- Painting leaves every uncovered byte alone. -/
theorem paintAll_of_not_covers
    {m : Memory}
    {blocks : List Block}
    {a : Addr}
    (hCovers : ∀ block ∈ blocks, ¬ block.Covers a) :
    m.paintAll blocks a = m a := by
  induction blocks generalizing m with
  | nil => rfl
  | cons block blocks ih =>
      have hRest :
          ∀ other ∈ blocks, ¬ other.Covers a := by
        intro other hOther
        exact hCovers other (by simp [hOther])
      show (m.paint block).paintAll blocks a = m a
      rw [ih hRest]
      exact paint_of_not_covers (hCovers block (by simp))

/- No later block disturbs an earlier disjoint one. -/
theorem paintAll_of_covers
    {m : Memory}
    {blocks : List Block}
    (hDisjoint : blocks.Pairwise Block.Disjoint)
    {block : Block}
    (hMember : block ∈ blocks)
    {a : Addr}
    (hCovers : block.Covers a) :
    m.paintAll blocks a = block.byteAt a := by
  induction blocks generalizing m with
  | nil => simp at hMember
  | cons first blocks ih =>
      rcases List.pairwise_cons.mp hDisjoint with
        ⟨hFirst, hRest⟩
      rcases List.mem_cons.mp hMember with rfl | hLater
      · show (m.paint block).paintAll blocks a =
          block.byteAt a
        rw [paintAll_of_not_covers
          (fun other hOther => hFirst other hOther a hCovers)]
        exact paint_of_covers hCovers
      · exact ih hRest hLater

------------------------------------------------------------
-- Clearing an Aligned Block
------------------------------------------------------------

/- A word lies inside an aligned granule or outside it. -/
theorem inRange_granule_of_inRange_word
    {granule : Nat}
    {base a b : Addr}
    (hPos : 0 < granule)
    (hDvd : granule ∣ 2 ^ 64)
    (hWord : 8 ∣ granule)
    (hBase : Aligned granule base)
    (hAligned : Aligned 8 a)
    (hRange : InRange a 8 b) :
    InRange base granule b ↔ InRange base granule a := by
  rw [inRange_iff_div_eq hPos hDvd hBase,
    inRange_iff_div_eq hPos hDvd hBase]
  rw [inRange_iff_div_eq (by norm_num) (by norm_num)
    hAligned] at hRange
  rcases hWord with ⟨words, rfl⟩
  simp only [← Nat.div_div_eq_div_mul, hRange]

/- Clearing an aligned granule clears its words only. -/
theorem load64_paint_zero
    (m : Memory)
    {granule : Nat}
    {base a : Addr}
    (hPos : 0 < granule)
    (hDvd : granule ∣ 2 ^ 64)
    (hWord : 8 ∣ granule)
    (hBase : Aligned granule base)
    (hAligned : Aligned 8 a) :
    (m.paint
        { base := base
          size := granule
          content := fun _ => 0 }).load64 a =
      if InRange base granule a then 0 else m.load64 a := by
  have hSame : ∀ b, InRange a 8 b →
      (InRange base granule b ↔ InRange base granule a) := by
    intro b hRange
    exact inRange_granule_of_inRange_word hPos hDvd hWord
      hBase hAligned hRange
  by_cases hInside : InRange base granule a
  · rw [if_pos hInside]
    apply load_eq_of_bytes (n := 8)
    intro i hi
    have hByte :=
      (hSame _ (inRange_add_ofNat a hi)).mpr hInside
    rw [paint_apply, if_pos hByte]
    apply BitVec.eq_of_getLsbD_eq
    intro j hj
    simp
  · rw [if_neg hInside]
    apply load_congr (n := 8)
    intro b hRange
    have hByte : ¬ InRange base granule b := by
      rw [hSame b hRange]
      exact hInside
    rw [paint_apply, if_neg hByte]

end Memory

end ByteMachine
