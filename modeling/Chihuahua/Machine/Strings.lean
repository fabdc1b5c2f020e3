import Chihuahua.Machine.Stores

/-
  NUL-terminated strings in memory, and machines that log
  what they read.

  Main declarations:
    * `Tracked` and `ReadsWithin`
    * `HoldsText` and `HoldsString`
    * `leadingBytes`
-/

------------------------------------------------------------
-- Logged Reads
------------------------------------------------------------

namespace ByteMachine

/- The read log lists the latest byte first. -/
structure Tracked extends Machine where
  reads : List Addr

namespace Tracked

/- Nothing is in either log. -/
def start (mem : Memory) : Tracked where
  mem := mem
  stores := []
  reads := []

/- The byte at `a` is read; its value is `t.mem a`. -/
def reading (t : Tracked) (a : Addr) : Tracked :=
  { t with reads := a :: t.reads }

def write8 (t : Tracked) (a : Addr) (v : Byte) : Tracked :=
  { t with toMachine := t.toMachine.write8 a v }

/- From `t` to `t'` only addresses in `P` were read. -/
def ReadsWithin
    (P : Addr → Prop)
    (t t' : Tracked) : Prop :=
  ∃ new, t'.reads = new ++ t.reads ∧ ∀ a ∈ new, P a

namespace ReadsWithin

variable {P Q : Addr → Prop} {t t' t'' : Tracked}

theorem of_eq
    (hReads : t'.reads = t.reads) :
    ReadsWithin P t t' :=
  ⟨[], hReads, by simp⟩

theorem trans
    (hFirst : ReadsWithin P t t')
    (hSecond : ReadsWithin P t' t'') :
    ReadsWithin P t t'' := by
  rcases hFirst with ⟨first, hFirst, hFirstAll⟩
  rcases hSecond with ⟨second, hSecond, hSecondAll⟩
  refine ⟨second ++ first, ?_, ?_⟩
  · rw [hSecond, hFirst, List.append_assoc]
  · intro a hMember
    rcases List.mem_append.mp hMember with hLater | hEarlier
    · exact hSecondAll a hLater
    · exact hFirstAll a hEarlier

theorem mono
    (hReads : ReadsWithin P t t')
    (hWider : ∀ a, P a → Q a) :
    ReadsWithin Q t t' := by
  rcases hReads with ⟨new, hNew, hAll⟩
  exact ⟨new, hNew, fun a hMember => hWider a (hAll a hMember)⟩

theorem reading
    {a : Addr}
    (t : Tracked)
    (hRead : P a) :
    ReadsWithin P t (t.reading a) := by
  refine ⟨[a], rfl, ?_⟩
  intro b hMember
  rw [List.mem_singleton.mp hMember]
  exact hRead

end ReadsWithin

end Tracked

------------------------------------------------------------
-- Text in Memory
------------------------------------------------------------

def HoldsText
    (mem : Memory)
    (a : Addr)
    (text : List Byte) : Prop :=
  ∀ i (hi : i < text.length),
    mem (a + BitVec.ofNat 64 i) = text[i]

/- A text without a NUL, and a NUL behind it. -/
structure HoldsString
    (mem : Memory)
    (a : Addr)
    (text : List Byte) : Prop where
  hText : HoldsText mem a text
  hNonzero : ∀ c ∈ text, c ≠ 0
  hEnd : mem (a + BitVec.ofNat 64 text.length) = 0

theorem add_ofNat_add_ofNat
    (a : Addr)
    (i j : Nat) :
    a + BitVec.ofNat 64 i + BitVec.ofNat 64 j =
      a + BitVec.ofNat 64 (i + j) := by
  rw [BitVec.ofNat_add, BitVec.add_assoc]

theorem add_one_add_ofNat
    (a : Addr)
    (i : Nat) :
    a + 1 + BitVec.ofNat 64 i =
      a + BitVec.ofNat 64 (i + 1) := by
  rw [Nat.add_comm i 1, ← add_ofNat_add_ofNat]
  rfl

theorem add_ofNat_zero
    (a : Addr) :
    a + BitVec.ofNat 64 0 = a := by
  simp

theorem holdsText_cons
    {mem : Memory}
    {a : Addr}
    {c : Byte}
    {text : List Byte} :
    HoldsText mem a (c :: text) ↔
      mem a = c ∧ HoldsText mem (a + 1) text := by
  constructor
  · intro hText
    constructor
    · have hHead := hText 0 (by simp)
      rw [add_ofNat_zero] at hHead
      exact hHead
    · intro i hi
      rw [add_one_add_ofNat]
      exact hText (i + 1) (by simpa using hi)
  · rintro ⟨hHead, hTail⟩ i hi
    cases i with
    | zero =>
        rw [add_ofNat_zero]
        exact hHead
    | succ i =>
        rw [← add_one_add_ofNat]
        exact hTail i (by simpa using hi)

theorem holdsText_append
    {mem : Memory}
    {a : Addr}
    {front back : List Byte} :
    HoldsText mem a (front ++ back) ↔
      HoldsText mem a front ∧
        HoldsText mem
          (a + BitVec.ofNat 64 front.length) back := by
  induction front generalizing a with
  | nil =>
      rw [List.nil_append, List.length_nil, add_ofNat_zero]
      exact (and_iff_right (by simp [HoldsText])).symm
  | cons c front ih =>
      rw [List.cons_append, holdsText_cons, holdsText_cons,
        ih, add_one_add_ofNat, List.length_cons, and_assoc]

/- Text in an area whose bytes are the same. -/
theorem HoldsText.congr
    {mem mem' : Memory}
    {a : Addr}
    {text : List Byte}
    (hText : HoldsText mem a text)
    (hSame :
      ∀ b, InRange a text.length b → mem' b = mem b) :
    HoldsText mem' a text := by
  intro i hi
  rw [hSame _ (inRange_add_ofNat a hi)]
  exact hText i hi

namespace HoldsString

variable {mem : Memory} {a : Addr} {c : Byte}
variable {text : List Byte}

theorem head
    (hString : HoldsString mem a (c :: text)) :
    mem a = c ∧ c ≠ 0 :=
  ⟨(holdsText_cons.mp hString.hText).1,
    hString.hNonzero c List.mem_cons_self⟩

theorem tail
    (hString : HoldsString mem a (c :: text)) :
    HoldsString mem (a + 1) text where
  hText := (holdsText_cons.mp hString.hText).2
  hNonzero c' hMember :=
    hString.hNonzero c' (List.mem_cons_of_mem _ hMember)
  hEnd := by
    rw [add_one_add_ofNat]
    exact hString.hEnd

theorem end_of_nil
    (hString : HoldsString mem a []) :
    mem a = 0 := by
  have hEnd := hString.hEnd
  rw [List.length_nil, add_ofNat_zero] at hEnd
  exact hEnd

/- A string ends before its addresses come around. -/
theorem length_lt
    (hString : HoldsString mem a text) :
    text.length < 2 ^ 64 := by
  by_contra hLong
  have hIndex : text.length % 2 ^ 64 < text.length :=
    Nat.lt_of_lt_of_le (Nat.mod_lt _ (by norm_num))
      (not_lt.mp hLong)
  have hSame :
      BitVec.ofNat 64 (text.length % 2 ^ 64) =
        BitVec.ofNat 64 text.length := by
    apply BitVec.eq_of_toNat_eq
    simp
  have hByte := hString.hText _ hIndex
  rw [hSame, hString.hEnd] at hByte
  exact
    hString.hNonzero _ (List.getElem_mem hIndex) hByte.symm

/- The bytes of a string and its NUL are all that counts. -/
theorem congr
    {mem' : Memory}
    (hString : HoldsString mem a text)
    (hSame :
      ∀ b, InRange a (text.length + 1) b → mem' b = mem b) :
    HoldsString mem' a text where
  hText :=
    hString.hText.congr
      (fun b hRange =>
        hSame b (hRange.mono (Nat.le_succ _)))
  hNonzero := hString.hNonzero
  hEnd := by
    rw [hSame _
      (inRange_add_ofNat a (Nat.lt_succ_self _))]
    exact hString.hEnd

end HoldsString

------------------------------------------------------------
-- The Front of an Area
------------------------------------------------------------

/- The bytes before the first NUL, `n` of them at most. -/
def leadingBytes
    (mem : Memory) :
    Nat → Addr → List Byte
| 0, _ => []
| n + 1, a =>
    if mem a = 0 then []
    else mem a :: leadingBytes mem n (a + 1)

section Leading

variable (mem : Memory)

theorem leadingBytes_length_le
    (n : Nat)
    (a : Addr) :
    (leadingBytes mem n a).length ≤ n := by
  induction n generalizing a with
  | zero => exact le_rfl
  | succ n ih =>
      rw [leadingBytes]
      split_ifs
      · exact Nat.zero_le _
      · exact Nat.succ_le_succ (ih (a + 1))

theorem holdsText_leadingBytes
    (n : Nat)
    (a : Addr) :
    HoldsText mem a (leadingBytes mem n a) := by
  induction n generalizing a with
  | zero => simp [HoldsText, leadingBytes]
  | succ n ih =>
      rw [leadingBytes]
      split_ifs
      · simp [HoldsText]
      · exact holdsText_cons.mpr ⟨rfl, ih (a + 1)⟩

theorem leadingBytes_ne_zero
    (n : Nat)
    (a : Addr) :
    ∀ c ∈ leadingBytes mem n a, c ≠ 0 := by
  induction n generalizing a with
  | zero => simp [leadingBytes]
  | succ n ih =>
      rw [leadingBytes]
      split_ifs with hNul
      · simp
      · intro c hMember
        rcases List.mem_cons.mp hMember with rfl | hLater
        · exact hNul
        · exact ih (a + 1) c hLater

/- They depend on themselves and the byte they stop at. -/
theorem leadingBytes_congr
    {mem mem' : Memory}
    {n : Nat}
    (hSize : n < 2 ^ 64)
    {a : Addr}
    (hSame :
      ∀ b,
        InRange a
            (min ((leadingBytes mem n a).length + 1) n) b →
          mem' b = mem b) :
    leadingBytes mem' n a = leadingBytes mem n a := by
  induction n generalizing a with
  | zero => rfl
  | succ n ih =>
      have hFirst : mem' a = mem a := by
        apply hSame
        unfold InRange
        rw [BitVec.sub_self, lt_min_iff]
        exact ⟨Nat.succ_pos _, Nat.succ_pos n⟩
      rw [leadingBytes, leadingBytes, hFirst]
      by_cases hNul : mem a = 0
      · rw [if_pos hNul, if_pos hNul]
      · rw [if_neg hNul, if_neg hNul]
        congr 1
        apply ih (by omega)
        intro b hRange
        apply hSame
        rw [leadingBytes, if_neg hNul, List.length_cons,
          Nat.add_min_add_right]
        have hShort :
            min ((leadingBytes mem n (a + 1)).length + 1) n <
              2 ^ 64 := by
          omega
        exact
          ((inRange_succ_iff a b hShort).mp hRange).2

/- Of a string that fits in, these are all its bytes. -/
theorem leadingBytes_of_string
    {mem : Memory}
    {a : Addr}
    {text : List Byte}
    (hString : HoldsString mem a text)
    {n : Nat}
    (hFits : text.length ≤ n) :
    leadingBytes mem n a = text := by
  induction text generalizing a n with
  | nil =>
      cases n with
      | zero => rfl
      | succ n =>
          rw [leadingBytes, if_pos hString.end_of_nil]
  | cons c text ih =>
      cases n with
      | zero => simp at hFits
      | succ n =>
          rcases hString.head with ⟨hByte, hNonzero⟩
          rw [leadingBytes, hByte, if_neg hNonzero,
            ih hString.tail (by simpa using hFits)]

end Leading

end ByteMachine
