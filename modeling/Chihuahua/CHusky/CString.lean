import Chihuahua.Essentials.Memmove
import Chihuahua.Machine.Runs
import Chihuahua.Machine.Strings

/-
  The string functions of `c_husky`.

  A loop that only stops at a NUL takes fuel, one step for
  each turn; `none` is a loop that is still running. The
  loops test a byte and then read it once more to copy it.

  Main declarations:
    * `strlen`, `strcpy`, `strcat`, `strncpy` and `strncat`
    * `strlen_of_string`
    * `strcpyLoop_of_string` and `strncpyLoop_of_string`
    * `strncatLoop_eq`
-/

------------------------------------------------------------
-- The Functions
------------------------------------------------------------

namespace Chihuahua

namespace CHusky

open ByteMachine Tracked

/- The library has its own copies, in the same words. -/
def memcpy
    (dest src : Addr)
    (n : BitVec 64)
    (m : Machine) : Addr × Machine :=
  Essentials.memcpy dest src n m

def memmove
    (dest src : Addr)
    (n : BitVec 64)
    (m : Machine) : Addr × Machine :=
  Essentials.memmove dest src n m

def memset
    (dest : Addr)
    (c : BitVec 32)
    (n : BitVec 64)
    (m : Machine) : Addr × Machine :=
  Essentials.memset dest c n m

def strlenLoop :
    Nat → Addr → Tracked → Option (Addr × Tracked)
| 0, _, _ => none
| fuel + 1, s, t =>
    if t.mem s ≠ 0 then
      strlenLoop fuel (s + 1) (t.reading s)
    else
      some (s, t.reading s)

def strlen
    (fuel : Nat)
    (str : Addr)
    (t : Tracked) : Option (BitVec 64 × Tracked) := do
  let (s, t) ← strlenLoop fuel str t
  return (s - str, t)

def strcpyLoop :
    Nat → Addr → Addr → Tracked → Option Tracked
| 0, _, _, _ => none
| fuel + 1, d, src, t =>
    if t.mem src ≠ 0 then
      strcpyLoop fuel (d + 1) (src + 1)
        (((t.reading src).reading src).write8 d (t.mem src))
    else
      some (t.reading src)

def strcpy
    (fuel : Nat)
    (dest src : Addr)
    (t : Tracked) : Option (Addr × Tracked) := do
  let t ← strcpyLoop fuel dest src t
  return (dest, t)

def strcat
    (fuel : Nat)
    (dest source : Addr)
    (t : Tracked) : Option (Addr × Tracked) := do
  let (length, t) ← strlen fuel dest t
  let (_, t) ← strcpy fuel (dest + length) source t
  return (dest, t)

/- The loop counts `num` down without looking at it. -/
def strncpyLoop :
    Nat → Addr → Addr → BitVec 64 → Tracked →
      Option (BitVec 64 × Tracked)
| 0, _, _, _, _ => none
| fuel + 1, d, source, num, t =>
    if t.mem source ≠ 0 then
      strncpyLoop fuel (d + 1) (source + 1) (num - 1)
        (((t.reading source).reading source).write8 d
          (t.mem source))
    else
      some (num, t.reading source)

def strncpy
    (fuel : Nat)
    (dest source : Addr)
    (num : BitVec 64)
    (t : Tracked) : Option (Addr × Tracked) := do
  let d := dest
  let (num, t) ← strncpyLoop fuel d source num t
  let t :=
    { t with toMachine := (memset dest 0 num t.toMachine).2 }
  return (dest, t)

/- The loop of `strncat` with `num` bytes left. -/
def strncatLoop :
    Nat → Addr → Addr → Tracked → Addr × Tracked
| 0, dest, _, t => (dest, t)
| num + 1, dest, source, t =>
    if t.mem source ≠ 0 then
      strncatLoop num (dest + 1) (source + 1)
        (((t.reading source).reading source).write8 dest
          (t.mem source))
    else
      (dest, t.reading source)

def strncat
    (fuel : Nat)
    (dest source : Addr)
    (num : BitVec 64)
    (t : Tracked) : Option (Addr × Tracked) := do
  let a := dest
  let (length, t) ← strlen fuel dest t
  let (dest, t) :=
    strncatLoop num.toNat (dest + length) source t
  return (a, t.write8 dest 0)

------------------------------------------------------------
-- More Fuel
------------------------------------------------------------

theorem strlenLoop_mono
    {fuel fuel' : Nat}
    (hFuel : fuel ≤ fuel')
    {s : Addr}
    {t : Tracked}
    {result : Addr × Tracked}
    (hLoop : strlenLoop fuel s t = some result) :
    strlenLoop fuel' s t = some result := by
  induction fuel generalizing fuel' s t with
  | zero => simp [strlenLoop] at hLoop
  | succ fuel ih =>
      cases fuel' with
      | zero => exact absurd hFuel (Nat.not_succ_le_zero _)
      | succ fuel' =>
          rw [strlenLoop] at hLoop ⊢
          split_ifs at hLoop ⊢ with hByte
          · exact ih (Nat.le_of_succ_le_succ hFuel) hLoop
          · exact hLoop

theorem strcpyLoop_mono
    {fuel fuel' : Nat}
    (hFuel : fuel ≤ fuel')
    {d src : Addr}
    {t t' : Tracked}
    (hLoop : strcpyLoop fuel d src t = some t') :
    strcpyLoop fuel' d src t = some t' := by
  induction fuel generalizing fuel' d src t with
  | zero => simp [strcpyLoop] at hLoop
  | succ fuel ih =>
      cases fuel' with
      | zero => exact absurd hFuel (Nat.not_succ_le_zero _)
      | succ fuel' =>
          rw [strcpyLoop] at hLoop ⊢
          split_ifs at hLoop ⊢ with hByte
          · exact ih (Nat.le_of_succ_le_succ hFuel) hLoop
          · exact hLoop

theorem strncpyLoop_mono
    {fuel fuel' : Nat}
    (hFuel : fuel ≤ fuel')
    {d source : Addr}
    {num : BitVec 64}
    {t : Tracked}
    {result : BitVec 64 × Tracked}
    (hLoop : strncpyLoop fuel d source num t = some result) :
    strncpyLoop fuel' d source num t = some result := by
  induction fuel generalizing fuel' d source num t with
  | zero => simp [strncpyLoop] at hLoop
  | succ fuel ih =>
      cases fuel' with
      | zero => exact absurd hFuel (Nat.not_succ_le_zero _)
      | succ fuel' =>
          rw [strncpyLoop] at hLoop ⊢
          split_ifs at hLoop ⊢ with hByte
          · exact ih (Nat.le_of_succ_le_succ hFuel) hLoop
          · exact hLoop

theorem strlen_mono
    {fuel fuel' : Nat}
    (hFuel : fuel ≤ fuel')
    {str : Addr}
    {t : Tracked}
    {result : BitVec 64 × Tracked}
    (hCall : strlen fuel str t = some result) :
    strlen fuel' str t = some result := by
  simp only [strlen, Option.bind_eq_bind] at hCall ⊢
  rcases Option.bind_eq_some_iff.mp hCall with
    ⟨looped, hLoop, hResult⟩
  rw [strlenLoop_mono hFuel hLoop, Option.bind_some]
  exact hResult

theorem strcpy_mono
    {fuel fuel' : Nat}
    (hFuel : fuel ≤ fuel')
    {dest src : Addr}
    {t : Tracked}
    {result : Addr × Tracked}
    (hCall : strcpy fuel dest src t = some result) :
    strcpy fuel' dest src t = some result := by
  simp only [strcpy, Option.bind_eq_bind] at hCall ⊢
  rcases Option.bind_eq_some_iff.mp hCall with
    ⟨looped, hLoop, hResult⟩
  rw [strcpyLoop_mono hFuel hLoop, Option.bind_some]
  exact hResult

theorem strcat_mono
    {fuel fuel' : Nat}
    (hFuel : fuel ≤ fuel')
    {dest source : Addr}
    {t : Tracked}
    {result : Addr × Tracked}
    (hCall : strcat fuel dest source t = some result) :
    strcat fuel' dest source t = some result := by
  simp only [strcat, Option.bind_eq_bind] at hCall ⊢
  rcases Option.bind_eq_some_iff.mp hCall with
    ⟨⟨length, u⟩, hLength, hRest⟩
  rcases Option.bind_eq_some_iff.mp hRest with
    ⟨copied, hCopy, hResult⟩
  rw [strlen_mono hFuel hLength, Option.bind_some]
  dsimp only at hCopy ⊢
  rw [strcpy_mono hFuel hCopy, Option.bind_some]
  exact hResult

------------------------------------------------------------
-- The Length of a String
------------------------------------------------------------

theorem strlenLoop_of_string
    {fuel : Nat}
    {s : Addr}
    {t : Tracked}
    {text : List Byte}
    (hString : HoldsString t.mem s text)
    (hFuel : text.length < fuel) :
    ∃ t',
      strlenLoop fuel s t =
          some (s + BitVec.ofNat 64 text.length, t') ∧
        t'.toMachine = t.toMachine ∧
        ReadsWithin (InRange s (text.length + 1)) t t' := by
  induction text generalizing fuel s t with
  | nil =>
      cases fuel with
      | zero => exact absurd hFuel (Nat.not_lt_zero _)
      | succ fuel =>
          have hNul : ¬ t.mem s ≠ 0 :=
            not_not.mpr hString.end_of_nil
          refine ⟨t.reading s, ?_, rfl, ?_⟩
          · rw [strlenLoop, if_neg hNul, List.length_nil,
              add_ofNat_zero]
          · exact
              ReadsWithin.reading t
                ((Machine.inRange_one_iff s s).mpr rfl)
  | cons c text ih =>
      cases fuel with
      | zero => exact absurd hFuel (Nat.not_lt_zero _)
      | succ fuel =>
          rcases hString.head with ⟨hByte, hNonzero⟩
          rcases
            @ih fuel (s + 1) (t.reading s) hString.tail
              (Nat.lt_of_succ_lt_succ hFuel) with
            ⟨t', hLoop, hMachine, hReads⟩
          have hShort := hString.length_lt
          rw [List.length_cons] at hShort ⊢
          refine ⟨t', ?_, hMachine, ?_⟩
          · rw [strlenLoop, if_pos (by rw [hByte]; exact hNonzero),
              hLoop, add_one_add_ofNat]
          · apply
              (ReadsWithin.reading t ?_).trans
                (hReads.mono ?_)
            · unfold InRange
              rw [BitVec.sub_self]
              exact Nat.succ_pos _
            · intro a hRange
              exact
                ((inRange_succ_iff s a hShort).mp hRange).2

theorem strlen_of_string
    {fuel : Nat}
    {str : Addr}
    {t : Tracked}
    {text : List Byte}
    (hString : HoldsString t.mem str text)
    (hFuel : text.length < fuel) :
    ∃ t',
      strlen fuel str t =
          some (BitVec.ofNat 64 text.length, t') ∧
        t'.toMachine = t.toMachine ∧
        ReadsWithin (InRange str (text.length + 1)) t t' := by
  rcases strlenLoop_of_string hString hFuel with
    ⟨t', hLoop, hMachine, hReads⟩
  refine ⟨t', ?_, hMachine, hReads⟩
  have hDistance :
      str + BitVec.ofNat 64 text.length - str =
        BitVec.ofNat 64 text.length := by
    rw [BitVec.add_comm, BitVec.add_sub_cancel]
  simp only [strlen, hLoop, Option.bind_eq_bind,
    Option.bind_some, Option.pure_def, hDistance]

------------------------------------------------------------
-- The Loops That Copy
------------------------------------------------------------

/- The bytes a copy leaves alone, one byte on. -/
theorem disjoint_succ
    {d src : Addr}
    {n k : Nat}
    (hN : n < 2 ^ 64)
    (hK : k < 2 ^ 64)
    (hDisjoint : RangesDisjoint d (n + 1) src (k + 1)) :
    RangesDisjoint (d + 1) n (src + 1) k := by
  intro a hDest hSource
  exact
    hDisjoint a ((inRange_succ_iff d a hN).mp hDest).2
      ((inRange_succ_iff src a hK).mp hSource).2

theorem first_inRange
    (a : Addr)
    (n : Nat) :
    InRange a (n + 1) a := by
  unfold InRange
  rw [BitVec.sub_self]
  exact Nat.succ_pos n

/- The rest of a string is not hit by the first store. -/
theorem tail_of_write8
    {d src : Addr}
    {c : Byte}
    {text : List Byte}
    {t : Tracked}
    (hString : HoldsString t.mem src (c :: text))
    (hDisjoint :
      RangesDisjoint d (text.length + 1) src
        (text.length + 1 + 1)) :
    HoldsString
      (((t.reading src).reading src).write8 d
        (t.mem src)).mem
      (src + 1) text := by
  have hShort := hString.length_lt
  rw [List.length_cons] at hShort
  apply hString.tail.congr
  intro b hRange
  have hOther : b ≠ d := by
    rintro rfl
    exact
      hDisjoint b (first_inRange b text.length)
        ((inRange_succ_iff src b hShort).mp hRange).2
  show (t.toMachine.write8 d (t.mem src)).mem b = t.mem b
  rw [Machine.write8_mem, if_neg hOther]

/-
  A copy up to the NUL is `memcpy` of the text, as long as
  it does not run into the string it copies.
-/
theorem strcpyLoop_of_string
    {fuel : Nat}
    {d src : Addr}
    {t : Tracked}
    {text : List Byte}
    (hString : HoldsString t.mem src text)
    (hDisjoint :
      RangesDisjoint d text.length src (text.length + 1))
    (hFuel : text.length < fuel) :
    ∃ t',
      strcpyLoop fuel d src t = some t' ∧
        t'.toMachine =
          Essentials.memcpyLoop text.length d src
            t.toMachine := by
  induction text generalizing fuel d src t with
  | nil =>
      cases fuel with
      | zero => exact absurd hFuel (Nat.not_lt_zero _)
      | succ fuel =>
          have hNul : ¬ t.mem src ≠ 0 :=
            not_not.mpr hString.end_of_nil
          refine ⟨t.reading src, ?_, rfl⟩
          rw [strcpyLoop, if_neg hNul]
  | cons c text ih =>
      cases fuel with
      | zero => exact absurd hFuel (Nat.not_lt_zero _)
      | succ fuel =>
          rcases hString.head with ⟨hByte, hNonzero⟩
          have hShort := hString.length_lt
          rw [List.length_cons] at hShort hDisjoint
          rcases
            ih (tail_of_write8 hString hDisjoint)
              (disjoint_succ (by omega) (by omega) hDisjoint)
              (Nat.lt_of_succ_lt_succ hFuel) with
            ⟨t', hLoop, hMachine⟩
          refine ⟨t', ?_, hMachine⟩
          rw [strcpyLoop, if_pos (by rw [hByte]; exact hNonzero),
            hLoop]

theorem strncpyLoop_of_string
    {fuel : Nat}
    {d source : Addr}
    {num : BitVec 64}
    {t : Tracked}
    {text : List Byte}
    (hString : HoldsString t.mem source text)
    (hDisjoint :
      RangesDisjoint d text.length source (text.length + 1))
    (hFuel : text.length < fuel) :
    ∃ t',
      strncpyLoop fuel d source num t =
          some (num - BitVec.ofNat 64 text.length, t') ∧
        t'.toMachine =
          Essentials.memcpyLoop text.length d source
            t.toMachine := by
  induction text generalizing fuel d source num t with
  | nil =>
      cases fuel with
      | zero => exact absurd hFuel (Nat.not_lt_zero _)
      | succ fuel =>
          have hNul : ¬ t.mem source ≠ 0 :=
            not_not.mpr hString.end_of_nil
          refine ⟨t.reading source, ?_, rfl⟩
          rw [strncpyLoop, if_neg hNul, List.length_nil]
          simp
  | cons c text ih =>
      cases fuel with
      | zero => exact absurd hFuel (Nat.not_lt_zero _)
      | succ fuel =>
          rcases hString.head with ⟨hByte, hNonzero⟩
          have hShort := hString.length_lt
          rw [List.length_cons] at hShort hDisjoint
          rcases
            @ih fuel (d + 1) (source + 1) (num - 1) _
              (tail_of_write8 hString hDisjoint)
              (disjoint_succ (by omega) (by omega) hDisjoint)
              (Nat.lt_of_succ_lt_succ hFuel) with
            ⟨t', hLoop, hMachine⟩
          have hCount :
              num - 1 - BitVec.ofNat 64 text.length =
                num - BitVec.ofNat 64 (text.length + 1) := by
            rw [BitVec.ofNat_add]
            bv_omega
          refine ⟨t', ?_, hMachine⟩
          rw [strncpyLoop,
            if_pos (by rw [hByte]; exact hNonzero), hLoop,
            hCount, List.length_cons]

/- The first store leaves the bytes to come alone. -/
theorem leadingBytes_after_store
    {m : Machine}
    {dest source : Addr}
    {num : Nat}
    (hNum : num + 1 < 2 ^ 64)
    (c : Byte)
    (hDisjoint :
      RangesDisjoint dest
        ((leadingBytes m.mem num (source + 1)).length + 1)
        source
        (min
            ((leadingBytes m.mem num (source + 1)).length +
              1)
            num +
          1)) :
    leadingBytes (m.write8 dest c).mem num (source + 1) =
      leadingBytes m.mem num (source + 1) := by
  apply leadingBytes_congr (by omega)
  intro b hRange
  have hOther : b ≠ dest := by
    rintro rfl
    exact
      hDisjoint b (first_inRange b _)
        ((inRange_succ_iff source b (by omega)).mp
          hRange).2
  rw [Machine.write8_mem, if_neg hOther]

/-
  The bounded copy is `memcpy` of the leading bytes. It
  reads the byte it stops at only below the bound.
-/
theorem strncatLoop_eq
    {num : Nat}
    (hNum : num < 2 ^ 64)
    {dest source : Addr}
    {t : Tracked}
    {text : List Byte}
    (hText : leadingBytes t.mem num source = text)
    (hDisjoint :
      RangesDisjoint dest text.length source
        (min (text.length + 1) num)) :
    ∃ t',
      strncatLoop num dest source t =
          (dest + BitVec.ofNat 64 text.length, t') ∧
        t'.toMachine =
          Essentials.memcpyLoop text.length dest source
            t.toMachine ∧
        ReadsWithin
          (InRange source (min (text.length + 1) num))
          t t' := by
  induction num generalizing dest source t text with
  | zero =>
      subst hText
      refine ⟨t, ?_, rfl, ReadsWithin.of_eq rfl⟩
      rw [strncatLoop, leadingBytes, List.length_nil,
        add_ofNat_zero]
  | succ num ih =>
      by_cases hNul : t.mem source = 0
      · rw [leadingBytes, if_pos hNul] at hText
        subst hText
        refine ⟨t.reading source, ?_, rfl, ?_⟩
        · rw [strncatLoop, if_neg (not_not.mpr hNul),
            List.length_nil, add_ofNat_zero]
        · apply ReadsWithin.reading
          rw [List.length_nil, Nat.zero_add,
            Nat.min_eq_left (Nat.succ_pos num)]
          exact first_inRange source 0
      · rw [leadingBytes, if_neg hNul] at hText
        subst hText
        have hLe :=
          leadingBytes_length_le t.mem num (source + 1)
        rw [List.length_cons, Nat.add_min_add_right] at hDisjoint
        have hRest :=
          leadingBytes_after_store (by omega)
            (t.mem source) hDisjoint
        rcases
          ih (by omega)
            (t :=
              ((t.reading source).reading source).write8
                dest (t.mem source))
            hRest
            (disjoint_succ (by omega) (by omega)
              hDisjoint) with
          ⟨t', hLoop, hMachine, hReads⟩
        refine ⟨t', ?_, hMachine, ?_⟩
        · rw [strncatLoop, if_pos hNul, hLoop,
            add_one_add_ofNat, List.length_cons]
        · have hFirst :
              ReadsWithin
                (InRange source
                  (min
                      ((leadingBytes t.mem num
                          (source + 1)).length + 1)
                      num +
                    1))
                t
                (((t.reading source).reading source).write8
                  dest (t.mem source)) :=
            ((ReadsWithin.reading t
              (first_inRange source _)).trans
              (ReadsWithin.reading _
                (first_inRange source _))).trans
              (ReadsWithin.of_eq rfl)
          rw [List.length_cons, Nat.add_min_add_right]
          apply hFirst.trans (hReads.mono ?_)
          intro b hRange
          exact
            ((inRange_succ_iff source b (by omega)).mp
              hRange).2

end CHusky

end Chihuahua
