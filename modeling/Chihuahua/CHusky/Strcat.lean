import Chihuahua.CHusky.CString

/-
  Strings appended to strings: `strncat` on any source, and
  `strcat` and `strcpy` beside it.

  Main declarations:
    * `strncat_of_string` and `Appends`
    * `strncat_appends`
    * `strcat_of_strings` and `strcpy_of_string`
    * `strcat_beside_strncat`
    * `WritersAgree` and `writersAgree_iff`
-/

------------------------------------------------------------
-- Memory After a Copy
------------------------------------------------------------

namespace Chihuahua

namespace CHusky

open ByteMachine Tracked

/- A copy goes forward, away from the area it reads. -/
theorem forward_of_disjoint
    {d src : Addr}
    {n k : Nat}
    (hLe : n ≤ k)
    (hDisjoint : RangesDisjoint d n src k) :
    n ≤ (d - src).toNat := by
  cases n with
  | zero => exact Nat.zero_le _
  | succ n =>
      have hOutside := hDisjoint d (first_inRange d n)
      unfold InRange at hOutside
      omega

/- An area apart from another one is not all of memory. -/
theorem size_lt_of_disjoint
    {d src : Addr}
    {n k : Nat}
    (hDisjoint : RangesDisjoint d n src (k + 1)) :
    n < 2 ^ 64 := by
  by_contra hLong
  have hLt := (src - d).isLt
  apply hDisjoint src ?_ (first_inRange src k)
  unfold InRange
  omega

/- The upper part of an area is apart from what it was. -/
theorem disjoint_upper
    {d src : Addr}
    {low high k : Nat}
    (hDisjoint : RangesDisjoint d (low + high) src k)
    (hSize : low + high ≤ 2 ^ 64) :
    RangesDisjoint (d + BitVec.ofNat 64 low) high src k := by
  intro a hUpper
  rw [inRange_add_iff d a hSize] at hUpper
  exact hDisjoint a hUpper.2

section Copies

variable {m : Machine} {d source : Addr}
variable {text : List Byte}

theorem memcpyLoop_holdsText
    (hText : HoldsText m.mem source text)
    (hShort : text.length < 2 ^ 64)
    (hForward : text.length ≤ (d - source).toNat) :
    HoldsText
      (Essentials.memcpyLoop text.length d source m).mem d
      text := by
  intro i hi
  rw [Essentials.memcpyLoop_mem hShort.le (Or.inr hForward),
    Memory.paint_apply, if_pos (inRange_add_ofNat d hi)]
  dsimp only
  rw [add_ofNat_sub_toNat d (hi.trans hShort)]
  exact hText i hi

theorem memcpyLoop_keeps
    {n : Nat}
    (hShort : n < 2 ^ 64)
    (hForward : n ≤ (d - source).toNat)
    {b : Addr}
    (hOutside : ¬ InRange d n b) :
    (Essentials.memcpyLoop n d source m).mem b =
      m.mem b := by
  rw [Essentials.memcpyLoop_mem hShort.le (Or.inr hForward),
    Memory.paint_apply, if_neg hOutside]

theorem memcpyLoop_keeps_behind
    {n : Nat}
    (hShort : n < 2 ^ 64)
    (hForward : n ≤ (d - source).toNat) :
    (Essentials.memcpyLoop n d source m).mem
        (d + BitVec.ofNat 64 n) =
      m.mem (d + BitVec.ofNat 64 n) := by
  apply memcpyLoop_keeps hShort hForward
  unfold InRange
  rw [add_ofNat_sub_toNat d hShort]
  exact lt_irrefl n

end Copies

/- Behind a string, a text makes a longer string or none. -/
theorem holdsString_append_iff
    {mem mem' : Memory}
    {dest : Addr}
    {front back : List Byte}
    (hFront : HoldsString mem dest front)
    (hBack :
      HoldsText mem'
        (dest + BitVec.ofNat 64 front.length) back)
    (hNonzero : ∀ c ∈ back, c ≠ 0)
    {n : Nat}
    (hSize : front.length + n ≤ 2 ^ 64)
    (hKept :
      ∀ b,
        ¬ InRange (dest + BitVec.ofNat 64 front.length) n
            b →
          mem' b = mem b) :
    HoldsString mem' dest (front ++ back) ↔
      mem'
          (dest +
            BitVec.ofNat 64 (front.length + back.length)) =
        0 := by
  constructor
  · intro hString
    have hEnd := hString.hEnd
    rw [List.length_append] at hEnd
    exact hEnd
  · intro hEnd
    have hFrontText : HoldsText mem' dest front := by
      apply hFront.hText.congr
      intro b hRange
      apply hKept
      rw [inRange_add_iff dest b hSize]
      unfold InRange at hRange
      omega
    constructor
    · exact holdsText_append.mpr ⟨hFrontText, hBack⟩
    · intro c hMember
      rcases List.mem_append.mp hMember with hLeft | hRight
      · exact hFront.hNonzero c hLeft
      · exact hNonzero c hRight
    · rw [List.length_append]
      exact hEnd

------------------------------------------------------------
-- strncat
------------------------------------------------------------

/- The text behind the string, a NUL, and nothing else. -/
structure Appends
    (mem : Memory)
    (dest : Addr)
    (front back : List Byte)
    (m : Machine) : Prop where
  hString : HoldsString m.mem dest (front ++ back)
  hWritten :
    ∀ b,
      m.Touched b ↔
        InRange (dest + BitVec.ofNat 64 front.length)
          (back.length + 1) b
  hKept :
    ∀ b,
      ¬ InRange (dest + BitVec.ofNat 64 front.length)
          (back.length + 1) b →
        m.mem b = mem b

/-
  Where `strncat` may read: the string it appends to, and
  the source up to the byte at which it stops.
-/
def MayRead
    (dest source : Addr)
    (front back num : Nat)
    (a : Addr) : Prop :=
  InRange dest (front + 1) a ∨
    InRange source (min (back + 1) num) a

section Strncat

variable {fuel : Nat} {dest source : Addr}
variable {num : BitVec 64} {t : Tracked}
variable {front back : List Byte}
variable (hDest : HoldsString t.mem dest front)
variable
  (hBack : leadingBytes t.mem num.toNat source = back)
variable
  (hDisjoint :
    RangesDisjoint dest (front.length + back.length + 1)
      source (min (back.length + 1) num.toNat))

include hDest hBack hDisjoint

/- The area that may be written does not come around. -/
theorem appended_size :
    front.length + back.length + 1 ≤ 2 ^ 64 := by
  have hLe := leadingBytes_length_le t.mem num.toNat source
  rw [hBack] at hLe
  have hFront := hDest.length_lt
  cases hNum : num.toNat with
  | zero => omega
  | succ n =>
      rw [hNum, Nat.add_min_add_right] at hDisjoint
      exact (size_lt_of_disjoint hDisjoint).le

theorem disjoint_appended :
    RangesDisjoint (dest + BitVec.ofNat 64 front.length)
      back.length source
      (min (back.length + 1) num.toNat) := by
  have hLe := leadingBytes_length_le t.mem num.toNat source
  have hSize := appended_size hDest hBack hDisjoint
  rw [hBack] at hLe
  apply disjoint_upper ?_ (by omega)
  intro a hRange
  exact hDisjoint a (hRange.mono (by omega))

theorem strncat_of_string
    (hFuel : front.length < fuel) :
    ∃ t',
      strncat fuel dest source num t = some (dest, t') ∧
        t'.toMachine =
          (Essentials.memcpyLoop back.length
                (dest + BitVec.ofNat 64 front.length) source
                t.toMachine).write8
            (dest +
              BitVec.ofNat 64 (front.length + back.length))
            0 ∧
        ReadsWithin
          (MayRead dest source front.length back.length
            num.toNat)
          t t' := by
  rcases strlen_of_string hDest hFuel with
    ⟨u, hLength, hMachine, hScanned⟩
  have hMem : u.mem = t.mem :=
    congrArg Machine.mem hMachine
  have hApart := disjoint_appended hDest hBack hDisjoint
  rw [← hMem] at hBack
  rcases strncatLoop_eq num.isLt hBack hApart with
    ⟨t', hLoop, hCopied, hReads⟩
  refine
    ⟨t'.write8
        (dest + BitVec.ofNat 64 front.length +
          BitVec.ofNat 64 back.length)
        0, ?_, ?_, ?_⟩
  · simp only [strncat, hLength, Option.bind_eq_bind,
      Option.bind_some, hLoop, Option.pure_def]
  · rw [← add_ofNat_add_ofNat, ← hMachine, ← hCopied]
    rfl
  · have hAll :
        ReadsWithin
          (MayRead dest source front.length back.length
            num.toNat)
          t t' :=
      (hScanned.mono (fun a hRange => Or.inl hRange)).trans
        (hReads.mono (fun a hRange => Or.inr hRange))
    exact hAll.trans (ReadsWithin.of_eq rfl)

/- What is in memory afterwards. -/
theorem appended_holdsString :
    let m :=
      (Essentials.memcpyLoop back.length
            (dest + BitVec.ofNat 64 front.length) source
            t.toMachine).write8
        (dest +
          BitVec.ofNat 64 (front.length + back.length))
        0
    HoldsString m.mem dest (front ++ back) ∧
      ∀ b,
        ¬ InRange (dest + BitVec.ofNat 64 front.length)
            (back.length + 1) b →
          m.mem b = t.mem b := by
  intro m
  have hLe := leadingBytes_length_le t.mem num.toNat source
  have hSize := appended_size hDest hBack hDisjoint
  have hApart := disjoint_appended hDest hBack hDisjoint
  rw [hBack] at hLe
  have hNonzero : ∀ c ∈ back, c ≠ 0 := by
    rw [← hBack]
    exact leadingBytes_ne_zero t.mem num.toNat source
  have hSource : HoldsText t.mem source back := by
    rw [← hBack]
    exact holdsText_leadingBytes t.mem num.toNat source
  have hForward :
      back.length ≤
        (dest + BitVec.ofNat 64 front.length -
          source).toNat :=
    forward_of_disjoint (le_min (Nat.le_succ _) hLe) hApart
  have hNul :
      m.mem
          (dest +
            BitVec.ofNat 64 (front.length + back.length)) =
        0 := by
    rw [Machine.write8_mem, if_pos rfl]
  have hOther
      {b : Addr}
      (hNe :
        b ≠
          dest +
            BitVec.ofNat 64
              (front.length + back.length)) :
      m.mem b =
        (Essentials.memcpyLoop back.length
              (dest + BitVec.ofNat 64 front.length) source
              t.toMachine).mem
          b := by
    rw [Machine.write8_mem, if_neg hNe]
  have hKept :
      ∀ b,
        ¬ InRange (dest + BitVec.ofNat 64 front.length)
            (back.length + 1) b →
          m.mem b = t.mem b := by
    intro b hOutside
    have hNe :
        b ≠
          dest +
            BitVec.ofNat 64
              (front.length + back.length) := by
      rintro rfl
      apply hOutside
      rw [← add_ofNat_add_ofNat]
      exact inRange_add_ofNat _ (Nat.lt_succ_self _)
    rw [hOther hNe]
    apply memcpyLoop_keeps (by omega) hForward
    intro hInside
    exact hOutside (hInside.mono (Nat.le_succ _))
  have hText :
      HoldsText m.mem
        (dest + BitVec.ofNat 64 front.length) back := by
    apply
      (memcpyLoop_holdsText (m := t.toMachine) hSource
        (by omega) hForward).congr
    intro b hRange
    apply hOther
    rintro rfl
    rw [inRange_add_iff dest _ (by omega),
      add_ofNat_sub_toNat dest (by omega)] at hRange
    omega
  refine ⟨?_, hKept⟩
  exact
    (holdsString_append_iff hDest hText hNonzero
      (by omega) hKept).mpr
      hNul

end Strncat

/- A range with one address more at its end. -/
theorem inRange_succ_last_iff
    (base b : Addr)
    {n : Nat}
    (hSize : n < 2 ^ 64) :
    InRange base (n + 1) b ↔
      b = base + BitVec.ofNat 64 n ∨ InRange base n b := by
  have hLast :
      b = base + BitVec.ofNat 64 n ↔
        (b - base).toNat = n := by
    constructor
    · rintro rfl
      exact add_ofNat_sub_toNat base hSize
    · intro hOffset
      rw [← hOffset]
      exact eq_add_ofNat_offset base b
  rw [hLast]
  unfold InRange
  omega

/-
  `strncat` appends the leading bytes of any source that is
  apart from what is written.
-/
theorem strncat_appends
    {mem : Memory}
    {dest source : Addr}
    {num : BitVec 64}
    {text : List Byte}
    (hDest : HoldsString mem dest text)
    (hDisjoint :
      RangesDisjoint dest
        (text.length +
            (leadingBytes mem num.toNat source).length +
          1)
        source
        (min
          ((leadingBytes mem num.toNat source).length + 1)
          num.toNat)) :
    ∃ fuel t,
      strncat fuel dest source num (start mem) =
          some (dest, t) ∧
        Appends mem dest text
          (leadingBytes mem num.toNat source) t.toMachine ∧
        ∀ a ∈ t.reads,
          MayRead dest source text.length
            (leadingBytes mem num.toNat source).length
            num.toNat a := by
  rcases
    strncat_of_string (t := start mem) hDest rfl hDisjoint
      (Nat.lt_succ_self _) with
    ⟨t, hCall, hMachine, new, hReads, hAll⟩
  rcases
    appended_holdsString (t := start mem) hDest rfl
      hDisjoint with
    ⟨hString, hKept⟩
  have hSize :=
    appended_size (t := start mem) hDest rfl hDisjoint
  have hStart : (start mem).mem = mem := rfl
  rw [hStart] at hSize
  rw [← hMachine] at hString hKept
  refine
    ⟨_, t, hCall,
      { hString := hString
        hWritten := ?_
        hKept := hKept }, ?_⟩
  · intro b
    rw [hMachine, Machine.touched_write8,
      Essentials.touched_memcpyLoop (by rw [hStart]; omega),
      ← add_ofNat_add_ofNat,
      inRange_succ_last_iff _ b (by omega), hStart]
    have hNone : ¬ (start mem).toMachine.Touched b :=
      Machine.not_touched_of_stores_nil rfl b
    rw [or_iff_left hNone]
  · intro a hMember
    rw [hReads] at hMember
    apply hAll
    simpa [start] using hMember

------------------------------------------------------------
-- Memory That Was Used Before
------------------------------------------------------------

/-
  The string "a" at 0x1000 and the string "hi" at 0x2000, in
  memory full of other bytes.
-/
def usedMemory : Memory := fun a =>
  if a = 0x1000 then 0x61
  else if a = 0x1001 then 0
  else if a = 0x2000 then 0x68
  else if a = 0x2001 then 0x69
  else if a = 0x2002 then 0
  else 0xFF

theorem used_front :
    HoldsString usedMemory 0x1000 [0x61] where
  hText := holdsText_cons.mpr ⟨rfl, by simp [HoldsText]⟩
  hNonzero := by simp
  hEnd := rfl

theorem used_back :
    HoldsString usedMemory 0x2000 [0x68, 0x69] where
  hText :=
    holdsText_cons.mpr
      ⟨rfl, holdsText_cons.mpr ⟨rfl, by simp [HoldsText]⟩⟩
  hNonzero := by simp
  hEnd := rfl

theorem used_disjoint
    {size size' : Nat}
    (hSize : size ≤ 0x1000)
    (hSize' : size' ≤ 0x1000) :
    RangesDisjoint 0x1000 size 0x2000 size' := by
  apply rangesDisjoint_of_le
  · show 0x1000 + size ≤ 0x2000
    omega
  · show 0x2000 + size' ≤ 2 ^ 64
    omega

/- One byte of a source that has no NUL up to the bound. -/
theorem strncat_appends_sample :
    ∃ fuel t,
      strncat fuel 0x1000 0x2000 1 (start usedMemory) =
          some (0x1000, t) ∧
        Appends usedMemory 0x1000 [0x61]
          (leadingBytes usedMemory 1 0x2000) t.toMachine ∧
        ∀ a ∈ t.reads,
          MayRead 0x1000 0x2000 1
            (leadingBytes usedMemory 1 0x2000).length 1 a :=
  @strncat_appends usedMemory 0x1000 0x2000 1 _ used_front
    (used_disjoint (by decide) (by decide))

------------------------------------------------------------
-- strcpy and strcat
------------------------------------------------------------

theorem strcpy_of_string
    {fuel : Nat}
    {dest src : Addr}
    {t : Tracked}
    {text : List Byte}
    (hSource : HoldsString t.mem src text)
    (hDisjoint :
      RangesDisjoint dest text.length src (text.length + 1))
    (hFuel : text.length < fuel) :
    ∃ t',
      strcpy fuel dest src t = some (dest, t') ∧
        t'.toMachine =
          Essentials.memcpyLoop text.length dest src
            t.toMachine := by
  rcases strcpyLoop_of_string hSource hDisjoint hFuel with
    ⟨t', hLoop, hMachine⟩
  refine ⟨t', ?_, hMachine⟩
  simp only [strcpy, hLoop, Option.bind_eq_bind,
    Option.bind_some, Option.pure_def]

theorem strcat_of_strings
    {fuel : Nat}
    {dest source : Addr}
    {t : Tracked}
    {front back : List Byte}
    (hDest : HoldsString t.mem dest front)
    (hSource : HoldsString t.mem source back)
    (hDisjoint :
      RangesDisjoint (dest + BitVec.ofNat 64 front.length)
        back.length source (back.length + 1))
    (hFront : front.length < fuel)
    (hBack : back.length < fuel) :
    ∃ t',
      strcat fuel dest source t = some (dest, t') ∧
        t'.toMachine =
          Essentials.memcpyLoop back.length
            (dest + BitVec.ofNat 64 front.length) source
            t.toMachine := by
  rcases strlen_of_string hDest hFront with
    ⟨u, hLength, hMachine, _⟩
  have hMem : u.mem = t.mem :=
    congrArg Machine.mem hMachine
  rw [← hMem] at hSource
  rcases strcpy_of_string hSource hDisjoint hBack with
    ⟨t', hCopy, hCopied⟩
  refine ⟨t', ?_, ?_⟩
  · simp only [strcat, hLength, Option.bind_eq_bind,
      Option.bind_some, hCopy, Option.pure_def]
  · rw [hCopied, hMachine]

/-
  Both ways to append end with the same memory and the
  longer string, and a copy ends with the string copied.
-/
structure WritersAgree
    (mem : Memory)
    (dest source : Addr)
    (num : BitVec 64)
    (front back : List Byte) : Prop where
  hAppend :
    ∃ fuel result fuel' result',
      strcat fuel dest source (start mem) = some result ∧
        strncat fuel' dest source num (start mem) =
          some result' ∧
        result.2.mem = result'.2.mem ∧
        HoldsString result.2.mem dest (front ++ back) ∧
        HoldsString result'.2.mem dest (front ++ back)
  hCopy :
    ∃ fuel result,
      strcpy fuel dest source (start mem) = some result ∧
        HoldsString result.2.mem dest back

section Writers

variable {mem : Memory} {dest source : Addr}
variable {num : BitVec 64} {front back : List Byte}
variable (hDest : HoldsString mem dest front)
variable (hSource : HoldsString mem source back)
variable (hFits : back.length ≤ num.toNat)
variable
  (hDisjoint :
    RangesDisjoint dest (front.length + back.length + 1)
      source (back.length + 1))

include hSource hDisjoint

/- A copy of a string keeps the byte behind its text. -/
theorem strcpy_holdsString_iff :
    (∃ fuel result,
        strcpy fuel dest source (start mem) = some result ∧
          HoldsString result.2.mem dest back) ↔
      mem (dest + BitVec.ofNat 64 back.length) = 0 := by
  have hShort := hSource.length_lt
  have hApart :
      RangesDisjoint dest back.length source
        (back.length + 1) := by
    intro a hRange
    exact hDisjoint a (hRange.mono (by omega))
  have hForward :=
    forward_of_disjoint (Nat.le_succ _) hApart
  rcases
    strcpy_of_string (t := start mem) hSource hApart
      (Nat.lt_succ_self _) with
    ⟨t, hCall, hMachine⟩
  have hText : HoldsText t.mem dest back := by
    rw [hMachine]
    exact
      memcpyLoop_holdsText (m := (start mem).toMachine)
        hSource.hText hShort hForward
  have hBehind :
      t.mem (dest + BitVec.ofNat 64 back.length) =
        mem (dest + BitVec.ofNat 64 back.length) := by
    rw [hMachine]
    exact memcpyLoop_keeps_behind hShort hForward
  constructor
  · rintro ⟨fuel, result, hOther, hString⟩
    have hSame :=
      Fueled.result_unique
        (strcpy · dest source (start mem))
        (fun hFuel => strcpy_mono hFuel) hOther hCall
    rw [hSame] at hString
    rw [← hBehind]
    exact hString.hEnd
  · intro hZero
    refine ⟨back.length + 1, (dest, t), hCall, ?_⟩
    exact
      { hText := hText
        hNonzero := hSource.hNonzero
        hEnd := hBehind.trans hZero }

include hDest hFits

/-
  Run beside each other, `strncat` writes one byte more,
  the NUL behind both texts, and `strcat` keeps that byte.
-/
theorem strcat_beside_strncat :
    ∃ fuel t fuel' t',
      strcat fuel dest source (start mem) =
          some (dest, t) ∧
        strncat fuel' dest source num (start mem) =
            some (dest, t') ∧
        HoldsString t'.mem dest (front ++ back) ∧
        (t.mem
              (dest +
                BitVec.ofNat 64
                  (front.length + back.length)) =
            mem
              (dest +
                BitVec.ofNat 64
                  (front.length + back.length))) ∧
        ∀ b,
          t'.mem b =
            if b =
                dest +
                  BitVec.ofNat 64
                    (front.length + back.length)
            then 0
            else t.mem b := by
  have hSize := size_lt_of_disjoint hDisjoint
  have hApart :
      RangesDisjoint (dest + BitVec.ofNat 64 front.length)
        back.length source (back.length + 1) := by
    apply disjoint_upper ?_ (by omega)
    intro a hRange
    exact hDisjoint a (hRange.mono (Nat.le_succ _))
  have hForward :=
    forward_of_disjoint (Nat.le_succ _) hApart
  have hLeading :
      leadingBytes mem num.toNat source = back :=
    leadingBytes_of_string hSource hFits
  have hBounded :
      RangesDisjoint dest (front.length + back.length + 1)
        source (min (back.length + 1) num.toNat) := by
    intro a hRange hOther
    exact
      hDisjoint a hRange (hOther.mono (Nat.min_le_left _ _))
  have hFuel :
      front.length < front.length + back.length + 1 := by
    omega
  have hFuel' :
      back.length < front.length + back.length + 1 := by
    omega
  rcases
    strcat_of_strings (t := start mem) hDest hSource hApart
      hFuel hFuel' with
    ⟨t, hCall, hMachine⟩
  rcases
    strncat_of_string (t := start mem) hDest hLeading
      hBounded (Nat.lt_succ_self _) with
    ⟨t', hCall', hMachine', _⟩
  refine ⟨_, t, _, t', hCall, hCall', ?_, ?_, ?_⟩
  · rw [hMachine']
    exact
      (appended_holdsString (t := start mem) hDest hLeading
        hBounded).1
  · rw [hMachine, ← add_ofNat_add_ofNat]
    exact memcpyLoop_keeps_behind (by omega) hForward
  · intro b
    rw [hMachine', hMachine, Machine.write8_mem]

/- `strcat` ends like `strncat` where a NUL is left over. -/
theorem strcat_agrees_iff :
    (∃ fuel result fuel' result',
        strcat fuel dest source (start mem) = some result ∧
          strncat fuel' dest source num (start mem) =
            some result' ∧
          result.2.mem = result'.2.mem ∧
          HoldsString result.2.mem dest (front ++ back) ∧
          HoldsString result'.2.mem dest (front ++ back)) ↔
      mem
          (dest +
            BitVec.ofNat 64 (front.length + back.length)) =
        0 := by
  rcases
    strcat_beside_strncat hDest hSource hFits hDisjoint with
    ⟨fuel, t, fuel', t', hCall, hCall', hString', hBehind,
      hMem⟩
  constructor
  · rintro ⟨other, result, other', result', hFirst, _, _,
      hString, _⟩
    have hSame :=
      Fueled.result_unique
        (strcat · dest source (start mem))
        (fun hFuel => strcat_mono hFuel) hFirst hCall
    rw [hSame] at hString
    have hEnd := hString.hEnd
    rw [List.length_append] at hEnd
    rw [← hBehind]
    exact hEnd
  · intro hZero
    have hSameMem : t.mem = t'.mem := by
      funext b
      rw [hMem]
      split_ifs with hAt
      · rw [hAt, hBehind, hZero]
      · rfl
    exact
      ⟨fuel, (dest, t), fuel', (dest, t'), hCall, hCall',
        hSameMem, hSameMem ▸ hString', hString'⟩

/-
  The three writers agree exactly where the bytes behind
  their texts are 0 already: only `strncat` writes a NUL.
-/
theorem writersAgree_iff :
    WritersAgree mem dest source num front back ↔
      mem
            (dest +
              BitVec.ofNat 64
                (front.length + back.length)) =
          0 ∧
        mem (dest + BitVec.ofNat 64 back.length) = 0 := by
  rw [← strcat_agrees_iff hDest hSource hFits hDisjoint,
    ← strcpy_holdsString_iff hSource hDisjoint]
  constructor
  · rintro ⟨hAppend, hCopy⟩
    exact ⟨hAppend, hCopy⟩
  · rintro ⟨hAppend, hCopy⟩
    exact ⟨hAppend, hCopy⟩

end Writers

theorem writersAgree_iff_sample :
    WritersAgree usedMemory 0x1000 0x2000 2 [0x61]
        [0x68, 0x69] ↔
      usedMemory (0x1000 + BitVec.ofNat 64 (1 + 2)) = 0 ∧
        usedMemory (0x1000 + BitVec.ofNat 64 2) = 0 :=
  @writersAgree_iff usedMemory 0x1000 0x2000 2 _ _ used_front
    used_back (by decide) (used_disjoint (by decide) (by decide))

/- "a" and "hi" in memory whose other bytes are not 0. -/
theorem writersAgree_fails :
    HoldsString usedMemory 0x1000 [0x61] ∧
      HoldsString usedMemory 0x2000 [0x68, 0x69] ∧
      RangesDisjoint 0x1000 4 0x2000 3 ∧
      ¬ WritersAgree usedMemory 0x1000 0x2000 2 [0x61]
        [0x68, 0x69] := by
  have hDisjoint : RangesDisjoint 0x1000 4 0x2000 3 :=
    used_disjoint (by decide) (by decide)
  refine ⟨used_front, used_back, hDisjoint, ?_⟩
  intro hAgree
  have hBehind :
      usedMemory (0x1000 + BitVec.ofNat 64 2) = 0 :=
    (@strcpy_holdsString_iff usedMemory 0x1000 0x2000 [0x61] _
      used_back hDisjoint).mp hAgree.hCopy
  have hOther :
      usedMemory (0x1000 + BitVec.ofNat 64 2) = 0xFF := rfl
  rw [hOther] at hBehind
  exact absurd hBehind (by decide)

end CHusky

end Chihuahua
