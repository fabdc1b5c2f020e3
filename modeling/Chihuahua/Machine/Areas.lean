import Chihuahua.Machine.Strings

/-
  Areas of memory that lie apart, each with a list of bytes
  as its content.

  Main declarations:
    * `overlay`
    * `textOf` and `frontOf`
    * `Areas`, `Areas.Hold` and `Areas.Outside`
    * `Areas.Hold.overlay`
-/

------------------------------------------------------------
-- Lists of Bytes
------------------------------------------------------------

namespace ByteMachine

/- A list with a part of it replaced. -/
def overlay
    (old : List Byte)
    (offset : Nat)
    (new : List Byte) : List Byte :=
  old.take offset ++ new ++ old.drop (offset + new.length)

section Overlay

variable {old new : List Byte} {offset : Nat}

theorem length_overlay
    (hFits : offset + new.length ≤ old.length) :
    (overlay old offset new).length = old.length := by
  unfold overlay
  rw [List.length_append, List.length_append,
    List.length_take, List.length_drop]
  omega

theorem getElem?_overlay
    (hFits : offset + new.length ≤ old.length)
    (i : Nat) :
    (overlay old offset new)[i]? =
      if offset ≤ i ∧ i < offset + new.length then
        new[i - offset]?
      else
        old[i]? := by
  have hTake : (old.take offset).length = offset := by
    rw [List.length_take]
    omega
  unfold overlay
  by_cases hLow : i < offset
  · rw [if_neg (by omega), List.append_assoc,
      List.getElem?_append_left (by omega),
      List.getElem?_take_of_lt hLow]
  · by_cases hHigh : i < offset + new.length
    · rw [if_pos ⟨by omega, hHigh⟩,
        List.getElem?_append_left
          (by rw [List.length_append]; omega),
        List.getElem?_append_right (by omega), hTake]
    · rw [if_neg (by omega),
        List.getElem?_append_right
          (by rw [List.length_append]; omega),
        List.length_append, hTake, List.getElem?_drop]
      congr 1
      omega

end Overlay

/- The bytes before the first NUL, if there is one. -/
def textOf : List Byte → Option (List Byte)
| [] => none
| c :: bytes =>
    if c = 0 then some []
    else (textOf bytes).map (c :: ·)

/-
  The bytes before the first NUL, but `n` of them at most;
  none if the list ends before that.
-/
def frontOf : Nat → List Byte → Option (List Byte)
| 0, _ => some []
| _ + 1, [] => none
| n + 1, c :: bytes =>
    if c = 0 then some []
    else (frontOf n bytes).map (c :: ·)

theorem HoldsText.take
    {mem : Memory}
    {a : Addr}
    {bytes : List Byte}
    (hBytes : HoldsText mem a bytes)
    (n : Nat) :
    HoldsText mem a (bytes.take n) := by
  intro i hi
  rw [List.getElem_take]
  exact hBytes i (by rw [List.length_take] at hi; omega)

/- A string in memory, seen from its first character. -/
theorem HoldsString.cons
    {mem : Memory}
    {a : Addr}
    {c : Byte}
    {text : List Byte}
    (hByte : mem a = c)
    (hNonzero : c ≠ 0)
    (hTail : HoldsString mem (a + 1) text) :
    HoldsString mem a (c :: text) where
  hText := holdsText_cons.mpr ⟨hByte, hTail.hText⟩
  hNonzero := by
    intro c' hMember
    rcases List.mem_cons.mp hMember with rfl | hLater
    · exact hNonzero
    · exact hTail.hNonzero c' hLater
  hEnd := by
    rw [List.length_cons, ← add_one_add_ofNat]
    exact hTail.hEnd

theorem holdsString_of_textOf
    {mem : Memory}
    {a : Addr}
    {bytes text : List Byte}
    (hBytes : HoldsText mem a bytes)
    (hText : textOf bytes = some text) :
    HoldsString mem a text ∧ text.length < bytes.length := by
  induction bytes generalizing a text with
  | nil => exact absurd hText (by simp [textOf])
  | cons c bytes ih =>
      obtain ⟨hByte, hRest⟩ := holdsText_cons.mp hBytes
      rw [textOf] at hText
      split_ifs at hText with hNul
      · obtain rfl := Option.some.inj hText
        refine ⟨⟨by simp [HoldsText], by simp, ?_⟩, by simp⟩
        rw [List.length_nil, add_ofNat_zero, hByte, hNul]
      · obtain ⟨rest, hTail, rfl⟩ :=
          Option.map_eq_some_iff.mp hText
        obtain ⟨hString, hShort⟩ := ih hRest hTail
        refine ⟨.cons hByte hNul hString, ?_⟩
        rw [List.length_cons, List.length_cons]
        omega

theorem leadingBytes_of_frontOf
    {mem : Memory}
    {a : Addr}
    {n : Nat}
    {bytes front : List Byte}
    (hBytes : HoldsText mem a bytes)
    (hFront : frontOf n bytes = some front) :
    leadingBytes mem n a = front ∧
      min (front.length + 1) n ≤ bytes.length := by
  induction bytes generalizing a n front with
  | nil =>
      cases n with
      | zero =>
          obtain rfl := Option.some.inj hFront
          exact ⟨rfl, by simp⟩
      | succ n => exact absurd hFront (by simp [frontOf])
  | cons c bytes ih =>
      obtain ⟨hByte, hRest⟩ := holdsText_cons.mp hBytes
      cases n with
      | zero =>
          obtain rfl := Option.some.inj hFront
          exact ⟨rfl, by simp⟩
      | succ n =>
          rw [frontOf] at hFront
          rw [leadingBytes, hByte]
          split_ifs at hFront ⊢ with hNul
          · obtain rfl := Option.some.inj hFront
            exact ⟨rfl, by simp⟩
          · obtain ⟨rest, hTail, rfl⟩ :=
              Option.map_eq_some_iff.mp hFront
            obtain ⟨hLeading, hShort⟩ := ih hRest hTail
            rw [hLeading, List.length_cons,
              List.length_cons]
            exact ⟨rfl, by omega⟩

------------------------------------------------------------
-- Areas and What They Hold
------------------------------------------------------------

/- Areas of memory by their names, none over another. -/
structure Areas (Name : Type) where
  base : Name → Addr
  size : Name → Nat
  hSize : ∀ name, size name ≤ 2 ^ 64
  hApart :
    ∀ name other,
      name ≠ other →
        RangesDisjoint (base name) (size name)
          (base other) (size other)

namespace Areas

variable {Name : Type} (areas : Areas Name)

/- No area has this byte. -/
def Outside (b : Addr) : Prop :=
  ∀ name, ¬ InRange (areas.base name) (areas.size name) b

structure Hold
    (mem : Memory)
    (contents : Name → List Byte) : Prop where
  hLength :
    ∀ name, (contents name).length = areas.size name
  hText :
    ∀ name, HoldsText mem (areas.base name) (contents name)

/- Some bytes of one area, and nothing else, are new. -/
structure Replaces
    (mem mem' : Memory)
    (name : Name)
    (offset : Nat)
    (new : List Byte) : Prop where
  hNew :
    HoldsText mem'
      (areas.base name + BitVec.ofNat 64 offset) new
  hKept :
    ∀ b,
      ¬ InRange (areas.base name + BitVec.ofNat 64 offset)
          new.length b →
        mem' b = mem b

variable {areas}
variable {mem mem' : Memory} {contents : Name → List Byte}
variable {name : Name} {offset : Nat} {new : List Byte}

/- The part of an area that is written lies in it. -/
theorem inRange_of_part
    (hFits : offset + new.length ≤ areas.size name)
    {b : Addr}
    (hPart :
      InRange (areas.base name + BitVec.ofNat 64 offset)
        new.length b) :
    InRange (areas.base name) (areas.size name) b := by
  have hSize := areas.hSize name
  rw [inRange_add_iff _ b (by omega)] at hPart
  unfold InRange
  omega

/- Parts of different areas are apart, too. -/
theorem disjoint_parts
    {other : Name}
    (hNe : name ≠ other)
    {n k : Nat}
    (hFits : offset + n ≤ areas.size name)
    (hPart : k ≤ areas.size other) :
    RangesDisjoint
      (areas.base name + BitVec.ofNat 64 offset) n
      (areas.base other) k := by
  have hSize := areas.hSize name
  intro b hRange hOther
  rw [inRange_add_iff _ b (by omega)] at hRange
  have hDest : InRange (areas.base name) (offset + n) b :=
    hRange.2
  exact
    areas.hApart name other hNe b (hDest.mono hFits)
      (hOther.mono hPart)

theorem Replaces.outside
    (hReplaces : areas.Replaces mem mem' name offset new)
    (hFits : offset + new.length ≤ areas.size name)
    {b : Addr}
    (hOutside : areas.Outside b) :
    mem' b = mem b := by
  apply hReplaces.hKept
  exact fun hPart => hOutside name (inRange_of_part hFits hPart)

variable [DecidableEq Name]

/-
  Writing to one area replaces a part of its content, and
  the content of the others stays.
-/
theorem Hold.overlay
    (hHold : areas.Hold mem contents)
    (hReplaces : areas.Replaces mem mem' name offset new)
    (hFits : offset + new.length ≤ areas.size name) :
    areas.Hold mem'
      (Function.update contents name
        (overlay (contents name) offset new)) := by
  have hSize := areas.hSize name
  have hLength := hHold.hLength name
  have hFits' :
      offset + new.length ≤ (contents name).length := by
    omega
  constructor
  · intro other
    by_cases hSame : other = name
    · subst hSame
      rw [Function.update_self, length_overlay hFits',
        hLength]
    · rw [Function.update_of_ne hSame, hHold.hLength]
  · intro other
    by_cases hSame : other = name
    · subst hSame
      rw [Function.update_self]
      intro i hi
      have hByte := getElem?_overlay hFits' i
      have hBound := hi
      rw [length_overlay hFits'] at hBound
      rw [List.getElem?_eq_getElem hi] at hByte
      split_ifs at hByte with hPart
      · have hIndex : i - offset < new.length := by omega
        have hNew := hReplaces.hNew (i - offset) hIndex
        have hSum : offset + (i - offset) = i := by omega
        rw [add_ofNat_add_ofNat, hSum] at hNew
        rw [hNew]
        rw [List.getElem?_eq_getElem hIndex] at hByte
        exact (Option.some.inj hByte).symm
      · rw [List.getElem?_eq_getElem hBound] at hByte
        rw [Option.some.inj hByte,
          ← hHold.hText other i hBound]
        apply hReplaces.hKept
        intro hRange
        rw [inRange_add_iff _ _ (by omega),
          add_ofNat_sub_toNat _ (by omega)] at hRange
        omega
    · rw [Function.update_of_ne hSame]
      apply (hHold.hText other).congr
      intro b hRange
      apply hReplaces.hKept
      intro hPart
      rw [hHold.hLength] at hRange
      exact
        areas.hApart name other (Ne.symm hSame) b
          (inRange_of_part hFits hPart) hRange

end Areas

end ByteMachine
