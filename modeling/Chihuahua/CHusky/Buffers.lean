import Chihuahua.CHusky.MemFunctions
import Chihuahua.CHusky.Strcat
import Chihuahua.Machine.Areas
import Chihuahua.Machine.Simulation

/-
  The library at work on buffers that lie apart: what calls
  in any order do to the contents of the buffers.

  The meaning of a call follows the code: `strcpy` and
  `strcat` write no NUL, and `strncpy` pads from the start
  of the destination. A call that would leave a buffer, or
  copies a buffer onto itself, has no meaning.

  Main declarations:
    * `StringCall`, `exec` and `meaning`
    * `Represents` and `exec_simulates`
    * `calls_followMeaning`
-/

------------------------------------------------------------
-- Calls
------------------------------------------------------------

namespace Chihuahua

namespace CHusky

open ByteMachine Tracked Simulation

inductive CallResult (Pointer : Type) where
| size (length : BitVec 64)
| pointer (dest : Pointer)
| int (difference : BitVec 32)
deriving DecidableEq, Repr

/- A result with another way to tell where it points. -/
def CallResult.map
    {Pointer Pointer' : Type}
    (f : Pointer → Pointer') :
    CallResult Pointer → CallResult Pointer'
| size length => size length
| pointer dest => pointer (f dest)
| int difference => int difference

/- A call whose pointers are the starts of buffers. -/
inductive StringCall (Name : Type) where
| strlen (str : Name)
| strcpy (dest src : Name)
| strcat (dest source : Name)
| strncpy (dest source : Name) (num : BitVec 64)
| strncat (dest source : Name) (num : BitVec 64)
| memcpy (dest src : Name) (n : BitVec 64)
| memmove (dest src : Name) (n : BitVec 64)
| memset (dest : Name) (c : BitVec 32) (n : BitVec 64)
| memcmp (vl vr : Name) (n : BitVec 64)
deriving DecidableEq, Repr

variable {Name : Type}

namespace StringCall

/- The functions that log no reads. -/
def onMachine
    (call : Machine → Addr × Machine)
    (t : Tracked) : CallResult Addr × Tracked :=
  (.pointer (call t.toMachine).1,
    { t with toMachine := (call t.toMachine).2 })

/- The call of the library. -/
def exec
    (areas : Areas Name)
    (fuel : Nat)
    (call : StringCall Name)
    (t : Tracked) : Option (CallResult Addr × Tracked) :=
  let returned (result : Addr × Tracked) :=
    (CallResult.pointer result.1, result.2)
  match call with
  | strlen str =>
      (CHusky.strlen fuel (areas.base str) t).map
        (fun result => (.size result.1, result.2))
  | strcpy dest src =>
      (CHusky.strcpy fuel (areas.base dest) (areas.base src)
        t).map returned
  | strcat dest source =>
      (CHusky.strcat fuel (areas.base dest)
        (areas.base source) t).map returned
  | strncpy dest source num =>
      (CHusky.strncpy fuel (areas.base dest)
        (areas.base source) num t).map returned
  | strncat dest source num =>
      (CHusky.strncat fuel (areas.base dest)
        (areas.base source) num t).map returned
  | memcpy dest src n =>
      some
        (onMachine
          (CHusky.memcpy (areas.base dest) (areas.base src)
            n)
          t)
  | memmove dest src n =>
      some
        (onMachine
          (CHusky.memmove (areas.base dest)
            (areas.base src) n)
          t)
  | memset dest c n =>
      some
        (onMachine (CHusky.memset (areas.base dest) c n) t)
  | memcmp vl vr n =>
      let compared :=
        CHusky.memcmp (areas.base vl) (areas.base vr) n t
      some (.int compared.1, compared.2)

end StringCall

------------------------------------------------------------
-- What the Calls Mean
------------------------------------------------------------

/- The difference of the first two bytes that differ. -/
def firstDifference : List Byte → List Byte → BitVec 32
| l :: ls, r :: rs =>
    if l = r then firstDifference ls rs
    else Essentials.byteDifference l r
| _, _ => 0

section Meaning

variable [DecidableEq Name]

/- Bytes written to a buffer that has room for them. -/
def written
    (contents : Name → List Byte)
    (dest : Name)
    (offset : Nat)
    (new : List Byte) :
    Option (CallResult Name × (Name → List Byte)) :=
  if offset + new.length ≤ (contents dest).length then
    some
      (.pointer dest,
        Function.update contents dest
          (overlay (contents dest) offset new))
  else none

/- The first `n` bytes of a buffer, to the start of one. -/
def copied
    (contents : Name → List Byte)
    (dest src : Name)
    (n : BitVec 64) :
    Option (CallResult Name × (Name → List Byte)) :=
  if n.toNat ≤ (contents src).length then
    written contents dest 0 ((contents src).take n.toNat)
  else none

/- A call as a function of the contents of the buffers. -/
def StringCall.meaning
    (call : StringCall Name)
    (contents : Name → List Byte) :
    Option (CallResult Name × (Name → List Byte)) :=
  match call with
  | .strlen str =>
      (textOf (contents str)).map
        (fun text =>
          (.size (BitVec.ofNat 64 text.length), contents))
  | .strcpy dest src =>
      if dest = src then none
      else
        (textOf (contents src)).bind (written contents dest 0)
  | .strcat dest source =>
      if dest = source then none
      else
        (textOf (contents dest)).bind
          (fun front =>
            (textOf (contents source)).bind
              (written contents dest front.length))
  | .strncpy dest source num =>
      if dest = source then none
      else
        (textOf (contents source)).bind
          (fun text =>
            if text.length ≤ num.toNat then
              (written contents dest 0 text).bind
                (fun result =>
                  written result.2 dest 0
                    (List.replicate
                      (num.toNat - text.length) 0))
            else none)
  | .strncat dest source num =>
      if dest = source then none
      else
        (textOf (contents dest)).bind
          (fun front =>
            (frontOf num.toNat (contents source)).bind
              (fun back =>
                written contents dest front.length
                  (back ++ [0])))
  | .memcpy dest src n =>
      if dest = src then none else copied contents dest src n
  | .memmove dest src n =>
      if dest = src then some (.pointer dest, contents)
      else copied contents dest src n
  | .memset dest c n =>
      written contents dest 0
        (List.replicate n.toNat (c.setWidth 8))
  | .memcmp vl vr n =>
      if n.toNat ≤ (contents vl).length ∧
          n.toNat ≤ (contents vr).length then
        some
          (.int
            (firstDifference ((contents vl).take n.toNat)
              ((contents vr).take n.toNat)),
            contents)
      else none

end Meaning

------------------------------------------------------------
-- Contents in Memory
------------------------------------------------------------

/- The buffers hold their contents, the rest is untouched. -/
structure Represents
    (areas : Areas Name)
    (mem : Memory)
    (contents : Name → List Byte)
    (t : Tracked) : Prop where
  hHold : areas.Hold t.mem contents
  hKept : ∀ b, areas.Outside b → t.mem b = mem b

section Steps

variable {areas : Areas Name} {mem : Memory}
variable {contents contents' : Name → List Byte}
variable {t t' : Tracked}

theorem Represents.of_mem_eq
    (hRep : Represents areas mem contents t)
    (hSame : t'.mem = t.mem) :
    Represents areas mem contents t' := by
  constructor
  · rw [hSame]
    exact hRep.hHold
  · rw [hSame]
    exact hRep.hKept

section Written

variable [DecidableEq Name]
variable {dest : Name} {offset : Nat} {new : List Byte}
variable {result : CallResult Name}
variable (hRep : Represents areas mem contents t)
variable
  (hWritten :
    written contents dest offset new =
      some (result, contents'))

include hRep hWritten

theorem Represents.fits :
    offset + new.length ≤ areas.size dest := by
  unfold CHusky.written at hWritten
  split_ifs at hWritten with hFits
  rw [hRep.hHold.hLength] at hFits
  exact hFits

theorem Represents.written
    (u : Tracked)
    (hReplaces :
      areas.Replaces t.mem u.mem dest offset new) :
    result = .pointer dest ∧
      Represents areas mem contents' u := by
  have hFits := hRep.fits hWritten
  have hLength := hRep.hHold.hLength dest
  unfold CHusky.written at hWritten
  rw [if_pos (by omega)] at hWritten
  obtain ⟨rfl, rfl⟩ := Prod.mk.inj (Option.some.inj hWritten)
  refine ⟨rfl, hRep.hHold.overlay hReplaces hFits, ?_⟩
  intro b hOutside
  rw [hReplaces.outside hFits hOutside,
    hRep.hKept b hOutside]

end Written

------------------------------------------------------------
-- What the Library Writes
------------------------------------------------------------

/- The copying loop puts the text where it is told to. -/
theorem replaces_memcpyLoop
    {dest : Name}
    {offset : Nat}
    {source : Addr}
    {text : List Byte}
    {m : Machine}
    (hText : HoldsText m.mem source text)
    (hShort : text.length < 2 ^ 64)
    (hDisjoint :
      RangesDisjoint
        (areas.base dest + BitVec.ofNat 64 offset)
        text.length source text.length) :
    areas.Replaces m.mem
      (Essentials.memcpyLoop text.length
        (areas.base dest + BitVec.ofNat 64 offset) source
        m).mem
      dest offset text := by
  have hForward := forward_of_disjoint le_rfl hDisjoint
  exact
    ⟨memcpyLoop_holdsText hText hShort hForward,
      fun b hOutside =>
        memcpyLoop_keeps hShort hForward hOutside⟩

theorem replaces_memset
    (areas : Areas Name)
    (dest : Name)
    (c : BitVec 32)
    (n : BitVec 64)
    (m : Machine) :
    areas.Replaces m.mem
      (memset (areas.base dest) c n m).2.mem dest 0
      (List.replicate n.toNat (c.setWidth 8)) := by
  have hFills :=
    Essentials.memset_fills (areas.base dest) c n m
  constructor
  · intro i hi
    rw [List.length_replicate] at hi
    rw [add_ofNat_zero, List.getElem_replicate]
    exact hFills.filled _ (inRange_add_ofNat _ hi)
  · rw [List.length_replicate, add_ofNat_zero]
    exact hFills.kept

/- Each of the returns of `memset` gives back `dest`. -/
theorem memset_fst
    (dest : Addr)
    (c : BitVec 32)
    (n : BitVec 64)
    (m : Machine) :
    (memset dest c n m).1 = dest := by
  unfold memset Essentials.memset
  dsimp only
  split_ifs <;> rfl

/- Buffers that are apart are copied by `memcpy`. -/
theorem memmove_of_disjoint
    {dest src : Addr}
    {n : BitVec 64}
    (hDisjoint : RangesDisjoint src n.toNat dest n.toNat)
    (m : Machine) :
    memmove dest src n m = memcpy dest src n m := by
  show Essentials.memmove dest src n m = _
  rw [Essentials.memmove_eq]
  by_cases hNone : n.toNat = 0
  · have hZero : n = 0 := BitVec.eq_of_toNat_eq hNone
    subst hZero
    split_ifs <;> rfl
  · have hApart :=
      (Essentials.rangesDisjoint_iff_of_size src dest
        (Nat.pos_of_ne_zero hNone)).mp hDisjoint
    have hNe : dest ≠ src := by
      rintro rfl
      rw [BitVec.sub_self] at hApart
      exact hNone (Nat.le_zero.mp hApart.1)
    have hTest : Essentials.OverlapTest dest src n := by
      rw [Essentials.OverlapTest, Essentials.neg_two_mul_eq]
      bv_omega
    rw [if_neg hNe, if_pos hTest]
    rfl

/- The answer of `memcmp` on areas with these bytes. -/
theorem memcmp_firstDifference
    {a b : Addr}
    {ls rs : List Byte}
    (hLeft : HoldsText t.mem a ls)
    (hRight : HoldsText t.mem b rs)
    (hLength : ls.length = rs.length) :
    let stopped := Essentials.memcmpLoop ls.length a b t
    (Essentials.memcmpReturn stopped.1 stopped.2).1 =
      firstDifference ls rs := by
  induction ls generalizing a b rs t with
  | nil => rfl
  | cons l ls ih =>
      cases rs with
      | nil => simp at hLength
      | cons r rs =>
          obtain ⟨hL, hLs⟩ := holdsText_cons.mp hLeft
          obtain ⟨hR, hRs⟩ := holdsText_cons.mp hRight
          have hRest : ls.length = rs.length := by
            simpa using hLength
          rw [List.length_cons, Essentials.memcmpLoop, hL, hR,
            firstDifference]
          split_ifs with hSame
          · exact
              ih (t := (t.reading a).reading b) hLs hRs hRest
          · show
              Essentials.byteDifference (t.mem a) (t.mem b) =
                _
            rw [hL, hR]

------------------------------------------------------------
-- Call by Call
------------------------------------------------------------

/- A buffer with a NUL in it is a string to the library. -/
theorem Represents.string
    (hRep : Represents areas mem contents t)
    {name : Name}
    {text : List Byte}
    (hText : textOf (contents name) = some text) :
    HoldsString t.mem (areas.base name) text ∧
      text.length < areas.size name := by
  have hString :=
    holdsString_of_textOf (hRep.hHold.hText name) hText
  rw [hRep.hHold.hLength] at hString
  exact hString

variable [DecidableEq Name]

/- The call does what its meaning says. -/
abbrev Follows
    (areas : Areas Name)
    (mem : Memory)
    (fuel : Nat)
    (call : StringCall Name) : Prop :=
  ∀ {contents contents' : Name → List Byte}
    {t : Tracked}
    {result : CallResult Name},
    Represents areas mem contents t →
      call.meaning contents = some (result, contents') →
        ∃ t',
          call.exec areas fuel t =
              some (result.map areas.base, t') ∧
            Represents areas mem contents' t'

/- A call that returns its destination after writing it. -/
theorem Represents.returned
    (hRep : Represents areas mem contents t)
    (u : Tracked)
    {call : StringCall Name}
    {fuel : Nat}
    {dest : Name}
    {offset : Nat}
    {new : List Byte}
    {result : CallResult Name}
    (hExec :
      call.exec areas fuel t =
        some (.pointer (areas.base dest), u))
    (hWritten :
      CHusky.written contents dest offset new =
        some (result, contents'))
    (hReplaces :
      areas.Replaces t.mem u.mem dest offset new) :
    ∃ t',
      call.exec areas fuel t =
          some (result.map areas.base, t') ∧
        Represents areas mem contents' t' := by
  obtain ⟨rfl, hAfter⟩ := hRep.written hWritten u hReplaces
  exact ⟨u, hExec, hAfter⟩

section Fuel

variable {fuel : Nat}
variable (hFuel : ∀ name, areas.size name ≤ fuel)

include hFuel

theorem follows_strlen
    (str : Name) :
    Follows areas mem fuel (.strlen str) := by
  intro contents contents' t result hRep hMeaning
  obtain ⟨text, hText, hResult⟩ :=
    Option.map_eq_some_iff.mp hMeaning
  obtain ⟨rfl, rfl⟩ := Prod.mk.inj hResult
  obtain ⟨hString, hShort⟩ := hRep.string hText
  obtain ⟨t', hCall, hMachine, _⟩ :=
    strlen_of_string hString
      (lt_of_lt_of_le hShort (hFuel str))
  refine
    ⟨t', ?_,
      hRep.of_mem_eq (congrArg Machine.mem hMachine)⟩
  show
    (strlen fuel (areas.base str) t).map _ =
      some (CallResult.size _, t')
  rw [hCall]
  rfl

theorem follows_strcpy
    (dest src : Name) :
    Follows areas mem fuel (.strcpy dest src) := by
  intro contents contents' t result hRep hMeaning
  rw [StringCall.meaning] at hMeaning
  split_ifs at hMeaning with hSame
  obtain ⟨text, hText, hWritten⟩ :=
    Option.bind_eq_some_iff.mp hMeaning
  obtain ⟨hString, hShort⟩ := hRep.string hText
  have hDisjoint :=
    Areas.disjoint_parts hSame (hRep.fits hWritten) hShort
  rw [add_ofNat_zero] at hDisjoint
  obtain ⟨t', hCall, hMachine⟩ :=
    strcpy_of_string hString hDisjoint
      (lt_of_lt_of_le hShort (hFuel src))
  refine hRep.returned t' ?_ hWritten ?_
  · show
      (strcpy fuel (areas.base dest) (areas.base src) t).map
          _ =
        _
    rw [hCall]
    rfl
  · rw [hMachine, ← add_ofNat_zero (areas.base dest)]
    apply
      replaces_memcpyLoop (m := t.toMachine) hString.hText
        hString.length_lt
    rw [add_ofNat_zero]
    intro b hRange hSource
    exact hDisjoint b hRange (hSource.mono (Nat.le_succ _))

theorem follows_strcat
    (dest source : Name) :
    Follows areas mem fuel (.strcat dest source) := by
  intro contents contents' t result hRep hMeaning
  rw [StringCall.meaning] at hMeaning
  split_ifs at hMeaning with hSame
  obtain ⟨front, hFront, hRest⟩ :=
    Option.bind_eq_some_iff.mp hMeaning
  obtain ⟨back, hBack, hWritten⟩ :=
    Option.bind_eq_some_iff.mp hRest
  obtain ⟨hDest, hFrontShort⟩ := hRep.string hFront
  obtain ⟨hSource, hBackShort⟩ := hRep.string hBack
  have hDisjoint :=
    Areas.disjoint_parts hSame (hRep.fits hWritten) hBackShort
  obtain ⟨t', hCall, hMachine⟩ :=
    strcat_of_strings hDest hSource hDisjoint
      (lt_of_lt_of_le hFrontShort (hFuel dest))
      (lt_of_lt_of_le hBackShort (hFuel source))
  refine hRep.returned t' ?_ hWritten ?_
  · show
      (strcat fuel (areas.base dest) (areas.base source)
          t).map
          _ =
        _
    rw [hCall]
    rfl
  · rw [hMachine]
    apply
      replaces_memcpyLoop (m := t.toMachine) hSource.hText
        hSource.length_lt
    intro b hRange hOther
    exact hDisjoint b hRange (hOther.mono (Nat.le_succ _))

theorem follows_strncat
    (dest source : Name)
    (num : BitVec 64) :
    Follows areas mem fuel (.strncat dest source num) := by
  intro contents contents' t result hRep hMeaning
  rw [StringCall.meaning] at hMeaning
  split_ifs at hMeaning with hSame
  obtain ⟨front, hFront, hRest⟩ :=
    Option.bind_eq_some_iff.mp hMeaning
  obtain ⟨back, hBack, hWritten⟩ :=
    Option.bind_eq_some_iff.mp hRest
  obtain ⟨hDest, hShort⟩ := hRep.string hFront
  obtain ⟨hLeading, hRead⟩ :=
    leadingBytes_of_frontOf (hRep.hHold.hText source) hBack
  rw [hRep.hHold.hLength] at hRead
  have hFits := hRep.fits hWritten
  rw [List.length_append, List.length_singleton] at hFits
  have hDisjoint :
      RangesDisjoint (areas.base dest)
        (front.length + back.length + 1)
        (areas.base source)
        (min (back.length + 1) num.toNat) := by
    rw [← add_ofNat_zero (areas.base dest)]
    exact Areas.disjoint_parts hSame (by omega) hRead
  obtain ⟨t', hCall, hMachine, _⟩ :=
    strncat_of_string hDest hLeading hDisjoint
      (lt_of_lt_of_le hShort (hFuel dest))
  obtain ⟨hString, hKept⟩ :=
    appended_holdsString hDest hLeading hDisjoint
  refine hRep.returned t' ?_ hWritten ?_
  · show
      (strncat fuel (areas.base dest) (areas.base source)
          num t).map
          _ =
        _
    rw [hCall]
    rfl
  · rw [hMachine]
    refine ⟨?_, ?_⟩
    · refine
        holdsText_append.mpr
          ⟨(holdsText_append.mp hString.hText).2, ?_⟩
      have hEnd := hString.hEnd
      rw [List.length_append] at hEnd
      refine holdsText_cons.mpr ⟨?_, by simp [HoldsText]⟩
      rw [add_ofNat_add_ofNat]
      exact hEnd
    · rw [List.length_append, List.length_singleton]
      exact hKept

theorem follows_strncpy
    (dest source : Name)
    (num : BitVec 64) :
    Follows areas mem fuel (.strncpy dest source num) := by
  intro contents contents' t result hRep hMeaning
  rw [StringCall.meaning] at hMeaning
  split_ifs at hMeaning with hSame
  obtain ⟨text, hText, hRest⟩ :=
    Option.bind_eq_some_iff.mp hMeaning
  split_ifs at hRest with hBound
  obtain ⟨⟨result', contents''⟩, hCopied, hPadded⟩ :=
    Option.bind_eq_some_iff.mp hRest
  obtain ⟨hString, hShort⟩ := hRep.string hText
  have hDisjoint :=
    Areas.disjoint_parts hSame (hRep.fits hCopied) hShort
  rw [add_ofNat_zero] at hDisjoint
  obtain ⟨u, hLoop, hMachine⟩ :=
    @strncpyLoop_of_string fuel (areas.base dest)
      (areas.base source) num t text hString hDisjoint
      (lt_of_lt_of_le hShort (hFuel source))
  -- the text first, then the padding
  have hText :
      areas.Replaces t.mem u.mem dest 0 text := by
    rw [hMachine, ← add_ofNat_zero (areas.base dest)]
    apply
      replaces_memcpyLoop (m := t.toMachine) hString.hText
        hString.length_lt
    rw [add_ofNat_zero]
    intro b hRange hOther
    exact hDisjoint b hRange (hOther.mono (Nat.le_succ _))
  obtain ⟨_, hMid⟩ := hRep.written hCopied u hText
  have hLeft :
      (num - BitVec.ofNat 64 text.length).toNat =
        num.toNat - text.length := by
    have hLt := hString.length_lt
    bv_omega
  have hPad :=
    replaces_memset areas dest 0
      (num - BitVec.ofNat 64 text.length) u.toMachine
  rw [hLeft] at hPad
  obtain ⟨rfl, hAfter⟩ :=
    hMid.written hPadded
      { u with
        toMachine :=
          (memset (areas.base dest) 0
            (num - BitVec.ofNat 64 text.length)
            u.toMachine).2 }
      hPad
  refine ⟨_, ?_, hAfter⟩
  show
    (strncpy fuel (areas.base dest) (areas.base source) num
        t).map
        _ =
      _
  simp only [strncpy, hLoop, Option.bind_eq_bind,
    Option.bind_some, Option.pure_def]
  rfl

omit hFuel

theorem follows_copy
    {call : StringCall Name}
    {dest src : Name}
    {n : BitVec 64}
    (hSame : dest ≠ src)
    {contents contents' : Name → List Byte}
    {t : Tracked}
    {result : CallResult Name}
    (hRep : Represents areas mem contents t)
    (hCopied :
      copied contents dest src n = some (result, contents'))
    (hExec :
      RangesDisjoint (areas.base src) n.toNat
          (areas.base dest) n.toNat →
        call.exec areas fuel t =
          some
            (StringCall.onMachine
              (memcpy (areas.base dest) (areas.base src) n)
              t)) :
    ∃ t',
      call.exec areas fuel t =
          some (result.map areas.base, t') ∧
        Represents areas mem contents' t' := by
  unfold copied at hCopied
  split_ifs at hCopied with hRead
  have hLength :
      ((contents src).take n.toNat).length = n.toNat := by
    rw [List.length_take]
    omega
  have hFits := hRep.fits hCopied
  rw [hRep.hHold.hLength] at hRead
  rw [hLength] at hFits
  have hDisjoint :=
    Areas.disjoint_parts hSame hFits hRead
  rw [add_ofNat_zero] at hDisjoint
  refine
    hRep.returned _ (hExec hDisjoint.symm) hCopied ?_
  have hReplaces :
      areas.Replaces t.mem
        (Essentials.memcpyLoop
          ((contents src).take n.toNat).length
          (areas.base dest + BitVec.ofNat 64 0)
          (areas.base src) t.toMachine).mem
        dest 0 ((contents src).take n.toNat) := by
    apply
      replaces_memcpyLoop (m := t.toMachine)
        ((hRep.hHold.hText src).take n.toNat)
    · rw [hLength]
      exact n.isLt
    · rw [hLength, add_ofNat_zero]
      exact hDisjoint
  rw [hLength, add_ofNat_zero] at hReplaces
  exact hReplaces

theorem follows_memmove
    (dest src : Name)
    (n : BitVec 64) :
    Follows areas mem fuel (.memmove dest src n) := by
  intro contents contents' t result hRep hMeaning
  rw [StringCall.meaning] at hMeaning
  split_ifs at hMeaning with hSame
  · subst hSame
    obtain ⟨rfl, rfl⟩ :=
      Prod.mk.inj (Option.some.inj hMeaning)
    have hCall (m : Machine) :
        memmove (areas.base dest) (areas.base dest) n m =
          (areas.base dest, m) := by
      show Essentials.memmove _ _ n m = _
      rw [Essentials.memmove_eq, if_pos rfl]
    refine ⟨t, ?_, hRep⟩
    simp only [StringCall.exec, StringCall.onMachine, hCall,
      CallResult.map]
  · apply follows_copy hSame hRep hMeaning
    intro hDisjoint
    simp only [StringCall.exec, StringCall.onMachine,
      memmove_of_disjoint hDisjoint]

theorem follows_memset
    (dest : Name)
    (c : BitVec 32)
    (n : BitVec 64) :
    Follows areas mem fuel (.memset dest c n) := by
  intro contents contents' t result hRep hMeaning
  refine
    hRep.returned
      { t with
        toMachine :=
          (memset (areas.base dest) c n t.toMachine).2 }
      ?_ hMeaning (replaces_memset areas dest c n t.toMachine)
  simp only [StringCall.exec, StringCall.onMachine,
    memset_fst]

theorem follows_memcmp
    (vl vr : Name)
    (n : BitVec 64) :
    Follows areas mem fuel (.memcmp vl vr n) := by
  intro contents contents' t result hRep hMeaning
  rw [StringCall.meaning] at hMeaning
  split_ifs at hMeaning with hFits
  obtain ⟨rfl, rfl⟩ := Prod.mk.inj (Option.some.inj hMeaning)
  obtain ⟨hLeft, hRight⟩ := hFits
  have hLeftLength :
      ((contents vl).take n.toNat).length = n.toNat := by
    rw [List.length_take]
    omega
  have hRightLength :
      ((contents vr).take n.toNat).length = n.toNat := by
    rw [List.length_take]
    omega
  have hAnswer :=
    memcmp_firstDifference
      ((hRep.hHold.hText vl).take n.toNat)
      ((hRep.hHold.hText vr).take n.toNat)
      (hLeftLength.trans hRightLength.symm)
  rw [hLeftLength] at hAnswer
  have hMachine :=
    (Essentials.ordersMemory_memcmp.hReads (areas.base vl)
      (areas.base vr) n t).1
  refine
    ⟨_, ?_, hRep.of_mem_eq (congrArg Machine.mem hMachine)⟩
  show
    some
        (CallResult.int
          (memcmp (areas.base vl) (areas.base vr) n t).1,
          _) =
      _
  exact congrArg
    (fun difference => some (CallResult.int difference, _))
    hAnswer

end Fuel

/- Every call that has a meaning follows it. -/
theorem exec_simulates
    {fuel : Nat}
    (hFuel : ∀ name, areas.size name ≤ fuel)
    (mem : Memory) :
    Simulates (Represents areas mem)
      (CallResult.map areas.base) StringCall.meaning
      (StringCall.exec areas fuel) := by
  intro call contents contents' t result hRep hMeaning
  cases call with
  | strlen str =>
      exact follows_strlen hFuel str hRep hMeaning
  | strcpy dest src =>
      exact follows_strcpy hFuel dest src hRep hMeaning
  | strcat dest source =>
      exact follows_strcat hFuel dest source hRep hMeaning
  | strncpy dest source num =>
      exact
        follows_strncpy hFuel dest source num hRep hMeaning
  | strncat dest source num =>
      exact
        follows_strncat hFuel dest source num hRep hMeaning
  | memcpy dest src n =>
      rw [StringCall.meaning] at hMeaning
      split_ifs at hMeaning with hSame
      exact
        follows_copy hSame hRep hMeaning (fun _ => rfl)
  | memmove dest src n =>
      exact follows_memmove dest src n hRep hMeaning
  | memset dest c n =>
      exact follows_memset dest c n hRep hMeaning
  | memcmp vl vr n =>
      exact follows_memcmp vl vr n hRep hMeaning

/-
  Any calls in any order, as long as each has a meaning:
  they all return, answer what they mean, leave the buffers
  with the contents they mean, and the rest of memory as it
  was.
-/
theorem calls_followMeaning
    {fuel : Nat}
    (hFuel : ∀ name, areas.size name ≤ fuel)
    {calls : List (StringCall Name)}
    {results : List (CallResult Name)}
    (hHold : areas.Hold t.mem contents)
    (hMeaning :
      runAll StringCall.meaning calls contents =
        some (results, contents')) :
    ∃ t',
      runAll (StringCall.exec areas fuel) calls t =
          some (results.map (.map areas.base), t') ∧
        areas.Hold t'.mem contents' ∧
        ∀ b, areas.Outside b → t'.mem b = t.mem b := by
  obtain ⟨t', hRun, hAfter⟩ :=
    (exec_simulates hFuel t.mem).runAll
      ⟨hHold, fun _ _ => rfl⟩ hMeaning
  exact ⟨t', hRun, hAfter.hHold, hAfter.hKept⟩

end Steps

------------------------------------------------------------
-- Two Buffers
------------------------------------------------------------

/- Four bytes at 0x1000, and three bytes at 0x2000. -/
def sampleAreas : Areas Bool where
  base name := if name then 0x2000 else 0x1000
  size name := if name then 3 else 4
  hSize name := by cases name <;> decide
  hApart name other hNe := by
    cases name with
    | false =>
        cases other with
        | false => exact absurd rfl hNe
        | true =>
            exact used_disjoint (by decide) (by decide)
    | true =>
        cases other with
        | false =>
            exact
              (used_disjoint (by decide) (by decide)).symm
        | true => exact absurd rfl hNe

def sampleContents : Bool → List Byte
| false => [0x61, 0, 0xFF, 0xFF]
| true => [0x68, 0x69, 0]

theorem sample_hold :
    sampleAreas.Hold usedMemory sampleContents where
  hLength name := by cases name <;> rfl
  hText name := by
    cases name with
    | false =>
        refine holdsText_cons.mpr ⟨rfl, ?_⟩
        refine holdsText_cons.mpr ⟨rfl, ?_⟩
        refine holdsText_cons.mpr ⟨rfl, ?_⟩
        exact holdsText_cons.mpr ⟨rfl, by simp [HoldsText]⟩
    | true =>
        refine holdsText_cons.mpr ⟨rfl, ?_⟩
        refine holdsText_cons.mpr ⟨rfl, ?_⟩
        exact holdsText_cons.mpr ⟨rfl, by simp [HoldsText]⟩

/- "hi" is appended to "a", and measured. -/
theorem calls_followMeaning_sample :
    ∃ t',
      runAll (StringCall.exec sampleAreas 4)
            [.strncat false true 2, .strlen false]
            (start usedMemory) =
          some ([.pointer 0x1000, .size 3], t') ∧
        sampleAreas.Hold t'.mem
          (Function.update sampleContents false
            [0x61, 0x68, 0x69, 0]) ∧
        ∀ b,
          sampleAreas.Outside b → t'.mem b = usedMemory b :=
  @calls_followMeaning Bool sampleAreas sampleContents _
    (start usedMemory) _ 4 (by decide) _
    [.pointer false, .size 3] sample_hold (by rfl)

end CHusky

end Chihuahua
