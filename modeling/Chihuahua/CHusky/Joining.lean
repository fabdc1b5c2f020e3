import Chihuahua.CHusky.Buffers

/-
  Strings joined in a buffer, one `strncat` after the other.

  Main declarations:
    * `joinCalls` and `joined`
    * `meaning_strncat`
    * `joinCalls_joins`
-/

------------------------------------------------------------
-- The Front of a Buffer
------------------------------------------------------------

namespace Chihuahua

namespace CHusky

open ByteMachine Tracked Simulation

/- Any bytes may follow the NUL. -/
theorem textOf_append_nul
    {text : List Byte}
    (hNonzero : ∀ c ∈ text, c ≠ 0)
    (rest : List Byte) :
    textOf (text ++ 0 :: rest) = some text := by
  induction text with
  | nil => rw [List.nil_append, textOf, if_pos rfl]
  | cons c text ih =>
      rw [List.forall_mem_cons] at hNonzero
      rw [List.cons_append, textOf, if_neg hNonzero.1,
        ih hNonzero.2, Option.map_some]

/- The text, the NUL, and what is behind it. -/
theorem eq_append_of_textOf
    {bytes text : List Byte}
    (hText : textOf bytes = some text) :
    (∀ c ∈ text, c ≠ 0) ∧
      ∃ rest, bytes = text ++ 0 :: rest := by
  induction bytes generalizing text with
  | nil => exact absurd hText (by simp [textOf])
  | cons c bytes ih =>
      rw [textOf] at hText
      split_ifs at hText with hNul
      · obtain rfl := Option.some.inj hText
        exact ⟨by simp, bytes, by rw [hNul]; rfl⟩
      · obtain ⟨tail, hTail, rfl⟩ :=
          Option.map_eq_some_iff.mp hText
        obtain ⟨hNonzero, rest, rfl⟩ := ih hTail
        refine ⟨?_, rest, rfl⟩
        exact List.forall_mem_cons.mpr ⟨hNul, hNonzero⟩

/- A string is read up to its NUL or up to the bound. -/
theorem frontOf_of_textOf
    {bytes text : List Byte}
    (hText : textOf bytes = some text)
    (n : Nat) :
    frontOf n bytes = some (text.take n) := by
  induction bytes generalizing text n with
  | nil => exact absurd hText (by simp [textOf])
  | cons c bytes ih =>
      cases n with
      | zero => rw [frontOf, List.take_zero]
      | succ n =>
          rw [textOf] at hText
          rw [frontOf]
          split_ifs at hText ⊢ with hNul
          · obtain rfl := Option.some.inj hText
            rw [List.take_nil]
          · obtain ⟨tail, hTail, rfl⟩ :=
              Option.map_eq_some_iff.mp hText
            rw [ih hTail, Option.map_some,
              List.take_succ_cons]

/- Written over the NUL, a string makes a longer one. -/
theorem textOf_overlay
    {bytes front back : List Byte}
    (hFront : textOf bytes = some front)
    (hBack : ∀ c ∈ back, c ≠ 0) :
    textOf (overlay bytes front.length (back ++ [0])) =
      some (front ++ back) := by
  obtain ⟨hNonzero, rest, rfl⟩ := eq_append_of_textOf hFront
  unfold overlay
  rw [List.take_left' rfl, ← List.append_assoc,
    List.append_assoc (front ++ back)]
  apply textOf_append_nul
  intro c hMember
  rcases List.mem_append.mp hMember with hLeft | hRight
  · exact hNonzero c hLeft
  · exact hBack c hRight

------------------------------------------------------------
-- Joining
------------------------------------------------------------

variable {Name : Type}

/-
  The destination is made an empty string, and each source
  is appended to it, up to a bound.
-/
def joinCalls
    (dest : Name)
    (num : BitVec 64)
    (sources : List (Name × List Byte)) :
    List (StringCall Name) :=
  .memset dest 0 1 ::
    sources.map (fun source => .strncat dest source.1 num)

/- The texts in a row, each up to the bound. -/
def joined
    (num : BitVec 64)
    (sources : List (Name × List Byte)) : List Byte :=
  sources.flatMap (fun source => source.2.take num.toNat)

/- Other buffers than the destination, with these strings. -/
def HoldsSources
    (dest : Name)
    (sources : List (Name × List Byte))
    (contents : Name → List Byte) : Prop :=
  ∀ source ∈ sources,
    source.1 ≠ dest ∧
      textOf (contents source.1) = some source.2

section Joining

variable {dest : Name} {num : BitVec 64}
variable {contents : Name → List Byte} {front : List Byte}

theorem HoldsSources.congr
    {sources : List (Name × List Byte)}
    {contents' : Name → List Byte}
    (hSources : HoldsSources dest sources contents)
    (hOthers :
      ∀ other, other ≠ dest →
        contents' other = contents other) :
    HoldsSources dest sources contents' := by
  intro source hMember
  obtain ⟨hNe, hText⟩ := hSources source hMember
  rw [hOthers _ hNe]
  exact ⟨hNe, hText⟩

variable [DecidableEq Name]

theorem meaning_strncat
    {source : Name}
    {text : List Byte}
    (hNe : source ≠ dest)
    (hFront : textOf (contents dest) = some front)
    (hText : textOf (contents source) = some text)
    (hRoom :
      front.length + (text.take num.toNat).length <
        (contents dest).length) :
    ∃ contents',
      (StringCall.strncat dest source num).meaning contents =
          some (.pointer dest, contents') ∧
        textOf (contents' dest) =
          some (front ++ text.take num.toNat) ∧
        (contents' dest).length = (contents dest).length ∧
        ∀ other, other ≠ dest →
          contents' other = contents other := by
  have hNonzero := (eq_append_of_textOf hText).1
  have hFits :
      front.length +
          (text.take num.toNat ++ ([0] : List Byte)).length ≤
        (contents dest).length := by
    rw [List.length_append, List.length_singleton]
    omega
  refine
    ⟨Function.update contents dest
        (overlay (contents dest) front.length
          (text.take num.toNat ++ [0])), ?_, ?_, ?_, ?_⟩
  · rw [StringCall.meaning]
    rw [if_neg hNe.symm, hFront, Option.bind_some,
      frontOf_of_textOf hText, Option.bind_some, written,
      if_pos hFits]
  · rw [Function.update_self]
    apply textOf_overlay hFront
    exact fun c hMember =>
      hNonzero c (List.mem_of_mem_take hMember)
  · rw [Function.update_self, length_overlay hFits]
  · exact fun other hOther => Function.update_of_ne hOther _ _

/- One call after the other, by induction on the sources. -/
theorem meaning_strncats
    {sources : List (Name × List Byte)}
    (hSources : HoldsSources dest sources contents)
    (hFront : textOf (contents dest) = some front)
    (hRoom :
      front.length + (joined num sources).length <
        (contents dest).length) :
    ∃ results contents',
      runAll StringCall.meaning
            (sources.map
              (fun source => .strncat dest source.1 num))
            contents =
          some (results, contents') ∧
        textOf (contents' dest) =
          some (front ++ joined num sources) ∧
        ∀ other, other ≠ dest →
          contents' other = contents other := by
  induction sources generalizing contents front with
  | nil =>
      refine ⟨[], contents, rfl, ?_, fun _ _ => rfl⟩
      rw [hFront, joined, List.flatMap_nil, List.append_nil]
  | cons source sources ih =>
      obtain ⟨hNe, hText⟩ :=
        hSources source List.mem_cons_self
      have hSplit :
          joined num (source :: sources) =
            source.2.take num.toNat ++ joined num sources :=
        List.flatMap_cons
      rw [hSplit, List.length_append] at hRoom
      have hFirst :
          front.length + (source.2.take num.toNat).length <
            (contents dest).length := by
        omega
      obtain ⟨mid, hCall, hMid, hLength, hOthers⟩ :=
        meaning_strncat hNe hFront hText hFirst
      have hTail : HoldsSources dest sources mid :=
        HoldsSources.congr
          (fun other hMember =>
            hSources other (List.mem_cons_of_mem _ hMember))
          hOthers
      obtain ⟨results, contents', hRun, hAll, hKept⟩ :=
        ih hTail hMid
          (by rw [hLength, List.length_append]; omega)
      refine
        ⟨.pointer dest :: results, contents', ?_, ?_, ?_⟩
      · exact
          runAll_cons_eq_some.mpr
            ⟨_, mid, results, hCall, hRun, rfl⟩
      · rw [hAll, hSplit, List.append_assoc]
      · intro other hOther
        rw [hKept other hOther, hOthers other hOther]

theorem meaning_clear
    (hSome : 0 < (contents dest).length) :
    ∃ contents',
      (StringCall.memset dest 0 1).meaning contents =
          some (.pointer dest, contents') ∧
        textOf (contents' dest) = some [] ∧
        (contents' dest).length = (contents dest).length ∧
        ∀ other, other ≠ dest →
          contents' other = contents other := by
  have hFits :
      0 + ([0] : List Byte).length ≤
        (contents dest).length := by
    rw [Nat.zero_add]
    exact hSome
  refine
    ⟨Function.update contents dest
        (overlay (contents dest) 0 [0]), ?_, ?_, ?_, ?_⟩
  · exact if_pos hFits
  · rw [Function.update_self]
    rfl
  · rw [Function.update_self, length_overlay hFits]
  · exact fun other hOther => Function.update_of_ne hOther _ _

theorem meaning_joinCalls
    {sources : List (Name × List Byte)}
    (hSources : HoldsSources dest sources contents)
    (hRoom :
      (joined num sources).length <
        (contents dest).length) :
    ∃ results contents',
      runAll StringCall.meaning (joinCalls dest num sources)
            contents =
          some (results, contents') ∧
        textOf (contents' dest) =
          some (joined num sources) ∧
        HoldsSources dest sources contents' := by
  have hSome : 0 < (contents dest).length := by
    omega
  obtain ⟨mid, hCall, hMid, hLength, hOthers⟩ :=
    meaning_clear hSome
  have hRoom' :
      ([] : List Byte).length +
          (joined num sources).length <
        (mid dest).length := by
    rw [hLength, List.length_nil]
    omega
  obtain ⟨results, contents', hRun, hAll, hKept⟩ :=
    meaning_strncats (hSources.congr hOthers) hMid hRoom'
  refine ⟨.pointer dest :: results, contents', ?_, ?_, ?_⟩
  · exact
      runAll_cons_eq_some.mpr
        ⟨_, mid, results, hCall, hRun, rfl⟩
  · rw [hAll, List.nil_append]
  · exact (hSources.congr hOthers).congr hKept

/-
  Strings of any number of buffers are joined in one that
  has room for all of them and a NUL: all calls return, the
  string is there, and the sources are as they were.
-/
theorem joinCalls_joins
    {areas : Areas Name}
    {fuel : Nat}
    {t : Tracked}
    {sources : List (Name × List Byte)}
    (hFuel : ∀ name, areas.size name ≤ fuel)
    (hHold : areas.Hold t.mem contents)
    (hSources : HoldsSources dest sources contents)
    (hRoom :
      (joined num sources).length < areas.size dest) :
    ∃ results t',
      runAll (StringCall.exec areas fuel)
            (joinCalls dest num sources) t =
          some (results, t') ∧
        HoldsString t'.mem (areas.base dest)
          (joined num sources) ∧
        (∀ source ∈ sources,
          HoldsString t'.mem (areas.base source.1)
            source.2) ∧
        ∀ b, areas.Outside b → t'.mem b = t.mem b := by
  rw [← hHold.hLength] at hRoom
  obtain ⟨results, contents', hMeaning, hJoined, hKept⟩ :=
    meaning_joinCalls hSources hRoom
  obtain ⟨t', hRun, hAfter⟩ :=
    (exec_simulates hFuel t.mem).runAll
      ⟨hHold, fun _ _ => rfl⟩ hMeaning
  refine
    ⟨_, t', hRun, (hAfter.string hJoined).1, ?_,
      hAfter.hKept⟩
  intro source hMember
  exact (hAfter.string (hKept source hMember).2).1

end Joining

/- Twice "hi", one byte of each. -/
theorem joinCalls_joins_sample :
    ∃ results t',
      runAll (StringCall.exec sampleAreas 4)
            (joinCalls false 1
              [(true, [0x68, 0x69]), (true, [0x68, 0x69])])
            (start usedMemory) =
          some (results, t') ∧
        HoldsString t'.mem 0x1000 [0x68, 0x68] := by
  have hSources :
      HoldsSources false
        [(true, [0x68, 0x69]), (true, [0x68, 0x69])]
        sampleContents := by
    unfold HoldsSources
    decide
  obtain ⟨results, t', hRun, hString, _⟩ :=
    @joinCalls_joins Bool false 1 _ _ sampleAreas 4
      (start usedMemory) _ (by decide) sample_hold hSources
      (by decide)
  exact ⟨results, t', hRun, hString⟩

end CHusky

end Chihuahua
