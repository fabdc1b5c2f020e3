import Chihuahua.Paginator.LiveMode

/-
  Which virtual addresses are accepted, and what the indices
  of an accepted address tell about its page.

  The check of the upper bits leaves out bit 47, which is
  the highest bit of the first index. The translation does
  not check the address at all.

  Main declarations:
    * `bootRejects_iff` and `liveRejects_iff`
    * `indicesEqual_iff_samePage`
    * `AddressChecks` and `addressChecks_iff`
-/

------------------------------------------------------------
-- Acceptance
------------------------------------------------------------

namespace Chihuahua

namespace Paginator

open ByteMachine

/- The condition of a request is the processor's. -/
theorem canonical_iff_mmu
    (v : Addr) :
    Canonical v ↔ Mmu.Canonical v := by
  have hHigh :
      (v >>> 47).toNat = v.toNat / 2 ^ 47 := by
    rw [BitVec.toNat_ushiftRight, Nat.shiftRight_eq_div_pow]
  unfold Canonical
  rw [Mmu.canonical_iff, ← BitVec.toNat_inj,
    ← BitVec.toNat_inj, hHigh]
  rfl

/- A call is answered with `InvalidVirtAddress`. -/
def BootRejects
    (allocator : Nat → Addr)
    (rootPageTable v physAddress : Addr)
    (flags : PageFlags)
    (forceWrite : Bool)
    (s : PagingState) : Prop :=
  (mapPage (bootBus allocator) rootPageTable v physAddress
    flags forceWrite true s).1 = .InvalidVirtAddress

def LiveRejects
    (allocator : Nat → Addr)
    (rootFrame rootPageTable v physAddress : Addr)
    (flags : PageFlags)
    (forceWrite : Bool)
    (s : PagingState) : Prop :=
  ∃ t,
    mapPage (liveBus allocator rootFrame) rootPageTable v
        physAddress flags forceWrite false s =
      some (.InvalidVirtAddress, t)

theorem bootRejects_iff
    (allocator : Nat → Addr)
    (rootPageTable v physAddress : Addr)
    (flags : PageFlags)
    (forceWrite : Bool)
    (s : PagingState) :
    BootRejects allocator rootPageTable v physAddress flags
        forceWrite s ↔
      signExtensionOk v = false := by
  have hOutcome :=
    Walk.mapPage_outcome
      { allocator := allocator
        rootPageTable := rootPageTable
        virtAddress := v }
      s physAddress flags forceWrite
  unfold BootRejects
  dsimp only at hOutcome
  generalize
    mapPage (bootBus allocator) rootPageTable v physAddress
        flags forceWrite true s =
      result at hOutcome ⊢
  have hPassed
      {error : PageMapError}
      (hSign : signExtensionOk v = true)
      (hError : error ≠ .InvalidVirtAddress) :
      error = .InvalidVirtAddress ↔
        signExtensionOk v = false := by
    rw [hSign]
    exact iff_of_false hError (by decide)
  cases hOutcome with
  | invalid hSign => exact iff_of_true rfl hSign
  | mapped hSign _ _ => exact hPassed hSign nofun
  | noL3 hPasses _ => exact hPassed hPasses.hSign nofun
  | noL2 hPasses _ _ => exact hPassed hPasses.hSign nofun
  | noL1 hPasses _ _ _ => exact hPassed hPasses.hSign nofun
  | taken hPasses _ _ _ => exact hPassed hPasses.hSign nofun
  | stored hPasses _ _ => exact hPassed hPasses.hSign nofun

/- What a sequence of actions answers, its end answers. -/
theorem live_bind_eq_some
    {α β : Type}
    {x : LiveM α}
    {f : α → LiveM β}
    {s : PagingState}
    {r : β × PagingState}
    (hResult : (x >>= f) s = some r) :
    ∃ a t, x s = some (a, t) ∧ f a t = some r := by
  rw [live_bind] at hResult
  rcases Option.bind_eq_some_iff.mp hResult with
    ⟨⟨a, t⟩, hFirst, hRest⟩
  exact ⟨a, t, hFirst, hRest⟩

/- The store of a leaf never rejects an address. -/
theorem writeLeaf_live_ne_invalid
    {allocator : Nat → Addr}
    {rootFrame l1Table v physAddress : Addr}
    {flags : PageFlags}
    {forceWrite : Bool}
    {s t : PagingState} :
    writeLeaf (liveBus allocator rootFrame) l1Table v
        physAddress flags forceWrite s ≠
      some (.InvalidVirtAddress, t) := by
  intro hResult
  unfold writeLeaf at hResult
  rcases live_bind_eq_some hResult with
    ⟨existing, u, _, hRest⟩
  split_ifs at hRest
  · rw [live_pure] at hRest
    exact absurd (Option.some.inj hRest) (by simp)
  · rcases live_bind_eq_some hRest with ⟨_, u', _, hLast⟩
    rw [live_pure] at hLast
    exact absurd (Option.some.inj hLast) (by simp)

theorem tablesThenLeaf_live_ne_invalid
    {allocator : Nat → Addr}
    {rootFrame rootPageTable v physAddress : Addr}
    {flags : PageFlags}
    {forceWrite : Bool}
    {s t : PagingState} :
    (tablesFor (liveBus allocator rootFrame) rootPageTable
            false v >>= fun found =>
          match found with
          | none => pure PageMapError.AllocFailed
          | some entries =>
              writeLeaf (liveBus allocator rootFrame)
                (tablePointer false entries.entryForL1
                  (recursiveL1 v))
                v physAddress flags forceWrite)
        s ≠
      some (.InvalidVirtAddress, t) := by
  intro hResult
  rcases live_bind_eq_some hResult with
    ⟨found, u, _, hRest⟩
  cases found with
  | none =>
      have hFailed :
          some (PageMapError.AllocFailed, u) =
            some (PageMapError.InvalidVirtAddress, t) :=
        hRest
      exact absurd (Option.some.inj hFailed) (by simp)
  | some entries =>
      exact writeLeaf_live_ne_invalid hRest

theorem liveRejects_iff
    (allocator : Nat → Addr)
    (rootFrame rootPageTable v physAddress : Addr)
    (flags : PageFlags)
    (forceWrite : Bool)
    (s : PagingState) :
    LiveRejects allocator rootFrame rootPageTable v
        physAddress flags forceWrite s ↔
      signExtensionOk v = false := by
  unfold LiveRejects
  cases hSign : signExtensionOk v with
  | false =>
      refine iff_of_true ⟨s, ?_⟩ rfl
      exact mapPage_live_of_rejected _ _ _ _ _ hSign
  | true =>
      refine iff_of_false ?_ (by decide)
      rintro ⟨t, hResult⟩
      simp only [mapPage, indicesTooLarge_eq_false, hSign,
        not_true_eq_false, Bool.false_eq_true, if_false]
        at hResult
      cases forceWrite with
      | true =>
          simp only [not_true_eq_false, if_false] at hResult
          exact tablesThenLeaf_live_ne_invalid hResult
      | false =>
          simp only [Bool.false_eq_true, not_false_eq_true,
            if_true] at hResult
          rcases live_bind_eq_some hResult with
            ⟨existing, u, _, hRest⟩
          split_ifs at hRest
          · rw [live_pure] at hRest
            exact absurd (Option.some.inj hRest) (by simp)
          · exact tablesThenLeaf_live_ne_invalid hRest

------------------------------------------------------------
-- Indices
------------------------------------------------------------

/- Both addresses select the same entry of every table. -/
structure IndicesEqual (v w : Addr) : Prop where
  hL4 : l4Idx v = l4Idx w
  hL3 : l3Idx v = l3Idx w
  hL2 : l2Idx v = l2Idx w
  hL1 : l1Idx v = l1Idx w

theorem index_eq_iff
    (level : Nat)
    (v w : Addr) :
    Mmu.index level v = Mmu.index level w ↔
      v.toNat / 2 ^ Mmu.shift level % 512 =
        w.toNat / 2 ^ Mmu.shift level % 512 := by
  rw [← BitVec.toNat_inj, Mmu.index_toNat, Mmu.index_toNat]

theorem samePage_iff
    (v w : Addr) :
    SamePage v w ↔ v.toNat / 4096 = w.toNat / 4096 := by
  unfold SamePage P1_SHIFT
  rw [← BitVec.toNat_inj, BitVec.toNat_ushiftRight,
    BitVec.toNat_ushiftRight, Nat.shiftRight_eq_div_pow,
    Nat.shiftRight_eq_div_pow]

/-
  The indices are bits 12 to 47, and the bits above them are
  copies of bit 47.
-/
theorem indicesEqual_iff_samePage
    {v w : Addr}
    (hV : Mmu.Canonical v)
    (hW : Mmu.Canonical w) :
    IndicesEqual v w ↔ SamePage v w := by
  rw [Mmu.canonical_iff] at hV hW
  rw [samePage_iff]
  constructor
  · rintro ⟨hL4, hL3, hL2, hL1⟩
    rw [l4Idx_eq_index, l4Idx_eq_index, index_eq_iff,
      Mmu.shift] at hL4
    rw [l3Idx_eq_index, l3Idx_eq_index, index_eq_iff,
      Mmu.shift] at hL3
    rw [l2Idx_eq_index, l2Idx_eq_index, index_eq_iff,
      Mmu.shift] at hL2
    rw [l1Idx_eq_index, l1Idx_eq_index, index_eq_iff,
      Mmu.shift] at hL1
    -- bits 12 to 29 from two indices, 30 to 47 from two
    have hLow :
        v.toNat / 2 ^ 12 % 2 ^ 18 =
          w.toNat / 2 ^ 12 % 2 ^ 18 := by
      clear hV hW hL4 hL3
      omega
    have hHigh :
        v.toNat / 2 ^ 30 % 2 ^ 18 =
          w.toNat / 2 ^ 30 % 2 ^ 18 := by
      clear hV hW hL2 hL1 hLow
      omega
    clear hL4 hL3 hL2 hL1
    omega
  · intro hPage
    have hIndex :
        ∀ level, Mmu.index level v = Mmu.index level w := by
      intro level
      have hSplit :
          2 ^ Mmu.shift level = 4096 * 2 ^ (9 * level) := by
        unfold Mmu.shift
        rw [Nat.pow_add]
      rw [index_eq_iff, hSplit, ← Nat.div_div_eq_div_mul,
        ← Nat.div_div_eq_div_mul, hPage]
    exact ⟨hIndex 3, hIndex 2, hIndex 1, hIndex 0⟩

------------------------------------------------------------
-- All Three Checks
------------------------------------------------------------

/-
  Both modes reject exactly the addresses that are not
  canonical, and those are not translated in any state.
-/
structure AddressChecked (v : Addr) : Prop where
  hBoot :
    ∀ allocator rootPageTable physAddress flags forceWrite s,
      BootRejects allocator rootPageTable v physAddress
          flags forceWrite s ↔
        ¬ Mmu.Canonical v
  hLive :
    ∀ allocator rootFrame rootPageTable physAddress flags
      forceWrite s,
      LiveRejects allocator rootFrame rootPageTable v
          physAddress flags forceWrite s ↔
        ¬ Mmu.Canonical v
  hTranslate :
    (∀ allocator rootPageTable physAddress flags forceWrite s,
      BootRejects allocator rootPageTable v physAddress
        flags forceWrite s) →
      ∀ rootPageTable s,
        bootTranslate rootPageTable v s = 0

/- Two accepted addresses share a leaf only in one page. -/
def IndicesExact (v w : Addr) : Prop :=
  signExtensionOk v = true →
    signExtensionOk w = true →
      (IndicesEqual v w ↔ SamePage v w)

structure AddressChecks (v w : Addr) : Prop where
  hFirst : AddressChecked v
  hSecond : AddressChecked w
  hIndices : IndicesExact v w

/- Memory in which every word decodes to an address. -/
def fullMemory : PagingState where
  machine := { mem := fun _ => 0x80, stores := [] }
  frames := 0
  tables := []

private theorem fullMemory_word
    (a : Addr) :
    fullMemory.word a = 0x8080808080808080 := by
  apply Memory.load_eq_of_bytes (n := 8)
  intro i hi
  show (0x80 : Byte) = _
  interval_cases i <;> decide

theorem bootTranslate_fullMemory
    (rootPageTable v : Addr) :
    bootTranslate rootPageTable v fullMemory = 8 := by
  have hDecoded :
      getAddrFromEntry 0x8080808080808080 = 8 := by
    decide
  rw [← translateVirtToPhys_eq_bootTranslate (fun _ => 0),
    translateVirtToPhys_boot]
  simp only [fullMemory_word, hDecoded]
  rw [if_neg (by decide), if_neg (by decide),
    if_neg (by decide)]

theorem addressChecked_iff
    (v : Addr) :
    AddressChecked v ↔ Mmu.Canonical v := by
  constructor
  · rintro ⟨hBoot, _, hTranslate⟩
    by_contra hNot
    have hZero :=
      hTranslate
        (fun allocator rootPageTable physAddress flags
            forceWrite s =>
          (hBoot allocator rootPageTable physAddress flags
            forceWrite s).mpr hNot)
        0 fullMemory
    rw [bootTranslate_fullMemory] at hZero
    exact absurd hZero (by decide)
  · intro hCanonical
    have hSign :=
      signExtensionOk_of_canonical
        ((canonical_iff_mmu v).mpr hCanonical)
    have hAccepted : ¬ signExtensionOk v = false := by
      rw [hSign]
      decide
    constructor
    · intro allocator rootPageTable physAddress flags
        forceWrite s
      rw [bootRejects_iff]
      exact iff_of_false hAccepted (not_not.mpr hCanonical)
    · intro allocator rootFrame rootPageTable physAddress
        flags forceWrite s
      rw [liveRejects_iff]
      exact iff_of_false hAccepted (not_not.mpr hCanonical)
    · intro hRejects
      have hRejected :=
        hRejects (fun _ => 0) 0 0 PageFlags.Present true
          fullMemory
      rw [bootRejects_iff] at hRejected
      exact absurd hRejected hAccepted

/-
  The checks do what they are for exactly on the addresses
  that are canonical to the processor.
-/
theorem addressChecks_iff
    (v w : Addr) :
    AddressChecks v w ↔
      Mmu.Canonical v ∧ Mmu.Canonical w := by
  constructor
  · rintro ⟨hFirst, hSecond, _⟩
    exact
      ⟨(addressChecked_iff v).mp hFirst,
        (addressChecked_iff w).mp hSecond⟩
  · rintro ⟨hV, hW⟩
    refine
      ⟨(addressChecked_iff v).mpr hV,
        (addressChecked_iff w).mpr hW, ?_⟩
    intro _ _
    exact indicesEqual_iff_samePage hV hW

/-
  Two addresses that differ in their 16 upper bits, with bit
  47 set in both. The first one is not canonical. Both are
  accepted, and they have one leaf entry. An address that is
  rejected is translated all the same.
-/
theorem addressChecks_fails :
    ¬ AddressChecks 0x0000800000000000 0xFFFF800000000000 ∧
      signExtensionOk 0x0000800000000000 = true ∧
      signExtensionOk 0xFFFF800000000000 = true ∧
      IndicesEqual 0x0000800000000000 0xFFFF800000000000 ∧
      ¬ SamePage 0x0000800000000000 0xFFFF800000000000 ∧
      signExtensionOk 0x0001000000000000 = false ∧
      bootTranslate 0 0x0001000000000000 fullMemory = 8 := by
  refine
    ⟨?_, by decide, by decide,
      ⟨by decide, by decide, by decide, by decide⟩, ?_,
      by decide, bootTranslate_fullMemory _ _⟩
  · intro hChecks
    have hCanonical :=
      (addressChecked_iff _).mp hChecks.hFirst
    exact absurd hCanonical (by decide)
  · unfold SamePage
    decide

end Paginator

end Chihuahua
