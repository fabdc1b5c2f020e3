import Chihuahua.Paginator.RootController

/-
  The rights the processor derives for a mapped page from
  the entries on the way to it.

  Main declarations:
    * `AccessRight` and `AccessRight.GrantedBy`
    * `mappedEntries` and `EffectiveRight`
    * `effectiveRights_iff`
-/

------------------------------------------------------------
-- Rights
------------------------------------------------------------

namespace Chihuahua

namespace Paginator

open ByteMachine

inductive AccessRight where
| write
| user
| execute
deriving DecidableEq, Repr

namespace AccessRight

/- The flag that asks for the right. -/
def flag : AccessRight → PageFlags
| write => PageFlags.WriteBit
| user => PageFlags.UserModeAccessible
| execute => PageFlags.ExecuteBit

/- What the processor reads off one entry. -/
def GrantedBy
    (right : AccessRight)
    (entry : Word) : Prop :=
  entry &&& X86_64PageFlags.Present ≠ 0 ∧
    match right with
    | write => entry &&& X86_64PageFlags.WriteEnable ≠ 0
    | user =>
        entry &&& X86_64PageFlags.UserModeAccessible ≠ 0
    | execute =>
        entry &&& X86_64PageFlags.ExecuteDisable = 0

instance
    (right : AccessRight)
    (entry : Word) :
    Decidable (right.GrantedBy entry) := by
  unfold GrantedBy
  cases right <;> infer_instance

end AccessRight

/- A right holds only if every level grants it. -/
def EffectiveRight
    (right : AccessRight)
    (entries : List Word) : Prop :=
  ∀ entry ∈ entries, right.GrantedBy entry

/-
  The entries of the four levels a call went through; the
  leaf is read from the state after the call.
-/
def mappedEntries
    (allocator : Nat → Addr)
    (rootPageTable : Addr)
    (request : MapRequest)
    (s : PagingState) : List Word :=
  let w := request.walk allocator rootPageTable
  [w.entryForL3 s, w.entryForL2 s, w.entryForL1 s,
    (bootStep allocator rootPageTable request s).2.word
      (w.slotLeaf s)]

/- The words the call found where it looked for tables. -/
def foundEntries
    (allocator : Nat → Addr)
    (rootPageTable : Addr)
    (request : MapRequest)
    (s : PagingState) : List Word :=
  let w := request.walk allocator rootPageTable
  [w.foundL3 s, w.foundL2 s, w.foundL1 s]

------------------------------------------------------------
-- One Entry
------------------------------------------------------------

private theorem and_shiftLeft_one_ne_zero_iff
    (entry : Word)
    {k : Nat}
    (hk : k < 64) :
    entry &&& (1 : Word) <<< k ≠ 0 ↔
      entry.getLsbD k = true := by
  have hFlag (i : Nat) :
      ((1 : Word) <<< k).getLsbD i = decide (i = k) :=
    getLsbD_one_shiftLeft k i hk
  constructor
  · intro hNonzero
    by_contra hBit
    apply hNonzero
    apply BitVec.eq_of_getLsbD_eq
    intro i hi
    rw [BitVec.getLsbD_and, hFlag]
    by_cases hSame : i = k
    · subst hSame
      simpa using hBit
    · simp [hSame]
  · intro hBit hZero
    have hAnd :=
      congrArg (fun x : Word => x.getLsbD k) hZero
    simp only [BitVec.getLsbD_and, hFlag, hBit] at hAnd
    simp at hAnd

/- The rights of an entry, by its bits. -/
theorem grantedBy_iff
    (right : AccessRight)
    (entry : Word) :
    right.GrantedBy entry ↔
      entry.getLsbD 0 = true ∧
        match right with
        | .write => entry.getLsbD 1 = true
        | .user => entry.getLsbD 2 = true
        | .execute => entry.getLsbD 63 = false := by
  have hPresent :=
    and_shiftLeft_one_ne_zero_iff entry (k := 0) (by norm_num)
  have hWrite :=
    and_shiftLeft_one_ne_zero_iff entry (k := 1) (by norm_num)
  have hUser :=
    and_shiftLeft_one_ne_zero_iff entry (k := 2) (by norm_num)
  have hExecute :=
    and_shiftLeft_one_ne_zero_iff entry (k := 63)
      (by norm_num)
  unfold AccessRight.GrantedBy
  refine and_congr hPresent ?_
  cases right with
  | write => exact hWrite
  | user => exact hUser
  | execute =>
      rw [← Bool.not_eq_true, ← hExecute, not_not]
      rfl

/- A table grants writing to what lies below it, no more. -/
theorem grantedBy_tableEntry
    (right : AccessRight)
    (physAddr : Addr) :
    right.GrantedBy (tableEntry physAddr) ↔
      right = .write := by
  rw [grantedBy_iff]
  simp only [tableEntry, getLsbD_constructTableEntry,
    getLsbD_x86_64PageFlags]
  cases right <;> simp [PageFlags.Has, PageFlags.Present,
    PageFlags.WriteBit, PageFlags.UserModeAccessible,
    PageFlags.ExecuteBit]

/-
  A leaf grants what was asked for. Bit 51 of the address
  lands on the bit that disables execution.
-/
theorem grantedBy_leaf
    (right : AccessRight)
    (physAddress : Addr)
    {flags : PageFlags}
    (hPresent : flags.Has PageFlags.Present) :
    right.GrantedBy
        (constructTableEntry physAddress flags) ↔
      flags.Has right.flag ∧
        (right = .execute →
          physAddress.getLsbD 51 = false) := by
  rw [grantedBy_iff]
  simp only [getLsbD_constructTableEntry,
    getLsbD_x86_64PageFlags, hPresent]
  cases right <;> simp [AccessRight.flag]

------------------------------------------------------------
-- The Entries of a Call
------------------------------------------------------------

/- One level grants what its table was found to grant. -/
theorem Walk.BlockOutcome.grantedBy
    {w : Walk}
    {s : PagingState}
    {level : TableLevel}
    {slot : Addr}
    {idx : Word}
    {result : Option Word × PagingState}
    (hOutcome : w.BlockOutcome s level slot idx result)
    (hComplete : result.1 ≠ none)
    (right : AccessRight) :
    right.GrantedBy (result.1.getD 0) ↔
      if s.word slot = 0 then right = .write
      else right.GrantedBy (s.word slot) := by
  cases hOutcome with
  | present hFound =>
      rw [if_neg hFound, Option.getD_some]
  | failed hFound hAlloc => exact absurd rfl hComplete
  | created hFound hAlloc =>
      rw [if_pos hFound, Option.getD_some]
      exact grantedBy_tableEntry right _

private theorem forall_mem_three
    (P : Word → Prop)
    (a b c : Word) :
    (∀ x ∈ [a, b, c], P x) ↔ P a ∧ P b ∧ P c := by
  simp

private theorem forall_mem_four
    (P : Word → Prop)
    (a b c d : Word) :
    (∀ x ∈ [a, b, c, d], P x) ↔
      P a ∧ P b ∧ P c ∧ P d := by
  simp

section Calls

variable {allocator : Nat → Addr} {rootPageTable : Addr}
variable {request : MapRequest} {s : PagingState}

/- A call that succeeds has stored its leaf. -/
private theorem complete_of_noError
    (hSuccess :
      (bootStep allocator rootPageTable request s).1 =
        .NoError) :
    (request.walk allocator rootPageTable).Complete s ∧
      (bootStep allocator rootPageTable request s).2.word
          ((request.walk allocator rootPageTable).slotLeaf
            s) =
        constructTableEntry request.physAddress
          request.flags := by
  have hOutcome :=
    bootStep_outcome allocator rootPageTable request s
  rcases hResult :
      bootStep allocator rootPageTable request s with
    ⟨output, after⟩
  rw [hResult] at hOutcome hSuccess
  dsimp only at hSuccess
  subst hSuccess
  cases hOutcome with
  | stored _ hComplete _ =>
      refine ⟨hComplete, ?_⟩
      have hAligned :=
        (request.walk allocator
          rootPageTable).aligned_slotLeaf s
      rw [PagingState.word_storeLeaf _ _ hAligned hAligned,
        if_pos rfl]

/- The rights of a page, by what the call found. -/
theorem effectiveRight_mappedEntries
    (hSuccess :
      (bootStep allocator rootPageTable request s).1 =
        .NoError)
    (hPresent : request.flags.Has PageFlags.Present)
    (right : AccessRight) :
    EffectiveRight right
        (mappedEntries allocator rootPageTable request s) ↔
      request.flags.Has right.flag ∧
        (right = .execute →
          request.physAddress.getLsbD 51 = false) ∧
        ∀ found ∈
          foundEntries allocator rootPageTable request s,
          if found = 0 then right = .write
          else right.GrantedBy found := by
  rcases complete_of_noError hSuccess with
    ⟨hComplete, hLeaf⟩
  let w := request.walk allocator rootPageTable
  have hL3 :
      right.GrantedBy (w.entryForL3 s) ↔
        if w.foundL3 s = 0 then right = .write
        else right.GrantedBy (w.foundL3 s) :=
    (w.afterL3_outcome s).grantedBy hComplete.hL3 right
  have hL2 :
      right.GrantedBy (w.entryForL2 s) ↔
        if w.foundL2 s = 0 then right = .write
        else right.GrantedBy (w.foundL2 s) :=
    (w.afterL2_outcome s).grantedBy hComplete.hL2 right
  have hL1 :
      right.GrantedBy (w.entryForL1 s) ↔
        if w.foundL1 s = 0 then right = .write
        else right.GrantedBy (w.foundL1 s) :=
    (w.afterL1_outcome s).grantedBy hComplete.hL1 right
  have hWritten :=
    grantedBy_leaf right request.physAddress hPresent
  rw [← hLeaf] at hWritten
  calc
    EffectiveRight right
          (mappedEntries allocator rootPageTable request s) ↔
        right.GrantedBy (w.entryForL3 s) ∧
          right.GrantedBy (w.entryForL2 s) ∧
          right.GrantedBy (w.entryForL1 s) ∧
          right.GrantedBy
            ((bootStep allocator rootPageTable request
              s).2.word (w.slotLeaf s)) :=
      forall_mem_four _ _ _ _ _
    _ ↔ _ := by
      rw [hL3, hL2, hL1, hWritten, foundEntries,
        forall_mem_three]
      constructor
      · rintro ⟨h₃, h₂, h₁, hAsked, hBit⟩
        exact ⟨hAsked, hBit, h₃, h₂, h₁⟩
      · rintro ⟨hAsked, hBit, h₃, h₂, h₁⟩
        exact ⟨h₃, h₂, h₁, hAsked, hBit⟩

/-
  A page has the rights its flags ask for exactly when each
  of them is granted by every table the call found, no table
  below which it is needed had to be created (unless it is
  the right to write), and the frame of executable memory
  lies below the bit that disables execution.
-/
theorem effectiveRights_iff
    (hSuccess :
      (bootStep allocator rootPageTable request s).1 =
        .NoError)
    (hPresent : request.flags.Has PageFlags.Present) :
    (∀ right,
        EffectiveRight right
            (mappedEntries allocator rootPageTable request
              s) ↔
          request.flags.Has right.flag) ↔
      ∀ right : AccessRight,
        request.flags.Has right.flag →
          (right = .execute →
            request.physAddress.getLsbD 51 = false) ∧
            ∀ found ∈
              foundEntries allocator rootPageTable request s,
              if found = 0 then right = .write
              else right.GrantedBy found := by
  apply forall_congr'
  intro right
  rw [effectiveRight_mappedEntries hSuccess hPresent right]
  tauto

end Calls

/- The first call of the boot loader, for a page of code. -/
def sampleCodeRequest : MapRequest :=
  .mapPage samplePage 0x300000
    (PageFlags.Present ||| PageFlags.ExecuteBit) true

private theorem sample_noError
    {request : MapRequest}
    (hVirt : request.virtAddress = samplePage)
    (hForce : request.forceWrite = true) :
    (bootStep sampleAllocator sampleRoot request
      (sampleStart 0)).1 = .NoError := by
  have hSign :
      signExtensionOk request.virtAddress = true := by
    rw [hVirt]
    decide
  rw [bootStep_of_rootClear sample_succeeds sample_rootClear
    hSign]
  dsimp only
  rw [if_neg (by simp [hForce])]

theorem effectiveRights_iff_sample :
    (∀ right,
        EffectiveRight right
            (mappedEntries sampleAllocator sampleRoot
              sampleRequest (sampleStart 0)) ↔
          sampleRequest.flags.Has right.flag) ↔
      ∀ right : AccessRight,
        sampleRequest.flags.Has right.flag →
          (right = .execute →
            sampleRequest.physAddress.getLsbD 51 = false) ∧
            ∀ found ∈
              foundEntries sampleAllocator sampleRoot
                sampleRequest (sampleStart 0),
              if found = 0 then right = .write
              else right.GrantedBy found :=
  effectiveRights_iff (sample_noError rfl rfl) (by decide)

/- Code is mapped with success and cannot be executed. -/
theorem effectiveRights_fail :
    ZeroedRoot sampleRoot (sampleStart 0) ∧
      (bootStep sampleAllocator sampleRoot sampleCodeRequest
        (sampleStart 0)).1 = .NoError ∧
      sampleCodeRequest.flags.Has PageFlags.Present ∧
      ¬ sampleCodeRequest.flags.Has PageFlags.IsHugePage ∧
      sampleCodeRequest.flags.Has PageFlags.ExecuteBit ∧
      ¬ EffectiveRight .execute
        (mappedEntries sampleAllocator sampleRoot
          sampleCodeRequest (sampleStart 0)) := by
  have hSuccess :
      (bootStep sampleAllocator sampleRoot sampleCodeRequest
        (sampleStart 0)).1 = .NoError :=
    sample_noError rfl rfl
  refine
    ⟨sample_zeroedRoot 0, hSuccess, by decide, by decide,
      by decide, ?_⟩
  rw [effectiveRight_mappedEntries hSuccess (by decide)]
  rintro ⟨_, _, hFound⟩
  have hRootEntry :
      (sampleCodeRequest.walk sampleAllocator
        sampleRoot).foundL3 (sampleStart 0) = 0 :=
    (sample_zeroedRoot 0).hZero _ (l4Idx_lt _)
  have hL3 := hFound _ List.mem_cons_self
  rw [if_pos hRootEntry] at hL3
  cases hL3

end Paginator

end Chihuahua
