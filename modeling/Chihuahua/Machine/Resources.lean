import Mathlib.Tactic

/-
  Resources that a program acquires, uses and releases.

  A history lists what was done with them, the latest first.
  It is sound when nothing was used or released that was not
  held, and settled when nothing is held at its end.

  Main declarations:
    * `Action`, `step` and `held`
    * `Settled`
    * `held_append_of_none` and `held_append_congr`
    * `held_append`, the frame rule
-/

------------------------------------------------------------
-- Histories
------------------------------------------------------------

namespace Resources

variable {Handle : Type}

inductive Action (Handle : Type) where
| acquire (handle : Handle) (size : Nat)
| access (handle : Handle) (size : Nat)
| release (handle : Handle)
deriving DecidableEq, Repr

/- The resources in use, each with its size. -/
abbrev Held (Handle : Type) := List (Handle × Nat)

variable [DecidableEq Handle]

/- None where the action asks for more than is held. -/
def step
    (now : Held Handle) :
    Action Handle → Option (Held Handle)
| .acquire handle size => some ((handle, size) :: now)
| .access handle size =>
    if ∃ resource ∈ now,
        resource.1 = handle ∧ size ≤ resource.2 then
      some now
    else
      none
| .release handle =>
    if ∃ resource ∈ now, resource.1 = handle then
      some (now.eraseP (fun resource => resource.1 = handle))
    else
      none

/- What is held after a history, none if it is not sound. -/
def held : List (Action Handle) → Option (Held Handle)
| [] => some []
| action :: earlier =>
    (held earlier).bind (fun now => step now action)

/- Everything acquired was released exactly once. -/
def Settled (history : List (Action Handle)) : Prop :=
  held history = some []

instance
    (history : List (Action Handle)) :
    Decidable (Settled history) := by
  unfold Settled
  infer_instance

------------------------------------------------------------
-- One More Action
------------------------------------------------------------

@[simp] theorem held_nil :
    held ([] : List (Action Handle)) = some [] := rfl

@[simp] theorem settled_nil :
    Settled ([] : List (Action Handle)) := rfl

/- A history that is not sound stays so. -/
theorem held_append_of_none
    {earlier : List (Action Handle)}
    (hNone : held earlier = none)
    (later : List (Action Handle)) :
    held (later ++ earlier) = none := by
  induction later with
  | nil => exact hNone
  | cons action later ih =>
      rw [List.cons_append, held, ih]
      rfl

theorem held_acquire
    {earlier : List (Action Handle)}
    {now : Held Handle}
    (hNow : held earlier = some now)
    (handle : Handle)
    (size : Nat) :
    held (.acquire handle size :: earlier) =
      some ((handle, size) :: now) := by
  rw [held, hNow]
  rfl

theorem held_access
    {earlier : List (Action Handle)}
    {handle : Handle}
    {size wanted : Nat}
    {rest : Held Handle}
    (hNow : held earlier = some ((handle, size) :: rest))
    (hSize : wanted ≤ size) :
    held (.access handle wanted :: earlier) =
      some ((handle, size) :: rest) := by
  rw [held, hNow]
  exact
    if_pos
      ⟨(handle, size), List.mem_cons_self, rfl, hSize⟩

theorem held_release
    {earlier : List (Action Handle)}
    {handle : Handle}
    {size : Nat}
    {rest : Held Handle}
    (hNow : held earlier = some ((handle, size) :: rest)) :
    held (.release handle :: earlier) = some rest := by
  have hErase :
      ((handle, size) :: rest).eraseP
          (fun resource => resource.1 = handle) =
        rest :=
    List.eraseP_cons_of_pos (by simp)
  rw [held, hNow]
  refine
    (if_pos
      ⟨(handle, size), List.mem_cons_self, rfl⟩).trans ?_
  rw [hErase]

/- Nothing can be used or released where nothing is held. -/
theorem held_access_of_settled
    {earlier : List (Action Handle)}
    (hNow : Settled earlier)
    (handle : Handle)
    (size : Nat) :
    held (.access handle size :: earlier) = none := by
  have hNothing :
      ¬ ∃ resource ∈ ([] : Held Handle),
        resource.1 = handle ∧ size ≤ resource.2 := by
    simp
  have hEmpty : held earlier = some [] := hNow
  simp only [held, hEmpty, Option.bind_some, step, hNothing,
    if_false]

theorem held_release_of_settled
    {earlier : List (Action Handle)}
    (hNow : Settled earlier)
    (handle : Handle) :
    held (.release handle :: earlier) = none := by
  have hNothing :
      ¬ ∃ resource ∈ ([] : Held Handle),
        resource.1 = handle := by
    simp
  have hEmpty : held earlier = some [] := hNow
  simp only [held, hEmpty, Option.bind_some, step, hNothing,
    if_false]

------------------------------------------------------------
-- One History behind Another
------------------------------------------------------------

/- What is possible is still so while more is held. -/
theorem step_append
    {now later : Held Handle}
    {action : Action Handle}
    (hStep : step now action = some later)
    (more : Held Handle) :
    step (now ++ more) action = some (later ++ more) := by
  cases action with
  | acquire handle size =>
      cases hStep
      rfl
  | access handle size =>
      simp only [step] at hStep ⊢
      split_ifs at hStep with hUsed
      cases hStep
      obtain ⟨resource, hMem, hFits⟩ := hUsed
      exact
        if_pos ⟨resource, List.mem_append_left _ hMem, hFits⟩
  | release handle =>
      simp only [step] at hStep ⊢
      split_ifs at hStep with hUsed
      cases hStep
      obtain ⟨resource, hMem, hHandle⟩ := hUsed
      rw [
        if_pos
          ⟨resource, List.mem_append_left _ hMem, hHandle⟩,
        List.eraseP_append_left (by simpa using hHandle) more
          hMem]

/- Only what is held decides what later actions do. -/
theorem held_append_congr
    {earlier earlier' : List (Action Handle)}
    (hSame : held earlier = held earlier')
    (later : List (Action Handle)) :
    held (later ++ earlier) = held (later ++ earlier') := by
  induction later with
  | nil => exact hSame
  | cons action later ih =>
      rw [List.cons_append, List.cons_append, held, held, ih]

/-
  The frame rule: a history that is sound on its own leaves
  what was held before it alone.
-/
theorem held_append
    {later earlier : List (Action Handle)}
    {now more : Held Handle}
    (hLater : held later = some now)
    (hEarlier : held earlier = some more) :
    held (later ++ earlier) = some (now ++ more) := by
  induction later generalizing now with
  | nil =>
      cases hLater
      exact hEarlier
  | cons action later ih =>
      obtain ⟨before, hBefore, hStep⟩ :=
        Option.bind_eq_some_iff.mp hLater
      rw [List.cons_append, held, ih hBefore]
      exact step_append hStep more

end Resources
