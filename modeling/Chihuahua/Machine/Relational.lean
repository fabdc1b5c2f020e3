import Chihuahua.Machine.Runs

/-
  Computations that cannot tell related states apart: they
  give the same result, and end in related states.

  Main declarations:
    * `SameResult`
    * `sameResult_pure`, `SameResult.bind` and
      `SameResult.ite`
    * `sameResult_run`
-/

------------------------------------------------------------
-- Computations
------------------------------------------------------------

namespace Relational

open Transition

variable {State State' α β : Type}

def SameResult
    (Related : State → State' → Prop)
    (x : StateM State α)
    (y : StateM State' α) : Prop :=
  ∀ s t,
    Related s t →
      (x s).1 = (y t).1 ∧ Related (x s).2 (y t).2

variable {Related : State → State' → Prop}

theorem sameResult_pure (a : α) :
    SameResult Related (pure a) (pure a) :=
  fun _ _ hRelated => ⟨rfl, hRelated⟩

/- What follows may depend on the result. -/
theorem SameResult.bind
    {x : StateM State α}
    {y : StateM State' α}
    {f : α → StateM State β}
    {g : α → StateM State' β}
    (hFirst : SameResult Related x y)
    (hThen : ∀ a, SameResult Related (f a) (g a)) :
    SameResult Related (x >>= f) (y >>= g) := by
  intro s t hRelated
  obtain ⟨hSame, hAfter⟩ := hFirst s t hRelated
  have hNext := hThen (x s).1 (x s).2 (y t).2 hAfter
  show
    (f (x s).1 (x s).2).1 = (g (y t).1 (y t).2).1 ∧
      Related (f (x s).1 (x s).2).2 (g (y t).1 (y t).2).2
  rw [← hSame]
  exact hNext

theorem SameResult.ite
    {condition : Prop}
    [Decidable condition]
    {x x' : StateM State α}
    {y y' : StateM State' α}
    (hThen : condition → SameResult Related x y)
    (hElse : ¬ condition → SameResult Related x' y') :
    SameResult Related
      (if condition then x else x')
      (if condition then y else y') := by
  split_ifs with hCondition
  · exact hThen hCondition
  · exact hElse hCondition

------------------------------------------------------------
-- Runs
------------------------------------------------------------

/- From related states a run gives the same outputs. -/
theorem sameResult_run
    {Input Output : Type}
    {step : Input → State → Output × State}
    {step' : Input → State' → Output × State'}
    (hStep :
      ∀ input,
        SameResult Related (step input) (step' input))
    (inputs : List Input)
    {s : State}
    {t : State'}
    (hRelated : Related s t) :
    (run step inputs s).map Step.output =
        (run step' inputs t).map Step.output ∧
      Related (final step inputs s)
        (final step' inputs t) := by
  induction inputs generalizing s t with
  | nil => exact ⟨rfl, hRelated⟩
  | cons input inputs ih =>
      obtain ⟨hOutput, hAfter⟩ := hStep input s t hRelated
      obtain ⟨hOutputs, hFinal⟩ := ih hAfter
      refine ⟨?_, hFinal⟩
      rw [run, run, List.map_cons, List.map_cons, hOutputs]
      exact congrArg (· :: _) hOutput

end Relational
