import Mathlib.Tactic

/-
  Runs of steps that may fail, and forward simulation of
  one such system by another.

  Main declarations:
    * `runAll` and `runAll_cons_eq_some`
    * `Simulates` and `Simulates.runAll`
-/

------------------------------------------------------------
-- Runs That May Fail
------------------------------------------------------------

namespace Simulation

variable {Input Output Output' State State' : Type}

/- The outputs and the last state, if no step fails. -/
def runAll
    (step : Input → State → Option (Output × State)) :
    List Input → State → Option (List Output × State)
| [], s => some ([], s)
| input :: inputs, s =>
    (step input s).bind
      (fun taken =>
        (runAll step inputs taken.2).map
          (fun rest => (taken.1 :: rest.1, rest.2)))

variable {step : Input → State → Option (Output × State)}

theorem runAll_cons_eq_some
    {input : Input}
    {inputs : List Input}
    {s t : State}
    {outputs : List Output} :
    runAll step (input :: inputs) s = some (outputs, t) ↔
      ∃ output mid rest,
        step input s = some (output, mid) ∧
          runAll step inputs mid = some (rest, t) ∧
          outputs = output :: rest := by
  rw [runAll]
  constructor
  · intro hRun
    obtain ⟨⟨output, mid⟩, hStep, hRest⟩ :=
      Option.bind_eq_some_iff.mp hRun
    obtain ⟨⟨rest, last⟩, hLater, hResult⟩ :=
      Option.map_eq_some_iff.mp hRest
    obtain ⟨rfl, rfl⟩ := Prod.mk.inj hResult
    exact ⟨output, mid, rest, hStep, hLater, rfl⟩
  · rintro ⟨output, mid, rest, hStep, hLater, rfl⟩
    rw [hStep, Option.bind_some, hLater, Option.map_some]

------------------------------------------------------------
-- Forward Simulation
------------------------------------------------------------

/-
  Wherever the first system takes a step, the second one
  takes it as well, with the same output as seen by `view`,
  and related states stay related.
-/
def Simulates
    (Related : State → State' → Prop)
    (view : Output → Output')
    (step : Input → State → Option (Output × State))
    (step' : Input → State' → Option (Output' × State')) :
    Prop :=
  ∀ input s t s' output,
    Related s s' →
      step input s = some (output, t) →
        ∃ t',
          step' input s' = some (view output, t') ∧
            Related t t'

theorem Simulates.runAll
    {Related : State → State' → Prop}
    {view : Output → Output'}
    {step' : Input → State' → Option (Output' × State')}
    (hStep : Simulates Related view step step')
    {inputs : List Input}
    {s t : State}
    {s' : State'}
    {outputs : List Output}
    (hRelated : Related s s')
    (hRun : runAll step inputs s = some (outputs, t)) :
    ∃ t',
      Simulation.runAll step' inputs s' =
          some (outputs.map view, t') ∧
        Related t t' := by
  induction inputs generalizing s s' outputs with
  | nil =>
      obtain ⟨rfl, rfl⟩ := Prod.mk.inj (Option.some.inj hRun)
      exact ⟨s', rfl, hRelated⟩
  | cons input inputs ih =>
      obtain ⟨output, mid, rest, hTaken, hLater, rfl⟩ :=
        runAll_cons_eq_some.mp hRun
      obtain ⟨mid', hTaken', hMid⟩ :=
        hStep input s mid s' output hRelated hTaken
      obtain ⟨t', hLater', hAfter⟩ := ih hMid hLater
      refine ⟨t', ?_, hAfter⟩
      exact
        runAll_cons_eq_some.mpr
          ⟨view output, mid', _, hTaken', hLater', rfl⟩

end Simulation
