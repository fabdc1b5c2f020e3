import Mathlib.Tactic

/-
  Runs of a deterministic system that takes one input at a
  time and answers each with an output.

  Main declarations:
    * `Step`, `run` and `final`
    * `Reached`
    * `step_of_mem_run`, `exists_step`, `run_append` and
      `split_of_mem_run`
    * `history_invariant`, `run_invariant` and
      `reached_invariant`
    * `measure_le_final`
    * `Fueled.result_unique`
-/

------------------------------------------------------------
-- Runs
------------------------------------------------------------

namespace Transition

/- One step of a run, with the states around it. -/
structure Step (State Input Output : Type) where
  before : State
  input : Input
  output : Output
  after : State

variable {State Input Output : Type}

/- The steps the system takes on a list of inputs. -/
def run
    (step : Input → State → Output × State) :
    List Input → State → List (Step State Input Output)
| [], _ => []
| input :: inputs, s =>
    { before := s
      input := input
      output := (step input s).1
      after := (step input s).2 } ::
      run step inputs (step input s).2

/- The state at the end of a run. -/
def final
    (step : Input → State → Output × State) :
    List Input → State → State
| [], s => s
| input :: inputs, s =>
    final step inputs (step input s).2

/- The states a run goes through, its ends included. -/
def Reached
    (step : Input → State → Output × State)
    (inputs : List Input)
    (s t : State) : Prop :=
  t = s ∨ ∃ taken ∈ run step inputs s, taken.after = t

------------------------------------------------------------
-- Shape of a Run
------------------------------------------------------------

variable {step : Input → State → Output × State}

/- A step of a run is a step of the system. -/
theorem step_of_mem_run
    {inputs : List Input}
    {s : State}
    {taken : Step State Input Output}
    (hMember : taken ∈ run step inputs s) :
    taken.input ∈ inputs ∧
      step taken.input taken.before =
        (taken.output, taken.after) := by
  induction inputs generalizing s with
  | nil => simp [run] at hMember
  | cons input inputs ih =>
      rcases List.mem_cons.mp hMember with rfl | hLater
      · exact ⟨by simp, rfl⟩
      · rcases ih hLater with ⟨hInput, hStep⟩
        exact ⟨List.mem_cons_of_mem _ hInput, hStep⟩

/- A step leads to the state after it. -/
theorem after_of_mem_run
    {inputs : List Input}
    {s : State}
    {taken : Step State Input Output}
    (hMember : taken ∈ run step inputs s) :
    (step taken.input taken.before).2 = taken.after :=
  congrArg Prod.snd (step_of_mem_run hMember).2

theorem mem_run_of_split
    {inputs : List Input}
    {s : State}
    {past future : List (Step State Input Output)}
    {taken : Step State Input Output}
    (hRun : run step inputs s = past ++ taken :: future) :
    taken ∈ run step inputs s := by
  rw [hRun]
  exact List.mem_append_right _ List.mem_cons_self

/- Every input is taken in some step. -/
theorem exists_step
    {inputs : List Input}
    {s : State}
    {input : Input}
    (hInput : input ∈ inputs) :
    ∃ taken ∈ run step inputs s, taken.input = input := by
  induction inputs generalizing s with
  | nil => simp at hInput
  | cons first inputs ih =>
      rcases List.mem_cons.mp hInput with rfl | hLater
      · exact ⟨_, List.mem_cons_self, rfl⟩
      · rcases ih hLater with ⟨taken, hTaken, hSame⟩
        exact ⟨taken, List.mem_cons_of_mem _ hTaken, hSame⟩

/- A step starts in a state the run goes through. -/
theorem reached_before
    {inputs : List Input}
    {s : State}
    {taken : Step State Input Output}
    (hMember : taken ∈ run step inputs s) :
    Reached step inputs s taken.before := by
  induction inputs generalizing s with
  | nil => simp [run] at hMember
  | cons input inputs ih =>
      rcases List.mem_cons.mp hMember with rfl | hLater
      · exact Or.inl rfl
      · right
        rcases ih hLater with hEq | hBefore
        · exact ⟨_, List.mem_cons_self, hEq.symm⟩
        · rcases hBefore with ⟨other, hOther, hAfter⟩
          exact
            ⟨other, List.mem_cons_of_mem _ hOther, hAfter⟩

theorem reached_after
    {inputs : List Input}
    {s : State}
    {taken : Step State Input Output}
    (hMember : taken ∈ run step inputs s) :
    Reached step inputs s taken.after :=
  Or.inr ⟨taken, hMember, rfl⟩

theorem reached_final
    (inputs : List Input)
    (s : State) :
    Reached step inputs s (final step inputs s) := by
  induction inputs generalizing s with
  | nil => exact Or.inl rfl
  | cons input inputs ih =>
      right
      rcases ih (step input s).2 with hEq | hLater
      · exact ⟨_, List.mem_cons_self, hEq.symm⟩
      · rcases hLater with ⟨taken, hTaken, hAfter⟩
        exact
          ⟨taken, List.mem_cons_of_mem _ hTaken, hAfter⟩

/- A run on more inputs goes on where the first one ends. -/
theorem run_append
    (inputs inputs' : List Input)
    (s : State) :
    run step (inputs ++ inputs') s =
      run step inputs s ++
        run step inputs' (final step inputs s) := by
  induction inputs generalizing s with
  | nil => rfl
  | cons input inputs ih =>
      rw [List.cons_append, run, run, ih, List.cons_append]
      rfl

/- The inputs before and after a step of a run. -/
theorem split_of_mem_run
    {inputs : List Input}
    {s : State}
    {taken : Step State Input Output}
    (hMember : taken ∈ run step inputs s) :
    ∃ early late,
      inputs = early ++ taken.input :: late ∧
        final step early s = taken.before := by
  induction inputs generalizing s with
  | nil => simp [run] at hMember
  | cons input inputs ih =>
      rcases List.mem_cons.mp hMember with rfl | hLater
      · exact ⟨[], inputs, rfl, rfl⟩
      · rcases ih hLater with ⟨early, late, rfl, hFinal⟩
        exact ⟨input :: early, late, rfl, hFinal⟩

------------------------------------------------------------
-- Invariants
------------------------------------------------------------

/-
  The induction rule for runs, about a state and the steps
  that led to it: what holds at the start and is preserved
  by each step the run takes holds before each of them.
-/
theorem history_invariant
    (Invariant :
      List (Step State Input Output) → State → Prop)
    {inputs : List Input}
    {s : State}
    (hStart : Invariant [] s)
    (hPreserved :
      ∀ past, ∀ taken ∈ run step inputs s,
        Invariant past taken.before →
          Invariant (past ++ [taken]) taken.after)
    {past future : List (Step State Input Output)}
    {taken : Step State Input Output}
    (hRun : run step inputs s = past ++ taken :: future) :
    Invariant past taken.before := by
  induction inputs generalizing s past Invariant with
  | nil => simp [run] at hRun
  | cons input inputs ih =>
      cases past with
      | nil =>
          simp only [run, List.nil_append,
            List.cons.injEq] at hRun
          rw [← hRun.1]
          exact hStart
      | cons first past =>
          simp only [run, List.cons_append,
            List.cons.injEq] at hRun
          rcases hRun with ⟨rfl, hLater⟩
          refine
            ih (fun past t => Invariant (_ :: past) t)
              (hPreserved [] _ List.mem_cons_self hStart)
              ?_ hLater
          intro middle other hOther hBefore
          exact
            hPreserved (_ :: middle) other
              (List.mem_cons_of_mem _ hOther) hBefore

/- The same rule for what is said about a state alone. -/
theorem run_invariant
    (Invariant : State → Prop)
    {inputs : List Input}
    {s : State}
    (hStart : Invariant s)
    (hPreserved :
      ∀ taken ∈ run step inputs s,
        Invariant taken.before → Invariant taken.after) :
    ∀ taken ∈ run step inputs s,
      Invariant taken.before ∧ Invariant taken.after := by
  intro taken hTaken
  rcases List.append_of_mem hTaken with
    ⟨past, future, hRun⟩
  have hBefore :=
    history_invariant (fun _ t => Invariant t) hStart
      (fun _ => hPreserved) hRun
  exact ⟨hBefore, hPreserved taken hTaken hBefore⟩

theorem reached_invariant
    (Invariant : State → Prop)
    {inputs : List Input}
    {s t : State}
    (hStart : Invariant s)
    (hPreserved :
      ∀ taken ∈ run step inputs s,
        Invariant taken.before → Invariant taken.after)
    (hReached : Reached step inputs s t) :
    Invariant t := by
  rcases hReached with rfl | ⟨taken, hTaken, rfl⟩
  · exact hStart
  · exact
      (run_invariant Invariant hStart hPreserved taken
        hTaken).2

/- The rule for what every step of the system preserves. -/
theorem final_invariant
    (Invariant : State → Prop)
    (hStep :
      ∀ input s, Invariant s → Invariant (step input s).2)
    (inputs : List Input)
    {s : State}
    (hStart : Invariant s) :
    Invariant (final step inputs s) := by
  refine
    reached_invariant Invariant hStart ?_
      (reached_final inputs s)
  intro taken hTaken hBefore
  rw [← after_of_mem_run hTaken]
  exact hStep taken.input taken.before hBefore

/- A measure no step lowers is highest at the end. -/
theorem measure_le_final
    (measure : State → Nat)
    (hStep :
      ∀ input t, measure t ≤ measure (step input t).2)
    {inputs : List Input}
    {s t : State}
    (hReached : Reached step inputs s t) :
    measure t ≤ measure (final step inputs s) := by
  induction inputs generalizing s t with
  | nil =>
      rcases hReached with rfl | ⟨taken, hTaken, _⟩
      · exact le_rfl
      · simp [run] at hTaken
  | cons input inputs ih =>
      rcases hReached with rfl | ⟨taken, hTaken, hAfter⟩
      · exact (hStep input t).trans (ih (Or.inl rfl))
      · rcases List.mem_cons.mp hTaken with rfl | hLater
        · exact ih (Or.inl hAfter.symm)
        · exact ih (Or.inr ⟨taken, hLater, hAfter⟩)

end Transition

------------------------------------------------------------
-- Runs with Fuel
------------------------------------------------------------

/-
  If more fuel does not change a result, then any two
  amounts of fuel that are enough give the same one.
-/
theorem Fueled.result_unique
    {Result : Type}
    (f : Nat → Option Result)
    (hMono :
      ∀ {fuel fuel' : Nat} {result : Result},
        fuel ≤ fuel' →
          f fuel = some result → f fuel' = some result)
    {fuel fuel' : Nat}
    {result result' : Result}
    (hFirst : f fuel = some result)
    (hSecond : f fuel' = some result') :
    result = result' := by
  have hMore : f (max fuel fuel') = some result :=
    hMono (Nat.le_max_left fuel fuel') hFirst
  have hMore' : f (max fuel fuel') = some result' :=
    hMono (Nat.le_max_right fuel fuel') hSecond
  exact Option.some.inj (hMore.symm.trans hMore')
