import Mathlib.Tactic

/-
  Computations that log what they do and may fault. The log
  of a computation that faults is kept.

  Main declarations:
    * `Logged`, `TraceM` and `exec`
    * `Emits`, with `emits_pure`, `Emits.bind` and
      `Emits.weaken`
    * `Erases` and `ErasesPartial`
-/

------------------------------------------------------------
-- Traced Computations
------------------------------------------------------------

namespace Trace

/- A state and the events so far, the latest first. -/
structure Logged (State Event : Type) where
  state : State
  events : List Event

abbrev TraceM
    (State Event Fault : Type) : Type → Type :=
  ExceptT Fault (StateM (Logged State Event))

variable {State Event Fault α β : Type}

def exec
    (x : TraceM State Event Fault α)
    (t : Logged State Event) :
    Except Fault α × Logged State Event :=
  x t

theorem exec_bind_of_ok
    {x : TraceM State Event Fault α}
    {a : α}
    {t u : Logged State Event}
    (hExec : exec x t = (.ok a, u))
    (f : α → TraceM State Event Fault β) :
    exec (x >>= f) t = exec (f a) u := by
  have hBind :
      exec (x >>= f) t =
        ExceptT.bindCont f (exec x t).1 (exec x t).2 :=
    rfl
  rw [hBind, hExec]
  rfl

theorem exec_bind_of_error
    {x : TraceM State Event Fault α}
    {fault : Fault}
    {t u : Logged State Event}
    (hExec : exec x t = (.error fault, u))
    (f : α → TraceM State Event Fault β) :
    exec (x >>= f) t = (.error fault, u) := by
  have hBind :
      exec (x >>= f) t =
        ExceptT.bindCont f (exec x t).1 (exec x t).2 :=
    rfl
  rw [hBind, hExec]
  rfl

------------------------------------------------------------
-- What a Computation Adds to the Log
------------------------------------------------------------

/-
  The log grows, and the result and what is new in the log
  are as stated.
-/
def Emits
    (x : TraceM State Event Fault α)
    (t : Logged State Event)
    (Post : Except Fault α → List Event → Prop) : Prop :=
  ∃ new,
    (exec x t).2.events = new ++ t.events ∧
      Post (exec x t).1 new

theorem emits_pure
    {a : α}
    {t : Logged State Event}
    {Post : Except Fault α → List Event → Prop}
    (hPost : Post (.ok a) []) :
    Emits (pure a) t Post :=
  ⟨[], rfl, hPost⟩

theorem emits_of_exec
    {x : TraceM State Event Fault α}
    {t u : Logged State Event}
    {result : Except Fault α}
    {new : List Event}
    {Post : Except Fault α → List Event → Prop}
    (hExec : exec x t = (result, u))
    (hEvents : u.events = new ++ t.events)
    (hPost : Post result new) :
    Emits x t Post := by
  refine ⟨new, ?_, ?_⟩
  · rw [hExec]
    exact hEvents
  · rw [hExec]
    exact hPost

theorem Emits.weaken
    {x : TraceM State Event Fault α}
    {t : Logged State Event}
    {Post Post' : Except Fault α → List Event → Prop}
    (hEmits : Emits x t Post)
    (hWeaker :
      ∀ result new, Post result new → Post' result new) :
    Emits x t Post' := by
  rcases hEmits with ⟨new, hEvents, hPost⟩
  exact ⟨new, hEvents, hWeaker _ _ hPost⟩

/- A sequence adds what its parts add, or stops. -/
theorem Emits.bind
    {x : TraceM State Event Fault α}
    {f : α → TraceM State Event Fault β}
    {t : Logged State Event}
    {Mid : Except Fault α → List Event → Prop}
    {Post : Except Fault β → List Event → Prop}
    (hFirst : Emits x t Mid)
    (hOk :
      ∀ a new u,
        Mid (.ok a) new →
          exec x t = (.ok a, u) →
            Emits (f a) u
              (fun result later => Post result (later ++ new)))
    (hFault :
      ∀ fault new,
        Mid (.error fault) new → Post (.error fault) new) :
    Emits (x >>= f) t Post := by
  rcases hFirst with ⟨new, hEvents, hMid⟩
  rcases hExec : exec x t with ⟨result, u⟩
  rw [hExec] at hEvents hMid
  cases result with
  | ok a =>
      rcases hOk a new u hMid hExec with
        ⟨later, hLater, hPost⟩
      refine ⟨later ++ new, ?_, ?_⟩
      · rw [exec_bind_of_ok hExec, hLater, hEvents,
          List.append_assoc]
      · rw [exec_bind_of_ok hExec]
        exact hPost
  | error fault =>
      refine ⟨new, ?_, ?_⟩
      · rw [exec_bind_of_error hExec]
        exact hEvents
      · rw [exec_bind_of_error hExec]
        exact hFault fault new hMid

------------------------------------------------------------
-- The Computation Without Its Log
------------------------------------------------------------

/- A computation that never faults, but for the log. -/
def Erases
    (x : TraceM State Event Fault α)
    (y : StateM State α) : Prop :=
  ∀ t,
    (exec x t).1 = .ok (y t.state).1 ∧
      (exec x t).2.state = (y t.state).2

/- A computation whose state is lost when it faults. -/
def ErasesPartial
    (x : TraceM State Event Fault α)
    (y : StateT State Option α) : Prop :=
  ∀ t,
    (∃ a u, exec x t = (.ok a, u) ∧
        y t.state = some (a, u.state)) ∨
      ∃ fault u, exec x t = (.error fault, u) ∧
        y t.state = none

theorem Erases.bind
    {x : TraceM State Event Fault α}
    {y : StateM State α}
    {f : α → TraceM State Event Fault β}
    {g : α → StateM State β}
    (hFirst : Erases x y)
    (hThen : ∀ a, Erases (f a) (g a)) :
    Erases (x >>= f) (y >>= g) := by
  intro t
  rcases hExec : exec x t with ⟨result, u⟩
  have hResult := hFirst t
  rw [hExec] at hResult
  rcases hResult with ⟨hOk, hState⟩
  dsimp only at hOk hState
  rw [hOk] at hExec
  rw [exec_bind_of_ok hExec]
  have hNext := hThen (y t.state).1 u
  rw [hState] at hNext
  exact hNext

theorem ErasesPartial.bind
    {x : TraceM State Event Fault α}
    {y : StateT State Option α}
    {f : α → TraceM State Event Fault β}
    {g : α → StateT State Option β}
    (hFirst : ErasesPartial x y)
    (hThen : ∀ a, ErasesPartial (f a) (g a)) :
    ErasesPartial (x >>= f) (y >>= g) := by
  intro t
  have hBind :
      (y >>= g) t.state =
        (y t.state).bind (fun r => g r.1 r.2) :=
    rfl
  rcases hFirst t with
    ⟨a, u, hExec, hSome⟩ | ⟨fault, u, hExec, hNone⟩
  · rw [exec_bind_of_ok hExec, hBind, hSome]
    exact hThen a u
  · right
    refine ⟨fault, u, exec_bind_of_error hExec f, ?_⟩
    rw [hBind, hNone]
    rfl

end Trace
