import Chihuahua.Machine.Traces
import Chihuahua.Paginator.LiveMode

/-
  How `mapPage` uses the frame allocator and what it writes,
  whatever memory holds and however it is accessed.

  The controller runs on a bus that logs its actions. Without
  the log, that bus is the one of the boot loader or the one
  of the running kernel.

  Main declarations:
    * `Access`, `Access.bus` and `BusEvent`
    * `BusSimulates` and its `mapPage`
    * `mapPage_bootAccess` and `mapPage_liveAccess`
    * `AllocatorProtocol`
    * `mapPage_allocatorProtocol`
-/

------------------------------------------------------------
-- The Logging Bus
------------------------------------------------------------

namespace Chihuahua

namespace Paginator

open ByteMachine Essentials Trace

/-
  What the controller reaches, and how. Loads and stores may
  fault; nothing else is assumed of them.
-/
structure Access (State : Type) where
  load : State → Addr → Option Word
  store : State → Addr → Word → Option State
  memset :
    State → Addr → BitVec 32 → BitVec 64 → Option State
  allocator : State → Addr × State
  tableCreated : State → TableLevel → Addr → Addr → State

/-
  An answer of the allocator, and the two ways to write: a
  store with what the slot held before it, and a `memset`.
-/
inductive BusEvent where
| allocated (frame : Addr)
| stored (slot : Addr) (before : Option Word) (value : Word)
| cleared (dest : Addr) (n : BitVec 64)
deriving DecidableEq, Repr

structure PageFault where
  address : Addr
deriving DecidableEq, Repr

abbrev BusM (State : Type) : Type → Type :=
  TraceM State BusEvent PageFault

variable {State : Type}

/- A change of the state that is logged, or a fault. -/
def writing
    (address : Addr)
    (event : State → BusEvent)
    (write : State → Option State) : BusM State Unit :=
  fun t =>
    match write t.state with
    | some s =>
        (.ok (),
          { state := s
            events := event t.state :: t.events })
    | none => (.error ⟨address⟩, t)

namespace Access

def bus (access : Access State) : Bus (BusM State) where
  load a := fun t =>
    match access.load t.state a with
    | some w => (.ok w, t)
    | none => (.error ⟨a⟩, t)
  store a w :=
    writing a (fun s => .stored a (access.load s a) w)
      (fun s => access.store s a w)
  memset dest c n :=
    writing dest (fun _ => .cleared dest n)
      (fun s => access.memset s dest c n)
  allocator := fun t =>
    (.ok (access.allocator t.state).1,
      { state := (access.allocator t.state).2
        events :=
          .allocated (access.allocator t.state).1 ::
            t.events })
  tableCreated level frame virtAddress := fun t =>
    (.ok (),
      { state :=
          access.tableCreated t.state level frame virtAddress
        events := t.events })

end Access

------------------------------------------------------------
-- One Controller on Two Buses
------------------------------------------------------------

theorem related_ite
    {m n : Type → Type}
    {R : ∀ α : Type, m α → n α → Prop}
    {α : Type}
    (c : Prop)
    [Decidable c]
    {x x' : m α}
    {y y' : n α}
    (hThen : R α x y)
    (hElse : R α x' y') :
    R α (if c then x else x') (if c then y else y') := by
  by_cases hCond : c
  · rw [if_pos hCond, if_pos hCond]
    exact hThen
  · rw [if_neg hCond, if_neg hCond]
    exact hElse

/-
  A relation between computations that holds of all actions
  of two buses and is kept by sequences.
-/
structure BusSimulates
    {m n : Type → Type}
    [Monad m]
    [Monad n]
    (R : ∀ α : Type, m α → n α → Prop)
    (bus : Bus m)
    (bus' : Bus n) : Prop where
  pure : ∀ (α : Type) (a : α), R α (pure a) (pure a)
  bind :
    ∀ (α β : Type) (x : m α) (y : n α) (f : α → m β)
      (g : α → n β),
      R α x y → (∀ a, R β (f a) (g a)) →
        R β (x >>= f) (y >>= g)
  load : ∀ a, R Word (bus.load a) (bus'.load a)
  store : ∀ a w, R Unit (bus.store a w) (bus'.store a w)
  memset :
    ∀ dest c k,
      R Unit (bus.memset dest c k) (bus'.memset dest c k)
  allocator : R Addr bus.allocator bus'.allocator
  tableCreated :
    ∀ level frame virtAddress,
      R Unit (bus.tableCreated level frame virtAddress)
        (bus'.tableCreated level frame virtAddress)

namespace BusSimulates

variable {m n : Type → Type} [Monad m] [Monad n]
variable {R : ∀ α : Type, m α → n α → Prop}
variable {bus : Bus m} {bus' : Bus n}
variable (hBus : BusSimulates R bus bus')

include hBus

theorem translateVirtToPhys
    (rootPageTable virtAddress : Addr) :
    R Word
      (Paginator.translateVirtToPhys bus rootPageTable
        virtAddress)
      (Paginator.translateVirtToPhys bus' rootPageTable
        virtAddress) := by
  simp only [Paginator.translateVirtToPhys,
    indicesTooLarge_eq_false, Bool.false_eq_true, if_false]
  apply hBus.bind _ _ _ _ _ _ (hBus.load _)
  intro entryL3
  apply related_ite _ (hBus.pure _ _)
  apply hBus.bind _ _ _ _ _ _ (hBus.load _)
  intro entryL2
  apply related_ite _ (hBus.pure _ _)
  apply hBus.bind _ _ _ _ _ _ (hBus.load _)
  intro entryL1
  apply related_ite _ (hBus.pure _ _)
  apply hBus.bind _ _ _ _ _ _ (hBus.load _)
  intro entry
  exact hBus.pure _ _

theorem tableFor
    (rootPageTable : Addr)
    (pagingDisabledNow : Bool)
    (virtAddress : Addr)
    (level : TableLevel)
    (parentTable : Addr)
    (idx : Word)
    (recursiveAddress : Addr) :
    R (Option Word)
      (Paginator.tableFor bus rootPageTable
        pagingDisabledNow virtAddress level parentTable idx
        recursiveAddress)
      (Paginator.tableFor bus' rootPageTable
        pagingDisabledNow virtAddress level parentTable idx
        recursiveAddress) := by
  simp only [Paginator.tableFor]
  apply hBus.bind _ _ _ _ _ _ (hBus.load _)
  intro entry
  apply related_ite
  · apply hBus.bind _ _ _ _ _ _ hBus.allocator
    intro physAddr
    apply related_ite _ (hBus.pure _ _)
    apply hBus.bind _ _ _ _ _ _ (hBus.tableCreated _ _ _)
    intro _
    apply related_ite
    · apply hBus.bind _ _ _ _ _ _ (hBus.memset _ _ _)
      intro _
      apply hBus.bind _ _ _ _ _ _ (hBus.store _ _)
      intro _
      apply hBus.bind _ _ _ _ _ _ (hBus.store _ _)
      intro _
      exact hBus.pure _ _
    · apply hBus.bind _ _ _ _ _ _ (hBus.store _ _)
      intro _
      apply hBus.bind _ _ _ _ _ _ (hBus.store _ _)
      intro _
      exact hBus.pure _ _
  · exact hBus.pure _ _

theorem tablesFor
    (rootPageTable : Addr)
    (pagingDisabledNow : Bool)
    (virtAddress : Addr) :
    R (Option TableEntries)
      (Paginator.tablesFor bus rootPageTable
        pagingDisabledNow virtAddress)
      (Paginator.tablesFor bus' rootPageTable
        pagingDisabledNow virtAddress) := by
  simp only [Paginator.tablesFor]
  apply hBus.bind _ _ _ _ _ _
    (hBus.tableFor _ _ _ _ _ _ _)
  intro entryForL3
  cases entryForL3 with
  | none => exact hBus.pure _ _
  | some entryForL3 =>
      apply hBus.bind _ _ _ _ _ _
        (hBus.tableFor _ _ _ _ _ _ _)
      intro entryForL2
      cases entryForL2 with
      | none => exact hBus.pure _ _
      | some entryForL2 =>
          apply hBus.bind _ _ _ _ _ _
            (hBus.tableFor _ _ _ _ _ _ _)
          intro entryForL1
          cases entryForL1 with
          | none => exact hBus.pure _ _
          | some entryForL1 => exact hBus.pure _ _

theorem writeLeaf
    (l1Table virtAddress physAddress : Addr)
    (flags : PageFlags)
    (forceWrite : Bool) :
    R PageMapError
      (Paginator.writeLeaf bus l1Table virtAddress
        physAddress flags forceWrite)
      (Paginator.writeLeaf bus' l1Table virtAddress
        physAddress flags forceWrite) := by
  simp only [Paginator.writeLeaf]
  apply hBus.bind _ _ _ _ _ _ (hBus.load _)
  intro existing
  apply related_ite _ (hBus.pure _ _)
  apply hBus.bind _ _ _ _ _ _ (hBus.store _ _)
  intro _
  exact hBus.pure _ _

/- The leaf once the tables are there, or no leaf. -/
theorem leafOrFailed
    (virtAddress physAddress : Addr)
    (flags : PageFlags)
    (forceWrite pagingDisabledNow : Bool)
    (found : Option TableEntries) :
    R PageMapError
      (match found with
      | none => Pure.pure .AllocFailed
      | some entries =>
          Paginator.writeLeaf bus
            (tablePointer pagingDisabledNow
              entries.entryForL1 (recursiveL1 virtAddress))
            virtAddress physAddress flags forceWrite)
      (match found with
      | none => Pure.pure .AllocFailed
      | some entries =>
          Paginator.writeLeaf bus'
            (tablePointer pagingDisabledNow
              entries.entryForL1 (recursiveL1 virtAddress))
            virtAddress physAddress flags forceWrite) := by
  cases found with
  | none => exact hBus.pure _ _
  | some entries => exact hBus.writeLeaf _ _ _ _ _

theorem mapPage
    (rootPageTable virtAddress physAddress : Addr)
    (flags : PageFlags)
    (forceWrite pagingDisabledNow : Bool) :
    R PageMapError
      (Paginator.mapPage bus rootPageTable virtAddress
        physAddress flags forceWrite pagingDisabledNow)
      (Paginator.mapPage bus' rootPageTable virtAddress
        physAddress flags forceWrite pagingDisabledNow) := by
  simp only [Paginator.mapPage, indicesTooLarge_eq_false,
    Bool.false_eq_true, if_false]
  have hTables :=
    hBus.bind _ _ _ _ _ _
      (hBus.tablesFor rootPageTable pagingDisabledNow
        virtAddress)
      (hBus.leafOrFailed virtAddress physAddress flags
        forceWrite pagingDisabledNow)
  apply related_ite _ (hBus.pure _ _)
  apply related_ite
  · apply hBus.bind _ _ _ _ _ _
      (hBus.translateVirtToPhys _ _)
    intro existing
    apply related_ite _ (hBus.pure _ _)
    exact hTables
  · exact hTables

end BusSimulates

------------------------------------------------------------
-- The Two Modes
------------------------------------------------------------

def bootAccess
    (allocator : Nat → Addr) : Access PagingState where
  load s a := some (s.word a)
  store s a w :=
    some { s with machine := s.machine.write64 a w }
  memset s dest c n :=
    some
      { s with machine := (memset dest c n s.machine).2 }
  allocator s :=
    (allocator s.frames, { s with frames := s.frames + 1 })
  tableCreated s level frame virtAddress :=
    { s with
      tables := ⟨level, frame, virtAddress⟩ :: s.tables }

def liveAccess
    (allocator : Nat → Addr)
    (rootFrame : Addr) : Access PagingState where
  load s v := (s.resolve rootFrame v).map s.word
  store s v w :=
    (s.resolve rootFrame v).map
      (fun a =>
        { s with machine := s.machine.write64 a w })
  memset s dest c n :=
    ((List.range n.toNat).map
        (fun i => dest + BitVec.ofNat 64 i)).foldlM
      (PagingState.storeVirtual8 rootFrame (c.setWidth 8))
      s
  allocator s :=
    (allocator s.frames, { s with frames := s.frames + 1 })
  tableCreated s level frame virtAddress :=
    { s with
      tables := ⟨level, frame, virtAddress⟩ :: s.tables }

theorem bootAccess_simulates
    (allocator : Nat → Addr) :
    BusSimulates (fun _ => Erases) (bootAccess allocator).bus
      (bootBus allocator) where
  pure _ _ _ := ⟨rfl, rfl⟩
  bind _ _ _ _ _ _ hFirst hThen := hFirst.bind hThen
  load _ _ := ⟨rfl, rfl⟩
  store _ _ _ := ⟨rfl, rfl⟩
  memset _ _ _ _ := ⟨rfl, rfl⟩
  allocator _ := ⟨rfl, rfl⟩
  tableCreated _ _ _ _ := ⟨rfl, rfl⟩

theorem writing_erases
    (address : Addr)
    (event : State → BusEvent)
    (write : State → Option State) :
    ErasesPartial (writing address event write)
      (fun s => (write s).map (fun s' => ((), s'))) := by
  intro t
  cases hWrite : write t.state with
  | none =>
      right
      refine ⟨⟨address⟩, t, ?_, ?_⟩
      · simp only [exec, writing, hWrite]
      · simp only [hWrite, Option.map_none]
  | some s =>
      left
      refine
        ⟨(), { state := s, events := event t.state :: t.events },
          ?_, ?_⟩
      · simp only [exec, writing, hWrite]
      · simp only [hWrite, Option.map_some]

theorem liveAccess_simulates
    (allocator : Nat → Addr)
    (rootFrame : Addr) :
    BusSimulates (fun _ => ErasesPartial)
      (liveAccess allocator rootFrame).bus
      (liveBus allocator rootFrame) where
  pure _ a t := Or.inl ⟨a, t, rfl, rfl⟩
  bind _ _ _ _ _ _ hFirst hThen := hFirst.bind hThen
  load v t := by
    cases hResolve : t.state.resolve rootFrame v with
    | none =>
        right
        refine ⟨⟨v⟩, t, ?_, ?_⟩
        · simp only [exec, Access.bus, liveAccess, hResolve,
            Option.map_none]
        · rw [load_live, hResolve]
          rfl
    | some a =>
        left
        refine ⟨t.state.word a, t, ?_, ?_⟩
        · simp only [exec, Access.bus, liveAccess, hResolve,
            Option.map_some]
        · rw [load_live, hResolve]
          rfl
  store v w := by
    have hStore :=
      writing_erases v
        (fun s =>
          .stored v
            ((liveAccess allocator rootFrame).load s v) w)
        (fun s =>
          (liveAccess allocator rootFrame).store s v w)
    simp only [liveAccess, Option.map_map] at hStore
    exact hStore
  memset dest c n :=
    writing_erases dest (fun _ => .cleared dest n)
      (fun s =>
        (liveAccess allocator rootFrame).memset s dest c n)
  allocator t := Or.inl ⟨_, _, rfl, rfl⟩
  tableCreated _ _ _ t := Or.inl ⟨_, _, rfl, rfl⟩

/- The logged call at boot is the call at boot. -/
theorem mapPage_bootAccess
    (allocator : Nat → Addr)
    (rootPageTable virtAddress physAddress : Addr)
    (flags : PageFlags)
    (forceWrite pagingDisabledNow : Bool) :
    Erases
      (mapPage (bootAccess allocator).bus rootPageTable
        virtAddress physAddress flags forceWrite
        pagingDisabledNow)
      (mapPage (bootBus allocator) rootPageTable virtAddress
        physAddress flags forceWrite pagingDisabledNow) :=
  (bootAccess_simulates allocator).mapPage _ _ _ _ _ _

theorem mapPage_liveAccess
    (allocator : Nat → Addr)
    (rootFrame : Addr)
    (rootPageTable virtAddress physAddress : Addr)
    (flags : PageFlags)
    (forceWrite pagingDisabledNow : Bool) :
    ErasesPartial
      (mapPage (liveAccess allocator rootFrame).bus
        rootPageTable virtAddress physAddress flags
        forceWrite pagingDisabledNow)
      (mapPage (liveBus allocator rootFrame) rootPageTable
        virtAddress physAddress flags forceWrite
        pagingDisabledNow) :=
  (liveAccess_simulates allocator rootFrame).mapPage _ _ _ _
    _ _

------------------------------------------------------------
-- The Actions on the Bus
------------------------------------------------------------

/- The answers of the allocator in a log. -/
def answers : List BusEvent → List Addr :=
  List.filterMap
    (fun event =>
      match event with
      | .allocated frame => some frame
      | _ => none)

theorem answers_append
    (later earlier : List BusEvent) :
    answers (later ++ earlier) =
      answers later ++ answers earlier :=
  List.filterMap_append

section Actions

variable (access : Access State)
variable (t : Logged State BusEvent)

/- A load leaves everything as it is, or faults. -/
theorem exec_load
    (a : Addr) :
    exec (access.bus.load a) t =
      match access.load t.state a with
      | some w => (.ok w, t)
      | none => (.error ⟨a⟩, t) :=
  rfl

theorem emits_load
    (a : Addr) :
    Emits (access.bus.load a) t (fun _ new => new = []) := by
  have hExec := exec_load access t a
  cases hLoad : access.load t.state a with
  | none =>
      rw [hLoad] at hExec
      exact emits_of_exec hExec rfl rfl
  | some w =>
      rw [hLoad] at hExec
      exact emits_of_exec hExec rfl rfl

/- A word that was loaded, in a state that is kept. -/
theorem load_of_exec
    {access : Access State}
    {t u : Logged State BusEvent}
    {a : Addr}
    {w : Word}
    (hLoaded : exec (access.bus.load a) t = (.ok w, u)) :
    access.load u.state a = some w := by
  rw [exec_load] at hLoaded
  cases hLoad : access.load t.state a with
  | none =>
      rw [hLoad] at hLoaded
      exact absurd (congrArg Prod.fst hLoaded) (by simp)
  | some w' =>
      rw [hLoad] at hLoaded
      have hWord := Except.ok.inj (congrArg Prod.fst hLoaded)
      have hState : t = u := congrArg Prod.snd hLoaded
      rw [← hState, hLoad]
      exact congrArg some hWord

/- A write is logged, unless it faults. -/
theorem emits_writing
    (address : Addr)
    (event : State → BusEvent)
    (write : State → Option State) :
    Emits (writing address event write) t
      (fun result new =>
        new = [] ∧ result ≠ .ok () ∨
          new = [event t.state] ∧ result = .ok ()) := by
  cases hWrite : write t.state with
  | none =>
      have hExec :
          exec (writing address event write) t =
            (.error ⟨address⟩, t) := by
        simp only [exec, writing, hWrite]
      exact
        emits_of_exec hExec rfl (Or.inl ⟨rfl, by simp⟩)
  | some s =>
      have hExec :
          exec (writing address event write) t =
            (.ok (),
              { state := s
                events := event t.state :: t.events }) := by
        simp only [exec, writing, hWrite]
      exact emits_of_exec hExec rfl (Or.inr ⟨rfl, rfl⟩)

theorem emits_store
    (a : Addr)
    (w : Word) :
    Emits (access.bus.store a w) t
      (fun result new =>
        new = [] ∧ result ≠ .ok () ∨
          new = [.stored a (access.load t.state a) w] ∧
            result = .ok ()) :=
  emits_writing t a
    (fun s => .stored a (access.load s a) w) _

end Actions

------------------------------------------------------------
-- Parts That Ask for No Frame
------------------------------------------------------------

/- The allocator is not called, and the result is as stated. -/
def Quietly
    {α : Type}
    (x : BusM State α)
    (P : α → Prop) : Prop :=
  ∀ t,
    Emits x t
      (fun result new =>
        answers new = [] ∧ ∀ a, result = .ok a → P a)

namespace Quietly

variable {α β : Type}

theorem pure
    {a : α}
    {P : α → Prop}
    (hP : P a) :
    Quietly (Pure.pure a : BusM State α) P := by
  intro t
  apply emits_pure
  refine ⟨rfl, ?_⟩
  intro a' hOk
  rw [← Except.ok.inj hOk]
  exact hP

theorem bind
    {x : BusM State α}
    {f : α → BusM State β}
    {P : β → Prop}
    (hFirst : Quietly x (fun _ => True))
    (hThen : ∀ a, Quietly (f a) P) :
    Quietly (x >>= f) P := by
  intro t
  apply (hFirst t).bind
  · intro a new u hNew _
    apply (hThen a u).weaken
    intro result later hLater
    refine ⟨?_, hLater.2⟩
    rw [answers_append, hLater.1, hNew.1]
    rfl
  · intro fault new hNew
    exact ⟨hNew.1, fun a hOk => absurd hOk (by simp)⟩

theorem ite
    (c : Prop)
    [Decidable c]
    {x y : BusM State α}
    {P : α → Prop}
    (hThen : Quietly x P)
    (hElse : Quietly y P) :
    Quietly (if c then x else y) P := by
  by_cases hCond : c
  · rw [if_pos hCond]
    exact hThen
  · rw [if_neg hCond]
    exact hElse

theorem writing
    (address : Addr)
    {event : State → BusEvent}
    (hEvent : ∀ s frame, event s ≠ .allocated frame)
    (write : State → Option State) :
    Quietly (Paginator.writing address event write)
      (fun _ => True) := by
  intro t
  apply (emits_writing t address event write).weaken
  intro result new hNew
  refine ⟨?_, fun _ _ => trivial⟩
  rcases hNew with ⟨rfl, _⟩ | ⟨rfl, _⟩
  · rfl
  · unfold answers
    rw [List.filterMap_eq_nil_iff]
    intro other hOther
    obtain rfl := List.mem_singleton.mp hOther
    cases hKind : event t.state with
    | allocated frame => exact absurd hKind (hEvent _ _)
    | stored slot before value => rfl
    | cleared dest n => rfl

variable (access : Access State)

theorem store
    (a : Addr)
    (w : Word) :
    Quietly (access.bus.store a w) (fun _ => True) :=
  writing a (fun _ _ => by simp) _

theorem memset
    (dest : Addr)
    (c : BitVec 32)
    (n : BitVec 64) :
    Quietly (access.bus.memset dest c n) (fun _ => True) :=
  writing dest (fun _ _ => by simp) _

theorem tableCreated
    (level : TableLevel)
    (frame virtAddress : Addr) :
    Quietly
      (access.bus.tableCreated level frame virtAddress)
      (fun _ => True) := by
  intro t
  exact ⟨[], rfl, rfl, fun _ _ => trivial⟩

end Quietly

------------------------------------------------------------
-- The Tables
------------------------------------------------------------

/-
  At most `calls` calls of the allocator. The answer 0 ends
  the computation, and it is the last thing it does.
-/
def AllocatesUpTo
    (calls : Nat)
    {α : Type}
    (result : Except PageFault (Option α))
    (new : List BusEvent) : Prop :=
  (answers new).length ≤ calls ∧
    (result = .ok none ∧
        (∃ earlier,
          new = .allocated 0 :: earlier ∧
            0 ∉ answers earlier) ∨
      result ≠ .ok none ∧ 0 ∉ answers new)

section Tables

variable {access : Access State}
variable {α β : Type}

/- Steps in a row, each of which may run out of frames. -/
theorem AllocatesUpTo.bind
    {x : BusM State (Option α)}
    {f : Option α → BusM State (Option β)}
    {t : Logged State BusEvent}
    {j k : Nat}
    (hFirst : Emits x t (AllocatesUpTo j))
    (hNone : f none = Pure.pure none)
    (hSome : ∀ a u, Emits (f (some a)) u (AllocatesUpTo k)) :
    Emits (x >>= f) t (AllocatesUpTo (j + k)) := by
  apply hFirst.bind
  · intro a new u hNew _
    rcases hNew with ⟨hCalls, hOutcome⟩
    cases a with
    | none =>
        rw [hNone]
        apply emits_pure
        refine ⟨Nat.le_add_right_of_le hCalls, Or.inl ?_⟩
        rcases hOutcome with ⟨_, hLast⟩ | ⟨hNot, _⟩
        · exact ⟨rfl, hLast⟩
        · exact absurd rfl hNot
    | some a =>
        have hClear : 0 ∉ answers new := by
          rcases hOutcome with ⟨hNot, _⟩ | ⟨_, hClear⟩
          · exact absurd (Except.ok.inj hNot) (by simp)
          · exact hClear
        apply (hSome a u).weaken
        intro result later hLater
        rcases hLater with ⟨hMore, hThen⟩
        constructor
        · rw [answers_append, List.length_append]
          omega
        · rcases hThen with
            ⟨hStop, earlier, rfl, hEarlier⟩ |
              ⟨hGoOn, hLater⟩
          · refine
              Or.inl ⟨hStop, earlier ++ new, rfl, ?_⟩
            rw [answers_append, List.mem_append]
            exact not_or.mpr ⟨hEarlier, hClear⟩
          · refine Or.inr ⟨hGoOn, ?_⟩
            rw [answers_append, List.mem_append]
            exact not_or.mpr ⟨hLater, hClear⟩
  · intro fault new hNew
    rcases hNew with ⟨hCalls, hOutcome⟩
    refine
      ⟨Nat.le_add_right_of_le hCalls,
        Or.inr ⟨by simp, ?_⟩⟩
    rcases hOutcome with ⟨hNot, _⟩ | ⟨_, hClear⟩
    · exact absurd hNot (by simp)
    · exact hClear

/- A step that asks for one frame and goes on with it. -/
theorem allocatesUpTo_one
    {f : Addr → BusM State (Option α)}
    (hStop : f 0 = Pure.pure none)
    (hGoOn :
      ∀ frame, frame ≠ 0 → Quietly (f frame) (· ≠ none))
    (t : Logged State BusEvent) :
    Emits (access.bus.allocator >>= f) t
      (AllocatesUpTo 1) := by
  have hAsk :
      Emits access.bus.allocator t
        (fun result new =>
          ∃ frame,
            result = .ok frame ∧
              new = [.allocated frame]) :=
    ⟨[.allocated (access.allocator t.state).1], rfl, _, rfl,
      rfl⟩
  apply hAsk.bind
  · intro frame new u hNew _
    rcases hNew with ⟨frame', hFrame, rfl⟩
    obtain rfl := Except.ok.inj hFrame
    by_cases hZero : frame = 0
    · subst hZero
      rw [hStop]
      apply emits_pure
      exact ⟨le_rfl, Or.inl ⟨rfl, [], rfl, by simp [answers]⟩⟩
    · apply (hGoOn frame hZero u).weaken
      intro result later hLater
      rcases hLater with ⟨hNone, hResult⟩
      have hAnswers :
          answers (later ++ [.allocated frame]) = [frame] := by
        rw [answers_append, hNone]
        rfl
      refine ⟨by rw [hAnswers]; rfl, Or.inr ⟨?_, ?_⟩⟩
      · intro hOk
        exact hResult none hOk rfl
      · rw [hAnswers, List.mem_singleton]
        exact Ne.symm hZero
  · rintro fault new ⟨frame, hOk, _⟩
    exact absurd hOk (by simp)

/- A step that only loads can come before it. -/
theorem AllocatesUpTo.after_load
    {calls : Nat}
    {a : Addr}
    {f : Word → BusM State (Option α)}
    {t : Logged State BusEvent}
    (hThen : ∀ w u, Emits (f w) u (AllocatesUpTo calls)) :
    Emits (access.bus.load a >>= f) t
      (AllocatesUpTo calls) := by
  apply (emits_load access t a).bind
  · rintro w new u rfl _
    simpa only [List.append_nil] using hThen w u
  · rintro fault new rfl
    exact
      ⟨Nat.zero_le _, Or.inr ⟨by simp, by simp [answers]⟩⟩

theorem tableFor_allocatesUpTo
    (rootPageTable : Addr)
    (pagingDisabledNow : Bool)
    (virtAddress : Addr)
    (level : TableLevel)
    (parentTable : Addr)
    (idx : Word)
    (recursiveAddress : Addr)
    (t : Logged State BusEvent) :
    Emits
      (tableFor access.bus rootPageTable pagingDisabledNow
        virtAddress level parentTable idx recursiveAddress)
      t (AllocatesUpTo 1) := by
  unfold tableFor
  apply AllocatesUpTo.after_load
  intro entry u
  by_cases hMissing : entry = 0
  · simp only [hMissing, if_true]
    apply allocatesUpTo_one
    · simp only [if_true]
    · intro frame hFrame
      simp only [hFrame, if_false]
      apply (Quietly.tableCreated access _ _ _).bind
      intro _
      apply Quietly.ite
      · apply (Quietly.memset access _ _ _).bind
        intro _
        apply (Quietly.store access _ _).bind
        intro _
        apply (Quietly.store access _ _).bind
        intro _
        exact Quietly.pure (by simp)
      · apply (Quietly.store access _ _).bind
        intro _
        apply (Quietly.store access _ _).bind
        intro _
        exact Quietly.pure (by simp)
  · simp only [hMissing, if_false]
    apply emits_pure
    exact
      ⟨Nat.zero_le _, Or.inr ⟨by simp, by simp [answers]⟩⟩

theorem tablesFor_allocatesUpTo
    (rootPageTable : Addr)
    (pagingDisabledNow : Bool)
    (virtAddress : Addr)
    (t : Logged State BusEvent) :
    Emits
      (tablesFor access.bus rootPageTable pagingDisabledNow
        virtAddress)
      t (AllocatesUpTo 3) := by
  unfold tablesFor
  refine
    AllocatesUpTo.bind (k := 2)
      (tableFor_allocatesUpTo _ _ _ _ _ _ _ t) ?_ ?_
  · rfl
  intro entryForL3 u
  refine
    AllocatesUpTo.bind (k := 1)
      (tableFor_allocatesUpTo _ _ _ _ _ _ _ u) ?_ ?_
  · rfl
  intro entryForL2 u'
  refine
    AllocatesUpTo.bind (k := 0)
      (tableFor_allocatesUpTo _ _ _ _ _ _ _ u') ?_ ?_
  · rfl
  intro entryForL1 u''
  apply emits_pure
  exact
    ⟨Nat.zero_le _, Or.inr ⟨by simp, by simp [answers]⟩⟩

end Tables

------------------------------------------------------------
-- The Whole Call
------------------------------------------------------------

/-
  What a call may do with the allocator and with memory, in
  terms of its result and its log. The store of the leaf
  comes last, over a word that was 0 or may be overwritten.
-/
structure AllocatorProtocol
    (physAddress : Addr)
    (flags : PageFlags)
    (forceWrite : Bool)
    (result : Except PageFault PageMapError)
    (events : List BusEvent) : Prop where
  hThree : (answers events).length ≤ 3
  hFailed :
    result = .ok .AllocFailed ↔ 0 ∈ answers events
  hLast :
    0 ∈ answers events →
      ∃ earlier,
        events = .allocated 0 :: earlier ∧
          0 ∉ answers earlier
  hInvalid : result = .ok .InvalidVirtAddress → events = []
  hStored :
    result = .ok .NoError →
      ∃ slot before earlier,
        events =
            .stored slot before
                (constructTableEntry physAddress flags) ::
              earlier ∧
          (forceWrite = false → before = some 0)

/- What a call does that is not out of frames. -/
def LeavesFramesAlone
    (physAddress : Addr)
    (flags : PageFlags)
    (forceWrite : Bool)
    (result : Except PageFault PageMapError)
    (new : List BusEvent) : Prop :=
  answers new = [] ∧
    result ≠ .ok .AllocFailed ∧
    result ≠ .ok .InvalidVirtAddress ∧
    (result = .ok .NoError →
      ∃ slot before,
        new =
            [.stored slot before
              (constructTableEntry physAddress flags)] ∧
          (forceWrite = false → before = some 0))

section Calls

variable (access : Access State)

/-
  Between the load of the leaf slot and the store into it
  nothing happens.
-/
theorem writeLeaf_leavesFramesAlone
    (l1Table virtAddress physAddress : Addr)
    (flags : PageFlags)
    (forceWrite : Bool)
    (t : Logged State BusEvent) :
    Emits
      (writeLeaf access.bus l1Table virtAddress physAddress
        flags forceWrite)
      t
      (LeavesFramesAlone physAddress flags forceWrite) := by
  unfold writeLeaf
  apply (emits_load access t _).bind
  · rintro existing new u rfl hLoaded
    have hBefore := load_of_exec hLoaded
    by_cases hTaken : existing ≠ 0 ∧ ¬ forceWrite = true
    · rw [if_pos hTaken]
      apply emits_pure
      exact ⟨rfl, by simp, by simp, by simp⟩
    · rw [if_neg hTaken]
      apply (emits_store access u _ _).bind
      · intro _ new _ hWritten _
        apply emits_pure
        rcases hWritten with ⟨_, hNot⟩ | ⟨rfl, _⟩
        · exact absurd rfl hNot
        · refine ⟨rfl, by simp, by simp, ?_⟩
          intro _
          refine ⟨_, _, rfl, ?_⟩
          intro hForce
          rw [hBefore]
          by_contra hOther
          apply hTaken
          refine ⟨?_, by simp [hForce]⟩
          rintro rfl
          exact hOther rfl
      · rintro fault new (⟨rfl, _⟩ | ⟨_, hOk⟩)
        · exact ⟨rfl, by simp, by simp, by simp⟩
        · exact absurd hOk (by simp)
  · rintro fault new rfl
    exact ⟨rfl, by simp, by simp, by simp⟩

/- The translation only loads. -/
theorem translateVirtToPhys_emits
    (rootPageTable virtAddress : Addr)
    (t : Logged State BusEvent) :
    Emits
      (translateVirtToPhys access.bus rootPageTable
        virtAddress)
      t (fun _ new => new = []) := by
  have hThen
      {f : Word → BusM State Word}
      (a : Addr)
      (u : Logged State BusEvent)
      (hRest : ∀ w u', Emits (f w) u' (fun _ new => new = [])) :
      Emits (access.bus.load a >>= f) u
        (fun _ new => new = []) := by
    apply (emits_load access u a).bind
    · rintro w new u' rfl _
      simpa only [List.append_nil] using hRest w u'
    · rintro fault new rfl
      rfl
  simp only [translateVirtToPhys, indicesTooLarge_eq_false,
    Bool.false_eq_true, if_false]
  apply hThen
  intro entryL3 u3
  split_ifs
  · exact emits_pure rfl
  apply hThen
  intro entryL2 u2
  split_ifs
  · exact emits_pure rfl
  apply hThen
  intro entryL1 u1
  split_ifs
  · exact emits_pure rfl
  apply hThen
  intro entry u
  exact emits_pure rfl

/- The tables and the leaf, in a row. -/
theorem tablesThenLeaf_allocatorProtocol
    (rootPageTable virtAddress physAddress : Addr)
    (flags : PageFlags)
    (forceWrite pagingDisabledNow : Bool)
    {f : Option TableEntries → BusM State PageMapError}
    (hNone : f none = pure .AllocFailed)
    (hSome :
      ∀ entries u,
        Emits (f (some entries)) u
          (LeavesFramesAlone physAddress flags forceWrite))
    (t : Logged State BusEvent) :
    Emits
      (tablesFor access.bus rootPageTable pagingDisabledNow
          virtAddress >>=
        f)
      t
      (AllocatorProtocol physAddress flags forceWrite) := by
  apply (tablesFor_allocatesUpTo _ _ _ t).bind
  · intro found new u hNew _
    rcases hNew with ⟨hThree, hOutcome⟩
    cases found with
    | none =>
        rw [hNone]
        apply emits_pure
        rcases hOutcome with
          ⟨_, earlier, rfl, hEarlier⟩ | ⟨hNot, _⟩
        · exact
            { hThree := hThree
              hFailed := iff_of_true rfl (by simp [answers])
              hLast := fun _ => ⟨earlier, rfl, hEarlier⟩
              hInvalid := by simp
              hStored := by simp }
        · exact absurd rfl hNot
    | some entries =>
        have hClear : 0 ∉ answers new := by
          rcases hOutcome with ⟨hNot, _⟩ | ⟨_, hClear⟩
          · exact absurd (Except.ok.inj hNot) (by simp)
          · exact hClear
        apply (hSome entries u).weaken
        rintro result later
          ⟨hNone, hNotFailed, hNotInvalid, hLeaf⟩
        have hAnswers :
            answers (later ++ new) = answers new := by
          rw [answers_append, hNone, List.nil_append]
        refine
          { hThree := by rw [hAnswers]; exact hThree
            hFailed := ?_
            hLast := ?_
            hInvalid := fun hInvalid =>
              absurd hInvalid hNotInvalid
            hStored := ?_ }
        · rw [hAnswers]
          exact iff_of_false hNotFailed hClear
        · rw [hAnswers]
          intro hZero
          exact absurd hZero hClear
        · intro hOk
          rcases hLeaf hOk with ⟨slot, before, rfl, hBefore⟩
          exact ⟨slot, before, new, rfl, hBefore⟩
  · rintro fault new ⟨hThree, hOutcome⟩
    have hClear : 0 ∉ answers new := by
      rcases hOutcome with ⟨hNot, _⟩ | ⟨_, hClear⟩
      · exact absurd hNot (by simp)
      · exact hClear
    exact
      { hThree := hThree
        hFailed := iff_of_false (by simp) hClear
        hLast := fun hZero => absurd hZero hClear
        hInvalid := by simp
        hStored := by simp }

/- An answer, or a fault, before anything was done. -/
theorem allocatorProtocol_nil
    {physAddress : Addr}
    {flags : PageFlags}
    {forceWrite : Bool}
    {result : Except PageFault PageMapError}
    (hFailed : result ≠ .ok .AllocFailed)
    (hStored : result ≠ .ok .NoError) :
    AllocatorProtocol physAddress flags forceWrite result
      [] where
  hThree := Nat.zero_le _
  hFailed := iff_of_false hFailed (by simp [answers])
  hLast hZero := absurd hZero (by simp [answers])
  hInvalid _ := rfl
  hStored hOk := absurd hOk hStored

/- What every call past the checks comes down to. -/
theorem tablesAndLeaf_emits
    (rootPageTable virtAddress physAddress : Addr)
    (flags : PageFlags)
    (forceWrite pagingDisabledNow : Bool)
    (t : Logged State BusEvent) :
    Emits
      (tablesFor access.bus rootPageTable pagingDisabledNow
          virtAddress >>=
        fun found =>
          match found with
          | none => pure .AllocFailed
          | some entries =>
              writeLeaf access.bus
                (tablePointer pagingDisabledNow
                  entries.entryForL1
                  (recursiveL1 virtAddress))
                virtAddress physAddress flags forceWrite)
      t
      (AllocatorProtocol physAddress flags forceWrite) := by
  apply
    tablesThenLeaf_allocatorProtocol access rootPageTable
      virtAddress physAddress flags forceWrite
      pagingDisabledNow
  · rfl
  · intro entries u
    exact writeLeaf_leavesFramesAlone access _ _ _ _ _ u

theorem mapPage_emits
    (rootPageTable virtAddress physAddress : Addr)
    (flags : PageFlags)
    (forceWrite pagingDisabledNow : Bool)
    (t : Logged State BusEvent) :
    Emits
      (mapPage access.bus rootPageTable virtAddress
        physAddress flags forceWrite pagingDisabledNow)
      t
      (AllocatorProtocol physAddress flags forceWrite) := by
  simp only [mapPage, indicesTooLarge_eq_false,
    Bool.false_eq_true, if_false]
  have hTables :=
    tablesAndLeaf_emits access rootPageTable virtAddress
      physAddress flags forceWrite pagingDisabledNow
  cases hSign : signExtensionOk virtAddress with
  | false =>
      simp only [Bool.false_eq_true, not_false_eq_true,
        if_true]
      apply emits_pure
      exact allocatorProtocol_nil (by simp) (by simp)
  | true =>
      simp only [not_true_eq_false, if_false]
      cases forceWrite with
      | true =>
          simp only [not_true_eq_false, if_false]
          exact hTables t
      | false =>
          simp only [Bool.false_eq_true, not_false_eq_true,
            if_true]
          apply (translateVirtToPhys_emits access _ _ t).bind
          · rintro existing new u rfl _
            simp only [List.append_nil]
            split_ifs
            · apply emits_pure
              exact
                allocatorProtocol_nil (by simp) (by simp)
            · exact hTables u
          · rintro fault new rfl
            exact allocatorProtocol_nil (by simp) (by simp)

/-
  Every call keeps to the protocol, for any content of
  memory, any way to reach it and any allocator; the two
  modes are `bootAccess` and `liveAccess`.
-/
theorem mapPage_allocatorProtocol
    (rootPageTable virtAddress physAddress : Addr)
    (flags : PageFlags)
    (forceWrite pagingDisabledNow : Bool)
    (s : State) :
    let traced :=
      exec
        (mapPage access.bus rootPageTable virtAddress
          physAddress flags forceWrite pagingDisabledNow)
        { state := s, events := [] }
    AllocatorProtocol physAddress flags forceWrite traced.1
      traced.2.events := by
  intro traced
  rcases
    mapPage_emits access rootPageTable virtAddress
      physAddress flags forceWrite pagingDisabledNow
      { state := s, events := [] } with
    ⟨new, hEvents, hProtocol⟩
  rw [List.append_nil] at hEvents
  rw [← hEvents] at hProtocol
  exact hProtocol

end Calls

end Paginator

end Chihuahua
