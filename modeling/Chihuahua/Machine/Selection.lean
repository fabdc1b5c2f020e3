import Mathlib.Tactic

/-
  The choice of one element of a list by a measure, by going
  through the list and keeping the element that is strictly
  better than the one before.

  Main declarations:
    * `FirstLeast` and `FirstLeast.unique`
    * `prefer` and `foldl_prefer_firstLeast`
    * `exists_firstLeast`
-/

namespace Selection

variable {α β : Type} [LinearOrder β]

/- The least element, the first one of several. -/
def FirstLeast
    (measure : α → β)
    (items : List α)
    (chosen : α) : Prop :=
  ∃ past future,
    items = past ++ chosen :: future ∧
      (∀ item ∈ past, measure chosen < measure item) ∧
      ∀ item ∈ future, measure chosen ≤ measure item

namespace FirstLeast

variable {measure : α → β} {items : List α}
variable {chosen chosen' : α}

theorem mem
    (hFirst : FirstLeast measure items chosen) :
    chosen ∈ items := by
  rcases hFirst with ⟨past, future, rfl, _, _⟩
  exact List.mem_append_right past List.mem_cons_self

theorem le
    (hFirst : FirstLeast measure items chosen)
    {item : α}
    (hItem : item ∈ items) :
    measure chosen ≤ measure item := by
  rcases hFirst with ⟨past, future, rfl, hPast, hFuture⟩
  rcases List.mem_append.mp hItem with hEarlier | hLater
  · exact (hPast item hEarlier).le
  rcases List.mem_cons.mp hLater with rfl | hLater
  · exact le_rfl
  · exact hFuture item hLater

theorem unique
    (hFirst : FirstLeast measure items chosen)
    (hFirst' : FirstLeast measure items chosen') :
    chosen = chosen' := by
  rcases hFirst with ⟨past, future, hItems, hPast, hFuture⟩
  rcases hFirst' with
    ⟨past', future', hItems', hPast', hFuture'⟩
  rw [hItems] at hItems'
  rcases List.append_eq_append_iff.mp hItems' with
    ⟨middle, rfl, hRest⟩ | ⟨middle, rfl, hRest⟩
  · cases middle with
    | nil => exact (List.cons.inj hRest).1
    | cons first middle =>
        rcases List.cons.inj hRest with ⟨rfl, rfl⟩
        have hBefore := hPast' chosen (by simp)
        have hAfter := hFuture chosen' (by simp)
        exact absurd hBefore (not_lt.mpr hAfter)
  · cases middle with
    | nil => exact (List.cons.inj hRest).1.symm
    | cons first middle =>
        rcases List.cons.inj hRest with ⟨rfl, rfl⟩
        have hBefore := hPast chosen' (by simp)
        have hAfter := hFuture' chosen (by simp)
        exact absurd hBefore (not_lt.mpr hAfter)

/- Only the measure of the elements there are matters. -/
theorem congr
    {measure' : α → β}
    (hSame : ∀ item ∈ items, measure item = measure' item)
    (hFirst : FirstLeast measure items chosen) :
    FirstLeast measure' items chosen := by
  rcases hFirst with ⟨past, future, rfl, hPast, hFuture⟩
  have hChosen : measure chosen = measure' chosen :=
    hSame chosen (by simp)
  refine ⟨past, future, rfl, ?_, ?_⟩
  · intro item hItem
    have hLess := hPast item hItem
    rw [hChosen, hSame item (by simp [hItem])] at hLess
    exact hLess
  · intro item hItem
    have hLe := hFuture item hItem
    rw [hChosen, hSame item (by simp [hItem])] at hLe
    exact hLe

/-
  A choice by a lower bound of the costs has the least cost
  if the bound is exact for what is chosen.
-/
theorem cost_le
    {cost : α → β}
    (hFirst : FirstLeast measure items chosen)
    (hBound : ∀ item, measure item ≤ cost item)
    (hExact : measure chosen = cost chosen)
    {item : α}
    (hItem : item ∈ items) :
    cost chosen ≤ cost item :=
  calc
    cost chosen = measure chosen := hExact.symm
    _ ≤ measure item := hFirst.le hItem
    _ ≤ cost item := hBound item

end FirstLeast

/- The next element replaces one it is strictly less than. -/
def prefer
    (measure : α → β)
    (best item : α) : α :=
  if measure item < measure best then item else best

/- One more element at the end of the list. -/
theorem FirstLeast.concat
    {measure : α → β}
    {items : List α}
    {best : α}
    (hFirst : FirstLeast measure items best)
    (item : α) :
    FirstLeast measure (items ++ [item])
      (prefer measure best item) := by
  unfold prefer
  split_ifs with hLess
  · refine ⟨items, [], rfl, ?_, by simp⟩
    intro other hOther
    exact lt_of_lt_of_le hLess (hFirst.le hOther)
  · rcases hFirst with ⟨past, future, rfl, hPast, hFuture⟩
    refine ⟨past, future ++ [item], by simp, hPast, ?_⟩
    intro other hOther
    rcases List.mem_append.mp hOther with hEarlier | hLast
    · exact hFuture other hEarlier
    · rw [List.mem_singleton.mp hLast]
      exact not_lt.mp hLess

theorem foldl_prefer_firstLeast
    (measure : α → β)
    {past : List α}
    {best : α}
    (hFirst : FirstLeast measure past best)
    (items : List α) :
    FirstLeast measure (past ++ items)
      (items.foldl (prefer measure) best) := by
  induction items generalizing past best with
  | nil =>
      rw [List.append_nil]
      exact hFirst
  | cons item items ih =>
      have hNext := ih (hFirst.concat item)
      rw [List.append_assoc, List.singleton_append] at hNext
      exact hNext

theorem exists_firstLeast
    (measure : α → β)
    (first : α)
    (items : List α) :
    ∃ chosen, FirstLeast measure (first :: items) chosen := by
  have hFirst : FirstLeast measure [first] first :=
    ⟨[], [], rfl, by simp, by simp⟩
  exact ⟨_, foldl_prefer_firstLeast measure hFirst items⟩

end Selection
