import Mathlib.Data.List.Lex
import Mathlib.Tactic

/-
  Integers whose sign tells how two lists compare: negative
  where the first one comes first in the lexicographic
  order, and zero where they are the same.

  Main declarations:
    * `OrdersAs`
    * `OrdersAs.sign_unique`, `OrdersAs.opposite` and
      `OrdersAs.le_trans`
    * `append_lt_append_iff` and `OrdersAs.append`
-/

------------------------------------------------------------
-- Signs
------------------------------------------------------------

namespace Lexicographic

variable {α : Type} [LinearOrder α]

structure OrdersAs
    (result : Int)
    (xs ys : List α) : Prop where
  hLess : result < 0 ↔ xs < ys
  hSame : result = 0 ↔ xs = ys

namespace OrdersAs

variable {result result' : Int}
variable {xs ys zs : List α}

theorem pos_iff
    (hOrders : OrdersAs result xs ys) :
    0 < result ↔ ys < xs := by
  constructor
  · intro hPos
    rcases lt_trichotomy xs ys with hLt | hEq | hGt
    · exact absurd (hOrders.hLess.mpr hLt) hPos.not_gt
    · exact absurd (hOrders.hSame.mpr hEq) hPos.ne'
    · exact hGt
  · intro hGt
    rcases lt_trichotomy result 0 with hNeg | hZero | hPos
    · exact absurd (hOrders.hLess.mp hNeg) hGt.not_gt
    · exact absurd (hOrders.hSame.mp hZero) hGt.ne'
    · exact hPos

theorem nonpos_iff
    (hOrders : OrdersAs result xs ys) :
    result ≤ 0 ↔ xs ≤ ys := by
  rw [← not_lt, hOrders.pos_iff, not_lt]

/- The lists leave no choice of the sign. -/
theorem sign_unique
    (hOrders : OrdersAs result xs ys)
    (hOrders' : OrdersAs result' xs ys) :
    result.sign = result'.sign := by
  rcases lt_trichotomy xs ys with hLt | hEq | hGt
  · rw [Int.sign_eq_neg_one_of_neg (hOrders.hLess.mpr hLt),
      Int.sign_eq_neg_one_of_neg (hOrders'.hLess.mpr hLt)]
  · rw [hOrders.hSame.mpr hEq, hOrders'.hSame.mpr hEq]
  · rw [Int.sign_eq_one_of_pos (hOrders.pos_iff.mpr hGt),
      Int.sign_eq_one_of_pos (hOrders'.pos_iff.mpr hGt)]

/- The other way round, the sign changes. -/
theorem neg
    (hOrders : OrdersAs result xs ys) :
    OrdersAs (-result) ys xs where
  hLess := by
    rw [neg_lt_zero]
    exact hOrders.pos_iff
  hSame := by
    rw [neg_eq_zero, hOrders.hSame]
    exact eq_comm

theorem opposite
    (hOrders : OrdersAs result xs ys)
    (hOrders' : OrdersAs result' ys xs) :
    result'.sign = -result.sign := by
  rw [hOrders'.sign_unique hOrders.neg, Int.sign_neg]

theorem le_trans
    {result'' : Int}
    (hFirst : OrdersAs result xs ys)
    (hSecond : OrdersAs result' ys zs)
    (hBoth : OrdersAs result'' xs zs)
    (hLe : result ≤ 0)
    (hLe' : result' ≤ 0) :
    result'' ≤ 0 := by
  rw [hBoth.nonpos_iff]
  exact
    (hFirst.nonpos_iff.mp hLe).trans
      (hSecond.nonpos_iff.mp hLe')

------------------------------------------------------------
-- Longer Lists
------------------------------------------------------------

theorem nil : OrdersAs 0 ([] : List α) [] where
  hLess := iff_of_false (lt_irrefl _) (lt_irrefl _)
  hSame := iff_of_true rfl rfl

/- A common first element does not matter. -/
theorem cons
    (hOrders : OrdersAs result xs ys)
    (x : α) :
    OrdersAs result (x :: xs) (x :: ys) where
  hLess := by
    rw [hOrders.hLess, List.cons_lt_cons_iff]
    simp
  hSame := by
    rw [hOrders.hSame, List.cons_inj_right]

/- Where the first elements differ, they decide. -/
theorem of_head
    {x y : α}
    (hNe : x ≠ y)
    (hNonzero : result ≠ 0)
    (hLess : result < 0 ↔ x < y)
    (xs ys : List α) :
    OrdersAs result (x :: xs) (y :: ys) where
  hLess := by
    rw [hLess, List.cons_lt_cons_iff]
    simp [hNe]
  hSame := by
    refine iff_of_false hNonzero ?_
    intro hSame
    exact hNe (List.cons.inj hSame).1

end OrdersAs

/- Of two lists in parts, the first parts decide if they can. -/
theorem append_lt_append_iff
    {xs ys : List α}
    (hLength : xs.length = ys.length)
    (xs' ys' : List α) :
    xs ++ xs' < ys ++ ys' ↔
      xs < ys ∨ xs = ys ∧ xs' < ys' := by
  induction xs generalizing ys with
  | nil =>
      have hNil : ys = [] :=
        List.length_eq_zero_iff.mp hLength.symm
      subst hNil
      simp
  | cons x xs ih =>
      cases ys with
      | nil => cases hLength
      | cons y ys =>
          rw [List.cons_append, List.cons_append,
            List.cons_lt_cons_iff,
            ih (Nat.succ.inj hLength),
            List.cons_lt_cons_iff, List.cons.injEq]
          tauto

theorem OrdersAs.append
    {result result' : Int}
    {xs ys xs' ys' : List α}
    (hLength : xs.length = ys.length)
    (hFront : OrdersAs result xs ys)
    (hBack : OrdersAs result' xs' ys') :
    OrdersAs
      (if result ≠ 0 then result else result')
      (xs ++ xs') (ys ++ ys') := by
  by_cases hZero : result = 0
  · have hSame : xs = ys := hFront.hSame.mp hZero
    subst hSame
    rw [if_neg (not_not.mpr hZero)]
    constructor
    · rw [hBack.hLess, append_lt_append_iff rfl]
      simp
    · rw [hBack.hSame, List.append_cancel_left_eq]
  · have hNe : xs ≠ ys :=
      fun hSame => hZero (hFront.hSame.mpr hSame)
    rw [if_pos hZero]
    constructor
    · rw [hFront.hLess, append_lt_append_iff hLength]
      simp [hNe]
    · refine iff_of_false hZero ?_
      intro hSame
      exact hNe (List.append_inj hSame hLength).1

end Lexicographic
