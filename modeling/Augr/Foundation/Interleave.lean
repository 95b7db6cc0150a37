import Mathlib.Algebra.BigOperators.Group.List.Basic
import Mathlib.Data.List.Sort

/-! Interleavings: two lists woven into one, each in its own order. -/

set_option autoImplicit false

namespace Augr.Foundation

variable {α β : Type}

inductive Interleaved : List α → List α → List α → Prop
  | nil : Interleaved [] [] []
  | left (item : α) {first second woven : List α} (rest : Interleaved first second woven) :
      Interleaved (item :: first) second (item :: woven)
  | right (item : α) {first second woven : List α} (rest : Interleaved first second woven) :
      Interleaved first (item :: second) (item :: woven)

namespace Interleaved

variable {first second woven : List α}

theorem mem_iff (weave : Interleaved first second woven) (item : α) : item ∈ woven ↔ item ∈ first ∨ item ∈ second := by
  induction weave with
  | nil => simp
  | left other rest ih => simp [ih, or_assoc]
  | right other rest ih => simp [ih, or_left_comm]

theorem swap (weave : Interleaved first second woven) : Interleaved second first woven := by
  induction weave with
  | nil => exact .nil
  | left item rest ih => exact .right item ih
  | right item rest ih => exact .left item ih

theorem filterMap (weave : Interleaved first second woven) (change : α → Option β) :
    Interleaved (first.filterMap change) (second.filterMap change) (woven.filterMap change) := by
  induction weave with
  | nil => exact .nil
  | left item rest ih =>
    cases changed : change item with
    | none => simpa [changed] using ih
    | some result =>
      simp only [List.filterMap_cons, changed]
      exact .left result ih
  | right item rest ih =>
    cases changed : change item with
    | none => simpa [changed] using ih
    | some result =>
      simp only [List.filterMap_cons, changed]
      exact .right result ih

theorem filter (weave : Interleaved first second woven) (kept : α → Bool) :
    Interleaved (first.filter kept) (second.filter kept) (woven.filter kept) := by
  simp only [← List.filterMap_eq_filter]
  exact weave.filterMap _

theorem sum [AddCommMonoid β] (weave : Interleaved first second woven) (amount : α → β) :
    (woven.map amount).sum = (first.map amount).sum + (second.map amount).sum := by
  induction weave with
  | nil => simp
  | left item rest ih => simp only [List.map_cons, List.sum_cons, ih, add_assoc]
  | right item rest ih =>
    simp only [List.map_cons, List.sum_cons, ih]
    rw [add_left_comm]

/-! A stable sort weaves the sorted lists. -/

section
variable (before : α → α → Prop) [DecidableRel before] (transitive : ∀ a b c, before a b → before b c → before a c)
include transitive

theorem orderedInsert (weave : Interleaved first second woven) (sorted : woven.Pairwise before) (item : α) :
    Interleaved (first.orderedInsert before item) second (woven.orderedInsert before item) := by
  induction weave with
  | nil => exact .left item .nil
  | left other rest ih =>
    simp only [List.orderedInsert_cons]
    split_ifs
    · exact .left item (.left other rest)
    · exact .left other (ih (List.pairwise_cons.mp sorted).2)
  | @right other first second woven rest ih =>
    simp only [List.orderedInsert_cons]
    split_ifs with ahead
    · -- the item stands before everything that follows, hence before the first list
      have early : first.orderedInsert before item = item :: first := by
        cases first with
        | nil => rfl
        | cons head tail =>
          have follows := (List.pairwise_cons.mp sorted).1 head ((rest.mem_iff head).mpr (.inl List.mem_cons_self))
          rw [List.orderedInsert_cons, if_pos (transitive _ _ _ ahead follows)]
      rw [early]
      exact .left item (.right other rest)
    · exact .right other (ih (List.pairwise_cons.mp sorted).2)

theorem insertionSort (total : ∀ a b, before a b ∨ before b a) (weave : Interleaved first second woven) :
    Interleaved (first.insertionSort before) (second.insertionSort before) (woven.insertionSort before) := by
  have sorted : ∀ items : List α, (items.insertionSort before).Pairwise before := by
    have isTotal : Std.Total before := ⟨total⟩
    have isTrans : IsTrans α before := ⟨transitive⟩
    exact fun items => List.pairwise_insertionSort before items
  induction weave with
  | nil => exact .nil
  | left item rest ih =>
    rw [List.insertionSort_cons, List.insertionSort_cons]
    exact ih.orderedInsert before transitive (sorted _) item
  | right item rest ih =>
    rw [List.insertionSort_cons, List.insertionSort_cons]
    exact (ih.swap.orderedInsert before transitive (sorted _) item).swap

end

end Interleaved

end Augr.Foundation
