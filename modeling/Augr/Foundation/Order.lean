import Augr.Foundation.Scan
import Mathlib.Data.List.Sort
import Mathlib.Data.Prod.Lex

/-! Sorting, lookup and selection that do not see the order of their input.

Each is read through a key into a linear order. Items with one key are one item, so
what comes out is settled by which items went in.
-/

set_option autoImplicit false

namespace Augr.Foundation

section
variable {α κ : Type} [LinearOrder κ]

theorem pairwise_insertionSort (key : α → κ) {before : α → α → Prop} [DecidableRel before]
    (reads : ∀ first second, before first second ↔ key first ≤ key second) (rows : List α) :
    (rows.insertionSort before).Pairwise before := by
  have total : Std.Total before := ⟨fun first second => by simpa [reads] using le_total (key first) (key second)⟩
  have transitive : IsTrans α before := ⟨fun first second third => by
    simp only [reads]
    exact le_trans⟩
  exact List.pairwise_insertionSort before rows

theorem insertionSort_eq_of_perm (key : α → κ) {before : α → α → Prop} [DecidableRel before]
    (reads : ∀ first second, before first second ↔ key first ≤ key second) {left right : List α}
    (perm : left.Perm right)
    (apart : ∀ ⦃first⦄, first ∈ left → ∀ ⦃second⦄, second ∈ left → key first = key second → first = second) :
    left.insertionSort before = right.insertionSort before := by
  apply List.Perm.eq_of_pairwise _ (pairwise_insertionSort key reads left) (pairwise_insertionSort key reads right)
  · exact (List.perm_insertionSort before left).trans (perm.trans (List.perm_insertionSort before right).symm)
  · intro first second inLeft inRight ahead behind
    rw [List.mem_insertionSort] at inLeft inRight
    exact apart inLeft (perm.mem_iff.mpr inRight) (le_antisymm ((reads _ _).mp ahead) ((reads _ _).mp behind))

end

section
variable {α γ : Type} [DecidableEq γ] {group : α → γ}

theorem find_group_eq_some {rows : List α} (distinct : (rows.map group).Nodup) (id : γ) (row : α) :
    rows.find? (fun other => group other == id) = some row ↔ row ∈ rows ∧ group row = id := by
  constructor
  · intro found
    exact ⟨List.mem_of_find?_eq_some found, by simpa using List.find?_some found⟩
  · rintro ⟨member, rfl⟩
    cases found : rows.find? (fun other => group other == group row) with
    | none =>
      have missed := List.find?_eq_none.mp found row member
      simp at missed
    | some other =>
      have same : group other = group row := by simpa using List.find?_some found
      rw [List.inj_on_of_nodup_map distinct (List.mem_of_find?_eq_some found) member same]

theorem find_group_eq_of_perm {left right : List α} (perm : left.Perm right) (distinct : (left.map group).Nodup)
    (id : γ) : left.find? (fun row => group row == id) = right.find? (fun row => group row == id) := by
  apply Option.ext
  intro row
  have other : (right.map group).Nodup := (perm.map group).nodup_iff.mp distinct
  rw [find_group_eq_some distinct, find_group_eq_some other, perm.mem_iff]

end

/-! A table that keeps the latest item of each group. Its newest entry of a group is
the one that counts, so storing an item means putting it in front. -/

section
variable {α κ γ : Type} [LinearOrder κ] [DecidableEq γ]

structure Selects (group : α → γ) (key : α → κ) (seen table : List α) : Prop where
  found : ∀ item ∈ seen, (table.find? fun entry => group entry == group item).isSome
  latest : ∀ id item, (table.find? fun entry => group entry == id) = some item →
    item ∈ seen ∧ ∀ other ∈ seen, group other = id → key other ≤ key item

namespace Selects

variable {group : α → γ} {key : α → κ} {seen table : List α}

theorem empty : Selects group key [] [] where
  found := nofun
  latest := nofun

theorem store (selects : Selects group key seen table) {item : α}
    (newest : ∀ current, (table.find? fun entry => group entry == group item) = some current → key current ≤ key item) :
    Selects group key (seen ++ [item]) (item :: table) where
  found := by
    refine List.forall_mem_append.mpr ⟨fun other member => ?_, by simp⟩
    by_cases same : group item = group other
    · simp [same]
    · simpa [same] using selects.found other member
  latest := by
    intro id stored isStored
    rw [List.forall_mem_append, List.forall_mem_singleton]
    by_cases same : group item = id
    · have isItem : item = stored := by simpa [same] using isStored
      subst isItem
      refine ⟨by simp, fun other older inGroup => ?_, fun _ => le_rfl⟩
      -- an older item of the group is at most the entry it lost to
      obtain ⟨current, isCurrent⟩ := Option.isSome_iff_exists.mp (selects.found other older)
      rw [inGroup] at isCurrent
      have ahead := (selects.latest id current isCurrent).2 other older inGroup
      exact ahead.trans (newest current (same ▸ isCurrent))
    · have before := selects.latest id stored (by simpa [same] using isStored)
      exact ⟨List.mem_append_left _ before.1, before.2, fun inGroup => absurd inGroup same⟩

theorem keep (selects : Selects group key seen table) {item current : α}
    (isCurrent : (table.find? fun entry => group entry == group item) = some current) (older : key item ≤ key current) :
    Selects group key (seen ++ [item]) table where
  found := List.forall_mem_append.mpr ⟨selects.found, by
    rw [List.forall_mem_singleton, isCurrent]
    rfl⟩
  latest := by
    intro id stored isStored
    obtain ⟨inSeen, highest⟩ := selects.latest id stored isStored
    rw [List.forall_mem_append, List.forall_mem_singleton]
    refine ⟨List.mem_append_left _ inSeen, highest, fun inGroup => ?_⟩
    rw [inGroup, isStored] at isCurrent
    cases isCurrent
    exact older

/-- The entry of a group is the best of its items. -/
theorem best (selects : Selects group key seen table) (id : γ) :
    Best (fun item => group item == id) key seen (table.find? fun entry => group entry == id) where
  kept item isStored := ⟨(selects.latest id item isStored).1, by simpa using List.find?_some isStored⟩
  highest item member inGroup := by
    have present := selects.found item member
    rw [beq_iff_eq.mp inGroup] at present
    obtain ⟨stored, isStored⟩ := Option.isSome_iff_exists.mp present
    exact ⟨stored, isStored, (selects.latest id stored isStored).2 item member (beq_iff_eq.mp inGroup)⟩

theorem lookup_eq {seen' table' : List α} (first : Selects group key seen table)
    (second : Selects group key seen' table') (same : ∀ item, item ∈ seen ↔ item ∈ seen')
    (distinct : ∀ left ∈ seen, ∀ right ∈ seen, key left = key right → left = right) (id : γ) :
    (table.find? fun entry => group entry == id) = table'.find? fun entry => group entry == id :=
  (first.best id).unique (second.best id) (fun item _ => same item) fun left inLeft right inRight _ _ =>
    distinct left inLeft right inRight

end Selects

end

end Augr.Foundation
