import Augr.Foundation.Order
import Augr.Foundation.Text
import Mathlib.Data.List.Dedup
import Mathlib.Data.List.Lex

/-! Tables that a loop fills row by row, rows in the order of a key, and the keys of two tables. -/

set_option autoImplicit false

namespace Augr.Foundation

section
variable {α κ : Type} [DecidableEq κ] {key : α → κ} {rows : List α}

/-- What the table holds for a key: the last row stored under it. -/
def latest (key : α → κ) (rows : List α) (sought : κ) : Option α := rows.reverse.find? fun row => key row == sought

theorem latest_eq_none (sought : κ) : latest key rows sought = none ↔ ∀ row ∈ rows, key row ≠ sought := by
  simp [latest, List.find?_eq_none]

def replaceRow (key : α → κ) (new : α) (rows : List α) : List α := rows.map fun row => if key row = key new then new else row

end

theorem nodup_append_row {α κ : Type} {key : α → κ} {rows : List α} {new : α} (distinct : (rows.map key).Nodup)
    (fresh : ∀ row ∈ rows, key row ≠ key new) : ((rows ++ [new]).map key).Nodup := by
  rw [List.map_append, List.map_singleton]
  refine List.nodup_append.mpr ⟨distinct, List.nodup_singleton _, fun first member last single same => ?_⟩
  obtain ⟨row, inside, rfl⟩ := List.mem_map.mp member
  exact fresh row inside (same.trans (List.mem_singleton.mp single))

/-! Rows that are kept in the order of a key, and the binary search among them. -/

section
variable {α κ : Type} [LinearOrder κ] (key : α → κ)

def sortedBy (rows : List α) : List α := rows.insertionSort fun left right => ¬ key right < key left

/-- The first row whose key is not before the sought one. -/
def searchBy (rows : List α) (sought : κ) : Option α := rows.find? fun row => ¬ key row < sought

def Ascending (rows : List α) : Prop := rows.IsChain fun left right => key left < key right

instance (rows : List α) : Decidable (Ascending key rows) := by
  unfold Ascending
  infer_instance

@[simp] theorem mem_sortedBy (rows : List α) (row : α) : row ∈ sortedBy key rows ↔ row ∈ rows :=
  List.mem_insertionSort _

theorem perm_sortedBy (rows : List α) : (sortedBy key rows).Perm rows := List.perm_insertionSort _ _

theorem pairwise_sortedBy (rows : List α) : (sortedBy key rows).Pairwise fun left right => ¬ key right < key left :=
  pairwise_insertionSort key (fun _ _ => not_lt) rows

theorem sortedBy_eq_of_perm {rows others : List α} (same : rows.Perm others)
    (apart : ∀ left ∈ rows, ∀ right ∈ rows, key left = key right → left = right) :
    sortedBy key rows = sortedBy key others :=
  insertionSort_eq_of_perm key (fun _ _ => not_lt) same fun left inLeft right inRight => apart left inLeft right inRight

theorem map_sortedBy {β : Type} (change : α → β) (changed : β → κ) (rows : List α) :
    (sortedBy (fun row => changed (change row)) rows).map change = sortedBy changed (rows.map change) :=
  List.map_insertionSort _ _ change rows fun _ _ _ _ => Iff.rfl

variable {key} {rows : List α}

/-- Rows whose keys stand as those of sorted rows do are sorted themselves. -/
theorem sortedBy_of_keys {order : List α} (ordered : order.Pairwise fun left right => ¬ key right < key left)
    (keys : rows.map key = order.map key) : sortedBy key rows = rows := by
  apply List.Pairwise.insertionSort_eq
  rw [← List.pairwise_map (f := key) (R := fun left right => ¬ right < left)] at ordered ⊢
  rwa [keys]

theorem Ascending.pairwise (ascending : Ascending key rows) : rows.Pairwise fun left right => key left < key right := by
  have transitive : IsTrans α fun left right => key left < key right := ⟨fun _ _ _ => lt_trans⟩
  exact List.isChain_iff_pairwise.mp ascending

theorem Ascending.sortedBy_eq (ascending : Ascending key rows) : sortedBy key rows = rows := by
  apply List.Pairwise.insertionSort_eq
  exact ascending.pairwise.imp fun less => lt_asymm less

end

/-! A loop that keeps each item once. -/

section
variable {α : Type} [DecidableEq α]

def keepOnce (kept : List α) (item : α) : List α := if kept.contains item then kept else kept ++ [item]

end

/-! Two tables compared key by key. -/

section
variable {α β κ ι : Type} [DecidableEq κ] [LinearOrder ι] (rank : κ → ι)

/-- The keys of two tables, each once, in the order they are visited. -/
def visited (left right : List κ) : List κ := sortedBy rank (left ++ right).dedup

@[simp] theorem mem_visited (left right : List κ) (sought : κ) :
    sought ∈ visited rank left right ↔ sought ∈ left ∨ sought ∈ right := by
  rw [visited, mem_sortedBy, List.mem_dedup, List.mem_append]

end

/-- Strings are compared by their bytes. -/
def byteOrder (text : String) : List Nat := (Text.utf8 text).map UInt8.toNat

theorem byteOrder_injective : Function.Injective byteOrder := by
  intro left right same
  exact Text.utf8_injective (List.map_injective_iff.mpr (fun _ _ => UInt8.toNat_inj.mp) same)

end Augr.Foundation
