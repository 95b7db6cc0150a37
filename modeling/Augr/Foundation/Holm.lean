import Mathlib.Algebra.Order.Field.Basic
import Mathlib.Data.List.Perm.Subperm
import Mathlib.Tactic.Linarith

/-! The step-down correction of Holm for a family of probabilities.

The procedure walks through the sorted family and keeps a running maximum. An adjusted value is described here by
the levels it stays within, which mentions neither the order of the family nor the rank of a member. -/

set_option autoImplicit false

namespace Augr.Foundation.Holm

variable {K : Type} [LinearOrder K] {family larger done rest : List K} {value other running adjusted raised : K}

def atLeast (family : List K) (value : K) : Nat := family.countP fun member => value ≤ member

section
variable (sorted : (done ++ value :: rest).Pairwise (· ≤ ·))
include sorted

theorem length_le_atLeast : rest.length + 1 ≤ atLeast (done ++ value :: rest) value := by
  have tail : ∀ member ∈ value :: rest, decide (value ≤ member) = true := by
    rintro member (_ | ⟨_, later⟩)
    · simp
    · simpa using (List.pairwise_cons.mp (List.pairwise_append.mp sorted).2.1).1 member later
  rw [atLeast, List.countP_append, List.countP_eq_length.mpr tail, List.length_cons]
  exact Nat.le_add_left _ _

theorem atLeast_eq_length (fresh : value ∉ done) : atLeast (done ++ value :: rest) value = rest.length + 1 := by
  refine le_antisymm ?_ (length_le_atLeast sorted)
  have none_before : done.countP (fun member => decide (value ≤ member)) = 0 := by
    rw [List.countP_eq_zero]
    intro member inside reached
    have below := (List.pairwise_append.mp sorted).2.2 member inside value List.mem_cons_self
    exact fresh (le_antisymm below (of_decide_eq_true reached) ▸ inside)
  rw [atLeast, List.countP_append, none_before, zero_add]
  exact List.countP_le_length

end

section
variable [Field K]

/-- The step-down rule for all members up to the value. -/
def Within (family : List K) (value level : K) : Prop :=
  ∀ member ∈ family, member ≤ value → member * atLeast family member ≤ level

structure Adjusts (family : List K) (value adjusted : K) : Prop where
  nonneg : 0 ≤ adjusted
  bounded : ∀ level, 0 ≤ level → (adjusted ≤ level ↔ 1 ≤ level ∨ Within family value level)

theorem Adjusts.perm (adjusts : Adjusts family value adjusted) (perm : family.Perm larger) :
    Adjusts larger value adjusted := by
  refine ⟨adjusts.nonneg, fun level positive => ?_⟩
  rw [adjusts.bounded level positive]
  simp only [Within, atLeast, perm.mem_iff, perm.countP_eq]

/-- The running maximum behind the members that are done. -/
structure Carried (family done : List K) (running : K) : Prop where
  nonneg : 0 ≤ running
  bounded : ∀ level, 0 ≤ level →
    (running ≤ level ↔ 1 ≤ level ∨ ∀ member ∈ done, member * atLeast family member ≤ level)

theorem Carried.start (family : List K) : Carried family [] 0 := ⟨le_rfl, fun level positive => by simp [positive]⟩

theorem Carried.adjusts (sorted : (done ++ value :: rest).Pairwise (· ≤ ·))
    (carried : Carried (done ++ value :: rest) (done ++ [value]) adjusted) :
    Adjusts (done ++ value :: rest) value adjusted := by
  refine ⟨carried.nonneg, fun level positive => ?_⟩
  rw [carried.bounded level positive]
  have ordered := List.pairwise_append.mp sorted
  refine or_congr_right ⟨fun within member inside low => ?_, fun within member inside => ?_⟩
  · rcases List.mem_append.mp inside with earlier | (_ | ⟨_, later⟩)
    · exact within member (List.mem_append_left _ earlier)
    · exact within _ (by simp)
    · have same := le_antisymm low ((List.pairwise_cons.mp ordered.2.1).1 member later)
      exact same ▸ within value (by simp)
  · rcases List.mem_append.mp inside with earlier | last
    · exact within member (List.mem_append_left _ earlier) (ordered.2.2 member earlier value List.mem_cons_self)
    · rw [List.mem_singleton.mp last]
      exact within value (by simp) le_rfl

variable [IsStrictOrderedRing K]

theorem Adjusts.le_one (adjusts : Adjusts family value adjusted) : adjusted ≤ 1 :=
  (adjusts.bounded 1 zero_le_one).mpr (Or.inl le_rfl)

theorem Adjusts.le_iff (adjusts : Adjusts family value adjusted) (member : value ∈ family) (nonneg : 0 ≤ value) {level : K}
    (below : level < 1) : adjusted ≤ level ↔ Within family value level := by
  constructor
  · intro within
    have decided := (adjusts.bounded level (adjusts.nonneg.trans within)).mp within
    exact decided.resolve_left (not_le.mpr below)
  · intro within
    have positive : 0 ≤ level := (mul_nonneg nonneg (Nat.cast_nonneg _)).trans (within value member le_rfl)
    exact (adjusts.bounded level positive).mpr (Or.inr within)

theorem Adjusts.value_le (adjusts : Adjusts family value adjusted) (member : value ∈ family) (nonneg : 0 ≤ value)
    (atMost : value ≤ 1) : value ≤ adjusted := by
  rcases (adjusts.bounded adjusted adjusts.nonneg).mp le_rfl with full | within
  · exact atMost.trans full
  · have counted : (1 : K) ≤ atLeast family value := by
      exact_mod_cast List.countP_pos_iff.mpr ⟨value, member, by simp⟩
    calc value = value * 1 := (mul_one value).symm
      _ ≤ value * atLeast family value := mul_le_mul_of_nonneg_left counted nonneg
      _ ≤ adjusted := within value member le_rfl

theorem Adjusts.mono (adjusts : Adjusts family value adjusted) (other_adjusts : Adjusts larger other raised)
    (contained : family.Subperm larger) (nonneg : ∀ member ∈ larger, 0 ≤ member) (above : value ≤ other) :
    adjusted ≤ raised := by
  refine (adjusts.bounded raised other_adjusts.nonneg).mpr ?_
  refine ((other_adjusts.bounded raised other_adjusts.nonneg).mp le_rfl).imp_right fun within member inside low => ?_
  have kept := contained.subset inside
  have counted : (atLeast family member : K) ≤ atLeast larger member := by exact_mod_cast contained.countP_le _
  exact (mul_le_mul_of_nonneg_left counted (nonneg member kept)).trans (within member kept (low.trans above))

theorem Carried.step (sorted : (done ++ value :: rest).Pairwise (· ≤ ·)) (nonneg : 0 ≤ value)
    (carried : Carried (done ++ value :: rest) done running) :
    Carried (done ++ value :: rest) (done ++ [value]) (max running (min 1 (value * (rest.length + 1 : Nat)))) := by
  refine ⟨carried.nonneg.trans (le_max_left _ _), fun level positive => ?_⟩
  rw [max_le_iff, carried.bounded level positive, min_le_iff, ← or_and_left, List.forall_mem_append,
    List.forall_mem_singleton]
  refine or_congr_right (and_congr_right fun earlier => ?_)
  by_cases fresh : value ∈ done
  · -- A tie: the first of the equal members had the larger factor.
    have first := earlier value fresh
    have fewer : ((rest.length + 1 : Nat) : K) ≤ atLeast (done ++ value :: rest) value := by
      exact_mod_cast length_le_atLeast sorted
    exact iff_of_true ((mul_le_mul_of_nonneg_left fewer nonneg).trans first) first
  · rw [atLeast_eq_length sorted fresh]

end

end Augr.Foundation.Holm
