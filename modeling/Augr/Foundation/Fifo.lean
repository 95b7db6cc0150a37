import Mathlib.Algebra.BigOperators.Ring.List
import Mathlib.Algebra.Order.BigOperators.Group.List
import Mathlib.Algebra.Order.Ring.Abs
import Mathlib.Tactic.LinearCombination
import Mathlib.Tactic.Linarith
import Mathlib.Tactic.Ring

/-! First-in, first-out inventories with signed quantities.

A lot is opened once and then only consumed. Consuming part of it releases some of
its cost; how a partial release is priced is left open, but a lot that is emptied
releases everything it still holds. Several inventories share one list; `key` tells
them apart.
-/

set_option autoImplicit false

namespace Augr.Foundation.Fifo

variable {ι K : Type} [CommRing K] [LinearOrder K]

theorem same_side [IsStrictOrderedRing K] {a b c : K} (first : 0 < a * b) (second : 0 < a * c) : 0 < b * c := by
  have product : 0 < (a * a) * (b * c) := by
    have := mul_pos first second
    linarith [show (a * b) * (a * c) = (a * a) * (b * c) by ring]
  exact (pos_iff_pos_of_mul_pos product).mp (mul_self_pos.mpr fun zero => by simp [zero] at first)

/-- `pieces` are the consumed quantities with the cost each released. -/
structure Lot (ι K : Type) where
  key : ι
  (opened size cost basis : K)
  pieces : List (K × K)

namespace Lot

def taken (lot : Lot ι K) : K := (lot.pieces.map Prod.fst).sum

def released (lot : Lot ι K) : K := (lot.pieces.map Prod.snd).sum

def take (lot : Lot ι K) (step part : K) : Lot ι K :=
  { lot with
    size := lot.size + step
    basis := lot.basis - part
    pieces := lot.pieces ++ [(|step|, part)] }

def fresh (key : ι) (size cost : K) : Lot ι K := ⟨key, size, size, cost, cost, []⟩

/-- Nothing is lost between a lot and its pieces, and a lot never changes sides. -/
structure Sound (lot : Lot ι K) : Prop where
  started : lot.opened ≠ 0
  side : 0 ≤ lot.opened * lot.size
  quantity : |lot.opened| = |lot.size| + lot.taken
  money : lot.cost = lot.basis + lot.released
  empty : lot.size = 0 → lot.basis = 0

@[simp] theorem key_take (lot : Lot ι K) (step part : K) : (lot.take step part).key = lot.key := rfl

@[simp] theorem size_take (lot : Lot ι K) (step part : K) : (lot.take step part).size = lot.size + step := rfl

@[simp] theorem basis_take (lot : Lot ι K) (step part : K) : (lot.take step part).basis = lot.basis - part := rfl

@[simp] theorem taken_take (lot : Lot ι K) (step part : K) : (lot.take step part).taken = lot.taken + |step| := by
  simp [take, taken]

@[simp] theorem released_take (lot : Lot ι K) (step part : K) :
    (lot.take step part).released = lot.released + part := by
  simp [take, released]

section
variable [IsStrictOrderedRing K]

theorem fresh_sound (key : ι) {size : K} (cost : K) (nonzero : size ≠ 0) : (fresh key size cost).Sound where
  started := nonzero
  side := mul_self_nonneg size
  quantity := by simp [fresh, taken]
  money := by simp [fresh, released]
  empty := fun zero => absurd zero nonzero

theorem Sound.close {lot : Lot ι K} (sound : lot.Sound) : (lot.take (-lot.size) lot.basis).Sound where
  started := sound.started
  side := by simp [take]
  quantity := by
    have parts := sound.quantity
    rw [taken_take]
    simp only [take, add_neg_cancel, abs_zero, zero_add, abs_neg]
    linarith
  money := by
    have money := sound.money
    rw [released_take]
    simp only [take]
    linarith
  empty := fun _ => by simp [take]

theorem reduce_side {left size : K} (against : left * size < 0) (smaller : |left| < |size|) :
    0 < size * (size + left) ∧ |size + left| = |size| - |left| := by
  rcases mul_neg_iff.mp against with ⟨positive, below⟩ | ⟨negative, above⟩
  · rw [abs_of_pos positive, abs_of_neg below] at smaller
    have sum : size + left < 0 := by linarith
    refine ⟨mul_pos_of_neg_of_neg below sum, ?_⟩
    rw [abs_of_neg sum, abs_of_neg below, abs_of_pos positive]
    ring
  · rw [abs_of_neg negative, abs_of_pos above] at smaller
    have sum : 0 < size + left := by linarith
    refine ⟨mul_pos above sum, ?_⟩
    rw [abs_of_pos sum, abs_of_pos above, abs_of_neg negative]
    ring

theorem Sound.reduce {lot : Lot ι K} (sound : lot.Sound) {left : K} (part : K) (against : left * lot.size < 0)
    (smaller : |left| < |lot.size|) : (lot.take left part).Sound := by
  obtain ⟨sameSide, rest⟩ := reduce_side against smaller
  have nonzero : lot.size + left ≠ 0 := fun zero => by simp [zero] at sameSide
  refine ⟨sound.started, ?_, ?_, ?_, fun zero => absurd zero nonzero⟩
  · -- opened and size agree in sign, and so do size and size + left
    have isOpen : lot.size ≠ 0 := fun zero => by simp [zero] at against
    have ahead : 0 < lot.size * lot.opened := by
      rw [mul_comm]
      exact sound.side.lt_of_ne (mul_ne_zero sound.started isOpen).symm
    exact (same_side ahead sameSide).le
  · have parts := sound.quantity
    rw [taken_take]
    simp only [take, rest]
    linarith
  · have money := sound.money
    rw [released_take]
    simp only [take]
    linarith

end

end Lot

/-- A signed movement against the lots of one key, oldest first; the last index is what
remains of the movement. Lots of other keys, empty lots and lots on the movement's side
are passed over. -/
inductive Drains (key : ι) : K → List (Lot ι K) → List (Lot ι K) → K → Prop
  | spent (lots : List (Lot ι K)) : Drains key 0 lots lots 0
  | finish (left : K) : Drains key left [] [] left
  | skip {left remaining : K} {lot : Lot ι K} {rest after : List (Lot ι K)}
      (passed : lot.key = key → lot.size = 0 ∨ 0 < left * lot.size)
      (tail : Drains key left rest after remaining) : Drains key left (lot :: rest) (lot :: after) remaining
  | close {left remaining : K} {lot : Lot ι K} {rest after : List (Lot ι K)} (same : lot.key = key)
      (against : left * lot.size < 0) (covered : |lot.size| ≤ |left|)
      (tail : Drains key (left + lot.size) rest after remaining) :
      Drains key left (lot :: rest) (lot.take (-lot.size) lot.basis :: after) remaining
  | reduce {left : K} {lot : Lot ι K} {rest : List (Lot ι K)} (part : K) (same : lot.key = key)
      (against : left * lot.size < 0) (smaller : |left| < |lot.size|) :
      Drains key left (lot :: rest) (lot.take left part :: rest) 0

/-- After an open lot, every lot of its key is untouched and on its side. In particular
closed lots come first and only the first open lot can be partly consumed. -/
def Ordered (lots : List (Lot ι K)) : Prop :=
  lots.Pairwise fun earlier later => earlier.key = later.key → earlier.size ≠ 0 →
    later.size = later.opened ∧ 0 < earlier.size * later.size

/-- Every lot of the key is empty or on the movement's side. -/
def Clear (key : ι) (left : K) (lots : List (Lot ι K)) : Prop :=
  ∀ lot ∈ lots, lot.key = key → lot.size = 0 ∨ 0 < left * lot.size

section
variable [DecidableEq ι]

def net (key : ι) (lots : List (Lot ι K)) : K := (lots.map fun lot => if lot.key = key then lot.size else 0).sum

end

/-- Cost still held, and cost already released, over all keys. -/
def heldCost (lots : List (Lot ι K)) : K := (lots.map Lot.basis).sum

def releasedCost (lots : List (Lot ι K)) : K := (lots.map Lot.released).sum

omit [LinearOrder K] in
theorem heldCost_append (first second : List (Lot ι K)) :
    heldCost (first ++ second) = heldCost first + heldCost second := by
  simp [heldCost]

variable {key : ι} {left remaining : K} {lots after : List (Lot ι K)}

theorem Drains.keys (drains : Drains key left lots after remaining) : after.map Lot.key = lots.map Lot.key := by
  induction drains with
  | spent lots => rfl
  | finish left => rfl
  | skip passed tail ih => simp [ih]
  | close same against covered tail ih => simp [ih, Lot.take]
  | reduce part same against smaller => simp [Lot.take]

theorem Drains.untouched (drains : Drains key left lots after remaining) {lot : Lot ι K} (member : lot ∈ after)
    (other : lot.key ≠ key) : lot ∈ lots := by
  induction drains with
  | spent lots => exact member
  | finish left => exact member
  | skip passed tail ih =>
    rcases List.mem_cons.mp member with rfl | inTail
    · exact List.mem_cons_self
    · exact List.mem_cons_of_mem _ (ih inTail)
  | close same against covered tail ih =>
    rcases List.mem_cons.mp member with rfl | inTail
    · exact absurd same other
    · exact List.mem_cons_of_mem _ (ih inTail)
  | reduce part same against smaller =>
    rcases List.mem_cons.mp member with rfl | inTail
    · exact absurd same other
    · exact List.mem_cons_of_mem _ inTail

theorem Drains.cost (drains : Drains key left lots after remaining) :
    heldCost after + releasedCost after = heldCost lots + releasedCost lots := by
  induction drains with
  | spent lots => rfl
  | finish left => rfl
  | skip passed tail ih =>
    simp only [heldCost, releasedCost, List.map_cons, List.sum_cons] at ih ⊢
    linear_combination ih
  | close same against covered tail ih =>
    simp only [heldCost, releasedCost, List.map_cons, List.sum_cons, Lot.basis_take, Lot.released_take] at ih ⊢
    linear_combination ih
  | reduce part same against smaller =>
    simp only [heldCost, releasedCost, List.map_cons, List.sum_cons, Lot.basis_take, Lot.released_take]
    ring

/-- What the movement lost is what its inventory gained. -/
theorem Drains.net [DecidableEq ι] (drains : Drains key left lots after remaining) (id : ι) :
    Fifo.net id after = Fifo.net id lots + if key = id then left - remaining else 0 := by
  induction drains with
  | spent lots => simp
  | finish left => simp
  | skip passed tail ih =>
    simp only [Fifo.net, List.map_cons, List.sum_cons] at ih ⊢
    rw [ih, add_assoc]
  | close same against covered tail ih =>
    simp only [Fifo.net, List.map_cons, List.sum_cons, Lot.key_take, Lot.size_take, same] at ih ⊢
    rw [ih]
    split_ifs <;> ring
  | reduce part same against smaller =>
    simp only [Fifo.net, List.map_cons, List.sum_cons, Lot.key_take, Lot.size_take, same]
    split_ifs <;> ring

theorem Drains.idle (drains : Drains key left lots after remaining) (clear : Clear key left lots) :
    after = lots ∧ remaining = left := by
  induction drains with
  | spent lots => exact ⟨rfl, rfl⟩
  | finish left => exact ⟨rfl, rfl⟩
  | skip passed tail ih =>
    obtain ⟨sameLots, sameLeft⟩ := ih fun lot member => clear lot (List.mem_cons_of_mem _ member)
    exact ⟨by rw [sameLots], sameLeft⟩
  | close same against covered tail ih =>
    rcases clear _ List.mem_cons_self same with zero | ahead
    · simp [zero] at against
    · exact absurd against (not_lt.mpr (le_of_lt ahead))
  | reduce part same against smaller =>
    rcases clear _ List.mem_cons_self same with zero | ahead
    · simp [zero] at against
    · exact absurd against (not_lt.mpr (le_of_lt ahead))

theorem Drains.of_spent (drains : Drains key 0 lots after remaining) : after = lots ∧ remaining = 0 := by
  generalize spent : (0 : K) = left at drains
  induction drains with
  | spent lots => exact ⟨rfl, rfl⟩
  | finish left => exact ⟨rfl, rfl⟩
  | skip passed tail ih => exact ⟨congrArg _ (ih spent).1, (ih spent).2⟩
  | close same against covered tail ih => simp [← spent] at against
  | reduce part same against smaller => simp [← spent] at against

theorem Ordered.open {size : K} (cost : K) (ordered : Ordered lots)
    (clear : Clear key size lots) : Ordered (lots ++ [Lot.fresh key size cost]) := by
  refine List.pairwise_append.mpr ⟨ordered, List.pairwise_singleton _ _, ?_⟩
  intro lot member opened isNew same started
  cases List.mem_singleton.mp isNew
  refine ⟨rfl, ?_⟩
  have ahead := (clear lot member same).resolve_left started
  rwa [mul_comm] at ahead

section
variable [IsStrictOrderedRing K]

theorem Drains.sound (drains : Drains key left lots after remaining) (sound : ∀ lot ∈ lots, lot.Sound) :
    ∀ lot ∈ after, lot.Sound := by
  induction drains with
  | spent lots => exact sound
  | finish left => exact sound
  | skip passed tail ih =>
    rw [List.forall_mem_cons] at sound ⊢
    exact ⟨sound.1, ih sound.2⟩
  | close same against covered tail ih =>
    rw [List.forall_mem_cons] at sound ⊢
    exact ⟨sound.1.close, ih sound.2⟩
  | reduce part same against smaller =>
    rw [List.forall_mem_cons] at sound ⊢
    exact ⟨sound.1.reduce part against smaller, sound.2⟩

theorem against_iff {a b : K} (same : 0 < a * b) (c : K) : b * c < 0 ↔ a * c < 0 := by
  have flip : ∀ x : K, x * c < 0 ↔ 0 < x * -c := fun x => by rw [mul_neg, neg_pos]
  rw [flip, flip]
  constructor
  · intro ahead
    exact same_side (by rwa [mul_comm]) ahead
  · intro ahead
    exact same_side same ahead

theorem covered_side {left size : K} (against : left * size < 0) (covered : |size| ≤ |left|) :
    (left + size = 0 ∨ 0 < left * (left + size)) ∧ |left + size| = |left| - |size| := by
  rcases lt_or_eq_of_le covered with smaller | same
  · obtain ⟨side, shrink⟩ := Lot.reduce_side (by rwa [mul_comm]) smaller
    exact ⟨Or.inr side, shrink⟩
  · have cancel : left + size = 0 := by
      rcases abs_eq_abs.mp same with equal | opposite
      · rw [equal] at against
        exact absurd against (not_lt.mpr (mul_self_nonneg left))
      · rw [opposite]
        ring
    refine ⟨Or.inl cancel, ?_⟩
    rw [cancel, same, abs_zero, sub_self]

theorem Drains.clear (drains : Drains key left lots after remaining) (rest : remaining ≠ 0) :
    0 < left * remaining ∧ Clear key remaining after := by
  induction drains with
  | spent lots => exact absurd rfl rest
  | finish left => exact ⟨mul_self_pos.mpr rest, fun lot member => absurd member (List.not_mem_nil)⟩
  | @skip left remaining lot tail after passed drains ih =>
    obtain ⟨side, clear⟩ := ih rest
    refine ⟨side, ?_⟩
    intro other member same
    rcases List.mem_cons.mp member with rfl | inTail
    · exact (passed same).imp_right fun ahead => same_side side ahead
    · exact clear other inTail same
  | @close left remaining lot tail after same against covered drains ih =>
    obtain ⟨side, clear⟩ := ih rest
    have nonzero : left + lot.size ≠ 0 := fun zero => by simp [zero] at side
    have kept := (covered_side against covered).1.resolve_left nonzero
    refine ⟨same_side (by rwa [mul_comm]) side, ?_⟩
    intro other member sameKey
    rcases List.mem_cons.mp member with rfl | inTail
    · exact Or.inl (by simp)
    · exact clear other inTail sameKey
  | reduce part same against smaller => exact absurd rfl rest

theorem Drains.ordered (drains : Drains key left lots after remaining) (ordered : Ordered lots) : Ordered after := by
  induction drains with
  | spent lots => exact ordered
  | finish left => exact ordered
  | @skip left remaining lot rest after passed tail ih =>
    obtain ⟨head, rest'⟩ := List.pairwise_cons.mp ordered
    refine List.pairwise_cons.mpr ⟨?_, ih rest'⟩
    intro later member same started
    by_cases here : lot.key = key
    · -- an open lot that is passed over is on the movement's side, and so is the rest
      have ahead := (passed here).resolve_left started
      have clear : Clear key left rest := fun other inRest sameKey =>
        Or.inr (same_side (by rw [mul_comm]; exact ahead) (head other inRest (here.trans sameKey.symm) started).2)
      rw [(tail.idle clear).1] at member
      exact head later member same started
    · exact head later (tail.untouched member fun keyed => here (same.trans keyed)) same started
  | @close left remaining lot rest after same against covered tail ih =>
    obtain ⟨_, rest'⟩ := List.pairwise_cons.mp ordered
    refine List.pairwise_cons.mpr ⟨?_, ih rest'⟩
    intro later member sameKey started
    simp at started
  | @reduce left lot rest part same against smaller =>
    obtain ⟨head, rest'⟩ := List.pairwise_cons.mp ordered
    refine List.pairwise_cons.mpr ⟨?_, rest'⟩
    intro later member sameKey _
    have started : lot.size ≠ 0 := fun zero => by simp [zero] at against
    obtain ⟨untouched, side⟩ := head later member sameKey started
    exact ⟨untouched, same_side (Lot.reduce_side against smaller).1 side⟩

def turnover (lots : List (Lot ι K)) : K := (lots.map fun lot => |lot.opened| + lot.taken).sum

theorem Drains.turnover (drains : Drains key left lots after remaining) :
    Fifo.turnover after + |remaining| = Fifo.turnover lots + |left| := by
  induction drains with
  | spent lots => rfl
  | finish left => rfl
  | skip passed tail ih =>
    simp only [Fifo.turnover, List.map_cons, List.sum_cons] at ih ⊢
    linear_combination ih
  | @close left remaining lot rest after same against covered tail ih =>
    obtain ⟨_, shrink⟩ := covered_side against covered
    have opened : (lot.take (-lot.size) lot.basis).opened = lot.opened := rfl
    simp only [Fifo.turnover, List.map_cons, List.sum_cons, Lot.taken_take, abs_neg, opened] at ih ⊢
    linear_combination ih + shrink
  | @reduce left lot rest part same against smaller =>
    have opened : (lot.take left part).opened = lot.opened := rfl
    simp only [Fifo.turnover, List.map_cons, List.sum_cons, Lot.taken_take, abs_zero, opened]
    ring

theorem Ordered.settled [DecidableEq ι] (ordered : Ordered lots)
    (balanced : Fifo.net key lots = 0) : ∀ lot ∈ lots, lot.key = key → lot.size = 0 := by
  induction lots with
  | nil => exact fun lot member => absurd member List.not_mem_nil
  | cons first rest ih =>
    obtain ⟨head, tail⟩ := List.pairwise_cons.mp ordered
    by_cases opens : first.key = key ∧ first.size ≠ 0
    · -- everything behind an open lot adds to its side
      have tailSide : 0 ≤ first.size * Fifo.net key rest := by
        rw [Fifo.net, ← List.sum_map_mul_left]
        refine List.sum_nonneg ?_
        simp only [List.mem_map]
        rintro _ ⟨later, member, rfl⟩
        by_cases same : later.key = key
        · simpa [same] using le_of_lt (head later member (opens.1.trans same.symm) opens.2).2
        · simp [same]
      have total : first.size * first.size + first.size * Fifo.net key rest = 0 := by
        have sum : first.size + Fifo.net key rest = 0 := by
          simpa [Fifo.net, opens.1] using balanced
        linear_combination first.size * sum
      have square := mul_self_pos.mpr opens.2
      linarith
    · have zero : (if first.key = key then first.size else 0) = 0 := by
        by_cases same : first.key = key
        · simp [same, not_not.mp fun nonzero => opens ⟨same, nonzero⟩]
        · simp [same]
      have balancedTail : Fifo.net key rest = 0 := by
        simpa [Fifo.net, zero] using balanced
      intro lot member same
      rcases List.mem_cons.mp member with rfl | inRest
      · exact not_not.mp fun nonzero => opens ⟨same, nonzero⟩
      · exact ih tail balancedTail lot inRest same

end

end Augr.Foundation.Fifo
