import Augr.Evaluation.Calculator

/-! The maximum drawdown is that of all pairs of values, although the loop compares each value
with the highest one before it only. -/

set_option autoImplicit false

namespace Augr.Evaluation

open Foundation

variable {values done : List Decimal} {value peak : Decimal} {place trough : Nat} {depth : ℚ} {state : Drawdown}

/-- The fall as a part of the high, rounded half away from zero to sixteen places. -/
def fall (high low : ℚ) : ℚ := nearest ((high - low) / high * 10 ^ 16) / 10 ^ 16

/-- The depth of a fall to the value at a place, from a value at that place or an earlier one. -/
def Falls (values : List Decimal) (place : Nat) (depth : ℚ) : Prop :=
  ∃ low, values[place]? = some low ∧ ∃ high ∈ values.take (place + 1), depth = fall high.toRat low.toRat

/-- After how many periods a value stands as high as all values up to the trough. -/
def recoveries (values : List Decimal) (trough : Nat) : Set Nat :=
  {periods | 0 < periods ∧
    ∃ value, values[trough + periods]? = some value ∧ ∀ high ∈ values.take (trough + 1), high.toRat ≤ value.toRat}

def FirstRecovery (values : List Decimal) (trough : Nat) : Option Nat → Prop
  | some periods => IsLeast (recoveries values trough) periods
  | none => recoveries values trough = ∅

theorem toRat_depth (positive : 0 < peak.toRat) (value : Decimal) :
    ((peak.sub value).div peak).toRat = fall peak.toRat value.toRat := by
  have rounded := Decimal.toRat_divRound (peak.sub value) positive 16
  rw [Decimal.toRat_sub] at rounded
  exact eq_div_of_mul_eq (by norm_num) rounded

theorem fall_mono {high peak low : ℚ} (positive : 0 < high) (least : 0 ≤ low) (above : high ≤ peak) :
    fall high low ≤ fall peak low := by
  have ratio : (high - low) / high ≤ (peak - low) / peak := by
    rw [sub_div, sub_div, div_self positive.ne', div_self (positive.trans_le above).ne']
    have share : low / peak ≤ low / high := div_le_div_of_nonneg_left least positive above
    linarith
  have scaled : (high - low) / high * 10 ^ 16 ≤ (peak - low) / peak * 10 ^ 16 := by linarith
  exact div_le_div_of_nonneg_right (Int.cast_le.mpr (nearest_mono scaled)) (by norm_num)

theorem Falls.lt_length (falls : Falls values place depth) : place < values.length := by
  obtain ⟨low, here, _⟩ := falls
  exact (List.getElem?_eq_some_iff.mp here).1

theorem falls_append : Falls (done ++ [value]) place depth ↔
    Falls done place depth ∨ (place = done.length ∧ ∃ high ∈ done ++ [value], depth = fall high.toRat value.toRat) := by
  rcases lt_trichotomy place done.length with before | rfl | beyond
  · have front : (done ++ [value]).take (place + 1) = done.take (place + 1) := List.take_append_of_le_length before
    simp [Falls, List.getElem?_append_left before, front, before.ne]
  · have whole : (done ++ [value]).take (done.length + 1) = done ++ [value] := List.take_of_length_le (by simp)
    simp [Falls, whole]
  · have none : (done ++ [value])[place]? = none := by simp; omega
    simp [Falls, none, beyond.le, beyond.ne']

def Highest (values : List Decimal) (peak : Decimal) : Prop :=
  (∃ top ∈ values, top.toRat = peak.toRat) ∧ ∀ high ∈ values, high.toRat ≤ peak.toRat

structure Drawdown.Knows (done : List Decimal) (state : Drawdown) : Prop where
  peak : Highest done state.peak
  deepest : ∀ {place depth}, Falls done place depth → depth ≤ state.deepest.toRat
  trough : match state.trough with
    | none => state.deepest.toRat = 0
    | some trough => 0 < state.deepest.toRat ∧ IsLeast {place | Falls done place state.deepest.toRat} trough ∧
        Highest (done.take (trough + 1)) state.peakAtMax

theorem Drawdown.Knows.nonneg (knows : state.Knows done) : 0 ≤ state.deepest.toRat := by
  have trough := knows.trough
  split at trough
  · exact trough.ge
  · exact trough.1.le

theorem highest_append (value : Decimal) (highest : Highest done peak) :
    Highest (done ++ [value]) (if value.greaterThan peak then value else peak) := by
  grind [Highest, Decimal.greaterThan_iff]

theorem Drawdown.Knows.step (knows : state.Knows done) (positive : ∀ v ∈ done ++ [value], 0 < v.toRat) :
    (state.step (value, done.length)).Knows (done ++ [value]) := by
  have highest := highest_append value knows.peak
  simp only [Drawdown.step]
  generalize (if value.greaterThan state.peak then value else state.peak) = peak at *
  obtain ⟨⟨top, member, isTop⟩, upper⟩ := id highest
  have reached := toRat_depth (isTop ▸ positive top member) value
  generalize (peak.sub value).div peak = depth at *
  have fallen : Falls (done ++ [value]) done.length depth.toRat :=
    falls_append.mpr (.inr ⟨rfl, top, member, by rw [reached, isTop]⟩)
  have deeper {place : Nat} {other : ℚ} (falls : Falls (done ++ [value]) place other) :
      other ≤ state.deepest.toRat ∨ (place = done.length ∧ other ≤ depth.toRat) := by
    rcases falls_append.mp falls with before | ⟨last, high, inside, rfl⟩
    · exact .inl (knows.deepest before)
    · exact .inr ⟨last, reached ▸ fall_mono (positive high inside) (positive value (by simp)).le (upper high inside)⟩
  split
  · rename_i exceeds
    rw [Decimal.greaterThan_iff] at exceeds
    refine ⟨highest, fun falls => ?_, knows.nonneg.trans_lt exceeds, ⟨fallen, fun place falls => ?_⟩, ?_⟩
    · rcases deeper falls with before | last
      · exact before.trans exceeds.le
      · exact last.2
    · rcases deeper falls with before | last
      · exact absurd before (not_le.mpr exceeds)
      · exact last.1.ge
    · rwa [List.take_of_length_le (by simp)]
  · rename_i within
    rw [Decimal.greaterThan_iff, not_lt] at within
    refine ⟨highest, fun falls => ?_, ?_⟩
    · rcases deeper falls with before | last
      · exact before
      · exact last.2.trans within
    · have trough := knows.trough
      dsimp only
      split at trough
      · exact trough
      · obtain ⟨fell, ⟨first, least⟩, peakAtMax⟩ := trough
        refine ⟨fell, ⟨falls_append.mpr (.inl first), fun place falls => ?_⟩, ?_⟩
        · rcases falls_append.mp falls with before | ⟨rfl, _⟩
          · exact least before
          · exact first.lt_length.le
        · rwa [List.take_append_of_le_length first.lt_length]

theorem Drawdown.Knows.run (knows : state.Knows done) (rest : List Decimal) (positive : ∀ v ∈ done ++ rest, 0 < v.toRat) :
    ((rest.zipIdx done.length).foldl Drawdown.step state).Knows (done ++ rest) := by
  induction rest generalizing done state with
  | nil => simpa using knows
  | cons value rest ih =>
    rw [List.append_cons] at positive ⊢
    have next := knows.step fun v member => positive v (List.mem_append_left _ member)
    simpa using ih next positive

theorem fall_self (value : ℚ) : fall value value = 0 := by
  norm_num [fall, nearest]

theorem Drawdown.knows_head (positive : 0 < peak.toRat) : (Drawdown.step ⟨peak, .zero, none, .zero⟩ (peak, 0)).Knows [peak] := by
  have depth := toRat_depth positive peak
  simp only [Drawdown.step, ite_self]
  rw [if_neg (by simp [depth, fall_self])]
  refine ⟨by simp [Highest], fun {place other} falls => ?_, Decimal.toRat_zero⟩
  have first : place = 0 := by simpa using falls.lt_length
  subst first
  obtain ⟨low, here, high, inside, rfl⟩ := falls
  simp_all [fall_self]

/-- The search behind the trough finds the first value that reaches the peak again. -/
theorem firstRecovery (highest : Highest (values.take (trough + 1)) peak) :
    FirstRecovery values trough
      (((values.zipIdx.drop (trough + 1)).find? fun entry => !entry.1.lessThan peak).map fun entry => entry.2 - trough) := by
  have reaches (value : Decimal) :
      (!value.lessThan peak) = true ↔ ∀ high ∈ values.take (trough + 1), high.toRat ≤ value.toRat := by
    grind [Highest, Decimal.lessThan_iff]
  have entry (k : Nat) : (values.zipIdx.drop (trough + 1))[k]? =
      (values[trough + (k + 1)]?).map fun value => (value, trough + (k + 1)) := by
    rw [List.getElem?_drop, List.getElem?_zipIdx]
    simp [Nat.add_assoc, Nat.add_comm 1 k]
  cases found : (values.zipIdx.drop (trough + 1)).find? fun entry => !entry.1.lessThan peak with
  | none =>
    refine Set.eq_empty_of_forall_notMem ?_
    rintro (_ | k) ⟨later, value, here, above⟩
    · exact absurd later (lt_irrefl 0)
    · have listed := List.mem_of_getElem? ((entry k).trans (congrArg _ here))
      exact List.find?_eq_none.mp found _ listed ((reaches value).mpr above)
  | some pair =>
    obtain ⟨above, k, inside, here, before⟩ := List.find?_eq_some_iff_getElem.mp found
    obtain ⟨value, place, rfl⟩ := Option.map_eq_some_iff.mp ((entry k).symm.trans (List.getElem?_eq_some_iff.mpr ⟨inside, here⟩))
    rw [Option.map_some, Nat.add_sub_cancel_left]
    refine ⟨⟨k.succ_pos, value, place, (reaches value).mp above⟩, ?_⟩
    rintro (_ | m) ⟨later, other, earlier, reached⟩
    · exact absurd later (lt_irrefl 0)
    · by_contra short
      have less : m < k := by omega
      obtain ⟨_, passed⟩ := List.getElem?_eq_some_iff.mp ((entry m).trans (congrArg _ earlier))
      have skipped := before m less
      rw [passed] at skipped
      simp [(reaches other).mpr reached] at skipped

/-- The drawdown is the deepest fall between any two values; the recovery counts from the first
place that it reaches, and is zero where no value falls at all. -/
theorem drawdown_exact (given : values ≠ []) (positive : ∀ v ∈ values, 0 < v.toRat) :
    IsGreatest {depth | ∃ place, Falls values place depth} (drawdown values).1.toRat ∧
      ((drawdown values).1.toRat = 0 → (drawdown values).2 = some 0) ∧
      ((drawdown values).1.toRat ≠ 0 →
        ∃ trough, IsLeast {place | Falls values place (drawdown values).1.toRat} trough ∧
          FirstRecovery values trough (drawdown values).2) := by
  obtain ⟨head, rest, rfl⟩ := List.exists_cons_of_ne_nil given
  -- The first value is taken by hand, so that the invariant need not speak of an empty list.
  have knows := (Drawdown.knows_head (positive head (by simp))).run rest positive
  change (((head :: rest).zipIdx).foldl Drawdown.step ⟨head, .zero, none, .zero⟩).Knows (head :: rest) at knows
  obtain ⟨_, deepest, trough⟩ := knows
  simp only [drawdown, List.head?_cons, Option.getD_some]
  generalize ((head :: rest).zipIdx).foldl Drawdown.step ⟨head, .zero, none, .zero⟩ = reached at *
  cases isTrough : reached.trough with
  | none =>
    rw [isTrough] at trough
    have level : Falls (head :: rest) 0 0 := ⟨head, rfl, head, by simp, (fall_self _).symm⟩
    refine ⟨⟨⟨0, by simpa using level⟩, ?_⟩, fun _ => rfl, fun some => absurd Decimal.toRat_zero some⟩
    rintro depth ⟨place, falls⟩
    simpa [trough] using deepest falls
  | some place =>
    rw [isTrough] at trough
    obtain ⟨fell, first, highest⟩ := trough
    exact ⟨⟨⟨place, first.1⟩, fun depth ⟨_, falls⟩ => deepest falls⟩, fun flat => absurd flat fell.ne',
      fun _ => ⟨place, first, firstRecovery highest⟩⟩

def sampleEquity : List Decimal := [⟨100, 0⟩, ⟨90, 0⟩, ⟨95, 0⟩, ⟨100, 0⟩]

theorem drawdown_exact_sample : IsGreatest {depth | ∃ place, Falls sampleEquity place depth} (drawdown sampleEquity).1.toRat :=
  (drawdown_exact (by decide) (by norm_num [sampleEquity, Decimal.toRat])).1

end Augr.Evaluation
