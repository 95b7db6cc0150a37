import Augr.Foundation.Holm
import Augr.Robustness.Leakage

/-! The correction for the size of the family, from the loop over the ranked candidates. -/

set_option autoImplicit false

namespace Augr.Robustness

open Foundation
open Experimentrun (requireFromString)

abbrev Scored := CandidateCalculation × CandidateEvidence

def Scored.raw (row : Scored) : ℚ := row.1.rawProbability.toRat

variable {policy : Policy} {rows larger : List Scored} {alpha : Decimal} {results : List CandidateEvidence}

def Scored.ranked (row : Scored) (place : Nat) : Ranked := ⟨place, row.2.versionID, row.1.rawProbability⟩

def rankedRows (rows : List Scored) : List Ranked :=
  (rows.zipIdx.map fun entry => Scored.ranked entry.1 entry.2).insertionSort fun left right => ¬ right.before left

def adjustedProbability (rows : List Scored) (place : Nat) : Decimal := adjustedAt (holmAdjusted .zero (rankedRows rows)) place

theorem applyHolm_ok_iff : applyHolm policy rows = .ok results ↔
    ∃ alpha, requireFromString policy.canonical.familyWiseAlpha = .ok alpha ∧
      rows.zipIdx.map (fun entry => applyAdjusted policy alpha (adjustedProbability rows entry.2) entry.1.2) = results := by
  simp only [applyHolm, returns_iff]
  rfl

theorem before_iff (left right : Ranked) : left.before right = true ↔
    toLex (left.raw.toRat, uuidOrder left.id) < toLex (right.raw.toRat, uuidOrder right.id) := by
  simp only [Ranked.before, Bool.or_eq_true, Bool.and_eq_true, Decimal.lessThan_iff, Decimal.equal_iff, decide_eq_true_eq,
    Prod.Lex.toLex_lt_toLex]

theorem rankedRows_sorted (rows : List Scored) :
    ((rankedRows rows).map fun value => value.raw.toRat).Pairwise (· ≤ ·) := by
  have sorted : rankedRows rows = sortedBy (fun value : Ranked => toLex (value.raw.toRat, uuidOrder value.id))
      (rows.zipIdx.map fun entry => Scored.ranked entry.1 entry.2) := by
    simp only [rankedRows, sortedBy, before_iff]
  rw [sorted, List.pairwise_map]
  refine (pairwise_sortedBy _ _).imp fun {left right} ordered => ?_
  rw [not_lt, Prod.Lex.toLex_le_toLex] at ordered
  exact ordered.elim le_of_lt fun tied => tied.1.le

theorem toRat_capped (scaled : Decimal) :
    (if scaled.greaterThan (.newFromInt 1) then .newFromInt 1 else scaled).toRat = min 1 scaled.toRat := by
  simp only [apply_ite Decimal.toRat, Decimal.greaterThan_iff, Decimal.toRat_newFromInt, Int.cast_one, min_def_lt]

theorem toRat_raised (running capped : Decimal) :
    (if capped.lessThan running then running else capped).toRat = max running.toRat capped.toRat := by
  simp only [apply_ite Decimal.toRat, Decimal.lessThan_iff, max_comm running.toRat, max_def_lt]

theorem holmAdjusted_cons (running : Decimal) (value : Ranked) (rest : List Ranked) :
    ∃ adjusted, holmAdjusted running (value :: rest) = (value.index, adjusted) :: holmAdjusted adjusted rest ∧
      adjusted.toRat = max running.toRat (min 1 (value.raw.toRat * (rest.length + 1 : Nat))) := by
  refine ⟨_, rfl, ?_⟩
  rw [toRat_raised, toRat_capped, Decimal.toRat_mul, Decimal.toRat_newFromInt]
  push_cast
  rfl

theorem holmAdjusted_adjusts {family done : List ℚ} {running : Decimal} {ranked : List Ranked}
    (split : done ++ ranked.map (fun value => value.raw.toRat) = family) (sorted : family.Pairwise (· ≤ ·))
    (nonneg : ∀ member ∈ family, 0 ≤ member) (carried : Holm.Carried family done running.toRat) :
    List.Forall₂ (fun value entry => value.index = entry.1 ∧ Holm.Adjusts family value.raw.toRat entry.2.toRat) ranked
      (holmAdjusted running ranked) := by
  induction ranked generalizing done running with
  | nil => exact .nil
  | cons value rest ih =>
    obtain ⟨adjusted, unfolded, raised⟩ := holmAdjusted_cons running value rest
    rw [List.map_cons] at split
    rw [← split] at sorted carried
    have passed := carried.step sorted (nonneg _ (by simp [← split]))
    rw [List.length_map, ← raised] at passed
    rw [unfolded]
    refine .cons ⟨rfl, ?_⟩ (ih (by simpa using split) (split ▸ passed))
    exact split ▸ passed.adjusts sorted

theorem raws_perm (rows : List Scored) : ((rankedRows rows).map fun value => value.raw.toRat).Perm (rows.map Scored.raw) := by
  have unranked : (rows.zipIdx.map fun entry => Scored.ranked entry.1 entry.2).map (fun value => value.raw.toRat) =
      rows.map Scored.raw := by
    rw [List.map_map]
    conv_rhs => rw [← List.zipIdx_map_fst 0 rows, List.map_map]
    rfl
  rw [← unranked]
  exact (List.perm_insertionSort _ _).map _

theorem mem_rankedRows {value : Ranked} :
    value ∈ rankedRows rows ↔ ∃ row, rows[value.index]? = some row ∧ Scored.ranked row value.index = value := by
  rw [rankedRows, List.mem_insertionSort, List.mem_map]
  constructor
  · rintro ⟨⟨row, place⟩, member, rfl⟩
    exact ⟨row, List.mem_zipIdx_iff_getElem?.mp member, rfl⟩
  · rintro ⟨row, placed, isValue⟩
    exact ⟨(row, value.index), List.mem_zipIdx_iff_getElem?.mpr placed, isValue⟩

theorem adjustedProbability_adjusts (nonneg : ∀ row ∈ rows, 0 ≤ Scored.raw row) {place : Nat} {row : Scored}
    (placed : rows[place]? = some row) :
    Holm.Adjusts (rows.map Scored.raw) row.raw (adjustedProbability rows place).toRat := by
  have perm := raws_perm rows
  have raws : ∀ member ∈ (rankedRows rows).map (fun value => value.raw.toRat), 0 ≤ member := by
    intro member inside
    obtain ⟨row, isRow, rfl⟩ := List.mem_map.mp (perm.mem_iff.mp inside)
    exact nonneg row isRow
  have start : Holm.Carried ((rankedRows rows).map fun value => value.raw.toRat) [] Decimal.zero.toRat :=
    Decimal.toRat_zero ▸ Holm.Carried.start _
  have matched := holmAdjusted_adjusts (List.nil_append _) (rankedRows_sorted rows) raws start
  have ranked : row.ranked place ∈ rankedRows rows := mem_rankedRows.mpr ⟨row, placed, rfl⟩
  obtain ⟨entry, member, isPlace, _⟩ := exists_right_of_mem matched ranked
  -- The entry that is looked up has the place of the row, so it was made for this row.
  cases found : (holmAdjusted .zero (rankedRows rows)).find? fun entry => entry.1 == place with
  | none =>
    have differs := List.find?_eq_none.mp found entry member
    exact absurd (beq_iff_eq.mpr isPlace.symm) differs
  | some entry =>
    obtain ⟨value, isRanked, isIndex, adjusts⟩ := exists_left_of_mem matched (List.mem_of_find?_eq_some found)
    have atPlace : value.index = place := isIndex.trans (by simpa using List.find?_some found)
    obtain ⟨other, isOther, isValue⟩ := mem_rankedRows.mp isRanked
    rw [atPlace, placed] at isOther
    cases isOther
    rw [← isValue] at adjusts
    rw [adjustedProbability, adjustedAt, found]
    exact adjusts.perm perm

/-- The state of the gate that the correction adds behind the gates a candidate has. -/
def testingState (results : List CandidateEvidence) (place : Nat) (row : Scored) : Option GateState := do
  let result ← results[place]?
  let gate ← result.gates[row.2.gates.length]?
  if gate.name = "multiple_testing_adjustment" then some gate.state else none

theorem testingState_pass_iff (ok : applyHolm policy rows = .ok results)
    (isAlpha : requireFromString policy.canonical.familyWiseAlpha = .ok alpha) {place : Nat} {row : Scored}
    (placed : rows[place]? = some row) :
    testingState results place row = some .pass ↔ (adjustedProbability rows place).toRat ≤ alpha.toRat := by
  obtain ⟨_, sameAlpha, rfl⟩ := applyHolm_ok_iff.mp ok
  cases isAlpha.symm.trans sameAlpha
  have result : (rows.zipIdx.map fun entry => applyAdjusted policy alpha (adjustedProbability rows entry.2) entry.1.2)[place]? =
      some (applyAdjusted policy alpha (adjustedProbability rows place) row.2) := by
    simp [placed]
  have gate : ∀ adjusted : Decimal, (applyAdjusted policy alpha adjusted row.2).gates[row.2.gates.length]? =
      some (.decided "multiple_testing_adjustment" (!adjusted.greaterThan alpha) policy.canonical.familyWiseAlpha
        (adjusted.round policy.canonical.decimalScale).toText "adjusted_probability_exceeds_family_wise_alpha"
        "holm_bonferroni_adjusted_probability_within_family_wise_alpha") := by
    simp [applyAdjusted]
  rw [testingState, result]
  simp only [Option.bind_eq_bind, Option.bind_some, gate, Gate.decided, GateState.ofBool, if_true, Option.some.injEq,
    ← Decimal.greaterThan_eq_false_iff]
  cases (adjustedProbability rows place).greaterThan alpha <;> simp

/-- The step-down rule: of all candidates up to this one, none exceeds the level after the correction. -/
def StepDown (rows : List Scored) (row : Scored) (level : ℚ) : Prop :=
  ∀ other ∈ rows, other.raw ≤ row.raw →
    other.raw * ((rows.length : ℚ) - rows.countP fun third => third.raw < other.raw) ≤ level

theorem within_iff (row : Scored) (level : ℚ) : Holm.Within (rows.map Scored.raw) row.raw level ↔ StepDown rows row level := by
  have counted : ∀ value : ℚ, (Holm.atLeast (rows.map Scored.raw) value : ℚ) =
      (rows.length : ℚ) - rows.countP fun third => third.raw < value := by
    intro value
    have both := rows.length_eq_countP_add_countP fun third => decide (third.raw < value)
    rw [Holm.atLeast, List.countP_map, eq_sub_iff_add_eq']
    simp only [decide_eq_true_eq, not_lt] at both
    exact_mod_cast both.symm
  simp only [Holm.Within, List.forall_mem_map, counted, StepDown]

/-- The gate is the step-down rule, and the adjusted probabilities are ordered as the raw ones, between them and one. -/
theorem holm_gate_iff (ok : applyHolm policy rows = .ok results)
    (isAlpha : requireFromString policy.canonical.familyWiseAlpha = .ok alpha) (below : alpha.toRat < 1)
    (probabilities : ∀ row ∈ rows, 0 ≤ Scored.raw row ∧ Scored.raw row ≤ 1) :
    ∀ place row, rows[place]? = some row →
      (testingState results place row = some .pass ↔ StepDown rows row alpha.toRat) ∧
      row.raw ≤ (adjustedProbability rows place).toRat ∧ (adjustedProbability rows place).toRat ≤ 1 ∧
      ∀ place' other, rows[place']? = some other →
        (row.raw = other.raw → (adjustedProbability rows place).toRat = (adjustedProbability rows place').toRat) ∧
        (row.raw ≤ other.raw → (adjustedProbability rows place).toRat ≤ (adjustedProbability rows place').toRat) := by
  intro place row placed
  have nonneg : ∀ row ∈ rows, 0 ≤ Scored.raw row := fun row member => (probabilities row member).1
  have raws : ∀ raw ∈ rows.map Scored.raw, 0 ≤ raw := List.forall_mem_map.mpr nonneg
  have adjusts := adjustedProbability_adjusts nonneg placed
  have inside := List.mem_of_getElem? placed
  have member : row.raw ∈ rows.map Scored.raw := List.mem_map_of_mem inside
  refine ⟨?_, adjusts.value_le member (nonneg row inside) (probabilities row inside).2, adjusts.le_one, ?_⟩
  · rw [testingState_pass_iff ok isAlpha placed, adjusts.le_iff member (nonneg row inside) below, within_iff]
  · intro place' other placed'
    have adjusts' := adjustedProbability_adjusts nonneg placed'
    exact ⟨fun same => le_antisymm (adjusts.mono adjusts' (.refl _) raws same.le)
      (adjusts'.mono adjusts (.refl _) raws same.ge), adjusts.mono adjusts' (.refl _) raws⟩

/-- A member of a family: which version it is and its raw probability. -/
def Scored.member (row : Scored) : Uuid × ℚ := (row.2.versionID, row.raw)

/-- In a larger family the adjusted probabilities of the old members are no smaller, and no failed gate passes. -/
theorem holm_family_growth (contained : (rows.map Scored.member).Subperm (larger.map Scored.member))
    (probabilities : ∀ row ∈ larger, 0 ≤ Scored.raw row ∧ Scored.raw row ≤ 1) {place place' : Nat} {row other : Scored}
    (placed : rows[place]? = some row) (placed' : larger[place']? = some other) (same : row.member = other.member) :
    (adjustedProbability rows place).toRat ≤ (adjustedProbability larger place').toRat ∧
      ∀ policy results results', applyHolm policy rows = .ok results → applyHolm policy larger = .ok results' →
        testingState results' place' other = some .pass → testingState results place row = some .pass := by
  have raws : (rows.map Scored.raw).Subperm (larger.map Scored.raw) := by
    obtain ⟨kept, perm, sublist⟩ := contained
    have projected : ((rows.map Scored.member).map Prod.snd).Subperm ((larger.map Scored.member).map Prod.snd) :=
      ⟨kept.map Prod.snd, perm.map _, sublist.map _⟩
    rwa [List.map_map, List.map_map] at projected
  have nonneg : ∀ raw ∈ larger.map Scored.raw, 0 ≤ raw := List.forall_mem_map.mpr fun row member => (probabilities row member).1
  have adjusts := adjustedProbability_adjusts (List.forall_mem_map.mp fun raw member => nonneg raw (raws.subset member)) placed
  have adjusts' := adjustedProbability_adjusts (List.forall_mem_map.mp nonneg) placed'
  have grown := adjusts.mono adjusts' raws nonneg (congrArg Prod.snd same).le
  refine ⟨grown, fun policy results results' ok ok' passes => ?_⟩
  obtain ⟨alpha, isAlpha, _⟩ := applyHolm_ok_iff.mp ok
  rw [testingState_pass_iff ok' isAlpha placed'] at passes
  exact (testingState_pass_iff ok isAlpha placed).mpr (grown.trans passes)

def sampleScored (index : Nat) (raw : Int) : Scored := (⟨⟨raw, -2⟩, .zero⟩, ⟨index, Uuid.ofByte 1, [], [], []⟩)

def sampleFamily : List Scored := [sampleScored 0 4, sampleScored 1 1]

theorem gapPolicy_alpha : requireFromString (gapPolicy 0 0).canonical.familyWiseAlpha = .ok ⟨5, -2⟩ := by decide

theorem sampleFamily_probabilities (rows : List Scored) (listed : rows ⊆ sampleScored 2 1 :: sampleFamily) :
    ∀ row ∈ rows, 0 ≤ Scored.raw row ∧ Scored.raw row ≤ 1 := by
  intro row member
  have known := listed member
  simp only [sampleFamily, List.mem_cons, List.not_mem_nil, or_false] at known
  rcases known with rfl | rfl | rfl <;> norm_num [sampleScored, Scored.raw, Decimal.toRat]

theorem sampleFamily_gate : ∃ results, applyHolm (gapPolicy 0 0) sampleFamily = .ok results ∧
    testingState results 0 (sampleScored 0 4) = some .pass := by
  have ok : applyHolm (gapPolicy 0 0) sampleFamily = .ok _ := applyHolm_ok_iff.mpr ⟨_, gapPolicy_alpha, rfl⟩
  refine ⟨_, ok, ((holm_gate_iff ok gapPolicy_alpha (by norm_num [Decimal.toRat])
    (sampleFamily_probabilities _ (List.subset_cons_self _ _))) 0 _ rfl).1.mpr ?_⟩
  simp only [StepDown, sampleFamily, List.forall_mem_cons]
  norm_num [sampleScored, Scored.raw, Decimal.toRat]

theorem sampleFamily_grown :
    (adjustedProbability sampleFamily 0).toRat ≤ (adjustedProbability (sampleScored 2 1 :: sampleFamily) 1).toRat :=
  (holm_family_growth (List.subperm_cons_self) (sampleFamily_probabilities _ (List.Subset.refl _)) rfl rfl rfl).1

end Augr.Robustness
