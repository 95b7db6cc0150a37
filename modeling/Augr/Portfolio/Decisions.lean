import Augr.Portfolio.Progress

/-! What the allocator reports of its decisions, and what it never selects. -/

set_option autoImplicit false

namespace Augr.Portfolio

open Foundation Domain Text Float64

section
variable {F : Type} [Float64 F] {passed : Opportunity F → Prop} {decisions : List (ScoredOpportunity F)}
  {summary : AllocationSummary F}

/-- The summary counts the decisions, and only what has passed is selected. -/
structure Tallied (passed : Opportunity F → Prop) (decisions : List (ScoredOpportunity F)) (summary : AllocationSummary F) :
    Prop where
  selected : summary.selected = decisions.countP isSelected
  decided : summary.selected + summary.rejected = decisions.length
  chosen : ∀ item ∈ decisions, isSelected item → less zero item.notional ∧ passed item.opp

theorem Tallied.reject (tallied : Tallied passed decisions summary) {item : ScoredOpportunity F}
    (rejected : item.action = .shadowRejected) (reasons : List String) :
    Tallied passed (decisions ++ [item]) (summary.reject reasons) := by
  obtain ⟨selected, decided, chosen⟩ := tallied
  refine ⟨?_, ?_, forall_mem_concat chosen fun isChosen => ?_⟩
  · simp [AllocationSummary.reject, isSelected, rejected, selected]
  · simp only [AllocationSummary.reject, List.length_append, List.length_singleton]
    omega
  · simp [isSelected, rejected] at isChosen

theorem blank_of_foldl_keepOnce {values out : List String}
    (none_ : values.foldl (fun out value => if value = "" then out else keepOnce out value) out = []) :
    out = [] ∧ ∀ value ∈ values, value = "" := by
  induction values generalizing out with
  | nil => exact ⟨none_, fun value member => absurd member List.not_mem_nil⟩
  | cons value rest ih =>
    obtain ⟨next, others⟩ := ih none_
    simp only at next
    by_cases blank : value = ""
    · rw [if_pos blank] at next
      exact ⟨next, List.forall_mem_cons.mpr ⟨blank, others⟩⟩
    · rw [if_neg blank, keepOnce] at next
      split at next <;> simp_all

structure Admissible (state : PortfolioState F) (cfg : AllocatorConfig F) (now : Instant) (opp : Opportunity F) : Prop where
  queued : toLower opp.status.text = "queued"
  unexpired : isExpired opp.expiresAt now = false
  unheld : isOpenTicker state.openTickers opp.ticker = false
  unpenalized : (scoreOpportunity opp state cfg now).2 = []
  traded : opp.marketType ≠ .options
  score : less (scoreOpportunity opp state cfg now).1 (lookup cfg.minScoreByMarket opp.marketType) = false
  edge : less opp.edgePct (lookup cfg.minEdgePctByMarket opp.marketType) = false
  liquidity : less opp.liquidityUSD (lookup cfg.minLiquidityUSD opp.marketType) = false
  spread : (less zero (lookup cfg.maxSpreadPct opp.marketType) &&
    less (lookup cfg.maxSpreadPct opp.marketType) opp.spreadPct) = false

section
variable {state : PortfolioState F} {cfg : AllocatorConfig F} {now : Instant} {opp : Opportunity F}

/-- An open ticker costs some of the score, but any reason for a penalty also rejects. -/
theorem unheld_of_unpenalized (unpenalized : (scoreOpportunity opp state cfg now).2 = []) :
    isOpenTicker state.openTickers opp.ticker = false := by
  by_contra held
  rw [Bool.not_eq_false] at held
  have given : "duplicate_ticker" ∈ (penalties opp state cfg).2 := by
    simp only [penalties, held, if_true]
    split_ifs <;> simp
  have blank := (blank_of_foldl_keepOnce unpenalized).2 _ (List.mem_map_of_mem given)
  exact absurd blank (by decide)

theorem admissible_of_screenReasons
    (queued : toLower opp.status.text = "queued") (unexpired : isExpired opp.expiresAt now = false)
    (none_ : screenReasons opp state cfg now = []) : Admissible state cfg now opp := by
  simp only [screenReasons, List.append_eq_nil_iff, ite_eq_right_iff, List.cons_ne_nil, imp_false, Bool.not_eq_true] at none_
  obtain ⟨⟨⟨⟨⟨unpenalized, traded⟩, score⟩, edge⟩, liquidity⟩, spread⟩ := none_
  exact ⟨queued, unexpired, unheld_of_unpenalized unpenalized, unpenalized, traded, score, edge, liquidity, spread⟩

end

variable (state : PortfolioState F) (cfg : AllocatorConfig F)

theorem screen_tallied (now : Instant) {sofar : Screening F} (tallied : Tallied passed sofar.decisions sofar.summary)
    (eligible : ∀ item ∈ sofar.eligible, Admissible state cfg now item.opp) (opp : Opportunity F)
    {next : Screening F} (screened : screen state cfg now sofar opp = next) :
    Tallied passed next.decisions next.summary ∧ next.summary.evaluated = sofar.summary.evaluated + 1 ∧
      ∀ item ∈ next.eligible, Admissible state cfg now item.opp := by
  subst screened
  have counted (passing : Nat) : Tallied passed sofar.decisions
      { sofar.summary with evaluated := sofar.summary.evaluated + 1, eligible := passing } :=
    ⟨tallied.selected, tallied.decided, tallied.chosen⟩
  simp only [screen]
  split
  · exact ⟨(counted _).reject rfl _, rfl, eligible⟩
  · rename_i queued
    split
    · exact ⟨(counted _).reject rfl _, rfl, eligible⟩
    · rename_i unexpired
      split
      · rename_i none_
        rw [List.isEmpty_iff] at none_
        refine ⟨counted _, rfl, forall_mem_concat eligible ?_⟩
        exact admissible_of_screenReasons (not_not.mp queued) (Bool.eq_false_iff.mpr unexpired) none_
      · exact ⟨(counted _).reject rfl _, rfl, eligible⟩

theorem foldl_screen_tallied (now : Instant) (opportunities : List (Opportunity F)) {sofar screening : Screening F}
    (screened : opportunities.foldl (screen state cfg now) sofar = screening)
    (tallied : Tallied passed sofar.decisions sofar.summary)
    (eligible : ∀ item ∈ sofar.eligible, Admissible state cfg now item.opp) :
    Tallied passed screening.decisions screening.summary ∧
      screening.summary.evaluated = sofar.summary.evaluated + opportunities.length ∧
      ∀ item ∈ screening.eligible, Admissible state cfg now item.opp := by
  induction opportunities generalizing sofar with
  | nil =>
    subst screened
    exact ⟨tallied, rfl, eligible⟩
  | cons opp rest ih =>
    obtain ⟨still, one, admitted⟩ := screen_tallied state cfg now tallied eligible opp rfl
    obtain ⟨finally_, others, all⟩ := ih screened still admitted
    refine ⟨finally_, ?_, all⟩
    rw [others, one, List.length_cons]
    omega

theorem selectItem_tallied {sofar next : Selection F} (tallied : Tallied passed sofar.decisions sofar.summary)
    {item : ScoredOpportunity F} (passes : passed item.opp) (made : selectItem state cfg sofar item = next) :
    Tallied passed next.decisions next.summary ∧ next.summary.evaluated = sofar.summary.evaluated ∧
      next.decisions.map ScoredOpportunity.opp = sofar.decisions.map ScoredOpportunity.opp ++ [item.opp] := by
  subst made
  simp only [selectItem]
  split
  · split
    · rename_i positive
      obtain ⟨selected, decided, chosen⟩ := tallied
      refine ⟨⟨by simp [Selection.select, isSelected, selected], ?_, ?_⟩, rfl, List.map_append⟩
      · simp only [Selection.select, List.length_append, List.length_singleton]
        omega
      · exact forall_mem_concat chosen fun _ => ⟨positive, passes⟩
    · exact ⟨tallied.reject rfl _, rfl, List.map_append⟩
  · exact ⟨tallied.reject rfl _, rfl, List.map_append⟩

theorem foldl_selectItem_tallied {items : List (ScoredOpportunity F)} (passing : ∀ item ∈ items, passed item.opp)
    {sofar selection : Selection F} (made : items.foldl (selectItem state cfg) sofar = selection)
    (tallied : Tallied passed sofar.decisions sofar.summary) :
    Tallied passed selection.decisions selection.summary ∧ selection.summary.evaluated = sofar.summary.evaluated ∧
      selection.decisions.map ScoredOpportunity.opp = (sofar.decisions ++ items).map ScoredOpportunity.opp := by
  induction items generalizing sofar with
  | nil =>
    subst made
    exact ⟨tallied, rfl, by simp⟩
  | cons item rest ih =>
    obtain ⟨first, others⟩ := List.forall_mem_cons.mp passing
    obtain ⟨still, same, one⟩ := selectItem_tallied state cfg tallied first rfl
    obtain ⟨finally_, sameRest, opps⟩ := ih others made still
    refine ⟨finally_, sameRest.trans same, ?_⟩
    rw [opps, List.map_append, one]
    simp

/-- How a decision names its opportunity. -/
def Opportunity.reference (opp : Opportunity F) : Option Uuid := if opp.id = Uuid.nil then none else some opp.id

/-- Each opportunity is decided once, and the summary counts the decisions. -/
structure AllocationResult.Accounts (result : AllocationResult F) (opportunities : List (Opportunity F)) (now : Instant) :
    Prop where
  evaluated : result.summary.evaluated = opportunities.length
  decided : (result.decisions.map AllocationDecision.opportunityID).Perm (opportunities.map Opportunity.reference)
  selected : result.summary.selected = result.decisions.countP selected
  rejected : result.summary.selected + result.summary.rejected = opportunities.length
  chosen : ∀ decision ∈ result.decisions, Portfolio.selected decision → less zero decision.notionalUSD ∧
    ∃ opp ∈ opportunities, Admissible state cfg now opp ∧ decision.opportunityID = opp.reference

/-- Whatever the opportunities, the portfolio and the configuration are, nothing is lost and nothing that fails a check is
selected. -/
theorem allocateShadow_accounts (opportunities : List (Opportunity F)) (given : AllocatorConfig F) (clock : Instant) :
    (allocateShadow opportunities state given clock).Accounts state (applyAllocatorDefaults given clock) opportunities
      ((applyAllocatorDefaults given clock).now.getD clock) := by
  simp only [allocateShadow]
  generalize applyAllocatorDefaults given clock = cfg
  generalize cfg.now.getD clock = now
  have none_ : Screening.AllRejected (⟨[], [], emptySummary⟩ : Screening F) := fun item member => absurd member List.not_mem_nil
  obtain ⟨kept, -⟩ := foldl_screen_keeps state cfg now opportunities none_
  generalize screened : opportunities.foldl (screen state cfg now) ⟨[], [], emptySummary⟩ = screening at kept ⊢
  have opened : Tallied (fun opp => opp ∈ opportunities ∧ Admissible state cfg now opp) [] emptySummary :=
    ⟨rfl, rfl, fun item member => absurd member List.not_mem_nil⟩
  obtain ⟨tallied, evaluated, eligible⟩ := foldl_screen_tallied state cfg now opportunities screened opened
    fun item member => absurd member List.not_mem_nil
  have ranked := sortStable_perm rankedBefore screening.eligible
  generalize sortStable rankedBefore screening.eligible = ranking at ranked ⊢
  have passing : ∀ item ∈ ranking, item.opp ∈ opportunities ∧ Admissible state cfg now item.opp := by
    intro item member
    have inEligible := ranked.mem_iff.mp member
    refine ⟨kept.mem_iff.mp ?_, eligible item inEligible⟩
    exact List.mem_map_of_mem (List.mem_append_left _ inEligible)
  generalize made : ranking.foldl (selectItem state cfg) ⟨0, screening.decisions, screening.summary⟩ = selection
  obtain ⟨⟨selected, decided, chosen⟩, same, opps⟩ := foldl_selectItem_tallied state cfg passing made tallied
  have reported := sortStable_perm reportedBefore selection.decisions
  have all : (selection.decisions.map ScoredOpportunity.opp).Perm opportunities := by
    rw [opps]
    refine (List.Perm.map _ (List.perm_append_comm.trans (ranked.append_right _))).trans ?_
    simpa [Screening.opportunities] using kept
  have total : selection.decisions.length = opportunities.length := by simpa using all.length_eq
  refine ⟨(same.trans evaluated).trans (Nat.zero_add _), ?_, ?_, decided.trans total, ?_⟩
  · rw [List.map_map]
    refine (reported.map _).trans ?_
    have references := all.map Opportunity.reference
    rwa [List.map_map] at references
  · rw [selected, List.countP_map]
    exact (reported.countP_eq _).symm
  · intro decision member isChosen
    obtain ⟨item, inReport, rfl⟩ := List.mem_map.mp member
    obtain ⟨positive, listed, admissible⟩ := chosen item (reported.mem_iff.mp inReport) isChosen
    exact ⟨positive, item.opp, listed, admissible, rfl⟩

end

end Augr.Portfolio
