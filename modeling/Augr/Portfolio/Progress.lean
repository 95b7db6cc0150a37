import Augr.Portfolio.Job
import Mathlib.Data.List.Perm.Subperm

/-! How far a run of the allocator job has come, and which calls it makes from there. -/

set_option autoImplicit false

namespace Augr.Portfolio

open Foundation Domain

variable {pending : List Uuid} {left limit : Nat} {α : Type}

theorem insertBack_perm (before : α → α → Bool) (sorted : List α) (item : α) :
    (insertBack before sorted item).Perm (item :: sorted) := by
  obtain ⟨earlier, split⟩ := List.takeWhile_prefix (fun other => before item other) (l := sorted.reverse)
  simp only [insertBack]
  generalize sorted.reverse.takeWhile (fun other => before item other) = later at split ⊢
  rw [← split, List.drop_left, ← List.reverse_reverse sorted, ← split, List.reverse_append]
  exact List.perm_middle

theorem foldl_insertBack_perm (before : α → α → Bool) (items sorted : List α) :
    (items.foldl (insertBack before) sorted).Perm (sorted ++ items) := by
  induction items generalizing sorted with
  | nil => simp
  | cons item rest ih =>
    refine (ih (insertBack before sorted item)).trans ?_
    exact ((insertBack_perm before sorted item).append_right rest).trans List.perm_middle.symm

theorem sortStable_perm (before : α → α → Bool) (items : List α) : (sortStable before items).Perm items :=
  foldl_insertBack_perm before items []

section
variable {F : Type} [Float64 F]

def isSelected (item : ScoredOpportunity F) : Bool := item.action == .shadowSelected

def Screening.opportunities (screening : Screening F) : List (Opportunity F) :=
  (screening.eligible ++ screening.decisions).map ScoredOpportunity.opp

def Screening.AllRejected (screening : Screening F) : Prop := ∀ item ∈ screening.decisions, item.action = .shadowRejected

theorem screen_keeps (state : PortfolioState F) (cfg : AllocatorConfig F) (now : Instant) {sofar : Screening F}
    (rejections : sofar.AllRejected) (opp : Opportunity F) :
    (screen state cfg now sofar opp).opportunities.Perm (opp :: sofar.opportunities) ∧
      (screen state cfg now sofar opp).AllRejected := by
  have rejected {screening : Screening F} (still : screening.AllRejected) (score : F) (reasons : List String) :
      (screening.reject opp score reasons).opportunities.Perm (opp :: screening.opportunities) ∧
        (screening.reject opp score reasons).AllRejected := by
    constructor
    · simp only [Screening.opportunities, Screening.reject, List.map_append, List.map_cons, List.map_nil,
        ← List.append_assoc]
      exact List.perm_append_singleton _ _
    · exact forall_mem_concat still rfl
  simp only [screen]
  split
  · exact rejected rejections _ _
  · split
    · exact rejected rejections _ _
    · split
      · refine ⟨?_, rejections⟩
        simp only [Screening.opportunities, List.map_append, List.map_cons, List.append_assoc, List.cons_append,
          List.nil_append]
        exact List.perm_middle
      · exact rejected rejections _ _

theorem foldl_screen_keeps (state : PortfolioState F) (cfg : AllocatorConfig F) (now : Instant)
    (opportunities : List (Opportunity F)) {sofar : Screening F} (rejections : sofar.AllRejected) :
    (opportunities.foldl (screen state cfg now) sofar).opportunities.Perm (sofar.opportunities ++ opportunities) ∧
      (opportunities.foldl (screen state cfg now) sofar).AllRejected := by
  induction opportunities generalizing sofar with
  | nil => exact ⟨by simp, rejections⟩
  | cons opp rest ih =>
    obtain ⟨kept, still⟩ := screen_keeps state cfg now rejections opp
    obtain ⟨keptRest, finally_⟩ := ih still
    exact ⟨keptRest.trans ((kept.append_right rest).trans List.perm_middle.symm), finally_⟩

def isDecided (action : AllocationDecisionAction) : Prop := action = .shadowSelected ∨ action = .shadowRejected

/-- The count of a selection is that of its selected decisions, and within the limit of the run. -/
structure Selection.Counted (limit : Nat) (selection : Selection F) : Prop where
  count : selection.decisions.countP isSelected = selection.selectedCount
  within : selection.selectedCount ≤ limit
  decided : ∀ item ∈ selection.decisions, isDecided item.action

theorem selectItem_counted (state : PortfolioState F) {cfg : AllocatorConfig F} {sofar : Selection F}
    (limited : cfg.maxNewOrdersPerRun = limit) (positive : 0 < limit) (counted : sofar.Counted limit)
    (item : ScoredOpportunity F) :
    (selectItem state cfg sofar item).Counted limit ∧
      (selectItem state cfg sofar item).decisions.map ScoredOpportunity.opp =
        sofar.decisions.map ScoredOpportunity.opp ++ [item.opp] := by
  obtain ⟨count, within, decided⟩ := counted
  have rejected (reasons : List String) : (sofar.reject item reasons).Counted limit ∧
      (sofar.reject item reasons).decisions.map ScoredOpportunity.opp =
        sofar.decisions.map ScoredOpportunity.opp ++ [item.opp] := by
    refine ⟨⟨by simpa [Selection.reject, isSelected] using count, within, ?_⟩, by simp [Selection.reject]⟩
    exact forall_mem_concat decided (.inr rfl)
  simp only [selectItem]
  split
  · rename_i unlimited
    split
    · -- nothing speaks against the item, so the limit of the run is not reached
      have below : sofar.selectedCount + 1 ≤ limit := by
        simp only [limitReasons, limited, List.isEmpty_iff, List.append_eq_nil_iff] at unlimited
        have := unlimited.1
        split at this
        · cases this
        · omega
      refine ⟨⟨by simpa [Selection.select, isSelected] using count, below, ?_⟩, by simp [Selection.select]⟩
      exact forall_mem_concat decided (.inl rfl)
    · exact rejected _
  · exact rejected _

theorem foldl_selectItem_counted (state : PortfolioState F) {cfg : AllocatorConfig F}
    (limited : cfg.maxNewOrdersPerRun = limit) (positive : 0 < limit) (items : List (ScoredOpportunity F))
    {sofar : Selection F} (counted : sofar.Counted limit) :
    (items.foldl (selectItem state cfg) sofar).Counted limit ∧
      (items.foldl (selectItem state cfg) sofar).decisions.map ScoredOpportunity.opp =
        sofar.decisions.map ScoredOpportunity.opp ++ items.map ScoredOpportunity.opp := by
  induction items generalizing sofar with
  | nil => exact ⟨counted, by simp⟩
  | cons item rest ih =>
    obtain ⟨still, opps⟩ := selectItem_counted state limited positive counted item
    obtain ⟨countedRest, oppsRest⟩ := ih still
    refine ⟨countedRest, ?_⟩
    rw [List.foldl_cons, oppsRest, opps, List.map_cons, List.append_assoc, List.singleton_append]

def named (decisions : List (AllocationDecision F)) : List Uuid := decisions.filterMap AllocationDecision.opportunityID

def selected (decision : AllocationDecision F) : Bool := decision.action == .shadowSelected

theorem named_toAllocationDecision (items : List (ScoredOpportunity F)) :
    (named (items.map toAllocationDecision)).Sublist (items.map fun item => item.opp.id) := by
  induction items with
  | nil => exact .slnil
  | cons item rest ih =>
    simp only [named, List.map_cons, List.filterMap_cons, toAllocationDecision]
    by_cases missing : item.opp.id = Uuid.nil
    · rw [if_pos missing]
      exact ih.cons _
    · rw [if_neg missing]
      exact ih.cons_cons _

/-- Each opportunity is decided on at most once, and no more are selected than a run may order. -/
structure Decides (opportunities : List (Opportunity F)) (limit : Nat) (decisions : List (AllocationDecision F)) : Prop where
  named : (named decisions).Subperm (opportunities.map Opportunity.id)
  count : decisions.countP selected ≤ limit
  decided : ∀ decision ∈ decisions, isDecided decision.action

theorem allocateShadow_decides (opportunities : List (Opportunity F)) (state : PortfolioState F)
    {given : AllocatorConfig F} {clock : Instant}
    (limited : (applyAllocatorDefaults given clock).maxNewOrdersPerRun = limit) (positive : 0 < limit) :
    Decides opportunities limit (allocateShadow opportunities state given clock).decisions := by
  simp only [allocateShadow]
  generalize applyAllocatorDefaults given clock = cfg at limited ⊢
  have none_ : Screening.AllRejected (⟨[], [], emptySummary⟩ : Screening F) := fun item member => absurd member List.not_mem_nil
  obtain ⟨kept, rejections⟩ := foldl_screen_keeps state cfg (cfg.now.getD clock) opportunities none_
  generalize opportunities.foldl (screen state cfg (cfg.now.getD clock)) ⟨[], [], emptySummary⟩ = screening at kept rejections ⊢
  have started : Selection.Counted limit ⟨0, screening.decisions, screening.summary⟩ := by
    refine ⟨?_, Nat.zero_le _, fun item member => .inr (rejections item member)⟩
    refine List.countP_eq_zero.mpr fun item member => ?_
    simp [isSelected, rejections item member]
  have ranked := sortStable_perm rankedBefore screening.eligible
  generalize sortStable rankedBefore screening.eligible = ranking at ranked ⊢
  obtain ⟨⟨count, within, decided⟩, opps⟩ := foldl_selectItem_counted state limited positive ranking started
  generalize ranking.foldl (selectItem state cfg) ⟨0, screening.decisions, screening.summary⟩ = selection
    at count within decided opps ⊢
  have reported := sortStable_perm reportedBefore selection.decisions
  refine ⟨?_, ?_, ?_⟩
  · refine (named_toAllocationDecision _).subperm.trans (List.Perm.subperm ?_)
    have decisions : (selection.decisions.map ScoredOpportunity.opp).Perm opportunities := by
      rw [opps, ← List.map_append]
      exact ((List.perm_append_comm.trans (ranked.append_right _)).map _).trans kept
    have ids := decisions.map Opportunity.id
    rw [List.map_map] at ids
    exact (reported.map _).trans ids
  · rw [List.countP_map]
    exact (reported.countP_eq _).trans_le (count.trans_le within)
  · intro decision member
    obtain ⟨item, chosen, rfl⟩ := List.mem_map.mp member
    exact decided item (reported.mem_iff.mp chosen)

def maxOrders : Nat := 2

theorem applyAllocatorDefaults_maxNewOrdersPerRun (mode : AllocatorMode) (clock : Instant) :
    (applyAllocatorDefaults { (defaultAllocatorConfig clock : AllocatorConfig F) with mode := mode } clock).maxNewOrdersPerRun =
      maxOrders := by
  simp [applyAllocatorDefaults, isZeroAllocatorConfig, defaultAllocatorConfig, maxOrders]

end

section
variable {F : Type} {decision : AllocationDecision F}

/-- Calls that neither order nor touch the status of an opportunity. -/
def Request.isAside : Request F → Prop
  | .expireQueuedBefore _ | .listQueuedForAllocation _ | .updateStatus .. | .processPaperOrder .. => False
  | _ => True

inductive Stage where
  | unlisted
  | free
  | claimed (opportunity : Uuid)
  | ordered (opportunity : Uuid)
  | stopped

/-- The opportunities that are still to be settled, and how many of them may still be claimed. -/
structure Progress where
  stage : Stage
  pending : List Uuid
  left : Nat

def Progress.allows (progress : Progress) : Request F → Prop
  | .expireQueuedBefore _ | .listQueuedForAllocation _ => progress.stage = .unlisted
  | .updateStatus id status _ =>
      (progress.stage = .free ∧ id ∈ progress.pending ∧ (status = .selected ∧ 0 < progress.left ∨ status = .rejected)) ∨
        ((progress.stage = .claimed id ∨ progress.stage = .ordered id) ∧ (status = .executed ∨ status = .rejected))
  | .processPaperOrder id _ => progress.stage = .claimed id
  | _ => True

def Progress.listed : Outcome (List (Opportunity F)) → Progress
  | .ok opportunities => ⟨.free, opportunities.map Opportunity.id, maxOrders⟩
  | .error _ => ⟨.stopped, [], 0⟩

/-- A write that fails stops the run. -/
def Progress.written (progress : Progress) (id : Uuid) (status : OpportunityStatus) : Outcome Unit → Progress
  | .error _ => ⟨.stopped, [], 0⟩
  | .ok () =>
      match progress.stage with
      | .free =>
          if status = .selected then ⟨.claimed id, progress.pending.erase id, progress.left - 1⟩
          else ⟨.free, progress.pending.erase id, progress.left⟩
      | _ => { progress with stage := .free }

def Progress.after (progress : Progress) : (request : Request F) → request.Answer F → Progress
  | .listQueuedForAllocation _, answer => Progress.listed answer
  | .updateStatus id status _, answer => progress.written id status answer
  | .processPaperOrder id _, _ => { progress with stage := .ordered id }
  | _, _ => progress

variable (F) in
def settling : Protocol (interface F) Progress := ⟨Progress.allows, Progress.after⟩

theorem settling_aside (progress : Progress) (request : Request F) (aside : request.isAside) :
    (settling F).allows progress request ∧ ∀ answer, (settling F).after progress request answer = progress := by
  cases request <;> first | exact ⟨trivial, fun _ => rfl⟩ | cases aside

theorem followsScript_attempt {σ : Type} {protocol : Protocol (interface F) σ} {ends : σ → α → Prop} {s : σ}
    {format : String} {request : Request F} {same : request.Answer F = Outcome α}
    (allowed : protocol.allows s request)
    (ended : ∀ answer value, cast same answer = .ok value → ends (protocol.after s request answer) value) :
    FollowsScript protocol ends s (attempt format request same) := by
  refine ⟨allowed, fun answer value done => ended answer value ?_⟩
  exact (wrapping_ok_iff format [] (cast same answer) value).mp done

theorem attempt_aside {format : String} {request : Request F} {same : request.Answer F = Outcome α}
    (aside : request.isAside) :
    FollowsScript (freely Request.isAside) (fun _ _ => True) () (attempt format request same) :=
  followsScript_attempt aside fun _ _ _ => trivial

theorem followsScript_aside {ends : Unit → α → Prop} {script : Script (interface F) α}
    (makes : FollowsScript (freely Request.isAside) ends () script) (s : Progress) :
    FollowsScript (settling F) (fun s' value => s' = s ∧ ends () value) s script := by
  refine FollowsScript.at_rest makes fun request aside => ?_
  exact settling_aside s request aside

theorem now_aside : FollowsScript (freely Request.isAside) (fun _ _ => True) ()
    (ExceptT.lift (ask .now) : Script (interface F) Instant) :=
  followsScript_lift ⟨trivial, fun _ => trivial⟩

theorem expireQueuedBefore_follows (format : String) (before : Instant) :
    FollowsScript (settling F) (fun s _ => s = ⟨.unlisted, [], 0⟩) ⟨.unlisted, [], 0⟩
      (attempt format (.expireQueuedBefore before) rfl : Script (interface F) Nat) :=
  followsScript_attempt rfl fun _ _ _ => rfl

theorem listQueuedForAllocation_follows (format : String) (asOf : Instant) :
    FollowsScript (settling F) (fun s opportunities => s = ⟨.free, opportunities.map Opportunity.id, maxOrders⟩)
      ⟨.unlisted, [], 0⟩ (attempt format (.listQueuedForAllocation asOf) rfl : Script (interface F) (List (Opportunity F))) := by
  refine followsScript_attempt rfl fun answer opportunities ok => ?_
  obtain rfl : answer = Except.ok opportunities := ok
  rfl

theorem openPositions_aside (deps : Deps) :
    FollowsScript (freely Request.isAside) (fun _ _ => True) () (openPositions deps : Script (interface F) _) := by
  unfold openPositions
  split
  · exact (attempt_aside (by trivial)).bind fun _ _ _ => followsScript_pure trivial
  · split
    · exact followsScript_throw
    · exact followsScript_pure trivial

theorem sourceReason_aside (opportunity : Opportunity F) :
    FollowsScript (freely Request.isAside) (fun _ _ => True) () (sourceReason opportunity) := by
  unfold sourceReason
  split
  · exact followsScript_pure trivial
  · split
    · exact followsScript_pure trivial
    · exact (attempt_aside (by trivial)).bind fun _ _ _ => followsScript_pure trivial

/-- The opportunities are split into those that go on and those that are rejected for their source. -/
def SplitSources (opportunities : List (Opportunity F)) (result : List (Opportunity F) × List (AllocationDecision F)) : Prop :=
  (named result.2 ++ result.1.map Opportunity.id).Perm (opportunities.map Opportunity.id) ∧
    ∀ decision ∈ result.2, decision.action = .shadowRejected

theorem decides_of_split {opportunities valid : List (Opportunity F)}
    {rejected decisions : List (AllocationDecision F)} (split : SplitSources opportunities (valid, rejected))
    (decides : Decides valid limit decisions) : Decides opportunities limit (rejected ++ decisions) := by
  obtain ⟨ids, rejections⟩ := split
  obtain ⟨names, count, decided⟩ := decides
  refine ⟨?_, ?_, List.forall_mem_append.mpr ⟨fun decision member => .inr (rejections decision member), decided⟩⟩
  · rw [named, List.filterMap_append]
    exact ((List.subperm_append_left (named rejected)).mpr names).trans ids.subperm
  · have unselected : rejected.countP selected = 0 :=
      List.countP_eq_zero.mpr fun decision member => by simp [selected, rejections decision member]
    rw [List.countP_append, unselected]
    omega

/-- The decision is about this opportunity and has been executed or rejected. -/
def Settled (id : Uuid) (decision : AllocationDecision F) : Prop :=
  decision.opportunityID = some id ∧ (decision.action = .executed ∨ decision.action = .executionRejected)

theorem orderOutcome_action (answer : Outcome PaperOrderResult) :
    (orderOutcome answer).action = .executed ∨ (orderOutcome answer).action = .executionRejected := by
  unfold orderOutcome
  split
  · exact .inr rfl
  · split
    · exact .inr rfl
    · exact .inl rfl

theorem applyResult_settled {id : Uuid} (about : decision.opportunityID = some id)
    {result : Option PaperExecutionResult}
    (ended : ∀ value ∈ result, value.action = .executed ∨ value.action = .executionRejected) :
    Settled id (applyResult decision result) := by
  cases result with
  | none => exact ⟨about, .inr rfl⟩
  | some value =>
    simp only [applyResult]
    split
    · exact ⟨about, .inr rfl⟩
    · exact ⟨about, ended value rfl⟩

def Progress.less (progress : Progress) (decision : AllocationDecision F) : Progress where
  stage := .free
  pending := decision.opportunityID.elim progress.pending progress.pending.erase
  left := if selected decision then progress.left - 1 else progress.left

theorem preclaimPaperOpportunity_follows (waiting : ∀ id, decision.opportunityID = some id → id ∈ pending)
    (claimable : 0 < left) :
    FollowsScript (settling F)
      (fun s _ => ∃ id, decision.opportunityID = some id ∧ s = ⟨.claimed id, pending.erase id, left - 1⟩)
      ⟨.free, pending, left⟩ (preclaimPaperOpportunity decision) := by
  unfold preclaimPaperOpportunity
  split
  · exact followsScript_throw
  · rename_i id about
    refine followsScript_attempt (.inl ⟨rfl, waiting id about, .inl ⟨rfl, claimable⟩⟩) fun answer value ok => ?_
    obtain rfl : answer = Except.ok value := ok
    exact ⟨id, about, rfl⟩

theorem recordDecision_follows {s : Progress} {ends : Progress → Prop}
    (written : FollowsScript (settling F) (fun s _ => ends s) s (updateOpportunityStatus decision)) :
    FollowsScript (settling F) (fun s _ => ends s) s (recordDecision decision) := by
  refine FollowsScript.bind (followsScript_attempt trivial fun _ _ _ => rfl) fun s' _ (same : s' = s) => ?_
  subst same
  exact written.bind fun _ _ ended => followsScript_pure ended

theorem updateOpportunityStatus_settled {id : Uuid} (settled : Settled id decision) {s : Progress}
    (held : s = ⟨.claimed id, pending, left⟩ ∨ s = ⟨.ordered id, pending, left⟩) :
    FollowsScript (settling F) (fun s _ => s = ⟨.free, pending, left⟩) s (updateOpportunityStatus decision) := by
  obtain ⟨about, action⟩ := settled
  have written {format : String} {status : OpportunityStatus} {reason : String}
      (final : status = .executed ∨ status = .rejected) :
      FollowsScript (settling F) (fun s _ => s = ⟨.free, pending, left⟩) s
        (attempt format (.updateStatus id status reason) rfl : Script (interface F) Unit) := by
    have stage : s.stage = .claimed id ∨ s.stage = .ordered id := by
      rcases held with rfl | rfl
      · exact .inl rfl
      · exact .inr rfl
    refine followsScript_attempt (.inr ⟨stage, final⟩) fun answer value ok => ?_
    obtain rfl : answer = Except.ok value := ok
    rcases held with rfl | rfl <;> rfl
  rw [updateOpportunityStatus, about]
  rcases action with executed | rejected
  · rw [executed]
    exact written (.inl rfl)
  · rw [rejected]
    exact written (.inr rfl)

theorem updateOpportunityStatus_rejected (rejected : decision.action = .shadowRejected)
    (waiting : ∀ id, decision.opportunityID = some id → id ∈ pending) :
    FollowsScript (settling F) (fun s _ => s = Progress.less ⟨.free, pending, left⟩ decision) ⟨.free, pending, left⟩
      (updateOpportunityStatus decision) := by
  unfold updateOpportunityStatus
  split
  · rename_i none_
    exact followsScript_pure (by simp [Progress.less, selected, rejected, none_])
  · rename_i id about
    rw [rejected]
    refine followsScript_attempt (.inl ⟨rfl, waiting id about, .inr rfl⟩) fun answer value ok => ?_
    obtain rfl : answer = Except.ok value := ok
    simp [settling, Progress.after, Progress.written, Progress.less, selected, rejected, about]

end

section
variable {F : Type} [Float64 F]

theorem buildPortfolioAllocatorState_aside (deps : Deps) :
    FollowsScript (freely Request.isAside) (fun _ _ => True) ()
      (buildPortfolioAllocatorState deps : Script (interface F) _) := by
  refine (openPositions_aside deps).bind fun _ (positions, warnings) _ => ?_
  simp only
  split
  · split
    · exact followsScript_throw
    · refine (attempt_aside (by trivial)).bind fun _ balance _ => ?_
      split
      · exact followsScript_throw
      · exact followsScript_pure trivial
  · exact followsScript_pure trivial

theorem validateSources_aside (mode : AllocatorMode) (opportunities : List (Opportunity F)) :
    FollowsScript (freely Request.isAside) (fun _ result => SplitSources opportunities result) ()
      (validateSources mode opportunities) := by
  induction opportunities with
  | nil => exact followsScript_pure ⟨.nil, fun _ member => absurd member List.not_mem_nil⟩
  | cons opportunity rest ih =>
    refine (sourceReason_aside opportunity).bind fun _ reason _ => ih.bind fun _ (valid, rejected) split => ?_
    obtain ⟨ids, rejections⟩ := split
    cases reason with
    | none => exact followsScript_pure ⟨List.perm_middle.trans (ids.cons _), rejections⟩
    | some reason =>
      refine followsScript_pure ⟨ids.cons _, fun decision member => ?_⟩
      rcases List.mem_cons.mp member with rfl | member
      · rfl
      · exact rejections decision member

theorem validatePortfolioOpportunitySources_aside (deps : Deps) (opportunities : List (Opportunity F)) :
    FollowsScript (freely Request.isAside) (fun _ result => SplitSources opportunities result) ()
      (validatePortfolioOpportunitySources deps opportunities) := by
  have none_ : ∀ decision ∈ ([] : List (AllocationDecision F)), decision.action = .shadowRejected :=
    fun _ member => absurd member List.not_mem_nil
  unfold validatePortfolioOpportunitySources
  split
  · rename_i empty
    rw [List.isEmpty_iff] at empty
    exact followsScript_pure (by rw [empty]; exact ⟨.nil, none_⟩)
  · split
    · split
      · exact followsScript_throw
      · exact followsScript_pure ⟨.refl _, none_⟩
    · exact validateSources_aside _ opportunities

theorem executePaperDecision_follows (deps : Deps) (opportunity : Opportunity F) (decision : AllocationDecision F)
    (strategy : Strategy) (pending : List Uuid) (left : Nat) :
    Follows (settling F)
      (fun s result => (s = ⟨.claimed opportunity.id, pending, left⟩ ∨ s = ⟨.ordered opportunity.id, pending, left⟩) ∧
        ∀ value ∈ result, value.action = .executed ∨ value.action = .executionRejected)
      ⟨.claimed opportunity.id, pending, left⟩ (executePaperDecision deps opportunity decision strategy) := by
  refine ⟨trivial, fun stopped => ?_⟩
  change Follows (settling F) _ ⟨.claimed opportunity.id, pending, left⟩ (if Option.isSome stopped then _ else _)
  split
  · exact ⟨.inl rfl, fun value given => absurd given (by simp)⟩
  · split
    · refine ⟨.inl rfl, fun value given => ?_⟩
      cases given
      exact .inr rfl
    · refine ⟨trivial, fun runID => ⟨rfl, fun answer => ⟨.inr rfl, fun value given => ?_⟩⟩⟩
      cases given
      exact orderOutcome_action answer

theorem executePaperAllocatorDecision_follows (deps : Deps) (opportunities : List (Opportunity F))
    {given : AllocationDecision F} {id : Uuid} (about : given.opportunityID = some id) (pending : List Uuid) (left : Nat) :
    Follows (settling F)
      (fun s decision => (s = ⟨.claimed id, pending, left⟩ ∨ s = ⟨.ordered id, pending, left⟩) ∧ Settled id decision)
      ⟨.claimed id, pending, left⟩ (executePaperAllocatorDecision deps opportunities given) := by
  rw [executePaperAllocatorDecision]
  simp only [about]
  cases found : latest Opportunity.id opportunities id with
  | none => exact ⟨.inl rfl, rfl, .inr rfl⟩
  | some opportunity =>
    have isIt : opportunity.id = id := by simpa using List.find?_some found
    simp only
    split
    · exact ⟨.inl rfl, rfl, .inr rfl⟩
    · refine ⟨trivial, fun (answer : Outcome (Option Strategy)) => ?_⟩
      rcases answer with fault | (_ | strategy)
      · exact ⟨.inl rfl, rfl, .inr rfl⟩
      · exact ⟨.inl rfl, rfl, .inr rfl⟩
      · subst isIt
        refine (executePaperDecision_follows deps opportunity _ strategy pending left).bind fun s result ended => ?_
        exact ⟨ended.1, applyResult_settled rfl ended.2⟩

theorem settleDecision_follows {deps : Deps} (paper : deps.allocatorMode = .paper)
    (opportunities : List (Opportunity F)) {given : AllocationDecision F} (decided : isDecided given.action)
    (waiting : ∀ id, given.opportunityID = some id → id ∈ pending) (claimable : selected given → 0 < left) :
    FollowsScript (settling F) (fun s _ => s = Progress.less ⟨.free, pending, left⟩ given) ⟨.free, pending, left⟩
      (settleDecision deps opportunities given) := by
  unfold settleDecision
  rcases decided with isSelected | isRejected
  · have chosen : selected given = true := by simp [selected, isSelected]
    rw [if_pos ⟨paper, isSelected⟩]
    refine (preclaimPaperOpportunity_follows waiting (claimable chosen)).bind fun s _ ⟨id, about, claimed⟩ => ?_
    subst claimed
    refine (followsScript_lift (executePaperAllocatorDecision_follows deps opportunities about _ _)).bind
      fun s decision ⟨held, settled⟩ => ?_
    refine recordDecision_follows ((updateOpportunityStatus_settled settled held).imp fun s _ ended => ?_)
    have about : given.opportunityID = some id := about
    simp [ended, Progress.less, chosen, about]
  · have unchosen : ¬(deps.allocatorMode = .paper ∧ given.action = .shadowSelected) := by simp [isRejected]
    rw [if_neg unchosen]
    exact recordDecision_follows (updateOpportunityStatus_rejected isRejected waiting)

theorem settleDecisions_follows {deps : Deps} (paper : deps.allocatorMode = .paper)
    (opportunities : List (Opportunity F)) {decisions : List (AllocationDecision F)}
    (waiting : (named decisions).Subperm pending) (claimable : decisions.countP selected ≤ left)
    (decided : ∀ decision ∈ decisions, isDecided decision.action) :
    FollowsScript (settling F) (fun _ _ => True) ⟨.free, pending, left⟩ (settleDecisions deps opportunities decisions) := by
  induction decisions generalizing pending left with
  | nil => exact followsScript_pure trivial
  | cons decision rest ih =>
    have here : ∀ id, decision.opportunityID = some id → id ∈ pending := fun id about =>
      waiting.subset (by simp [named, about])
    have room : selected decision → 0 < left := fun chosen => by
      rw [List.countP_cons_of_pos chosen] at claimable
      omega
    refine (settleDecision_follows paper opportunities (decided _ List.mem_cons_self) here room).bind fun s _ same => ?_
    subst same
    refine FollowsScript.bind (ih ?_ ?_ fun later member => decided later (List.mem_cons_of_mem _ member)) fun _ _ _ =>
      followsScript_pure trivial
    · cases about : decision.opportunityID with
      | none => simpa [named, about, Progress.less] using waiting
      | some id =>
        have erased := waiting.erase id
        simpa [named, about, Progress.less] using erased
    · by_cases chosen : selected decision
      · rw [List.countP_cons_of_pos chosen] at claimable
        simp only [chosen, if_true]
        omega
      · rw [List.countP_cons_of_neg chosen] at claimable
        simp only [chosen, Bool.false_eq_true, if_false]
        exact claimable

/-- A run in paper mode settles the opportunities it has listed, one after the other. -/
theorem runPortfolioAllocator_follows {deps : Deps} (paper : deps.allocatorMode = .paper) :
    FollowsScript (settling F) (fun _ _ => True) ⟨.unlisted, [], 0⟩ (runPortfolioAllocator deps) := by
  unfold runPortfolioAllocator
  split
  · exact followsScript_throw
  refine (followsScript_aside now_aside _).bind fun s asOf ⟨same, _⟩ => ?_
  subst same
  refine (expireQueuedBefore_follows _ _).bind fun s expired same => ?_
  subst same
  refine (listQueuedForAllocation_follows _ _).bind fun s opportunities listed => ?_
  subst listed
  refine (followsScript_aside (buildPortfolioAllocatorState_aside deps) _).bind fun s (state, warnings) ⟨same, _⟩ => ?_
  subst same
  refine (followsScript_aside (validatePortfolioOpportunitySources_aside deps opportunities) _).bind
    fun s (valid, sourceRejected) ⟨same, split⟩ => ?_
  subst same
  refine (followsScript_aside now_aside _).bind fun s clock ⟨same, _⟩ => ?_
  subst same
  obtain ⟨names, count, decided⟩ := decides_of_split split
    (allocateShadow_decides valid state (applyAllocatorDefaults_maxNewOrdersPerRun deps.allocatorMode clock) (by decide))
  exact (settleDecisions_follows paper opportunities names count decided).bind fun _ _ _ => followsScript_pure trivial

end

end Augr.Portfolio
