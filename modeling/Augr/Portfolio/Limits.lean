import Augr.Portfolio.Progress

/-! How many orders the runs of one day make. -/

set_option autoImplicit false

namespace Augr.Portfolio

open Foundation Domain

section
variable {F : Type}

def isOrder : Exchange (interface F) → Bool
  | ⟨.processPaperOrder .., _⟩ => true
  | _ => false

/-- The order was made, and the decision behind it counts as executed. -/
def isExecution : Exchange (interface F) → Bool
  | ⟨.processPaperOrder _ _, answer⟩ => (orderOutcome answer).action == .executed
  | _ => false

theorem isOrder_of_isExecution {exchange : Exchange (interface F)} (executed : isExecution exchange) : isOrder exchange := by
  obtain ⟨request, answer⟩ := exchange
  cases request <;> first | rfl | cases executed

def queueLength : Outcome (List (Opportunity F)) → Nat
  | .ok opportunities => opportunities.length
  | .error _ => 0

def listedQueue : Exchange (interface F) → Option Nat
  | ⟨.listQueuedForAllocation _, answer⟩ => some (queueLength answer)
  | _ => none

def queue (trace : List (Exchange (interface F))) : Nat := (trace.findSome? listedQueue).getD 0

def Stage.budget : Stage → Nat
  | .claimed _ => 1
  | _ => 0

def Progress.budget (progress : Progress) : Nat := progress.stage.budget + min progress.left progress.pending.length

theorem Progress.pays {progress : Progress} (begun : progress.stage ≠ .unlisted) (exchange : Exchange (interface F))
    (allowed : (settling F).allows progress exchange.1) :
    ((settling F).follow progress exchange).stage ≠ .unlisted ∧
      (if isOrder exchange then 1 else 0) + ((settling F).follow progress exchange).budget ≤ progress.budget := by
  obtain ⟨request, answer⟩ := exchange
  cases request with
  | expireQueuedBefore before => exact absurd allowed begun
  | listQueuedForAllocation asOf => exact absurd allowed begun
  | processPaperOrder id request =>
    have claimed : progress.stage = .claimed id := allowed
    refine ⟨by rintro ⟨⟩, ?_⟩
    change 1 + (Stage.budget (.ordered id) + min progress.left progress.pending.length) ≤ progress.budget
    simp only [Progress.budget, claimed, Stage.budget]
    omega
  | updateStatus id status reason =>
    change (Progress.written progress id status answer).stage ≠ .unlisted ∧
      0 + (Progress.written progress id status answer).budget ≤ progress.budget
    rcases answer with fault | ⟨⟨⟩⟩
    · exact ⟨by rintro ⟨⟩, Nat.zero_le _⟩
    rcases allowed with ⟨free, waiting, claim⟩ | ⟨held, final⟩
    · have shorter := List.length_erase_of_mem waiting
      have some_ := List.length_pos_of_mem waiting
      simp only [Progress.written, free, Progress.budget, Stage.budget]
      split
      · refine ⟨by rintro ⟨⟩, ?_⟩
        -- a claim pays for one order in advance
        have left : 0 < progress.left := by
          rcases claim with ⟨_, left⟩ | rejected
          · exact left
          · simp_all
        simp only
        omega
      · refine ⟨by rintro ⟨⟩, ?_⟩
        simp only
        omega
    · have free : (Progress.written progress id status (.ok ())) = { progress with stage := .free } := by
        rcases held with held | held <;> simp [Progress.written, held]
      rw [free]
      refine ⟨by rintro ⟨⟩, ?_⟩
      simp only [Progress.budget, Stage.budget]
      omega
  | _ => exact ⟨begun, (Nat.zero_add _).le⟩

theorem orders_le_budget {progress : Progress} {trace : List (Exchange (interface F))}
    (allowed : (settling F).AllowsAll progress trace)
    (begun : progress.stage ≠ .unlisted) : trace.countP isOrder ≤ progress.budget := by
  induction trace generalizing progress with
  | nil => exact Nat.zero_le _
  | cons exchange rest ih =>
    obtain ⟨first, later⟩ := allowed
    obtain ⟨still, paid⟩ := progress.pays begun exchange first
    have orders := ih later still
    rw [List.countP_cons]
    omega

theorem orders_le_queue {trace : List (Exchange (interface F))}
    (allowed : (settling F).AllowsAll ⟨.unlisted, [], 0⟩ trace) : trace.countP isOrder ≤ min maxOrders (queue trace) := by
  induction trace with
  | nil => exact Nat.zero_le _
  | cons exchange rest ih =>
    obtain ⟨request, answer⟩ := exchange
    obtain ⟨first, later⟩ := allowed
    cases request with
    | listQueuedForAllocation asOf =>
      change rest.countP isOrder ≤ min maxOrders (queueLength answer)
      rcases answer with fault | opportunities
      · have stopped : (settling F).AllowsAll ⟨.stopped, [], 0⟩ rest := later
        exact orders_le_budget stopped nofun
      · have listed : (settling F).AllowsAll ⟨.free, opportunities.map Opportunity.id, maxOrders⟩ rest := later
        have orders := orders_le_budget listed nofun
        simp only [Progress.budget, List.length_map, Stage.budget, Nat.zero_add] at orders
        exact orders
    | updateStatus id status reason => rcases first with ⟨free, _⟩ | ⟨free | free, _⟩ <;> cases free
    | processPaperOrder id request => cases first
    | _ => exact ih later

end

section
variable {F : Type} [Float64 F]

/-- One run in paper mode, up to where it ends or is stopped. -/
structure PaperRun (F : Type) [Float64 F] where
  deps : Deps
  paper : deps.allocatorMode = .paper
  trace : List (Exchange (interface F))
  rest : Program (interface F) (Outcome JobSummary)
  runs : Runs (runPortfolioAllocator deps).run trace rest

def PaperRun.executed (run : PaperRun F) : Nat := run.trace.countP isExecution

def executedOver (runs : List (PaperRun F)) : Nat := (runs.map PaperRun.executed).sum

theorem PaperRun.executed_le (run : PaperRun F) : run.executed ≤ min maxOrders (queue run.trace) := by
  have allowed := Follows.allowsAll (runPortfolioAllocator_follows run.paper) run.runs
  exact (List.countP_mono_left fun exchange _ => isOrder_of_isExecution).trans (orders_le_queue allowed)

/-- Before each run, the orders of the day and those that its queue can give are within the limit of the day. -/
def RoomForEach (limits : AllocatorConfig F) (day : List (PaperRun F)) : Prop :=
  ∀ earlier run later, day = earlier ++ run :: later →
    (executedOver earlier : Int) + min limits.maxNewOrdersPerRun (queue run.trace) ≤ limits.maxNewOrdersPerDay

theorem executedOver_le {limits : AllocatorConfig F} (perRun : limits.maxNewOrdersPerRun = maxOrders)
    (perDay : 0 ≤ limits.maxNewOrdersPerDay) {day : List (PaperRun F)} (room : RoomForEach limits day) :
    (executedOver day : Int) ≤ limits.maxNewOrdersPerDay := by
  induction day using List.reverseRecOn with
  | nil => exact perDay
  | append_singleton earlier run _ =>
    have before := room earlier run [] rfl
    have here := run.executed_le
    rw [perRun] at before
    simp only [executedOver, List.map_append, List.sum_append, List.map_cons, List.map_nil, List.sum_cons,
      List.sum_nil] at before ⊢
    omega

/-- Every run keeps the limit of a run, and a day keeps its limit while each run finds room for what is in its
queue. -/
theorem paperRuns_within_limits (clock : Instant) (day : List (PaperRun F))
    (room : RoomForEach (defaultAllocatorConfig clock) day) :
    (∀ run ∈ day, (run.executed : Int) ≤ (defaultAllocatorConfig clock : AllocatorConfig F).maxNewOrdersPerRun) ∧
      (executedOver day : Int) ≤ (defaultAllocatorConfig clock : AllocatorConfig F).maxNewOrdersPerDay := by
  refine ⟨fun run _ => ?_, executedOver_le rfl (show (0 : Int) ≤ 5 by decide) room⟩
  have within := run.executed_le
  change (run.executed : Int) ≤ 2
  rw [maxOrders] at within
  omega

end

/-! A day with three runs that find two opportunities each. -/

def sampleOpportunity (number : UInt8) (now : Instant) : Opportunity Exact where
  id := Uuid.ofByte number
  strategyID := Uuid.ofByte 200
  pipelineRunID := some (Uuid.ofByte 201)
  marketType := .stock
  ticker := "ABC"
  side := .buy
  predictionSide := ""
  signal := .buy
  status := .queued
  confidence := .finite 1
  edgePct := .finite 1
  maxLossPct := .finite (1 / 10)
  entryPrice := .finite 100
  liquidityUSD := .finite 1000000
  marketCapUSD := .finite 0
  spreadPct := .finite 0
  proposedNotional := .finite 1000
  expiresAt := now.add 3600000000000
  createdAt := now
  dedupeKey := ""

/-- A run at this time, with an account of 100000, no open position and every call successful. -/
def sampleAnswers (now : Instant) (queue : List (Opportunity Exact)) : (request : Request Exact) → request.Answer Exact
  | .now => now
  | .newUUID => Uuid.ofByte 202
  | .contextErr => none
  | .expireQueuedBefore _ => .ok 0
  | .listQueuedForAllocation _ => .ok queue
  | .listAllOpenPositions => .ok []
  | .getAccountBalance => .ok ⟨.finite 100000, .finite 100000⟩
  | .getRun _ => .ok (some ⟨.completed, Uuid.ofByte 200, .buy⟩)
  | .updateStatus .. => .ok ()
  | .getStrategy _ => .ok (some ⟨Uuid.ofByte 200, .stock, true, "active"⟩)
  | .processPaperOrder .. => .ok ⟨some (Uuid.ofByte 203), false, ""⟩
  | .createDecision _ => .ok ()

def sampleDeps : Deps := ⟨true, true, true, true, true, true, true, .paper⟩

def samplePaperRun (number : UInt8) (now : Instant) : PaperRun Exact where
  deps := sampleDeps
  paper := rfl
  trace := (runPortfolioAllocator sampleDeps).run.perform
    (sampleAnswers now [sampleOpportunity number now, sampleOpportunity (number + 1) now])
  rest := .done _
  runs := Program.perform_runs _ _

def sampleDay : List (PaperRun Exact) :=
  [samplePaperRun 1 ⟨36900000000000, true⟩, samplePaperRun 3 ⟨38700000000000, true⟩, samplePaperRun 5 ⟨40500000000000, true⟩]

theorem sampleDay_exceeds_limit : (defaultAllocatorConfig Instant.zero : AllocatorConfig Exact).maxNewOrdersPerDay <
    executedOver sampleDay := by decide +kernel

theorem sampleMorning_room : RoomForEach (defaultAllocatorConfig Instant.zero) (sampleDay.take 2) := by
  intro earlier run later same
  rcases earlier with _ | ⟨first, _ | ⟨second, rest⟩⟩
  · obtain ⟨rfl, rfl⟩ := List.cons.inj same
    decide
  · obtain ⟨isFirst, others⟩ := List.cons.inj same
    obtain ⟨isRun, -⟩ := List.cons.inj others
    subst isFirst isRun
    decide +kernel
  · have long := congrArg List.length same
    simp [sampleDay] at long

theorem sampleMorning_within_limits : RoomForEach (defaultAllocatorConfig Instant.zero) (sampleDay.take 2) ∧
    executedOver (sampleDay.take 2) = 4 ∧ (executedOver (sampleDay.take 2) : Int) ≤
      (defaultAllocatorConfig Instant.zero : AllocatorConfig Exact).maxNewOrdersPerDay :=
  ⟨sampleMorning_room, by decide +kernel, (paperRuns_within_limits Instant.zero (sampleDay.take 2) sampleMorning_room).2⟩

end Augr.Portfolio
