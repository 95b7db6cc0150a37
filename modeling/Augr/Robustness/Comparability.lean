import Augr.Robustness.Leakage

/-! Which assessments compare like with like.

The checks run fold by fold. What they leave to the caller is that all candidates bring the same windows, that
one evaluation policy is behind all baselines, and that no report is brought twice. -/

set_option autoImplicit false

namespace Augr.Robustness

open Foundation
open Evaluation (Report newReport)
open Experimentrun (ExperimentMode formatTime parseTime)

variable {candidate : CandidateInput} {evidence : List FoldEvidence}

def CandidateEvidence.windows (candidate : CandidateEvidence) : List Window := candidate.folds.map FoldEvidence.window

/-- Every citation of an assessment, as often as it is made. -/
def Assessment.cites (assessment : Assessment) : List Uuid :=
  assessment.canonical.candidates.flatMap fun candidate => candidate.folds.flatMap FoldEvidence.cites

structure Comparable (input : AssessmentInput) (assessment : Assessment) : Prop where
  windows : ∀ one ∈ assessment.canonical.candidates, ∀ other ∈ assessment.canonical.candidates, one.windows = other.windows
  mode : ∀ report ∈ input.cited, report.mode = assessment.canonical.mode
  policy : ∀ one ∈ input.cited, ∀ other ∈ input.cited, one.canonical.policyID = other.canonical.policyID
  once : assessment.cites.Nodup

def AssessmentInput.baselines (input : AssessmentInput) : List Report :=
  input.candidates.flatMap fun candidate => candidate.ready.map (·.baseline)

/-- What a caller brings, in whatever order. -/
@[mk_iff]
structure AssessmentInput.Coordinated (input : AssessmentInput) : Prop where
  windows : ∀ one ∈ input.candidates, ∀ other ∈ input.candidates,
    (one.ready.map Fold.window).Perm (other.ready.map Fold.window)
  policy : ∀ one ∈ input.baselines, ∀ other ∈ input.baselines, one.canonical.policyID = other.canonical.policyID
  once : (input.cited.map (·.id)).Nodup

theorem parseTime_formatTime (text : String) : parseTime (formatTime (parseTime text)) = parseTime text := by
  cases parsed : Instant.parse text with
  | none =>
    have zero : parseTime text = .zero := by simp [parseTime, parsed]
    rw [zero]
    decide
  | some t =>
    have read : parseTime text = t := by simp [parseTime, parsed]
    rw [read, parseTime, formatTime, Instant.parse_format_parse parsed]
    rfl

def Window.start (window : Window) : Int := (parseTime window.testStart).nanos

theorem Fold.window_start (fold : Fold) : fold.window.start = fold.testStart.nanos :=
  congrArg Instant.nanos (parseTime_formatTime _)

section

variable {F : Type} [Float64 F] [Elementary F] {input : AssessmentInput} {policy : Policy}

theorem ordered_ascending (issued : input.Issued F) (member : candidate ∈ input.candidates)
    (checked : CandidateChecked policy input.mode candidate evidence) :
    candidate.ordered.Pairwise fun earlier later => earlier.testStart.nanos < later.testStart.nanos := by
  have windows : ∀ fold ∈ candidate.ordered, fold.testStart.nanos < fold.testEnd.nanos :=
    fun fold ordered => ordered_windows issued member ordered
  have chain : candidate.ordered.IsChain fun earlier later => earlier.testEnd.nanos ≤ later.testStart.nanos := by
    refine checked.follows.imp fun earlier later follows => ?_
    simp only [followsBadly, Bool.or_eq_false_iff, Instant.after, decide_eq_false_iff_not, not_lt] at follows
    exact follows.1
  have pairs := pairwise_of_chain (fun fold : Fold => fold.testStart.nanos < fold.testEnd.nanos)
    (fun first second third window before after => before.trans (window.le.trans after)) chain windows
  exact pairs.imp_of_mem fun inside _ apart => (windows _ inside).trans_le apart

theorem windows_eq_iff (issued : input.Issued F) {one other : CandidateInput} {shown shown' : List FoldEvidence}
    (first : one ∈ input.candidates) (second : other ∈ input.candidates)
    (checked : CandidateChecked policy input.mode one shown) (checked' : CandidateChecked policy input.mode other shown') :
    one.ordered.map Fold.window = other.ordered.map Fold.window ↔
      (one.ready.map Fold.window).Perm (other.ready.map Fold.window) := by
  have sorted : one.ordered.Perm one.ready := perm_sortedBy _ _
  have sorted' : other.ordered.Perm other.ready := perm_sortedBy _ _
  constructor
  · intro same
    exact ((sorted.map _).symm.trans (.of_eq same)).trans (sorted'.map _)
  · intro same
    have ascending : ∀ {candidate : CandidateInput} {evidence : List FoldEvidence}, candidate ∈ input.candidates →
        CandidateChecked policy input.mode candidate evidence →
        (candidate.ordered.map Fold.window).Pairwise fun earlier later => earlier.start < later.start := by
      intro candidate evidence member accepted
      rw [List.pairwise_map]
      refine (ordered_ascending issued member accepted).imp fun {earlier later} before => ?_
      rwa [Fold.window_start, Fold.window_start]
    refine List.Perm.eq_of_pairwise ?_
      (ascending first checked) (ascending second checked') ((sorted.map _).trans (same.trans (sorted'.map _).symm))
    intro earlier later _ _ before after
    exact absurd (before.trans after) (lt_irrefl _)

end

theorem CandidateChecked.cites {policy : Policy} {mode : ExperimentMode}
    (checked : CandidateChecked policy mode candidate evidence) :
    (evidence.flatMap FoldEvidence.cites).Perm ((candidate.ready.flatMap Fold.cited).map (·.id)) := by
  have sorted : candidate.ordered.Perm candidate.ready := perm_sortedBy _ _
  refine List.Perm.trans ?_ ((sorted.flatMap_right _).map _)
  have folds := checked.folds
  clear checked sorted
  generalize candidate.ordered = ordered at folds ⊢
  induction folds with
  | nil => exact .nil
  | cons first _ ih =>
    rw [List.flatMap_cons, List.flatMap_cons, List.map_append]
    exact first.cites.append ih

theorem CandidateChecked.windows {policy : Policy} {mode : ExperimentMode}
    (checked : CandidateChecked policy mode candidate evidence) :
    evidence.map FoldEvidence.window = candidate.ordered.map Fold.window := by
  have folds := checked.folds
  clear checked
  generalize candidate.ordered = ordered at folds ⊢
  induction folds with
  | nil => rfl
  | cons first _ ih => rw [List.map_cons, List.map_cons, first.window, ih]

theorem cites_perm {F : Type} [Float64 F] [Elementary F] {input : AssessmentInput} {assessment : Assessment}
    (ok : newAssessment F input = .ok assessment) : assessment.cites.Perm (input.cited.map (·.id)) := by
  obtain ⟨_, policy, _, _, _, given, _⟩ := newAssessment_ok ok
  have all := (newAssessment_checked ok given).1
  have sorted : (sortCandidates input.candidates).Perm input.candidates := perm_sortedBy _ _
  refine List.Perm.trans ?_ ((sorted.flatMap_right _).map _)
  rw [Assessment.cites, ← List.flatMap_map]
  generalize sortCandidates input.candidates = candidates at all
  generalize assessment.canonical.candidates.map (·.folds) = evidence at all
  induction all with
  | nil => exact .nil
  | cons first _ ih =>
    rw [List.flatMap_cons, List.flatMap_cons, List.map_append]
    exact first.cites.append ih

section

variable {F : Type} [Float64 F] [Elementary F] {input : AssessmentInput} {assessment : Assessment}

theorem shown_windows (ok : newAssessment F input = .ok assessment) {policy : Policy} (given : input.policy = some policy) :
    assessment.canonical.candidates.map CandidateEvidence.windows =
      (sortCandidates input.candidates).map fun candidate => candidate.ordered.map Fold.window := by
  have all := (newAssessment_checked ok given).1
  have shown : assessment.canonical.candidates.map CandidateEvidence.windows =
      (assessment.canonical.candidates.map (·.folds)).map fun folds => folds.map FoldEvidence.window := by
    rw [List.map_map]
    rfl
  rw [shown]
  generalize sortCandidates input.candidates = candidates at all
  generalize assessment.canonical.candidates.map (·.folds) = evidence at all
  induction all with
  | nil => rfl
  | cons first _ ih => rw [List.map_cons, List.map_cons, ih, first.windows]

theorem windows_iff (ok : newAssessment F input = .ok assessment) (issued : input.Issued F) :
    (∀ one ∈ assessment.canonical.candidates, ∀ other ∈ assessment.canonical.candidates, one.windows = other.windows) ↔
      ∀ one ∈ input.candidates, ∀ other ∈ input.candidates, (one.ready.map Fold.window).Perm (other.ready.map Fold.window) := by
  obtain ⟨_, policy, _, _, _, given, _⟩ := newAssessment_ok ok
  have sorted : (sortCandidates input.candidates).Perm input.candidates := perm_sortedBy _ _
  have shown := shown_windows ok given
  have listed : ∀ windows, windows ∈ assessment.canonical.candidates.map CandidateEvidence.windows ↔
      ∃ candidate ∈ input.candidates, candidate.ordered.map Fold.window = windows := by
    intro windows
    rw [shown, List.mem_map]
    exact ⟨fun ⟨candidate, member, same⟩ => ⟨candidate, sorted.mem_iff.mp member, same⟩,
      fun ⟨candidate, member, same⟩ => ⟨candidate, sorted.mem_iff.mpr member, same⟩⟩
  constructor
  · intro same one first other second
    obtain ⟨_, checked⟩ := checked_of_mem ok given first
    obtain ⟨_, checked'⟩ := checked_of_mem ok given second
    rw [← windows_eq_iff issued first second checked checked']
    obtain ⟨seen, among, isSeen⟩ := List.mem_map.mp ((listed _).mpr ⟨one, first, rfl⟩)
    obtain ⟨seen', among', isSeen'⟩ := List.mem_map.mp ((listed _).mpr ⟨other, second, rfl⟩)
    rw [← isSeen, ← isSeen', same seen among seen' among']
  · intro same seen among seen' among'
    obtain ⟨one, first, isOne⟩ := (listed _).mp (List.mem_map_of_mem among)
    obtain ⟨other, second, isOther⟩ := (listed _).mp (List.mem_map_of_mem among')
    obtain ⟨_, checked⟩ := checked_of_mem ok given first
    obtain ⟨_, checked'⟩ := checked_of_mem ok given second
    rw [← isOne, ← isOther]
    exact (windows_eq_iff issued first second checked checked').mpr (same one first other second)

theorem policy_iff (ok : newAssessment F input = .ok assessment) :
    (∀ one ∈ input.cited, ∀ other ∈ input.cited, one.canonical.policyID = other.canonical.policyID) ↔
      ∀ one ∈ input.baselines, ∀ other ∈ input.baselines, one.canonical.policyID = other.canonical.policyID := by
  obtain ⟨_, policy, _, _, _, given, _⟩ := newAssessment_ok ok
  have cited : ∀ report ∈ input.baselines, report ∈ input.cited := by
    intro report member
    simp only [AssessmentInput.baselines, AssessmentInput.cited, List.mem_flatMap, List.mem_map] at member ⊢
    obtain ⟨candidate, inside, fold, ready, rfl⟩ := member
    exact ⟨candidate, inside, fold, ready, by simp [Fold.cited]⟩
  have based : ∀ report ∈ input.cited, ∃ baseline ∈ input.baselines,
      report.canonical.policyID = baseline.canonical.policyID := by
    intro report member
    obtain ⟨candidate, inside, fold, ordered, among⟩ := mem_cited_ordered member
    obtain ⟨evidence, checked⟩ := checked_of_mem ok given inside
    obtain ⟨shown, accepted⟩ := exists_checked_fold checked ordered
    have sorted : candidate.ordered.Perm candidate.ready := perm_sortedBy _ _
    refine ⟨fold.baseline, ?_, (accepted.cited_valid among).2⟩
    simp only [AssessmentInput.baselines, List.mem_flatMap, List.mem_map]
    exact ⟨candidate, inside, fold, sorted.mem_iff.mp ordered, rfl⟩
  constructor
  · exact fun same one first other second => same one (cited one first) other (cited other second)
  · intro same one first other second
    obtain ⟨baseline, member, equal⟩ := based one first
    obtain ⟨baseline', member', equal'⟩ := based other second
    exact equal.trans ((same baseline member baseline' member').trans equal'.symm)

theorem comparable_iff (ok : newAssessment F input = .ok assessment) (issued : input.Issued F) :
    Comparable input assessment ↔ input.Coordinated := by
  constructor
  · intro comparable
    exact ⟨(windows_iff ok issued).mp comparable.windows, (policy_iff ok).mp comparable.policy,
      (cites_perm ok).nodup_iff.mp comparable.once⟩
  · intro coordinated
    exact ⟨(windows_iff ok issued).mpr coordinated.windows, fun report member => cited_mode ok member,
      (policy_iff ok).mpr coordinated.policy, (cites_perm ok).nodup_iff.mpr coordinated.once⟩

end

instance (input : AssessmentInput) : Decidable input.Coordinated :=
  decidable_of_iff _ (AssessmentInput.coordinated_iff input).symm

/-! Two candidates that both trade on the two days, each with its own baseline and its own perturbation. -/

section Pair

variable (reports : Day → Fin 4 → Report)

def pairFold (day : Day) (trainStart : Int) (lots : Fin 4) : FoldInput :=
  ⟨⟨trainStart, true⟩, ⟨day.start, true⟩, some (reports day lots), [⟨"costs", "double", some (reports day (lots + 1))⟩]⟩

def pairCandidate (version : Uuid) (lots : Fin 4) : CandidateInput :=
  ⟨version, [pairFold reports .late Day.early.finish lots, pairFold reports .early 1000 lots]⟩

def rival : Uuid := Uuid.ofByte 9

theorem pairFamily_accepted : (newFamily ⟨"pair", emptyDigest, [rival, version]⟩).toOption.isSome = true := by decide

def pairInput : AssessmentInput where
  family := some (returned _ pairFamily_accepted)
  policy := some (gapPolicy 0 0)
  mode := .paperScored
  candidates := [pairCandidate reports rival 0, pairCandidate reports version 2]

theorem pairInput_cited : (pairInput reports).cited =
    [0, 2].flatMap fun lots => [Day.late, .early].flatMap fun day => [reports day lots, reports day (lots + 1)] := rfl

end Pair

def pairID : Day → Fin 4 → Uuid
  | .early, 0 => ⟨[254, 72, 217, 78, 4, 68, 104, 210, 45, 20, 36, 165, 33, 17, 44, 110], rfl⟩
  | .early, 1 => ⟨[120, 215, 25, 49, 93, 38, 190, 159, 2, 126, 149, 45, 17, 218, 252, 139], rfl⟩
  | .early, 2 => ⟨[122, 23, 255, 130, 16, 219, 248, 74, 56, 175, 246, 237, 228, 231, 94, 169], rfl⟩
  | .early, 3 => ⟨[178, 12, 164, 145, 228, 110, 53, 52, 101, 199, 66, 63, 205, 101, 82, 99], rfl⟩
  | .late, 0 => ⟨[183, 109, 105, 123, 63, 227, 95, 89, 255, 195, 133, 125, 19, 181, 131, 153], rfl⟩
  | .late, 1 => ⟨[229, 224, 27, 6, 135, 8, 146, 161, 119, 112, 71, 132, 43, 221, 81, 193], rfl⟩
  | .late, 2 => ⟨[111, 232, 67, 232, 149, 35, 197, 74, 8, 167, 202, 69, 176, 109, 150, 25], rfl⟩
  | .late, 3 => ⟨[25, 24, 23, 180, 4, 25, 91, 180, 188, 16, 194, 72, 71, 75, 189, 101], rfl⟩

theorem pairReport_evaluated (day : Day) (lots : Fin 4) :
    (newReport Exact (day.input true lots)).toOption.any (·.id == pairID day lots) = true := by
  cases day <;> revert lots <;> decide +kernel

def pairReport (day : Day) (lots : Fin 4) : Report := returned _ (Option.isSome_of_any (pairReport_evaluated day lots))

theorem pairReport_id (day : Day) (lots : Fin 4) : (pairReport day lots).id = pairID day lots :=
  eq_of_beq (Option.get_of_any_eq_true _ _ (pairReport_evaluated day lots))

def scoredPair : AssessmentInput := pairInput pairReport

theorem scoredPair_issued : scoredPair.Issued Exact where
  reports report cited := by
    rw [scoredPair, pairInput_cited] at cited
    simp only [List.mem_flatMap, List.mem_cons, List.not_mem_nil, or_false] at cited
    obtain ⟨lots, _, day, _, rfl | rfl⟩ := cited
    all_goals exact ⟨_, ok_returned ..⟩
  family family given := by
    cases Option.some.inj given
    exact ⟨_, ok_returned ..⟩

/-- The deployed version and its rival are both assessed, and no gate stops either. -/
def bothPass (assessment : Assessment) : Bool :=
  assessment.canonical.mode == .paperScored && assessment.canonical.candidates.map (·.versionID) == [version, rival] &&
    assessment.canonical.candidates.all fun candidate => candidate.gates.all fun gate => gate.state == .pass

-- the evaluation of the assessment reads the identities off `pairID`, and hashes no report
theorem scoredPair_eq :
    scoredPair = pairInput fun day lots => { pairReport day lots with id := pairID day lots } := by
  simp only [← pairReport_id]
  rfl

theorem scoredPair_evaluated :
    (newAssessment Exact scoredPair).toOption.any bothPass = true ∧ scoredPair.Coordinated := by
  rw [scoredPair_eq]
  decide +kernel

theorem scoredPair_accepted : ∃ assessment, newAssessment Exact scoredPair = .ok assessment ∧
    assessment.canonical.mode = .paperScored ∧ assessment.canonical.candidates.map (·.versionID) = [version, rival] ∧
    ∀ candidate ∈ assessment.canonical.candidates, ∀ gate ∈ candidate.gates, gate.state = .pass := by
  obtain ⟨assessment, accepted, passes⟩ := ok_of_evaluated scoredPair_evaluated.1
  simp only [bothPass, Bool.and_eq_true, beq_iff_eq, List.all_eq_true] at passes
  exact ⟨assessment, accepted, passes.1.1, passes.1.2, passes.2⟩

theorem comparable_pair : ∃ assessment, newAssessment Exact scoredPair = .ok assessment ∧
    assessment.canonical.candidates.length = 2 ∧ scoredPair.Coordinated ∧ Comparable scoredPair assessment := by
  obtain ⟨assessment, accepted, _, versions, _⟩ := scoredPair_accepted
  have two := congrArg List.length versions
  rw [List.length_map] at two
  exact ⟨assessment, accepted, two, scoredPair_evaluated.2,
    (comparable_iff accepted scoredPair_issued).mpr scoredPair_evaluated.2⟩

/-- The baseline of a fold is accepted as its own perturbation. -/
theorem baseline_cited_twice : (extremeInput 0 0).Issued Exact ∧
    ∃ assessment, newAssessment Exact (extremeInput 0 0) = .ok assessment ∧ ¬ Comparable (extremeInput 0 0) assessment := by
  obtain ⟨assessment, _, accepted, _⟩ := extremeInput_accepted 0 0
  refine ⟨extremeInput_issued 0 0, assessment, accepted, fun comparable => ?_⟩
  have once := (cites_perm accepted).nodup_iff.mp comparable.once
  rw [extremeInput, gapInput_cited] at once
  simp at once

end Augr.Robustness
