import Mathlib.Data.List.ReduceOption
import Augr.Accountingrecon.Gate
import Augr.Accountingrecon.Rederived

/-! The cutover gate is sound: a window it calls ready is covered day by day. -/

set_option autoImplicit false

namespace Augr.Accountingrecon

open Foundation Json

variable {throughDate : Instant} {run : Run} {verify : Run → Outcome Unit} {unicode : Unicode}

theorem padded_injective {width : Nat} {left right : Int} (same : Instant.padded width left = Instant.padded width right) :
    left = right := by
  have read (value : Int) : parseInt (Instant.padded width value) = some value := by
    rw [Instant.padded, List.append_assoc]
    exact parseInt_signed value (parseNat_zeros _ _) rfl
  have first := read left
  rw [same, read right] at first
  exact (Option.some.inj first).symm

theorem dateText_injective {left right : Instant} (same : dateText left = dateText right) :
    left.nanos / dayNanos = right.nanos / dayNanos := by
  obtain ⟨leftDay, leftMonthLow, leftMonthHigh, leftDayLow, leftDayHigh⟩ := Instant.daysFromCivil_civil (left.nanos / dayNanos)
  obtain ⟨rightDay, rightMonthLow, rightMonthHigh, rightDayLow, rightDayHigh⟩ :=
    Instant.daysFromCivil_civil (right.nanos / dayNanos)
  rw [← leftDay, ← rightDay]
  clear leftDay rightDay
  unfold dateText at same
  generalize Instant.civil (left.nanos / dayNanos) = leftDate at *
  generalize Instant.civil (right.nanos / dayNanos) = rightDate at *
  have two {value : Int} (low : 1 ≤ value) (high : value ≤ 31) : (Instant.padded 2 value).length = 2 :=
    (Instant.padded_eq (by omega) (by omega) (by decide)).2
  have leftMonth := two leftMonthLow (by omega)
  have rightMonth := two rightMonthLow (by omega)
  have leftDay := two leftDayLow leftDayHigh
  have rightDay := two rightDayLow rightDayHigh
  have texts := String.ofList_injective same
  -- The month and the day have two digits each, so the three numbers are told apart from the end.
  obtain ⟨dates, days⟩ := List.append_inj' texts (by simp [leftDay, rightDay])
  obtain ⟨years, months⟩ := List.append_inj' dates (by simp [leftMonth, rightMonth])
  rw [padded_injective years, padded_injective (List.cons.inj months).2, padded_injective (List.cons.inj days).2]

theorem utcDay_eq_of_dateText {value : Instant} {days : Int} (zone : throughDate.utc = true)
    (midnight : throughDate.nanos % dayNanos = 0)
    (same : dateText (utcDay value) = dateText (addDays throughDate days)) :
    utcDay value = addDays throughDate days := by
  have number := dateText_injective same
  simp only [utcDay, addDays, Instant.mk.injEq, zone, and_true] at number ⊢
  unfold dayNanos at *
  omega

/-- Evidence for the parity of the two sides at the instant of the run. -/
structure Qualifies (unicode : Unicode) (verify : Run → Outcome Unit) (run : Run) : Prop where
  rederives : run.Rederives unicode
  genuine : run.synthetic = false
  verified : verify run = .ok ()
  sides : ∃ legacy ledger, run.legacy = some legacy ∧ run.ledger = some ledger ∧
    legacy.synthetic = false ∧ ledger.synthetic = false ∧
    legacy.positionCoverageComplete = true ∧ ledger.positionCoverageComplete = true ∧
    (∀ kind ∈ requiredMetrics, Settled run (metricFactKey kind) (legacy.metric kind) (ledger.metric kind)) ∧
    ∀ id, id ∈ legacy.instruments ∨ id ∈ ledger.instruments →
      Settled run (positionFactKey id) (legacy.quantity id) (ledger.quantity id)

theorem ok_of_toBool {action : Outcome Unit} (succeeds : action.toBool = true) : action = .ok () := by
  cases action with
  | error => cases succeeds
  | ok => rfl

theorem reason_none {p : Prop} [Decidable p] {reason : String} {rest : Option String} :
    (if p then some reason else rest) = none ↔ ¬ p ∧ rest = none := by
  by_cases holds : p <;> simp [holds]

theorem resultReason_none {result : Result} (accepted : resultReason result = none) : result.status.passes := by
  simp only [resultReason, reason_none, Bool.or_eq_true, not_or, Bool.not_eq_true, Bool.not_eq_false',
    beq_eq_false_iff_ne] at accepted
  obtain ⟨⟨⟨known, notUnexplained⟩, notMissing⟩, _⟩ := accepted
  cases status : result.status with
  | equal => exact .inl rfl
  | explained => exact .inr rfl
  | unexplained => exact absurd status notUnexplained
  | notComparable => exact absurd status notMissing
  | unrecognized text =>
    rw [status] at known
    simp [ResultStatus.valid] at known

theorem nonqualifyingReason_none (accepted : nonqualifyingReason unicode run verify = none) :
    Qualifies unicode verify run := by
  simp only [nonqualifyingReason, reason_none, Bool.not_eq_true', Bool.not_eq_false, Bool.or_eq_true, not_or,
    Bool.not_eq_true] at accepted
  obtain ⟨valid, genuine, complete, _, accepted⟩ := accepted
  split at accepted
  · cases accepted
  rename_i statuses
  simp only [reason_none, Bool.not_eq_false] at accepted
  obtain ⟨_, verified, _⟩ := accepted
  obtain ⟨legacy, ledger, facts, rests⟩ := Run.validate_ok (ok_of_toBool valid)
  obtain ⟨explanations, compared⟩ := rests.compared
  obtain ⟨metrics, positions⟩ := compareFacts_ok compared
  have passing (result : Result) (member : result ∈ run.results) : result.status.passes :=
    resultReason_none (List.findSome?_eq_none_iff.mp statuses result member)
  have synthetic := rests.synthetic
  rw [genuine, eq_comm, Bool.or_eq_false_iff] at synthetic
  rw [rests.isLegacy, rests.isLedger, Option.any_some, Option.any_some] at complete
  refine ⟨rests.rederives, genuine, ok_of_toBool verified, legacy, ledger, rests.isLegacy, rests.isLedger, synthetic.1,
    synthetic.2, complete.1, complete.2, ?_, ?_⟩
  · intro kind member
    exact (metrics kind member).settled rests.same passing rests.reviewed
  · intro id member
    exact (positions id member).settled rests.same passing rests.reviewed

structure SameEvidence (run other : Run) : Prop where
  id : other.id = run.id
  checksum : other.checksum = run.checksum
  payloadBytes : other.payloadBytes = run.payloadBytes
  attestationType : other.attestationType = run.attestationType
  attestationKeyID : other.attestationKeyID = run.attestationKeyID
  attestation : other.attestation = run.attestation

theorem conflicts_eq_false {candidate other : Run} (agree : conflicts candidate other = false) :
    SameEvidence candidate other := by
  simp only [conflicts, Bool.or_eq_false_iff, bne_eq_false_iff_eq] at agree
  obtain ⟨⟨⟨⟨⟨id, checksum⟩, payloadBytes⟩, attestationType⟩, attestationKeyID⟩, attestation⟩ := agree
  exact ⟨id, checksum, payloadBytes, attestationType, attestationKeyID, attestation⟩

/-- The run stands for the day: whatever else is listed under the day is the same evidence. -/
structure Covers (unicode : Unicode) (verify : Run → Outcome Unit) (runs : List (Option Run)) (day : Instant) (run : Run) :
    Prop where
  listed : some run ∈ runs
  dated : utcDay run.asOf = day
  alone : ∀ other, some other ∈ runs → utcDay other.asOf = day → SameEvidence run other
  qualifies : Qualifies unicode verify run

theorem dayEvidence_ok {filed : List Run} {day : Instant} (found : dayEvidence unicode verify filed day = .ok run) :
    run ∈ filed ∧ dateText (utcDay run.asOf) = dateText day ∧
      (∀ other ∈ filed, dateText (utcDay other.asOf) = dateText day → SameEvidence run other) ∧
      Qualifies unicode verify run := by
  simp only [dayEvidence] at found
  split at found
  · cases found
  · rename_i candidate others sorted
    have members (other : Run) : other ∈ candidate :: others ↔ other ∈ filed ∧ dateText (utcDay other.asOf) = dateText day := by
      rw [← sorted, mem_sortedBy, List.mem_filter, beq_iff_eq]
    split at found
    · cases found
    · rename_i agree
      split at found
      · cases found
      · rename_i qualifies
        obtain rfl := Except.ok.inj found
        obtain ⟨listed, dated⟩ := (members candidate).mp List.mem_cons_self
        refine ⟨listed, dated, ?_, nonqualifyingReason_none qualifies⟩
        intro other isFiled sameDay
        rcases List.mem_cons.mp ((members other).mpr ⟨isFiled, sameDay⟩) with rfl | member
        · exact ⟨rfl, rfl, rfl, rfl, rfl, rfl⟩
        · apply conflicts_eq_false
          simp only [List.any_eq_true, not_exists, not_and, Bool.not_eq_true] at agree
          exact agree other member

theorem found_eq_selected {found : List (Except String Run)} (noneRefused : refusedOf found = []) :
    found = (selectedOf found).map .ok := by
  induction found with
  | nil => rfl
  | cons first rest ih =>
    cases first with
    | error reason => cases noneRefused
    | ok run => exact congrArg (Except.ok run :: ·) (ih noneRefused)

structure SameBooks (run other : Run) : Prop where
  accountID : run.accountID = other.accountID
  policyVersion : run.policyVersion = other.policyVersion
  projectionVersion : run.projectionVersion = other.projectionVersion
  markSource : run.markSource = other.markSource
  markNamespace : run.markNamespace = other.markNamespace
  maxMarkAge : run.maxMarkAge = other.maxMarkAge

theorem sameWindow_iff {baseline : Run} : sameWindow baseline run = true ↔ SameBooks run baseline := by
  simp only [sameWindow, Bool.and_eq_true, beq_iff_eq]
  constructor
  · rintro ⟨⟨⟨⟨⟨account, policy⟩, projection⟩, source⟩, space⟩, age⟩
    exact ⟨account, policy, projection, source, space, age⟩
  · rintro ⟨account, policy, projection, source, space, age⟩
    exact ⟨⟨⟨⟨⟨account, policy⟩, projection⟩, source⟩, space⟩, age⟩

theorem SameBooks.of_baseline {baseline other : Run} (first : SameBooks run baseline)
    (second : SameBooks other baseline) : SameBooks run other :=
  ⟨first.accountID.trans second.accountID.symm, first.policyVersion.trans second.policyVersion.symm,
    first.projectionVersion.trans second.projectionVersion.symm, first.markSource.trans second.markSource.symm,
    first.markNamespace.trans second.markNamespace.symm, first.maxMarkAge.trans second.maxMarkAge.symm⟩

theorem verdict_ready {gate : CutoverGate} {late : List String} {found : List (Except String Run)}
    (unready : gate.ready = false) (ready : (gate.verdict late found).ready = true) :
    late = [] ∧ ((selectedOf found).length : Int) = gate.requiredDays ∧ found = (selectedOf found).map .ok ∧
      ∀ run ∈ selectedOf found, ∀ other ∈ selectedOf found, SameBooks run other := by
  simp only [CutoverGate.verdict] at ready
  split at ready
  · exact absurd (unready.symm.trans ready) (by decide)
  · rename_i complete
    simp only [Bool.or_eq_true, not_or, Bool.not_eq_true, bne_eq_false_iff_eq, List.length_append,
      Nat.add_eq_zero_iff, List.length_eq_zero_iff] at complete
    obtain ⟨enough, noneLate, noneRefused⟩ := complete
    refine ⟨noneLate, enough, found_eq_selected noneRefused, ?_⟩
    split at ready
    · exact absurd (unready.symm.trans ready) (by decide)
    · rename_i baseline others selected
      split at ready
      · rename_i constant
        rw [List.all_eq_true] at constant
        intro run member other isOther
        exact (sameWindow_iff.mp (constant run member)).of_baseline (sameWindow_iff.mp (constant other isOther))
      · exact absurd (unready.symm.trans ready) (by decide)

theorem lateReason_none {lastCompletedDate : Instant} (timely : lateReason lastCompletedDate throughDate run = none) :
    (utcDay run.asOf).after throughDate = false := by
  simp only [lateReason, reason_none] at timely
  simpa using timely.2.1

theorem mem_windowDays {requiredDays : Int} {index : Nat} {day : Instant}
    (here : (windowDays throughDate requiredDays)[index]? = some day) :
    day = addDays throughDate (-(requiredDays - 1 - index)) := by
  simp only [windowDays, List.getElem?_map, Option.map_eq_some_iff] at here
  obtain ⟨position, isPosition, rfl⟩ := here
  obtain ⟨_, rfl⟩ := List.getElem?_eq_some_iff.mp isPosition
  rw [List.getElem_range]

/-- What readiness rests on: each day of the window is covered, by runs about one account under
one policy, and nothing is dated after the window. -/
structure Window (unicode : Unicode) (verify : Run → Outcome Unit) (runs : List (Option Run)) (throughDate : Instant)
    (requiredDays : Int) (selected : List Run) : Prop where
  days : (selected.length : Int) = requiredDays
  ends : utcDay throughDate = throughDate
  covered : ∀ (index : Nat) (run : Run), selected[index]? = some run →
    Covers unicode verify runs (addDays throughDate (-(requiredDays - 1 - index))) run
  constant : ∀ run ∈ selected, ∀ other ∈ selected, SameBooks run other
  nothingLater : ∀ run, some run ∈ runs → (utcDay run.asOf).after throughDate = false

theorem evaluateCutover_sound {unicode : Unicode} {runs : List (Option Run)} {throughDate : Instant} {requiredDays : Int}
    {clock : Option Instant} {verifier : Option (Run → Outcome Unit)}
    (ready : (evaluateCutover unicode runs throughDate requiredDays clock verifier).ready = true) :
    ∃ verify selected, verifier = some verify ∧ Window unicode verify runs throughDate requiredDays selected := by
  simp only [evaluateCutover] at ready
  iterate 3
    split at ready
    · cases ready
  rename_i midnight
  simp only [Bool.or_eq_true, not_or, Bool.not_eq_true', Bool.not_eq_false, Bool.not_eq_true, bne_eq_false_iff_eq] at midnight
  cases verifier with
  | none => cases ready
  | some verify =>
    cases clock with
    | none => cases ready
    | some now =>
      dsimp only at ready
      iterate 2
        split at ready
        · cases ready
      obtain ⟨noneLate, days, found, constant⟩ := verdict_ready rfl ready
      generalize addDays (utcDay now) (-1) = lastCompletedDate at *
      have timely (run : Run) (listed : some run ∈ runs) : lateReason lastCompletedDate throughDate run = none :=
        List.filterMap_eq_nil_iff.mp noneLate run (List.reduceOption_mem_iff.mpr listed)
      refine ⟨verify, _, rfl, days, ?_, ?_, constant, ?_⟩
      · simp only [utcDay, midnight.2, sub_zero]
        rw [← midnight.1]
      · intro index run here
        have there := congrArg (·[index]?) found
        simp only [List.getElem?_map, here, Option.map_some, Option.map_eq_some_iff] at there
        obtain ⟨day, isDay, evidence⟩ := there
        obtain rfl := mem_windowDays isDay
        obtain ⟨listed, dated, alone, qualifies⟩ := dayEvidence_ok evidence
        rw [List.mem_filter, List.reduceOption_mem_iff] at listed
        refine ⟨listed.1, utcDay_eq_of_dateText midnight.1 midnight.2 dated, ?_, qualifies⟩
        intro other isListed sameDay
        apply alone other
        · rw [List.mem_filter, List.reduceOption_mem_iff, timely other isListed]
          exact ⟨isListed, rfl⟩
        · rw [sameDay]
      · intro run listed
        exact lateReason_none (timely run listed)

def sampleDay (index : Nat) : Instant := ⟨63902822400000000000 + index * dayNanos, true⟩

def sampleUnicode : Unicode := ⟨Char.isLower, Char.isDigit⟩

def sampleInstrument : Uuid := ⟨List.replicate 16 2, by decide⟩

def sampleChecksum : String := "0000000000000000000000000000000000000000000000000000000000000000"

def sampleSide (index : Nat) (source : SnapshotSource) (held : Int) : SnapshotInput where
  source := source
  accountID := ⟨List.replicate 16 1, by decide⟩
  asOf := sampleDay index
  observedAt := sampleDay index
  currency := "USD"
  projectionVersion := "v1"
  markSource := "close"
  markNamespace := "us"
  maxMarkAge := 1000
  captureFenceID := "fence"
  captureEpoch := 1
  evidenceID := "evidence"
  evidenceChecksum := sampleChecksum
  synthetic := false
  positionCoverageComplete := true
  metrics := requiredMetrics.map fun kind => ⟨kind, ⟨125, -1⟩, .exactDecimal⟩
  positions := [⟨sampleInstrument, .newFromInt held, .exactDecimal⟩]
  missing := []

/-- One side holds two shares and the other three, which a reviewed correction explains. -/
def sampleComparison (index : Nat) : ComparisonInput where
  legacy := some (.addressed (sampleSide index .legacy 2))
  ledger := some (.addressed (sampleSide index .ledger 3))
  generator := "worker"
  generatedAt := sampleDay index
  explanations := [⟨positionFactKey sampleInstrument, .sourceCorrection, "split", "ticket", sampleChecksum, "worker",
    "reviewer", sampleDay index⟩]

def sampleRun (index : Nat) : Option Run := (compare sampleUnicode (sampleComparison index)).toOption

theorem sampleRuns_ready : (evaluateCutover sampleUnicode [none, sampleRun 1, sampleRun 0] (sampleDay 1) 2
    (some (sampleDay 2)) (some fun _ => .ok ())).ready = true ∧
    [sampleRun 0, sampleRun 1].map (Option.map Run.explainedCount) = [some 1, some 1] := by
  decide +kernel

theorem evaluateCutover_sound_two : ∃ verify selected,
    (some fun _ => .ok () : Option (Run → Outcome Unit)) = some verify ∧
      Window sampleUnicode verify [none, sampleRun 1, sampleRun 0] (sampleDay 1) 2 selected ∧
      [sampleRun 0, sampleRun 1].map (Option.map Run.explainedCount) = [some 1, some 1] := by
  obtain ⟨verify, selected, given, window⟩ := evaluateCutover_sound sampleRuns_ready.1
  exact ⟨verify, selected, given, window, sampleRuns_ready.2⟩

end Augr.Accountingrecon
