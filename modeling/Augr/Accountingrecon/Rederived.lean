import Augr.Foundation.Spelling
import Augr.Accountingrecon.Comparison

/-! What a validated run says of its two snapshots.

The run is compared with a second one, derived from the same snapshots. Only their bytes and
addresses are compared, so the results of the run are read off its bytes.
-/

set_option autoImplicit false

namespace Augr.Accountingrecon

open Foundation Json

variable {run : Run} {unicode : Unicode}

inductive Classified (legacyValue ledgerValue : Option Decimal) (result : Result) : Prop where
  | equal (legacy ledger : Decimal) (isLegacy : legacyValue = some legacy) (isLedger : ledgerValue = some ledger)
      (same : legacy.toRat = ledger.toRat) (status : result.status = .equal)
  | explained (legacy ledger : Decimal) (isLegacy : legacyValue = some legacy) (isLedger : ledgerValue = some ledger)
      (status : result.status = .explained) (reviewed : result.explanation.isSome = true)
  | unexplained (status : result.status = .unexplained)
  | notComparable (status : result.status = .notComparable)

theorem compareFact_ok {key : String} {legacyValue ledgerValue : Option Decimal}
    {legacyMissing ledgerMissing : Option MissingFact} {explanation : Option Explanation} {result : Result}
    (compared : compareFact key legacyValue ledgerValue legacyMissing ledgerMissing explanation = .ok result) :
    result.factKey = key ∧ Classified legacyValue ledgerValue result := by
  simp only [compareFact] at compared
  split at compared
  · rename_i legacy ledger
    split at compared
    · rename_i zero
      rw [check_bind_ok_iff] at compared
      obtain rfl := Except.ok.inj compared.2
      rw [Decimal.isZero_iff, Decimal.toRat_sub, sub_eq_zero] at zero
      exact ⟨rfl, .equal legacy ledger rfl rfl zero.symm rfl⟩
    · cases explanation with
      | none =>
        obtain rfl := Except.ok.inj compared
        exact ⟨rfl, .unexplained rfl⟩
      | some reviewed =>
        obtain rfl := Except.ok.inj compared
        exact ⟨rfl, .explained legacy ledger rfl rfl rfl rfl⟩
  · rw [check_bind_ok_iff] at compared
    obtain rfl := Except.ok.inj compared.2
    exact ⟨rfl, .notComparable rfl⟩

def Answers (key : String) (legacyValue ledgerValue : Option Decimal) (results : List Result) : Prop :=
  ∃ result ∈ results, result.factKey = key ∧ Classified legacyValue ledgerValue result

theorem compareFacts_ok {legacy ledger : Snapshot} {explanations : List Explanation} {facts : List Result}
    (compared : compareFacts legacy ledger explanations = .ok facts) :
    (∀ kind ∈ requiredMetrics, Answers (metricFactKey kind) (legacy.metric kind) (ledger.metric kind) facts) ∧
      ∀ id, id ∈ legacy.instruments ∨ id ∈ ledger.instruments →
        Answers (positionFactKey id) (legacy.quantity id) (ledger.quantity id) facts := by
  simp only [compareFacts, bind_ok_iff, mapM_ok_iff] at compared
  obtain ⟨metrics, metricsCompared, positions, positionsCompared, missing, _, _, _, sorted⟩ := compared
  obtain rfl := Except.ok.inj sorted
  constructor
  · intro kind member
    obtain ⟨result, here, this⟩ := exists_right_of_mem metricsCompared member
    exact ⟨result, by simp [here], compareFact_ok this⟩
  · intro id member
    obtain ⟨result, here, this⟩ := exists_right_of_mem positionsCompared ((mem_visited _ _ _ _).mpr member)
    exact ⟨result, by simp [here], compareFact_ok this⟩

/-- The explanations that pass were each given by the generator and reviewed by someone else. -/
theorem validateExplanations_ok {inputs explanations : List Explanation} {generator : String}
    {earliest generatedAt : Instant}
    (validated : validateExplanations unicode inputs generator earliest generatedAt = .ok explanations) :
    ∀ input ∈ inputs, input.generator = generator ∧ input.reviewer ≠ generator := by
  intro input member
  have each (sofar : List Explanation) (item : Explanation) (next : List Explanation)
      (added : addExplanation unicode generator earliest generatedAt sofar item = .ok next) :
      ∃ row, next = sofar ++ [row] ∧ item.generator = generator ∧ item.reviewer ≠ generator := by
    simp only [addExplanation, check_bind_ok_iff, failIf_ok_iff] at added
    obtain ⟨sound, _, _, _, appended⟩ := added
    simp only [Explanation.invalid, Bool.or_eq_false_iff, bne_eq_false_iff_eq, beq_eq_false_iff_ne] at sound
    obtain ⟨⟨_, generator⟩, other⟩ := sound
    exact ⟨item, (Except.ok.inj appended).symm, generator, fun same => other (generator.trans same.symm)⟩
  obtain ⟨rows, _, matched⟩ := foldlM_appends each validated
  obtain ⟨row, _, _, _, _, sound⟩ := exists_right_of_mem matched member
  exact sound

theorem Explanation.spells (e : Explanation) : Json.Spells 1 e.marshal := by
  apply spells_object
  simp [spells_quote]

theorem spells_encodeExplanation (explanation : Option Explanation) : Json.Spells 1 (encodeExplanation explanation) := by
  cases explanation with
  | none => exact spells_null
  | some e => exact e.spells

theorem Result.spells (r : Result) : Json.Spells 2 r.marshal := by
  apply spells_object
  simp [Result.fields, spells_quote, spells_optional, spells_encodeExplanation]

theorem isSome_of_encodeExplanation {left right : Option Explanation}
    (same : encodeExplanation left = encodeExplanation right) : left.isSome = right.isSome := by
  cases left <;> cases right
  · rfl
  · exact absurd (List.cons.inj same).1 (by decide)
  · exact absurd (List.cons.inj same).1 (by decide)
  · rfl

/-- The parts of a result that its bytes tell. -/
structure SameFact (left right : Result) : Prop where
  factKey : left.factKey = right.factKey
  status : left.status.text = right.status.text
  reviewed : left.explanation.isSome = right.explanation.isSome

theorem SameFact.of_marshal {left right : Result} (same : left.marshal = right.marshal) : SameFact left right := by
  have text (first second : String) : Json.Delimited (quote first) (quote second) :=
    (spells_quote first : Json.Spells 0 _).delimited (spells_quote second)
  have optional (first second : Option String) : Json.Delimited (encodeOptional first) (encodeOptional second) :=
    (spells_optional first : Json.Spells 0 _).delimited (spells_optional second)
  have fields : left.fields = right.fields := by
    refine encodeObject_inj ?_ same
    iterate 2 refine .cons ⟨rfl, text _ _⟩ ?_
    iterate 3 refine .cons ⟨rfl, optional _ _⟩ ?_
    iterate 2 refine .cons ⟨rfl, text _ _⟩ ?_
    exact .cons ⟨rfl, (spells_encodeExplanation _).delimited (spells_encodeExplanation _)⟩ .nil
  simp only [Result.fields, List.cons.injEq, Prod.mk.injEq, true_and, and_true] at fields
  obtain ⟨_, factKey, _, _, _, status, _, explanation⟩ := fields
  exact ⟨quote_injective factKey, quote_injective status, isSome_of_encodeExplanation explanation⟩

theorem encodeBool_injective {left right : Bool} (same : encodeBool left = encodeBool right) : left = right := by
  revert same
  cases left <;> cases right <;> decide

theorem Run.same_of_bytes {left right : Run} {legacy ledger : Bytes}
    (same : encodeObject (left.fields legacy ledger) = encodeObject (right.fields legacy ledger)) :
    left.synthetic = right.synthetic ∧ List.Forall₂ SameFact left.results right.results := by
  have text (first second : String) : Json.Delimited (quote first) (quote second) :=
    (spells_quote first : Json.Spells 0 _).delimited (spells_quote second)
  have number (first second : Int) : Json.Delimited (encodeInt first) (encodeInt second) :=
    (spells_int first : Json.Spells 0 _).delimited (spells_int second)
  have spelt (results : List Result) : ∀ item ∈ results.map Result.marshal, Json.Spells 2 item := by
    intro item member
    obtain ⟨result, _, rfl⟩ := List.mem_map.mp member
    exact result.spells
  have results : Json.Delimited (encodeArray (left.results.map Result.marshal))
      (encodeArray (right.results.map Result.marshal)) :=
    (spells_array (spelt _)).delimited (spells_array (spelt _))
  have fields : left.fields legacy ledger = right.fields legacy ledger := by
    refine encodeObject_inj ?_ same
    iterate 9 refine .cons ⟨rfl, text _ _⟩ ?_
    refine .cons ⟨rfl, number _ _⟩ (.cons ⟨rfl, text _ _⟩ (.cons ⟨rfl, number _ _⟩ ?_))
    -- The raw snapshots are the same bytes on both sides.
    refine .cons ⟨rfl, .refl legacy⟩ (.cons ⟨rfl, .refl ledger⟩ ?_)
    refine .cons ⟨rfl, (spells_bool _ : Json.Spells 0 _).delimited (spells_bool _)⟩ ?_
    iterate 4 refine .cons ⟨rfl, number _ _⟩ ?_
    exact .cons ⟨rfl, results⟩ .nil
  simp only [Run.fields, List.cons.injEq, Prod.mk.injEq, true_and, and_true] at fields
  obtain ⟨_, _, _, _, _, _, _, _, _, _, _, _, synthetic, _, _, _, _, marshalled⟩ := fields
  refine ⟨encodeBool_injective synthetic, ?_⟩
  have rows := encodeArray_inj (spelt _) (spelt _) marshalled
  rw [← List.forall₂_eq_eq_eq, List.forall₂_map_left_iff, List.forall₂_map_right_iff] at rows
  exact rows.imp fun _ _ same => .of_marshal same

structure Compared (input : ComparisonInput) (legacy ledger : Snapshot) (facts : List Result) (run : Run) : Prop where
  isLegacy : input.legacy = some legacy
  isLedger : input.ledger = some ledger
  reviewed : ∀ explanation ∈ input.explanations,
    explanation.generator = input.generator ∧ explanation.reviewer ≠ input.generator
  compared : ∃ explanations, compareFacts legacy ledger explanations = .ok facts
  bytes : (draftRun input legacy ledger (facts.map (identifyResult legacy ledger))).canonicalPayload legacy ledger =
    .ok run.payloadBytes

theorem comparableSides_ok {input : ComparisonInput} {sides : Sides}
    (comparable : comparableSides unicode input = .ok sides) :
    input.legacy = some sides.legacy ∧ input.ledger = some sides.ledger := by
  simp only [comparableSides, returns_iff] at comparable
  obtain ⟨legacy, isLegacy, ledger, isLedger, _, _, _, _, _, rfl⟩ := comparable
  exact ⟨isLegacy, isLedger⟩

theorem compare_ok {input : ComparisonInput} (made : compare unicode input = .ok run) :
    ∃ legacy ledger facts, Compared input legacy ledger facts run := by
  simp only [compare, returns_iff] at made
  obtain ⟨⟨legacy, ledger⟩, comparable, _, _, _, explanations, validated, facts, compared, payload, written, rfl⟩ := made
  obtain ⟨isLegacy, isLedger⟩ := comparableSides_ok comparable
  exact ⟨legacy, ledger, facts, isLegacy, isLedger, validateExplanations_ok validated, ⟨explanations, compared⟩, written⟩

def Run.rederive (unicode : Unicode) (run : Run) : Outcome Run :=
  compare unicode ⟨run.legacy, run.ledger, run.generator, run.generatedAt, explanationsOf run.results⟩

/-- A second comparison of its two snapshots gives the run's bytes and address. -/
def Run.Rederives (unicode : Unicode) (run : Run) : Prop :=
  ∃ rebuilt, run.rederive unicode = .ok rebuilt ∧ rebuilt.payloadBytes = run.payloadBytes ∧
    rebuilt.checksum = run.checksum ∧ rebuilt.id = run.id

theorem canonicalPayload_ok {legacy ledger : Snapshot} {payload : Bytes}
    (written : run.canonicalPayload legacy ledger = .ok payload) :
    ∃ legacyRaw ledgerRaw, encodeRaw legacy.payloadBytes = .ok legacyRaw ∧ encodeRaw ledger.payloadBytes = .ok ledgerRaw ∧
      payload = encodeObject (run.fields legacyRaw ledgerRaw) := by
  simp only [Run.canonicalPayload, bind_ok_iff] at written
  obtain ⟨legacyRaw, isLegacy, ledgerRaw, isLedger, made⟩ := written
  exact ⟨legacyRaw, ledgerRaw, isLegacy, isLedger, (Except.ok.inj made).symm⟩

/-- A run that passes its own validation says what a comparison of its two snapshots says. -/
structure Rests (unicode : Unicode) (run : Run) (legacy ledger : Snapshot) (facts : List Result) : Prop where
  rederives : run.Rederives unicode
  isLegacy : run.legacy = some legacy
  isLedger : run.ledger = some ledger
  compared : ∃ explanations, compareFacts legacy ledger explanations = .ok facts
  synthetic : run.synthetic = (legacy.synthetic || ledger.synthetic)
  same : List.Forall₂ SameFact run.results facts
  reviewed : ∀ explanation ∈ explanationsOf run.results,
    explanation.generator = run.generator ∧ explanation.reviewer ≠ run.generator

theorem Run.validate_ok (valid : run.validate unicode = .ok ()) :
    ∃ legacy ledger facts, Rests unicode run legacy ledger facts := by
  simp only [Run.validate, returns_iff, Bool.or_eq_false_iff, bne_eq_false_iff_eq] at valid
  obtain ⟨legacy, isLegacy, ledger, isLedger, payload, written, rfl, rebuilt, made, ⟨⟨⟨⟨⟨⟨sameID, sameChecksum⟩, sameBytes⟩,
    _⟩, _⟩, _⟩, _⟩⟩ := valid
  obtain ⟨legacy', ledger', facts, compared⟩ := compare_ok made
  obtain rfl := Option.some.inj (isLegacy.symm.trans compared.isLegacy)
  obtain rfl := Option.some.inj (isLedger.symm.trans compared.isLedger)
  obtain ⟨legacyRaw, ledgerRaw, rawLegacy, rawLedger, ownBytes⟩ := canonicalPayload_ok written
  obtain ⟨legacyRaw', ledgerRaw', rawLegacy', rawLedger', otherBytes⟩ := canonicalPayload_ok compared.bytes
  obtain rfl := Except.ok.inj (rawLegacy.symm.trans rawLegacy')
  obtain rfl := Except.ok.inj (rawLedger.symm.trans rawLedger')
  obtain ⟨synthetic, results⟩ := Run.same_of_bytes (ownBytes.symm.trans (sameBytes.symm.trans otherBytes))
  refine ⟨legacy, ledger, facts, ⟨rebuilt, made, sameBytes, sameChecksum, sameID⟩, isLegacy, isLedger, compared.compared,
    synthetic, ?_, compared.reviewed⟩
  have facts := List.forall₂_map_right_iff.mp results
  exact facts.imp fun _ _ same => ⟨same.factKey, same.status, same.reviewed⟩

/-- Both values of the fact are known. They are equal, or the run has an explanation of the
difference that someone other than its generator reviewed. -/
def Settled (run : Run) (key : String) (legacyValue ledgerValue : Option Decimal) : Prop :=
  ∃ legacy ledger, legacyValue = some legacy ∧ ledgerValue = some ledger ∧
    ∃ result ∈ run.results, result.factKey = key ∧
      (result.status = .equal ∧ legacy.toRat = ledger.toRat ∨
        result.status = .explained ∧ ∃ explanation, result.explanation = some explanation ∧
          explanation.generator = run.generator ∧ explanation.reviewer ≠ run.generator)

def ResultStatus.passes (status : ResultStatus) : Prop := status = .equal ∨ status = .explained

theorem ResultStatus.eq_of_text {left right : ResultStatus} (passes : left.passes) (same : left.text = right.text)
    (known : right.valid = true) : right = left := by
  cases right with
  | unrecognized => exact absurd known (by simp [ResultStatus.valid])
  | _ =>
    obtain rfl | rfl := passes
    all_goals first | rfl | exact absurd same (by decide)

/-- Where the statuses of a run all pass, what its bytes answer is settled in it. -/
theorem Answers.settled {facts : List Result} {key : String} {legacyValue ledgerValue : Option Decimal}
    (answers : Answers key legacyValue ledgerValue facts) (same : List.Forall₂ SameFact run.results facts)
    (passing : ∀ result ∈ run.results, result.status.passes)
    (reviewed : ∀ explanation ∈ explanationsOf run.results,
      explanation.generator = run.generator ∧ explanation.reviewer ≠ run.generator) :
    Settled run key legacyValue ledgerValue := by
  obtain ⟨fact, member, isKey, classified⟩ := answers
  obtain ⟨result, inRun, agree⟩ := exists_left_of_mem same member
  have passes := passing result inRun
  have factKey : result.factKey = key := agree.factKey.trans isKey
  have status := agree.status
  cases classified with
  | equal legacy ledger isLegacy isLedger equal isEqual =>
    rw [isEqual] at status
    have known := ResultStatus.eq_of_text passes status (by decide)
    exact ⟨legacy, ledger, isLegacy, isLedger, result, inRun, factKey, .inl ⟨known.symm, equal⟩⟩
  | explained legacy ledger isLegacy isLedger isExplained someone =>
    rw [isExplained] at status
    have known := ResultStatus.eq_of_text passes status (by decide)
    obtain ⟨explanation, carried⟩ := Option.isSome_iff_exists.mp (agree.reviewed.trans someone)
    have sound := reviewed explanation (List.mem_filterMap.mpr ⟨result, inRun, carried⟩)
    exact ⟨legacy, ledger, isLegacy, isLedger, result, inRun, factKey, .inr ⟨known.symm, explanation, carried, sound⟩⟩
  | unexplained isUnexplained =>
    rw [isUnexplained] at status
    obtain known := ResultStatus.eq_of_text passes status (by decide)
    obtain equal | explained := known ▸ passes
    · cases equal
    · cases explained
  | notComparable isMissing =>
    rw [isMissing] at status
    obtain known := ResultStatus.eq_of_text passes status (by decide)
    obtain equal | explained := known ▸ passes
    · cases equal
    · cases explained

end Augr.Accountingrecon
