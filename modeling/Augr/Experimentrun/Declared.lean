import Augr.Experimentrun.Admission

/-! How much of the quotes used in a run the declared evidence determines. -/

set_option autoImplicit false

namespace Augr.Experimentrun

open Foundation MarketData

variable {evidence : List ObservationEvidence} {m : ObservationMaterial}

structure Quotes where
  (bid ask : Option Decimal)
  depth : List DepthLevel
  deriving DecidableEq

def ObservationMaterial.quotes (m : ObservationMaterial) : Quotes := ⟨m.snapshot.bid, m.snapshot.ask, m.snapshot.depth⟩

/-- The material passes the checks made of it by itself. -/
structure ObservationMaterial.Reconstructs (evidence : List ObservationEvidence) (m : ObservationMaterial) : Prop where
  valid : m.snapshot.validate = .ok ()
  bound : unreconstructed evidence m = false

theorem addMaterial_ok_iff (evidence : List ObservationEvidence) (sofar : List ObservationMaterial) (m : ObservationMaterial)
    (next : List ObservationMaterial) :
    addMaterial evidence sofar m = .ok next ↔
      next = sofar ++ [m] ∧ m.Reconstructs evidence ∧ ∀ earlier ∈ sofar, earlier.key ≠ m.key := by
  simp only [addMaterial, returns_iff, List.any_eq_false, beq_iff_eq]
  constructor
  · rintro ⟨valid, bound, apart, rfl⟩
    exact ⟨rfl, ⟨valid, bound⟩, apart⟩
  · rintro ⟨rfl, ⟨valid, bound⟩, apart⟩
    exact ⟨valid, bound, apart, rfl⟩

theorem materials_ok_iff {observations materials : List ObservationMaterial} :
    observations.foldlM (addMaterial evidence) [] = .ok materials ↔
      materials = observations ∧ (∀ m ∈ observations, m.Reconstructs evidence) ∧
        observations.Pairwise fun earlier later => earlier.key ≠ later.key := by
  have loop := foldlM_checked_iff (fun m : ObservationMaterial => m.Reconstructs evidence)
    (fun earlier later => earlier.key ≠ later.key) id observations
    (fun sofar m _ => addMaterial_ok_iff evidence sofar m) materials
  rwa [List.map_id] at loop

section
variable {experimentID : Uuid} {graph : EvidenceGraph} {program : Option ProgramIdentity} {g : CompleteGraph}
  {input : ProgramInput} {materials : List ObservationMaterial}

theorem validateEvidenceGraph_ok_iff :
    validateEvidenceGraph experimentID graph program = .ok (g, input, materials) ↔
      graph.complete = some g ∧ (∃ p, program = some p ∧ identityMismatch experimentID g p = false) ∧
      g.account.validate = .ok () ∧ g.capitalBinding.validate g.account (some g.capitalPolicy) = .ok () ∧
      modeMismatch g = false ∧ ∃ evidence, g.manifest.rows.foldlM (addEvidence g.experiment) [] = .ok evidence ∧
        evidence.isEmpty = false ∧
        (∀ kind ∈ g.version.requiredDatasetKinds, (g.manifest.partitions.any fun partition => partition.kind == kind) = true) ∧
        (∀ m ∈ g.observations, m.Reconstructs evidence) ∧
        (g.observations.Pairwise fun earlier later => earlier.key ≠ later.key) ∧
        input = .ofGraph g evidence ∧ materials = g.observations := by
  simp only [validateEvidenceGraph, returns_iff, forEach_ok_iff, materials_ok_iff, Prod.mk.injEq, Bool.not_eq_false']
  constructor
  · rintro ⟨_, complete, p, given, identity, account, binding, mode, evidence, rows, found, kinds, _, ⟨rfl, each, apart⟩,
      rfl, rfl, rfl⟩
    exact ⟨complete, ⟨p, given, identity⟩, account, binding, mode, evidence, rows, found, kinds, each, apart, rfl, rfl⟩
  · rintro ⟨complete, ⟨p, given, identity⟩, account, binding, mode, evidence, rows, found, kinds, each, apart, rfl, rfl⟩
    exact ⟨g, complete, p, given, identity, account, binding, mode, evidence, rows, found, kinds, _, ⟨rfl, each, apart⟩,
      rfl, rfl, rfl⟩

theorem material_unique (ok : validateEvidenceGraph experimentID graph program = .ok (g, input, materials))
    {other : ObservationMaterial} (first : m ∈ materials) (second : other ∈ materials) (same : m.key = other.key) :
    m = other := by
  obtain ⟨_, _, _, _, _, evidence, _, _, _, _, apart, _, rfl⟩ := validateEvidenceGraph_ok_iff.mp ok
  exact List.inj_on_of_nodup_map (List.pairwise_map.mpr apart) first second same

end

def ObservationMaterial.requoted (m : ObservationMaterial) (snapshot : QuoteSnapshot) : ObservationMaterial :=
  { m with snapshot := snapshot }

def EvidenceGraph.requoted (graph : EvidenceGraph) (change : ObservationMaterial → QuoteSnapshot) : EvidenceGraph :=
  { graph with observations := graph.observations.map fun m => m.requoted (change m) }

/-- The checks read the time and the observation a quote names, and not what it quotes. -/
theorem ObservationMaterial.Reconstructs.requoted (bound : m.Reconstructs evidence) {snapshot : QuoteSnapshot}
    (valid : snapshot.validate = .ok ()) (available : snapshot.availableAt = m.snapshot.availableAt)
    (observation : snapshot.observationID = m.snapshot.observationID) :
    (m.requoted snapshot).Reconstructs evidence := by
  refine ⟨valid, ?_⟩
  have unread : unreconstructed evidence (m.requoted snapshot) = unreconstructed evidence m := by
    simp only [unreconstructed, ObservationMaterial.requoted, ObservationMaterial.key, available, observation]
  rw [unread]
  exact bound.bound

theorem requoted_accepted {experimentID : Uuid} {graph : EvidenceGraph} {program : Option ProgramIdentity} {g : CompleteGraph}
    {input : ProgramInput} {materials : List ObservationMaterial}
    (ok : validateEvidenceGraph experimentID graph program = .ok (g, input, materials))
    {change : ObservationMaterial → QuoteSnapshot} (valid : ∀ m ∈ materials, (change m).validate = .ok ())
    (available : ∀ m ∈ materials, (change m).availableAt = m.snapshot.availableAt)
    (observation : ∀ m ∈ materials, (change m).observationID = m.snapshot.observationID) :
    ∃ g', validateEvidenceGraph experimentID (graph.requoted change) program =
      .ok (g', input, materials.map fun m => m.requoted (change m)) := by
  obtain ⟨complete, identity, account, binding, mode, evidence, rows, found, kinds, each, apart, rfl, rfl⟩ :=
    validateEvidenceGraph_ok_iff.mp ok
  refine ⟨{ g with observations := g.observations.map fun m => m.requoted (change m) }, validateEvidenceGraph_ok_iff.mpr
    ⟨?_, identity, account, binding, mode, evidence, rows, found, kinds, ?_, ?_, rfl, rfl⟩⟩
  · simp only [EvidenceGraph.complete, EvidenceGraph.requoted, bind, Option.bind_eq_some_iff, pure,
      Option.some.injEq] at complete ⊢
    obtain ⟨e, isE, v, isV, m, isM, q, isQ, a, isA, b, isB, c, isC, s, isS, p, isP, rfl⟩ := complete
    exact ⟨e, isE, v, isV, m, isM, q, isQ, a, isA, b, isB, c, isC, s, isS, p, isP, rfl⟩
  · intro m member
    obtain ⟨original, there, rfl⟩ := List.mem_map.mp member
    exact (each original there).requoted (valid original there) (available original there) (observation original there)
  · exact List.pairwise_map.mpr apart

theorem evidenceKey_digest_inj {partition source partition' source' : String} {content content' : Bytes}
    (same : evidenceKey partition source (sha256Hex content) = evidenceKey partition' source' (sha256Hex content')) :
    sha256Hex content = sha256Hex content' := by
  have characters := congrArg String.toList same
  simp only [evidenceKey, String.toList_append] at characters
  have size (value : Bytes) : (sha256Hex value).toList.length = 64 := by
    rw [sha256Hex, String.toList_ofList, length_hex, Sha256.length_sum]
  exact String.toList_inj.mp (List.append_inj_right' characters (by rw [size, size]))

theorem unreconstructed_content (bound : unreconstructed evidence m = false) :
    sha256Hex m.canonicalContent = m.observationContentSHA256 := by
  unfold unreconstructed at bound
  cases row : evidence.find? fun row => row.key == m.key with
  | none => simp [row] at bound
  | some found =>
    simp only [row, Bool.or_eq_false_iff, bne_eq_false_iff_eq] at bound
    exact bound.1.1.2

/-- The checks do tie the retained bytes to the row. -/
theorem content_digest_of_key {evidence' : List ObservationEvidence} {n : ObservationMaterial}
    (left : m.Reconstructs evidence) (right : n.Reconstructs evidence') (same : m.key = n.key) :
    sha256Hex m.canonicalContent = sha256Hex n.canonicalContent := by
  unfold ObservationMaterial.key at same
  rw [← unreconstructed_content left.bound, ← unreconstructed_content right.bound] at same
  exact evidenceKey_digest_inj same

section
variable (normalize : String → Bytes → Quotes)

/-- Bid, ask and depth of every material are what the normalizer makes of its row and of the bytes retained for it. -/
def Normalizes (materials : List ObservationMaterial) : Prop :=
  ∀ m ∈ materials, m.quotes = normalize m.key m.canonicalContent

/-- The quotes that the normalizer makes of a row can be given under the time and the observation of the row. -/
def Quotable (m : ObservationMaterial) : Prop :=
  ∃ snapshot : QuoteSnapshot, snapshot.validate = .ok () ∧ snapshot.availableAt = m.snapshot.availableAt ∧
    snapshot.observationID = m.snapshot.observationID ∧ (m.requoted snapshot).quotes = normalize m.key m.canonicalContent

end

def sampleProgram : ProgramIdentity where
  id := Uuid.ofByte 61
  versionID := Uuid.ofByte 65
  versionSHA256 := sampleDigest
  compilerKind := "go"
  compilerVersion := "1"
  sourceCommit := "0123456789abcdef0123456789abcdef01234567"
  sourceTreeSHA256 := sampleDigest
  decisionContract := "v1"
  runnerContract := runnerContractV1

def sampleEvidence : EvidenceGraph where
  experiment := some sampleGraph.experiment
  version := some sampleGraph.version
  manifest := some sampleGraph.manifest
  quality := some sampleGraph.quality
  account := some sampleGraph.account
  capitalBinding := some sampleGraph.capitalBinding
  capitalPolicy := some sampleGraph.capitalPolicy
  capitalState := some sampleGraph.capitalState
  simulationPolicy := some sampleGraph.simulationPolicy
  instruments := sampleGraph.instruments
  venueContracts := sampleGraph.venueContracts
  observations := sampleGraph.observations

def sampleRows : List ObservationEvidence := [
  ⟨sampleDigest, "q1", sampleDigest, "0001-01-01T00:00:00.005000Z"⟩,
  ⟨sampleDigest, "q2", sampleDigest, "0001-01-01T00:00:00.005000Z"⟩]

theorem sampleEvidence_accepted : validateEvidenceGraph (Uuid.ofByte 60) sampleEvidence (some sampleProgram) =
    .ok (sampleGraph, .ofGraph sampleGraph sampleRows, sampleMaterials) := by
  have rows : sampleGraph.manifest.rows.foldlM (addEvidence sampleGraph.experiment) [] = .ok sampleRows :=
    ok_of_toOption (by decide)
  refine validateEvidenceGraph_ok_iff.mpr ⟨rfl, ⟨sampleProgram, rfl, by decide⟩, ok_of_toOption (by decide),
    Capital.sampleBinding_valid, by decide, sampleRows, rows, rfl, by decide, ?_, by decide, rfl, rfl⟩
  have each : ∀ m ∈ sampleMaterials, m.snapshot.validate = .ok () ∧ unreconstructed sampleRows m = false := by
    decide +kernel
  exact fun m member => ⟨(each m member).1, (each m member).2⟩

/-- The retained bytes of the sample are an empty object. -/
def sampleNormalizer (_ : String) (content : Bytes) : Quotes :=
  if content = emptyObject then (sampleMaterial (Uuid.ofByte 63) "q1").quotes else ⟨none, none, []⟩

/-- The same evidence, loaded with another snapshot for each row. -/
def reloaded (m : ObservationMaterial) : QuoteSnapshot := { m.snapshot with id := Uuid.ofByte 67 }

def dearer (m : ObservationMaterial) : QuoteSnapshot :=
  { m.snapshot with
    ask := some (.newFromInt 12)
    depth := [⟨.bid, 0, .newFromInt 9, .newFromInt 1000⟩, ⟨.ask, 0, .newFromInt 12, .newFromInt 1000⟩,
      ⟨.ask, 1, .newFromInt 13, .newFromInt 9000⟩] }

end Augr.Experimentrun
