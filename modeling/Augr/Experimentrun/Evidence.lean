import Augr.Dataset.Manifest
import Augr.Experimentrun.Plan
import Augr.Simulation.Policy

/-! The evidence graph of an experiment, and the checks made of it before a program is asked to plan.

The declared records come from other packages. Only what the runner reads of them is kept. -/

set_option autoImplicit false

namespace Augr.Experimentrun

open Foundation MarketData

def runnerContractV1 : String := "experiment-runner-v1"

def experimentDeclared : String := "declared"

structure Experiment where
  id : Uuid
  state : String
  (versionID accountID capitalBindingID manifestID qualityResultID : Uuid)
  (simulationPolicyVersion capitalPolicyVersion : String)
  mode : ExperimentMode
  (evaluationStart evaluationEnd : Instant)
  seed : Int
  datasetQuarantined : Bool

structure Version where
  id : Uuid
  (digest compilerKind compilerVersion sourceCommit sourceTreeSHA256 decisionContract : String)
  requiredDatasetKinds : List Dataset.Kind

structure Observation where
  (sourceKey availableAt contentSHA256 : String)

structure Partition where
  kind : Dataset.Kind
  contentSHA256 : String
  observations : List Observation

structure Manifest where
  id : Uuid
  digest : String
  partitions : List Partition

structure QualityResult where
  (id manifestID : Uuid)
  quarantined : Bool

structure ProgramIdentity where
  (id versionID : Uuid)
  (versionSHA256 compilerKind compilerVersion sourceCommit sourceTreeSHA256 decisionContract : String)
  runnerContract : String
  deriving DecidableEq

/-- One manifest row with the bytes and the quote used for it. -/
structure ObservationMaterial where
  (partitionContentSHA256 observationSourceKey observationContentSHA256 : String)
  availableAt : Instant
  canonicalContent : Bytes
  snapshot : QuoteSnapshot
  deriving DecidableEq

def ObservationMaterial.key (m : ObservationMaterial) : String :=
  evidenceKey m.partitionContentSHA256 m.observationSourceKey m.observationContentSHA256

structure EvidenceGraph where
  experiment : Option Experiment
  version : Option Version
  manifest : Option Manifest
  quality : Option QualityResult
  account : Option Account
  capitalBinding : Option Capital.Binding
  capitalPolicy : Option Capital.Policy
  capitalState : Option Capital.State
  simulationPolicy : Option Simulation.Policy
  instruments : Uuid → Option Instrument
  venueContracts : Uuid → Option VenueContract
  observations : List ObservationMaterial

structure CompleteGraph where
  experiment : Experiment
  version : Version
  manifest : Manifest
  quality : QualityResult
  account : Account
  capitalBinding : Capital.Binding
  capitalPolicy : Capital.Policy
  capitalState : Capital.State
  simulationPolicy : Simulation.Policy
  instruments : Uuid → Option Instrument
  venueContracts : Uuid → Option VenueContract
  observations : List ObservationMaterial

def EvidenceGraph.complete (g : EvidenceGraph) : Option CompleteGraph := do
  pure
    { experiment := ← g.experiment
      version := ← g.version
      manifest := ← g.manifest
      quality := ← g.quality
      account := ← g.account
      capitalBinding := ← g.capitalBinding
      capitalPolicy := ← g.capitalPolicy
      capitalState := ← g.capitalState
      simulationPolicy := ← g.simulationPolicy
      instruments := g.instruments
      venueContracts := g.venueContracts
      observations := g.observations }

structure ObservationEvidence where
  (partitionContentSHA256 sourceKey contentSHA256 availableAt : String)
  deriving DecidableEq

def ObservationEvidence.key (e : ObservationEvidence) : String :=
  evidenceKey e.partitionContentSHA256 e.sourceKey e.contentSHA256

structure ProgramInput where
  (experimentID accountID capitalStateID : Uuid)
  capitalStateSHA256 : String
  capitalProjectionCheckpointID : Uuid
  capitalStateBytes : RawMessage
  manifestID : Uuid
  (manifestSHA256 evaluationStart evaluationEnd : String)
  seed : Int
  mode : ExperimentMode
  evidence : List ObservationEvidence
  deriving DecidableEq

def identityMismatch (experimentID : Uuid) (g : CompleteGraph) (program : ProgramIdentity) : Bool :=
  let experiment := g.experiment
  let version := g.version
  experiment.id != experimentID || experiment.state != experimentDeclared || experiment.versionID != version.id ||
    experiment.accountID != g.account.id || experiment.capitalBindingID != g.capitalBinding.id ||
    experiment.manifestID != g.manifest.id || experiment.qualityResultID != g.quality.id ||
    g.quality.manifestID != g.manifest.id || experiment.datasetQuarantined != g.quality.quarantined ||
    experiment.simulationPolicyVersion != g.simulationPolicy.version ||
    experiment.capitalPolicyVersion != g.capitalPolicy.version || program.versionID != version.id ||
    program.versionSHA256 != version.digest || program.compilerKind != version.compilerKind ||
    program.compilerVersion != version.compilerVersion || program.sourceCommit != version.sourceCommit ||
    program.sourceTreeSHA256 != version.sourceTreeSHA256 || program.decisionContract != version.decisionContract ||
    program.runnerContract != runnerContractV1

def modeMismatch (g : CompleteGraph) : Bool :=
  let wanted := if g.experiment.mode = .paperStress then AccountEnvironment.paperStress else .paperScored
  g.account.environment != wanted || g.experiment.mode == .paperScored && g.quality.quarantined

def ProgramInput.ofGraph (g : CompleteGraph) (evidence : List ObservationEvidence) : ProgramInput where
  experimentID := g.experiment.id
  accountID := g.account.id
  capitalStateID := g.capitalState.id
  capitalStateSHA256 := g.capitalState.hash
  capitalProjectionCheckpointID := g.capitalState.projectionCheckpointID
  capitalStateBytes := g.capitalState.canonicalBytes
  manifestID := g.manifest.id
  manifestSHA256 := g.manifest.digest
  evaluationStart := formatTime g.experiment.evaluationStart
  evaluationEnd := formatTime g.experiment.evaluationEnd
  seed := g.experiment.seed
  mode := g.experiment.mode
  evidence := evidence

def inWindow (experiment : Experiment) (observation : Observation) : Bool :=
  let available := parseTime observation.availableAt
  !(available.before experiment.evaluationStart || available.after experiment.evaluationEnd)

def addEvidence (experiment : Experiment) (sofar : List ObservationEvidence) (row : Partition × Observation) :
    Outcome (List ObservationEvidence) :=
  let (partition, observation) := row
  if !inWindow experiment observation then .ok sofar
  else do
    let value : ObservationEvidence :=
      ⟨partition.contentSHA256, observation.sourceKey, observation.contentSHA256, observation.availableAt⟩
    failIf (sofar.any fun earlier => earlier.key == value.key)
      (.errorf "manifest contains duplicate in-window observation evidence" [])
    pure (sofar ++ [value])

def Manifest.rows (manifest : Manifest) : List (Partition × Observation) :=
  manifest.partitions.flatMap fun partition => partition.observations.map fun observation => (partition, observation)

/-- The material of one row: its bytes hash to the row, and its quote names the row. -/
def unreconstructed (evidence : List ObservationEvidence) (m : ObservationMaterial) : Bool :=
  match evidence.find? fun row => row.key == m.key with
  | none => true
  | some row =>
      m.availableAt.format != row.availableAt || sha256Hex m.canonicalContent != m.observationContentSHA256 ||
        !(m.snapshot.availableAt.map fun available => available.equal m.availableAt).getD false ||
        m.snapshot.observationID != m.observationSourceKey

def addMaterial (evidence : List ObservationEvidence) (sofar : List ObservationMaterial) (m : ObservationMaterial) :
    Outcome (List ObservationMaterial) := do
  wrapping "observation material %q quote: %w" [m.observationSourceKey] m.snapshot.validate
  failIf (unreconstructed evidence m)
    (.errorf "observation material %q does not reconstruct manifest evidence" [m.observationSourceKey])
  failIf (sofar.any fun earlier => earlier.key == m.key) (.errorf "observation material is duplicated" [])
  pure (sofar ++ [m])

def validateEvidenceGraph (experimentID : Uuid) (graph : EvidenceGraph) (program : Option ProgramIdentity) :
    Outcome (CompleteGraph × ProgramInput × List ObservationMaterial) := do
  let incomplete := Fault.errorf "experiment evidence graph is incomplete" []
  let g ← required incomplete graph.complete
  let program ← required incomplete program
  failIf (identityMismatch experimentID g program)
    (.errorf "experiment evidence identity does not match declaration" [])
  wrapping "experiment account: %w" [] g.account.validate
  wrapping "experiment capital binding: %w" [] (g.capitalBinding.validate g.account (some g.capitalPolicy))
  failIf (modeMismatch g) (.errorf "experiment mode, account, or quality boundary does not match" [])
  let evidence ← g.manifest.rows.foldlM (addEvidence g.experiment) []
  failIf evidence.isEmpty (.errorf "manifest contains no observation in the experiment window" [])
  forEach (fun kind => failIf (!g.manifest.partitions.any fun partition => partition.kind == kind)
    (.errorf "manifest lacks strategy-required dataset kind %q" [kind.text])) g.version.requiredDatasetKinds
  let materials ← g.observations.foldlM (addMaterial evidence) []
  pure (g, .ofGraph g evidence, materials)

def materialFor (materials : List ObservationMaterial) (step : StepInput) : Option ObservationMaterial :=
  materials.find? fun m => m.key == step.key

end Augr.Experimentrun
