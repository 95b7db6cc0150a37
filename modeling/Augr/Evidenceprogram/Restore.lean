import Augr.Evidenceprogram.Model
import Augr.Foundation.Fields

/-! Assessments restored from their bytes: the facts are read, the assessor is run again and
its result is compared with what was read. -/

set_option autoImplicit false

namespace Augr.Evidenceprogram

open Foundation Json

def EvidenceRef.ofFields (fields : List (String × Json)) : Option EvidenceRef := do
  pure
    { kind := ← textField fields "kind"
      id := ← uuidField fields "id"
      sha256 := ← textField fields "sha256" }

def CandidateShadow.ofFields (fields : List (String × Json)) : Option CandidateShadow := do
  pure
    { key := ← textField fields "key"
      observedDays := ← int64Field fields "observed_days"
      criticalDefects := ← int64Field fields "critical_defects"
      executableSamples := ← int64Field fields "executable_samples"
      simulatedFills := ← int64Field fields "simulated_fills"
      slippageKnown := ← boolField fields "slippage_known"
      slippageDivergence := ← textField fields "slippage_divergence" }

def CandidatePaper.ofFields (fields : List (String × Json)) : Option CandidatePaper := do
  pure
    { key := ← textField fields "key"
      observations := ← int64Field fields "observations"
      afterCostExpectancy := ← textField fields "after_cost_expectancy"
      costsComplete := ← boolField fields "costs_complete"
      statisticallyHonest := ← boolField fields "statistically_honest"
      marginBounded := ← boolField fields "margin_bounded" }

def Capability.ofFields (fields : List (String × Json)) : Option Capability := do
  pure
    { name := ← textField fields "name"
      passed := ← boolField fields "passed"
      evidence := ← objectField fields "evidence" >>= EvidenceRef.ofFields }

def records {α : Type} (read : List (String × Json) → Option α) (fields : List (String × Json)) (key : String) :
    Option (List α) :=
  arrayField fields key >>= fun items => items.mapM fun item => item.fields? >>= read

/-- A canonical record as it was read. The facts stay raw; without them there is nothing to read. -/
structure Restored where
  (schema campaign startedAt endedAt : String)
  facts : Option Json
  parents : List EvidenceRef

def Restored.ofFields (fields : List (String × Json)) : Option Restored := do
  let _ ← textField fields "outcome"
  let _ ← arrayField fields "blockers" >>= fun items => items.mapM text?
  pure
    { schema := ← textField fields "schema"
      campaign := ← textField fields "campaign"
      startedAt := ← textField fields "started_at"
      endedAt := ← textField fields "ended_at"
      facts := fields.lookup "facts"
      parents := ← records EvidenceRef.ofFields fields "parents" }

def decodeCanonical (raw : RawMessage) : Option Restored :=
  Json.decode anyNumber raw >>= fun value => value.fields? >>= Restored.ofFields

def Restored.factFields (value : Restored) : Option (List (String × Json)) := value.facts >>= fields?

def readinessCapabilities (fields : List (String × Json)) : Option (List Capability) :=
  records Capability.ofFields fields "capabilities"

inductive Request where
  | shadow (input : ShadowInput)
  | paper (input : PaperInput)
  | portfolio (input : PortfolioInput)
  | readiness (input : ReadinessInput)

def Request.assess : Request → Outcome Assessment
  | .shadow input => assessShadow input
  | .paper input => assessPaper input
  | .portfolio input => assessPortfolio input
  | .readiness input => assessReadiness input

def canonicalInterval (value : Restored) : Outcome (Instant × Instant) :=
  if value.campaign = Campaign.readiness.text then do
    failIf (value.startedAt != "" || value.endedAt != "") (.errorf "readiness assessment cannot declare an interval" [])
    pure (.zero, .zero)
  else
    required (.errorf "canonical milestone evidence interval is invalid" []) do
      pure (← Instant.parse value.startedAt, ← Instant.parse value.endedAt)

structure ParentSearch where
  other : List EvidenceRef
  found : Bool

def ParentSearch.visit (campaign : Campaign) (want : EvidenceRef) (search : ParentSearch) (ref : EvidenceRef) :
    Outcome ParentSearch :=
  if ref.kind = campaign.text then do
    failIf (search.found || ref != want) (.errorf "assessment parent reference mismatch" [])
    pure { search with found := true }
  else pure { search with other := search.other ++ [ref] }

/-- The one assessment of the campaign that was supplied. -/
def onlyParent (campaign : Campaign) : List (Option Assessment) → Option Assessment
  | [some parent] => if parent.campaign = campaign then some parent else none
  | _ => none

def exactAssessmentParent (refs : List EvidenceRef) (values : List (Option Assessment)) (campaign : Campaign) :
    Outcome (Assessment × List EvidenceRef) := do
  let parent ← required (.errorf "exact %s parent is required" [campaign.text]) (onlyParent campaign values)
  let search ← refs.foldlM (ParentSearch.visit campaign parent.reference) ⟨[], false⟩
  failIf (!search.found) (.errorf "assessment parent reference is missing" [])
  pure (parent, search.other)

def shadowRequest (value : Restored) (start stop : Instant) (values : List (Option Assessment)) : Option Request := do
  let fields ← value.factFields.filter fun _ => values.isEmpty
  pure (.shadow
    { startedAt := start
      endedAt := stop
      dailyComplete := ← boolField fields "daily_complete"
      candidates := ← records CandidateShadow.ofFields fields "candidates"
      parents := value.parents })

def paperRequest (value : Restored) (start stop : Instant) (values : List (Option Assessment)) : Option Request := do
  let (parent, other) ← (exactAssessmentParent value.parents values .shadow).toOption
  let fields ← value.factFields
  let _ ← boolField fields "positive_candidate"
  pure (.paper
    { shadow := some parent
      startedAt := start
      endedAt := stop
      candidates := ← records CandidatePaper.ofFields fields "candidates"
      parents := other })

def portfolioRequest (value : Restored) (start stop : Instant) (values : List (Option Assessment)) : Option Request := do
  let (parent, other) ← (exactAssessmentParent value.parents values .paper).toOption
  let fields ← value.factFields
  pure (.portfolio
    { paper := some parent
      startedAt := start
      endedAt := stop
      combinedRiskAdjusted := ← textField fields "Combined"
      bestSingleRiskAdjusted := ← textField fields "Best"
      sameInterval := ← boolField fields "SameInterval"
      sameCostBasis := ← boolField fields "SameCostBasis"
      parents := other })

def readinessRequest (value : Restored) (values : List (Option Assessment)) : Option Request := do
  let (parent, other) ← (exactAssessmentParent value.parents values .portfolio).toOption
  let fields ← value.factFields
  pure (.readiness
    { portfolio := some parent
      capabilities := ← readinessCapabilities fields
      parents := other })

def requestOf (value : Restored) (start stop : Instant) (values : List (Option Assessment)) : Outcome Request :=
  if value.campaign = Campaign.shadow.text then
    required (.errorf "invalid canonical shadow facts" []) (shadowRequest value start stop values)
  else if value.campaign = Campaign.paper.text then
    required (.errorf "invalid canonical paper facts or parent" []) (paperRequest value start stop values)
  else if value.campaign = Campaign.portfolio.text then
    required (.errorf "invalid canonical portfolio facts or parent" []) (portfolioRequest value start stop values)
  else if value.campaign = Campaign.readiness.text then
    required (.errorf "invalid canonical readiness facts or parent" []) (readinessRequest value values)
  else .error (.errorf "unknown milestone evidence campaign" [])

def assessmentFromCanonical (id : Uuid) (digest : String) (raw : RawMessage) (assessmentParents : List (Option Assessment)) :
    Outcome Assessment := do
  let invalid := Fault.errorf "invalid canonical milestone evidence assessment" []
  failIf (id == Uuid.nil || Text.byteLength digest != 64 || sha256Hex raw != digest) invalid
  let value ← required invalid ((decodeCanonical raw).filter fun value => value.schema == schemaV1)
  failIf ((normalizeParents value.parents).toOption != some value.parents)
    (.errorf "canonical milestone evidence parents are invalid" [])
  let (start, stop) ← canonicalInterval value
  let request ← requestOf value start stop assessmentParents
  required (.errorf "canonical milestone evidence assessment does not reconstruct" [])
    (request.assess.toOption.filter fun rebuilt => rebuilt.id == id && rebuilt.digest == digest && rebuilt.raw == raw)

def Assessment.capabilities (a : Assessment) : Option (List Capability) :=
  Json.decode anyNumber a.value.facts >>= fun facts => facts.fields? >>= readinessCapabilities

def EvidenceRef.members (ref : EvidenceRef) : List (String × String) :=
  [("kind", ref.kind), ("id", ref.id.toText), ("sha256", ref.sha256)]

def EvidenceRef.json (ref : EvidenceRef) : Json :=
  .object (stored (ref.members.map fun field => (field.1, .string field.2)))

theorem EvidenceRef.reads (ref : EvidenceRef) : Json.Reads anyNumber 1 ref.marshal ref.json :=
  reads_texts ref.members

theorem EvidenceRef.ofFields_json (ref : EvidenceRef) :
    ofFields (stored (ref.members.map fun field => (field.1, .string field.2))) = some ref := by
  have distinct : (ref.members.map Prod.fst).Nodup := by
    change ["kind", "id", "sha256"].Nodup
    decide
  have names : ((ref.members.map fun field => (field.1, Json.string field.2)).map Prod.fst).Nodup := by
    rwa [List.map_map]
  have id : uuidField (stored (ref.members.map fun field => (field.1, .string field.2))) "id" = some ref.id := by
    apply uuidField_eq
    rw [lookup_stored names]
    rfl
  simp only [ofFields, textField_texts distinct, id]
  rfl

namespace Capability

def members (c : Capability) : List (String × Json) :=
  [("name", .string c.name), ("passed", .bool c.passed), ("evidence", c.evidence.json)]

theorem reads (c : Capability) : Json.Reads anyNumber 2 c.marshal (.object (stored c.members)) := by
  apply reads_encodeObject
  exact .cons ⟨rfl, reads_quote _⟩ (.cons ⟨rfl, reads_bool _⟩ (.cons ⟨rfl, c.evidence.reads⟩ .nil))

theorem ofFields_members (c : Capability) : ofFields (stored c.members) = some c := by
  have distinct : (c.members.map Prod.fst).Nodup := by
    change ["name", "passed", "evidence"].Nodup
    decide
  have evidence : (objectField (stored c.members) "evidence" >>= EvidenceRef.ofFields) = some c.evidence := by
    have found : (stored c.members).lookup "evidence" = some c.evidence.json := by
      rw [lookup_stored distinct]
      rfl
    rw [objectField_eq found]
    exact c.evidence.ofFields_json
  simp only [ofFields, textField, boolField, lookup_stored distinct, evidence]
  rfl

end Capability

section
variable {α : Type} {encode : α → Bytes} {value : α → Json}

/-- A nil list is written as null. -/
def nilable (items : List Json) : Json := if items.isEmpty then .null else .array items

theorem reads_nilable {depth : Nat} (items : List α)
    (each : ∀ item ∈ items, Json.Reads anyNumber depth (encode item) (value item)) :
    Json.Reads anyNumber (depth + 1) (encodeNilable (items.map encode)) (nilable (items.map value)) := by
  cases items with
  | nil => exact reads_null
  | cons item rest => exact reads_list (item :: rest) each

theorem arrayField_nilable {fields : List (String × Json)} {key : String} {items : List Json}
    (found : fields.lookup key = some (nilable items)) : arrayField fields key = some items := by
  cases items with
  | nil => rw [arrayField, found]; rfl
  | cons item rest => exact arrayField_eq found

end

theorem capabilities_eq {a : Assessment} {capabilities : List Capability} (facts : a.value.facts = readinessFacts capabilities) :
    a.capabilities = some capabilities := by
  let items := capabilities.map fun c => Json.object (stored c.members)
  have spelt : Json.Reads anyNumber 4 a.value.facts (.object (stored [("capabilities", nilable items)])) := by
    rw [facts]
    apply reads_encodeObject
    exact .cons ⟨rfl, reads_nilable capabilities fun c _ => c.reads⟩ .nil
  have listed : arrayField (stored [("capabilities", nilable items)]) "capabilities" = some items := by
    apply arrayField_nilable
    rw [lookup_stored (by exact List.nodup_singleton _)]
    rfl
  have read : items.mapM (fun item => item.fields? >>= Capability.ofFields) = some capabilities :=
    mapM_read capabilities fun c _ => (object_bind _ _).trans c.ofFields_members
  rw [Assessment.capabilities, decode_of_reads spelt (by decide)]
  change records Capability.ofFields _ _ = _
  rw [records, listed]
  exact read

end Augr.Evidenceprogram
