import Augr.Dataset.Restore

/-! The canonical record of a manifest is read back from its bytes. -/

set_option autoImplicit false

namespace Augr.Dataset

open Foundation Json

namespace Observation

def members (o : Observation) : List (String × Json) :=
  [("sequence", Json.integer o.sequence.toInt), ("source_key", .string o.sourceKey), ("instrument_id", .string o.instrumentID),
    ("effective_at", .string o.effectiveAt), ("published_at", .string o.publishedAt), ("observed_at", .string o.observedAt),
    ("available_at", .string o.availableAt), ("revision", .string o.revision), ("correction_of", .string o.correctionOf),
    ("content_sha256", .string o.contentSHA256), ("bid", Json.optional o.bid), ("ask", Json.optional o.ask),
    ("volume", Json.optional o.volume), ("depth", Json.optional o.depth)]

theorem reads (o : Observation) : Json.Reads anyNumber 1 o.marshal (.object (stored o.members)) := by
  apply reads_encodeObject
  refine .cons (memberReads (reads_int64 _)) ?_
  iterate 9 refine .cons (memberReads (reads_quote _)) ?_
  iterate 4 refine .cons (memberReads (reads_optional _)) ?_
  exact .nil

theorem ofFields_members (o : Observation) : ofFields (stored o.members) = some o := by
  have distinct : (o.members.map Prod.fst).Nodup := by
    change names.Nodup
    decide
  have known : onlyFields names (stored o.members) = true := onlyFields_stored fun name member => member
  simp only [ofFields, known, textField, lookup_stored distinct, int64Field_stored distinct "sequence" rfl,
    optionalField_stored distinct "bid" rfl, optionalField_stored distinct "ask" rfl,
    optionalField_stored distinct "volume" rfl, optionalField_stored distinct "depth" rfl]
  rfl

end Observation

theorem Kind.ofText_text {kind : Kind} (reviewed : kind ∈ reviewedKinds) : Kind.ofText kind.text = kind := by
  have table : ∀ kind ∈ reviewedKinds, Kind.ofText kind.text = kind := by decide
  exact table kind reviewed

namespace Partition

def members (p : Partition) : List (String × Json) :=
  [("sequence", Json.integer p.sequence.toInt), ("kind", .string p.kind.text), ("provider", .string p.provider),
    ("source", .string p.source), ("namespace", .string p.ns), ("request_sha256", .string p.requestSHA256),
    ("content_sha256", .string p.contentSHA256), ("media_type", .string p.mediaType),
    ("effective_start", .string p.effective.first), ("effective_end", .string p.effective.last),
    ("observed_start", .string p.observed.first), ("observed_end", .string p.observed.last),
    ("available_start", .string p.available.first), ("available_end", .string p.available.last),
    ("symbology_version", .string p.symbologyVersion), ("adjustment_policy", .string p.adjustmentPolicy),
    ("timezone", .string p.timezone), ("calendar", .string p.calendar), ("revision", .string p.revision),
    ("supersedes_content_sha256", .string p.supersedesContentSHA256), ("row_count", Json.integer p.rowCount.toInt),
    ("license", .string p.license), ("retention_policy", .string p.retentionPolicy),
    ("observations", .array (p.observations.map fun o => .object (stored o.members)))]

theorem reads (p : Partition) : Json.Reads anyNumber 3 p.marshal (.object (stored p.members)) := by
  apply reads_encodeObject
  refine .cons (memberReads (reads_int64 _)) ?_
  iterate 19 refine .cons (memberReads (reads_quote _)) ?_
  refine .cons (memberReads (reads_int64 _)) ?_
  iterate 2 refine .cons (memberReads (reads_quote _)) ?_
  exact .cons (memberReads (reads_list p.observations fun o _ => o.reads)) .nil

theorem ofFields_members {p : Partition} (reviewed : p.kind ∈ reviewedKinds) : ofFields (stored p.members) = some p := by
  have distinct : (p.members.map Prod.fst).Nodup := by
    change names.Nodup
    decide
  have known : onlyFields names (stored p.members) = true := onlyFields_stored fun name member => member
  have observations : (p.observations.map fun o => Json.object (stored o.members)).mapM
      (fun item => item.fields? >>= Observation.ofFields) = some p.observations :=
    mapM_read p.observations fun o _ => (object_bind _ _).trans o.ofFields_members
  have kind := textField_stored distinct "kind" rfl
  have listed := arrayField_stored distinct "observations" rfl
  simp only [ofFields, known, kind, listed, int64Field_stored distinct "sequence" rfl,
    int64Field_stored distinct "row_count" rfl, bind, Option.bind, Kind.ofText_text reviewed] at observations ⊢
  simp only [Bool.not_true, observations, textField, lookup_stored distinct]
  rfl

end Partition

namespace ManifestCanonical

def members (c : ManifestCanonical) : List (String × Json) :=
  [("schema", .string c.schema), ("decision_cutoff", .string c.decisionCutoff),
    ("partition_count", Json.integer c.partitionCount.toInt), ("observation_count", Json.integer c.observationCount.toInt),
    ("partitions", .array (c.partitions.map fun p => .object (stored p.members)))]

theorem reads (c : ManifestCanonical) : Json.Reads anyNumber 5 c.marshal (.object (stored c.members)) := by
  apply reads_encodeObject
  iterate 2 refine .cons (memberReads (reads_quote _)) ?_
  iterate 2 refine .cons (memberReads (reads_int64 _)) ?_
  exact .cons (memberReads (reads_list c.partitions fun p _ => p.reads)) .nil

theorem ofFields_members {c : ManifestCanonical} (reviewed : ∀ p ∈ c.partitions, p.kind ∈ reviewedKinds) :
    ofFields (stored c.members) = some c := by
  have distinct : (c.members.map Prod.fst).Nodup := by
    change names.Nodup
    decide
  have known : onlyFields names (stored c.members) = true := onlyFields_stored fun name member => member
  have partitions : (c.partitions.map fun p => Json.object (stored p.members)).mapM
      (fun item => item.fields? >>= Partition.ofFields) = some c.partitions :=
    mapM_read c.partitions fun p member => (object_bind _ _).trans (Partition.ofFields_members (reviewed p member))
  have listed := arrayField_stored distinct "partitions" rfl
  simp only [ofFields, known, listed, int64Field_stored distinct "partition_count" rfl,
    int64Field_stored distinct "observation_count" rfl, bind, Option.bind] at partitions ⊢
  simp only [Bool.not_true, partitions, textField, lookup_stored distinct]
  rfl

end ManifestCanonical

theorem decodeManifest_marshal {c : ManifestCanonical} (reviewed : ∀ p ∈ c.partitions, p.kind ∈ reviewedKinds) :
    decodeManifest c.marshal = .ok c := by
  simp only [decodeManifest, decodeFirst_of_reads c.reads (by decide), required, ok_bind, fields?, Option.bind,
    ManifestCanonical.ofFields_members reviewed]
  rfl

end Augr.Dataset
