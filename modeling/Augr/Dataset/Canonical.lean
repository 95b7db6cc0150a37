import Augr.Dataset.Accepted
import Augr.Dataset.Content

/-! Manifests are canonical, restorable and point-in-time. -/

set_option autoImplicit false

namespace Augr.Dataset

open Foundation

variable {cutoff : Instant} {sequence : Nat} {partition : Partition} {p : PartitionInput}

def PartitionInput.Reordered (p q : PartitionInput) : Prop :=
  p.observations.Perm q.observations ∧ q = { p with observations := q.observations }

def ManifestInput.Reordered (input other : ManifestInput) : Prop :=
  other.decisionCutoff = input.decisionCutoff ∧
    ∃ partitions, List.Forall₂ PartitionInput.Reordered input.partitions partitions ∧ partitions.Perm other.partitions

theorem sortPartitions_arranged (partitions : List PartitionInput) :
    sortPartitions (partitions.map PartitionInput.arranged) = (sortPartitions partitions).map PartitionInput.arranged :=
  (map_sortedBy PartitionInput.arranged (fun value => byteOrder (partitionInputKey value)) partitions).symm

theorem newManifest_arranged (cutoff : Instant) (partitions : List PartitionInput) :
    newManifest ⟨cutoff, partitions.map PartitionInput.arranged⟩ = newManifest ⟨cutoff, partitions⟩ := by
  simp only [newManifest, sortPartitions_arranged, List.foldlM_map, addPartition_arranged, List.isEmpty_map]

theorem newManifest_perm {partitions others : List PartitionInput}
    (distinct : (partitions.map partitionInputKey).Nodup) (same : partitions.Perm others) :
    newManifest ⟨cutoff, others⟩ = newManifest ⟨cutoff, partitions⟩ := by
  have sorted : sortPartitions partitions = sortPartitions others := by
    apply sortedBy_eq_of_perm _ same
    intro left inLeft right inRight keys
    exact List.inj_on_of_nodup_map distinct inLeft inRight (byteOrder_injective keys)
  simp only [newManifest, sorted, same.isEmpty_eq]

section
variable {input : ManifestInput} {manifest : Manifest}

theorem keys_nodup (made : newManifest input = .ok manifest) : (input.partitions.map partitionInputKey).Nodup := by
  obtain ⟨_, _, rows, _, distinct, _⟩ := newManifest_ok made
  exact ((perm_sortedBy _ input.partitions).map _).nodup_iff.mp distinct

theorem normalized_of_mem (made : newManifest input = .ok manifest) (member : p ∈ input.partitions) :
    ∃ sequence partition, normalizePartition sequence p input.decisionCutoff = .ok partition := by
  obtain ⟨_, _, rows, each, _, _⟩ := newManifest_ok made
  have inside : p ∈ sortPartitions input.partitions := (perm_sortedBy _ input.partitions).mem_iff.mpr member
  obtain ⟨row, _, before, _, _, placed⟩ := exists_right_of_mem each inside
  exact ⟨_, _, placed.normal⟩

theorem newManifest_reordered (made : newManifest input = .ok manifest) {other : ManifestInput}
    (reordered : input.Reordered other) : newManifest other = .ok manifest := by
  obtain ⟨cutoff, others⟩ := other
  obtain ⟨rfl, partitions, inside, between⟩ := reordered
  have arranged : input.partitions.map PartitionInput.arranged = partitions.map PartitionInput.arranged := by
    rw [← List.forall₂_eq_eq_eq, List.forall₂_map_left_iff, List.forall₂_map_right_iff]
    refine List.Forall₂.imp ?_ ((List.forall₂_and_left _ _).mpr ⟨fun p member => normalized_of_mem made member, inside⟩)
    rintro p q ⟨⟨_, _, normal⟩, same, rest⟩
    rw [PartitionInput.arranged, PartitionInput.arranged, ← sortObservations_eq normal same]
    exact (congrArg (fun r : PartitionInput => { r with observations := sortObservations p.observations }) rest).symm
  have again : newManifest ⟨input.decisionCutoff, partitions⟩ = .ok manifest := by
    rw [← newManifest_arranged, ← arranged, newManifest_arranged]
    exact made
  exact (newManifest_perm (keys_nodup again) between).trans again

end

def Dated (t : Instant) : Prop := 1 ≤ t.year ∧ t.year ≤ 9999

structure ObservationInput.Dated (o : ObservationInput) : Prop where
  effective : Dataset.Dated o.effectiveAt
  published : ∀ publishedAt, o.publishedAt = some publishedAt → Dataset.Dated publishedAt
  observed : Dataset.Dated o.observedAt
  available : Dataset.Dated o.availableAt

structure ManifestInput.Dated (input : ManifestInput) : Prop where
  cutoff : Dataset.Dated input.decisionCutoff
  observations : ∀ p ∈ input.partitions, ∀ o ∈ p.observations, o.Dated

theorem parseTime_formatTime {t : Instant} (canonical : t.isCanonical = true) (dated : Dated t) :
    parseTime (formatTime t) = t := by
  simp only [Instant.isCanonical, Bool.and_eq_true, Instant.equal_truncate_iff] at canonical
  have low := dated.1
  rw [parseTime, formatTime, Instant.parse_format canonical.1.2 canonical.2 (by omega) dated.2]
  rfl

theorem formatTime_ne_empty (t : Instant) : formatTime t ≠ "" := by
  intro empty
  have none := congrArg String.toList empty
  simp [formatTime, Instant.format] at none

theorem restoreInstrument_text (id : Uuid) : restoreInstrument (if id = Uuid.nil then "" else id.toText) = .ok id := by
  rw [restoreInstrument]
  by_cases isNil : id = Uuid.nil
  · rw [if_pos isNil, if_pos rfl, isNil]
    rfl
  · rw [if_neg isNil, if_neg (Text.toText_ne_empty id), Uuid.parse_toText]

theorem record_observed {o : ObservationInput} (timed : o.Timed cutoff) (dated : o.Dated) (sequence : Nat) :
    parseTime (o.record sequence).observedAt = o.observedAt := parseTime_formatTime timed.observed dated.observed

theorem record_available {o : ObservationInput} (timed : o.Timed cutoff) (dated : o.Dated) (sequence : Nat) :
    parseTime (o.record sequence).availableAt = o.availableAt := parseTime_formatTime timed.available dated.available

theorem restoreObservation_record {o : ObservationInput} (timed : o.Timed cutoff) (dated : o.Dated) (sequence : Nat) :
    restoreObservation (o.record sequence) = .ok o := by
  have instrument : restoreInstrument (o.record sequence).instrumentID = .ok o.instrumentID := restoreInstrument_text _
  have effective : parseTime (o.record sequence).effectiveAt = o.effectiveAt :=
    parseTime_formatTime timed.effective dated.effective
  have published : (if (o.record sequence).publishedAt = "" then none else some (parseTime (o.record sequence).publishedAt)) =
      o.publishedAt := by
    change (if (o.publishedAt.map formatTime).getD "" = "" then none
      else some (parseTime ((o.publishedAt.map formatTime).getD ""))) = o.publishedAt
    cases given : o.publishedAt with
    | none => rfl
    | some publishedAt =>
      change (if formatTime publishedAt = "" then none else some (parseTime (formatTime publishedAt))) = some publishedAt
      rw [if_neg (formatTime_ne_empty _),
        parseTime_formatTime (timed.published publishedAt given) (dated.published publishedAt given)]
  simp only [restoreObservation, instrument, ok_bind, published, effective, record_observed timed dated,
    record_available timed dated]
  rfl

theorem restorePartition_normal (normal : normalizePartition sequence p cutoff = .ok partition)
    (dated : ∀ o ∈ p.observations, o.Dated) : restorePartition partition = .ok p.arranged := by
  simp only [normalizePartition, returns_iff] at normal
  obtain ⟨_, rows, added, rfl⟩ := normal
  have restored : rows.mapM restoreObservation = .ok (sortObservations p.observations) := by
    rw [mapM_ok_iff]
    apply List.Forall₂.flip
    have known : ∀ o ∈ sortObservations p.observations, o.Dated :=
      fun o member => dated o ((perm_sortedBy _ p.observations).mem_iff.mp member)
    refine List.Forall₂.imp ?_ ((List.forall₂_and_left _ _).mpr ⟨known, addObservations_ok added⟩)
    rintro o row ⟨isDated, before, _, _, isAdded⟩
    rw [isAdded.record]
    exact restoreObservation_record isAdded.timed isDated before.length
  simp only [restorePartition, restored, ok_bind]
  rfl

theorem validKind_mem {kind : Kind} (valid : validKind kind = true) : kind ∈ reviewedKinds := by
  rw [validKind, Option.any_eq_true] at valid
  obtain ⟨found, isFound, same⟩ := valid
  rw [← beq_iff_eq.mp same]
  exact List.mem_of_find?_eq_some isFound

theorem normalizePartition_kind (normal : normalizePartition sequence p cutoff = .ok partition) :
    partition.kind ∈ reviewedKinds := by
  simp only [normalizePartition, returns_iff] at normal
  obtain ⟨valid, rows, _, rfl⟩ := normal
  apply validKind_mem
  by_contra unknown
  rw [PartitionInput.invalid, Bool.eq_false_iff.mpr unknown] at valid
  simp at valid

theorem sha256Pattern_sha256Hex (value : Bytes) : sha256Pattern (sha256Hex value) = true := by
  have table : ∀ c ∈ hexDigits, isLowerHex c = true := List.all_eq_true.mp rfl
  rw [sha256Pattern, sha256Hex, Text.characters_eq, String.toList_ofList, length_hex, Sha256.length_sum, Bool.and_eq_true,
    List.all_eq_true]
  exact ⟨rfl, fun c member => table c (mem_hexDigits_of_mem_hex member)⟩

theorem manifestFromCanonical_of_again {c : ManifestCanonical} {manifest : Manifest} {partitions : List PartitionInput}
    (own : manifest = .ofCanonical c) (identified : manifest.id ≠ Uuid.nil) (decoded : decodeManifest manifest.bytes = .ok c)
    (restored : c.partitions.mapM restorePartition = .ok partitions)
    (again : newManifest ⟨parseTime c.decisionCutoff, partitions⟩ = .ok manifest) :
    manifestFromCanonical manifest.id manifest.digest manifest.bytes = .ok manifest := by
  have hashed : sha256Hex manifest.bytes = manifest.digest := by rw [own]; rfl
  have canonical : manifest.canonical = c := by rw [own]; rfl
  rw [manifestFromCanonical, check_bind_ok_iff, failIf_ok_iff]
  constructor
  · rw [← hashed, sha256Pattern_sha256Hex, beq_false_of_ne identified, bne_self_eq_false]
    rfl
  rw [bind_ok_iff]
  refine ⟨c, decoded, ?_⟩
  rw [bind_ok_iff]
  refine ⟨partitions, restored, ?_⟩
  rw [bind_ok_iff]
  refine ⟨manifest, again, ?_⟩
  rw [check_bind_ok_iff, failIf_ok_iff, canonical]
  exact ⟨by simp, rfl⟩

section
variable {input : ManifestInput} {manifest : Manifest}

theorem manifestFromCanonical_restores (made : newManifest input = .ok manifest) (dated : input.Dated)
    (identified : manifest.id ≠ Uuid.nil) : manifestFromCanonical manifest.id manifest.digest manifest.bytes = .ok manifest := by
  obtain ⟨cutoff, some, rows, each, distinct, own⟩ := newManifest_ok made
  have reviewed : ∀ p ∈ rows.map Prod.snd, p.kind ∈ reviewedKinds := by
    intro p member
    obtain ⟨row, inRows, rfl⟩ := List.mem_map.mp member
    obtain ⟨_, _, _, _, _, placed⟩ := exists_left_of_mem each inRows
    exact normalizePartition_kind placed.normal
  have decoded : decodeManifest manifest.bytes = .ok (.ofPartitions input.decisionCutoff (rows.map Prod.snd)) := by
    rw [own]
    exact decodeManifest_marshal reviewed
  have restored : (rows.map Prod.snd).mapM restorePartition =
      .ok ((sortPartitions input.partitions).map PartitionInput.arranged) := by
    rw [mapM_ok_iff, List.forall₂_map_left_iff, List.forall₂_map_right_iff]
    apply List.Forall₂.flip
    have known : ∀ p ∈ sortPartitions input.partitions, ∀ o ∈ p.observations, o.Dated :=
      fun p member => dated.observations p ((perm_sortedBy _ input.partitions).mem_iff.mp member)
    refine List.Forall₂.imp ?_ ((List.forall₂_and_left _ _).mpr ⟨known, each⟩)
    rintro p row ⟨isDated, _, _, _, placed⟩
    exact restorePartition_normal placed.normal isDated
  have again : newManifest ⟨input.decisionCutoff, (sortPartitions input.partitions).map PartitionInput.arranged⟩ =
      .ok manifest := by
    rw [newManifest_arranged]
    exact (newManifest_perm (keys_nodup made) (perm_sortedBy _ input.partitions).symm).trans made
  refine manifestFromCanonical_of_again own identified decoded restored ?_
  have time : parseTime (formatTime input.decisionCutoff) = input.decisionCutoff := parseTime_formatTime cutoff dated.cutoff
  rw [ManifestCanonical.ofPartitions, time]
  exact again

end

/-- Published before observed before available before the cutoff. -/
structure Observation.PointInTime (cutoff : Instant) (o : Observation) : Prop where
  published : o.publishedAt ≠ "" → (parseTime o.publishedAt).nanos ≤ (parseTime o.observedAt).nanos
  observed : (parseTime o.observedAt).nanos ≤ (parseTime o.availableAt).nanos
  available : (parseTime o.availableAt).nanos ≤ cutoff.nanos

/-- A correction names an original of the partition that was available strictly before it. -/
def Observation.CorrectsIn (observations : List Observation) (o : Observation) : Prop :=
  o.correctionOf ≠ "" → ∃ original ∈ observations, original.sourceKey = o.correctionOf ∧ original.correctionOf = "" ∧
    (parseTime original.availableAt).nanos < (parseTime o.availableAt).nanos

theorem record_pointInTime {o : ObservationInput} (timed : o.Timed cutoff) (dated : o.Dated) (sequence : Nat) :
    (o.record sequence).PointInTime cutoff := by
  have observed := record_observed timed dated sequence
  have available := record_available timed dated sequence
  refine ⟨fun isPublished => ?_, by rw [observed, available]; exact timed.observedFirst,
    by rw [available]; exact timed.availableFirst⟩
  cases given : o.publishedAt with
  | none =>
    apply absurd _ isPublished
    change (o.publishedAt.map formatTime).getD "" = ""
    rw [given]
    rfl
  | some publishedAt =>
    have text : (o.record sequence).publishedAt = formatTime publishedAt := by
      change (o.publishedAt.map formatTime).getD "" = _
      rw [given]
      rfl
    rw [text, parseTime_formatTime (timed.published publishedAt given) (dated.published publishedAt given), observed]
    exact timed.publishedFirst publishedAt given

theorem normalizePartition_observations (normal : normalizePartition sequence p cutoff = .ok partition)
    (dated : ∀ o ∈ p.observations, o.Dated) :
    ∀ o ∈ partition.observations, o.PointInTime cutoff ∧ o.CorrectsIn partition.observations := by
  simp only [normalizePartition, returns_iff] at normal
  obtain ⟨_, rows, added, rfl⟩ := normal
  intro row member
  obtain ⟨o, inside, before, after, split, isAdded⟩ := exists_left_of_mem (addObservations_ok added) member
  have isDated : o.Dated := dated o ((perm_sortedBy _ p.observations).mem_iff.mp inside)
  obtain rfl := isAdded.record
  refine ⟨record_pointInTime isAdded.timed isDated _, fun isCorrection => ?_⟩
  -- The original stands among the observations before the correction.
  obtain ⟨original, earlier, names, plain, sooner⟩ := isAdded.corrects isCorrection
  refine ⟨original, ?_, names, plain, by rw [record_available isAdded.timed isDated]; exact sooner⟩
  change original ∈ rows
  rw [split]
  exact List.mem_append_left _ earlier

/-- An accepted manifest does not depend on the order of its input, is restored from its bytes,
and holds only evidence that was available at the cutoff. -/
theorem manifest_canonical {input : ManifestInput} {manifest : Manifest} (made : newManifest input = .ok manifest)
    (dated : input.Dated) :
    (∀ other, input.Reordered other → newManifest other = .ok manifest) ∧
    (manifest.id ≠ Uuid.nil → manifestFromCanonical manifest.id manifest.digest manifest.bytes = .ok manifest) ∧
    ∀ p ∈ manifest.canonical.partitions, ∀ o ∈ p.observations,
      o.PointInTime (parseTime manifest.canonical.decisionCutoff) ∧ o.CorrectsIn p.observations := by
  refine ⟨fun other reordered => newManifest_reordered made reordered, manifestFromCanonical_restores made dated, ?_⟩
  obtain ⟨cutoff, _, rows, each, _, rfl⟩ := newManifest_ok made
  have time : parseTime (formatTime input.decisionCutoff) = input.decisionCutoff := parseTime_formatTime cutoff dated.cutoff
  change ∀ p ∈ rows.map Prod.snd, ∀ o ∈ p.observations, o.PointInTime (parseTime (formatTime input.decisionCutoff)) ∧ _
  rw [time]
  intro partition member
  obtain ⟨row, inRows, rfl⟩ := List.mem_map.mp member
  obtain ⟨p, inside, _, _, _, placed⟩ := exists_left_of_mem each inRows
  exact normalizePartition_observations placed.normal
    (dated.observations p ((perm_sortedBy _ input.partitions).mem_iff.mp inside))

/-! An original and its correction. -/

def sampleTime (seconds : Int) : Instant := ⟨(63902822400 + seconds) * 1000000000, true⟩

def sampleObservation (revision correctionOf : String) (seconds : Int) : ObservationInput where
  sourceKey := "bar"
  instrumentID := Uuid.nil
  effectiveAt := sampleTime 0
  publishedAt := some (sampleTime 0)
  observedAt := sampleTime 0
  availableAt := sampleTime seconds
  revision := revision
  correctionOf := correctionOf
  contentSHA256 := "0000000000000000000000000000000000000000000000000000000000000000"
  bid := none
  ask := none
  volume := some "10"
  depth := none

def sampleObservations : List ObservationInput := [sampleObservation "1" "" 1, sampleObservation "2" "bar" 2]

def sampleRows : List Observation := [(sampleObservation "1" "" 1).record 0, (sampleObservation "2" "bar" 2).record 1]

def samplePartition (observations : List ObservationInput) : PartitionInput where
  kind := .bars
  provider := "p"
  source := "s"
  ns := "n"
  requestSHA256 := "0000000000000000000000000000000000000000000000000000000000000000"
  mediaType := "m"
  symbologyVersion := "v"
  adjustmentPolicy := "a"
  timezone := "UTC"
  calendar := "c"
  revision := "1"
  supersedesContentSHA256 := ""
  license := "l"
  retentionPolicy := "r"
  observations := observations

def sampleInput : ManifestInput := ⟨sampleTime 3, [samplePartition sampleObservations]⟩

def sampleRecord : Partition where
  sequence := 0
  kind := .bars
  provider := "p"
  source := "s"
  ns := "n"
  requestSHA256 := "0000000000000000000000000000000000000000000000000000000000000000"
  contentSHA256 := "375e6093418e8184ad75c7d95f1645acec630051d6b4154aa99bda48e26c99d9"
  mediaType := "m"
  effective := span (sampleRows.map Observation.effectiveAt)
  observed := span (sampleRows.map Observation.observedAt)
  available := span (sampleRows.map Observation.availableAt)
  symbologyVersion := "v"
  adjustmentPolicy := "a"
  timezone := "UTC"
  calendar := "c"
  revision := "1"
  supersedesContentSHA256 := ""
  rowCount := 2
  license := "l"
  retentionPolicy := "r"
  observations := sampleRows

def sampleManifest : Manifest := .ofCanonical (.ofPartitions (sampleTime 3) [sampleRecord])

theorem sampleManifest_made : newManifest sampleInput = .ok sampleManifest := by
  have evaluated : ((newManifest sampleInput).toOption.any fun manifest =>
      manifest.canonical == .ofPartitions (sampleTime 3) [sampleRecord]) = true := by
    decide +kernel
  obtain ⟨manifest, made, same⟩ := ok_of_evaluated evaluated
  obtain ⟨_, _, rows, _, _, rfl⟩ := newManifest_ok made
  rw [made, sampleManifest, ← eq_of_beq same]
  rfl

theorem sampleManifest_identified : sampleManifest.id ≠ Uuid.nil := by
  refine ne_of_beq_false ?_
  decide +kernel

theorem sampleInput_dated : sampleInput.Dated := by
  obtain ⟨at0, at1, at2, at3⟩ : Dated (sampleTime 0) ∧ Dated (sampleTime 1) ∧ Dated (sampleTime 2) ∧
      Dated (sampleTime 3) := by
    unfold Dated
    decide
  refine ⟨at3, ?_⟩
  simp only [sampleInput, samplePartition, sampleObservations, List.forall_mem_cons, List.not_mem_nil]
  have published : ∀ publishedAt, some (sampleTime 0) = some publishedAt → Dated publishedAt := by
    rintro _ ⟨⟩
    exact at0
  simp only [false_implies, implies_true, and_true]
  exact ⟨⟨at0, published, at0, at1⟩, at0, published, at0, at2⟩

theorem manifest_canonical_sample :
    newManifest ⟨sampleTime 3, [samplePartition sampleObservations.reverse]⟩ = .ok sampleManifest ∧
    manifestFromCanonical sampleManifest.id sampleManifest.digest sampleManifest.bytes = .ok sampleManifest ∧
    ∀ p ∈ sampleManifest.canonical.partitions, ∀ o ∈ p.observations,
      o.PointInTime (parseTime sampleManifest.canonical.decisionCutoff) ∧ o.CorrectsIn p.observations := by
  obtain ⟨reordered, restored, pointInTime⟩ := manifest_canonical sampleManifest_made sampleInput_dated
  refine ⟨reordered _ ⟨rfl, _, ?_, .refl _⟩, restored sampleManifest_identified, pointInTime⟩
  exact .cons ⟨sampleObservations.reverse_perm.symm, rfl⟩ .nil

end Augr.Dataset
