import Augr.Dataset.Restore

/-! What an accepted manifest records of its input: the observations in their one order, each
with the times it was given, and every correction behind the original it names. -/

set_option autoImplicit false

namespace Augr.Dataset

open Foundation Text

theorem normalizeOptionalDecimal_ok {value result : Option String} {allowNegative : Bool}
    (normal : normalizeOptionalDecimal value allowNegative = .ok result) : result = value := by
  cases value with
  | none =>
    cases normal
    rfl
  | some text =>
    simp only [normalizeOptionalDecimal, returns_iff, Option.filter_eq_some_iff] at normal
    obtain ⟨_, parsed, ⟨_, own⟩, same⟩ := normal
    cases same
    simp only [Bool.not_or, Bool.and_eq_true, Bool.not_eq_true', bne_eq_false_iff_eq] at own
    rw [own.2]

def ObservationInput.record (input : ObservationInput) (sequence : Nat) : Observation where
  sequence := .ofNat sequence
  sourceKey := input.sourceKey
  instrumentID := if input.instrumentID = Uuid.nil then "" else input.instrumentID.toText
  effectiveAt := formatTime input.effectiveAt
  publishedAt := (input.publishedAt.map formatTime).getD ""
  observedAt := formatTime input.observedAt
  availableAt := formatTime input.availableAt
  revision := input.revision
  correctionOf := input.correctionOf
  contentSHA256 := input.contentSHA256
  bid := input.bid
  ask := input.ask
  volume := input.volume
  depth := input.depth

structure ObservationInput.Timed (input : ObservationInput) (cutoff : Instant) : Prop where
  effective : input.effectiveAt.isCanonical = true
  observed : input.observedAt.isCanonical = true
  available : input.availableAt.isCanonical = true
  published : ∀ publishedAt, input.publishedAt = some publishedAt → publishedAt.isCanonical = true
  publishedFirst : ∀ publishedAt, input.publishedAt = some publishedAt → publishedAt.nanos ≤ input.observedAt.nanos
  observedFirst : input.observedAt.nanos ≤ input.availableAt.nanos
  availableFirst : input.availableAt.nanos ≤ cutoff.nanos

theorem publication_ok {input : ObservationInput} {text : String} (published : publication input = .ok text) :
    text = (input.publishedAt.map formatTime).getD "" ∧
      ∀ publishedAt, input.publishedAt = some publishedAt →
        publishedAt.isCanonical = true ∧ publishedAt.nanos ≤ input.observedAt.nanos := by
  rw [publication] at published
  split at published
  · rename_i none
    cases published
    exact ⟨by rw [none]; rfl, fun _ some => by rw [none] at some; cases some⟩
  · rename_i publishedAt given
    rw [check_bind_ok_iff] at published
    obtain ⟨valid, same⟩ := published
    obtain rfl := Except.ok.inj same
    simp only [failIf_ok_iff, Bool.or_eq_false_iff, Bool.not_eq_false', Instant.after, decide_eq_false_iff_not, not_lt] at valid
    refine ⟨by rw [given]; rfl, fun other some => ?_⟩
    cases Option.some.inj (given.symm.trans some)
    exact valid

theorem normalizeObservation_ok {sequence : Nat} {input : ObservationInput} {cutoff : Instant} {observation : Observation}
    (normal : normalizeObservation sequence input cutoff = .ok observation) :
    observation = input.record sequence ∧ input.Timed cutoff := by
  simp only [normalizeObservation, returns_iff] at normal
  obtain ⟨placed, text, published, bid, isBid, ask, isAsk, _, _, volume, isVolume, depth, isDepth, same⟩ := normal
  cases same
  obtain ⟨rfl, times⟩ := publication_ok published
  rw [normalizeOptionalDecimal_ok isBid, normalizeOptionalDecimal_ok isAsk, normalizeOptionalDecimal_ok isVolume,
    normalizeOptionalDecimal_ok isDepth]
  simp only [ObservationInput.misplaced, Bool.or_eq_false_iff, Bool.not_eq_false', Instant.after, decide_eq_false_iff_not,
    not_lt] at placed
  obtain ⟨⟨⟨⟨⟨⟨_, _⟩, effective⟩, observed⟩, available⟩, observedFirst⟩, availableFirst⟩ := placed
  exact ⟨rfl, effective, observed, available, fun _ given => (times _ given).1, fun _ given => (times _ given).2,
    observedFirst, availableFirst⟩

structure Added (cutoff : Instant) (sofar : List Observation) (input : ObservationInput) (row : Observation) : Prop where
  record : row = input.record sofar.length
  timed : input.Timed cutoff
  fresh : ∀ earlier ∈ sofar, identity earlier.sourceKey earlier.revision ≠ identity input.sourceKey input.revision
  corrects : input.correctionOf ≠ "" → ∃ original ∈ sofar, original.sourceKey = input.correctionOf ∧
    original.correctionOf = "" ∧ (parseTime original.availableAt).nanos < input.availableAt.nanos

theorem correctable_ok {sofar : List Observation} {value : ObservationInput} (allowed : correctable sofar value = true) :
    ∃ original ∈ sofar, original.sourceKey = value.correctionOf ∧ original.correctionOf = "" ∧
      (parseTime original.availableAt).nanos < value.availableAt.nanos := by
  rw [correctable, Option.any_eq_true] at allowed
  obtain ⟨original, found, holds⟩ := allowed
  simp only [Instant.before, Bool.and_eq_true, beq_iff_eq, decide_eq_true_eq] at holds
  rw [latest] at found
  exact ⟨original, List.mem_reverse.mp (List.mem_of_find?_eq_some found), by simpa using List.find?_some found, holds⟩

theorem addObservation_ok {cutoff : Instant} {sofar next : List Observation} {value : ObservationInput}
    (added : addObservation cutoff sofar value = .ok next) :
    ∃ row, next = sofar ++ [row] ∧ Added cutoff sofar value row := by
  simp only [addObservation, returns_iff] at added
  obtain ⟨fresh, row, normal, corrects, same⟩ := added
  cases same
  obtain ⟨record, timed⟩ := normalizeObservation_ok normal
  refine ⟨row, rfl, record, timed, ?_, fun isCorrection => ?_⟩
  · simpa using fresh
  · apply correctable_ok
    simpa [isCorrection] using corrects

section
variable {cutoff : Instant} {values : List ObservationInput} {rows : List Observation}

theorem addObservations_ok (added : values.foldlM (addObservation cutoff) [] = .ok rows) :
    List.Forall₂ (fun value row => ∃ before after, rows = before ++ row :: after ∧ Added cutoff before value row)
      values rows := by
  obtain ⟨_, rfl, each⟩ := foldlM_appends (fun _ _ _ => addObservation_ok) added
  exact each

theorem identities_nodup (added : values.foldlM (addObservation cutoff) [] = .ok rows) :
    (values.map fun value => identity value.sourceKey value.revision).Nodup := by
  refine foldlM_keyed (fun row => identity row.sourceKey row.revision) (fun sofar value next passed => ?_) added
  obtain ⟨row, rfl, isAdded⟩ := addObservation_ok passed
  obtain rfl := isAdded.record
  exact ⟨_, rfl, rfl, isAdded.fresh⟩

end

theorem utf8_append (left right : String) : utf8 (left ++ right) = utf8 left ++ utf8 right := by
  simp [utf8]

theorem padded_chars {width : Nat} {value : Int} {c : Char} (member : c ∈ Instant.padded width value) :
    c = '-' ∨ c.isDigit = true := by
  simp only [Instant.padded, List.mem_append, List.mem_replicate] at member
  rcases member with (sign | ⟨_, rfl⟩) | digit
  · split at sign
    · exact Or.inl (List.mem_singleton.mp sign)
    · cases sign
  · exact Or.inr rfl
  · exact Or.inr (isDigit_toDigits digit)

theorem zero_notMem_digit {c : Char} (isDigit : c.isDigit = true) : (0 : UInt8) ∉ String.utf8EncodeChar c := by
  simp only [Char.isDigit, Bool.and_eq_true, decide_eq_true_eq, ge_iff_le, UInt32.le_iff_toNat_le] at isDigit
  obtain ⟨low, high⟩ := isDigit
  have ascii : c.val.toNat ≤ 0x7f := le_trans high (by decide)
  simp only [String.utf8EncodeChar, ascii, if_true, List.mem_singleton]
  intro zero
  have same := congrArg UInt8.toNat zero
  have above : 48 ≤ c.val.toNat := low
  rw [Json.toNat_byte (by omega)] at same
  have none : (0 : UInt8).toNat = 0 := rfl
  omega

theorem zero_notMem_format (t : Instant) : (0 : UInt8) ∉ utf8 (formatTime t) := by
  intro member
  rw [formatTime, Instant.format] at member
  dsimp only at member
  rw [utf8_ofList, List.mem_flatMap] at member
  obtain ⟨c, inside, zero⟩ := member
  have mark : c ∈ ['-', 'T', ':', '.', 'Z'] ∨ c.isDigit = true := by
    have part : ∀ {width : Nat} {value : Int}, c ∈ Instant.padded width value →
        c ∈ ['-', 'T', ':', '.', 'Z'] ∨ c.isDigit = true :=
    fun padded => (padded_chars padded).imp_left fun same => by simp [same]
    simp only [List.mem_append, List.mem_cons, List.not_mem_nil, or_false] at inside
    simp only [List.mem_cons, List.not_mem_nil, or_false] at part ⊢
    grind
  rcases mark with mark | digit
  · have table : ∀ c ∈ ['-', 'T', ':', '.', 'Z'], (0 : UInt8) ∉ String.utf8EncodeChar c := by
      intro c member
      have known := List.all_eq_true.mp
        (rfl : (['-', 'T', ':', '.', 'Z'].all fun c => !(String.utf8EncodeChar c).contains 0) = true) c member
      simpa using known
    exact table c mark zero
  · exact zero_notMem_digit digit zero

theorem identity_of_key {left right : ObservationInput} (same : observationInputKey left = observationInputKey right) :
    identity left.sourceKey left.revision = identity right.sourceKey right.revision := by
  have spelt : ∀ value : ObservationInput, utf8 (observationInputKey value) =
      utf8 (formatTime value.availableAt) ++ 0 :: (utf8 (formatTime value.effectiveAt) ++
        0 :: utf8 (identity value.sourceKey value.revision)) := by
    intro value
    have zero : utf8 "\x00" = [0] := by decide
    simp only [observationInputKey, identity, utf8_append, zero, List.append_assoc, List.cons_append,
      List.nil_append]
  have bytes := congrArg utf8 same
  rw [spelt left, spelt right] at bytes
  obtain ⟨_, rest⟩ := append_mark_inj (zero_notMem_format _) (zero_notMem_format _) bytes
  obtain ⟨_, identities⟩ := append_mark_inj (zero_notMem_format _) (zero_notMem_format _) rest
  exact utf8_injective identities

theorem sortedBy_sortedBy {α κ : Type} [LinearOrder κ] (key : α → κ) (rows : List α) :
    sortedBy key (sortedBy key rows) = sortedBy key rows := List.Pairwise.insertionSort_eq (pairwise_sortedBy key rows)

def PartitionInput.arranged (p : PartitionInput) : PartitionInput := { p with observations := sortObservations p.observations }

theorem invalid_arranged (p : PartitionInput) : p.arranged.invalid = p.invalid := by
  have empty : (sortObservations p.observations).isEmpty = p.observations.isEmpty :=
    (perm_sortedBy _ p.observations).isEmpty_eq
  simp only [PartitionInput.invalid, PartitionInput.arranged, empty]

theorem normalizePartition_arranged (sequence : Nat) (p : PartitionInput) (cutoff : Instant) :
    normalizePartition sequence p.arranged cutoff = normalizePartition sequence p cutoff := by
  have sorted : sortObservations p.arranged.observations = sortObservations p.observations := sortedBy_sortedBy _ _
  simp only [normalizePartition, invalid_arranged, sorted]
  rfl

theorem sortObservations_eq {sequence : Nat} {p : PartitionInput} {cutoff : Instant} {partition : Partition}
    (normal : normalizePartition sequence p cutoff = .ok partition) {others : List ObservationInput}
    (same : p.observations.Perm others) : sortObservations p.observations = sortObservations others := by
  obtain ⟨_, rows, added, _⟩ := by simpa only [normalizePartition, returns_iff] using normal
  have distinct : (p.observations.map fun value => identity value.sourceKey value.revision).Nodup :=
    ((perm_sortedBy _ p.observations).map _).nodup_iff.mp (identities_nodup added)
  apply sortedBy_eq_of_perm _ same
  intro left inLeft right inRight keys
  exact List.inj_on_of_nodup_map distinct inLeft inRight (identity_of_key (byteOrder_injective keys))

structure Placed (cutoff : Instant) (sofar : List (String × Partition)) (input : PartitionInput) (row : String × Partition) :
    Prop where
  key : row.1 = partitionInputKey input
  normal : normalizePartition sofar.length input cutoff = .ok row.2
  fresh : ∀ earlier ∈ sofar, earlier.1 ≠ row.1

theorem addPartition_ok {cutoff : Instant} {sofar next : List (String × Partition)} {value : PartitionInput}
    (added : addPartition cutoff sofar value = .ok next) : ∃ row, next = sofar ++ [row] ∧ Placed cutoff sofar value row := by
  simp only [addPartition, returns_iff] at added
  obtain ⟨fresh, partition, normal, same⟩ := added
  cases same
  exact ⟨_, rfl, rfl, normal, by simpa using fresh⟩

theorem addPartition_arranged (cutoff : Instant) (sofar : List (String × Partition)) (p : PartitionInput) :
    addPartition cutoff sofar p.arranged = addPartition cutoff sofar p := by
  simp only [addPartition, normalizePartition_arranged]
  rfl

section
variable {input : ManifestInput} {manifest : Manifest}

theorem newManifest_ok (made : newManifest input = .ok manifest) :
    input.decisionCutoff.isCanonical = true ∧ input.partitions.isEmpty = false ∧ ∃ rows : List (String × Partition),
      List.Forall₂ (fun value row => ∃ before after, rows = before ++ row :: after ∧ Placed input.decisionCutoff before value row)
        (sortPartitions input.partitions) rows ∧
      ((sortPartitions input.partitions).map partitionInputKey).Nodup ∧
      manifest = .ofCanonical (.ofPartitions input.decisionCutoff (rows.map Prod.snd)) := by
  simp only [newManifest, returns_iff, Bool.or_eq_false_iff, Bool.not_eq_false'] at made
  obtain ⟨⟨cutoff, some⟩, rows, added, rfl⟩ := made
  obtain ⟨_, rfl, each⟩ := foldlM_appends (fun _ _ _ => addPartition_ok) added
  refine ⟨cutoff, some, _, each, ?_, rfl⟩
  refine foldlM_keyed Prod.fst (fun sofar value next passed => ?_) added
  obtain ⟨row, rfl, placed⟩ := addPartition_ok passed
  exact ⟨row, rfl, placed.key, placed.fresh⟩

end

end Augr.Dataset
