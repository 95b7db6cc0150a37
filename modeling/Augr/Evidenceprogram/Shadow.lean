import Augr.Evidenceprogram.Readiness
import Mathlib.Data.List.ReduceOption

/-! What a shadow campaign needs to qualify.

The builder sorts the days by their place, skips every day that does not stand at its own place
and sums up the others in machine integers. Days of the same place are not told apart by the
sort, so that their order in the list shows in the assessment. -/

set_option autoImplicit false

namespace Augr.Evidenceprogram

open Foundation

variable {campaign : ShadowCampaign} {days : List (Option ShadowDay)}

def ShadowDay.sequence (d : ShadowDay) : Int := d.canonical.sequence.toInt

def RecordedFor (campaign : ShadowCampaign) (d : ShadowDay) : Prop :=
  ∃ input : ShadowDayInput, input.campaign = some campaign ∧ newShadowDay input = .ok d

/-- One day of the campaign for each place, and nothing else. -/
def Complete (campaign : ShadowCampaign) (days : List (Option ShadowDay)) : Prop :=
  ∃ observed : List ShadowDay, (observed.map some).Perm days ∧ (∀ d ∈ observed, RecordedFor campaign d) ∧
    observed.map ShadowDay.sequence = (List.range shadowTargetDays).map Int.ofNat

/-- The rows that the days of the list hold for a candidate. -/
def rowsOf (days : List (Option ShadowDay)) (key : String) : List ShadowCandidateDay :=
  (days.reduceOption.flatMap fun d => d.canonical.candidates).filter fun row => row.key == key

def total (count : ShadowCandidateDay → Int64) (rows : List ShadowCandidateDay) : Int :=
  (rows.map fun row => (count row).toInt).sum

open ShadowCandidateDay in
def counts : List (ShadowCandidateDay → Int64) := [criticalDefects, executableSamples, simulatedFills]

@[mk_iff]
structure Clear (rows : List ShadowCandidateDay) : Prop where
  sound : total ShadowCandidateDay.criticalDefects rows = 0
  executable : 0 < total ShadowCandidateDay.executableSamples rows
  filled : 0 < total ShadowCandidateDay.simulatedFills rows
  known : ∀ row ∈ rows, row.slippageKnown = true

def Sufficient (campaign : ShadowCampaign) (days : List (Option ShadowDay)) : Prop :=
  Complete campaign days ∧ ∀ candidate ∈ campaign.canonical.candidates, Clear (rowsOf days candidate.key)

/-- The days were recorded for this campaign or for others, and identities tell them apart. -/
structure Issued (campaign : ShadowCampaign) (days : List (Option ShadowDay)) : Prop where
  recorded : ∀ d, some d ∈ days → ∃ other, RecordedFor other d ∧
    (other.id = campaign.id → other.digest = campaign.digest → other = campaign)
  named : campaign.id ≠ Uuid.nil ∧ ∀ d, some d ∈ days → d.id ≠ Uuid.nil
  distinct : ∀ d e, some d ∈ days → some e ∈ days → d.id = e.id → d = e

section
variable {rows : List ShadowCandidateDay} {count : ShadowCandidateDay → Int64}

theorem total_nonneg (counted : ∀ row ∈ rows, 0 ≤ (count row).toInt) : 0 ≤ total count rows := by
  apply List.sum_nonneg
  simpa using counted

/-- A counter of the loop holds the total of what it counted, while the total is in its range. -/
theorem toInt_counted {field : Aggregate → Int64} (adds : ∀ sum row, field (sum.count row) = field sum + count row)
    {sum : Aggregate} (start : 0 ≤ (field sum).toInt) (counted : ∀ row ∈ rows, 0 ≤ (count row).toInt)
    (fits : (field sum).toInt + total count rows < 2 ^ 63) :
    (field (rows.foldl Aggregate.count sum)).toInt = (field sum).toInt + total count rows := by
  induction rows generalizing sum with
  | nil => simp [total]
  | cons row rest ih =>
    have first := counted row List.mem_cons_self
    have others := fun row member => counted row (List.mem_cons_of_mem _ member)
    have left := total_nonneg others
    have split : total count (row :: rest) = (count row).toInt + total count rest := by simp [total]
    have next : (field (sum.count row)).toInt = (field sum).toInt + (count row).toInt := by
      rw [adds, Int64.toInt_add]
      exact Int.bmod_eq_of_le (by omega) (by omega)
    rw [List.foldl_cons, ih (by omega) others (by omega), next, split]
    omega

theorem toInt_sum {field : Aggregate → Int64} (adds : ∀ sum row, field (sum.count row) = field sum + count row)
    (start : field .start = 0) (counted : ∀ row ∈ rows, 0 ≤ (count row).toInt) (fits : total count rows < 2 ^ 63) :
    (field (rows.foldl Aggregate.count .start)).toInt = total count rows := by
  have zero : (field .start).toInt = 0 := by rw [start]; rfl
  rw [toInt_counted adds zero.ge counted (by omega), zero, zero_add]

theorem known_counted (sum : Aggregate) :
    (rows.foldl Aggregate.count sum).known = (sum.known && rows.all ShadowCandidateDay.slippageKnown) := by
  induction rows generalizing sum with
  | nil => simp
  | cons row rest ih => simp [ih, Aggregate.count, Bool.and_assoc]

end

def placed (campaign : ShadowCampaign) (entry : Option ShadowDay × Nat) : Option ShadowDay :=
  entry.1.filter fun day =>
    day.canonical.campaignID == campaign.id && day.canonical.campaignSHA256 == campaign.digest &&
      day.canonical.sequence.toInt == (entry.2 : Int)

/-- The day that the loop counts at each index of the sorted list, if any. -/
def marks (campaign : ShadowCampaign) (ordered : List (Option ShadowDay)) : List (Option ShadowDay) :=
  ordered.zipIdx.map (placed campaign)

/-- Where an entry stands at its own place, the loop counts the same day for every entry of that place. -/
def CountedAlike (campaign : ShadowCampaign) (days : List (Option ShadowDay)) : Prop :=
  ∀ entry ∈ (sortedBy sequenceOf days).zipIdx, sequenceOf entry.1 = entry.2 →
    ∀ other ∈ days, sequenceOf other = entry.2 → placed campaign (other, entry.2) = placed campaign entry

/-- The order of the list does not matter. -/
def OrderBlind (campaign : ShadowCampaign) (days : List (Option ShadowDay)) : Prop :=
  ∀ others : List (Option ShadowDay), others.Perm days →
    buildShadowAssessment (some campaign) others = buildShadowAssessment (some campaign) days

/-- The totals of complete evidence are machine integers. -/
def Fits (campaign : ShadowCampaign) (days : List (Option ShadowDay)) : Prop :=
  Complete campaign days → ∀ candidate ∈ campaign.canonical.candidates, ∀ count ∈ counts,
    total count (rowsOf days candidate.key) < 2 ^ 63

section
variable (sums : List (String × Aggregate))

def listed (row : ShadowCandidateDay) : Bool := sums.any fun entry => entry.1 == row.key

def summed (rows : List ShadowCandidateDay) : List (String × Aggregate) :=
  sums.map fun entry => (entry.1, (rows.filter fun row => row.key == entry.1).foldl Aggregate.count entry.2)

@[simp] theorem summed_nil : summed sums [] = sums := by simp [summed]

@[simp] theorem listed_summed (rows : List ShadowCandidateDay) : listed (summed sums rows) = listed sums := by
  funext row
  simp [listed, summed, Function.comp_def]

@[simp] theorem summed_summed (rows others : List ShadowCandidateDay) :
    summed (summed sums rows) others = summed sums (rows ++ others) := by
  simp [summed]

end

theorem countCandidate_eq (gathered : Gathered) (row : ShadowCandidateDay) :
    gathered.countCandidate row =
      ⟨gathered.dailyComplete && listed gathered.aggregates row, summed gathered.aggregates [row], gathered.parents⟩ := by
  have single : summed gathered.aggregates [row] =
      gathered.aggregates.map fun entry => if entry.1 = row.key then (entry.1, entry.2.count row) else entry := by
    refine List.map_congr_left fun entry _ => ?_
    by_cases same : entry.1 = row.key
    · simp [same]
    · simp [same, Ne.symm same]
  rw [single, Gathered.countCandidate, ← listed]
  split
  · rename_i known
    simp [known]
  · rename_i unknown
    have untouched : ∀ entry ∈ gathered.aggregates, entry.1 ≠ row.key := fun entry member same =>
      unknown (List.any_eq_true.mpr ⟨entry, member, beq_iff_eq.mpr same⟩)
    rw [List.map_congr_left fun entry member => if_neg (untouched entry member)]
    simp [unknown]

theorem foldl_countCandidate (gathered : Gathered) (rows : List ShadowCandidateDay) :
    rows.foldl Gathered.countCandidate gathered =
      ⟨gathered.dailyComplete && rows.all (listed gathered.aggregates), summed gathered.aggregates rows,
        gathered.parents⟩ := by
  induction rows generalizing gathered with
  | nil => simp
  | cons row rest ih =>
    rw [List.foldl_cons, countCandidate_eq, ih]
    simp [Bool.and_assoc]

/-- The loop over the days: those at their own place are counted, any other entry leaves a gap. -/
theorem foldl_countDay (gathered : Gathered) (entries : List (Option ShadowDay × Nat)) :
    entries.foldl (Gathered.countDay campaign) gathered =
      let counted := entries.filterMap (placed campaign)
      let rows := counted.flatMap fun day => day.canonical.candidates
      ⟨gathered.dailyComplete && (entries.all fun entry => (placed campaign entry).isSome) &&
        rows.all (listed gathered.aggregates), summed gathered.aggregates rows,
        gathered.parents ++ counted.map ShadowDay.reference⟩ := by
  induction entries generalizing gathered with
  | nil => simp
  | cons entry rest ih =>
    rw [List.foldl_cons, ih, Gathered.countDay, ← placed]
    cases here : placed campaign entry with
    | none => simp [here]
    | some day => simp [here, foldl_countCandidate, Bool.and_assoc, Bool.and_left_comm]

theorem gather_eq (ordered : List (Option ShadowDay)) :
    gather campaign ordered =
      let counted := (marks campaign ordered).reduceOption
      let rows := counted.flatMap fun day => day.canonical.candidates
      let sums := campaign.canonical.candidates.map fun candidate => (candidate.key, .start)
      ⟨(marks campaign ordered).length == shadowTargetDays && (marks campaign ordered).all Option.isSome &&
        rows.all (listed sums), summed sums rows, campaign.reference :: counted.map ShadowDay.reference⟩ := by
  rw [gather, foldl_countDay]
  simp [marks, List.reduceOption, List.filterMap_map, List.all_map, Function.comp_def]

theorem validateRef_digest {kind : String} {id : Uuid} {bytes : Bytes} (key : validKey kind = true) (named : id ≠ Uuid.nil) :
    validateRef ⟨kind, id, sha256Hex bytes⟩ = .ok () := by
  have read : hexBytes (Text.utf8 (sha256Hex bytes)) = some (Sha256.sum bytes) := by
    rw [sha256Hex, Text.utf8_ofList]
    exact hexBytes_hexText _
  simp [validateRef, key, named, byteLength_sha256Hex, read]

structure CampaignFacts (campaign : ShadowCampaign) : Prop where
  several : 2 ≤ campaign.canonical.candidates.length
  keyed : ∀ candidate ∈ campaign.canonical.candidates, validKey candidate.key = true
  distinct : (campaign.canonical.candidates.map ShadowCandidate.key).Nodup
  hashed : ∃ bytes, campaign.digest = sha256Hex bytes

/-- Each candidate is compared with the one before it, and the candidates are sorted by their keys. -/
theorem checkShadowCandidate_walk {previous : Option ShadowCandidate} {versions : List Uuid}
    {candidates : List ShadowCandidate} {walk : CandidateWalk}
    (ok : candidates.foldlM checkShadowCandidate ⟨previous, versions⟩ = .ok walk)
    (sorted : (previous.toList ++ candidates).Pairwise fun left right => ¬ byteOrder right.key < byteOrder left.key) :
    (∀ candidate ∈ candidates, validKey candidate.key = true) ∧
      Ascending (fun candidate => byteOrder candidate.key) (previous.toList ++ candidates) := by
  induction candidates generalizing previous versions with
  | nil => cases previous <;> simp [Ascending]
  | cons candidate rest ih =>
    simp only [List.foldlM_cons, checkShadowCandidate, returns_iff, Bool.or_eq_false_iff, Bool.not_eq_false'] at ok
    obtain ⟨_, ⟨valid, _, fresh, _, rfl⟩, ok⟩ := ok
    have step := sorted.sublist (List.sublist_append_right previous.toList _)
    obtain ⟨keyed, chain⟩ := ih ok step
    refine ⟨List.forall_mem_cons.mpr ⟨valid.1.1, keyed⟩, ?_⟩
    cases previous with
    | none => exact chain
    | some before =>
      have ordered := (List.pairwise_cons.mp sorted).1 candidate List.mem_cons_self
      refine List.IsChain.cons_cons (lt_of_le_of_ne (not_lt.mp ordered) fun same => ?_) chain
      simp [byteOrder_injective same] at fresh

theorem newShadowCampaign_ok {input : ShadowCampaignInput} (made : newShadowCampaign input = .ok campaign) :
    CampaignFacts campaign := by
  simp only [newShadowCampaign, returns_iff, Bool.or_eq_false_iff, decide_eq_false_iff_not, not_lt] at made
  obtain ⟨_, _, _, ⟨several, _⟩, walk, walked, rfl⟩ := made
  obtain ⟨keyed, ascending⟩ := checkShadowCandidate_walk walked (pairwise_sortedBy _ _)
  refine ⟨several, keyed, List.pairwise_map.mpr (ascending.pairwise.imp fun less same => ?_), _, rfl⟩
  exact absurd less (by rw [same]; exact lt_irrefl _)

structure DayFacts (campaign : ShadowCampaign) (d : ShadowDay) : Prop where
  placed : d.canonical.campaignID = campaign.id ∧ d.canonical.campaignSHA256 = campaign.digest
  listed : ∀ row ∈ d.canonical.candidates, ∃ candidate ∈ campaign.canonical.candidates, row.key = candidate.key
  counted : ∀ row ∈ d.canonical.candidates, ∀ count ∈ counts, 0 ≤ (count row).toInt
  dated : d.sequence = 0 → campaign.startedAt.isZero = false ∧ campaign.startedAt.nanos % 1000 = 0
  hashed : ∃ bytes, d.digest = sha256Hex bytes

theorem newShadowDay_ok {d : ShadowDay} (recorded : RecordedFor campaign d) : DayFacts campaign d := by
  obtain ⟨input, given, made⟩ := recorded
  simp only [newShadowDay, given, returns_iff, Option.filter_eq_some_iff, forEach_ok_iff] at made
  obtain ⟨_, ⟨same, envelope⟩, onDate, _, complete, checked, rfl⟩ := made
  cases same
  generalize sortedBy (fun c => byteOrder c.key) input.candidates = rows at complete checked ⊢
  have each : ∀ row ∈ rows, ∃ candidate ∈ campaign.canonical.candidates, checkCandidateDay candidate row = .ok () := by
    intro row member
    rw [← List.map_snd_zip (bne_eq_false_iff_eq.mp complete).le] at member
    obtain ⟨pair, inside, rfl⟩ := List.mem_map.mp member
    exact ⟨pair.1, (List.of_mem_zip inside).1, checked pair inside⟩
  simp only [checkCandidateDay, returns_iff, Bool.or_eq_false_iff, bne_eq_false_iff_eq, decide_eq_false_iff_not,
    Int64.lt_iff_toInt_lt, Int64.toInt_zero, not_lt] at each
  refine ⟨⟨rfl, rfl⟩, fun row member => ?_, fun row member => ?_, fun first => ?_, _, rfl⟩
  · obtain ⟨candidate, inside, passed, _⟩ := each row member
    exact ⟨candidate, inside, passed.1.1.1⟩
  · obtain ⟨candidate, _, passed, _⟩ := each row member
    simpa [counts] using And.intro passed.1.1.2 (And.intro passed.1.2 passed.2)
  · change input.sequence.toInt = 0 at first
    simp only [first, zero_mul, Instant.add, add_zero, Instant.equal, Bool.not_eq_false', beq_iff_eq, Instant.isCanonical,
      Instant.truncate, Instant.isZero, Bool.not_eq_true', Bool.or_eq_false_iff, Bool.and_eq_true] at onDate envelope ⊢
    simp only [beq_eq_false_iff_ne, ← onDate] at envelope ⊢
    refine ⟨envelope.2.1.1, ?_⟩
    omega

theorem placed_eq_some {entry : Option ShadowDay × Nat} {d : ShadowDay} :
    placed campaign entry = some d ↔
      entry.1 = some d ∧ d.canonical.campaignID = campaign.id ∧ d.canonical.campaignSHA256 = campaign.digest ∧
        d.sequence = Int.ofNat entry.2 := by
  simp [placed, Option.filter_eq_some_iff, ShadowDay.sequence, and_assoc]

theorem observed_of_placed {ordered : List (Option ShadowDay)} {first : Nat}
    (all : ∀ entry ∈ ordered.zipIdx first, (placed campaign entry).isSome = true) :
    ∃ observed : List ShadowDay, ordered = observed.map some ∧
      (∀ d ∈ observed, d.canonical.campaignID = campaign.id ∧ d.canonical.campaignSHA256 = campaign.digest) ∧
      observed.map ShadowDay.sequence = (List.range' first ordered.length).map Int.ofNat := by
  induction ordered generalizing first with
  | nil => exact ⟨[], rfl, by simp, rfl⟩
  | cons entry rest ih =>
    rw [List.zipIdx_cons, List.forall_mem_cons] at all
    obtain ⟨d, isPlaced⟩ := Option.isSome_iff_exists.mp all.1
    obtain ⟨here, id, digest, place⟩ := placed_eq_some.mp isPlaced
    obtain ⟨observed, rfl, own, places⟩ := ih all.2
    refine ⟨d :: observed, by simpa using here, List.forall_mem_cons.mpr ⟨⟨id, digest⟩, own⟩, ?_⟩
    simpa [List.range'_succ, place] using places

theorem placed_of_observed {observed : List ShadowDay} {first : Nat}
    (own : ∀ d ∈ observed, d.canonical.campaignID = campaign.id ∧ d.canonical.campaignSHA256 = campaign.digest)
    (places : observed.map ShadowDay.sequence = (List.range' first observed.length).map Int.ofNat) :
    ((observed.map some).zipIdx first).map (placed campaign) = observed.map some := by
  induction observed generalizing first with
  | nil => rfl
  | cons d rest ih =>
    rw [List.length_cons, List.range'_succ, List.map_cons, List.map_cons, List.cons.injEq] at places
    obtain ⟨id, digest⟩ := own d List.mem_cons_self
    have here : placed campaign (some d, first) = some d := placed_eq_some.mpr ⟨rfl, id, digest, places.1⟩
    simp only [List.map_cons, List.zipIdx_cons, here]
    rw [ih (fun d member => own d (List.mem_cons_of_mem _ member)) places.2]

theorem gather_complete {ordered : List (Option ShadowDay)} (complete : (gather campaign ordered).dailyComplete = true) :
    ordered.length = shadowTargetDays ∧ ∀ entry ∈ ordered.zipIdx, (placed campaign entry).isSome = true := by
  rw [gather_eq] at complete
  simp only [marks, Bool.and_eq_true, beq_iff_eq, List.all_eq_true, List.forall_mem_map, List.length_map,
    List.length_zipIdx] at complete
  exact complete.1

theorem rowsOf_map_some (observed : List ShadowDay) (key : String) :
    rowsOf (observed.map some) key =
      (observed.flatMap fun d => d.canonical.candidates).filter fun row => row.key == key := by
  simp [rowsOf, List.reduceOption, List.filterMap_map]

section
variable {observed : List ShadowDay} (facts : ∀ d ∈ observed, DayFacts campaign d)
  (places : observed.map ShadowDay.sequence = (List.range shadowTargetDays).map Int.ofNat)
include facts places

theorem gather_observed : gather campaign (observed.map some) =
    ⟨true, (campaign.canonical.candidates.map ShadowCandidate.key).map fun key =>
      (key, (rowsOf (observed.map some) key).foldl Aggregate.count .start),
      campaign.reference :: observed.map ShadowDay.reference⟩ := by
  have size : observed.length = shadowTargetDays := by simpa using congrArg List.length places
  have own : marks campaign (observed.map some) = observed.map some := placed_of_observed
    (fun d member => (facts d member).placed)
    (show _ = (List.range' 0 observed.length).map Int.ofNat by rw [size, ← List.range_eq_range']; exact places)
  have counted : (observed.map some).reduceOption = observed := by simp [List.reduceOption, List.filterMap_map]
  have known : (observed.flatMap fun d => d.canonical.candidates).all
      (listed (campaign.canonical.candidates.map fun candidate => (candidate.key, .start))) = true := by
    rw [List.all_eq_true]
    intro row member
    obtain ⟨d, inside, isRow⟩ := List.mem_flatMap.mp member
    obtain ⟨candidate, among, same⟩ := (facts d inside).listed row isRow
    exact List.any_eq_true.mpr ⟨_, List.mem_map_of_mem among, beq_iff_eq.mpr same.symm⟩
  rw [gather_eq]
  simp only [own, counted, known, List.length_map, size, summed, rowsOf_map_some, List.map_map, List.all_map]
  simp

end

theorem lookup_tabled {f : String → Aggregate} {keys : List String} {key : String} (member : key ∈ keys) :
    (keys.map fun key => (key, f key)).lookup key = some (f key) := by
  induction keys with
  | nil => cases member
  | cons first rest ih =>
    rw [List.map_cons, List.lookup_cons]
    by_cases same : key = first
    · simp [same]
    · simp [beq_eq_false_iff_ne.mpr same, ih (List.mem_of_ne_of_mem same member)]

theorem validDecimal_div (d e : Decimal) : validDecimal (d.div e).toText = true := by
  obtain ⟨⟨read, isRead, _⟩, trimmed⟩ := Decimal.newFromString_toText (d := d.div e) (by rw [Decimal.exp_div]; decide)
  have some : (d.div e).toText ≠ "" := by
    intro empty
    rw [empty] at isRead
    cases isRead
  simp [validDecimal, trimmed, some, isRead, Except.toOption]

/-- The candidate's line of the assessment, and what it says of the rows counted in it. -/
theorem candidateShadow_verdict {rows : List ShadowCandidateDay} {gathered : Gathered} {candidate : ShadowCandidate}
    (valid : validKey candidate.key = true)
    (found : gathered.aggregates.lookup candidate.key = some (rows.foldl Aggregate.count .start))
    (counted : ∀ row ∈ rows, ∀ count ∈ counts, 0 ≤ (count row).toInt) (fits : ∀ count ∈ counts, total count rows < 2 ^ 63) :
    (candidateShadow shadowTargetDays gathered candidate).invalid = false ∧
      ((candidateShadow shadowTargetDays gathered candidate).blockers = [] ↔ Clear rows) := by
  have each {count : ShadowCandidateDay → Int64} (listed : count ∈ counts) {field : Aggregate → Int64}
      (adds : ∀ sum row, field (sum.count row) = field sum + count row) (start : field .start = 0) :=
    And.intro (toInt_sum adds start (fun row member => counted row member count listed) (fits count listed))
      (total_nonneg fun row member => counted row member count listed)
  obtain ⟨critical, noCritical⟩ := each (by simp [counts]) (fun sum row => (rfl : (sum.count row).critical = _)) rfl
  obtain ⟨executable, noExecutable⟩ := each (by simp [counts]) (fun sum row => (rfl : (sum.count row).executable = _)) rfl
  obtain ⟨fills, noFills⟩ := each (by simp [counts]) (fun sum row => (rfl : (sum.count row).fills = _)) rfl
  have known := @known_counted rows .start
  generalize rows.foldl Aggregate.count .start = sum at found critical executable fills known
  have line : (gathered.aggregates.lookup candidate.key).getD .start = sum := by rw [found]; rfl
  simp only [candidateShadow, line]
  constructor
  · simp only [CandidateShadow.invalid, valid, Bool.not_true, Bool.false_or, Bool.or_eq_false_iff, decide_eq_false_iff_not,
      Int64.lt_iff_toInt_lt, critical, executable, fills, Int64.toInt_zero, not_lt]
    exact ⟨⟨⟨by decide, noCritical⟩, noExecutable⟩, noFills⟩
  · have slippage : (!sum.known || !validDecimal (if sum.known && decide (shadowTargetDays > 0) then
        (sum.divergence.div (.newFromInt shadowTargetDays)).toText else "")) = !sum.known := by
      cases sum.known with
      | false => rfl
      | true => simp [shadowTargetDays, validDecimal_div]
    simp only [CandidateShadow.blockers, List.append_eq_nil_iff, blocks_eq_nil, slippage, Bool.or_eq_false_iff,
      decide_eq_false_iff_not, beq_eq_false_iff_ne, ne_eq, ← Int64.toInt_inj, gt_iff_lt, Int64.lt_iff_toInt_lt, critical,
      executable, fills, Int64.toInt_zero]
    rw [known]
    constructor
    · rintro ⟨⟨⟨_, none⟩, someExecutable, someFills⟩, all⟩
      exact ⟨by omega, by omega, by omega, by simpa [Aggregate.start] using all⟩
    · intro clear
      have := clear.sound
      have := clear.executable
      have := clear.filled
      exact ⟨⟨⟨by decide, by omega⟩, by omega, by omega⟩, by simpa [Aggregate.start] using clear.known⟩

def EvidenceRef.name (ref : EvidenceRef) : String × Uuid := (ref.kind, ref.id)

theorem foldlM_checkParent {refs : List EvidenceRef} {previous : Option EvidenceRef}
    (valid : ∀ ref ∈ refs, validateRef ref = .ok ()) (distinct : ((previous.toList ++ refs).map EvidenceRef.name).Nodup) :
    ∃ last, refs.foldlM checkParent previous = .ok last := by
  induction refs generalizing previous with
  | nil => exact ⟨previous, rfl⟩
  | cons ref rest ih =>
    have fresh : (previous.any fun before => ref.kind == before.kind && ref.id == before.id) = false := by
      cases previous with
      | none => rfl
      | some before =>
        have other : ¬ (ref.kind = before.kind ∧ ref.id = before.id) := fun same => by
          simp [EvidenceRef.name, same.1, same.2] at distinct
        simpa using other
    obtain ⟨last, ok⟩ := @ih (some ref) (fun ref member => valid ref (List.mem_cons_of_mem _ member))
      (distinct.sublist (by simp))
    refine ⟨last, ?_⟩
    rw [List.foldlM_cons, checkParent, valid ref List.mem_cons_self, fresh]
    exact ok

theorem normalizeParents_of_distinct {values : List EvidenceRef} (valid : ∀ ref ∈ values, validateRef ref = .ok ())
    (distinct : (values.map EvidenceRef.name).Nodup) : ∃ parents, normalizeParents values = .ok parents := by
  have perm := perm_sortedBy EvidenceRef.rank values
  obtain ⟨last, ok⟩ := @foldlM_checkParent _ none (fun ref member => valid ref (perm.mem_iff.mp member))
    ((perm.map EvidenceRef.name).nodup_iff.mpr distinct)
  exact ⟨_, by rw [normalizeParents, ok]; rfl⟩

theorem assessShadow_qualified_iff (input : ShadowInput) :
    (∃ a, assessShadow input = .ok a ∧ a.outcome = .qualified) ↔
      (∃ parents, normalizeParents input.parents = .ok parents) ∧
      ((∀ c ∈ input.candidates, c.invalid = false) ∧ (input.candidates.map CandidateShadow.key).Nodup) ∧
      30 ≤ durationDays input.startedAt input.endedAt ∧ input.dailyComplete = true ∧ 2 ≤ input.candidates.length ∧
      ∀ c ∈ input.candidates, c.blockers = [] := by
  have perm := perm_sortedBy (fun c => byteOrder c.key) input.candidates
  have clear : input.blockers (sortedBy (fun c => byteOrder c.key) input.candidates) = [] ↔
      30 ≤ durationDays input.startedAt input.endedAt ∧ input.dailyComplete = true ∧ 2 ≤ input.candidates.length ∧
      ∀ c ∈ input.candidates, c.blockers = [] := by
    simp [ShadowInput.blockers, blocks_eq_nil, perm.length_eq, Nat.lt_iff_add_one_le]
  rw [← clear, ← (perm.map CandidateShadow.key).nodup_iff]
  simp only [assessShadow, returns_iff]
  constructor
  · rintro ⟨_, ⟨parents, normal, valid, rfl⟩, qualified⟩
    refine ⟨⟨parents, normal⟩, by simpa using valid, build_unblocked (by rw [qualified]; decide)⟩
  · rintro ⟨⟨parents, normal⟩, valid, unblocked⟩
    refine ⟨_, ⟨parents, normal, by simpa using valid, rfl⟩, ?_⟩
    change (if List.isEmpty _ then AssessmentOutcome.qualified else .held) = .qualified
    rw [unblocked]
    rfl

theorem rowsOf_perm {others : List (Option ShadowDay)} (perm : others.Perm days) (key : String) :
    (rowsOf others key).Perm (rowsOf days key) :=
  ((perm.filterMap id).flatMap_right _).filter _

theorem total_perm {rows others : List ShadowCandidateDay} (perm : rows.Perm others) (count : ShadowCandidateDay → Int64) :
    total count rows = total count others := (perm.map _).sum_eq

theorem Clear.of_perm {rows others : List ShadowCandidateDay} (perm : rows.Perm others) (clear : Clear rows) : Clear others where
  sound := total_perm perm _ ▸ clear.sound
  executable := total_perm perm _ ▸ clear.executable
  filled := total_perm perm _ ▸ clear.filled
  known row member := clear.known row (perm.mem_iff.mpr member)

section
variable {observed : List ShadowDay} (perm : (observed.map some).Perm days)
  (places : observed.map ShadowDay.sequence = (List.range shadowTargetDays).map Int.ofNat)
include perm places

theorem sortedBy_observed : sortedBy sequenceOf days = observed.map some := by
  have increasing : (observed.map ShadowDay.sequence).Pairwise (· < ·) := by
    rw [places]
    exact List.pairwise_map.mpr (List.pairwise_lt_range.imp Int.ofNat_lt.mpr)
  have ascending : Ascending sequenceOf (observed.map some) := by
    apply List.Pairwise.isChain
    rw [List.pairwise_map]
    exact List.pairwise_map.mp increasing
  have distinct : ((observed.map some).map sequenceOf).Nodup := by
    rw [List.map_map]
    exact increasing.imp ne_of_lt
  rw [← sortedBy_eq_of_perm sequenceOf perm fun left inLeft right inRight =>
    List.inj_on_of_nodup_map distinct inLeft inRight, ascending.sortedBy_eq]

variable (recorded : ∀ d ∈ observed, RecordedFor campaign d)
include recorded

omit perm in
theorem durationDays_observed :
    durationDays campaign.startedAt (campaign.startedAt.add (shadowTargetDays * day)) = 30 := by
  have first : (0 : Int) ∈ observed.map ShadowDay.sequence := by
    rw [places]
    decide
  obtain ⟨d, member, isFirst⟩ := List.mem_map.mp first
  obtain ⟨set, whole⟩ := (newShadowDay_ok (recorded d member)).dated isFirst
  have length : (shadowTargetDays : Int) * day = 2592000000000000 := by decide
  simp only [durationDays, set, Instant.add, Instant.after, Instant.sub, length, Bool.false_or]
  rw [if_neg (by simp; omega)]
  have within : max Instant.minDuration (min Instant.maxDuration
      (campaign.startedAt.nanos + 2592000000000000 - campaign.startedAt.nanos)) = 2592000000000000 := by
    rw [add_sub_cancel_left]
    decide
  rw [within]
  decide

variable (sound : CampaignFacts campaign)
include sound

theorem normalizeParents_observed (issued : Issued campaign days) :
    ∃ parents, normalizeParents (gather campaign (observed.map some)).parents = .ok parents := by
  rw [gather_observed (fun d member => newShadowDay_ok (recorded d member)) places]
  have listed : ∀ d ∈ observed, some d ∈ days := fun d member => perm.mem_iff.mp (List.mem_map_of_mem member)
  apply normalizeParents_of_distinct
  · refine List.forall_mem_cons.mpr ⟨?_, List.forall_mem_map.mpr fun d member => ?_⟩
    · obtain ⟨bytes, digest⟩ := sound.hashed
      rw [ShadowCampaign.reference, digest]
      exact validateRef_digest (by decide) issued.named.1
    · obtain ⟨bytes, digest⟩ := (newShadowDay_ok (recorded d member)).hashed
      rw [ShadowDay.reference, digest]
      exact validateRef_digest (by decide) (issued.named.2 d (listed d member))
  · have once : observed.Nodup := .of_map ShadowDay.sequence (by rw [places]; decide)
    rw [List.map_cons, List.map_map, List.nodup_cons]
    refine ⟨by simp [EvidenceRef.name, ShadowCampaign.reference, ShadowDay.reference], ?_⟩
    refine once.map_on fun d member e other same => ?_
    exact issued.distinct d e (listed d member) (listed e other) (Prod.ext_iff.mp same).2

variable (fits : ∀ candidate ∈ campaign.canonical.candidates, ∀ count ∈ counts,
  total count (rowsOf days candidate.key) < 2 ^ 63)
include fits

theorem candidateShadow_observed {candidate : ShadowCandidate} (member : candidate ∈ campaign.canonical.candidates) :
    (candidateShadow shadowTargetDays (gather campaign (observed.map some)) candidate).invalid = false ∧
      ((candidateShadow shadowTargetDays (gather campaign (observed.map some)) candidate).blockers = [] ↔
        Clear (rowsOf days candidate.key)) := by
  have facts := fun d member => newShadowDay_ok (recorded d member)
  have rows := rowsOf_perm perm candidate.key
  rw [← show Clear (rowsOf (observed.map some) candidate.key) ↔ _ from ⟨.of_perm rows, .of_perm rows.symm⟩]
  refine candidateShadow_verdict (sound.keyed candidate member) ?_ (fun row inside => ?_) fun count known => ?_
  · rw [gather_observed facts places]
    exact lookup_tabled (List.mem_map_of_mem member)
  · rw [rowsOf_map_some] at inside
    obtain ⟨d, isDay, isRow⟩ := List.mem_flatMap.mp (List.mem_filter.mp inside).1
    exact (facts d isDay).counted row isRow
  · rw [total_perm rows]
    exact fits candidate member count known

theorem qualified_of_observed (issued : Issued campaign days) :
    (∃ a, buildShadowAssessment (some campaign) days = .ok a ∧ a.outcome = .qualified) ↔
      ∀ candidate ∈ campaign.canonical.candidates, Clear (rowsOf days candidate.key) := by
  have size : observed.length = shadowTargetDays := by simpa using congrArg List.length places
  have normal := normalizeParents_observed perm places recorded sound issued
  have verdict {candidate : ShadowCandidate} (member : candidate ∈ campaign.canonical.candidates) :=
    candidateShadow_observed perm places recorded sound fits member
  have keys : ((campaign.canonical.candidates.map
      (candidateShadow shadowTargetDays (gather campaign (observed.map some)))).map CandidateShadow.key).Nodup := by
    rw [List.map_map]
    exact sound.distinct
  simp only [buildShadowAssessment, required, ok_bind, sortedBy_observed perm places]
  rw [assessShadow_qualified_iff]
  simp only [List.length_map, size, List.forall_mem_map, durationDays_observed places recorded, keys, normal, true_and]
  constructor
  · rintro ⟨_, _, _, _, clear⟩ candidate member
    exact (verdict member).2.mp (clear candidate member)
  · intro clear
    refine ⟨⟨fun candidate member => (verdict member).1, trivial⟩, le_refl _, ?_, sound.several,
      fun candidate member => (verdict member).2.mpr (clear candidate member)⟩
    rw [gather_observed (fun d member => newShadowDay_ok (recorded d member)) places]

end

section
variable {entry : Option ShadowDay × Nat} {d : ShadowDay} {left right : List (Option ShadowDay)} {a : Assessment}

theorem sequenceOf_placed (isPlaced : placed campaign entry = some d) : sequenceOf entry.1 = entry.2 := by
  obtain ⟨here, _, _, place⟩ := placed_eq_some.mp isPlaced
  rw [here]
  exact place

theorem marks_eq (keys : left.map sequenceOf = right.map sequenceOf)
    (alike : ∀ entry ∈ left.zipIdx, sequenceOf entry.1 = entry.2 →
      ∀ other ∈ right, sequenceOf other = entry.2 → placed campaign (other, entry.2) = placed campaign entry) :
    marks campaign left = marks campaign right := by
  have size : left.length = right.length := by simpa using congrArg List.length keys
  refine List.ext_getElem (by simp [marks, size]) fun index inLeft inRight => ?_
  simp only [marks, List.length_map, List.length_zipIdx] at inLeft inRight
  simp only [marks, List.getElem_map, List.getElem_zipIdx, zero_add]
  have same : sequenceOf left[index] = sequenceOf right[index] := by
    simpa [inLeft, inRight] using congrArg (fun list => list[index]?) keys
  by_cases own : sequenceOf left[index] = index
  · exact (alike (left[index], index) (by simp [List.mk_mem_zipIdx_iff_getElem?, inLeft]) own right[index]
      (List.getElem_mem _) (same ▸ own)).symm
  · have skipped (entry : Option ShadowDay) (other : sequenceOf entry ≠ index) : placed campaign (entry, index) = none :=
      Option.eq_none_iff_forall_ne_some.mpr fun d isPlaced => other (sequenceOf_placed isPlaced)
    rw [skipped _ own, skipped _ (same ▸ own)]

theorem build_of_alike (alike : CountedAlike campaign days) : OrderBlind campaign days := by
  intro others perm
  have keys : (sortedBy sequenceOf days).map sequenceOf = (sortedBy sequenceOf others).map sequenceOf := by
    refine (map_sortedBy sequenceOf id days).trans (Eq.trans ?_ (map_sortedBy sequenceOf id others).symm)
    exact sortedBy_eq_of_perm id (perm.map _).symm fun _ _ _ _ same => same
  have same : marks campaign (sortedBy sequenceOf days) = marks campaign (sortedBy sequenceOf others) :=
    marks_eq keys fun entry member own other listed =>
      alike entry member own other (perm.mem_iff.mp ((mem_sortedBy ..).mp listed))
  have size : (sortedBy sequenceOf others).length = (sortedBy sequenceOf days).length := by
    simpa using (congrArg List.length keys).symm
  simp only [buildShadowAssessment, required, ok_bind, gather_eq, same, size]

theorem parents_of_build (ok : buildShadowAssessment (some campaign) days = .ok a) :
    a.value.parents.Perm (campaign.reference ::
      (marks campaign (sortedBy sequenceOf days)).reduceOption.map ShadowDay.reference) := by
  simp only [buildShadowAssessment, required, ok_bind, assessShadow, normalizeParents, returns_iff, gather_eq] at ok
  obtain ⟨_, ⟨_, _, rfl⟩, _, rfl⟩ := ok
  exact perm_sortedBy _ _

/-- The references tell which days were counted, and a day is only ever counted at its own place. -/
theorem placed_of_references (issued : Issued campaign days) (inLeft : left ⊆ days) (inRight : right ⊆ days)
    (same : ((marks campaign left).reduceOption.map ShadowDay.reference).Perm
      ((marks campaign right).reduceOption.map ShadowDay.reference))
    (member : entry ∈ left.zipIdx) (isPlaced : placed campaign entry = some d) :
    ∃ other, right[entry.2]? = some other ∧ placed campaign (other, entry.2) = some d := by
  have counted : d ∈ (marks campaign left).reduceOption :=
    List.reduceOption_mem_iff.mpr (isPlaced ▸ List.mem_map_of_mem member)
  obtain ⟨e, alsoCounted, reference⟩ := List.mem_map.mp (same.mem_iff.mp (List.mem_map_of_mem counted))
  obtain ⟨⟨other, index⟩, there, isPlaced'⟩ := List.mem_map.mp (List.reduceOption_mem_iff.mp alsoCounted)
  obtain ⟨here, _, _, place⟩ := placed_eq_some.mp isPlaced
  obtain ⟨here', _, _, place'⟩ := placed_eq_some.mp isPlaced'
  have listed (list : List (Option ShadowDay)) {entry : Option ShadowDay × Nat} (member : entry ∈ list.zipIdx) :
      entry.1 ∈ list := List.fst_mem_of_mem_zipIdx member
  cases issued.distinct e d (inRight (here' ▸ listed right there)) (inLeft (here ▸ listed left member))
    (congrArg EvidenceRef.id reference)
  cases Int.ofNat.inj (place.symm.trans place')
  exact ⟨other, List.mk_mem_zipIdx_iff_getElem?.mp there, isPlaced'⟩

/-- Two entries of a place that is reached trade their places in the sorted list. -/
theorem alike_of_build (issued : Issued campaign days) (ok : buildShadowAssessment (some campaign) days = .ok a)
    (blind : OrderBlind campaign days) : CountedAlike campaign days := by
  intro entry member own other listed same
  have first := parents_of_build ok
  have sorted := perm_sortedBy sequenceOf days
  have ordered := pairwise_sortedBy sequenceOf days
  generalize sortedBy sequenceOf days = order at member first sorted ordered
  obtain ⟨inside, here⟩ := List.getElem?_eq_some_iff.mp (List.mem_zipIdx_iff_getElem?.mp member)
  obtain ⟨index, alsoInside, there⟩ := List.getElem_of_mem (sorted.mem_iff.mpr listed)
  have traded := (List.set_set_perm inside alsoInside).trans sorted
  have equal : sequenceOf order[index] = sequenceOf order[entry.2] := by rw [there, here, same, own]
  have keys : ((order.set entry.2 order[index]).set index order[entry.2]).map sequenceOf = order.map sequenceOf := by
    rw [List.map_set, List.map_set, equal, ← List.map_set, List.set_getElem_self, ← equal, ← List.map_set,
      List.set_getElem_self]
  have second := parents_of_build ((blind _ traded).trans ok)
  rw [sortedBy_of_keys ordered keys] at second
  have references := (first.symm.trans second).cons_inv
  by_cases apart : index = entry.2
  · subst apart
    rw [← there, here]
  · have found : ((order.set entry.2 order[index]).set index order[entry.2])[entry.2]? = some other := by
      rw [List.getElem?_set_ne apart, List.getElem?_set_self inside, there]
    refine Option.ext fun d => ⟨fun isPlaced => ?_, fun isPlaced => ?_⟩
    · obtain ⟨x, isX, placedX⟩ := placed_of_references issued traded.subset sorted.subset references.symm
        (List.mk_mem_zipIdx_iff_getElem?.mpr found) isPlaced
      cases Option.some.inj ((List.mem_zipIdx_iff_getElem?.mp member).symm.trans isX)
      exact placedX
    · obtain ⟨x, isX, placedX⟩ := placed_of_references issued sorted.subset traded.subset references member isPlaced
      cases Option.some.inj (found.symm.trans isX)
      exact placedX

end

/-- Where the totals of complete evidence are machine integers, the campaign qualifies exactly on complete
evidence, and the order of the list does not matter exactly where it does not choose the days that are counted. -/
theorem shadow_campaign_qualifies_iff {input : ShadowCampaignInput} {campaign : ShadowCampaign}
    {days : List (Option ShadowDay)} (made : newShadowCampaign input = .ok campaign) (issued : Issued campaign days) :
    (Fits campaign days →
      ((∃ a, buildShadowAssessment (some campaign) days = .ok a ∧ a.outcome = .qualified) ↔ Sufficient campaign days)) ∧
    (CountedAlike campaign days → OrderBlind campaign days) ∧
    ((∃ a, buildShadowAssessment (some campaign) days = .ok a) → OrderBlind campaign days →
      CountedAlike campaign days) := by
  have sound := newShadowCampaign_ok made
  refine ⟨fun fits => ⟨fun qualified => ?_, ?_⟩, build_of_alike, ?_⟩
  · -- The days that the loop counted are all the days there are.
    have complete := ((assessShadow_qualified_iff _).mp qualified).2.2.2.1
    obtain ⟨size, all⟩ := gather_complete complete
    obtain ⟨observed, ordered, own, places⟩ := observed_of_placed all
    have perm : (observed.map some).Perm days := ordered ▸ perm_sortedBy sequenceOf days
    have recorded : ∀ d ∈ observed, RecordedFor campaign d := by
      intro d member
      obtain ⟨other, isRecorded, same⟩ := issued.recorded d (perm.mem_iff.mp (List.mem_map_of_mem member))
      obtain ⟨id, digest⟩ := (newShadowDay_ok isRecorded).placed
      exact same (id.symm.trans (own d member).1) (digest.symm.trans (own d member).2) ▸ isRecorded
    rw [size, ← List.range_eq_range'] at places
    have complete : Complete campaign days := ⟨observed, perm, recorded, places⟩
    exact ⟨complete, (qualified_of_observed perm places recorded sound (fits complete) issued).mp qualified⟩
  · rintro ⟨complete, clear⟩
    obtain ⟨observed, perm, recorded, places⟩ := complete
    exact (qualified_of_observed perm places recorded sound (fits ⟨observed, perm, recorded, places⟩) issued).mpr clear
  · rintro ⟨a, ok⟩ blind
    exact alike_of_build issued ok blind

def sampleSource (byte : UInt8) (kind : String) : EvidenceRef := ⟨kind, Uuid.ofByte byte, shadowDigest⟩

def sampleCampaignInput : ShadowCampaignInput where
  key := "a"
  startedAt := sampleTime 0
  benchmark := sampleSource 1 "benchmark_opportunity_cost_report"
  candidates := [⟨"a", Uuid.ofByte 1, shadowDigest⟩, ⟨"b", Uuid.ofByte 2, shadowDigest⟩]

def sampleDayInput (campaign : ShadowCampaign) (sequence : Nat) (source : UInt8) : ShadowDayInput where
  campaign := some campaign
  sequence := .ofNat sequence
  observedAt := sampleTime sequence
  candidates := ["a", "b"].map fun key => ⟨key, 0, 1, 1, true, "0"⟩
  source := sampleSource source "capture"

/-- The campaign with a record of each of its days. -/
def sampleMonth : Outcome (ShadowCampaign × List ShadowDay) := do
  let campaign ← newShadowCampaign sampleCampaignInput
  pure (campaign, ← (List.range shadowTargetDays).mapM fun sequence => newShadowDay (sampleDayInput campaign sequence 1))

instance (rows : List ShadowCandidateDay) : Decidable (Clear rows) := decidable_of_iff _ (clear_iff rows).symm

theorem sampleMonth_evaluated : (sampleMonth.toOption.any fun (campaign, days) => decide (campaign.id ≠ Uuid.nil ∧
    (∀ d ∈ days, d.id ≠ Uuid.nil) ∧ (days.map ShadowDay.id).Nodup ∧
    days.map ShadowDay.sequence = (List.range shadowTargetDays).map Int.ofNat ∧
    ∀ candidate ∈ campaign.canonical.candidates, Clear (rowsOf (days.map some) candidate.key) ∧
      ∀ count ∈ counts, total count (rowsOf (days.map some) candidate.key) < 2 ^ 63)) = true := by
  decide +kernel

theorem alike_of_distinct (distinct : (days.map sequenceOf).Nodup) : CountedAlike campaign days := by
  intro entry member own other listed same
  have inside := (mem_sortedBy sequenceOf ..).mp (List.fst_mem_of_mem_zipIdx member)
  rw [List.inj_on_of_nodup_map distinct listed inside (same.trans own.symm)]

theorem sampleCampaign_qualifies_iff : ∃ campaign days, sampleMonth = .ok (campaign, days) ∧
    days.length = shadowTargetDays ∧
    (∃ a, buildShadowAssessment (some campaign) (days.map some) = .ok a ∧ a.outcome = .qualified) ∧
    buildShadowAssessment (some campaign) (days.map some).reverse =
      buildShadowAssessment (some campaign) (days.map some) := by
  obtain ⟨⟨campaign, days⟩, run, tested⟩ := ok_of_evaluated sampleMonth_evaluated
  obtain ⟨campaignNamed, dayNamed, once, places, sums⟩ := of_decide_eq_true tested
  refine ⟨campaign, days, run, by simpa using congrArg List.length places, ?_⟩
  simp only [sampleMonth, returns_iff, mapM_ok_iff, Prod.mk.injEq] at run
  obtain ⟨campaign, made, days, each, rfl, rfl⟩ := run
  have recorded : ∀ d ∈ days, RecordedFor campaign d := by
    intro d member
    obtain ⟨sequence, _, isDay⟩ := exists_left_of_mem each member
    exact ⟨_, rfl, isDay⟩
  have issued : Issued campaign (days.map some) := by
    refine ⟨fun d member => ?_, ⟨campaignNamed, fun d member => ?_⟩, fun d e inside other same => ?_⟩
    all_goals simp only [List.mem_map, Option.some.injEq, exists_eq_right] at *
    · exact ⟨campaign, recorded d member, fun _ _ => rfl⟩
    · exact dayNamed d member
    · exact List.inj_on_of_nodup_map once inside other same
  have distinct : ((days.map some).map sequenceOf).Nodup := by
    rw [List.map_map]
    change (days.map ShadowDay.sequence).Nodup
    rw [places]
    decide
  obtain ⟨exactly, same, _⟩ := shadow_campaign_qualifies_iff made issued
  refine ⟨(exactly fun _ candidate member => (sums candidate member).2).mpr ?_,
    same (alike_of_distinct distinct) _ (List.reverse_perm _)⟩
  exact ⟨⟨days, .refl _, recorded, places⟩, fun candidate member => (sums candidate member).1⟩

/-- The campaign, its first day, and the assessments of two records of that day in both orders. -/
def sampleRun : Outcome (ShadowCampaign × ShadowDay × ShadowDay × Assessment × Assessment) := do
  let campaign ← newShadowCampaign sampleCampaignInput
  let first ← newShadowDay (sampleDayInput campaign 0 1)
  let second ← newShadowDay (sampleDayInput campaign 0 2)
  let a ← buildShadowAssessment (some campaign) [some first, some second]
  let b ← buildShadowAssessment (some campaign) [some second, some first]
  pure (campaign, first, second, a, b)

theorem sampleRun_evaluated : (sampleRun.toOption.any fun (_, _, _, a, b) => a.id != b.id) = true := by
  decide +kernel

/-- Two records of the first day give different assessments in the two orders. -/
theorem day_order_changes_identity : ∃ campaign first second a b, newShadowCampaign sampleCampaignInput = .ok campaign ∧
    newShadowDay (sampleDayInput campaign 0 1) = .ok first ∧ newShadowDay (sampleDayInput campaign 0 2) = .ok second ∧
    buildShadowAssessment (some campaign) [some first, some second] = .ok a ∧
    buildShadowAssessment (some campaign) [some second, some first] = .ok b ∧ a.id ≠ b.id := by
  obtain ⟨_, run, tested⟩ := ok_of_evaluated sampleRun_evaluated
  simp only [sampleRun, returns_iff] at run
  obtain ⟨campaign, made, first, isFirst, second, isSecond, a, isA, b, isB, rfl⟩ := run
  exact ⟨campaign, first, second, a, b, made, isFirst, isSecond, isA, isB, bne_iff_ne.mp tested⟩

end Augr.Evidenceprogram
