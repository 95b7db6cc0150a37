import Augr.Capital.State
import Augr.Foundation.Scan
import Augr.Foundation.Spelling
import Augr.Ledger.Matching

/-! Where the totals of a capital state come from.

A derived state carries totals computed from the projection. A restored state carries whatever
totals its bytes spell: restoring checks the bytes against themselves, so it keeps the totals of
a state that was derived and accepts any others.
-/

set_option autoImplicit false

namespace Augr.Capital

open Foundation Ledger Json

/-- The market value is what is long less what is short. -/
def Exposure.Balanced (exposure : Exposure) : Prop :=
  exposure.marketValue.toRat = exposure.long.toRat - exposure.short.toRat

theorem Exposure.add_balanced {instruments : List Instrument} {sofar next : Exposure}
    {row : (ProjectionPosition × PayloadPosition) × Nat} (ok : Exposure.add instruments sofar row = .ok next)
    (balanced : sofar.Balanced) : next.Balanced := by
  simp only [Exposure.add, failIf_bind_ok_iff] at ok
  obtain ⟨-, -, -, -, ok⟩ := ok
  rw [Balanced] at balanced
  split at ok
  · simp only [failIf_bind_ok_iff, Bool.not_eq_false', Decimal.isZero_iff, pure_ok_iff] at ok
    obtain ⟨closed, rfl⟩ := ok
    simp only [Balanced, Decimal.toRat_add, closed, balanced, add_zero]
  · simp only [failIf_bind_ok_iff, pure_ok_iff] at ok
    obtain ⟨-, -, rfl⟩ := ok
    split
    · simp only [Balanced, Decimal.toRat_add, balanced]
      ring
    · rename_i notLong
      split
      · rename_i short
        simp only [Decimal.isNegative_iff] at short
        simp only [Balanced, Decimal.toRat_add, Decimal.toRat_abs, balanced, abs_of_neg short]
        ring
      · rename_i notShort
        simp only [Decimal.isPositive_iff, Decimal.isNegative_iff, not_lt] at notLong notShort
        simp only [Balanced, Decimal.toRat_add, balanced, le_antisymm notLong notShort, add_zero]

/-- The maintenance of the profile, rounded up to the scale; none without a limit. -/
def requiredMaintenance (profile : Profile) (scale : Nat) (long short : ℚ) : ℚ :=
  if profile.unlimited then 0
  else (⌈(long * profile.maintenanceLong.toRat + short * profile.maintenanceShort.toRat) * 10 ^ scale⌉ : ℚ) / 10 ^ scale

/-- Equity and maintenance are what cash and exposure make them. -/
structure State.Derived (binding : Binding) (policy : Option Policy) (s : State) : Prop where
  equity : s.equity.toRat = s.cash.toRat + s.longExposure.toRat - s.shortExposure.toRat
  maintenance : ∃ profile, Policy.profileOf policy binding.profile = some profile ∧
    s.maintenanceRequirement.toRat =
      requiredMaintenance profile (Policy.scaleOf policy) s.longExposure.toRat s.shortExposure.toRat

theorem toRat_maintenanceOf (profile : Profile) (scale : Nat) (long short : Decimal) :
    (maintenanceOf profile scale long short).toRat = requiredMaintenance profile scale long.toRat short.toRat := by
  unfold maintenanceOf requiredMaintenance
  split
  · exact Decimal.toRat_zero
  · rw [eq_div_iff (by positivity), roundCapitalUp, Decimal.toRat_roundCeil, Decimal.toRat_add, Decimal.toRat_mul,
      Decimal.toRat_mul]

/-- The bytes of a returned state spell its own fields. -/
def State.Spelt (s : State) : Prop := s.canonicalBytes = s.canonical.marshal

theorem State.sealed_spelt (s : State) : s.sealed.Spelt := rfl

section
variable {account : Account} {binding : Binding} {policy : Option Policy}

theorem stateFromProjection_derived {projection : Option PortfolioProjection} {instruments : List Instrument} {s : State}
    (ok : stateFromProjection account binding policy projection instruments = .ok s) :
    s.Derived binding policy ∧ s.Spelt := by
  simp only [stateFromProjection, returns_iff] at ok
  obtain ⟨-, p, -, -, -, -, payload, -, -, references, -, exposure, summed, -, totals, profile, found, -, rfl⟩ := ok
  refine ⟨⟨?_, profile, found, toRat_maintenanceOf _ _ _ _⟩, State.sealed_spelt _⟩
  have balanced := foldlM_preserves Exposure.Balanced (fun _ _ _ held step => Exposure.add_balanced step held)
    (by simp [Exposure.Balanced, Exposure.none]) summed
  simp only [Bool.or_eq_false_iff, Bool.not_eq_false', Decimal.equal_iff, Decimal.toRat_add] at totals
  rw [Exposure.Balanced, totals.1] at balanced
  change p.totals.equity.toRat = p.totals.cash.toRat + exposure.long.toRat - exposure.short.toRat
  rw [totals.2, balanced, add_sub_assoc]

theorem CanonicalState.marshal_injective : Function.Injective CanonicalState.marshal := by
  intro left right same
  have fields : left.fields = right.fields := texts_inj rfl same
  cases left
  cases right
  simpa [CanonicalState.fields] using fields

theorem stateFromCanonical_spelt {id : Uuid} {digest : String} {raw : RawMessage} {s : State}
    (ok : stateFromCanonical id digest raw account binding policy = .ok s) : s.canonicalBytes = raw ∧ s.Spelt := by
  simp only [stateFromCanonical, returns_iff, Bool.or_eq_false_iff, bne_eq_false_iff_eq] at ok
  obtain ⟨-, canonical, -, draft, -, ⟨-, same⟩, -, rfl⟩ := ok
  exact ⟨same, State.sealed_spelt draft⟩

/-- States with the same bytes have the same amounts. -/
theorem State.Derived.of_bytes {s t : State} (derived : t.Derived binding policy) (first : t.Spelt) (second : s.Spelt)
    (same : s.canonicalBytes = t.canonicalBytes) : s.Derived binding policy := by
  have fields := CanonicalState.marshal_injective (second.symm.trans (same.trans first))
  have cash := (Decimal.toText_eq_iff _ _).mp (congrArg CanonicalState.cash fields)
  have equity := (Decimal.toText_eq_iff _ _).mp (congrArg CanonicalState.equity fields)
  have long := (Decimal.toText_eq_iff _ _).mp (congrArg CanonicalState.longExposure fields)
  have short := (Decimal.toText_eq_iff _ _).mp (congrArg CanonicalState.shortExposure fields)
  have maintenance := (Decimal.toText_eq_iff _ _).mp (congrArg CanonicalState.maintenanceRequirement fields)
  obtain ⟨profile, found, required⟩ := derived.maintenance
  refine ⟨?_, profile, found, ?_⟩
  · rw [cash, equity, long, short, derived.equity]
  · rw [maintenance, long, short, required]

end

inductive Call where
  | derive (projection : Option PortfolioProjection) (instruments : List Instrument)
  | restore (id : Uuid) (digest : String) (raw : RawMessage)

def Call.result (account : Account) (binding : Binding) (policy : Option Policy) : Call → Outcome State
  | .derive projection instruments => stateFromProjection account binding policy projection instruments
  | .restore id digest raw => stateFromCanonical id digest raw account binding policy

/-- The states returned so far, the latest first, by calls that each met the condition when made. -/
inductive Returned (account : Account) (binding : Binding) (policy : Option Policy) (meets : List State → Call → Prop) :
    List State → Prop where
  | start : Returned account binding policy meets []
  | call {states : List State} {c : Call} {s : State} (before : Returned account binding policy meets states)
      (condition : meets states c) (ok : c.result account binding policy = .ok s) :
      Returned account binding policy meets (s :: states)

/-- Only the bytes of a state that was returned before are restored. -/
def Call.KnownBytes (states : List State) : Call → Prop
  | .derive _ _ => True
  | .restore _ _ raw => ∃ t ∈ states, raw = t.canonicalBytes

theorem returned_spelt {account : Account} {binding : Binding} {policy : Option Policy} {states : List State}
    (run : Returned account binding policy Call.KnownBytes states) :
    ∀ s ∈ states, s.Derived binding policy ∧ s.Spelt := by
  induction run with
  | start => exact fun s member => absurd member List.not_mem_nil
  | @call states c s _ condition ok ih =>
    intro other member
    rcases List.mem_cons.mp member with rfl | earlier
    · cases c with
      | derive projection instruments => exact stateFromProjection_derived ok
      | restore id digest raw =>
        obtain ⟨t, known, rfl⟩ := condition
        obtain ⟨derived, spelt⟩ := ih t known
        obtain ⟨same, spelt'⟩ := stateFromCanonical_spelt ok
        exact ⟨derived.of_bytes spelt spelt' same, spelt'⟩
    · exact ih other earlier

/-- As long as only bytes of returned states are restored, every state carries derived totals. -/
theorem returned_derived {account : Account} {binding : Binding} {policy : Option Policy} {states : List State}
    (run : Returned account binding policy Call.KnownBytes states) {s : State} (member : s ∈ states) :
    s.equity.toRat = s.cash.toRat + s.longExposure.toRat - s.shortExposure.toRat ∧
      ∃ profile, Policy.profileOf policy binding.profile = some profile ∧
        s.maintenanceRequirement.toRat =
          requiredMaintenance profile (Policy.scaleOf policy) s.longExposure.toRat s.shortExposure.toRat := by
  obtain ⟨derived, _⟩ := returned_spelt run s member
  exact ⟨derived.equity, derived.maintenance⟩

/-! Digests are written out, so that evaluating the samples hashes each text once. -/

def samplePolicy : Policy where
  schema := policySchemaV1
  currency := "USD"
  scale := 12
  tiers := reviewedCapitalTiers
  profiles := reviewedProfiles
  canonicalBytes := canonicalPolicy policySchemaV1 "USD" 12 reviewedCapitalTiers reviewedProfiles
  digest := "16d0c2b000b5c5ab9c2a681273a10543119d70f4b1e8384fa5db88d554f5db57"
  version := "capital-margin-policy-v1@sha256:16d0c2b000b5c5ab9c2a681273a10543119d70f4b1e8384fa5db88d554f5db57"
  artifactID := ⟨[47, 2, 213, 179, 206, 154, 194, 183, 202, 32, 151, 243, 75, 20, 4, 69], rfl⟩

def sampleBinding : Binding where
  id := ⟨[207, 179, 171, 159, 123, 63, 71, 202, 207, 38, 154, 36, 21, 144, 137, 119], rfl⟩
  accountID := Uuid.ofByte 1
  policyArtifactID := samplePolicy.artifactID
  policyVersion := samplePolicy.version
  tier := .newFromInt 100000
  profile := .cash
  environment := .paperScored
  startingCapital := .newFromInt 100000
  buyingPowerMultiplier := .newFromInt 1
  evidenceClass := "promotion_evidence"
  storageNamespace := "paper_scored/one"
  currency := "USD"
  createdAt := ⟨2000000, true⟩

def samplePosition : ProjectionPosition where
  instrumentID := Uuid.ofByte 2
  isOpen := true
  quantity := .newFromInt 3
  remainingOpeningCash := .newFromInt (-30)
  realizedPnL := .zero
  marketValue := .newFromInt 36
  unrealizedPnL := .newFromInt 6
  markObservationID := Uuid.ofByte 9
  openLotCount := 1

/-- The fields of the payload that the derivation reads. -/
def samplePayloadBytes : Bytes :=
  encodeObject [
    ("checkpoint_id", quote "00000000-0000-0000-0000-000000000014"),
    ("account_id", quote "00000000-0000-0000-0000-000000000001"),
    ("base_currency", quote "USD"),
    ("as_of", quote "0001-01-01T00:00:00.008000Z"),
    ("positions", encodeArray [encodeObject [
      ("instrument_id", quote "00000000-0000-0000-0000-000000000002"),
      ("open", encodeBool true),
      ("quantity", quote "3"),
      ("market_value", quote "36")]]),
    ("totals", encodeTexts [("cash", "99970"), ("market_value", "36"), ("equity", "100006")])]

def sampleProjection : PortfolioProjection where
  checkpointID := Uuid.ofByte 20
  projectionType := portfolioProjectionType
  version := portfolioProjectionVersion
  fifo := projectionFIFO
  accountID := Uuid.ofByte 1
  baseCurrency := "USD"
  asOf := ⟨8000000, true⟩
  markSource := "alpaca"
  markNamespace := "marks"
  maxMarkAge := 1000
  throughTransactionID := Uuid.ofByte 21
  transactionCount := 1
  inputChecksum := "44136fa355b3678a1146ad16f7e8649e94fb4fc21fe77e8310c060f61caaff8a"
  outputChecksum := "df5716612b2141c527a35ef2b5ade1023ac1da34550323521473f0caf3c1d6a7"
  marks := []
  lots := []
  lotMatches := []
  positions := [samplePosition]
  totals :=
    { cash := .newFromInt 99970, netCapital := .newFromInt 100000, fees := .zero, rebates := .zero
      realizedPnL := .zero, unrealizedPnL := .newFromInt 6, marketValue := .newFromInt 36
      equity := .newFromInt 100006, totalPnL := .newFromInt 6 }
  payloadBytes := samplePayloadBytes

def sampleDraft : State where
  id := Uuid.nil
  accountID := Uuid.ofByte 1
  bindingID := sampleBinding.id
  policyVersion := samplePolicy.version
  projectionCheckpointID := Uuid.ofByte 20
  projectionChecksum := sampleProjection.outputChecksum
  asOf := ⟨8000000, true⟩
  currency := "USD"
  cash := .newFromInt 99970
  equity := .newFromInt 100006
  longExposure := ⟨36, 0⟩
  shortExposure := .zero
  grossExposure := ⟨36, 0⟩
  maintenanceRequirement := ⟨36, 0⟩
  canonicalBytes := []
  hash := ""

/-- The same state read from its bytes; zero is represented differently there. -/
def sampleRead : State := { sampleDraft with shortExposure := .unset }

/-- The same context with an equity that no cash or position stands behind. -/
def sampleAuthored : State :=
  { sampleDraft with
    cash := .newFromInt 1000
    equity := .newFromInt 5000000
    longExposure := .unset
    shortExposure := .unset
    grossExposure := .unset
    maintenanceRequirement := .unset }

def sampleState : State :=
  { sampleDraft with
    id := ⟨[195, 93, 4, 171, 207, 36, 148, 183, 10, 181, 25, 75, 230, 220, 102, 226], rfl⟩
    canonicalBytes := sampleDraft.canonical.marshal
    hash := "30b676df30919b18709aa61230b948e9afcb8bb820f51ee3052a601f89195b79" }

theorem samplePolicy_new : newPolicy reviewedPolicyV1Input = .ok samplePolicy := by
  refine ok_of_toOption (eq_of_beq ?_)
  decide +kernel

theorem sampleDraft_sealed : sampleDraft.sealed = sampleState := by
  refine eq_of_beq ?_
  decide +kernel

theorem sampleBinding_valid : sampleBinding.validate sampleAccount (some samplePolicy) = .ok () :=
  ok_of_toOption (by decide +kernel)

theorem sampleDraft_derived : stateFromProjection sampleAccount sampleBinding (some samplePolicy) (some sampleProjection)
    [sampleInstrument] = .ok sampleDraft.sealed := by
  rw [sampleDraft_sealed]
  refine ok_of_toOption (eq_of_beq ?_)
  decide +kernel

theorem sampleRead_restored : stateFromCanonical sampleDraft.sealed.id sampleDraft.sealed.hash
    sampleDraft.sealed.canonicalBytes sampleAccount sampleBinding (some samplePolicy) = .ok sampleRead.sealed := by
  have evaluated : ((stateFromCanonical sampleState.id sampleState.hash sampleState.canonicalBytes sampleAccount sampleBinding
      (some samplePolicy)).toOption == some { sampleState with shortExposure := .unset }) = true := by
    decide +kernel
  rw [sampleDraft_sealed, ok_of_toOption (eq_of_beq evaluated), ← sampleDraft_sealed]
  rfl

theorem returned_derived_restored :
    Returned sampleAccount sampleBinding (some samplePolicy) Call.KnownBytes [sampleRead.sealed, sampleDraft.sealed] ∧
      sampleRead.sealed.equity.toRat =
        sampleRead.sealed.cash.toRat + sampleRead.sealed.longExposure.toRat - sampleRead.sealed.shortExposure.toRat := by
  have derived : Returned sampleAccount sampleBinding (some samplePolicy) Call.KnownBytes [sampleDraft.sealed] :=
    .call (c := .derive (some sampleProjection) [sampleInstrument]) .start trivial sampleDraft_derived
  have restored : Returned sampleAccount sampleBinding (some samplePolicy) Call.KnownBytes
      [sampleRead.sealed, sampleDraft.sealed] :=
    .call (c := .restore _ _ sampleDraft.sealed.canonicalBytes) derived ⟨_, List.mem_cons_self, rfl⟩ sampleRead_restored
  exact ⟨restored, (returned_derived restored List.mem_cons_self).1⟩

/-- Bytes that a caller wrote are restored with the equity they claim. -/
theorem restored_equity_authored :
    newPolicy reviewedPolicyV1Input = .ok samplePolicy ∧
      newBinding sampleAccount (some samplePolicy) (.newFromInt 100000) .cash ⟨2000000, true⟩ sampleReading =
        .ok sampleBinding ∧
      ∃ s, (Call.restore sampleAuthored.sealed.id sampleAuthored.sealed.hash sampleAuthored.canonical.marshal).result
          sampleAccount sampleBinding (some samplePolicy) = .ok s ∧
        s.equity.toRat ≠ s.cash.toRat + s.longExposure.toRat - s.shortExposure.toRat := by
  refine ⟨samplePolicy_new, ?_, sampleAuthored.sealed, ?_, ?_⟩
  · refine ok_of_toOption (eq_of_beq ?_)
    decide +kernel
  · refine ok_of_toOption (eq_of_beq ?_)
    decide +kernel
  · change (Decimal.newFromInt 5000000).toRat ≠ (Decimal.newFromInt 1000).toRat + Decimal.unset.toRat - Decimal.unset.toRat
    simp only [Decimal.toRat_newFromInt, Decimal.toRat_unset]
    norm_num

end Augr.Capital
