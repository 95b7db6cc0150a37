import Augr.Account
import Augr.Foundation.DecimalText
import Augr.Foundation.Rounding
import Mathlib.Data.List.Sort

/-! The capital and margin policy, and the binding of an account to it.

Only the reviewed economics are accepted, so a policy value differs from the reviewed one at
most in how its decimals are represented. -/

set_option autoImplicit false

namespace Augr.Capital

open Foundation Json Text

def policySchemaV1 : String := "capital-margin-policy-v1"

def policyArtifactDomain : String := "capital-margin-policy-artifact"

/-- One exact simulation approximation of a margin profile. -/
structure Profile where
  name : MarginProfile
  (initialLong initialShort maintenanceLong maintenanceShort maximumGross cashReserve : Decimal)
  (allowShort unlimited : Bool)
  deriving DecidableEq

structure PolicyInput where
  (schema currency : String)
  scale : Int
  tiers : List Decimal
  profiles : List Profile

/-- The fields are private to the package: a policy comes from `newPolicy`. -/
structure Policy where
  (schema currency : String)
  scale : Nat
  tiers : List Decimal
  profiles : List Profile
  canonicalBytes : RawMessage
  (digest version : String)
  artifactID : Uuid
  deriving DecidableEq

/-- At most twelve fractional and twenty-six integer digits. -/
def validPolicyDecimal (value : Decimal) : Bool :=
  value.equal (value.round 12) && byteLength (trimPrefix (value.abs.truncate 0).toText "-") ≤ 26

def reviewedCapitalTiers : List Decimal := [500, 5000, 25000, 100000, 1000000, 5000000].map Decimal.newFromInt

def reviewedProfiles : List Profile := [
  { name := .cash
    initialLong := .newFromInt 1, initialShort := .zero
    maintenanceLong := .newFromInt 1, maintenanceShort := .zero
    maximumGross := .newFromInt 1, cashReserve := .zero
    allowShort := false, unlimited := false },
  { name := .portfolio
    initialLong := ⟨15, -2⟩, initialShort := ⟨3, -1⟩
    maintenanceLong := ⟨15, -2⟩, maintenanceShort := ⟨3, -1⟩
    maximumGross := .newFromInt 6, cashReserve := .zero
    allowShort := true, unlimited := false },
  { name := .regT
    initialLong := ⟨5, -1⟩, initialShort := ⟨15, -1⟩
    maintenanceLong := ⟨25, -2⟩, maintenanceShort := ⟨3, -1⟩
    maximumGross := .newFromInt 2, cashReserve := .zero
    allowShort := true, unlimited := false },
  { name := .stressUnlimited
    initialLong := .zero, initialShort := .zero
    maintenanceLong := .zero, maintenanceShort := .zero
    maximumGross := .zero, cashReserve := .zero
    allowShort := true, unlimited := true }]

def reviewedPolicyV1Input : PolicyInput where
  schema := policySchemaV1
  currency := "USD"
  scale := 12
  tiers := reviewedCapitalTiers
  profiles := reviewedProfiles

def Profile.amounts (profile : Profile) : List Decimal :=
  [profile.initialLong, profile.initialShort, profile.maintenanceLong, profile.maintenanceShort, profile.maximumGross,
    profile.cashReserve]

def validateProfile (profile : Profile) : Outcome Unit := do
  failIf (!profile.name.isValid) (.errorf "profile name %q is invalid" [profile.name.text])
  forEach (fun value => failIf (!validPolicyDecimal value || value.isNegative)
    (.errorf "profile %q has an invalid exact decimal" [profile.name.text])) profile.amounts

def sameProfile (left right : Profile) : Bool :=
  left.name == right.name && left.initialLong.equal right.initialLong && left.initialShort.equal right.initialShort &&
    left.maintenanceLong.equal right.maintenanceLong && left.maintenanceShort.equal right.maintenanceShort &&
    left.maximumGross.equal right.maximumGross && left.cashReserve.equal right.cashReserve &&
    left.allowShort == right.allowShort && left.unlimited == right.unlimited

def canonicalProfile (profile : Profile) : Bytes :=
  encodeObject [
    ("name", quote profile.name.text),
    ("initial_long", quote profile.initialLong.toText),
    ("initial_short", quote profile.initialShort.toText),
    ("maintenance_long", quote profile.maintenanceLong.toText),
    ("maintenance_short", quote profile.maintenanceShort.toText),
    ("maximum_gross", quote profile.maximumGross.toText),
    ("cash_reserve", quote profile.cashReserve.toText),
    ("allow_short", encodeBool profile.allowShort),
    ("unlimited", encodeBool profile.unlimited)]

def canonicalPolicy (schema currency : String) (scale : Int) (tiers : List Decimal) (profiles : List Profile) : Bytes :=
  encodeObject [
    ("schema", quote schema),
    ("currency", quote currency),
    ("scale", encodeInt scale),
    ("tiers", encodeArray (tiers.map fun tier => quote tier.toText)),
    ("profiles", encodeArray (profiles.map canonicalProfile))]

/-- Reordered tiers and profiles are accepted; other values than the reviewed ones are not. -/
def newPolicy (input : PolicyInput) : Outcome Policy := do
  failIf (input.schema != policySchemaV1) (.errorf "capital policy schema must be %q" [policySchemaV1])
  failIf (input.currency != "USD") (.errorf "capital policy currency must be USD" [])
  failIf (input.scale != 12) (.errorf "capital policy scale must be 12" [])
  failIf (input.tiers.length != 6) (.errorf "capital policy requires exactly six tiers" [])
  let tiers := input.tiers.insertionSort fun left right => ¬ right.lessThan left
  forEach (fun ((tier, want), index) => failIf (!validPolicyDecimal tier || !tier.equal want)
    (.errorf "capital policy tier %d is not the reviewed value" [itoa index])) (tiers.zip reviewedCapitalTiers).zipIdx
  failIf (input.profiles.length != 4) (.errorf "capital policy requires exactly four profiles" [])
  let profiles := input.profiles.insertionSort fun left right => ¬ right.name.text < left.name.text
  forEach (fun ((profile, want), index) => do
    wrapping "capital policy profile %d: %w" [itoa index] (validateProfile profile)
    failIf (!sameProfile profile want)
      (.errorf "capital policy profile %q does not match reviewed v1 economics" [profile.name.text]))
    (profiles.zip reviewedProfiles).zipIdx
  let canonicalBytes := canonicalPolicy input.schema input.currency input.scale tiers profiles
  let digest := sha256Hex canonicalBytes
  let version := input.schema ++ "@sha256:" ++ digest
  pure
    { schema := input.schema
      currency := input.currency
      scale := input.scale.toNat
      tiers := tiers
      profiles := profiles
      canonicalBytes := canonicalBytes
      digest := digest
      version := version
      artifactID := deterministicUUID policyArtifactDomain [version] }

/-! The accessors of a nil policy return zero values. -/

namespace Policy

def currencyOf (policy : Option Policy) : String := (policy.map currency).getD ""

def scaleOf (policy : Option Policy) : Nat := (policy.map scale).getD 0

def versionOf (policy : Option Policy) : String := (policy.map version).getD ""

def artifactIDOf (policy : Option Policy) : Uuid := (policy.map artifactID).getD Uuid.nil

def tiersOf (policy : Option Policy) : List Decimal := (policy.map tiers).getD []

def profileOf (policy : Option Policy) (name : MarginProfile) : Option Profile :=
  policy.bind fun policy => policy.profiles.find? fun profile => profile.name == name

end Policy

def policyHasTier (policy : Option Policy) (tier : Decimal) : Bool :=
  (Policy.tiersOf policy).any fun candidate => candidate.equal tier

def bindingIDDomain : String := "capital-policy-binding"

structure Binding where
  (id accountID policyArtifactID : Uuid)
  policyVersion : String
  tier : Decimal
  profile : MarginProfile
  environment : AccountEnvironment
  (startingCapital buyingPowerMultiplier : Decimal)
  (evidenceClass storageNamespace currency : String)
  createdAt : Instant
  deriving DecidableEq

namespace Binding

def validateEnvironment (b : Binding) (profile : Profile) : Outcome Unit :=
  match b.environment with
  | .paperScored =>
      failIf (b.evidenceClass != "promotion_evidence" || !hasPrefix b.storageNamespace "paper_scored/" ||
          b.profile == .stressUnlimited || profile.unlimited || !b.buyingPowerMultiplier.equal profile.maximumGross ||
          !b.buyingPowerMultiplier.isPositive)
        (.errorf "scored capital binding requires a matching finite promotion profile" [])
  | .paperStress =>
      failIf (b.evidenceClass != "synthetic_stress" || !hasPrefix b.storageNamespace "paper_stress/" ||
          b.profile != .stressUnlimited || !profile.unlimited || !b.buyingPowerMultiplier.isZero)
        (.errorf "stress capital binding requires isolated stress-unlimited facts" [])
  | _ => .error (.errorf "capital policy v1 supports paper-scored and paper-stress accounts only" [])

def validate (b : Binding) (account : Account) (policy : Option Policy) : Outcome Unit := do
  failIf policy.isNone (.errorf "capital binding policy is required" [])
  wrapping "capital binding account: %w" [] account.validate
  failIf (b.id == Uuid.nil || b.accountID == Uuid.nil || b.policyArtifactID == Uuid.nil)
    (.errorf "capital binding identity is required" [])
  failIf (b.policyVersion == "" || b.policyVersion != trimSpace b.policyVersion ||
      256 < byteLength b.policyVersion)
    (.errorf "capital binding policy version is invalid" [])
  failIf (b.createdAt.isZero || !b.createdAt.utc || !b.createdAt.equal b.createdAt.truncate)
    (.errorf "capital binding creation time must be UTC microsecond precision" [])
  failIf (b.accountID != account.id || b.policyArtifactID != Policy.artifactIDOf policy ||
      b.policyVersion != Policy.versionOf policy ||
      b.id != deterministicUUID bindingIDDomain [account.id.toText, Policy.versionOf policy])
    (.errorf "capital binding account or policy identity does not match" [])
  failIf (b.environment != account.environment || !b.startingCapital.equal account.startingCapital ||
      !b.buyingPowerMultiplier.equal account.buyingPowerMultiplier || b.profile != account.marginProfile ||
      b.evidenceClass != account.evidenceClass || b.storageNamespace != account.storageNamespace ||
      b.currency != account.baseCurrency)
    (.errorf "capital binding copied account facts do not match" [])
  failIf (b.currency != Policy.currencyOf policy || b.currency != "USD")
    (.errorf "capital binding currency is not supported by policy" [])
  failIf (!validPolicyDecimal b.tier || !b.tier.isPositive || !b.tier.equal b.startingCapital ||
      !policyHasTier policy b.tier)
    (.errorf "capital binding tier must equal one reviewed account starting-capital tier" [])
  match Policy.profileOf policy b.profile with
  | none => .error (.errorf "capital binding profile is not present in policy" [])
  | some profile => b.validateEnvironment profile

end Binding

/-- An unset creation time is read from the clock. -/
def newBinding (account : Account) (policy : Option Policy) (tier : Decimal) (profile : MarginProfile)
    (createdAt : Instant) (clock : Reading) : Outcome Binding := do
  failIf policy.isNone (.errorf "capital binding policy is required" [])
  wrapping "capital binding account: %w" [] account.validate
  let binding : Binding :=
    { id := deterministicUUID bindingIDDomain [account.id.toText, Policy.versionOf policy]
      accountID := account.id
      policyArtifactID := Policy.artifactIDOf policy
      policyVersion := Policy.versionOf policy
      tier := tier
      profile := profile
      environment := account.environment
      startingCapital := account.startingCapital
      buyingPowerMultiplier := account.buyingPowerMultiplier
      evidenceClass := account.evidenceClass
      storageNamespace := account.storageNamespace
      currency := account.baseCurrency
      createdAt := (if createdAt.isZero then clock.now else createdAt).normalize }
  binding.validate account policy
  pure binding

end Augr.Capital
