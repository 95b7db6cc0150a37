import Augr.Primitives

/-! The economic account and the check every consumer runs before using one. -/

set_option autoImplicit false

namespace Augr

open Foundation

inductive AccountEnvironment where
  | paperScored
  | paperStress
  | shadow
  | live
  | unrecognized (text : String)
  deriving DecidableEq, Repr

def AccountEnvironment.text : AccountEnvironment → String
  | .paperScored => "paper_scored"
  | .paperStress => "paper_stress"
  | .shadow => "shadow"
  | .live => "live"
  | .unrecognized text => text

def AccountEnvironment.isValid : AccountEnvironment → Bool
  | .unrecognized _ => false
  | _ => true

inductive MarginProfile where
  | cash
  | regT
  | portfolio
  | stressUnlimited
  | unrecognized (text : String)
  deriving DecidableEq, Repr

def MarginProfile.text : MarginProfile → String
  | .cash => "cash"
  | .regT => "reg_t"
  | .portfolio => "portfolio"
  | .stressUnlimited => "stress_unlimited"
  | .unrecognized text => text

def MarginProfile.isValid : MarginProfile → Bool
  | .unrecognized _ => false
  | _ => true

inductive AccountStatus where
  | active
  | paused
  | closed
  | unrecognized (text : String)
  deriving DecidableEq, Repr

def AccountStatus.isValid : AccountStatus → Bool
  | .unrecognized _ => false
  | _ => true

structure Account where
  id : Uuid
  name : String
  environment : AccountEnvironment
  (venue externalAccountID baseCurrency storageNamespace evidenceClass : String)
  (startingCapital buyingPowerMultiplier : Decimal)
  marginProfile : MarginProfile
  status : AccountStatus
  createdBy : String
  creationMetadata : RawMessage
  createdAt : Instant
  deriving DecidableEq

namespace Account

def expectedEvidence : AccountEnvironment → String
  | .paperScored => "promotion_evidence"
  | .paperStress => "synthetic_stress"
  | _ => "non_promotion"

def validate (a : Account) : Outcome Unit := do
  failIf (a.id == Uuid.nil) (.errorf "account ID is required" [])
  failIf (Text.trimSpace a.name == "" || Text.trimSpace a.venue == "")
    (.errorf "account name and venue are required" [])
  failIf (!a.environment.isValid || !a.marginProfile.isValid || !a.status.isValid)
    (.errorf "account environment, margin profile, or status is invalid" [])
  failIf (!isCurrencyUnit a.baseCurrency) (.errorf "account base currency must be a three-letter code" [])
  failIf (Text.trimSpace a.storageNamespace == "") (.errorf "account storage namespace is required" [])
  failIf ((a.environment == .paperScored || a.environment == .paperStress) &&
      !Text.hasPrefix a.storageNamespace (a.environment.text ++ "/"))
    (.errorf "paper account storage namespace must be environment scoped" [])
  failIf (!a.startingCapital.isPositive || !hasDecimalScaleAtMost a.startingCapital 8)
    (.errorf "account starting capital must be positive with at most 8 decimal places" [])
  failIf (a.buyingPowerMultiplier.isNegative || !hasDecimalScaleAtMost a.buyingPowerMultiplier 8)
    (.errorf "account buying-power multiplier must be non-negative with at most 8 decimal places" [])
  failIf (a.environment != .paperStress && !a.buyingPowerMultiplier.isPositive)
    (.errorf "non-stress account buying-power multiplier must be greater than zero" [])
  failIf (a.marginProfile == .stressUnlimited && a.environment != .paperStress)
    (.errorf "unlimited margin is restricted to stress accounts" [])
  failIf (a.environment == .paperStress && a.buyingPowerMultiplier.isZero && a.marginProfile != .stressUnlimited)
    (.errorf "zero buying-power multiplier requires the stress-unlimited margin profile" [])
  failIf (a.evidenceClass != expectedEvidence a.environment)
    (.errorf "account evidence class %q does not match environment %q" [a.evidenceClass, a.environment.text])
  failIf (Text.trimSpace a.createdBy == "" || a.createdAt.isZero) (.errorf "account creation identity is required" [])
  failIf (!hasPostgresTimestampPrecision a.createdAt)
    (.errorf "account creation time must use PostgreSQL microsecond precision" [])
  let _ ← normalizeJSONObject a.creationMetadata "account creation metadata"

theorem currency_of_validate {a : Account} (valid : a.validate = .ok ()) : isCurrencyUnit a.baseCurrency = true := by
  simp only [validate, failIf_bind_ok_iff] at valid
  simpa using valid.2.2.2.1

end Account

end Augr
