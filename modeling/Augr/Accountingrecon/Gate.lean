import Augr.Accountingrecon.Comparison

/-! The cutover gate: whether a window of whole days is covered by qualifying comparison runs. -/

set_option autoImplicit false

namespace Augr.Accountingrecon

open Foundation

structure CutoverGate where
  ready : Bool
  accountID : Uuid
  (throughDate evaluatedAt lastCompletedDate : Instant)
  requiredDays : Int
  runIDs : List Uuid
  reasons : List String

def dayNanos : Int := 86400000000000

def utcDay (value : Instant) : Instant := ⟨value.nanos - value.nanos % dayNanos, true⟩

def addDays (value : Instant) (days : Int) : Instant := ⟨value.nanos + days * dayNanos, value.utc⟩

/-- The layout `2006-01-02`. -/
def dateText (value : Instant) : String :=
  let (year, month, day) := Instant.civil (value.nanos / dayNanos)
  String.ofList (Instant.padded 4 year ++ '-' :: Instant.padded 2 month ++ '-' :: Instant.padded 2 day)

def resultReason (result : Result) : Option String :=
  if !result.status.valid || result.status == .unexplained || result.status == .notComparable then
    some "nonqualifying result status remains"
  else if result.status == .explained && result.explanation.isNone then some "explained result lacks reviewed evidence"
  else none

def seenRequired (results : List Result) : List String :=
  ((results.map Result.factKey).filter fun key => (requiredMetrics.map metricFactKey).contains key).dedup

def nonqualifyingReason (unicode : Unicode) (run : Run) (verifier : Run → Outcome Unit) : Option String :=
  if !(run.validate unicode).toBool then some "canonical run validation failed"
  else if run.synthetic then some "synthetic evidence cannot qualify"
  else if !run.legacy.any (·.positionCoverageComplete) || !run.ledger.any (·.positionCoverageComplete) then
    some "position coverage is incomplete"
  else if run.unexplainedCount != 0 || run.notComparableCount != 0 then
    some "unexplained or not-comparable results remain"
  else match run.results.findSome? resultReason with
  | some reason => some reason
  | none =>
    if (seenRequired run.results).length != requiredMetrics.length then some "required accounting metrics are incomplete"
    else if !(verifier run).toBool then some "run attestation is absent, unknown, revoked, or invalid"
    else none

/-- Why a run cannot be filed under its day, if it is too late. -/
def lateReason (lastCompletedDate throughDate : Instant) (run : Run) : Option String :=
  let day := utcDay run.asOf
  if day.after lastCompletedDate then
    some ("accounting evidence is later than the last completed UTC day: " ++ dateText day)
  else if day.after throughDate then some ("accounting evidence is later than through date: " ++ dateText day)
  else none

def conflicts (candidate other : Run) : Bool :=
  other.id != candidate.id || other.checksum != candidate.checksum || other.payloadBytes != candidate.payloadBytes ||
    other.attestationType != candidate.attestationType || other.attestationKeyID != candidate.attestationKeyID ||
    other.attestation != candidate.attestation

/-- The run that stands for a day, or why there is none. -/
def dayEvidence (unicode : Unicode) (verifier : Run → Outcome Unit) (filed : List Run) (day : Instant) : Except String Run :=
  let candidates := sortedBy (fun run => byteOrder run.id.toText)
    (filed.filter fun run => dateText (utcDay run.asOf) == dateText day)
  match candidates with
  | [] => .error ("missing qualifying accounting evidence for " ++ dateText day)
  | candidate :: others =>
      if others.any (conflicts candidate) then .error ("conflicting accounting evidence for " ++ dateText day)
      else match nonqualifyingReason unicode candidate verifier with
      | some reason => .error ("accounting evidence for " ++ dateText day ++ " is not qualifying: " ++ reason)
      | none => .ok candidate

def windowDays (throughDate : Instant) (requiredDays : Int) : List Instant :=
  (List.range requiredDays.toNat).map fun (index : Nat) => addDays throughDate (-(requiredDays - 1 - index))

def sameWindow (baseline run : Run) : Bool :=
  run.accountID == baseline.accountID && run.policyVersion == baseline.policyVersion &&
    run.projectionVersion == baseline.projectionVersion && run.markSource == baseline.markSource &&
    run.markNamespace == baseline.markNamespace && run.maxMarkAge == baseline.maxMarkAge

def selectedOf (found : List (Except String Run)) : List Run := found.filterMap Except.toOption

def refusedOf (found : List (Except String Run)) : List String :=
  found.filterMap fun
    | .error reason => some reason
    | .ok _ => none

def CutoverGate.verdict (gate : CutoverGate) (late : List String) (found : List (Except String Run)) : CutoverGate :=
  let selected := selectedOf found
  let gate := { gate with reasons := late ++ refusedOf found }
  if (selected.length : Int) != gate.requiredDays || gate.reasons.length != 0 then gate
  else match selected with
  | [] => gate
  | baseline :: _ =>
      let gate := { gate with
        accountID := baseline.accountID
        runIDs := (selected.takeWhile (sameWindow baseline)).map Run.id }
      if selected.all (sameWindow baseline) then { gate with ready := true }
      else { gate with reasons := ["accounting parity window changes account or comparison/mark policy"] }

def evaluateCutover (unicode : Unicode) (runs : List (Option Run)) (throughDate : Instant) (requiredDays : Int)
    (clock : Option Instant) (verifier : Option (Run → Outcome Unit)) : CutoverGate :=
  let gate : CutoverGate := ⟨false, Uuid.nil, throughDate, .zero, .zero, requiredDays, [], []⟩
  let refuse (reason : String) : CutoverGate := { gate with reasons := [reason] }
  if requiredDays ≤ 0 then refuse "required parity days must be positive"
  else if throughDate.isZero then refuse "through date is required"
  else if !throughDate.utc || throughDate.nanos % dayNanos != 0 then refuse "through date must be UTC midnight"
  else match verifier with
  | none => refuse "authenticated accounting evidence verifier is required"
  | some verify =>
    match clock with
    | none => refuse "trusted accounting evaluation clock is required"
    | some now =>
      if now.isZero then refuse "trusted accounting evaluation clock is required"
      else
        let lastCompletedDate := addDays (utcDay now) (-1)
        let gate := { gate with evaluatedAt := now.toUtc, lastCompletedDate := lastCompletedDate }
        if throughDate.after lastCompletedDate then
          { gate with
            reasons := ["through date is later than the last completed UTC day " ++ dateText lastCompletedDate] }
        else
          let present := runs.reduceOption
          let late := present.filterMap (lateReason lastCompletedDate throughDate)
          let filed := present.filter fun run => (lateReason lastCompletedDate throughDate run).isNone
          gate.verdict late ((windowDays throughDate requiredDays).map (dayEvidence unicode verify filed))

end Augr.Accountingrecon
